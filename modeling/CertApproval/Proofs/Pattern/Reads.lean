import CertApproval.Pattern.Reader
import Mathlib.Data.List.Infix

/-!
Reading patterns step by step. Of a reader it is said where it ends if it begins at a given place
among the tokens, and that the tokens account for its failures. Main statements: this is kept when
readers follow each other, and the readers of groups, escapes and sets may begin anywhere.
-/

namespace CertApproval.Pattern

/-! ## What a text holds -/

/-- Whether digits stand next to each other among tokens. -/
structure Numeral (all : List Token) (digits : List Char) : Prop where
  isDigit : ∀ c ∈ digits, c.isDigit = true
  infix_tokens : digits.map Token.plain <:+: all

/-- Whether switches for the whole pattern are asked for among tokens, one of them a given one. -/
def Asks (all : List Token) (flag : Flag) : Prop :=
  ∃ letters : List Char, (∀ c ∈ letters, (Flag.ofChar? c).isSome = true) ∧
    (∃ c ∈ letters, Flag.ofChar? c = some flag) ∧
    ('(' :: '?' :: letters ++ [')']).map Token.plain <:+: all

/-- Whether tokens account for a fault. The form of a text is not looked into. -/
def Explained (all : List Token) : PatternFault → Prop
  | .malformed => True
  | .countTooLarge =>
      ∃ digits, Numeral all digits ∧ Width.unboundedCount ≤ Reader.numeral 10 digits
  | .numeralTooLong => ∃ digits, Numeral all digits ∧ Reader.digitLimit < digits.length
  | .conflictingSwitches => Asks all .ascii ∧ Asks all .unicode

/-- Whether reading has come to a place right after some tokens, and has taken over no switch that
was not asked for. -/
structure At (all lead : List Token) (reading : Reading) : Prop where
  suffix_tokens : lead ++ reading.rest <:+ all
  asks : ∀ flag ∈ reading.flags, Asks all flag

variable {all lead : List Token}

theorem At.skip {skipped : List Token} {reading : Reading}
    (place : At all (skipped ++ lead) reading) : At all lead reading := by
  refine ⟨?_, place.asks⟩
  have longer := place.suffix_tokens
  rw [List.append_assoc] at longer
  exact (List.suffix_append skipped _).trans longer

theorem At.anywhere {reading : Reading} (place : At all lead reading) : At all [] reading := by
  rw [← List.append_nil lead] at place
  exact place.skip

namespace Reader

variable {α β : Type} {before : Reading → Prop}

/-- Whether a reader that begins where `before` holds ends where `after` holds, or fails for a cause
that the tokens account for. -/
def Reads (all : List Token) (before : Reading → Prop) (reader : Reader α)
    (after : α → Reading → Prop) : Prop :=
  ∀ reading, before reading →
    match reader.run reading with
    | .ok (value, later) => after value later
    | .error fault => Explained all fault

/-- Whether a reader may begin anywhere. -/
def Steady (all : List Token) (reader : Reader α) : Prop :=
  Reads all (At all []) reader fun _ => At all []

namespace Reads

variable {reader : Reader α} {next : α → Reader β} {after between : α → Reading → Prop}
  {last : β → Reading → Prop}

theorem pure {value : α} (holds : ∀ reading, before reading → after value reading) :
    Reads all before (Pure.pure value) after :=
  fun reading begun => holds reading begun

theorem fail : Reads all before (Reader.fail : Reader α) after :=
  fun _ _ => trivial

theorem throw {fault : PatternFault} (explained : Explained all fault) :
    Reads all before (MonadExcept.throw fault : Reader α) after :=
  fun _ _ => explained

theorem bind (first : Reads all before reader between)
    (rest : ∀ value, Reads all (between value) (next value) last) :
    Reads all before (reader >>= next) last := by
  intro reading begun
  have came := first reading begun
  rw [StateT.run_bind]
  cases result : reader.run reading with
  | error fault =>
      rw [result] at came
      exact came
  | ok outcome =>
      rw [result] at came
      exact rest outcome.1 outcome.2 came

theorem ite {condition : Prop} [Decidable condition] {refused : Reader α}
    (fails : condition → Reads all before refused after)
    (reads : ¬condition → Reads all before reader after) :
    Reads all before (if condition then refused else reader) after := by
  split
  case isTrue held =>
    exact fails held
  case isFalse notHeld =>
    exact reads notHeld

/-- What is known of a state holds of the state that is looked at. -/
theorem get_bind {next : Reading → Reader β}
    (rest : ∀ now, before now → Reads all (· = now) (next now) last) :
    Reads all before (MonadState.get >>= next) last :=
  fun reading begun => rest reading begun reading rfl

/-- Looking at the state changes nothing. -/
theorem look {next : Reading → Reader β}
    (rest : ∀ now, before now → Reads all before (next now) last) :
    Reads all before (MonadState.get >>= next) last :=
  fun reading begun => rest reading begun reading begun

theorem given {fact : Prop} (reads : fact → Reads all before reader after) :
    Reads all (fun reading => fact ∧ before reading) reader after :=
  fun reading begun => reads begun.1 reading begun.2

theorem mono {earlier : Reading → Prop} {later : α → Reading → Prop}
    (reads : Reads all before reader after) (begins : ∀ reading, earlier reading → before reading)
    (ends : ∀ value reading, after value reading → later value reading) :
    Reads all earlier reader later := by
  intro reading begun
  have came := reads reading (begins reading begun)
  cases result : reader.run reading with
  | error fault =>
      rw [result] at came
      exact came
  | ok outcome =>
      rw [result] at came
      exact ends outcome.1 outcome.2 came

end Reads

theorem Steady.later {reader : Reader α} (steady : Steady all reader) :
    Reads all (At all lead) reader fun _ => At all [] :=
  steady.mono (fun _ => At.anywhere) fun _ _ => id

theorem Reads.done {value : α} : Reads all (At all lead) (Pure.pure value) fun _ => At all [] :=
  .pure fun _ => At.anywhere

/-! ## Tokens -/

theorem reads_peek :
    Reads all (At all lead) peek
      fun token reading => token = reading.rest.head? ∧ At all lead reading :=
  fun _ place => ⟨rfl, place⟩

theorem reads_seek {rest : List Token} (suffix : lead ++ rest <:+ all) :
    Reads all (At all []) (seek rest) fun _ => At all lead := by
  unfold seek
  split
  · exact .fail
  · exact fun reading place => ⟨suffix, place.asks⟩

theorem reads_take_found {found : Option Token} :
    Reads all (fun reading => found = reading.rest.head? ∧ At all lead reading) take
      fun token reading => token = found ∧ At all (lead ++ found.toList) reading := by
  refine .get_bind fun now ⟨isFound, place⟩ => ?_
  subst isFound
  split
  case h_1 none =>
    refine .pure fun reading same => ?_
    subst same
    simpa [none] using place
  case h_2 token rest first =>
    have suffix : (lead ++ [token]) ++ rest <:+ all := by
      simpa [first] using place.suffix_tokens
    refine .bind ((reads_seek suffix).mono ?_ fun _ _ => id) fun _ => .pure fun reading taken => ?_
    · rintro reading rfl
      exact place.anywhere
    · simpa [first] using taken

theorem reads_take :
    Reads all (At all lead) take fun token => At all (lead ++ token.toList) := by
  intro reading place
  exact (reads_take_found.mono (fun _ => id) fun token reading ⟨same, later⟩ => same ▸ later)
    reading ⟨rfl, place⟩

theorem reads_require : Reads all (At all lead) require fun token => At all (lead ++ [token]) := by
  refine .bind reads_take fun token => ?_
  cases token with
  | none =>
      exact .fail
  | some token =>
      exact .pure fun _ => id

theorem reads_accept (c : Char) :
    Reads all (At all lead) (accept c)
      fun accepted => At all (if accepted then lead ++ [.plain c] else lead) := by
  refine .bind reads_peek fun token => ?_
  split
  case isTrue isNext =>
    subst isNext
    exact .bind reads_take_found fun _ => .pure fun _ taken => taken.2
  case isFalse =>
    exact .pure fun _ place => place.2

theorem reads_expect (c : Char) :
    Reads all (At all lead) (expect c) fun _ => At all (lead ++ [.plain c]) := by
  refine .bind (reads_accept c) fun accepted => ?_
  cases accepted with
  | true =>
      exact .pure fun _ => id
  | false =>
      exact .fail

theorem reads_takeWhile (holds : Char → Bool) (count : Nat) :
    Reads all (At all lead) (takeWhile holds count) fun characters reading =>
      (∀ c ∈ characters, holds c = true) ∧ At all (lead ++ characters.map .plain) reading := by
  induction count generalizing lead with
  | zero =>
      exact .pure fun reading place => by simpa using place
  | succ count inductionHypothesis =>
      refine .bind reads_peek fun token => ?_
      have none : Reads all (fun reading => token = reading.rest.head? ∧ At all lead reading)
          (Pure.pure []) fun characters reading =>
            (∀ c ∈ characters, holds c = true) ∧ At all (lead ++ characters.map .plain) reading :=
        .pure fun reading place => by simpa using place.2
      split
      case h_1 c =>
        split
        case isTrue held =>
          refine .bind reads_take_found fun _ => ?_
          refine .bind (inductionHypothesis.mono (fun _ taken => taken.2) fun _ _ => id) ?_
          intro characters
          refine .pure fun reading ⟨each, place⟩ => ⟨?_, by simpa using place⟩
          exact List.forall_mem_cons.mpr ⟨held, each⟩
        case isFalse =>
          exact none
      case h_2 =>
        exact none

theorem steady_takeUntil (terminator : Char) (fuel : Nat) :
    Steady all (takeUntil terminator fuel) := by
  induction fuel with
  | zero =>
      exact .fail
  | succ fuel inductionHypothesis =>
      refine .bind reads_require fun token => ?_
      cases token with
      | plain c =>
          dsimp only
          split
          · exact .done
          · exact .bind inductionHypothesis.later fun _ => .done
      | escaped c =>
          exact .bind inductionHypothesis.later fun _ => .done
      | dangling =>
          exact .fail

theorem steady_name (terminator : Char) : Steady all (name terminator) := by
  refine .look fun now _ => ?_
  refine .bind (steady_takeUntil terminator _) fun text => ?_
  split
  · exact .fail
  · exact .done

/-! ## Groups -/

theorem steady_groupCount : Steady all groupCount :=
  .look fun _ _ => .done

theorem steady_closedWidth? (number : Nat) : Steady all (closedWidth? number) := by
  unfold closedWidth?
  split
  · exact .done
  · exact .look fun _ _ => .done

theorem steady_checkBehind (number : Nat) : Steady all (checkBehind number) := by
  refine .look fun now _ => ?_
  split
  · exact .done
  · refine .bind (steady_closedWidth? number) fun width => ?_
    split
    · exact .fail
    · exact .done

theorem steady_referTo (number : Nat) : Steady all (referTo number) := by
  refine .bind (steady_closedWidth? number) fun width => ?_
  split
  · exact .fail
  · exact .bind (steady_checkBehind number) fun _ => .done

theorem steady_groupNamed (text : List Char) : Steady all (groupNamed text) := by
  unfold groupNamed
  split
  · exact .fail
  · refine .look fun now _ => ?_
    split
    · exact .done
    · exact .fail

theorem steady_openGroup (name : Option (List Char)) : Steady all (openGroup name) := by
  refine .bind steady_groupCount fun number => .get_bind fun now place => ?_
  have opened (names : List (String × Nat)) :
      Reads all (· = now)
        (do
          MonadStateOf.set { now with groups := now.groups ++ [none], names }
          return number)
        fun _ => At all [] :=
    fun _ _ => ⟨place.suffix_tokens, place.asks⟩
  split
  · exact opened now.names
  · dsimp only
    split
    · exact .fail
    · exact opened _

theorem steady_closeGroup (number : Nat) (width : Width) : Steady all (closeGroup number width) :=
  fun _ place => ⟨place.suffix_tokens, place.asks⟩

/-! ## Escapes -/

theorem steady_takeWhile (holds : Char → Bool) (count : Nat) :
    Steady all (takeWhile holds count) :=
  (reads_takeWhile holds count).mono (fun _ => id) fun _ _ ⟨_, place⟩ => place.anywhere

theorem steady_hexDigits (count : Nat) : Steady all (hexDigits count) := by
  refine .bind (steady_takeWhile isHex count) fun digits => ?_
  split
  · exact .done
  · exact .fail

theorem steady_numbered? (c : Char) : Steady all (numbered? c) := by
  unfold numbered?
  split
  · exact .bind (steady_hexDigits 2) fun _ => .done
  · exact .bind (steady_hexDigits 4) fun _ => .done
  · refine .bind (steady_hexDigits 8) fun code => ?_
    split
    · exact .fail
    · exact .done
  · refine .bind (reads_expect _) fun _ => .look fun _ _ => ?_
    refine .bind (steady_name _).later fun text => ?_
    split
    · exact .done
    · exact .fail
  · exact .done

theorem steady_itself (c : Char) : Steady all (itself c) := by
  unfold itself
  split
  · exact .fail
  · exact .done

theorem steady_setEscape (c : Char) : Steady all (setEscape c) := by
  unfold setEscape
  split
  · exact .done
  · exact .done
  · refine .bind (steady_numbered? c) fun code => ?_
    split
    · exact .done
    · split
      · refine .bind (steady_takeWhile isOctal 2) fun digits => ?_
        dsimp only
        split
        · exact .fail
        · exact .done
      · split
        · exact .fail
        · exact .bind (steady_itself c) fun _ => .done

theorem steady_digitEscape (c : Char) : Steady all (digitEscape c) := by
  unfold digitEscape
  split
  · exact .bind (steady_takeWhile isOctal 2) fun _ => .done
  · refine .bind (steady_takeWhile Char.isDigit 1) fun second => ?_
    split
    · refine .bind (steady_takeWhile isOctal 1) fun third => ?_
      split
      · exact steady_referTo _
      · dsimp only
        split
        · exact .fail
        · exact .done
    · exact steady_referTo _

theorem steady_escape (c : Char) : Steady all (escape c) := by
  unfold escape
  split
  · exact .done
  · exact .done
  · exact .done
  · refine .bind (steady_numbered? c) fun code => ?_
    split
    · exact .done
    · split
      · exact steady_digitEscape c
      · exact .bind (steady_itself c) fun _ => .done

/-! ## Sets -/

theorem steady_setMember (token : Token) : Steady all (setMember token) := by
  cases token with
  | plain c =>
      exact .done
  | escaped c =>
      exact steady_setEscape c
  | dangling =>
      exact .fail

theorem steady_setItems (fuel : Nat) (done : List SetItem) : Steady all (setItems fuel done) := by
  induction fuel generalizing done with
  | zero =>
      exact .fail
  | succ fuel inductionHypothesis =>
      refine .bind reads_require fun token => ?_
      split
      · exact .done
      · refine .bind (steady_setMember token).later fun first => ?_
        refine .bind (reads_accept '-') fun hyphen => ?_
        split
        · refine .bind reads_require fun token => ?_
          split
          · exact .done
          · refine .bind (steady_setMember token).later fun second => ?_
            split
            · split
              · exact .fail
              · exact inductionHypothesis _
            · exact .fail
        · exact (inductionHypothesis _).later

theorem steady_set : Steady all set := by
  refine .bind (reads_accept '^') fun negated => .look fun now _ => ?_
  refine .bind (steady_setItems _ []).later fun items => ?_
  split
  · exact .done
  · exact .done

end Reader

end CertApproval.Pattern
