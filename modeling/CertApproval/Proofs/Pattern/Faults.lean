import CertApproval.Proofs.Pattern.Reads
import Mathlib.Algebra.Group.Nat.Defs

/-!
Why a text is no pattern. Main statement: a text fails to be read for a cause other than its form
only if it holds a number of repetitions that is too long or too large, or asks twice which
characters there are.
-/

namespace CertApproval.Pattern

variable {all lead : List Token}

namespace Reader

/-! ## Repetitions -/

theorem steady_bound? {digits : List Char} (numeral : Numeral all digits) :
    Steady all (bound? digits) := by
  unfold bound?
  split
  · exact .done
  · split
    case isTrue long =>
      exact .throw ⟨digits, numeral, long⟩
    case isFalse =>
      dsimp only
      split
      case isTrue large =>
        exact .throw ⟨digits, numeral, large⟩
      case isFalse =>
        exact .done

theorem reads_digits (count : Nat) :
    Reads all (At all lead) (takeWhile Char.isDigit count)
      fun digits reading => Numeral all digits ∧ At all [] reading := by
  refine (reads_takeWhile Char.isDigit count).mono (fun _ => id) ?_
  rintro digits reading ⟨each, place⟩
  refine ⟨⟨each, ?_⟩, place.anywhere⟩
  have holds : digits.map Token.plain <:+: lead ++ digits.map .plain ++ reading.rest :=
    ⟨lead, reading.rest, rfl⟩
  exact holds.trans place.suffix_tokens.isInfix

/-- The closing brace and the bounds before it. -/
theorem reads_boundsEnd {now : Reading} {low high : List Char} (here : At all [] now)
    (isLow : Numeral all low) (isHigh : Numeral all high) :
    Reads all (At all lead)
      (do
        if !(← accept '\x7d') then
          seek now.rest
          return none
        let least := (← bound? low).getD 0
        let most ← bound? high
        if most.any (· < least) then fail
        return some (least, most))
      fun _ => At all [] := by
  refine .bind (reads_accept _) fun closed => ?_
  cases closed with
  | false =>
      exact .bind ((reads_seek here.suffix_tokens).mono (fun _ => At.anywhere) fun _ _ => id)
        fun _ => .done
  | true =>
      refine .bind (steady_bound? isLow).later fun least => ?_
      refine .bind (steady_bound? isHigh) fun most => ?_
      dsimp only
      split
      · exact .fail
      · exact .done

theorem steady_braceBounds : Steady all braceBounds := by
  refine .look fun now here => ?_
  refine .bind reads_peek fun token => Reads.mono ?_ (fun _ => And.right) fun _ _ => id
  split
  · exact .done
  · refine .bind (reads_digits _) fun low => .given fun isLow => ?_
    refine .bind (reads_accept ',') fun comma => ?_
    split
    · refine .bind (reads_digits _) fun high => .given fun isHigh => ?_
      exact reads_boundsEnd here isLow isHigh
    · exact reads_boundsEnd here isLow isLow

theorem steady_bounds (sign : Char) : Steady all (bounds sign) := by
  unfold bounds
  split
  · exact .done
  · exact .done
  · exact .done
  · exact steady_braceBounds

theorem steady_eagerness : Steady all eagerness := by
  refine .bind (reads_accept '?') fun lazy => ?_
  split
  · exact .done
  · refine .bind (reads_accept '+') fun possessive => ?_
    split
    · exact .done
    · exact .done

theorem steady_repeatLast (done : List Node) (least : Nat) (most : Option Nat) :
    Steady all (repeatLast done least most) := by
  unfold repeatLast
  split
  · exact .fail
  · exact .fail
  · exact .fail
  · exact .bind steady_eagerness fun _ => .done

/-! ## Switches -/

theorem reads_flagsOn (fuel : Nat) (flag : Flag) (on : List Flag) :
    Reads all (At all lead) (flagsOn fuel flag on) fun result reading =>
      ∃ letters : List Char, (∀ c ∈ letters, (Flag.ofChar? c).isSome = true) ∧
        (∀ other ∈ result.1, other ∈ flag :: on ∨ ∃ c ∈ letters, Flag.ofChar? c = some other) ∧
        At all (lead ++ letters.map .plain ++ [.plain result.2]) reading := by
  induction fuel generalizing lead flag on with
  | zero =>
      exact .fail
  | succ fuel inductionHypothesis =>
      unfold flagsOn
      dsimp only
      split
      · exact .fail
      · refine .bind reads_require fun token => ?_
        split
        case h_1 c =>
          split
          · refine .pure fun reading place => ⟨[], by simp, fun _ => Or.inl, ?_⟩
            simpa using place
          · split
            case h_1 next letter =>
              refine (inductionHypothesis next (flag :: on)).mono (fun _ => id) ?_
              rintro ⟨turned, stop⟩ reading ⟨letters, areFlags, from_letters, place⟩
              refine ⟨c :: letters, ?_, ?_, by simpa using place⟩
              · exact List.forall_mem_cons.mpr ⟨Option.isSome_of_eq_some letter, areFlags⟩
              · intro other member
                rcases from_letters other member with earlier | ⟨d, isLetter, same⟩
                · rcases List.mem_cons.mp earlier with rfl | before
                  · exact Or.inr ⟨c, List.mem_cons_self, letter⟩
                  · exact Or.inl before
                · exact Or.inr ⟨d, List.mem_cons_of_mem c isLetter, same⟩
            case h_2 =>
              exact .fail
        case h_2 =>
          exact .fail

theorem steady_flagsOff (fuel : Nat) (off : List Flag) : Steady all (flagsOff fuel off) := by
  induction fuel generalizing off with
  | zero =>
      exact .fail
  | succ fuel inductionHypothesis =>
      refine .bind reads_require fun token => ?_
      split
      · split
        · exact .done
        · split
          · split
            · exact .fail
            · exact (inductionHypothesis _).later
          · exact .fail
      · exact .fail

/-- The switches that are turned off, after those that are turned on. -/
theorem reads_switchesEnd {fuel : Nat} {on : List Flag} {stop : Char}
    (asks : stop = ')' → ∀ flag ∈ on, Asks all flag) :
    Reads all (At all lead)
      (do
        if stop = ')' then
          modify fun reading => { reading with flags := on ++ reading.flags }
          return none
        if on.contains .template then fail
        let off ← if stop = '-' then flagsOff fuel [] else pure []
        if off.contains .template ∨ on.any off.contains then fail
        return some (on, off))
      fun _ => At all [] := by
  split
  case isTrue closes =>
    refine fun reading place => ⟨place.anywhere.suffix_tokens, ?_⟩
    intro flag member
    rcases List.mem_append.mp member with new | earlier
    · exact asks closes flag new
    · exact place.asks flag earlier
  case isFalse =>
    have checked (off : List Flag) :
        Reads all (At all [])
          (do
            if off.contains .template ∨ on.any off.contains then fail
            return some (on, off))
          fun _ => At all [] := by
      split
      · exact .fail
      · exact .done
    dsimp only
    split
    · exact .fail
    · split
      · exact .bind (steady_flagsOff _ _).later checked
      · exact .bind .done checked

/-- Switches for the whole pattern are those that their letters ask for. -/
theorem asks_of_letters {first : Char} {letters : List Char} {flag : Flag} {reading : Reading}
    (areFlags : ∀ c ∈ first :: letters, (Flag.ofChar? c).isSome = true)
    (isLetter : ∃ c ∈ first :: letters, Flag.ofChar? c = some flag)
    (place : At all ([.plain '(', .plain '?', .plain first] ++ letters.map .plain ++ [.plain ')'])
      reading) : Asks all flag := by
  refine ⟨first :: letters, areFlags, isLetter, ?_⟩
  have holds : ('(' :: '?' :: (first :: letters) ++ [')']).map Token.plain <:+:
      [.plain '(', .plain '?', .plain first] ++ letters.map .plain ++ [.plain ')'] ++
        reading.rest :=
    ⟨[], reading.rest, by simp⟩
  exact holds.trans place.suffix_tokens.isInfix

theorem reads_flagChange (first : Char) :
    Reads all (At all [.plain '(', .plain '?', .plain first]) (flagChange first)
      fun _ => At all [] := by
  refine .look fun now _ => ?_
  dsimp only
  split
  · have begins : '-' = ')' → ∀ flag ∈ ([] : List Flag), Asks all flag :=
      fun closes => absurd closes (by decide)
    exact reads_switchesEnd begins
  · split
    case h_1 flag letter =>
      refine .bind (reads_flagsOn _ flag []) fun ⟨on, stop⟩ => ?_
      rintro reading ⟨letters, areFlags, from_letters, place⟩
      refine reads_switchesEnd ?_ reading place
      rintro rfl other member
      have isFlag := Option.isSome_of_eq_some letter
      refine asks_of_letters (List.forall_mem_cons.mpr ⟨isFlag, areFlags⟩) ?_ place
      rcases from_letters other member with isFirst | ⟨c, isLetter, same⟩
      · rw [List.mem_singleton.mp isFirst]
        exact ⟨first, List.mem_cons_self, letter⟩
      · exact ⟨c, List.mem_cons_of_mem first isLetter, same⟩
    case h_2 =>
      exact .fail

/-! ## What opens after a bracket -/

theorem steady_comment (fuel : Nat) : Steady all (comment fuel) := by
  induction fuel with
  | zero =>
      exact .fail
  | succ fuel inductionHypothesis =>
      refine .bind reads_require fun token => ?_
      split
      · exact .done
      · exact inductionHypothesis.later

theorem steady_namedOpening : Steady all namedOpening := by
  refine .bind (reads_accept '<') fun isName => ?_
  split
  · refine .bind (steady_name _).later fun text => ?_
    split
    · exact .done
    · exact .fail
  · refine .bind (reads_accept '=') fun isReference => ?_
    split
    · refine .bind (steady_name _).later fun text => .bind (steady_groupNamed text) fun number => ?_
      exact .bind (steady_referTo number) fun _ => .done
    · exact .fail

theorem reads_opening : Reads all (At all [.plain '(']) opening fun _ => At all [] := by
  refine .bind (reads_accept '?') fun isSpecial => ?_
  cases isSpecial with
  | false =>
      exact .done
  | true =>
      have letter : Reads all (At all [.plain '(', .plain '?']) require _ := reads_require
      refine .bind letter fun token => ?_
      split
      · exact steady_namedOpening.later
      · exact .done
      · refine .look fun now _ => ?_
        exact .bind (steady_comment _).later fun _ => .done
      · exact .done
      · exact .done
      · refine .bind reads_require fun sign => ?_
        split
        · exact .done
        · exact .done
        · exact .fail
      · exact .done
      · exact .done
      · refine .bind (reads_flagChange _) fun change => ?_
        split
        · exact .done
        · exact .done
      · exact .fail

theorem steady_askedGroup : Steady all askedGroup := by
  refine .bind (steady_name _) fun text => ?_
  have checked (number : Nat) :
      Reads all (At all [])
        (do
          checkBehind number
          return number)
        fun _ => At all [] :=
    .bind (steady_checkBehind number) fun _ => .done
  split
  · exact .bind (steady_groupNamed text) checked
  · split
    · exact .fail
    · exact fun reading place => checked _ _ ⟨place.suffix_tokens, place.asks⟩
    · exact .fail

theorem steady_skipLine (fuel : Nat) : Steady all (skipLine fuel) := by
  induction fuel with
  | zero =>
      exact .done
  | succ fuel inductionHypothesis =>
      refine .bind reads_take fun token => ?_
      cases token with
      | none =>
          exact .done
      | some token =>
          dsimp only
          split
          · exact .done
          · exact inductionHypothesis.later

theorem steady_isSpaced : Steady all isSpaced :=
  .look fun _ _ => .done

/-! ## Whole patterns -/

/-- The readers that call each other may begin anywhere, with so much fuel. -/
structure SteadyAt (all : List Token) (fuel : Nat) : Prop where
  alternatives : ∀ spaced outer done, Steady all (alternatives fuel spaced outer done)
  sequence : ∀ spaced first done, Steady all (sequence fuel spaced first done)
  inside : ∀ spaced opened, Steady all (inside fuel spaced opened)

theorem SteadyAt.alternatives_succ {fuel : Nat} (steady : SteadyAt all fuel)
    (spaced outer : Bool) (done : List Node) :
    Steady all (Reader.alternatives (fuel + 1) spaced outer done) := by
  unfold Reader.alternatives
  refine .bind (steady.sequence _ _ _) fun node => .bind (reads_accept '|') fun another => ?_
  split
  · split
    · exact .bind steady_isSpaced.later fun spaced => steady.alternatives _ _ _
    · exact .bind .done fun spaced => steady.alternatives _ _ _
  · exact .done

/-- What follows a bracket within a sequence. -/
theorem SteadyAt.opened {fuel : Nat} (steady : SteadyAt all fuel) (spaced first : Bool)
    (done : List Node) :
    Reads all (At all [.plain '('])
      (do
        match ← opening with
        | .wholeSwitches =>
          if !first ∨ !done.isEmpty then fail
          Reader.sequence fuel (← isSpaced) first done
        | opened =>
          Reader.sequence fuel spaced first ((← Reader.inside fuel spaced opened) ++ done))
      fun _ => At all [] := by
  refine .bind reads_opening fun opened => ?_
  split
  · dsimp only
    split
    · exact .fail
    · exact .bind steady_isSpaced fun spaced => steady.sequence _ _ _
  · exact .bind (steady.inside _ _) fun nodes => steady.sequence _ _ _

theorem SteadyAt.sequence_succ {fuel : Nat} (steady : SteadyAt all fuel)
    (spaced first : Bool) (done : List Node) :
    Steady all (Reader.sequence (fuel + 1) spaced first done) := by
  unfold Reader.sequence
  refine .bind reads_peek fun token => ?_
  split
  case h_1 =>
    exact .pure fun _ place => place.2
  case h_2 =>
    exact .fail
  case h_3 c =>
    refine .bind reads_take_found fun _ => ?_
    refine Reads.mono ?_ (fun _ taken => taken.2.anywhere) fun _ _ => id
    exact .bind (steady_escape c) fun node => steady.sequence _ _ _
  case h_4 c =>
    split
    · exact .pure fun _ place => place.2
    · refine .bind reads_take_found fun _ => ?_
      refine Reads.mono ?_ (fun _ taken => taken.2) fun _ _ => id
      split
      · exact (steady.sequence _ _ _).later
      · split
        · refine .look fun now _ => ?_
          exact .bind (steady_skipLine _).later fun _ => steady.sequence _ _ _
        · split
          · exact .bind steady_set.later fun set => steady.sequence _ _ _
          · exact (steady.sequence _ _ _).later
          · exact (steady.sequence _ _ _).later
          · exact (steady.sequence _ _ _).later
          · exact steady.opened spaced first done
          · split
            · refine .bind (steady_bounds c).later fun bounds => ?_
              split
              · exact steady.sequence _ _ _
              · exact .bind (steady_repeatLast _ _ _) fun done => steady.sequence _ _ _
            · exact (steady.sequence _ _ _).later

theorem SteadyAt.inside_succ {fuel : Nat} (steady : SteadyAt all fuel)
    (spaced : Bool) (opened : Opening) :
    Steady all (Reader.inside (fuel + 1) spaced opened) := by
  have closed (spaced : Bool) (result : Node → List Node) :
      Steady all
        (do
          let body ← Reader.alternatives fuel spaced false []
          expect ')'
          return result body) :=
    .bind (steady.alternatives _ _ _) fun body => .bind (reads_expect ')') fun _ => .done
  cases opened with
  | complete nodes =>
      exact .done
  | wholeSwitches =>
      exact .done
  | capture name =>
      refine .bind (steady_openGroup name) fun number => ?_
      refine .bind (steady.alternatives _ _ _) fun body => .bind (reads_expect ')') fun _ => ?_
      exact .bind (steady_closeGroup number _).later fun _ => .done
  | plainGroup =>
      exact closed spaced fun body => [.switched {} body]
  | switches on off =>
      exact closed _ fun body => [.switched (Flag.change on off) body]
  | atomic =>
      exact closed spaced fun body => [.atomic body]
  | ahead negated =>
      exact closed spaced fun body => [.ahead negated body]
  | behind negated =>
      have unchanged (outer : Option Nat) : Steady all
          (modify fun reading => { reading with behindFrom := outer }) :=
        fun _ place => ⟨place.suffix_tokens, place.asks⟩
      refine .look fun now _ => ?_
      refine .bind steady_groupCount.later fun count => .bind (unchanged _) fun _ => ?_
      refine .bind (steady.alternatives _ _ _) fun body => .bind (unchanged _) fun _ => ?_
      exact .bind (reads_expect ')') fun _ => .done
  | condition =>
      have ended (number : Nat) (present missing : Node) : Steady all
          (do
            expect ')'
            return [Node.conditional number present missing]) :=
        .bind (reads_expect ')') fun _ => .done
      refine .bind steady_askedGroup fun number => .bind (steady.sequence _ _ _) fun present => ?_
      refine .bind (reads_accept '|') fun another => ?_
      split
      · refine .bind (steady.sequence _ _ _).later fun missing => .bind reads_peek fun next => ?_
        refine Reads.mono ?_ (fun _ => And.right) fun _ _ => id
        split
        · exact .fail
        · exact ended _ _ _
      · exact Steady.later (ended _ _ _)

theorem steadyAt (fuel : Nat) : SteadyAt all fuel := by
  induction fuel with
  | zero =>
      exact ⟨fun _ _ _ => .fail, fun _ _ _ => .fail, fun _ _ => .fail⟩
  | succ fuel inductionHypothesis =>
      exact ⟨inductionHypothesis.alternatives_succ, inductionHypothesis.sequence_succ,
        inductionHypothesis.inside_succ⟩

theorem steady_whole : Steady all whole := by
  refine .look fun now place => ?_
  refine .bind ((reads_seek place.suffix_tokens).mono (fun _ => id) fun _ _ => id) fun _ => ?_
  refine .look fun now _ => ?_
  refine .bind ((steadyAt _).alternatives _ _ _) fun node => ?_
  refine .look fun now place => ?_
  refine .ite (fun both => ?_) fun _ => ?_
  · have twice : Explained all .conflictingSwitches :=
      ⟨place.asks _ (List.contains_iff_mem.mp both.1),
        place.asks _ (List.contains_iff_mem.mp both.2)⟩
    exact .throw twice
  · refine .ite (fun _ => .fail) fun _ => ?_
    refine .ite (fun _ => .fail) fun _ => ?_
    refine .ite (fun _ => .fail) fun _ => ?_
    exact .ite (fun _ => .fail) fun _ => .done

end Reader

/-! ## Texts -/

/-- The characters of a token. -/
def Token.written : Token → List Char
  | .plain c => [c]
  | .escaped c => ['\\', c]
  | .dangling => ['\\']

theorem written_tokens (characters : List Char) :
    (tokens characters).flatMap Token.written = characters := by
  induction characters using tokens.induct with
  | case1 =>
      rfl
  | case2 =>
      rfl
  | case3 c rest inductionHypothesis =>
      simpa [tokens, Token.written] using inductionHypothesis
  | case4 c rest notLast notEscape inductionHypothesis =>
      rw [tokens.eq_4 c rest notLast notEscape]
      simpa [Token.written] using inductionHypothesis

/-- Plain tokens next to each other stand for characters next to each other. -/
theorem isInfix_of_tokens {characters text : List Char}
    (holds : characters.map Token.plain <:+: tokens text) : characters <:+: text := by
  obtain ⟨left, right, parts⟩ := holds
  have plain : (characters.map Token.plain).flatMap Token.written = characters := by
    simp [List.flatMap_map, Token.written]
  refine ⟨left.flatMap Token.written, right.flatMap Token.written, ?_⟩
  rw [← written_tokens text, ← parts, List.flatMap_append, List.flatMap_append, plain]

/-- Whether a text holds digits that are too many, or that denote too large a number, for a number
of repetitions. -/
def Overlong (text : String) : Prop :=
  ∃ digits : List Char, (∀ c ∈ digits, c.isDigit = true) ∧ digits <:+: text.toList ∧
    (Width.unboundedCount ≤ Reader.numeral 10 digits ∨ Reader.digitLimit < digits.length)

theorem Reader.foldl_numeral_lt {digits : List Char} (areDigits : ∀ c ∈ digits, c.isDigit = true)
    (start : Nat) :
    digits.foldl (fun value c => value * 10 + (Text.hexDigit? c).getD 0) start <
      (start + 1) * 10 ^ digits.length := by
  induction digits generalizing start with
  | nil =>
      simp
  | cons c digits inductionHypothesis =>
      have isDigit : '0' ≤ c ∧ c ≤ '9' := by
        simpa [Char.isDigit, Char.le_def] using areDigits c List.mem_cons_self
      have small : (Text.hexDigit? c).getD 0 < 10 := by
        have above : '0'.toNat ≤ c.toNat := isDigit.1
        have below : c.toNat ≤ '9'.toNat := isDigit.2
        simp only [Text.hexDigit?, isDigit, and_self, if_true, Option.getD_some]
        have nine : '9'.toNat = '0'.toNat + 9 := by decide
        omega
      have rest := inductionHypothesis (fun d member => areDigits d (List.mem_cons_of_mem c member))
        (start * 10 + (Text.hexDigit? c).getD 0)
      have grown : start * 10 + (Text.hexDigit? c).getD 0 + 1 ≤ (start + 1) * 10 := by omega
      calc
        _ < (start * 10 + (Text.hexDigit? c).getD 0 + 1) * 10 ^ digits.length := rest
        _ ≤ (start + 1) * 10 * 10 ^ digits.length := Nat.mul_le_mul_right _ grown
        _ = (start + 1) * 10 ^ (c :: digits).length := by
          rw [List.length_cons, Nat.pow_succ', Nat.mul_assoc]

/-- A text without ten digits next to each other has no number that is too long. -/
theorem not_overlong {text : String}
    (short : ∀ digits : List Char, (∀ c ∈ digits, c.isDigit = true) → digits <:+: text.toList →
      digits.length < 10) : ¬Overlong text := by
  rintro ⟨digits, areDigits, holds, large | long⟩
  · have length : digits.length ≤ 9 := Nat.le_of_lt_succ (short digits areDigits holds)
    have below : Reader.numeral 10 digits < 10 ^ 9 := by
      have power := Nat.pow_le_pow_right (n := 10) (by decide) length
      have value := Reader.foldl_numeral_lt areDigits 0
      rw [Nat.zero_add, Nat.one_mul] at value
      exact value.trans_le power
    have bound : 10 ^ 9 ≤ Width.unboundedCount := by decide
    omega
  · have length := short digits areDigits holds
    have bound : 10 ≤ Reader.digitLimit := by decide
    omega

/-- Whether a text holds switches for the whole pattern, a given one among them. -/
def AsksFor (text : String) (flag : Flag) : Prop :=
  ∃ letters : List Char, (∀ c ∈ letters, (Flag.ofChar? c).isSome = true) ∧
    (∃ c ∈ letters, Flag.ofChar? c = some flag) ∧
    '(' :: '?' :: letters ++ [')'] <:+: text.toList

theorem Numeral.overlong {text : String} {digits : List Char}
    (standing : Numeral (tokens text.toList) digits)
    (tooMuch : Width.unboundedCount ≤ Reader.numeral 10 digits ∨
      Reader.digitLimit < digits.length) : Overlong text :=
  ⟨digits, standing.isDigit, isInfix_of_tokens standing.infix_tokens, tooMuch⟩

theorem Asks.asksFor {text : String} {flag : Flag} (asks : Asks (tokens text.toList) flag) :
    AsksFor text flag := by
  obtain ⟨letters, areFlags, asked, holds⟩ := asks
  exact ⟨letters, areFlags, asked, isInfix_of_tokens holds⟩

theorem compile_explained {naming : Naming} {text : String} {fault : PatternFault}
    (fails : compile naming text = .error fault) : Explained (tokens text.toList) fault := by
  have came := Reader.steady_whole { naming, rest := tokens text.toList }
    ⟨List.suffix_rfl, fun _ member => absurd member List.not_mem_nil⟩
  unfold compile at fails
  cases result : Reader.whole.run { naming, rest := tokens text.toList } with
  | error other =>
      rw [result] at came fails
      obtain rfl := Except.error.inj fails
      exact came
  | ok outcome =>
      rw [result] at fails
      cases fails

/-- Why a text is no pattern. -/
def fault? (naming : Naming) (text : String) : Option PatternFault :=
  match compile naming text with
  | .ok _ => none
  | .error fault => some fault

theorem fault?_eq_some {naming : Naming} {text : String} {fault : PatternFault} :
    fault? naming text = some fault ↔ compile naming text = .error fault := by
  unfold fault?
  cases compile naming text with
  | ok pattern =>
      simp
  | error other =>
      simp

/-- Reading fails for the form of the text alone, but for too long a number or switches that
exclude each other. -/
theorem compile_malformed {naming : Naming} {text : String} {fault : PatternFault}
    (fails : compile naming text = .error fault) (short : ¬Overlong text)
    (consistent : ¬(AsksFor text .ascii ∧ AsksFor text .unicode)) : fault = .malformed := by
  have explained := compile_explained fails
  cases fault with
  | malformed =>
      rfl
  | countTooLarge =>
      obtain ⟨digits, standing, large⟩ := explained
      exact absurd (standing.overlong (.inl large)) short
  | numeralTooLong =>
      obtain ⟨digits, standing, long⟩ := explained
      exact absurd (standing.overlong (.inr long)) short
  | conflictingSwitches =>
      exact absurd (explained.imp Asks.asksFor Asks.asksFor) consistent

end CertApproval.Pattern
