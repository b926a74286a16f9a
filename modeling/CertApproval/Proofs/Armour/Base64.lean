import CertApproval.Base64
import CertApproval.Proofs.Bytes
import Mathlib.Data.List.TakeWhile

/-!
Base-64 text that was written is read back. Main statements: both readers give the bytes that
were written; and the strict one reads a text exactly if it is a body of the alphabet with the
padding that completes its last group.
-/

namespace CertApproval.Base64

/-! ## Characters -/

theorem value?_char (value : Nat) (small : value < 64) : value? (char value) = some value := by
  have all : ∀ value < 64, value? (char value) = some value := by decide +kernel
  exact all value small

theorem value?_padding : value? padding = none := by
  decide

theorem char_mem (value : Nat) : char value ∈ padding :: alphabet := by
  rw [char, List.getD_eq_getElem?_getD]
  cases found : alphabet[value]? with
  | none =>
      decide +kernel
  | some c =>
      exact List.mem_cons_of_mem padding (List.mem_of_getElem? found)

/-- The characters that have values are those of the alphabet. -/
theorem isSome_value? (c : Char) : (value? c).isSome = true ↔ c ∈ alphabet := by
  have plain : ∀ code < 128, (value? (Char.ofNat code)).isSome = true ↔
      Char.ofNat code ∈ alphabet := by
    decide +kernel
  by_cases small : c.toNat < 128
  · simpa using plain c.toNat small
  · have plainAlphabet : (alphabet.all fun c => c.toNat < 128) = true := by
      decide +kernel
    have valueless : value? c = none := by
      have above (bound : Char) (low : bound.toNat < 128) : ¬c ≤ bound := fun below =>
        small (Nat.lt_of_le_of_lt (Char.le_def.mp below) low)
      have other (bound : Char) (low : bound.toNat < 128) : c ≠ bound :=
        fun same => small (same ▸ low)
      simp [value?, above 'Z' (by decide), above 'z' (by decide), above '9' (by decide),
        other '+' (by decide), other '/' (by decide)]
    have outside : c ∉ alphabet := fun member =>
      small (of_decide_eq_true (List.all_eq_true.mp plainAlphabet c member))
    simp [valueless, outside]

/-- What is written consists of the characters of the alphabet and of padding. -/
theorem mem_of_mem_encode {bytes : Bytes} {c : Char} (member : c ∈ encode bytes) :
    c ∈ padding :: alphabet := by
  fun_induction encode bytes with
  | case1 first second third rest group inductionHypothesis =>
      rcases List.mem_append.mp member with inGroup | inRest
      · simp only [List.mem_cons, List.not_mem_nil, or_false] at inGroup
        rcases inGroup with rfl | rfl | rfl | rfl <;> exact char_mem _
      · exact inductionHypothesis inRest
  | case2 first second group =>
      simp only [List.mem_cons, List.not_mem_nil, or_false] at member
      rcases member with rfl | rfl | rfl | rfl
      · exact char_mem _
      · exact char_mem _
      · exact char_mem _
      · exact List.mem_cons_self
  | case3 first =>
      simp only [List.mem_cons, List.not_mem_nil, or_false] at member
      rcases member with rfl | rfl | rfl | rfl
      · exact char_mem _
      · exact char_mem _
      · exact List.mem_cons_self
      · exact List.mem_cons_self
  | case4 =>
      cases member

/-! ## Groups -/

theorem quad_group (first second third : UInt8) :
    let group := (first.toNat * 256 + second.toNat) * 256 + third.toNat
    quad (group / 262144) (group / 4096 % 64) (group / 64 % 64) (group % 64) =
      [first, second, third] := by
  intro group
  have value : ((group / 262144 * 64 + group / 4096 % 64) * 64 + group / 64 % 64) * 64 +
      group % 64 = Bytes.toNat [first, second, third] := by
    have whole : Bytes.toNat [first, second, third] = group := by
      simp [Bytes.toNat, group]
    rw [whole]
    omega
  rw [quad, value]
  exact Bytes.ofNat_toNat [first, second, third]

/-- Full groups are read up to the last group, which is short or empty. -/
theorem readQuads_encode (bytes : Bytes) :
    ∃ full last, bytes = full ++ last ∧ last.length < 3 ∧
      readQuads (encode bytes) = (full, encode last) := by
  fun_induction encode bytes with
  | case1 first second third rest group inductionHypothesis =>
      obtain ⟨full, last, rfl, short, read⟩ := inductionHypothesis
      refine ⟨first :: second :: third :: full, last, rfl, short, ?_⟩
      have bound : group < 16777216 := by
        have := first.toNat_lt
        have := second.toNat_lt
        have := third.toNat_lt
        omega
      have value₁ := value?_char (group / 262144) (by omega)
      have value₂ := value?_char (group / 4096 % 64) (by omega)
      have value₃ := value?_char (group / 64 % 64) (by omega)
      have value₄ := value?_char (group % 64) (by omega)
      simp only [List.cons_append, List.nil_append, readQuads, value₁, value₂, value₃, value₄, read]
      rw [quad_group]
      rfl
  | case2 first second group =>
      refine ⟨[], [first, second], rfl, by simp, ?_⟩
      simp only [encode, readQuads, value?_padding]
      split <;> simp_all [group]
  | case3 first =>
      refine ⟨[], [first], rfl, by simp, ?_⟩
      simp only [encode, readQuads, value?_padding]
      split <;> simp_all
  | case4 =>
      exact ⟨[], [], rfl, by simp, rfl⟩

/-! ## Reading what was written -/

/-- The characters of a last group that have values, and the padding after them. -/
structure EndsWith (last : Bytes) (values : List Char) : Prop where
  spoken : (encode last).takeWhile (fun c => (value? c).isSome) = values
  empty : values = [] ↔ last = []
  padded : ((encode last).drop values.length).all (· = padding) = true
  complete : last ≠ [] → values.length + ((encode last).drop values.length).length = 4
  tail : tail? (values.filterMap value?) = some (last, 0)

theorem endsWith_one (first : UInt8) :
    EndsWith [first] [char (first.toNat / 4), char (first.toNat % 4 * 16)] := by
  have bound := first.toNat_lt
  have value₁ := value?_char (first.toNat / 4) (by omega)
  have value₂ := value?_char (first.toNat % 4 * 16) (by omega)
  have whole : first.toNat / 4 * 4 + first.toNat % 4 * 16 / 16 = Bytes.toNat [first] := by
    simp only [Bytes.toNat_cons, List.length_nil, Bytes.toNat_nil]
    omega
  have back : Bytes.ofNat 1 (Bytes.toNat [first]) = [first] := Bytes.ofNat_toNat [first]
  refine ⟨?_, by simp, ?_, ?_, ?_⟩
  · simp [encode, value₁, value₂, value?_padding]
  · simp [encode]
  · simp [encode]
  · simp only [List.filterMap_cons, value₁, value₂, List.filterMap_nil, tail?, whole, back]
    simp

theorem endsWith_two (first second : UInt8) :
    let group := (first.toNat * 256 + second.toNat) * 4
    EndsWith [first, second]
      [char (group / 4096), char (group / 64 % 64), char (group % 64)] := by
  intro group
  have bound := first.toNat_lt
  have boundSecond := second.toNat_lt
  have value₁ := value?_char (group / 4096) (by omega)
  have value₂ := value?_char (group / 64 % 64) (by omega)
  have value₃ := value?_char (group % 64) (by omega)
  have whole : (group / 4096 * 64 + group / 64 % 64) * 16 + group % 64 / 4 =
      Bytes.toNat [first, second] := by
    simp only [Bytes.toNat_cons, List.length_cons, List.length_nil, Bytes.toNat_nil]
    omega
  have beyond : group % 64 % 4 = 0 := by omega
  have back : Bytes.ofNat 2 (Bytes.toNat [first, second]) = [first, second] :=
    Bytes.ofNat_toNat [first, second]
  refine ⟨?_, by simp, ?_, ?_, ?_⟩
  · simp [encode, group, value₁, value₂, value₃, value?_padding]
  · simp [encode]
  · simp [encode]
  · simp only [List.filterMap_cons, value₁, value₂, value₃, List.filterMap_nil, tail?, whole,
      beyond, back]

theorem endsWith_of_short {last : Bytes} (short : last.length < 3) :
    ∃ values, EndsWith last values := by
  match last, short with
  | [], _ =>
      exact ⟨[], rfl, by simp, rfl, by simp, rfl⟩
  | [first], _ =>
      exact ⟨_, endsWith_one first⟩
  | [first, second], _ =>
      exact ⟨_, endsWith_two first second⟩

/-- A last group has nothing in it, or four characters with the padding. -/
theorem EndsWith.nothing_or_four {last : Bytes} {values : List Char}
    (ends : EndsWith last values) :
    values = [] ∧ last = [] ∨
      values ≠ [] ∧ values.length + ((encode last).length - values.length) = 4 := by
  by_cases nothing : last = []
  · exact Or.inl ⟨ends.empty.mpr nothing, nothing⟩
  · have four := ends.complete nothing
    rw [List.length_drop] at four
    exact Or.inr ⟨mt ends.empty.mp nothing, four⟩

/-- The strict reader gives the bytes that were written. -/
@[simp]
theorem decode?_encode (bytes : Bytes) : decode? (encode bytes) = some bytes := by
  obtain ⟨full, last, rfl, short, read⟩ := readQuads_encode bytes
  obtain ⟨values, ends⟩ := endsWith_of_short short
  unfold decode?
  simp only [read, ends.spoken, ends.padded, ends.tail]
  obtain ⟨rfl, rfl⟩ | ⟨spoken, four⟩ := ends.nothing_or_four
  · simp [encode]
  · simp [spoken, four]

/-- The lenient reader gives the bytes that were written. -/
@[simp]
theorem decodeLenient?_encode (bytes : Bytes) : decodeLenient? (encode bytes) = some bytes := by
  obtain ⟨full, last, rfl, short, read⟩ := readQuads_encode bytes
  obtain ⟨values, ends⟩ := endsWith_of_short short
  unfold decodeLenient?
  simp only [read, ends.spoken, ends.padded, ends.tail]
  obtain ⟨rfl, rfl⟩ | ⟨spoken, four⟩ := ends.nothing_or_four
  · simp [encode]
  · simp [spoken, four]

/-! ## What is strictly base-64 -/

/-- What is strictly base-64: characters of the alphabet and padding after them. A last group of
two or three characters is padded to four; a full one may have padding after it, but padding alone
is no text. -/
def Strict (text : List Char) : Prop :=
  ∃ body pads, text = body ++ List.replicate pads padding ∧ (∀ c ∈ body, c ∈ alphabet) ∧
    (body.length % 4 = 0 ∧ (body = [] → pads = 0) ∨
      2 ≤ body.length % 4 ∧ body.length % 4 + pads = 4)

theorem Strict.mem {text : List Char} (strict : Strict text) {c : Char} (member : c ∈ text) :
    c ∈ padding :: alphabet := by
  obtain ⟨body, pads, rfl, inAlphabet, _⟩ := strict
  rcases List.mem_append.mp member with inBody | inPads
  · exact List.mem_cons_of_mem padding (inAlphabet c inBody)
  · rw [List.eq_of_mem_replicate inPads]
    exact List.mem_cons_self

/-- Full groups are read up to fewer than four characters of the alphabet. -/
theorem readQuads_spec (text : List Char) :
    ∃ full, text = full ++ (readQuads text).2 ∧ (∀ c ∈ full, (value? c).isSome = true) ∧
      full.length % 4 = 0 ∧ ((readQuads text).1 = [] ↔ full = []) ∧
      ((readQuads text).2.takeWhile fun c => (value? c).isSome).length < 4 := by
  fun_induction readQuads text with
  | case1 a b c d rest va vb vc vd valueA valueB valueC valueD bytes remaining read
      inductionHypothesis =>
      simp only [read] at inductionHypothesis
      obtain ⟨full, rfl, valued, groups, empty, short⟩ := inductionHypothesis
      refine ⟨a :: b :: c :: d :: full, rfl, ?_, ?_, ?_, short⟩
      · simpa [valueA, valueB, valueC, valueD] using valued
      · simp only [List.length_cons]
        omega
      · simp [quad, Bytes.ofNat]
  | case2 a b c d rest unread =>
      refine ⟨[], rfl, by simp, rfl, by simp, ?_⟩
      cases valueA : value? a with
      | none =>
          simp [valueA]
      | some va =>
          cases valueB : value? b with
          | none =>
              simp [valueA, valueB]
          | some vb =>
              cases valueC : value? c with
              | none =>
                  simp [valueA, valueB, valueC]
              | some vc =>
                  cases valueD : value? d with
                  | none =>
                      simp [valueA, valueB, valueC, valueD]
                  | some vd =>
                      exact absurd valueD (unread va vb vc vd valueA valueB valueC)
  | case3 short notLong =>
      refine ⟨[], rfl, by simp, rfl, by simp, ?_⟩
      refine Nat.lt_of_le_of_lt (List.takeWhile_sublist _).length_le ?_
      rcases short with _ | ⟨a, _ | ⟨b, _ | ⟨c, _ | ⟨d, rest⟩⟩⟩⟩
      case cons.cons.cons.cons =>
          exact (notLong a b c d rest rfl).elim
      all_goals simp

theorem tail?_isSome (values : List Nat) :
    (tail? values).isSome = true ↔ values.length ≠ 1 ∧ values.length < 4 := by
  match values with
  | [] | [_] | [_, _] | [_, _, _] =>
      simp [tail?]
  | _ :: _ :: _ :: _ :: _ =>
      simp [tail?]

/-- What the strict reader asks of what remains after the full groups. -/
theorem decode?_isSome_of_readQuads {text remaining : List Char} {bytes : Bytes}
    (read : readQuads text = (bytes, remaining)) {values pads : List Char}
    (isValues : remaining.takeWhile (fun c => (value? c).isSome) = values)
    (split : remaining = values ++ pads) (short : values.length < 4) :
    (decode? text).isSome = true ↔
      (∀ c ∈ pads, c = padding) ∧ values.length ≠ 1 ∧
        (values = [] → bytes = [] → pads = []) ∧
        (values ≠ [] → values.length + pads.length = 4) := by
  have valued : ∀ c ∈ values, (value? c).isSome = true :=
    fun c member => List.mem_takeWhile_imp (p := fun c => (value? c).isSome) (isValues ▸ member)
  have isPads : remaining.drop values.length = pads := by
    rw [split, List.drop_left]
  have tailed := tail?_isSome (values.filterMap value?)
  rw [List.filterMap_length_eq_length.mpr valued] at tailed
  have allPads : pads.all (· = padding) = true ↔ ∀ c ∈ pads, c = padding := by
    simp
  unfold decode?
  simp only [read, isValues, isPads]
  cases padded : pads.all (· = padding) with
  | false =>
      have not : ¬∀ c ∈ pads, c = padding := mt allPads.mpr (by simp [padded])
      simp [not]
  | true =>
      have all := allPads.mp padded
      cases last : tail? (values.filterMap value?) with
      | none =>
          have one : values.length = 1 := by
            simp only [last, Option.isSome_none, Bool.false_eq_true, false_iff] at tailed
            omega
          simp [one]
      | some ending =>
          have notOne : values.length ≠ 1 := (tailed.mp (by simp [last])).1
          rw [and_iff_right all, and_iff_right notOne]
          by_cases none : values = [] <;> simp [none]

/-- A text that is cut after its last character with a value is strictly base-64 if only padding
follows, and so much of it as goes with the number of characters before. -/
theorem strict_append_iff {body pads : List Char} (spoken : ∀ c ∈ body, (value? c).isSome = true)
    (ends : pads.takeWhile (fun c => (value? c).isSome) = []) :
    Strict (body ++ pads) ↔ (∀ c ∈ pads, c = padding) ∧
      (body.length % 4 = 0 ∧ (body = [] → pads.length = 0) ∨
        2 ≤ body.length % 4 ∧ body.length % 4 + pads.length = 4) := by
  constructor
  · rintro ⟨other, count, same, inAlphabet, shape⟩
    have isBody : (body ++ pads).takeWhile (fun c => (value? c).isSome) = body := by
      rw [List.takeWhile_append_of_pos spoken, ends, List.append_nil]
    have isOther : (body ++ pads).takeWhile (fun c => (value? c).isSome) = other := by
      rw [same, List.takeWhile_append_of_pos fun c member =>
        (isSome_value? c).mpr (inAlphabet c member)]
      cases count <;> simp [List.replicate_succ, value?_padding]
    obtain rfl := isBody.symm.trans isOther
    obtain rfl := List.append_cancel_left same
    rw [List.length_replicate]
    exact ⟨fun c member => List.eq_of_mem_replicate member, shape⟩
  · rintro ⟨padded, shape⟩
    refine ⟨body, pads.length, ?_, fun c member => (isSome_value? c).mp (spoken c member), shape⟩
    rw [← List.eq_replicate_of_mem padded]

/-- The strict reader reads what is strictly base-64 and nothing else. -/
theorem decode?_isSome_iff (text : List Char) : (decode? text).isSome = true ↔ Strict text := by
  obtain ⟨full, split, valued, groups, empty, short⟩ := readQuads_spec text
  obtain ⟨values, isValues⟩ :
      ∃ values, (readQuads text).2.takeWhile (fun c => (value? c).isSome) = values := ⟨_, rfl⟩
  obtain ⟨pads, isPads⟩ :
      ∃ pads, (readQuads text).2.dropWhile (fun c => (value? c).isSome) = pads := ⟨_, rfl⟩
  have rest : (readQuads text).2 = values ++ pads := by
    rw [← isValues, ← isPads, List.takeWhile_append_dropWhile]
  have whole : text = (full ++ values) ++ pads := by
    rw [List.append_assoc, ← rest, ← split]
  have spoken : ∀ c ∈ full ++ values, (value? c).isSome = true :=
    List.forall_mem_append.mpr ⟨valued, fun c member =>
      List.mem_takeWhile_imp (p := fun c => (value? c).isSome) (isValues ▸ member)⟩
  have ends : pads.takeWhile (fun c => (value? c).isSome) = [] := by
    rw [List.takeWhile_eq_nil_iff, ← isPads]
    exact List.dropWhile_get_zero_not _ _
  rw [isValues] at short
  have count : (full ++ values).length % 4 = values.length := by
    rw [List.length_append]
    omega
  have nothing : full ++ values = [] ↔ values = [] ∧ (readQuads text).1 = [] := by
    rw [List.append_eq_nil_iff, empty, and_comm]
  have isStrict := strict_append_iff spoken ends
  rw [← whole, count, nothing] at isStrict
  rw [isStrict, decode?_isSome_of_readQuads rfl isValues rest short]
  refine and_congr_right fun _ => ?_
  by_cases none : values = []
  · simp [none]
  · have := List.length_pos_iff.mpr none
    simp only [none, ne_eq, not_false_eq_true, false_implies, true_implies, true_and]
    omega

end CertApproval.Base64
