import CertApproval.Bytes
import Mathlib.Data.List.Infix
import Mathlib.Tactic.Ring

/-!
Byte strings as texts, as numbers and as parts of one another. Main statements: texts and
numbers are read back from the bytes that they are written to.
-/

namespace CertApproval.Bytes

/-! ## Texts -/

@[simp]
theorem toText?_ofText (text : String) : toText? (ofText text) = some text := by
  simp [toText?, ofText, String.fromUTF8?, String.fromUTF8, text.isValidUTF8]

@[simp]
theorem ofText_append (first second : String) :
    ofText (first ++ second) = ofText first ++ ofText second := by
  simp [ofText, String.toByteArray_append]

theorem ofText_ofList_eq_flatMap (characters : List Char) :
    ofText (String.ofList characters) = characters.flatMap String.utf8EncodeChar := by
  simp [ofText, List.utf8Encode]

/-- A text of the first 128 characters has one byte for each. -/
theorem ofText_ofList {characters : List Char} (plain : ∀ c ∈ characters, c.toNat < 128) :
    ofText (String.ofList characters) = characters.map fun c => UInt8.ofNat c.toNat := by
  rw [ofText_ofList_eq_flatMap, List.map_eq_flatMap, List.flatMap_def, List.flatMap_def]
  refine congrArg List.flatten (List.map_congr_left fun c member => ?_)
  have small : c.val.toNat ≤ 127 := Nat.le_of_lt_succ (plain c member)
  simp only [String.utf8EncodeChar, if_pos small]
  rfl

/-- A byte below 128 stands for its own character wherever it occurs in a text, as every byte of
another character is 128 or more. -/
theorem mem_of_mem_ofText {text : String} {byte : UInt8} (plain : byte.toNat < 128)
    (member : byte ∈ ofText text) : Char.ofNat byte.toNat ∈ text.toList := by
  rw [← String.ofList_toList (s := text), ofText_ofList_eq_flatMap, List.mem_flatMap] at member
  obtain ⟨c, inText, isByte⟩ := member
  by_cases small : c.val.toNat ≤ 127
  · have code : byte = UInt8.ofNat c.val.toNat := by
      simp only [String.utf8EncodeChar, if_pos small] at isByte
      exact List.mem_singleton.mp isByte
    have same : byte.toNat = c.toNat := by
      rw [code, UInt8.toNat_ofNat', Nat.mod_eq_of_lt (by omega)]
      rfl
    rwa [same, Char.ofNat_toNat]
  · simp only [String.utf8EncodeChar, if_neg small] at isByte
    split_ifs at isByte <;> simp only [List.mem_cons, List.not_mem_nil, or_false] at isByte
    · rcases isByte with rfl | rfl <;> rw [UInt8.toNat_ofNat'] at plain <;> omega
    · rcases isByte with rfl | rfl | rfl <;> rw [UInt8.toNat_ofNat'] at plain <;> omega
    · rcases isByte with rfl | rfl | rfl | rfl <;> rw [UInt8.toNat_ofNat'] at plain <;> omega

/-! ## Numbers -/

@[simp]
theorem toNat_nil : toNat [] = 0 := rfl

theorem toNat_foldl (bytes : Bytes) (value : Nat) :
    bytes.foldl (fun value byte => value * 256 + byte.toNat) value =
      value * 256 ^ bytes.length + toNat bytes := by
  induction bytes generalizing value with
  | nil =>
      simp
  | cons byte bytes inductionHypothesis =>
      rw [toNat, List.foldl_cons, List.foldl_cons, inductionHypothesis, inductionHypothesis,
        List.length_cons]
      ring

theorem toNat_cons (byte : UInt8) (bytes : Bytes) :
    toNat (byte :: bytes) = byte.toNat * 256 ^ bytes.length + toNat bytes := by
  rw [toNat, List.foldl_cons, toNat_foldl]
  simp

theorem toNat_append (first second : Bytes) :
    toNat (first ++ second) = toNat first * 256 ^ second.length + toNat second := by
  rw [toNat, List.foldl_append, toNat_foldl]
  rfl

theorem toNat_lt (bytes : Bytes) : toNat bytes < 256 ^ bytes.length := by
  induction bytes with
  | nil =>
      decide
  | cons byte bytes inductionHypothesis =>
      have bound : byte.toNat + 1 ≤ 256 := byte.toNat_lt
      calc toNat (byte :: bytes)
        _ = byte.toNat * 256 ^ bytes.length + toNat bytes := toNat_cons byte bytes
        _ < byte.toNat * 256 ^ bytes.length + 256 ^ bytes.length :=
          Nat.add_lt_add_left inductionHypothesis _
        _ = (byte.toNat + 1) * 256 ^ bytes.length := by ring
        _ ≤ 256 * 256 ^ bytes.length := Nat.mul_le_mul_right _ bound
        _ = 256 ^ (byte :: bytes).length := by rw [List.length_cons]; ring

theorem toNat_ofNat {width value : Nat} (fits : value < 256 ^ width) :
    toNat (ofNat width value) = value := by
  induction width generalizing value with
  | zero =>
      rw [Nat.pow_zero] at fits
      simp only [ofNat, toNat_nil]
      omega
  | succ width inductionHypothesis =>
      have higher : value / 256 < 256 ^ width := by
        rw [Nat.pow_succ] at fits
        exact Nat.div_lt_of_lt_mul (by rwa [Nat.mul_comm])
      rw [ofNat, toNat_append, inductionHypothesis higher]
      simp only [toNat_cons, List.length_cons, List.length_nil, UInt8.toNat_ofNat', toNat_nil]
      omega

theorem ofNat_toNat (bytes : Bytes) : ofNat bytes.length (toNat bytes) = bytes := by
  induction bytes using List.reverseRecOn with
  | nil =>
      rfl
  | append_singleton bytes byte inductionHypothesis =>
      have bound : byte.toNat < 256 := byte.toNat_lt
      have value : toNat (bytes ++ [byte]) = toNat bytes * 256 + byte.toNat := by
        simp [toNat_append, toNat_cons]
      have higher : (toNat bytes * 256 + byte.toNat) / 256 = toNat bytes := by omega
      have lowest : (toNat bytes * 256 + byte.toNat) % 256 = byte.toNat := by omega
      rw [List.length_append, List.length_singleton, ofNat, value, higher, lowest,
        inductionHypothesis, UInt8.ofNat_toNat]

/-! ## Parts -/

/-- What is written one after the other has a byte at least for each. -/
theorem length_le_flatMap {α : Type} {write : α → Bytes} (nonempty : ∀ value, write value ≠ [])
    (values : List α) : values.length ≤ (values.flatMap write).length := by
  induction values with
  | nil =>
      exact Nat.zero_le _
  | cons value values inductionHypothesis =>
      have some := List.length_pos_iff.mpr (nonempty value)
      simp only [List.flatMap_cons, List.length_append, List.length_cons]
      omega

theorem startsWith_iff {bytes lead : Bytes} : startsWith bytes lead = true ↔ lead <+: bytes := by
  induction lead generalizing bytes with
  | nil =>
      simp [startsWith]
  | cons first lead inductionHypothesis =>
      cases bytes with
      | nil =>
          simp [startsWith]
      | cons byte bytes =>
          rw [startsWith, Bool.and_eq_true, decide_eq_true_eq, inductionHypothesis,
            List.cons_prefix_cons, eq_comm]

/-- Whether a byte string occurs in another one is whether it is a part of it. -/
theorem occursIn_iff {part bytes : Bytes} : occursIn part bytes = true ↔ part <:+: bytes := by
  induction bytes with
  | nil =>
      simp [occursIn]
  | cons byte bytes inductionHypothesis =>
      rw [occursIn, Bool.or_eq_true, startsWith_iff, inductionHypothesis, List.infix_cons_iff]

end CertApproval.Bytes
