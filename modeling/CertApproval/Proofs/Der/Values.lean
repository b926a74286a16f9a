import CertApproval.Der.Value
import CertApproval.Proofs.Der.Tagged

/-!
Values of the simple kinds, written and read: identifiers, numbers, strings of bits, and values
that consist of values. Each is read back from what is written for it if it is well-formed.
-/

namespace CertApproval.Der

/-! ## Identifiers -/

namespace Oid

/-- Identifiers that have an encoding which is read: at least two numbers, the first two within
their bounds, and not too long. -/
structure WellFormed (oid : Oid) : Prop where
  lead : ∃ first second rest,
    oid.arcs = first :: second :: rest ∧ first ≤ 2 ∧ (first < 2 → second < 40)
  short : oid.write.length ≤ sizeLimit

theorem readNumbers?_write {numbers : List Nat} {fuel : Nat} (enough : numbers.length ≤ fuel) :
    readNumbers? fuel (numbers.flatMap base128) = some numbers := by
  induction numbers generalizing fuel with
  | nil =>
      cases fuel <;> rfl
  | cons number numbers inductionHypothesis =>
      obtain ⟨fuel, rfl⟩ := Nat.exists_eq_succ_of_ne_zero
        (Nat.ne_of_gt (Nat.lt_of_lt_of_le (Nat.succ_pos _) enough))
      have nonempty : (number :: numbers).flatMap base128 ≠ [] := by
        simp [base128_ne_nil]
      have first : readBase128? ((number :: numbers).flatMap base128) =
          some (number, numbers.flatMap base128) := by
        rw [List.flatMap_cons]
        exact readBase128?_base128 number _
      rw [readNumbers?, first]
      · simp only [inductionHypothesis (Nat.le_of_succ_le_succ enough), Option.map_some]
      · exact nonempty

theorem read?_write {oid : Oid} (wellFormed : oid.WellFormed) : read? oid.write = some oid := by
  obtain ⟨⟨first, second, rest, arcs, few, bounded⟩, short⟩ := wellFormed
  obtain ⟨_⟩ := oid
  subst arcs
  have numbers : readNumbers? (write ⟨first :: second :: rest⟩).length
      (write ⟨first :: second :: rest⟩) = some ((first * 40 + second) :: rest) :=
    readNumbers?_write (Bytes.length_le_flatMap base128_ne_nil _)
  rw [read?, if_neg (Nat.not_lt.mpr short), numbers]
  have lead : (if first * 40 + second < 40 then 0 else if first * 40 + second < 80 then 1 else 2) =
      first := by
    split
    · omega
    · split <;> omega
  simp only [lead, Nat.add_sub_cancel_left]

end Oid

/-! ## Strings of bits -/

/-- Strings of bits that have an encoding: the bits that do not count are zero. -/
structure BitString.WellFormed (bits : BitString) : Prop where
  few : bits.unused ≤ 7
  empty : bits.bytes = [] → bits.unused = 0
  zero : ∀ last ∈ bits.bytes.getLast?, last.toNat % 2 ^ bits.unused = 0

/-- A string of whole bytes. -/
theorem BitString.wellFormed_of_whole (bytes : Bytes) : WellFormed ⟨0, bytes⟩ where
  few := Nat.zero_le _
  empty _ := rfl
  zero _ _ := Nat.mod_one _

namespace Element

theorem readBits?_writeBits {bits : BitString} (wellFormed : bits.WellFormed) :
    readBits? (writeBits bits) = some bits := by
  obtain ⟨unused, bytes⟩ := bits
  obtain ⟨few, empty, zero⟩ := wellFormed
  have count : (UInt8.ofNat unused).toNat = unused := by
    rw [UInt8.toNat_ofNat']
    simp only at few
    omega
  simp only [writeBits, readBits?, count]
  rw [if_neg (Nat.not_lt.mpr few)]
  cases last : bytes.getLast? with
  | none =>
      have none := List.getLast?_eq_none_iff.mp last
      subst none
      have whole : unused = 0 := empty rfl
      simp [whole]
  | some byte =>
      have isZero : byte.toNat % 2 ^ unused = 0 := zero byte last
      simp only [Nat.pow_eq, isZero, if_true]

/-! ## Simple values -/

theorem oid?_ofOid {oid : Oid} (wellFormed : oid.WellFormed) : (ofOid oid).oid? = some oid :=
  Oid.read?_write wellFormed

theorem bits?_ofBits {bits : BitString} (wellFormed : bits.WellFormed) :
    (ofBits bits).bits? = some bits := readBits?_writeBits wellFormed

/-- The numbers of one byte are the versions that are read. -/
theorem nat?_ofNat {value : Nat} (bound : value < 256) : (ofNat value).nat? = some value := by
  revert value
  decide +kernel

/-! ## Values inside values -/

variable {elements : List Element}

theorem sequence?_ofSequence (fits : (ofSequence elements).Fits) :
    (ofSequence elements).sequence? = some elements := inside?_compose fits

theorem set?_ofSet (fits : (ofSet elements).Fits) (ascends : ascending elements = true) :
    (ofSet elements).set? = some elements := by
  have inside : (ofSet elements).inside? .set = some elements := inside?_compose fits
  rw [set?, inside]
  simp [ascends]

theorem explicit?_compose {number : Nat} {element : Element}
    (fits : (compose (.context true number) [element]).Fits) :
    (compose (.context true number) [element]).explicit? number = some element := by
  have content : (compose (.context true number) [element]).content = element.write := by
    simp [compose, writeAll]
  rw [explicit?, if_pos (show (compose (.context true number) [element]).tag =
    .context true number from rfl), content]
  exact readOne?_write (fits.of_mem List.mem_cons_self)

end Element

end CertApproval.Der
