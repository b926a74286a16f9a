import CertApproval.Net.Address
import CertApproval.Proofs.Bytes
import Mathlib.Data.List.Nodup

/-!
Addresses and the bytes that they are written in. Main statements: an address without a scope is
read from its own bytes and from no others, and a set of addresses holds each of them once.
-/

namespace CertApproval.Net

/-- The bytes of an address without a scope. -/
def Address.bytes? : Address → Option Bytes
  | .v4 bits => some (Bytes.ofNat 4 bits.toNat)
  | .v6 bits none => some (Bytes.ofNat 16 bits.toNat)
  | .v6 _ (some _) => none

theorem toNat_ofNat_toNat {size width : Nat} {bytes : Bytes} (length : bytes.length = size)
    (wide : 256 ^ size = 2 ^ width) :
    Bytes.ofNat size (BitVec.ofNat width bytes.toNat).toNat = bytes := by
  have bound : bytes.toNat < 2 ^ width := by
    rw [← wide, ← length]
    exact bytes.toNat_lt
  rw [BitVec.toNat_ofNat, Nat.mod_eq_of_lt bound, ← length]
  exact bytes.ofNat_toNat

theorem ofNat_toNat_ofNat (size : Nat) {width : Nat} (bits : BitVec width)
    (wide : 256 ^ size = 2 ^ width) :
    BitVec.ofNat width (Bytes.toNat (Bytes.ofNat size bits.toNat)) = bits := by
  rw [Bytes.toNat_ofNat (wide ▸ bits.isLt), BitVec.ofNat_toNat, BitVec.setWidth_eq]

theorem Address.ofBytes?_eq_some {bytes : Bytes} {address : Address} :
    ofBytes? bytes = some address ↔ address.bytes? = some bytes := by
  constructor
  · intro read
    unfold ofBytes? at read
    split at read
    · next length =>
        cases read
        exact congrArg some (toNat_ofNat_toNat length (by decide))
    · split at read
      · next length =>
          cases read
          exact congrArg some (toNat_ofNat_toNat length (by decide))
      · cases read
  · intro written
    cases address with
    | v4 bits =>
        obtain rfl := Option.some.inj written
        simp only [ofBytes?, Bytes.length_ofNat, if_true, ofNat_toNat_ofNat 4 bits (by decide)]
    | v6 bits scope =>
        cases scope with
        | none =>
            obtain rfl := Option.some.inj written
            have other : ¬(16 = 4) := by decide
            simp only [ofBytes?, Bytes.length_ofNat, other, if_true, if_false,
              ofNat_toNat_ofNat 16 bits (by decide)]
        | some scope =>
            cases written

theorem nodup_insertAddress {set : List Address} (distinct : set.Nodup) (added : Address) :
    (insertAddress set added).Nodup := by
  unfold insertAddress
  split
  · exact distinct
  · next absent =>
      have notMember : added ∉ set := by simpa using absent
      exact List.Nodup.append distinct (List.nodup_singleton added)
        (List.disjoint_singleton.mpr notMember)

theorem nodup_foldl_insertAddress (addresses : List Address) {set : List Address}
    (distinct : set.Nodup) : (addresses.foldl insertAddress set).Nodup := by
  induction addresses generalizing set with
  | nil =>
      exact distinct
  | cons address addresses inductionHypothesis =>
      exact inductionHypothesis (nodup_insertAddress distinct address)

theorem nodup_addressSet (addresses : List Address) : (addressSet addresses).Nodup :=
  nodup_foldl_insertAddress addresses .nil

end CertApproval.Net
