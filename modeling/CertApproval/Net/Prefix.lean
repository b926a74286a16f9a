import CertApproval.Net.Address

/-!
Ranges of addresses given by their leading bits, `10.0.0.0/16`. Bits after the leading
ones are dropped when a range is read. The length of a range of version 4 may also be
given by a mask of the leading bits, or of the bits that follow them.
-/

namespace CertApproval.Net

open CertApproval.Text (splitAtChar)

/-- A range of addresses: those that agree with `base` on the first `length` bits. -/
structure Prefix where
  base : Address
  length : Nat
  length_le : length ≤ base.version.width

namespace Prefix

/-- The leading bits of an address. -/
def leadingBits (address : Address) (length : Nat) : Nat :=
  address.toNat >>> (address.version.width - length)

/-- Whether an address lies in a range: the versions are equal and the leading bits
agree. -/
def contains (range : Prefix) (address : Address) : Bool :=
  address.version = range.base.version &&
    leadingBits address range.length = leadingBits range.base range.length

/-- An address with the bits after the leading ones cleared. An address that changes loses its
scope. -/
def clearHost (address : Address) (length : Nat) : Address :=
  match address with
  | .v4 bits => .v4 (bits >>> (32 - length) <<< (32 - length))
  | .v6 bits scope =>
    let cleared := bits >>> (128 - length) <<< (128 - length)
    if cleared = bits then .v6 bits scope else .v6 cleared none

theorem version_clearHost (address : Address) (length : Nat) :
    (clearHost address length).version = address.version := by
  cases address with
  | v4 bits => rfl
  | v6 bits scope =>
    simp only [clearHost]
    split <;> rfl

/-- The greatest number of digits that a length may be written with. -/
def digitLimit : Nat := 4300

/-- A length as decimal digits. -/
def readLength? (digits : List Char) (width : Nat) : Option Nat :=
  if digits.isEmpty ∨ !digits.all Char.isDigit ∨ digitLimit < digits.length then none
  else
    let length := Address.decimalNat digits
    if width < length then none else some length

/-- The number of leading ones of a mask that has no ones after them. -/
def maskLength? (mask : Nat) : Option Nat :=
  (List.range 33).find? fun length => mask = Nat.pow 2 32 - Nat.pow 2 (32 - length)

/-- A length given by a mask of the leading bits or of the bits after them. -/
def readMask? (text : List Char) : Option Nat :=
  match Address.readV4? text with
  | none => none
  | some bits =>
    match maskLength? bits.toNat with
    | some length => some length
    | none => maskLength? (Nat.pow 2 32 - 1 - bits.toNat)

/-- The range that an address begins, if the length fits its version. -/
def make? (address : Address) (length : Nat) : Option Prefix :=
  if fits : length ≤ address.version.width then
    some ⟨clearHost address length, length, by rw [version_clearHost]; exact fits⟩
  else none

def readV4? (address : List Char) (length : Option (List Char)) : Option Prefix :=
  match Address.readV4? address with
  | none => none
  | some bits =>
    let length? := match length with
      | none => some 32
      | some digits =>
        match readLength? digits 32 with
        | some length => some length
        | none => readMask? digits
    match length? with
    | none => none
    | some length => make? (.v4 bits) length

def readV6? (address : List Char) (length : Option (List Char)) : Option Prefix :=
  match Address.readV6? address with
  | none => none
  | some address =>
    let length? := match length with
      | none => some 128
      | some digits => readLength? digits 128
    match length? with
    | none => none
    | some length => make? address length

/-- Reads a range of either version. Without a length it is a single address. -/
def read? (text : String) : Option Prefix :=
  let attempt (address : List Char) (length : Option (List Char)) :=
    (readV4? address length).orElse fun _ => readV6? address length
  match splitAtChar '/' text.toList with
  | [address] => attempt address none
  | [address, length] => attempt address (some length)
  | _ => none

def text (range : Prefix) : String := s!"{range.base.text}/{range.length}"

end Prefix

end CertApproval.Net
