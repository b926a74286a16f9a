/-!
Byte strings as lists, the numbers they denote and the text they encode.
-/

namespace CertApproval

abbrev Bytes := List UInt8

namespace Bytes

/-- The number that bytes denote, the most significant byte first. -/
def toNat (bytes : Bytes) : Nat :=
  bytes.foldl (fun value byte => value * 256 + byte.toNat) 0

/-- The lowest bytes of a number, the most significant first. -/
def ofNat : (width : Nat) → (value : Nat) → Bytes
  | 0, _ => []
  | width + 1, value => ofNat width (value / 256) ++ [UInt8.ofNat (value % 256)]

theorem length_ofNat (width value : Nat) : (ofNat width value).length = width := by
  induction width generalizing value with
  | zero => rfl
  | succ width ih => simp [ofNat, ih]

/-- The number that bytes denote, the least significant byte first. -/
def toNatReversed (bytes : Bytes) : Nat := toNat bytes.reverse

/-- The UTF-8 encoding of a text. -/
def ofText (text : String) : Bytes := text.toUTF8.data.toList

/-- The text that bytes encode in UTF-8, if they do. -/
def toText? (bytes : Bytes) : Option String := String.fromUTF8? ⟨bytes.toArray⟩

/-- Whether bytes come before others: at the first difference, or where they end first. -/
def before : Bytes → Bytes → Bool
  | _, [] => false
  | [], _ :: _ => true
  | a :: as, b :: bs => if a < b then true else if b < a then false else before as bs

def startsWith : (bytes lead : Bytes) → Bool
  | _, [] => true
  | [], _ :: _ => false
  | b :: bytes, l :: lead => b = l && startsWith bytes lead

def occursIn (part : Bytes) : Bytes → Bool
  | [] => part.isEmpty
  | byte :: rest => startsWith (byte :: rest) part || occursIn part rest

end Bytes

end CertApproval
