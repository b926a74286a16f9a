import CertApproval.Der.Oid

/-!
The simple values inside tagged ones: truth values, numbers, strings of bits and bytes,
identifiers and texts.
-/

namespace CertApproval.Der

/-- A string of bits: bytes, of which the last few bits do not count and are zero. -/
structure BitString where
  unused : Nat
  bytes : Bytes
  deriving DecidableEq, Repr

namespace Element

/-- The content of a value with a given tag. -/
def content? (tag : Tag) (element : Element) : Option Bytes :=
  if element.tag = tag then some element.content else none

/-- A truth value is written with all bits equal. -/
def readBool? (content : Bytes) : Option Bool :=
  match content with
  | [0x00] => some false
  | [0xFF] => some true
  | _ => none

/-- Whether a number is written in the fewest bytes. -/
def isMinimalInteger : Bytes → Bool
  | [] => false
  | [_] => true
  | a :: b :: _ => !(a = 0x00 && b < 0x80) && !(a = 0xFF && 0x80 ≤ b)

/-- A number that is not negative. -/
def readNat? (content : Bytes) : Option Nat :=
  if isMinimalInteger content ∧ (content.head?.getD 0) < 0x80 then some (Bytes.toNat content)
  else none

/-- The content of a number that is not negative. -/
def writeNat (value : Nat) : Bytes :=
  let size := Nat.log2 value / 8 + 1
  let digits := Bytes.ofNat size value
  if (digits.head?.getD 0) < 0x80 then digits else 0 :: digits

def readBits? (content : Bytes) : Option BitString :=
  match content with
  | [] => none
  | unused :: bytes =>
    let count := unused.toNat
    if 7 < count then none
    else
      match bytes.getLast? with
      | none => if count = 0 then some ⟨0, []⟩ else none
      | some last => if last.toNat % Nat.pow 2 count = 0 then some ⟨count, bytes⟩ else none

def writeBits (bits : BitString) : Bytes := UInt8.ofNat bits.unused :: bits.bytes

def bool? (element : Element) : Option Bool := (element.content? .boolean).bind readBool?
def nat? (element : Element) : Option Nat := (element.content? .integer).bind readNat?
def bits? (element : Element) : Option BitString := (element.content? .bitString).bind readBits?
def octets? (element : Element) : Option Bytes := element.content? .octetString
def oid? (element : Element) : Option Oid := (element.content? .objectIdentifier).bind Oid.read?
def isNull (element : Element) : Bool := element = ⟨.null, []⟩

/-- The value whose content a context tag covers. -/
def explicit? (number : Nat) (element : Element) : Option Element :=
  if element.tag = .context true number then readOne? element.content else none

def ofNat (value : Nat) : Element := ⟨.integer, writeNat value⟩

def ofOid (oid : Oid) : Element := ⟨.objectIdentifier, oid.write⟩

def ofBits (bits : BitString) : Element := ⟨.bitString, writeBits bits⟩

def ofSequence (elements : List Element) : Element := compose .sequence elements

/-- A set of values that stand in the order of their encodings. -/
def ofSet (elements : List Element) : Element := compose .set elements

end Element

/-- The characters of a printable string. -/
def isPrintableByte (byte : UInt8) : Bool :=
  let c := Char.ofNat byte.toNat
  byte < 0x80 && (c.isAlphanum || " '()+,-./:=?".toList.contains c)

/-- Units of two bytes. -/
def readUnits? : Bytes → Option (List Nat)
  | [] => some []
  | [_] => none
  | a :: b :: rest => (readUnits? rest).map ((a.toNat * 256 + b.toNat) :: ·)

/-- The characters of units of sixteen bits. The lower half of a surrogate pair cannot come
first. -/
def ofUnits16? : List Nat → Option (List Char)
  | [] => some []
  | unit :: rest =>
    if unit < 0xD800 ∨ 0xDFFF < unit then (ofUnits16? rest).map (Char.ofNat unit :: ·)
    else if 0xDC00 ≤ unit then none
    else
      match rest with
      | [] => none
      | low :: rest =>
        if low < 0xDC00 ∨ 0xDFFF < low then none
        else (ofUnits16? rest).map
          (Char.ofNat (0x10000 + (unit - 0xD800) * 0x400 + (low - 0xDC00)) :: ·)

/-- The characters of units of four bytes. -/
def readWide? : Bytes → Option (List Char)
  | [] => some []
  | a :: b :: c :: d :: rest =>
    let code := Bytes.toNat [a, b, c, d]
    if code.isValidChar then (readWide? rest).map (Char.ofNat code :: ·) else none
  | _ => none

/-- The text of a string of units of two bytes. -/
def bmpText? (content : Bytes) : Option String :=
  ((readUnits? content).bind ofUnits16?).map String.ofList

/-- The text of a string of units of four bytes. -/
def universalText? (content : Bytes) : Option String := (readWide? content).map String.ofList

end CertApproval.Der
