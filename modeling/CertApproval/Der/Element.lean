import CertApproval.Bytes

/-!
The distinguished encoding of tagged values: an identifier, a length and a content.
Every value has one encoding. Identifiers and lengths take the fewest bytes, lengths
are definite and fit four bytes.
-/

namespace CertApproval.Der

/-- The four classes of tags. -/
inductive TagClass where
  | universal
  | application
  | context
  | privateUse
  deriving DecidableEq, Repr

namespace TagClass

def code : TagClass → Nat
  | universal => 0
  | application => 1
  | context => 2
  | privateUse => 3

/-- The class that two bits stand for. -/
def ofCode (code : Nat) : TagClass :=
  match code with
  | 0 => universal
  | 1 => application
  | 2 => context
  | _ => privateUse

end TagClass

/-- What identifies a value: a class, a number, and whether the content consists of
values. -/
structure Tag where
  tagClass : TagClass
  constructed : Bool
  number : Nat
  deriving DecidableEq, Repr

structure Element where
  tag : Tag
  content : Bytes
  deriving DecidableEq, Repr

namespace Tag

/-- A tag of the universal class without values inside. -/
def primitive (number : Nat) : Tag := ⟨.universal, false, number⟩

/-- A tag of the universal class with values inside. -/
def composite (number : Nat) : Tag := ⟨.universal, true, number⟩

def context (constructed : Bool) (number : Nat) : Tag := ⟨.context, constructed, number⟩

def boolean : Tag := primitive 1
def integer : Tag := primitive 2
def bitString : Tag := primitive 3
def octetString : Tag := primitive 4
def null : Tag := primitive 5
def objectIdentifier : Tag := primitive 6
def sequence : Tag := composite 16
def set : Tag := composite 17
def printableString : Tag := primitive 19
def ia5String : Tag := primitive 22
def utf8String : Tag := primitive 12
def universalString : Tag := primitive 28
def bmpString : Tag := primitive 30

end Tag

/-- The digits of a number to the base 128, the most significant first, each but the last
with its highest bit set. -/
def writeBase128 : (fuel : Nat) → (value : Nat) → (last : Bool) → Bytes
  | 0, _, _ => []
  | fuel + 1, value, last =>
    let digit := UInt8.ofNat (value % 128 + if last then 0 else 128)
    (if value / 128 = 0 then [] else writeBase128 fuel (value / 128) false) ++ [digit]

def base128 (value : Nat) : Bytes := writeBase128 (Nat.log2 value + 1) value true

/-- The rest of a number to the base 128, after digits that denote `value`. -/
def readDigits128 (value : Nat) : Bytes → Option (Nat × Bytes)
  | [] => none
  | byte :: rest =>
    let value := value * 128 + byte.toNat % 128
    if byte.toNat < 128 then some (value, rest) else readDigits128 value rest

/-- A number to the base 128 without leading zero digits. -/
def readBase128? (bytes : Bytes) : Option (Nat × Bytes) :=
  if bytes.head? = some 0x80 then none else readDigits128 0 bytes

def readTag? : Bytes → Option (Tag × Bytes)
  | [] => none
  | byte :: rest =>
    let code := byte.toNat
    let tagClass := TagClass.ofCode (code / 64)
    let constructed := code / 32 % 2 = 1
    if code % 32 = 31 then
      match readBase128? rest with
      | some (number, rest) =>
        if number < 31 then none else some (⟨tagClass, constructed, number⟩, rest)
      | none => none
    else some (⟨tagClass, constructed, code % 32⟩, rest)

def writeTag (tag : Tag) : Bytes :=
  let lead := tag.tagClass.code * 64 + (if tag.constructed then 32 else 0)
  if tag.number < 31 then [UInt8.ofNat (lead + tag.number)]
  else UInt8.ofNat (lead + 31) :: base128 tag.number

/-- The number of bytes of a length that does not fit seven bits. -/
def lengthSize (length : Nat) : Nat := Nat.log2 length / 8 + 1

def readLength? : Bytes → Option (Nat × Bytes)
  | [] => none
  | byte :: rest =>
    let code := byte.toNat
    if code < 128 then some (code, rest)
    else
      let size := code - 128
      let digits := rest.take size
      let length := Bytes.toNat digits
      if size = 0 ∨ 4 < size ∨ digits.length < size then none
      else if length < 128 ∨ lengthSize length < size then none
      else some (length, rest.drop size)

def writeLength (length : Nat) : Bytes :=
  if length < 128 then [UInt8.ofNat length]
  else UInt8.ofNat (128 + lengthSize length) :: Bytes.ofNat (lengthSize length) length

namespace Element

/-- Reads a value from the front of bytes. -/
def read? (bytes : Bytes) : Option (Element × Bytes) :=
  match readTag? bytes with
  | none => none
  | some (tag, afterTag) =>
    match readLength? afterTag with
    | none => none
    | some (length, rest) =>
      let content := rest.take length
      if content.length < length then none else some (⟨tag, content⟩, rest.drop length)

def write (element : Element) : Bytes :=
  writeTag element.tag ++ writeLength element.content.length ++ element.content

/-- Reads values up to the end of bytes; `fuel` bounds their number. -/
def readMany? : (fuel : Nat) → Bytes → Option (List Element)
  | _, [] => some []
  | 0, _ :: _ => none
  | fuel + 1, bytes =>
    match read? bytes with
    | none => none
    | some (element, rest) => (readMany? fuel rest).map (element :: ·)

/-- Reads values up to the end of bytes. -/
def readAll? (bytes : Bytes) : Option (List Element) := readMany? bytes.length bytes

/-- Reads bytes that hold one value and nothing else. -/
def readOne? (bytes : Bytes) : Option Element :=
  match read? bytes with
  | some (element, []) => some element
  | _ => none

def writeAll (elements : List Element) : Bytes := elements.flatMap write

/-- The values inside a value with a given tag. -/
def inside? (tag : Tag) (element : Element) : Option (List Element) :=
  if element.tag = tag then readAll? element.content else none

def sequence? (element : Element) : Option (List Element) := element.inside? .sequence

def compose (tag : Tag) (elements : List Element) : Element := ⟨tag, writeAll elements⟩

/-- Whether the encodings of values do not descend. -/
def ascending : List Element → Bool
  | [] => true
  | [_] => true
  | a :: b :: rest => !Bytes.before b.write a.write && ascending (b :: rest)

/-- The values of a set, which stand in the order of their encodings. -/
def set? (element : Element) : Option (List Element) :=
  match element.inside? .set with
  | some elements => if ascending elements then some elements else none
  | none => none

end Element

end CertApproval.Der
