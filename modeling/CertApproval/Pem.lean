import CertApproval.Base64
import CertApproval.Text.Blank
import CertApproval.Text.Ranges

/-!
Armoured blocks: base-64 text between a line that names what it holds and a line that
names it again, any text around. Lines with headers may stand before the data, with an
empty line after them.
-/

namespace CertApproval

structure Pem where
  label : String
  contents : Bytes

namespace Pem

/-- What opens the line before a block. -/
def beginMark : Bytes := Bytes.ofText "-----BEGIN "

/-- What opens the line after a block. -/
def endMark : Bytes := Bytes.ofText "-----END "

/-- What closes both lines. -/
def dashes : Bytes := Bytes.ofText "-----"

/-- The bytes before a mark and those after it. `pending` is what of the mark is still to come
and `done` the bytes so far, in reverse. The scan does not go back: the byte that shows that a
part of the mark is not the mark is passed over too, even if it could begin one. -/
def splitFrom (mark : Bytes) : (pending done : Bytes) → Bytes → Option (Bytes × Bytes)
  | [], done, rest => some ((done.drop mark.length).reverse, rest)
  | _ :: _, _, [] => none
  | m :: pending, done, byte :: rest =>
    if byte = m then splitFrom mark pending (byte :: done) rest
    else splitFrom mark mark (byte :: done) rest

/-- The bytes before the first mark that the scan finds, and those after it. -/
def splitAt? (mark bytes : Bytes) : Option (Bytes × Bytes) := splitFrom mark mark [] bytes

/-- Blanks between the lines of a block. -/
def isSpace (byte : UInt8) : Bool := byte = 0x20 ∨ byte = 0x09 ∨ byte = 0x0A ∨ byte = 0x0D

/-- Divides a body into its headers and its data, at the first empty line. -/
def divide (body : Bytes) : Bytes × Bytes :=
  match splitAt? [0x0A, 0x0A] body with
  | some parts => parts
  | none =>
    match splitAt? [0x0D, 0x0A, 0x0D, 0x0A] body with
    | some parts => parts
    | none => ([], body)

/-- A block as it stands in the text. -/
structure Raw where
  opening : Bytes
  body : Bytes
  closing : Bytes

/-- The first block of a text, and the text after it. -/
def readRaw? (text : Bytes) : Option (Raw × Bytes) :=
  match splitAt? beginMark text with
  | none => none
  | some (_, afterBegin) =>
    match splitAt? dashes afterBegin with
    | none => none
    | some (opening, afterOpening) =>
      match splitAt? endMark (afterOpening.dropWhile isSpace) with
      | none => none
      | some (body, afterBody) =>
        match splitAt? dashes afterBody with
        | none => none
        | some (closing, rest) => some (⟨opening, body, closing⟩, rest.dropWhile isSpace)

/-- All blocks of a text; `fuel` bounds their number. -/
def readRaws : (fuel : Nat) → Bytes → List Raw
  | 0, _ => []
  | fuel + 1, text =>
    match readRaw? text with
    | none => []
    | some (raw, rest) => raw :: readRaws fuel rest

/-- Lines end at a line feed; a carriage return before it belongs to the end. -/
def lines (text : List Char) : List (List Char) :=
  let pieces := Text.splitAtChar '\n' text
  let pieces := if pieces.getLast? = some [] then pieces.dropLast else pieces
  pieces.map fun line => if line.getLast? = some '\r' then line.dropLast else line

/-- The block that stands in the text, if its two labels agree, its headers have colons
and its data is base-64 text. -/
def ofRaw? (raw : Raw) : Option Pem :=
  let (headers, data) := divide raw.body
  match Bytes.toText? raw.opening, Bytes.toText? raw.closing, Bytes.toText? data,
    Bytes.toText? headers with
  | some opening, some closing, some data, some headers =>
    if opening.isEmpty ∨ opening ≠ closing then none
    else if !(lines headers.toList).all (·.contains ':') then none
    else
      (Base64.decodeLenient? (data.toList.filter fun c => !Text.isBlank c)).map fun contents =>
        ⟨opening, contents⟩
  | _, _, _, _ => none

/-- All blocks of a text. One that is broken spoils the whole text. -/
def readAll? (text : Bytes) : Option (List Pem) := (readRaws text.length text).mapM ofRaw?

/-- Cuts characters into lines of a given length, each with its end. -/
def wrap (width : Nat) : (fuel : Nat) → List Char → List Char
  | 0, _ => []
  | fuel + 1, text =>
    if text.isEmpty then [] else text.take width ++ ['\n'] ++ wrap width fuel (text.drop width)

/-- Writes a block, with sixty-four characters to a line. -/
def write (pem : Pem) : String :=
  let data := Base64.encode pem.contents
  "-----BEGIN " ++ pem.label ++ "-----\n" ++ String.ofList (wrap 64 data.length data) ++
    "-----END " ++ pem.label ++ "-----\n"

end Pem

end CertApproval
