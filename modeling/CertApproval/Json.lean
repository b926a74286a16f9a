import CertApproval.Floating.Shortest
import CertApproval.Table
import CertApproval.Text.Ranges
import CertApproval.Text.Quoted

/-!
Structured values in their text form: reading and printing. Whole numbers are kept
apart from doubles. Their size has no bound, but in a text they have no more digits than
can be read. Beside the standard grammar the names of the two infinities and of the
undefined number are read and printed.
-/

namespace CertApproval

/-- A structured value. The members of an object keep their order. -/
inductive Json where
  | null
  | bool (value : Bool)
  | int (value : Int)
  | float (value : Floating.Double)
  | string (value : String)
  | array (items : List Json)
  | object (members : List (String × Json))

namespace Json

/-- How reading a text fails. -/
inductive Fault where
  /-- The text is not the form of a value. -/
  | malformed
  /-- A whole number has more digits than can be read. -/
  | overlong
  deriving DecidableEq, Repr

/-- Something read from the front of a text, with the text that follows it. -/
abbrev Rest (α : Type) := Except Fault (α × List Char)

/-- The white space that may stand between tokens. -/
def isSpace (c : Char) : Bool := c = ' ' ∨ c = '\t' ∨ c = '\n' ∨ c = '\r'

def skipSpace (text : List Char) : List Char := text.dropWhile isSpace

/-- The greatest number of digits that a whole number may be written with. -/
def digitLimit : Nat := 4300

/-- The natural that a run of decimal digits denotes. -/
def digitsValue (digits : List Char) : Nat :=
  digits.foldl (fun value c => value * 10 + (c.toNat - '0'.toNat)) 0

/-- Four hexadecimal digits as a code unit. -/
def readUnit? : List Char → Option (Nat × List Char)
  | a :: b :: c :: d :: rest =>
    match Text.hexDigit? a, Text.hexDigit? b, Text.hexDigit? c, Text.hexDigit? d with
    | some a, some b, some c, some d => some (((a * 16 + b) * 16 + c) * 16 + d, rest)
    | _, _, _, _ => none
  | _ => none

/-- What an unpaired surrogate is replaced by. -/
def replacement : Char := Char.ofNat 0xFFFD

/-- The character after `\u`. Two units that form a surrogate pair are one character. -/
def readEscapedUnit (text : List Char) : Rest Char :=
  match readUnit? text with
  | none => .error .malformed
  | some (unit, rest) =>
    if unit < 0xD800 ∨ 0xDFFF < unit then .ok (Char.ofNat unit, rest)
    else if 0xDC00 ≤ unit then .ok (replacement, rest)
    else
      match rest with
      | '\\' :: 'u' :: more =>
        match readUnit? more with
        | some (low, after) =>
          if 0xDC00 ≤ low ∧ low ≤ 0xDFFF then
            .ok (Char.ofNat (0x10000 + (unit - 0xD800) * 0x400 + (low - 0xDC00)), after)
          else .ok (replacement, rest)
        | none => .ok (replacement, rest)
      | _ => .ok (replacement, rest)

/-- The character that a one-letter escape stands for. -/
def simpleEscape? (c : Char) : Option Char :=
  match c with
  | '"' => some '"'
  | '\\' => some '\\'
  | '/' => some '/'
  | 'b' => some (Char.ofNat 8)
  | 'f' => some (Char.ofNat 12)
  | 'n' => some '\n'
  | 'r' => some '\r'
  | 't' => some '\t'
  | _ => none

/-- The rest of a string after its opening quote, read into `done` in reverse. -/
def readString : (fuel : Nat) → (done : List Char) → List Char → Rest String
  | 0, _, _ => .error .malformed
  | fuel + 1, done, text =>
    match text with
    | [] => .error .malformed
    | '"' :: rest => .ok (String.ofList done.reverse, rest)
    | '\\' :: 'u' :: rest =>
      match readEscapedUnit rest with
      | .ok (c, after) => readString fuel (c :: done) after
      | .error fault => .error fault
    | '\\' :: c :: rest =>
      match simpleEscape? c with
      | some d => readString fuel (d :: done) rest
      | none => .error .malformed
    | c :: rest =>
      if c.toNat < 0x20 then .error .malformed else readString fuel (c :: done) rest

/-- The fraction digits after a point. A point without a digit after it is not part of the
number. -/
def readFraction (text : List Char) : Option (List Char) × List Char :=
  match text with
  | '.' :: rest =>
    let digits := rest.takeWhile Char.isDigit
    if digits.isEmpty then (none, text) else (some digits, rest.drop digits.length)
  | _ => (none, text)

/-- The exponent after its mark. A mark without a digit after it is not part of the number. -/
def readExponent (text : List Char) : Option Int × List Char :=
  let signed (negative : Bool) (rest : List Char) : Option Int × List Char :=
    let digits := rest.takeWhile Char.isDigit
    if digits.isEmpty then (none, text)
    else
      let value := Int.ofNat (digitsValue digits)
      (some (if negative then -value else value), rest.drop digits.length)
  match text with
  | c :: rest =>
    if c = 'e' ∨ c = 'E' then
      match rest with
      | '-' :: more => signed true more
      | '+' :: more => signed false more
      | _ => signed false rest
    else (none, text)
  | [] => (none, text)

/-- A number. With neither a fraction nor an exponent it is whole and is read exactly. -/
def readNumber (text : List Char) : Rest Json :=
  let (negative, body) := match text with
    | '-' :: rest => (true, rest)
    | _ => (false, text)
  let whole := match body with
    | '0' :: _ => ['0']
    | _ => body.takeWhile Char.isDigit
  if whole.isEmpty then .error .malformed
  else
    let (fraction, afterFraction) := readFraction (body.drop whole.length)
    let (exponent, rest) := readExponent afterFraction
    match fraction, exponent with
    | none, none =>
      if digitLimit < whole.length then .error .overlong
      else
        let value := Int.ofNat (digitsValue whole)
        .ok (int (if negative then -value else value), rest)
    | _, _ =>
      let places := fraction.getD []
      .ok (float (Floating.ofDecimal negative (digitsValue (whole ++ places))
        (exponent.getD 0 - Int.ofNat places.length)), rest)

/-- Removes a word from the front of a text. -/
def afterWord? : (word text : List Char) → Option (List Char)
  | [], text => some text
  | _, [] => none
  | w :: word, c :: text => if w = c then afterWord? word text else none

/-- The words that stand for values. -/
def words : List (List Char × Json) :=
  [("null".toList, null), ("true".toList, bool true), ("false".toList, bool false),
   ("NaN".toList, float (Floating.undefined false)),
   ("Infinity".toList, float (Floating.infinity false)),
   ("-Infinity".toList, float (Floating.infinity true))]

def readWord? (text : List Char) : Option (Json × List Char) :=
  words.findSome? fun (word, value) => (afterWord? word text).map fun rest => (value, rest)

mutual

/-- A value at the front of a text that begins with no white space. -/
def readValue : (fuel : Nat) → List Char → Rest Json
  | 0, _ => .error .malformed
  | fuel + 1, text =>
    match text with
    | '"' :: rest => (readString (rest.length + 1) [] rest).map fun (s, after) => (string s, after)
    | '[' :: rest =>
      match skipSpace rest with
      | ']' :: after => .ok (array [], after)
      | inside => readItems fuel [] inside
    | '{' :: rest =>
      match skipSpace rest with
      | '}' :: after => .ok (object [], after)
      | inside => readMembers fuel [] inside
    | _ =>
      match readWord? text with
      | some found => .ok found
      | none => readNumber text

/-- The items of an array that has at least one more. -/
def readItems : (fuel : Nat) → (done : List Json) → List Char → Rest Json
  | 0, _, _ => .error .malformed
  | fuel + 1, done, text =>
    match readValue fuel text with
    | .error fault => .error fault
    | .ok (item, after) =>
      match skipSpace after with
      | ',' :: rest => readItems fuel (item :: done) (skipSpace rest)
      | ']' :: rest => .ok (array (item :: done).reverse, rest)
      | _ => .error .malformed

/-- The members of an object that has at least one more. -/
def readMembers : (fuel : Nat) → (done : List (String × Json)) → List Char → Rest Json
  | 0, _, _ => .error .malformed
  | fuel + 1, done, text =>
    match text with
    | '"' :: rest =>
      match readString (rest.length + 1) [] rest with
      | .error fault => .error fault
      | .ok (name, afterName) =>
        match skipSpace afterName with
        | ':' :: afterColon =>
          match readValue fuel (skipSpace afterColon) with
          | .error fault => .error fault
          | .ok (value, after) =>
            let members := Table.put name value done
            match skipSpace after with
            | ',' :: more => readMembers fuel members (skipSpace more)
            | '}' :: more => .ok (object members, more)
            | _ => .error .malformed
        | _ => .error .malformed
    | _ => .error .malformed

end

/-- Reads a text that holds one value and nothing else but white space. -/
def read (text : String) : Except Fault Json :=
  let characters := text.toList
  match readValue (2 * characters.length + 2) (skipSpace characters) with
  | .ok (value, rest) => if (skipSpace rest).isEmpty then .ok value else .error .malformed
  | .error fault => .error fault

/-- The value of a text that holds one. -/
def parse (text : String) : Option Json := (read text).toOption

/-- One character of a string in its printed form. -/
def printChar (c : Char) : List Char :=
  if c = '"' then ['\\', '"']
  else if c = '\\' then ['\\', '\\']
  else if c = '\n' then ['\\', 'n']
  else if c = '\r' then ['\\', 'r']
  else if c = '\t' then ['\\', 't']
  else if c.toNat < 0x20 then ['\\', 'u'] ++ Text.hexDigits 4 c.toNat
  else [c]

def printString (s : String) : String :=
  String.ofList ('"' :: s.toList.flatMap printChar ++ ['"'])

def printFloat (x : Floating.Double) : String :=
  match Floating.parts x with
  | .undefined => "NaN"
  | .infinite negative => if negative then "-Infinity" else "Infinity"
  | .finite .. => Floating.text x

mutual

/-- A value on one line, without white space between tokens. -/
def print : Json → String
  | null => "null"
  | bool value => if value then "true" else "false"
  | int value => toString value
  | float value => printFloat value
  | string value => printString value
  | array items => "[" ++ printItems items ++ "]"
  | object members => "\x7b" ++ printMembers members ++ "\x7d"

/-- The items of an array, with commas between them. -/
def printItems : List Json → String
  | [] => ""
  | [item] => print item
  | item :: items => print item ++ "," ++ printItems items

/-- The members of an object, with commas between them. -/
def printMembers : List (String × Json) → String
  | [] => ""
  | [(name, value)] => printString name ++ ":" ++ print value
  | (name, value) :: members =>
    printString name ++ ":" ++ print value ++ "," ++ printMembers members

end

/-- The member of an object with a given name. -/
def member? (value : Json) (name : String) : Option Json :=
  match value with
  | object members => members.lookup name
  | _ => none

end Json

end CertApproval
