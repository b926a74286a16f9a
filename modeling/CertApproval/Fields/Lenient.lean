import CertApproval.Json

/-!
Lenient reading of single values: numbers and truth values may also be given as texts,
and numbers of one kind as those of another where nothing is lost.
-/

namespace CertApproval.Fields

/-- What is wrong with a value. -/
inductive FieldFault where
  | intParsing
  /-- A whole number is too long or too great to be read. -/
  | intParsingSize
  | intType
  | intFromFloat
  | finiteNumber
  | floatParsing
  | floatType
  | boolParsing
  | boolType
  | stringType
  | listType
  | recordType
  | missing
  | unknownChoice
  | tooSmall
  /-- A rule of the field itself refuses the value. -/
  | refused
  deriving DecidableEq, Repr

def FieldFault.word : FieldFault → String
  | intParsing => "int_parsing"
  | intParsingSize => "int_parsing_size"
  | intType => "int_type"
  | intFromFloat => "int_from_float"
  | finiteNumber => "finite_number"
  | floatParsing => "float_parsing"
  | floatType => "float_type"
  | boolParsing => "bool_parsing"
  | boolType => "bool_type"
  | stringType => "string_type"
  | listType => "list_type"
  | recordType => "model_type"
  | missing => "missing"
  | unknownChoice => "enum"
  | tooSmall => "greater_than_equal"
  | refused => "value_error"

/-- White space around numbers. -/
def isSpace (c : Char) : Bool :=
  let code := c.toNat
  (0x09 ≤ code ∧ code ≤ 0x0D) ∨ code = 0x20 ∨ code = 0x85 ∨ code = 0xA0 ∨ code = 0x1680 ∨
    (0x2000 ≤ code ∧ code ≤ 0x200A) ∨ code = 0x2028 ∨ code = 0x2029 ∨ code = 0x202F ∨
    code = 0x205F ∨ code = 0x3000

def trimmed (text : List Char) : List Char :=
  ((text.dropWhile isSpace).reverse.dropWhile isSpace).reverse

/-- Digits without the underscores between them. An underscore has a digit on both
sides. -/
def plainDigits? : List Char → Option (List Char)
  | [] => none
  | [c] => if c.isDigit then some [c] else none
  | c :: '_' :: rest => if c.isDigit then (plainDigits? rest).map (c :: ·) else none
  | c :: rest => if c.isDigit then (plainDigits? rest).map (c :: ·) else none

def splitSign : List Char → Bool × List Char
  | '-' :: rest => (true, rest)
  | '+' :: rest => (false, rest)
  | text => (false, text)

/-- The part before a point, if only zeros and at least one of them follow it. -/
def dropZeroPlaces (text : List Char) : List Char :=
  let whole := text.takeWhile (· ≠ '.')
  let places := text.drop (whole.length + 1)
  if !places.isEmpty ∧ places.all (· = '0') then whole else text

def isZeroMark (c : Char) : Bool := c = '0' || c = '_'

/-- The sign and the digits of a whole part, given the sign before it. Zeros in front are left off
with the underscores among them, but the last zero stays if nothing follows it. Where zeros were
left off and no minus sign came before them, one may come after them, with perhaps an underscore
behind it. -/
def splitZeros (negative : Bool) (whole : List Char) : Bool × List Char :=
  if whole.head? = some '0' then
    match negative, whole.dropWhile isZeroMark with
    | _, [] => (negative, whole.getLast?.toList)
    | false, '-' :: '_' :: core => (true, core)
    | false, '-' :: core => (true, core)
    | _, core => (negative, core)
  else (negative, whole)

def signed (negative : Bool) (value : Nat) : Int := if negative then -value else value

/-- How many places the sign of a number takes. -/
def signPlaces (negative : Bool) : Nat := if negative then 1 else 0

/-- Whether digits are those of a whole number that can be read: they begin with no zero but for
zero itself, and with a minus sign they have no more places than there may be. -/
def fits (negative : Bool) (digits : List Char) : Bool :=
  (digits.head? ≠ some '0' || digits = ['0']) &&
    digits.length + signPlaces negative ≤ Json.digitLimit

/-- A whole number as a text. -/
def readIntText? (text : String) : Option Int :=
  let (before, body) := splitSign (trimmed text.toList)
  let (negative, core) := splitZeros before (dropZeroPlaces body)
  match plainDigits? core with
  | none => none
  | some digits =>
    if fits negative digits then some (signed negative (Json.digitsValue digits)) else none

/-- Whether a text begins with a number that is too long, whatever follows it. -/
def beginsOverlong : List Char → Bool
  | '-' :: body => startsOverlong 1 body
  | body => startsOverlong 0 body
where
  startsOverlong (places : Nat) (body : List Char) : Bool :=
    body.head? ≠ some '0' && Json.digitLimit < (body.takeWhile Char.isDigit).length + places

/-- What is wrong with a text that is no whole number. -/
def intTextFault (text : String) : FieldFault :=
  if beginsOverlong text.toList then .intParsingSize else .intParsing

def isDigits (text : List Char) : Bool := !text.isEmpty && text.all Char.isDigit

/-- Whether a character stands before an exponent. -/
def isMark (c : Char) : Bool := c = 'e' || c = 'E'

/-- The exponent of a decimal number with its mark, or none. -/
def readExponent? : List Char → Option Int
  | [] => some 0
  | _ :: rest =>
    let (negative, digits) := splitSign rest
    if isDigits digits then some (signed negative (Json.digitsValue digits)) else none

/-- A decimal number by its digits before and after the point and its exponent. -/
def ofPlaces? (negative : Bool) (whole places : List Char) (power : Int) :
    Option Floating.Double :=
  if isDigits (whole ++ places) then
    some (Floating.ofDecimal negative (Json.digitsValue (whole ++ places))
      (power - places.length))
  else none

/-- A positive decimal number: digits with at most one point, and perhaps an exponent. -/
def readDecimal? (negative : Bool) (text : List Char) : Option Floating.Double :=
  let size := text.takeWhile fun c => !isMark c
  let whole := size.takeWhile (· ≠ '.')
  (readExponent? (text.dropWhile fun c => !isMark c)).bind
    (ofPlaces? negative whole (size.drop (whole.length + 1)))

/-- A double as it is written without blanks and underscores. -/
def readPlainFloat? (text : List Char) : Option Floating.Double :=
  let (negative, body) := splitSign text
  let word := String.ofList (body.map Char.toLower)
  if word = "inf" ∨ word = "infinity" then some (Floating.infinity negative)
  else if word = "nan" then some (Floating.undefined negative)
  else readDecimal? negative body

/-- A text without the underscores in it, each of which has to stand between two other
characters. -/
def withoutUnderscores? (text : List Char) : Option (List Char) :=
  let pieces := Text.splitAtChar '_' text
  if '_' ∉ text ∨ [] ∈ pieces then none else some pieces.flatten

/-- A double as a text. Blanks may stand around it, or else underscores in it. -/
def readFloatText? (text : String) : Option Floating.Double :=
  match readPlainFloat? (trimmed text.toList) with
  | some value => some value
  | none => (withoutUnderscores? text.toList).bind readPlainFloat?

/-- The texts of the truth values. Their case does not count, and nothing may stand around
them. -/
def readBoolText? (text : String) : Option Bool :=
  let word := String.ofList (text.toList.map Char.toLower)
  if ["1", "t", "true", "y", "yes", "on"].contains word then some true
  else if ["0", "f", "false", "n", "no", "off"].contains word then some false
  else none

/-- From where on a double is too great to be taken for a whole number. -/
def wholeLimit : Nat := Nat.pow 2 63

/-- The whole number that a double is. -/
def wholeOf (x : Floating.Double) : Except FieldFault Int :=
  match Floating.parts x with
  | .finite negative significand exponent =>
    let (n, d) := Floating.scale significand 1 exponent
    if n % d ≠ 0 then .error .intFromFloat
    else if n / d < wholeLimit then .ok (signed negative (n / d))
    else .error .intParsingSize
  | _ => .error .finiteNumber

def readInt : Json → Except FieldFault Int
  | .int value => .ok value
  | .bool value => .ok (if value then 1 else 0)
  | .float value => wholeOf value
  | .string text =>
    match readIntText? text with
    | some value => .ok value
    | none => .error (intTextFault text)
  | _ => .error .intType

def readFloat : Json → Except FieldFault Floating.Double
  | .int value =>
    let x := Floating.ofInt value
    if Floating.isFinite x then .ok x else .error .floatType
  | .bool value => .ok (Floating.ofInt (if value then 1 else 0))
  | .float value => .ok value
  | .string text =>
    match readFloatText? text with
    | some value => .ok value
    | none => .error .floatParsing
  | _ => .error .floatType

/-- A truth value by its number. Numbers of more than 64 bits are not taken for one at all. -/
def boolOfInt (value : Int) : Except FieldFault Bool :=
  if value = 0 then .ok false
  else if value = 1 then .ok true
  else if -wholeLimit ≤ value ∧ value < wholeLimit then .error .boolParsing
  else .error .boolType

def readBool : Json → Except FieldFault Bool
  | .bool value => .ok value
  | .int value => boolOfInt value
  | .float value =>
    match wholeOf value with
    | .ok whole => boolOfInt whole
    | .error _ => .error .boolType
  | .string text =>
    match readBoolText? text with
    | some value => .ok value
    | none => .error .boolParsing
  | _ => .error .boolType

/-- A text. Nothing else is taken for a text. -/
def readText : Json → Except FieldFault String
  | .string text => .ok text
  | _ => .error .stringType

def readOptionalText : Json → Except FieldFault (Option String)
  | .null => .ok none
  | .string text => .ok (some text)
  | _ => .error .stringType

end CertApproval.Fields
