import CertApproval.Bytes

/-!
Base-64 text: three bytes as four characters, with padding where the last group is
short. Two readers differ in what they let pass. The strict one asks for padding that
completes the group; the lenient one lets padding be absent but asks for zero bits
where the last character says more than it should.
-/

namespace CertApproval.Base64

def alphabet : List Char :=
  "ABCDEFGHIJKLMNOPQRSTUVWXYZabcdefghijklmnopqrstuvwxyz0123456789+/".toList

/-- The value of a character. -/
def value? (c : Char) : Option Nat :=
  if 'A' ≤ c ∧ c ≤ 'Z' then some (c.toNat - 'A'.toNat)
  else if 'a' ≤ c ∧ c ≤ 'z' then some (c.toNat - 'a'.toNat + 26)
  else if '0' ≤ c ∧ c ≤ '9' then some (c.toNat - '0'.toNat + 52)
  else if c = '+' then some 62
  else if c = '/' then some 63
  else none

def char (value : Nat) : Char := alphabet.getD value '/'

def padding : Char := '='

def encode : Bytes → List Char
  | a :: b :: c :: rest =>
    let group := (a.toNat * 256 + b.toNat) * 256 + c.toNat
    [char (group / 262144), char (group / 4096 % 64), char (group / 64 % 64), char (group % 64)] ++
      encode rest
  | [a, b] =>
    let group := (a.toNat * 256 + b.toNat) * 4
    [char (group / 4096), char (group / 64 % 64), char (group % 64), padding]
  | [a] => [char (a.toNat / 4), char (a.toNat % 4 * 16), padding, padding]
  | [] => []

/-- The three bytes of four values. -/
def quad (a b c d : Nat) : Bytes := Bytes.ofNat 3 (((a * 64 + b) * 64 + c) * 64 + d)

/-- Reads full groups. What remains has fewer than four characters, or begins with a
character outside the alphabet within its first four. -/
def readQuads : List Char → Bytes × List Char
  | a :: b :: c :: d :: rest =>
    match value? a, value? b, value? c, value? d with
    | some va, some vb, some vc, some vd =>
      let (bytes, remaining) := readQuads rest
      (quad va vb vc vd ++ bytes, remaining)
    | _, _, _, _ => ([], a :: b :: c :: d :: rest)
  | short => ([], short)

/-- The bytes of a last group of two or three values, and what its last value says beyond
them. -/
def tail? (values : List Nat) : Option (Bytes × Nat) :=
  match values with
  | [] => some ([], 0)
  | [a, b] => some (Bytes.ofNat 1 (a * 4 + b / 16), b % 16)
  | [a, b, c] => some (Bytes.ofNat 2 ((a * 64 + b) * 16 + c / 4), c % 4)
  | _ => none

/-- The strict reader. Bits beyond the bytes need not be zero, and after a full group any number
of padding characters is let pass, unless it begins the text. -/
def decode? (text : List Char) : Option Bytes :=
  let (bytes, remaining) := readQuads text
  let values := remaining.takeWhile fun c => (value? c).isSome
  let pads := remaining.drop values.length
  if !pads.all (· = padding) then none
  else
    match tail? (values.filterMap value?) with
    | none => none
    | some (last, _) =>
      if values.isEmpty then
        if bytes.isEmpty ∧ !pads.isEmpty then none else some bytes
      else if values.length + pads.length = 4 then some (bytes ++ last)
      else none

/-- The lenient reader. Padding may be absent or too short, but a full group has none. -/
def decodeLenient? (text : List Char) : Option Bytes :=
  let (bytes, remaining) := readQuads text
  let values := remaining.takeWhile fun c => (value? c).isSome
  let pads := remaining.drop values.length
  if !pads.all (· = padding) then none
  else
    match tail? (values.filterMap value?) with
    | none => none
    | some (last, beyond) =>
      if values.isEmpty then if pads.isEmpty then some bytes else none
      else if values.length + pads.length ≤ 4 ∧ beyond = 0 then some (bytes ++ last)
      else none

end CertApproval.Base64
