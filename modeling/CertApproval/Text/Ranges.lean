/-!
Sets of code points given as ascending ranges, and the text form in which the
tables of this library write them: hexadecimal bounds, `41-5A 61-7A AA`.
-/

namespace CertApproval.Text

/-- The value of one hexadecimal digit. -/
def hexDigit? (c : Char) : Option Nat :=
  if '0' ≤ c ∧ c ≤ '9' then some (c.toNat - '0'.toNat)
  else if 'A' ≤ c ∧ c ≤ 'F' then some (c.toNat - 'A'.toNat + 10)
  else if 'a' ≤ c ∧ c ≤ 'f' then some (c.toNat - 'a'.toNat + 10)
  else none

/-- The number that a run of hexadecimal digits denotes. A character that is no
digit counts as zero, which the tables never contain. -/
def hexNat (digits : List Char) : Nat :=
  digits.foldl (fun value c => value * 16 + (hexDigit? c).getD 0) 0

/-- Splits at every occurrence of a separator, keeping empty pieces. -/
def splitAtChar (separator : Char) : List Char → List (List Char)
  | [] => [[]]
  | c :: rest =>
    match splitAtChar separator rest with
    | [] => [[c]]
    | piece :: pieces =>
      if c = separator then [] :: piece :: pieces else (c :: piece) :: pieces

theorem splitAtChar_ne_nil (separator : Char) (text : List Char) :
    splitAtChar separator text ≠ [] := by
  cases text with
  | nil => simp [splitAtChar]
  | cons c rest =>
    unfold splitAtChar
    split
    · simp
    · split <;> simp

/-- A set of code points as ascending, disjoint, closed ranges. -/
structure Ranges where
  bounds : Array (Nat × Nat)

namespace Ranges

/-- Reads one range, `41-5A`, or a single code point, `AA`. -/
def readBounds (token : List Char) : Nat × Nat :=
  match splitAtChar '-' token with
  | [low, high] => (hexNat low, hexNat high)
  | _ => (hexNat token, hexNat token)

/-- The words of lines that have single spaces between words. -/
def words (lines : List String) : List (List Char) :=
  lines.flatMap fun line => splitAtChar ' ' line.toList

def ofLines (lines : List String) : Ranges := ⟨((words lines).map readBounds).toArray⟩

/-- Binary search between two positions of the table. -/
def searchBetween (bounds : Array (Nat × Nat)) (code low high : Nat) : Bool :=
  if _open : low < high then
    let middle := (low + high) / 2
    match bounds[middle]? with
    | none => false
    | some (first, last) =>
      if code < first then searchBetween bounds code low middle
      else if last < code then searchBetween bounds code (middle + 1) high
      else true
  else false
termination_by high - low

def contains (ranges : Ranges) (code : Nat) : Bool :=
  searchBetween ranges.bounds code 0 ranges.bounds.size

end Ranges

end CertApproval.Text
