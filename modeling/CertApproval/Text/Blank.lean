/-!
Blank characters: the separators and the control characters that end a line or
leave a gap. Trimming removes them from both ends of a text.
-/

namespace CertApproval.Text

/-- Whether a character is blank, in the widest sense: every kind of space, and the
controls that separate lines, columns and records. -/
def isBlank (c : Char) : Bool :=
  let code := c.toNat
  (0x09 ≤ code ∧ code ≤ 0x0D) ∨ (0x1C ≤ code ∧ code ≤ 0x20) ∨ code = 0x85 ∨ code = 0xA0 ∨
    code = 0x1680 ∨ (0x2000 ≤ code ∧ code ≤ 0x200A) ∨ code = 0x2028 ∨ code = 0x2029 ∨
    code = 0x202F ∨ code = 0x205F ∨ code = 0x3000

/-- A blank of the ASCII range alone: tab to carriage return, and the space. -/
def isAsciiBlank (c : Char) : Bool :=
  let code := c.toNat
  (0x09 ≤ code ∧ code ≤ 0x0D) ∨ code = 0x20

def trimStart (drop : Char → Bool) (text : List Char) : List Char :=
  text.dropWhile drop

def trimEnd (drop : Char → Bool) (text : List Char) : List Char :=
  (text.reverse.dropWhile drop).reverse

def trimBoth (drop : Char → Bool) (text : List Char) : List Char :=
  trimEnd drop (trimStart drop text)

/-- A text without the blanks at its ends. -/
def trim (text : String) : String :=
  String.ofList (trimBoth isBlank text.toList)

end CertApproval.Text
