import CertApproval.Table
import CertApproval.Text.Blank

/-!
Files of assignments, as a rule one to a line. A value may stand in quotes, and may then go
over several lines; a line that cannot be read is passed over.
-/

namespace CertApproval.Settings

open CertApproval.Text (isBlank)

/-- An assignment. A name without an equals sign has no value. -/
structure EnvEntry where
  name : String
  value : Option String
  deriving DecidableEq, Repr

namespace EnvFile

/-- A text in which every line ends with a line feed. -/
def unifyLines : List Char → List Char
  | [] => []
  | '\r' :: '\n' :: rest => '\n' :: unifyLines rest
  | '\r' :: rest => '\n' :: unifyLines rest
  | c :: rest => c :: unifyLines rest

/-- A text without the mark that may stand before everything else. -/
def dropMark : List Char → List Char
  | '\uFEFF' :: rest => rest
  | text => text

/-- A blank within a line. -/
def isInlineBlank (c : Char) : Bool := isBlank c && c ≠ '\n'

def skipInline (text : List Char) : List Char := text.dropWhile isInlineBlank

def skipLine (text : List Char) : List Char := (text.dropWhile (· ≠ '\n')).drop 1

/-- The word that may stand before an assignment. -/
def exportWord : List Char := "export".toList

/-- Passes over the word that may stand before an assignment. -/
def skipExport (text : List Char) : List Char :=
  let after := text.drop exportWord.length
  if text.take exportWord.length = exportWord ∧ (after.head?.any isInlineBlank) then
    skipInline after
  else text

/-- A text in quotes, after the first quote. A backslash takes a quote into the text, unless no
other quote could end it. -/
def readQuoted (quote : Char) : List Char → Option (List Char × List Char)
  | [] => none
  | [c] => if c = quote then some ([], []) else none
  | c :: next :: rest =>
    if c = quote then some ([], next :: rest)
    else if c = '\\' ∧ next = quote then
      match readQuoted quote rest with
      | some (inside, after) => some (c :: next :: inside, after)
      | none => some ([c], rest)
    else (readQuoted quote (next :: rest)).map fun (inside, after) => (c :: inside, after)

/-- What a backslash and a letter stand for between double quotes. -/
def doubleEscape? : Char → Option Char
  | '\\' => some '\\'
  | '\'' => some '\''
  | '"' => some '"'
  | 'a' => some '\x07'
  | 'b' => some '\x08'
  | 'f' => some '\x0C'
  | 'n' => some '\n'
  | 'r' => some '\r'
  | 't' => some '\t'
  | 'v' => some '\x0B'
  | _ => none

/-- What a backslash and a character stand for between single quotes. -/
def singleEscape? : Char → Option Char
  | '\\' => some '\\'
  | '\'' => some '\''
  | _ => none

/-- Replaces backslashes and what they stand before. -/
def unescape (escape? : Char → Option Char) : List Char → List Char
  | [] => []
  | [c] => [c]
  | c :: next :: rest =>
    match c, escape? next with
    | '\\', some meant => meant :: unescape escape? rest
    | _, _ => c :: unescape escape? (next :: rest)

/-- A line up to a remark, which begins with a sharp after a blank. -/
def cutRemark : List Char → List Char
  | [] => []
  | c :: rest =>
    if isBlank c ∧ (rest.dropWhile isBlank).head? = some '#' then [] else c :: cutRemark rest

/-- The value at the front of a text, and what follows it. -/
def readValue : List Char → Option (List Char × List Char)
  | '\'' :: rest => (readQuoted '\'' rest).map fun (inside, after) =>
    (unescape singleEscape? inside, after)
  | '"' :: rest => (readQuoted '"' rest).map fun (inside, after) =>
    (unescape doubleEscape? inside, after)
  | text =>
    let line := text.takeWhile (· ≠ '\n')
    some (Text.trimEnd isBlank (cutRemark line), text.drop line.length)

/-- Whether a character can be part of a name without quotes. -/
def isNameChar (c : Char) : Bool := c ≠ '=' && c ≠ '#' && !isBlank c

/-- The name at the front of a text, and what follows it. -/
def readName (text : List Char) : Option (List Char × List Char) :=
  match text with
  | '\'' :: rest =>
    let name := rest.takeWhile (· ≠ '\'')
    match rest.drop name.length with
    | _ :: after => if name.isEmpty then none else some (name, after)
    | [] => none
  | _ =>
    let name := text.takeWhile isNameChar
    if name.isEmpty then none else some (name, text.drop name.length)

/-- The end of a line, before which a remark may stand. The answer says whether nothing else
stands there, and gives what follows the line. -/
def finishLine (text : List Char) : Bool × List Char :=
  let afterBlanks := skipInline text
  match afterBlanks with
  | '#' :: _ => (true, skipLine afterBlanks)
  | [] => (true, [])
  | c :: rest => if c = '\n' then (true, rest) else (false, skipLine afterBlanks)

/-- An assignment that begins at the front of a text, if it can be read, and what follows
its last line. -/
def readAssignment (text : List Char) : Option EnvEntry × List Char :=
  match readName text with
  | none => (none, skipLine text)
  | some (name, afterName) =>
    match skipInline afterName with
    | '=' :: afterSign =>
      let valueText := skipInline afterSign
      match readValue valueText with
      | none => (none, skipLine valueText)
      | some (value, afterValue) =>
        let (finished, rest) := finishLine afterValue
        (if finished then some ⟨String.ofList name, some (String.ofList value)⟩ else none, rest)
    | afterBlanks =>
      let (finished, rest) := finishLine afterBlanks
      (if finished then some ⟨String.ofList name, none⟩ else none, rest)

/-- The next assignment of a text, if it can be read, and what follows it. -/
def readEntry (text : List Char) : Option EnvEntry × List Char :=
  let text := skipExport text
  match text with
  | '#' :: _ => (none, skipLine text)
  | _ => readAssignment text

/-- The assignments of a text, of which there are at most `fuel`. -/
def entriesFrom : (fuel : Nat) → List Char → List EnvEntry
  | 0, _ => []
  | fuel + 1, text =>
    match text.dropWhile isBlank with
    | [] => []
    | text =>
      let (entry, rest) := readEntry text
      entry.toList ++ entriesFrom fuel rest

/-- The assignments of a file. -/
def read (text : String) : List EnvEntry :=
  let characters := dropMark (unifyLines text.toList)
  entriesFrom (characters.length + 1) characters

end EnvFile

end CertApproval.Settings
