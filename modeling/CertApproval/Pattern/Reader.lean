import CertApproval.Pattern.Syntax
import CertApproval.Text.Classes
import CertApproval.Text.Blank

/-!
Reading patterns. A text is first cut into tokens: single characters, and backslashes with
the character after them. Groups are numbered in the order in which they open; a group may
be named, referred to once it is closed, and asked about at any time.
-/

namespace CertApproval.Pattern

/-- Why a text is no pattern. -/
inductive PatternFault where
  | malformed
  /-- A number of repetitions that is too large. -/
  | countTooLarge
  /-- A number of repetitions with too many digits. -/
  | numeralTooLong
  /-- Switches that exclude each other. -/
  | conflictingSwitches
  deriving DecidableEq, Repr

inductive Token where
  | plain (c : Char)
  | escaped (c : Char)
  /-- A backslash at the end of the text. -/
  | dangling
  deriving DecidableEq, Repr

def tokens : List Char → List Token
  | [] => []
  | ['\\'] => [.dangling]
  | '\\' :: c :: rest => .escaped c :: tokens rest
  | c :: rest => .plain c :: tokens rest

/-- The switches that letters stand for. -/
inductive Flag where
  | caseless
  | locale
  | lineAnchors
  | pointMatchesAll
  | spaced
  | ascii
  | template
  | unicode
  deriving DecidableEq, Repr

namespace Flag

/-- The switch that a letter stands for. -/
def ofChar? : Char → Option Flag
  | 'i' => some caseless
  | 'L' => some locale
  | 'm' => some lineAnchors
  | 's' => some pointMatchesAll
  | 'x' => some spaced
  | 'a' => some ascii
  | 't' => some template
  | 'u' => some unicode
  | _ => none

/-- Whether a switch says which characters there are. -/
def isAlphabet (flag : Flag) : Bool := flag = ascii || flag = locale || flag = unicode

/-- The change that switches make when some are turned on and some off. -/
def change (on off : List Flag) : SwitchChange where
  caseless := setting caseless
  lineAnchors := setting lineAnchors
  pointMatchesAll := setting pointMatchesAll
  asciiOnly :=
    if on.contains ascii then some true else if on.contains unicode then some false else none
where
  setting (flag : Flag) : Option Bool :=
    if off.contains flag then some false else if on.contains flag then some true else none

end Flag

/-- The code points of characters by name. Names are not part of how patterns are read: a pattern
may use whatever name has one. -/
abbrev Naming := List Char → Option Nat

/-- What is known while a pattern is read. -/
structure Reading where
  naming : Naming
  /-- The tokens that are still to be read. The first of them is never a dangling
  backslash. -/
  rest : List Token
  /-- The switches of the whole pattern. -/
  flags : List Flag := []
  names : List (String × Nat) := []
  /-- The widths of the groups, by number less one; a group that is open has none yet. -/
  groups : List (Option Width) := []
  /-- Within a part that looks behind, the number of groups that opened before it. -/
  behindFrom : Option Nat := none
  /-- The groups that a condition asks about. -/
  asked : List Nat := []

/-- A step of reading. -/
abbrev Reader (α : Type) := StateT Reading (Except PatternFault) α

namespace Reader

def fail {α : Type} : Reader α := throw .malformed

def peek : Reader (Option Token) := return (← get).rest.head?

/-- Continues at given tokens. -/
def seek (rest : List Token) : Reader Unit :=
  if rest.head? = some .dangling then fail else modify fun reading => { reading with rest }

def take : Reader (Option Token) := do
  match (← get).rest with
  | [] => return none
  | token :: rest =>
    seek rest
    return some token

/-- The next token, which must be there. -/
def require : Reader Token := do
  match ← take with
  | some token => return token
  | none => fail

/-- Takes a given character if it is next. -/
def accept (c : Char) : Reader Bool := do
  if (← peek) = some (.plain c) then
    let _ ← take
    return true
  else return false

/-- Takes a given character, which must be next. -/
def expect (c : Char) : Reader Unit := do
  if ← accept c then return () else fail

/-- The characters of a class that are next, at most a given number of them. -/
def takeWhile (holds : Char → Bool) : (count : Nat) → Reader (List Char)
  | 0 => return []
  | count + 1 => do
    match ← peek with
    | some (.plain c) =>
      if holds c then
        let _ ← take
        return c :: (← takeWhile holds count)
      else return []
    | _ => return []

/-- The characters up to a given one, which is taken too. An escaped one ends nothing, and its
backslash stays. -/
def takeUntil (terminator : Char) : (fuel : Nat) → Reader (List Char)
  | 0 => fail
  | fuel + 1 => do
    match ← require with
    | .plain c => if c = terminator then return [] else return c :: (← takeUntil terminator fuel)
    | .escaped c => return '\\' :: c :: (← takeUntil terminator fuel)
    | .dangling => fail

/-- A name up to a given character; it must not be empty. -/
def name (terminator : Char) : Reader (List Char) := do
  let text ← takeUntil terminator ((← get).rest.length + 1)
  if text.isEmpty then fail else return text

/-- The number of groups that have opened, the whole pattern counted. -/
def groupCount : Reader Nat := return (← get).groups.length + 1

/-- The width of a group that is closed. -/
def closedWidth? (number : Nat) : Reader (Option Width) := do
  if number = 0 then return none
  return ((← get).groups[number - 1]?).join

/-- Refuses, within a part that looks behind, a group that is open or that opened there. -/
def checkBehind (number : Nat) : Reader Unit := do
  match (← get).behindFrom with
  | none => return ()
  | some bound =>
    if (← closedWidth? number).isNone ∨ bound ≤ number then fail else return ()

/-- A reference to a group, which must be closed. -/
def referTo (number : Nat) : Reader Node := do
  match ← closedWidth? number with
  | none => fail
  | some width =>
    checkBehind number
    return .reference number width

/-- The number of a group by its name. -/
def groupNamed (text : List Char) : Reader Nat := do
  if !Text.isIdentifier text then fail
  match (← get).names.lookup (String.ofList text) with
  | some number => return number
  | none => fail

/-- Opens a group. -/
def openGroup (name : Option (List Char)) : Reader Nat := do
  let number ← groupCount
  let reading ← get
  match name with
  | none => set { reading with groups := reading.groups ++ [none] }
  | some text =>
    let text := String.ofList text
    if (reading.names.lookup text).isSome then fail
    set { reading with
      groups := reading.groups ++ [none], names := (text, number) :: reading.names }
  return number

def closeGroup (number : Nat) (width : Width) : Reader Unit :=
  modify fun reading => { reading with groups := reading.groups.set (number - 1) (some width) }

def isOctal (c : Char) : Bool := '0' ≤ c ∧ c ≤ '7'

def isHex (c : Char) : Bool := (Text.hexDigit? c).isSome

/-- The number that digits denote to a base. -/
def numeral (base : Nat) (digits : List Char) : Nat :=
  digits.foldl (fun value c => value * base + (Text.hexDigit? c).getD 0) 0

/-- Exactly so many hexadecimal digits. -/
def hexDigits (count : Nat) : Reader Nat := do
  let digits ← takeWhile isHex count
  if digits.length = count then return numeral 16 digits else fail

/-- The greatest number that an octal escape may denote. -/
def octalLimit : Nat := 255

def codeLimit : Nat := 0x10FFFF

/-- The character that a letter stands for after a backslash, by its number or its name. -/
def numbered? (c : Char) : Reader (Option Nat) := do
  match c with
  | 'x' => return some (← hexDigits 2)
  | 'u' => return some (← hexDigits 4)
  | 'U' =>
    let code ← hexDigits 8
    if codeLimit < code then fail else return some code
  | 'N' =>
    expect '\x7b'
    match (← get).naming (← name '\x7d') with
    | some code => return some code
    | none => fail
  | _ => return none

/-- The control characters and the backslash by their letters. -/
def control? : Char → Option Nat
  | 'a' => some 0x07
  | 'b' => some 0x08
  | 'f' => some 0x0C
  | 'n' => some 0x0A
  | 'r' => some 0x0D
  | 't' => some 0x09
  | 'v' => some 0x0B
  | '\\' => some 0x5C
  | _ => none

/-- The classes by their letters; a capital stands for what is outside. -/
def class? : Char → Option SetItem
  | 'd' => some (.inClass .digit)
  | 'D' => some (.outside .digit)
  | 's' => some (.inClass .blank)
  | 'S' => some (.outside .blank)
  | 'w' => some (.inClass .word)
  | 'W' => some (.outside .word)
  | _ => none

/-- The anchors by their letters. -/
def anchor? : Char → Option Anchor
  | 'A' => some .textStart
  | 'b' => some .wordBoundary
  | 'B' => some .noWordBoundary
  | 'Z' => some .textEnd
  | _ => none

/-- A character that stands for itself after a backslash: anything but an ASCII letter. -/
def itself (c : Char) : Reader Nat := if c.isAlpha then fail else return c.toNat

/-- What a backslash and a character stand for within a set. -/
def setEscape (c : Char) : Reader SetItem := do
  match control? c, class? c with
  | some code, _ => return .code code
  | none, some item => return item
  | none, none =>
    match ← numbered? c with
    | some code => return .code code
    | none =>
      if isOctal c then
        let code := numeral 8 (c :: (← takeWhile isOctal 2))
        if octalLimit < code then fail else return .code code
      else if c.isDigit then fail
      else return .code (← itself c)

/-- A backslash and a digit: an octal number, or a reference to a group. -/
def digitEscape (c : Char) : Reader Node := do
  if c = '0' then return .code false (numeral 8 (c :: (← takeWhile isOctal 2)))
  let second ← takeWhile Char.isDigit 1
  if isOctal c ∧ second.any isOctal then
    match ← takeWhile isOctal 1 with
    | [] => referTo (numeral 10 (c :: second))
    | third =>
      let code := numeral 8 (c :: second ++ third)
      if octalLimit < code then fail else return .code false code
  else referTo (numeral 10 (c :: second))

/-- What a backslash and a character stand for outside sets. -/
def escape (c : Char) : Reader Node := do
  match anchor? c, class? c, control? c with
  | some which, _, _ => return .anchor which
  | _, some item, _ => return .charSet false [item]
  | _, _, some code => return .code false code
  | _, _, _ =>
    match ← numbered? c with
    | some code => return .code false code
    | none => if c.isDigit then digitEscape c else return .code false (← itself c)

/-- One end of a range, or an item on its own. -/
def setMember : Token → Reader SetItem
  | .plain c => return .code c.toNat
  | .escaped c => setEscape c
  | .dangling => fail

/-- The items of a set up to its closing bracket. A closing bracket that comes first stands for
itself, and so does a hyphen before the closing one. -/
def setItems : (fuel : Nat) → (done : List SetItem) → Reader (List SetItem)
  | 0, _ => fail
  | fuel + 1, done => do
    let token ← require
    if token = .plain ']' ∧ !done.isEmpty then return done
    let first ← setMember token
    if ← accept '-' then
      let token ← require
      if token = .plain ']' then return done ++ [first, .code '-'.toNat]
      match first, ← setMember token with
      | .code low, .code high =>
        if high < low then fail else setItems fuel (done ++ [.range low high])
      | _, _ => fail
    else setItems fuel (done ++ [first])

/-- A set after its opening bracket. -/
def set : Reader Node := do
  let negated ← accept '^'
  let items ← setItems ((← get).rest.length + 1) []
  match items.eraseDups with
  | [.code value] => return .code negated value
  | items => return .charSet negated items

/-- The greatest number of digits of a number of repetitions. -/
def digitLimit : Nat := 4300

/-- One bound of a repetition. -/
def bound? (digits : List Char) : Reader (Option Nat) := do
  if digits.isEmpty then return none
  if digitLimit < digits.length then throw .numeralTooLong
  let count := numeral 10 digits
  if Width.unboundedCount ≤ count then throw .countTooLarge
  return some count

/-- The bounds after an opening brace, unless the brace stands for itself: then what was read
after it is read again. -/
def braceBounds : Reader (Option (Nat × Option Nat)) := do
  let here := (← get).rest
  if (← peek) = some (.plain '\x7d') then return none
  let low ← takeWhile Char.isDigit here.length
  let high ← if ← accept ',' then takeWhile Char.isDigit here.length else pure low
  if !(← accept '\x7d') then
    seek here
    return none
  let least := (← bound? low).getD 0
  let most ← bound? high
  if most.any (· < least) then fail
  return some (least, most)

/-- The bounds of a repetition by its sign. -/
def bounds (sign : Char) : Reader (Option (Nat × Option Nat)) :=
  match sign with
  | '?' => return some (0, some 1)
  | '*' => return some (0, none)
  | '+' => return some (1, none)
  | _ => braceBounds

/-- How a repetition chooses its number, by the sign after it. -/
def eagerness : Reader Eagerness := do
  if ← accept '?' then return .lazy
  else if ← accept '+' then return .possessive
  else return .greedy

/-- Repeats the last of some parts. Conditions on a place and repetitions are not repeated. -/
def repeatLast (done : List Node) (least : Nat) (most : Option Nat) : Reader (List Node) := do
  match done with
  | [] => fail
  | .anchor _ :: _ => fail
  | .times .. :: _ => fail
  | node :: before => return .times (← eagerness) least most node :: before

/-- The switches that letters turn on, up to the first other token, which is taken. -/
def flagsOn : (fuel : Nat) → Flag → (on : List Flag) → Reader (List Flag × Char)
  | 0, _, _ => fail
  | fuel + 1, flag, on => do
    let on := flag :: on
    if flag = .locale ∨ (flag.isAlphabet ∧ on.any fun other => other.isAlphabet && other ≠ flag)
    then fail
    match ← require with
    | .plain c =>
      if c = ')' ∨ c = '-' ∨ c = ':' then return (on, c)
      match Flag.ofChar? c with
      | some flag => flagsOn fuel flag on
      | none => fail
    | _ => fail

/-- The switches that letters turn off, up to a colon, which is taken. -/
def flagsOff : (fuel : Nat) → (off : List Flag) → Reader (List Flag)
  | 0, _ => fail
  | fuel + 1, off => do
    match ← require with
    | .plain c =>
      if c = ':' ∧ !off.isEmpty then return off
      match Flag.ofChar? c with
      | some flag => if flag.isAlphabet then fail else flagsOff fuel (flag :: off)
      | none => fail
    | _ => fail

/-- Switches after a question mark, from the first letter on: those turned on and off in a
part, or nothing if they are for the whole pattern, which then has them. -/
def flagChange (first : Char) : Reader (Option (List Flag × List Flag)) := do
  let fuel := (← get).rest.length + 1
  let (on, stop) ←
    if first = '-' then pure ([], '-')
    else
      match Flag.ofChar? first with
      | some flag => flagsOn fuel flag []
      | none => fail
  if stop = ')' then
    modify fun reading => { reading with flags := on ++ reading.flags }
    return none
  if on.contains .template then fail
  let off ← if stop = '-' then flagsOff fuel [] else pure []
  if off.contains .template ∨ on.any off.contains then fail
  return some (on, off)

/-- What opens after a bracket. -/
inductive Opening where
  | capture (name : Option (List Char))
  | plainGroup
  | atomic
  | ahead (negated : Bool)
  | behind (negated : Bool)
  | condition
  | switches (on off : List Flag)
  /-- A part that is complete and adds the given parts. -/
  | complete (nodes : List Node)
  /-- Switches for the whole pattern. -/
  | wholeSwitches

def comment : (fuel : Nat) → Reader Unit
  | 0 => fail
  | fuel + 1 => do
    if (← require) = .plain ')' then return () else comment fuel

/-- What opens after a bracket, a question mark and the letter that announces names. -/
def namedOpening : Reader Opening := do
  if ← accept '<' then
    let text ← name '>'
    if Text.isIdentifier text then return .capture (some text) else fail
  else if ← accept '=' then
    return .complete [← referTo (← groupNamed (← name ')'))]
  else fail

/-- What opens after a bracket, which has been taken. -/
def opening : Reader Opening := do
  if !(← accept '?') then return .capture none
  match ← require with
  | .plain 'P' => namedOpening
  | .plain ':' => return .plainGroup
  | .plain '#' =>
    comment ((← get).rest.length + 1)
    return .complete []
  | .plain '=' => return .ahead false
  | .plain '!' => return .ahead true
  | .plain '<' =>
    match ← require with
    | .plain '=' => return .behind false
    | .plain '!' => return .behind true
    | _ => fail
  | .plain '(' => return .condition
  | .plain '>' => return .atomic
  | .plain c =>
    match ← flagChange c with
    | some (on, off) => return .switches on off
    | none => return .wholeSwitches
  | _ => fail

/-- The digits of a number that may have single underscores between digits. -/
def groupedDigits? : List Char → Option (List Nat)
  | [] => none
  | [c] => (Text.decimalValue? c).map ([·])
  | c :: '_' :: rest =>
    match Text.decimalValue? c, groupedDigits? rest with
    | some digit, some digits => some (digit :: digits)
    | _, _ => none
  | c :: rest =>
    match Text.decimalValue? c, groupedDigits? rest with
    | some digit, some digits => some (digit :: digits)
    | _, _ => none

/-- A positive whole number in its most liberal form: digits of any script, blanks around
them, a sign before them and underscores between them. -/
def liberalNumber? (text : List Char) : Option Nat :=
  let text := Text.trimBoth Text.isBlank text
  let digits := match text with
    | '+' :: rest => rest
    | _ => text
  (groupedDigits? digits).map fun digits => digits.foldl (fun value digit => value * 10 + digit) 0

/-- The group that a condition asks about, up to the closing bracket. -/
def askedGroup : Reader Nat := do
  let text ← name ')'
  let number ←
    if Text.isIdentifier text then groupNamed text
    else
      match liberalNumber? text with
      | some 0 => fail
      | some number =>
        modify fun reading => { reading with asked := number :: reading.asked }
        pure number
      | none => fail
  checkBehind number
  return number

/-- Skips a comment to the end of its line. -/
def skipLine : (fuel : Nat) → Reader Unit
  | 0 => return ()
  | fuel + 1 => do
    match ← take with
    | none => return ()
    | some token => if token = .plain '\n' then return () else skipLine fuel

/-- White space that a spaced pattern skips. -/
def isSkipped (c : Char) : Bool := Text.isAsciiBlank c

/-- Whether the switches of the whole pattern say that it is spaced. -/
def isSpaced : Reader Bool := return (← get).flags.contains .spaced

mutual

/-- Alternatives. `outer` says that they are the whole pattern; then switches for all of it may
have come in the first one. -/
def alternatives : (fuel : Nat) → (spaced outer : Bool) → (done : List Node) → Reader Node
  | 0, _, _, _ => fail
  | fuel + 1, spaced, outer, done => do
    let node ← sequence fuel spaced (outer && done.isEmpty) []
    if ← accept '|' then
      let spaced ← if outer then isSpaced else pure spaced
      alternatives fuel spaced outer (node :: done)
    else return Node.choiceOf (node :: done).reverse

/-- Parts one after another, the last of those read so far first. `first` says that switches for
the whole pattern, which stand before all parts, may still come. -/
def sequence : (fuel : Nat) → (spaced first : Bool) → (done : List Node) → Reader Node
  | 0, _, _, _ => fail
  | fuel + 1, spaced, first, done => do
    match ← peek with
    | none => return Node.joinAll done.reverse
    | some .dangling => fail
    | some (.escaped c) =>
      let _ ← take
      sequence fuel spaced first ((← escape c) :: done)
    | some (.plain c) =>
      if c = '|' ∨ c = ')' then return Node.joinAll done.reverse
      let _ ← take
      if spaced ∧ isSkipped c then sequence fuel spaced first done
      else if spaced ∧ c = '#' then
        skipLine ((← get).rest.length + 1)
        sequence fuel spaced first done
      else
        match c with
        | '[' => sequence fuel spaced first ((← set) :: done)
        | '.' => sequence fuel spaced first (.point :: done)
        | '^' => sequence fuel spaced first (.anchor .lineStart :: done)
        | '$' => sequence fuel spaced first (.anchor .lineEnd :: done)
        | '(' =>
          match ← opening with
          | .wholeSwitches =>
            if !first ∨ !done.isEmpty then fail
            sequence fuel (← isSpaced) first done
          | opened => sequence fuel spaced first ((← inside fuel spaced opened) ++ done)
        | _ =>
          if c = '*' ∨ c = '+' ∨ c = '?' ∨ c = '\x7b' then
            match ← bounds c with
            | none => sequence fuel spaced first (.code false c.toNat :: done)
            | some (least, most) => sequence fuel spaced first (← repeatLast done least most)
          else sequence fuel spaced first (.code false c.toNat :: done)

/-- What stands in brackets, with its closing bracket. -/
def inside : (fuel : Nat) → (spaced : Bool) → Opening → Reader (List Node)
  | 0, _, _ => fail
  | fuel + 1, spaced, opened => do
    match opened with
    | .complete nodes => return nodes
    | .wholeSwitches => return []
    | .capture name =>
      let number ← openGroup name
      let body ← alternatives fuel spaced false []
      expect ')'
      closeGroup number body.width
      return [.group number body]
    | .plainGroup =>
      let body ← alternatives fuel spaced false []
      expect ')'
      return [.switched {} body]
    | .switches on off =>
      let spaced := (spaced || on.contains .spaced) && !off.contains .spaced
      let body ← alternatives fuel spaced false []
      expect ')'
      return [.switched (Flag.change on off) body]
    | .atomic =>
      let body ← alternatives fuel spaced false []
      expect ')'
      return [.atomic body]
    | .ahead negated =>
      let body ← alternatives fuel spaced false []
      expect ')'
      return [.ahead negated body]
    | .behind negated =>
      let outer := (← get).behindFrom
      let count ← groupCount
      modify fun reading => { reading with behindFrom := some (outer.getD count) }
      let body ← alternatives fuel spaced false []
      modify fun reading => { reading with behindFrom := outer }
      expect ')'
      return [.behind negated body.width body]
    | .condition =>
      let number ← askedGroup
      let present ← sequence fuel spaced false []
      let missing ←
        if ← accept '|' then
          let missing ← sequence fuel spaced false []
          if (← peek) = some (.plain '|') then fail
          pure missing
        else pure .empty
      expect ')'
      return [.conditional number present missing]

end

/-- A whole pattern. What is left over can only begin with a closing bracket that nothing opened.
-/
def whole : Reader Node := do
  seek (← get).rest
  let node ← alternatives (4 * (← get).rest.length + 4) false true []
  let reading ← get
  if reading.flags.contains .ascii ∧ reading.flags.contains .unicode then
    throw .conflictingSwitches
  if !reading.rest.isEmpty then fail
  if reading.asked.any fun number => reading.groups.length < number then fail
  if reading.flags.contains .template ∧ node.repeats then fail
  if !node.looksBehindSoundly then fail
  return node

end Reader

def compile (naming : Naming) (text : String) : Except PatternFault Compiled :=
  match Reader.whole.run { naming, rest := tokens text.toList } with
  | .error fault => .error fault
  | .ok (node, reading) =>
    .ok ⟨text, (Flag.change reading.flags []).apply {}, node⟩

end CertApproval.Pattern
