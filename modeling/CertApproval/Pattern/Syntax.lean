/-!
Patterns for texts: what a pattern consists of, and how many characters it can match.
Characters stand as code points, since a pattern may name code points that no text has.
-/

namespace CertApproval.Pattern

/-- The switches under which a pattern is matched. -/
structure Switches where
  /-- The case of letters does not count. -/
  caseless : Bool := false
  /-- Lines, and not only the whole text, have a beginning and an end. -/
  lineAnchors : Bool := false
  /-- The point also matches the end of a line. -/
  pointMatchesAll : Bool := false
  /-- Classes of characters and of cases know the ASCII range alone. -/
  asciiOnly : Bool := false
  deriving DecidableEq, Repr

/-- A change of switches within a part of a pattern; what is absent stays. -/
structure SwitchChange where
  caseless : Option Bool := none
  lineAnchors : Option Bool := none
  pointMatchesAll : Option Bool := none
  asciiOnly : Option Bool := none
  deriving DecidableEq, Repr

def SwitchChange.apply (change : SwitchChange) (switches : Switches) : Switches where
  caseless := change.caseless.getD switches.caseless
  lineAnchors := change.lineAnchors.getD switches.lineAnchors
  pointMatchesAll := change.pointMatchesAll.getD switches.pointMatchesAll
  asciiOnly := change.asciiOnly.getD switches.asciiOnly

/-- Classes of characters that have a name. -/
inductive CharClass where
  | digit
  | blank
  | word
  deriving DecidableEq, Repr

/-- What a set of characters is made of. -/
inductive SetItem where
  | code (value : Nat)
  | range (low high : Nat)
  | inClass (which : CharClass)
  | outside (which : CharClass)
  deriving DecidableEq, Repr

/-- Conditions on a place in the text. -/
inductive Anchor where
  | textStart
  | textEnd
  | lineStart
  | lineEnd
  | wordBoundary
  | noWordBoundary
  deriving DecidableEq, Repr

/-- How a repetition chooses its number. -/
inductive Eagerness where
  /-- As many as possible, then fewer. -/
  | greedy
  /-- As few as possible, then more. -/
  | lazy
  /-- As many as possible, once and for all. -/
  | possessive
  deriving DecidableEq, Repr

/-- The least and the greatest number of characters that a part can match. -/
structure Width where
  least : Nat
  most : Nat
  deriving DecidableEq, Repr

/-- A pattern. Groups are numbered from one. -/
inductive Node where
  | empty
  | code (negated : Bool) (value : Nat)
  | charSet (negated : Bool) (items : List SetItem)
  | point
  | anchor (which : Anchor)
  | group (number : Nat) (body : Node)
  | switched (change : SwitchChange) (body : Node)
  | atomic (body : Node)
  /-- The body matches from here on. -/
  | ahead (negated : Bool) (body : Node)
  /-- The body, of a fixed width, matches up to here. -/
  | behind (negated : Bool) (width : Width) (body : Node)
  | reference (number : Nat) (width : Width)
  | conditional (number : Nat) (present missing : Node)
  | times (eagerness : Eagerness) (least : Nat) (most : Option Nat) (body : Node)
  | join (first second : Node)
  | choice (first second : Node)
  deriving DecidableEq, Repr

/-- A pattern for whole texts, with its own text. -/
structure Compiled where
  source : String
  switches : Switches
  node : Node

namespace Width

/-- Widths are not told apart from here on. -/
def limit : Nat := Nat.pow 2 64

/-- The bound on the number of repetitions that stands for no bound. -/
def unboundedCount : Nat := Nat.pow 2 32 - 1

/-- A width cut off at the limit. -/
def cut (width : Width) : Width := ⟨min width.least limit, min width.most limit⟩

def join (first second : Width) : Width :=
  cut ⟨first.least + second.least, first.most + second.most⟩

def choice (first second : Width) : Width :=
  ⟨min first.least second.least, max first.most second.most⟩

def times (body : Width) (least : Nat) (most : Option Nat) : Width :=
  match most with
  | some most => cut ⟨body.least * least, body.most * most⟩
  | none => cut ⟨body.least * least, if body.most = 0 then 0 else limit⟩

end Width

namespace Node

/-- How many characters a pattern can match. -/
def width : Node → Width
  | empty => ⟨0, 0⟩
  | code _ _ => ⟨1, 1⟩
  | charSet _ _ => ⟨1, 1⟩
  | point => ⟨1, 1⟩
  | anchor _ => ⟨0, 0⟩
  | group _ body => body.width
  | switched _ body => body.width
  | atomic body => body.width
  | ahead _ _ => ⟨0, 0⟩
  | behind _ _ _ => ⟨0, 0⟩
  | reference _ width => width
  | conditional _ present missing => present.width.choice missing.width
  | times _ least most body => body.width.times least most
  | join first second => first.width.join second.width
  | choice first second => first.width.choice second.width

def joinAll : List Node → Node
  | [] => empty
  | [node] => node
  | node :: nodes => join node (joinAll nodes)

/-- The items of a set, if a pattern is a single character or a set that is not negated. -/
def setItems? : Node → Option (List SetItem)
  | code false value => some [.code value]
  | charSet false items => some items
  | _ => none

/-- The first of several patterns that leads to a match. Alternatives that are single characters
make one set. -/
def choiceOf : List Node → Node
  | [] => empty
  | [node] => node
  | nodes =>
    match nodes.mapM setItems? with
    | some items => charSet false items.flatten.eraseDups
    | none => choices nodes
where
  choices : List Node → Node
    | [] => empty
    | [node] => node
    | node :: nodes => choice node (choices nodes)

/-- Whether a pattern repeats any part of itself. -/
def repeats : Node → Bool
  | times _ _ _ _ => true
  | group _ body => body.repeats
  | switched _ body => body.repeats
  | atomic body => body.repeats
  | ahead _ body => body.repeats
  | behind _ _ body => body.repeats
  | conditional _ present missing => present.repeats || missing.repeats
  | join first second => first.repeats || second.repeats
  | choice first second => first.repeats || second.repeats
  | _ => false

/-- Whether every part that looks behind has one width, and not too great a one. -/
def looksBehindSoundly : Node → Bool
  | behind _ width body =>
    width.least ≤ Width.unboundedCount && width.least = width.most && body.looksBehindSoundly
  | times _ _ _ body => body.looksBehindSoundly
  | group _ body => body.looksBehindSoundly
  | switched _ body => body.looksBehindSoundly
  | atomic body => body.looksBehindSoundly
  | ahead _ body => body.looksBehindSoundly
  | conditional _ present missing => present.looksBehindSoundly && missing.looksBehindSoundly
  | join first second => first.looksBehindSoundly && second.looksBehindSoundly
  | choice first second => first.looksBehindSoundly && second.looksBehindSoundly
  | _ => true

end Node

end CertApproval.Pattern
