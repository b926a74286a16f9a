import CertApproval.Pattern.Charset

/-!
Matching by trying the ways of a pattern in a fixed order, the first that leads to the
end of the text being taken. What follows a part is a function that says whether the rest
matches, so a part that has several ways can try the next one.
-/

namespace CertApproval.Pattern

/-- A place in a text, and where groups began and ended, the latest first: `2 * n` is the
mark of the beginning of group `n` and `2 * n + 1` that of its end. -/
structure Progress where
  position : Nat
  marks : List (Nat × Nat)

/-- Something that is matched: given a place and what follows, the end of the match. -/
abbrev Step := Progress → (Progress → Option Progress) → Option Progress

namespace Step

def exactly (step : Step) : Nat → Step
  | 0, here, next => next here
  | count + 1, here, next => step here fun there => exactly step count there next

/-- A step as often as possible, at most `room` times, and fewer times if that leads nowhere. The
step is not taken where it has just begun, so `fuel` need only be greater than the number of
places. -/
def greedily (step : Step) : (fuel : Nat) → (room last : Option Nat) → Step
  | 0, _, _, here, next => next here
  | fuel + 1, room, last, here, next =>
    if room = some 0 ∨ last = some here.position then next here
    else
      (step here fun there =>
        greedily step fuel (room.map (· - 1)) (some here.position) there next).orElse
        fun _ => next here

/-- A step as seldom as possible, and more times if that leads nowhere. -/
def lazily (step : Step) : (fuel : Nat) → (room last : Option Nat) → Step
  | 0, _, _, here, next => next here
  | fuel + 1, room, last, here, next =>
    (next here).orElse fun _ =>
      if room = some 0 ∨ last = some here.position then none
      else
        step here fun there =>
          lazily step fuel (room.map (· - 1)) (some here.position) there next

/-- A step in its first way only, a given number of times. -/
def firmly (step : Step) : Nat → Progress → Option Progress
  | 0, here => some here
  | count + 1, here =>
    match step here some with
    | some there => firmly step count there
    | none => none

/-- A step in its first way only, as often as possible. -/
def firmlyMany (step : Step) : (fuel : Nat) → (room last : Option Nat) → Progress → Progress
  | 0, _, _, here => here
  | fuel + 1, room, last, here =>
    if room = some 0 ∨ last = some here.position then here
    else
      match step here some with
      | some there => firmlyMany step fuel (room.map (· - 1)) (some here.position) there
      | none => here

end Step

namespace Progress

/-- The place where a group began and where it ended, if it has taken part. -/
def group? (here : Progress) (number : Nat) : Option (Nat × Nat) :=
  match here.marks.lookup (2 * number), here.marks.lookup (2 * number + 1) with
  | some first, some last => if first ≤ last then some (first, last) else none
  | _, _ => none

def mark (here : Progress) (index : Nat) : Progress :=
  ⟨here.position, (index, here.position) :: here.marks⟩

def advance (here : Progress) (count : Nat) : Progress :=
  ⟨here.position + count, here.marks⟩

end Progress

def isLineEnd (code : Nat) : Bool := code = 0x0A

/-- Whether a place is between a word character and one that is none. -/
def atWordEdge (switches : Switches) (text : Array Nat) (position : Nat) : Bool :=
  let word (code : Option Nat) := code.any (isWord switches.asciiOnly)
  let before := if position = 0 then false else word text[position - 1]?
  before != word text[position]?

/-- Whether a condition holds at a place. An empty text has neither word boundaries nor places
that are none. -/
def Anchor.holds (which : Anchor) (switches : Switches) (text : Array Nat) (position : Nat) :
    Bool :=
  let lineStart := position = 0 || (position ≤ text.size && text[position - 1]?.any isLineEnd)
  match which with
  | textStart => position = 0
  | textEnd => position = text.size
  | .lineStart => if switches.lineAnchors then lineStart else position = 0
  | lineEnd =>
    position = text.size ||
      (text[position]?.any isLineEnd && (switches.lineAnchors || position + 1 = text.size))
  | wordBoundary => text.size ≠ 0 && atWordEdge switches text position
  | noWordBoundary => text.size ≠ 0 && !atWordEdge switches text position

/-- Matches one character by a condition on it. -/
def oneCode (text : Array Nat) (holds : Nat → Bool) : Step := fun here next =>
  match text[here.position]? with
  | some code => if holds code then next (here.advance 1) else none
  | none => none

/-- Whether the codes from one place on are those from another place on. -/
def sameCodes (lower : Nat → Nat) (text : Array Nat) (first second : Nat) : (count : Nat) → Bool
  | 0 => true
  | count + 1 =>
    match text[first]?, text[second]? with
    | some a, some b => lower a = lower b && sameCodes lower text (first + 1) (second + 1) count
    | _, _ => false

/-- Matches what a group has matched. -/
def groupAgain (switches : Switches) (text : Array Nat) (number : Nat) : Step := fun here next =>
  let lower := if switches.caseless then (Folding.under switches).lower else fun code => code
  match here.group? number with
  | some (first, last) =>
    if sameCodes lower text first here.position (last - first) then
      next (here.advance (last - first))
    else none
  | none => none

/-- Goes on from the same place if a condition on the step agrees. -/
def Step.guard (step : Step) (negated : Bool) (start : Option Progress) : Step :=
  fun here next =>
    match start.bind fun start => step start some with
    | some there => if negated then none else next ⟨here.position, there.marks⟩
    | none => if negated then next here else none

/-- The steps of a pattern over a text. -/
def Node.step (text : Array Nat) : Node → Switches → Step
  | empty, _ => fun here next => next here
  | code negated value, switches =>
    oneCode text fun code => codeMatches switches value code != negated
  | charSet negated items, switches =>
    oneCode text fun code => setMatches switches items code != negated
  | point, switches => oneCode text fun code => switches.pointMatchesAll || !isLineEnd code
  | anchor which, switches => fun here next =>
    if which.holds switches text here.position then next here else none
  | group number body, switches => fun here next =>
    body.step text switches (here.mark (2 * number)) fun there =>
      next (there.mark (2 * number + 1))
  | switched change body, switches => body.step text (change.apply switches)
  | atomic body, switches => fun here next => (body.step text switches here some).bind next
  | ahead negated body, switches => fun here next =>
    (body.step text switches).guard negated (some here) here next
  | behind negated width body, switches => fun here next =>
    let start :=
      if width.least ≤ here.position then some ⟨here.position - width.least, here.marks⟩
      else none
    (body.step text switches).guard negated start here next
  | reference number _, switches => groupAgain switches text number
  | conditional number present missing, switches => fun here next =>
    if (here.group? number).isSome then present.step text switches here next
    else missing.step text switches here next
  | times eagerness least most body, switches => fun here next =>
    let step := body.step text switches
    let room := most.map (· - least)
    let fuel := text.size + 2
    match eagerness with
    | .greedy => step.exactly least here fun there => step.greedily fuel room none there next
    | .lazy => step.exactly least here fun there => step.lazily fuel room none there next
    | .possessive =>
      (step.firmly least here).bind fun there => next (step.firmlyMany fuel room none there)
  | join first second, switches => fun here next =>
    first.step text switches here fun there => second.step text switches there next
  | choice first second, switches => fun here next =>
    (first.step text switches here next).orElse fun _ => second.step text switches here next

/-- Whether a pattern matches the whole of a text. -/
def Compiled.matchesWhole (pattern : Compiled) (text : String) : Bool :=
  let codes := (text.toList.map Char.toNat).toArray
  (pattern.node.step codes pattern.switches ⟨0, []⟩ fun there =>
    if there.position = codes.size then some there else none).isSome

end CertApproval.Pattern
