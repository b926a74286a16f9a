import CertApproval.Dns.Hosts
import CertApproval.Proofs.Stepwise
import Mathlib.Algebra.Order.Floor.Ring
import Mathlib.Algebra.Order.Floor.Semiring
import Mathlib.Data.Rat.Floor
import Mathlib.Tactic.Linarith
import Mathlib.Tactic.Ring

/-!
How waiting for a lookup ends. Main statement: a wait makes as many looks as its time has
intervals, but one at least, and it ends with the first look that shows an answer or after which
a stop is signalled; only if there is none of these, its time is up.
-/

namespace CertApproval.Dns

open CertApproval.Net (Address)

/-! ## The looks of a wait -/

/-- Whether a wait makes a look of a number, and the time that remains before it. -/
inductive Looks (poll : Nat → Poll) (stopped : Nat → Bool) (seconds : Rat) : Nat → Rat → Prop
  | first : Looks poll stopped seconds 0 seconds
  | next {count : Nat} {remaining : Rat} (earlier : Looks poll stopped seconds count remaining)
      (pending : poll count = .pending) (goesOn : stopped count = false)
      (more : 0 < remaining - waitTime remaining) :
      Looks poll stopped seconds (count + 1) (remaining - waitTime remaining)

/-- Whether no look before a number ends a wait. -/
def Quiet (poll : Nat → Poll) (stopped : Nat → Bool) (count : Nat) : Prop :=
  ∀ earlier < count, poll earlier = .pending ∧ stopped earlier = false

/-- The number of looks that there is time for. The first one is made at all events. -/
def looksWithin (seconds : Rat) : Nat := max 1 ⌈seconds / pollInterval⌉₊

variable {poll : Nat → Poll} {stopped : Nat → Bool} {seconds : Rat}

/-- A wait goes on only after a full interval. -/
theorem more_iff {remaining : Rat} :
    0 < remaining - waitTime remaining ↔ pollInterval < remaining := by
  unfold waitTime
  split
  · next short =>
      simp only [sub_self, lt_irrefl, false_iff, not_lt]
      exact short.le
  · exact sub_pos

theorem waitTime_of_more {remaining : Rat} (more : 0 < remaining - waitTime remaining) :
    waitTime remaining = pollInterval :=
  if_neg (more_iff.mp more).le.not_gt

theorem Looks.remaining_eq {count : Nat} {remaining : Rat}
    (look : Looks poll stopped seconds count remaining) :
    remaining = seconds - count * pollInterval := by
  induction look with
  | first =>
      simp
  | @next count remaining _ _ _ more inductionHypothesis =>
      rw [waitTime_of_more more, inductionHypothesis, Nat.cast_succ]
      ring

theorem succ_lt_looksWithin_iff {count : Nat} :
    count + 1 < looksWithin seconds ↔ pollInterval < seconds - count * pollInterval := by
  have positive : 0 < pollInterval := by
    norm_num [pollInterval]
  have notFirst : ¬count + 1 < 1 := by omega
  rw [looksWithin, lt_max_iff, or_iff_right notFirst, Nat.lt_ceil, lt_div_iff₀ positive,
    Nat.cast_succ, add_mul, one_mul]
  constructor
  · intro less
    linarith
  · intro less
    linarith

/-- A look is made if there is time for it and no look before it ended the wait. -/
theorem looks_iff {count : Nat} :
    (∃ remaining, Looks poll stopped seconds count remaining) ↔
      count < looksWithin seconds ∧ Quiet poll stopped count := by
  induction count with
  | zero =>
      have positive : 0 < looksWithin seconds := lt_max_of_lt_left Nat.one_pos
      exact iff_of_true ⟨seconds, .first⟩ ⟨positive, fun _ less => absurd less (by omega)⟩
  | succ count inductionHypothesis =>
      constructor
      · rintro ⟨_, made⟩
        cases made with
        | next before pending goesOn more =>
            have quiet := (inductionHypothesis.mp ⟨_, before⟩).2
            rw [before.remaining_eq] at more
            refine ⟨succ_lt_looksWithin_iff.mpr (more_iff.mp more), fun earlier less => ?_⟩
            rcases Nat.lt_succ_iff_lt_or_eq.mp less with isEarlier | rfl
            · exact quiet earlier isEarlier
            · exact ⟨pending, goesOn⟩
      · rintro ⟨within, quiet⟩
        obtain ⟨remaining, before⟩ := inductionHypothesis.mpr
          ⟨Nat.lt_of_succ_lt within, fun earlier less => quiet earlier (Nat.lt_succ_of_lt less)⟩
        have more : 0 < remaining - waitTime remaining := by
          rw [more_iff, before.remaining_eq]
          exact succ_lt_looksWithin_iff.mp within
        obtain ⟨pending, goesOn⟩ := quiet count (Nat.lt_succ_self count)
        exact ⟨_, before.next pending goesOn more⟩

/-! ## The end of a wait -/

/-- What a lookup ends with that shows something. -/
def Poll.answer? (name : String) : Poll → Option Lookup
  | .answered addresses => some (.found addresses)
  | .failed cause => some (.failed (.failed name cause))
  | .crashed => some .crashed
  | .pending => none

@[simp]
theorem Poll.answer?_pending (name : String) : Poll.answer? name .pending = none := rfl

theorem Poll.answer?_ne_aborted (name other : String) (shown : Poll) :
    shown.answer? name ≠ some (.aborted other) := by
  cases shown <;> simp [answer?]

theorem Poll.answer?_ne_timedOut (name other : String) (timeout : Floating.Double) (shown : Poll) :
    shown.answer? name ≠ some (.failed (.timedOut other timeout)) := by
  cases shown <;> simp [answer?]

theorem Poll.answer?_inj {name : String} {shown other : Poll} {lookup : Lookup}
    (answers : shown.answer? name = some lookup) (answersOther : other.answer? name = some lookup) :
    shown = other := by
  have same : shown.answer? name = other.answer? name := answers.trans answersOther.symm
  clear answers answersOther
  revert same
  cases shown <;> cases other <;> simp [answer?]

/-- What a wait ends with at a look, once no look before it ended the wait. -/
inductive EndsAt (name : String) (timeout : Floating.Double) (poll : Nat → Poll)
    (stopped : Nat → Bool) (seconds : Rat) (count : Nat) : Lookup → Prop
  | answered {lookup : Lookup} (answers : (poll count).answer? name = some lookup) :
      EndsAt name timeout poll stopped seconds count lookup
  | aborted (pending : poll count = .pending) (signalled : stopped count = true) :
      EndsAt name timeout poll stopped seconds count (.aborted name)
  | timedOut (pending : poll count = .pending) (goesOn : stopped count = false)
      (last : looksWithin seconds ≤ count + 1) :
      EndsAt name timeout poll stopped seconds count (.failed (.timedOut name timeout))

variable {name : String} {timeout : Floating.Double}

/-- What a wait does from one of its looks on does not depend on what it showed before. -/
theorem Looks.wait_eq {count : Nat} {remaining : Rat}
    (look : Looks poll stopped seconds count remaining) :
    wait name timeout poll stopped 0 seconds =
      wait name timeout poll stopped count remaining := by
  induction look with
  | first =>
      rfl
  | @next count remaining _ pending goesOn more inductionHypothesis =>
      rw [inductionHypothesis, wait]
      simp [pending, goesOn, more]

theorem endsAt_of_looks {count : Nat} {remaining : Rat}
    (look : Looks poll stopped seconds count remaining) :
    ∃ last, (∃ left, Looks poll stopped seconds last left) ∧
      EndsAt name timeout poll stopped seconds last
        (wait name timeout poll stopped count remaining) := by
  fun_induction wait name timeout poll stopped count remaining with
  | case1 count remaining addresses shown | case2 count remaining cause shown
  | case3 count remaining shown =>
      exact ⟨count, ⟨remaining, look⟩, .answered (by rw [shown]; rfl)⟩
  | case4 count remaining pending signalled =>
      exact ⟨count, ⟨remaining, look⟩, .aborted pending signalled⟩
  | case5 count remaining pending goesOn more inductionHypothesis =>
      exact inductionHypothesis (look.next pending (Bool.eq_false_iff.mpr goesOn) more)
  | case6 count remaining pending goesOn spent =>
      refine ⟨count, ⟨remaining, look⟩, .timedOut pending (Bool.eq_false_iff.mpr goesOn) ?_⟩
      rw [more_iff, look.remaining_eq, ← succ_lt_looksWithin_iff] at spent
      exact Nat.le_of_not_lt spent

section Ends

variable {count other : Nat} {lookup otherLookup : Lookup}

theorem EndsAt.not_lt (ends : EndsAt name timeout poll stopped seconds count lookup)
    (within : other < looksWithin seconds) (quiet : Quiet poll stopped other) :
    ¬count < other := by
  intro less
  obtain ⟨isPending, isUnset⟩ := quiet count less
  cases ends with
  | answered answers =>
      rw [isPending] at answers
      cases answers
  | aborted pending signalled =>
      rw [isUnset] at signalled
      cases signalled
  | timedOut pending goesOn last =>
      omega

theorem EndsAt.unique (ends : EndsAt name timeout poll stopped seconds count lookup)
    (endsOther : EndsAt name timeout poll stopped seconds count otherLookup) :
    lookup = otherLookup := by
  cases ends with
  | answered answers =>
      cases endsOther with
      | answered answersOther =>
          exact Option.some.inj (answers.symm.trans answersOther)
      | aborted pending _ | timedOut pending _ _ =>
          simp [pending] at answers
  | aborted pending signalled | timedOut pending goesOn _ =>
      cases endsOther <;> simp_all

end Ends

/-- A wait ends with a lookup exactly if that is so at one of the looks that there is time for, and
no look before it ends the wait. -/
theorem wait_eq_iff {lookup : Lookup} :
    wait name timeout poll stopped 0 seconds = lookup ↔
      ∃ count < looksWithin seconds, Quiet poll stopped count ∧
        EndsAt name timeout poll stopped seconds count lookup := by
  have begun : Looks poll stopped seconds 0 seconds := .first
  obtain ⟨last, made, ends⟩ : ∃ last, (∃ left, Looks poll stopped seconds last left) ∧
      EndsAt name timeout poll stopped seconds last (wait name timeout poll stopped 0 seconds) :=
    endsAt_of_looks begun
  obtain ⟨within, quiet⟩ := looks_iff.mp made
  constructor
  · rintro rfl
    exact ⟨last, within, quiet, ends⟩
  · rintro ⟨count, isWithin, isQuiet, endsHere⟩
    obtain rfl : last = count := Nat.le_antisymm
      (Nat.le_of_not_lt (endsHere.not_lt within quiet))
      (Nat.le_of_not_lt (ends.not_lt isWithin isQuiet))
    exact ends.unique endsHere

/-! ## Lookups with a signal to stop -/

/-- Looks up a name, unless a stop is signalled. `flag 0` is the signal before the first look, and
`flag (count + 1)` the signal after the look of a number. -/
def resolve (name : String) (timeout : Floating.Double) (poll : Nat → Poll) (flag : Nat → Bool)
    (seconds : Rat) : Lookup :=
  if flag 0 then .aborted name
  else wait name timeout poll (fun count => flag (count + 1)) 0 seconds

variable {flag : Nat → Bool}

/-- A lookup is given up if the stop is signalled before all looks, or after a look up to which
there was no answer. -/
theorem resolve_eq_aborted :
    resolve name timeout poll flag seconds = .aborted name ↔
      flag 0 = true ∨ ∃ count < looksWithin seconds,
        (∀ look ≤ count, poll look = .pending) ∧ flag (count + 1) = true := by
  unfold resolve
  cases unset : flag 0 with
  | true =>
      simp
  | false =>
      simp only [Bool.false_eq_true, if_false, false_or, wait_eq_iff]
      constructor
      · rintro ⟨count, within, quiet, ends⟩
        cases ends with
        | answered answers =>
            exact absurd answers (Poll.answer?_ne_aborted name name _)
        | aborted pending signalled =>
            refine ⟨count, within, fun look upTo => ?_, signalled⟩
            rcases Nat.lt_or_eq_of_le upTo with less | rfl
            · exact (quiet look less).1
            · exact pending
      · rintro ⟨count, within, pending, signalled⟩
        have signals : ∃ look, flag (look + 1) = true := ⟨count, signalled⟩
        have upTo : Nat.find signals ≤ count := Nat.find_min' signals signalled
        refine ⟨Nat.find signals, upTo.trans_lt within, fun look less => ⟨?_, ?_⟩, ?_⟩
        · exact pending look (less.le.trans upTo)
        · exact Bool.eq_false_iff.mpr (Nat.find_min signals less)
        · exact .aborted (pending _ upTo) (Nat.find_spec signals)

/-- The time of a lookup is up if all looks that there is time for show nothing, and no stop is
signalled, be it after the last of them. -/
theorem resolve_eq_timedOut :
    resolve name timeout poll flag seconds = .failed (.timedOut name timeout) ↔
      flag 0 = false ∧
        ∀ count < looksWithin seconds, poll count = .pending ∧ flag (count + 1) = false := by
  unfold resolve
  cases unset : flag 0 with
  | true =>
      simp
  | false =>
      simp only [Bool.false_eq_true, if_false, true_and, wait_eq_iff]
      constructor
      · rintro ⟨last, within, quiet, ends⟩
        cases ends with
        | answered answers =>
            exact absurd answers (Poll.answer?_ne_timedOut name name timeout _)
        | timedOut pending goesOn isLast =>
            intro count isWithin
            rcases Nat.lt_or_eq_of_le (Nat.le_of_lt_succ (isWithin.trans_le isLast)) with less | rfl
            · exact quiet count less
            · exact ⟨pending, goesOn⟩
      · intro quiet
        have positive : 0 < looksWithin seconds := lt_max_of_lt_left Nat.one_pos
        have isLast : looksWithin seconds - 1 < looksWithin seconds :=
          Nat.sub_lt positive Nat.one_pos
        obtain ⟨pending, goesOn⟩ := quiet _ isLast
        exact ⟨_, isLast, fun count less => quiet count (less.trans isLast),
          .timedOut pending goesOn (by omega)⟩

/-- Whether a lookup comes to a look that shows something, with no signal to stop before it. -/
def Shows (poll : Nat → Poll) (flag : Nat → Bool) (seconds : Rat) (shown : Poll) : Prop :=
  flag 0 = false ∧ ∃ count < looksWithin seconds,
    Quiet poll (fun look => flag (look + 1)) count ∧ poll count = shown

/-- A lookup ends with what it shows, if it comes to show it. -/
theorem resolve_eq_answer {shown : Poll} {lookup : Lookup}
    (answers : shown.answer? name = some lookup) :
    resolve name timeout poll flag seconds = lookup ↔ Shows poll flag seconds shown := by
  have notAborted : lookup ≠ .aborted name := by
    rintro rfl
    exact Poll.answer?_ne_aborted name name shown answers
  have notTimedOut : lookup ≠ .failed (.timedOut name timeout) := by
    rintro rfl
    exact Poll.answer?_ne_timedOut name name timeout shown answers
  unfold resolve Shows
  cases unset : flag 0 with
  | true =>
      simpa using notAborted.symm
  | false =>
      simp only [Bool.false_eq_true, if_false, true_and, wait_eq_iff]
      refine exists_congr fun count => and_congr_right fun _ => and_congr_right fun _ => ⟨?_, ?_⟩
      · intro ends
        cases ends with
        | answered answersHere =>
            exact Poll.answer?_inj answersHere answers
        | aborted pending signalled =>
            exact absurd rfl notAborted
        | timedOut pending goesOn last =>
            exact absurd rfl notTimedOut
      · intro isShown
        exact .answered (isShown ▸ answers)

/-! ## Lookups by the system -/

namespace Hosts

/-- Whether there is a place for one more lookup. -/
def begins (lookups : Lookups) : Bool := lookups.stuck < places

/-- What the lookup of a name shows at every look, if it begins at all. -/
def shown (hosts : Hosts) (lookups : Lookups) (name : String) : Poll :=
  if begins lookups then ((hosts.entries.lookup name).getD unknown).answer.poll else .pending

/-- Whether a stop is signalled before the lookup of a name, and from its first look on. -/
def signal (hosts : Hosts) (lookups : Lookups) (name : String) : Nat → Bool
  | 0 => lookups.stopped
  | _ + 1 => lookups.stopped ||
      (begins lookups && ((hosts.entries.lookup name).getD unknown).signalsStop)

theorem resolver_eq_resolve (hosts : Hosts) (lookups : Lookups) (name : String) {seconds : Rat}
    (finite : secondsOf? hosts.timeout = some seconds) :
    (hosts.resolver name lookups).1 =
      resolve name hosts.timeout (fun _ => hosts.shown lookups name) (hosts.signal lookups name)
        seconds := by
  obtain ⟨stopped, stuck⟩ := lookups
  cases stopped with
  | true =>
      rfl
  | false =>
      simp only [resolver, bind_apply, get_apply, finite]
      rfl

end Hosts

/-- A lookup makes at most as many looks as there are intervals in its time, but one at least. It
is given up exactly if a stop is signalled before all looks or after a look up to which nothing was
shown; it ends with an answer exactly if it comes to that answer first; and its time is up exactly
if all its looks show nothing and no stop is signalled, be it after the last one. The system is
asked in this way, and an error that says that the time is up shows nothing. -/
theorem resolve_ends (name : String) (timeout : Floating.Double) (poll : Nat → Poll)
    (flag : Nat → Bool) (seconds : Rat) :
    let lookup := resolve name timeout poll flag seconds
    (∀ count remaining, flag 0 = false →
      Looks poll (fun look => flag (look + 1)) seconds count remaining →
        count < max 1 ⌈seconds / pollInterval⌉₊ ∧
          lookup = wait name timeout poll (fun look => flag (look + 1)) count remaining) ∧
    (lookup = .aborted name ↔
      flag 0 = true ∨ ∃ count < max 1 ⌈seconds / pollInterval⌉₊,
        (∀ look ≤ count, poll look = .pending) ∧ flag (count + 1) = true) ∧
    (∀ addresses, lookup = .found addresses ↔ Shows poll flag seconds (.answered addresses)) ∧
    (∀ cause, lookup = .failed (.failed name cause) ↔ Shows poll flag seconds (.failed cause)) ∧
    (lookup = .crashed ↔ Shows poll flag seconds .crashed) ∧
    (lookup = .failed (.timedOut name timeout) ↔
      flag 0 = false ∧ ∀ count < max 1 ⌈seconds / pollInterval⌉₊,
        poll count = .pending ∧ flag (count + 1) = false) ∧
    (∀ (hosts : Hosts) (lookups : Lookups), secondsOf? hosts.timeout = some seconds →
      (hosts.resolver name lookups).1 =
        resolve name hosts.timeout (fun _ => hosts.shown lookups name) (hosts.signal lookups name)
          seconds) ∧
    (∀ text, (HostAnswer.ofError [HostAnswer.timeoutNumber, text]).poll = .pending) := by
  intro lookup
  refine ⟨?_, resolve_eq_aborted, fun _ => resolve_eq_answer rfl, fun _ => resolve_eq_answer rfl,
    resolve_eq_answer rfl, resolve_eq_timedOut, ?_, fun _ => rfl⟩
  · intro count remaining unset look
    have starts : lookup = wait name timeout poll (fun look => flag (look + 1)) 0 seconds :=
      if_neg (by simp [unset])
    exact ⟨(looks_iff.mp ⟨remaining, look⟩).1, starts.trans look.wait_eq⟩
  · intro hosts lookups finite
    exact hosts.resolver_eq_resolve lookups name finite

/-- Two looks within a tenth of a second show nothing. A stop that is signalled after the second
one, when the time is up, is a stop; without it the time is up; and less than no time is enough for
a look. -/
theorem resolve_ends_tenth :
    resolve "worker-1" 0 (fun _ => .pending) (fun reading => reading = 2) (1 / 10) =
        .aborted "worker-1" ∧
      resolve "worker-1" 0 (fun _ => .pending) (fun _ => false) (1 / 10) =
        .failed (.timedOut "worker-1" 0) ∧
      resolve "worker-1" 0 (fun _ => .answered []) (fun _ => false) (-1) = .found [] := by
  have two : max 1 ⌈(1 / 10 : Rat) / pollInterval⌉₊ = 2 := by
    norm_num [pollInterval]
  refine ⟨?_, ?_, ?_⟩
  · obtain ⟨_, aborted, _⟩ :=
      resolve_ends "worker-1" 0 (fun _ => .pending) (fun reading => reading = 2) (1 / 10)
    exact aborted.mpr (Or.inr ⟨1, by rw [two]; decide, fun _ _ => rfl, by decide⟩)
  · obtain ⟨_, _, _, _, _, timedOut, _⟩ :=
      resolve_ends "worker-1" 0 (fun _ => .pending) (fun _ => false) (1 / 10)
    exact timedOut.mpr ⟨rfl, fun _ _ => ⟨rfl, rfl⟩⟩
  · obtain ⟨_, _, found, _⟩ :=
      resolve_ends "worker-1" 0 (fun _ => .answered []) (fun _ => false) (-1)
    exact (found []).mpr
      ⟨rfl, 0, lt_max_of_lt_left Nat.one_pos, fun _ less => absurd less (by omega), rfl⟩

end CertApproval.Dns
