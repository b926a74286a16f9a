import CertApproval.Proofs.Machine
import CertApproval.Proofs.Watch.Sessions

/-!
Sessions with a cluster that numbers its changes. A session without a version begins with the
objects that exist, in any order, and one at a version with the changes after it. Sessions end at
any time and in any way. Main statement: which objects are not told of although they exist. They
are those that a session left behind when it broke off after it had told of a newer version.
-/

namespace CertApproval.Control

open CertApproval.Cluster (Change Refusal Session Stream Subscription)

/-- A change of the object of a name. -/
structure Revision where
  version : Nat
  name : String
  deleted : Bool := false
  deriving DecidableEq

/-- How a cluster writes its versions. -/
structure Numbering where
  text : Nat → String
  injective : Function.Injective text
  nonempty : ∀ version, text version ≠ ""

/-- Versions as decimal numbers. -/
def Numbering.decimal : Numbering where
  text := Nat.repr
  injective first second same := by
    rw [Nat.repr_eq_ofList_toDigits, Nat.repr_eq_ofList_toDigits, String.ofList_inj] at same
    rw [← Nat.ofDigitChars_ten_toDigits (n := first), same, Nat.ofDigitChars_ten_toDigits]
  nonempty _ := Nat.repr_ne_empty

def Revision.change (numbering : Numbering) (revision : Revision) : Change where
  deleted := revision.deleted
  name := some revision.name
  version := some (numbering.text revision.version)

/-- The objects that exist after some changes, each with its last change. -/
def existing (past : List Revision) : List Revision :=
  past.filter fun revision =>
    !revision.deleted ∧
      ∀ other ∈ past, other.name = revision.name → other.version ≤ revision.version

/-- What a session has been sent, and what it is still to be sent. -/
structure Feed where
  sent : List Revision := []
  pending : List Revision
  deriving DecidableEq

/-- All changes, the sessions that have ended, and the session that goes on. -/
structure Following where
  past : List Revision := []
  streams : List Stream := []
  feed : Option Feed := none

namespace Following

inductive Event where
  | changed (revision : Revision)
  | opened (pending : List Revision)
  | delivered
  | closed (failure : Option Refusal)

variable (numbering : Numbering)

/-- The version that the next session begins with, or the one that goes on has begun with. -/
def begun (state : Following) : Option String := Session.cursorAfter none state.streams

/-- What has come so far of the session that goes on. -/
def session (state : Following) (feed : Feed) : Session :=
  .run (fun _ => false) none state.begun ⟨feed.sent.map (Revision.change numbering), none⟩

/-- The names that the session has told of. -/
def names (state : Following) : List (Option String) :=
  (state.feed.map fun feed => (state.session numbering feed).names).getD []

def next (state : Following) : Event → Following
  | .changed revision =>
      { state with
        past := state.past ++ [revision]
        feed := state.feed.map fun feed => { feed with pending := feed.pending ++ [revision] } }
  | .opened pending => { state with feed := some { pending } }
  | .delivered =>
      match state.feed with
      | some ⟨sent, revision :: pending⟩ =>
          { state with feed := some ⟨sent ++ [revision], pending⟩ }
      | _ => state
  | .closed failure =>
      match state.feed with
      | some feed =>
          { state with
            streams := state.streams ++ [⟨feed.sent.map (Revision.change numbering), failure⟩]
            feed := none }
      | none => state

/-- Versions rise. A session begins with the objects that exist or with the changes after a
version, and ends at any time. -/
def allows (state : Following) : Event → Prop
  | .changed revision => ∀ earlier ∈ state.past, earlier.version < revision.version
  | .opened pending =>
      state.feed = none ∧
        match state.begun with
        | none => pending.Perm (existing state.past)
        | some text =>
            ∃ revision ∈ state.past,
              text = numbering.text revision.version ∧
                pending = state.past.filter fun later => revision.version < later.version
  | .delivered => ∃ feed ∈ state.feed, feed.pending ≠ []
  | .closed _ => state.feed.isSome = true

def machine : Machine Following Event := ⟨allows numbering, next numbering⟩

/-- Whether an event makes the session tell of a name. -/
def Yields (name : String) (state : Following) : Event → Prop
  | .delivered =>
      (state.next numbering .delivered).names numbering = state.names numbering ++ [some name]
  | .changed _ | .opened _ | .closed _ => False

def Changes (name : String) (_ : Following) : Event → Prop
  | .changed revision => revision.name = name
  | .opened _ | .delivered | .closed _ => False

/-- Whether a session that ends leaves a change behind, though it was sent a newer one. -/
def Leaves (revision : Revision) (state : Following) (failure : Option Refusal) : Prop :=
  ¬Session.Gone failure ∧
    ∃ feed ∈ state.feed, revision ∈ feed.pending ∧
      ∃ last ∈ feed.sent.getLast?, revision.version ≤ last.version

/-- Whether a session told of an object since its last change. -/
def Told (history : List Event) (revision : Revision) : Prop :=
  (machine numbering).Since (Yields numbering revision.name) (Changes revision.name) {} history

/-- Whether a session left a change behind which nobody had told of, and the cluster forgot no
version since. -/
def Abandoned (history : List Event) (revision : Revision) : Prop :=
  ∃ earlier failure later,
    history = earlier ++ .closed failure :: later ∧
      ¬Told numbering earlier revision ∧
      Leaves revision ((machine numbering).after {} earlier) failure ∧
      ∀ other, Event.closed other ∈ later → ¬Session.Gone other

/-! ## One session -/

variable {numbering} {state : Following}

theorem foldl_advance (sent : List Revision) (cursor : Option String) :
    (sent.map (Revision.change numbering)).foldl Session.advance cursor =
      (sent.getLast?.map fun last => numbering.text last.version).or cursor := by
  rcases List.eq_nil_or_concat sent with rfl | ⟨sent, last, rfl⟩
  · rfl
  · simp [Session.advance, Revision.change, numbering.nonempty]

theorem begun_closed {feed : Feed} (isFeed : state.feed = some feed) (failure : Option Refusal) :
    (state.next numbering (.closed failure)).begun =
      if Session.Gone failure then none
      else (feed.sent.getLast?.map fun last => numbering.text last.version).or state.begun := by
  simp only [next, isFeed, begun, Session.cursorAfter_snoc, foldl_advance]

theorem names_eq {feed : Feed} (isFeed : state.feed = some feed) :
    state.names numbering =
      (feed.sent.filter fun revision => !revision.deleted).map fun revision =>
        some revision.name := by
  simp only [names, isFeed, session, Session.run_unstopped, Option.map_some, Option.getD_some,
    List.filter_map, List.map_map]
  rfl

theorem yields_iff {sent pending : List Revision} {revision : Revision} {name : String}
    (isFeed : state.feed = some ⟨sent, revision :: pending⟩) :
    Yields numbering name state .delivered ↔ revision.deleted = false ∧ revision.name = name := by
  have delivered : (state.next numbering .delivered).feed = some ⟨sent ++ [revision], pending⟩ := by
    simp only [next, isFeed]
  rw [Yields, names_eq delivered, names_eq isFeed]
  cases deleted : revision.deleted <;> simp [deleted]

/-! ## What holds at any time -/

theorem mem_existing {past : List Revision} {revision : Revision} :
    revision ∈ existing past ↔
      revision ∈ past ∧ revision.deleted = false ∧
        ∀ other ∈ past, other.name = revision.name → other.version ≤ revision.version := by
  simp [existing]

/-- A session that began at a version is sent all changes after it, and no session is sent
anything else than changes. -/
structure Sound (numbering : Numbering) (state : Following) : Prop where
  rising : state.past.Pairwise fun earlier later => earlier.version < later.version
  known : ∀ feed, state.feed = some feed → ∀ revision ∈ feed.sent ++ feed.pending,
    revision ∈ state.past
  numbered : ∀ text, state.begun = some text →
    ∃ revision ∈ state.past, text = numbering.text revision.version
  resumed : ∀ feed version, state.feed = some feed →
    state.begun = some (numbering.text version) →
      feed.sent ++ feed.pending = state.past.filter fun later => version < later.version

namespace Sound

theorem changed (sound : state.Sound numbering) {revision : Revision}
    (later : ∀ earlier ∈ state.past, earlier.version < revision.version) :
    (state.next numbering (.changed revision)).Sound numbering where
  rising := List.pairwise_append.mpr
    ⟨sound.rising, List.pairwise_singleton _ _, fun earlier member new isNew =>
      List.mem_singleton.mp isNew ▸ later earlier member⟩
  known feed isFeed other member := by
    obtain ⟨feed, wasFeed, rfl⟩ := Option.map_eq_some_iff.mp isFeed
    rw [← List.append_assoc] at member
    rcases List.mem_append.mp member with earlier | new
    · exact List.mem_append_left _ (sound.known feed wasFeed other earlier)
    · exact List.mem_append_right _ new
  numbered text begun := by
    obtain ⟨other, member, same⟩ := sound.numbered text begun
    exact ⟨other, List.mem_append_left _ member, same⟩
  resumed feed version isFeed begun := by
    obtain ⟨feed, wasFeed, rfl⟩ := Option.map_eq_some_iff.mp isFeed
    obtain ⟨other, member, same⟩ := sound.numbered _ begun
    have newer : version < revision.version := by
      rw [numbering.injective same]
      exact later other member
    simp only [Following.next, List.filter_append, ← sound.resumed feed version wasFeed begun,
      List.append_assoc, List.filter_singleton, newer, decide_true]
    rfl

theorem opened (sound : state.Sound numbering) {pending : List Revision}
    (allowed : state.allows numbering (.opened pending)) :
    (state.next numbering (.opened pending)).Sound numbering where
  rising := sound.rising
  known feed isFeed revision member := by
    cases isFeed
    rw [List.nil_append] at member
    cases begun : state.begun with
    | none =>
        simp only [allows, begun] at allowed
        exact (mem_existing.mp (allowed.2.mem_iff.mp member)).1
    | some text =>
        simp only [allows, begun] at allowed
        obtain ⟨_, _, _, _, rfl⟩ := allowed
        exact (List.mem_filter.mp member).1
  numbered := sound.numbered
  resumed feed version isFeed begun := by
    cases isFeed
    replace begun : state.begun = some (numbering.text version) := begun
    simp only [allows, begun] at allowed
    obtain ⟨_, revision, _, same, rfl⟩ := allowed
    rw [numbering.injective same]
    rfl

theorem delivered (sound : state.Sound numbering)
    (allowed : state.allows numbering .delivered) :
    (state.next numbering .delivered).Sound numbering := by
  obtain ⟨⟨sent, pending⟩, isFeed, nonempty⟩ := allowed
  obtain ⟨revision, pending, rfl⟩ := List.exists_cons_of_ne_nil nonempty
  have after : state.next numbering .delivered =
      { state with feed := some ⟨sent ++ [revision], pending⟩ } := by
    simp only [Following.next, Option.mem_def.mp isFeed]
  have same : (sent ++ [revision]) ++ pending = sent ++ revision :: pending :=
    List.append_assoc _ _ _
  rw [after]
  refine ⟨sound.rising, ?_, sound.numbered, ?_⟩
  · intro feed new other member
    cases new
    rw [same] at member
    exact sound.known _ isFeed other member
  · intro feed version new begun
    cases new
    exact same.trans (sound.resumed _ version isFeed begun)

theorem closed (sound : state.Sound numbering) {failure : Option Refusal} {feed : Feed}
    (isFeed : state.feed = some feed) :
    (state.next numbering (.closed failure)).Sound numbering := by
  have ended : (state.next numbering (.closed failure)).feed = none := by
    simp only [Following.next, isFeed]
  have past : (state.next numbering (.closed failure)).past = state.past := by
    simp only [Following.next, isFeed]
  refine ⟨?_, ?_, ?_, ?_⟩
  · rw [past]
    exact sound.rising
  · intro other isOther
    exact absurd (ended.symm.trans isOther) nofun
  · intro text begun
    rw [begun_closed isFeed] at begun
    rw [past]
    by_cases gone : Session.Gone failure
    · rw [if_pos gone] at begun
      cases begun
    · rw [if_neg gone] at begun
      cases last : feed.sent.getLast? with
      | none =>
          rw [last] at begun
          exact sound.numbered text begun
      | some revision =>
          rw [last] at begun
          have member := List.mem_append_left feed.pending (List.mem_of_getLast? last)
          exact ⟨revision, sound.known feed isFeed revision member, (Option.some.inj begun).symm⟩
  · intro other version isOther
    exact absurd (ended.symm.trans isOther) nofun

theorem next (sound : state.Sound numbering) {event : Event}
    (allowed : state.allows numbering event) : (state.next numbering event).Sound numbering := by
  cases event with
  | changed revision =>
      exact sound.changed allowed
  | opened pending =>
      exact sound.opened allowed
  | delivered =>
      exact sound.delivered allowed
  | closed failure =>
      obtain ⟨feed, isFeed⟩ := Option.isSome_iff_exists.mp allowed
      exact sound.closed isFeed

end Sound

/-! ## Changes to come and changes passed by -/

/-- Whether the session is still to be sent a change, or the next session will be. -/
def Awaits (numbering : Numbering) (revision : Revision) (state : Following) : Prop :=
  match state.feed with
  | some feed => revision ∈ feed.pending
  | none => ∀ version, state.begun = some (numbering.text version) → version < revision.version

/-- Whether a session began at the version of a change or later. -/
def Passed (numbering : Numbering) (revision : Revision) (state : Following) : Prop :=
  ∃ version, state.begun = some (numbering.text version) ∧ revision.version ≤ version

variable {revision : Revision}

theorem awaits_of_changed (sound : state.Sound numbering)
    (later : ∀ earlier ∈ state.past, earlier.version < revision.version) :
    (state.next numbering (.changed revision)).Awaits numbering revision := by
  cases isFeed : state.feed with
  | none =>
      simp only [Awaits, next, isFeed, Option.map_none]
      intro version begun
      obtain ⟨other, member, same⟩ := sound.numbered _ begun
      rw [numbering.injective same]
      exact later other member
  | some feed =>
      simp [Awaits, next, isFeed]

theorem awaits_of_gone {failure : Option Refusal} (gone : Session.Gone failure)
    (allowed : state.allows numbering (.closed failure)) :
    (state.next numbering (.closed failure)).Awaits numbering revision := by
  obtain ⟨feed, isFeed⟩ := Option.isSome_iff_exists.mp allowed
  have ended : (state.next numbering (.closed failure)).feed = none := by
    simp only [next, isFeed]
  simp only [Awaits, ended, begun_closed isFeed, if_pos gone]
  exact fun _ => nofun

namespace Awaits

theorem changed (awaits : state.Awaits numbering revision) (other : Revision) :
    (state.next numbering (.changed other)).Awaits numbering revision := by
  cases isFeed : state.feed with
  | none =>
      simp only [Awaits, isFeed] at awaits
      simp only [Awaits, next, isFeed, Option.map_none]
      exact awaits
  | some feed =>
      simp only [Awaits, isFeed] at awaits
      simp only [Awaits, next, isFeed, Option.map_some]
      exact List.mem_append_left _ awaits

theorem opened (awaits : state.Awaits numbering revision) {pending : List Revision}
    (isExisting : revision ∈ existing state.past)
    (allowed : state.allows numbering (.opened pending)) :
    (state.next numbering (.opened pending)).Awaits numbering revision := by
  simp only [Awaits, allowed.1] at awaits
  simp only [Awaits, next]
  cases begun : state.begun with
  | none =>
      simp only [allows, begun] at allowed
      exact allowed.2.mem_iff.mpr isExisting
  | some text =>
      simp only [allows, begun] at allowed
      obtain ⟨_, other, _, rfl, rfl⟩ := allowed
      exact List.mem_filter.mpr ⟨(mem_existing.mp isExisting).1, by simpa using awaits _ begun⟩

theorem delivered (awaits : state.Awaits numbering revision)
    (stored : revision.deleted = false) (allowed : state.allows numbering .delivered) :
    Yields numbering revision.name state .delivered ∨
      (state.next numbering .delivered).Awaits numbering revision := by
  obtain ⟨⟨sent, pending⟩, isFeed, nonempty⟩ := allowed
  obtain ⟨first, pending, rfl⟩ := List.exists_cons_of_ne_nil nonempty
  simp only [Awaits, Option.mem_def.mp isFeed] at awaits
  rcases List.mem_cons.mp awaits with rfl | later
  · exact Or.inl ((yields_iff isFeed).mpr ⟨stored, rfl⟩)
  · refine Or.inr ?_
    simpa only [Awaits, next, Option.mem_def.mp isFeed] using later

theorem closed (awaits : state.Awaits numbering revision) (sound : state.Sound numbering)
    {feed : Feed} (isFeed : state.feed = some feed) (failure : Option Refusal) :
    (state.next numbering (.closed failure)).Awaits numbering revision ∨
      Leaves revision state failure := by
  simp only [Awaits, isFeed] at awaits
  have ended : (state.next numbering (.closed failure)).feed = none := by
    simp only [next, isFeed]
  by_cases gone : Session.Gone failure
  · exact Or.inl (awaits_of_gone gone (Option.isSome_iff_exists.mpr ⟨feed, isFeed⟩))
  · cases last : feed.sent.getLast? with
    | none =>
        refine Or.inl ?_
        simp only [Awaits, ended, begun_closed isFeed, if_neg gone, last, Option.map_none,
          Option.none_or]
        intro version begun
        have member := List.mem_append_right feed.sent awaits
        rw [sound.resumed feed version isFeed begun] at member
        simpa using (List.mem_filter.mp member).2
    | some final =>
        by_cases newer : final.version < revision.version
        · refine Or.inl ?_
          simp only [Awaits, ended, begun_closed isFeed, if_neg gone, last, Option.map_some,
            Option.some_or]
          intro version begun
          rw [← numbering.injective (Option.some.inj begun)]
          exact newer
        · exact Or.inr ⟨gone, feed, isFeed, awaits, final, last, Nat.le_of_not_lt newer⟩

end Awaits

theorem passed_of_leaves {failure : Option Refusal} (leaves : Leaves revision state failure) :
    (state.next numbering (.closed failure)).Passed numbering revision := by
  obtain ⟨gone, feed, isFeed, _, last, isLast, newer⟩ := leaves
  refine ⟨last.version, ?_, newer⟩
  rw [begun_closed isFeed, if_neg gone, Option.mem_def.mp isLast]
  rfl

/-- A session that began at a version leaves nothing behind. -/
theorem not_leaves_of_begun (sound : state.Sound numbering) {text : String}
    (begun : state.begun = some text) (failure : Option Refusal) :
    ¬Leaves revision state failure := by
  rintro ⟨_, feed, isFeed, isPending, last, isLast, newer⟩
  obtain ⟨other, _, rfl⟩ := sound.numbered text begun
  have rising : (feed.sent ++ feed.pending).Pairwise fun earlier later =>
      earlier.version < later.version := by
    rw [sound.resumed feed other.version isFeed begun]
    exact sound.rising.filter _
  have before := (List.pairwise_append.mp rising).2.2 last (List.mem_of_getLast? isLast) revision
    isPending
  omega

namespace Passed

theorem closed (passed : state.Passed numbering revision) (sound : state.Sound numbering)
    {feed : Feed} (isFeed : state.feed = some feed) {failure : Option Refusal}
    (kept : ¬Session.Gone failure) :
    (state.next numbering (.closed failure)).Passed numbering revision := by
  obtain ⟨version, begun, newer⟩ := passed
  rw [Passed, begun_closed isFeed, if_neg kept]
  cases last : feed.sent.getLast? with
  | none =>
      exact ⟨version, begun, newer⟩
  | some final =>
      have member := List.mem_append_left feed.pending (List.mem_of_getLast? last)
      rw [sound.resumed feed version isFeed begun] at member
      have after : version < final.version := by simpa using (List.mem_filter.mp member).2
      exact ⟨final.version, rfl, by omega⟩

/-- A change that was passed by is not told of: what is sent is newer, and nothing newer has the
name. -/
theorem not_yields (passed : state.Passed numbering revision) (sound : state.Sound numbering)
    (latest : ∀ other ∈ state.past, other.name = revision.name →
      other.version ≤ revision.version) (event : Event) :
    ¬Yields numbering revision.name state event := by
  intro yields
  cases event with
  | changed other | opened pending | closed failure =>
      exact yields
  | delivered =>
      obtain ⟨version, begun, newer⟩ := passed
      cases isFeed : state.feed with
      | none =>
          simp [Yields, next, names, isFeed] at yields
      | some feed =>
          obtain ⟨sent, pending⟩ := feed
          cases pending with
          | nil =>
              simp [Yields, next, isFeed] at yields
          | cons first pending =>
              have named := ((yields_iff isFeed).mp yields).2
              have member : first ∈ sent ++ first :: pending := by simp
              have known := sound.known _ isFeed first member
              rw [sound.resumed _ version isFeed begun] at member
              have after : version < first.version := by simpa using (List.mem_filter.mp member).2
              have before := latest first known named
              omega

end Passed

/-! ## What holds after any history -/

theorem told_snoc {history : List Event} {event : Event} :
    Told numbering (history ++ [event]) revision ↔
      Yields numbering revision.name ((machine numbering).after {} history) event ∨
        Told numbering history revision ∧
          ¬Changes revision.name ((machine numbering).after {} history) event :=
  Machine.since_snoc

theorem abandoned_snoc {history : List Event} {event : Event} :
    Abandoned numbering (history ++ [event]) revision ↔
      (Abandoned numbering history revision ∧
        ∀ failure, event = .closed failure → ¬Session.Gone failure) ∨
      ∃ failure,
        event = .closed failure ∧ ¬Told numbering history revision ∧
          Leaves revision ((machine numbering).after {} history) failure := by
  constructor
  · rintro ⟨earlier, failure, later, split, untold, leaves, kept⟩
    rcases List.eq_nil_or_concat later with rfl | ⟨later, last, rfl⟩
    · obtain ⟨rfl, same⟩ := List.append_inj' split rfl
      exact Or.inr ⟨failure, List.singleton_inj.mp same, untold, leaves⟩
    · rw [List.concat_eq_append, ← List.cons_append, ← List.append_assoc] at split
      obtain ⟨rfl, same⟩ := List.append_inj' split rfl
      obtain rfl := List.singleton_inj.mp same
      refine Or.inl ⟨⟨earlier, failure, later, rfl, untold, leaves, ?_⟩, ?_⟩
      · intro other member
        exact kept other (by simp [member])
      · rintro other rfl
        exact kept other (by simp)
  · rintro (⟨⟨earlier, failure, later, rfl, untold, leaves, kept⟩, keptNow⟩ |
      ⟨failure, rfl, untold, leaves⟩)
    · refine ⟨earlier, failure, later ++ [event], by simp, untold, leaves, ?_⟩
      intro other member
      rcases List.mem_append.mp member with before | now
      · exact kept other before
      · exact keptNow other (List.mem_singleton.mp now).symm
    · exact ⟨history, failure, [], rfl, untold, leaves, fun _ => nofun⟩

/-- Every object that exists has been told of, is to be told of, or has been abandoned, and one
that has been abandoned has not been told of. -/
structure Accounted (numbering : Numbering) (history : List Event) (state : Following) : Prop where
  reached : (machine numbering).after {} history = state
  sound : state.Sound numbering
  covered : ∀ revision ∈ existing state.past,
    Told numbering history revision ∨ state.Awaits numbering revision ∨
      Abandoned numbering history revision
  passed : ∀ revision, Abandoned numbering history revision →
    revision ∈ state.past ∧ state.Passed numbering revision ∧
      (revision ∈ existing state.past → ¬Told numbering history revision)

namespace Accounted

variable {history : List Event}

theorem start : Accounted numbering [] {} where
  reached := rfl
  sound := ⟨.nil, nofun, nofun, nofun⟩
  covered := nofun
  passed revision abandoned := by
    obtain ⟨earlier, failure, later, split, _⟩ := abandoned
    simp at split

/-- A change of an object does nothing to the others. -/
theorem changed (accounted : Accounted numbering history state) {new : Revision}
    (later : ∀ earlier ∈ state.past, earlier.version < new.version) :
    Accounted numbering (history ++ [.changed new]) (state.next numbering (.changed new)) := by
  have kept (revision : Revision) (member : revision ∈ state.past)
      (isExisting : revision ∈ existing (state.past ++ [new])) :
      revision ∈ existing state.past ∧ new.name ≠ revision.name := by
    obtain ⟨_, stored, latest⟩ := mem_existing.mp isExisting
    refine ⟨mem_existing.mpr ⟨member, stored, ?_⟩, ?_⟩
    · exact fun other isOther => latest other (List.mem_append_left _ isOther)
    · intro same
      have newer := later revision member
      have older := latest new (by simp) same
      omega
  refine ⟨?_, accounted.sound.changed later, ?_, ?_⟩
  · rw [Machine.after_snoc, accounted.reached]
    rfl
  · intro revision isExisting
    rcases List.mem_append.mp (mem_existing.mp isExisting).1 with member | isNew
    · obtain ⟨isEarlier, differs⟩ := kept revision member isExisting
      rcases accounted.covered revision isEarlier with told | awaits | abandoned
      · exact Or.inl (told_snoc.mpr (Or.inr ⟨told, differs⟩))
      · exact Or.inr (Or.inl (awaits.changed new))
      · exact Or.inr (Or.inr (abandoned_snoc.mpr (Or.inl ⟨abandoned, nofun⟩)))
    · rw [List.mem_singleton.mp isNew]
      exact Or.inr (Or.inl (awaits_of_changed accounted.sound later))
  · intro revision abandoned
    rcases abandoned_snoc.mp abandoned with ⟨before, _⟩ | ⟨_, same, _⟩
    · obtain ⟨member, passed, untold⟩ := accounted.passed revision before
      refine ⟨List.mem_append_left _ member, passed, fun isExisting told => ?_⟩
      rcases told_snoc.mp told with now | ⟨earlier, _⟩
      · exact now
      · exact untold (kept revision member isExisting).1 earlier
    · cases same

/-- What is told of without a change stays told of, and what was abandoned is not told of. -/
theorem unchanged (accounted : Accounted numbering history state) {event : Event}
    (allowed : state.allows numbering event)
    (same : (state.next numbering event).past = state.past)
    (unchanged : ∀ name, ¬Changes name state event)
    (covered : ∀ revision ∈ existing state.past, state.Awaits numbering revision →
      Yields numbering revision.name state event ∨
        (state.next numbering event).Awaits numbering revision ∨
        ∃ failure, event = .closed failure ∧ Leaves revision state failure)
    (kept : ∀ revision, state.Passed numbering revision →
      (∀ failure, event = .closed failure → ¬Session.Gone failure) →
        (state.next numbering event).Passed numbering revision) :
    Accounted numbering (history ++ [event]) (state.next numbering event) := by
  obtain ⟨reached, sound, wasCovered, wasPassed⟩ := accounted
  refine ⟨?_, sound.next allowed, ?_, ?_⟩
  · rw [Machine.after_snoc, reached]
    rfl
  · intro revision isExisting
    rw [same] at isExisting
    rcases wasCovered revision isExisting with told | awaits | abandoned
    · exact Or.inl (told_snoc.mpr (Or.inr ⟨told, reached ▸ unchanged revision.name⟩))
    · rcases covered revision isExisting awaits with yields | still | ⟨failure, rfl, leaves⟩
      · exact Or.inl (told_snoc.mpr (Or.inl (reached ▸ yields)))
      · exact Or.inr (Or.inl still)
      · by_cases told : Told numbering history revision
        · exact Or.inl (told_snoc.mpr (Or.inr ⟨told, reached ▸ unchanged revision.name⟩))
        · exact Or.inr (Or.inr
            (abandoned_snoc.mpr (Or.inr ⟨failure, rfl, told, reached ▸ leaves⟩)))
    · by_cases remembers : ∀ failure, event = .closed failure → ¬Session.Gone failure
      · exact Or.inr (Or.inr (abandoned_snoc.mpr (Or.inl ⟨abandoned, remembers⟩)))
      · simp only [not_forall, not_not] at remembers
        obtain ⟨failure, rfl, gone⟩ := remembers
        exact Or.inr (Or.inl (awaits_of_gone gone allowed))
  · intro revision abandoned
    rw [same]
    rcases abandoned_snoc.mp abandoned with ⟨before, remembers⟩ | ⟨failure, rfl, untold, leaves⟩
    · obtain ⟨member, passed, untold⟩ := wasPassed revision before
      refine ⟨member, kept revision passed remembers, fun isExisting told => ?_⟩
      rcases told_snoc.mp told with now | ⟨earlier, _⟩
      · rw [reached] at now
        exact passed.not_yields sound (mem_existing.mp isExisting).2.2 event now
      · exact untold isExisting earlier
    · rw [reached] at leaves
      refine ⟨?_, passed_of_leaves leaves, fun _ told => ?_⟩
      · obtain ⟨_, feed, isFeed, isPending, _⟩ := leaves
        exact sound.known feed isFeed revision (List.mem_append_right _ isPending)
      · rcases told_snoc.mp told with now | ⟨earlier, _⟩
        · exact now
        · exact untold earlier

theorem next (accounted : Accounted numbering history state) {event : Event}
    (allowed : state.allows numbering event) :
    Accounted numbering (history ++ [event]) (state.next numbering event) := by
  cases event with
  | changed new =>
      exact accounted.changed allowed
  | opened pending =>
      refine accounted.unchanged allowed rfl (fun _ => id) ?_ (fun _ passed _ => passed)
      exact fun revision isExisting awaits => Or.inr (Or.inl (awaits.opened isExisting allowed))
  | delivered =>
      have past : (state.next numbering .delivered).past = state.past ∧
          (state.next numbering .delivered).streams = state.streams := by
        simp only [Following.next]
        split <;> exact ⟨rfl, rfl⟩
      refine accounted.unchanged allowed past.1 (fun _ => id) ?_ ?_
      · intro revision isExisting awaits
        rcases awaits.delivered (mem_existing.mp isExisting).2.1 allowed with yields | still
        · exact Or.inl yields
        · exact Or.inr (Or.inl still)
      · intro revision passed _
        rw [Passed, begun, past.2]
        exact passed
  | closed failure =>
      obtain ⟨feed, isFeed⟩ := Option.isSome_iff_exists.mp allowed
      have past : (state.next numbering (.closed failure)).past = state.past := by
        simp only [Following.next, isFeed]
      refine accounted.unchanged allowed past (fun _ => id) ?_ ?_
      · intro revision _ awaits
        rcases awaits.closed accounted.sound isFeed failure with still | leaves
        · exact Or.inr (Or.inl still)
        · exact Or.inr (Or.inr ⟨failure, rfl, leaves⟩)
      · exact fun revision passed remembers =>
          passed.closed accounted.sound isFeed (remembers failure rfl)

end Accounted

theorem accounted_after {history : List Event} (legal : (machine numbering).Legal {} history) :
    Accounted numbering history ((machine numbering).after {} history) := by
  have accounted := Machine.holds_after_history (Accounted numbering)
    (fun _ _ _ accounted allowed => accounted.next allowed) Accounted.start legal
  rw [List.nil_append] at accounted
  exact accounted

/-! ## Which objects are told of -/

theorem getLast?_inits {α : Type} (list : List α) : list.inits.getLast? = some list := by
  simp [List.getLast?_eq_getElem?]

/-- Whether an event may come is decided. -/
instance (state : Following) : (event : Event) → Decidable (state.allows numbering event)
  | .changed revision =>
      inferInstanceAs (Decidable (∀ earlier ∈ state.past, earlier.version < revision.version))
  | .delivered => inferInstanceAs (Decidable (∃ feed ∈ state.feed, _ ≠ _))
  | .closed _ => inferInstanceAs (Decidable (_ = true))
  | .opened pending =>
      match found : state.begun with
      | none => decidable_of_iff (state.feed = none ∧ pending.Perm (existing state.past))
          (by simp [allows, found])
      | some text => decidable_of_iff
          (state.feed = none ∧ ∃ revision ∈ state.past, text = numbering.text revision.version ∧
            pending = state.past.filter fun later => revision.version < later.version)
          (by simp [allows, found])

instance (state : Following) (event : Event) :
    Decidable ((machine numbering).allows state event) :=
  inferInstanceAs (Decidable (state.allows numbering event))

/-- However sessions begin and end, each begins where the loop begins it. Once a session has been
sent all that there is for it, the objects that exist have all been told of since their last
changes, except for those that were left behind when a session broke off. Only a session that
began without a version leaves objects behind. -/
theorem told_iff_not_abandoned (numbering : Numbering) {history : List Event}
    (legal : (machine numbering).Legal {} history) :
    (∀ (settings : Settings) (controller : Controller),
      controller.cursor = none → controller.world.stopped = false →
        (Controller.watch settings ((machine numbering).after {} history).streams
          controller).1.getLast? =
            some (.start settings.rules.signerName
              ((machine numbering).after {} history).begun)) ∧
    (∀ feed, ((machine numbering).after {} history).feed = some feed → feed.pending = [] →
      ∀ revision ∈ existing ((machine numbering).after {} history).past,
        (Told numbering history revision ↔ ¬Abandoned numbering history revision)) ∧
    ∀ earlier failure later revision,
      history = earlier ++ .closed failure :: later →
        Leaves revision ((machine numbering).after {} earlier) failure →
          ((machine numbering).after {} earlier).begun = none := by
  have accounted := accounted_after legal
  refine ⟨?_, ?_, ?_⟩
  · intro settings controller fresh running
    rw [Controller.subscriptions_watch settings _ controller running, fresh, List.getLast?_map,
      getLast?_inits]
    rfl
  · intro feed isFeed drained revision isExisting
    constructor
    · intro told abandoned
      exact (accounted.passed revision abandoned).2.2 isExisting told
    · intro kept
      rcases accounted.covered revision isExisting with told | awaits | abandoned
      · exact told
      · rw [Awaits, isFeed] at awaits
        simp [drained] at awaits
      · exact absurd abandoned kept
  · rintro earlier failure later revision rfl leaves
    have sound := (accounted_after ((Machine.legal_append _ _ _).mp legal).1).sound
    cases begun : ((machine numbering).after {} earlier).begun with
    | none =>
        rfl
    | some text =>
        exact absurd leaves (not_leaves_of_begun sound begun failure)

/-- A session is told of one object and breaks off before it is told of another. The next one goes
on from the version of the first object, and is told of the second and of one that comes later. -/
def resumedHistory : List Event :=
  [.changed ⟨1, "a", false⟩, .opened [⟨1, "a", false⟩], .delivered, .changed ⟨2, "b", false⟩] ++
    [.closed (some (.status (some 500) (some "Internal Server Error")))] ++
    [.opened [⟨2, "b", false⟩]] ++ [.delivered] ++ [.changed ⟨3, "c", false⟩] ++ [.delivered]

theorem not_abandoned_resumed (revision : Revision) :
    ¬Abandoned .decimal resumedHistory revision := by
  have earlier {history : List Event} {event : Event}
      (abandoned : Abandoned .decimal (history ++ [event]) revision)
      (goesOn : ∀ failure, event ≠ .closed failure) : Abandoned .decimal history revision := by
    rcases abandoned_snoc.mp abandoned with ⟨before, _⟩ | ⟨failure, isClosed, _⟩
    · exact before
    · exact absurd isClosed (goesOn failure)
  intro abandoned
  rw [resumedHistory] at abandoned
  have closed := earlier (earlier (earlier (earlier abandoned nofun) nofun) nofun) nofun
  rcases abandoned_snoc.mp closed with ⟨before, _⟩ | ⟨_, _, _, _, feed, isFeed, isPending, last,
    isLast, newer⟩
  · obtain ⟨first, failure, rest, split, _⟩ := before
    have member : Event.closed failure ∈ first ++ .closed failure :: rest := by simp
    rw [← split] at member
    simp at member
  · obtain rfl : (⟨[⟨1, "a", false⟩], [⟨2, "b", false⟩]⟩ : Feed) = feed := Option.some.inj isFeed
    obtain rfl := List.mem_singleton.mp isPending
    obtain rfl : (⟨1, "a", false⟩ : Revision) = last := Option.some.inj isLast
    exact absurd newer (by decide)

theorem told_iff_not_abandoned_resumed :
    (machine .decimal).Legal {} resumedHistory ∧
      ((machine .decimal).after {} resumedHistory).begun = some "1" ∧
      Told .decimal resumedHistory ⟨1, "a", false⟩ ∧
      Told .decimal resumedHistory ⟨2, "b", false⟩ ∧
      Told .decimal resumedHistory ⟨3, "c", false⟩ := by
  have legal : (machine .decimal).Legal {} resumedHistory := by
    decide +kernel
  have told := (told_iff_not_abandoned .decimal legal).2.1 ⟨[⟨2, "b", false⟩, ⟨3, "c", false⟩], []⟩
    (by decide +kernel) rfl
  exact ⟨legal, by decide +kernel, (told _ (by decide +kernel)).mpr (not_abandoned_resumed _),
    (told _ (by decide +kernel)).mpr (not_abandoned_resumed _),
    (told _ (by decide +kernel)).mpr (not_abandoned_resumed _)⟩

/-- A session breaks off after the first of two objects, whose version is the higher one, and the
next one goes on from there. -/
def brokenHistory : List Event :=
  [.changed ⟨3, "b", false⟩, .changed ⟨5, "a", false⟩] ++
    [.opened [⟨5, "a", false⟩, ⟨3, "b", false⟩]] ++ [.delivered] ++
    [.closed (some (.status (some 500) (some "Internal Server Error")))] ++ [.opened []]

/-- The other object exists, and although the session has been sent all that there is for it,
nobody has told of it. -/
theorem not_told_broken :
    (machine .decimal).Legal {} brokenHistory ∧
      (∃ feed, ((machine .decimal).after {} brokenHistory).feed = some feed ∧ feed.pending = []) ∧
      ⟨3, "b", false⟩ ∈ existing ((machine .decimal).after {} brokenHistory).past ∧
      ¬Told .decimal brokenHistory ⟨3, "b", false⟩ := by
  have legal : (machine .decimal).Legal {} brokenHistory := by
    decide +kernel
  refine ⟨legal, ⟨⟨[], []⟩, by decide +kernel, rfl⟩, by decide +kernel, ?_⟩
  let listed : List Event := [] ++ [.changed ⟨3, "b", false⟩] ++ [.changed ⟨5, "a", false⟩] ++
    [.opened [⟨5, "a", false⟩, ⟨3, "b", false⟩]]
  have listing : ((machine .decimal).after {} listed).feed =
      some ⟨[], [⟨5, "a", false⟩, ⟨3, "b", false⟩]⟩ := rfl
  have unlisted : ¬Told .decimal listed ⟨3, "b", false⟩ := by
    intro told
    rcases told_snoc.mp told with yields | ⟨both, _⟩
    · exact yields
    rcases told_snoc.mp both with yields | ⟨first, _⟩
    · exact yields
    rcases told_snoc.mp first with yields | ⟨_, unchanged⟩
    · exact yields
    · exact unchanged rfl
  intro told
  rcases told_snoc.mp told with yields | ⟨closed, _⟩
  · exact yields
  rcases told_snoc.mp closed with yields | ⟨delivered, _⟩
  · exact yields
  rcases told_snoc.mp delivered with yields | ⟨opened, _⟩
  · exact absurd ((yields_iff listing).mp yields).2 (by decide)
  · exact unlisted opened

end Following

end CertApproval.Control
