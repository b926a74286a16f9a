import CertApproval.Proofs.Cluster.Refusals
import CertApproval.Proofs.Machine
import CertApproval.Proofs.Watch.Sessions

/-!
Sessions that end in any of the ways in which a session can end. Main statement: a session tells
of the changes that it consumes and of nothing else, and the next one begins at the last version
that was consumed since the cluster last forgot one.
-/

namespace CertApproval.Cluster

/-! ## What a session consumes -/

namespace Session

/-- The names of changes, without those of deletions. -/
def told (changes : List Change) : List (Option String) :=
  (changes.filter fun change => !change.deleted).map Change.name

/-- The changes before the first one that a stop comes before. -/
def unstopped (stopped : Nat → Bool) (number : Nat) (changes : List Change) : List Change :=
  ((changes.zipIdx number).takeWhile fun entry => !stopped entry.2).map Prod.fst

/-- The changes that a session consumes: those before a stop, but no more than it takes for the
names that are wanted. -/
def consumed (stopped : Nat → Bool) (limit : Option Nat) (number : Nat) (changes : List Change) :
    List Change :=
  let possible := unstopped stopped number changes
  (possible.inits.find? fun front => limit = some (told front).length).getD possible

/-- The failure that a session meets: that of its stream, if it consumes all changes and more
names are wanted. -/
def met (stopped : Nat → Bool) (failure : Option Refusal) (limit : Option Nat) (number : Nat)
    (changes : List Change) : Option Refusal :=
  if consumed stopped limit number changes = changes ∧ limit ≠ some (told changes).length then
    failure
  else none

theorem met_eq_some {stopped : Nat → Bool} {failure : Option Refusal} {limit : Option Nat}
    {number : Nat} {changes : List Change} {refusal : Refusal} :
    met stopped failure limit number changes = some refusal ↔
      failure = some refusal ∧ consumed stopped limit number changes = changes ∧
        limit ≠ some (told (consumed stopped limit number changes)).length := by
  rw [met, Option.ite_none_right_eq_some, and_comm]
  refine and_congr_right fun _ => and_congr_right fun all => ?_
  rw [all]

/-- How many names are still wanted after a change. -/
def remaining (limit : Option Nat) (change : Change) : Option Nat :=
  if change.deleted then limit else limit.map (· - 1)

variable {stopped : Nat → Bool} {failure : Option Refusal} {limit : Option Nat} {number : Nat}
  {cursor : Option String} {change : Change} {changes : List Change}

theorem unstopped_cons_of_stopped (isStopped : stopped number = true) :
    unstopped stopped number (change :: changes) = [] := by
  simp [unstopped, isStopped]

theorem unstopped_cons (running : stopped number = false) :
    unstopped stopped number (change :: changes) =
      change :: unstopped stopped (number + 1) changes := by
  simp [unstopped, running]

/-- The names that are wanted are told exactly if those that remain after a change are. -/
theorem limit_eq_cons_iff (positive : limit ≠ some 0) (front : List Change) :
    limit = some (told (change :: front)).length ↔
      remaining limit change = some (told front).length := by
  cases deleted : change.deleted with
  | true =>
      simp [told, remaining, deleted]
  | false =>
      cases limit with
      | none =>
          simp [remaining, deleted]
      | some wanted =>
          have more : 0 < wanted := Nat.pos_of_ne_zero fun none => positive (congrArg some none)
          simp only [told, remaining, deleted, Option.map_some, Option.some.injEq,
            List.filter_cons, Bool.not_false, if_true, List.map_cons, List.length_cons,
            Bool.false_eq_true, if_false]
          omega

theorem find?_inits_nil (wanted : List Change → Bool) :
    (([] : List Change).inits.find? wanted).getD [] = [] := by
  cases found : ([] : List Change).inits.find? wanted with
  | none =>
      rfl
  | some front =>
      have member := List.mem_of_find?_eq_some found
      simpa using member

theorem consumed_nil : consumed stopped limit number [] = [] :=
  find?_inits_nil _

theorem consumed_cons_of_stopped (isStopped : stopped number = true) :
    consumed stopped limit number (change :: changes) = [] := by
  rw [consumed, unstopped_cons_of_stopped isStopped]
  exact find?_inits_nil _

theorem consumed_of_full : consumed stopped (some 0) number changes = [] := by
  cases possible : unstopped stopped number changes <;>
    simp [consumed, possible, List.inits, told]

theorem consumed_cons (running : stopped number = false) (positive : limit ≠ some 0) :
    consumed stopped limit number (change :: changes) =
      change :: consumed stopped (remaining limit change) (number + 1) changes := by
  have notYet : ¬limit = some (told []).length := positive
  have onwards :
      ((fun front => decide (limit = some (told front).length)) ∘ fun front => change :: front) =
        fun front => decide (remaining limit change = some (told front).length) := by
    funext front
    simp only [Function.comp_apply, limit_eq_cons_iff positive]
  rw [consumed, unstopped_cons running, List.inits_cons,
    List.find?_cons_of_neg (by simpa using notYet), List.find?_map, onwards, consumed]
  cases (unstopped stopped (number + 1) changes).inits.find? _ <;> rfl

theorem met_of_full : met stopped failure (some 0) number changes = none := by
  refine if_neg ?_
  rintro ⟨all, more⟩
  rw [consumed_of_full] at all
  rw [← all] at more
  exact more rfl

theorem met_cons (running : stopped number = false) (positive : limit ≠ some 0) :
    met stopped failure limit number (change :: changes) =
      met stopped failure (remaining limit change) (number + 1) changes := by
  simp only [met, consumed_cons running positive, List.cons.injEq, true_and, ne_eq,
    limit_eq_cons_iff positive]

/-- A session with the name of a change before its own, unless the change is a deletion. -/
def telling (change : Change) (session : Session) : Session :=
  if change.deleted then session else session.yielding change.name

theorem telling_eq (session : Session) :
    telling change { session with names := told changes } =
      { session with names := told (change :: changes) } := by
  cases deleted : change.deleted <;>
    simp [telling, yielding, told, deleted]

theorem follow_cons (running : stopped number = false) (positive : limit ≠ some 0) :
    follow stopped failure limit number cursor (change :: changes) =
      telling change
        (if remaining limit change = some 0 then finished (advance cursor change)
          else follow stopped failure (remaining limit change) (number + 1)
            (advance cursor change) changes) := by
  cases deleted : change.deleted with
  | true =>
      simp [follow, running, telling, remaining, deleted, positive]
  | false =>
      rcases limit with _ | _ | _ | more
      · simp [follow, running, telling, remaining, deleted]
      · exact absurd rfl positive
      · simp [follow, running, telling, remaining, deleted]
      · simp [follow, running, telling, remaining, deleted]

/-- What a session comes to is settled by what it consumes and by the failure that it meets. -/
theorem follow_eq (positive : limit ≠ some 0) :
    follow stopped failure limit number cursor changes =
      { close (met stopped failure limit number changes)
          ((consumed stopped limit number changes).foldl advance cursor) with
        names := told (consumed stopped limit number changes) } := by
  induction changes generalizing limit number cursor with
  | nil =>
      have same : met stopped failure limit number [] = failure :=
        if_pos ⟨consumed_nil, positive⟩
      rw [follow, same, consumed_nil, List.foldl_nil]
      exact congrArg (fun names => { close failure cursor with names }) (names_close failure cursor)
  | cons change changes inductionHypothesis =>
      cases isStopped : stopped number with
      | true =>
          have nothing : consumed stopped limit number (change :: changes) = [] :=
            consumed_cons_of_stopped isStopped
          have unmet : met stopped failure limit number (change :: changes) = none := by
            simp [met, nothing]
          rw [follow, isStopped, if_pos rfl, nothing, unmet]
          rfl
      | false =>
          rw [follow_cons isStopped positive, consumed_cons isStopped positive,
            met_cons isStopped positive, List.foldl_cons, ← telling_eq]
          by_cases full : remaining limit change = some 0
          · rw [if_pos full, full, consumed_of_full, met_of_full]
            rfl
          · rw [if_neg full, inductionHypothesis full]

/-- Whether a session consumes a front of its changes: no stop comes before one of them, no
smaller front has all names that are wanted, and the session goes no further. -/
structure Consumes (stopped : Nat → Bool) (limit : Option Nat) (number : Nat)
    (changes front : List Change) : Prop where
  begins : front <+: changes
  unstopped : ∀ index < front.length, stopped (number + index) = false
  wanted : ∀ less, less <+: front → less ≠ front → limit ≠ some (told less).length
  ended : front = changes ∨ stopped (number + front.length) = true ∨
    limit = some (told front).length

theorem Consumes.nil (ended : [] = changes ∨ stopped number = true ∨ limit = some 0) :
    Consumes stopped limit number changes [] where
  begins := List.nil_prefix
  unstopped := by simp
  wanted := by simp
  ended := ended

theorem Consumes.cons {front : List Change} (running : stopped number = false)
    (positive : limit ≠ some 0)
    (consumes : Consumes stopped (remaining limit change) (number + 1) changes front) :
    Consumes stopped limit number (change :: changes) (change :: front) := by
  have shift (index : Nat) : number + (index + 1) = number + 1 + index := by omega
  constructor
  case begins =>
    exact (List.prefix_cons_inj change).mpr consumes.begins
  case unstopped =>
    intro index within
    cases index with
    | zero =>
        exact running
    | succ index =>
        rw [shift]
        exact consumes.unstopped index (Nat.lt_of_succ_lt_succ within)
  case wanted =>
    intro less isFront smaller
    cases less with
    | nil =>
        exact positive
    | cons first less =>
        obtain ⟨rfl, isRest⟩ := List.cons_prefix_cons.mp isFront
        rw [ne_eq, limit_eq_cons_iff positive]
        exact consumes.wanted less isRest fun same => smaller (congrArg (first :: ·) same)
  case ended =>
    rw [limit_eq_cons_iff positive, List.length_cons, shift, List.cons.injEq, eq_self, true_and]
    exact consumes.ended

theorem consumes_consumed :
    Consumes stopped limit number changes (consumed stopped limit number changes) := by
  induction changes generalizing limit number with
  | nil =>
      rw [consumed_nil]
      exact .nil (Or.inl rfl)
  | cons change changes inductionHypothesis =>
      by_cases full : limit = some 0
      · rw [full, consumed_of_full]
        exact .nil (Or.inr (Or.inr rfl))
      · cases isStopped : stopped number with
        | true =>
            rw [consumed_cons_of_stopped isStopped]
            exact .nil (Or.inr (Or.inl isStopped))
        | false =>
            rw [consumed_cons isStopped full]
            exact .cons isStopped full inductionHypothesis

theorem Consumes.eq_of_front {front other : List Change}
    (consumes : Consumes stopped limit number changes front)
    (longer : Consumes stopped limit number changes other) (isFront : front <+: other) :
    front = other := by
  by_contra smaller
  rcases consumes.ended with whole | isStopped | full
  · exact smaller (isFront.eq_of_length_le (whole ▸ longer.begins.length_le))
  · have less : front.length < other.length :=
      Nat.lt_of_le_of_ne isFront.length_le fun same => smaller (isFront.eq_of_length same)
    rw [longer.unstopped front.length less] at isStopped
    cases isStopped
  · exact longer.wanted front isFront smaller full

theorem Consumes.unique {front other : List Change}
    (consumes : Consumes stopped limit number changes front)
    (alsoConsumes : Consumes stopped limit number changes other) : front = other := by
  rcases List.prefix_or_prefix_of_prefix consumes.begins alsoConsumes.begins with
    isFront | isFront
  · exact consumes.eq_of_front alsoConsumes isFront
  · exact (alsoConsumes.eq_of_front consumes isFront).symm

end Session

/-! ## What is remembered -/

/-- Something that bears on the version to go on from. -/
inductive Mark where
  | consumed (change : Change)
  /-- The cluster has forgotten the version. -/
  | gone

namespace Mark

/-- Whether a change with a version that is not empty is consumed. -/
def Carries (version : String) : Mark → Prop
  | consumed change => change.version = some version ∧ version ≠ ""
  | gone => False

def Moves (mark : Mark) : Prop := mark = gone ∨ ∃ version, mark.Carries version

/-- What a mark does to the version to go on from. -/
def next (cursor : Option String) : Mark → Option String
  | consumed change => Session.advance cursor change
  | gone => none

def memory : Machine (Option String) Mark := ⟨fun _ _ => True, next⟩

/-- Whether a version is the last one that was consumed, and the cluster forgot none since. -/
def Remembered (marks : List Mark) (version : String) : Prop :=
  memory.Since (fun _ mark => mark.Carries version) (fun _ mark => mark.Moves) none marks

theorem next_eq_some {cursor : Option String} {mark : Mark} {version : String} :
    next cursor mark = some version ↔
      mark.Carries version ∨ cursor = some version ∧ ¬mark.Moves := by
  cases mark with
  | gone =>
      simp [next, Carries, Moves]
  | consumed change =>
      cases carried : change.version with
      | none =>
          simp [next, Carries, Moves, Session.advance, carried]
      | some other =>
          by_cases empty : other = ""
          · simp [next, Carries, Moves, Session.advance, carried, empty]
          · have nonempty : other = version → ¬version = "" := fun same => same ▸ empty
            simpa [next, Carries, Moves, Session.advance, carried, empty] using nonempty

theorem after_eq_some {marks : List Mark} {version : String} :
    memory.after none marks = some version ↔ Remembered marks version := by
  induction marks using List.reverseRecOn with
  | nil =>
      refine iff_of_false ?_ Machine.not_since_nil
      simp
  | append_singleton marks mark inductionHypothesis =>
      rw [Remembered, Machine.since_snoc, ← Remembered, ← inductionHypothesis, Machine.after_snoc]
      exact next_eq_some

end Mark

/-! ## Sessions one after the other -/

/-- What comes to pass in a session: what the cluster sends, before which changes a stop is
signalled, and after how many names, of which there is at least one, the session is closed. -/
structure Visit where
  stream : Stream
  stopped : Nat → Bool
  limit : Option Nat
  positive : limit ≠ some 0

namespace Visit

def session (visit : Visit) (cursor : Option String) : Session :=
  .run visit.stopped visit.limit cursor visit.stream

def consumed (visit : Visit) : List Change :=
  Session.consumed visit.stopped visit.limit 0 visit.stream.changes

def met (visit : Visit) : Option Refusal :=
  Session.met visit.stopped visit.stream.failure visit.limit 0 visit.stream.changes

/-- What a session leaves behind that bears on the version to go on from. -/
def marks (visit : Visit) : List Mark :=
  visit.consumed.map .consumed ++ if Session.Gone visit.met then [.gone] else []

/-- The version to go on from after sessions, the first of which had none. -/
def cursorAfter (visits : List Visit) : Option String :=
  visits.foldl (fun cursor visit => (visit.session cursor).cursor) none

theorem session_eq (visit : Visit) (cursor : Option String) :
    visit.session cursor =
      { Session.close visit.met (visit.consumed.foldl Session.advance cursor) with
        names := Session.told visit.consumed } :=
  Session.follow_eq visit.positive

theorem after_consumed (changes : List Change) (cursor : Option String) :
    Mark.memory.after cursor (changes.map .consumed) = changes.foldl Session.advance cursor :=
  List.foldl_map

theorem cursor_session (visit : Visit) (cursor : Option String) :
    (visit.session cursor).cursor = Mark.memory.after cursor visit.marks := by
  rw [session_eq, marks, Machine.after_append, after_consumed]
  have closed := Session.cursor_close visit.met (visit.consumed.foldl Session.advance cursor)
  by_cases gone : Session.Gone visit.met
  · rw [if_pos gone] at closed ⊢
    exact closed
  · rw [if_neg gone] at closed ⊢
    exact closed

theorem cursorAfter_eq (visits : List Visit) :
    cursorAfter visits = Mark.memory.after none (visits.flatMap marks) := by
  induction visits using List.reverseRecOn with
  | nil =>
      rfl
  | append_singleton visits visit inductionHypothesis =>
      rw [cursorAfter, List.foldl_append, ← cursorAfter, List.foldl_cons, List.foldl_nil,
        cursor_session, inductionHypothesis, List.flatMap_append, Machine.after_append,
        List.flatMap_singleton]

theorem cursorAfter_eq_some {visits : List Visit} {version : String} :
    cursorAfter visits = some version ↔ Mark.Remembered (visits.flatMap marks) version := by
  rw [cursorAfter_eq, Mark.after_eq_some]

/-- Whether a session after others is what was consumed in them and in itself, and in which way
it ended, says. -/
structure Recounted (signer : String) (earlier : List Visit) (visit : Visit) : Prop where
  consumes : Session.Consumes visit.stopped visit.limit 0 visit.stream.changes visit.consumed
  names : (visit.session (cursorAfter earlier)).names = Session.told visit.consumed
  /-- The session asks for a version exactly if one is remembered, and then for that one. -/
  begins_iff : ∀ version,
    (Subscription.start signer (cursorAfter earlier)).version = some version ↔
      Mark.Remembered (earlier.flatMap marks) version
  /-- A failure is met if all changes are consumed and the session has not been closed. -/
  met_iff : ∀ refusal, visit.met = some refusal ↔
    visit.stream.failure = some refusal ∧ visit.consumed = visit.stream.changes ∧
      visit.limit ≠ some (Session.told visit.consumed).length
  finishes : visit.met = none → (visit.session (cursorAfter earlier)).ending = .ok ()
  /-- A version that the cluster has forgotten is forgotten, and this is no failure. -/
  forgets : ∀ refusal, visit.met = some refusal → refusal.hasCode goneCode = true →
    (visit.session (cursorAfter earlier)).ending = .ok () ∧
      (visit.session (cursorAfter earlier)).cursor = none
  /-- Any other failure is passed on, and the version is kept. -/
  fails : ∀ refusal, visit.met = some refusal → refusal.hasCode goneCode = false →
    refusal ≠ .crashed →
      (∀ version, (visit.session (cursorAfter earlier)).cursor = some version ↔
        Mark.Remembered (earlier.flatMap marks ++ visit.consumed.map .consumed) version) ∧
      ∃ fault, (visit.session (cursorAfter earlier)).ending = .error (.api fault) ∧
        (fault.kind = .conflict ↔ refusal.hasCode conflictCode = true) ∧
        (fault.kind = .malformed ↔ refusal.IsFinal) ∧
        (fault.kind = .transient ↔ ¬refusal.hasCode conflictCode = true ∧ ¬refusal.IsFinal)

/-- Whatever sessions there were before and however they ended, a session tells of the changes
that it consumes, begins at the version that is remembered, and leaves one behind. -/
theorem recounted (signer : String) (earlier : List Visit) (visit : Visit) :
    Recounted signer earlier visit := by
  constructor
  case consumes =>
    exact Session.consumes_consumed
  case names =>
    rw [session_eq]
  case begins_iff =>
    intro version
    exact cursorAfter_eq_some
  case met_iff =>
    intro refusal
    exact Session.met_eq_some
  case finishes =>
    intro unmet
    rw [session_eq, unmet]
    rfl
  case forgets =>
    intro refusal isMet gone
    rw [session_eq, isMet]
    simp [Session.close, gone]
  case fails =>
    intro refusal isMet notGone foreseen
    rw [session_eq, isMet]
    refine ⟨fun version => ?_, ?_⟩
    · rw [← Mark.after_eq_some, Machine.after_append, after_consumed, ← cursorAfter_eq]
      simp [Session.close, notGone]
    · obtain ⟨fault, means, kinds⟩ := Failure.ofRefusal_kind .watch foreseen
      exact ⟨fault, by simp [Session.close, notGone, means], kinds⟩

/-! ## A version that is forgotten -/

/-- A session that is closed after its first name, before a deletion and a failure. -/
def closedVisit : Visit where
  stream :=
    { changes := [⟨false, some "csr-1", some "100"⟩, ⟨true, some "csr-0", some "101"⟩]
      failure := some (.status (some 500) (some "Internal Server Error")) }
  stopped := fun _ => false
  limit := some 1
  positive := by decide

def expiredVisit : Visit where
  stream := { changes := [], failure := some (.status (some 410) (some "Gone")) }
  stopped := fun _ => false
  limit := none
  positive := by decide

/-- The second session begins where the first was closed, and the third begins anew. -/
theorem recounted_expired :
    (closedVisit.session (cursorAfter [])).names = [some "csr-1"] ∧
      (closedVisit.session (cursorAfter [])).ending = .ok () ∧
      (Subscription.start "signer" (cursorAfter [closedVisit])).version = some "100" ∧
      (expiredVisit.session (cursorAfter [closedVisit])).ending = .ok () ∧
      (expiredVisit.session (cursorAfter [closedVisit])).cursor = none := by
  have first := recounted "signer" [] closedVisit
  have second := recounted "signer" [closedVisit] expiredVisit
  have remembered : Mark.Remembered ([closedVisit].flatMap marks) "100" := by
    refine ⟨[], .consumed ⟨false, some "csr-1", some "100"⟩, [], rfl, ⟨rfl, by decide⟩, ?_⟩
    intro between last rest split
    simp at split
  exact ⟨first.names, first.finishes rfl, (second.begins_iff "100").mpr remembered,
    second.forgets _ rfl rfl⟩

end Visit

end CertApproval.Cluster
