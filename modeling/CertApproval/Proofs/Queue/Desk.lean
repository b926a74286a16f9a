import CertApproval.Proofs.Machine
import CertApproval.Proofs.Queue.Consistency

/-!
Workers at a queue. Any number of them take names and give them back, others add names, now
or after a delay, and the queue may be closed; all this in any order. Main statement: no two
workers hold one name, a name is handed out again only where it was added since, once for
all that was added, and nothing is handed out of a closed queue.
-/

namespace CertApproval.Control

/-- A queue and the names that workers have in hand, each with its worker. -/
structure Desk where
  work : WorkQueue := {}
  held : List (Nat × String) := []

namespace Desk

inductive Event where
  | add (name : String)
  | addAfter (name : String) (delay : Floating.Double)
  /-- A timer takes itself off, and is about to add its name. -/
  | goOff (timer : Timer)
  | get (worker : Nat)
  | done (worker : Nat) (name : String)
  | shutDown
  deriving DecidableEq

def get (desk : Desk) (worker : Nat) : Desk :=
  match desk.work.get with
  | (some name, work) => ⟨work, (worker, name) :: desk.held⟩
  | (none, work) => ⟨work, desk.held⟩

def next (desk : Desk) : Event → Desk
  | .add name => { desk with work := desk.work.add name }
  | .addAfter name delay => { desk with work := desk.work.addAfter name delay }
  | .goOff timer => { desk with work := desk.work.dropTimer timer }
  | .get worker => desk.get worker
  | .done worker name => ⟨desk.work.done name, desk.held.erase (worker, name)⟩
  | .shutDown => { desk with work := desk.work.shutDown }

/-- A worker gives back what it has in hand. All else may happen at any time. -/
def allows (desk : Desk) : Event → Prop
  | .done worker name => (worker, name) ∈ desk.held
  | _ => True

def machine : Machine Desk Event := ⟨allows, next⟩

instance (desk : Desk) : (event : Event) → Decidable (machine.allows desk event)
  | .done worker name => inferInstanceAs (Decidable ((worker, name) ∈ desk.held))
  | .add _ | .addAfter _ _ | .goOff _ | .get _ | .shutDown => inferInstanceAs (Decidable True)

/-- Whether an event adds a name. A delay that is not positive is none. -/
def Event.Adds (name : String) : Event → Prop
  | .add other => name = other
  | .addAfter other delay => name = other ∧ delay ≤ 0
  | _ => False

def handedOut (desk : Desk) : Event → Option String
  | .get _ => desk.work.get.1
  | _ => none

/-- The names that are handed out in the course of a history, in order. -/
def handOuts : Desk → List Event → List String
  | _, [] => []
  | desk, event :: history => (desk.handedOut event).toList ++ handOuts (desk.next event) history

def Event.asks : Event → Bool
  | .get _ => true
  | _ => false

/-- Whether a name was added in the course of a history and not handed out since. -/
def Requested (history : List Event) (name : String) : Prop :=
  machine.Since (fun _ event => event.Adds name)
    (fun desk event => desk.handedOut event = some name) {} history

/-! ## Who holds what -/

/-- What holds of a queue and its workers: the names in hand are those that the queue knows
to be held, each in one hand. -/
structure Sound (desk : Desk) : Prop where
  consistent : desk.work.Consistent
  held_iff : ∀ name, name ∈ desk.held.map Prod.snd ↔ name ∈ desk.work.processing
  held_nodup : (desk.held.map Prod.snd).Nodup

namespace Sound

variable {desk : Desk}

theorem empty : Sound {} where
  consistent := .empty
  held_iff := by simp
  held_nodup := List.nodup_nil

theorem get (sound : desk.Sound) (worker : Nat) : (desk.get worker).Sound := by
  have kept := sound.consistent.get
  rcases desk.work.get_cases with ⟨_, taken⟩ | ⟨name, queue, waiting, taken⟩
  · have same : desk.get worker = desk := by simp only [Desk.get, taken]
    rw [same]
    exact sound
  · have free : name ∉ desk.work.processing :=
      sound.consistent.queue_free name (waiting ▸ List.mem_cons_self)
    rw [taken] at kept
    simp only [Desk.get, taken, if_neg free] at kept ⊢
    refine ⟨kept, ?_, ?_⟩
    · intro other
      rw [List.map_cons, List.mem_cons, sound.held_iff, List.mem_append, List.mem_singleton,
        or_comm]
    · rw [List.map_cons, List.nodup_cons, sound.held_iff]
      exact ⟨free, sound.held_nodup⟩

theorem done (sound : desk.Sound) {worker : Nat} {name : String}
    (inHand : (worker, name) ∈ desk.held) : (desk.next (.done worker name)).Sound := by
  have held : name ∈ desk.work.processing :=
    (sound.held_iff name).mp (List.mem_map.mpr ⟨(worker, name), inHand, rfl⟩)
  refine ⟨sound.consistent.done held, ?_, ?_⟩
  · intro other
    simp only [Desk.next]
    rw [mem_map_erase sound.held_nodup inHand, sound.held_iff]
    simp
  · exact sound.held_nodup.sublist (List.erase_sublist.map Prod.snd)

theorem next (sound : desk.Sound) {event : Event} (allowed : desk.allows event) :
    (desk.next event).Sound := by
  cases event with
  | add name =>
      refine ⟨sound.consistent.add name, ?_, sound.held_nodup⟩
      simpa only [Desk.next, WorkQueue.processing_add] using sound.held_iff
  | addAfter name delay =>
      refine ⟨sound.consistent.addAfter name delay, ?_, sound.held_nodup⟩
      simpa only [Desk.next, WorkQueue.processing_addAfter] using sound.held_iff
  | goOff timer =>
      exact ⟨sound.consistent.dropTimer timer, sound.held_iff, sound.held_nodup⟩
  | get worker =>
      exact sound.get worker
  | done worker name =>
      exact sound.done allowed
  | shutDown =>
      exact ⟨.shutDown desk.work, sound.held_iff, sound.held_nodup⟩

end Sound

theorem sound_after {history : List Event} (legal : machine.Legal {} history) :
    (machine.after {} history).Sound :=
  Machine.holds_after Sound (fun _ _ sound allowed => sound.next allowed) .empty legal

/-! ## What is handed out -/

variable {desk : Desk} {event : Event} {name : String}

theorem work_get (desk : Desk) (worker : Nat) : (desk.get worker).work = desk.work.get.2 := by
  rcases desk.work.get_cases with ⟨_, taken⟩ | ⟨_, _, _, taken⟩
  · simp only [get, taken]
  · simp only [get, taken]

theorem handOuts_append (desk : Desk) (earlier later : List Event) :
    handOuts desk (earlier ++ later) =
      handOuts desk earlier ++ handOuts (machine.after desk earlier) later := by
  induction earlier generalizing desk with
  | nil =>
      rfl
  | cons event earlier inductionHypothesis =>
      simp only [List.cons_append, handOuts, Machine.after_cons, inductionHypothesis,
        List.append_assoc]
      rfl

/-- A name is dirty after an event if it was and is not handed out, or if it is added while
the queue is open. -/
theorem mem_dirty_next :
    name ∈ (desk.next event).work.dirty ↔
      (name ∈ desk.work.dirty ∧ desk.handedOut event ≠ some name) ∨
        (event.Adds name ∧ desk.work.shuttingDown = false) := by
  cases event with
  | add other =>
      simp [next, handedOut, Event.Adds, WorkQueue.mem_dirty_add]
  | addAfter other delay =>
      simp [next, handedOut, Event.Adds, WorkQueue.mem_dirty_addAfter, and_assoc]
  | goOff timer =>
      simp [next, handedOut, Event.Adds, WorkQueue.dropTimer]
  | get worker =>
      simp [next, handedOut, Event.Adds, work_get, WorkQueue.mem_dirty_get]
  | done worker other =>
      simp [next, handedOut, Event.Adds]
  | shutDown =>
      simp [next, handedOut, Event.Adds, WorkQueue.shutDown]

theorem shuttingDown_next :
    (desk.next event).work.shuttingDown = true ↔
      desk.work.shuttingDown = true ∨ event = .shutDown := by
  cases event with
  | add other =>
      simp [next]
  | addAfter other delay =>
      simp [next]
  | goOff timer =>
      simp [next, WorkQueue.dropTimer]
  | get worker =>
      simp [next, work_get]
  | done worker other =>
      simp [next]
  | shutDown =>
      simp [next, WorkQueue.shutDown]

theorem open_of_open_next (openNow : (desk.next event).work.shuttingDown = false) :
    desk.work.shuttingDown = false := by
  rw [Bool.eq_false_iff] at openNow ⊢
  intro closed
  exact openNow (shuttingDown_next.mpr (Or.inl closed))

/-- While the queue is open, the dirty names are those that were added and not handed out
since. -/
theorem requested_iff_dirty {history : List Event} (legal : machine.Legal {} history) :
    (∀ name ∈ (machine.after {} history).work.dirty, Requested history name) ∧
      ((machine.after {} history).work.shuttingDown = false →
        ∀ name, Requested history name → name ∈ (machine.after {} history).work.dirty) := by
  let Tracked (history : List Event) (desk : Desk) : Prop :=
    desk = machine.after {} history ∧
      (∀ name ∈ desk.work.dirty, Requested history name) ∧
      (desk.work.shuttingDown = false → ∀ name, Requested history name → name ∈ desk.work.dirty)
  have start : Tracked [] {} := by
    exact ⟨rfl, by simp, fun _ name requested => absurd requested Machine.not_since_nil⟩
  have tracked := Machine.holds_after_history Tracked ?_ start legal
  · exact tracked.2
  · rintro history desk event ⟨reached, requested, dirty⟩ _
    subst reached
    refine ⟨(Machine.after_snoc _ _ _).symm, ?_, ?_⟩
    · intro name dirtyNow
      rw [Requested, Machine.since_snoc]
      rcases mem_dirty_next.mp dirtyNow with ⟨before, notNow⟩ | ⟨adds, _⟩
      · exact Or.inr ⟨requested name before, notNow⟩
      · exact Or.inl adds
    · intro openNow name requestedNow
      have openBefore := open_of_open_next openNow
      rcases Machine.since_snoc.mp requestedNow with adds | ⟨before, notNow⟩
      · exact mem_dirty_next.mpr (Or.inr ⟨adds, openBefore⟩)
      · exact mem_dirty_next.mpr (Or.inl ⟨dirty openBefore name before, notNow⟩)

theorem mem_queue_of_handedOut (handed : desk.handedOut event = some name) :
    name ∈ desk.work.queue := by
  cases event with
  | get worker =>
      rcases desk.work.get_cases with ⟨_, taken⟩ | ⟨first, queue, waiting, taken⟩
      · simp [handedOut, taken] at handed
      · have same : first = name := by simpa [handedOut, taken] using handed
        rw [waiting, same]
        exact List.mem_cons_self
  | add other | addAfter other delay | goOff timer | done worker other | shutDown =>
      cases handed

/-! ## Once for all that was added -/

theorem not_mem_handOuts_of_clean {later : List Event}
    (sound : desk.Sound) (clean : name ∉ desk.work.dirty)
    (legal : machine.Legal desk later) (unasked : ∀ event ∈ later, ¬event.Adds name) :
    name ∉ handOuts desk later := by
  induction later generalizing desk with
  | nil =>
      simp [handOuts]
  | cons event later inductionHypothesis =>
      have notNow : desk.handedOut event ≠ some name := fun handed =>
        clean (sound.consistent.queue_dirty name (mem_queue_of_handedOut handed))
      have stillClean : name ∉ (desk.next event).work.dirty := by
        rw [mem_dirty_next]
        rintro (⟨dirty, _⟩ | ⟨adds, _⟩)
        · exact clean dirty
        · exact unasked event List.mem_cons_self adds
      have notLater :=
        inductionHypothesis (sound.next legal.1) stillClean legal.2
          fun other member => unasked other (List.mem_cons_of_mem event member)
      rw [handOuts, List.mem_append, not_or]
      exact ⟨by simpa [eq_comm] using notNow, notLater⟩

theorem count_handOuts_le_one {later : List Event}
    (sound : desk.Sound)
    (legal : machine.Legal desk later) (unasked : ∀ event ∈ later, ¬event.Adds name) :
    (handOuts desk later).count name ≤ 1 := by
  induction later generalizing desk with
  | nil =>
      simp [handOuts]
  | cons event later inductionHypothesis =>
      have unaskedLater : ∀ event ∈ later, ¬event.Adds name :=
        fun other member => unasked other (List.mem_cons_of_mem event member)
      rw [handOuts, List.count_append]
      by_cases now : desk.handedOut event = some name
      · have clean : name ∉ (desk.next event).work.dirty := by
          rw [mem_dirty_next]
          rintro (⟨_, notNow⟩ | ⟨adds, _⟩)
          · exact notNow now
          · exact unasked event List.mem_cons_self adds
        have notLater :=
          not_mem_handOuts_of_clean (sound.next legal.1) clean legal.2 unaskedLater
        rw [List.count_eq_zero_of_not_mem notLater, now]
        simp
      · have none : name ∉ (desk.handedOut event).toList := by simpa [eq_comm] using now
        rw [List.count_eq_zero_of_not_mem none, Nat.zero_add]
        exact inductionHypothesis (sound.next legal.1) legal.2 unaskedLater

/-- Names are only added at the end of the queue as long as none is handed out. -/
theorem queue_next (desk : Desk) (waits : ∀ worker, event ≠ .get worker)
    (goesOn : event ≠ .shutDown) :
    ∃ added, (desk.next event).work.queue = desk.work.queue ++ added := by
  cases event with
  | add other =>
      rcases desk.work.add_cases other with ⟨_, same⟩ | ⟨_, _, _, same⟩ | ⟨_, _, _, same⟩
      · exact ⟨[], by simp [next, same]⟩
      · exact ⟨[], by simp [next, same]⟩
      · exact ⟨[other], by simp [next, same]⟩
  | addAfter other delay =>
      rcases desk.work.addAfter_cases other delay with ⟨_, same⟩ | ⟨_, _, same⟩ | ⟨_, _, same⟩
      · rcases desk.work.add_cases other with ⟨_, added⟩ | ⟨_, _, _, added⟩ | ⟨_, _, _, added⟩
        · exact ⟨[], by simp [next, same, added]⟩
        · exact ⟨[], by simp [next, same, added]⟩
        · exact ⟨[other], by simp [next, same, added]⟩
      · exact ⟨[], by simp [next, same]⟩
      · exact ⟨[], by simp [next, same, WorkQueue.setTimer]⟩
  | goOff timer =>
      exact ⟨[], by simp [next, WorkQueue.dropTimer]⟩
  | get worker =>
      exact absurd rfl (waits worker)
  | done worker other =>
      rcases desk.work.done_cases other with ⟨_, _, same⟩ | ⟨_, same⟩
      · exact ⟨[other], by simp [next, same]⟩
      · exact ⟨[], by simp [next, same]⟩
  | shutDown =>
      exact absurd rfl goesOn

/-- A name is handed out once as many names are asked for as wait up to it: each that is handed
out is one less before it. -/
theorem mem_handOuts_of_waiting {later : List Event} {before behind : List String}
    (waiting : desk.work.queue = before ++ name :: behind)
    (goesOn : .shutDown ∉ later) (enough : before.length < later.countP Event.asks) :
    name ∈ handOuts desk later := by
  induction later generalizing desk before behind with
  | nil =>
      simp at enough
  | cons event later inductionHypothesis =>
      rw [List.mem_cons, not_or] at goesOn
      rw [handOuts, List.mem_append]
      by_cases asked : ∃ worker, event = .get worker
      · obtain ⟨worker, rfl⟩ := asked
        rcases desk.work.get_cases with ⟨empty, _⟩ | ⟨first, queue, found, taken⟩
        · simp [waiting] at empty
        · rw [waiting] at found
          cases before with
          | nil =>
              obtain ⟨same, _⟩ := List.cons.inj found
              exact Or.inl (by simp [handedOut, taken, same])
          | cons other before =>
              obtain ⟨_, rest⟩ := List.cons.inj found
              have waitingNext :
                  (desk.next (.get worker)).work.queue = before ++ name :: behind := by
                simp only [next, work_get, taken]
                exact rest.symm
              have enoughNext : before.length < later.countP Event.asks := by
                rw [List.countP_cons_of_pos rfl, List.length_cons] at enough
                omega
              exact Or.inr (inductionHypothesis waitingNext goesOn.2 enoughNext)
      · have waits : ∀ worker, event ≠ .get worker := fun worker equal => asked ⟨worker, equal⟩
        obtain ⟨added, grown⟩ := queue_next desk waits (Ne.symm goesOn.1)
        have waitingNext :
            (desk.next event).work.queue = before ++ name :: (behind ++ added) := by
          rw [grown, waiting]
          simp
        have silent : Event.asks event = false := by
          cases event with
          | get worker =>
              exact absurd rfl (waits worker)
          | add other | addAfter other delay | goOff timer | done worker other | shutDown =>
              rfl
        have enoughNext : before.length < later.countP Event.asks := by
          simpa [silent] using enough
        exact Or.inr (inductionHypothesis waitingNext goesOn.2 enoughNext)

theorem mem_dirty_after {later : List Event}
    (dirty : name ∈ desk.work.dirty) (unserved : name ∉ handOuts desk later) :
    name ∈ (machine.after desk later).work.dirty := by
  induction later generalizing desk with
  | nil =>
      exact dirty
  | cons event later inductionHypothesis =>
      rw [handOuts, List.mem_append, not_or] at unserved
      have dirtyNext : name ∈ (desk.next event).work.dirty :=
        mem_dirty_next.mpr (Or.inl ⟨dirty, by simpa [eq_comm] using unserved.1⟩)
      exact inductionHypothesis dirtyNext unserved.2

theorem open_after {later : List Event}
    (openQueue : desk.work.shuttingDown = false) (goesOn : .shutDown ∉ later) :
    (machine.after desk later).work.shuttingDown = false := by
  induction later generalizing desk with
  | nil =>
      exact openQueue
  | cons event later inductionHypothesis =>
      rw [List.mem_cons, not_or] at goesOn
      have openNext : (desk.next event).work.shuttingDown = false := by
        rw [Bool.eq_false_iff]
        intro closed
        rcases shuttingDown_next.mp closed with before | now
        · exact absurd (openQueue.symm.trans before) (by decide)
        · exact goesOn.1 now.symm
      exact inductionHypothesis openNext goesOn.2

theorem closed_after {later : List Event}
    (sound : desk.Sound) (closed : desk.work.shuttingDown = true)
    (legal : machine.Legal desk later) :
    (machine.after desk later).work.queue = [] ∧ handOuts desk later = [] := by
  have empty := sound.consistent.closed_empty closed
  induction later generalizing desk with
  | nil =>
      exact ⟨empty, rfl⟩
  | cons event later inductionHypothesis =>
      have nothing : desk.handedOut event = none := by
        rw [Option.eq_none_iff_forall_ne_some]
        intro name handed
        have waiting := mem_queue_of_handedOut handed
        rw [empty] at waiting
        cases waiting
      have soundNext := sound.next legal.1
      have closedNext : (desk.next event).work.shuttingDown = true :=
        shuttingDown_next.mpr (Or.inl closed)
      obtain ⟨emptyLater, nothingLater⟩ :=
        inductionHypothesis soundNext closedNext legal.2
          (soundNext.consistent.closed_empty closedNext)
      refine ⟨emptyLater, ?_⟩
      rw [handOuts, nothing, nothingLater]
      rfl

/-- A name is to be handed out once. Whatever comes, unless it is added again or the queue
is closed, it is not handed out twice; it is handed out once it waits and enough names are
asked for; and until then it waits, or will wait when the worker that holds it is done. -/
def DueOnce (desk : Desk) (name : String) : Prop :=
  ∀ later,
    machine.Legal desk later → .shutDown ∉ later → (∀ event ∈ later, ¬event.Adds name) →
      (handOuts desk later).count name ≤ 1 ∧
      (∀ earlier rest,
        later = earlier ++ rest →
        name ∈ (machine.after desk earlier).work.queue →
        (machine.after desk earlier).work.queue.length ≤ rest.countP Event.asks →
          (handOuts desk later).count name = 1) ∧
      ((handOuts desk later).count name = 0 →
        name ∈ (machine.after desk later).work.queue ∨
        ∃ worker, (worker, name) ∈ (machine.after desk later).held ∧
          name ∈ ((machine.after desk later).work.done name).queue)

theorem dueOnce_of_dirty
    (sound : desk.Sound) (openQueue : desk.work.shuttingDown = false)
    (dirty : name ∈ desk.work.dirty) : DueOnce desk name := by
  intro later legal goesOn unasked
  have atMost := count_handOuts_le_one sound legal unasked
  refine ⟨atMost, ?_, ?_⟩
  · rintro earlier rest rfl waiting enough
    obtain ⟨before, behind, split⟩ := List.append_of_mem waiting
    rw [split, List.length_append, List.length_cons] at enough
    have handed : name ∈ handOuts (machine.after desk earlier) rest :=
      mem_handOuts_of_waiting split (fun closes => goesOn (List.mem_append_right earlier closes))
        (by omega)
    have atLeast : 0 < (handOuts desk (earlier ++ rest)).count name := by
      rw [List.count_pos_iff, handOuts_append]
      exact List.mem_append_right _ handed
    omega
  · intro unserved
    have stillDirty := mem_dirty_after dirty (List.count_eq_zero.mp unserved)
    have stillOpen := open_after openQueue goesOn
    have soundLater : (machine.after desk later).Sound :=
      Machine.holds_after Sound (fun _ _ sound allowed => sound.next allowed) sound legal
    rcases soundLater.consistent.dirty_kept stillOpen name stillDirty with waiting | held
    · exact Or.inl waiting
    · obtain ⟨⟨worker, other⟩, inHand, rfl⟩ :=
        List.mem_map.mp ((soundLater.held_iff name).mpr held)
      refine Or.inr ⟨worker, inHand, ?_⟩
      exact WorkQueue.mem_queue_done stillDirty stillOpen

/-- The queue is exclusive and without duplicates. Whatever was done at it by any number of
workers: names wait once, not while they are held, and only if they are dirty, and no dirty
name is forgotten; no name is in two hands; what is handed out was added since it was handed
out last, once for all that was added; and nothing comes out of a closed queue. -/
theorem exclusive_handOut {history : List Event} (legal : machine.Legal {} history) :
    let desk := machine.after {} history
    (desk.work.queue.Nodup ∧
      (∀ name ∈ desk.work.queue, name ∉ desk.work.processing ∧ name ∈ desk.work.dirty) ∧
      (desk.work.shuttingDown = false →
        ∀ name ∈ desk.work.dirty, name ∈ desk.work.queue ∨ name ∈ desk.work.processing)) ∧
    (desk.held.map Prod.snd).Nodup ∧
    (∀ event name, desk.handedOut event = some name → Requested history name) ∧
    (desk.work.shuttingDown = false → ∀ name, Requested history name → DueOnce desk name) ∧
    (desk.work.shuttingDown = true → ∀ later, machine.Legal desk later →
      (machine.after desk later).work.queue = [] ∧ handOuts desk later = []) := by
  have sound := sound_after legal
  obtain ⟨requested, dirty⟩ := requested_iff_dirty legal
  refine ⟨⟨sound.consistent.queue_nodup, ?_, sound.consistent.dirty_kept⟩,
    sound.held_nodup, ?_, ?_, ?_⟩
  · intro name waiting
    exact ⟨sound.consistent.queue_free name waiting, sound.consistent.queue_dirty name waiting⟩
  · intro event name handed
    exact requested name (sound.consistent.queue_dirty name (mem_queue_of_handedOut handed))
  · intro openQueue name asked
    exact dueOnce_of_dirty sound openQueue (dirty openQueue name asked)
  · intro closed later legalLater
    exact closed_after sound closed legalLater

/-- A name that was added twice while a worker held it is handed out once more. -/
theorem exclusive_handOut_added_twice :
    let history : List Event :=
      [.add "csr", .get 0, .add "csr", .addAfter "csr" 0, .done 0 "csr"]
    machine.Legal {} history ∧ Requested history "csr" ∧
      DueOnce (machine.after {} history) "csr" := by
  intro history
  have legal : machine.Legal {} history := by decide
  have asked : Requested ([.add "csr", .get 0, .add "csr"] ++ [.addAfter "csr" 0]) "csr" :=
    Machine.since_snoc.mpr (Or.inl ⟨rfl, by decide⟩)
  have requested : Requested (_ ++ [.done 0 "csr"]) "csr" :=
    Machine.since_snoc.mpr (Or.inr ⟨asked, by decide⟩)
  exact ⟨legal, requested,
    (exclusive_handOut legal).2.2.2.1 (by decide) "csr" requested⟩

end Desk

end CertApproval.Control
