import CertApproval.Control.Controller
import CertApproval.Proofs.Queue.Desk

/-!
The controller at work: names are queued, workers take them, look at them, queue them again
where they have to and give them back, and timers go off, step by step and in any order.
Main statement: before the queue is closed, a name that was queued, or was to be queued
again, and was not handed out since waits, or will wait when the worker that holds it is
done, or has a timer that will add it.
-/

namespace CertApproval.Control

/-- How far a worker is with the name that it has in hand. -/
inductive Stage where
  | looking
  /-- The name has to be queued again. -/
  | requeuing
  | finishing
  deriving DecidableEq

/-- A controller at work. `ringing` are the timers that have taken themselves off the queue
and have not yet added their names. -/
structure Shift where
  dispatcher : Dispatcher := {}
  held : List (Nat × String) := []
  stage : Nat → Stage := fun _ => .looking
  ringing : List Timer := []
  stopped : Bool := false

namespace Shift

inductive Event where
  | enqueue (name : String)
  | take (worker : Nat)
  /-- The look at a name ends, and was reported of before. -/
  | conclude (worker : Nat) (name : String) (reported : List String)
      (result : Except Failure Report)
  | requeue (worker : Nat) (name : String)
  | release (worker : Nat) (name : String)
  | goOff (timer : Timer)
  | ring (timer : Timer)
  | stop
  | shutDown

def atStage (shift : Shift) (worker : Nat) (stage : Stage) : Shift :=
  { shift with stage := fun other => if other = worker then stage else shift.stage other }

def withWork (shift : Shift) (work : WorkQueue) : Shift :=
  { shift with dispatcher := { shift.dispatcher with work } }

/-- A worker asks for a name, and begins to look at it if there is one. -/
def take (shift : Shift) (worker : Nat) : Shift :=
  match shift.dispatcher.take with
  | (some name, dispatcher) =>
      { shift with dispatcher, held := (worker, name) :: shift.held }.atStage worker .looking
  | (none, dispatcher) => { shift with dispatcher }

/-- What an event does, where names are queued again after a delay. -/
def next (delay : Floating.Double) (shift : Shift) : Event → Shift
  | .enqueue name =>
      if shift.stopped then shift else { shift with dispatcher := shift.dispatcher.add name }
  | .take worker => shift.take worker
  | .conclude worker name reported result =>
      { shift with
        dispatcher := (shift.dispatcher.noteAll .debug reported).conclude delay name result
      }.atStage worker (if Dispatcher.again result then .requeuing else .finishing)
  | .requeue worker name =>
      { shift with
        dispatcher := shift.dispatcher.addAgain name delay }.atStage worker .finishing
  | .release worker name =>
      { shift with
        dispatcher := shift.dispatcher.release name, held := shift.held.erase (worker, name) }
  | .goOff timer =>
      { shift.withWork (shift.dispatcher.work.dropTimer timer) with
        ringing := timer :: shift.ringing }
  | .ring timer =>
      { shift.withWork (shift.dispatcher.work.add timer.name) with
        ringing := shift.ringing.erase timer }
  | .stop => { shift with stopped := true }
  | .shutDown => shift.withWork shift.dispatcher.work.shutDown

/-- A worker takes a name when it has none in hand and goes through its stages in order, and
a timer goes off once. -/
def allows (shift : Shift) : Event → Prop
  | .take worker => worker ∉ shift.held.map Prod.fst
  | .conclude worker name _ _ => (worker, name) ∈ shift.held ∧ shift.stage worker = .looking
  | .requeue worker name => (worker, name) ∈ shift.held ∧ shift.stage worker = .requeuing
  | .release worker name => (worker, name) ∈ shift.held ∧ shift.stage worker = .finishing
  | .goOff timer => timer ∈ shift.dispatcher.work.timers
  | .ring timer => timer ∈ shift.ringing
  | .enqueue _ | .stop | .shutDown => True

def machine (delay : Floating.Double) : Machine Shift Event := ⟨allows, next delay⟩

instance (delay : Floating.Double) (shift : Shift) :
    (event : Event) → Decidable ((machine delay).allows shift event)
  | .take worker => inferInstanceAs (Decidable (worker ∉ shift.held.map Prod.fst))
  | .conclude worker name _ _ =>
      inferInstanceAs (Decidable ((worker, name) ∈ shift.held ∧ shift.stage worker = .looking))
  | .requeue worker name =>
      inferInstanceAs (Decidable ((worker, name) ∈ shift.held ∧ shift.stage worker = .requeuing))
  | .release worker name =>
      inferInstanceAs (Decidable ((worker, name) ∈ shift.held ∧ shift.stage worker = .finishing))
  | .goOff timer => inferInstanceAs (Decidable (timer ∈ shift.dispatcher.work.timers))
  | .ring timer => inferInstanceAs (Decidable (timer ∈ shift.ringing))
  | .enqueue _ | .stop | .shutDown => inferInstanceAs (Decidable True)

variable {delay : Floating.Double} {shift : Shift} {event : Event} {name : String}

/-! ## What is seen at the queue -/

def desk (shift : Shift) : Desk := ⟨shift.dispatcher.work, shift.held⟩

/-- What is done at the queue when something happens, if anything is. -/
def atQueue (delay : Floating.Double) (shift : Shift) : Event → Option Desk.Event
  | .enqueue name => if shift.stopped then none else some (.add name)
  | .take worker => some (.get worker)
  | .conclude _ _ _ _ => none
  | .requeue _ name => some (.addAfter name delay)
  | .release worker name => some (.done worker name)
  | .goOff timer => some (.goOff timer)
  | .ring timer => some (.add timer.name)
  | .stop => none
  | .shutDown => some .shutDown

theorem work_noteAll (dispatcher : Dispatcher) (level : Level) (texts : List String) :
    (dispatcher.noteAll level texts).work = dispatcher.work := by
  unfold Dispatcher.noteAll
  induction texts generalizing dispatcher with
  | nil =>
      rfl
  | cons text texts inductionHypothesis =>
      rw [List.foldl_cons, inductionHypothesis]
      rfl

theorem work_conclude (dispatcher : Dispatcher) (delay : Floating.Double) (name : String)
    (result : Except Failure Report) :
    (dispatcher.conclude delay name result).work = dispatcher.work := by
  cases result with
  | ok report =>
      rfl
  | error failure =>
      rfl

theorem desk_take (shift : Shift) (worker : Nat) :
    (shift.take worker).desk = shift.desk.get worker := by
  rcases shift.dispatcher.work.get_cases with ⟨_, taken⟩ | ⟨first, queue, _, taken⟩
  · simp only [take, Dispatcher.take, taken, desk, Desk.get]
  · simp only [take, Dispatcher.take, taken, desk, Desk.get, atStage]

/-- A shift does at its queue what may be done there, and nothing else. -/
theorem desk_next (delay : Floating.Double) (allowed : shift.allows event) :
    (shift.atQueue delay event = none ∧ (shift.next delay event).desk = shift.desk) ∨
      ∃ done, shift.atQueue delay event = some done ∧ shift.desk.allows done ∧
        (shift.next delay event).desk = shift.desk.next done := by
  cases event with
  | enqueue name =>
      cases stopped : shift.stopped with
      | true =>
          exact Or.inl ⟨by simp [atQueue, stopped], by simp [next, stopped]⟩
      | false =>
          refine Or.inr ⟨.add name, by simp [atQueue, stopped], trivial, ?_⟩
          simp [next, stopped, desk, Desk.next, Dispatcher.add]
  | take worker =>
      exact Or.inr ⟨.get worker, rfl, trivial, desk_take shift worker⟩
  | conclude worker name reported result =>
      refine Or.inl ⟨rfl, ?_⟩
      simp only [next, desk, atStage, work_conclude, work_noteAll]
  | requeue worker name =>
      exact Or.inr ⟨.addAfter name delay, rfl, trivial, rfl⟩
  | release worker name =>
      exact Or.inr ⟨.done worker name, rfl, allowed.1, rfl⟩
  | goOff timer =>
      exact Or.inr ⟨.goOff timer, rfl, trivial, rfl⟩
  | ring timer =>
      exact Or.inr ⟨.add timer.name, rfl, trivial, rfl⟩
  | stop =>
      exact Or.inl ⟨rfl, rfl⟩
  | shutDown =>
      exact Or.inr ⟨.shutDown, rfl, trivial, rfl⟩

theorem work_take (shift : Shift) (worker : Nat) :
    (shift.take worker).dispatcher.work = shift.dispatcher.work.get.2 := by
  have same := congrArg Desk.work (desk_take shift worker)
  rw [Desk.work_get] at same
  exact same

theorem ringing_take (shift : Shift) (worker : Nat) :
    (shift.take worker).ringing = shift.ringing := by
  rcases shift.dispatcher.work.get_cases with ⟨_, taken⟩ | ⟨first, queue, _, taken⟩
  · simp only [take, Dispatcher.take, taken]
  · simp only [take, Dispatcher.take, taken, atStage]

structure Sound (shift : Shift) : Prop where
  desk : shift.desk.Sound
  numbered : shift.dispatcher.work.Numbered

namespace Sound

theorem empty : Sound {} := ⟨.empty, .empty⟩

theorem numbered_next (numbered : shift.dispatcher.work.Numbered) :
    (shift.next delay event).dispatcher.work.Numbered := by
  cases event with
  | enqueue name =>
      cases stopped : shift.stopped with
      | true =>
          simpa [next, stopped] using numbered
      | false =>
          simp only [next, stopped]
          exact numbered.of_same WorkQueue.timers_add WorkQueue.nextSerial_add
  | take worker =>
      rw [next, work_take]
      exact numbered.of_same WorkQueue.timers_get WorkQueue.nextSerial_get
  | conclude worker name reported result =>
      simpa only [next, atStage, work_conclude, work_noteAll] using numbered
  | requeue worker name =>
      exact numbered.addAfter name delay
  | release worker name =>
      exact numbered.of_same WorkQueue.timers_done WorkQueue.nextSerial_done
  | goOff timer =>
      exact numbered.dropTimer timer
  | ring timer =>
      exact numbered.of_same WorkQueue.timers_add WorkQueue.nextSerial_add
  | stop =>
      exact numbered
  | shutDown =>
      exact .shutDown _

theorem next (sound : shift.Sound) (allowed : shift.allows event) :
    (shift.next delay event).Sound := by
  refine ⟨?_, numbered_next sound.numbered⟩
  rcases desk_next delay allowed with ⟨_, same⟩ | ⟨done, _, allowedThere, same⟩
  · rw [same]
    exact sound.desk
  · rw [same]
    exact sound.desk.next allowedThere

end Sound

theorem sound_after {history : List Event} (legal : (machine delay).Legal {} history) :
    ((machine delay).after {} history).Sound :=
  Machine.holds_after Sound (fun _ _ sound allowed => sound.next allowed) .empty legal

/-! ## What a worker does in one go -/

/-- The steps of a worker that is handed a name. -/
def turn (worker : Nat) (name : String) (reported : List String)
    (result : Except Failure Report) : List Event :=
  [.take worker, .conclude worker name reported result] ++
    (if Dispatcher.again result then [.requeue worker name] else []) ++ [.release worker name]

theorem dispatcher_processNext {settings : Settings} {controller : Controller} {rest : Dispatcher}
    (taken : controller.dispatcher.take = (some name, rest)) :
    let run := (settings.rules.run World.api World.resolver name controller.world).1
    (controller.processNext settings).2.dispatcher =
      ((rest.noteAll .debug run.notices).settle settings.requeueDelay name (result run)).release
        name := by
  simp only [Controller.processNext, taken, Controller.work, Controller.reconcile]
  rfl

/-- The steps of a worker, with no steps of others between them, are what a controller does
to process a name. -/
theorem after_turn {settings : Settings} {controller : Controller} {worker : Nat}
    (same : shift.dispatcher = controller.dispatcher)
    (idle : worker ∉ shift.held.map Prod.fst) {rest : Dispatcher}
    (taken : controller.dispatcher.take = (some name, rest)) :
    let run := (settings.rules.run World.api World.resolver name controller.world).1
    let steps := turn worker name run.notices (result run)
    let later := (machine settings.requeueDelay).after shift steps
    (machine settings.requeueDelay).Legal shift steps ∧
      later.dispatcher = (controller.processNext settings).2.dispatcher ∧
      later.held = shift.held ∧ later.ringing = shift.ringing := by
  intro run steps later
  have handed : shift.take worker =
      { shift with dispatcher := rest, held := (worker, name) :: shift.held }.atStage worker
        .looking := by
    simp only [take, same, taken]
  have processed : (controller.processNext settings).2.dispatcher =
      ((rest.noteAll .debug run.notices).settle settings.requeueDelay name (result run)).release
        name :=
    dispatcher_processNext taken
  rw [processed]
  cases again : Dispatcher.again (result run) with
  | true =>
      refine ⟨?_, ?_⟩
      · simpa [steps, turn, again, Machine.Legal, machine, allows, next, handed, atStage] using idle
      · simp [later, steps, turn, again, Machine.after, machine, next, handed, atStage,
          Dispatcher.settle]
  | false =>
      refine ⟨?_, ?_⟩
      · simpa [steps, turn, again, Machine.Legal, machine, allows, next, handed, atStage] using idle
      · simp [later, steps, turn, again, Machine.after, machine, next, handed, atStage,
          Dispatcher.settle]

/-! ## What is owed and what is kept -/

/-- Whether an event asks for a look at a name. When the controller stops, no more names are
queued. -/
def Event.Asks (name : String) (shift : Shift) : Event → Prop
  | .enqueue other => name = other ∧ shift.stopped = false
  | .requeue _ other => name = other
  | _ => False

def handedOut (shift : Shift) : Event → Option String
  | .take _ => shift.dispatcher.take.1
  | _ => none

/-- Whether a look at a name was asked for in the course of a history, and the name was not
handed out since. -/
def Owed (delay : Floating.Double) (history : List Event) (name : String) : Prop :=
  (machine delay).Since (Event.Asks name) (fun shift event => shift.handedOut event = some name)
    {} history

/-- Whether a name is remembered: as dirty, by a timer, or by a timer that has gone off. -/
def Kept (shift : Shift) (name : String) : Prop :=
  name ∈ shift.dispatcher.work.dirty ∨
    ∃ timer : Timer, timer.name = name ∧
      (timer ∈ shift.dispatcher.work.timers ∨ timer ∈ shift.ringing)

theorem handedOut_eq :
    shift.handedOut event = (shift.atQueue delay event).bind shift.desk.handedOut := by
  cases event with
  | enqueue name =>
      cases stopped : shift.stopped <;> simp [handedOut, atQueue, stopped, Desk.handedOut]
  | take worker =>
      rfl
  | conclude worker name reported result | requeue worker name | release worker name
  | goOff timer | ring timer | stop | shutDown =>
      rfl

theorem open_of_open_next (allowed : shift.allows event)
    (openNow : (shift.next delay event).desk.work.shuttingDown = false) :
    shift.desk.work.shuttingDown = false := by
  rcases desk_next delay allowed with ⟨_, same⟩ | ⟨done, _, _, same⟩
  · rw [same] at openNow
    exact openNow
  · rw [same] at openNow
    exact Desk.open_of_open_next openNow

theorem mem_dirty_next (allowed : shift.allows event) (dirty : name ∈ shift.desk.work.dirty)
    (notNow : shift.handedOut event ≠ some name) :
    name ∈ (shift.next delay event).desk.work.dirty := by
  rcases desk_next delay allowed with ⟨_, same⟩ | ⟨done, isDone, _, same⟩
  · rw [same]
    exact dirty
  · rw [handedOut_eq, isDone] at notNow
    rw [same]
    exact Desk.mem_dirty_next.mpr (Or.inl ⟨dirty, notNow⟩)

theorem pending_next {timer : Timer} (numbered : shift.dispatcher.work.Numbered)
    (allowed : shift.allows event) (goesOn : event ≠ .shutDown)
    (pending : timer ∈ shift.dispatcher.work.timers) :
    timer ∈ (shift.next delay event).dispatcher.work.timers ∨
      timer ∈ (shift.next delay event).ringing := by
  cases event with
  | enqueue name =>
      cases stopped : shift.stopped with
      | true =>
          exact Or.inl (by simpa [next, stopped] using pending)
      | false =>
          exact Or.inl (by simpa [next, stopped, Dispatcher.add] using pending)
  | take worker =>
      rw [next, work_take, WorkQueue.timers_get]
      exact Or.inl pending
  | conclude worker name reported result =>
      simp only [next, atStage, work_conclude, work_noteAll]
      exact Or.inl pending
  | requeue worker name =>
      exact Or.inl (WorkQueue.mem_timers_addAfter pending)
  | release worker name =>
      have same : (shift.dispatcher.work.done name).timers = shift.dispatcher.work.timers :=
        WorkQueue.timers_done
      exact Or.inl (same ▸ pending)
  | goOff fired =>
      by_cases now : timer = fired
      · exact Or.inr (now ▸ List.mem_cons_self)
      · exact Or.inl (WorkQueue.mem_timers_dropTimer numbered pending allowed now)
  | ring fired =>
      have same : (shift.dispatcher.work.add fired.name).timers = shift.dispatcher.work.timers :=
        WorkQueue.timers_add
      exact Or.inl (same ▸ pending)
  | stop =>
      exact Or.inl pending
  | shutDown =>
      exact absurd rfl goesOn

theorem ringing_next {timer : Timer} (openQueue : shift.dispatcher.work.shuttingDown = false)
    (ringing : timer ∈ shift.ringing) :
    timer.name ∈ (shift.next delay event).dispatcher.work.dirty ∨
      timer ∈ (shift.next delay event).ringing := by
  cases event with
  | enqueue name =>
      cases stopped : shift.stopped <;> exact Or.inr (by simpa [next, stopped] using ringing)
  | take worker =>
      rw [next, ringing_take]
      exact Or.inr ringing
  | goOff fired =>
      exact Or.inr (List.mem_cons_of_mem fired ringing)
  | ring fired =>
      by_cases now : timer = fired
      · exact Or.inl (WorkQueue.mem_dirty_add.mpr (Or.inr ⟨now ▸ rfl, openQueue⟩))
      · exact Or.inr ((List.mem_erase_of_ne now).mpr ringing)
  | conclude worker name reported result | requeue worker name | release worker name
  | stop | shutDown =>
      exact Or.inr ringing

theorem kept_of_asks (openQueue : shift.dispatcher.work.shuttingDown = false)
    (asks : event.Asks name shift) : (shift.next delay event).Kept name := by
  cases event with
  | enqueue other =>
      obtain ⟨rfl, goesOn⟩ := asks
      have dirty : name ∈ (shift.dispatcher.work.add name).dirty :=
        WorkQueue.mem_dirty_add.mpr (Or.inr ⟨rfl, openQueue⟩)
      exact Or.inl (by simpa [next, goesOn, Dispatcher.add] using dirty)
  | requeue worker other =>
      obtain rfl : name = other := asks
      rcases WorkQueue.addAfter_pending name delay openQueue with
        dirty | ⟨timer, pending, named⟩
      · exact Or.inl dirty
      · exact Or.inr ⟨timer, named, Or.inl pending⟩
  | take worker | conclude worker other reported result | release worker other
  | goOff timer | ring timer | stop | shutDown =>
      cases asks

/-- A name is remembered until it is handed out, or the queue is closed. -/
theorem Kept.next (kept : shift.Kept name) (sound : shift.Sound) (allowed : shift.allows event)
    (openNow : (shift.next delay event).desk.work.shuttingDown = false)
    (notNow : shift.handedOut event ≠ some name) : (shift.next delay event).Kept name := by
  have openBefore := open_of_open_next allowed openNow
  rcases kept with dirty | ⟨timer, rfl, pending | ringing⟩
  · exact Or.inl (mem_dirty_next allowed dirty notNow)
  · have goesOn : event ≠ .shutDown := by
      rintro rfl
      cases openNow
    rcases pending_next sound.numbered allowed goesOn pending with stays | goesOff
    · exact Or.inr ⟨timer, rfl, Or.inl stays⟩
    · exact Or.inr ⟨timer, rfl, Or.inr goesOff⟩
  · rcases ringing_next openBefore ringing with dirty | stays
    · exact Or.inl dirty
    · exact Or.inr ⟨timer, rfl, Or.inr stays⟩

theorem kept_of_owed {history : List Event} (legal : (machine delay).Legal {} history)
    (openQueue : ((machine delay).after {} history).desk.work.shuttingDown = false)
    (owed : Owed delay history name) : ((machine delay).after {} history).Kept name := by
  let Remembered (history : List Event) (shift : Shift) : Prop :=
    shift = (machine delay).after {} history ∧ shift.Sound ∧
      (shift.desk.work.shuttingDown = false → Owed delay history name → shift.Kept name)
  have start : Remembered [] {} :=
    ⟨rfl, .empty, fun _ owed => absurd owed Machine.not_since_nil⟩
  have remembered := Machine.holds_after_history Remembered ?_ start legal
  · exact remembered.2.2 openQueue owed
  · rintro history shift event ⟨reached, sound, keeps⟩ allowed
    subst reached
    refine ⟨(Machine.after_snoc _ _ _).symm, sound.next allowed, ?_⟩
    intro openNow owedNow
    have openBefore := open_of_open_next allowed openNow
    rcases Machine.since_snoc.mp owedNow with asks | ⟨owedBefore, notNow⟩
    · exact kept_of_asks openBefore asks
    · exact (keeps openBefore owedBefore).next sound allowed openNow notNow

/-- A name waits, or will when the worker that holds it is done, or is added when a timer
goes off or has gone off. -/
def Awaited (shift : Shift) (name : String) : Prop :=
  let work := shift.dispatcher.work
  name ∈ work.queue ∨
    (name ∈ work.dirty ∧ ∃ worker, (worker, name) ∈ shift.held ∧ name ∈ (work.done name).queue) ∨
    (∃ timer ∈ work.timers, timer.name = name ∧ name ∈ (work.fire timer).dirty) ∨
    ∃ timer ∈ shift.ringing, timer.name = name ∧ name ∈ (work.add timer.name).dirty

/-- No name is lost before the queue is closed, whatever the delay, and in whatever order
names are queued, workers take their steps and timers go off. -/
theorem awaited_of_owed (delay : Floating.Double) {history : List Event}
    (legal : (machine delay).Legal {} history)
    (openQueue : ((machine delay).after {} history).dispatcher.work.shuttingDown = false)
    {name : String} (owed : Owed delay history name) :
    ((machine delay).after {} history).Awaited name := by
  have sound := sound_after legal
  have added : ∀ rest : WorkQueue, rest.shuttingDown = false → name ∈ (rest.add name).dirty :=
    fun rest openRest => WorkQueue.mem_dirty_add.mpr (Or.inr ⟨rfl, openRest⟩)
  rcases kept_of_owed legal openQueue owed with dirty | ⟨timer, rfl, pending | ringing⟩
  · rcases sound.desk.consistent.dirty_kept openQueue name dirty with waiting | processing
    · exact Or.inl waiting
    · obtain ⟨⟨worker, other⟩, inHand, rfl⟩ :=
        List.mem_map.mp ((sound.desk.held_iff name).mpr processing)
      have waitsAgain := WorkQueue.mem_queue_done dirty openQueue
      exact Or.inr (Or.inl ⟨dirty, worker, inHand, waitsAgain⟩)
  · exact Or.inr (Or.inr (Or.inl ⟨timer, pending, rfl, added _ openQueue⟩))
  · exact Or.inr (Or.inr (Or.inr ⟨timer, ringing, rfl, added _ openQueue⟩))

/-- A look at a name fails, and the timer goes off before the worker is done. -/
theorem awaited_of_owed_ringing :
    let requeued : List Event :=
      [.enqueue "csr", .take 0, .conclude 0 "csr" [] (.error .crashed), .requeue 0 "csr"]
    let history := requeued ++ [.goOff ⟨0, 0 + 5, "csr"⟩]
    (machine 5).Legal {} history ∧ Owed 5 history "csr" ∧
      ((machine 5).after {} history).Awaited "csr" := by
  intro requeued history
  have legal : (machine 5).Legal {} history := by decide +kernel
  have asked : Owed 5 ([.enqueue "csr", .take 0, .conclude 0 "csr" [] (.error .crashed)] ++
      [.requeue 0 "csr"]) "csr" :=
    Machine.since_snoc.mpr (Or.inl rfl)
  have owed : Owed 5 (requeued ++ [.goOff ⟨0, 0 + 5, "csr"⟩]) "csr" :=
    Machine.since_snoc.mpr (Or.inr ⟨asked, by simp [handedOut]⟩)
  exact ⟨legal, owed, awaited_of_owed 5 legal (by decide +kernel) owed⟩

end Shift

end CertApproval.Control
