import CertApproval.Proofs.Queue.Shift

/-!
The turn of a worker: it is handed a name, looks at it, queues it again where it has to, and gives
it back, while others take their steps. Main statement: however the look ends and whatever others
do, the worker can go on to the end of its turn; it gives the name back once and counts it once; and
then the name waits exactly if it was added since it was handed out.
-/

namespace CertApproval.Control

open CertApproval.Review (CheckResult)

/-! ## What is counted -/

namespace Dispatcher

/-- The outcome that is counted. Every failure counts as one that may pass. -/
def counted : Except Failure Report → Outcome
  | .ok report => report.outcome
  | .error _ => .transientError

/-- The checks that are counted as failed. A failure has none. -/
def countedChecks : Except Failure Report → List CheckResult
  | .ok report => report.checks.filter fun check => !check.passed
  | .error _ => []

theorem counters_conclude (dispatcher : Dispatcher) (delay : Floating.Double) (name : String)
    (result : Except Failure Report) :
    (dispatcher.conclude delay name result).counters =
      dispatcher.counters.count (counted result) ((countedChecks result).map (·.name)) := by
  cases result with
  | ok report =>
      rfl
  | error failure =>
      rfl

theorem again_iff {result : Except Failure Report} :
    again result = true ↔ ∀ report, result = .ok report → report.outcome = .aborted := by
  cases result with
  | ok report =>
      simp [again]
  | error failure =>
      simp [again]

theorem counters_noteAll (dispatcher : Dispatcher) (level : Level) (texts : List String) :
    (dispatcher.noteAll level texts).counters = dispatcher.counters := by
  unfold noteAll
  induction texts generalizing dispatcher with
  | nil =>
      rfl
  | cons text texts inductionHypothesis =>
      rw [List.foldl_cons, inductionHypothesis]
      rfl

end Dispatcher

namespace Shift

variable {delay : Floating.Double} {shift : Shift} {event : Event} {worker : Nat} {name : String}
  {earlier course : List Event}

/-- A worker that asks for a name gets none, and nothing changes, or has it in hand. -/
theorem take_cases (shift : Shift) (worker : Nat) :
    shift.take worker = shift ∨
      ∃ first work, shift.take worker =
        { shift with
          dispatcher := { shift.dispatcher with work }
          held := (worker, first) :: shift.held }.atStage worker .looking := by
  rcases shift.dispatcher.work.get_cases with ⟨_, taken⟩ | ⟨first, queue, _, taken⟩
  · exact Or.inl (by simp only [take, Dispatcher.take, taken])
  · refine Or.inr ⟨first, shift.dispatcher.work.get.2, ?_⟩
    simp only [take, Dispatcher.take, taken]

/-! ## The steps of one worker -/

/-- The worker whose step an event is, if it is that of a worker. -/
def Event.worker? : Event → Option Nat
  | .take worker | .conclude worker _ _ _ | .requeue worker _ | .release worker _ => some worker
  | .enqueue _ | .goOff _ | .ring _ | .stop | .shutDown => none

def stepsOf (worker : Nat) (history : List Event) : List Event :=
  history.filter fun event => event.worker? = some worker

def stepsOfOthers (worker : Nat) (history : List Event) : List Event :=
  history.filter fun event => event.worker? ≠ some worker

theorem stepsOf_snoc (worker : Nat) (history : List Event) (event : Event) :
    stepsOf worker (history ++ [event]) =
      stepsOf worker history ++ if event.worker? = some worker then [event] else [] := by
  by_cases own : event.worker? = some worker <;> simp [stepsOf, own]

/-- The steps of a worker that has a name in hand, up to giving it back. -/
def steps (worker : Nat) (name : String) (reported : List String)
    (result : Except Failure Report) : List Event :=
  .conclude worker name reported result ::
    ((if Dispatcher.again result then [.requeue worker name] else []) ++ [.release worker name])

/-- What is left of the steps once the look has ended. -/
theorem rest_of_steps {reported other : List String} {result otherResult : Except Failure Report}
    {rest : List Event}
    (parts : .conclude worker name reported result :: rest =
      steps worker name other otherResult) :
    rest = (if Dispatcher.again result then [.requeue worker name] else []) ++
      [.release worker name] := by
  simp only [steps, List.cons.injEq, Event.conclude.injEq] at parts
  obtain ⟨⟨_, _, _, rfl⟩, rfl⟩ := parts
  rfl

theorem turn_eq (worker : Nat) (name : String) (reported : List String)
    (result : Except Failure Report) :
    turn worker name reported result = .take worker :: steps worker name reported result := rfl

/-- What an event counts: an outcome, and the checks that failed. -/
def Event.outcomes : Event → List Outcome
  | .conclude _ _ _ result => [Dispatcher.counted result]
  | _ => []

def Event.failedChecks : Event → List String
  | .conclude _ _ _ result => (Dispatcher.countedChecks result).map (·.name)
  | _ => []

theorem counters_next (delay : Floating.Double) (shift : Shift) (event : Event) :
    (shift.next delay event).dispatcher.counters =
      ⟨shift.dispatcher.counters.outcomes ++ event.outcomes,
        shift.dispatcher.counters.failedChecks ++ event.failedChecks⟩ := by
  cases event with
  | conclude worker name reported result =>
      simp only [next, atStage, Dispatcher.counters_conclude, Dispatcher.counters_noteAll]
      rfl
  | enqueue name =>
      cases stopped : shift.stopped <;>
        simp [next, stopped, Dispatcher.add, Event.outcomes, Event.failedChecks]
  | take worker =>
      rcases shift.take_cases worker with same | ⟨first, work, same⟩ <;>
        simp [next, same, atStage, Event.outcomes, Event.failedChecks]
  | requeue worker name | release worker name | goOff timer | ring timer | stop | shutDown =>
      simp [next, atStage, withWork, Dispatcher.addAgain, Dispatcher.release, Event.outcomes,
        Event.failedChecks]

theorem counters_after (shift : Shift) (history : List Event) :
    ((machine delay).after shift history).dispatcher.counters =
      ⟨shift.dispatcher.counters.outcomes ++ history.flatMap Event.outcomes,
        shift.dispatcher.counters.failedChecks ++ history.flatMap Event.failedChecks⟩ := by
  induction history generalizing shift with
  | nil =>
      simp
  | cons event history inductionHypothesis =>
      have counted := counters_next delay shift event
      rw [Machine.after_cons, inductionHypothesis]
      simp only [machine, counted, List.append_assoc, List.flatMap_cons]

/-- What is counted in a history is counted by one worker or by the others. -/
theorem count_flatMap {α : Type} [DecidableEq α] (part : Event → List α) (worker : Nat)
    (history : List Event) (item : α) :
    (history.flatMap part).count item =
      ((stepsOfOthers worker history).flatMap part).count item +
        ((stepsOf worker history).flatMap part).count item := by
  induction history with
  | nil =>
      rfl
  | cons event history inductionHypothesis =>
      by_cases own : event.worker? = some worker
      · simp only [stepsOf, stepsOfOthers] at inductionHypothesis ⊢
        simp [own, inductionHypothesis]
        omega
      · simp only [stepsOf, stepsOfOthers] at inductionHypothesis ⊢
        simp [own, inductionHypothesis]
        omega

/-- A turn counts one outcome, and the checks that failed. -/
theorem count_outcomes_steps (worker : Nat) (name : String) (reported : List String)
    (result : Except Failure Report) (outcome : Outcome) :
    ((steps worker name reported result).flatMap Event.outcomes).count outcome =
      if outcome = Dispatcher.counted result then 1 else 0 := by
  have one : (steps worker name reported result).flatMap Event.outcomes =
      [Dispatcher.counted result] := by
    unfold steps
    split <;> rfl
  rw [one, List.count_singleton]
  exact if_congr (beq_iff_eq.trans eq_comm) rfl rfl

theorem count_failedChecks_steps (worker : Nat) (name : String) (reported : List String)
    (result : Except Failure Report) (check : String) :
    ((steps worker name reported result).flatMap Event.failedChecks).count check =
      (Dispatcher.countedChecks result).countP fun failed => failed.name = check := by
  have all : (steps worker name reported result).flatMap Event.failedChecks =
      (Dispatcher.countedChecks result).map (·.name) := by
    unfold steps
    split <;> simp [Event.failedChecks]
  rw [all, List.count_eq_countP, List.countP_map]
  rfl

/-! ## Names that are added -/

/-- Whether an event adds a name to the queue, as long as it is open. -/
def AddsAt (delay : Floating.Double) (name : String) (shift : Shift) (event : Event) : Prop :=
  ∃ done, shift.atQueue delay event = some done ∧ done.Adds name

/-- Whether a name is added in the course of a history. -/
def Added (delay : Floating.Double) (start : Shift) (history : List Event) (name : String) :
    Prop :=
  (machine delay).Since (AddsAt delay name) (fun _ _ => False) start history

theorem added_snoc {start : Shift} {history : List Event} :
    Added delay start (history ++ [event]) name ↔
      AddsAt delay name ((machine delay).after start history) event ∨
        Added delay start history name := by
  rw [Added, Machine.since_snoc, not_false_eq_true, and_true, Added]

theorem mem_dirty_next_iff (allowed : shift.allows event) :
    name ∈ (shift.next delay event).dispatcher.work.dirty ↔
      (name ∈ shift.dispatcher.work.dirty ∧ shift.handedOut event ≠ some name) ∨
        (AddsAt delay name shift event ∧ shift.dispatcher.work.shuttingDown = false) := by
  have handed : shift.handedOut event = (shift.atQueue delay event).bind shift.desk.handedOut :=
    handedOut_eq
  rcases desk_next delay allowed with ⟨isNone, same⟩ | ⟨done, isDone, _, same⟩
  · have work : (shift.next delay event).dispatcher.work = shift.dispatcher.work :=
      congrArg Desk.work same
    simp [work, handed, AddsAt, isNone]
  · have dirty : name ∈ (shift.desk.next done).work.dirty ↔ _ := Desk.mem_dirty_next
    rw [← same] at dirty
    refine dirty.trans ?_
    simp [handed, AddsAt, isDone, desk]

/-! ## A name in hand -/

/-- A worker has one name in hand at most. -/
theorem workers_nodup_next (nodup : (shift.held.map Prod.fst).Nodup)
    (allowed : shift.allows event) : ((shift.next delay event).held.map Prod.fst).Nodup := by
  cases event with
  | enqueue name =>
      cases stopped : shift.stopped <;> simpa [next, stopped] using nodup
  | take worker =>
      rcases shift.take_cases worker with same | ⟨first, work, same⟩
      · simpa only [next, same] using nodup
      · simp only [next, same, atStage]
        exact List.nodup_cons.mpr ⟨allowed, nodup⟩
  | release worker name =>
      exact nodup.sublist (List.erase_sublist.map Prod.fst)
  | conclude worker name reported result | requeue worker name | goOff timer | ring timer | stop
  | shutDown =>
      exact nodup

theorem workers_nodup_after {history : List Event} (legal : (machine delay).Legal {} history) :
    (((machine delay).after {} history).held.map Prod.fst).Nodup :=
  Machine.holds_after (fun shift => (shift.held.map Prod.fst).Nodup)
    (fun _ _ => workers_nodup_next) List.nodup_nil legal

theorem held_next (inHand : (worker, name) ∈ shift.held) (keeps : event ≠ .release worker name) :
    (worker, name) ∈ (shift.next delay event).held := by
  cases event with
  | enqueue name =>
      cases stopped : shift.stopped <;> simpa [next, stopped] using inHand
  | take worker =>
      rcases shift.take_cases worker with same | ⟨first, work, same⟩
      · simpa only [next, same] using inHand
      · simp only [next, same, atStage]
        exact List.mem_cons_of_mem _ inHand
  | release other given =>
      have different : (worker, name) ≠ (other, given) := by
        rintro ⟨rfl, rfl⟩
        exact keeps rfl
      exact (List.mem_erase_of_ne different).mpr inHand
  | conclude worker name reported result | requeue worker name | goOff timer | ring timer | stop
  | shutDown =>
      exact inHand

theorem stage_next_of_others (others : event.worker? ≠ some worker) :
    (shift.next delay event).stage worker = shift.stage worker := by
  cases event with
  | enqueue name =>
      cases stopped : shift.stopped <;> simp [next, stopped]
  | take other =>
      have different : worker ≠ other := fun same => others (congrArg some same.symm)
      rcases shift.take_cases other with same | ⟨first, work, same⟩
      · simp only [next, same]
      · simp [next, same, atStage, different]
  | conclude other name reported result | requeue other name =>
      have different : worker ≠ other := fun same => others (congrArg some same.symm)
      simp [next, atStage, different]
  | release other name | goOff timer | ring timer | stop | shutDown =>
      rfl

/-- How far a worker is after some of its steps. -/
inductive Reached (worker : Nat) (name : String) : List Event → Stage → Prop where
  | looking : Reached worker name [] .looking
  | requeuing {reported : List String} {result : Except Failure Report}
      (again : Dispatcher.again result = true) :
      Reached worker name [.conclude worker name reported result] .requeuing
  | done {reported : List String} {result : Except Failure Report}
      (settled : Dispatcher.again result = false) :
      Reached worker name [.conclude worker name reported result] .finishing
  | requeued {reported : List String} {result : Except Failure Report}
      (again : Dispatcher.again result = true) :
      Reached worker name [.conclude worker name reported result, .requeue worker name] .finishing

/-- What holds while a worker has a name in hand, since it was handed out in a given state. -/
structure Engaged (delay : Floating.Double) (begun : Shift) (worker : Nat) (name : String)
    (course : List Event) (shift : Shift) : Prop where
  reached : shift = (machine delay).after begun course
  sound : shift.Sound
  workers_nodup : (shift.held.map Prod.fst).Nodup
  inHand : (worker, name) ∈ shift.held
  stage : Reached worker name (stepsOf worker course) (shift.stage worker)
  dirty_iff : shift.dispatcher.work.shuttingDown = false →
    (name ∈ shift.dispatcher.work.dirty ↔ Added delay begun course name)

namespace Engaged

variable {begun : Shift}

theorem processing (engaged : Engaged delay begun worker name course shift) :
    name ∈ shift.dispatcher.work.processing :=
  (engaged.sound.desk.held_iff name).mp (List.mem_map.mpr ⟨_, engaged.inHand, rfl⟩)

theorem not_waiting (engaged : Engaged delay begun worker name course shift) :
    name ∉ shift.dispatcher.work.queue := fun waiting =>
  engaged.sound.desk.consistent.queue_free name waiting engaged.processing

/-- The worker has no other name in hand. -/
theorem name_eq (engaged : Engaged delay begun worker name course shift) {other : String}
    (held : (worker, other) ∈ shift.held) : other = name :=
  congrArg Prod.snd (List.inj_on_of_nodup_map engaged.workers_nodup held engaged.inHand rfl)

/-- Nobody else has the name in hand. -/
theorem worker_eq (engaged : Engaged delay begun worker name course shift) {other : Nat}
    (held : (other, name) ∈ shift.held) : other = worker :=
  congrArg Prod.fst
    (List.inj_on_of_nodup_map engaged.sound.desk.held_nodup held engaged.inHand rfl)

theorem not_handedOut (engaged : Engaged delay begun worker name course shift) (event : Event) :
    shift.handedOut event ≠ some name := by
  have handed : shift.handedOut event = (shift.atQueue delay event).bind shift.desk.handedOut :=
    handedOut_eq
  rw [handed]
  intro handed
  obtain ⟨done, _, handedThere⟩ := Option.bind_eq_some_iff.mp handed
  exact engaged.not_waiting (Desk.mem_queue_of_handedOut handedThere)

theorem stage_next (engaged : Engaged delay begun worker name course shift)
    (allowed : shift.allows event) (unfinished : ∀ other, event ≠ .release worker other) :
    Reached worker name (stepsOf worker (course ++ [event]))
      ((shift.next delay event).stage worker) := by
  have stage := engaged.stage
  rw [stepsOf_snoc]
  by_cases own : event.worker? = some worker
  · rw [if_pos own]
    cases event with
    | take other =>
        obtain rfl : other = worker := Option.some.inj own
        exact absurd (List.mem_map.mpr ⟨_, engaged.inHand, rfl⟩) allowed
    | conclude other given reported result =>
        obtain rfl : other = worker := Option.some.inj own
        obtain rfl := engaged.name_eq allowed.1
        rw [allowed.2] at stage
        generalize stepsOf other course = taken at stage ⊢
        cases stage
        cases again : Dispatcher.again result with
        | true =>
            simpa [next, atStage, again] using Reached.requeuing again
        | false =>
            simpa [next, atStage, again] using Reached.done again
    | requeue other given =>
        obtain rfl : other = worker := Option.some.inj own
        obtain rfl := engaged.name_eq allowed.1
        rw [allowed.2] at stage
        generalize stepsOf other course = taken at stage ⊢
        cases stage with
        | requeuing again =>
            simpa [next, atStage] using Reached.requeued again
    | release other given =>
        obtain rfl : other = worker := Option.some.inj own
        exact absurd rfl (unfinished given)
    | enqueue given | goOff timer | ring timer | stop | shutDown =>
        cases own
  · rw [if_neg own, List.append_nil, stage_next_of_others own]
    exact stage

theorem next (engaged : Engaged delay begun worker name course shift)
    (allowed : shift.allows event) (unfinished : ∀ other, event ≠ .release worker other) :
    Engaged delay begun worker name (course ++ [event]) (shift.next delay event) where
  reached := by
    rw [Machine.after_snoc, ← engaged.reached]
    rfl
  sound := engaged.sound.next allowed
  workers_nodup := workers_nodup_next engaged.workers_nodup allowed
  inHand := held_next engaged.inHand (unfinished name)
  stage := engaged.stage_next allowed unfinished
  dirty_iff := by
    intro openNow
    have openBefore := open_of_open_next allowed openNow
    rw [mem_dirty_next_iff allowed, added_snoc, ← engaged.reached, ← engaged.dirty_iff openBefore]
    have isOpen : shift.dispatcher.work.shuttingDown = false := openBefore
    simp [engaged.not_handedOut event, isOpen, or_comm]

/-- The steps that are left of a turn may be made, whatever others did since. -/
theorem legal_rest (engaged : Engaged delay begun worker name course shift)
    {reported : List String} {result : Except Failure Report} {rest : List Event}
    (parts : stepsOf worker course ++ rest = steps worker name reported result) :
    (machine delay).Legal shift rest := by
  have inHand := engaged.inHand
  have stage := engaged.stage
  generalize stepsOf worker course = taken at parts stage
  generalize isAt : shift.stage worker = now at stage
  cases stage with
  | looking =>
      rw [List.nil_append] at parts
      rw [parts]
      cases again : Dispatcher.again result <;>
        simp [steps, again, Machine.Legal, machine, allows, Shift.next, atStage, inHand, isAt]
  | requeuing again =>
      rw [List.singleton_append] at parts
      rw [rest_of_steps parts, if_pos again]
      simp [Machine.Legal, machine, allows, Shift.next, atStage, inHand, isAt]
  | done settled =>
      rw [List.singleton_append] at parts
      rw [rest_of_steps parts, settled]
      simp [Machine.Legal, machine, allows, inHand, isAt]
  | requeued again =>
      have left := rest_of_steps parts
      rw [if_pos again] at left
      obtain ⟨_, rfl⟩ := List.cons.inj left
      simp [Machine.Legal, machine, allows, inHand, isAt]

theorem steps_begin (engaged : Engaged delay begun worker name course shift) :
    ∃ reported result, stepsOf worker course <+: steps worker name reported result := by
  have stage := engaged.stage
  generalize stepsOf worker course = taken at stage ⊢
  generalize shift.stage worker = now at stage
  cases stage with
  | looking =>
      exact ⟨[], .error .crashed, List.nil_prefix⟩
  | @requeuing reported result again =>
      exact ⟨reported, result, _, rfl⟩
  | @done reported result settled =>
      exact ⟨reported, result, _, rfl⟩
  | @requeued reported result again =>
      exact ⟨reported, result, [.release worker name], by simp [steps, again]⟩

/-- A worker that may give the name back has made all steps but this one. -/
theorem steps_done (engaged : Engaged delay begun worker name course shift)
    (finishing : shift.stage worker = .finishing) :
    ∃ reported result,
      stepsOf worker (course ++ [.release worker name]) = steps worker name reported result := by
  have stage := engaged.stage
  rw [stepsOf_snoc, if_pos (show (Event.release worker name).worker? = some worker from rfl)]
  rw [finishing] at stage
  generalize stepsOf worker course = taken at stage ⊢
  cases stage with
  | @done reported result settled =>
      exact ⟨reported, result, by simp [steps, settled]⟩
  | @requeued reported result again =>
      exact ⟨reported, result, by simp [steps, again]⟩

end Engaged

/-- A history in which a worker is handed a name and does not give it back. -/
structure Underway (delay : Floating.Double) (earlier : List Event) (worker : Nat) (name : String)
    (course : List Event) : Prop where
  legal : (machine delay).Legal {} (earlier ++ .take worker :: course)
  handed : ((machine delay).after {} earlier).handedOut (.take worker) = some name
  unfinished : ∀ other, .release worker other ∉ course

namespace Underway

/-- The state in which a worker has just asked for a name. -/
def begun (delay : Floating.Double) (earlier : List Event) (worker : Nat) : Shift :=
  (machine delay).after {} (earlier ++ [.take worker])

variable (underway : Underway delay earlier worker name course)

include underway

theorem legal_begun :
    (machine delay).Legal {} (earlier ++ [.take worker]) ∧
      (machine delay).Legal (begun delay earlier worker) course := by
  have legal := underway.legal
  rw [← List.singleton_append, ← List.append_assoc, Machine.legal_append] at legal
  exact legal

theorem of_append {before behind : List Event} (parts : course = before ++ behind) :
    Underway delay earlier worker name before := by
  have legal := underway.legal
  rw [parts, ← List.cons_append, ← List.append_assoc, Machine.legal_append] at legal
  refine ⟨legal.1, underway.handed, fun other member => underway.unfinished other ?_⟩
  rw [parts]
  exact List.mem_append_left behind member

theorem engaged_begun :
    Engaged delay (begun delay earlier worker) worker name [] (begun delay earlier worker) := by
  have legal := underway.legal_begun.1
  have handed := underway.handed
  have state : begun delay earlier worker =
      ((machine delay).after {} earlier).next delay (.take worker) := Machine.after_snoc _ _ _
  have allowed : ((machine delay).after {} earlier).allows (.take worker) :=
    ((Machine.legal_append _ _ _).mp legal).2.1
  have taken : ∃ rest, ((machine delay).after {} earlier).dispatcher.take = (some name, rest) :=
    ⟨_, Prod.ext handed rfl⟩
  have clean : name ∉ (begun delay earlier worker).dispatcher.work.dirty := by
    rw [state, mem_dirty_next_iff allowed]
    rintro (⟨_, notNow⟩ | ⟨⟨done, isDone, adds⟩, _⟩)
    · exact notNow handed
    · obtain rfl := Option.some.inj isDone
      exact adds
  obtain ⟨rest, taken⟩ := taken
  exact {
    reached := rfl
    sound := sound_after legal
    workers_nodup := workers_nodup_after legal
    inHand := by simp [state, next, take, taken, atStage]
    stage := by
      have looking : (begun delay earlier worker).stage worker = .looking := by
        simp [state, next, take, taken, atStage]
      rw [looking]
      exact .looking
    dirty_iff := fun _ => iff_of_false clean Machine.not_since_nil }

theorem engaged :
    Engaged delay (begun delay earlier worker) worker name course
      ((machine delay).after (begun delay earlier worker) course) := by
  let Holds (history : List Event) (shift : Shift) : Prop :=
    (∀ other, .release worker other ∉ history) →
      Engaged delay (begun delay earlier worker) worker name history shift
  have run : Holds ([] ++ course) ((machine delay).after (begun delay earlier worker) course) := by
    refine Machine.holds_after_history Holds ?_ (fun _ => underway.engaged_begun)
      underway.legal_begun.2
    intro history shift event holds allowed unfinished
    have before := holds fun other member => unfinished other (List.mem_append_left _ member)
    refine before.next allowed ?_
    rintro other rfl
    exact unfinished other (List.mem_append_right _ (List.mem_singleton_self _))
  exact run underway.unfinished

/-- Nobody else gives the name back. -/
theorem alone (other : Nat) : .release other name ∉ course := by
  intro member
  obtain ⟨before, behind, parts⟩ := List.append_of_mem member
  have engaged := (underway.of_append parts).engaged
  have legal := underway.legal_begun.2
  rw [parts, Machine.legal_append] at legal
  have same := engaged.worker_eq legal.2.1.1
  exact underway.unfinished name (same ▸ member)

end Underway

/-! ## The end of a turn -/

/-- What a queue comes to when a name has to be looked at again. -/
def AddsAgain (delay : Floating.Double) (name : String) (work later : WorkQueue) : Prop :=
  (work.shuttingDown = true → later = work) ∧
    (work.shuttingDown = false → delay ≤ 0 → later = work.add name) ∧
    (work.shuttingDown = false → ¬delay ≤ 0 →
      ∃ timer, timer.name = name ∧ timer.due = work.now + delay ∧ timer ∉ work.timers ∧
        later.timers = work.timers ++ [timer])

theorem addsAgain_addAfter {work : WorkQueue} (numbered : work.Numbered) (name : String)
    (delay : Floating.Double) : AddsAgain delay name work (work.addAfter name delay) := by
  rcases work.addAfter_cases name delay with ⟨atOnce, same⟩ | ⟨later, closed, same⟩ |
    ⟨later, openQueue, same⟩
  · rw [same]
    refine ⟨fun closed => ?_, fun _ _ => rfl, fun _ later => absurd atOnce later⟩
    simp [WorkQueue.add, closed]
  · refine ⟨fun _ => same, fun openQueue => ?_, fun openQueue => ?_⟩ <;>
      exact absurd (openQueue.symm.trans closed) (by decide)
  · refine ⟨fun closed => absurd (openQueue.symm.trans closed) (by decide),
      fun _ atOnce => absurd atOnce later, fun _ _ => ?_⟩
    refine ⟨⟨work.nextSerial, work.now + delay, name⟩, rfl, rfl, fun member => ?_, ?_⟩
    · exact Nat.lt_irrefl _ (numbered.serial_lt _ member)
    · rw [same]
      rfl

/-- The state in which a worker has just given a name back. -/
def givenBack (delay : Floating.Double) (begun : Shift) (worker : Nat) (name : String)
    (course : List Event) : Shift :=
  (machine delay).after begun (course ++ [.release worker name])

theorem work_givenBack (delay : Floating.Double) (begun : Shift) (worker : Nat) (name : String)
    (course : List Event) :
    (givenBack delay begun worker name course).dispatcher.work =
      ((machine delay).after begun course).dispatcher.work.done name := by
  rw [givenBack, Machine.after_snoc]
  rfl

/-- What comes of a turn in the course of which a look ended with a result, once the name is given
back. -/
structure Settled (delay : Floating.Double) (begun : Shift) (worker : Nat) (name : String)
    (course : List Event) (result : Except Failure Report) : Prop where
  /-- The worker looked at the name once, and gave it back once. -/
  steps : ∃ reported, stepsOf worker (course ++ [.release worker name]) =
    steps worker name reported result
  alone : ∀ other, .release other name ∉ course
  free : name ∉ (givenBack delay begun worker name course).dispatcher.work.processing
  /-- The outcome is counted once, beside what others counted. -/
  outcomes : ∀ outcome,
    (givenBack delay begun worker name course).dispatcher.counters.outcomes.count outcome =
      begun.dispatcher.counters.outcomes.count outcome +
        ((stepsOfOthers worker course).flatMap Event.outcomes).count outcome +
        if outcome = Dispatcher.counted result then 1 else 0
  failedChecks : ∀ check,
    (givenBack delay begun worker name course).dispatcher.counters.failedChecks.count check =
      begun.dispatcher.counters.failedChecks.count check +
        ((stepsOfOthers worker course).flatMap Event.failedChecks).count check +
        (Dispatcher.countedChecks result).countP fun failed => failed.name = check
  requeued : .requeue worker name ∈ course ↔
    ∀ report, result = .ok report → report.outcome = .aborted
  requeues : ∀ before behind, course = before ++ .requeue worker name :: behind →
    AddsAgain delay name ((machine delay).after begun before).dispatcher.work
      ((machine delay).after begun (before ++ [.requeue worker name])).dispatcher.work
  waits : (givenBack delay begun worker name course).dispatcher.work.shuttingDown = false →
    (givenBack delay begun worker name course).dispatcher.work.queue.count name ≤ 1 ∧
      (name ∈ (givenBack delay begun worker name course).dispatcher.work.queue ↔
        Added delay begun course name)

namespace Underway

variable (underway : Underway delay earlier worker name course)

include underway

theorem settled {reported : List String} {result : Except Failure Report}
    (made : stepsOf worker (course ++ [.release worker name]) =
      Shift.steps worker name reported result) :
    Settled delay (begun delay earlier worker) worker name course result := by
  have engaged := underway.engaged
  have consistent := engaged.sound.desk.consistent
  have work := work_givenBack delay (begun delay earlier worker) worker name course
  have others : stepsOfOthers worker (course ++ [.release worker name]) =
      stepsOfOthers worker course := by
    simp [stepsOfOthers, Event.worker?]
  have counters :
      (givenBack delay (begun delay earlier worker) worker name course).dispatcher.counters = _ :=
    counters_after _ _
  have again : .requeue worker name ∈ course ↔ Dispatcher.again result = true := by
    have own : .requeue worker name ∈ course ↔
        .requeue worker name ∈ stepsOf worker (course ++ [.release worker name]) := by
      simp [stepsOf, Event.worker?]
    rw [own, made]
    cases again : Dispatcher.again result <;> simp [Shift.steps, again]
  exact {
    steps := ⟨reported, made⟩
    alone := underway.alone
    free := by
      rw [work, WorkQueue.processing_done]
      simp
    outcomes := fun outcome => by
      rw [counters, List.count_append, count_flatMap _ worker, others, made, count_outcomes_steps,
        Nat.add_assoc]
    failedChecks := fun check => by
      rw [counters, List.count_append, count_flatMap _ worker, others, made,
        count_failedChecks_steps, Nat.add_assoc]
    requeued := again.trans Dispatcher.again_iff
    requeues := fun before behind parts => by
      rw [Machine.after_snoc]
      exact addsAgain_addAfter (underway.of_append parts).engaged.sound.numbered name delay
    waits := fun openQueue => by
      rw [work, WorkQueue.shuttingDown_done] at openQueue
      have free := consistent.done engaged.processing
      rw [work]
      refine ⟨List.nodup_iff_count_le_one.mp free.queue_nodup name, ?_⟩
      rw [← engaged.dirty_iff openQueue]
      exact WorkQueue.mem_queue_done_iff engaged.not_waiting openQueue }

end Underway

/-- However a look ends and whatever others do meanwhile, a worker that was handed a name can go on
alone to the end of its turn. It gives the name back once, counts one outcome with the checks that
failed, and asks for another look exactly if the look was given up or failed. Then the name waits,
and but once, exactly if it was added since it was handed out. Without steps of others a turn is
what a controller does to process a name. -/
theorem turn_settles (underway : Underway delay earlier worker name course) :
    let begun := Underway.begun delay earlier worker
    let shift := (machine delay).after begun course
    (∃ reported result, stepsOf worker course <+: steps worker name reported result) ∧
    (∀ reported result rest, stepsOf worker course ++ rest = steps worker name reported result →
      (machine delay).Legal shift rest) ∧
    (∀ other, shift.allows (.release worker other) →
      other = name ∧ ∃ result, Settled delay begun worker name course result) ∧
    ∀ (settings : Settings) (controller : Controller), settings.requeueDelay = delay →
      controller.dispatcher = ((machine delay).after {} earlier).dispatcher →
      let run := (settings.rules.run World.api World.resolver name controller.world).1
      (controller.processNext settings).1 = true ∧
        (controller.processNext settings).2.dispatcher =
          ((machine delay).after begun
            (steps worker name run.notices (result run))).dispatcher := by
  intro begun shift
  have engaged := underway.engaged
  refine ⟨engaged.steps_begin, fun _ _ _ => engaged.legal_rest, ?_, ?_⟩
  · intro other allowed
    obtain rfl := engaged.name_eq allowed.1
    obtain ⟨reported, result, made⟩ := engaged.steps_done allowed.2
    exact ⟨rfl, result, underway.settled made⟩
  · rintro settings controller rfl same run
    have idle := ((Machine.legal_append _ _ _).mp underway.legal).2.1
    obtain ⟨rest, taken⟩ : ∃ rest, controller.dispatcher.take = (some name, rest) := by
      rw [same]
      exact ⟨_, Prod.ext underway.handed rfl⟩
    obtain ⟨_, processed, _⟩ := after_turn same.symm idle taken
    refine ⟨by simp only [Controller.processNext, taken], ?_⟩
    rw [← processed, turn_eq, Machine.after_cons]
    simp only [begun, Underway.begun, Machine.after_snoc]
    rfl

/-- A name is added while a worker looks at it, and the look crashes. -/
theorem turn_settles_crashed :
    let earlier : List Event := [.enqueue "csr"]
    let course : List Event :=
      [.enqueue "csr", .conclude 0 "csr" [] (.error .crashed), .requeue 0 "csr"]
    let begun := Underway.begun 5 earlier 0
    Underway 5 earlier 0 "csr" course ∧
      (∃ result, Settled 5 begun 0 "csr" course result) ∧
      "csr" ∈ (givenBack 5 begun 0 "csr" course).dispatcher.work.queue := by
  intro earlier course begun
  have underway : Underway 5 earlier 0 "csr" course := {
    legal := by decide +kernel
    handed := by decide +kernel
    unfinished := by simp [course] }
  obtain ⟨_, _, ends, _⟩ := turn_settles underway
  have allowed : (machine 5).allows ((machine 5).after begun course) (.release 0 "csr") := by
    decide +kernel
  obtain ⟨_, result, settled⟩ := ends "csr" allowed
  have adds : AddsAt 5 "csr" begun (.enqueue "csr") := ⟨.add "csr", by decide +kernel, rfl⟩
  have added : Added 5 begun course "csr" :=
    ⟨[], .enqueue "csr", _, rfl, adds, fun _ _ _ _ => not_false⟩
  exact ⟨underway, ⟨result, settled⟩, (settled.waits (by decide +kernel)).2.mpr added⟩

end Shift

end CertApproval.Control
