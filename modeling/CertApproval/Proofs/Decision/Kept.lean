import CertApproval.Cluster.Server
import CertApproval.Proofs.Decision.Accepted
import CertApproval.Proofs.Decision.Body

/-!
What becomes of conditions. Main statement: a write that is accepted adds one condition after
those that are stored and changes nothing else, so that whatever is stored stays as long as
others leave it alone.
-/

namespace CertApproval.Control.Scene

open CertApproval.Cluster (Api Memory Object Refusal Snapshot Store StoredCondition Whole)
open CertApproval.Review (Condition Verdict)

variable {rules : Rules} {scene : Scene} {name : String} {stored : Object}

/-- A request with a decision after its conditions, at another version. -/
def decided (stored : Object) (condition : Condition) (version : String) : Object :=
  { stored with
    version := some version
    status := some ⟨some (stored.conditions ++
      [⟨some condition.type, some condition.status, some condition.reason,
        some condition.message⟩])⟩ }

theorem conditions_decided (stored : Object) (condition : Condition) (version : String) :
    (decided stored condition version).conditions =
      stored.conditions ++
        [⟨some condition.type, some condition.status, some condition.reason,
          some condition.message⟩] := rfl

namespace Sound

/-- What a write that is accepted does. -/
theorem accepted (sound : scene.Sound rules) {index : Nat} {version : String}
    {reply : Except Refusal Unit} (allowed : scene.allows (.accepted index version reply)) :
    ∃ (call : Call) (draft : Draft) (stored : Object),
      scene.calls[index]? = some call ∧ call.draft? = some draft ∧
        scene.store.get? call.name = some stored ∧
        rules.Reviews stored call.answers draft.verdict ∧
        ∀ other,
          (scene.next rules (.accepted index version reply)).store.get? other =
            if other = call.name then some (decided stored draft.verdict.condition version)
            else scene.store.get? other := by
  obtain ⟨draft, isDraft, current, _⟩ := allowed
  obtain ⟨call, stored, snapshot, found, callDraft, target, isStored, shows, judged, body⟩ :=
    sound.lands isDraft current
  refine ⟨call, draft, stored, found, callDraft, isStored, Rules.reviews_of_judge shows judged, ?_⟩
  intro other
  rw [get?_accepted isDraft, target, body]
  rfl

end Sound

/-! ## What others leave alone -/

/-- Whether others leave the request of a name where it is, with the conditions that it has and
perhaps more after them. -/
def Appends (name : String) (scene : Scene) : Event → Prop
  | .changed other object _ =>
      other = name → ∀ stored, scene.store.get? name = some stored →
        stored.conditions <+: object.conditions
  | .removed other => other ≠ name
  | .begin _ | .read _ _ _ | .accepted _ _ _ | .refused _ _ => True

/-- Whether a request is there that has certain conditions, and perhaps more after them. -/
def Holds (scene : Scene) (name : String) (conditions : List StoredCondition) : Prop :=
  ∃ stored, scene.store.get? name = some stored ∧ conditions <+: stored.conditions

theorem Holds.next {conditions : List StoredCondition} (holds : scene.Holds name conditions)
    (sound : scene.Sound rules) {event : Event} (allowed : scene.allows event)
    (appends : Appends name scene event) :
    (scene.next rules event).Holds name conditions := by
  obtain ⟨stored, isStored, kept⟩ := holds
  cases event with
  | begin other | read index answer answers | refused index refusal =>
      exact ⟨stored, isStored, kept⟩
  | accepted index version reply =>
      obtain ⟨call, draft, found, _, _, isFound, _, later⟩ := sound.accepted allowed
      by_cases here : name = call.name
      · obtain rfl : stored = found := by
          rw [here] at isStored
          exact Option.some.inj (isStored.symm.trans isFound)
        refine ⟨decided stored draft.verdict.condition version,
          (later name).trans (if_pos here), ?_⟩
        rw [conditions_decided]
        exact kept.trans (List.prefix_append _ _)
      · exact ⟨stored, (later name).trans ((if_neg here).trans isStored), kept⟩
  | changed other object version =>
      by_cases here : name = other
      · refine ⟨{ object with name := some other }.atVersion version, ?_, ?_⟩
        · simp [Scene.next, Scene.install, here]
        · exact kept.trans (appends here.symm stored isStored)
      · refine ⟨stored, ?_, kept⟩
        simpa [Scene.next, Scene.install, here] using isStored
  | removed other =>
      refine ⟨stored, ?_, kept⟩
      simpa [Scene.next, appends.symm] using isStored

theorem Holds.after {conditions : List StoredCondition} (holds : scene.Holds name conditions)
    (sound : scene.Sound rules) {history : List Event}
    (legal : ((machine rules).restrict (Appends name)).Legal scene history) :
    ((machine rules).after scene history).Holds name conditions := by
  have kept := Machine.holds_after
    (fun scene => scene.Sound rules ∧ scene.Holds name conditions)
    (fun scene event holds allowed =>
      ⟨holds.1.next allowed.1, holds.2.next holds.1 allowed.1 allowed.2⟩)
    ⟨sound, holds⟩ legal
  exact kept.2

theorem past_accepted {history : List Event} {index : Nat} {version : String}
    {reply : Except Refusal Unit} {draft : Draft}
    (isDraft : ((machine rules).after scene history).draft? index = some draft) :
    ((machine rules).after scene (history ++ [.accepted index version reply])).past =
      (draft.target, draft.body.atVersion version) ::
        ((machine rules).after scene history).past := by
  rw [Machine.after_snoc]
  simp only [machine] at isDraft ⊢
  simp only [next, isDraft, modify, install]

theorem unchanged_begin_read (scene : Scene) (answer : Except Refusal Object)
    (answers : List Dns.Lookup) :
    let later := (machine rules).after scene [.begin name, .read 0 answer answers]
    later.store = scene.store ∧ later.past = scene.past := by
  exact ⟨rfl, rfl⟩

/-! ## No condition is lost -/

/-- Whatever order things happen in, a write that is accepted lands on a stored request and adds
the condition of its decision after the conditions that it has, and nothing else changes but the
version. A write that is refused changes nothing that is stored. So conditions that are stored at
any time stay first in their order, as long as others leave them there. Whatever the answer to a
write is, the object that it was made from is held as before. -/
theorem accepted_adds_condition (rules : Rules) {start : Scene} (initial : start.Initial) :
    (∀ history index version reply,
      (machine rules).Legal start (history ++ [.accepted index version reply]) →
        ∃ (call : Call) (draft : Draft) (stored : Object),
          ((machine rules).after start history).calls[index]? = some call ∧
            call.draft? = some draft ∧
            ((machine rules).after start history).store.get? call.name = some stored ∧
            rules.Reviews stored call.answers draft.verdict ∧
            ∀ other,
              ((machine rules).after start
                (history ++ [.accepted index version reply])).store.get? other =
                  if other = call.name then some (decided stored draft.verdict.condition version)
                  else ((machine rules).after start history).store.get? other) ∧
    (∀ history index refusal,
      (machine rules).Legal start (history ++ [.refused index refusal]) →
        ((machine rules).after start (history ++ [.refused index refusal])).store =
          ((machine rules).after start history).store) ∧
    (∀ earlier later name stored,
      (machine rules).Legal start earlier →
        ((machine rules).after start earlier).store.get? name = some stored →
        ((machine rules).restrict (Appends name)).Legal
          ((machine rules).after start earlier) later →
        ((machine rules).after start (earlier ++ later)).Holds name stored.conditions) ∧
    (∀ (ρ σ : Type) (api : Api σ) (memory : Memory ρ) (held : Nat) (whole : Whole ρ)
      (snapshot : Snapshot),
      memory.whole? held = some whole → snapshot.source = some whole.object →
        ∀ (blank rest : ρ) (condition : Condition),
          ∃ (place : Nat) (later : Memory ρ),
            memory.body blank (.ofCondition condition, rest) held = some (place, later) ∧
              later.whole? place =
                some (whole.addCondition blank (.ofCondition condition, rest)) ∧
              memory <+: later ∧ later.whole? held = some whole ∧
              ∀ state,
                api.decideHeld blank rest snapshot.name held condition memory state =
                  ((some (api.decide snapshot condition state).1, later),
                    (api.decide snapshot condition state).2)) := by
  refine ⟨?_, ?_, ?_, ?_⟩
  · intro history index version reply legal
    obtain ⟨legalBefore, allowed, _⟩ := (Machine.legal_append start history _).mp legal
    rw [Machine.after_snoc]
    exact (sound_after initial legalBefore).accepted allowed
  · intro history index refusal _
    rw [Machine.after_snoc]
    rfl
  · intro earlier later name stored legal isStored appends
    rw [Machine.after_append]
    exact Holds.after ⟨stored, isStored, List.prefix_rfl⟩ (sound_after initial legal) appends
  · intro ρ σ api memory held whole snapshot isHeld source blank rest condition
    exact api.decideHeld_eq isHeld source blank rest condition

/-- The request of the node, as it may be held. -/
def nodeMemory : Memory Unit := [.status () none, .object nodeObject () (some 0)]

/-- The decision is written, though the answer is lost. -/
def nodeDecision : List Event := [.accepted 0 "2" (.error (.disconnected "reset"))]

def seen : StoredCondition where
  type := some "Seen"

/-- The request of the node is decided, and the decision stays when others add a condition. The
object that a decision is made from is held as before. -/
theorem accepted_adds_condition_node :
    (∃ condition,
      ((machine nodeRules).after nodeScene (nodeRead ++ nodeDecision)).store.get? "csr" =
          some (decided nodeObject condition "2") ∧
        ((machine nodeRules).after nodeScene ((nodeRead ++ nodeDecision) ++
          [.changed "csr" ((decided nodeObject condition "2").addCondition seen) "3"])).Holds "csr"
            (decided nodeObject condition "2").conditions) ∧
      ((machine nodeRules).after nodeScene (nodeRead ++ [.refused 0 Store.outdated])).store =
        nodeScene.store ∧
      ∀ condition, ∃ (place : Nat) (held : Memory Unit),
        nodeMemory.body () (.ofCondition condition, ()) 1 = some (place, held) ∧
          nodeMemory <+: held := by
  obtain ⟨adds, fails, stays, held⟩ := accepted_adds_condition nodeRules initial_nodeScene
  obtain ⟨legalBefore, allowed, _⟩ := (Machine.legal_append nodeScene nodeRead _).mp legal_nodeWrite
  obtain ⟨sameStore, samePast⟩ :
      ((machine nodeRules).after nodeScene nodeRead).store = nodeScene.store ∧
        ((machine nodeRules).after nodeScene nodeRead).past = nodeScene.past :=
    unchanged_begin_read nodeScene _ _
  obtain ⟨written, isWritten, _⟩ := allowed
  refine ⟨?_, ?_, ?_⟩
  · obtain ⟨call, draft, stored, _, _, isStored, _, changed⟩ :=
      adds nodeRead 0 "2" (.error (.disconnected "reset")) legal_nodeWrite
    rw [sameStore] at isStored
    obtain ⟨isName, rfl⟩ := get?_nodeScene.mp isStored
    have isLater :
        ((machine nodeRules).after nodeScene (nodeRead ++ nodeDecision)).store.get? "csr" =
          some (decided nodeObject draft.verdict.condition "2") :=
      (changed "csr").trans (if_pos isName.symm)
    refine ⟨draft.verdict.condition, isLater, ?_⟩
    refine stays _ _ "csr" _ legal_nodeWrite isLater ⟨⟨?_, ?_⟩, trivial⟩
    · intro entry member _
      rw [nodeDecision, past_accepted isWritten, samePast] at member
      rcases List.mem_cons.mp member with rfl | earlier
      · simp [Object.atVersion]
      · rw [List.mem_singleton.mp earlier]
        decide
    · intro _ found isFound
      obtain rfl := Option.some.inj (isLater.symm.trans isFound)
      exact List.prefix_append _ _
  · rw [← sameStore]
    refine fails nodeRead 0 Store.outdated ?_
    refine (Machine.legal_append nodeScene nodeRead _).mpr ⟨legalBefore, ?_, trivial⟩
    exact Option.isSome_iff_exists.mpr ⟨written, isWritten⟩
  · intro condition
    obtain ⟨snapshot, shows⟩ : ∃ snapshot, Snapshot.ofObject
        (Whole.object ⟨nodeObject, (), some ((), none)⟩) = .ok snapshot := ⟨_, rfl⟩
    obtain ⟨place, later, isBody, _, kept, _⟩ := held Unit Cluster.Server Cluster.Server.api
      nodeMemory 1 ⟨nodeObject, (), some ((), none)⟩ snapshot rfl
      (Snapshot.shows_of_ofObject shows).source () () condition
    exact ⟨place, later, isBody, kept⟩

end CertApproval.Control.Scene
