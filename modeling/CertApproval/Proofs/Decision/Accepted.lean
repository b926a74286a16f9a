import CertApproval.Proofs.Decision.Scene

/-!
Writes that are accepted. Main statements: they decide requests that were undecided, so that
no request is decided twice as long as others do not decide it again; and what they say is
what the review of the object says that they land on.
-/

namespace CertApproval

namespace Cluster.Object

/-- The number of decisions on a request. -/
def decisions (object : Object) : Nat := object.conditions.countP StoredCondition.decides

/-- Whether an object has the conditions of another one and perhaps more after them, but no
decision where there is one. -/
def Extends (later earlier : Object) : Prop :=
  earlier.conditions <+: later.conditions ∧
    (later.decisions = earlier.decisions ∨ earlier.decisions = 0 ∧ later.decisions = 1)

instance (later earlier : Object) : Decidable (later.Extends earlier) :=
  inferInstanceAs (Decidable (_ ∧ _))

end Cluster.Object

namespace Control.Scene

open CertApproval.Cluster (Object Payload Snapshot StoredCondition Store)
open CertApproval.Dns (replay)
open CertApproval.Review (Condition Verdict review)

/-! ## What others leave alone -/

/-- Whether others add conditions only, and no decision to a request that has one. A request
that is new has one decision at most. -/
def Additive (scene : Scene) : Event → Prop
  | .changed name object _ =>
      match scene.store.get? name with
      | some stored => object.Extends stored
      | none => object.decisions ≤ 1
  | .begin _ | .read _ _ _ | .accepted _ _ _ | .refused _ _ | .removed _ => True

instance (scene : Scene) : (event : Event) → Decidable (scene.Additive event)
  | .changed name object _ =>
      match found : scene.store.get? name with
      | some stored => decidable_of_iff (object.Extends stored) (by simp [Additive, found])
      | none => decidable_of_iff (object.decisions ≤ 1) (by simp [Additive, found])
  | .begin _ | .read _ _ _ | .accepted _ _ _ | .refused _ _ | .removed _ =>
      inferInstanceAs (Decidable True)

/-- Whether no stored request has two decisions. -/
def DecidedOnce (scene : Scene) : Prop :=
  ∀ name object, scene.store.get? name = some object → object.decisions ≤ 1

variable {rules : Rules} {scene : Scene}

theorem get?_accepted {index : Nat} {version : String} {reply : Except Cluster.Refusal Unit}
    {draft : Draft} (isDraft : scene.draft? index = some draft) (name : String) :
    (scene.next rules (.accepted index version reply)).store.get? name =
      if name = draft.target then some (draft.body.atVersion version)
      else scene.store.get? name := by
  simp only [next, isDraft, modify, install, Store.get?_put]

theorem undecided_of_judge {snapshot : Snapshot} {stored : Object} {answers : List Dns.Lookup}
    {verdict : Verdict} (shows : snapshot.Shows stored)
    (judged : (rules.judge replay snapshot answers).1 = .decide verdict) :
    ∀ condition ∈ stored.conditions, condition.decides = false := by
  obtain ⟨notLeft, _⟩ := Rules.judge_decide judged
  exact shows.undecided (Rules.leave?_eq_none.mp notLeft).2

theorem decisions_eq_zero {object : Object}
    (undecided : ∀ condition ∈ object.conditions, condition.decides = false) :
    object.decisions = 0 := by
  refine List.countP_eq_zero.mpr ?_
  intro condition member
  rw [undecided condition member]
  exact Bool.false_ne_true

theorem decisions_addCondition {object : Object} (undecided : object.decisions = 0)
    (verdict : Verdict) :
    (object.addCondition (.ofCondition verdict.condition)).decisions = 1 := by
  rw [Object.decisions] at undecided
  rw [Object.decisions, Object.conditions_addCondition, List.countP_append, undecided,
    List.countP_singleton, StoredCondition.decides_ofCondition]
  rfl

theorem DecidedOnce.install (once : scene.DecidedOnce) {name version : String} {object : Object}
    (few : object.decisions ≤ 1) : (scene.install name object version).DecidedOnce := by
  intro other found isFound
  simp only [Scene.install, Store.get?_put] at isFound
  by_cases here : other = name
  · rw [if_pos here] at isFound
    rw [← Option.some.inj isFound]
    exact few
  · rw [if_neg here] at isFound
    exact once other found isFound

theorem DecidedOnce.next (once : scene.DecidedOnce) (sound : scene.Sound rules) {event : Event}
    (allowed : scene.allows event) (additive : scene.Additive event) :
    (scene.next rules event).DecidedOnce := by
  cases event with
  | begin name | read index answer answers | refused index refusal =>
      exact once
  | accepted index version reply =>
      obtain ⟨draft, isDraft, current, fresh⟩ := allowed
      obtain ⟨call, stored, snapshot, _, _, _, _, shows, judged, body⟩ :=
        sound.lands isDraft current
      have undecided := decisions_eq_zero (undecided_of_judge shows judged)
      have one : draft.body.decisions = 1 := by
        rw [body]
        exact decisions_addCondition undecided draft.verdict
      simp only [Scene.next, Option.mem_def.mp isDraft]
      exact once.install (Nat.le_of_eq one)
  | changed name object version =>
      have few : object.decisions ≤ 1 := by
        cases found : scene.store.get? name with
        | none =>
            simpa [Additive, found] using additive
        | some stored =>
            have grown : object.Extends stored := by simpa [Additive, found] using additive
            rcases grown.2 with same | ⟨_, first⟩
            · exact same ▸ once name stored found
            · exact Nat.le_of_eq first
      exact once.install few
  | removed name =>
      intro other object found
      exact once other object (Store.get?_of_get?_erase found)

/-! ## A request of a node -/

def nodeRequest : Bytes :=
  [0x30, 0x81, 0xf0, 0x30, 0x81, 0xa3, 0x02, 0x01, 0x00, 0x30, 0x36, 0x31, 0x15, 0x30, 0x13, 0x06,
   0x03, 0x55, 0x04, 0x0a, 0x13, 0x0c, 0x73, 0x79, 0x73, 0x74, 0x65, 0x6d, 0x3a, 0x6e, 0x6f, 0x64,
   0x65, 0x73, 0x31, 0x1d, 0x30, 0x1b, 0x06, 0x03, 0x55, 0x04, 0x03, 0x0c, 0x14, 0x73, 0x79, 0x73,
   0x74, 0x65, 0x6d, 0x3a, 0x6e, 0x6f, 0x64, 0x65, 0x3a, 0x77, 0x6f, 0x72, 0x6b, 0x65, 0x72, 0x2d,
   0x31, 0x30, 0x2a, 0x30, 0x05, 0x06, 0x03, 0x2b, 0x65, 0x70, 0x03, 0x21, 0x00, 0x03, 0xa1, 0x07,
   0xbf, 0xf3, 0xce, 0x10, 0xbe, 0x1d, 0x70, 0xdd, 0x18, 0xe7, 0x4b, 0xc0, 0x99, 0x67, 0xe4, 0xd6,
   0x30, 0x9b, 0xa5, 0x0d, 0x5f, 0x1d, 0xdc, 0x86, 0x64, 0x12, 0x55, 0x31, 0xb8, 0xa0, 0x3a, 0x30,
   0x38, 0x06, 0x09, 0x2a, 0x86, 0x48, 0x86, 0xf7, 0x0d, 0x01, 0x09, 0x0e, 0x31, 0x2b, 0x30, 0x29,
   0x30, 0x27, 0x06, 0x03, 0x55, 0x1d, 0x11, 0x04, 0x20, 0x30, 0x1e, 0x82, 0x16, 0x77, 0x6f, 0x72,
   0x6b, 0x65, 0x72, 0x2d, 0x31, 0x2e, 0x63, 0x6c, 0x75, 0x73, 0x74, 0x65, 0x72, 0x2e, 0x6c, 0x6f,
   0x63, 0x61, 0x6c, 0x87, 0x04, 0x0a, 0x00, 0x01, 0x05, 0x30, 0x05, 0x06, 0x03, 0x2b, 0x65, 0x70,
   0x03, 0x41, 0x00, 0x57, 0x9e, 0xd6, 0x06, 0x53, 0xdb, 0x61, 0xb9, 0x50, 0x17, 0x12, 0x7d, 0x4e,
   0x83, 0x82, 0xb4, 0x09, 0x52, 0x3f, 0xc4, 0x94, 0xbc, 0xcb, 0x4c, 0x8e, 0xf5, 0x71, 0x1b, 0xf9,
   0x21, 0xf0, 0xcd, 0xb4, 0x5b, 0x33, 0x90, 0x8e, 0x77, 0xb6, 0x6e, 0x85, 0x89, 0xd6, 0x36, 0x0b,
   0xb0, 0x3c, 0x50, 0xff, 0x6a, 0x1d, 0x67, 0x8e, 0x97, 0x43, 0x36, 0x16, 0xaa, 0xf2, 0x53, 0x91,
   0x90, 0xd9, 0x0b]

def nodeAddress : Net.Address := .v4 0x0a000105

def nodeRules : Rules where
  signerName := "kubernetes.io/kubelet-serving"
  policy :=
    { pattern := ⟨".*", {}, .times .greedy 0 none .point⟩
      networks := [⟨nodeAddress, 8, by decide⟩]
      maximumExpiration := 86400
      allowedNames := 1
      bypassResolution := false
      bypassHostname := false
      bypassIdentity := false }

/-- The request of a node for one name and one address. -/
def nodeObject : Object where
  name := some "csr"
  version := some "1"
  username := some "system:node:worker-1"
  signerName := some "kubernetes.io/kubelet-serving"
  payload := some (.bytes nodeRequest)
  expirationSeconds := some 3600

def nodeScene : Scene := ⟨⟨[("csr", nodeObject)]⟩, [("csr", nodeObject)], []⟩

/-- The request is read, and its name is looked up. -/
def nodeRead : List Event :=
  [.begin "csr", .read 0 (.ok nodeObject) [.found [nodeAddress]]]

/-- The decision is written, though the answer is lost, and the request goes and comes back. -/
def nodeWrite : List Event :=
  [.accepted 0 "2" (.error (.disconnected "reset")), .removed "csr", .changed "csr" nodeObject "3"]

theorem get?_nodeScene {name : String} {object : Object} :
    nodeScene.store.get? name = some object ↔ name = "csr" ∧ object = nodeObject := by
  by_cases isName : name = "csr"
  · simp [nodeScene, Store.get?, isName, eq_comm]
  · simp [nodeScene, Store.get?, isName, List.lookup_cons, beq_eq_false_iff_ne.mpr isName]

theorem initial_nodeScene : nodeScene.Initial where
  past_iff name object := by
    rw [get?_nodeScene, ← Prod.mk.injEq]
    exact List.mem_singleton
  named name object found := by
    obtain ⟨rfl, rfl⟩ := get?_nodeScene.mp found
    rfl
  idle := rfl

theorem decidedOnce_nodeScene : nodeScene.DecidedOnce := by
  intro name object found
  obtain ⟨rfl, rfl⟩ := get?_nodeScene.mp found
  decide

theorem legal_node :
    ((machine nodeRules).restrict Additive).Legal nodeScene (nodeRead ++ nodeWrite) := by
  decide +kernel

theorem legal_nodeWrite :
    (machine nodeRules).Legal nodeScene
      (nodeRead ++ [.accepted 0 "2" (.error (.disconnected "reset"))]) := by
  have legal := Machine.legal_of_restrict legal_node
  rw [nodeWrite, List.append_cons, Machine.legal_append] at legal
  exact legal.1

/-! ## At most one decision -/

/-- Whatever order things happen in, a write is accepted only on a request without a decision,
and gives it one. So no request has two decisions, if none has at the start and others add
conditions only, and no decision to a request that has one. -/
theorem decisions_le_one (rules : Rules) {start : Scene} (initial : start.Initial) :
    (∀ history index version reply,
      (machine rules).Legal start (history ++ [.accepted index version reply]) →
        ∃ draft stored decided,
          ((machine rules).after start history).draft? index = some draft ∧
            ((machine rules).after start history).store.get? draft.target = some stored ∧
            (∀ condition ∈ stored.conditions, condition.decides = false) ∧
            ((machine rules).after start
              (history ++ [.accepted index version reply])).store.get? draft.target =
                some decided ∧
            decided.decisions = 1) ∧
    (start.DecidedOnce →
      ∀ history, ((machine rules).restrict Additive).Legal start history →
        ((machine rules).after start history).DecidedOnce) := by
  constructor
  · intro history index version reply legal
    obtain ⟨legalBefore, ⟨draft, isDraft, current, _⟩, _⟩ :=
      (Machine.legal_append start history _).mp legal
    obtain ⟨call, stored, snapshot, _, _, target, isStored, shows, judged, body⟩ :=
      (sound_after initial legalBefore).lands isDraft current
    have undecided := undecided_of_judge shows judged
    have changed :
        ((machine rules).after start
          (history ++ [.accepted index version reply])).store.get? draft.target =
            some (draft.body.atVersion version) := by
      rw [Machine.after_snoc]
      exact (get?_accepted isDraft draft.target).trans (if_pos rfl)
    have once : (draft.body.atVersion version).decisions = 1 := by
      rw [body]
      exact decisions_addCondition (decisions_eq_zero undecided) draft.verdict
    exact ⟨draft, stored, draft.body.atVersion version, isDraft, target ▸ isStored, undecided,
      changed, once⟩
  · intro once history legal
    have kept := Machine.holds_after (fun scene => scene.Sound rules ∧ scene.DecidedOnce)
      (fun scene event holds allowed =>
        ⟨holds.1.next allowed.1, holds.2.next holds.1 allowed.1 allowed.2⟩)
      ⟨initial.sound, once⟩ legal
    exact kept.2

theorem decisions_le_one_node :
    (∃ draft stored decided,
      ((machine nodeRules).after nodeScene nodeRead).draft? 0 = some draft ∧
        ((machine nodeRules).after nodeScene nodeRead).store.get? draft.target = some stored ∧
        (∀ condition ∈ stored.conditions, condition.decides = false) ∧
        ((machine nodeRules).after nodeScene
          (nodeRead ++ [.accepted 0 "2" (.error (.disconnected "reset"))])).store.get?
            draft.target = some decided ∧
        decided.decisions = 1) ∧
      ((machine nodeRules).after nodeScene (nodeRead ++ nodeWrite)).DecidedOnce := by
  have both := decisions_le_one nodeRules initial_nodeScene
  exact ⟨both.1 nodeRead 0 "2" _ legal_nodeWrite,
    both.2 decidedOnce_nodeScene (nodeRead ++ nodeWrite) legal_node⟩

/-! ## Decisions are those of the objects that they land on -/

/-- Whatever order things happen in, a write that is accepted adds to the stored object the
condition of the review of that object, from the answers to the lookups of the attempt. It
approves if all checks passed, and denies if one failed. -/
theorem accepted_reviews_stored (rules : Rules) {start : Scene} (initial : start.Initial)
    {history : List Event} {index : Nat} {version : String}
    {reply : Except Cluster.Refusal Unit}
    (legal : (machine rules).Legal start (history ++ [.accepted index version reply])) :
    let scene := (machine rules).after start history
    let later := (machine rules).after start (history ++ [.accepted index version reply])
    ∃ (call : Call) (stored : Object) (verdict : Verdict),
      scene.calls[index]? = some call ∧ scene.store.get? call.name = some stored ∧
        rules.Reviews stored call.answers verdict ∧
        later.store.get? call.name =
          some ((stored.addCondition (.ofCondition verdict.condition)).atVersion version) ∧
        (verdict.condition.type = Condition.approvedType ↔
          ∀ check ∈ verdict.checks, check.passed = true) ∧
        (verdict.condition.type = Condition.deniedType ↔
          ∃ check ∈ verdict.checks, check.passed = false) := by
  intro scene later
  obtain ⟨legalBefore, ⟨draft, isDraft, current, _⟩, _⟩ :=
    (Machine.legal_append start history _).mp legal
  obtain ⟨call, stored, snapshot, found, _, target, isStored, shows, judged, body⟩ :=
    (sound_after initial legalBefore).lands isDraft current
  have changed : later.store.get? call.name = some (draft.body.atVersion version) := by
    simp only [later]
    rw [Machine.after_snoc, ← target]
    exact (get?_accepted isDraft draft.target).trans (if_pos rfl)
  rw [body] at changed
  exact ⟨call, stored, draft.verdict, found, isStored, Rules.reviews_of_judge shows judged, changed,
    Review.type_eq_approved draft.verdict, Review.type_eq_denied draft.verdict⟩

/-- The decision on the request of the node. -/
theorem accepted_reviews_stored_node :
    let later := (machine nodeRules).after nodeScene
      (nodeRead ++ [.accepted 0 "2" (.error (.disconnected "reset"))])
    ∃ (call : Call) (stored : Object) (verdict : Verdict),
      ((machine nodeRules).after nodeScene nodeRead).store.get? call.name = some stored ∧
        nodeRules.Reviews stored call.answers verdict ∧
        later.store.get? call.name =
          some ((stored.addCondition (.ofCondition verdict.condition)).atVersion "2") := by
  obtain ⟨call, stored, verdict, _, isStored, reviews, changed, _⟩ :=
    accepted_reviews_stored nodeRules initial_nodeScene legal_nodeWrite
  exact ⟨call, stored, verdict, isStored, reviews, changed⟩

end Control.Scene

end CertApproval
