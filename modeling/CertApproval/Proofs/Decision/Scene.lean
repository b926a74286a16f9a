import CertApproval.Cluster.Store
import CertApproval.Proofs.Decision.Call
import CertApproval.Proofs.Machine

/-!
Looks at requests and the objects that they are about. Any number of looks goes on at a time,
and between any two of their exchanges with the cluster objects may change, go and come back.
A write is accepted only at the version that is stored, and no version of a name comes twice.
Main statement: a write that is accepted lands on the very object that was read for it.
-/

namespace CertApproval.Control

open CertApproval.Cluster (Api Object Refusal Snapshot Store)
open CertApproval.Dns (Lookup Resolver replay)

/-- A look at a request, with the answers to the lookups of its attempt. -/
structure Call where
  name : String
  progress : Progress
  answers : List Lookup := []

namespace Call

def start (rules : Rules) (name : String) : Call where
  name
  progress := .reading 1 (rules.backoff.maxAttempts - 1)

/-- Whether a look waits for the answer to a read. -/
def reads (call : Call) : Bool :=
  match call.progress with
  | .reading _ _ => true
  | .writing _ _ _ | .ended _ => false

/-- The write that a look waits for the answer to, if it does. -/
def draft? (call : Call) : Option Draft :=
  match call.progress with
  | .writing _ _ draft => some draft
  | .reading _ _ | .ended _ => none

/-- A look after the answer to a read. -/
def told (rules : Rules) (answer : Except Refusal Object) (answers : List Lookup) (call : Call) :
    Call :=
  match call.progress with
  | .reading number left =>
      { call with
        progress := (rules.afterRead replay call.name number left answer answers).1
        answers }
  | .writing _ _ _ | .ended _ => call

/-- A look after the answer to a write. -/
def replied (rules : Rules) (reply : Except Refusal Unit) (call : Call) : Call :=
  match call.progress with
  | .writing number left draft =>
      { call with progress := rules.afterWrite call.name number left draft reply }
  | .reading _ _ | .ended _ => call

end Call

/-- The objects that are stored, all that were ever stored with their names, and the looks
at requests. -/
structure Scene where
  store : Store
  past : List (String × Object)
  calls : List Call := []

namespace Scene

/-- What may happen. A read may be answered with any object of the past, and an accepted
write with anything, as its answer may be lost. -/
inductive Event where
  | begin (name : String)
  | read (index : Nat) (answer : Except Refusal Object) (answers : List Lookup)
  | accepted (index : Nat) (version : String) (reply : Except Refusal Unit)
  | refused (index : Nat) (refusal : Refusal)
  /-- Someone else stores an object, whether there was one or not. -/
  | changed (name : String) (object : Object) (version : String)
  | removed (name : String)

def draft? (scene : Scene) (index : Nat) : Option Draft := scene.calls[index]?.bind Call.draft?

def install (scene : Scene) (name : String) (object : Object) (version : String) : Scene :=
  { scene with
    store := scene.store.put name (object.atVersion version)
    past := (name, object.atVersion version) :: scene.past }

def modify (scene : Scene) (index : Nat) (go : Call → Call) : Scene :=
  { scene with calls := scene.calls.modify index go }

def next (rules : Rules) (scene : Scene) : Event → Scene
  | .begin name => { scene with calls := scene.calls ++ [.start rules name] }
  | .read index answer answers => scene.modify index (Call.told rules answer answers)
  | .accepted index version reply =>
      match scene.draft? index with
      | some draft =>
          (scene.install draft.target draft.body version).modify index (Call.replied rules reply)
      | none => scene
  | .refused index refusal => scene.modify index (Call.replied rules (.error refusal))
  | .changed name object version => scene.install name { object with name := some name } version
  | .removed name => { scene with store := scene.store.erase name }

def Fresh (scene : Scene) (name version : String) : Prop :=
  ∀ entry ∈ scene.past, entry.1 = name → entry.2.version ≠ some version

/-- Whether an answer to a read tells of an object that is there or was. -/
def Known (scene : Scene) (name : String) : Except Refusal Object → Prop
  | .ok object => (name, object) ∈ scene.past
  | .error _ => True

/-- Whether the object that is stored under the name of a write is at its version. -/
def Current (scene : Scene) (draft : Draft) : Prop :=
  (scene.store.get? draft.target).map Object.version = some draft.body.version

def allows (scene : Scene) : Event → Prop
  | .begin _ => True
  | .read index answer _ =>
      ∃ call ∈ scene.calls[index]?, call.reads = true ∧ scene.Known call.name answer
  | .accepted index version _ =>
      ∃ draft ∈ scene.draft? index, scene.Current draft ∧ scene.Fresh draft.target version
  | .refused index _ => (scene.draft? index).isSome = true
  | .changed name _ version => scene.Fresh name version
  | .removed _ => True

def machine (rules : Rules) : Machine Scene Event := ⟨allows, next rules⟩

instance (scene : Scene) (name version : String) : Decidable (scene.Fresh name version) :=
  inferInstanceAs (Decidable (∀ entry ∈ scene.past, entry.1 = name → _))

instance (scene : Scene) (name : String) :
    (answer : Except Refusal Object) → Decidable (scene.Known name answer)
  | .ok object => inferInstanceAs (Decidable ((name, object) ∈ scene.past))
  | .error _ => inferInstanceAs (Decidable True)

instance (scene : Scene) (draft : Draft) : Decidable (scene.Current draft) :=
  inferInstanceAs (Decidable (_ = _))

instance (rules : Rules) (scene : Scene) :
    (event : Event) → Decidable ((machine rules).allows scene event)
  | .begin _ | .removed _ => inferInstanceAs (Decidable True)
  | .read index answer _ =>
      inferInstanceAs (Decidable (∃ call ∈ scene.calls[index]?, _ ∧ scene.Known call.name answer))
  | .accepted index version _ =>
      inferInstanceAs
        (Decidable (∃ draft ∈ scene.draft? index, _ ∧ scene.Fresh draft.target version))
  | .refused _ _ => inferInstanceAs (Decidable (_ = true))
  | .changed name _ version => inferInstanceAs (Decidable (scene.Fresh name version))

end Scene

/-! ## What a write rests on -/

/-- The write of a look carries what the review of an object of the past says, on top of that
object. -/
def Call.Backed (rules : Rules) (past : List (String × Object)) (call : Call) (draft : Draft) :
    Prop :=
  ∃ object snapshot,
    (call.name, object) ∈ past ∧ snapshot.Shows object ∧
      (rules.judge replay snapshot call.answers).1 = .decide draft.verdict ∧
      draft = .of snapshot.name object draft.verdict

namespace Rules

variable {rules : Rules} {number left : Nat}

theorem settle_ne_writing (result : Except Failure Report) (later rest : Nat) (draft : Draft) :
    rules.settle number left result ≠ .writing later rest draft := by
  fun_cases Rules.settle rules number left result <;> exact Progress.noConfusion

theorem writing_afterJudgement {name : String} {snapshot : Snapshot} {judgement : Judgement}
    {later rest : Nat} {draft : Draft}
    (writing : rules.afterJudgement name number left snapshot judgement =
      .writing later rest draft) :
    ∃ object,
      snapshot.source = some object ∧ judgement = .decide draft.verdict ∧
        draft = .of snapshot.name object draft.verdict := by
  cases judgement with
  | report outcome message =>
      rw [afterJudgement] at writing
      exact absurd writing (settle_ne_writing _ later rest draft)
  | fail failure =>
      rw [afterJudgement] at writing
      exact absurd writing (settle_ne_writing _ later rest draft)
  | decide verdict =>
      cases wanted : verdict.conditionFor? snapshot.conditions with
      | none =>
          rw [afterJudgement, wanted] at writing
          exact absurd writing (settle_ne_writing _ later rest draft)
      | some condition =>
          cases source : snapshot.source with
          | none =>
              rw [afterJudgement, wanted, source] at writing
              exact absurd writing (settle_ne_writing _ later rest draft)
          | some object =>
              rw [afterJudgement, wanted, source] at writing
              cases writing
              exact ⟨object, rfl, rfl, rfl⟩

/-- A write follows a read only where the object that was read is to be decided. -/
theorem writing_afterRead {name : String} {answer : Except Refusal Object} {answers : List Lookup}
    {later rest : Nat} {draft : Draft}
    (writing : (rules.afterRead replay name number left answer answers).1 =
      .writing later rest draft) :
    ∃ object snapshot,
      answer = .ok object ∧ snapshot.Shows object ∧
        (rules.judge replay snapshot answers).1 = .decide draft.verdict ∧
        draft = .of snapshot.name object draft.verdict := by
  cases answered : Api.readAnswer name answer with
  | error failure =>
      simp only [afterRead, answered, pure_apply] at writing
      exact absurd writing (settle_ne_writing _ later rest draft)
  | ok found =>
      cases found with
      | none =>
          simp only [afterRead, answered, pure_apply] at writing
          exact absurd writing (settle_ne_writing _ later rest draft)
      | some snapshot =>
          obtain ⟨object, rfl, read⟩ := Api.object_of_readAnswer answered
          have shows := Snapshot.shows_of_ofObject read
          simp only [afterRead, answered] at writing
          obtain ⟨source, isSource, judged, isDraft⟩ := writing_afterJudgement writing
          obtain rfl : object = source := Option.some.inj (shows.source.symm.trans isSource)
          exact ⟨object, snapshot, rfl, shows, judged, isDraft⟩

end Rules

namespace Call

variable {rules : Rules} {call : Call} {draft : Draft} {past : List (String × Object)}

theorem writing_of_draft? (found : call.draft? = some draft) :
    ∃ number left, call.progress = .writing number left draft := by
  cases progress : call.progress with
  | writing number left other =>
      obtain rfl : other = draft := by simpa [draft?, progress] using found
      exact ⟨number, left, rfl⟩
  | reading number left | ended ending =>
      simp [draft?, progress] at found

theorem draft?_replied (rules : Rules) (reply : Except Refusal Unit) (call : Call) :
    (call.replied rules reply).draft? = none := by
  cases progress : call.progress with
  | writing number left draft =>
      cases after : rules.afterWrite call.name number left draft reply with
      | writing later rest other =>
          exact absurd after (Rules.settle_ne_writing _ later rest other)
      | reading later rest | ended ending =>
          simp [draft?, replied, progress, after]
  | reading number left | ended ending =>
      simp [draft?, replied, progress]

/-- Whatever a cluster and a resolver do, what follows a read is what follows it here, with
some answers to the lookups. -/
theorem told_of_exchange {σ : Type} (rules : Rules) (api : Api σ) (resolver : Resolver σ)
    (state : σ) (reads : call.reads = true) :
    ∃ answers,
      (call.told rules (api.read call.name state).1 answers).progress =
        (rules.exchange api resolver call.name (call.progress, state)).1 := by
  cases progress : call.progress with
  | reading number left =>
      obtain ⟨answers, same⟩ :=
        rules.afterRead_replay resolver call.name number left (api.read call.name state).1
          (api.read call.name state).2
      refine ⟨answers, ?_⟩
      simp only [told, progress]
      exact same
  | writing number left other | ended ending =>
      simp [Call.reads, progress] at reads

theorem replied_of_exchange {σ : Type} (rules : Rules) (api : Api σ) (resolver : Resolver σ)
    (state : σ) (found : call.draft? = some draft) :
    (call.replied rules (api.write draft.target draft.body state).1).progress =
      (rules.exchange api resolver call.name (call.progress, state)).1 := by
  obtain ⟨number, left, progress⟩ := writing_of_draft? found
  simp only [replied, progress]
  rfl

theorem Backed.mono {later : List (String × Object)} (backed : call.Backed rules past draft)
    (grows : past ⊆ later) : call.Backed rules later draft := by
  obtain ⟨object, snapshot, member, shows, judged, isDraft⟩ := backed
  exact ⟨object, snapshot, grows member, shows, judged, isDraft⟩

theorem backed_told {answer : Except Refusal Object} {answers : List Lookup}
    (reads : call.reads = true)
    (known : ∀ object, answer = .ok object → (call.name, object) ∈ past)
    (found : (call.told rules answer answers).draft? = some draft) :
    (call.told rules answer answers).Backed rules past draft := by
  cases progress : call.progress with
  | reading number left =>
      have told : call.told rules answer answers =
          { call with
            progress := (rules.afterRead replay call.name number left answer answers).1
            answers } := by
        simp only [Call.told, progress]
      rw [told] at found ⊢
      obtain ⟨later, rest, writing⟩ := writing_of_draft? found
      obtain ⟨object, snapshot, rfl, shows, judged, isDraft⟩ := Rules.writing_afterRead writing
      exact ⟨object, snapshot, known object rfl, shows, judged, isDraft⟩
  | writing number left other | ended ending =>
      simp [Call.reads, progress] at reads

end Call

namespace Scene

/-- A scene at the beginning: the past is what is stored, under the names that the objects
have, and no look has begun. -/
structure Initial (scene : Scene) : Prop where
  past_iff : ∀ name object,
    (name, object) ∈ scene.past ↔ scene.store.get? name = some object
  named : ∀ name object, scene.store.get? name = some object → object.name = some name
  idle : scene.calls = []

/-- What holds at any time. The version tells which object of the past it is. -/
structure Sound (rules : Rules) (scene : Scene) : Prop where
  stored : ∀ name object, scene.store.get? name = some object → (name, object) ∈ scene.past
  named : ∀ name object, (name, object) ∈ scene.past → object.name = some name
  coherent : ∀ name first second, (name, first) ∈ scene.past → (name, second) ∈ scene.past →
    first.version = second.version → first = second
  backed : ∀ (index : Nat) (call : Call) (draft : Draft),
    scene.calls[index]? = some call → call.draft? = some draft →
      call.Backed rules scene.past draft

variable {rules : Rules} {scene : Scene}

theorem Initial.sound (initial : scene.Initial) : scene.Sound rules where
  stored name object found := (initial.past_iff name object).mpr found
  named name object member := initial.named name object ((initial.past_iff name object).mp member)
  coherent name first second firstMember secondMember _ := by
    have isFirst := (initial.past_iff name first).mp firstMember
    have isSecond := (initial.past_iff name second).mp secondMember
    exact Option.some.inj (isFirst.symm.trans isSecond)
  backed index call draft found _ := by
    simp [initial.idle] at found

namespace Sound

theorem install (sound : scene.Sound rules) {name version : String} {object : Object}
    (fresh : scene.Fresh name version) (named : object.name = some name) :
    (scene.install name object version).Sound rules where
  stored other found hasFound := by
    simp only [Scene.install, Store.get?_put] at hasFound ⊢
    by_cases here : other = name
    · rw [if_pos here] at hasFound
      rw [here, Option.some.inj hasFound]
      exact List.mem_cons_self
    · rw [if_neg here] at hasFound
      exact List.mem_cons_of_mem _ (sound.stored other found hasFound)
  named other found member := by
    rcases List.mem_cons.mp member with new | earlier
    · cases new
      exact named
    · exact sound.named other found earlier
  coherent other first second firstMember secondMember same := by
    rcases List.mem_cons.mp firstMember with firstNew | firstEarlier
    · rcases List.mem_cons.mp secondMember with secondNew | secondEarlier
      · exact (Prod.mk.inj (firstNew.trans secondNew.symm)).2
      · cases firstNew
        exact absurd same.symm (fresh (name, second) secondEarlier rfl)
    · rcases List.mem_cons.mp secondMember with secondNew | secondEarlier
      · cases secondNew
        exact absurd same (fresh (name, first) firstEarlier rfl)
      · exact sound.coherent other first second firstEarlier secondEarlier same
  backed index call draft found isDraft :=
    (sound.backed index call draft found isDraft).mono (List.subset_cons_self _ _)

theorem modify (sound : scene.Sound rules) {index : Nat} {go : Call → Call}
    (backed : ∀ call draft, scene.calls[index]? = some call → (go call).draft? = some draft →
      (go call).Backed rules scene.past draft) :
    (scene.modify index go).Sound rules where
  stored := sound.stored
  named := sound.named
  coherent := sound.coherent
  backed other call draft found isDraft := by
    simp only [Scene.modify, List.getElem?_modify, Option.map_eq_map, Option.map_eq_some_iff]
      at found
    obtain ⟨earlier, isEarlier, rfl⟩ := found
    by_cases here : index = other
    · subst here
      rw [if_pos rfl] at isDraft ⊢
      exact backed earlier draft isEarlier isDraft
    · rw [if_neg here] at isDraft ⊢
      exact sound.backed other earlier draft isEarlier isDraft

theorem replied (sound : scene.Sound rules) (index : Nat) (reply : Except Refusal Unit) :
    (scene.modify index (Call.replied rules reply)).Sound rules := by
  refine sound.modify ?_
  intro call draft _ isDraft
  rw [Call.draft?_replied] at isDraft
  cases isDraft

/-- A write that is accepted lands on the object that was read for it, as that alone has the
version that the write names, and what it writes is what the review of that object says. -/
theorem lands (sound : scene.Sound rules) {index : Nat} {draft : Draft}
    (isDraft : scene.draft? index = some draft) (current : scene.Current draft) :
    ∃ (call : Call) (stored : Object) (snapshot : Snapshot),
      scene.calls[index]? = some call ∧ call.draft? = some draft ∧ draft.target = call.name ∧
        scene.store.get? call.name = some stored ∧ snapshot.Shows stored ∧
        (rules.judge replay snapshot call.answers).1 = .decide draft.verdict ∧
        draft.body = stored.addCondition (.ofCondition draft.verdict.condition) := by
  obtain ⟨call, found, callDraft⟩ := Option.bind_eq_some_iff.mp isDraft
  obtain ⟨object, snapshot, member, shows, judged, same⟩ :=
    sound.backed index call draft found callDraft
  have named : snapshot.name = call.name :=
    Option.some.inj (shows.name.symm.trans (sound.named call.name object member))
  have target : draft.target = call.name := by
    rw [same]
    exact named
  have body : draft.body = object.addCondition (.ofCondition draft.verdict.condition) :=
    congrArg Draft.body same
  rw [Current, target, Option.map_eq_some_iff] at current
  obtain ⟨stored, isStored, version⟩ := current
  have sameVersion : stored.version = object.version := by
    rw [version, body]
    rfl
  obtain rfl : stored = object :=
    sound.coherent call.name stored object (sound.stored call.name stored isStored) member
      sameVersion
  exact ⟨call, stored, snapshot, found, callDraft, target, isStored, shows, judged, body⟩

theorem next (sound : scene.Sound rules) {event : Event} (allowed : scene.allows event) :
    (scene.next rules event).Sound rules := by
  cases event with
  | begin name =>
      refine ⟨sound.stored, sound.named, sound.coherent, ?_⟩
      intro index call draft found isDraft
      simp only [Scene.next, List.getElem?_append] at found
      by_cases earlier : index < scene.calls.length
      · rw [if_pos earlier] at found
        exact sound.backed index call draft found isDraft
      · rw [if_neg earlier] at found
        have isNew : call = .start rules name := List.mem_singleton.mp (List.mem_of_getElem? found)
        rw [isNew] at isDraft
        cases isDraft
  | read index answer answers =>
      obtain ⟨waiting, isWaiting, reads, known⟩ := allowed
      refine sound.modify ?_
      intro call draft found isDraft
      obtain rfl : waiting = call := Option.some.inj (isWaiting.symm.trans found)
      refine Call.backed_told reads ?_ isDraft
      rintro object rfl
      exact known
  | accepted index version reply =>
      obtain ⟨draft, isDraft, current, fresh⟩ := allowed
      obtain ⟨call, stored, snapshot, _, _, target, isStored, _, _, body⟩ :=
        sound.lands isDraft current
      have named : draft.body.name = some draft.target := by
        rw [target, body]
        exact sound.named call.name stored (sound.stored call.name stored isStored)
      simp only [Scene.next, Option.mem_def.mp isDraft]
      exact (sound.install fresh named).replied index reply
  | refused index refusal =>
      exact sound.replied index (.error refusal)
  | changed name object version =>
      exact sound.install allowed rfl
  | removed name =>
      refine ⟨?_, sound.named, sound.coherent, sound.backed⟩
      intro other object found
      exact sound.stored other object (Store.get?_of_get?_erase found)

end Sound

theorem sound_after {start : Scene} (initial : start.Initial) {history : List Event}
    (legal : (machine rules).Legal start history) :
    ((machine rules).after start history).Sound rules :=
  Machine.holds_after (Sound rules) (fun _ _ sound allowed => sound.next allowed)
    initial.sound legal

end Scene

end CertApproval.Control
