import CertApproval.Proofs.Decision.Judging
import Mathlib.Data.List.Forall2

/-!
The body of a write. The program holds an object in places that refer to each other, and what it
sends is a copy in places of its own, to which the condition is added. An object has more to it
than a review looks at, and all of that is copied, too. Main statement: nothing that was held
before changes, whatever the answer to the write is.
-/

namespace CertApproval.Cluster

open CertApproval.Review (Condition)

/-- What is held at a place. The rest of a part is what no review looks at. -/
inductive Cell (ρ : Type) where
  | object (own : Object) (rest : ρ) (status : Option Nat)
  | status (rest : ρ) (conditions : Option Nat)
  | list (places : List Nat)
  | condition (own : StoredCondition) (rest : ρ)

abbrev Memory (ρ : Type) := List (Cell ρ)

/-- An object with all its parts. -/
structure Whole (ρ : Type) where
  own : Object
  rest : ρ
  status : Option (ρ × Option (List (StoredCondition × ρ)))

variable {ρ σ : Type}

namespace Whole

/-- What a review may look at. -/
def object (whole : Whole ρ) : Object :=
  { whole.own with
    status := whole.status.map fun status => ⟨status.2.map fun held => held.map Prod.fst⟩ }

def conditions (whole : Whole ρ) : List (StoredCondition × ρ) :=
  (whole.status.bind Prod.snd).getD []

/-- The object with one more condition, and with a blank status first if it has none. -/
def addCondition (whole : Whole ρ) (blank : ρ) (condition : StoredCondition × ρ) : Whole ρ :=
  { whole with
    status := some
      ((whole.status.map Prod.fst).getD blank, some (whole.conditions ++ [condition])) }

theorem object_addCondition (whole : Whole ρ) (blank : ρ) (condition : StoredCondition × ρ) :
    (whole.addCondition blank condition).object = whole.object.addCondition condition.1 := by
  obtain ⟨own, rest, status⟩ := whole
  rcases status with _ | ⟨other, _ | held⟩ <;>
    simp [object, addCondition, conditions, Object.addCondition, Object.conditions]

end Whole

namespace Memory

/-! ## Parts by place -/

def condition? (memory : Memory ρ) (place : Nat) : Option (StoredCondition × ρ) :=
  match memory[place]? with
  | some (.condition own rest) => some (own, rest)
  | _ => none

def conditions? (memory : Memory ρ) (place : Nat) : Option (List (StoredCondition × ρ)) :=
  match memory[place]? with
  | some (.list places) => places.mapM memory.condition?
  | _ => none

def status? (memory : Memory ρ) (place : Nat) :
    Option (ρ × Option (List (StoredCondition × ρ))) :=
  match memory[place]? with
  | some (.status rest none) => some (rest, none)
  | some (.status rest (some list)) => (memory.conditions? list).map fun held => (rest, some held)
  | _ => none

def whole? (memory : Memory ρ) (place : Nat) : Option (Whole ρ) :=
  match memory[place]? with
  | some (.object own rest none) => some ⟨own, rest, none⟩
  | some (.object own rest (some status)) =>
      (memory.status? status).map fun held => ⟨own, rest, some held⟩
  | _ => none

theorem getElem?_of_prefix {memory later : Memory ρ} (kept : memory <+: later) {place : Nat}
    {cell : Cell ρ} (held : memory[place]? = some cell) : later[place]? = some cell := by
  obtain ⟨more, rfl⟩ := kept
  have bound : place < memory.length := (List.getElem?_eq_some_iff.mp held).1
  rw [List.getElem?_append_left bound]
  exact held

/-- Past the end of one list, cells are those of the next. -/
theorem getElem?_append_at {first next : Memory ρ} {start : Nat} (length : first.length = start)
    (index : Nat) : (first ++ next)[start + index]? = next[index]? := by
  rw [← length, List.getElem?_append_right (Nat.le_add_right _ _), Nat.add_sub_cancel_left]

theorem condition?_eq_some {memory : Memory ρ} {place : Nat} {condition : StoredCondition × ρ} :
    memory.condition? place = some condition ↔
      memory[place]? = some (.condition condition.1 condition.2) := by
  unfold condition?
  split <;> simp_all [Prod.ext_iff]

theorem mapM_condition?_eq_some {memory : Memory ρ} {places : List Nat}
    {held : List (StoredCondition × ρ)} :
    places.mapM memory.condition? = some held ↔
      List.Forall₂ (fun place condition =>
        memory[place]? = some (.condition condition.1 condition.2)) places held := by
  induction places generalizing held with
  | nil =>
      simp [eq_comm]
  | cons place places inductionHypothesis =>
      cases held with
      | nil =>
          simp [Option.bind_eq_some_iff]
      | cons condition held =>
          simp [Option.bind_eq_some_iff, inductionHypothesis, condition?_eq_some]

/-! ## A copy and its change -/

/-- A copy of an object, and its place. -/
def copy (memory : Memory ρ) (whole : Whole ρ) : Nat × Memory ρ :=
  match whole.status with
  | none => (memory.length, memory ++ [.object whole.own whole.rest none])
  | some (rest, none) =>
      (memory.length + 1,
        memory ++ [.status rest none, .object whole.own whole.rest (some memory.length)])
  | some (rest, some held) =>
      let next := memory.length + held.length
      (next + 2,
        memory ++ (held.map fun condition => .condition condition.1 condition.2) ++
          [.list (List.range' memory.length held.length), .status rest (some next),
            .object whole.own whole.rest (some (next + 1))])

/-- The place of the status of an object, which gets a blank one if it has none. -/
def ensureStatus (blank : ρ) (body : Nat) (memory : Memory ρ) : Option (Nat × Memory ρ) :=
  match memory[body]? with
  | some (.object own rest none) =>
      some (memory.length,
        memory.set body (.object own rest (some memory.length)) ++ [.status blank none])
  | some (.object _ _ (some status)) => some (status, memory)
  | _ => none

/-- The places of the conditions of a list, none if the list is missing. -/
def places (memory : Memory ρ) : Option Nat → List Nat
  | none => []
  | some list =>
      match memory[list]? with
      | some (.list places) => places
      | _ => []

/-- Gives a status a new list: the conditions that it has, and one more. -/
def extend (condition : StoredCondition × ρ) (status : Nat) (memory : Memory ρ) :
    Option (Memory ρ) :=
  match memory[status]? with
  | some (.status rest list) =>
      some (memory.set status (.status rest (some (memory.length + 1))) ++
        [.condition condition.1 condition.2, .list (memory.places list ++ [memory.length])])
  | _ => none

/-- The body of a write, at a place of its own. -/
def body (blank : ρ) (condition : StoredCondition × ρ) (held : Nat) (memory : Memory ρ) :
    Option (Nat × Memory ρ) := do
  let whole ← memory.whole? held
  let (place, memory) := memory.copy whole
  let (status, memory) ← memory.ensureStatus blank place
  let memory ← memory.extend condition status
  return (place, memory)

/-- Whether an object and its status are held apart from what was held before. -/
structure Apart (memory later : Memory ρ) (whole : Whole ρ) (blank : ρ) (place status : Nat) :
    Prop where
  kept : memory <+: later
  later_place : memory.length ≤ place
  later_status : memory.length ≤ status
  isObject : later[place]? = some (.object whole.own whole.rest (some status))
  isStatus : ∃ list,
    later[status]? = some (.status ((whole.status.map Prod.fst).getD blank) list) ∧
      List.Forall₂ (fun place condition =>
        later[place]? = some (.condition condition.1 condition.2)) (later.places list)
        whole.conditions

theorem getElem?_set_of_ne {memory : Memory ρ} {place other : Nat} {cell found : Cell ρ}
    (apart : other ≠ place) (held : memory[other]? = some found) :
    (memory.set place cell)[other]? = some found := by
  rw [List.getElem?_set_ne apart.symm]
  exact held

theorem prefix_set {memory later : Memory ρ} (kept : memory <+: later) {place : Nat}
    (beyond : memory.length ≤ place) (cell : Cell ρ) : memory <+: later.set place cell := by
  obtain ⟨more, rfl⟩ := kept
  rw [List.set_append_right _ _ beyond]
  exact List.prefix_append _ _

theorem forall₂_copied (memory later : Memory ρ) (held : List (StoredCondition × ρ)) :
    List.Forall₂ (fun place condition =>
        (memory ++ (held.map fun condition => .condition condition.1 condition.2) ++
            later)[place]? =
          some (.condition condition.1 condition.2))
      (List.range' memory.length held.length) held := by
  induction held generalizing memory with
  | nil =>
      exact .nil
  | cons condition held inductionHypothesis =>
      have rest := inductionHypothesis (memory ++ [.condition condition.1 condition.2])
      simp only [List.length_append, List.length_singleton, List.append_assoc,
        List.singleton_append] at rest
      refine .cons ?_ ?_
      · simp
      · simpa using rest

theorem apart_copy (memory : Memory ρ) (whole : Whole ρ) (blank : ρ) :
    ∃ status later,
      (memory.copy whole).2.ensureStatus blank (memory.copy whole).1 = some (status, later) ∧
        memory.Apart later whole blank (memory.copy whole).1 status := by
  obtain ⟨own, rest, status⟩ := whole
  rcases status with _ | ⟨other, _ | held⟩
  · refine ⟨memory.length + 1, memory ++
      [.object own rest (some (memory.length + 1)), .status blank none], ?_, ?_⟩
    · simp [copy, ensureStatus]
    · refine ⟨List.prefix_append _ _, Nat.le_refl _, Nat.le_succ _, ?_, none, ?_, .nil⟩
      · simp [copy]
      · simp
  · refine ⟨memory.length, memory ++
      [.status other none, .object own rest (some memory.length)], ?_, ?_⟩
    · simp [copy, ensureStatus]
    · refine ⟨List.prefix_append _ _, Nat.le_succ _, Nat.le_refl _, ?_, none, ?_, .nil⟩
      · simp [copy]
      · simp
  · let next := memory.length + held.length
    let cells := memory ++ held.map fun condition => .condition condition.1 condition.2
    let parts : Memory ρ := [.list (List.range' memory.length held.length),
      .status other (some next), .object own rest (some (next + 1))]
    have copied :
        memory.copy ⟨own, rest, some (other, some held)⟩ = (next + 2, cells ++ parts) := rfl
    have part (index : Nat) : (cells ++ parts)[next + index]? = parts[index]? :=
      getElem?_append_at (by simp [cells, next]) index
    rw [copied]
    refine ⟨next + 1, cells ++ parts, ?_, ?_⟩
    · simp [ensureStatus, part, parts]
    · refine ⟨⟨_, (List.append_assoc _ _ _).symm⟩, by omega, by omega, part 2, some next,
        part 1, ?_⟩
      have list : (cells ++ parts).places (some next) = List.range' memory.length held.length := by
        simp only [places, show (cells ++ parts)[next]? = _ from part 0, parts,
          List.getElem?_cons_zero]
      rw [list]
      exact forall₂_copied memory parts held

theorem extend_of_apart {memory later : Memory ρ} {whole : Whole ρ} {blank : ρ}
    {place status : Nat} (apart : memory.Apart later whole blank place status)
    (condition : StoredCondition × ρ) :
    ∃ final,
      later.extend condition status = some final ∧ memory <+: final ∧
        final.whole? place = some (whole.addCondition blank condition) := by
  obtain ⟨list, isStatus, held⟩ := apart.isStatus
  let changed : Memory ρ := later.set status
    (.status ((whole.status.map Prod.fst).getD blank) (some (later.length + 1)))
  let parts : Memory ρ := [.condition condition.1 condition.2,
    .list (later.places list ++ [later.length])]
  have bound : status < later.length := (List.getElem?_eq_some_iff.mp isStatus).1
  have earlier {other : Nat} {cell : Cell ρ} (differs : other ≠ status)
      (found : later[other]? = some cell) : (changed ++ parts)[other]? = some cell :=
    getElem?_of_prefix (List.prefix_append _ _) (getElem?_set_of_ne differs found)
  have part (index : Nat) : (changed ++ parts)[later.length + index]? = parts[index]? :=
    getElem?_append_at (by simp [changed]) index
  have conditions : (later.places list ++ [later.length]).mapM (changed ++ parts).condition? =
      some (whole.conditions ++ [condition]) := by
    rw [mapM_condition?_eq_some]
    refine List.rel_append (held.imp fun other found isFound => earlier ?_ isFound)
      (.cons (part 0) .nil)
    rintro rfl
    cases isStatus.symm.trans isFound
  refine ⟨changed ++ parts, ?_, ?_, ?_⟩
  · simp only [extend, isStatus, changed, parts]
  · exact (prefix_set apart.kept apart.later_status _).trans (List.prefix_append _ _)
  · have elsewhere : place ≠ status := by
      rintro rfl
      cases isStatus.symm.trans apart.isObject
    have object := earlier elsewhere apart.isObject
    have changedStatus : (changed ++ parts)[status]? =
        some (.status ((whole.status.map Prod.fst).getD blank) (some (later.length + 1))) := by
      rw [List.getElem?_append_left (by simpa [changed] using bound)]
      exact List.getElem?_set_self bound
    simp only [whole?, object, status?, changedStatus, conditions?,
      show (changed ++ parts)[later.length + 1]? = _ from part 1, parts, List.getElem?_cons_succ,
      List.getElem?_cons_zero]
    rw [conditions]
    rfl

theorem conditions?_of_prefix {memory later : Memory ρ} (kept : memory <+: later) {list : Nat}
    {held : List (StoredCondition × ρ)} (isHeld : memory.conditions? list = some held) :
    later.conditions? list = some held := by
  unfold conditions? at isHeld
  split at isHeld
  · next places isList =>
      have found := mapM_condition?_eq_some.mp isHeld
      rw [conditions?, getElem?_of_prefix kept isList]
      exact mapM_condition?_eq_some.mpr
        (found.imp fun _ _ isCondition => getElem?_of_prefix kept isCondition)
  · cases isHeld

theorem status?_of_prefix {memory later : Memory ρ} (kept : memory <+: later) {place : Nat}
    {held : ρ × Option (List (StoredCondition × ρ))}
    (isHeld : memory.status? place = some held) : later.status? place = some held := by
  unfold status? at isHeld
  split at isHeld
  · next isStatus =>
      rw [status?, getElem?_of_prefix kept isStatus]
      exact isHeld
  · next isStatus =>
      obtain ⟨conditions, isList, rfl⟩ := Option.map_eq_some_iff.mp isHeld
      simp only [status?, getElem?_of_prefix kept isStatus, conditions?_of_prefix kept isList,
        Option.map_some]
  · cases isHeld

/-- What is held at a place is still held there when there is more. -/
theorem whole?_of_prefix {memory later : Memory ρ} (kept : memory <+: later) {place : Nat}
    {whole : Whole ρ} (held : memory.whole? place = some whole) :
    later.whole? place = some whole := by
  unfold whole? at held
  split at held
  · next isObject =>
      rw [whole?, getElem?_of_prefix kept isObject]
      exact held
  · next isObject =>
      obtain ⟨found, isStatus, rfl⟩ := Option.map_eq_some_iff.mp held
      simp only [whole?, getElem?_of_prefix kept isObject, status?_of_prefix kept isStatus,
        Option.map_some]
  · cases held

theorem body_eq_some {memory : Memory ρ} {held : Nat} {whole : Whole ρ}
    (isHeld : memory.whole? held = some whole) (blank : ρ) (condition : StoredCondition × ρ) :
    ∃ place later,
      memory.body blank condition held = some (place, later) ∧ memory <+: later ∧
        later.whole? place = some (whole.addCondition blank condition) := by
  obtain ⟨status, copied, ensured, apart⟩ := apart_copy memory whole blank
  obtain ⟨later, extended, kept, isBody⟩ := extend_of_apart apart condition
  refine ⟨(memory.copy whole).1, later, ?_, kept, isBody⟩
  simp [body, isHeld, ensured, extended]

end Memory

namespace Api

/-- Writes a decision on an object that is held at a place. -/
def decideHeld (api : Api σ) (blank rest : ρ) (name : String) (held : Nat) (condition : Condition)
    (memory : Memory ρ) : StateM σ (Option (Except Failure Unit) × Memory ρ) := do
  match memory.body blank (.ofCondition condition, rest) held with
  | none => return (none, memory)
  | some (place, memory) =>
      match memory.whole? place with
      | none => return (none, memory)
      | some whole =>
          return (some (writeAnswer name (← api.write name whole.object)), memory)

/-- What is sent is the object that is held with one more condition, and all that was held is
held as before, whatever the answer is. With the object in places the decision is written as it
is with the object itself. -/
theorem decideHeld_eq (api : Api σ) {memory : Memory ρ} {held : Nat} {whole : Whole ρ}
    (isHeld : memory.whole? held = some whole) {snapshot : Snapshot}
    (source : snapshot.source = some whole.object) (blank rest : ρ) (condition : Condition) :
    ∃ (place : Nat) (later : Memory ρ),
      memory.body blank (.ofCondition condition, rest) held = some (place, later) ∧
        later.whole? place = some (whole.addCondition blank (.ofCondition condition, rest)) ∧
        memory <+: later ∧ later.whole? held = some whole ∧
        ∀ state,
          api.decideHeld blank rest snapshot.name held condition memory state =
            ((some (api.decide snapshot condition state).1, later),
              (api.decide snapshot condition state).2) := by
  obtain ⟨place, later, isBody, kept, sent⟩ :=
    Memory.body_eq_some isHeld blank (.ofCondition condition, rest)
  refine ⟨place, later, isBody, sent, kept, Memory.whole?_of_prefix kept isHeld, fun state => ?_⟩
  simp only [decideHeld, isBody, sent, decide, source, Whole.object_addCondition, bind_apply,
    pure_apply]

end Api

end CertApproval.Cluster
