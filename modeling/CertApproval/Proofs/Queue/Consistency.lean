import CertApproval.Control.WorkQueue
import Mathlib.Data.List.Nodup

/-!
What holds between the parts of a work queue: the names that wait in it, the dirty names and
the names that workers hold. Main statement: every operation keeps it, provided that a name
is given back only while it is held.
-/

namespace CertApproval.Control

/-! ## Lists whose members are told apart by a part of them -/

section Parts

variable {α β : Type} {part : α → β}

theorem mem_map_erase [BEq α] [LawfulBEq α] {items : List α} {removed : α} {other : β}
    (nodup : (items.map part).Nodup) (member : removed ∈ items) :
    other ∈ (items.erase removed).map part ↔ other ∈ items.map part ∧ other ≠ part removed := by
  have itemsNodup : items.Nodup := nodup.of_map part
  constructor
  · intro found
    obtain ⟨item, kept, rfl⟩ := List.mem_map.mp found
    obtain ⟨different, earlier⟩ := (itemsNodup.mem_erase_iff).mp kept
    refine ⟨List.mem_map_of_mem earlier, ?_⟩
    exact fun same => different (List.inj_on_of_nodup_map nodup earlier member same)
  · rintro ⟨found, different⟩
    obtain ⟨item, earlier, rfl⟩ := List.mem_map.mp found
    exact List.mem_map_of_mem
      ((itemsNodup.mem_erase_iff).mpr ⟨fun same => different (same ▸ rfl), earlier⟩)

end Parts

namespace WorkQueue

variable {work rest : WorkQueue} {name other : String} {delay : Floating.Double}

/-! ## What an operation does -/

/-- A name that is added is passed over, or becomes dirty; it waits at once unless a worker
holds it. -/
theorem add_cases (work : WorkQueue) (name : String) :
    ((work.shuttingDown = true ∨ name ∈ work.dirty) ∧ work.add name = work) ∨
    (work.shuttingDown = false ∧ name ∉ work.dirty ∧ name ∈ work.processing ∧
      work.add name = { work with dirty := work.dirty ++ [name] }) ∨
    (work.shuttingDown = false ∧ name ∉ work.dirty ∧ name ∉ work.processing ∧
      work.add name =
        { work with dirty := work.dirty ++ [name], queue := work.queue ++ [name] }) := by
  by_cases refused : work.shuttingDown = true ∨ name ∈ work.dirty
  · exact Or.inl ⟨refused, by simp only [add, if_pos refused]⟩
  · have openQueue : work.shuttingDown = false := by
      simpa using fun closed => refused (Or.inl closed)
    have clean : name ∉ work.dirty := fun dirty => refused (Or.inr dirty)
    by_cases held : name ∈ work.processing
    · refine Or.inr (Or.inl ⟨openQueue, clean, held, ?_⟩)
      simp only [add, if_neg refused, if_pos held]
    · refine Or.inr (Or.inr ⟨openQueue, clean, held, ?_⟩)
      simp only [add, if_neg refused, if_neg held]

/-- A delay that is not positive is none, and a queue that is closed sets no timer. -/
theorem addAfter_cases (work : WorkQueue) (name : String) (delay : Floating.Double) :
    (delay ≤ 0 ∧ work.addAfter name delay = work.add name) ∨
    (¬delay ≤ 0 ∧ work.shuttingDown = true ∧ work.addAfter name delay = work) ∨
    (¬delay ≤ 0 ∧ work.shuttingDown = false ∧
      work.addAfter name delay = work.setTimer name delay) := by
  by_cases atOnce : delay ≤ 0
  · exact Or.inl ⟨atOnce, by simp only [addAfter, if_pos atOnce]⟩
  · cases closed : work.shuttingDown with
    | true =>
        exact Or.inr (Or.inl ⟨atOnce, rfl, by simp [addAfter, atOnce, closed]⟩)
    | false =>
        exact Or.inr (Or.inr ⟨atOnce, rfl, by simp [addAfter, atOnce, closed]⟩)

/-- The name that has waited longest is handed out, if any waits. -/
theorem get_cases (work : WorkQueue) :
    (work.queue = [] ∧ work.get = (none, work)) ∨
    ∃ name queue, work.queue = name :: queue ∧
      work.get = (some name,
        { work with
          queue
          dirty := work.dirty.filter (· ≠ name)
          processing := if name ∈ work.processing then work.processing
            else work.processing ++ [name] }) := by
  cases waiting : work.queue with
  | nil =>
      exact Or.inl ⟨rfl, by simp only [get, waiting]⟩
  | cons name queue =>
      exact Or.inr ⟨name, queue, rfl, by simp only [get, waiting]⟩

/-- A name that is given back waits again if it is dirty. -/
theorem done_cases (work : WorkQueue) (name : String) :
    (name ∈ work.dirty ∧ work.shuttingDown = false ∧
      work.done name =
        { work with
          processing := work.processing.filter (· ≠ name)
          queue := work.queue ++ [name] }) ∨
    ((name ∈ work.dirty → work.shuttingDown = true) ∧
      work.done name = { work with processing := work.processing.filter (· ≠ name) }) := by
  by_cases again : name ∈ work.dirty ∧ ¬work.shuttingDown = true
  · refine Or.inl ⟨again.1, by simpa using again.2, ?_⟩
    simp only [done, if_pos again]
  · refine Or.inr ⟨?_, by simp only [done, if_neg again]⟩
    intro dirty
    exact Decidable.not_not.mp fun openQueue => again ⟨dirty, openQueue⟩

@[simp]
theorem shuttingDown_add : (work.add name).shuttingDown = work.shuttingDown := by
  rcases add_cases work name with ⟨_, same⟩ | ⟨_, _, _, same⟩ | ⟨_, _, _, same⟩ <;> rw [same]

@[simp]
theorem processing_add : (work.add name).processing = work.processing := by
  rcases add_cases work name with ⟨_, same⟩ | ⟨_, _, _, same⟩ | ⟨_, _, _, same⟩ <;> rw [same]

@[simp]
theorem timers_add : (work.add name).timers = work.timers := by
  rcases add_cases work name with ⟨_, same⟩ | ⟨_, _, _, same⟩ | ⟨_, _, _, same⟩ <;> rw [same]

@[simp]
theorem nextSerial_add : (work.add name).nextSerial = work.nextSerial := by
  rcases add_cases work name with ⟨_, same⟩ | ⟨_, _, _, same⟩ | ⟨_, _, _, same⟩ <;> rw [same]

theorem mem_dirty_add :
    other ∈ (work.add name).dirty ↔
      other ∈ work.dirty ∨ (other = name ∧ work.shuttingDown = false) := by
  rcases add_cases work name with
    ⟨refused, same⟩ | ⟨openQueue, _, _, same⟩ | ⟨openQueue, _, _, same⟩
  · rw [same]
    constructor
    · exact Or.inl
    · rintro (dirty | ⟨rfl, openQueue⟩)
      · exact dirty
      · simpa [openQueue] using refused
  · simp [same, openQueue]
  · simp [same, openQueue]

theorem mem_dirty_addAfter :
    other ∈ (work.addAfter name delay).dirty ↔
      other ∈ work.dirty ∨ (other = name ∧ delay ≤ 0 ∧ work.shuttingDown = false) := by
  rcases addAfter_cases work name delay with
    ⟨atOnce, same⟩ | ⟨later, _, same⟩ | ⟨later, _, same⟩
  · rw [same, mem_dirty_add]
    simp [atOnce]
  · simp [same, later]
  · simp [same, later, setTimer]

theorem mem_dirty_get :
    other ∈ work.get.2.dirty ↔ other ∈ work.dirty ∧ work.get.1 ≠ some other := by
  rcases get_cases work with ⟨_, taken⟩ | ⟨first, queue, _, taken⟩
  · simp [taken]
  · rw [taken]
    simp [ne_comm]

@[simp]
theorem shuttingDown_get : work.get.2.shuttingDown = work.shuttingDown := by
  rcases get_cases work with ⟨_, taken⟩ | ⟨first, queue, _, taken⟩ <;> rw [taken]

@[simp]
theorem shuttingDown_addAfter :
    (work.addAfter name delay).shuttingDown = work.shuttingDown := by
  rcases addAfter_cases work name delay with ⟨_, same⟩ | ⟨_, _, same⟩ | ⟨_, _, same⟩
  · rw [same, shuttingDown_add]
  · rw [same]
  · rw [same, setTimer]

@[simp]
theorem processing_addAfter :
    (work.addAfter name delay).processing = work.processing := by
  rcases addAfter_cases work name delay with ⟨_, same⟩ | ⟨_, _, same⟩ | ⟨_, _, same⟩
  · rw [same, processing_add]
  · rw [same]
  · rw [same, setTimer]

@[simp]
theorem dirty_done : (work.done name).dirty = work.dirty := by
  rcases done_cases work name with ⟨_, _, same⟩ | ⟨_, same⟩ <;> rw [same]

@[simp]
theorem shuttingDown_done : (work.done name).shuttingDown = work.shuttingDown := by
  rcases done_cases work name with ⟨_, _, same⟩ | ⟨_, same⟩ <;> rw [same]

@[simp]
theorem processing_done : (work.done name).processing = work.processing.filter (· ≠ name) := by
  rcases done_cases work name with ⟨_, _, same⟩ | ⟨_, same⟩ <;> rw [same]

/-- A dirty name waits again when it is given back. -/
theorem mem_queue_done (dirty : name ∈ work.dirty) (openQueue : work.shuttingDown = false) :
    name ∈ (work.done name).queue := by
  rcases done_cases work name with ⟨_, _, same⟩ | ⟨clean, _⟩
  · simp [same]
  · exact absurd (openQueue.symm.trans (clean dirty)) (by decide)

theorem mem_queue_done_iff (absent : name ∉ work.queue) (openQueue : work.shuttingDown = false) :
    name ∈ (work.done name).queue ↔ name ∈ work.dirty := by
  refine ⟨fun waiting => ?_, fun dirty => mem_queue_done dirty openQueue⟩
  rcases done_cases work name with ⟨dirty, _⟩ | ⟨_, same⟩
  · exact dirty
  · rw [same] at waiting
    exact absurd waiting absent

/-! ## The invariant -/

/-- What holds between the parts of a queue. -/
structure Consistent (work : WorkQueue) : Prop where
  queue_nodup : work.queue.Nodup
  queue_free : ∀ name ∈ work.queue, name ∉ work.processing
  queue_dirty : ∀ name ∈ work.queue, name ∈ work.dirty
  /-- A dirty name is not forgotten as long as the queue is open. -/
  dirty_kept : work.shuttingDown = false →
    ∀ name ∈ work.dirty, name ∈ work.queue ∨ name ∈ work.processing
  closed_empty : work.shuttingDown = true → work.queue = []

namespace Consistent

theorem empty : Consistent {} where
  queue_nodup := List.nodup_nil
  queue_free := by simp
  queue_dirty := by simp
  dirty_kept := by simp
  closed_empty := by simp

theorem add (consistent : work.Consistent) (name : String) : (work.add name).Consistent := by
  rcases add_cases work name with
    ⟨_, same⟩ | ⟨openQueue, _, held, same⟩ | ⟨openQueue, clean, free, same⟩
  · rw [same]
    exact consistent
  · rw [same]
    refine ⟨consistent.queue_nodup, consistent.queue_free, ?_, ?_, consistent.closed_empty⟩
    · intro other waiting
      exact List.mem_append_left [name] (consistent.queue_dirty other waiting)
    · intro _ other dirty
      rcases List.mem_append.mp dirty with earlier | new
      · exact consistent.dirty_kept openQueue other earlier
      · rw [List.mem_singleton.mp new]
        exact Or.inr held
  · have absent : name ∉ work.queue := fun waiting => clean (consistent.queue_dirty name waiting)
    rw [same]
    refine ⟨?_, ?_, ?_, ?_, ?_⟩
    · rw [← List.concat_eq_append]
      exact consistent.queue_nodup.concat absent
    · intro other waiting
      rcases List.mem_append.mp waiting with earlier | new
      · exact consistent.queue_free other earlier
      · rw [List.mem_singleton.mp new]
        exact free
    · intro other waiting
      rcases List.mem_append.mp waiting with earlier | new
      · exact List.mem_append_left [name] (consistent.queue_dirty other earlier)
      · exact List.mem_append_right work.dirty new
    · intro _ other dirty
      rcases List.mem_append.mp dirty with earlier | new
      · rcases consistent.dirty_kept openQueue other earlier with waiting | held
        · exact Or.inl (List.mem_append_left [name] waiting)
        · exact Or.inr held
      · exact Or.inl (List.mem_append_right work.queue new)
    · intro closed
      exact absurd (openQueue.symm.trans closed) (by decide)

theorem dropTimer (consistent : work.Consistent) (timer : Timer) :
    (work.dropTimer timer).Consistent :=
  ⟨consistent.queue_nodup, consistent.queue_free, consistent.queue_dirty,
    consistent.dirty_kept, consistent.closed_empty⟩

theorem addAfter (consistent : work.Consistent) (name : String) (delay : Floating.Double) :
    (work.addAfter name delay).Consistent := by
  rcases addAfter_cases work name delay with ⟨_, same⟩ | ⟨_, _, same⟩ | ⟨_, _, same⟩
  · rw [same]
    exact consistent.add name
  · rw [same]
    exact consistent
  · rw [same]
    exact ⟨consistent.queue_nodup, consistent.queue_free, consistent.queue_dirty,
      consistent.dirty_kept, consistent.closed_empty⟩

/-- The name that is handed out is in nobody's hands before, and clean after. -/
theorem get (consistent : work.Consistent) : work.get.2.Consistent := by
  rcases get_cases work with ⟨_, same⟩ | ⟨name, queue, waiting, same⟩
  · rw [same]
    exact consistent
  · have nodup : (name :: queue).Nodup := waiting ▸ consistent.queue_nodup
    have apart : ∀ other ∈ queue, other ≠ name := by
      intro other later equal
      exact (List.nodup_cons.mp nodup).1 (equal ▸ later)
    have member : ∀ other ∈ queue, other ∈ work.queue := by
      intro other later
      rw [waiting]
      exact List.mem_cons_of_mem name later
    have free : name ∉ work.processing :=
      consistent.queue_free name (waiting ▸ List.mem_cons_self)
    rw [same]
    simp only [if_neg free]
    refine ⟨(List.nodup_cons.mp nodup).2, ?_, ?_, ?_, ?_⟩
    · intro other later held
      rcases List.mem_append.mp held with earlier | new
      · exact consistent.queue_free other (member other later) earlier
      · exact apart other later (List.mem_singleton.mp new)
    · intro other later
      have dirty := consistent.queue_dirty other (member other later)
      simpa using ⟨dirty, apart other later⟩
    · intro openQueue other kept
      obtain ⟨dirty, different⟩ : other ∈ work.dirty ∧ other ≠ name := by simpa using kept
      rcases consistent.dirty_kept openQueue other dirty with found | held
      · rw [waiting] at found
        rcases List.mem_cons.mp found with equal | later
        · exact absurd equal different
        · exact Or.inl later
      · exact Or.inr (List.mem_append_left [name] held)
    · intro closed
      have empty := consistent.closed_empty closed
      rw [waiting] at empty
      cases empty

/-- A name that no worker holds could come to wait twice; hence the hypothesis. -/
theorem done (consistent : work.Consistent) (held : name ∈ work.processing) :
    (work.done name).Consistent := by
  have absent : name ∉ work.queue := fun waiting => consistent.queue_free name waiting held
  rcases done_cases work name with ⟨dirty, openQueue, same⟩ | ⟨clean, same⟩
  · rw [same]
    refine ⟨?_, ?_, ?_, ?_, ?_⟩
    · rw [← List.concat_eq_append]
      exact consistent.queue_nodup.concat absent
    · intro other waiting stillHeld
      obtain ⟨processing, different⟩ : other ∈ work.processing ∧ other ≠ name := by
        simpa using stillHeld
      rcases List.mem_append.mp waiting with earlier | new
      · exact consistent.queue_free other earlier processing
      · exact different (List.mem_singleton.mp new)
    · intro other waiting
      rcases List.mem_append.mp waiting with earlier | new
      · exact consistent.queue_dirty other earlier
      · rw [List.mem_singleton.mp new]
        exact dirty
    · intro _ other dirtyOther
      rcases consistent.dirty_kept openQueue other dirtyOther with waiting | processing
      · exact Or.inl (List.mem_append_left [name] waiting)
      · by_cases equal : other = name
        · exact Or.inl (by simp [equal])
        · exact Or.inr (by simpa using ⟨processing, equal⟩)
    · intro closed
      exact absurd (openQueue.symm.trans closed) (by decide)
  · rw [same]
    refine ⟨consistent.queue_nodup, ?_, consistent.queue_dirty, ?_, consistent.closed_empty⟩
    · intro other waiting stillHeld
      exact consistent.queue_free other waiting (List.mem_filter.mp stillHeld).1
    · intro openQueue other dirty
      have different : other ≠ name := by
        intro equal
        exact absurd (openQueue.symm.trans (clean (equal ▸ dirty))) (by decide)
      rcases consistent.dirty_kept openQueue other dirty with waiting | processing
      · exact Or.inl waiting
      · exact Or.inr (by simpa using ⟨processing, different⟩)

/-- A queue that is closed is empty, so there is nothing left to be kept. -/
theorem shutDown (work : WorkQueue) : work.shutDown.Consistent where
  queue_nodup := List.nodup_nil
  queue_free := by simp [WorkQueue.shutDown]
  queue_dirty := by simp [WorkQueue.shutDown]
  dirty_kept := by simp [WorkQueue.shutDown]
  closed_empty := fun _ => rfl

end Consistent

/-! ## Timers -/

/-- Timers are told apart by their numbers, and the next number is a new one. -/
structure Numbered (work : WorkQueue) : Prop where
  serials_nodup : (work.timers.map Timer.serial).Nodup
  serial_lt : ∀ timer ∈ work.timers, timer.serial < work.nextSerial

namespace Numbered

variable {timer : Timer}

theorem empty : Numbered {} where
  serials_nodup := List.nodup_nil
  serial_lt := by simp

theorem of_same (numbered : work.Numbered)
    (timers : rest.timers = work.timers) (next : rest.nextSerial = work.nextSerial) :
    rest.Numbered := by
  obtain ⟨serialsNodup, serialLt⟩ := numbered
  rw [← timers] at serialsNodup serialLt
  rw [← next] at serialLt
  exact ⟨serialsNodup, serialLt⟩

theorem setTimer (numbered : work.Numbered) (name : String) (delay : Floating.Double) :
    (work.setTimer name delay).Numbered := by
  constructor
  · simp only [WorkQueue.setTimer, List.map_append, List.map_cons, List.map_nil]
    refine List.nodup_append.mpr ⟨numbered.serials_nodup, by simp, ?_⟩
    intro serial earlier new isNew equal
    obtain ⟨timer, member, rfl⟩ := List.mem_map.mp earlier
    have below := numbered.serial_lt timer member
    rw [List.mem_singleton] at isNew
    omega
  · intro timer member
    simp only [WorkQueue.setTimer] at member ⊢
    rcases List.mem_append.mp member with earlier | new
    · exact Nat.lt_succ_of_lt (numbered.serial_lt timer earlier)
    · rw [List.mem_singleton.mp new]
      exact Nat.lt_succ_self _

theorem addAfter (numbered : work.Numbered) (name : String) (delay : Floating.Double) :
    (work.addAfter name delay).Numbered := by
  rcases addAfter_cases work name delay with ⟨_, same⟩ | ⟨_, _, same⟩ | ⟨_, _, same⟩
  · rw [same]
    exact numbered.of_same timers_add nextSerial_add
  · rw [same]
    exact numbered
  · rw [same]
    exact numbered.setTimer name delay

theorem dropTimer (numbered : work.Numbered) (timer : Timer) :
    (work.dropTimer timer).Numbered where
  serials_nodup := numbered.serials_nodup.sublist (List.filter_sublist.map Timer.serial)
  serial_lt := fun other member => numbered.serial_lt other (List.mem_filter.mp member).1

theorem shutDown (work : WorkQueue) : work.shutDown.Numbered where
  serials_nodup := List.nodup_nil
  serial_lt := by simp [WorkQueue.shutDown]

end Numbered

theorem timers_get : work.get.2.timers = work.timers := by
  rcases get_cases work with ⟨_, taken⟩ | ⟨first, queue, _, taken⟩ <;> rw [taken]

theorem nextSerial_get : work.get.2.nextSerial = work.nextSerial := by
  rcases get_cases work with ⟨_, taken⟩ | ⟨first, queue, _, taken⟩ <;> rw [taken]

theorem timers_done : (work.done name).timers = work.timers := by
  rcases done_cases work name with ⟨_, _, same⟩ | ⟨_, same⟩ <;> rw [same]

theorem nextSerial_done : (work.done name).nextSerial = work.nextSerial := by
  rcases done_cases work name with ⟨_, _, same⟩ | ⟨_, same⟩ <;> rw [same]

theorem mem_timers_addAfter {timer : Timer} (pending : timer ∈ work.timers) :
    timer ∈ (work.addAfter name delay).timers := by
  rcases addAfter_cases work name delay with ⟨_, same⟩ | ⟨_, _, same⟩ | ⟨_, _, same⟩
  · simpa [same] using pending
  · simpa [same] using pending
  · rw [same]
    exact List.mem_append_left _ pending

/-- A timer that goes off takes no other one with it. -/
theorem mem_timers_dropTimer {timer fired : Timer}
    (numbered : work.Numbered) (pending : timer ∈ work.timers) (firing : fired ∈ work.timers)
    (different : timer ≠ fired) : timer ∈ (work.dropTimer fired).timers := by
  have apart : timer.serial ≠ fired.serial := fun equal =>
    different (List.inj_on_of_nodup_map numbered.serials_nodup pending firing equal)
  simpa [WorkQueue.dropTimer] using ⟨pending, apart⟩

/-- A name that is added again will be dirty, at once or when its timer goes off. -/
theorem addAfter_pending (name : String) (delay : Floating.Double)
    (openQueue : work.shuttingDown = false) :
    name ∈ (work.addAfter name delay).dirty ∨
      ∃ timer ∈ (work.addAfter name delay).timers, timer.name = name := by
  rcases addAfter_cases work name delay with ⟨atOnce, same⟩ | ⟨_, closed, _⟩ | ⟨_, _, same⟩
  · exact Or.inl (mem_dirty_addAfter.mpr (Or.inr ⟨rfl, atOnce, openQueue⟩))
  · exact absurd (openQueue.symm.trans closed) (by decide)
  · rw [same]
    exact Or.inr ⟨_, List.mem_append_right _ (List.mem_singleton.mpr rfl), rfl⟩

end WorkQueue

end CertApproval.Control
