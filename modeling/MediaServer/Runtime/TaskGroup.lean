import Mathlib.Data.List.Basic

/-!
# Task groups

`sans_io_runtime::TaskGroup` keeps its tasks in a vector of slots. Removing a
task frees its slot, and a later task may be put in it; the slot index is the
only handle a caller keeps.

## Implementation notes

The crate is outside the source. `add_task` puts a task in the lowest free
slot, `firstFree`. The cluster and the worker take the slot that `add_task`
returned as an argument, so their results hold for every choice of a free
slot.
-/

namespace MediaServer.Runtime

/-- `TaskGroup<.., Task, ..>`: the slot vector. -/
structure TaskGroup (Task : Type) where
  slots : List (Option Task)

/-- `TaskGroupOutput`: an output of the task in a slot, or the group's empty event. -/
inductive TaskGroupOutput (Out : Type) where
  | taskOutput (index : Nat) (out : Out)
  | onResourceEmpty

namespace TaskGroup

variable {Task : Type}

/-- `TaskGroup::default`. -/
def empty : TaskGroup Task := ⟨[]⟩

/-- The task in slot `index`, if the slot is occupied. -/
def get? (g : TaskGroup Task) (index : Nat) : Option Task := g.slots[index]?.join

/-- `TaskGroup::has_task`. -/
def hasTask (g : TaskGroup Task) (index : Nat) : Bool := (g.get? index).isSome

/-- Puts `task` in slot `index`, growing the vector with free slots if needed. -/
def addAt (g : TaskGroup Task) (index : Nat) (task : Task) : TaskGroup Task :=
  ⟨(g.slots ++ List.replicate (index + 1 - g.slots.length) none).set index (some task)⟩

/-- The slot `TaskGroup::add_task` takes: the lowest free slot, or the next new one. -/
def firstFree (g : TaskGroup Task) : Nat := g.slots.findIdx Option.isNone

/-- `TaskGroup::remove_task`: the slot becomes free. -/
def removeTask (g : TaskGroup Task) (index : Nat) : TaskGroup Task := ⟨g.slots.set index none⟩

/-- `TaskGroup::on_event`: the task in slot `index`, if any, takes the input `f`. -/
def onEvent (g : TaskGroup Task) (index : Nat) (f : Task → Task) : TaskGroup Task :=
  ⟨g.slots.modify (Option.map f) index⟩

/-- `TaskGroup::on_tick` and `TaskGroup::on_shutdown`: every task takes `f`. -/
def map (g : TaskGroup Task) (f : Task → Task) : TaskGroup Task := ⟨g.slots.map (Option.map f)⟩

/-- `TaskGroup::is_empty`: no slot is occupied. -/
def isEmpty (g : TaskGroup Task) : Bool := g.slots.all Option.isNone

@[simp] theorem get?_empty (index : Nat) : (empty : TaskGroup Task).get? index = none := rfl

@[simp] theorem get?_addAt (g : TaskGroup Task) (index j : Nat) (task : Task) :
    (g.addAt index task).get? j = if j = index then some task else g.get? j := by
  simp only [get?, addAt, List.getElem?_set, List.length_append, List.length_replicate]
  by_cases hj : j = index
  · subst hj
    have : j < g.slots.length + (j + 1 - g.slots.length) := by omega
    simp [this]
  · rw [if_neg (Ne.symm hj), if_neg hj]
    by_cases hl : j < g.slots.length
    · rw [List.getElem?_append_left hl]
    · rw [List.getElem?_append_right (by omega), List.getElem?_eq_none (by omega :
        g.slots.length ≤ j), List.getElem?_replicate]
      split <;> rfl

@[simp] theorem get?_removeTask (g : TaskGroup Task) (index j : Nat) :
    (g.removeTask index).get? j = if j = index then none else g.get? j := by
  simp only [get?, removeTask, List.getElem?_set]
  by_cases hj : j = index
  · subst hj; simp only [if_true]; split <;> rfl
  · rw [if_neg (Ne.symm hj), if_neg hj]

@[simp] theorem get?_onEvent (g : TaskGroup Task) (index j : Nat) (f : Task → Task) :
    (g.onEvent index f).get? j = if j = index then (g.get? index).map f else g.get? j := by
  simp only [get?, onEvent, List.getElem?_modify]
  by_cases hj : j = index
  · subst hj; cases g.slots[j]? <;> simp
  · cases g.slots[j]? <;> simp [Ne.symm hj, hj]

@[simp] theorem get?_map (g : TaskGroup Task) (f : Task → Task) (j : Nat) :
    (g.map f).get? j = (g.get? j).map f := by
  simp only [get?, map, List.getElem?_map]
  cases g.slots[j]? <;> simp

/-- What no input changes of a task is the same in every slot after an input. -/
theorem map_get?_onEvent {β : Type} (p : Task → β) {f : Task → Task} (hf : ∀ t, p (f t) = p t)
    (g : TaskGroup Task) (index j : Nat) :
    ((g.onEvent index f).get? j).map p = (g.get? j).map p := by
  rw [get?_onEvent]
  split
  · subst j; cases g.get? index <;> simp [hf]
  · rfl

theorem map_get?_map {β : Type} (p : Task → β) {f : Task → Task} (hf : ∀ t, p (f t) = p t)
    (g : TaskGroup Task) (j : Nat) : ((g.map f).get? j).map p = (g.get? j).map p := by
  rw [get?_map]
  cases g.get? j <;> simp [hf]

@[simp] theorem isSome_get?_onEvent (g : TaskGroup Task) (index j : Nat) (f : Task → Task) :
    ((g.onEvent index f).get? j).isSome = (g.get? j).isSome := by
  rw [get?_onEvent]
  split
  · subst j; simp
  · rfl

@[simp] theorem isSome_get?_map (g : TaskGroup Task) (f : Task → Task) (j : Nat) :
    ((g.map f).get? j).isSome = (g.get? j).isSome := by
  simp

/-- Every live task satisfies `P`. -/
def All (P : Task → Prop) (g : TaskGroup Task) : Prop := ∀ j t, g.get? j = some t → P t

section All

variable {P Q : Task → Prop} {g : TaskGroup Task}

theorem All.empty : (TaskGroup.empty : TaskGroup Task).All P := fun _ _ h => by simp at h

theorem All.addAt (h : g.All P) (index : Nat) {task : Task} (ht : P task) :
    (g.addAt index task).All P := by
  intro j t hj
  rw [get?_addAt] at hj
  split at hj
  · exact Option.some.inj hj ▸ ht
  · exact h j t hj

theorem All.removeTask (h : g.All P) (index : Nat) : (g.removeTask index).All P := by
  intro j t hj
  rw [get?_removeTask] at hj
  split at hj
  · cases hj
  · exact h j t hj

theorem All.onEvent (h : g.All P) (index : Nat) {f : Task → Task} (hf : ∀ t, P t → P (f t)) :
    (g.onEvent index f).All P := by
  intro j t hj
  rw [get?_onEvent] at hj
  split at hj
  · obtain ⟨t₀, h₀, rfl⟩ := Option.map_eq_some'.mp hj
    exact hf t₀ (h index t₀ h₀)
  · exact h j t hj

theorem All.map (h : g.All P) {f : Task → Task} (hf : ∀ t, P t → Q (f t)) : (g.map f).All Q := by
  intro j t hj
  obtain ⟨t₀, h₀, rfl⟩ := Option.map_eq_some'.mp ((get?_map g f j).symm.trans hj)
  exact hf t₀ (h j t₀ h₀)

end All

/-- The crate's allocation takes a free slot. -/
theorem get?_firstFree (g : TaskGroup Task) : g.get? g.firstFree = none := by
  unfold get? firstFree
  by_cases h : g.slots.findIdx Option.isNone < g.slots.length
  · rw [List.getElem?_eq_getElem h]
    have := List.findIdx_getElem (w := h)
    simpa [Option.isNone_iff_eq_none] using this
  · rw [List.getElem?_eq_none (Nat.le_of_not_lt h)]; rfl

theorem isEmpty_iff (g : TaskGroup Task) : g.isEmpty = true ↔ ∀ index, g.get? index = none := by
  simp only [isEmpty, List.all_eq_true, get?]
  constructor
  · intro h index
    cases hi : g.slots[index]? with
    | none => rfl
    | some o => simpa [Option.isNone_iff_eq_none] using h o (List.mem_iff_getElem?.mpr ⟨index, hi⟩)
  · intro h o ho
    obtain ⟨i, hi, rfl⟩ := List.getElem_of_mem ho
    have := h i
    rw [List.getElem?_eq_getElem hi] at this
    simpa [Option.isNone_iff_eq_none] using this

end TaskGroup

end MediaServer.Runtime
