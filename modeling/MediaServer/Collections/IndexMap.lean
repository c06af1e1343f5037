import Mathlib.Data.List.Perm.Basic
import Mathlib.Data.List.Nodup

/-!
# Insertion-ordered maps and sets

`indexmap::IndexMap` keeps its entries in a vector and finds a key through a
hash index. Only the vector is observable, so a map is its entry list, each
key at most once. The crate defines `IndexSet<T>` as `IndexMap<T, ()>`, and
so does this module.

## Implementation notes

`swap_remove` is `Vec::swap_remove` on the entry vector: the last entry moves
into the hole. Iteration order after a removal is not insertion order, so a
removal is described on lookups and on key membership, and the permutation
lemmas serve only to keep the keys distinct.
-/

namespace MediaServer.Collections

variable {α K V : Type}

/-- `Vec::swap_remove`: the last element is written over index `i`, then the
vector shrinks by one. -/
def vecSwapRemove (l : List α) (i : Nat) : List α :=
  match l.getLast? with
  | some z => (l.set i z).dropLast
  | none => l

/-- Removing the element after the prefix `a` leaves the other elements. -/
theorem vecSwapRemove_perm (a b : List α) (x : α) :
    (vecSwapRemove (a ++ x :: b) a.length).Perm (a ++ b) := by
  cases b using List.reverseRecOn with
  | nil => simp [vecSwapRemove]
  | append_singleton b z _ =>
      have hl : (a ++ x :: (b ++ [z])).getLast? = some z := by
        rw [← List.cons_append, ← List.append_assoc, List.getLast?_concat]
      simp only [vecSwapRemove, hl]
      rw [List.set_append_right _ _ (le_refl _)]
      simp only [Nat.sub_self, List.set_cons_zero]
      rw [show a ++ z :: (b ++ [z]) = (a ++ z :: b) ++ [z] by simp, List.dropLast_concat]
      exact (List.perm_append_left_iff a).mpr (List.perm_append_singleton z b).symm

/-- A swap removal reorders a sublist of the vector. -/
theorem vecSwapRemove_perm_sublist (l : List α) (i : Nat) :
    ∃ l', l'.Sublist l ∧ (vecSwapRemove l i).Perm l' := by
  by_cases hi : i < l.length
  · have hl : l = l.take i ++ l[i] :: l.drop (i + 1) := by
      rw [← List.drop_eq_getElem_cons hi, List.take_append_drop]
    have hlen : (l.take i).length = i := List.length_take_of_le hi.le
    refine ⟨l.eraseIdx i, List.eraseIdx_sublist l i, ?_⟩
    have h := vecSwapRemove_perm (l.take i) (l.drop (i + 1)) l[i]
    rwa [hlen, ← hl, ← List.eraseIdx_eq_take_drop_succ] at h
  · refine ⟨l.dropLast, List.dropLast_sublist l, ?_⟩
    unfold vecSwapRemove
    split
    · rw [List.set_eq_of_length_le (Nat.le_of_not_lt hi)]
    · cases l <;> simp_all

theorem nodup_map_vecSwapRemove {f : α → K} {l : List α} (h : (l.map f).Nodup) (i : Nat) :
    ((vecSwapRemove l i).map f).Nodup := by
  obtain ⟨l', hsub, hperm⟩ := vecSwapRemove_perm_sublist l i
  exact ((hperm.map f).nodup_iff).mpr ((hsub.map f).nodup h)

/-- `indexmap::IndexMap<K, V>`: the entry vector, each key at most once. -/
@[ext] structure IndexMap (K V : Type) where
  entries : List (K × V)
  nodup : (entries.map Prod.fst).Nodup

/-- `indexmap::IndexSet<T>`, defined by the crate as `IndexMap<T, ()>`. -/
abbrev IndexSet (α : Type) := IndexMap α Unit

namespace IndexMap

/-- The keys in index order. -/
def keys (m : IndexMap K V) : List K := m.entries.map Prod.fst

/-- `Default::default`, the map without entries. -/
def empty : IndexMap K V := ⟨[], List.nodup_nil⟩

/-- `IndexMap::is_empty`. -/
def isEmpty (m : IndexMap K V) : Bool := m.entries.isEmpty

/-- `IndexMap::len`. -/
def len (m : IndexMap K V) : Nat := m.entries.length

theorem keys_nodup (m : IndexMap K V) : m.keys.Nodup := m.nodup

@[simp] theorem keys_empty : (empty : IndexMap K V).keys = [] := rfl

theorem isEmpty_iff (m : IndexMap K V) : m.isEmpty = true ↔ m.keys = [] := by
  simp [isEmpty, keys]

theorem isEmpty_eq_keys (m : IndexMap K V) : m.isEmpty = m.keys.isEmpty := by
  cases h : m.entries <;> simp [isEmpty, keys, h]

theorem len_eq_zero_iff (m : IndexMap K V) : m.len = 0 ↔ m.isEmpty = true := by
  simp [len, isEmpty]

variable [DecidableEq K]

instance [DecidableEq V] : DecidableEq (IndexMap K V) :=
  fun m n => decidable_of_iff (m.entries = n.entries) IndexMap.ext_iff.symm

/-- `IndexMap::get`. -/
def get? (m : IndexMap K V) (k : K) : Option V :=
  (m.entries.find? fun e => e.1 = k).map Prod.snd

/-- With distinct keys a lookup finds exactly the entry of its key. -/
theorem get?_eq_some_iff (m : IndexMap K V) (k : K) (v : V) :
    m.get? k = some v ↔ (k, v) ∈ m.entries := by
  constructor
  · intro h
    obtain ⟨e, he, rfl⟩ := Option.map_eq_some'.mp h
    have hk : e.1 = k := by simpa using List.find?_some he
    exact hk ▸ List.mem_of_find?_eq_some he
  · intro h
    cases hf : m.entries.find? (fun e => e.1 = k) with
    | none => exact absurd h (by simpa using List.find?_eq_none.mp hf (k, v))
    | some e =>
        have hk : e.1 = k := by simpa using List.find?_some hf
        have he := List.inj_on_of_nodup_map m.nodup (List.mem_of_find?_eq_some hf) h hk
        simp [get?, hf, he]

theorem get?_eq_none_iff (m : IndexMap K V) (k : K) : m.get? k = none ↔ k ∉ m.keys := by
  simp only [get?, Option.map_eq_none', List.find?_eq_none, keys, List.mem_map]
  simp only [decide_eq_true_eq, Prod.forall, Prod.exists, exists_and_right, exists_eq_right,
    not_exists]
  exact ⟨fun h v hv => h k v hv rfl, fun h a b hab hak => h b (hak ▸ hab)⟩

theorem mem_keys_iff (m : IndexMap K V) (k : K) : k ∈ m.keys ↔ ∃ v, m.get? k = some v := by
  simp only [keys, List.mem_map, get?_eq_some_iff]
  exact ⟨fun ⟨e, he, hk⟩ => ⟨e.2, hk ▸ he⟩, fun ⟨v, hv⟩ => ⟨_, hv, rfl⟩⟩

@[simp] theorem get?_empty (k : K) : (empty : IndexMap K V).get? k = none := rfl

theorem isEmpty_iff_get? (m : IndexMap K V) : m.isEmpty = true ↔ ∀ k, m.get? k = none := by
  simp only [isEmpty_iff, get?_eq_none_iff, List.eq_nil_iff_forall_not_mem]

/-- The entry update `insert` applies to a present key. -/
def replace (k : K) (v : V) (e : K × V) : K × V := if e.1 = k then (k, v) else e

theorem map_fst_replace (l : List (K × V)) (k : K) (v : V) :
    (l.map (replace k v)).map Prod.fst = l.map Prod.fst := by
  induction l with
  | nil => rfl
  | cons e l ih => by_cases h : e.1 = k <;> simp [replace, h, ih]

theorem nodup_insert (m : IndexMap K V) (k : K) (v : V) :
    ((if k ∈ m.keys then m.entries.map (replace k v) else m.entries ++ [(k, v)]).map
      Prod.fst).Nodup := by
  split
  · rw [map_fst_replace]; exact m.nodup
  · rw [List.map_append]
    exact m.nodup.append (List.nodup_singleton k) (List.disjoint_singleton.mpr ‹_›)

/-- `IndexMap::insert`: a present key keeps its index and takes the new value,
and a new key is pushed last. The old value is returned. -/
def insert (m : IndexMap K V) (k : K) (v : V) : IndexMap K V × Option V :=
  (⟨if k ∈ m.keys then m.entries.map (replace k v) else m.entries ++ [(k, v)],
    nodup_insert m k v⟩, m.get? k)

/-- `IndexMap::swap_remove`: the entry of `k` leaves through `Vec::swap_remove`
at its index, and its value is returned. -/
def swapRemove (m : IndexMap K V) (k : K) : IndexMap K V × Option V :=
  if k ∈ m.keys then
    (⟨vecSwapRemove m.entries (m.keys.indexOf k), nodup_map_vecSwapRemove m.nodup _⟩, m.get? k)
  else (m, none)

@[simp] theorem insert_snd (m : IndexMap K V) (k : K) (v : V) :
    (m.insert k v).2 = m.get? k := rfl

theorem swapRemove_snd (m : IndexMap K V) (k : K) : (m.swapRemove k).2 = m.get? k := by
  unfold swapRemove
  split
  · rfl
  · exact ((get?_eq_none_iff m k).mpr ‹_›).symm

theorem mem_entries_insert (m : IndexMap K V) (k k' : K) (v w : V) :
    (k', w) ∈ (m.insert k v).1.entries ↔ if k' = k then w = v else (k', w) ∈ m.entries := by
  have hfst : ∀ w', (k, w') ∈ m.entries → k ∈ m.keys := fun w' h => List.mem_map.mpr ⟨_, h, rfl⟩
  simp only [insert]
  split
  · simp only [List.mem_map, replace]
    split
    · subst k'
      obtain ⟨w', hw'⟩ := (mem_keys_iff m k).mp ‹_›
      refine ⟨fun ⟨e, _, he⟩ => ?_, fun h => ⟨(k, w'), (get?_eq_some_iff m k w').mp hw', ?_⟩⟩
      · split at he
        · exact (Prod.mk.inj he).2.symm
        · exact absurd (congrArg Prod.fst he) ‹_›
      · simp [h]
    · refine ⟨fun ⟨e, he, h⟩ => ?_, fun h => ⟨_, h, by simp [*]⟩⟩
      split at h
      · exact absurd (congrArg Prod.fst h).symm ‹_›
      · exact h ▸ he
  · simp only [List.mem_append, List.mem_singleton, Prod.mk.injEq]
    split
    · subst k'
      exact ⟨fun h => h.elim (fun h => absurd (hfst w h) ‹_›) And.right, fun h => .inr ⟨rfl, h⟩⟩
    · simp [*]

@[simp] theorem get?_insert (m : IndexMap K V) (k k' : K) (v : V) :
    (m.insert k v).1.get? k' = if k' = k then some v else m.get? k' := by
  refine Option.ext fun w => ?_
  simp only [Option.mem_def, get?_eq_some_iff, mem_entries_insert]
  split
  · simp [eq_comm]
  · exact (get?_eq_some_iff m k' w).symm

theorem keys_insert (m : IndexMap K V) (k : K) (v : V) :
    (m.insert k v).1.keys = if k ∈ m.keys then m.keys else m.keys ++ [k] := by
  simp only [insert, keys]
  split
  · exact map_fst_replace _ _ _
  · simp

theorem mem_keys_insert (m : IndexMap K V) (k k' : K) (v : V) :
    k' ∈ (m.insert k v).1.keys ↔ k' = k ∨ k' ∈ m.keys := by
  rw [keys_insert]
  split
  · exact ⟨.inr, fun h => h.elim (· ▸ ‹_›) id⟩
  · simp [or_comm]

theorem mem_entries_swapRemove (m : IndexMap K V) (k : K) (e : K × V) :
    e ∈ (m.swapRemove k).1.entries ↔ e ∈ m.entries ∧ e.1 ≠ k := by
  unfold swapRemove
  split
  · obtain ⟨v, hv⟩ := (mem_keys_iff m k).mp ‹_›
    obtain ⟨a, b, hab⟩ := List.append_of_mem ((get?_eq_some_iff m k v).mp hv)
    have hnd := m.nodup
    rw [hab, List.map_append, List.map_cons, List.nodup_append, List.nodup_cons] at hnd
    have hka : k ∉ a.map Prod.fst := fun h => hnd.2.2 h (List.mem_cons_self _ _)
    have hkb : k ∉ b.map Prod.fst := hnd.2.1.1
    have hidx : m.keys.indexOf k = a.length := by
      simp [keys, hab, List.indexOf_append_of_not_mem hka]
    simp only [hidx, hab]
    rw [(vecSwapRemove_perm a b (k, v)).mem_iff]
    simp only [List.mem_append, List.mem_cons]
    constructor
    · rintro (h | h)
      · exact ⟨.inl h, fun he => hka (List.mem_map.mpr ⟨e, h, he⟩)⟩
      · exact ⟨.inr (.inr h), fun he => hkb (List.mem_map.mpr ⟨e, h, he⟩)⟩
    · rintro ⟨h | rfl | h, hne⟩
      · exact .inl h
      · exact absurd rfl hne
      · exact .inr h
  · exact ⟨fun h => ⟨h, fun he => ‹k ∉ m.keys› (he ▸ List.mem_map.mpr ⟨e, h, rfl⟩)⟩, And.left⟩

@[simp] theorem get?_swapRemove (m : IndexMap K V) (k k' : K) :
    (m.swapRemove k).1.get? k' = if k' = k then none else m.get? k' := by
  refine Option.ext fun w => ?_
  simp only [Option.mem_def, get?_eq_some_iff, mem_entries_swapRemove]
  split <;> simp_all [get?_eq_some_iff]

theorem mem_keys_swapRemove (m : IndexMap K V) (k k' : K) :
    k' ∈ (m.swapRemove k).1.keys ↔ k' ≠ k ∧ k' ∈ m.keys := by
  simp only [mem_keys_iff, get?_swapRemove]
  split <;> simp_all

/-- `IndexMap::retain`: keeps the entries the predicate accepts. -/
def retain (m : IndexMap K V) (p : K → V → Bool) : IndexMap K V :=
  ⟨m.entries.filter (fun e => p e.1 e.2), m.nodup.sublist ((List.filter_sublist _).map _)⟩

@[simp] theorem get?_retain (m : IndexMap K V) (p : K → V → Bool) (k : K) :
    (m.retain p).get? k = (m.get? k).filter (p k) := by
  refine Option.ext fun v => ?_
  simp only [Option.mem_def, get?_eq_some_iff, Option.filter_eq_some, retain, List.mem_filter]

end IndexMap

namespace IndexSet

variable [DecidableEq α]

/-- `IndexSet::insert`: `true` when the value was not present yet. -/
def insert (s : IndexSet α) (x : α) : IndexSet α × Bool :=
  ((IndexMap.insert s x ()).1, (s.get? x).isNone)

/-- `IndexSet::swap_remove`: `true` when the value was present. -/
def swapRemove (s : IndexSet α) (x : α) : IndexSet α × Bool :=
  ((IndexMap.swapRemove s x).1, (s.get? x).isSome)

/-- `IndexSet::contains`. -/
def contains (s : IndexSet α) (x : α) : Bool := decide (x ∈ s.keys)

@[simp] theorem mem_keys_insert (s : IndexSet α) (x y : α) :
    y ∈ (s.insert x).1.keys ↔ y = x ∨ y ∈ s.keys :=
  IndexMap.mem_keys_insert s x y ()

@[simp] theorem mem_keys_swapRemove (s : IndexSet α) (x y : α) :
    y ∈ (s.swapRemove x).1.keys ↔ y ≠ x ∧ y ∈ s.keys :=
  IndexMap.mem_keys_swapRemove s x y

theorem swapRemove_snd (s : IndexSet α) (x : α) : (s.swapRemove x).2 = s.contains x := by
  simp only [swapRemove, contains]
  rw [Bool.eq_iff_iff, decide_eq_true_iff, IndexMap.mem_keys_iff, Option.isSome_iff_exists]

end IndexSet

end MediaServer.Collections
