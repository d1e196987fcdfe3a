import Mathlib.Data.List.Sort
import Mathlib.Order.Lattice
import Mathlib.Tactic.TypeStar

/-! # Maps kept in the order of their keys

A finite map is the list of its entries in increasing order of the keys, so walking it
meets the keys in order. A map is determined by its search function.
-/

namespace MultiTechBus.Library

/-- Machine words are ordered as numbers. -/
instance instLinearOrderBitVec {w : Nat} : LinearOrder (BitVec w) where
  le_refl := fun x => Nat.le_refl x.toNat
  le_trans := fun _ _ _ h h' => Nat.le_trans h h'
  lt_iff_le_not_ge := fun _ _ => Nat.lt_iff_le_and_not_ge
  le_antisymm := fun _ _ h h' => BitVec.eq_of_toNat_eq (Nat.le_antisymm h h')
  le_total := fun x y => Nat.le_total x.toNat y.toNat
  toDecidableLE := inferInstance
  toDecidableLT := inferInstance
  toDecidableEq := inferInstance

structure OrderedMap (κ ν : Type*) [LinearOrder κ] where
  entries : List (κ × ν) := []
  sorted : entries.Pairwise fun e e' => e.1 < e'.1 := by exact .nil

namespace OrderedMap

variable {κ ν : Type*} [LinearOrder κ]

instance : EmptyCollection (OrderedMap κ ν) := ⟨{}⟩

instance [DecidableEq ν] : DecidableEq (OrderedMap κ ν) := fun m m' =>
  decidable_of_iff (m.entries = m'.entries)
    ⟨fun h => by cases m; cases m'; cases h; rfl, fun h => h ▸ rfl⟩

def find? (m : OrderedMap κ ν) (k : κ) : Option ν :=
  (m.entries.find? fun e => e.1 = k).map Prod.snd

def insert (m : OrderedMap κ ν) (k : κ) (v : ν) : OrderedMap κ ν where
  entries := m.entries.filter (fun e => e.1 < k) ++ (k, v) :: m.entries.filter fun e => k < e.1
  sorted := by
    refine List.pairwise_append.mpr ⟨m.sorted.filter _, ?_, ?_⟩
    · refine List.pairwise_cons.mpr ⟨fun e he => ?_, m.sorted.filter _⟩
      simpa using (List.mem_filter.mp he).2
    · intro e he e' he'
      have hlt : e.1 < k := by simpa using (List.mem_filter.mp he).2
      rcases List.mem_cons.mp he' with rfl | hmem
      · exact hlt
      · exact hlt.trans (by simpa using (List.mem_filter.mp hmem).2)

def filter (m : OrderedMap κ ν) (p : κ → ν → Bool) : OrderedMap κ ν where
  entries := m.entries.filter fun e => p e.1 e.2
  sorted := m.sorted.filter _

def erase (m : OrderedMap κ ν) (k : κ) : OrderedMap κ ν := m.filter fun k' _ => k' ≠ k

variable {m : OrderedMap κ ν} {k k' : κ} {v : ν}

theorem nodup_keys (m : OrderedMap κ ν) : (m.entries.map Prod.fst).Nodup :=
  List.pairwise_map.mpr (m.sorted.imp fun h => h.ne)

theorem find?_eq_some_iff : m.find? k = some v ↔ (k, v) ∈ m.entries := by
  unfold find?
  rw [Option.map_eq_some_iff]
  constructor
  · rintro ⟨e, he, rfl⟩
    have hkey : e.1 = k := by simpa using List.find?_some he
    exact hkey ▸ List.mem_of_find?_eq_some he
  · intro hmem
    cases hfind : m.entries.find? fun e => decide (e.1 = k) with
    | none =>
        have hnone := List.find?_eq_none.mp hfind (k, v) hmem
        simp at hnone
    | some e =>
        have hkey : e.1 = k := by simpa using List.find?_some hfind
        have heq := List.inj_on_of_nodup_map m.nodup_keys (List.mem_of_find?_eq_some hfind) hmem hkey
        exact ⟨e, rfl, congrArg Prod.snd heq⟩

@[simp] theorem find?_empty : (∅ : OrderedMap κ ν).find? k = none := rfl

@[simp] theorem find?_insert_self : (m.insert k v).find? k = some v := by
  rw [find?_eq_some_iff]
  exact List.mem_append_right _ List.mem_cons_self

@[simp] theorem find?_insert_ne (h : k' ≠ k) : (m.insert k v).find? k' = m.find? k' := by
  apply Option.ext
  intro w
  rw [find?_eq_some_iff, find?_eq_some_iff]
  unfold insert
  simp only [List.mem_append, List.mem_cons, List.mem_filter, decide_eq_true_eq, Prod.mk.injEq]
  constructor
  · rintro (⟨hmem, -⟩ | ⟨heq, -⟩ | ⟨hmem, -⟩)
    · exact hmem
    · exact absurd heq h
    · exact hmem
  · intro hmem
    rcases lt_or_gt_of_ne h with hlt | hgt
    · exact .inl ⟨hmem, hlt⟩
    · exact .inr (.inr ⟨hmem, hgt⟩)

theorem find?_insert : (m.insert k v).find? k' = if k' = k then some v else m.find? k' := by
  split
  · rename_i h
    rw [h, find?_insert_self]
  · rename_i h
    exact find?_insert_ne h

theorem find?_filter (p : κ → ν → Bool) : (m.filter p).find? k = (m.find? k).filter (p k) := by
  apply Option.ext
  intro w
  rw [find?_eq_some_iff, Option.filter_eq_some_iff, find?_eq_some_iff]
  unfold filter
  simp only [List.mem_filter]

theorem find?_erase : (m.erase k).find? k' = if k' = k then none else m.find? k' := by
  unfold erase
  rw [find?_filter]
  cases m.find? k' with
  | none => simp
  | some v => by_cases h : k' = k <;> simp [Option.filter, h]

theorem entries_erase_head {e : κ × ν} {rest : List (κ × ν)} (h : m.entries = e :: rest) :
    (m.erase e.1).entries = rest := by
  have hsorted := m.sorted
  rw [h] at hsorted
  show m.entries.filter (fun e' => decide (e'.1 ≠ e.1)) = rest
  rw [h, List.filter_cons_of_neg (by simp), List.filter_eq_self]
  exact fun e' he' => decide_eq_true ((List.pairwise_cons.mp hsorted).1 e' he').ne'

theorem ext_find? {m' : OrderedMap κ ν} (h : ∀ k, m.find? k = m'.find? k) : m = m' := by
  have hmem : ∀ e, e ∈ m.entries ↔ e ∈ m'.entries := by
    rintro ⟨k, v⟩
    rw [← find?_eq_some_iff, ← find?_eq_some_iff, h]
  have hperm := (List.perm_ext_iff_of_nodup m.nodup_keys.of_map m'.nodup_keys.of_map).mpr hmem
  have hentries : m.entries = m'.entries :=
    hperm.eq_of_pairwise (fun _ _ _ _ h h' => absurd h h'.not_gt) m.sorted m'.sorted
  cases m
  cases m'
  cases hentries
  rfl

theorem filter_insert_of_pos {p : κ → Bool} (h : p k = true) :
    (m.insert k v).filter (fun k' _ => p k') = (m.filter fun k' _ => p k').insert k v := by
  apply ext_find?
  intro k'
  rw [find?_filter, find?_insert, find?_insert, find?_filter]
  split
  · rename_i heq
    rw [heq, Option.filter_some, if_pos h]
  · rfl

theorem filter_insert_of_neg {p : κ → Bool} (h : p k = false) :
    (m.insert k v).filter (fun k' _ => p k') = m.filter fun k' _ => p k' := by
  apply ext_find?
  intro k'
  rw [find?_filter, find?_insert, find?_filter]
  split
  · rename_i heq
    rw [heq, Option.filter_some, h, if_neg Bool.false_ne_true]
    cases m.find? k with
    | none => rfl
    | some w => rw [Option.filter_some, if_neg Bool.false_ne_true]
  · rfl

theorem filter_erase {p : κ → Bool} :
    (m.erase k).filter (fun k' _ => p k') = (m.filter fun k' _ => p k').erase k := by
  apply ext_find?
  intro k'
  rw [find?_filter, find?_erase, find?_erase, find?_filter]
  split
  · rfl
  · rfl

theorem filter_erase_of_neg {p : κ → Bool} (h : p k = false) :
    (m.erase k).filter (fun k' _ => p k') = m.filter fun k' _ => p k' := by
  apply ext_find?
  intro k'
  rw [find?_filter, find?_erase, find?_filter]
  split
  · rename_i heq
    rw [heq]
    cases m.find? k with
    | none => rfl
    | some w => rw [Option.filter_some, h, if_neg Bool.false_ne_true, Option.filter_none]
  · rfl

end OrderedMap

end MultiTechBus.Library
