import Mathlib.Data.List.Basic

/-! # Lists searched by a key

Entries are found and updated through the first one that carries a key, as a
pointer returned by a linear search would. The lemmas say what such an update
does to every later search.
-/

namespace MultiTechBus.Library

variable {α κ : Type*} [DecidableEq κ] (key : α → κ)

def lookupKey (k : κ) (l : List α) : Option α := l.find? fun a => key a = k

def updateKey (k : κ) (f : α → α) : List α → List α
  | [] => []
  | a :: l => if key a = k then f a :: l else a :: updateKey k f l

variable {key}

@[simp] theorem lookupKey_nil (k : κ) : lookupKey key k [] = none := rfl

theorem lookupKey_key {k : κ} {l : List α} {a : α} (h : lookupKey key k l = some a) :
    key a = k := by
  simpa using List.find?_some h

theorem lookupKey_cons (k : κ) (a : α) (l : List α) :
    lookupKey key k (a :: l) = if key a = k then some a else lookupKey key k l := by
  unfold lookupKey
  by_cases h : key a = k <;> simp [h]

theorem lookupKey_append (k : κ) (l l' : List α) :
    lookupKey key k (l ++ l') = (lookupKey key k l).or (lookupKey key k l') := by
  simp [lookupKey, List.find?_append]

theorem lookupKey_updateKey_self {k : κ} {f : α → α} (hf : ∀ a, key a = k → key (f a) = k)
    (l : List α) : lookupKey key k (updateKey key k f l) = (lookupKey key k l).map f := by
  induction l with
  | nil => rfl
  | cons a l ih =>
      by_cases h : key a = k
      · simp [updateKey, h, lookupKey_cons, hf a h]
      · simp [updateKey, h, lookupKey_cons, ih]

theorem lookupKey_updateKey_ne {k k' : κ} {f : α → α} (hf : ∀ a, key a = k → key (f a) = k)
    (hne : k' ≠ k) (l : List α) :
    lookupKey key k' (updateKey key k f l) = lookupKey key k' l := by
  induction l with
  | nil => rfl
  | cons a l ih =>
      by_cases h : key a = k
      · simp [updateKey, h, lookupKey_cons, hf a h, Ne.symm hne]
      · simp [updateKey, h, lookupKey_cons, ih]

theorem map_updateKey {k : κ} {f : α → α} (hf : ∀ a, key a = k → key (f a) = k) (l : List α) :
    (updateKey key k f l).map key = l.map key := by
  induction l with
  | nil => rfl
  | cons a l ih =>
      by_cases h : key a = k
      · simp [updateKey, h, hf a h]
      · simp [updateKey, h, ih]

theorem lookupKey_eq_none_iff {k : κ} {l : List α} :
    lookupKey key k l = none ↔ k ∉ l.map key := by
  unfold lookupKey
  rw [List.find?_eq_none, List.mem_map]
  simp

theorem lookupKey_of_mem {l : List α} {a : α} (hl : (l.map key).Nodup) (ha : a ∈ l) :
    lookupKey key (key a) l = some a := by
  induction l with
  | nil => cases ha
  | cons b l ih =>
      rw [List.map_cons, List.nodup_cons] at hl
      rw [lookupKey_cons]
      cases List.mem_cons.mp ha with
      | inl heq => rw [heq, if_pos rfl]
      | inr hmem =>
          have hne : key b ≠ key a := fun h => hl.1 (h ▸ List.mem_map_of_mem hmem)
          rw [if_neg hne, ih hl.2 hmem]

end MultiTechBus.Library
