import Mathlib.Data.List.Basic
import Mathlib.Data.List.Induction
import Mathlib.Tactic.TypeStar

/-! # Values on separate stretches of positions

A region holds values from an offset on, and a list of regions stands for the partial
function of its values. Regions that are in order and keep a gap between each other are
determined by that function, so what is proved of the function is proved of the list.
-/

namespace MultiTechBus.Library

/-- The values from an offset on. -/
structure Region (β : Type*) where
  offset : Nat
  data : List β
deriving DecidableEq, Repr

variable {β : Type*}

namespace Region

def endOffset (r : Region β) : Nat := r.offset + r.data.length

def get? (r : Region β) (i : Nat) : Option β :=
  if r.offset ≤ i then r.data[i - r.offset]? else none

variable {r : Region β} {i : Nat}

theorem get?_of_lt (h : i < r.offset) : r.get? i = none := if_neg (by omega)

theorem get?_of_le (h : r.endOffset ≤ i) : r.get? i = none := by
  unfold endOffset at h
  unfold get?
  split
  · exact List.getElem?_eq_none (by omega)
  · rfl

theorem get?_eq_none_iff : r.get? i = none ↔ i < r.offset ∨ r.endOffset ≤ i := by
  constructor
  · intro h
    by_contra hin
    rw [not_or, Nat.not_lt, Nat.not_le, endOffset] at hin
    rw [get?, if_pos hin.1, List.getElem?_eq_none_iff] at h
    omega
  · rintro (h | h)
    · exact get?_of_lt h
    · exact get?_of_le h

theorem get?_add (k : Nat) : r.get? (r.offset + k) = r.data[k]? := by
  rw [get?, if_pos (Nat.le_add_right _ _), Nat.add_sub_cancel_left]

theorem get?_take (o n : Nat) (l : List β) :
    (⟨o, l.take n⟩ : Region β).get? i = if i < o + n then (⟨o, l⟩ : Region β).get? i else none := by
  unfold get?
  by_cases ho : o ≤ i
  · simp only [if_pos ho]
    by_cases hn : i < o + n
    · rw [if_pos hn, List.getElem?_take_of_lt (by omega)]
    · rw [if_neg hn, List.getElem?_eq_none]
      rw [List.length_take]
      omega
  · simp only [if_neg ho, ite_self]

theorem get?_drop (o n : Nat) (l : List β) :
    (⟨o + n, l.drop n⟩ : Region β).get? i =
      if o + n ≤ i then (⟨o, l⟩ : Region β).get? i else none := by
  unfold get?
  by_cases hn : o + n ≤ i
  · have hpos : n + (i - (o + n)) = i - o := by omega
    simp only [if_pos hn, if_pos (show o ≤ i by omega), List.getElem?_drop, hpos]
  · simp only [if_neg hn]

theorem get?_append (o : Nat) (l l' : List β) :
    (⟨o, l ++ l'⟩ : Region β).get? i =
      ((⟨o, l⟩ : Region β).get? i).or ((⟨o + l.length, l'⟩ : Region β).get? i) := by
  by_cases hi : i < o + l.length
  · rw [get?_of_lt (r := ⟨o + l.length, l'⟩) hi, Option.or_none]
    unfold get?
    by_cases ho : o ≤ i
    · simp only [if_pos ho]
      exact List.getElem?_append_left (by omega)
    · simp only [if_neg ho]
  · have hle : o + l.length ≤ i := Nat.le_of_not_lt hi
    rw [get?_of_le (r := ⟨o, l⟩) hle, Option.none_or]
    unfold get?
    simp only [if_pos hle, if_pos (show o ≤ i by omega)]
    rw [List.getElem?_append_right (by omega)]
    congr 1
    omega

end Region

/-! ## Lists of regions -/

/-- The value that the regions have at a position. -/
def contents (regions : List (Region β)) (i : Nat) : Option β :=
  regions.findSome? fun r => r.get? i

/-- The regions are not empty, in order and not connected. -/
structure Canonical (regions : List (Region β)) : Prop where
  nonempty : ∀ r ∈ regions, r.data ≠ []
  apart : regions.Pairwise fun r r' => r.endOffset < r'.offset

section Contents

variable {l l' : List (Region β)} {r : Region β} {i : Nat}

@[simp] theorem contents_nil : contents ([] : List (Region β)) i = none := rfl

theorem contents_cons : contents (r :: l) i = (r.get? i).or (contents l i) := by
  unfold contents
  rw [List.findSome?_cons]
  cases r.get? i <;> rfl

theorem contents_append : contents (l ++ l') i = (contents l i).or (contents l' i) := by
  induction l with
  | nil => rfl
  | cons r l ih => rw [List.cons_append, contents_cons, contents_cons, ih, Option.or_assoc]

theorem contents_singleton : contents [r] i = r.get? i := by
  rw [contents_cons, contents_nil, Option.or_none]

theorem contents_eq_none_of_lt (h : ∀ r ∈ l, i < r.offset) : contents l i = none := by
  rw [contents, List.findSome?_eq_none_iff]
  exact fun r hr => Region.get?_of_lt (h r hr)

theorem contents_eq_none_of_le (h : ∀ r ∈ l, r.endOffset ≤ i) : contents l i = none := by
  rw [contents, List.findSome?_eq_none_iff]
  exact fun r hr => Region.get?_of_le (h r hr)

end Contents

theorem Region.offset_lt_endOffset {r : Region β} (h : r.data ≠ []) : r.offset < r.endOffset :=
  Nat.lt_add_of_pos_right (List.length_pos_iff.mpr h)

namespace Canonical

variable {l l' : List (Region β)} {r : Region β} {i : Nat}

theorem nil : Canonical ([] : List (Region β)) := ⟨nofun, .nil⟩

theorem singleton (h : r.data ≠ []) : Canonical [r] :=
  ⟨fun _ hr => List.mem_singleton.mp hr ▸ h, List.pairwise_singleton _ _⟩

theorem append_iff : Canonical (l ++ l') ↔
    Canonical l ∧ Canonical l' ∧ ∀ r ∈ l, ∀ r' ∈ l', r.endOffset < r'.offset := by
  constructor
  · rintro ⟨hne, hapart⟩
    obtain ⟨hl, hl', hcross⟩ := List.pairwise_append.mp hapart
    exact ⟨⟨fun r hr => hne r (List.mem_append_left _ hr), hl⟩,
      ⟨fun r hr => hne r (List.mem_append_right _ hr), hl'⟩, hcross⟩
  · rintro ⟨hl, hl', hcross⟩
    refine ⟨fun r hr => ?_, List.pairwise_append.mpr ⟨hl.apart, hl'.apart, hcross⟩⟩
    rcases List.mem_append.mp hr with h | h
    · exact hl.nonempty r h
    · exact hl'.nonempty r h

theorem cons_iff : Canonical (r :: l) ↔
    r.data ≠ [] ∧ Canonical l ∧ ∀ r' ∈ l, r.endOffset < r'.offset := by
  constructor
  · rintro ⟨hne, hapart⟩
    obtain ⟨hcross, hl⟩ := List.pairwise_cons.mp hapart
    exact ⟨hne r List.mem_cons_self, ⟨fun r' hr' => hne r' (List.mem_cons_of_mem _ hr'), hl⟩,
      hcross⟩
  · rintro ⟨hr, hl, hcross⟩
    exact ⟨List.forall_mem_cons.mpr ⟨hr, hl.nonempty⟩, List.pairwise_cons.mpr ⟨hcross, hl.apart⟩⟩

/-- The regions begin where their first one does. -/
theorem contents_of_lt (h : Canonical (r :: l)) (hi : i < r.offset) :
    contents (r :: l) i = none := by
  obtain ⟨hne, -, hcross⟩ := cons_iff.mp h
  have hpos := Region.offset_lt_endOffset hne
  apply contents_eq_none_of_lt
  intro r' hr'
  rcases List.mem_cons.mp hr' with rfl | hmem
  · exact hi
  · have := hcross r' hmem
    omega

theorem contents_tail (h : Canonical (r :: l)) :
    contents l i = if i ≤ r.endOffset then none else contents (r :: l) i := by
  obtain ⟨-, -, hcross⟩ := cons_iff.mp h
  split
  · exact contents_eq_none_of_lt fun r' hr' => by have := hcross r' hr'; omega
  · rw [contents_cons, Region.get?_of_le (by omega), Option.none_or]

theorem contents_head (h : Canonical (r :: l)) (hi : i ≤ r.endOffset) :
    contents (r :: l) i = r.get? i := by
  rw [contents_cons, h.contents_tail, if_pos hi, Option.or_none]

private theorem offset_le (h : Canonical (r :: l)) {r' : Region β} (h' : Canonical (r' :: l'))
    (heq : contents (r :: l) = contents (r' :: l')) : r'.offset ≤ r.offset := by
  by_contra hlt
  have hnone := h'.contents_of_lt (Nat.lt_of_not_le hlt)
  have hpos := Region.offset_lt_endOffset (cons_iff.mp h).1
  rw [← heq, h.contents_head (by omega), Region.get?_eq_none_iff] at hnone
  omega

private theorem endOffset_le (h : Canonical (r :: l)) {r' : Region β} (h' : Canonical (r' :: l'))
    (heq : contents (r :: l) = contents (r' :: l')) (hoffset : r.offset = r'.offset) :
    r'.endOffset ≤ r.endOffset := by
  by_contra hlt
  have hpos := Region.offset_lt_endOffset (cons_iff.mp h).1
  have hnone : contents (r :: l) r.endOffset = none := by
    rw [h.contents_head (Nat.le_refl _), Region.get?_of_le (Nat.le_refl _)]
  rw [heq, h'.contents_head (by omega), Region.get?_eq_none_iff] at hnone
  omega

private theorem head_eq (h : Canonical (r :: l)) {r' : Region β} (h' : Canonical (r' :: l'))
    (heq : contents (r :: l) = contents (r' :: l')) : r = r' := by
  have hoffset : r.offset = r'.offset := Nat.le_antisymm (offset_le h' h heq.symm) (offset_le h h' heq)
  have hend : r.endOffset = r'.endOffset :=
    Nat.le_antisymm (endOffset_le h' h heq.symm hoffset.symm) (endOffset_le h h' heq hoffset)
  have hdata : r.data = r'.data := by
    apply List.ext_getElem?
    intro k
    have hlength : r.data.length = r'.data.length := by
      unfold Region.endOffset at hend
      omega
    by_cases hk : k < r.data.length
    · have hvalue := congrFun heq (r.offset + k)
      rw [h.contents_head (by unfold Region.endOffset; omega), Region.get?_add, hoffset,
        h'.contents_head (by unfold Region.endOffset; omega), Region.get?_add] at hvalue
      exact hvalue
    · rw [List.getElem?_eq_none (by omega), List.getElem?_eq_none (by omega)]
  cases r
  cases r'
  exact congrArg₂ Region.mk hoffset hdata

/-- Regions in order with gaps between them are determined by their values. -/
theorem eq_of_contents (h : Canonical l) (h' : Canonical l') (heq : contents l = contents l') :
    l = l' := by
  have hsome : ∀ {r : Region β} {l : List (Region β)}, Canonical (r :: l) →
      contents (r :: l) ≠ contents [] := by
    intro r l h hempty
    have hpos := Region.offset_lt_endOffset (cons_iff.mp h).1
    have hnone := congrFun hempty r.offset
    rw [h.contents_head (by omega), contents_nil, Region.get?_eq_none_iff] at hnone
    omega
  induction l generalizing l' with
  | nil =>
      cases l' with
      | nil => rfl
      | cons r' l' => exact absurd heq.symm (hsome h')
  | cons r l ih =>
      cases l' with
      | nil => exact absurd heq (hsome h)
      | cons r' l' =>
          obtain rfl := head_eq h h' heq
          have htail : contents l = contents l' := by
            funext i
            rw [h.contents_tail, h'.contents_tail, heq]
          rw [ih (cons_iff.mp h).2.1 (cons_iff.mp h').2.1 htail]

end Canonical

/-! ## Writing and erasing -/

/-- Values written over what is there. -/
def overwrite (f : Nat → Option β) (r : Region β) : Nat → Option β := fun i => (r.get? i).or (f i)

def erase (f : Nat → Option β) (start stop : Nat) : Nat → Option β := fun i =>
  if start ≤ i ∧ i < stop then none else f i

/-- What is erased before it is overwritten makes no difference. -/
theorem overwrite_erase (f : Nat → Option β) (r : Region β) :
    overwrite (erase f r.offset r.endOffset) r = overwrite f r := by
  funext i
  unfold overwrite erase
  by_cases hi : r.offset ≤ i ∧ i < r.endOffset
  · cases h : r.get? i with
    | some v => rfl
    | none =>
        rw [Region.get?_eq_none_iff] at h
        omega
  · rw [if_neg hi]

/-! ## Pieces of a whole -/

/-- The positions that some region has. -/
def Covered (l : List (Region β)) (i : Nat) : Prop := ∃ r ∈ l, r.offset ≤ i ∧ i < r.endOffset

instance (l : List (Region β)) (i : Nat) : Decidable (Covered l i) :=
  inferInstanceAs (Decidable (∃ r ∈ l, r.offset ≤ i ∧ i < r.endOffset))

theorem covered_append {l l' : List (Region β)} {i : Nat} :
    Covered (l ++ l') i ↔ Covered l i ∨ Covered l' i := by
  unfold Covered
  simp only [List.mem_append, or_and_right, exists_or]

theorem covered_singleton {r : Region β} {i : Nat} :
    Covered [r] i ↔ r.offset ≤ i ∧ i < r.endOffset := by
  simp [Covered]

theorem Covered.mono {l l' : List (Region β)} {i : Nat} (h : Covered l i) (hsub : l ⊆ l') :
    Covered l' i := by
  obtain ⟨r, hr, hi⟩ := h
  exact ⟨r, hsub hr, hi⟩

/-- The region says nothing else than `f`. -/
def Region.Within (r : Region β) (f : Nat → Option β) : Prop :=
  ∀ i v, r.get? i = some v → f i = some v

theorem Region.Within.get?_eq {r : Region β} {f : Nat → Option β} (h : r.Within f) {i : Nat}
    (hstart : r.offset ≤ i) (hend : i < r.endOffset) : r.get? i = f i := by
  cases hget : r.get? i with
  | some v => exact (h i v hget).symm
  | none =>
      rw [Region.get?_eq_none_iff] at hget
      omega

/-- Pieces of one whole, however they overlap and in whatever order they are written, leave
the whole at the positions that they cover. -/
theorem foldl_overwrite_of_within {f : Nat → Option β} {l : List (Region β)}
    (h : ∀ r ∈ l, r.Within f) (i : Nat) :
    l.foldl overwrite (fun _ => none) i = if Covered l i then f i else none := by
  induction l using List.reverseRecOn with
  | nil => simp [Covered]
  | append_singleton l r ih =>
      rw [List.foldl_append, List.foldl_cons, List.foldl_nil, overwrite,
        ih fun r' hr' => h r' (List.mem_append_left _ hr')]
      have hr : r.Within f := h r (List.mem_append_right _ List.mem_cons_self)
      by_cases hin : r.offset ≤ i ∧ i < r.endOffset
      · rw [if_pos (covered_append.mpr (.inr (covered_singleton.mpr hin))),
          hr.get?_eq hin.1 hin.2]
        split
        · exact Option.or_self
        · exact Option.or_none
      · have hnone : r.get? i = none := by
          rw [Region.get?_eq_none_iff]
          omega
        have hcovered : Covered (l ++ [r]) i ↔ Covered l i := by
          rw [covered_append, covered_singleton]
          exact or_iff_left hin
        simp only [hnone, Option.none_or, hcovered]

end MultiTechBus.Library
