import Mathlib.Data.List.Sort
import Mathlib.Order.Defs.Unbundled
import Mathlib.Tactic.Tauto

/-! # Ranked tables

A table kept in the order of a strict order, where equally ranked entries stand
in any order. Inserting at the upper bound of the new entry keeps the table
ranked, deleting keeps it ranked, and the first entry that meets a test is a
best one among all that meet it.
-/

namespace MultiTechBus.Library

open List

variable {α : Type*} (lt : α → α → Prop)

/-- No later entry is better than an earlier one. -/
def Ranked (l : List α) : Prop := l.Pairwise fun a b => ¬ lt b a

variable {lt}

theorem ranked_nil : Ranked lt [] := List.Pairwise.nil

theorem Ranked.sublist {l l' : List α} (h : Ranked lt l) (hsub : l' <+ l) : Ranked lt l' :=
  List.Pairwise.sublist hsub h

/-- Insertion at the upper bound: before the first entry that `x` is better than. -/
theorem Ranked.orderedInsert [DecidableRel lt] [IsStrictOrder α lt] {l : List α} (x : α)
    (h : Ranked lt l) : Ranked lt (l.orderedInsert lt x) := by
  unfold Ranked at h ⊢
  induction l with
  | nil => simp
  | cons b l ih =>
      obtain ⟨hb, hl⟩ := List.pairwise_cons.mp h
      by_cases hxb : lt x b
      · rw [List.orderedInsert_cons, if_pos hxb]
        refine List.pairwise_cons.mpr ⟨?_, h⟩
        intro c hc hcx
        rcases List.mem_cons.mp hc with rfl | hc
        · exact irrefl_of lt x (trans_of lt hxb hcx)
        · exact hb c hc (trans_of lt hcx hxb)
      · rw [List.orderedInsert_cons, if_neg hxb]
        refine List.pairwise_cons.mpr ⟨?_, ih hl⟩
        intro c hc
        rcases List.mem_orderedInsert lt |>.mp hc with rfl | hc
        · exact hxb
        · exact hb c hc

/-- In a ranked table the first entry that passes a test has no better rival. -/
theorem Ranked.find_best {l : List α} (h : Ranked lt l) (hirr : ∀ a, ¬ lt a a) {p : α → Bool}
    {a : α} (hfind : l.find? p = some a) : ∀ b ∈ l, p b = true → ¬ lt b a := by
  obtain ⟨_, as, bs, rfl, hnone⟩ := List.find?_eq_some_iff_append.mp hfind
  intro b hb hpb
  rcases List.mem_append.mp hb with hb | hb
  · have hnb := hnone b hb
    simp [hpb] at hnb
  · have htail := (List.pairwise_append.mp h).2.1
    rcases List.mem_cons.mp hb with rfl | hb
    · exact hirr b
    · exact (List.pairwise_cons.mp htail).1 b hb

theorem lt_of_lt_of_not_lt [IsStrictWeakOrder α lt] {x b c : α} (hxb : lt x b) (hcb : ¬ lt c b) :
    lt x c := by
  by_contra hxc
  have hcx : ¬ lt c x := fun h => hcb (trans_of lt h hxb)
  have hbc : ¬ lt b c := fun h => hxc (trans_of lt hxb h)
  exact (IsStrictWeakOrder.incomp_trans x c b ⟨hxc, hcx⟩ ⟨hcb, hbc⟩).1 hxb

/-- Dropping a rejected new entry undoes its insertion. -/
theorem filter_orderedInsert_of_neg [DecidableRel lt] {p : α → Bool} {x : α} (hx : p x = false)
    (l : List α) : (l.orderedInsert lt x).filter p = l.filter p := by
  induction l with
  | nil => simp [hx]
  | cons b l ih =>
      rw [List.orderedInsert_cons]
      split
      · simp [List.filter_cons, hx]
      · simp [List.filter_cons, ih]

/-- A new entry that is better than none goes last. -/
theorem orderedInsert_of_forall_not_lt [DecidableRel lt] {x : α} {l : List α}
    (h : ∀ b ∈ l, ¬ lt x b) : l.orderedInsert lt x = l ++ [x] := by
  induction l with
  | nil => rfl
  | cons b l ih =>
      rw [List.orderedInsert_cons, if_neg (h b (by simp)), ih fun a ha => h a (by simp [ha])]
      rfl

private theorem orderedInsert_of_forall_lt [DecidableRel lt] {x : α} {l : List α}
    (h : ∀ b ∈ l, lt x b) : l.orderedInsert lt x = x :: l := by
  cases l with
  | nil => rfl
  | cons b l => rw [List.orderedInsert_cons, if_pos (h b (by simp))]

/-- In a ranked table, insertion commutes with dropping rejected entries. -/
theorem Ranked.filter_orderedInsert [DecidableRel lt] [IsStrictWeakOrder α lt] {l : List α}
    (h : Ranked lt l) {p : α → Bool} {x : α} (hx : p x = true) :
    (l.orderedInsert lt x).filter p = (l.filter p).orderedInsert lt x := by
  induction l with
  | nil => simp [hx]
  | cons b l ih =>
      obtain ⟨hb, hl⟩ := List.pairwise_cons.mp h
      by_cases hxb : lt x b
      · have hall : ∀ c ∈ (b :: l).filter p, lt x c := by
          intro c hc
          rcases List.mem_cons.mp (List.mem_of_mem_filter hc) with rfl | hc
          · exact hxb
          · exact lt_of_lt_of_not_lt hxb (hb c hc)
        rw [List.orderedInsert_cons, if_pos hxb, orderedInsert_of_forall_lt hall,
          List.filter_cons_of_pos hx]
      · rw [List.orderedInsert_cons, if_neg hxb]
        by_cases hpb : p b = true
        · rw [List.filter_cons_of_pos hpb, List.filter_cons_of_pos hpb, ih hl,
            List.orderedInsert_cons, if_neg hxb]
        · rw [List.filter_cons_of_neg hpb, List.filter_cons_of_neg hpb, ih hl]

/-! ## Inserting a batch -/

def insertAll (lt : α → α → Prop) [DecidableRel lt] (batch l : List α) : List α :=
  batch.foldl (fun l x => l.orderedInsert lt x) l

section Batch

variable [DecidableRel lt]

theorem mem_insertAll {batch l : List α} {a : α} :
    a ∈ insertAll lt batch l ↔ a ∈ batch ∨ a ∈ l := by
  induction batch generalizing l with
  | nil => simp [insertAll]
  | cons x batch ih =>
      have hstep := ih (l := l.orderedInsert lt x)
      simp only [insertAll, List.foldl_cons] at hstep ⊢
      rw [hstep, List.mem_orderedInsert, List.mem_cons]
      tauto

variable [IsStrictWeakOrder α lt]

theorem Ranked.insertAll {batch l : List α} (h : Ranked lt l) :
    Ranked lt (insertAll lt batch l) := by
  induction batch generalizing l with
  | nil => exact h
  | cons x batch ih => exact ih (h.orderedInsert x)

theorem Ranked.filter_insertAll {l : List α} (h : Ranked lt l) (p : α → Bool) (batch : List α) :
    (Library.insertAll lt batch l).filter p =
      Library.insertAll lt (batch.filter p) (l.filter p) := by
  induction batch generalizing l with
  | nil => rfl
  | cons x batch ih =>
      have hstep := ih (h.orderedInsert x)
      by_cases hx : p x = true
      · rw [List.filter_cons_of_pos hx]
        rw [h.filter_orderedInsert hx] at hstep
        exact hstep
      · rw [List.filter_cons_of_neg hx]
        rw [filter_orderedInsert_of_neg (by simpa using hx)] at hstep
        exact hstep

end Batch

end MultiTechBus.Library
