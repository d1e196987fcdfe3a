import Mathlib.Data.List.Basic

/-! # Memo tables

A partial table of remembered answers in front of a function. Answers whose
validity test fails are computed again. A table that only remembers current
answers stays so under every recall, and then a recall cannot be told from a
computation.
-/

namespace MultiTechBus.Library

variable {δ ρ : Type*} [DecidableEq δ]

/-- Remembered answers, one for a key, the newest first. -/
abbrev Memo (δ ρ : Type*) := List (δ × ρ)

/-- Replace what is remembered for `d`. -/
def Memo.store (memo : Memo δ ρ) (d : δ) (r : ρ) : Memo δ ρ :=
  (d, r) :: memo.filter (fun entry => entry.1 ≠ d)

/-- Answer from the table if it holds a valid answer, else compute and remember. -/
def Memo.recall (valid : ρ → Bool) (f : δ → ρ) (memo : Memo δ ρ) (d : δ) : ρ × Memo δ ρ :=
  match memo.lookup d with
  | some r => if valid r then (r, memo) else (f d, memo.store d (f d))
  | none => (f d, memo.store d (f d))

/-- Everything remembered is what `f` would compute now. -/
def Memo.Current (memo : Memo δ ρ) (f : δ → ρ) : Prop :=
  ∀ d r, (d, r) ∈ memo → r = f d

omit [DecidableEq δ] in
theorem Memo.current_nil (f : δ → ρ) : Memo.Current ([] : Memo δ ρ) f := by
  intro d r h
  simp at h

theorem Memo.Current.store {memo : Memo δ ρ} {f : δ → ρ} (h : memo.Current f) (d : δ) :
    (memo.store d (f d)).Current f := by
  intro d' r' hmem
  rcases List.mem_cons.mp hmem with heq | hmem
  · simp only [Prod.mk.injEq] at heq
    rw [heq.2, heq.1]
  · exact h d' r' (List.mem_of_mem_filter hmem)

theorem Memo.Current.lookup {memo : Memo δ ρ} {f : δ → ρ} (h : memo.Current f) {d : δ} {r : ρ}
    (hl : memo.lookup d = some r) : r = f d := by
  obtain ⟨l₁, l₂, rfl, _⟩ := List.lookup_eq_some_iff.mp hl
  exact h d r (by simp)

/-- A recall from a current table answers what `f` computes. -/
theorem Memo.Current.recall_fst {memo : Memo δ ρ} {f : δ → ρ} (h : memo.Current f)
    (valid : ρ → Bool) (d : δ) : (memo.recall valid f d).1 = f d := by
  unfold Memo.recall
  cases hl : memo.lookup d with
  | none => rfl
  | some r =>
      have hr := h.lookup hl
      simp only []
      split
      · exact hr
      · rfl

theorem Memo.Current.recall_snd {memo : Memo δ ρ} {f : δ → ρ} (h : memo.Current f)
    (valid : ρ → Bool) (d : δ) : (memo.recall valid f d).2.Current f := by
  unfold Memo.recall
  cases hl : memo.lookup d with
  | none => exact h.store d
  | some r =>
      by_cases hv : valid r
      · simpa [hv] using h
      · simpa [hv] using h.store d

end MultiTechBus.Library
