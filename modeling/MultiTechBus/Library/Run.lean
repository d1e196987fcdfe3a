import Mathlib.Logic.Basic
import Mathlib.Tactic.TypeStar

/-! # Runs of a labelled machine that may halt

A machine answers an event with a next state or with a reason to halt. A run
feeds it a finite list of events. The rules below carry a predicate along a
run, either unconditionally or under a side condition that every executed step
meets, so that a claim about runs needs one statement about a step.
-/

namespace MultiTechBus.Library

variable {σ ε κ : Type*}

/-- Feed the events in order, stopping at the first halt. -/
def run (step : σ → ε → Except κ σ) : σ → List ε → Except κ σ
  | s, [] => .ok s
  | s, e :: es =>
      match step s e with
      | .error k => .error k
      | .ok s' => run step s' es

/-- Every step that the run executes meets `guard` in the state it starts from. -/
def Along (step : σ → ε → Except κ σ) (guard : σ → ε → Prop) : σ → List ε → Prop
  | _, [] => True
  | s, e :: es => guard s e ∧ ∀ s', step s e = .ok s' → Along step guard s' es

theorem map_ok_inv {α β : Type*} {x : Except κ α} {f : α → β} {b : β} (h : x.map f = .ok b) :
    ∃ a, x = .ok a ∧ f a = b := by
  cases x with
  | error k => cases h
  | ok a => exact ⟨a, rfl, Except.ok.inj h⟩

/-- A completed sequence of two computations splits between them. -/
theorem bind_ok_inv {α β : Type*} {x : Except κ α} {f : α → Except κ β} {b : β}
    (h : x.bind f = .ok b) : ∃ a, x = .ok a ∧ f a = .ok b := by
  cases x with
  | error k => cases h
  | ok a => exact ⟨a, rfl, h⟩

section Runs

variable {step : σ → ε → Except κ σ}

@[simp] theorem run_nil (s : σ) : run step s [] = .ok s := rfl

theorem run_cons_ok {s s' : σ} {e : ε} (es : List ε) (h : step s e = .ok s') :
    run step s (e :: es) = run step s' es := by
  simp [run, h]

theorem run_cons_error {s : σ} {e : ε} {k : κ} (es : List ε) (h : step s e = .error k) :
    run step s (e :: es) = .error k := by
  simp [run, h]

theorem run_cons_inv {s t : σ} {e : ε} {es : List ε} (h : run step s (e :: es) = .ok t) :
    ∃ s', step s e = .ok s' ∧ run step s' es = .ok t := by
  unfold run at h
  cases hs : step s e with
  | error k => simp [hs] at h
  | ok s' => exact ⟨s', rfl, by simpa [hs] using h⟩

theorem run_append_inv {s t : σ} {es fs : List ε} (h : run step s (es ++ fs) = .ok t) :
    ∃ m, run step s es = .ok m ∧ run step m fs = .ok t := by
  induction es generalizing s with
  | nil => exact ⟨s, rfl, h⟩
  | cons e es ih =>
      obtain ⟨s', hs, hrest⟩ := run_cons_inv h
      obtain ⟨m, hm, hfs⟩ := ih hrest
      exact ⟨m, by rw [run_cons_ok es hs, hm], hfs⟩

theorem run_append {s m : σ} {es : List ε} (fs : List ε) (h : run step s es = .ok m) :
    run step s (es ++ fs) = run step m fs := by
  induction es generalizing s with
  | nil => simp only [run_nil, Except.ok.injEq] at h; rw [List.nil_append, h]
  | cons e es ih =>
      obtain ⟨s', hs, hrest⟩ := run_cons_inv h
      rw [List.cons_append, run_cons_ok _ hs, ih hrest]

/-- The step rule for runs: what every guarded step preserves, every guarded
run preserves. -/
theorem run_invariant {guard : σ → ε → Prop} {I : σ → Prop}
    (hstep : ∀ s e s', I s → guard s e → step s e = .ok s' → I s')
    {s t : σ} {es : List ε} (hs : I s) (halong : Along step guard s es)
    (h : run step s es = .ok t) : I t := by
  induction es generalizing s with
  | nil =>
      simp only [run_nil, Except.ok.injEq] at h
      exact h ▸ hs
  | cons e es ih =>
      obtain ⟨s', hs', hrest⟩ := run_cons_inv h
      exact ih (hstep s e s' hs halong.1 hs') (halong.2 s' hs') hrest

/-- A reason to halt that no guarded step gives from an invariant state is
never the outcome of a guarded run. -/
theorem run_never_halts {guard : σ → ε → Prop} {I : σ → Prop} {B : κ → Prop}
    (hstep : ∀ s e s', I s → guard s e → step s e = .ok s' → I s')
    (hsafe : ∀ s e k, I s → guard s e → step s e = .error k → ¬ B k)
    {s : σ} {es : List ε} {k : κ} (hs : I s) (halong : Along step guard s es)
    (h : run step s es = .error k) : ¬ B k := by
  induction es generalizing s with
  | nil => simp at h
  | cons e es ih =>
      cases hs' : step s e with
      | error k' =>
          rw [run_cons_error es hs', Except.error.injEq] at h
          exact h ▸ hsafe s e k' hs halong.1 hs'
      | ok s' =>
          rw [run_cons_ok es hs'] at h
          exact ih (hstep s e s' hs halong.1 hs') (halong.2 s' hs') h

theorem Along.mono {guard guard' : σ → ε → Prop}
    (hle : ∀ s e, guard s e → guard' s e) {s : σ} {es : List ε}
    (h : Along step guard s es) : Along step guard' s es := by
  induction es generalizing s with
  | nil => trivial
  | cons e es ih => exact ⟨hle s e h.1, fun s' hs' => ih (h.2 s' hs')⟩

theorem along_trivial {guard : σ → ε → Prop} (hall : ∀ s e, guard s e) (s : σ) (es : List ε) :
    Along step guard s es := by
  induction es generalizing s with
  | nil => trivial
  | cons e es ih => exact ⟨hall s e, fun s' _ => ih s'⟩

/-- A function of the states that commutes with the steps commutes with the runs. -/
theorem run_map {τ : Type*} {step' : τ → ε → Except κ τ} {f : σ → τ}
    (h : ∀ s e, step' (f s) e = (step s e).map f) (s : σ) (es : List ε) :
    run step' (f s) es = (run step s es).map f := by
  induction es generalizing s with
  | nil => rfl
  | cons e es ih =>
      unfold run
      rw [h]
      cases step s e with
      | error k => rfl
      | ok s' => exact ih s'

/-- A computed fact about the state that a run ends in. -/
theorem exists_of_run_map {α : Type*} {s : σ} {es : List ε} {f : σ → α} {a : α}
    (h : (run step s es).toOption.map f = some a) : ∃ t, run step s es = .ok t ∧ f t = a := by
  cases hrun : run step s es with
  | error k =>
      rw [hrun] at h
      cases h
  | ok t =>
      rw [hrun] at h
      exact ⟨t, rfl, Option.some.inj h⟩

theorem along_of_forall_mem {guard : σ → ε → Prop} {es : List ε} (h : ∀ e ∈ es, ∀ s, guard s e)
    (s : σ) : Along step guard s es := by
  induction es generalizing s with
  | nil => trivial
  | cons e es ih =>
      exact ⟨h e (by simp) s, fun s' _ => ih (fun e' he' => h e' (by simp [he'])) s'⟩

/-- Whether a guard is met along a run can be computed by running. -/
instance decidableAlong {guard : σ → ε → Prop} [∀ s e, Decidable (guard s e)] (s : σ) :
    ∀ es, Decidable (Along step guard s es)
  | [] => .isTrue trivial
  | e :: es =>
      match h : step s e with
      | .error k => decidable_of_iff (guard s e) ⟨fun hg => ⟨hg, by simp [h]⟩, fun hg => hg.1⟩
      | .ok s' =>
          have : Decidable (Along step guard s' es) := decidableAlong s' es
          decidable_of_iff (guard s e ∧ Along step guard s' es)
            ⟨fun hg => ⟨hg.1, fun t ht => by rw [h] at ht; exact Except.ok.inj ht ▸ hg.2⟩,
              fun hg => ⟨hg.1, hg.2 s' h⟩⟩

end Runs

end MultiTechBus.Library
