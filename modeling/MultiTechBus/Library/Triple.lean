import Mathlib.Logic.Basic
import Mathlib.Tactic.TypeStar

/-! # Programs with a state that may halt

A triple says what holds after a program that was started where its precondition holds, and
for what reasons it may halt. The rules follow the structure of programs.
-/

namespace MultiTechBus.Library

universe u v

variable {σ α β : Type u} {κ : Type v}

/-- Started where `P` holds, the program ends where `Q` holds of its result, or it halts for
a reason that meets `E`. -/
def Triple (P : σ → Prop) (m : StateT σ (Except κ) α) (Q : α → σ → Prop) (E : κ → Prop) : Prop :=
  ∀ s, P s →
    match m s with
    | .ok x => Q x.1 x.2
    | .error k => E k

namespace Triple

variable {P P' : σ → Prop} {Q Q' : α → σ → Prop} {R : β → σ → Prop} {E : κ → Prop}
  {m : StateT σ (Except κ) α} {f : α → StateT σ (Except κ) β}

theorem ok (h : Triple P m Q E) {s s' : σ} {a : α} (hs : P s) (hm : m s = .ok (a, s')) :
    Q a s' := by
  have hspec := h s hs
  rw [hm] at hspec
  exact hspec

theorem error (h : Triple P m Q E) {s : σ} {k : κ} (hs : P s) (hm : m s = .error k) : E k := by
  have hspec := h s hs
  rw [hm] at hspec
  exact hspec

theorem mono (h : Triple P m Q E) (hP : ∀ s, P' s → P s) (hQ : ∀ a s, Q a s → Q' a s) :
    Triple P' m Q' E := by
  intro s hs
  have hspec := h s (hP s hs)
  cases hm : m s with
  | error k => rwa [hm] at hspec
  | ok x =>
      rw [hm] at hspec
      exact hQ _ _ hspec

theorem weaken {E' : κ → Prop} (h : Triple P m Q E) (hE : ∀ k, E k → E' k) : Triple P m Q E' := by
  intro s hs
  have hspec := h s hs
  cases hm : m s with
  | error k =>
      rw [hm] at hspec
      exact hE k hspec
  | ok x => rwa [hm] at hspec

theorem pure {a : α} (h : ∀ s, P s → Q a s) :
    Triple P (Pure.pure a : StateT σ (Except κ) α) Q E := h

theorem throw {k : κ} (h : E k) : Triple P (throw k : StateT σ (Except κ) α) Q E := fun _ _ => h

theorem bind (h : Triple P m Q E) (hf : ∀ a, Triple (Q a) (f a) R E) :
    Triple P (m >>= f) R E := by
  intro s hs
  have hspec := h s hs
  have hbind : (m >>= f) s = (m s).bind fun x => f x.1 x.2 := rfl
  rw [hbind]
  cases hm : m s with
  | error k => rwa [hm] at hspec
  | ok x =>
      rw [hm] at hspec
      exact hf x.1 x.2 hspec

theorem map (h : Triple P m Q E) {g : α → β} (hg : ∀ a s, Q a s → R (g a) s) :
    Triple P (g <$> m) R E := by
  intro s hs
  have hspec := h s hs
  have hmap : (g <$> m) s = (m s).bind fun x => .ok (g x.1, x.2) := rfl
  rw [hmap]
  cases hm : m s with
  | error k => rwa [hm] at hspec
  | ok x =>
      rw [hm] at hspec
      exact hg _ _ hspec

theorem ite {c : Prop} [Decidable c] {m' : StateT σ (Except κ) α} (h : c → Triple P m Q E)
    (h' : ¬ c → Triple P m' Q E) : Triple P (if c then m else m') Q E := by
  by_cases hc : c
  · rw [if_pos hc]
    exact h hc
  · rw [if_neg hc]
    exact h' hc

theorem guard {c : Prop} [Decidable c] {k : κ} (hk : E k) {f' : StateT σ (Except κ) β}
    (h : ¬ c → Triple P f' R E) :
    Triple P (if c then (MonadExcept.throw k : StateT σ (Except κ) α) >>= f else f') R E :=
  .ite (fun _ => .bind (.throw (Q := fun _ _ => False) hk) fun _ _ hs => hs.elim) h

theorem get {f : σ → StateT σ (Except κ) β} (h : ∀ s, P s → Triple (fun s' => s' = s) (f s) R E) :
    Triple P (get >>= f) R E := fun s hs => h s hs s rfl

theorem set {s' : σ} {Q : PUnit → σ → Prop} (h : Q PUnit.unit s') :
    Triple P (set s' : StateT σ (Except κ) PUnit) Q E := fun _ _ => h

theorem modify {g : σ → σ} {Q : PUnit → σ → Prop} (h : ∀ s, P s → Q PUnit.unit (g s)) :
    Triple P (modify g : StateT σ (Except κ) PUnit) Q E := fun s hs => h s hs

theorem lift {x : Except κ α} (hok : ∀ a s, x = .ok a → P s → Q a s)
    (herror : ∀ k, x = .error k → E k) : Triple P (liftM x : StateT σ (Except κ) α) Q E := by
  intro s hs
  cases x with
  | error k => exact herror k rfl
  | ok a => exact hok a s rfl hs

/-- What every turn of a loop keeps, the loop keeps. -/
theorem forM {γ : Type u} {l : List γ} {f : γ → StateT σ (Except κ) PUnit}
    (h : ∀ a ∈ l, Triple P (f a) (fun _ => P) E) : Triple P (l.forM f) (fun _ => P) E := by
  induction l with
  | nil => exact .pure fun _ hs => hs
  | cons a l ih =>
      exact (h a List.mem_cons_self).bind fun _ => ih fun b hb => h b (List.mem_cons_of_mem _ hb)

end Triple

end MultiTechBus.Library
