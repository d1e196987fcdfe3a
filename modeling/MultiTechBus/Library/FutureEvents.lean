import Mathlib.Data.List.Perm.Basic
import Mathlib.Tactic.TypeStar

/-! # A future event set

Messages wait under a kind for their time. A program schedules messages and cancels the
newest one of a kind, and may begin a new epoch, which messages from before can be told
by. The lemmas count the messages of each kind.
-/

namespace MultiTechBus.Library

/-- A scheduled message, with the epoch in which it was scheduled. -/
structure Message (κ : Type*) where
  kind : κ
  epoch : Nat
  due : Nat
deriving DecidableEq, Repr

structure FutureEvents (κ : Type*) where
  now : Nat := 0
  epoch : Nat := 0
  /-- The newest first. -/
  messages : List (Message κ) := []
deriving DecidableEq, Repr

/-- What a program does to a future event set. -/
inductive QueueOp (κ : Type*)
  | schedule (delay : Nat) (kind : κ)
  | cancel (kind : κ)
  | newEpoch
deriving DecidableEq, Repr

theorem countP_eraseIdx {α : Type*} {l : List α} {i : Nat} {a : α} (p : α → Bool)
    (ha : l[i]? = some a) : (l.eraseIdx i).countP p + (if p a then 1 else 0) = l.countP p := by
  obtain ⟨hi, rfl⟩ := List.getElem?_eq_some_iff.mp ha
  have hcount := (List.getElem_cons_eraseIdx_perm hi).countP_eq p
  rwa [List.countP_cons] at hcount

namespace FutureEvents

variable {κ : Type*} [DecidableEq κ]

def apply (q : FutureEvents κ) : QueueOp κ → FutureEvents κ
  | .schedule delay kind => { q with messages := ⟨kind, q.epoch, q.now + delay⟩ :: q.messages }
  | .cancel kind => { q with messages := q.messages.eraseP fun s => s.kind = kind }
  | .newEpoch => { q with epoch := q.epoch + 1 }

def applyAll (q : FutureEvents κ) (ops : List (QueueOp κ)) : FutureEvents κ := ops.foldl apply q

/-- The message at position `i` leaves the set. -/
def remove (q : FutureEvents κ) (i : Nat) : FutureEvents κ :=
  { q with messages := q.messages.eraseIdx i }

def count (q : FutureEvents κ) (kind : κ) : Nat := q.messages.countP fun s => s.kind = kind

variable (q : FutureEvents κ) {k : κ}

@[simp] theorem applyAll_nil : q.applyAll [] = q := rfl

@[simp] theorem applyAll_cons (op : QueueOp κ) (ops : List (QueueOp κ)) :
    q.applyAll (op :: ops) = (q.apply op).applyAll ops := rfl

theorem applyAll_append (ops ops' : List (QueueOp κ)) :
    q.applyAll (ops ++ ops') = (q.applyAll ops).applyAll ops' := List.foldl_append

/-! ## Counting -/

@[simp] theorem count_schedule (delay : Nat) (kind : κ) :
    (q.apply (.schedule delay kind)).count k = q.count k + if k = kind then 1 else 0 := by
  simp [count, apply, List.countP_cons, eq_comm]

@[simp] theorem count_newEpoch : (q.apply .newEpoch).count k = q.count k := rfl

private theorem countP_eraseP (kind : κ) (l : List (Message κ)) :
    (l.eraseP fun s => s.kind = kind).countP (fun s => s.kind = k) =
      l.countP (fun s => s.kind = k) - if k = kind then 1 else 0 := by
  induction l with
  | nil => simp
  | cons s l ih =>
      by_cases hs : s.kind = kind
      · rw [List.eraseP_cons_of_pos (by simpa using hs), List.countP_cons]
        by_cases hk : k = kind
        · simp [hs, hk]
        · have hne : s.kind ≠ k := fun h => hk (h.symm.trans hs)
          simp [hne, hk]
      · rw [List.eraseP_cons_of_neg (by simpa using hs), List.countP_cons, List.countP_cons, ih]
        by_cases hk : k = kind
        · have hne : s.kind ≠ k := fun h => hs (h.trans hk)
          simp [hne]
        · simp [hk]

@[simp] theorem count_cancel (kind : κ) :
    (q.apply (.cancel kind)).count k = q.count k - if k = kind then 1 else 0 :=
  countP_eraseP kind q.messages

theorem count_remove {i : Nat} {s : Message κ} (hs : q.messages[i]? = some s) :
    (q.remove i).count k + (if k = s.kind then 1 else 0) = q.count k := by
  have hcount := countP_eraseIdx (fun s => s.kind = k) hs
  simpa [count, remove, eq_comm] using hcount

theorem count_eq_zero_iff : q.count k = 0 ↔ ∀ s ∈ q.messages, s.kind ≠ k := by
  simp [count, List.countP_eq_zero]

/-! ## Where messages come from -/

@[simp] theorem now_apply (op : QueueOp κ) : (q.apply op).now = q.now := by
  cases op <;> rfl

@[simp] theorem now_applyAll (ops : List (QueueOp κ)) : (q.applyAll ops).now = q.now := by
  induction ops generalizing q with
  | nil => rfl
  | cons op ops ih => rw [applyAll_cons, ih, now_apply]

theorem mem_applyAll {ops : List (QueueOp κ)} {s : Message κ}
    (hs : s ∈ (q.applyAll ops).messages) :
    s ∈ q.messages ∨ ∃ delay, .schedule delay s.kind ∈ ops ∧ s.due = q.now + delay := by
  induction ops generalizing q with
  | nil => exact .inl hs
  | cons op ops ih =>
      rw [applyAll_cons] at hs
      cases ih _ hs with
      | inl hmem =>
          cases op with
          | schedule delay kind =>
              cases List.mem_cons.mp hmem with
              | inl heq => exact .inr ⟨delay, by simp [heq], by simp [heq]⟩
              | inr hold => exact .inl hold
          | cancel kind => exact .inl (List.mem_of_mem_eraseP hmem)
          | newEpoch => exact .inl hmem
      | inr hnew =>
          obtain ⟨delay, hop, hdue⟩ := hnew
          exact .inr ⟨delay, List.mem_cons_of_mem _ hop, by rw [hdue, now_apply]⟩

/-- The messages of these kinds belong to the current epoch. -/
def Current (q : FutureEvents κ) (P : κ → Prop) : Prop :=
  ∀ s ∈ q.messages, P s.kind → s.epoch = q.epoch

/-- As long as no epoch begins, no message gets out of date. -/
theorem Current.applyAll {q : FutureEvents κ} {P : κ → Prop} {ops : List (QueueOp κ)}
    (h : q.Current P) (hops : .newEpoch ∉ ops) : (q.applyAll ops).Current P := by
  induction ops generalizing q with
  | nil => exact h
  | cons op ops ih =>
      rw [List.mem_cons, not_or] at hops
      apply ih ?_ hops.2
      cases op with
      | schedule delay kind =>
          intro s hs hkind
          cases List.mem_cons.mp hs with
          | inl heq => rw [heq]; rfl
          | inr hold => exact h s hold hkind
      | cancel kind => exact fun s hs => h s (List.mem_of_mem_eraseP hs)
      | newEpoch => exact absurd rfl hops.1

omit [DecidableEq κ] in
theorem Current.remove {q : FutureEvents κ} {P : κ → Prop} (h : q.Current P) (i : Nat) :
    (q.remove i).Current P := fun s hs => h s (List.mem_of_mem_eraseIdx hs)

end FutureEvents

end MultiTechBus.Library
