import Mathlib.Algebra.Group.Nat.Defs
import Mathlib.Data.List.Basic
import Mathlib.Tactic.TypeStar

/-! # Values on the wire

A reader takes a value off the front of a sequence of symbols. A word is read as a value
when that is what the reader finds in front of any rest, so that words put one after the
other are read one after the other. Numbers are written in a fixed number of bytes with
the most significant byte first.
-/

namespace MultiTechBus.Library

universe u v

abbrev Reader (σ : Type u) (κ : Type v) := StateT (List σ) (Except κ)

variable {σ α β : Type u} {κ : Type v}

/-- The reader finds the value in the word, whatever follows. -/
def Reads (r : Reader σ κ α) (w : List σ) (a : α) : Prop :=
  ∀ rest, r (w ++ rest) = .ok (a, rest)

namespace Reads

variable {r : Reader σ κ α} {f : α → Reader σ κ β} {w w' : List σ} {a a' : α} {b : β}

theorem pure (a : α) : Reads (Pure.pure a : Reader σ κ α) [] a := fun _ => rfl

theorem bind (hr : Reads r w a) (hf : Reads (f a) w' b) : Reads (r >>= f) (w ++ w') b := by
  intro rest
  show (r (w ++ w' ++ rest)).bind (fun x => f x.1 x.2) = .ok (b, rest)
  rw [List.append_assoc, hr]
  exact hf rest

theorem map (hr : Reads r w a) (g : α → β) : Reads (g <$> r) w (g a) := by
  intro rest
  show (r (w ++ rest)).bind (fun x => .ok (g x.1, x.2)) = .ok (g a, rest)
  rw [hr]
  rfl

/-- A word in front of a sequence is read in one way. -/
theorem unique (h : Reads r w a) (h' : Reads r w' a') {rest rest' : List σ}
    (heq : w ++ rest = w' ++ rest') : a = a' ∧ rest = rest' := by
  have hread := h rest
  rw [heq, h' rest'] at hread
  have hpair := Except.ok.inj hread
  exact ⟨(Prod.mk.inj hpair).1.symm, (Prod.mk.inj hpair).2.symm⟩

end Reads

def many (r : Reader σ κ α) : Nat → Reader σ κ (List α)
  | 0 => pure []
  | n + 1 => do
      let a ← r
      List.cons a <$> many r n

/-- Values written one after the other are read in order. -/
theorem Reads.many {r : Reader σ κ α} {enc : α → List σ} {as : List α}
    (h : ∀ a ∈ as, Reads r (enc a) a) : Reads (many r as.length) (as.flatMap enc) as := by
  induction as with
  | nil => exact .pure []
  | cons a as ih =>
      have hrest := (ih fun a' hmem => h a' (List.mem_cons_of_mem _ hmem)).map (List.cons a)
      exact (h a List.mem_cons_self).bind hrest

/-! ### Numbers -/

/-- The last `k` bytes of a number. -/
def bigEndian : Nat → Nat → List (BitVec 8)
  | 0, _ => []
  | k + 1, n => bigEndian k (n / 256) ++ [BitVec.ofNat 8 n]

def ofBigEndian (bytes : List (BitVec 8)) : Nat :=
  bytes.foldl (fun n byte => 256 * n + byte.toNat) 0

@[simp] theorem length_bigEndian (k n : Nat) : (bigEndian k n).length = k := by
  induction k generalizing n with
  | zero => rfl
  | succ k ih => rw [bigEndian, List.length_append, ih, List.length_singleton]

theorem ofBigEndian_bigEndian (k n : Nat) : ofBigEndian (bigEndian k n) = n % 256 ^ k := by
  induction k generalizing n with
  | zero => rw [Nat.pow_zero, Nat.mod_one]; rfl
  | succ k ih =>
      have hlast : (BitVec.ofNat 8 n).toNat = n % 256 := BitVec.toNat_ofNat n 8
      have hrest := ih (n / 256)
      unfold ofBigEndian at hrest ⊢
      rw [bigEndian, List.foldl_append, hrest, List.foldl_cons, List.foldl_nil, hlast,
        Nat.pow_succ', Nat.mod_mul, Nat.add_comm]

end MultiTechBus.Library
