import Mathlib.Data.List.Perm.Basic
import Mathlib.Data.List.Range
import Mathlib.Data.List.Nodup
import Mathlib.Logic.Function.Basic

/-! # A register that numbers its entries

Whoever is entered gets the next number; who is in can be taken out. The history of a
register tells who is in: numbers are given out once and in order, and they are taken back
once at most.
-/

namespace MultiTechBus.Library

variable {κ : Type*} [DecidableEq κ]

inductive Entry (κ : Type*)
  | entered (k : κ) (n : Nat)
  | left (k : κ) (n : Nat)
deriving DecidableEq, Repr

namespace Entry

def given? : Entry κ → Option Nat
  | entered _ n => some n
  | left _ _ => none

def returned? : Entry κ → Option Nat
  | entered _ _ => none
  | left _ n => some n

end Entry

/-- Who is in with what number, and the next number, after a history. -/
inductive Register : List (Entry κ) → (κ → Option Nat) → Nat → Prop
  | nil : Register [] (fun _ => none) 0
  | enter {log : List (Entry κ)} {m : κ → Option Nat} {next : Nat} {k : κ}
      (h : Register log m next) (hk : m k = none) :
      Register (log ++ [.entered k next]) (Function.update m k (some next)) (next + 1)
  | leave {log : List (Entry κ)} {m : κ → Option Nat} {next n : Nat} {k : κ}
      (h : Register log m next) (hk : m k = some n) :
      Register (log ++ [.left k n]) (Function.update m k none) next

namespace Register

variable {log : List (Entry κ)} {m : κ → Option Nat} {next n : Nat} {k k' : κ}

theorem given (h : Register log m next) : log.filterMap Entry.given? = List.range next := by
  induction h with
  | nil => rfl
  | enter h hk ih => rw [List.filterMap_append, ih, List.range_succ]; rfl
  | leave h hk ih => rw [List.filterMap_append, ih]; exact List.append_nil _

theorem lt_next (h : Register log m next) (hk : m k = some n) : n < next := by
  induction h generalizing k n with
  | nil => cases hk
  | @enter log m next k' h hk' ih =>
      rcases eq_or_ne k k' with rfl | hne
      · rw [Function.update_self] at hk
        exact Option.some.inj hk ▸ Nat.lt_succ_self next
      · rw [Function.update_of_ne hne] at hk
        exact Nat.lt_succ_of_lt (ih hk)
  | @leave log m next n' k' h hk' ih =>
      rcases eq_or_ne k k' with rfl | hne
      · rw [Function.update_self] at hk
        cases hk
      · rw [Function.update_of_ne hne] at hk
        exact ih hk

theorem unique (h : Register log m next) (hk : m k = some n) (hk' : m k' = some n) : k = k' := by
  induction h generalizing k k' n with
  | nil => cases hk
  | @enter log m next j h hj ih =>
      rcases eq_or_ne k j with rfl | hne <;> rcases eq_or_ne k' k with heq | hne'
      · exact heq.symm
      · rw [Function.update_self] at hk
        rw [Function.update_of_ne hne'] at hk'
        exact absurd (h.lt_next hk') (by rw [← Option.some.inj hk]; exact Nat.lt_irrefl _)
      · exact heq.symm
      · rw [Function.update_of_ne hne] at hk
        rcases eq_or_ne k' j with rfl | hne''
        · rw [Function.update_self] at hk'
          exact absurd (h.lt_next hk) (by rw [← Option.some.inj hk']; exact Nat.lt_irrefl _)
        · rw [Function.update_of_ne hne''] at hk'
          exact ih hk hk'
  | @leave log m next i j h hj ih =>
      rcases eq_or_ne k j with rfl | hne
      · rw [Function.update_self] at hk
        cases hk
      · rcases eq_or_ne k' j with rfl | hne'
        · rw [Function.update_self] at hk'
          cases hk'
        · rw [Function.update_of_ne hne] at hk
          rw [Function.update_of_ne hne'] at hk'
          exact ih hk hk'

theorem returned_lt (h : Register log m next) (hn : n ∈ log.filterMap Entry.returned?) :
    n < next := by
  induction h with
  | nil => cases hn
  | enter h hk ih =>
      rw [List.filterMap_append] at hn
      rcases List.mem_append.mp hn with hn | hn
      · exact Nat.lt_succ_of_lt (ih hn)
      · cases hn
  | leave h hk ih =>
      rw [List.filterMap_append] at hn
      rcases List.mem_append.mp hn with hn | hn
      · exact ih hn
      · obtain rfl := List.mem_singleton.mp hn
        exact h.lt_next hk

/-- A number has been given out, and it is held or it has been taken back, but not both. -/
theorem held_or_returned (h : Register log m next) (hn : n < next) :
    (∃ k, m k = some n) ↔ n ∉ log.filterMap Entry.returned? := by
  induction h generalizing n with
  | nil => exact absurd hn (Nat.not_lt_zero _)
  | @enter log m next j h hj ih =>
      have hlog : (log ++ [Entry.entered j next]).filterMap Entry.returned? =
          log.filterMap Entry.returned? := by
        rw [List.filterMap_append]
        exact List.append_nil _
      rw [hlog]
      rcases Nat.lt_succ_iff_lt_or_eq.mp hn with hlt | rfl
      · rw [← ih hlt]
        constructor
        · rintro ⟨k, hk⟩
          rcases eq_or_ne k j with rfl | hne
          · rw [Function.update_self] at hk
            exact absurd (Option.some.inj hk) hlt.ne'
          · rw [Function.update_of_ne hne] at hk
            exact ⟨k, hk⟩
        · rintro ⟨k, hk⟩
          refine ⟨k, ?_⟩
          rwa [Function.update_of_ne (fun heq => by rw [heq, hj] at hk; cases hk)]
      · exact ⟨fun _ hmem => Nat.lt_irrefl _ (h.returned_lt hmem),
          fun _ => ⟨j, Function.update_self ..⟩⟩
  | @leave log m next i j h hj ih =>
      rw [List.filterMap_append]
      show _ ↔ n ∉ log.filterMap Entry.returned? ++ [i]
      rw [List.mem_append, not_or, ← ih hn, List.mem_singleton]
      constructor
      · rintro ⟨k, hk⟩
        rcases eq_or_ne k j with rfl | hne
        · rw [Function.update_self] at hk
          cases hk
        · rw [Function.update_of_ne hne] at hk
          exact ⟨⟨k, hk⟩, fun heq => hne (h.unique hk (heq ▸ hj))⟩
      · rintro ⟨⟨k, hk⟩, hne⟩
        refine ⟨k, ?_⟩
        rwa [Function.update_of_ne]
        rintro rfl
        exact hne (Option.some.inj (hk.symm.trans hj))

theorem nodup_returned (h : Register log m next) : (log.filterMap Entry.returned?).Nodup := by
  induction h with
  | nil => exact List.nodup_nil
  | enter h hk ih =>
      rw [List.filterMap_append]
      exact (List.append_nil _).symm ▸ ih
  | @leave log m next i j h hj ih =>
      rw [List.filterMap_append]
      show (log.filterMap Entry.returned? ++ [i]).Nodup
      rw [List.nodup_append]
      refine ⟨ih, List.nodup_singleton i, fun a ha b hb heq => ?_⟩
      obtain rfl := List.mem_singleton.mp hb
      exact (h.held_or_returned (h.lt_next hj)).mp ⟨j, hj⟩ (heq ▸ ha)

/-- Once nobody is in any more, every number has been taken back. -/
theorem returned_perm (h : Register log m next) (hempty : ∀ k, m k = none) :
    (log.filterMap Entry.returned?).Perm (List.range next) := by
  refine (List.perm_ext_iff_of_nodup h.nodup_returned List.nodup_range).mpr fun n => ?_
  rw [List.mem_range]
  refine ⟨h.returned_lt, fun hn => ?_⟩
  by_contra hmem
  obtain ⟨k, hk⟩ := (h.held_or_returned hn).mpr hmem
  rw [hempty k] at hk
  cases hk

end Register

end MultiTechBus.Library
