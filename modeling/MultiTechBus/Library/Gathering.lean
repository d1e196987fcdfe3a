import Mathlib.Logic.Function.Basic
import MultiTechBus.Library.OrderedMap
import MultiTechBus.Library.Run

/-! # Gathering pieces

Pieces of several things come in any order, and a table keeps under the key of each thing a
value that stands for the pieces that came. When the pieces make the thing complete, it
comes out and the table forgets them. A table that keeps to this, piece by piece, makes
things come out exactly when their pieces are complete.
-/

namespace MultiTechBus.Library

/-- What the values of a table stand for. -/
structure Gathering (κ ν π δ : Type*) where
  key : π → κ
  initial : ν
  Holds : κ → ν → List π → Prop
  Complete : κ → List π → Prop
  result : κ → List π → Option δ

namespace Gathering

variable {κ ν π δ ε α : Type*} [LinearOrder κ]

/-- The table stands for the pieces that are pending under each key. -/
structure Pending (g : Gathering κ ν π δ) (table : OrderedMap κ ν) (pending : κ → List π) :
    Prop where
  holds : ∀ key, g.Holds key ((table.find? key).getD g.initial) (pending key)
  none_iff : ∀ key, table.find? key = none ↔ pending key = []
  incomplete : ∀ key, pending key ≠ [] → ¬ g.Complete key (pending key)

theorem Pending.empty {g : Gathering κ ν π δ} (hinitial : ∀ key, g.Holds key g.initial []) :
    g.Pending ∅ fun _ => [] where
  holds := hinitial
  none_iff := fun _ => ⟨fun _ => rfl, fun _ => rfl⟩
  incomplete := fun _ h => absurd rfl h

/-- The values may stand for other things where nothing is pending. -/
theorem Pending.retarget {g g' : Gathering κ ν π δ} {table : OrderedMap κ ν}
    {pending : κ → List π} (h : g.Pending table pending)
    (hinitial : ∀ key, g'.Holds key g'.initial [])
    (hholds : ∀ key, pending key ≠ [] → ∀ value, g.Holds key value (pending key) →
      g'.Holds key value (pending key))
    (hcomplete : ∀ key, pending key ≠ [] → g'.Complete key (pending key) →
      g.Complete key (pending key)) : g'.Pending table pending := by
  refine ⟨fun key => ?_, h.none_iff, fun key hne hall => h.incomplete key hne (hcomplete key hne hall)⟩
  by_cases hempty : pending key = []
  · rw [(h.none_iff key).mpr hempty, hempty]
    exact hinitial key
  · obtain ⟨value, hvalue⟩ := Option.ne_none_iff_exists'.mp (mt (h.none_iff key).mp hempty)
    have hold := h.holds key
    rw [hvalue] at hold ⊢
    exact hholds key hempty value hold

variable [DecidableEq κ]

/-- The table and the output after one more piece. -/
def Gathers (g : Gathering κ ν π δ) (pending : κ → List π) (piece : π)
    (table' : OrderedMap κ ν) (output : Option δ) : Prop :=
  (g.Complete (g.key piece) (pending (g.key piece) ++ [piece]) ∧
    (∃ d, output = some d ∧ g.result (g.key piece) (pending (g.key piece) ++ [piece]) = some d) ∧
      g.Pending table' (Function.update pending (g.key piece) [])) ∨
  (¬ g.Complete (g.key piece) (pending (g.key piece) ++ [piece]) ∧ output = none ∧
    g.Pending table'
      (Function.update pending (g.key piece) (pending (g.key piece) ++ [piece])))

/-- Add a piece; what comes out is kept in order. -/
def arrive (add : OrderedMap κ ν → α → Except ε (OrderedMap κ ν × Option δ))
    (s : OrderedMap κ ν × List δ) (arrival : α) : Except ε (OrderedMap κ ν × List δ) :=
  (add s.1 arrival).map fun added => (added.1, s.2 ++ added.2.toList)

/-- What gathering is for: a thing comes out whenever the pieces since it last came out are
all of it. -/
def comesOut (g : Gathering κ ν π δ) [∀ key pieces, Decidable (g.Complete key pieces)]
    (pending : κ → List π) : List π → List δ
  | [] => []
  | piece :: pieces =>
      let gathered := pending (g.key piece) ++ [piece]
      if g.Complete (g.key piece) gathered then
        (g.result (g.key piece) gathered).toList ++
          g.comesOut (Function.update pending (g.key piece) []) pieces
      else g.comesOut (Function.update pending (g.key piece) gathered) pieces

variable {g : Gathering κ ν π δ} {table table' : OrderedMap κ ν} {pending : κ → List π}

/-- What happens under one key leaves the others alone. -/
theorem Pending.update (h : g.Pending table pending) {key : κ} {pieces : List π}
    (hframe : ∀ key', key' ≠ key → table'.find? key' = table.find? key')
    (hholds : g.Holds key ((table'.find? key).getD g.initial) pieces)
    (hnone : table'.find? key = none ↔ pieces = [])
    (hincomplete : pieces ≠ [] → ¬ g.Complete key pieces) :
    g.Pending table' (Function.update pending key pieces) := by
  refine ⟨fun key' => ?_, fun key' => ?_, fun key' => ?_⟩
  · rcases eq_or_ne key' key with rfl | hne
    · rwa [Function.update_self]
    · rw [Function.update_of_ne hne, hframe key' hne]
      exact h.holds key'
  · rcases eq_or_ne key' key with rfl | hne
    · rwa [Function.update_self]
    · rw [Function.update_of_ne hne, hframe key' hne]
      exact h.none_iff key'
  · rcases eq_or_ne key' key with rfl | hne
    · rwa [Function.update_self]
    · rw [Function.update_of_ne hne]
      exact h.incomplete key'

/-- A piece that leaves the thing incomplete is kept in the value. -/
theorem Pending.keep (h : g.Pending table pending) {piece : π} {value : ν}
    (hholds : g.Holds (g.key piece) value (pending (g.key piece) ++ [piece]))
    (hincomplete : ¬ g.Complete (g.key piece) (pending (g.key piece) ++ [piece])) :
    g.Gathers pending piece (table.insert (g.key piece) value) none := by
  refine .inr ⟨hincomplete, rfl, h.update (fun key' hne => OrderedMap.find?_insert_ne hne) ?_ ?_
    fun _ => hincomplete⟩
  · rw [OrderedMap.find?_insert_self]
    exact hholds
  · rw [OrderedMap.find?_insert_self]
    simp

/-- A complete thing comes out, and nothing of it stays. -/
theorem Pending.release (h : g.Pending table pending) {piece : π} {d : δ}
    (hinitial : ∀ key, g.Holds key g.initial [])
    (hcomplete : g.Complete (g.key piece) (pending (g.key piece) ++ [piece]))
    (hresult : g.result (g.key piece) (pending (g.key piece) ++ [piece]) = some d) :
    g.Gathers pending piece (table.erase (g.key piece)) (some d) := by
  have hself : (table.erase (g.key piece)).find? (g.key piece) = none := by
    rw [OrderedMap.find?_erase, if_pos rfl]
  refine .inl ⟨hcomplete, ⟨d, rfl, hresult⟩, h.update (fun key' hne => ?_) ?_ ?_
    fun hne => absurd rfl hne⟩
  · rw [OrderedMap.find?_erase, if_neg hne]
  · rw [hself]
    exact hinitial _
  · simp [hself]

/-- A table that gathers every piece makes out of all the arrivals what gathering is for. -/
theorem run_arrive [∀ key pieces, Decidable (g.Complete key pieces)]
    {add : OrderedMap κ ν → α → Except ε (OrderedMap κ ν × Option δ)} {piece : α → π}
    {arrivals : List α}
    (hadd : ∀ arrival ∈ arrivals, ∀ table pending, g.Pending table pending →
      ∃ table' output, add table arrival = .ok (table', output) ∧
        g.Gathers pending (piece arrival) table' output)
    (h : g.Pending table pending) (out : List δ) :
    ∃ table', run (arrive add) (table, out) arrivals =
      .ok (table', out ++ g.comesOut pending (arrivals.map piece)) := by
  induction arrivals generalizing table pending out with
  | nil => exact ⟨table, by simp [comesOut]⟩
  | cons arrival arrivals ih =>
      obtain ⟨table₁, output, hstep, hgathers⟩ := hadd arrival List.mem_cons_self table pending h
      have hrest := fun a ha => hadd a (List.mem_cons_of_mem _ ha)
      have harrive : arrive add (table, out) arrival = .ok (table₁, out ++ output.toList) := by
        rw [arrive, hstep]
        rfl
      rw [List.map_cons, comesOut, run_cons_ok _ harrive]
      rcases hgathers with ⟨hcomplete, ⟨d, rfl, hresult⟩, hnew⟩ | ⟨hincomplete, rfl, hnew⟩
      · obtain ⟨table', hrun⟩ := ih hrest hnew (out ++ [d])
        refine ⟨table', ?_⟩
        simp only [if_pos hcomplete, hresult, Option.toList_some, ← List.append_assoc]
        exact hrun
      · obtain ⟨table', hrun⟩ := ih hrest hnew out
        refine ⟨table', ?_⟩
        simp only [if_neg hincomplete, Option.toList_none, List.append_nil]
        exact hrun

end Gathering

end MultiTechBus.Library
