import MultiTechBus.Packet.ChunkBuffer

/-! # Reassembly buffers

A `ReassemblyBuffer` is a chunk buffer that also knows the length of the whole, once the
last piece has told it. What it gives back is complete exactly when the values from the
start up to that length are there and no others.
-/

namespace MultiTechBus.Packet

open MultiTechBus.Library

variable {β : Type*}

structure ReassemblyBuffer (β : Type*) extends ChunkBuffer β where
  expectedLength : Int := -1

namespace ReassemblyBuffer

def isComplete (buffer : ReassemblyBuffer β) : Bool :=
  match buffer.regions with
  | [region] => region.offset = 0 && region.data.length = buffer.expectedLength
  | _ => false

def getReassembledData (buffer : ReassemblyBuffer β) : Except Halt (List β) :=
  if buffer.isComplete then
    match buffer.regions with
    | region :: _ => .ok region.data
    | [] => .error .nullPointer
  else .error (.cRuntimeError "Reassembly is incomplete")

/-- `replace`, which keeps the expected length. -/
def replace (buffer : ReassemblyBuffer β) (offset : Nat) (chunk : List β) :
    Except Halt (ReassemblyBuffer β) :=
  (buffer.toChunkBuffer.replace offset chunk).map fun chunks =>
    { chunks with expectedLength := buffer.expectedLength }

def setExpectedLength (buffer : ReassemblyBuffer β) (expectedLength : Int) :
    ReassemblyBuffer β :=
  { buffer with expectedLength := expectedLength }

variable {buffer : ReassemblyBuffer β}

theorem replace_ok (buffer : ReassemblyBuffer β) (offset : Nat) {chunk : List β}
    (hchunk : chunk ≠ []) :
    ∃ buffer', buffer.replace offset chunk = .ok buffer' ∧
      buffer'.value = overwrite buffer.value ⟨offset, chunk⟩ ∧
      buffer'.expectedLength = buffer.expectedLength := by
  unfold replace
  cases h : buffer.toChunkBuffer.replace offset chunk with
  | error k =>
      rw [ChunkBuffer.replace, dif_neg hchunk] at h
      cases h
  | ok chunks => exact ⟨_, rfl, (ChunkBuffer.replace_spec h).2, rfl⟩

theorem isComplete_inv (h : buffer.isComplete = true) :
    ∃ region, buffer.regions = [region] ∧ region.offset = 0 ∧
      (region.data.length : Int) = buffer.expectedLength := by
  unfold isComplete at h
  split at h
  · rename_i region hregions
    simp only [Bool.and_eq_true, decide_eq_true_eq] at h
    exact ⟨region, hregions, h.1, h.2⟩
  · cases h

/-- A region from the start is what the values up to a length and no others are kept in. -/
theorem regions_of_value {n : Nat} (hn : 0 < n) (h : ∀ i, (buffer.value i).isSome ↔ i < n) :
    ∃ region, buffer.regions = [region] ∧ region.offset = 0 ∧ region.data.length = n := by
  have hcanonical := buffer.canonical
  unfold ChunkBuffer.value at h
  cases hregions : buffer.regions with
  | nil =>
      have hfirst := (h 0).mpr hn
      rw [hregions, contents_nil] at hfirst
      cases hfirst
  | cons region rest =>
      rw [hregions] at h hcanonical
      obtain ⟨hne, hrest, hcross⟩ := Canonical.cons_iff.mp hcanonical
      have hpos := Region.offset_lt_endOffset hne
      have hzero : region.offset = 0 := by
        by_contra hoffset
        have hfirst := (h 0).mpr hn
        rw [hcanonical.contents_of_lt (Nat.pos_of_ne_zero hoffset)] at hfirst
        cases hfirst
      have hend : region.endOffset = n := by
        apply Nat.le_antisymm
        · have hlast : (contents (region :: rest) (region.endOffset - 1)).isSome := by
            rw [hcanonical.contents_head (by omega), Option.isSome_iff_ne_none, ne_eq,
              Region.get?_eq_none_iff]
            omega
          have := (h _).mp hlast
          omega
        · by_contra hlt
          have hgap := (h region.endOffset).mpr (Nat.lt_of_not_le hlt)
          rw [hcanonical.contents_head (Nat.le_refl _), Region.get?_of_le (Nat.le_refl _)] at hgap
          cases hgap
      have hnil : rest = [] := by
        cases rest with
        | nil => rfl
        | cons next rest =>
            have hbeyond : (contents (region :: next :: rest) next.offset).isSome := by
              rw [contents_cons, Option.isSome_or,
                Canonical.contents_head hrest (Nat.le_add_right _ _), Bool.or_eq_true]
              right
              have := Region.offset_lt_endOffset (Canonical.cons_iff.mp hrest).1
              rw [Option.isSome_iff_ne_none, ne_eq, Region.get?_eq_none_iff]
              omega
            have := (h _).mp hbeyond
            have := hcross next List.mem_cons_self
            omega
      subst hnil
      refine ⟨region, rfl, hzero, ?_⟩
      rw [Region.endOffset, hzero, Nat.zero_add] at hend
      exact hend

/-- The buffer is complete exactly when it has the values up to the expected length, and
no others. -/
theorem isComplete_iff {n : Nat} (hn : 0 < n) (hlength : buffer.expectedLength = n) :
    buffer.isComplete = true ↔ ∀ i, (buffer.value i).isSome ↔ i < n := by
  constructor
  · intro h i
    obtain ⟨region, hregions, hoffset, hdata⟩ := isComplete_inv h
    rw [hlength, Int.natCast_inj] at hdata
    rw [ChunkBuffer.value, hregions, contents_singleton, Option.isSome_iff_ne_none, ne_eq,
      Region.get?_eq_none_iff, Region.endOffset, hoffset, hdata]
    omega
  · intro h
    obtain ⟨region, hregions, hoffset, hdata⟩ := regions_of_value hn h
    unfold isComplete
    simp only [hregions, hoffset, hdata, hlength, decide_true, Bool.and_self]

theorem not_isComplete_of_length (hlength : buffer.expectedLength < 0) :
    buffer.isComplete = false := by
  rw [Bool.eq_false_iff]
  intro h
  obtain ⟨region, -, -, hdata⟩ := isComplete_inv h
  omega

/-- A complete buffer whose values are those of some data of the expected length gives
that data back. -/
theorem getReassembledData_eq {data : List β} (h : buffer.isComplete = true)
    (hlength : buffer.expectedLength = data.length)
    (hvalue : ∀ i v, buffer.value i = some v → data[i]? = some v) :
    buffer.getReassembledData = .ok data := by
  obtain ⟨region, hregions, hoffset, hdata⟩ := isComplete_inv h
  rw [hlength, Int.natCast_inj] at hdata
  have heq : region.data = data := by
    apply List.ext_getElem? fun i => ?_
    cases hget : region.data[i]? with
    | none =>
        rw [List.getElem?_eq_none_iff, hdata] at hget
        exact (List.getElem?_eq_none hget).symm
    | some v =>
        refine (hvalue i v ?_).symm
        rw [ChunkBuffer.value, hregions, contents_singleton]
        simpa [hoffset] using (Region.get?_add (r := region) i).trans hget
  unfold getReassembledData
  rw [if_pos h, hregions]
  exact congrArg Except.ok heq

end ReassemblyBuffer

end MultiTechBus.Packet
