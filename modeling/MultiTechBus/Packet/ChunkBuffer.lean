import MultiTechBus.Halt
import MultiTechBus.Library.Regions
import MultiTechBus.Library.Run

/-! # Chunk buffers

`ChunkBuffer`: data that arrives in pieces is kept as a list of regions, and connecting
regions are merged. A chunk is the list of its units. A search that narrows down the
regions to look at finds its place by the order of the regions.
-/

namespace MultiTechBus.Packet

open MultiTechBus.Library

variable {β : Type*}

/-- `Chunk::peek`. -/
def peek (data : List β) (offset length : Nat) : List β := (data.drop offset).take length

/-- The loop of `sliceRegions`, which ends when a region is split. -/
def sliceLoop (startOffset endOffset : Nat) : List (Region β) → List (Region β)
  | [] => []
  | oldRegion :: rest =>
      if endOffset ≤ oldRegion.offset ∨ oldRegion.endOffset ≤ startOffset then
        oldRegion :: sliceLoop startOffset endOffset rest
      else if startOffset ≤ oldRegion.offset ∧ oldRegion.endOffset ≤ endOffset then
        sliceLoop startOffset endOffset rest
      else if oldRegion.offset < startOffset ∧ endOffset < oldRegion.endOffset then
        ⟨oldRegion.offset, peek oldRegion.data 0 (startOffset - oldRegion.offset)⟩ ::
          ⟨endOffset, peek oldRegion.data (endOffset - oldRegion.offset)
            (oldRegion.endOffset - endOffset)⟩ :: rest
      else if oldRegion.endOffset ≤ endOffset then
        ⟨oldRegion.offset, peek oldRegion.data 0 (startOffset - oldRegion.offset)⟩ ::
          sliceLoop startOffset endOffset rest
      else
        ⟨endOffset, peek oldRegion.data (endOffset - oldRegion.offset)
          (oldRegion.endOffset - endOffset)⟩ :: sliceLoop startOffset endOffset rest

/-- Make room from `startOffset` up to `endOffset`: only the regions from the one before
`lower_bound` to the one at `upper_bound` are looked at. -/
def sliceRegions (startOffset endOffset : Nat) (regions : List (Region β)) : List (Region β) :=
  let lower := (regions.takeWhile fun r => r.offset < startOffset).length - 1
  let upper := (regions.takeWhile fun r => r.endOffset ≤ endOffset).length + 1
  regions.take lower ++
    sliceLoop startOffset endOffset ((regions.drop lower).take (upper - lower)) ++
    regions.drop (max lower upper)

/-- Two regions in order, merged if they are consecutive. -/
def mergeRegions (previousRegion nextRegion : Region β) : List (Region β) :=
  if previousRegion.endOffset = nextRegion.offset then
    [⟨previousRegion.offset, previousRegion.data ++ nextRegion.data⟩]
  else [previousRegion, nextRegion]

/-- A region after others, merged with the last one. -/
def appendMerged (regions : List (Region β)) (region : Region β) : List (Region β) :=
  match regions.getLast? with
  | none => [region]
  | some previousRegion => regions.dropLast ++ mergeRegions previousRegion region

/-- The new region goes between the regions before and after its start, and is merged with
its neighbours. -/
def insertRegion (regions : List (Region β)) (newRegion : Region β) : List (Region β) :=
  let before := regions.takeWhile fun r => r.offset ≤ newRegion.offset
  match regions.dropWhile fun r => r.offset ≤ newRegion.offset with
  | [] => appendMerged before newRegion
  | nextRegion :: rest => appendMerged (appendMerged before newRegion) nextRegion ++ rest

/-- `ChunkBuffer::replace`. -/
def replaceRegions (regions : List (Region β)) (offset : Nat) (chunk : List β) :
    List (Region β) :=
  let newRegion : Region β := ⟨offset, chunk⟩
  let regions := sliceRegions offset newRegion.endOffset regions
  match regions.head?, regions.getLast? with
  | some front, some back =>
      if back.endOffset ≤ offset then appendMerged regions newRegion
      else if newRegion.endOffset ≤ front.offset then
        mergeRegions newRegion front ++ regions.tail
      else insertRegion regions newRegion
  | _, _ => [newRegion]

/-- `ChunkBuffer::clear`: a region that is exactly the given one is erased at once. -/
def clearRegions (regions : List (Region β)) (offset length : Nat) : List (Region β) :=
  if regions.any fun r => r.offset = offset ∧ r.data.length = length then
    regions.eraseP fun r => r.offset = offset ∧ r.data.length = length
  else sliceRegions offset (offset + length) regions

/-! ## Making room -/

section Slice

variable {s e : Nat} {l : List (Region β)}

theorem endOffset_peek_zero {r : Region β} (he : s ≤ r.endOffset) (hs : r.offset ≤ s) :
    (⟨r.offset, peek r.data 0 (s - r.offset)⟩ : Region β).endOffset = s := by
  unfold Region.endOffset peek at *
  simp only [List.drop_zero, List.length_take]
  omega

theorem endOffset_peek_end {r : Region β} (hs : r.offset ≤ e) (he : e ≤ r.endOffset) :
    (⟨e, peek r.data (e - r.offset) (r.endOffset - e)⟩ : Region β).endOffset = r.endOffset := by
  unfold Region.endOffset peek at *
  simp only [List.length_take, List.length_drop]
  omega

theorem get?_peek_zero {r : Region β} (hs : r.offset ≤ s) (i : Nat) :
    (⟨r.offset, peek r.data 0 (s - r.offset)⟩ : Region β).get? i =
      if i < s then r.get? i else none := by
  rw [peek, List.drop_zero, Region.get?_take, Nat.add_sub_cancel' hs]

theorem get?_peek_end {r : Region β} (hs : r.offset ≤ e) (i : Nat) :
    (⟨e, peek r.data (e - r.offset) (r.endOffset - e)⟩ : Region β).get? i =
      if e ≤ i then r.get? i else none := by
  have hall : peek r.data (e - r.offset) (r.endOffset - e) = r.data.drop (e - r.offset) := by
    rw [peek, List.take_of_length_le]
    rw [List.length_drop, Region.endOffset]
    omega
  have hdrop := Region.get?_drop (i := i) r.offset (e - r.offset) r.data
  rw [Nat.add_sub_cancel' hs] at hdrop
  rw [hall, hdrop]

/-- What one pass of the loop leaves of a region. -/
def sliceRegion (s e : Nat) (r : Region β) : List (Region β) :=
  if e ≤ r.offset ∨ r.endOffset ≤ s then [r]
  else
    (if r.offset < s then [⟨r.offset, peek r.data 0 (s - r.offset)⟩] else []) ++
      if e < r.endOffset then [⟨e, peek r.data (e - r.offset) (r.endOffset - e)⟩] else []

theorem sliceRegion_eq_self {r : Region β} (h : e ≤ r.offset ∨ r.endOffset ≤ s) :
    sliceRegion s e r = [r] := if_pos h

theorem mem_sliceRegion {r r' : Region β} (hr' : r' ∈ sliceRegion s e r) :
    r.offset ≤ r'.offset ∧ r'.endOffset ≤ r.endOffset := by
  unfold sliceRegion at hr'
  split at hr'
  · rw [List.mem_singleton.mp hr']
    exact ⟨Nat.le_refl _, Nat.le_refl _⟩
  · rename_i hmeet
    rw [not_or, Nat.not_le, Nat.not_le] at hmeet
    rcases List.mem_append.mp hr' with h | h
    · split at h
      · rw [List.mem_singleton.mp h, endOffset_peek_zero (by omega) (by omega)]
        exact ⟨Nat.le_refl _, by omega⟩
      · cases h
    · split at h
      · rw [List.mem_singleton.mp h, endOffset_peek_end (by omega) (by omega)]
        exact ⟨by dsimp only; omega, Nat.le_refl _⟩
      · cases h

theorem sliceRegion_canonical (hse : s < e) {r : Region β} (hr : r.data ≠ []) :
    Canonical (sliceRegion s e r) := by
  unfold sliceRegion
  split
  · exact .singleton hr
  · rename_i hmeet
    rw [not_or, Nat.not_le, Nat.not_le] at hmeet
    have hdata : ∀ r' : Region β, r'.offset < r'.endOffset → r'.data ≠ [] := by
      intro r' hlt hempty
      simp [Region.endOffset, hempty] at hlt
    refine Canonical.append_iff.mpr ⟨?_, ?_, ?_⟩
    · split
      · refine .singleton (hdata _ ?_)
        rwa [endOffset_peek_zero (by omega) (by omega)]
      · exact .nil
    · split
      · refine .singleton (hdata _ ?_)
        rwa [endOffset_peek_end (by omega) (by omega)]
      · exact .nil
    · intro r₁ h₁ r₂ h₂
      split at h₁
      · split at h₂
        · rw [List.mem_singleton.mp h₁, List.mem_singleton.mp h₂,
            endOffset_peek_zero (by omega) (by omega)]
          exact hse
        · cases h₂
      · cases h₁

theorem contents_sliceRegion (hse : s < e) (r : Region β) :
    contents (sliceRegion s e r) = erase r.get? s e := by
  funext i
  unfold sliceRegion erase
  by_cases hout : e ≤ r.offset ∨ r.endOffset ≤ s
  · rw [if_pos hout, contents_singleton]
    split
    · exact Region.get?_eq_none_iff.mpr (by omega)
    · rfl
  · rw [if_neg hout, contents_append]
    have hfirst : contents (if r.offset < s then
        [⟨r.offset, peek r.data 0 (s - r.offset)⟩] else []) i = if i < s then r.get? i else none := by
      split
      · rw [contents_singleton, get?_peek_zero (by omega)]
      · split
        · exact (Region.get?_of_lt (by omega)).symm
        · rfl
    have hlast : contents (if e < r.endOffset then
        [⟨e, peek r.data (e - r.offset) (r.endOffset - e)⟩] else []) i =
          if e ≤ i then r.get? i else none := by
      split
      · rw [contents_singleton, get?_peek_end (by omega)]
      · split
        · exact (Region.get?_of_le (by omega)).symm
        · rfl
    rw [hfirst, hlast]
    by_cases hs : i < s
    · rw [if_pos hs, if_neg (by omega), if_neg (by omega), Option.or_none]
    · rw [if_neg hs, Option.none_or]
      by_cases he : e ≤ i
      · rw [if_pos he, if_neg (by omega)]
      · rw [if_neg he, if_pos (by omega)]

theorem sliceRegion_of_le {post : List (Region β)} (h : ∀ r ∈ post, e ≤ r.offset) :
    post.flatMap (sliceRegion s e) = post := by
  induction post with
  | nil => rfl
  | cons r post ih =>
      rw [List.flatMap_cons, sliceRegion_eq_self (.inl (h r List.mem_cons_self)),
        ih fun r' hr' => h r' (List.mem_cons_of_mem _ hr')]
      rfl

/-- Ending the loop when a region is split leaves out nothing. -/
theorem sliceLoop_eq_flatMap (hl : Canonical l) : sliceLoop s e l = l.flatMap (sliceRegion s e) := by
  induction l with
  | nil => rfl
  | cons old rest ih =>
      obtain ⟨hne, hrest, hcross⟩ := Canonical.cons_iff.mp hl
      have hpos := Region.offset_lt_endOffset hne
      rw [List.flatMap_cons, sliceLoop, sliceRegion, ih hrest]
      split
      · rfl
      · split
        · rw [if_neg (by omega), if_neg (by omega)]
          rfl
        · split
          · rw [if_pos (by omega), if_pos (by omega),
              sliceRegion_of_le fun r hr => by have := hcross r hr; omega]
            rfl
          · split
            · rw [if_pos (by omega), if_neg (by omega)]
              rfl
            · rw [if_neg (by omega), if_pos (by omega)]
              rfl

theorem sliceLoop_canonical (hse : s < e) (hl : Canonical l) : Canonical (sliceLoop s e l) := by
  rw [sliceLoop_eq_flatMap hl]
  induction l with
  | nil => exact .nil
  | cons old rest ih =>
      obtain ⟨hne, hrest, hcross⟩ := Canonical.cons_iff.mp hl
      rw [List.flatMap_cons]
      refine Canonical.append_iff.mpr ⟨sliceRegion_canonical hse hne, ih hrest, ?_⟩
      intro r hr r' hr'
      obtain ⟨next, hnext, hmem⟩ := List.mem_flatMap.mp hr'
      have h := mem_sliceRegion hr
      have h' := mem_sliceRegion hmem
      have := hcross next hnext
      omega

theorem contents_sliceLoop (hse : s < e) (hl : Canonical l) :
    contents (sliceLoop s e l) = erase (contents l) s e := by
  rw [sliceLoop_eq_flatMap hl]
  funext i
  clear hl
  induction l with
  | nil => simp [erase]
  | cons old rest ih =>
      rw [List.flatMap_cons, contents_append, contents_sliceRegion hse, ih]
      unfold erase
      split
      · rfl
      · rw [contents_cons]

theorem sliceLoop_append_left {pre l : List (Region β)} (h : ∀ r ∈ pre, r.endOffset ≤ s) :
    sliceLoop s e (pre ++ l) = pre ++ sliceLoop s e l := by
  induction pre with
  | nil => rfl
  | cons r pre ih =>
      rw [List.cons_append, sliceLoop, if_pos (.inr (h r List.mem_cons_self)),
        ih fun r' hr' => h r' (List.mem_cons_of_mem _ hr')]
      rfl

theorem sliceLoop_eq_self {post : List (Region β)} (h : ∀ r ∈ post, e ≤ r.offset) :
    sliceLoop s e post = post := by
  induction post with
  | nil => rfl
  | cons r post ih =>
      rw [sliceLoop, if_pos (.inl (h r List.mem_cons_self)),
        ih fun r' hr' => h r' (List.mem_cons_of_mem _ hr')]

theorem sliceLoop_append_right {l post : List (Region β)} (h : ∀ r ∈ post, e ≤ r.offset) :
    sliceLoop s e (l ++ post) = sliceLoop s e l ++ post := by
  induction l with
  | nil => rw [List.nil_append, sliceLoop_eq_self h]; rfl
  | cons r l ih =>
      rw [List.cons_append]
      unfold sliceLoop
      split
      · rw [ih]; rfl
      · split
        · exact ih
        · split
          · rfl
          · split
            · rw [ih]; rfl
            · rw [ih]; rfl

theorem endOffset_le_of_mem_take (hl : Canonical l) {r : Region β}
    (hr : r ∈ l.take ((l.takeWhile fun r => r.offset < s).length - 1)) : r.endOffset ≤ s := by
  induction l with
  | nil => simp at hr
  | cons r₀ l ih =>
      obtain ⟨-, hrest, hcross⟩ := Canonical.cons_iff.mp hl
      by_cases h₀ : r₀.offset < s
      · rw [List.takeWhile_cons_of_pos (by simpa using h₀), List.length_cons,
          Nat.add_sub_cancel] at hr
        cases hlen : (l.takeWhile fun r => r.offset < s).length with
        | zero => simp [hlen] at hr
        | succ n =>
            rw [hlen, List.take_succ_cons] at hr
            cases l with
            | nil => simp at hlen
            | cons r₁ l =>
                have h₁ : r₁.offset < s := by
                  by_contra hge
                  rw [List.takeWhile_cons_of_neg (by simpa using hge)] at hlen
                  simp at hlen
                rcases List.mem_cons.mp hr with rfl | hmem
                · have := hcross r₁ List.mem_cons_self
                  omega
                · exact ih hrest (by rw [hlen, Nat.add_sub_cancel]; exact hmem)
      · rw [List.takeWhile_cons_of_neg (by simpa using h₀)] at hr
        simp at hr

theorem le_offset_of_mem_drop (hl : Canonical l) {r : Region β}
    (hr : r ∈ l.drop ((l.takeWhile fun r => r.endOffset ≤ e).length + 1)) : e ≤ r.offset := by
  induction l with
  | nil => simp at hr
  | cons r₀ l ih =>
      obtain ⟨-, hrest, hcross⟩ := Canonical.cons_iff.mp hl
      by_cases h₀ : r₀.endOffset ≤ e
      · rw [List.takeWhile_cons_of_pos (by simpa using h₀), List.length_cons,
          List.drop_succ_cons] at hr
        exact ih hrest hr
      · rw [List.takeWhile_cons_of_neg (by simpa using h₀), List.length_nil, Nat.zero_add,
          List.drop_succ_cons, List.drop_zero] at hr
        have := hcross r hr
        omega

/-- Looking only at the regions between the bounds misses nothing. -/
theorem sliceRegions_eq_sliceLoop (hl : Canonical l) : sliceRegions s e l = sliceLoop s e l := by
  unfold sliceRegions
  simp only []
  generalize hlower : (l.takeWhile fun r => r.offset < s).length - 1 = lower
  generalize hupper : (l.takeWhile fun r => r.endOffset ≤ e).length + 1 = upper
  have hpre : ∀ r ∈ l.take lower, r.endOffset ≤ s := fun r hr =>
    endOffset_le_of_mem_take hl (hlower ▸ hr)
  have hpost : ∀ r ∈ l.drop (max lower upper), e ≤ r.offset := by
    intro r hr
    apply le_offset_of_mem_drop hl
    rw [hupper]
    exact (List.drop_sublist_drop_left l (Nat.le_max_right lower upper)).subset hr
  have hmid : (l.drop lower).take (upper - lower) ++ l.drop (max lower upper) = l.drop lower := by
    have hmax : max lower upper = lower + (upper - lower) := by omega
    rw [hmax, ← List.drop_drop]
    exact List.take_append_drop _ _
  calc l.take lower ++ sliceLoop s e ((l.drop lower).take (upper - lower)) ++ l.drop (max lower upper)
      = l.take lower ++
          sliceLoop s e ((l.drop lower).take (upper - lower) ++ l.drop (max lower upper)) := by
        rw [sliceLoop_append_right hpost, List.append_assoc]
    _ = sliceLoop s e (l.take lower ++ l.drop lower) := by
        rw [hmid, sliceLoop_append_left hpre]
    _ = sliceLoop s e l := by rw [List.take_append_drop]

end Slice

/-! ## Putting a region in -/

section Insert

variable {l before after : List (Region β)} {r r' : Region β}

theorem mergeRegions_canonical (hr : r.data ≠ []) (hr' : r'.data ≠ [])
    (hle : r.endOffset ≤ r'.offset) : Canonical (mergeRegions r r') := by
  unfold mergeRegions
  split
  · exact .singleton (by simp [hr])
  · refine Canonical.cons_iff.mpr ⟨hr, .singleton hr', fun r'' h => ?_⟩
    rw [List.mem_singleton.mp h]
    omega

theorem mem_mergeRegions {r'' : Region β} (h : r'' ∈ mergeRegions r r')
    (hle : r.endOffset ≤ r'.offset) : r.offset ≤ r''.offset ∧ r''.endOffset ≤ r'.endOffset := by
  have hend : r'.offset ≤ r'.endOffset := Nat.le_add_right _ _
  have hpos : r.offset ≤ r.endOffset := Nat.le_add_right _ _
  unfold mergeRegions at h
  split at h
  · rename_i heq
    rw [List.mem_singleton.mp h]
    refine ⟨Nat.le_refl _, ?_⟩
    simp only [Region.endOffset, List.length_append] at heq ⊢
    omega
  · rcases List.mem_cons.mp h with rfl | h
    · exact ⟨Nat.le_refl _, by omega⟩
    · rw [List.mem_singleton.mp h]
      exact ⟨by omega, Nat.le_refl _⟩

theorem contents_mergeRegions (r r' : Region β) :
    contents (mergeRegions r r') = contents [r, r'] := by
  unfold mergeRegions
  split
  · rename_i heq
    funext i
    rw [contents_singleton, Region.get?_append, contents_cons, contents_singleton]
    have hr' : (⟨r.offset + r.data.length, r'.data⟩ : Region β) = r' := by
      cases r'
      exact congrArg₂ Region.mk heq rfl
    rw [hr']
  · rfl

theorem appendMerged_concat (l : List (Region β)) (r r' : Region β) :
    appendMerged (l ++ [r]) r' = l ++ mergeRegions r r' := by
  unfold appendMerged
  rw [List.getLast?_concat, List.dropLast_concat]

theorem appendMerged_canonical (hl : Canonical l) (hr : r.data ≠ [])
    (hle : ∀ r' ∈ l, r'.endOffset ≤ r.offset) : Canonical (appendMerged l r) := by
  cases List.eq_nil_or_concat' l with
  | inl hnil =>
      subst hnil
      exact .singleton hr
  | inr hconcat =>
      obtain ⟨init, last, rfl⟩ := hconcat
      obtain ⟨hinit, hlast, hcross⟩ := Canonical.append_iff.mp hl
      have hlast' := hlast.nonempty last List.mem_cons_self
      have hend := hle last (by simp)
      rw [appendMerged_concat]
      refine Canonical.append_iff.mpr ⟨hinit, mergeRegions_canonical hlast' hr hend, ?_⟩
      intro r₁ h₁ r₂ h₂
      have := hcross r₁ h₁ last List.mem_cons_self
      have := (mem_mergeRegions h₂ hend).1
      omega

theorem endOffset_le_of_mem_appendMerged (hle : ∀ r' ∈ l, r'.endOffset ≤ r.offset) {r' : Region β}
    (h : r' ∈ appendMerged l r) : r'.endOffset ≤ r.endOffset := by
  have hpos : r.offset ≤ r.endOffset := Nat.le_add_right _ _
  cases List.eq_nil_or_concat' l with
  | inl hnil =>
      subst hnil
      exact Nat.le_of_eq (congrArg Region.endOffset (List.mem_singleton.mp h))
  | inr hconcat =>
      obtain ⟨init, last, rfl⟩ := hconcat
      rw [appendMerged_concat] at h
      rcases List.mem_append.mp h with hinit | hmerged
      · have := hle r' (List.mem_append_left _ hinit)
        omega
      · exact (mem_mergeRegions hmerged (hle last (by simp))).2

theorem contents_appendMerged (l : List (Region β)) (r : Region β) :
    contents (appendMerged l r) = contents (l ++ [r]) := by
  cases List.eq_nil_or_concat' l with
  | inl hnil => subst hnil; rfl
  | inr hconcat =>
      obtain ⟨init, last, rfl⟩ := hconcat
      funext i
      rw [appendMerged_concat, contents_append, contents_mergeRegions, ← contents_append,
        List.append_assoc]
      rfl

/-- A region between others, merged on both sides. -/
def insertBetween (before after : List (Region β)) (r : Region β) : List (Region β) :=
  match after with
  | [] => appendMerged before r
  | next :: rest => appendMerged (appendMerged before r) next ++ rest

theorem insertBetween_canonical (hbefore : Canonical before) (hafter : Canonical after)
    (hr : r.data ≠ []) (hle : ∀ r' ∈ before, r'.endOffset ≤ r.offset)
    (hge : ∀ r' ∈ after, r.endOffset ≤ r'.offset) : Canonical (insertBetween before after r) := by
  have hleft := appendMerged_canonical hbefore hr hle
  unfold insertBetween
  cases after with
  | nil => exact hleft
  | cons next rest =>
      obtain ⟨hnext, hrest, hcross⟩ := Canonical.cons_iff.mp hafter
      have hbound : ∀ r' ∈ appendMerged before r, r'.endOffset ≤ next.offset := fun r' hr' =>
        Nat.le_trans (endOffset_le_of_mem_appendMerged hle hr') (hge next List.mem_cons_self)
      refine Canonical.append_iff.mpr ⟨appendMerged_canonical hleft hnext hbound, hrest, ?_⟩
      intro r₁ h₁ r₂ h₂
      exact Nat.lt_of_le_of_lt (endOffset_le_of_mem_appendMerged hbound h₁) (hcross r₂ h₂)

theorem contents_insertBetween (before after : List (Region β)) (r : Region β) :
    contents (insertBetween before after r) = contents (before ++ r :: after) := by
  unfold insertBetween
  funext i
  cases after with
  | nil => rw [contents_appendMerged]
  | cons next rest =>
      rw [contents_append, contents_appendMerged, contents_append, contents_appendMerged,
        ← contents_append, ← contents_append]
      simp

/-- Regions that leave room for a region lie before it or after it. -/
structure Around (before after : List (Region β)) (r : Region β) : Prop where
  canonical : Canonical (before ++ after)
  before_le : ∀ r' ∈ before, r'.endOffset ≤ r.offset
  le_after : ∀ r' ∈ after, r.endOffset ≤ r'.offset

/-- With room for it, a region is written over nothing. -/
theorem Around.contents_insert (h : Around before after r) :
    contents (before ++ r :: after) = overwrite (contents (before ++ after)) r := by
  funext i
  unfold overwrite
  rw [contents_append, contents_append, contents_cons]
  by_cases hi : r.offset ≤ i
  · rw [contents_eq_none_of_le fun r' hr' => Nat.le_trans (h.before_le r' hr') hi, Option.none_or,
      Option.none_or]
  · rw [Region.get?_of_lt (Nat.lt_of_not_le hi), Option.none_or, Option.none_or]

/-- Both shortcuts of `replace` do what the general case does. -/
theorem replaceRegions_eq {offset : Nat} {chunk : List β}
    (hsliced : sliceRegions offset (offset + chunk.length) l = before ++ after)
    (h : Around before after ⟨offset, chunk⟩) (hchunk : chunk ≠ []) :
    replaceRegions l offset chunk = insertBetween before after ⟨offset, chunk⟩ := by
  have hpos : 0 < chunk.length := List.length_pos_iff.mpr hchunk
  have hend : (⟨offset, chunk⟩ : Region β).endOffset = offset + chunk.length := rfl
  unfold replaceRegions
  simp only [hend, hsliced]
  cases hfront : (before ++ after).head? with
  | none =>
      rw [List.head?_eq_none_iff, List.append_eq_nil_iff] at hfront
      rw [hfront.1, hfront.2]
      rfl
  | some front =>
      have hne : before ++ after ≠ [] := by
        intro hnil
        simp [hnil] at hfront
      have hback : (before ++ after).getLast? = some ((before ++ after).getLast hne) :=
        List.getLast?_eq_some_getLast hne
      rw [hback]
      dsimp only
      split
      · -- the last region is before the new one, so all are
        rename_i hlast
        cases after with
        | nil => rw [List.append_nil]; rfl
        | cons next rest =>
            have hmem : (before ++ next :: rest).getLast hne ∈ next :: rest := by
              rw [List.getLast_append_of_ne_nil _ (by simp)]
              exact List.getLast_mem _
            have hle := h.le_after _ hmem
            have hin := Region.offset_lt_endOffset
              (h.canonical.nonempty _ (List.getLast_mem hne))
            rw [hend] at hle
            omega
      · split
        · -- the first region is after the new one, so all are
          rename_i hfirst
          cases before with
          | nil =>
              cases after with
              | nil => cases hfront
              | cons next rest =>
                  rw [List.nil_append, List.head?_cons] at hfront
                  rw [Option.some.inj hfront]
                  rfl
          | cons first rest =>
              rw [List.cons_append, List.head?_cons] at hfront
              obtain rfl := Option.some.inj hfront
              have hle := h.before_le first List.mem_cons_self
              have hin := Region.offset_lt_endOffset (h.canonical.nonempty first (by simp))
              dsimp only at hle
              omega
        · unfold insertRegion
          have hbefore : ∀ r ∈ before, decide (r.offset ≤ offset) = true := by
            intro r hr
            have hle := h.before_le r hr
            have hin := Region.offset_lt_endOffset
              (h.canonical.nonempty r (List.mem_append_left _ hr))
            dsimp only at hle
            exact decide_eq_true (by omega)
          have hafter : ∀ r ∈ after, decide (r.offset ≤ offset) = false := by
            intro r hr
            have hge := h.le_after r hr
            rw [hend] at hge
            exact decide_eq_false (by omega)
          have htake : (before ++ after).takeWhile (fun r => r.offset ≤ offset) = before := by
            rw [List.takeWhile_append_of_pos hbefore]
            cases after with
            | nil => simp
            | cons next rest =>
                rw [List.takeWhile_cons_of_neg (by simpa using hafter next List.mem_cons_self),
                  List.append_nil]
          have hdrop : (before ++ after).dropWhile (fun r => r.offset ≤ offset) = after := by
            rw [List.dropWhile_append_of_pos hbefore]
            cases after with
            | nil => rfl
            | cons next rest =>
                rw [List.dropWhile_cons_of_neg (by simpa using hafter next List.mem_cons_self)]
          simp only [htake, hdrop]
          rfl

/-- Canonical regions without values in a range split around it. -/
theorem exists_around (hl : Canonical l) (hr : r.data ≠ [])
    (hfree : ∀ i, r.offset ≤ i → i < r.endOffset → contents l i = none) :
    ∃ before after, l = before ++ after ∧ Around before after r := by
  have hpos := Region.offset_lt_endOffset hr
  induction l with
  | nil => exact ⟨[], [], rfl, .nil, nofun, nofun⟩
  | cons r₀ l ih =>
      obtain ⟨hne, hrest, hcross⟩ := Canonical.cons_iff.mp hl
      have hpos₀ := Region.offset_lt_endOffset hne
      by_cases hbefore : r₀.endOffset ≤ r.offset
      · have htail : ∀ i, r.offset ≤ i → i < r.endOffset → contents l i = none := by
          intro i hi hlt
          have hnone := hfree i hi hlt
          rw [contents_cons, Region.get?_of_le (by omega), Option.none_or] at hnone
          exact hnone
        obtain ⟨before, after, rfl, h⟩ := ih hrest htail
        refine ⟨r₀ :: before, after, rfl, hl, ?_, h.le_after⟩
        exact List.forall_mem_cons.mpr ⟨hbefore, h.before_le⟩
      · -- the first region reaches beyond the start, so it begins after the end
        have hafter : r.endOffset ≤ r₀.offset := by
          by_contra hlt
          have hnone := hfree (max r.offset r₀.offset) (by omega) (by omega)
          rw [hl.contents_head (by omega), Region.get?_eq_none_iff] at hnone
          omega
        refine ⟨[], r₀ :: l, rfl, hl, nofun, ?_⟩
        refine List.forall_mem_cons.mpr ⟨hafter, fun r' hr' => ?_⟩
        have := hcross r' hr'
        omega

end Insert

/-! ## The buffer -/

/-- Canonical regions: their values determine them. -/
structure ChunkBuffer (β : Type*) where
  regions : List (Region β) := []
  canonical : Canonical regions := by exact .nil

theorem replaceRegions_spec {l : List (Region β)} (hl : Canonical l) (offset : Nat)
    {chunk : List β} (hchunk : chunk ≠ []) :
    Canonical (replaceRegions l offset chunk) ∧
      contents (replaceRegions l offset chunk) = overwrite (contents l) ⟨offset, chunk⟩ := by
  have hlt : offset < offset + chunk.length :=
    Nat.lt_add_of_pos_right (List.length_pos_iff.mpr hchunk)
  have hslice := sliceRegions_eq_sliceLoop (s := offset) (e := offset + chunk.length) hl
  have hcanonical := sliceLoop_canonical hlt hl
  have hcontents := contents_sliceLoop hlt hl
  rw [← hslice] at hcanonical hcontents
  obtain ⟨before, after, hsplit, haround⟩ := exists_around (r := ⟨offset, chunk⟩) hcanonical hchunk
    fun i hi he => by
      rw [hcontents]
      exact if_pos ⟨hi, he⟩
  obtain ⟨hbefore, hafter, -⟩ := Canonical.append_iff.mp haround.canonical
  rw [replaceRegions_eq hsplit haround hchunk]
  refine ⟨insertBetween_canonical hbefore hafter hchunk haround.before_le haround.le_after, ?_⟩
  rw [contents_insertBetween, haround.contents_insert, ← hsplit, hcontents]
  exact overwrite_erase _ ⟨offset, chunk⟩

/-- Erasing a region at once is what making room for its range does. -/
theorem eraseP_eq_sliceLoop {l : List (Region β)} (hl : Canonical l) {offset length : Nat}
    (h : l.any (fun r => r.offset = offset ∧ r.data.length = length) = true) :
    l.eraseP (fun r => r.offset = offset ∧ r.data.length = length) =
      sliceLoop offset (offset + length) l := by
  induction l with
  | nil => cases h
  | cons r l ih =>
      obtain ⟨hne, hrest, hcross⟩ := Canonical.cons_iff.mp hl
      have hpos := List.length_pos_iff.mpr hne
      unfold sliceLoop
      by_cases hr : r.offset = offset ∧ r.data.length = length
      · have hend : r.endOffset = offset + length := by
          rw [Region.endOffset, hr.1, hr.2]
        rw [List.eraseP_cons_of_pos (by simpa using hr), if_neg (by omega), if_pos (by omega)]
        exact (sliceLoop_eq_self fun r' hr' => by have := hcross r' hr'; omega).symm
      · rw [List.any_cons, decide_eq_false hr, Bool.false_or] at h
        obtain ⟨r', hr', hexact⟩ := List.any_eq_true.mp h
        have := hcross r' hr'
        have := of_decide_eq_true hexact
        rw [List.eraseP_cons_of_neg (by simpa using hr), if_pos (by omega), ih hrest h]

theorem clearRegions_spec {l : List (Region β)} (hl : Canonical l) (offset : Nat) {length : Nat}
    (hlength : 0 < length) :
    Canonical (clearRegions l offset length) ∧
      contents (clearRegions l offset length) = erase (contents l) offset (offset + length) := by
  have hlt : offset < offset + length := Nat.lt_add_of_pos_right hlength
  have heq : clearRegions l offset length = sliceLoop offset (offset + length) l := by
    unfold clearRegions
    split
    · rename_i h
      exact eraseP_eq_sliceLoop hl h
    · exact sliceRegions_eq_sliceLoop hl
  rw [heq]
  exact ⟨sliceLoop_canonical hlt hl, contents_sliceLoop hlt hl⟩

/-! ### Runs -/

inductive BufferOp (β : Type*)
  | replace (offset : Nat) (chunk : List β)
  | clear (offset length : Nat)
deriving DecidableEq, Repr

namespace BufferOp

/-- The operation on the regions; an empty chunk is refused. -/
def step (regions : List (Region β)) : BufferOp β → Except Halt (List (Region β))
  | .replace offset chunk =>
      if chunk.isEmpty then .error (.cRuntimeError "chunk is empty")
      else .ok (replaceRegions regions offset chunk)
  | .clear offset length => .ok (clearRegions regions offset length)

/-- What the operation is for: values are written, or forgotten. -/
def apply (f : Nat → Option β) : BufferOp β → Nat → Option β
  | .replace offset chunk => overwrite f ⟨offset, chunk⟩
  | .clear offset length => erase f offset (offset + length)

theorem step_refines {l l' : List (Region β)} {op : BufferOp β} (hl : Canonical l)
    (hop : ∀ offset length, op = .clear offset length → 0 < length) (h : op.step l = .ok l') :
    Canonical l' ∧ contents l' = op.apply (contents l) := by
  cases op with
  | replace offset chunk =>
      simp only [step, List.isEmpty_iff] at h
      split at h
      · cases h
      · rename_i hne
        obtain rfl := Except.ok.inj h
        exact replaceRegions_spec hl offset hne
  | clear offset length =>
      obtain rfl := Except.ok.inj h
      exact clearRegions_spec hl offset (hop offset length rfl)

/-- In every run of operations, the regions stay in order and unconnected, and they hold
what was written last and not cleared since; a cleared range is not empty. -/
theorem run_refines {ops : List (BufferOp β)} {l : List (Region β)}
    (hclear : ∀ offset length, .clear offset length ∈ ops → 0 < length)
    (hrun : run (fun l op => op.step l) [] ops = .ok l) :
    Canonical l ∧ contents l = ops.foldl apply fun _ => none := by
  have hfrom : ∀ (l₀ : List (Region β)), Canonical l₀ →
      run (fun l (op : BufferOp β) => op.step l) l₀ ops = .ok l →
      Canonical l ∧ contents l = ops.foldl apply (contents l₀) := by
    clear hrun
    induction ops with
    | nil =>
        intro l₀ hl₀ hrun
        obtain rfl := Except.ok.inj hrun
        exact ⟨hl₀, rfl⟩
    | cons op ops ih =>
        intro l₀ hl₀ hrun
        obtain ⟨l₁, hstep, hrest⟩ := run_cons_inv hrun
        obtain ⟨hl₁, hcontents⟩ := step_refines hl₀
          (fun offset length heq => hclear offset length (heq ▸ List.mem_cons_self)) hstep
        rw [List.foldl_cons, ← hcontents]
        exact ih (fun offset length h => hclear offset length (List.mem_cons_of_mem _ h)) l₁ hl₁ hrest
  exact hfrom [] .nil hrun

/-- The third piece overlaps the first and closes the gap to the second. -/
theorem run_refines_overlapping :
    ∃ l, run (fun l (op : BufferOp Nat) => op.step l) []
        [.replace 0 [1, 2], .replace 4 [5], .replace 1 [7, 8, 9], .clear 2 1] = .ok l ∧
      l = [⟨0, [1, 7]⟩, ⟨3, [9, 5]⟩] ∧ Canonical l :=
  ⟨_, rfl, by decide, (@run_refines Nat [.replace 0 [1, 2], .replace 4 [5], .replace 1 [7, 8, 9],
    .clear 2 1] _ (by simp) rfl).1⟩

end BufferOp

namespace ChunkBuffer

variable {buffer : ChunkBuffer β}

def value (buffer : ChunkBuffer β) : Nat → Option β := contents buffer.regions

theorem eq_of_value {buffer' : ChunkBuffer β} (h : buffer.value = buffer'.value) :
    buffer = buffer' := by
  have hregions := buffer.canonical.eq_of_contents buffer'.canonical h
  cases buffer
  cases buffer'
  cases hregions
  rfl

/-- `ChunkBuffer::replace`, which is checked against empty chunks. -/
def replace (buffer : ChunkBuffer β) (offset : Nat) (chunk : List β) :
    Except Halt (ChunkBuffer β) :=
  if h : chunk = [] then .error (.cRuntimeError "chunk is empty")
  else .ok ⟨replaceRegions buffer.regions offset chunk,
    (replaceRegions_spec buffer.canonical offset h).1⟩

theorem replace_spec {offset : Nat} {chunk : List β} {buffer' : ChunkBuffer β}
    (h : buffer.replace offset chunk = .ok buffer') :
    chunk ≠ [] ∧ buffer'.value = overwrite buffer.value ⟨offset, chunk⟩ := by
  unfold replace at h
  split at h
  · cases h
  · rename_i hne
    obtain rfl := Except.ok.inj h
    exact ⟨hne, (replaceRegions_spec buffer.canonical offset hne).2⟩

end ChunkBuffer

end MultiTechBus.Packet
