import Mathlib.Algebra.GroupWithZero.Nat
import Mathlib.Data.Int.Order.Basic
import Mathlib.Data.List.Basic
import Mathlib.Data.Prod.Lex
import MultiTechBus.Ieee80211.Mac.DataFrames
import MultiTechBus.Library.Gathering
import MultiTechBus.Packet.ChunkBuffer

/-! # Fragments of frames

`BasicFragmentationPolicy` and `Fragmentation` break a frame that exceeds the fragmentation
threshold into at most sixteen fragments, and `BasicReassembly` with `Defragmentation` puts
the fragments of a frame together, which may arrive in any order and more than once. Bits
of words of 16 tell which fragments are there.
-/

namespace MultiTechBus.Ieee80211

open MultiTechBus.Library
open MultiTechBus.Packet

/-- A data or management frame: its header and its body. -/
@[ext] structure Mpdu (β : Type*) where
  header : Ieee80211DataHeader
  sequenceNumber : BitVec 12 := 0
  fragmentNumber : Nat := 0
  moreFragments : Bool := false
  retry : Bool := false
  body : List β
deriving DecidableEq, Repr

def MAX_NUM_FRAGMENTS : Nat := 16

/-- The lengths of a header without the part for QoS, of that part, and of the trailer. -/
def DATAFRAME_HEADER_MINLENGTH : Nat := 24

def QOSCONTROL_PART_LENGTH : Nat := 2

def trailerLength : Nat := 4

variable {β : Type*}

namespace Mpdu

/-- Management types come before the control types. -/
def isMgmt (frame : Mpdu β) : Bool := frame.header.type < 0x18#8

def headerLength (frame : Mpdu β) : Nat :=
  if frame.header.type = ST_DATA_WITH_QOS then DATAFRAME_HEADER_MINLENGTH + QOSCONTROL_PART_LENGTH
  else DATAFRAME_HEADER_MINLENGTH

def byteLength (frame : Mpdu β) : Nat := frame.headerLength + frame.body.length + trailerLength

end Mpdu

/-! ## Breaking frames -/

/-- The loop of `computeFragmentSizes`, at most so many times around. -/
def fragmentSizesLoop (fragmentationThreshold headerLength maxFragmentPayload : Nat) :
    Nat → Nat → List Nat
  | 0, payloadLength => if payloadLength ≠ 0 then [payloadLength] else []
  | n + 1, payloadLength =>
      if fragmentationThreshold < headerLength + trailerLength + payloadLength then
        maxFragmentPayload ::
          fragmentSizesLoop fragmentationThreshold headerLength maxFragmentPayload n
            (payloadLength - maxFragmentPayload)
      else if payloadLength ≠ 0 then [payloadLength] else []

/-- `BasicFragmentationPolicy::computeFragmentSizes`; no sizes where the frame is sent as it
is. A management frame counts as all header. -/
def computeFragmentSizes (fragmentationThreshold : Nat) (frame : Mpdu β) :
    Except Halt (List Nat) :=
  if fragmentationThreshold < frame.byteLength then
    let headerLength := if frame.isMgmt then frame.byteLength else frame.headerLength
    let payloadLength := if frame.isMgmt then 0 else frame.body.length
    let maxFragmentPayload : Int := fragmentationThreshold - headerLength - trailerLength
    if maxFragmentPayload * MAX_NUM_FRAGMENTS < payloadLength then
      .error (.cRuntimeError "Fragmentation: frame too large, won't fit into 16 fragments")
    else
      .ok (fragmentSizesLoop fragmentationThreshold headerLength maxFragmentPayload.toNat
        MAX_NUM_FRAGMENTS payloadLength)
  else .ok []

/-- The fragments from number `i` on. -/
def fragmentFrameFrom (frame : Mpdu β) : List Nat → Nat → Nat → List (Mpdu β)
  | [], _, _ => []
  | length :: fragmentSizes, i, offset =>
      { frame with
        fragmentNumber := i
        moreFragments := !fragmentSizes.isEmpty
        body := peek frame.body offset length } ::
          fragmentFrameFrom frame fragmentSizes (i + 1) (offset + length)

/-- `Fragmentation::fragmentFrame`. -/
def fragmentFrame (frame : Mpdu β) (fragmentSizes : List Nat) : List (Mpdu β) :=
  fragmentFrameFrom frame fragmentSizes 0 0

/-! ## Putting frames together -/

/-- `Defragmentation::defragmentFrames`. -/
def defragmentFrames : List (Mpdu β) → Except Halt (Mpdu β)
  | [] => .error (.cRuntimeError "vector::at")
  | first :: rest =>
      .ok { first with
        fragmentNumber := 0
        moreFragments := false
        body := (first :: rest).flatMap Mpdu.body }

namespace BasicReassembly

structure Key where
  macAddress : MacAddress
  tid : Int
  seqNum : BitVec 12
deriving DecidableEq, Repr

/-- By address, then traffic identifier, then sequence number. -/
instance : LinearOrder Key :=
  LinearOrder.lift' (fun key => toLex (key.macAddress, toLex (key.tid, key.seqNum))) <| by
    intro key key' h
    simp only [toLex_inj, Prod.mk.injEq] at h
    obtain ⟨hmac, htid, hseq⟩ := h
    cases key
    cases key'
    cases hmac
    cases htid
    cases hseq
    rfl

structure Value (β : Type*) where
  fragments : List (Option (Mpdu β)) := List.replicate 16 none
  /-- Each bit corresponds to a fragment number. -/
  receivedFragments : BitVec 16 := 0
  /-- Bits for all fragments set to one; 0 means unfilled. -/
  allFragments : BitVec 16 := 0

end BasicReassembly

abbrev FragmentsMap (β : Type*) := OrderedMap BasicReassembly.Key (BasicReassembly.Value β)

/-- The entry that a frame belongs to. -/
def Mpdu.key (frame : Mpdu β) : BasicReassembly.Key :=
  ⟨frame.header.transmitterAddress,
    if frame.header.type = ST_DATA_WITH_QOS then frame.header.tid.toNat else -1,
    frame.sequenceNumber⟩

namespace BasicReassembly

/-- The entry after a fragment: the first copy of a fragment is kept. -/
def Value.update (value : Value β) (packet : Mpdu β) : Value β where
  fragments :=
    match value.fragments[packet.fragmentNumber]? with
    | some none => value.fragments.set packet.fragmentNumber (some packet)
    | _ => value.fragments
  receivedFragments := value.receivedFragments ||| BitVec.ofNat 16 (2 ^ packet.fragmentNumber)
  allFragments :=
    if packet.moreFragments then value.allFragments
    else BitVec.ofNat 16 (2 ^ (packet.fragmentNumber + 1) - 1)

/-- `BasicReassembly::addFragment`. -/
def addFragment (fragmentsMap : FragmentsMap β) (packet : Mpdu β) :
    Except Halt (FragmentsMap β × Option (Mpdu β)) :=
  if packet.moreFragments = false ∧ packet.fragmentNumber = 0 then .ok (fragmentsMap, some packet)
  else if packet.isMgmt then .ok (fragmentsMap, some packet)
  else if MAX_NUM_FRAGMENTS ≤ packet.fragmentNumber then
    .error (.cRuntimeError "ASSERT: fragNum >= 0 && fragNum < MAX_NUM_FRAGMENTS")
  else
    let value := ((fragmentsMap.find? packet.key).getD {}).update packet
    if value.allFragments ≠ 0 ∧ value.allFragments = value.receivedFragments then
      (defragmentFrames (value.fragments.filterMap id)).map fun frame =>
        (fragmentsMap.erase packet.key, some frame)
    else .ok (fragmentsMap.insert packet.key value, none)

end BasicReassembly

/-! ## Sizes -/

section Sizes

variable {fragmentationThreshold headerLength maxFragmentPayload n payloadLength : Nat}

/-- With enough turns left, the sizes add up, and none is larger than the threshold
allows. -/
theorem fragmentSizesLoop_spec
    (hmax : fragmentationThreshold = headerLength + trailerLength + maxFragmentPayload)
    (hpos : 0 < maxFragmentPayload) (hfuel : payloadLength ≤ n * maxFragmentPayload) :
    (fragmentSizesLoop fragmentationThreshold headerLength maxFragmentPayload n payloadLength).sum =
      payloadLength ∧
    (∀ size ∈ fragmentSizesLoop fragmentationThreshold headerLength maxFragmentPayload n
        payloadLength, 0 < size ∧ size ≤ maxFragmentPayload) ∧
    (fragmentSizesLoop fragmentationThreshold headerLength maxFragmentPayload n
      payloadLength).length ≤ n := by
  induction n generalizing payloadLength with
  | zero =>
      rw [Nat.zero_mul, Nat.le_zero] at hfuel
      subst hfuel
      exact ⟨rfl, nofun, Nat.le_refl _⟩
  | succ n ih =>
      rw [Nat.succ_mul] at hfuel
      unfold fragmentSizesLoop
      split
      · obtain ⟨hsum, hall, hlength⟩ := @ih (payloadLength - maxFragmentPayload) (by omega)
        refine ⟨?_, List.forall_mem_cons.mpr ⟨⟨hpos, Nat.le_refl _⟩, hall⟩, ?_⟩
        · rw [List.sum_cons, hsum]
          omega
        · rw [List.length_cons]
          omega
      · split
        · refine ⟨by simp, List.forall_mem_singleton.mpr ⟨by omega, by omega⟩, by simp⟩
        · refine ⟨?_, nofun, Nat.zero_le _⟩
          rw [List.sum_nil]
          omega

end Sizes

theorem two_le_length_of_sum {sizes : List Nat} {bound : Nat} (hall : ∀ size ∈ sizes, size ≤ bound)
    (hsum : bound < sizes.sum) : 2 ≤ sizes.length := by
  match sizes with
  | [] =>
      rw [List.sum_nil] at hsum
      omega
  | [size] =>
      have := hall size List.mem_cons_self
      rw [List.sum_singleton] at hsum
      omega
  | _ :: _ :: _ => exact Nat.le_add_left _ _

/-- Only data frames are broken. The sizes of the fragments add up to the body, there are at
most sixteen, and no fragment is longer than the threshold. -/
theorem computeFragmentSizes_spec {fragmentationThreshold : Nat} {frame : Mpdu β}
    {fragmentSizes : List Nat}
    (h : computeFragmentSizes fragmentationThreshold frame = .ok fragmentSizes)
    (hne : fragmentSizes ≠ []) :
    frame.isMgmt = false ∧ fragmentSizes.sum = frame.body.length ∧ 2 ≤ fragmentSizes.length ∧
      fragmentSizes.length ≤ MAX_NUM_FRAGMENTS ∧
      ∀ size ∈ fragmentSizes, 0 < size ∧
        frame.headerLength + size + trailerLength ≤ fragmentationThreshold := by
  unfold computeFragmentSizes at h
  split at h
  · rename_i hexceeds
    dsimp only at h
    have hdata : frame.isMgmt = false := by
      by_contra hmgmt
      rw [Bool.not_eq_false] at hmgmt
      rw [hmgmt, if_pos rfl, if_pos rfl, if_pos] at h
      · cases h
      · unfold MAX_NUM_FRAGMENTS trailerLength
        omega
    rw [hdata] at h
    simp only [Bool.false_eq_true, if_false] at h
    split at h
    · cases h
    · rename_i hfits
      obtain rfl := Except.ok.inj h
      unfold Mpdu.byteLength trailerLength at hexceeds
      unfold MAX_NUM_FRAGMENTS trailerLength at hfits
      obtain ⟨maxFragmentPayload, hmax⟩ : ∃ m : Nat,
          fragmentationThreshold = frame.headerLength + trailerLength + m :=
        ⟨fragmentationThreshold - (frame.headerLength + 4), by unfold trailerLength; omega⟩
      have htoNat : ((fragmentationThreshold : Int) - frame.headerLength - trailerLength).toNat =
          maxFragmentPayload := by omega
      have hvalue : trailerLength = 4 := rfl
      rw [htoNat]
      have hfuel : frame.body.length ≤ MAX_NUM_FRAGMENTS * maxFragmentPayload := by
        unfold MAX_NUM_FRAGMENTS
        omega
      obtain ⟨hsum, hall, hlength⟩ := fragmentSizesLoop_spec hmax (by omega) hfuel
      refine ⟨hdata, hsum, two_le_length_of_sum (fun size hsize => (hall size hsize).2) (by omega),
        hlength, fun size hsize => ⟨(hall size hsize).1, ?_⟩⟩
      have := (hall size hsize).2
      omega
  · exact absurd (Except.ok.inj h).symm hne

/-! ## The fragments of a frame -/

section Fragments

variable {frame : Mpdu β} {fragmentSizes : List Nat}

theorem getElem?_fragmentFrameFrom (frame : Mpdu β) (fragmentSizes : List Nat) (i offset k : Nat) :
    (fragmentFrameFrom frame fragmentSizes i offset)[k]? =
      fragmentSizes[k]?.map fun length =>
        { frame with
          fragmentNumber := i + k
          moreFragments := decide (k + 1 < fragmentSizes.length)
          body := peek frame.body (offset + (fragmentSizes.take k).sum) length } := by
  induction fragmentSizes generalizing i offset k with
  | nil => rfl
  | cons length fragmentSizes ih =>
      cases k with
      | zero =>
          cases fragmentSizes <;> simp [fragmentFrameFrom]
      | succ k =>
          rw [fragmentFrameFrom, List.getElem?_cons_succ, ih, List.getElem?_cons_succ]
          congr 1
          funext l
          simp only [List.length_cons, List.take_succ_cons, List.sum_cons, Nat.add_assoc,
            Nat.add_comm 1 k, Nat.succ_lt_succ_iff]

theorem length_fragmentFrameFrom (frame : Mpdu β) (fragmentSizes : List Nat) (i offset : Nat) :
    (fragmentFrameFrom frame fragmentSizes i offset).length = fragmentSizes.length := by
  induction fragmentSizes generalizing i offset with
  | nil => rfl
  | cons length fragmentSizes ih => rw [fragmentFrameFrom, List.length_cons, ih, List.length_cons]

theorem flatMap_body_fragmentFrameFrom (frame : Mpdu β) (fragmentSizes : List Nat)
    (i offset : Nat) :
    (fragmentFrameFrom frame fragmentSizes i offset).flatMap Mpdu.body =
      peek frame.body offset fragmentSizes.sum := by
  unfold peek
  induction fragmentSizes generalizing i offset with
  | nil => simp [fragmentFrameFrom]
  | cons length fragmentSizes ih =>
      rw [fragmentFrameFrom, List.flatMap_cons, ih, List.sum_cons, peek, ← List.drop_drop,
        ← List.take_add]

theorem filterMap_getElem?_range {α : Type*} (l : List α) :
    (List.range l.length).filterMap (l[·]?) = l := by
  induction l with
  | nil => rfl
  | cons a l ih =>
      rw [List.length_cons, List.range_succ_eq_map, List.filterMap_cons, List.filterMap_map]
      simpa using ih

end Fragments

/-- The frames that carry a frame: its fragments, or itself where there are no sizes. -/
def fragments (whole : Mpdu β) (fragmentSizes : List Nat) : List (Mpdu β) :=
  if fragmentSizes = [] then [whole] else fragmentFrame whole fragmentSizes

/-- A frame and the sizes of its fragments, if it is to be broken. -/
structure Broken (whole : Mpdu β) (fragmentSizes : List Nat) : Prop where
  number : whole.fragmentNumber = 0
  more : whole.moreFragments = false
  data : fragmentSizes ≠ [] → whole.isMgmt = false
  sum : fragmentSizes ≠ [] → fragmentSizes.sum = whole.body.length
  two_le : fragmentSizes ≠ [] → 2 ≤ fragmentSizes.length
  length_le : fragmentSizes.length ≤ MAX_NUM_FRAGMENTS

instance (whole : Mpdu β) (fragmentSizes : List Nat) : Decidable (Broken whole fragmentSizes) :=
  decidable_of_iff (whole.fragmentNumber = 0 ∧ whole.moreFragments = false ∧
    (fragmentSizes ≠ [] → whole.isMgmt = false) ∧
    (fragmentSizes ≠ [] → fragmentSizes.sum = whole.body.length) ∧
    (fragmentSizes ≠ [] → 2 ≤ fragmentSizes.length) ∧ fragmentSizes.length ≤ MAX_NUM_FRAGMENTS)
    ⟨fun ⟨number, more, data, sum, two_le, length_le⟩ =>
      ⟨number, more, data, sum, two_le, length_le⟩,
      fun h => ⟨h.number, h.more, h.data, h.sum, h.two_le, h.length_le⟩⟩

theorem broken_of_computeFragmentSizes {fragmentationThreshold : Nat} {frame : Mpdu β}
    {fragmentSizes : List Nat} (hnumber : frame.fragmentNumber = 0)
    (hmore : frame.moreFragments = false)
    (h : computeFragmentSizes fragmentationThreshold frame = .ok fragmentSizes) :
    Broken frame fragmentSizes where
  number := hnumber
  more := hmore
  data := fun hne => (computeFragmentSizes_spec h hne).1
  sum := fun hne => (computeFragmentSizes_spec h hne).2.1
  two_le := fun hne => (computeFragmentSizes_spec h hne).2.2.1
  length_le := by
    rcases eq_or_ne fragmentSizes [] with rfl | hne
    · exact Nat.zero_le _
    · exact (computeFragmentSizes_spec h hne).2.2.2.1

/-- A copy of a fragment; it may be a retransmission. -/
def FragmentOf (whole : Mpdu β) (fragmentSizes : List Nat) (fragment : Mpdu β) : Prop :=
  (fragments whole fragmentSizes)[fragment.fragmentNumber]? =
    some { fragment with retry := whole.retry }

instance [DecidableEq β] (whole fragment : Mpdu β) (fragmentSizes : List Nat) :
    Decidable (FragmentOf whole fragmentSizes fragment) :=
  inferInstanceAs (Decidable (_ = _))

section Copies

variable {whole fragment : Mpdu β} {fragmentSizes : List Nat}

theorem length_fragments_of_ne (hne : fragmentSizes ≠ []) :
    (fragments whole fragmentSizes).length = fragmentSizes.length := by
  rw [fragments, if_neg hne, fragmentFrame, length_fragmentFrameFrom]

theorem length_fragments_pos (hbroken : Broken whole fragmentSizes) :
    0 < (fragments whole fragmentSizes).length := by
  rcases eq_or_ne fragmentSizes [] with rfl | hne
  · exact Nat.one_pos
  · have htwo := hbroken.two_le hne
    rw [length_fragments_of_ne hne]
    omega

theorem FragmentOf.common (h : FragmentOf whole fragmentSizes fragment) :
    fragment = { whole with
      fragmentNumber := fragment.fragmentNumber
      moreFragments := fragment.moreFragments
      retry := fragment.retry
      body := fragment.body } := by
  unfold FragmentOf fragments at h
  split at h
  · obtain ⟨hlt, heq⟩ := List.getElem?_eq_some_iff.mp h
    rw [List.getElem_singleton] at heq
    simp only [Mpdu.ext_iff] at heq ⊢
    simp [heq]
  · rw [fragmentFrame, getElem?_fragmentFrameFrom, Option.map_eq_some_iff] at h
    obtain ⟨size, -, heq⟩ := h
    simp only [Mpdu.ext_iff] at heq ⊢
    simp [heq]

theorem FragmentOf.key_eq (h : FragmentOf whole fragmentSizes fragment) :
    fragment.key = whole.key := by
  rw [h.common]
  rfl

theorem FragmentOf.isMgmt_eq (h : FragmentOf whole fragmentSizes fragment) :
    fragment.isMgmt = whole.isMgmt := by
  rw [h.common]
  rfl

theorem FragmentOf.eq_whole (h : FragmentOf whole [] fragment) :
    fragment = { whole with retry := fragment.retry } := by
  obtain ⟨hlt, heq⟩ := List.getElem?_eq_some_iff.mp h
  have hzero : fragment.fragmentNumber = 0 := Nat.lt_one_iff.mp hlt
  simp only [fragments, if_pos, List.getElem_singleton, Mpdu.ext_iff] at heq ⊢
  simp [heq]

theorem FragmentOf.number (h : FragmentOf whole fragmentSizes fragment) (hne : fragmentSizes ≠ []) :
    fragment.fragmentNumber < fragmentSizes.length ∧
      fragment.moreFragments = decide (fragment.fragmentNumber + 1 < fragmentSizes.length) := by
  rw [FragmentOf, fragments, if_neg hne, fragmentFrame, getElem?_fragmentFrameFrom,
    Option.map_eq_some_iff] at h
  obtain ⟨size, hsize, heq⟩ := h
  obtain ⟨hlt, -⟩ := List.getElem?_eq_some_iff.mp hsize
  rw [Mpdu.ext_iff] at heq
  exact ⟨hlt, heq.2.2.2.1.symm⟩

end Copies

/-! ## What an entry holds -/

namespace BasicReassembly

def firstCopy (pieces : List (Mpdu β)) (k : Nat) : Option (Mpdu β) :=
  pieces.find? fun piece => piece.fragmentNumber = k

def Complete (whole : Mpdu β) (fragmentSizes : List Nat) (pieces : List (Mpdu β)) : Prop :=
  ∀ k < (fragments whole fragmentSizes).length, ∃ piece ∈ pieces, piece.fragmentNumber = k

instance (whole : Mpdu β) (fragmentSizes : List Nat) (pieces : List (Mpdu β)) :
    Decidable (Complete whole fragmentSizes pieces) :=
  inferInstanceAs (Decidable (∀ k < (fragments whole fragmentSizes).length,
    ∃ piece ∈ pieces, piece.fragmentNumber = k))

/-- A frame that is put together is marked as a retransmission if the first copy of its
first fragment was. -/
def reassembled (whole : Mpdu β) (pieces : List (Mpdu β)) : Option (Mpdu β) :=
  (firstCopy pieces 0).map fun piece => { whole with retry := piece.retry }

/-- An entry for some copies of the fragments of a frame. -/
structure Holds (whole : Mpdu β) (fragmentSizes : List Nat) (value : Value β)
    (pieces : List (Mpdu β)) : Prop where
  fragmentOf : ∀ piece ∈ pieces, FragmentOf whole fragmentSizes piece
  fragments : value.fragments = (List.range MAX_NUM_FRAGMENTS).map (firstCopy pieces)
  received : ∀ k < MAX_NUM_FRAGMENTS, value.receivedFragments.getLsbD k =
    decide (∃ piece ∈ pieces, piece.fragmentNumber = k)
  all : value.allFragments =
    if ∃ piece ∈ pieces, piece.moreFragments = false then
      BitVec.ofNat 16 (2 ^ fragmentSizes.length - 1)
    else 0

theorem getElem?_map_range {α : Type*} (f : Nat → α) (k : Nat) :
    ((List.range MAX_NUM_FRAGMENTS).map f)[k]? =
      if k < MAX_NUM_FRAGMENTS then some (f k) else none := by
  rw [List.getElem?_map]
  split
  · rename_i hlt
    rw [List.getElem?_range hlt]
    rfl
  · rename_i hge
    rw [List.getElem?_eq_none (by rw [List.length_range]; omega)]
    rfl

theorem mem_of_firstCopy {pieces : List (Mpdu β)} {k : Nat} {piece : Mpdu β}
    (h : firstCopy pieces k = some piece) : piece ∈ pieces ∧ piece.fragmentNumber = k :=
  ⟨List.mem_of_find?_eq_some h, by simpa using List.find?_some h⟩

theorem exists_firstCopy {pieces : List (Mpdu β)} {k : Nat}
    (h : ∃ piece ∈ pieces, piece.fragmentNumber = k) : ∃ piece, firstCopy pieces k = some piece := by
  rw [← Option.isSome_iff_exists]
  unfold firstCopy
  rw [List.find?_isSome]
  simpa using h

namespace Holds

variable {whole packet : Mpdu β} {fragmentSizes : List Nat} {value : Value β}
  {pieces : List (Mpdu β)}

theorem empty (whole : Mpdu β) (fragmentSizes : List Nat) : Holds whole fragmentSizes {} [] where
  fragmentOf := nofun
  fragments := rfl
  received := fun k _ => by simp
  all := by simp

theorem length_fragments (h : Holds whole fragmentSizes value pieces) :
    value.fragments.length = MAX_NUM_FRAGMENTS := by
  rw [h.fragments, List.length_map, List.length_range]

theorem update (h : Holds whole fragmentSizes value pieces)
    (hbroken : Broken whole fragmentSizes) (hne : fragmentSizes ≠ [])
    (hpacket : FragmentOf whole fragmentSizes packet) :
    Holds whole fragmentSizes (value.update packet) (pieces ++ [packet]) := by
  obtain ⟨hlt, hmore⟩ := hpacket.number hne
  have hle := hbroken.length_le
  have hfirst : ∀ k, firstCopy (pieces ++ [packet]) k =
      (firstCopy pieces k).or (if packet.fragmentNumber = k then some packet else none) := by
    intro k
    unfold firstCopy
    rw [List.find?_append, List.find?_singleton]
    simp only [decide_eq_true_eq]
  refine ⟨?_, ?_, ?_, ?_⟩
  · intro piece hpiece
    rcases List.mem_append.mp hpiece with hold | hnew
    · exact h.fragmentOf piece hold
    · rw [List.mem_singleton.mp hnew]
      exact hpacket
  · have hget : ∀ k, value.fragments[k]? =
        if k < MAX_NUM_FRAGMENTS then some (firstCopy pieces k) else none := by
      intro k
      rw [h.fragments]
      exact getElem?_map_range (firstCopy pieces) k
    apply List.ext_getElem?
    intro k
    rw [getElem?_map_range, hfirst]
    unfold Value.update
    dsimp only
    rw [hget packet.fragmentNumber, if_pos (Nat.lt_of_lt_of_le hlt hle)]
    cases hold : firstCopy pieces packet.fragmentNumber with
    | none =>
        dsimp only
        rw [List.getElem?_set, hget]
        split
        · rename_i heq
          subst heq
          rw [h.length_fragments, hold]
          simp [Nat.lt_of_lt_of_le hlt hle]
        · simp
    | some first =>
        dsimp only
        rw [hget]
        split
        · split
          · rename_i heq
            subst heq
            rw [hold]
            rfl
          · simp
        · rfl
  · intro k hk
    unfold Value.update
    rw [BitVec.getLsbD_or, h.received k hk, BitVec.getLsbD_ofNat, Nat.testBit_two_pow]
    simp only [List.mem_append, List.mem_singleton, or_and_right, exists_or, exists_eq_left,
      Bool.decide_or]
    simp [MAX_NUM_FRAGMENTS] at hk ⊢
    simp [hk]
  · unfold Value.update
    dsimp only
    simp only [List.mem_append, List.mem_singleton, or_and_right, exists_or, exists_eq_left]
    cases hlast : packet.moreFragments with
    | true => simpa using h.all
    | false =>
        rw [hlast] at hmore
        have : packet.fragmentNumber + 1 = fragmentSizes.length := by
          have := of_decide_eq_false hmore.symm
          omega
        simp [this]

theorem all_eq (h : Holds whole fragmentSizes value pieces) (hbroken : Broken whole fragmentSizes)
    (hne : fragmentSizes ≠ []) (hcomplete : Complete whole fragmentSizes pieces) :
    value.allFragments = BitVec.ofNat 16 (2 ^ fragmentSizes.length - 1) := by
  have htwo := hbroken.two_le hne
  rw [Complete, length_fragments_of_ne hne] at hcomplete
  obtain ⟨last, hmem, hnumber⟩ := hcomplete (fragmentSizes.length - 1) (by omega)
  have hlast := ((h.fragmentOf last hmem).number hne).2
  rw [h.all, if_pos ⟨last, hmem, hlast.trans (decide_eq_false (by omega))⟩]

theorem allFragments_iff (h : Holds whole fragmentSizes value pieces)
    (hbroken : Broken whole fragmentSizes) (hne : fragmentSizes ≠ []) :
    value.allFragments ≠ 0 ∧ value.allFragments = value.receivedFragments ↔
      Complete whole fragmentSizes pieces := by
  have htwo := hbroken.two_le hne
  have hle := hbroken.length_le
  have hbits : ∀ k < 16, (BitVec.ofNat 16 (2 ^ fragmentSizes.length - 1)).getLsbD k =
      decide (k < fragmentSizes.length) := by
    intro k hk
    rw [BitVec.getLsbD_ofNat, Nat.testBit_two_pow_sub_one]
    simp [hk]
  constructor
  · rintro ⟨hfilled, heq⟩ k hk
    rw [length_fragments_of_ne hne] at hk
    have hall := h.all
    split at hall
    · have hbit := hbits k (Nat.lt_of_lt_of_le hk hle)
      rw [← hall, heq, h.received k (Nat.lt_of_lt_of_le hk hle), decide_eq_decide] at hbit
      exact hbit.mpr hk
    · exact absurd hall hfilled
  · intro hcomplete
    have hall := h.all_eq hbroken hne hcomplete
    have heq : value.allFragments = value.receivedFragments := by
      apply BitVec.eq_of_getLsbD_eq
      intro k hk
      rw [hall, hbits k hk, h.received k hk, decide_eq_decide]
      constructor
      · intro hlt
        exact hcomplete k (by rwa [length_fragments_of_ne hne])
      · rintro ⟨piece, hpiece, rfl⟩
        exact ((h.fragmentOf piece hpiece).number hne).1
    refine ⟨fun hzero => ?_, heq⟩
    have hbit := hbits 0 (by omega)
    rw [← hall, hzero] at hbit
    simp [List.length_pos_iff.mpr hne] at hbit

/-- The fragments that are there, in the order of their numbers. -/
theorem exists_copies (h : Holds whole fragmentSizes value pieces)
    (hbroken : Broken whole fragmentSizes) (hne : fragmentSizes ≠ [])
    (hcomplete : Complete whole fragmentSizes pieces) :
    (value.fragments.filterMap id).map (fun copy => { copy with retry := whole.retry }) =
        fragmentFrame whole fragmentSizes ∧
      (value.fragments.filterMap id).head? = firstCopy pieces 0 := by
  have htwo := hbroken.two_le hne
  have hle := hbroken.length_le
  rw [Complete, length_fragments_of_ne hne] at hcomplete
  have hsome : ∀ k < fragmentSizes.length, ∃ piece, firstCopy pieces k = some piece :=
    fun k hk => exists_firstCopy (hcomplete k hk)
  have hnone : ∀ k, fragmentSizes.length ≤ k → firstCopy pieces k = none := by
    intro k hk
    unfold firstCopy
    rw [List.find?_eq_none]
    intro piece hpiece hnumber
    have hlt := ((h.fragmentOf piece hpiece).number hne).1
    have : piece.fragmentNumber = k := by simpa using hnumber
    omega
  have hfragments : value.fragments.filterMap id =
      (List.range fragmentSizes.length).filterMap (firstCopy pieces) := by
    obtain ⟨rest, hrest⟩ := Nat.exists_eq_add_of_le hle
    rw [h.fragments, List.filterMap_map, hrest, List.range_add, List.filterMap_append]
    have hempty : ((List.range rest).map (fragmentSizes.length + ·)).filterMap
        (id ∘ firstCopy pieces) = [] := by
      rw [List.filterMap_eq_nil_iff]
      intro k hk
      obtain ⟨j, -, rfl⟩ := List.mem_map.mp hk
      exact hnone _ (Nat.le_add_right _ _)
    rw [hempty, List.append_nil]
    rfl
  rw [hfragments]
  constructor
  · rw [List.map_filterMap, ← filterMap_getElem?_range (fragmentFrame whole fragmentSizes),
      fragmentFrame, length_fragmentFrameFrom]
    refine List.filterMap_congr fun k hk => ?_
    obtain ⟨piece, hpiece⟩ := hsome k (List.mem_range.mp hk)
    obtain ⟨hmem, rfl⟩ := mem_of_firstCopy hpiece
    have hof := h.fragmentOf piece hmem
    rw [FragmentOf, Ieee80211.fragments, if_neg hne] at hof
    rw [hpiece]
    exact hof.symm
  · obtain ⟨piece, hpiece⟩ := hsome 0 (by omega)
    obtain ⟨n, hn⟩ := Nat.exists_eq_succ_of_ne_zero (show fragmentSizes.length ≠ 0 by omega)
    rw [hn, List.range_succ_eq_map, List.filterMap_cons, hpiece]
    rfl

theorem defragment (h : Holds whole fragmentSizes value pieces)
    (hbroken : Broken whole fragmentSizes) (hne : fragmentSizes ≠ [])
    (hcomplete : Complete whole fragmentSizes pieces) :
    ∃ frame, defragmentFrames (value.fragments.filterMap id) = .ok frame ∧
      reassembled whole pieces = some frame := by
  obtain ⟨hcopies, hhead⟩ := h.exists_copies hbroken hne hcomplete
  have hbody : (value.fragments.filterMap id).flatMap Mpdu.body = whole.body := by
    have hmap : (value.fragments.filterMap id).flatMap Mpdu.body =
        ((value.fragments.filterMap id).map
          fun copy => { copy with retry := whole.retry }).flatMap Mpdu.body := by
      rw [List.flatMap_map]
    rw [hmap, hcopies, fragmentFrame, flatMap_body_fragmentFrameFrom, hbroken.sum hne, peek,
      List.drop_zero, List.take_length]
  cases hlist : value.fragments.filterMap id with
  | nil =>
      have hlength := congrArg List.length hcopies
      rw [hlist, fragmentFrame, length_fragmentFrameFrom] at hlength
      exact absurd (List.length_eq_zero_iff.mp hlength.symm) hne
  | cons first rest =>
      rw [hlist] at hhead hbody
      refine ⟨{ whole with retry := first.retry }, ?_, by rw [reassembled, ← hhead]; rfl⟩
      have hof := (h.fragmentOf first (mem_of_firstCopy hhead.symm).1).common
      rw [Mpdu.ext_iff] at hof
      refine congrArg Except.ok (Mpdu.ext_iff.mpr ?_)
      exact ⟨hof.1, hof.2.1, hbroken.number.symm, hbroken.more.symm, rfl, hbody⟩

end Holds

/-! ## One fragment after the other -/

/-- How the entries gather the fragments of frames. -/
abbrev gathering (sent : Key → Mpdu β × List Nat) : Gathering Key (Value β) (Mpdu β) (Mpdu β) where
  key := Mpdu.key
  initial := {}
  Holds := fun key => Holds (sent key).1 (sent key).2
  Complete := fun key => Complete (sent key).1 (sent key).2
  result := fun key => reassembled (sent key).1

instance (sent : Key → Mpdu β × List Nat) (key : Key) (pieces : List (Mpdu β)) :
    Decidable ((gathering sent).Complete key pieces) :=
  inferInstanceAs (Decidable (Complete (sent key).1 (sent key).2 pieces))

/-- The entries hold the fragments that are pending. -/
abbrev Pending (sent : Key → Mpdu β × List Nat) (fragmentsMap : FragmentsMap β)
    (pending : Key → List (Mpdu β)) : Prop :=
  (gathering sent).Pending fragmentsMap pending

theorem Pending.empty (sent : Key → Mpdu β × List Nat) : Pending sent ∅ fun _ => [] :=
  Gathering.Pending.empty fun key => Holds.empty (sent key).1 (sent key).2

section

variable {sent : Key → Mpdu β × List Nat} {fragmentsMap : FragmentsMap β}
  {pending : Key → List (Mpdu β)} {packet : Mpdu β}

theorem addFragment_whole (fragmentsMap : FragmentsMap β) {whole : Mpdu β}
    (hbroken : Broken whole [])
    (hpacket : FragmentOf whole [] packet) :
    addFragment fragmentsMap packet = .ok (fragmentsMap, some packet) := by
  unfold addFragment
  rw [if_pos]
  rw [hpacket.eq_whole]
  exact ⟨hbroken.more, hbroken.number⟩

/-- No copy of a frame that is not broken is kept. -/
theorem Pending.nil_of_whole (h : Pending sent fragmentsMap pending) {key : Key}
    (hbroken : Broken (sent key).1 (sent key).2)
    (hwhole : (sent key).2 = []) : pending key = [] := by
  by_contra hne
  obtain ⟨piece, hmem⟩ := List.exists_mem_of_ne_nil _ hne
  refine h.incomplete key hne fun k hk => ⟨piece, hmem, ?_⟩
  have hof := (h.holds key).fragmentOf piece hmem
  rw [hwhole] at hof hk
  rw [hof.eq_whole]
  exact hbroken.number.trans (Nat.lt_one_iff.mp hk).symm

/-- A fragment that leaves the frame incomplete stays; the one that completes it makes it
come out. -/
theorem Pending.addFragment (h : Pending sent fragmentsMap pending)
    (hbroken : Broken (sent packet.key).1 (sent packet.key).2)
    (hpacket : FragmentOf (sent packet.key).1 (sent packet.key).2 packet) :
    ∃ fragmentsMap' output,
      BasicReassembly.addFragment fragmentsMap packet = .ok (fragmentsMap', output) ∧
        (gathering sent).Gathers pending packet fragmentsMap' output := by
  rcases eq_or_ne (sent packet.key).2 [] with hwhole | hne
  · have hnil := h.nil_of_whole hbroken hwhole
    rw [hwhole] at hbroken hpacket
    refine ⟨fragmentsMap, some packet, addFragment_whole fragmentsMap hbroken hpacket, .inl ?_⟩
    rw [hnil]
    refine ⟨fun k hk => ⟨packet, List.mem_singleton.mpr rfl, ?_⟩, ⟨packet, rfl, ?_⟩, ?_⟩
    · rw [hwhole] at hk
      rw [hpacket.eq_whole]
      exact hbroken.number.trans (Nat.lt_one_iff.mp hk).symm
    · have hzero : packet.fragmentNumber = 0 := by
        rw [hpacket.eq_whole]
        exact hbroken.number
      change reassembled (sent packet.key).1 [packet] = _
      unfold reassembled firstCopy
      rw [List.find?_singleton, if_pos (decide_eq_true hzero), Option.map_some, ← hpacket.eq_whole]
    · rwa [← hnil, Function.update_eq_self]
  · obtain ⟨hlt, hmore⟩ := hpacket.number hne
    have htwo := hbroken.two_le hne
    have hle := hbroken.length_le
    have hfragment : ¬ (packet.moreFragments = false ∧ packet.fragmentNumber = 0) := by
      rintro ⟨hlast, hzero⟩
      rw [hlast, hzero] at hmore
      have := of_decide_eq_false hmore.symm
      omega
    have hdata := hpacket.isMgmt_eq.trans (hbroken.data hne)
    have hholds := (h.holds packet.key).update hbroken hne hpacket
    have hiff := hholds.allFragments_iff hbroken hne
    unfold BasicReassembly.addFragment
    rw [if_neg hfragment, if_neg (by rw [hdata]; exact Bool.false_ne_true),
      if_neg (Nat.not_le.mpr (Nat.lt_of_lt_of_le hlt hle))]
    by_cases hcomplete : Complete (sent packet.key).1 (sent packet.key).2
        (pending packet.key ++ [packet])
    · obtain ⟨frame, hframe, hresult⟩ := hholds.defragment hbroken hne hcomplete
      refine ⟨_, _, ?_, h.release (fun key => Holds.empty (sent key).1 (sent key).2) hcomplete
        hresult⟩
      dsimp only
      rw [if_pos (hiff.mpr hcomplete)]
      exact congrArg (Except.map _) hframe
    · refine ⟨_, _, ?_, h.keep hholds hcomplete⟩
      dsimp only
      exact if_neg fun hc => hcomplete (hiff.mp hc)

/-- The frames that carry frames which the policy broke may arrive in any order, any number
of times, each as a retransmission or not, and mixed with those of other frames, if a key
stands for one frame throughout. The entries never fail, and a frame comes out whenever all
of its fragments came since it last did. -/
theorem frames_refine (sent : Key → Mpdu β × List Nat) (fragmentationThreshold : Key → Nat)
    {arrivals : List (Mpdu β)}
    (hwhole : ∀ packet ∈ arrivals, (sent packet.key).1.fragmentNumber = 0 ∧
      (sent packet.key).1.moreFragments = false)
    (hsizes : ∀ packet ∈ arrivals,
      computeFragmentSizes (fragmentationThreshold packet.key) (sent packet.key).1 =
        .ok (sent packet.key).2)
    (hpacket : ∀ packet ∈ arrivals, FragmentOf (sent packet.key).1 (sent packet.key).2 packet) :
    ∃ fragmentsMap, run (Gathering.arrive BasicReassembly.addFragment) (∅, []) arrivals =
      .ok (fragmentsMap, (gathering sent).comesOut (fun _ => []) arrivals) := by
  have hadd : ∀ packet ∈ arrivals, ∀ fragmentsMap pending, Pending sent fragmentsMap pending →
      ∃ fragmentsMap' output,
        BasicReassembly.addFragment fragmentsMap packet = .ok (fragmentsMap', output) ∧
          (gathering sent).Gathers pending (id packet) fragmentsMap' output := by
    intro packet hmem fragmentsMap pending h
    obtain ⟨hnumber, hmore⟩ := hwhole packet hmem
    exact h.addFragment (broken_of_computeFragmentSizes hnumber hmore (hsizes packet hmem))
      (hpacket packet hmem)
  have hrun := Gathering.run_arrive hadd (Pending.empty sent) []
  rwa [List.map_id] at hrun

/-- Three bytes in two fragments, the last of which comes first, with a short frame in
between. -/
theorem frames_refine_interleaved :
    ∃ fragmentsMap, run (Gathering.arrive BasicReassembly.addFragment) (∅, [])
        [({ header := {}, sequenceNumber := 7, fragmentNumber := 1, body := [3] } : Mpdu Nat),
          { header := {}, sequenceNumber := 8, body := [4] },
          { header := {}, sequenceNumber := 7, moreFragments := true, retry := true,
            body := [1, 2] }] =
      .ok (fragmentsMap, [{ header := {}, sequenceNumber := 8, body := [4] },
        { header := {}, sequenceNumber := 7, retry := true, body := [1, 2, 3] }]) :=
  @frames_refine Nat
    (fun key => if key.seqNum = 7 then
      ({ header := {}, sequenceNumber := 7, body := [1, 2, 3] }, [2, 1])
    else ({ header := {}, sequenceNumber := 8, body := [4] }, []))
    (fun key => if key.seqNum = 7 then 30 else 1500) _
    (by decide) (by decide) (by decide)

end

end BasicReassembly

end MultiTechBus.Ieee80211
