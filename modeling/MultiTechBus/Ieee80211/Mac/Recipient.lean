import MultiTechBus.Ieee80211.Mac.Originator

/-! # The recipient of frames

`RecipientMacDataService` drops a frame that `LegacyDuplicateRemoval` takes for a copy of
the last frame from the same transmitter, and puts the fragments of the others together.
-/

namespace MultiTechBus.Ieee80211

open MultiTechBus.Library

variable {β : Type*}

structure Recipient (β : Type*) where
  lastSeenSeqNumCache : OrderedMap MacAddress SequenceControlField := ∅
  fragmentsMap : FragmentsMap β := ∅
  /-- The frames that were sent up. -/
  delivered : List (Mpdu β) := []

namespace Recipient

/-- `LegacyDuplicateRemoval::isDuplicate`. -/
def isDuplicate (r : Recipient β) (frame : Mpdu β) : Except Halt (Recipient β × Bool) :=
  if frame.header.type = ST_DATA_WITH_QOS then
    .error (.cRuntimeError "ASSERT: header->getType() != ST_DATA_WITH_QOS")
  else if r.lastSeenSeqNumCache.find? frame.header.transmitterAddress =
      some frame.sequenceControl ∧ frame.retry = true then .ok (r, true)
  else
    .ok ({ r with
      lastSeenSeqNumCache := r.lastSeenSeqNumCache.insert frame.header.transmitterAddress
        frame.sequenceControl }, false)

/-- `RecipientMacDataService::dataOrMgmtFrameReceived`. -/
def dataOrMgmtFrameReceived (r : Recipient β) (frame : Mpdu β) : Except Halt (Recipient β) :=
  (r.isDuplicate frame).bind fun (r, duplicate) =>
    if duplicate then .ok r
    else
      (BasicReassembly.addFragment r.fragmentsMap frame).map fun (fragmentsMap, defragmented) =>
        { r with
          fragmentsMap := fragmentsMap
          delivered := r.delivered ++ defragmented.toList }

/-- A frame is dropped as a duplicate and nothing else happens, or it is the last one seen
and goes on to the fragments. -/
theorem dataOrMgmtFrameReceived_cases {r r' : Recipient β} {frame : Mpdu β}
    (h : r.dataOrMgmtFrameReceived frame = .ok r') :
    frame.header.type ≠ ST_DATA_WITH_QOS ∧
    ((r.lastSeenSeqNumCache.find? frame.header.transmitterAddress = some frame.sequenceControl ∧
        frame.retry = true ∧ r' = r) ∨
      (¬ (r.lastSeenSeqNumCache.find? frame.header.transmitterAddress =
          some frame.sequenceControl ∧ frame.retry = true) ∧
        ∃ fragmentsMap defragmented,
          BasicReassembly.addFragment r.fragmentsMap frame = .ok (fragmentsMap, defragmented) ∧
            r' = {
              lastSeenSeqNumCache := r.lastSeenSeqNumCache.insert frame.header.transmitterAddress
                frame.sequenceControl
              fragmentsMap := fragmentsMap
              delivered := r.delivered ++ defragmented.toList })) := by
  obtain ⟨⟨r₁, duplicate⟩, hduplicate, hrest⟩ := bind_ok_inv h
  unfold isDuplicate at hduplicate
  split at hduplicate
  · cases hduplicate
  · rename_i htype
    refine ⟨htype, ?_⟩
    split at hduplicate
    · rename_i hseen
      obtain ⟨rfl, rfl⟩ := Prod.mk.inj (Except.ok.inj hduplicate)
      exact .inl ⟨hseen.1, hseen.2, (Except.ok.inj hrest).symm⟩
    · rename_i hunseen
      obtain ⟨rfl, rfl⟩ := Prod.mk.inj (Except.ok.inj hduplicate)
      obtain ⟨⟨fragmentsMap, defragmented⟩, hadd, rfl⟩ := map_ok_inv hrest
      exact .inr ⟨hunseen, fragmentsMap, defragmented, hadd, rfl⟩

end Recipient

/-! ## Fragments of one transmitter -/

namespace BasicReassembly

/-- The entries for frames of one transmitter that are not QoS frames. -/
def ownedBy (address : MacAddress) (fragmentsMap : FragmentsMap β) : FragmentsMap β :=
  fragmentsMap.filter fun key _ => key.macAddress = address ∧ key.tid = -1

/-- Entries hold frames of their transmitter. -/
def Keyed (fragmentsMap : FragmentsMap β) : Prop :=
  ∀ key value, fragmentsMap.find? key = some value → ∀ fragment, some fragment ∈ value.fragments →
    fragment.header.transmitterAddress = key.macAddress

section

variable {fragmentsMap fragmentsMap' : FragmentsMap β} {packet : Mpdu β} {address : MacAddress}
  {output : Option (Mpdu β)}

theorem Keyed.empty : Keyed (∅ : FragmentsMap β) := nofun

theorem addFragment_cases (h : addFragment fragmentsMap packet = .ok (fragmentsMap', output)) :
    (fragmentsMap' = fragmentsMap ∧ output = some packet) ∨
    ∃ value, value = ((fragmentsMap.find? packet.key).getD {}).update packet ∧
      ((∃ frame, defragmentFrames (value.fragments.filterMap id) = .ok frame ∧
          fragmentsMap' = fragmentsMap.erase packet.key ∧ output = some frame) ∨
        (fragmentsMap' = fragmentsMap.insert packet.key value ∧ output = none)) := by
  unfold addFragment at h
  split at h
  · obtain ⟨rfl, rfl⟩ := Prod.mk.inj (Except.ok.inj h)
    exact .inl ⟨rfl, rfl⟩
  · split at h
    · obtain ⟨rfl, rfl⟩ := Prod.mk.inj (Except.ok.inj h)
      exact .inl ⟨rfl, rfl⟩
    · split at h
      · cases h
      · refine .inr ⟨_, rfl, ?_⟩
        dsimp only at h
        split at h
        · obtain ⟨frame, hframe, hpair⟩ := map_ok_inv h
          obtain ⟨rfl, rfl⟩ := Prod.mk.inj hpair
          exact .inl ⟨frame, hframe, rfl, rfl⟩
        · obtain ⟨rfl, rfl⟩ := Prod.mk.inj (Except.ok.inj h)
          exact .inr ⟨rfl, rfl⟩

theorem mem_fragments_update {value : Value β} {fragment : Mpdu β}
    (h : some fragment ∈ (value.update packet).fragments) :
    some fragment ∈ value.fragments ∨ fragment = packet := by
  unfold Value.update at h
  dsimp only at h
  split at h
  · rcases List.mem_or_eq_of_mem_set h with hold | hnew
    · exact .inl hold
    · exact .inr (Option.some.inj hnew)
  · exact .inl h

/-- What comes out comes from the transmitter of the fragment that came in. -/
theorem Keyed.addFragment (hkeyed : Keyed fragmentsMap)
    (h : BasicReassembly.addFragment fragmentsMap packet = .ok (fragmentsMap', output)) :
    Keyed fragmentsMap' ∧ ∀ frame ∈ output,
      frame.header.transmitterAddress = packet.header.transmitterAddress := by
  rcases addFragment_cases h with ⟨rfl, rfl⟩ | ⟨value, hvalue, hcases⟩
  · exact ⟨hkeyed, fun frame hframe => by rw [Option.some.inj hframe]⟩
  · have hfragments : ∀ fragment, some fragment ∈ value.fragments →
        fragment.header.transmitterAddress = packet.header.transmitterAddress := by
      intro fragment hmem
      rw [hvalue] at hmem
      rcases mem_fragments_update hmem with hold | rfl
      · cases hfind : fragmentsMap.find? packet.key with
        | none =>
            rw [hfind] at hold
            simp at hold
        | some old =>
            rw [hfind] at hold
            exact hkeyed packet.key old hfind fragment hold
      · rfl
    rcases hcases with ⟨frame, hframe, rfl, rfl⟩ | ⟨rfl, rfl⟩
    · refine ⟨fun key value' hfind => ?_, fun frame' hframe' => ?_⟩
      · rw [OrderedMap.find?_erase] at hfind
        split at hfind
        · cases hfind
        · exact hkeyed key value' hfind
      · obtain rfl := Option.some.inj hframe'
        unfold defragmentFrames at hframe
        split at hframe
        · cases hframe
        · rename_i first rest hlist
          obtain rfl := Except.ok.inj hframe
          have hfirst : first ∈ value.fragments.filterMap id := hlist ▸ List.mem_cons_self
          obtain ⟨slot, hslot, hsome⟩ := List.mem_filterMap.mp hfirst
          obtain rfl : slot = some first := hsome
          exact hfragments first hslot
    · refine ⟨fun key value' hfind => ?_, nofun⟩
      rw [OrderedMap.find?_insert] at hfind
      split at hfind
      · rename_i hkey
        obtain rfl := Option.some.inj hfind
        rw [hkey]
        exact hfragments
      · exact hkeyed key value' hfind

/-- Fragments of others leave the entries for a transmitter alone. -/
theorem ownedBy_addFragment_ne (hne : packet.header.transmitterAddress ≠ address)
    (h : addFragment fragmentsMap packet = .ok (fragmentsMap', output)) :
    ownedBy address fragmentsMap' = ownedBy address fragmentsMap := by
  have hfalse : decide (packet.key.macAddress = address ∧ packet.key.tid = -1) = false :=
    decide_eq_false fun hkey => hne hkey.1
  rcases addFragment_cases h with ⟨rfl, -⟩ | ⟨value, -, ⟨-, -, rfl, -⟩ | ⟨rfl, -⟩⟩
  · rfl
  · exact OrderedMap.filter_erase_of_neg hfalse
  · exact OrderedMap.filter_insert_of_neg hfalse

theorem addFragment_ownedBy (heq : packet.header.transmitterAddress = address)
    (htype : packet.header.type ≠ ST_DATA_WITH_QOS)
    (h : addFragment fragmentsMap packet = .ok (fragmentsMap', output)) :
    addFragment (ownedBy address fragmentsMap) packet =
      .ok (ownedBy address fragmentsMap', output) := by
  have htrue : decide (packet.key.macAddress = address ∧ packet.key.tid = -1) = true :=
    decide_eq_true ⟨heq, if_neg htype⟩
  have hfind : (ownedBy address fragmentsMap).find? packet.key =
      fragmentsMap.find? packet.key := by
    rw [ownedBy, OrderedMap.find?_filter]
    cases fragmentsMap.find? packet.key with
    | none => rfl
    | some value => rw [Option.filter_some, if_pos htrue]
  unfold addFragment at h ⊢
  rw [hfind]
  split at h
  · rename_i hwhole
    obtain ⟨rfl, rfl⟩ := Prod.mk.inj (Except.ok.inj h)
    rw [if_pos hwhole]
  · split at h
    · rename_i hfragment hmgmt
      obtain ⟨rfl, rfl⟩ := Prod.mk.inj (Except.ok.inj h)
      rw [if_neg hfragment, if_pos hmgmt]
    · split at h
      · cases h
      · dsimp only at h ⊢
        split at h
        · rename_i hfragment hmgmt hnumber hcomplete
          obtain ⟨frame, hframe, hpair⟩ := map_ok_inv h
          obtain ⟨rfl, rfl⟩ := Prod.mk.inj hpair
          rw [if_neg hfragment, if_neg hmgmt, if_neg hnumber, if_pos hcomplete, hframe]
          have herase := @OrderedMap.filter_erase _ _ _ fragmentsMap packet.key
            fun key => decide (key.macAddress = address ∧ key.tid = -1)
          exact congrArg (fun m => Except.ok (m, some frame)) herase.symm
        · rename_i hfragment hmgmt hnumber hcomplete
          obtain ⟨rfl, rfl⟩ := Prod.mk.inj (Except.ok.inj h)
          rw [if_neg hfragment, if_neg hmgmt, if_neg hnumber, if_neg hcomplete]
          have hinsert := fun value => @OrderedMap.filter_insert_of_pos _ _ _ fragmentsMap
            packet.key value (fun key => decide (key.macAddress = address ∧ key.tid = -1)) htrue
          exact congrArg (fun m => Except.ok (m, none)) (hinsert _).symm

end

end BasicReassembly

end MultiTechBus.Ieee80211
