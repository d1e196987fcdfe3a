import Mathlib.Data.List.Induction
import MultiTechBus.Ieee80211.Mac.FrameSequence
import MultiTechBus.Ieee80211.Mac.Recipient

/-! # Frame exchanges

An originator and the stations that hear it. Copies of its packets reach a station in the
order in which they were sent, or are lost, and acknowledgements are sent and lost too; other
stations transmit in between. Each station gets a frame at most once, in the order in which
the frames were taken from the queue, whatever the timers and the losses do.
-/

namespace MultiTechBus.Ieee80211

open MultiTechBus.Library

variable {β : Type*}

/-- `Dcf::isForUs`. -/
def isForUs (address : MacAddress) (header : Ieee80211DataHeader) : Bool :=
  header.receiverAddress = address ∨
    (header.receiverAddress.isMulticast = true ∧ header.address3 ≠ address)

structure Exchange (β : Type*) where
  originator : Originator β
  recipients : MacAddress → Recipient β := fun _ => {}
  /-- The copies on their way to each station. -/
  flight : MacAddress → List (Packet β) := fun _ => []
  /-- The packets whose acknowledgements are on their way. -/
  acks : List (Packet β) := []

namespace Exchange

inductive Event (β : Type*)
  | originator (event : Originator.Event β)
  /-- A transmission of the originator ends, and some stations could hear it. -/
  | transmitted (hearers : MacAddress → Bool)
  /-- The oldest copy on the way to a station arrives, or is lost. -/
  | arrive (station : MacAddress)
  | lose (station : MacAddress)
  /-- The acknowledgement arrives, or is lost. -/
  | ack
  | loseAck
  /-- A frame of another transmitter arrives. -/
  | foreign (station : MacAddress) (frame : Mpdu β)

/-- The copy of a packet that goes to the stations. -/
def copyOf (p : DcfParams) (packet : Packet β) : Packet β :=
  { packet with frame := packet.frame.sentBy p.address }

def transmit (p : DcfParams) (s : Exchange β) (hearers : MacAddress → Bool) :
    Except Halt (Exchange β) :=
  (s.originator.transmissionComplete p).map fun originator =>
    { s with
      originator := originator
      flight := fun station =>
        if hearers station then s.flight station ++ (s.originator.onAir.map (copyOf p)).toList
        else s.flight station }

/-- A station processes a copy: a frame to it alone is acknowledged. -/
def receive (s : Exchange β) (station : MacAddress) (packet : Packet β) :
    Except Halt (Exchange β) :=
  if isForUs station packet.frame.header then
    ((s.recipients station).dataOrMgmtFrameReceived packet.frame).map fun recipient =>
      { s with
        recipients := Function.update s.recipients station recipient
        acks :=
          if packet.frame.header.receiverAddress.isMulticast then s.acks
          else s.acks ++ [packet] }
  else .ok s

def step (p : DcfParams) (s : Exchange β) : Event β → Except Halt (Exchange β)
  | .originator event =>
      match event with
      | .transmissionComplete => .error .notEnabled
      | _ => (s.originator.step p event).map fun originator => { s with originator := originator }
  | .transmitted hearers => s.transmit p hearers
  | .arrive station =>
      match s.flight station with
      | [] => .error .notEnabled
      | packet :: rest =>
          ({ s with flight := Function.update s.flight station rest } : Exchange β).receive station
            packet
  | .lose station =>
      match s.flight station with
      | [] => .error .notEnabled
      | _ :: rest => .ok { s with flight := Function.update s.flight station rest }
  | .ack =>
      match s.acks with
      | [] => .error .notEnabled
      | _ :: rest =>
          (s.originator.processLowerFrame p true .ACK).map fun originator =>
            { s with originator := originator, acks := rest }
  | .loseAck =>
      match s.acks with
      | [] => .error .notEnabled
      | _ :: rest => .ok { s with acks := rest }
  | .foreign station frame =>
      ((s.recipients station).dataOrMgmtFrameReceived frame).map fun recipient =>
        { s with recipients := Function.update s.recipients station recipient }

/-- A sequence number of the originator that neither a copy on its way nor a fragment that
waits for others has. -/
def Free (p : DcfParams) (s : Exchange β) (sequenceNumber : BitVec 12) : Prop :=
  ∀ station, (∀ packet ∈ s.flight station, packet.frame.sequenceNumber ≠ sequenceNumber) ∧
    (s.recipients station).fragmentsMap.find? ⟨p.address, -1, sequenceNumber⟩ = none

/-- The frames that the originator takes from its queue get numbers that are free, and other
stations use their own addresses. -/
def Admissible (p : DcfParams) (s : Exchange β) (e : Event β) : Prop :=
  (∀ s', s.step p e = .ok s' →
    ∀ frame ∈ s'.originator.extracted.drop s.originator.extracted.length,
      s.Free p frame.1.sequenceNumber) ∧
  ∀ station frame, e = .foreign station frame → frame.header.transmitterAddress ≠ p.address

end Exchange

/-! ## The last frame with a number -/

/-- The last frame with a sequence number, and which one it is. -/
def latest (extracted : List (Mpdu β × List Nat)) (sequenceNumber : BitVec 12) :
    Option (Nat × Mpdu β × List Nat) :=
  extracted.zipIdx.foldl
    (fun found frame =>
      if frame.1.1.sequenceNumber = sequenceNumber then some (frame.2, frame.1) else found) none

section Latest

variable {extracted : List (Mpdu β × List Nat)} {n : BitVec 12} {m : Nat}
  {frame : Mpdu β × List Nat}

theorem latest_concat (extracted : List (Mpdu β × List Nat)) (frame : Mpdu β × List Nat)
    (n : BitVec 12) : latest (extracted ++ [frame]) n =
      if frame.1.sequenceNumber = n then some (extracted.length, frame) else latest extracted n := by
  rw [latest, List.zipIdx_append, List.foldl_append, List.zipIdx_singleton, List.foldl_cons,
    List.foldl_nil, Nat.zero_add]
  rfl

theorem latest_append {new : List (Mpdu β × List Nat)}
    (hnew : ∀ frame ∈ new, frame.1.sequenceNumber ≠ n) :
    latest (extracted ++ new) n = latest extracted n := by
  induction new using List.reverseRecOn with
  | nil => rw [List.append_nil]
  | append_singleton new frame ih =>
      rw [← List.append_assoc, latest_concat,
        if_neg (hnew frame (List.mem_append_right _ List.mem_cons_self))]
      exact ih fun frame' hmem => hnew frame' (List.mem_append_left _ hmem)

theorem getElem?_of_latest (h : latest extracted n = some (m, frame)) :
    extracted[m]? = some frame ∧ frame.1.sequenceNumber = n := by
  induction extracted using List.reverseRecOn with
  | nil => cases h
  | append_singleton extracted last ih =>
      rw [latest_concat] at h
      split at h
      · rename_i hnumber
        obtain ⟨rfl, rfl⟩ := Prod.mk.inj (Option.some.inj h)
        exact ⟨List.getElem?_concat_length, hnumber⟩
      · obtain ⟨hget, hnumber⟩ := ih h
        obtain ⟨hlt, -⟩ := List.getElem?_eq_some_iff.mp hget
        exact ⟨(List.getElem?_append_left hlt).trans hget, hnumber⟩

theorem latest_of_getElem? (hget : extracted[m]? = some frame)
    (hlater : ∀ m' frame', m < m' → extracted[m']? = some frame' →
      frame'.1.sequenceNumber ≠ frame.1.sequenceNumber) :
    latest extracted frame.1.sequenceNumber = some (m, frame) := by
  obtain ⟨hlt, rfl⟩ := List.getElem?_eq_some_iff.mp hget
  have hsplit : extracted = extracted.take m ++ [extracted[m]] ++ extracted.drop (m + 1) := by
    rw [List.append_assoc, List.singleton_append, List.getElem_cons_drop, List.take_append_drop]
  have hdrop : ∀ frame' ∈ extracted.drop (m + 1),
      frame'.1.sequenceNumber ≠ (extracted[m]).1.sequenceNumber := by
    intro frame' hmem
    obtain ⟨k, hk⟩ := List.mem_iff_getElem?.mp hmem
    rw [List.getElem?_drop] at hk
    exact hlater _ frame' (by omega) hk
  generalize hframe : extracted[m] = frame at hsplit hdrop ⊢
  rw [hsplit, latest_append hdrop, latest_concat, if_pos rfl, List.length_take,
    Nat.min_eq_left (Nat.le_of_lt hlt)]

end Latest

/-! ## Copies -/

theorem fragmentFrameFrom_sentBy (address : MacAddress) (whole : Mpdu β) (fragmentSizes : List Nat)
    (i offset : Nat) : fragmentFrameFrom (whole.sentBy address) fragmentSizes i offset =
      (fragmentFrameFrom whole fragmentSizes i offset).map (Mpdu.sentBy address) := by
  induction fragmentSizes generalizing i offset with
  | nil => rfl
  | cons length fragmentSizes ih =>
      rw [fragmentFrameFrom, ih, fragmentFrameFrom, List.map_cons]
      rfl

theorem fragments_sentBy (address : MacAddress) (whole : Mpdu β) (fragmentSizes : List Nat) :
    fragments (whole.sentBy address) fragmentSizes =
      (fragments whole fragmentSizes).map (Mpdu.sentBy address) := by
  unfold fragments
  split
  · rfl
  · exact fragmentFrameFrom_sentBy address whole fragmentSizes 0 0

theorem FragmentOf.sentBy {whole fragment : Mpdu β} {fragmentSizes : List Nat}
    (h : FragmentOf whole fragmentSizes fragment) (address : MacAddress) :
    FragmentOf (whole.sentBy address) fragmentSizes (fragment.sentBy address) := by
  unfold FragmentOf at h ⊢
  rw [fragments_sentBy, List.getElem?_map]
  change (fragments whole fragmentSizes)[fragment.fragmentNumber]?.map _ = _
  rw [h]
  rfl

theorem Broken.sentBy {whole : Mpdu β} {fragmentSizes : List Nat} (h : Broken whole fragmentSizes)
    (address : MacAddress) : Broken (whole.sentBy address) fragmentSizes :=
  ⟨h.number, h.more, h.data, h.sum, h.two_le, h.length_le⟩

namespace Exchange

/-- What the stations put together under a key. -/
def sent (address : MacAddress) (extracted : List (Mpdu β × List Nat))
    (key : BasicReassembly.Key) : Mpdu β × List Nat :=
  match latest extracted key.seqNum with
  | some (_, whole, fragmentSizes) => (whole.sentBy address, fragmentSizes)
  | none => ({ header := {}, body := [] }, [])

/-- A copy of a packet of the last frame with its number. -/
def Known (address : MacAddress) (extracted : List (Mpdu β × List Nat)) (packet : Packet β) :
    Prop :=
  ∃ whole fragmentSizes,
    latest extracted packet.frame.sequenceNumber = some (packet.msdu, whole, fragmentSizes) ∧
      Extracted whole fragmentSizes ∧ FragmentOf (whole.sentBy address) fragmentSizes packet.frame

/-- A packet is not before a place, or it is the last one before it, once more. -/
def NotBefore (bound : Nat) (packet : Packet β) (again : Prop) : Prop :=
  bound ≤ packet.place ∨ bound = packet.place + 1 ∧ again

end Exchange

end MultiTechBus.Ieee80211
