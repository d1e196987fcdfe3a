import Mathlib.Tactic.Common
import MultiTechBus.Ieee80211.Mac.Dcf

/-! # Frames by other names

The MAC moves frames without a look at what they are, save for whether they are
management frames. A run with stamped frames is therefore a run of the MAC.
-/

namespace MultiTechBus.Ieee80211

def RadioMsg.map {α β : Type*} (f : α → β) : RadioMsg α → RadioMsg β
  | .configure command => .configure command
  | .frame packet => .frame (f packet)

def MacParams.comap {α β : Type*} (p : MacParams β) (f : α → β) : MacParams α :=
  { isMgmt := fun a => p.isMgmt (f a), packetCapacity := p.packetCapacity }

namespace Mac

variable {α β : Type*}

def MacEvent.map (f : α → β) : MacEvent α → MacEvent β
  | .upperCommand command => .upperCommand command
  | .upperFrame packet => .upperFrame (f packet)
  | .mediumState mediumFree => .mediumState mediumFree
  | .corruptedFrame => .corruptedFrame
  | .startTx => .startTx
  | .channelGranted => .channelGranted
  | .transmit => .transmit
  | .sequenceFinished dropped => .sequenceFinished dropped

/-! ## Renamed states -/

/-- The state with its frames renamed. -/
def map (f : α → β) (m : Mac α) : Mac β :=
  { m with
    pendingQueue := m.pendingQueue.map f
    inProgressFrames := m.inProgressFrames.map f
    frameSequence := m.frameSequence.map f }

def mapOuts (f : α → β) (r : Mac α × List (RadioMsg α)) : Mac β × List (RadioMsg β) :=
  (r.1.map f, r.2.map (RadioMsg.map f))

def mapResult (f : α → β) (r : Result α) : Result β := r.map (mapOuts f)

theorem mapResult_ite (f : α → β) (c : Prop) [Decidable c] (r r' : Result α) :
    mapResult f (if c then r else r') = if c then mapResult f r else mapResult f r' :=
  apply_ite (mapResult f) c r r'

theorem andThen_map (f : α → β) (r : Result α) (g : Mac α → Result α) (g' : Mac β → Result β)
    (h : ∀ m, g' (m.map f) = mapResult f (g m)) :
    andThen (mapResult f r) g' = mapResult f (andThen r g) := by
  cases r with
  | error k => rfl
  | ok r =>
      obtain ⟨m, sent⟩ := r
      simp only [andThen, mapResult, Except.map, mapOuts, h]
      cases g m with
      | error k => rfl
      | ok r => simp

/-! ## The functions -/

theorem sendDownPending_map (f : α → β) (m : Mac α) :
    (m.map f).sendDownPendingRadioConfigMsg = mapOuts f m.sendDownPendingRadioConfigMsg := by
  unfold sendDownPendingRadioConfigMsg
  cases hm : m.pendingRadioConfigMsg <;> simp [map, mapOuts, hm, RadioMsg.map]

theorem handleUpperCommand_map (f : α → β) (m : Mac α) (command : ConfigureRadioCommand) :
    (m.map f).handleUpperCommand command = mapOuts f (m.handleUpperCommand command) := by
  unfold handleUpperCommand
  cases hm : m.pendingRadioConfigMsg <;> cases hf : m.mediumFree <;>
    simp [map, mapOuts, hm, hf, RadioMsg.map]

theorem enter_map (f : α → β) (m : Mac α) (state : ContentionState) :
    (m.map f).enter state = mapOuts f (m.enter state) := by
  cases state with
  | IDLE => exact sendDownPending_map f { m with fsm := .IDLE }
  | DEFER => exact sendDownPending_map f { m with fsm := .DEFER }
  | IFS_AND_BACKOFF => rfl

theorem handleWithFSM_map (f : α → β) (m : Mac α) (event : ContentionEvent) :
    (m.map f).handleWithFSM event = mapResult f (m.handleWithFSM event) := by
  have hfsm : (m.map f).fsm = m.fsm := rfl
  have hfree : (m.map f).mediumFree = m.mediumFree := rfl
  unfold handleWithFSM
  rw [hfsm, hfree]
  cases m.fsm <;> cases event <;> cases m.mediumFree <;>
    simp only [enter_map, if_true, if_false, Bool.false_eq_true] <;> rfl

theorem extractFramesToTransmit_map (f : α → β) (m : Mac α) :
    (m.map f).extractFramesToTransmit = m.extractFramesToTransmit.map f := by
  unfold extractFramesToTransmit
  cases hq : m.pendingQueue <;> simp [map, hq]

theorem ensureHasFrameToTransmit_map (f : α → β) (m : Mac α) :
    (m.map f).ensureHasFrameToTransmit = m.ensureHasFrameToTransmit.map f := by
  unfold ensureHasFrameToTransmit
  rw [extractFramesToTransmit_map]
  cases hp : m.inProgressFrames <;> simp [map, hp]

theorem channelGranted_map (f : α → β) (m : Mac α) :
    (m.map f).channelGranted = mapResult f m.channelGranted := by
  unfold channelGranted
  rw [ensureHasFrameToTransmit_map]
  cases hseq : m.frameSequence with
  | some packet => simp [map, hseq, mapResult, mapOuts, Except.map]
  | none =>
      cases hp : m.ensureHasFrameToTransmit.inProgressFrames <;>
        simp [map, hseq, hp, mapResult, mapOuts, Except.map]

theorem requestChannel_map (f : α → β) (m : Mac α) :
    (m.map f).requestChannel = mapResult f m.requestChannel := by
  unfold requestChannel startContention isContentionInProgress
  rw [mapResult_ite, mapResult_ite, mapResult_ite,
    ← channelGranted_map f { m with callback := true }, ← handleWithFSM_map]
  rfl

theorem channelAccessGranted_map (f : α → β) (m : Mac α) :
    (m.map f).channelAccessGranted = mapResult f m.channelAccessGranted := by
  unfold channelAccessGranted
  rw [mapResult_ite, ← channelGranted_map f { m with owning := true }]
  rfl

theorem mediumStateChanged_map (f : α → β) (m : Mac α) (mediumFree : Bool) :
    (m.map f).mediumStateChanged mediumFree = mapResult f (m.mediumStateChanged mediumFree) := by
  unfold mediumStateChanged
  rw [mapResult_ite, ← handleWithFSM_map f { m with mediumFree := mediumFree }]
  rfl

theorem insertPacket_map (f : α → β) (isMgmt : β → Bool) (packet : α) (queue : List α) :
    insertPacket isMgmt (f packet) (queue.map f) =
      (insertPacket (fun a => isMgmt (f a)) packet queue).map f := by
  induction queue with
  | nil => rfl
  | cons head rest ih =>
      simp only [List.map_cons, insertPacket, ih]
      split <;> rfl

theorem enqueuePacket_map (f : α → β) (p : MacParams β) (m : Mac α) (packet : α) :
    (m.map f).enqueuePacket p (f packet) = (m.enqueuePacket (p.comap f) packet).map f := by
  unfold enqueuePacket
  dsimp only [map, MacParams.comap]
  rw [insertPacket_map]
  cases p.packetCapacity with
  | none => rfl
  | some capacity => simp only [List.map_take]

theorem pendingQueue_isEmpty_map (f : α → β) (m : Mac α) :
    (m.map f).pendingQueue.isEmpty = m.pendingQueue.isEmpty :=
  List.isEmpty_map

theorem processUpperFrame_map (f : α → β) (p : MacParams β) (m : Mac α) (packet : α) :
    (m.map f).processUpperFrame p (f packet) =
      mapResult f (m.processUpperFrame (p.comap f) packet) := by
  unfold processUpperFrame
  simp only [mapResult_ite, enqueuePacket_map, requestChannel_map, pendingQueue_isEmpty_map]
  rfl

theorem transmitFrame_map (f : α → β) (m : Mac α) :
    (m.map f).transmitFrame = mapResult f m.transmitFrame := by
  unfold transmitFrame
  rw [extractFramesToTransmit_map]
  cases hseq : m.frameSequence with
  | none => simp [map, hseq, mapResult, Except.map]
  | some packet =>
      simp only [map, hseq, Option.map_some, List.length_map]
      split <;> simp [mapResult, Except.map, mapOuts, map, hseq, RadioMsg.map]

theorem frameSequenceFinished_map (f : α → β) (m : Mac α) :
    (m.map f).frameSequenceFinished = mapResult f m.frameSequenceFinished := by
  unfold frameSequenceFinished
  dsimp only
  rw [← andThen_map f _ _ (fun m => .ok m.sendDownPendingRadioConfigMsg)
    (fun m => congrArg Except.ok (sendDownPending_map f m))]
  congr 1
  have hframes :
      (m.map f).releaseChannel.hasFrameToTransmit = m.releaseChannel.hasFrameToTransmit := by
    simp [hasFrameToTransmit, releaseChannel, map]
  rw [hframes]
  split
  · exact requestChannel_map f m.releaseChannel
  · rfl

theorem finishFrameSequence_map (f : α → β) (m : Mac α) (dropped : Bool) :
    (m.map f).finishFrameSequence dropped = mapResult f (m.finishFrameSequence dropped) := by
  unfold finishFrameSequence
  cases hseq : m.frameSequence with
  | none => simp [map, hseq, mapResult, Except.map]
  | some packet =>
      simp only [show (m.map f).frameSequence = some (f packet) by simp [map, hseq]]
      rw [← andThen_map f _ _ (fun m => .ok ({ m with frameSequence := none }, [])) (fun _ => rfl),
        ← frameSequenceFinished_map]
      cases dropped <;> simp [map]

/-- A step does not depend on what the frames are, only on which of them are management
frames. -/
theorem step_map (f : α → β) (p : MacParams β) (m : Mac α) (e : MacEvent α) :
    (m.map f).step p (e.map f) = mapResult f (m.step (p.comap f) e) := by
  cases e with
  | upperCommand command => exact congrArg Except.ok (handleUpperCommand_map f m command)
  | upperFrame packet => exact processUpperFrame_map f p m packet
  | mediumState mediumFree => exact mediumStateChanged_map f m mediumFree
  | corruptedFrame => exact handleWithFSM_map f m .CORRUPTED_FRAME_RECEIVED
  | startTx =>
      dsimp only [step, MacEvent.map]
      rw [mapResult_ite, handleWithFSM_map]
      rfl
  | channelGranted =>
      dsimp only [step, MacEvent.map]
      rw [mapResult_ite, ← channelAccessGranted_map f { m with channelGrantedEvent := false }]
      rfl
  | transmit => exact transmitFrame_map f m
  | sequenceFinished dropped => exact finishFrameSequence_map f m dropped

end Mac
end MultiTechBus.Ieee80211
