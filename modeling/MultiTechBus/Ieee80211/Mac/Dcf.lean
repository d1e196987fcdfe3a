import Mathlib.Algebra.Order.Ring.Rat
import MultiTechBus.Halt

/-! # The MAC in DCF mode

`Ieee80211MacM` with `Dcf`, `Dcaf` and `Contention`: what becomes of radio commands and
of frames from above. Backoff and interframe times decide only when the timers fire,
so they are left to the order of the events. A frame stands for its fragments.
-/

namespace MultiTechBus.Ieee80211

/-- `Ieee80211ConfigureRadioCommand`: a pointer is the number of its object, unset numbers
are not numbers. -/
structure ConfigureRadioCommand where
  radioMode : Int := -1
  power : Option Rat := none
  bitrate : Option Rat := none
  modulation : Option Nat := none
  centerFrequency : Option Rat := none
  bandwidth : Option Rat := none
  opMode : String := ""
  modeSet : Option Nat := none
  mode : Option Nat := none
  band : Option Nat := none
  channel : Option Nat := none
  channelNumber : Int := -1
deriving DecidableEq, Repr

/-- The new command with the channel number and the bitrate that it leaves unset taken
from the old one. -/
def ConfigureRadioCommand.merge (newCommand oldCommand : ConfigureRadioCommand) :
    ConfigureRadioCommand :=
  { newCommand with
    channelNumber :=
      if newCommand.channelNumber = -1 ∧ oldCommand.channelNumber ≠ -1 then
        oldCommand.channelNumber
      else newCommand.channelNumber
    bitrate :=
      if newCommand.bitrate = none ∧ oldCommand.bitrate ≠ none then oldCommand.bitrate
      else newCommand.bitrate }

inductive ContentionState
  | IDLE | DEFER | IFS_AND_BACKOFF
deriving DecidableEq, Repr

inductive ContentionEvent
  | START | MEDIUM_STATE_CHANGED | CORRUPTED_FRAME_RECEIVED | CHANNEL_ACCESS_GRANTED
deriving DecidableEq, Repr

structure MacParams (α : Type*) where
  isMgmt : α → Bool
  /-- The capacity of the pending queue, if there is one. -/
  packetCapacity : Option Nat := some 100

structure Mac (α : Type*) where
  mediumFree : Bool := true
  pendingRadioConfigMsg : Option ConfigureRadioCommand := none
  fsm : ContentionState := .IDLE
  /-- `channelGrantedEvent` is scheduled; `startTxEvent` is in state `IFS_AND_BACKOFF`. -/
  channelGrantedEvent : Bool := false
  /-- The channel access has a callback. -/
  callback : Bool := false
  owning : Bool := false
  pendingQueue : List α := []
  inProgressFrames : List α := []
  /-- The frame of the frame sequence that is running. -/
  frameSequence : Option α := none
deriving DecidableEq, Repr

inductive RadioMsg (α : Type*)
  | configure (command : ConfigureRadioCommand)
  | frame (packet : α)
deriving DecidableEq, Repr

/-- A new state with the messages sent down on the way. -/
abbrev Result (α : Type*) := Except Halt (Mac α × List (RadioMsg α))

namespace Mac

variable {α : Type*}

/-- Go on with `f`, after what was sent down before. -/
def andThen (r : Result α) (f : Mac α → Result α) : Result α :=
  match r with
  | .error k => .error k
  | .ok (m, sent) =>
      match f m with
      | .error k => .error k
      | .ok (m', sent') => .ok (m', sent ++ sent')

/-! ## Commands -/

def sendDownPendingRadioConfigMsg (m : Mac α) : Mac α × List (RadioMsg α) :=
  match m.pendingRadioConfigMsg with
  | none => (m, [])
  | some command => ({ m with pendingRadioConfigMsg := none }, [.configure command])

/-- `handleUpperCommand` for `RADIO_C_CONFIGURE`. -/
def handleUpperCommand (m : Mac α) (command : ConfigureRadioCommand) :
    Mac α × List (RadioMsg α) :=
  let command :=
    match m.pendingRadioConfigMsg with
    | none => command
    | some oldCommand => command.merge oldCommand
  if m.mediumFree then ({ m with pendingRadioConfigMsg := none }, [.configure command])
  else ({ m with pendingRadioConfigMsg := some command }, [])

/-! ## Contention -/

def enter (m : Mac α) (state : ContentionState) : Mac α × List (RadioMsg α) :=
  let m := { m with fsm := state }
  match state with
  | .IDLE => m.sendDownPendingRadioConfigMsg
  | .DEFER => m.sendDownPendingRadioConfigMsg
  | .IFS_AND_BACKOFF => (m, [])

def unhandledEvent : Result α := .error (.cRuntimeError "Unhandled event in FSM")

def handleWithFSM (m : Mac α) (event : ContentionEvent) : Result α :=
  match m.fsm, event with
  | .IDLE, .START => .ok (m.enter (if m.mediumFree then .IFS_AND_BACKOFF else .DEFER))
  | .IDLE, .MEDIUM_STATE_CHANGED => .ok (m, [])
  | .IDLE, .CORRUPTED_FRAME_RECEIVED => .ok (m, [])
  | .IDLE, .CHANNEL_ACCESS_GRANTED => unhandledEvent
  | .DEFER, .MEDIUM_STATE_CHANGED =>
      if m.mediumFree then .ok (m.enter .IFS_AND_BACKOFF) else unhandledEvent
  | .DEFER, .CORRUPTED_FRAME_RECEIVED => .ok (m.enter .DEFER)
  | .DEFER, .START => unhandledEvent
  | .DEFER, .CHANNEL_ACCESS_GRANTED => unhandledEvent
  | .IFS_AND_BACKOFF, .CHANNEL_ACCESS_GRANTED =>
      let (m, sent) := m.enter .IDLE
      .ok ({ m with channelGrantedEvent := true }, sent)
  | .IFS_AND_BACKOFF, .MEDIUM_STATE_CHANGED =>
      if m.mediumFree then unhandledEvent else .ok (m.enter .DEFER)
  | .IFS_AND_BACKOFF, .CORRUPTED_FRAME_RECEIVED => .ok (m, [])
  | .IFS_AND_BACKOFF, .START => unhandledEvent

def startContention (m : Mac α) : Result α :=
  let m := { m with channelGrantedEvent := false }
  if m.fsm = .IDLE then m.handleWithFSM .START
  else .error (.cRuntimeError "ASSERT: condition 'fsm.getState() == IDLE' false")

def isContentionInProgress (m : Mac α) : Bool := m.fsm ≠ .IDLE

/-- `Rx` tells the contention of a change of the medium state. -/
def mediumStateChanged (m : Mac α) (mediumFree : Bool) : Result α :=
  if mediumFree = m.mediumFree then .ok (m, [])
  else ({ m with mediumFree := mediumFree } : Mac α).handleWithFSM .MEDIUM_STATE_CHANGED

/-! ## Frames -/

/-- The first packet of the pending queue gets in progress. -/
def extractFramesToTransmit (m : Mac α) : Mac α :=
  match m.pendingQueue with
  | [] => m
  | packet :: rest =>
      { m with pendingQueue := rest, inProgressFrames := m.inProgressFrames ++ [packet] }

def ensureHasFrameToTransmit (m : Mac α) : Mac α :=
  match m.inProgressFrames with
  | [] => m.extractFramesToTransmit
  | _ :: _ => m

/-- `Dcf::channelGranted`: the sequence takes the first frame in progress. -/
def channelGranted (m : Mac α) : Result α :=
  match m.frameSequence with
  | some _ => .ok (m, [])
  | none =>
      let m := m.ensureHasFrameToTransmit
      match m.inProgressFrames with
      | [] => .error (.cRuntimeError "One alternative must be chosen")
      | packet :: _ => .ok ({ m with frameSequence := some packet }, [])

/-- `Dcaf::requestChannel`. -/
def requestChannel (m : Mac α) : Result α :=
  let m := { m with callback := true }
  if m.owning then m.channelGranted
  else if !m.isContentionInProgress then m.startContention
  else .ok (m, [])

/-- `Dcaf::channelAccessGranted`. -/
def channelAccessGranted (m : Mac α) : Result α :=
  if m.callback then ({ m with owning := true } : Mac α).channelGranted
  else .error (.cRuntimeError "ASSERT: condition 'callback != nullptr' false")

def releaseChannel (m : Mac α) : Mac α := { m with owning := false, callback := false }

/-- The queue keeps management packets before the others. -/
def insertPacket (isMgmt : α → Bool) (packet : α) : List α → List α
  | [] => [packet]
  | head :: rest =>
      if isMgmt packet && !isMgmt head then packet :: head :: rest
      else head :: insertPacket isMgmt packet rest

/-- Packets beyond the capacity are dropped at the end. -/
def enqueuePacket (p : MacParams α) (m : Mac α) (packet : α) : Mac α :=
  let queue := insertPacket p.isMgmt packet m.pendingQueue
  { m with
    pendingQueue :=
      match p.packetCapacity with
      | none => queue
      | some capacity => queue.take capacity }

/-- `Dcf::processUpperFrame`. -/
def processUpperFrame (p : MacParams α) (m : Mac α) (packet : α) : Result α :=
  let m := m.enqueuePacket p packet
  if m.pendingQueue.isEmpty then .ok (m, []) else m.requestChannel

/-- The frame of the running sequence is sent down, and the next one is looked up for its
duration field. A frame that goes in fragments is one frame here, so the next one is fetched
when it is first transmitted, not with its last fragment. -/
def transmitFrame (m : Mac α) : Result α :=
  match m.frameSequence with
  | none => .error .notEnabled
  | some packet =>
      .ok (if m.inProgressFrames.length ≤ 1 then m.extractFramesToTransmit else m, [.frame packet])

def hasFrameToTransmit (m : Mac α) : Bool := !m.pendingQueue.isEmpty || !m.inProgressFrames.isEmpty

def frameSequenceFinished (m : Mac α) : Result α :=
  let m := m.releaseChannel
  andThen (if m.hasFrameToTransmit then m.requestChannel else .ok (m, []))
    fun m => .ok m.sendDownPendingRadioConfigMsg

/-- A frame sequence ends; its frame is dropped when it was acknowledged or needs no
acknowledgement, or when its retry limit is reached. -/
def finishFrameSequence (m : Mac α) (dropped : Bool) : Result α :=
  match m.frameSequence with
  | none => .error .notEnabled
  | some _ =>
      let m := if dropped then { m with inProgressFrames := m.inProgressFrames.tail } else m
      andThen m.frameSequenceFinished fun m => .ok ({ m with frameSequence := none }, [])

/-! ## Events -/

inductive MacEvent (α : Type*)
  | upperCommand (command : ConfigureRadioCommand)
  | upperFrame (packet : α)
  | mediumState (mediumFree : Bool)
  | corruptedFrame
  | startTx
  | channelGranted
  | transmit
  | sequenceFinished (dropped : Bool)
deriving DecidableEq, Repr

def step (p : MacParams α) (m : Mac α) : MacEvent α → Result α
  | .upperCommand command => .ok (m.handleUpperCommand command)
  | .upperFrame packet => m.processUpperFrame p packet
  | .mediumState mediumFree => m.mediumStateChanged mediumFree
  | .corruptedFrame => m.handleWithFSM .CORRUPTED_FRAME_RECEIVED
  | .startTx =>
      if m.fsm = .IFS_AND_BACKOFF then m.handleWithFSM .CHANNEL_ACCESS_GRANTED
      else .error .notEnabled
  | .channelGranted =>
      if m.channelGrantedEvent then
        ({ m with channelGrantedEvent := false } : Mac α).channelAccessGranted
      else .error .notEnabled
  | .transmit => m.transmitFrame
  | .sequenceFinished dropped => m.finishFrameSequence dropped

end Mac

end MultiTechBus.Ieee80211
