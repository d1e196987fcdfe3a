import MultiTechBus.Library.Run
import MultiTechBus.Ieee80211.MgmtAp
import MultiTechBus.Ieee80211.Nic

/-! # A basic service set

Any number of stations and one access point. Between each station and the access point
there is one channel for each direction; a channel keeps the order of the frames, may
hold a frame for any time and may lose it. A channel holds the bodies of the frames,
since their addresses are those of its ends.
-/

namespace MultiTechBus.Ieee80211

structure BssParams (ι : Type*) where
  ap : ApParams
  agent : ι → AgentParams
  address : ι → MacAddress
  address_injective : Function.Injective address
  address_ne : ∀ i, address i ≠ MacAddress.BROADCAST_ADDRESS

structure Bss (ι : Type*) where
  ap : MgmtAp := {}
  sta : ι → Nic
  /-- The frames from a station to the access point, the oldest first. -/
  up : ι → List FrameBody := fun _ => []
  down : ι → List FrameBody := fun _ => []

inductive BssEvent (ι : Type*)
  | station (i : ι) (e : Event)
  | toStation (i : ι) (signalPower : Rat)
  | toAp (i : ι)
  | loseUp (i : ι) (k : Nat)
  | loseDown (i : ι) (k : Nat)
  | beacon
  | channelChanged (channelNumber : Int)
deriving DecidableEq, Repr

/-- A frame that a station sends, with its receiver. -/
def NicOut.frame? : NicOut → Option (FrameBody × MacAddress)
  | mgmt (.sendManagementFrame _ body address) => some (body, address)
  | _ => none

/-- A frame that the access point sends, with its receiver. -/
def ApOut.frame? : ApOut → Option (FrameBody × MacAddress)
  | sendManagementFrame _ body destAddr => some (body, destAddr)
  | _ => none

def Event.isReception : Event → Bool
  | frame _ => true
  | _ => false

def receivedAt (address : MacAddress) (frame : FrameBody × MacAddress) : Option FrameBody :=
  if frame.2 = address ∨ frame.2 = MacAddress.BROADCAST_ADDRESS then some frame.1 else none

namespace Bss

variable {ι : Type*}

def initial (numChannels : ι → Nat) : Bss ι := { sta := fun i => Nic.initial (numChannels i) }

variable [DecidableEq ι]

def stationStep (p : BssParams ι) (s : Bss ι) (i : ι) (e : Event) : Except Halt (Bss ι) :=
  match (s.sta i).step (p.agent i) e with
  | .error k => .error k
  | .ok (n, outs) =>
      .ok
        { s with
          sta := Function.update s.sta i n
          up := Function.update s.up i
            (s.up i ++ (outs.filterMap NicOut.frame?).filterMap (receivedAt p.ap.address)) }

/-- The access point hands over what it sends. -/
def apStep (p : BssParams ι) (s : Bss ι) (ap : MgmtAp) (outs : List ApOut) : Bss ι :=
  { s with
    ap := ap
    down := fun i => s.down i ++ (outs.filterMap ApOut.frame?).filterMap (receivedAt (p.address i)) }

def step (p : BssParams ι) (s : Bss ι) : BssEvent ι → Except Halt (Bss ι)
  | .station i e => if e.isReception then .error .notEnabled else s.stationStep p i e
  | .toStation i signalPower =>
      match s.down i with
      | [] => .error .notEnabled
      | body :: rest =>
          stationStep p { s with down := Function.update s.down i rest } i
            (.frame
              { transmitterAddress := p.ap.address
                address3 := p.ap.address
                body := body
                signalPower := signalPower })
  | .toAp i =>
      match s.up i with
      | [] => .error .notEnabled
      | body :: rest =>
          let (ap, outs) := s.ap.processFrame p.ap
            { transmitterAddress := p.address i
              address3 := MacAddress.UNSPECIFIED_ADDRESS
              body := body }
          .ok (apStep p { s with up := Function.update s.up i rest } ap outs)
  | .loseUp i k => .ok { s with up := Function.update s.up i ((s.up i).eraseIdx k) }
  | .loseDown i k => .ok { s with down := Function.update s.down i ((s.down i).eraseIdx k) }
  | .beacon => .ok (s.apStep p s.ap [s.ap.sendBeacon p.ap])
  | .channelChanged channelNumber =>
      .ok { s with ap := { s.ap with channelNumber := channelNumber } }

end Bss

end MultiTechBus.Ieee80211
