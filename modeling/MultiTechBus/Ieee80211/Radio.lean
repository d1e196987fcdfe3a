import MultiTechBus.Library.Run
import MultiTechBus.Ieee80211.Mac.Dcf

/-! # The radio

`Ieee80211Radio` with its transmitter and its receiver, as far as commands set them. A mode
set, a mode, a band or a channel is the number of its object, and what the objects say is a
parameter. Switching the radio mode takes no time, and what becomes of a channel object that
is replaced is left out.
-/

namespace MultiTechBus.Ieee80211

open MultiTechBus.Library

/-! ## Bands, channels and modes -/

/-- `Ieee80211EnumeratedBand` and `Ieee80211ArithmeticalBand`. -/
inductive Ieee80211Band
  | enumerated (centers : List Rat)
  | arithmetical (start spacing : Rat) (numChannels : Nat)
deriving DecidableEq, Repr

def Ieee80211Band.getCenterFrequency (band : Ieee80211Band) (channelNumber : Int) :
    Except Halt Rat :=
  let invalid : Except Halt Rat :=
    .error (.cRuntimeError ("Invalid channel number: " ++ toString channelNumber))
  match band with
  | enumerated centers =>
      if channelNumber < 0 then invalid
      else
        match centers[channelNumber.toNat]? with
        | none => invalid
        | some center => .ok center
  | arithmetical start spacing numChannels =>
      if channelNumber < 0 ∨ channelNumber ≥ numChannels then invalid
      else .ok (start + spacing / 2 + spacing * channelNumber)

structure Ieee80211Channel where
  band : Option Nat
  channelNumber : Int
deriving DecidableEq, Repr

/-- The data mode of a mode. -/
structure Ieee80211Mode where
  netBitrate : Rat
  bandwidth : Rat
deriving DecidableEq, Repr

structure Ieee80211ModeSet where
  name : String
  /-- The modes, the slowest first. -/
  entries : List Nat
deriving DecidableEq, Repr

/-- What is at the pointers. -/
structure PhyObjects where
  /-- The registered mode sets. -/
  modeSets : List Nat
  modeSet : Nat → Ieee80211ModeSet
  mode : Nat → Ieee80211Mode
  band : Nat → Ieee80211Band
  channel : Nat → Ieee80211Channel

namespace PhyObjects

variable (o : PhyObjects)

def getModeSet (opMode : String) : Except Halt Nat :=
  match o.modeSets.find? fun modeSet => (o.modeSet modeSet).name = opMode with
  | some modeSet => .ok modeSet
  | none =>
      .error (.cRuntimeError ("Unknown 802.11 operational mode: '" ++ opMode ++
        "', valid modes are: " ++
        String.join (o.modeSets.map fun modeSet => "'" ++ (o.modeSet modeSet).name ++ "' ")))

/-- The first mode whose bitrate differs by 0.05 Mbps at most, of a bandwidth if one is given. -/
def findMode (modeSet : Nat) (bitrate : Rat) (bandwidth : Option Rat) : Option Nat :=
  (o.modeSet modeSet).entries.find? fun mode =>
    bitrate - 50000 ≤ (o.mode mode).netBitrate && (o.mode mode).netBitrate ≤ bitrate + 50000 &&
      bandwidth.all fun bandwidth => (o.mode mode).bandwidth = bandwidth

def getMode (modeSet : Nat) (bitrate : Rat) : Except Halt Nat :=
  match o.findMode modeSet bitrate none with
  | some mode => .ok mode
  | none =>
      .error (.cRuntimeError ("Unknown bitrate: (%g - %g) in operation mode: '" ++
        (o.modeSet modeSet).name ++ "'"))

end PhyObjects

/-! ## What is set together -/

/-- The mode set of the transmitter with its mode, and that of the receiver. -/
structure Modes where
  modeSet : Option Nat := none
  mode : Option Nat := none
  receiverModeSet : Option Nat := none
deriving DecidableEq, Repr

namespace Modes

variable (o : PhyObjects) (m : Modes)

def setModeSet (modeSet : Nat) : Except Halt Modes := do
  let m ←
    if m.modeSet = some modeSet then .ok m
    else
      match m.mode with
      | none => .ok { m with modeSet := some modeSet }
      | some mode =>
          (o.getMode modeSet (o.mode mode).netBitrate).map fun mode =>
            { m with modeSet := some modeSet, mode := some mode }
  .ok { m with receiverModeSet := some modeSet }

/-- `setModeSet(Ieee80211ModeSet::getModeSet(opMode))`. -/
def setOpMode (opMode : String) : Except Halt Modes := do
  let modeSet ← o.getModeSet opMode
  m.setModeSet o modeSet

def setMode (mode : Nat) : Except Halt Modes :=
  if m.mode = some mode then .ok m
  else
    match m.modeSet with
    | none => .error .nullPointer
    | some modeSet =>
        if (o.findMode modeSet (o.mode mode).netBitrate (some (o.mode mode).bandwidth)).isNone then
          .error (.cRuntimeError "Invalid mode")
        else .ok { m with mode := some mode }

end Modes

/-- A channel that the transmitter or the receiver has made, or one that it was given. -/
inductive ChannelPointer
  | own (channel : Ieee80211Channel)
  | given (object : Nat)
deriving DecidableEq, Repr

def PhyObjects.channelAt (o : PhyObjects) : ChannelPointer → Ieee80211Channel
  | .own channel => channel
  | .given object => o.channel object

/-- What the transmitter and the receiver keep about the channel, each for itself. -/
structure Tuning where
  band : Option Nat := none
  channel : Option ChannelPointer := none
  centerFrequency : Option Rat := none
deriving DecidableEq, Repr

namespace Tuning

variable (o : PhyObjects) (t : Tuning)

/-- `setChannel` with another channel than the present one. -/
def replaceChannel (channel : ChannelPointer) : Except Halt Tuning :=
  match (o.channelAt channel).band with
  | none => .error .nullPointer
  | some band =>
      ((o.band band).getCenterFrequency (o.channelAt channel).channelNumber).map fun center =>
        { t with channel := some channel, centerFrequency := some center }

def setBand (band : Nat) : Except Halt Tuning :=
  if t.band = some band then .ok t
  else
    match t.channel with
    | none => .ok { t with band := some band }
    | some channel =>
        replaceChannel o { t with band := some band }
          (.own ⟨some band, (o.channelAt channel).channelNumber⟩)

def setChannel (channel : Nat) : Except Halt Tuning :=
  if t.channel = some (.given channel) then .ok t else t.replaceChannel o (.given channel)

def setChannelNumber (channelNumber : Int) : Except Halt Tuning :=
  match t.channel with
  | none => t.replaceChannel o (.own ⟨t.band, channelNumber⟩)
  | some channel =>
      if channelNumber = (o.channelAt channel).channelNumber then .ok t
      else t.replaceChannel o (.own ⟨t.band, channelNumber⟩)

def setCenterFrequency (centerFrequency : Rat) : Tuning :=
  { t with centerFrequency := some centerFrequency }

end Tuning

/-! ## The radio -/

structure Ieee80211Radio where
  radioMode : Int := 0
  modes : Modes := {}
  transmitterTuning : Tuning := {}
  receiverTuning : Tuning := {}
  power : Option Rat := none
  bitrate : Option Rat := none
  transmitterModulation : Option Nat := none
  receiverModulation : Option Nat := none
  transmitterBandwidth : Option Rat := none
  receiverBandwidth : Option Rat := none
deriving DecidableEq, Repr

namespace ConfigureRadioCommand

variable (c : ConfigureRadioCommand)

/-- The settings that are absent by a value of their type. -/
def radioMode? : Option Int := if c.radioMode = -1 then none else some c.radioMode

def opMode? : Option String := if c.opMode = "" then none else some c.opMode

def channelNumber? : Option Int := if c.channelNumber = -1 then none else some c.channelNumber

end ConfigureRadioCommand

/-- Set what a command has a value for. -/
def ifSet {α σ : Type} (value : Option α) (set : σ → α → Except Halt σ) (s : σ) : Except Halt σ :=
  match value with
  | none => .ok s
  | some a => set s a

namespace Ieee80211Radio

variable (o : PhyObjects) (r : Ieee80211Radio)

def setModeSet (modeSet : Nat) : Except Halt Ieee80211Radio :=
  (r.modes.setModeSet o modeSet).map fun modes => { r with modes := modes }

def setOpMode (opMode : String) : Except Halt Ieee80211Radio :=
  (r.modes.setOpMode o opMode).map fun modes => { r with modes := modes }

def setMode (mode : Nat) : Except Halt Ieee80211Radio :=
  (r.modes.setMode o mode).map fun modes => { r with modes := modes }

/-- The transmitter is set first, then the receiver. -/
def setTunings (set : Tuning → Except Halt Tuning) : Except Halt Ieee80211Radio := do
  let transmitterTuning ← set r.transmitterTuning
  let receiverTuning ← set r.receiverTuning
  .ok { r with transmitterTuning := transmitterTuning, receiverTuning := receiverTuning }

def setBand (band : Nat) : Except Halt Ieee80211Radio := r.setTunings fun t => t.setBand o band

def setChannel (channel : Nat) : Except Halt Ieee80211Radio :=
  r.setTunings fun t => t.setChannel o channel

def setChannelNumber (channelNumber : Int) : Except Halt Ieee80211Radio :=
  r.setTunings fun t => t.setChannelNumber o channelNumber

def setCenterFrequency (centerFrequency : Rat) : Except Halt Ieee80211Radio :=
  r.setTunings fun t => .ok (t.setCenterFrequency centerFrequency)

/-- `Radio::setRadioMode`; the numbers are those of `RADIO_MODE_OFF` to `RADIO_MODE_SWITCHING`. -/
def setRadioMode (newRadioMode : Int) : Except Halt Ieee80211Radio :=
  if newRadioMode < 0 ∨ newRadioMode > 5 then
    .error (.cRuntimeError ("Unknown radio mode: " ++ toString newRadioMode))
  else if newRadioMode = 5 then
    .error (.cRuntimeError "Cannot switch manually to RADIO_MODE_SWITCHING")
  else .ok { r with radioMode := newRadioMode }

/-- `handleUpperCommand` of `Ieee80211Radio`, `FlatRadioBase`, `NarrowbandRadioBase` and
`Radio`, one after the other. -/
def handleUpperCommand (r : Ieee80211Radio) (c : ConfigureRadioCommand) :
    Except Halt Ieee80211Radio := do
  let r ← ifSet c.opMode? (setOpMode o) r
  let r ← ifSet c.modeSet (setModeSet o) r
  let r ← ifSet c.mode (setMode o) r
  let r ← ifSet c.band (setBand o) r
  let r ← ifSet c.channel (setChannel o) r
  let r ← ifSet c.channelNumber? (setChannelNumber o) r
  let r := { r with power := c.power.or r.power, bitrate := c.bitrate.or r.bitrate }
  let r :=
    { r with
      transmitterModulation := c.modulation.or r.transmitterModulation
      receiverModulation := c.modulation.or r.receiverModulation }
  let r ← ifSet c.centerFrequency setCenterFrequency r
  let r :=
    { r with
      transmitterBandwidth := c.bandwidth.or r.transmitterBandwidth
      receiverBandwidth := c.bandwidth.or r.receiverBandwidth }
  ifSet c.radioMode? setRadioMode r

def carryOut (r : Ieee80211Radio) (commands : List ConfigureRadioCommand) :
    Except Halt Ieee80211Radio :=
  run (handleUpperCommand o) r commands

end Ieee80211Radio

/-! ## What a command does -/

/-- What a command does to the mode sets and the mode. -/
def Modes.tell (o : PhyObjects) (m : Modes) (c : ConfigureRadioCommand) : Except Halt Modes := do
  let m ← ifSet c.opMode? (setOpMode o) m
  let m ← ifSet c.modeSet (setModeSet o) m
  ifSet c.mode (setMode o) m

/-- What a command does to the band, the channel and the center frequency. -/
def Tuning.tell (o : PhyObjects) (t : Tuning) (c : ConfigureRadioCommand) : Except Halt Tuning := do
  let t ← ifSet c.band (setBand o) t
  let t ← ifSet c.channel (setChannel o) t
  let t ← ifSet c.channelNumber? (setChannelNumber o) t
  ifSet c.centerFrequency (fun t f => .ok (t.setCenterFrequency f)) t

theorem bind_eq_ok {α β : Type} {x : Except Halt α} {f : α → Except Halt β} {b : β} :
    x >>= f = .ok b ↔ ∃ a, x = .ok a ∧ f a = .ok b := by
  constructor
  · exact bind_ok_inv
  · rintro ⟨a, rfl, h⟩
    exact h

namespace Ieee80211Radio

variable {o : PhyObjects} {r r' : Ieee80211Radio} {c : ConfigureRadioCommand}

structure Told (o : PhyObjects) (r : Ieee80211Radio) (c : ConfigureRadioCommand)
    (r' : Ieee80211Radio) : Prop where
  valid : ∀ radioMode, c.radioMode? = some radioMode → 0 ≤ radioMode ∧ radioMode < 5
  radioMode : r'.radioMode = c.radioMode?.getD r.radioMode
  modes : r.modes.tell o c = .ok r'.modes
  transmitterTuning : r.transmitterTuning.tell o c = .ok r'.transmitterTuning
  receiverTuning : r.receiverTuning.tell o c = .ok r'.receiverTuning
  power : r'.power = c.power.or r.power
  bitrate : r'.bitrate = c.bitrate.or r.bitrate
  transmitterModulation : r'.transmitterModulation = c.modulation.or r.transmitterModulation
  receiverModulation : r'.receiverModulation = c.modulation.or r.receiverModulation
  transmitterBandwidth : r'.transmitterBandwidth = c.bandwidth.or r.transmitterBandwidth
  receiverBandwidth : r'.receiverBandwidth = c.bandwidth.or r.receiverBandwidth

variable {α : Type} {value : Option α}

theorem ifSet_modes (set : Modes → α → Except Halt Modes)
    {f : Ieee80211Radio → α → Except Halt Ieee80211Radio}
    (hf : ∀ r a, f r a = (set r.modes a).map fun modes => { r with modes := modes }) :
    ifSet value f r = .ok r' ↔
      ∃ modes, ifSet value set r.modes = .ok modes ∧ r' = { r with modes := modes } := by
  cases value with
  | none =>
      simp only [ifSet, Except.ok.injEq, exists_eq_left']
      exact eq_comm
  | some a =>
      simp only [ifSet, hf]
      cases set r.modes a with
      | error k => simp [Except.map]
      | ok modes => simp [Except.map, eq_comm]

theorem ifSet_tunings (set : Tuning → α → Except Halt Tuning)
    {f : Ieee80211Radio → α → Except Halt Ieee80211Radio}
    (hf : ∀ r a, f r a = r.setTunings fun t => set t a) :
    ifSet value f r = .ok r' ↔
      ∃ t u, ifSet value set r.transmitterTuning = .ok t ∧ ifSet value set r.receiverTuning = .ok u ∧
        r' = { r with transmitterTuning := t, receiverTuning := u } := by
  cases value with
  | none =>
      simp only [ifSet, Except.ok.injEq, exists_and_left, exists_eq_left']
      exact eq_comm
  | some a =>
      simp only [ifSet, hf, setTunings, bind_eq_ok, Except.ok.injEq]
      constructor
      · rintro ⟨t, ht, u, hu, rfl⟩
        exact ⟨t, u, ht, hu, rfl⟩
      · rintro ⟨t, u, ht, hu, rfl⟩
        exact ⟨t, ht, u, hu, rfl⟩

theorem ifSet_radioMode {value : Option Int} : ifSet value setRadioMode r = .ok r' ↔
    (∀ radioMode, value = some radioMode → 0 ≤ radioMode ∧ radioMode < 5) ∧
      r' = { r with radioMode := value.getD r.radioMode } := by
  cases value with
  | none =>
      simp only [ifSet, Except.ok.injEq, reduceCtorEq, false_implies, implies_true, true_and]
      exact eq_comm
  | some radioMode =>
      simp only [ifSet, setRadioMode, Option.some.injEq, forall_eq', Option.getD_some]
      split_ifs with hunknown hswitching
      · simp
        omega
      · simp
        omega
      · simp only [Except.ok.injEq]
        constructor
        · rintro rfl
          exact ⟨by omega, rfl⟩
        · rintro ⟨-, rfl⟩
          rfl

theorem handleUpperCommand_eq_ok_iff : r.handleUpperCommand o c = .ok r' ↔ Told o r c r' := by
  constructor
  · intro h
    obtain ⟨r₁, h₁, h⟩ := bind_eq_ok.mp h
    obtain ⟨m₁, hm₁, rfl⟩ := (ifSet_modes (Modes.setOpMode o) fun _ _ => rfl).mp h₁
    obtain ⟨r₂, h₂, h⟩ := bind_eq_ok.mp h
    obtain ⟨m₂, hm₂, rfl⟩ := (ifSet_modes (Modes.setModeSet o) fun _ _ => rfl).mp h₂
    obtain ⟨r₃, h₃, h⟩ := bind_eq_ok.mp h
    obtain ⟨m₃, hm₃, rfl⟩ := (ifSet_modes (Modes.setMode o) fun _ _ => rfl).mp h₃
    obtain ⟨r₄, h₄, h⟩ := bind_eq_ok.mp h
    obtain ⟨t₁, u₁, ht₁, hu₁, rfl⟩ := (ifSet_tunings (Tuning.setBand o) fun _ _ => rfl).mp h₄
    obtain ⟨r₅, h₅, h⟩ := bind_eq_ok.mp h
    obtain ⟨t₂, u₂, ht₂, hu₂, rfl⟩ := (ifSet_tunings (Tuning.setChannel o) fun _ _ => rfl).mp h₅
    obtain ⟨r₆, h₆, h⟩ := bind_eq_ok.mp h
    obtain ⟨t₃, u₃, ht₃, hu₃, rfl⟩ :=
      (ifSet_tunings (Tuning.setChannelNumber o) fun _ _ => rfl).mp h₆
    obtain ⟨r₇, h₇, h⟩ := bind_eq_ok.mp h
    obtain ⟨t₄, u₄, ht₄, hu₄, rfl⟩ :=
      (ifSet_tunings (fun t f => .ok (t.setCenterFrequency f)) fun _ _ => rfl).mp h₇
    obtain ⟨hvalid, rfl⟩ := ifSet_radioMode.mp h
    exact ⟨hvalid, rfl, bind_eq_ok.mpr ⟨m₁, hm₁, bind_eq_ok.mpr ⟨m₂, hm₂, hm₃⟩⟩,
      bind_eq_ok.mpr ⟨t₁, ht₁, bind_eq_ok.mpr ⟨t₂, ht₂, bind_eq_ok.mpr ⟨t₃, ht₃, ht₄⟩⟩⟩,
      bind_eq_ok.mpr ⟨u₁, hu₁, bind_eq_ok.mpr ⟨u₂, hu₂, bind_eq_ok.mpr ⟨u₃, hu₃, hu₄⟩⟩⟩,
      rfl, rfl, rfl, rfl, rfl, rfl⟩
  · intro h
    obtain ⟨m₁, hm₁, hmodes⟩ := bind_eq_ok.mp h.modes
    obtain ⟨m₂, hm₂, hm₃⟩ := bind_eq_ok.mp hmodes
    obtain ⟨t₁, ht₁, ht⟩ := bind_eq_ok.mp h.transmitterTuning
    obtain ⟨t₂, ht₂, ht⟩ := bind_eq_ok.mp ht
    obtain ⟨t₃, ht₃, ht₄⟩ := bind_eq_ok.mp ht
    obtain ⟨u₁, hu₁, hu⟩ := bind_eq_ok.mp h.receiverTuning
    obtain ⟨u₂, hu₂, hu⟩ := bind_eq_ok.mp hu
    obtain ⟨u₃, hu₃, hu₄⟩ := bind_eq_ok.mp hu
    refine bind_eq_ok.mpr ⟨_, (ifSet_modes _ fun _ _ => rfl).mpr ⟨m₁, hm₁, rfl⟩, ?_⟩
    refine bind_eq_ok.mpr ⟨_, (ifSet_modes _ fun _ _ => rfl).mpr ⟨m₂, hm₂, rfl⟩, ?_⟩
    refine bind_eq_ok.mpr ⟨_, (ifSet_modes _ fun _ _ => rfl).mpr ⟨_, hm₃, rfl⟩, ?_⟩
    refine bind_eq_ok.mpr ⟨_, (ifSet_tunings _ fun _ _ => rfl).mpr ⟨t₁, u₁, ht₁, hu₁, rfl⟩, ?_⟩
    refine bind_eq_ok.mpr ⟨_, (ifSet_tunings _ fun _ _ => rfl).mpr ⟨t₂, u₂, ht₂, hu₂, rfl⟩, ?_⟩
    refine bind_eq_ok.mpr ⟨_, (ifSet_tunings _ fun _ _ => rfl).mpr ⟨t₃, u₃, ht₃, hu₃, rfl⟩, ?_⟩
    refine bind_eq_ok.mpr ⟨_, (ifSet_tunings _ fun _ _ => rfl).mpr ⟨_, _, ht₄, hu₄, rfl⟩, ?_⟩
    refine ifSet_radioMode.mpr ⟨h.valid, ?_⟩
    obtain ⟨-, hmode, -, -, -, hpower, hbitrate, htm, hrm, htb, hrb⟩ := h
    cases r'
    simp_all

end Ieee80211Radio

end MultiTechBus.Ieee80211
