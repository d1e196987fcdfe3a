import Mathlib.Data.List.Induction
import MultiTechBus.Ieee80211.Mac.Merge
import MultiTechBus.Ieee80211.Radio

/-! # The settings of the radio

A command that is held back is merged into the next one by its channel number and its
bitrate. Whether its other settings are missed depends on the radio: on what is set there,
and on what the next command sets again.
-/

namespace MultiTechBus.Ieee80211

open MultiTechBus.Library

/-! ## Commands, medium changes and calls -/

inductive CommandEvent
  | upperCommand (command : ConfigureRadioCommand)
  | mediumState (mediumFree : Bool)
  | sendDownPendingRadioConfigMsg
deriving DecidableEq, Repr

namespace Mac

variable {α : Type*}

/-- The MAC handles an event, and sends messages down. -/
def commandStep (m : Mac α) : CommandEvent → Mac α × List (RadioMsg α)
  | .upperCommand command => m.handleUpperCommand command
  | .mediumState mediumFree => ({ m with mediumFree := mediumFree }, [])
  | .sendDownPendingRadioConfigMsg => m.sendDownPendingRadioConfigMsg

def commandRun (m : Mac α) : List CommandEvent → Mac α × List (RadioMsg α)
  | [] => (m, [])
  | e :: es => (((m.commandStep e).1.commandRun es).1,
      (m.commandStep e).2 ++ ((m.commandStep e).1.commandRun es).2)

theorem commandRun_snoc (m : Mac α) (es : List CommandEvent) (e : CommandEvent) :
    m.commandRun (es ++ [e]) = (((m.commandRun es).1.commandStep e).1,
      (m.commandRun es).2 ++ ((m.commandRun es).1.commandStep e).2) := by
  induction es generalizing m with
  | nil => simp [commandRun]
  | cons d es ih => simp [commandRun, ih]

end Mac

def RadioMsg.command? {α : Type*} : RadioMsg α → Option ConfigureRadioCommand
  | configure command => some command
  | frame _ => none

section Commands

variable {α : Type*}

def sentDown (r : Mac α × List (RadioMsg α)) : List ConfigureRadioCommand :=
  r.2.filterMap RadioMsg.command?

/-- The commands that have reached the radio, and the one that is still held back. -/
def delivered (r : Mac α × List (RadioMsg α)) : List ConfigureRadioCommand :=
  sentDown r ++ r.1.pendingRadioConfigMsg.toList

def submitted (es : List CommandEvent) : List ConfigureRadioCommand :=
  es.filterMap fun
    | .upperCommand command => some command
    | _ => none

theorem submitted_snoc (es : List CommandEvent) (e : CommandEvent) :
    submitted (es ++ [e]) = submitted es ++ submitted [e] := List.filterMap_append

variable {m : Mac α} {es : List CommandEvent}

/-- A command that comes while another one is held back takes its place. -/
theorem delivered_snoc_merged {old : ConfigureRadioCommand}
    (hheld : (m.commandRun es).1.pendingRadioConfigMsg = some old)
    (command : ConfigureRadioCommand) : delivered (m.commandRun (es ++ [.upperCommand command])) =
      sentDown (m.commandRun es) ++ [command.merge old] := by
  rw [Mac.commandRun_snoc]
  cases hfree : (m.commandRun es).1.mediumFree <;>
    simp [delivered, sentDown, Mac.commandStep, Mac.handleUpperCommand, hheld, hfree,
      RadioMsg.command?]

/-- Otherwise the commands that are delivered grow as those that are submitted. -/
theorem delivered_snoc_cases (m : Mac α) (es : List CommandEvent) (e : CommandEvent) :
    (∃ command old, e = .upperCommand command ∧
      (m.commandRun es).1.pendingRadioConfigMsg = some old) ∨
    delivered (m.commandRun (es ++ [e])) = delivered (m.commandRun es) ++ submitted [e] := by
  rw [Mac.commandRun_snoc]
  cases e with
  | mediumState mediumFree =>
      right
      simp [delivered, sentDown, Mac.commandStep, submitted]
  | sendDownPendingRadioConfigMsg =>
      right
      cases hheld : (m.commandRun es).1.pendingRadioConfigMsg <;>
        simp [delivered, sentDown, Mac.commandStep, Mac.sendDownPendingRadioConfigMsg, hheld,
          submitted, RadioMsg.command?]
  | upperCommand command =>
      cases hheld : (m.commandRun es).1.pendingRadioConfigMsg with
      | some old => exact .inl ⟨command, old, rfl, rfl⟩
      | none =>
          right
          cases hfree : (m.commandRun es).1.mediumFree <;>
            simp [delivered, sentDown, Mac.commandStep, Mac.handleUpperCommand, hheld, hfree,
              submitted, RadioMsg.command?]

end Commands

/-! ## When a merged command does the same -/

/-- A setting of the old command makes no difference before the new one: the new one has it
too, the old one does not have it, or it is what is set already. -/
def Idle {β : Type} (old new current : Option β) : Prop :=
  new ≠ none ∨ old = none ∨ old = current

instance {β : Type} [DecidableEq β] (old new current : Option β) :
    Decidable (Idle old new current) :=
  inferInstanceAs (Decidable (_ ∨ _ ∨ _))

theorem idle_iff {β : Type} {old new current : Option β} :
    new.or (old.or current) = new.or current ↔ Idle old new current := by
  unfold Idle
  cases new with
  | none => cases old <;> simp
  | some b => simp

theorem idle_iff_getD {β : Type} {old new : Option β} {current : β} :
    new.getD (old.getD current) = new.getD current ↔ Idle old new (some current) := by
  unfold Idle
  cases new with
  | none => cases old <;> simp
  | some b => simp

/-- The old command makes no difference to the channel, but for its number, which the new one
takes over if it has none. -/
def SameTuning (o : PhyObjects) (t : Tuning) (old new : ConfigureRadioCommand) : Prop :=
  (do (← t.tell o old).tell o new) =
    t.tell o { new with
      channelNumber := if new.channelNumber = -1 then old.channelNumber else new.channelNumber }

instance (o : PhyObjects) (t : Tuning) (old new : ConfigureRadioCommand) :
    Decidable (SameTuning o t old new) :=
  inferInstanceAs (Decidable (_ = _))

/-- What a radio misses of the old command, when the new one has taken over its channel number
and its bitrate, makes no difference to it. -/
structure Redundant (o : PhyObjects) (r : Ieee80211Radio) (old new : ConfigureRadioCommand) :
    Prop where
  radioMode : Idle old.radioMode? new.radioMode? (some r.radioMode)
  power : Idle old.power new.power r.power
  transmitterModulation : Idle old.modulation new.modulation r.transmitterModulation
  receiverModulation : Idle old.modulation new.modulation r.receiverModulation
  transmitterBandwidth : Idle old.bandwidth new.bandwidth r.transmitterBandwidth
  receiverBandwidth : Idle old.bandwidth new.bandwidth r.receiverBandwidth
  modes : (do (← r.modes.tell o old).tell o new) = r.modes.tell o new
  transmitterTuning : SameTuning o r.transmitterTuning old new
  receiverTuning : SameTuning o r.receiverTuning old new

theorem redundant_iff {o : PhyObjects} {r : Ieee80211Radio} {old new : ConfigureRadioCommand} :
    Redundant o r old new ↔
      Idle old.radioMode? new.radioMode? (some r.radioMode) ∧
      Idle old.power new.power r.power ∧
      Idle old.modulation new.modulation r.transmitterModulation ∧
      Idle old.modulation new.modulation r.receiverModulation ∧
      Idle old.bandwidth new.bandwidth r.transmitterBandwidth ∧
      Idle old.bandwidth new.bandwidth r.receiverBandwidth ∧
      (do (← r.modes.tell o old).tell o new) = r.modes.tell o new ∧
      SameTuning o r.transmitterTuning old new ∧ SameTuning o r.receiverTuning old new :=
  ⟨fun ⟨h₁, h₂, h₃, h₄, h₅, h₆, h₇, h₈, h₉⟩ => ⟨h₁, h₂, h₃, h₄, h₅, h₆, h₇, h₈, h₉⟩,
    fun ⟨h₁, h₂, h₃, h₄, h₅, h₆, h₇, h₈, h₉⟩ => ⟨h₁, h₂, h₃, h₄, h₅, h₆, h₇, h₈, h₉⟩⟩

instance (o : PhyObjects) (r : Ieee80211Radio) (old new : ConfigureRadioCommand) :
    Decidable (Redundant o r old new) :=
  decidable_of_iff _ redundant_iff.symm

theorem tell_merge (o : PhyObjects) (t : Tuning) (new old : ConfigureRadioCommand) :
    t.tell o (new.merge old) =
      t.tell o { new with
        channelNumber := if new.channelNumber = -1 then old.channelNumber else new.channelNumber } := by
  unfold Tuning.tell ConfigureRadioCommand.merge ConfigureRadioCommand.channelNumber?
  by_cases hnew : new.channelNumber = -1 <;> by_cases hold : old.channelNumber = -1 <;>
    simp [hnew, hold]

theorem bitrate_merge (new old : ConfigureRadioCommand) :
    (new.merge old).bitrate = new.bitrate.or old.bitrate := by
  cases hnew : new.bitrate <;> cases hold : old.bitrate <;>
    simp [ConfigureRadioCommand.merge, hnew, hold]

namespace Ieee80211Radio

variable {o : PhyObjects} {r r₁ r' : Ieee80211Radio} {old new : ConfigureRadioCommand}

/-- A radio that can carry out two commands does the same with the merged one exactly if what
it misses is redundant. -/
theorem told_merge_iff (hold : Told o r old r₁) (hnew : Told o r₁ new r') :
    Told o r (new.merge old) r' ↔ Redundant o r old new := by
  have hmodes : (do (← r.modes.tell o old).tell o new) = .ok r'.modes :=
    bind_eq_ok.mpr ⟨_, hold.modes, hnew.modes⟩
  have htransmitter : (do (← r.transmitterTuning.tell o old).tell o new) = .ok r'.transmitterTuning :=
    bind_eq_ok.mpr ⟨_, hold.transmitterTuning, hnew.transmitterTuning⟩
  have hreceiver : (do (← r.receiverTuning.tell o old).tell o new) = .ok r'.receiverTuning :=
    bind_eq_ok.mpr ⟨_, hold.receiverTuning, hnew.receiverTuning⟩
  constructor
  · intro h
    refine ⟨?_, ?_, ?_, ?_, ?_, ?_, hmodes.trans h.modes.symm, ?_, ?_⟩
    · rw [← idle_iff_getD, ← hold.radioMode, ← hnew.radioMode]
      exact h.radioMode
    · rw [← idle_iff, ← hold.power, ← hnew.power]
      exact h.power
    · rw [← idle_iff, ← hold.transmitterModulation, ← hnew.transmitterModulation]
      exact h.transmitterModulation
    · rw [← idle_iff, ← hold.receiverModulation, ← hnew.receiverModulation]
      exact h.receiverModulation
    · rw [← idle_iff, ← hold.transmitterBandwidth, ← hnew.transmitterBandwidth]
      exact h.transmitterBandwidth
    · rw [← idle_iff, ← hold.receiverBandwidth, ← hnew.receiverBandwidth]
      exact h.receiverBandwidth
    · have htuning := h.transmitterTuning
      rw [tell_merge] at htuning
      exact htransmitter.trans htuning.symm
    · have htuning := h.receiverTuning
      rw [tell_merge] at htuning
      exact hreceiver.trans htuning.symm
  · intro h
    refine ⟨hnew.valid, ?_, h.modes.symm.trans hmodes, ?_, ?_, ?_, ?_, ?_, ?_, ?_, ?_⟩
    · rw [hnew.radioMode, hold.radioMode]
      exact idle_iff_getD.mpr h.radioMode
    · rw [tell_merge]
      exact h.transmitterTuning.symm.trans htransmitter
    · rw [tell_merge]
      exact h.receiverTuning.symm.trans hreceiver
    · rw [hnew.power, hold.power]
      exact idle_iff.mpr h.power
    · rw [hnew.bitrate, hold.bitrate, bitrate_merge, Option.or_assoc]
    · rw [hnew.transmitterModulation, hold.transmitterModulation]
      exact idle_iff.mpr h.transmitterModulation
    · rw [hnew.receiverModulation, hold.receiverModulation]
      exact idle_iff.mpr h.receiverModulation
    · rw [hnew.transmitterBandwidth, hold.transmitterBandwidth]
      exact idle_iff.mpr h.transmitterBandwidth
    · rw [hnew.receiverBandwidth, hold.receiverBandwidth]
      exact idle_iff.mpr h.receiverBandwidth

theorem carryOut_singleton : r.carryOut o [new] = .ok r' ↔ Told o r new r' := by
  rw [← handleUpperCommand_eq_ok_iff]
  unfold carryOut
  constructor
  · intro h
    obtain ⟨r₁, hstep, hend⟩ := run_cons_inv h
    rw [hstep]
    exact hend
  · intro h
    rw [run_cons_ok [] h, run_nil]

theorem carryOut_append_iff {l l' : List ConfigureRadioCommand} :
    r.carryOut o (l ++ l') = .ok r' ↔
      ∃ r₁, r.carryOut o l = .ok r₁ ∧ r₁.carryOut o l' = .ok r' := by
  constructor
  · exact run_append_inv
  · rintro ⟨r₁, hl, hl'⟩
    exact (run_append l' hl).trans hl'

end Ieee80211Radio

/-! ## Runs -/

section Runs

variable {α : Type*}

/-- At any time, carrying out what was sent down and what is held back leaves the radio with
the settings that carrying out the submitted commands does. -/
def Lossless (o : PhyObjects) (r : Ieee80211Radio) (m : Mac α) (es : List CommandEvent) : Prop :=
  ∀ xs ys r', es = xs ++ ys → r.carryOut o (submitted xs) = .ok r' →
    r.carryOut o (delivered (m.commandRun xs)) = .ok r'

/-- Whenever a command comes while another one is held back, what is missed of the other one
is redundant for the radio as the commands sent down have left it. -/
def MergesRedundant (o : PhyObjects) (r : Ieee80211Radio) (m : Mac α) (es : List CommandEvent) :
    Prop :=
  ∀ xs command ys old ρ r', es = xs ++ .upperCommand command :: ys →
    (m.commandRun xs).1.pendingRadioConfigMsg = some old →
    r.carryOut o (submitted xs ++ [command]) = .ok r' →
    r.carryOut o (sentDown (m.commandRun xs)) = .ok ρ → Redundant o ρ old command

variable {o : PhyObjects} {r : Ieee80211Radio} {m : Mac α} {es : List CommandEvent}

theorem MergesRedundant.lossless (h : MergesRedundant o r m es)
    (hheld : m.pendingRadioConfigMsg = none) : Lossless o r m es := by
  intro xs
  induction xs using List.reverseRecOn with
  | nil =>
      intro ys r' _ hsubmitted
      simpa [delivered, sentDown, Mac.commandRun, hheld, submitted] using hsubmitted
  | append_singleton xs e ih =>
      intro ys r' hsplit hsubmitted
      rw [List.append_assoc, List.singleton_append] at hsplit
      rw [submitted_snoc] at hsubmitted
      obtain ⟨r₁, hbefore, hlast⟩ := Ieee80211Radio.carryOut_append_iff.mp hsubmitted
      have hdelivered := ih _ _ hsplit hbefore
      rcases delivered_snoc_cases m xs e with ⟨command, old, rfl, hold⟩ | hsnoc
      · unfold delivered at hdelivered
        rw [hold] at hdelivered
        obtain ⟨ρ, hsent, hρ⟩ := Ieee80211Radio.carryOut_append_iff.mp hdelivered
        have hredundant := h xs command ys old ρ r' hsplit hold hsubmitted hsent
        have htold := (Ieee80211Radio.told_merge_iff (Ieee80211Radio.carryOut_singleton.mp hρ)
          (Ieee80211Radio.carryOut_singleton.mp hlast)).mpr hredundant
        rw [delivered_snoc_merged hold]
        exact Ieee80211Radio.carryOut_append_iff.mpr
          ⟨ρ, hsent, Ieee80211Radio.carryOut_singleton.mpr htold⟩
      · rw [hsnoc]
        exact Ieee80211Radio.carryOut_append_iff.mpr ⟨r₁, hdelivered, hlast⟩

theorem Lossless.mergesRedundant (h : Lossless o r m es) : MergesRedundant o r m es := by
  intro xs command ys old ρ r' hsplit hold hsubmitted hsent
  obtain ⟨r₁, hbefore, hlast⟩ := Ieee80211Radio.carryOut_append_iff.mp hsubmitted
  have hdelivered := h xs _ r₁ hsplit hbefore
  unfold delivered at hdelivered
  rw [hold] at hdelivered
  obtain ⟨ρ', hsent', hρ⟩ := Ieee80211Radio.carryOut_append_iff.mp hdelivered
  obtain rfl := Except.ok.inj (hsent.symm.trans hsent')
  have hmerged := h (xs ++ [.upperCommand command]) ys r' (by rw [hsplit, List.append_assoc]; rfl)
    (by rw [submitted_snoc]; exact hsubmitted)
  rw [delivered_snoc_merged hold] at hmerged
  obtain ⟨ρ', hsent', hmerge⟩ := Ieee80211Radio.carryOut_append_iff.mp hmerged
  obtain rfl := Except.ok.inj (hsent.symm.trans hsent')
  exact (Ieee80211Radio.told_merge_iff (Ieee80211Radio.carryOut_singleton.mp hρ)
    (Ieee80211Radio.carryOut_singleton.mp hlast)).mp (Ieee80211Radio.carryOut_singleton.mp hmerge)

end Runs

def samplePhy : PhyObjects where
  modeSets := []
  modeSet := fun _ => ⟨"", []⟩
  mode := fun _ => ⟨0, 0⟩
  band := fun _ => .arithmetical 5000000000 5000000 200
  channel := fun channel => ⟨some 0, channel⟩

def sampleRadio : Ieee80211Radio where
  power := some 20
  transmitterTuning := ⟨some 0, some (.own ⟨some 0, 1⟩), some 5007500000⟩
  receiverTuning := ⟨some 0, some (.own ⟨some 0, 1⟩), some 5007500000⟩

/-- A channel number that is taken over comes after the channel. -/
example : (sampleRadio.carryOut samplePhy (delivered (({ mediumFree := false } : Mac Nat).commandRun
    [.upperCommand { channelNumber := 6 }, .upperCommand { channel := some 3 }]))).toOption.map
      (fun r => r.transmitterTuning.channel) = some (some (.own ⟨some 0, 6⟩)) := by decide +kernel

example : ¬ Redundant samplePhy sampleRadio { channelNumber := 6 } { channel := some 3 } := by
  decide +kernel

/-- The mode set of the operation mode takes the place of the mode set before it. -/
example : Redundant { samplePhy with modeSets := [0], modeSet := fun _ => ⟨"g", []⟩ } sampleRadio
    { modeSet := some 0 } { opMode := "g" } := by decide +kernel

/-! ## Commands that only change the channel -/

/-- What `changeChannel` of the management entity sends: a channel number, which the band has.
A bitrate does no harm. -/
structure ConfigureRadioCommand.ChangesChannel (o : PhyObjects) (band : Nat)
    (c : ConfigureRadioCommand) : Prop where
  only : c = { channelNumber := c.channelNumber, bitrate := c.bitrate }
  valid : ∀ channelNumber, c.channelNumber? = some channelNumber →
    ∃ center, (o.band band).getCenterFrequency channelNumber = .ok center

namespace Tuning

/-- The channel was made for the band, and the center frequency is that of the channel. -/
structure InTune (o : PhyObjects) (b : Nat) (t : Tuning) : Prop where
  band : t.band = some b
  own : ∀ channel, t.channel = some channel → ∃ channelNumber center,
    channel = .own ⟨some b, channelNumber⟩ ∧
      (o.band b).getCenterFrequency channelNumber = .ok center ∧ t.centerFrequency = some center

/-- A band tuned to one of its channels. -/
def tuned (b : Nat) (channelNumber : Int) (center : Rat) : Tuning :=
  { band := some b, channel := some (.own ⟨some b, channelNumber⟩), centerFrequency := some center }

variable {o : PhyObjects} {b : Nat} {t t' : Tuning} {n : Int} {center : Rat}
  {c old new : ConfigureRadioCommand}

theorem inTune_tuned (hn : (o.band b).getCenterFrequency n = .ok center) :
    (tuned b n center).InTune o b where
  band := rfl
  own := fun _ h => ⟨n, center, (Option.some.inj h).symm, hn, rfl⟩

theorem InTune.replaceChannel (h : t.InTune o b)
    (hn : (o.band b).getCenterFrequency n = .ok center) :
    t.replaceChannel o (.own ⟨t.band, n⟩) = .ok (tuned b n center) := by
  simp [Tuning.replaceChannel, PhyObjects.channelAt, h.band, hn, Except.map, tuned]

/-- A channel number leaves nothing of what was before. -/
theorem InTune.setChannelNumber (h : t.InTune o b)
    (hn : (o.band b).getCenterFrequency n = .ok center) :
    t.setChannelNumber o n = .ok (tuned b n center) := by
  unfold Tuning.setChannelNumber
  cases hchannel : t.channel with
  | none => exact h.replaceChannel hn
  | some channel =>
      obtain ⟨k, f, rfl, hk, hf⟩ := h.own channel hchannel
      show (if n = (o.channelAt (.own ⟨some b, k⟩)).channelNumber then _ else _) = _
      split
      · rename_i heq
        obtain rfl : n = k := heq
        obtain rfl := Except.ok.inj (hk.symm.trans hn)
        have hband := h.band
        cases t
        simp only at hband hchannel hf
        rw [tuned, hband, hchannel, hf]
      · exact h.replaceChannel hn

theorem tell_of_changesChannel (hc : c.ChangesChannel o b) (t : Tuning) :
    t.tell o c = ifSet c.channelNumber? (Tuning.setChannelNumber o) t := by
  have hbind : t.tell o c = (ifSet c.channelNumber? (Tuning.setChannelNumber o) t >>= .ok) := by
    rw [hc.only]
    rfl
  rw [hbind]
  cases ifSet c.channelNumber? (Tuning.setChannelNumber o) t <;> rfl

/-- Such a command is carried out, and what it does depends on what was before only if it
has no number. -/
theorem InTune.tell (h : t.InTune o b) (hc : c.ChangesChannel o b) :
    ∃ t', t'.InTune o b ∧ t.tell o c = .ok t' ∧
      (c.channelNumber? ≠ none → ∀ u : Tuning, u.InTune o b → u.tell o c = .ok t') := by
  cases hn : c.channelNumber? with
  | none =>
      refine ⟨t, h, ?_, fun hne => absurd rfl hne⟩
      rw [tell_of_changesChannel hc, hn]
      rfl
  | some n =>
      obtain ⟨center, hcenter⟩ := hc.valid n hn
      have htell : ∀ u : Tuning, u.InTune o b → u.tell o c = .ok (tuned b n center) := by
        intro u hu
        rw [tell_of_changesChannel hc, hn]
        exact hu.setChannelNumber hcenter
      exact ⟨tuned b n center, inTune_tuned hcenter, htell t h, fun _ => htell⟩

theorem InTune.sameTuning (h : t.InTune o b) (hold : old.ChangesChannel o b)
    (hnew : new.ChangesChannel o b) : SameTuning o t old new := by
  obtain ⟨t₁, h₁, htell, -⟩ := h.tell hold
  unfold SameTuning
  rw [htell]
  show t₁.tell o new = _
  by_cases hnumber : new.channelNumber = -1
  · have hnone : new.channelNumber? = none := if_pos hnumber
    have hcarried : ConfigureRadioCommand.ChangesChannel o b
        { new with channelNumber := old.channelNumber } :=
      ⟨by rw [hnew.only], hold.valid⟩
    have hquiet : t₁.tell o new = .ok t₁ := by
      rw [tell_of_changesChannel hnew, hnone]
      rfl
    rw [if_pos hnumber, hquiet, ← htell, tell_of_changesChannel hold, tell_of_changesChannel hcarried]
    rfl
  · obtain ⟨t', -, -, hsame⟩ := h.tell hnew
    have hsome : new.channelNumber? ≠ none := by
      simp [ConfigureRadioCommand.channelNumber?, hnumber]
    rw [if_neg hnumber, hsame hsome t₁ h₁]
    exact (hsame hsome t h).symm

end Tuning

theorem ConfigureRadioCommand.ChangesChannel.merge {o : PhyObjects} {b : Nat}
    {new old : ConfigureRadioCommand} (hnew : new.ChangesChannel o b) (hold : old.ChangesChannel o b) :
    (new.merge old).ChangesChannel o b := by
  refine ⟨?_, fun channelNumber h => ?_⟩
  · unfold ConfigureRadioCommand.merge
    rw [hnew.only]
  · by_cases hnumber : new.channelNumber = -1
    · refine hold.valid channelNumber ?_
      by_cases hunset : old.channelNumber = -1
      · simp [ConfigureRadioCommand.merge, ConfigureRadioCommand.channelNumber?, hnumber, hunset] at h
      · simpa [ConfigureRadioCommand.merge, ConfigureRadioCommand.channelNumber?, hnumber, hunset]
          using h
    · refine hnew.valid channelNumber ?_
      simpa [ConfigureRadioCommand.merge, ConfigureRadioCommand.channelNumber?, hnumber] using h

namespace Ieee80211Radio

structure InTune (o : PhyObjects) (b : Nat) (r : Ieee80211Radio) : Prop where
  transmitter : r.transmitterTuning.InTune o b
  receiver : r.receiverTuning.InTune o b

variable {o : PhyObjects} {b : Nat} {r r' : Ieee80211Radio} {old new c : ConfigureRadioCommand}

theorem InTune.redundant (h : r.InTune o b) (hold : old.ChangesChannel o b)
    (hnew : new.ChangesChannel o b) : Redundant o r old new where
  radioMode := .inr (.inl (by rw [hold.only]; rfl))
  power := .inr (.inl (by rw [hold.only]))
  transmitterModulation := .inr (.inl (by rw [hold.only]))
  receiverModulation := .inr (.inl (by rw [hold.only]))
  transmitterBandwidth := .inr (.inl (by rw [hold.only]))
  receiverBandwidth := .inr (.inl (by rw [hold.only]))
  modes := by rw [hold.only]; rfl
  transmitterTuning := h.transmitter.sameTuning hold hnew
  receiverTuning := h.receiver.sameTuning hold hnew

theorem InTune.told (h : r.InTune o b) (hc : c.ChangesChannel o b) (htold : Told o r c r') :
    r'.InTune o b := by
  obtain ⟨t, ht, htell, -⟩ := h.transmitter.tell hc
  obtain ⟨u, hu, hutell, -⟩ := h.receiver.tell hc
  refine ⟨?_, ?_⟩
  · rwa [← Except.ok.inj (htell.symm.trans htold.transmitterTuning)]
  · rwa [← Except.ok.inj (hutell.symm.trans htold.receiverTuning)]

theorem InTune.carryOut (h : r.InTune o b) {commands : List ConfigureRadioCommand}
    (hcommands : ∀ c ∈ commands, c.ChangesChannel o b) (hrun : r.carryOut o commands = .ok r') :
    r'.InTune o b :=
  run_invariant (fun _ _ _ h hc hstep => h.told hc (handleUpperCommand_eq_ok_iff.mp hstep)) h
    (along_of_forall_mem (fun c hc _ => hcommands c hc) _) hrun

end Ieee80211Radio

section Runs

variable {α : Type*} {o : PhyObjects} {b : Nat} {r : Ieee80211Radio} {m : Mac α}
  {es : List CommandEvent}

theorem changesChannel_of_mem_delivered (hheld : m.pendingRadioConfigMsg = none)
    (hes : ∀ c ∈ submitted es, c.ChangesChannel o b) :
    ∀ c ∈ delivered (m.commandRun es), c.ChangesChannel o b := by
  induction es using List.reverseRecOn with
  | nil => simp [delivered, sentDown, Mac.commandRun, hheld]
  | append_singleton es e ih =>
      rw [submitted_snoc] at hes
      have hbefore := ih fun c hc => hes c (List.mem_append_left _ hc)
      have hlast := fun c hc => hes c (List.mem_append_right _ hc)
      rcases delivered_snoc_cases m es e with ⟨command, old, rfl, hold⟩ | hsnoc
      · have hmem : old ∈ delivered (m.commandRun es) := by simp [delivered, hold]
        rw [delivered_snoc_merged hold]
        intro c hc
        rcases List.mem_append.mp hc with hsent | hmerged
        · exact hbefore c (List.mem_append_left _ hsent)
        · obtain rfl := List.mem_singleton.mp hmerged
          exact (hlast command List.mem_cons_self).merge (hbefore old hmem)
      · rw [hsnoc]
        intro c hc
        rcases List.mem_append.mp hc with hdelivered | hsubmitted
        · exact hbefore c hdelivered
        · exact hlast c hsubmitted

/-- Commands that only change the channel are merged without a loss. -/
theorem lossless_of_changesChannel (hheld : m.pendingRadioConfigMsg = none) (hr : r.InTune o b)
    (hes : ∀ c ∈ submitted es, c.ChangesChannel o b) : Lossless o r m es := by
  refine MergesRedundant.lossless (fun xs command ys old ρ r' hsplit hold _ hsent => ?_) hheld
  have hsplit' : submitted es = submitted (xs ++ [.upperCommand command]) ++ submitted ys := by
    rw [hsplit, List.append_cons]
    exact List.filterMap_append
  rw [hsplit', submitted_snoc] at hes
  have hbefore := changesChannel_of_mem_delivered hheld
    fun c hc => hes c (List.mem_append_left _ (List.mem_append_left _ hc))
  have hcommand := hes command (List.mem_append_left _ (List.mem_append_right _ List.mem_cons_self))
  have hρ := hr.carryOut (fun c hc => hbefore c (List.mem_append_left _ hc)) hsent
  exact hρ.redundant (hbefore old (by simp [delivered, hold])) hcommand

end Runs

end MultiTechBus.Ieee80211
