import Mathlib.Tactic.Common
import MultiTechBus.Library.Run
import MultiTechBus.Ieee80211.Mac.Merge
import MultiTechBus.Ieee80211.Mac.Rename

/-! # Commands are sent down before later frames

Every radio command that was issued before a frame has reached the radio, itself or
merged into a later one, when the transmission of the frame begins. What carries
this: once the channel is granted, every frame in the queues is older than the
command that is held back, if there is one.
-/

namespace MultiTechBus.Ieee80211

open MultiTechBus.Library

/-! ## The MAC with what it was given -/

/-- A frame with the commands that management issued before it. -/
structure Stamped (β : Type*) where
  frame : β
  issuedBefore : List ConfigureRadioCommand
deriving DecidableEq, Repr

/-- The MAC with the commands it was given and the messages it sent down. -/
structure Recorded (β : Type*) where
  mac : Mac (Stamped β) := {}
  issued : List ConfigureRadioCommand := []
  toRadio : List (RadioMsg (Stamped β)) := []
deriving DecidableEq, Repr

namespace Mac

/-- The command that an event issues. -/
def MacEvent.commands {α : Type*} : MacEvent α → List ConfigureRadioCommand
  | .upperCommand command => [command]
  | _ => []

/-- `step` with all that was sent down so far. -/
def sendingStep {α : Type*} (p : MacParams α) (s : Mac α × List (RadioMsg α)) (e : MacEvent α) :
    Except Halt (Mac α × List (RadioMsg α)) :=
  (s.1.step p e).map fun r => (r.1, s.2 ++ r.2)

end Mac

def configures {α : Type*} (toRadio : List (RadioMsg α)) : List ConfigureRadioCommand :=
  toRadio.filterMap fun
    | .configure command => some command
    | .frame _ => none

namespace Recorded

variable {β : Type*}

/-- `Mac.step` on frames that carry their stamp. -/
def step (p : MacParams β) (r : Recorded β) (e : Mac.MacEvent β) : Except Halt (Recorded β) :=
  match r.mac.step (p.comap Stamped.frame) (e.map (⟨·, r.issued⟩)) with
  | .error k => .error k
  | .ok (mac, sent) =>
      .ok { mac := mac, issued := r.issued ++ e.commands, toRadio := r.toRadio ++ sent }

/-- What remains without the stamps. -/
def erase (r : Recorded β) : Mac β × List (RadioMsg β) :=
  (r.mac.map Stamped.frame, r.toRadio.map (RadioMsg.map Stamped.frame))

/-- Without the stamps, a recorded run is a run of the MAC. -/
theorem run_erase (p : MacParams β) (es : List (Mac.MacEvent β)) :
    run (Mac.sendingStep p) ({}, []) es = (run (step p) {} es).map erase := by
  refine run_map (f := erase) (fun r e => ?_) {} es
  have hevent : e = (e.map (⟨·, r.issued⟩ : β → Stamped β)).map Stamped.frame := by cases e <;> rfl
  have hstep := Mac.step_map Stamped.frame p r.mac (e.map (⟨·, r.issued⟩))
  rw [← hevent] at hstep
  simp only [Mac.sendingStep, erase, step, hstep]
  cases r.mac.step (p.comap Stamped.frame) (e.map (⟨·, r.issued⟩)) with
  | error k => rfl
  | ok sent => simp [Mac.mapResult, Mac.mapOuts, Except.map, erase]

end Recorded

/-! ## What the functions send down -/

/-- A function keeps the command that is held back, or sends it down. -/
inductive Flush {α : Type*} :
    Option ConfigureRadioCommand → Option ConfigureRadioCommand → List (RadioMsg α) → Prop
  | kept (held : Option ConfigureRadioCommand) : Flush held held []
  | sent (command : ConfigureRadioCommand) : Flush (some command) none [.configure command]

namespace Mac

variable {α : Type*}

def frames (m : Mac α) : List α := m.inProgressFrames ++ m.pendingQueue

/-- What the functions of the contention leave alone. -/
structure SameFrames (m m' : Mac α) : Prop where
  frames : m'.frames = m.frames
  frameSequence : m'.frameSequence = m.frameSequence
  owning : m'.owning = m.owning

theorem SameFrames.refl (m : Mac α) : SameFrames m m := ⟨rfl, rfl, rfl⟩

/-- `m'` is `m` after the contention sent down `outs`. -/
structure Contended (m m' : Mac α) (outs : List (RadioMsg α)) : Prop where
  same : SameFrames m m'
  flush : Flush m.pendingRadioConfigMsg m'.pendingRadioConfigMsg outs

theorem sendDownPendingRadioConfigMsg_spec (m : Mac α) :
    Contended m m.sendDownPendingRadioConfigMsg.1 m.sendDownPendingRadioConfigMsg.2 ∧
      m.sendDownPendingRadioConfigMsg.1.pendingRadioConfigMsg = none ∧
      m.sendDownPendingRadioConfigMsg.1.fsm = m.fsm ∧
      m.sendDownPendingRadioConfigMsg.1.channelGrantedEvent = m.channelGrantedEvent := by
  unfold sendDownPendingRadioConfigMsg
  split
  case h_1 h => exact ⟨⟨.refl m, .kept _⟩, h, rfl, rfl⟩
  case h_2 command h =>
    refine ⟨⟨⟨rfl, rfl, rfl⟩, ?_⟩, rfl, rfl, rfl⟩
    rw [h]
    exact .sent command

theorem enter_spec (m : Mac α) (state : ContentionState) :
    Contended m (m.enter state).1 (m.enter state).2 ∧ (m.enter state).1.fsm = state ∧
      (m.enter state).1.channelGrantedEvent = m.channelGrantedEvent ∧
      (state = .IDLE → (m.enter state).1.pendingRadioConfigMsg = none) := by
  obtain ⟨hcontended, hnone, hfsm, hgranted⟩ :=
    sendDownPendingRadioConfigMsg_spec { m with fsm := state }
  have hsent : Contended m (sendDownPendingRadioConfigMsg { m with fsm := state }).1
      (sendDownPendingRadioConfigMsg { m with fsm := state }).2 :=
    ⟨⟨hcontended.same.frames, hcontended.same.frameSequence, hcontended.same.owning⟩,
      hcontended.flush⟩
  cases state with
  | IDLE => exact ⟨hsent, hfsm, hgranted, fun _ => hnone⟩
  | DEFER => exact ⟨hsent, hfsm, hgranted, fun h => nomatch h⟩
  | IFS_AND_BACKOFF => exact ⟨⟨⟨rfl, rfl, rfl⟩, .kept _⟩, rfl, rfl, fun h => nomatch h⟩

/-- An event other than the end of the backoff does not grant the channel. -/
theorem handleWithFSM_spec {m m' : Mac α} {event : ContentionEvent} {outs : List (RadioMsg α)}
    (hevent : event ≠ .CHANNEL_ACCESS_GRANTED) (h : m.handleWithFSM event = .ok (m', outs)) :
    Contended m m' outs ∧ m'.channelGrantedEvent = m.channelGrantedEvent ∧
      (event ≠ .START → m.fsm = .IDLE → m'.fsm = .IDLE) := by
  have hstay : ∀ {state : ContentionState}, m.enter state = (m', outs) →
      Contended m m' outs ∧ m'.channelGrantedEvent = m.channelGrantedEvent := by
    intro state he
    obtain ⟨hcontended, _, hgranted, _⟩ := enter_spec m state
    rw [he] at hcontended hgranted
    exact ⟨hcontended, hgranted⟩
  unfold handleWithFSM unhandledEvent at h
  split at h
  case h_1 =>
    obtain ⟨hcontended, hgranted⟩ := hstay (Except.ok.inj h)
    exact ⟨hcontended, hgranted, fun hne => (hne rfl).elim⟩
  case h_2 | h_3 | h_11 =>
    obtain ⟨rfl, rfl⟩ := Prod.mk.inj (Except.ok.inj h)
    exact ⟨⟨.refl m, .kept _⟩, rfl, fun _ hidle => hidle⟩
  case h_4 | h_7 | h_8 | h_12 => cases h
  case h_5 hfsm =>
    split at h
    · obtain ⟨hcontended, hgranted⟩ := hstay (Except.ok.inj h)
      exact ⟨hcontended, hgranted, fun _ hidle => nomatch hfsm.symm.trans hidle⟩
    · cases h
  case h_6 hfsm =>
    obtain ⟨hcontended, hgranted⟩ := hstay (Except.ok.inj h)
    exact ⟨hcontended, hgranted, fun _ hidle => nomatch hfsm.symm.trans hidle⟩
  case h_9 => exact (hevent rfl).elim
  case h_10 hfsm =>
    split at h
    · cases h
    · obtain ⟨hcontended, hgranted⟩ := hstay (Except.ok.inj h)
      exact ⟨hcontended, hgranted, fun _ hidle => nomatch hfsm.symm.trans hidle⟩

theorem handleWithFSM_granted {m m' : Mac α} {outs : List (RadioMsg α)}
    (h : m.handleWithFSM .CHANNEL_ACCESS_GRANTED = .ok (m', outs)) :
    Contended m m' outs ∧ m.fsm = .IFS_AND_BACKOFF ∧ m'.fsm = .IDLE ∧
      m'.pendingRadioConfigMsg = none := by
  unfold handleWithFSM unhandledEvent at h
  split at h
  case h_9 _ hfsm _ =>
    obtain ⟨hcontended, hidle, _, hnone⟩ := enter_spec m .IDLE
    obtain ⟨rfl, rfl⟩ := Prod.mk.inj (Except.ok.inj h)
    exact ⟨⟨⟨hcontended.same.frames, hcontended.same.frameSequence, hcontended.same.owning⟩,
      hcontended.flush⟩, hfsm, hidle, hnone rfl⟩
  all_goals simp_all

theorem andThen_ok {r : Result α} {f : Mac α → Result α} {m'' : Mac α} {outs : List (RadioMsg α)}
    (h : andThen r f = .ok (m'', outs)) :
    ∃ m' sent sent', r = .ok (m', sent) ∧ f m' = .ok (m'', sent') ∧ outs = sent ++ sent' := by
  unfold andThen at h
  split at h
  case h_1 => cases h
  case h_2 m' sent =>
    split at h
    case h_1 => cases h
    case h_2 sent' hf =>
      obtain ⟨rfl, rfl⟩ := Prod.mk.inj (Except.ok.inj h)
      exact ⟨m', sent, sent', rfl, hf, rfl⟩

/-- A request goes to the running sequence, to the running contention, or starts one. -/
theorem requestChannel_cases {m m' : Mac α} {outs : List (RadioMsg α)}
    (h : m.requestChannel = .ok (m', outs)) :
    (m.owning = true ∧ ({ m with callback := true } : Mac α).channelGranted = .ok (m', outs)) ∨
    (m.fsm ≠ .IDLE ∧ m' = { m with callback := true } ∧ outs = []) ∨
    (m.owning = false ∧
      handleWithFSM { m with callback := true, channelGrantedEvent := false } .START =
        .ok (m', outs)) := by
  unfold requestChannel isContentionInProgress startContention at h
  dsimp only at h
  split at h
  case isTrue howning => exact .inl ⟨howning, h⟩
  case isFalse hnot =>
    split at h
    case isTrue hidle =>
      rw [if_pos (by simpa using hidle)] at h
      exact .inr (.inr ⟨by simpa using hnot, h⟩)
    case isFalse hbusy =>
      obtain ⟨rfl, rfl⟩ := Prod.mk.inj (Except.ok.inj h)
      exact .inr (.inl ⟨by simpa using hbusy, rfl, rfl⟩)

theorem requestChannel_owning {m m' : Mac α} {outs : List (RadioMsg α)}
    (hnot : m.owning = false) (h : m.requestChannel = .ok (m', outs)) : m'.owning = false := by
  rcases requestChannel_cases h with ⟨hown, _⟩ | ⟨_, rfl, _⟩ | ⟨_, hstart⟩
  · exact nomatch hnot.symm.trans hown
  · exact hnot
  · exact (handleWithFSM_spec (by simp) hstart).1.same.owning.trans hnot

theorem extractFramesToTransmit_eq (m : Mac α) :
    ∃ inProgress queue, inProgress ++ queue = m.frames ∧
      m.extractFramesToTransmit =
        { m with inProgressFrames := inProgress, pendingQueue := queue } := by
  unfold extractFramesToTransmit frames
  split
  case h_1 hqueue => exact ⟨m.inProgressFrames, [], by rw [hqueue], by rw [← hqueue]⟩
  case h_2 packet rest hqueue =>
    exact ⟨m.inProgressFrames ++ [packet], rest, by rw [hqueue, List.append_assoc]; rfl, rfl⟩

theorem ensureHasFrameToTransmit_eq (m : Mac α) :
    ∃ inProgress queue, inProgress ++ queue = m.frames ∧
      m.ensureHasFrameToTransmit =
        { m with inProgressFrames := inProgress, pendingQueue := queue } := by
  unfold ensureHasFrameToTransmit
  split
  · exact m.extractFramesToTransmit_eq
  · exact ⟨m.inProgressFrames, m.pendingQueue, rfl, rfl⟩

/-- A granted channel is used by the sequence that runs, or by one for a frame that waits. -/
theorem channelGranted_cases {m m' : Mac α} {outs : List (RadioMsg α)}
    (h : m.channelGranted = .ok (m', outs)) :
    (m.frameSequence ≠ none ∧ m' = m ∧ outs = []) ∨
    (m.frameSequence = none ∧ outs = [] ∧
      ∃ inProgress queue packet, inProgress ++ queue = m.frames ∧ packet ∈ m.frames ∧
        m' = { m with
          inProgressFrames := inProgress
          pendingQueue := queue
          frameSequence := some packet }) := by
  unfold channelGranted at h
  split at h
  case h_1 packet hseq =>
    obtain ⟨rfl, rfl⟩ := Prod.mk.inj (Except.ok.inj h)
    exact .inl ⟨by rw [hseq]; simp, rfl, rfl⟩
  case h_2 hseq =>
    obtain ⟨inProgress, queue, hframes, heq⟩ := m.ensureHasFrameToTransmit_eq
    rw [heq] at h
    dsimp only at h
    split at h
    case h_1 => cases h
    case h_2 packet rest =>
      obtain ⟨rfl, rfl⟩ := Prod.mk.inj (Except.ok.inj h)
      refine .inr ⟨hseq, rfl, packet :: rest, queue, packet, hframes, ?_, rfl⟩
      rw [← hframes]
      simp

theorem insertPacket_subset (isMgmt : α → Bool) (packet : α) (queue : List α) :
    ∀ other ∈ insertPacket isMgmt packet queue, other = packet ∨ other ∈ queue := by
  induction queue with
  | nil => simp [insertPacket]
  | cons head rest ih =>
      intro other hother
      unfold insertPacket at hother
      split at hother
      · simpa using hother
      · rcases List.mem_cons.mp hother with rfl | hrest
        · exact .inr List.mem_cons_self
        · exact (ih other hrest).imp_right (List.mem_cons_of_mem head)

theorem enqueuePacket_eq (p : MacParams α) (m : Mac α) (packet : α) :
    ∃ queue, m.enqueuePacket p packet = { m with pendingQueue := queue } ∧
      ∀ other ∈ queue, other = packet ∨ other ∈ m.pendingQueue := by
  refine ⟨_, rfl, fun other hother => ?_⟩
  split at hother
  · exact insertPacket_subset _ _ _ other hother
  · exact insertPacket_subset _ _ _ other (List.mem_of_mem_take hother)

/-- The new command, merged with the one held back, is held back or sent down. -/
theorem handleUpperCommand_spec (m : Mac α) (command : ConfigureRadioCommand) :
    ∃ held, (m.handleUpperCommand command).1 = { m with pendingRadioConfigMsg := held } ∧
      Flush (some (m.pendingRadioConfigMsg.elim command command.merge)) held
        (m.handleUpperCommand command).2 := by
  unfold handleUpperCommand
  cases m.pendingRadioConfigMsg <;> cases m.mediumFree
  all_goals first
    | exact ⟨_, rfl, .kept _⟩
    | exact ⟨_, rfl, .sent _⟩

theorem frameSequenceFinished_owning {m m' : Mac α} {outs : List (RadioMsg α)}
    (h : m.frameSequenceFinished = .ok (m', outs)) : m'.owning = false := by
  unfold frameSequenceFinished at h
  obtain ⟨m₁, outs₁, outs₂, hrequest, hsend, rfl⟩ := andThen_ok h
  have hnot : m₁.owning = false := by
    split at hrequest
    · exact requestChannel_owning rfl hrequest
    · exact (Prod.mk.inj (Except.ok.inj hrequest)).1 ▸ rfl
  have hsame := m₁.sendDownPendingRadioConfigMsg_spec.1.same.owning
  rw [Except.ok.inj hsend] at hsame
  exact hsame.trans hnot

end Mac

/-! ## Order -/

/-- The commands `sent` have been sent down and the commands `held` are held back; every
frame went down after the commands that are older than it. -/
structure Ledger {β : Type*} (issued : List ConfigureRadioCommand)
    (toRadio : List (RadioMsg (Stamped β))) (pending : Option ConfigureRadioCommand)
    (sent held : List ConfigureRadioCommand) : Prop where
  issued_eq : issued = sent ++ held
  merges : Merges sent (configures toRadio)
  pending_eq : pending = mergeAll held
  ordered : ∀ before packet after, toRadio = before ++ .frame packet :: after →
    ∃ later, Merges (packet.issuedBefore ++ later) (configures before) ∧
      packet.issuedBefore ++ later <+: issued

namespace Ledger

variable {β : Type*} {issued sent held : List ConfigureRadioCommand}
  {toRadio outs : List (RadioMsg (Stamped β))} {pending pending' : Option ConfigureRadioCommand}

theorem start : @Ledger β [] [] none [] [] :=
  ⟨rfl, .nil, rfl, fun before _ _ h => by cases before <;> cases h⟩

theorem command (h : Ledger issued toRadio pending sent held) (command : ConfigureRadioCommand) :
    Ledger (issued ++ [command]) toRadio (some (pending.elim command command.merge)) sent
      (held ++ [command]) where
  issued_eq := by rw [h.issued_eq, List.append_assoc]
  merges := h.merges
  pending_eq := by rw [mergeAll_append, h.pending_eq]
  ordered := by
    intro before packet after hsplit
    obtain ⟨later, hmerges, hissued⟩ := h.ordered before packet after hsplit
    exact ⟨later, hmerges, hissued.trans (List.prefix_append issued [command])⟩

theorem flush (h : Ledger issued toRadio pending sent held) (hflush : Flush pending pending' outs) :
    ∃ sent' held', Ledger issued (toRadio ++ outs) pending' sent' held' ∧ sent <+: sent' ∧
      (pending' = none → sent' = issued) := by
  cases hflush with
  | kept =>
      refine ⟨sent, held, by rwa [List.append_nil], List.prefix_refl sent, fun hnone => ?_⟩
      have hheld : held = [] := mergeAll_eq_none (h.pending_eq.symm.trans hnone)
      rw [h.issued_eq, hheld, List.append_nil]
  | sent command =>
      refine ⟨issued, [], ⟨(List.append_nil issued).symm, ?_, rfl, ?_⟩,
        h.issued_eq ▸ List.prefix_append sent held, fun _ => rfl⟩
      · rw [h.issued_eq, configures, List.filterMap_append]
        exact h.merges.snoc h.pending_eq.symm
      · intro before packet after hsplit
        cases after using List.reverseRecOn with
        | nil => cases (List.append_inj' hsplit rfl).2
        | append_singleton after last =>
            rw [← List.cons_append, ← List.append_assoc] at hsplit
            exact h.ordered before packet after (List.append_inj' hsplit rfl).1

theorem transmit (h : Ledger issued toRadio pending sent held) {packet : Stamped β}
    (hpacket : packet.issuedBefore <+: sent) :
    Ledger issued (toRadio ++ [.frame packet]) pending sent held where
  issued_eq := h.issued_eq
  merges := by
    rw [configures, List.filterMap_append]
    exact (List.append_nil _).symm ▸ h.merges
  pending_eq := h.pending_eq
  ordered := by
    intro before packet' after hsplit
    cases after using List.reverseRecOn with
    | nil =>
        obtain ⟨rfl, hlast⟩ := List.append_inj' hsplit rfl
        cases hlast
        obtain ⟨later, rfl⟩ := hpacket
        exact ⟨later, h.merges, h.issued_eq ▸ List.prefix_append _ held⟩
    | append_singleton after last =>
        rw [← List.cons_append, ← List.append_assoc] at hsplit
        exact h.ordered before packet' after (List.append_inj' hsplit rfl).1

end Ledger

/-- The frames that wait are younger than no command that was issued; the frame of the
running sequence is older than what is held back. -/
structure Queued {β : Type*} (issued : List ConfigureRadioCommand)
    (toRadio : List (RadioMsg (Stamped β))) (m : Mac (Stamped β))
    (sent held : List ConfigureRadioCommand) : Prop where
  ledger : Ledger issued toRadio m.pendingRadioConfigMsg sent held
  known : ∀ packet ∈ m.frames, packet.issuedBefore <+: issued
  sequence : ∀ packet, m.frameSequence = some packet → packet.issuedBefore <+: sent
  owning : m.owning = true → m.frameSequence ≠ none ∧ m.fsm = .IDLE ∧ m.channelGrantedEvent = false
  idle : m.channelGrantedEvent = true → m.fsm = .IDLE

/-- A granted channel is for frames that are older than what is held back. -/
def Granted {β : Type*} (m : Mac (Stamped β)) (sent : List ConfigureRadioCommand) : Prop :=
  m.channelGrantedEvent = true → ∀ packet ∈ m.frames, packet.issuedBefore <+: sent

def Ordered {β : Type*} (issued : List ConfigureRadioCommand)
    (toRadio : List (RadioMsg (Stamped β))) (m : Mac (Stamped β)) : Prop :=
  ∃ sent held, Queued issued toRadio m sent held ∧ Granted m sent

theorem granted_of_not {β : Type*} {m : Mac (Stamped β)} {sent : List ConfigureRadioCommand}
    (h : m.channelGrantedEvent = false) : Granted m sent := by
  intro hgranted
  rw [h] at hgranted
  cases hgranted

section Steps

variable {β : Type*} {issued sent held : List ConfigureRadioCommand}
  {toRadio outs : List (RadioMsg (Stamped β))} {m m' : Mac (Stamped β)}

theorem Queued.contended (h : Queued issued toRadio m sent held) (hc : Mac.Contended m m' outs)
    (howning : m.owning = true → m'.fsm = .IDLE ∧ m'.channelGrantedEvent = false)
    (hidle : m'.channelGrantedEvent = true → m'.fsm = .IDLE) :
    ∃ sent' held', Queued issued (toRadio ++ outs) m' sent' held' ∧ sent <+: sent' ∧
      (m'.pendingRadioConfigMsg = none → sent' = issued) := by
  obtain ⟨sent', held', hledger, hle, hnone⟩ := h.ledger.flush hc.flush
  refine ⟨sent', held', ⟨hledger, hc.same.frames ▸ h.known, ?_, ?_, hidle⟩, hle, hnone⟩
  · intro packet hpacket
    exact (h.sequence packet (hc.same.frameSequence ▸ hpacket)).trans hle
  · rw [hc.same.owning, hc.same.frameSequence]
    exact fun hown => ⟨(h.owning hown).1, howning hown⟩

/-- An event that neither starts nor ends the backoff. -/
theorem Ordered.handleWithFSM (h : Ordered issued toRadio m) {event : ContentionEvent}
    (hstart : event ≠ .START) (hend : event ≠ .CHANNEL_ACCESS_GRANTED)
    (hstep : m.handleWithFSM event = .ok (m', outs)) : Ordered issued (toRadio ++ outs) m' := by
  obtain ⟨sent, held, hqueued, hgranted⟩ := h
  obtain ⟨hc, hsame, hfsm⟩ := Mac.handleWithFSM_spec hend hstep
  obtain ⟨sent', held', hqueued', hle, _⟩ := hqueued.contended hc
    (fun hown => ⟨hfsm hstart (hqueued.owning hown).2.1, hsame ▸ (hqueued.owning hown).2.2⟩)
    (fun hg => hfsm hstart (hqueued.idle (hsame ▸ hg)))
  refine ⟨sent', held', hqueued', fun hg packet hpacket => ?_⟩
  exact (hgranted (hsame ▸ hg) packet (hc.same.frames ▸ hpacket)).trans hle

/-- A request is granted anew, after what was held back is sent down. -/
theorem Queued.requestChannel (h : Queued issued toRadio m sent held)
    (hstep : m.requestChannel = .ok (m', outs)) : Ordered issued (toRadio ++ outs) m' := by
  rcases Mac.requestChannel_cases hstep with
    ⟨howning, hgranted⟩ | ⟨hfsm, rfl, rfl⟩ | ⟨hnot, hstart⟩
  · obtain ⟨hseq, _, hno⟩ := h.owning howning
    rcases Mac.channelGranted_cases hgranted with ⟨_, rfl, rfl⟩ | ⟨hnone, _⟩
    · rw [List.append_nil]
      exact ⟨sent, held, { h with }, granted_of_not hno⟩
    · exact (hseq hnone).elim
  · rw [List.append_nil]
    exact ⟨sent, held, { h with }, fun hg => (hfsm (h.idle hg)).elim⟩
  · obtain ⟨hc, hsame, _⟩ := Mac.handleWithFSM_spec (by simp) hstart
    have hstarted : Queued issued toRadio
        { m with callback := true, channelGrantedEvent := false } sent held :=
      { h with
        owning := fun hown => nomatch hnot.symm.trans hown
        idle := fun hg => nomatch hg }
    obtain ⟨sent', held', hqueued, _⟩ := hstarted.contended hc
      (fun hown => nomatch hnot.symm.trans hown) (fun hg => nomatch hsame.symm.trans hg)
    exact ⟨sent', held', hqueued, granted_of_not hsame⟩

/-- The channel is granted; the sequence takes a frame that is older than what is held back. -/
theorem Ordered.channelAccessGranted (h : Ordered issued toRadio m)
    (hgranted : m.channelGrantedEvent = true)
    (hstep : Mac.channelAccessGranted { m with channelGrantedEvent := false } = .ok (m', outs)) :
    Ordered issued (toRadio ++ outs) m' := by
  obtain ⟨sent, held, hqueued, hcovered⟩ := h
  have hidle := hqueued.idle hgranted
  unfold Mac.channelAccessGranted at hstep
  split at hstep
  case isFalse => cases hstep
  case isTrue =>
    rcases Mac.channelGranted_cases hstep with
      ⟨hseq, rfl, rfl⟩ | ⟨_, rfl, inProgress, queue, packet, hframes, hmem, rfl⟩
    · rw [List.append_nil]
      exact ⟨sent, held,
        { hqueued with
          owning := fun _ => ⟨hseq, hidle, rfl⟩
          idle := fun hg => nomatch hg },
        granted_of_not rfl⟩
    · have hframes : m.frames = inProgress ++ queue := hframes.symm
      rw [List.append_nil]
      refine ⟨sent, held,
        { hqueued with
          known := fun packet' hp => hqueued.known packet' (hframes ▸ hp)
          sequence := ?_
          owning := fun _ => ⟨by simp, hidle, rfl⟩
          idle := fun hg => nomatch hg },
        granted_of_not rfl⟩
      intro packet' hpacket
      obtain rfl := Option.some.inj hpacket
      exact hcovered hgranted packet hmem

theorem Ordered.of_subset (h : Ordered issued toRadio m) {inProgress queue : List (Stamped β)}
    (hsub : ∀ packet ∈ inProgress ++ queue, packet ∈ m.frames) :
    Ordered issued toRadio { m with inProgressFrames := inProgress, pendingQueue := queue } := by
  obtain ⟨sent, held, hqueued, hcovered⟩ := h
  exact ⟨sent, held, { hqueued with known := fun packet hp => hqueued.known packet (hsub packet hp) },
    fun hg packet hp => hcovered hg packet (hsub packet hp)⟩

theorem Ordered.startTx (h : Ordered issued toRadio m)
    (hstep : m.handleWithFSM .CHANNEL_ACCESS_GRANTED = .ok (m', outs)) :
    Ordered issued (toRadio ++ outs) m' := by
  obtain ⟨sent, held, hqueued, _⟩ := h
  obtain ⟨hc, hbackoff, hidle, hnone⟩ := Mac.handleWithFSM_granted hstep
  obtain ⟨sent', held', hqueued', _, hall⟩ := hqueued.contended hc
    (fun hown => nomatch hbackoff.symm.trans (hqueued.owning hown).2.1) (fun _ => hidle)
  refine ⟨sent', held', hqueued', fun _ packet hpacket => ?_⟩
  rw [hall hnone]
  exact hqueued'.known packet hpacket

theorem Ordered.mediumStateChanged (h : Ordered issued toRadio m) {mediumFree : Bool}
    (hstep : m.mediumStateChanged mediumFree = .ok (m', outs)) :
    Ordered issued (toRadio ++ outs) m' := by
  unfold Mac.mediumStateChanged at hstep
  split at hstep
  · obtain ⟨rfl, rfl⟩ := Prod.mk.inj (Except.ok.inj hstep)
    rwa [List.append_nil]
  · obtain ⟨sent, held, hqueued, hcovered⟩ := h
    have hchanged : Ordered issued toRadio { m with mediumFree := mediumFree } :=
      ⟨sent, held, { hqueued with }, hcovered⟩
    exact hchanged.handleWithFSM (by simp) (by simp) hstep

theorem Ordered.handleUpperCommand (h : Ordered issued toRadio m)
    (command : ConfigureRadioCommand) :
    Ordered (issued ++ [command]) (toRadio ++ (m.handleUpperCommand command).2)
      (m.handleUpperCommand command).1 := by
  obtain ⟨sent, held, hqueued, hcovered⟩ := h
  obtain ⟨pending, heq, hflush⟩ := m.handleUpperCommand_spec command
  obtain ⟨sent', held', hledger, hle, _⟩ := (hqueued.ledger.command command).flush hflush
  rw [heq]
  refine ⟨sent', held', { hqueued with ledger := hledger, known := ?_, sequence := ?_ }, ?_⟩
  · exact fun packet hp => (hqueued.known packet hp).trans (List.prefix_append issued [command])
  · exact fun packet hp => (hqueued.sequence packet hp).trans hle
  · exact fun hg packet hp => (hcovered hg packet hp).trans hle

theorem Ordered.processUpperFrame (h : Ordered issued toRadio m) {p : MacParams (Stamped β)}
    {packet : Stamped β} (hpacket : packet.issuedBefore = issued)
    (hstep : m.processUpperFrame p packet = .ok (m', outs)) :
    Ordered issued (toRadio ++ outs) m' := by
  obtain ⟨queue, hqueue, hsub⟩ := Mac.enqueuePacket_eq p m packet
  unfold Mac.processUpperFrame at hstep
  rw [hqueue] at hstep
  dsimp only at hstep
  split at hstep
  case isTrue hempty =>
    obtain ⟨rfl, rfl⟩ := Prod.mk.inj (Except.ok.inj hstep)
    rw [List.append_nil]
    refine h.of_subset fun packet' hp => ?_
    rw [List.isEmpty_iff.mp hempty, List.append_nil] at hp
    exact List.mem_append_left _ hp
  case isFalse =>
    obtain ⟨sent, held, hqueued, _⟩ := h
    refine Queued.requestChannel (m := { m with pendingQueue := queue })
      { hqueued with known := ?_ } hstep
    intro packet' hp
    rcases List.mem_append.mp hp with hp | hp
    · exact hqueued.known packet' (List.mem_append_left _ hp)
    · rcases hsub packet' hp with rfl | hp
      · exact hpacket ▸ List.prefix_refl _
      · exact hqueued.known packet' (List.mem_append_right _ hp)

theorem Ordered.transmitFrame (h : Ordered issued toRadio m)
    (hstep : m.transmitFrame = .ok (m', outs)) : Ordered issued (toRadio ++ outs) m' := by
  unfold Mac.transmitFrame at hstep
  split at hstep
  case h_1 => cases hstep
  case h_2 packet hseq =>
    obtain ⟨rfl, rfl⟩ := Prod.mk.inj (Except.ok.inj hstep)
    obtain ⟨sent, held, hqueued, hcovered⟩ := h
    have hsent : Ordered issued (toRadio ++ [.frame packet]) m :=
      ⟨sent, held, { hqueued with ledger := hqueued.ledger.transmit (hqueued.sequence packet hseq) },
        hcovered⟩
    split
    · obtain ⟨inProgress, queue, hframes, heq⟩ := m.extractFramesToTransmit_eq
      rw [heq]
      exact hsent.of_subset fun packet hp => hframes ▸ hp
    · exact hsent

theorem Ordered.sendDownPending (h : Ordered issued toRadio m) :
    Ordered issued (toRadio ++ m.sendDownPendingRadioConfigMsg.2)
      m.sendDownPendingRadioConfigMsg.1 := by
  obtain ⟨sent, held, hqueued, hcovered⟩ := h
  obtain ⟨hc, _, hfsm, hgranted⟩ := m.sendDownPendingRadioConfigMsg_spec
  obtain ⟨sent', held', hqueued', hle, _⟩ := hqueued.contended hc
    (fun hown => ⟨hfsm ▸ (hqueued.owning hown).2.1, hgranted ▸ (hqueued.owning hown).2.2⟩)
    (fun hg => hfsm ▸ hqueued.idle (hgranted ▸ hg))
  refine ⟨sent', held', hqueued', fun hg packet hpacket => ?_⟩
  exact (hcovered (hgranted ▸ hg) packet (hc.same.frames ▸ hpacket)).trans hle

/-- The sequence ends, and the channel is requested for the next frame. -/
theorem Ordered.frameSequenceFinished (h : Ordered issued toRadio m)
    (hstep : m.frameSequenceFinished = .ok (m', outs)) : Ordered issued (toRadio ++ outs) m' := by
  obtain ⟨sent, held, hqueued, hcovered⟩ := h
  have hreleased : Queued issued toRadio m.releaseChannel sent held :=
    { hqueued with owning := fun hown => nomatch hown }
  unfold Mac.frameSequenceFinished at hstep
  obtain ⟨m₁, outs₁, outs₂, hrequest, hsend, rfl⟩ := Mac.andThen_ok hstep
  have hrequested : Ordered issued (toRadio ++ outs₁) m₁ := by
    split at hrequest
    · exact hreleased.requestChannel hrequest
    · obtain ⟨rfl, rfl⟩ := Prod.mk.inj (Except.ok.inj hrequest)
      rw [List.append_nil]
      exact ⟨sent, held, hreleased, hcovered⟩
  have hsent := hrequested.sendDownPending
  rw [Except.ok.inj hsend] at hsent
  rwa [← List.append_assoc]

theorem Ordered.finishFrameSequence (h : Ordered issued toRadio m) {dropped : Bool}
    (hstep : m.finishFrameSequence dropped = .ok (m', outs)) :
    Ordered issued (toRadio ++ outs) m' := by
  unfold Mac.finishFrameSequence at hstep
  split at hstep
  case h_1 => cases hstep
  case h_2 packet hseq =>
    have hdropped : Ordered issued toRadio
        (if dropped then { m with inProgressFrames := m.inProgressFrames.tail } else m) := by
      split
      · refine h.of_subset fun packet' hp => ?_
        rcases List.mem_append.mp hp with hp | hp
        · exact List.mem_append_left _ (List.mem_of_mem_tail hp)
        · exact List.mem_append_right _ hp
      · exact h
    obtain ⟨m₁, outs₁, outs₂, hfinished, hend, rfl⟩ := Mac.andThen_ok hstep
    obtain ⟨sent, held, hqueued, hcovered⟩ := hdropped.frameSequenceFinished hfinished
    obtain ⟨rfl, rfl⟩ := Prod.mk.inj (Except.ok.inj hend)
    rw [List.append_nil]
    have hnot := Mac.frameSequenceFinished_owning hfinished
    exact ⟨sent, held,
      { hqueued with
        sequence := fun _ hp => nomatch hp
        owning := fun hown => nomatch hnot.symm.trans hown },
      hcovered⟩

end Steps

namespace Recorded

variable {β : Type*} {p : MacParams β}

theorem step_ordered {r r' : Recorded β} {e : Mac.MacEvent β}
    (h : Ordered r.issued r.toRadio r.mac) (hstep : r.step p e = .ok r') :
    Ordered r'.issued r'.toRadio r'.mac := by
  unfold step at hstep
  split at hstep
  case h_1 => cases hstep
  case h_2 mac sent hmac =>
    obtain rfl := Except.ok.inj hstep
    cases e with
    | upperCommand command =>
        have hcommand := h.handleUpperCommand command
        rw [Except.ok.inj hmac] at hcommand
        exact hcommand
    | upperFrame packet => simpa [Mac.MacEvent.commands] using h.processUpperFrame rfl hmac
    | mediumState mediumFree => simpa [Mac.MacEvent.commands] using h.mediumStateChanged hmac
    | corruptedFrame => simpa [Mac.MacEvent.commands] using h.handleWithFSM (by simp) (by simp) hmac
    | startTx =>
        dsimp only [Mac.step, Mac.MacEvent.map] at hmac
        split at hmac
        · simpa [Mac.MacEvent.commands] using h.startTx hmac
        · cases hmac
    | channelGranted =>
        dsimp only [Mac.step, Mac.MacEvent.map] at hmac
        split at hmac
        case isTrue hgranted =>
          simpa [Mac.MacEvent.commands] using h.channelAccessGranted hgranted hmac
        case isFalse => cases hmac
    | transmit => simpa [Mac.MacEvent.commands] using h.transmitFrame hmac
    | sequenceFinished dropped => simpa [Mac.MacEvent.commands] using h.finishFrameSequence hmac

theorem ordered_of_run {r : Recorded β} {es : List (Mac.MacEvent β)}
    (hrun : run (step p) {} es = .ok r) : Ordered r.issued r.toRadio r.mac := by
  have halways : Along (step p) (fun _ _ => True) ({} : Recorded β) es :=
    along_trivial (fun _ _ => trivial) _ _
  refine run_invariant (I := fun r : Recorded β => Ordered r.issued r.toRadio r.mac)
    (fun _ _ _ h _ hstep => step_ordered h hstep) ?_ halways hrun
  exact ⟨[], [], ⟨.start, by simp [Mac.frames], by simp, by simp, by simp⟩, granted_of_not rfl⟩

/-- Whenever a frame goes down, the commands that were issued before it have gone down,
themselves or merged into later ones, and the radio is tuned as they say or as commands
issued later say. -/
theorem commands_before_frames {r : Recorded β} {es : List (Mac.MacEvent β)}
    (hrun : run (step p) {} es = .ok r) {before after : List (RadioMsg (Stamped β))}
    {packet : Stamped β} (hsplit : r.toRadio = before ++ .frame packet :: after) :
    ∃ later, Merges (packet.issuedBefore ++ later) (configures before) ∧
      packet.issuedBefore ++ later <+: r.issued ∧
      ∀ channel, tune channel (configures before) = tune channel (packet.issuedBefore ++ later) := by
  obtain ⟨sent, held, hqueued, _⟩ := ordered_of_run hrun
  obtain ⟨later, hmerges, hissued⟩ := hqueued.ledger.ordered before packet after hsplit
  exact ⟨later, hmerges, hissued, hmerges.tune_eq⟩

/-- Two commands while the medium is busy, and a frame after each: one command goes down
when the contention defers, the other when the backoff ends, and the first frame follows. -/
def sampleEvents : List (Mac.MacEvent String) :=
  [.mediumState false, .upperCommand { channelNumber := 1 }, .mediumState true,
    .upperFrame "ProbeReq", .mediumState false, .upperCommand { channelNumber := 6 },
    .upperFrame "Auth", .mediumState true, .startTx, .channelGranted, .transmit]

theorem commands_before_frames_sample :
    ∃ (r : Recorded String) (before after : List (RadioMsg (Stamped String)))
      (packet : Stamped String),
      r.toRadio = before ++ .frame packet :: after ∧ packet.frame = "ProbeReq" ∧
      ∃ later, Merges (packet.issuedBefore ++ later) (configures before) ∧
        packet.issuedBefore ++ later <+: r.issued ∧
        ∀ channel,
          tune channel (configures before) = tune channel (packet.issuedBefore ++ later) := by
  obtain ⟨r, hrun, hradio⟩ := exists_of_run_map
    (f := fun r : Recorded String => r.toRadio)
    (a := [.configure { channelNumber := 1 }, .configure { channelNumber := 6 },
      .frame ⟨"ProbeReq", [{ channelNumber := 1 }]⟩])
    (show (run (step { isMgmt := fun _ => true }) {} sampleEvents).toOption.map _ = _ by
      decide +kernel)
  have hsplit : r.toRadio = [.configure { channelNumber := 1 }, .configure { channelNumber := 6 }] ++
      .frame ⟨"ProbeReq", [{ channelNumber := 1 }]⟩ :: [] := hradio
  exact ⟨r, _, _, _, hsplit, rfl, commands_before_frames hrun hsplit⟩

end Recorded

end MultiTechBus.Ieee80211
