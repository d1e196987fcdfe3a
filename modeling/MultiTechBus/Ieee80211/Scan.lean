import MultiTechBus.Ieee80211.Progress

/-! # A scan from its request to its confirm

A scan goes over its channels by timers of three kinds, and busy channels decide
which of them come. Whatever is received in between, the timers that a channel may
still take and the channels that are left count down to the confirm.
-/

namespace MultiTechBus.Ieee80211

open MultiTechBus.Library

/-- What the management entity may receive during a scan. -/
inductive ScanInput
  | receptionState (busy : Bool)
  | frame (f : MgmtFrame)
deriving DecidableEq, Repr

inductive ScanEvent
  | input (i : ScanInput)
  | timer
deriving DecidableEq, Repr

def MgmtOut.channel? : MgmtOut → Option Int
  | changeChannel channelNum => some channelNum
  | _ => none

/-- The confirm of a scan. -/
def MgmtOut.scanConfirm? : MgmtOut → Option (List BssDescription)
  | sendConfirm (.scan _ bssList) => some bssList
  | _ => none

/-- The management entity during a scan, what it has sent since the request, and how
often it has given up its subscription. -/
structure ScanRecord where
  mgmt : MgmtSta
  outs : List MgmtOut := []
  releases : Nat := 0
deriving DecidableEq, Repr

namespace ScanRecord

def absorb (r : ScanRecord) (s : MgmtSta × List MgmtOut) : ScanRecord :=
  { mgmt := s.1
    outs := r.outs ++ s.2
    releases := r.releases + if r.mgmt.subscribed && !s.1.subscribed then 1 else 0 }

def step (r : ScanRecord) : ScanEvent → Except Halt ScanRecord
  | .input (.receptionState busy) => .ok (r.absorb (r.mgmt.receiveReceptionState busy, []))
  | .input (.frame f) => (r.mgmt.processFrame f).map r.absorb
  | .timer => (r.mgmt.handleScanTimer 0).map r.absorb

def start (m : MgmtSta) (ctrl : ScanRequest) : Except Halt ScanRecord :=
  (m.processScanCommand ctrl).map ({ mgmt := m } : ScanRecord).absorb

/-- The first `k` expiries of the scan timer, with what is received before each. -/
def schedule (pattern : Nat → List ScanInput) : Nat → List ScanEvent
  | 0 => []
  | k + 1 => (pattern 0).map .input ++ .timer :: schedule (fun i => pattern (i + 1)) k

/-- The scan has ended: it tuned to the channels in order and confirmed once, no timer
of it is left, and a subscription of it was given up once. -/
structure Finished (channels : List Int) (activeScan : Bool) (r : ScanRecord) : Prop where
  isScanning : r.mgmt.isScanning = false
  scanTimers : r.mgmt.scanTimers = []
  channels : r.outs.filterMap MgmtOut.channel? = channels
  confirms : (r.outs.filterMap MgmtOut.scanConfirm?).length = 1
  subscribed : r.mgmt.subscribed = false
  releases : r.releases = if activeScan then 1 else 0

/-- Whatever is received, the scan ends after some number of timers. -/
def Completes (m : MgmtSta) (ctrl : ScanRequest) : Prop :=
  ∀ pattern, ∃ k r₀ r, start m ctrl = .ok r₀ ∧ run step r₀ (schedule pattern k) = .ok r ∧
    Finished (m.channelsOf ctrl) ctrl.activeScan r

end ScanRecord

/-! ## What is received during a scan -/

namespace MgmtSta

/-- States that agree in everything that a scan uses. -/
structure SameScan (m m' : MgmtSta) : Prop where
  isScanning : m'.isScanning = m.isScanning
  channelList : m'.scanning.channelList = m.scanning.channelList
  activeScan : m'.scanning.activeScan = m.scanning.activeScan
  currentChannelIndex : m'.scanning.currentChannelIndex = m.scanning.currentChannelIndex
  scanTimers : m'.scanTimers = m.scanTimers
  subscribed : m'.subscribed = m.subscribed
  isAssociated : m'.mib.isAssociated = m.mib.isAssociated
  assocTimeoutMsg : m'.assocTimeoutMsg = m.assocTimeoutMsg

/-- Messages that neither tune the radio nor confirm a scan. -/
def Aside (outs : List MgmtOut) : Prop :=
  outs.filterMap MgmtOut.channel? = [] ∧ outs.filterMap MgmtOut.scanConfirm? = []

theorem SameScan.refl (m : MgmtSta) : SameScan m m := ⟨rfl, rfl, rfl, rfl, rfl, rfl, rfl, rfl⟩

theorem SameScan.updateAP (m : MgmtSta) (a : MacAddress) (f : ApInfo → ApInfo) :
    SameScan m (m.updateAP a f) :=
  ⟨rfl, rfl, rfl, rfl, rfl, rfl, rfl, rfl⟩

theorem SameScan.storeAPInfo (m : MgmtSta) (f : MgmtFrame) (body : BeaconBody) :
    SameScan m (m.storeAPInfo f body) := by
  obtain ⟨power, heq⟩ := m.storeAPInfo_eq f body
  rw [heq]
  exact ⟨rfl, rfl, rfl, rfl, rfl, rfl, rfl, rfl⟩

theorem aside_nil : Aside [] := ⟨rfl, rfl⟩

theorem aside_handleAuthenticationFrame (m : MgmtSta) (a : MacAddress) (seq : BitVec 16)
    (status : Int) (isLast : Bool) :
    SameScan m (m.handleAuthenticationFrame a seq status isLast).1 ∧
      Aside (m.handleAuthenticationFrame a seq status isLast).2 := by
  unfold handleAuthenticationFrame
  split
  · exact ⟨.refl m, aside_nil⟩
  · split
    · exact ⟨.refl m, aside_nil⟩
    · split
      · exact ⟨.refl m, aside_nil⟩
      · split
        · exact ⟨.updateAP m _ _, rfl, rfl⟩
        · split <;> exact ⟨.updateAP m _ _, rfl, rfl⟩

theorem aside_handleDeauthenticationFrame (m : MgmtSta) (a : MacAddress) :
    SameScan m (m.handleDeauthenticationFrame a).1 ∧ Aside (m.handleDeauthenticationFrame a).2 := by
  unfold handleDeauthenticationFrame
  split
  · exact ⟨.refl m, aside_nil⟩
  · split
    · exact ⟨.refl m, aside_nil⟩
    · split <;> exact ⟨.updateAP m _ _, aside_nil⟩

/-- A station that is neither associated nor about to be handles every frame, and the
scan does not notice. -/
theorem processFrame_aside {m : MgmtSta} (hnot : m.mib.isAssociated = false)
    (hnone : m.assocTimeoutMsg = none) (f : MgmtFrame) :
    ∃ s, m.processFrame f = .ok s ∧ SameScan m s.1 ∧ Aside s.2 := by
  have hignored : ∃ s, (Except.ok (m, []) : Except Halt (MgmtSta × List MgmtOut)) = .ok s ∧
      SameScan m s.1 ∧ Aside s.2 := ⟨_, rfl, .refl m, aside_nil⟩
  unfold processFrame
  cases f.body with
  | authentication seq status isLast => exact ⟨_, rfl, m.aside_handleAuthenticationFrame _ _ _ _⟩
  | deauthentication _ => exact ⟨_, rfl, m.aside_handleDeauthenticationFrame _⟩
  | associationRequest => exact hignored
  | associationResponse status =>
      simp only [handleAssociationResponseFrame, hnone, if_true]
      exact hignored
  | reassociationRequest => exact hignored
  | reassociationResponse _ => exact hignored
  | disassociation _ =>
      refine ⟨_, rfl, ?_⟩
      simp only [handleDisassociationFrame, hnot, Bool.not_false, Bool.true_or, if_true]
      exact ⟨⟨rfl, rfl, rfl, rfl, rfl, rfl, rfl, hnone.symm⟩, aside_nil⟩
  | beacon body =>
      have hsame := SameScan.storeAPInfo m f body
      have hstill : ¬ ((m.storeAPInfo f body).mib.isAssociated = true ∧
          f.transmitterAddress = (m.storeAPInfo f body).assocAP.address) := by
        rw [hsame.isAssociated, hnot]
        simp
      simp only [handleBeaconFrame, if_neg hstill]
      exact ⟨_, rfl, hsame, aside_nil⟩
  | probeRequest _ => exact hignored
  | probeResponse body => exact ⟨_, rfl, .storeAPInfo m f body, aside_nil⟩

theorem sameScan_receiveReceptionState (m : MgmtSta) (busy : Bool) :
    SameScan m (m.receiveReceptionState busy) := by
  unfold receiveReceptionState
  split
  · exact ⟨rfl, rfl, rfl, rfl, rfl, rfl, rfl, rfl⟩
  · exact .refl m

end MgmtSta

/-! ## Counting down -/

/-- How many timers a channel may still take after this one was scheduled. -/
def ScanTimer.stage (t : ScanTimer) : Nat :=
  match t.kind with
  | .MK_SCAN_SENDPROBE => 3
  | .MK_SCAN_MINCHANNELTIME => 2
  | .MK_SCAN_MAXCHANNELTIME => 1

namespace ScanRecord

/-- A scan under way, with the channels `rest` still to come. -/
structure Scanning (channels : List Int) (active : Bool) (rest : List Int) (r : ScanRecord) :
    Prop where
  isScanning : r.mgmt.isScanning = true
  channelList : r.mgmt.scanning.channelList = channels
  activeScan : r.mgmt.scanning.activeScan = active
  tuned : r.outs.filterMap MgmtOut.channel? ++ rest = channels
  index : r.mgmt.scanning.currentChannelIndex =
    ((r.outs.filterMap MgmtOut.channel?).length : Int) - 1
  confirms : r.outs.filterMap MgmtOut.scanConfirm? = []
  subscribed : r.mgmt.subscribed = active
  releases : r.releases = 0
  isAssociated : r.mgmt.mib.isAssociated = false
  assocTimeoutMsg : r.mgmt.assocTimeoutMsg = none

section Countdown

variable {channels rest : List Int} {active : Bool} {r : ScanRecord} {t : ScanTimer}

theorem Scanning.absorb_same (h : Scanning channels active rest r) {s : MgmtSta × List MgmtOut}
    (hsame : r.mgmt.SameScan s.1) (haside : MgmtSta.Aside s.2) :
    Scanning channels active rest (r.absorb s) := by
  have hchannels : (r.absorb s).outs.filterMap MgmtOut.channel? =
      r.outs.filterMap MgmtOut.channel? := by
    simp [absorb, haside.1]
  have hconfirms : (r.absorb s).outs.filterMap MgmtOut.scanConfirm? =
      r.outs.filterMap MgmtOut.scanConfirm? := by
    simp [absorb, haside.2]
  exact
    { isScanning := hsame.isScanning.trans h.isScanning
      channelList := hsame.channelList.trans h.channelList
      activeScan := hsame.activeScan.trans h.activeScan
      tuned := by rw [hchannels, h.tuned]
      index := by rw [hchannels]; exact hsame.currentChannelIndex.trans h.index
      confirms := hconfirms.trans h.confirms
      subscribed := hsame.subscribed.trans h.subscribed
      releases := by simp [absorb, h.releases, hsame.subscribed]
      isAssociated := hsame.isAssociated.trans h.isAssociated
      assocTimeoutMsg := hsame.assocTimeoutMsg.trans h.assocTimeoutMsg }

theorem Scanning.input (h : Scanning channels active rest r) (i : ScanInput) :
    ∃ r', step r (.input i) = .ok r' ∧ Scanning channels active rest r' ∧
      r'.mgmt.scanTimers = r.mgmt.scanTimers := by
  cases i with
  | receptionState busy =>
      have hsame := r.mgmt.sameScan_receiveReceptionState busy
      exact ⟨_, rfl, h.absorb_same hsame MgmtSta.aside_nil, hsame.scanTimers⟩
  | frame f =>
      obtain ⟨s, hs, hsame, haside⟩ := MgmtSta.processFrame_aside h.isAssociated h.assocTimeoutMsg f
      exact ⟨r.absorb s, by simp only [step, hs]; rfl, h.absorb_same hsame haside, hsame.scanTimers⟩

theorem Scanning.inputs (h : Scanning channels active rest r) (is : List ScanInput) :
    ∃ r', run step r (is.map .input) = .ok r' ∧ Scanning channels active rest r' ∧
      r'.mgmt.scanTimers = r.mgmt.scanTimers := by
  induction is generalizing r with
  | nil => exact ⟨r, rfl, h, rfl⟩
  | cons i is ih =>
      obtain ⟨r₁, hstep, h₁, htimers₁⟩ := h.input i
      obtain ⟨r', hrun, h', htimers'⟩ := ih h₁
      refine ⟨r', ?_, h', htimers'.trans htimers₁⟩
      rw [List.map_cons, run_cons_ok _ hstep, hrun]

/-- The state in which the timer is handled, when it was the only one. -/
theorem Scanning.expire (h : Scanning channels active rest r) :
    Scanning channels active rest { r with mgmt := { r.mgmt with scanTimers := [] } } :=
  { h with }

theorem Scanning.finish (h : Scanning channels active [] r) (htimers : r.mgmt.scanTimers = []) :
    ∃ s, r.mgmt.scanNextChannelOrConfirm = .ok s ∧ Finished channels active (r.absorb s) := by
  have htuned := h.tuned
  rw [List.append_nil] at htuned
  have hlast : r.mgmt.scanning.currentChannelIndex =
      (r.mgmt.scanning.channelList.length : Int) - 1 := by
    rw [h.index, h.channelList, htuned]
  have hend : r.mgmt.finishScan.subscribed = false := by
    have hsub := h.subscribed
    cases active with
    | true => simp [MgmtSta.finishScan, h.activeScan]
    | false => simp [MgmtSta.finishScan, h.activeScan, hsub]
  refine ⟨(r.mgmt.finishScan, [r.mgmt.finishScan.sendScanConfirm]), ?_, ?_⟩
  · simp [MgmtSta.scanNextChannelOrConfirm, MgmtSta.scanNextChannel, hlast]
  · exact
      { isScanning := rfl
        scanTimers := htimers
        channels := by
          simp only [absorb, List.filterMap_append, htuned]
          exact List.append_nil _
        confirms := by
          simp only [absorb, List.filterMap_append, h.confirms]
          rfl
        subscribed := hend
        releases := by
          simp only [absorb, h.releases, h.subscribed, hend]
          cases active <;> rfl }

theorem Scanning.next {c : Int} (h : Scanning channels active (c :: rest) r) :
    r.mgmt.scanNextChannel = .ok (false, r.mgmt.tuneToNext, [.changeChannel c]) ∧
      Scanning channels active rest (r.absorb (r.mgmt.tuneToNext, [.changeChannel c])) := by
  have hlen := congrArg List.length h.tuned
  rw [List.length_append, List.length_cons] at hlen
  have hmore : r.mgmt.scanning.currentChannelIndex ≠
      (r.mgmt.scanning.channelList.length : Int) - 1 := by
    rw [h.index, h.channelList]
    omega
  have hget : r.mgmt.scanning.channelList[(r.mgmt.scanning.currentChannelIndex + 1).toNat]? =
      some c := by
    rw [h.index, h.channelList, Int.sub_add_cancel, Int.toNat_natCast, ← h.tuned]
    simp
  have hchannels : (r.absorb (r.mgmt.tuneToNext, [.changeChannel c])).outs.filterMap
      MgmtOut.channel? = r.outs.filterMap MgmtOut.channel? ++ [c] := by
    simp [absorb, MgmtOut.channel?]
  refine ⟨?_, ?_⟩
  · simp [MgmtSta.scanNextChannel, hmore, hget]
  · exact
      { isScanning := h.isScanning
        channelList := h.channelList
        activeScan := h.activeScan
        tuned := by rw [hchannels, List.append_assoc]; exact h.tuned
        index := by
          rw [hchannels, List.length_append]
          have hindex := h.index
          show r.mgmt.scanning.currentChannelIndex + 1 = _
          simp only [List.length_singleton]
          omega
        confirms := by
          simp only [absorb, List.filterMap_append, h.confirms]
          rfl
        subscribed := h.subscribed
        releases := by simp [absorb, h.releases, MgmtSta.tuneToNext]
        isAssociated := h.isAssociated
        assocTimeoutMsg := h.assocTimeoutMsg }

theorem channelTimer_stage_le (m : MgmtSta) : m.channelTimer.stage ≤ 3 := by
  unfold MgmtSta.channelTimer ScanTimer.stage
  split <;> simp

/-- Leaving a channel ends the scan or takes up a channel, with one timer again. -/
theorem Scanning.advance (h : Scanning channels active rest r) (htimers : r.mgmt.scanTimers = []) :
    ∃ s, r.mgmt.scanNextChannelOrConfirm = .ok s ∧
      (Finished channels active (r.absorb s) ∨ ∃ rest' t,
        Scanning channels active rest' (r.absorb s) ∧ (r.absorb s).mgmt.scanTimers = [t] ∧
          3 * rest'.length + t.stage ≤ 3 * rest.length) := by
  cases rest with
  | nil =>
      obtain ⟨s, hs, hfinished⟩ := h.finish htimers
      exact ⟨s, hs, .inl hfinished⟩
  | cons c rest =>
      obtain ⟨hs, hscanning⟩ := h.next
      refine ⟨(r.mgmt.tuneToNext, [.changeChannel c]), by simp [MgmtSta.scanNextChannelOrConfirm, hs],
        .inr ⟨rest, r.mgmt.channelTimer, hscanning, ?_, ?_⟩⟩
      · simp [absorb, MgmtSta.tuneToNext, htimers]
      · have hstage := channelTimer_stage_le r.mgmt
        rw [List.length_cons]
        omega

theorem Scanning.replace (h : Scanning channels active rest r) {outs : List MgmtOut}
    (houts : MgmtSta.Aside outs) (t : ScanTimer) :
    Scanning channels active rest (r.absorb ({ r.mgmt with scanTimers := [t] }, outs)) := by
  have hscanning : Scanning channels active rest
      { r with mgmt := { r.mgmt with scanTimers := [t] } } := { h with }
  exact hscanning.absorb_same (MgmtSta.SameScan.refl _) houts

/-- Every timer of a scan is handled and brings the end closer. -/
theorem Scanning.timer (h : Scanning channels active rest r) (ht : r.mgmt.scanTimers = [t]) :
    ∃ r', step r .timer = .ok r' ∧ (Finished channels active r' ∨ ∃ rest' t',
      Scanning channels active rest' r' ∧ r'.mgmt.scanTimers = [t'] ∧
        3 * rest'.length + t'.stage < 3 * rest.length + t.stage) := by
  have hget : r.mgmt.scanTimers[0]? = some t := by rw [ht]; rfl
  have herase : r.mgmt.scanTimers.eraseIdx 0 = [] := by rw [ht]; rfl
  obtain ⟨s, hs, hadvance⟩ := h.expire.advance rfl
  have hleaves : 1 ≤ t.stage → ∃ r', (Except.ok s : Except Halt _).map r.absorb = .ok r' ∧
      (Finished channels active r' ∨ ∃ rest' t', Scanning channels active rest' r' ∧
        r'.mgmt.scanTimers = [t'] ∧ 3 * rest'.length + t'.stage < 3 * rest.length + t.stage) := by
    intro hpos
    refine ⟨r.absorb s, rfl, ?_⟩
    rcases hadvance with hfinished | ⟨rest', t', hscanning, htimer, hle⟩
    · exact .inl hfinished
    · exact .inr ⟨rest', t', hscanning, htimer, by omega⟩
  simp only [step, MgmtSta.handleScanTimer, hget, herase]
  cases hkind : t.kind with
  | MK_SCAN_SENDPROBE =>
      refine ⟨_, rfl, .inr ⟨rest, _, h.replace ⟨rfl, rfl⟩ _, rfl, ?_⟩⟩
      simp [ScanTimer.stage, hkind]
  | MK_SCAN_MINCHANNELTIME =>
      cases hbusy : r.mgmt.scanning.busyChannelDetected with
      | true =>
          refine ⟨_, rfl, .inr ⟨rest, _, h.replace MgmtSta.aside_nil _, rfl, ?_⟩⟩
          simp [ScanTimer.stage, hkind]
      | false =>
          simp only [Bool.false_eq_true, if_false, hs]
          exact hleaves (by simp [ScanTimer.stage, hkind])
  | MK_SCAN_MAXCHANNELTIME =>
      simp only [hs]
      exact hleaves (by simp [ScanTimer.stage, hkind])

theorem Scanning.run (n : Nat) (h : Scanning channels active rest r)
    (ht : r.mgmt.scanTimers = [t]) (hn : 3 * rest.length + t.stage ≤ n)
    (pattern : Nat → List ScanInput) :
    ∃ k ≤ n, ∃ r', Library.run step r (schedule pattern k) = .ok r' ∧
      Finished channels active r' := by
  induction n generalizing r rest t pattern with
  | zero =>
      have hpos : 1 ≤ t.stage := by
        unfold ScanTimer.stage
        split <;> decide
      omega
  | succ n ih =>
      obtain ⟨r₁, hinputs, h₁, htimers₁⟩ := h.inputs (pattern 0)
      obtain ⟨r₂, htimer, hnext⟩ := h₁.timer (htimers₁.trans ht)
      rcases hnext with hfinished | ⟨rest', t', h₂, ht', hlt⟩
      · refine ⟨1, by omega, r₂, ?_, hfinished⟩
        rw [schedule, run_append _ hinputs, run_cons_ok _ htimer]
        rfl
      · obtain ⟨k, hk, r', hrun, hfinished⟩ := ih h₂ ht' (by omega) fun i => pattern (i + 1)
        refine ⟨k + 1, by omega, r', ?_, hfinished⟩
        rw [schedule, run_append _ hinputs, run_cons_ok _ htimer, hrun]

end Countdown

/-! ## Requests -/

section Requests

variable {m : MgmtSta} {ctrl : ScanRequest}

/-- The state from which `scanNextChannel` takes up the first channel. -/
def opened (m : MgmtSta) (ctrl : ScanRequest) : ScanRecord :=
  { mgmt := m.endAssociation.startScanning ctrl }

theorem endAssociation_numChannels (m : MgmtSta) : m.endAssociation.numChannels = m.numChannels := by
  unfold MgmtSta.endAssociation
  split <;> rfl

theorem endAssociation_subscribed (m : MgmtSta) : m.endAssociation.subscribed = m.subscribed := by
  unfold MgmtSta.endAssociation
  split <;> rfl

theorem endAssociation_scanTimers (m : MgmtSta) : m.endAssociation.scanTimers = m.scanTimers := by
  unfold MgmtSta.endAssociation
  split <;> rfl

theorem opened_channels (m : MgmtSta) (ctrl : ScanRequest) :
    (opened m ctrl).mgmt.scanning.channelList = m.channelsOf ctrl := by
  show m.endAssociation.channelsOf ctrl = m.channelsOf ctrl
  unfold MgmtSta.channelsOf
  rw [endAssociation_numChannels]

/-- No timer of an earlier scan is left. -/
theorem opened_scanTimers (hm : m.Sound) (hidle : m.isScanning = false) (ctrl : ScanRequest) :
    (opened m ctrl).mgmt.scanTimers = [] := by
  have hlen := hm.scanTimers
  rw [hidle] at hlen
  show m.endAssociation.scanTimers = []
  rw [endAssociation_scanTimers]
  exact List.eq_nil_of_length_eq_zero (by simpa using hlen)

theorem scanning_opened (hm : m.Sound) (hsub : m.subscribed = false) (ctrl : ScanRequest) :
    Scanning (m.channelsOf ctrl) ctrl.activeScan (m.channelsOf ctrl) (opened m ctrl) := by
  have hassociated : m.endAssociation.mib.isAssociated = false ∧
      m.endAssociation.assocTimeoutMsg = none := by
    unfold MgmtSta.endAssociation
    split
    · rename_i hassociated
      exact ⟨rfl, hm.exclusive hassociated⟩
    · rename_i hnot
      exact ⟨by simpa using hnot, rfl⟩
  exact
    { isScanning := rfl
      channelList := opened_channels m ctrl
      activeScan := rfl
      tuned := rfl
      index := rfl
      confirms := rfl
      subscribed := by
        show (if ctrl.activeScan then true else m.endAssociation.subscribed) = ctrl.activeScan
        rw [endAssociation_subscribed, hsub]
        cases ctrl.activeScan <;> rfl
      releases := rfl
      isAssociated := hassociated.1
      assocTimeoutMsg := hassociated.2 }

/-- A request that finds no scan under way takes up the first channel. -/
theorem processScanCommand_eq (hidle : m.isScanning = false)
    (htype : ctrl.BSSType = .BSSTYPE_INFRASTRUCTURE)
    (htimes : ctrl.minChannelTime ≤ ctrl.maxChannelTime) :
    m.processScanCommand ctrl = (opened m ctrl).mgmt.scanNextChannel.map Prod.snd := by
  unfold MgmtSta.processScanCommand
  rw [if_neg (by simp [hidle]), if_neg (by simp [htype]), if_neg (Nat.not_lt.mpr htimes)]
  unfold opened
  cases (m.endAssociation.startScanning ctrl).scanNextChannel <;> rfl

theorem completes_of_channels (hm : m.Sound) (hsub : m.subscribed = false)
    (hidle : m.isScanning = false) (htype : ctrl.BSSType = .BSSTYPE_INFRASTRUCTURE)
    (htimes : ctrl.minChannelTime ≤ ctrl.maxChannelTime) (hchannels : m.channelsOf ctrl ≠ []) :
    Completes m ctrl := by
  have hopened := scanning_opened hm hsub ctrl
  obtain ⟨c, rest, hlist⟩ := List.exists_cons_of_ne_nil hchannels
  intro pattern
  have htimers := opened_scanTimers hm hidle ctrl
  rw [hlist] at hopened ⊢
  obtain ⟨hs, hscanning⟩ := hopened.next
  have htuned : ((opened m ctrl).absorb
      ((opened m ctrl).mgmt.tuneToNext, [.changeChannel c])).mgmt.scanTimers =
        [(opened m ctrl).mgmt.channelTimer] := by
    simp [absorb, MgmtSta.tuneToNext, htimers]
  have hstage := channelTimer_stage_le (opened m ctrl).mgmt
  obtain ⟨k, -, r, hrun, hfinished⟩ :=
    hscanning.run (3 * (c :: rest).length) htuned (by rw [List.length_cons]; omega) pattern
  refine ⟨k, _, r, ?_, hrun, hfinished⟩
  rw [start, processScanCommand_eq hidle htype htimes, hs]
  simp [Except.map, absorb, hsub, opened, MgmtSta.tuneToNext]

/-- Without channels the scan is over at once, and nothing says so. -/
theorem start_of_no_channels (hidle : m.isScanning = false)
    (htype : ctrl.BSSType = .BSSTYPE_INFRASTRUCTURE)
    (htimes : ctrl.minChannelTime ≤ ctrl.maxChannelTime) (hnone : m.channelsOf ctrl = []) :
    start m ctrl =
      .ok (({ mgmt := m } : ScanRecord).absorb ((opened m ctrl).mgmt.finishScan, [])) := by
  have hlast : (opened m ctrl).mgmt.scanning.currentChannelIndex =
      ((opened m ctrl).mgmt.scanning.channelList.length : Int) - 1 := by
    rw [opened_channels, hnone]
    rfl
  rw [start, processScanCommand_eq hidle htype htimes, MgmtSta.scanNextChannel, if_pos hlast]
  rfl

/-- A request that finds a scan under way, or that has no channel to go to, is never
confirmed. -/
theorem not_completes (hm : m.Sound) (htype : ctrl.BSSType = .BSSTYPE_INFRASTRUCTURE)
    (htimes : ctrl.minChannelTime ≤ ctrl.maxChannelTime)
    (h : m.isScanning = true ∨ m.channelsOf ctrl = []) : ¬ Completes m ctrl := by
  intro hcompletes
  obtain ⟨k, r₀, r, hstart, hrun, hfinished⟩ := hcompletes fun _ => []
  cases hscan : m.isScanning with
  | true => simp [start, MgmtSta.processScanCommand, hscan, Except.map] at hstart
  | false =>
      have hnone : m.channelsOf ctrl = [] := by simpa [hscan] using h
      rw [start_of_no_channels hscan htype htimes hnone] at hstart
      obtain rfl := Except.ok.inj hstart
      cases k with
      | zero =>
          obtain rfl := Except.ok.inj hrun
          exact absurd hfinished.confirms (by simp [absorb])
      | succ k =>
          obtain ⟨r₁, htimer, -⟩ := run_cons_inv hrun
          have htimers : (opened m ctrl).mgmt.finishScan.scanTimers = [] :=
            opened_scanTimers hm hscan ctrl
          simp [step, absorb, MgmtSta.handleScanTimer, htimers, Except.map] at htimer

end Requests

end ScanRecord

/-! ## Every scan of a card -/

/-- The management entity listens to the reception state during active scans. -/
def MgmtSta.Listens (m : MgmtSta) : Prop := m.subscribed = (m.isScanning && m.scanning.activeScan)

namespace MgmtSta.Listens

variable {m : MgmtSta}

theorem scanStarted (h : m.Listens) (hidle : m.isScanning = false) (ctrl : ScanRequest) :
    (m.scanStarted ctrl).Listens := by
  have hsub : m.endAssociation.subscribed = false := by
    rw [ScanRecord.endAssociation_subscribed, h, hidle]
    rfl
  unfold MgmtSta.scanStarted
  split
  · cases hactive : ctrl.activeScan <;> simp [Listens, finishScan, startScanning, hactive, hsub]
  · cases hactive : ctrl.activeScan <;> simp [Listens, tuneToNext, startScanning, hactive, hsub]

theorem finishScan (h : m.Listens) : m.finishScan.Listens := by
  unfold Listens at h
  cases hactive : m.scanning.activeScan <;> simp [Listens, MgmtSta.finishScan, hactive, h]

theorem breakAssociation (h : m.Listens) : m.breakAssociation.Listens := by
  unfold MgmtSta.breakAssociation
  split <;> exact h

theorem receiveReceptionState (h : m.Listens) (busy : Bool) :
    (m.receiveReceptionState busy).Listens := by
  unfold MgmtSta.receiveReceptionState
  split <;> exact h

end MgmtSta.Listens

namespace Nic

variable {p : AgentParams} {n n' : Nic} {e : Event} {signals : List Bool}

theorem listens_move (hn : n.Sound p) (h : n.mgmt.Listens) (hmove : Move p n e n' signals) :
    n'.mgmt.Listens := by
  cases hmove with
  | foreign hq hreq => exact absurd hreq (hn.not_foreign hq)
  | scan hq hidle => exact h.scanStarted hidle _
  | scanDone ht hlast => exact MgmtSta.Listens.finishScan h
  | assocRefused hbody hx hap hstatus => exact h.breakAssociation
  | assocDone hbody hx hap => exact h.breakAssociation
  | reception busy => exact h.receiveReceptionState busy
  | _ => exact h

theorem listens_of_run {numChannels : Nat} {es : List Event}
    (hrun : run (next p) (initial numChannels) es = .ok n) :
    n.Sound p ∧ n.mgmt.Listens ∧ n.mgmt.numChannels = numChannels := by
  have halways : Along (next p) (fun _ _ => True) (initial numChannels) es :=
    along_trivial (fun _ _ => trivial) _ _
  refine run_invariant (I := fun n : Nic => n.Sound p ∧ n.mgmt.Listens ∧
    n.mgmt.numChannels = numChannels) ?_ ?_ halways hrun
  · rintro n e n' ⟨hsound, hlistens, hnum⟩ - hstep
    obtain ⟨signals, hmove⟩ := move_of_next hstep
    exact ⟨hsound.next hstep, listens_move hsound hlistens hmove,
      (numChannels_move hsound hmove).trans hnum⟩
  · exact ⟨sound_initial numChannels, rfl, rfl⟩

/-- A scan request of the agent completes, exactly if it finds no scan under way and
there is a channel to scan. -/
theorem scan_completes_iff {numChannels : Nat} {es : List Event}
    (hrun : run (next p) (initial numChannels) es = .ok n) {ctrl : ScanRequest}
    (hctrl : Request.scan ctrl = p.scanRequest) :
    ScanRecord.Completes n.mgmt ctrl ↔
      n.mgmt.isScanning = false ∧ (p.channelsToScan ≠ [] ∨ 0 < numChannels) := by
  obtain ⟨hsound, hlistens, hnum⟩ := listens_of_run hrun
  obtain rfl := Request.scan.inj hctrl
  constructor
  · intro hcompletes
    have hpossible := mt (ScanRecord.not_completes hsound.mgmt rfl p.minChannelTime_le)
      (not_not.mpr hcompletes)
    rw [not_or, Bool.not_eq_true] at hpossible
    refine ⟨hpossible.1, ?_⟩
    by_contra hnone
    rw [not_or, not_not, Nat.pos_iff_ne_zero, not_not] at hnone
    apply hpossible.2
    simp [MgmtSta.channelsOf, hnone.1, hnum, hnone.2]
  · rintro ⟨hidle, hchannels⟩
    rw [← hnum] at hchannels
    have hsub : n.mgmt.subscribed = false := by
      rw [hlistens, hidle]
      rfl
    exact ScanRecord.completes_of_channels hsound.mgmt hsub hidle rfl p.minChannelTime_le
      (HasChannels.channelsOf_ne_nil hchannels hctrl)

/-- The first scan of a card over four channels. -/
theorem scan_completes_sample :
    ScanRecord.Completes ({ initial 4 with
        agent := { startUp := false }, toMgmt := [AgentParams.scanRequest {}] } : Nic).mgmt
        { BSSType := .BSSTYPE_INFRASTRUCTURE, activeScan := true, probeDelay := 100,
          minChannelTime := 150, maxChannelTime := 300, channelList := [] } ↔
      (initial 4).mgmt.isScanning = false ∧
        (AgentParams.channelsToScan {} ≠ [] ∨ 0 < 4) :=
  scan_completes_iff (rfl : run (next {}) (initial 4) [.startUp] = .ok _) rfl

/-- A card without channels never confirms a scan. -/
theorem scan_not_completed :
    ¬ ScanRecord.Completes (initial 0).mgmt
      { BSSType := .BSSTYPE_INFRASTRUCTURE, activeScan := true, probeDelay := 100,
        minChannelTime := 150, maxChannelTime := 300, channelList := [] } :=
  ScanRecord.not_completes (sound_initial (p := {}) 0).mgmt rfl (by decide) (.inr rfl)

end Nic

end MultiTechBus.Ieee80211
