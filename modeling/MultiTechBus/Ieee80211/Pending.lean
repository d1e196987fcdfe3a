import MultiTechBus.Ieee80211.Sound
import MultiTechBus.Ieee80211.Timers

/-! # Pointers and scheduled messages

The pointers of the management entity say which of its timers are scheduled, and the future
event set says which messages wait. The two agree after every handler, since every
pointer that is reset or overwritten was cancelled before.
-/

namespace MultiTechBus.Ieee80211

open MultiTechBus.Library

namespace MgmtSta

/-- How many messages of a kind the pointers take to be scheduled. -/
def pending (m : MgmtSta) : TimerKind → Nat
  | .MK_AUTH_TIMEOUT a => if (authTimer m.apList a).any TimerMsg.isScheduled then 1 else 0
  | .MK_ASSOC_TIMEOUT a =>
      if m.assocTimeoutMsg.any fun x => x.contextPointer = a && x.msg.isScheduled then 1 else 0
  | .scan kind => m.scanTimers.countP fun timer => timer.kind = kind
  | .MK_BEACON_TIMEOUT => if m.assocAP.beaconTimeoutMsg.any TimerMsg.isScheduled then 1 else 0

/-- As many messages wait as the pointers say. -/
def Counts (m : MgmtSta) (q : FutureEvents TimerKind) : Prop := ∀ k, q.count k = m.pending k

end MgmtSta

/-! ## Operations on the future event set -/

theorem count_cancelAndDelete {q : FutureEvents TimerKind} {msg : Option TimerMsg}
    {kind : TimerKind} (h : q.count kind = if msg.any TimerMsg.isScheduled then 1 else 0)
    (k : TimerKind) :
    (q.applyAll (cancelAndDelete msg kind)).count k = if k = kind then 0 else q.count k := by
  unfold cancelAndDelete
  by_cases hmsg : msg.any TimerMsg.isScheduled
  · rw [if_pos hmsg] at h ⊢
    rw [FutureEvents.applyAll_cons, FutureEvents.applyAll_nil, FutureEvents.count_cancel]
    by_cases hk : k = kind
    · simp [hk, h]
    · simp [hk]
  · rw [if_neg hmsg] at h ⊢
    by_cases hk : k = kind
    · simp [hk, h]
    · simp [hk]

theorem not_mem_cancelAndDelete {op : TimerOp} (hop : ∀ kind, op ≠ .cancel kind)
    (msg : Option TimerMsg) (kind : TimerKind) : op ∉ cancelAndDelete msg kind := by
  unfold cancelAndDelete
  split
  · exact fun h => hop kind (List.mem_singleton.mp h)
  · exact List.not_mem_nil

theorem newEpoch_not_mem_cancelAndDelete (msg : Option TimerMsg) (kind : TimerKind) :
    QueueOp.newEpoch ∉ cancelAndDelete msg kind := by
  apply not_mem_cancelAndDelete
  simp

namespace MgmtSta

theorem not_mem_cancelAssocTimeout {op : TimerOp} (hop : ∀ kind, op ≠ .cancel kind)
    (m : MgmtSta) : op ∉ m.cancelAssocTimeout := by
  unfold cancelAssocTimeout
  split
  · exact List.not_mem_nil
  · exact not_mem_cancelAndDelete hop _ _

theorem newEpoch_not_mem_cancelAssocTimeout (m : MgmtSta) :
    QueueOp.newEpoch ∉ m.cancelAssocTimeout := by
  apply not_mem_cancelAssocTimeout
  simp

theorem newEpoch_not_mem_cancelBeaconTimeout (m : MgmtSta) :
    QueueOp.newEpoch ∉ m.cancelBeaconTimeout :=
  newEpoch_not_mem_cancelAndDelete _ _

theorem scan_not_mem_processFrameTimers (m : MgmtSta) (f : MgmtFrame) (d : SimTime)
    (kind : ScanTimerKind) : QueueOp.schedule d (.scan kind) ∉ m.processFrameTimers f := by
  have hop : ∀ k, QueueOp.schedule d (TimerKind.scan kind) ≠ .cancel k := by simp
  have hassoc := not_mem_cancelAssocTimeout hop m
  have hbeacon : QueueOp.schedule d (.scan kind) ∉ m.cancelBeaconTimeout :=
    not_mem_cancelAndDelete hop _ _
  have hauth : ∀ ap, QueueOp.schedule d (.scan kind) ∉ cancelAuthTimeout ap := fun ap =>
    not_mem_cancelAndDelete hop _ _
  unfold processFrameTimers
  cases f.body with
  | authentication seq status isLast =>
      simp only [handleAuthenticationFrameTimers]
      split
      · simp
      · split_ifs <;> simp [hauth]
  | deauthentication rc =>
      simp only [handleDeauthenticationFrameTimers]
      split
      · simp
      · split_ifs <;> simp [hauth]
  | associationResponse status =>
      simp only [handleAssociationResponseFrameTimers]
      split
      · split_ifs <;> simp [hassoc, hbeacon]
      · simp
  | disassociation rc =>
      simp only [handleDisassociationFrameTimers]
      split_ifs <;> simp [hassoc, hbeacon]
  | beacon body =>
      simp only [handleBeaconFrameTimers]
      split_ifs <;> simp [hbeacon]
  | _ => simp

/-- The only timer that a scan command schedules is that of the first channel. -/
theorem schedule_of_processScanCommandTimers {m : MgmtSta} {ctrl : ScanRequest} {d : SimTime}
    {kind : TimerKind} (h : .schedule d kind ∈ m.processScanCommandTimers ctrl) :
    let timer := (m.endAssociation.startScanning ctrl).channelTimer
    d = timer.delay ∧ kind = .scan timer.kind := by
  have hop : ∀ k, QueueOp.schedule d kind ≠ .cancel k := by simp
  have hbeacon : QueueOp.schedule d kind ∉ m.cancelBeaconTimeout :=
    not_mem_cancelAndDelete hop _ _
  have hassoc := not_mem_cancelAssocTimeout hop m
  have hclear : QueueOp.schedule d kind ∉ m.clearAPListTimers := by
    unfold clearAPListTimers
    rw [List.mem_append, List.mem_flatMap]
    rintro (⟨ap, -, hap⟩ | hnew)
    · exact not_mem_cancelAndDelete hop _ _ hap
    · simp at hnew
  unfold processScanCommandTimers at h
  rw [List.mem_append, List.mem_append] at h
  cases h with
  | inl hbefore =>
      cases hbefore with
      | inl hend =>
          split at hend
          · exact absurd hend hbeacon
          · exact absurd hend hassoc
      | inr hin => exact absurd hin hclear
  | inr hnext =>
      unfold scanNextChannelTimers at hnext
      split at hnext
      · simp at hnext
      · simpa using hnext

theorem newEpoch_not_mem_handleScanTimerTimers (m : MgmtSta) (i : Nat) :
    QueueOp.newEpoch ∉ m.handleScanTimerTimers i := by
  have hnext : QueueOp.newEpoch ∉ m.scanNextChannelTimers := by
    unfold scanNextChannelTimers
    split_ifs <;> simp
  unfold handleScanTimerTimers
  split
  · simp
  · split
    · exact hnext
    · simp
    · split_ifs
      · simp
      · exact hnext

/-! ## Pointers that change with the messages -/

namespace Counts

variable {m m' : MgmtSta} {q : FutureEvents TimerKind} {a : MacAddress} {ap : ApInfo}
  {f : ApInfo → ApInfo}

theorem of_pending (h : m.Counts q) (hp : ∀ k, m'.pending k = m.pending k) : m'.Counts q :=
  fun k => (h k).trans (hp k).symm

/-- The counts depend on the pointers and the scan timers alone. -/
theorem congr (h : m.Counts q) (hlist : m'.apList = m.apList)
    (hassoc : m'.assocTimeoutMsg = m.assocTimeoutMsg) (hscan : m'.scanTimers = m.scanTimers)
    (hbeacon : m'.assocAP.beaconTimeoutMsg = m.assocAP.beaconTimeoutMsg) : m'.Counts q := by
  refine h.of_pending fun k => ?_
  cases k <;> simp only [pending, hlist, hassoc, hscan, hbeacon]

/-- A message leaves the set as the pointer to it says so. -/
theorem remove {i : Nat} {s : Message TimerKind} (h : m.Counts q) (hs : q.messages[i]? = some s)
    (hp : ∀ k, m'.pending k + (if k = s.kind then 1 else 0) = m.pending k) :
    m'.Counts (q.remove i) := by
  intro k
  have hremove := q.count_remove hs (k := k)
  have hcount := h k
  have hpending := hp k
  omega

theorem cancelAssocTimeout (h : m.Counts q) :
    ({ m with assocTimeoutMsg := none } : MgmtSta).Counts (q.applyAll m.cancelAssocTimeout) := by
  intro k
  unfold MgmtSta.cancelAssocTimeout
  cases hx : m.assocTimeoutMsg with
  | none =>
      simp only [FutureEvents.applyAll_nil]
      rw [h k]
      cases k <;> simp [pending, hx]
  | some x =>
      have hself : q.count (.MK_ASSOC_TIMEOUT x.contextPointer) =
          if (some x.msg).any TimerMsg.isScheduled then 1 else 0 := by
        rw [h]
        simp [pending, hx]
      rw [count_cancelAndDelete hself, h k]
      cases k with
      | MK_ASSOC_TIMEOUT b =>
          by_cases hb : x.contextPointer = b
          · simp [pending, hb]
          · simp [pending, hx, hb, Ne.symm hb]
      | _ => simp [pending]

theorem cancelBeaconTimeout (h : m.Counts q) :
    ({ m with assocAP := { m.assocAP with beaconTimeoutMsg := none } } : MgmtSta).Counts
      (q.applyAll m.cancelBeaconTimeout) := by
  intro k
  unfold MgmtSta.cancelBeaconTimeout
  rw [count_cancelAndDelete (h _), h k]
  cases k <;> simp [pending]

theorem scheduleBeaconTimeout (h : m.Counts q)
    (hnot : m.assocAP.beaconTimeoutMsg.any TimerMsg.isScheduled = false) (d d' : SimTime) :
    ({ m with
        assocAP := { m.assocAP with beaconTimeoutMsg := some (.scheduled d) } } : MgmtSta).Counts
      (q.apply (.schedule d' .MK_BEACON_TIMEOUT)) := by
  intro k
  rw [FutureEvents.count_schedule, h k]
  cases k with
  | MK_BEACON_TIMEOUT => simp [pending, hnot, TimerMsg.isScheduled]
  | _ => simp [pending]

theorem scheduleScan (h : m.Counts q) (d : SimTime) (timer : ScanTimer) :
    ({ m with scanTimers := m.scanTimers ++ [timer] } : MgmtSta).Counts
      (q.apply (.schedule d (.scan timer.kind))) := by
  intro k
  rw [FutureEvents.count_schedule, h k]
  cases k with
  | scan kind => simp [pending, List.countP_append, List.countP_cons, eq_comm]
  | _ => simp [pending]


/-! ### Entries of the AP list -/

theorem pending_updateAP (hf : ∀ ap, (f ap).address = ap.address)
    (hap : lookupKey ApInfo.address a m.apList = some ap) (k : TimerKind) :
    (m.updateAP a f).pending k =
      if k = .MK_AUTH_TIMEOUT a then
        if (f ap).authTimeoutMsg.any TimerMsg.isScheduled then 1 else 0
      else m.pending k := by
  cases k with
  | MK_AUTH_TIMEOUT b =>
      simp only [pending, MgmtSta.updateAP, authTimer_update hf hap,
        TimerKind.MK_AUTH_TIMEOUT.injEq]
      by_cases hb : b = a
      · simp [hb]
      · simp [hb]
  | _ =>
      rw [if_neg (by simp)]
      rfl

theorem count_authTimeout (h : m.Counts q) (hap : lookupKey ApInfo.address a m.apList = some ap) :
    q.count (.MK_AUTH_TIMEOUT a) =
      if ap.authTimeoutMsg.any TimerMsg.isScheduled then 1 else 0 := by
  rw [h]
  simp only [pending, authTimer_of_lookup hap]

theorem updateAP (h : m.Counts q) (hf : ∀ ap, (f ap).address = ap.address)
    (hap : lookupKey ApInfo.address a m.apList = some ap)
    (hsame : (f ap).authTimeoutMsg = ap.authTimeoutMsg) : (m.updateAP a f).Counts q := by
  intro k
  rw [pending_updateAP hf hap]
  by_cases hk : k = .MK_AUTH_TIMEOUT a
  · rw [if_pos hk, hk, h.count_authTimeout hap, hsame]
  · rw [if_neg hk, h k]

theorem cancelAuthTimeout (h : m.Counts q) (hf : ∀ ap, (f ap).address = ap.address)
    (hap : lookupKey ApInfo.address a m.apList = some ap)
    (hnone : (f ap).authTimeoutMsg = none) :
    (m.updateAP a f).Counts (q.applyAll (Ieee80211.cancelAuthTimeout ap)) := by
  intro k
  have hcount := h.count_authTimeout hap
  rw [← lookupKey_key hap] at hcount
  unfold Ieee80211.cancelAuthTimeout
  rw [count_cancelAndDelete hcount, pending_updateAP hf hap, lookupKey_key hap, hnone, h k]
  rfl

theorem scheduleAuthTimeout (h : m.Counts q) (hf : ∀ ap, (f ap).address = ap.address)
    (hap : lookupKey ApInfo.address a m.apList = some ap) (hnone : ap.authTimeoutMsg = none)
    {t : SimTime} (hset : (f ap).authTimeoutMsg = some (.scheduled t)) (d : SimTime) :
    (m.updateAP a f).Counts (q.apply (.schedule d (.MK_AUTH_TIMEOUT a))) := by
  intro k
  have hcount := h.count_authTimeout hap
  rw [hnone] at hcount
  rw [FutureEvents.count_schedule, pending_updateAP hf hap, hset]
  by_cases hk : k = .MK_AUTH_TIMEOUT a
  · rw [if_pos hk, if_pos hk, hk, hcount]
    rfl
  · rw [if_neg hk, if_neg hk, h k]
    rfl

theorem count_cancelAll {l : List ApInfo} (hl : (l.map ApInfo.address).Nodup)
    (h : ∀ a, q.count (.MK_AUTH_TIMEOUT a) =
      if (authTimer l a).any TimerMsg.isScheduled then 1 else 0) (k : TimerKind) :
    (q.applyAll (l.flatMap Ieee80211.cancelAuthTimeout)).count k =
      if ∃ a, k = .MK_AUTH_TIMEOUT a then 0 else q.count k := by
  induction l generalizing q with
  | nil =>
      by_cases hk : ∃ a, k = .MK_AUTH_TIMEOUT a
      · obtain ⟨a, rfl⟩ := hk
        simpa using h a
      · simp [hk]
  | cons e l ih =>
      rw [List.map_cons, List.nodup_cons] at hl
      have hself : q.count (.MK_AUTH_TIMEOUT e.address) =
          if e.authTimeoutMsg.any TimerMsg.isScheduled then 1 else 0 := by
        rw [h, authTimer_of_lookup (by rw [lookupKey_cons, if_pos rfl])]
      have hcancel := fun k => count_cancelAndDelete hself k
      rw [List.flatMap_cons, FutureEvents.applyAll_append, ih hl.2]
      · unfold Ieee80211.cancelAuthTimeout
        rw [hcancel]
        by_cases hk : ∃ a, k = .MK_AUTH_TIMEOUT a
        · rw [if_pos hk, if_pos hk]
        · rw [if_neg hk, if_neg hk, if_neg fun heq => hk ⟨_, heq⟩]
      · intro a
        unfold Ieee80211.cancelAuthTimeout
        rw [hcancel]
        by_cases ha : a = e.address
        · have hnone : authTimer l a = none := by
            unfold authTimer
            rw [lookupKey_eq_none_iff.mpr (ha ▸ hl.1)]
            rfl
          rw [if_pos (by rw [ha]), hnone]
          rfl
        · have hne : TimerKind.MK_AUTH_TIMEOUT a ≠ .MK_AUTH_TIMEOUT e.address := fun heq =>
            ha (TimerKind.MK_AUTH_TIMEOUT.inj heq)
          rw [if_neg hne, h]
          unfold authTimer
          rw [lookupKey_cons, if_neg (Ne.symm ha)]

theorem clearAPList (h : m.Counts q) (hdistinct : (m.apList.map ApInfo.address).Nodup) :
    m.clearAPList.Counts (q.applyAll m.clearAPListTimers) := by
  intro k
  unfold clearAPListTimers
  rw [FutureEvents.applyAll_append, FutureEvents.applyAll_cons, FutureEvents.applyAll_nil,
    FutureEvents.count_newEpoch, count_cancelAll hdistinct fun a => h _, h k]
  cases k with
  | MK_AUTH_TIMEOUT a =>
      rw [if_pos ⟨a, rfl⟩]
      rfl
  | _ =>
      rw [if_neg (by simp)]
      rfl

end Counts

end MgmtSta

end MultiTechBus.Ieee80211
