import MultiTechBus.Ieee80211.Mac.InProgress

/-! # Attempts to transmit

A packet in progress that has failed is counted by its retry counter, which is below the
limit, so that a packet is transmitted no more often than the limit allows.
-/

namespace MultiTechBus.Ieee80211

open MultiTechBus.Library

variable {β : Type*}

theorem Packet.same_self (packet : Packet β) : packet.same packet = true := by
  simp [Packet.same]

theorem Packet.eq_of_unretried {packet packet' : Packet β}
    (h : packet.unretried = packet'.unretried) : packet.msdu = packet'.msdu ∧
      packet.frame.fragmentNumber = packet'.frame.fragmentNumber := by
  have hmsdu := congrArg Packet.msdu h
  have hnumber := congrArg Mpdu.fragmentNumber (congrArg Packet.frame h)
  exact ⟨hmsdu, hnumber⟩

theorem Packet.place_eq_of_same {packet packet' : Packet β} (h : packet.same packet' = true) :
    packet.place = packet'.place := by
  obtain ⟨hmsdu, hfragment⟩ := of_decide_eq_true h
  rw [place, place, hmsdu, hfragment]

namespace Originator

def tries (o : Originator β) (packet : Packet β) : Nat :=
  o.transmitted.countP fun packet' => packet'.same packet

def getRetryCount (p : DcfParams) (o : Originator β) (frame : Mpdu β) : Nat :=
  if isLong p frame then getRc frame o.longRetryCounter else getRc frame o.shortRetryCounter

def retryLimit (p : DcfParams) (frame : Mpdu β) : Nat :=
  if isLong p frame then p.longRetryLimit else p.shortRetryLimit

def awaits (o : Originator β) (packet : Packet β) : Bool :=
  match o.frameSequence with
  | .ack packet' _ => packet'.same packet
  | _ => false

theorem awaits_congr {o o' : Originator β} (h : o'.frameSequence = o.frameSequence)
    (packet : Packet β) : o'.awaits packet = o.awaits packet := by
  unfold awaits
  rw [h]

/-- A packet that has failed is counted, and has not reached the limit. -/
def Counted (p : DcfParams) (o : Originator β) (packet : Packet β) : Prop :=
  ∃ failures, o.tries packet = failures + (if o.awaits packet then 1 else 0) ∧
    (failures = 0 ∨ failures ≤ o.getRetryCount p packet.frame ∧
      o.getRetryCount p packet.frame < retryLimit p packet.frame)

structure Attempts (p : DcfParams) (o : Originator β) : Prop where
  old : ∀ packet ∈ o.transmitted, packet.msdu < o.extracted.length
  pending : ∀ packet ∈ o.inProgressFrames, o.Counted p packet
  done : ∀ f ∈ o.finished, o.tries f.1 ≤ max 1 (retryLimit p f.1.frame)
  awaited : ∀ packet last, o.frameSequence = .ack packet last → packet.msdu < o.extracted.length

section

variable {p : DcfParams} {o o' : Originator β} {packet : Packet β} {rest : List (Packet β)}

theorem Attempts.initial (p : DcfParams) (cw : Nat) : Attempts p ({ cw := cw } : Originator β) where
  old := nofun
  pending := nofun
  done := nofun
  awaited := nofun

theorem isRetryLimitReached_iff (frame : Mpdu β) :
    o.isRetryLimitReached p frame = true ↔ retryLimit p frame ≤ o.getRetryCount p frame := by
  unfold isRetryLimitReached retryLimit getRetryCount
  split
  · exact decide_eq_true_iff
  · exact decide_eq_true_iff

theorem Inv.finished_lt (h : o.Inv) {f : Packet β × Outcome} (hf : f ∈ o.finished)
    (hpacket : packet ∈ o.inProgressFrames) : f.1.place < packet.place := by
  have hall : (Ieee80211.packets o.extracted).Pairwise _ := packetsFrom_sorted h.frames
  rw [← h.packets] at hall
  exact (List.pairwise_append.mp hall).2.2 f.1.unretried
    (List.mem_map.mpr ⟨f, hf, rfl⟩) packet.unretried (List.mem_map_of_mem hpacket)

theorem tries_concat (h : o'.transmitted = o.transmitted ++ [packet]) (packet' : Packet β) :
    o'.tries packet' = o.tries packet' + if packet.same packet' then 1 else 0 := by
  rw [tries, h, List.countP_append, List.countP_singleton]
  rfl

theorem Counted.congr {packet' : Packet β} (h : o.Counted p packet)
    (htries : o'.tries packet' = o.tries packet) (hawaits : o'.awaits packet' = o.awaits packet)
    (hlong : isLong p packet'.frame = isLong p packet.frame)
    (hcount : o'.getRetryCount p packet'.frame = o.getRetryCount p packet.frame) :
    o'.Counted p packet' := by
  obtain ⟨failures, heq, hle⟩ := h
  refine ⟨failures, ?_, ?_⟩
  · rw [htries, hawaits, heq]
  · rw [hcount]
    unfold retryLimit at hle ⊢
    rw [hlong]
    exact hle

theorem Counted.fresh (htries : o.tries packet = 0) (hawaits : o.awaits packet = false) :
    o.Counted p packet :=
  ⟨0, by rw [htries, hawaits]; rfl, .inl rfl⟩

theorem Counted.tries_lt (h : o.Counted p packet) (hawaits : o.awaits packet = false) :
    o.tries packet + 1 ≤ max 1 (retryLimit p packet.frame) := by
  obtain ⟨failures, heq, hle⟩ := h
  rw [hawaits, if_neg Bool.false_ne_true] at heq
  rcases hle with hzero | ⟨hcount, hlimit⟩
  · omega
  · omega

theorem Counted.tries_le (h : o.Counted p packet) :
    o.tries packet ≤ max 1 (retryLimit p packet.frame) := by
  obtain ⟨failures, heq, hle⟩ := h
  have hone : (if o.awaits packet = true then 1 else 0) ≤ 1 := by
    split
    · exact Nat.le_refl _
    · exact Nat.zero_le _
  rcases hle with hzero | ⟨hcount, hlimit⟩
  · omega
  · omega

theorem Attempts.fresh (h : o.Attempts p) (hnew : o.extracted.length ≤ packet.msdu) :
    o.tries packet = 0 ∧ o.awaits packet = false := by
  constructor
  · refine List.countP_eq_zero.mpr fun packet' hmem hsame => ?_
    have hlt := h.old packet' hmem
    have heq := (of_decide_eq_true hsame).1
    omega
  · unfold awaits
    split
    · rename_i packet' last hsequence
      have hlt := h.awaited packet' last hsequence
      refine decide_eq_false fun hsame => ?_
      have heq := hsame.1
      omega
    · rfl

theorem Attempts.extends (h : o.Attempts p) (hextends : Extends o o') : o'.Attempts p := by
  obtain ⟨packets, hpackets, hnew⟩ := hextends.inProgress
  have htries : ∀ packet, o'.tries packet = o.tries packet := by
    intro packet
    rw [tries, hextends.transmitted]
    rfl
  have hawaits : ∀ packet, o'.awaits packet = o.awaits packet :=
    awaits_congr hextends.frameSequence
  refine ⟨fun packet hmem => ?_, fun packet hmem => ?_, fun f hf => ?_, fun packet last heq => ?_⟩
  · rw [hextends.transmitted] at hmem
    exact Nat.lt_of_lt_of_le (h.old packet hmem) hextends.extracted.length_le
  · rw [hpackets] at hmem
    rcases List.mem_append.mp hmem with hold | hlater
    · refine (h.pending packet hold).congr (htries packet) (hawaits packet) rfl ?_
      unfold getRetryCount
      rw [hextends.longRetryCounter, hextends.shortRetryCounter]
    · obtain ⟨hzero, hfalse⟩ := h.fresh (hnew packet hlater)
      exact .fresh ((htries packet).trans hzero) ((hawaits packet).trans hfalse)
  · rw [hextends.finished] at hf
    rw [htries]
    exact h.done f hf
  · rw [hextends.frameSequence] at heq
    exact Nat.lt_of_lt_of_le (h.awaited packet last heq) hextends.extracted.length_le

/-- What happens to the first packet leaves the others alone. -/
theorem Attempts.first (h : o.Attempts p) (hinv : o.Inv)
    (hlist : o.inProgressFrames = packet :: rest) (hextracted : o'.extracted = o.extracted)
    (htransmitted : o'.transmitted = o.transmitted ∨ o'.transmitted = o.transmitted ++ [packet])
    (hcount : ∀ packet' ∈ rest,
      o'.getRetryCount p packet'.frame = o.getRetryCount p packet'.frame)
    (hawaits : ∀ packet' ∈ rest, o'.awaits packet' = false ∧ o.awaits packet' = false)
    (hawaited : ∀ packet' last, o'.frameSequence = .ack packet' last → packet' = packet)
    (hfirst : (o'.inProgressFrames = rest ∧
        ∃ outcome, o'.finished = o.finished ++ [(packet, outcome)] ∧
          o'.tries packet ≤ max 1 (retryLimit p packet.frame)) ∨
      (∃ packet', o'.inProgressFrames = packet' :: rest ∧ o'.finished = o.finished ∧
        o'.Counted p packet')) : o'.Attempts p := by
  have hmem : packet ∈ o.inProgressFrames := hlist ▸ List.mem_cons_self
  have hmsdu : packet.msdu < o.extracted.length := by
    obtain ⟨whole, fragmentSizes, hget, -⟩ := hinv.carries hmem
    exact (List.getElem?_eq_some_iff.mp hget).1
  have htries : ∀ packet', packet'.place ≠ packet.place → o'.tries packet' = o.tries packet' := by
    intro packet' hne
    rcases htransmitted with hsame | hmore
    · rw [tries, hsame]
      rfl
    · rw [tries_concat hmore, if_neg, Nat.add_zero]
      intro hsame
      exact hne (Packet.place_eq_of_same hsame).symm
  have hrest : ∀ packet' ∈ rest, o'.Counted p packet' := by
    intro packet' hpacket'
    obtain ⟨hlt, -⟩ := hinv.ne_first hlist packet' hpacket'
    obtain ⟨hfalse', hfalse⟩ := hawaits packet' hpacket'
    exact (h.pending packet' (hlist ▸ List.mem_cons_of_mem _ hpacket')).congr
      (htries packet' (Nat.ne_of_gt hlt)) (hfalse'.trans hfalse.symm) rfl (hcount packet' hpacket')
  have hdone : ∀ f ∈ o.finished, o'.tries f.1 ≤ max 1 (retryLimit p f.1.frame) := by
    intro f hf
    rw [htries f.1 (Nat.ne_of_lt (hinv.finished_lt hf hmem))]
    exact h.done f hf
  refine ⟨fun packet' hpacket' => ?_, ?_, ?_, fun packet' last heq => ?_⟩
  · rw [hextracted]
    rcases htransmitted with hsame | hmore
    · exact h.old packet' (hsame ▸ hpacket')
    · rw [hmore] at hpacket'
      rcases List.mem_append.mp hpacket' with hold | hnew
      · exact h.old packet' hold
      · rwa [List.mem_singleton.mp hnew]
  · rcases hfirst with ⟨hip, -⟩ | ⟨packet', hip, -, hcounted⟩
    · rw [hip]
      exact hrest
    · rw [hip]
      exact List.forall_mem_cons.mpr ⟨hcounted, hrest⟩
  · rcases hfirst with ⟨-, outcome, hfinished, hle⟩ | ⟨-, -, hfinished, -⟩
    · rw [hfinished]
      intro f hf
      rcases List.mem_append.mp hf with hold | hnew
      · exact hdone f hold
      · rw [List.mem_singleton.mp hnew]
        exact hle
    · rw [hfinished]
      exact hdone
  · rw [hextracted, hawaited packet' last heq]
    exact hmsdu

end

end Originator

end MultiTechBus.Ieee80211
