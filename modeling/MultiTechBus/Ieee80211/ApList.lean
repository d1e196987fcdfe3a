import MultiTechBus.Ieee80211.MgmtSta

/-! # Facts about the AP list

What the handlers read of an entry is its authentication timer, its authentication
flag and whether it exists. These facts are followed through every way in which
a handler writes to the list.
-/

namespace MultiTechBus.Ieee80211

open MultiTechBus.Library

def authTimer (l : List ApInfo) (a : MacAddress) : Option TimerMsg :=
  (lookupKey ApInfo.address a l).bind ApInfo.authTimeoutMsg

def authenticated (l : List ApInfo) (a : MacAddress) : Bool :=
  (lookupKey ApInfo.address a l).any ApInfo.isAuthenticated

def known (l : List ApInfo) (a : MacAddress) : Bool := (lookupKey ApInfo.address a l).isSome

@[simp] theorem authTimer_nil (a : MacAddress) : authTimer [] a = none := rfl

@[simp] theorem authenticated_nil (a : MacAddress) : authenticated [] a = false := rfl

section Facts

variable {l : List ApInfo} {a b : MacAddress} {ap : ApInfo} {f : ApInfo → ApInfo}

theorem authTimer_of_lookup (h : lookupKey ApInfo.address a l = some ap) :
    authTimer l a = ap.authTimeoutMsg := by
  simp [authTimer, h]

theorem authenticated_of_lookup (h : lookupKey ApInfo.address a l = some ap) :
    authenticated l a = ap.isAuthenticated := by
  simp [authenticated, h]

theorem known_of_lookup (h : lookupKey ApInfo.address a l = some ap) : known l a = true := by
  simp [known, h]

theorem known_of_authenticated (h : authenticated l a = true) : known l a = true := by
  unfold authenticated at h
  cases hl : lookupKey ApInfo.address a l with
  | none => simp [hl] at h
  | some ap => exact known_of_lookup hl

/-! ## Writing to an entry -/

theorem lookup_update (hf : ∀ ap, (f ap).address = ap.address)
    (h : lookupKey ApInfo.address a l = some ap) (b : MacAddress) :
    lookupKey ApInfo.address b (updateKey ApInfo.address a f l) =
      if b = a then some (f ap) else lookupKey ApInfo.address b l := by
  by_cases hb : b = a
  · subst hb
    rw [lookupKey_updateKey_self fun ap hap => (hf ap).trans hap, h]
    simp
  · rw [lookupKey_updateKey_ne (fun ap hap => (hf ap).trans hap) hb, if_neg hb]

theorem authTimer_update (hf : ∀ ap, (f ap).address = ap.address)
    (h : lookupKey ApInfo.address a l = some ap) (b : MacAddress) :
    authTimer (updateKey ApInfo.address a f l) b =
      if b = a then (f ap).authTimeoutMsg else authTimer l b := by
  unfold authTimer
  rw [lookup_update hf h]
  split <;> rfl

theorem authenticated_update (hf : ∀ ap, (f ap).address = ap.address)
    (h : lookupKey ApInfo.address a l = some ap) (b : MacAddress) :
    authenticated (updateKey ApInfo.address a f l) b =
      if b = a then (f ap).isAuthenticated else authenticated l b := by
  unfold authenticated
  rw [lookup_update hf h]
  split <;> rfl

theorem known_update (hf : ∀ ap, (f ap).address = ap.address)
    (h : lookupKey ApInfo.address a l = some ap) (b : MacAddress) :
    known (updateKey ApInfo.address a f l) b = known l b := by
  unfold known
  rw [lookup_update hf h]
  split
  · rename_i hb
    simp [hb, h]
  · rfl

/-- Where a timer of the updated list comes from. -/
theorem authTimer_update_cases (h : lookupKey ApInfo.address a l = some ap) {b : MacAddress}
    {t : TimerMsg} (ht : authTimer (updateKey ApInfo.address a f l) b = some t)
    (hf : ∀ ap, (f ap).address = ap.address) :
    b = a ∧ (f ap).authTimeoutMsg = some t ∨ b ≠ a ∧ authTimer l b = some t := by
  rw [authTimer_update hf h] at ht
  split at ht
  · exact .inl ⟨‹_›, ht⟩
  · exact .inr ⟨‹_›, ht⟩

end Facts

/-! ## Storing what a beacon says -/

/-- A list that tells the same about timers and authentication and still knows
every address. -/
structure SameAuth (l l' : List ApInfo) : Prop where
  authTimer : ∀ a, authTimer l' a = authTimer l a
  authenticated : ∀ a, authenticated l' a = authenticated l a
  known : ∀ a, known l a = true → known l' a = true

namespace MgmtSta

variable (m : MgmtSta) (f : MgmtFrame) (body : BeaconBody)

theorem ensureAP_lookup (b : MacAddress) :
    lookupKey ApInfo.address b (m.ensureAP f.transmitterAddress).apList =
      if b = f.transmitterAddress then some ((m.lookupAP b).getD { address := b })
      else m.lookupAP b := by
  unfold ensureAP
  cases h : m.lookupAP f.transmitterAddress with
  | some ap =>
      by_cases hb : b = f.transmitterAddress
      · subst hb
        simp only [if_true, h, Option.getD_some]
        exact h
      · simp only [if_neg hb]
        rfl
  | none =>
      simp only [lookupKey_append, lookupKey_cons, lookupKey_nil]
      by_cases hb : b = f.transmitterAddress
      · subst hb
        have hnone : lookupKey ApInfo.address f.transmitterAddress m.apList = none := h
        simp [hnone, h]
      · simp only [if_neg hb, if_neg (Ne.symm hb), Option.or_none]
        rfl

/-- A beacon refreshes the entry of its sender, and of the rest of the state at
most the received power. -/
theorem storeAPInfo_eq : ∃ power, m.storeAPInfo f body =
    { m with
      apList := updateKey ApInfo.address f.transmitterAddress (refreshed f body)
        (m.ensureAP f.transmitterAddress).apList
      assocAP := { m.assocAP with rxPower := power } } := by
  have hensure : m.ensureAP f.transmitterAddress =
      { m with apList := (m.ensureAP f.transmitterAddress).apList } := by
    unfold ensureAP
    split <;> rfl
  unfold storeAPInfo updateAP
  by_cases h : f.transmitterAddress = (m.ensureAP f.transmitterAddress).assocAP.address
  · refine ⟨f.signalPower, ?_⟩
    simp only [if_pos h]
    rw [hensure]
  · refine ⟨m.assocAP.rxPower, ?_⟩
    simp only [if_neg h]
    rw [hensure]

theorem storeAPInfo_lookup (b : MacAddress) :
    lookupKey ApInfo.address b (m.storeAPInfo f body).apList =
      if b = f.transmitterAddress then
        some (refreshed f body ((m.lookupAP b).getD { address := b }))
      else m.lookupAP b := by
  obtain ⟨power, heq⟩ := m.storeAPInfo_eq f body
  have hrefreshed : ∀ ap, ap.address = f.transmitterAddress →
      (refreshed f body ap).address = f.transmitterAddress := fun _ _ => rfl
  rw [heq]
  by_cases hb : b = f.transmitterAddress
  · subst hb
    rw [lookupKey_updateKey_self hrefreshed, ensureAP_lookup]
    simp
  · rw [lookupKey_updateKey_ne hrefreshed hb, ensureAP_lookup, if_neg hb, if_neg hb]

theorem storeAPInfo_known {b : MacAddress} (hb : b ≠ f.transmitterAddress) :
    Ieee80211.known (m.storeAPInfo f body).apList b = Ieee80211.known m.apList b := by
  unfold Ieee80211.known
  rw [storeAPInfo_lookup, if_neg hb]
  rfl

theorem storeAPInfo_sameAuth : SameAuth m.apList (m.storeAPInfo f body).apList := by
  have hlookup := m.storeAPInfo_lookup f body
  have hother : ∀ a, m.lookupAP a = lookupKey ApInfo.address a m.apList := fun _ => rfl
  refine ⟨fun a => ?_, fun a => ?_, fun a ha => ?_⟩
  · unfold Ieee80211.authTimer
    rw [hlookup, hother]
    split
    · cases lookupKey ApInfo.address a m.apList <;> rfl
    · rfl
  · unfold Ieee80211.authenticated
    rw [hlookup, hother]
    split
    · cases lookupKey ApInfo.address a m.apList <;> rfl
    · rfl
  · unfold Ieee80211.known
    rw [hlookup]
    split
    · rfl
    · exact ha

end MgmtSta

end MultiTechBus.Ieee80211
