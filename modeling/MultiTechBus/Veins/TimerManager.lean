import Mathlib.Algebra.Group.Nat.Defs
import Mathlib.Data.Int.Order.Basic
import MultiTechBus.Halt
import MultiTechBus.Library.OrderedMap
import MultiTechBus.Library.Run

/-! # Timers

`TimerManager`, which the applications give their self-messages to first. A timer is a message
that is scheduled again after every callback, until its specification has no further
occurrence. Callbacks may create and cancel timers, their own among them. Afterwards the
timer is looked up by the address of its message, which a new message may have been given.
-/

namespace MultiTechBus.Veins

open MultiTechBus.Library

def second : Int := 1000000000000

/-! ## Specifications -/

namespace TimerSpecification

inductive StartMode
  | relative | absolute | immediate
deriving DecidableEq, Repr

inductive EndMode
  | relative | absolute | repetition | openEnd
deriving DecidableEq, Repr

end TimerSpecification

/-- A period that has been set is positive: `interval` checks it. -/
structure TimerSpecification where
  startMode : TimerSpecification.StartMode := .immediate
  start : Int := 0
  endMode : TimerSpecification.EndMode := .openEnd
  endCount : BitVec 32 := 0
  endTime : Int := 0
  period : Int := -second
  checked : period ≠ -second → 0 < period := by decide
deriving DecidableEq, Repr

namespace TimerSpecification

def interval (spec : TimerSpecification) (interval : Int) : Except Halt TimerSpecification :=
  if h : interval > 0 then .ok { spec with period := interval, checked := fun _ => h }
  else .error (.cRuntimeError "ASSERT: interval > 0")

def relativeStart (spec : TimerSpecification) (start : Int) : TimerSpecification :=
  { spec with startMode := .relative, start := start }

def absoluteStart (spec : TimerSpecification) (start : Int) : TimerSpecification :=
  { spec with startMode := .absolute, start := start }

def relativeEnd (spec : TimerSpecification) (endTime : Int) : TimerSpecification :=
  { spec with endMode := .relative, endTime := endTime }

def absoluteEnd (spec : TimerSpecification) (endTime : Int) : TimerSpecification :=
  { spec with endMode := .absolute, endTime := endTime }

/-- The number is kept in 32 bits. -/
def repetitions (spec : TimerSpecification) (n : Nat) : TimerSpecification :=
  { spec with endMode := .repetition, endCount := BitVec.ofNat 32 n }

def openEnd (spec : TimerSpecification) : TimerSpecification :=
  { spec with endMode := .openEnd }

def oneshotIn (spec : TimerSpecification) (time : Int) : Except Halt TimerSpecification :=
  ((spec.relativeStart time).interval second).map fun spec => spec.repetitions 1

def oneshotAt (spec : TimerSpecification) (time : Int) : Except Halt TimerSpecification :=
  ((spec.absoluteStart time).interval second).map fun spec => spec.repetitions 1

def finalizeStart (spec : TimerSpecification) (simTime : Int) : TimerSpecification :=
  match spec.startMode with
  | .relative => { spec with start := spec.start + simTime, startMode := .absolute }
  | .absolute => spec
  | .immediate => { spec with start := simTime + spec.period }

def finalizeEnd (spec : TimerSpecification) (simTime : Int) : TimerSpecification :=
  match spec.endMode with
  | .relative => { spec with endTime := spec.endTime + simTime, endMode := .absolute }
  | .absolute => spec
  | .repetition =>
      { spec with
        endTime := spec.start + (spec.endCount - 1).toNat * spec.period
        endMode := .absolute }
  | .openEnd => spec

/-- The end of a number of repetitions is counted from the start. -/
def finalize (spec : TimerSpecification) (simTime : Int) : TimerSpecification :=
  (spec.finalizeStart simTime).finalizeEnd simTime

def valid (spec : TimerSpecification) : Bool := spec.period != -second

def validOccurence (spec : TimerSpecification) (time : Int) : Bool :=
  let afterStart := decide (time ≥ spec.start)
  let beforeEnd := decide (time ≤ spec.endTime)
  let atPeriod := decide ((time - spec.start) % spec.period = 0)
  afterStart && (beforeEnd || spec.endMode = .openEnd) && atPeriod

/-- The time of the callback after `k` others. -/
def occurrence (spec : TimerSpecification) (k : Nat) : Int := spec.start + k * spec.period

/-! ### Occurrences -/

variable {spec : TimerSpecification} {t : Int} {k : Nat}

theorem period_pos (h : spec.valid = true) : 0 < spec.period :=
  spec.checked (bne_iff_ne.mp h)

@[simp] theorem period_finalize (simTime : Int) : (spec.finalize simTime).period = spec.period := by
  unfold finalize finalizeStart
  cases spec.startMode <;> unfold finalizeEnd <;> cases spec.endMode <;> rfl

@[simp] theorem valid_finalize (simTime : Int) : (spec.finalize simTime).valid = spec.valid := by
  rw [valid, valid, period_finalize]

theorem occurrence_zero : spec.occurrence 0 = spec.start := by
  unfold occurrence
  omega

theorem occurrence_succ (k : Nat) : spec.occurrence (k + 1) = spec.occurrence k + spec.period := by
  unfold occurrence
  rw [Int.natCast_succ, Int.add_mul, Int.one_mul, Int.add_assoc]

theorem occurrence_le_iff (hpos : 0 < spec.period) {j : Nat} :
    spec.occurrence j ≤ spec.occurrence k ↔ j ≤ k := by
  unfold occurrence
  constructor
  · intro h
    have hmul : (j : Int) * spec.period ≤ k * spec.period := by omega
    have hle := Int.le_of_mul_le_mul_right hmul hpos
    omega
  · intro h
    have hmul := Int.mul_le_mul_of_nonneg_right (Int.ofNat_le.mpr h) (Int.le_of_lt hpos)
    omega

/-- The valid times are the occurrences that do not come after the end. -/
theorem validOccurence_iff (hpos : 0 < spec.period) :
    spec.validOccurence t = true ↔
      (t ≤ spec.endTime ∨ spec.endMode = .openEnd) ∧ ∃ k, t = spec.occurrence k := by
  unfold validOccurence
  simp only [Bool.and_eq_true, Bool.or_eq_true, decide_eq_true_eq]
  constructor
  · rintro ⟨⟨hstart, hend⟩, hperiod⟩
    obtain ⟨m, hm⟩ := Int.dvd_of_emod_eq_zero hperiod
    have hm₀ : 0 ≤ m := by
      by_contra hneg
      have hmul := Int.mul_neg_of_pos_of_neg hpos (Int.lt_of_not_ge hneg)
      omega
    refine ⟨hend, m.toNat, ?_⟩
    unfold occurrence
    rw [Int.toNat_of_nonneg hm₀, Int.mul_comm]
    omega
  · rintro ⟨hend, k, rfl⟩
    have hmul := Int.mul_nonneg (Int.natCast_nonneg k) (Int.le_of_lt hpos)
    have hsub : spec.occurrence k - spec.start = k * spec.period := by
      unfold occurrence
      omega
    refine ⟨⟨by omega, hend⟩, ?_⟩
    rw [hsub]
    exact Int.mul_emod_left _ _

theorem validOccurence_of_le (hpos : 0 < spec.period) {j : Nat} (hle : j ≤ k)
    (h : spec.validOccurence (spec.occurrence k) = true) :
    spec.validOccurence (spec.occurrence j) = true := by
  obtain ⟨hend, -⟩ := (validOccurence_iff hpos).mp h
  have hocc := (occurrence_le_iff hpos).mpr hle
  refine (validOccurence_iff hpos).mpr ⟨?_, j, rfl⟩
  rcases hend with hend | hopen
  · exact .inl (by omega)
  · exact .inr hopen

theorem finalize_repetition (hmode : spec.endMode = .repetition) (simTime : Int) :
    (spec.finalize simTime).endMode = .absolute ∧ (spec.finalize simTime).endTime =
      (spec.finalize simTime).occurrence (spec.endCount - 1).toNat := by
  have hkept : (spec.finalizeStart simTime).endMode = .repetition ∧
      (spec.finalizeStart simTime).endCount = spec.endCount := by
    unfold finalizeStart
    cases spec.startMode <;> exact ⟨hmode, rfl⟩
  obtain ⟨hmode', hcount⟩ := hkept
  unfold finalize finalizeEnd
  rw [hmode', ← hcount]
  exact ⟨rfl, rfl⟩

/-- A number of repetitions is the number of valid times; zero wraps around. -/
theorem validOccurence_repetition (hvalid : spec.valid = true) (hmode : spec.endMode = .repetition)
    (simTime : Int) : (spec.finalize simTime).validOccurence t = true ↔
      ∃ k ≤ (spec.endCount - 1).toNat, t = (spec.finalize simTime).occurrence k := by
  obtain ⟨habsolute, hend⟩ := finalize_repetition hmode simTime
  have hpos : 0 < (spec.finalize simTime).period := by
    rw [period_finalize]
    exact period_pos hvalid
  rw [validOccurence_iff hpos, habsolute, hend]
  constructor
  · rintro ⟨hle | hopen, k, rfl⟩
    · exact ⟨k, (occurrence_le_iff hpos).mp hle, rfl⟩
    · cases hopen
  · rintro ⟨k, hk, rfl⟩
    exact ⟨.inl ((occurrence_le_iff hpos).mpr hk), k, rfl⟩

theorem validOccurence_once (hvalid : spec.valid = true) (hmode : spec.endMode = .repetition)
    (hcount : spec.endCount = 1) (simTime : Int) :
    (spec.finalize simTime).validOccurence t = true ↔ t = (spec.finalize simTime).start := by
  rw [validOccurence_repetition hvalid hmode, hcount, ← occurrence_zero]
  constructor
  · rintro ⟨k, hk, rfl⟩
    rw [Nat.le_zero.mp hk]
  · rintro rfl
    exact ⟨0, Nat.zero_le _, rfl⟩

theorem validOccurence_oneshotAt {time : Int} {oneshot : TimerSpecification}
    (h : spec.oneshotAt time = .ok oneshot) (simTime : Int) :
    (oneshot.finalize simTime).validOccurence t = true ↔ t = time := by
  obtain ⟨spec', hinterval, rfl⟩ := map_ok_inv h
  unfold interval at hinterval
  rw [dif_pos (by decide)] at hinterval
  obtain rfl := Except.ok.inj hinterval
  exact validOccurence_once rfl rfl rfl simTime

theorem validOccurence_oneshotIn {time : Int} {oneshot : TimerSpecification}
    (h : spec.oneshotIn time = .ok oneshot) (simTime : Int) :
    (oneshot.finalize simTime).validOccurence t = true ↔ t = time + simTime := by
  obtain ⟨spec', hinterval, rfl⟩ := map_ok_inv h
  unfold interval at hinterval
  rw [dif_pos (by decide)] at hinterval
  obtain rfl := Except.ok.inj hinterval
  exact validOccurence_once rfl rfl rfl simTime

end TimerSpecification

/-! ## The manager -/

structure Timer where
  spec : TimerSpecification
  /-- The address of its message. -/
  message : Nat
  /-- When its message arrives. -/
  due : Int
deriving DecidableEq, Repr

structure TimerManager where
  simTime : Int := 0
  timers_ : OrderedMap Nat Timer := ∅
  /-- The specifications with which timers were created; a handle is a place among them. -/
  created : List TimerSpecification := []
  /-- The timers that were cancelled. -/
  cancelled : List Nat := []
  /-- The timers whose callbacks were called, and when. -/
  called : List (Nat × Int) := []
deriving DecidableEq

namespace TimerManager

/-- A timer is created with the address that its message is given. -/
inductive Op
  | create (timerSpecification : TimerSpecification) (message : Nat)
  | cancel (handle : Nat)
deriving DecidableEq, Repr

inductive Event
  | advance (time : Int)
  | act (op : Op)
  | handleMessage (handle : Nat) (callback : List Op)
deriving DecidableEq, Repr

/-- `timers_.find(timerMessage)`. -/
def findMessage (s : TimerManager) (message : Nat) : Option (Nat × Timer) :=
  s.timers_.entries.find? fun e => e.2.message = message

/-- An address in use is not given out again. -/
def create (s : TimerManager) (timerSpecification : TimerSpecification) (message : Nat) :
    Except Halt TimerManager :=
  if timerSpecification.valid then
    let spec := timerSpecification.finalize s.simTime
    if (s.findMessage message).isSome then .error .notEnabled
    else if spec.start < s.simTime then
      .error (.cRuntimeError "Cannot schedule message to the past")
    else .ok { s with
      timers_ := s.timers_.insert s.created.length ⟨spec, message, spec.start⟩
      created := s.created ++ [spec] }
  else .error (.cRuntimeError "ASSERT: timerSpecification.valid()")

/-- Timers that have expired are ignored. -/
def cancel (s : TimerManager) (handle : Nat) : TimerManager :=
  if (s.timers_.find? handle).isSome then
    { s with timers_ := s.timers_.erase handle, cancelled := s.cancelled ++ [handle] }
  else s

def act (s : TimerManager) : Op → Except Halt TimerManager
  | .create timerSpecification message => s.create timerSpecification message
  | .cancel handle => .ok (s.cancel handle)

/-- What `handleMessage` does after the callback: the timer that is found is scheduled again,
or has expired. The message of a new timer is scheduled already. -/
def afterCallback (s : TimerManager) (handle message : Nat) : Except Halt TimerManager :=
  let s := { s with called := s.called ++ [(handle, s.simTime)] }
  match s.findMessage message with
  | none => .ok s
  | some (found, timer) =>
      let nextEvent := s.simTime + timer.spec.period
      if timer.spec.validOccurence nextEvent then
        if found = handle then
          .ok { s with timers_ := s.timers_.insert found { timer with due := nextEvent } }
        else .error (.cRuntimeError "scheduleAt(): Message is already scheduled")
      else .ok { s with timers_ := s.timers_.erase found }

/-- The message of a timer arrives; the callback is what it creates and cancels. -/
def handleMessage (s : TimerManager) (handle : Nat) (callback : List Op) :
    Except Halt TimerManager :=
  match s.timers_.find? handle with
  | none => .error .notEnabled
  | some timer =>
      if timer.due ≠ s.simTime then .error .notEnabled
      else if timer.spec.valid && timer.spec.validOccurence s.simTime then
        (run act s callback).bind fun s => s.afterCallback handle timer.message
      else .error (.cRuntimeError "ASSERT: timer->second.valid() && validOccurence(simTime())")

/-- Time goes on up to the next message at most. -/
def step (s : TimerManager) : Event → Except Halt TimerManager
  | .advance time =>
      if s.simTime ≤ time ∧ ∀ e ∈ s.timers_.entries, time ≤ e.2.due then
        .ok { s with simTime := time }
      else .error .notEnabled
  | .act op => s.act op
  | .handleMessage handle callback => s.handleMessage handle callback

def Op.isCreate : Op → Bool
  | create _ _ => true
  | cancel _ => false

/-- A callback creates a timer after it has cancelled its own. -/
def createsAfterCancel (handle : Nat) : List Op → Bool
  | [] => false
  | .create _ _ :: ops => createsAfterCancel handle ops
  | .cancel cancelled :: ops =>
      (cancelled = handle && ops.any Op.isCreate) || createsAfterCancel handle ops

/-- The address of a timer may be given to another one during its callback. -/
def Event.replacesOwn : Event → Bool
  | handleMessage handle callback => createsAfterCancel handle callback
  | _ => false

def callsOf (s : TimerManager) (handle : Nat) : List Int :=
  (s.called.filter fun call => call.1 = handle).map Prod.snd

/-! ### The invariant -/

/-- The callbacks of a timer that was created with the given specification. -/
structure Regular (s : TimerManager) (handle : Nat) (spec : TimerSpecification) : Prop where
  pos : 0 < spec.period
  calls : s.callsOf handle = (List.range (s.callsOf handle).length).map spec.occurrence
  valid : ∀ t ∈ s.callsOf handle, spec.validOccurence t = true ∧ t ≤ s.simTime
  live : ∀ timer, s.timers_.find? handle = some timer → timer.spec = spec ∧
    timer.due = spec.occurrence (s.callsOf handle).length ∧ s.simTime ≤ timer.due ∧
    handle ∉ s.cancelled
  gone : s.timers_.find? handle = none → handle ∈ s.cancelled ∨
    spec.validOccurence (spec.occurrence (s.callsOf handle).length) = false

structure Timely (s : TimerManager) : Prop where
  separate : ∀ e ∈ s.timers_.entries, ∀ e' ∈ s.timers_.entries,
    e.2.message = e'.2.message → e.1 = e'.1
  regular : ∀ handle spec, s.created[handle]? = some spec → s.Regular handle spec
  unborn : ∀ handle, s.created.length ≤ handle →
    s.timers_.find? handle = none ∧ handle ∉ s.cancelled ∧ s.callsOf handle = []

variable {s s' : TimerManager} {handle : Nat} {spec : TimerSpecification} {t : Int}

theorem Timely.initial : Timely {} where
  separate := fun e he => absurd he List.not_mem_nil
  regular := fun handle spec h => by
    dsimp only at h
    rw [List.getElem?_nil] at h
    cases h
  unborn := fun _ _ => ⟨rfl, List.not_mem_nil, rfl⟩

theorem Timely.spec_of_find? (h : s.Timely) {timer : Timer}
    (hfind : s.timers_.find? handle = some timer) : s.created[handle]? = some timer.spec := by
  by_cases hlt : handle < s.created.length
  · have hget := List.getElem?_eq_getElem hlt
    rw [hget, ((h.regular handle _ hget).live timer hfind).1]
  · have hnone := (h.unborn handle (Nat.le_of_not_lt hlt)).1
    rw [hfind] at hnone
    cases hnone

theorem Regular.congr (h : s.Regular handle spec) (hcalls : s'.callsOf handle = s.callsOf handle)
    (hfind : s'.timers_.find? handle = s.timers_.find? handle)
    (hcancelled : handle ∈ s'.cancelled ↔ handle ∈ s.cancelled) (htime : s'.simTime = s.simTime) :
    s'.Regular handle spec where
  pos := h.pos
  calls := by rw [hcalls]; exact h.calls
  valid := by rw [hcalls, htime]; exact h.valid
  live := by rw [hcalls, hfind, htime, hcancelled]; exact h.live
  gone := by rw [hcalls, hfind, hcancelled]; exact h.gone

/-- A timer that has just been created has had no callback. -/
theorem Timely.regular_new (h : s.Timely) (hpos : 0 < spec.period)
    (hstart : s.simTime ≤ spec.start) (message : Nat) :
    Regular { s with
      timers_ := s.timers_.insert s.created.length ⟨spec, message, spec.start⟩
      created := s.created ++ [spec] } s.created.length spec := by
  obtain ⟨-, hcancelled, hcalls⟩ := h.unborn _ (Nat.le_refl _)
  have hnone : callsOf { s with
      timers_ := s.timers_.insert s.created.length ⟨spec, message, spec.start⟩
      created := s.created ++ [spec] } s.created.length = [] := hcalls
  refine ⟨hpos, ?_, ?_, fun timer hfind => ?_, fun hfind => ?_⟩
  · rw [hnone]
    rfl
  · rw [hnone]
    exact fun t ht => absurd ht List.not_mem_nil
  · dsimp only at hfind
    rw [OrderedMap.find?_insert_self] at hfind
    obtain rfl := Option.some.inj hfind
    rw [hnone]
    exact ⟨rfl, TimerSpecification.occurrence_zero.symm, hstart, hcancelled⟩
  · dsimp only at hfind
    rw [OrderedMap.find?_insert_self] at hfind
    cases hfind

/-- Entries with one message are one entry, also after one with a message of its own. -/
theorem separate_insert {timers : OrderedMap Nat Timer} {timer : Timer}
    (h : ∀ e ∈ timers.entries, ∀ e' ∈ timers.entries, e.2.message = e'.2.message → e.1 = e'.1)
    (hown : ∀ e ∈ timers.entries, e.2.message = timer.message → e.1 = handle) :
    ∀ e ∈ (timers.insert handle timer).entries, ∀ e' ∈ (timers.insert handle timer).entries,
      e.2.message = e'.2.message → e.1 = e'.1 := by
  have hcases : ∀ e ∈ (timers.insert handle timer).entries,
      e = (handle, timer) ∨ e ∈ timers.entries := by
    intro e he
    rcases List.mem_append.mp he with hbefore | hafter
    · exact .inr (List.mem_of_mem_filter hbefore)
    · rcases List.mem_cons.mp hafter with heq | hafter
      · exact .inl heq
      · exact .inr (List.mem_of_mem_filter hafter)
  intro e he e' he' hmessage
  rcases hcases e he with rfl | he <;> rcases hcases e' he' with rfl | he'
  · rfl
  · exact (hown e' he' hmessage.symm).symm
  · exact hown e he hmessage
  · exact h e he e' he' hmessage

theorem mem_of_mem_erase {timers : OrderedMap Nat Timer} {e : Nat × Timer}
    (he : e ∈ (timers.erase handle).entries) : e ∈ timers.entries :=
  List.mem_of_mem_filter he

theorem find?_cancel (s : TimerManager) (other : Nat) : (s.cancel other).timers_.find? handle =
    if handle = other then none else s.timers_.find? handle := by
  unfold TimerManager.cancel
  split
  · exact OrderedMap.find?_erase
  · rename_i hnone
    split
    · rename_i heq
      subst heq
      exact Option.not_isSome_iff_eq_none.mp hnone
    · rfl

theorem mem_of_mem_cancel {other : Nat} {e : Nat × Timer}
    (he : e ∈ (s.cancel other).timers_.entries) : e ∈ s.timers_.entries := by
  unfold TimerManager.cancel at he
  split at he
  · exact mem_of_mem_erase he
  · exact he

theorem not_message_of_findMessage {message : Nat} (h : (s.findMessage message).isSome = false) :
    ∀ e ∈ s.timers_.entries, e.2.message ≠ message := by
  unfold findMessage at h
  rw [Option.isSome_eq_false_iff, Option.isNone_iff_eq_none, List.find?_eq_none] at h
  exact fun e he heq => h e he (decide_eq_true heq)

theorem Timely.insert (h : s.Timely) (hpos : 0 < spec.period) (hstart : s.simTime ≤ spec.start)
    {message : Nat} (hfree : ∀ e ∈ s.timers_.entries, e.2.message ≠ message) :
    Timely { s with
      timers_ := s.timers_.insert s.created.length ⟨spec, message, spec.start⟩
      created := s.created ++ [spec] } := by
  refine ⟨separate_insert h.separate fun e he heq => absurd heq (hfree e he),
    fun handle spec' hget => ?_, fun handle hle => ?_⟩
  · dsimp only at hget
    by_cases hnew : handle = s.created.length
    · subst hnew
      rw [List.getElem?_concat_length] at hget
      obtain rfl := Option.some.inj hget
      exact h.regular_new hpos hstart message
    · have hlt : handle < s.created.length := by
        obtain ⟨hlt, -⟩ := List.getElem?_eq_some_iff.mp hget
        rw [List.length_append, List.length_singleton] at hlt
        omega
      rw [List.getElem?_append_left hlt] at hget
      exact (h.regular handle spec' hget).congr rfl (OrderedMap.find?_insert_ne hnew) Iff.rfl rfl
  · rw [List.length_append, List.length_singleton] at hle
    obtain ⟨hfind, hrest⟩ := h.unborn handle (by omega)
    exact ⟨(OrderedMap.find?_insert_ne (by omega)).trans hfind, hrest⟩

theorem Timely.create (h : s.Timely) {timerSpecification : TimerSpecification} {message : Nat}
    (hstep : s.create timerSpecification message = .ok s') :
    s'.Timely ∧ s'.simTime = s.simTime ∧ s'.called = s.called ∧ s.created <+: s'.created := by
  unfold TimerManager.create at hstep
  split at hstep
  · rename_i hvalid
    dsimp only at hstep
    split at hstep
    · cases hstep
    · rename_i hfree
      split at hstep
      · cases hstep
      · rename_i hpast
        obtain rfl := Except.ok.inj hstep
        have hpos : 0 < (timerSpecification.finalize s.simTime).period := by
          rw [TimerSpecification.period_finalize]
          exact TimerSpecification.period_pos hvalid
        have hmessages := not_message_of_findMessage (Bool.eq_false_of_not_eq_true hfree)
        exact ⟨h.insert hpos (Int.not_lt.mp hpast) hmessages, rfl, rfl, List.prefix_append _ _⟩
  · cases hstep

theorem Timely.cancel (h : s.Timely) (handle : Nat) :
    (s.cancel handle).Timely ∧ (s.cancel handle).simTime = s.simTime ∧
      (s.cancel handle).called = s.called ∧ s.created <+: (s.cancel handle).created := by
  unfold TimerManager.cancel
  split
  · rename_i hsome
    refine ⟨⟨fun e he e' he' => h.separate e (mem_of_mem_erase he) e' (mem_of_mem_erase he'),
      fun other spec hget => ?_, fun other hle => ?_⟩, rfl, rfl, List.prefix_rfl⟩
    · by_cases heq : other = handle
      · subst heq
        have hregular := h.regular other spec hget
        refine ⟨hregular.pos, hregular.calls, hregular.valid, fun timer hfind => ?_, fun _ => ?_⟩
        · dsimp only at hfind
          rw [OrderedMap.find?_erase, if_pos rfl] at hfind
          cases hfind
        · exact .inl (List.mem_append_right _ List.mem_cons_self)
      · refine (h.regular other spec hget).congr rfl ?_ ?_ rfl
        · rw [OrderedMap.find?_erase, if_neg heq]
        · rw [List.mem_append, List.mem_singleton, or_iff_left heq]
    · obtain ⟨hfind, hcancelled, hcalls⟩ := h.unborn other hle
      have hne : other ≠ handle := by
        rintro rfl
        rw [hfind] at hsome
        cases hsome
      refine ⟨?_, ?_, hcalls⟩
      · rw [OrderedMap.find?_erase, if_neg hne, hfind]
      · rw [List.mem_append, List.mem_singleton, or_iff_left hne]
        exact hcancelled
  · exact ⟨h, rfl, rfl, List.prefix_rfl⟩

theorem Timely.act (h : s.Timely) {op : Op} (hstep : s.act op = .ok s') :
    s'.Timely ∧ s'.simTime = s.simTime ∧ s'.called = s.called ∧ s.created <+: s'.created := by
  cases op with
  | create timerSpecification message => exact h.create hstep
  | cancel handle =>
      obtain rfl := Except.ok.inj hstep
      exact h.cancel handle

/-- A callback calls no other. -/
theorem Timely.callback (h : s.Timely) {ops : List Op}
    (hrun : run TimerManager.act s ops = .ok s') :
    s'.Timely ∧ s'.simTime = s.simTime ∧ s'.called = s.called ∧ s.created <+: s'.created := by
  induction ops generalizing s with
  | nil =>
      obtain rfl := Except.ok.inj hrun
      exact ⟨h, rfl, rfl, List.prefix_rfl⟩
  | cons op ops ih =>
      obtain ⟨s₁, hop, hrest⟩ := run_cons_inv hrun
      obtain ⟨h₁, htime₁, hcalled₁, hcreated₁⟩ := h.act hop
      obtain ⟨h₂, htime₂, hcalled₂, hcreated₂⟩ := ih h₁ hrest
      exact ⟨h₂, htime₂.trans htime₁, hcalled₂.trans hcalled₁, hcreated₁.trans hcreated₂⟩

theorem callsOf_append {t : Int} (hcalled : s'.called = s.called ++ [(handle, t)]) (other : Nat) :
    s'.callsOf other = s.callsOf other ++ if other = handle then [t] else [] := by
  unfold callsOf
  rw [hcalled, List.filter_append, List.map_append, List.filter_singleton]
  by_cases heq : other = handle
  · subst heq
    rw [if_pos rfl, decide_eq_true rfl]
    rfl
  · rw [if_neg heq, decide_eq_false (Ne.symm heq)]
    rfl

/-- One more callback, after which the timer is scheduled for the next occurrence, or is gone
for a reason. -/
theorem Regular.calledBack (h : s.Regular handle spec) {timers : OrderedMap Nat Timer}
    (hnow : s.simTime = spec.occurrence (s.callsOf handle).length)
    (hvalid : spec.validOccurence s.simTime = true)
    (hlive : ∀ timer, timers.find? handle = some timer → timer.spec = spec ∧
      timer.due = s.simTime + spec.period ∧ handle ∉ s.cancelled)
    (hgone : timers.find? handle = none → handle ∈ s.cancelled ∨
      spec.validOccurence (s.simTime + spec.period) = false) :
    Regular { s with called := s.called ++ [(handle, s.simTime)], timers_ := timers }
      handle spec := by
  have hpos := h.pos
  have hnext : spec.occurrence ((s.callsOf handle).length + 1) = s.simTime + spec.period := by
    rw [TimerSpecification.occurrence_succ, hnow]
  have hcalls : callsOf { s with
      called := s.called ++ [(handle, s.simTime)], timers_ := timers } handle =
        s.callsOf handle ++ [s.simTime] := by
    rw [callsOf_append rfl, if_pos rfl]
  refine ⟨hpos, ?_, ?_, fun timer hfind => ?_, fun hfind => ?_⟩
  · rw [hcalls, List.length_append, List.length_singleton, List.range_succ, List.map_append,
      ← h.calls, List.map_singleton, ← hnow]
  · rw [hcalls]
    intro t ht
    rcases List.mem_append.mp ht with hold | hlast
    · exact h.valid t hold
    · obtain rfl := List.mem_singleton.mp hlast
      exact ⟨hvalid, Int.le_refl _⟩
  · obtain ⟨hspec, hdue, hcancelled⟩ := hlive timer hfind
    rw [hcalls, List.length_append, List.length_singleton, hnext]
    refine ⟨hspec, hdue, ?_, hcancelled⟩
    dsimp only
    omega
  · rw [hcalls, List.length_append, List.length_singleton, hnext]
    exact hgone hfind

/-! ### The timer after its callback -/

/-- The timers after the callback of one of them: it is scheduled again, has expired or is
cancelled. -/
inductive Rescheduled (s : TimerManager) (handle : Nat) : OrderedMap Nat Timer → Prop
  | again {timer : Timer} (hfind : s.timers_.find? handle = some timer)
      (hnext : timer.spec.validOccurence (s.simTime + timer.spec.period) = true) :
      Rescheduled s handle
        (s.timers_.insert handle { timer with due := s.simTime + timer.spec.period })
  | expired {timer : Timer} (hfind : s.timers_.find? handle = some timer)
      (hnext : timer.spec.validOccurence (s.simTime + timer.spec.period) = false) :
      Rescheduled s handle (s.timers_.erase handle)
  | cancelled (hfind : s.timers_.find? handle = none) : Rescheduled s handle s.timers_

/-- The address leads to the timer itself if there still is one, and to no other. -/
def FindsOwn (s : TimerManager) (handle message : Nat) : Prop :=
  s.findMessage message = (s.timers_.find? handle).map (Prod.mk handle)

theorem Timely.findsOwn (h : s.Timely) {timer : Timer}
    (hfind : s.timers_.find? handle = some timer) : s.FindsOwn handle timer.message := by
  have hmem := OrderedMap.find?_eq_some_iff.mp hfind
  unfold FindsOwn findMessage
  rw [hfind]
  cases hmessage : s.timers_.entries.find? fun e => decide (e.2.message = timer.message) with
  | none =>
      have hnone := List.find?_eq_none.mp hmessage _ hmem
      exact absurd (decide_eq_true rfl) hnone
  | some e =>
      have hsame : e.2.message = timer.message := by simpa using List.find?_some hmessage
      obtain ⟨found, timer'⟩ := e
      have hfound := List.mem_of_find?_eq_some hmessage
      obtain rfl : found = handle := h.separate _ hfound _ hmem hsame
      rw [OrderedMap.find?_eq_some_iff.mpr hfound] at hfind
      rw [Option.some.inj hfind]
      rfl

theorem findsOwn_of_gone {message : Nat} (hfind : s.timers_.find? handle = none)
    (hmessages : ∀ e ∈ s.timers_.entries, e.2.message ≠ message) : s.FindsOwn handle message := by
  unfold FindsOwn findMessage
  rw [hfind, Option.map_none, List.find?_eq_none]
  exact fun e he heq => hmessages e he (of_decide_eq_true heq)

theorem gone_of_run {ops : List Op} {message : Nat} (hops : ops.any Op.isCreate = false)
    (hfind : s.timers_.find? handle = none)
    (hmessages : ∀ e ∈ s.timers_.entries, e.2.message ≠ message)
    (hrun : run TimerManager.act s ops = .ok s') : s'.FindsOwn handle message := by
  induction ops generalizing s with
  | nil =>
      obtain rfl := Except.ok.inj hrun
      exact findsOwn_of_gone hfind hmessages
  | cons op ops ih =>
      rw [List.any_cons, Bool.or_eq_false_iff] at hops
      obtain ⟨s₁, hop, hrest⟩ := run_cons_inv hrun
      cases op with
      | create timerSpecification address => cases hops.1
      | cancel other =>
          obtain rfl := Except.ok.inj hop
          refine ih hops.2 ?_ (fun e he => hmessages e (mem_of_mem_cancel he)) hrest
          rw [find?_cancel, hfind, ite_self]

/-- A callback that creates no timer after it has cancelled its own leaves the address of the
timer to it. -/
theorem Timely.findsOwn_of_callback (h : s.Timely) {timer : Timer} {ops : List Op}
    (hfind : s.timers_.find? handle = some timer) (hops : createsAfterCancel handle ops = false)
    (hrun : run TimerManager.act s ops = .ok s') : s'.FindsOwn handle timer.message := by
  induction ops generalizing s with
  | nil =>
      obtain rfl := Except.ok.inj hrun
      exact h.findsOwn hfind
  | cons op ops ih =>
      obtain ⟨s₁, hop, hrest⟩ := run_cons_inv hrun
      obtain ⟨h₁, -, -, -⟩ := h.act hop
      cases op with
      | create timerSpecification address =>
          refine ih h₁ ?_ hops hrest
          have hlt : handle < s.created.length := by
            by_contra hge
            rw [(h.unborn handle (Nat.le_of_not_lt hge)).1] at hfind
            cases hfind
          unfold TimerManager.act TimerManager.create at hop
          dsimp only at hop
          split_ifs at hop
          obtain rfl := Except.ok.inj hop
          exact (OrderedMap.find?_insert_ne (Nat.ne_of_lt hlt)).trans hfind
      | cancel other =>
          unfold createsAfterCancel at hops
          rw [Bool.or_eq_false_iff] at hops
          obtain rfl := Except.ok.inj hop
          by_cases hown : other = handle
          · subst hown
            have hrest' : ops.any Op.isCreate = false := by simpa using hops.1
            have hgone : (s.cancel other).timers_.find? other = none := by
              rw [find?_cancel, if_pos rfl]
            refine gone_of_run hrest' hgone (fun e he heq => ?_) hrest
            have hkey : e.1 = other := h.separate e (mem_of_mem_cancel he) _
              (OrderedMap.find?_eq_some_iff.mp hfind) heq
            have hkept := OrderedMap.find?_eq_some_iff.mpr he
            rw [hkey, hgone] at hkept
            cases hkept
          · refine ih h₁ ?_ hops.2 hrest
            rw [find?_cancel, if_neg (Ne.symm hown), hfind]

theorem rescheduled_of_afterCallback {message : Nat} (hown : s.FindsOwn handle message)
    (hstep : s.afterCallback handle message = .ok s') : ∃ timers, s.Rescheduled handle timers ∧
      s' = { s with called := s.called ++ [(handle, s.simTime)], timers_ := timers } := by
  have hfound : findMessage { s with called := s.called ++ [(handle, s.simTime)] } message =
      (s.timers_.find? handle).map (Prod.mk handle) := hown
  unfold afterCallback at hstep
  dsimp only at hstep
  rw [hfound] at hstep
  cases hfind : s.timers_.find? handle with
  | none =>
      rw [hfind] at hstep
      exact ⟨_, .cancelled hfind, (Except.ok.inj hstep).symm⟩
  | some timer =>
      rw [hfind] at hstep
      dsimp only [Option.map_some] at hstep
      split at hstep
      · rename_i hnext
        rw [if_pos rfl] at hstep
        exact ⟨_, .again hfind hnext, (Except.ok.inj hstep).symm⟩
      · rename_i hlast
        exact ⟨_, .expired hfind (Bool.eq_false_of_not_eq_true hlast), (Except.ok.inj hstep).symm⟩

/-- The callback of a timer whose message arrived is over. -/
theorem Regular.rescheduled (h : s.Regular handle spec) {timers : OrderedMap Nat Timer}
    (hnow : s.simTime = spec.occurrence (s.callsOf handle).length)
    (hvalid : spec.validOccurence s.simTime = true) (htimers : s.Rescheduled handle timers) :
    Regular { s with called := s.called ++ [(handle, s.simTime)], timers_ := timers }
      handle spec := by
  cases htimers with
  | @again timer hfind hnext =>
      obtain ⟨hspec, -, -, hcancelled⟩ := h.live timer hfind
      refine h.calledBack hnow hvalid (fun timer' hsome => ?_) fun hnone => ?_
      · rw [OrderedMap.find?_insert_self] at hsome
        obtain rfl := Option.some.inj hsome
        exact ⟨hspec, by rw [hspec], hcancelled⟩
      · rw [OrderedMap.find?_insert_self] at hnone
        cases hnone
  | @expired timer hfind hnext =>
      rw [(h.live timer hfind).1] at hnext
      refine h.calledBack hnow hvalid (fun timer' hsome => ?_) fun _ => .inr hnext
      rw [OrderedMap.find?_erase, if_pos rfl] at hsome
      cases hsome
  | cancelled hfind =>
      have hcancelled : handle ∈ s.cancelled := by
        rcases h.gone hfind with hcancelled | hfalse
        · exact hcancelled
        · rw [← hnow, hvalid] at hfalse
          cases hfalse
      refine h.calledBack hnow hvalid (fun timer hsome => ?_) fun _ => .inl hcancelled
      rw [hfind] at hsome
      cases hsome

theorem Rescheduled.frame {timers : OrderedMap Nat Timer} (h : s.Rescheduled handle timers)
    {other : Nat} (hne : other ≠ handle) : timers.find? other = s.timers_.find? other := by
  cases h with
  | again hfind hnext => exact OrderedMap.find?_insert_ne hne
  | expired hfind hnext => rw [OrderedMap.find?_erase, if_neg hne]
  | cancelled hfind => rfl

theorem Timely.rescheduled (h : s.Timely) {timers : OrderedMap Nat Timer}
    (hget : s.created[handle]? = some spec)
    (hnow : s.simTime = spec.occurrence (s.callsOf handle).length)
    (hvalid : spec.validOccurence s.simTime = true) (htimers : s.Rescheduled handle timers) :
    Timely { s with called := s.called ++ [(handle, s.simTime)], timers_ := timers } := by
  have hframe : ∀ other ≠ handle, callsOf
      { s with called := s.called ++ [(handle, s.simTime)], timers_ := timers } other =
        s.callsOf other := by
    intro other hne
    rw [callsOf_append rfl, if_neg hne, List.append_nil]
  refine ⟨?_, fun other spec' hother => ?_, fun other hle => ?_⟩
  · cases htimers with
    | again hfind hnext =>
        exact separate_insert h.separate fun e he heq =>
          h.separate e he _ (OrderedMap.find?_eq_some_iff.mp hfind) heq
    | expired hfind hnext =>
        exact fun e he e' he' => h.separate e (mem_of_mem_erase he) e' (mem_of_mem_erase he')
    | cancelled hfind => exact h.separate
  · by_cases heq : other = handle
    · subst heq
      obtain rfl := Option.some.inj (hget.symm.trans hother)
      exact (h.regular other _ hget).rescheduled hnow hvalid htimers
    · exact (h.regular other spec' hother).congr (hframe other heq) (htimers.frame heq) Iff.rfl rfl
  · obtain ⟨hlt, -⟩ := List.getElem?_eq_some_iff.mp hget
    have hne : other ≠ handle := Nat.ne_of_gt (Nat.lt_of_lt_of_le hlt hle)
    obtain ⟨hfind, hcancelled, hcalls⟩ := h.unborn other hle
    exact ⟨(htimers.frame hne).trans hfind, hcancelled, (hframe other hne).trans hcalls⟩

theorem Timely.handleMessage (h : s.Timely) {callback : List Op}
    (hops : createsAfterCancel handle callback = false)
    (hstep : s.handleMessage handle callback = .ok s') : s'.Timely := by
  unfold TimerManager.handleMessage at hstep
  cases hfind : s.timers_.find? handle with
  | none =>
      rw [hfind] at hstep
      cases hstep
  | some timer =>
      rw [hfind] at hstep
      dsimp only at hstep
      split at hstep
      · cases hstep
      · rename_i hdue
        split at hstep
        · rename_i hassert
          obtain ⟨s₁, hrun, hafter⟩ := bind_ok_inv hstep
          obtain ⟨-, hvalid⟩ := Bool.and_eq_true_iff.mp hassert
          obtain ⟨h₁, htime, hcalled, hcreated⟩ := h.callback hrun
          have hget := h.spec_of_find? hfind
          have hget₁ : s₁.created[handle]? = some timer.spec := by
            obtain ⟨later, hlater⟩ := hcreated
            obtain ⟨hlt, -⟩ := List.getElem?_eq_some_iff.mp hget
            rw [← hlater, List.getElem?_append_left hlt, hget]
          have hcalls : s₁.callsOf handle = s.callsOf handle := by
            unfold callsOf
            rw [hcalled]
          have hnow : s₁.simTime = timer.spec.occurrence (s₁.callsOf handle).length := by
            rw [htime, hcalls, ← ((h.regular handle _ hget).live timer hfind).2.1]
            exact (not_not.mp hdue).symm
          obtain ⟨timers, htimers, rfl⟩ := rescheduled_of_afterCallback
            (h.findsOwn_of_callback hfind hops hrun) hafter
          exact h₁.rescheduled hget₁ hnow (htime ▸ hvalid) htimers
        · cases hstep

theorem Timely.step (h : s.Timely) {e : Event} (hown : e.replacesOwn = false)
    (hstep : s.step e = .ok s') : s'.Timely := by
  cases e with
  | advance time =>
      unfold TimerManager.step at hstep
      dsimp only at hstep
      split at hstep
      · rename_i henabled
        obtain ⟨hle, hdue⟩ := henabled
        obtain rfl := Except.ok.inj hstep
        refine ⟨h.separate, fun handle spec hget => ?_, h.unborn⟩
        have hregular := h.regular handle spec hget
        refine ⟨hregular.pos, hregular.calls, fun t ht => ?_, fun timer hfind => ?_, hregular.gone⟩
        · obtain ⟨hvalid, hpast⟩ := hregular.valid t ht
          exact ⟨hvalid, Int.le_trans hpast hle⟩
        · obtain ⟨hspec, hocc, -, hcancelled⟩ := hregular.live timer hfind
          exact ⟨hspec, hocc, hdue _ (OrderedMap.find?_eq_some_iff.mp hfind), hcancelled⟩
      · cases hstep
  | act op => exact (h.act hstep).1
  | handleMessage handle callback => exact h.handleMessage hown hstep

/-! ### Runs -/

theorem timely_of_run {events : List Event} (hown : ∀ e ∈ events, e.replacesOwn = false)
    (hrun : run step {} events = .ok s) : s.Timely := by
  have halong : Along step (fun _ e => e.replacesOwn = false) {} events :=
    along_of_forall_mem (fun e he _ => hown e he) _
  exact run_invariant (fun _ _ _ h hown hstep => h.step hown hstep) .initial halong hrun

/-- In any run in which no callback creates a timer after it has cancelled its own, whatever
the callbacks create and cancel otherwise, the callbacks of a timer are at its start and then
one period after the other, at valid times only, and a timer that was not cancelled has been
called back at every valid time before now. -/
theorem callbacks_regular {events : List Event} (hown : ∀ e ∈ events, e.replacesOwn = false)
    (hrun : run step {} events = .ok s) (hcreated : s.created[handle]? = some spec) :
    s.callsOf handle = (List.range (s.callsOf handle).length).map spec.occurrence ∧
      (∀ t ∈ s.callsOf handle, spec.validOccurence t = true ∧ t ≤ s.simTime) ∧
      (handle ∉ s.cancelled → ∀ t < s.simTime, spec.validOccurence t = true →
        t ∈ s.callsOf handle) := by
  have h := (timely_of_run hown hrun).regular handle spec hcreated
  refine ⟨h.calls, h.valid, fun hcancelled t hpast hvalid => ?_⟩
  obtain ⟨-, k, rfl⟩ := (TimerSpecification.validOccurence_iff h.pos).mp hvalid
  have hlt : k < (s.callsOf handle).length := by
    by_contra hge
    have hle := Nat.le_of_not_lt hge
    cases hfind : s.timers_.find? handle with
    | none =>
        have hfalse := (h.gone hfind).resolve_left hcancelled
        rw [TimerSpecification.validOccurence_of_le h.pos hle hvalid] at hfalse
        cases hfalse
    | some timer =>
        obtain ⟨-, hdue, hnow, -⟩ := h.live timer hfind
        have hocc := (TimerSpecification.occurrence_le_iff h.pos).mpr hle
        omega
  rw [h.calls]
  exact List.mem_map.mpr ⟨k, List.mem_range.mpr hlt, rfl⟩

/-- The callback of the first timer cancels it and creates another one, whose message is given
the address of the first. -/
def replaced : List Event :=
  [.act (.create { period := 5, checked := by decide } 40), .advance 5,
    .handleMessage 0 [.cancel 0, .create
      { startMode := .relative, start := 5, endMode := .repetition, endCount := 1, period := 7
        checked := by decide } 40]]

/-- The new timer is taken for the old one, and is lost. -/
example : (run step {} replaced).toOption.map
    (fun s => (s.created.length, s.timers_.entries.length, s.cancelled)) = some (2, 0, [0]) := by
  decide +kernel

/-- A timer with two repetitions, and another one that its first callback cancels. -/
def twoTimers : List Event :=
  [.act (.create { endMode := .repetition, endCount := 2, period := 5, checked := by decide } 40),
    .act (.create { startMode := .absolute, start := 7, period := 3, checked := by decide } 80),
    .advance 5, .handleMessage 0 [.cancel 1], .advance 10, .handleMessage 0 [], .advance 12]

def twice : TimerSpecification :=
  { start := 5, endMode := .absolute, endCount := 2, endTime := 10, period := 5
    checked := by decide }

theorem callbacks_regular_twoTimers :
    ∃ s, run step {} twoTimers = .ok s ∧ (s.callsOf 0 = [5, 10] ∧ s.cancelled = [1]) ∧
      ∀ t < s.simTime, twice.validOccurence t = true → t ∈ s.callsOf 0 := by
  obtain ⟨s, hrun, hvalues⟩ : ∃ s, run step {} twoTimers = .ok s ∧
      (s.callsOf 0, s.cancelled, s.created[0]?) = ([5, 10], [1], some twice) :=
    exists_of_run_map (by decide +kernel)
  simp only [Prod.mk.injEq] at hvalues
  obtain ⟨hcalls, hcancelled, hcreated⟩ := hvalues
  refine ⟨s, hrun, ⟨hcalls, hcancelled⟩, (callbacks_regular (by decide) hrun hcreated).2.2 ?_⟩
  rw [hcancelled]
  decide

end TimerManager

end MultiTechBus.Veins
