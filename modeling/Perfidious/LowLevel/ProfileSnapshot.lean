import Perfidious.LowLevel.ThreadProfile

/-! The snapshots of a thread profile: what the three loops of `ThreadProfile::read` over the hardware
counters report, over an array of values that nothing initialises. -/
namespace Perfidious.Windows
open Library

/-- The mask test reads one bit. -/
theorem selected_eq (mask : UInt64) (i : CounterIndex) : selected mask i = mask.toNat.testBit i.val := by
  have hbit : ∀ i : CounterIndex, (1 <<< i.val.toUInt64 : UInt64).toNat = 2^i.val := by decide
  rw [selected, Bool.eq_iff_iff, bne_iff_ne, ← and_two_pow_ne_zero_iff, ne_eq, ← UInt64.toNat_inj,
    UInt64.toNat_and, hbit]
  rfl

theorem uint64ToZendLong_cases (value : UInt64) :
    (value.toNat ≤ zendLongMax ∧ uint64ToZendLong value = .ok value.toNat) ∨
    (zendLongMax < value.toNat ∧ uint64ToZendLong value = .error (counterTooLarge value)) := by
  by_cases h : value.toNat ≤ zendLongMax
  · exact .inl ⟨h,uint64ToZendLong_eq_ok h⟩
  · exact .inr ⟨not_le.mp h,if_pos (not_le.mp h)⟩

namespace ThreadProfileObj

/-- The counts of a counter since its origin, modulo `2^64`. -/
def counted (obj : ThreadProfileObj) (data : ProfilingData) (i : CounterIndex) : UInt64 :=
  (data.hwCounters i).value - obj.hardwareCounterOrigins i

variable {obj : ThreadProfileObj} {data : ProfilingData}

theorem counterValues_cons (i : CounterIndex) (is : List CounterIndex) (values : CounterIndex → ℤ) :
    obj.counterValues data (i::is) values =
      if selected obj.hardwareCounterMask i then
        match uint64ToZendLong (obj.counted data i) with
        | .error e => .error e
        | .ok value => obj.counterValues data is (Function.update values i value)
      else obj.counterValues data is values := rfl

/-- The counters of the mask in the order of their indices, with their counts. -/
def requested (obj : ThreadProfileObj) (data : ProfilingData) (is : List CounterIndex) :
    List (CounterIndex × HwCounter) :=
  (is.filter (selected obj.hardwareCounterMask)).map fun i => (i,⟨(data.hwCounters i).type,obj.counted data i⟩)

/-- A count that is no PHP integer. -/
def tooLarge (e : CounterIndex × HwCounter) : Bool := zendLongMax < e.2.value.toNat

theorem requested_cons_of_selected {i : CounterIndex} (h : selected obj.hardwareCounterMask i = true)
    (is : List CounterIndex) :
    obj.requested data (i::is) =
      (i,⟨(data.hwCounters i).type,obj.counted data i⟩) :: obj.requested data is := by
  rw [requested, List.filter_cons_of_pos h, List.map_cons]
  rfl

theorem requested_cons_of_not_selected {i : CounterIndex}
    (h : ¬selected obj.hardwareCounterMask i = true) (is : List CounterIndex) :
    obj.requested data (i::is) = obj.requested data is := by
  rw [requested, List.filter_cons_of_neg h]
  rfl

/-- The value loop fails with the first requested count that is no PHP integer; otherwise it has written
every requested value and nothing else. -/
theorem counterValues_eq {is : List CounterIndex} (his : is.Nodup) (values : CounterIndex → ℤ) :
    obj.counterValues data is values =
      match (obj.requested data is).find? tooLarge with
      | some e => .error (counterTooLarge e.2.value)
      | none => .ok fun i => if i ∈ is ∧ selected obj.hardwareCounterMask i = true then
          (obj.counted data i).toNat else values i := by
  induction is generalizing values with
  | nil => simp [counterValues,requested]
  | cons a is ih =>
    obtain ⟨ha,hnd⟩ := List.nodup_cons.mp his
    rw [counterValues_cons]
    by_cases hsel : selected obj.hardwareCounterMask a = true
    · rw [if_pos hsel, requested_cons_of_selected hsel]
      obtain ⟨hle,hok⟩ | ⟨hlt,herror⟩ := uint64ToZendLong_cases (obj.counted data a)
      · have hfits : tooLarge (a,⟨(data.hwCounters a).type,obj.counted data a⟩) = false :=
          decide_eq_false (not_lt.mpr hle)
        simp only [hok, List.find?_cons, hfits, ih hnd]
        cases (obj.requested data is).find? tooLarge with
        | some e => rfl
        | none =>
          refine congrArg Except.ok (funext fun i => ?_)
          by_cases hi : i = a
          · subst hi
            simp [ha,hsel]
          · simp [hi]
      · have hlarge : tooLarge (a,⟨(data.hwCounters a).type,obj.counted data a⟩) = true :=
          decide_eq_true hlt
        simp only [herror, List.find?_cons, hlarge]
    · rw [if_neg hsel, requested_cons_of_not_selected hsel, ih hnd]
      cases (obj.requested data is).find? tooLarge with
      | some e => rfl
      | none =>
        refine congrArg Except.ok (funext fun i => ?_)
        by_cases hi : i = a
        · subst hi
          simp [hsel]
        · simp [hi]

/-- A successful native read is reported through the counts of the requested counters alone: what the
array of values held before does not matter. -/
theorem readOver_eq {r : ProfileReply} (hopen : obj.handle ≠ none) (hr : r.error = 0)
    (hcount : r.data.hwCountersCount ≤ 16) (values : CounterIndex → ℤ) :
    obj.readOver values r =
      if zendLongMax < (r.data.cycleTime - obj.cycleTimeOrigin).toNat then
        .error (counterTooLarge (r.data.cycleTime - obj.cycleTimeOrigin))
      else
        match (obj.requested r.data (List.finRange 16)).find? tooLarge with
        | some e => .error (counterTooLarge e.2.value)
        | none => .ok <| snapshotOf r.data (r.data.cycleTime - obj.cycleTimeOrigin).toNat <|
            (obj.requested r.data (List.finRange 16)).map
              fun e => (e.1,⟨e.1.val,e.2.type,e.2.value.toNat⟩) := by
  obtain ⟨handle,hhandle⟩ := Option.ne_none_iff_exists'.mp hopen
  unfold readOver
  simp only [hhandle]
  rw [if_neg (not_not_intro hr), if_neg (UInt8.not_lt.mpr hcount)]
  obtain ⟨hle,hok⟩ | ⟨hlt,herror⟩ := uint64ToZendLong_cases (r.data.cycleTime - obj.cycleTimeOrigin)
  · rw [if_neg (not_lt.mpr hle), hok, counterValues_eq (List.nodup_finRange 16)]
    dsimp only
    cases (obj.requested r.data (List.finRange 16)).find? tooLarge with
    | some e => rfl
    | none =>
      simp only [requested, List.map_map]
      congr 2
      apply List.map_congr_left
      intro i hi
      simp [(List.mem_filter.mp hi).2]
  · rw [if_pos hlt, herror]

/-- The array is written before it is read. -/
theorem readOver_eq_read (values : CounterIndex → ℤ) (r : ProfileReply) :
    obj.readOver values r = obj.read r := by
  unfold read
  by_cases hopen : obj.handle = none
  · simp only [readOver, hopen]
  by_cases hr : r.error = 0
  · by_cases hcount : r.data.hwCountersCount ≤ 16
    · rw [readOver_eq hopen hr hcount, readOver_eq hopen hr hcount]
    · obtain ⟨handle,hhandle⟩ := Option.ne_none_iff_exists'.mp hopen
      simp only [readOver, hhandle, if_pos (UInt8.not_le.mp hcount)]
  · obtain ⟨handle,hhandle⟩ := Option.ne_none_iff_exists'.mp hopen
    simp only [readOver, hhandle, if_pos hr]

end ThreadProfileObj

/-- The mask asks for a counter. -/
def Asks (mask : ℤ) (i : CounterIndex) : Prop := mask.toNat.testBit i.val = true

/-- Two readings that differ at most in counters outside the mask. -/
def AgreeOn (mask : ℤ) (a b : ProfilingData) : Prop :=
  { a with hwCounters := b.hwCounters } = b ∧ ∀ i, Asks mask i → a.hwCounters i = b.hwCounters i

/-- The object after profiling was enabled, with the origins of the requested counters. -/
def profiled (mask : ℤ) (handle : ℕ) (initial : ProfilingData) : ThreadProfileObj where
  handle := some handle
  hardwareCounterMask := mask.toNat.toUInt64
  cycleTimeOrigin := initial.cycleTime
  hardwareCounterOrigins := fun i =>
    if selected mask.toNat.toUInt64 i then (initial.hwCounters i).value else 0

/-- The increment of a native counter, modulo `2^64`. -/
def countedSince (initial data : ProfilingData) (i : CounterIndex) : UInt64 :=
  (data.hwCounters i).value - (initial.hwCounters i).value

/-- A snapshot with these cycles and counts: one counter under each set bit of the mask, in order. -/
structure Reports (mask : ℤ) (cycles : ℕ) (counts : CounterIndex → ℕ) (snapshot : ThreadProfileSnapshot) :
    Prop where
  cycleCount : snapshot.cycleCount = cycles
  keys : ∀ n : ℕ, (∃ e ∈ snapshot.hardwareCounters, e.1.val = n) ↔ mask.toNat.testBit n = true
  ascending : (snapshot.hardwareCounters.map Prod.fst).Pairwise (· < ·)
  values : ∀ e ∈ snapshot.hardwareCounters, e.2.index = e.1.val ∧ e.2.value = counts e.1

/-- The requested counters of an enabled profile, each with its increment. -/
theorem requested_profiled (mask : ℤ) (handle : ℕ) (initial data : ProfilingData) :
    (profiled mask handle initial).requested data (List.finRange 16) =
      ((List.finRange 16).filter (selected mask.toNat.toUInt64)).map fun i =>
        (i,⟨(data.hwCounters i).type,countedSince initial data i⟩) := by
  apply List.map_congr_left
  intro i hi
  have hsel := (List.mem_filter.mp hi).2
  simp only [ThreadProfileObj.counted, profiled, countedSince] at hsel ⊢
  rw [if_pos hsel]

section Enabled
variable {mask : ℤ} (hmask : 0 ≤ mask ∧ mask ≤ 0xffff)
include hmask

/-- The third loop over the counters, in `enable_current_thread_profiling`, keeps the origins. -/
theorem enableCurrentThreadProfiling_eq {enabled : EnableReply} {initial : ProfileReply}
    (henabled : enabled.error = 0) (hinitial : initial.error = 0) :
    enableCurrentThreadProfiling mask enabled initial = .ok (profiled mask enabled.handle initial.data) := by
  unfold enableCurrentThreadProfiling
  rw [if_neg (by omega), if_neg (not_not_intro henabled), if_neg (not_not_intro hinitial)]
  rfl

theorem selected_mask (i : CounterIndex) : selected mask.toNat.toUInt64 i = true ↔ Asks mask i := by
  have hlt : mask.toNat < 2^64 := by omega
  rw [selected_eq, Asks, Nat.toUInt64, UInt64.toNat_ofNat_of_lt' hlt]

theorem mem_requested {handle : ℕ} {initial data : ProfilingData} {e : CounterIndex × HwCounter} :
    e ∈ (profiled mask handle initial).requested data (List.finRange 16) ↔
      Asks mask e.1 ∧ e.2 = ⟨(data.hwCounters e.1).type,countedSince initial data e.1⟩ := by
  rw [requested_profiled, List.mem_map]
  constructor
  · rintro ⟨i,hi,rfl⟩
    exact ⟨(selected_mask hmask i).mp (List.mem_filter.mp hi).2,rfl⟩
  · rintro ⟨hask,he⟩
    refine ⟨e.1,List.mem_filter.mpr ⟨List.mem_finRange _,(selected_mask hmask e.1).mpr hask⟩,?_⟩
    rw [← he]

theorem Asks.requested {i : CounterIndex} (h : Asks mask i) (handle : ℕ) (initial data : ProfilingData) :
    (i,⟨(data.hwCounters i).type,countedSince initial data i⟩) ∈
      (profiled mask handle initial).requested data (List.finRange 16) :=
  (mem_requested hmask).mpr ⟨h,rfl⟩

variable {r : ProfileReply} (hr : r.error = 0) (hcount : r.data.hwCountersCount ≤ 16)
include hr hcount

/-- An increment that is no PHP integer makes the read throw. -/
theorem readOver_exceeds (handle : ℕ) (initial : ProfilingData) (stack : CounterIndex → ℤ)
    (h : zendLongMax < (r.data.cycleTime - initial.cycleTime).toNat ∨
      ∃ i, Asks mask i ∧ zendLongMax < (countedSince initial r.data i).toNat) :
    ∃ value, (profiled mask handle initial).readOver stack r = .error (counterTooLarge value) := by
  rw [ThreadProfileObj.readOver_eq (Option.some_ne_none _) hr hcount]
  by_cases hcycles : zendLongMax < (r.data.cycleTime - initial.cycleTime).toNat
  · exact ⟨_,if_pos hcycles⟩
  · rw [if_neg (show ¬zendLongMax < (r.data.cycleTime - (profiled mask handle initial).cycleTimeOrigin).toNat
      from hcycles)]
    obtain ⟨i,hask,hlarge⟩ := h.resolve_left hcycles
    have hfound : (((profiled mask handle initial).requested r.data (List.finRange 16)).find?
        ThreadProfileObj.tooLarge).isSome = true := by
      refine List.find?_isSome.mpr ⟨_,Asks.requested hmask hask handle initial r.data,?_⟩
      exact decide_eq_true hlarge
    obtain ⟨e,he⟩ := Option.isSome_iff_exists.mp hfound
    exact ⟨e.2.value,by rw [he]⟩

/-- Otherwise it reports the increments. -/
theorem readOver_reports (handle : ℕ) (initial : ProfilingData) (stack : CounterIndex → ℤ)
    (hcycles : (r.data.cycleTime - initial.cycleTime).toNat ≤ zendLongMax)
    (hcounts : ∀ i, Asks mask i → (countedSince initial r.data i).toNat ≤ zendLongMax) :
    ∃ snapshot, (profiled mask handle initial).readOver stack r = .ok snapshot ∧
      Reports mask (r.data.cycleTime - initial.cycleTime).toNat
        (fun i => (countedSince initial r.data i).toNat) snapshot := by
  have hnone : ((profiled mask handle initial).requested r.data (List.finRange 16)).find?
      ThreadProfileObj.tooLarge = none := by
    apply List.find?_eq_none.mpr
    intro e he hlarge
    obtain ⟨hask,hvalue⟩ := (mem_requested hmask).mp he
    have hlt : zendLongMax < e.2.value.toNat := of_decide_eq_true hlarge
    rw [hvalue] at hlt
    exact absurd (hcounts e.1 hask) (not_le.mpr hlt)
  rw [ThreadProfileObj.readOver_eq (Option.some_ne_none _) hr hcount,
    if_neg (show ¬zendLongMax < (r.data.cycleTime - (profiled mask handle initial).cycleTimeOrigin).toNat
      from not_lt.mpr hcycles), hnone]
  refine ⟨_,rfl,rfl,fun n => ?_,?_,fun e he => ?_⟩
  · simp only [snapshotOf_hardwareCounters, List.mem_map]
    constructor
    · rintro ⟨e,⟨x,hx,rfl⟩,rfl⟩
      exact ((mem_requested hmask).mp hx).1
    · intro hbit
      have hn : n < 16 := by
        by_contra hge
        have hlt : mask.toNat < 2^n :=
          lt_of_lt_of_le (by omega) (Nat.pow_le_pow_right (by decide) (not_lt.mp hge))
        rw [Nat.testBit_lt_two_pow hlt] at hbit
        cases hbit
      exact ⟨_,⟨_,@Asks.requested mask hmask ⟨n,hn⟩ hbit handle initial r.data,rfl⟩,rfl⟩
  · rw [snapshotOf_hardwareCounters, requested_profiled, List.map_map, List.map_map]
    exact (List.map_id _).symm ▸ ((List.pairwise_lt_finRange 16).filter _)
  · obtain ⟨x,hx,rfl⟩ := List.mem_map.mp he
    rw [((mem_requested hmask).mp hx).2]
    exact ⟨rfl,rfl⟩

end Enabled

theorem AgreeOn.cycleTime {mask : ℤ} {a b : ProfilingData} (h : AgreeOn mask a b) :
    a.cycleTime = b.cycleTime := by
  rw [← h.1]

theorem AgreeOn.hwCountersCount {mask : ℤ} {a b : ProfilingData} (h : AgreeOn mask a b) :
    a.hwCountersCount = b.hwCountersCount := by
  rw [← h.1]

theorem AgreeOn.snapshotOf {mask : ℤ} {a b : ProfilingData} (h : AgreeOn mask a b) :
    snapshotOf a = snapshotOf b := by
  rw [← h.1]
  rfl

theorem AgreeOn.counted {mask : ℤ} {a a' b b' : ProfilingData} (ha : AgreeOn mask a a')
    (hb : AgreeOn mask b b') {i : CounterIndex} (hi : Asks mask i) :
    countedSince a b i = countedSince a' b' i := by
  rw [countedSince, countedSince, ha.2 i hi, hb.2 i hi]

/-- Counters outside the mask have no influence on a read. -/
theorem readOver_congr {mask : ℤ} (hmask : 0 ≤ mask ∧ mask ≤ 0xffff) {r r' : ProfileReply}
    (hr : r.error = 0) (hr' : r'.error = 0) (hcount : r.data.hwCountersCount ≤ 16)
    {initial initial' : ProfilingData} (hinitial : AgreeOn mask initial initial')
    (hdata : AgreeOn mask r.data r'.data) (handle : ℕ) (stack stack' : CounterIndex → ℤ) :
    (profiled mask handle initial').readOver stack' r' =
      (profiled mask handle initial).readOver stack r := by
  have hrequested : (profiled mask handle initial').requested r'.data (List.finRange 16) =
      (profiled mask handle initial).requested r.data (List.finRange 16) := by
    rw [requested_profiled, requested_profiled]
    apply List.map_congr_left
    intro i hi
    have hask := (selected_mask hmask i).mp (List.mem_filter.mp hi).2
    rw [hinitial.counted hdata hask, hdata.2 i hask]
  have horigin : (profiled mask handle initial').cycleTimeOrigin =
      (profiled mask handle initial).cycleTimeOrigin := hinitial.cycleTime.symm
  have hcount' : r'.data.hwCountersCount ≤ 16 := hdata.hwCountersCount ▸ hcount
  rw [ThreadProfileObj.readOver_eq (Option.some_ne_none _) hr hcount,
    ThreadProfileObj.readOver_eq (Option.some_ne_none _) hr' hcount', hrequested, horigin,
    hdata.cycleTime, hdata.snapshotOf]

/-- `ThreadProfile::read` either throws because some difference since the profile was enabled is no PHP
integer, or reports all of them; increments below `2^63` come out as they are, and counters that were not
asked for have no influence. -/
theorem profile_snapshot_exact {mask : ℤ} (hmask : 0 ≤ mask ∧ mask ≤ 0xffff) {enabled : EnableReply}
    {initial r : ProfileReply} (henabled : enabled.error = 0) (hinitial : initial.error = 0)
    (hr : r.error = 0) (hcount : r.data.hwCountersCount ≤ 16) :
    ∃ obj, enableCurrentThreadProfiling mask enabled initial = .ok obj ∧
    ∀ stack : CounterIndex → ℤ,
    let cycles := r.data.cycleTime - initial.data.cycleTime
    let counts := countedSince initial.data r.data
    let exceeds := zendLongMax < cycles.toNat ∨ ∃ i, Asks mask i ∧ zendLongMax < (counts i).toNat
    (exceeds → ∃ value, obj.readOver stack r = .error (counterTooLarge value)) ∧
    (¬exceeds → ∃ snapshot, obj.readOver stack r = .ok snapshot ∧
      Reports mask cycles.toNat (fun i => (counts i).toNat) snapshot) ∧
    (∀ (d : ℕ) (k : CounterIndex → ℕ), d < 2^63 → (∀ i, Asks mask i → k i < 2^63) →
      r.data.cycleTime = initial.data.cycleTime + UInt64.ofNat d →
      (∀ i, Asks mask i →
        (r.data.hwCounters i).value = (initial.data.hwCounters i).value + UInt64.ofNat (k i)) →
      ∃ snapshot, obj.readOver stack r = .ok snapshot ∧ Reports mask d k snapshot) ∧
    (∀ stack' initial' r', initial'.error = 0 → r'.error = 0 → AgreeOn mask initial.data initial'.data →
      AgreeOn mask r.data r'.data →
      ∃ obj', enableCurrentThreadProfiling mask enabled initial' = .ok obj' ∧
        obj'.readOver stack' r' = obj.readOver stack r) := by
  refine ⟨_,enableCurrentThreadProfiling_eq hmask henabled hinitial,fun stack => ?_⟩
  intro cycles counts exceeds
  have hreports (hcycles : cycles.toNat ≤ zendLongMax)
      (hcounts : ∀ i, Asks mask i → (counts i).toNat ≤ zendLongMax) :=
    readOver_reports hmask hr hcount enabled.handle initial.data stack hcycles hcounts
  refine ⟨readOver_exceeds hmask hr hcount enabled.handle initial.data stack,fun h => ?_,?_,?_⟩
  · refine hreports (not_lt.mp fun hlt => h (.inl hlt)) fun i hi => ?_
    exact not_lt.mp fun hlt => h (.inr ⟨i,hi,hlt⟩)
  · intro d k hd hk hcycles hcounters
    have hcyclesNat : cycles.toNat = d := by
      change (r.data.cycleTime - initial.data.cycleTime).toNat = d
      rw [hcycles, toNat_advance_sub _ hd]
    have hcountNat : ∀ i, Asks mask i → (counts i).toNat = k i := by
      intro i hi
      change ((r.data.hwCounters i).value - (initial.data.hwCounters i).value).toNat = k i
      rw [hcounters i hi, toNat_advance_sub _ (hk i hi)]
    obtain ⟨snapshot,hread,hsnapshot⟩ := hreports (hcyclesNat ▸ Nat.le_pred_of_lt hd) fun i hi =>
      hcountNat i hi ▸ Nat.le_pred_of_lt (hk i hi)
    refine ⟨snapshot,hread,hsnapshot.cycleCount.trans (congrArg _ hcyclesNat),hsnapshot.keys,
      hsnapshot.ascending,fun e he => ?_⟩
    obtain ⟨hindex,hvalue⟩ := hsnapshot.values e he
    have hask : Asks mask e.1 := (hsnapshot.keys e.1.val).mp ⟨e,he,rfl⟩
    exact ⟨hindex,hvalue.trans (congrArg _ (hcountNat e.1 hask))⟩
  · intro stack' initial' r' hinitial' hr' hagree hagree'
    refine ⟨_,enableCurrentThreadProfiling_eq hmask henabled hinitial',?_⟩
    exact readOver_congr hmask hr hr' hcount hagree hagree' enabled.handle stack stack'

/-- One counter of two, which wrapped since the profile was enabled. -/
theorem profile_snapshot_exact_wrap :
    let initial : ProfileReply := ⟨0,⟨⟨0,7⟩,0,0,2,fun _ => ⟨0,uint64Max⟩⟩⟩
    let r : ProfileReply := ⟨0,⟨⟨0,9⟩,0,0,2,fun _ => ⟨0,4⟩⟩⟩
    ∃ obj snapshot, enableCurrentThreadProfiling 2 ⟨0,0⟩ initial = .ok obj ∧
      obj.readOver (fun _ => 77) r = .ok snapshot ∧ Reports 2 2 (fun _ => 5) snapshot := by
  intro initial r
  obtain ⟨obj,henabled,hread⟩ := @profile_snapshot_exact 2 (by decide) ⟨0,0⟩ initial r rfl rfl rfl
    (show (2 : UInt8) ≤ 16 by decide)
  obtain ⟨-,-,hexact,-⟩ := hread fun _ => 77
  obtain ⟨snapshot,hok,hreports⟩ := hexact 2 (fun _ => 5) (by decide) (fun _ _ => by decide) rfl
    fun _ _ => show (4 : UInt64) = uint64Max + UInt64.ofNat 5 by decide
  exact ⟨obj,snapshot,henabled,hok,hreports⟩

end Perfidious.Windows
