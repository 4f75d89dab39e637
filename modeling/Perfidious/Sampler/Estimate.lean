import Mathlib.Algebra.BigOperators.Ring.Finset
import Perfidious.Library.Telescope
import Perfidious.Sampler.Descriptors

/-! The cumulative estimate of one Linux counter over any number of reads, on builds with 128-bit
integers: the intervals between the accepted readings, each scaled and rounded down by itself. -/
namespace Perfidious.Linux
open Library

/-- How far a component rose from one reading to the next one. -/
def rise (component : Reading → UInt64) (x y : Reading) : ℕ := (component y).toNat - (component x).toNat

/-- The estimate for one interval. -/
def interval (x y : Reading) : ℕ :=
  if rise Reading.running x y = 0 then 0 else rise Reading.value x y*rise Reading.enabled x y/rise Reading.running x y

/-- The estimate before it is rounded down. -/
def exactInterval (x y : Reading) : ℚ :=
  if rise Reading.running x y = 0 then 0
  else (rise Reading.value x y : ℚ)*rise Reading.enabled x y/rise Reading.running x y

/-- Why a reading `y` after `x` is refused when the estimate stands at `total`. -/
def Rejected (total : ℕ) (x y : Reading) : Prop :=
  y.value < x.value ∨ y.enabled < x.enabled ∨ y.running < x.running ∨
  rise Reading.enabled x y < rise Reading.running x y ∨
  rise Reading.running x y = 0 ∧ (rise Reading.enabled x y ≠ 0 ∨ rise Reading.value x y ≠ 0) ∨
  2^64 ≤ interval x y ∨ 2^64 ≤ total + interval x y

/-- What holds of an accepted reading `y` after `x`. -/
structure Follows (x y : Reading) : Prop where
  value_le : x.value.toNat ≤ y.value.toNat
  enabled_le : x.enabled.toNat ≤ y.enabled.toNat
  running_le : x.running.toNat ≤ y.running.toNat
  ratio : rise Reading.running x y ≤ rise Reading.enabled x y
  idle : rise Reading.running x y = 0 → rise Reading.enabled x y = 0 ∧ rise Reading.value x y = 0

theorem interval_eq_scaled (x y : Reading) :
    interval x y = scaled (rise Reading.value x y) (rise Reading.enabled x y) (rise Reading.running x y) := by
  unfold interval
  split
  next h => rw [h, scaled_zero_running]
  · rfl

/-- An interval is never estimated below its raw count. -/
theorem Follows.rise_le_interval {x y : Reading} (h : Follows x y) : rise Reading.value x y ≤ interval x y := by
  rw [interval_eq_scaled]
  by_cases hr : rise Reading.running x y = 0
  · rw [(h.idle hr).2]
    exact Nat.zero_le _
  · exact le_scaled (Nat.pos_of_ne_zero hr) h.ratio

/-- An event that ran whenever it was enabled is counted exactly. -/
theorem Follows.interval_eq_rise {x y : Reading} (h : Follows x y) (hx : x.running = x.enabled)
    (hy : y.running = y.enabled) : interval x y = rise Reading.value x y := by
  have hrise : rise Reading.running x y = rise Reading.enabled x y := by simp only [rise, hx, hy]
  rw [interval_eq_scaled, ← hrise]
  by_cases hr : rise Reading.running x y = 0
  · rw [hr, (h.idle hr).2, scaled_zero_running]
  · exact scaled_self _ (Nat.pos_of_ne_zero hr)

theorem exactInterval_eq_div (x y : Reading) :
    exactInterval x y = (rise Reading.value x y : ℚ)*rise Reading.enabled x y/rise Reading.running x y := by
  unfold exactInterval
  split
  next h => simp [h]
  · rfl

theorem interval_le_exact (x y : Reading) : (interval x y : ℚ) ≤ exactInterval x y := by
  rw [interval_eq_scaled, exactInterval_eq_div]
  exact scaled_le_div _ _ _

theorem exact_lt_interval (x y : Reading) : exactInterval x y < (interval x y : ℚ) + 1 := by
  rw [interval_eq_scaled, exactInterval_eq_div]
  exact div_lt_scaled_add_one _ _ _

/-- The differences of a reading that did not go backwards. -/
theorem toNat_sub_eq_rise (component : Reading → UInt64) {x y : Reading}
    (h : (component x).toNat ≤ (component y).toNat) :
    (component y - component x).toNat = rise component x y :=
  UInt64.toNat_sub_of_le _ _ (UInt64.le_iff_toNat_le.mpr h)

theorem sub_eq_zero_iff_rise (component : Reading → UInt64) {x y : Reading}
    (h : (component x).toNat ≤ (component y).toNat) :
    component y - component x = 0 ↔ rise component x y = 0 := by
  rw [← toNat_sub_eq_rise component h, ← UInt64.toNat_inj]
  rfl

/-- The scaled increment exists exactly if the interval's estimate fits 64 bits, and is that estimate. -/
theorem intervalScaled_eq_some_iff {c : Counter} {y : Reading} {scaled : UInt64}
    (h : Follows c.previous y) :
    intervalScaled true c y = some scaled ↔ scaled.toNat = interval c.previous y := by
  have hrunning := sub_eq_zero_iff_rise Reading.running h.running_le
  unfold intervalScaled
  by_cases hr : y.running - c.previous.running = 0
  · have hzero : interval c.previous y = 0 := if_pos (hrunning.mp hr)
    rw [if_neg (not_not_intro hr), hzero, Option.some.injEq, eq_comm, ← UInt64.toNat_inj]
    rfl
  · have hscaled : interval c.previous y = Library.scaled (y.value - c.previous.value).toNat
        (y.enabled - c.previous.enabled).toNat (y.running - c.previous.running).toNat := by
      rw [interval_eq_scaled, toNat_sub_eq_rise Reading.value h.value_le,
        toNat_sub_eq_rise Reading.enabled h.enabled_le, toNat_sub_eq_rise Reading.running h.running_le]
    rw [if_pos hr, hscaled]
    change scaleUint64Wide _ _ _ = some scaled ↔ _
    constructor
    · exact scaleUint64Wide_eq_some
    · intro hs
      cases hw : scaleUint64Wide (y.value - c.previous.value) (y.enabled - c.previous.enabled)
          (y.running - c.previous.running) with
      | none =>
        have hlarge := (scaleUint64Wide_eq_none_iff _ _ _).mp hw
        have hlt := scaled.toNat_lt
        omega
      | some wide =>
        rw [← scaleUint64Wide_eq_some hw] at hs
        rw [UInt64.toNat_inj.mp hs]

/-- The conditions of the loop body, over the integers. -/
theorem accepted_iff {c : Counter} {r : RawRead} {scaled : UInt64} :
    Accepted true c r scaled ↔ r.length = sizeofReading ∧ Follows c.previous r.reading ∧
      scaled.toNat = interval c.previous r.reading ∧ c.total.toNat + scaled.toNat < 2^64 := by
  have hfits : scaled ≤ uint64Max - c.total ↔ c.total.toNat + scaled.toNat < 2^64 := by
    rw [← UInt64.not_lt, gt_uint64Max_sub_iff]
    omega
  constructor
  · intro h
    have hv := UInt64.le_iff_toNat_le.mp h.value_le
    have he := UInt64.le_iff_toNat_le.mp h.enabled_le
    have hr := UInt64.le_iff_toNat_le.mp h.running_le
    have hfollows : Follows c.previous r.reading := by
      refine ⟨hv,he,hr,?_,?_⟩
      · rw [← toNat_sub_eq_rise Reading.running hr, ← toNat_sub_eq_rise Reading.enabled he]
        exact UInt64.le_iff_toNat_le.mp h.ratio
      · intro hzero
        obtain ⟨h₁,h₂⟩ := h.idle ((sub_eq_zero_iff_rise Reading.running hr).mpr hzero)
        exact ⟨(sub_eq_zero_iff_rise Reading.enabled he).mp h₁,
          (sub_eq_zero_iff_rise Reading.value hv).mp h₂⟩
    exact ⟨h.full,hfollows,(intervalScaled_eq_some_iff hfollows).mp h.scales,hfits.mp h.fits⟩
  · rintro ⟨hfull,hfollows,hs,htotal⟩
    obtain ⟨hv,he,hr,hratio,hidle⟩ := hfollows
    refine ⟨hfull,UInt64.le_iff_toNat_le.mpr hv,UInt64.le_iff_toNat_le.mpr he,
      UInt64.le_iff_toNat_le.mpr hr,?_,?_,?_,hfits.mpr htotal⟩
    · rw [← toNat_sub_eq_rise Reading.running hr, ← toNat_sub_eq_rise Reading.enabled he] at hratio
      exact UInt64.le_iff_toNat_le.mpr hratio
    · intro hzero
      obtain ⟨h₁,h₂⟩ := hidle ((sub_eq_zero_iff_rise Reading.running hr).mp hzero)
      exact ⟨(sub_eq_zero_iff_rise Reading.enabled he).mpr h₁,
        (sub_eq_zero_iff_rise Reading.value hv).mpr h₂⟩
    · exact (intervalScaled_eq_some_iff ⟨hv,he,hr,hratio,hidle⟩).mpr hs

/-- A full reading is refused exactly for one of the listed reasons. -/
theorem not_accepted_iff {c : Counter} {r : RawRead} (hfull : r.length = sizeofReading) :
    (¬ ∃ scaled, Accepted true c r scaled) ↔ Rejected c.total.toNat c.previous r.reading := by
  simp only [accepted_iff, Rejected, UInt64.lt_iff_toNat_lt]
  constructor
  · intro hno
    by_contra hok
    simp only [not_or, not_lt, not_and, not_not, not_le] at hok
    obtain ⟨hv,he,hr,hratio,hidle,hinterval,htotal⟩ := hok
    have hs : (UInt64.ofNat (interval c.previous r.reading)).toNat = interval c.previous r.reading :=
      UInt64.toNat_ofNat_of_lt' hinterval
    exact hno ⟨UInt64.ofNat (interval c.previous r.reading),hfull,⟨hv,he,hr,hratio,hidle⟩,hs,
      hs.symm ▸ htotal⟩
  · rintro hrejected ⟨scaled,-,hfollows,hs,htotal⟩
    obtain ⟨hv,he,hr,hratio,hidle⟩ := hfollows
    have hlt := scaled.toNat_lt
    rcases hrejected with h | h | h | h | ⟨hzero,h⟩ | h | h
    · omega
    · omega
    · omega
    · omega
    · have := hidle hzero
      omega
    · omega
    · omega

/-- Machine operations that fail where they would wrap or trap. -/
def checkedSub (a b : UInt64) : Option UInt64 := if b ≤ a then some (a - b) else none

def checkedAdd (a b : UInt64) : Option UInt64 :=
  if a.toNat + b.toNat < 2^64 then some (a + b) else none

/-- The product has to fit 128 bits. -/
def checkedScale (value multiplier divisor : UInt64) : Option (Option UInt64) :=
  if divisor = 0 ∨ 2^128 ≤ value.toNat*multiplier.toNat then none
  else some (scaleUint64 true value multiplier divisor)

/-- `running != 0 && !perfidious_scale_uint64(…)`, with `scaled` zero to begin with. -/
def checkedIncrement (value enabled running : UInt64) : Option (Option UInt64) :=
  if running ≠ 0 then checkedScale value enabled running else some (some 0)

/-- `advance` with checked operations, in the order in which the loop body evaluates them. -/
def advanceChecked (metric : MetricId) (counter : Counter) (r : RawRead) :
    Option (Except Error Counter) :=
  if r.length ≠ sizeofReading then
    some (.error (samplerError "read" metric (if r.length < 0 then r.errno else EIO)))
  else if r.reading.value < counter.previous.value ∨ r.reading.enabled < counter.previous.enabled ∨
      r.reading.running < counter.previous.running then
    some (.error (samplerError "counter monotonicity check" metric EIO))
  else do
    let value ← checkedSub r.reading.value counter.previous.value
    let enabled ← checkedSub r.reading.enabled counter.previous.enabled
    let running ← checkedSub r.reading.running counter.previous.running
    if running > enabled ∨ (running = 0 ∧ (enabled ≠ 0 ∨ value ≠ 0)) then
      some (.error (samplerError "counter running-time check" metric EAGAIN))
    else do
      let increment ← checkedIncrement value enabled running
      match increment with
      | none => some (.error (counterOverflow metric))
      | some scaled =>
        let room ← checkedSub uint64Max counter.total
        if scaled > room then some (.error (counterOverflow metric))
        else do
          let total ← checkedAdd counter.total scaled
          some (.ok { counter with total, previous := r.reading })

theorem checkedSub_of_le {a b : UInt64} (h : b ≤ a) : checkedSub a b = some (a - b) := if_pos h

theorem checkedScale_of_ne_zero {value multiplier divisor : UInt64} (h : divisor ≠ 0) :
    checkedScale value multiplier divisor = some (scaleUint64 true value multiplier divisor) := by
  apply if_neg
  rintro (hzero | hlarge)
  · exact h hzero
  · have hproduct : value.toNat*multiplier.toNat < 2^64*2^64 :=
      Nat.mul_lt_mul'' value.toNat_lt multiplier.toNat_lt
    omega

theorem checkedIncrement_eq (value enabled running : UInt64) :
    checkedIncrement value enabled running =
      some (if running ≠ 0 then scaleUint64 true value enabled running else some 0) := by
  unfold checkedIncrement
  by_cases hr : running ≠ 0
  · rw [if_pos hr, if_pos hr, checkedScale_of_ne_zero hr]
  · rw [if_neg hr, if_neg hr]

theorem checkedAdd_of_room {total scaled : UInt64} (h : ¬ scaled > uint64Max - total) :
    checkedAdd total scaled = some (total + scaled) := by
  have hsum : total.toNat + scaled.toNat < 2^64 := by
    have := (gt_uint64Max_sub_iff scaled total).not.mp h
    omega
  exact if_pos hsum

/-- Whatever the kernel returns, no operation of the loop body wraps or divides by zero. -/
theorem advanceChecked_eq (metric : MetricId) (counter : Counter) (r : RawRead) :
    advanceChecked metric counter r = some (advance true metric counter r) := by
  have hroom : counter.total ≤ uint64Max := by
    rw [UInt64.le_iff_toNat_le, toNat_uint64Max]
    exact toNat_le_uint64Max counter.total
  unfold advanceChecked advance
  split
  · rfl
  split
  · rfl
  next hforwards =>
    simp only [not_or, UInt64.not_lt] at hforwards
    rw [checkedSub_of_le hforwards.1, checkedSub_of_le hforwards.2.1, checkedSub_of_le hforwards.2.2]
    simp only [Option.bind_eq_bind, Option.bind_some]
    split
    · rfl
    next hratio =>
      rw [checkedIncrement_eq, Option.bind_some]
      generalize (if r.reading.running - counter.previous.running ≠ 0 then
        scaleUint64 true (r.reading.value - counter.previous.value)
          (r.reading.enabled - counter.previous.enabled)
          (r.reading.running - counter.previous.running)
        else some 0) = increment
      cases increment with
      | none => rfl
      | some scaled =>
        dsimp only
        rw [checkedSub_of_le hroom, Option.bind_some]
        by_cases hfits : scaled > uint64Max - counter.total
        · rw [if_pos hfits, if_pos hfits]
        · rw [if_neg hfits, if_neg hfits, checkedAdd_of_room hfits, Option.bind_some]

/-- The readings that successive reads of a sampler accepted for one metric. -/
def accepted (s : PlatformSampler) (m : MetricId) (calls : List (Snapshot × Replies)) : List Reading :=
  (kept (readStep true) ReadOutcome.succeeded s calls).map fun call => (call.2.settled m).reading

/-- What became of a counter that accepted some readings. -/
structure Estimates (c c' : Counter) (readings : List Reading) : Prop where
  chain : (c.previous::readings).IsChain Follows
  previous : c'.previous = readings.getLastD c.previous
  total : c'.total.toNat = c.total.toNat + (steps interval c.previous readings).sum

/-- One accepted reading, and then more of them. -/
theorem Estimates.cons {c c' : Counter} {r : RawRead} {scaled : UInt64} {readings : List Reading}
    (ha : Accepted true c r scaled)
    (h : Estimates { c with total := c.total + scaled, previous := r.reading } c' readings) :
    Estimates c c' (r.reading::readings) := by
  obtain ⟨-,hfollows,hs,htotal⟩ := accepted_iff.mp ha
  refine ⟨List.isChain_cons_cons.mpr ⟨hfollows,h.chain⟩,?_,?_⟩
  · rw [List.getLastD_cons]
    exact h.previous
  · have hadd : (c.total + scaled).toNat = c.total.toNat + scaled.toNat := toNat_add_of_lt htotal
    have hrest := h.total
    change c'.total.toNat = (c.total + scaled).toNat + (steps interval r.reading readings).sum at hrest
    rw [steps_cons, List.sum_cons, hrest, hadd, hs, Nat.add_assoc]

/-- A run of reads, failing ones included, adds up the intervals between the accepted readings. -/
theorem run_estimates {s : PlatformSampler} {m : MetricId} (hm : s.requested m)
    (calls : List (Snapshot × Replies)) :
    (final (readStep true) s calls).requested m ∧
      Estimates (s.counters m) ((final (readStep true) s calls).counters m) (accepted s m calls) := by
  induction calls generalizing s with
  | nil => exact ⟨hm,List.isChain_singleton _,rfl,rfl⟩
  | cons call calls ih =>
    rw [final_cons]
    cases hok : (readStep true s call).2.succeeded with
    | false =>
      have hsame : (readStep true s call).1 = s := (read_failure_silent hok).1
      have hacc : accepted s m (call::calls) = accepted s m calls := by
        simp [accepted,kept,hok,hsame]
      rw [hsame, hacc]
      exact ih hm
    | true =>
      obtain ⟨scaled,ha,hc,-⟩ := (read_success_commits hok m).1 hm
      have hacc : accepted s m (call::calls) =
          (call.2.settled m).reading::accepted (readStep true s call).1 m calls := by
        simp [accepted,kept,hok]
      have hcounter : (readStep true s call).1.counters m = { s.counters m with
          total := (s.counters m).total + scaled, previous := (call.2.settled m).reading } := hc
      have hm' : (readStep true s call).1.requested m := by
        unfold PlatformSampler.requested
        rw [hcounter]
        exact hm
      obtain ⟨hreq,hrest⟩ := ih hm'
      rw [hcounter] at hrest
      rw [hacc]
      exact ⟨hreq,hrest.cons ha⟩

/-- The reading that a counter starts from. -/
def origin : Reading := ⟨0,0,0⟩

theorem openCounters_origin {metrics : UInt32} {r : Answers} {ms : List MetricId}
    {counters counters' : MetricId → Counter} {k k' : Kernel}
    (h : ∀ m, (counters m).previous = origin ∧ (counters m).total = 0)
    (hopen : openCounters metrics r ms counters k = (k',.ok counters')) (m : MetricId) :
    (counters' m).previous = origin ∧ (counters' m).total = 0 := by
  induction ms generalizing counters k with
  | nil =>
    cases hopen
    exact h m
  | cons a ms ih =>
    unfold openCounters at hopen
    split at hopen
    · dsimp only at hopen
      split at hopen
      · cases hopen
      · refine ih ?_ hopen
        intro j
        by_cases hja : j = a
        · subst hja
          rw [Function.update_self]
          exact h j
        · rw [Function.update_of_ne hja]
          exact h j
    · exact ih h hopen

/-- A sampler that was just opened starts from zero. -/
theorem platformSamplerOpen_origin {metrics : UInt32} {scope : ScopeId}
    {sampler : Option PlatformSampler} {result : PlatformSampler} {r : Answers} {k k' : Kernel}
    (h : platformSamplerOpen metrics scope sampler r k = (k',.ok result)) (m : MetricId) :
    (result.counters m).previous = origin ∧ (result.counters m).total = 0 :=
  openCounters_origin (fun _ => ⟨rfl,rfl⟩) (platformSamplerOpen_ok h).2 m

theorem accepted_append (s : PlatformSampler) (m : MetricId) (calls later : List (Snapshot × Replies)) :
    accepted s m (calls++later) =
      accepted s m calls ++ accepted (final (readStep true) s calls) m later := by
  unfold accepted
  rw [← List.map_append]
  congr 1
  induction calls generalizing s with
  | nil => rfl
  | cons call calls ih =>
    rw [List.cons_append, final_cons, kept, kept, ih]
    split <;> rfl

section
variable {x : Reading} {readings : List Reading}

/-- The raw counts of the intervals sum to the raw count in the end. -/
theorem sum_rise_value (h : (x::readings).IsChain Follows) :
    x.value.toNat + (steps (rise Reading.value) x readings).sum = (readings.getLastD x).value.toNat := by
  induction readings generalizing x with
  | nil => rfl
  | cons y readings ih =>
    obtain ⟨hxy,hrest⟩ := List.isChain_cons_cons.mp h
    have hle := hxy.value_le
    rw [steps_cons, List.sum_cons, List.getLastD_cons, ← ih hrest]
    unfold rise
    omega

theorem sum_rise_le (h : (x::readings).IsChain Follows) :
    (steps (rise Reading.value) x readings).sum ≤ (steps interval x readings).sum := by
  induction readings generalizing x with
  | nil => exact le_refl _
  | cons y readings ih =>
    obtain ⟨hxy,hrest⟩ := List.isChain_cons_cons.mp h
    rw [steps_cons, steps_cons, List.sum_cons, List.sum_cons]
    exact Nat.add_le_add hxy.rise_le_interval (ih hrest)

theorem steps_interval_eq_rise (h : (x::readings).IsChain Follows)
    (hall : ∀ y ∈ x::readings, y.running = y.enabled) :
    steps interval x readings = steps (rise Reading.value) x readings := by
  induction readings generalizing x with
  | nil => rfl
  | cons y readings ih =>
    obtain ⟨hxy,hrest⟩ := List.isChain_cons_cons.mp h
    have hx := hall x List.mem_cons_self
    have hy := hall y (List.mem_cons_of_mem _ List.mem_cons_self)
    rw [steps_cons, steps_cons, hxy.interval_eq_rise hx hy,
      ih hrest fun z hz => hall z (List.mem_cons_of_mem _ hz)]

theorem cast_sum_steps (x : Reading) (readings : List Reading) :
    (((steps interval x readings).sum : ℕ) : ℚ) =
      (steps (fun x y => (interval x y : ℚ)) x readings).sum := by
  rw [Nat.cast_list_sum, map_steps]

end

/-- The cumulative estimate of a Linux counter after any reads: the sum of the scaled intervals between
the accepted readings, with nothing lost but the rounding of each. -/
theorem estimate_exact {metrics : UInt32} {scope : ScopeId} {before : Option PlatformSampler}
    {s : PlatformSampler} {answers : Answers} {k k' : Kernel}
    (hopen : platformSamplerOpen metrics scope before answers k = (k',.ok s)) (m : MetricId)
    (hm : s.requested m) (calls : List (Snapshot × Replies)) :
    let s' := final (readStep true) s calls
    let readings := accepted s m calls
    let last := readings.getLastD origin
    let total := (s'.counters m).total.toNat
    total = (steps interval origin readings).sum ∧
    (origin::readings).IsChain Follows ∧
    (∀ r, advanceChecked m (s'.counters m) r = some (advance true m (s'.counters m) r)) ∧
    (∀ r : Replies, (r.settled m).length = sizeofReading →
      ((∃ e, readCounter true r.read m (s'.counters m) = .error e) ↔
        Rejected total last (r.settled m).reading)) ∧
    (∀ snapshot r, (platformSamplerRead true s' snapshot r).2.succeeded = true ↔
      r.gettid = s'.threadId ∧ ∀ j, s'.requested j → (r.settled j).length = sizeofReading ∧
        ¬ Rejected (s'.counters j).total.toNat (s'.counters j).previous (r.settled j).reading) ∧
    last.value.toNat ≤ total ∧
    ((∀ x ∈ readings, x.running = x.enabled) → total = last.value.toNat) ∧
    (total : ℚ) ≤ (steps exactInterval origin readings).sum ∧
    (readings ≠ [] → (steps exactInterval origin readings).sum < total + readings.length) ∧
    ∀ later, accepted s m (calls++later) = readings ++ accepted s' m later ∧
      ((final (readStep true) s (calls++later)).counters m).total.toNat =
        total + (steps interval last (accepted s' m later)).sum := by
  intro s' readings last total
  obtain ⟨hprevious,htotal⟩ := platformSamplerOpen_origin hopen m
  obtain ⟨hm',hchain,hlast,hsum⟩ : s'.requested m ∧
      Estimates (s.counters m) (s'.counters m) readings := run_estimates hm calls
  rw [hprevious] at hchain hlast hsum
  rw [htotal] at hsum
  have hestimate : total = (steps interval origin readings).sum := hsum.trans (Nat.zero_add _)
  have hraw : (steps (rise Reading.value) origin readings).sum = last.value.toNat :=
    (Nat.zero_add _).symm.trans (sum_rise_value hchain)
  refine ⟨hestimate,hchain,advanceChecked_eq m (s'.counters m),?_,?_,?_,?_,?_,?_,?_⟩
  · intro r hfull
    have hstate : (s'.counters m).previous = last := hlast
    rw [← hstate, ← not_accepted_iff hfull]
    have hok := fun c => @readCounter_requested true r.read m (s'.counters m) c hm'
    constructor
    · rintro ⟨e,he⟩ ⟨scaled,ha⟩
      cases he.symm.trans ((hok _).mpr ⟨scaled,ha,rfl⟩)
    · intro hno
      cases hc : readCounter true r.read m (s'.counters m) with
      | error e => exact ⟨e,rfl⟩
      | ok c =>
        obtain ⟨scaled,ha,-⟩ := (hok c).mp hc
        exact absurd ⟨scaled,ha⟩ hno
  · intro snapshot r
    rw [read_succeeds_iff]
    apply and_congr_right
    intro _
    apply forall₂_congr
    intro j hj
    constructor
    · rintro ⟨scaled,ha⟩
      exact ⟨ha.full,fun hrejected => (not_accepted_iff ha.full).mpr hrejected ⟨scaled,ha⟩⟩
    · rintro ⟨hfull,hno⟩
      by_contra hnone
      exact hno ((not_accepted_iff hfull).mp hnone)
  · rw [hestimate, ← hraw]
    exact sum_rise_le hchain
  · intro hall
    have hrunning : ∀ x ∈ origin::readings, x.running = x.enabled := by
      intro x hx
      cases hx with
      | head => rfl
      | tail _ hx => exact hall x hx
    rw [hestimate, steps_interval_eq_rise hchain hrunning, hraw]
  · rw [hestimate, cast_sum_steps]
    exact sum_steps_le (fun _ => interval_le_exact _ _) hchain
  · intro hreadings
    rw [hestimate, cast_sum_steps]
    exact sum_steps_lt exact_lt_interval origin hreadings
  · intro later
    have happend := accepted_append s m calls later
    refine ⟨happend,?_⟩
    obtain ⟨-,-,-,hmore⟩ := run_estimates hm' later
    rw [hlast] at hmore
    rw [final_append]
    exact hmore

/-- A read of all 24 bytes. -/
def fullRead (value enabled running : UInt64) : ReadReplies :=
  ⟨[],⟨24,0,⟨value,enabled,running⟩⟩,rfl⟩

/-- An opening with nothing in its way. -/
def plainAnswers : Answers where
  gettid := 1
  read _ := fullRead 0 0 0
  perfEventOpen _ := .ok .next
  close _ := 0
  efree := 0

/-- Three reads, the middle one on another thread. -/
def estimateCalls : List (Snapshot × Replies) :=
  [(fun _ => 0,⟨1,fun _ => fullRead 10 100 100⟩),(fun _ => 0,⟨2,fun _ => fullRead 20 200 150⟩),
    (fun _ => 0,⟨1,fun _ => fullRead 30 300 200⟩)]

theorem estimate_exact_plain :
    ∃ s : PlatformSampler, s.requested .cpuCycles ∧
      ((final (readStep true) s estimateCalls).counters .cpuCycles).total.toNat =
        (steps interval origin (accepted s .cpuCycles estimateCalls)).sum := by
  refine ⟨_,?_,(estimate_exact (rfl : platformSamplerOpen MetricId.cpuCycles.mask .currentThread none
    plainAnswers (Kernel.start ∅ 0) = (_,.ok _)) .cpuCycles ?_ estimateCalls).1⟩ <;>
    exact Int.natCast_nonneg _

end Perfidious.Linux
