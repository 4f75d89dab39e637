import Mathlib.Logic.Function.Basic
import Perfidious.CounterMath
import Perfidious.Sampler.Metric
import Perfidious.Library.Run

/-! The Linux sampler backend (`linux/sampler.c`): one independent perf event for each requested
metric, read and scaled over the interval since the previous successful read. -/
namespace Perfidious.Linux
open Library

/-- `struct perfidious_linux_reading`. -/
structure Reading where
  value : UInt64
  enabled : UInt64
  running : UInt64
  deriving DecidableEq, Repr

/-- `struct perfidious_linux_counter`. -/
structure Counter where
  fd : ℤ
  previous : Reading
  total : UInt64
  deriving DecidableEq, Repr

/-- What is left of `ecalloc` in a slot whose metric was not requested. -/
def Counter.unopened : Counter := ⟨-1,⟨0,0,0⟩,0⟩

/-- `struct perfidious_platform_sampler`. A slot with a negative descriptor is never touched after
allocation. -/
structure PlatformSampler where
  threadId : ℤ
  counters : MetricId → Counter
  unopened : ∀ m, (counters m).fd < 0 → counters m = Counter.unopened

/-- The metrics a sampler was opened for are those whose slot holds a descriptor. -/
def PlatformSampler.requested (sampler : PlatformSampler) (m : MetricId) : Prop :=
  0 ≤ (sampler.counters m).fd

/-- `sizeof(struct perfidious_linux_reading)`. -/
def sizeofReading : ℤ := 24

/-- The result of one `read(2)`: the returned length, `errno`, and the bytes delivered. -/
structure RawRead where
  length : ℤ
  errno : Errno
  reading : Reading
  deriving DecidableEq, Repr

def RawRead.interrupted (r : RawRead) : Bool := r.length < 0 && r.errno == EINTR

/-- The results of successive `read(2)` calls on one descriptor. The calls made before `last` may
have any results; the last one is not an interruption, so that the retry loop ends. -/
structure ReadReplies where
  earlier : List RawRead
  last : RawRead
  last_settled : last.interrupted = false

/-- Everything the kernel answers during one call of `perfidious_platform_sampler_read`. -/
structure Replies where
  gettid : ℤ
  read : MetricId → ReadReplies

/-- The `do … while (length < 0 && errno == EINTR)` loop. -/
def readRetrying : List RawRead → RawRead → RawRead
  | [],last => last
  | r::rs,last => if r.interrupted then readRetrying rs last else r

/-- `perfidious_linux_sampler_error`. -/
def samplerError (operation : String) (metric : MetricId) (error : Errno) : Error where
  exceptionCe := .ioException
  code := error
  message := [.text operation,.text " failed for sampler metric ",.text metric.name,.text ": [",
    .number error,.text "] ",.strerror error]

def counterOverflow (metric : MetricId) : Error where
  exceptionCe := .overflowException
  code := 0
  message := [.text "Sampler ",.text metric.name,.text " counter overflow"]

def wrongThread : Error where
  exceptionCe := .wrongThreadException
  code := 0
  message := [.text "Linux current-thread sampler must be read from the thread that opened it"]

/-- The loop body of `perfidious_platform_sampler_read` for one open counter. -/
def advance (int128 : Bool) (metric : MetricId) (counter : Counter) (r : RawRead) :
    Except Error Counter :=
  if r.length ≠ sizeofReading then
    .error (samplerError "read" metric (if r.length < 0 then r.errno else EIO))
  else if r.reading.value < counter.previous.value ∨ r.reading.enabled < counter.previous.enabled ∨
      r.reading.running < counter.previous.running then
    .error (samplerError "counter monotonicity check" metric EIO)
  else
    let value := r.reading.value - counter.previous.value
    let enabled := r.reading.enabled - counter.previous.enabled
    let running := r.reading.running - counter.previous.running
    if running > enabled ∨ (running = 0 ∧ (enabled ≠ 0 ∨ value ≠ 0)) then
      .error (samplerError "counter running-time check" metric EAGAIN)
    else
      match if running ≠ 0 then scaleUint64 int128 value enabled running else some 0 with
      | none => .error (counterOverflow metric)
      | some scaled =>
        if scaled > uint64Max - counter.total then .error (counterOverflow metric)
        else .ok { counter with total := counter.total + scaled, previous := r.reading }

/-- One turn of the metric loop: a slot without a descriptor is skipped. -/
def readCounter (int128 : Bool) (read : MetricId → ReadReplies) (metric : MetricId)
    (counter : Counter) : Except Error Counter :=
  if counter.fd < 0 then .ok counter
  else advance int128 metric counter (readRetrying (read metric).earlier (read metric).last)

/-- The metric loop over the working copy `next`, which stops at the first failure. -/
def readCounters (int128 : Bool) (read : MetricId → ReadReplies) :
    List MetricId → (MetricId → Counter) → Except Error (MetricId → Counter)
  | [],next => .ok next
  | m::ms,next =>
    match readCounter int128 read m (next m) with
    | .error e => .error e
    | .ok c => readCounters int128 read ms (Function.update next m c)

/-- The scaled increment of one interval, as the `scaled` variable holds it before it is added. -/
def intervalScaled (int128 : Bool) (c : Counter) (r : Reading) : Option UInt64 :=
  if r.running - c.previous.running ≠ 0 then
    scaleUint64 int128 (r.value - c.previous.value) (r.enabled - c.previous.enabled)
      (r.running - c.previous.running)
  else some 0

/-- The conditions under which the loop body accepts a reading, in its own comparisons. -/
structure Accepted (int128 : Bool) (c : Counter) (r : RawRead) (scaled : UInt64) : Prop where
  full : r.length = sizeofReading
  value_le : c.previous.value ≤ r.reading.value
  enabled_le : c.previous.enabled ≤ r.reading.enabled
  running_le : c.previous.running ≤ r.reading.running
  ratio : r.reading.running - c.previous.running ≤ r.reading.enabled - c.previous.enabled
  idle : r.reading.running - c.previous.running = 0 →
    r.reading.enabled - c.previous.enabled = 0 ∧ r.reading.value - c.previous.value = 0
  scales : intervalScaled int128 c r.reading = some scaled
  fits : scaled ≤ uint64Max - c.total

/-- Inversion of the loop body: a reading is taken over exactly when it is accepted. -/
theorem advance_eq_ok_iff {int128 : Bool} {m : MetricId} {c c' : Counter} {r : RawRead} :
    advance int128 m c r = .ok c' ↔ ∃ scaled, Accepted int128 c r scaled ∧
      c' = { c with total := c.total + scaled, previous := r.reading } := by
  unfold advance
  by_cases hl : r.length = sizeofReading
  case neg =>
    simp only [ne_eq, hl, not_false_eq_true, if_true, reduceCtorEq, false_iff]
    rintro ⟨_,ha,-⟩
    exact hl ha.full
  rw [if_neg (not_not_intro hl)]
  split
  next hb =>
    simp only [reduceCtorEq, false_iff]
    rintro ⟨_,ha,-⟩
    have := ha.value_le; have := ha.enabled_le; have := ha.running_le
    grind
  next hb =>
    simp only [not_or, UInt64.not_lt] at hb
    dsimp only
    split
    next hi =>
      simp only [reduceCtorEq, false_iff]
      rintro ⟨_,ha,-⟩
      have := ha.ratio; have := ha.idle
      grind
    next hi =>
      simp only [gt_iff_lt, not_or, UInt64.not_lt, not_and, not_not] at hi
      change (match intervalScaled int128 c r.reading with
        | none => _
        | some scaled => _) = _ ↔ _
      cases hs : intervalScaled int128 c r.reading with
      | none =>
        simp only [reduceCtorEq, false_iff]
        rintro ⟨_,ha,-⟩
        rw [ha.scales] at hs
        contradiction
      | some scaled =>
        simp only [gt_iff_lt]
        split
        next ho =>
          simp only [reduceCtorEq, false_iff]
          rintro ⟨s,ha,-⟩
          have he : s = scaled := Option.some.inj (ha.scales.symm.trans hs)
          exact UInt64.not_le.mpr ho (he ▸ ha.fits)
        next ho =>
          constructor
          · intro h
            exact ⟨scaled,⟨hl,hb.1,hb.2.1,hb.2.2,hi.1,hi.2,hs,UInt64.not_lt.mp ho⟩,(Except.ok.inj h).symm⟩
          · rintro ⟨s,ha,rfl⟩
            have he : s = scaled := Option.some.inj (ha.scales.symm.trans hs)
            rw [he]

/-- The exception that the loop body throws at a reading. A failed `read` is reported with its own
`errno`. -/
inductive Refusal (metric : MetricId) (r : RawRead) : Error → Prop
  | failed (negative : r.length < 0) : Refusal metric r (samplerError "read" metric r.errno)
  | short (notFull : r.length ≠ sizeofReading) (nonneg : 0 ≤ r.length) :
      Refusal metric r (samplerError "read" metric EIO)
  | backwards (full : r.length = sizeofReading) :
      Refusal metric r (samplerError "counter monotonicity check" metric EIO)
  | running (full : r.length = sizeofReading) :
      Refusal metric r (samplerError "counter running-time check" metric EAGAIN)
  | overflow (full : r.length = sizeofReading) : Refusal metric r (counterOverflow metric)

theorem advance_refusal {int128 : Bool} {m : MetricId} {c : Counter} {r : RawRead} {e : Error}
    (h : advance int128 m c r = .error e) : Refusal m r e := by
  unfold advance at h
  by_cases hl : r.length = sizeofReading
  · rw [if_neg (not_not_intro hl)] at h
    dsimp only at h
    split at h
    · exact Except.error.inj h ▸ .backwards hl
    split at h
    · exact Except.error.inj h ▸ .running hl
    split at h
    · exact Except.error.inj h ▸ .overflow hl
    split at h
    · exact Except.error.inj h ▸ .overflow hl
    · cases h
  · rw [if_pos hl] at h
    by_cases hneg : r.length < 0
    · rw [if_pos hneg] at h
      exact Except.error.inj h ▸ .failed hneg
    · rw [if_neg hneg] at h
      exact Except.error.inj h ▸ .short hl (not_lt.mp hneg)

theorem readCounter_fd {int128 : Bool} {read : MetricId → ReadReplies} {m : MetricId}
    {c c' : Counter} (h : readCounter int128 read m c = .ok c') : c'.fd = c.fd := by
  unfold readCounter at h
  split at h
  · rw [Except.ok.inj h]
  · obtain ⟨_,-,rfl⟩ := advance_eq_ok_iff.mp h
    rfl

/-- A completed metric loop has taken one turn at every metric and left the others alone. -/
theorem readCounters_ok {int128 : Bool} {read : MetricId → ReadReplies} {ms : List MetricId}
    (hms : ms.Nodup) {next next' : MetricId → Counter}
    (h : readCounters int128 read ms next = .ok next') :
    (∀ m ∈ ms, readCounter int128 read m (next m) = .ok (next' m)) ∧
    ∀ m ∉ ms, next' m = next m := by
  induction ms generalizing next with
  | nil => cases h; simp
  | cons a ms ih =>
    obtain ⟨ha,hnd⟩ := List.nodup_cons.mp hms
    unfold readCounters at h
    split at h
    · contradiction
    · rename_i c hc
      obtain ⟨hin,hout⟩ := ih hnd h
      constructor
      · intro m hm
        rcases List.mem_cons.mp hm with rfl | hm
        · rw [hc, hout m ha, Function.update_self]
        · have hne : m ≠ a := fun he => ha (he ▸ hm)
          simpa [Function.update_of_ne hne] using hin m hm
      · intro m hm
        simp only [List.mem_cons, not_or] at hm
        rw [hout m hm.2, Function.update_of_ne hm.1]

/-- The metric loop fails with the exception of the first metric whose turn fails. -/
theorem readCounters_error_first {int128 : Bool} {read : MetricId → ReadReplies} {ms : List MetricId}
    (hms : ms.Nodup) {next : MetricId → Counter} {e : Error}
    (h : readCounters int128 read ms next = .error e) :
    ∃ earlier m later, ms = earlier ++ m::later ∧
      (∀ j ∈ earlier, ∃ c, readCounter int128 read j (next j) = .ok c) ∧
      readCounter int128 read m (next m) = .error e := by
  induction ms generalizing next with
  | nil => cases h
  | cons a ms ih =>
    obtain ⟨ha,hnd⟩ := List.nodup_cons.mp hms
    unfold readCounters at h
    cases hc : readCounter int128 read a (next a) with
    | error e' =>
      rw [hc] at h
      cases h
      exact ⟨[],a,ms,rfl,by simp,hc⟩
    | ok c =>
      rw [hc] at h
      obtain ⟨earlier,m,later,rfl,hearlier,hm⟩ := ih hnd h
      have hother : ∀ j ∈ earlier ++ m::later, Function.update next a c j = next j := by
        intro j hj
        have hja : j ≠ a := by
          rintro rfl
          exact ha hj
        exact Function.update_of_ne hja _ _
      refine ⟨a::earlier,m,later,rfl,?_,?_⟩
      · intro j hj
        cases hj with
        | head => exact ⟨c,hc⟩
        | tail _ hj =>
          rw [← hother j (List.mem_append_left _ hj)]
          exact hearlier j hj
      · rw [← hother m (by simp)]
        exact hm

/-- The metric loop completes exactly when every single turn does. -/
theorem readCounters_isOk_iff {int128 : Bool} {read : MetricId → ReadReplies} {ms : List MetricId}
    (hms : ms.Nodup) (next : MetricId → Counter) :
    (∃ next', readCounters int128 read ms next = .ok next') ↔
      ∀ m ∈ ms, ∃ c, readCounter int128 read m (next m) = .ok c := by
  constructor
  · rintro ⟨next',h⟩ m hm
    exact ⟨_,(readCounters_ok hms h).1 m hm⟩
  · intro h
    induction ms generalizing next with
    | nil => exact ⟨next,rfl⟩
    | cons a ms ih =>
      obtain ⟨ha,hnd⟩ := List.nodup_cons.mp hms
      obtain ⟨c,hc⟩ := h a (by simp)
      have hrest : ∀ m ∈ ms, ∃ c', readCounter int128 read m (Function.update next a c m) = .ok c' := by
        intro m hm
        have hne : m ≠ a := fun he => ha (he ▸ hm)
        simpa [Function.update_of_ne hne] using h m (by simp [hm])
      simpa [readCounters,hc] using ih hnd _ hrest

theorem readCounters_unopened {int128 : Bool} {read : MetricId → ReadReplies}
    {sampler : PlatformSampler} {next : MetricId → Counter}
    (h : readCounters int128 read MetricId.all sampler.counters = .ok next) (m : MetricId)
    (hm : (next m).fd < 0) : next m = Counter.unopened := by
  have hr := (readCounters_ok MetricId.nodup_all h).1 m (MetricId.mem_all m)
  have hf : (sampler.counters m).fd < 0 := by rwa [← readCounter_fd hr]
  rw [readCounter, if_pos hf] at hr
  rw [← Except.ok.inj hr]
  exact sampler.unopened m hf

/-- `perfidious_platform_sampler_read`. -/
def platformSamplerRead (int128 : Bool) (sampler : PlatformSampler) (snapshot : Snapshot)
    (r : Replies) : PlatformSampler × ReadOutcome :=
  if r.gettid ≠ sampler.threadId then (sampler,⟨.error wrongThread,snapshot⟩)
  else
    match h : readCounters int128 r.read MetricId.all sampler.counters with
    | .error e => (sampler,⟨.error e,snapshot⟩)
    | .ok next =>
      (⟨sampler.threadId,next,readCounters_unopened h⟩,⟨.ok (),fun m => (next m).total⟩)

/-- Only the descriptors that are there are read. -/
theorem readCounters_congr {int128 : Bool} {read read' : MetricId → ReadReplies} {ms : List MetricId}
    {next : MetricId → Counter} (h : ∀ m, 0 ≤ (next m).fd → read m = read' m) :
    readCounters int128 read ms next = readCounters int128 read' ms next := by
  induction ms generalizing next with
  | nil => rfl
  | cons a ms ih =>
    have hturn : readCounter int128 read a (next a) = readCounter int128 read' a (next a) := by
      unfold readCounter
      split
      · rfl
      next hfd => rw [h a (not_lt.mp hfd)]
    unfold readCounters
    rw [hturn]
    cases hc : readCounter int128 read' a (next a) with
    | error e => rfl
    | ok c =>
      apply ih
      intro m hm
      by_cases hma : m = a
      · subst hma
        rw [Function.update_self, readCounter_fd hc] at hm
        exact h m hm
      · rw [Function.update_of_ne hma] at hm
        exact h m hm

theorem platformSamplerRead_congr {int128 : Bool} {sampler : PlatformSampler} {r r' : Replies}
    (hthread : r.gettid = r'.gettid) (h : ∀ m, sampler.requested m → r.read m = r'.read m)
    (snapshot : Snapshot) :
    platformSamplerRead int128 sampler snapshot r = platformSamplerRead int128 sampler snapshot r' := by
  have hloop : readCounters int128 r.read MetricId.all sampler.counters =
      readCounters int128 r'.read MetricId.all sampler.counters := readCounters_congr h
  unfold platformSamplerRead
  rw [hthread]
  split
  · rfl
  split
  next he =>
    split
    next he' =>
      cases he.symm.trans (hloop.trans he')
      rfl
    next he' => cases he.symm.trans (hloop.trans he')
  next he =>
    split
    next he' => cases he.symm.trans (hloop.trans he')
    next he' =>
      cases he.symm.trans (hloop.trans he')
      rfl

/-- A call either fails and hands both arguments back, or completes the metric loop and commits
its working copy. -/
theorem platformSamplerRead_cases (int128 : Bool) (sampler : PlatformSampler)
    (snapshot : Snapshot) (r : Replies) :
    (∃ e, platformSamplerRead int128 sampler snapshot r = (sampler,⟨.error e,snapshot⟩)) ∨
    r.gettid = sampler.threadId ∧ ∃ sampler' : PlatformSampler,
      readCounters int128 r.read MetricId.all sampler.counters = .ok sampler'.counters ∧
      platformSamplerRead int128 sampler snapshot r =
        (sampler',⟨.ok (),fun m => (sampler'.counters m).total⟩) := by
  unfold platformSamplerRead
  split_ifs with ht
  · exact .inl ⟨_,rfl⟩
  · split
    · exact .inl ⟨_,rfl⟩
    · rename_i next h
      exact .inr ⟨not_not.mp ht,⟨sampler.threadId,next,readCounters_unopened h⟩,h,rfl⟩

/-- A failed read leaves the counters and the caller's snapshot as they were. -/
theorem read_failure_silent {int128 : Bool} {sampler : PlatformSampler} {snapshot : Snapshot}
    {r : Replies} (h : (platformSamplerRead int128 sampler snapshot r).2.succeeded = false) :
    (platformSamplerRead int128 sampler snapshot r).1 = sampler ∧
    (platformSamplerRead int128 sampler snapshot r).2.snapshot = snapshot := by
  rcases platformSamplerRead_cases int128 sampler snapshot r with ⟨e,he⟩ | ⟨-,_,-,he⟩
  · simp [he]
  · simp [he] at h

/-- One turn at an open slot consumes an accepted reading. -/
theorem readCounter_requested {int128 : Bool} {read : MetricId → ReadReplies} {m : MetricId}
    {c c' : Counter} (hf : 0 ≤ c.fd) :
    readCounter int128 read m c = .ok c' ↔
      ∃ scaled, Accepted int128 c (readRetrying (read m).earlier (read m).last) scaled ∧
        c' = { c with
          total := c.total + scaled
          previous := (readRetrying (read m).earlier (read m).last).reading } := by
  rw [readCounter, if_neg (by omega), advance_eq_ok_iff]

/-- The reading that ends the retry loop for a metric. -/
def Replies.settled (r : Replies) (m : MetricId) : RawRead :=
  readRetrying (r.read m).earlier (r.read m).last

/-- A failed read ran on another thread, or reports the first requested metric with a reading that was
refused. -/
theorem read_refused {int128 : Bool} {sampler : PlatformSampler} {snapshot : Snapshot} {r : Replies}
    {e : Error} (h : (platformSamplerRead int128 sampler snapshot r).2.result = .error e) :
    e = wrongThread ∨ ∃ earlier m later, MetricId.all = earlier ++ m::later ∧
      (∀ j ∈ earlier, ∃ c, readCounter int128 r.read j (sampler.counters j) = .ok c) ∧
      sampler.requested m ∧ Refusal m (r.settled m) e := by
  unfold platformSamplerRead at h
  split at h
  · exact .inl (Except.error.inj h).symm
  split at h
  next e' he =>
    cases h
    obtain ⟨earlier,m,later,hall,hearlier,hm⟩ := readCounters_error_first MetricId.nodup_all he
    unfold readCounter at hm
    split at hm
    · cases hm
    next hfd => exact .inr ⟨earlier,m,later,hall,hearlier,not_lt.mp hfd,advance_refusal hm⟩
  · cases h

/-- A read succeeds exactly when it runs on the opening thread and every requested metric delivers
an acceptable reading. -/
theorem read_succeeds_iff (int128 : Bool) (sampler : PlatformSampler) (snapshot : Snapshot)
    (r : Replies) :
    (platformSamplerRead int128 sampler snapshot r).2.succeeded = true ↔
      r.gettid = sampler.threadId ∧
      ∀ m, sampler.requested m → ∃ scaled,
        Accepted int128 (sampler.counters m) (r.settled m) scaled := by
  have hloop := @readCounters_isOk_iff int128 r.read _ MetricId.nodup_all sampler.counters
  have hturn : (∀ m ∈ MetricId.all, ∃ c, readCounter int128 r.read m (sampler.counters m) = .ok c) ↔
      ∀ m, sampler.requested m → ∃ scaled,
        Accepted int128 (sampler.counters m) (r.settled m) scaled := by
    constructor
    · intro h m hm
      obtain ⟨c,hc⟩ := h m (MetricId.mem_all m)
      obtain ⟨scaled,ha,-⟩ := (readCounter_requested hm).mp hc
      exact ⟨scaled,ha⟩
    · intro h m _
      by_cases hm : sampler.requested m
      · obtain ⟨scaled,ha⟩ := h m hm
        exact ⟨_,(readCounter_requested hm).mpr ⟨scaled,ha,rfl⟩⟩
      · exact ⟨_,if_pos (by unfold PlatformSampler.requested at hm; omega)⟩
  rw [← hturn, ← hloop]
  unfold platformSamplerRead
  split_ifs with ht
  · simp [ht]
  · rw [not_not] at ht
    split <;> rename_i h <;> simp [ht,h]

/-- A successful read commits the accepted reading of every requested metric, publishes the new
totals, and publishes zero for the metrics that were not requested. -/
theorem read_success_commits {int128 : Bool} {sampler : PlatformSampler} {snapshot : Snapshot}
    {r : Replies} (h : (platformSamplerRead int128 sampler snapshot r).2.succeeded = true)
    (m : MetricId) :
    let sampler' := (platformSamplerRead int128 sampler snapshot r).1
    let snapshot' := (platformSamplerRead int128 sampler snapshot r).2.snapshot
    (sampler.requested m → ∃ scaled, Accepted int128 (sampler.counters m) (r.settled m) scaled ∧
      sampler'.counters m = { sampler.counters m with
        total := (sampler.counters m).total + scaled, previous := (r.settled m).reading } ∧
      snapshot' m = (sampler.counters m).total + scaled) ∧
    (¬ sampler.requested m → sampler'.counters m = sampler.counters m ∧ snapshot' m = 0) := by
  rcases platformSamplerRead_cases int128 sampler snapshot r with ⟨e,he⟩ | ⟨-,sampler',hloop,he⟩
  · simp [he] at h
  · have hturn := (readCounters_ok MetricId.nodup_all hloop).1 m (MetricId.mem_all m)
    simp only [he]
    constructor
    · intro hm
      obtain ⟨scaled,ha,hc⟩ := (readCounter_requested hm).mp hturn
      exact ⟨scaled,ha,hc,by rw [hc]⟩
    · intro hm
      have hf : (sampler.counters m).fd < 0 := by unfold PlatformSampler.requested at hm; omega
      rw [readCounter, if_pos hf] at hturn
      have hc := (Except.ok.inj hturn).symm
      exact ⟨hc,by rw [hc,sampler.unopened m hf]; rfl⟩

/-- One call of a run of reads; every call brings its own snapshot buffer. -/
def readStep (int128 : Bool) (sampler : PlatformSampler) (call : Snapshot × Replies) :
    PlatformSampler × ReadOutcome :=
  platformSamplerRead int128 sampler call.1 call.2

/-- Failed reads are transparent: each leaves the sampler and the snapshot alone, a successful one
commits all requested metrics together, and deleting the failed reads from a run changes neither
the outcomes of the others nor the final sampler. -/
theorem failed_reads_transparent (int128 : Bool) (sampler : PlatformSampler) :
    (∀ snapshot r,
      let sampler' := (platformSamplerRead int128 sampler snapshot r).1
      let outcome := (platformSamplerRead int128 sampler snapshot r).2
      (outcome.succeeded = true ↔ r.gettid = sampler.threadId ∧
        ∀ m, sampler.requested m → ∃ scaled,
          Accepted int128 (sampler.counters m) (r.settled m) scaled) ∧
      (outcome.succeeded = false → sampler' = sampler ∧ outcome.snapshot = snapshot) ∧
      (outcome.succeeded = true → ∀ m,
        (sampler.requested m → ∃ scaled,
          Accepted int128 (sampler.counters m) (r.settled m) scaled ∧
          sampler'.counters m = { sampler.counters m with
            total := (sampler.counters m).total + scaled, previous := (r.settled m).reading } ∧
          outcome.snapshot m = (sampler.counters m).total + scaled) ∧
        (¬ sampler.requested m →
          sampler'.counters m = sampler.counters m ∧ outcome.snapshot m = 0))) ∧
    ∀ calls : List (Snapshot × Replies),
      let successful := kept (readStep int128) ReadOutcome.succeeded sampler calls
      final (readStep int128) sampler successful = final (readStep int128) sampler calls ∧
      outputs (readStep int128) sampler successful =
        (outputs (readStep int128) sampler calls).filter ReadOutcome.succeeded := by
  refine ⟨fun snapshot r => ⟨read_succeeds_iff int128 sampler snapshot r,read_failure_silent,
    read_success_commits⟩,fun calls => run_kept (readStep int128) ?_⟩
  intro s call h
  exact (read_failure_silent h).1

end Perfidious.Linux
