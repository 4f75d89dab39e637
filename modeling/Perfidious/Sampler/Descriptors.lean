import Perfidious.Library.Lease
import Perfidious.Sampler.Linux
import Perfidious.Sampler.Indifference

/-! The perf descriptors of the Linux sampler backend (`linux/sampler.c`): probing, opening and closing,
and who owns which descriptor while samplers come and go. -/
namespace Perfidious.Linux
open Library

def ENOENT : Errno := 2
def EBADF : Errno := 9
def ENODEV : Errno := 19
def EINVAL : Errno := 22
def EOPNOTSUPP : Errno := 95

/-- `struct perf_event_attr`, as far as the sampler sets it; `PERF_TYPE_HARDWARE` is 0 and
`PERF_TYPE_SOFTWARE` is 1. -/
structure PerfEventAttr where
  type : UInt32
  config : UInt64
  disabled : Bool
  excludeHv : Bool
  readFormat : UInt64
  deriving DecidableEq, Repr

/-- `perfidious_linux_metrics`. -/
def metricConfig : MetricId → UInt32 × UInt64
  | .cpuTime => (1,1)
  | .pageFaults => (1,2)
  | .contextSwitches => (1,3)
  | .cpuCycles => (0,0)
  | .instructions => (0,1)

/-- The attributes in `perfidious_linux_open_metric`. The read format is
`PERF_FORMAT_TOTAL_TIME_ENABLED | PERF_FORMAT_TOTAL_TIME_RUNNING`. -/
def metricAttr (metric : MetricId) (disabled : Bool) : PerfEventAttr :=
  ⟨(metricConfig metric).1,(metricConfig metric).2,disabled,true,3⟩

/-- What an open descriptor of the process refers to. -/
inductive File
  | perfEvent (attr : PerfEventAttr)
  | other
  deriving DecidableEq, Repr

/-- The descriptor table of the process and `errno`. -/
structure Kernel where
  descriptors : Leases File
  errno : Errno

/-- The kernel either fails with an `errno` or picks a descriptor that is not open. -/
abbrev OpenReply := Except Errno Fresh

namespace Kernel

/-- `perf_event_open` for the current thread on any processor, with close-on-exec. -/
def perfEventOpen (attr : PerfEventAttr) (reply : OpenReply) (k : Kernel) : Kernel × ℤ :=
  match reply with
  | .error errno => ({ k with errno },-1)
  | .ok fd =>
    ({ k with descriptors := (k.descriptors.take fd (.perfEvent attr)).1 },
      (k.descriptors.take fd (.perfEvent attr)).2)

/-- `close(2)`, which frees the descriptor whatever it reports, and may leave anything in `errno`. -/
def close (fd : ℤ) (errno : Errno) (k : Kernel) : Kernel := ⟨k.descriptors.giveBack fd.toNat,errno⟩

/-- A descriptor table in which nothing was opened yet by the sampler. -/
def start (files : Table File) (errno : Errno) : Kernel := ⟨⟨files,fun _ => 0,fun _ => 0⟩,errno⟩

end Kernel

/-- The answers of the environment to one call into the backend: for `read`, those of a descriptor
that is open; for `close` and `efree`, what `errno` holds afterwards. -/
structure Answers extends Replies where
  perfEventOpen : MetricId → OpenReply
  close : MetricId → Errno
  efree : Errno

/-- `perfidious_linux_open_metric`. -/
def openMetric (metric : MetricId) (disabled : Bool) (r : Answers) (k : Kernel) : Kernel × ℤ :=
  k.perfEventOpen (metricAttr metric disabled) (r.perfEventOpen metric)

def unavailable (error : Errno) : Bool :=
  error == ENOENT || error == ENODEV || error == EOPNOTSUPP || error == EINVAL

/-- The loop of `perfidious_platform_sampler_supported_metrics`. -/
def probeMetrics (requestedMetrics : UInt32) (r : Answers) :
    List MetricId → UInt32 → Kernel → Kernel × Except Error UInt32
  | [],supported,k => (k,.ok supported)
  | m::ms,supported,k =>
    if requests requestedMetrics m.mask then
      match openMetric m true r k with
      | (k,fd) =>
        if fd < 0 then
          if unavailable k.errno then probeMetrics requestedMetrics r ms supported k
          else (k,.error (samplerError "perf_event_open" m k.errno))
        else probeMetrics requestedMetrics r ms (supported ||| m.mask) (k.close fd (r.close m))
    else probeMetrics requestedMetrics r ms supported k

/-- `perfidious_platform_sampler_supported_metrics`. -/
def platformSamplerSupportedMetrics (requestedMetrics : UInt32) (scope : ScopeId) (r : Answers)
    (k : Kernel) : Kernel × Except Error UInt32 :=
  if scope ≠ .currentThread then (k,.ok 0)
  else probeMetrics requestedMetrics r MetricId.all 0 k

/-- The loop of `perfidious_platform_sampler_close`. -/
def closeCounters (counters : MetricId → Counter) (r : Answers) : List MetricId → Kernel → Kernel
  | [],k => k
  | m::ms,k =>
    closeCounters counters r ms
      (if 0 ≤ (counters m).fd then k.close (counters m).fd (r.close m) else k)

/-- `perfidious_platform_sampler_close`. -/
def platformSamplerClose (counters : MetricId → Counter) (r : Answers) (k : Kernel) : Kernel :=
  { closeCounters counters r MetricId.all k with errno := r.efree }

/-- The loop of `perfidious_platform_sampler_open`. The `errno` of a failed call is saved before the
cleanup. -/
def openCounters (metrics : UInt32) (r : Answers) :
    List MetricId → (MetricId → Counter) → Kernel → Kernel × Except Error (MetricId → Counter)
  | [],counters,k => (k,.ok counters)
  | m::ms,counters,k =>
    if requests metrics m.mask then
      match openMetric m false r k with
      | (k,fd) =>
        let counters := Function.update counters m { counters m with fd }
        if fd < 0 then
          let error := k.errno
          (platformSamplerClose counters r k,.error (samplerError "perf_event_open" m error))
        else openCounters metrics r ms counters k
    else openCounters metrics r ms counters k

/-- `openMetric` returns `-1` and sets `errno`, or returns a descriptor that it took. -/
theorem openMetric_cases (metric : MetricId) (disabled : Bool) (r : Answers) (k : Kernel) :
    (∃ errno, r.perfEventOpen metric = .error errno ∧
      openMetric metric disabled r k = ({ k with errno },-1)) ∨
    ∃ fd descriptors, ∃ n : ℕ, k.descriptors.take fd (.perfEvent (metricAttr metric disabled)) =
        (descriptors,n) ∧
      openMetric metric disabled r k = ({ k with descriptors },(n : ℤ)) := by
  unfold openMetric Kernel.perfEventOpen
  cases r.perfEventOpen metric with
  | error errno => exact .inl ⟨errno,rfl,rfl⟩
  | ok fd => exact .inr ⟨fd,_,_,rfl,rfl⟩

theorem unopened_openCounters {metrics : UInt32} {r : Answers} {ms : List MetricId}
    {counters counters' : MetricId → Counter} {k k' : Kernel}
    (hc : ∀ m, (counters m).fd < 0 → counters m = Counter.unopened)
    (h : openCounters metrics r ms counters k = (k',.ok counters')) (m : MetricId)
    (hm : (counters' m).fd < 0) : counters' m = Counter.unopened := by
  induction ms generalizing counters k with
  | nil =>
    cases h
    exact hc m hm
  | cons a ms ih =>
    unfold openCounters at h
    split at h
    · dsimp only at h
      split at h
      · cases h
      next hfd =>
        refine ih ?_ h
        intro j hj
        by_cases hja : j = a
        · subst hja
          rw [Function.update_self] at hj
          exact absurd hj hfd
        · rw [Function.update_of_ne hja] at hj ⊢
          exact hc j hj
    · exact ih hc h

/-- `perfidious_platform_sampler_open`. `sampler` is what the output pointer holds before. -/
def platformSamplerOpen (metrics : UInt32) (_scope : ScopeId) (sampler : Option PlatformSampler)
    (r : Answers) (k : Kernel) : Kernel × Except (Error × Option PlatformSampler) PlatformSampler :=
  match h : openCounters metrics r MetricId.all (fun _ => Counter.unopened) k with
  | (k,.error e) => (k,.error (e,sampler))
  | (k,.ok counters) => (k,.ok ⟨r.gettid,counters,unopened_openCounters (fun _ _ => rfl) h⟩)

/-- A read of a descriptor that is not open. -/
def badRead : ReadReplies := ⟨[],⟨-1,EBADF,⟨0,0,0⟩⟩,rfl⟩

/-- What the reads of a sampler's descriptors return. -/
def Kernel.replies (counters : MetricId → Counter) (r : Replies) (k : Kernel) : Replies where
  gettid := r.gettid
  read m :=
    match k.descriptors.table.lookup (counters m).fd.toNat with
    | some (.perfEvent _) => r.read m
    | _ => badRead

/-- The Linux backend. -/
def platform (int128 : Bool) : Platform Kernel PlatformSampler Answers where
  samplerSupportedMetrics := platformSamplerSupportedMetrics
  samplerOpen := platformSamplerOpen
  samplerRead sampler snapshot r k :=
    (k,platformSamplerRead int128 sampler snapshot (k.replies sampler.counters r.toReplies))
  samplerClose sampler := platformSamplerClose sampler.counters

/-- The descriptor in a slot. -/
def Counter.descriptor (c : Counter) : Option ℕ := if c.fd < 0 then none else some c.fd.toNat

@[simp] theorem descriptor_unopened : Counter.unopened.descriptor = none := rfl

theorem descriptor_of_nonneg {c : Counter} (h : 0 ≤ c.fd) : c.descriptor = some c.fd.toNat :=
  if_neg (not_lt.mpr h)

theorem descriptor_of_neg {c : Counter} (h : c.fd < 0) : c.descriptor = none := if_pos h

/-- The metric slots of the samplers hold descriptors of enabled events. -/
def slotFile (slot : ℕ × MetricId) : File := .perfEvent (metricAttr slot.2 false)

/-- The slots of one sampler in place of those of another one, or of none. -/
def withSlots (handle : ℕ) (counters : MetricId → Counter) (holds : ℕ × MetricId → Option ℕ)
    (slot : ℕ × MetricId) : Option ℕ :=
  if slot.1 = handle then (counters slot.2).descriptor else holds slot

theorem withSlots_update (handle : ℕ) (counters : MetricId → Counter) (m : MetricId) (c : Counter)
    (holds : ℕ × MetricId → Option ℕ) :
    withSlots handle (Function.update counters m c) holds =
      Function.update (withSlots handle counters holds) (handle,m) c.descriptor := by
  funext ⟨i,j⟩
  by_cases hi : i = handle
  · subst hi
    by_cases hj : j = m
    · subst hj
      simp [withSlots]
    · have hne : (i,j) ≠ (i,m) := fun h => hj (Prod.mk.inj h).2
      simp [withSlots,Function.update_of_ne hne,Function.update_of_ne hj]
  · have hne : (i,j) ≠ (handle,m) := fun h => hi (Prod.mk.inj h).1
    rw [Function.update_of_ne hne]
    simp [withSlots,hi]

theorem withSlots_congr {handle : ℕ} {counters counters' : MetricId → Counter}
    (h : ∀ m, (counters m).fd = (counters' m).fd) (holds : ℕ × MetricId → Option ℕ) :
    withSlots handle counters holds = withSlots handle counters' holds := by
  funext slot
  simp [withSlots,Counter.descriptor,h]

/-- A sampler without descriptors. -/
theorem withSlots_unopened {handle : ℕ} {holds : ℕ × MetricId → Option ℕ}
    (h : ∀ m, holds (handle,m) = none) : withSlots handle (fun _ => Counter.unopened) holds = holds := by
  funext ⟨i,m⟩
  by_cases hi : i = handle
  · subst hi
    simp [withSlots,h]
  · simp [withSlots,hi]

/-- The open descriptors of the process are those of `files` and those that `holds` assigns. -/
def Kernel.Holds (files : Table File) (holds : ℕ × MetricId → Option ℕ) (k : Kernel) : Prop :=
  k.descriptors.Held files slotFile holds

variable {files : Table File} {holds : ℕ × MetricId → Option ℕ}

/-- Probing leaves the descriptors as they were. -/
theorem probeMetrics_holds {requestedMetrics : UInt32} {r : Answers} {ms : List MetricId}
    {supported : UInt32} {k : Kernel} (h : k.Holds files holds) :
    (probeMetrics requestedMetrics r ms supported k).1.Holds files holds := by
  induction ms generalizing supported k with
  | nil => exact h
  | cons m ms ih =>
    unfold probeMetrics
    split
    · rcases openMetric_cases m true r k with ⟨errno,-,heq⟩ | ⟨fd,descriptors,n,htake,heq⟩
      · rw [heq]
        dsimp only
        rw [if_pos (by decide)]
        have hk : ({ k with errno } : Kernel).Holds files holds := h
        split
        · exact ih hk
        · exact hk
      · rw [heq]
        dsimp only
        rw [if_neg (by omega)]
        apply ih
        have hback := Leases.Held.take_giveBack h fd (.perfEvent (metricAttr m true))
        rw [htake] at hback
        exact hback
    · exact ih h

theorem supportedMetrics_holds (requestedMetrics : UInt32) (scope : ScopeId) (r : Answers)
    {k : Kernel} (h : k.Holds files holds) :
    (platformSamplerSupportedMetrics requestedMetrics scope r k).1.Holds files holds := by
  unfold platformSamplerSupportedMetrics
  split
  · exact h
  · exact probeMetrics_holds h

/-- The closing loop closes each descriptor of its slots once. The slots that were passed hold
nothing any more. -/
theorem closeCounters_holds {handle : ℕ} {counters left : MetricId → Counter} {r : Answers}
    {ms : List MetricId} {k : Kernel} (hms : ms.Nodup) (hleft : ∀ m ∈ ms, left m = counters m)
    (h : k.Holds files (withSlots handle left holds)) :
    (closeCounters counters r ms k).Holds files
      (withSlots handle (fun m => if m ∈ ms then Counter.unopened else left m) holds) := by
  induction ms generalizing left k with
  | nil => simpa [closeCounters] using h
  | cons a ms ih =>
    obtain ⟨ha,hnd⟩ := List.nodup_cons.mp hms
    have hrest : (fun m => if m ∈ a::ms then Counter.unopened else left m) =
        fun m => if m ∈ ms then Counter.unopened else Function.update left a Counter.unopened m := by
      funext m
      by_cases hma : m = a
      · subst hma
        simp
      · simp [hma]
    have hnext : ∀ m ∈ ms, Function.update left a Counter.unopened m = counters m := by
      intro m hm
      have hma : m ≠ a := fun hma => ha (hma ▸ hm)
      rw [Function.update_of_ne hma]
      exact hleft m (List.mem_cons_of_mem _ hm)
    have hla := hleft a List.mem_cons_self
    unfold closeCounters
    rw [hrest]
    apply ih hnd hnext
    rw [withSlots_update, descriptor_unopened]
    have hslot : withSlots handle left holds (handle,a) = (counters a).descriptor := by
      simp [withSlots,hla]
    by_cases hfd : 0 ≤ (counters a).fd
    · rw [if_pos hfd]
      rw [descriptor_of_nonneg hfd] at hslot
      exact Leases.Held.giveBack h hslot
    · rw [if_neg hfd]
      rw [descriptor_of_neg (not_le.mp hfd)] at hslot
      rwa [← hslot, Function.update_eq_self]

/-- `perfidious_platform_sampler_close` closes the descriptors of its sampler and no others. -/
theorem close_holds {handle : ℕ} {counters : MetricId → Counter} {r : Answers} {k : Kernel}
    (hfree : ∀ m, holds (handle,m) = none) (h : k.Holds files (withSlots handle counters holds)) :
    (platformSamplerClose counters r k).Holds files holds := by
  have hclosed := closeCounters_holds (r := r) MetricId.nodup_all (fun _ _ => rfl) h
  simp only [MetricId.mem_all, if_true, withSlots_unopened hfree] at hclosed
  exact hclosed

/-- `perf_event_open` failed for a requested metric and this is its exception, with the `errno` of that
call; the calls before it went well enough to go on. -/
def OpenFailed (passes : OpenReply → Bool) (metrics : UInt32) (r : Answers) (ms : List MetricId)
    (e : Error) : Prop :=
  ∃ earlier m later errno, ms = earlier ++ m::later ∧
    (∀ j ∈ earlier, requests metrics j.mask = true → passes (r.perfEventOpen j) = true) ∧
    requests metrics m.mask = true ∧ r.perfEventOpen m = .error errno ∧
    e = samplerError "perf_event_open" m errno

theorem OpenFailed.cons {passes : OpenReply → Bool} {metrics : UInt32} {r : Answers} {a : MetricId}
    {ms : List MetricId} {e : Error} (h : OpenFailed passes metrics r ms e)
    (ha : requests metrics a.mask = true → passes (r.perfEventOpen a) = true) :
    OpenFailed passes metrics r (a::ms) e := by
  obtain ⟨earlier,m,later,errno,rfl,hearlier,hm⟩ := h
  refine ⟨a::earlier,m,later,errno,rfl,?_,hm⟩
  intro j hj
  cases hj with
  | head => exact ha
  | tail _ hj => exact hearlier j hj

theorem OpenFailed.head {passes : OpenReply → Bool} {metrics : UInt32} {r : Answers} {m : MetricId}
    {ms : List MetricId} {errno : Errno} (hreq : requests metrics m.mask = true)
    (hreply : r.perfEventOpen m = .error errno) :
    OpenFailed passes metrics r (m::ms) (samplerError "perf_event_open" m errno) :=
  ⟨[],m,ms,errno,rfl,by simp,hreq,hreply,rfl⟩

/-- A probe goes on after a descriptor, and after an `errno` that says the event does not exist. -/
def probePasses : OpenReply → Bool
  | .ok _ => true
  | .error errno => unavailable errno

theorem openMetric_neg {m : MetricId} {disabled : Bool} {r : Answers} {k : Kernel}
    (h : (openMetric m disabled r k).2 < 0) :
    r.perfEventOpen m = .error (openMetric m disabled r k).1.errno := by
  rcases openMetric_cases m disabled r k with ⟨errno,hreply,heq⟩ | ⟨fd,descriptors,n,-,heq⟩
  · rw [heq]
    exact hreply
  · rw [heq] at h
    exact absurd h (by simp)

theorem openMetric_nonneg {m : MetricId} {disabled : Bool} {r : Answers} {k : Kernel}
    (h : ¬ (openMetric m disabled r k).2 < 0) : (r.perfEventOpen m).isOk = true := by
  unfold openMetric Kernel.perfEventOpen at h
  cases hreply : r.perfEventOpen m with
  | error errno =>
    rw [hreply] at h
    exact absurd (show (-1 : ℤ) < 0 by decide) h
  | ok fd => rfl

theorem probeMetrics_error {requestedMetrics : UInt32} {r : Answers} {ms : List MetricId}
    {supported : UInt32} {k k' : Kernel} {e : Error}
    (h : probeMetrics requestedMetrics r ms supported k = (k',.error e)) :
    OpenFailed probePasses requestedMetrics r ms e := by
  induction ms generalizing supported k with
  | nil => cases h
  | cons m ms ih =>
    unfold probeMetrics at h
    split at h
    next hreq =>
      dsimp only at h
      split at h
      next hneg =>
        have hreply := openMetric_neg hneg
        split at h
        next hunavailable =>
          apply (ih h).cons
          intro _
          rw [hreply]
          exact hunavailable
        · cases h
          exact .head hreq hreply
      next hpos =>
        apply (ih h).cons
        intro _
        have hok := openMetric_nonneg hpos
        cases hreply : r.perfEventOpen m with
        | error errno =>
          rw [hreply] at hok
          cases hok
        | ok fd => rfl
    next hreq =>
      apply (ih h).cons
      intro hyes
      exact absurd hyes hreq

theorem supportedMetrics_error {requestedMetrics : UInt32} {scope : ScopeId} {r : Answers}
    {k k' : Kernel} {e : Error}
    (h : platformSamplerSupportedMetrics requestedMetrics scope r k = (k',.error e)) :
    OpenFailed probePasses requestedMetrics r MetricId.all e := by
  unfold platformSamplerSupportedMetrics at h
  split at h
  · cases h
  · exact probeMetrics_error h

/-- The slot that is filled next holds what `perf_event_open` returned, if anything. -/
theorem openMetric_holds {handle : ℕ} {counters : MetricId → Counter} {m : MetricId} {r : Answers}
    {k k' : Kernel} {fd : ℤ} (hm : counters m = Counter.unopened)
    (h : k.Holds files (withSlots handle counters holds)) (hopen : openMetric m false r k = (k',fd)) :
    k'.Holds files (withSlots handle (Function.update counters m { counters m with fd }) holds) := by
  have hslot : withSlots handle counters holds (handle,m) = none := by simp [withSlots,hm]
  rw [withSlots_update]
  rcases openMetric_cases m false r k with ⟨errno,-,heq⟩ | ⟨choice,descriptors,n,htake,heq⟩
  · cases hopen.symm.trans heq
    have hnone : ({ counters m with fd := -1 } : Counter).descriptor = none := rfl
    rw [hnone, ← hslot, Function.update_eq_self]
    exact h
  · cases hopen.symm.trans heq
    have hsome : ({ counters m with fd := n } : Counter).descriptor = some n := by
      simp [Counter.descriptor]
    have htaken := Leases.Held.take h choice hslot
    have htake' : k.descriptors.take choice (slotFile (handle,m)) = (descriptors,n) := htake
    rw [htake'] at htaken
    rw [hsome]
    exact htaken

/-- A failed opening loop reports the call that failed. -/
theorem openCounters_failed {metrics : UInt32} {r : Answers} {ms : List MetricId}
    {counters : MetricId → Counter} {k k' : Kernel} {e : Error}
    (h : openCounters metrics r ms counters k = (k',.error e)) :
    OpenFailed Except.isOk metrics r ms e := by
  induction ms generalizing counters k with
  | nil => cases h
  | cons a ms ih =>
    unfold openCounters at h
    split at h
    next hreq =>
      dsimp only at h
      split at h
      next hneg =>
        cases h
        exact .head hreq (openMetric_neg hneg)
      next hpos => exact (ih h).cons fun _ => openMetric_nonneg hpos
    next hreq => exact (ih h).cons fun hyes => absurd hyes hreq

/-- A failed opening loop has closed what it opened. -/
theorem openCounters_error {handle : ℕ} {metrics : UInt32} {r : Answers} {ms : List MetricId}
    {counters : MetricId → Counter} {k k' : Kernel} {e : Error} (hms : ms.Nodup)
    (hnone : ∀ m ∈ ms, counters m = Counter.unopened) (hfree : ∀ m, holds (handle,m) = none)
    (h : k.Holds files (withSlots handle counters holds))
    (hopen : openCounters metrics r ms counters k = (k',.error e)) : k'.Holds files holds := by
  induction ms generalizing counters k with
  | nil => cases hopen
  | cons a ms ih =>
    obtain ⟨ha,hnd⟩ := List.nodup_cons.mp hms
    unfold openCounters at hopen
    split at hopen
    · have hk := openMetric_holds (hnone a List.mem_cons_self) h (rfl : openMetric a false r k = _)
      dsimp only at hopen
      split at hopen
      · cases hopen
        exact close_holds hfree hk
      · refine ih hnd ?_ hk hopen
        intro m hm
        have hma : m ≠ a := fun hma => ha (hma ▸ hm)
        rw [Function.update_of_ne hma]
        exact hnone m (List.mem_cons_of_mem _ hm)
    · exact ih hnd (fun m hm => hnone m (List.mem_cons_of_mem _ hm)) h hopen

/-- A completed opening loop has filled the slots of the requested metrics. -/
theorem openCounters_ok {handle : ℕ} {metrics : UInt32} {r : Answers} {ms : List MetricId}
    {counters counters' : MetricId → Counter} {k k' : Kernel} (hms : ms.Nodup)
    (hnone : ∀ m ∈ ms, counters m = Counter.unopened)
    (h : k.Holds files (withSlots handle counters holds))
    (hopen : openCounters metrics r ms counters k = (k',.ok counters')) :
    k'.Holds files (withSlots handle counters' holds) ∧
    (∀ m ∈ ms, requests metrics m.mask = true ↔ 0 ≤ (counters' m).fd) ∧
    ∀ m ∉ ms, counters' m = counters m := by
  induction ms generalizing counters k with
  | nil =>
    cases hopen
    exact ⟨h,by simp,fun _ _ => rfl⟩
  | cons a ms ih =>
    obtain ⟨ha,hnd⟩ := List.nodup_cons.mp hms
    unfold openCounters at hopen
    split at hopen
    next hreq =>
      rcases hmetric : openMetric a false r k with ⟨k₁,fd⟩
      have hk := openMetric_holds (hnone a List.mem_cons_self) h hmetric
      rw [hmetric] at hopen
      dsimp only at hopen
      split at hopen
      · cases hopen
      next hpos =>
        have hrest : ∀ m ∈ ms, Function.update counters a { counters a with fd } m =
            Counter.unopened := by
          intro m hm
          have hma : m ≠ a := fun hma => ha (hma ▸ hm)
          rw [Function.update_of_ne hma]
          exact hnone m (List.mem_cons_of_mem _ hm)
        obtain ⟨hk',hin,hout⟩ := ih hnd hrest hk hopen
        refine ⟨hk',?_,?_⟩
        · intro m hm
          cases hm with
          | head =>
            rw [hout a ha, Function.update_self]
            exact ⟨fun _ => not_lt.mp hpos,fun _ => hreq⟩
          | tail _ hm => exact hin m hm
        · intro m hm
          simp only [List.mem_cons, not_or] at hm
          rw [hout m hm.2, Function.update_of_ne hm.1]
    next hreq =>
      obtain ⟨hk',hin,hout⟩ := ih hnd (fun m hm => hnone m (List.mem_cons_of_mem _ hm)) h hopen
      refine ⟨hk',?_,?_⟩
      · intro m hm
        cases hm with
        | head =>
          rw [hout a ha, hnone a List.mem_cons_self]
          exact ⟨fun hyes => absurd hyes hreq,fun hfd => absurd hfd (by decide)⟩
        | tail _ hm => exact hin m hm
      · intro m hm
        simp only [List.mem_cons, not_or] at hm
        exact hout m hm.2

theorem platformSamplerOpen_error {metrics : UInt32} {scope : ScopeId}
    {sampler left : Option PlatformSampler} {r : Answers} {k k' : Kernel} {e : Error}
    (h : platformSamplerOpen metrics scope sampler r k = (k',.error (e,left))) :
    left = sampler ∧
      openCounters metrics r MetricId.all (fun _ => Counter.unopened) k = (k',.error e) := by
  unfold platformSamplerOpen at h
  split at h
  next hopen =>
    cases h
    exact ⟨rfl,hopen⟩
  · cases h

theorem platformSamplerOpen_ok {metrics : UInt32} {scope : ScopeId} {sampler : Option PlatformSampler}
    {result : PlatformSampler} {r : Answers} {k k' : Kernel}
    (h : platformSamplerOpen metrics scope sampler r k = (k',.ok result)) :
    result.threadId = r.gettid ∧
      openCounters metrics r MetricId.all (fun _ => Counter.unopened) k = (k',.ok result.counters) := by
  unfold platformSamplerOpen at h
  split at h
  · cases h
  next hopen =>
    cases h
    exact ⟨rfl,hopen⟩

/-- A read neither opens nor closes anything. -/
theorem read_fd (int128 : Bool) (sampler : PlatformSampler) (snapshot : Snapshot) (r : Replies)
    (m : MetricId) :
    ((platformSamplerRead int128 sampler snapshot r).1.counters m).fd = (sampler.counters m).fd := by
  rcases platformSamplerRead_cases int128 sampler snapshot r with ⟨e,he⟩ | ⟨-,sampler',hloop,he⟩
  · rw [he]
  · rw [he]
    exact readCounter_fd ((readCounters_ok MetricId.nodup_all hloop).1 m (MetricId.mem_all m))

abbrev Store := ObjectStore Kernel PlatformSampler

/-- The slots behind a sampler object. -/
def slots : Option PlatformSampler → MetricId → Counter
  | none => fun _ => Counter.unopened
  | some sampler => sampler.counters

/-- The descriptors of the samplers that are open. -/
def held (samplers : Table (Live (SamplerObj PlatformSampler))) (slot : ℕ × MetricId) : Option ℕ :=
  (slots ((samplers.lookup slot.1).bind (·.object.sampler)) slot.2).descriptor

theorem withSlots_withSlots (handle : ℕ) (counters counters' : MetricId → Counter)
    (holds : ℕ × MetricId → Option ℕ) :
    withSlots handle counters (withSlots handle counters' holds) = withSlots handle counters holds := by
  funext slot
  by_cases hs : slot.1 = handle <;> simp [withSlots,hs]

section
variable {samplers : Table (Live (SamplerObj PlatformSampler))} {handle : ℕ}

theorem held_insert (x : Live (SamplerObj PlatformSampler)) :
    held (samplers.insert handle x) = withSlots handle (slots x.object.sampler) (held samplers) := by
  funext ⟨i,m⟩
  by_cases hi : i = handle
  · subst hi
    simp [held,withSlots]
  · simp [held,withSlots,hi,Finmap.lookup_insert_of_ne]

theorem held_erase :
    held (samplers.erase handle) = withSlots handle (fun _ => Counter.unopened) (held samplers) := by
  funext ⟨i,m⟩
  by_cases hi : i = handle
  · subst hi
    simp [held,withSlots,slots]
  · simp [held,withSlots,hi,Finmap.lookup_erase_ne]

theorem held_of_lookup {x : Live (SamplerObj PlatformSampler)} (hx : samplers.lookup handle = some x) :
    held samplers = withSlots handle (slots x.object.sampler) (held samplers) := by
  funext ⟨i,m⟩
  by_cases hi : i = handle
  · subst hi
    simp [held,withSlots,hx]
  · simp [withSlots,hi]

theorem held_of_absent (hx : samplers.lookup handle = none) (m : MetricId) :
    held samplers (handle,m) = none := by
  simp [held,hx,slots]

end

/-- What holds between two calls: the descriptors of the process are those in `files` and those in the
slots of the open samplers, which are those of the requested metrics. -/
structure Owned (files : Table File) (s : Store) : Prop where
  holds : s.native.Holds files (held s.samplers)
  requested : ∀ {h x sampler}, s.samplers.lookup h = some x → x.object.sampler = some sampler →
    ∀ m, requests x.object.metrics m.mask = true ↔ 0 ≤ (sampler.counters m).fd

theorem Owned.of_tables {s t : Store} (h : Owned files s) (hnative : t.native.Holds files (held s.samplers))
    (hsamplers : t.samplers = s.samplers) : Owned files t := by
  refine ⟨?_,?_⟩
  · rw [hsamplers]
    exact hnative
  · rw [hsamplers]
    exact h.requested

/-- A sampler object gets other slots, filled for the metrics it was opened for. -/
theorem Owned.insert {s t : Store} (h : Owned files s) {handle : ℕ}
    {x : Live (SamplerObj PlatformSampler)} (hsamplers : t.samplers = s.samplers.insert handle x)
    (hnative : t.native.Holds files (withSlots handle (slots x.object.sampler) (held s.samplers)))
    (hx : ∀ sampler, x.object.sampler = some sampler →
      ∀ m, requests x.object.metrics m.mask = true ↔ 0 ≤ (sampler.counters m).fd) : Owned files t := by
  refine ⟨?_,?_⟩
  · rw [hsamplers, held_insert]
    exact hnative
  · intro k y sampler hy hsampler
    rw [hsamplers] at hy
    cases Table.of_lookup_insert hy with
    | inl hnew =>
      rw [hnew.2] at hsampler ⊢
      exact hx sampler hsampler
    | inr hold => exact h.requested hold.2 hsampler

/-- The descriptors of one sampler are closed. -/
theorem Owned.close {s : Store} (h : Owned files s) {handle : ℕ} {x : Live (SamplerObj PlatformSampler)}
    {sampler : PlatformSampler} (hx : s.samplers.lookup handle = some x)
    (hsampler : x.object.sampler = some sampler) (r : Answers) :
    (platformSamplerClose sampler.counters r s.native).Holds files
      (withSlots handle (fun _ => Counter.unopened) (held s.samplers)) := by
  have hfree : ∀ m, withSlots handle (fun _ => Counter.unopened) (held s.samplers) (handle,m) = none := by
    intro m
    simp [withSlots]
  apply close_holds hfree
  have hholds := h.holds
  rw [held_of_lookup hx, hsampler] at hholds
  rw [withSlots_withSlots]
  exact hholds

/-- A read through the backend changes neither the kernel nor the slots. -/
theorem samplerRead_slots {int128 : Bool} {sampler sampler' : PlatformSampler} {snapshot : Snapshot}
    {r : Answers} {k k' : Kernel} {outcome : ReadOutcome}
    (h : (platform int128).samplerRead sampler snapshot r k = (k',sampler',outcome)) :
    k' = k ∧ ∀ m, (sampler'.counters m).fd = (sampler.counters m).fd := by
  change (k,platformSamplerRead int128 sampler snapshot (k.replies sampler.counters r.toReplies)) = _ at h
  obtain ⟨hk,hread⟩ := Prod.mk.inj h
  refine ⟨hk.symm,fun m => ?_⟩
  have hfd := read_fd int128 sampler snapshot (k.replies sampler.counters r.toReplies) m
  rw [hread] at hfd
  exact hfd

theorem Owned.openAdmitted {int128 : Bool} {s : Store} (h : Owned files s) {metrics : UInt32}
    {metricOrder : List MetricId} {scope : ScopeId} {r : OpenAnswers Answers}
    {x : Store × ObjectOutcome}
    (hx : ObjectStore.OpenCase (platform int128) metrics metricOrder scope r s
      { s with identities := s.identities.insert (r.identity.pick s.identities.keys) 1 } x) :
    Owned files x.1 := by
  have hfree := held_of_absent (Table.lookup_pick r.handle s.samplers)
  have hstart : s.native.Holds files (withSlots (r.handle.pick s.samplers.keys)
      (fun _ => Counter.unopened) (held s.samplers)) := by
    rw [withSlots_unopened hfree]
    exact h.holds
  cases hx with
  | failed obj left named opened =>
    change platformSamplerOpen metrics scope none r.opened s.native = _ at opened
    obtain ⟨rfl,hopen⟩ := platformSamplerOpen_error opened
    have hk := openCounters_error MetricId.nodup_all (fun _ _ => rfl) hfree hstart hopen
    apply h.of_tables
    · rw [ObjectStore.samplerObjFree_native_of_none _ left]
      exact hk
    · rw [ObjectStore.samplerObjFree_samplers]
  | @unread native sampler _ sampler' _ _ obj held named opened read result =>
    change platformSamplerOpen metrics scope none r.opened s.native = _ at opened
    obtain ⟨hk,-,-⟩ :=
      openCounters_ok MetricId.nodup_all (fun _ _ => rfl) hstart (platformSamplerOpen_ok opened).2
    obtain ⟨rfl,hfd⟩ := samplerRead_slots read
    apply h.of_tables
    · rw [ObjectStore.samplerObjFree_native_of_some _ held]
      apply close_holds hfree
      rw [withSlots_congr hfd]
      exact hk
    · rw [ObjectStore.samplerObjFree_samplers]
  | @opened _ _ native' sampler' _ obj held named requested ordered opened read result =>
    change platformSamplerOpen metrics scope none r.opened s.native = _ at opened
    obtain ⟨hk,hin,-⟩ :=
      openCounters_ok MetricId.nodup_all (fun _ _ => rfl) hstart (platformSamplerOpen_ok opened).2
    obtain ⟨rfl,hfd⟩ := samplerRead_slots read
    apply h.insert rfl
    · change Kernel.Holds files (withSlots _ (slots obj.sampler) _) native'
      rw [held]
      change Kernel.Holds files (withSlots _ sampler'.counters _) native'
      rw [withSlots_congr hfd]
      exact hk
    · intro sampler'' hsampler m
      cases held.symm.trans hsampler
      change requests obj.metrics m.mask = true ↔ _
      rw [requested, hfd m]
      exact hin m (MetricId.mem_all m)

theorem Owned.openSampler (int128 : Bool) {s : Store} (h : Owned files s)
    (values : List (Option MetricId)) (scope : Option ScopeId) (r : OpenAnswers Answers) :
    Owned files (s.openSampler (platform int128) values scope r).1 := by
  have hprobed : ∀ metrics scope native answer, (platform int128).samplerSupportedMetrics metrics scope
      r.supported s.native = (native,answer) → Owned files ({ s with native } : Store) := by
    intro metrics scope native answer hsupported
    change platformSamplerSupportedMetrics metrics scope r.supported s.native = _ at hsupported
    have hk := supportedMetrics_holds metrics scope r.supported h.holds
    rw [hsupported] at hk
    exact ⟨hk,h.requested⟩
  generalize hx : s.openSampler (platform int128) values scope r = x
  cases hx ▸ s.openSampler_cases (platform int128) values scope r with
  | rejected => exact h
  | unprobed supported => exact hprobed _ _ _ _ supported
  | unsupported supported => exact hprobed _ _ _ _ supported
  | admitted supported opened => exact (hprobed _ _ _ _ supported).openAdmitted opened

theorem Owned.readSampler (int128 : Bool) {s : Store} (h : Owned files s) (handle : ℕ)
    (r : ReadAnswers Answers) : Owned files (s.readSampler (platform int128) handle r).1 := by
  have hread : ∀ {obj : SamplerObj PlatformSampler} {opening sampler native sampler' outcome},
      s.samplers.lookup handle = some ⟨obj,opening⟩ → obj.sampler = some sampler →
      (platform int128).samplerRead sampler r.current r.read s.native = (native,sampler',outcome) →
      Owned files ({ s with
        native
        samplers := s.samplers.insert handle ⟨{ obj with sampler := some sampler' },opening⟩ } :
        Store) := by
    intro obj opening sampler native sampler' outcome found hsampler read
    obtain ⟨rfl,hfd⟩ := samplerRead_slots read
    apply h.insert rfl
    · change Kernel.Holds files (withSlots handle sampler'.counters _) s.native
      rw [withSlots_congr hfd]
      have hholds := h.holds
      rw [held_of_lookup found, hsampler] at hholds
      exact hholds
    · intro sampler'' hs m
      cases hs
      rw [hfd m]
      exact h.requested found hsampler m
  generalize hx : s.readSampler (platform int128) handle r = x
  cases hx ▸ s.readSampler_cases (platform int128) handle r with
  | noObject => exact h
  | closed => exact h
  | failed found held read result => exact hread found held read
  | read found held read result taken =>
    have hnative := hread found held read
    cases taken with
    | clock => exact hnative
    | dropped sample =>
      apply hnative.of_tables
      · rw [ObjectStore.sampleObjFree_native, ObjectStore.identityRetain_native]
        exact hnative.holds
      · rw [ObjectStore.sampleObjFree_samplers, ObjectStore.identityRetain_samplers]
    | taken sample =>
      apply hnative.of_tables
      · change Kernel.Holds files _ (ObjectStore.identityRetain _ _).native
        rw [ObjectStore.identityRetain_native]
        exact hnative.holds
      · exact ObjectStore.identityRetain_samplers _ _

theorem Owned.closeSampler (int128 : Bool) {s : Store} (h : Owned files s) (handle : ℕ) (r : Answers) :
    Owned files (s.closeSampler (platform int128) handle r).1 := by
  unfold ObjectStore.closeSampler
  cases found : s.samplers.lookup handle with
  | none => exact h
  | some x =>
    cases hsampler : x.object.sampler with
    | none =>
      simp only [hsampler]
      exact h
    | some sampler =>
      simp only [hsampler]
      refine h.insert rfl (h.close found hsampler r) ?_
      intro sampler' hs
      cases hs

theorem Owned.destroySampler (int128 : Bool) {s : Store} (h : Owned files s) (handle : ℕ)
    (r : Answers) : Owned files (s.destroySampler (platform int128) handle r).1 := by
  unfold ObjectStore.destroySampler
  cases found : s.samplers.lookup handle with
  | none => exact h
  | some x =>
    refine ⟨?_,?_⟩
    · change Kernel.Holds files (Linux.held (ObjectStore.samplerObjFree (platform int128) _ _ _).samplers)
        (ObjectStore.samplerObjFree (platform int128) _ _ _).native
      rw [ObjectStore.samplerObjFree_samplers]
      change Kernel.Holds files (Linux.held (s.samplers.erase handle)) _
      rw [held_erase]
      cases hsampler : x.object.sampler with
      | none =>
        rw [ObjectStore.samplerObjFree_native_of_none _ hsampler]
        have hholds := h.holds
        rw [held_of_lookup found, hsampler] at hholds
        exact hholds
      | some sampler =>
        rw [ObjectStore.samplerObjFree_native_of_some _ hsampler]
        exact h.close found hsampler r
    · intro k y sampler hy
      change Finmap.lookup k (ObjectStore.samplerObjFree (platform int128) _ _ _).samplers = _ at hy
      rw [ObjectStore.samplerObjFree_samplers] at hy
      change Finmap.lookup k (s.samplers.erase handle) = _ at hy
      exact h.requested (Table.of_lookup_erase hy).2

theorem Owned.destroySample {s : Store} (h : Owned files s) (handle : ℕ) :
    Owned files (s.destroySample handle).1 := by
  unfold ObjectStore.destroySample
  cases s.samples.lookup handle with
  | none => exact h
  | some x =>
    apply h.of_tables
    · change Kernel.Holds files _ (ObjectStore.sampleObjFree _ _).native
      rw [ObjectStore.sampleObjFree_native]
      exact h.holds
    · exact ObjectStore.sampleObjFree_samplers _ _

theorem Owned.step (int128 : Bool) {s : Store} (h : Owned files s) (op : ObjectOp Answers) :
    Owned files (s.step (platform int128) op).1 := by
  cases op with
  | openSampler values scope r => exact h.openSampler int128 values scope r
  | readSampler handle r => exact h.readSampler int128 handle r
  | closeSampler handle r => exact h.closeSampler int128 handle r
  | destroySampler handle r => exact h.destroySampler int128 handle r
  | destroySample handle => exact h.destroySample handle

theorem start_owned (files : Table File) (errno : Errno) :
    Owned files (.start (Kernel.start files errno)) := by
  have hnone : ∀ slot, held ∅ slot = none := fun _ => rfl
  refine ⟨⟨?_,?_,?_,?_,?_,?_⟩,?_⟩
  · intro slot n hn
    cases (hnone slot).symm.trans hn
  · intro slot j n hn
    cases (hnone slot).symm.trans hn
  · intro slot n hn
    cases (hnone slot).symm.trans hn
  · intro slot n hn
    cases (hnone slot).symm.trans hn
  · intro n _
    rfl
  · intro n _
    rfl
  · intro h x sampler hx
    cases hx

/-- The same descriptors are open. -/
def SameFiles (k k' : Kernel) : Prop := k.descriptors.table = k'.descriptors.table

theorem openMetric_same {k k' : Kernel} (h : SameFiles k k') (m : MetricId) (disabled : Bool)
    (r : Answers) :
    SameFiles (openMetric m disabled r k).1 (openMetric m disabled r k').1 ∧
    (openMetric m disabled r k).2 = (openMetric m disabled r k').2 ∧
    ((openMetric m disabled r k).2 < 0 →
      (openMetric m disabled r k).1.errno = (openMetric m disabled r k').1.errno) := by
  unfold openMetric Kernel.perfEventOpen
  cases r.perfEventOpen m with
  | error errno => exact ⟨h,rfl,fun _ => rfl⟩
  | ok fd =>
    have hpick : (k.descriptors.take fd (.perfEvent (metricAttr m disabled))).2 =
        (k'.descriptors.take fd (.perfEvent (metricAttr m disabled))).2 := by
      change fd.pick _ = fd.pick _
      rw [h]
    refine ⟨?_,congrArg Nat.cast hpick,fun hneg => absurd hneg (by simp)⟩
    change k.descriptors.table.insert _ _ = k'.descriptors.table.insert _ _
    rw [h]

theorem close_same {k k' : Kernel} (h : SameFiles k k') (fd : ℤ) (errno : Errno) :
    SameFiles (k.close fd errno) (k'.close fd errno) := congrArg (Finmap.erase fd.toNat) h

theorem closeCounters_same (counters : MetricId → Counter) (r : Answers) (ms : List MetricId)
    {k k' : Kernel} (h : SameFiles k k') :
    SameFiles (closeCounters counters r ms k) (closeCounters counters r ms k') := by
  induction ms generalizing k k' with
  | nil => exact h
  | cons m ms ih =>
    apply ih
    split
    · exact close_same h _ _
    · exact h

theorem probeMetrics_same (requestedMetrics : UInt32) (r : Answers) (ms : List MetricId)
    (supported : UInt32) {k k' : Kernel} (h : SameFiles k k') :
    SameFiles (probeMetrics requestedMetrics r ms supported k).1
      (probeMetrics requestedMetrics r ms supported k').1 ∧
    (probeMetrics requestedMetrics r ms supported k).2 =
      (probeMetrics requestedMetrics r ms supported k').2 := by
  induction ms generalizing supported k k' with
  | nil => exact ⟨h,rfl⟩
  | cons m ms ih =>
    unfold probeMetrics
    by_cases hreq : requests requestedMetrics m.mask = true
    · rw [if_pos hreq, if_pos hreq]
      obtain ⟨hk,hfd,herrno⟩ := openMetric_same h m true r
      dsimp only
      rw [← hfd]
      by_cases hneg : (openMetric m true r k).2 < 0
      · rw [if_pos hneg, if_pos hneg, ← herrno hneg]
        split
        · exact ih _ hk
        · exact ⟨hk,rfl⟩
      · rw [if_neg hneg, if_neg hneg]
        exact ih _ (close_same hk _ _)
    · rw [if_neg hreq, if_neg hreq]
      exact ih _ h

theorem openCounters_same (metrics : UInt32) (r : Answers) (ms : List MetricId)
    (counters : MetricId → Counter) {k k' : Kernel} (h : SameFiles k k') :
    SameFiles (openCounters metrics r ms counters k).1 (openCounters metrics r ms counters k').1 ∧
    (openCounters metrics r ms counters k).2 = (openCounters metrics r ms counters k').2 := by
  induction ms generalizing counters k k' with
  | nil => exact ⟨h,rfl⟩
  | cons m ms ih =>
    unfold openCounters
    by_cases hreq : requests metrics m.mask = true
    · rw [if_pos hreq, if_pos hreq]
      obtain ⟨hk,hfd,herrno⟩ := openMetric_same h m false r
      dsimp only
      rw [← hfd]
      by_cases hneg : (openMetric m false r k).2 < 0
      · rw [if_pos hneg, if_pos hneg, ← herrno hneg]
        exact ⟨closeCounters_same _ _ _ hk,rfl⟩
      · rw [if_neg hneg, if_neg hneg]
        exact ih _ hk
    · rw [if_neg hreq, if_neg hreq]
      exact ih _ h

theorem platformSamplerOpen_same (metrics : UInt32) (scope : ScopeId) (sampler : Option PlatformSampler)
    (r : Answers) {k k' : Kernel} (h : SameFiles k k') :
    SameFiles (platformSamplerOpen metrics scope sampler r k).1
      (platformSamplerOpen metrics scope sampler r k').1 ∧
    (platformSamplerOpen metrics scope sampler r k).2 =
      (platformSamplerOpen metrics scope sampler r k').2 := by
  obtain ⟨hk,hresult⟩ := openCounters_same metrics r MetricId.all (fun _ => Counter.unopened) h
  rcases hopen : platformSamplerOpen metrics scope sampler r k with ⟨k₁,⟨e,left⟩ | result⟩ <;>
    rcases hopen' : platformSamplerOpen metrics scope sampler r k' with ⟨k₁',⟨e',left'⟩ | result'⟩
  · obtain ⟨rfl,hloop⟩ := platformSamplerOpen_error hopen
    obtain ⟨rfl,hloop'⟩ := platformSamplerOpen_error hopen'
    rw [hloop, hloop'] at hk hresult
    cases hresult
    exact ⟨hk,rfl⟩
  · rw [(platformSamplerOpen_error hopen).2, (platformSamplerOpen_ok hopen').2] at hresult
    cases hresult
  · rw [(platformSamplerOpen_ok hopen).2, (platformSamplerOpen_error hopen').2] at hresult
    cases hresult
  · obtain ⟨hthread,hloop⟩ := platformSamplerOpen_ok hopen
    obtain ⟨hthread',hloop'⟩ := platformSamplerOpen_ok hopen'
    rw [hloop, hloop'] at hk hresult
    obtain ⟨threadId,counters,unopened⟩ := result
    obtain ⟨threadId',counters',unopened'⟩ := result'
    cases hthread.trans hthread'.symm
    cases hresult
    exact ⟨hk,rfl⟩

/-- The backend looks at nothing of the kernel but which descriptors are open. -/
theorem platform_respects (int128 : Bool) : (platform int128).Respects SameFiles where
  supported metrics scope r h := by
    change SameFiles (platformSamplerSupportedMetrics metrics scope r _).1
        (platformSamplerSupportedMetrics metrics scope r _).1 ∧
      (platformSamplerSupportedMetrics metrics scope r _).2 =
        (platformSamplerSupportedMetrics metrics scope r _).2
    unfold platformSamplerSupportedMetrics
    split
    · exact ⟨h,rfl⟩
    · exact probeMetrics_same metrics r MetricId.all 0 h
  opened metrics scope sampler r h := platformSamplerOpen_same metrics scope sampler r h
  read sampler snapshot r h := by
    refine ⟨h,?_⟩
    change platformSamplerRead int128 sampler snapshot _ = platformSamplerRead int128 sampler snapshot _
    unfold Kernel.replies
    unfold SameFiles at h
    rw [h]
  closed sampler r h := closeCounters_same sampler.counters r MetricId.all h

/-- A sampler that holds its descriptors reads its own events. -/
theorem Kernel.Holds.replies_read {k : Kernel} {handle : ℕ} {counters : MetricId → Counter}
    (h : k.Holds files (withSlots handle counters holds)) (r : Replies) {m : MetricId}
    (hm : 0 ≤ (counters m).fd) : (k.replies counters r).read m = r.read m := by
  have hslot : withSlots handle counters holds (handle,m) = some (counters m).fd.toNat := by
    simp [withSlots,descriptor_of_nonneg hm]
  have hpresent := Leases.Held.present h hslot
  simp only [Kernel.replies, hpresent, slotFile]

theorem Kernel.Holds.samplerRead {k : Kernel} {handle : ℕ} {sampler : PlatformSampler}
    (h : k.Holds files (withSlots handle sampler.counters holds)) (int128 : Bool)
    (snapshot : Snapshot) (r : Replies) :
    platformSamplerRead int128 sampler snapshot (k.replies sampler.counters r) =
      platformSamplerRead int128 sampler snapshot r := by
  refine @platformSamplerRead_congr int128 sampler (k.replies sampler.counters r) r rfl ?_ snapshot
  intro m hm
  exact h.replies_read r hm

/-- What a failed native call of `Sampler::open` reports: the first probe or `perf_event_open` that
failed, or a requested metric whose first reading was refused. -/
def Failure (metrics : UInt32) (r : OpenAnswers Answers) (e : Error) : Prop :=
  OpenFailed probePasses metrics r.supported MetricId.all e ∨
  OpenFailed Except.isOk metrics r.opened MetricId.all e ∨
  ∃ m, requests metrics m.mask = true ∧ Refusal m (r.read.settled m) e

/-- The `IOException` of a failed `Sampler::open` is that of the native call that failed, whatever the
cleanup did to `errno` afterwards. -/
theorem openSampler_exception {int128 : Bool} {s : Store} (h : Owned files s)
    {values : List (Option MetricId)} {scope : Option ScopeId} {r : OpenAnswers Answers} {e : Error}
    (he : (s.openSampler (platform int128) values scope r).2.result = .thrown (.exception e))
    (hio : e.exceptionCe = .ioException) :
    ∃ metrics metricOrder, admitMetrics values 0 [] = .ok (metrics,metricOrder) ∧
      Failure metrics r e := by
  generalize hx : s.openSampler (platform int128) values scope r = x at he
  cases hx ▸ s.openSampler_cases (platform int128) values scope r with
  | rejected reason =>
    cases he
    rcases reason with rfl | rfl | rfl <;> cases hio
  | unprobed supported names =>
    cases he
    exact ⟨_,_,names,.inl (supportedMetrics_error supported)⟩
  | unsupported => cases he
  | @admitted metrics metricOrder native _ _ supported opened names =>
    refine ⟨metrics,metricOrder,names,.inr ?_⟩
    have hholds : native.Holds files (held s.samplers) := by
      have hk := supportedMetrics_holds metrics (scope.getD .currentThread) r.supported h.holds
      change platformSamplerSupportedMetrics metrics _ r.supported s.native = _ at supported
      rw [supported] at hk
      exact hk
    cases opened with
    | failed obj left named opened =>
      cases he
      change platformSamplerOpen metrics (scope.getD .currentThread) none r.opened native = _ at opened
      exact .inl (openCounters_failed (platformSamplerOpen_error opened).2)
    | @unread native' sampler _ _ outcome _ obj held named opened read result =>
      cases he
      change platformSamplerOpen metrics (scope.getD .currentThread) none r.opened native = _ at opened
      have hfree := held_of_absent (Table.lookup_pick r.handle s.samplers)
      obtain ⟨hk,hin,-⟩ := openCounters_ok MetricId.nodup_all (fun _ _ => rfl)
        (by rw [withSlots_unopened hfree]; exact hholds) (platformSamplerOpen_ok opened).2
      change (native',platformSamplerRead int128 sampler _ (native'.replies sampler.counters
        r.read.toReplies)) = _ at read
      rw [hk.samplerRead] at read
      obtain ⟨-,hread⟩ := Prod.mk.inj read
      have hresult : (platformSamplerRead int128 sampler (fun _ => 0) r.read.toReplies).2.result =
          .error e := by
        rw [hread]
        exact result
      rcases read_refused hresult with rfl | ⟨-,m,-,-,-,hreq,hm⟩
      · cases hio
      · exact .inr ⟨m,(hin m (MetricId.mem_all m)).mpr hreq,hm⟩
    | opened => cases he

/-- A closed sampler has nothing left to close, for a second close or for its destruction. -/
theorem closeSampler_closed (int128 : Bool) (s : Store) (handle : ℕ) (r r' : Answers) :
    let s' := (s.closeSampler (platform int128) handle r).1
    (s'.closeSampler (platform int128) handle r').1 = s' ∧
      (s'.destroySampler (platform int128) handle r').1.native = s'.native := by
  intro s'
  have hnone : ∀ x, s'.samplers.lookup handle = some x → x.object.sampler = none := by
    intro x hx
    change Finmap.lookup handle (s.closeSampler (platform int128) handle r).1.samplers = some x at hx
    unfold ObjectStore.closeSampler at hx
    split at hx
    next habsent =>
      rw [habsent] at hx
      cases hx
    next obj opening found =>
      split at hx
      next hclosed =>
        rw [found] at hx
        cases hx
        exact hclosed
      next =>
        rw [Finmap.lookup_insert] at hx
        cases hx
        rfl
  constructor
  · unfold ObjectStore.closeSampler
    cases found : s'.samplers.lookup handle with
    | none => rfl
    | some x =>
      have hx := hnone x found
      simp only [hx]
  · unfold ObjectStore.destroySampler
    cases found : s'.samplers.lookup handle with
    | none => rfl
    | some x => exact ObjectStore.samplerObjFree_native_of_none _ (hnone x found) _ _

/-- The perf descriptors of the process are those of the open samplers, one for each metric they were
opened for, beside the files that were open before; a failed `Sampler::open` leaves no trace. -/
theorem sampler_descriptors_owned (int128 : Bool) (files : Table File) (errno : Errno)
    (ops : List (ObjectOp Answers)) :
    let P := platform int128
    let s : Store := final (ObjectStore.step P) (.start (Kernel.start files errno)) ops
    let l := s.native.descriptors
    (∀ h x sampler, s.samplers.lookup h = some x → x.object.sampler = some sampler →
      (∀ m, requests x.object.metrics m.mask = true ↔ ∃ n, held s.samplers (h,m) = some n) ∧
      ∀ snapshot r, P.samplerRead sampler snapshot r s.native =
        (s.native,platformSamplerRead int128 sampler snapshot r.toReplies)) ∧
    (∀ n file, files.lookup n = none →
      (l.table.lookup n = some file ↔ ∃ slot, held s.samplers slot = some n ∧ slotFile slot = file)) ∧
    (∀ n file, files.lookup n = some file →
      l.table.lookup n = some file ∧ ∀ slot, held s.samplers slot ≠ some n) ∧
    (∀ slot slot' n, held s.samplers slot = some n → held s.samplers slot' = some n → slot = slot') ∧
    (∀ slot n, held s.samplers slot = some n → l.taken n = l.returned n + 1) ∧
    (∀ n, (∀ slot, held s.samplers slot ≠ some n) → l.taken n = l.returned n) ∧
    (∀ values scope r t, (s.openSampler P values scope r).2.result = .thrown t →
      let s' := (s.openSampler P values scope r).1
      s' = s.withNative s'.native ∧ s'.native.descriptors.table = l.table ∧
      (∀ later, outputs (ObjectStore.step P) s later = outputs (ObjectStore.step P) s' later ∧
        (final (ObjectStore.step P) s later).Alike SameFiles (final (ObjectStore.step P) s' later)) ∧
      ∀ e, t = .exception e → e.exceptionCe = .ioException →
        ∃ metrics metricOrder, admitMetrics values 0 [] = .ok (metrics,metricOrder) ∧
          Failure metrics r e) ∧
    (∀ metrics scope sampler r k k' e left,
      platformSamplerOpen metrics scope sampler r k = (k',.error (e,left)) → left = sampler) ∧
    (∀ sampler snapshot r e, (platformSamplerRead int128 sampler snapshot r).2.result = .error e →
      e = wrongThread ∨ ∃ m, sampler.requested m ∧ Refusal m (r.settled m) e) ∧
    ∀ h r r', let s' := (s.closeSampler P h r).1
      (s'.closeSampler P h r').1 = s' ∧ (s'.destroySampler P h r').1.native = s'.native := by
  intro P s l
  have hs : Owned files s :=
    final_invariant_all (ObjectStore.step P) (fun s op hs => hs.step int128 op) ops
      (start_owned files errno)
  have hheld : l.Held files slotFile (held s.samplers) := hs.holds
  refine ⟨?_,?_,?_,?_,?_,?_,?_,?_,?_,?_⟩
  · intro h x sampler hx hsampler
    have hslots := held_of_lookup hx
    rw [hsampler] at hslots
    constructor
    · intro m
      have hslot : held s.samplers (h,m) = (sampler.counters m).descriptor := by
        simp [held,hx,hsampler,slots]
      rw [hs.requested hx hsampler m, hslot]
      constructor
      · intro hfd
        exact ⟨_,descriptor_of_nonneg hfd⟩
      · rintro ⟨n,hn⟩
        by_contra hfd
        rw [descriptor_of_neg (not_le.mp hfd)] at hn
        cases hn
    · intro snapshot r
      have hk := hs.holds
      rw [hslots] at hk
      exact congrArg (Prod.mk s.native) (hk.samplerRead int128 snapshot r.toReplies)
  · intro n file hfree
    constructor
    · exact hheld.held_of_present hfree
    · rintro ⟨slot,hn,rfl⟩
      exact hheld.present hn
  · intro n file hfile
    have hother : ∀ slot, held s.samplers slot ≠ some n := by
      intro slot hn
      rw [hheld.fresh hn] at hfile
      cases hfile
    exact ⟨(hheld.rest hother).trans hfile,hother⟩
  · intro slot slot' n hn hn'
    exact hheld.unique hn hn'
  · intro slot n hn
    exact hheld.outstanding hn
  · intro n hn
    exact hheld.settled hn
  · intro values scope r t ht s'
    have hsame : s' = s.withNative s'.native := ObjectStore.openSampler_thrown P ht
    have hfiles : SameFiles s.native s'.native := by
      have hs' : Owned files s' := hs.openSampler int128 values scope r
      have hholds' := hs'.holds
      rw [hsame] at hholds'
      exact hheld.table_eq hholds'
    have halike : s.Alike SameFiles s' := ⟨s'.native,hfiles,hsame⟩
    refine ⟨hsame,hfiles.symm,?_,?_⟩
    · intro later
      exact ⟨ObjectStore.outputs_alike (platform_respects int128) halike later,
        ObjectStore.final_alike (platform_respects int128) halike later⟩
    · intro e he hio
      subst he
      exact openSampler_exception hs ht hio
  · intro metrics scope sampler r k k' e left hopen
    exact (platformSamplerOpen_error hopen).1
  · intro sampler snapshot r e he
    rcases read_refused he with rfl | ⟨-,m,-,-,-,hreq,hm⟩
    · exact .inl rfl
    · exact .inr ⟨m,hreq,hm⟩
  · intro h r r'
    exact closeSampler_closed int128 s h r r'

end Perfidious.Linux
