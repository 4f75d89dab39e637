import Perfidious.Library.Lease
import Perfidious.LowLevel.ThreadProfile
import Perfidious.Sampler.Custody

/-! The native handles of the Windows sampler backend (`windows/sampler.c`): which metrics it supports,
opening and closing, and the profiling sessions, of which a thread can have one. -/
namespace Perfidious.Windows
open Library

def ERROR_INVALID_HANDLE : UInt32 := 6

/-- What a `HANDLE` of the process refers to. -/
inductive Native
  | thread
  | profile (threadId : UInt32)
  | other
  deriving DecidableEq, Repr

/-- A Windows error code other than `ERROR_SUCCESS`. -/
structure ErrorCode where
  code : UInt32
  failure : code ≠ 0

/-- The handles of the process. `lost` lists the profiling sessions that went on when their owner was
freed, each with its thread; the program does not store it. -/
structure Kernel where
  handles : Leases Native
  lost : List (ℕ × UInt32)

def wmiAlreadyEnabled : ErrorCode := ⟨ERROR_WMI_ALREADY_ENABLED,by decide⟩

namespace Kernel

/-- The thread has a profiling session. -/
def profiled (threadId : UInt32) (k : Kernel) : Bool :=
  0 < k.handles.table.count fun x => x == .profile threadId

/-- `DuplicateHandle` for the current thread, which fails with an error or picks an unused handle. -/
def duplicateHandle (reply : Except UInt32 Fresh) (k : Kernel) : Kernel × Except UInt32 ℕ :=
  match reply with
  | .error e => (k,.error e)
  | .ok fresh =>
    ({ k with handles := (k.handles.take fresh .thread).1 },.ok (k.handles.take fresh .thread).2)

/-- `EnableThreadProfiling` for the thread that calls it. -/
def enableThreadProfiling (threadId : UInt32) (reply : Except ErrorCode Fresh) (k : Kernel) :
    Kernel × Except ErrorCode ℕ :=
  match reply with
  | .error e => (k,.error e)
  | .ok fresh =>
    if k.profiled threadId then (k,.error wmiAlreadyEnabled)
    else ({ k with handles := (k.handles.take fresh (.profile threadId)).1 },
      .ok (k.handles.take fresh (.profile threadId)).2)

/-- `DisableThreadProfiling`. A failed one leaves the session as it is. -/
def disableThreadProfiling (handle : ℕ) (reply : Option ErrorCode) (k : Kernel) : Kernel × UInt32 :=
  match k.handles.table.lookup handle with
  | some (.profile _) =>
    match reply with
    | none => ({ k with handles := k.handles.giveBack handle },0)
    | some e => (k,e.code)
  | _ => (k,ERROR_INVALID_HANDLE)

/-- `CloseHandle`. -/
def closeHandle (handle : ℕ) (k : Kernel) : Kernel := { k with handles := k.handles.giveBack handle }

/-- A `DisableThreadProfiling` whose result is ignored, for the session of the given thread. -/
def abandon (handle : ℕ) (threadId : UInt32) (reply : Option ErrorCode) (k : Kernel) : Kernel :=
  let (k,error) := k.disableThreadProfiling handle reply
  if error = 0 then k else { k with lost := (handle,threadId) :: k.lost }

/-- The handles of a process in which the extension opened nothing yet. -/
def start (handles : Table Native) : Kernel := ⟨⟨handles,fun _ => 0,fun _ => 0⟩,[]⟩

end Kernel

/-- `struct perfidious_platform_sampler` with its two native handles; `none` is `NULL`. -/
structure NativeSampler extends PlatformSampler where
  threadHandle : Option ℕ
  profileHandle : Option ℕ
  deriving DecidableEq, Repr

/-- The answers of Windows to one call into the backend. -/
structure Answers extends Replies where
  duplicate : Except UInt32 Fresh
  enable : Except ErrorCode Fresh
  disable : Option ErrorCode

/-- `perfidious_platform_sampler_supported_metrics`. -/
def platformSamplerSupportedMetrics (_requestedMetrics : UInt32) (scope : ScopeId) : UInt32 :=
  match scope with
  | .currentProcess => MetricId.cpuTime.mask ||| MetricId.pageFaults.mask ||| MetricId.cpuCycles.mask
  | .currentThread => MetricId.cpuTime.mask ||| threadProfileMetrics

/-- `perfidious_platform_sampler_open`. `sampler` is what the output pointer holds before. -/
def platformSamplerOpen (metrics : UInt32) (scope : ScopeId) (sampler : Option NativeSampler)
    (r : Answers) (k : Kernel) : Kernel × Except (Error × Option NativeSampler) NativeSampler :=
  match scope with
  | .currentProcess => (k,.ok ⟨opened metrics scope 0,none,none⟩)
  | .currentThread =>
    match k.duplicateHandle r.duplicate with
    | (k,.error error) => (k,.error (windowsThrowError "DuplicateHandle" error,sampler))
    | (k,.ok threadHandle) =>
      let threadId := r.currentThreadId
      if requests metrics threadProfileMetrics then
        match k.enableThreadProfiling threadId r.enable with
        | (k,.error error) => (k.closeHandle threadHandle,.error (enableError error.code,sampler))
        | (k,.ok profileHandle) =>
          (k,.ok ⟨opened metrics scope threadId,some threadHandle,some profileHandle⟩)
      else (k,.ok ⟨opened metrics scope threadId,some threadHandle,none⟩)

/-- What the native calls of a read return for the handles of the sampler. -/
def Kernel.replies (sampler : NativeSampler) (r : Replies) (k : Kernel) : Replies :=
  let r := match sampler.threadHandle.bind (Finmap.lookup · k.handles.table) with
    | some .thread => r
    | _ => { r with waitResult := waitFailed, waitError := ERROR_INVALID_HANDLE }
  match sampler.profileHandle.bind (Finmap.lookup · k.handles.table) with
  | some (.profile _) => r
  | _ => { r with profileError := ERROR_INVALID_HANDLE }

/-- `perfidious_platform_sampler_read` for given replies; the native handles stay. -/
def nativeRead (sampler : NativeSampler) (r : Replies) : NativeSampler × ReadOutcome :=
  let (platformSampler,outcome) := platformSamplerRead sampler.toPlatformSampler r
  ({ sampler with toPlatformSampler := platformSampler },outcome)

/-- The first half of `perfidious_platform_sampler_close`. -/
def closeSession (sampler : NativeSampler) (r : Answers) (k : Kernel) : Kernel :=
  match sampler.profileHandle with
  | none => k
  | some handle => k.abandon handle sampler.threadId r.disable

/-- The second half. -/
def closeThread (sampler : NativeSampler) (k : Kernel) : Kernel :=
  match sampler.threadHandle with
  | none => k
  | some handle => k.closeHandle handle

/-- `perfidious_platform_sampler_close`. -/
def platformSamplerClose (sampler : NativeSampler) (r : Answers) (k : Kernel) : Kernel :=
  closeThread sampler (closeSession sampler r k)

/-- The Windows backend. -/
def platform : Platform Kernel NativeSampler Answers where
  samplerSupportedMetrics metrics scope _ k := (k,.ok (platformSamplerSupportedMetrics metrics scope))
  samplerOpen := platformSamplerOpen
  samplerRead sampler _ r k := (k,nativeRead sampler (k.replies sampler r.toReplies))
  samplerClose := platformSamplerClose

theorem platformSamplerOpen_opened {metrics : UInt32} {scope : ScopeId} {r : Answers} {k k' : Kernel}
    {sampler : NativeSampler} (h : platformSamplerOpen metrics scope none r k = (k',.ok sampler)) :
    ∃ threadId, sampler.toPlatformSampler = opened metrics scope threadId := by
  unfold platformSamplerOpen at h
  cases scope with
  | currentProcess =>
    cases h
    exact ⟨0,rfl⟩
  | currentThread =>
    dsimp only at h
    split at h
    · cases h
    · split at h
      · split at h
        · cases h
        · cases h
          exact ⟨r.currentThreadId,rfl⟩
      · cases h
        exact ⟨r.currentThreadId,rfl⟩

theorem Kernel.profiled_iff {threadId : UInt32} {k : Kernel} :
    k.profiled threadId = true ↔ ∃ n, k.handles.table.lookup n = some (.profile threadId) := by
  unfold Kernel.profiled
  rw [decide_eq_true_iff, Table.count_pos]
  constructor
  · rintro ⟨n,x,hn,hx⟩
    exact ⟨n,hn.trans (congrArg some (eq_of_beq hx))⟩
  · rintro ⟨n,hn⟩
    exact ⟨n,_,hn,beq_self_eq_true _⟩

/-- A thread has one profiling session at most. -/
def Kernel.Exclusive (k : Kernel) : Prop :=
  ∀ threadId n m, k.handles.table.lookup n = some (.profile threadId) →
    k.handles.table.lookup m = some (.profile threadId) → n = m

theorem Kernel.Exclusive.giveBack {k : Kernel} (h : k.Exclusive) (handle : ℕ) :
    (k.closeHandle handle).Exclusive := by
  intro threadId n m hn hm
  exact h threadId n m (Table.of_lookup_erase hn).2 (Table.of_lookup_erase hm).2

theorem Kernel.Exclusive.duplicate {k : Kernel} (h : k.Exclusive) (fresh : Fresh) :
    Kernel.Exclusive { k with handles := (k.handles.take fresh .thread).1 } := by
  intro threadId n m hn hm
  rcases Table.of_lookup_insert hn with ⟨-,hx⟩ | ⟨-,hn⟩
  · cases hx
  rcases Table.of_lookup_insert hm with ⟨-,hx⟩ | ⟨-,hm⟩
  · cases hx
  exact h threadId n m hn hm

/-- A session is only enabled on a thread without one. -/
theorem Kernel.Exclusive.enable {k : Kernel} (h : k.Exclusive) {threadId : UInt32}
    (hfree : k.profiled threadId ≠ true) (fresh : Fresh) :
    Kernel.Exclusive { k with handles := (k.handles.take fresh (.profile threadId)).1 } := by
  have hnone : ∀ n, k.handles.table.lookup n ≠ some (.profile threadId) :=
    fun n hn => hfree (Kernel.profiled_iff.mpr ⟨n,hn⟩)
  intro t n m hn hm
  rcases Table.of_lookup_insert hn with ⟨hkn,hx⟩ | ⟨-,hn⟩ <;>
    rcases Table.of_lookup_insert hm with ⟨hkm,hy⟩ | ⟨-,hm⟩
  · rw [hkn, hkm]
  · cases hx
    exact absurd hm (hnone m)
  · cases hy
    exact absurd hn (hnone n)
  · exact h t n m hn hm

/-- A session is ended, or lost because `DisableThreadProfiling` fails. -/
theorem Kernel.abandon_none {k : Kernel} {handle : ℕ} {threadId threadId' : UInt32}
    (h : k.handles.table.lookup handle = some (.profile threadId')) :
    k.abandon handle threadId none = k.closeHandle handle := by
  simp [Kernel.abandon,Kernel.disableThreadProfiling,h,Kernel.closeHandle]

theorem Kernel.abandon_some {k : Kernel} {handle : ℕ} {threadId threadId' : UInt32}
    (h : k.handles.table.lookup handle = some (.profile threadId')) (e : ErrorCode) :
    k.abandon handle threadId (some e) = { k with lost := (handle,threadId) :: k.lost } := by
  simp [Kernel.abandon,Kernel.disableThreadProfiling,h,e.failure]

/-- The session of an abandoned handle is ended or lost. -/
theorem Kernel.abandon_cases (handle : ℕ) (threadId : UInt32) (r : Option ErrorCode) (k : Kernel) :
    k.abandon handle threadId r = k.closeHandle handle ∨
      k.abandon handle threadId r = { k with lost := (handle,threadId) :: k.lost } := by
  unfold Kernel.abandon Kernel.disableThreadProfiling
  rcases k.handles.table.lookup handle with _ | _ | threadId' | _
  · exact .inr rfl
  · exact .inr rfl
  · cases r with
    | none => exact .inl rfl
    | some e =>
      dsimp only
      rw [if_neg e.failure]
      exact .inr rfl
  · exact .inr rfl

theorem Kernel.Exclusive.abandon {k : Kernel} (h : k.Exclusive) (handle : ℕ) (threadId : UInt32)
    (r : Option ErrorCode) : (k.abandon handle threadId r).Exclusive := by
  rcases k.abandon_cases handle threadId r with he | he <;> rw [he]
  · exact h.giveBack handle
  · exact h

end Perfidious.Windows
