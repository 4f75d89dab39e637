import Mathlib.Logic.Function.Basic
import Perfidious.Sampler.Metric
import Perfidious.Library.Run
import Perfidious.Library.Wide

/-! The Windows sampler backend (`windows/sampler.c`). Page faults and context switches are 32-bit
native counters, widened across successive reads; the page-fault state is committed as soon as it
is observed, the context-switch state only when the whole read succeeds. -/
namespace Perfidious.Windows
open Library

/-- `DWORD previous_…` and `uint64_t …_base` of one widened native counter. -/
structure WideCounter where
  previous : UInt32
  base : UInt64
  deriving DecidableEq, Repr

/-- `struct perfidious_platform_sampler`, less the two native handles. -/
structure PlatformSampler where
  metrics : UInt32
  scope : ScopeId
  threadId : UInt32
  pageFaults : WideCounter
  contextSwitches : WideCounter
  deriving DecidableEq, Repr

/-- `FILETIME`. -/
structure FileTime where
  low : UInt32
  high : UInt32
  deriving DecidableEq, Repr

/-- A native call that reports success as a `BOOL` and details through `GetLastError()`. -/
structure Reply (α : Type) where
  success : Bool
  lastError : UInt32
  value : α

/-- The fields of `PERFORMANCE_DATA` that the sampler reads. -/
structure PerformanceData where
  contextSwitchCount : UInt32
  cycleTime : UInt64

/-- Everything Windows answers during one call of `perfidious_platform_sampler_read`. `times` is
the kernel and user time, from `GetProcessTimes` or `GetThreadTimes` according to the scope. -/
structure Replies where
  currentThreadId : UInt32
  waitResult : UInt32
  waitError : UInt32
  profileError : UInt32
  profile : PerformanceData
  times : Reply (FileTime × FileTime)
  memory : Reply UInt32
  processCycles : Reply UInt64

def waitFailed : UInt32 := 0xffffffff
def waitTimeout : UInt32 := 258

/-- `PERFIDIOUS_WINDOWS_THREAD_PROFILE_METRICS`. -/
def threadProfileMetrics : UInt32 := MetricId.contextSwitches.mask ||| MetricId.cpuCycles.mask

/-- `perfidious_windows_throw_error`. -/
def windowsThrowError (operation : String) (error : UInt32) : Error where
  exceptionCe := .ioException
  code := error.toNat
  message := [.text operation,.text " failed with Windows error ",.number error.toNat]

def overflow (text : String) : Error := ⟨.overflowException,0,[.text text]⟩

def wrongThread : Error := ⟨.wrongThreadException,0,
  [.text "Windows current-thread sampler must be read from the thread that opened it"]⟩

def pageFaultOverflow : Error := overflow "Windows page-fault count overflow"
def contextSwitchOverflow : Error := overflow "Windows context-switch count overflow"

/-- `perfidious_windows_filetime_to_uint64`. -/
def filetimeToUint64 (value : FileTime) : UInt64 :=
  UInt64.ofNat (value.high.toNat*2^32 + value.low.toNat)

/-- `UINT64_C(1) << 32`. -/
def wrapPeriod : UInt64 := 0x100000000

/-- The wrap check shared by the two widened counters; `none` is the overflow branch. -/
def widen (c : WideCounter) (count : UInt32) : Option WideCounter :=
  if count < c.previous then
    if c.base > uint64Max - wrapPeriod then none else some ⟨count,c.base + wrapPeriod⟩
  else some ⟨count,c.base⟩

/-- The value published for a widened counter. -/
def WideCounter.value (c : WideCounter) : UInt64 := c.base + c.previous.toUInt64

/-- The thread checks and the profile query that open a read of a thread sampler. -/
def checkThread (sampler : PlatformSampler) (r : Replies) : Except Error Unit :=
  if sampler.scope = .currentThread then
    if sampler.threadId ≠ r.currentThreadId then .error wrongThread
    else if r.waitResult = waitFailed then .error (windowsThrowError "WaitForSingleObject" r.waitError)
    else if r.waitResult ≠ waitTimeout then .error wrongThread
    else if requests sampler.metrics threadProfileMetrics ∧ r.profileError ≠ 0 then
      .error (windowsThrowError "ReadThreadProfilingData" r.profileError)
    else .ok ()
  else .ok ()

def readCpuTime (sampler : PlatformSampler) (r : Replies) (snapshot : Snapshot) :
    Except Error Snapshot :=
  if requests sampler.metrics MetricId.cpuTime.mask then
    let operation := match sampler.scope with
      | .currentProcess => "GetProcessTimes"
      | .currentThread => "GetThreadTimes"
    if !r.times.success then .error (windowsThrowError operation r.times.lastError)
    else
      let kernelTime := filetimeToUint64 r.times.value.1
      let userTime := filetimeToUint64 r.times.value.2
      if kernelTime > uint64Max - userTime then .error (overflow "Windows total CPU time overflow")
      else
        let totalTime := kernelTime + userTime
        if totalTime > uint64Max/100 then
          .error (overflow "Windows CPU nanosecond conversion overflow")
        else .ok (Function.update snapshot .cpuTime (totalTime*100))
  else .ok snapshot

def readPageFaults (sampler : PlatformSampler) (r : Replies) (snapshot : Snapshot) :
    Except Error (WideCounter × Snapshot) :=
  if requests sampler.metrics MetricId.pageFaults.mask then
    if !r.memory.success then .error (windowsThrowError "GetProcessMemoryInfo" r.memory.lastError)
    else
      match widen sampler.pageFaults r.memory.value with
      | none => .error pageFaultOverflow
      | some c => .ok (c,Function.update snapshot .pageFaults c.value)
  else .ok (sampler.pageFaults,snapshot)

def readContextSwitches (sampler : PlatformSampler) (r : Replies) (snapshot : Snapshot) :
    Except Error (WideCounter × Snapshot) :=
  if requests sampler.metrics MetricId.contextSwitches.mask then
    match widen sampler.contextSwitches r.profile.contextSwitchCount with
    | none => .error contextSwitchOverflow
    | some c => .ok (c,Function.update snapshot .contextSwitches c.value)
  else .ok (sampler.contextSwitches,snapshot)

def readCpuCycles (sampler : PlatformSampler) (r : Replies) (snapshot : Snapshot) :
    Except Error Snapshot :=
  if requests sampler.metrics MetricId.cpuCycles.mask then
    match sampler.scope with
    | .currentProcess =>
      if !r.processCycles.success then
        .error (windowsThrowError "QueryProcessCycleTime" r.processCycles.lastError)
      else .ok (Function.update snapshot .cpuCycles r.processCycles.value)
    | .currentThread => .ok (Function.update snapshot .cpuCycles r.profile.cycleTime)
  else .ok snapshot

/-- `perfidious_platform_sampler_read`. -/
def platformSamplerRead (sampler : PlatformSampler) (r : Replies) : PlatformSampler × ReadOutcome :=
  let zeroed : Snapshot := fun _ => 0
  match checkThread sampler r with
  | .error e => (sampler,⟨.error e,zeroed⟩)
  | .ok () =>
  match readCpuTime sampler r zeroed with
  | .error e => (sampler,⟨.error e,zeroed⟩)
  | .ok timed =>
  match readPageFaults sampler r timed with
  | .error e => (sampler,⟨.error e,timed⟩)
  | .ok (pageFaults,faulted) =>
  -- From here on the page-fault state is kept even if the read fails.
  let observed := { sampler with pageFaults := pageFaults }
  match readContextSwitches observed r faulted with
  | .error e => (observed,⟨.error e,faulted⟩)
  | .ok (contextSwitches,switched) =>
  match readCpuCycles observed r switched with
  | .error e => (observed,⟨.error e,switched⟩)
  | .ok snapshot => ({ observed with contextSwitches := contextSwitches },⟨.ok (),snapshot⟩)

end Perfidious.Windows
