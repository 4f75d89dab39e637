import Perfidious.Word
import Perfidious.Error

/-! Metric identifiers, request masks and snapshots (`sampler.h`). -/
namespace Perfidious

/-- `enum perfidious_metric_id`. -/
inductive MetricId
  | cpuTime
  | pageFaults
  | contextSwitches
  | cpuCycles
  | instructions
  deriving DecidableEq, Repr

namespace MetricId

def index : MetricId → UInt32
  | cpuTime => 0
  | pageFaults => 1
  | contextSwitches => 2
  | cpuCycles => 3
  | instructions => 4

/-- The order in which `for (metric = 0; metric < PERFIDIOUS_METRIC_COUNT; metric++)` visits them. -/
def all : List MetricId := [cpuTime,pageFaults,contextSwitches,cpuCycles,instructions]

@[simp] theorem mem_all (m : MetricId) : m ∈ all := by cases m <;> decide

theorem nodup_all : all.Nodup := by decide

/-- `perfidious_metric_name`, which is also the name column of `perfidious_linux_metrics`. -/
def name : MetricId → String
  | cpuTime => "cpu-time"
  | pageFaults => "page-faults"
  | contextSwitches => "context-switches"
  | cpuCycles => "cpu-cycles"
  | instructions => "instructions"

/-- `PERFIDIOUS_METRIC_MASK`. -/
def mask (m : MetricId) : UInt32 := 1 <<< m.index

end MetricId

/-- The test `(metrics & mask) != 0`. -/
def requests (metrics mask : UInt32) : Bool := metrics &&& mask != 0

theorem requests_or (metrics a b : UInt32) :
    requests metrics (a ||| b) = (requests metrics a || requests metrics b) := by
  have h : metrics &&& (a ||| b) = (metrics &&& a) ||| (metrics &&& b) :=
    UInt32.toBitVec_inj.mp BitVec.and_or_distrib_left
  rw [requests, requests, requests, h, Bool.eq_iff_iff]
  simp only [bne_iff_ne, ne_eq, Bool.or_eq_true, UInt32.or_eq_zero_iff]
  exact Decidable.not_and_iff_not_or_not

/-- `enum perfidious_scope_id`. -/
inductive ScopeId
  | currentProcess
  | currentThread
  deriving DecidableEq, Repr

/-- `struct perfidious_sampler_snapshot`: one value for every metric. -/
abbrev Snapshot := MetricId → UInt64

def Snapshot.toNat (x : Snapshot) (m : MetricId) : ℕ := (x m).toNat

/-- What the caller of `perfidious_platform_sampler_read` sees: the `zend_result`, with the
exception thrown on `FAILURE`, and the contents of its snapshot. -/
structure ReadOutcome where
  result : Except Error Unit
  snapshot : Snapshot

def ReadOutcome.succeeded (o : ReadOutcome) : Bool := o.result.isOk

/-- The snapshot of a read that returned `SUCCESS`. -/
def ReadOutcome.published (o : ReadOutcome) : Option Snapshot :=
  if o.succeeded then some o.snapshot else none

@[simp] theorem ReadOutcome.succeeded_ok (s : Snapshot) : (ReadOutcome.mk (.ok ()) s).succeeded = true :=
  rfl

@[simp] theorem ReadOutcome.succeeded_error (e : Error) (s : Snapshot) :
    (ReadOutcome.mk (.error e) s).succeeded = false := rfl

theorem ReadOutcome.eq_of_succeeded {o : ReadOutcome} (h : o.succeeded = true) :
    o = ⟨.ok (),o.snapshot⟩ := by
  obtain ⟨result,snapshot⟩ := o
  cases result with
  | ok u => rfl
  | error e => cases h

theorem ReadOutcome.published_eq_some_iff {o : ReadOutcome} {s : Snapshot} :
    o.published = some s ↔ o.succeeded = true ∧ o.snapshot = s := by
  unfold published
  split_ifs with h <;> simp [h]

/-- One snapshot is at or below another on every metric. -/
def Snapshot.Below (x y : Snapshot) : Prop := ∀ m, x m ≤ y m

end Perfidious
