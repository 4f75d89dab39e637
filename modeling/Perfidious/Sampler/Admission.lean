import Mathlib.Algebra.Order.BigOperators.Group.List
import Mathlib.Algebra.Order.Group.Nat
import Perfidious.Library.Buffer
import Perfidious.Sampler.Objects

/-! The admission of the metrics of `Sampler::open`: the loop over the PHP array with its fixed
`metric_order` buffer, the exception for unsupported metrics, and `Sampler::metrics`. -/
namespace Perfidious
open Library

/-- `PERFIDIOUS_METRIC_COUNT`, the length of `metric_order`. -/
def MetricId.count : ℕ := 5

/-- The types of a value that is no object. -/
inductive ScalarType
  | null
  | boolean
  | integer
  | double
  | string
  | array
  | resource
  deriving DecidableEq, Repr

/-- A PHP value as far as `perfidious_metric_from_zval` tells values apart. `object` is one of another
class; the enum `Perfidious\Metric` has no instances but its cases. -/
inductive PhpValue
  | scalar (type : ScalarType)
  | object
  | metric (metricCase : MetricId)

/-- An element of a PHP array, which may be a reference. -/
inductive Zval
  | value (v : PhpValue)
  | reference (v : PhpValue)

/-- `ZVAL_DEREF`. -/
def Zval.deref : Zval → PhpValue
  | value v => v
  | reference v => v

/-- The `Metric` case that a value is. -/
def Zval.metric? (value : Zval) : Option MetricId :=
  match value.deref with
  | .metric m => some m
  | _ => none

/-- The `case_name` column of `perfidious_metric_definitions`. -/
def MetricId.caseName : MetricId → String
  | cpuTime => "CpuTime"
  | pageFaults => "PageFaults"
  | contextSwitches => "ContextSwitches"
  | cpuCycles => "CpuCycles"
  | instructions => "Instructions"

/-- `zend_enum_get_case_cstr` on `Perfidious\Metric`. -/
def metricCase (caseName : String) : Option MetricId := MetricId.all.find? (·.caseName == caseName)

@[simp] theorem metricCase_caseName (m : MetricId) : metricCase m.caseName = some m := by
  cases m <;> decide

/-- The case objects that are put in a result array for the metrics of a list. -/
def metricCases (metrics : List MetricId) : List MetricId :=
  metrics.filterMap fun m => metricCase m.caseName

@[simp] theorem metricCases_eq (metrics : List MetricId) : metricCases metrics = metrics := by
  simp [metricCases]

def unknownMetric (name : String) : Error := ⟨.error,0,
  [.text "Unknown Perfidious\\Metric backing value \"",.text name,.text "\""]⟩

/-- `perfidious_metric_from_zval`. -/
def metricFromZval (value : Zval) : Except Error MetricId :=
  match value.deref with
  | .metric backing =>
    match MetricId.all.find? (·.name == backing.name) with
    | some metric => .ok metric
    | none => .error (unknownMetric backing.name)
  | _ => .error notAMetric

/-- The lookup by name finds every case, so the only failure is that of another value. -/
theorem metricFromZval_eq (value : Zval) :
    metricFromZval value = match value.metric? with
      | some m => .ok m
      | none => .error notAMetric := by
  have hname : ∀ m : MetricId, MetricId.all.find? (·.name == m.name) = some m := by
    intro m
    cases m <;> decide
  unfold metricFromZval Zval.metric?
  cases value.deref with
  | scalar type => rfl
  | object => rfl
  | metric m => simp only [hname m]

/-- The locals of the loop of `Sampler::open`. `metricOrder` is the memory from `metric_order` on, and
`written` lists the indices assigned so far. -/
structure OpenFrame where
  metrics : UInt32
  metricOrder : ℕ → MetricId
  metricCount : UInt8
  written : List ℕ

namespace OpenFrame

/-- The locals before the loop, over whatever the stack holds. -/
def start (metricOrder : ℕ → MetricId) : OpenFrame := ⟨0,metricOrder,0,[]⟩

/-- The end of the loop body: `metric_order[metric_count++] = metric`. -/
def push (f : OpenFrame) (metric : MetricId) : OpenFrame where
  metrics := f.metrics ||| metric.mask
  metricOrder := Function.update f.metricOrder f.metricCount.toNat metric
  metricCount := f.metricCount + 1
  written := f.written ++ [f.metricCount.toNat]

/-- The first `metric_count` entries of `metric_order`. -/
def order (f : OpenFrame) : List MetricId := filled f.metricOrder f.metricCount.toNat

end OpenFrame

/-- The loop of `Sampler::open` over its first argument. -/
def admitArray : List Zval → OpenFrame → OpenFrame × Except Error Unit
  | [],f => (f,.ok ())
  | value::values,f =>
    match metricFromZval value with
    | .error e => (f,.error e)
    | .ok metric =>
      if requests f.metrics metric.mask then (f,.error duplicateMetrics)
      else admitArray values (f.push metric)

/-- The loop that fills `char names[128]`, with what the buffer holds. The names are ASCII. -/
def rejectedNames (rejected : UInt32) : List MetricId → String → String
  | [],names => names
  | m::ms,names =>
    if requests rejected m.mask then
      let piece := (if names.length = 0 then "" else ", ") ++ m.name
      if piece.length ≥ 128 - names.length then
        names ++ String.ofList (piece.toList.take (128 - names.length - 1))
      else rejectedNames rejected ms (names ++ piece)
    else rejectedNames rejected ms names

/-- `perfidious_throw_unsupported_metrics`. -/
def throwUnsupportedMetrics (scope : ScopeId) (metricOrder : List MetricId) (rejected : UInt32) : Thrown :=
  .unsupported
    ⟨.unsupportedMetricException,0,[.text "Metrics [",.text (rejectedNames rejected metricOrder ""),
      .text "] are not supported for scope ",.text scope.name]⟩
    scope (metricCases (metricOrder.filter fun m => requests rejected m.mask))

namespace ObjectStore
variable {κ σ ρ : Type} (P : Platform κ σ ρ)

/-- `Sampler::open` on the array itself. `metricOrder` is what the stack holds before. -/
def openArray (values : List Zval) (scope : Option ScopeId) (metricOrder : ℕ → MetricId)
    (r : OpenAnswers ρ) (s : ObjectStore κ σ) : ObjectStore κ σ × ObjectOutcome :=
  if values.isEmpty then (s,⟨.thrown (.exception emptyMetrics),0⟩)
  else
    match admitArray values (.start metricOrder) with
    | (_,.error e) => (s,⟨.thrown (.exception e),0⟩)
    | (frame,.ok ()) =>
      let scope := scope.getD .currentThread
      match P.samplerSupportedMetrics frame.metrics scope r.supported s.native with
      | (native,.error e) => ({ s with native },⟨.thrown (.exception e),0⟩)
      | (native,.ok supported) =>
        if frame.metrics &&& ~~~supported ≠ 0 then
          ({ s with native },
            ⟨.thrown (throwUnsupportedMetrics scope frame.order (frame.metrics &&& ~~~supported)),0⟩)
        else ({ s with native }).openAdmitted P frame.metrics frame.order scope r

/-- `Sampler::metrics`. -/
def metrics (handle : ℕ) (s : ObjectStore κ σ) : Option (List MetricId) :=
  (s.samplers.lookup handle).map fun live => metricCases live.object.metricOrder

end ObjectStore

/-- The mask of the metrics of a list. -/
def maskOf (ms : List MetricId) : UInt32 := ms.foldl (fun metrics m => metrics ||| m.mask) 0

@[simp] theorem maskOf_nil : maskOf [] = 0 := rfl

@[simp] theorem maskOf_concat (ms : List MetricId) (m : MetricId) :
    maskOf (ms ++ [m]) = maskOf ms ||| m.mask := by
  simp [maskOf]

theorem MetricId.index_lt (m : MetricId) : m.index.toNat < count := by cases m <;> decide

theorem MetricId.index_inj {a b : MetricId} (h : a.index.toNat = b.index.toNat) : a = b := by
  cases a <;> cases b <;> first | rfl | exact absurd h (by decide)

theorem MetricId.mask_toNat (m : MetricId) : m.mask.toNat = 2^m.index.toNat := by cases m <;> decide

/-- The test of a mask reads one bit. -/
theorem requests_testBit (metrics : UInt32) (m : MetricId) :
    requests metrics m.mask = metrics.toNat.testBit m.index.toNat := by
  rw [requests, Bool.eq_iff_iff, bne_iff_ne, ← and_two_pow_ne_zero_iff, ne_eq, ← UInt32.toNat_inj,
    UInt32.toNat_and, m.mask_toNat]
  rfl

theorem requests_diff (metrics supported : UInt32) (m : MetricId) :
    requests (metrics &&& ~~~supported) m.mask =
      (requests metrics m.mask && !requests supported m.mask) := by
  have hindex : m.index.toNat < 32 := lt_trans m.index_lt (by decide)
  have hbit (x : UInt32) : x.toNat.testBit m.index.toNat = x.toBitVec.getLsbD m.index.toNat :=
    BitVec.testBit_toNat _
  simp only [requests_testBit, hbit, UInt32.toBitVec_and, UInt32.toBitVec_not, BitVec.getLsbD_and,
    BitVec.getLsbD_not, hindex, decide_true, Bool.true_and]

/-- The bits of the mask are the metrics of the list. -/
theorem maskOf_testBit (ms : List MetricId) (i : ℕ) :
    (maskOf ms).toNat.testBit i = true ↔ ∃ m ∈ ms, m.index.toNat = i := by
  induction ms using List.reverseRecOn with
  | nil => simp
  | append_singleton ms m ih =>
    rw [maskOf_concat, UInt32.toNat_or, Nat.testBit_or, Bool.or_eq_true, ih, m.mask_toNat,
      Nat.testBit_two_pow, decide_eq_true_iff]
    simp [or_and_right,exists_or]

theorem requests_maskOf {ms : List MetricId} {m : MetricId} :
    requests (maskOf ms) m.mask = true ↔ m ∈ ms := by
  rw [requests_testBit, maskOf_testBit]
  constructor
  · rintro ⟨a,ha,hi⟩
    exact MetricId.index_inj hi ▸ ha
  · exact fun hm => ⟨m,hm,rfl⟩

/-- The part of the request outside the supported mask. -/
theorem rejected_eq_zero_iff (ms : List MetricId) (supported : UInt32) :
    maskOf ms &&& ~~~supported = 0 ↔ ∀ m ∈ ms, requests supported m.mask = true := by
  constructor
  · intro h m hm
    have hdiff := requests_diff (maskOf ms) supported m
    rw [h, requests_maskOf.mpr hm, requests, UInt32.zero_and] at hdiff
    simpa using hdiff
  · intro h
    apply UInt32.toNat_inj.mp
    apply Nat.zero_of_testBit_eq_false
    intro i
    rw [UInt32.toNat_and, Nat.testBit_and, Bool.and_eq_false_imp]
    intro hi
    obtain ⟨m,hm,rfl⟩ := (maskOf_testBit ms i).mp hi
    have hdiff := requests_diff (maskOf ms) supported m
    rw [requests_testBit, UInt32.toNat_and, Nat.testBit_and, hi, h m hm] at hdiff
    simpa using hdiff

theorem nodup_length_le {ms : List MetricId} (h : ms.Nodup) : ms.length ≤ MetricId.count :=
  (List.subperm_of_subset h fun m _ => MetricId.mem_all m).length_le

namespace OpenFrame

/-- The locals after the metrics of a list went through the loop. -/
structure Holds (f : OpenFrame) (ms : List MetricId) : Prop where
  nodup : ms.Nodup
  metrics : f.metrics = maskOf ms
  count : f.metricCount.toNat = ms.length
  order : f.order = ms
  inBounds : ∀ i ∈ f.written, i < MetricId.count

theorem holds_start (metricOrder : ℕ → MetricId) : (start metricOrder).Holds [] where
  nodup := List.nodup_nil
  metrics := rfl
  count := rfl
  order := rfl
  inBounds i hi := by cases hi

namespace Holds
variable {f : OpenFrame} {ms : List MetricId}

/-- The test for a repeated metric. -/
theorem repeats (h : f.Holds ms) (m : MetricId) : requests f.metrics m.mask = true ↔ m ∈ ms := by
  rw [h.metrics, requests_maskOf]

theorem nodup_concat (h : f.Holds ms) {m : MetricId} (hm : m ∉ ms) : (ms ++ [m]).Nodup :=
  List.nodup_append.mpr ⟨h.nodup,List.nodup_singleton m,by
    intro a ha b hb hab
    obtain rfl := List.mem_singleton.mp hb
    exact hm (hab ▸ ha)⟩

/-- One more metric leaves room for itself, since there are no more distinct ones. -/
theorem count_lt (h : f.Holds ms) {m : MetricId} (hm : m ∉ ms) : f.metricCount.toNat < MetricId.count := by
  have hlen := nodup_length_le (h.nodup_concat hm)
  rw [List.length_append, List.length_singleton] at hlen
  have := h.count
  omega

theorem push (h : f.Holds ms) {m : MetricId} (hm : m ∉ ms) : (f.push m).Holds (ms ++ [m]) := by
  have hlt := h.count_lt hm
  have hcount : (f.metricCount + 1).toNat = f.metricCount.toNat + 1 := by
    rw [UInt8.toNat_add]
    unfold MetricId.count at hlt
    exact Nat.mod_eq_of_lt (by simp; omega)
  constructor
  · exact h.nodup_concat hm
  · simp [OpenFrame.push,h.metrics]
  · simp [OpenFrame.push,hcount,h.count]
  · have hold : filled f.metricOrder f.metricCount.toNat = ms := h.order
    rw [OpenFrame.order, OpenFrame.push, hcount, filled_push, hold]
  · intro i hi
    obtain hi | hi := List.mem_append.mp hi
    · exact h.inBounds i hi
    · exact List.mem_singleton.mp hi ▸ hlt

end Holds

end OpenFrame

/-- The loop stops at the first element that is no case, or one of those seen. -/
def StopsAt (seen : List MetricId) (values : List Zval) (e : Error) : Prop :=
  ∃ front value rest new, values = front ++ value::rest ∧ front.map Zval.metric? = new.map some ∧
    (seen ++ new).Nodup ∧ (value.metric? = none ∧ e = notAMetric ∨
      ∃ m ∈ seen ++ new, value.metric? = some m ∧ e = duplicateMetrics)

theorem StopsAt.cons {seen : List MetricId} {m : MetricId} {value : Zval} {values : List Zval} {e : Error}
    (hvalue : value.metric? = some m) (h : StopsAt (seen ++ [m]) values e) :
    StopsAt seen (value::values) e := by
  obtain ⟨front,stop,rest,new,rfl,hfront,hnodup,hstop⟩ := h
  rw [List.append_assoc] at hnodup hstop
  exact ⟨value::front,stop,rest,m::new,rfl,by simp [hvalue,hfront],hnodup,hstop⟩

/-- Inversion of the loop of `Sampler::open`, entered after the metrics `seen`. -/
inductive AdmitCase (seen : List MetricId) (values : List Zval) : OpenFrame × Except Error Unit → Prop
  | admitted {frame} (new : List MetricId) (cases : values.map Zval.metric? = new.map some)
      (holds : frame.Holds (seen ++ new)) : AdmitCase seen values (frame,.ok ())
  | stopped {frame e} (got : List MetricId) (holds : frame.Holds got) (stop : StopsAt seen values e) :
      AdmitCase seen values (frame,.error e)

theorem admitArray_cases (values : List Zval) {f : OpenFrame} {seen : List MetricId} (h : f.Holds seen) :
    AdmitCase seen values (admitArray values f) := by
  induction values generalizing f seen with
  | nil => exact .admitted [] rfl (by simpa using h)
  | cons value values ih =>
    unfold admitArray
    rw [metricFromZval_eq]
    cases hvalue : value.metric? with
    | none =>
      exact .stopped seen h ⟨[],value,values,[],rfl,rfl,by simpa using h.nodup,.inl ⟨hvalue,rfl⟩⟩
    | some m =>
      dsimp only
      split
      next hm =>
        have hseen : m ∈ seen ++ [] := by simpa using (h.repeats m).mp hm
        exact .stopped seen h
          ⟨[],value,values,[],rfl,rfl,by simpa using h.nodup,.inr ⟨m,hseen,hvalue,rfl⟩⟩
      next hm =>
        have hnew : m ∉ seen := fun hs => hm ((h.repeats m).mpr hs)
        generalize hx : admitArray values (f.push m) = x
        cases hx ▸ ih (h.push hnew) with
        | admitted new cases holds =>
          refine .admitted (m::new) ?_ ?_
          · simp [hvalue,cases]
          · simpa using holds
        | stopped got holds stop => exact .stopped got holds (stop.cons hvalue)

/-- The loop over the elements, with its buffer, computes what the loop over the cases computes with
a list. -/
theorem admitMetrics_map (values : List Zval) {f : OpenFrame} {seen : List MetricId} (h : f.Holds seen) :
    admitMetrics (values.map Zval.metric?) f.metrics f.order =
      (admitArray values f).2.map fun _ => ((admitArray values f).1.metrics,(admitArray values f).1.order) := by
  induction values generalizing f seen with
  | nil => rfl
  | cons value values ih =>
    unfold admitArray
    rw [metricFromZval_eq, List.map_cons]
    cases hvalue : value.metric? with
    | none => rfl
    | some m =>
      unfold admitMetrics
      dsimp only
      by_cases hm : requests f.metrics m.mask = true
      · rw [if_pos hm, if_pos hm]
        rfl
      · rw [if_neg hm, if_neg hm]
        have hpush := h.push fun hs => hm ((h.repeats m).mpr hs)
        have horder : (f.push m).order = f.order ++ [m] := by rw [hpush.order, h.order]
        rw [← ih hpush, horder]
        rfl

/-- The bytes of the names of a list, each with a separator. -/
def namesLength (ms : List MetricId) : ℕ := (ms.map fun m => m.name.length + 2).sum

/-- All the names fit the buffer. -/
theorem namesLength_lt {ms : List MetricId} (h : ms.Nodup) : namesLength ms < 128 := by
  obtain ⟨l,hperm,hsub⟩ := List.subperm_of_subset h fun m _ => MetricId.mem_all m
  calc
    namesLength ms = namesLength l := ((hperm.map _).sum_eq).symm
    _ ≤ namesLength MetricId.all := (hsub.map _).sum_le_sum fun _ _ => Nat.zero_le _
    _ < 128 := by decide

/-- The names of a list as the message shows them. -/
def joinedNames (ms : List MetricId) : String := ", ".intercalate (ms.map MetricId.name)

@[simp] theorem joinedNames_nil : joinedNames [] = "" := String.intercalate_nil

theorem joinedNames_concat (ms : List MetricId) (m : MetricId) :
    joinedNames (ms ++ [m]) = joinedNames ms ++ ((if ms = [] then "" else ", ") ++ m.name) := by
  cases ms with
  | nil => simp [joinedNames]
  | cons a ms =>
    rw [joinedNames, List.map_append, String.intercalate_append_of_ne_nil (by simp) (by simp)]
    simp [joinedNames,String.append_assoc]

theorem joinedNames_length_le (ms : List MetricId) : (joinedNames ms).length ≤ namesLength ms := by
  induction ms using List.reverseRecOn with
  | nil => rw [joinedNames_nil]; exact Nat.zero_le _
  | append_singleton ms m ih =>
    have hcomma : (if ms = [] then "" else ", ").length ≤ 2 := by split_ifs <;> decide
    rw [joinedNames_concat, String.length_append, String.length_append]
    simp only [namesLength, List.map_append, List.sum_append, List.map_singleton, List.sum_singleton] at ih ⊢
    omega

theorem joinedNames_length_eq_zero (ms : List MetricId) : (joinedNames ms).length = 0 ↔ ms = [] := by
  constructor
  · intro h
    induction ms using List.reverseRecOn with
    | nil => rfl
    | append_singleton ms m _ =>
      have hname : 0 < m.name.length := by cases m <;> decide
      rw [joinedNames_concat, String.length_append, String.length_append] at h
      omega
  · rintro rfl
    simp

/-- The loop joins the names of all rejected metrics: its buffer never runs out. -/
theorem rejectedNames_eq (rejected : UInt32) (ms done : List MetricId) (h : (done ++ ms).Nodup) :
    rejectedNames rejected ms (joinedNames done) =
      joinedNames (done ++ ms.filter fun m => requests rejected m.mask) := by
  induction ms generalizing done with
  | nil => simp [rejectedNames]
  | cons m ms ih =>
    unfold rejectedNames
    by_cases hm : requests rejected m.mask = true
    · have hnext : (done ++ [m] ++ ms).Nodup := by simpa using h
      have hroom : (joinedNames (done ++ [m])).length < 128 :=
        (joinedNames_length_le _).trans_lt (namesLength_lt hnext.of_append_left)
      rw [joinedNames_concat, String.length_append] at hroom
      rw [if_pos hm]
      simp only [joinedNames_length_eq_zero]
      rw [if_neg (by omega), ← joinedNames_concat, ih _ hnext, List.filter_cons_of_pos (by simpa using hm)]
      simp
    · have hskip : (done ++ ms).Nodup := h.sublist ((List.sublist_cons_self m ms).append_left done)
      rw [if_neg hm, ih _ hskip, List.filter_cons_of_neg (by simpa using hm)]

theorem throwUnsupportedMetrics_eq (scope : ScopeId) {ms : List MetricId} (h : ms.Nodup) (rejected : UInt32) :
    throwUnsupportedMetrics scope ms rejected =
      .unsupported (unsupportedMetric scope (ms.filter fun m => requests rejected m.mask)) scope
        (ms.filter fun m => requests rejected m.mask) := by
  have hnames := rejectedNames_eq rejected ms [] (by simpa using h)
  rw [joinedNames_nil, List.nil_append] at hnames
  rw [throwUnsupportedMetrics, hnames, metricCases_eq]
  rfl

namespace ObjectStore
variable {κ σ ρ : Type} (P : Platform κ σ ρ)

/-- The method on the array is the method on what its elements are. -/
theorem openArray_eq (values : List Zval) (scope : Option ScopeId) (metricOrder : ℕ → MetricId)
    (r : OpenAnswers ρ) (s : ObjectStore κ σ) :
    s.openArray P values scope metricOrder r = s.openSampler P (values.map Zval.metric?) scope r := by
  have hmap := admitMetrics_map values (OpenFrame.holds_start metricOrder)
  have hcases := admitArray_cases values (OpenFrame.holds_start metricOrder)
  unfold openArray openSampler
  rw [List.isEmpty_map]
  by_cases hempty : values.isEmpty = true
  · rw [if_pos hempty, if_pos hempty]
  rw [if_neg hempty, if_neg hempty]
  change admitMetrics _ 0 [] = _ at hmap
  rw [hmap]
  generalize admitArray values (.start metricOrder) = x at hcases ⊢
  cases hcases with
  | stopped got holds stop => rfl
  | admitted new cases holds =>
    dsimp only [Except.map]
    have hnodup := holds.nodup
    rw [← holds.order] at hnodup
    generalize P.samplerSupportedMetrics _ (scope.getD .currentThread) r.supported s.native = reply
    obtain ⟨native,e | supported⟩ := reply
    · rfl
    · dsimp only
      rw [throwUnsupportedMetrics_eq _ hnodup]

theorem metrics_eq_some_iff {handle : ℕ} {s : ObjectStore κ σ} {ms : List MetricId} :
    s.metrics handle = some ms ↔
      ∃ live, s.samplers.lookup handle = some live ∧ live.object.metricOrder = ms := by
  simp [metrics]

/-- The list survives a replacement of its object that keeps `metric_order`. -/
theorem metrics_replace {handle other : ℕ} {s t : ObjectStore κ σ} {ms : List MetricId}
    {live live' : Live (SamplerObj σ)} (h : s.metrics handle = some ms)
    (found : s.samplers.lookup other = some live) (ht : t.samplers = s.samplers.insert other live')
    (kept : live'.object.metricOrder = live.object.metricOrder) : t.metrics handle = some ms := by
  rw [metrics_eq_some_iff] at h ⊢
  obtain ⟨x,hx,hms⟩ := h
  rw [ht]
  by_cases hh : handle = other
  · subst hh
    cases hx.symm.trans found
    exact ⟨live',Finmap.lookup_insert _,kept.trans hms⟩
  · exact ⟨x,by rw [Finmap.lookup_insert_of_ne _ hh, hx],hms⟩

theorem metrics_congr {handle : ℕ} {s t : ObjectStore κ σ} (h : t.samplers = s.samplers) :
    t.metrics handle = s.metrics handle := by
  rw [metrics, metrics, h]

theorem metrics_openSampler {handle : ℕ} {s : ObjectStore κ σ} {ms : List MetricId}
    (h : s.metrics handle = some ms) (values : List (Option MetricId)) (scope : Option ScopeId)
    (r : OpenAnswers ρ) : (s.openSampler P values scope r).1.metrics handle = some ms := by
  generalize hx : s.openSampler P values scope r = x
  cases hx ▸ s.openSampler_cases P values scope r with
  | rejected => exact h
  | unprobed => exact h
  | unsupported => exact h
  | admitted supported opened =>
    cases opened with
    | failed => exact (metrics_congr (samplerObjFree_samplers P _ _ _)).trans h
    | unread => exact (metrics_congr (samplerObjFree_samplers P _ _ _)).trans h
    | opened obj =>
      -- the new object gets a handle that is not in use
      obtain ⟨live,hlive,hms⟩ := metrics_eq_some_iff.mp h
      have hne : handle ≠ r.handle.pick s.samplers.keys := by
        intro heq
        rw [heq, Table.lookup_pick] at hlive
        cases hlive
      exact metrics_eq_some_iff.mpr ⟨live,by rw [Finmap.lookup_insert_of_ne _ hne, hlive],hms⟩

theorem metrics_readSampler {handle : ℕ} {s : ObjectStore κ σ} {ms : List MetricId}
    (h : s.metrics handle = some ms) (other : ℕ) (r : ReadAnswers ρ) :
    (s.readSampler P other r).1.metrics handle = some ms := by
  generalize hx : s.readSampler P other r = x
  cases hx ▸ s.readSampler_cases P other r with
  | noObject => exact h
  | closed => exact h
  | failed found => exact metrics_replace h found rfl rfl
  | read found held read result taken =>
    cases taken with
    | clock => exact metrics_replace h found rfl rfl
    | dropped =>
      exact metrics_replace h found ((identityRelease_samplers _ _).trans (identityRetain_samplers _ _)) rfl
    | taken => exact metrics_replace h found (identityRetain_samplers _ _) rfl

/-- Every step but the destruction of the object keeps what its `metrics()` returns. -/
theorem metrics_step {handle : ℕ} {s : ObjectStore κ σ} {ms : List MetricId} {op : ObjectOp ρ}
    (h : s.metrics handle = some ms) (hop : ∀ r, op ≠ .destroySampler handle r) :
    (s.step P op).1.metrics handle = some ms := by
  cases op with
  | openSampler values scope r => exact metrics_openSampler P h values scope r
  | readSampler other r => exact metrics_readSampler P h other r
  | closeSampler other r =>
    change (s.closeSampler P other r).1.metrics handle = some ms
    unfold closeSampler
    split
    · exact h
    next obj opening found =>
      split
      · exact h
      · exact metrics_replace h found rfl rfl
  | destroySampler other r =>
    change (s.destroySampler P other r).1.metrics handle = some ms
    unfold destroySampler
    split
    · exact h
    next obj opening found =>
      have hne : handle ≠ other := fun heq => hop r (heq ▸ rfl)
      obtain ⟨live,hlive,hms⟩ := metrics_eq_some_iff.mp h
      refine metrics_eq_some_iff.mpr ⟨live,?_,hms⟩
      rw [samplerObjFree_samplers, Finmap.lookup_erase_ne hne, hlive]
  | destroySample other =>
    change (s.destroySample other).1.metrics handle = some ms
    unfold destroySample
    split
    · exact h
    · exact (metrics_congr (identityRelease_samplers _ _)).trans h

/-- The list that `metrics()` returns stays the same as long as the object lives. -/
theorem final_metrics {handle : ℕ} {s : ObjectStore κ σ} {ms : List MetricId} {ops : List (ObjectOp ρ)}
    (h : s.metrics handle = some ms) (hops : ∀ r, ObjectOp.destroySampler handle r ∉ ops) :
    (final (step P) s ops).metrics handle = some ms := by
  induction ops generalizing s with
  | nil => exact h
  | cons op ops ih =>
    refine ih (metrics_step P h fun r hr => ?_) fun r hr => hops r (List.mem_cons_of_mem _ hr)
    exact hops r (hr ▸ List.mem_cons_self)

/-- A new sampler lists the metrics that were admitted. -/
theorem metrics_openAdmitted {metrics : UInt32} {ms : List MetricId} {scope : ScopeId} {r : OpenAnswers ρ}
    {s : ObjectStore κ σ} {handle : ℕ}
    (h : (s.openAdmitted P metrics ms scope r).2.result = .sampler handle) :
    (s.openAdmitted P metrics ms scope r).1.metrics handle = some ms := by
  generalize hx : s.openAdmitted P metrics ms scope r = x at h ⊢
  cases hx ▸ s.openAdmitted_cases P metrics ms scope r with
  | failed => cases h
  | unread => cases h
  | opened obj held named requested ordered =>
    cases h
    exact metrics_eq_some_iff.mpr ⟨_,Finmap.lookup_insert _,ordered⟩

end ObjectStore

/-- The array is a request for these metrics: not empty, and of pairwise distinct cases. -/
def AsksFor (values : List Zval) (ms : List MetricId) : Prop :=
  ms ≠ [] ∧ ms.Nodup ∧ values.map Zval.metric? = ms.map some

theorem StopsAt.not_asksFor {values : List Zval} {e : Error} (h : StopsAt [] values e)
    (ms : List MetricId) : ¬AsksFor values ms := by
  rintro ⟨-,hnodup,hcases⟩
  obtain ⟨front,value,rest,new,rfl,hfront,-,hstop⟩ := h
  obtain ⟨ms₁,ms₂,rfl,h₁,h₂⟩ := List.map_eq_append_iff.mp
    (hcases.symm.trans (List.map_append ..))
  obtain ⟨m,ms₃,rfl,hm,-⟩ := List.map_eq_cons_iff.mp h₂
  have hnew : ms₁ = new :=
    (Option.some_injective _).list_map (h₁.trans hfront)
  obtain ⟨hnone,-⟩ | ⟨a,ha,hsome,-⟩ := hstop
  · cases hm.trans hnone
  · cases hm.trans hsome
    exact (List.nodup_append.mp hnodup).2.2 m (by simpa [hnew] using ha) m List.mem_cons_self rfl

theorem AsksFor.unique {values : List Zval} {ms new : List MetricId} (h : AsksFor values ms)
    (hnew : values.map Zval.metric? = new.map some) : ms = new :=
  (Option.some_injective _).list_map (h.2.2.symm.trans hnew)

/-- The metrics of a request that the backend does not support, in the order of the request. -/
def missing (ms : List MetricId) (supported : UInt32) : List MetricId :=
  ms.filter fun m => !requests supported m.mask

theorem missing_eq (ms : List MetricId) (supported : UInt32) :
    (ms.filter fun m => requests (maskOf ms &&& ~~~supported) m.mask) = missing ms supported := by
  apply List.filter_congr
  intro m hm
  rw [requests_diff, requests_maskOf.mpr hm, Bool.true_and]

/-- Without the metrics reported as missing the request is shorter, and supported as far as the mask
tells. -/
theorem without_missing {ms : List MetricId} {supported : UInt32}
    (h : ∃ m ∈ ms, requests supported m.mask = false) :
    missing ms supported ≠ [] ∧ (missing ms supported).Sublist ms ∧
    (ms.filter (· ∉ missing ms supported)).length < ms.length ∧
    (ms.filter (· ∉ missing ms supported)).Disjoint (missing ms supported) := by
  obtain ⟨m,hm,hs⟩ := h
  have hmissing : m ∈ missing ms supported := List.mem_filter.mpr ⟨hm,by simp [hs]⟩
  refine ⟨List.ne_nil_of_mem hmissing,List.filter_sublist,?_,?_⟩
  · exact List.length_filter_lt_length_iff_exists.mpr ⟨m,hm,by simpa using hmissing⟩
  · intro a ha
    simpa using (List.mem_filter.mp ha).2

namespace ObjectStore
variable {κ σ ρ : Type} (P : Platform κ σ ρ)

/-- What `Sampler::open` does with the admitted request `ms` of the mask `metrics`. -/
structure Admits (ms : List MetricId) (metrics : UInt32) (scope : ScopeId) (r : OpenAnswers ρ)
    (s : ObjectStore κ σ) (x : ObjectStore κ σ × ObjectOutcome) : Prop where
  unprobed : ∀ native e, P.samplerSupportedMetrics metrics scope r.supported s.native = (native,.error e) →
    x = ({ s with native },⟨.thrown (.exception e),0⟩)
  unsupported : ∀ native supported,
    P.samplerSupportedMetrics metrics scope r.supported s.native = (native,.ok supported) →
    (∃ m ∈ ms, requests supported m.mask = false) →
    x = ({ s with native },⟨.thrown (.unsupported (unsupportedMetric scope (missing ms supported)) scope
      (missing ms supported)),0⟩) ∧
    missing ms supported ≠ [] ∧ (missing ms supported).Sublist ms ∧
    (ms.filter (· ∉ missing ms supported)).length < ms.length ∧
    (ms.filter (· ∉ missing ms supported)).Disjoint (missing ms supported)
  supported : ∀ native supported,
    P.samplerSupportedMetrics metrics scope r.supported s.native = (native,.ok supported) →
    (∀ m ∈ ms, requests supported m.mask = true) →
    x = ({ s with native }).openAdmitted P metrics ms scope r
  listed : ∀ handle ops, x.2.result = .sampler handle →
    (∀ r, ObjectOp.destroySampler handle r ∉ ops) → (final (step P) x.1 ops).metrics handle = some ms

/-- Inversion of `Sampler::open` on an admitted request. -/
theorem admits_of_eq {ms : List MetricId} (scope : Option ScopeId) (metricOrder : ℕ → MetricId)
    (r : OpenAnswers ρ) (s : ObjectStore κ σ) {values : List Zval} {frame : OpenFrame}
    (hne : values ≠ []) (haccepted : admitArray values (.start metricOrder) = (frame,.ok ()))
    (holds : frame.Holds ms) :
    Admits P ms frame.metrics (scope.getD .currentThread) r s
      (s.openArray P values scope metricOrder r) := by
  have hzero (supported : UInt32) : frame.metrics &&& ~~~supported ≠ 0 ↔
      ∃ m ∈ ms, requests supported m.mask = false := by
    rw [holds.metrics, ne_eq, rejected_eq_zero_iff]
    simp
  have hopen : s.openArray P values scope metricOrder r =
      match P.samplerSupportedMetrics frame.metrics (scope.getD .currentThread) r.supported s.native with
      | (native,.error e) => ({ s with native },⟨.thrown (.exception e),0⟩)
      | (native,.ok supported) =>
        if frame.metrics &&& ~~~supported ≠ 0 then
          ({ s with native },⟨.thrown (.unsupported
            (unsupportedMetric (scope.getD .currentThread) (missing ms supported))
            (scope.getD .currentThread) (missing ms supported)),0⟩)
        else ({ s with native }).openAdmitted P frame.metrics ms (scope.getD .currentThread) r := by
    unfold openArray
    rw [if_neg (by simpa using hne), haccepted]
    simp only [holds.order, throwUnsupportedMetrics_eq _ holds.nodup, holds.metrics, missing_eq]
  constructor
  · intro native e hs
    rw [hopen, hs]
  · intro native supported hs hlack
    refine ⟨?_,without_missing hlack⟩
    rw [hopen, hs]
    exact if_pos ((hzero supported).mpr hlack)
  · intro native supported hs hall
    rw [hopen, hs]
    refine if_neg fun hlack => ?_
    obtain ⟨m,hm,hfalse⟩ := (hzero supported).mp hlack
    rw [hall m hm] at hfalse
    cases hfalse
  · intro handle ops hresult hops
    refine final_metrics P ?_ hops
    rw [hopen] at hresult ⊢
    generalize P.samplerSupportedMetrics frame.metrics (scope.getD .currentThread) r.supported s.native =
      reply at hresult ⊢
    obtain ⟨native,e | supported⟩ := reply
    · cases hresult
    · dsimp only at hresult ⊢
      split_ifs at hresult ⊢ with hlack
      exact metrics_openAdmitted P hresult

/-- `Sampler::open` never leaves its buffer, takes exactly the non-empty arrays of distinct `Metric`
cases, and rejects the others before the backend is called. The unsupported metrics that it reports
are those missing in the mask of the backend, and its sampler lists the request as long as it lives. -/
theorem admission_exact (values : List Zval) (scope : Option ScopeId) (metricOrder : ℕ → MetricId)
    (r : OpenAnswers ρ) (s : ObjectStore κ σ) :
    let loop := admitArray values (.start metricOrder)
    let x := s.openArray P values scope metricOrder r
    (∀ i ∈ loop.1.written, i < MetricId.count) ∧
    (∀ ms, AsksFor values ms →
      loop.2 = .ok () ∧ loop.1.order = ms ∧
      (∀ i, loop.1.metrics.toNat.testBit i = true ↔ ∃ m ∈ ms, m.index.toNat = i) ∧
      Admits P ms loop.1.metrics (scope.getD .currentThread) r s x) ∧
    ((∀ ms, ¬AsksFor values ms) → ∃ e, (values = [] ∧ e = emptyMetrics ∨ StopsAt [] values e) ∧
      x = (s,⟨.thrown (.exception e),0⟩)) := by
  intro loop x
  have hcases : AdmitCase [] values loop := admitArray_cases values (OpenFrame.holds_start metricOrder)
  generalize hloop : loop = l at hcases ⊢
  cases hcases with
  | stopped got holds stop =>
    refine ⟨holds.inBounds,fun ms h => absurd h (stop.not_asksFor ms),fun _ => ⟨_,.inr stop,?_⟩⟩
    have hne : values ≠ [] := by
      obtain ⟨front,value,rest,new,rfl,-⟩ := stop
      simp
    change s.openArray P values scope metricOrder r = _
    unfold openArray
    rw [if_neg (by simpa using hne), show admitArray values (.start metricOrder) = _ from hloop]
  | admitted new cases holds =>
    refine ⟨holds.inBounds,fun ms h => ?_,fun h => ?_⟩
    · obtain rfl := h.unique cases
      have hne : values ≠ [] := by
        rintro rfl
        exact h.1 (List.map_eq_nil_iff.mp cases.symm)
      refine ⟨rfl,holds.order,fun i => ?_,admits_of_eq P scope metricOrder r s hne hloop holds⟩
      rw [holds.metrics]
      exact maskOf_testBit ms i
    · have hnil : values = [] := by
        by_contra hne
        refine h new ⟨?_,holds.nodup,cases⟩
        rintro rfl
        exact hne (List.map_eq_nil_iff.mp cases)
      refine ⟨emptyMetrics,.inl ⟨hnil,rfl⟩,?_⟩
      subst hnil
      rfl

end ObjectStore

end Perfidious
