import Perfidious.CounterMath
import Perfidious.Handle.Machine

/-! The request metrics table of `phpinfo()` (`minfo_handle_metrics`): counts scaled over the
interval since the last reset. -/
namespace Perfidious
open Library

/-- A row of the table: event, counter, scaled counter and share of the time running. -/
structure InfoRow where
  event : String
  counter : String
  scaled : String
  percRunning : String
  deriving DecidableEq, Repr

inductive InfoOutput
  | readError (columns : ℕ)
  | table (rows : List InfoRow)
  deriving DecidableEq, Repr

/-- A checked number as it is printed. -/
def infoCell (suffix : String) : Option UInt64 → String
  | some n => toString n.toNat ++ suffix
  | none => "overflow"

/-- The body of the loop over the decoded array; a key that is an integer has no row. -/
def infoRow (int128 : Bool) (timeEnabled timeRunning : UInt64) (percRunning : Option UInt64) :
    ArrayKey × ℤ → Option InfoRow
  | (.index _,_) => none
  | (.string key,val) =>
    let scaled := if timeRunning = 0 then some 0
      else scaleUint64 int128 (UInt64.ofInt val) timeEnabled timeRunning
    some ⟨key,toString (UInt64.ofInt val).toNat,infoCell "" scaled,infoCell "%" percRunning⟩

/-- What the table prints once the record is read. -/
def infoOutput (int128 : Bool) (h : Handle) (reading : Reading) : InfoOutput :=
  if reading.timeEnabled < h.timeEnabledAtReset ∨ reading.timeRunning < h.timeRunningAtReset then
    .readError 4
  else
    let timeEnabled := reading.timeEnabled - h.timeEnabledAtReset
    let timeRunning := reading.timeRunning - h.timeRunningAtReset
    let percRunning := if timeEnabled = 0 then some 0
      else scaleUint64 int128 timeRunning 100 timeEnabled
    .table (reading.values.filterMap (infoRow int128 timeEnabled timeRunning percRunning))

/-- `minfo_handle_metrics`, with the exceptions thrown by the read. -/
def Attached.minfoHandleMetrics (int128 : Bool) (r : Native ReadAnswer) (a : Attached) :
    Attached × List Error × InfoOutput :=
  let (a,reading) := a.readToArrayWithTimes r
  match reading with
  | .error e => (a,[e],.readError 3)
  | .ok reading => (a,[],infoOutput int128 a.handle reading)

/-- The times since the last zeroing are ordered like the times themselves. -/
structure EventGroup.Timed (g : EventGroup) : Prop where
  enabled : g.zeroedEnabled ≤ g.timeEnabled
  running : g.zeroedRunning ≤ g.timeRunning
  ratio : g.timeRunning - g.zeroedRunning ≤ g.timeEnabled - g.zeroedEnabled

namespace EventGroup.Timed

theorem elapse {g : EventGroup} (h : g.Timed) (t : Tick) : (g.elapse t).Timed := by
  obtain ⟨he,hr,hratio⟩ := h
  have ht := t.running_le
  unfold EventGroup.elapse
  split
  · constructor <;> dsimp only <;> omega
  · exact ⟨he,hr,hratio⟩

theorem issue {g : EventGroup} (h : g.Timed) (call : NativeCall) : (g.issue call).Timed :=
  ⟨h.enabled,h.running,h.ratio⟩

theorem control {g : EventGroup} (h : g.Timed) (request : Control) : (g.control request).Timed := by
  cases request with
  | enable => exact ⟨h.enabled,h.running,h.ratio⟩
  | disable => exact ⟨h.enabled,h.running,h.ratio⟩
  | reset => constructor <;> simp [EventGroup.control]

end EventGroup.Timed

namespace Attached

/-- The baselines are the kernel's times at the moment the counts were last zeroed. -/
structure Baseline (a : Attached) : Prop where
  inSync : a.InSync
  enabled : a.handle.timeEnabledAtReset = UInt64.ofNat a.group.zeroedEnabled
  running : a.handle.timeRunningAtReset = UInt64.ofNat a.group.zeroedRunning
  timed : a.group.Timed

theorem trySetEnabled_baseline {a : Attached} (h : a.Baseline) (enabled : Bool) (r : Native Status) :
    (a.trySetEnabled enabled r).1.Baseline := by
  have hsync := trySetEnabled_inSync h.inSync enabled r
  have htimed := (h.timed.elapse r.elapsed).issue (.control (if enabled then .enable else .disable))
  cases hr : r.answer with
  | none =>
    rw [trySetEnabled_of_none hr] at hsync ⊢
    exact ⟨hsync,by simpa [EventGroup.issue] using h.enabled,
      by simpa [EventGroup.issue] using h.running,htimed.enabled,htimed.running,htimed.ratio⟩
  | some errno =>
    rw [trySetEnabled_of_some hr] at hsync ⊢
    exact ⟨hsync,by simpa [EventGroup.issue] using h.enabled,
      by simpa [EventGroup.issue] using h.running,htimed⟩

/-- On a frozen group nothing passes between the read and the `RESET`, so the record read holds the
times at the zeroing. -/
theorem resetBetween_baseline {a : Attached} (h : a.Baseline) (hfrozen : a.group.enabled = false)
    (read : Native ReadAnswer) (reset : Native Status) : (a.resetBetween read reset).1.Baseline := by
  have hsync := resetBetween_inSync h.inSync read reset
  have hread : a.afterRead read = a.group.issue .read := by
    rw [afterRead, EventGroup.elapse_disabled hfrozen]
  have hstill : (a.group.issue .read).elapse reset.elapsed = a.group.issue .read :=
    EventGroup.elapse_disabled (g := a.group.issue .read) hfrozen _
  by_cases hfull : read.answer = .full
  case neg =>
    obtain ⟨n,-,hunread⟩ := resetBetween_of_unread hfull reset
    rw [hunread, hread] at hsync ⊢
    exact ⟨hsync,h.enabled,h.running,h.timed.issue _⟩
  cases hreset : reset.answer with
  | none =>
    rw [resetBetween_of_none hfull hreset, hread, hstill] at hsync ⊢
    exact ⟨hsync,rfl,rfl,((h.timed.issue _).issue _).control .reset⟩
  | some errno =>
    rw [resetBetween_of_some hfull hreset, hread, hstill] at hsync ⊢
    exact ⟨hsync,h.enabled,h.running,(h.timed.issue _).issue _⟩

theorem tryReset_baseline {a : Attached} (h : a.Baseline) (r : ResetReplies) :
    (a.tryReset r).1.Baseline := by
  unfold tryReset
  split
  · exact h
  split
  next hen =>
    dsimp only
    have hpaused := trySetEnabled_baseline h false r.disable
    split
    · exact hpaused
    next hok =>
      refine trySetEnabled_baseline (resetBetween_baseline hpaused ?_ r.read r.reset) true r.enable
      cases hr : r.disable.answer with
      | none => rw [trySetEnabled_of_none hr]
      | some errno =>
        rw [trySetEnabled_of_some hr] at hok
        exact absurd (nonzeroErrno_ne_zero errno) (by simpa using hok)
  next hen => exact resetBetween_baseline h (h.inSync.symm.trans (by simpa using hen)) r.read r.reset

theorem baseline_kept : Kept Baseline where
  setEnabled enabled r h := trySetEnabled_baseline h enabled r
  reset r h := tryReset_baseline h r
  read t h := ⟨inSync_kept.read t h.inSync,by simpa [EventGroup.issue] using h.enabled,
    by simpa [EventGroup.issue] using h.running,(h.timed.elapse t).issue .read⟩
  dup h := ⟨h.inSync,h.enabled,h.running,h.timed.issue .dup⟩
  elapse t h := ⟨inSync_kept.elapse t h.inSync,by simpa using h.enabled,by simpa using h.running,
    h.timed.elapse t⟩

theorem minfoHandleMetrics_full {int128 : Bool} {r : Native ReadAnswer} {a : Attached}
    {reading : Reading} (hr : r.answer = .full)
    (hd : a.handle.decodeRecord ((a.group.elapse r.elapsed).issue .read).readFormat = .ok reading) :
    (a.minfoHandleMetrics int128 r).2 = ([],infoOutput int128 a.handle reading) := by
  unfold minfoHandleMetrics readToArrayWithTimes
  rw [hr]
  dsimp only
  rw [hd]

end Attached

theorem toNat_ofNat_of_lt {n : ℕ} (h : n < 2^64) : (UInt64.ofNat n).toNat = n :=
  UInt64.toNat_ofNat_of_lt' h

theorem ofInt_toNat {n : ℕ} (h : n < 2^64) : (UInt64.ofInt (n : ℤ)).toNat = n := by
  have hmod : ((n : ℤ) % 2^64).toNat = n := by omega
  rw [UInt64.ofInt, hmod, toNat_ofNat_of_lt h]

/-- A scaled cell prints the rounded-down quotient, or `overflow` beyond 64 bits. -/
theorem infoCell_scale (suffix : String) (v m d : UInt64) :
    infoCell suffix (if d = 0 then some 0 else scaleUint64 true v m d) =
      if 2^64 ≤ v.toNat*m.toNat/d.toNat then "overflow"
      else toString (v.toNat*m.toNat/d.toNat) ++ suffix := by
  split
  next hd => simp [hd,infoCell]
  next hd =>
    change infoCell suffix (scaleUint64Wide v m d) = _
    have hnone := scaleUint64Wide_eq_none_iff v m d
    rw [scaled] at hnone
    cases hs : scaleUint64Wide v m d with
    | none =>
      rw [if_pos (hnone.mp hs)]
      rfl
    | some r =>
      have hr := scaleUint64Wide_eq_some hs
      rw [scaled] at hr
      rw [if_neg (by rw [← hnone,hs]; simp), infoCell, hr]

/-- The subtraction of a baseline that was taken earlier. -/
theorem toNat_sub_baseline {time zeroed : ℕ} (h : zeroed ≤ time) (hlt : time < 2^64) :
    ¬ UInt64.ofNat time < UInt64.ofNat zeroed ∧
    (UInt64.ofNat time - UInt64.ofNat zeroed).toNat = time-zeroed := by
  have hle : UInt64.ofNat zeroed ≤ UInt64.ofNat time := by
    rw [UInt64.le_iff_toNat_le, toNat_ofNat_of_lt hlt, toNat_ofNat_of_lt (by omega)]
    exact h
  refine ⟨UInt64.not_lt.mpr hle,?_⟩
  rw [UInt64.toNat_sub_of_le _ _ hle, toNat_ofNat_of_lt hlt, toNat_ofNat_of_lt (by omega)]

/-- Which entries the decoded array holds: for each name, the count of its last event. -/
theorem mem_decoded {names : List String} (counts : ℕ → ℕ)
    (hnames : ∀ name ∈ names, symtableKey name = .string name) (key : ArrayKey) (val : ℤ) :
    (key,val) ∈ (names.mapIdx fun i name => (symtableKey name,(counts i : ℤ))).foldl
        (fun a e => update a e.1 e.2) ([] : PhpArray) ↔
      ∃ i name, names[i]? = some name ∧ (∀ j, i < j → names[j]? ≠ some name) ∧
        key = .string name ∧ val = counts i := by
  rw [mem_foldl_update]
  simp only [List.getElem?_mapIdx, List.not_mem_nil, and_false, or_false, Option.map_eq_some_iff,
    Prod.mk.injEq]
  constructor
  · rintro ⟨i,⟨name,hi,rfl,rfl⟩,hlast⟩
    have hkey := hnames name (List.mem_of_getElem? hi)
    exact ⟨i,name,hi,fun j hj hname => hlast j hj _ ⟨name,hname,rfl⟩ rfl,hkey,rfl⟩
  · rintro ⟨i,name,hi,hlast,rfl,rfl⟩
    refine ⟨i,⟨name,hi,hnames name (List.mem_of_getElem? hi),rfl⟩,?_⟩
    rintro j hj _ ⟨other,hother,rfl⟩ heq
    exact hlast j hj (symtableKey_string heq ▸ hother)

/-- The table printed from a full record, in terms of the times and counts of the group. -/
theorem infoOutput_baseline {names : List String} {h : Handle} {g : EventGroup} (htimed : g.Timed)
    (henabled : h.timeEnabledAtReset = UInt64.ofNat g.zeroedEnabled)
    (hrunning : h.timeRunningAtReset = UInt64.ofNat g.zeroedRunning)
    (hnames : ∀ name ∈ names, symtableKey name = .string name)
    (hE : g.timeEnabled < 2^64) (hR : g.timeRunning < 2^64)
    (hcounts : ∀ i < names.length, g.counts (i+1) ≤ zendLongMax) :
    let dE := g.timeEnabled - g.zeroedEnabled
    let dR := g.timeRunning - g.zeroedRunning
    ∃ rows, infoOutput true h ⟨UInt64.ofNat g.timeEnabled,UInt64.ofNat g.timeRunning,
        (names.mapIdx fun i name => (symtableKey name,(g.counts (i+1) : ℤ))).foldl
          (fun a e => update a e.1 e.2) []⟩ = .table rows ∧
      ∀ row, row ∈ rows ↔ ∃ i name, names[i]? = some name ∧ (∀ j, i < j → names[j]? ≠ some name) ∧
        row = ⟨name,toString (g.counts (i+1)),
          if 2^64 ≤ g.counts (i+1)*dE/dR then "overflow" else toString (g.counts (i+1)*dE/dR),
          toString (dR*100/dE) ++ "%"⟩ := by
  intro dE dR
  obtain ⟨hltE,hsubE⟩ := toNat_sub_baseline htimed.enabled hE
  obtain ⟨hltR,hsubR⟩ := toNat_sub_baseline htimed.running hR
  rw [← henabled] at hltE hsubE
  rw [← hrunning] at hltR hsubR
  have hperc : dR*100/dE ≤ 100 := by
    have := scaled_le 100 htimed.ratio
    exact this
  unfold infoOutput
  dsimp only
  rw [if_neg (not_or.mpr ⟨hltE,hltR⟩)]
  refine ⟨_,rfl,fun row => ?_⟩
  rw [List.mem_filterMap]
  have hrow : ∀ i name, names[i]? = some name → infoRow true (UInt64.ofNat g.timeEnabled - h.timeEnabledAtReset)
      (UInt64.ofNat g.timeRunning - h.timeRunningAtReset)
      (if UInt64.ofNat g.timeEnabled - h.timeEnabledAtReset = 0 then some 0
        else scaleUint64 true (UInt64.ofNat g.timeRunning - h.timeRunningAtReset) 100
          (UInt64.ofNat g.timeEnabled - h.timeEnabledAtReset))
      (.string name,(g.counts (i+1) : ℤ)) = some ⟨name,toString (g.counts (i+1)),
        if 2^64 ≤ g.counts (i+1)*dE/dR then "overflow" else toString (g.counts (i+1)*dE/dR),
        toString (dR*100/dE) ++ "%"⟩ := by
    intro i name hi
    have hlt : g.counts (i+1) < 2^64 :=
      lt_of_le_of_lt (hcounts i (List.getElem?_eq_some_iff.mp hi).1) (by decide)
    have hlarge : ¬ 2^64 ≤ dR*100/dE := by omega
    unfold infoRow
    simp only [infoCell_scale, hsubE, hsubR, ofInt_toNat hlt, String.append_empty]
    change some (InfoRow.mk name _ _ (if 2^64 ≤ dR*100/dE then _ else _)) = _
    rw [if_neg hlarge]
    rfl
  constructor
  · rintro ⟨⟨key,val⟩,hmem,heq⟩
    obtain ⟨i,name,hi,hlast,rfl,rfl⟩ := (mem_decoded (fun i => g.counts (i+1)) hnames key val).mp hmem
    exact ⟨i,name,hi,hlast,Option.some.inj (heq.symm.trans (hrow i name hi))⟩
  · rintro ⟨i,name,hi,hlast,rfl⟩
    exact ⟨(.string name,(g.counts (i+1) : ℤ)),
      (mem_decoded (fun i => g.counts (i+1)) hnames _ _).mpr ⟨i,name,hi,hlast,rfl,rfl⟩,
      hrow i name hi⟩

/-- `phpinfo()` scales over exactly the interval since the last reset. The baselines are the
kernel's times at the moment the counts were last zeroed; a later record of the group is printed
with one row for each event, whose scaled counter is the rounded-down extrapolation over that
interval and never less than the raw count, and whose share of the time running is at most 100.
The library that encodes the event names accepts no decimal integer. -/
theorem info_scales_since_reset (opener : ℕ) (names : List String) (pid cpu : ℤ) (persist : Bool)
    (r : OpenReplies) (h : Handle) (calls : List HandleCall)
    (hopen : tryOpenEx names pid cpu persist r = (.ok h,calls))
    (hlibpfm : ∀ i name, names[i]? = some name → (r.member i).encoding = none →
      symtableKey name = .string name)
    (ops : List HandleOp) :
    let a := final Attached.step ⟨h,h.openedGroup opener⟩ ops
    a.handle.timeEnabledAtReset = UInt64.ofNat a.group.zeroedEnabled ∧
    a.handle.timeRunningAtReset = UInt64.ofNat a.group.zeroedRunning ∧
    ∀ read : Native ReadAnswer, read.answer = .full →
      let g := a.group.elapse read.elapsed
      let dE := g.timeEnabled - g.zeroedEnabled
      let dR := g.timeRunning - g.zeroedRunning
      g.timeEnabled < 2^64 → g.timeRunning < 2^64 →
      (∀ i < names.length, g.counts (i+1) ≤ zendLongMax) →
      g.zeroedEnabled ≤ g.timeEnabled ∧ g.zeroedRunning ≤ g.timeRunning ∧
      dR*100/dE ≤ 100 ∧ (0 < dR → ∀ i, g.counts i ≤ g.counts i*dE/dR) ∧
      ∃ rows, (a.minfoHandleMetrics true read).2 = ([],.table rows) ∧
        ∀ row, row ∈ rows ↔ ∃ i name, names[i]? = some name ∧
          (∀ j, i < j → names[j]? ≠ some name) ∧
          row = ⟨name,toString (g.counts (i+1)),
            if 2^64 ≤ g.counts (i+1)*dE/dR then "overflow" else toString (g.counts (i+1)*dE/dR),
            toString (dR*100/dE) ++ "%"⟩ := by
  intro a
  obtain ⟨⟨hdisabled,-,hzeroE,hzeroR⟩,hmembers,hencoded⟩ := tryOpenEx_ok hopen
  have hbase : a.Baseline :=
    final_invariant_all Attached.step (I := Attached.Baseline)
      (fun _ op hi => Attached.baseline_kept.step hi op) ops
      ⟨hdisabled,hzeroE,hzeroR,Nat.le_refl 0,Nat.le_refl 0,Nat.le_refl 0⟩
  have hnamed : a.Names names :=
    final_invariant_all Attached.step (I := Attached.Names names)
      (fun b op hi => Attached.names_of_fixed (Attached.step_fixed b op) hi) ops ⟨rfl,hmembers⟩
  have hkeys : ∀ name ∈ names, symtableKey name = .string name := by
    intro name hname
    obtain ⟨i,hi⟩ := List.mem_iff_getElem?.mp hname
    exact hlibpfm i name hi (hencoded i (List.getElem?_eq_some_iff.mp hi).1)
  refine ⟨hbase.enabled,hbase.running,fun read hread => ?_⟩
  intro g dE dR hE hR hcounts
  have htimed : g.Timed := hbase.timed.elapse read.elapsed
  refine ⟨htimed.enabled,htimed.running,scaled_le 100 htimed.ratio,
    fun hpos i => le_scaled hpos htimed.ratio,?_⟩
  obtain ⟨rows,htable,hrows⟩ := infoOutput_baseline (h := a.handle) htimed
    (by simpa [g] using hbase.enabled) (by simpa [g] using hbase.running) hkeys hE hR hcounts
  refine ⟨rows,?_,hrows⟩
  have hdecode := Attached.decodeRecord_names hnamed (g.issue .read) (by simp [g,EventGroup.issue])
  have hfits := decodeNamed_fits hcounts []
  have hreading := hdecode.trans (congrArg _ hfits)
  exact (Attached.minfoHandleMetrics_full hread hreading).trans (congrArg _ htable)

/-- Counting over 100 ns, half of them running, then a reset, then 8 ns with 6 running. -/
def scaledOps : List HandleOp :=
  [.method (.enable (answered none)),.elapse ⟨100,50,fun _ => 9,by decide⟩,
    .method (.reset ⟨true,answered none,answered .full,answered none,answered none⟩),
    .elapse ⟨8,6,fun _ => 3,by decide⟩]

theorem info_scales_since_reset_three :
    ∃ rows, ((final Attached.step ⟨plainHandle,plainHandle.openedGroup 1⟩ scaledOps).minfoHandleMetrics
        true (answered .full)).2 = ([],.table rows) ∧ ⟨"instructions","3","4","75%"⟩ ∈ rows := by
  obtain ⟨-,-,h⟩ := info_scales_since_reset 1 ["instructions"] 0 (-1) true plainOpen plainHandle
    plainCalls rfl (fun i name hi _ => by cases i <;> simp at hi; subst hi; decide) scaledOps
  obtain ⟨-,-,-,-,rows,htable,hrows⟩ := h (answered .full) rfl (by decide) (by decide)
    (fun i hi => by obtain rfl : i = 0 := Nat.lt_one_iff.mp hi; decide)
  refine ⟨rows,htable,(hrows _).mpr ⟨0,"instructions",rfl,fun j hj => ?_,by decide⟩⟩
  cases j with
  | zero => cases hj
  | succ j => simp

end Perfidious
