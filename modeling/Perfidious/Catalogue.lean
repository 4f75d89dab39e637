import Mathlib.Data.List.Range
import Perfidious.Error
import Perfidious.Word
import Perfidious.Library.Traverse

/-! The metadata lookups and listings of Linux (`pmu_info.c`, `pmu_event_info.c`, `functions.c`). libpfm
is a parameter: what it answers does not change once it is initialised. -/
namespace Perfidious
open Library

/-- The bytes of a C string. -/
abbrev Bytes := List UInt8

def PFM_SUCCESS : ℤ := 0
def PFM_ERR_INVAL : ℤ := -2
def PFM_ERR_NOTFOUND : ℤ := -4
def PFM_PMU_NONE : ℤ := 0

/-- The fields of `pfm_pmu_info_t` that this extension reads. -/
structure PfmPmuInfo where
  name : Bytes
  desc : Bytes
  pmu : ℤ
  type : ℤ
  nevents : ℤ
  firstEvent : ℤ
  isPresent : Bool
  deriving DecidableEq, Repr

/-- The fields of `pfm_event_info_t` that this extension reads. -/
structure PfmEventInfo where
  name : Bytes
  desc : Bytes
  equiv : Option Bytes
  pmu : ℤ
  idx : ℤ
  deriving DecidableEq, Repr

/-- libpfm: `PFM_PMU_MAX`, and the lookups with the error value they return. -/
structure Libpfm where
  pmuMax : ℕ
  getPmuInfo : ℤ → ℤ × PfmPmuInfo
  getEventInfo : ℤ → ℤ × PfmEventInfo
  getEventNext : ℤ → ℤ

/-- `Perfidious\PmuInfo`. -/
structure PmuInfo where
  name : Bytes
  desc : Bytes
  pmu : ℤ
  type : ℤ
  nevents : ℤ
  isPresent : Bool
  deriving DecidableEq, Repr

/-- `Perfidious\PmuEventInfo`. -/
structure PmuEventInfo where
  name : Bytes
  desc : Bytes
  equiv : Option Bytes
  pmu : ℤ
  idx : ℤ
  isPresent : Bool
  deriving DecidableEq, Repr

/-- The class entries of the exceptions of a lookup. -/
inductive LookupClass
  | pmuNotFoundException
  | pmuEventNotFoundException
  deriving DecidableEq, Repr

structure LookupError where
  exceptionCe : LookupClass
  code : ℤ
  message : List Part
  deriving DecidableEq, Repr

def pmuNotFound (context : String) (pmu error : ℤ) : LookupError := ⟨.pmuNotFoundException,error,
  [.text (context ++ "cannot get pmu info for "),.number pmu,.text ": ",.pfmStrerror error]⟩

def eventNotFound (idx error : ℤ) : LookupError := ⟨.pmuEventNotFoundException,error,
  [.text "libpfm: cannot get event info for ",.number idx,.text ": ",.pfmStrerror error]⟩

def eventOfOtherPmu (idx pmu : ℤ) : LookupError := ⟨.pmuEventNotFoundException,PFM_ERR_NOTFOUND,
  [.text "event ",.number idx,.text " does not belong to pmu ",.number pmu]⟩

/-- `slprintf` into the buffer of 512 bytes with the format `%s::%s`. -/
def qualifiedName (pmu event : Bytes) : Bytes := (pmu ++ [58,58] ++ event).take 511

variable (lib : Libpfm)

/-- `perfidious_pfm_get_pmu_info`. What the caller's buffer holds after an error is never read. -/
def pfmGetPmuInfo (pmu : ℤ) : Except ℤ PfmPmuInfo :=
  if pmu < PFM_PMU_NONE ∨ pmu ≥ lib.pmuMax then .error PFM_ERR_INVAL
  else if (lib.getPmuInfo pmu).1 ≠ PFM_SUCCESS then .error (lib.getPmuInfo pmu).1
  else .ok (lib.getPmuInfo pmu).2

/-- `perfidious_pmu_info_ctor`. -/
def pmuInfoCtor (info : PfmPmuInfo) : PmuInfo :=
  ⟨info.name,info.desc,info.pmu,info.type,info.nevents,info.isPresent⟩

/-- `perfidious_get_pmu_info`, failing with the exception it throws, if it throws one. -/
def getPmuInfo (pmu : ℤ) (silent : Bool) : Except (Option LookupError) PmuInfo :=
  match pfmGetPmuInfo lib pmu with
  | .error error => .error (if silent then none else some (pmuNotFound "" pmu error))
  | .ok info => .ok (pmuInfoCtor info)

/-- `perfidious_pmu_event_info_ctor`. -/
def pmuEventInfoCtor (pmuInfo : PfmPmuInfo) (info : PfmEventInfo) : PmuEventInfo where
  name := qualifiedName pmuInfo.name info.name
  desc := info.desc
  equiv := info.equiv
  pmu := info.pmu
  idx := info.idx
  isPresent := pmuInfo.isPresent

/-- The native lookup of `perfidious_get_pmu_event_info`. -/
def pfmGetEventInfo (idx : ℤ) : Except ℤ PfmEventInfo :=
  if idx < 0 ∨ idx > 2^31-1 then .error PFM_ERR_INVAL
  else if (lib.getEventInfo idx).1 ≠ PFM_SUCCESS then .error (lib.getEventInfo idx).1
  else .ok (lib.getEventInfo idx).2

/-- `perfidious_get_pmu_event_info`. -/
def getPmuEventInfo (pmuInfo : PfmPmuInfo) (idx : ℤ) : Except LookupError PmuEventInfo :=
  match pfmGetEventInfo lib idx with
  | .error error => .error (eventNotFound idx error)
  | .ok info =>
    if info.pmu ≠ pmuInfo.pmu then .error (eventOfOtherPmu idx pmuInfo.pmu)
    else .ok (pmuEventInfoCtor pmuInfo info)

/-! The functions a script calls. They return null when a lookup fails. -/
namespace Functions

/-- `Perfidious\get_pmu_info`. -/
def getPmuInfo (pmu : ℤ) : Except (Option LookupError) PmuInfo := Perfidious.getPmuInfo lib pmu false

/-- `Perfidious\get_pmu_event_info`. -/
def getPmuEventInfo (pmu idx : ℤ) : Except LookupError PmuEventInfo :=
  match pfmGetPmuInfo lib pmu with
  | .error error => .error (pmuNotFound "" pmu error)
  | .ok pmuInfo => Perfidious.getPmuEventInfo lib pmuInfo idx

/-- `Perfidious\list_pmus`, with the loop `pfm_for_all_pmus`. -/
def listPmus : List PmuInfo :=
  (List.range lib.pmuMax).filterMap fun (index : ℕ) => (Perfidious.getPmuInfo lib index true).toOption

/-- `Perfidious\list_pmu_events`; `none` while the loop has not ended within `fuel` rounds. -/
def listPmuEvents (fuel : ℕ) (pmu : ℤ) : Option (Except LookupError (List PmuEventInfo)) :=
  match pfmGetPmuInfo lib pmu with
  | .error error => some (.error (pmuNotFound "libpfm: " pmu error))
  | .ok pmuInfo =>
    gather lib.getEventNext (-1) (Perfidious.getPmuEventInfo lib pmuInfo) fuel pmuInfo.firstEvent []

end Functions

/-- The events of a PMU that libpfm chains together, up to `j`. -/
def EventPath (first : ℤ) (idxs : List ℤ) (j : ℤ) : Prop := Path lib.getEventNext (-1) first idxs j

variable {lib}

theorem pfmGetPmuInfo_ok {pmu : ℤ} {info : PfmPmuInfo} (h : pfmGetPmuInfo lib pmu = .ok info) :
    0 ≤ pmu ∧ pmu < lib.pmuMax ∧ lib.getPmuInfo pmu = (PFM_SUCCESS,info) := by
  unfold pfmGetPmuInfo PFM_PMU_NONE at h
  split at h
  · cases h
  next hrange =>
    split at h
    · cases h
    next hok =>
      cases h
      exact ⟨by omega,by omega,Prod.ext (not_not.mp hok) rfl⟩

theorem pfmGetEventInfo_ok {idx : ℤ} {info : PfmEventInfo} (h : pfmGetEventInfo lib idx = .ok info) :
    0 ≤ idx ∧ idx ≤ 2^31-1 ∧ lib.getEventInfo idx = (PFM_SUCCESS,info) := by
  unfold pfmGetEventInfo at h
  split at h
  · cases h
  next hrange =>
    split at h
    · cases h
    next hok =>
      cases h
      exact ⟨by omega,by omega,Prod.ext (not_not.mp hok) rfl⟩

theorem getPmuEventInfo_ok {pmuInfo : PfmPmuInfo} {idx : ℤ} {event : PmuEventInfo}
    (h : getPmuEventInfo lib pmuInfo idx = .ok event) :
    0 ≤ idx ∧ idx ≤ 2^31-1 ∧ ∃ info, lib.getEventInfo idx = (PFM_SUCCESS,info) ∧ info.pmu = pmuInfo.pmu ∧
      event = pmuEventInfoCtor pmuInfo info := by
  unfold getPmuEventInfo at h
  split at h
  · cases h
  next info hinfo =>
    obtain ⟨hge,hle,hlib⟩ := pfmGetEventInfo_ok hinfo
    split at h
    · cases h
    next hpmu =>
      cases h
      exact ⟨hge,hle,info,hlib,not_not.mp hpmu,rfl⟩

theorem getPmuInfo_eq_ok_iff {pmu : ℤ} {silent : Bool} {x : PmuInfo} :
    getPmuInfo lib pmu silent = .ok x ↔ ∃ info, pfmGetPmuInfo lib pmu = .ok info ∧ pmuInfoCtor info = x := by
  unfold getPmuInfo
  cases pfmGetPmuInfo lib pmu with
  | error error => simp
  | ok info => simp

theorem mem_listPmus {x : PmuInfo} :
    x ∈ Functions.listPmus lib ↔ ∃ pmu, Functions.getPmuInfo lib pmu = .ok x := by
  have hsilent : ∀ pmu, getPmuInfo lib pmu true = .ok x ↔ Functions.getPmuInfo lib pmu = .ok x := by
    intro pmu
    unfold Functions.getPmuInfo
    rw [getPmuInfo_eq_ok_iff, getPmuInfo_eq_ok_iff]
  unfold Functions.listPmus
  rw [List.mem_filterMap]
  constructor
  · rintro ⟨index,-,hx⟩
    cases hinfo : getPmuInfo lib index true with
    | error e => rw [hinfo] at hx; cases hx
    | ok y =>
      rw [hinfo] at hx
      cases hx
      exact ⟨index,(hsilent index).mp hinfo⟩
  · rintro ⟨pmu,hx⟩
    obtain ⟨info,hinfo,-⟩ := getPmuInfo_eq_ok_iff.mp hx
    obtain ⟨hge,hlt,-⟩ := pfmGetPmuInfo_ok hinfo
    obtain ⟨index,rfl⟩ := Int.eq_ofNat_of_zero_le hge
    have hrange : index ∈ List.range lib.pmuMax := List.mem_range.mpr (by omega)
    refine ⟨index,hrange,?_⟩
    rw [(hsilent index).mpr hx]
    rfl


theorem getPmuEventInfo_known {pmu : ℤ} {info : PfmPmuInfo} (h : pfmGetPmuInfo lib pmu = .ok info) :
    Functions.getPmuEventInfo lib pmu = getPmuEventInfo lib info := by
  funext idx
  simp [Functions.getPmuEventInfo,h]

theorem listPmuEvents_known {pmu : ℤ} {info : PfmPmuInfo} (h : pfmGetPmuInfo lib pmu = .ok info)
    (fuel : ℕ) : Functions.listPmuEvents lib fuel pmu =
      gather lib.getEventNext (-1) (Functions.getPmuEventInfo lib pmu) fuel info.firstEvent [] := by
  simp [Functions.listPmuEvents,getPmuEventInfo_known h,h]

/-- The listing of a PMU is what the single lookups along its chain of events come to: all of them in
order, or the first exception that one of them throws. -/
theorem list_pmu_events_agrees (lib : Libpfm) (pmu : ℤ) :
    (∀ error, pfmGetPmuInfo lib pmu = .error error →
      (∀ fuel, Functions.listPmuEvents lib fuel pmu = some (.error (pmuNotFound "libpfm: " pmu error))) ∧
      Functions.getPmuInfo lib pmu = .error (some (pmuNotFound "" pmu error)) ∧
      ∀ idx, Functions.getPmuEventInfo lib pmu idx = .error (pmuNotFound "" pmu error)) ∧
    ∀ info, pfmGetPmuInfo lib pmu = .ok info →
      (∀ events, (∃ fuel, Functions.listPmuEvents lib fuel pmu = some (.ok events)) ↔
        ∃ idxs, EventPath lib info.firstEvent idxs (-1) ∧
          Returns (Functions.getPmuEventInfo lib pmu) idxs events) ∧
      (∀ e, (∃ fuel, Functions.listPmuEvents lib fuel pmu = some (.error e)) ↔
        ∃ idxs idx events, EventPath lib info.firstEvent idxs idx ∧
          Returns (Functions.getPmuEventInfo lib pmu) idxs events ∧ idx ≠ -1 ∧
          Functions.getPmuEventInfo lib pmu idx = .error e) ∧
      ∀ fuel fuel' r r', Functions.listPmuEvents lib fuel pmu = some r →
        Functions.listPmuEvents lib fuel' pmu = some r' → r = r' := by
  constructor
  · intro error h
    refine ⟨fun fuel => ?_,?_,fun idx => ?_⟩
    · simp [Functions.listPmuEvents,h]
    · simp [Functions.getPmuInfo,getPmuInfo,h]
    · simp [Functions.getPmuEventInfo,h]
  · intro info h
    simp only [listPmuEvents_known h]
    refine ⟨fun events => ?_,fun e => gather_eq_error_iff,fun _ _ _ _ => gather_unique⟩
    rw [gather_eq_ok_iff]
    simp [EventPath]

/-- Two PMUs, of which the first has two events and the second a missing one. -/
def plainLibpfm : Libpfm where
  pmuMax := 3
  getPmuInfo pmu :=
    if pmu = 1 then (0,⟨[112],[],1,3,2,4,true⟩)
    else if pmu = 2 then (0,⟨[113],[],2,3,1,7,false⟩)
    else (-1,⟨[],[],0,0,0,0,false⟩)
  getEventInfo idx :=
    if idx = 4 then (0,⟨[97],[],none,1,4⟩)
    else if idx = 6 then (0,⟨[98],[],some [97],1,6⟩)
    else (-4,⟨[],[],none,0,0⟩)
  getEventNext idx := if idx = 4 then 6 else -1

def plainEvent : PmuEventInfo := ⟨[112,58,58,97],[],none,1,4,true⟩
def plainAlias : PmuEventInfo := ⟨[112,58,58,98],[],some [97],1,6,true⟩

theorem list_pmu_events_agrees_two :
    ∃ fuel, Functions.listPmuEvents plainLibpfm fuel 1 = some (.ok [plainEvent,plainAlias]) := by
  have hinfo : pfmGetPmuInfo plainLibpfm 1 = .ok ⟨[112],[],1,3,2,4,true⟩ := rfl
  obtain ⟨hlisted,-,-⟩ := (list_pmu_events_agrees plainLibpfm 1).2 _ hinfo
  exact (hlisted [plainEvent,plainAlias]).mpr ⟨[4,6],
    .cons (by decide) (.cons (by decide) (.nil _)),.cons rfl (.cons rfl .nil)⟩

/-- What is listed can be looked up and what can be looked up is listed, as equal objects, given that
libpfm files PMUs and events under their own numbers. -/
theorem listed_found (lib : Libpfm)
    (hpmu : ∀ pmu info, lib.getPmuInfo pmu = (PFM_SUCCESS,info) → info.pmu = pmu)
    (hevent : ∀ idx info, lib.getEventInfo idx = (PFM_SUCCESS,info) → info.idx = idx) :
    (∀ pmu x, Functions.getPmuInfo lib pmu = .ok x ↔ x ∈ Functions.listPmus lib ∧ x.pmu = pmu) ∧
    (Functions.listPmus lib).Pairwise (fun x y => x.pmu < y.pmu) ∧
    ∀ fuel pmu events, Functions.listPmuEvents lib fuel pmu = some (.ok events) →
      (events.map PmuEventInfo.idx).Nodup ∧
      ∃ x ∈ Functions.listPmus lib, x.pmu = pmu ∧ ∀ event ∈ events,
        Functions.getPmuEventInfo lib pmu event.idx = .ok event ∧ event.pmu = pmu ∧
        event.isPresent = x.isPresent ∧ ∃ name, event.name = qualifiedName x.name name := by
  have hfiled : ∀ pmu x, Functions.getPmuInfo lib pmu = .ok x → x.pmu = pmu := by
    intro pmu x hx
    obtain ⟨info,hinfo,rfl⟩ := getPmuInfo_eq_ok_iff.mp hx
    exact hpmu pmu info (pfmGetPmuInfo_ok hinfo).2.2
  have hsilent : ∀ (index : ℕ) x, (getPmuInfo lib index true).toOption = some x → x.pmu = index := by
    intro index x hx
    cases hinfo : getPmuInfo lib index true with
    | error e => rw [hinfo] at hx; cases hx
    | ok y =>
      rw [hinfo] at hx
      cases hx
      exact hfiled index x (getPmuInfo_eq_ok_iff.mpr (getPmuInfo_eq_ok_iff.mp hinfo))
  refine ⟨fun pmu x => ⟨fun hx => ⟨mem_listPmus.mpr ⟨pmu,hx⟩,hfiled pmu x hx⟩,?_⟩,?_,?_⟩
  · rintro ⟨hx,rfl⟩
    obtain ⟨pmu,hpmu⟩ := mem_listPmus.mp hx
    exact hfiled pmu x hpmu ▸ hpmu
  · unfold Functions.listPmus
    rw [List.pairwise_filterMap]
    refine List.pairwise_lt_range.imp fun {i j} hij x hx y hy => ?_
    rw [hsilent i x hx, hsilent j y hy]
    exact Int.ofNat_lt.mpr hij
  · intro fuel pmu events hlist
    cases hinfo : pfmGetPmuInfo lib pmu with
    | error error =>
      rw [Functions.listPmuEvents, hinfo] at hlist
      cases hlist
    | ok info =>
      rw [listPmuEvents_known hinfo, getPmuEventInfo_known hinfo] at hlist
      rw [getPmuEventInfo_known hinfo]
      obtain ⟨idxs,_,hpath,hreturns,rfl⟩ := gather_eq_ok_iff.mp ⟨fuel,hlist⟩
      have hidx : ∀ idx event, getPmuEventInfo lib info idx = .ok event → event.idx = idx := by
        intro idx event he
        obtain ⟨-,-,native,hnative,-,rfl⟩ := getPmuEventInfo_ok he
        exact hevent idx native hnative
      refine ⟨(hreturns.map_eq hidx).symm ▸ hpath.nodup,pmuInfoCtor info,
        mem_listPmus.mpr ⟨pmu,getPmuInfo_eq_ok_iff.mpr ⟨info,hinfo,rfl⟩⟩,
        hpmu pmu info (pfmGetPmuInfo_ok hinfo).2.2,fun event he => ?_⟩
      obtain ⟨idx,-,hok⟩ := hreturns.mem he
      rw [hidx idx event hok]
      obtain ⟨-,-,native,-,hsame,rfl⟩ := getPmuEventInfo_ok hok
      exact ⟨hok,hsame.trans (hpmu pmu info (pfmGetPmuInfo_ok hinfo).2.2),rfl,native.name,rfl⟩

theorem plainLibpfm_filed :
    (∀ pmu info, plainLibpfm.getPmuInfo pmu = (PFM_SUCCESS,info) → info.pmu = pmu) ∧
    ∀ idx info, plainLibpfm.getEventInfo idx = (PFM_SUCCESS,info) → info.idx = idx := by
  constructor
  · intro pmu info h
    simp only [plainLibpfm] at h
    split_ifs at h with h1 h2 <;> cases h
    · exact h1.symm
    · exact h2.symm
  · intro idx info h
    simp only [plainLibpfm] at h
    split_ifs at h with h1 h2 <;> cases h
    · exact h1.symm
    · exact h2.symm

theorem listed_found_two :
    Functions.getPmuEventInfo plainLibpfm 1 6 = .ok plainAlias ∧
    ∃ x ∈ Functions.listPmus plainLibpfm, x.pmu = 1 := by
  obtain ⟨-,-,h⟩ := listed_found plainLibpfm plainLibpfm_filed.1 plainLibpfm_filed.2
  obtain ⟨-,x,hx,hpmu,hall⟩ := h 3 1 [plainEvent,plainAlias] rfl
  exact ⟨(hall plainAlias (by simp)).1,x,hx,hpmu⟩

end Perfidious
