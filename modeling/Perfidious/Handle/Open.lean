import Perfidious.Handle.Basic

/-! Opening a group (`perfidious_handle_try_open_ex`). -/
namespace Perfidious

/-- The native answers while one event is opened; `encoding` is `none` for `PFM_SUCCESS` and is not
asked for the leader. -/
structure EventReplies where
  encoding : Option ℤ
  perfEventOpen : Except Errno ℕ
  ioctlId : Except Errno UInt64

/-- The native answers to one `perfidious_handle_try_open_ex`. -/
structure OpenReplies where
  leader : EventReplies
  member : ℕ → EventReplies
  close : ℕ → Status

def encodingError (name : String) (error : ℤ) : Error where
  exceptionCe := .pmuEventNotFoundException
  code := error
  message := [.text "failed to get libpfm event encoding for ",.text name,.text ": ",
    .pfmStrerror error]

def perfEventOpenError (name : String) (error : Errno) : Error where
  exceptionCe := .ioException
  code := error
  message := [.text "perf_event_open() failed for ",.text name,.text ": ",.strerror error]

/-- The `perf_event_open` and `PERF_EVENT_IOC_ID` calls of one event. A descriptor whose id cannot
be read is closed on the spot. -/
def openEvent (label : String) (name : Option String) (pid cpu groupFd : ℤ) (disabled : Bool)
    (r : EventReplies) : Except Error Metric × List HandleCall :=
  let opening := HandleCall.perfEventOpen pid cpu groupFd disabled
  match r.perfEventOpen with
  | .error errno => (.error (perfEventOpenError label errno),[opening])
  | .ok fd =>
    match r.ioctlId with
    | .error errno => (.error (ioctlError (nonzeroErrno errno)),[opening,.ioctlId fd,.close fd])
    | .ok id => (.ok ⟨fd,id,name⟩,[opening,.ioctlId fd])

/-- The loop body over the event names. -/
def openMember (name : String) (pid cpu groupFd : ℤ) (r : EventReplies) :
    Except Error Metric × List HandleCall :=
  match r.encoding with
  | some error => (.error (encodingError name error),[.encode name])
  | none =>
    let (metric,calls) := openEvent name (some name) pid cpu groupFd false r
    match metric with
    | .error e => (.error e,.encode name::calls)
    | .ok metric => (.ok metric,.encode name::calls ++ [.takeName name])

/-- The loop over the event names: the members opened so far, the error that ended the loop early,
and the calls made. -/
def openMembers (pid cpu groupFd : ℤ) (r : ℕ → EventReplies) :
    List String → ℕ → List Metric × Option Error × List HandleCall
  | [],_ => ([],none,[])
  | name::names,i =>
    match openMember name pid cpu groupFd (r i) with
    | (.error e,calls) => ([],some e,calls)
    | (.ok metric,calls) =>
      let (metrics,error,more) := openMembers pid cpu groupFd r names (i+1)
      (metric::metrics,error,calls ++ more)

/-- `perfidious_handle_try_open_ex`: the handle, or `NULL` with the error record, and the calls. -/
def tryOpenEx (names : List String) (pid cpu : ℤ) (persist : Bool) (r : OpenReplies) :
    Except Error Handle × List HandleCall :=
  match openEvent "perf::PERF_COUNT_SW_DUMMY" none pid cpu (-1) true r.leader with
  | (.error e,calls) => (.error e,calls ++ (tryClose r.close []).calls)
  | (.ok leader,calls) =>
    match openMembers pid cpu leader.fd r.member names 0 with
    | (members,some e,more) =>
      (.error e,calls ++ more ++ (tryClose r.close (leader::members)).calls)
    | (members,none,more) => (.ok ⟨leader,members,false,persist,0,0⟩,calls ++ more)

/-- The group behind a handle that was just opened. -/
def Handle.openedGroup (opener : ℕ) (h : Handle) : EventGroup :=
  .opened opener (h.metrics.map Metric.id)

/-- The answers with which `m` was opened. -/
structure EventReplies.Delivers (r : EventReplies) (m : Metric) : Prop where
  perfEventOpen : r.perfEventOpen = .ok m.fd
  ioctlId : r.ioctlId = .ok m.id

theorem openEvent_ok {label : String} {name : Option String} {pid cpu groupFd : ℤ} {disabled : Bool}
    {r : EventReplies} {m : Metric} {calls : List HandleCall}
    (h : openEvent label name pid cpu groupFd disabled r = (.ok m,calls)) :
    m.name = name ∧ r.Delivers m ∧
      calls = [.perfEventOpen pid cpu groupFd disabled,.ioctlId m.fd] := by
  unfold openEvent at h
  dsimp only at h
  split at h
  · cases h
  next fd hopen =>
    split at h
    · cases h
    next id hid =>
      cases h
      exact ⟨rfl,⟨hopen,hid⟩,rfl⟩

/-- The calls that open `m` as a member of the group `groupFd`. -/
def memberCalls (pid cpu groupFd : ℤ) (name : String) (m : Metric) : List HandleCall :=
  [.encode name,.perfEventOpen pid cpu groupFd false,.ioctlId m.fd,.takeName name]

theorem openMember_ok {name : String} {pid cpu groupFd : ℤ} {r : EventReplies} {m : Metric}
    {calls : List HandleCall} (h : openMember name pid cpu groupFd r = (.ok m,calls)) :
    m.name = some name ∧ r.encoding = none ∧ r.Delivers m ∧
      calls = memberCalls pid cpu groupFd name m := by
  unfold openMember at h
  split at h
  · cases h
  next henc =>
    generalize hevent : openEvent name (some name) pid cpu groupFd false r = x at h
    obtain ⟨metric,calls'⟩ := x
    cases metric with
    | error e => cases h
    | ok m' =>
      cases h
      obtain ⟨hname,hdelivers,rfl⟩ := openEvent_ok hevent
      exact ⟨hname,henc,hdelivers,rfl⟩

/-- `ms` are the members opened for `names`, the `k`-th with the answers `r k`. -/
def Delivered (names : List String) (r : ℕ → EventReplies) (ms : List Metric) : Prop :=
  ms.map Metric.name = names.map some ∧
    ∀ k m, ms[k]? = some m → (r k).encoding = none ∧ (r k).Delivers m

/-- A completed loop has opened one event for each name, in order. -/
theorem openMembers_ok {pid cpu groupFd : ℤ} {r : ℕ → EventReplies} {names : List String} {i : ℕ}
    {ms : List Metric} {calls : List HandleCall}
    (h : openMembers pid cpu groupFd r names i = (ms,none,calls)) :
    Delivered names (fun k => r (i+k)) ms ∧
      calls = (List.zipWith (memberCalls pid cpu groupFd) names ms).flatten := by
  induction names generalizing i ms calls with
  | nil =>
    cases h
    exact ⟨⟨rfl,nofun⟩,rfl⟩
  | cons name names ih =>
    unfold openMembers at h
    generalize hmember : openMember name pid cpu groupFd (r i) = x at h
    obtain ⟨metric,calls'⟩ := x
    cases metric with
    | error e => cases h
    | ok m =>
      generalize hrest : openMembers pid cpu groupFd r names (i+1) = rest at h
      obtain ⟨ms',error,more⟩ := rest
      cases h
      obtain ⟨⟨hnames,hdelivered⟩,rfl⟩ := ih hrest
      obtain ⟨hname,hencoding,hdelivers,rfl⟩ := openMember_ok hmember
      refine ⟨⟨by simp [hname,hnames],?_⟩,rfl⟩
      intro k m' hm'
      cases k with
      | zero =>
        cases hm'
        exact ⟨hencoding,hdelivers⟩
      | succ k =>
        have : (r (i+1+k)).encoding = none ∧ (r (i+1+k)).Delivers m' := hdelivered k m' hm'
        rwa [show i+1+k = i+(k+1) by omega] at this

/-- What `perfidious_handle_try_open_ex` returns: a disabled handle with zero baselines and one
named member for each event name. -/
theorem tryOpenEx_ok {names : List String} {pid cpu : ℤ} {persist : Bool} {r : OpenReplies}
    {h : Handle} {calls : List HandleCall} (hopen : tryOpenEx names pid cpu persist r = (.ok h,calls)) :
    (h.enabled = false ∧ h.persist = persist ∧ h.timeEnabledAtReset = 0 ∧ h.timeRunningAtReset = 0) ∧
    h.members.map Metric.name = names.map some ∧
    ∀ i < names.length, (r.member i).encoding = none := by
  unfold tryOpenEx at hopen
  split at hopen
  · cases hopen
  split at hopen
  · cases hopen
  next ms more hms =>
    cases hopen
    obtain ⟨⟨hnames,hdelivered⟩,-⟩ := openMembers_ok hms
    refine ⟨⟨rfl,rfl,rfl,rfl⟩,hnames,?_⟩
    intro i hi
    have hlen := congrArg List.length hnames
    rw [List.length_map, List.length_map] at hlen
    have hencoding := (hdelivered i _ (List.getElem?_eq_getElem (hlen ▸ hi))).1
    simpa using hencoding

end Perfidious
