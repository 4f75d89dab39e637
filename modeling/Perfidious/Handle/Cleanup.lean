import Mathlib.Data.Multiset.AddSub
import Perfidious.Handle.Reset

/-! Opening and closing a group: what `perfidious_handle_try_open_ex` opens it either hands over or
closes again, and `perfidious_handle_try_close` closes everything whatever fails. -/
namespace Perfidious

/-- The exceptions of the calls that open one event, in the order of the calls. -/
def eventErrors (label : String) (r : EventReplies) : List (Option Error) :=
  [match r.perfEventOpen with
    | .error errno => some (perfEventOpenError label errno)
    | .ok _ => none,
  match r.ioctlId with
    | .error errno => some (ioctlError (nonzeroErrno errno))
    | .ok _ => none]

def memberErrors (name : String) (r : EventReplies) : List (Option Error) :=
  r.encoding.map (encodingError name) :: eventErrors name r

def membersErrors (r : ℕ → EventReplies) : List String → ℕ → List (Option Error)
  | [],_ => []
  | name::names,i => memberErrors name (r i) ++ membersErrors r names (i+1)

/-- The exceptions of all `3n+2` calls that open a group of `n` events. -/
def openErrors (names : List String) (r : OpenReplies) : List (Option Error) :=
  eventErrors "perf::PERF_COUNT_SW_DUMMY" r.leader ++ membersErrors r.member names 0

/-- The exception of the first call that fails. -/
def firstFailure (errors : List (Option Error)) : Option Error := errors.findSome? id

theorem firstFailure_append (errors more : List (Option Error)) :
    firstFailure (errors++more) = (firstFailure errors).or (firstFailure more) :=
  List.findSome?_append

/-- The leader and then the members. -/
def OpenReplies.event (r : OpenReplies) : ℕ → EventReplies
  | 0 => r.leader
  | i+1 => r.member i

/-- The descriptors with which the kernel answered the `perf_event_open` calls among `calls`. -/
def obtained : List HandleCall → (ℕ → EventReplies) → List ℕ
  | [],_ => []
  | .perfEventOpen _ _ _ _::calls,events =>
    (events 0).perfEventOpen.toOption.toList ++ obtained calls fun k => events (k+1)
  | .encode _::calls,events => obtained calls events
  | .ioctlId _::calls,events => obtained calls events
  | .close _::calls,events => obtained calls events
  | .takeName _::calls,events => obtained calls events
  | .releaseName _::calls,events => obtained calls events

/-- The number of `perf_event_open` calls. -/
def opens : List HandleCall → ℕ
  | [] => 0
  | .perfEventOpen _ _ _ _::calls => opens calls + 1
  | .encode _::calls => opens calls
  | .ioctlId _::calls => opens calls
  | .close _::calls => opens calls
  | .takeName _::calls => opens calls
  | .releaseName _::calls => opens calls

theorem obtained_append (calls more : List HandleCall) (events : ℕ → EventReplies) :
    obtained (calls++more) events =
      obtained calls events ++ obtained more fun k => events (k + opens calls) := by
  induction calls generalizing events with
  | nil => rfl
  | cons call calls ih =>
    cases call with
    | perfEventOpen pid cpu groupFd disabled =>
      simp only [List.cons_append, obtained, opens, ih, List.append_assoc, Nat.add_assoc]
    | encode name => exact ih events
    | ioctlId fd => exact ih events
    | close fd => exact ih events
    | takeName name => exact ih events
    | releaseName name => exact ih events

/-- The descriptors that are open after `calls`, with repetitions, when those in `fds` were open
before them. -/
def descriptors : List HandleCall → (ℕ → EventReplies) → Multiset ℕ → Multiset ℕ
  | [],_,fds => fds
  | .perfEventOpen _ _ _ _::calls,events,fds =>
    descriptors calls (fun k => events (k+1)) (↑(events 0).perfEventOpen.toOption.toList + fds)
  | .encode _::calls,events,fds => descriptors calls events fds
  | .ioctlId _::calls,events,fds => descriptors calls events fds
  | .close fd::calls,events,fds => descriptors calls events (fds.erase fd)
  | .takeName _::calls,events,fds => descriptors calls events fds
  | .releaseName _::calls,events,fds => descriptors calls events fds

theorem descriptors_append (calls more : List HandleCall) (events : ℕ → EventReplies)
    (fds : Multiset ℕ) :
    descriptors (calls++more) events fds =
      descriptors more (fun k => events (k + opens calls)) (descriptors calls events fds) := by
  induction calls generalizing events fds with
  | nil => rfl
  | cons call calls ih =>
    cases call with
    | perfEventOpen pid cpu groupFd disabled =>
      simp only [List.cons_append, descriptors, opens, ih, Nat.add_assoc]
    | encode name => exact ih events fds
    | ioctlId fd => exact ih events fds
    | close fd => exact ih events (fds.erase fd)
    | takeName name => exact ih events fds
    | releaseName name => exact ih events fds

/-- Of what `calls` obtained, the descriptors in `held` and the names in `names` are left: every other
descriptor has been closed once and every other name released, and no older descriptor is touched. -/
structure Account (calls : List HandleCall) (events : ℕ → EventReplies) (held : List ℕ)
    (names : List String) : Prop where
  closed : ∀ fd, calls.count (.close fd) + held.count fd = (obtained calls events).count fd
  table : ∀ fds, descriptors calls events fds = ↑held + fds
  released : ∀ name, calls.count (.releaseName name) + names.count name =
    calls.count (.takeName name)

theorem Account.append {calls more : List HandleCall} {events : ℕ → EventReplies}
    {held held' : List ℕ} {names names' : List String} (h : Account calls events held names)
    (h' : Account more (fun k => events (k + opens calls)) held' names') :
    Account (calls++more) events (held++held') (names++names') := by
  constructor
  · intro fd
    have := h.closed fd
    have := h'.closed fd
    simp only [obtained_append, List.count_append]
    omega
  · intro fds
    rw [descriptors_append, h.table, h'.table, ← Multiset.coe_add,
      Multiset.add_comm (held : Multiset ℕ) held', Multiset.add_assoc]
  · intro name
    have := h.released name
    have := h'.released name
    simp only [List.count_append]
    omega

/-- A part of an opening: its calls stop at the first failure, whose exception is `error`, and of what
they obtained the descriptors in `held` and the names in `names` are left. -/
structure Opens (errors : List (Option Error)) (events : ℕ → EventReplies) (error : Option Error)
    (calls : List HandleCall) (held : List ℕ) (names : List String) : Prop where
  failure : error = firstFailure errors
  account : Account calls events held names

section
variable {errors more : List (Option Error)} {events : ℕ → EventReplies} {error : Option Error}
  {e : Error} {calls calls' : List HandleCall} {held held' : List ℕ} {names names' : List String}

theorem Opens.append (h : Opens errors events none calls held names)
    (h' : Opens more (fun k => events (k + opens calls)) error calls' held' names') :
    Opens (errors++more) events error (calls++calls') (held++held') (names++names') := by
  constructor
  · rw [firstFailure_append, ← h.failure, h'.failure, Option.none_or]
  · exact h.account.append h'.account

theorem Opens.stop (h : Opens errors events (some e) calls held names) (more : List (Option Error)) :
    Opens (errors++more) events (some e) calls held names := by
  refine ⟨?_,h.account⟩
  rw [firstFailure_append, ← h.failure, Option.some_or]

end

/-- What an `Except` says about the failure. -/
def failureOf {α : Type} : Except Error α → Option Error
  | .error e => some e
  | .ok _ => none

/-- The metrics that a fallible step delivers. -/
def deliveredMetrics : Except Error Metric → List Metric
  | .error _ => []
  | .ok m => [m]

theorem openEvent_opens {label : String} {name : Option String} {pid cpu groupFd : ℤ}
    {disabled : Bool} {events : ℕ → EventReplies} {result : Except Error Metric}
    {calls : List HandleCall}
    (h : openEvent label name pid cpu groupFd disabled (events 0) = (result,calls)) :
    Opens (eventErrors label (events 0)) events (failureOf result) calls
      ((deliveredMetrics result).map Metric.fd) [] := by
  unfold openEvent at h
  cases hopen : (events 0).perfEventOpen with
  | error errno =>
    simp only [hopen] at h
    cases h
    refine ⟨?_,?_,?_,?_⟩
    · simp [failureOf,firstFailure,eventErrors,hopen]
    · intro fd
      simp [obtained,hopen,deliveredMetrics,Except.toOption]
    · intro fds
      simp [descriptors,hopen,deliveredMetrics,Except.toOption]
    · intro name
      simp
  | ok fd =>
    cases hid : (events 0).ioctlId with
    | error errno =>
      simp only [hopen, hid] at h
      cases h
      refine ⟨?_,?_,?_,?_⟩
      · simp [failureOf,firstFailure,eventErrors,hopen,hid]
      · intro fd'
        simp [obtained,hopen,deliveredMetrics,Except.toOption,List.count_cons]
      · intro fds
        simp [descriptors,hopen,deliveredMetrics,Except.toOption]
      · intro name
        simp
    | ok id =>
      simp only [hopen, hid] at h
      cases h
      refine ⟨?_,?_,?_,?_⟩
      · simp [failureOf,firstFailure,eventErrors,hopen,hid]
      · intro fd'
        simp [obtained,hopen,deliveredMetrics,Except.toOption]
      · intro fds
        simp [descriptors,hopen,deliveredMetrics,Except.toOption]
      · intro name
        simp

theorem opens_openEvent {label : String} {name : Option String} {pid cpu groupFd : ℤ}
    {disabled : Bool} {r : EventReplies} {result : Except Error Metric} {calls : List HandleCall}
    (h : openEvent label name pid cpu groupFd disabled r = (result,calls)) : opens calls = 1 := by
  unfold openEvent at h
  dsimp only at h
  split at h
  · cases h
    rfl
  split at h <;> cases h <;> rfl

theorem encode_opens (name : String) (events : ℕ → EventReplies) :
    Opens [(events 0).encoding.map (encodingError name)] events
      ((events 0).encoding.map (encodingError name)) [.encode name] [] [] := by
  refine ⟨?_,?_,?_,?_⟩
  · cases (events 0).encoding <;> rfl
  · intro fd
    simp [obtained]
  · intro fds
    simp [descriptors]
  · intro name
    simp

theorem takeName_opens (name : String) (events : ℕ → EventReplies) :
    Opens [] events none [.takeName name] [] [name] := by
  refine ⟨rfl,?_,?_,?_⟩
  · intro fd
    simp [obtained]
  · intro fds
    simp [descriptors]
  · intro other
    simp [List.count_cons]

/-- One pass through the loop over the names: the name is kept exactly with the descriptor. -/
theorem openMember_opens {name : String} {pid cpu groupFd : ℤ} {events : ℕ → EventReplies}
    {result : Except Error Metric} {calls : List HandleCall}
    (h : openMember name pid cpu groupFd (events 0) = (result,calls)) :
    Opens (memberErrors name (events 0)) events (failureOf result) calls
      ((deliveredMetrics result).map Metric.fd) ((deliveredMetrics result).filterMap Metric.name) := by
  have hencode := encode_opens name events
  unfold openMember at h
  cases henc : (events 0).encoding with
  | some error =>
    simp only [henc] at h
    cases h
    rw [henc] at hencode
    have := hencode.stop (eventErrors name (events 0))
    rwa [← henc] at this
  | none =>
    simp only [henc] at h
    rw [henc] at hencode
    generalize hevent : openEvent name (some name) pid cpu groupFd false (events 0) = x at h
    obtain ⟨metric,calls'⟩ := x
    have hopens : Opens (memberErrors name (events 0)) events (failureOf metric)
        (.encode name::calls') ((deliveredMetrics metric).map Metric.fd) [] := by
      rw [memberErrors, henc]
      exact hencode.append (openEvent_opens hevent : Opens _ events _ _ _ _)
    cases metric with
    | error e =>
      cases h
      exact hopens
    | ok m =>
      cases h
      simpa [failureOf,deliveredMetrics,(openEvent_ok hevent).1] using hopens.append (takeName_opens name _)

@[simp] theorem opens_append (calls more : List HandleCall) :
    opens (calls++more) = opens calls + opens more := by
  induction calls with
  | nil => exact (Nat.zero_add (opens more)).symm
  | cons call calls ih =>
    cases call with
    | perfEventOpen pid cpu groupFd disabled =>
      simp only [List.cons_append, opens, ih]
      omega
    | encode name => exact ih
    | ioctlId fd => exact ih
    | close fd => exact ih
    | takeName name => exact ih
    | releaseName name => exact ih

theorem opens_openMember {name : String} {pid cpu groupFd : ℤ} {r : EventReplies} {m : Metric}
    {calls : List HandleCall} (h : openMember name pid cpu groupFd r = (.ok m,calls)) :
    opens calls = 1 := by
  unfold openMember at h
  split at h
  · cases h
  generalize hevent : openEvent name (some name) pid cpu groupFd false r = x at h
  obtain ⟨metric,calls'⟩ := x
  cases metric with
  | error e => cases h
  | ok m =>
    cases h
    have := opens_openEvent hevent
    rwa [opens_append]

/-- The loop over the names: by induction on the names, the `k`-th of which is opened with the answers
`r (i+k)`. -/
theorem openMembers_opens {pid cpu groupFd : ℤ} {r : ℕ → EventReplies} {names : List String} {i : ℕ}
    {ms : List Metric} {error : Option Error} {calls : List HandleCall}
    (h : openMembers pid cpu groupFd r names i = (ms,error,calls)) :
    Opens (membersErrors r names i) (fun k => r (i+k)) error calls (ms.map Metric.fd)
      (ms.filterMap Metric.name) := by
  induction names generalizing i ms error calls with
  | nil =>
    cases h
    refine ⟨rfl,?_,?_,?_⟩
    · intro fd
      rfl
    · intro fds
      exact (Multiset.zero_add fds).symm
    · intro name
      rfl
  | cons name names ih =>
    unfold openMembers at h
    generalize hmember : openMember name pid cpu groupFd (r i) = x at h
    obtain ⟨metric,calls'⟩ := x
    have hopens : Opens (memberErrors name (r i)) (fun k => r (i+k)) (failureOf metric) calls'
      ((deliveredMetrics metric).map Metric.fd) ((deliveredMetrics metric).filterMap Metric.name) :=
      @openMember_opens name pid cpu groupFd (fun k => r (i+k)) metric calls' hmember
    cases metric with
    | error e =>
      cases h
      exact hopens.stop (membersErrors r names (i+1))
    | ok m =>
      generalize hrest : openMembers pid cpu groupFd r names (i+1) = rest at h
      obtain ⟨ms',error',more⟩ := rest
      cases h
      have hmore := ih hrest
      have hshift : (fun k => r (i+1+k)) = fun k => r (i+(k+opens calls')) := by
        funext k
        rw [opens_openMember hmember, Nat.add_assoc, Nat.add_comm 1]
      rw [hshift] at hmore
      simpa [membersErrors,deliveredMetrics,(openMember_ok hmember).1] using hopens.append hmore

/-- What `perfidious_handle_try_close` does with one metric. -/
def closeCalls (m : Metric) : List HandleCall := .close m.fd :: m.name.toList.map .releaseName

theorem closeMetric_eq (r : ℕ → Status) (c : Closing) (m : Metric × ℕ) :
    closeMetric r c m =
      ⟨firstError [c.errorNumber,statusCode (r m.2)],c.calls ++ closeCalls m.1⟩ := by
  unfold closeMetric
  cases r m.2 with
  | none => simp [statusCode,closeCalls,firstError]
  | some errno => simp [statusCode,closeCalls,firstError,nonzeroErrno_ne_zero]

theorem foldl_closeMetric (r : ℕ → Status) (c : Closing) (metrics : List (Metric × ℕ)) :
    metrics.foldl (closeMetric r) c =
      ⟨firstError (c.errorNumber :: metrics.map fun m => statusCode (r m.2)),
        c.calls ++ metrics.flatMap fun m => closeCalls m.1⟩ := by
  induction metrics generalizing c with
  | nil => simp
  | cons m metrics ih =>
    rw [List.foldl_cons, ih, closeMetric_eq, List.map_cons, List.flatMap_cons,
      firstError_firstError, List.append_assoc]
    rfl

/-- Every metric is closed, from the last one down to the leader, whatever the calls return. -/
theorem tryClose_eq (r : ℕ → Status) (metrics : List Metric) :
    tryClose r metrics =
      ⟨firstError ((List.range metrics.length).reverse.map fun i => statusCode (r i)),
        metrics.reverse.flatMap closeCalls⟩ := by
  have hcodes : metrics.zipIdx.reverse.map (fun m => statusCode (r m.2)) =
      (List.range metrics.length).reverse.map fun i => statusCode (r i) := by
    rw [List.range_eq_range', ← List.zipIdx_map_snd 0 metrics, ← List.map_reverse, List.map_map]
    rfl
  have hcalls : metrics.zipIdx.reverse.flatMap (fun m => closeCalls m.1) =
      metrics.reverse.flatMap closeCalls := by
    nth_rewrite 2 [← List.zipIdx_map_fst 0 metrics]
    rw [← List.map_reverse, List.flatMap_map]
  rw [tryClose, foldl_closeMetric, firstError_cons_zero, hcodes, hcalls, List.nil_append]

section
variable (ms : List Metric) (events : ℕ → EventReplies)

theorem obtained_flatMap_closeCalls : obtained (ms.flatMap closeCalls) events = [] := by
  induction ms with
  | nil => rfl
  | cons m ms ih =>
    rw [List.flatMap_cons, closeCalls]
    cases m.name with
    | none => exact ih
    | some name => exact ih

/-- Closing the metrics closes their descriptors in the table and no others. -/
theorem descriptors_flatMap_closeCalls (fds : Multiset ℕ) :
    descriptors (ms.flatMap closeCalls) events (↑(ms.map Metric.fd) + fds) = fds := by
  induction ms with
  | nil => exact Multiset.zero_add fds
  | cons m ms ih =>
    have herase : (↑((m::ms).map Metric.fd) + fds : Multiset ℕ).erase m.fd =
        ↑(ms.map Metric.fd) + fds := by
      rw [List.map_cons, ← Multiset.cons_coe, Multiset.cons_add, Multiset.erase_cons_head]
    rw [List.flatMap_cons, closeCalls]
    cases m.name with
    | none =>
      rw [← herase] at ih
      exact ih
    | some name =>
      rw [← herase] at ih
      exact ih

theorem count_close_closeCalls (m : Metric) (fd : ℕ) :
    (closeCalls m).count (.close fd) = [m.fd].count fd := by
  unfold closeCalls
  by_cases h : m.fd = fd
  · cases m.name <;> simp [h]
  · cases m.name <;> simp [h]

theorem count_close_flatMap_closeCalls (fd : ℕ) :
    (ms.flatMap closeCalls).count (.close fd) = (ms.map Metric.fd).count fd := by
  induction ms with
  | nil => rfl
  | cons m ms ih =>
    rw [List.flatMap_cons, List.count_append, ih, count_close_closeCalls, ← List.count_append]
    rfl

theorem count_releaseName_flatMap_closeCalls (name : String) :
    (ms.flatMap closeCalls).count (.releaseName name) = (ms.filterMap Metric.name).count name := by
  induction ms with
  | nil => rfl
  | cons m ms ih =>
    rw [List.flatMap_cons, List.count_append, ih, closeCalls]
    cases hname : m.name with
    | none => simp [hname]
    | some other => simp [hname,List.count_cons,Nat.add_comm]

theorem count_takeName_flatMap_closeCalls (name : String) :
    (ms.flatMap closeCalls).count (.takeName name) = 0 := by
  induction ms with
  | nil => rfl
  | cons m ms ih =>
    rw [List.flatMap_cons, List.count_append, ih, closeCalls]
    cases m.name <;> simp

end

/-- Closing what an opening left leaves nothing. -/
theorem Account.close {calls : List HandleCall} {events : ℕ → EventReplies} {ms : List Metric}
    (h : Account calls events (ms.map Metric.fd) (ms.filterMap Metric.name)) (r : ℕ → Status) :
    Account (calls ++ (tryClose r ms).calls) events [] [] := by
  rw [tryClose_eq]
  constructor
  · intro fd
    have := h.closed fd
    rw [List.count_append, count_close_flatMap_closeCalls, obtained_append,
      obtained_flatMap_closeCalls, List.map_reverse, List.count_reverse, List.append_nil]
    exact this
  · intro fds
    rw [descriptors_append, h.table, ← Multiset.coe_reverse, ← List.map_reverse,
      descriptors_flatMap_closeCalls]
    exact (Multiset.zero_add fds).symm
  · intro name
    have := h.released name
    rw [List.count_append, List.count_append, count_releaseName_flatMap_closeCalls,
      count_takeName_flatMap_closeCalls, List.filterMap_reverse, List.count_reverse]
    exact this

/-- The handle that a completed opening hands over, and its calls: the leader, and every name as a
member of the leader's group. -/
structure OpenedHandle (names : List String) (pid cpu : ℤ) (persist : Bool) (r : OpenReplies)
    (h : Handle) (calls : List HandleCall) : Prop where
  disabled : h.enabled = false
  persist_eq : h.persist = persist
  baselines : h.timeEnabledAtReset = 0 ∧ h.timeRunningAtReset = 0
  length : h.metrics.length = names.length + 1
  leader : h.leader.name = none ∧ r.leader.Delivers h.leader
  members : Delivered names r.member h.members
  calls_eq : calls = .perfEventOpen pid cpu (-1) true :: .ioctlId h.leader.fd ::
    (List.zipWith (memberCalls pid cpu h.leader.fd) names h.members).flatten

/-- Either the whole group or nothing. -/
def AllOrNothing (names : List String) (pid cpu : ℤ) (persist : Bool) (r : OpenReplies) :
    Except Error Handle × List HandleCall → Prop
  | (.ok h,calls) => OpenedHandle names pid cpu persist r h calls
  | (.error _,calls) => Account calls r.event [] []

/-- What an opening left when it stopped at the error `e`, after everything has been closed. -/
theorem Opens.unwind {errors : List (Option Error)} {events : ℕ → EventReplies} {e : Error}
    {calls : List HandleCall} {ms : List Metric}
    (h : Opens errors events (some e) calls (ms.map Metric.fd) (ms.filterMap Metric.name))
    (r : ℕ → Status) :
    Opens errors events (some e) (calls ++ (tryClose r ms).calls) [] [] :=
  ⟨h.failure,h.account.close r⟩

theorem tryOpenEx_opens {names : List String} {pid cpu : ℤ} {persist : Bool} {r : OpenReplies}
    {result : Except Error Handle} {calls : List HandleCall}
    (h : tryOpenEx names pid cpu persist r = (result,calls)) :
    failureOf result = firstFailure (openErrors names r) ∧
      AllOrNothing names pid cpu persist r (result,calls) := by
  unfold tryOpenEx at h
  generalize hleader :
    openEvent "perf::PERF_COUNT_SW_DUMMY" none pid cpu (-1) true r.leader = x at h
  obtain ⟨leader,calls'⟩ := x
  have hopens : Opens (eventErrors "perf::PERF_COUNT_SW_DUMMY" r.leader) r.event (failureOf leader)
      calls' ((deliveredMetrics leader).map Metric.fd) [] := by
    have := @openEvent_opens "perf::PERF_COUNT_SW_DUMMY" none pid cpu (-1) true r.event leader calls'
    exact this hleader
  cases leader with
  | error e =>
    cases h
    have hunwound : Opens (openErrors names r) r.event (some e)
        (calls' ++ (tryClose r.close []).calls) [] [] := by
      apply Opens.unwind
      exact hopens.stop (membersErrors r.member names 0)
    exact ⟨hunwound.failure,hunwound.account⟩
  | ok leader =>
    dsimp only at h
    generalize hmembers : openMembers pid cpu leader.fd r.member names 0 = y at h
    obtain ⟨members,error,more⟩ := y
    obtain ⟨hname,hdelivers,hcalls⟩ := openEvent_ok hleader
    -- the calls of the leader contain one `perf_event_open`, so the answers go on with the members'
    have hmore : Opens (membersErrors r.member names 0) (fun k => r.event (k + opens calls')) error more
        (members.map Metric.fd) (members.filterMap Metric.name) := by
      rw [opens_openEvent hleader]
      have := openMembers_opens hmembers
      simp only [Nat.zero_add] at this
      exact this
    have hall := hopens.append hmore
    cases error with
    | some e =>
      cases h
      have hunwound : Opens (openErrors names r) r.event (some e)
          (calls' ++ more ++ (tryClose r.close (leader::members)).calls) [] [] := by
        apply Opens.unwind
        rw [List.filterMap_cons_none hname]
        exact hall
      exact ⟨hunwound.failure,hunwound.account⟩
    | none =>
      cases h
      refine ⟨hall.failure,?_⟩
      obtain ⟨hdelivered,rfl⟩ := openMembers_ok hmembers
      constructor
      · rfl
      · rfl
      · exact ⟨rfl,rfl⟩
      · have := congrArg List.length hdelivered.1
        simpa [Handle.metrics] using this
      · exact ⟨hname,hdelivers⟩
      · simpa using hdelivered
      · rw [hcalls]
        rfl

/-- Opening a group is all or nothing. The error record holds the exception of the first of the `3n+2`
calls that fails; without one the whole group is handed over, and otherwise the opening leaves no
descriptor and no name behind. Closing attempts every descriptor and reports the first failure in closing
order. -/
theorem open_all_or_nothing (names : List String) (pid cpu : ℤ) (persist : Bool) (r : OpenReplies) :
    failureOf (tryOpenEx names pid cpu persist r).1 = firstFailure (openErrors names r) ∧
    AllOrNothing names pid cpu persist r (tryOpenEx names pid cpu persist r) ∧
    ∀ (close : ℕ → Status) (metrics : List Metric),
      (tryClose close metrics).calls = metrics.reverse.flatMap closeCalls ∧
      (tryClose close metrics).errorNumber =
        firstError ((List.range metrics.length).reverse.map fun i => statusCode (close i)) := by
  obtain ⟨hfailure,houtcome⟩ := @tryOpenEx_opens names pid cpu persist r _ _ rfl
  refine ⟨hfailure,houtcome,?_⟩
  intro close metrics
  rw [tryClose_eq]
  exact ⟨rfl,rfl⟩

end Perfidious
