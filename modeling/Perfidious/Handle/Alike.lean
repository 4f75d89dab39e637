import Perfidious.Handle.Machine

/-! Two handles that count alike. The same operations, events and native answers keep them alike and
show the same counts, whatever their lifetime totals. -/
namespace Perfidious

namespace Attached

/-- The flags and the counts of two handles agree; times, baselines and past calls may differ. -/
structure Alike (a b : Attached) : Prop where
  handle : a.handle.enabled = b.handle.enabled
  group : a.group.enabled = b.group.enabled
  counts : a.group.counts = b.group.counts

theorem Alike.elapse {a b : Attached} (h : Alike a b) (t : Tick) :
    Alike { a with group := a.group.elapse t } { b with group := b.group.elapse t } := by
  refine ⟨h.handle,by simp [h.group],?_⟩
  unfold EventGroup.elapse
  dsimp only
  rw [h.group, h.counts]
  split
  · rfl
  · exact h.counts

theorem trySetEnabled_alike {a b : Attached} (h : Alike a b) (enabled : Bool) (r : Native Status) :
    Alike (a.trySetEnabled enabled r).1 (b.trySetEnabled enabled r).1 ∧
    (a.trySetEnabled enabled r).2 = (b.trySetEnabled enabled r).2 := by
  have ht := h.elapse r.elapsed
  cases hr : r.answer with
  | none =>
    rw [trySetEnabled_of_none hr, trySetEnabled_of_none hr]
    exact ⟨⟨rfl,rfl,ht.counts⟩,rfl⟩
  | some errno =>
    rw [trySetEnabled_of_some hr, trySetEnabled_of_some hr]
    exact ⟨⟨h.handle,ht.group,ht.counts⟩,rfl⟩

theorem resetBetween_alike {a b : Attached} (h : Alike a b) (read : Native ReadAnswer)
    (reset : Native Status) :
    Alike (a.resetBetween read reset).1 (b.resetBetween read reset).1 ∧
    (a.resetBetween read reset).2 = (b.resetBetween read reset).2 := by
  have hread : Alike ⟨a.handle,a.afterRead read⟩ ⟨b.handle,b.afterRead read⟩ := by
    have ht := h.elapse read.elapsed
    exact ⟨ht.handle,ht.group,ht.counts⟩
  have hreset := hread.elapse reset.elapsed
  by_cases hfull : read.answer = .full
  case neg =>
    obtain ⟨n,-,hunread⟩ := resetBetween_of_unread hfull reset
    rw [hunread, hunread]
    exact ⟨⟨hread.handle,hread.group,hread.counts⟩,rfl⟩
  cases hanswer : reset.answer with
  | none =>
    rw [resetBetween_of_none hfull hanswer, resetBetween_of_none hfull hanswer]
    exact ⟨⟨hreset.handle,hreset.group,rfl⟩,rfl⟩
  | some errno =>
    rw [resetBetween_of_some hfull hanswer, resetBetween_of_some hfull hanswer]
    exact ⟨⟨hreset.handle,hreset.group,hreset.counts⟩,rfl⟩

theorem tryReset_alike {a b : Attached} (h : Alike a b) (r : ResetReplies) :
    Alike (a.tryReset r).1 (b.tryReset r).1 ∧ (a.tryReset r).2 = (b.tryReset r).2 := by
  unfold tryReset
  split
  · exact ⟨h,rfl⟩
  rw [h.handle]
  split
  · obtain ⟨hd,hde⟩ := trySetEnabled_alike h false r.disable
    dsimp only
    rw [hde]
    split
    · exact ⟨hd,rfl⟩
    · obtain ⟨hr,hre⟩ := resetBetween_alike hd r.read r.reset
      obtain ⟨hn,hne⟩ := trySetEnabled_alike hr true r.enable
      exact ⟨hn,by rw [hre, hne]⟩
  · exact resetBetween_alike h r.read r.reset

/-- Two results of reading that are equal up to the times of the group. -/
def SameValues (v v' : Except Error Value) : Prop :=
  v = v' ∨ ∃ reading reading' : Reading, reading.values = reading'.values ∧
    v = reading.toResult.map .result ∧ v' = reading'.toResult.map .result

/-- Handles over the same names that count alike. -/
structure Twins (names : List String) (a b : Attached) : Prop where
  alike : Alike a b
  left : a.Names names
  right : b.Names names

theorem Twins.map {names : List String} {a b c d : Attached} (h : Twins names a b) (hcd : Alike c d)
    (hc : c.fixed = a.fixed) (hd : d.fixed = b.fixed) : Twins names c d :=
  ⟨hcd,names_of_fixed hc h.left,names_of_fixed hd h.right⟩

theorem readsOnce_alike {read : Native ReadAnswer → Attached → Attached × Except Error Value}
    (hread : ReadsOnce read) {a b : Attached} (h : Alike a b) (r : Native ReadAnswer) :
    Alike (read r a).1 (read r b).1 := by
  have ht := h.elapse r.elapsed
  rw [hread, hread]
  exact ⟨ht.handle,ht.group,ht.counts⟩

/-- What twins decode differs at most in the times. -/
theorem Twins.readToArrayWithTimes {names : List String} {a b : Attached} (h : Twins names a b)
    (r : Native ReadAnswer) :
    (∃ e, (a.readToArrayWithTimes r).2 = .error e ∧ (b.readToArrayWithTimes r).2 = .error e) ∨
    ∃ reading reading', reading.values = reading'.values ∧
      (a.readToArrayWithTimes r).2 = .ok reading ∧ (b.readToArrayWithTimes r).2 = .ok reading' := by
  unfold Attached.readToArrayWithTimes
  cases r.answer with
  | failed errno => exact .inl ⟨_,rfl,rfl⟩
  | short stale => exact .inl ⟨_,rfl,rfl⟩
  | full =>
    have ha := decodeRecord_names h.left ((a.group.elapse r.elapsed).issue .read)
      (by simp [EventGroup.issue])
    have hb := decodeRecord_names h.right ((b.group.elapse r.elapsed).issue .read)
      (by simp [EventGroup.issue])
    have hcounts : ((a.group.elapse r.elapsed).issue .read).counts =
        ((b.group.elapse r.elapsed).issue .read).counts := (h.alike.elapse r.elapsed).counts
    rw [hcounts] at ha
    dsimp only
    rw [ha, hb]
    cases decodeNamed (names.map some)
      (fun i => ((b.group.elapse r.elapsed).issue .read).counts (i+1)) [] with
    | error e => exact .inl ⟨e,rfl,rfl⟩
    | ok values =>
      refine .inr ⟨⟨_,_,values⟩,⟨_,_,values⟩,?_,rfl,rfl⟩
      rfl

theorem Twins.readToArray {names : List String} {a b : Attached} (h : Twins names a b)
    (r : Native ReadAnswer) : (a.readToArray r).2 = (b.readToArray r).2 := by
  unfold Attached.readToArray
  rcases h.readToArrayWithTimes r with ⟨e,ha,hb⟩ | ⟨reading,reading',hvalues,ha,hb⟩
  · simp only [ha, hb]
  · simp only [ha, hb, Except.map, hvalues]

theorem Twins.readToResult {names : List String} {a b : Attached} (h : Twins names a b)
    (r : Native ReadAnswer) : SameValues (a.readToResult r).2 (b.readToResult r).2 := by
  unfold Attached.readToResult
  rcases h.readToArrayWithTimes r with ⟨e,ha,hb⟩ | ⟨reading,reading',hvalues,ha,hb⟩
  · left
    simp only [ha, hb]
  · refine .inr ⟨reading,reading',hvalues,?_,?_⟩
    · simp only [ha]
      rfl
    · simp only [hb]
      rfl

end Attached

/-- The outcome of a read from its result and what was thrown before and after it. -/
def MethodOutcome.around (before after : List Error) : Except Error Value → MethodOutcome
  | .error e => ⟨before ++ e::after,.null⟩
  | .ok value => ⟨before ++ after,value⟩

/-- Outcomes of `Handle::read` that are equal up to the times of the group. -/
def MethodOutcome.SameCounts (o o' : MethodOutcome) : Prop :=
  o = o' ∨ ∃ before after, ∃ reading reading' : Reading, reading.values = reading'.values ∧
    o = around before after (reading.toResult.map .result) ∧
    o' = around before after (reading'.toResult.map .result)

/-- How the outcomes of an operation agree on two handles that count alike. -/
def HandleOp.Agree : HandleOp → HandleOutcome → HandleOutcome → Prop
  | .method (.read _),.method o,.method o' => o.SameCounts o'
  | _,o,o' => o = o'

namespace Attached

theorem readPaused_snd (read : Native ReadAnswer → Attached → Attached × Except Error Value)
    (r : PausedReplies) (a : Attached) :
    (readPaused read r a).2 =
      if a.handle.enabled then
        .around (a.disable r.disable).2
          ((read r.read (a.disable r.disable).1).1.enable r.enable).2
          (read r.read (a.disable r.disable).1).2
      else .around [] [] (read r.read a).2 := by
  unfold readPaused
  dsimp only
  split <;> split <;> simp [MethodOutcome.around, *]

/-- Paused reads of twins; the relation between the results carries over to the outcomes. -/
theorem readPaused_alike {read : Native ReadAnswer → Attached → Attached × Except Error Value}
    (hread : ReadsOnce read) {S : MethodOutcome → MethodOutcome → Prop} {names : List String}
    (hvalue : ∀ a b r before after, Twins names a b →
      S (.around before after (read r a).2) (.around before after (read r b).2))
    {a b : Attached} (h : Twins names a b) (r : PausedReplies) :
    Alike (readPaused read r a).1 (readPaused read r b).1 ∧
    S (readPaused read r a).2 (readPaused read r b).2 := by
  rw [readPaused_fst, readPaused_fst, readPaused_snd, readPaused_snd, h.alike.handle]
  split
  · obtain ⟨hd,hde⟩ := trySetEnabled_alike h.alike false r.disable
    have hdisabled : Twins names (a.disable r.disable).1 (b.disable r.disable).1 :=
      h.map hd (trySetEnabled_fixed a false r.disable) (trySetEnabled_fixed b false r.disable)
    obtain ⟨hn,hne⟩ := trySetEnabled_alike (readsOnce_alike hread hdisabled.alike r.read) true r.enable
    have hbefore : (a.disable r.disable).2 = (b.disable r.disable).2 := congrArg reportIoctlResult hde
    have hafter : ((read r.read (a.disable r.disable).1).1.enable r.enable).2 =
        ((read r.read (b.disable r.disable).1).1.enable r.enable).2 := congrArg reportIoctlResult hne
    refine ⟨hn,?_⟩
    rw [hbefore, hafter]
    exact hvalue _ _ r.read _ _ hdisabled
  · exact ⟨readsOnce_alike hread h.alike r.read,hvalue a b r.read [] [] h⟩

theorem Twins.metrics_length {names : List String} {a b : Attached} (h : Twins names a b) :
    a.handle.metrics.length = b.handle.metrics.length := by
  have ha := congrArg List.length h.left.2
  have hb := congrArg List.length h.right.2
  simp only [List.length_map] at ha hb
  simp only [Handle.metrics, List.length_cons]
  omega

theorem SameValues.around {v v' : Except Error Value} (h : SameValues v v') (before after : List Error) :
    (MethodOutcome.around before after v).SameCounts (MethodOutcome.around before after v') := by
  rcases h with rfl | ⟨reading,reading',hvalues,rfl,rfl⟩
  · exact .inl rfl
  · exact .inr ⟨before,after,reading,reading',hvalues,rfl,rfl⟩

theorem call_alike {names : List String} {a b : Attached} (h : Twins names a b) (m : Method) :
    Alike (a.call m).1 (b.call m).1 ∧
    (HandleOp.method m).Agree (.method (a.call m).2) (.method (b.call m).2) := by
  cases m with
  | enable r =>
    obtain ⟨hs,he⟩ := trySetEnabled_alike h.alike true r
    exact ⟨hs,congrArg (fun e => HandleOutcome.method ⟨reportIoctlResult e,.this⟩) he⟩
  | disable r =>
    obtain ⟨hs,he⟩ := trySetEnabled_alike h.alike false r
    exact ⟨hs,congrArg (fun e => HandleOutcome.method ⟨reportIoctlResult e,.this⟩) he⟩
  | reset r =>
    obtain ⟨hs,he⟩ := tryReset_alike h.alike r
    exact ⟨hs,congrArg (fun e => HandleOutcome.method ⟨if e ≠ 0 then [resetError e] else [],.this⟩) he⟩
  | read r =>
    exact readPaused_alike readToResult_readsOnce (S := MethodOutcome.SameCounts)
      (fun a b r before after hab => (hab.readToResult r).around before after) h r
  | readArray r =>
    obtain ⟨hs,he⟩ := readPaused_alike readToArray_readsOnce (S := Eq)
      (fun a b r before after hab => congrArg _ (hab.readToArray r)) h r
    exact ⟨hs,congrArg HandleOutcome.method he⟩
  | rawStream idx r =>
    change Alike (a.handleRawStream idx r).1 (b.handleRawStream idx r).1 ∧
      HandleOutcome.method (a.handleRawStream idx r).2 = .method (b.handleRawStream idx r).2
    have hdup : Alike { a with group := a.group.issue .dup } { b with group := b.group.issue .dup } :=
      ⟨h.alike.handle,h.alike.group,h.alike.counts⟩
    unfold handleRawStream
    rw [h.metrics_length]
    split
    · exact ⟨h.alike,rfl⟩
    · dsimp only
      split
      · exact ⟨hdup,rfl⟩
      · split
        · exact ⟨hdup,rfl⟩
        · exact ⟨hdup,rfl⟩

/-- A step with its operation in the output. -/
def logged (a : Attached) (op : HandleOp) : Attached × HandleOp × HandleOutcome :=
  ((a.step op).1,op,(a.step op).2)

/-- The same operation keeps twins alike and shows the same counts. -/
theorem Twins.step {names : List String} {a b : Attached} (h : Twins names a b) (op : HandleOp) :
    Twins names (a.step op).1 (b.step op).1 ∧ op.Agree (a.step op).2 (b.step op).2 := by
  suffices hs : Alike (a.step op).1 (b.step op).1 ∧ op.Agree (a.step op).2 (b.step op).2 from
    ⟨h.map hs.1 (step_fixed a op) (step_fixed b op),hs.2⟩
  cases op with
  | method m => exact call_alike h m
  | requestInit reset enable =>
    change Alike (a.requestInit reset enable).1 (b.requestInit reset enable).1 ∧
      HandleOutcome.hook (a.requestInit reset enable).2 = .hook (b.requestInit reset enable).2
    obtain ⟨hr,hre⟩ := tryReset_alike h.alike reset
    obtain ⟨hs,hse⟩ := trySetEnabled_alike hr true enable
    unfold requestInit
    dsimp only
    rw [hre]
    split
    · exact ⟨hr,rfl⟩
    · exact ⟨hs,by rw [hse]⟩
  | requestShutdown disable reset =>
    obtain ⟨hs,hse⟩ := trySetEnabled_alike h.alike false disable
    obtain ⟨hr,hre⟩ := tryReset_alike hs reset
    refine ⟨hr,?_⟩
    change HandleOutcome.hook _ = .hook _
    simp only [requestShutdown, hse, hre]
  | elapse t => exact ⟨h.alike.elapse t,rfl⟩

end Attached
end Perfidious
