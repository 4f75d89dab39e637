import Perfidious.Handle.Decode
import Perfidious.Handle.Meter

/-! Two reads of one handle: what lies between them is bounded by what has passed between them. -/
namespace Perfidious
open Library

/-- The time that passes in the native calls of an operation, and in an operation that is nothing but
time passing. -/
def ResetReplies.ticks (r : ResetReplies) : List Tick :=
  [r.disable.elapsed,r.read.elapsed,r.reset.elapsed,r.enable.elapsed]

def PausedReplies.ticks (r : PausedReplies) : List Tick :=
  [r.disable.elapsed,r.read.elapsed,r.enable.elapsed]

def Method.ticks : Method → List Tick
  | .enable r | .disable r => [r.elapsed]
  | .reset r => r.ticks
  | .read r | .readArray r => r.ticks
  | .rawStream _ _ => []

def HandleOp.ticks : HandleOp → List Tick
  | .method m => m.ticks
  | .requestInit reset enable => reset.ticks ++ [enable.elapsed]
  | .requestShutdown disable reset => disable.elapsed :: reset.ticks
  | .elapse t => [t]

/-- The operations that may clear the counts. -/
def HandleOp.clears : HandleOp → Bool
  | .method (.reset _) | .requestInit _ _ | .requestShutdown _ _ => true
  | _ => false

/-- The operations that read the group for a script. -/
def HandleOp.reads : HandleOp → Bool
  | .method (.read _) | .method (.readArray _) => true
  | _ => false

namespace Meter

/-- One number of a meter, and how fast it grows while the meter is on. -/
structure Gauge where
  level : Meter → ℕ
  rate : Tick → ℕ
  pass : ∀ t m, level (m.pass t) = level m ∨ level (m.pass t) = level m + rate t
  switch : ∀ on m, level (m.switch on) = level m

namespace Gauge

def enabledTime : Gauge where
  level := timeEnabled
  rate := Tick.enabledTime
  pass t m := by
    unfold Meter.pass
    split <;> simp
  switch _ _ := rfl

def runningTime : Gauge where
  level := timeRunning
  rate := Tick.runningTime
  pass t m := by
    unfold Meter.pass
    split <;> simp
  switch _ _ := rfl

def count (i : ℕ) : Gauge where
  level m := m.counts i
  rate t := t.counts i
  pass t m := by
    unfold Meter.pass
    split <;> simp
  switch _ _ := rfl

/-- A number that is not cleared. -/
def Lasting (G : Gauge) : Prop := ∀ m, G.level m.clear = G.level m

/-- It never falls, and rises by no more than what has passed. -/
def Grew (G : Gauge) (ts : List Tick) (m m' : Meter) : Prop :=
  G.level m ≤ G.level m' ∧ G.level m' ≤ G.level m + (ts.map G.rate).sum

variable {G : Gauge}

theorem Grew.refl (ts : List Tick) (m : Meter) : G.Grew ts m m := ⟨le_rfl,Nat.le_add_right _ _⟩

theorem Grew.trans {ts us : List Tick} {a b c : Meter} (hab : G.Grew ts a b) (hbc : G.Grew us b c) :
    G.Grew (ts++us) a c := by
  obtain ⟨hab,hab'⟩ := hab
  obtain ⟨hbc,hbc'⟩ := hbc
  unfold Grew
  rw [List.map_append, List.sum_append]
  omega

theorem Grew.pass {ts : List Tick} {a b : Meter} (h : G.Grew ts a b) (t : Tick) :
    G.Grew (ts++[t]) a (b.pass t) := by
  refine h.trans ?_
  obtain hsame | hmore := G.pass t b
  · rw [Grew, hsame]
    exact Grew.refl [t] b
  · rw [Grew, hmore]
    simp

theorem Grew.switch {ts : List Tick} {a b : Meter} (h : G.Grew ts a b) (on : Bool) :
    G.Grew ts a (b.switch on) := by
  rw [Grew, G.switch]
  exact h

theorem Grew.clear (hG : G.Lasting) {ts : List Tick} {a b : Meter} (h : G.Grew ts a b) :
    G.Grew ts a b.clear := by
  rw [Grew, hG]
  exact h

theorem Grew.more {ts : List Tick} {a b : Meter} (h : G.Grew ts a b) (us : List Tick) :
    G.Grew (ts++us) a b :=
  h.trans (.refl us b)

theorem grew_of_switched {on failed : Bool} {before : Tick} {m m' : Meter}
    (h : Switched on before m failed m') : G.Grew [before] m m' := by
  have hpass := (Grew.refl (G := G) [] m).pass before
  cases h with
  | done => exact hpass.switch on
  | refused => exact hpass

theorem grew_of_reset (hG : G.Lasting) {failed : Bool} {before : Tick} {m m' : Meter}
    (h : Reset before m failed m') : G.Grew [before] m m' := by
  have hpass := (Grew.refl (G := G) [] m).pass before
  cases h with
  | done => exact hpass.clear hG
  | refused => exact .refl _ m
  | kept on was => exact hpass.switch on
  | stopped was => exact (hpass.clear hG).switch false

theorem grew_of_read {r : PausedReplies} {failed : Bool} {m m' : Meter} (h : Read r m failed m') :
    G.Grew r.ticks m m' := by
  have hpass := (Grew.refl (G := G) [] m).pass r.disable.elapsed
  cases h with
  | done => exact hpass.more [r.read.elapsed,r.enable.elapsed]
  | failed on was => exact (hpass.switch on).more [r.read.elapsed,r.enable.elapsed]
  | unpaused was => exact (hpass.pass r.read.elapsed).pass r.enable.elapsed

/-- One operation. Counts are cleared by resets, times by nothing. -/
theorem grew_of_step {names : List String} {m m' : Meter} {op : HandleOp} {o : HandleOutcome}
    (h : Step names m op o m') (hG : op.clears = true → G.Lasting) : G.Grew op.ticks m m' := by
  cases o with
  | method o =>
    cases op with
    | method method =>
      cases method with
      | enable r | disable r => exact grew_of_switched h
      | reset r => exact (grew_of_reset (hG rfl) h).more [r.read.elapsed,r.reset.elapsed,r.enable.elapsed]
      | read r | readArray r => exact grew_of_read h.1
      | rawStream idx r =>
        cases h
        exact .refl [] m
    | _ => cases h
  | hook raised =>
    cases op with
    | requestInit reset enable =>
      have hreset : ∀ {failed m₁}, Reset reset.disable.elapsed m failed m₁ → G.Grew reset.ticks m m₁ :=
        fun h =>
          (grew_of_reset (hG rfl) h).more [reset.read.elapsed,reset.reset.elapsed,reset.enable.elapsed]
      obtain ⟨-,m₁,hr,hs⟩ | ⟨-,hr | ⟨m₁,hr,hs⟩⟩ := h
      · exact (hreset hr).trans (grew_of_switched hs)
      · exact (hreset hr).more [enable.elapsed]
      · exact (hreset hr).trans (grew_of_switched hs)
    | requestShutdown disable reset =>
      obtain ⟨kept,failed,m₁,hs,hr,-⟩ := h
      exact (grew_of_switched hs).trans
        ((grew_of_reset (hG rfl) hr).more [reset.read.elapsed,reset.reset.elapsed,reset.enable.elapsed])
    | method method => cases method <;> cases h
    | elapse t => cases h
  | elapsed =>
    cases op with
    | elapse t =>
      cases h
      exact (Grew.refl (G := G) [] m).pass t
    | method method => cases method <;> cases h
    | _ => cases h

/-- A run of operations. -/
theorem grew_of_run {names : List String} {m m' : Meter} {ops : List HandleOp} {os : List HandleOutcome}
    (h : Allows (Step names) m ops os m') (hG : ∀ op ∈ ops, op.clears = true → G.Lasting) :
    G.Grew (ops.flatMap HandleOp.ticks) m m' := by
  refine h.accumulate (fun op => op.clears = true → G.Lasting)
    (fun ops => G.Grew (ops.flatMap HandleOp.ticks)) (fun a => .refl [] a) ?_ hG
  intro a op o b ops c hstep hop hrest
  exact (grew_of_step hstep hop).trans hrest

end Gauge

/-- The entry of a name is the count of its last position. -/
theorem mem_array {names : List String} {m : Meter} {i : ℕ} {name : String} (hi : names[i]? = some name)
    (hlast : ∀ j, i < j → names[j]? ≠ some name) (value : ℤ) :
    (symtableKey name,value) ∈ m.array names ↔ value = m.counts (i+1) := by
  unfold array
  rw [mem_foldl_update]
  constructor
  · rintro (⟨k,hk,hklast⟩ | ⟨-,hnil⟩)
    · rw [List.getElem?_mapIdx, Option.map_eq_some_iff] at hk
      obtain ⟨other,hother,heq⟩ := hk
      obtain ⟨hkey,rfl⟩ := Prod.mk.inj heq
      obtain rfl := symtableKey_injective hkey
      obtain hlt | rfl | hgt := lt_trichotomy i k
      · exact absurd hother (hlast k hlt)
      · rfl
      · refine absurd rfl (hklast i hgt (symtableKey other,m.counts (i+1)) ?_)
        rw [List.getElem?_mapIdx, hi]
        rfl
    · cases hnil
  · rintro rfl
    refine .inl ⟨i,by rw [List.getElem?_mapIdx, hi]; rfl,?_⟩
    intro j hj e he hkey
    rw [List.getElem?_mapIdx, Option.map_eq_some_iff] at he
    obtain ⟨other,hother,rfl⟩ := he
    obtain rfl := symtableKey_injective hkey
    exact hlast j hj hother

theorem array_keys (names : List String) (m : Meter) :
    (m.array names).map Prod.fst = (names.map symtableKey).eraseDups := by
  have hkeys : (names.mapIdx fun i name => (symtableKey name,(m.counts (i+1) : ℤ))).map Prod.fst =
      names.map symtableKey := by
    apply List.ext_getElem
    · simp
    · intro i hi hi'
      simp
  rw [array, map_fst_foldl_update, hkeys]

end Meter

/-- The array in what a read returns. -/
def Value.shownArray : Value → Option PhpArray
  | .array values => some values
  | .result reading => some reading.values
  | _ => none

/-- A read that returns shows the meter as it stands afterwards. -/
theorem Attached.shows_meter {names : List String} {a b : Attached} {op : HandleOp} {value : Value}
    (h : a.InSync) (hn : a.Names names) (hop : op.reads = true)
    (hstep : a.step op = (b,.method ⟨[],value⟩)) (hfits : b.group.meter.Fits) :
    value = .result (b.group.meter.result names) ∨ value = .array (b.group.meter.array names) := by
  have hmeter := step_meter h hn op
  rw [hstep] at hmeter
  cases op with
  | method method =>
    cases method with
    | read r => exact .inl (hmeter.2 rfl hfits)
    | readArray r => exact .inr (hmeter.2 rfl hfits)
    | _ => cases hop
  | _ => cases hop

/-- What lies between two reads of a handle that both return, as long as the times and counts fit in 64
bits. The times never fall, and rise by no more than the time that has passed; unless something in
between clears the counts, the two arrays have the same keys, and no count falls or rises by more than
the events that have passed. Nothing that fails in between makes a difference. -/
theorem reads_count_between (opener : ℕ) (names : List String) (pid cpu : ℤ) (persist : Bool)
    (r : OpenReplies) (h : Handle) (calls : List HandleCall)
    (hopen : tryOpenEx names pid cpu persist r = (.ok h,calls)) (before between : List HandleOp)
    (first last : HandleOp) (hfirst : first.reads = true) (hlast : last.reads = true) {b c : Attached}
    {x y : Value}
    (hx : (final Attached.step ⟨h,h.openedGroup opener⟩ before).step first = (b,.method ⟨[],x⟩))
    (hy : (final Attached.step b between).step last = (c,.method ⟨[],y⟩))
    (hb : b.group.meter.Fits) (hc : c.group.meter.Fits) :
    let ts := (between ++ [last]).flatMap HandleOp.ticks
    (∀ X Y, x = .result X → y = .result Y →
      X.timeEnabled ≤ Y.timeEnabled ∧
      Y.timeEnabled ≤ X.timeEnabled + (ts.map Tick.enabledTime).sum ∧
      X.timeRunning ≤ Y.timeRunning ∧
      Y.timeRunning ≤ X.timeRunning + (ts.map Tick.runningTime).sum) ∧
    ((∀ op ∈ between, op.clears = false) → ∃ xs ys, x.shownArray = some xs ∧ y.shownArray = some ys ∧
      xs.map Prod.fst = ys.map Prod.fst ∧
      ∀ i name, names[i]? = some name → (∀ j, i < j → names[j]? ≠ some name) →
        ∃ v w, (symtableKey name,v) ∈ xs ∧ (symtableKey name,w) ∈ ys ∧ v ≤ w ∧
          w ≤ v + (ts.map fun t => t.counts (i+1)).sum) := by
  intro ts
  obtain ⟨⟨hdisabled,-⟩,hmembers,-⟩ := tryOpenEx_ok hopen
  have hstart : Attached.Meters names ⟨h,h.openedGroup opener⟩ .start :=
    ⟨hdisabled,⟨rfl,hmembers⟩,rfl⟩
  obtain ⟨m,-,hsync,hnamed,-⟩ := (Attached.refines_meter names).run hstart before
  have hbmeter : Attached.Meters names b b.group.meter := by
    have hkept := Attached.inSync_kept.step hsync first
    have hfixed := Attached.names_of_fixed (Attached.step_fixed _ first) hnamed
    rw [hx] at hkept hfixed
    exact ⟨hkept,hfixed,rfl⟩
  obtain ⟨-,-,hsync',hnamed',-⟩ := (Attached.refines_meter names).run hbmeter between
  obtain ⟨m',hrun,-,-,hm'⟩ := (Attached.refines_meter names).run hbmeter (between ++ [last])
  rw [final_append, final_cons, final_nil, hy] at hm'
  subst hm'
  have hshown := Attached.shows_meter hsync hnamed hfirst hx hb
  have hshown' := Attached.shows_meter hsync' hnamed' hlast hy hc
  have hkeeps : last.clears = false := by
    cases last with
    | method method => cases method <;> first | rfl | cases hlast
    | _ => cases hlast
  have hgrew : ∀ G : Meter.Gauge, ((∀ op ∈ between, op.clears = false) ∨ G.Lasting) →
      G.Grew ts b.group.meter c.group.meter := by
    intro G hG
    refine Meter.Gauge.grew_of_run hrun fun op hop hclears => ?_
    obtain hnone | hlasting := hG
    · obtain hop | hop := List.mem_append.mp hop
      · rw [hnone op hop] at hclears
        cases hclears
      · rw [List.mem_singleton.mp hop, hkeeps] at hclears
        cases hclears
    · exact hlasting
  constructor
  · rintro X Y rfl rfl
    obtain hX | hX := hshown
    · obtain hY | hY := hshown'
      · cases hX
        cases hY
        obtain ⟨hE,hE'⟩ := hgrew .enabledTime (.inr fun _ => rfl)
        obtain ⟨hR,hR'⟩ := hgrew .runningTime (.inr fun _ => rfl)
        exact ⟨Int.ofNat_le.mpr hE,Int.ofNat_le.mpr hE',Int.ofNat_le.mpr hR,Int.ofNat_le.mpr hR'⟩
      · cases hY
    · cases hX
  · intro hnone
    have hxs : x.shownArray = some (b.group.meter.array names) := by
      obtain rfl | rfl := hshown <;> rfl
    have hys : y.shownArray = some (c.group.meter.array names) := by
      obtain rfl | rfl := hshown' <;> rfl
    refine ⟨_,_,hxs,hys,by rw [Meter.array_keys, Meter.array_keys],fun i name hi hlastName => ?_⟩
    obtain ⟨hle,hle'⟩ := hgrew (.count (i+1)) (.inl hnone)
    exact ⟨_,_,(Meter.mem_array hi hlastName _).mpr rfl,(Meter.mem_array hi hlastName _).mpr rfl,
      Int.ofNat_le.mpr hle,Int.ofNat_le.mpr hle'⟩

/-- A read that succeeds at once. -/
def promptReplies : PausedReplies := ⟨answered none,answered .full,answered none⟩

def earlierReading : Attached × HandleOutcome :=
  (final Attached.step ⟨plainHandle,plainHandle.openedGroup 1⟩ [.method (.enable (answered none))]).step
    (.method (.readArray promptReplies))

/-- Events pass, the group cannot be disabled, and events pass again. -/
def failingOps : List HandleOp :=
  [.elapse ⟨6,3,fun _ => 2,by decide⟩,.method (.disable (answered (some EIO))),
    .elapse ⟨9,2,fun _ => 1,by decide⟩]

def laterReading : Attached × HandleOutcome :=
  (final Attached.step earlierReading.1 failingOps).step (.method (.readArray promptReplies))

theorem reads_count_between_failing :
    ∃ v w, earlierReading.2 = .method ⟨[],.array [(.string "instructions",v)]⟩ ∧
      laterReading.2 = .method ⟨[],.array [(.string "instructions",w)]⟩ ∧ v ≤ w ∧ w ≤ v + 3 := by
  have hfits : ∀ {m : Meter}, m.timeEnabled < 2^64 → m.timeRunning < 2^64 →
      (∀ i, m.counts i = m.counts 0) → m.counts 0 < 2^64 → m.Fits :=
    fun hE hR hsame hzero => ⟨hE,hR,fun i => hsame i ▸ hzero⟩
  obtain ⟨xs,ys,hxs,hys,-,hbetween⟩ := (reads_count_between 1 ["instructions"] 0 (-1) true plainOpen
    plainHandle plainCalls rfl [.method (.enable (answered none))] failingOps
    (.method (.readArray promptReplies)) (.method (.readArray promptReplies)) rfl rfl
    (b := earlierReading.1) (c := laterReading.1) (x := .array [(.string "instructions",0)])
    (y := .array [(.string "instructions",3)]) rfl rfl
    (hfits (by decide) (by decide) (fun _ => rfl) (by decide))
    (hfits (by decide) (by decide) (fun _ => rfl) (by decide))).2 (by decide)
  cases hxs
  cases hys
  obtain ⟨v,w,hv,hw,hle,hle'⟩ := hbetween 0 "instructions" rfl fun j hj => by
    cases j with
    | zero => cases hj
    | succ j => simp
  obtain rfl := (Prod.mk.inj (List.mem_singleton.mp hv)).2
  obtain rfl := (Prod.mk.inj (List.mem_singleton.mp hw)).2
  exact ⟨0,3,rfl,rfl,hle,hle'⟩

end Perfidious
