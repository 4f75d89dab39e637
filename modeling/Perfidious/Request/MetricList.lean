import Perfidious.Library.Buffer
import Perfidious.Request.Process

/-! The two entry points for a list of event names, `split_and_open` for the INI setting and
`Perfidious\open` for an array, down to the pointer array each of them puts on the stack. -/
namespace Perfidious
open Library

/-- The stack array of an entry point: its memory, with `none` for `NULL`, the counter of the stored
names, and the indices written so far. -/
structure NameArray where
  arr : ℕ → Option String
  arrLen : ℕ
  written : List ℕ

namespace NameArray

/-- The array as `alloca` leaves it. -/
def alloca (arr : ℕ → Option String) : NameArray := ⟨arr,0,[]⟩

/-- `arr[arr_len++] = name`. -/
def push (a : NameArray) (name : String) : NameArray where
  arr := Function.update a.arr a.arrLen (some name)
  arrLen := a.arrLen + 1
  written := a.written ++ [a.arrLen]

/-- `arr[arr_len] = NULL`. -/
def terminate (a : NameArray) : NameArray where
  arr := Function.update a.arr a.arrLen none
  arrLen := a.arrLen
  written := a.written ++ [a.arrLen]

/-- What `perfidious_handle_try_open_ex` reads at the indices below its second argument. -/
def names (a : NameArray) : List String := (filled a.arr a.arrLen).filterMap id

end NameArray

/-- The loop of `split_and_open` over the fields. -/
def storeNames : List String → NameArray → NameArray
  | [],a => a
  | name::names,a => storeNames names (a.push name)

/-- `split_and_open`: the array it leaves, its result and the native calls. `arr` is what the stack
holds before. -/
def splitAndOpen (metrics : String) (arr : ℕ → Option String) (r : OpenReplies) :
    NameArray × Except Error Handle × List HandleCall :=
  let zMetrics := phpExplode (maxEventNames+1) metrics
  if zMetrics.length > maxEventNames then (.alloca arr,.error tooManyNames,[])
  else
    let a := (storeNames zMetrics (.alloca arr)).terminate
    (a,tryOpenEx a.names 0 (-1) true r)

/-- The loop of `Perfidious\open` over the array. -/
def storeEventNames : List (Option String) → NameArray → NameArray × Except Error Unit
  | [],a => (a,.ok ())
  | none::_,a => (a,.error notStrings)
  | some name::rest,a => storeEventNames rest (a.push name)

/-- `Perfidious\open` from its count check on. -/
def openNames (eventNames : List (Option String)) (pid cpu : ℤ) (arr : ℕ → Option String)
    (r : OpenReplies) : NameArray × Except Error Handle × List HandleCall :=
  if eventNames.length > maxEventNames then
    (.alloca arr,.error (tooManyEventNames eventNames.length),[])
  else
    match storeEventNames eventNames (.alloca arr) with
    | (a,.error e) => (a,.error e,[])
    | (a,.ok ()) => (a.terminate,tryOpenEx a.terminate.names pid cpu false r)

namespace NameArray

/-- The array after the names of a list were stored. -/
structure Holds (a : NameArray) (names : List String) : Prop where
  count : a.arrLen = names.length
  cells : filled a.arr a.arrLen = names.map some
  inBounds : ∀ i ∈ a.written, i < names.length

theorem holds_alloca (arr : ℕ → Option String) : (alloca arr).Holds [] where
  count := rfl
  cells := rfl
  inBounds i hi := by cases hi

variable {a : NameArray} {names : List String}

theorem Holds.push (h : a.Holds names) (name : String) : (a.push name).Holds (names ++ [name]) := by
  constructor
  · simp [NameArray.push,h.count]
  · rw [NameArray.push, filled_push, h.cells]
    simp
  · intro i hi
    rw [List.length_append, List.length_singleton]
    obtain hi | hi := List.mem_append.mp hi
    · exact Nat.lt_succ_of_lt (h.inBounds i hi)
    · rw [List.mem_singleton.mp hi, h.count]
      exact Nat.lt_succ_self _

theorem Holds.names_eq (h : a.Holds names) : a.names = names := by
  rw [NameArray.names, h.cells]
  simp

/-- The terminator needs one slot more and leaves the names as they are. -/
theorem Holds.terminate (h : a.Holds names) :
    a.terminate.names = names ∧ a.terminate.arrLen = names.length ∧
    a.terminate.arr names.length = none ∧ ∀ i ∈ a.terminate.written, i < names.length + 1 := by
  refine ⟨?_,h.count,?_,?_⟩
  · rw [NameArray.names, NameArray.terminate, filled_update_of_le _ (Nat.le_refl _)]
    exact h.names_eq
  · rw [← h.count]
    exact Function.update_self _ _ _
  · intro i hi
    obtain hi | hi := List.mem_append.mp hi
    · exact Nat.lt_succ_of_lt (h.inBounds i hi)
    · rw [List.mem_singleton.mp hi, h.count]
      exact Nat.lt_succ_self _

end NameArray

theorem storeNames_holds {a : NameArray} {stored : List String} (h : a.Holds stored) (names : List String) :
    (storeNames names a).Holds (stored ++ names) := by
  induction names generalizing a stored with
  | nil => simpa [storeNames] using h
  | cons name names ih => simpa [storeNames] using ih (h.push name)

/-- The loop of `Perfidious\open` stores the names before the first element that is not a string, and
fails if there is one. -/
theorem storeEventNames_cases {a : NameArray} {stored : List String} (h : a.Holds stored)
    (eventNames : List (Option String)) :
    ∃ names, (storeEventNames eventNames a).1.Holds (stored ++ names) ∧
      names.length ≤ eventNames.length ∧
      (storeEventNames eventNames a).2 = (copyNames eventNames).map (fun _ => ()) ∧
      ∀ copied, copyNames eventNames = .ok copied → copied = names := by
  induction eventNames generalizing a stored with
  | nil => exact ⟨[],by simpa [storeEventNames] using h,le_rfl,rfl,fun copied hc => (Except.ok.inj hc).symm⟩
  | cons value rest ih =>
    cases value with
    | none => exact ⟨[],by simpa [storeEventNames] using h,Nat.zero_le _,rfl,fun copied hc => by cases hc⟩
    | some name =>
      obtain ⟨names,hholds,hlen,hresult,hcopied⟩ := ih (h.push name)
      refine ⟨name::names,by simpa [storeEventNames] using hholds,Nat.succ_le_succ hlen,?_,?_⟩
      · rw [storeEventNames, hresult, copyNames]
        cases copyNames rest <;> rfl
      · intro copied hc
        unfold copyNames at hc
        cases hrest : copyNames rest with
        | error e => simp [hrest] at hc
        | ok names' =>
          simp only [hrest, Except.ok.injEq] at hc
          rw [← hc, hcopied names' hrest]

/-- The fields of a comma-separated string. -/
def fieldsOf (s : String) : List String := (commaFields s.toList).map String.ofList

theorem commaFields_ne_nil (cs : List Char) : commaFields cs ≠ [] := by
  cases cs with
  | nil => exact List.cons_ne_nil _ _
  | cons c cs =>
    unfold commaFields
    split
    · contradiction
    · exact List.cons_ne_nil _ _
    · split <;> exact List.cons_ne_nil _ _

/-- A character that is no comma belongs to the first field. -/
theorem commaFields_cons {c : Char} (hc : c ≠ ',') (cs : List Char) :
    ∃ field fields, commaFields cs = field::fields ∧ commaFields (c::cs) = (c::field)::fields := by
  obtain ⟨field,fields,hfields⟩ := List.exists_cons_of_ne_nil (commaFields_ne_nil cs)
  refine ⟨field,fields,hfields,?_⟩
  rw [commaFields, hfields]
  exact fun h => hc h

theorem commaFields_eq (cs : List Char) : commaFields cs = cs.splitOn ',' := by
  induction cs with
  | nil => rfl
  | cons c cs ih =>
    rw [List.splitOn_cons_eq_if_modifyHead, ← ih]
    by_cases hc : c = ','
    · subst hc
      rfl
    · obtain ⟨field,fields,hrest,hcons⟩ := commaFields_cons hc cs
      rw [if_neg (by simpa using hc), hrest, hcons]
      rfl

theorem notMem_commaFields {cs field : List Char} (h : field ∈ commaFields cs) : ',' ∉ field := by
  induction cs generalizing field with
  | nil =>
    rw [List.mem_singleton.mp h]
    exact List.not_mem_nil
  | cons c cs ih =>
    by_cases hc : c = ','
    · subst hc
      obtain rfl | h := List.mem_cons.mp h
      · exact List.not_mem_nil
      · exact ih h
    · obtain ⟨first,fields,hrest,hcons⟩ := commaFields_cons hc cs
      rw [hrest] at ih
      rw [hcons] at h
      obtain rfl | h := List.mem_cons.mp h
      · intro hmem
        obtain rfl | hmem := List.mem_cons.mp hmem
        · exact hc rfl
        · exact ih List.mem_cons_self hmem
      · exact ih (List.mem_cons_of_mem _ h)

/-- The fields joined with commas are the string again. -/
theorem intercalate_fieldsOf (s : String) : ",".intercalate (fieldsOf s) = s := by
  rw [← String.toList_inj, String.toList_intercalate, fieldsOf, List.map_map]
  have hid : String.toList ∘ String.ofList = id := funext fun cs => String.toList_ofList
  rw [hid, List.map_id, commaFields_eq]
  exact List.intercalate_splitOn ','

/-- No field contains the separator. -/
theorem notMem_fieldsOf {s field : String} (h : field ∈ fieldsOf s) : ',' ∉ field.toList := by
  obtain ⟨cs,hcs,rfl⟩ := List.mem_map.mp h
  rw [String.toList_ofList]
  exact notMem_commaFields hcs

/-- Below the limit the split is complete. -/
theorem phpExplode_of_le {limit : ℕ} {s : String} (h : (fieldsOf s).length ≤ limit) :
    phpExplode limit s = fieldsOf s := if_pos h

/-- Above the limit the split has as many fields as the limit. -/
theorem length_phpExplode {limit : ℕ} {s : String} (hlimit : 0 < limit)
    (h : limit < (fieldsOf s).length) : (phpExplode limit s).length = limit := by
  have hsplit : phpExplode limit s =
      (fieldsOf s).take (limit-1) ++ [",".intercalate ((fieldsOf s).drop (limit-1))] :=
    if_neg (by simpa [fieldsOf] using h)
  rw [hsplit, List.length_append, List.length_take, List.length_singleton]
  omega

/-- One field more than the maximum is enough to see that a list is too long, and too few to join two
names of a list that is not. -/
theorem tooMany_iff (s : String) :
    (phpExplode (maxEventNames+1) s).length > maxEventNames ↔ (fieldsOf s).length > maxEventNames := by
  by_cases h : (fieldsOf s).length ≤ maxEventNames + 1
  · rw [phpExplode_of_le h]
  · rw [length_phpExplode (Nat.succ_pos _) (by omega)]
    omega

/-- The array of `split_and_open`: nothing is written for a list that is too long, and the fields with
their terminator otherwise. -/
theorem splitAndOpen_eq (metrics : String) (arr : ℕ → Option String) (r : OpenReplies) :
    splitAndOpen metrics arr r =
      if (fieldsOf metrics).length ≤ maxEventNames then
        ((storeNames (fieldsOf metrics) (.alloca arr)).terminate,tryOpenEx (fieldsOf metrics) 0 (-1) true r)
      else (.alloca arr,.error tooManyNames,[]) := by
  unfold splitAndOpen
  dsimp only
  by_cases h : (fieldsOf metrics).length ≤ maxEventNames
  · have hholds := storeNames_holds (NameArray.holds_alloca arr) (fieldsOf metrics)
    have hmany : ¬(phpExplode (maxEventNames+1) metrics).length > maxEventNames := by
      rw [tooMany_iff]
      omega
    rw [if_neg hmany, if_pos h, phpExplode_of_le (h.trans (Nat.le_succ _)), hholds.terminate.1]
    rfl
  · rw [if_pos ((tooMany_iff metrics).mpr (by omega)), if_neg h]

/-- On strings the two loops fill the array alike. -/
theorem storeEventNames_map_some (names : List String) (a : NameArray) :
    storeEventNames (names.map some) a = (storeNames names a,.ok ()) := by
  induction names generalizing a with
  | nil => rfl
  | cons name names ih => exact ih (a.push name)

theorem openNames_map_some (names : List String) (pid cpu : ℤ) (arr : ℕ → Option String)
    (r : OpenReplies) :
    openNames (names.map some) pid cpu arr r =
      if names.length ≤ maxEventNames then
        ((storeNames names (.alloca arr)).terminate,tryOpenEx names pid cpu false r)
      else (.alloca arr,.error (tooManyEventNames names.length),[]) := by
  have hholds := storeNames_holds (NameArray.holds_alloca arr) names
  unfold openNames
  rw [List.length_map, storeEventNames_map_some]
  by_cases h : names.length ≤ maxEventNames
  · rw [if_neg (by omega), if_pos h]
    dsimp only
    rw [hholds.terminate.1]
    rfl
  · rw [if_pos (by omega), if_neg h]

/-- The array of `Perfidious\open` holds the elements and its terminator, whatever they are. -/
theorem openNames_inBounds (eventNames : List (Option String)) (pid cpu : ℤ) (arr : ℕ → Option String)
    (r : OpenReplies) :
    ∀ i ∈ (openNames eventNames pid cpu arr r).1.written, i < eventNames.length + 1 := by
  obtain ⟨stored,hholds,hlen,-⟩ := storeEventNames_cases (NameArray.holds_alloca arr) eventNames
  intro i hi
  unfold openNames at hi
  by_cases h : eventNames.length > maxEventNames
  · rw [if_pos h] at hi
    cases hi
  · rw [if_neg h] at hi
    generalize storeEventNames eventNames (.alloca arr) = x at hholds hi
    obtain ⟨a,e | u⟩ := x
    · have := hholds.inBounds i hi
      rw [List.nil_append] at this
      omega
    · have := hholds.terminate.2.2.2 i hi
      rw [List.nil_append] at this
      omega

/-- The checks of the other arguments come before those of the names. -/
theorem checkOpenArgs_split (args : OpenArgs) (cap : Option CapReplies) :
    checkOpenArgs args cap =
      match checkOpenArgs { args with eventNames := [] } cap with
      | .error e => .error e
      | .ok _ =>
        if args.eventNames.length > maxEventNames then .error (tooManyEventNames args.eventNames.length)
        else copyNames args.eventNames := by
  unfold checkOpenArgs
  dsimp only
  by_cases h₁ : args.pid > pidMax
  · rw [if_pos h₁, if_pos h₁]
  rw [if_neg h₁, if_neg h₁]
  by_cases h₂ : args.pid < -pidMax-1
  · rw [if_pos h₂, if_pos h₂]
  rw [if_neg h₂, if_neg h₂]
  cases if args.pid > 0 then checkCapability cap else .ok () with
  | error e => rfl
  | ok u =>
    dsimp only
    by_cases h₃ : args.cpu < -1
    · rw [if_pos h₃, if_pos h₃]
    rw [if_neg h₃, if_neg h₃]
    by_cases h₄ : args.cpu > intMax
    · rw [if_pos h₄, if_pos h₄]
    rw [if_neg h₄, if_neg h₄]
    rfl

namespace System

/-- The request hook opens what `split_and_open` returns. -/
theorem splitAndOpen_result (metrics : String) (arr : ℕ → Option String) (r : OpenReplies) (s : System) :
    s.splitAndOpen metrics r =
      match (Perfidious.splitAndOpen metrics arr r).2.1 with
      | .error e => (s,.error e)
      | .ok h => (s.allocate h,.ok s.world.next) := by
  rw [splitAndOpen_eq]
  unfold splitAndOpen
  dsimp only
  by_cases h : (fieldsOf metrics).length ≤ maxEventNames
  · have hmany : ¬(phpExplode (maxEventNames+1) metrics).length > maxEventNames := by
      rw [tooMany_iff]
      omega
    rw [if_neg hmany, if_pos h, phpExplode_of_le (h.trans (Nat.le_succ _))]
    rfl
  · rw [if_pos ((tooMany_iff metrics).mpr (by omega)), if_neg h]

/-- `Perfidious\open` opens what is returned from its count check on, once its other arguments pass. -/
theorem open_result (args : OpenArgs) (cap : Option CapReplies) (arr : ℕ → Option String)
    (r : OpenReplies) (s : System) :
    s.open args cap r =
      match checkOpenArgs { args with eventNames := [] } cap with
      | .error e => (s,⟨[e],.null⟩)
      | .ok _ =>
        match (openNames args.eventNames args.pid args.cpu arr r).2.1 with
        | .error e => (s,⟨[e],.null⟩)
        | .ok h =>
          (((s.allocate h).newObject ⟨some s.world.next,false⟩).1,
            ⟨[],.object ((s.allocate h).newObject ⟨some s.world.next,false⟩).2⟩) := by
  unfold «open»
  rw [checkOpenArgs_split]
  cases checkOpenArgs { args with eventNames := [] } cap with
  | error e => rfl
  | ok checked =>
    dsimp only
    unfold openNames
    by_cases h : args.eventNames.length > maxEventNames
    · rw [if_pos h, if_pos h]
    · rw [if_neg h, if_neg h]
      obtain ⟨names,hholds,-,hresult,hcopied⟩ :=
        storeEventNames_cases (NameArray.holds_alloca arr) args.eventNames
      generalize storeEventNames args.eventNames (.alloca arr) = x at hholds hresult ⊢
      obtain ⟨a,result⟩ := x
      cases hcopy : copyNames args.eventNames with
      | error e =>
        rw [hcopy] at hresult
        cases hresult
        rfl
      | ok copied =>
        rw [hcopy] at hresult
        cases hresult
        obtain rfl := hcopied copied hcopy
        dsimp only [tryOpen]
        rw [hholds.terminate.1, List.nil_append]
        cases (tryOpenEx copied args.pid args.cpu false r).1 <;> rfl

end System

/-- The INI list and the array of `Perfidious\open` admit the same lists: up to the maximum both open
exactly the fields of the string, in order, and above it neither opens anything. -/
theorem metric_lists_admitted_alike (metrics : String) (arr : ℕ → Option String) (r : OpenReplies) :
    let fields := fieldsOf metrics
    let x := splitAndOpen metrics arr r
    (",".intercalate fields = metrics ∧ ∀ field ∈ fields, ',' ∉ field.toList) ∧
    (∀ i ∈ x.1.written, i < fields.length + 1) ∧
    (fields.length ≤ maxEventNames →
      x.1.names = fields ∧ x.1.arrLen = fields.length ∧ x.1.arr fields.length = none ∧
      x.2 = tryOpenEx x.1.names 0 (-1) true r ∧
      ∀ pid cpu, (openNames (fields.map some) pid cpu arr r).1.names = fields ∧
        (openNames (fields.map some) pid cpu arr r).2 = tryOpenEx fields pid cpu false r) ∧
    (maxEventNames < fields.length → x.2 = (.error tooManyNames,[]) ∧
      (∀ s : System, s.process.globals.requestHandle = none →
        s.process.globals.requestMetrics = some metrics →
        s.openRequestHandle r = (s.mapGlobals fun g => { g with
          requestHandleError := recordError g.requestHandleError tooManyNames },[tooManyNames])) ∧
      ∀ pid cpu, (openNames (fields.map some) pid cpu arr r).2 =
        (.error (tooManyEventNames fields.length),[])) := by
  intro fields x
  have hholds := storeNames_holds (NameArray.holds_alloca arr) fields
  rw [List.nil_append] at hholds
  have hx : x = if fields.length ≤ maxEventNames then
      ((storeNames fields (.alloca arr)).terminate,tryOpenEx fields 0 (-1) true r)
      else (.alloca arr,.error tooManyNames,[]) := splitAndOpen_eq metrics arr r
  refine ⟨⟨intercalate_fieldsOf metrics,fun field h => notMem_fieldsOf h⟩,?_,?_,?_⟩
  · intro i hi
    rw [hx] at hi
    split_ifs at hi
    · exact hholds.terminate.2.2.2 i hi
    · cases hi
  · intro h
    obtain ⟨hnames,hlen,hnull,-⟩ := hholds.terminate
    rw [if_pos h] at hx
    rw [hx]
    refine ⟨hnames,hlen,hnull,by rw [hnames],fun pid cpu => ?_⟩
    rw [openNames_map_some, if_pos h]
    exact ⟨hnames,rfl⟩
  · intro h
    rw [if_neg (by omega)] at hx
    refine ⟨by rw [hx],fun s hnone hsome => ?_,fun pid cpu => ?_⟩
    · unfold System.openRequestHandle
      rw [hnone, hsome]
      dsimp only
      rw [System.splitAndOpen_result metrics arr r s, show (splitAndOpen metrics arr r) = _ from hx]
    · rw [openNames_map_some, if_neg (by omega)]

end Perfidious
