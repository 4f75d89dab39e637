import Mathlib.Data.Nat.Digits.Defs
import Perfidious.Handle.Cleanup
import Perfidious.Handle.Machine

/-! Decoding a group record: which array it yields, and which exception. -/
namespace Perfidious
open Library

/-- The digit loop of `canonicalNumber`. -/
def numeral (digits : List Char) : Option ℕ :=
  digits.foldl (fun value c =>
    value.bind fun n => if c.isDigit then some (n*10 + (c.toNat - '0'.toNat)) else none) (some 0)

theorem numeral_concat (digits : List Char) (c : Char) :
    numeral (digits++[c]) = (numeral digits).bind fun n =>
      if c.isDigit then some (n*10 + (c.toNat - '0'.toNat)) else none := by
  rw [numeral, List.foldl_append]
  rfl

/-- A numeral that has a value consists of digits, and the value is theirs. -/
theorem numeral_eq_some {digits : List Char} {n : ℕ} (h : numeral digits = some n) :
    (∀ c ∈ digits, c.isDigit) ∧
      n = Nat.ofDigits 10 (digits.reverse.map fun c => c.toNat - '0'.toNat) := by
  induction digits using List.reverseRecOn generalizing n with
  | nil =>
    cases h
    exact ⟨nofun,rfl⟩
  | append_singleton digits c ih =>
    rw [numeral_concat, Option.bind_eq_some_iff] at h
    obtain ⟨m,hm,hc⟩ := h
    obtain ⟨hdigits,hvalue⟩ := ih hm
    by_cases hdigit : c.isDigit
    · rw [if_pos hdigit] at hc
      cases hc
      constructor
      · intro d hd
        rcases List.mem_append.mp hd with hd | hd
        · exact hdigits d hd
        · exact (List.mem_singleton.mp hd) ▸ hdigit
      · rw [List.reverse_append, List.reverse_singleton, List.singleton_append, List.map_cons,
          Nat.ofDigits_cons, ← hvalue]
        omega
    · rw [if_neg hdigit] at hc
      cases hc

theorem isDigit_bounds {c : Char} (h : c.isDigit) : 48 ≤ c.toNat ∧ c.toNat ≤ 57 := by
  simp only [Char.isDigit, Bool.and_eq_true, decide_eq_true_eq] at h
  exact ⟨UInt32.le_iff_toNat_le.mp h.1,UInt32.le_iff_toNat_le.mp h.2⟩

theorem digits_inj {cs ds : List Char} (hcs : ∀ c ∈ cs, c.isDigit) (hds : ∀ c ∈ ds, c.isDigit)
    (h : cs.map (fun c => c.toNat - '0'.toNat) = ds.map fun c => c.toNat - '0'.toNat) : cs = ds := by
  induction cs generalizing ds with
  | nil => simpa using h.symm
  | cons c cs ih =>
    cases ds with
    | nil => cases h
    | cons d ds =>
      rw [List.map_cons, List.map_cons, List.cons.injEq] at h
      have hc := isDigit_bounds (hcs c List.mem_cons_self)
      have hd := isDigit_bounds (hds d List.mem_cons_self)
      have hcd : c = d := by
        apply Char.toNat_inj.mp
        have := h.1
        change c.toNat - 48 = d.toNat - 48 at this
        omega
      rw [hcd, ih (fun c hc => hcs c (List.mem_cons_of_mem _ hc))
        (fun c hc => hds c (List.mem_cons_of_mem _ hc)) h.2]

theorem canonicalNumber_cases {digits : List Char} {n : ℕ} (h : canonicalNumber digits = some n) :
    (digits = ['0'] ∧ n = 0) ∨
      ∃ c cs, digits = c::cs ∧ c ≠ '0' ∧ numeral digits = some n := by
  unfold canonicalNumber at h
  split at h
  · cases h
  · cases h
    exact .inl ⟨rfl,rfl⟩
  · cases h
  next hnil _ hzero =>
    right
    cases digits with
    | nil => exact absurd rfl hnil
    | cons c cs =>
      refine ⟨c,cs,rfl,?_,h⟩
      intro hc
      exact hzero cs (hc ▸ rfl)

/-- A numeral without superfluous zeros is read off its value: its digits are those of the number. -/
theorem digits_numeral {c : Char} {cs : List Char} {n : ℕ} (hc : c ≠ '0')
    (h : numeral (c::cs) = some n) :
    (∀ d ∈ c::cs, d.isDigit) ∧
      Nat.digits 10 n = (c::cs).reverse.map fun d => d.toNat - '0'.toNat := by
  obtain ⟨hdigits,hvalue⟩ := numeral_eq_some h
  refine ⟨hdigits,?_⟩
  rw [hvalue]
  apply Nat.digits_ofDigits 10 (by decide)
  · intro value hvalue
    obtain ⟨d,hd,rfl⟩ := List.mem_map.mp hvalue
    have := isDigit_bounds (hdigits d (List.mem_reverse.mp hd))
    change d.toNat - 48 < 10
    omega
  · intro hne
    have hbounds := isDigit_bounds (hdigits c List.mem_cons_self)
    have hzero : c.toNat ≠ '0'.toNat := mt Char.toNat_inj.mp hc
    rw [List.getLast_map, List.getLast_reverse, List.head_cons]
    change c.toNat ≠ 48 at hzero
    change c.toNat - 48 ≠ 0
    omega

theorem canonicalNumber_inj {cs ds : List Char} {n : ℕ} (hcs : canonicalNumber cs = some n)
    (hds : canonicalNumber ds = some n) : cs = ds := by
  rcases canonicalNumber_cases hcs with ⟨rfl,rfl⟩ | ⟨c,cs,rfl,hc,hcs⟩
  · rcases canonicalNumber_cases hds with ⟨rfl,-⟩ | ⟨d,ds,rfl,hd,hds⟩
    · rfl
    · simpa using (digits_numeral hd hds).2
  · obtain ⟨hcdigits,hcvalue⟩ := digits_numeral hc hcs
    rcases canonicalNumber_cases hds with ⟨-,rfl⟩ | ⟨d,ds,rfl,hd,hds⟩
    · simp at hcvalue
    · obtain ⟨hddigits,hdvalue⟩ := digits_numeral hd hds
      rw [hcvalue, List.map_reverse, List.map_reverse, List.reverse_inj] at hdvalue
      exact digits_inj hcdigits hddigits hdvalue

theorem symtableKey_index {s : String} {k : ℤ} (h : symtableKey s = .index k) :
    (∃ digits n, s.toList = '-'::digits ∧ canonicalNumber digits = some n ∧ n ≠ 0 ∧ k = -n) ∨
      ∃ n, canonicalNumber s.toList = some n ∧ k = n := by
  unfold symtableKey at h
  split at h
  next digits hs =>
    split at h
    next n hn =>
      split at h
      · cases h
      next hbounds =>
        cases h
        exact .inl ⟨digits,n,hs,hn,fun hzero => hbounds (.inl hzero),rfl⟩
    · cases h
  next digits =>
    split at h
    next n hn =>
      split at h
      · cases h
      · cases h
        exact .inr ⟨n,hn,rfl⟩
    · cases h

/-- Different names have different keys. -/
theorem symtableKey_injective : Function.Injective symtableKey := by
  intro s t h
  cases hs : symtableKey s with
  | string s' =>
    rw [symtableKey_string hs, symtableKey_string (h.symm.trans hs)]
  | index k =>
    apply String.toList_inj.mp
    rcases symtableKey_index hs with ⟨ds,n,hds,hn,hpos,hk⟩ | ⟨n,hn,hk⟩
    · rcases symtableKey_index (h.symm.trans hs) with ⟨es,m,hes,hm,-,hk'⟩ | ⟨m,hm,hk'⟩
      · have hmn : m = n := by omega
        rw [hds, hes, canonicalNumber_inj hn (hmn ▸ hm)]
      · omega
    · rcases symtableKey_index (h.symm.trans hs) with ⟨es,m,hes,hm,hpos,hk'⟩ | ⟨m,hm,hk'⟩
      · omega
      · have hmn : m = n := by omega
        exact canonicalNumber_inj hn (hmn ▸ hm)

/-- The exception for the leader's entry of a record. -/
def leaderOffence (metric : Metric) (value : ReadFormatValue) : Option Error :=
  if metric.id ≠ value.id then some (idMismatch metric.id value.id) else none

/-- The exception for the entry of a named member. -/
def memberOffence (metric : Metric) (value : ReadFormatValue) : Option Error :=
  if metric.id ≠ value.id then some (idMismatch metric.id value.id)
  else if value.value.toNat > zendLongMax then some (longTooLarge value.value)
  else none

/-- The exceptions of the entries of a record, position by position. -/
def Handle.offences (h : Handle) : List ReadFormatValue → List (Option Error)
  | [] => []
  | value::values => leaderOffence h.leader value :: List.zipWith memberOffence h.members values

/-- What the entry of the member called `name` contributes to the array. -/
def arrayEntry (name : String) (value : ReadFormatValue) : ArrayKey × ℤ :=
  (symtableKey name,value.value.toNat)

/-- A result that an exception takes the place of. -/
def resultUnless {α : Type} (error : Option Error) (result : α) : Except Error α :=
  match error with
  | some e => .error e
  | none => .ok result

/-- The loop over the members: by induction on them, an offence ends it and otherwise one entry is
stored. -/
theorem decodeMembers_eq {ms : List Metric} {names : List String} {values : List ReadFormatValue}
    (hnames : ms.map Metric.name = names.map some) (array : PhpArray) :
    decodeMembers (ms.zip values) array =
      resultUnless (firstFailure (List.zipWith memberOffence ms values))
        ((List.zipWith arrayEntry names values).foldl (fun a e => update a e.1 e.2) array) := by
  induction ms generalizing names values array with
  | nil =>
    cases names with
    | nil => rfl
    | cons name names => cases hnames
  | cons m ms ih =>
    cases names with
    | nil => cases hnames
    | cons name names =>
      cases values with
      | nil => rfl
      | cons value values =>
        rw [List.map_cons, List.map_cons, List.cons.injEq] at hnames
        rw [List.zip_cons_cons, decodeMembers, List.zipWith_cons_cons, List.zipWith_cons_cons,
          hnames.1, memberOffence]
        by_cases hid : m.id = value.id
        · rw [if_neg (not_not_intro hid), if_neg (not_not_intro hid)]
          by_cases hlong : value.value.toNat > zendLongMax
          · rw [if_pos hlong, uint64ToZendLong_of_gt hlong]
            rfl
          · rw [if_neg hlong, uint64ToZendLong_of_le (Nat.not_lt.mp hlong)]
            exact ih hnames.2 (symtableUpdate array name value.value.toNat)
        · rw [if_pos hid, if_pos hid]
          rfl

theorem decode_eq {h : Handle} {names : List String} (hnames : h.members.map Metric.name = names.map some)
    {value : ReadFormatValue} {values : List ReadFormatValue} :
    decode (h.metrics.zip (value::values)) =
      resultUnless (firstFailure (h.offences (value::values)))
        ((List.zipWith arrayEntry names values).foldl (fun a e => update a e.1 e.2) []) := by
  rw [Handle.metrics, List.zip_cons_cons, decode, Handle.offences, leaderOffence]
  by_cases hid : h.leader.id = value.id
  · rw [if_neg (not_not_intro hid), if_neg (not_not_intro hid), decodeMembers_eq hnames]
    rfl
  · rw [if_pos hid, if_pos hid]
    rfl

/-- An array decoded for `names`: a key for each name, in the order in which they first occur, and under
it the value of the last metric of that name. `values` are those of the whole record, the leader's
included. -/
structure DecodedArray (names : List String) (values : List ReadFormatValue) (array : PhpArray) :
    Prop where
  keys : array.map Prod.fst = names.eraseDups.map symtableKey
  last : ∀ name long, (symtableKey name,long) ∈ array ↔ ∃ i value, names[i]? = some name ∧
    (∀ j, i < j → names[j]? ≠ some name) ∧ values[i+1]? = some value ∧ long = value.value.toNat

theorem getElem?_arrayEntries {names : List String} {values : List ReadFormatValue} {i : ℕ}
    {name : String} {long : ℤ} :
    (List.zipWith arrayEntry names values)[i]? = some (symtableKey name,long) ↔
      ∃ value, names[i]? = some name ∧ values[i]? = some value ∧ long = value.value.toNat := by
  rw [List.getElem?_zipWith_eq_some]
  constructor
  · rintro ⟨other,value,hname,hvalue,hentry⟩
    rw [arrayEntry, Prod.mk.injEq] at hentry
    rw [← symtableKey_injective hentry.1]
    exact ⟨value,hname,hvalue,hentry.2.symm⟩
  · rintro ⟨value,hname,hvalue,rfl⟩
    exact ⟨name,value,hname,hvalue,rfl⟩

theorem decodedArray {names : List String} (value : ReadFormatValue) {values : List ReadFormatValue}
    (hlen : values.length = names.length) :
    DecodedArray names (value::values)
      ((List.zipWith arrayEntry names values).foldl (fun a e => update a e.1 e.2) []) := by
  constructor
  · have hkeys : (List.zipWith arrayEntry names values).map Prod.fst = names.map symtableKey := by
      apply List.ext_getElem
      · simp [hlen]
      · intro i hi hi'
        simp [arrayEntry]
    rw [map_fst_foldl_update, hkeys, eraseDups_map symtableKey_injective]
  · intro name long
    rw [mem_foldl_update]
    constructor
    · rintro (⟨i,hi,hlast⟩ | ⟨-,hnil⟩)
      · obtain ⟨value',hname,hvalue,hlong⟩ := getElem?_arrayEntries.mp hi
        refine ⟨i,value',hname,?_,hvalue,hlong⟩
        intro j hj hname'
        have hlt : j < values.length := hlen ▸ (List.getElem?_eq_some_iff.mp hname').1
        exact hlast j hj _ (getElem?_arrayEntries.mpr ⟨values[j],hname',List.getElem?_eq_getElem hlt,rfl⟩)
          rfl
      · cases hnil
    · rintro ⟨i,value',hname,hlast,hvalue,hlong⟩
      refine .inl ⟨i,getElem?_arrayEntries.mpr ⟨value',hname,hvalue,hlong⟩,?_⟩
      rintro j hj ⟨key,long'⟩ hj' rfl
      obtain ⟨-,hname',-⟩ := getElem?_arrayEntries.mp hj'
      exact hlast j hj hname'

/-- A record without an offence: every id is the one stored at its position, and every value past the
leader's is a PHP integer. -/
structure Clean (h : Handle) (values : List ReadFormatValue) : Prop where
  ids : ∀ (i : ℕ) (metric : Metric) (value : ReadFormatValue), h.metrics[i]? = some metric →
    values[i]? = some value → metric.id = value.id
  longs : ∀ (i : ℕ) (value : ReadFormatValue), values[i+1]? = some value →
    value.value.toNat ≤ zendLongMax

theorem leaderOffence_eq_none_iff (metric : Metric) (value : ReadFormatValue) :
    leaderOffence metric value = none ↔ metric.id = value.id := by
  unfold leaderOffence
  split <;> simp_all

theorem memberOffence_eq_none_iff (metric : Metric) (value : ReadFormatValue) :
    memberOffence metric value = none ↔
      metric.id = value.id ∧ value.value.toNat ≤ zendLongMax := by
  unfold memberOffence
  by_cases hid : metric.id = value.id
  · simp [hid]
  · simp [hid]

theorem firstFailure_zipWith_eq_none_iff {f : Metric → ReadFormatValue → Option Error}
    {metrics : List Metric} {values : List ReadFormatValue} :
    firstFailure (List.zipWith f metrics values) = none ↔
      ∀ (i : ℕ) metric value, metrics[i]? = some metric → values[i]? = some value →
        f metric value = none := by
  rw [firstFailure, List.findSome?_eq_none_iff]
  constructor
  · intro h i metric value hmetric hvalue
    exact h _ (List.mem_of_getElem? (List.getElem?_zipWith_eq_some.mpr ⟨metric,value,hmetric,hvalue,rfl⟩))
  · intro h error herror
    obtain ⟨i,hi⟩ := List.mem_iff_getElem?.mp herror
    obtain ⟨metric,value,hmetric,hvalue,rfl⟩ := List.getElem?_zipWith_eq_some.mp hi
    exact h i metric value hmetric hvalue

theorem firstFailure_offences {h : Handle} {values : List ReadFormatValue}
    (hnr : values.length = h.metrics.length) :
    firstFailure (h.offences values) = none ↔ Clean h values := by
  cases values with
  | nil => cases hnr
  | cons value values =>
    have hlen : values.length = h.members.length := Nat.succ.inj hnr
    have hsplit : firstFailure (h.offences (value::values)) = none ↔
        leaderOffence h.leader value = none ∧
          firstFailure (List.zipWith memberOffence h.members values) = none := by
      rw [Handle.offences, firstFailure, List.findSome?_cons]
      cases leaderOffence h.leader value <;> simp [firstFailure]
    rw [hsplit, leaderOffence_eq_none_iff, firstFailure_zipWith_eq_none_iff]
    constructor
    · rintro ⟨hleader,hmembers⟩
      constructor
      · intro i metric value' hmetric hvalue
        cases i with
        | zero =>
          cases hmetric
          cases hvalue
          exact hleader
        | succ i =>
          exact ((memberOffence_eq_none_iff metric value').mp (hmembers i metric value' hmetric hvalue)).1
      · intro i value' hvalue
        have hvalue' : values[i]? = some value' := hvalue
        have hlt : i < h.members.length := hlen ▸ (List.getElem?_eq_some_iff.mp hvalue').1
        have hmember := hmembers i _ value' (List.getElem?_eq_getElem hlt) hvalue
        exact ((memberOffence_eq_none_iff _ value').mp hmember).2
    · intro hclean
      refine ⟨hclean.ids 0 h.leader value rfl rfl,?_⟩
      intro i metric value' hmetric hvalue
      exact (memberOffence_eq_none_iff metric value').mpr
        ⟨hclean.ids (i+1) metric value' hmetric hvalue,hclean.longs i value' hvalue⟩

/-- The exceptions for the time totals. -/
def timeOffences (data : ReadFormat) : List (Option Error) :=
  [data.timeEnabled,data.timeRunning].map fun time =>
    if time.toNat > zendLongMax then some (longTooLarge time) else none

theorem firstFailure_timeOffences (data : ReadFormat) :
    firstFailure (timeOffences data) = none ↔
      data.timeEnabled.toNat ≤ zendLongMax ∧ data.timeRunning.toNat ≤ zendLongMax := by
  simp [firstFailure,timeOffences]

theorem toResult_eq (data : ReadFormat) (values : PhpArray) :
    Reading.toResult ⟨data.timeEnabled,data.timeRunning,values⟩ =
      resultUnless (firstFailure (timeOffences data))
        ⟨data.timeEnabled.toNat,data.timeRunning.toNat,values⟩ := by
  unfold Reading.toResult timeOffences
  by_cases henabled : data.timeEnabled.toNat > zendLongMax
  · simp [uint64ToZendLong_of_gt henabled,firstFailure,henabled,resultUnless]
  · rw [uint64ToZendLong_of_le (Nat.not_lt.mp henabled)]
    by_cases hrunning : data.timeRunning.toNat > zendLongMax
    · simp [uint64ToZendLong_of_gt hrunning,firstFailure,henabled,hrunning,resultUnless]
    · simp [uint64ToZendLong_of_le (Nat.not_lt.mp hrunning),firstFailure,henabled,hrunning,resultUnless]

/-- Decoding a full record, for the metrics called `names`: the exception is the one of the first offence,
the entries of the record coming before the time totals, which only `read` looks at; without an offence
both return the same array. -/
theorem group_read_decoded (names : List String) (a : Attached)
    (hnames : a.handle.members.map Metric.name = names.map some) (r : Native ReadAnswer)
    (hfull : r.answer = .full) (data : ReadFormat)
    (hdata : ((a.group.elapse r.elapsed).issue .read).readFormat = data)
    (hnr : data.values.length = a.handle.metrics.length) :
    (firstFailure (a.handle.offences data.values) = none ↔ Clean a.handle data.values) ∧
    (firstFailure (timeOffences data) = none ↔
      data.timeEnabled.toNat ≤ zendLongMax ∧ data.timeRunning.toNat ≤ zendLongMax) ∧
    ∃ array, DecodedArray names data.values array ∧
      (a.readToArray r).2 =
        resultUnless (firstFailure (a.handle.offences data.values)) (.array array) ∧
      (a.readToResult r).2 =
        resultUnless (firstFailure (a.handle.offences data.values ++ timeOffences data))
          (.result ⟨data.timeEnabled.toNat,data.timeRunning.toNat,array⟩) := by
  refine ⟨firstFailure_offences hnr,firstFailure_timeOffences data,?_⟩
  have hread : (a.readToArrayWithTimes r).2 = a.handle.decodeRecord data := by
    rw [← hdata, Attached.readToArrayWithTimes, hfull]
  have harray : (a.readToArray r).2 =
      (a.readToArrayWithTimes r).2.map fun reading => .array reading.values := rfl
  have hresult : (a.readToResult r).2 =
      ((a.readToArrayWithTimes r).2.bind Reading.toResult).map .result := rfl
  cases hvalues : data.values with
  | nil =>
    rw [hvalues] at hnr
    cases hnr
  | cons value values =>
    rw [hvalues] at hnr
    have hlen : values.length = names.length := by
      have := congrArg List.length hnames
      rw [List.length_map, List.length_map] at this
      exact (Nat.succ.inj hnr).trans this
    refine ⟨_,decodedArray value hlen,?_⟩
    rw [Handle.decodeRecord, hvalues, decode_eq hnames] at hread
    rw [harray, hresult, hread, firstFailure_append]
    cases firstFailure (a.handle.offences (value::values)) with
    | some e => exact ⟨rfl,rfl⟩
    | none =>
      refine ⟨rfl,?_⟩
      dsimp only [resultUnless, Except.bind]
      rw [toResult_eq, Option.none_or]
      cases firstFailure (timeOffences data) <;> rfl

/-- Three metrics, two of them with the same name. -/
def repeatedNames : Attached where
  handle := ⟨⟨3,10,none⟩,[⟨4,11,some "a"⟩,⟨5,12,some "b"⟩,⟨6,13,some "a"⟩],false,false,0,0⟩
  group := { EventGroup.opened 1 [10,11,12,13] with counts := fun i => 7*i }

theorem group_read_decoded_repeated :
    DecodedArray ["a","b","a"] (repeatedNames.group.issue .read).readFormat.values
        [(.string "a",21),(.string "b",14)] ∧
      (repeatedNames.readToArray (answered .full)).2 =
        .ok (.array [(.string "a",21),(.string "b",14)]) := by
  obtain ⟨-,-,array,hdecoded,harray,-⟩ := group_read_decoded ["a","b","a"] repeatedNames rfl
    (answered .full) rfl _ rfl rfl
  have hresult : (repeatedNames.readToArray (answered .full)).2 =
      .ok (.array [(.string "a",21),(.string "b",14)]) := rfl
  rw [hresult] at harray
  cases harray
  exact ⟨hdecoded,hresult⟩

end Perfidious
