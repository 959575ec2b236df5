import Mathlib.Data.Rat.Lemmas
import Mathlib.Tactic.Linarith
import Mathlib.Tactic.FieldSimp
import Kubinate.Library.Overflow
import Kubinate.Observability.Exposition
import Kubinate.Observability.Selector

/-!
# The times of a range query

`VictoriaMetricsStore::query_range` of `crates/observability/src/metrics.rs` sends its times as
seconds with three decimals. The whole seconds come from a division that truncates and the
milliseconds from the absolute value, so the sign is in the whole seconds alone.

* `readDecimal_secondsText_iff`: a time reads back as itself unless it is in the last second before
  the epoch, which has no sign.
* `query_range_times_exact_iff`: which queries are sent with the times that were asked for, and
  without an overflow on the way.
-/

namespace Kubinate.Observability

open Platform Library

/-! ## Writing -/

/-- The format `{:03}` of a signed number. -/
def zeroPad3 (x : Int) : String :=
  if x < 0 then String.ofList ('-' :: List.leftpad 2 '0' x.natAbs.repr.toList)
  else String.ofList (List.leftpad 3 '0' x.natAbs.repr.toList)

/-- `format!("{}.{:03}", ms / 1000, ms.abs() % 1000)` -/
def timeText (ms : Int) : Overflowing String := do
  let seconds ← signed 63 (ms.tdiv 1000)
  let magnitude ← signed 63 |ms|
  let millis ← signed 63 (magnitude.tmod 1000)
  pure (toString seconds ++ "." ++ zeroPad3 millis)

/-- The parameters of the request that `query_range` sends. -/
def rangeParams (organizationId : Uuid) (query : RangeQuery) :
    Overflowing (List (String × String)) := do
  let selector := promqlSelector organizationId query
  let window ← signed 63 (query.endMs - query.startMs)
  let windowSecs ← signed 63 ((max window 0).tdiv 1000)
  let step ← signed 63 (windowSecs.tdiv 360)
  let stepSecs := max step 15
  let start ← timeText query.startMs
  let stop ← timeText query.endMs
  pure [("query", selector), ("start", start), ("end", stop), ("step", toString stepSecs ++ "s")]

/-! ## Reading -/

/-- `[0-9]+(\.[0-9]+)?` -/
def readMagnitude (cs : List Char) : Option ℚ :=
  match cs.dropWhile Char.isDigit with
  | [] => (readNat cs).map fun (n : Nat) => (n : ℚ)
  | '.' :: fraction =>
    (readNat (cs.takeWhile Char.isDigit)).bind fun whole =>
      (readNat fraction).map fun (part : Nat) => (whole : ℚ) + part / 10 ^ fraction.length
  | _ => none

/-- A decimal number with an optional sign. -/
def readDecimal (text : String) : Option ℚ :=
  if text.toList.head? = some '-' then (readMagnitude text.toList.tail).map fun q => -q
  else readMagnitude text.toList

/-- Nothing overflows, and the times that are sent are those of the query. -/
def TimesExact (organizationId : Uuid) (query : RangeQuery) : Prop :=
  (rangeParams organizationId query).Yields fun params =>
    (params.lookup "start").bind readDecimal = some ((query.startMs : ℚ) / 1000) ∧
      (params.lookup "end").bind readDecimal = some ((query.endMs : ℚ) / 1000)

/-! ## A time reads back -/

section Reading

/-- Fewer than four digits are filled up to three. -/
theorem zeroPad3_natCast {n : Nat} (h : n < 1000) :
    (zeroPad3 n).toList.length = 3 ∧ readNat (zeroPad3 n).toList = some n := by
  have hlength : n.repr.toList.length ≤ 3 := by
    rw [Nat.toList_repr, Nat.length_toDigits_le_iff (by decide) (by decide)]
    exact h
  have hlist : (zeroPad3 n).toList = List.replicate (3 - n.repr.toList.length) '0' ++
      n.repr.toList := by
    rw [zeroPad3, if_neg (by omega), String.toList_ofList, Int.natAbs_natCast, List.leftpad]
  have hdigits : (zeroPad3 n).toList.all Char.isDigit = true := by
    rw [hlist, List.all_append, Bool.and_eq_true]
    constructor
    · rw [List.all_replicate]
      simp
    · exact List.all_eq_true.mpr fun c hc => isDigit_of_mem_repr hc
  have hthree : (zeroPad3 n).toList.length = 3 := by
    rw [hlist, List.length_append, List.length_replicate]
    omega
  refine ⟨hthree, ?_⟩
  have hne : (zeroPad3 n).toList.isEmpty = false := by
    cases hcs : (zeroPad3 n).toList with
    | nil =>
      rw [hcs] at hthree
      cases hthree
    | cons c cs => rfl
  rw [readNat, hdigits, hne, if_pos (by decide), hlist, Nat.ofDigitChars_append,
    Nat.ofDigitChars_replicate_zero, Nat.mul_zero, Nat.toList_repr, Nat.ofDigitChars_ten_toDigits]

theorem readMagnitude_seconds (whole : Nat) {millis : Nat} (h : millis < 1000) :
    readMagnitude (whole.repr.toList ++ '.' :: (zeroPad3 millis).toList) =
      some ((whole : ℚ) + millis / 1000) := by
  obtain ⟨hlength, hmillis⟩ := zeroPad3_natCast h
  have hdigits : ∀ c ∈ whole.repr.toList, c.isDigit = true := fun c hc => isDigit_of_mem_repr hc
  have hdrop : (whole.repr.toList ++ '.' :: (zeroPad3 millis).toList).dropWhile Char.isDigit =
      '.' :: (zeroPad3 millis).toList := by
    rw [List.dropWhile_append_of_pos hdigits]
    rfl
  have htake : (whole.repr.toList ++ '.' :: (zeroPad3 millis).toList).takeWhile Char.isDigit =
      whole.repr.toList := by
    rw [List.takeWhile_append_of_pos hdigits]
    simp [List.takeWhile]
  rw [readMagnitude, hdrop, htake, readNat_repr]
  simp only [Option.bind_some, hmillis, Option.map_some, hlength]
  norm_num

end Reading

/-! ## When a time is exact -/

/-- What `timeText` writes if nothing overflows. -/
def secondsText (ms : Int) : String :=
  toString (ms.tdiv 1000) ++ "." ++ zeroPad3 (|ms|.tmod 1000)

theorem timeText_yields {ms : Int} (hms : IsSigned 63 ms) {P : String → Prop} :
    (timeText ms).Yields P ↔ ms ≠ -2 ^ 63 ∧ P (secondsText ms) := by
  obtain ⟨hlow, hhigh⟩ := hms
  have hnat : |ms| = (ms.natAbs : Int) := Int.abs_eq_natAbs ms
  have hdiv : IsSigned 63 (ms.tdiv 1000) := by
    have hsize : (ms.tdiv 1000).natAbs = ms.natAbs / 1000 := Int.natAbs_tdiv ms 1000
    constructor <;> omega
  have habs : IsSigned 63 |ms| ↔ ms ≠ -2 ^ 63 := by
    rw [hnat, IsSigned]
    omega
  have hmod : IsSigned 63 (|ms|.tmod 1000) := by
    have hsize : (|ms|.tmod 1000).natAbs = |ms|.natAbs % 1000 := Int.natAbs_tmod |ms| 1000
    constructor <;> omega
  rw [timeText, Overflowing.yields_bind, signed_yields, Overflowing.yields_bind, signed_yields,
    Overflowing.yields_bind, signed_yields, Overflowing.yields_pure, habs]
  constructor
  · rintro ⟨-, hne, -, hP⟩
    exact ⟨hne, hP⟩
  · rintro ⟨hne, hP⟩
    exact ⟨hdiv, hne, hmod, hP⟩

theorem tdiv_thousand (ms : Int) : ms.tdiv 1000 =
    if ms ≤ -1000 then -((ms.natAbs / 1000 : Nat) : Int) else ((ms.natAbs / 1000 : Nat) : Int) := by
  by_cases hms : 0 ≤ ms
  · rw [Int.tdiv_eq_ediv_of_nonneg hms]
    omega
  · have hneg : ms.tdiv 1000 = -((-ms) / 1000) := by
      rw [← Int.tdiv_eq_ediv_of_nonneg (by omega), Int.neg_tdiv, Int.neg_neg]
    omega

/-- A time has a sign if its whole seconds have one. -/
theorem toList_secondsText (ms : Int) :
    (secondsText ms).toList = (if ms ≤ -1000 then ['-'] else []) ++
      ((ms.natAbs / 1000).repr.toList ++ '.' :: (zeroPad3 (ms.natAbs % 1000 : Nat)).toList) := by
  have hmillis : |ms|.tmod 1000 = ((ms.natAbs % 1000 : Nat) : Int) := by
    rw [Int.abs_eq_natAbs]
    exact (Int.ofNat_tmod ms.natAbs 1000).symm
  have hminus : "-".toList = ['-'] := rfl
  have hdot : ".".toList = ['.'] := rfl
  rw [secondsText, hmillis, String.toList_append, String.toList_append, hdot, tdiv_thousand,
    Int.toString_eq_repr, Int.repr_eq_if]
  by_cases hneg : ms ≤ -1000
  · have hwhole : (-(-((ms.natAbs / 1000 : Nat) : Int))).toNat = ms.natAbs / 1000 := by omega
    rw [if_pos hneg, if_pos hneg, if_neg (by omega), hwhole, String.toList_append, hminus]
    simp only [List.append_assoc, List.cons_append, List.nil_append]
  · rw [if_neg hneg, if_neg hneg, if_pos (by omega), Int.toNat_natCast]
    simp only [List.append_assoc, List.cons_append, List.nil_append]

/-- In the last second before the epoch the whole seconds are zero, which has no sign. -/
theorem readDecimal_secondsText_iff (ms : Int) :
    readDecimal (secondsText ms) = some ((ms : ℚ) / 1000) ↔ ¬ (-1000 < ms ∧ ms < 0) := by
  have hvalue : ((ms.natAbs / 1000 : Nat) : ℚ) + (ms.natAbs % 1000 : Nat) / 1000 =
      (ms.natAbs : ℚ) / 1000 := by
    have hsplit : ((1000 * (ms.natAbs / 1000) + ms.natAbs % 1000 : Nat) : ℚ) = ms.natAbs := by
      rw [Nat.div_add_mod]
    rw [← hsplit]
    push_cast
    ring
  have hmillis : ms.natAbs % 1000 < 1000 := Nat.mod_lt ms.natAbs (by decide)
  have hread := readMagnitude_seconds (ms.natAbs / 1000) hmillis
  rw [hvalue] at hread
  by_cases hneg : ms ≤ -1000
  · have habs : ((ms.natAbs : Int) : ℚ) = ((-ms : Int) : ℚ) := by
      congr 1
      omega
    have hms : -((ms.natAbs : ℚ) / 1000) = (ms : ℚ) / 1000 := by
      rw [← Int.cast_natCast, habs]
      push_cast
      ring
    rw [readDecimal, toList_secondsText, if_pos hneg, List.singleton_append, List.head?_cons,
      if_pos rfl, List.tail_cons, hread, Option.map_some, hms]
    exact iff_of_true rfl (by omega)
  · have hhead : ((ms.natAbs / 1000).repr.toList ++
        '.' :: (zeroPad3 (ms.natAbs % 1000 : Nat)).toList).head? ≠ some '-' := by
      intro hminus
      cases hdigits : (ms.natAbs / 1000).repr.toList with
      | nil =>
        rw [hdigits] at hminus
        cases hminus
      | cons c cs =>
        rw [hdigits] at hminus
        cases hminus
        exact absurd (isDigit_of_mem_repr (hdigits ▸ List.mem_cons_self)) (by decide)
    rw [readDecimal, toList_secondsText, if_neg hneg, List.nil_append, if_neg hhead, hread,
      Option.some_inj, div_left_inj' (by norm_num)]
    constructor
    · rintro hsame ⟨-, hlt⟩
      have hint : ((ms.natAbs : Int) : ℚ) = ms := hsame
      have hnat : (ms.natAbs : Int) = ms := by exact_mod_cast hint
      omega
    · intro hnot
      have hnat : (ms.natAbs : Int) = ms := by omega
      exact congrArg (fun n : Int => (n : ℚ)) hnat

/-! ## When a query is exact -/

section Exact

variable {organizationId : Uuid} {query : RangeQuery}

/-- What `rangeParams` sends if nothing overflows. -/
def sentParams (organizationId : Uuid) (query : RangeQuery) : List (String × String) :=
  [("query", promqlSelector organizationId query), ("start", secondsText query.startMs),
    ("end", secondsText query.endMs),
    ("step", toString (max (((max (query.endMs - query.startMs) 0).tdiv 1000).tdiv 360) 15) ++ "s")]

theorem lookup_start :
    (sentParams organizationId query).lookup "start" = some (secondsText query.startMs) := rfl

theorem lookup_end :
    (sentParams organizationId query).lookup "end" = some (secondsText query.endMs) := rfl

theorem rangeParams_yields (hstart : IsSigned 63 query.startMs) (hend : IsSigned 63 query.endMs)
    {P : List (String × String) → Prop} :
    (rangeParams organizationId query).Yields P ↔
      IsSigned 63 (query.endMs - query.startMs) ∧ query.startMs ≠ -2 ^ 63 ∧
        query.endMs ≠ -2 ^ 63 ∧ P (sentParams organizationId query) := by
  rw [rangeParams]
  simp only [Overflowing.yields_bind, signed_yields, timeText_yields hstart, timeText_yields hend,
    Overflowing.yields_pure]
  constructor
  · rintro ⟨hwindow, -, -, hs, he, hP⟩
    exact ⟨hwindow, hs, he, hP⟩
  · rintro ⟨hwindow, hs, he, hP⟩
    have hsecs : IsSigned 63 ((max (query.endMs - query.startMs) 0).tdiv 1000) := by
      rw [Int.tdiv_eq_ediv_of_nonneg (by omega)]
      obtain ⟨hlow, hhigh⟩ := hwindow
      constructor <;> omega
    have hstep : IsSigned 63 (((max (query.endMs - query.startMs) 0).tdiv 1000).tdiv 360) := by
      rw [Int.tdiv_eq_ediv_of_nonneg (Int.tdiv_nonneg (by omega) (by decide))]
      obtain ⟨hlow, hhigh⟩ := hsecs
      constructor <;> omega
    exact ⟨hwindow, hsecs, hstep, hs, he, hP⟩

/-- A time that is sent as it is. The least one has no absolute value. -/
def IsSentExactly (ms : Int) : Prop := ms ≠ -2 ^ 63 ∧ ¬ (-1000 < ms ∧ ms < 0)

instance : DecidablePred IsSentExactly := fun _ => inferInstanceAs (Decidable (_ ∧ _))

theorem timesExact_iff (hstart : IsSigned 63 query.startMs) (hend : IsSigned 63 query.endMs) :
    TimesExact organizationId query ↔ IsSigned 63 (query.endMs - query.startMs) ∧
      IsSentExactly query.startMs ∧ IsSentExactly query.endMs := by
  rw [TimesExact, rangeParams_yields hstart hend, lookup_start, lookup_end, Option.bind_some,
    Option.bind_some, readDecimal_secondsText_iff, readDecimal_secondsText_iff]
  constructor
  · rintro ⟨hwindow, hs, he, hsigned, hsigned'⟩
    exact ⟨hwindow, ⟨hs, hsigned⟩, he, hsigned'⟩
  · rintro ⟨hwindow, ⟨hs, hsigned⟩, he, hsigned'⟩
    exact ⟨hwindow, hs, he, hsigned, hsigned'⟩

end Exact

/-- For all times: they are sent exactly iff their distance is a 64-bit number and neither is
the least one or falls into the last second before the epoch. -/
theorem query_range_times_exact_iff (organizationId : Uuid) (metric : String)
    (labelEq : List Label) (startMs endMs : Int64) :
    TimesExact organizationId ⟨metric, labelEq, startMs.toInt, endMs.toInt⟩ ↔
      IsSigned 63 (endMs.toInt - startMs.toInt) ∧ IsSentExactly startMs.toInt ∧
        IsSentExactly endMs.toInt :=
  timesExact_iff ⟨startMs.le_toInt, startMs.toInt_lt⟩ ⟨endMs.le_toInt, endMs.toInt_lt⟩

/-- Half a second before the epoch is sent as half a second after it. -/
theorem not_query_range_times_exact :
    ¬ ∀ (organizationId : Uuid) (metric : String) (labelEq : List Label) (startMs endMs : Int64),
      TimesExact organizationId ⟨metric, labelEq, startMs.toInt, endMs.toInt⟩ := by
  intro h
  have hsent := (timesExact_iff (by decide) (by decide)).mp (h 7 "up" [] (-500) 0)
  have hstart : ¬ IsSentExactly (-500 : Int64).toInt := by decide
  exact hstart hsent.2.1

end Kubinate.Observability
