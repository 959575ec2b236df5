import Kubinate.Platform.Types
import Mathlib.Data.List.Induction

/-!
# The rate limiter

`RateLimiter` of `crates/api/src/rate_limit.rs`: a queue of admission times for every key, pruned
from the front at each call. Instants are nanoseconds since the origin of the clock; before one
window has passed, `checked_sub` finds no instant to prune up to, and the code takes `now`.

* `run_state`: what is in the queues after any sequence of calls with non-decreasing instants.
* `admits_iff`: the decision at each call, in terms of the calls before it.
* `enforces_window_iff`: it is the exact sliding window if and only if no call that this window
  turns away needs an admission that has been forgotten.
-/

namespace Kubinate.Api

open Platform

/-- `Instant::checked_sub`. -/
def checkedSub (now window : Nat) : Option Nat := if window ≤ now then some (now - window) else none

structure RateLimiter where
  window : Nat
  maxPerWindow : Nat
  state : Uuid → List Nat

namespace RateLimiter

def new (maxPerWindow window : Nat) : RateLimiter := ⟨window, maxPerWindow, fun _ => []⟩

/-- What is older is pruned. -/
def cutoff (window now : Nat) : Nat := (checkedSub now window).getD now

/-- The queue of the key, pruned. -/
def entry (limiter : RateLimiter) (key : Uuid) (now : Nat) : List Nat :=
  (limiter.state key).dropWhile (· < cutoff limiter.window now)

def checkAt (limiter : RateLimiter) (key : Uuid) (now : Nat) : RateLimiter × Bool :=
  let entry := limiter.entry key now
  if limiter.maxPerWindow ≤ entry.length then
    ({ limiter with state := Function.update limiter.state key entry }, false)
  else
    ({ limiter with state := Function.update limiter.state key (entry ++ [now]) }, true)

variable (limiter : RateLimiter) (key : Uuid) (now : Nat)

theorem checkAt_ok : (limiter.checkAt key now).2 =
    decide ((limiter.entry key now).length < limiter.maxPerWindow) := by
  unfold checkAt
  dsimp only
  split
  · next hfull => exact (decide_eq_false (Nat.not_lt.mpr hfull)).symm
  · next hroom => exact (decide_eq_true (Nat.lt_of_not_le hroom)).symm

theorem checkAt_limiter : (limiter.checkAt key now).1 =
    { limiter with
      state := Function.update limiter.state key
        (limiter.entry key now ++ if (limiter.checkAt key now).2 then [now] else []) } := by
  unfold checkAt
  dsimp only
  split
  · rw [if_neg Bool.false_ne_true, List.append_nil]
  · rw [if_pos rfl]

end RateLimiter

/-- One call of `check_at`. -/
structure Check where
  key : Uuid
  now : Nat
deriving DecidableEq, Repr

/-- The instants do not decrease. -/
def InOrder (calls : List Check) : Prop := calls.Pairwise fun a b => a.now ≤ b.now

variable (max window : Nat)

/-- The limiter after the calls, and those of them that were admitted. -/
def run (calls : List Check) : RateLimiter × List Check :=
  calls.foldl (fun (limiter, admitted) c =>
    let (limiter', ok) := limiter.checkAt c.key c.now
    (limiter', if ok then admitted ++ [c] else admitted)) (.new max window, [])

/-- The answer to the call after these calls. -/
def admits (calls : List Check) (c : Check) : Bool :=
  ((run max window calls).1.checkAt c.key c.now).2

/-- How many of the admitted calls for the key of `c` have times within the window of `c`. -/
def inWindow (admitted : List Check) (c : Check) : Nat :=
  admitted.countP fun e => e.key == c.key && decide (c.now ≤ e.now + window)

/-- The calls that an exact sliding window admits. -/
def slidingWindow (calls : List Check) : List Check :=
  calls.foldl (fun admitted c =>
    if inWindow window admitted c < max then admitted ++ [c] else admitted) []

/-- No call for the key less than one window after the origin is later than `t`. -/
def remembered (calls : List Check) (key : Uuid) (t : Nat) : Bool :=
  calls.all fun e => !(e.key == key && decide (e.now < window)) || decide (e.now ≤ t)

/-- How many admitted calls within the window of `c` have not been pruned before their time. -/
def inMemory (admitted calls : List Check) (c : Check) : Nat :=
  admitted.countP fun e => e.key == c.key && decide (c.now ≤ e.now + window) &&
    remembered window (calls ++ [c]) c.key e.now

/-- Where an exact sliding window turns the call away, enough of what it counts is remembered. -/
def RemembersEnough (calls : List Check) (c : Check) : Prop :=
  max ≤ inWindow window (slidingWindow max window calls) c →
    max ≤ inMemory window (slidingWindow max window calls) calls c

/-! ## The queues -/

section Queues

variable {max window}

theorem run_concat (calls : List Check) (c : Check) :
    run max window (calls ++ [c]) =
      (((run max window calls).1.checkAt c.key c.now).1,
        if admits max window calls c then (run max window calls).2 ++ [c]
        else (run max window calls).2) := by
  rw [run, List.foldl_append]
  rfl

/-- The settings never change. -/
theorem run_settings (calls : List Check) :
    (run max window calls).1.window = window ∧ (run max window calls).1.maxPerWindow = max := by
  induction calls using List.reverseRecOn with
  | nil => exact ⟨rfl, rfl⟩
  | append_singleton calls c ih =>
    rw [run_concat, RateLimiter.checkAt_limiter]
    exact ih

theorem admitted_sublist (calls : List Check) : (run max window calls).2.Sublist calls := by
  induction calls using List.reverseRecOn with
  | nil => exact .slnil
  | append_singleton calls c ih =>
    rw [run_concat]
    dsimp only
    split
    · exact ih.append (.refl [c])
    · exact ih.trans (List.sublist_append_left calls [c])

/-- The admission times of a key, oldest first. -/
def times (admitted : List Check) (key : Uuid) : List Nat :=
  (admitted.filter (·.key == key)).map (·.now)

/-- The calls for the key have pruned nothing from `t` on. -/
def kept (window : Nat) (calls : List Check) (key : Uuid) (t : Nat) : Bool :=
  calls.all fun e => !(e.key == key) || decide (RateLimiter.cutoff window e.now ≤ t)

theorem times_sorted {calls : List Check} (h : InOrder calls) (key : Uuid) :
    (times (run max window calls).2 key).Pairwise (· ≤ ·) := by
  rw [times, List.pairwise_map]
  exact (h.sublist (admitted_sublist calls)).sublist List.filter_sublist

theorem times_concat (admitted : List Check) (c : Check) (key : Uuid) :
    times (admitted ++ [c]) key = times admitted key ++ if c.key = key then [c.now] else [] := by
  rw [times, List.filter_append, List.map_append]
  by_cases hkey : c.key = key
  · rw [if_pos hkey, List.filter_cons, if_pos (beq_iff_eq.mpr hkey)]
    rfl
  · rw [if_neg hkey, List.filter_cons, if_neg (mt beq_iff_eq.mp hkey)]
    rfl

/-- In a sorted list, pruning from the front prunes everything that is too old. -/
theorem dropWhile_eq_filter {l : List Nat} (h : l.Pairwise (· ≤ ·)) (c : Nat) :
    l.dropWhile (· < c) = l.filter (c ≤ ·) := by
  induction l with
  | nil => rfl
  | cons a l ih =>
    obtain ⟨hfirst, hrest⟩ := List.pairwise_cons.mp h
    by_cases ha : a < c
    · have hdrop := ih hrest
      simpa [List.dropWhile_cons, ha] using hdrop
    · have hkeep : ∀ b ∈ l, c ≤ b := fun b hb => (Nat.le_of_not_lt ha).trans (hfirst b hb)
      have hself : l.filter (c ≤ ·) = l :=
        List.filter_eq_self.mpr fun b hb => decide_eq_true (hkeep b hb)
      simpa [List.dropWhile_cons, Nat.le_of_not_lt ha] using hself.symm

theorem cutoff_le (window now : Nat) : RateLimiter.cutoff window now ≤ now := by
  unfold RateLimiter.cutoff checkedSub
  split
  · exact Nat.sub_le now window
  · exact le_rfl

theorem kept_concat (calls : List Check) (c : Check) (key : Uuid) (t : Nat) :
    kept window (calls ++ [c]) key t =
      (kept window calls key t &&
        (!(c.key == key) || decide (RateLimiter.cutoff window c.now ≤ t))) := by
  rw [kept, List.all_append, List.all_cons, List.all_nil, Bool.and_true]
  rfl

/-- What has just been admitted has not been pruned. -/
theorem kept_now {calls : List Check} {c : Check} (h : InOrder (calls ++ [c])) (key : Uuid) :
    kept window (calls ++ [c]) key c.now = true := by
  obtain ⟨-, -, hlast⟩ := List.pairwise_append.mp h
  refine List.all_eq_true.mpr fun e he => Bool.or_eq_true_iff.mpr (.inr (decide_eq_true ?_))
  have hle : e.now ≤ c.now := by
    rcases List.mem_append.mp he with he | he
    · exact hlast e he c (List.mem_singleton_self c)
    · rw [List.mem_singleton.mp he]
  exact (cutoff_le window e.now).trans hle

/-- What is left of a queue once a call for its key has pruned it. -/
theorem entry_eq {calls : List Check} (h : InOrder calls) (c : Check)
    (hstate : (run max window calls).1.state c.key =
      (times (run max window calls).2 c.key).filter (kept window calls c.key)) :
    (run max window calls).1.entry c.key c.now =
      (times (run max window calls).2 c.key).filter (kept window (calls ++ [c]) c.key) := by
  have hsorted : ((times (run max window calls).2 c.key).filter
      (kept window calls c.key)).Pairwise (· ≤ ·) :=
    (times_sorted h c.key).sublist List.filter_sublist
  rw [RateLimiter.entry, hstate, (run_settings calls).1, dropWhile_eq_filter hsorted,
    List.filter_filter]
  apply List.filter_congr
  intro t _
  rw [kept_concat, beq_self_eq_true, Bool.not_true, Bool.false_or, Bool.and_comm]

/-- The queue of a key holds the admission times that no call for the key has pruned. -/
theorem run_state {calls : List Check} (h : InOrder calls) (key : Uuid) :
    (run max window calls).1.state key =
      (times (run max window calls).2 key).filter (kept window calls key) := by
  induction calls using List.reverseRecOn with
  | nil => rfl
  | append_singleton calls c ih =>
    have hcalls : InOrder calls := (List.pairwise_append.mp h).1
    have hstate := ih hcalls
    rw [run_concat, RateLimiter.checkAt_limiter]
    dsimp only
    by_cases hkey : c.key = key
    · subst hkey
      rw [Function.update_self, entry_eq hcalls c hstate]
      change _ ++ (if admits max window calls c then _ else _) = _
      by_cases hok : admits max window calls c
      · rw [if_pos hok, if_pos hok, times_concat, if_pos rfl, List.filter_append,
          List.filter_cons_of_pos (kept_now h c.key)]
        rfl
      · rw [if_neg hok, if_neg hok, List.append_nil]
    · have htimes : times (if admits max window calls c then (run max window calls).2 ++ [c]
          else (run max window calls).2) key = times (run max window calls).2 key := by
        split
        · rw [times_concat, if_neg hkey, List.append_nil]
        · rfl
      rw [Function.update_of_ne (Ne.symm hkey), hstate, htimes]
      apply List.filter_congr
      intro t _
      have hother : (c.key == key) = false := beq_eq_false_iff_ne.mpr hkey
      rw [kept_concat, hother, Bool.not_false, Bool.true_or, Bool.and_true]

/-! ## The decision at each call -/

/-- What is within the window and was not pruned before its time. -/
theorem kept_iff {calls : List Check} {c : Check} (h : InOrder (calls ++ [c])) (t : Nat) :
    kept window (calls ++ [c]) c.key t =
      (decide (c.now ≤ t + window) && remembered window (calls ++ [c]) c.key t) := by
  obtain ⟨-, -, hlast⟩ := List.pairwise_append.mp h
  have hle : ∀ e ∈ calls ++ [c], e.now ≤ c.now := fun e he => by
    rcases List.mem_append.mp he with he | he
    · exact hlast e he c (List.mem_singleton_self c)
    · rw [List.mem_singleton.mp he]
  have hself : c ∈ calls ++ [c] := List.mem_append_right calls (List.mem_singleton_self c)
  apply Bool.eq_iff_iff.mpr
  simp only [kept, remembered, RateLimiter.cutoff, checkedSub, List.all_eq_true, Bool.and_eq_true,
    Bool.or_eq_true, Bool.not_eq_true', beq_eq_false_iff_ne, ne_eq, decide_eq_true_iff,
    Bool.and_eq_false_iff, decide_eq_false_iff_not]
  constructor
  · intro hkept
    have hcutoff : ∀ e ∈ calls ++ [c], e.key = c.key →
        (if window ≤ e.now then some (e.now - window) else none).getD e.now ≤ t :=
      fun e he hkey => of_decide_eq_true ((hkept e he).resolve_left (not_not.mpr hkey))
    refine ⟨?_, fun e he => ?_⟩
    · have hc := hcutoff c hself rfl
      split at hc
      · exact Nat.sub_le_iff_le_add.mp hc
      · exact hc.trans (Nat.le_add_right t window)
    · by_cases hkey : e.key = c.key
      · by_cases hearly : e.now < window
        · have he' := hcutoff e he hkey
          rw [if_neg (Nat.not_le.mpr hearly)] at he'
          exact .inr he'
        · exact .inl (.inr hearly)
      · exact .inl (.inl hkey)
  · rintro ⟨hwindow, hremembered⟩ e he
    by_cases hkey : e.key = c.key
    · right
      apply decide_eq_true
      split
      · have hnow := hle e he
        change e.now - window ≤ t
        omega
      · next hearly =>
        rcases hremembered e he with (hother | hlate) | ht
        · exact absurd hkey hother
        · exact absurd (Nat.lt_of_not_le hearly) hlate
        · exact ht
    · exact .inl hkey

/-- A call is admitted while fewer than `max` admissions are within its window and remembered. -/
theorem admits_iff {calls : List Check} {c : Check} (h : InOrder (calls ++ [c])) :
    admits max window calls c = true ↔
      inMemory window (run max window calls).2 calls c < max := by
  have hcalls : InOrder calls := (List.pairwise_append.mp h).1
  have hcount : ((run max window calls).1.entry c.key c.now).length =
      inMemory window (run max window calls).2 calls c := by
    rw [entry_eq hcalls c (run_state hcalls c.key), ← List.countP_eq_length_filter, times,
      List.countP_map, List.countP_filter, inMemory]
    apply List.countP_congr
    intro e _
    rw [Function.comp_apply, kept_iff h, Bool.and_comm, Bool.and_assoc]
  rw [admits, RateLimiter.checkAt_ok, decide_eq_true_iff, hcount, (run_settings calls).2]

/-- What is remembered is a part of what is within the window. -/
theorem inMemory_le (admitted calls : List Check) (c : Check) :
    inMemory window admitted calls c ≤ inWindow window admitted c := by
  apply List.countP_mono_left
  intro e _ he
  exact (Bool.and_eq_true_iff.mp he).1

/-- The queue of a key depends on the calls for the key only. -/
theorem run_filter (calls : List Check) (key : Uuid) :
    (run max window (calls.filter (·.key == key))).1.state key =
      (run max window calls).1.state key := by
  induction calls using List.reverseRecOn with
  | nil => rfl
  | append_singleton calls c ih =>
    have hsettings := @run_settings max window calls
    have hsettings' := @run_settings max window (calls.filter (·.key == key))
    rw [List.filter_append]
    by_cases hkey : c.key = key
    · subst hkey
      have hentry : (run max window (calls.filter (·.key == c.key))).1.entry c.key c.now =
          (run max window calls).1.entry c.key c.now := by
        rw [RateLimiter.entry, RateLimiter.entry, ih, hsettings.1, hsettings'.1]
      rw [List.filter_cons, if_pos (beq_self_eq_true c.key), List.filter_nil, run_concat,
        run_concat, RateLimiter.checkAt_limiter, RateLimiter.checkAt_limiter,
        RateLimiter.checkAt_ok, RateLimiter.checkAt_ok]
      dsimp only
      rw [Function.update_self, Function.update_self, hentry, hsettings.2, hsettings'.2]
    · rw [List.filter_cons, if_neg (mt beq_iff_eq.mp hkey), List.filter_nil, List.append_nil,
        run_concat, RateLimiter.checkAt_limiter]
      dsimp only
      rw [Function.update_of_ne (Ne.symm hkey), ih]

/-- Calls for one key never affect another. -/
theorem admits_filter (calls : List Check) (c : Check) :
    admits max window (calls.filter (·.key == c.key)) c = admits max window calls c := by
  rw [admits, admits, RateLimiter.checkAt_ok, RateLimiter.checkAt_ok, RateLimiter.entry,
    RateLimiter.entry, run_filter, (run_settings calls).1, (run_settings calls).2,
    (run_settings _).1, (run_settings _).2]

/-! ## The exact sliding window -/

theorem slidingWindow_concat (calls : List Check) (c : Check) :
    slidingWindow max window (calls ++ [c]) =
      if inWindow window (slidingWindow max window calls) c < max
      then slidingWindow max window calls ++ [c] else slidingWindow max window calls := by
  rw [slidingWindow, List.foldl_append]
  rfl

/-- The code decides like the window as long as it decides by what is within the window. -/
theorem run_eq_slidingWindow (calls : List Check) (h : ∀ pre c post, calls = pre ++ c :: post →
      (run max window pre).2 = slidingWindow max window pre →
      (admits max window pre c = true ↔ inWindow window (run max window pre).2 c < max)) :
    (run max window calls).2 = slidingWindow max window calls := by
  induction calls using List.reverseRecOn with
  | nil => rfl
  | append_singleton calls c ih =>
    have hcalls : (run max window calls).2 = slidingWindow max window calls :=
      ih fun pre e post hpre => h pre e (post ++ [c]) (by rw [hpre, List.append_assoc]; rfl)
    have hlast := h calls c [] rfl hcalls
    rw [run_concat, slidingWindow_concat]
    dsimp only
    rw [hcalls] at hlast ⊢
    by_cases hok : admits max window calls c = true
    · rw [if_pos hok, if_pos (hlast.mp hok)]
    · rw [if_neg hok, if_neg (mt hlast.mpr hok)]

end Queues

/-- Every call is admitted if and only if fewer than `max` admitted calls for its key are within
its window, whatever is called for other keys, if and only if enough is always remembered. -/
theorem enforces_window_iff (calls : List Check) (h : InOrder calls) :
    (∀ pre c post, calls = pre ++ c :: post →
      (admits max window pre c = true ↔ inWindow window (run max window pre).2 c < max) ∧
      admits max window (pre.filter (·.key == c.key)) c = admits max window pre c) ↔
    ∀ pre c post, calls = pre ++ c :: post → RemembersEnough max window pre c := by
  have horder : ∀ pre c post, calls = pre ++ c :: post → InOrder (pre ++ [c]) := by
    rintro pre c post rfl
    rw [← List.singleton_append, ← List.append_assoc] at h
    exact (List.pairwise_append.mp h).1
  constructor
  · intro hexact pre c post hcalls hfull
    have hpre : (run max window pre).2 = slidingWindow max window pre :=
      run_eq_slidingWindow pre fun pre' c' post' hpre' _ =>
        (hexact pre' c' (post' ++ c :: post) (by rw [hcalls, hpre', List.append_assoc]; rfl)).1
    have hdecision := (hexact pre c post hcalls).1
    rw [admits_iff (horder pre c post hcalls), hpre] at hdecision
    exact Nat.le_of_not_lt (mt hdecision.mp (Nat.not_lt.mpr hfull))
  · intro henough
    have hdecision : ∀ pre c post, calls = pre ++ c :: post →
        (run max window pre).2 = slidingWindow max window pre →
        (admits max window pre c = true ↔ inWindow window (run max window pre).2 c < max) := by
      intro pre c post hcalls hpre
      have hc := henough pre c post hcalls
      rw [RemembersEnough, ← hpre] at hc
      rw [admits_iff (horder pre c post hcalls)]
      constructor
      · intro hroom
        exact Nat.lt_of_not_le fun hfull => Nat.not_lt.mpr (hc hfull) hroom
      · exact (inMemory_le _ _ c).trans_lt
    intro pre c post hcalls
    have hpre : (run max window pre).2 = slidingWindow max window pre :=
      run_eq_slidingWindow pre fun pre' c' post' hpre' =>
        hdecision pre' c' (post' ++ c :: post) (by rw [hcalls, hpre', List.append_assoc]; rfl)
    exact ⟨hdecision pre c post hcalls hpre, admits_filter pre c⟩

/-- Three calls for one key, at the limit of the window, after one window of the clock. -/
def settledCalls : List Check := [⟨1, 100⟩, ⟨1, 160⟩, ⟨2, 160⟩, ⟨1, 161⟩]

theorem enforces_window_iff_settledCalls :
    InOrder settledCalls ∧
    ((∀ pre c post, settledCalls = pre ++ c :: post →
      (admits 1 60 pre c = true ↔ inWindow 60 (run 1 60 pre).2 c < 1) ∧
      admits 1 60 (pre.filter (·.key == c.key)) c = admits 1 60 pre c) ↔
    ∀ pre c post, settledCalls = pre ++ c :: post → RemembersEnough 1 60 pre c) :=
  have horder : InOrder settledCalls := by
    unfold InOrder
    decide
  ⟨horder, enforces_window_iff 1 60 settledCalls horder⟩

/-- One call in sixty nanoseconds is allowed, and two are admitted right after the origin. -/
theorem early_calls_both_admitted :
    InOrder [⟨1, 1⟩, ⟨1, 2⟩] ∧
    ¬ (admits 1 60 [⟨1, 1⟩] ⟨1, 2⟩ = true ↔ inWindow 60 (run 1 60 [⟨1, 1⟩]).2 ⟨1, 2⟩ < 1) := by
  constructor
  · unfold InOrder
    decide
  · decide

end Kubinate.Api
