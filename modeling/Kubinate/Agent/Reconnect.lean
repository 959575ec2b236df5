import Kubinate.Agent.Session

/-!
# The reconnect loop of the agent

`run_connect_loop` of `agent/src/connect.rs` runs one session after the other. After one that
was closed it dials again at once; after one that failed it waits, and the bound of the wait
doubles with every failure in a row.

* `attempt_eq`: what the loop counts is the failures since the last session that was closed.
* `delays_le`: every wait of every run is within the bound for these failures, and within a
  minute.

The draws of the jitter are parameters: what is drawn for a ceiling is at most the ceiling.
-/

namespace Kubinate.Agent

/-- How `build_and_run` ends; a failure comes with what the jitter draws below a ceiling. -/
inductive Attempt where
  | ok
  | err (jitter : Nat → Nat)

def Attempt.isErr : Attempt → Bool
  | .ok => false
  | .err _ => true

/-- The bound of `backoff_delay`, in milliseconds. -/
def backoffCeilingMs (attempt : Nat) : Nat := min (500 * 2 ^ min attempt 7) 60000

/-- `saturating_add(1)` on 32 bits. -/
def nextAttempt (attempt : Nat) : Nat := min (attempt + 1) (2 ^ 32 - 1)

/-- The waits before the next dial, in milliseconds. -/
def runConnectLoop : Nat → List Attempt → List Nat
  | _, [] => []
  | _, .ok :: rest => 0 :: runConnectLoop 0 rest
  | attempt, .err jitter :: rest =>
    jitter (backoffCeilingMs attempt) :: runConnectLoop (nextAttempt attempt) rest

/-- The counter of the loop after these sessions. -/
def attemptAfter (attempt : Nat) : List Attempt → Nat
  | [] => attempt
  | .ok :: rest => attemptAfter 0 rest
  | .err _ :: rest => attemptAfter (nextAttempt attempt) rest

/-- How many sessions have failed since the last one that was closed. -/
def failuresInARow (earlier : List Attempt) : Nat := (earlier.reverse.takeWhile (·.isErr)).length

theorem failuresInARow_concat_ok (earlier : List Attempt) :
    failuresInARow (earlier ++ [.ok]) = 0 := by
  simp [failuresInARow, Attempt.isErr]

theorem failuresInARow_concat_err (earlier : List Attempt) (jitter : Nat → Nat) :
    failuresInARow (earlier ++ [.err jitter]) = failuresInARow earlier + 1 := by
  simp [failuresInARow, Attempt.isErr]

theorem attemptAfter_concat (attempt : Nat) (earlier : List Attempt) (r : Attempt) :
    attemptAfter attempt (earlier ++ [r]) = attemptAfter (attemptAfter attempt earlier) [r] := by
  induction earlier generalizing attempt with
  | nil => rfl
  | cons r' earlier ih =>
    cases r' with
    | ok => exact ih 0
    | err jitter => exact ih (nextAttempt attempt)

/-- The counter is the number of failures in a row, up to where it saturates. -/
theorem attempt_eq (earlier : List Attempt) :
    attemptAfter 0 earlier = min (failuresInARow earlier) (2 ^ 32 - 1) := by
  induction earlier using List.reverseRecOn with
  | nil => rfl
  | append_singleton earlier r ih =>
    rw [attemptAfter_concat, ih]
    cases r with
    | ok =>
      rw [failuresInARow_concat_ok]
      rfl
    | err jitter =>
      rw [failuresInARow_concat_err]
      simp only [attemptAfter, nextAttempt]
      omega

/-- Saturation comes long after the bound has stopped growing. -/
theorem backoffCeilingMs_min (n : Nat) :
    backoffCeilingMs (min n (2 ^ 32 - 1)) = backoffCeilingMs n := by
  have hmin : min (min n (2 ^ 32 - 1)) 7 = min n 7 := by omega
  rw [backoffCeilingMs, hmin, backoffCeilingMs]

theorem backoffCeilingMs_eq_of_le {n : Nat} (h : n ≤ 6) : backoffCeilingMs n = 500 * 2 ^ n := by
  have hpow : 2 ^ n ≤ 2 ^ 6 := Nat.pow_le_pow_right (by decide) h
  rw [backoffCeilingMs, Nat.min_eq_left (by omega : n ≤ 7)]
  omega

/-- The wait after a session is what the sessions before it say. -/
theorem runConnectLoop_getElem? (attempt : Nat) (earlier : List Attempt) (r : Attempt)
    (later : List Attempt) :
    (runConnectLoop attempt (earlier ++ r :: later))[earlier.length]? =
      match r with
      | .ok => some 0
      | .err jitter => some (jitter (backoffCeilingMs (attemptAfter attempt earlier))) := by
  induction earlier generalizing attempt with
  | nil => cases r <;> rfl
  | cons r' earlier ih =>
    cases r' with
    | ok => exact ih 0
    | err jitter => exact ih (nextAttempt attempt)

/-- In every run the agent dials again at once after a session that was closed. After one that
failed it waits a minute at most, and no more than half a second, doubled for each failure
directly before. -/
theorem delays_le (earlier : List Attempt) (r : Attempt) (later : List Attempt)
    (hjitter : ∀ jitter, r = .err jitter → ∀ ceiling, jitter ceiling ≤ ceiling) :
    ∃ delay, (runConnectLoop 0 (earlier ++ r :: later))[earlier.length]? = some delay ∧
      (r.isErr = false → delay = 0) ∧
      (failuresInARow earlier ≤ 6 → delay ≤ 500 * 2 ^ failuresInARow earlier) ∧
      delay ≤ 60000 := by
  rw [runConnectLoop_getElem?]
  cases r with
  | ok => exact ⟨0, rfl, fun _ => rfl, fun _ => Nat.zero_le _, Nat.zero_le _⟩
  | err jitter =>
    have hle := hjitter jitter rfl (backoffCeilingMs (failuresInARow earlier))
    refine ⟨_, rfl, by rintro ⟨⟩, ?_⟩
    rw [attempt_eq, backoffCeilingMs_min]
    refine ⟨fun hsix => ?_, ?_⟩
    · rwa [backoffCeilingMs_eq_of_le hsix] at hle ⊢
    · exact hle.trans (Nat.min_le_right _ _)

theorem delays_le_threeFailures :
    (∀ jitter, Attempt.err id = .err jitter → ∀ ceiling, jitter ceiling ≤ ceiling) ∧
      ∃ delay, (runConnectLoop 0 ([.err id, .ok, .err id, .err id] ++ .err id :: []))[4]? =
          some delay ∧
        ((Attempt.err id).isErr = false → delay = 0) ∧
        (failuresInARow [.err id, .ok, .err id, .err id] ≤ 6 →
          delay ≤ 500 * 2 ^ failuresInARow [.err id, .ok, .err id, .err id]) ∧
        delay ≤ 60000 := by
  have hjitter : ∀ jitter, Attempt.err id = .err jitter → ∀ ceiling, jitter ceiling ≤ ceiling := by
    rintro _ ⟨⟩ ceiling
    exact Nat.le_refl ceiling
  exact ⟨hjitter, delays_le [.err id, .ok, .err id, .err id] (.err id) [] hjitter⟩

end Kubinate.Agent
