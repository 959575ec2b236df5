import Mathlib.Data.List.Basic

/-!
# Sequences of operations

Operations that run one after the other are a fold. `always step C s as` says that every
operation of `as` satisfies `C` in the state in which it starts, and `foldl_invariant` is
the induction over such a sequence.

A machine that answers requests has a step with an answer, and `answers` are its answers to
a sequence of requests. Two machines that start in related states and stay related answer
alike (`answers_eq_of_simulation`).
-/

namespace Kubinate.Library

variable {S A : Type} {step : S → A → S} {C : S → A → Bool}

/-- Every operation satisfies `C` in the state it starts in. -/
def always (step : S → A → S) (C : S → A → Bool) (s : S) : List A → Bool
  | [] => true
  | a :: as => C s a && always step C (step s a) as

theorem always_and {C D : S → A → Bool} {s : S} {as : List A} (hC : always step C s as = true)
    (hD : always step D s as = true) : always step (fun s a => C s a && D s a) s as = true := by
  induction as generalizing s with
  | nil => rfl
  | cons a as ih =>
    rw [always, Bool.and_eq_true] at hC hD
    rw [always, hC.1, hD.1, ih hC.2 hD.2]
    rfl

theorem foldl_invariant {Q : S → Prop}
    (hstep : ∀ s a, Q s → C s a = true → Q (step s a)) {s : S} {as : List A} (h0 : Q s)
    (hC : always step C s as = true) : Q (as.foldl step s) := by
  induction as generalizing s with
  | nil => exact h0
  | cons a as ih =>
    rw [always, Bool.and_eq_true] at hC
    exact ih (hstep s a h0 hC.1) hC.2

section Answers

variable {T O : Type} {serve : S → A → S × O} {serve' : T → A → T × O}

def answers (serve : S → A → S × O) (s : S) : List A → List O
  | [] => []
  | a :: as => (serve s a).2 :: answers serve (serve s a).1 as

/-- The relation may depend on the requests still to come. -/
theorem answers_eq_of_simulation {R : List A → S → T → Prop}
    (hstep : ∀ a as s t, R (a :: as) s t →
      (serve s a).2 = (serve' t a).2 ∧ R as (serve s a).1 (serve' t a).1)
    {as : List A} {s : S} {t : T} (h : R as s t) : answers serve s as = answers serve' t as := by
  induction as generalizing s t with
  | nil => rfl
  | cons a as ih =>
    obtain ⟨hanswer, hrest⟩ := hstep a as s t h
    rw [answers, answers, hanswer, ih hrest]

end Answers

end Kubinate.Library
