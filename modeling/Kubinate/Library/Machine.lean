import Mathlib.Data.List.Basic

/-!
# Machines with guarded actions

A machine has actions that are possible in some states only. `after step s as` is the state
after the actions `as`, if each of them is possible where it comes.

* `after_invariant`: what every action keeps, every run keeps.
* `measure_add_length`: a run of actions that each take one off a measure is as long as what it
  has taken off.
-/

namespace Kubinate.Library

variable {S A : Type} {step : S → A → Option S} {s s' : S} {a : A} {as : List A}

/-- The state after the actions, or none where one of them is not possible. -/
def after (step : S → A → Option S) : S → List A → Option S
  | s, [] => some s
  | s, a :: as => (step s a).bind fun s' => after step s' as

theorem after_cons : after step s (a :: as) = (step s a).bind fun s' => after step s' as := rfl

theorem after_cons_eq_some :
    after step s (a :: as) = some s' ↔ ∃ m, step s a = some m ∧ after step m as = some s' := by
  rw [after_cons, Option.bind_eq_some_iff]

/-- What every action of a kind keeps, every run of such actions keeps. -/
theorem after_invariant {Q : S → Prop} {P : A → Prop}
    (hstep : ∀ s a s', Q s → P a → step s a = some s' → Q s') (h0 : Q s) (hP : ∀ a ∈ as, P a)
    (h : after step s as = some s') : Q s' := by
  induction as generalizing s with
  | nil =>
    cases h
    exact h0
  | cons a as ih =>
    obtain ⟨m, hm, h⟩ := after_cons_eq_some.mp h
    exact ih (hstep s a m h0 (hP a List.mem_cons_self) hm)
      (fun b hb => hP b (List.mem_cons_of_mem a hb)) h

section Measure

variable {Q : S → Prop} {P : A → Prop} {measure : S → Nat}

/-- No action of the kind is possible. -/
def Stuck (step : S → A → Option S) (P : A → Prop) (s : S) : Prop := ∀ a, P a → step s a = none

/-- Where each action takes one off the measure, a run takes off its length. -/
theorem measure_add_length
    (hstep : ∀ s a s', Q s → P a → step s a = some s' → Q s' ∧ measure s' + 1 = measure s)
    (h0 : Q s) (hP : ∀ a ∈ as, P a) (h : after step s as = some s') :
    Q s' ∧ measure s' + as.length = measure s := by
  induction as generalizing s with
  | nil =>
    cases h
    exact ⟨h0, rfl⟩
  | cons a as ih =>
    obtain ⟨m, hm, h⟩ := after_cons_eq_some.mp h
    obtain ⟨hQ, heq⟩ := hstep s a m h0 (hP a List.mem_cons_self) hm
    obtain ⟨hQ', heq'⟩ := ih hQ (fun b hb => hP b (List.mem_cons_of_mem a hb)) h
    refine ⟨hQ', ?_⟩
    rw [List.length_cons, ← heq, ← heq', Nat.add_assoc]

end Measure

end Kubinate.Library
