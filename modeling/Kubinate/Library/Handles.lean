import Mathlib.Data.List.Basic

/-!
# Handles

What a program gets from its environment and has to give back: timers, connections. A handle
that was made is live until it is released.

* `Handles.Only`: at most one handle is live, the one that the program remembers.
* `Only.create`, `Only.release`: what making and releasing keep of it.
-/

namespace Kubinate.Library

/-- The handles that were made, oldest first, and whether they are live. -/
structure Handles (α : Type) where
  made : List (α × Bool) := []

namespace Handles

variable {α : Type} (h : Handles α)

/-- What a live handle was made for. -/
def live (k : Nat) : Option α :=
  (h.made[k]?).bind fun (a, isLive) => if isLive then some a else none

def create (a : α) : Handles α := ⟨h.made ++ [(a, true)]⟩

def release (k : Nat) : Handles α := ⟨h.made.modify k fun (a, _) => (a, false)⟩

/-- Releases the handle that is remembered, if there is one. -/
def releaseCurrent : Option Nat → Handles α
  | none => h
  | some k => h.release k

variable {h} {a : α} {k : Nat} {current : Option Nat}

@[simp] theorem live_empty : ({} : Handles α).live k = none := by simp [live]

@[simp] theorem live_create_self : (h.create a).live h.made.length = some a := by
  simp [live, create]

theorem live_create (hk : k ≠ h.made.length) : (h.create a).live k = h.live k := by
  rw [live, live, create]
  rcases Nat.lt_trichotomy k h.made.length with hlt | heq | hgt
  · rw [List.getElem?_append_left hlt]
  · exact absurd heq hk
  · rw [List.getElem?_eq_none (by simp; omega), List.getElem?_eq_none (by omega)]

@[simp] theorem live_release_self : (h.release k).live k = none := by
  simp only [live, release, List.getElem?_modify_eq]
  cases h.made[k]? <;> simp

theorem live_release {j : Nat} (hj : j ≠ k) : (h.release k).live j = h.live j := by
  simp [live, release, hj.symm]

theorem length_release : (h.release k).made.length = h.made.length := List.length_modify ..

theorem length_releaseCurrent : (h.releaseCurrent current).made.length = h.made.length := by
  cases current with
  | none => rfl
  | some k => exact length_release

variable (h) in
/-- The only live handle is the one that is remembered. -/
def Only (current : Option Nat) : Prop := ∀ k, (h.live k).isSome = true ↔ current = some k

theorem only_empty : ({} : Handles α).Only none := fun k => by simp

/-- With nothing remembered a new handle is the only one. -/
theorem Only.create (ho : h.Only none) : (h.create a).Only (some h.made.length) := by
  intro k
  by_cases hk : k = h.made.length
  · simp [hk]
  · rw [live_create hk]
    have hnot := ho k
    simp only [reduceCtorEq, iff_false] at hnot
    simp [hnot, Ne.symm hk]

theorem Only.release (ho : h.Only current) : (h.releaseCurrent current).Only none := by
  intro k
  cases current with
  | none => exact ho k
  | some j =>
    by_cases hk : k = j
    · simp [hk, releaseCurrent]
    · rw [releaseCurrent, live_release hk]
      have hiff := ho k
      simp only [Option.some.injEq, Ne.symm hk, iff_false] at hiff
      simp [hiff]

theorem Only.eq_of_live (ho : h.Only current) (hk : h.live k = some a) : current = some k :=
  (ho k).mp (hk ▸ rfl)

end Handles

end Kubinate.Library
