import Mathlib.Data.List.Basic

/-!
# A store with READ COMMITTED transactions

Transactions are numbered by whoever runs them. A transaction sees the committed data with
its own writes applied (`Store.view`), as of the moment of the statement; its writes reach
the others when it commits, all at once.

`Store` carries the fact that every pending write belongs to an open transaction, so a
store with no open transaction has no pending write.
-/

namespace Kubinate.Library

/-- How one statement goes: it is executed, it fails without effect, or it takes effect but
its reply is lost, which the caller cannot tell from a failure. -/
inductive Reply where
  | ok
  | failed
  | lost
deriving DecidableEq, Repr

structure Store (D Wr : Type) where
  committed : D
  opened : List Nat
  pending : List (Nat × Wr)
  owned : ∀ p ∈ pending, p.1 ∈ opened

namespace Store

variable {D Wr : Type}

def ofCommitted (d : D) : Store D Wr := ⟨d, [], [], by simp⟩

/-- The writes of transaction `i`, oldest first. -/
def own (s : Store D Wr) (i : Nat) : List Wr := (s.pending.filter (·.1 = i)).map (·.2)

/-- The writes of all other open transactions. -/
def others (s : Store D Wr) (i : Nat) : List Wr := (s.pending.filter (·.1 ≠ i)).map (·.2)

/-- What transaction `i` sees: the committed data with its own writes. -/
def view (apply : D → Wr → D) (s : Store D Wr) (i : Nat) : D := (s.own i).foldl apply s.committed

def begin (s : Store D Wr) (i : Nat) : Store D Wr :=
  { s with
    opened := s.opened ++ [i]
    owned := fun p hp => List.mem_append_left _ (s.owned p hp) }

/-- Only an open transaction can write. -/
def write (s : Store D Wr) (i : Nat) (w : Wr) : Option (Store D Wr) :=
  if h : i ∈ s.opened then
    some
      { s with
        pending := s.pending ++ [(i, w)]
        owned := by
          intro p hp
          rcases List.mem_append.mp hp with hp | hp
          · exact s.owned p hp
          · rw [List.mem_singleton.mp hp]
            exact h }
  else none

/-- Closes transaction `i` and forgets its writes. -/
def rollback (s : Store D Wr) (i : Nat) : Store D Wr where
  committed := s.committed
  opened := s.opened.filter (· ≠ i)
  pending := s.pending.filter (·.1 ≠ i)
  owned := by
    intro p hp
    simp only [List.mem_filter, decide_eq_true_eq] at hp ⊢
    exact ⟨s.owned p hp.1, hp.2⟩

/-- Closes transaction `i`; what it saw is now what everybody sees. -/
def commit (apply : D → Wr → D) (s : Store D Wr) (i : Nat) : Store D Wr :=
  { s.rollback i with committed := s.view apply i }

section Lemmas

variable {apply : D → Wr → D} {s s' : Store D Wr} {i j : Nat} {w : Wr}

theorem mem_others {w : Wr} : w ∈ s.others i ↔ ∃ j, j ≠ i ∧ w ∈ s.own j := by
  simp only [others, own, List.mem_map, List.mem_filter, decide_eq_true_eq]
  constructor
  · rintro ⟨⟨j, v⟩, ⟨hp, hj⟩, rfl⟩
    exact ⟨j, hj, ⟨j, v⟩, ⟨hp, rfl⟩, rfl⟩
  · rintro ⟨j, hj, ⟨k, v⟩, ⟨hp, rfl⟩, rfl⟩
    exact ⟨⟨k, v⟩, ⟨hp, hj⟩, rfl⟩

theorem mem_own {w : Wr} : w ∈ s.own i ↔ (i, w) ∈ s.pending := by
  simp only [own, List.mem_map, List.mem_filter, decide_eq_true_eq]
  constructor
  · rintro ⟨⟨j, v⟩, ⟨hp, rfl⟩, rfl⟩
    exact hp
  · intro hp
    exact ⟨(i, w), ⟨hp, rfl⟩, rfl⟩

theorem write_pending (h : s.write i w = some s') : s'.pending = s.pending ++ [(i, w)] := by
  unfold write at h
  split at h
  · cases h
    rfl
  · cases h

theorem mem_rollback_pending {p : Nat × Wr} :
    p ∈ (s.rollback i).pending ↔ p ∈ s.pending ∧ p.1 ≠ i := by
  simp only [rollback, List.mem_filter, decide_eq_true_eq]

@[simp] theorem ofCommitted_own (d : D) : (ofCommitted d : Store D Wr).own i = [] := rfl

@[simp] theorem ofCommitted_committed (d : D) : (ofCommitted d : Store D Wr).committed = d := rfl

@[simp] theorem begin_committed : (s.begin i).committed = s.committed := rfl

@[simp] theorem begin_own : (s.begin i).own j = s.own j := rfl

@[simp] theorem begin_view : (s.begin i).view apply j = s.view apply j := rfl

@[simp] theorem rollback_committed : (s.rollback i).committed = s.committed := rfl

@[simp] theorem commit_committed : (s.commit apply i).committed = s.view apply i := rfl

theorem rollback_own : (s.rollback i).own j = if j = i then [] else s.own j := by
  rw [own, rollback, List.filter_filter]
  split
  · next h =>
    subst h
    rw [List.map_eq_nil_iff, List.filter_eq_nil_iff]
    simp
  · next h =>
    rw [own]
    congr 1
    refine List.filter_congr fun p _ => ?_
    by_cases hp : p.1 = j <;> simp [hp, h]

theorem commit_own : (s.commit apply i).own j = if j = i then [] else s.own j := rollback_own

theorem write_committed (h : s.write i w = some s') : s'.committed = s.committed := by
  unfold write at h
  split at h
  · cases h
    rfl
  · cases h

theorem write_own (h : s.write i w = some s') :
    s'.own j = if j = i then s.own i ++ [w] else s.own j := by
  unfold write at h
  split at h
  · cases h
    simp only [own, List.filter_append, List.map_append]
    split
    · next hj =>
      subst hj
      simp
    · next hj => simp [Ne.symm hj]
  · cases h

theorem write_view_self (h : s.write i w = some s') :
    s'.view apply i = apply (s.view apply i) w := by
  rw [view, view, write_own h, write_committed h, if_pos rfl, List.foldl_append]
  rfl

end Lemmas

end Store

end Kubinate.Library
