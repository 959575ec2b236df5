import Mathlib.Data.List.Basic

/-!
# Streams that are polled

A stream has nothing ready, or an item, or has ended. The combinators are those of
asynchronous streams: they poll the stream below only when they are polled themselves, so what
one of them knows about the next item it knows only once that item is there.

* `PollStream`: a stream by its states, with the combinators.
* `emitted`: the items that come out of a number of polls.
-/

namespace Kubinate.Library

/-- What a poll returns. -/
inductive Poll (α : Type) where
  | pending
  | ready (item : α)
  | ended
deriving DecidableEq, Repr

namespace Poll

variable {α β : Type}

def map (f : α → β) : Poll α → Poll β
  | .pending => .pending
  | .ready item => .ready (f item)
  | .ended => .ended

def items : Poll α → List α
  | .ready item => [item]
  | .pending | .ended => []

end Poll

structure PollStream (α σ : Type) where
  poll : σ → Poll α × σ

namespace PollStream

variable {α β σ τ : Type}

/-! ## Combinators -/

/-- Items that were sent in this order; more may be sent at any time. -/
def queue : PollStream α (List α) where
  poll
    | [] => (.pending, [])
    | item :: rest => (.ready item, rest)

def once (item : α) : PollStream α Bool where
  poll
    | false => (.ready item, true)
    | true => (.ended, true)

def map (f : α → β) (s : PollStream α σ) : PollStream β σ where
  poll state := ((s.poll state).1.map f, (s.poll state).2)

/-- Polls until an item is kept, at most `fuel` times. -/
def pollUntil (f : α → Option β) (s : PollStream α σ) : (fuel : Nat) → σ → Poll β × σ
  | 0, state => (.pending, state)
  | fuel + 1, state =>
    match s.poll state with
    | (.pending, state) => (.pending, state)
    | (.ended, state) => (.ended, state)
    | (.ready item, state) =>
      match f item with
      | some item => (.ready item, state)
      | none => s.pollUntil f fuel state

/-- `waiting` bounds the items that are ready in a state. -/
def filterMap (f : α → Option β) (waiting : σ → Nat) (s : PollStream α σ) : PollStream β σ where
  poll state := s.pollUntil f (waiting state + 1) state

/-- The state is that of the stream, that of the predicate, and whether it has said no. -/
def takeWhile (predicate : τ → α → Bool × τ) (s : PollStream α σ) :
    PollStream α (σ × τ × Bool) where
  poll := fun (state, t, done) =>
    if done then (.ended, (state, t, done))
    else
      match s.poll state with
      | (.pending, state) => (.pending, (state, t, false))
      | (.ended, state) => (.ended, (state, t, true))
      | (.ready item, state) =>
        match predicate t item with
        | (true, t) => (.ready item, (state, t, false))
        | (false, t) => (.ended, (state, t, true))

def chain (first : PollStream α σ) (second : PollStream α τ) : PollStream α (σ × τ) where
  poll := fun (s, t) =>
    match first.poll s with
    | (.pending, s) => (.pending, (s, t))
    | (.ready item, s) => (.ready item, (s, t))
    | (.ended, s) => ((second.poll t).1, (s, (second.poll t).2))

/-! ## Polling -/

/-- The state after `n` polls. -/
def after (s : PollStream α σ) : Nat → σ → σ
  | 0, state => state
  | n + 1, state => s.after n (s.poll state).2

/-- The items that come out of `n` polls. -/
def emitted (s : PollStream α σ) : Nat → σ → List α
  | 0, _ => []
  | n + 1, state => (s.poll state).1.items ++ s.emitted n (s.poll state).2

variable {s : PollStream α σ}

/-- A stream out of which nothing comes and that stays as it is. -/
theorem emitted_of_quiet {K : σ → Prop}
    (hK : ∀ state, K state → (s.poll state).1.items = [] ∧ K (s.poll state).2) (n : Nat)
    {state : σ} (h : K state) : s.emitted n state = [] := by
  induction n generalizing state with
  | zero => rfl
  | succ n ih =>
    obtain ⟨hitems, hnext⟩ := hK state h
    rw [emitted, hitems, ih hnext]
    rfl

theorem after_succ (n : Nat) (state : σ) :
    s.after (n + 1) state = (s.poll (s.after n state)).2 := by
  induction n generalizing state with
  | zero => rfl
  | succ n ih => exact ih (s.poll state).2

theorem emitted_prefix {m n : Nat} (h : m ≤ n) (state : σ) :
    s.emitted m state <+: s.emitted n state := by
  induction m generalizing n state with
  | zero => exact List.nil_prefix
  | succ m ih =>
    have hpos := Nat.lt_of_lt_of_le m.succ_pos h
    obtain ⟨n, rfl⟩ := Nat.exists_eq_succ_of_ne_zero (Nat.ne_of_gt hpos)
    exact List.prefix_append_right_inj _ |>.mpr (ih (Nat.le_of_succ_le_succ h) _)

theorem mem_emitted_of_ready {n : Nat} {state : σ} {item : α}
    (h : (s.poll (s.after n state)).1 = .ready item) : item ∈ s.emitted (n + 1) state := by
  induction n generalizing state with
  | zero =>
    have hpoll : (s.poll state).1 = .ready item := h
    rw [emitted, hpoll]
    exact List.mem_cons_self
  | succ n ih =>
    rw [emitted]
    exact List.mem_append_right _ (ih h)

end PollStream

end Kubinate.Library
