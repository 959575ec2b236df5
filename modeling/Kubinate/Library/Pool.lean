import Kubinate.Library.Program
import Mathlib.Data.List.Induction

/-!
# Pools of interleaved programs

A pool runs any number of programs against one shared world. Each action of a schedule
starts a program or lets one program make its next call; how the call goes (what the
environment answers, whether it fails) is part of the action, so a run is a function of
its schedule and can be evaluated.

* `Pool.step_start`, `Pool.step_step`: everything a step can do.
* `Pool.exec_invariant`: an invariant that every admitted step preserves holds after every
  run made of admitted steps; `Pool.exec_invariant_iff` is the rule for steps that preserve it
  exactly if they are admitted.
* `Pool.exec_slots`: the rule for invariants made of a fact about the world and one fact
  for each slot of the pool, where a program is known by its job, by its trace and by the
  specification its calls meet.
* `Pool.exec_calls`, `Pool.exec_next`, `Pool.exec_ends`: the calls that were made, the ones to
  come and the ends are inside the specification of their program.
* `Pool.exec_moment`, `Pool.exec_told`: every call in a trace was made with some step of the
  schedule, and what the steps make true of calls and answers is true of it.
* `Pool.exec_origin`: what is in the world was there at the beginning or was made by a call.
* `Pool.exec_first`: a program alone in its pool goes one of the ways of `Always`.
-/

namespace Kubinate.Library

/-- One program in flight: the job it was started for, what it has called so far, and what
it still has to do. -/
structure Thread (I : Interface) (J R : Type) where
  job : J
  trace : Trace I
  code : Program I R

/-- How a pool works: the program of each job, which jobs may be started from outside, and
how the world answers a call of the program in slot `i`. An answer may start further jobs;
no answer at all means that the call has to wait, or that this outcome is impossible. -/
structure Pool (I : Interface) (W J X R : Type) where
  prog : J → Program I R
  external : J → Bool
  answer : W → Nat → (c : I.Call) → X → Option (W × I.Answer c × List J)

/-- The program has nothing left to do. -/
def Thread.isDone {I : Interface} {J R : Type} (t : Thread I J R) : Bool :=
  match t.code with
  | .done _ => true
  | .call _ _ => false

inductive Act (J X : Type) where
  | start (j : J)
  | step (i : Nat) (x : X)
deriving DecidableEq

structure PoolState (I : Interface) (W J R : Type) where
  world : W
  threads : List (Thread I J R)

variable {I : Interface} {W J X R : Type}

namespace PoolState

/-- What is known about slot `i`: the job started there and what it has called so far. -/
def slot (s : PoolState I W J R) (i : Nat) : Option (J × Trace I) :=
  (s.threads[i]?).map fun t => (t.job, t.trace)

/-- What was started, slot by slot. -/
def jobs (s : PoolState I W J R) : List J := s.threads.map (·.job)

theorem job_of_slot {s : PoolState I W J R} {i : Nat} {j : J} {τ : Trace I}
    (h : s.slot i = some (j, τ)) : s.jobs[i]? = some j := by
  rw [slot, Option.map_eq_some_iff] at h
  obtain ⟨t, ht, heq⟩ := h
  cases heq
  rw [jobs, List.getElem?_map, ht]
  rfl

theorem slot_of_job {s : PoolState I W J R} {i : Nat} {j : J} (h : s.jobs[i]? = some j) :
    ∃ τ, s.slot i = some (j, τ) := by
  rw [jobs, List.getElem?_map, Option.map_eq_some_iff] at h
  obtain ⟨t, ht, rfl⟩ := h
  exact ⟨t.trace, by rw [slot, ht]; rfl⟩

/-- The call that the program in slot `i` makes next. -/
def nextCall (s : PoolState I W J R) (i : Nat) : Option I.Call :=
  match s.threads[i]? with
  | none => none
  | some t =>
    match t.code with
    | .done _ => none
    | .call c _ => some c

/-- What the program in slot `i` has ended with. -/
def result (s : PoolState I W J R) (i : Nat) : Option R :=
  match s.threads[i]? with
  | none => none
  | some t =>
    match t.code with
    | .done a => some a
    | .call _ _ => none

/-- No program has anything left to do. -/
def quiet (s : PoolState I W J R) : Bool :=
  s.threads.all fun t =>
    match t.code with
    | .done _ => true
    | .call _ _ => false

theorem slot_of_getElem? {s : PoolState I W J R} {i : Nat} {t : Thread I J R}
    (h : s.threads[i]? = some t) : s.slot i = some (t.job, t.trace) := by
  rw [slot, h]
  rfl

theorem lt_of_slot_ne_none {s : PoolState I W J R} {i : Nat} (h : s.slot i ≠ none) :
    i < s.threads.length := by
  by_contra hi
  refine h ?_
  rw [slot, List.getElem?_eq_none (Nat.le_of_not_lt hi)]
  rfl

theorem lt_of_slot {s : PoolState I W J R} {i : Nat} {p : J × Trace I} (h : s.slot i = some p) :
    i < s.threads.length := by
  apply lt_of_slot_ne_none
  rw [h]
  exact Option.some_ne_none p

theorem nextCall_of_getElem? {s : PoolState I W J R} {i : Nat} {t : Thread I J R} {c : I.Call}
    {k : I.Answer c → Program I R} (h : s.threads[i]? = some t) (hc : t.code = .call c k) :
    s.nextCall i = some c := by
  simp only [nextCall, h, hc]

theorem thread_of_nextCall {s : PoolState I W J R} {i : Nat} {c : I.Call}
    (h : s.nextCall i = some c) : ∃ t k, s.threads[i]? = some t ∧ t.code = .call c k := by
  unfold nextCall at h
  split at h
  · cases h
  · next t ht =>
    split at h
    · cases h
    · next c' k hc =>
      cases h
      exact ⟨t, k, ht, hc⟩

/-- A program either has a call to make or has ended. -/
theorem next_or_result {s : PoolState I W J R} {i : Nat} {j : J} {τ : Trace I}
    (h : s.slot i = some (j, τ)) : (∃ c, s.nextCall i = some c) ∨ ∃ a, s.result i = some a := by
  rw [slot, Option.map_eq_some_iff] at h
  obtain ⟨t, ht, -⟩ := h
  cases hc : t.code with
  | call c k => exact .inl ⟨c, nextCall_of_getElem? ht hc⟩
  | done a => exact .inr ⟨a, by simp only [result, ht, hc]⟩

theorem code_of_result {s : PoolState I W J R} {i : Nat} {t : Thread I J R} {a : R}
    (h : s.threads[i]? = some t) (hr : s.result i = some a) : t.code = .done a := by
  simp only [result, h] at hr
  split at hr
  · next b hb =>
    cases hr
    exact hb
  · cases hr

end PoolState

theorem PoolState.result_of_isDone {s : PoolState I W J R} {i : Nat} {t : Thread I J R}
    (h : s.threads[i]? = some t) (hdone : t.isDone = true) : (s.result i).isSome = true := by
  unfold Thread.isDone at hdone
  split at hdone
  · next a ha => simp only [PoolState.result, h, ha, Option.isSome_some]
  · cases hdone

namespace Pool

variable (S : Pool I W J X R)

/-- The pool before anything was started. -/
def init (w : W) : PoolState I W J R := ⟨w, []⟩

theorem slot_init {w : W} {i : Nat} : (init w : PoolState I W J R).slot i = none := rfl

theorem slot_init_ne_some {w : W} {i : Nat} {p : J × Trace I} :
    (init w : PoolState I W J R).slot i ≠ some p := by
  rw [slot_init]
  exact (Option.some_ne_none p).symm

def launch (j : J) : Thread I J R := ⟨j, [], S.prog j⟩

def step (s : PoolState I W J R) : Act J X → Option (PoolState I W J R)
  | .start j => if S.external j then some { s with threads := s.threads ++ [S.launch j] } else none
  | .step i x =>
    match s.threads[i]? with
    | none => none
    | some t =>
      match t.code with
      | .done _ => none
      | .call c k =>
        (S.answer s.world i c x).map fun (w, r, js) =>
          { world := w
            threads := s.threads.set i ⟨t.job, t.trace ++ [⟨c, r⟩], k r⟩ ++ js.map S.launch }

/-- A schedule is a list of actions; a run stops with `none` at an impossible one. -/
def exec (s : PoolState I W J R) (as : List (Act J X)) : Option (PoolState I W J R) :=
  as.foldlM S.step s

/-- Every action of the schedule satisfies `C` in the state it is taken in. -/
def allSteps (C : PoolState I W J R → Act J X → Bool) (s : PoolState I W J R) :
    List (Act J X) → Bool
  | [] => true
  | a :: as =>
    C s a &&
      match S.step s a with
      | none => true
      | some s' => allSteps C s' as

variable {S} {s s' : PoolState I W J R} {a : Act J X} {as : List (Act J X)}

theorem step_start {j : J} :
    S.step s (.start j) = some s' ↔
      S.external j = true ∧ s' = { s with threads := s.threads ++ [S.launch j] } := by
  by_cases h : S.external j = true <;> simp [step, h, eq_comm]

theorem step_step {i : Nat} {x : X} :
    S.step s (.step i x) = some s' ↔
      ∃ t c k w r js, s.threads[i]? = some t ∧ t.code = .call c k ∧
        S.answer s.world i c x = some (w, r, js) ∧
        s' = { world := w
               threads := s.threads.set i ⟨t.job, t.trace ++ [⟨c, r⟩], k r⟩ ++
                 js.map S.launch } := by
  constructor
  · intro h
    cases ht : s.threads[i]? with
    | none => simp [step, ht] at h
    | some t =>
      cases hc : t.code with
      | done b => simp [step, ht, hc] at h
      | call c k =>
        simp only [step, ht, hc, Option.map_eq_some_iff] at h
        obtain ⟨⟨w, r, js⟩, ha, hs⟩ := h
        exact ⟨t, c, k, w, r, js, rfl, hc, ha, hs.symm⟩
  · rintro ⟨t, c, k, w, r, js, ht, hc, ha, rfl⟩
    simp [step, ht, hc, ha]

@[simp] theorem exec_nil : S.exec s [] = some s := rfl

@[simp] theorem exec_cons : S.exec s (a :: as) = (S.step s a).bind fun s => S.exec s as := rfl

theorem exec_append {bs : List (Act J X)} :
    S.exec s (as ++ bs) = (S.exec s as).bind fun s => S.exec s bs :=
  List.foldlM_append

/-- A condition on the actions alone. -/
theorem allSteps_of_forall {C : PoolState I W J R → Act J X → Bool}
    (h : ∀ a ∈ as, ∀ s, C s a = true) : S.allSteps C s as = true := by
  induction as generalizing s with
  | nil => rfl
  | cons a as ih =>
    rw [allSteps, h a List.mem_cons_self s, Bool.true_and]
    split
    · rfl
    · exact ih fun b hb => h b (List.mem_cons_of_mem a hb)

theorem allSteps_and {C D : PoolState I W J R → Act J X → Bool} (hC : S.allSteps C s as = true)
    (hD : S.allSteps D s as = true) : S.allSteps (fun s a => C s a && D s a) s as = true := by
  induction as generalizing s with
  | nil => rfl
  | cons a as ih =>
    rw [allSteps, Bool.and_eq_true] at hC hD ⊢
    refine ⟨by rw [hC.1, hD.1]; rfl, ?_⟩
    cases hstep : S.step s a with
    | none => rfl
    | some s' =>
      rw [hstep] at hC hD
      exact ih hC.2 hD.2

/-- A condition on a run is one on each of its parts. -/
theorem allSteps_append {C : PoolState I W J R → Act J X → Bool} {bs : List (Act J X)}
    (h : S.exec s as = some s') (hC : S.allSteps C s (as ++ bs) = true) :
    S.allSteps C s as = true ∧ S.allSteps C s' bs = true := by
  induction as generalizing s with
  | nil =>
    cases h
    exact ⟨rfl, hC⟩
  | cons a as ih =>
    rw [exec_cons, Option.bind_eq_some_iff] at h
    obtain ⟨s₁, h₁, h₂⟩ := h
    rw [List.cons_append, allSteps, Bool.and_eq_true, h₁] at hC
    obtain ⟨has, hbs⟩ := ih h₂ hC.2
    refine ⟨?_, hbs⟩
    rw [allSteps, h₁, hC.1]
    exact has

/-- The induction over runs: what every admitted step preserves, every run of admitted
steps preserves. -/
theorem exec_invariant {C : PoolState I W J R → Act J X → Bool} {Q : PoolState I W J R → Prop}
    (hstep : ∀ s a s', Q s → C s a = true → S.step s a = some s' → Q s')
    (h0 : Q s) (hC : S.allSteps C s as = true) (h : S.exec s as = some s') : Q s' := by
  induction as generalizing s with
  | nil =>
    cases h
    exact h0
  | cons a as ih =>
    rw [exec_cons, Option.bind_eq_some_iff] at h
    obtain ⟨s₁, h₁, h₂⟩ := h
    rw [allSteps, Bool.and_eq_true, h₁] at hC
    exact ih (hstep s a s₁ h0 hC.1 h₁) hC.2 h₂

/-- Where a step keeps `Q` exactly if it is admitted, the states of a run satisfy `Q` exactly if
its steps are all admitted. -/
theorem exec_invariant_iff {C : PoolState I W J R → Act J X → Bool} {Q : PoolState I W J R → Prop}
    (hstep : ∀ s a s', Q s → S.step s a = some s' → (Q s' ↔ C s a = true)) (h0 : Q s)
    (h : S.exec s as = some s') :
    (∀ as₁ as₂ s₁, as = as₁ ++ as₂ → S.exec s as₁ = some s₁ → Q s₁) ↔ S.allSteps C s as = true := by
  constructor
  · intro hall
    induction as generalizing s with
    | nil => rfl
    | cons a as ih =>
      rw [exec_cons, Option.bind_eq_some_iff] at h
      obtain ⟨s₁, h₁, h₂⟩ := h
      have hfirst : Q s₁ := hall [a] as s₁ rfl (by rw [exec_cons, h₁]; rfl)
      rw [allSteps, h₁, (hstep s a s₁ h0 h₁).mp hfirst, Bool.true_and]
      refine ih hfirst h₂ fun as₁ as₂ s₂ heq hrun => ?_
      exact hall (a :: as₁) as₂ s₂ (congrArg (a :: ·) heq) (by rw [exec_cons, h₁]; exact hrun)
  · intro hC as₁ as₂ s₁ heq hrun
    rw [heq] at hC
    exact exec_invariant (fun s a s' hs hCs hs' => (hstep s a s' hs hs').mpr hCs) h0
      (allSteps_append hrun hC).1 hrun

/-- The slots after a step: the one that made the call, the others, and those that were
added. -/
theorem getElem?_set_append {α : Type} {l news : List α} {i k : Nat} {a b : α} (hi : i < l.length)
    (h : (l.set i a ++ news)[k]? = some b) :
    k = i ∧ b = a ∨ k ≠ i ∧ l[k]? = some b ∨ l.length ≤ k ∧ news[k - l.length]? = some b := by
  rcases Nat.lt_or_ge k l.length with hk | hk
  · rw [List.getElem?_append_left (by rwa [List.length_set])] at h
    by_cases hki : k = i
    · subst hki
      rw [List.getElem?_set_self hi] at h
      exact .inl ⟨rfl, (Option.some.inj h).symm⟩
    · rw [List.getElem?_set_ne (Ne.symm hki)] at h
      exact .inr (.inl ⟨hki, h⟩)
  · rw [List.getElem?_append_right (by rwa [List.length_set]), List.length_set] at h
    exact .inr (.inr ⟨hk, h⟩)

theorem getElem?_append_singleton {α : Type} {l : List α} {k : Nat} {a b : α}
    (h : (l ++ [a])[k]? = some b) : l[k]? = some b ∨ k = l.length ∧ b = a := by
  rcases Nat.lt_trichotomy k l.length with hk | rfl | hk
  · rw [List.getElem?_append_left hk] at h
    exact .inl h
  · rw [List.getElem?_concat_length] at h
    exact .inr ⟨rfl, (Option.some.inj h).symm⟩
  · rw [List.getElem?_eq_none (by rw [List.length_append]; exact hk)] at h
    cases h

/-! ## Invariants by slot -/

section Slots

variable {P : J → Trace I → I.Call → Prop} {Q : J → Trace I → R → Prop} {G : W → Prop}
  {L : W → Nat → Option (J × Trace I) → Prop}

/-- `G` holds of the world, `L` of every slot, and every program in flight is inside its
specification: its calls satisfy `P` and it ends inside `Q`. -/
structure Slots (P : J → Trace I → I.Call → Prop) (Q : J → Trace I → R → Prop) (G : W → Prop)
    (L : W → Nat → Option (J × Trace I) → Prop) (s : PoolState I W J R) : Prop where
  world : G s.world
  slot : ∀ i, L s.world i (s.slot i)
  meets : ∀ t ∈ s.threads, Meets (P t.job) (fun _ _ _ => True) (Q t.job) t.code t.trace

/-- What is left of a program that has nothing left to do. -/
theorem Slots.ended (h : Slots P Q G L s) (hquiet : s.quiet = true) {i : Nat} {j : J} {τ : Trace I}
    (hslot : s.slot i = some (j, τ)) : ∃ r, Q j τ r := by
  rw [PoolState.slot, Option.map_eq_some_iff] at hslot
  obtain ⟨t, ht, heq⟩ := hslot
  cases heq
  have hmem := List.mem_of_getElem? ht
  have hm := h.meets t hmem
  have hdone := List.all_eq_true.mp hquiet t hmem
  cases hc : t.code with
  | done r =>
    rw [hc] at hm
    exact ⟨r, hm⟩
  | call c k =>
    rw [hc] at hdone
    cases hdone

/-- A program that has ended is inside its specification. -/
theorem Slots.finished (h : Slots P Q G L s) {i : Nat} {j : J} {τ : Trace I} {a : R}
    (hslot : s.slot i = some (j, τ)) (hresult : s.result i = some a) : Q j τ a := by
  rw [PoolState.slot, Option.map_eq_some_iff] at hslot
  obtain ⟨t, ht, heq⟩ := hslot
  cases heq
  have hm := h.meets t (List.mem_of_getElem? ht)
  rw [PoolState.code_of_result ht hresult] at hm
  exact hm

/-- A program that ends with this step ends inside its specification, right after the answer
that the step brought. -/
theorem Slots.ended_by_step (h : Slots P Q G L s) {i : Nat} {x : X} {j : J} {τ : Trace I} {a : R}
    (hstep : S.step s (.step i x) = some s') (hslot : s'.slot i = some (j, τ))
    (hresult : s'.result i = some a) :
    ∃ τ' c r js, τ = τ' ++ [⟨c, r⟩] ∧ S.answer s.world i c x = some (s'.world, r, js) ∧
      Q j τ a := by
  obtain ⟨t, c, k, w, r, js, ht, hc, ha, rfl⟩ := step_step.mp hstep
  have hlt : i < s.threads.length := (List.getElem?_eq_some_iff.mp ht).1
  have hnew : (s.threads.set i ⟨t.job, t.trace ++ [⟨c, r⟩], k r⟩ ++ js.map S.launch)[i]? =
      some ⟨t.job, t.trace ++ [⟨c, r⟩], k r⟩ := by
    rw [List.getElem?_append_left (by rwa [List.length_set]), List.getElem?_set_self hlt]
  obtain ⟨rfl, rfl⟩ := Prod.mk.inj (Option.some.inj
    ((PoolState.slot_of_getElem? hnew).symm.trans hslot))
  have hdone : k r = .done a := PoolState.code_of_result hnew hresult
  have hm := h.meets t (List.mem_of_getElem? ht)
  rw [hc] at hm
  have hend := hm.2 r trivial
  rw [hdone] at hend
  exact ⟨t.trace, c, r, js, rfl, ha, hend⟩

theorem slots_init {w : W} (hw : G w) (hL : ∀ i, L w i none) :
    Slots P Q G L (Pool.init w : PoolState I W J R) where
  world := hw
  slot := hL
  meets := by simp [Pool.init]

/-- Appending freshly launched programs fills slots that were empty. -/
theorem slots_launch (hprog : ∀ j, Meets (P j) (fun _ _ _ => True) (Q j) (S.prog j) [])
    (hlaunch : ∀ w i j, G w → L w i none → L w i (some (j, [])))
    (h : Slots P Q G L s) (js : List J) :
    Slots P Q G L { s with threads := s.threads ++ js.map S.launch } where
  world := h.world
  slot := by
    intro i
    rcases Nat.lt_or_ge i s.threads.length with hi | hi
    · have hs := h.slot i
      simp only [PoolState.slot, List.getElem?_append_left hi] at hs ⊢
      exact hs
    · have hs := h.slot i
      simp only [PoolState.slot, List.getElem?_append_right hi, List.getElem?_map] at hs ⊢
      rw [List.getElem?_eq_none hi, Option.map_none] at hs
      cases hj : js[i - s.threads.length]? with
      | none => exact hs
      | some j => exact hlaunch s.world i j h.world hs
  meets := by
    intro t ht
    rcases List.mem_append.mp ht with ht | ht
    · exact h.meets t ht
    · obtain ⟨j, -, rfl⟩ := List.mem_map.mp ht
      exact hprog j

/-- One step of the program in slot `i`, once its effect on the world and on the slots is
known. -/
theorem slots_call {i : Nat} {t : Thread I J R} {c : I.Call} {k : I.Answer c → Program I R}
    {w : W} {r : I.Answer c} (h : Slots P Q G L s) (ht : s.threads[i]? = some t)
    (hc : t.code = .call c k) (hw : G w) (hi : L w i (some (t.job, t.trace ++ [⟨c, r⟩])))
    (hframe : ∀ k, k ≠ i → L w k (s.slot k)) :
    Slots P Q G L { world := w, threads := s.threads.set i ⟨t.job, t.trace ++ [⟨c, r⟩], k r⟩ } where
  world := hw
  slot := by
    intro n
    by_cases hn : n = i
    · subst hn
      have hlt : n < s.threads.length := (List.getElem?_eq_some_iff.mp ht).1
      simp only [PoolState.slot, List.getElem?_set_self hlt, Option.map_some]
      exact hi
    · have hf := hframe n hn
      simp only [PoolState.slot, List.getElem?_set_ne (Ne.symm hn)] at hf ⊢
      exact hf
  meets := by
    intro t' ht'
    have hm := h.meets t (List.mem_of_getElem? ht)
    rcases List.mem_or_eq_of_mem_set ht' with ht' | rfl
    · exact h.meets t' ht'
    · rw [hc] at hm
      exact hm.2 r trivial

/-- The induction over runs for an invariant by slots: it is enough to look at one call of
one program that stays inside its specification. -/
theorem exec_slots {C : PoolState I W J R → Act J X → Bool}
    (hprog : ∀ j, Meets (P j) (fun _ _ _ => True) (Q j) (S.prog j) [])
    (hlaunch : ∀ w i j, G w → L w i none → L w i (some (j, [])))
    (hcall : ∀ (s : PoolState I W J R) i x t c w r js, Slots P Q G L s → C s (.step i x) = true →
      s.threads[i]? = some t → s.nextCall i = some c → P t.job t.trace c →
      S.answer s.world i c x = some (w, r, js) →
      G w ∧ L w i (some (t.job, t.trace ++ [⟨c, r⟩])) ∧ ∀ k, k ≠ i → L w k (s.slot k))
    (h0 : Slots P Q G L s) (hC : S.allSteps C s as = true) (h : S.exec s as = some s') :
    Slots P Q G L s' := by
  refine exec_invariant (Q := Slots P Q G L) ?_ h0 hC h
  intro s a s' hs hCs hstep
  cases a with
  | start j =>
    obtain ⟨-, rfl⟩ := step_start.mp hstep
    exact slots_launch hprog hlaunch hs [j]
  | step i x =>
    obtain ⟨t, c, k, w, r, js, ht, hc, ha, rfl⟩ := step_step.mp hstep
    have hm := hs.meets t (List.mem_of_getElem? ht)
    rw [hc] at hm
    obtain ⟨hw, hi, hframe⟩ := hcall s i x t c w r js hs hCs ht
      (PoolState.nextCall_of_getElem? ht hc) hm.1 ha
    exact slots_launch hprog hlaunch (slots_call hs ht hc hw hi hframe) js

/-- Every program in flight is inside its specification. -/
theorem exec_slots_meets {w : W}
    (hprog : ∀ j, Meets (P j) (fun _ _ _ => True) (Q j) (S.prog j) [])
    (h : S.exec (Pool.init w) as = some s) : Slots P Q (fun _ => True) (fun _ _ _ => True) s :=
  exec_slots (C := fun _ _ => true) hprog (fun _ _ _ _ _ => trivial)
    (fun _ _ _ _ _ _ _ _ _ _ _ _ _ _ => ⟨trivial, trivial, fun _ _ => trivial⟩)
    (slots_init trivial fun _ => trivial) (allSteps_of_forall fun _ _ _ => rfl) h

/-- The call that a program makes next is inside its specification. -/
theorem exec_next {w : W} (hprog : ∀ j, Meets (P j) (fun _ _ _ => True) (Q j) (S.prog j) [])
    (h : S.exec (Pool.init w) as = some s) {i : Nat} {t : Thread I J R} {c : I.Call}
    {k : I.Answer c → Program I R} (ht : s.threads[i]? = some t) (hc : t.code = .call c k) :
    P t.job t.trace c := by
  have hm := (exec_slots_meets hprog h).meets t (List.mem_of_getElem? ht)
  rw [hc] at hm
  exact hm.1

theorem exec_nextCall {w : W} (hprog : ∀ j, Meets (P j) (fun _ _ _ => True) (Q j) (S.prog j) [])
    (h : S.exec (Pool.init w) as = some s) {i : Nat} {j : J} {τ : Trace I} {c : I.Call}
    (hslot : s.slot i = some (j, τ)) (hnext : s.nextCall i = some c) : P j τ c := by
  obtain ⟨t, k, ht, hc⟩ := PoolState.thread_of_nextCall hnext
  obtain ⟨rfl, rfl⟩ := Prod.mk.inj (Option.some.inj
    ((PoolState.slot_of_getElem? ht).symm.trans hslot))
  exact exec_next hprog h ht hc

/-- A program that has ended has ended inside its specification. -/
theorem exec_ends {w : W} (hprog : ∀ j, Meets (P j) (fun _ _ _ => True) (Q j) (S.prog j) [])
    (h : S.exec (Pool.init w) as = some s) {i : Nat} {j : J} {τ : Trace I} {a : R}
    (hslot : s.slot i = some (j, τ)) (hresult : s.result i = some a) : Q j τ a :=
  (exec_slots_meets hprog h).finished hslot hresult

end Slots

/-! ## Moments -/

section Moments

/-- With this step the program in slot `i` makes the call `c` and is answered `r`. -/
structure Calls (S : Pool I W J X R) (s : PoolState I W J R) (i : Nat) (x : X) (j : J) (τ : Trace I)
    (c : I.Call) (r : I.Answer c) (s' : PoolState I W J R) : Prop where
  step : S.step s (.step i x) = some s'
  slot : s.slot i = some (j, τ)
  thread : ∃ t k, s.threads[i]? = some t ∧ t.code = .call c k
  answer : ∃ js, S.answer s.world i c x = some (s'.world, r, js)

theorem Calls.nextCall {i : Nat} {x : X} {j : J} {τ : Trace I} {c : I.Call} {r : I.Answer c}
    (h : S.Calls s i x j τ c r s') : s.nextCall i = some c := by
  obtain ⟨t, k, ht, hc⟩ := h.thread
  exact PoolState.nextCall_of_getElem? ht hc

theorem calls_of_step {i : Nat} {x : X} (h : S.step s (.step i x) = some s') :
    ∃ j τ c r, S.Calls s i x j τ c r s' := by
  have hstep := h
  obtain ⟨t, c, k, w, r, js, ht, hc, ha, rfl⟩ := step_step.mp hstep
  exact ⟨t.job, t.trace, c, r, h, PoolState.slot_of_getElem? ht, ⟨t, k, ht, hc⟩, js, ha⟩

theorem calls_of_nextCall {i : Nat} {x : X} {c : I.Call} (h : S.step s (.step i x) = some s')
    (hnext : s.nextCall i = some c) : ∃ j τ r, S.Calls s i x j τ c r s' := by
  obtain ⟨j, τ, c', r, hcalls⟩ := calls_of_step h
  obtain rfl : c' = c := Option.some.inj (hcalls.nextCall.symm.trans hnext)
  exact ⟨j, τ, r, hcalls⟩

/-- What is there when a job is started stays as it is. -/
theorem slot_start {j : J} (h : S.step s (.start j) = some s') {i : Nat} {p : J × Trace I}
    (hslot : s.slot i = some p) : s'.slot i = some p := by
  obtain ⟨-, rfl⟩ := step_start.mp h
  rw [← hslot, PoolState.slot, PoolState.slot,
    List.getElem?_append_left (PoolState.lt_of_slot hslot)]

theorem slot_start_cases {j j' : J} (h : S.step s (.start j) = some s') {i : Nat} {τ : Trace I}
    (hslot : s'.slot i = some (j', τ)) : s.slot i = some (j', τ) ∨ j' = j ∧ τ = [] := by
  obtain ⟨-, rfl⟩ := step_start.mp h
  rw [PoolState.slot, Option.map_eq_some_iff] at hslot
  obtain ⟨t, ht, heq⟩ := hslot
  cases heq
  rcases getElem?_append_singleton ht with hold | ⟨-, rfl⟩
  · exact .inl (PoolState.slot_of_getElem? hold)
  · exact .inr ⟨rfl, rfl⟩

/-- Slots stay, and their traces grow. -/
theorem slot_step (h : S.step s a = some s') {i : Nat} {j : J} {τ : Trace I}
    (hslot : s.slot i = some (j, τ)) : ∃ τ', s'.slot i = some (j, τ') ∧ τ <+: τ' := by
  have hi : i < s.threads.length := PoolState.lt_of_slot hslot
  cases a with
  | start j' =>
    exact ⟨τ, slot_start h hslot, List.prefix_refl τ⟩
  | step k x =>
    obtain ⟨t, c, code, w, r, js, ht, -, -, rfl⟩ := step_step.mp h
    have hlen : i < (s.threads.set k ⟨t.job, t.trace ++ [⟨c, r⟩], code r⟩).length := by
      rwa [List.length_set]
    rw [PoolState.slot, List.getElem?_append_left hlen]
    by_cases hik : k = i
    · subst hik
      rw [List.getElem?_set_self hi]
      cases (PoolState.slot_of_getElem? ht).symm.trans hslot
      exact ⟨_, rfl, List.prefix_append _ _⟩
    · rw [List.getElem?_set_ne hik]
      exact ⟨τ, hslot, List.prefix_refl τ⟩

/-- What is in a slot after a step was there before it, or has just been launched, or has made
its call with this step. -/
theorem slot_cases (h : S.step s a = some s') {i : Nat} {j : J} {τ : Trace I}
    (hslot : s'.slot i = some (j, τ)) :
    s.slot i = some (j, τ) ∨ τ = [] ∨
      ∃ x τ₀ c r, a = .step i x ∧ τ = τ₀ ++ [⟨c, r⟩] ∧ S.Calls s i x j τ₀ c r s' := by
  cases a with
  | start j' =>
    rcases slot_start_cases h hslot with hold | ⟨-, hnil⟩
    · exact .inl hold
    · exact .inr (.inl hnil)
  | step k x =>
    have hstep := h
    rw [PoolState.slot, Option.map_eq_some_iff] at hslot
    obtain ⟨t', ht', heq⟩ := hslot
    cases heq
    obtain ⟨t, c, code, w, r, js, ht, hc, ha, rfl⟩ := step_step.mp h
    have hk : k < s.threads.length := (List.getElem?_eq_some_iff.mp ht).1
    rcases getElem?_set_append hk ht' with ⟨rfl, rfl⟩ | ⟨-, ht'⟩ | ⟨-, hnew⟩
    · exact .inr (.inr ⟨x, t.trace, c, r, rfl, rfl, hstep, PoolState.slot_of_getElem? ht,
        ⟨t, code, ht, hc⟩, js, ha⟩)
    · exact .inl (PoolState.slot_of_getElem? ht')
    · rw [List.getElem?_map, Option.map_eq_some_iff] at hnew
      obtain ⟨j', -, rfl⟩ := hnew
      exact .inr (.inl rfl)

/-- The program in slot `i` has made this call and was given this answer. -/
def Told (s : PoolState I W J R) (i : Nat) (c : I.Call) (r : I.Answer c) : Prop :=
  ∃ j τ, s.slot i = some (j, τ) ∧ ⟨c, r⟩ ∈ τ

theorem Told.step {i : Nat} {c : I.Call} {r : I.Answer c} (hc : Told s i c r)
    (h : S.step s a = some s') : Told s' i c r := by
  obtain ⟨j, τ, hslot, hmem⟩ := hc
  obtain ⟨τ', hslot', hτ⟩ := slot_step h hslot
  exact ⟨j, τ', hslot', hτ.subset hmem⟩

theorem Calls.slot_self {i : Nat} {x : X} {j : J} {τ : Trace I} {c : I.Call} {r : I.Answer c}
    (h : S.Calls s i x j τ c r s') : s'.slot i = some (j, τ ++ [⟨c, r⟩]) := by
  obtain ⟨t, c', k, w, r', js, ht, hc, ha, rfl⟩ := step_step.mp h.step
  obtain ⟨t', k', ht', hc'⟩ := h.thread
  obtain rfl : t = t' := Option.some.inj (ht.symm.trans ht')
  obtain ⟨rfl, -⟩ := Program.call.inj (hc.symm.trans hc')
  obtain ⟨js', ha'⟩ := h.answer
  obtain ⟨-, hr⟩ := Prod.mk.inj (Option.some.inj (ha.symm.trans ha'))
  obtain ⟨rfl, -⟩ := Prod.mk.inj hr
  have hi : i < s.threads.length := (List.getElem?_eq_some_iff.mp ht).1
  obtain ⟨rfl, rfl⟩ := Prod.mk.inj (Option.some.inj
    ((PoolState.slot_of_getElem? ht).symm.trans h.slot))
  rw [PoolState.slot, List.getElem?_append_left (by rwa [List.length_set]), List.getElem?_set_self hi]
  rfl

/-- What is in a slot after a call was there before it, if it is not the slot that has made the
call. -/
theorem Calls.other_or_self {i k : Nat} {x : X} {j j' : J} {τ τ' : Trace I} {c : I.Call}
    {r : I.Answer c} (h : S.Calls s i x j τ c r s') (hslot : s'.slot k = some (j', τ')) :
    k ≠ i ∧ (s.slot k = some (j', τ') ∨ τ' = []) ∨ k = i ∧ j' = j ∧ τ' = τ ++ [⟨c, r⟩] := by
  by_cases hk : k = i
  · subst hk
    obtain ⟨rfl, rfl⟩ := Prod.mk.inj (Option.some.inj (hslot.symm.trans h.slot_self))
    exact .inr ⟨rfl, rfl, rfl⟩
  · refine .inl ⟨hk, ?_⟩
    rcases slot_cases h.step hslot with hold | hnew | ⟨y, _, _, _, heq, -, -⟩
    · exact .inl hold
    · exact .inr hnew
    · cases heq
      exact absurd rfl hk

/-- The other slots are as they were. -/
theorem Calls.slot_other {i k : Nat} {x : X} {j j' : J} {τ τ' : Trace I} {c : I.Call}
    {r : I.Answer c} (h : S.Calls s i x j τ c r s') (hk : k ≠ i) (hslot : s.slot k = some (j', τ')) :
    s'.slot k = some (j', τ') := by
  obtain ⟨τ'', hslot', hτ⟩ := slot_step h.step hslot
  rcases h.other_or_self hslot' with ⟨-, hold | rfl⟩ | ⟨rfl, -, -⟩
  · rw [hslot', ← hold, hslot]
  · rw [hslot', List.prefix_nil.mp hτ]
  · exact absurd rfl hk

/-- Another slot still has its next call. -/
theorem nextCall_other {k : Nat} {c : I.Call} (h : S.step s a = some s') (ha : ∀ x, a ≠ .step k x)
    (hnext : s.nextCall k = some c) : s'.nextCall k = some c := by
  obtain ⟨t, code, ht, hc⟩ := PoolState.thread_of_nextCall hnext
  have hk : k < s.threads.length := (List.getElem?_eq_some_iff.mp ht).1
  refine PoolState.nextCall_of_getElem? (t := t) (k := code) ?_ hc
  cases a with
  | start j =>
    obtain ⟨-, rfl⟩ := step_start.mp h
    rwa [List.getElem?_append_left hk]
  | step i x =>
    obtain ⟨t', c', code', w, r, js, -, -, -, rfl⟩ := step_step.mp h
    have hne : i ≠ k := fun heq => ha x (by rw [heq])
    rwa [List.getElem?_append_left (by rwa [List.length_set]), List.getElem?_set_ne hne]

/-- Jobs are added by starts and by answers, and no job ever leaves. -/
theorem Calls.jobs {i : Nat} {x : X} {j : J} {τ : Trace I} {c : I.Call} {r : I.Answer c}
    (h : S.Calls s i x j τ c r s') :
    ∃ js, S.answer s.world i c x = some (s'.world, r, js) ∧ s'.jobs = s.jobs ++ js := by
  obtain ⟨t, c', k, w, r', js, ht, hc, ha, rfl⟩ := step_step.mp h.step
  obtain ⟨t', k', ht', hc'⟩ := h.thread
  obtain rfl : t = t' := Option.some.inj (ht.symm.trans ht')
  obtain ⟨rfl, -⟩ := Program.call.inj (hc.symm.trans hc')
  obtain ⟨js', ha'⟩ := h.answer
  have hsame := Option.some.inj (ha.symm.trans ha')
  obtain rfl : r' = r := congrArg (·.2.1) hsame
  refine ⟨js, ha, ?_⟩
  have hjob : (s.threads.set i ⟨t.job, t.trace ++ [⟨c', r'⟩], k r'⟩).map (·.job) = s.jobs := by
    refine List.ext_getElem? fun k => ?_
    rw [PoolState.jobs, List.getElem?_map, List.getElem?_map]
    by_cases hk : i = k
    · subst hk
      rw [List.getElem?_set_self (List.getElem?_eq_some_iff.mp ht).1, ht]
      rfl
    · rw [List.getElem?_set_ne hk]
  rw [PoolState.jobs, List.map_append, hjob, List.map_map]
  exact congrArg (s.jobs ++ ·) (List.map_id js)

/-- What is in a slot after a call: the program that has made the call, what was there before, or
a job that the answer has started. -/
theorem Calls.places {i k : Nat} {x : X} {j j' : J} {τ τ' : Trace I} {c : I.Call} {r : I.Answer c}
    {js : List J} (h : S.Calls s i x j τ c r s') (hjobs : s'.jobs = s.jobs ++ js)
    (hslot : s'.slot k = some (j', τ')) :
    k = i ∧ j' = j ∧ τ' = τ ++ [⟨c, r⟩] ∨ k ≠ i ∧ s.slot k = some (j', τ') ∨
      s.jobs.length ≤ k ∧ js[k - s.jobs.length]? = some j' ∧ τ' = [] := by
  rcases Nat.lt_or_ge k s.jobs.length with hk | hk
  · have hthread : k < s.threads.length := by rwa [PoolState.jobs, List.length_map] at hk
    have hthere := PoolState.slot_of_getElem? (List.getElem?_eq_getElem hthread)
    rcases h.other_or_self hslot with ⟨hne, -⟩ | hself
    · refine .inr (.inl ⟨hne, ?_⟩)
      rw [hthere, ← h.slot_other hne hthere]
      exact hslot
    · exact .inl hself
  · have hjob := PoolState.job_of_slot hslot
    rw [hjobs, List.getElem?_append_right hk] at hjob
    rcases h.other_or_self hslot with ⟨hne, hold | hnil⟩ | ⟨rfl, hself⟩
    · exact .inr (.inl ⟨hne, hold⟩)
    · exact .inr (.inr ⟨hk, hjob, hnil⟩)
    · exact .inl ⟨rfl, hself⟩

/-- The caller has not ended before. -/
theorem Calls.result_self {i : Nat} {x : X} {j : J} {τ : Trace I} {c : I.Call} {r : I.Answer c}
    (h : S.Calls s i x j τ c r s') : s.result i = none := by
  obtain ⟨t, k, ht, hc⟩ := h.thread
  simp only [PoolState.result, ht, hc]

theorem step_result {k : Nat} (h : S.step s a = some s') (hk : (s.result k).isSome = true) :
    (s'.result k).isSome = true := by
  have hlt : k < s.threads.length := by
    by_contra hlt
    rw [PoolState.result, List.getElem?_eq_none (Nat.le_of_not_lt hlt)] at hk
    cases hk
  cases a with
  | start j =>
    obtain ⟨-, rfl⟩ := step_start.mp h
    rw [PoolState.result, List.getElem?_append_left hlt]
    exact hk
  | step i x =>
    obtain ⟨t, c, code, w, r, js, ht, hc, -, rfl⟩ := step_step.mp h
    have hne : i ≠ k := by
      rintro rfl
      simp only [PoolState.result, ht, hc] at hk
      cases hk
    rw [PoolState.result, List.getElem?_append_left (by rwa [List.length_set]),
      List.getElem?_set_ne hne]
    exact hk

theorem Calls.told {i : Nat} {x : X} {j : J} {τ : Trace I} {c : I.Call} {r : I.Answer c}
    (h : S.Calls s i x j τ c r s') : Told s' i c r :=
  ⟨j, _, h.slot_self, List.mem_append_right _ List.mem_cons_self⟩

/-- Everything in a trace has its moment in the schedule. -/
theorem exec_moment {w : W} (h : S.exec (Pool.init w) as = some s) {i : Nat} {j : J}
    {τ₁ τ₂ : Trace I} {c : I.Call} {r : I.Answer c}
    (hslot : s.slot i = some (j, τ₁ ++ ⟨c, r⟩ :: τ₂)) :
    ∃ as₁ x as₂ s₁ s₂, as = as₁ ++ .step i x :: as₂ ∧ S.exec (Pool.init w) as₁ = some s₁ ∧
      S.Calls s₁ i x j τ₁ c r s₂ ∧ S.exec s₂ as₂ = some s := by
  induction as using List.reverseRecOn generalizing s τ₂ with
  | nil =>
    cases h
    exact absurd hslot slot_init_ne_some
  | append_singleton as a ih =>
    rw [exec_append, Option.bind_eq_some_iff] at h
    obtain ⟨s₀, h₀, hlast⟩ := h
    have hstep : S.step s₀ a = some s := by simpa using hlast
    have hearlier {τ₂ : Trace I} (hslot : s₀.slot i = some (j, τ₁ ++ ⟨c, r⟩ :: τ₂)) :
        ∃ as₁ x as₂ s₁ s₂, as ++ [a] = as₁ ++ .step i x :: as₂ ∧
          S.exec (Pool.init w) as₁ = some s₁ ∧ S.Calls s₁ i x j τ₁ c r s₂ ∧
          S.exec s₂ as₂ = some s := by
      obtain ⟨as₁, x, as₂, s₁, s₂, rfl, h₁, hcalls, h₂⟩ := ih h₀ hslot
      refine ⟨as₁, x, as₂ ++ [a], s₁, s₂, by simp, h₁, hcalls, ?_⟩
      rw [exec_append, h₂, Option.bind_some]
      exact hlast
    rcases slot_cases hstep hslot with hslot | hnil | ⟨x, τ₀, c', r', rfl, hτ, hcalls⟩
    · exact hearlier hslot
    · simp at hnil
    · -- the call is the new one, or it was made before
      rcases List.eq_nil_or_concat' τ₂ with rfl | ⟨τ₃, last, rfl⟩
      · obtain ⟨rfl, hnew⟩ := List.append_inj' hτ rfl
        cases hnew
        exact ⟨as, x, [], s₀, s, rfl, h₀, hcalls, rfl⟩
      · rw [← List.cons_append, ← List.append_assoc] at hτ
        obtain ⟨hbefore, -⟩ := List.append_inj' hτ rfl
        exact hearlier (hbefore ▸ hcalls.slot)

variable {P : J → Trace I → I.Call → Prop} {Q : J → Trace I → R → Prop}

/-- What every admitted step makes true of the call and of its answer, is true of everything
in a trace. -/
theorem exec_told {C : PoolState I W J R → Act J X → Bool}
    {T : J → Trace I → (c : I.Call) → I.Answer c → Prop} {w : W}
    (htold : ∀ (s s' : PoolState I W J R) i x j τ c r, C s (.step i x) = true →
      S.Calls s i x j τ c r s' → T j τ c r)
    (hC : S.allSteps C (Pool.init w) as = true) (h : S.exec (Pool.init w) as = some s) {i : Nat}
    {j : J} {τ₁ τ₂ : Trace I} {c : I.Call} {r : I.Answer c}
    (hslot : s.slot i = some (j, τ₁ ++ ⟨c, r⟩ :: τ₂)) : T j τ₁ c r := by
  obtain ⟨as₁, x, as₂, s₁, s₂, rfl, h₁, hcalls, -⟩ := exec_moment h hslot
  have hrest := (allSteps_append h₁ hC).2
  rw [allSteps, Bool.and_eq_true] at hrest
  exact htold s₁ s₂ i x j τ₁ c r hrest.1 hcalls

theorem Slots.inside {G : W → Prop} {L : W → Nat → Option (J × Trace I) → Prop}
    (h : Slots P Q G L s) {i : Nat} {x : X} {j : J} {τ : Trace I} {c : I.Call} {r : I.Answer c}
    (hcalls : S.Calls s i x j τ c r s') : P j τ c := by
  obtain ⟨t, k, ht, hc⟩ := hcalls.thread
  have hm := h.meets t (List.mem_of_getElem? ht)
  rw [hc] at hm
  obtain ⟨rfl, rfl⟩ := Prod.mk.inj (Option.some.inj
    ((PoolState.slot_of_getElem? ht).symm.trans hcalls.slot))
  exact hm.1

/-- A call is inside the specification of its program. -/
theorem Calls.inside {w : W} {i : Nat} {x : X} {j : J} {τ : Trace I} {c : I.Call} {r : I.Answer c}
    (hcalls : S.Calls s i x j τ c r s')
    (hprog : ∀ j, Meets (P j) (fun _ _ _ => True) (Q j) (S.prog j) [])
    (h : S.exec (Pool.init w) as = some s) : P j τ c := by
  exact exec_nextCall hprog h hcalls.slot hcalls.nextCall

/-- Every call that was made was inside the specification of its program when it was made. -/
theorem exec_calls {w : W} (hprog : ∀ j, Meets (P j) (fun _ _ _ => True) (Q j) (S.prog j) [])
    (h : S.exec (Pool.init w) as = some s) {i : Nat} {j : J} {τ₁ τ₂ : Trace I} {c : I.Call}
    {r : I.Answer c} (hslot : s.slot i = some (j, τ₁ ++ ⟨c, r⟩ :: τ₂)) : P j τ₁ c := by
  obtain ⟨as₁, x, as₂, s₁, s₂, -, h₁, hcalls, -⟩ := exec_moment h hslot
  exact hcalls.inside hprog h₁

/-- Slots stay to the end of a run. -/
theorem slot_exec (h : S.exec s as = some s') {i : Nat} {j : J} {τ : Trace I}
    (hslot : s.slot i = some (j, τ)) : ∃ τ', s'.slot i = some (j, τ') ∧ τ <+: τ' := by
  induction as generalizing s τ with
  | nil =>
    cases h
    exact ⟨τ, hslot, List.prefix_refl τ⟩
  | cons a as ih =>
    rw [exec_cons, Option.bind_eq_some_iff] at h
    obtain ⟨s₁, h₁, h₂⟩ := h
    obtain ⟨τ₁, hslot₁, hle₁⟩ := slot_step h₁ hslot
    obtain ⟨τ', hslot', hle'⟩ := ih h₂ hslot₁
    exact ⟨τ', hslot', hle₁.trans hle'⟩

/-- What the answer to a call starts, whatever the answer, is in a slot. -/
theorem exec_started {w : W} (j' : J) (h : S.exec (Pool.init w) as = some s) {i : Nat} {j : J}
    {τ : Trace I} {c : I.Call} {r : I.Answer c} (hslot : s.slot i = some (j, τ))
    (hmem : ⟨c, r⟩ ∈ τ)
    (hstarts : ∀ w i x w' r js, S.answer w i c x = some (w', r, js) → j' ∈ js) :
    ∃ k τ', s.slot k = some (j', τ') := by
  obtain ⟨τ₁, τ₂, rfl⟩ := List.append_of_mem hmem
  obtain ⟨as₁, x, as₂, s₁, s₂, -, -, hcalls, hafter⟩ := exec_moment h hslot
  obtain ⟨js, hanswer, hjobs⟩ := hcalls.jobs
  have hjob : j' ∈ s₂.jobs := by
    rw [hjobs]
    exact List.mem_append_right _ (hstarts _ _ _ _ _ _ hanswer)
  obtain ⟨k, hk, hget⟩ := List.mem_iff_getElem.mp hjob
  obtain ⟨τ', hslot'⟩ := PoolState.slot_of_job (List.getElem?_eq_some_iff.mpr ⟨hk, hget⟩)
  obtain ⟨τ'', hslot'', -⟩ := slot_exec hafter hslot'
  exact ⟨k, τ'', hslot''⟩

/-- Of two moments in different slots one comes first, and the state between them is the one
after it. -/
theorem moments_ordered {as₁ as₂ bs₁ bs₂ : List (Act J X)} {i k : Nat} {x y : X} (hik : i ≠ k)
    (h : as₁ ++ .step i x :: as₂ = bs₁ ++ .step k y :: bs₂) :
    (∃ cs, bs₁ = as₁ ++ .step i x :: cs) ∨ ∃ cs, as₁ = bs₁ ++ .step k y :: cs := by
  rcases List.append_eq_append_iff.mp h with ⟨cs, hbs, hcs⟩ | ⟨cs, has, hcs⟩
  · cases cs with
    | nil =>
      cases hcs
      exact absurd rfl hik
    | cons a cs =>
      cases hcs
      exact .inl ⟨cs, hbs⟩
  · cases cs with
    | nil =>
      cases hcs
      exact absurd rfl hik
    | cons a cs =>
      cases hcs
      exact .inr ⟨cs, has⟩

end Moments

/-! ## Where things come from -/

/-! What is looked at: `D` says that something is in the world, `M` that a call makes it, `V` that
an answer shows it. -/

section Origin

variable {α : Type} {D : W → α → Prop} {M : I.Call → α → Prop}

/-- It was in the world at the beginning, or some program has made it with one of its calls. -/
def Origin (D : W → α → Prop) (M : I.Call → α → Prop) (w : W) (s : PoolState I W J R)
    (b : α) : Prop :=
  D w b ∨ ∃ i j τ₁ c r τ₂, s.slot i = some (j, τ₁ ++ ⟨c, r⟩ :: τ₂) ∧ M c b

theorem Origin.step {w : W} {b : α} (hb : Origin D M w s b) (h : S.step s a = some s') :
    Origin D M w s' b := by
  rcases hb with hb | ⟨i, j, τ₁, c, r, τ₂, hslot, hmade⟩
  · exact .inl hb
  · obtain ⟨τ, hslot', τ₃, rfl⟩ := slot_step h hslot
    rw [List.append_assoc, List.cons_append] at hslot'
    exact .inr ⟨i, j, τ₁, c, r, τ₂ ++ τ₃, hslot', hmade⟩

/-- What is in the world has an origin, and so has whatever a program was shown of it. -/
theorem exec_origin {V : (c : I.Call) → I.Answer c → α → Prop} {w : W}
    (hmade : ∀ w i c x w' r js, S.answer w i c x = some (w', r, js) → ∀ b, D w' b →
      D w b ∨ M c b)
    (hshown : ∀ w i c x w' r js, S.answer w i c x = some (w', r, js) → ∀ b, V c r b → D w b)
    (h : S.exec (Pool.init w) as = some s) :
    (∀ b, D s.world b → Origin D M w s b) ∧
      ∀ i j τ c r b, s.slot i = some (j, τ) → ⟨c, r⟩ ∈ τ → V c r b → Origin D M w s b := by
  refine exec_invariant (C := fun _ _ => true) (Q := fun s : PoolState I W J R =>
    (∀ b, D s.world b → Origin D M w s b) ∧
      ∀ i j τ c r b, s.slot i = some (j, τ) → ⟨c, r⟩ ∈ τ → V c r b → Origin D M w s b)
    ?_ ⟨fun b hb => .inl hb, ?_⟩ (allSteps_of_forall fun _ _ _ => rfl) h
  · intro s a s' ⟨hitems, hslots⟩ _ hstep
    constructor
    · intro b hb
      cases a with
      | start j =>
        obtain ⟨-, rfl⟩ := step_start.mp hstep
        exact (hitems b hb).step hstep
      | step k x =>
        have hstep' := hstep
        obtain ⟨t, c, code, w', r, js, ht, -, ha, rfl⟩ := step_step.mp hstep'
        rcases hmade _ _ _ _ _ _ _ ha b hb with hb | hnew
        · exact (hitems b hb).step hstep
        · -- the call that has made it is the last one of this slot
          have hk : k < s.threads.length := (List.getElem?_eq_some_iff.mp ht).1
          refine .inr ⟨k, t.job, t.trace, c, r, [], ?_, hnew⟩
          rw [PoolState.slot, List.getElem?_append_left (by rwa [List.length_set]),
            List.getElem?_set_self hk]
          rfl
    · intro i j τ c r b hslot hmem hb
      rcases slot_cases hstep hslot with hslot | rfl | ⟨x, τ₀, c', r', -, rfl, hcalls⟩
      · exact (hslots i j τ c r b hslot hmem hb).step hstep
      · cases hmem
      · rcases List.mem_append.mp hmem with hmem | hmem
        · exact (hslots i j τ₀ c r b hcalls.slot hmem hb).step hstep
        · cases List.mem_singleton.mp hmem
          obtain ⟨js, ha⟩ := hcalls.answer
          exact (hitems b (hshown _ _ _ _ _ _ _ ha b hb)).step hstep
  · intro i j τ c r b hslot
    exact absurd hslot slot_init_ne_some

end Origin

/-! ## One program alone -/

section First

variable {G : Type} (S) (mark : G → I.Call → X → G)

/-- How the world may answer the program in the first slot, with a mark that every call
moves. -/
def Answers (s : W × G) (c : I.Call) (r : I.Answer c) (s' : W × G) : Prop :=
  ∃ x js, S.answer s.1 0 c x = some (s'.1, r, js) ∧ s'.2 = mark s.2 c x

/-- The mark after the first slot has taken these steps. -/
def marked (s : PoolState I W J R) (g : G) : List X → G
  | [] => g
  | x :: xs =>
    match S.step s (.step 0 x), s.nextCall 0 with
    | some s', some c => marked s' (mark g c x) xs
    | _, _ => g

/-- A condition on the calls and on how they go. -/
def onCalls (fine : I.Call → X → Bool) (s : PoolState I W J R) : Act J X → Bool
  | .start _ => true
  | .step i x => (s.nextCall i).all (fine · x)

variable {S mark} {Q : W × G → R → Prop} {g : G} {xs : List X}

theorem exec_first {t : Thread I J R} {a : R}
    (hA : Always (S.Answers mark) Q t.code (s.world, g)) (ht : s.threads[0]? = some t)
    (h : S.exec s (xs.map (.step 0)) = some s') (hr : s'.result 0 = some a) :
    Q (s'.world, S.marked mark s g xs) a := by
  induction xs generalizing s g t with
  | nil =>
    cases h
    rw [PoolState.code_of_result ht hr] at hA
    exact hA
  | cons x xs ih =>
    rw [List.map_cons, exec_cons, Option.bind_eq_some_iff] at h
    obtain ⟨s₁, h₁, h₂⟩ := h
    obtain ⟨t', c, k, w, r, js, ht', hc, ha, rfl⟩ := step_step.mp h₁
    obtain rfl : t = t' := Option.some.inj (ht.symm.trans ht')
    have hlt : 0 < s.threads.length := (List.getElem?_eq_some_iff.mp ht).1
    rw [hc] at hA
    have hnext := hA r (w, mark g c x) ⟨x, js, ha, rfl⟩
    have hnew : (s.threads.set 0 ⟨t.job, t.trace ++ [⟨c, r⟩], k r⟩ ++ js.map S.launch)[0]? =
        some ⟨t.job, t.trace ++ [⟨c, r⟩], k r⟩ := by
      rw [List.getElem?_append_left (by rwa [List.length_set]), List.getElem?_set_self hlt]
    have hrest := ih hnext hnew h₂
    simp only [marked, h₁, PoolState.nextCall_of_getElem? ht hc]
    exact hrest

/-- A mark that keeps in mind whether all calls were fine. -/
theorem marked_all (f : G → Bool) (mark : G → I.Call → X → G) (fine : I.Call → X → Bool)
    (hf : ∀ g c x, f (mark g c x) = (f g && fine c x))
    (h : S.exec s (xs.map (.step 0)) = some s') :
    f (S.marked mark s g xs) = (f g && S.allSteps (onCalls fine) s (xs.map (.step 0))) := by
  induction xs generalizing s g with
  | nil => exact (Bool.and_true _).symm
  | cons x xs ih =>
    rw [List.map_cons, exec_cons, Option.bind_eq_some_iff] at h
    obtain ⟨s₁, h₁, h₂⟩ := h
    obtain ⟨t, c, k, w, r, js, ht, hc, -, -⟩ := step_step.mp h₁
    have hnext := PoolState.nextCall_of_getElem? ht hc
    simp only [marked, allSteps, List.map_cons, h₁, hnext, onCalls, Option.all_some]
    rw [ih h₂, hf, Bool.and_assoc]

end First

end Pool

end Kubinate.Library
