import Kubinate.Library.Pool
import Mathlib.Data.List.Forall2

/-!
# Two executions that differ in what must not matter

Two runs of one pool, with one schedule each, whose answers are related by `S` (say, errors of one
kind with different texts).

* `Alike S R p q`: as long as the answers are related, both programs make the same calls, and
  their results are related by `R`. `alike_bind`, `alike_bindE`, `alike_forM` and `alike_mapM` are
  the rules for sequencing, for code that can fail and for loops.
* `Pool.allPairs`: a condition on the pairs of steps of two schedules.
* `Pool.exec_alike`: programs that are alike leave one world behind.
-/

namespace Kubinate.Library

variable {I : Interface} {α α' β β' ε ε' : Type}

/-- The same calls, as long as the answers are related by `S`, and results related by `R`. -/
inductive Alike (S : (c : I.Call) → I.Answer c → I.Answer c → Prop) (R : α → α' → Prop) :
    Program I α → Program I α' → Prop where
  | done {a : α} {b : α'} (h : R a b) : Alike S R (.done a) (.done b)
  | call {c : I.Call} {k : I.Answer c → Program I α} {k' : I.Answer c → Program I α'}
      (h : ∀ r r', S c r r' → Alike S R (k r) (k' r')) : Alike S R (.call c k) (.call c k')

/-- Both have succeeded or both have failed. -/
def Both (A : α → α' → Prop) (E : ε → ε' → Prop) : Except ε α → Except ε' α' → Prop
  | .ok a, .ok b => A a b
  | .error e, .error e' => E e e'
  | _, _ => False

section Alike

variable {S : (c : I.Call) → I.Answer c → I.Answer c → Prop} {R : α → α' → Prop}
  {T : β → β' → Prop}

theorem Alike.mono {R' : α → α' → Prop} {p : Program I α} {q : Program I α'}
    (h : Alike S R p q) (hR : ∀ a b, R a b → R' a b) : Alike S R' p q := by
  induction h with
  | done hab => exact .done (hR _ _ hab)
  | call _ ih => exact .call ih

theorem alike_bind {p : Program I α} {q : Program I α'} {f : α → Program I β}
    {g : α' → Program I β'} (h : Alike S R p q) (hfg : ∀ a b, R a b → Alike S T (f a) (g b)) :
    Alike S T (p >>= f) (q >>= g) := by
  induction h with
  | done hab => exact hfg _ _ hab
  | call _ ih => exact .call ih

/-- Programs over another interface. -/
theorem alike_embed {J : Interface} {S' : (c : J.Call) → J.Answer c → J.Answer c → Prop}
    {f : I.Call → J.Call} {g : ∀ c, J.Answer (f c) → I.Answer c}
    (hS : ∀ c r r', S' (f c) r r' → S c (g c r) (g c r')) {p : Program I α} {q : Program I α'}
    (h : Alike S R p q) : Alike S' R (p.embed f g) (q.embed f g) := by
  induction h with
  | done hab => exact .done hab
  | call _ ih => exact .call fun r r' hr => ih _ _ (hS _ r r' hr)

variable {A : α → α' → Prop} {E : ε → ε' → Prop}

theorem alike_bindE {p : ExceptT ε (Program I) α} {q : ExceptT ε' (Program I) α'}
    {f : α → ExceptT ε (Program I) β} {g : α' → ExceptT ε' (Program I) β'}
    {T : Except ε β → Except ε' β' → Prop} (h : Alike S (Both A E) p.run q.run)
    (hfg : ∀ a b, A a b → Alike S T (f a).run (g b).run)
    (he : ∀ e e', E e e' → T (.error e) (.error e')) :
    Alike S T (p >>= f).run (q >>= g).run := by
  refine alike_bind (p := p.run) (q := q.run) h ?_
  rintro (e | a) (e' | b) hab
  · exact .done (he e e' hab)
  · exact hab.elim
  · exact hab.elim
  · exact hfg a b hab

theorem alike_lift {p : Program I α} {q : Program I α'} (h : Alike S A p q) :
    Alike S (Both A E) (ExceptT.lift p : ExceptT ε (Program I) α).run
      (ExceptT.lift q : ExceptT ε' (Program I) α').run :=
  alike_bind h fun _ _ hab => .done hab

theorem alike_forM {f : α → ExceptT ε (Program I) PUnit} {E : ε → ε → Prop}
    (hf : ∀ a, Alike S (Both Eq E) (f a).run (f a).run) (l : List α) :
    Alike S (Both Eq E) (l.forM f).run (l.forM f).run := by
  induction l with
  | nil => exact .done rfl
  | cons a l ih =>
    show Alike S _ (f a >>= fun _ => l.forM f).run (f a >>= fun _ => l.forM f).run
    exact alike_bindE (hf a) (fun _ _ _ => ih) fun _ _ he => he

theorem alike_mapM {f : α → ExceptT ε (Program I) β} {E : ε → ε → Prop}
    (hf : ∀ a, Alike S (Both Eq E) (f a).run (f a).run) (l : List α) :
    Alike S (Both Eq E) (l.mapM f).run (l.mapM f).run := by
  induction l with
  | nil => exact .done rfl
  | cons a l ih =>
    rw [List.mapM_cons]
    refine alike_bindE (hf a) (fun b b' hb => ?_) fun _ _ he => he
    refine alike_bindE ih (fun bs bs' hbs => ?_) fun _ _ he => he
    exact .done (congrArg₂ List.cons hb hbs)

end Alike

namespace Pool

variable {W J X Res : Type} (P : Pool I W J X Res)

/-- Every pair of steps of the two schedules satisfies `C`, in the state of the first run. -/
def allPairs (C : PoolState I W J Res → Act J X → Act J X → Bool) (s : PoolState I W J Res) :
    List (Act J X) → List (Act J X) → Bool
  | [], [] => true
  | a :: as, a' :: as' =>
    C s a a' &&
      match P.step s a with
      | none => true
      | some s' => allPairs C s' as as'
  | _, _ => false

/-- One world, and the same jobs with programs that are alike. -/
structure Lockstep (S : (c : I.Call) → I.Answer c → I.Answer c → Prop)
    (s s' : PoolState I W J Res) : Prop where
  world : s.world = s'.world
  threads : List.Forall₂ (fun t t' => t.job = t'.job ∧ Alike S (fun _ _ => True) t.code t'.code)
    s.threads s'.threads

/-- The two ways of a call lead to one world, start the same jobs and get related answers. -/
def Agree (S : (c : I.Call) → I.Answer c → I.Answer c → Prop) (w : W) (i : Nat) (c : I.Call)
    (x x' : X) : Prop :=
  (P.answer w i c x = none ∧ P.answer w i c x' = none) ∨
    ∃ w' r r' js, P.answer w i c x = some (w', r, js) ∧ P.answer w i c x' = some (w', r', js) ∧
      S c r r'

variable {P} {S : (c : I.Call) → I.Answer c → I.Answer c → Prop} {s s' t t' : PoolState I W J Res}

theorem lockstep_launch (hprog : ∀ j, Alike S (fun _ _ => True) (P.prog j) (P.prog j))
    (js : List J) : List.Forall₂ (fun t t' : Thread I J Res =>
      t.job = t'.job ∧ Alike S (fun _ _ => True) t.code t'.code)
      (js.map P.launch) (js.map P.launch) :=
  List.forall₂_same.mpr fun t ht => by
    obtain ⟨j, -, rfl⟩ := List.mem_map.mp ht
    exact ⟨rfl, hprog j⟩

theorem Lockstep.start (h : Lockstep S s s')
    (hprog : ∀ j, Alike S (fun _ _ => True) (P.prog j) (P.prog j)) {j : J}
    (hs : P.step s (.start j) = some t) (hs' : P.step s' (.start j) = some t') :
    Lockstep S t t' := by
  obtain ⟨-, rfl⟩ := step_start.mp hs
  obtain ⟨-, rfl⟩ := step_start.mp hs'
  exact ⟨h.world, List.rel_append h.threads (lockstep_launch hprog [j])⟩

theorem forall₂_set {γ δ : Type} {Q : γ → δ → Prop} {l : List γ} {m : List δ}
    (h : List.Forall₂ Q l m) (i : Nat) {a : γ} {b : δ} (hab : Q a b) :
    List.Forall₂ Q (l.set i a) (m.set i b) := by
  induction h generalizing i with
  | nil => exact .nil
  | cons hcd htail ih =>
    cases i with
    | zero => exact .cons hab htail
    | succ i => exact .cons hcd (ih i)

theorem Lockstep.call (h : Lockstep S s s')
    (hprog : ∀ j, Alike S (fun _ _ => True) (P.prog j) (P.prog j)) {i : Nat} {x x' : X}
    (hagree : ∀ c, s.nextCall i = some c → P.Agree S s.world i c x x')
    (hs : P.step s (.step i x) = some t) (hs' : P.step s' (.step i x') = some t') :
    Lockstep S t t' := by
  obtain ⟨u, c, k, w, r, js, hu, hc, ha, rfl⟩ := step_step.mp hs
  obtain ⟨u', c', k', w', r', js', hu', hc', ha', rfl⟩ := step_step.mp hs'
  obtain ⟨hi, rfl⟩ := List.getElem?_eq_some_iff.mp hu
  obtain ⟨hi', rfl⟩ := List.getElem?_eq_some_iff.mp hu'
  obtain ⟨hjob, hcode⟩ := List.Forall₂.get h.threads hi hi'
  change Alike S _ s.threads[i].code s'.threads[i].code at hcode
  rw [hc, hc'] at hcode
  cases hcode with
  | call hk =>
    have hnext : s.nextCall i = some c := PoolState.nextCall_of_getElem? hu hc
    rw [← h.world] at ha'
    rcases hagree c hnext with ⟨hnone, -⟩ | ⟨w₁, r₁, r₂, js₁, h₁, h₂, hr⟩
    · rw [hnone] at ha
      cases ha
    · rw [h₁] at ha
      rw [h₂] at ha'
      cases ha
      cases ha'
      refine ⟨rfl, List.rel_append (forall₂_set h.threads i ?_) (lockstep_launch hprog js)⟩
      exact ⟨hjob, hk r r' hr⟩

/-- Two runs whose steps agree, pair by pair, end in one world. -/
theorem exec_alike {C : PoolState I W J Res → Act J X → Act J X → Bool}
    (hprog : ∀ j, Alike S (fun _ _ => True) (P.prog j) (P.prog j))
    (hC : ∀ s a a', C s a a' = true → (∃ j, a = .start j ∧ a' = .start j) ∨
      ∃ i x x', a = .step i x ∧ a' = .step i x' ∧
        ∀ c, s.nextCall i = some c → P.Agree S s.world i c x x')
    {as as' : List (Act J X)} (h : Lockstep S s s') (hpairs : P.allPairs C s as as' = true)
    (hexec : P.exec s as = some t) (hexec' : P.exec s' as' = some t') : Lockstep S t t' := by
  induction as generalizing s s' as' with
  | nil =>
    cases as' with
    | nil =>
      cases hexec
      cases hexec'
      exact h
    | cons a' as' => cases hpairs
  | cons a as ih =>
    cases as' with
    | nil => cases hpairs
    | cons a' as' =>
      rw [exec_cons, Option.bind_eq_some_iff] at hexec hexec'
      obtain ⟨s₁, h₁, h₂⟩ := hexec
      obtain ⟨s₁', h₁', h₂'⟩ := hexec'
      rw [allPairs, h₁, Bool.and_eq_true] at hpairs
      refine ih ?_ hpairs.2 h₂ h₂'
      rcases hC s a a' hpairs.1 with ⟨j, rfl, rfl⟩ | ⟨i, x, x', rfl, rfl, hagree⟩
      · exact h.start hprog h₁ h₁'
      · exact h.call hprog hagree h₁ h₁'

end Pool

end Kubinate.Library
