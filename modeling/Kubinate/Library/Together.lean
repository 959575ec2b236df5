import Kubinate.Library.Program

/-!
# One program in two worlds

A program that runs alone, with the way each of its calls goes given beforehand, and the same
program in two worlds at once.

* `Program.replay`: the `n`-th call goes as `xs n` says.
* `Program.replayAll`: every call on the way satisfies a condition.
* `Always.replay`: what holds whichever way the calls go holds at the end of a replay.
* `Always.replayAll`: the same with a mark of the condition.
* `Together`: in both worlds the program gets the same answers, whatever way its calls go.
  `together_bind`, `together_bindE`, `together_forM` and `together_of_makes` are its rules,
  `Together.replay` says what follows for the two runs.
-/

namespace Kubinate.Library

variable {I : Interface} {W X α β ε : Type}

namespace Program

variable (answer : W → (c : I.Call) → X → Option (W × I.Answer c)) (xs : Nat → X)

/-- A call that gets no answer ends the run: its way is impossible. -/
def replay : Program I α → Nat → W → Option (W × α)
  | .done a, _, w => some (w, a)
  | .call c k, n, w => (answer w c (xs n)).bind fun (w', r) => (k r).replay (n + 1) w'

def replayAll (C : W → I.Call → X → Bool) : Program I α → Nat → W → Bool
  | .done _, _, _ => true
  | .call c k, n, w =>
    C w c (xs n) && (answer w c (xs n)).all fun (w', r) => (k r).replayAll C (n + 1) w'

variable {answer xs} {c : I.Call} {k : I.Answer c → Program I α} {n : Nat} {w w' : W} {r : I.Answer c}

theorem replay_call (h : answer w c (xs n) = some (w', r)) :
    (Program.call c k).replay answer xs n w = (k r).replay answer xs (n + 1) w' := by
  rw [replay, h]
  rfl

theorem replayAll_call {C : W → I.Call → X → Bool} (h : answer w c (xs n) = some (w', r))
    (hall : (Program.call c k).replayAll answer xs C n w = true) :
    C w c (xs n) = true ∧ (k r).replayAll answer xs C (n + 1) w' = true := by
  rw [replayAll, h, Bool.and_eq_true] at hall
  exact hall

end Program

/-- The ways in which a world may answer. -/
def Ways (answer : W → (c : I.Call) → X → Option (W × I.Answer c)) (w : W) (c : I.Call)
    (r : I.Answer c) (w' : W) : Prop :=
  ∃ x, answer w c x = some (w', r)

theorem Always.replay {answer : W → (c : I.Call) → X → Option (W × I.Answer c)} {xs : Nat → X}
    {Q : W → α → Prop} {p : Program I α} {n : Nat} {w w' : W} {a : α}
    (hp : Always (Ways answer) Q p w) (h : p.replay answer xs n w = some (w', a)) : Q w' a := by
  induction p generalizing n w with
  | done b =>
    cases h
    exact hp
  | call c k ih =>
    rw [Program.replay, Option.bind_eq_some_iff] at h
    obtain ⟨⟨v, r⟩, hanswer, hrest⟩ := h
    exact ih r (hp r v ⟨xs n, hanswer⟩) hrest

/-- The ways in which a world may answer, with a mark of the condition on the calls so far. -/
def Marking (answer : W → (c : I.Call) → X → Option (W × I.Answer c)) (F : X → Prop)
    (C : W → I.Call → X → Bool) (s : W × Bool) (c : I.Call) (r : I.Answer c) (s' : W × Bool) : Prop :=
  ∃ x, F x ∧ answer s.1 c x = some (s'.1, r) ∧ s'.2 = (s.2 && C s.1 c x)

/-- What holds with the mark at the end says how a replay depends on the condition. -/
theorem Always.replayAll {answer : W → (c : I.Call) → X → Option (W × I.Answer c)} {F : X → Prop}
    {C : W → I.Call → X → Bool} {xs : Nat → X} {Q : W × Bool → α → Prop} {p : Program I α} {n : Nat}
    {w w' : W} {fine : Bool} {a : α} (hp : Always (Marking answer F C) Q p (w, fine))
    (hF : ∀ n, F (xs n)) (h : p.replay answer xs n w = some (w', a)) :
    Q (w', fine && p.replayAll answer xs C n w) a := by
  induction p generalizing n w fine with
  | done b =>
    cases h
    rw [Program.replayAll, Bool.and_true]
    exact hp
  | call c k ih =>
    rw [Program.replay, Option.bind_eq_some_iff] at h
    obtain ⟨⟨v, r⟩, hanswer, hrest⟩ := h
    rw [Program.replayAll, hanswer, Option.all_some, ← Bool.and_assoc]
    exact ih r (hp r (v, fine && C w c (xs n)) ⟨xs n, hF n, hanswer, rfl⟩) hrest

/-- Two worlds, with a mark of the condition on the calls in the second. -/
structure Pair (W : Type) where
  fst : W
  snd : W
  fine : Bool

section Together

variable {answer : W → (c : I.Call) → X → Option (W × I.Answer c)} {C : W → I.Call → X → Bool}

/-- How both worlds answer one call. -/
inductive Meet (answer : W → (c : I.Call) → X → Option (W × I.Answer c))
    (C : W → I.Call → X → Bool) (s : Pair W) (c : I.Call) (x : X)
    (next : I.Answer c → Pair W → Prop) : Prop
  | impossible (h₁ : answer s.fst c x = none) (h₂ : answer s.snd c x = none)
  | same {w₁ w₂ : W} {r : I.Answer c} (h₁ : answer s.fst c x = some (w₁, r))
      (h₂ : answer s.snd c x = some (w₂, r)) (h : next r ⟨w₁, w₂, s.fine && C s.snd c x⟩)

theorem Meet.mono {s : Pair W} {c : I.Call} {x : X} {P Q : I.Answer c → Pair W → Prop}
    (h : Meet answer C s c x P) (hPQ : ∀ r s', P r s' → Q r s') : Meet answer C s c x Q := by
  cases h with
  | impossible h₁ h₂ => exact .impossible h₁ h₂
  | same h₁ h₂ h => exact .same h₁ h₂ (hPQ _ _ h)

/-- Whatever way the calls go, both worlds answer the same, and the end satisfies `Q`. -/
def Together (answer : W → (c : I.Call) → X → Option (W × I.Answer c)) (C : W → I.Call → X → Bool)
    (Q : Pair W → α → Prop) : Program I α → Pair W → Prop
  | .done a, s => Q s a
  | .call c k, s => ∀ x, Meet answer C s c x fun r s' => Together answer C Q (k r) s'

variable {Q : Pair W → α → Prop} {R : Pair W → β → Prop} {s : Pair W}

theorem Together.mono {Q' : Pair W → α → Prop} {p : Program I α} (hp : Together answer C Q p s)
    (hQ : ∀ s a, Q s a → Q' s a) : Together answer C Q' p s := by
  induction p generalizing s with
  | done a => exact hQ s a hp
  | call c k ih => exact fun x => (hp x).mono fun r _ h => ih r h

theorem together_bind {p : Program I α} {f : α → Program I β} (hp : Together answer C Q p s)
    (hf : ∀ s a, Q s a → Together answer C R (f a) s) : Together answer C R (p >>= f) s := by
  induction p generalizing s with
  | done a => exact hf s a hp
  | call c k ih => exact fun x => (hp x).mono fun r _ h => ih r h

theorem together_bindE {p : ExceptT ε (Program I) α} {f : α → ExceptT ε (Program I) β}
    {A : Pair W → α → Prop} {E : Pair W → ε → Prop} {R : Pair W → Except ε β → Prop}
    (hp : Together answer C (Post A E) p.run s)
    (hf : ∀ s a, A s a → Together answer C R (f a).run s)
    (he : ∀ s e, E s e → R s (.error e)) : Together answer C R (p >>= f).run s := by
  refine together_bind (p := p.run) hp ?_
  rintro s (e | a) hr
  · exact he s e hr
  · exact hf s a hr

theorem together_lift {p : Program I α} {A : Pair W → α → Prop} {E : Pair W → ε → Prop}
    (hp : Together answer C A p s) :
    Together answer C (Post A E) (ExceptT.lift p : ExceptT ε (Program I) α).run s :=
  together_bind hp fun _ _ h => h

/-- A loop: `K` holds with what is left of the list. -/
theorem together_forM {f : α → ExceptT ε (Program I) PUnit} {K : List α → Pair W → Prop}
    {E : Pair W → ε → Prop}
    (hf : ∀ a l s, K (a :: l) s → Together answer C (Post (fun s _ => K l s) E) (f a).run s)
    (l : List α) (h : K l s) : Together answer C (Post (fun s _ => K [] s) E) (l.forM f).run s := by
  induction l generalizing s with
  | nil => exact h
  | cons a l ih =>
    show Together answer C _ (f a >>= fun _ => l.forM f).run s
    exact together_bindE (hf a l s h) (fun s _ h => ih h) fun _ _ h => h

/-- Calls of a kind that keeps an invariant of the two worlds. -/
theorem together_of_makes {K : I.Call → Prop} {Inv : Pair W → Prop} {p : Program I α}
    (hp : Makes K p) (hK : ∀ c s x, K c → Inv s → Meet answer C s c x fun _ s' => Inv s')
    (hs : Inv s) : Together answer C (fun s' _ => Inv s') p s := by
  induction p generalizing s with
  | done a => exact hs
  | call c k ih => exact fun x => (hK c s x hp.1 hs).mono fun r _ h => ih r (hp.2 r) h

/-- The two runs of a program: both stop at an impossible call, or both end with the same. -/
theorem Together.replay {p : Program I α} (hp : Together answer C Q p s) (xs : Nat → X) (n : Nat) :
    (p.replay answer xs n s.fst = none ∧ p.replay answer xs n s.snd = none) ∨
      ∃ w₁ w₂ a, p.replay answer xs n s.fst = some (w₁, a) ∧
        p.replay answer xs n s.snd = some (w₂, a) ∧
        Q ⟨w₁, w₂, s.fine && p.replayAll answer xs C n s.snd⟩ a := by
  induction p generalizing s n with
  | done a =>
    refine .inr ⟨s.fst, s.snd, a, rfl, rfl, ?_⟩
    rw [Program.replayAll, Bool.and_true]
    exact hp
  | call c k ih =>
    rw [Program.replay, Program.replay, Program.replayAll]
    cases hp (xs n) with
    | impossible h₁ h₂ =>
      rw [h₁, h₂]
      exact .inl ⟨rfl, rfl⟩
    | same h₁ h₂ h =>
      rw [h₁, h₂]
      have hrest := ih _ h (n + 1)
      rw [Bool.and_assoc] at hrest
      exact hrest

end Together

end Kubinate.Library
