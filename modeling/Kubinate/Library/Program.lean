import Mathlib.Data.List.Basic
import Mathlib.Control.Lawful

/-!
# Programs that call out

Code that talks to a database or to a service is a tree of calls: `Program I α` makes
calls of the interface `I` and ends with a value. What a call does is left open; it is
fixed by whoever answers the calls (`Program.run` for a program running alone, the pool of
`Library.Pool` for programs that are interleaved).

* `Meets P G Q p h`: whatever the answers allowed by `G`, every call of `p` satisfies `P`
  and the end satisfies `Q`, where `P`, `G` and `Q` may look at the trace of everything
  called and answered so far, `h` to begin with.
* `Program.Ends answer Q p w`: run alone from the world `w`, the program ends inside `Q`.
* `Follows next P Q p s`: the same with a summary of the trace in its place, which every call
  with its answer moves. `follows_bind`, `follows_bindE`, `follows_forM` and `follows_mapM`
  are the rules for sequencing, for code that can fail and for loops.
* `Makes K p`: the calls of `p` are all of kind `K`; `MakesOnce K p`: at most one of them is.
* `Always step Q p s`: against an environment that may answer and move in several ways, the
  program ends inside `Q` whichever way it takes; `Leads step p s s' a` is one such way.

Fallible code is `ExceptT ε (Program I) α`, so that `throw`, `do` and the loops over lists
are the standard ones.
-/

namespace Kubinate.Library

/-- The calls a program can make, with the type of the answer to each. -/
structure Interface where
  Call : Type
  Answer : Call → Type

variable {I : Interface} {α β ε ε' : Type}

inductive Program (I : Interface) (α : Type) : Type where
  | done (a : α)
  | call (c : I.Call) (k : I.Answer c → Program I α)

namespace Program

protected def bind : Program I α → (α → Program I β) → Program I β
  | .done a, f => f a
  | .call c k, f => .call c fun r => (k r).bind f

instance : Monad (Program I) where
  pure := .done
  bind := Program.bind

@[simp] theorem pure_eq (a : α) : (pure a : Program I α) = .done a := rfl

@[simp] theorem done_bind (a : α) (f : α → Program I β) : (Program.done a >>= f) = f a := rfl

@[simp] theorem call_bind (c : I.Call) (k : I.Answer c → Program I α) (f : α → Program I β) :
    (Program.call c k >>= f) = .call c fun r => k r >>= f := rfl

instance : LawfulMonad (Program I) := by
  refine LawfulMonad.mk' _ ?_ (fun _ _ => rfl) ?_
  · intro α p
    induction p with
    | done a => rfl
    | call c k ih => exact congrArg (Program.call c) (funext ih)
  · intro α β γ p f g
    induction p with
    | done a => rfl
    | call c k ih => exact congrArg (Program.call c) (funext ih)

/-- The program that makes one call and returns the answer. -/
def perform (c : I.Call) : Program I (I.Answer c) := .call c .done

/-- The same program over another interface that has its calls. -/
def embed {J : Interface} (f : I.Call → J.Call) (g : ∀ c, J.Answer (f c) → I.Answer c) :
    Program I α → Program J α
  | .done a => .done a
  | .call c k => .call (f c) fun r => (k (g c r)).embed f g

theorem embed_bind {J : Interface} (f : I.Call → J.Call) (g : ∀ c, J.Answer (f c) → I.Answer c)
    (p : Program I α) (q : α → Program I β) :
    (p >>= q).embed f g = p.embed f g >>= fun a => (q a).embed f g := by
  induction p with
  | done a => rfl
  | call c k ih => exact congrArg (Program.call (f c)) (funext fun r => ih (g c r))

/-- Runs a program alone: each call is answered by `answer`, which also moves the world. -/
def run {W : Type} (answer : W → (c : I.Call) → W × I.Answer c) : Program I α → W → W × α
  | .done a, w => (w, a)
  | .call c k, w => (k (answer w c).2).run answer (answer w c).1

section Run

variable {W : Type} (answer : W → (c : I.Call) → W × I.Answer c)

@[simp] theorem run_done (a : α) (w : W) : (Program.done a : Program I α).run answer w = (w, a) :=
  rfl

theorem run_bind (p : Program I α) (f : α → Program I β) (w : W) :
    (p >>= f).run answer w = (f (p.run answer w).2).run answer (p.run answer w).1 := by
  induction p generalizing w with
  | done a => rfl
  | call c k ih => exact ih _ _

theorem run_invariant {Q : W → Prop} (h : ∀ w c, Q w → Q (answer w c).1) (p : Program I α) {w : W}
    (h0 : Q w) : Q (p.run answer w).1 := by
  induction p generalizing w with
  | done a => exact h0
  | call c k ih => exact ih _ (h w c h0)

/-- Where the program ends when it runs alone, and with what, satisfies `Q`. -/
def Ends (Q : W → α → Prop) (p : Program I α) (w : W) : Prop :=
  Q (p.run answer w).1 (p.run answer w).2

variable {answer} {Q Q' : W → α → Prop} {R : W → β → Prop} {w : W}

theorem ends_bind {p : Program I α} {f : α → Program I β} :
    Ends answer R (p >>= f) w ↔ Ends answer (fun w a => Ends answer R (f a) w) p w := by
  rw [Ends, run_bind]
  rfl

theorem Ends.mono {p : Program I α} (h : Ends answer Q p w) (hQ : ∀ w a, Q w a → Q' w a) :
    Ends answer Q' p w :=
  hQ _ _ h

theorem ends_bindE {p : ExceptT ε (Program I) α} {f : α → ExceptT ε (Program I) β}
    {Q : W → Except ε α → Prop} {R : W → Except ε β → Prop} (hp : Ends answer Q p.run w)
    (hf : ∀ w a, Q w (.ok a) → Ends answer R (f a).run w)
    (he : ∀ w e, Q w (.error e) → R w (.error e)) : Ends answer R (p >>= f).run w := by
  refine (ends_bind (p := p.run)).mpr (hp.mono ?_)
  rintro w (e | a) hr
  · exact he w e hr
  · exact hf w a hr

/-- A part that cannot fail. -/
theorem ends_liftE {p : Program I α} {f : α → ExceptT ε (Program I) β}
    {R : W → Except ε β → Prop} (h : Ends answer (fun w a => Ends answer R (f a).run w) p w) :
    Ends answer R (ExceptT.lift p >>= f).run w := by
  refine (ends_bind (p := p >>= fun a => pure (Except.ok (ε := ε) a))
    (f := ExceptT.bindCont f)).mpr ?_
  exact ends_bind.mpr h

theorem ends_iteE {c : Prop} [Decidable c] {p q : ExceptT ε (Program I) α}
    {Q : W → Except ε α → Prop} :
    Ends answer Q (if c then p else q).run w ↔
      (c → Ends answer Q p.run w) ∧ (¬ c → Ends answer Q q.run w) := by
  split <;> simp_all

end Run

end Program

/-- Everything a program has called so far with the answers it got, oldest first. -/
abbrev Trace (I : Interface) := List (Σ c : I.Call, I.Answer c)

/-! ## Specifications over traces -/

section Meets

variable {P P' : Trace I → I.Call → Prop} {G : Trace I → (c : I.Call) → I.Answer c → Prop}

/-- As long as the answers satisfy `G`, every call satisfies `P` and the end satisfies `Q`.
All three may look at the trace up to that point. -/
def Meets (P : Trace I → I.Call → Prop) (G : Trace I → (c : I.Call) → I.Answer c → Prop)
    (Q : Trace I → α → Prop) : Program I α → Trace I → Prop
  | .done a, h => Q h a
  | .call c k, h => P h c ∧ ∀ r, G h c r → Meets P G Q (k r) (h ++ [⟨c, r⟩])

variable {Q Q' : Trace I → α → Prop} {R : Trace I → β → Prop} {h : Trace I}

@[simp] theorem meets_done {a : α} : Meets P G Q (.done a) h ↔ Q h a := Iff.rfl

@[simp] theorem meets_call {c : I.Call} {k : I.Answer c → Program I α} :
    Meets P G Q (.call c k) h ↔ P h c ∧ ∀ r, G h c r → Meets P G Q (k r) (h ++ [⟨c, r⟩]) :=
  Iff.rfl

@[simp] theorem meets_perform {c : I.Call} {Q : Trace I → I.Answer c → Prop} :
    Meets P G Q (Program.perform c) h ↔ P h c ∧ ∀ r, G h c r → Q (h ++ [⟨c, r⟩]) r :=
  Iff.rfl

/-- Nothing is asked of the calls and of the end. -/
theorem meets_true (p : Program I α) :
    Meets (fun _ _ => True) G (fun _ _ => True) p h := by
  induction p generalizing h with
  | done a => trivial
  | call c k ih => exact ⟨trivial, fun r _ => ih r⟩

theorem meets_mono {p : Program I α} (hp : Meets P G Q p h) (hP : ∀ h c, P h c → P' h c)
    (hQ : ∀ h a, Q h a → Q' h a) : Meets P' G Q' p h := by
  induction p generalizing h with
  | done a => exact hQ h a hp
  | call c k ih => exact ⟨hP h c hp.1, fun r hr => ih r (hp.2 r hr)⟩

/-- A program only adds to the trace. -/
theorem meets_extends {p : Program I α} (hp : Meets P G Q p h) :
    Meets P G (fun h' a => h <+: h' ∧ Q h' a) p h := by
  suffices hext : ∀ h', h <+: h' → Meets P G Q p h' →
      Meets P G (fun h'' a => h <+: h'' ∧ Q h'' a) p h' from hext h (List.prefix_refl h) hp
  clear hp
  induction p with
  | done a => exact fun h' hle hp => ⟨hle, hp⟩
  | call c k ih =>
    exact fun h' hle hp => ⟨hp.1, fun r hr => ih r _ (hle.trans (List.prefix_append h' _)) (hp.2 r hr)⟩

theorem meets_bind {p : Program I α} {f : α → Program I β} (hp : Meets P G Q p h)
    (hf : ∀ h a, Q h a → Meets P G R (f a) h) : Meets P G R (p >>= f) h := by
  induction p generalizing h with
  | done a => exact hf h a hp
  | call c k ih => exact ⟨hp.1, fun r hr => ih r (hp.2 r hr)⟩

/-- A program over another interface: `F` relates the traces. -/
theorem meets_embed {J : Interface} {f : I.Call → J.Call} {g : ∀ c, J.Answer (f c) → I.Answer c}
    {F : Trace I → Trace J → Prop} {h' : Trace J} {P' : Trace J → J.Call → Prop}
    {Q' : Trace J → α → Prop} {p : Program I α} (hp : Meets P (fun _ _ _ => True) Q p h)
    (hP : ∀ h h' c, F h h' → P h c → P' h' (f c))
    (hF : ∀ h h' c r, F h h' → F (h ++ [⟨c, g c r⟩]) (h' ++ [⟨f c, r⟩]))
    (hQ : ∀ h h' a, F h h' → Q h a → Q' h' a) (hh : F h h') :
    Meets P' (fun _ _ _ => True) Q' (p.embed f g) h' := by
  induction p generalizing h h' with
  | done a => exact hQ h h' a hh hp
  | call c k ih =>
    exact ⟨hP h h' c hh hp.1, fun r _ => ih (g c r) (hp.2 (g c r) trivial) (hF h h' c r hh)⟩

/-- Sequencing of fallible code: a failure of the first part is the failure of the whole. -/
theorem meets_bindE {p : ExceptT ε (Program I) α} {f : α → ExceptT ε (Program I) β}
    {Q : Trace I → Except ε α → Prop} {R : Trace I → Except ε β → Prop}
    (hp : Meets P G Q p.run h) (hf : ∀ h a, Q h (.ok a) → Meets P G R (f a).run h)
    (he : ∀ h e, Q h (.error e) → R h (.error e)) : Meets P G R (p >>= f).run h := by
  refine meets_bind (p := p.run) hp ?_
  rintro h (e | a) hr
  · exact he h e hr
  · exact hf h a hr

theorem meets_iteE {c : Prop} [Decidable c] {p q : ExceptT ε (Program I) α}
    {Q : Trace I → Except ε α → Prop} :
    Meets P G Q (if c then p else q).run h ↔
      (c → Meets P G Q p.run h) ∧ (¬ c → Meets P G Q q.run h) := by
  split <;> simp_all

end Meets

/-! ## Specifications over a state -/

/-- Success satisfies `A` and failure satisfies `E`. -/
def Post {σ : Type} (A : σ → α → Prop) (E : σ → ε → Prop) (s : σ) : Except ε α → Prop
  | .ok a => A s a
  | .error e => E s e

section Follows

variable {σ : Type} {next : σ → (c : I.Call) → I.Answer c → σ} {P : σ → I.Call → Prop}

/-- Like `Meets`, for calls and ends that are specified by a summary of the trace: every
call satisfies `P` in the state reached so far, which the call and its answer then move. -/
def Follows (next : σ → (c : I.Call) → I.Answer c → σ) (P : σ → I.Call → Prop)
    (Q : σ → α → Prop) : Program I α → σ → Prop
  | .done a, s => Q s a
  | .call c k, s => P s c ∧ ∀ r, Follows next P Q (k r) (next s c r)

variable {Q Q' : σ → α → Prop} {R : σ → β → Prop} {s : σ}

theorem meets_of_follows {f : Trace I → σ} (hf : ∀ h c r, f (h ++ [⟨c, r⟩]) = next (f h) c r)
    {p : Program I α} {h : Trace I} (hp : Follows next P Q p (f h)) :
    Meets (fun h c => P (f h) c) (fun _ _ _ => True) (fun h a => Q (f h) a) p h := by
  induction p generalizing h with
  | done a => exact hp
  | call c k ih => exact ⟨hp.1, fun r _ => ih r (hf h c r ▸ hp.2 r)⟩

theorem Follows.mono {p : Program I α} (hp : Follows next P Q p s)
    (hQ : ∀ s a, Q s a → Q' s a) : Follows next P Q' p s := by
  induction p generalizing s with
  | done a => exact hQ s a hp
  | call c k ih => exact ⟨hp.1, fun r => ih r (hp.2 r)⟩

theorem follows_bind {p : Program I α} {f : α → Program I β} (hp : Follows next P Q p s)
    (hf : ∀ s a, Q s a → Follows next P R (f a) s) : Follows next P R (p >>= f) s := by
  induction p generalizing s with
  | done a => exact hf s a hp
  | call c k ih => exact ⟨hp.1, fun r => ih r (hp.2 r)⟩

variable {A : σ → α → Prop} {E : σ → ε → Prop} {Q : σ → Except ε β → Prop}

/-- Sequencing of fallible code: a failure of the first part is the failure of the whole. -/
theorem follows_bindE {p : ExceptT ε (Program I) α} {f : α → ExceptT ε (Program I) β}
    (hp : Follows next P (Post A E) p.run s) (hf : ∀ s a, A s a → Follows next P Q (f a).run s)
    (he : ∀ s e, E s e → Q s (.error e)) : Follows next P Q (p >>= f).run s := by
  refine follows_bind (p := p.run) hp ?_
  rintro s (e | a) hr
  · exact he s e hr
  · exact hf s a hr

theorem follows_iteE {c : Prop} [Decidable c] {p q : ExceptT ε (Program I) β}
    (hp : c → Follows next P Q p.run s) (hq : ¬ c → Follows next P Q q.run s) :
    Follows next P Q (if c then p else q).run s := by
  split
  · next h => exact hp h
  · next h => exact hq h

theorem follows_lift {p : Program I α} {A : σ → α → Prop} (hp : Follows next P A p s) :
    Follows next P (Post A E) (ExceptT.lift p : ExceptT ε (Program I) α).run s :=
  follows_bind hp fun _ _ h => h

/-- A loop: `K` holds with what is left of the list. -/
theorem follows_forM {f : α → ExceptT ε (Program I) PUnit} {K : List α → σ → Prop}
    (hf : ∀ a l s, K (a :: l) s → Follows next P (Post (fun s _ => K l s) E) (f a).run s)
    (l : List α) (h : K l s) :
    Follows next P (Post (fun s _ => K [] s) E) (l.forM f).run s := by
  induction l generalizing s with
  | nil => exact h
  | cons a l ih =>
    show Follows next P _ (f a >>= fun _ => l.forM f).run s
    exact follows_bindE (hf a l s h) (fun s _ h => ih h) fun _ _ h => h

/-- A loop that collects: `K` holds with what is left and with what was collected. -/
theorem follows_mapM {f : α → ExceptT ε (Program I) β} {K : List α → List β → σ → Prop}
    (hf : ∀ a l bs s, K (a :: l) bs s →
      Follows next P (Post (fun s b => K l (bs ++ [b]) s) E) (f a).run s)
    (l : List α) (bs : List β) (h : K l bs s) :
    Follows next P (Post (fun s bs' => K [] (bs ++ bs') s) E) (l.mapM f).run s := by
  induction l generalizing s bs with
  | nil =>
    show K [] (bs ++ []) s
    rw [List.append_nil]
    exact h
  | cons a l ih =>
    rw [List.mapM_cons]
    refine follows_bindE (hf a l bs s h) (fun s b hb => ?_) fun _ _ h => h
    refine follows_bindE (ih (bs ++ [b]) hb) (fun s bs' h => ?_) fun _ _ h => h
    show K [] (bs ++ b :: bs') s
    rwa [List.append_assoc, List.singleton_append] at h

end Follows

/-! ## Which calls a program makes -/

section Makes

variable {K : I.Call → Prop}

/-- Whatever the answers, the program makes only calls of this kind. -/
def Makes (K : I.Call → Prop) : Program I α → Prop
  | .done _ => True
  | .call c k => K c ∧ ∀ r, Makes K (k r)

theorem Makes.mono {K' : I.Call → Prop} {p : Program I α} (hp : Makes K p)
    (hK : ∀ c, K c → K' c) : Makes K' p := by
  induction p with
  | done a => trivial
  | call c k ih => exact ⟨hK c hp.1, fun r => ih r (hp.2 r)⟩

theorem makes_bind {p : Program I α} {f : α → Program I β} (hp : Makes K p)
    (hf : ∀ a, Makes K (f a)) : Makes K (p >>= f) := by
  induction p with
  | done a => exact hf a
  | call c k ih => exact ⟨hp.1, fun r => ih r (hp.2 r)⟩

theorem makes_bindE {p : ExceptT ε (Program I) α} {f : α → ExceptT ε (Program I) β}
    (hp : Makes K p.run) (hf : ∀ a, Makes K (f a).run) : Makes K (p >>= f).run := by
  refine makes_bind (p := p.run) hp ?_
  rintro (e | a)
  · trivial
  · exact hf a

theorem makes_iteE {c : Prop} [Decidable c] {p q : ExceptT ε (Program I) α} (hp : Makes K p.run)
    (hq : Makes K q.run) : Makes K (if c then p else q).run := by
  split
  · exact hp
  · exact hq

theorem makes_lift {p : Program I α} (hp : Makes K p) :
    Makes K (ExceptT.lift p : ExceptT ε (Program I) α).run :=
  makes_bind hp fun _ => trivial

theorem makes_true (p : Program I α) : Makes (fun _ => True) p := by
  induction p with
  | done a => trivial
  | call c k ih => exact ⟨trivial, ih⟩

theorem makes_embed {J : Interface} {K' : J.Call → Prop} {f : I.Call → J.Call}
    {g : ∀ c, J.Answer (f c) → I.Answer c} (hK : ∀ c, K c → K' (f c)) {p : Program I α}
    (hp : Makes K p) : Makes K' (p.embed f g) := by
  induction p with
  | done a => trivial
  | call c k ih => exact ⟨hK c hp.1, fun r => ih _ (hp.2 _)⟩

theorem makes_forM {f : α → ExceptT ε (Program I) PUnit} (hf : ∀ a, Makes K (f a).run)
    (l : List α) : Makes K (l.forM f).run := by
  induction l with
  | nil => trivial
  | cons a l ih =>
    show Makes K (f a >>= fun _ => l.forM f).run
    exact makes_bindE (hf a) fun _ => ih

theorem makes_mapM {f : α → ExceptT ε (Program I) β} (hf : ∀ a, Makes K (f a).run)
    (l : List α) : Makes K (l.mapM f).run := by
  induction l with
  | nil => trivial
  | cons a l ih =>
    rw [List.mapM_cons]
    exact makes_bindE (hf a) fun b => makes_bindE ih fun _ => trivial

/-- Calls of a kind that is always allowed: what is known about the end stays known. -/
theorem meets_of_makes {P P' : Trace I → I.Call → Prop}
    {G : Trace I → (c : I.Call) → I.Answer c → Prop} {Q : Trace I → α → Prop} {p : Program I α}
    {h : Trace I} (hp : Meets P G Q p h) (hmakes : Makes K p) (hK : ∀ h c, K c → P' h c) : Meets P' G Q p h := by
  induction p generalizing h with
  | done a => exact hp
  | call c k ih => exact ⟨hK h c hmakes.1, fun r hr => ih r (hp.2 r hr) (hmakes.2 r)⟩

theorem meets_and_makes {P : Trace I → I.Call → Prop}
    {G : Trace I → (c : I.Call) → I.Answer c → Prop} {Q : Trace I → α → Prop} {p : Program I α}
    {h : Trace I} (hp : Meets P G Q p h) (hmakes : Makes K p) :
    Meets (fun h c => K c ∧ P h c) G Q p h := by
  induction p generalizing h with
  | done a => exact hp
  | call c k ih => exact ⟨⟨hmakes.1, hp.1⟩, fun r hr => ih r (hp.2 r hr) (hmakes.2 r)⟩

/-- Calls of a kind that is always allowed and keeps an invariant of the summary. -/
theorem follows_of_makes {σ : Type} {next : σ → (c : I.Call) → I.Answer c → σ}
    {P : σ → I.Call → Prop} (Inv : σ → Prop) {s : σ} {p : Program I α} (hp : Makes K p)
    (hK : ∀ c s, K c → Inv s → P s c ∧ ∀ r, Inv (next s c r)) (hs : Inv s) :
    Follows next P (fun s' _ => Inv s') p s := by
  induction p generalizing s with
  | done a => exact hs
  | call c k ih =>
    obtain ⟨hP, hnext⟩ := hK c s hp.1 hs
    exact ⟨hP, fun r => ih r (hp.2 r) (hnext r)⟩

/-- Whatever the answers, the program makes at most one call of this kind. -/
def MakesOnce (K : I.Call → Prop) : Program I α → Prop
  | .done _ => True
  | .call c k => ∀ r, MakesOnce K (k r) ∧ (K c → Makes (fun c => ¬ K c) (k r))

theorem makesOnce_of_makes_not {p : Program I α} (hp : Makes (fun c => ¬ K c) p) :
    MakesOnce K p := by
  induction p with
  | done a => trivial
  | call c k ih => exact fun r => ⟨ih r (hp.2 r), fun hc => absurd hc hp.1⟩

theorem makesOnce_bind {p : Program I α} {f : α → Program I β} (hp : Makes (fun c => ¬ K c) p)
    (hf : ∀ a, MakesOnce K (f a)) : MakesOnce K (p >>= f) := by
  induction p with
  | done a => exact hf a
  | call c k ih => exact fun r => ⟨ih r (hp.2 r), fun hc => absurd hc hp.1⟩

theorem makesOnce_bind_last {p : Program I α} {f : α → Program I β} (hp : MakesOnce K p)
    (hf : ∀ a, Makes (fun c => ¬ K c) (f a)) : MakesOnce K (p >>= f) := by
  induction p with
  | done a => exact makesOnce_of_makes_not (hf a)
  | call c k ih => exact fun r => ⟨ih r (hp r).1, fun hc => makes_bind ((hp r).2 hc) hf⟩

theorem makesOnce_bindE {p : ExceptT ε (Program I) α} {f : α → ExceptT ε (Program I) β}
    (hp : Makes (fun c => ¬ K c) p.run) (hf : ∀ a, MakesOnce K (f a).run) :
    MakesOnce K (p >>= f).run := by
  refine makesOnce_bind (p := p.run) hp ?_
  rintro (e | a)
  · trivial
  · exact hf a

theorem makesOnce_bindE_last {p : ExceptT ε (Program I) α} {f : α → ExceptT ε (Program I) β}
    (hp : MakesOnce K p.run) (hf : ∀ a, Makes (fun c => ¬ K c) (f a).run) :
    MakesOnce K (p >>= f).run := by
  refine makesOnce_bind_last (p := p.run) hp ?_
  rintro (e | a)
  · trivial
  · exact hf a

theorem makesOnce_embed {J : Interface} {K' : J.Call → Prop} {f : I.Call → J.Call}
    {g : ∀ c, J.Answer (f c) → I.Answer c} (hK : ∀ c, K' (f c) ↔ K c) {p : Program I α}
    (hp : MakesOnce K p) : MakesOnce K' (p.embed f g) := by
  induction p with
  | done a => trivial
  | call c k ih =>
    refine fun r => ⟨ih _ (hp _).1, fun hc => ?_⟩
    exact makes_embed (fun c h h' => h ((hK c).mp h')) ((hp _).2 ((hK c).mp hc))

/-- A call of this kind is the first one. -/
theorem meets_of_makesOnce {G : Trace I → (c : I.Call) → I.Answer c → Prop} {p : Program I α}
    {h : Trace I} (hp : MakesOnce K p) (hfirst : ∀ e ∈ h, ¬ K e.1) :
    Meets (fun h c => K c → ∀ e ∈ h, ¬ K e.1) G (fun _ _ => True) p h := by
  induction p generalizing h with
  | done a => trivial
  | call c k ih =>
    refine ⟨fun _ => hfirst, fun r _ => ?_⟩
    by_cases hc : K c
    · exact meets_of_makes (meets_true _) ((hp r).2 hc) fun _ _ hnot h => absurd h hnot
    · refine ih r (hp r).1 fun e he => ?_
      rcases List.mem_append.mp he with he | he
      · exact hfirst e he
      · rw [List.mem_singleton.mp he]
        exact hc

end Makes

/-! ## Programs against an environment -/

section Always

variable {σ : Type} {step : σ → (c : I.Call) → I.Answer c → σ → Prop}

/-- Whatever the environment answers and wherever it moves, the end satisfies `Q`. -/
def Always (step : σ → (c : I.Call) → I.Answer c → σ → Prop) (Q : σ → α → Prop) :
    Program I α → σ → Prop
  | .done a, s => Q s a
  | .call c k, s => ∀ r s', step s c r s' → Always step Q (k r) s'

variable {Q : σ → α → Prop} {R : σ → β → Prop} {s : σ}

theorem Always.mono {Q' : σ → α → Prop} {p : Program I α} (hp : Always step Q p s)
    (hQ : ∀ s a, Q s a → Q' s a) : Always step Q' p s := by
  induction p generalizing s with
  | done a => exact hQ s a hp
  | call c k ih => exact fun r s' h => ih r (hp r s' h)

/-- An environment with fewer ways. -/
theorem Always.mono_step {step' : σ → (c : I.Call) → I.Answer c → σ → Prop} {p : Program I α}
    (hp : Always step Q p s) (h : ∀ s c r s', step' s c r s' → step s c r s') :
    Always step' Q p s := by
  induction p generalizing s with
  | done a => exact hp
  | call c k ih => exact fun r s' hs => ih r (hp r s' (h s c r s' hs))

theorem always_bind {p : Program I α} {f : α → Program I β} (hp : Always step Q p s)
    (hf : ∀ s a, Q s a → Always step R (f a) s) : Always step R (p >>= f) s := by
  induction p generalizing s with
  | done a => exact hf s a hp
  | call c k ih => exact fun r s' h => ih r (hp r s' h)

variable {A : σ → α → Prop} {E : σ → ε → Prop} {R : σ → Except ε β → Prop}

theorem always_bindE {p : ExceptT ε (Program I) α} {f : α → ExceptT ε (Program I) β}
    (hp : Always step (Post A E) p.run s) (hf : ∀ s a, A s a → Always step R (f a).run s)
    (he : ∀ s e, E s e → R s (.error e)) : Always step R (p >>= f).run s := by
  refine always_bind (p := p.run) hp ?_
  rintro s (e | a) hr
  · exact he s e hr
  · exact hf s a hr

theorem always_lift {p : Program I α} (hp : Always step A p s) :
    Always step (Post A E) (ExceptT.lift p : ExceptT ε (Program I) α).run s :=
  always_bind hp fun _ _ h => h

theorem always_iteE {c : Prop} [Decidable c] {p q : ExceptT ε (Program I) β}
    (hp : c → Always step R p.run s) (hq : ¬ c → Always step R q.run s) :
    Always step R (if c then p else q).run s := by
  split
  · next h => exact hp h
  · next h => exact hq h

/-- A program for one part of the environment. -/
theorem always_embed {J : Interface} {f : I.Call → J.Call} {g : ∀ c, J.Answer (f c) → I.Answer c}
    {step : σ → (c : J.Call) → J.Answer c → σ → Prop} {p : Program I α}
    (hp : Always (fun s c r s' => ∃ r', step s (f c) r' s' ∧ g c r' = r) Q p s) :
    Always step Q (p.embed f g) s := by
  induction p generalizing s with
  | done a => exact hp
  | call c k ih => exact fun r' s' h => ih (g c r') (hp (g c r') s' ⟨r', h, rfl⟩)

/-- A loop: `K` holds with what is left of the list. -/
theorem always_forM {f : α → ExceptT ε (Program I) PUnit} {K : List α → σ → Prop}
    (hf : ∀ a l s, K (a :: l) s → Always step (Post (fun s _ => K l s) E) (f a).run s)
    (l : List α) (h : K l s) : Always step (Post (fun s _ => K [] s) E) (l.forM f).run s := by
  induction l generalizing s with
  | nil => exact h
  | cons a l ih =>
    show Always step _ (f a >>= fun _ => l.forM f).run s
    exact always_bindE (hf a l s h) (fun s _ h => ih h) fun _ _ h => h

/-- A loop that collects: `K` holds with what is left and with what was collected. -/
theorem always_mapM {f : α → ExceptT ε (Program I) β} {K : List α → List β → σ → Prop}
    (hf : ∀ a l bs s, K (a :: l) bs s →
      Always step (Post (fun s b => K l (bs ++ [b]) s) E) (f a).run s)
    (l : List α) (bs : List β) (h : K l bs s) :
    Always step (Post (fun s bs' => K [] (bs ++ bs') s) E) (l.mapM f).run s := by
  induction l generalizing s bs with
  | nil =>
    show K [] (bs ++ []) s
    rw [List.append_nil]
    exact h
  | cons a l ih =>
    rw [List.mapM_cons]
    refine always_bindE (hf a l bs s h) (fun s b hb => ?_) fun _ _ h => h
    refine always_bindE (ih (bs ++ [b]) hb) (fun s bs' h => ?_) fun _ _ h => h
    show K [] (bs ++ b :: bs') s
    rwa [List.append_assoc, List.singleton_append] at h

theorem Always.and {Q' : σ → α → Prop} {p : Program I α} (hp : Always step Q p s)
    (hp' : Always step Q' p s) : Always step (fun s a => Q s a ∧ Q' s a) p s := by
  induction p generalizing s with
  | done a => exact ⟨hp, hp'⟩
  | call c k ih => exact fun r s' h => ih r (hp r s' h) (hp' r s' h)

/-- Calls of a kind that keeps an invariant. -/
theorem always_of_makes {K : I.Call → Prop} {Inv : σ → Prop} {p : Program I α} (hp : Makes K p)
    (hK : ∀ s c r s', K c → Inv s → step s c r s' → Inv s') (hs : Inv s) :
    Always step (fun s _ => Inv s) p s := by
  induction p generalizing s with
  | done a => exact hs
  | call c k ih => exact fun r s' h => ih r (hp.2 r) (hK s c r s' hp.1 hs h)

/-- What is known of a summary of the trace is known of the environment's. -/
theorem always_of_follows {τ : Type} {next : τ → (c : I.Call) → I.Answer c → τ}
    {P : τ → I.Call → Prop} {T : τ → α → Prop} {K : I.Call → Prop} {f : σ → τ}
    {p : Program I α} (hp : Follows next P T p (f s)) (hmakes : Makes K p)
    (hf : ∀ s c r s', K c → step s c r s' → f s' = next (f s) c r) :
    Always step (fun s a => T (f s) a) p s := by
  induction p generalizing s with
  | done a => exact hp
  | call c k ih => exact fun r s' h => ih r (hf s c r s' hmakes.1 h ▸ hp.2 r) (hmakes.2 r)

/-- The environment can take the program from the first state to the second, where it ends. -/
inductive Leads (step : σ → (c : I.Call) → I.Answer c → σ → Prop) :
    Program I α → σ → σ → α → Prop where
  | done (a : α) (s : σ) : Leads step (.done a) s s a
  | call {c : I.Call} {k : I.Answer c → Program I α} {r : I.Answer c} {s s₁ s' : σ} {a : α}
      (hstep : step s c r s₁) (hrest : Leads step (k r) s₁ s' a) : Leads step (.call c k) s s' a

theorem Always.leads {p : Program I α} {s' : σ} {a : α} (hp : Always step Q p s)
    (h : Leads step p s s' a) : Q s' a := by
  induction h with
  | done a s => exact hp
  | call hstep _ ih => exact ih (hp _ _ hstep)

/-- One way the environment can go: each call is answered by `answer`, while `π` of the state
is the world. -/
theorem Always.run {W : Type} {π : σ → W} {p : Program I α} (hp : Always step Q p s)
    (Inv : σ → Prop) (hs : Inv s) (answer : W → (c : I.Call) → W × I.Answer c)
    (h : ∀ s c, Inv s → ∃ s', step s c (answer (π s) c).2 s' ∧ π s' = (answer (π s) c).1 ∧ Inv s') :
    ∃ s', π s' = (p.run answer (π s)).1 ∧ Inv s' ∧ Q s' (p.run answer (π s)).2 := by
  induction p generalizing s with
  | done a => exact ⟨s, rfl, hs, hp⟩
  | call c k ih =>
    obtain ⟨s', hstep, hπ, hs'⟩ := h s c hs
    obtain ⟨s'', hend⟩ := ih _ (hp _ s' hstep) hs'
    rw [hπ] at hend
    exact ⟨s'', hend⟩

end Always

end Kubinate.Library
