import Kubinate.Library.Program

/-!
# Calls that are programs themselves

A call of one interface is carried out by a program over another one: a remote command by the
processes that are started for it, a statement by the messages that are exchanged about it.

* `Program.implement impl p`: the program `p`, every call of it carried out by `impl`.
* `Reaches p τ q`: with the calls and answers of `τ`, the program `p` has come to `q`.
* `Carries impl h τ`: the calls and answers of `τ` carry out those of `h`, one after the other.
* `reaches_implement`: wherever the implementation has come to, the program has come as far, save
  for one call that is being carried out.
* `Meets.call_of_reaches`, `Meets.end_of_reaches`: what a specification says of such a point.
-/

namespace Kubinate.Library

variable {I J : Interface} {α β : Type}

/-- The same program over another interface, where each call is a program. -/
def Program.implement (impl : ∀ c : I.Call, Program J (I.Answer c)) : Program I α → Program J α
  | .done a => .done a
  | .call c k => impl c >>= fun r => (k r).implement impl

/-- The program has come this far: to `q`, with the calls and answers of the trace. -/
inductive Reaches : Program I α → Trace I → Program I α → Prop where
  | here (p : Program I α) : Reaches p [] p
  | call {c : I.Call} {k : I.Answer c → Program I α} {r : I.Answer c} {τ : Trace I}
      {q : Program I α} (hrest : Reaches (k r) τ q) : Reaches (.call c k) (⟨c, r⟩ :: τ) q

/-! ## What is reached -/

section Reaches

variable {p q : Program I α} {τ : Trace I}

theorem reaches_done {a : α} (h : Reaches (.done a : Program I α) τ q) : τ = [] ∧ q = .done a := by
  cases h
  exact ⟨rfl, rfl⟩

/-- The calls of a sequence are those of its first part, until it has ended. -/
theorem reaches_bind {f : α → Program I β} {q : Program I β} (h : Reaches (p >>= f) τ q) :
    (∃ c k, Reaches p τ (.call c k) ∧ q = .call c fun r => k r >>= f) ∨
      ∃ a τ₁ τ₂, τ = τ₁ ++ τ₂ ∧ Reaches p τ₁ (.done a) ∧ Reaches (f a) τ₂ q := by
  induction p generalizing τ with
  | done a => exact .inr ⟨a, [], τ, rfl, .here _, h⟩
  | call c k ih =>
    cases h with
    | here _ => exact .inl ⟨c, k, .here _, rfl⟩
    | call hrest =>
      rcases ih _ hrest with ⟨c', k', hm, rfl⟩ | ⟨a, τ₁, τ₂, rfl, h₁, h₂⟩
      · exact .inl ⟨c', k', .call hm, rfl⟩
      · exact .inr ⟨a, _ :: τ₁, τ₂, rfl, .call h₁, h₂⟩

variable {P : Trace I → I.Call → Prop} {Q : Trace I → α → Prop} {h : Trace I}

/-- A specification goes on from wherever the program has come to. -/
theorem Meets.of_reaches (hp : Meets P (fun _ _ _ => True) Q p h) (hq : Reaches p τ q) :
    Meets P (fun _ _ _ => True) Q q (h ++ τ) := by
  induction hq generalizing h with
  | here p => rwa [List.append_nil]
  | call _ ih => rw [List.append_cons]; exact ih (hp.2 _ trivial)

theorem Meets.call_of_reaches (hp : Meets P (fun _ _ _ => True) Q p []) {c : I.Call}
    {k : I.Answer c → Program I α} (hq : Reaches p τ (.call c k)) : P τ c :=
  (hp.of_reaches hq).1

theorem Meets.end_of_reaches (hp : Meets P (fun _ _ _ => True) Q p []) {a : α}
    (hq : Reaches p τ (.done a)) : Q τ a :=
  hp.of_reaches hq

/-- A point is reached by way of all that came before. -/
theorem reaches_split {τ₁ τ₂ : Trace I} (h : Reaches p (τ₁ ++ τ₂) q) :
    ∃ m, Reaches p τ₁ m ∧ Reaches m τ₂ q := by
  induction τ₁ generalizing p with
  | nil => exact ⟨p, .here p, h⟩
  | cons e τ₁ ih =>
    cases h with
    | call hrest =>
      obtain ⟨m, h₁, h₂⟩ := ih hrest
      exact ⟨m, .call h₁, h₂⟩

end Reaches

/-! ## What is carried out -/

section Carries

variable {impl : ∀ c : I.Call, Program J (I.Answer c)}

/-- Each call of the first trace was carried out, with its answer, by a piece of the second. -/
inductive Carries (impl : ∀ c : I.Call, Program J (I.Answer c)) : Trace I → Trace J → Prop where
  | nil : Carries impl [] []
  | cons {c : I.Call} {r : I.Answer c} {h : Trace I} {τ τ' : Trace J}
      (hcall : Reaches (impl c) τ (.done r)) (hrest : Carries impl h τ') :
      Carries impl (⟨c, r⟩ :: h) (τ ++ τ')

/-- Wherever the implementation has come to: the program has come to an end there, or to a call
that the implementation is carrying out. -/
theorem reaches_implement {p : Program I α} {τ : Trace J} {q : Program J α}
    (hq : Reaches (p.implement impl) τ q) :
    (∃ h a, Reaches p h (.done a) ∧ Carries impl h τ ∧ q = .done a) ∨
      ∃ h c k τ₁ τ₂ c' k', Reaches p h (.call c k) ∧ Carries impl h τ₁ ∧ τ = τ₁ ++ τ₂ ∧
        Reaches (impl c) τ₂ (.call c' k') ∧
        q = .call c' fun r' => k' r' >>= fun r => (k r).implement impl := by
  induction p generalizing τ with
  | done a =>
    obtain ⟨rfl, rfl⟩ := reaches_done hq
    exact .inl ⟨[], a, .here _, .nil, rfl⟩
  | call c k ih =>
    rcases reaches_bind hq with ⟨c', k', hm, rfl⟩ | ⟨r, τ₁, τ₂, rfl, h₁, h₂⟩
    · exact .inr ⟨[], c, k, [], τ, c', k', .here _, .nil, rfl, hm, rfl⟩
    · rcases ih r h₂ with ⟨h, a, hp, hh, rfl⟩ | ⟨h, c₁, k₁, τ₃, τ₄, c', k', hp, hh, rfl, hm, rfl⟩
      · exact .inl ⟨_ :: h, a, .call hp, .cons h₁ hh, rfl⟩
      · refine .inr ⟨_ :: h, c₁, k₁, τ₁ ++ τ₃, τ₄, c', k', .call hp, .cons h₁ hh, ?_, hm, rfl⟩
        rw [List.append_assoc]

/-- If no implementation makes more than `bound` calls of a kind, the calls of a kind in `h` count
at most `bound` times. -/
theorem Carries.countP_le {K : (Σ c : J.Call, J.Answer c) → Bool}
    {L : (Σ c : I.Call, I.Answer c) → Bool} {bound : Nat}
    (hbound : ∀ (c : I.Call) (r : I.Answer c) (τ : Trace J), Reaches (impl c) τ (.done r) →
      τ.countP K ≤ if L ⟨c, r⟩ then bound else 0)
    {h : Trace I} {τ : Trace J} (hh : Carries impl h τ) :
    τ.countP K ≤ bound * h.countP L := by
  induction hh with
  | nil => exact Nat.zero_le _
  | @cons c r h τ τ' hcall hrest ih =>
    have hone := hbound c r τ hcall
    rw [List.countP_append, List.countP_cons, Nat.mul_add]
    by_cases hL : L ⟨c, r⟩ = true
    · rw [if_pos hL] at hone ⊢
      omega
    · rw [if_neg hL] at hone ⊢
      omega

end Carries

end Kubinate.Library
