import Mathlib.Algebra.Order.Ring.Int

/-!
# Machine arithmetic

An operation on machine words yields the exact result reduced to the range of the words. A
build with overflow checks panics where the two differ, and one without them goes on with
the reduced value, so both are recorded.

* `signed`, `unsigned`: the word for an exact result.
* `yields_bind`: the rule for what comes out of a computation that does not overflow.
-/

namespace Kubinate.Library

/-- A value, and whether an operation on the way to it has overflowed. -/
structure Overflowing (α : Type) where
  value : α
  overflowed : Bool
deriving DecidableEq, Repr

instance : Monad Overflowing where
  pure a := ⟨a, false⟩
  bind x f := ⟨(f x.value).value, x.overflowed || (f x.value).overflowed⟩

/-- The range of the signed words with `n` bits beside the sign. -/
def IsSigned (n : Nat) (x : Int) : Prop := -2 ^ n ≤ x ∧ x < 2 ^ n

instance (n : Nat) : DecidablePred (IsSigned n) := fun _ => inferInstanceAs (Decidable (_ ∧ _))

/-- The signed word for an exact result. -/
def signed (n : Nat) (exact : Int) : Overflowing Int :=
  ⟨exact.bmod (2 ^ (n + 1)), exact.bmod (2 ^ (n + 1)) != exact⟩

/-- The unsigned word of `n` bits for an exact result. -/
def unsigned (n : Nat) (exact : Nat) : Overflowing Nat :=
  ⟨exact % 2 ^ n, exact % 2 ^ n != exact⟩

namespace Overflowing

variable {α β : Type} {x : Overflowing α} {f : α → Overflowing β}

/-- Nothing overflows, and the value satisfies `P`. -/
def Yields (x : Overflowing α) (P : α → Prop) : Prop := x.overflowed = false ∧ P x.value

theorem yields_pure {a : α} {P : α → Prop} : Yields (pure a) P ↔ P a :=
  ⟨And.right, fun h => ⟨rfl, h⟩⟩

theorem yields_bind {P : β → Prop} : Yields (x >>= f) P ↔ Yields x fun a => Yields (f a) P := by
  show (x.overflowed || (f x.value).overflowed) = false ∧ P (f x.value).value ↔ _
  rw [Bool.or_eq_false_iff, and_assoc]
  rfl

theorem Yields.mono {P Q : α → Prop} (h : Yields x P) (hPQ : ∀ a, P a → Q a) : Yields x Q :=
  ⟨h.1, hPQ _ h.2⟩

end Overflowing

section Words

variable {n : Nat}

theorem bmod_eq_self_iff {x : Int} : x.bmod (2 ^ (n + 1)) = x ↔ IsSigned n x := by
  have hhalf : ((2 ^ (n + 1) : Nat) : Int) = 2 * 2 ^ n := by
    push_cast
    rw [pow_succ, mul_comm]
  have hpos : 0 < 2 ^ (n + 1) := Nat.two_pow_pos (n + 1)
  constructor
  · intro h
    have hle := Int.le_bmod (x := x) hpos
    have hlt := Int.bmod_lt (x := x) hpos
    rw [h] at hle hlt
    constructor <;> omega
  · rintro ⟨hle, hlt⟩
    apply Int.bmod_eq_of_le <;> omega

/-- A signed operation is exact exactly if its result is a word. -/
theorem signed_yields {exact : Int} {P : Int → Prop} :
    (signed n exact).Yields P ↔ IsSigned n exact ∧ P exact := by
  rw [Overflowing.Yields, signed, bne_eq_false_iff_eq, bmod_eq_self_iff]
  refine and_congr_right fun h => ?_
  rw [bmod_eq_self_iff.mpr h]

theorem unsigned_yields {exact : Nat} {P : Nat → Prop} :
    (unsigned n exact).Yields P ↔ exact < 2 ^ n ∧ P exact := by
  have hself : exact % 2 ^ n = exact ↔ exact < 2 ^ n :=
    ⟨fun h => h ▸ Nat.mod_lt _ (Nat.two_pow_pos n), Nat.mod_eq_of_lt⟩
  rw [Overflowing.Yields, unsigned, bne_eq_false_iff_eq, hself]
  refine and_congr_right fun h => ?_
  rw [Nat.mod_eq_of_lt h]

end Words

end Kubinate.Library
