import Mathlib.Data.BitVec
import Mathlib.Data.List.Basic

/-!
# Types shared by all crates

Identifiers, instants and the canonical error type of `crates/platform/src/error.rs`.
-/

namespace Kubinate.Platform

/-- A UUID as its 128 bits. Postgres orders UUIDs by their bytes, which is the order of the
bit vectors as unsigned numbers. -/
abbrev Uuid := BitVec 128

instance : LawfulBEq Uuid := inferInstance

/-- The all-zero UUID. `app_current_tenant_id()` returns it when no tenant is set. -/
def Uuid.nil : Uuid := 0#128

/-- Microseconds since the epoch, the resolution of `TIMESTAMPTZ`. -/
abbrev Timestamp := Int

/-- The lower-case hexadecimal digit of the `k`-th nibble, the lowest being the 0th. -/
def Uuid.digit (u : Uuid) (k : Nat) : Char := Nat.digitChar (u.toNat / 16 ^ k % 16)

/-- The canonical text form: 32 digits in groups of 8, 4, 4, 4 and 12. -/
def Uuid.chars (u : Uuid) : List Char :=
  let digits := (List.range 32).map fun k => u.digit (31 - k)
  digits.take 8 ++ '-' :: (digits.drop 8).take 4 ++ '-' :: (digits.drop 12).take 4 ++
    '-' :: (digits.drop 16).take 4 ++ '-' :: digits.drop 20

def Uuid.text (u : Uuid) : String := String.ofList u.chars

theorem Uuid.mem_chars {u : Uuid} {c : Char} (h : c ∈ u.chars) : c = '-' ∨ ∃ k, c = u.digit k := by
  have hdigit : ∀ c, c ∈ (List.range 32).map (fun k => u.digit (31 - k)) →
      c = '-' ∨ ∃ k, c = u.digit k := by
    intro c hc
    obtain ⟨k, -, rfl⟩ := List.mem_map.mp hc
    exact .inr ⟨31 - k, rfl⟩
  simp only [Uuid.chars, List.mem_append, List.mem_cons] at h
  rcases h with (((h | rfl | h) | rfl | h) | rfl | h) | rfl | h
  · exact hdigit c (List.mem_of_mem_take h)
  · exact .inl rfl
  · exact hdigit c (List.mem_of_mem_drop (List.mem_of_mem_take h))
  · exact .inl rfl
  · exact hdigit c (List.mem_of_mem_drop (List.mem_of_mem_take h))
  · exact .inl rfl
  · exact hdigit c (List.mem_of_mem_drop (List.mem_of_mem_take h))
  · exact .inl rfl
  · exact hdigit c (List.mem_of_mem_drop h)

/-- The hyphens stand at fixed places. -/
theorem Uuid.digits_eq (u : Uuid) : (List.range 32).map (fun k => u.digit (31 - k)) =
    (((u.chars.eraseIdx 23).eraseIdx 18).eraseIdx 13).eraseIdx 8 := rfl

theorem Uuid.length_chars (u : Uuid) : u.chars.length = 36 := rfl

/-- A number is determined by its nibbles. -/
theorem eq_of_nibbles {m n n' : Nat} (hn : n < 16 ^ m) (hn' : n' < 16 ^ m)
    (h : ∀ k < m, n / 16 ^ k % 16 = n' / 16 ^ k % 16) : n = n' := by
  induction m generalizing n n' with
  | zero => omega
  | succ m ih =>
    have hlow := h 0 (Nat.succ_pos m)
    have hhigh : n / 16 = n' / 16 := by
      refine ih ?_ ?_ fun k hk => ?_
      · exact Nat.div_lt_of_lt_mul (by rwa [← Nat.pow_succ'])
      · exact Nat.div_lt_of_lt_mul (by rwa [← Nat.pow_succ'])
      · have hnext := h (k + 1) (Nat.succ_lt_succ hk)
        rwa [Nat.pow_succ', ← Nat.div_div_eq_div_mul, ← Nat.div_div_eq_div_mul] at hnext
    rw [Nat.pow_zero, Nat.div_one, Nat.div_one] at hlow
    omega

theorem Uuid.text_injective : Function.Injective Uuid.text := by
  intro u v h
  have hchars : u.chars = v.chars := String.ofList_injective h
  have hdigits := u.digits_eq
  rw [hchars, ← v.digits_eq, List.map_inj_left] at hdigits
  apply BitVec.eq_of_toNat_eq
  refine eq_of_nibbles u.isLt v.isLt (m := 32) fun k hk => ?_
  have hdigit := hdigits (31 - k) (List.mem_range.mpr (by omega))
  rw [Nat.sub_sub_self (Nat.le_of_lt_succ hk)] at hdigit
  have hall : ∀ a b : Fin 16, a.val.digitChar = b.val.digitChar → a = b := by decide
  exact Fin.mk.inj (hall ⟨_, Nat.mod_lt _ (by decide)⟩ ⟨_, Nat.mod_lt _ (by decide)⟩ hdigit)

/-- The errors of `sqlx` that the code tells apart or that the statements below can raise. -/
inductive SqlError where
  | uniqueViolation
  | foreignKeyViolation
  | rowSecurityViolation
  | undefinedColumn
  | columnDecode
  | rowNotFound
  | connection
deriving DecidableEq, Repr

inductive PlatformError where
  | notFound (message : String)
  | forbidden (message : String)
  | mfaRequired (message : String)
  | invalid (message : String)
  | conflict (message : String)
  | database (error : SqlError)
  | secret (message : String)
  | internal (message : String)
deriving DecidableEq, Repr

end Kubinate.Platform
