import Mathlib.Data.List.Basic

/-!
# Bytes in groups of six bits

Three bytes have as many bits as four digits of base 64. What is left at the end of a text of
bytes takes two or three digits, and the bits of the last digit that belong to no byte are zero.

* `sextets`, `bytes`: both directions. Bits that fill no byte are dropped, and a single digit is
  no text.
* `Exact`: no bit is set that would be dropped, and no digit is alone.
* `bytes_sextets`, `bytes_map_sextets_iff`: the two directions are inverse to each other, on exact
  texts only.
-/

namespace Kubinate.Library.Base64

/-- Six bits. -/
abbrev Sextet := Fin 64

def sextet (n : Nat) : Sextet := Fin.ofNat 64 n

def sextets : List UInt8 → List Sextet
  | [] => []
  | [a] => [sextet (a.toNat / 4), sextet (a.toNat % 4 * 16)]
  | [a, b] =>
    [sextet (a.toNat / 4), sextet (a.toNat % 4 * 16 + b.toNat / 16), sextet (b.toNat % 16 * 4)]
  | a :: b :: c :: rest =>
    sextet (a.toNat / 4) :: sextet (a.toNat % 4 * 16 + b.toNat / 16) ::
      sextet (b.toNat % 16 * 4 + c.toNat / 64) :: sextet (c.toNat % 64) :: sextets rest

/-- The bytes that begin in the first, the second and the third of four digits. -/
def first (p q : Sextet) : UInt8 := UInt8.ofNat (p.val * 4 + q.val / 16)

def second (q r : Sextet) : UInt8 := UInt8.ofNat (q.val % 16 * 16 + r.val / 4)

def third (r s : Sextet) : UInt8 := UInt8.ofNat (r.val % 4 * 64 + s.val)

def bytes : List Sextet → Option (List UInt8)
  | [] => some []
  | [_] => none
  | [p, q] => some [first p q]
  | [p, q, r] => some [first p q, second q r]
  | p :: q :: r :: s :: rest =>
    (bytes rest).map fun bs => first p q :: second q r :: third r s :: bs

/-- The digits of whole bytes, with zeros after them. -/
structure Exact (v : List Sextet) : Prop where
  whole : v.length % 4 ≠ 1
  two : v.length % 4 = 2 → ∀ q ∈ v.getLast?, q.val % 16 = 0
  three : v.length % 4 = 3 → ∀ r ∈ v.getLast?, r.val % 4 = 0

/-! ## One group -/

section Group

variable (a b c : UInt8) (p q r s : Sextet)

theorem sextet_val (n : Nat) : (sextet n).val = n % 64 := rfl

theorem first_sextets (n : Nat) (hn : n < 16) :
    first (sextet (a.toNat / 4)) (sextet (a.toNat % 4 * 16 + n)) = a := by
  apply UInt8.toNat_inj.mp
  have ha := a.toNat_lt
  rw [first, UInt8.toNat_ofNat', sextet_val, sextet_val]
  omega

theorem second_sextets (m n : Nat) (hn : n < 4) :
    second (sextet (m % 4 * 16 + b.toNat / 16)) (sextet (b.toNat % 16 * 4 + n)) = b := by
  apply UInt8.toNat_inj.mp
  have hb := b.toNat_lt
  rw [second, UInt8.toNat_ofNat', sextet_val, sextet_val]
  omega

theorem third_sextets (m : Nat) :
    third (sextet (m % 16 * 4 + c.toNat / 64)) (sextet (c.toNat % 64)) = c := by
  apply UInt8.toNat_inj.mp
  have hc := c.toNat_lt
  rw [third, UInt8.toNat_ofNat', sextet_val, sextet_val]
  omega

theorem toNat_first : (first p q).toNat = p.val * 4 + q.val / 16 := by
  rw [first, UInt8.toNat_ofNat']
  omega

theorem toNat_second : (second q r).toNat = q.val % 16 * 16 + r.val / 4 := by
  rw [second, UInt8.toNat_ofNat']
  omega

theorem toNat_third : (third r s).toNat = r.val % 4 * 64 + s.val := by
  rw [third, UInt8.toNat_ofNat']
  omega

theorem sextet_first : sextet ((first p q).toNat / 4) = p := by
  apply Fin.ext
  rw [sextet_val, toNat_first]
  omega

theorem sextet_second :
    sextet ((first p q).toNat % 4 * 16 + (second q r).toNat / 16) = q := by
  apply Fin.ext
  rw [sextet_val, toNat_first, toNat_second]
  omega

theorem sextet_third :
    sextet ((second q r).toNat % 16 * 4 + (third r s).toNat / 64) = r := by
  apply Fin.ext
  rw [sextet_val, toNat_second, toNat_third]
  omega

theorem sextet_fourth : sextet ((third r s).toNat % 64) = s := by
  apply Fin.ext
  rw [sextet_val, toNat_third]
  omega

/-- The last digit of two, with nothing in its lower bits. -/
theorem sextet_second_of_two (h : q.val % 16 = 0) :
    sextet ((first p q).toNat % 4 * 16) = q := by
  apply Fin.ext
  rw [sextet_val, toNat_first]
  omega

/-- The last digit of three, with nothing in its lower bits. -/
theorem sextet_third_of_three (h : r.val % 4 = 0) :
    sextet ((second q r).toNat % 16 * 4) = r := by
  apply Fin.ext
  rw [sextet_val, toNat_second]
  omega

theorem exact_group (rest : List Sextet) : Exact (p :: q :: r :: s :: rest) ↔ Exact rest := by
  have hlength : (p :: q :: r :: s :: rest).length % 4 = rest.length % 4 := by
    simp only [List.length_cons]
    omega
  have hlast : rest ≠ [] → (p :: q :: r :: s :: rest).getLast? = rest.getLast? := by
    intro hne
    obtain ⟨u, l, rfl⟩ := List.exists_cons_of_ne_nil hne
    simp only [List.getLast?_cons_cons]
  constructor
  · intro h
    refine ⟨hlength ▸ h.whole, fun h2 => ?_, fun h3 => ?_⟩
    · rw [← hlast (by rintro rfl; cases h2)]
      exact h.two (hlength.trans h2)
    · rw [← hlast (by rintro rfl; cases h3)]
      exact h.three (hlength.trans h3)
  · intro h
    refine ⟨hlength.symm ▸ h.whole, fun h2 => ?_, fun h3 => ?_⟩
    · rw [hlength] at h2
      rw [hlast (by rintro rfl; cases h2)]
      exact h.two h2
    · rw [hlength] at h3
      rw [hlast (by rintro rfl; cases h3)]
      exact h.three h3

end Group

/-! ## Whole texts -/

theorem bytes_sextets (bs : List UInt8) : bytes (sextets bs) = some bs := by
  induction bs using sextets.induct with
  | case1 => rfl
  | case2 a =>
    have ha := first_sextets a 0 (by decide)
    rw [sextets, bytes, ← Nat.add_zero (a.toNat % 4 * 16), ha]
  | case3 a b =>
    have ha := first_sextets a (b.toNat / 16) (by have := b.toNat_lt; omega)
    have hb := second_sextets b a.toNat 0 (by decide)
    rw [sextets, bytes, ha, ← Nat.add_zero (b.toNat % 16 * 4), hb]
  | case4 a b c rest ih =>
    have ha := first_sextets a (b.toNat / 16) (by have := b.toNat_lt; omega)
    have hb := second_sextets b a.toNat (c.toNat / 64) (by have := c.toNat_lt; omega)
    rw [sextets, bytes, ih, Option.map_some, ha, hb, third_sextets]

theorem exact_sextets (bs : List UInt8) : Exact (sextets bs) := by
  induction bs using sextets.induct with
  | case1 =>
    refine ⟨by decide, fun h => ?_, fun h => ?_⟩
    · cases h
    · cases h
  | case2 a =>
    refine ⟨by simp [sextets], fun _ q hq => ?_, fun h => by simp [sextets] at h⟩
    obtain rfl : sextet (a.toNat % 4 * 16) = q := by simpa [sextets] using hq
    rw [sextet_val]
    omega
  | case3 a b =>
    refine ⟨by simp [sextets], fun h => by simp [sextets] at h, fun _ r hr => ?_⟩
    obtain rfl : sextet (b.toNat % 16 * 4) = r := by simpa [sextets] using hr
    rw [sextet_val]
    omega
  | case4 a b c rest ih =>
    rw [sextets]
    exact (exact_group _ _ _ _ _).mpr ih

/-- Exact digits are those of the bytes that they stand for. -/
theorem sextets_of_bytes {v : List Sextet} (h : Exact v) {bs : List UInt8}
    (hbytes : bytes v = some bs) : sextets bs = v := by
  induction v using bytes.induct generalizing bs with
  | case1 =>
    cases hbytes
    rfl
  | case2 p => cases hbytes
  | case3 p q =>
    cases hbytes
    have hq : q.val % 16 = 0 := h.two rfl q rfl
    rw [sextets, sextet_first, sextet_second_of_two p q hq]
  | case4 p q r =>
    cases hbytes
    have hr : r.val % 4 = 0 := h.three rfl r rfl
    rw [sextets, sextet_first, sextet_second, sextet_third_of_three q r hr]
  | case5 p q r s rest ih =>
    rw [bytes, Option.map_eq_some_iff] at hbytes
    obtain ⟨bs, hrest, rfl⟩ := hbytes
    have hsextets := ih ((exact_group p q r s rest).mp h) hrest
    rw [sextets, sextet_first, sextet_second, sextet_third, sextet_fourth, hsextets]

theorem bytes_isSome (v : List Sextet) : (bytes v).isSome = true ↔ v.length % 4 ≠ 1 := by
  induction v using bytes.induct with
  | case1 => decide
  | case2 p => simp [bytes]
  | case3 p q => simp [bytes]
  | case4 p q r => simp [bytes]
  | case5 p q r s rest ih =>
    rw [bytes, Option.isSome_map, ih]
    simp only [List.length_cons]
    omega

/-- What is read and written again is the same text iff it was exact. -/
theorem bytes_map_sextets_iff (v : List Sextet) : (bytes v).map sextets = some v ↔ Exact v := by
  constructor
  · intro h
    obtain ⟨bs, -, rfl⟩ := Option.map_eq_some_iff.mp h
    exact exact_sextets bs
  · intro h
    obtain ⟨bs, hbytes⟩ := Option.isSome_iff_exists.mp ((bytes_isSome v).mpr h.whole)
    rw [hbytes, Option.map_some, sextets_of_bytes h hbytes]

end Kubinate.Library.Base64
