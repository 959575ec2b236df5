import Kubinate.Library.Utf8
import Kubinate.Platform.Text
import Mathlib.Logic.Relation

/-!
# The canonical form of a recovery code

`generate_one` and `hash` of `crates/identity/src/recovery_codes.rs`. What is hashed is a code
without separators and in upper case, whatever was typed.

* `Edit`: one change to a code that is being typed, which leaves the canonical form as it is.
* `canonical_generateOne`: the canonical form of a generated code is the characters drawn.
* `recovery_code_canonical`: typed variants have one hash, generated codes with one canonical form
  are equal, and the canonical form of an ASCII text is its own.
-/

namespace Kubinate.Identity

open Library Platform

def alphabet : List Char := "0123456789ABCDEFGHJKMNPQRSTVWXYZ".toList

def codeLen : Nat := 10

/-- `draw i` is the index that the generator draws for the character at `i`. -/
def generateOne (draw : Nat → Fin alphabet.length) : String :=
  String.ofList ((List.range codeLen).foldl (fun chars i =>
    let chars := chars ++ [alphabet.get (draw i)]
    if i = codeLen / 2 - 1 then chars ++ ['-'] else chars) [])

/-- `char::to_uppercase`. Characters that are not ASCII are looked up in the tables of Unicode. -/
def toUppercase (table : Char → List Char) (c : Char) : List Char :=
  if c.toNat < 128 then [c.toUpper] else table c

/-- Hyphens and white space. -/
def isSeparator (c : Char) : Bool := isWhitespace c || c == '-'

/-- The text that is hashed. -/
def canonical (table : Char → List Char) (code : List Char) : List Char :=
  (code.filter fun c => !isSeparator c).flatMap (toUppercase table)

def RecoveryCodes.hash (table : Char → List Char) (sha256 : String → List UInt8) (code : String) :
    List UInt8 :=
  sha256 (String.ofList (canonical table code.toList))

/-! ## Character by character -/

section Characters

variable (table : Char → List Char)

/-- What becomes of one character. -/
def canonicalChar (c : Char) : List Char := if isSeparator c then [] else toUppercase table c

theorem canonical_eq_flatMap (code : List Char) :
    canonical table code = code.flatMap (canonicalChar table) := by
  induction code with
  | nil => rfl
  | cons c code ih =>
    rw [canonical] at ih
    rw [canonical, List.filter_cons, List.flatMap_cons, canonicalChar]
    cases hc : isSeparator c with
    | true => exact ih
    | false => exact congrArg (toUppercase table c ++ ·) ih

theorem canonicalChar_ascii {c : Char} (hc : c.toNat < 128) :
    canonicalChar table c = if isSeparator c then [] else [c.toUpper] := by
  rw [canonicalChar, toUppercase, if_pos hc]

theorem canonicalChar_congr {c c' : Char} (hc : c.toNat < 128) (hc' : c'.toNat < 128)
    (hsep : isSeparator c' = isSeparator c) (hupper : c'.toUpper = c.toUpper) :
    canonicalChar table c' = canonicalChar table c := by
  rw [canonicalChar_ascii table hc', canonicalChar_ascii table hc, hsep, hupper]

theorem canonicalChar_toUpper (c : Char) :
    canonicalChar table c.toUpper = canonicalChar table c := by
  by_cases hc : c.toNat < 128
  · have hcase : ∀ n < 128, (Char.ofNat n).toUpper.toNat < 128 ∧
        isSeparator (Char.ofNat n).toUpper = isSeparator (Char.ofNat n) ∧
        (Char.ofNat n).toUpper.toUpper = (Char.ofNat n).toUpper := by
      decide +kernel
    have hchar := hcase c.toNat hc
    rw [Char.ofNat_toNat] at hchar
    obtain ⟨hc', hsep, hupper⟩ := hchar
    exact canonicalChar_congr table hc hc' hsep hupper
  · rw [Utf8.toUpper_of_not_ascii hc]

theorem canonicalChar_toLower (c : Char) :
    canonicalChar table c.toLower = canonicalChar table c := by
  by_cases hc : c.toNat < 128
  · have hcase : ∀ n < 128, (Char.ofNat n).toLower.toNat < 128 ∧
        isSeparator (Char.ofNat n).toLower = isSeparator (Char.ofNat n) ∧
        (Char.ofNat n).toLower.toUpper = (Char.ofNat n).toUpper := by
      decide +kernel
    have hchar := hcase c.toNat hc
    rw [Char.ofNat_toNat] at hchar
    obtain ⟨hc', hsep, hupper⟩ := hchar
    exact canonicalChar_congr table hc hc' hsep hupper
  · rw [Utf8.toLower_of_not_ascii hc]

/-- What one ASCII character becomes does not change any more. -/
theorem canonicalChar_flatMap {c : Char} (hc : c.toNat < 128) :
    (canonicalChar table c).flatMap (canonicalChar table) = canonicalChar table c := by
  rw [canonicalChar_ascii table hc]
  cases hsep : isSeparator c with
  | true => rfl
  | false =>
    have hupper := canonicalChar_toUpper table c
    rw [canonicalChar_ascii table hc, hsep] at hupper
    exact (List.flatMap_singleton _ _).trans hupper

end Characters

/-! ## Typed variants -/

/-- One change to a text: the case of an ASCII letter, or a separator more or less. -/
inductive Edit : List Char → List Char → Prop
  | toUpper (as bs : List Char) (c : Char) : Edit (as ++ c :: bs) (as ++ c.toUpper :: bs)
  | toLower (as bs : List Char) (c : Char) : Edit (as ++ c :: bs) (as ++ c.toLower :: bs)
  | insert (as bs : List Char) (c : Char) (h : isSeparator c = true) :
    Edit (as ++ bs) (as ++ c :: bs)
  | remove (as bs : List Char) (c : Char) (h : isSeparator c = true) :
    Edit (as ++ c :: bs) (as ++ bs)

section Variants

variable {table : Char → List Char}

theorem canonical_cons_of_isSeparator {c : Char} (h : isSeparator c = true) (as bs : List Char) :
    canonical table (as ++ c :: bs) = canonical table (as ++ bs) := by
  rw [canonical, canonical, List.filter_append, List.filter_append,
    List.filter_cons_of_neg (by rw [h]; exact Bool.false_ne_true)]

theorem canonical_congr {c c' : Char} (h : canonicalChar table c' = canonicalChar table c)
    (as bs : List Char) : canonical table (as ++ c' :: bs) = canonical table (as ++ c :: bs) := by
  rw [canonical_eq_flatMap, canonical_eq_flatMap, List.flatMap_append, List.flatMap_append,
    List.flatMap_cons, List.flatMap_cons, h]

theorem canonical_edit {s s' : List Char} (h : Edit s s') :
    canonical table s' = canonical table s := by
  cases h with
  | toUpper as bs c => exact canonical_congr (canonicalChar_toUpper table c) as bs
  | toLower as bs c => exact canonical_congr (canonicalChar_toLower table c) as bs
  | insert as bs c hsep => exact canonical_cons_of_isSeparator hsep as bs
  | remove as bs c hsep => exact (canonical_cons_of_isSeparator hsep as bs).symm

theorem canonical_variant {s s' : List Char} (h : Relation.ReflTransGen Edit s s') :
    canonical table s' = canonical table s := by
  induction h with
  | refl => rfl
  | tail _ hstep ih => exact (canonical_edit hstep).trans ih

theorem canonical_idempotent {s : List Char} (h : ∀ c ∈ s, c.toNat < 128) :
    canonical table (canonical table s) = canonical table s := by
  rw [canonical_eq_flatMap, canonical_eq_flatMap, List.flatMap_assoc]
  exact List.flatMap_congr fun c hc => canonicalChar_flatMap table (h c hc)

end Variants

/-! ## Generated codes -/

/-- The characters that were drawn. -/
def drawn (draw : Nat → Fin alphabet.length) : List Char :=
  (List.range codeLen).map fun i => alphabet.get (draw i)

/-- The hyphen stands between the halves. -/
theorem toList_generateOne (draw : Nat → Fin alphabet.length) : (generateOne draw).toList =
    (drawn draw).take (codeLen / 2) ++ '-' :: (drawn draw).drop (codeLen / 2) :=
  String.toList_ofList.trans rfl

theorem canonicalChar_alphabet (table : Char → List Char) (i : Fin alphabet.length) :
    canonicalChar table (alphabet.get i) = [alphabet.get i] := by
  have hdigit : (alphabet.get i).toNat < 128 ∧ isSeparator (alphabet.get i) = false ∧
      (alphabet.get i).toUpper = alphabet.get i := by
    revert i
    decide +kernel
  rw [canonicalChar_ascii table hdigit.1, hdigit.2.1, hdigit.2.2]
  rfl

theorem canonical_generateOne (table : Char → List Char) (draw : Nat → Fin alphabet.length) :
    canonical table (generateOne draw).toList = drawn draw := by
  rw [toList_generateOne, canonical_cons_of_isSeparator (by decide), List.take_append_drop,
    canonical_eq_flatMap]
  have hdraw : ∀ c ∈ drawn draw, canonicalChar table c = [c] := by
    intro c hc
    obtain ⟨i, -, rfl⟩ := List.mem_map.mp hc
    exact canonicalChar_alphabet table (draw i)
  rw [List.flatMap_congr hdraw, List.flatMap_singleton']

/-- A code that was generated is recognised however its letters and separators are typed; no two
generated codes are taken for each other; and there is nothing to change in a canonical form. -/
theorem recovery_code_canonical (table : Char → List Char) (sha256 : String → List UInt8) :
    (∀ (draw : Nat → Fin alphabet.length) (typed : String),
      Relation.ReflTransGen Edit (generateOne draw).toList typed.toList →
      RecoveryCodes.hash table sha256 typed =
        RecoveryCodes.hash table sha256 (generateOne draw)) ∧
    (∀ draw draw' : Nat → Fin alphabet.length,
      canonical table (generateOne draw).toList = canonical table (generateOne draw').toList →
      generateOne draw = generateOne draw') ∧
    ∀ s : String, (∀ c ∈ s.toList, c.toNat < 128) →
      canonical table (canonical table s.toList) = canonical table s.toList := by
  refine ⟨fun draw typed h => ?_, fun draw draw' h => ?_, fun s => canonical_idempotent⟩
  · rw [RecoveryCodes.hash, RecoveryCodes.hash, canonical_variant h]
  · rw [canonical_generateOne, canonical_generateOne] at h
    apply String.toList_inj.mp
    rw [toList_generateOne, toList_generateOne, h]

end Kubinate.Identity
