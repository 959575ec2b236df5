import Mathlib.Data.List.Basic
import Mathlib.Tactic.SplitIfs

/-!
# Text as UTF-8

* `utf8EncodeChar_cases`: what the encoding of a character looks like.
* `encode_injective`, `encode_map_toLower`: the bytes determine the text, and folding the case of
  the ASCII letters commutes with the encoding.
* `splitAtByte_isSome`: a text can be cut exactly where no continuation byte follows.
-/

namespace Kubinate.Library.Utf8

def encode (cs : List Char) : List UInt8 := cs.flatMap String.utf8EncodeChar

/-- A byte that does not begin a character. -/
def isContinuation (b : UInt8) : Bool := 128 ≤ b.toNat && b.toNat < 192

/-- A character is a single byte below 128, or a leading byte and continuation bytes. -/
theorem utf8EncodeChar_cases (c : Char) :
    c.toNat < 128 ∧ String.utf8EncodeChar c = [UInt8.ofNat c.toNat] ∨
      128 ≤ c.toNat ∧ ∃ b bs, String.utf8EncodeChar c = b :: bs ∧ 192 ≤ b.toNat ∧
        ∀ x ∈ bs, isContinuation x = true := by
  have hcont : ∀ n, isContinuation (UInt8.ofNat (n % 64 + 128)) = true := by
    intro n
    rw [isContinuation, UInt8.toNat_ofNat', Bool.and_eq_true, decide_eq_true_eq,
      decide_eq_true_eq]
    omega
  have hc : c.toNat = c.val.toNat := rfl
  unfold String.utf8EncodeChar
  dsimp only
  split_ifs with h₁ h₂ h₃
  · exact .inl ⟨by omega, rfl⟩
  · refine .inr ⟨by omega, _, _, rfl, ?_, ?_⟩
    · rw [UInt8.toNat_ofNat']
      omega
    · exact List.forall_mem_cons.mpr ⟨hcont _, List.forall_mem_nil _⟩
  · refine .inr ⟨by omega, _, _, rfl, ?_, ?_⟩
    · rw [UInt8.toNat_ofNat']
      omega
    · exact List.forall_mem_cons.mpr ⟨hcont _, List.forall_mem_cons.mpr
        ⟨hcont _, List.forall_mem_nil _⟩⟩
  · refine .inr ⟨by omega, _, _, rfl, ?_, ?_⟩
    · rw [UInt8.toNat_ofNat']
      omega
    · exact List.forall_mem_cons.mpr ⟨hcont _, List.forall_mem_cons.mpr
        ⟨hcont _, List.forall_mem_cons.mpr ⟨hcont _, List.forall_mem_nil _⟩⟩⟩

/-- A byte below 128 is the encoding of its own character only. -/
theorem mem_utf8EncodeChar_ascii {b : UInt8} (hb : b.toNat < 128) {c : Char} :
    b ∈ String.utf8EncodeChar c ↔ c.toNat = b.toNat := by
  rcases utf8EncodeChar_cases c with ⟨hc, hbytes⟩ | ⟨hc, lead, rest, hbytes, hlead, hrest⟩
  · rw [hbytes, List.mem_singleton, ← UInt8.toNat_inj, UInt8.toNat_ofNat']
    omega
  · refine iff_of_false (fun hmem => ?_) (by omega)
    rw [hbytes] at hmem
    rcases List.mem_cons.mp hmem with rfl | hmem
    · omega
    · have hcont := hrest b hmem
      rw [isContinuation, Bool.and_eq_true, decide_eq_true_eq] at hcont
      omega

theorem encode_injective : Function.Injective encode := by
  intro s t h
  have hbytes : (String.ofList s).toByteArray = (String.ofList t).toByteArray := by
    rw [← String.utf8Encode_toList, ← String.utf8Encode_toList, String.toList_ofList,
      String.toList_ofList]
    exact congrArg List.toByteArray h
  exact String.ofList_injective (String.toByteArray_inj.mp hbytes)

/-! ## Folding the case of ASCII letters -/

/-- Characters that are not ASCII have no case. -/
theorem toUpper_of_not_ascii {c : Char} (hc : ¬c.toNat < 128) : c.toUpper = c := by
  have hval : c.toNat = c.val.toNat := rfl
  unfold Char.toUpper
  refine dif_neg fun hlower => ?_
  have hle : c.val.toNat ≤ 122 := hlower.2
  omega

theorem toLower_of_not_ascii {c : Char} (hc : ¬c.toNat < 128) : c.toLower = c := by
  have hval : c.toNat = c.val.toNat := rfl
  unfold Char.toLower
  refine dif_neg fun hupper => ?_
  have hle : c.val.toNat ≤ 90 := hupper.2
  omega

/-- `u8::to_ascii_lowercase` -/
def asciiLower (b : UInt8) : UInt8 := if 65 ≤ b.toNat ∧ b.toNat ≤ 90 then b + 32 else b

theorem utf8EncodeChar_toLower (c : Char) :
    String.utf8EncodeChar c.toLower = (String.utf8EncodeChar c).map asciiLower := by
  have hkept : ∀ b : UInt8, 128 ≤ b.toNat → asciiLower b = b := fun b hb => if_neg (by omega)
  rcases utf8EncodeChar_cases c with ⟨hc, -⟩ | ⟨hc, b, bs, hbytes, hlead, htail⟩
  · have hall : ∀ n : Fin 128, String.utf8EncodeChar (Char.ofNat n).toLower =
        (String.utf8EncodeChar (Char.ofNat n)).map asciiLower := by decide +kernel
    have hchar := hall ⟨c.toNat, hc⟩
    rwa [Char.ofNat_toNat] at hchar
  · have hlower := toLower_of_not_ascii (Nat.not_lt.mpr hc)
    have hbs : bs.map asciiLower = bs := by
      refine (List.map_congr_left fun x hx => ?_).trans (List.map_id bs)
      have hcont := htail x hx
      rw [isContinuation, Bool.and_eq_true, decide_eq_true_eq] at hcont
      exact hkept x hcont.1
    rw [hlower, hbytes, List.map_cons, hkept b (by omega), hbs]

theorem encode_map_toLower (cs : List Char) :
    encode (cs.map Char.toLower) = (encode cs).map asciiLower := by
  rw [encode, encode, List.flatMap_map, List.map_flatMap]
  exact List.flatMap_congr fun c _ => utf8EncodeChar_toLower c

/-! ## Cutting -/

/-- No character goes on at the byte with this index. -/
def endsBefore (bytes : List UInt8) (i : Nat) : Bool :=
  match bytes[i]? with
  | some b => !isContinuation b
  | none => i == bytes.length

/-- `str::is_char_boundary`, on the bytes of the text. -/
def isCharBoundary (bytes : List UInt8) (i : Nat) : Bool := i == 0 || endsBefore bytes i

/-- The characters before the byte with this index and those from it on, if a character begins
or the text ends there. -/
def splitAtByte : List Char → Nat → Option (List Char × List Char)
  | [], i => if i = 0 then some ([], []) else none
  | c :: cs, i =>
    if i = 0 then some ([], c :: cs)
    else if c.utf8Size ≤ i then (splitAtByte cs (i - c.utf8Size)).map fun p => (c :: p.1, p.2)
    else none

theorem encode_cons (c : Char) (cs : List Char) :
    encode (c :: cs) = String.utf8EncodeChar c ++ encode cs := List.flatMap_cons

theorem splitAtByte_zero (cs : List Char) : splitAtByte cs 0 = some ([], cs) := by
  cases cs <;> rfl

/-- The parts that a text is cut into. -/
theorem eq_append_of_splitAtByte {cs p s : List Char} {i : Nat}
    (h : splitAtByte cs i = some (p, s)) : cs = p ++ s ∧ (encode p).length = i := by
  induction cs generalizing p i with
  | nil =>
    unfold splitAtByte at h
    split at h
    · next hi =>
      cases h
      exact ⟨rfl, hi.symm⟩
    · cases h
  | cons c cs ih =>
    unfold splitAtByte at h
    split at h
    · next hi =>
      cases h
      exact ⟨rfl, hi.symm⟩
    split at h
    · next hle =>
      obtain ⟨⟨p', s'⟩, hsplit, hparts⟩ := Option.map_eq_some_iff.mp h
      cases hparts
      obtain ⟨hcs, hlength⟩ := ih hsplit
      refine ⟨congrArg (c :: ·) hcs, ?_⟩
      rw [encode_cons, List.length_append, hlength, String.length_utf8EncodeChar]
      omega
    · cases h

/-- No text begins in the middle of a character. -/
theorem endsBefore_zero (cs : List Char) : endsBefore (encode cs) 0 = true := by
  cases cs with
  | nil => rfl
  | cons c cs =>
    rw [encode_cons]
    rcases utf8EncodeChar_cases c with ⟨hc, hbytes⟩ | ⟨-, b, bs, hbytes, hlead, -⟩
    · have hbyte : isContinuation (UInt8.ofNat c.toNat) = false := by
        rw [isContinuation, UInt8.toNat_ofNat', Bool.and_eq_false_iff]
        left
        rw [decide_eq_false_iff_not]
        omega
      rw [hbytes, endsBefore]
      simp [hbyte]
    · have hbyte : isContinuation b = false := by
        rw [isContinuation, Bool.and_eq_false_iff]
        right
        rw [decide_eq_false_iff_not]
        omega
      rw [hbytes, endsBefore]
      simp [hbyte]

/-- Past its first byte a character goes on. -/
theorem endsBefore_within {c : Char} {i : Nat} (hpos : i ≠ 0) (hi : i < c.utf8Size)
    (bytes : List UInt8) : endsBefore (String.utf8EncodeChar c ++ bytes) i = false := by
  rw [← String.length_utf8EncodeChar] at hi
  rcases utf8EncodeChar_cases c with ⟨-, hbytes⟩ | ⟨-, b, bs, hbytes, -, htail⟩
  · rw [hbytes] at hi
    exact absurd (Nat.lt_one_iff.mp hi) hpos
  · obtain ⟨k, rfl⟩ := Nat.exists_eq_succ_of_ne_zero hpos
    rw [hbytes, List.length_cons] at hi
    have hk : k < bs.length := by omega
    have hbyte : (b :: bs ++ bytes)[k + 1]? = some bs[k] := by
      rw [List.cons_append, List.getElem?_cons_succ, List.getElem?_append_left hk,
        List.getElem?_eq_getElem hk]
    rw [hbytes, endsBefore, hbyte]
    simp [htail _ (List.getElem_mem hk)]

theorem endsBefore_append {as bs : List UInt8} {i : Nat} (h : as.length ≤ i) :
    endsBefore (as ++ bs) i = endsBefore bs (i - as.length) := by
  unfold endsBefore
  rw [List.getElem?_append_right h, List.length_append]
  split
  · rfl
  · rw [Bool.eq_iff_iff, beq_iff_eq, beq_iff_eq]
    omega

theorem splitAtByte_isSome (cs : List Char) (i : Nat) :
    (splitAtByte cs i).isSome = endsBefore (encode cs) i := by
  by_cases hi : i = 0
  · subst hi
    rw [splitAtByte_zero, endsBefore_zero]
    rfl
  induction cs generalizing i with
  | nil =>
    rw [splitAtByte, if_neg hi]
    exact (beq_eq_false_iff_ne.mpr hi).symm
  | cons c cs ih =>
    rw [splitAtByte, if_neg hi, encode_cons]
    split
    · next hle =>
      have hlength := String.length_utf8EncodeChar c
      rw [Option.isSome_map, endsBefore_append (by omega), hlength]
      by_cases hrest : i - c.utf8Size = 0
      · rw [hrest, splitAtByte_zero, endsBefore_zero]
        rfl
      · exact ih _ hrest
    · next hlt => rw [endsBefore_within hi (by omega), Option.isSome_none]

theorem isCharBoundary_encode (cs : List Char) (i : Nat) :
    isCharBoundary (encode cs) i = (splitAtByte cs i).isSome := by
  rw [isCharBoundary, splitAtByte_isSome]
  by_cases hi : i = 0
  · rw [hi, endsBefore_zero]
    rfl
  · rw [beq_eq_false_iff_ne.mpr hi, Bool.false_or]

end Kubinate.Library.Utf8
