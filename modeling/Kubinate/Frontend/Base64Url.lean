import Kubinate.Library.Base64
import Kubinate.Platform.Text
import Mathlib.Data.List.DropRight

/-!
# Base 64 in the browser

`base64UrlToBuffer` and `bufferToBase64Url` of `frontend/src/lib/api/passkey.ts`. A string of
JavaScript is a list of its UTF-16 code units.

* `atob`, `btoa`: the functions of the browser, which fail on units that they do not know.
* `bufferToBase64Url_eq`, `base64UrlToBuffer_of_values`: what the helpers compute, as digits.
* `base64url_helpers_inverse`: bytes are read back from their encoding, and canonical texts are
  those that are written again as they were read.
* `bufferToBase64Url_eq_server`: the browser writes what the server writes.
-/

namespace Kubinate.Frontend

open Library Platform

abbrev JsString := List UInt16

/-- The code unit of a character of the basic plane. -/
def codeUnit (c : Char) : UInt16 := UInt16.ofNat c.toNat

/-- `InvalidCharacterError`, the one way in which `atob` and `btoa` fail. -/
inductive DOMException where
  | invalidCharacter
deriving DecidableEq, Repr

/-! ## The browser -/

/-- The value of a unit in the standard alphabet of base 64. -/
def base64Value (u : UInt16) : Option Base64.Sextet :=
  if codeUnit 'A' ≤ u ∧ u ≤ codeUnit 'Z' then some (Base64.sextet (u.toNat - 65))
  else if codeUnit 'a' ≤ u ∧ u ≤ codeUnit 'z' then some (Base64.sextet (u.toNat - 97 + 26))
  else if codeUnit '0' ≤ u ∧ u ≤ codeUnit '9' then some (Base64.sextet (u.toNat - 48 + 52))
  else if u = codeUnit '+' then some (Base64.sextet 62)
  else if u = codeUnit '/' then some (Base64.sextet 63)
  else none

/-- Tab, line feed, form feed, carriage return and space. -/
def isAsciiWhitespace (u : UInt16) : Bool := u == 9 || u == 10 || u == 12 || u == 13 || u == 32

def dropEquals (data : JsString) : JsString :=
  if data.getLast? = some (codeUnit '=') then data.dropLast else data

/-- Decodes forgivingly: white space is skipped, up to two signs of padding at the end of a whole
number of groups are dropped, and bits that fill no byte are ignored. -/
def atob (data : JsString) : Except DOMException JsString :=
  let data := data.filter fun u => !isAsciiWhitespace u
  let data := if data.length % 4 = 0 then dropEquals (dropEquals data) else data
  match (data.mapM base64Value).bind Base64.bytes with
  | some bytes => .ok (bytes.map (·.toUInt16))
  | none => .error .invalidCharacter

def btoa (binary : JsString) : Except DOMException JsString :=
  if binary.all (· ≤ 255) then .ok ((base64Chars (binary.map (·.toUInt8))).map codeUnit)
  else .error .invalidCharacter

def replace (a b : Char) (u : UInt16) : UInt16 := if u = codeUnit a then codeUnit b else u

/-- `s.replace(/a/g, b)` -/
def replaceAll (a b : Char) (s : JsString) : JsString := s.map (replace a b)

/-! ## The helpers -/

def base64UrlToBuffer (input : JsString) : Except DOMException (List UInt8) := do
  let padding := List.replicate ((4 - input.length % 4) % 4) (codeUnit '=')
  let base64 := replaceAll '_' '/' (replaceAll '-' '+' (input ++ padding))
  let raw ← atob base64
  return (List.range raw.length).foldl (fun out i => out.set i (raw.getD i 0).toUInt8)
    (List.replicate raw.length 0)

def bufferToBase64Url (input : List UInt8) : Except DOMException JsString := do
  let binary := input.foldl (fun binary byte => binary ++ [byte.toUInt16]) []
  let encoded ← btoa binary
  return (replaceAll '/' '_' (replaceAll '+' '-' encoded)).rdropWhile (· == codeUnit '=')

/-! ## The loops -/

/-- A buffer that is filled from the front. -/
theorem foldl_set_range {α β : Type} (f : α → β) (l : List α) (d : α) (z : β) {n : Nat}
    (hn : n ≤ l.length) :
    (List.range n).foldl (fun out i => out.set i (f (l.getD i d))) (List.replicate l.length z) =
      (l.take n).map f ++ List.replicate (l.length - n) z := by
  induction n with
  | zero => simp
  | succ n ih =>
    have hlt : n < l.length := hn
    have hrest : l.length - n = l.length - (n + 1) + 1 := by omega
    have htake : ((l.take n).map f).length = n := by
      rw [List.length_map, List.length_take]
      omega
    rw [List.range_succ, List.foldl_append, ih (by omega), List.foldl_cons, List.foldl_nil,
      List.set_append_right _ _ (by omega), htake, Nat.sub_self, hrest, List.replicate_succ,
      List.set_cons_zero, List.getD_eq_getElem?_getD, List.take_add_one,
      List.getElem?_eq_getElem hlt, List.map_append, List.append_assoc]
    rfl

theorem foldl_concat {α β : Type} (f : α → β) (l : List α) (acc : List β) :
    l.foldl (fun acc a => acc ++ [f a]) acc = acc ++ l.map f := by
  induction l generalizing acc with
  | nil => simp
  | cons a l ih =>
    rw [List.foldl_cons, ih, List.map_cons, List.append_assoc]
    rfl

theorem map_toUInt8_toUInt16 (bs : List UInt8) :
    (bs.map (·.toUInt16)).map (·.toUInt8) = bs := by
  rw [List.map_map]
  refine (List.map_congr_left fun b _ => ?_).trans (List.map_id bs)
  exact UInt8.toUInt8_toUInt16 b

theorem base64UrlToBuffer_eq (input : JsString) : base64UrlToBuffer input =
    (atob (replaceAll '_' '/' (replaceAll '-' '+'
      (input ++ List.replicate ((4 - input.length % 4) % 4) (codeUnit '='))))).map
        (List.map (·.toUInt8)) := by
  rw [base64UrlToBuffer]
  cases atob _ with
  | error e => rfl
  | ok raw =>
    have hfill := foldl_set_range (·.toUInt8) raw 0 0 (Nat.le_refl raw.length)
    rw [List.take_length, Nat.sub_self, List.replicate_zero, List.append_nil] at hfill
    exact congrArg Except.ok hfill

/-! ## The alphabets -/

/-- The unit of a digit in the standard alphabet. -/
def standardUnit (v : Base64.Sextet) : UInt16 := codeUnit (base64Digit v.val)

/-- The unit of a digit in the alphabet for URLs. -/
def urlUnit (v : Base64.Sextet) : UInt16 := replace '/' '_' (replace '+' '-' (standardUnit v))

/-- `A-Z`, `a-z`, `0-9`, `-` and `_` -/
def IsUrlUnit (u : UInt16) : Prop :=
  codeUnit 'A' ≤ u ∧ u ≤ codeUnit 'Z' ∨ codeUnit 'a' ≤ u ∧ u ≤ codeUnit 'z' ∨
    codeUnit '0' ≤ u ∧ u ≤ codeUnit '9' ∨ u = codeUnit '-' ∨ u = codeUnit '_'

instance (u : UInt16) : Decidable (IsUrlUnit u) :=
  inferInstanceAs (Decidable (_ ∨ _ ∨ _ ∨ _ ∨ _))

/-- The value of a unit in the alphabet for URLs. -/
def urlValue (u : UInt16) : Option Base64.Sextet :=
  if codeUnit 'A' ≤ u ∧ u ≤ codeUnit 'Z' then some (Base64.sextet (u.toNat - 65))
  else if codeUnit 'a' ≤ u ∧ u ≤ codeUnit 'z' then some (Base64.sextet (u.toNat - 97 + 26))
  else if codeUnit '0' ≤ u ∧ u ≤ codeUnit '9' then some (Base64.sextet (u.toNat - 48 + 52))
  else if u = codeUnit '-' then some (Base64.sextet 62)
  else if u = codeUnit '_' then some (Base64.sextet 63)
  else none

/-- A text without padding, of whole bytes, in which no other bit is set. -/
def Canonical (s : JsString) : Prop := ∃ v, s.mapM urlValue = some v ∧ Base64.Exact v

section Alphabets

variable (v : Base64.Sextet)

/-- The two tables, digit by digit. -/
theorem tables : base64Value (standardUnit v) = some v ∧ urlValue (urlUnit v) = some v ∧
    isAsciiWhitespace (standardUnit v) = false ∧ standardUnit v ≠ codeUnit '=' ∧
    replace '_' '/' (replace '-' '+' (urlUnit v)) = standardUnit v ∧
    IsUrlUnit (urlUnit v) ∧ urlUnit v ≠ codeUnit '=' := by
  revert v
  decide +kernel

theorem base64Value_standardUnit : base64Value (standardUnit v) = some v := (tables v).1

theorem urlValue_urlUnit : urlValue (urlUnit v) = some v := (tables v).2.1

theorem standardUnit_kept :
    isAsciiWhitespace (standardUnit v) = false ∧ standardUnit v ≠ codeUnit '=' :=
  ⟨(tables v).2.2.1, (tables v).2.2.2.1⟩

theorem replace_urlUnit : replace '_' '/' (replace '-' '+' (urlUnit v)) = standardUnit v :=
  (tables v).2.2.2.2.1

theorem isUrlUnit_urlUnit : IsUrlUnit (urlUnit v) ∧ urlUnit v ≠ codeUnit '=' :=
  (tables v).2.2.2.2.2

/-- Only the unit of a digit has its value. -/
theorem eq_urlUnit {u : UInt16} {v : Base64.Sextet} (h : urlValue u = some v) : u = urlUnit v := by
  by_cases hu : u.toNat < 128
  · have hall : ∀ n < 128, ((urlValue (UInt16.ofNat n)).all fun v =>
        UInt16.ofNat n == urlUnit v) = true := by decide +kernel
    have hunit := hall u.toNat hu
    rw [UInt16.ofNat_toNat, h, Option.all_some] at hunit
    exact beq_iff_eq.mp hunit
  · have hz : ¬ u ≤ codeUnit 'Z' ∧ ¬ u ≤ codeUnit 'z' ∧ ¬ u ≤ codeUnit '9' ∧
        u ≠ codeUnit '-' ∧ u ≠ codeUnit '_' := by
      have hZ : (codeUnit 'Z').toNat = 90 := rfl
      have hz : (codeUnit 'z').toNat = 122 := rfl
      have h9 : (codeUnit '9').toNat = 57 := rfl
      refine ⟨?_, ?_, ?_, ?_, ?_⟩
      · rw [UInt16.le_iff_toNat_le]
        omega
      · rw [UInt16.le_iff_toNat_le]
        omega
      · rw [UInt16.le_iff_toNat_le]
        omega
      · rintro rfl
        exact hu (by decide)
      · rintro rfl
        exact hu (by decide)
    obtain ⟨hZ, hz, h9, hminus, hunder⟩ := hz
    rw [urlValue, if_neg fun hc => hZ hc.2, if_neg fun hc => hz hc.2, if_neg fun hc => h9 hc.2,
      if_neg hminus, if_neg hunder] at h
    cases h

end Alphabets

/-! ## Writing -/

theorem base64Chars_eq (bs : List UInt8) :
    base64Chars bs = (Base64.sextets bs).map (fun v => base64Digit v.val) ++
      List.replicate ((3 - bs.length % 3) % 3) '=' := by
  have hsmall {n : Nat} (hn : n < 64) : base64Digit (Base64.sextet n).val = base64Digit n := by
    rw [Base64.sextet_val, Nat.mod_eq_of_lt hn]
  induction bs using base64Chars.induct with
  | case1 => rfl
  | case2 a =>
    have ha := a.toNat_lt
    simp only [base64Chars, Base64.sextets, List.map_cons, List.map_nil]
    rw [hsmall (by omega), hsmall (by omega)]
    rfl
  | case3 a b =>
    have ha := a.toNat_lt
    have hb := b.toNat_lt
    simp only [base64Chars, Base64.sextets, List.map_cons, List.map_nil]
    rw [hsmall (by omega), hsmall (by omega), hsmall (by omega)]
    rfl
  | case4 a b c rest ih =>
    have ha := a.toNat_lt
    have hb := b.toNat_lt
    have hc := c.toNat_lt
    have hpadding : (a :: b :: c :: rest).length % 3 = rest.length % 3 := by
      simp only [List.length_cons]
      omega
    rw [hpadding, base64Chars, ih, Base64.sextets, List.map_cons, List.map_cons, List.map_cons,
      List.map_cons, hsmall (by omega), hsmall (by omega), hsmall (by omega), hsmall (by omega)]
    rfl

theorem rdropWhile_append_replicate {α : Type} {p : α → Bool} {l : List α} {x : α} (hx : p x = true)
    (hl : ∀ y ∈ l, p y = false) (n : Nat) : (l ++ List.replicate n x).rdropWhile p = l := by
  induction n with
  | zero =>
    rw [List.replicate_zero, List.append_nil, List.rdropWhile_eq_self_iff]
    intro hne
    rw [hl _ (List.getLast_mem hne)]
    exact Bool.false_ne_true
  | succ n ih =>
    rw [List.replicate_succ', ← List.append_assoc, List.rdropWhile_concat_pos _ _ _ hx, ih]

theorem btoa_bytes (bs : List UInt8) :
    btoa (bs.map (·.toUInt16)) = .ok ((base64Chars bs).map codeUnit) := by
  have hbyte : ∀ u ∈ bs.map (·.toUInt16), u ≤ 255 := by
    intro u hu
    obtain ⟨b, -, rfl⟩ := List.mem_map.mp hu
    have hb := b.toNat_lt
    rw [UInt16.le_iff_toNat_le, UInt8.toNat_toUInt16]
    have h255 : (255 : UInt16).toNat = 255 := rfl
    omega
  rw [btoa, if_pos (List.all_eq_true.mpr fun u hu => decide_eq_true (hbyte u hu)),
    map_toUInt8_toUInt16]

/-- An encoding is made of the digits of its bytes. -/
theorem bufferToBase64Url_eq (bs : List UInt8) :
    bufferToBase64Url bs = .ok ((Base64.sextets bs).map urlUnit) := by
  have hunits : replaceAll '/' '_' (replaceAll '+' '-' ((base64Chars bs).map codeUnit)) =
      (Base64.sextets bs).map urlUnit ++
        List.replicate ((3 - bs.length % 3) % 3) (codeUnit '=') := by
    rw [base64Chars_eq, replaceAll, replaceAll, List.map_append, List.map_append, List.map_append,
      List.map_replicate, List.map_replicate, List.map_replicate, List.map_map, List.map_map,
      List.map_map]
    rfl
  have hkept : ∀ u ∈ (Base64.sextets bs).map urlUnit, (u == codeUnit '=') = false := by
    intro u hu
    obtain ⟨v, -, rfl⟩ := List.mem_map.mp hu
    exact beq_eq_false_iff_ne.mpr (isUrlUnit_urlUnit v).2
  rw [bufferToBase64Url, foldl_concat, List.nil_append, btoa_bytes]
  show Except.ok _ = _
  rw [hunits]
  refine congrArg Except.ok (rdropWhile_append_replicate ?_ hkept _)
  exact beq_self_eq_true _

/-- The browser writes what the server writes. -/
theorem bufferToBase64Url_eq_server (bs : List UInt8) :
    bufferToBase64Url bs = .ok ((encodeBase64Url bs).toList.map codeUnit) := by
  have hdigits : (base64Chars bs).filter (· ≠ '=') =
      (Base64.sextets bs).map fun v => base64Digit v.val := by
    have hne : ∀ v : Base64.Sextet, base64Digit v.val ≠ '=' := by decide +kernel
    rw [base64Chars_eq, List.filter_append, List.filter_eq_self.mpr, List.filter_eq_nil_iff.mpr,
      List.append_nil]
    · intro c hc
      rw [List.eq_of_mem_replicate hc]
      decide
    · intro c hc
      obtain ⟨v, -, rfl⟩ := List.mem_map.mp hc
      exact decide_eq_true (hne v)
  have hunit : ∀ v : Base64.Sextet, urlUnit v = codeUnit (if base64Digit v.val = '+' then '-'
      else if base64Digit v.val = '/' then '_' else base64Digit v.val) := by decide +kernel
  rw [bufferToBase64Url_eq, encodeBase64Url, String.toList_ofList, hdigits, List.map_map,
    List.map_map]
  exact congrArg Except.ok (List.map_congr_left fun v _ => hunit v)

/-! ## Reading -/

theorem dropEquals_concat (s : JsString) : dropEquals (s ++ [codeUnit '=']) = s := by
  rw [dropEquals, if_pos List.getLast?_concat, List.dropLast_concat]

theorem dropEquals_standard (v : List Base64.Sextet) :
    dropEquals (v.map standardUnit) = v.map standardUnit := by
  refine if_neg fun hlast => ?_
  obtain ⟨w, -, hw⟩ := List.mem_map.mp (List.mem_of_getLast? hlast)
  exact (standardUnit_kept w).2 hw

theorem mapM_standardUnit (v : List Base64.Sextet) :
    (v.map standardUnit).mapM base64Value = some v := by
  induction v with
  | nil => rfl
  | cons w v ih =>
    rw [List.map_cons, List.mapM_cons, base64Value_standardUnit, ih]
    rfl

/-- There is no white space to skip. -/
theorem filter_padded (v : List Base64.Sextet) (n : Nat) :
    (v.map standardUnit ++ List.replicate n (codeUnit '=')).filter
      (fun u => !isAsciiWhitespace u) = v.map standardUnit ++ List.replicate n (codeUnit '=') := by
  refine List.filter_eq_self.mpr fun u hu => ?_
  rcases List.mem_append.mp hu with hu | hu
  · obtain ⟨w, -, rfl⟩ := List.mem_map.mp hu
    rw [(standardUnit_kept w).1]
    rfl
  · rw [List.eq_of_mem_replicate hu]
    decide

theorem length_padded (v : List Base64.Sextet) :
    (v.map standardUnit ++ List.replicate ((4 - v.length % 4) % 4) (codeUnit '=')).length % 4 =
      0 := by
  rw [List.length_append, List.length_map, List.length_replicate]
  omega

/-- Padded digits are read, unless one of them is alone. -/
theorem atob_padded {v : List Base64.Sextet} {bs : List UInt8} (h : Base64.bytes v = some bs) :
    atob (v.map standardUnit ++ List.replicate ((4 - v.length % 4) % 4) (codeUnit '=')) =
      .ok (bs.map (·.toUInt16)) := by
  have hwhole : v.length % 4 ≠ 1 := (Base64.bytes_isSome v).mp (by rw [h]; rfl)
  have hdropped : dropEquals (dropEquals (v.map standardUnit ++
      List.replicate ((4 - v.length % 4) % 4) (codeUnit '='))) = v.map standardUnit := by
    have hpadding : (4 - v.length % 4) % 4 = 0 ∨ (4 - v.length % 4) % 4 = 1 ∨
        (4 - v.length % 4) % 4 = 2 := by omega
    rcases hpadding with hpadding | hpadding | hpadding
    · rw [hpadding, List.replicate_zero, List.append_nil, dropEquals_standard, dropEquals_standard]
    · rw [hpadding, List.replicate_one, dropEquals_concat, dropEquals_standard]
    · rw [hpadding, List.replicate_succ', ← List.append_assoc, List.replicate_one,
        dropEquals_concat, dropEquals_concat]
  simp only [atob, filter_padded, length_padded, hdropped, mapM_standardUnit, h, if_true,
    Option.bind_some]

/-- A digit alone takes three signs of padding, of which one stays. -/
theorem atob_padded_alone {v : List Base64.Sextet} (h : v.length % 4 = 1) :
    atob (v.map standardUnit ++ List.replicate ((4 - v.length % 4) % 4) (codeUnit '=')) =
      .error .invalidCharacter := by
  have hpadding : (4 - v.length % 4) % 4 = 3 := by omega
  have hdropped : dropEquals (dropEquals (v.map standardUnit ++
      List.replicate ((4 - v.length % 4) % 4) (codeUnit '='))) =
      v.map standardUnit ++ [codeUnit '='] := by
    rw [hpadding, List.replicate_succ', List.replicate_succ', List.replicate_one,
      ← List.append_assoc, ← List.append_assoc, dropEquals_concat, dropEquals_concat]
  have hequals : [codeUnit '='].mapM base64Value = none := by decide
  have hnone : (v.map standardUnit ++ [codeUnit '=']).mapM base64Value = none := by
    rw [List.mapM_append, mapM_standardUnit, hequals]
    rfl
  simp only [atob, filter_padded, length_padded, hdropped, hnone, if_true, Option.bind_none]

/-- The padding and the standard alphabet, for a text of digits. -/
theorem replaceAll_padded (v : List Base64.Sextet) (n : Nat) :
    replaceAll '_' '/' (replaceAll '-' '+' (v.map urlUnit ++ List.replicate n (codeUnit '='))) =
      v.map standardUnit ++ List.replicate n (codeUnit '=') := by
  have hequals : replace '_' '/' (replace '-' '+' (codeUnit '=')) = codeUnit '=' := by decide
  have hdigits : (v.map urlUnit).map (replace '_' '/' ∘ replace '-' '+') = v.map standardUnit := by
    rw [List.map_map]
    apply List.map_congr_left
    intro w _
    rw [Function.comp_apply, Function.comp_apply, replace_urlUnit]
  rw [replaceAll, replaceAll, List.map_map, List.map_append, hdigits, List.map_replicate,
    Function.comp_apply, hequals]

/-- A text of digits is read as the bytes that they fill. -/
theorem base64UrlToBuffer_of_values {v : List Base64.Sextet} {bs : List UInt8}
    (h : Base64.bytes v = some bs) : base64UrlToBuffer (v.map urlUnit) = .ok bs := by
  rw [base64UrlToBuffer_eq, List.length_map, replaceAll_padded, atob_padded h]
  exact congrArg Except.ok (map_toUInt8_toUInt16 bs)

/-- A text of digits is refused iff one of them is alone. -/
theorem base64UrlToBuffer_error_iff (v : List Base64.Sextet) :
    base64UrlToBuffer (v.map urlUnit) = .error .invalidCharacter ↔ v.length % 4 = 1 := by
  constructor
  · intro h
    by_contra hwhole
    obtain ⟨bs, hbytes⟩ := Option.isSome_iff_exists.mp ((Base64.bytes_isSome v).mpr hwhole)
    rw [base64UrlToBuffer_of_values hbytes] at h
    cases h
  · intro h
    rw [base64UrlToBuffer_eq, List.length_map, replaceAll_padded, atob_padded_alone h]
    rfl

/-! ## The round trips -/

theorem mapM_urlUnit (v : List Base64.Sextet) : (v.map urlUnit).mapM urlValue = some v := by
  induction v with
  | nil => rfl
  | cons w v ih =>
    rw [List.map_cons, List.mapM_cons, urlValue_urlUnit, ih]
    rfl

theorem eq_map_urlUnit {s : JsString} {v : List Base64.Sextet} (h : s.mapM urlValue = some v) :
    s = v.map urlUnit := by
  induction s generalizing v with
  | nil =>
    cases h
    rfl
  | cons u s ih =>
    rw [List.mapM_cons, Option.bind_eq_bind, Option.bind_eq_some_iff] at h
    obtain ⟨w, hw, hrest⟩ := h
    obtain ⟨v, hv, heq⟩ := Option.bind_eq_some_iff.mp hrest
    cases heq
    rw [List.map_cons, ← eq_urlUnit hw, ← ih hv]

theorem base64UrlToBuffer_sextets (b : List UInt8) :
    base64UrlToBuffer ((Base64.sextets b).map urlUnit) = .ok b :=
  base64UrlToBuffer_of_values (Base64.bytes_sextets b)

theorem canonical_sextets (b : List UInt8) : Canonical ((Base64.sextets b).map urlUnit) :=
  ⟨Base64.sextets b, mapM_urlUnit _, Base64.exact_sextets b⟩

theorem written_back_of_canonical {s : JsString} (h : Canonical s) :
    ∃ b, base64UrlToBuffer s = .ok b ∧ bufferToBase64Url b = .ok s := by
  obtain ⟨v, hv, hexact⟩ := h
  have hwritten := (Base64.bytes_map_sextets_iff v).mpr hexact
  obtain ⟨b, hb, hsextets⟩ := Option.map_eq_some_iff.mp hwritten
  rw [eq_map_urlUnit hv]
  refine ⟨b, base64UrlToBuffer_of_values hb, ?_⟩
  rw [bufferToBase64Url_eq, hsextets]

/-- Bytes are read back from their encoding, which has no other characters than those of the
alphabet for URLs; and a text is written again as it was read iff it is canonical. -/
theorem base64url_helpers_inverse :
    (∀ b : List UInt8, ∃ s, bufferToBase64Url b = .ok s ∧ base64UrlToBuffer s = .ok b ∧
      ∀ u ∈ s, IsUrlUnit u) ∧
    ∀ s : JsString, Canonical s ↔
      ∃ b, base64UrlToBuffer s = .ok b ∧ bufferToBase64Url b = .ok s := by
  refine ⟨fun b => ⟨_, bufferToBase64Url_eq b, base64UrlToBuffer_sextets b, ?_⟩, fun s => ?_⟩
  · intro u hu
    obtain ⟨v, -, rfl⟩ := List.mem_map.mp hu
    exact (isUrlUnit_urlUnit v).1
  · constructor
    · exact written_back_of_canonical
    · rintro ⟨b, -, hs⟩
      rw [bufferToBase64Url_eq] at hs
      cases hs
      exact canonical_sextets b

/-! ## What the server sends and gets -/

/-- The text that the server writes for bytes. -/
def urlText (b : List UInt8) : JsString := (encodeBase64Url b).toList.map codeUnit

theorem urlText_eq (b : List UInt8) : urlText b = (Base64.sextets b).map urlUnit :=
  Except.ok.inj ((bufferToBase64Url_eq_server b).symm.trans (bufferToBase64Url_eq b))

theorem base64UrlToBuffer_urlText (b : List UInt8) : base64UrlToBuffer (urlText b) = .ok b := by
  rw [urlText_eq, base64UrlToBuffer_sextets]

/-- Two credentials are not stored under one id. -/
theorem encodeBase64Url_injective : Function.Injective encodeBase64Url := by
  intro b b' h
  have htext : urlText b = urlText b' := congrArg (fun s => s.toList.map codeUnit) h
  have hread := base64UrlToBuffer_urlText b
  rw [htext, base64UrlToBuffer_urlText] at hread
  exact (Except.ok.inj hread).symm

end Kubinate.Frontend
