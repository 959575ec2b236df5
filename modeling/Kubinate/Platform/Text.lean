import Mathlib.Data.List.Basic
import Mathlib.Data.Nat.Digits.Defs

/-!
# Text

The operations of `str` that the code uses, on lists of characters so that they evaluate.
-/

namespace Kubinate.Platform

/-- Characters with the Unicode property `White_Space`. -/
def isWhitespace (c : Char) : Bool :=
  let n := c.toNat
  (9 ≤ n && n ≤ 13) || n == 32 || n == 0x85 || n == 0xA0 || n == 0x1680 ||
    (0x2000 ≤ n && n ≤ 0x200A) || n == 0x2028 || n == 0x2029 || n == 0x202F || n == 0x205F ||
    n == 0x3000

/-- `str::trim`. -/
def trim (s : String) : String :=
  String.ofList ((s.toList.dropWhile isWhitespace).reverse.dropWhile isWhitespace).reverse

/-- `str::eq_ignore_ascii_case`. -/
def eqIgnoreAsciiCase (a b : String) : Bool :=
  a.toList.map Char.toLower == b.toList.map Char.toLower

/-- Replaces the pattern wherever it starts, from left to right; `fuel` bounds the number of
characters read. -/
def replaceChars (pattern new : List Char) : (fuel : Nat) → List Char → List Char
  | 0, text => text
  | _ + 1, [] => []
  | fuel + 1, c :: text =>
    if pattern.isPrefixOf (c :: text) then
      new ++ replaceChars pattern new fuel ((c :: text).drop pattern.length)
    else c :: replaceChars pattern new fuel text

/-- `str::replace` with a pattern that is not empty. -/
def replace (text pattern new : String) : String :=
  String.ofList (replaceChars pattern.toList new.toList text.toList.length text.toList)

/-- `str::replace` with a character for a pattern. -/
def replaceChar (text : List Char) (pattern : Char) (new : List Char) : List Char :=
  text.flatMap fun c => if c = pattern then new else [c]

/-- `str::contains`. -/
def contains (text pattern : String) : Bool :=
  text.toList.tails.any fun rest => pattern.toList.isPrefixOf rest

/-- `str::to_ascii_lowercase`. -/
def toAsciiLowercase (text : String) : String := String.ofList (text.toList.map Char.toLower)

/-- The format `{:02}` of a natural number. -/
def twoDigits (n : Nat) : String := if n < 10 then "0" ++ toString n else toString n

theorem isDigit_of_mem_repr {n : Nat} {c : Char} (h : c ∈ n.repr.toList) : c.isDigit = true := by
  rw [Nat.toList_repr] at h
  exact Nat.isDigit_of_mem_toDigits (by decide) (by decide) h

theorem isDigit_of_mem_twoDigits {n : Nat} {c : Char} (h : c ∈ (twoDigits n).toList) :
    c.isDigit = true := by
  unfold twoDigits at h
  split at h
  · rw [String.toList_append, List.mem_append] at h
    rcases h with h | h
    · obtain rfl := List.mem_singleton.mp h
      rfl
    · exact isDigit_of_mem_repr h
  · exact isDigit_of_mem_repr h

/-- The format `{:016x}` of a natural number. -/
def hex16 (n : Nat) : String :=
  String.ofList (List.leftpad 16 '0' ((Nat.digits 16 n).reverse.map Nat.digitChar))

/-- The value of a hexadecimal digit. -/
def hexValue (c : Char) : Nat := if c.toNat < 58 then c.toNat - 48 else c.toNat - 87

theorem hexValue_digitChar {d : Nat} (h : d < 16) : hexValue d.digitChar = d := by
  have all : ∀ d : Fin 16, hexValue d.val.digitChar = d.val := by decide
  exact all ⟨d, h⟩

/-- Padding with zeros keeps the number that the digits stand for. -/
theorem ofDigits_hex16 (n : Nat) :
    Nat.ofDigits 16 ((hex16 n).toList.map hexValue).reverse = n := by
  have hvalues : ((Nat.digits 16 n).reverse.map Nat.digitChar).map hexValue =
      (Nat.digits 16 n).reverse := by
    rw [List.map_map]
    refine (List.map_congr_left fun d hd => ?_).trans (List.map_id _)
    exact hexValue_digitChar (Nat.digits_lt_base (by decide) (List.mem_reverse.mp hd))
  rw [hex16, String.toList_ofList, List.leftpad, List.map_append, hvalues, List.map_replicate,
    List.reverse_append, List.reverse_reverse, List.reverse_replicate]
  exact (Nat.ofDigits_append_replicate_zero _).trans (Nat.ofDigits_digits 16 n)

theorem hex16_injective : Function.Injective hex16 := by
  intro m n h
  rw [← ofDigits_hex16 m, h, ofDigits_hex16]

/-- The alphabet of base 64. -/
def base64Digit (n : Nat) : Char :=
  "ABCDEFGHIJKLMNOPQRSTUVWXYZabcdefghijklmnopqrstuvwxyz0123456789+/".toList.getD n '='

def base64Chars : List UInt8 → List Char
  | [] => []
  | [a] => [base64Digit (a.toNat / 4), base64Digit (a.toNat % 4 * 16), '=', '=']
  | [a, b] =>
    [base64Digit (a.toNat / 4), base64Digit (a.toNat % 4 * 16 + b.toNat / 16),
      base64Digit (b.toNat % 16 * 4), '=']
  | a :: b :: c :: rest =>
    base64Digit (a.toNat / 4) :: base64Digit (a.toNat % 4 * 16 + b.toNat / 16) ::
      base64Digit (b.toNat % 16 * 4 + c.toNat / 64) :: base64Digit (c.toNat % 64) ::
      base64Chars rest

/-- The alphabet `URL_SAFE_NO_PAD`. -/
def encodeBase64Url (bytes : List UInt8) : String :=
  String.ofList (((base64Chars bytes).filter (· ≠ '=')).map fun c =>
    if c = '+' then '-' else if c = '/' then '_' else c)

/-- The SQL function `encode(.., 'base64')` on input too short to be wrapped. -/
def encodeBase64 (bytes : List UInt8) : String := String.ofList (base64Chars bytes)

end Kubinate.Platform
