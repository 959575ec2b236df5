import Mathlib.Data.List.TakeWhile
import Kubinate.Library.Overflow
import Kubinate.Library.Utf8
import Kubinate.Platform.Text

/-!
# The signature of a webhook

`verify_signature` of `crates/integrations/src/stripe.rs` parses the header, compares its time
with the clock and then the signatures with the one it expects. The MAC is HMAC-SHA256 of the
crate `hmac_sha256`, a parameter here.

* `verifySignature`: the function with its arithmetic on 64-bit words.
* `Accepts`: the headers that are meant to be accepted, in exact arithmetic.
* `verify_signature_exact_iff`: where the two agree.
-/

namespace Kubinate.Integrations

open Platform Library

/-! ## Parsing -/

/-- `str::splitn(2, sep)`: the text before the separator, and what follows it if it occurs. -/
def splitOnce (sep : Char) (s : String) : String × Option String :=
  match s.toList.dropWhile (· ≠ sep) with
  | [] => (s, none)
  | _ :: rest => (String.ofList (s.toList.takeWhile (· ≠ sep)), some (String.ofList rest))

/-- `str::split(sep)` -/
def splitAll (sep : Char) (s : String) : List String :=
  (s.toList.splitOn sep).map String.ofList

def parseDigits (cs : List Char) : Option Nat :=
  if !cs.isEmpty && cs.all Char.isDigit then some (Nat.ofDigitChars 10 cs 0) else none

/-- `str::parse::<i64>` -/
def parseI64 (s : String) : Option Int :=
  let number : Option Int := match s.toList with
    | '-' :: cs => (parseDigits cs).map fun (n : Nat) => -(n : Int)
    | '+' :: cs => (parseDigits cs).map fun (n : Nat) => (n : Int)
    | cs => (parseDigits cs).map fun (n : Nat) => (n : Int)
  number.filter fun n => decide (IsSigned 63 n)

inductive SignatureError where
  | malformed
  | timestamp
  | mismatch
deriving DecidableEq, Repr

/-- The variables of the loop over the parts of the header. -/
structure ParsedHeader where
  timestamp : Option Int := none
  signatures : List String := []

/-- One part of the header. Keys other than `t` and `v1` are skipped. -/
def readPart (parsed : ParsedHeader) (part : String) : Except SignatureError ParsedHeader :=
  let kv := splitOnce '=' part
  let k := trim kv.1
  match kv.2 with
  | none => .error .malformed
  | some rest =>
    let v := trim rest
    if k = "t" then .ok { parsed with timestamp := parseI64 v }
    else if k = "v1" then .ok { parsed with signatures := parsed.signatures ++ [v] }
    else .ok parsed

/-! ## Comparing -/

def hexLower (bytes : List UInt8) : Overflowing String := do
  -- the capacity that is asked for
  let _ ← unsigned 64 (bytes.length * 2)
  pure (String.ofList (bytes.flatMap fun b =>
    [Nat.digitChar (b.toNat / 16), Nat.digitChar (b.toNat % 16)]))

/-- `u8::eq_ignore_ascii_case` -/
def byteEqIgnoreAsciiCase (a b : UInt8) : Bool := Utf8.asciiLower a == Utf8.asciiLower b

def constantTimeEqIgnoreAsciiCase (a b : List UInt8) : Bool :=
  if a.length ≠ b.length then false
  else
    (a.zip b).foldl (fun (diff : UInt8) p =>
      diff ||| (bif byteEqIgnoreAsciiCase p.1 p.2 then 1 else 0) ^^^ 1) 0 == 0

/-! ## Verifying -/

/-- A slice of bytes. No slice is longer than `isize::MAX`. -/
structure Bytes where
  list : List UInt8
  fits : list.length < 2 ^ 63

section Verify

variable (hmac : List UInt8 → List UInt8 → Vector UInt8 32)

def verifySignature (payload : Bytes) (signatureHeader secret : String) (nowUnixSecs : Int64)
    (tolerance : UInt64) : Overflowing (Except SignatureError Unit) :=
  match (splitAll ',' signatureHeader).foldlM readPart {} with
  | .error e => pure (.error e)
  | .ok parsed =>
    match parsed.timestamp with
    | none => pure (.error .malformed)
    | some timestamp =>
      if parsed.signatures.isEmpty then pure (.error .malformed)
      else do
        let elapsed ← signed 63 (nowUnixSecs.toInt - timestamp)
        let drift ← signed 63 |elapsed|
        -- `i64::try_from(tolerance.as_secs()).unwrap_or(i64::MAX)`
        if drift > min (tolerance.toNat : Int) (2 ^ 63 - 1) then pure (.error .timestamp)
        else do
          let _ ← unsigned 64 (20 + payload.list.length)
          let signedPayload :=
            Utf8.encode (toString timestamp).toList ++ Utf8.encode ['.'] ++ payload.list
          let mac := hmac signedPayload (Utf8.encode secret.toList)
          let expectedHex ← hexLower mac.toList
          if parsed.signatures.any fun s =>
              constantTimeEqIgnoreAsciiCase (Utf8.encode s.toList) (Utf8.encode expectedHex.toList)
          then pure (.ok ())
          else pure (.error .mismatch)

end Verify

/-! ## What is meant to be accepted -/

/-- The value of a part with this key. -/
def valueOf (key part : String) : Option String :=
  if trim (splitOnce '=' part).1 = key then (splitOnce '=' part).2.map trim else none

/-- The values of a key, in order. -/
def valuesIn (key : String) (parts : List String) : List String := parts.filterMap (valueOf key)

def valuesOf (key : String) (signatureHeader : String) : List String :=
  valuesIn key (splitAll ',' signatureHeader)

/-- Every part has a value, the last time is the number `t`, and there is a signature. -/
structure WellFormed (signatureHeader : String) (t : Int) : Prop where
  parts : ∀ part ∈ splitAll ',' signatureHeader, '=' ∈ part.toList
  timestamp : (valuesOf "t" signatureHeader).getLast?.bind parseI64 = some t
  signed : valuesOf "v1" signatureHeader ≠ []

/-- The digits of a MAC. -/
def hexDigits (mac : Vector UInt8 32) : String :=
  String.ofList (mac.toList.flatMap fun b =>
    [Nat.digitChar (b.toNat / 16), Nat.digitChar (b.toNat % 16)])

/-- A well-formed header whose time is close and one of whose signatures is that of the
payload. -/
def Accepts (hmac : List UInt8 → List UInt8 → Vector UInt8 32) (payload : List UInt8)
    (signatureHeader secret : String) (now : Int) (tolerance : Nat) : Prop :=
  ∃ t, WellFormed signatureHeader t ∧ |now - t| ≤ tolerance ∧
    ∃ v ∈ valuesOf "v1" signatureHeader, eqIgnoreAsciiCase v (hexDigits (hmac
      (Utf8.encode (toString t ++ ".").toList ++ payload) (Utf8.encode secret.toList))) = true

/-- Nothing overflows, and the headers that are accepted are those that are meant to be. -/
def Verifies (hmac : List UInt8 → List UInt8 → Vector UInt8 32) (payload : Bytes)
    (signatureHeader secret : String) (nowUnixSecs : Int64) (tolerance : UInt64) : Prop :=
  (verifySignature hmac payload signatureHeader secret nowUnixSecs tolerance).Yields fun result =>
    result = .ok () ↔
      Accepts hmac payload.list signatureHeader secret nowUnixSecs.toInt tolerance.toNat

/-! ## Parsing a header -/

theorem splitOnce_snd_eq_none {sep : Char} {s : String} :
    (splitOnce sep s).2 = none ↔ sep ∉ s.toList := by
  have hnil : s.toList.dropWhile (· ≠ sep) = [] ↔ sep ∉ s.toList := by
    rw [List.dropWhile_eq_nil_iff]
    constructor
    · intro h hmem
      exact of_decide_eq_true (h sep hmem) rfl
    · intro h c hc
      exact decide_eq_true fun heq => h (heq ▸ hc)
  rw [← hnil, splitOnce]
  cases s.toList.dropWhile (· ≠ sep) with
  | nil => exact iff_of_true rfl rfl
  | cons c rest => exact iff_of_false nofun nofun

/-- What the loop has found once it is through. -/
def ParsedHeader.read (parsed : ParsedHeader) (parts : List String) : ParsedHeader :=
  ⟨((valuesIn "t" parts).getLast?.map parseI64).getD parsed.timestamp,
    parsed.signatures ++ valuesIn "v1" parts⟩

/-- A part with a value is read as one more part. -/
theorem readPart_ok {part : String} (h : '=' ∈ part.toList) (parsed : ParsedHeader)
    (parts : List String) : ∃ parsed', readPart parsed part = .ok parsed' ∧
      parsed'.read parts = parsed.read (part :: parts) := by
  obtain ⟨rest, hrest⟩ := Option.ne_none_iff_exists'.mp
    fun hnone => splitOnce_snd_eq_none.mp hnone h
  have hvalue : ∀ key, valueOf key part =
      if trim (splitOnce '=' part).1 = key then some (trim rest) else none := by
    intro key
    rw [valueOf, hrest, Option.map_some]
  simp only [readPart, hrest]
  by_cases ht : trim (splitOnce '=' part).1 = "t"
  · have hv1 : ¬ trim (splitOnce '=' part).1 = "v1" := by
      rw [ht]
      decide
    have hcons : valuesIn "t" (part :: parts) = trim rest :: valuesIn "t" parts := by
      rw [valuesIn, List.filterMap_cons, hvalue, if_pos ht]
      rfl
    have hsame : valuesIn "v1" (part :: parts) = valuesIn "v1" parts := by
      rw [valuesIn, List.filterMap_cons, hvalue, if_neg hv1]
      rfl
    refine ⟨_, if_pos ht, ?_⟩
    rw [ParsedHeader.read, ParsedHeader.read, hcons, hsame, List.getLast?_cons, Option.map_some,
      Option.getD_some]
    cases (valuesIn "t" parts).getLast? with
    | none => simp only [Option.map_none, Option.getD_none]
    | some t => simp only [Option.map_some, Option.getD_some]
  · have hsame : valuesIn "t" (part :: parts) = valuesIn "t" parts := by
      rw [valuesIn, List.filterMap_cons, hvalue, if_neg ht]
      rfl
    by_cases hv1 : trim (splitOnce '=' part).1 = "v1"
    · have hcons : valuesIn "v1" (part :: parts) = trim rest :: valuesIn "v1" parts := by
        rw [valuesIn, List.filterMap_cons, hvalue, if_pos hv1]
        rfl
      refine ⟨_, (if_neg ht).trans (if_pos hv1), ?_⟩
      rw [ParsedHeader.read, ParsedHeader.read, hcons, hsame, List.append_assoc]
      rfl
    · have hskip : valuesIn "v1" (part :: parts) = valuesIn "v1" parts := by
        rw [valuesIn, List.filterMap_cons, hvalue, if_neg hv1]
        rfl
      refine ⟨_, (if_neg ht).trans (if_neg hv1), ?_⟩
      rw [ParsedHeader.read, ParsedHeader.read, hskip, hsame]

theorem foldlM_readPart {parts : List String} (h : ∀ part ∈ parts, '=' ∈ part.toList)
    (parsed : ParsedHeader) : parts.foldlM readPart parsed = .ok (parsed.read parts) := by
  induction parts generalizing parsed with
  | nil =>
    show Except.ok parsed = _
    rw [ParsedHeader.read]
    simp [valuesIn]
  | cons part parts ih =>
    obtain ⟨parsed', hpart, hread⟩ := readPart_ok (h part List.mem_cons_self) parsed parts
    rw [List.foldlM_cons, hpart, ← hread]
    exact ih (fun p hp => h p (List.mem_cons_of_mem _ hp)) parsed'

theorem foldlM_readPart_error {parts : List String} (h : ¬ ∀ part ∈ parts, '=' ∈ part.toList)
    (parsed : ParsedHeader) : parts.foldlM readPart parsed = .error .malformed := by
  induction parts generalizing parsed with
  | nil => exact absurd (List.forall_mem_nil _) h
  | cons part parts ih =>
    rw [List.foldlM_cons]
    by_cases hpart : '=' ∈ part.toList
    · obtain ⟨parsed', hread, -⟩ := readPart_ok hpart parsed parts
      rw [hread]
      exact ih (fun hall => h (List.forall_mem_cons.mpr ⟨hpart, hall⟩)) parsed'
    · have hnone := splitOnce_snd_eq_none.mpr hpart
      have hread : readPart parsed part = .error .malformed := by
        simp only [readPart, hnone]
      rw [hread]
      rfl

/-! ## Comparing signatures -/

theorem foldl_diff_eq_zero (ps : List (UInt8 × UInt8)) (diff : UInt8) :
    ps.foldl (fun (diff : UInt8) p =>
      diff ||| (bif byteEqIgnoreAsciiCase p.1 p.2 then 1 else 0) ^^^ 1) diff = 0 ↔
        diff = 0 ∧ ∀ p ∈ ps, Utf8.asciiLower p.1 = Utf8.asciiLower p.2 := by
  induction ps generalizing diff with
  | nil => simp
  | cons p ps ih =>
    have hbyte : (bif byteEqIgnoreAsciiCase p.1 p.2 then (1 : UInt8) else 0) ^^^ 1 = 0 ↔
        Utf8.asciiLower p.1 = Utf8.asciiLower p.2 := by
      rw [byteEqIgnoreAsciiCase, ← beq_iff_eq (a := Utf8.asciiLower p.1)]
      cases Utf8.asciiLower p.1 == Utf8.asciiLower p.2 <;> decide
    rw [List.foldl_cons, ih, UInt8.or_eq_zero_iff, hbyte, List.forall_mem_cons, and_assoc]

theorem map_eq_map_iff_zip {α β : Type} {f : α → β} {as bs : List α} (h : as.length = bs.length) :
    (∀ p ∈ as.zip bs, f p.1 = f p.2) ↔ as.map f = bs.map f := by
  induction as generalizing bs with
  | nil =>
    obtain rfl := List.length_eq_zero_iff.mp h.symm
    simp
  | cons a as ih =>
    cases bs with
    | nil => cases h
    | cons b bs =>
      rw [List.zip_cons_cons, List.forall_mem_cons, ih (Nat.succ.inj h), List.map_cons,
        List.map_cons, List.cons.injEq]

theorem constantTimeEq_iff (as bs : List UInt8) :
    constantTimeEqIgnoreAsciiCase as bs = true ↔
      as.map Utf8.asciiLower = bs.map Utf8.asciiLower := by
  unfold constantTimeEqIgnoreAsciiCase
  split
  · next hne => exact iff_of_false nofun fun h => hne (by simpa using congrArg List.length h)
  · next heq =>
    rw [beq_iff_eq, foldl_diff_eq_zero, map_eq_map_iff_zip (not_not.mp heq)]
    exact and_iff_right rfl

/-- On text in UTF-8 the comparison of bytes is one of characters. -/
theorem constantTimeEq_encode (a b : String) :
    constantTimeEqIgnoreAsciiCase (Utf8.encode a.toList) (Utf8.encode b.toList) =
      eqIgnoreAsciiCase a b := by
  rw [Bool.eq_iff_iff, constantTimeEq_iff, ← Utf8.encode_map_toLower, ← Utf8.encode_map_toLower,
    Utf8.encode_injective.eq_iff, eqIgnoreAsciiCase, beq_iff_eq]

/-! ## Verifying -/

section Verifying

variable {hmac : List UInt8 → List UInt8 → Vector UInt8 32} {payload : Bytes}
  {signatureHeader secret : String} {nowUnixSecs : Int64} {tolerance : UInt64} {t : Int}

theorem WellFormed.unique {t' : Int} (h : WellFormed signatureHeader t)
    (h' : WellFormed signatureHeader t') : t = t' :=
  Option.some.inj (h.timestamp.symm.trans h'.timestamp)

theorem read_splitAll : ({} : ParsedHeader).read (splitAll ',' signatureHeader) =
    ⟨(valuesOf "t" signatureHeader).getLast?.bind parseI64, valuesOf "v1" signatureHeader⟩ := by
  rw [ParsedHeader.read, valuesOf, valuesOf, List.nil_append]
  cases (valuesIn "t" (splitAll ',' signatureHeader)).getLast? <;> rfl

/-- A header that is not well formed is rejected before there is any arithmetic. -/
theorem verifySignature_malformed (h : ¬ ∃ t, WellFormed signatureHeader t) :
    verifySignature hmac payload signatureHeader secret nowUnixSecs tolerance =
      pure (.error .malformed) := by
  unfold verifySignature
  by_cases hparts : ∀ part ∈ splitAll ',' signatureHeader, '=' ∈ part.toList
  · rw [foldlM_readPart hparts, read_splitAll]
    cases htime : (valuesOf "t" signatureHeader).getLast?.bind parseI64 with
    | none => rfl
    | some t =>
      cases hsigned : valuesOf "v1" signatureHeader with
      | nil => rfl
      | cons v vs => exact absurd ⟨t, hparts, htime, hsigned ▸ nofun⟩ h
  · rw [foldlM_readPart_error hparts]

theorem hexLower_yields (mac : Vector UInt8 32) {P : String → Prop} :
    (hexLower mac.toList).Yields P ↔ P (hexDigits mac) := by
  have hcapacity : mac.toList.length * 2 < 2 ^ 64 := by
    rw [Vector.length_toList]
    decide
  rw [hexLower, Overflowing.yields_bind, unsigned_yields, Overflowing.yields_pure]
  exact and_iff_right hcapacity

/-- A well-formed header is accepted if the clock agrees and one signature matches. -/
theorem verifySignature_yields (h : WellFormed signatureHeader t)
    {P : Except SignatureError Unit → Prop} :
    (verifySignature hmac payload signatureHeader secret nowUnixSecs tolerance).Yields P ↔
      |nowUnixSecs.toInt - t| < 2 ^ 63 ∧
        P (if (tolerance.toNat : Int) < |nowUnixSecs.toInt - t| then .error .timestamp
          else if (valuesOf "v1" signatureHeader).any fun s => eqIgnoreAsciiCase s (hexDigits (hmac
            (Utf8.encode (toString t ++ ".").toList ++ payload.list)
            (Utf8.encode secret.toList))) then .ok () else .error .mismatch) := by
  have hsigned : (valuesOf "v1" signatureHeader).isEmpty = false :=
    List.isEmpty_eq_false_iff.mpr h.signed
  have hcapacity : 20 + payload.list.length < 2 ^ 64 := by
    have hfits := payload.fits
    omega
  have hpayload : Utf8.encode (toString t).toList ++ Utf8.encode ['.'] =
      Utf8.encode (toString t ++ ".").toList := by
    rw [String.toList_append, Utf8.encode, Utf8.encode, Utf8.encode, List.flatMap_append]
    rfl
  unfold verifySignature
  simp only [foldlM_readPart h.parts, read_splitAll, h.timestamp, hsigned, Bool.false_eq_true,
    if_false, Overflowing.yields_bind, signed_yields]
  generalize hdrift : |nowUnixSecs.toInt - t| = drift
  have hwords : IsSigned 63 (nowUnixSecs.toInt - t) ∧ IsSigned 63 drift ↔ drift < 2 ^ 63 := by
    rw [← hdrift, Int.abs_eq_natAbs, IsSigned, IsSigned]
    omega
  rw [← and_assoc, hwords]
  refine and_congr_right fun hbound => ?_
  have hlate :
      drift > min (tolerance.toNat : Int) (2 ^ 63 - 1) ↔ (tolerance.toNat : Int) < drift := by
    omega
  by_cases hclose : (tolerance.toNat : Int) < drift
  · rw [if_pos (hlate.mpr hclose), if_pos hclose, Overflowing.yields_pure]
  · rw [if_neg (mt hlate.mp hclose), if_neg hclose, Overflowing.yields_bind, unsigned_yields,
      Overflowing.yields_bind, hexLower_yields, hpayload]
    simp only [constantTimeEq_encode]
    rw [and_iff_right hcapacity]
    split
    · exact Overflowing.yields_pure
    · exact Overflowing.yields_pure

end Verifying

/-- For every input: the signature is verified as it should be iff the distance between the clock
and the time of a well-formed header is a 64-bit number. -/
theorem verify_signature_exact_iff (hmac : List UInt8 → List UInt8 → Vector UInt8 32)
    (payload : Bytes) (signatureHeader secret : String) (nowUnixSecs : Int64)
    (tolerance : UInt64) :
    Verifies hmac payload signatureHeader secret nowUnixSecs tolerance ↔
      ∀ t, WellFormed signatureHeader t → |nowUnixSecs.toInt - t| < 2 ^ 63 := by
  by_cases hwell : ∃ t, WellFormed signatureHeader t
  · obtain ⟨t, ht⟩ := hwell
    have hall : (∀ t', WellFormed signatureHeader t' → |nowUnixSecs.toInt - t'| < 2 ^ 63) ↔
        |nowUnixSecs.toInt - t| < 2 ^ 63 :=
      ⟨fun h => h t ht, fun h t' ht' => ht.unique ht' ▸ h⟩
    rw [hall, Verifies, verifySignature_yields ht]
    refine and_iff_left ?_
    have haccepts : Accepts hmac payload.list signatureHeader secret nowUnixSecs.toInt
        tolerance.toNat ↔ |nowUnixSecs.toInt - t| ≤ tolerance.toNat ∧
          ∃ v ∈ valuesOf "v1" signatureHeader, eqIgnoreAsciiCase v (hexDigits (hmac
            (Utf8.encode (toString t ++ ".").toList ++ payload.list)
            (Utf8.encode secret.toList))) = true := by
      constructor
      · rintro ⟨t', ht', haccepted⟩
        rwa [ht'.unique ht] at haccepted
      · intro haccepted
        exact ⟨t, ht, haccepted⟩
    rw [haccepts, ← List.any_eq_true]
    by_cases hlate : (tolerance.toNat : Int) < |nowUnixSecs.toInt - t|
    · rw [if_pos hlate]
      exact iff_of_false nofun fun haccepted => absurd haccepted.1 (not_le.mpr hlate)
    · rw [if_neg hlate, and_iff_right (not_lt.mp hlate)]
      split
      · next hmatch => exact iff_of_true rfl hmatch
      · next hmismatch => exact iff_of_false nofun hmismatch
  · rw [Verifies, verifySignature_malformed hwell, Overflowing.yields_pure]
    refine iff_of_true (iff_of_false nofun ?_) fun t ht => absurd ⟨t, ht⟩ hwell
    rintro ⟨t, ht, -⟩
    exact hwell ⟨t, ht⟩

/-- A code of constant bytes in the place of the MAC. -/
def zeroMac (_ _ : List UInt8) : Vector UInt8 32 := Vector.replicate 32 0

/-- A time that is as far from the clock as no 64-bit number can tell. -/
theorem not_verify_signature_exact :
    ¬ ∀ (hmac : List UInt8 → List UInt8 → Vector UInt8 32) (payload : Bytes)
      (signatureHeader secret : String) (nowUnixSecs : Int64) (tolerance : UInt64),
      Verifies hmac payload signatureHeader secret nowUnixSecs tolerance := by
  intro h
  have hverifies := h zeroMac ⟨[], by decide⟩ "t=-9223372036854775808,v1=00" "whsec_test"
    1700000000 300
  have hoverflow : (verifySignature zeroMac ⟨[], by decide⟩ "t=-9223372036854775808,v1=00"
      "whsec_test" 1700000000 300).overflowed = true := by decide +kernel
  rw [hverifies.1] at hoverflow
  cases hoverflow

end Kubinate.Integrations
