import Kubinate.Observability.Labels

/-!
# Writing metrics

`VictoriaMetricsStore::to_prom_text` of `crates/observability/src/metrics.rs` against a
reader of the Prometheus text exposition format.

The format is line oriented. A line is empty, a comment, or a sample: a metric name, an
optional label list, a value and an optional timestamp, with blanks between them where the
tokens would otherwise merge. A line that is none of these is skipped, as VictoriaMetrics
does.

* `readsBack_iff`: what the code writes reads back as the samples it was given, each with
  the label of the organization and no other, iff the names are legal.
-/

namespace Kubinate.Observability

open Platform

/-! ## Numbers -/

def isFloatChar (c : Char) : Bool :=
  c.isDigit || c == '-' || c == '+' || c == '.' || "NaninfIEe".toList.contains c

/-- An exponent, or nothing. -/
def exponentText : List Char → Bool
  | [] => true
  | 'e' :: '-' :: cs => !cs.isEmpty && cs.all Char.isDigit
  | 'e' :: '+' :: cs => !cs.isEmpty && cs.all Char.isDigit
  | 'e' :: cs => !cs.isEmpty && cs.all Char.isDigit
  | 'E' :: cs => !cs.isEmpty && cs.all Char.isDigit
  | _ => false

def decimalText (cs : List Char) : Bool :=
  !(cs.takeWhile Char.isDigit).isEmpty &&
    match cs.dropWhile Char.isDigit with
    | '.' :: fraction => exponentText (fraction.dropWhile Char.isDigit)
    | rest => exponentText rest

def unsigned : List Char → List Char
  | '-' :: cs => cs
  | '+' :: cs => cs
  | cs => cs

/-- A number as the format accepts it. -/
def floatText (cs : List Char) : Bool :=
  cs.all isFloatChar && (decimalText (unsigned cs) || unsigned cs == "NaN".toList ||
    unsigned cs == "inf".toList || unsigned cs == "Inf".toList)

/-- Floating-point numbers with their `Display`, which writes numbers of the format. -/
structure FloatFormat (F : Type) where
  display : F → String
  legal : ∀ x, floatText (display x).toList = true

def readNat (cs : List Char) : Option Nat :=
  if !cs.isEmpty && cs.all Char.isDigit then some (Nat.ofDigitChars 10 cs 0) else none

def readInt : List Char → Option Int
  | '-' :: cs => (readNat cs).map fun (n : Nat) => -(n : Int)
  | cs => (readNat cs).map fun (n : Nat) => (n : Int)

/-! ## Writing -/

structure Sample (F : Type) where
  labels : List Label
  timestampMs : Int
  value : F

section Writing

variable {F : Type} (format : FloatFormat F)

def Sample.metricName (s : Sample F) : String :=
  match s.labels.find? (·.name == "__name__") with
  | none => "unknown"
  | some l => l.value

/-- The labels that are written out as they are given. -/
def Sample.ownLabels (s : Sample F) : List Label :=
  s.labels.filter fun l => l.name != "__name__" && l.name != "organization_id"

def sampleText (organizationId : Uuid) (s : Sample F) : List Char :=
  let parts := s.ownLabels.map (fun l => labelText l.name l.value) ++
    ["organization_id=\"".toList ++ organizationId.text.toList ++ ['"']]
  s.metricName.toList ++ '{' :: ([','].intercalate parts ++ '}' :: '\t' ::
    ((format.display s.value).toList ++ ' ' :: ((toString s.timestampMs).toList ++ ['\n'])))

def toPromText (organizationId : Uuid) (samples : List (Sample F)) : String :=
  String.ofList (samples.flatMap (sampleText format organizationId))

end Writing

/-! ## Reading -/

def isMetricStart (c : Char) : Bool := isLabelStart c || c == ':'

def isMetricChar (c : Char) : Bool := isLabelChar c || c == ':'

/-- `[a-zA-Z_:][a-zA-Z0-9_:]*` -/
def legalMetricName : List Char → Bool
  | [] => false
  | c :: cs => isMetricStart c && cs.all isMetricChar

/-- A sample as it is read, the value as the text of its number. -/
structure PromSample where
  name : String
  labels : List Label
  value : String
  timestamp : Option Int
deriving DecidableEq, Repr

/-- Where the reader is on a line; `skip` is a comment or a line that is not well formed. -/
inductive LineState where
  | start
  | skip
  | name (rev : List Char)
  | named (name : List Char)
  | braces (name : List Char) (b : Braces)
  | labelled (name : List Char) (items : List Matcher)
  | value (name : List Char) (items : List Matcher) (rev : List Char)
  | valued (name : List Char) (items : List Matcher) (value : List Char)
  | timestamp (name : List Char) (items : List Matcher) (value rev : List Char)
  | ended (name : List Char) (items : List Matcher) (value timestamp : List Char)

namespace LineState

def blank (c : Char) : Bool := Dialect.exposition.blank c

/-- The character after the metric's name. -/
def afterName (metric : List Char) (c : Char) : LineState :=
  if blank c then .named metric
  else if c = '{' then .braces metric (.opened [])
  else .value metric [] [c]

def step : LineState → Char → LineState
  | .start, c =>
    if blank c then .start else if isMetricStart c then .name [c] else .skip
  | .skip, _ => .skip
  | .name rev, c => if isMetricChar c then .name (c :: rev) else afterName rev.reverse c
  | .named metric, c => afterName metric c
  | .braces metric b, c =>
    match b.step .exposition c with
    | .more b' => .braces metric b'
    | .closed items => .labelled metric items
    | .bad => .skip
  | .labelled metric items, c =>
    if blank c then .labelled metric items else .value metric items [c]
  | .value metric items rev, c =>
    if blank c then .valued metric items rev.reverse else .value metric items (c :: rev)
  | .valued metric items number, c =>
    if blank c then .valued metric items number else .timestamp metric items number [c]
  | .timestamp metric items number rev, c =>
    if blank c then .ended metric items number rev.reverse
    else .timestamp metric items number (c :: rev)
  | .ended metric items number time, c =>
    if blank c then .ended metric items number time else .skip

/-- The sample of these tokens, if the numbers are numbers. -/
def sample (metric : List Char) (items : List Matcher) (number : List Char)
    (time : Option Int) : Option PromSample :=
  if floatText number then
    some ⟨String.ofList metric, items.map fun m => ⟨m.label, m.value⟩, String.ofList number, time⟩
  else none

/-- The sample of a line that ends here. -/
def finish : LineState → Option PromSample
  | .value metric items rev => sample metric items rev.reverse none
  | .valued metric items number => sample metric items number none
  | .timestamp metric items number rev =>
    (readInt rev.reverse).bind fun t => sample metric items number (some t)
  | .ended metric items number time =>
    (readInt time).bind fun t => sample metric items number (some t)
  | _ => none

end LineState

/-- The reader of a whole text: the state on the line, and the samples of the lines before. -/
def readChar (s : LineState × List PromSample) (c : Char) : LineState × List PromSample :=
  if c = '\n' then (.start, s.2 ++ s.1.finish.toList) else (s.1.step c, s.2)

def readPromText (text : String) : List PromSample :=
  (text.toList.foldl readChar (.start, [])).2

/-! ## Reading what was written -/

section RoundTrip

variable {out : List PromSample} {metric : List Char} {items : List Matcher}

theorem isMetricChar_ne_newline {c : Char} (h : isMetricChar c = true) : c ≠ '\n' := by
  rintro rfl
  exact absurd h (by decide)

theorem foldl_metricChars (cs rev : List Char) (h : cs.all isMetricChar = true) :
    cs.foldl readChar (.name rev, out) = (.name (cs.reverse ++ rev), out) := by
  induction cs generalizing rev with
  | nil => rfl
  | cons c cs ih =>
    rw [List.all_cons, Bool.and_eq_true] at h
    rw [List.foldl_cons, readChar, if_neg (isMetricChar_ne_newline h.1), LineState.step,
      if_pos h.1, ih (c :: rev) h.2, List.reverse_cons, List.append_assoc, List.singleton_append]

theorem foldl_metricName {name : List Char} (h : legalMetricName name = true) :
    name.foldl readChar (.start, out) = (.name name.reverse, out) := by
  cases name with
  | nil => cases h
  | cons c cs =>
    rw [legalMetricName, Bool.and_eq_true] at h
    have hne : ∀ w : Char, isMetricStart w = false → c ≠ w := by
      rintro w hw rfl
      rw [h.1] at hw
      cases hw
    have hblank : LineState.blank c = false := by
      simp [LineState.blank, Dialect.blank, hne ' ' rfl, hne '\t' rfl]
    rw [List.foldl_cons, readChar, if_neg (hne '\n' rfl), LineState.step,
      if_neg (by simp [hblank]), if_pos h.1, foldl_metricChars cs [c] h.2, List.reverse_cons]

/-- A line feed between the braces is never part of a label list. -/
theorem step_newline (b : Braces) : b.step .exposition '\n' = .bad := by
  cases b <;> rfl

theorem foldl_braces {b b' : Braces} {cs : List Char} (h : b.scan .exposition cs = some b') :
    cs.foldl readChar (.braces metric b, out) = (.braces metric b', out) := by
  induction cs generalizing b with
  | nil =>
    cases h
    rfl
  | cons c cs ih =>
    rw [Braces.scan] at h
    cases hstep : b.step .exposition c with
    | more next =>
      simp only [hstep] at h
      have hne : c ≠ '\n' := by
        rintro rfl
        rw [step_newline] at hstep
        cases hstep
      rw [List.foldl_cons, readChar, if_neg hne, LineState.step]
      simp only [hstep]
      exact ih h
    | closed _ =>
      simp only [hstep] at h
      cases h
    | bad =>
      simp only [hstep] at h
      cases h

/-- A character that belongs to a token. -/
def solid (c : Char) : Bool := !LineState.blank c && c != '\n'

theorem foldl_valueChars (cs rev : List Char) (h : cs.all solid = true) :
    cs.foldl readChar (.value metric items rev, out) =
      (.value metric items (cs.reverse ++ rev), out) := by
  induction cs generalizing rev with
  | nil => rfl
  | cons c cs ih =>
    rw [List.all_cons, Bool.and_eq_true, solid, Bool.and_eq_true, Bool.not_eq_true',
      bne_iff_ne] at h
    rw [List.foldl_cons, readChar, if_neg h.1.2, LineState.step, if_neg (by simp [h.1.1]),
      ih (c :: rev) h.2, List.reverse_cons, List.append_assoc, List.singleton_append]

theorem foldl_timeChars {number : List Char} (cs rev : List Char) (h : cs.all solid = true) :
    cs.foldl readChar (.timestamp metric items number rev, out) =
      (.timestamp metric items number (cs.reverse ++ rev), out) := by
  induction cs generalizing rev with
  | nil => rfl
  | cons c cs ih =>
    rw [List.all_cons, Bool.and_eq_true, solid, Bool.and_eq_true, Bool.not_eq_true',
      bne_iff_ne] at h
    rw [List.foldl_cons, readChar, if_neg h.1.2, LineState.step, if_neg (by simp [h.1.1]),
      ih (c :: rev) h.2, List.reverse_cons, List.append_assoc, List.singleton_append]

theorem foldl_number {number : List Char} (hne : number ≠ []) (h : number.all solid = true) :
    number.foldl readChar (.labelled metric items, out) =
      (.value metric items number.reverse, out) := by
  obtain ⟨c, cs, rfl⟩ := List.exists_cons_of_ne_nil hne
  rw [List.all_cons, Bool.and_eq_true, solid, Bool.and_eq_true, Bool.not_eq_true', bne_iff_ne] at h
  rw [List.foldl_cons, readChar, if_neg h.1.2, LineState.step, if_neg (by simp [h.1.1]),
    foldl_valueChars cs [c] h.2, List.reverse_cons]

theorem foldl_time {number time : List Char} (hne : time ≠ []) (h : time.all solid = true) :
    time.foldl readChar (.valued metric items number, out) =
      (.timestamp metric items number time.reverse, out) := by
  obtain ⟨c, cs, rfl⟩ := List.exists_cons_of_ne_nil hne
  rw [List.all_cons, Bool.and_eq_true, solid, Bool.and_eq_true, Bool.not_eq_true', bne_iff_ne] at h
  rw [List.foldl_cons, readChar, if_neg h.1.2, LineState.step, if_neg (by simp [h.1.1]),
    foldl_timeChars cs [c] h.2, List.reverse_cons]

theorem solid_of_floatText {cs : List Char} (h : floatText cs = true) :
    cs ≠ [] ∧ cs.all solid = true := by
  rw [floatText, Bool.and_eq_true] at h
  constructor
  · rintro rfl
    exact absurd h.2 (by decide)
  · rw [List.all_eq_true] at h ⊢
    intro c hc
    have hfloat := h.1 c hc
    have hne : ∀ w : Char, isFloatChar w = false → c ≠ w := by
      rintro w hw rfl
      rw [hfloat] at hw
      cases hw
    simp [solid, LineState.blank, Dialect.blank, hne ' ' rfl, hne '\t' rfl, hne '\n' rfl]

theorem solid_of_isDigit {c : Char} (h : c.isDigit = true) : solid c = true := by
  have hne : ∀ w : Char, w.isDigit = false → c ≠ w := by
    rintro w hw rfl
    rw [h] at hw
    cases hw
  simp [solid, LineState.blank, Dialect.blank, hne ' ' rfl, hne '\t' rfl, hne '\n' rfl]

theorem readNat_repr (n : Nat) : readNat n.repr.toList = some n := by
  have hdigits : (Nat.toDigits 10 n).all Char.isDigit = true := by
    rw [List.all_eq_true]
    exact fun c hc => Nat.isDigit_of_mem_toDigits (by decide) (by decide) hc
  rw [Nat.toList_repr, readNat, hdigits, Nat.ofDigitChars_ten_toDigits]
  simp [Nat.toDigits_ne_nil]

theorem solid_repr (n : Nat) : n.repr.toList.all solid = true := by
  rw [List.all_eq_true]
  exact fun c hc => solid_of_isDigit (isDigit_of_mem_repr hc)

/-- A timestamp is a token that reads back as itself. -/
theorem readInt_toString (t : Int) :
    (toString t).toList ≠ [] ∧ (toString t).toList.all solid = true ∧
      readInt (toString t).toList = some t := by
  rw [Int.toString_eq_repr, Int.repr_eq_if]
  by_cases ht : 0 ≤ t
  · have hnat : (t.toNat : Int) = t := by omega
    have hne : t.toNat.repr.toList ≠ [] := by
      rw [Nat.toList_repr]
      exact Nat.toDigits_ne_nil
    have hread : readInt t.toNat.repr.toList =
        (readNat t.toNat.repr.toList).map fun (n : Nat) => (n : Int) := by
      have hdigit : ∀ c ∈ t.toNat.repr.toList, c.isDigit = true := fun c hc => isDigit_of_mem_repr hc
      cases hcs : t.toNat.repr.toList with
      | nil => rfl
      | cons c cs =>
        have hc : c ≠ '-' := by
          rintro rfl
          exact absurd (hdigit '-' (hcs ▸ List.mem_cons_self)) (by decide)
        rw [readInt]
        rintro _ h
        exact hc (List.cons.inj h).1
    rw [if_pos ht]
    refine ⟨hne, solid_repr _, ?_⟩
    rw [hread, readNat_repr, Option.map_some, hnat]
  · have hnat : -((-t).toNat : Int) = t := by omega
    rw [if_neg ht, String.toList_append]
    refine ⟨by simp, ?_, ?_⟩
    · rw [List.all_append, solid_repr, Bool.and_true]
      rfl
    · show (readNat (-t).toNat.repr.toList).map (fun (n : Nat) => -(n : Int)) = some t
      rw [readNat_repr, Option.map_some, hnat]

variable {F : Type} (format : FloatFormat F)

/-- What the code means by a sample. -/
def Sample.written (organizationId : Uuid) (s : Sample F) : PromSample :=
  ⟨s.metricName, s.ownLabels ++ [⟨"organization_id", organizationId.text⟩],
    format.display s.value, some s.timestampMs⟩

def Sample.NamesLegal (s : Sample F) : Prop :=
  legalMetricName s.metricName.toList = true ∧ ∀ l ∈ s.labels, legalLabelName l.name.toList = true

theorem labelText_organizationId (organizationId : Uuid) :
    "organization_id=\"".toList ++ organizationId.text.toList ++ ['"'] =
      labelText "organization_id" organizationId.text := by
  rw [labelText, promEscape_uuid]
  rfl

/-- One sample, on a line of its own. -/
theorem foldl_sampleText {organizationId : Uuid} {s : Sample F} (h : s.NamesLegal) :
    (sampleText format organizationId s).foldl readChar (.start, out) =
      (.start, out ++ [s.written format organizationId]) := by
  have hlabels : ∀ l ∈ s.ownLabels ++ [⟨"organization_id", organizationId.text⟩],
      legalLabelName l.name.toList = true := by
    intro l hl
    rcases List.mem_append.mp hl with hl | hl
    · exact h.2 l (List.mem_of_mem_filter hl)
    · rw [List.mem_singleton.mp hl]
      show legalLabelName "organization_id".toList = true
      decide
  have hscan := Braces.scan_parts (d := .exposition) (by simp) hlabels
  obtain ⟨hnumber, hsolid⟩ := solid_of_floatText (format.legal s.value)
  obtain ⟨htime, htimeSolid, hread⟩ := readInt_toString s.timestampMs
  have hopen : ∀ rev, readChar (.name rev, out) '{' = (.braces rev.reverse (.opened []), out) :=
    fun rev => rfl
  have hclose : ∀ metric items, readChar (.braces metric (.item items), out) '}' =
      (.labelled metric items, out) := fun _ _ => rfl
  have htab : ∀ metric items, readChar (.labelled metric items, out) '\t' =
      (.labelled metric items, out) := fun _ _ => rfl
  have hspace : ∀ metric items rev, readChar (.value metric items rev, out) ' ' =
      (.valued metric items rev.reverse, out) := fun _ _ _ => rfl
  rw [sampleText, labelText_organizationId]
  rw [List.map_append, List.map_singleton] at hscan
  simp only [List.foldl_append, List.foldl_cons, foldl_metricName h.1, hopen, foldl_braces hscan,
    hclose, htab, foldl_number hnumber hsolid, hspace, foldl_time htime htimeSolid, List.foldl_nil]
  rw [readChar, if_pos rfl, LineState.finish]
  have hitems : ∀ ls : List Label, (ls.map fun l => (⟨l.name, .eq, l.value⟩ : Matcher)).map
      (fun m => (⟨m.label, m.value⟩ : Label)) = ls := by
    intro ls
    rw [List.map_map]
    exact List.map_id _
  simp only [List.reverse_reverse, hread, LineState.sample, format.legal s.value, Option.bind_some,
    if_true, Option.toList_some, String.ofList_toList, Sample.written, hitems]

theorem readPromText_of_legal (organizationId : Uuid) (samples : List (Sample F))
    (h : ∀ s ∈ samples, s.NamesLegal) :
    readPromText (toPromText format organizationId samples) =
      samples.map (Sample.written format organizationId) := by
  have hall : ∀ out, (samples.flatMap (sampleText format organizationId)).foldl readChar
      (.start, out) = (.start, out ++ samples.map (Sample.written format organizationId)) := by
    induction samples with
    | nil => exact fun out => by rw [List.map_nil, List.append_nil]; rfl
    | cons s samples ih =>
      intro out
      rw [List.flatMap_cons, List.foldl_append, foldl_sampleText format (h s List.mem_cons_self),
        ih fun s hs => h s (List.mem_cons_of_mem _ hs), List.append_assoc, List.map_cons,
        List.singleton_append]
  rw [readPromText, toPromText, String.toList_ofList, hall, List.nil_append]

end RoundTrip

/-! ## What is read has legal names -/

namespace LineState

/-- The tokens read so far are legal. -/
def Legal : LineState → Prop
  | .start | .skip => True
  | .name rev => legalMetricName rev.reverse = true
  | .named metric => legalMetricName metric = true
  | .braces metric b => legalMetricName metric = true ∧ b.Legal
  | .labelled metric items | .value metric items _ | .valued metric items _
  | .timestamp metric items _ _ | .ended metric items _ _ =>
    legalMetricName metric = true ∧ Braces.LegalItems items

theorem legalMetricName_append {name : List Char} {c : Char} (h : legalMetricName name = true)
    (hc : isMetricChar c = true) : legalMetricName (name ++ [c]) = true := by
  cases name with
  | nil => cases h
  | cons start name =>
    rw [legalMetricName, Bool.and_eq_true] at h
    rw [List.cons_append, legalMetricName, h.1, List.all_append, h.2]
    simp [hc]

theorem legal_afterName {metric : List Char} {c : Char} (h : legalMetricName metric = true) :
    (afterName metric c).Legal := by
  rw [afterName]
  split
  · exact h
  · split
    · exact ⟨h, fun _ hm => absurd hm List.not_mem_nil⟩
    · exact ⟨h, fun _ hm => absurd hm List.not_mem_nil⟩

theorem legal_step {st : LineState} (h : st.Legal) (c : Char) : (st.step c).Legal := by
  cases st with
  | start =>
    rw [step]
    split
    · trivial
    · split
      · next hstart => simp [Legal, legalMetricName, hstart]
      · trivial
  | skip => trivial
  | name rev =>
    rw [step]
    split
    · next hc =>
      rw [Legal, List.reverse_cons]
      exact legalMetricName_append h hc
    · exact legal_afterName h
  | named metric => exact legal_afterName h
  | braces metric b =>
    have hnext := Braces.legal_of_step (d := .exposition) (c := c) h.2
    rw [step]
    cases hstep : b.step .exposition c with
    | more b' =>
      rw [hstep] at hnext
      exact ⟨h.1, hnext⟩
    | closed items =>
      rw [hstep] at hnext
      exact ⟨h.1, hnext⟩
    | bad => trivial
  | labelled metric items =>
    rw [step]
    split <;> exact h
  | value metric items rev =>
    rw [step]
    split <;> exact h
  | valued metric items number =>
    rw [step]
    split <;> exact h
  | timestamp metric items number rev =>
    rw [step]
    split <;> exact h
  | ended metric items number time =>
    rw [step]
    split
    · exact h
    · trivial

end LineState

def PromSample.NamesLegal (p : PromSample) : Prop :=
  legalMetricName p.name.toList = true ∧ ∀ l ∈ p.labels, legalLabelName l.name.toList = true

theorem legal_sample {metric : List Char} {items : List Matcher} {number : List Char}
    {time : Option Int} {p : PromSample}
    (h : legalMetricName metric = true ∧ Braces.LegalItems items)
    (hp : LineState.sample metric items number time = some p) : p.NamesLegal := by
  rw [LineState.sample] at hp
  split at hp
  · cases hp
    refine ⟨by simpa using h.1, fun l hl => ?_⟩
    obtain ⟨m, hm, rfl⟩ := List.mem_map.mp hl
    exact h.2 m hm
  · cases hp

theorem legal_finish {st : LineState} (h : st.Legal) {p : PromSample} (hp : st.finish = some p) :
    p.NamesLegal := by
  cases st with
  | value metric items rev => exact legal_sample h hp
  | valued metric items number => exact legal_sample h hp
  | timestamp metric items number rev =>
    obtain ⟨t, -, hsample⟩ := Option.bind_eq_some_iff.mp hp
    exact legal_sample h hsample
  | ended metric items number time =>
    obtain ⟨t, -, hsample⟩ := Option.bind_eq_some_iff.mp hp
    exact legal_sample h hsample
  | _ => cases hp

theorem legal_readPromText (text : String) : ∀ p ∈ readPromText text, p.NamesLegal := by
  have hall : ∀ (cs : List Char) (s : LineState × List PromSample), s.1.Legal →
      (∀ p ∈ s.2, p.NamesLegal) → ∀ p ∈ (cs.foldl readChar s).2, p.NamesLegal := by
    intro cs
    induction cs with
    | nil => exact fun s _ hout => hout
    | cons c cs ih =>
      intro s hstate hout
      rw [List.foldl_cons, readChar]
      split
      · refine ih _ trivial fun p hp => ?_
        rcases List.mem_append.mp hp with hp | hp
        · exact hout p hp
        · exact legal_finish hstate (Option.mem_toList.mp hp)
      · exact ih _ (LineState.legal_step hstate c) hout
  exact hall text.toList _ trivial fun _ hp => absurd hp List.not_mem_nil

/-! ## Isolation -/

section Isolation

variable {F : Type} (format : FloatFormat F)

/-- At most as many samples as were given, and each is the organization's and nobody
else's. -/
def Isolated (organizationId : Uuid) (samples : List (Sample F)) (read : List PromSample) : Prop :=
  read.length ≤ samples.length ∧ ∀ p ∈ read,
    p.labels.filter (·.name == "organization_id") = [⟨"organization_id", organizationId.text⟩]

theorem isolated_written (organizationId : Uuid) (samples : List (Sample F)) :
    Isolated organizationId samples (samples.map (Sample.written format organizationId)) := by
  refine ⟨by rw [List.length_map], fun p hp => ?_⟩
  obtain ⟨s, -, rfl⟩ := List.mem_map.mp hp
  have hown : s.ownLabels.filter (·.name == "organization_id") = [] := by
    rw [List.filter_eq_nil_iff]
    intro l hl horg
    have hname := (List.mem_filter.mp hl).2
    rw [beq_iff_eq.mp horg] at hname
    exact absurd hname (by decide)
  rw [Sample.written, List.filter_append, hown]
  rfl

theorem namesLegal_of_written {organizationId : Uuid} {s : Sample F}
    (h : (s.written format organizationId).NamesLegal) : s.NamesLegal := by
  refine ⟨h.1, fun l hl => ?_⟩
  by_cases hown : (l.name != "__name__" && l.name != "organization_id") = true
  · exact h.2 l (List.mem_append_left _ (List.mem_filter.mpr ⟨hl, hown⟩))
  · simp only [Bool.and_eq_true, bne_iff_ne, not_and_or, not_not] at hown
    rcases hown with hname | hname <;> rw [hname] <;> decide

end Isolation

/-- The text reads back as the samples that were given, and is isolated, iff every metric
name and every label name is legal. -/
theorem readsBack_iff {F : Type} (format : FloatFormat F) (organizationId : Uuid)
    (samples : List (Sample F)) :
    (Isolated organizationId samples (readPromText (toPromText format organizationId samples)) ∧
      readPromText (toPromText format organizationId samples) =
        samples.map (Sample.written format organizationId)) ↔
      ∀ s ∈ samples, s.NamesLegal := by
  constructor
  · rintro ⟨-, hread⟩ s hs
    have hmem : s.written format organizationId ∈
        readPromText (toPromText format organizationId samples) := by
      rw [hread]
      exact List.mem_map_of_mem hs
    exact namesLegal_of_written format (legal_readPromText _ _ hmem)
  · intro hlegal
    have hread := readPromText_of_legal format organizationId samples hlegal
    refine ⟨?_, hread⟩
    rw [hread]
    exact isolated_written format organizationId samples

/-- The only number is one. -/
def onlyOne : FloatFormat Unit where
  display _ := "1"
  legal _ := by decide

/-- A sample whose metric name ends the line that it is on and brings its own organization. -/
def forgedSample : Sample Unit :=
  ⟨[⟨"__name__", "up\x7borganization_id=\"00000000-0000-0000-0000-000000000002\"\x7d 1 2\nx"⟩],
    0, ()⟩

theorem not_isolated :
    ¬ Isolated 1 [forgedSample] (readPromText (toPromText onlyOne 1 [forgedSample])) := by
  rintro ⟨hlength, -⟩
  revert hlength
  decide +kernel

end Kubinate.Observability
