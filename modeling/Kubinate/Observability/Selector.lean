import Kubinate.Observability.Labels

/-!
# Querying metrics

`VictoriaMetricsStore::promql_selector` of `crates/observability/src/metrics.rs` against a
reader of PromQL: vector selectors, combined by the set operators. Everything else that
PromQL has is not read.

* `selects_iff`: the text is one selector with the matchers that were asked for, and selects
  series of the organization only, iff the label names are legal.
-/

namespace Kubinate.Observability

open Platform

/-! ## Writing -/

structure RangeQuery where
  metric : String
  labelEq : List Label
  startMs : Int
  endMs : Int

def promqlSelector (organizationId : Uuid) (query : RangeQuery) : String :=
  let matchers :=
    ["__name__=\"".toList ++ promEscape query.metric.toList ++ ['"'],
      "organization_id=\"".toList ++ organizationId.text.toList ++ ['"']] ++
    query.labelEq.map fun l => labelText l.name l.value
  String.ofList ('{' :: ([','].intercalate matchers ++ ['}']))

/-! ## Reading -/

inductive SetOp where
  | and
  | or
  | unless
deriving DecidableEq, Repr

def SetOp.ofWord (word : List Char) : Option SetOp :=
  if word = "and".toList then some .and
  else if word = "or".toList then some .or
  else if word = "unless".toList then some .unless
  else none

/-- Selectors with set operators between them. -/
structure PromExpr where
  first : List Matcher
  rest : List (SetOp × List Matcher)
deriving DecidableEq, Repr

/-- Where the reader is. `before` are the selectors read so far, each with the operator that
follows it. -/
inductive QueryState where
  | operand (before : List (List Matcher × SetOp))
  | metric (before : List (List Matcher × SetOp)) (rev : List Char)
  | braces (before : List (List Matcher × SetOp)) (own : List Matcher) (b : Braces)
  | selected (before : List (List Matcher × SetOp)) (items : List Matcher)
  | word (before : List (List Matcher × SetOp)) (items : List Matcher) (rev : List Char)
  | bad

namespace QueryState

def blank (c : Char) : Bool := Dialect.promql.blank c

/-- `up` stands for `__name__="up"`. -/
def metricMatcher (rev : List Char) : List Matcher :=
  [⟨"__name__", .eq, String.ofList rev.reverse⟩]

/-- The character after a selector. -/
def afterSelector (before : List (List Matcher × SetOp)) (items : List Matcher) (c : Char) :
    QueryState :=
  if blank c then .selected before items
  else if c.isAlpha then .word before items [c]
  else .bad

def step : QueryState → Char → QueryState
  | .operand before, c =>
    if blank c then .operand before
    else if c = '{' then .braces before [] (.opened [])
    else if isLabelStart c || c == ':' then .metric before [c]
    else .bad
  | .metric before rev, c =>
    if isLabelChar c || c == ':' then .metric before (c :: rev)
    else if c = '{' then .braces before (metricMatcher rev) (.opened [])
    else afterSelector before (metricMatcher rev) c
  | .braces before own b, c =>
    match b.step .promql c with
    | .more b' => .braces before own b'
    | .closed items => .selected before (own ++ items)
    | .bad => .bad
  | .selected before items, c => afterSelector before items c
  | .word before items rev, c =>
    if c.isAlpha then .word before items (c :: rev)
    else
      match SetOp.ofWord rev.reverse with
      | none => .bad
      | some op =>
        if blank c then .operand (before ++ [(items, op)])
        else if c = '{' then .braces (before ++ [(items, op)]) [] (.opened [])
        else .bad
  | .bad, _ => .bad

/-- The expression whose last selector is `items`. -/
def chain : List (List Matcher × SetOp) → List Matcher → PromExpr
  | [], items => ⟨items, []⟩
  | (first, op) :: before, items =>
    let tail := chain before items
    ⟨first, (op, tail.first) :: tail.rest⟩

/-- The expression of a text that ends here. -/
def finish : QueryState → Option PromExpr
  | .metric before rev => some (chain before (metricMatcher rev))
  | .selected before items => some (chain before items)
  | _ => none

end QueryState

def readPromql (text : String) : Option PromExpr :=
  (text.toList.foldl QueryState.step (.operand [])).finish

/-! ## Selecting -/

/-- The value of a label; a label that a series does not have is empty. -/
def labelValue (series : List Label) (name : String) : String :=
  match series.find? (·.name == name) with
  | none => ""
  | some l => l.value

/-- `regex` decides whether a pattern matches a whole value. -/
def Matcher.accepts (regex : String → String → Bool) (series : List Label) (m : Matcher) : Bool :=
  match m.op with
  | .eq => labelValue series m.label == m.value
  | .ne => labelValue series m.label != m.value
  | .re => regex m.value (labelValue series m.label)
  | .nre => !regex m.value (labelValue series m.label)

/-- The matchers that the query asks for. -/
def RangeQuery.matchers (organizationId : Uuid) (query : RangeQuery) : List Matcher :=
  [⟨"__name__", .eq, query.metric⟩, ⟨"organization_id", .eq, organizationId.text⟩] ++
    query.labelEq.map fun l => ⟨l.name, .eq, l.value⟩

/-- The text is one selector with these matchers, which no series of another organization
satisfies. -/
def Selects (organizationId : Uuid) (query : RangeQuery) : Prop :=
  readPromql (promqlSelector organizationId query) = some ⟨query.matchers organizationId, []⟩ ∧
    ∀ regex series, (query.matchers organizationId).all (Matcher.accepts regex series) = true →
      labelValue series "organization_id" = organizationId.text

/-! ## Reading what was written -/

theorem foldl_query_braces {before : List (List Matcher × SetOp)} {own : List Matcher}
    {b b' : Braces} {cs : List Char} (h : b.scan .promql cs = some b') :
    cs.foldl QueryState.step (.braces before own b) = .braces before own b' := by
  induction cs generalizing b with
  | nil =>
    cases h
    rfl
  | cons c cs ih =>
    rw [Braces.scan] at h
    rw [List.foldl_cons, QueryState.step]
    cases hstep : b.step .promql c with
    | more next =>
      simp only [hstep] at h
      exact ih h
    | closed _ =>
      simp only [hstep] at h
      cases h
    | bad =>
      simp only [hstep] at h
      cases h

theorem readPromql_of_legal (organizationId : Uuid) (query : RangeQuery)
    (h : ∀ l ∈ query.labelEq, legalLabelName l.name.toList = true) :
    readPromql (promqlSelector organizationId query) =
      some ⟨query.matchers organizationId, []⟩ := by
  let own : List Label :=
    [⟨"__name__", query.metric⟩, ⟨"organization_id", organizationId.text⟩] ++ query.labelEq
  have hlegal : ∀ l ∈ own, legalLabelName l.name.toList = true := by
    intro l hl
    rcases List.mem_append.mp hl with hl | hl
    · simp only [List.mem_cons, List.not_mem_nil, or_false] at hl
      rcases hl with rfl | rfl
      · show legalLabelName "__name__".toList = true
        decide
      · show legalLabelName "organization_id".toList = true
        decide
    · exact h l hl
  have htext : (promqlSelector organizationId query).toList =
      '{' :: ([','].intercalate (own.map fun l => labelText l.name l.value) ++ ['}']) := by
    have horg : labelText "organization_id" organizationId.text =
        "organization_id=\"".toList ++ organizationId.text.toList ++ ['"'] := by
      rw [labelText, promEscape_uuid]
      rfl
    simp only [promqlSelector, String.toList_ofList, own, List.map_append, List.map_cons,
      List.map_nil, horg]
    rfl
  have hscan := Braces.scan_parts (d := .promql) (by simp [own]) hlegal
  rw [readPromql, htext, List.foldl_cons, List.foldl_append]
  show ((_ : List Char).foldl QueryState.step (List.foldl QueryState.step
    (.braces [] [] (.opened [])) _)).finish = _
  rw [foldl_query_braces hscan]
  simp only [own, List.map_append, List.map_cons, List.map_nil]
  rfl

/-! ## What is read has legal names -/

namespace QueryState

def LegalBefore (before : List (List Matcher × SetOp)) : Prop :=
  ∀ p ∈ before, Braces.LegalItems p.1

def Legal : QueryState → Prop
  | .operand before => LegalBefore before
  | .metric before _ => LegalBefore before
  | .braces before own b => LegalBefore before ∧ Braces.LegalItems own ∧ b.Legal
  | .selected before items => LegalBefore before ∧ Braces.LegalItems items
  | .word before items _ => LegalBefore before ∧ Braces.LegalItems items
  | .bad => True

theorem legal_metricMatcher (rev : List Char) : Braces.LegalItems (metricMatcher rev) := by
  intro m hm
  rw [List.mem_singleton.mp hm]
  show legalLabelName "__name__".toList = true
  decide

theorem legal_nil : Braces.LegalItems [] := fun _ hm => absurd hm List.not_mem_nil

theorem legal_append {as bs : List Matcher} (ha : Braces.LegalItems as)
    (hb : Braces.LegalItems bs) : Braces.LegalItems (as ++ bs) := by
  intro m hm
  rcases List.mem_append.mp hm with hm | hm
  · exact ha m hm
  · exact hb m hm

theorem legal_afterSelector {before : List (List Matcher × SetOp)} {items : List Matcher}
    {c : Char} (h : LegalBefore before ∧ Braces.LegalItems items) :
    (afterSelector before items c).Legal := by
  rw [afterSelector]
  split
  · exact h
  · split
    · exact h
    · trivial

theorem legal_step {st : QueryState} (h : st.Legal) (c : Char) : (st.step c).Legal := by
  cases st with
  | operand before =>
    rw [step]
    split
    · exact h
    · split
      · exact ⟨h, legal_nil, legal_nil⟩
      · split
        · exact h
        · trivial
  | metric before rev =>
    rw [step]
    split
    · exact h
    · split
      · exact ⟨h, legal_metricMatcher rev, legal_nil⟩
      · exact legal_afterSelector ⟨h, legal_metricMatcher rev⟩
  | braces before own b =>
    have hnext := Braces.legal_of_step (d := .promql) (c := c) h.2.2
    rw [step]
    cases hstep : b.step .promql c with
    | more b' =>
      rw [hstep] at hnext
      exact ⟨h.1, h.2.1, hnext⟩
    | closed items =>
      rw [hstep] at hnext
      exact ⟨h.1, legal_append h.2.1 hnext⟩
    | bad => trivial
  | selected before items => exact legal_afterSelector h
  | word before items rev =>
    have hbefore : ∀ op, LegalBefore (before ++ [(items, op)]) := by
      intro op p hp
      rcases List.mem_append.mp hp with hp | hp
      · exact h.1 p hp
      · rw [List.mem_singleton.mp hp]
        exact h.2
    rw [step]
    split
    · exact h
    · split
      · trivial
      · next op _ =>
        split
        · exact hbefore op
        · split
          · exact ⟨hbefore op, legal_nil, legal_nil⟩
          · trivial
  | bad => trivial

theorem legal_chain {before : List (List Matcher × SetOp)} {items : List Matcher}
    (hbefore : LegalBefore before) (h : Braces.LegalItems items) :
    Braces.LegalItems (chain before items).first := by
  cases before with
  | nil => exact h
  | cons p before => exact hbefore p List.mem_cons_self

end QueryState

theorem legal_readPromql {text : String} {e : PromExpr} (h : readPromql text = some e) :
    Braces.LegalItems e.first := by
  have hall : ∀ (cs : List Char) (st : QueryState), st.Legal →
      (cs.foldl QueryState.step st).Legal := by
    intro cs
    induction cs with
    | nil => exact fun st hst => hst
    | cons c cs ih => exact fun st hst => ih _ (QueryState.legal_step hst c)
  have hlegal := hall text.toList (.operand []) fun _ hp => absurd hp List.not_mem_nil
  rw [readPromql] at h
  generalize text.toList.foldl QueryState.step (.operand []) = st at h hlegal
  cases st with
  | metric before rev =>
    cases h
    exact QueryState.legal_chain hlegal (QueryState.legal_metricMatcher rev)
  | selected before items =>
    cases h
    exact QueryState.legal_chain hlegal.1 hlegal.2
  | _ => cases h

/-! ## Isolation -/

theorem organization_of_accepts (organizationId : Uuid) (query : RangeQuery)
    (regex : String → String → Bool) (series : List Label)
    (h : (query.matchers organizationId).all (Matcher.accepts regex series) = true) :
    labelValue series "organization_id" = organizationId.text := by
  rw [List.all_eq_true] at h
  have horg := h ⟨"organization_id", .eq, organizationId.text⟩ (by simp [RangeQuery.matchers])
  exact beq_iff_eq.mp horg

theorem selects_iff (organizationId : Uuid) (query : RangeQuery) :
    Selects organizationId query ↔
      ∀ l ∈ query.labelEq, legalLabelName l.name.toList = true := by
  constructor
  · rintro ⟨hread, -⟩ l hl
    have hlegal := legal_readPromql hread
    exact hlegal ⟨l.name, .eq, l.value⟩
      (List.mem_append_right _ (List.mem_map.mpr ⟨l, hl, rfl⟩))
  · intro h
    exact ⟨readPromql_of_legal organizationId query h, organization_of_accepts organizationId query⟩

/-- A query whose label name closes the braces and goes on with a second selector. -/
def forgedQuery : RangeQuery where
  metric := "up"
  labelEq := [⟨"a=\"\"\x7d or \x7borganization_id", "00000000-0000-0000-0000-000000000002"⟩]
  startMs := 0
  endMs := 0

/-- It is accepted, as the union with a selector for the second organization. -/
theorem readPromql_forgedQuery :
    readPromql (promqlSelector 1 forgedQuery) = some
      ⟨[⟨"__name__", .eq, "up"⟩,
          ⟨"organization_id", .eq, "00000000-0000-0000-0000-000000000001"⟩, ⟨"a", .eq, ""⟩],
        [(.or, [⟨"organization_id", .eq, "00000000-0000-0000-0000-000000000002"⟩])]⟩ := by
  decide +kernel

theorem not_rejected_or_selects :
    ¬ (readPromql (promqlSelector 1 forgedQuery) = none ∨ Selects 1 forgedQuery) := by
  rintro (hnone | ⟨hselects, -⟩)
  · rw [readPromql_forgedQuery] at hnone
    cases hnone
  · rw [readPromql_forgedQuery] at hselects
    have hrest := congrArg PromExpr.rest (Option.some.inj hselects)
    cases hrest

end Kubinate.Observability
