import Kubinate.Observability.Exposition
import Kubinate.Observability.Selector
import Mathlib.Logic.Function.Basic

/-!
# The metrics store in memory

`InMemoryMetricsStore`, `sample_matches` and the entry points `handle_write` and
`handle_query` of `crates/observability/src/metrics.rs`. Every method of the store holds its
mutex from beginning to end.

* `handleQuery_served`: what an organization reads is the log of its own accepted writes, less
  what the query does not select. Calls of other organizations and writes that are refused
  make no difference to it.
-/

namespace Kubinate.Observability

open Platform

inductive MetricsError where
  | tenantMismatch (actor body : Uuid)
  | backend (message : String)
deriving DecidableEq, Repr

structure WriteRequest (F : Type) where
  organizationId : Uuid
  samples : List (Sample F)

variable {F : Type}

/-! ## The store -/

/-- `HashMap<Uuid, Vec<Sample>>` -/
structure InMemoryMetricsStore (F : Type) where
  inner : Uuid → Option (List (Sample F))

namespace InMemoryMetricsStore

def new : InMemoryMetricsStore F := ⟨fun _ => none⟩

/-- `guard.entry(organization_id).or_default().extend(samples)` -/
def ingest (store : InMemoryMetricsStore F) (organizationId : Uuid) (samples : List (Sample F)) :
    InMemoryMetricsStore F × Except MetricsError Nat :=
  (⟨Function.update store.inner organizationId
    (some ((store.inner organizationId).getD [] ++ samples))⟩, .ok samples.length)

end InMemoryMetricsStore

def sampleMatches (sample : Sample F) (query : RangeQuery) : Bool :=
  if sample.timestampMs < query.startMs || sample.timestampMs > query.endMs then false
  else if (sample.labels.find? (·.name == "__name__")).map (·.value) != some query.metric then false
  else query.labelEq.all fun l =>
    sample.labels.any fun own => own.name == l.name && own.value == l.value

def InMemoryMetricsStore.queryRange (store : InMemoryMetricsStore F) (organizationId : Uuid)
    (query : RangeQuery) : Except MetricsError (List (Sample F)) :=
  match store.inner organizationId with
  | none => .ok []
  | some samples => .ok (samples.filter (sampleMatches · query))

def handleWrite (store : InMemoryMetricsStore F) (actorOrganizationId : Uuid)
    (request : WriteRequest F) : InMemoryMetricsStore F × Except MetricsError Nat :=
  if actorOrganizationId ≠ request.organizationId then
    (store, .error (.tenantMismatch actorOrganizationId request.organizationId))
  else store.ingest actorOrganizationId request.samples

def handleQuery (store : InMemoryMetricsStore F) (actorOrganizationId : Uuid)
    (query : RangeQuery) : Except MetricsError (List (Sample F)) :=
  store.queryRange actorOrganizationId query

/-! ## What is written and what is asked for -/

/-- A call of an organization, which is the one of the caller's session. -/
inductive MetricsCall (F : Type) where
  | write (actor : Uuid) (request : WriteRequest F)
  | query (actor : Uuid) (query : RangeQuery)

def MetricsCall.actor : MetricsCall F → Uuid
  | .write actor _ | .query actor _ => actor

def serve (store : InMemoryMetricsStore F) : MetricsCall F → InMemoryMetricsStore F
  | .write actor request => (handleWrite store actor request).1
  | .query _ _ => store

/-- The store after a sequence of calls. -/
def served (calls : List (MetricsCall F)) : InMemoryMetricsStore F := calls.foldl serve .new

/-- The samples of a write that is accepted from this organization. -/
def MetricsCall.accepted (organizationId : Uuid) : MetricsCall F → List (Sample F)
  | .write actor request =>
    if actor = organizationId ∧ request.organizationId = organizationId then request.samples else []
  | .query _ _ => []

/-- The log of an organization: its accepted samples in the order of the calls. -/
def acceptedSamples (organizationId : Uuid) (calls : List (MetricsCall F)) : List (Sample F) :=
  calls.flatMap (·.accepted organizationId)

/-- The samples that a query is about. -/
structure Selected (query : RangeQuery) (sample : Sample F) : Prop where
  start : query.startMs ≤ sample.timestampMs
  stop : sample.timestampMs ≤ query.endMs
  metric : (sample.labels.find? (·.name = "__name__")).map (·.value) = some query.metric
  labels : ∀ l ∈ query.labelEq, l ∈ sample.labels

theorem sampleMatches_iff {sample : Sample F} {query : RangeQuery} :
    sampleMatches sample query = true ↔ Selected query sample := by
  have hlabels : (query.labelEq.all fun l => sample.labels.any fun own =>
      own.name == l.name && own.value == l.value) = true ↔ ∀ l ∈ query.labelEq, l ∈ sample.labels := by
    rw [List.all_eq_true]
    refine forall₂_congr fun l _ => ?_
    rw [List.any_eq_true]
    constructor
    · rintro ⟨own, hown, heq⟩
      rw [Bool.and_eq_true, beq_iff_eq, beq_iff_eq] at heq
      cases own
      cases l
      obtain ⟨rfl, rfl⟩ := heq
      exact hown
    · intro hl
      exact ⟨l, hl, by rw [beq_self_eq_true, beq_self_eq_true]; rfl⟩
  unfold sampleMatches
  by_cases htime : sample.timestampMs < query.startMs ∨ sample.timestampMs > query.endMs
  · rw [if_pos (by simpa using htime)]
    refine iff_of_false Bool.false_ne_true fun h => ?_
    have hstart := h.start
    have hstop := h.stop
    omega
  · rw [if_neg (by simpa using htime)]
    have hname : (fun l : Label => l.name == "__name__") = fun l => decide (l.name = "__name__") :=
      funext fun l => by rw [beq_eq_decide]
    by_cases hmetric : (sample.labels.find? (·.name = "__name__")).map (·.value) = some query.metric
    · rw [if_neg (by rw [hname, hmetric]; simp), hlabels]
      exact ⟨fun h => ⟨by omega, by omega, hmetric, h⟩, fun h => h.labels⟩
    · rw [if_pos (by rw [hname]; simpa using hmetric)]
      exact iff_of_false Bool.false_ne_true fun h => hmetric h.metric

instance (query : RangeQuery) (sample : Sample F) : Decidable (Selected query sample) :=
  decidable_of_iff _ sampleMatches_iff

theorem filter_sampleMatches (query : RangeQuery) (samples : List (Sample F)) :
    samples.filter (sampleMatches · query) = samples.filter fun s => Selected query s :=
  List.filter_congr fun s _ => by rw [Bool.eq_iff_iff, sampleMatches_iff, decide_eq_true_iff]

/-! ## The store as a log -/

/-- What the store holds of an organization. -/
def InMemoryMetricsStore.log (store : InMemoryMetricsStore F) (organizationId : Uuid) :
    List (Sample F) :=
  (store.inner organizationId).getD []

theorem queryRange_eq (store : InMemoryMetricsStore F) (organizationId : Uuid) (query : RangeQuery) :
    store.queryRange organizationId query =
      .ok ((store.log organizationId).filter (sampleMatches · query)) := by
  unfold InMemoryMetricsStore.queryRange InMemoryMetricsStore.log
  cases store.inner organizationId with
  | none => rfl
  | some samples => rfl

theorem log_ingest (store : InMemoryMetricsStore F) (writer organizationId : Uuid)
    (samples : List (Sample F)) :
    (store.ingest writer samples).1.log organizationId =
      store.log organizationId ++ if writer = organizationId then samples else [] := by
  show (Function.update store.inner writer (some ((store.inner writer).getD [] ++ samples))
    organizationId).getD [] = _
  by_cases h : writer = organizationId
  · subst h
    rw [Function.update_self, if_pos rfl]
    rfl
  · rw [Function.update_of_ne (Ne.symm h), if_neg h, List.append_nil]
    rfl

/-- What one call adds to the log of an organization. -/
theorem log_serve (store : InMemoryMetricsStore F) (call : MetricsCall F) (organizationId : Uuid) :
    (serve store call).log organizationId =
      store.log organizationId ++ call.accepted organizationId := by
  cases call with
  | query actor query => exact (List.append_nil _).symm
  | write actor request =>
    show (handleWrite store actor request).1.log organizationId = store.log organizationId ++
      if actor = organizationId ∧ request.organizationId = organizationId then request.samples else []
    unfold handleWrite
    by_cases hbody : actor ≠ request.organizationId
    · have hnot : ¬ (actor = organizationId ∧ request.organizationId = organizationId) := by
        rintro ⟨rfl, h⟩
        exact hbody h.symm
      rw [if_pos hbody, if_neg hnot, List.append_nil]
    · rw [if_neg hbody]
      rw [ne_eq, not_not] at hbody
      subst hbody
      rw [log_ingest]
      simp only [and_self]

theorem log_foldl (calls : List (MetricsCall F)) (store : InMemoryMetricsStore F)
    (organizationId : Uuid) :
    (calls.foldl serve store).log organizationId =
      store.log organizationId ++ acceptedSamples organizationId calls := by
  induction calls generalizing store with
  | nil => exact (List.append_nil _).symm
  | cons call calls ih =>
    rw [List.foldl_cons, ih, log_serve, List.append_assoc]
    rfl

theorem log_served (calls : List (MetricsCall F)) (organizationId : Uuid) :
    (served calls).log organizationId = acceptedSamples organizationId calls := by
  rw [served, log_foldl]
  exact List.nil_append _

/-- The log of an organization is made by its own calls. -/
theorem acceptedSamples_filter (organizationId : Uuid) (calls : List (MetricsCall F)) :
    acceptedSamples organizationId (calls.filter (·.actor = organizationId)) =
      acceptedSamples organizationId calls := by
  induction calls with
  | nil => rfl
  | cons call calls ih =>
    unfold acceptedSamples at ih ⊢
    by_cases hactor : call.actor = organizationId
    · rw [List.filter_cons_of_pos (by simpa using hactor), List.flatMap_cons, List.flatMap_cons, ih]
    · have hnothing : call.accepted organizationId = [] := by
        cases call with
        | query actor query => rfl
        | write actor request => exact if_neg fun h => hactor h.1
      rw [List.filter_cons_of_neg (by simpa using hactor), List.flatMap_cons, ih, hnothing,
        List.nil_append]

theorem handleQuery_eq (calls : List (MetricsCall F)) (organizationId : Uuid) (query : RangeQuery) :
    handleQuery (served calls) organizationId query =
      .ok ((acceptedSamples organizationId calls).filter fun s => Selected query s) := by
  rw [handleQuery, queryRange_eq, log_served, filter_sampleMatches]

theorem handleWrite_of_ne {store : InMemoryMetricsStore F} {actor : Uuid} {request : WriteRequest F}
    (h : request.organizationId ≠ actor) :
    handleWrite store actor request =
      (store, .error (.tenantMismatch actor request.organizationId)) :=
  if_pos (Ne.symm h)

/-- After any calls of any organizations, an organization reads those samples of its own
accepted writes, in their order, that its query selects. It reads the same after any other
calls of which its own are the same ones; and a write whose body names another organization
is refused and leaves everything that is read later as it would be without it. -/
theorem handleQuery_served (calls : List (MetricsCall F)) (organizationId : Uuid)
    (query : RangeQuery) :
    handleQuery (served calls) organizationId query =
        .ok ((acceptedSamples organizationId calls).filter fun s => Selected query s) ∧
      (∀ calls', calls'.filter (·.actor = organizationId) = calls.filter (·.actor = organizationId) →
        handleQuery (served calls') organizationId query =
          handleQuery (served calls) organizationId query) ∧
      ∀ before actor request after, calls = before ++ .write actor request :: after →
        request.organizationId ≠ actor →
        (handleWrite (served before) actor request).2 =
            .error (.tenantMismatch actor request.organizationId) ∧
          handleQuery (served calls) organizationId query =
            handleQuery (served (before ++ after)) organizationId query := by
  refine ⟨handleQuery_eq calls organizationId query, fun calls' h => ?_, ?_⟩
  · rw [handleQuery_eq, handleQuery_eq, ← acceptedSamples_filter, h, acceptedSamples_filter]
  · intro before actor request after hcalls hbody
    refine ⟨by rw [handleWrite_of_ne hbody], ?_⟩
    have hstore : served calls = served (before ++ after) := by
      rw [hcalls, served, served, List.foldl_append, List.foldl_append, List.foldl_cons, serve,
        handleWrite_of_ne hbody]
    rw [hstore]

end Kubinate.Observability
