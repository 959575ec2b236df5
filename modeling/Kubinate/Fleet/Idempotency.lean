import Kubinate.Fleet.Credentials

/-!
# The law of the Idempotency-Key

A create request with a key looks the key up, creates the cluster and stores its response, in three
transactions. A row that has expired is ignored by the lookup and stays in the table, where it makes
the insert of a later response do nothing.

* `create_settles`: how such a request can go.
* `replayed`: if there was no row for the key when a request has stored its response, the requests
  that come later and find the row in time are answered with it.
* `created_once`: the unique index on live names keeps two requests with the same body from creating
  two clusters, as long as the first one is not deleted.
-/

namespace Kubinate.Fleet

open Platform Library Secrets Clusters

/-! ## A create request with a key -/

def keyReused : PlatformError := .conflict "Idempotency-Key reused with a different request body"

/-- The answer from a row that was found in time. -/
def IdempotencyKey.replay (row : IdempotencyKey) (bodyHash : List UInt8) :
    Except RunError FleetReply :=
  if row.requestHash ≠ bodyHash then .error (.platform keyReused)
  else .ok (.cluster ⟨statusCode row.responseStatus, row.responseBody⟩)

def CreateRequest.toNew (req : CreateRequest) : NewCluster :=
  ⟨req.name, req.region, req.serverType, req.controlPlaneCount, req.workerCount, req.credentialId⟩

section Create

variable (api : Api) (organizationId : Uuid) (key body : String)

/-- The lookup has found no row, or one that has expired. -/
def Missed (τ : Trace fleet) : Prop :=
  [⟨.lookupIdempotency organizationId key, .ok none⟩] <+: τ ∨
    ∃ (row : IdempotencyKey) (now : Timestamp), row.expiresAt < now ∧
      [⟨.lookupIdempotency organizationId key, .ok (some row)⟩, ⟨.now, now⟩] <+: τ

/-- What the lookup of a request has found in time. -/
def FoundInTime (τ : Trace fleet) (row : IdempotencyKey) : Prop :=
  ∃ now : Timestamp, ¬ row.expiresAt < now ∧
    τ = [⟨.lookupIdempotency organizationId key, .ok (some row)⟩, ⟨.now, now⟩]

/-- A cluster is inserted as the body asks for it, after the lookup has found nothing. -/
def InsertsMissed (τ : Trace fleet) (c : FleetCall) : Prop :=
  ∀ tenant new, c = .insertCluster tenant new →
    tenant = organizationId ∧ Missed organizationId key τ ∧
      ∃ req, api.parse body = .ok req ∧ new = req.toNew

/-- How the request ends: rejected before the lookup or by its failure, answered from the row that
it has found in time, or after a lookup that has found nothing, and then with a response that it has
stored. -/
def Settled (τ : Trace fleet) (r : Except RunError FleetReply) : Prop :=
  (∃ e, api.parse body = .error e) ∨
  (∃ e, τ = [⟨.lookupIdempotency organizationId key, .error e⟩]) ∨
  (∃ row, FoundInTime organizationId key τ row ∧ r = row.replay (api.sha256 body)) ∨
  Missed organizationId key τ ∧ ∀ response, r = .ok (.cluster response) →
    ∃ view id now, response = ⟨202, view⟩ ∧
      ⟨.storeIdempotency ⟨organizationId, key, api.sha256 body, 202, view, some id, now,
        now + idempotencyTtl⟩, .ok ()⟩ ∈ τ

variable {api organizationId key body} {τ : Trace fleet}

theorem Missed.append {τ' : Trace fleet} (h : Missed organizationId key τ) :
    Missed organizationId key (τ ++ τ') := by
  rcases h with hnone | ⟨row, now, hexpired, hfound⟩
  · exact .inl (hnone.trans (List.prefix_append τ τ'))
  · exact .inr ⟨row, now, hexpired, hfound.trans (List.prefix_append τ τ')⟩

/-- Calls other than the insert. -/
theorem insertsMissed_other {c : FleetCall} (h : ∀ tenant new, c ≠ .insertCluster tenant new) :
    InsertsMissed api organizationId key body τ c :=
  fun tenant new hc => absurd hc (h tenant new)

/-- A failure after the lookup has found nothing. -/
theorem settled_error {e : RunError} (h : Missed organizationId key τ) :
    Settled api organizationId key body τ (.error e) := by
  refine .inr (.inr (.inr ⟨h, ?_⟩))
  intro response hresponse
  cases hresponse

theorem createFresh_settles {req : CreateRequest} (hparse : api.parse body = .ok req)
    (hmissed : Missed organizationId key τ) :
    Meets (InsertsMissed api organizationId key body) (fun _ _ _ => True)
      (fun τ r => Settled api organizationId key body τ
        ((r.map FleetReply.cluster).mapError RunError.platform))
      (api.createFresh organizationId (some key) req (api.sha256 body)).run τ := by
  unfold Api.createFresh createCluster
  cases hvalid : validateAllowed ⟨req.name, req.region, req.serverType, req.controlPlaneCount,
    req.workerCount, req.credentialId⟩ with
  | error e => exact settled_error hmissed
  | ok =>
    refine ⟨?_, fun r _ => ?_⟩
    · rintro tenant new ⟨⟩
      exact ⟨rfl, hmissed, req, hparse, rfl⟩
    rcases r with e | cluster
    · exact settled_error hmissed.append
    refine ⟨insertsMissed_other nofun, fun r _ => ?_⟩
    rcases r with e | credential
    · exact settled_error hmissed.append.append
    refine ⟨insertsMissed_other nofun, fun _ _ => ⟨insertsMissed_other nofun, fun now _ =>
      ⟨insertsMissed_other nofun, fun r _ => ?_⟩⟩⟩
    rcases r with e | ⟨⟩
    · exact settled_error hmissed.append.append.append.append.append
    refine .inr (.inr (.inr ⟨hmissed.append.append.append.append.append, ?_⟩))
    rintro response ⟨⟩
    exact ⟨_, cluster.id, now, rfl, List.mem_append_right _ List.mem_cons_self⟩

theorem lookupIdempotency_meets {P : Trace fleet → FleetCall → Prop} (bodyHash : List UInt8)
    (hlookup : ∀ τ, P τ (.lookupIdempotency organizationId key)) (hnow : ∀ τ, P τ .now) :
    Meets (I := fleet) P (fun _ _ _ => True)
      (fun τ r => match r with
        | .ok none => Missed organizationId key τ
        | .ok (some cached) => ∃ row, FoundInTime organizationId key τ row ∧
          row.requestHash = bodyHash ∧ cached = ⟨row.responseStatus, row.responseBody⟩
        | .error e => (∃ e', τ = [⟨.lookupIdempotency organizationId key, .error e'⟩]) ∨
          ∃ row, FoundInTime organizationId key τ row ∧ row.requestHash ≠ bodyHash ∧ e = keyReused)
      (lookupIdempotency organizationId key bodyHash).run [] := by
  refine ⟨hlookup _, fun r _ => ?_⟩
  rcases r with e | _ | row
  · exact .inl ⟨e, rfl⟩
  · exact .inl (List.prefix_refl _)
  refine ⟨hnow _, fun (now : Timestamp) _ => ?_⟩
  dsimp only [Program.bind, Function.comp_apply, ExceptT.bindCont]
  by_cases hexpired : row.expiresAt < now
  · rw [if_pos hexpired]
    exact .inr ⟨row, now, hexpired, List.prefix_refl _⟩
  · rw [if_neg hexpired]
    have hfound : FoundInTime organizationId key
        [⟨.lookupIdempotency organizationId key, .ok (some row)⟩, ⟨.now, now⟩] row :=
      ⟨now, hexpired, rfl⟩
    by_cases hhash : row.requestHash ≠ bodyHash
    · rw [if_pos hhash]
      exact .inr ⟨row, hfound, hhash, rfl⟩
    · rw [if_neg hhash]
      exact ⟨row, hfound, not_not.mp hhash, rfl⟩

theorem reply_meets {α : Type} {P : Trace fleet → FleetCall → Prop}
    {Q : Trace fleet → Except RunError FleetReply → Prop} {p : UseCase α} {f : α → FleetReply}
    (hp : Meets (I := fleet) P (fun _ _ _ => True)
      (fun τ r => Q τ ((r.map f).mapError .platform)) p.run τ) :
    Meets (I := fleet) P (fun _ _ _ => True) Q (p.reply f) τ :=
  meets_bind hp fun _ _ h => h

/-- How a create request with a key goes. -/
theorem create_settles :
    Meets (InsertsMissed api organizationId key body) (fun _ _ _ => True)
      (Settled api organizationId key body)
      (FleetJob.program api (.createCluster organizationId (some key) body)) [] := by
  refine reply_meets (p := api.create organizationId (some key) body) ?_
  unfold Api.create
  cases hparse : api.parse body with
  | error e => exact .inl ⟨e, hparse⟩
  | ok req =>
    refine meets_bindE (Q := fun τ (r : Except PlatformError CreateRequest) => τ = [] ∧ r = .ok req)
      ⟨rfl, rfl⟩ ?_ ?_
    · rintro τ req' ⟨rfl, hreq⟩
      obtain rfl : req' = req := Except.ok.inj hreq
      refine meets_bindE (lookupIdempotency_meets (api.sha256 body)
        (fun _ => insertsMissed_other nofun) fun _ => insertsMissed_other nofun) ?_ ?_
      · rintro τ (_ | cached) h
        · exact createFresh_settles hparse h
        · obtain ⟨row, hfound, hhash, rfl⟩ := h
          exact .inr (.inr (.inl ⟨row, hfound, (if_neg (not_not.mpr hhash)).symm⟩))
      · rintro τ e (⟨e', rfl⟩ | ⟨row, hfound, hhash, rfl⟩)
        · exact .inr (.inl ⟨e', rfl⟩)
        · exact .inr (.inr (.inl ⟨row, hfound, (if_pos hhash).symm⟩))
    · rintro τ e ⟨-, he⟩
      cases he

end Create

/-! ## Rows that are found -/

section Found

variable {db db' : FleetDb} {organizationId : Uuid} {key : String} {row : IdempotencyKey}

theorem lookupIdempotency_kept (db db' : FleetDb) (c : FleetCall) (h : db.Effects c db')
    (hfound : db.lookupIdempotency organizationId key = some row) :
    db'.lookupIdempotency organizationId key = some row := by
  obtain ⟨news, hnews⟩ := h.idempotencyKeys_kept
  rw [FleetDb.lookupIdempotency] at hfound ⊢
  rw [← hnews, List.find?_append, hfound]
  rfl

/-- A response that is stored where there was none is found. -/
theorem lookupIdempotency_of_store (hnone : db.lookupIdempotency row.organizationId row.key = none)
    (hok : (db.storeIdempotency row).2 = .ok ()) :
    (db.storeIdempotency row).1.lookupIdempotency row.organizationId row.key = some row := by
  unfold FleetDb.storeIdempotency at hok ⊢
  rw [hnone] at hok ⊢
  simp only [Option.isSome_none, Bool.false_eq_true, if_false] at hok ⊢
  split at hok
  · cases hok
  · next htenant =>
    rw [if_neg htenant]
    rw [FleetDb.lookupIdempotency] at hnone ⊢
    rw [List.find?_append, hnone]
    simp

end Found

/-- The response of a request is stored only where there is no row for its key. -/
def storesNew (s : FleetState) : Act FleetJob FleetOutcome → Bool
  | .start _ => true
  | .step i x =>
    match s.nextCall i with
    | some (.storeIdempotency row) =>
      x.reply == .failed || (s.world.lookupIdempotency row.organizationId row.key).isNone
    | _ => true

/-- The step does not delete this cluster. -/
def keepsCluster (organizationId id : Uuid) (s : FleetState) : Act FleetJob FleetOutcome → Bool
  | .start _ => true
  | .step i x => s.nextCall i != some (.onCluster organizationId id .softDelete) || x.reply == .failed

section Requests

variable {api : Api} {db : FleetDb} {s s' : FleetState} {as : List (Act FleetJob FleetOutcome)}
  {organizationId : Uuid} {key body : String}

/-- What is known about the requests with a key. -/
def FleetJob.Inserts (api : Api) : FleetJob → Trace fleet → FleetCall → Prop
  | .createCluster organizationId (some key) body => InsertsMissed api organizationId key body
  | _ => fun _ _ => True

def FleetJob.Settles (api : Api) : FleetJob → Trace fleet → Except RunError FleetReply → Prop
  | .createCluster organizationId (some key) body => Settled api organizationId key body
  | _ => fun _ _ => True

theorem program_settles (api : Api) (j : FleetJob) :
    Meets (j.Inserts api) (fun _ _ _ => True) (j.Settles api) (j.program api) [] := by
  cases j with
  | createCluster organizationId idempotencyKey body =>
    cases idempotencyKey with
    | none => exact meets_true _
    | some key => exact create_settles
  | _ => exact meets_true _

/-- A program that starts after a row can be found, finds that row. -/
theorem finds_of_exec {row : IdempotencyKey} {k : Nat}
    (hfound : s.world.lookupIdempotency organizationId key = some row) (hnone : s.slot k = none)
    (h : (fleetPool api).exec s as = some s') :
    s'.world.lookupIdempotency organizationId key = some row ∧
      ∀ j τ found, s'.slot k = some (j, τ) →
        ⟨.lookupIdempotency organizationId key, .ok found⟩ ∈ τ → found = some row := by
  refine Pool.exec_invariant (C := fun _ _ => true) (Q := fun s : FleetState =>
    s.world.lookupIdempotency organizationId key = some row ∧
      ∀ j τ found, s.slot k = some (j, τ) →
        ⟨.lookupIdempotency organizationId key, .ok found⟩ ∈ τ → found = some row) ?_
    ⟨hfound, fun j τ found hslot => by rw [hnone] at hslot; cases hslot⟩
    (Pool.allSteps_of_forall fun _ _ _ => rfl) h
  intro s a s' ⟨hrow, hslots⟩ _ hstep
  constructor
  · have hone : (fleetPool api).exec s [a] = some s' := by
      rw [Pool.exec_cons, hstep]
      rfl
    exact exec_effects (P := fun db => db.lookupIdempotency organizationId key = some row)
      lookupIdempotency_kept hone hrow
  · intro j τ found hslot hmem
    rcases Pool.slot_cases hstep hslot with hold | rfl | ⟨x, τ₀, c, r, rfl, rfl, hcalls⟩
    · exact hslots j τ found hold hmem
    · cases hmem
    · rcases List.mem_append.mp hmem with hmem | hmem
      · exact hslots j τ₀ found hcalls.slot hmem
      · cases List.mem_singleton.mp hmem
        have hreply := @FleetDb.answer_reply s.world api.store
          (.lookupIdempotency organizationId key) x
        rw [answer_of_calls hcalls] at hreply
        rcases hreply with ⟨-, hreply⟩ | ⟨-, hbroken⟩
        · have hanswer := Except.ok.inj (Prod.mk.inj hreply).2
          exact hanswer.trans hrow
        · cases hbroken

theorem missed_of_insert {i : Nat} {τ : Trace fleet} {tenant : Uuid} {new : NewCluster}
    {r : Except PlatformError ClusterRow} (hrun : (fleetPool api).exec (Pool.init db) as = some s)
    (hslot : s.slot i = some (.createCluster organizationId (some key) body, τ))
    (hinsert : ⟨.insertCluster tenant new, r⟩ ∈ τ) :
    Missed organizationId key τ ∧ ∃ req, api.parse body = .ok req := by
  obtain ⟨τ₁, τ₂, rfl⟩ := List.append_of_mem hinsert
  have hinserts : InsertsMissed api organizationId key body τ₁ (.insertCluster tenant new) :=
    Pool.exec_calls (program_settles api) hrun hslot
  obtain ⟨-, hmissed, req, hparse, -⟩ := hinserts tenant new rfl
  exact ⟨hmissed.append, req, hparse⟩

/-- A response that was stored is found from then on. -/
theorem found_of_stored {i : Nat} {j : FleetJob} {τ : Trace fleet} {stored : IdempotencyKey}
    (hrun : (fleetPool api).exec (Pool.init db) as = some s)
    (hstores : (fleetPool api).allSteps storesNew (Pool.init db) as = true)
    (hslot : s.slot i = some (j, τ)) (hmem : ⟨.storeIdempotency stored, .ok ()⟩ ∈ τ) :
    s.world.lookupIdempotency stored.organizationId stored.key = some stored := by
  obtain ⟨τ₁, τ₂, rfl⟩ := List.append_of_mem hmem
  obtain ⟨as₁, x, as₂, s₁, s₂, rfl, h₁, hcalls, h₂⟩ := Pool.exec_moment hrun hslot
  have hfresh := (Pool.allSteps_append h₁ hstores).2
  rw [Pool.allSteps, Bool.and_eq_true, storesNew, hcalls.nextCall] at hfresh
  have hreply := @FleetDb.answer_reply s₁.world api.store (.storeIdempotency stored) x
  rw [answer_of_calls hcalls] at hreply
  rcases hreply with ⟨hok, hreply⟩ | ⟨-, hbroken⟩
  · obtain ⟨hworld, hstore⟩ := Prod.mk.inj hreply
    have hnone := hfresh.1
    rw [hok] at hnone
    have hfound := lookupIdempotency_of_store (Option.isNone_iff_eq_none.mp hnone) hstore.symm
    refine exec_effects (P := fun db => db.lookupIdempotency stored.organizationId stored.key =
      some stored) lookupIdempotency_kept h₂ ?_
    rw [hworld]
    exact hfound
  · cases hbroken

/-- A request that has inserted a cluster and has ended with success has stored its response, which
is then found. -/
theorem stored_of_success {i : Nat} {τ : Trace fleet} {response : ClusterResponse} {tenant : Uuid}
    {new : NewCluster} {row : ClusterRow}
    (hrun : (fleetPool api).exec (Pool.init db) as = some s)
    (hstores : (fleetPool api).allSteps storesNew (Pool.init db) as = true)
    (hslot : s.slot i = some (.createCluster organizationId (some key) body, τ))
    (hresult : s.result i = some (.ok (.cluster response)))
    (hcreated : ⟨.insertCluster tenant new, .ok row⟩ ∈ τ) :
    ∃ stored, ⟨.storeIdempotency stored, .ok ()⟩ ∈ τ ∧
      s.world.lookupIdempotency organizationId key = some stored ∧
      stored.requestHash = api.sha256 body ∧ stored.expiresAt = stored.createdAt + idempotencyTtl ∧
      response = ⟨statusCode stored.responseStatus, stored.responseBody⟩ := by
  obtain ⟨-, req, hparse⟩ := missed_of_insert hrun hslot hcreated
  have hsettles : Settled api organizationId key body τ (.ok (.cluster response)) :=
    Pool.exec_ends (program_settles api) hrun hslot hresult
  rcases hsettles with ⟨e, herror⟩ | ⟨e, rfl⟩ | ⟨found, ⟨now, -, rfl⟩, -⟩ | ⟨-, hstored⟩
  · cases hparse.symm.trans herror
  · simp at hcreated
  · simp at hcreated
  · obtain ⟨view, id, now, rfl, hmem⟩ := hstored response rfl
    exact ⟨_, hmem, found_of_stored hrun hstores hslot hmem, rfl, rfl, rfl⟩

/-! ## Later requests -/

/-- What a program has read from the clock. -/
def clockOf : (Σ c : FleetCall, c.Answer) → Option Timestamp
  | ⟨.now, now⟩ => some now
  | _ => none

/-- The cluster that a request has inserted. -/
def insertedOf : (Σ c : FleetCall, c.Answer) → Option ClusterRow
  | ⟨.insertCluster .., .ok row⟩ => some row
  | _ => none

/-- The response that a request has stored. -/
def storedOf : (Σ c : FleetCall, c.Answer) → Option IdempotencyKey
  | ⟨.storeIdempotency row, .ok ()⟩ => some row
  | _ => none

/-- The failure of a lookup. -/
def lookupFailureOf : (Σ c : FleetCall, c.Answer) → Option PlatformError
  | ⟨.lookupIdempotency .., .error e⟩ => some e
  | _ => none

/-- The request in slot `i` has created a cluster and has succeeded. -/
structure HasCreated (s : FleetState) (i : Nat) (organizationId : Uuid) (key body : String)
    (τ : Trace fleet) (response : ClusterResponse) : Prop where
  slot : s.slot i = some (.createCluster organizationId (some key) body, τ)
  result : s.result i = some (.ok (.cluster response))
  created : τ.filterMap insertedOf ≠ []

/-- The request in slot `k` has come after `s₁`, with the same key and a body that can be read, its
lookup was answered, and it has read the clock less than 24 hours after the response with the trace
`τ` was stored. -/
structure ComesInTime (api : Api) (s₁ s : FleetState) (k : Nat) (organizationId : Uuid)
    (key body' : String) (τ τ' : Trace fleet) : Prop where
  later : s₁.slot k = none
  slot : s.slot k = some (.createCluster organizationId (some key) body', τ')
  parses : (api.parse body').toOption.isSome = true
  answered : τ'.filterMap lookupFailureOf = []
  inTime : ∀ stored ∈ τ.filterMap storedOf, ∀ now ∈ τ'.filterMap clockOf,
    now ≤ stored.createdAt + idempotencyTtl

/-- It has inserted no cluster, and is answered with this response, or rejected if its body is
another one. -/
def Replayed (s : FleetState) (k : Nat) (body body' : String) (τ' : Trace fleet)
    (response : ClusterResponse) : Prop :=
  (∀ tenant new r, ⟨.insertCluster tenant new, r⟩ ∉ τ') ∧
    ∀ r, s.result k = some r →
      r = if body' = body then .ok (.cluster response) else .error (.platform keyReused)

theorem HasCreated.inserted {i : Nat} {τ : Trace fleet} {response : ClusterResponse}
    (h : HasCreated s i organizationId key body τ response) :
    ∃ tenant new row, ⟨.insertCluster tenant new, .ok row⟩ ∈ τ := by
  obtain ⟨row, hrow⟩ := List.exists_mem_of_ne_nil _ h.created
  obtain ⟨⟨c, r⟩, hmem, hrow⟩ := List.mem_filterMap.mp hrow
  cases c with
  | insertCluster tenant new =>
    rcases r with e | row
    · cases hrow
    · exact ⟨tenant, new, row, hmem⟩
  | _ => cases hrow

theorem replayed {as₁ as₂ : List (Act FleetJob FleetOutcome)} {s₁ : FleetState} {i k : Nat}
    {τ τ' : Trace fleet} {response : ClusterResponse} {body' : String}
    (hstores : (fleetPool api).allSteps storesNew (Pool.init db) as₁ = true)
    (hrun₁ : (fleetPool api).exec (Pool.init db) as₁ = some s₁)
    (hcreated : HasCreated s₁ i organizationId key body τ response)
    (hrun₂ : (fleetPool api).exec s₁ as₂ = some s)
    (hcomes : ComesInTime api s₁ s k organizationId key body' τ τ')
    (hsha : api.sha256 body' = api.sha256 body → body' = body) :
    Replayed s k body body' τ' response := by
  obtain ⟨tenant, new, row, hinserted⟩ := hcreated.inserted
  obtain ⟨stored, hmem, hfound, hhash, hexpires, rfl⟩ :=
    stored_of_success hrun₁ hstores hcreated.slot hcreated.result hinserted
  have hfinds (found : Option IdempotencyKey)
      (hmem : ⟨.lookupIdempotency organizationId key, .ok found⟩ ∈ τ') : found = some stored :=
    (finds_of_exec hfound hcomes.later hrun₂).2 _ τ' found hcomes.slot hmem
  have hrun : (fleetPool api).exec (Pool.init db) (as₁ ++ as₂) = some s := by
    rw [Pool.exec_append, hrun₁]
    exact hrun₂
  -- the row that is found has not expired
  have hhit : ¬ Missed organizationId key τ' := by
    rintro (hnone | ⟨found, now, hexpired, hexpiredRow⟩)
    · cases hfinds none (hnone.subset List.mem_cons_self)
    · have hrow := hfinds (some found) (hexpiredRow.subset List.mem_cons_self)
      obtain rfl : found = stored := Option.some.inj hrow
      have hclock := hexpiredRow.subset (List.mem_cons_of_mem _ List.mem_cons_self)
      have hnow := hcomes.inTime found (List.mem_filterMap.mpr ⟨_, hmem, rfl⟩) now
        (List.mem_filterMap.mpr ⟨_, hclock, rfl⟩)
      rw [hexpires] at hexpired
      exact Int.not_lt.mpr hnow hexpired
  constructor
  · intro tenant' new' r hinsert
    exact hhit (missed_of_insert hrun hcomes.slot hinsert).1
  · intro r hr
    have hsettles : Settled api organizationId key body' τ' r :=
      Pool.exec_ends (program_settles api) hrun hcomes.slot hr
    rcases hsettles with ⟨e, herror⟩ | ⟨e, rfl⟩ | ⟨found, ⟨now, -, rfl⟩, rfl⟩ | ⟨hmissed, -⟩
    · obtain ⟨req, hreq⟩ := isSome_toOption.mp hcomes.parses
      cases hreq.symm.trans herror
    · have hanswered := hcomes.answered
      cases hanswered
    · obtain rfl : found = stored := Option.some.inj (hfinds (some found) List.mem_cons_self)
      rw [IdempotencyKey.replay, hhash]
      by_cases hbody : body' = body
      · rw [if_pos hbody, hbody, if_neg (not_not.mpr rfl)]
      · rw [if_neg hbody, if_pos fun h => hbody (hsha h.symm)]
    · exact absurd hmissed hhit

/-! ## Two requests with the same body -/

/-- After the schedule `as`, slot `i` runs a request that inserts this row with its next step. -/
def CreatesAt (api : Api) (db : FleetDb) (as : List (Act FleetJob FleetOutcome)) (i : Nat)
    (x : FleetOutcome) (organizationId : Uuid) (key body : String) (row : ClusterRow) : Prop :=
  ∃ s τ new, (fleetPool api).exec (Pool.init db) as = some s ∧
    s.slot i = some (.createCluster organizationId (some key) body, τ) ∧
    s.nextCall i = some (.insertCluster organizationId new) ∧ x.reply ≠ .failed ∧
    (s.world.insertCluster x.draw.now x.draw.id organizationId new).2 = .ok row

/-- The row is there and takes its name. -/
def FleetDb.Takes (organizationId id : Uuid) (name : String) (db : FleetDb) : Prop :=
  ∃ c ∈ db.clusters, c.id = id ∧ c.organizationId = organizationId ∧ c.name = name ∧
    c.deletedAt = none

theorem takes_step {id : Uuid} {name : String} {a : Act FleetJob FleetOutcome}
    (hs : s.world.Takes organizationId id name) (hkeeps : keepsCluster organizationId id s a = true)
    (h : (fleetPool api).step s a = some s') : s'.world.Takes organizationId id name := by
  cases a with
  | start j =>
    obtain ⟨-, rfl⟩ := Pool.step_start.mp h
    exact hs
  | step i x =>
    obtain ⟨j, τ, c, r, hcalls⟩ := Pool.calls_of_step h
    obtain ⟨row, hrow, rfl, rfl, rfl, hlive⟩ := hs
    obtain ⟨row', hrow', hbecomes⟩ := (effects_of_calls hcalls).clusters_kept row hrow
    rcases hbecomes.deletedAt with hsame | ⟨-, hdeletes, -⟩
    · exact ⟨row', hrow', hbecomes.id, hbecomes.organizationId, hbecomes.name, hsame.trans hlive⟩
    · -- the statement that would delete it fails
      rw [keepsCluster, hcalls.nextCall, hdeletes, Bool.or_eq_true, bne_self_eq_false, beq_iff_eq]
        at hkeeps
      have hworld := @FleetDb.answer_world s.world api.store c x
      rw [answer_of_calls hcalls] at hworld
      rcases hworld with ⟨-, hsame⟩ | ⟨hreply, -⟩
      · dsimp only at hsame
        rw [hsame]
        exact ⟨row, hrow, rfl, rfl, rfl, hlive⟩
      · exact absurd (hkeeps.resolve_left nofun) hreply

/-- The request that creates a cluster asks for it as its body says. -/
theorem new_of_creates {i : Nat} {τ : Trace fleet} {new : NewCluster}
    (hrun : (fleetPool api).exec (Pool.init db) as = some s)
    (hslot : s.slot i = some (.createCluster organizationId (some key) body, τ))
    (hnext : s.nextCall i = some (.insertCluster organizationId new)) :
    ∃ req, api.parse body = .ok req ∧ new = req.toNew := by
  have hinserts : InsertsMissed api organizationId key body τ (.insertCluster organizationId new) :=
    Pool.exec_nextCall (program_settles api) hrun hslot hnext
  exact (hinserts organizationId new rfl).2.2

theorem takes_of_insert {as₁ : List (Act FleetJob FleetOutcome)} {i : Nat} {x : FleetOutcome}
    {row : ClusterRow} {new : NewCluster} {s₁ : FleetState}
    (h : (fleetPool api).exec (Pool.init db) as₁ = some s)
    (h₁ : (fleetPool api).exec (Pool.init db) (as₁ ++ [.step i x]) = some s₁)
    (hnext : s.nextCall i = some (.insertCluster organizationId new)) (hreply : x.reply ≠ .failed)
    (hok : (s.world.insertCluster x.draw.now x.draw.id organizationId new).2 = .ok row) :
    s₁.world.Takes organizationId row.id new.name := by
  rw [Pool.exec_append, h] at h₁
  have hstep : (fleetPool api).step s (.step i x) = some s₁ := by simpa using h₁
  obtain ⟨j, τ, c, r, hcalls⟩ := Pool.calls_of_step hstep
  obtain rfl : .insertCluster organizationId new = c :=
    Option.some.inj (hnext.symm.trans hcalls.nextCall)
  have hworld := @FleetDb.answer_world s.world api.store (.insertCluster organizationId new) x
  rw [answer_of_calls hcalls] at hworld
  rcases hworld with ⟨hfailed, -⟩ | ⟨-, heffect⟩
  · exact absurd hfailed hreply
  · rcases FleetDb.insertCluster_cases s.world x.draw.now x.draw.id organizationId new with
      ⟨-, e, herror⟩ | ⟨-, -, hclusters, -, hrow⟩
    · cases herror.symm.trans hok
    · obtain rfl := Except.ok.inj (hrow.symm.trans hok)
      refine ⟨_, ?_, rfl, rfl, rfl, rfl⟩
      show _ ∈ s₁.world.clusters
      rw [show s₁.world = _ from heffect]
      exact hclusters ▸ List.mem_append_right _ List.mem_cons_self

/-- As long as the cluster of the first request is not deleted, no other insert for the same body
succeeds. -/
theorem created_once {as₁ as₂ : List (Act FleetJob FleetOutcome)} {i k : Nat} {x y : FleetOutcome}
    {row row' : ClusterRow} {s₁ : FleetState}
    (hfirst : CreatesAt api db as₁ i x organizationId key body row)
    (h₁ : (fleetPool api).exec (Pool.init db) (as₁ ++ [.step i x]) = some s₁)
    (hkeeps : (fleetPool api).allSteps (keepsCluster organizationId row.id) s₁ as₂ = true) :
    ¬ CreatesAt api db (as₁ ++ .step i x :: as₂) k y organizationId key body row' := by
  rintro ⟨s₂, τ₂, new₂, hrun₂, hslot₂, hnext₂, hreply₂, hok₂⟩
  obtain ⟨s₀, τ₀, new, hrun₀, hslot₀, hnext₀, hreply₀, hok₀⟩ := hfirst
  obtain ⟨req, hparse, rfl⟩ := new_of_creates hrun₀ hslot₀ hnext₀
  obtain ⟨req₂, hparse₂, rfl⟩ := new_of_creates hrun₂ hslot₂ hnext₂
  obtain rfl : req = req₂ := Except.ok.inj (hparse.symm.trans hparse₂)
  have htakes₁ := takes_of_insert hrun₀ h₁ hnext₀ hreply₀ hok₀
  have hrun : (fleetPool api).exec s₁ as₂ = some s₂ := by
    rw [List.append_cons, Pool.exec_append, h₁] at hrun₂
    exact hrun₂
  obtain ⟨c, hc, -, htenant, hname, hlive⟩ := Pool.exec_invariant
    (Q := fun s : FleetState => s.world.Takes organizationId row.id req.name)
    (fun s a s' hs hCs hstep => takes_step hs hCs hstep) htakes₁ hkeeps hrun
  rcases FleetDb.insertCluster_cases s₂.world y.draw.now y.draw.id organizationId req.toNew with
    ⟨-, e, herror⟩ | ⟨-, hfree, -⟩
  · cases herror.symm.trans hok₂
  · have htaken : s₂.world.clusters.any (·.takes organizationId req.toNew.name) = true := by
      refine List.any_eq_true.mpr ⟨c, hc, ?_⟩
      rw [ClusterRow.takes, htenant, hname, hlive]
      simp [CreateRequest.toNew]
    rw [hfree] at htaken
    cases htaken

/-- In every run in which a response is stored only where there is no row for its key: after a
request has created a cluster and has succeeded, the requests with its key that come in time are
answered from its response and insert nothing; and of two inserts for the same body of which the
second comes before the cluster of the first is deleted, one does not succeed. -/
theorem idempotencyKey_law (hrun : (fleetPool api).exec (Pool.init db) as = some s)
    (hstores : (fleetPool api).allSteps storesNew (Pool.init db) as = true) :
    (∀ as₁ as₂ s₁ i k organizationId key body body' τ τ' response, as = as₁ ++ as₂ →
      (fleetPool api).exec (Pool.init db) as₁ = some s₁ →
      HasCreated s₁ i organizationId key body τ response →
      ComesInTime api s₁ s k organizationId key body' τ τ' →
      (api.sha256 body' = api.sha256 body → body' = body) →
      Replayed s k body body' τ' response) ∧
    ∀ as₁ as₂ as₃ s₁ i k x y organizationId key body row row',
      as = as₁ ++ .step i x :: (as₂ ++ .step k y :: as₃) →
      CreatesAt api db as₁ i x organizationId key body row →
      (fleetPool api).exec (Pool.init db) (as₁ ++ [.step i x]) = some s₁ →
      (fleetPool api).allSteps (keepsCluster organizationId row.id) s₁ as₂ = true →
      ¬ CreatesAt api db (as₁ ++ .step i x :: as₂) k y organizationId key body row' := by
  constructor
  · rintro as₁ as₂ s₁ i k organizationId key body body' τ τ' response rfl hrun₁ hcreated hcomes hsha
    rw [Pool.exec_append, hrun₁, Option.bind_some] at hrun
    exact replayed (Pool.allSteps_append hrun₁ hstores).1 hrun₁ hcreated hrun hcomes hsha
  · intro as₁ as₂ as₃ s₁ i k x y organizationId key body row row' _ hfirst h₁ hkeeps
    exact created_once hfirst h₁ hkeeps

end Requests

/-- A body is the name of the cluster that it asks for. -/
def namesApi : Api :=
  offlineApi (fun body => .ok ⟨body, "nbg1", "cpx21", 1, 1, 71⟩) fun body => body.toUTF8.toList

def hours (n : Int) : Timestamp := n * 60 * 60 * 1000000

/-- A request with the key "k" in slot 1 at this time, for a cluster that gets the id 72. -/
def firstRequest : List (Act FleetJob FleetOutcome) :=
  [.start (.createCredential 7 "main" "token"), .step 0 (fine 70 1), .step 0 (fine 71 2),
    .start (.createCluster 7 (some "k") "a"), .step 1 (fine 0 3), .step 1 (fine 72 4),
    .step 1 (fine 0 5), .step 1 (fine 0 6), .step 1 (fine 0 7), .step 1 (fine 0 8)]

/-- The same request again, an hour later. -/
def retry : List (Act FleetJob FleetOutcome) :=
  [.start (.createCluster 7 (some "k") "a"), .step 3 (fine 0 (hours 1)), .step 3 (fine 0 (hours 1))]

/-- The key again for another body, after 25 hours. -/
def keyReusedLater : List (Act FleetJob FleetOutcome) :=
  [.start (.createCluster 7 (some "k") "b"), .step 3 (fine 0 (hours 25)), .step 3 (fine 0 (hours 25)),
    .step 3 (fine 73 (hours 25)), .step 3 (fine 0 (hours 25)), .step 3 (fine 0 (hours 25)),
    .step 3 (fine 0 (hours 25)), .step 3 (fine 0 (hours 25))]

/-- Which is sent again an hour later. -/
def retryLater : List (Act FleetJob FleetOutcome) :=
  [.start (.createCluster 7 (some "k") "b"), .step 5 (fine 0 (hours 26)), .step 5 (fine 0 (hours 26)),
    .step 5 (fine 74 (hours 26))]

/-- The response of a request for this name. -/
def responseOf (name : String) (id : Uuid) (now : Timestamp) : ClusterResponse :=
  ⟨202, .fromParts (NewCluster.row ⟨name, "nbg1", "cpx21", 1, 1, 71⟩ now id 7) none none⟩

/-- The request in slot `i` has created a cluster and has stored its response at this time. -/
def showsCreated (s : FleetState) (i : Nat) (body : String) (response : ClusterResponse)
    (now : Timestamp) : Bool :=
  decide (s.result i = some (.ok (.cluster response))) &&
    (s.slot i).any fun (j, τ) => decide (j = .createCluster 7 (some "k") body) &&
      decide (τ.filterMap insertedOf ≠ []) &&
      decide ((τ.filterMap storedOf).map (·.createdAt) = [now])

/-- The request in slot `k` was answered by the lookup and has read the clock at this time at the
latest. -/
def showsInTime (s : FleetState) (k : Nat) (body : String) (now : Timestamp) : Bool :=
  (s.slot k).any fun (j, τ) => decide (j = .createCluster 7 (some "k") body) &&
    decide (τ.filterMap lookupFailureOf = []) && decide (∀ t ∈ τ.filterMap clockOf, t ≤ now)

theorem hasCreated_of_shows {s : FleetState} {i : Nat} {body : String} {response : ClusterResponse}
    {now : Timestamp} (h : showsCreated s i body response now = true) :
    ∃ τ, HasCreated s i 7 "k" body τ response ∧ (τ.filterMap storedOf).map (·.createdAt) = [now] := by
  rw [showsCreated, Bool.and_eq_true, decide_eq_true_eq, Option.any_eq_true] at h
  obtain ⟨hresult, ⟨j, τ⟩, hslot, hrest⟩ := h
  simp only [Bool.and_eq_true, decide_eq_true_eq] at hrest
  obtain ⟨⟨rfl, hinserted⟩, hstored⟩ := hrest
  exact ⟨τ, ⟨hslot, hresult, hinserted⟩, hstored⟩

theorem comesInTime_of_shows (api : Api) {s₁ s : FleetState} {k : Nat} {body : String}
    {stored now : Timestamp} {τ : Trace fleet} (h : showsInTime s k body now = true)
    (hlater : s₁.slot k = none) (hparse : (api.parse body).toOption.isSome = true)
    (hstored : (τ.filterMap storedOf).map (·.createdAt) = [stored])
    (htime : now ≤ stored + idempotencyTtl) :
    ∃ τ', ComesInTime api s₁ s k 7 "k" body τ τ' := by
  rw [showsInTime, Option.any_eq_true] at h
  obtain ⟨⟨j, τ'⟩, hslot, hrest⟩ := h
  simp only [Bool.and_eq_true, decide_eq_true_eq] at hrest
  obtain ⟨⟨rfl, hanswered⟩, hclock⟩ := hrest
  refine ⟨τ', hlater, hslot, hparse, hanswered, fun row hrow t ht => (hclock t ht).trans ?_⟩
  have hcreated : row.createdAt ∈ (τ.filterMap storedOf).map (·.createdAt) := List.mem_map_of_mem hrow
  rw [hstored, List.mem_singleton] at hcreated
  rw [hcreated]
  exact htime

theorem idempotencyKey_law_retry :
    ∃ s, (fleetPool namesApi).exec (Pool.init emptyFleet) (firstRequest ++ retry) = some s ∧
      s.result 3 = some (.ok (.cluster (responseOf "a" 72 4))) := by
  have hfirst : ((fleetPool namesApi).exec (Pool.init emptyFleet) firstRequest).any (fun s =>
      showsCreated s 1 "a" (responseOf "a" 72 4) 7 && (s.slot 3).isNone) = true := by
    decide +kernel
  have hboth : ((fleetPool namesApi).exec (Pool.init emptyFleet) (firstRequest ++ retry)).any
      (fun s => showsInTime s 3 "a" (hours 1) && (s.result 3).isSome) = true := by
    decide +kernel
  obtain ⟨s₁, hs₁, hrest₁⟩ := (Option.any_eq_true _ _).mp hfirst
  obtain ⟨s, hs, hrest⟩ := (Option.any_eq_true _ _).mp hboth
  rw [Bool.and_eq_true, Option.isNone_iff_eq_none] at hrest₁
  rw [Bool.and_eq_true, Option.isSome_iff_exists] at hrest
  obtain ⟨τ, hcreated, hstored⟩ := hasCreated_of_shows hrest₁.1
  obtain ⟨τ', hcomes⟩ := comesInTime_of_shows namesApi hrest.1 hrest₁.2 rfl hstored
    (by decide)
  obtain ⟨r, hr⟩ := hrest.2
  have hlaw := (idempotencyKey_law hs (by decide +kernel)).1 firstRequest retry s₁ 1 3 7 "k" "a" "a"
    τ τ' _ rfl hs₁ hcreated hcomes fun _ => rfl
  refine ⟨s, hs, ?_⟩
  rw [hr, hlaw.2 r hr]
  rfl

theorem not_idempotencyKey_law :
    ¬ ∀ (api : Api) (db : FleetDb) (as₁ as₂ : List (Act FleetJob FleetOutcome)) (s₁ s : FleetState)
      (i k : Nat) (organizationId : Uuid) (key body body' : String) (τ τ' : Trace fleet)
      (response : ClusterResponse),
      (fleetPool api).exec (Pool.init db) as₁ = some s₁ → (fleetPool api).exec s₁ as₂ = some s →
      HasCreated s₁ i organizationId key body τ response →
      ComesInTime api s₁ s k organizationId key body' τ τ' →
      (api.sha256 body' = api.sha256 body → body' = body) →
      Replayed s k body body' τ' response := by
  intro hclaim
  have hfirst : ((fleetPool namesApi).exec (Pool.init emptyFleet)
      (firstRequest ++ keyReusedLater)).any (fun s =>
        showsCreated s 3 "b" (responseOf "b" 73 (hours 25)) (hours 25) && (s.slot 5).isNone) = true := by
    decide +kernel
  obtain ⟨s₁, hs₁, hrest₁⟩ := (Option.any_eq_true _ _).mp hfirst
  have hboth : ((fleetPool namesApi).exec (Pool.init emptyFleet)
      (firstRequest ++ keyReusedLater ++ retryLater)).any (fun s =>
        showsInTime s 5 "b" (hours 26) && decide (s.result 5 =
          some (.error (.platform (.conflict "a cluster with this name already exists"))))) = true := by
    decide +kernel
  rw [Pool.exec_append, hs₁, Option.bind_some] at hboth
  obtain ⟨s, hs, hrest⟩ := (Option.any_eq_true _ _).mp hboth
  rw [Bool.and_eq_true, Option.isNone_iff_eq_none] at hrest₁
  rw [Bool.and_eq_true, decide_eq_true_eq] at hrest
  obtain ⟨τ, hcreated, hstored⟩ := hasCreated_of_shows hrest₁.1
  obtain ⟨τ', hcomes⟩ := comesInTime_of_shows namesApi hrest.1 hrest₁.2 rfl hstored
    (by decide)
  have hreplayed := hclaim namesApi emptyFleet _ _ s₁ s 3 5 7 "k" "b" "b" τ τ' _ hs₁ hs hcreated
    hcomes fun _ => rfl
  cases hreplayed.2 _ hrest.2

end Kubinate.Fleet
