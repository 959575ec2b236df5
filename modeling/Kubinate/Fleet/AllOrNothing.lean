import Kubinate.Fleet.Erasure
import Kubinate.Library.Together

/-!
# `POST /v1/clusters` that fails

The handler inserts the row, looks the credential up, starts the run and stores its response, one
transaction each. Nothing takes the row or the run back.

* `create_settles`: how a request can go, by the calls that come after the insert.
* `create_all_or_nothing_iff`: it is all or nothing exactly if they succeed.
-/

namespace Kubinate.Fleet.AllOrNothing

open Platform Library Secrets Clusters

/-- The tables, and what the request has started. -/
structure Scene where
  db : FleetDb
  started : List FleetJob

def Scene.answer (store : PgcryptoStore) (w : Scene) (c : FleetCall) (x : FleetOutcome) :
    Option (Scene × c.Answer) :=
  some (⟨(w.db.answer store c x).1, w.started ++ c.spawned⟩, (w.db.answer store c x).2)

/-- The credential of a cluster that was inserted is found, and the response is stored. -/
def goesOn (w : Scene) (c : FleetCall) (x : FleetOutcome) : Bool :=
  match c with
  | .getCredential organizationId id =>
    x.reply == .ok && (w.db.getCredential organizationId id).isOk
  | .storeIdempotency _ => x.reply == .ok
  | _ => true

/-- The connection is not lost after a commit. -/
def NotLost (x : FleetOutcome) : Prop := x.reply ≠ .lost

/-! ## One call -/

section Calls

variable {store : PgcryptoStore} {db : FleetDb} {w w' : Scene} {b b' : Bool} {c : FleetCall}
  {r : c.Answer}

/-- A call is executed, or it fails. -/
theorem call_cases
    (h : Marking (I := fleet) (Scene.answer store) NotLost goesOn (w, b) c r (w', b')) :
    ∃ x, b' = (b && goesOn w c x) ∧ w'.started = w.started ++ c.spawned ∧
      (x.reply = .ok ∧ w'.db = (w.db.execute store x c).1 ∧ r = (w.db.execute store x c).2 ∨
        x.reply = .failed ∧ w'.db = w.db ∧ r = brokenAnswer x c) := by
  obtain ⟨x, hlost, ha, hb⟩ := h
  obtain ⟨rfl, rfl⟩ := Prod.mk.inj (Option.some.inj ha)
  refine ⟨x, hb, rfl, ?_⟩
  rw [FleetDb.answer]
  cases hreply : x.reply with
  | ok => exact .inl ⟨rfl, rfl, rfl⟩
  | failed => exact .inr ⟨rfl, rfl, rfl⟩
  | lost => exact absurd hreply hlost

/-- An insert adds the row of the cluster to those of its organization, or fails. -/
theorem insertCluster_cases (db : FleetDb) (now : Timestamp) (id organizationId : Uuid)
    (new : NewCluster) :
    ((db.insertCluster now id organizationId new).1 = db ∧
      ∃ e, (db.insertCluster now id organizationId new).2 = .error e) ∨
    organizationId ∈ db.organizations ∧
      (db.insertCluster now id organizationId new).1.organizations = db.organizations ∧
      ∃ row, (db.insertCluster now id organizationId new).1.clusters = db.clusters ++ [row] ∧
        (db.insertCluster now id organizationId new).2 = .ok row := by
  unfold FleetDb.insertCluster
  split
  · exact .inl ⟨rfl, _, rfl⟩
  split
  · exact .inl ⟨rfl, _, rfl⟩
  split
  · exact .inl ⟨rfl, _, rfl⟩
  split
  · exact .inl ⟨rfl, _, rfl⟩
  split
  · exact .inl ⟨rfl, _, rfl⟩
  next horganization =>
    split
    · exact .inr ⟨not_not.mp horganization, rfl, _, rfl, rfl⟩
    · exact .inl ⟨rfl, _, rfl⟩

/-- The record of an organization can be stored. -/
theorem storeIdempotency_ok {row : IdempotencyKey} (h : row.organizationId ∈ db.organizations) :
    (db.storeIdempotency row).2 = .ok () := by
  rw [FleetDb.storeIdempotency, if_neg (not_not.mpr h)]
  split
  · rfl
  · rfl

end Calls

/-! ## The handler -/

section Handler

variable {api : Api} {organizationId : Uuid} {db : FleetDb}

/-- Nothing has happened yet. -/
def Untouched (db : FleetDb) (s : Scene × Bool) : Prop :=
  s.1.db = db ∧ s.1.started = [] ∧ s.2 = true

/-- An error leaves the clusters as they were and has started nothing, exactly if the mark says
so. -/
def Settled {α : Type} (db : FleetDb) (s : Scene × Bool) (r : Except PlatformError α) : Prop :=
  (∀ e, r = .error e → s.1.db.clusters = db.clusters ∧ s.1.started = []) ↔ s.2 = true

theorem Untouched.settled {α : Type} {s : Scene × Bool} (h : Untouched db s)
    (r : Except PlatformError α) : Settled db s r :=
  ⟨fun _ => h.2.2, fun _ _ _ => ⟨congrArg (·.clusters) h.1, h.2.1⟩⟩

/-- The row is there. -/
structure Inserted (db : FleetDb) (organizationId : Uuid) (s : Scene × Bool) : Prop where
  clusters : s.1.db.clusters ≠ db.clusters
  organization : organizationId ∈ s.1.db.organizations
  fine : s.2 = true

theorem settled_ok {α : Type} {s : Scene × Bool} {a : α} (hb : s.2 = true) :
    Settled db s (.ok a : Except PlatformError α) :=
  ⟨fun _ => hb, fun _ => nofun⟩

theorem settled_error {α : Type} {s : Scene × Bool} {e : PlatformError}
    (hclusters : s.1.db.clusters ≠ db.clusters) (hb : s.2 = false) :
    Settled db s (.error e : Except PlatformError α) := by
  rw [Settled, hb]
  exact ⟨fun h => absurd (h e rfl).1 hclusters, nofun⟩

abbrev marking (store : PgcryptoStore) := Marking (I := fleet) (Scene.answer store) NotLost goesOn

theorem insert_always {store : PgcryptoStore} {new : NewCluster} {s : Scene × Bool}
    (h : Untouched db s) :
    Always (marking store) (Post (fun s _ => Inserted db organizationId s) fun s _ => Untouched db s)
      (createCluster organizationId new).run s := by
  obtain ⟨w, b⟩ := s
  obtain ⟨rfl, hnone, rfl : b = true⟩ := h
  unfold createCluster
  cases validateAllowed new with
  | error e => exact ⟨rfl, hnone, rfl⟩
  | ok =>
    rintro r ⟨w', b'⟩ hcall
    obtain ⟨x, hfine', hstarted, hcases⟩ := call_cases hcall
    have hnone' : w'.started = [] := by
      rw [hstarted, show w.started = [] from hnone]
      rfl
    show Post _ _ (w', b') r
    rcases hcases with ⟨-, hdb, hr⟩ | ⟨-, hdb, rfl⟩
    · replace hr : r = (w.db.insertCluster x.draw.now x.draw.id organizationId new).2 := hr
      replace hdb : w'.db = (w.db.insertCluster x.draw.now x.draw.id organizationId new).1 := hdb
      rcases insertCluster_cases w.db x.draw.now x.draw.id organizationId new with
        ⟨hsame, e, he⟩ | ⟨hin, horganizations, row, hclusters, hrow⟩
      · rw [hr, he]
        exact ⟨hdb.trans hsame, hnone', hfine'⟩
      · rw [hr, hrow]
        refine ⟨?_, ?_, hfine'⟩
        · rw [hdb, hclusters]
          exact fun h => List.cons_ne_nil row [] (List.append_right_eq_self.mp h)
        · rwa [hdb, horganizations]
    · exact ⟨hdb, hnone', hfine'⟩

theorem getCredential_always {store : PgcryptoStore} {tenant id : Uuid} {s : Scene × Bool}
    (h : Inserted db organizationId s) :
    Always (marking store)
      (Post (fun s _ => Inserted db organizationId s) fun s _ =>
        s.1.db.clusters ≠ db.clusters ∧ s.2 = false)
      (query (ask (.getCredential tenant id))).run s := by
  obtain ⟨w, b⟩ := s
  obtain rfl : b = true := h.fine
  rintro r ⟨w', b'⟩ hcall
  obtain ⟨x, hb, -, hcases⟩ := call_cases hcall
  have hb' : b' = (x.reply == .ok && (w.db.getCredential tenant id).isOk) := hb
  show Post _ _ (w', b') r
  rcases hcases with ⟨hreply, hdb, hr⟩ | ⟨hreply, hdb, rfl⟩
  · replace hr : r = w.db.getCredential tenant id := hr
    replace hdb : w'.db = w.db := hdb
    rw [hreply] at hb'
    cases hfound : w.db.getCredential tenant id with
    | error e =>
      rw [hr, hfound]
      rw [hfound] at hb'
      exact ⟨hdb ▸ h.clusters, hb'⟩
    | ok credential =>
      rw [hr, hfound]
      rw [hfound] at hb'
      exact ⟨hdb ▸ h.clusters, hdb ▸ h.organization, hb'⟩
  · rw [hreply] at hb'
    exact ⟨hdb ▸ h.clusters, hb'⟩

/-- A call after which the row is still there. -/
theorem inserted_call {store : PgcryptoStore} {s s' : Scene × Bool} {c : FleetCall} {r : c.Answer}
    (h : Inserted db organizationId s) (hcall : marking store s c r s')
    (hfine : ∀ x, goesOn s.1 c x = true)
    (hsame : ∀ x, (s.1.db.execute store x c).1 = s.1.db) : Inserted db organizationId s' := by
  obtain ⟨w, b⟩ := s
  obtain ⟨w', b'⟩ := s'
  obtain ⟨x, hb, -, hcases⟩ := call_cases hcall
  have hdb : w'.db = w.db := by
    rcases hcases with ⟨-, hdb, -⟩ | ⟨-, hdb, -⟩
    · exact hdb.trans (hsame x)
    · exact hdb
  refine ⟨hdb ▸ h.clusters, hdb ▸ h.organization, ?_⟩
  show b' = true
  rw [hb, hfine x, Bool.and_true]
  exact h.fine

theorem storeIdempotency_always {store : PgcryptoStore} {key : String} {bodyHash : List UInt8}
    {status : Int} {body : ClusterView} {resourceId : Option Uuid} {s : Scene × Bool}
    (h : Inserted db organizationId s) :
    Always (marking store)
      (Post (fun s _ => s.2 = true) fun s _ => s.1.db.clusters ≠ db.clusters ∧ s.2 = false)
      (storeIdempotency organizationId key bodyHash status body resourceId).run s := by
  unfold storeIdempotency
  intro now s hnow
  have h := inserted_call h hnow (fun _ => rfl) fun _ => rfl
  obtain ⟨w, b⟩ := s
  obtain rfl : b = true := h.fine
  rintro r ⟨w', b'⟩ hcall
  obtain ⟨x, hb, -, hcases⟩ := call_cases hcall
  have hb' : b' = (x.reply == .ok) := hb
  show Post _ _ (w', b') r
  rcases hcases with ⟨hreply, hdb, hr⟩ | ⟨hreply, hdb, rfl⟩
  · obtain rfl : r = .ok () := hr.trans (storeIdempotency_ok h.organization)
    rw [hreply] at hb'
    exact hb'
  · rw [hreply] at hb'
    exact ⟨hdb ▸ h.clusters, hb'⟩

theorem createFresh_always {idempotencyKey : Option String} {req : CreateRequest}
    {bodyHash : List UInt8} {s : Scene × Bool} (h : Untouched db s) :
    Always (marking api.store) (Settled db)
      (api.createFresh organizationId idempotencyKey req bodyHash).run s := by
  unfold Api.createFresh
  refine always_bindE (insert_always h) (fun s cluster h => ?_) fun s e h => h.settled _
  refine always_bindE (getCredential_always h) (fun s credential h => ?_)
    fun s e h => settled_error h.1 h.2
  refine fun ⟨⟩ s hspawn => ?_
  have h := inserted_call h hspawn (fun _ => rfl) fun _ => rfl
  cases idempotencyKey with
  | none => exact settled_ok h.fine
  | some key =>
    exact always_bindE (storeIdempotency_always h) (fun s ⟨⟩ hb => settled_ok hb)
      fun s e h => settled_error h.1 h.2

/-- A call before the row is there. -/
theorem untouched_call {store : PgcryptoStore} {s s' : Scene × Bool} {c : FleetCall} {r : c.Answer}
    (h : Untouched db s) (hcall : marking store s c r s') (hspawns : c.spawned = [])
    (hfine : ∀ x, goesOn s.1 c x = true)
    (hsame : ∀ x, (s.1.db.execute store x c).1 = s.1.db) : Untouched db s' := by
  obtain ⟨w, b⟩ := s
  obtain ⟨w', b'⟩ := s'
  obtain ⟨rfl, hnone, rfl : b = true⟩ := h
  obtain ⟨x, hb, hstarted, hcases⟩ := call_cases hcall
  refine ⟨?_, ?_, ?_⟩
  · rcases hcases with ⟨-, hdb, -⟩ | ⟨-, hdb, -⟩
    · exact hdb.trans (hsame x)
    · exact hdb
  · show w'.started = []
    rw [hstarted, hspawns, List.append_nil]
    exact hnone
  · exact hb.trans (hfine x)

theorem lookupIdempotency_always {store : PgcryptoStore} {key : String} {bodyHash : List UInt8}
    {s : Scene × Bool} (h : Untouched db s) :
    Always (marking store) (Post (fun s _ => Untouched db s) fun s _ => Untouched db s)
      (lookupIdempotency organizationId key bodyHash).run s := by
  unfold lookupIdempotency
  intro r s hlookup
  have h := untouched_call h hlookup rfl (fun _ => rfl) fun _ => rfl
  rcases r with e | _ | row
  · exact h
  · exact h
  · intro now s hnow
    have h := untouched_call h hnow rfl (fun _ => rfl) fun _ => rfl
    refine always_iteE (fun _ => h) fun _ => ?_
    exact always_iteE (fun _ => h) fun _ => h

/-- How a request goes. -/
theorem create_settles {idempotencyKey : Option String} {body : String} {s : Scene × Bool}
    (h : Untouched db s) :
    Always (marking api.store) (Settled db) (api.create organizationId idempotencyKey body).run s := by
  unfold Api.create
  refine always_bindE (A := fun s _ => Untouched db s) (E := fun s _ => Untouched db s) ?_
    (fun s req h => ?_) fun s e h => h.settled _
  · cases api.parse body with
    | error e => exact h
    | ok req => exact h
  · cases idempotencyKey with
    | none => exact createFresh_always h
    | some key =>
      refine always_bindE (lookupIdempotency_always h) (fun s cached h => ?_) fun s e h => h.settled _
      cases cached with
      | none => exact createFresh_always h
      | some cached => exact h.settled _

end Handler

/-! ## A whole request -/

/-- `POST /v1/clusters` on these tables, whose `n`-th call goes as `xs n` says. -/
def request (api : Api) (organizationId : Uuid) (idempotencyKey : Option String) (body : String)
    (db : FleetDb) (xs : Nat → FleetOutcome) : Option (Scene × Except PlatformError ClusterResponse) :=
  (api.create organizationId idempotencyKey body).run.replay (Scene.answer api.store) xs 0 ⟨db, []⟩

/-- All calls of the request after the insert succeed. -/
def requestGoesOn (api : Api) (organizationId : Uuid) (idempotencyKey : Option String)
    (body : String) (db : FleetDb) (xs : Nat → FleetOutcome) : Bool :=
  (api.create organizationId idempotencyKey body).run.replayAll (Scene.answer api.store) xs goesOn 0
    ⟨db, []⟩

/-- A request that answers with an error leaves the clusters as they were and has started no run,
exactly if no call after the insert fails. -/
theorem create_all_or_nothing_iff (api : Api) (organizationId : Uuid)
    (idempotencyKey : Option String) (body : String) (db : FleetDb) (xs : Nat → FleetOutcome)
    (w : Scene) (r : Except PlatformError ClusterResponse) (hlost : ∀ n, (xs n).reply ≠ .lost)
    (h : request api organizationId idempotencyKey body db xs = some (w, r)) :
    (∀ e, r = .error e → w.db.clusters = db.clusters ∧ w.started = []) ↔
      requestGoesOn api organizationId idempotencyKey body db xs = true := by
  have hstart : Untouched db (⟨db, []⟩, true) := ⟨rfl, rfl, rfl⟩
  have hsettles : Always (marking api.store) (Settled db)
      (api.create organizationId idempotencyKey body).run (⟨db, []⟩, true) := create_settles hstart
  exact hsettles.replayAll hlost h

/-- A body is the name of the cluster that it asks for, with the credential 71. -/
def namedApi : Api :=
  offlineApi (fun body => .ok ⟨body, "nbg1", "cpx21", 1, 1, 71⟩) fun body => body.toUTF8.toList

/-- Organization 7 with the credential 71. -/
def oneCredential : FleetDb :=
  ((emptyFleet.putSecret clearStore 7 "token" (fine 70 0).draw).1.insertCredential 0 71 7 "main"
    ⟨70, 7⟩).1

theorem fine_reply (n : Nat) : (fine (80 + n) n).reply ≠ .lost := by
  intro h
  cases h

/-- Every call succeeds. -/
theorem create_all_or_nothing_iff_created :
    ∃ w r, request namedApi 7 (some "k") "a" oneCredential (fun n => fine (80 + n) n) = some (w, r) ∧
      ∀ e, r = .error e → w.db.clusters = oneCredential.clusters ∧ w.started = [] := by
  have hrun : (request namedApi 7 (some "k") "a" oneCredential fun n => fine (80 + n) n).isSome =
      true := by decide +kernel
  obtain ⟨⟨w, r⟩, hr⟩ := Option.isSome_iff_exists.mp hrun
  exact ⟨w, r, hr, (create_all_or_nothing_iff _ _ _ _ _ _ w r fine_reply hr).mpr
    (by decide +kernel)⟩

/-- The credential was deleted before: the row of the cluster stays. -/
theorem not_create_all_or_nothing :
    ¬ ∀ (api : Api) (organizationId : Uuid) (idempotencyKey : Option String) (body : String)
      (db : FleetDb) (xs : Nat → FleetOutcome) (w : Scene) (r : Except PlatformError ClusterResponse),
      (∀ n, (xs n).reply ≠ .lost) →
      request api organizationId idempotencyKey body db xs = some (w, r) →
      ∀ e, r = .error e → w.db.clusters = db.clusters ∧ w.started = [] := by
  intro hall
  have hrun : (request namedApi 7 none "a" (oneCredential.softDeleteCredential 1 7 71).1
      fun n => fine (80 + n) n).any (fun p =>
        decide (p.2 = .error (.notFound ("hetzner_credential/" ++ Uuid.text 71))) &&
          decide (p.1.db.clusters.length = 1)) = true := by decide +kernel
  obtain ⟨⟨w, r⟩, hr, hbad⟩ := (Option.any_eq_true _ _).mp hrun
  rw [Bool.and_eq_true, decide_eq_true_eq, decide_eq_true_eq] at hbad
  have hsame := (hall _ _ _ _ _ _ w r fine_reply hr _ hbad.1).1
  rw [hsame] at hbad
  exact absurd hbad.2 (by decide +kernel)

end Kubinate.Fleet.AllOrNothing
