import Kubinate.Clusters.Runner
import Kubinate.Fleet.Tables

/-!
# Requests and runs over all tenants

`HetznerCredentialService` (`crates/identity/src/service.rs`), the handlers of
`crates/api/src/clusters.rs` that create, scale and destroy clusters, and the runs that they
start. The runs and the scale request are the programs of `Clusters.Runner`, made for one cluster
each; of their calls those on `clusters`, `hetzner_credentials` and `secrets` are answered from
the tables, and what the provider, the executors and the other tables answer is left open.
-/

namespace Kubinate.Fleet

open Platform Library Secrets Clusters

inductive FleetCall where
  /-- `OffsetDateTime::now_utc()` -/
  | now
  | putSecret (organizationId : Uuid) (plaintext : String)
  | deleteSecret (handle : SecretRef)
  | insertCredential (organizationId : Uuid) (credentialAlias : String) (secretRef : SecretRef)
  | getCredential (organizationId id : Uuid)
  | softDeleteCredential (organizationId id : Uuid)
  | insertCluster (organizationId : Uuid) (new : NewCluster)
  | getCluster (organizationId id : Uuid)
  | lookupIdempotency (organizationId : Uuid) (key : String)
  | storeIdempotency (row : IdempotencyKey)
  | spawn (organizationId clusterId : Uuid) (job : ClusterJob)
  /-- a call that a run makes for its cluster -/
  | onCluster (organizationId clusterId : Uuid) (c : CloudCall)
deriving DecidableEq

@[reducible]
def FleetCall.Answer : FleetCall → Type
  | .now => Timestamp
  | .putSecret .. => Except SecretError SecretRef
  | .deleteSecret _ => Except SecretError Unit
  | .insertCredential .. | .getCredential .. => Except PlatformError HetznerCredential
  | .softDeleteCredential .. | .storeIdempotency _ => Except PlatformError Unit
  | .insertCluster .. | .getCluster .. => Except PlatformError ClusterRow
  | .lookupIdempotency .. => Except PlatformError (Option IdempotencyKey)
  | .spawn .. => Unit
  | .onCluster _ _ c => c.Answer

abbrev fleet : Interface where
  Call := FleetCall
  Answer := FleetCall.Answer

/-- What can be started: the requests, `finalize_destroy` by itself, and the runs with the scale
request. -/
inductive FleetJob where
  | createCredential (organizationId : Uuid) (credentialAlias token : String)
  | deleteCredential (organizationId id : Uuid)
  | createCluster (organizationId : Uuid) (idempotencyKey : Option String) (body : String)
  | destroyCluster (organizationId id : Uuid)
  | finalizeDestroy (organizationId id : Uuid)
  | run (organizationId id : Uuid) (job : ClusterJob)
deriving DecidableEq

/-- How a call goes: its time, what it draws, and what is answered outside the tables. -/
structure FleetOutcome where
  reply : Reply := .ok
  draw : Draw
  elsewhere : (c : CloudCall) → c.Answer

/-- The body of `POST /v1/clusters`. -/
structure CreateRequest where
  name : String
  region : String
  serverType : String
  controlPlaneCount : Int
  workerCount : Int
  credentialId : Uuid
deriving DecidableEq, Repr

/-- What the code leaves open: pgcrypto with its key, version 5 UUIDs, the settings of the
deployment, the JSON parser with its error, and SHA-256. -/
structure Api where
  store : PgcryptoStore
  newV5 : String → Uuid
  settings : ClusterSettings
  parse : String → Except String CreateRequest
  sha256 : String → List UInt8

/-! ## What answers the calls -/

/-- The text of a `SecretError`. -/
def secretErrorText : SecretError → String
  | .notFound id => "secret not found: " ++ id.text
  | .decrypt => "decryption failed"
  | .invalidKek message => "invalid KEK: " ++ message
  | .authFailed message => "backend auth failed: " ++ message
  | .database text => text

/-- `PlatformError::Secret` -/
def SecretError.toPlatform (e : SecretError) : PlatformError := .secret (secretErrorText e)

namespace FleetDb

variable (store : PgcryptoStore) (db : FleetDb) (x : FleetOutcome)

/-- The credential of a cluster, as the scale request looks it up after it has read the row. -/
def credentialOf (organizationId id : Uuid) : Except PlatformError HetznerCredential :=
  match db.clusters.find? (·.isAt organizationId id) with
  | some c => db.getCredential organizationId c.credentialId
  | none => .error (clusterNotFound id)

/-- The calls of a run that concern the tables; the others change nothing here. -/
def executeOnCluster (organizationId id : Uuid) : (c : CloudCall) → FleetDb × c.Answer
  | .get => (db, (db.getCluster organizationId id).map (·.toCluster))
  | .updateStatus status reason => db.updateStatus x.draw.now organizationId id status reason
  | .updateWorkerCount workerCount =>
    db.updateWorkerCount x.draw.now organizationId id workerCount
  | .softDelete => (db.softDelete x.draw.now organizationId id, .ok ())
  | .setKubeconfigSecret secretId =>
    db.setKubeconfigSecret x.draw.now organizationId id secretId
  | .kubeconfigSecret => (db, db.kubeconfigSecret organizationId id)
  | .putSecret plaintext =>
    let put := db.putSecret store organizationId plaintext x.draw
    (put.1, (put.2.map (·.id)).mapError SecretError.toPlatform)
  | .getSecret secretId =>
    (db, (db.getSecret store ⟨secretId, organizationId⟩).mapError SecretError.toPlatform)
  | .deleteSecret secretId =>
    let deleted := db.deleteSecret ⟨secretId, organizationId⟩
    (deleted.1, deleted.2.mapError SecretError.toPlatform)
  | .getCredential => (db, (db.credentialOf organizationId id).map fun _ => ())
  | c => (db, x.elsewhere c)

def execute : (c : FleetCall) → FleetDb × c.Answer
  | .now => (db, x.draw.now)
  | .putSecret organizationId plaintext => db.putSecret store organizationId plaintext x.draw
  | .deleteSecret handle => db.deleteSecret handle
  | .insertCredential organizationId credentialAlias secretRef =>
    db.insertCredential x.draw.now x.draw.id organizationId credentialAlias secretRef
  | .getCredential organizationId id => (db, db.getCredential organizationId id)
  | .softDeleteCredential organizationId id =>
    db.softDeleteCredential x.draw.now organizationId id
  | .insertCluster organizationId new =>
    db.insertCluster x.draw.now x.draw.id organizationId new
  | .getCluster organizationId id => (db, db.getCluster organizationId id)
  | .lookupIdempotency organizationId key => (db, .ok (db.lookupIdempotency organizationId key))
  | .storeIdempotency row => db.storeIdempotency row
  | .spawn .. => (db, ())
  | .onCluster organizationId id c => db.executeOnCluster store x organizationId id c

end FleetDb

/-- The calls of a run that the tables answer. -/
def onTables : CloudCall → Bool
  | .get | .updateStatus .. | .updateWorkerCount _ | .softDelete | .setKubeconfigSecret _
  | .kubeconfigSecret | .putSecret _ | .getSecret _ | .deleteSecret _ | .getCredential => true
  | _ => false

/-- The answer to a call whose connection breaks. -/
def brokenAnswer (x : FleetOutcome) : (c : FleetCall) → c.Answer
  | .now => x.draw.now
  | .putSecret .. | .deleteSecret _ => Except.error (SecretError.database "connection closed")
  | .insertCredential .. | .getCredential .. | .softDeleteCredential .. | .insertCluster ..
  | .getCluster .. | .lookupIdempotency .. | .storeIdempotency _ =>
    Except.error (PlatformError.database .connection)
  | .spawn .. => ()
  | .onCluster _ _ c => if onTables c then Cloud.broken {} c else x.elsewhere c

/-- The jobs that a call starts. -/
def FleetCall.spawned : FleetCall → List FleetJob
  | .spawn organizationId id job | .onCluster organizationId id (.spawn job) =>
    [.run organizationId id job]
  | _ => []

/-- A call that fails has no effect; one whose reply is lost has taken effect. -/
def FleetDb.answer (store : PgcryptoStore) (db : FleetDb) (c : FleetCall) (x : FleetOutcome) :
    FleetDb × c.Answer :=
  match x.reply with
  | .ok => db.execute store x c
  | .failed => (db, brokenAnswer x c)
  | .lost => ((db.execute store x c).1, brokenAnswer x c)

/-! ## Use cases -/

/-- Code that calls out and returns a `PlatformResult`. -/
abbrev UseCase := ExceptT PlatformError (Program fleet)

def ask (c : FleetCall) : Program fleet c.Answer := Program.perform (I := fleet) c

/-- `.await?` on a method of a repository. -/
def query {α : Type} (p : Program fleet (Except PlatformError α)) : UseCase α := ExceptT.mk p

/-- `.await?` on the secret store. -/
def secret {α : Type} (p : Program fleet (Except SecretError α)) : UseCase α :=
  ExceptT.mk (p >>= fun r => pure (r.mapError SecretError.toPlatform))

namespace HetznerCredentialService

/-- A secret whose row cannot be inserted is deleted again, if possible. -/
def create (organizationId : Uuid) (credentialAlias token : String) : UseCase HetznerCredential := do
  let secretRef ← secret (ask (.putSecret organizationId token))
  let inserted ← ExceptT.lift (ask (.insertCredential organizationId credentialAlias secretRef))
  match inserted with
  | .ok credential => return credential
  | .error err =>
    let _ ← ExceptT.lift (ask (.deleteSecret secretRef))
    throw err

/-- Whether the secret could be deleted is only logged. -/
def delete (organizationId id : Uuid) : UseCase Unit := do
  let credential ← query (ask (.getCredential organizationId id))
  query (ask (.softDeleteCredential organizationId id))
  let _ ← ExceptT.lift (ask (.deleteSecret credential.secretRef))
  return ()

end HetznerCredentialService

def allowedRegions : List String := ["nbg1", "fsn1", "hel1", "ash", "hil"]

def allowedServerTypes : List String := ["cpx11", "cpx21", "cpx31", "cpx41", "ccx13", "ccx23"]

def validateAllowed (new : NewCluster) : Except PlatformError Unit :=
  if trim new.name = "" then .error (.invalid "name must not be empty")
  else if new.region ∉ allowedRegions then
    .error (.invalid ("region '" ++ new.region ++ "' is not on the allowlist"))
  else if new.serverType ∉ allowedServerTypes then
    .error (.invalid ("server_type '" ++ new.serverType ++ "' is not on the allowlist"))
  else if new.controlPlaneCount ≠ 1 then
    .error (.invalid ("control_plane_count must be 1 — HA control-plane delivery " ++
      "is deferred to Phase 4+ (see ADR-0012). Revisit triggers: " ++
      "a data-residency customer that requires multi-region, or " ++
      "Hetzner shipping a managed etcd / Cluster API offering."))
  else if ¬ (1 ≤ new.workerCount ∧ new.workerCount ≤ 10) then
    .error (.invalid "worker_count must be between 1 and 10")
  else .ok ()

/-- `ClusterService::create` -/
def createCluster (organizationId : Uuid) (new : NewCluster) : UseCase ClusterRow := do
  ExceptT.mk (pure (validateAllowed new))
  query (ask (.insertCluster organizationId new))

/-! ## `POST /v1/clusters` -/

structure ClusterResponse where
  status : Nat
  body : ClusterView
deriving DecidableEq, Repr

structure CachedResponse where
  responseStatus : Int
  responseBody : ClusterView

/-- `StatusCode::from_u16(u16::try_from(status).unwrap_or(200)).unwrap_or(StatusCode::OK)` -/
def statusCode (status : Int) : Nat := if 100 ≤ status ∧ status < 1000 then status.toNat else 200

/-- 24 hours in microseconds. -/
def idempotencyTtl : Int := 24 * 60 * 60 * 1000000

def lookupIdempotency (organizationId : Uuid) (key : String) (bodyHash : List UInt8) :
    UseCase (Option CachedResponse) := do
  match ← query (ask (.lookupIdempotency organizationId key)) with
  | none => return none
  | some row =>
    let now : Timestamp ← ExceptT.lift (ask .now)
    if row.expiresAt < now then return none
    if row.requestHash ≠ bodyHash then
      throw (.conflict "Idempotency-Key reused with a different request body")
    return some ⟨row.responseStatus, row.responseBody⟩

def storeIdempotency (organizationId : Uuid) (key : String) (bodyHash : List UInt8) (status : Int)
    (body : ClusterView) (resourceId : Option Uuid) : UseCase Unit := do
  let now : Timestamp ← ExceptT.lift (ask .now)
  query (ask (.storeIdempotency
    ⟨organizationId, key, bodyHash, status, body, resourceId, now, now + idempotencyTtl⟩))

namespace Api

variable (api : Api) (organizationId : Uuid)

/-- The handler once no response is cached. -/
def createFresh (idempotencyKey : Option String) (req : CreateRequest) (bodyHash : List UInt8) :
    UseCase ClusterResponse := do
  let cluster ← createCluster organizationId
    ⟨req.name, req.region, req.serverType, req.controlPlaneCount, req.workerCount, req.credentialId⟩
  let _ ← query (ask (.getCredential organizationId req.credentialId))
  ExceptT.lift (ask (.spawn organizationId cluster.id (.provision
    { clusterName := cluster.name, location := cluster.region, serverType := cluster.serverType,
      workerCount := cluster.workerCount.toNat, sshKey := api.settings.sshKey,
      userData := api.settings.userData, k3sVersion := api.settings.k3sVersion })))
  let view := ClusterView.fromParts cluster none none
  match idempotencyKey with
  | some key => storeIdempotency organizationId key bodyHash 202 view (some cluster.id)
  | none => pure ()
  return ⟨202, view⟩

def create (idempotencyKey : Option String) (body : String) : UseCase ClusterResponse := do
  let req ← ExceptT.mk (pure ((api.parse body).mapError fun e =>
    PlatformError.invalid ("invalid JSON body: " ++ e)))
  match idempotencyKey with
  | none => api.createFresh organizationId none req (api.sha256 body)
  | some key =>
    match ← lookupIdempotency organizationId key (api.sha256 body) with
    | some cached => return ⟨statusCode cached.responseStatus, cached.responseBody⟩
    | none => api.createFresh organizationId (some key) req (api.sha256 body)

end Api

/-- `DELETE /v1/clusters/:id` -/
def destroy (organizationId id : Uuid) : UseCase Unit := do
  let cluster ← query (ask (.getCluster organizationId id))
  let _ ← query (ask (.getCredential organizationId cluster.credentialId))
  ExceptT.lift (ask (.spawn organizationId id .destroy))

/-! ## Everything at once -/

/-- What a job ends with. -/
inductive FleetReply where
  | credential (credential : HetznerCredential)
  | cluster (response : ClusterResponse)
  | done
deriving DecidableEq, Repr

def UseCase.reply {α : Type} (p : UseCase α) (f : α → FleetReply) :
    Program fleet (Except RunError FleetReply) :=
  p.run >>= fun r => pure ((r.map f).mapError .platform)

/-- A program for one cluster. -/
def forCluster {α : Type} (organizationId id : Uuid) (p : Program cloud α) : Program fleet α :=
  p.embed (.onCluster organizationId id) fun _ r => r

def FleetJob.program (api : Api) : FleetJob → Program fleet (Except RunError FleetReply)
  | .createCredential organizationId credentialAlias token =>
    (HetznerCredentialService.create organizationId credentialAlias token).reply .credential
  | .deleteCredential organizationId id =>
    (HetznerCredentialService.delete organizationId id).reply fun _ => .done
  | .createCluster organizationId idempotencyKey body =>
    (api.create organizationId idempotencyKey body).reply .cluster
  | .destroyCluster organizationId id => (destroy organizationId id).reply fun _ => .done
  | .finalizeDestroy organizationId id =>
    forCluster organizationId id ClusterService.finalizeDestroy.run >>= fun r =>
      pure (r.map fun _ => .done)
  | .run organizationId id job =>
    forCluster organizationId id (job.program ⟨api.newV5, id, api.settings⟩) >>= fun _ =>
      pure (.ok .done)

/-- Any number of requests and runs of any tenants, interleaved between their calls. -/
def fleetPool (api : Api) :
    Pool fleet FleetDb FleetJob FleetOutcome (Except RunError FleetReply) where
  prog := FleetJob.program api
  external := fun _ => true
  answer := fun db _ c x => some ((db.answer api.store c x).1, (db.answer api.store c x).2, c.spawned)

end Kubinate.Fleet
