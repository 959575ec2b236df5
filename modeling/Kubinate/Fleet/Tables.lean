import Kubinate.Clusters.Model
import Kubinate.Secrets.Stores

/-!
# Credentials, clusters and their secrets

The tables `hetzner_credentials`, `clusters`, `secrets` and `idempotency_keys` of all tenants,
with the statements of `PgHetznerCredentialRepository`, `PgClusterRepository`, the secret store
and the idempotency store of `crates/api/src/clusters.rs`. They run as the role of the
application, in the tenant that they name.

`FleetDb` carries its foreign keys. They are `ON DELETE RESTRICT` and do not look at
`deleted_at`.
-/

namespace Kubinate.Fleet

open Platform Secrets Clusters

/-! ## Rows -/

/-- A row of `hetzner_credentials`. -/
structure CredentialRow where
  id : Uuid
  organizationId : Uuid
  credentialAlias : String
  secretId : Uuid
  createdAt : Timestamp
  updatedAt : Timestamp
  deletedAt : Option Timestamp
  version : Int
deriving DecidableEq, Repr

structure HetznerCredential where
  id : Uuid
  organizationId : Uuid
  credentialAlias : String
  secretRef : SecretRef
  createdAt : Timestamp
  updatedAt : Timestamp
  version : Int
deriving DecidableEq, Repr

/-- `row_to_credential` -/
def CredentialRow.toCredential (c : CredentialRow) : HetznerCredential :=
  ⟨c.id, c.organizationId, c.credentialAlias, ⟨c.secretId, c.organizationId⟩, c.createdAt, c.updatedAt,
    c.version⟩

/-- A row of `clusters` with its tenant. -/
structure ClusterRow extends Cluster where
  organizationId : Uuid
  credentialId : Uuid
  controlPlaneCount : Int
  createdAt : Timestamp
  updatedAt : Timestamp
  version : Int
  agentLastSeenAt : Option Timestamp
  agentVersion : String
deriving DecidableEq, Repr

structure NewCluster where
  name : String
  region : String
  serverType : String
  controlPlaneCount : Int
  workerCount : Int
  credentialId : Uuid
deriving DecidableEq, Repr

inductive ErrorCategory where
  | providerError
  | networkError
  | bootTimeout
  | installationError
  | unknown
deriving DecidableEq, Repr

def ErrorCategory.asStr : ErrorCategory → String
  | .providerError => "provider_error"
  | .networkError => "network_error"
  | .bootTimeout => "boot_timeout"
  | .installationError => "installation_error"
  | .unknown => "unknown"

def errorCategory (status : ClusterStatus) (reason : Option String) : Option ErrorCategory :=
  if status ≠ .failed then none
  else
    let reason := toAsciiLowercase (reason.getD "")
    if reason.startsWith "hetzner:" then
      if ["401", "403", "quota", "forbidden"].any (contains reason) then some .providerError
      else if ["429", "502", "503", "504", "transport", "timeout"].any (contains reason) then
        some .networkError
      else some .providerError
    else if reason.startsWith "ssh:" then some .installationError
    else if contains reason "cloud-init" || contains reason "cloudinittimeout" then
      some .bootTimeout
    else some .unknown

/-- The JSON object that stands for a cluster in responses. -/
structure ClusterView where
  id : Uuid
  name : String
  region : String
  serverType : String
  controlPlaneCount : Int
  workerCount : Int
  status : ClusterStatus
  currentStep : Option String
  startedAt : Timestamp
  errorCategory : Option String
  terminal : Bool
  kubeconfigAvailable : Bool
  createdAt : Timestamp
  updatedAt : Timestamp
  agentLastSeenAt : Option Timestamp
  agentVersion : String
deriving DecidableEq, Repr

def ClusterView.fromParts (c : ClusterRow) (currentStep : Option String)
    (workflowStartedAt : Option Timestamp) : ClusterView where
  id := c.id
  name := c.name
  region := c.region
  serverType := c.serverType
  controlPlaneCount := c.controlPlaneCount
  workerCount := c.workerCount
  status := c.status
  currentStep := currentStep
  startedAt := workflowStartedAt.getD c.createdAt
  errorCategory := (Fleet.errorCategory c.status c.statusReason).map (·.asStr)
  terminal := c.status == .ready || c.status == .failed || c.status == .destroyed
  kubeconfigAvailable := c.status == .ready
  createdAt := c.createdAt
  updatedAt := c.updatedAt
  agentLastSeenAt := c.agentLastSeenAt
  agentVersion := c.agentVersion

/-- A row of `idempotency_keys`. -/
structure IdempotencyKey where
  organizationId : Uuid
  key : String
  requestHash : List UInt8
  responseStatus : Int
  responseBody : ClusterView
  resourceId : Option Uuid
  createdAt : Timestamp
  expiresAt : Timestamp
deriving DecidableEq, Repr

/-! ## The database -/

structure FleetDb where
  organizations : List Uuid
  secrets : SecretsTable
  credentials : List CredentialRow
  clusters : List ClusterRow
  idempotencyKeys : List IdempotencyKey
  clusterKey : (clusters.map (·.id)).Nodup
  secretOfCredential : ∀ c ∈ credentials, c.secretId ∈ secrets.rows.map (·.id)
  credentialOfCluster : ∀ c ∈ clusters, c.credentialId ∈ credentials.map (·.id)
  secretOfCluster : ∀ c ∈ clusters, ∀ id, c.kubeconfigSecretId = some id →
    id ∈ secrets.rows.map (·.id)

namespace FleetDb

variable (db : FleetDb)

/-- The secrets with what refers to them. -/
def secretsDb : SecretsDb where
  organizations := db.organizations
  secrets := db.secrets
  referenced := db.credentials.map (·.secretId) ++ db.clusters.filterMap (·.kubeconfigSecretId)

/-- Another table of secrets, in which none is missing that a row refers to. -/
def withSecrets (secrets : SecretsTable)
    (h : ∀ row ∈ db.secrets.rows, row.id ∈ db.secretsDb.referenced → row ∈ secrets.rows) : FleetDb :=
  { db with
    secrets := secrets
    secretOfCredential := by
      intro c hc
      obtain ⟨row, hrow, hid⟩ := List.mem_map.mp (db.secretOfCredential c hc)
      refine List.mem_map.mpr ⟨row, h row hrow ?_, hid⟩
      exact List.mem_append_left _ (List.mem_map.mpr ⟨c, hc, hid.symm⟩)
    secretOfCluster := by
      intro c hc id hsecret
      obtain ⟨row, hrow, rfl⟩ := List.mem_map.mp (db.secretOfCluster c hc id hsecret)
      refine List.mem_map.mpr ⟨row, h row hrow ?_, rfl⟩
      exact List.mem_append_right _ (List.mem_filterMap.mpr ⟨c, hc, hsecret⟩) }

end FleetDb

/-! ### Secrets -/

theorem insertSecret_ok {sdb sdb' : SecretsDb} {session : Session} {row : SecretRow}
    (h : sdb.insertSecret session row = .ok sdb') :
    row.id ∉ sdb.secrets.rows.map (·.id) ∧ sdb'.secrets.rows = sdb.secrets.rows ++ [row] := by
  unfold SecretsDb.insertSecret at h
  split at h
  · cases h
  split at h
  · cases h
  · next hid =>
    split at h
    · cases h
    · cases h
      exact ⟨hid, rfl⟩

/-- A secret is put as a new row, or not at all. -/
theorem put_cases (store : PgcryptoStore) (sdb : SecretsDb) (organizationId : Uuid)
    (plaintext : String) (draw : Draw) :
    ((store.put sdb organizationId plaintext draw).1 = sdb ∧
      ∃ e, (store.put sdb organizationId plaintext draw).2 = .error e) ∨
    (draw.id ∉ sdb.secrets.rows.map (·.id) ∧
      (store.put sdb organizationId plaintext draw).1.secrets.rows =
        sdb.secrets.rows ++ [store.envelope organizationId plaintext draw] ∧
      (store.put sdb organizationId plaintext draw).2 = .ok ⟨draw.id, organizationId⟩) := by
  unfold PgcryptoStore.put
  split
  · exact .inl ⟨rfl, _, rfl⟩
  · split
    · exact .inl ⟨rfl, _, rfl⟩
    · next h =>
      obtain ⟨hid, hrows⟩ := insertSecret_ok h
      exact .inr ⟨hid, hrows, rfl⟩

theorem put_keeps {store : PgcryptoStore} {sdb : SecretsDb} {organizationId : Uuid}
    {plaintext : String} {draw : Draw} {row : SecretRow} (hrow : row ∈ sdb.secrets.rows) :
    row ∈ (store.put sdb organizationId plaintext draw).1.secrets.rows := by
  rcases put_cases store sdb organizationId plaintext draw with ⟨hsame, -⟩ | ⟨-, hrows, -⟩
  · rwa [hsame]
  · rw [hrows]
    exact List.mem_append_left _ hrow

theorem isSome_select_blankSecret {sdb : SecretsDb} {session : Session} {row : SecretRow}
    (hrow : row ∈ sdb.secrets.rows) (hsees : session.sees row = true) :
    ((sdb.blankSecret session row.id).secrets.select session row.id).isSome = true := by
  have hwanted : (row.id == row.id && session.sees row) = true := by
    rw [BEq.rfl, hsees]
    rfl
  have hblank : { row with ciphertext := .empty, wrappedDek := .empty } ∈
      (sdb.blankSecret session row.id).secrets.rows :=
    List.mem_map.mpr ⟨row, hrow, if_pos hwanted⟩
  have hstill : session.sees { row with ciphertext := .empty, wrappedDek := .empty } = true := by
    cases session with
    | superuser => rfl
    | app tenant => exact hsees
  have hfound := SecretsTable.select_eq_some hblank hstill
  rw [Option.isSome_iff_exists]
  exact ⟨_, hfound⟩

/-- The transaction of `delete` on a secret that a row refers to changes nothing. -/
theorem blankAndDelete_referenced {sdb : SecretsDb} {handle : SecretRef}
    (h : handle.id ∈ sdb.referenced) : (sdb.blankAndDelete handle).1.secrets = sdb.secrets := by
  by_cases hvisible : ∃ row ∈ sdb.secrets.rows, row.id = handle.id ∧
      (Session.app handle.organizationId).sees row = true
  · -- the foreign key restricts the delete
    obtain ⟨row, hrow, hid, hsees⟩ := hvisible
    have hsome := isSome_select_blankSecret hrow hsees
    rw [hid] at hsome
    have hrestricted : (sdb.blankSecret (.app handle.organizationId) handle.id).deleteSecret
        (.app handle.organizationId) handle.id = .error ("error returned from database: update or " ++
          "delete on table \"secrets\" violates foreign key constraint") := by
      rw [SecretsDb.deleteSecret, if_pos]
      · rfl
      · rw [hsome, Bool.true_and]
        exact decide_eq_true h
    rw [SecretsDb.blankAndDelete, hrestricted]
  · -- there is no row to delete
    have hnone : ∀ row ∈ sdb.secrets.rows, (row.id == handle.id &&
        (Session.app handle.organizationId).sees row) = false := by
      intro row hrow
      rw [Bool.and_eq_false_iff]
      by_contra hboth
      rw [not_or, Bool.not_eq_false, Bool.not_eq_false, beq_iff_eq] at hboth
      exact hvisible ⟨row, hrow, hboth⟩
    have hblank : (sdb.blankSecret (.app handle.organizationId) handle.id).secrets = sdb.secrets := by
      refine SecretsTable.ext ((List.map_congr_left fun row hrow => ?_).trans (List.map_id _))
      exact if_neg (Bool.eq_false_iff.mp (hnone row hrow))
    have hdelete : (sdb.secrets.delete fun row => row.id == handle.id &&
        (Session.app handle.organizationId).sees row) = sdb.secrets := by
      refine SecretsTable.ext (List.filter_eq_self.mpr fun row hrow => ?_)
      exact congrArg not (hnone row hrow)
    unfold SecretsDb.blankAndDelete SecretsDb.deleteSecret
    simp only [hblank, hdelete]
    split
    · rfl
    · next hok =>
      split at hok
      · cases hok
      · cases hok
        rfl

theorem blankAndDelete_keeps_other {sdb : SecretsDb} {handle : SecretRef} {row : SecretRow}
    (hrow : row ∈ sdb.secrets.rows) (hid : row.id ≠ handle.id) :
    row ∈ (sdb.blankAndDelete handle).1.secrets.rows := by
  have hother : (row.id == handle.id && (Session.app handle.organizationId).sees row) = false := by
    rw [beq_eq_false_iff_ne.mpr hid, Bool.false_and]
  cases hdelete : (sdb.blankSecret (.app handle.organizationId) handle.id).deleteSecret
    (.app handle.organizationId) handle.id with
  | error text =>
    rw [SecretsDb.blankAndDelete, hdelete]
    exact hrow
  | ok sdb' =>
    rw [SecretsDb.blankAndDelete, hdelete]
    unfold SecretsDb.deleteSecret at hdelete
    split at hdelete
    · cases hdelete
    · cases hdelete
      refine List.mem_filter.mpr ⟨?_, congrArg not hother⟩
      exact List.mem_map.mpr ⟨row, hrow, if_neg (Bool.eq_false_iff.mp hother)⟩

/-- A secret that a row refers to stays. -/
theorem blankAndDelete_keeps {sdb : SecretsDb} {handle : SecretRef} {row : SecretRow}
    (href : row.id ∈ sdb.referenced) (hrow : row ∈ sdb.secrets.rows) :
    row ∈ (sdb.blankAndDelete handle).1.secrets.rows := by
  by_cases hid : row.id = handle.id
  · rw [blankAndDelete_referenced (hid ▸ href)]
    exact hrow
  · exact blankAndDelete_keeps_other hrow hid

namespace FleetDb

variable (db : FleetDb)

def putSecret (store : PgcryptoStore) (organizationId : Uuid) (plaintext : String) (draw : Draw) :
    FleetDb × Except SecretError SecretRef :=
  let put := store.put db.secretsDb organizationId plaintext draw
  (db.withSecrets put.1.secrets fun _ hrow _ => put_keeps hrow, put.2)

def getSecret (store : PgcryptoStore) (handle : SecretRef) : Except SecretError String :=
  store.get db.secretsDb handle

def deleteSecret (handle : SecretRef) : FleetDb × Except SecretError Unit :=
  let deleted := PgcryptoStore.delete db.secretsDb handle
  (db.withSecrets deleted.1.secrets fun _ hrow href => blankAndDelete_keeps href hrow, deleted.2)

/-! ### Credentials -/

end FleetDb

/-- `WHERE id = $1 AND deleted_at IS NULL`, in the tenant. -/
def CredentialRow.isLiveAt (c : CredentialRow) (organizationId id : Uuid) : Bool :=
  c.id == id && c.organizationId == organizationId && c.deletedAt.isNone

/-- The row takes the alias among the live rows of the tenant. -/
def CredentialRow.takes (c : CredentialRow) (organizationId : Uuid) (credentialAlias : String) : Bool :=
  c.deletedAt.isNone && c.organizationId == organizationId && c.credentialAlias == credentialAlias

namespace FleetDb

variable (db : FleetDb)

def addCredential (row : CredentialRow) (h : row.secretId ∈ db.secrets.rows.map (·.id)) : FleetDb :=
  { db with
    credentials := db.credentials ++ [row]
    secretOfCredential := by
      intro c hc
      rcases List.mem_append.mp hc with hc | hc
      · exact db.secretOfCredential c hc
      · rw [List.mem_singleton.mp hc]
        exact h
    credentialOfCluster := by
      intro c hc
      rw [List.map_append]
      exact List.mem_append_left _ (db.credentialOfCluster c hc) }

def insertCredential (now : Timestamp) (id organizationId : Uuid) (credentialAlias : String)
    (secretRef : SecretRef) : FleetDb × Except PlatformError HetznerCredential :=
  let row : CredentialRow :=
    ⟨id, organizationId, credentialAlias, secretRef.id, now, now, none, 1⟩
  if secretRef.organizationId ≠ organizationId then
    (db, .error (.invalid "secret_ref organization does not match credential organization"))
  else if db.credentials.any fun c => c.id == id || c.takes organizationId credentialAlias then
    (db, .error (.conflict "a Hetzner credential with this alias already exists"))
  else if organizationId ∉ db.organizations then (db, .error (.database .foreignKeyViolation))
  else if h : secretRef.id ∈ db.secrets.rows.map (·.id) then
    (db.addCredential row h, .ok row.toCredential)
  else (db, .error (.database .foreignKeyViolation))

def getCredential (organizationId id : Uuid) : Except PlatformError HetznerCredential :=
  match db.credentials.find? (·.isLiveAt organizationId id) with
  | some c => .ok c.toCredential
  | none => .error (.notFound ("hetzner_credential/" ++ id.text))

def softDeleteCredential (now : Timestamp) (organizationId id : Uuid) :
    FleetDb × Except PlatformError Unit :=
  if db.credentials.any (·.isLiveAt organizationId id) then
    ({ db with
      credentials := db.credentials.map fun c =>
        if c.isLiveAt organizationId id
        then { c with deletedAt := some now, updatedAt := now, version := c.version + 1 } else c
      secretOfCredential := by
        intro c hc
        obtain ⟨row, hrow, rfl⟩ := List.mem_map.mp hc
        split <;> exact db.secretOfCredential row hrow
      credentialOfCluster := by
        intro c hc
        rw [List.map_map]
        obtain ⟨row, hrow, hid⟩ := List.mem_map.mp (db.credentialOfCluster c hc)
        refine List.mem_map.mpr ⟨row, hrow, ?_⟩
        rw [Function.comp_apply, ← hid]
        split <;> rfl }, .ok ())
  else (db, .error (.notFound ("hetzner_credential/" ++ id.text)))

/-! ### Clusters -/

/-- `UPDATE clusters SET .. WHERE ..`, with the trigger `set_updated_at`. -/
def updateClusters (now : Timestamp) (wanted : ClusterRow → Bool) (set : ClusterRow → Cluster)
    (hid : ∀ c, (set c).id = c.id)
    (hsecret : ∀ c id, (set c).kubeconfigSecretId = some id →
      c.kubeconfigSecretId = some id ∨ id ∈ db.secrets.rows.map (·.id)) : FleetDb :=
  { db with
    clusters := db.clusters.map fun c =>
      if wanted c then { c with toCluster := set c, updatedAt := now, version := c.version + 1 } else c
    clusterKey := by
      have hids : (db.clusters.map fun c => if wanted c
          then { c with toCluster := set c, updatedAt := now, version := c.version + 1 } else c).map
            (·.id) = db.clusters.map (·.id) := by
        rw [List.map_map]
        refine List.map_congr_left fun c _ => ?_
        rw [Function.comp_apply]
        split
        · exact hid c
        · rfl
      rw [hids]
      exact db.clusterKey
    credentialOfCluster := by
      intro c hc
      obtain ⟨row, hrow, rfl⟩ := List.mem_map.mp hc
      split <;> exact db.credentialOfCluster row hrow
    secretOfCluster := by
      intro c hc id hid
      obtain ⟨row, hrow, rfl⟩ := List.mem_map.mp hc
      split at hid
      · rcases hsecret row id hid with hold | hnew
        · exact db.secretOfCluster row hrow id hold
        · exact hnew
      · exact db.secretOfCluster row hrow id hid }

end FleetDb

/-- `WHERE id = $1`, in the tenant. -/
def ClusterRow.isAt (c : ClusterRow) (organizationId id : Uuid) : Bool :=
  c.id == id && c.organizationId == organizationId

/-- `WHERE id = $1 AND deleted_at IS NULL`, in the tenant. -/
def ClusterRow.isLiveAt (c : ClusterRow) (organizationId id : Uuid) : Bool :=
  c.isAt organizationId id && c.deletedAt.isNone

/-- The row takes the name among the live rows of the tenant. -/
def ClusterRow.takes (c : ClusterRow) (organizationId : Uuid) (name : String) : Bool :=
  c.deletedAt.isNone && c.organizationId == organizationId && c.name == name

/-- The row that an insert writes, with the defaults of the other columns. -/
def NewCluster.row (new : NewCluster) (now : Timestamp) (id organizationId : Uuid) : ClusterRow where
  id := id
  name := new.name
  region := new.region
  serverType := new.serverType
  workerCount := new.workerCount
  status := .pending
  statusReason := none
  kubeconfigSecretId := none
  deletedAt := none
  organizationId := organizationId
  credentialId := new.credentialId
  controlPlaneCount := new.controlPlaneCount
  createdAt := now
  updatedAt := now
  version := 1
  agentLastSeenAt := none
  agentVersion := ""

namespace FleetDb

variable (db : FleetDb)

def clusterNotFound (id : Uuid) : PlatformError := .notFound ("cluster/" ++ id.text)

def addCluster (row : ClusterRow) (hid : row.id ∉ db.clusters.map (·.id))
    (hcredential : row.credentialId ∈ db.credentials.map (·.id))
    (hsecret : row.kubeconfigSecretId = none) : FleetDb :=
  { db with
    clusters := db.clusters ++ [row]
    clusterKey := by
      rw [List.map_append]
      refine List.Nodup.append db.clusterKey (List.nodup_singleton _) ?_
      intro id hold hnew
      rw [List.map_singleton, List.mem_singleton] at hnew
      exact hid (hnew ▸ hold)
    credentialOfCluster := by
      intro c hc
      rcases List.mem_append.mp hc with hc | hc
      · exact db.credentialOfCluster c hc
      · rw [List.mem_singleton.mp hc]
        exact hcredential
    secretOfCluster := by
      intro c hc id hid
      rcases List.mem_append.mp hc with hc | hc
      · exact db.secretOfCluster c hc id hid
      · rw [List.mem_singleton.mp hc, hsecret] at hid
        cases hid }

def insertCluster (now : Timestamp) (id organizationId : Uuid) (new : NewCluster) :
    FleetDb × Except PlatformError ClusterRow :=
  if new.controlPlaneCount < 1 then (db, .error (.invalid "control_plane_count must be >= 1"))
  else if ¬ (1 ≤ new.workerCount ∧ new.workerCount ≤ 50) then
    (db, .error (.invalid "worker_count must be between 1 and 50"))
  else if hid : id ∈ db.clusters.map (·.id) then
    (db, .error (.conflict "a cluster with this name already exists"))
  else if db.clusters.any (·.takes organizationId new.name) then
    (db, .error (.conflict "a cluster with this name already exists"))
  else if organizationId ∉ db.organizations then (db, .error (.database .foreignKeyViolation))
  else if h : new.credentialId ∈ db.credentials.map (·.id) then
    (db.addCluster (new.row now id organizationId) hid h rfl, .ok (new.row now id organizationId))
  else (db, .error (.database .foreignKeyViolation))

def getCluster (organizationId id : Uuid) : Except PlatformError ClusterRow :=
  match db.clusters.find? (·.isLiveAt organizationId id) with
  | some c => .ok c
  | none => .error (clusterNotFound id)

def updateStatus (now : Timestamp) (organizationId id : Uuid) (status : ClusterStatus)
    (reason : Option String) : FleetDb × Except PlatformError Unit :=
  if db.clusters.any (·.isAt organizationId id) then
    (db.updateClusters now (·.isAt organizationId id)
      (fun c => { c.toCluster with status := status, statusReason := reason }) (fun _ => rfl)
      fun _ _ => .inl, .ok ())
  else (db, .error (clusterNotFound id))

def updateWorkerCount (now : Timestamp) (organizationId id : Uuid) (workerCount : Int) :
    FleetDb × Except PlatformError Unit :=
  if db.clusters.any (·.isAt organizationId id) then
    (db.updateClusters now (·.isAt organizationId id)
      (fun c => { c.toCluster with workerCount := workerCount }) (fun _ => rfl) fun _ _ => .inl, .ok ())
  else (db, .error (clusterNotFound id))

def softDelete (now : Timestamp) (organizationId id : Uuid) : FleetDb :=
  db.updateClusters now (·.isLiveAt organizationId id)
    (fun c => { c.toCluster with deletedAt := some now }) (fun _ => rfl) fun _ _ => .inl

/-- The row has no kubeconfig yet, or this one. -/
def takesKubeconfig (c : ClusterRow) (organizationId id secretId : Uuid) : Bool :=
  c.isLiveAt organizationId id &&
    (c.kubeconfigSecretId.isNone || c.kubeconfigSecretId == some secretId)

def setKubeconfigSecret (now : Timestamp) (organizationId id secretId : Uuid) :
    FleetDb × Except PlatformError Unit :=
  if !db.clusters.any (takesKubeconfig · organizationId id secretId) then
    (db, .error (.conflict "kubeconfig already set to a different secret"))
  else if h : secretId ∈ db.secrets.rows.map (·.id) then
    (db.updateClusters now (takesKubeconfig · organizationId id secretId)
      (fun c => { c.toCluster with kubeconfigSecretId := some secretId }) (fun _ => rfl)
      fun _ _ hid => .inr (Option.some.inj hid ▸ h), .ok ())
  else (db, .error (.database .foreignKeyViolation))

def kubeconfigSecret (organizationId id : Uuid) : Except PlatformError (Option Uuid) :=
  match db.clusters.find? (·.isLiveAt organizationId id) with
  | some c => .ok c.kubeconfigSecretId
  | none => .error (clusterNotFound id)

/-! ### Idempotency keys -/

def lookupIdempotency (organizationId : Uuid) (key : String) : Option IdempotencyKey :=
  db.idempotencyKeys.find? fun r => r.organizationId == organizationId && r.key == key

/-- `ON CONFLICT (organization_id, key) DO NOTHING` -/
def storeIdempotency (row : IdempotencyKey) : FleetDb × Except PlatformError Unit :=
  if (db.lookupIdempotency row.organizationId row.key).isSome then (db, .ok ())
  else if row.organizationId ∉ db.organizations then (db, .error (.database .foreignKeyViolation))
  else ({ db with idempotencyKeys := db.idempotencyKeys ++ [row] }, .ok ())

end FleetDb

end Kubinate.Fleet
