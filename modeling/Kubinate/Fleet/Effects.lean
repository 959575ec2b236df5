import Kubinate.Fleet.Requests

/-!
# What a call does to the rows

Rows of credentials and clusters are never removed, and most of their columns never change. So the
world before a call and the world after it are compared row by row: `CredentialRow.Becomes` and
`ClusterRow.Becomes` say how a row can change, `FleetDb.Effects` where the rows after a call come
from. `effects_answer` is the one place that looks at the statements.
-/

namespace Kubinate.Fleet

open Platform Library Secrets Clusters

/-! ## Calls and secrets -/

/-- The tenant for which the call puts a secret. -/
def FleetCall.puts : FleetCall → Option Uuid
  | .putSecret organizationId _ | .onCluster organizationId _ (.putSecret _) => some organizationId
  | _ => none

/-- The secret that the call makes a row refer to. -/
def FleetCall.records : FleetCall → Option SecretRef
  | .insertCredential _ _ secretRef => some secretRef
  | .onCluster organizationId _ (.setKubeconfigSecret secretId) => some ⟨secretId, organizationId⟩
  | _ => none

/-- The secret that the call deletes. -/
def FleetCall.deletes : FleetCall → Option SecretRef
  | .deleteSecret handle => some handle
  | .onCluster organizationId _ (.deleteSecret secretId) => some ⟨secretId, organizationId⟩
  | _ => none

def CredentialRow.secretRef (c : CredentialRow) : SecretRef := ⟨c.secretId, c.organizationId⟩

def ClusterRow.secretRef (c : ClusterRow) : Option SecretRef :=
  c.kubeconfigSecretId.map fun id => ⟨id, c.organizationId⟩

/-- The secrets that rows refer to. -/
def FleetDb.handles (db : FleetDb) : List SecretRef :=
  db.credentials.map (·.secretRef) ++ db.clusters.filterMap (·.secretRef)

theorem referenced_eq_handles (db : FleetDb) : db.secretsDb.referenced = db.handles.map (·.id) := by
  have hclusters : (db.clusters.filterMap (·.secretRef)).map (·.id) =
      db.clusters.filterMap (·.kubeconfigSecretId) := by
    rw [List.map_filterMap]
    refine List.filterMap_congr fun c _ => ?_
    rw [ClusterRow.secretRef, Option.map_map]
    exact Option.map_id'
  rw [FleetDb.handles, List.map_append, hclusters, List.map_map]
  rfl

/-! ## Rows before and after a call -/

structure CredentialRow.Becomes (call : FleetCall) (c c' : CredentialRow) : Prop where
  id : c'.id = c.id
  organizationId : c'.organizationId = c.organizationId
  secretId : c'.secretId = c.secretId
  deletedAt : c'.deletedAt = c.deletedAt ∨
    c.deletedAt = none ∧ call = .softDeleteCredential c.organizationId c.id ∧ c'.deletedAt ≠ none

structure ClusterRow.Becomes (call : FleetCall) (c c' : ClusterRow) : Prop where
  id : c'.id = c.id
  organizationId : c'.organizationId = c.organizationId
  credentialId : c'.credentialId = c.credentialId
  name : c'.name = c.name
  deletedAt : c'.deletedAt = c.deletedAt ∨
    c.deletedAt = none ∧ call = .onCluster c.organizationId c.id .softDelete ∧ c'.deletedAt ≠ none
  kubeconfig : c'.secretRef = c.secretRef ∨
    c.deletedAt = none ∧ ∃ handle, call.records = some handle ∧ c'.secretRef = some handle ∧
      (c.secretRef = none ∨ c.secretRef = some handle)

theorem CredentialRow.becomes_self (call : FleetCall) (c : CredentialRow) : c.Becomes call c :=
  ⟨rfl, rfl, rfl, .inl rfl⟩

theorem ClusterRow.becomes_self (call : FleetCall) (c : ClusterRow) : c.Becomes call c :=
  ⟨rfl, rfl, rfl, rfl, .inl rfl, .inl rfl⟩

/-- A row that refers to a secret goes on referring to it. -/
theorem ClusterRow.Becomes.keeps_secretRef {call : FleetCall} {c c' : ClusterRow}
    (h : c.Becomes call c') {handle : SecretRef} (href : c.secretRef = some handle) :
    c'.secretRef = some handle := by
  rcases h.kubeconfig with hsame | ⟨-, new, -, hnew, hnone | hsame⟩
  · rw [hsame, href]
  · rw [hnone] at href
    cases href
  · rw [hnew, ← hsame, href]

theorem ClusterRow.Becomes.stays_deleted {call : FleetCall} {c c' : ClusterRow}
    (h : c.Becomes call c') (hdeleted : c.deletedAt ≠ none) :
    c'.deletedAt ≠ none ∧ c'.secretRef = c.secretRef := by
  constructor
  · rcases h.deletedAt with hsame | ⟨hlive, -, -⟩
    · rwa [hsame]
    · exact absurd hlive hdeleted
  · rcases h.kubeconfig with hsame | ⟨hlive, -⟩
    · exact hsame
    · exact absurd hlive hdeleted

/-- What the world after a call has to do with the world before it. -/
structure FleetDb.Effects (call : FleetCall) (db db' : FleetDb) : Prop where
  organizations : db'.organizations = db.organizations
  credentials_kept : ∀ c ∈ db.credentials, ∃ c' ∈ db'.credentials, c.Becomes call c'
  credentials_from : ∀ c' ∈ db'.credentials, (∃ c ∈ db.credentials, c.Becomes call c') ∨
    call.records = some c'.secretRef
  clusters_kept : ∀ c ∈ db.clusters, ∃ c' ∈ db'.clusters, c.Becomes call c'
  clusters_from : ∀ c' ∈ db'.clusters, (∃ c ∈ db.clusters, c.Becomes call c') ∨
    ∃ new now, call = .insertCluster c'.organizationId new ∧ c' = new.row now c'.id c'.organizationId
  secrets_kept : ∀ row ∈ db.secrets.rows, row ∈ db'.secrets.rows ∨
    ∃ handle, call.deletes = some handle ∧ row.id = handle.id ∧
      handle.id ∉ db.handles.map (·.id)
  idempotencyKeys_kept : db.idempotencyKeys <+: db'.idempotencyKeys

namespace FleetDb

variable {db db' : FleetDb}

theorem effects_self (call : FleetCall) (db : FleetDb) : db.Effects call db where
  organizations := rfl
  credentials_kept := fun c hc => ⟨c, hc, c.becomes_self call⟩
  credentials_from := fun c hc => .inl ⟨c, hc, c.becomes_self call⟩
  clusters_kept := fun c hc => ⟨c, hc, c.becomes_self call⟩
  clusters_from := fun c hc => .inl ⟨c, hc, c.becomes_self call⟩
  secrets_kept := fun _ h => .inl h
  idempotencyKeys_kept := List.prefix_refl _

/-- An update is described row by row. -/
theorem effects_updateClusters {call : FleetCall} {now : Timestamp} {wanted : ClusterRow → Bool}
    {set : ClusterRow → Cluster} {hid : ∀ c, (set c).id = c.id}
    {hsecret : ∀ c id, (set c).kubeconfigSecretId = some id →
      c.kubeconfigSecretId = some id ∨ id ∈ db.secrets.rows.map (·.id)}
    (h : ∀ c : ClusterRow, wanted c = true →
      c.Becomes call { c with toCluster := set c, updatedAt := now, version := c.version + 1 }) :
    db.Effects call (db.updateClusters now wanted set hid hsecret) := by
  have hrow (c : ClusterRow) : c.Becomes call (if wanted c then
      { c with toCluster := set c, updatedAt := now, version := c.version + 1 } else c) := by
    split
    · next hwanted => exact h c hwanted
    · exact c.becomes_self call
  exact { effects_self call db with
    clusters_kept := fun c hc => ⟨_, List.mem_map_of_mem hc, hrow c⟩
    clusters_from := by
      intro c' hc'
      obtain ⟨c, hc, rfl⟩ := List.mem_map.mp hc'
      exact .inl ⟨c, hc, hrow c⟩ }

theorem effects_putSecret {call : FleetCall} (store : PgcryptoStore) (organizationId : Uuid)
    (plaintext : String) (draw : Draw) :
    db.Effects call (db.putSecret store organizationId plaintext draw).1 :=
  { effects_self call db with secrets_kept := fun _ hrow => .inl (put_keeps hrow) }

theorem effects_deleteSecret {call : FleetCall} {handle : SecretRef}
    (h : call.deletes = some handle) : db.Effects call (db.deleteSecret handle).1 :=
  { effects_self call db with
    secrets_kept := by
      intro row hrow
      by_cases hid : row.id = handle.id
      · by_cases href : handle.id ∈ db.handles.map (·.id)
        · rw [← referenced_eq_handles] at href
          exact .inl (blankAndDelete_keeps (hid ▸ href) hrow)
        · exact .inr ⟨handle, h, hid, href⟩
      · exact .inl (blankAndDelete_keeps_other hrow hid) }

theorem effects_insertCredential (now : Timestamp) (id organizationId : Uuid)
    (credentialAlias : String) (secretRef : SecretRef) :
    db.Effects (.insertCredential organizationId credentialAlias secretRef)
      (db.insertCredential now id organizationId credentialAlias secretRef).1 := by
  unfold insertCredential
  dsimp only
  split
  · exact effects_self _ db
  next htenant =>
  split
  · exact effects_self _ db
  split
  · exact effects_self _ db
  split
  · exact { effects_self _ db with
      credentials_kept := fun c hc => ⟨c, List.mem_append_left _ hc, c.becomes_self _⟩
      credentials_from := by
        intro c hc
        rcases List.mem_append.mp hc with hc | hc
        · exact .inl ⟨c, hc, c.becomes_self _⟩
        · rw [List.mem_singleton.mp hc]
          refine .inr ?_
          rw [CredentialRow.secretRef, ← not_not.mp htenant]
          rfl }
  · exact effects_self _ db

theorem effects_softDeleteCredential (now : Timestamp) (organizationId id : Uuid) :
    db.Effects (.softDeleteCredential organizationId id)
      (db.softDeleteCredential now organizationId id).1 := by
  have hrow (c : CredentialRow) : c.Becomes (.softDeleteCredential organizationId id)
      (if c.isLiveAt organizationId id
        then { c with deletedAt := some now, updatedAt := now, version := c.version + 1 } else c) := by
    split
    · next hlive =>
      rw [CredentialRow.isLiveAt, Bool.and_eq_true, Bool.and_eq_true, beq_iff_eq, beq_iff_eq,
        Option.isNone_iff_eq_none] at hlive
      obtain ⟨⟨rfl, rfl⟩, hnone⟩ := hlive
      exact ⟨rfl, rfl, rfl, .inr ⟨hnone, rfl, nofun⟩⟩
    · exact c.becomes_self _
  unfold softDeleteCredential
  split
  · exact { effects_self _ db with
      credentials_kept := fun c hc => ⟨_, List.mem_map_of_mem hc, hrow c⟩
      credentials_from := by
        intro c' hc'
        obtain ⟨c, hc, rfl⟩ := List.mem_map.mp hc'
        exact .inl ⟨c, hc, hrow c⟩ }
  · exact effects_self _ db

theorem effects_insertCluster (now : Timestamp) (id organizationId : Uuid) (new : NewCluster) :
    db.Effects (.insertCluster organizationId new) (db.insertCluster now id organizationId new).1 := by
  unfold insertCluster
  split
  · exact effects_self _ db
  split
  · exact effects_self _ db
  split
  · exact effects_self _ db
  split
  · exact effects_self _ db
  split
  · exact effects_self _ db
  split
  · exact { effects_self _ db with
      clusters_kept := fun c hc => ⟨c, List.mem_append_left _ hc, c.becomes_self _⟩
      clusters_from := by
        intro c hc
        rcases List.mem_append.mp hc with hc | hc
        · exact .inl ⟨c, hc, c.becomes_self _⟩
        · rw [List.mem_singleton.mp hc]
          exact .inr ⟨new, now, rfl, rfl⟩ }
  · exact effects_self _ db

theorem effects_storeIdempotency {call : FleetCall} (row : IdempotencyKey) :
    db.Effects call (db.storeIdempotency row).1 := by
  unfold storeIdempotency
  split
  · exact effects_self _ db
  split
  · exact effects_self _ db
  · exact { effects_self _ db with
      idempotencyKeys_kept := List.prefix_append _ _ }

theorem isAt_iff {c : ClusterRow} {organizationId id : Uuid} :
    c.isAt organizationId id = true ↔ c.id = id ∧ c.organizationId = organizationId := by
  rw [ClusterRow.isAt, Bool.and_eq_true, beq_iff_eq, beq_iff_eq]

theorem isLiveAt_iff {c : ClusterRow} {organizationId id : Uuid} :
    c.isLiveAt organizationId id = true ↔
      c.id = id ∧ c.organizationId = organizationId ∧ c.deletedAt = none := by
  rw [ClusterRow.isLiveAt, Bool.and_eq_true, isAt_iff, Option.isNone_iff_eq_none, and_assoc]

theorem effects_updateStatus {call : FleetCall} (now : Timestamp) (organizationId id : Uuid)
    (status : ClusterStatus) (reason : Option String) :
    db.Effects call (db.updateStatus now organizationId id status reason).1 := by
  unfold updateStatus
  split
  · dsimp only
    apply effects_updateClusters
    intro c _
    exact ⟨rfl, rfl, rfl, rfl, .inl rfl, .inl rfl⟩
  · exact effects_self _ db

theorem effects_updateWorkerCount {call : FleetCall} (now : Timestamp) (organizationId id : Uuid)
    (workerCount : Int) :
    db.Effects call (db.updateWorkerCount now organizationId id workerCount).1 := by
  unfold updateWorkerCount
  split
  · dsimp only
    apply effects_updateClusters
    intro c _
    exact ⟨rfl, rfl, rfl, rfl, .inl rfl, .inl rfl⟩
  · exact effects_self _ db

theorem effects_softDelete (now : Timestamp) (organizationId id : Uuid) :
    db.Effects (.onCluster organizationId id .softDelete) (db.softDelete now organizationId id) := by
  apply effects_updateClusters
  intro c hwanted
  obtain ⟨rfl, rfl, hlive⟩ := isLiveAt_iff.mp hwanted
  exact ⟨rfl, rfl, rfl, rfl, .inr ⟨hlive, rfl, nofun⟩, .inl rfl⟩

theorem effects_setKubeconfigSecret (now : Timestamp) (organizationId id secretId : Uuid) :
    db.Effects (.onCluster organizationId id (.setKubeconfigSecret secretId))
      (db.setKubeconfigSecret now organizationId id secretId).1 := by
  unfold setKubeconfigSecret
  split
  · exact effects_self _ db
  split
  · dsimp only
    apply effects_updateClusters
    intro c hwanted
    rw [takesKubeconfig, Bool.and_eq_true, Bool.or_eq_true, Option.isNone_iff_eq_none, beq_iff_eq]
      at hwanted
    obtain ⟨hlive, hfree⟩ := hwanted
    rw [isLiveAt_iff] at hlive
    obtain ⟨rfl, rfl, hnone⟩ := hlive
    refine ⟨rfl, rfl, rfl, rfl, .inl rfl, .inr ⟨hnone, _, rfl, rfl, ?_⟩⟩
    rcases hfree with hfree | hsame
    · rw [ClusterRow.secretRef, hfree]
      exact .inl rfl
    · rw [ClusterRow.secretRef, hsame]
      exact .inr rfl
  · exact effects_self _ db

theorem effects_onCluster (store : PgcryptoStore) (x : FleetOutcome) (organizationId id : Uuid)
    (c : CloudCall) :
    db.Effects (.onCluster organizationId id c) (db.executeOnCluster store x organizationId id c).1 := by
  cases c with
  | updateStatus status reason =>
    exact effects_updateStatus _ organizationId id status reason
  | updateWorkerCount workerCount =>
    exact effects_updateWorkerCount _ organizationId id workerCount
  | softDelete => exact effects_softDelete _ organizationId id
  | setKubeconfigSecret secretId => exact effects_setKubeconfigSecret _ organizationId id secretId
  | putSecret plaintext => exact effects_putSecret store organizationId plaintext x.draw
  | deleteSecret secretId => exact effects_deleteSecret rfl
  | _ => exact effects_self _ db

theorem effects_execute (store : PgcryptoStore) (x : FleetOutcome) (call : FleetCall) :
    db.Effects call (db.execute store x call).1 := by
  cases call with
  | putSecret organizationId plaintext =>
    exact effects_putSecret store organizationId plaintext x.draw
  | deleteSecret handle => exact effects_deleteSecret rfl
  | insertCredential organizationId credentialAlias secretRef =>
    exact effects_insertCredential _ _ organizationId credentialAlias secretRef
  | softDeleteCredential organizationId id =>
    exact effects_softDeleteCredential _ organizationId id
  | insertCluster organizationId new => exact effects_insertCluster _ _ organizationId new
  | storeIdempotency row => exact effects_storeIdempotency row
  | onCluster organizationId id c => exact effects_onCluster store x organizationId id c
  | now | getCredential | getCluster | lookupIdempotency | spawn => exact effects_self _ db

/-- A call takes effect or changes nothing. -/
theorem answer_world (store : PgcryptoStore) (call : FleetCall) (x : FleetOutcome) :
    x.reply = .failed ∧ (db.answer store call x).1 = db ∨
      x.reply ≠ .failed ∧ (db.answer store call x).1 = (db.execute store x call).1 := by
  unfold answer
  cases x.reply with
  | failed => exact .inl ⟨rfl, rfl⟩
  | ok | lost => exact .inr ⟨nofun, rfl⟩

theorem effects_answer (store : PgcryptoStore) (call : FleetCall) (x : FleetOutcome) :
    db.Effects call (db.answer store call x).1 := by
  rcases answer_world store call x with ⟨-, hsame⟩ | ⟨-, heffect⟩
  · rw [hsame]
    exact effects_self call db
  · rw [heffect]
    exact effects_execute store x call

/-- An answer comes from the tables, or from a broken connection. -/
theorem answer_reply (store : PgcryptoStore) (call : FleetCall) (x : FleetOutcome) :
    x.reply = .ok ∧ db.answer store call x = db.execute store x call ∨
      x.reply ≠ .ok ∧ (db.answer store call x).2 = brokenAnswer x call := by
  unfold answer
  cases x.reply with
  | ok => exact .inl ⟨rfl, rfl⟩
  | failed | lost => exact .inr ⟨nofun, rfl⟩

theorem Effects.handles_kept {call : FleetCall} (h : db.Effects call db') {handle : SecretRef}
    (href : handle ∈ db.handles) : handle ∈ db'.handles := by
  rcases List.mem_append.mp href with hcredential | hcluster
  · obtain ⟨c, hc, rfl⟩ := List.mem_map.mp hcredential
    obtain ⟨c', hc', hbecomes⟩ := h.credentials_kept c hc
    refine List.mem_append_left _ (List.mem_map.mpr ⟨c', hc', ?_⟩)
    rw [CredentialRow.secretRef, hbecomes.secretId, hbecomes.organizationId]
    rfl
  · obtain ⟨c, hc, hsecret⟩ := List.mem_filterMap.mp hcluster
    obtain ⟨c', hc', hbecomes⟩ := h.clusters_kept c hc
    exact List.mem_append_right _ (List.mem_filterMap.mpr ⟨c', hc', hbecomes.keeps_secretRef hsecret⟩)

theorem Effects.handles_from {call : FleetCall} (h : db.Effects call db') {handle : SecretRef}
    (href : handle ∈ db'.handles) : handle ∈ db.handles ∨ call.records = some handle := by
  rcases List.mem_append.mp href with hcredential | hcluster
  · obtain ⟨c', hc', rfl⟩ := List.mem_map.mp hcredential
    rcases h.credentials_from c' hc' with ⟨c, hc, hbecomes⟩ | hnew
    · refine .inl (List.mem_append_left _ (List.mem_map.mpr ⟨c, hc, ?_⟩))
      rw [CredentialRow.secretRef, CredentialRow.secretRef, hbecomes.secretId, hbecomes.organizationId]
    · exact .inr hnew
  · obtain ⟨c', hc', hsecret⟩ := List.mem_filterMap.mp hcluster
    rcases h.clusters_from c' hc' with ⟨c, hc, hbecomes⟩ | ⟨new, now, -, hrow⟩
    · rcases hbecomes.kubeconfig with hsame | ⟨-, recorded, hrecords, hnew, -⟩
      · exact .inl (List.mem_append_right _ (List.mem_filterMap.mpr ⟨c, hc, hsame ▸ hsecret⟩))
      · exact .inr (hrecords.trans (hnew.symm.trans hsecret))
    · rw [hrow] at hsecret
      cases hsecret

end FleetDb

end Kubinate.Fleet
