import Kubinate.Fleet.Custody
import Kubinate.Secrets.Paging

/-!
# What a deletion leaves of a secret

`HetznerCredentialService::delete` and `finalize_destroy` soft-delete a row and then (or before)
ask the secret store to delete the secret that the row refers to. The row stays, and its foreign
key goes on restricting the delete. So the secret stays in the table, the transaction of the
store's `delete` is rolled back, and only its error is logged.
-/

namespace Kubinate.Fleet

open Platform Library Secrets Clusters

/-! ## What is to be erased -/

/-- The deletions, with the statement that soft-deletes the row. -/
def FleetJob.softDeletes : FleetJob → Option FleetCall
  | .deleteCredential organizationId id => some (.softDeleteCredential organizationId id)
  | .finalizeDestroy organizationId id => some (.onCluster organizationId id .softDelete)
  | _ => none

def FleetJob.isFinalize : FleetJob → Bool
  | .finalizeDestroy .. => true
  | _ => false

/-- The secret that the row of a deletion refers to. -/
def FleetDb.referredBy (db : FleetDb) : FleetJob → List SecretRef
  | .deleteCredential organizationId id =>
    (db.credentials.filter fun c => c.id == id && c.organizationId == organizationId).map (·.secretRef)
  | .finalizeDestroy organizationId id =>
    (db.clusters.filter (·.isAt organizationId id)).filterMap (·.secretRef)
  | _ => []

/-- No secret that the row refers to is found any more. -/
def FleetDb.Erased (store : PgcryptoStore) (db : FleetDb) (j : FleetJob) : Prop :=
  ∀ handle ∈ db.referredBy j, db.getSecret store handle = .error (.notFound handle.id)

/-! ## Rows along a run -/

section Rows

theorem mem_referredBy_credential {db : FleetDb} {organizationId id : Uuid} {handle : SecretRef} :
    handle ∈ db.referredBy (.deleteCredential organizationId id) ↔
      ∃ c ∈ db.credentials, c.id = id ∧ c.organizationId = organizationId ∧ c.secretRef = handle := by
  simp [FleetDb.referredBy, and_assoc]

theorem mem_referredBy_cluster {db : FleetDb} {organizationId id : Uuid} {handle : SecretRef} :
    handle ∈ db.referredBy (.finalizeDestroy organizationId id) ↔
      ∃ c ∈ db.clusters, c.id = id ∧ c.organizationId = organizationId ∧
        c.secretRef = some handle := by
  simp [FleetDb.referredBy, FleetDb.isAt_iff, and_assoc]

theorem CredentialRow.Becomes.secretRef {call : FleetCall} {c c' : CredentialRow}
    (h : c.Becomes call c') : c'.secretRef = c.secretRef := by
  rw [CredentialRow.secretRef, CredentialRow.secretRef, h.secretId, h.organizationId]

/-- A reference stays. -/
theorem referredBy_kept {j : FleetJob} {handle : SecretRef} (db db' : FleetDb) (c : FleetCall)
    (h : db.Effects c db') (href : handle ∈ db.referredBy j) : handle ∈ db'.referredBy j := by
  cases j with
  | deleteCredential organizationId id =>
    rw [mem_referredBy_credential] at href ⊢
    obtain ⟨row, hrow, hid, htenant, rfl⟩ := href
    obtain ⟨row', hrow', hbecomes⟩ := h.credentials_kept row hrow
    exact ⟨row', hrow', hbecomes.id.trans hid, hbecomes.organizationId.trans htenant,
      hbecomes.secretRef⟩
  | finalizeDestroy organizationId id =>
    rw [mem_referredBy_cluster] at href ⊢
    obtain ⟨row, hrow, hid, htenant, hsecret⟩ := href
    obtain ⟨row', hrow', hbecomes⟩ := h.clusters_kept row hrow
    exact ⟨row', hrow', hbecomes.id.trans hid, hbecomes.organizationId.trans htenant,
      hbecomes.keeps_secretRef hsecret⟩
  | _ => cases href

theorem mem_handles_of_referredBy {db : FleetDb} {j : FleetJob} {handle : SecretRef}
    (h : handle ∈ db.referredBy j) : handle ∈ db.handles := by
  cases j with
  | deleteCredential organizationId id =>
    obtain ⟨row, hrow, -, -, rfl⟩ := mem_referredBy_credential.mp h
    exact List.mem_append_left _ (List.mem_map_of_mem hrow)
  | finalizeDestroy organizationId id =>
    obtain ⟨row, hrow, -, -, hsecret⟩ := mem_referredBy_cluster.mp h
    exact List.mem_append_right _ (List.mem_filterMap.mpr ⟨row, hrow, hsecret⟩)
  | _ => cases h

/-- A secret in the table is found. -/
theorem getSecret_ne_notFound {db : FleetDb} {handle : SecretRef} (store : PgcryptoStore)
    (h : db.Holds handle) : db.getSecret store handle ≠ .error (.notFound handle.id) := by
  obtain ⟨row, hrow, hid, htenant⟩ := h
  have hfound : db.secretsDb.secrets.select (.app handle.organizationId) handle.id = some row := by
    rw [← hid]
    refine SecretsTable.select_eq_some hrow ?_
    rw [Session.sees, htenant]
    exact beq_self_eq_true _
  unfold FleetDb.getSecret PgcryptoStore.get
  rw [hfound]
  dsimp only
  split
  · next text _ =>
    unfold decryptOrDb
    dsimp only
    split
    · intro heq
      cases heq
    · intro heq
      cases heq
  · intro heq
    cases heq

/-- So only what nothing refers to is erased. -/
theorem erased_iff_unreferenced {db : FleetDb} {store : PgcryptoStore} {j : FleetJob}
    (hheld : ∀ handle ∈ db.handles, db.Holds handle) :
    db.Erased store j ↔ db.referredBy j = [] := by
  constructor
  · intro herased
    refine List.eq_nil_iff_forall_not_mem.mpr fun handle href => ?_
    exact getSecret_ne_notFound store (hheld handle (mem_handles_of_referredBy href))
      (herased handle href)
  · intro hnone handle href
    rw [hnone] at href
    cases href

end Rows

/-! ## The two deletions -/

/-- What a deletion that succeeds has called. -/
def FleetJob.Ended : FleetJob → Trace fleet → Except RunError FleetReply → Prop
  | .deleteCredential organizationId id, τ, r => r = .ok .done →
    ∃ credential τ₂, τ = ⟨.getCredential organizationId id, .ok credential⟩ :: τ₂
  | .finalizeDestroy organizationId id, τ, r => r = .ok .done →
    ∃ secretId gone, τ = ⟨.onCluster organizationId id .kubeconfigSecret, .ok secretId⟩ :: gone ++
      [⟨.onCluster organizationId id .softDelete, .ok ()⟩,
        ⟨.onCluster organizationId id (.updateStatus .destroyed none), .ok ()⟩]
  | _, _, _ => True

theorem delete_ended (api : Api) (organizationId id : Uuid) :
    Meets (I := fleet) (fun _ _ => True) (fun _ _ _ => True)
      (FleetJob.Ended (.deleteCredential organizationId id))
      (FleetJob.program api (.deleteCredential organizationId id)) [] := by
  refine ⟨trivial, fun r _ => ?_⟩
  rcases r with e | credential
  · nofun
  refine ⟨trivial, fun r _ => ?_⟩
  rcases r with e | ⟨⟩
  · nofun
  exact ⟨trivial, fun deleted _ _ => ⟨credential, _, rfl⟩⟩

theorem finalizeDestroy_ended (api : Api) (organizationId id : Uuid) :
    Meets (I := fleet) (fun _ _ => True) (fun _ _ _ => True)
      (FleetJob.Ended (.finalizeDestroy organizationId id))
      (FleetJob.program api (.finalizeDestroy organizationId id)) [] := by
  refine ⟨trivial, fun r _ => ?_⟩
  rcases r with e | _ | secretId
  · nofun
  · refine ⟨trivial, fun r _ => ?_⟩
    rcases r with e | ⟨⟩
    · nofun
    refine ⟨trivial, fun r _ => ?_⟩
    rcases r with e | ⟨⟩
    · nofun
    exact fun _ => ⟨none, [], rfl⟩
  · refine ⟨trivial, fun deleted _ => ⟨trivial, fun r _ => ?_⟩⟩
    rcases r with e | ⟨⟩
    · nofun
    refine ⟨trivial, fun r _ => ?_⟩
    rcases r with e | ⟨⟩
    · nofun
    exact fun _ => ⟨some secretId, [⟨.onCluster organizationId id (.deleteSecret secretId), deleted⟩], rfl⟩

theorem program_ended (api : Api) (j : FleetJob) :
    Meets (I := fleet) (fun _ _ => True) (fun _ _ _ => True) j.Ended (j.program api) [] := by
  cases j with
  | deleteCredential organizationId id => exact delete_ended api organizationId id
  | finalizeDestroy organizationId id => exact finalizeDestroy_ended api organizationId id
  | _ => exact meets_mono (meets_true _) (fun _ _ h => h) fun _ _ _ => trivial

section Deletions

variable {api : Api} {db : FleetDb} {as : List (Act FleetJob FleetOutcome)} {s : FleetState}
  {i : Nat} {organizationId id : Uuid} {τ : Trace fleet}

/-- The credential that `delete` has read still has its row. -/
theorem referredBy_of_delete (hrun : (fleetPool api).exec (Pool.init db) as = some s)
    (hslot : s.slot i = some (.deleteCredential organizationId id, τ))
    (hresult : s.result i = some (.ok .done)) :
    s.world.referredBy (.deleteCredential organizationId id) ≠ [] := by
  obtain ⟨credential, τ₂, rfl⟩ := Pool.exec_ends (program_ended api) hrun hslot hresult rfl
  obtain ⟨as₁, x, as₂, s₁, s₂, -, h₁, hcalls, h₂⟩ := Pool.exec_moment hrun
    (show s.slot _ = some (_, [] ++ _ :: _) from hslot)
  have hanswer := @FleetDb.answer_reply s₁.world api.store
    (.getCredential organizationId id) x
  rw [answer_of_calls hcalls] at hanswer
  rcases hanswer with ⟨-, hreply⟩ | ⟨-, hbroken⟩
  · obtain ⟨hworld, hcredential⟩ := Prod.mk.inj hreply
    obtain ⟨row, hrow, hlive, -⟩ := getCredential_ok hcredential.symm
    rw [CredentialRow.isLiveAt, Bool.and_eq_true, Bool.and_eq_true, beq_iff_eq, beq_iff_eq] at hlive
    have href : row.secretRef ∈ s₁.world.referredBy (.deleteCredential organizationId id) :=
      mem_referredBy_credential.mpr ⟨row, hrow, hlive.1.1, hlive.1.2, rfl⟩
    have hlater := exec_effects (P := fun db => row.secretRef ∈ db.referredBy _) referredBy_kept h₂
      (referredBy_kept _ _ _ (effects_of_calls hcalls) href)
    exact List.ne_nil_of_mem hlater
  · cases hbroken

/-- The row of a cluster that `finalize_destroy` has left without a secret. -/
def FleetDb.Forgotten (organizationId id : Uuid) (db : FleetDb) : Prop :=
  ∃ c ∈ db.clusters, c.id = id ∧ c.organizationId = organizationId ∧ c.deletedAt ≠ none ∧
    c.secretRef = none

theorem forgotten_kept (db db' : FleetDb) (c : FleetCall) (h : db.Effects c db')
    (hdb : db.Forgotten organizationId id) : db'.Forgotten organizationId id := by
  obtain ⟨row, hrow, hid, htenant, hdeleted, hsecret⟩ := hdb
  obtain ⟨row', hrow', hbecomes⟩ := h.clusters_kept row hrow
  obtain ⟨hdeleted', hsecret'⟩ := hbecomes.stays_deleted hdeleted
  exact ⟨row', hrow', hbecomes.id.trans hid, hbecomes.organizationId.trans htenant, hdeleted',
    hsecret'.trans hsecret⟩

/-- There is one row with this id. -/
theorem referredBy_of_forgotten (hdb : db.Forgotten organizationId id) :
    db.referredBy (.finalizeDestroy organizationId id) = [] := by
  obtain ⟨row, hrow, hid, -, -, hsecret⟩ := hdb
  refine List.eq_nil_iff_forall_not_mem.mpr fun handle href => ?_
  obtain ⟨row', hrow', hid', -, hsecret'⟩ := mem_referredBy_cluster.mp href
  obtain rfl : row' = row := List.inj_on_of_nodup_map db.clusterKey hrow' hrow (hid'.trans hid.symm)
  rw [hsecret] at hsecret'
  cases hsecret'

theorem deleted_of_softDelete {now : Timestamp} {c : ClusterRow}
    (h : c ∈ (db.softDelete now organizationId id).clusters) (hid : c.id = id)
    (htenant : c.organizationId = organizationId) : c.deletedAt ≠ none := by
  obtain ⟨row, -, rfl⟩ := List.mem_map.mp h
  split
  · nofun
  · next hdead =>
    intro hlive
    rw [if_neg hdead] at hid htenant
    exact hdead (FleetDb.isLiveAt_iff.mpr ⟨hid, htenant, hlive⟩)

/-- A statement that soft-deletes a cluster without a secret leaves it without one. -/
theorem forgotten_of_softDelete {db' : FleetDb} {x : FleetOutcome} {store : PgcryptoStore}
    (h : db.answer store (.onCluster organizationId id .softDelete) x = (db', Except.ok ()))
    (hrow : ∃ c ∈ db.clusters, c.id = id ∧ c.organizationId = organizationId)
    (hnone : db.referredBy (.finalizeDestroy organizationId id) = []) :
    db'.Forgotten organizationId id := by
  have heffects := @FleetDb.effects_answer db store
    (.onCluster organizationId id .softDelete) x
  rw [h] at heffects
  obtain ⟨row, hrow, hid, htenant⟩ := hrow
  have hsecret : row.secretRef = none := by
    cases hsecret : row.secretRef with
    | none => rfl
    | some handle =>
      have href := mem_referredBy_cluster.mpr ⟨row, hrow, hid, htenant, hsecret⟩
      rw [hnone] at href
      cases href
  obtain ⟨row', hrow', hbecomes⟩ := heffects.clusters_kept row hrow
  refine ⟨row', hrow', hbecomes.id.trans hid, hbecomes.organizationId.trans htenant, ?_, ?_⟩
  · -- the update has found the row, or the row was deleted before
    have hanswer := @FleetDb.answer_reply db store (.onCluster organizationId id .softDelete) x
    rw [h] at hanswer
    rcases hanswer with ⟨-, hreply⟩ | ⟨-, hbroken⟩
    · obtain ⟨rfl, -⟩ := Prod.mk.inj hreply
      exact deleted_of_softDelete hrow' (hbecomes.id.trans hid) (hbecomes.organizationId.trans htenant)
    · cases hbroken
  · rcases hbecomes.kubeconfig with hsame | ⟨-, handle, hrecords, -⟩
    · rw [hsame, hsecret]
    · cases hrecords

/-- At every moment at which the deletion makes its soft delete, the row refers to no secret. -/
def DeletesUnreferenced (api : Api) (db : FleetDb) (as : List (Act FleetJob FleetOutcome)) (i : Nat)
    (j : FleetJob) : Prop :=
  ∀ as₁ x as₂ s₁, as = as₁ ++ .step i x :: as₂ →
    (fleetPool api).exec (Pool.init db) as₁ = some s₁ → s₁.nextCall i = j.softDeletes →
    s₁.world.referredBy j = []

/-- What a row refers to stays referred to, so the other direction holds for both. -/
theorem unreferenced_of_erased {j : FleetJob} (hdb : ∀ handle ∈ db.handles, db.Holds handle)
    (hrun : (fleetPool api).exec (Pool.init db) as = some s) (herased : s.world.Erased api.store j) :
    DeletesUnreferenced api db as i j := by
  intro as₁ x as₂ s₁ has h₁ _
  have hnone := (erased_iff_unreferenced (exec_kept hdb hrun).owned).mp herased
  refine List.eq_nil_iff_forall_not_mem.mpr fun handle href => ?_
  rw [has, Pool.exec_append, h₁, Option.bind_some] at hrun
  have hlater := exec_effects (P := fun db => handle ∈ db.referredBy j) referredBy_kept hrun href
  rw [hnone] at hlater
  cases hlater

theorem erased_of_unreferenced (hdb : ∀ handle ∈ db.handles, db.Holds handle)
    (hrun : (fleetPool api).exec (Pool.init db) as = some s)
    (hslot : s.slot i = some (.finalizeDestroy organizationId id, τ))
    (hresult : s.result i = some (.ok .done))
    (h : DeletesUnreferenced api db as i (.finalizeDestroy organizationId id)) :
    s.world.Erased api.store (.finalizeDestroy organizationId id) := by
  refine (erased_iff_unreferenced (exec_kept hdb hrun).owned).mpr ?_
  obtain ⟨secretId, gone, hτ⟩ := Pool.exec_ends (program_ended api) hrun hslot hresult rfl
  rw [hτ] at hslot
  obtain ⟨as₁, x, as₂, s₁, s₂, has, h₁, hcalls, h₂⟩ := Pool.exec_moment hrun hslot
  -- the row was there when the run has read it
  have hrow : ∃ c ∈ s₁.world.clusters, c.id = id ∧ c.organizationId = organizationId := by
    obtain ⟨bs₁, y, bs₂, t₁, t₂, -, -, hread, hlater⟩ := Pool.exec_moment h₁
      (show s₁.slot _ = some (_, [] ++ _ :: _) from hcalls.slot)
    have hanswer := @FleetDb.answer_reply t₁.world api.store
      (.onCluster organizationId id .kubeconfigSecret) y
    rw [answer_of_calls hread] at hanswer
    rcases hanswer with ⟨-, hreply⟩ | ⟨-, hbroken⟩
    · obtain ⟨hworld, hsecret⟩ := Prod.mk.inj hreply
      obtain ⟨row, hrow, hlive, -⟩ := kubeconfigSecret_ok hsecret.symm
      obtain ⟨hid, htenant, -⟩ := FleetDb.isLiveAt_iff.mp hlive
      refine exec_effects (P := fun db => ∃ c ∈ db.clusters, c.id = id ∧
        c.organizationId = organizationId) ?_ hlater ⟨row, hworld ▸ hrow, hid, htenant⟩
      rintro db db' c heffects ⟨row, hrow, hid, htenant⟩
      obtain ⟨row', hrow', hbecomes⟩ := heffects.clusters_kept row hrow
      exact ⟨row', hrow', hbecomes.id.trans hid, hbecomes.organizationId.trans htenant⟩
    · cases hbroken
  have hnone := h as₁ x as₂ s₁ has h₁ hcalls.nextCall
  have hforgotten := forgotten_of_softDelete (answer_of_calls hcalls) hrow hnone
  exact referredBy_of_forgotten (exec_effects forgotten_kept h₂ hforgotten)

/-- In every run, from a database whose rows refer to secrets of their own tenant: after a deletion
has ended with success, the secrets that its row refers to are no longer found if and only if it is
a `finalize_destroy` whose soft delete has found the row without a secret. -/
theorem erased_iff {j : FleetJob} (hdb : ∀ handle ∈ db.handles, db.Holds handle)
    (hrun : (fleetPool api).exec (Pool.init db) as = some s) (hslot : s.slot i = some (j, τ))
    (hj : j.softDeletes ≠ none) (hresult : s.result i = some (.ok .done)) :
    s.world.Erased api.store j ↔
      j.isFinalize = true ∧ DeletesUnreferenced api db as i j := by
  cases j with
  | deleteCredential organizationId id =>
    have href := referredBy_of_delete hrun hslot hresult
    constructor
    · intro herased
      exact absurd ((erased_iff_unreferenced (exec_kept hdb hrun).owned).mp herased) href
    · rintro ⟨hfinalize, -⟩
      cases hfinalize
  | finalizeDestroy organizationId id =>
    constructor
    · exact fun herased => ⟨rfl, unreferenced_of_erased hdb hrun herased⟩
    · exact fun ⟨_, hnone⟩ => erased_of_unreferenced hdb hrun hslot hresult hnone
  | _ => exact absurd rfl hj

end Deletions

/-- Organization 7 without credentials and clusters. -/
def emptyFleet : FleetDb where
  organizations := [7]
  secrets := .empty
  credentials := []
  clusters := []
  idempotencyKeys := []
  clusterKey := List.nodup_nil
  secretOfCredential := fun _ h => absurd h List.not_mem_nil
  credentialOfCluster := fun _ h => absurd h List.not_mem_nil
  secretOfCluster := fun _ h => absurd h List.not_mem_nil

theorem holds_emptyFleet (handle : SecretRef) (h : handle ∈ emptyFleet.handles) :
    emptyFleet.Holds handle :=
  absurd h List.not_mem_nil

/-- A deployment whose provider is out of reach. -/
def offlineApi (parse : String → Except String CreateRequest) (sha256 : String → List UInt8) : Api where
  store := clearStore
  newV5 := fun _ => 0
  settings := ⟨"ssh-ed25519 AAAA", "#cloud-config", "v1.30.5+k3s1"⟩
  parse := parse
  sha256 := sha256

/-- A call that goes well, at this time and with this id for what it inserts. -/
def fine (id : Uuid) (now : Timestamp) : FleetOutcome where
  draw := ⟨id, now, ⟨#[1]⟩, ⟨#[2]⟩, ⟨#[3]⟩⟩
  elsewhere := Cloud.broken {}

/-- A credential is stored and deleted again. -/
def deletedCredential : List (Act FleetJob FleetOutcome) :=
  [.start (.createCredential 7 "main" "token"), .step 0 (fine 70 1), .step 0 (fine 71 2),
    .start (.deleteCredential 7 71), .step 1 (fine 0 3), .step 1 (fine 0 4), .step 1 (fine 0 5)]

theorem erased_iff_deletedCredential :
    ∃ s, (fleetPool (offlineApi (fun _ => .error "") fun _ => [])).exec (Pool.init emptyFleet)
        deletedCredential = some s ∧
      s.result 1 = some (.ok .done) ∧ ¬ s.world.Erased clearStore (.deleteCredential 7 71) := by
  have hrun : ((fleetPool (offlineApi (fun _ => .error "") fun _ => [])).exec (Pool.init emptyFleet)
      deletedCredential).any (fun s => decide (s.result 1 = some (.ok .done)) &&
        decide ((s.slot 1).map Prod.fst = some (.deleteCredential 7 71))) = true := by
    decide +kernel
  obtain ⟨s, hs, hrest⟩ := (Option.any_eq_true _ _).mp hrun
  simp only [Bool.and_eq_true, decide_eq_true_eq, Option.map_eq_some_iff] at hrest
  obtain ⟨hresult, ⟨job, τ⟩, hslot, rfl⟩ := hrest
  refine ⟨s, hs, hresult, fun herased => ?_⟩
  obtain ⟨hfinalize, -⟩ := (erased_iff holds_emptyFleet hs hslot (by decide) hresult).mp herased
  cases hfinalize

theorem not_deleted_is_erased :
    ¬ ∀ (api : Api) (db : FleetDb) (as : List (Act FleetJob FleetOutcome)) (s : FleetState) (i : Nat)
      (j : FleetJob), (∀ handle ∈ db.handles, db.Holds handle) →
      (fleetPool api).exec (Pool.init db) as = some s → (s.slot i).map Prod.fst = some j →
      j.softDeletes ≠ none → s.result i = some (.ok .done) → s.world.Erased api.store j := by
  intro hclaim
  have hrun : ((fleetPool (offlineApi (fun _ => .error "") fun _ => [])).exec (Pool.init emptyFleet)
      deletedCredential).any (fun s => decide (s.result 1 = some (.ok .done)) &&
        decide ((s.slot 1).map Prod.fst = some (.deleteCredential 7 71)) &&
        decide (s.world.referredBy (.deleteCredential 7 71) = [⟨70, 7⟩]) &&
        decide (s.world.getSecret clearStore ⟨70, 7⟩ = .ok "token")) = true := by
    decide +kernel
  obtain ⟨s, hs, hrest⟩ := (Option.any_eq_true _ _).mp hrun
  simp only [Bool.and_eq_true, decide_eq_true_eq] at hrest
  obtain ⟨⟨⟨hresult, hslot⟩, href⟩, hread⟩ := hrest
  have herased := hclaim _ _ _ s 1 _ holds_emptyFleet hs hslot (by decide) hresult ⟨70, 7⟩
    (by rw [href]; exact List.mem_cons_self)
  cases hread.symm.trans herased

end Kubinate.Fleet
