import Kubinate.Clusters.Activities
import Kubinate.Fleet.Effects

/-!
# Who can delete a secret

A program deletes a secret only while it holds it (it has put it and has not deleted it since) or
because a row that it was shown refers to it. Two programs never hold the same secret, and a secret
that a row refers to cannot be deleted at all. So what is held and what is referred to is in the
table, under the tenant that the handle names (`Kept`, `exec_kept`).
-/

namespace Kubinate.Fleet

open Platform Library Secrets Clusters

/-! ## What a program knows about secrets -/

/-- The secret that a program holds, and those that rows have shown it. -/
structure Custody where
  held : Option SecretRef := none
  shown : List SecretRef := []

/-- The secret that a call has put. -/
def stored : (c : FleetCall) → c.Answer → Option SecretRef
  | .putSecret .., .ok secretRef => some secretRef
  | .onCluster organizationId _ (.putSecret _), .ok secretId => some ⟨secretId, organizationId⟩
  | _, _ => none

/-- The secret that a row refers to, as a call has found it. -/
def shows : (c : FleetCall) → c.Answer → Option SecretRef
  | .getCredential .., .ok credential => some credential.secretRef
  | .onCluster organizationId _ .kubeconfigSecret, .ok (some secretId) =>
    some ⟨secretId, organizationId⟩
  | _, _ => none

def Custody.next (k : Custody) (c : FleetCall) (r : c.Answer) : Custody where
  held := (stored c r).or (if c.deletes.isSome then none else k.held)
  shown := (shows c r).toList ++ k.shown

structure Custody.Permits (k : Custody) (c : FleetCall) : Prop where
  records : ∀ handle, c.records = some handle → k.held = some handle
  deletes : ∀ handle, c.deletes = some handle → k.held = some handle ∨ handle ∈ k.shown

def custody (τ : Trace fleet) : Custody := τ.foldl (fun k e => k.next e.1 e.2) {}

theorem custody_concat (τ : Trace fleet) (c : FleetCall) (r : c.Answer) :
    custody (τ ++ [⟨c, r⟩]) = (custody τ).next c r := by
  rw [custody, List.foldl_append]
  rfl

/-! ## Programs that keep to this -/

/-- The call neither makes a row refer to a secret nor deletes one. -/
def Plain (c : FleetCall) : Prop := c.records = none ∧ c.deletes = none

theorem Plain.permits {c : FleetCall} (h : Plain c) (k : Custody) : k.Permits c where
  records := by
    intro handle hrecords
    rw [h.1] at hrecords
    cases hrecords
  deletes := by
    intro handle hdeletes
    rw [h.2] at hdeletes
    cases hdeletes

/-- Whatever the program knows at the beginning, it keeps to the rules. -/
def Careful {α : Type} (p : Program fleet α) : Prop :=
  ∀ k, Follows Custody.next Custody.Permits (fun _ _ => True) p k

section Careful

variable {α β ε : Type}

theorem careful_of_makes {p : Program fleet α} (hp : Makes (I := fleet) Plain p) : Careful p :=
  fun k => follows_of_makes (I := fleet) (fun _ => True) hp
    (fun _ k hc _ => ⟨hc.permits k, fun _ => trivial⟩) (s := k) trivial

theorem careful_bind {p : Program fleet α} {f : α → Program fleet β} (hp : Careful p)
    (hf : ∀ a, Careful (f a)) : Careful (p >>= f) :=
  fun k => follows_bind (hp k) fun k a _ => hf a k

variable {organizationId id : Uuid}

/-- Programs for one cluster. -/
theorem carefulOn_bind {p : Program cloud α} {f : α → Program cloud β}
    (hp : Careful (forCluster organizationId id p))
    (hf : ∀ a, Careful (forCluster organizationId id (f a))) :
    Careful (forCluster organizationId id (p >>= f)) := by
  rw [forCluster, Program.embed_bind]
  exact careful_bind hp hf

theorem carefulOn_bindE {p : ExceptT ε (Program cloud) α} {f : α → ExceptT ε (Program cloud) β}
    (hp : Careful (forCluster organizationId id p.run))
    (hf : ∀ a, Careful (forCluster organizationId id (f a).run)) :
    Careful (forCluster organizationId id (p >>= f).run) := by
  refine carefulOn_bind (p := p.run) hp ?_
  rintro (e | a)
  · exact fun _ => trivial
  · exact hf a

theorem carefulOn_iteE {c : Prop} [Decidable c] {p q : ExceptT ε (Program cloud) α}
    (hp : Careful (forCluster organizationId id p.run))
    (hq : Careful (forCluster organizationId id q.run)) :
    Careful (forCluster organizationId id (if c then p else q).run) := by
  split
  · exact hp
  · exact hq

/-- A call of a run that neither makes the row refer to a secret nor deletes one. -/
def PlainOn (c : CloudCall) : Prop :=
  (∀ secretId, c ≠ .setKubeconfigSecret secretId) ∧ ∀ secretId, c ≠ .deleteSecret secretId

theorem carefulOn_makes {p : Program cloud α} (hp : Makes (I := cloud) PlainOn p) :
    Careful (forCluster organizationId id p) := by
  refine careful_of_makes (makes_embed ?_ hp)
  rintro c ⟨hset, hdelete⟩
  cases c with
  | setKubeconfigSecret secretId => exact absurd rfl (hset secretId)
  | deleteSecret secretId => exact absurd rfl (hdelete secretId)
  | _ => exact ⟨rfl, rfl⟩

theorem storeKubeconfig_careful (kubeconfig : String) :
    Careful (forCluster organizationId id (ClusterService.storeKubeconfig kubeconfig).run) := by
  intro k
  refine ⟨Plain.permits ⟨rfl, rfl⟩ k, fun r => ?_⟩
  rcases r with e | secretId
  · trivial
  refine ⟨⟨fun handle h => h, nofun⟩, fun r => ?_⟩
  rcases r with e | ⟨⟩
  · exact ⟨⟨nofun, fun handle h => .inl h⟩, fun _ => trivial⟩
  · trivial

theorem plainOn_repository {α : Type} {p : Program cloud (Except PlatformError α)}
    (hp : Makes (I := cloud) PlainOn p) : Careful (forCluster organizationId id (repository p).run) :=
  carefulOn_makes (makes_attempt hp)

theorem plainOn_call {c : CloudCall} (hc : PlainOn c) : Makes (I := cloud) PlainOn (call c) :=
  makes_call hc

theorem plainOn_ignore {α : Type} {p : Program cloud α} (hp : Makes (I := cloud) PlainOn p) :
    Careful (forCluster organizationId id (ignore p).run) :=
  carefulOn_makes (makes_ignore hp)

theorem finalizeDestroy_careful :
    Careful (forCluster organizationId id ClusterService.finalizeDestroy.run) := by
  have hrest : Careful (forCluster organizationId id (do
      repository (call .softDelete)
      repository (call (.updateStatus .destroyed none)) : Run Unit).run) :=
    carefulOn_bindE (plainOn_repository (plainOn_call ⟨nofun, nofun⟩)) fun _ =>
      plainOn_repository (plainOn_call ⟨nofun, nofun⟩)
  intro k
  refine ⟨Plain.permits ⟨rfl, rfl⟩ k, fun r => ?_⟩
  rcases r with e | _ | secretId
  · trivial
  · exact hrest _
  · -- the secret is the one that the row has shown
    refine ⟨⟨nofun, fun handle h => .inr (List.mem_cons.mpr (.inl ?_))⟩, fun _ => hrest _⟩
    exact Option.some.inj h.symm

theorem plainOn_of_isActivity (c : CloudCall) (h : IsActivity c) : PlainOn c := by
  constructor
  · rintro secretId rfl
    cases h
  · rintro secretId rfl
    cases h

theorem plainOn_publishTerminal (status : ClusterStatus) (reason : Option String) :
    Makes (I := cloud) PlainOn (publishTerminal status reason) := by
  cases status with
  | ready | failed | destroyed => exact plainOn_call ⟨nofun, nofun⟩
  | pending | provisioning | scaling | destroying => trivial

theorem recordServer_plain (role : ClusterNodeRole) (server : HetznerServer) :
    Makes (I := cloud) PlainOn (recordServer role server).run :=
  makes_attempt (plainOn_call ⟨nofun, nofun⟩)

theorem recordServers_careful (servers : List HetznerServer) :
    Careful (forCluster organizationId id (servers.forM (recordServer .worker)).run) :=
  carefulOn_makes (makes_forM (recordServer_plain .worker) servers)

theorem runProvision_careful (newV5 : String → Uuid) (clusterId : Uuid)
    (input : ProvisionClusterInput) :
    Careful (forCluster organizationId id (runProvision newV5 clusterId input).run) := by
  have hcall {c : CloudCall} (hc : PlainOn c) := plainOn_call hc
  unfold runProvision
  refine carefulOn_bindE (carefulOn_makes (makes_lift (hcall ⟨nofun, nofun⟩))) fun workflowRow => ?_
  refine carefulOn_bindE (plainOn_repository (hcall ⟨nofun, nofun⟩)) fun _ => ?_
  refine carefulOn_bindE (plainOn_repository (hcall ⟨nofun, nofun⟩)) fun _ => ?_
  refine carefulOn_bindE (carefulOn_makes (makes_lift ((provisionCluster_makes (.inr ⟨_, rfl⟩)
    input).mono plainOn_of_isActivity))) fun result => ?_
  cases result with
  | ok output =>
    refine carefulOn_bindE (plainOn_repository (hcall ⟨nofun, nofun⟩)) fun _ => ?_
    refine carefulOn_bindE (recordServers_careful output.workers) fun _ => ?_
    refine carefulOn_bindE (storeKubeconfig_careful _) fun _ => ?_
    refine carefulOn_bindE (plainOn_repository (hcall ⟨nofun, nofun⟩)) fun _ => ?_
    refine carefulOn_bindE (plainOn_repository (hcall ⟨nofun, nofun⟩)) fun _ => ?_
    exact plainOn_ignore (plainOn_publishTerminal _ _)
  | error err =>
    refine carefulOn_bindE (plainOn_ignore (hcall ⟨nofun, nofun⟩)) fun _ => ?_
    refine carefulOn_bindE (plainOn_ignore (hcall ⟨nofun, nofun⟩)) fun _ => ?_
    refine carefulOn_bindE (plainOn_ignore (plainOn_publishTerminal _ _)) fun _ => ?_
    exact fun _ => trivial

theorem runDestroy_careful :
    Careful (forCluster organizationId id runDestroy.run) := by
  have hcall {c : CloudCall} (hc : PlainOn c) := plainOn_call hc
  have hbegin : Careful (forCluster organizationId id ClusterService.beginDestroy.run) := by
    refine carefulOn_bindE (plainOn_repository (hcall ⟨nofun, nofun⟩)) fun cluster => ?_
    refine carefulOn_iteE (fun _ => trivial) ?_
    exact carefulOn_bindE (plainOn_repository (hcall ⟨nofun, nofun⟩)) fun _ _ => trivial
  unfold runDestroy
  refine carefulOn_bindE hbegin fun _ => ?_
  refine carefulOn_bindE (plainOn_repository (hcall ⟨nofun, nofun⟩)) fun servers => ?_
  refine carefulOn_bindE (carefulOn_makes (makes_lift ((destroyCluster_makes _).mono
    fun c hc => plainOn_of_isActivity c hc.1))) fun result => ?_
  cases result with
  | error err =>
    refine carefulOn_bindE (plainOn_ignore (hcall ⟨nofun, nofun⟩)) fun _ => ?_
    refine carefulOn_bindE (plainOn_ignore (plainOn_publishTerminal _ _)) fun _ => ?_
    exact fun _ => trivial
  | ok =>
    refine carefulOn_bindE (plainOn_repository (hcall ⟨nofun, nofun⟩)) fun _ => ?_
    refine carefulOn_bindE finalizeDestroy_careful fun _ => ?_
    exact plainOn_ignore (plainOn_publishTerminal _ _)

theorem runScaleOut_careful (newV5 : String → Uuid) (clusterId : Uuid) (count : Nat)
    (clusterName location serverType sshKey userData k3sVersion : String) :
    Careful (forCluster organizationId id (runScaleOut newV5 clusterId count clusterName location
      serverType sshKey userData k3sVersion).run) := by
  have hcall {c : CloudCall} (hc : PlainOn c) := plainOn_call hc
  unfold runScaleOut
  refine carefulOn_bindE (plainOn_repository (hcall ⟨nofun, nofun⟩)) fun _ => ?_
  refine carefulOn_bindE (plainOn_repository (hcall ⟨nofun, nofun⟩)) fun servers => ?_
  split
  · exact fun _ => trivial
  split
  · exact fun _ => trivial
  refine carefulOn_bindE (carefulOn_makes (makes_attempt (hcall ⟨nofun, nofun⟩))) fun joinToken => ?_
  refine carefulOn_bindE (carefulOn_makes (makes_lift ((scaleOut_makes _).mono
    fun c hc => plainOn_of_isActivity c hc.1))) fun result => ?_
  cases result with
  | ok workers =>
    refine carefulOn_bindE (recordServers_careful workers) fun _ => ?_
    refine carefulOn_bindE (plainOn_repository (hcall ⟨nofun, nofun⟩)) fun _ => ?_
    exact plainOn_ignore (plainOn_publishTerminal _ _)
  | error err =>
    refine carefulOn_bindE (plainOn_ignore (hcall ⟨nofun, nofun⟩)) fun _ => ?_
    refine carefulOn_bindE (plainOn_ignore (plainOn_publishTerminal _ _)) fun _ => ?_
    exact fun _ => trivial

theorem runScaleIn_careful (clusterId : Uuid) (clusterName : String) (count : Nat) :
    Careful (forCluster organizationId id (runScaleIn clusterId clusterName count).run) := by
  have hcall {c : CloudCall} (hc : PlainOn c) := plainOn_call hc
  have hfetch : Careful (forCluster organizationId id
      (ClusterService.fetchKubeconfig clusterId).run) := by
    refine carefulOn_bindE (plainOn_repository (hcall ⟨nofun, nofun⟩)) fun secretId => ?_
    cases secretId with
    | none => exact fun _ => trivial
    | some secretId => exact plainOn_repository (hcall ⟨nofun, nofun⟩)
  have hremove (row : Uuid) : Makes (I := cloud) PlainOn
      (ignore (call (.softDeleteServerRow row))).run :=
    makes_ignore (hcall ⟨nofun, nofun⟩)
  unfold runScaleIn
  refine carefulOn_bindE (plainOn_repository (hcall ⟨nofun, nofun⟩)) fun _ => ?_
  refine carefulOn_bindE (plainOn_repository (hcall ⟨nofun, nofun⟩)) fun servers => ?_
  refine carefulOn_bindE hfetch fun kubeconfig => ?_
  refine carefulOn_bindE (carefulOn_makes (makes_lift (hcall ⟨nofun, nofun⟩))) fun fileId => ?_
  refine carefulOn_bindE (carefulOn_makes (makes_attempt (hcall ⟨nofun, nofun⟩))) fun _ => ?_
  refine carefulOn_bindE (carefulOn_makes (makes_lift ((scaleIn_makes _ _).mono
    fun c hc => plainOn_of_isActivity c hc.1))) fun result => ?_
  refine carefulOn_bindE (plainOn_ignore (hcall ⟨nofun, nofun⟩)) fun _ => ?_
  cases result with
  | ok =>
    refine carefulOn_bindE (carefulOn_makes (makes_forM (fun (r : ClusterServer) => hremove r.id) _)) fun _ => ?_
    refine carefulOn_bindE (plainOn_repository (hcall ⟨nofun, nofun⟩)) fun _ => ?_
    exact plainOn_ignore (plainOn_publishTerminal _ _)
  | error err =>
    refine carefulOn_bindE (plainOn_ignore (hcall ⟨nofun, nofun⟩)) fun _ => ?_
    refine carefulOn_bindE (plainOn_ignore (plainOn_publishTerminal _ _)) fun _ => ?_
    exact fun _ => trivial

theorem scaleWorkers_careful (settings : ClusterSettings) (delta : Int) :
    Careful (forCluster organizationId id (scaleWorkers settings delta).run) := by
  have hcall {c : CloudCall} (hc : PlainOn c) := plainOn_call hc
  unfold scaleWorkers
  refine carefulOn_bindE (plainOn_repository (hcall ⟨nofun, nofun⟩)) fun cluster => ?_
  refine carefulOn_iteE (fun _ => trivial) ?_
  refine carefulOn_iteE (fun _ => trivial) ?_
  refine carefulOn_iteE (fun _ => trivial) ?_
  refine carefulOn_bindE (plainOn_repository (hcall ⟨nofun, nofun⟩)) fun _ => ?_
  refine carefulOn_bindE (plainOn_repository (hcall ⟨nofun, nofun⟩)) fun _ => ?_
  refine carefulOn_iteE ?_ ?_
  · exact plainOn_ignore (hcall ⟨nofun, nofun⟩)
  · exact plainOn_ignore (hcall ⟨nofun, nofun⟩)

theorem run_careful (job : ClusterJob) (D : Deployment) :
    Careful (forCluster organizationId id (job.program D)) := by
  refine carefulOn_bind ?_ fun _ _ => trivial
  cases job with
  | provision input => exact runProvision_careful _ _ input
  | destroy => exact runDestroy_careful
  | scaleOut count clusterName location serverType sshKey userData k3sVersion =>
    exact runScaleOut_careful _ _ count clusterName location serverType sshKey userData k3sVersion
  | scaleIn clusterName count => exact runScaleIn_careful _ clusterName count
  | scaleWorkers delta => exact scaleWorkers_careful _ delta

theorem ask_plain {c : FleetCall} (hc : Plain c) : Makes (I := fleet) Plain (ask c) :=
  ⟨hc, fun _ => trivial⟩

theorem create_careful (credentialAlias token : String) :
    Careful (HetznerCredentialService.create organizationId credentialAlias token).run := by
  intro k
  refine ⟨Plain.permits ⟨rfl, rfl⟩ k, fun r => ?_⟩
  rcases r with e | secretRef
  · trivial
  refine ⟨⟨fun handle h => h, nofun⟩, fun r => ?_⟩
  rcases r with e | credential
  · exact ⟨⟨nofun, fun handle h => .inl h⟩, fun _ => trivial⟩
  · trivial

theorem delete_careful : Careful (HetznerCredentialService.delete organizationId id).run := by
  intro k
  refine ⟨Plain.permits ⟨rfl, rfl⟩ k, fun r => ?_⟩
  rcases r with e | credential
  · trivial
  refine ⟨Plain.permits ⟨rfl, rfl⟩ _, fun r => ?_⟩
  rcases r with e | ⟨⟩
  · trivial
  · -- the secret is the one that the row has shown
    refine ⟨⟨nofun, fun handle h => .inr (List.mem_cons.mpr (.inl ?_))⟩, fun _ => trivial⟩
    exact Option.some.inj h.symm

theorem lookupIdempotency_plain (key : String) (bodyHash : List UInt8) :
    Makes (I := fleet) Plain (lookupIdempotency organizationId key bodyHash).run := by
  refine makes_bindE (ask_plain ⟨rfl, rfl⟩) fun row => ?_
  cases row with
  | none => trivial
  | some row =>
    refine makes_bindE (makes_lift (ask_plain ⟨rfl, rfl⟩)) fun now => ?_
    dsimp only
    split
    · trivial
    · split <;> trivial

theorem storeIdempotency_plain (key : String) (bodyHash : List UInt8) (status : Int)
    (body : ClusterView) (resourceId : Option Uuid) :
    Makes (I := fleet) Plain
      (storeIdempotency organizationId key bodyHash status body resourceId).run :=
  makes_bindE (makes_lift (ask_plain ⟨rfl, rfl⟩)) fun _ => ask_plain ⟨rfl, rfl⟩

theorem makes_pure {K : FleetCall → Prop} (r : Except PlatformError α) :
    Makes (I := fleet) K (ExceptT.mk (pure r) : UseCase α).run := trivial

theorem createFresh_plain (api : Api) (idempotencyKey : Option String) (req : CreateRequest)
    (bodyHash : List UInt8) :
    Makes (I := fleet) Plain (api.createFresh organizationId idempotencyKey req bodyHash).run := by
  unfold Api.createFresh
  refine makes_bindE (makes_bindE (makes_pure _) fun _ => ask_plain ⟨rfl, rfl⟩) fun cluster => ?_
  refine makes_bindE (ask_plain ⟨rfl, rfl⟩) fun _ => ?_
  refine makes_bindE (makes_lift (ask_plain ⟨rfl, rfl⟩)) fun _ => ?_
  cases idempotencyKey with
  | none => trivial
  | some key => exact makes_bindE (storeIdempotency_plain _ _ _ _ _) fun _ => trivial

theorem create_plain (api : Api) (idempotencyKey : Option String) (body : String) :
    Makes (I := fleet) Plain (api.create organizationId idempotencyKey body).run := by
  unfold Api.create
  refine makes_bindE (makes_pure _) fun req => ?_
  cases idempotencyKey with
  | none => exact createFresh_plain api none req _
  | some key =>
    refine makes_bindE (lookupIdempotency_plain key _) fun cached => ?_
    cases cached with
    | none => exact createFresh_plain api (some key) req _
    | some cached => trivial

theorem destroy_plain : Makes (I := fleet) Plain (destroy organizationId id).run := by
  refine makes_bindE (ask_plain ⟨rfl, rfl⟩) fun cluster => ?_
  refine makes_bindE (ask_plain ⟨rfl, rfl⟩) fun _ => ?_
  exact makes_lift (ask_plain ⟨rfl, rfl⟩)

theorem program_careful (api : Api) (j : FleetJob) : Careful (j.program api) := by
  cases j with
  | createCredential organizationId credentialAlias token =>
    exact careful_bind (create_careful credentialAlias token) fun _ _ => trivial
  | deleteCredential organizationId id => exact careful_bind delete_careful fun _ _ => trivial
  | createCluster organizationId idempotencyKey body =>
    exact careful_bind (careful_of_makes (create_plain api idempotencyKey body)) fun _ _ => trivial
  | destroyCluster organizationId id =>
    exact careful_bind (careful_of_makes destroy_plain) fun _ _ => trivial
  | finalizeDestroy organizationId id =>
    exact careful_bind finalizeDestroy_careful fun _ _ => trivial
  | run organizationId id job => exact careful_bind (run_careful job _) fun _ _ => trivial

end Careful

/-- What a program is known to have done and known so far permits its calls. -/
theorem program_meets (api : Api) (j : FleetJob) :
    Meets (fun τ c => (custody τ).Permits c) (fun _ _ _ => True) (fun _ _ => True)
      (j.program api) [] :=
  meets_of_follows (I := fleet) (f := custody) (Q := fun _ _ => True) custody_concat
    (program_careful api j {})

/-! ## The invariant -/

/-- The secret is in the table, under the tenant of the handle. -/
def FleetDb.Holds (db : FleetDb) (handle : SecretRef) : Prop :=
  ∃ row ∈ db.secrets.rows, row.id = handle.id ∧ row.organizationId = handle.organizationId

abbrev FleetState := PoolState fleet FleetDb FleetJob (Except RunError FleetReply)

structure Kept (s : FleetState) : Prop where
  owned : ∀ handle ∈ s.world.handles, s.world.Holds handle
  held : ∀ i j τ handle, s.slot i = some (j, τ) → (custody τ).held = some handle →
    s.world.Holds handle
  apart : ∀ i k j j' τ τ' handle handle', s.slot i = some (j, τ) → s.slot k = some (j', τ') →
    (custody τ).held = some handle → (custody τ').held = some handle' → handle.id = handle'.id →
    i = k
  shown : ∀ i j τ handle, s.slot i = some (j, τ) → handle ∈ (custody τ).shown →
    handle ∈ s.world.handles

section Step

variable {api : Api} {s s' : FleetState} {i : Nat} {x : FleetOutcome} {j : FleetJob}
  {τ : Trace fleet} {c : FleetCall} {r : c.Answer}

theorem answer_of_calls (h : (fleetPool api).Calls s i x j τ c r s') :
    s.world.answer api.store c x = (s'.world, r) := by
  obtain ⟨js, hanswer⟩ := h.answer
  obtain ⟨hworld, hrest⟩ := Prod.mk.inj (Option.some.inj hanswer)
  exact Prod.ext hworld (Prod.mk.inj hrest).1

theorem effects_of_calls (h : (fleetPool api).Calls s i x j τ c r s') :
    s.world.Effects c s'.world := by
  have heffects := @FleetDb.effects_answer s.world api.store c x
  rwa [answer_of_calls h] at heffects

/-- What no call changes, no run changes. -/
theorem exec_effects {as : List (Act FleetJob FleetOutcome)} {P : FleetDb → Prop}
    (hP : ∀ db db' c, FleetDb.Effects c db db' → P db → P db')
    (h : (fleetPool api).exec s as = some s') (h0 : P s.world) : P s'.world := by
  refine Pool.exec_invariant (C := fun _ _ => true) (Q := fun s : FleetState => P s.world) ?_ h0
    (Pool.allSteps_of_forall fun _ _ _ => rfl) h
  intro s a s' hs _ hstep
  cases a with
  | start j =>
    obtain ⟨-, rfl⟩ := Pool.step_start.mp hstep
    exact hs
  | step i x =>
    obtain ⟨j, τ, c, r, hcalls⟩ := Pool.calls_of_step hstep
    exact hP _ _ c (effects_of_calls hcalls) hs

/-- A secret that has been put is in the table, and was not before. -/
theorem stored_of_answer {db db' : FleetDb} {store : PgcryptoStore} {handle : SecretRef}
    (h : db.answer store c x = (db', r)) (hstored : stored c r = some handle) :
    db'.Holds handle ∧ handle.id ∉ db.secrets.rows.map (·.id) := by
  have hput (organizationId : Uuid) (plaintext : String) {ref : SecretRef}
      (hok : (db.putSecret store organizationId plaintext x.draw).2 = .ok ref) :
      (db.putSecret store organizationId plaintext x.draw).1.Holds ⟨ref.id, organizationId⟩ ∧
        ref.organizationId = organizationId ∧ ref.id ∉ db.secrets.rows.map (·.id) := by
    rcases put_cases store db.secretsDb organizationId plaintext x.draw with
      ⟨-, e, herror⟩ | ⟨hfresh, hrows, hanswer⟩
    · cases herror.symm.trans hok
    · cases hanswer.symm.trans hok
      refine ⟨⟨store.envelope organizationId plaintext x.draw, ?_, rfl, rfl⟩, rfl, hfresh⟩
      show _ ∈ SecretsTable.rows (SecretsDb.secrets _)
      rw [hrows]
      exact List.mem_append_right _ List.mem_cons_self
  cases c with
  | putSecret organizationId plaintext =>
    rcases r with e | ref
    · cases hstored
    cases hstored
    rcases @FleetDb.answer_reply db store (.putSecret organizationId plaintext) x with
      ⟨-, hreply⟩ | ⟨-, hbroken⟩
    · obtain ⟨hworld, hanswer⟩ := Prod.mk.inj (h.symm.trans hreply)
      obtain ⟨hholds, htenant, hfresh⟩ := hput organizationId plaintext hanswer.symm
      rw [hworld]
      exact ⟨htenant ▸ hholds, hfresh⟩
    · rw [h] at hbroken
      cases hbroken
  | onCluster organizationId id c =>
    cases c with
    | putSecret plaintext =>
      rcases r with e | secretId
      · cases hstored
      cases hstored
      rcases @FleetDb.answer_reply db store (.onCluster organizationId id (.putSecret plaintext))
        x with ⟨-, hreply⟩ | ⟨-, hbroken⟩
      · obtain ⟨hworld, hanswer⟩ := Prod.mk.inj (h.symm.trans hreply)
        cases hresult : (db.putSecret store organizationId plaintext x.draw).2 with
        | error e =>
          rw [hresult] at hanswer
          cases hanswer
        | ok ref =>
          rw [hresult] at hanswer
          cases hanswer
          obtain ⟨hholds, -, hfresh⟩ := hput organizationId plaintext hresult
          rw [hworld]
          exact ⟨hholds, hfresh⟩
      · rw [h] at hbroken
        cases hbroken
    | _ => cases hstored
  | _ => cases hstored

theorem getCredential_ok {db : FleetDb} {organizationId id : Uuid} {credential : HetznerCredential}
    (h : db.getCredential organizationId id = .ok credential) :
    ∃ row ∈ db.credentials, row.isLiveAt organizationId id = true ∧ row.toCredential = credential := by
  unfold FleetDb.getCredential at h
  split at h
  · next row hfound =>
    have hlive := List.find?_some hfound
    exact ⟨row, List.mem_of_find?_eq_some hfound, hlive, Except.ok.inj h⟩
  · cases h

theorem kubeconfigSecret_ok {db : FleetDb} {organizationId id : Uuid} {secretId : Option Uuid}
    (h : db.kubeconfigSecret organizationId id = .ok secretId) :
    ∃ row ∈ db.clusters, row.isLiveAt organizationId id = true ∧ row.kubeconfigSecretId = secretId := by
  unfold FleetDb.kubeconfigSecret at h
  split at h
  · next row hfound =>
    have hlive := List.find?_some hfound
    exact ⟨row, List.mem_of_find?_eq_some hfound, hlive, Except.ok.inj h⟩
  · cases h

theorem mem_handles_of_getCredential {db : FleetDb} {organizationId id : Uuid}
    {credential : HetznerCredential} (h : db.getCredential organizationId id = .ok credential) :
    credential.secretRef ∈ db.handles := by
  obtain ⟨row, hrow, -, rfl⟩ := getCredential_ok h
  exact List.mem_append_left _ (List.mem_map_of_mem (f := CredentialRow.secretRef) hrow)

theorem mem_handles_of_kubeconfigSecret {db : FleetDb} {organizationId id secretId : Uuid}
    (h : db.kubeconfigSecret organizationId id = .ok (some secretId)) :
    ⟨secretId, organizationId⟩ ∈ db.handles := by
  obtain ⟨row, hrow, hlive, hsecret⟩ := kubeconfigSecret_ok h
  obtain ⟨-, htenant, -⟩ := FleetDb.isLiveAt_iff.mp hlive
  refine List.mem_append_right _ (List.mem_filterMap.mpr ⟨row, hrow, ?_⟩)
  rw [ClusterRow.secretRef, hsecret, htenant]
  rfl

/-- What a row has shown, a row refers to. -/
theorem mem_handles_of_shows {db db' : FleetDb} {store : PgcryptoStore} {handle : SecretRef}
    (h : db.answer store c x = (db', r)) (hshows : shows c r = some handle) :
    handle ∈ db.handles := by
  have hreply := @FleetDb.answer_reply db store c x
  rw [h] at hreply
  cases c with
  | getCredential organizationId id =>
    rcases r with e | credential
    · cases hshows
    cases hshows
    rcases hreply with ⟨-, hreply⟩ | ⟨-, hbroken⟩
    · exact mem_handles_of_getCredential (Prod.mk.inj hreply).2.symm
    · cases hbroken
  | onCluster organizationId id c =>
    cases c with
    | kubeconfigSecret =>
      rcases r with e | _ | secretId
      · cases hshows
      · cases hshows
      cases hshows
      rcases hreply with ⟨-, hreply⟩ | ⟨-, hbroken⟩
      · exact mem_handles_of_kubeconfigSecret (Prod.mk.inj hreply).2.symm
      · cases hbroken
    | _ => cases hshows
  | _ => cases hshows

/-- A secret that the call does not delete stays. -/
theorem FleetDb.Effects.holds {db db' : FleetDb} (h : db.Effects c db') {handle : SecretRef}
    (hholds : db.Holds handle)
    (hdeletes : ∀ gone, c.deletes = some gone → gone.id = handle.id →
      gone.id ∈ db.handles.map (·.id)) : db'.Holds handle := by
  obtain ⟨row, hrow, hid, htenant⟩ := hholds
  rcases h.secrets_kept row hrow with hkept | ⟨gone, hgone, hsame, hfree⟩
  · exact ⟨row, hkept, hid, htenant⟩
  · exact absurd (hdeletes gone hgone (hsame.symm.trans hid)) hfree

theorem kept_start (h : (fleetPool api).step s (.start j) = some s') (hs : Kept s) : Kept s' := by
  obtain ⟨-, rfl⟩ := Pool.step_start.mp h
  have hold {k : Nat} {j' : FleetJob} {τ' : Trace fleet}
      (hslot : PoolState.slot { s with threads := s.threads ++ [(fleetPool api).launch j] } k =
        some (j', τ')) : s.slot k = some (j', τ') ∨ τ' = [] := by
    rcases Pool.slot_cases h hslot with hold | hnew | ⟨_, _, _, _, heq, -, -⟩
    · exact .inl hold
    · exact .inr hnew
    · cases heq
  refine ⟨hs.owned, ?_, ?_, ?_⟩
  · intro k j' τ' handle hslot hheld
    rcases hold hslot with hslot | rfl
    · exact hs.held k j' τ' handle hslot hheld
    · cases hheld
  · intro k l j₁ j₂ τ₁ τ₂ h₁ h₂ hslot₁ hslot₂ hheld₁ hheld₂ hid
    rcases hold hslot₁ with hslot₁ | rfl
    · rcases hold hslot₂ with hslot₂ | rfl
      · exact hs.apart k l j₁ j₂ τ₁ τ₂ h₁ h₂ hslot₁ hslot₂ hheld₁ hheld₂ hid
      · cases hheld₂
    · cases hheld₁
  · intro k j' τ' handle hslot hshown
    rcases hold hslot with hslot | rfl
    · exact hs.shown k j' τ' handle hslot hshown
    · cases hshown

/-- What the calling program holds after the call, it has just put, or it has held before and the
call does not delete it. -/
theorem held_next {k : Custody} {handle : SecretRef} (h : (k.next c r).held = some handle) :
    stored c r = some handle ∨ c.deletes = none ∧ k.held = some handle := by
  rw [Custody.next, Option.or_eq_some_iff] at h
  rcases h with hstored | ⟨-, hheld⟩
  · exact .inl hstored
  · cases hdeletes : c.deletes with
    | none =>
      rw [hdeletes] at hheld
      exact .inr ⟨rfl, hheld⟩
    | some gone =>
      rw [hdeletes] at hheld
      cases hheld

theorem deletes_of_records {handle : SecretRef} (h : c.records = some handle) : c.deletes = none := by
  cases c with
  | onCluster organizationId id c =>
    cases c with
    | setKubeconfigSecret secretId => rfl
    | _ => cases h
  | insertCredential => rfl
  | _ => cases h

theorem kept_call (h : (fleetPool api).Calls s i x j τ c r s') (hpermits : (custody τ).Permits c)
    (hs : Kept s) : Kept s' := by
  have heffects := effects_of_calls h
  have hanswer := answer_of_calls h
  -- what another program holds is not deleted
  have hother {k : Nat} {j' : FleetJob} {τ' : Trace fleet} {handle : SecretRef} (hk : k ≠ i)
      (hslot : s.slot k = some (j', τ')) (hheld : (custody τ').held = some handle) :
      s'.world.Holds handle := by
    refine heffects.holds (hs.held k j' τ' handle hslot hheld) fun gone hgone hid => ?_
    rcases hpermits.deletes gone hgone with hown | hshown
    · exact absurd (hs.apart k i j' j τ' τ handle gone hslot h.slot hheld hown hid.symm) hk
    · exact List.mem_map_of_mem (hs.shown i j τ gone h.slot hshown)
  -- what the calling program holds afterwards is not what another program holds
  have hcross {k : Nat} {j' : FleetJob} {τ' : Trace fleet} {handle handle' : SecretRef} (hk : k ≠ i)
      (hslot : s.slot k = some (j', τ')) (hheld : (custody τ').held = some handle')
      (hnext : ((custody τ).next c r).held = some handle) : handle.id ≠ handle'.id := by
    intro hid
    rcases held_next hnext with hstored | ⟨-, hold⟩
    · obtain ⟨row, hrow, hrowid, -⟩ := hs.held k j' τ' handle' hslot hheld
      refine (stored_of_answer hanswer hstored).2 ?_
      rw [hid, ← hrowid]
      exact List.mem_map_of_mem hrow
    · exact hk (hs.apart k i j' j τ' τ handle' handle hslot h.slot hheld hold hid.symm)
  refine ⟨?_, ?_, ?_, ?_⟩
  · intro handle hhandle
    rcases heffects.handles_from hhandle with hold | hrecords
    · exact heffects.holds (hs.owned handle hold) fun gone _ hid =>
        hid ▸ List.mem_map_of_mem hold
    · refine heffects.holds (hs.held i j τ handle h.slot (hpermits.records handle hrecords)) ?_
      intro gone hgone
      rw [deletes_of_records hrecords] at hgone
      cases hgone
  · intro k j' τ' handle hslot hheld
    rcases h.other_or_self hslot with ⟨hk, hslot | rfl⟩ | ⟨rfl, rfl, rfl⟩
    · exact hother hk hslot hheld
    · cases hheld
    · rw [custody_concat] at hheld
      rcases held_next hheld with hstored | ⟨hdeletes, hold⟩
      · exact (stored_of_answer hanswer hstored).1
      · refine heffects.holds (hs.held k j' τ handle h.slot hold) fun gone hgone => ?_
        rw [hdeletes] at hgone
        cases hgone
  · intro k l j₁ j₂ τ₁ τ₂ handle handle' hslot₁ hslot₂ hheld₁ hheld₂ hid
    rcases h.other_or_self hslot₁ with ⟨hk, hslot₁ | rfl⟩ | ⟨rfl, rfl, rfl⟩
    · rcases h.other_or_self hslot₂ with ⟨hl, hslot₂ | rfl⟩ | ⟨rfl, rfl, rfl⟩
      · exact hs.apart k l j₁ j₂ τ₁ τ₂ handle handle' hslot₁ hslot₂ hheld₁ hheld₂ hid
      · cases hheld₂
      · rw [custody_concat] at hheld₂
        exact absurd hid.symm (hcross hk hslot₁ hheld₁ hheld₂)
    · cases hheld₁
    · rw [custody_concat] at hheld₁
      rcases h.other_or_self hslot₂ with ⟨hl, hslot₂ | rfl⟩ | ⟨rfl, rfl, rfl⟩
      · exact absurd hid (hcross hl hslot₂ hheld₂ hheld₁)
      · cases hheld₂
      · rfl
  · intro k j' τ' handle hslot hshown
    rcases h.other_or_self hslot with ⟨hk, hslot | rfl⟩ | ⟨rfl, rfl, rfl⟩
    · exact heffects.handles_kept (hs.shown k j' τ' handle hslot hshown)
    · cases hshown
    · rw [custody_concat] at hshown
      rcases List.mem_append.mp hshown with hnew | hold
      · exact heffects.handles_kept (mem_handles_of_shows hanswer (Option.mem_toList.mp hnew))
      · exact heffects.handles_kept (hs.shown k j' τ handle h.slot hold)

end Step

/-- In every run from a database whose rows refer to secrets of their own tenant. -/
theorem exec_kept {api : Api} {db : FleetDb} {as : List (Act FleetJob FleetOutcome)} {s : FleetState}
    (hdb : ∀ handle ∈ db.handles, db.Holds handle)
    (h : (fleetPool api).exec (Pool.init db) as = some s) : Kept s := by
  induction as using List.reverseRecOn generalizing s with
  | nil =>
    cases h
    refine ⟨hdb, ?_, ?_, ?_⟩ <;> simp [Pool.init, PoolState.slot]
  | append_singleton as a ih =>
    rw [Pool.exec_append, Option.bind_eq_some_iff] at h
    obtain ⟨s₀, h₀, hlast⟩ := h
    have hstep : (fleetPool api).step s₀ a = some s := by simpa using hlast
    cases a with
    | start j => exact kept_start hstep (ih h₀)
    | step i x =>
      obtain ⟨j, τ, c, r, hcalls⟩ := Pool.calls_of_step hstep
      exact kept_call hcalls (hcalls.inside (program_meets api) h₀) (ih h₀)

end Kubinate.Fleet
