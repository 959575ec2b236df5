import Kubinate.Fleet.Erasure

/-!
# The credential of a live cluster

A cluster is destroyed with the credential that its row names. The foreign key keeps the row of the
credential, not its life: `delete` soft-deletes it without a look at `clusters`, and a cluster can
be inserted with a credential that is deleted or of another tenant.

* `FleetDb.Usable`: every live cluster has a credential that `get` returns.
* `usable_step`: a step keeps this exactly if it is one of `keepsCredentials`.
* `canDestroy_of_usable`: then a request to destroy the cluster starts the run.
-/

namespace Kubinate.Fleet

open Platform Library Secrets Clusters

namespace FleetDb

/-- Every live cluster refers to a credential that its tenant can look up. -/
def Usable (db : FleetDb) : Prop :=
  ∀ c ∈ db.clusters, c.deletedAt = none →
    ∃ credential, db.getCredential c.organizationId c.credentialId = .ok credential

variable {db db' : FleetDb} {organizationId id : Uuid}

theorem getCredential_of_live {row : CredentialRow} (hrow : row ∈ db.credentials)
    (hlive : row.isLiveAt organizationId id = true) :
    ∃ credential, db.getCredential organizationId id = .ok credential := by
  cases hfound : db.credentials.find? (·.isLiveAt organizationId id) with
  | none =>
    have hnone := List.find?_eq_none.mp hfound row hrow
    exact absurd hlive hnone
  | some c =>
    unfold getCredential
    rw [hfound]
    exact ⟨_, rfl⟩

/-- A credential that can be looked up stays so, unless the call deletes it. -/
theorem Effects.getCredential {call : FleetCall} (h : db.Effects call db')
    (hok : ∃ credential, db.getCredential organizationId id = .ok credential)
    (hcall : call ≠ .softDeleteCredential organizationId id) :
    ∃ credential, db'.getCredential organizationId id = .ok credential := by
  obtain ⟨credential, hok⟩ := hok
  obtain ⟨row, hrow, hlive, -⟩ := getCredential_ok hok
  rw [CredentialRow.isLiveAt, Bool.and_eq_true, Bool.and_eq_true, beq_iff_eq, beq_iff_eq] at hlive
  obtain ⟨⟨rfl, rfl⟩, hnone⟩ := hlive
  obtain ⟨row', hrow', hbecomes⟩ := h.credentials_kept row hrow
  rcases hbecomes.deletedAt with hsame | ⟨-, hdeletes, -⟩
  · refine getCredential_of_live hrow' ?_
    rw [CredentialRow.isLiveAt, hbecomes.id, hbecomes.organizationId, hsame, hnone]
    simp
  · exact absurd hdeletes hcall

/-- After the statement has taken effect nothing is found any more. -/
theorem getCredential_of_softDelete (now : Timestamp) :
    ∀ credential, (db.softDeleteCredential now organizationId id).1.getCredential organizationId id ≠
      .ok credential := by
  intro credential hok
  obtain ⟨row', hrow', hlive, -⟩ := getCredential_ok hok
  unfold softDeleteCredential at hrow'
  split at hrow'
  · obtain ⟨row, -, rfl⟩ := List.mem_map.mp hrow'
    split at hlive
    · rw [CredentialRow.isLiveAt, Bool.and_eq_true] at hlive
      cases hlive.2
    · next hdead => exact hdead hlive
  · next hnone => exact hnone (List.any_eq_true.mpr ⟨row', hrow', hlive⟩)

/-- A cluster is inserted as a new row, or not at all. -/
theorem insertCluster_cases (db : FleetDb) (now : Timestamp) (id organizationId : Uuid)
    (new : NewCluster) :
    ((db.insertCluster now id organizationId new).1 = db ∧
      ∃ e, (db.insertCluster now id organizationId new).2 = .error e) ∨
    (id ∉ db.clusters.map (·.id) ∧ db.clusters.any (·.takes organizationId new.name) = false ∧
      (db.insertCluster now id organizationId new).1.clusters =
        db.clusters ++ [new.row now id organizationId] ∧
      (db.insertCluster now id organizationId new).1.credentials = db.credentials ∧
      (db.insertCluster now id organizationId new).2 = .ok (new.row now id organizationId)) := by
  unfold insertCluster
  split
  · exact .inl ⟨rfl, _, rfl⟩
  split
  · exact .inl ⟨rfl, _, rfl⟩
  split
  · exact .inl ⟨rfl, _, rfl⟩
  next hid =>
  split
  · exact .inl ⟨rfl, _, rfl⟩
  next htaken =>
  split
  · exact .inl ⟨rfl, _, rfl⟩
  split
  · exact .inr ⟨hid, Bool.eq_false_iff.mpr htaken, rfl, rfl, rfl⟩
  · exact .inl ⟨rfl, _, rfl⟩

end FleetDb

/-! ## Steps that keep the credentials usable -/

/-- The step deletes no credential of a live cluster, and inserts no cluster whose credential
cannot be looked up. -/
def keepsCredentials (s : FleetState) : Act FleetJob FleetOutcome → Bool
  | .start _ => true
  | .step i x =>
    x.reply == .failed ||
    match s.nextCall i with
    | some (.softDeleteCredential organizationId id) =>
      s.world.clusters.all fun c =>
        !(c.deletedAt.isNone && c.organizationId == organizationId && c.credentialId == id)
    | some (.insertCluster organizationId new) =>
      (s.world.insertCluster x.draw.now x.draw.id organizationId new).2.toOption.isNone ||
        (s.world.getCredential organizationId new.credentialId).toOption.isSome
    | _ => true

theorem isSome_toOption {ε α : Type} {e : Except ε α} : e.toOption.isSome = true ↔ ∃ a, e = .ok a := by
  cases e with
  | error e => exact ⟨nofun, nofun⟩
  | ok a => exact ⟨fun _ => ⟨a, rfl⟩, fun _ => rfl⟩

theorem isNone_toOption {ε α : Type} {e : Except ε α} :
    e.toOption.isNone = true ↔ ∀ a, e ≠ .ok a := by
  cases e with
  | error e => exact ⟨fun _ _ => nofun, fun _ => rfl⟩
  | ok a => exact ⟨nofun, fun h => absurd rfl (h a)⟩

section Steps

variable {db db' : FleetDb} {organizationId id : Uuid}

theorem usable_other {call : FleetCall} (hdb : db.Usable) (h : db.Effects call db')
    (hdelete : ∀ organizationId id, call ≠ .softDeleteCredential organizationId id)
    (hinsert : ∀ organizationId new, call ≠ .insertCluster organizationId new) : db'.Usable := by
  intro c' hc' hlive
  rcases h.clusters_from c' hc' with ⟨c, hc, hbecomes⟩ | ⟨new, now, hcall, -⟩
  · rw [hbecomes.organizationId, hbecomes.credentialId]
    refine h.getCredential (hdb c hc ?_) (hdelete _ _)
    rcases hbecomes.deletedAt with hsame | ⟨hnone, -, -⟩
    · rw [← hsame, hlive]
    · exact hnone
  · exact absurd hcall (hinsert _ _)

theorem usable_softDeleteCredential (now : Timestamp) (hdb : db.Usable) :
    (db.softDeleteCredential now organizationId id).1.Usable ↔
      ∀ c ∈ db.clusters, c.deletedAt = none → c.organizationId = organizationId →
        c.credentialId ≠ id := by
  have hclusters : (db.softDeleteCredential now organizationId id).1.clusters = db.clusters := by
    unfold FleetDb.softDeleteCredential
    split <;> rfl
  constructor
  · rintro husable c hc hlive rfl rfl
    obtain ⟨credential, hok⟩ := husable c (hclusters ▸ hc) hlive
    exact FleetDb.getCredential_of_softDelete now credential hok
  · intro hfree c hc hlive
    rw [hclusters] at hc
    refine (FleetDb.effects_softDeleteCredential now organizationId id).getCredential
      (hdb c hc hlive) ?_
    intro hcall
    obtain ⟨htenant, hid⟩ := FleetCall.softDeleteCredential.inj hcall
    exact hfree c hc hlive htenant.symm hid.symm

theorem usable_insertCluster (now : Timestamp) (new : NewCluster) (hdb : db.Usable) :
    (db.insertCluster now id organizationId new).1.Usable ↔
      (∀ row, (db.insertCluster now id organizationId new).2 ≠ .ok row) ∨
        ∃ credential, db.getCredential organizationId new.credentialId = .ok credential := by
  rcases FleetDb.insertCluster_cases db now id organizationId new with
    ⟨hsame, e, herror⟩ | ⟨-, -, hclusters, hcredentials, hok⟩
  · rw [hsame, herror]
    exact iff_of_true hdb (.inl fun _ => nofun)
  · have hget (tenant credentialId : Uuid) :
        (db.insertCluster now id organizationId new).1.getCredential tenant credentialId =
          db.getCredential tenant credentialId := by
      unfold FleetDb.getCredential
      rw [hcredentials]
    constructor
    · intro husable
      obtain ⟨credential, hcredential⟩ := husable (new.row now id organizationId)
        (hclusters ▸ List.mem_append_right _ List.mem_cons_self) rfl
      exact .inr ⟨credential, (hget _ _).symm.trans hcredential⟩
    · rintro (hnone | hcredential)
      · exact absurd hok (hnone _)
      · intro c hc hlive
        rw [hget]
        rw [hclusters] at hc
        rcases List.mem_append.mp hc with hc | hc
        · exact hdb c hc hlive
        · rw [List.mem_singleton.mp hc]
          exact hcredential

variable {api : Api} {s s' : FleetState} {a : Act FleetJob FleetOutcome}

/-- A step keeps the credentials usable exactly if it is one of `keepsCredentials`. -/
theorem usable_step (hs : s.world.Usable) (h : (fleetPool api).step s a = some s') :
    s'.world.Usable ↔ keepsCredentials s a = true := by
  cases a with
  | start j =>
    obtain ⟨-, rfl⟩ := Pool.step_start.mp h
    exact iff_of_true hs rfl
  | step i x =>
    obtain ⟨j, τ, c, r, hcalls⟩ := Pool.calls_of_step h
    have hworld := @FleetDb.answer_world s.world api.store c x
    rw [answer_of_calls hcalls] at hworld
    dsimp only at hworld
    rw [keepsCredentials, hcalls.nextCall]
    rcases hworld with ⟨hfailed, hsame⟩ | ⟨hreply, heffect⟩
    · rw [hfailed]
      exact iff_of_true (hsame ▸ hs) rfl
    · have heffects := effects_of_calls hcalls
      rw [beq_eq_false_iff_ne.mpr hreply, Bool.false_or]
      cases c with
      | softDeleteCredential organizationId id =>
        rw [heffect]
        refine (usable_softDeleteCredential _ hs).trans ?_
        rw [List.all_eq_true]
        refine forall₂_congr fun c _ => ?_
        cases c.deletedAt with
        | none => simp [imp_iff_not_or]
        | some at_ => simp
      | insertCluster organizationId new =>
        rw [heffect]
        refine (usable_insertCluster _ new hs).trans ?_
        rw [Bool.or_eq_true, isSome_toOption, isNone_toOption]
      | _ => exact iff_of_true (usable_other hs heffects nofun nofun) rfl

end Steps

/-! ## Destroying -/

/-- For every live cluster, `DELETE /v1/clusters/:id` sent now and answered without a failure ends
with success and starts the run. -/
def CanDestroy (api : Api) (s : FleetState) : Prop :=
  ∀ c ∈ s.world.clusters, c.deletedAt = none → ∀ x, x.reply = .ok →
    ∃ s', (fleetPool api).exec s [.start (.destroyCluster c.organizationId c.id),
        .step s.threads.length x, .step s.threads.length x, .step s.threads.length x] = some s' ∧
      s'.result s.threads.length = some (.ok .done) ∧
      s'.slot (s.threads.length + 1) = some (.run c.organizationId c.id .destroy, [])

section Destroy

variable {db : FleetDb} {api : Api} {s : FleetState}

theorem getCluster_of_live {c : ClusterRow} (hc : c ∈ db.clusters) (hlive : c.deletedAt = none) :
    db.getCluster c.organizationId c.id = .ok c := by
  cases hfound : db.clusters.find? (·.isLiveAt c.organizationId c.id) with
  | none =>
    have hnone := List.find?_eq_none.mp hfound c hc
    exact absurd (FleetDb.isLiveAt_iff.mpr ⟨rfl, rfl, hlive⟩) hnone
  | some row =>
    have hrow := List.find?_some hfound
    obtain ⟨hid, -, -⟩ := FleetDb.isLiveAt_iff.mp hrow
    obtain rfl : row = c :=
      List.inj_on_of_nodup_map db.clusterKey (List.mem_of_find?_eq_some hfound) hc hid
    unfold FleetDb.getCluster
    rw [hfound]

/-- A step of the last program of the pool, answered without a failure. -/
theorem step_last {world : FleetDb} {ts : List (Thread fleet FleetJob (Except RunError FleetReply))}
    {j : FleetJob} {τ : Trace fleet} {c : FleetCall} {x : FleetOutcome}
    {k : c.Answer → Program fleet (Except RunError FleetReply)} {r : c.Answer}
    (hreply : x.reply = .ok) (hanswer : world.execute api.store x c = (world, r)) :
    (fleetPool api).step ⟨world, ts ++ [⟨j, τ, .call c k⟩]⟩ (.step ts.length x) =
      some ⟨world, ts ++ ⟨j, τ ++ [⟨c, r⟩], k r⟩ :: c.spawned.map (fleetPool api).launch⟩ := by
  refine Pool.step_step.mpr ⟨_, c, k, world, r, c.spawned, List.getElem?_concat_length, rfl, ?_, ?_⟩
  · show some ((world.answer api.store c x).1, (world.answer api.store c x).2, c.spawned) = _
    rw [FleetDb.answer, hreply, hanswer]
  · simp

theorem canDestroy_of_usable (hs : s.world.Usable) : CanDestroy api s := by
  intro c hc hlive x hreply
  obtain ⟨credential, hcredential⟩ := hs c hc hlive
  have hcluster : s.world.execute api.store x (.getCluster c.organizationId c.id) =
      (s.world, .ok c) :=
    Prod.ext rfl (getCluster_of_live hc hlive)
  have hlookup : s.world.execute api.store x (.getCredential c.organizationId c.credentialId) =
      (s.world, .ok credential) :=
    Prod.ext rfl hcredential
  have hstart : (fleetPool api).step s (.start (.destroyCluster c.organizationId c.id)) =
      some ⟨s.world, s.threads ++
        [(fleetPool api).launch (.destroyCluster c.organizationId c.id)]⟩ :=
    Pool.step_start.mpr ⟨rfl, rfl⟩
  have hspawn : s.world.execute api.store x (.spawn c.organizationId c.id .destroy) =
      (s.world, ()) := rfl
  let ended : Thread fleet FleetJob (Except RunError FleetReply) :=
    ⟨.destroyCluster c.organizationId c.id,
      [⟨.getCluster c.organizationId c.id, .ok c⟩,
        ⟨.getCredential c.organizationId c.credentialId, .ok credential⟩,
        ⟨.spawn c.organizationId c.id .destroy, ()⟩], .done (.ok .done)⟩
  refine ⟨⟨s.world, s.threads ++ [ended, (fleetPool api).launch (.run c.organizationId c.id .destroy)]⟩,
    ?_, ?_, ?_⟩
  · rw [Pool.exec_cons, hstart, Option.bind_some, Pool.exec_cons]
    refine Option.bind_eq_some_iff.mpr ⟨_, step_last hreply hcluster, ?_⟩
    rw [Pool.exec_cons]
    refine Option.bind_eq_some_iff.mpr ⟨_, step_last hreply hlookup, ?_⟩
    rw [Pool.exec_cons]
    exact Option.bind_eq_some_iff.mpr ⟨_, step_last hreply hspawn, rfl⟩
  · simp [PoolState.result, ended]
  · simp [PoolState.slot, Pool.launch]

end Destroy

/-- In every run, from tables in which every live cluster has a usable credential: this holds in
every state of the run, with every live cluster ready to be destroyed, if and only if no step of the
run deletes a credential of a live cluster or inserts a cluster without a usable one. -/
theorem usable_iff {api : Api} {db : FleetDb} {as : List (Act FleetJob FleetOutcome)} {s : FleetState}
    (hdb : db.Usable) (hrun : (fleetPool api).exec (Pool.init db) as = some s) :
    (∀ as₁ as₂ s₁, as = as₁ ++ as₂ → (fleetPool api).exec (Pool.init db) as₁ = some s₁ →
        s₁.world.Usable ∧ CanDestroy api s₁) ↔
      (fleetPool api).allSteps keepsCredentials (Pool.init db) as = true := by
  refine Iff.trans ?_ (Pool.exec_invariant_iff (Q := fun s : FleetState => s.world.Usable)
    (fun s a s' hs hstep => usable_step hs hstep) hdb hrun)
  constructor
  · exact fun h as₁ as₂ s₁ has h₁ => (h as₁ as₂ s₁ has h₁).1
  · exact fun h as₁ as₂ s₁ has h₁ =>
      ⟨h as₁ as₂ s₁ has h₁, canDestroy_of_usable (h as₁ as₂ s₁ has h₁)⟩

theorem usable_emptyFleet : emptyFleet.Usable :=
  fun _ h => absurd h List.not_mem_nil

/-- Every body asks for a cluster with the credential 71. -/
def clusterApi : Api :=
  offlineApi (fun _ => .ok ⟨"prod", "nbg1", "cpx21", 1, 1, 71⟩) fun _ => [0]

/-- A credential and a cluster that uses it. -/
def createdCluster : List (Act FleetJob FleetOutcome) :=
  [.start (.createCredential 7 "main" "token"), .step 0 (fine 70 1), .step 0 (fine 71 2),
    .start (.createCluster 7 none "{}"), .step 1 (fine 72 3), .step 1 (fine 0 4),
    .step 1 (fine 0 5)]

theorem usable_iff_createdCluster :
    ∃ s, (fleetPool clusterApi).exec (Pool.init emptyFleet) createdCluster = some s ∧
      s.world.clusters.map (·.id) = [72] ∧ s.world.Usable ∧ CanDestroy clusterApi s := by
  have hrun : ((fleetPool clusterApi).exec (Pool.init emptyFleet) createdCluster).any
      (fun s => decide (s.world.clusters.map (·.id) = [72])) = true := by
    decide +kernel
  obtain ⟨s, hs, hclusters⟩ := (Option.any_eq_true _ _).mp hrun
  have hsteps : (fleetPool clusterApi).allSteps keepsCredentials (Pool.init emptyFleet)
      createdCluster = true := by
    decide +kernel
  obtain ⟨husable, hdestroy⟩ := (usable_iff usable_emptyFleet hs).mpr hsteps createdCluster [] s
    (List.append_nil _).symm hs
  exact ⟨s, hs, of_decide_eq_true hclusters, husable, hdestroy⟩

theorem not_always_usable :
    ¬ ∀ (api : Api) (db : FleetDb) (as : List (Act FleetJob FleetOutcome)) (s : FleetState),
      db.Usable → (fleetPool api).exec (Pool.init db) as = some s → s.world.Usable := by
  intro hclaim
  have hrun : ((fleetPool clusterApi).exec (Pool.init emptyFleet) (createdCluster ++
      [.start (.deleteCredential 7 71), .step 3 (fine 0 6), .step 3 (fine 0 7),
        .step 3 (fine 0 8)])).any
      (fun s => decide (s.result 3 = some (.ok .done)) &&
        s.world.clusters.any (fun c => decide (c.deletedAt = none) &&
          (s.world.getCredential c.organizationId c.credentialId).toOption.isNone)) = true := by
    decide +kernel
  obtain ⟨s, hs, hrest⟩ := (Option.any_eq_true _ _).mp hrun
  rw [Bool.and_eq_true, List.any_eq_true] at hrest
  obtain ⟨-, c, hc, hdead⟩ := hrest
  rw [Bool.and_eq_true, decide_eq_true_eq, isNone_toOption] at hdead
  obtain ⟨credential, hok⟩ := hclaim _ _ _ s usable_emptyFleet hs c hc hdead.1
  exact hdead.2 credential hok

end Kubinate.Fleet
