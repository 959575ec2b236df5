import Kubinate.Clusters.Runner

/-!
# What a run has done so far

The part of a run's trace that matters for the inventory of servers: which servers it has
created and not recorded yet, what it has read of `cluster_servers`, which deletions the
provider has confirmed.

* `ClusterJob.Calls`: the calls a run may make with such a record.
* `clusterJob_follows`: the runs make no other calls, whatever the answers, and a run that
  ends with servers it has not recorded has been told of a failure after it created them.
-/

namespace Kubinate.Clusters

open Platform Library

structure RunRecord where
  /-- the servers it has created -/
  made : List Nat := []
  /-- those of them that it has not recorded -/
  held : List Nat := []
  /-- polls of a server that is still booting -/
  polls : Nat := 0
  /-- an activity or a record has failed -/
  doomed : Bool := false
  /-- the inventory, once it was read -/
  listed : Option (List ClusterServer) := none
  /-- servers whose deletion was confirmed -/
  gone : List Nat := []
  /-- the rows of the inventory were deleted -/
  swept : Bool := false
  /-- a destroy has failed or has set its final status -/
  ended : Bool := false

namespace RunRecord

/-- A server that is there no more. -/
def confirmed : Except HetznerError Unit → Bool
  | .ok () => true
  | .error e => e.isNotFound

def poll (ρ : RunRecord) : Except HetznerError ServerState → RunRecord
  | .error _ => { ρ with doomed := true }
  | .ok server =>
    match server.status with
    | .ready => { ρ with polls := 0, doomed := ρ.doomed || server.ipv4.isNone }
    | .failed => { ρ with doomed := true }
    | .initializing =>
      { ρ with polls := ρ.polls + 1, doomed := ρ.doomed || ρ.polls + 1 == cloudInitMaxAttempts }

def next (ρ : RunRecord) : (c : CloudCall) → c.Answer → RunRecord
  | .createServer _, .ok id => { ρ with made := id :: ρ.made, held := id :: ρ.held }
  | .createServer _, .error _ => { ρ with doomed := true }
  | .getServer _, r => ρ.poll r
  | .sshRun .., .error _ => { ρ with doomed := true }
  | .recordServer hetznerServerId .., .ok () =>
    { ρ with held := ρ.held.filter (toI64 · != hetznerServerId) }
  | .recordServer .., .error _ => { ρ with doomed := true }
  | .listServers, .ok servers => { ρ with listed := some servers }
  | .deleteServer id, r =>
    if confirmed r then { ρ with gone := id :: ρ.gone } else { ρ with ended := true }
  | .softDeleteServers, .ok () => { ρ with swept := true }
  | .softDeleteServers, .error _ | .kubeconfigSecret, .error _ | .softDelete, .error _ =>
    { ρ with ended := true }
  | .updateStatus .., _ => { ρ with ended := ρ.ended || ρ.swept }
  | _, _ => ρ

def ofTrace (h : Trace cloud) : RunRecord := h.foldl (fun ρ e => ρ.next e.1 e.2) {}

theorem ofTrace_append (h : Trace cloud) (c : cloud.Call) (r : cloud.Answer c) :
    ofTrace (h ++ [⟨c, r⟩]) = (ofTrace h).next c r := by
  rw [ofTrace, List.foldl_append]
  rfl

/-- Every server of the inventory that was read is confirmed gone. -/
def AllGone (ρ : RunRecord) : Prop :=
  ∃ rows, ρ.listed = some rows ∧ ∀ r ∈ rows, r.hetznerServerId ∈ ρ.gone

end RunRecord

/-- The calls a run may make. Nothing is created after a failure, what is recorded was
created, only servers of the inventory are deleted, and rows are deleted after their
servers. -/
def ClusterJob.Calls (j : ClusterJob) (ρ : RunRecord) : CloudCall → Prop
  | .createServer _ => ρ.doomed = false
  | .recordServer hetznerServerId .. => hetznerServerId ∈ ρ.made.map toI64
  | .listServers => ρ.listed = none
  | .deleteServer id => ∃ rows, ρ.listed = some rows ∧ id ∈ rows.map (·.hetznerServerId)
  | .softDeleteServers => j = .destroy ∧ ρ.AllGone ∧ ρ.ended = false
  | .softDeleteServerRow id =>
    ∃ rows, ρ.listed = some rows ∧ ∃ r ∈ rows, r.id = id ∧ r.hetznerServerId ∈ ρ.gone
  | .updateStatus .destroyed _ => j = .destroy ∧ ρ.swept = true ∧ ρ.ended = false
  | _ => True

/-- A run holds nothing at its end, unless it was told of a failure. -/
def RunRecord.Settled (ρ : RunRecord) : Prop := ρ.held = [] ∨ ρ.doomed = true

/-! ## Activities -/

section Activities

variable {j : ClusterJob} {ρ : RunRecord} {α : Type}

/-- An activity after which the record is `f` of its result, and that dooms the run when it
fails. -/
def Does (j : ClusterJob) (ρ : RunRecord) (p : Activity α) (f : α → RunRecord) : Prop :=
  Follows RunRecord.next j.Calls (Post (fun ρ' a => ρ' = f a) fun ρ' _ => ρ'.doomed = true)
    p.run ρ

theorem follows_progress {progress : Progress} {Q : RunRecord → Unit → Prop}
    (hp : progress = hubOnlyProgress ∨ ∃ id, progress = workflowProgress id) (step : String)
    (hQ : Q ρ ()) : Follows RunRecord.next j.Calls Q (progress step) ρ := by
  rcases hp with rfl | ⟨id, rfl⟩
  · exact ⟨trivial, fun _ => hQ⟩
  · refine ⟨trivial, fun r => ⟨trivial, fun _ => ?_⟩⟩
    rcases r with e | ⟨⟩ <;> exact hQ

theorem progress_does {progress : Progress}
    (hp : progress = hubOnlyProgress ∨ ∃ id, progress = workflowProgress id) (step : String) :
    Does j ρ (ExceptT.lift (progress step)) fun _ => ρ :=
  follows_lift (follows_progress hp step rfl)

theorem hetznerCreateServer_does (h : ρ.doomed = false) (params : CreateServerParams) :
    Does j ρ (hetznerCreateServer params)
      fun id => { ρ with made := id :: ρ.made, held := id :: ρ.held } := by
  refine ⟨h, fun r => ?_⟩
  rcases r with e | id
  · rfl
  · rfl

theorem sshRun_does (target : SshTarget) (command : String) :
    Does j ρ (sshRun target command) fun _ => ρ := by
  refine ⟨trivial, fun r => ?_⟩
  rcases r with e | out
  · rfl
  · rfl

theorem does_bind {β : Type} {p : Activity α} {f : α → RunRecord} {k : α → Activity β}
    {Q : RunRecord → Except ActivityError β → Prop} (hp : Does j ρ p f)
    (hk : ∀ a, Follows RunRecord.next j.Calls Q (k a).run (f a))
    (he : ∀ ρ' e, ρ'.doomed = true → Q ρ' (.error e)) :
    Follows RunRecord.next j.Calls Q (p >>= k).run ρ :=
  follows_bindE hp (fun _ a h => h ▸ hk a) he

theorem sshInstallK3sServer_does (target : SshTarget) (k3sVersion : String) :
    Does j ρ (sshInstallK3sServer target k3sVersion) fun _ => ρ := by
  refine does_bind (sshRun_does _ _) (fun _ => ?_) fun _ _ h => h
  exact does_bind (sshRun_does _ _) (fun _ => rfl) fun _ _ h => h

theorem sshInstallK3sAgent_does (worker : SshTarget) (ip token version : String) :
    Does j ρ (sshInstallK3sAgent worker ip token version) fun _ => ρ :=
  does_bind (sshRun_does _ _) (fun _ => rfl) fun _ _ h => h

theorem collectKubeconfig_does (controlPlane : SshTarget) (endpoint : String) :
    Does j ρ (collectKubeconfig controlPlane endpoint) fun _ => ρ :=
  does_bind (sshRun_does _ _) (fun _ => rfl) fun _ _ h => h

/-- The polls: at most `cloudInitMaxAttempts`, of which `n` are left. -/
theorem pollCloudInit_follows (id n : Nat) (hn : ρ.polls + n = cloudInitMaxAttempts)
    (hdoomed : n = 0 → ρ.doomed = true) :
    Follows RunRecord.next j.Calls
      (Post (fun ρ' server => server.id = id ∧
        ρ' = { ρ with polls := 0, doomed := ρ.doomed || server.ipv4.isNone })
        fun ρ' _ => ρ'.doomed = true)
      (pollCloudInit id n).run ρ := by
  induction n generalizing ρ with
  | zero => exact hdoomed rfl
  | succ n ih =>
    refine ⟨trivial, fun r => ?_⟩
    rcases r with e | ⟨_ | _ | _, ipv4, privateIpv4⟩
    · exact rfl
    · exact ⟨rfl, rfl⟩
    · -- still booting: one attempt less
      have hnext : ρ.next (.getServer id) (.ok ⟨.initializing, ipv4, privateIpv4⟩) =
          { ρ with
            polls := ρ.polls + 1
            doomed := ρ.doomed || ρ.polls + 1 == cloudInitMaxAttempts } := rfl
      have hpolls : ρ.polls + 1 + n = cloudInitMaxAttempts := by omega
      have hlast : n = 0 → (ρ.doomed || ρ.polls + 1 == cloudInitMaxAttempts) = true := by
        rintro rfl
        rw [Nat.add_zero] at hpolls
        rw [hpolls, beq_self_eq_true, Bool.or_true]
      have hrest := ih (ρ := ρ.next (.getServer id) (.ok ⟨.initializing, ipv4, privateIpv4⟩))
        hpolls hlast
      cases n with
      | zero => exact hlast rfl
      | succ n =>
        have hmore : (ρ.polls + 1 == cloudInitMaxAttempts) = false := by
          rw [beq_eq_false_iff_ne]
          omega
        rw [hnext, hmore, Bool.or_false] at hrest
        rw [hnext, hmore, Bool.or_false]
        exact hrest
    · exact rfl

theorem waitForCloudInit_follows (id : Nat) (hpolls : ρ.polls = 0) :
    Follows RunRecord.next j.Calls
      (Post (fun ρ' server => server.id = id ∧
        ρ' = { ρ with doomed := ρ.doomed || server.ipv4.isNone }) fun ρ' _ => ρ'.doomed = true)
      (waitForCloudInit id).run ρ := by
  have h := pollCloudInit_follows (j := j) (ρ := ρ) id cloudInitMaxAttempts (by simp [hpolls])
    (by simp [cloudInitMaxAttempts])
  rw [← hpolls] at h
  exact h

theorem sshTarget_follows (server : HetznerServer) (h : server.ipv4 = none → ρ.doomed = true) :
    Follows RunRecord.next j.Calls
      (Post (fun ρ' _ => ρ' = ρ ∧ server.ipv4.isNone = false) fun ρ' _ => ρ'.doomed = true)
      (sshTarget server).run ρ := by
  unfold sshTarget
  cases hipv4 : server.ipv4 with
  | some host => exact ⟨rfl, rfl⟩
  | none => exact h hipv4

theorem joinWorkers_does (workers : List HetznerServer) (ip token version : String)
    (h : ∀ w ∈ workers, w.ipv4 = none → ρ.doomed = true) :
    Does j ρ (joinWorkers workers ip token version) fun _ => ρ := by
  refine (follows_forM (E := fun ρ' _ => ρ'.doomed = true)
    (K := fun l ρ' => ρ' = ρ ∧ ∀ w ∈ l, w.ipv4 = none → ρ.doomed = true)
    ?_ workers ⟨rfl, h⟩).mono ?_
  · rintro worker l _ ⟨rfl, hl⟩
    refine follows_bindE (sshTarget_follows worker (hl worker List.mem_cons_self)) ?_ fun _ _ h => h
    rintro _ target ⟨rfl, -⟩
    refine (sshInstallK3sAgent_does _ _ _ _).mono ?_
    rintro ρ' (e | ⟨⟩) hρ
    · exact hρ
    · exact ⟨hρ, fun w hw => hl w (List.mem_cons_of_mem _ hw)⟩
  · rintro ρ' (e | ⟨⟩) hρ
    · exact hρ
    · exact hρ.1

/-- After `ids` were created, in this order. -/
def RunRecord.making (ρ : RunRecord) (ids : List Nat) : RunRecord :=
  { ρ with made := ids.reverse ++ ρ.made, held := ids.reverse ++ ρ.held }

/-- Servers are created one after the other and held. -/
theorem createServers_does (h : ρ.doomed = false) (params : Nat → CreateServerParams)
    (indices : List Nat) :
    Does j ρ (indices.mapM fun index => hetznerCreateServer (params index))
      fun ids => ρ.making ids := by
  refine follows_mapM (K := fun _ ids ρ' => ρ' = ρ.making ids) ?_ indices [] rfl
  rintro index l ids _ rfl
  refine (hetznerCreateServer_does (j := j) (ρ := ρ.making ids) h (params index)).mono ?_
  rintro ρ' (e | id) hρ
  · exact hρ
  · rw [Post, RunRecord.making, List.reverse_append]
    exact hρ

/-- Waiting for all of them moves nothing but the marks of failure. -/
theorem waitForServers_follows (ids : List Nat) (hpolls : ρ.polls = 0) :
    Follows RunRecord.next j.Calls
      (Post (fun ρ' servers => servers.map (·.id) = ids ∧
        ρ' = { ρ with doomed := ρ'.doomed } ∧
        ∀ w ∈ servers, w.ipv4 = none → ρ'.doomed = true) fun ρ' _ => ρ'.doomed = true)
      (ids.mapM waitForCloudInit).run ρ := by
  refine (follows_mapM (E := fun ρ' _ => ρ'.doomed = true)
    (K := fun l servers ρ' => servers.map (·.id) ++ l = ids ∧
      ρ' = { ρ with doomed := ρ'.doomed } ∧ ∀ w ∈ servers, w.ipv4 = none → ρ'.doomed = true)
    ?_ ids [] ⟨rfl, rfl, nofun⟩).mono ?_
  · rintro id l servers ρ' ⟨hids, hρ, hmarks⟩
    have hpolls' : ρ'.polls = 0 := by rw [hρ, hpolls]
    refine (waitForCloudInit_follows id hpolls').mono ?_
    rintro ρ'' (e | server) hr
    · exact hr
    · obtain ⟨rfl, rfl⟩ := hr
      refine ⟨?_, ?_, ?_⟩
      · rw [List.map_append, List.append_assoc]
        exact hids
      · rw [hρ]
      · intro w hw hnone
        rcases List.mem_append.mp hw with hw | hw
        · simp [hmarks w hw hnone]
        · obtain rfl := List.mem_singleton.mp hw
          simp [hnone]
  · rintro ρ' (e | servers) hr
    · exact hr
    · simpa [Post] using hr

/-- The run holds no servers but these, and has created all of them. -/
def RunRecord.MadeAll (ρ : RunRecord) (servers : List HetznerServer) : Prop :=
  (∀ id ∈ ρ.held, id ∈ servers.map (·.id)) ∧ ∀ id ∈ servers.map (·.id), id ∈ ρ.made

/-- Everything that a provisioning run has created when it succeeds. -/
theorem provisionCluster_follows {newV5 : String → Uuid} {clusterId : Uuid} {progress : Progress}
    (hp : progress = hubOnlyProgress ∨ ∃ id, progress = workflowProgress id)
    (input : ProvisionClusterInput) (hheld : ρ.held = []) (hpolls : ρ.polls = 0)
    (hdoomed : ρ.doomed = false) :
    Follows RunRecord.next j.Calls
      (Post (fun ρ' output => ρ'.MadeAll (output.controlPlane :: output.workers))
        fun ρ' _ => ρ'.doomed = true)
      (provisionCluster newV5 clusterId progress input).run ρ := by
  unfold provisionCluster
  refine does_bind (progress_does hp _) (fun _ => ?_) fun _ _ h => h
  refine does_bind (hetznerCreateServer_does hdoomed _) (fun cpId => ?_) fun _ _ h => h
  refine does_bind (progress_does hp _) (fun _ => ?_) fun _ _ h => h
  refine follows_bindE (waitForCloudInit_follows cpId hpolls) ?_ fun _ _ h => h
  rintro _ cpServer ⟨hcp, rfl⟩
  refine follows_bindE (sshTarget_follows cpServer (fun hnone => by simp [hnone])) ?_ fun _ _ h => h
  rintro _ cpTarget ⟨rfl, hipv4⟩
  refine does_bind (progress_does hp _) (fun _ => ?_) fun _ _ h => h
  refine does_bind (sshInstallK3sServer_does _ _) (fun joinToken => ?_) fun _ _ h => h
  refine does_bind (progress_does hp _) (fun _ => ?_) fun _ _ h => h
  refine does_bind (createServers_does (by simp [hdoomed, hipv4]) _ _) (fun workerIds => ?_)
    fun _ _ h => h
  refine does_bind (progress_does hp _) (fun _ => ?_) fun _ _ h => h
  refine follows_bindE (waitForServers_follows workerIds hpolls) ?_ fun _ _ h => h
  rintro ρ' workers ⟨hids, hρ, hmarks⟩
  refine does_bind (progress_does hp _) (fun _ => ?_) fun _ _ h => h
  refine does_bind (joinWorkers_does workers _ _ _ hmarks) (fun _ => ?_) fun _ _ h => h
  refine does_bind (progress_does hp _) (fun _ => ?_) fun _ _ h => h
  refine does_bind (collectKubeconfig_does _ _) (fun kubeconfig => ?_) fun _ _ h => h
  refine does_bind (progress_does hp _) (fun _ => ?_) fun _ _ h => h
  rw [hρ]
  constructor
  · intro id hid
    simpa [RunRecord.making, hheld, hcp, hids, or_comm] using hid
  · intro id hid
    have hmade : id = cpId ∨ id ∈ workerIds := by simpa [hcp, hids] using hid
    rcases hmade with rfl | hmade
    · simp [RunRecord.making]
    · simp [RunRecord.making, hmade]

theorem scaleOut_follows {newV5 : String → Uuid} {clusterId : Uuid} (input : ScaleOutInput)
    (hheld : ρ.held = []) (hpolls : ρ.polls = 0) (hdoomed : ρ.doomed = false) :
    Follows RunRecord.next j.Calls
      (Post (fun ρ' workers => ρ'.MadeAll workers) fun ρ' _ => ρ'.doomed = true)
      (scaleOut newV5 clusterId hubOnlyProgress input).run ρ := by
  unfold scaleOut
  refine does_bind (progress_does (.inl rfl) _) (fun _ => ?_) fun _ _ h => h
  refine does_bind (createServers_does hdoomed _ _) (fun ids => ?_) fun _ _ h => h
  refine does_bind (progress_does (.inl rfl) _) (fun _ => ?_) fun _ _ h => h
  refine follows_bindE (waitForServers_follows ids hpolls) ?_ fun _ _ h => h
  rintro ρ' workers ⟨hids, hρ, hmarks⟩
  refine does_bind (progress_does (.inl rfl) _) (fun _ => ?_) fun _ _ h => h
  refine does_bind (joinWorkers_does workers _ _ _ hmarks) (fun _ => ?_) fun _ _ h => h
  refine does_bind (progress_does (.inl rfl) _) (fun _ => ?_) fun _ _ h => h
  rw [hρ]
  constructor
  · intro id hid
    simpa [RunRecord.making, hheld, hids] using hid
  · intro id hid
    rw [hids] at hid
    simp [RunRecord.making, hid]

/-- Deleting servers of the inventory: each is confirmed gone in the end. -/
theorem deleteServers_follows {rows : List ClusterServer} (ids : List Nat)
    (hlisted : ρ.listed = some rows) (hids : ∀ id ∈ ids, id ∈ rows.map (·.hetznerServerId)) :
    Follows RunRecord.next j.Calls
      (Post (fun ρ' _ => ρ' = { ρ with gone := ids.reverse ++ ρ.gone })
        fun ρ' _ => ρ'.held = ρ.held)
      (ids.forM hetznerDeleteServerIdempotent).run ρ := by
  refine (follows_forM (E := fun ρ' _ => ρ'.held = ρ.held)
    (K := fun l ρ' => ∃ done, done ++ l = ids ∧ ρ' = { ρ with gone := done.reverse ++ ρ.gone })
    ?_ ids ⟨[], rfl, rfl⟩).mono ?_
  · rintro id l _ ⟨done, hdone, rfl⟩
    refine ⟨⟨rows, hlisted, hids id (hdone ▸ by simp)⟩, fun r => ?_⟩
    have hgone : ∃ done', done' ++ l = ids ∧
        ({ ρ with gone := id :: (done.reverse ++ ρ.gone) } : RunRecord) =
          { ρ with gone := done'.reverse ++ ρ.gone } := ⟨done ++ [id], by simp [hdone], by simp⟩
    rcases r with e | ⟨⟩
    · show Follows _ _ _ (if e.isNotFound then pure (Except.ok ())
        else pure (Except.error (ActivityError.hetzner e))) (if e.isNotFound then _ else _)
      cases e.isNotFound with
      | true => exact hgone
      | false => exact rfl
    · exact hgone
  · rintro ρ' (e | ⟨⟩) hr
    · exact hr
    · obtain ⟨done, hdone, rfl⟩ := hr
      rw [List.append_nil] at hdone
      subst hdone
      exact rfl

end Activities

/-! ## Runs -/

section Runs

variable {j : ClusterJob} {ρ : RunRecord}

theorem follows_repository {α : Type} {p : Program cloud (Except PlatformError α)}
    {A : RunRecord → α → Prop}
    (hp : Follows RunRecord.next j.Calls (Post A fun ρ' _ => ρ'.Settled) p ρ) :
    Follows RunRecord.next j.Calls (Post A fun ρ' _ => ρ'.Settled) (repository p).run ρ := by
  refine follows_bind hp ?_
  rintro ρ' (e | a) hr
  · exact hr
  · exact hr

/-- The inventory is read once. -/
theorem listServers_follows (hlisted : ρ.listed = none) (hheld : ρ.held = []) :
    Follows RunRecord.next j.Calls
      (Post (fun ρ' servers => ρ' = { ρ with listed := some servers }) fun ρ' _ => ρ'.Settled)
      (repository (call .listServers)).run ρ := by
  refine follows_repository ⟨hlisted, fun r => ?_⟩
  rcases r with e | servers
  · exact .inl hheld
  · exact rfl

theorem recordServer_follows (role : ClusterNodeRole) (server : HetznerServer)
    (h : server.id ∈ ρ.made) :
    Follows RunRecord.next j.Calls
      (Post (fun ρ' _ => ρ' = { ρ with held := ρ.held.filter (toI64 · != toI64 server.id) })
        fun ρ' _ => ρ'.Settled)
      (recordServer role server).run ρ := by
  refine ⟨List.mem_map_of_mem h, fun r => ?_⟩
  rcases r with e | ⟨⟩
  · exact .inr rfl
  · exact rfl

theorem RunRecord.MadeAll.record {server : HetznerServer} {l : List HetznerServer}
    (h : ρ.MadeAll (server :: l)) :
    ({ ρ with held := ρ.held.filter (toI64 · != toI64 server.id) } : RunRecord).MadeAll l := by
  refine ⟨fun id hid => ?_, fun id hid => h.2 id (List.mem_cons_of_mem _ hid)⟩
  obtain ⟨hid, hne⟩ := List.mem_filter.mp hid
  rcases List.mem_cons.mp (h.1 id hid) with rfl | hmem
  · simp at hne
  · exact hmem

/-- Recording all servers leaves none of them held. -/
theorem recordServers_follows (role : ClusterNodeRole) (servers : List HetznerServer)
    (h : ρ.MadeAll servers) :
    Follows RunRecord.next j.Calls
      (Post (fun ρ' _ => ρ'.held = []) fun ρ' _ => ρ'.Settled)
      (servers.forM (recordServer role)).run ρ := by
  refine (follows_forM (E := fun ρ' _ => ρ'.Settled)
    (K := fun l ρ' => ρ'.MadeAll l) ?_ servers h).mono ?_
  · intro server l ρ' hl
    refine (recordServer_follows role server (hl.2 server.id (by simp))).mono ?_
    rintro ρ'' (e | ⟨⟩) hr
    · exact hr
    · subst hr
      exact hl.record
  · rintro ρ' (e | ⟨⟩) hr
    · exact hr
    · exact List.eq_nil_iff_forall_not_mem.mpr fun id hid => by simpa using hr.1 id hid

theorem storeKubeconfig_follows (kubeconfig : String) (h : ρ.held = []) :
    Follows RunRecord.next j.Calls
      (Post (fun ρ' _ => ρ'.held = []) fun ρ' _ => ρ'.Settled)
      (ClusterService.storeKubeconfig kubeconfig).run ρ := by
  refine ⟨trivial, fun r => ?_⟩
  rcases r with e | secretId
  · exact .inl h
  refine ⟨trivial, fun r => ?_⟩
  rcases r with e | ⟨⟩
  · exact ⟨trivial, fun _ => .inl h⟩
  · exact h

theorem runProvision_follows {newV5 : String → Uuid} {clusterId : Uuid}
    (input : ProvisionClusterInput) :
    Follows RunRecord.next j.Calls (fun ρ' _ => ρ'.Settled)
      (runProvision newV5 clusterId input).run {} := by
  refine ⟨trivial, fun workflowRow => ⟨trivial, fun r => ?_⟩⟩
  rcases r with e | ⟨⟩
  · exact .inl rfl
  refine ⟨trivial, fun r => ?_⟩
  rcases r with e | ⟨⟩
  · exact .inl rfl
  refine follows_bindE (follows_lift (provisionCluster_follows (.inr ⟨workflowRow, rfl⟩) input
    rfl rfl rfl)) ?_ fun _ _ h => h
  rintro ρ' (err | output) hr
  · -- the failure is reported
    refine ⟨trivial, fun r => ⟨trivial, fun r' => ⟨trivial, fun _ => ?_⟩⟩⟩
    exact .inr hr
  · refine follows_bindE (recordServer_follows .controlPlane output.controlPlane
      (hr.2 _ List.mem_cons_self)) ?_ fun _ _ h => h
    rintro _ _ rfl
    refine follows_bindE (recordServers_follows .worker output.workers hr.record) ?_ fun _ _ h => h
    intro ρ' _ hheld
    refine follows_bindE (storeKubeconfig_follows output.kubeconfig hheld) ?_ fun _ _ h => h
    intro ρ' _ hheld
    refine ⟨trivial, fun r => ?_⟩
    rcases r with e | ⟨⟩
    · exact .inl hheld
    refine ⟨trivial, fun r => ?_⟩
    rcases r with e | ⟨⟩
    · exact .inl hheld
    · exact ⟨trivial, fun _ => .inl hheld⟩

theorem beginDestroy_follows :
    Follows RunRecord.next j.Calls (Post (fun ρ' _ => ρ' = {}) fun ρ' _ => ρ'.Settled)
      ClusterService.beginDestroy.run {} := by
  refine follows_bindE (follows_repository (A := fun ρ' _ => ρ' = {}) ⟨trivial, fun r => ?_⟩) ?_
    fun _ _ h => h
  · rcases r with e | cluster
    · exact .inl rfl
    · exact rfl
  rintro _ cluster rfl
  refine follows_iteE (fun _ => .inl rfl) fun _ => ⟨trivial, fun r => ?_⟩
  rcases r with e | ⟨⟩
  · exact .inl rfl
  · exact rfl

theorem finalizeDestroy_follows (hheld : ρ.held = []) (hswept : ρ.swept = true)
    (hover : ρ.ended = false) :
    Follows RunRecord.next (ClusterJob.Calls .destroy)
      (Post (fun ρ' _ => ρ'.held = []) fun ρ' _ => ρ'.Settled)
      ClusterService.finalizeDestroy.run ρ := by
  have hrest : Follows RunRecord.next (ClusterJob.Calls .destroy)
      (Post (fun ρ' _ => ρ'.held = []) fun ρ' _ => ρ'.Settled)
      (do
        repository (call .softDelete)
        repository (call (.updateStatus .destroyed none)) : Run Unit).run ρ := by
    refine ⟨trivial, fun r => ?_⟩
    rcases r with e | ⟨⟩
    · exact .inl hheld
    refine ⟨⟨rfl, hswept, hover⟩, fun r => ?_⟩
    rcases r with e | ⟨⟩
    · exact .inl hheld
    · exact hheld
  refine ⟨trivial, fun r => ?_⟩
  rcases r with e | _ | secretId
  · exact .inl hheld
  · exact hrest
  · refine ⟨trivial, fun r => ?_⟩
    rcases r with e | ⟨⟩
    · exact hrest
    · exact hrest

/-- The servers of the inventory were read and deleted. -/
def RunRecord.afterDeleting (servers : List ClusterServer) : RunRecord where
  listed := some servers
  gone := (servers.map (·.hetznerServerId)).reverse

/-- A destroy deletes the rows after their servers, and sets its final status after the
rows. -/
theorem runDestroy_follows :
    Follows RunRecord.next (ClusterJob.Calls .destroy) (fun ρ' _ => ρ'.Settled)
      runDestroy.run {} := by
  refine follows_bindE beginDestroy_follows ?_ fun _ _ h => h
  rintro _ cluster rfl
  refine follows_bindE (listServers_follows rfl rfl) ?_ fun _ _ h => h
  rintro _ servers rfl
  have hdestroy : Follows RunRecord.next (ClusterJob.Calls .destroy)
      (Post (fun ρ' _ => ρ' = RunRecord.afterDeleting servers) fun ρ' _ => ρ'.held = [])
      (destroyCluster hubOnlyProgress (servers.map (·.hetznerServerId))).run
      { listed := some servers } := by
    refine follows_bindE (follows_lift (follows_progress
      (Q := fun ρ' _ => ρ' = { listed := some servers }) (.inl rfl) _ rfl)) ?_ fun _ _ h => h
    rintro _ _ rfl
    refine follows_bindE (deleteServers_follows _ rfl fun _ h => h) ?_ fun _ _ h => h
    rintro _ _ rfl
    exact follows_lift (follows_progress (.inl rfl) _ (by simp [RunRecord.afterDeleting]))
  refine follows_bindE (follows_lift hdestroy) ?_ fun _ _ h => h
  rintro ρ' (err | ⟨⟩) hr
  · exact ⟨trivial, fun r => ⟨trivial, fun _ => .inl hr⟩⟩
  · subst hr
    refine ⟨⟨rfl, ⟨servers, rfl, fun r hr => ?_⟩, rfl⟩, fun r => ?_⟩
    · exact List.mem_reverse.mpr (List.mem_map_of_mem hr)
    rcases r with e | ⟨⟩
    · exact .inl rfl
    refine follows_bindE (finalizeDestroy_follows rfl rfl rfl) ?_ fun _ _ h => h
    intro ρ' _ hheld
    exact ⟨trivial, fun _ => .inl hheld⟩

theorem runScaleOut_follows {newV5 : String → Uuid} {clusterId : Uuid} (count : Nat)
    (clusterName location serverType sshKey userData k3sVersion : String) :
    Follows RunRecord.next j.Calls (fun ρ' _ => ρ'.Settled)
      (runScaleOut newV5 clusterId count clusterName location serverType sshKey userData
        k3sVersion).run {} := by
  refine ⟨trivial, fun r => ?_⟩
  rcases r with e | ⟨⟩
  · exact .inl rfl
  refine follows_bindE (listServers_follows rfl rfl) ?_ fun _ _ h => h
  rintro _ servers rfl
  split
  · exact .inl rfl
  next cp _ =>
  split
  · exact .inl rfl
  next cpIpv4 _ =>
  refine ⟨trivial, fun r => ?_⟩
  rcases r with e | joinToken
  · exact .inl rfl
  refine follows_bindE (follows_lift (scaleOut_follows _ rfl rfl rfl)) ?_ fun _ _ h => h
  rintro ρ' (err | workers) hr
  · exact ⟨trivial, fun r => ⟨trivial, fun _ => .inr hr⟩⟩
  · refine follows_bindE (recordServers_follows .worker workers hr) ?_ fun _ _ h => h
    intro ρ' _ hheld
    refine ⟨trivial, fun r => ?_⟩
    rcases r with e | ⟨⟩
    · exact .inl hheld
    · exact ⟨trivial, fun _ => .inl hheld⟩

theorem fetchKubeconfig_follows (clusterId : Uuid) (hheld : ρ.held = []) :
    Follows RunRecord.next j.Calls
      (Post (fun ρ' _ => ρ' = ρ) fun ρ' _ => ρ'.Settled)
      (ClusterService.fetchKubeconfig clusterId).run ρ := by
  refine ⟨trivial, fun r => ?_⟩
  rcases r with e | _ | secretId
  · exact .inl hheld
  · exact .inl hheld
  refine ⟨trivial, fun r => ?_⟩
  rcases r with e | kubeconfig
  · exact .inl hheld
  · rfl

/-- A loop over the nodes leaves the record as it is. -/
theorem forM_kubectl_follows {targets : List WorkerToRemove} {f : WorkerToRemove → Activity Unit}
    (hf : ∀ t, Follows RunRecord.next j.Calls
      (Post (fun ρ' _ => ρ' = ρ) fun ρ' _ => ρ'.held = ρ.held) (f t).run ρ) :
    Follows RunRecord.next j.Calls (Post (fun ρ' _ => ρ' = ρ) fun ρ' _ => ρ'.held = ρ.held)
      (targets.forM f).run ρ := by
  refine follows_forM (K := fun _ ρ' => ρ' = ρ) ?_ targets rfl
  rintro t l _ rfl
  exact hf t

/-- Draining and deleting nodes leaves the record as it is; deleting the servers confirms
that they are gone. -/
theorem scaleIn_follows {rows : List ClusterServer} (targets : List WorkerToRemove)
    (kubeconfigPath : String) (hlisted : ρ.listed = some rows)
    (htargets : ∀ t ∈ targets, t.serverId ∈ rows.map (·.hetznerServerId)) :
    Follows RunRecord.next j.Calls
      (Post (fun ρ' _ => ρ' = { ρ with gone := (targets.map (·.serverId)).reverse ++ ρ.gone })
        fun ρ' _ => ρ'.held = ρ.held)
      (scaleIn hubOnlyProgress targets kubeconfigPath).run ρ := by
  have hstep (step : String) (ρ : RunRecord) : Follows RunRecord.next j.Calls
      (Post (fun ρ' _ => ρ' = ρ) fun ρ' _ => ρ'.held = ρ.held)
      (ExceptT.lift (hubOnlyProgress step) : Activity Unit).run ρ :=
    follows_lift (follows_progress (.inl rfl) step rfl)
  unfold scaleIn
  refine follows_bindE (hstep _ _) ?_ fun _ _ h => h
  rintro _ _ rfl
  refine follows_bindE (forM_kubectl_follows fun t => ⟨trivial, fun r => ?_⟩) ?_ fun _ _ h => h
  · rcases r with e | ⟨⟩ <;> rfl
  rintro _ _ rfl
  refine follows_bindE (hstep _ _) ?_ fun _ _ h => h
  rintro _ _ rfl
  refine follows_bindE (forM_kubectl_follows fun t => ⟨trivial, fun r => ?_⟩) ?_ fun _ _ h => h
  · rcases r with e | ⟨⟩ <;> rfl
  rintro _ _ rfl
  refine follows_bindE (hstep _ _) ?_ fun _ _ h => h
  rintro ρ _ rfl
  have hdelete := deleteServers_follows (j := j) (targets.map (·.serverId)) hlisted
    (by simpa using htargets)
  rw [List.forM_eq_forM, List.forM_map, ← List.forM_eq_forM] at hdelete
  refine follows_bindE hdelete ?_ fun _ _ h => h
  rintro _ _ rfl
  exact hstep _ _

/-- The row of a worker is deleted after its server. -/
theorem runScaleIn_follows {clusterId : Uuid} (clusterName : String) (count : Nat) :
    Follows RunRecord.next j.Calls (fun ρ' _ => ρ'.Settled)
      (runScaleIn clusterId clusterName count).run {} := by
  refine ⟨trivial, fun r => ?_⟩
  rcases r with e | ⟨⟩
  · exact .inl rfl
  refine follows_bindE (listServers_follows rfl rfl) ?_ fun _ _ h => h
  rintro _ servers rfl
  refine follows_bindE (fetchKubeconfig_follows clusterId rfl) ?_ fun _ _ h => h
  rintro _ kubeconfig rfl
  refine ⟨trivial, fun fileId => ⟨trivial, fun r => ?_⟩⟩
  rcases r with e | ⟨⟩
  · exact .inl rfl
  change Follows _ _ _ _ ({ listed := some servers } : RunRecord)
  refine follows_bindE (follows_lift (scaleIn_follows _ _ rfl ?_)) ?_
    fun _ _ h => h
  · simp only [List.mem_map, removalTarget]
    rintro t ⟨r, hr, rfl⟩
    exact ⟨r, workersToRemove_subset servers count hr, rfl⟩
  intro ρ' result hr
  refine ⟨trivial, fun _ => ?_⟩
  rcases result with err | ⟨⟩
  · exact ⟨trivial, fun r => ⟨trivial, fun _ => .inl hr⟩⟩
  · obtain rfl : ρ' = _ := hr
    refine follows_bindE (follows_forM (E := fun ρ' _ => ρ'.Settled)
      (K := fun l ρ' => ρ'.held = [] ∧ ρ'.listed = some servers ∧
        ∀ s ∈ l, s ∈ servers ∧ s.hetznerServerId ∈ ρ'.gone) ?_ _ ⟨rfl, rfl, ?_⟩) ?_ fun _ _ h => h
    · rintro s l ρ ⟨hheld, hlisted, hl⟩
      obtain ⟨hs, hgone⟩ := hl s List.mem_cons_self
      refine ⟨⟨servers, hlisted, s, hs, rfl, hgone⟩, fun r => ⟨hheld, hlisted, fun s' hs' => ?_⟩⟩
      exact hl s' (List.mem_cons_of_mem _ hs')
    · intro s hs
      refine ⟨workersToRemove_subset servers count hs, ?_⟩
      refine List.mem_append_left _ (List.mem_reverse.mpr ?_)
      rw [List.map_map]
      exact List.mem_map.mpr ⟨s, hs, rfl⟩
    · rintro ρ ⟨⟩ ⟨hheld, -, -⟩
      refine ⟨trivial, fun r => ?_⟩
      rcases r with e | ⟨⟩
      · exact .inl hheld
      · exact ⟨trivial, fun _ => .inl hheld⟩

theorem scaleWorkers_follows (settings : ClusterSettings) (delta : Int) :
    Follows RunRecord.next j.Calls (fun ρ' _ => ρ'.Settled)
      (Clusters.scaleWorkers settings delta).run {} := by
  unfold Clusters.scaleWorkers
  refine follows_bindE (A := fun ρ' _ => ρ' = {}) (E := fun ρ' _ => ρ'.Settled) ?_ ?_ fun _ _ h => h
  · refine ⟨trivial, fun r => ?_⟩
    rcases r with e | cluster
    · exact .inl rfl
    · exact rfl
  rintro _ cluster rfl
  refine follows_iteE (fun _ => .inl rfl) fun _ => ?_
  refine follows_iteE (fun _ => .inl rfl) fun _ => ?_
  refine follows_iteE (fun _ => .inl rfl) fun _ => ?_
  refine ⟨trivial, fun r => ?_⟩
  rcases r with e | ⟨⟩
  · exact .inl rfl
  refine ⟨trivial, fun r => ?_⟩
  rcases r with e | ⟨⟩
  · exact .inl rfl
  refine follows_iteE (fun _ => ?_) fun _ => ?_
  · exact ⟨trivial, fun _ => .inl rfl⟩
  · exact ⟨trivial, fun _ => .inl rfl⟩

/-- Whatever the answers, a run makes the calls of `ClusterJob.Calls` and no others. -/
theorem clusterJob_follows (D : Deployment) (j : ClusterJob) :
    Follows RunRecord.next j.Calls (fun ρ' _ => ρ'.Settled) (j.program D) {} := by
  suffices h : Follows RunRecord.next j.Calls (fun ρ' _ => ρ'.Settled) (j.run D).run {} from
    follows_bind h fun _ _ h => h
  cases j with
  | provision input => exact runProvision_follows input
  | destroy => exact runDestroy_follows
  | scaleOut count clusterName location serverType sshKey userData k3sVersion =>
    exact runScaleOut_follows count clusterName location serverType sshKey userData k3sVersion
  | scaleIn clusterName count => exact runScaleIn_follows clusterName count
  | scaleWorkers delta => exact scaleWorkers_follows D.settings delta

theorem clusterJob_meets (D : Deployment) (j : ClusterJob) :
    Meets (fun h c => j.Calls (.ofTrace h) c) (fun _ _ _ => True)
      (fun h _ => (RunRecord.ofTrace h).Settled) (j.program D) [] :=
  meets_of_follows (P := j.Calls) (Q := fun ρ _ => ρ.Settled) RunRecord.ofTrace_append
    (clusterJob_follows D j)

end Runs

end Kubinate.Clusters
