import Kubinate.Clusters.Runner

/-!
# What a scale request or a scaling run has done so far

The part of the trace that matters for the number of workers.

* `ClusterJob.ScaleCalls`: the calls a request or a scaling run may make with such a record.
  A run sets the cluster ready only after it has recorded as many workers as it was started
  for, or has deleted the rows of the workers it chose.
* `scalingJob_meets`: they make no other calls, whatever the answers, and a request that has
  written the count starts its run.
-/

namespace Kubinate.Clusters

open Platform Library

structure ScaleRecord where
  /-- the cluster as the request has read it -/
  read : Option Cluster := none
  /-- the request has written the count -/
  wrote : Bool := false
  spawned : Bool := false
  /-- the run has tried to set the status to scaling -/
  started : Bool := false
  /-- the run has given up, or has set the cluster ready -/
  ended : Bool := false
  /-- the servers it has created, oldest first -/
  made : List Nat := []
  /-- how many of them it has recorded -/
  recorded : Nat := 0
  listed : Option (List ClusterServer) := none
  /-- how many rows it has deleted -/
  removed : Nat := 0

namespace ScaleRecord

def next (ρ : ScaleRecord) : (c : CloudCall) → c.Answer → ScaleRecord
  | .get, .ok cluster => { ρ with read := some cluster }
  | .updateWorkerCount _, .ok () => { ρ with wrote := true }
  | .spawn _, _ => { ρ with spawned := true }
  | .updateStatus .scaling _, .ok () => { ρ with started := true }
  | .updateStatus .scaling _, .error _ => { ρ with started := true, ended := true }
  | .updateStatus .ready _, _ => { ρ with ended := true }
  | .createServer _, .ok id => { ρ with made := ρ.made ++ [id] }
  | .recordServer .., .ok () => { ρ with recorded := ρ.recorded + 1 }
  | .recordServer .., .error _ => { ρ with ended := true }
  | .listServers, .ok servers => { ρ with listed := some servers }
  | .softDeleteServerRow _, _ => { ρ with removed := ρ.removed + 1 }
  | _, _ => ρ

def ofTrace (h : Trace cloud) : ScaleRecord := h.foldl (fun ρ e => ρ.next e.1 e.2) {}

theorem ofTrace_append (h : Trace cloud) (c : cloud.Call) (r : cloud.Answer c) :
    ofTrace (h ++ [⟨c, r⟩]) = (ofTrace h).next c r := by
  rw [ofTrace, List.foldl_append]
  rfl

/-- A run that has set the status to scaling and is not over. -/
def UnderWay (ρ : ScaleRecord) : Prop := ρ.started = true ∧ ρ.ended = false

end ScaleRecord

/-- Calls that leave the status, the count and the rows of the cluster alone. -/
def CloudCall.inert : CloudCall → Bool
  | .get | .updateStatus .. | .updateWorkerCount _ | .recordServer .. | .listServers
  | .softDeleteServers | .softDeleteServerRow _ | .createServer _ | .spawn _ => false
  | _ => true

/-- A request reads the cluster, writes a count inside the bounds and starts a run. -/
def ScaleRecord.RequestCalls (delta : Int) (ρ : ScaleRecord) : CloudCall → Prop
  | .get => ρ.wrote = false
  | .updateWorkerCount n =>
    ρ.wrote = false ∧ ∃ cluster, ρ.read = some cluster ∧
      n = saturatingAdd cluster.workerCount delta ∧ minWorkerCount ≤ n ∧ n ≤ maxWorkerCount
  | .spawn job =>
    ρ.wrote = true ∧
      (0 < delta ∧ (∃ name location serverType sshKey userData k3sVersion, job =
        .scaleOut delta.toNat name location serverType sshKey userData k3sVersion) ∨
      delta < 0 ∧ ∃ name, job = .scaleIn name (-delta).toNat)
  | c => c.inert = true ∧ ρ.wrote = false

/-- Workers are recorded in the order in which they were created. -/
def ScaleRecord.ScaleOutCalls (count : Nat) (ρ : ScaleRecord) : CloudCall → Prop
  | .updateStatus .scaling _ => ρ = {}
  | .updateStatus .ready _ => ρ.UnderWay ∧ ρ.recorded = count
  | .updateStatus .failed _ | .listServers | .createServer _ => ρ.UnderWay
  | .recordServer hetznerServerId role .. =>
    ρ.UnderWay ∧ role = .worker ∧ (ρ.made[ρ.recorded]?).map toI64 = some hetznerServerId
  | c => c.inert = true ∧ ρ.started = true

def ScaleRecord.ScaleInCalls (count : Nat) (ρ : ScaleRecord) : CloudCall → Prop
  | .updateStatus .scaling _ => ρ = {}
  | .updateStatus .ready _ =>
    ρ.UnderWay ∧ ∃ rows, ρ.listed = some rows ∧ ρ.removed = (workersToRemove rows count).length
  | .updateStatus .failed _ => ρ.UnderWay
  | .listServers => ρ.UnderWay ∧ ρ.listed = none ∧ ρ.removed = 0
  | .softDeleteServerRow id =>
    ρ.UnderWay ∧ ∃ rows, ρ.listed = some rows ∧
      ((workersToRemove rows count)[ρ.removed]?).map (·.id) = some id
  | c => c.inert = true ∧ ρ.started = true

/-- Nothing is called after a run was started. -/
def ClusterJob.ScaleCalls (ρ : ScaleRecord) (c : CloudCall) : ClusterJob → Prop
  | .scaleWorkers delta => ρ.spawned = false ∧ ρ.RequestCalls delta c
  | .scaleOut count .. => ρ.ScaleOutCalls count c
  | .scaleIn _ count => ρ.ScaleInCalls count c
  | .provision _ | .destroy => False

/-- A request that has written the count starts its run. -/
def ScaleRecord.Settled (ρ : ScaleRecord) : Prop := ρ.wrote = true → ρ.spawned = true

namespace ScaleRecord

variable {ρ : ScaleRecord} {c : CloudCall} {α : Type} {count : Nat}

theorem next_inert (hc : c.inert = true) (r : c.Answer) : ρ.next c r = ρ := by
  cases c <;> first | rfl | cases hc

theorem scaleOutCalls_inert (hρ : ρ.started = true) (hc : c.inert = true) :
    ρ.ScaleOutCalls count c := by
  cases c <;> first | exact ⟨hc, hρ⟩ | cases hc

theorem scaleInCalls_inert (hρ : ρ.started = true) (hc : c.inert = true) :
    ρ.ScaleInCalls count c := by
  cases c <;> first | exact ⟨hc, hρ⟩ | cases hc

/-- An activity with inert calls only, whose result satisfies `A`. -/
def Leaves (P : ScaleRecord → CloudCall → Prop) (ρ : ScaleRecord) (A : α → Prop)
    (p : Activity α) : Prop :=
  Follows next P (Post (fun ρ' a => ρ' = ρ ∧ A a) fun ρ' _ => ρ' = ρ) p.run ρ

end ScaleRecord

/-! ## Activities -/

section Activities

open ScaleRecord

variable {P : ScaleRecord → CloudCall → Prop} {ρ : ScaleRecord} {α β : Type} {A : α → Prop}
  {B : β → Prop}

theorem leaves_bind {p : Activity α} {f : α → Activity β} (hp : Leaves P ρ A p)
    (hf : ∀ a, A a → Leaves P ρ B (f a)) : Leaves P ρ B (p >>= f) := by
  refine follows_bindE hp ?_ fun _ _ h => h
  rintro _ a ⟨rfl, ha⟩
  exact hf a ha

theorem leaves_forM {f : α → Activity Unit} (hf : ∀ a, Leaves P ρ (fun _ => True) (f a))
    (l : List α) : Leaves P ρ (fun _ => True) (l.forM f) := by
  refine (follows_forM (E := fun ρ' _ => ρ' = ρ) (K := fun _ ρ' => ρ' = ρ) ?_ l rfl).mono ?_
  · rintro a l _ rfl
    refine (hf a).mono ?_
    rintro ρ' (e | ⟨⟩) hr
    · exact hr
    · exact hr.1
  · rintro ρ' (e | ⟨⟩) hr
    · exact hr
    · exact ⟨hr, trivial⟩

section Inert

variable (hinert : ∀ c : CloudCall, c.inert = true → P ρ c)
include hinert

theorem progress_leaves (step : String) :
    Leaves P ρ (fun _ => True) (ExceptT.lift (hubOnlyProgress step)) :=
  ⟨hinert _ rfl, fun _ => ⟨rfl, trivial⟩⟩

theorem sshRun_leaves (target : SshTarget) (command : String) :
    Leaves P ρ (fun _ => True) (sshRun target command) := by
  refine ⟨hinert _ rfl, fun r => ?_⟩
  rcases r with e | out
  · rfl
  · exact ⟨rfl, trivial⟩

theorem pollCloudInit_leaves (id n : Nat) :
    Leaves P ρ (fun server => server.id = id) (pollCloudInit id n) := by
  induction n with
  | zero => rfl
  | succ n ih =>
    refine ⟨hinert _ rfl, fun r => ?_⟩
    rcases r with e | ⟨_ | _ | _, ipv4, privateIpv4⟩
    · rfl
    · exact ⟨rfl, rfl⟩
    · exact ih
    · rfl

/-- Waiting keeps the servers in their order. -/
theorem mapM_waitForCloudInit_leaves (ids : List Nat) :
    Leaves P ρ (fun servers => servers.map (·.id) = ids) (ids.mapM waitForCloudInit) := by
  refine (follows_mapM (E := fun ρ' _ => ρ' = ρ)
    (K := fun l servers ρ' => ρ' = ρ ∧ servers.map (·.id) ++ l = ids) ?_ ids [] ⟨rfl, rfl⟩).mono ?_
  · rintro id l servers _ ⟨rfl, hids⟩
    refine (pollCloudInit_leaves hinert id cloudInitMaxAttempts).mono ?_
    rintro ρ' (e | server) hr
    · exact hr
    · obtain ⟨rfl, rfl⟩ := hr
      exact ⟨rfl, by simpa using hids⟩
  · rintro ρ' (e | servers) hr
    · exact hr
    · simpa [Post] using hr

theorem joinWorkers_leaves (workers : List HetznerServer) (ip token version : String) :
    Leaves P ρ (fun _ => True) (joinWorkers workers ip token version) := by
  refine leaves_forM (fun worker => ?_) workers
  refine leaves_bind (A := fun _ => True) ?_ fun target _ => ?_
  · unfold sshTarget
    cases worker.ipv4 with
    | none => rfl
    | some host => exact ⟨rfl, trivial⟩
  · exact leaves_bind (sshRun_leaves hinert _ _) fun _ _ => ⟨rfl, trivial⟩

theorem hetznerDeleteServerIdempotent_leaves (id : Nat) :
    Leaves P ρ (fun _ => True) (hetznerDeleteServerIdempotent id) := by
  refine ⟨hinert _ rfl, fun r => ?_⟩
  rcases r with e | ⟨⟩
  · show Follows _ _ _ (if e.isNotFound then _ else _) _
    split
    · exact ⟨rfl, trivial⟩
    · rfl
  · exact ⟨rfl, trivial⟩

theorem kubectlDrainNode_leaves (kubeconfigPath nodeName : String) :
    Leaves P ρ (fun _ => True) (kubectlDrainNode kubeconfigPath nodeName) := by
  refine ⟨hinert _ rfl, fun r => ?_⟩
  rcases r with e | ⟨⟩
  · rfl
  · exact ⟨rfl, trivial⟩

theorem kubectlDeleteNode_leaves (kubeconfigPath nodeName : String) :
    Leaves P ρ (fun _ => True) (kubectlDeleteNode kubeconfigPath nodeName) := by
  refine ⟨hinert _ rfl, fun r => ?_⟩
  rcases r with e | ⟨⟩
  · rfl
  · exact ⟨rfl, trivial⟩

theorem scaleIn_leaves (targets : List WorkerToRemove) (kubeconfigPath : String) :
    Leaves P ρ (fun _ => True) (scaleIn hubOnlyProgress targets kubeconfigPath) := by
  unfold scaleIn
  refine leaves_bind (progress_leaves hinert _) fun _ _ => ?_
  refine leaves_bind (leaves_forM (fun t => kubectlDrainNode_leaves hinert _ _) targets)
    fun _ _ => ?_
  refine leaves_bind (progress_leaves hinert _) fun _ _ => ?_
  refine leaves_bind (leaves_forM (fun t => kubectlDeleteNode_leaves hinert _ _) targets)
    fun _ _ => ?_
  refine leaves_bind (progress_leaves hinert _) fun _ _ => ?_
  refine leaves_bind (leaves_forM (fun t => hetznerDeleteServerIdempotent_leaves hinert _) targets)
    fun _ _ => ?_
  exact progress_leaves hinert _

end Inert

/-- A run that fails in such an activity is still under way. -/
theorem ScaleRecord.Leaves.underWay {p : Activity α} (h : Leaves P ρ A p) (hρ : ρ.UnderWay) :
    Follows next P (Post (fun ρ' a => ρ' = ρ ∧ A a) fun ρ' _ => ρ'.UnderWay) p.run ρ := by
  refine Follows.mono h ?_
  rintro ρ' (e | a) hr
  · subst hr
    exact hρ
  · exact hr

theorem createWorkers_follows {count : Nat} (params : Nat → CreateServerParams)
    (hρ : ρ.UnderWay) (hmade : ρ.made = []) :
    Follows next (ScaleOutCalls count)
      (Post (fun ρ' ids => ids.length = count ∧ ρ' = { ρ with made := ids })
        fun ρ' _ => ρ'.UnderWay)
      ((List.range count).mapM fun offset => hetznerCreateServer (params offset)).run ρ := by
  refine (follows_mapM (E := fun ρ' _ => ρ'.UnderWay)
    (K := fun l ids ρ' => ids.length + l.length = count ∧ ρ' = { ρ with made := ids })
    ?_ (List.range count) [] ⟨by simp, by rw [← hmade]⟩).mono ?_
  · rintro offset l ids _ ⟨hlen, rfl⟩
    refine ⟨hρ, fun r => ?_⟩
    rcases r with e | id
    · exact hρ
    · refine ⟨?_, rfl⟩
      rw [List.length_append, List.length_singleton]
      rw [List.length_cons] at hlen
      omega
  · rintro ρ' (e | ids) hr
    · exact hr
    · simpa [Post] using hr

/-- The workers of a scale-out, in the order of their creation. -/
theorem scaleOut_follows_made {newV5 : String → Uuid} {clusterId : Uuid} (input : ScaleOutInput)
    {count : Nat} (hcount : input.count = count) (hρ : ρ.UnderWay) (hmade : ρ.made = []) :
    Follows next (ScaleOutCalls count)
      (Post (fun ρ' workers => workers.length = count ∧
        ρ' = { ρ with made := workers.map (·.id) }) fun ρ' _ => ρ'.UnderWay)
      (scaleOut newV5 clusterId hubOnlyProgress input).run ρ := by
  subst hcount
  have hinert (ids : List Nat) (c : CloudCall) (hc : c.inert = true) :
      ScaleOutCalls input.count { ρ with made := ids } c :=
    scaleOutCalls_inert hρ.1 hc
  unfold scaleOut
  refine follows_bindE ((progress_leaves (fun _ => scaleOutCalls_inert hρ.1) _).underWay hρ) ?_
    fun _ _ h => h
  rintro _ _ ⟨rfl, -⟩
  refine follows_bindE (createWorkers_follows _ hρ hmade) ?_ fun _ _ h => h
  rintro _ ids ⟨hlen, rfl⟩
  refine follows_bindE ((progress_leaves (hinert ids) _).underWay hρ) ?_ fun _ _ h => h
  rintro _ _ ⟨rfl, -⟩
  refine follows_bindE ((mapM_waitForCloudInit_leaves (hinert ids) ids).underWay hρ) ?_
    fun _ _ h => h
  rintro _ workers ⟨rfl, rfl⟩
  refine follows_bindE ((progress_leaves (hinert _) _).underWay hρ) ?_ fun _ _ h => h
  rintro _ _ ⟨rfl, -⟩
  refine follows_bindE ((joinWorkers_leaves (hinert _) _ _ _ _).underWay hρ) ?_ fun _ _ h => h
  rintro _ _ ⟨rfl, -⟩
  refine follows_bindE ((progress_leaves (hinert _) _).underWay hρ) ?_ fun _ _ h => h
  rintro _ _ ⟨rfl, -⟩
  exact ⟨by simpa using hlen, rfl⟩

end Activities

/-! ## Runs and requests -/

section Runs

open ScaleRecord

variable {newV5 : String → Uuid} {clusterId : Uuid}

theorem recordWorkers_follows {ρ : ScaleRecord} (count : Nat) (workers : List HetznerServer)
    (hρ : ρ.UnderWay) (hrecorded : ρ.recorded = 0) (hmade : ρ.made = workers.map (·.id)) :
    Follows next (ScaleOutCalls count)
      (Post (fun ρ' _ => ρ' = { ρ with recorded := workers.length }) fun _ _ => True)
      (workers.forM (recordServer .worker)).run ρ := by
  refine (follows_forM (E := fun _ _ => True)
    (K := fun l ρ' => ∃ done, done ++ l = workers ∧ ρ' = { ρ with recorded := done.length })
    ?_ workers ⟨[], rfl, by rw [List.length_nil, ← hrecorded]⟩).mono ?_
  · rintro server l _ ⟨done, rfl, rfl⟩
    refine ⟨⟨hρ, rfl, ?_⟩, fun r => ?_⟩
    · simp [hmade]
    · rcases r with e | ⟨⟩
      · exact trivial
      · exact ⟨done ++ [server], by simp, by simp [next]⟩
  · rintro ρ' (e | ⟨⟩) hr
    · exact hr
    · obtain ⟨done, hdone, rfl⟩ := hr
      rw [List.append_nil] at hdone
      exact hdone ▸ rfl

/-- `?` on a call in a run: where it fails, the run ends. -/
theorem follows_repository_end {P : ScaleRecord → CloudCall → Prop} {ρ : ScaleRecord} {α : Type}
    {A : ScaleRecord → α → Prop} {p : Program cloud (Except PlatformError α)}
    (hp : Follows next P (Post A fun _ _ => True) p ρ) :
    Follows next P (Post A fun _ _ => True) (repository p).run ρ := by
  refine follows_bind hp ?_
  rintro ρ' (e | a) hr
  · exact hr
  · exact hr

theorem beginScaling_follows {P : ScaleRecord → CloudCall → Prop}
    (h : P {} (.updateStatus .scaling none)) :
    Follows next P (Post (fun ρ' _ => ρ' = { started := true }) fun _ _ => True)
      (repository (call (.updateStatus .scaling none))).run {} := by
  refine follows_repository_end ⟨h, fun r => ?_⟩
  rcases r with e | ⟨⟩
  · exact trivial
  · exact rfl

theorem listServers_follows_listed {P : ScaleRecord → CloudCall → Prop} {ρ : ScaleRecord}
    (h : P ρ .listServers) :
    Follows next P (Post (fun ρ' servers => ρ' = { ρ with listed := some servers }) fun _ _ => True)
      (repository (call .listServers)).run ρ := by
  refine follows_repository_end ⟨h, fun r => ?_⟩
  rcases r with e | servers
  · exact trivial
  · exact rfl

theorem runScaleOut_scales (count : Nat)
    (clusterName location serverType sshKey userData k3sVersion : String) :
    Follows next (ScaleOutCalls count) (fun _ _ => True)
      (runScaleOut newV5 clusterId count clusterName location serverType sshKey userData
        k3sVersion).run {} := by
  refine follows_bindE (beginScaling_follows rfl) ?_ fun _ _ h => h
  rintro _ _ rfl
  refine follows_bindE (listServers_follows_listed ⟨rfl, rfl⟩) ?_ fun _ _ h => h
  rintro _ servers rfl
  split
  · exact trivial
  split
  · exact trivial
  refine ⟨⟨rfl, rfl⟩, fun r => ?_⟩
  rcases r with e | joinToken
  · exact trivial
  refine follows_bindE (follows_lift (scaleOut_follows_made _ rfl ⟨rfl, rfl⟩ rfl)) ?_ fun _ _ h => h
  rintro ρ (err | workers) hr
  · exact ⟨hr, fun _ => ⟨scaleOutCalls_inert hr.1 rfl, fun _ => trivial⟩⟩
  · obtain ⟨hlen, rfl⟩ := hr
    refine follows_bindE (recordWorkers_follows count workers ⟨rfl, rfl⟩ rfl rfl) ?_ fun _ _ h => h
    rintro _ _ rfl
    refine ⟨⟨⟨rfl, rfl⟩, hlen⟩, fun r => ?_⟩
    rcases r with e | ⟨⟩
    · exact trivial
    · exact ⟨⟨rfl, rfl⟩, fun _ => trivial⟩

theorem fetchKubeconfig_leaves {P : ScaleRecord → CloudCall → Prop} {ρ : ScaleRecord}
    (hinert : ∀ c : CloudCall, c.inert = true → P ρ c) :
    Follows next P (Post (fun ρ' _ => ρ' = ρ) fun _ _ => True)
      (ClusterService.fetchKubeconfig clusterId).run ρ := by
  refine ⟨hinert _ rfl, fun r => ?_⟩
  rcases r with e | _ | secretId
  · exact trivial
  · exact trivial
  refine ⟨hinert _ rfl, fun r => ?_⟩
  rcases r with e | kubeconfig
  · exact trivial
  · rfl

/-- The rows are deleted one after the other. -/
theorem removeRows_follows {ρ : ScaleRecord} {rows : List ClusterServer} (count : Nat)
    (hρ : ρ.UnderWay) (hlisted : ρ.listed = some rows) (hremoved : ρ.removed = 0) :
    Follows next (ScaleInCalls count)
      (Post (fun ρ' _ => ρ' = { ρ with removed := (workersToRemove rows count).length })
        fun _ _ => True)
      ((workersToRemove rows count).forM fun s => ignore (call (.softDeleteServerRow s.id))).run
      ρ := by
  refine (follows_forM (E := fun _ _ => True)
    (K := fun l ρ' => ∃ done, done ++ l = workersToRemove rows count ∧
      ρ' = { ρ with removed := done.length })
    ?_ (workersToRemove rows count) ⟨[], rfl, by rw [List.length_nil, ← hremoved]⟩).mono ?_
  · rintro s l _ ⟨done, hdone, rfl⟩
    refine ⟨⟨hρ, rows, hlisted, ?_⟩, fun r => ⟨done ++ [s], by simpa using hdone, ?_⟩⟩
    · simp [← hdone]
    · simp [next]
  · rintro ρ' (e | ⟨⟩) hr
    · exact hr
    · obtain ⟨done, hdone, rfl⟩ := hr
      rw [List.append_nil] at hdone
      exact hdone ▸ rfl

theorem runScaleIn_scales (clusterName : String) (count : Nat) :
    Follows next (ScaleInCalls count) (fun _ _ => True)
      (runScaleIn clusterId clusterName count).run {} := by
  refine follows_bindE (beginScaling_follows rfl) ?_ fun _ _ h => h
  rintro _ _ rfl
  refine follows_bindE (listServers_follows_listed ⟨⟨rfl, rfl⟩, rfl, rfl⟩) ?_ fun _ _ h => h
  rintro _ servers rfl
  have hinert (c : CloudCall) (hc : c.inert = true) :
      ScaleInCalls count { started := true, listed := some servers } c :=
    scaleInCalls_inert rfl hc
  refine follows_bindE (fetchKubeconfig_leaves hinert) ?_ fun _ _ h => h
  rintro _ kubeconfig rfl
  refine ⟨hinert _ rfl, fun fileId => ⟨hinert _ rfl, fun r => ?_⟩⟩
  rcases r with e | ⟨⟩
  · exact trivial
  change Follows _ _ _ _ ({ started := true, listed := some servers } : ScaleRecord)
  refine follows_bindE (follows_lift ((scaleIn_leaves hinert _ _).underWay ⟨rfl, rfl⟩)) ?_
    fun _ _ h => h
  intro ρ result hr
  have hstarted : ρ.UnderWay := by
    rcases result with err | ⟨⟩
    · exact hr
    · obtain ⟨rfl, -⟩ := hr
      exact ⟨rfl, rfl⟩
  refine ⟨scaleInCalls_inert hstarted.1 rfl, fun _ => ?_⟩
  rcases result with err | ⟨⟩
  · exact ⟨hstarted, fun _ => ⟨scaleInCalls_inert hstarted.1 rfl, fun _ => trivial⟩⟩
  · obtain ⟨rfl, -⟩ := hr
    refine follows_bindE (removeRows_follows count ⟨rfl, rfl⟩ rfl rfl) ?_ fun _ _ h => h
    rintro _ _ rfl
    refine ⟨⟨⟨rfl, rfl⟩, servers, rfl, rfl⟩, fun r => ?_⟩
    rcases r with e | ⟨⟩
    · exact trivial
    · exact ⟨⟨rfl, rfl⟩, fun _ => trivial⟩

theorem scaleWorkers_scales (settings : ClusterSettings) (delta : Int) :
    Follows next (fun ρ c => ρ.spawned = false ∧ ρ.RequestCalls delta c) (fun ρ' _ => ρ'.Settled)
      (Clusters.scaleWorkers settings delta).run {} := by
  unfold Clusters.scaleWorkers
  refine follows_bindE (A := fun ρ' cluster => ρ' = { read := some cluster })
    (E := fun ρ' _ => ρ'.Settled) ?_ ?_ fun _ _ h => h
  · refine ⟨⟨rfl, rfl⟩, fun r => ?_⟩
    rcases r with e | cluster
    · exact nofun
    · exact rfl
  rintro _ cluster rfl
  refine follows_iteE (fun _ => nofun) fun _ => ?_
  refine follows_iteE (fun _ => nofun) fun hdelta => ?_
  refine follows_iteE (fun _ => nofun) fun hrange => ?_
  refine ⟨⟨rfl, rfl, rfl⟩, fun r => ?_⟩
  rcases r with e | ⟨⟩
  · exact nofun
  refine ⟨⟨rfl, rfl, cluster, rfl, rfl, not_not.mp hrange⟩, fun r => ?_⟩
  rcases r with e | ⟨⟩
  · exact nofun
  refine follows_iteE (fun hpos => ?_) fun hneg => ?_
  · exact ⟨⟨rfl, rfl, .inl ⟨hpos, _, _, _, _, _, _, rfl⟩⟩, fun _ _ => rfl⟩
  · exact ⟨⟨rfl, rfl, .inr ⟨by omega, _, rfl⟩⟩, fun _ _ => rfl⟩

/-- Only a request has to end in a certain way. -/
def ClusterJob.ScaleEnds (ρ : ScaleRecord) : ClusterJob → Prop
  | .scaleWorkers _ => ρ.Settled
  | _ => True

/-- The jobs of the scale request. -/
def ClusterJob.scales : ClusterJob → Bool
  | .scaleWorkers _ | .scaleOut .. | .scaleIn .. => true
  | .provision _ | .destroy => false

theorem scalingJob_meets (D : Deployment) {j : ClusterJob} (hj : j.scales = true) :
    Meets (fun h c => j.ScaleCalls (.ofTrace h) c) (fun _ _ _ => True)
      (fun h _ => j.ScaleEnds (.ofTrace h)) (j.program D) [] := by
  suffices h : Follows next (fun ρ c => j.ScaleCalls ρ c) (fun ρ _ => j.ScaleEnds ρ)
      (j.run D).run {} from
    meets_of_follows (P := fun ρ c => j.ScaleCalls ρ c) (Q := fun ρ _ => j.ScaleEnds ρ)
      ofTrace_append (follows_bind h fun _ _ h => h)
  cases j with
  | provision | destroy => cases hj
  | scaleOut count clusterName location serverType sshKey userData k3sVersion =>
    exact runScaleOut_scales count clusterName location serverType sshKey userData k3sVersion
  | scaleIn clusterName count => exact runScaleIn_scales clusterName count
  | scaleWorkers delta => exact scaleWorkers_scales D.settings delta

end Runs

end Kubinate.Clusters
