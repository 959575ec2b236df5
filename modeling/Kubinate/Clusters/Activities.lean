import Kubinate.Clusters.Runner

/-!
# What the workflows call

The activities of a workflow talk to the provider and to the executors, and report their
steps; the tables of the cluster are left to the runner.

* `CloudCall.isActivity`: the calls of the activities.
* `provisionCluster_makes`, `scaleOut_makes`, `scaleIn_makes`, `destroyCluster_makes`: a
  workflow makes no others. Only provisioning reads the token with which workers join.
-/

namespace Kubinate.Clusters

open Platform Library

def joinTokenCommand : String := "sudo cat /var/lib/rancher/k3s/server/node-token"

/-- The calls that activities and reports of progress make. -/
def CloudCall.isActivity : CloudCall → Bool
  | .updateStep .. | .createServer _ | .getServer _ | .deleteServer _ | .sshRun .. | .drainNode ..
  | .deleteNode .. | .publishStep _ => true
  | _ => false

def IsActivity (c : CloudCall) : Prop := c.isActivity = true

/-- An activity that does not read the token. -/
def Joined (c : CloudCall) : Prop := c.isActivity = true ∧ ∀ target, c ≠ .sshRun target joinTokenCommand

section Activities

variable {K : CloudCall → Prop} {ε ε' α : Type}

theorem makes_call {c : CloudCall} (h : K c) : Makes (I := cloud) K (call c) :=
  ⟨h, fun _ => trivial⟩

/-- One call whose error is converted. -/
theorem makes_attempt {convert : ε → ε'} {p : Program cloud (Except ε α)}
    (h : Makes (I := cloud) K p) : Makes (I := cloud) K (attempt convert p).run := by
  refine makes_bind h ?_
  rintro (e | a) <;> trivial

theorem makes_ignore {p : Program cloud α} (h : Makes (I := cloud) K p) :
    Makes (I := cloud) K (ignore p).run :=
  makes_bindE (makes_lift h) fun _ => trivial

theorem progress_makes (hK : ∀ c, Joined c → K c) {progress : Progress}
    (hp : progress = hubOnlyProgress ∨ ∃ id, progress = workflowProgress id) (step : String) :
    Makes (I := cloud) K (ExceptT.lift (ε := ActivityError) (progress step)).run := by
  refine makes_lift ?_
  rcases hp with rfl | ⟨id, rfl⟩
  · exact makes_call (hK _ ⟨rfl, nofun⟩)
  · exact makes_bind (makes_call (hK _ ⟨rfl, nofun⟩)) fun _ => makes_call (hK _ ⟨rfl, nofun⟩)

theorem createServer_makes (hK : ∀ c, Joined c → K c) (params : CreateServerParams) :
    Makes (I := cloud) K (hetznerCreateServer params).run :=
  makes_attempt (makes_call (hK _ ⟨rfl, nofun⟩))

theorem deleteServer_makes (hK : ∀ c, Joined c → K c) (id : Nat) :
    Makes (I := cloud) K (hetznerDeleteServerIdempotent id).run := by
  refine makes_bind (makes_call (hK _ ⟨rfl, nofun⟩)) ?_
  rintro (e | ⟨⟩)
  · by_cases he : e.isNotFound = true
    · simp only [he]
      trivial
    · simp only [he]
      trivial
  · trivial

theorem pollCloudInit_makes (hK : ∀ c, Joined c → K c) (id n : Nat) :
    Makes (I := cloud) K (pollCloudInit id n).run := by
  induction n with
  | zero => trivial
  | succ n ih =>
    refine ⟨hK _ ⟨rfl, nofun⟩, fun r => ?_⟩
    rcases r with e | ⟨_ | _ | _, ipv4, privateIpv4⟩
    · trivial
    · trivial
    · exact ih
    · trivial

theorem sshTarget_makes (server : HetznerServer) :
    Makes (I := cloud) K (sshTarget server).run := by
  unfold sshTarget
  split <;> trivial

/-- The command that joins a worker is another one. -/
theorem joinCommand_ne (text : String) : "k3sup join --server-ip " ++ text ≠ joinTokenCommand := by
  intro h
  have hhead := congrArg (fun s => s.toList.head?) h
  simp [joinTokenCommand] at hhead

theorem joinWorkers_makes (hK : ∀ c, Joined c → K c) (workers : List HetznerServer)
    (ip token version : String) :
    Makes (I := cloud) K (joinWorkers workers ip token version).run := by
  refine makes_forM (fun worker => ?_) workers
  refine makes_bindE (sshTarget_makes worker) fun target => ?_
  refine makes_bindE (makes_attempt (makes_call (hK _ ⟨rfl, fun target' h => ?_⟩))) fun _ => trivial
  have hne := joinCommand_ne (shellEscape ip ++ " --k3s-version " ++ shellEscape version ++
    " --token " ++ shellEscape token)
  simp only [← String.append_assoc] at hne
  exact hne (CloudCall.sshRun.inj h).2

end Activities

/-! ## Workflows -/

theorem isActivity_of_joined (c : CloudCall) (h : Joined c) : IsActivity c := h.1

theorem provisionCluster_makes {newV5 : String → Uuid} {clusterId : Uuid} {progress : Progress}
    (hp : progress = hubOnlyProgress ∨ ∃ id, progress = workflowProgress id)
    (input : ProvisionClusterInput) :
    Makes (I := cloud) IsActivity (provisionCluster newV5 clusterId progress input).run := by
  have hK := isActivity_of_joined
  have hssh (command : String) (target : SshTarget) :
      Makes (I := cloud) IsActivity (sshRun target command).run :=
    makes_attempt (makes_call rfl)
  unfold provisionCluster
  refine makes_bindE (progress_makes hK hp _) fun _ => ?_
  refine makes_bindE (createServer_makes hK _) fun cpId => ?_
  refine makes_bindE (progress_makes hK hp _) fun _ => ?_
  refine makes_bindE (pollCloudInit_makes hK cpId _) fun cpServer => ?_
  refine makes_bindE (sshTarget_makes cpServer) fun cpTarget => ?_
  refine makes_bindE (progress_makes hK hp _) fun _ => ?_
  refine makes_bindE ?_ fun joinToken => ?_
  · exact makes_bindE (hssh _ _) fun _ => makes_bindE (hssh _ _) fun _ => trivial
  refine makes_bindE (progress_makes hK hp _) fun _ => ?_
  refine makes_bindE (makes_mapM (fun index => createServer_makes hK _) _) fun workerIds => ?_
  refine makes_bindE (progress_makes hK hp _) fun _ => ?_
  refine makes_bindE (makes_mapM (fun id => pollCloudInit_makes hK id _) _) fun workers => ?_
  refine makes_bindE (progress_makes hK hp _) fun _ => ?_
  refine makes_bindE (joinWorkers_makes hK workers _ _ _) fun _ => ?_
  refine makes_bindE (progress_makes hK hp _) fun _ => ?_
  refine makes_bindE (makes_bindE (hssh _ _) fun _ => trivial) fun kubeconfig => ?_
  exact makes_bindE (progress_makes hK hp _) fun _ => trivial

theorem scaleOut_makes {newV5 : String → Uuid} {clusterId : Uuid} (input : ScaleOutInput) :
    Makes (I := cloud) Joined (scaleOut newV5 clusterId hubOnlyProgress input).run := by
  have hK (c : CloudCall) (h : Joined c) : Joined c := h
  unfold scaleOut
  refine makes_bindE (progress_makes hK (.inl rfl) _) fun _ => ?_
  refine makes_bindE (makes_mapM (fun index => createServer_makes hK _) _) fun ids => ?_
  refine makes_bindE (progress_makes hK (.inl rfl) _) fun _ => ?_
  refine makes_bindE (makes_mapM (fun id => pollCloudInit_makes hK id _) _) fun workers => ?_
  refine makes_bindE (progress_makes hK (.inl rfl) _) fun _ => ?_
  refine makes_bindE (joinWorkers_makes hK workers _ _ _) fun _ => ?_
  exact makes_bindE (progress_makes hK (.inl rfl) _) fun _ => trivial

theorem scaleIn_makes (targets : List WorkerToRemove) (path : String) :
    Makes (I := cloud) Joined (scaleIn hubOnlyProgress targets path).run := by
  have hK (c : CloudCall) (h : Joined c) : Joined c := h
  unfold scaleIn
  refine makes_bindE (progress_makes hK (.inl rfl) _) fun _ => ?_
  refine makes_bindE (makes_forM (fun t => makes_attempt (makes_call ⟨rfl, nofun⟩)) _) fun _ => ?_
  refine makes_bindE (progress_makes hK (.inl rfl) _) fun _ => ?_
  refine makes_bindE (makes_forM (fun t => makes_attempt (makes_call ⟨rfl, nofun⟩)) _) fun _ => ?_
  refine makes_bindE (progress_makes hK (.inl rfl) _) fun _ => ?_
  refine makes_bindE (makes_forM (fun (t : WorkerToRemove) => deleteServer_makes hK t.serverId) _)
    fun _ => ?_
  exact progress_makes hK (.inl rfl) _

theorem destroyCluster_makes (ids : List Nat) :
    Makes (I := cloud) Joined (destroyCluster hubOnlyProgress ids).run := by
  have hK (c : CloudCall) (h : Joined c) : Joined c := h
  unfold destroyCluster
  refine makes_bindE (progress_makes hK (.inl rfl) _) fun _ => ?_
  refine makes_bindE (makes_forM (fun id => deleteServer_makes hK id) _) fun _ => ?_
  exact progress_makes hK (.inl rfl) _

end Kubinate.Clusters
