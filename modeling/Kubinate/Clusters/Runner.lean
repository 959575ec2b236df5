import Kubinate.Clusters.Workflows

/-!
# The runner

The runs of `LocalRunner` in `crates/workflows/src/runner.rs` on one cluster, with the use
cases of `crates/cluster/src/service.rs` they go through, and the request that starts the
scaling runs (`scale_workers` in `crates/api/src/clusters.rs`).

`runnerPool` interleaves any number of them between their calls.
-/

namespace Kubinate.Clusters

open Platform Library

/-- What a run or a request ends with when it fails. -/
inductive RunError where
  | platform (error : PlatformError)
  | message (text : String)
deriving DecidableEq, Repr

abbrev Run := ExceptT RunError (Program cloud)

/-- `.await?` on a method of a repository or of the secret store. -/
def repository {α : Type} (p : Program cloud (Except PlatformError α)) : Run α :=
  attempt .platform p

/-- `.await.ok()` -/
def ignore {α : Type} (p : Program cloud α) : Run Unit := do
  let _ ← ExceptT.lift p

/-- The result of a workflow, to be looked at. -/
def outcomeOf {α : Type} (p : Activity α) : Run (Except ActivityError α) := ExceptT.lift p.run

/-- `i64::try_from(id).unwrap_or(i64::MAX)` -/
def toI64 (id : Nat) : Nat := if id < 2 ^ 63 then id else 2 ^ 63 - 1

/-! ## The cluster service -/

namespace ClusterService

/-- A secret whose handle cannot be recorded is deleted again, if possible. -/
def storeKubeconfig (kubeconfig : String) : Run Unit := do
  let secretId ← repository (call (.putSecret kubeconfig))
  let recorded ← ExceptT.lift (call (.setKubeconfigSecret secretId))
  match recorded with
  | .ok () => return ()
  | .error err =>
    ignore (call (.deleteSecret secretId))
    throw (.platform err)

def fetchKubeconfig (clusterId : Uuid) : Run String := do
  let secretId ← repository (call .kubeconfigSecret)
  match secretId with
  | none =>
    throw (.platform (.notFound
      ("kubeconfig for cluster/" ++ clusterId.text ++ " not yet available")))
  | some secretId => repository (call (.getSecret secretId))

def beginDestroy : Run Cluster := do
  let cluster ← repository (call .get)
  if cluster.status = .destroyed then
    throw (.platform (.conflict "cluster is already destroyed"))
  repository (call (.updateStatus .destroying none))
  return cluster

def finalizeDestroy : Run Unit := do
  let secretId ← repository (call .kubeconfigSecret)
  match secretId with
  | none => pure ()
  | some secretId => ignore (call (.deleteSecret secretId))
  repository (call .softDelete)
  repository (call (.updateStatus .destroyed none))

def markDestroyFailed (reason : String) : Program cloud (Except PlatformError Unit) :=
  call (.updateStatus .failed (some reason))

end ClusterService

/-! ## The runs -/

/-- Writes the step to the workflow row, if possible, and tells the subscribers. -/
def workflowProgress (workflowId : Uuid) : Progress := fun step => do
  let _ ← call (.updateStep workflowId step)
  call (.publishStep step)

def hubOnlyProgress : Progress := fun step => call (.publishStep step)

/-- Only settled states are published. -/
def publishTerminal (status : ClusterStatus) (reason : Option String) : Program cloud Unit :=
  match status with
  | .ready | .failed | .destroyed => call (.publishTerminal status reason)
  | .pending | .provisioning | .scaling | .destroying => pure ()

def recordServer (role : ClusterNodeRole) (server : HetznerServer) : Run Unit :=
  repository (call (.recordServer (toI64 server.id) role server.ipv4 server.privateIpv4))

section Runs

variable (newV5 : String → Uuid) (clusterId : Uuid)

def runProvision (input : ProvisionClusterInput) : Run Unit := do
  let workflowRow : Uuid ← ExceptT.lift (call .newId)
  repository (call (.updateStatus .provisioning none))
  repository (call (.insertWorkflowRow workflowRow))
  match ← outcomeOf (provisionCluster newV5 clusterId (workflowProgress workflowRow) input) with
  | .ok output =>
    recordServer .controlPlane output.controlPlane
    output.workers.forM (recordServer .worker)
    ClusterService.storeKubeconfig output.kubeconfig
    repository (call (.updateStatus .ready none))
    repository (call (.finalizeWorkflowRow workflowRow "done" none))
    ignore (publishTerminal .ready none)
  | .error err =>
    let reason := formatActivityReason err
    ignore (call (.updateStatus .failed (some reason)))
    ignore (call (.finalizeWorkflowRow workflowRow "failed" (some reason)))
    ignore (publishTerminal .failed (some reason))
    throw (.message ("provisioning failed: " ++ reason))

def runDestroy : Run Unit := do
  let _ ← ClusterService.beginDestroy
  let servers ← repository (call .listServers)
  match ← outcomeOf (destroyCluster hubOnlyProgress (servers.map (·.hetznerServerId))) with
  | .error err =>
    let reason := formatActivityReason err
    ignore (ClusterService.markDestroyFailed reason)
    ignore (publishTerminal .failed (some reason))
    throw (.message ("destroy failed: " ++ reason))
  | .ok () =>
    repository (call .softDeleteServers)
    ClusterService.finalizeDestroy
    ignore (publishTerminal .destroyed none)

def runScaleOut (count : Nat) (clusterName location serverType sshKey userData k3sVersion : String) :
    Run Unit := do
  repository (call (.updateStatus .scaling none))
  let servers ← repository (call .listServers)
  match servers.find? (·.role = .controlPlane) with
  | none => throw (.message "cluster has no control-plane server recorded")
  | some cp =>
  match cp.publicIpv4 with
  | none => throw (.message "control-plane row has no public IPv4")
  | some cpIpv4 =>
  let nextWorkerIndex := servers.countP (·.role = .worker)
  let joinToken ← attempt (fun _ => .message "read join token")
    (call (.sshRun ⟨cpIpv4, "kubinate"⟩ "sudo cat /var/lib/rancher/k3s/server/node-token"))
  match ← outcomeOf (scaleOut newV5 clusterId hubOnlyProgress
      { clusterName, location, serverType, sshKey, userData, k3sVersion,
        controlPlaneEndpoint := cpIpv4, joinToken := trim joinToken,
        startIndex := nextWorkerIndex, count }) with
  | .ok workers =>
    workers.forM (recordServer .worker)
    repository (call (.updateStatus .ready none))
    ignore (publishTerminal .ready none)
  | .error err =>
    let reason := formatActivityReason err
    ignore (call (.updateStatus .failed (some reason)))
    ignore (publishTerminal .failed (some reason))
    throw (.message ("scale-out failed: " ++ reason))

/-- The workers that a scale-in removes: those with the highest server ids. -/
def workersToRemove (servers : List ClusterServer) (count : Nat) : List ClusterServer :=
  ((servers.filter (·.role = .worker)).insertionSort
    fun a b => b.hetznerServerId ≤ a.hetznerServerId).take count

theorem workersToRemove_subset (servers : List ClusterServer) (count : Nat) {r : ClusterServer}
    (h : r ∈ workersToRemove servers count) : r ∈ servers := by
  have hsorted := List.mem_of_mem_take h
  rw [List.mem_insertionSort] at hsorted
  exact List.mem_of_mem_filter hsorted

/-- The place of a worker in the order of the server ids. -/
def workerIndex (servers : List ClusterServer) (hetznerServerId : Nat) : Nat :=
  let allWorkers := (servers.filter (·.role = .worker)).insertionSort
    fun a b => a.hetznerServerId ≤ b.hetznerServerId
  ((allWorkers.zipIdx.reverse.find? (·.1.hetznerServerId == hetznerServerId)).map (·.2)).getD 0

def removalTarget (clusterName : String) (servers : List ClusterServer) (s : ClusterServer) :
    WorkerToRemove :=
  ⟨s.hetznerServerId,
    clusterName ++ "-worker-" ++ twoDigits (workerIndex servers s.hetznerServerId)⟩

def runScaleIn (clusterName : String) (count : Nat) : Run Unit := do
  repository (call (.updateStatus .scaling none))
  let servers ← repository (call .listServers)
  let toRemove := workersToRemove servers count
  let kubeconfig ← ClusterService.fetchKubeconfig clusterId
  let fileId : Uuid ← ExceptT.lift (call .newId)
  let kubeconfigPath := "/tmp/kubinate-scale-in-" ++ fileId.text ++ ".yaml"
  attempt (fun e => .message ("stage kubeconfig: " ++ e))
    (call (.writeFile kubeconfigPath kubeconfig))
  let result ← outcomeOf (scaleIn hubOnlyProgress
    (toRemove.map (removalTarget clusterName servers)) kubeconfigPath)
  ignore (call (.removeFile kubeconfigPath))
  match result with
  | .ok () =>
    toRemove.forM fun s => ignore (call (.softDeleteServerRow s.id))
    repository (call (.updateStatus .ready none))
    ignore (publishTerminal .ready none)
  | .error err =>
    let reason := formatActivityReason err
    ignore (call (.updateStatus .failed (some reason)))
    ignore (publishTerminal .failed (some reason))
    throw (.message ("scale-in failed: " ++ reason))

end Runs

/-! ## The scale request -/

def minWorkerCount : Int := 1

def maxWorkerCount : Int := 10

/-- `i16::saturating_add`. -/
def saturatingAdd (a b : Int) : Int := max (-(2 ^ 15)) (min (2 ^ 15 - 1) (a + b))

/-- The settings of the deployment that a scale-out passes on. -/
structure ClusterSettings where
  sshKey : String
  userData : String
  k3sVersion : String

def scaleWorkers (settings : ClusterSettings) (delta : Int) : Run Unit := do
  let cluster ← repository (call .get)
  if cluster.status ≠ .ready then
    throw (.platform (.conflict "cluster must be Ready to scale"))
  if delta = 0 then return ()
  let newWorkerCount := saturatingAdd cluster.workerCount delta
  if ¬ (minWorkerCount ≤ newWorkerCount ∧ newWorkerCount ≤ maxWorkerCount) then
    throw (.platform (.invalid ("worker_count must stay between " ++ toString minWorkerCount ++
      " and " ++ toString maxWorkerCount ++ " (current " ++ toString cluster.workerCount ++
      " + delta " ++ toString delta ++ " = " ++ toString newWorkerCount ++ ")")))
  repository (call .getCredential)
  repository (call (.updateWorkerCount newWorkerCount))
  if 0 < delta then
    ignore (call (.spawn (.scaleOut delta.toNat cluster.name cluster.region cluster.serverType
      settings.sshKey settings.userData settings.k3sVersion)))
  else ignore (call (.spawn (.scaleIn cluster.name (-delta).toNat)))

/-! ## Everything at once -/

/-- What the code leaves open: version 5 UUIDs, the id of the cluster and the settings. -/
structure Deployment where
  newV5 : String → Uuid
  clusterId : Uuid
  settings : ClusterSettings

def ClusterJob.run (D : Deployment) : ClusterJob → Run Unit
  | .provision input => runProvision D.newV5 D.clusterId input
  | .destroy => runDestroy
  | .scaleOut count clusterName location serverType sshKey userData k3sVersion =>
    runScaleOut D.newV5 D.clusterId count clusterName location serverType sshKey userData k3sVersion
  | .scaleIn clusterName count => runScaleIn D.clusterId clusterName count
  | .scaleWorkers delta => Clusters.scaleWorkers D.settings delta

/-- The result of a spawned run is logged and forgotten. -/
def ClusterJob.program (D : Deployment) (j : ClusterJob) : Program cloud Unit := do
  let _ ← (j.run D).run

/-- The jobs in `external` can be started at any time; the others only by a call. -/
def runnerPool (D : Deployment) (external : ClusterJob → Bool) :
    Pool cloud Cloud ClusterJob Outcome Unit where
  prog := ClusterJob.program D
  external := external
  answer := fun w i c x => w.answer i c x

end Kubinate.Clusters
