import Kubinate.Clusters.Cloud
import Kubinate.Platform.Text

/-!
# Activities and workflows

The functions of `crates/workflows/src/activities.rs` and `workflows.rs`: the side-effecting
steps, and `provision_cluster`, `destroy_cluster`, `scale_out` and `scale_in` made of them.
The pause between two polls of a booting server is left out.
-/

namespace Kubinate.Clusters

open Platform Library

abbrev Activity := ExceptT ActivityError (Program cloud)

def call (c : CloudCall) : Program cloud c.Answer := Program.perform (I := cloud) c

/-- `?` on the result of a call, with the conversion of its error. -/
def attempt {ε ε' α : Type} (convert : ε → ε') (p : Program cloud (Except ε α)) :
    ExceptT ε' (Program cloud) α :=
  ExceptT.mk (p >>= fun r =>
    match r with
    | .ok a => pure (.ok a)
    | .error e => pure (.error (convert e)))

/-! ## Activities -/

def cloudInitMaxAttempts : Nat := 60

/-- A server that is gone already counts as deleted. -/
def hetznerDeleteServerIdempotent (id : Nat) : Activity Unit :=
  ExceptT.mk (call (.deleteServer id) >>= fun r =>
    match r with
    | .ok () => pure (.ok ())
    | .error e => if e.isNotFound then pure (.ok ()) else pure (.error (.hetzner e)))

def hetznerCreateServer (params : CreateServerParams) : Activity Nat :=
  attempt .hetzner (call (.createServer params))

/-- Polls until the server is ready, `attempts` times at most. -/
def pollCloudInit (serverId : Nat) : (attempts : Nat) → Activity HetznerServer
  | 0 => throw (.cloudInitTimeout cloudInitMaxAttempts)
  | attempts + 1 => do
    let server ← attempt .hetzner (call (.getServer serverId))
    match server.status with
    | .ready => return { server with id := serverId }
    | .failed =>
      throw (.other ("server ServerId(" ++ toString serverId ++
        ") reported Failed status during boot"))
    | .initializing => pollCloudInit serverId attempts

def waitForCloudInit (serverId : Nat) : Activity HetznerServer :=
  pollCloudInit serverId cloudInitMaxAttempts

def shellEscape (value : String) : String := "'" ++ replace value "'" "'\\''" ++ "'"

def sshRun (target : SshTarget) (command : String) : Activity String :=
  attempt .ssh (call (.sshRun target command))

def sshInstallK3sServer (target : SshTarget) (k3sVersion : String) : Activity String := do
  let _installed ← sshRun target ("k3sup install --local --k3s-version " ++ shellEscape k3sVersion)
  let token ← sshRun target "sudo cat /var/lib/rancher/k3s/server/node-token"
  return trim token

def sshInstallK3sAgent (worker : SshTarget) (controlPlaneIp joinToken k3sVersion : String) :
    Activity Unit := do
  let _out ← sshRun worker ("k3sup join --server-ip " ++ shellEscape controlPlaneIp ++
    " --k3s-version " ++ shellEscape k3sVersion ++ " --token " ++ shellEscape joinToken)

def collectKubeconfig (controlPlane : SshTarget) (publicEndpoint : String) : Activity String := do
  let raw ← sshRun controlPlane "sudo cat /etc/rancher/k3s/k3s.yaml"
  return replace raw "https://127.0.0.1:6443" publicEndpoint

def kubectlDrainNode (kubeconfigPath nodeName : String) : Activity Unit :=
  attempt .kubectl (call (.drainNode kubeconfigPath nodeName))

def kubectlDeleteNode (kubeconfigPath nodeName : String) : Activity Unit :=
  attempt .kubectl (call (.deleteNode kubeconfigPath nodeName))

/-- The name of the control plane and of the workers, with the keys that mark retries. The
key of a worker is a version 5 UUID, `newV5` of its name. -/
def controlPlaneParams (clusterId : Uuid) (clusterName serverType location sshKey userData : String) :
    CreateServerParams where
  name := clusterName ++ "-cp-01"
  serverType := serverType
  location := location
  sshKey := sshKey
  userData := userData
  idempotencyKey := clusterId

def workerParams (newV5 : String → Uuid) (clusterId : Uuid) (clusterName : String) (index : Nat)
    (serverType location sshKey userData : String) : CreateServerParams where
  name := clusterName ++ "-worker-" ++ twoDigits index
  serverType := serverType
  location := location
  sshKey := sshKey
  userData := userData
  idempotencyKey := newV5 ("kubinate.worker:" ++ clusterId.text ++ ":" ++ toString index)

/-! ## Workflows -/

/-- `ProgressSink::step`. -/
abbrev Progress := String → Program cloud Unit

def sshTarget (server : HetznerServer) : Activity SshTarget :=
  match server.ipv4 with
  | some host => return ⟨host, "kubinate"⟩
  | none =>
    throw (.other ("server ServerId(" ++ toString server.id ++ ") reported Ready but has no IPv4"))

structure ProvisionClusterOutput where
  controlPlane : HetznerServer
  workers : List HetznerServer
  kubeconfig : String

/-- Joins every worker to the control plane. -/
def joinWorkers (workers : List HetznerServer) (controlPlaneIp joinToken k3sVersion : String) :
    Activity Unit :=
  workers.forM fun worker => do
    let target ← sshTarget worker
    sshInstallK3sAgent target controlPlaneIp joinToken k3sVersion

section Workflows

variable (newV5 : String → Uuid) (clusterId : Uuid) (progress : Progress)

def provisionCluster (input : ProvisionClusterInput) : Activity ProvisionClusterOutput := do
  ExceptT.lift (progress "creating_control_plane")
  let cpId ← hetznerCreateServer (controlPlaneParams clusterId input.clusterName input.serverType
    input.location input.sshKey input.userData)
  ExceptT.lift (progress "waiting_cloud_init_cp")
  let cpServer ← waitForCloudInit cpId
  let cpTarget ← sshTarget cpServer
  ExceptT.lift (progress "installing_k3s_server")
  let joinToken ← sshInstallK3sServer cpTarget input.k3sVersion
  ExceptT.lift (progress "creating_workers")
  let workerIds ← (List.range input.workerCount).mapM fun index =>
    hetznerCreateServer (workerParams newV5 clusterId input.clusterName index input.serverType
      input.location input.sshKey input.userData)
  ExceptT.lift (progress "waiting_cloud_init_workers")
  let workerServers ← workerIds.mapM waitForCloudInit
  ExceptT.lift (progress "installing_k3s_agents")
  let cpPrivate := cpServer.privateIpv4.getD (cpServer.ipv4.getD "0.0.0.0")
  joinWorkers workerServers cpPrivate joinToken input.k3sVersion
  ExceptT.lift (progress "collecting_kubeconfig")
  let publicEndpoint := "https://" ++ cpServer.ipv4.getD "0.0.0.0" ++ ":6443"
  let kubeconfig ← collectKubeconfig cpTarget publicEndpoint
  ExceptT.lift (progress "done")
  return ⟨cpServer, workerServers, kubeconfig⟩

def destroyCluster (serverIds : List Nat) : Activity Unit := do
  ExceptT.lift (progress "destroying_servers")
  serverIds.forM hetznerDeleteServerIdempotent
  ExceptT.lift (progress "done")

structure ScaleOutInput where
  clusterName : String
  location : String
  serverType : String
  sshKey : String
  userData : String
  k3sVersion : String
  controlPlaneEndpoint : String
  joinToken : String
  startIndex : Nat
  count : Nat

def scaleOut (input : ScaleOutInput) : Activity (List HetznerServer) := do
  ExceptT.lift (progress "creating_workers")
  let ids ← (List.range input.count).mapM fun offset =>
    hetznerCreateServer (workerParams newV5 clusterId input.clusterName (input.startIndex + offset)
      input.serverType input.location input.sshKey input.userData)
  ExceptT.lift (progress "waiting_cloud_init_workers")
  let workers ← ids.mapM waitForCloudInit
  ExceptT.lift (progress "installing_k3s_agents")
  joinWorkers workers input.controlPlaneEndpoint input.joinToken input.k3sVersion
  ExceptT.lift (progress "done")
  return workers

structure WorkerToRemove where
  serverId : Nat
  nodeName : String

def scaleIn (targets : List WorkerToRemove) (kubeconfigPath : String) : Activity Unit := do
  ExceptT.lift (progress "draining_nodes")
  targets.forM fun t => kubectlDrainNode kubeconfigPath t.nodeName
  ExceptT.lift (progress "deleting_nodes")
  targets.forM fun t => kubectlDeleteNode kubeconfigPath t.nodeName
  ExceptT.lift (progress "destroying_servers")
  targets.forM fun t => hetznerDeleteServerIdempotent t.serverId
  ExceptT.lift (progress "done")

end Workflows

end Kubinate.Clusters
