import Kubinate.Platform.Types

/-!
# Clusters and their servers

The rows of `clusters`, `cluster_servers` and `provisioning_workflows`, the views of the
Hetzner API, and the errors of the executors the runner drives
(`crates/cluster/src/model.rs`, `crates/integrations`, `crates/workflows/src/activities.rs`).
-/

namespace Kubinate.Clusters

open Platform

/-- The SQL enum `cluster_status`. -/
inductive ClusterStatus where
  | pending
  | provisioning
  | ready
  | scaling
  | failed
  | destroying
  | destroyed
deriving DecidableEq, Repr

/-- The SQL enum `cluster_node_role`, whose values are ordered as they are listed. -/
inductive ClusterNodeRole where
  | controlPlane
  | worker
deriving DecidableEq, Repr

def ClusterNodeRole.rank : ClusterNodeRole → Nat
  | .controlPlane => 0
  | .worker => 1

/-- A row of `clusters`. -/
structure Cluster where
  id : Uuid
  name : String
  region : String
  serverType : String
  workerCount : Int
  status : ClusterStatus
  statusReason : Option String
  kubeconfigSecretId : Option Uuid
  deletedAt : Option Timestamp
deriving DecidableEq, Repr

/-- A row of `cluster_servers`. -/
structure ClusterServer where
  id : Uuid
  hetznerServerId : Nat
  role : ClusterNodeRole
  publicIpv4 : Option String
  privateIpv4 : Option String
  createdAt : Timestamp
  deletedAt : Option Timestamp
deriving DecidableEq, Repr

def ClusterServer.isLive (r : ClusterServer) : Bool := r.deletedAt.isNone

/-- The order of `list_servers`: `ORDER BY role ASC, created_at ASC`. -/
def ClusterServer.le (a b : ClusterServer) : Bool :=
  a.role.rank < b.role.rank || (a.role.rank == b.role.rank && a.createdAt ≤ b.createdAt)

/-- The text of an `INET` column. A host address is written with its full netmask. -/
def inetText (address : String) : String :=
  if address.toList.contains '/' then address else address ++ "/32"

/-- A row of `provisioning_workflows`. -/
structure ProvisioningWorkflow where
  id : Uuid
  currentStep : String
  errorReason : Option String
  finished : Bool
deriving DecidableEq, Repr

/-! ## The provider and the executors -/

inductive ServerStatus where
  | ready
  | initializing
  | failed
deriving DecidableEq, Repr

/-- What the provider reports about a server that was asked for by its id. -/
structure ServerState where
  status : ServerStatus
  ipv4 : Option String
  privateIpv4 : Option String
deriving DecidableEq, Repr

structure HetznerServer extends ServerState where
  id : Nat
deriving DecidableEq, Repr

structure CreateServerParams where
  name : String
  serverType : String
  location : String
  sshKey : String
  userData : String
  idempotencyKey : Uuid
deriving DecidableEq, Repr

inductive HetznerError where
  | credential (message : String)
  | transport (message : String)
  | status (status : Nat) (body : String)
deriving DecidableEq, Repr

/-- `HetznerError::Status { status: 404, .. }` -/
def HetznerError.isNotFound : HetznerError → Bool
  | .status code _ => code == 404
  | .credential _ | .transport _ => false

structure SshTarget where
  host : String
  user : String
deriving DecidableEq, Repr

inductive SshError where
  | nonZeroExit (code : Int) (stderr : String)
  | connect (message : String)
  | transport (message : String)
deriving DecidableEq, Repr

inductive KubectlError where
  | nonZeroExit (code : Int) (stderr : String)
  | transport (message : String)
  | timeout (seconds : Nat)
deriving DecidableEq, Repr

inductive HelmError where
  | nonZeroExit (code : Int) (stderr : String)
  | transport (message : String)
  | timeout (seconds : Nat)
deriving DecidableEq, Repr

/-- Errors surfaced by activities. -/
inductive ActivityError where
  | hetzner (error : HetznerError)
  | ssh (error : SshError)
  | helm (error : HelmError)
  | kubectl (error : KubectlError)
  | cloudInitTimeout (attempts : Nat)
  | other (message : String)
deriving DecidableEq, Repr

/-- What a failed run reports as the reason: structured, without the raw output. -/
def formatActivityReason : ActivityError → String
  | .hetzner (.status status _) => "hetzner: " ++ toString status
  | .hetzner (.transport _) => "hetzner: transport"
  | .hetzner (.credential _) => "hetzner: credential"
  | .ssh (.nonZeroExit code _) => "ssh: NonZeroExit code=" ++ toString code
  | .ssh (.connect _) => "ssh: connect"
  | .ssh (.transport _) => "ssh: transport"
  | .cloudInitTimeout attempts => "cloud-init timed out after " ++ toString attempts ++ " polls"
  | .helm (.nonZeroExit code _) => "helm: NonZeroExit code=" ++ toString code
  | .helm (.timeout _) => "helm: timeout"
  | .helm (.transport _) => "helm: transport"
  | .kubectl (.nonZeroExit code _) => "kubectl: NonZeroExit code=" ++ toString code
  | .kubectl (.timeout _) => "kubectl: timeout"
  | .kubectl (.transport _) => "kubectl: transport"
  | .other _ => "other"

/-! ## What can be run on a cluster -/

structure ProvisionClusterInput where
  clusterName : String
  location : String
  serverType : String
  workerCount : Nat
  sshKey : String
  userData : String
  k3sVersion : String
deriving DecidableEq, Repr

/-- The operations on one cluster: the four runs of `LocalRunner` and the request
`POST /v1/clusters/:id/workers`. -/
inductive ClusterJob where
  | provision (input : ProvisionClusterInput)
  | destroy
  | scaleOut (count : Nat) (clusterName location serverType sshKey userData k3sVersion : String)
  | scaleIn (clusterName : String) (count : Nat)
  | scaleWorkers (delta : Int)
deriving DecidableEq, Repr

end Kubinate.Clusters
