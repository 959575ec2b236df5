import Kubinate.Clusters.Model
import Kubinate.Library.Pool
import Kubinate.Library.ReadCommitted

/-!
# One cluster and the world around it

The calls that the runner and the scale request make for one cluster, and what answers
them: the tables, the provider, the secret store and the executors. Every method of
`PgClusterRepository` is one transaction with one statement that matters, so a call takes
effect at one moment.

* `Cloud.execute`: what each call does and answers when nothing goes wrong.
* `Cloud.answer`: a call that succeeds, fails without effect, or has its effect and loses
  its reply. Whatever the outside decides (ids, texts, addresses, errors) is in the
  `Outcome`.
-/

namespace Kubinate.Clusters

open Platform Library

inductive CloudCall where
  /-- `Uuid::now_v7()` -/
  | newId
  -- `ClusterRepository`
  | get
  | updateStatus (status : ClusterStatus) (reason : Option String)
  | updateWorkerCount (workerCount : Int)
  | recordServer (hetznerServerId : Nat) (role : ClusterNodeRole)
      (publicIpv4 privateIpv4 : Option String)
  | listServers
  | softDeleteServers
  | softDelete
  | setKubeconfigSecret (secretId : Uuid)
  | kubeconfigSecret
  /-- the `UPDATE cluster_servers` of `run_scale_in`, outside any tenant -/
  | softDeleteServerRow (id : Uuid)
  -- `provisioning_workflows`
  | insertWorkflowRow (id : Uuid)
  | updateStep (id : Uuid) (step : String)
  /-- outside any tenant -/
  | finalizeWorkflowRow (id : Uuid) (step : String) (reason : Option String)
  -- the secret store and the credential of the cluster
  | putSecret (plaintext : String)
  | getSecret (id : Uuid)
  | deleteSecret (id : Uuid)
  | getCredential
  -- the provider and the executors
  | createServer (params : CreateServerParams)
  | getServer (id : Nat)
  | deleteServer (id : Nat)
  | sshRun (target : SshTarget) (command : String)
  | drainNode (kubeconfigPath nodeName : String)
  | deleteNode (kubeconfigPath nodeName : String)
  | writeFile (path content : String)
  | removeFile (path : String)
  -- the event hub and the runtime
  | publishStep (step : String)
  | publishTerminal (status : ClusterStatus) (reason : Option String)
  | spawn (job : ClusterJob)
deriving DecidableEq

@[reducible]
def CloudCall.Answer : CloudCall → Type
  | .newId => Uuid
  | .get => Except PlatformError Cluster
  | .listServers => Except PlatformError (List ClusterServer)
  | .kubeconfigSecret => Except PlatformError (Option Uuid)
  | .putSecret _ => Except PlatformError Uuid
  | .getSecret _ => Except PlatformError String
  | .updateStatus .. | .updateWorkerCount _ | .recordServer .. | .softDeleteServers | .softDelete
  | .setKubeconfigSecret _ | .softDeleteServerRow _ | .insertWorkflowRow _ | .updateStep ..
  | .finalizeWorkflowRow .. | .deleteSecret _ | .getCredential => Except PlatformError Unit
  | .createServer _ => Except HetznerError Nat
  | .getServer _ => Except HetznerError ServerState
  | .deleteServer _ => Except HetznerError Unit
  | .sshRun .. => Except SshError String
  | .drainNode .. | .deleteNode .. => Except KubectlError Unit
  | .writeFile .. => Except String Unit
  | .removeFile _ | .publishStep _ | .publishTerminal .. | .spawn _ => Unit

abbrev cloud : Interface where
  Call := CloudCall
  Answer := CloudCall.Answer

/-- How a call goes, with everything that the outside chooses. -/
structure Outcome where
  reply : Reply := .ok
  now : Timestamp := 0
  /-- a fresh id: of a row, or of a secret -/
  id : Uuid := 0
  /-- the id of a new server -/
  serverId : Nat := 0
  serverState : ServerState := ⟨.initializing, none, none⟩
  output : String := ""
  sqlError : SqlError := .connection
  hetznerError : HetznerError := .transport ""
  sshError : SshError := .transport ""
  kubectlError : KubectlError := .transport ""
deriving DecidableEq

/-- A server at the provider, with the slot of the run that asked for it. -/
structure Server where
  id : Nat
  run : Nat
deriving DecidableEq, Repr

/-- One cluster with the tables around it, and the servers of the project at the provider:
those created for the cluster and not deleted, and the ids that were ever given out. -/
structure Cloud where
  cluster : Cluster
  servers : List ClusterServer
  workflows : List ProvisioningWorkflow
  secrets : List (Uuid × String)
  alive : List Server
  created : List Nat
  published : List (ClusterStatus × Option String)
  enforceRls : Bool
deriving DecidableEq

namespace Cloud

variable (w : Cloud)

/-- A cluster row that was just inserted: nothing was created for it yet. -/
def fresh (cluster : Cluster) (created : List Nat) (enforceRls : Bool) : Cloud :=
  ⟨cluster, [], [], [], [], created, [], enforceRls⟩

def clusterNotFound : PlatformError := .notFound ("cluster/" ++ w.cluster.id.text)

def liveServers : List ClusterServer := w.servers.filter (·.isLive)

/-- `ON CONFLICT (hetzner_server_id) WHERE deleted_at IS NULL DO NOTHING`. -/
def recordServer (x : Outcome) (hetznerServerId : Nat) (role : ClusterNodeRole)
    (publicIpv4 privateIpv4 : Option String) : Cloud × Except PlatformError Unit :=
  if w.servers.any fun r => r.isLive && r.hetznerServerId == hetznerServerId then (w, .ok ())
  else if w.servers.any (·.id == x.id) then (w, .error (.database .uniqueViolation))
  else
    ({ w with
      servers := w.servers ++
        [⟨x.id, hetznerServerId, role, publicIpv4, privateIpv4, x.now, none⟩] }, .ok ())

/-- The rows as `list_servers` returns them. -/
def listServers : List ClusterServer :=
  (w.liveServers.insertionSort fun a b => a.le b).map fun r =>
    { r with publicIpv4 := r.publicIpv4.map inetText, privateIpv4 := r.privateIpv4.map inetText }

def setKubeconfigSecret (secretId : Uuid) : Cloud × Except PlatformError Unit :=
  if w.cluster.deletedAt.isNone &&
      (w.cluster.kubeconfigSecretId.isNone || w.cluster.kubeconfigSecretId == some secretId)
  then ({ w with cluster := { w.cluster with kubeconfigSecretId := some secretId } }, .ok ())
  else (w, .error (.conflict "kubeconfig already set to a different secret"))

/-- `clusters.kubeconfig_secret_id` is `ON DELETE RESTRICT`. -/
def secretReferenced : String :=
  "error returned from database: update or delete on table \"secrets\" violates foreign key " ++
    "constraint"

/-- What each call does and answers when nothing goes wrong. -/
def execute (i : Nat) (x : Outcome) : (c : CloudCall) → Cloud × c.Answer
  | .newId => (w, x.id)
  | .get => (w, if w.cluster.deletedAt.isNone then .ok w.cluster else .error w.clusterNotFound)
  | .updateStatus status reason =>
    ({ w with cluster := { w.cluster with status := status, statusReason := reason } }, .ok ())
  | .updateWorkerCount workerCount =>
    ({ w with cluster := { w.cluster with workerCount := workerCount } }, .ok ())
  | .recordServer hetznerServerId role publicIpv4 privateIpv4 =>
    w.recordServer x hetznerServerId role publicIpv4 privateIpv4
  | .listServers => (w, .ok w.listServers)
  | .softDeleteServers =>
    ({ w with
      servers := w.servers.map fun r => if r.isLive then { r with deletedAt := some x.now } else r },
      .ok ())
  | .softDelete =>
    ({ w with
      cluster := if w.cluster.deletedAt.isNone then { w.cluster with deletedAt := some x.now }
        else w.cluster }, .ok ())
  | .setKubeconfigSecret secretId => w.setKubeconfigSecret secretId
  | .kubeconfigSecret =>
    (w, if w.cluster.deletedAt.isNone then .ok w.cluster.kubeconfigSecretId
      else .error w.clusterNotFound)
  | .softDeleteServerRow id =>
    ({ w with
      servers := w.servers.map fun r =>
        if !w.enforceRls && r.id == id && r.isLive then { r with deletedAt := some x.now } else r },
      .ok ())
  | .insertWorkflowRow id =>
    if w.workflows.any (·.id == id) then (w, .error (.database .uniqueViolation))
    else ({ w with workflows := w.workflows ++ [⟨id, "queued", none, false⟩] }, .ok ())
  | .updateStep id step =>
    ({ w with
      workflows := w.workflows.map fun r => if r.id == id then { r with currentStep := step } else r },
      .ok ())
  | .finalizeWorkflowRow id step reason =>
    ({ w with
      workflows := w.workflows.map fun r =>
        if !w.enforceRls && r.id == id
        then { r with currentStep := step, errorReason := reason, finished := true } else r },
      .ok ())
  | .putSecret plaintext => ({ w with secrets := w.secrets ++ [(x.id, plaintext)] }, .ok x.id)
  | .getSecret id =>
    (w, match w.secrets.find? (·.1 == id) with
      | some (_, plaintext) => .ok plaintext
      | none => .error (.secret ("secret not found: " ++ id.text)))
  | .deleteSecret id =>
    if w.cluster.kubeconfigSecretId == some id then (w, .error (.secret secretReferenced))
    else ({ w with secrets := w.secrets.filter (·.1 != id) }, .ok ())
  | .getCredential => (w, .ok ())
  | .createServer _ =>
    ({ w with alive := w.alive ++ [⟨x.serverId, i⟩], created := x.serverId :: w.created },
      .ok x.serverId)
  | .getServer _ => (w, .ok x.serverState)
  | .deleteServer id =>
    if w.alive.any (·.id == id) then ({ w with alive := w.alive.filter (·.id != id) }, .ok ())
    else (w, .error (.status 404 "not found"))
  | .sshRun .. => (w, .ok x.output)
  | .drainNode .. | .deleteNode .. => (w, .ok ())
  | .writeFile .. => (w, .ok ())
  | .publishTerminal status reason => ({ w with published := w.published ++ [(status, reason)] }, ())
  | .removeFile _ | .publishStep _ | .spawn _ => (w, ())

/-- The answer to a call that goes wrong. -/
def broken (x : Outcome) : (c : CloudCall) → c.Answer
  | .newId => x.id
  | .get | .listServers | .kubeconfigSecret | .putSecret _ | .getSecret _ | .updateStatus ..
  | .updateWorkerCount _ | .recordServer .. | .softDeleteServers | .softDelete
  | .setKubeconfigSecret _ | .softDeleteServerRow _ | .insertWorkflowRow _ | .updateStep ..
  | .finalizeWorkflowRow .. | .deleteSecret _ | .getCredential =>
    Except.error (PlatformError.database x.sqlError)
  | .createServer _ | .getServer _ | .deleteServer _ => Except.error x.hetznerError
  | .sshRun .. => Except.error x.sshError
  | .drainNode .. | .deleteNode .. => Except.error x.kubectlError
  | .writeFile .. => Except.error x.output
  | .removeFile _ | .publishStep _ | .publishTerminal .. | .spawn _ => ()

/-- What cannot happen: the provider gives out no id twice, reports no server that is not
there, and says `404 not found` only of such a server; publishing and spawning do not
fail. -/
def impossible (x : Outcome) : CloudCall → Bool
  | .createServer _ => x.reply != .failed && w.created.contains x.serverId
  | .getServer id => x.reply == .ok && w.alive.all (·.id != id)
  | .deleteServer id =>
    x.reply != .ok && x.hetznerError.isNotFound && w.alive.any (·.id == id)
  | .publishStep _ | .publishTerminal .. | .spawn _ => x.reply != .ok
  | _ => false

/-- The jobs that a call starts. -/
def spawned : CloudCall → List ClusterJob
  | .spawn job => [job]
  | _ => []

/-- A call that fails has no effect; one whose reply is lost has taken effect. -/
def answer (i : Nat) (c : CloudCall) (x : Outcome) : Option (Cloud × c.Answer × List ClusterJob) :=
  if w.impossible x c then none
  else
    match x.reply with
    | .ok => some ((w.execute i x c).1, (w.execute i x c).2, spawned c)
    | .failed => some (w, broken x c, spawned c)
    | .lost => some ((w.execute i x c).1, broken x c, spawned c)

variable {w} {w' : Cloud} {i : Nat} {c : CloudCall} {x : Outcome} {r : c.Answer}
  {js : List ClusterJob}

theorem answer_cases (h : w.answer i c x = some (w', r, js)) :
    w.impossible x c = false ∧ js = spawned c ∧
      (x.reply = .ok ∧ w' = (w.execute i x c).1 ∧ r = (w.execute i x c).2 ∨
        x.reply = .failed ∧ w' = w ∧ r = broken x c ∨
        x.reply = .lost ∧ w' = (w.execute i x c).1 ∧ r = broken x c) := by
  unfold answer at h
  split at h
  · cases h
  · next himp =>
    refine ⟨by simpa using himp, ?_⟩
    split at h <;> cases h <;> simp_all

end Cloud

end Kubinate.Clusters
