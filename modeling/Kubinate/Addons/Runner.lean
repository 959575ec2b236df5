import Kubinate.Addons.Model
import Kubinate.Clusters.EventStream

/-!
# The add-on runs and their requests

The handlers `install_addon` and `uninstall_addon` of `crates/api/src/clusters.rs` with the use
cases and the repository of `crates/addons`, and the two runs of `LocalRunner` that they spawn.

`addonPool` interleaves any number of them for one add-on of one cluster, next to everything
that happens to the cluster. A Helm operation is in flight from `helmStart` to `helmWait`.
-/

namespace Kubinate.Addons

open Platform Library Clusters

/-- What can be run for one add-on, or on its cluster. -/
inductive AddonJob where
  | cluster (j : ClusterJob)
  | install (version : String)
  | uninstall (clusterId : Uuid)
  | runInstall (params : InstallParams) (kubeconfigPath : String)
  | runUninstall (helmRelease nameSpace kubeconfigPath : String)
deriving DecidableEq

def AddonJob.isRun : AddonJob → Bool
  | .runInstall .. | .runUninstall .. => true
  | .cluster _ | .install _ | .uninstall _ => false

inductive AddonCall where
  /-- of the cluster, the secret store or the file system -/
  | cloud (c : CloudCall)
  -- `AddonRepository`
  | upsert (addon version helmRelease : String)
  | getById
  | updateStatus (status : AddonStatus) (reason : Option String)
  -- the executor and the runtime
  | helmStart (op : HelmOp) (kubeconfigPath : String)
  | helmWait (op : HelmOp)
  | spawn (job : AddonJob)
deriving DecidableEq

@[reducible]
def AddonCall.Answer : AddonCall → Type
  | .cloud c => c.Answer
  | .upsert .. => Except PlatformError ClusterAddon
  | .getById => Except PlatformError (Option ClusterAddon)
  | .updateStatus .. => Except PlatformError Unit
  | .helmWait _ => Except HelmError Unit
  | .helmStart .. | .spawn _ => Unit

abbrev addons : Interface where
  Call := AddonCall
  Answer := AddonCall.Answer

abbrev AddonRun := ExceptT RunError (Program addons)

def perform (c : AddonCall) : Program addons c.Answer := Program.perform (I := addons) c

/-- `.await?` on a method of the repository. -/
def stored {α : Type} (p : Program addons (Except PlatformError α)) : AddonRun α :=
  ExceptT.mk (p >>= fun r =>
    match r with
    | .ok a => pure (.ok a)
    | .error e => pure (.error (.platform e)))

/-- A use case of the cluster service. -/
def onCluster {α : Type} (p : Run α) : AddonRun α := ExceptT.mk (p.run.embed .cloud fun _ r => r)

/-! ## The requests -/

namespace AddonService

def requestInstall (new : NewAddon) : AddonRun ClusterAddon :=
  if trim new.version = "" then throw (.platform (.invalid "version must not be empty"))
  else
    match lookup new.addon with
    | .error e => throw (.platform e)
    | .ok spec => stored (perform (.upsert spec.slug new.version spec.releaseName))

end AddonService

/-- The kubeconfig goes to a file of its own, which the run removes. -/
def stageKubeconfig (clusterId : Uuid) : AddonRun String := do
  let kubeconfig ← onCluster (ClusterService.fetchKubeconfig clusterId)
  let fileId : Uuid ← onCluster (ExceptT.lift (call .newId))
  let kubeconfigPath := "/tmp/kubinate-kc-" ++ fileId.text ++ ".yaml"
  onCluster (attempt (fun err => .platform (.internal ("stage kubeconfig: " ++ err)))
    (call (.writeFile kubeconfigPath kubeconfig)))
  return kubeconfigPath

/-- `POST /v1/clusters/:id/addons`. The status of the row is not looked at. -/
def installAddon (clusterId : Uuid) (new : NewAddon) : AddonRun Unit := do
  let cluster ← onCluster (repository (call .get))
  if cluster.status ≠ .ready then
    throw (.platform (.conflict "cluster must be Ready before installing addons"))
  let row ← AddonService.requestInstall new
  let kubeconfigPath ← stageKubeconfig clusterId
  match lookup row.addon with
  | .error e => throw (.platform e)
  | .ok spec =>
    ExceptT.lift (perform (.spawn (.runInstall
      { release := row.helmRelease
        chart := spec.chartName
        repo := spec.chartRepo
        version := row.version
        nameSpace := spec.nameSpace
        valuesYaml := spec.defaultValuesYaml } kubeconfigPath)))

def addonNotFound (addonId : Uuid) : RunError := .platform (.notFound ("addon/" ++ addonId.text))

/-- The status as `Debug` writes it. -/
def AddonStatus.debug : AddonStatus → String
  | .pending => "Pending"
  | .installing => "Installing"
  | .ready => "Ready"
  | .failed => "Failed"
  | .uninstalling => "Uninstalling"
  | .uninstalled => "Uninstalled"

/-- `DELETE /v1/clusters/:id/addons/:addon_id`. -/
def uninstallAddon (clusterId addonId : Uuid) : AddonRun Unit := do
  let found ← stored (perform .getById)
  match found with
  | none => throw (addonNotFound addonId)
  | some addon =>
  if addon.clusterId ≠ clusterId then throw (addonNotFound addonId)
  if ¬ (addon.status = .ready ∨ addon.status = .failed) then
    throw (.platform (.conflict ("addon must be ready or failed to uninstall (current: " ++
      addon.status.debug ++ ")")))
  stored (perform (.updateStatus .uninstalling none))
  match lookup addon.addon with
  | .error e => throw (.platform e)
  | .ok spec =>
    let kubeconfigPath ← stageKubeconfig clusterId
    ExceptT.lift (perform (.spawn (.runUninstall addon.helmRelease spec.nameSpace kubeconfigPath)))

/-! ## The runs -/

def helm (op : HelmOp) (kubeconfigPath : String) : Program addons (Except HelmError Unit) := do
  perform (.helmStart op kubeconfigPath)
  perform (.helmWait op)

/-- How both runs go on once Helm has ended. -/
def recordOutcome (success : AddonStatus) (failure : String) (reasonOf : HelmError → String) :
    Except HelmError Unit → AddonRun Unit
  | .ok () => stored (perform (.updateStatus success none))
  | .error err => do
    let reason := reasonOf err
    let _ ← ExceptT.lift (perform (.updateStatus .failed (some reason)))
    throw (.message (failure ++ reason))

def runInstallAddon (params : InstallParams) (kubeconfigPath : String) : AddonRun Unit := do
  stored (perform (.updateStatus .installing none))
  let result ← ExceptT.lift (helm (.install params) kubeconfigPath)
  ExceptT.lift (perform (.cloud (.removeFile kubeconfigPath)))
  recordOutcome .ready "addon install failed: " (fun err => formatActivityReason (.helm err)) result

/-- The reason is the error itself. -/
def runUninstallAddon (helmRelease nameSpace kubeconfigPath : String) : AddonRun Unit := do
  let result ← ExceptT.lift (helm (.uninstall helmRelease nameSpace) kubeconfigPath)
  ExceptT.lift (perform (.cloud (.removeFile kubeconfigPath)))
  recordOutcome .uninstalled "addon uninstall failed: " helmErrorText result

/-! ## The world -/

structure AddonOutcome extends Outcome where
  helmError : HelmError := .transport ""
deriving DecidableEq

/-- The cluster, the live row of the add-on, the Helm operations in flight with the slots that
have started them, those that have ended, and the events of the cluster that were published. -/
structure AddonWorld where
  cloud : Cloud
  addon : Option ClusterAddon := none
  inFlight : List (Nat × HelmOp) := []
  finished : List (HelmOp × Bool) := []
  events : List ClusterEvent := []

namespace AddonWorld

variable (w : AddonWorld)

/-- The row that is there already is returned as it is. -/
def upsert (clusterId id : Uuid) (addon version helmRelease : String) :
    AddonWorld × ClusterAddon :=
  match w.addon with
  | some row => (w, row)
  | none =>
    let row : ClusterAddon := ⟨id, clusterId, addon, version, helmRelease, .pending, none⟩
    ({ w with addon := some row }, row)

def updateStatus (status : AddonStatus) (reason : Option String) : AddonWorld :=
  { w with addon := w.addon.map fun row => { row with status := status, statusReason := reason } }

/-- A statement that succeeds with `w'` and `a`, fails without effect, or loses its reply. -/
def statement {α : Type} (x : AddonOutcome) (w' : AddonWorld) (a : α) :
    AddonWorld × Except PlatformError α × List AddonJob :=
  match x.reply with
  | .ok => (w', .ok a, [])
  | .failed => (w, .error (.database x.sqlError), [])
  | .lost => (w', .error (.database x.sqlError), [])

def answer (clusterId : Uuid) (i : Nat) (x : AddonOutcome) :
    (c : AddonCall) → Option (AddonWorld × c.Answer × List AddonJob)
  | .cloud c => (w.cloud.answer i c x.toOutcome).map fun (cloud, r, js) =>
    ({ w with cloud := cloud, events := w.events ++ c.event.toList }, r, js.map .cluster)
  | .upsert addon version helmRelease =>
    let (w', row) := w.upsert clusterId x.id addon version helmRelease
    some (w.statement x w' row)
  | .getById => some (w.statement x w w.addon)
  | .updateStatus status reason => some (w.statement x (w.updateStatus status reason) ())
  | .helmStart op _ => some ({ w with inFlight := w.inFlight ++ [(i, op)] }, (), [])
  | .helmWait op =>
    some ({ w with
      inFlight := w.inFlight.filter (·.1 != i)
      finished := w.finished ++ [(op, x.reply == .ok)] },
      if x.reply = .ok then .ok () else .error x.helmError, [])
  | .spawn job => some (w, (), [job])

end AddonWorld

/-- One add-on of one cluster. -/
structure Site extends Deployment where
  slug : String
  addonId : Uuid

/-- The result of a request goes to its caller, that of a spawned run is logged and forgotten. -/
def AddonJob.program (site : Site) : AddonJob → Program addons Unit
  | .cluster j => (j.program site.toDeployment).embed .cloud fun _ r => r
  | .install version => do
    let _ ← (installAddon site.clusterId ⟨site.slug, version⟩).run
  | .uninstall clusterId => do
    let _ ← (uninstallAddon clusterId site.addonId).run
  | .runInstall params kubeconfigPath => do
    let _ ← (runInstallAddon params kubeconfigPath).run
  | .runUninstall helmRelease nameSpace kubeconfigPath => do
    let _ ← (runUninstallAddon helmRelease nameSpace kubeconfigPath).run

def addonPool (site : Site) (external : AddonJob → Bool) :
    Pool addons AddonWorld AddonJob AddonOutcome Unit where
  prog := AddonJob.program site
  external := external
  answer := fun w i c x => w.answer site.clusterId i x c

abbrev AddonState := PoolState addons AddonWorld AddonJob Unit

end Kubinate.Addons
