import Kubinate.Clusters.Activities
import Kubinate.Clusters.Runner
import Kubinate.Library.Alike

/-!
# Errors without their texts

Two executions of the runs on a cluster whose errors agree in kind and in numeric code, and differ
in their texts only: response bodies, standard error, messages of the transport.

* `HetznerError.redact`, `SshError.redact`, `KubectlError.redact`, `Outcome.redact`: the errors
  without texts.
* `cloud_answer_alike`: outcomes that are the same without texts lead to one world.
* `clusterJob_alike`: every run makes the same calls in both executions, with the same arguments;
  so nothing that it stores or publishes tells the texts apart.
-/

namespace Kubinate.Clusters

open Platform Library

def HetznerError.redact : HetznerError → HetznerError
  | .credential _ => .credential ""
  | .transport _ => .transport ""
  | .status code _ => .status code ""

def SshError.redact : SshError → SshError
  | .nonZeroExit code _ => .nonZeroExit code ""
  | .connect _ => .connect ""
  | .transport _ => .transport ""

def KubectlError.redact : KubectlError → KubectlError
  | .nonZeroExit code _ => .nonZeroExit code ""
  | .transport _ => .transport ""
  | .timeout seconds => .timeout seconds

def HelmError.redact : HelmError → HelmError
  | .nonZeroExit code _ => .nonZeroExit code ""
  | .transport _ => .transport ""
  | .timeout seconds => .timeout seconds

/-- The output of a call that goes wrong is the text of its error. -/
def Outcome.redact (x : Outcome) : Outcome :=
  { x with
    output := if x.reply = .ok then x.output else ""
    hetznerError := x.hetznerError.redact
    sshError := x.sshError.redact
    kubectlError := x.kubectlError.redact }

/-- An answer without the text of its error. -/
def CloudCall.redact : (c : CloudCall) → c.Answer → c.Answer
  | .createServer _, r => r.mapError HetznerError.redact
  | .getServer _, r => r.mapError HetznerError.redact
  | .deleteServer _, r => r.mapError HetznerError.redact
  | .sshRun .., r => r.mapError SshError.redact
  | .drainNode .., r => r.mapError KubectlError.redact
  | .deleteNode .., r => r.mapError KubectlError.redact
  | .writeFile .., r => r.mapError fun _ => ""
  | _, r => r

/-- Answers that are the same without texts. -/
def Redacted (c : CloudCall) (r r' : c.Answer) : Prop := c.redact r = c.redact r'

/-- The calls whose errors have no text. -/
def CloudCall.isPlain : CloudCall → Bool
  | .createServer _ | .getServer _ | .deleteServer _ | .sshRun .. | .drainNode .. | .deleteNode ..
  | .writeFile .. => false
  | _ => true

theorem eq_of_redacted {c : CloudCall} (h : c.isPlain = true) {r r' : c.Answer}
    (hr : Redacted c r r') : r = r' := by
  cases c <;> first | exact hr | cases h

theorem HetznerError.isNotFound_redact (e : HetznerError) : e.redact.isNotFound = e.isNotFound := by
  cases e <;> rfl

theorem formatActivityReason_hetzner {e e' : HetznerError} (h : e.redact = e'.redact) :
    formatActivityReason (.hetzner e) = formatActivityReason (.hetzner e') := by
  cases e <;> cases e' <;> cases h <;> rfl

theorem formatActivityReason_ssh {e e' : SshError} (h : e.redact = e'.redact) :
    formatActivityReason (.ssh e) = formatActivityReason (.ssh e') := by
  cases e <;> cases e' <;> cases h <;> rfl

theorem formatActivityReason_kubectl {e e' : KubectlError} (h : e.redact = e'.redact) :
    formatActivityReason (.kubectl e) = formatActivityReason (.kubectl e') := by
  cases e <;> cases e' <;> cases h <;> rfl

theorem formatActivityReason_helm {e e' : HelmError} (h : e.redact = e'.redact) :
    formatActivityReason (.helm e) = formatActivityReason (.helm e') := by
  cases e <;> cases e' <;> cases h <;> rfl

/-! ## The world -/

section World

variable {x x' : Outcome} (h : x.redact = x'.redact)
include h

theorem reply_of_redact : x.reply = x'.reply := congrArg (·.reply) h

theorem output_of_redact (hok : x.reply = .ok) : x.output = x'.output := by
  have hout := congrArg (·.output) h
  simp only [Outcome.redact] at hout
  rw [← reply_of_redact h, if_pos hok, if_pos hok] at hout
  exact hout

theorem impossible_redact (w : Cloud) (c : CloudCall) : w.impossible x c = w.impossible x' c := by
  have hreply := reply_of_redact h
  have hid : x.serverId = x'.serverId := congrArg (·.serverId) h
  have hfound : x.hetznerError.isNotFound = x'.hetznerError.isNotFound := by
    rw [← HetznerError.isNotFound_redact, ← HetznerError.isNotFound_redact x'.hetznerError]
    exact congrArg (·.hetznerError.isNotFound) h
  cases c <;> simp only [Cloud.impossible, hreply, hid, hfound]

theorem execute_redact (w : Cloud) (i : Nat) (c : CloudCall) :
    (w.execute i x c).1 = (w.execute i x' c).1 ∧
      (x.reply = .ok → (w.execute i x c).2 = (w.execute i x' c).2) := by
  have hnow : x.now = x'.now := congrArg (·.now) h
  have hid : x.id = x'.id := congrArg (·.id) h
  have hserverId : x.serverId = x'.serverId := congrArg (·.serverId) h
  have hstate : x.serverState = x'.serverState := congrArg (·.serverState) h
  cases c with
  | sshRun target command =>
    refine ⟨rfl, fun hok => ?_⟩
    exact congrArg Except.ok (output_of_redact h hok)
  | _ =>
    simp only [Cloud.execute, Cloud.recordServer, hnow, hid, hserverId, hstate, implies_true,
      and_self]

theorem broken_redact (c : CloudCall) : Redacted c (Cloud.broken x c) (Cloud.broken x' c) := by
  have hid : x.id = x'.id := congrArg (·.id) h
  have hsql : x.sqlError = x'.sqlError := congrArg (·.sqlError) h
  have hhetzner : x.hetznerError.redact = x'.hetznerError.redact := congrArg (·.hetznerError) h
  have hssh : x.sshError.redact = x'.sshError.redact := congrArg (·.sshError) h
  have hkubectl : x.kubectlError.redact = x'.kubectlError.redact := congrArg (·.kubectlError) h
  cases c <;> simp only [Redacted, CloudCall.redact, Cloud.broken, Except.mapError, hid, hsql,
    hhetzner, hssh, hkubectl]

/-- Outcomes that are the same without texts have one effect, and answers that are the same
without texts. -/
theorem cloud_answer_alike (w : Cloud) (i : Nat) (c : CloudCall) :
    (w.answer i c x = none ∧ w.answer i c x' = none) ∨
      ∃ w' r r' js, w.answer i c x = some (w', r, js) ∧ w.answer i c x' = some (w', r', js) ∧
        Redacted c r r' := by
  obtain ⟨heffect, hanswer⟩ := execute_redact h w i c
  rw [Cloud.answer, Cloud.answer, ← impossible_redact h, ← reply_of_redact h]
  split
  · exact .inl ⟨rfl, rfl⟩
  · refine .inr ?_
    split
    · next hreply =>
      refine ⟨_, _, _, _, rfl, by rw [heffect], ?_⟩
      rw [hanswer hreply]
      exact rfl
    · exact ⟨_, _, _, _, rfl, rfl, broken_redact h c⟩
    · exact ⟨_, _, _, _, rfl, by rw [heffect], broken_redact h c⟩

end World

/-! ## The activities -/

/-- Two errors that are reported with one reason. -/
def SameReason (e e' : ActivityError) : Prop := formatActivityReason e = formatActivityReason e'

/-- An activity whose two executions differ in the text of an error at most. -/
abbrev ActivityAlike {α : Type} (p : Activity α) : Prop :=
  Alike (I := cloud) Redacted (Both Eq SameReason) p.run p.run

/-- A run whose two executions differ in the error they end with at most. -/
abbrev RunAlike {α : Type} (p : Run α) : Prop :=
  Alike (I := cloud) Redacted (Both Eq fun _ _ => True) p.run p.run

section Activities

theorem alike_call {c : CloudCall} (h : c.isPlain = true) :
    Alike (I := cloud) Redacted Eq (call c) (call c) :=
  .call fun _ _ hr => .done (eq_of_redacted h hr)

theorem alike_workflowProgress (id : Uuid) (step : String) :
    Alike (I := cloud) Redacted Eq (workflowProgress id step) (workflowProgress id step) :=
  alike_bind (alike_call (c := .updateStep id step) rfl) fun _ _ _ =>
    alike_call (c := .publishStep step) rfl

theorem alike_hubOnlyProgress (step : String) :
    Alike (I := cloud) Redacted Eq (hubOnlyProgress step) (hubOnlyProgress step) :=
  alike_call (c := .publishStep step) rfl

theorem alike_createServer (params : CreateServerParams) :
    ActivityAlike (hetznerCreateServer params) := by
  refine .call fun r r' hr => ?_
  rcases r with e | id <;> rcases r' with e' | id'
  · exact .done (formatActivityReason_hetzner (Except.error.inj hr))
  · cases hr
  · cases hr
  · exact .done (Except.ok.inj hr)

theorem alike_deleteServer (id : Nat) : ActivityAlike (hetznerDeleteServerIdempotent id) := by
  refine .call fun r r' hr => ?_
  rcases r with e | ⟨⟩ <;> rcases r' with e' | ⟨⟩
  · have hredact : e.redact = e'.redact := Except.error.inj hr
    have hfound : e.isNotFound = e'.isNotFound := by
      rw [← e.isNotFound_redact, hredact, e'.isNotFound_redact]
    let ending (gone : Bool) (e : HetznerError) : Program cloud (Except ActivityError Unit) :=
      if gone = true then .done (.ok ()) else .done (.error (.hetzner e))
    show Alike (I := cloud) Redacted (Both Eq SameReason) (ending e.isNotFound e)
      (ending e'.isNotFound e')
    dsimp only [ending]
    rw [hfound]
    split
    · exact .done rfl
    · exact .done (formatActivityReason_hetzner hredact)
  · cases hr
  · cases hr
  · exact .done rfl

theorem alike_pollCloudInit (id n : Nat) : ActivityAlike (pollCloudInit id n) := by
  induction n with
  | zero => exact .done rfl
  | succ n ih =>
    refine .call fun r r' hr => ?_
    rcases r with e | state <;> rcases r' with e' | state'
    · exact .done (formatActivityReason_hetzner (Except.error.inj hr))
    · cases hr
    · cases hr
    · obtain rfl : state = state' := Except.ok.inj hr
      obtain ⟨_ | _ | _, ipv4, privateIpv4⟩ := state
      · exact .done rfl
      · exact ih
      · exact .done rfl

theorem alike_sshRun (target : SshTarget) (command : String) :
    ActivityAlike (sshRun target command) := by
  refine .call fun r r' hr => ?_
  rcases r with e | output <;> rcases r' with e' | output'
  · exact .done (formatActivityReason_ssh (Except.error.inj hr))
  · cases hr
  · cases hr
  · exact .done (Except.ok.inj hr)

theorem alike_drainNode (path name : String) : ActivityAlike (kubectlDrainNode path name) := by
  refine .call fun r r' hr => ?_
  rcases r with e | ⟨⟩ <;> rcases r' with e' | ⟨⟩
  · exact .done (formatActivityReason_kubectl (Except.error.inj hr))
  · cases hr
  · cases hr
  · exact .done rfl

theorem alike_deleteNode (path name : String) : ActivityAlike (kubectlDeleteNode path name) := by
  refine .call fun r r' hr => ?_
  rcases r with e | ⟨⟩ <;> rcases r' with e' | ⟨⟩
  · exact .done (formatActivityReason_kubectl (Except.error.inj hr))
  · cases hr
  · cases hr
  · exact .done rfl

end Activities

/-! ## The workflows -/

section Workflows

theorem alike_progress {progress : Progress}
    (hp : progress = hubOnlyProgress ∨ ∃ id, progress = workflowProgress id) (step : String) :
    ActivityAlike (ExceptT.lift (progress step)) := by
  refine alike_lift ?_
  rcases hp with rfl | ⟨id, rfl⟩
  · exact alike_hubOnlyProgress step
  · exact alike_workflowProgress id step

/-- Sequencing of activities. -/
theorem activity_bind {α β : Type} {p : Activity α} {f : α → Activity β} (hp : ActivityAlike p)
    (hf : ∀ a, ActivityAlike (f a)) : ActivityAlike (p >>= f) :=
  alike_bindE hp (fun a _ hab => hab ▸ hf a) fun _ _ he => he

theorem activity_pure {α : Type} (a : α) : ActivityAlike (pure a) := .done rfl

theorem alike_sshTarget (server : HetznerServer) : ActivityAlike (sshTarget server) := by
  unfold sshTarget
  split <;> exact .done rfl

theorem alike_joinWorkers (workers : List HetznerServer) (ip token version : String) :
    ActivityAlike (joinWorkers workers ip token version) := by
  refine alike_forM (fun worker => ?_) workers
  refine activity_bind (alike_sshTarget worker) fun target => ?_
  exact activity_bind (alike_sshRun _ _) fun _ => activity_pure ()

theorem alike_provisionCluster {newV5 : String → Uuid} {clusterId : Uuid} {progress : Progress}
    (hp : progress = hubOnlyProgress ∨ ∃ id, progress = workflowProgress id)
    (input : ProvisionClusterInput) :
    ActivityAlike (provisionCluster newV5 clusterId progress input) := by
  unfold provisionCluster
  refine activity_bind (alike_progress hp _) fun _ => ?_
  refine activity_bind (alike_createServer _) fun cpId => ?_
  refine activity_bind (alike_progress hp _) fun _ => ?_
  refine activity_bind (alike_pollCloudInit cpId _) fun cpServer => ?_
  refine activity_bind (alike_sshTarget cpServer) fun cpTarget => ?_
  refine activity_bind (alike_progress hp _) fun _ => ?_
  refine activity_bind ?_ fun joinToken => ?_
  · refine activity_bind (alike_sshRun _ _) fun _ => ?_
    exact activity_bind (alike_sshRun _ _) fun _ => activity_pure _
  refine activity_bind (alike_progress hp _) fun _ => ?_
  refine activity_bind (alike_mapM (fun index => alike_createServer _) _) fun workerIds => ?_
  refine activity_bind (alike_progress hp _) fun _ => ?_
  refine activity_bind (alike_mapM (fun id => alike_pollCloudInit id _) _) fun workers => ?_
  refine activity_bind (alike_progress hp _) fun _ => ?_
  refine activity_bind (alike_joinWorkers workers _ _ _) fun _ => ?_
  refine activity_bind (alike_progress hp _) fun _ => ?_
  refine activity_bind (activity_bind (alike_sshRun _ _) fun _ => activity_pure _) fun kubeconfig => ?_
  exact activity_bind (alike_progress hp _) fun _ => activity_pure _

theorem alike_destroyCluster (ids : List Nat) :
    ActivityAlike (destroyCluster hubOnlyProgress ids) := by
  refine activity_bind (alike_progress (.inl rfl) _) fun _ => ?_
  refine activity_bind (alike_forM alike_deleteServer ids) fun _ => ?_
  exact alike_progress (.inl rfl) _

theorem alike_scaleOut {newV5 : String → Uuid} {clusterId : Uuid} (input : ScaleOutInput) :
    ActivityAlike (scaleOut newV5 clusterId hubOnlyProgress input) := by
  unfold scaleOut
  refine activity_bind (alike_progress (.inl rfl) _) fun _ => ?_
  refine activity_bind (alike_mapM (fun offset => alike_createServer _) _) fun ids => ?_
  refine activity_bind (alike_progress (.inl rfl) _) fun _ => ?_
  refine activity_bind (alike_mapM (fun id => alike_pollCloudInit id _) _) fun workers => ?_
  refine activity_bind (alike_progress (.inl rfl) _) fun _ => ?_
  refine activity_bind (alike_joinWorkers workers _ _ _) fun _ => ?_
  exact activity_bind (alike_progress (.inl rfl) _) fun _ => activity_pure _

theorem alike_scaleIn (targets : List WorkerToRemove) (path : String) :
    ActivityAlike (scaleIn hubOnlyProgress targets path) := by
  unfold scaleIn
  refine activity_bind (alike_progress (.inl rfl) _) fun _ => ?_
  refine activity_bind (alike_forM (fun _ => alike_drainNode _ _) targets) fun _ => ?_
  refine activity_bind (alike_progress (.inl rfl) _) fun _ => ?_
  refine activity_bind (alike_forM (fun _ => alike_deleteNode _ _) targets) fun _ => ?_
  refine activity_bind (alike_progress (.inl rfl) _) fun _ => ?_
  refine activity_bind (alike_forM (fun _ => alike_deleteServer _) targets) fun _ => ?_
  exact alike_progress (.inl rfl) _

end Workflows

/-! ## The runs -/

section Runs

theorem run_bind {α β : Type} {p : Run α} {f : α → Run β} (hp : RunAlike p)
    (hf : ∀ a, RunAlike (f a)) : RunAlike (p >>= f) :=
  alike_bindE hp (fun a _ hab => hab ▸ hf a) fun _ _ he => he

theorem run_pure {α : Type} (a : α) : RunAlike (pure a) := .done rfl

theorem run_throw {α : Type} (e : RunError) : RunAlike (throw e : Run α) := .done trivial

/-- A call whose errors have no text. -/
theorem alike_repository {α : Type} {p : Program cloud (Except PlatformError α)}
    (h : Alike (I := cloud) Redacted Eq p p) : RunAlike (repository p) := by
  refine alike_bind h ?_
  rintro (e | a) _ rfl
  · exact .done trivial
  · exact .done rfl

theorem alike_ignore {α : Type} {p : Program cloud α} (h : Alike (I := cloud) Redacted Eq p p) :
    RunAlike (ignore p) :=
  run_bind (alike_lift h) fun _ => run_pure ()

/-- The workflow of a run, and what the run does with its result: its reason is all that is
looked at when it has failed. -/
theorem alike_outcomeOf {α β : Type} {p : Activity α} {f : Except ActivityError α → Run β}
    (hp : ActivityAlike p) (hok : ∀ a, RunAlike (f (.ok a)))
    (herror : ∀ e e', SameReason e e' →
      Alike (I := cloud) Redacted (Both Eq fun _ _ => True) (f (.error e)).run (f (.error e')).run) :
    RunAlike (outcomeOf p >>= f) := by
  refine alike_bindE (A := Both Eq SameReason) (E := fun _ _ => True) (alike_lift hp) ?_
    fun _ _ he => he
  rintro (e | a) (e' | b) hab
  · exact herror e e' hab
  · exact hab.elim
  · exact hab.elim
  · obtain rfl : a = b := hab
    exact hok a

theorem alike_publishTerminal (status : ClusterStatus) (reason : Option String) :
    Alike (I := cloud) Redacted Eq (publishTerminal status reason) (publishTerminal status reason) := by
  cases status with
  | ready => exact alike_call (c := .publishTerminal .ready reason) rfl
  | failed => exact alike_call (c := .publishTerminal .failed reason) rfl
  | destroyed => exact alike_call (c := .publishTerminal .destroyed reason) rfl
  | pending | provisioning | scaling | destroying => exact .done rfl

theorem alike_recordServer (role : ClusterNodeRole) (server : HetznerServer) :
    RunAlike (recordServer role server) :=
  alike_repository (alike_call (c := .recordServer _ _ _ _) rfl)

theorem alike_storeKubeconfig (kubeconfig : String) :
    RunAlike (ClusterService.storeKubeconfig kubeconfig) := by
  refine run_bind (alike_repository (alike_call (c := .putSecret _) rfl)) fun secretId => ?_
  refine run_bind (alike_lift (alike_call (c := .setKubeconfigSecret secretId) rfl)) ?_
  rintro (e | ⟨⟩)
  · exact run_bind (alike_ignore (alike_call (c := .deleteSecret secretId) rfl)) fun _ =>
      run_throw _
  · exact run_pure ()

theorem alike_fetchKubeconfig (clusterId : Uuid) :
    RunAlike (ClusterService.fetchKubeconfig clusterId) := by
  refine run_bind (alike_repository (alike_call (c := .kubeconfigSecret) rfl)) ?_
  rintro (_ | secretId)
  · exact run_throw _
  · exact alike_repository (alike_call (c := .getSecret secretId) rfl)

theorem alike_beginDestroy : RunAlike ClusterService.beginDestroy := by
  refine run_bind (alike_repository (alike_call (c := .get) rfl)) fun cluster => ?_
  dsimp only
  split
  · exact .done trivial
  · refine run_bind (alike_repository (alike_call (c := .updateStatus _ _) rfl)) fun _ => ?_
    exact run_pure cluster

theorem alike_finalizeDestroy : RunAlike ClusterService.finalizeDestroy := by
  have hrest : RunAlike (do
      repository (call .softDelete)
      repository (call (.updateStatus .destroyed none)) : Run Unit) :=
    run_bind (alike_repository (alike_call (c := .softDelete) rfl)) fun _ =>
      alike_repository (alike_call (c := .updateStatus _ _) rfl)
  refine run_bind (alike_repository (alike_call (c := .kubeconfigSecret) rfl)) ?_
  rintro (_ | secretId)
  · exact hrest
  · exact run_bind (alike_ignore (alike_call (c := .deleteSecret secretId) rfl)) fun _ => hrest

/-- The way out of a run whose workflow has failed. -/
theorem alike_fail (reason : Option String) (err : RunError) :
    RunAlike (do ignore (publishTerminal .failed reason); throw err : Run Unit) :=
  run_bind (alike_ignore (alike_publishTerminal _ _)) fun _ => run_throw err

theorem alike_runProvision {newV5 : String → Uuid} {clusterId : Uuid}
    (input : ProvisionClusterInput) : RunAlike (runProvision newV5 clusterId input) := by
  refine run_bind (alike_lift (alike_call (c := .newId) rfl)) fun workflowRow => ?_
  refine run_bind (alike_repository (alike_call (c := .updateStatus _ _) rfl)) fun _ => ?_
  refine run_bind (alike_repository (alike_call (c := .insertWorkflowRow _) rfl)) fun _ => ?_
  refine alike_outcomeOf (alike_provisionCluster (.inr ⟨workflowRow, rfl⟩) input)
    (fun output => ?_) fun e e' he => ?_
  · refine run_bind (alike_recordServer _ _) fun _ => ?_
    refine run_bind (alike_forM (alike_recordServer _) _) fun _ => ?_
    refine run_bind (alike_storeKubeconfig _) fun _ => ?_
    refine run_bind (alike_repository (alike_call (c := .updateStatus _ _) rfl)) fun _ => ?_
    refine run_bind (alike_repository (alike_call (c := .finalizeWorkflowRow _ _ _) rfl)) fun _ => ?_
    exact alike_ignore (alike_publishTerminal _ _)
  · dsimp only
    rw [he]
    refine run_bind (alike_ignore (alike_call (c := .updateStatus _ _) rfl)) fun _ => ?_
    refine run_bind (alike_ignore (alike_call (c := .finalizeWorkflowRow _ _ _) rfl)) fun _ => ?_
    exact alike_fail _ _

theorem alike_runDestroy : RunAlike runDestroy := by
  refine run_bind alike_beginDestroy fun _ => ?_
  refine run_bind (alike_repository (alike_call (c := .listServers) rfl)) fun servers => ?_
  refine alike_outcomeOf (alike_destroyCluster _) (fun _ => ?_) fun e e' he => ?_
  · refine run_bind (alike_repository (alike_call (c := .softDeleteServers) rfl)) fun _ => ?_
    refine run_bind alike_finalizeDestroy fun _ => ?_
    exact alike_ignore (alike_publishTerminal _ _)
  · dsimp only
    rw [he]
    refine run_bind (alike_ignore (alike_call (c := .updateStatus _ _) rfl)) fun _ => ?_
    exact alike_fail _ _

theorem alike_runScaleOut {newV5 : String → Uuid} {clusterId : Uuid} {count : Nat}
    {clusterName location serverType sshKey userData k3sVersion : String} :
    RunAlike (runScaleOut newV5 clusterId count clusterName location serverType sshKey userData
      k3sVersion) := by
  refine run_bind (alike_repository (alike_call (c := .updateStatus _ _) rfl)) fun _ => ?_
  refine run_bind (alike_repository (alike_call (c := .listServers) rfl)) fun servers => ?_
  split
  · exact run_throw _
  split
  · exact run_throw _
  refine run_bind ?_ fun joinToken => ?_
  · refine .call fun r r' hr => ?_
    rcases r with e | token <;> rcases r' with e' | token'
    · exact .done trivial
    · cases hr
    · cases hr
    · exact .done (Except.ok.inj hr)
  refine alike_outcomeOf (alike_scaleOut _) (fun workers => ?_) fun e e' he => ?_
  · refine run_bind (alike_forM (alike_recordServer _) _) fun _ => ?_
    refine run_bind (alike_repository (alike_call (c := .updateStatus _ _) rfl)) fun _ => ?_
    exact alike_ignore (alike_publishTerminal _ _)
  · dsimp only
    rw [he]
    refine run_bind (alike_ignore (alike_call (c := .updateStatus _ _) rfl)) fun _ => ?_
    exact alike_fail _ _

theorem alike_writeFile {convert : String → RunError} (path content : String) :
    RunAlike (attempt convert (call (.writeFile path content))) := by
  refine .call fun r r' hr => ?_
  rcases r with e | ⟨⟩ <;> rcases r' with e' | ⟨⟩
  · exact .done trivial
  · cases hr
  · cases hr
  · exact .done rfl

theorem alike_runScaleIn {clusterId : Uuid} {clusterName : String} {count : Nat} :
    RunAlike (runScaleIn clusterId clusterName count) := by
  refine run_bind (alike_repository (alike_call (c := .updateStatus _ _) rfl)) fun _ => ?_
  refine run_bind (alike_repository (alike_call (c := .listServers) rfl)) fun servers => ?_
  refine run_bind (alike_fetchKubeconfig clusterId) fun kubeconfig => ?_
  refine run_bind (alike_lift (alike_call (c := .newId) rfl)) fun fileId => ?_
  refine run_bind (alike_writeFile _ _) fun _ => ?_
  refine alike_outcomeOf (alike_scaleIn _ _) (fun _ => ?_) fun e e' he => ?_
  · refine run_bind (alike_ignore (alike_call (c := .removeFile _) rfl)) fun _ => ?_
    refine run_bind (alike_forM (fun _ =>
      alike_ignore (alike_call (c := .softDeleteServerRow _) rfl)) _) fun _ => ?_
    refine run_bind (alike_repository (alike_call (c := .updateStatus _ _) rfl)) fun _ => ?_
    exact alike_ignore (alike_publishTerminal _ _)
  · dsimp only
    rw [he]
    refine run_bind (alike_ignore (alike_call (c := .removeFile _) rfl)) fun _ => ?_
    refine run_bind (alike_ignore (alike_call (c := .updateStatus _ _) rfl)) fun _ => ?_
    exact alike_fail _ _

theorem alike_scaleWorkers (settings : ClusterSettings) (delta : Int) :
    RunAlike (scaleWorkers settings delta) := by
  refine run_bind (alike_repository (alike_call (c := .get) rfl)) fun cluster => ?_
  dsimp only
  split
  · exact .done trivial
  split
  · exact .done rfl
  split
  · exact .done trivial
  refine run_bind (alike_repository (alike_call (c := .getCredential) rfl)) fun _ => ?_
  refine run_bind (alike_repository (alike_call (c := .updateWorkerCount _) rfl)) fun _ => ?_
  split
  · exact alike_ignore (alike_call (c := .spawn _) rfl)
  · exact alike_ignore (alike_call (c := .spawn _) rfl)

/-- Whatever the texts of the errors, a run makes the same calls. -/
theorem clusterJob_alike (D : Deployment) (j : ClusterJob) :
    Alike (I := cloud) Redacted (fun _ _ => True) (j.program D) (j.program D) := by
  refine alike_bind (p := (j.run D).run) (q := (j.run D).run) (R := Both Eq fun _ _ => True) ?_
    fun _ _ _ => .done trivial
  cases j with
  | provision input => exact alike_runProvision input
  | destroy => exact alike_runDestroy
  | scaleOut count clusterName location serverType sshKey userData k3sVersion =>
    exact alike_runScaleOut
  | scaleIn clusterName count => exact alike_runScaleIn
  | scaleWorkers delta => exact alike_scaleWorkers D.settings delta

end Runs

end Kubinate.Clusters
