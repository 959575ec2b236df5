import Kubinate.Addons.Serial
import Kubinate.Clusters.Redaction

/-!
# What users are told about a failure

Two executions of the same runs and requests, whose errors agree in kind and in numeric code: raw
output of the provider and of the tools must not reach `status_reason` or the events. Every run
reports a failure through `format_activity_reason`, but for `run_uninstall_addon`, which stores
the error itself.

* `program_alike`: every program makes the same calls in both executions, as long as Helm gives
  the same error when an uninstall fails in both.
* `sameUninstallErrors`: the condition on the steps of the two executions.
* `reasons_and_events_agree`: then the two executions store and publish the same.
-/

namespace Kubinate.Addons

open Platform Library Clusters

def AddonOutcome.redact (x : AddonOutcome) : AddonOutcome :=
  { toOutcome := x.toOutcome.redact, helmError := x.helmError.redact }

/-- A step without the texts of errors. -/
def withoutTexts : Act AddonJob AddonOutcome → Act AddonJob AddonOutcome
  | .start j => .start j
  | .step i x => .step i x.redact

/-- An answer without the text of its error, but for a failed uninstall. -/
def AddonCall.redact : (c : AddonCall) → c.Answer → c.Answer
  | .cloud c, r => c.redact r
  | .helmWait (.install _), r => r.mapError HelmError.redact
  | _, r => r

/-- Answers that are the same without texts. -/
def RedactedAddon (c : AddonCall) (r r' : c.Answer) : Prop := c.redact r = c.redact r'

/-- The errors with which Helm ends an uninstall are the same in both steps, texts included. -/
def sameUninstallErrors (s : AddonState) : Act AddonJob AddonOutcome → Act AddonJob AddonOutcome →
    Bool
  | .step i x, .step _ x' =>
    match s.nextCall i with
    | some (.helmWait (.uninstall ..)) => x.reply == .ok || x.helmError == x'.helmError
    | _ => true
  | _, _ => true

/-- The same stored reasons and the same events. -/
structure ToldTheSame (s s' : AddonState) : Prop where
  cluster : s.world.cloud.cluster.statusReason = s'.world.cloud.cluster.statusReason
  addon : s.world.addon.map (·.statusReason) = s'.world.addon.map (·.statusReason)
  events : s.world.events = s'.world.events

/-! ## The programs -/

section Programs

/-- A run or request whose two executions differ in the error they end with at most. -/
abbrev AddonAlike {α : Type} (p : AddonRun α) : Prop :=
  Alike (I := addons) RedactedAddon (Both Eq fun _ _ => True) p.run p.run

theorem addon_bind {α β : Type} {p : AddonRun α} {f : α → AddonRun β} (hp : AddonAlike p)
    (hf : ∀ a, AddonAlike (f a)) : AddonAlike (p >>= f) :=
  alike_bindE hp (fun a _ hab => hab ▸ hf a) fun _ _ he => he

theorem addon_throw {α : Type} (e : RunError) : AddonAlike (throw e : AddonRun α) := .done trivial

theorem addon_onCluster {α : Type} {p : Run α} (hp : RunAlike p) : AddonAlike (onCluster p) :=
  alike_embed (I := cloud) (J := addons) (f := AddonCall.cloud) (fun _ _ _ hr => hr) hp

/-- A call whose errors have no text. -/
theorem alike_plain {c : AddonCall} (h : ∀ r r', RedactedAddon c r r' → r = r') :
    Alike (I := addons) RedactedAddon Eq (perform c) (perform c) :=
  .call fun r r' hr => .done (h r r' hr)

theorem alike_removeFile (path : String) :
    Alike (I := addons) RedactedAddon Eq (perform (.cloud (.removeFile path)))
      (perform (.cloud (.removeFile path))) :=
  alike_plain fun _ _ h => h

theorem alike_updateStatus (status : AddonStatus) (reason : Option String) :
    Alike (I := addons) RedactedAddon Eq (perform (.updateStatus status reason))
      (perform (.updateStatus status reason)) :=
  alike_plain fun _ _ h => h

theorem alike_spawn (job : AddonJob) :
    Alike (I := addons) RedactedAddon Eq (perform (.spawn job)) (perform (.spawn job)) :=
  alike_plain fun _ _ h => h

theorem alike_helmStart (op : HelmOp) (path : String) :
    Alike (I := addons) RedactedAddon Eq (perform (.helmStart op path))
      (perform (.helmStart op path)) :=
  alike_plain fun _ _ h => h

/-- A method of the repository. -/
theorem addon_stored {α : Type} {p : Program addons (Except PlatformError α)}
    (h : Alike (I := addons) RedactedAddon Eq p p) : AddonAlike (stored p) := by
  refine alike_bind h ?_
  rintro (e | a) _ rfl
  · exact .done trivial
  · exact .done rfl

theorem alike_stageKubeconfig (clusterId : Uuid) : AddonAlike (stageKubeconfig clusterId) := by
  refine addon_bind (addon_onCluster (alike_fetchKubeconfig clusterId)) fun kubeconfig => ?_
  refine addon_bind (addon_onCluster (alike_lift (alike_call (c := .newId) rfl))) fun fileId => ?_
  exact addon_bind (addon_onCluster (alike_writeFile _ _)) fun _ => .done rfl

theorem alike_installAddon (clusterId : Uuid) (new : NewAddon) :
    AddonAlike (installAddon clusterId new) := by
  refine addon_bind (addon_onCluster (alike_repository (alike_call (c := .get) rfl)))
    fun cluster => ?_
  dsimp only
  split
  · exact .done trivial
  refine addon_bind ?_ fun row => ?_
  · unfold AddonService.requestInstall
    split
    · exact addon_throw _
    split
    · exact addon_throw _
    · exact addon_stored (alike_plain (c := .upsert _ _ _) fun _ _ h => h)
  refine addon_bind (alike_stageKubeconfig clusterId) fun kubeconfigPath => ?_
  split
  · exact addon_throw _
  · exact alike_lift (alike_spawn _)

theorem alike_uninstallAddon (clusterId addonId : Uuid) :
    AddonAlike (uninstallAddon clusterId addonId) := by
  refine addon_bind (addon_stored (alike_plain (c := .getById) fun _ _ h => h)) ?_
  rintro (_ | addon)
  · exact addon_throw _
  dsimp only
  split
  · exact .done trivial
  split
  · exact .done trivial
  refine addon_bind (addon_stored (alike_updateStatus _ _)) fun _ => ?_
  split
  · exact addon_throw _
  · refine addon_bind (alike_stageKubeconfig clusterId) fun kubeconfigPath => ?_
    exact alike_lift (alike_spawn _)

/-- The reason that is stored after a failure is all that can tell two errors apart. -/
theorem alike_recordOutcome {success : AddonStatus} {failure : String}
    {reasonOf : HelmError → String} {r r' : Except HelmError Unit}
    (hr : Both Eq (fun e e' => reasonOf e = reasonOf e') r r') :
    Alike (I := addons) RedactedAddon (Both Eq fun _ _ => True)
      (recordOutcome success failure reasonOf r).run
      (recordOutcome success failure reasonOf r').run := by
  rcases r with e | ⟨⟩ <;> rcases r' with e' | ⟨⟩
  · have hreason : reasonOf e = reasonOf e' := hr
    unfold recordOutcome
    dsimp only
    rw [hreason]
    exact addon_bind (alike_lift (alike_updateStatus _ _)) fun _ => addon_throw _
  · exact hr.elim
  · exact hr.elim
  · exact addon_stored (alike_updateStatus _ _)

theorem alike_runInstallAddon (params : InstallParams) (kubeconfigPath : String) :
    AddonAlike (runInstallAddon params kubeconfigPath) := by
  refine addon_bind (addon_stored (alike_updateStatus _ _)) fun _ => ?_
  refine alike_bindE (A := Both Eq fun e e' => e.redact = e'.redact) (E := fun _ _ => True)
    (alike_lift ?_) (fun r r' hr => ?_) fun _ _ he => he
  · refine alike_bind (alike_helmStart _ _) fun _ _ _ => ?_
    refine .call fun r r' hr => .done ?_
    rcases r with e | ⟨⟩ <;> rcases r' with e' | ⟨⟩
    · exact Except.error.inj hr
    · cases hr
    · cases hr
    · exact rfl
  · refine alike_bindE (A := Eq) (E := fun _ _ => True) (alike_lift
      (alike_removeFile _)) (fun _ _ _ => ?_) fun _ _ he => he
    refine alike_recordOutcome ?_
    rcases r with e | ⟨⟩ <;> rcases r' with e' | ⟨⟩
    · exact formatActivityReason_helm hr
    · exact hr.elim
    · exact hr.elim
    · exact rfl

/-- The error of the uninstall is the same in both executions. -/
theorem alike_runUninstallAddon (helmRelease nameSpace kubeconfigPath : String) :
    AddonAlike (runUninstallAddon helmRelease nameSpace kubeconfigPath) := by
  refine addon_bind (alike_lift ?_) fun r => ?_
  · refine alike_bind (alike_helmStart _ _) fun _ _ _ => ?_
    exact alike_plain (c := .helmWait (.uninstall helmRelease nameSpace)) fun _ _ h => h
  · refine addon_bind (alike_lift (alike_removeFile _)) fun _ => ?_
    refine alike_recordOutcome ?_
    rcases r with e | ⟨⟩
    · exact rfl
    · exact rfl

theorem program_alike (site : Site) (j : AddonJob) :
    Alike (I := addons) RedactedAddon (fun _ _ => True) (j.program site) (j.program site) := by
  have hend {p : AddonRun Unit} (hp : AddonAlike p) :
      Alike (I := addons) RedactedAddon (fun _ _ => True) (do let _ ← p.run)
        (do let _ ← p.run) :=
    alike_bind (p := p.run) (q := p.run) hp fun _ _ _ => .done trivial
  cases j with
  | cluster j =>
    exact alike_embed (I := cloud) (J := addons) (f := AddonCall.cloud) (fun _ _ _ hr => hr)
      (clusterJob_alike _ j)
  | install version => exact hend (alike_installAddon _ _)
  | uninstall clusterId => exact hend (alike_uninstallAddon _ _)
  | runInstall params kubeconfigPath => exact hend (alike_runInstallAddon _ _)
  | runUninstall helmRelease nameSpace kubeconfigPath => exact hend (alike_runUninstallAddon _ _ _)

end Programs

/-! ## The world -/

section World

variable {x x' : AddonOutcome}

theorem statement_redact {α : Type} (h : x.redact = x'.redact) (w w' : AddonWorld) (a : α) :
    w.statement x w' a = w.statement x' w' a := by
  have hreply : x.reply = x'.reply := congrArg (·.reply) h
  have hsql : x.sqlError = x'.sqlError := congrArg (·.sqlError) h
  rw [AddonWorld.statement, AddonWorld.statement, hreply, hsql]

/-- Two ways of a call that are the same without texts, and with them where an uninstall fails. -/
theorem answer_alike (site : Site) (external : AddonJob → Bool) (h : x.redact = x'.redact)
    (w : AddonWorld) (i : Nat) (c : AddonCall)
    (hc : ∀ release nameSpace, c = .helmWait (.uninstall release nameSpace) →
      x.reply = .ok ∨ x.helmError = x'.helmError) :
    (addonPool site external).Agree RedactedAddon w i c x x' := by
  have hreply : x.reply = x'.reply := congrArg (·.reply) h
  have hhelm : x.helmError.redact = x'.helmError.redact := congrArg (·.helmError) h
  cases c with
  | cloud c =>
    rcases cloud_answer_alike (congrArg (·.toOutcome) h) w.cloud i c with
      ⟨hnone, hnone'⟩ | ⟨cloud, r, r', js, hr, hr', hredacted⟩
    · exact .inl ⟨congrArg (Option.map _) hnone, congrArg (Option.map _) hnone'⟩
    · exact .inr ⟨_, r, r', _, congrArg (Option.map _) hr, congrArg (Option.map _) hr', hredacted⟩
  | upsert addon version helmRelease =>
    have hid : x.id = x'.id := congrArg (·.id) h
    refine .inr ⟨_, _, _, _, rfl, ?_, rfl⟩
    show some (w.statement x' _ _) = some (w.statement x _ _)
    rw [statement_redact h, hid]
  | getById =>
    exact .inr ⟨_, _, _, _, rfl, congrArg some (statement_redact h _ _ _).symm, rfl⟩
  | updateStatus status reason =>
    exact .inr ⟨_, _, _, _, rfl, congrArg some (statement_redact h _ _ _).symm, rfl⟩
  | helmStart op kubeconfigPath => exact .inr ⟨_, _, _, _, rfl, rfl, rfl⟩
  | spawn job => exact .inr ⟨_, _, _, _, rfl, rfl, rfl⟩
  | helmWait op =>
    have hworld : { w with
        inFlight := w.inFlight.filter (·.1 != i)
        finished := w.finished ++ [(op, x.reply == Reply.ok)] } = { w with
        inFlight := w.inFlight.filter (·.1 != i)
        finished := w.finished ++ [(op, x'.reply == Reply.ok)] } := by rw [hreply]
    refine .inr ⟨_, _, _, _, rfl, congrArg (fun w' => some (w', _, [])) hworld.symm, ?_⟩
    rw [hreply]
    split
    · exact rfl
    · next hfailed =>
      cases op with
      | install params => exact congrArg Except.error hhelm
      | uninstall release nameSpace =>
        rcases hc release nameSpace rfl with hok | hsame
        · exact absurd (hreply ▸ hok) hfailed
        · exact congrArg Except.error hsame

end World

/-- Both conditions on a pair of steps, at once. -/
theorem allPairs_and {site : Site} {external : AddonJob → Bool} {s : AddonState}
    {as as' : List (Act AddonJob AddonOutcome)}
    (hagree : as.map withoutTexts = as'.map withoutTexts)
    (hC : (addonPool site external).allPairs sameUninstallErrors s as as' = true) :
    (addonPool site external).allPairs (fun s a a' =>
      decide (withoutTexts a = withoutTexts a') && sameUninstallErrors s a a') s as as' = true := by
  induction as generalizing s as' with
  | nil =>
    cases as' with
    | nil => rfl
    | cons a' as' => cases hC
  | cons a as ih =>
    cases as' with
    | nil => cases hC
    | cons a' as' =>
      obtain ⟨hhead, htail⟩ := List.cons.inj hagree
      rw [Pool.allPairs, Bool.and_eq_true] at hC ⊢
      refine ⟨Bool.and_eq_true_iff.mpr ⟨decide_eq_true hhead, hC.1⟩, ?_⟩
      cases hstep : (addonPool site external).step s a with
      | none => rfl
      | some s' =>
        rw [hstep] at hC
        exact ih htail hC.2

/-- Two executions whose errors differ in free text only store the same reasons and publish the
same events, unless Helm fails to uninstall with two texts. -/
theorem reasons_and_events_agree {site : Site} {external : AddonJob → Bool} {w : AddonWorld}
    {as as' : List (Act AddonJob AddonOutcome)} {s s' : AddonState}
    (hagree : as.map withoutTexts = as'.map withoutTexts)
    (hC : (addonPool site external).allPairs sameUninstallErrors (Pool.init w) as as' = true)
    (h : (addonPool site external).exec (Pool.init w) as = some s)
    (h' : (addonPool site external).exec (Pool.init w) as' = some s') : ToldTheSame s s' := by
  have hlockstep : Pool.Lockstep RedactedAddon s s' := by
    refine Pool.exec_alike (program_alike site) ?_ ⟨rfl, .nil⟩ (allPairs_and hagree hC) h h'
    intro s a a' hpair
    rw [Bool.and_eq_true, decide_eq_true_eq] at hpair
    obtain ⟨htexts, huninstall⟩ := hpair
    cases a with
    | start j =>
      cases a' with
      | start j' =>
        cases htexts
        exact .inl ⟨j, rfl, rfl⟩
      | step i' x' => cases htexts
    | step i x =>
      cases a' with
      | start j' => cases htexts
      | step i' x' =>
        obtain ⟨rfl, hredact⟩ := Act.step.inj htexts
        refine .inr ⟨i, x, x', rfl, rfl, fun c hnext => ?_⟩
        refine answer_alike site external hredact s.world i c fun release nameSpace hc => ?_
        subst hc
        rw [sameUninstallErrors, hnext] at huninstall
        dsimp only at huninstall
        rw [Bool.or_eq_true, beq_iff_eq, beq_iff_eq] at huninstall
        exact huninstall
  exact ⟨by rw [hlockstep.world], by rw [hlockstep.world], by rw [hlockstep.world]⟩

/-! ## Runs -/

/-- An install that fails in both executions, with one exit code and two outputs. -/
def failedInstall (stderr : String) : List (Act AddonJob AddonOutcome) :=
  .start (.install "4.10.0") :: goingWell 0 7 ++ goingWell 1 2 ++
    [.step 1 { reply := .failed, helmError := .nonZeroExit 1 stderr }] ++ goingWell 1 2

theorem reasons_and_events_agree_failedInstall :
    ∃ s s', (addonPool ingress (!·.isRun)).exec (Pool.init { cloud := clusterWithKubeconfig })
        (failedInstall "server 42") = some s ∧
      (addonPool ingress (!·.isRun)).exec (Pool.init { cloud := clusterWithKubeconfig })
        (failedInstall "token abc") = some s' ∧
      s.world.addon.map (·.statusReason) = some (some "helm: NonZeroExit code=1") ∧
      ToldTheSame s s' := by
  have hrun : ((addonPool ingress (!·.isRun)).exec (Pool.init { cloud := clusterWithKubeconfig })
      (failedInstall "server 42")).any (fun s => decide
        (s.world.addon.map (·.statusReason) = some (some "helm: NonZeroExit code=1"))) = true := by
    decide +kernel
  have hrun' : ((addonPool ingress (!·.isRun)).exec (Pool.init { cloud := clusterWithKubeconfig })
      (failedInstall "token abc")).isSome = true := by decide +kernel
  obtain ⟨s, hs, hreason⟩ := (Option.any_eq_true _ _).mp hrun
  obtain ⟨s', hs'⟩ := Option.isSome_iff_exists.mp hrun'
  refine ⟨s, s', hs, hs', of_decide_eq_true hreason, ?_⟩
  exact reasons_and_events_agree (by decide +kernel) (by decide +kernel) hs hs'

/-- An uninstall that fails in both executions, with one exit code and two outputs. -/
def failedUninstall (stderr : String) : List (Act AddonJob AddonOutcome) :=
  [.start (.runUninstall "ingress-nginx" "ingress-nginx" "/tmp/kc.yaml")] ++ goingWell 0 1 ++
    [.step 0 { reply := .failed, helmError := .nonZeroExit 1 stderr }] ++ goingWell 0 2

/-- The add-on, while it is uninstalled. -/
def uninstalling : AddonWorld where
  cloud := clusterWithKubeconfig
  addon := some ⟨9, 7, "ingress-nginx", "4.10.0", "ingress-nginx", .uninstalling, none⟩

theorem not_reasons_and_events_agree :
    ¬ ∀ (site : Site) (external : AddonJob → Bool) (w : AddonWorld)
      (as as' : List (Act AddonJob AddonOutcome)) (s s' : AddonState),
      as.map withoutTexts = as'.map withoutTexts →
      (addonPool site external).exec (Pool.init w) as = some s →
      (addonPool site external).exec (Pool.init w) as' = some s' → ToldTheSame s s' := by
  intro h
  have hrun (stderr : String) : ((addonPool ingress fun _ => true).exec (Pool.init uninstalling)
      (failedUninstall stderr)).map (fun s => s.world.addon.map (·.statusReason)) =
      some (some (some (helmErrorText (.nonZeroExit 1 stderr)))) := rfl
  obtain ⟨s, hs, hreason⟩ := Option.map_eq_some_iff.mp (hrun "server 42")
  obtain ⟨s', hs', hreason'⟩ := Option.map_eq_some_iff.mp (hrun "token abc")
  have hsame := (h ingress (fun _ => true) uninstalling _ _ s s' (by decide +kernel) hs hs').addon
  rw [hreason, hreason'] at hsame
  revert hsame
  decide +kernel

end Kubinate.Addons
