import Kubinate.Access.Tenancy
import Kubinate.Billing.Tenancy
import Kubinate.Clusters.Orphans
import Kubinate.Clusters.Tenancy

/-!
# Row-level security and a tenant's own rows

`migrations/20260424120000_initial.sql` expects every transaction on a tenant's rows to set
`app.current_tenant_id`. Then the role that row-level security binds and a role that bypasses
it would see the same rows. The paths below do not all set it: `finalize_workflow_row` and
the deletion of worker rows in `run_scale_in`, the whole billing repository, and the
extraction of owners use the bare pool, where the tenant is the nil organization.

* `TenantRun`: a run of one of these paths, alone, with the way each of its calls goes.
* `TenantRun.Untouched`: the statements without a tenant have no row to reach.
* `transparent_iff`: both roles get the same from exactly those runs.
* `not_transparent`: a provisioning run is not among them, though nothing fails in it.
-/

namespace Kubinate.Tenancy

open Platform Library

inductive TenantRun where
  | provision (D : Clusters.Deployment) (input : Clusters.ProvisionClusterInput)
      (w : Clusters.Cloud) (xs : Nat → Clusters.Outcome)
      (possible : ((Clusters.runProvision D.newV5 D.clusterId input).run.replay
        Clusters.cloudAnswer xs 0 (w.withRls false)).isSome = true)
  | scaleIn (D : Clusters.Deployment) (clusterName : String) (count : Nat)
      (w : Clusters.Cloud) (xs : Nat → Clusters.Outcome)
      (possible : ((Clusters.runScaleIn D.clusterId clusterName count).run.replay
        Clusters.cloudAnswer xs 0 (w.withRls false)).isSome = true)
  | plan (urls : Billing.CheckoutUrls) (op : Billing.PlanOperation) (db : Billing.BillingDb)
      (xs : Nat → Billing.Outcome)
  | ownerActor (env : Access.Crates) (headers : Access.Headers) (w : Access.Accounts)
      (xs : Nat → Access.Outcome)

namespace TenantRun

/-- The run has the same result and leaves the same rows, whether row-level security is in
force or bypassed. -/
def Transparent : TenantRun → Prop
  | provision D input w xs _ =>
    let p := (Clusters.runProvision D.newV5 D.clusterId input).run
    (p.replay Clusters.cloudAnswer xs 0 (w.withRls true)).map
      (fun (w', r) => (w'.withRls false, r)) = p.replay Clusters.cloudAnswer xs 0 (w.withRls false)
  | scaleIn D clusterName count w xs _ =>
    let p := (Clusters.runScaleIn D.clusterId clusterName count).run
    (p.replay Clusters.cloudAnswer xs 0 (w.withRls true)).map
      (fun (w', r) => (w'.withRls false, r)) = p.replay Clusters.cloudAnswer xs 0 (w.withRls false)
  | plan urls op db xs => op.Transparent urls db xs
  | ownerActor env headers w xs =>
    Access.Transparent xs (Access.OwnerActor.fromRequestParts env headers).run 0 w

/-- Where row-level security is bypassed, no statement without a tenant reaches a row that it
would not reach otherwise. -/
def Untouched : TenantRun → Prop
  | provision D input w xs _ => (Clusters.runProvision D.newV5 D.clusterId input).run.replayAll
      Clusters.cloudAnswer xs Clusters.spares 0 (w.withRls false) = true
  | scaleIn D clusterName count w xs _ =>
    (Clusters.runScaleIn D.clusterId clusterName count).run.replayAll
      Clusters.cloudAnswer xs Clusters.spares 0 (w.withRls false) = true
  | plan _ op db xs => op.Spared db xs
  | ownerActor env headers w xs => (Access.OwnerActor.fromRequestParts env headers).run.replayAll
      Access.accessAnswer xs Access.findsNone 0 (w.withRls false) = true

/-- The nil organization, by construction, has no rows. -/
def NoNil : TenantRun → Prop
  | provision .. | scaleIn .. => True
  | plan _ _ db _ => db.NoNil
  | ownerActor _ _ w _ => w.NoNil

end TenantRun

theorem twins (w : Clusters.Cloud) :
    Clusters.Twins ⟨w.withRls true, w.withRls false, true⟩ := ⟨rfl, rfl, rfl⟩

/-- Both roles get the same from a run exactly if its statements without a tenant have nothing
to reach. -/
theorem transparent_iff (run : TenantRun) (h : run.NoNil) : run.Transparent ↔ run.Untouched := by
  cases run with
  | provision D input w xs possible =>
    exact Clusters.replay_eq_iff (Clusters.runProvision_together input (twins w)) possible
  | scaleIn D clusterName count w xs possible =>
    exact Clusters.replay_eq_iff (Clusters.runScaleIn_together clusterName count (twins w)) possible
  | plan urls op db xs => exact Billing.plan_transparent_iff h op
  | ownerActor env headers w xs => exact Access.ownerActor_transparent_iff h env headers

/-- An organization whose checkout was completed before. -/
def onStarter : Billing.BillingDb where
  organizations := [⟨1, .starter, none⟩]
  events := []
  enforceRls := true

theorem transparent_iff_redelivered :
    (TenantRun.plan ⟨"", ""⟩ (.applyCheckoutCompletion "evt_1" 1 .starter .null) onStarter
      fun _ => ⟨.ok, .error .transport⟩).Transparent := by
  refine (transparent_iff _ ?_).mpr ?_
  · simp [TenantRun.NoNil, Billing.BillingDb.NoNil, onStarter]
    decide
  · simp [TenantRun.Untouched, Billing.PlanOperation.Spared, onStarter]

/-- A cluster is provisioned and no call fails. -/
theorem provision_possible :
    ((Clusters.runProvision Clusters.demoDeployment.newV5 Clusters.demoDeployment.clusterId
      Clusters.demoInput).run.replay Clusters.cloudAnswer Clusters.succeeds 0
      ((Clusters.Cloud.fresh Clusters.pendingCluster [] true).withRls false)).isSome = true := by
  decide +kernel

/-- The workflow row of a provisioning run is not finished under row-level security. -/
theorem not_transparent : ¬ ∀ run : TenantRun, run.NoNil → run.Transparent := by
  intro h
  have htransparent := h (.provision Clusters.demoDeployment Clusters.demoInput
    (.fresh Clusters.pendingCluster [] true) Clusters.succeeds provision_possible) trivial
  have hspares := (Clusters.replay_eq_iff
    (Clusters.runProvision_together Clusters.demoInput (twins _)) provision_possible).mp htransparent
  have hreached : (Clusters.runProvision Clusters.demoDeployment.newV5
      Clusters.demoDeployment.clusterId Clusters.demoInput).run.replayAll Clusters.cloudAnswer
      Clusters.succeeds Clusters.spares 0
      ((Clusters.Cloud.fresh Clusters.pendingCluster [] true).withRls false) = false := by
    decide +kernel
  rw [hreached] at hspares
  cases hspares

end Kubinate.Tenancy
