import Kubinate.Clusters.Model

/-!
# Add-ons of a cluster

The rows of `cluster_addons`, the catalog of add-ons, and what `helm` is run with
(`crates/addons/src/model.rs`, `crates/addons/src/catalog.rs`, `crates/integrations/src/helm.rs`).
-/

namespace Kubinate.Addons

open Platform Clusters

/-- The SQL enum `addon_status`. -/
inductive AddonStatus where
  | pending
  | installing
  | ready
  | failed
  | uninstalling
  | uninstalled
deriving DecidableEq, Repr

/-- A row of `cluster_addons`. -/
structure ClusterAddon where
  id : Uuid
  clusterId : Uuid
  addon : String
  version : String
  helmRelease : String
  status : AddonStatus
  statusReason : Option String
deriving DecidableEq, Repr

/-- What a user asks to be installed. -/
structure NewAddon where
  addon : String
  version : String

/-! ## The catalog -/

structure AddonSpec where
  slug : String
  chartRepo : String
  chartName : String
  releaseName : String
  nameSpace : String
  defaultValuesYaml : String

def catalog : List AddonSpec :=
  [{ slug := "ingress-nginx"
     chartRepo := "https://kubernetes.github.io/ingress-nginx"
     chartName := "ingress-nginx"
     releaseName := "ingress-nginx"
     nameSpace := "ingress-nginx"
     defaultValuesYaml := "controller:\n  replicaCount: 1\n  service:\n    type: NodePort\n" },
   { slug := "cert-manager"
     chartRepo := "https://charts.jetstack.io"
     chartName := "cert-manager"
     releaseName := "cert-manager"
     nameSpace := "cert-manager"
     defaultValuesYaml := "crds:\n  enabled: true\n" }]

def lookup (slug : String) : Except PlatformError AddonSpec :=
  match catalog.find? (·.slug == slug) with
  | some spec => .ok spec
  | none => .error (.invalid ("unknown addon: " ++ slug))

/-- Each entry of the catalog is found under its own slug. -/
theorem lookup_of_mem {spec : AddonSpec} (h : spec ∈ catalog) : lookup spec.slug = .ok spec := by
  simp only [catalog, List.mem_cons, List.not_mem_nil, or_false] at h
  rcases h with rfl | rfl <;> rfl

/-! ## Helm -/

/-- What `helm upgrade --install` is run with. -/
structure InstallParams where
  release : String
  chart : String
  repo : String
  version : String
  nameSpace : String
  valuesYaml : String
deriving DecidableEq, Repr

inductive HelmOp where
  | install (params : InstallParams)
  | uninstall (release nameSpace : String)
deriving DecidableEq, Repr

def HelmOp.isInstall : HelmOp → Bool
  | .install _ => true
  | .uninstall .. => false

/-- `to_string`: with the raw output. -/
def helmErrorText : HelmError → String
  | .nonZeroExit code stderr =>
    "helm command failed (exit " ++ toString code ++ "): " ++ stderr
  | .transport message => "spawn helm: " ++ message
  | .timeout seconds => "helm timed out after " ++ toString seconds ++ "s"

/-- The status of an add-on after a Helm operation that has succeeded or failed. -/
def HelmOp.produces : HelmOp → Bool → AddonStatus
  | .install _, true => .ready
  | .uninstall .., true => .uninstalled
  | _, false => .failed

end Kubinate.Addons
