import Kubinate.Addons.Serial
import Kubinate.Library.Together

/-!
# Scale and uninstall requests that fail

`scale_workers` writes the count and `uninstall_addon` the status of the add-on before they spawn
their run. After its write the uninstall request still looks the add-on up in the catalog, fetches
the kubeconfig and writes it to a file.

* `scaleWorkers_settles`, `uninstallAddon_settles`: how each request can go.
* `failed_requests_change_nothing_iff`: which of them change something and fail.
-/

namespace Kubinate.Addons

open Platform Library Clusters

inductive OwnerRequest where
  | scaleWorkers (settings : ClusterSettings) (delta : Int)
  | uninstallAddon (clusterId addonId : Uuid)

def OwnerRequest.program : OwnerRequest → Program addons (Except RunError Unit)
  | .scaleWorkers settings delta => (onCluster (Clusters.scaleWorkers settings delta)).run
  | .uninstallAddon clusterId addonId => (Addons.uninstallAddon clusterId addonId).run

/-- How a call of the request is answered. -/
def AddonWorld.reply (clusterId : Uuid) (w : AddonWorld) (c : AddonCall) (x : AddonOutcome) :
    Option (AddonWorld × c.Answer) :=
  (w.answer clusterId 0 x c).map fun (w', r, _) => (w', r)

def statusOf (row : ClusterAddon) : AddonStatus × Option String := (row.status, row.statusReason)

/-- The count of the workers, and the status of the add-on with its reason. -/
def AddonWorld.visible (w : AddonWorld) : Int × Option (AddonStatus × Option String) :=
  (w.cloud.cluster.workerCount, w.addon.map statusOf)

/-- The reply to a write is not lost, and what an uninstall request does after its write succeeds:
the add-on is in the catalog, the cluster has a kubeconfig, its secret is found, and the file is
written. -/
def goesThrough (w : AddonWorld) (c : AddonCall) (x : AddonOutcome) : Bool :=
  match c with
  | .cloud (.updateWorkerCount _) => x.reply != .lost
  | .updateStatus .. =>
    x.reply == .failed || x.reply == .ok && w.addon.all fun row => (lookup row.addon).isOk
  | .cloud .kubeconfigSecret =>
    x.reply == .ok && w.cloud.cluster.deletedAt.isNone && w.cloud.cluster.kubeconfigSecretId.isSome
  | .cloud (.getSecret id) => x.reply == .ok && (w.cloud.secrets.find? (·.1 == id)).isSome
  | .cloud (.writeFile ..) => x.reply == .ok
  | _ => true

/-! ## One call -/

abbrev marking (clusterId : Uuid) :=
  Marking (I := addons) (AddonWorld.reply clusterId) (fun _ => True) goesThrough

section Calls

variable {clusterId : Uuid} {w w' : AddonWorld} {b b' : Bool}

theorem cloud_cases {c : CloudCall} {r : c.Answer}
    (h : marking clusterId (w, b) (.cloud c) r (w', b')) :
    ∃ x : AddonOutcome, b' = (b && goesThrough w (.cloud c) x) ∧ w'.addon = w.addon ∧
      (x.reply = .ok ∧ w'.cloud = (w.cloud.execute 0 x.toOutcome c).1 ∧
          r = (w.cloud.execute 0 x.toOutcome c).2 ∨
        x.reply = .failed ∧ w'.cloud = w.cloud ∧ r = Cloud.broken x.toOutcome c ∨
        x.reply = .lost ∧ w'.cloud = (w.cloud.execute 0 x.toOutcome c).1 ∧
          r = Cloud.broken x.toOutcome c) := by
  obtain ⟨x, -, ha, hb⟩ := h
  obtain ⟨⟨_, _, _⟩, hanswer, heq⟩ := Option.map_eq_some_iff.mp ha
  cases heq
  obtain ⟨⟨cloud, r', js⟩, hcloud, heq⟩ := Option.map_eq_some_iff.mp hanswer
  cases heq
  obtain ⟨-, -, hcases⟩ := Cloud.answer_cases hcloud
  exact ⟨x, hb, rfl, hcases⟩

theorem updateStatus_cases {status : AddonStatus} {reason : Option String}
    {r : Except PlatformError Unit}
    (h : marking clusterId (w, b) (.updateStatus status reason) r (w', b')) :
    ∃ x : AddonOutcome, b' = (b && goesThrough w (.updateStatus status reason) x) ∧
      (x.reply = .ok ∧ w' = w.updateStatus status reason ∧ r = .ok () ∨
        x.reply = .failed ∧ w' = w ∧ r = .error (.database x.sqlError) ∨
        x.reply = .lost ∧ w' = w.updateStatus status reason ∧ r = .error (.database x.sqlError)) := by
  obtain ⟨x, -, ha, hb⟩ := h
  refine ⟨x, hb, ?_⟩
  cases hreply : x.reply <;> rw [AddonWorld.reply, AddonWorld.answer, AddonWorld.statement, hreply] at ha
  · cases ha
    exact .inl ⟨rfl, rfl, rfl⟩
  · cases ha
    exact .inr (.inl ⟨rfl, rfl, rfl⟩)
  · cases ha
    exact .inr (.inr ⟨rfl, rfl, rfl⟩)

/-- A look at the row. -/
theorem getById_cases {r : Except PlatformError (Option ClusterAddon)}
    (h : marking clusterId (w, b) .getById r (w', b')) :
    w' = w ∧ b' = b ∧ ∀ row, r = .ok row → row = w.addon := by
  obtain ⟨x, -, ha, hb⟩ := h
  have hsame : b' = b := hb.trans (Bool.and_true b)
  cases hreply : x.reply <;> rw [AddonWorld.reply, AddonWorld.answer, AddonWorld.statement, hreply] at ha
  · cases ha
    exact ⟨rfl, hsame, fun row hrow => (Except.ok.inj hrow).symm⟩
  · cases ha
    exact ⟨rfl, hsame, nofun⟩
  · cases ha
    exact ⟨rfl, hsame, nofun⟩

end Calls

/-! ## The requests -/

section Requests

variable {clusterId : Uuid} {w : AddonWorld} {s : AddonWorld × Bool}

/-- Nothing has been written yet. -/
def Untouched (w : AddonWorld) (s : AddonWorld × Bool) : Prop := s.1.visible = w.visible ∧ s.2 = true

/-- The status has been written. -/
def Touched (w : AddonWorld) (s : AddonWorld × Bool) : Prop :=
  s.1.addon.map statusOf ≠ w.addon.map statusOf ∧ s.2 = true

/-- The request can no longer take back what it has written. -/
def Stuck (w : AddonWorld) (s : AddonWorld × Bool) : Prop := s.1.visible ≠ w.visible ∧ s.2 = false

/-- An error leaves the count and the status as they were, exactly if the mark says so. -/
def Settled (w : AddonWorld) (s : AddonWorld × Bool) (r : Except RunError Unit) : Prop :=
  (∀ e, r = .error e → s.1.visible = w.visible) ↔ s.2 = true

theorem Untouched.settled (h : Untouched w s) (r : Except RunError Unit) : Settled w s r :=
  ⟨fun _ => h.2, fun _ _ _ => h.1⟩

theorem settled_ok (hb : s.2 = true) : Settled w s (.ok ()) := ⟨fun _ => hb, fun _ => nofun⟩

theorem Stuck.settled (h : Stuck w s) (e : RunError) : Settled w s (.error e) := by
  rw [Settled, h.2]
  exact ⟨fun hsame => absurd (hsame e rfl) h.1, nofun⟩

/-- A call that changes nothing and that nothing depends on. -/
theorem reading_cases {w w' : AddonWorld} {b b' : Bool} {c : CloudCall} {r : c.Answer}
    (h : marking clusterId (w, b) (.cloud c) r (w', b'))
    (hfine : ∀ x, goesThrough w (.cloud c) x = true)
    (hsame : ∀ x, (w.cloud.execute 0 x c).1 = w.cloud) :
    w'.cloud = w.cloud ∧ w'.addon = w.addon ∧ b' = b ∧
      ∃ x, r = (w.cloud.execute 0 x c).2 ∨ r = Cloud.broken x c := by
  obtain ⟨x, hb, haddon, hcases⟩ := cloud_cases h
  rw [hfine x, Bool.and_true] at hb
  rcases hcases with ⟨-, hcloud, hr⟩ | ⟨-, hcloud, hr⟩ | ⟨-, hcloud, hr⟩
  · exact ⟨hcloud.trans (hsame _), haddon, hb, _, .inl hr⟩
  · exact ⟨hcloud, haddon, hb, _, .inr hr⟩
  · exact ⟨hcloud.trans (hsame _), haddon, hb, _, .inr hr⟩

theorem visible_eq {w w' : AddonWorld} (hcloud : w'.cloud = w.cloud) (haddon : w'.addon = w.addon) :
    w'.visible = w.visible := by
  rw [AddonWorld.visible, hcloud, haddon]
  rfl

/-- A new count between one and ten is that of the row plus the change. -/
theorem saturatingAdd_ne {count delta : Int} (hdelta : delta ≠ 0)
    (hmin : minWorkerCount ≤ saturatingAdd count delta)
    (hmax : saturatingAdd count delta ≤ maxWorkerCount) : saturatingAdd count delta ≠ count := by
  unfold saturatingAdd minWorkerCount maxWorkerCount at *
  omega

/-- What the environment of a use case of the cluster does. -/
abbrev cloudMarking (clusterId : Uuid) (s : AddonWorld × Bool) (c : CloudCall) (r : c.Answer)
    (s' : AddonWorld × Bool) : Prop :=
  ∃ r', marking clusterId s (.cloud c) r' s' ∧ r' = r

theorem spawn_settles {job : ClusterJob} (hb : s.2 = true) :
    Always (I := cloud) (cloudMarking clusterId) (Settled w) (ignore (call (.spawn job))).run s := by
  obtain ⟨v, b⟩ := s
  rintro r ⟨v', b'⟩ ⟨r, hspawn, rfl⟩
  obtain ⟨-, -, rfl, -⟩ := reading_cases hspawn (fun _ => rfl) fun _ => rfl
  exact settled_ok hb

/-- The count is written, or the request fails without it, or nobody knows. -/
theorem updateWorkerCount_always {newWorkerCount : Int}
    (hne : newWorkerCount ≠ w.cloud.cluster.workerCount) (h : Untouched w s) :
    Always (I := cloud) (cloudMarking clusterId)
      (Post (fun s _ => s.2 = true) fun s _ => Untouched w s ∨ Stuck w s)
      (repository (call (.updateWorkerCount newWorkerCount))).run s := by
  obtain ⟨v, b⟩ := s
  obtain ⟨hsame, rfl : b = true⟩ := h
  rintro r ⟨v', b'⟩ ⟨r, hupdate, rfl⟩
  obtain ⟨x, hb, haddon, ⟨hreply, -, rfl⟩ | ⟨hreply, hcloud, rfl⟩ | ⟨hreply, hcloud, rfl⟩⟩ :=
    cloud_cases hupdate
  · rw [goesThrough, hreply] at hb
    exact hb
  · rw [goesThrough, hreply] at hb
    exact .inl ⟨(visible_eq hcloud haddon).trans hsame, hb⟩
  · rw [goesThrough, hreply] at hb
    refine .inr ⟨fun hvisible => hne ?_, hb⟩
    have hcount : v'.cloud.cluster.workerCount = w.cloud.cluster.workerCount :=
      congrArg Prod.fst hvisible
    rwa [hcloud] at hcount

theorem scaleWorkers_settles (settings : ClusterSettings) (delta : Int) :
    Always (marking clusterId) (Settled w) (onCluster (Clusters.scaleWorkers settings delta)).run
      (w, true) := by
  refine always_embed (p := (Clusters.scaleWorkers settings delta).run) ?_
  unfold Clusters.scaleWorkers
  refine always_bindE (A := fun s cluster => Untouched w s ∧ cluster = w.cloud.cluster)
    (E := fun s _ => Untouched w s) ?_ ?_ fun s e h => h.settled _
  · rintro r ⟨w', b'⟩ ⟨r, hget, rfl⟩
    obtain ⟨hcloud, haddon, rfl, x, hr⟩ := reading_cases hget (fun _ => rfl) fun _ => rfl
    have h : Untouched w (w', true) := ⟨visible_eq hcloud haddon, rfl⟩
    rcases r with e | cluster
    · exact h
    · refine ⟨h, ?_⟩
      rcases hr with hr | hr
      · replace hr : _ = if w.cloud.cluster.deletedAt.isNone then _ else _ := hr
        split at hr
        · exact Except.ok.inj hr
        · cases hr
      · cases hr
  · rintro s cluster ⟨h, rfl⟩
    refine always_iteE (fun _ => h.settled _) fun _ => ?_
    refine always_iteE (fun _ => settled_ok h.2) fun hdelta => ?_
    refine always_iteE (fun _ => h.settled _) fun hrange => ?_
    refine always_bindE (A := fun s _ => Untouched w s) (E := fun s _ => Untouched w s) ?_ ?_
      fun s e h => h.settled _
    · obtain ⟨v, b⟩ := s
      rintro r ⟨v', b'⟩ ⟨r, hcredential, rfl⟩
      obtain ⟨hcloud, haddon, rfl, -⟩ := reading_cases hcredential (fun _ => rfl) fun _ => rfl
      have h' : Untouched w (v', b') := ⟨(visible_eq hcloud haddon).trans h.1, h.2⟩
      rcases r with e | ⟨⟩
      · exact h'
      · exact h'
    · rintro s ⟨⟩ h
      have hne := saturatingAdd_ne hdelta (not_not.mp hrange).1 (not_not.mp hrange).2
      refine always_bindE (updateWorkerCount_always hne h) (fun s _ hb => ?_) fun s e h => ?_
      · exact always_iteE (fun _ => spawn_settles hb) fun _ => spawn_settles hb
      · rcases h with h | h
        · exact h.settled _
        · exact h.settled e

/-! ### The uninstall request -/

theorem touched_call {v v' : AddonWorld} {b b' : Bool} {c : CloudCall} {r : c.Answer}
    (h : Touched w (v, b)) (hcall : marking clusterId (v, b) (.cloud c) r (v', b')) :
    Touched w (v', true) ∧ ∃ x : AddonOutcome, b' = goesThrough v (.cloud c) x ∧
      (x.reply = .ok ∧ r = (v.cloud.execute 0 x.toOutcome c).2 ∨
        (x.reply == .ok) = false ∧ r = Cloud.broken x.toOutcome c) := by
  obtain ⟨x, hb, haddon, hcases⟩ := cloud_cases hcall
  obtain rfl : b = true := h.2
  refine ⟨⟨?_, rfl⟩, x, hb, ?_⟩
  · show v'.addon.map statusOf ≠ _
    rw [haddon]
    exact h.1
  · rcases hcases with ⟨hreply, -, hr⟩ | ⟨hreply, -, hr⟩ | ⟨hreply, -, hr⟩
    · exact .inl ⟨hreply, hr⟩
    · exact .inr ⟨by rw [hreply]; rfl, hr⟩
    · exact .inr ⟨by rw [hreply]; rfl, hr⟩

theorem Touched.stuck {v : AddonWorld} (h : Touched w (v, true)) : Stuck w (v, false) :=
  ⟨fun hvisible => h.1 (congrArg Prod.snd hvisible), rfl⟩

theorem fetchKubeconfig_always {id : Uuid} (h : Touched w s) :
    Always (I := cloud) (cloudMarking clusterId) (Post (fun s _ => Touched w s) fun s _ => Stuck w s)
      (ClusterService.fetchKubeconfig id).run s := by
  unfold ClusterService.fetchKubeconfig
  refine always_bindE (A := fun s secretId => Touched w (s.1, true) ∧ s.2 = secretId.isSome)
    (E := fun s _ => Stuck w s) ?_ ?_ fun _ _ h => h
  · obtain ⟨v, b⟩ := s
    rintro r ⟨v', b'⟩ ⟨r, hcall, rfl⟩
    obtain ⟨h', x, rfl, ⟨hreply, hr⟩ | ⟨hreply, rfl⟩⟩ := touched_call h hcall
    · replace hr : r = if v.cloud.cluster.deletedAt.isNone then .ok v.cloud.cluster.kubeconfigSecretId
        else .error v.cloud.clusterNotFound := hr
      simp only [goesThrough, hreply, beq_self_eq_true, Bool.true_and]
      by_cases hlive : v.cloud.cluster.deletedAt.isNone = true
      · rw [if_pos hlive] at hr
        subst hr
        refine ⟨h', ?_⟩
        rw [hlive, Bool.true_and]
      · rw [if_neg hlive] at hr
        subst hr
        rw [Bool.eq_false_iff.mpr hlive, Bool.false_and]
        exact h'.stuck
    · simp only [goesThrough, hreply, Bool.false_and]
      exact h'.stuck
  · rintro ⟨v, b⟩ (_ | secretId) ⟨h, rfl⟩
    · exact h.stuck
    · rintro r ⟨v', b'⟩ ⟨r, hcall, rfl⟩
      obtain ⟨h', x, rfl, ⟨hreply, hr⟩ | ⟨hreply, rfl⟩⟩ := touched_call h hcall
      · simp only [goesThrough, hreply, beq_self_eq_true, Bool.true_and]
        rw [Cloud.execute] at hr
        cases hfound : v.cloud.secrets.find? (·.1 == secretId) with
        | none =>
          rw [hfound] at hr
          subst hr
          exact h'.stuck
        | some found =>
          rw [hfound] at hr
          subst hr
          exact h'
      · simp only [goesThrough, hreply, Bool.false_and]
        exact h'.stuck

/-- The kubeconfig is staged, or the request is stuck. -/
theorem stageKubeconfig_always {id : Uuid} (h : Touched w s) :
    Always (marking clusterId) (Post (fun s _ => Touched w s) fun s _ => Stuck w s)
      (stageKubeconfig id).run s := by
  unfold stageKubeconfig
  refine always_bindE (A := fun s _ => Touched w s) (E := fun s _ => Stuck w s)
    (always_embed (p := (ClusterService.fetchKubeconfig id).run) (fetchKubeconfig_always h)) ?_
    fun _ _ h => h
  rintro ⟨v, b⟩ kubeconfig h fileId ⟨v₁, b₁⟩ hid
  obtain ⟨h₁, x₁, rfl, -⟩ := touched_call h hid
  rintro r ⟨v₂, b₂⟩ hwrite
  obtain ⟨h₂, x₂, rfl, ⟨hreply, rfl⟩ | ⟨hreply, rfl⟩⟩ := touched_call h₁ hwrite
  · simp only [goesThrough, hreply]
    exact h₂
  · simp only [goesThrough, hreply]
    exact h₂.stuck

/-- The status is written, or the request fails without it, or nobody knows. -/
theorem updateStatus_always {addon : ClusterAddon} (hrow : w.addon = some addon)
    (hready : addon.status = .ready ∨ addon.status = .failed) (h : s = (w, true)) :
    Always (I := addons) (marking clusterId)
      (Post (fun s _ => Touched w (s.1, true) ∧ s.2 = (lookup addon.addon).isOk)
        fun s _ => Untouched w s ∨ Stuck w s)
      (stored (perform (.updateStatus .uninstalling none))).run s := by
  subst h
  have hchanged : (w.updateStatus .uninstalling none).addon.map statusOf ≠ w.addon.map statusOf := by
    intro hsame
    have hstatus : statusOf { addon with status := .uninstalling, statusReason := none } =
        statusOf addon := by
      simpa only [AddonWorld.updateStatus, hrow, Option.map_some, Option.some.injEq] using hsame
    have huninstalling : AddonStatus.uninstalling = addon.status := congrArg Prod.fst hstatus
    rw [← huninstalling] at hready
    rcases hready with hready | hready <;> cases hready
  rintro r ⟨w', b'⟩ hupdate
  obtain ⟨x, rfl, ⟨hreply, rfl, rfl⟩ | ⟨hreply, rfl, rfl⟩ | ⟨hreply, rfl, rfl⟩⟩ :=
    updateStatus_cases hupdate
  · refine ⟨⟨hchanged, rfl⟩, ?_⟩
    simp only [goesThrough, hreply, hrow]
    rfl
  · simp only [goesThrough, hreply]
    exact .inl ⟨rfl, rfl⟩
  · simp only [goesThrough, hreply]
    exact .inr ⟨fun hvisible => hchanged (congrArg Prod.snd hvisible), rfl⟩

theorem uninstallAddon_settles (cluster addonId : Uuid) :
    Always (marking clusterId) (Settled w) (uninstallAddon cluster addonId).run (w, true) := by
  unfold uninstallAddon
  refine always_bindE (A := fun s found => s = (w, true) ∧ found = w.addon)
    (E := fun s _ => Untouched w s) ?_ ?_ fun s e h => h.settled _
  · rintro r ⟨w', b'⟩ hfound
    obtain ⟨rfl, rfl, hrow⟩ := getById_cases hfound
    rcases r with e | found
    · exact ⟨rfl, rfl⟩
    · exact ⟨rfl, hrow found rfl⟩
  · rintro s found ⟨rfl, hrow⟩
    have h : Untouched w (w, true) := ⟨rfl, rfl⟩
    rcases found with _ | addon
    · exact h.settled _
    refine always_iteE (fun _ => h.settled _) fun _ => ?_
    refine always_iteE (fun _ => h.settled _) fun hready => ?_
    refine always_bindE (updateStatus_always hrow.symm (not_not.mp hready) rfl) ?_ ?_
    · rintro ⟨v, b⟩ ⟨⟩ ⟨h, rfl⟩
      cases hlookup : lookup addon.addon with
      | error e => exact h.stuck.settled _
      | ok spec =>
        refine always_bindE (stageKubeconfig_always h) (fun s kubeconfigPath h => ?_)
          fun s e h => h.settled e
        rintro r s' ⟨x, -, -, hb⟩
        exact settled_ok (hb.trans ((Bool.and_true _).trans h.2))
    · rintro s e (h | h)
      · exact h.settled _
      · exact h.settled e

end Requests

/-- A scale or uninstall request that fails leaves the count of the workers and the status of the
add-on with its reason as they were, exactly if its write is not lost and nothing fails after it. -/
theorem failed_requests_change_nothing_iff (clusterId : Uuid) (request : OwnerRequest)
    (w w' : AddonWorld) (xs : Nat → AddonOutcome) (r : Except RunError Unit)
    (h : request.program.replay (AddonWorld.reply clusterId) xs 0 w = some (w', r)) :
    (∀ e, r = .error e → w'.cloud.cluster.workerCount = w.cloud.cluster.workerCount ∧
      w'.addon.map statusOf = w.addon.map statusOf) ↔
      request.program.replayAll (AddonWorld.reply clusterId) xs goesThrough 0 w = true := by
  have hsettles : Always (marking clusterId) (Settled w) request.program (w, true) := by
    cases request with
    | scaleWorkers settings delta => exact scaleWorkers_settles settings delta
    | uninstallAddon cluster addonId => exact uninstallAddon_settles cluster addonId
  have hend := hsettles.replayAll (fun _ => trivial) h
  rw [Bool.true_and, Settled] at hend
  rw [← hend]
  exact forall_congr' fun e => imp_congr_right fun _ => Prod.mk_inj.symm

/-- The ingress controller of `clusterWithKubeconfig`. -/
def readyIngress : AddonWorld where
  cloud := clusterWithKubeconfig
  addon := some ⟨9, 7, "ingress-nginx", "4.10.0", "ingress-nginx", .ready, none⟩

/-- The write of the status fails. -/
theorem failed_requests_change_nothing_iff_writeFails :
    ∃ w' r, (OwnerRequest.uninstallAddon 7 9).program.replay (AddonWorld.reply 7)
        (fun n => if n = 1 then { reply := .failed } else {}) 0 readyIngress = some (w', r) ∧
      ∀ e, r = .error e →
        w'.cloud.cluster.workerCount = readyIngress.cloud.cluster.workerCount ∧
          w'.addon.map statusOf = readyIngress.addon.map statusOf := by
  have hrun : ((OwnerRequest.uninstallAddon 7 9).program.replay (AddonWorld.reply 7)
      (fun n => if n = 1 then { reply := .failed } else {}) 0 readyIngress).isSome = true := by
    decide +kernel
  obtain ⟨⟨w', r⟩, hr⟩ := Option.isSome_iff_exists.mp hrun
  exact ⟨w', r, hr, (failed_requests_change_nothing_iff 7 _ _ w' _ r hr).mpr (by decide +kernel)⟩

/-- The secret store does not give the kubeconfig out: the add-on stays `uninstalling`. -/
theorem not_failed_requests_change_nothing :
    ¬ ∀ (clusterId : Uuid) (request : OwnerRequest) (w w' : AddonWorld) (xs : Nat → AddonOutcome)
      (r : Except RunError Unit),
      request.program.replay (AddonWorld.reply clusterId) xs 0 w = some (w', r) →
      ∀ e, r = .error e → w'.cloud.cluster.workerCount = w.cloud.cluster.workerCount ∧
        w'.addon.map statusOf = w.addon.map statusOf := by
  intro hall
  have hrun : ((OwnerRequest.uninstallAddon 7 9).program.replay (AddonWorld.reply 7)
      (fun n => if n = 3 then { reply := .failed } else {}) 0 readyIngress).any (fun p =>
        decide (p.2 = .error (.platform (.database .connection))) &&
          decide (p.1.addon.map statusOf = some (.uninstalling, none))) = true := by decide +kernel
  obtain ⟨⟨w', r⟩, hr, hbad⟩ := (Option.any_eq_true _ _).mp hrun
  rw [Bool.and_eq_true, decide_eq_true_eq, decide_eq_true_eq] at hbad
  have hsame := (hall 7 _ _ w' _ r hr _ hbad.1).2
  rw [hbad.2] at hsame
  cases hsame

end Kubinate.Addons
