import Kubinate.Addons.Runner

/-!
# One Helm operation at a time

An install and an uninstall of one add-on must not overlap, and the status that is stored in the
end must be that of the last Helm operation. The uninstall handler turns away every add-on that
is not `ready` or `failed`; the install handler asks for nothing but a `ready` cluster.

* `Serialised`: what is asked of a state.
* `Ledger`: what matters about the calls of one program; `program_inside` is the specification of
  every program in terms of it.
* `serially`: a run is spawned only when no other run is under way, and an uninstall request that
  has written `uninstalling` goes on to spawn its run.
* `addon_operations_serialised`: then every state is serialised.
-/

namespace Kubinate.Addons

open Platform Library Clusters

/-! ## What is asked of a state -/

/-- The last add-on run that was spawned is in slot `k`. -/
structure LastRun (s : AddonState) (k : Nat) (j : AddonJob) (τ : Trace addons) : Prop where
  slot : s.slot k = some (j, τ)
  run : j.isRun = true
  last : ∀ i j' τ', k < i → s.slot i = some (j', τ') → j'.isRun = false

/-- The status that the last call of the program has written, if it was told so. -/
def lastWrite (τ : Trace addons) : Option AddonStatus :=
  match τ.getLast? with
  | some ⟨.updateStatus status _, .ok ()⟩ => some status
  | _ => none

/-- An uninstall request that has written `uninstalling` is accepted. -/
def accepted (τ : Trace addons) : Bool :=
  τ.any fun e =>
    match e with
    | ⟨.updateStatus .uninstalling _, .ok ()⟩ => true
    | _ => false

/-- Nothing is under way: every run has ended, and every request that was accepted. -/
def idle (s : AddonState) : Bool :=
  s.threads.all fun t => !(t.job.isRun || accepted t.trace) || t.isDone

structure Serialised (s : AddonState) : Prop where
  exclusive : ∀ p ∈ s.world.inFlight, ∀ q ∈ s.world.inFlight, p.2.isInstall = q.2.isInstall
  status : ∀ k j τ, idle s = true → LastRun s k j τ → (lastWrite τ).isSome = true →
    ∃ op ok, s.world.finished.getLast? = some (op, ok) ∧
      s.world.addon.map (·.status) = some (op.produces ok)

/-! ## What a program has done -/

/-- An accepted uninstall owes its run, until it is spawned or cannot be spawned any more. -/
inductive Debt where
  | none
  | owed
  | defaulted
deriving DecidableEq

structure Ledger where
  inHelm : Option HelmOp := .none
  result : Option (HelmOp × Bool) := .none
  /-- the last status written, if that write was answered -/
  written : Option AddonStatus := .none
  /-- the program was shown the row -/
  known : Bool := false
  /-- the add-on of the row is in the catalog -/
  listed : Bool := false
  debt : Debt := .none

/-- The answers after which a kubeconfig cannot be staged. -/
def refuses : (c : CloudCall) → c.Answer → Bool
  | .kubeconfigSecret, .ok (some _) => false
  | .kubeconfigSecret, _ => true
  | .getSecret _, .error _ => true
  | .writeFile .., .error _ => true
  | _, _ => false

def Ledger.next (l : Ledger) : (c : AddonCall) → c.Answer → Ledger
  | .cloud c, r => if l.debt = .owed ∧ refuses c r = true then { l with debt := .defaulted } else l
  | .upsert .., .ok _ => { l with known := true }
  | .upsert .., .error _ => l
  | .getById, .ok (some row) => { l with known := true, listed := (lookup row.addon).isOk }
  | .getById, .ok .none | .getById, .error _ => l
  | .updateStatus status _, .ok () =>
    { l with
      written := some status
      debt := if status ≠ .uninstalling then l.debt
        else if l.listed then .owed else .defaulted }
  | .updateStatus .., .error _ => { l with written := .none }
  | .helmStart op _, _ => { l with inHelm := some op }
  | .helmWait op, r => { l with inHelm := .none, result := some (op, r.isOk) }
  | .spawn _, _ => { l with debt := .none }

def ledger (τ : Trace addons) : Ledger := τ.foldl (fun l e => l.next e.1 e.2) {}

theorem ledger_concat (τ : Trace addons) (c : AddonCall) (r : c.Answer) :
    ledger (τ ++ [⟨c, r⟩]) = (ledger τ).next c r := by
  rw [ledger, List.foldl_append]
  rfl

/-! ## Every program is inside its specification -/

/-- Helm operations belong to runs, and each is waited for before the next. Runs are spawned by
requests that were shown the row; only requests write `uninstalling`, and nothing else. -/
def AddonJob.Inside (j : AddonJob) (l : Ledger) : AddonCall → Prop
  | .helmStart _ _ => j.isRun = true ∧ l.inHelm = none
  | .helmWait _ => j.isRun = true
  | .updateStatus status _ => j.isRun = true ↔ status ≠ .uninstalling
  | .spawn j' => j.isRun = false ∧ j'.isRun = true ∧ l.known = true
  | .cloud _ | .upsert .. | .getById => True

/-- A run that has ended with a status has written the outcome of its operation. -/
structure AddonJob.Ends (j : AddonJob) (l : Ledger) : Prop where
  inHelm : l.inHelm = none
  debt : l.debt ≠ .owed
  written : j.isRun = true → ∀ status, l.written = some status →
    ∃ op ok, l.result = some (op, ok) ∧ status = op.produces ok

section Programs

variable {P : Ledger → AddonCall → Prop} {l : Ledger}

theorem next_cloud (l : Ledger) (c : CloudCall) (r : c.Answer) :
    l.next (.cloud c) r = l ∨ l.debt = .owed ∧ refuses c r = true ∧
      l.next (.cloud c) r = { l with debt := .defaulted } := by
  by_cases h : l.debt = .owed ∧ refuses c r = true
  · exact .inr ⟨h.1, h.2, if_pos h⟩
  · exact .inl (if_neg h)

theorem next_cloud_of_not_refuses {c : CloudCall} {r : c.Answer} (h : refuses c r = false) :
    l.next (.cloud c) r = l := by
  refine if_neg fun hboth => ?_
  rw [h] at hboth
  cases hboth.2

/-- A call that is refused leaves no debt that could still be paid. -/
theorem next_cloud_of_refuses {c : CloudCall} {r : c.Answer} (h : refuses c r = true) :
    (l.next (.cloud c) r).inHelm = l.inHelm ∧ (l.next (.cloud c) r).debt ≠ .owed := by
  rcases next_cloud l c r with heq | ⟨-, -, heq⟩
  · refine ⟨congrArg (·.inHelm) heq, fun howed => ?_⟩
    rw [heq] at howed
    have hdefaulted : l.next (.cloud c) r = { l with debt := .defaulted } := if_pos ⟨howed, h⟩
    rw [heq] at hdefaulted
    rw [hdefaulted] at howed
    cases howed
  · rw [heq]
    exact ⟨rfl, nofun⟩

/-- A call to the cluster that is never refused. -/
theorem follows_cloud {c : CloudCall} (hP : ∀ l c, P l (.cloud c)) (h : ∀ r, refuses c r = false) :
    Follows Ledger.next P (fun l' _ => l' = l) (perform (.cloud c)) l :=
  ⟨hP l c, fun r => next_cloud_of_not_refuses (h r)⟩

/-- The kubeconfig is staged, or the debt of the request cannot be paid any more. -/
theorem stageKubeconfig_follows (hP : ∀ l c, P l (.cloud c)) (clusterId : Uuid) :
    Follows Ledger.next P (Post (fun l' _ => l' = l)
      fun l' _ => l'.inHelm = l.inHelm ∧ l'.debt ≠ .owed) (stageKubeconfig clusterId).run l := by
  refine follows_bindE (A := fun l' _ => l' = l) ?_ (fun l' kubeconfig hl => ?_)
    fun _ _ h => h
  · refine ⟨hP _ _, fun r => ?_⟩
    rcases r with e | _ | secretId
    · exact next_cloud_of_refuses (c := .kubeconfigSecret) rfl
    · exact next_cloud_of_refuses (c := .kubeconfigSecret) rfl
    · refine ⟨hP _ _, fun r => ?_⟩
      rw [next_cloud_of_not_refuses (c := .kubeconfigSecret) rfl]
      rcases r with e | kubeconfig
      · exact next_cloud_of_refuses (c := .getSecret secretId) rfl
      · exact next_cloud_of_not_refuses (c := .getSecret secretId) rfl
  · obtain rfl := hl
    refine follows_bindE (A := fun l'' _ => l'' = l') ?_ (fun l'' fileId hl => ?_) fun _ _ h => h
    · exact ⟨hP _ _, fun r => next_cloud_of_not_refuses (c := .newId) rfl⟩
    · obtain rfl := hl
      refine ⟨hP _ _, fun r => ?_⟩
      rcases r with e | ⟨⟩
      · exact next_cloud_of_refuses (c := .writeFile _ _) rfl
      · exact next_cloud_of_not_refuses (c := .writeFile _ _) rfl

/-- The end of a run whose Helm operation has ended. -/
theorem recordOutcome_follows {j : AddonJob} {op : HelmOp} {result : Except HelmError Unit}
    {success : AddonStatus} {failure : String} {reasonOf : HelmError → String}
    (hj : j.isRun = true) (hsuccess : success = op.produces true)
    (hP : success ≠ .uninstalling) (hhelm : l.inHelm = none) (hdebt : l.debt = .none)
    (hresult : l.result = some (op, result.isOk)) :
    Follows Ledger.next j.Inside (fun l _ => j.Ends l)
      (recordOutcome success failure reasonOf result).run l := by
  have hlast {status : AddonStatus} {reason : Option String} (hne : status ≠ .uninstalling)
      (hstatus : status = op.produces result.isOk) (r : Except PlatformError Unit) :
      j.Ends (l.next (.updateStatus status reason) r) := by
    rcases r with e | ⟨⟩
    · refine ⟨hhelm, fun howed => ?_, nofun⟩
      cases hdebt.symm.trans howed
    · refine ⟨hhelm, fun howed => ?_, fun _ status' hwritten => ?_⟩
      · rw [Ledger.next, if_pos hne, hdebt] at howed
        cases howed
      · obtain rfl := Option.some.inj hwritten
        exact ⟨op, result.isOk, hresult, hstatus⟩
  rcases result with err | ⟨⟩
  · have hfailed : AddonStatus.failed = op.produces false := by cases op <;> rfl
    have hne : AddonStatus.failed ≠ .uninstalling := by decide
    exact ⟨iff_of_true hj hne, hlast hne hfailed⟩
  · refine ⟨iff_of_true hj hP, fun r => ?_⟩
    rcases r with e | ⟨⟩
    · exact hlast hP hsuccess (.error e)
    · exact hlast hP hsuccess (.ok ())

theorem helm_follows {j : AddonJob} {op : HelmOp} {kubeconfigPath : String} (hj : j.isRun = true)
    (hhelm : l.inHelm = none) :
    Follows Ledger.next j.Inside
      (fun l' r => l' = { l with inHelm := none, result := some (op, r.isOk) })
      (helm op kubeconfigPath) l :=
  ⟨⟨hj, hhelm⟩, fun _ => ⟨hj, fun _ => rfl⟩⟩

theorem inside_cloud {j : AddonJob} (l : Ledger) (c : CloudCall) : j.Inside l (.cloud c) := trivial

theorem runInstallAddon_follows (params : InstallParams) (kubeconfigPath : String) :
    Follows Ledger.next (AddonJob.runInstall params kubeconfigPath).Inside
      (fun l _ => (AddonJob.runInstall params kubeconfigPath).Ends l)
      (runInstallAddon params kubeconfigPath).run {} := by
  refine follows_bindE (A := fun l _ => l = { written := some .installing })
    (E := fun l _ => l = {}) ?_ (fun l _ hl => ?_) ?_
  · refine ⟨iff_of_true rfl nofun, fun r => ?_⟩
    rcases r with e | ⟨⟩ <;> rfl
  · obtain rfl := hl
    refine follows_bindE (follows_lift (E := fun _ _ => False) (helm_follows rfl rfl))
      (fun l result hl => ?_) fun _ _ h => h.elim
    refine follows_bindE (E := fun _ _ => False)
      (follows_lift (follows_cloud inside_cloud fun _ => rfl)) (fun l' _ hl' => ?_)
      fun _ _ h => h.elim
    obtain rfl := hl'
    obtain rfl := hl
    exact @recordOutcome_follows _ _ (.install params) _ _ _ _ rfl rfl nofun rfl rfl rfl
  · rintro l e rfl
    exact ⟨rfl, nofun, nofun⟩

theorem runUninstallAddon_follows (helmRelease nameSpace kubeconfigPath : String) :
    Follows Ledger.next (AddonJob.runUninstall helmRelease nameSpace kubeconfigPath).Inside
      (fun l _ => (AddonJob.runUninstall helmRelease nameSpace kubeconfigPath).Ends l)
      (runUninstallAddon helmRelease nameSpace kubeconfigPath).run {} := by
  refine follows_bindE (follows_lift (E := fun _ _ => False) (helm_follows rfl rfl))
    (fun l result hl => ?_) fun _ _ h => h.elim
  refine follows_bindE (E := fun _ _ => False)
    (follows_lift (follows_cloud inside_cloud fun _ => rfl)) (fun l' _ hl' => ?_)
    fun _ _ h => h.elim
  obtain rfl := hl'
  obtain rfl := hl
  exact @recordOutcome_follows _ _ (.uninstall helmRelease nameSpace) _ _ _ _ rfl rfl nofun rfl rfl rfl

theorem installAddon_follows (site : Site) (version : String) :
    Follows Ledger.next (AddonJob.install version).Inside
      (fun l _ => (AddonJob.install version).Ends l)
      (installAddon site.clusterId ⟨site.slug, version⟩).run {} := by
  have hend {l : Ledger} (hhelm : l.inHelm = none) (hdebt : l.debt ≠ .owed) :
      (AddonJob.install version).Ends l := ⟨hhelm, hdebt, nofun⟩
  refine ⟨trivial, fun r => ?_⟩
  rw [next_cloud_of_not_refuses (c := .get) rfl]
  rcases r with e | cluster
  · exact hend rfl nofun
  refine follows_iteE (fun _ => hend rfl nofun) fun _ => ?_
  refine follows_bindE (A := fun l _ => l = { known := true }) (E := fun l _ => l = {}) ?_
    (fun l row hl => ?_) ?_
  · refine follows_iteE (fun _ => rfl) fun _ => ?_
    dsimp only
    split
    · rfl
    · refine ⟨trivial, fun r => ?_⟩
      rcases r with e | row <;> rfl
  · obtain rfl := hl
    refine follows_bindE (stageKubeconfig_follows inside_cloud site.clusterId)
      (fun l kubeconfigPath hl => ?_) fun l _ h => hend h.1 h.2
    obtain rfl := hl
    split
    · exact hend rfl nofun
    · exact ⟨⟨rfl, rfl, rfl⟩, fun _ => hend rfl nofun⟩
  · rintro l e rfl
    exact hend rfl nofun

theorem uninstallAddon_follows (site : Site) (clusterId : Uuid) :
    Follows Ledger.next (AddonJob.uninstall clusterId).Inside
      (fun l _ => (AddonJob.uninstall clusterId).Ends l)
      (uninstallAddon clusterId site.addonId).run {} := by
  have hend {l : Ledger} (hhelm : l.inHelm = none) (hdebt : l.debt ≠ .owed) :
      (AddonJob.uninstall clusterId).Ends l := ⟨hhelm, hdebt, nofun⟩
  refine ⟨trivial, fun r => ?_⟩
  rcases r with e | _ | addon
  · exact hend rfl nofun
  · exact hend rfl nofun
  refine follows_iteE (fun _ => hend rfl nofun) fun _ => ?_
  refine follows_iteE (fun _ => hend rfl nofun) fun _ => ?_
  refine ⟨iff_of_false nofun fun h => h rfl, fun r => ?_⟩
  rcases r with e | ⟨⟩
  · exact hend rfl nofun
  -- from here on the request is accepted: it must not end while it owes its run
  cases hlookup : lookup addon.addon with
  | error e =>
    exact hend rfl (by simp [Ledger.next, hlookup, Except.isOk, Except.toBool])
  | ok spec =>
    refine follows_bindE (stageKubeconfig_follows inside_cloud clusterId)
      (fun l kubeconfigPath hl => ?_) fun l _ h => hend h.1 h.2
    obtain rfl := hl
    exact ⟨⟨rfl, rfl, rfl⟩, fun _ => hend rfl nofun⟩

theorem program_follows (site : Site) (j : AddonJob) :
    Follows Ledger.next j.Inside (fun l _ => j.Ends l) (j.program site) {} := by
  cases j with
  | cluster j =>
    have hcloud : Makes (I := addons) (fun c => ∃ c', c = AddonCall.cloud c')
        (AddonJob.program site (.cluster j)) := makes_embed (fun c _ => ⟨c, rfl⟩) (makes_true _)
    refine (follows_of_makes (· = {}) hcloud ?_ rfl).mono ?_
    · rintro c l ⟨c, rfl⟩ rfl
      refine ⟨trivial, fun r => ?_⟩
      rcases next_cloud {} c r with heq | ⟨hdebt, -⟩
      · exact heq
      · cases hdebt
    · rintro l - rfl
      exact ⟨rfl, nofun, nofun⟩
  | install version => exact follows_bind (installAddon_follows site version) fun _ _ h => h
  | uninstall clusterId => exact follows_bind (uninstallAddon_follows site clusterId) fun _ _ h => h
  | runInstall params path => exact follows_bind (runInstallAddon_follows params path) fun _ _ h => h
  | runUninstall helmRelease nameSpace path =>
    exact follows_bind (runUninstallAddon_follows helmRelease nameSpace path) fun _ _ h => h

theorem program_inside (site : Site) (j : AddonJob) :
    Meets (fun τ c => j.Inside (ledger τ) c) (fun _ _ _ => True) (fun τ _ => j.Ends (ledger τ))
      (j.program site) [] :=
  meets_of_follows (P := j.Inside) (Q := fun l _ => j.Ends l) ledger_concat (program_follows site j)

end Programs

/-! ## The condition -/

/-- No add-on run is under way. -/
def runsOver (s : AddonState) : Bool := s.threads.all fun t => !t.job.isRun || t.isDone

/-- A run is spawned only when all others are over. -/
def alone (s : AddonState) : Act AddonJob AddonOutcome → Bool
  | .start _ => true
  | .step i _ =>
    match s.nextCall i with
    | some (.spawn _) => runsOver s
    | _ => true

/-- The reply to the write of an uninstall request is not lost. -/
def replied (s : AddonState) : Act AddonJob AddonOutcome → Bool
  | .start _ => true
  | .step i x =>
    match s.nextCall i with
    | some (.updateStatus .uninstalling _) => x.reply != .lost
    | _ => true

/-- An uninstall request that was accepted is not kept from spawning its run: its add-on is in the
catalog, and the kubeconfig is found and staged. -/
def carriedOut (site : Site) (s : AddonState) : Act AddonJob AddonOutcome → Bool
  | .start _ => true
  | .step i x =>
    match s.slot i, s.nextCall i with
    | some (_, τ), some c =>
      match s.world.answer site.clusterId i x c with
      | some (_, r, _) => (ledger (τ ++ [⟨c, r⟩])).debt != .defaulted
      | none => true
    | _, _ => true

def serially (site : Site) (s : AddonState) (a : Act AddonJob AddonOutcome) : Bool :=
  alone s a && replied s a && carriedOut site s a

/-! ## One step -/

/-- One run after the other, and the row tells what the last one has told. -/
structure Serial (s : AddonState) : Prop where
  turns : ∀ i k j j' τ τ', i < k → s.slot i = some (j, τ) → s.slot k = some (j', τ') →
    j.isRun = true → j'.isRun = true → (s.result i).isSome = true
  inFlight : ∀ p ∈ s.world.inFlight, ∃ j τ, s.slot p.1 = some (j, τ) ∧ j.isRun = true ∧
    (ledger τ).inHelm = some p.2
  finished : ∀ k j τ p, LastRun s k j τ → (ledger τ).result = some p →
    s.world.finished.getLast? = some p
  status : ∀ k j τ status, LastRun s k j τ → (ledger τ).written = some status →
    s.world.addon.map (·.status) = some status ∨
      ∃ i j' τ', s.slot i = some (j', τ') ∧ (ledger τ').debt = .owed
  row : ∀ i j τ, s.slot i = some (j, τ) → j.isRun = true ∨ (ledger τ).known = true →
    s.world.addon.isSome = true

section Step

variable {site : Site} {external : AddonJob → Bool} {s s' : AddonState} {i : Nat}
  {x : AddonOutcome} {j : AddonJob} {τ : Trace addons} {c : AddonCall} {r : c.Answer}
  {js : List AddonJob}

/-- The last run, where the step has started none. -/
theorem LastRun.before (hcalls : (addonPool site external).Calls s i x j τ c r s')
    (hjobs : s'.jobs = s.jobs ++ js) (hjs : ∀ j ∈ js, j.isRun = false) {k : Nat} {j' : AddonJob}
    {τ' : Trace addons} (h : LastRun s' k j' τ') :
    k = i ∧ j' = j ∧ τ' = τ ++ [⟨c, r⟩] ∧ LastRun s i j τ ∨ k ≠ i ∧ LastRun s k j' τ' := by
  have hlast (n : Nat) (j₁ : AddonJob) (τ₁ : Trace addons) (hn : k < n)
      (hslot : s.slot n = some (j₁, τ₁)) : j₁.isRun = false := by
    obtain ⟨τ₂, hslot', -⟩ := Pool.slot_step hcalls.step hslot
    exact h.last n j₁ τ₂ hn hslot'
  rcases hcalls.places hjobs h.slot with ⟨rfl, rfl, rfl⟩ | ⟨hk, hold⟩ | ⟨-, hnew, -⟩
  · exact .inl ⟨rfl, rfl, rfl, hcalls.slot, h.run, hlast⟩
  · exact .inr ⟨hk, hold, h.run, hlast⟩
  · have hrun := h.run
    rw [hjs _ (List.mem_of_getElem? hnew)] at hrun
    cases hrun

/-- The run that makes a call is the last one. -/
theorem Serial.lastRun_of_calls (h : Serial s)
    (hcalls : (addonPool site external).Calls s i x j τ c r s') (hj : j.isRun = true) :
    LastRun s i j τ := by
  refine ⟨hcalls.slot, hj, fun k j' τ' hk hslot => ?_⟩
  by_contra hrun
  have hover := h.turns i k j j' τ τ' hk hcalls.slot hslot hj (Bool.eq_true_of_not_eq_false hrun)
  rw [hcalls.result_self] at hover
  cases hover

/-- Only the last run makes calls. -/
theorem LastRun.not_run (h : LastRun s i j τ) (hs : Serial s) {k : Nat} {j' : AddonJob}
    {τ' : Trace addons} (hcalls : (addonPool site external).Calls s k x j' τ' c r s')
    (hne : i ≠ k) : j'.isRun = false := by
  by_contra hrun
  have hlast := hs.lastRun_of_calls hcalls (Bool.eq_true_of_not_eq_false hrun)
  rcases Nat.lt_or_gt_of_ne hne with hlt | hgt
  · exact hrun (h.last k j' τ' hlt hlast.slot)
  · have hearlier := h.run
    rw [hlast.last i j τ hgt h.slot] at hearlier
    cases hearlier

/-- What one call keeps, if it starts no run: `l` is the ledger of the caller after it. -/
structure Keeps (s s' : AddonState) (i : Nat) (j : AddonJob) (τ : Trace addons) (l : Ledger) :
    Prop where
  inFlight : ∀ p ∈ s'.world.inFlight, p.1 ≠ i ∧ p ∈ s.world.inFlight ∨
    p.1 = i ∧ j.isRun = true ∧ l.inHelm = some p.2
  finished : j.isRun = false → s'.world.finished = s.world.finished
  result : j.isRun = true → ∀ p, l.result = some p → s'.world.finished.getLast? = some p
  written : j.isRun = true → ∀ status, l.written = some status →
    s'.world.addon.map (·.status) = some status ∨
      ∃ i j' τ', s.slot i = some (j', τ') ∧ (ledger τ').debt = .owed
  status : j.isRun = false → s.world.addon.isSome = true →
    s'.world.addon.map (·.status) = s.world.addon.map (·.status) ∨ l.debt = .owed
  owed : (ledger τ).debt = .owed → l.debt = .owed
  row : s.world.addon.isSome = true → s'.world.addon.isSome = true
  known : l.known = true → s'.world.addon.isSome = true

/-- A step that starts no run. -/
theorem Serial.of_keeps (h : Serial s) (hcalls : (addonPool site external).Calls s i x j τ c r s')
    (hjobs : s'.jobs = s.jobs ++ js) (hjs : ∀ j ∈ js, j.isRun = false)
    (hkeeps : Keeps s s' i j τ (ledger (τ ++ [⟨c, r⟩]))) : Serial s' := by
  have howing (howed : ∃ n j' τ', s.slot n = some (j', τ') ∧ (ledger τ').debt = .owed) :
      ∃ n j' τ', s'.slot n = some (j', τ') ∧ (ledger τ').debt = .owed := by
    obtain ⟨n, j', τ', hslot, hdebt⟩ := howed
    by_cases hn : n = i
    · subst hn
      obtain ⟨rfl, rfl⟩ := Prod.mk.inj (Option.some.inj (hslot.symm.trans hcalls.slot))
      exact ⟨n, _, _, hcalls.slot_self, hkeeps.owed hdebt⟩
    · exact ⟨n, j', τ', hcalls.slot_other hn hslot, hdebt⟩
  constructor
  · intro n k j₁ j₂ τ₁ τ₂ hnk hn hk hrun₁ hrun₂
    have hbefore {m : Nat} {j' : AddonJob} {τ' : Trace addons} (hm : s'.slot m = some (j', τ'))
        (hrun : j'.isRun = true) : ∃ τ₀, s.slot m = some (j', τ₀) := by
      rcases hcalls.places hjobs hm with ⟨rfl, rfl, -⟩ | ⟨-, hold⟩ | ⟨-, hnew, -⟩
      · exact ⟨τ, hcalls.slot⟩
      · exact ⟨_, hold⟩
      · rw [hjs _ (List.mem_of_getElem? hnew)] at hrun
        cases hrun
    obtain ⟨τ₃, hn⟩ := hbefore hn hrun₁
    obtain ⟨τ₄, hk⟩ := hbefore hk hrun₂
    exact Pool.step_result hcalls.step (h.turns n k _ _ _ _ hnk hn hk hrun₁ hrun₂)
  · intro p hp
    rcases hkeeps.inFlight p hp with ⟨hpi, hold⟩ | ⟨hpi, hj, hhelm⟩
    · obtain ⟨j', τ', hslot, hrun, hhelm⟩ := h.inFlight p hold
      exact ⟨j', τ', hcalls.slot_other hpi hslot, hrun, hhelm⟩
    · exact ⟨j, _, hpi ▸ hcalls.slot_self, hj, hhelm⟩
  · intro k j' τ' p hlast hresult
    rcases hlast.before hcalls hjobs hjs with ⟨rfl, rfl, rfl, hold⟩ | ⟨hk, hold⟩
    · exact hkeeps.result hold.run p hresult
    · rw [hkeeps.finished (hold.not_run h hcalls hk)]
      exact h.finished k j' τ' p hold hresult
  · intro k j' τ' status hlast hwritten
    rcases hlast.before hcalls hjobs hjs with ⟨rfl, rfl, rfl, hold⟩ | ⟨hk, hold⟩
    · exact (hkeeps.written hold.run status hwritten).imp_right howing
    · have hrow := h.row k j' τ' hold.slot (.inl hold.run)
      rcases hkeeps.status (hold.not_run h hcalls hk) hrow with hsame | howed
      · rw [hsame]
        exact (h.status k j' τ' status hold hwritten).imp_right howing
      · exact .inr ⟨i, j, _, hcalls.slot_self, howed⟩
  · intro k j' τ' hslot hknown
    rcases hcalls.places hjobs hslot with ⟨rfl, rfl, rfl⟩ | ⟨-, hold⟩ | ⟨-, hnew, rfl⟩
    · rcases hknown with hrun | hknown
      · exact hkeeps.row (h.row k _ τ hcalls.slot (.inl hrun))
      · exact hkeeps.known hknown
    · exact hkeeps.row (h.row k j' τ' hold hknown)
    · rcases hknown with hrun | hknown
      · rw [hjs _ (List.mem_of_getElem? hnew)] at hrun
        cases hrun
      · cases hknown

/-- A call that neither starts Helm nor waits for it. -/
theorem Serial.keeps_of_same (h : Serial s)
    (hcalls : (addonPool site external).Calls s i x j τ c r s') {l : Ledger}
    (hinFlight : s'.world.inFlight = s.world.inFlight)
    (hfinished : s'.world.finished = s.world.finished) (hhelm : l.inHelm = (ledger τ).inHelm)
    (hresult : l.result = (ledger τ).result)
    (hwritten : j.isRun = true → ∀ status, l.written = some status →
      s'.world.addon.map (·.status) = some status ∨
        ∃ i j' τ', s.slot i = some (j', τ') ∧ (ledger τ').debt = .owed)
    (hstatus : j.isRun = false → s.world.addon.isSome = true →
      s'.world.addon.map (·.status) = s.world.addon.map (·.status) ∨ l.debt = .owed)
    (howed : (ledger τ).debt = .owed → l.debt = .owed)
    (hrow : s.world.addon.isSome = true → s'.world.addon.isSome = true)
    (hknown : l.known = true → s'.world.addon.isSome = true) : Keeps s s' i j τ l where
  inFlight := by
    intro p hp
    rw [hinFlight] at hp
    by_cases hpi : p.1 = i
    · obtain ⟨j', τ', hslot, hrun, hold⟩ := h.inFlight p hp
      rw [hpi] at hslot
      obtain ⟨rfl, rfl⟩ := Prod.mk.inj (Option.some.inj (hslot.symm.trans hcalls.slot))
      exact .inr ⟨hpi, hrun, hhelm.trans hold⟩
    · exact .inl ⟨hpi, hp⟩
  finished := fun _ => hfinished
  result := by
    intro hj p hp
    rw [hfinished]
    exact h.finished i j τ p (h.lastRun_of_calls hcalls hj) (hresult ▸ hp)
  written := hwritten
  status := hstatus
  owed := howed
  row := hrow
  known := hknown

/-- A call that writes no status either. -/
theorem Serial.keeps_of_reading (h : Serial s)
    (hcalls : (addonPool site external).Calls s i x j τ c r s') {l : Ledger}
    (hinFlight : s'.world.inFlight = s.world.inFlight)
    (hfinished : s'.world.finished = s.world.finished)
    (haddon : s.world.addon.isSome = true → s'.world.addon = s.world.addon)
    (hhelm : l.inHelm = (ledger τ).inHelm) (hresult : l.result = (ledger τ).result)
    (hwritten : l.written = (ledger τ).written)
    (howed : (ledger τ).debt = .owed → l.debt = .owed)
    (hknown : l.known = true → s'.world.addon.isSome = true) : Keeps s s' i j τ l := by
  refine h.keeps_of_same hcalls hinFlight hfinished hhelm hresult ?_ ?_ howed ?_ hknown
  · intro hj status hstatus
    rw [haddon (h.row i j τ hcalls.slot (.inl hj))]
    exact h.status i j τ status (h.lastRun_of_calls hcalls hj) (hwritten ▸ hstatus)
  · intro _ hrow
    exact .inl (congrArg _ (haddon hrow))
  · intro hrow
    rw [haddon hrow]
    exact hrow

theorem debt_of_carriedOut (hcalls : (addonPool site external).Calls s i x j τ c r s')
    (hC : carriedOut site s (.step i x) = true) : ((ledger τ).next c r).debt ≠ .defaulted := by
  obtain ⟨js, ha⟩ := hcalls.answer
  change s.world.answer site.clusterId i x c = some (s'.world, r, js) at ha
  rw [carriedOut, hcalls.slot, hcalls.nextCall] at hC
  dsimp only at hC
  rw [ha] at hC
  dsimp only at hC
  rw [ledger_concat] at hC
  exact bne_iff_ne.mp hC

theorem statement_cases {α : Type} {w w' w'' : AddonWorld} {a : α} {r : Except PlatformError α}
    {js : List AddonJob} (h : w.statement x w' a = (w'', r, js)) :
    js = [] ∧ (x.reply = .ok ∧ w'' = w' ∧ r = .ok a ∨
      (∃ e, r = .error e) ∧ (w'' = w ∨ x.reply = .lost ∧ w'' = w')) := by
  unfold AddonWorld.statement at h
  split at h <;> cases h <;> simp_all

theorem Serial.step_cloud (h : Serial s) {c : CloudCall} {r : c.Answer}
    (hcalls : (addonPool site external).Calls s i x j τ (.cloud c) r s')
    (hC : carriedOut site s (.step i x) = true) : Serial s' := by
  obtain ⟨js, ha, hjobs⟩ := hcalls.jobs
  obtain ⟨⟨cloud, r', js'⟩, -, heq⟩ := Option.map_eq_some_iff.mp ha
  have hworld : s'.world = { s.world with
      cloud := cloud, events := s.world.events ++ c.event.toList } := (congrArg (·.1) heq).symm
  have hjs : js = js'.map .cluster := (congrArg (·.2.2) heq).symm
  refine h.of_keeps hcalls hjobs ?_ ?_
  · intro j' hj'
    rw [hjs] at hj'
    obtain ⟨_, -, rfl⟩ := List.mem_map.mp hj'
    rfl
  · have hdebt := debt_of_carriedOut hcalls hC
    have hrow : (ledger τ).known = true → s'.world.addon.isSome = true := by
      rw [hworld]
      exact fun hknown => h.row i j τ hcalls.slot (.inr hknown)
    have hfields {l : Ledger} (hl : l.inHelm = (ledger τ).inHelm ∧ l.result = (ledger τ).result ∧
        l.written = (ledger τ).written ∧ l.known = (ledger τ).known ∧
        ((ledger τ).debt = .owed → l.debt = .owed)) : Keeps s s' i j τ l :=
      h.keeps_of_reading hcalls (by rw [hworld]) (by rw [hworld]) (fun _ => by rw [hworld])
        hl.1 hl.2.1 hl.2.2.1 hl.2.2.2.2 fun hknown => hrow (hl.2.2.2.1 ▸ hknown)
    rw [ledger_concat]
    rcases next_cloud (ledger τ) c r with hsame | ⟨-, -, hdefaulted⟩
    · rw [hsame]
      exact hfields ⟨rfl, rfl, rfl, rfl, id⟩
    · rw [hdefaulted] at hdebt
      exact absurd rfl hdebt

theorem Serial.step_upsert (h : Serial s) {addon version helmRelease : String}
    {r : Except PlatformError ClusterAddon}
    (hcalls : (addonPool site external).Calls s i x j τ (.upsert addon version helmRelease) r s') :
    Serial s' := by
  obtain ⟨js, ha, hjobs⟩ := hcalls.jobs
  obtain ⟨rfl, hcases⟩ := statement_cases (Option.some.inj ha)
  have hfresh : (s.world.upsert site.clusterId x.id addon version helmRelease).1.inFlight =
      s.world.inFlight ∧ (s.world.upsert site.clusterId x.id addon version helmRelease).1.finished =
      s.world.finished ∧ (s.world.addon.isSome = true →
        (s.world.upsert site.clusterId x.id addon version helmRelease).1.addon = s.world.addon) ∧
      (s.world.upsert site.clusterId x.id addon version helmRelease).1.addon.isSome = true := by
    unfold AddonWorld.upsert
    cases haddon : s.world.addon with
    | none => exact ⟨rfl, rfl, nofun, rfl⟩
    | some row => exact ⟨rfl, rfl, fun _ => haddon, by rw [haddon]; rfl⟩
  have hworld : s'.world.inFlight = s.world.inFlight ∧ s'.world.finished = s.world.finished ∧
      (s.world.addon.isSome = true → s'.world.addon = s.world.addon) := by
    rcases hcases with ⟨-, hw, -⟩ | ⟨-, hw | ⟨-, hw⟩⟩
    · rw [hw]
      exact ⟨hfresh.1, hfresh.2.1, hfresh.2.2.1⟩
    · rw [hw]
      exact ⟨rfl, rfl, fun _ => rfl⟩
    · rw [hw]
      exact ⟨hfresh.1, hfresh.2.1, hfresh.2.2.1⟩
  refine h.of_keeps hcalls hjobs nofun ?_
  rw [ledger_concat]
  rcases r with e | row
  · refine h.keeps_of_reading hcalls hworld.1 hworld.2.1 hworld.2.2 rfl rfl rfl id fun hknown => ?_
    have hrow := h.row i j τ hcalls.slot (.inr hknown)
    rw [hworld.2.2 hrow]
    exact hrow
  · refine h.keeps_of_reading hcalls hworld.1 hworld.2.1 hworld.2.2 rfl rfl rfl id fun _ => ?_
    rcases hcases with ⟨-, hw, -⟩ | ⟨⟨e, he⟩, -⟩
    · rw [hw]
      exact hfresh.2.2.2
    · cases he

theorem Serial.step_getById (h : Serial s) {r : Except PlatformError (Option ClusterAddon)}
    (hcalls : (addonPool site external).Calls s i x j τ .getById r s') : Serial s' := by
  obtain ⟨js, ha, hjobs⟩ := hcalls.jobs
  obtain ⟨rfl, hcases⟩ := statement_cases (Option.some.inj ha)
  have hworld : s'.world = s.world := by
    rcases hcases with ⟨-, hw, -⟩ | ⟨-, hw | ⟨-, hw⟩⟩ <;> exact hw
  have hreading {l : Ledger} (hhelm : l.inHelm = (ledger τ).inHelm)
      (hresult : l.result = (ledger τ).result) (hwritten : l.written = (ledger τ).written)
      (hdebt : l.debt = (ledger τ).debt) (hknown : l.known = true → s'.world.addon.isSome = true) :
      Keeps s s' i j τ l :=
    h.keeps_of_reading hcalls (by rw [hworld]) (by rw [hworld]) (fun _ => by rw [hworld]) hhelm
      hresult hwritten (fun howed => hdebt.trans howed) hknown
  have hknown : (ledger τ).known = true → s'.world.addon.isSome = true := by
    rw [hworld]
    exact fun hknown => h.row i j τ hcalls.slot (.inr hknown)
  refine h.of_keeps hcalls hjobs nofun ?_
  rw [ledger_concat]
  rcases r with e | _ | row
  · exact hreading rfl rfl rfl rfl hknown
  · exact hreading rfl rfl rfl rfl hknown
  · refine hreading rfl rfl rfl rfl fun _ => ?_
    rcases hcases with ⟨-, -, hr⟩ | ⟨⟨e, he⟩, -⟩
    · rw [hworld, ← Except.ok.inj hr]
      rfl
    · cases he

/-- A run writes where it is; a request that is accepted owes its run. -/
theorem Serial.step_updateStatus (h : Serial s) {status : AddonStatus} {reason : Option String}
    {r : Except PlatformError Unit}
    (hcalls : (addonPool site external).Calls s i x j τ (.updateStatus status reason) r s')
    (hinside : j.isRun = true ↔ status ≠ .uninstalling)
    (hreplied : replied s (.step i x) = true) (hC : carriedOut site s (.step i x) = true) :
    Serial s' := by
  obtain ⟨js, ha, hjobs⟩ := hcalls.jobs
  obtain ⟨rfl, hcases⟩ := statement_cases (Option.some.inj ha)
  have hdebt := debt_of_carriedOut hcalls hC
  have hwrites : s'.world = s.world ∨ s'.world = s.world.updateStatus status reason := by
    rcases hcases with ⟨-, hw, -⟩ | ⟨-, hw | ⟨-, hw⟩⟩
    · exact .inr hw
    · exact .inl hw
    · exact .inr hw
  have hsame : s'.world.inFlight = s.world.inFlight ∧ s'.world.finished = s.world.finished ∧
      s'.world.addon.isSome = s.world.addon.isSome := by
    rcases hwrites with hw | hw
    · rw [hw]
      exact ⟨rfl, rfl, rfl⟩
    · rw [hw]
      exact ⟨rfl, rfl, Option.isSome_map⟩
  refine h.of_keeps hcalls hjobs nofun ?_
  rw [ledger_concat]
  refine h.keeps_of_same hcalls hsame.1 hsame.2.1 ?_ ?_ ?_ ?_ ?_ (fun hrow => hsame.2.2 ▸ hrow) ?_
  · rcases r with e | ⟨⟩ <;> rfl
  · rcases r with e | ⟨⟩ <;> rfl
  · intro hj status' hwritten
    rcases r with e | ⟨⟩
    · cases hwritten
    · obtain rfl := Option.some.inj hwritten
      rcases hcases with ⟨-, hw, -⟩ | ⟨⟨e, he⟩, -⟩
      · obtain ⟨row, hrow⟩ := Option.isSome_iff_exists.mp (h.row i j τ hcalls.slot (.inl hj))
        rw [hw, AddonWorld.updateStatus, hrow]
        exact .inl rfl
      · cases he
  · intro hj _
    have hstatus : status = .uninstalling := by
      by_contra hne
      rw [hinside.mpr hne] at hj
      cases hj
    subst hstatus
    rcases r with e | ⟨⟩
    · rcases hcases with ⟨-, -, hr⟩ | ⟨-, hw | ⟨hlost, -⟩⟩
      · cases hr
      · rw [hw]
        exact .inl rfl
      · rw [replied, hcalls.nextCall] at hreplied
        exact absurd hlost (bne_iff_ne.mp hreplied)
    · right
      rw [Ledger.next, if_neg fun hne => hne rfl] at hdebt ⊢
      cases hlisted : (ledger τ).listed with
      | true => rfl
      | false =>
        rw [hlisted] at hdebt
        exact absurd rfl hdebt
  · intro howed
    rcases r with e | ⟨⟩
    · exact howed
    · rw [Ledger.next] at hdebt ⊢
      dsimp only at hdebt ⊢
      split
      · exact howed
      · next hne =>
        rw [if_neg hne] at hdebt
        cases hlisted : (ledger τ).listed with
        | true => rfl
        | false =>
          rw [hlisted] at hdebt
          exact absurd rfl hdebt
  · intro hknown
    rw [hsame.2.2]
    refine h.row i j τ hcalls.slot (.inr ?_)
    rcases r with e | ⟨⟩ <;> exact hknown

theorem Serial.step_helmStart (h : Serial s) {op : HelmOp} {kubeconfigPath : String} {r : Unit}
    (hcalls : (addonPool site external).Calls s i x j τ (.helmStart op kubeconfigPath) r s')
    (hj : j.isRun = true) (hhelm : (ledger τ).inHelm = none) : Serial s' := by
  obtain ⟨js, ha, hjobs⟩ := hcalls.jobs
  have hanswer := Option.some.inj ha
  have hworld : s'.world = { s.world with inFlight := s.world.inFlight ++ [(i, op)] } :=
    (congrArg (·.1) hanswer).symm
  obtain rfl : js = [] := (congrArg (·.2.2) hanswer).symm
  have hlast := h.lastRun_of_calls hcalls hj
  refine h.of_keeps hcalls hjobs nofun ?_
  rw [ledger_concat]
  constructor
  · intro p hp
    rw [hworld] at hp
    rcases List.mem_append.mp hp with hold | hnew
    · refine .inl ⟨fun hpi => ?_, hold⟩
      obtain ⟨j', τ', hslot, -, hbusy⟩ := h.inFlight p hold
      rw [hpi] at hslot
      obtain ⟨rfl, rfl⟩ := Prod.mk.inj (Option.some.inj (hslot.symm.trans hcalls.slot))
      rw [hhelm] at hbusy
      cases hbusy
    · rw [List.mem_singleton.mp hnew]
      exact .inr ⟨rfl, hj, rfl⟩
  · intro hnot
    rw [hj] at hnot
    cases hnot
  · intro _ p hp
    rw [hworld]
    exact h.finished i j τ p hlast hp
  · intro _ status hstatus
    rw [hworld]
    exact h.status i j τ status hlast hstatus
  · intro hnot
    rw [hj] at hnot
    cases hnot
  · exact id
  · rw [hworld]
    exact id
  · rw [hworld]
    exact fun hknown => h.row i j τ hcalls.slot (.inr hknown)

theorem Serial.step_helmWait (h : Serial s) {op : HelmOp} {r : Except HelmError Unit}
    (hcalls : (addonPool site external).Calls s i x j τ (.helmWait op) r s')
    (hj : j.isRun = true) : Serial s' := by
  obtain ⟨js, ha, hjobs⟩ := hcalls.jobs
  have hanswer := Option.some.inj ha
  have hworld : s'.world = { s.world with
      inFlight := s.world.inFlight.filter (·.1 != i)
      finished := s.world.finished ++ [(op, x.reply == .ok)] } := (congrArg (·.1) hanswer).symm
  have hr : r = if x.reply = .ok then .ok () else .error x.helmError :=
    (congrArg (·.2.1) hanswer).symm
  obtain rfl : js = [] := (congrArg (·.2.2) hanswer).symm
  have hlast := h.lastRun_of_calls hcalls hj
  refine h.of_keeps hcalls hjobs nofun ?_
  rw [ledger_concat]
  constructor
  · intro p hp
    rw [hworld] at hp
    obtain ⟨hold, hpi⟩ := List.mem_filter.mp hp
    exact .inl ⟨bne_iff_ne.mp hpi, hold⟩
  · intro hnot
    rw [hj] at hnot
    cases hnot
  · intro _ p hp
    obtain rfl := Option.some.inj hp
    have hok : r.isOk = (x.reply == .ok) := by
      rw [hr]
      split
      · next hreply =>
        rw [hreply]
        rfl
      · next hreply => exact (beq_eq_false_iff_ne.mpr hreply).symm
    rw [hworld, hok]
    exact List.getLast?_concat
  · intro _ status hstatus
    rw [hworld]
    exact h.status i j τ status hlast hstatus
  · intro hnot
    rw [hj] at hnot
    cases hnot
  · exact id
  · rw [hworld]
    exact id
  · rw [hworld]
    exact fun hknown => h.row i j τ hcalls.slot (.inr hknown)

/-- A run is spawned: it is the last one, and has not done anything. -/
theorem Serial.step_spawn (h : Serial s) {job : AddonJob} {r : Unit}
    (hcalls : (addonPool site external).Calls s i x j τ (.spawn job) r s')
    (hj : j.isRun = false) (hjob : job.isRun = true) (hknown : (ledger τ).known = true)
    (halone : alone s (.step i x) = true) : Serial s' := by
  obtain ⟨js, ha, hjobs⟩ := hcalls.jobs
  have hanswer := Option.some.inj ha
  have hworld : s'.world = s.world := (congrArg (·.1) hanswer).symm
  obtain rfl : js = [job] := (congrArg (·.2.2) hanswer).symm
  rw [alone, hcalls.nextCall] at halone
  have hover {n : Nat} {j' : AddonJob} {τ' : Trace addons} (hslot : s.slot n = some (j', τ'))
      (hrun : j'.isRun = true) : (s.result n).isSome = true := by
    rw [PoolState.slot, Option.map_eq_some_iff] at hslot
    obtain ⟨t, ht, heq⟩ := hslot
    cases heq
    have hdone := List.all_eq_true.mp halone t (List.mem_of_getElem? ht)
    rw [hrun, Bool.not_true, Bool.false_or] at hdone
    exact PoolState.result_of_isDone ht hdone
  -- a run in `s'` is the new one, or was there before and is over
  have hplace {n : Nat} {j' : AddonJob} {τ' : Trace addons} (hslot : s'.slot n = some (j', τ'))
      (hrun : j'.isRun = true) : n ≠ i ∧ s.slot n = some (j', τ') ∨
        n = s.jobs.length ∧ j' = job ∧ τ' = [] := by
    rcases hcalls.places hjobs hslot with ⟨-, rfl, -⟩ | hold | ⟨hn, hnew, rfl⟩
    · rw [hj] at hrun
      cases hrun
    · exact .inl hold
    · obtain ⟨hindex, heq⟩ := List.getElem?_eq_some_iff.mp hnew
      rw [List.length_singleton] at hindex
      refine .inr ⟨by omega, ?_, rfl⟩
      rw [← heq, List.getElem_singleton]
  have hnewSlot : s'.jobs[s.jobs.length]? = some job := by
    rw [hjobs, List.getElem?_append_right (Nat.le_refl _), Nat.sub_self]
    rfl
  have hlastRun {k : Nat} {j' : AddonJob} {τ' : Trace addons} (hlast : LastRun s' k j' τ') :
      τ' = [] := by
    rcases hplace hlast.slot hlast.run with ⟨-, hold⟩ | ⟨-, -, hnil⟩
    · obtain ⟨τ₁, hslot⟩ := PoolState.slot_of_job hnewSlot
      have hlt : k < s.jobs.length := by
        rw [PoolState.jobs, List.length_map]
        exact PoolState.lt_of_slot hold
      have hnot := hlast.last _ job τ₁ hlt hslot
      rw [hjob] at hnot
      cases hnot
    · exact hnil
  constructor
  · intro n k j₁ j₂ τ₁ τ₂ hnk hn hk hrun₁ hrun₂
    refine Pool.step_result hcalls.step ?_
    rcases hplace hn hrun₁ with ⟨-, hold⟩ | ⟨hnlen, -, -⟩
    · exact hover hold hrun₁
    · rcases hplace hk hrun₂ with ⟨-, hold⟩ | ⟨hklen, -, -⟩
      · have hlt : k < s.jobs.length := by
          rw [PoolState.jobs, List.length_map]
          exact PoolState.lt_of_slot hold
        omega
      · omega
  · intro p hp
    rw [hworld] at hp
    obtain ⟨j', τ', hslot, hrun, hhelm⟩ := h.inFlight p hp
    refine ⟨j', τ', hcalls.slot_other (fun hpi => ?_) hslot, hrun, hhelm⟩
    rw [hpi] at hslot
    obtain ⟨rfl, rfl⟩ := Prod.mk.inj (Option.some.inj (hslot.symm.trans hcalls.slot))
    rw [hj] at hrun
    cases hrun
  · intro k j' τ' p hlast hresult
    rw [hlastRun hlast] at hresult
    cases hresult
  · intro k j' τ' status hlast hwritten
    rw [hlastRun hlast] at hwritten
    cases hwritten
  · intro k j' τ' hslot hboth
    rw [hworld]
    rcases hcalls.places hjobs hslot with ⟨rfl, rfl, rfl⟩ | ⟨-, hold⟩ | ⟨-, -, -⟩
    · exact h.row k _ τ hcalls.slot (.inr hknown)
    · exact h.row k j' τ' hold hboth
    · exact h.row i j τ hcalls.slot (.inr hknown)

/-- Requests, and whatever happens to the cluster, can be started at any time. -/
theorem Serial.step_start (h : Serial s) (hexternal : ∀ j, external j = true → j.isRun = false)
    (hstep : (addonPool site external).step s (.start j) = some s') : Serial s' := by
  obtain ⟨hj, hs'⟩ := Pool.step_start.mp hstep
  have hnot := hexternal j hj
  have hworld : s'.world = s.world := by rw [hs']
  have hrunPlace {n : Nat} {j' : AddonJob} {τ' : Trace addons}
      (hslot : s'.slot n = some (j', τ')) (hrun : j'.isRun = true) : s.slot n = some (j', τ') := by
    rcases Pool.slot_start_cases hstep hslot with hold | ⟨rfl, -⟩
    · exact hold
    · rw [hnot] at hrun
      cases hrun
  have hlastRun {k : Nat} {j' : AddonJob} {τ' : Trace addons} (hlast : LastRun s' k j' τ') :
      LastRun s k j' τ' :=
    ⟨hrunPlace hlast.slot hlast.run, hlast.run, fun n j₁ τ₁ hn hslot =>
      hlast.last n j₁ τ₁ hn (Pool.slot_start hstep hslot)⟩
  constructor
  · intro n k j₁ j₂ τ₁ τ₂ hnk hn hk hrun₁ hrun₂
    exact Pool.step_result hstep (h.turns n k _ _ _ _ hnk (hrunPlace hn hrun₁) (hrunPlace hk hrun₂)
      hrun₁ hrun₂)
  · intro p hp
    rw [hworld] at hp
    obtain ⟨j', τ', hslot, hrest⟩ := h.inFlight p hp
    exact ⟨j', τ', Pool.slot_start hstep hslot, hrest⟩
  · intro k j' τ' p hlast hresult
    rw [hworld]
    exact h.finished k j' τ' p (hlastRun hlast) hresult
  · intro k j' τ' status hlast hwritten
    rw [hworld]
    rcases h.status k j' τ' status (hlastRun hlast) hwritten with hstatus | ⟨n, j₁, τ₁, hslot, howed⟩
    · exact .inl hstatus
    · exact .inr ⟨n, j₁, τ₁, Pool.slot_start hstep hslot, howed⟩
  · intro k j' τ' hslot hboth
    rw [hworld]
    rcases Pool.slot_start_cases hstep hslot with hold | ⟨rfl, rfl⟩
    · exact h.row k j' τ' hold hboth
    · rcases hboth with hrun | hknown
      · rw [hnot] at hrun
        cases hrun
      · cases hknown

/-- A step that meets the condition. -/
theorem Serial.step (h : Serial s) (hexternal : ∀ j, external j = true → j.isRun = false)
    {G : AddonWorld → Prop} {L : AddonWorld → Nat → Option (AddonJob × Trace addons) → Prop}
    (hs : Pool.Slots (fun j τ c => j.Inside (ledger τ) c) (fun j τ _ => j.Ends (ledger τ)) G L s)
    {a : Act AddonJob AddonOutcome} (hC : serially site s a = true)
    (hstep : (addonPool site external).step s a = some s') : Serial s' := by
  cases a with
  | start j => exact h.step_start hexternal hstep
  | step i x =>
    rw [serially, Bool.and_eq_true, Bool.and_eq_true] at hC
    obtain ⟨⟨halone, hreplied⟩, hcarried⟩ := hC
    obtain ⟨j, τ, c, r, hcalls⟩ := Pool.calls_of_step hstep
    have hinside := hs.inside hcalls
    cases c with
    | cloud c => exact h.step_cloud hcalls hcarried
    | upsert addon version helmRelease => exact h.step_upsert hcalls
    | getById => exact h.step_getById hcalls
    | updateStatus status reason => exact h.step_updateStatus hcalls hinside hreplied hcarried
    | helmStart op kubeconfigPath => exact h.step_helmStart hcalls hinside.1 hinside.2
    | helmWait op => exact h.step_helmWait hcalls hinside
    | spawn job => exact h.step_spawn hcalls hinside.1 hinside.2.1 hinside.2.2 halone

end Step

/-! ## Every run -/

theorem written_of_lastWrite {τ : Trace addons} {status : AddonStatus}
    (h : lastWrite τ = some status) : (ledger τ).written = some status := by
  rcases List.eq_nil_or_concat' τ with rfl | ⟨τ₀, ⟨c, r⟩, rfl⟩
  · cases h
  · rw [lastWrite, List.getLast?_concat] at h
    rw [ledger_concat]
    cases c with
    | updateStatus status' reason =>
      rcases r with e | ⟨⟩
      · cases h
      · exact h
    | _ => cases h

theorem accepted_of_owed {τ : Trace addons} (h : (ledger τ).debt = .owed) : accepted τ = true := by
  induction τ using List.reverseRecOn with
  | nil => cases h
  | append_singleton τ e ih =>
    obtain ⟨c, r⟩ := e
    rw [accepted, List.any_append, Bool.or_eq_true]
    rw [ledger_concat] at h
    cases c with
    | cloud c =>
      rcases next_cloud (ledger τ) c r with hsame | ⟨-, -, hdefaulted⟩
      · exact .inl (ih (hsame ▸ h))
      · rw [hdefaulted] at h
        cases h
    | updateStatus status reason =>
      rcases r with e | ⟨⟩
      · exact .inl (ih h)
      · by_cases hstatus : status = .uninstalling
        · subst hstatus
          exact .inr rfl
        · rw [Ledger.next] at h
          dsimp only at h
          rw [if_pos hstatus] at h
          exact .inl (ih h)
    | upsert addon version helmRelease => rcases r with e | row <;> exact .inl (ih h)
    | getById => rcases r with e | _ | row <;> exact .inl (ih h)
    | helmStart op kubeconfigPath => exact .inl (ih h)
    | helmWait op => exact .inl (ih h)
    | spawn job => cases h

theorem result_of_idle {s : AddonState} (h : idle s = true) {i : Nat} {j : AddonJob}
    {τ : Trace addons} (hslot : s.slot i = some (j, τ))
    (hwaited : (j.isRun || accepted τ) = true) : (s.result i).isSome = true := by
  rw [PoolState.slot, Option.map_eq_some_iff] at hslot
  obtain ⟨t, ht, heq⟩ := hslot
  cases heq
  have hdone := List.all_eq_true.mp h t (List.mem_of_getElem? ht)
  rw [hwaited, Bool.not_true, Bool.false_or] at hdone
  exact PoolState.result_of_isDone ht hdone

section Runs

variable {G : AddonWorld → Prop} {L : AddonWorld → Nat → Option (AddonJob × Trace addons) → Prop}
  {s : AddonState}

theorem Serial.serialised (h : Serial s)
    (hs : Pool.Slots (fun j τ c => j.Inside (ledger τ) c) (fun j τ _ => j.Ends (ledger τ)) G L s) :
    Serialised s where
  exclusive := by
    have hends {i : Nat} {j : AddonJob} {τ : Trace addons} (hslot : s.slot i = some (j, τ))
        (hresult : (s.result i).isSome = true) : j.Ends (ledger τ) := by
      obtain ⟨a, ha⟩ := Option.isSome_iff_exists.mp hresult
      exact hs.finished hslot ha
    have hfirst (p q : Nat × HelmOp) (hp : p ∈ s.world.inFlight) (hq : q ∈ s.world.inFlight) :
        ¬ p.1 < q.1 := by
      intro hlt
      obtain ⟨j, τ, hslot, hrun, hhelm⟩ := h.inFlight p hp
      obtain ⟨j', τ', hslot', hrun', -⟩ := h.inFlight q hq
      have hend := hends hslot (h.turns _ _ _ _ _ _ hlt hslot hslot' hrun hrun')
      rw [hend.inHelm] at hhelm
      cases hhelm
    intro p hp q hq
    have hsame : p.1 = q.1 :=
      Nat.le_antisymm (Nat.le_of_not_lt (hfirst q p hq hp)) (Nat.le_of_not_lt (hfirst p q hp hq))
    obtain ⟨j, τ, hslot, -, hhelm⟩ := h.inFlight p hp
    obtain ⟨j', τ', hslot', -, hhelm'⟩ := h.inFlight q hq
    rw [hsame] at hslot
    obtain ⟨rfl, rfl⟩ := Prod.mk.inj (Option.some.inj (hslot.symm.trans hslot'))
    rw [Option.some.inj (hhelm.symm.trans hhelm')]
  status := by
    intro k j τ hidle hlast hwrite
    obtain ⟨status, hstatus⟩ := Option.isSome_iff_exists.mp hwrite
    have hwritten := written_of_lastWrite hstatus
    have hover := result_of_idle hidle hlast.slot (by rw [hlast.run]; rfl)
    obtain ⟨a, ha⟩ := Option.isSome_iff_exists.mp hover
    obtain ⟨op, ok, hresult, rfl⟩ := (hs.finished hlast.slot ha).written hlast.run _ hwritten
    refine ⟨op, ok, h.finished k j τ _ hlast hresult, ?_⟩
    rcases h.status k j τ _ hlast hwritten with hrow | ⟨i, j', τ', hslot, howed⟩
    · exact hrow
    · -- an accepted request has ended: it owes nothing any more
      have hended := result_of_idle hidle hslot (by rw [accepted_of_owed howed, Bool.or_true])
      obtain ⟨a', ha'⟩ := Option.isSome_iff_exists.mp hended
      exact absurd howed (hs.finished hslot ha').debt

end Runs

theorem serial_init (w : AddonWorld) (h : w.inFlight = []) : Serial (Pool.init w) where
  turns := fun _ _ _ _ _ _ _ hslot => absurd hslot Pool.slot_init_ne_some
  inFlight := by
    intro p hp
    change p ∈ w.inFlight at hp
    rw [h] at hp
    cases hp
  finished := fun _ _ _ _ hlast => absurd hlast.slot Pool.slot_init_ne_some
  status := fun _ _ _ _ hlast => absurd hlast.slot Pool.slot_init_ne_some
  row := fun _ _ _ hslot => absurd hslot Pool.slot_init_ne_some

/-- Whatever requests come in and however the calls go: as long as the runs are spawned one after
the other and no accepted uninstall is given up, every state is serialised. -/
theorem addon_operations_serialised {site : Site} {w : Cloud} {addon : Option ClusterAddon}
    {as : List (Act AddonJob AddonOutcome)} {s : AddonState}
    (hC : (addonPool site (!·.isRun)).allSteps (serially site)
      (Pool.init { cloud := w, addon := addon }) as = true)
    (h : (addonPool site (!·.isRun)).exec (Pool.init { cloud := w, addon := addon }) as = some s) :
    Serialised s := by
  let Known (s : AddonState) : Prop :=
    Pool.Slots (fun j τ c => j.Inside (ledger τ) c) (fun j τ _ => j.Ends (ledger τ))
      (fun _ => True) (fun _ _ _ => True) s ∧ Serial s
  have hknown : Known s := by
    refine Pool.exec_invariant (Q := Known) (fun s a s' hs hCs hstep => ?_)
      ⟨Pool.slots_init trivial fun _ => trivial, serial_init _ rfl⟩ hC h
    refine ⟨?_, hs.2.step (fun j hj => (Bool.not_eq_true' _).mp hj) hs.1 hCs hstep⟩
    have hexec : (addonPool site (!·.isRun)).exec s [a] = some s' := by
      rw [Pool.exec_cons, hstep]
      rfl
    exact Pool.exec_slots (C := fun _ _ => true) (program_inside site) (fun _ _ _ _ _ => trivial)
      (fun _ _ _ _ _ _ _ _ _ _ _ _ _ _ => ⟨trivial, trivial, fun _ _ => trivial⟩) hs.1
      (Pool.allSteps_of_forall fun _ _ _ => rfl) hexec
  exact hknown.2.serialised hknown.1

/-! ## Runs -/

/-- A cluster whose kubeconfig is stored, and its ingress controller. -/
def ingress : Site := { seventhCluster with slug := "ingress-nginx", addonId := 9 }

def clusterWithKubeconfig : Cloud :=
  { readyCluster with
    cluster := { readyCluster.cluster with kubeconfigSecretId := some 5 }
    secrets := [(5, "apiVersion: v1")] }

/-- The next calls of slot `i`, all of them successful. -/
def goingWell (i n : Nat) : List (Act AddonJob AddonOutcome) := List.replicate n (.step i {})

/-- An install and its run, then an uninstall and its run. -/
def oneAfterTheOther : List (Act AddonJob AddonOutcome) :=
  .start (.install "4.10.0") :: goingWell 0 7 ++ goingWell 1 5 ++
    .start (.uninstall 7) :: goingWell 2 7 ++ goingWell 3 4

theorem addon_operations_serialised_oneAfterTheOther :
    ∃ s, (addonPool ingress (!·.isRun)).exec (Pool.init { cloud := clusterWithKubeconfig })
        oneAfterTheOther = some s ∧ idle s = true ∧
      s.world.addon.map (·.status) = some .uninstalled ∧ Serialised s := by
  have hrun : ((addonPool ingress (!·.isRun)).exec (Pool.init { cloud := clusterWithKubeconfig })
      oneAfterTheOther).any (fun s => idle s &&
        decide (s.world.addon.map (·.status) = some .uninstalled)) = true := by decide +kernel
  have hserially : (addonPool ingress (!·.isRun)).allSteps (serially ingress)
      (Pool.init { cloud := clusterWithKubeconfig }) oneAfterTheOther = true := by decide +kernel
  obtain ⟨s, hs, hend⟩ := (Option.any_eq_true _ _).mp hrun
  rw [Bool.and_eq_true, decide_eq_true_eq] at hend
  exact ⟨s, hs, hend.1, hend.2, addon_operations_serialised hserially hs⟩

/-- The add-on is uninstalled; while Helm is at work, it is installed again. -/
def reinstalledTooEarly : List (Act AddonJob AddonOutcome) :=
  .start (.install "4.10.0") :: goingWell 0 7 ++ goingWell 1 5 ++
    .start (.uninstall 7) :: goingWell 2 7 ++ goingWell 3 1 ++
    .start (.install "4.10.0") :: goingWell 4 7 ++ goingWell 5 2

theorem not_addon_operations_serialised :
    ¬ ∀ (site : Site) (w : Cloud) (addon : Option ClusterAddon)
      (as : List (Act AddonJob AddonOutcome)) (s : AddonState),
      (addonPool site (!·.isRun)).exec (Pool.init { cloud := w, addon := addon }) as = some s →
      Serialised s := by
  intro h
  have hrun : ((addonPool ingress (!·.isRun)).exec (Pool.init { cloud := clusterWithKubeconfig })
      reinstalledTooEarly).any (fun s => s.world.inFlight.any fun p =>
        s.world.inFlight.any fun q => p.2.isInstall && !q.2.isInstall) = true := by decide +kernel
  obtain ⟨s, hs, hend⟩ := (Option.any_eq_true _ _).mp hrun
  obtain ⟨p, hp, hany⟩ := List.any_eq_true.mp hend
  obtain ⟨q, hq, hboth⟩ := List.any_eq_true.mp hany
  have hsame := (h _ _ _ _ s hs).exclusive p hp q hq
  rw [Bool.and_eq_true, hsame] at hboth
  rw [hboth.1] at hboth
  cases hboth.2

end Kubinate.Addons
