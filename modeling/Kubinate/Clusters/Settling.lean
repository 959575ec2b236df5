import Kubinate.Clusters.Activities

/-!
# Runs that settle

A run moves its cluster to a passing status and is meant to leave it with a settled one, and
to tell the subscribers so. It does when a workflow fails. But every other error after the
move (of the inventory, the secret store, the kubeconfig file, the workflow row, the final
status) leaves the run through `?`, with the cluster in its passing status and no event.

* `aborts`: the answers after which a run leaves early.
* `clusterJob_settles`: whatever the answers, a run that has moved its cluster either was
  told to abort and has published nothing, or has written a settled status and published
  exactly that one.
* `settles_iff`: a run alone settles exactly if no answer made it leave early.
-/

namespace Kubinate.Clusters

open Platform Library

/-- The statuses in which a cluster may rest. -/
def ClusterStatus.isSettled : ClusterStatus → Bool
  | .ready | .failed | .destroyed => true
  | .pending | .provisioning | .scaling | .destroying => false

/-- The runs, all of which move the cluster to a passing status first. -/
def ClusterJob.movesCluster : ClusterJob → Bool
  | .scaleWorkers _ => false
  | .provision _ | .destroy | .scaleOut .. | .scaleIn .. => true

def isError {ε α : Type} : Except ε α → Bool
  | .ok _ => false
  | .error _ => true

/-- A scale-out needs a control plane with an address in the inventory. -/
def lacksControlPlane (servers : List ClusterServer) : Bool :=
  ((servers.find? (·.role = .controlPlane)).bind (·.publicIpv4)).isNone

/-- The answers after which a run leaves early. -/
def aborts (j : ClusterJob) : (c : CloudCall) → c.Answer → Bool
  | .insertWorkflowRow _, r | .recordServer .., r | .setKubeconfigSecret _, r
  | .softDeleteServers, r | .softDelete, r => isError r
  | .putSecret _, r => isError r
  | .getSecret _, r => isError r
  | .writeFile .., r => isError r
  | .finalizeWorkflowRow _ step _, r => step == "done" && isError r
  | .updateStatus .ready _, r | .updateStatus .destroyed _, r => isError r
  | .listServers, .error _ => true
  | .listServers, .ok servers =>
    match j with
    | .scaleOut .. => lacksControlPlane servers
    | _ => false
  | .kubeconfigSecret, .error _ => true
  | .kubeconfigSecret, .ok secretId =>
    match j with
    | .scaleIn .. => secretId.isNone
    | _ => false
  | .sshRun _ command, r =>
    match j with
    | .scaleOut .. => command == joinTokenCommand && isError r
    | _ => false
  | _, _ => false

/-- What a run has done to the status of its cluster. -/
structure Settlement where
  /-- the move to a passing status was confirmed -/
  moved : Bool := false
  aborted : Bool := false
  /-- the last status written, and whether the write was confirmed -/
  write : Option (ClusterStatus × Bool) := none
  /-- the settled statuses it has published -/
  terminals : List ClusterStatus := []
deriving DecidableEq

namespace Settlement

def next (j : ClusterJob) (ρ : Settlement) (c : CloudCall) (r : c.Answer) : Settlement :=
  match c, r with
  | .updateStatus status reason, r =>
    { ρ with
      moved := ρ.moved || (!status.isSettled && !isError r)
      aborted := ρ.aborted || aborts j (.updateStatus status reason) r
      write := some (status, !isError r) }
  | .publishTerminal status _, _ => { ρ with terminals := ρ.terminals ++ [status] }
  | c, r => { ρ with aborted := ρ.aborted || aborts j c r }

def ofTrace (j : ClusterJob) (h : Trace cloud) : Settlement :=
  h.foldl (fun ρ e => ρ.next j e.1 e.2) {}

theorem next_updateStatus (j : ClusterJob) (ρ : Settlement) (status : ClusterStatus)
    (reason : Option String) (r : CloudCall.Answer (.updateStatus status reason)) :
    ρ.next j (.updateStatus status reason) r =
      { ρ with
        moved := ρ.moved || (!status.isSettled && !isError r)
        aborted := ρ.aborted || aborts j (.updateStatus status reason) r
        write := some (status, !isError r) } :=
  rfl

/-- An answer that is not recorded. -/
theorem aborted_or_false (ρ : Settlement) : { ρ with aborted := ρ.aborted || false } = ρ := by
  rw [Bool.or_false]

theorem ofTrace_append (j : ClusterJob) (h : Trace cloud) (c : cloud.Call) (r : cloud.Answer c) :
    ofTrace j (h ++ [⟨c, r⟩]) = (ofTrace j h).next j c r := by
  rw [ofTrace, List.foldl_append]
  rfl

/-- The run has moved its cluster and has yet to settle it. -/
def Open (ρ : Settlement) : Prop :=
  ρ.moved = true ∧ ρ.aborted = false ∧ ρ.terminals = []

/-- The last status that it has tried to write. -/
def Wrote (status : ClusterStatus) (ρ : Settlement) : Prop :=
  ρ.Open ∧ ∃ confirmed, ρ.write = some (status, confirmed)

/-- How a run may end: before the move, early and in silence, or settled. -/
def Ended (ρ : Settlement) : Prop :=
  ρ.moved = false ∨ ρ.aborted = true ∧ ρ.terminals = [] ∨
    ρ.aborted = false ∧ ∃ status confirmed, status.isSettled = true ∧
      ρ.write = some (status, confirmed) ∧ ρ.terminals = [status]

theorem Open.error {ρ : Settlement} (h : ρ.Open) :
    Ended { ρ with aborted := ρ.aborted || true } :=
  .inr (.inl ⟨Bool.or_true _, h.2.2⟩)

theorem Open.ok {ρ : Settlement} (h : ρ.Open) : Open { ρ with aborted := ρ.aborted || false } :=
  ⟨h.1, (Bool.or_false _).trans h.2.1, h.2.2⟩

theorem Open.unless {ρ : Settlement} (h : ρ.Open) (stop : Bool) :
    (stop = true → Ended { ρ with aborted := ρ.aborted || stop }) ∧
      (stop = false → Open { ρ with aborted := ρ.aborted || stop }) := by
  cases stop with
  | true => exact ⟨fun _ => h.error, nofun⟩
  | false => exact ⟨nofun, fun _ => h.ok⟩

theorem Wrote.ended {ρ : Settlement} {status : ClusterStatus} (h : ρ.Wrote status)
    (hs : status.isSettled = true) : Ended { ρ with terminals := ρ.terminals ++ [status] } := by
  obtain ⟨⟨-, haborted, hterminals⟩, confirmed, hwrite⟩ := h
  refine .inr (.inr ⟨haborted, status, confirmed, hs, hwrite, ?_⟩)
  rw [hterminals]
  rfl

end Settlement

/-- Calls that a settlement does not record. -/
def Silent (j : ClusterJob) (c : CloudCall) : Prop := ∀ ρ r, Settlement.next j ρ c r = ρ

/-- Calls whose answers lead to no early end in any run. -/
def CloudCall.isHarmless : CloudCall → Bool
  | .newId | .get | .softDeleteServerRow _ | .updateStep .. | .deleteSecret _ | .createServer _
  | .getServer _ | .deleteServer _ | .drainNode .. | .deleteNode .. | .removeFile _
  | .publishStep _ => true
  | _ => false

theorem silent_of_isHarmless {j : ClusterJob} {c : CloudCall} (h : c.isHarmless = true) :
    Silent j c := by
  intro ρ r
  cases c <;> first | exact absurd h Bool.false_ne_true | exact Settlement.aborted_or_false ρ

theorem silent_call {j : ClusterJob} {c : CloudCall} (h : c.isHarmless = true) :
    Makes (I := cloud) (Silent j) (call c) :=
  makes_call (silent_of_isHarmless h)

/-- The calls of the workflows lead to no early end. -/
theorem silent_of_joined {j : ClusterJob} (c : CloudCall) (h : Joined c) : Silent j c := by
  by_cases hc : c.isHarmless = true
  · exact silent_of_isHarmless hc
  · obtain ⟨hactivity, hjoin⟩ := h
    cases c with
    | sshRun target command =>
      have hne : (command == joinTokenCommand) = false :=
        beq_eq_false_iff_ne.mpr fun hcommand => hjoin target (hcommand ▸ rfl)
      intro ρ r
      have hgo : aborts j (.sshRun target command) r = false := by
        cases j with
        | scaleOut => exact (congrArg (· && isError r) hne).trans rfl
        | _ => rfl
      exact (congrArg (fun stop => { ρ with aborted := ρ.aborted || stop }) hgo).trans
        (Settlement.aborted_or_false ρ)
    | _ => first | exact absurd rfl hc | exact absurd hactivity Bool.false_ne_true

theorem silent_of_isActivity {input : ProvisionClusterInput} (c : CloudCall) (h : IsActivity c) :
    Silent (.provision input) c := by
  cases c with
  | sshRun target command => exact fun ρ _ => Settlement.aborted_or_false ρ
  | _ => exact silent_of_joined _ ⟨h, nofun⟩

/-! ## Runs -/

section Runs

open Settlement

variable {j : ClusterJob} {ρ : Settlement} {α β : Type}

/-- A part of a run after which the settlement satisfies `A`, unless the run ends there. -/
def Stays (j : ClusterJob) (A : Settlement → α → Prop) (p : Run α) (ρ : Settlement) : Prop :=
  Follows (next j) (fun _ _ => True) (Post A fun ρ' _ => Ended ρ') p.run ρ

theorem stays_bind {p : Run α} {f : α → Run β} {A : Settlement → α → Prop}
    {B : Settlement → β → Prop} (hp : Stays j A p ρ) (hf : ∀ ρ' a, A ρ' a → Stays j B (f a) ρ') :
    Stays j B (p >>= f) ρ :=
  follows_bindE hp hf fun _ _ h => h

theorem stays_silent {p : Program cloud α} (h : Makes (I := cloud) (Silent j) p) :
    Stays j (fun ρ' _ => ρ' = ρ) (ExceptT.lift p) ρ := by
  refine follows_lift (follows_of_makes (· = ρ) h ?_ rfl)
  rintro c _ hc rfl
  exact ⟨trivial, hc _⟩

theorem stays_ignore {p : Program cloud α} {A : Settlement → Unit → Prop}
    (h : Follows (next j) (fun _ _ => True) (fun ρ' _ => A ρ' ()) p ρ) :
    Stays j A (ignore p) ρ :=
  follows_bindE (E := fun ρ' _ => Ended ρ') (follows_lift h) (fun _ _ h => h) fun _ _ h => h

theorem stays_attempt {ε : Type} {convert : ε → RunError} {p : Program cloud (Except ε α)}
    {A : Settlement → α → Prop}
    (h : Follows (next j) (fun _ _ => True) (Post A fun ρ' _ => Ended ρ') p ρ) :
    Stays j A (attempt convert p) ρ := by
  refine follows_bind h ?_
  rintro ρ' (e | a) h
  · exact h
  · exact h

/-- The first status write: its error ends a run that has moved nothing. -/
theorem stays_move {status : ClusterStatus} (hs : status.isSettled = false) :
    Stays j (fun ρ' _ => ρ'.Open) (repository (call (.updateStatus status none))) {} := by
  refine stays_attempt ⟨trivial, ?_⟩
  rintro (e | ⟨⟩)
  · exact .inl (Bool.and_false _)
  · refine ⟨by rw [next_updateStatus, hs]; rfl, ?_, rfl⟩
    cases status <;> first | exact absurd hs.symm Bool.false_ne_true | rfl

theorem stays_recordServer (h : ρ.Open) (role : ClusterNodeRole) (server : HetznerServer) :
    Stays j (fun ρ' _ => ρ'.Open) (recordServer role server) ρ := by
  refine stays_attempt ⟨trivial, ?_⟩
  rintro (e | ⟨⟩)
  · exact h.error
  · exact h.ok

theorem stays_recordServers (h : ρ.Open) (role : ClusterNodeRole) (servers : List HetznerServer) :
    Stays j (fun ρ' _ => ρ'.Open) (servers.forM (recordServer role)) ρ := by
  refine follows_forM (K := fun _ (ρ' : Settlement) => ρ'.Open) ?_ servers h
  intro server rest ρ' h
  exact stays_recordServer h role server

theorem stays_storeKubeconfig (h : ρ.Open) (kubeconfig : String) :
    Stays j (fun ρ' _ => ρ'.Open) (ClusterService.storeKubeconfig kubeconfig) ρ := by
  unfold ClusterService.storeKubeconfig
  refine stays_bind (A := fun ρ' _ => ρ'.Open) (stays_attempt ⟨trivial, ?_⟩) fun ρ' secretId h => ?_
  · rintro (e | ⟨⟩)
    · exact h.error
    · exact h.ok
  · refine ⟨trivial, ?_⟩
    rintro (e | ⟨⟩)
    · -- the handle is deleted again, whatever comes of it
      refine ⟨trivial, fun r => ?_⟩
      rw [silent_of_isHarmless (j := j) rfl]
      exact h.error
    · exact h.ok

/-- A settled status that is written or else ends the run. -/
theorem stays_settle (h : ρ.Open) {status : ClusterStatus}
    (hs : status = .ready ∨ status = .destroyed) :
    Stays j (fun ρ' _ => ρ'.Wrote status) (repository (call (.updateStatus status none))) ρ := by
  refine stays_attempt ⟨trivial, ?_⟩
  rcases hs with rfl | rfl
  · rintro (e | ⟨⟩)
    · exact .inr (.inl ⟨Bool.or_true _, h.2.2⟩)
    · exact ⟨⟨by rw [next_updateStatus, h.1]; rfl, (Bool.or_false _).trans h.2.1, h.2.2⟩, true, rfl⟩
  · rintro (e | ⟨⟩)
    · exact .inr (.inl ⟨Bool.or_true _, h.2.2⟩)
    · exact ⟨⟨by rw [next_updateStatus, h.1]; rfl, (Bool.or_false _).trans h.2.1, h.2.2⟩, true, rfl⟩

theorem stays_terminal {status : ClusterStatus} (h : ρ.Wrote status) (hs : status.isSettled = true)
    (reason : Option String) :
    Stays j (fun ρ' _ => Ended ρ') (ignore (publishTerminal status reason)) ρ := by
  refine stays_ignore ?_
  cases status with
  | ready | failed | destroyed => exact ⟨trivial, fun _ => h.ended rfl⟩
  | pending | provisioning | scaling | destroying => cases hs

/-- The failure of a workflow: the status is written if possible. -/
theorem stays_fail (h : ρ.Open) (reason : String) :
    Stays j (fun ρ' _ => ρ'.Wrote .failed)
      (ignore (call (.updateStatus .failed (some reason)))) ρ := by
  refine stays_ignore ⟨trivial, fun r => ?_⟩
  exact ⟨⟨by rw [next_updateStatus, h.1]; rfl, (Bool.or_false _).trans h.2.1, h.2.2⟩, _, rfl⟩

theorem silent_finalizeFailed (id : Uuid) (reason : Option String) :
    Silent j (.finalizeWorkflowRow id "failed" reason) :=
  fun ρ _ => aborted_or_false ρ

theorem runProvision_stays {newV5 : String → Uuid} {clusterId : Uuid}
    (input : ProvisionClusterInput) :
    Stays (.provision input) (fun ρ' _ => Ended ρ') (runProvision newV5 clusterId input) {} := by
  unfold runProvision
  refine stays_bind (stays_silent (silent_call rfl)) ?_
  rintro _ workflowRow rfl
  refine stays_bind (stays_move rfl) fun ρ₁ _ h₁ => ?_
  refine stays_bind (A := fun ρ' _ => ρ'.Open) (stays_attempt ⟨trivial, ?_⟩) fun ρ₂ _ h₂ => ?_
  · rintro (e | ⟨⟩)
    · exact h₁.error
    · exact h₁.ok
  refine stays_bind (stays_silent ((provisionCluster_makes (.inr ⟨workflowRow, rfl⟩) input).mono
    silent_of_isActivity)) ?_
  rintro _ (err | output) rfl
  · -- the workflow has failed
    refine stays_bind (stays_fail h₂ _) fun ρ₃ _ h₃ => ?_
    refine stays_bind (A := fun ρ' _ => ρ'.Wrote .failed) (stays_ignore ⟨trivial, fun r => ?_⟩)
      fun ρ₄ _ h₄ => ?_
    · rw [silent_finalizeFailed]
      exact h₃
    · exact stays_bind (stays_terminal h₄ rfl _) fun _ _ h => h
  · refine stays_bind (stays_recordServer h₂ _ _) fun ρ₃ _ h₃ => ?_
    refine stays_bind (stays_recordServers h₃ _ _) fun ρ₄ _ h₄ => ?_
    refine stays_bind (stays_storeKubeconfig h₄ _) fun ρ₅ _ h₅ => ?_
    refine stays_bind (stays_settle h₅ (.inl rfl)) fun ρ₆ _ h₆ => ?_
    refine stays_bind (A := fun ρ' _ => ρ'.Wrote .ready) (stays_attempt ⟨trivial, ?_⟩)
      fun ρ₇ _ h₇ => stays_terminal h₇ rfl _
    rintro (e | ⟨⟩)
    · exact h₆.1.error
    · exact ⟨h₆.1.ok, h₆.2⟩

/-- A successful answer can still be one that ends the run. -/
def OpenUnless (stop : α → Bool) (ρ : Settlement) (a : α) : Prop :=
  (stop a = true → Ended ρ) ∧ (stop a = false → ρ.Open)

theorem stays_listServers (h : ρ.Open) :
    Stays j (OpenUnless fun servers => aborts j .listServers (.ok servers))
      (repository (call .listServers)) ρ := by
  refine stays_attempt ⟨trivial, ?_⟩
  rintro (e | servers)
  · exact h.error
  · exact h.unless _

theorem stays_kubeconfigSecret (h : ρ.Open) :
    Stays j (OpenUnless fun secretId => aborts j .kubeconfigSecret (.ok secretId))
      (repository (call .kubeconfigSecret)) ρ := by
  refine stays_attempt ⟨trivial, ?_⟩
  rintro (e | secretId)
  · exact h.error
  · exact h.unless _

theorem runDestroy_stays : Stays .destroy (fun ρ' _ => Ended ρ') runDestroy {} := by
  unfold runDestroy
  refine stays_bind (A := fun ρ' _ => ρ'.Open) ?_ fun ρ₁ _ h₁ => ?_
  · unfold ClusterService.beginDestroy
    refine stays_bind (A := fun ρ' _ => ρ' = {}) (stays_attempt ⟨trivial, ?_⟩) ?_
    · rintro (e | cluster)
      · exact .inl rfl
      · rfl
    · rintro _ cluster rfl
      refine follows_iteE (fun _ => .inl rfl) fun _ => ?_
      exact stays_bind (stays_move rfl) fun _ _ h => h
  refine stays_bind (stays_listServers h₁) fun ρ₂ servers h₂ => ?_
  refine stays_bind (stays_silent ((destroyCluster_makes _).mono silent_of_joined)) ?_
  rintro _ (err | ⟨⟩) rfl
  · refine stays_bind (stays_fail (h₂.2 rfl) _) fun ρ₃ _ h₃ => ?_
    exact stays_bind (stays_terminal h₃ rfl _) fun _ _ h => h
  · refine stays_bind (A := fun ρ' _ => ρ'.Open) (stays_attempt ⟨trivial, ?_⟩) fun ρ₃ _ h₃ => ?_
    · rintro (e | ⟨⟩)
      · exact (h₂.2 rfl).error
      · exact (h₂.2 rfl).ok
    refine stays_bind (A := fun ρ' _ => ρ'.Wrote .destroyed) ?_ fun ρ₄ _ h₄ =>
      stays_terminal h₄ rfl _
    unfold ClusterService.finalizeDestroy
    refine stays_bind (stays_kubeconfigSecret h₃) fun ρ₅ secretId h₅ => ?_
    have hrest : ∀ ρ' : Settlement, ρ'.Open → Stays .destroy (fun ρ' _ => ρ'.Wrote .destroyed) (do
        repository (call .softDelete)
        repository (call (.updateStatus .destroyed none))) ρ' := by
      intro ρ' h
      refine stays_bind (A := fun ρ' _ => ρ'.Open) (stays_attempt ⟨trivial, ?_⟩) fun ρ₆ _ h₆ =>
        stays_settle h₆ (.inr rfl)
      rintro (e | ⟨⟩)
      · exact h.error
      · exact h.ok
    cases secretId with
    | none => exact hrest ρ₅ (h₅.2 rfl)
    | some secretId =>
      refine stays_bind (A := fun ρ' _ => ρ' = ρ₅) (stays_ignore ⟨trivial, fun r => ?_⟩) ?_
      · exact silent_of_isHarmless (j := .destroy) (c := .deleteSecret secretId) rfl ρ₅ r
      · rintro _ _ rfl
        exact hrest _ (h₅.2 rfl)

theorem runScaleOut_stays {newV5 : String → Uuid} {clusterId : Uuid} (count : Nat)
    (clusterName location serverType sshKey userData k3sVersion : String) :
    Stays (.scaleOut count clusterName location serverType sshKey userData k3sVersion)
      (fun ρ' _ => Ended ρ')
      (runScaleOut newV5 clusterId count clusterName location serverType sshKey userData k3sVersion)
      {} := by
  unfold runScaleOut
  refine stays_bind (stays_move rfl) fun ρ₁ _ h₁ => ?_
  refine stays_bind (stays_listServers h₁) fun ρ₂ servers h₂ => ?_
  cases hcp : servers.find? (·.role = .controlPlane) with
  | none => exact h₂.1 (by simp [aborts, lacksControlPlane, hcp])
  | some cp =>
  cases hip : cp.publicIpv4 with
  | none =>
    simp only [hip]
    exact h₂.1 (by simp [aborts, lacksControlPlane, hcp, hip])
  | some cpIpv4 =>
  simp only [hip]
  have hopen : ρ₂.Open := h₂.2 (by simp [aborts, lacksControlPlane, hcp, hip])
  refine stays_bind (A := fun ρ' _ => ρ'.Open) (stays_attempt ⟨trivial, ?_⟩)
    fun ρ₃ joinToken h₃ => ?_
  · rintro (e | token)
    · exact hopen.error
    · exact hopen.ok
  refine stays_bind (stays_silent ((scaleOut_makes _).mono silent_of_joined)) ?_
  rintro _ (err | workers) rfl
  · refine stays_bind (stays_fail h₃ _) fun ρ₄ _ h₄ => ?_
    exact stays_bind (stays_terminal h₄ rfl _) fun _ _ h => h
  · refine stays_bind (stays_recordServers h₃ _ _) fun ρ₄ _ h₄ => ?_
    exact stays_bind (stays_settle h₄ (.inl rfl)) fun _ _ h => stays_terminal h rfl _

theorem runScaleIn_stays {clusterId : Uuid} (clusterName : String) (count : Nat) :
    Stays (.scaleIn clusterName count) (fun ρ' _ => Ended ρ')
      (runScaleIn clusterId clusterName count) {} := by
  unfold runScaleIn
  refine stays_bind (stays_move rfl) fun ρ₁ _ h₁ => ?_
  refine stays_bind (stays_listServers h₁) fun ρ₂ servers h₂ => ?_
  refine stays_bind (A := fun ρ' _ => ρ'.Open) ?_ fun ρ₃ kubeconfig h₃ => ?_
  · unfold ClusterService.fetchKubeconfig
    refine stays_bind (stays_kubeconfigSecret (h₂.2 rfl)) fun ρ' secretId h => ?_
    cases secretId with
    | none => exact h.1 rfl
    | some secretId =>
      refine stays_attempt ⟨trivial, ?_⟩
      rintro (e | ⟨⟩)
      · exact (h.2 rfl).error
      · exact (h.2 rfl).ok
  refine stays_bind (stays_silent (silent_call rfl)) ?_
  rintro _ fileId rfl
  refine stays_bind (A := fun ρ' _ => ρ'.Open) (stays_attempt ⟨trivial, ?_⟩) fun ρ₄ _ h₄ => ?_
  · rintro (e | ⟨⟩)
    · exact h₃.error
    · exact h₃.ok
  refine stays_bind (stays_silent ((scaleIn_makes _ _).mono silent_of_joined)) ?_
  rintro ρ₅ result rfl
  refine stays_bind (A := fun ρ' _ => ρ' = ρ₅) (stays_ignore ⟨trivial, fun r => ?_⟩) ?_
  · exact silent_of_isHarmless (c := .removeFile _) rfl ρ₅ r
  rintro _ _ rfl
  cases result with
  | error err =>
    refine stays_bind (stays_fail h₄ _) fun ρ₆ _ h₆ => ?_
    exact stays_bind (stays_terminal h₆ rfl _) fun _ _ h => h
  | ok _ =>
    refine stays_bind (A := fun ρ' _ => ρ'.Open) ?_ fun ρ₆ _ h₆ => ?_
    · refine follows_forM (K := fun _ (ρ' : Settlement) => ρ'.Open) ?_ _ h₄
      intro s rest ρ' h
      refine stays_ignore ⟨trivial, fun r => ?_⟩
      rw [silent_of_isHarmless (c := .softDeleteServerRow s.id) rfl ρ' r]
      exact h
    · exact stays_bind (stays_settle h₆ (.inl rfl)) fun _ _ h => stays_terminal h rfl _

/-- Whatever the answers: a run that has moved its cluster either left early and in silence,
or has written a settled status and published exactly that one. -/
theorem clusterJob_settles (D : Deployment) (hj : j.movesCluster = true) :
    Follows (next j) (fun _ _ => True) (fun ρ' _ => Ended ρ') (j.program D) {} := by
  have hrun : Stays j (fun ρ' _ => Ended ρ') (j.run D) {} := by
    cases j with
    | provision input => exact runProvision_stays input
    | destroy => exact runDestroy_stays
    | scaleOut => exact runScaleOut_stays _ _ _ _ _ _ _
    | scaleIn => exact runScaleIn_stays _ _
    | scaleWorkers => cases hj
  refine follows_bind hrun ?_
  rintro ρ' (e | ⟨⟩) h
  · exact h
  · exact h

end Runs

/-! ## One run alone -/

section Alone

open Settlement

variable {w w' w₀ : Cloud} {x : Outcome} {i : Nat} {j : ClusterJob} {ρ : Settlement}

/-- Calls other than these leave the status and the published events alone. -/
theorem Cloud.execute_status {c : CloudCall} (hu : ∀ status reason, c ≠ .updateStatus status reason)
    (hp : ∀ status reason, c ≠ .publishTerminal status reason) :
    (w.execute i x c).1.published = w.published ∧
      (w.execute i x c).1.cluster.status = w.cluster.status := by
  cases c with
  | updateStatus status reason => exact absurd rfl (hu status reason)
  | publishTerminal status reason => exact absurd rfl (hp status reason)
  | recordServer =>
    simp only [Cloud.execute, Cloud.recordServer]
    split
    · exact ⟨rfl, rfl⟩
    · split <;> exact ⟨rfl, rfl⟩
  | setKubeconfigSecret =>
    simp only [Cloud.execute, Cloud.setKubeconfigSecret]
    split <;> exact ⟨rfl, rfl⟩
  | softDelete =>
    refine ⟨rfl, ?_⟩
    simp only [Cloud.execute]
    split <;> rfl
  | insertWorkflowRow | deleteServer | deleteSecret =>
    simp only [Cloud.execute]
    split <;> exact ⟨rfl, rfl⟩
  | _ => exact ⟨rfl, rfl⟩

/-- What a settlement says about the world, when nobody else has touched the cluster. -/
def Reflects (w₀ : Cloud) (ρ : Settlement) (w : Cloud) : Prop :=
  w.published.map Prod.fst = w₀.published.map Prod.fst ++ ρ.terminals ∧
    ∀ status, ρ.write = some (status, true) → w.cluster.status = status

theorem reflects_answer {c : CloudCall} {r : c.Answer} {js : List ClusterJob}
    (h : Reflects w₀ ρ w) (ha : w.answer i c x = some (w', r, js)) :
    Reflects w₀ (ρ.next j c r) w' := by
  obtain ⟨himp, -, hcases⟩ := Cloud.answer_cases ha
  by_cases hu : ∃ status reason, c = .updateStatus status reason
  · obtain ⟨status, reason, rfl⟩ := hu
    rcases hcases with ⟨-, rfl, rfl⟩ | ⟨-, rfl, rfl⟩ | ⟨-, rfl, rfl⟩
    · exact ⟨h.1, fun _ hw => by cases hw; rfl⟩
    · exact ⟨h.1, fun _ hw => by cases hw⟩
    · exact ⟨h.1, fun _ hw => by cases hw⟩
  by_cases hp : ∃ status reason, c = .publishTerminal status reason
  · obtain ⟨status, reason, rfl⟩ := hp
    rcases hcases with ⟨-, rfl, rfl⟩ | ⟨hr, rfl, rfl⟩ | ⟨hr, rfl, rfl⟩
    · refine ⟨?_, h.2⟩
      show List.map Prod.fst (w.published ++ [(status, reason)]) = _ ++ (ρ.terminals ++ [status])
      rw [List.map_append, h.1, List.append_assoc]
      rfl
    · simp [Cloud.impossible, hr] at himp
    · simp [Cloud.impossible, hr] at himp
  · have hsame := Cloud.execute_status (w := w) (x := x) (i := i) (c := c)
      (fun status reason hc => hu ⟨status, reason, hc⟩) fun status reason hc => hp ⟨status, reason, hc⟩
    have hnext : (ρ.next j c r).terminals = ρ.terminals ∧ (ρ.next j c r).write = ρ.write := by
      cases c with
      | updateStatus status reason => exact absurd ⟨status, reason, rfl⟩ hu
      | publishTerminal status reason => exact absurd ⟨status, reason, rfl⟩ hp
      | _ => exact ⟨rfl, rfl⟩
    rw [Reflects, hnext.1, hnext.2]
    rcases hcases with ⟨-, rfl, -⟩ | ⟨-, rfl, -⟩ | ⟨-, rfl, -⟩
    · rw [hsame.1, hsame.2]
      exact h
    · exact h
    · rw [hsame.1, hsame.2]
      exact h

/-- The schedule of one run with nothing beside it. -/
def alone (j : ClusterJob) (xs : List Outcome) : List (Act ClusterJob Outcome) :=
  .start j :: xs.map (.step 0)

/-- The run has left its cluster in a settled status, unless that write was reported as
failed, and has published this status and no other. -/
def Settles (w w' : Cloud) (ρ : Settlement) : Prop :=
  ρ.moved = true → ∃ status, status.isSettled = true ∧
    w'.published.map Prod.fst = w.published.map Prod.fst ++ [status] ∧
    (w'.cluster.status = status ∨ ∃ status', ρ.write = some (status', false))

/-- Only the program in slot 0 makes calls. -/
def onlyFirst (_ : PoolState cloud Cloud ClusterJob Unit) : Act ClusterJob Outcome → Bool
  | .start _ => true
  | .step i _ => i == 0

theorem allSteps_alone {D : Deployment} {external : ClusterJob → Bool}
    {s : PoolState cloud Cloud ClusterJob Unit} (j : ClusterJob) (xs : List Outcome) :
    (runnerPool D external).allSteps onlyFirst s (alone j xs) = true := by
  refine Pool.allSteps_of_forall fun a ha _ => ?_
  rcases List.mem_cons.mp ha with rfl | ha
  · rfl
  · obtain ⟨x, -, rfl⟩ := List.mem_map.mp ha
    rfl

/-- What a run does ends inside this specification. -/
def RunEnds (j : ClusterJob) (τ : Trace cloud) (_ : Unit) : Prop :=
  j.movesCluster = true → Ended (ofTrace j τ)

theorem clusterJob_runEnds (D : Deployment) (j : ClusterJob) :
    Meets (I := cloud) (fun _ _ => True) (fun _ _ _ => True) (RunEnds j) (j.program D) [] := by
  by_cases hj : j.movesCluster = true
  · exact meets_mono (meets_of_follows (f := ofTrace j) (ofTrace_append j) (clusterJob_settles D hj))
      (fun _ _ h => h) fun _ _ h _ => h
  · exact meets_mono (meets_true _) (fun _ _ h => h) fun _ _ _ h => absurd h hj

/-- What is known about the first slot. -/
def FirstReflects (w₀ w : Cloud) (i : Nat) (slot : Option (ClusterJob × Trace cloud)) : Prop :=
  i = 0 → Reflects w₀ (slot.elim {} fun (j, τ) => ofTrace j τ) w

theorem reflects_alone {D : Deployment} {external : ClusterJob → Bool} {xs : List Outcome}
    {s : PoolState cloud Cloud ClusterJob Unit} {τ : Trace cloud}
    (h : (runnerPool D external).exec (Pool.init w) (alone j xs) = some s)
    (hquiet : s.quiet = true) (hslot : s.slot 0 = some (j, τ)) (hj : j.movesCluster = true) :
    Reflects w (ofTrace j τ) s.world ∧ Ended (ofTrace j τ) := by
  have hinit : Pool.Slots (fun _ _ _ => True) RunEnds (fun _ => True) (FirstReflects w)
      (Pool.init w : PoolState cloud Cloud ClusterJob Unit) :=
    Pool.slots_init trivial fun _ _ => ⟨(List.append_nil _).symm, nofun⟩
  have hs := Pool.exec_slots (C := onlyFirst) (clusterJob_runEnds D) (fun _ _ _ _ h => h) ?_ hinit
    (allSteps_alone j xs) h
  · have hfirst := hs.slot 0 rfl
    rw [hslot] at hfirst
    obtain ⟨r, hend⟩ := hs.ended hquiet hslot
    exact ⟨hfirst, hend hj⟩
  · intro s i x t c w' r js hs hC ht hnext _ ha
    obtain rfl : i = 0 := by simpa [onlyFirst] using hC
    refine ⟨trivial, fun _ => ?_, fun k hk h0 => absurd h0 hk⟩
    have hfirst := hs.slot 0 rfl
    rw [PoolState.slot_of_getElem? ht] at hfirst
    show Reflects w (ofTrace t.job (t.trace ++ [⟨c, r⟩])) w'
    rw [ofTrace_append]
    exact reflects_answer hfirst ha

/-- A run that is over has settled its cluster exactly if no answer made it leave early. -/
theorem settles_iff {D : Deployment} {external : ClusterJob → Bool} {xs : List Outcome}
    {s : PoolState cloud Cloud ClusterJob Unit} {τ : Trace cloud}
    (h : (runnerPool D external).exec (Pool.init w) (alone j xs) = some s)
    (hquiet : s.quiet = true) (hslot : s.slot 0 = some (j, τ)) (hj : j.movesCluster = true) :
    Settles w s.world (ofTrace j τ) ↔
      ((ofTrace j τ).moved = true → (ofTrace j τ).aborted = false) := by
  obtain ⟨⟨hpublished, hstatus⟩, hended⟩ := reflects_alone h hquiet hslot hj
  constructor
  · intro hsettles hmoved
    rcases hended with hnot | ⟨-, hsilent⟩ | ⟨haborted, -⟩
    · rw [hmoved] at hnot
      cases hnot
    · obtain ⟨status, -, hone, -⟩ := hsettles hmoved
      rw [hpublished, hsilent] at hone
      have hlength := congrArg List.length hone
      simp at hlength
    · exact haborted
  · intro hgo hmoved
    rcases hended with hnot | ⟨haborted, -⟩ | ⟨-, status, confirmed, hsettled, hwrite, hone⟩
    · rw [hmoved] at hnot
      cases hnot
    · rw [hgo hmoved] at haborted
      cases haborted
    · refine ⟨status, hsettled, by rw [hpublished, hone], ?_⟩
      cases confirmed with
      | true => exact .inl (hstatus status hwrite)
      | false => exact .inr ⟨status, hwrite⟩

end Alone

/-- A ready cluster with a control plane. -/
def readyCluster : Cloud where
  cluster := ⟨7, "demo", "fsn1", "cx22", 1, .ready, none, none, none⟩
  servers := [⟨1, 100, .controlPlane, some "203.0.113.7", none, 0, none⟩]
  workflows := []
  secrets := []
  alive := [⟨100, 0⟩]
  created := [100]
  published := []
  enforceRls := true

def seventhCluster : Deployment := ⟨fun _ => 0, 7, ⟨"key", "data", "v1.31"⟩⟩

/-- A destroy in which every call succeeds. -/
theorem settles_iff_destroy :
    ∃ s τ, (runnerPool seventhCluster fun _ => true).exec (Pool.init readyCluster)
        (alone .destroy (List.replicate 11 {})) = some s ∧ s.quiet = true ∧
      s.slot 0 = some (.destroy, τ) ∧ (Settlement.ofTrace .destroy τ).moved = true ∧
      Settles readyCluster s.world (Settlement.ofTrace .destroy τ) := by
  have hrun : ((runnerPool seventhCluster fun _ => true).exec (Pool.init readyCluster)
      (alone .destroy (List.replicate 11 {}))).any (fun s => s.quiet && (s.slot 0).any fun (j, τ) =>
        decide (j = .destroy) && (Settlement.ofTrace .destroy τ).moved &&
          !(Settlement.ofTrace .destroy τ).aborted) = true := by decide +kernel
  obtain ⟨s, hs, hend⟩ := (Option.any_eq_true _ _).mp hrun
  rw [Bool.and_eq_true, Option.any_eq_true] at hend
  obtain ⟨hquiet, ⟨j, τ⟩, hslot, hend⟩ := hend
  rw [Bool.and_eq_true, Bool.and_eq_true, decide_eq_true_eq] at hend
  obtain ⟨⟨rfl, hmoved⟩, haborted⟩ := hend
  exact ⟨s, τ, hs, hquiet, hslot, hmoved,
    (settles_iff hs hquiet hslot rfl).mpr fun _ => by simpa using haborted⟩

/-- A scale-out whose read of the inventory fails. -/
def failedListing : List Outcome := [{}, { reply := .failed }]

/-- It leaves the cluster scaling and tells nobody. -/
theorem not_settles :
    ¬ ∀ (D : Deployment) (external : ClusterJob → Bool) (w : Cloud) (j : ClusterJob)
      (xs : List Outcome) (s : PoolState cloud Cloud ClusterJob Unit) (τ : Trace cloud),
      (runnerPool D external).exec (Pool.init w) (alone j xs) = some s → s.quiet = true →
      s.slot 0 = some (j, τ) → j.movesCluster = true →
      Settles w s.world (Settlement.ofTrace j τ) := by
  intro h
  have hrun : ((runnerPool seventhCluster fun _ => true).exec (Pool.init readyCluster)
      (alone (.scaleOut 1 "demo" "fsn1" "cx22" "key" "data" "v1.31") failedListing)).any (fun s =>
        s.quiet && decide (s.world.published = []) && (s.slot 0).any fun (j, τ) =>
          decide (j = .scaleOut 1 "demo" "fsn1" "cx22" "key" "data" "v1.31") &&
            (Settlement.ofTrace j τ).moved) = true := by decide +kernel
  obtain ⟨s, hs, hend⟩ := (Option.any_eq_true _ _).mp hrun
  rw [Bool.and_eq_true, Bool.and_eq_true, decide_eq_true_eq, Option.any_eq_true] at hend
  obtain ⟨⟨hquiet, hpublished⟩, ⟨j, τ⟩, hslot, hend⟩ := hend
  rw [Bool.and_eq_true, decide_eq_true_eq] at hend
  obtain ⟨rfl, hmoved⟩ := hend
  obtain ⟨status, -, hone, -⟩ := h _ _ readyCluster _ _ s τ hs hquiet hslot rfl hmoved
  rw [hpublished] at hone
  cases hone

end Kubinate.Clusters
