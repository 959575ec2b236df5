import Kubinate.Clusters.RunRecord
import Kubinate.Clusters.Settling

/-!
# Destroyed clusters

A destroy deletes the row of its cluster softly and then sets the status to destroyed; both
stay. A destroy or a scale request reads the row before it does anything else, and no longer
finds it. So whoever comes after the end of a cluster changes nothing; runs that had read
the row before, or that do not read it, are not held back.

* `FinalCalls`: what the jobs may do with what they have read and deleted.
* `clusterJob_final`: they do nothing else, whatever the answers.
* `destroyed_stays_deleted`: a destroyed cluster is a deleted one and stays one, and a
  destroy or a scale request that begins afterwards leaves its status alone.
-/

namespace Kubinate.Clusters

open Platform Library

/-- The jobs that read the row of the cluster before anything else. -/
def ClusterJob.readsFirst : ClusterJob → Bool
  | .destroy | .scaleWorkers _ => true
  | .provision _ | .scaleOut .. | .scaleIn .. => false

/-- What a job has found and done. -/
structure FinalRecord where
  /-- it has found the row of the cluster -/
  found : Bool := false
  /-- it has deleted it -/
  deleted : Bool := false
deriving DecidableEq

namespace FinalRecord

def next (ρ : FinalRecord) : (c : CloudCall) → c.Answer → FinalRecord
  | .get, .ok _ => { ρ with found := true }
  | .softDelete, .ok () => { ρ with deleted := true }
  | _, _ => ρ

def ofTrace (h : Trace cloud) : FinalRecord := h.foldl (fun ρ e => ρ.next e.1 e.2) {}

theorem ofTrace_append (h : Trace cloud) (c : cloud.Call) (r : cloud.Answer c) :
    ofTrace (h ++ [⟨c, r⟩]) = (ofTrace h).next c r := by
  rw [ofTrace, List.foldl_append]
  rfl

end FinalRecord

/-- Only a destroy that has deleted the row sets the last status, and after the deletion it
sets no other. A job that reads first neither writes a status nor starts a run before it has
found the row. -/
def ClusterJob.FinalCalls (j : ClusterJob) (ρ : FinalRecord) : CloudCall → Prop
  | .updateStatus status _ =>
    (status = .destroyed → j = .destroy ∧ ρ.deleted = true) ∧
      (ρ.deleted = true → status = .destroyed) ∧ (j.readsFirst = true → ρ.found = true)
  | .spawn _ => j.readsFirst = true → ρ.found = true
  | .softDelete => j = .destroy
  | _ => True

/-! ## Jobs -/

/-- Calls that belong to no end of a cluster. -/
def CloudCall.isUsual : CloudCall → Bool
  | .softDelete | .updateStatus .destroyed _ => false
  | _ => true

def Usual (c : CloudCall) : Prop := c.isUsual = true

section Usual

variable {ε ε' α : Type}

theorem usual_call {c : CloudCall} (h : c.isUsual = true) : Makes (I := cloud) Usual (call c) :=
  makes_call h

theorem usual_of_isActivity (c : CloudCall) (h : IsActivity c) : Usual c := by
  cases c <;> first | exact absurd h Bool.false_ne_true | rfl

theorem usual_of_joined (c : CloudCall) (h : Joined c) : Usual c := usual_of_isActivity c h.1

theorem usual_outcomeOf {K : CloudCall → Prop} {p : Activity α} (h : Makes (I := cloud) K p.run)
    (hK : ∀ c, K c → Usual c) : Makes (I := cloud) Usual (outcomeOf p).run :=
  makes_lift (h.mono hK)

theorem usual_publishTerminal (status : ClusterStatus) (reason : Option String) :
    Makes (I := cloud) Usual (publishTerminal status reason) := by
  cases status with
  | ready | failed | destroyed => exact usual_call rfl
  | pending | provisioning | scaling | destroying => trivial

theorem usual_storeKubeconfig (kubeconfig : String) :
    Makes (I := cloud) Usual (ClusterService.storeKubeconfig kubeconfig).run := by
  unfold ClusterService.storeKubeconfig
  refine makes_bindE (makes_attempt (usual_call rfl)) fun secretId => ?_
  refine makes_bindE (makes_lift (usual_call rfl)) fun recorded => ?_
  cases recorded with
  | error err => exact makes_bindE (makes_ignore (usual_call rfl)) fun _ => trivial
  | ok _ => trivial

theorem usual_recordServers (role : ClusterNodeRole) (servers : List HetznerServer) :
    Makes (I := cloud) Usual (servers.forM (recordServer role)).run :=
  makes_forM (fun _ => makes_attempt (usual_call rfl)) servers

theorem usual_fail (reason message : String) :
    Makes (I := cloud) Usual
      (do
        ignore (call (.updateStatus .failed (some reason)))
        ignore (publishTerminal .failed (some reason))
        throw (.message message) : Run Unit).run := by
  refine makes_bindE (makes_ignore (usual_call rfl)) fun _ => ?_
  exact makes_bindE (makes_ignore (usual_publishTerminal _ _)) fun _ => trivial

theorem usual_runProvision {newV5 : String → Uuid} {clusterId : Uuid}
    (input : ProvisionClusterInput) :
    Makes (I := cloud) Usual (runProvision newV5 clusterId input).run := by
  unfold runProvision
  refine makes_bindE (makes_lift (usual_call rfl)) fun workflowRow => ?_
  refine makes_bindE (makes_attempt (usual_call rfl)) fun _ => ?_
  refine makes_bindE (makes_attempt (usual_call rfl)) fun _ => ?_
  refine makes_bindE (usual_outcomeOf
    (provisionCluster_makes (.inr ⟨workflowRow, rfl⟩) input) usual_of_isActivity) fun result => ?_
  cases result with
  | error err =>
    refine makes_bindE (makes_ignore (usual_call rfl)) fun _ => ?_
    refine makes_bindE (makes_ignore (usual_call rfl)) fun _ => ?_
    exact makes_bindE (makes_ignore (usual_publishTerminal _ _)) fun _ => trivial
  | ok output =>
    refine makes_bindE (makes_attempt (usual_call rfl)) fun _ => ?_
    refine makes_bindE (usual_recordServers _ _) fun _ => ?_
    refine makes_bindE (usual_storeKubeconfig _) fun _ => ?_
    refine makes_bindE (makes_attempt (usual_call rfl)) fun _ => ?_
    refine makes_bindE (makes_attempt (usual_call rfl)) fun _ => ?_
    exact makes_ignore (usual_publishTerminal _ _)

theorem usual_runScaleOut {newV5 : String → Uuid} {clusterId : Uuid} (count : Nat)
    (clusterName location serverType sshKey userData k3sVersion : String) :
    Makes (I := cloud) Usual (runScaleOut newV5 clusterId count clusterName location serverType
      sshKey userData k3sVersion).run := by
  unfold runScaleOut
  refine makes_bindE (makes_attempt (usual_call rfl)) fun _ => ?_
  refine makes_bindE (makes_attempt (usual_call rfl)) fun servers => ?_
  split
  · trivial
  split
  · trivial
  refine makes_bindE (makes_attempt (usual_call rfl)) fun joinToken => ?_
  refine makes_bindE (usual_outcomeOf (scaleOut_makes _) usual_of_joined) fun result => ?_
  cases result with
  | error err => exact usual_fail _ _
  | ok workers =>
    refine makes_bindE (usual_recordServers _ _) fun _ => ?_
    refine makes_bindE (makes_attempt (usual_call rfl)) fun _ => ?_
    exact makes_ignore (usual_publishTerminal _ _)

theorem usual_runScaleIn {clusterId : Uuid} (clusterName : String) (count : Nat) :
    Makes (I := cloud) Usual (runScaleIn clusterId clusterName count).run := by
  unfold runScaleIn
  refine makes_bindE (makes_attempt (usual_call rfl)) fun _ => ?_
  refine makes_bindE (makes_attempt (usual_call rfl)) fun servers => ?_
  refine makes_bindE ?_ fun kubeconfig => ?_
  · unfold ClusterService.fetchKubeconfig
    refine makes_bindE (makes_attempt (usual_call rfl)) fun secretId => ?_
    cases secretId with
    | none => trivial
    | some secretId => exact makes_attempt (usual_call rfl)
  refine makes_bindE (makes_lift (usual_call rfl)) fun fileId => ?_
  refine makes_bindE (makes_attempt (usual_call rfl)) fun _ => ?_
  refine makes_bindE (usual_outcomeOf (scaleIn_makes _ _) usual_of_joined) fun result => ?_
  refine makes_bindE (makes_ignore (usual_call rfl)) fun _ => ?_
  cases result with
  | error err => exact usual_fail _ _
  | ok _ =>
    refine makes_bindE (makes_forM (fun s => makes_ignore (usual_call rfl)) _) fun _ => ?_
    refine makes_bindE (makes_attempt (usual_call rfl)) fun _ => ?_
    exact makes_ignore (usual_publishTerminal _ _)

end Usual

section Jobs

open FinalRecord

variable {ρ : FinalRecord} {j : ClusterJob} {α β : Type}

/-- The row was found where it has to be, and is not deleted yet. -/
def FinalRecord.Before (j : ClusterJob) (ρ : FinalRecord) : Prop :=
  ρ.deleted = false ∧ (j.readsFirst = true → ρ.found = true)

theorem FinalRecord.Before.usual {c : CloudCall} (h : ρ.Before j) (hc : Usual c) :
    j.FinalCalls ρ c ∧ ∀ r, (ρ.next c r).Before j := by
  cases c with
  | get =>
    refine ⟨trivial, ?_⟩
    rintro (e | cluster)
    · exact h
    · exact ⟨h.1, fun _ => rfl⟩
  | softDelete => cases hc
  | updateStatus status reason =>
    refine ⟨⟨?_, ?_, h.2⟩, fun _ => h⟩
    · rintro rfl
      cases hc
    · intro hdeleted
      rw [h.1] at hdeleted
      cases hdeleted
  | spawn job => exact ⟨h.2, fun _ => h⟩
  | _ => exact ⟨trivial, fun _ => h⟩

/-- A part of a job after which the record satisfies `A`, unless the job ends there. -/
def Goes (j : ClusterJob) (A : FinalRecord → α → Prop) (p : Run α) (ρ : FinalRecord) : Prop :=
  Follows next j.FinalCalls (Post A fun _ _ => True) p.run ρ

theorem goes_bind {p : Run α} {f : α → Run β} {A : FinalRecord → α → Prop}
    {B : FinalRecord → β → Prop} (hp : Goes j A p ρ) (hf : ∀ ρ' a, A ρ' a → Goes j B (f a) ρ') :
    Goes j B (p >>= f) ρ :=
  follows_bindE hp hf fun _ _ _ => trivial

theorem goes_attempt {ε : Type} {convert : ε → RunError} {p : Program cloud (Except ε α)}
    {A : FinalRecord → α → Prop}
    (h : Follows next j.FinalCalls (Post A fun _ _ => True) p ρ) :
    Goes j A (attempt convert p) ρ := by
  refine follows_bind h ?_
  rintro ρ' (e | a) h
  · trivial
  · exact h

theorem goes_usual {p : Run α} (hp : Makes (I := cloud) Usual p.run) (h : ρ.Before j) :
    Goes j (fun ρ' _ => ρ'.Before j) p ρ := by
  refine (follows_of_makes (·.Before j) hp (fun _ _ hc h => h.usual hc) h).mono ?_
  rintro ρ' (e | a) h
  · trivial
  · exact h

/-- A part with nothing after it. -/
theorem goes_last {p : Run α} (hp : Makes (I := cloud) Usual p.run) (h : ρ.Before j) :
    Goes j (fun _ _ => True) p ρ := by
  refine Follows.mono (goes_usual hp h) ?_
  rintro ρ' (e | a) - <;> trivial

/-- Reading the row, before anything else. -/
theorem goes_get : Goes j (fun ρ' _ => ρ'.Before j) (repository (call .get)) {} := by
  refine goes_attempt ⟨trivial, ?_⟩
  rintro (e | cluster)
  · trivial
  · exact ⟨rfl, fun _ => rfl⟩

theorem finalizeDestroy_goes (h : ρ.Before .destroy) :
    Goes .destroy (fun _ _ => True) ClusterService.finalizeDestroy ρ := by
  have hrest : ∀ ρ' : FinalRecord, ρ'.Before .destroy → Goes .destroy (fun _ _ => True) (do
      repository (call .softDelete)
      repository (call (.updateStatus .destroyed none))) ρ' := by
    intro ρ' h
    refine goes_bind (A := fun ρ'' _ => ρ''.deleted = true ∧ ρ''.found = true)
      (goes_attempt ⟨rfl, ?_⟩) fun ρ'' _ h => ?_
    · rintro (e | ⟨⟩)
      · trivial
      · exact ⟨rfl, h.2 rfl⟩
    · refine goes_attempt ⟨⟨fun _ => ⟨rfl, h.1⟩, fun _ => rfl, fun _ => h.2⟩, ?_⟩
      rintro (e | ⟨⟩) <;> trivial
  unfold ClusterService.finalizeDestroy
  refine goes_bind (goes_usual (makes_attempt (usual_call rfl)) h) fun ρ' secretId h => ?_
  cases secretId with
  | none => exact hrest ρ' h
  | some secretId =>
    exact goes_bind (goes_usual (makes_ignore (usual_call rfl)) h) fun ρ' _ h => hrest ρ' h

theorem runDestroy_goes : Goes .destroy (fun _ _ => True) runDestroy {} := by
  unfold runDestroy
  refine goes_bind (A := fun ρ' _ => ρ'.Before .destroy) ?_ fun ρ₁ _ h₁ => ?_
  · unfold ClusterService.beginDestroy
    refine goes_bind goes_get fun ρ' cluster h => ?_
    refine follows_iteE (fun _ => trivial) fun _ => ?_
    exact goes_bind (goes_usual (makes_attempt (usual_call rfl)) h) fun _ _ h => h
  refine goes_bind (goes_usual (makes_attempt (usual_call rfl)) h₁) fun ρ₂ servers h₂ => ?_
  refine goes_bind (goes_usual (usual_outcomeOf (destroyCluster_makes _) usual_of_joined) h₂)
    fun ρ₃ result h₃ => ?_
  cases result with
  | error err => exact goes_last (usual_fail _ _) h₃
  | ok _ =>
    refine goes_bind (goes_usual (makes_attempt (usual_call rfl)) h₃) fun ρ₄ _ h₄ => ?_
    refine goes_bind (finalizeDestroy_goes h₄) fun ρ₅ _ _ => ?_
    exact ⟨trivial, fun _ => trivial⟩

theorem scaleWorkers_goes (settings : ClusterSettings) (delta : Int) :
    Goes (.scaleWorkers delta) (fun _ _ => True) (Clusters.scaleWorkers settings delta) {} := by
  unfold Clusters.scaleWorkers
  refine goes_bind goes_get fun ρ₁ cluster h₁ => ?_
  refine follows_iteE (fun _ => trivial) fun _ => ?_
  refine follows_iteE (fun _ => trivial) fun _ => ?_
  refine follows_iteE (fun _ => trivial) fun _ => ?_
  refine goes_bind (goes_usual (makes_attempt (usual_call rfl)) h₁) fun ρ₂ _ h₂ => ?_
  refine goes_bind (goes_usual (makes_attempt (usual_call rfl)) h₂) fun ρ₃ _ h₃ => ?_
  refine follows_iteE (fun _ => ?_) fun _ => ?_
  · exact ⟨h₃.2, fun _ => trivial⟩
  · exact ⟨h₃.2, fun _ => trivial⟩

/-- Whatever the answers, the jobs keep to `ClusterJob.FinalCalls`. -/
theorem clusterJob_final (D : Deployment) (j : ClusterJob) :
    Meets (I := cloud) (fun h c => j.FinalCalls (ofTrace h) c) (fun _ _ _ => True)
      (fun _ _ => True) (j.program D) [] := by
  have hrun : Goes j (fun _ _ => True) (j.run D) {} := by
    cases j with
    | destroy => exact runDestroy_goes
    | scaleWorkers delta => exact scaleWorkers_goes D.settings delta
    | provision input => exact goes_last (usual_runProvision input) ⟨rfl, fun h => by cases h⟩
    | scaleOut => exact goes_last (usual_runScaleOut _ _ _ _ _ _ _) ⟨rfl, fun h => by cases h⟩
    | scaleIn => exact goes_last (usual_runScaleIn _ _) ⟨rfl, fun h => by cases h⟩
  have hprogram : Follows next j.FinalCalls (fun _ _ => True) (j.program D) {} :=
    follows_bind hrun fun _ _ _ => trivial
  exact meets_of_follows (Q := fun _ _ => True) ofTrace_append (h := []) hprogram

end Jobs

/-! ## Every interleaving -/

section Final

open FinalRecord

variable {w w' : Cloud} {x : Outcome} {i : Nat} {c : CloudCall} {r : c.Answer}
  {js : List ClusterJob} {ρ : FinalRecord}

/-- The row of the cluster is softly deleted. -/
def Cloud.isDeleted (w : Cloud) : Bool := w.cluster.deletedAt.isSome

theorem Cloud.execute_deleted (h : w.isDeleted = true) : (w.execute i x c).1.isDeleted = true := by
  cases c with
  | recordServer =>
    simp only [Cloud.execute, Cloud.recordServer]
    split
    · exact h
    · split <;> exact h
  | setKubeconfigSecret =>
    simp only [Cloud.execute, Cloud.setKubeconfigSecret]
    split <;> exact h
  | softDelete =>
    simp only [Cloud.execute]
    split
    · rfl
    · exact h
  | insertWorkflowRow | deleteServer | deleteSecret =>
    simp only [Cloud.execute]
    split <;> exact h
  | _ => exact h

theorem Cloud.answer_deleted (h : w.isDeleted = true) (ha : w.answer i c x = some (w', r, js)) :
    w'.isDeleted = true := by
  obtain ⟨-, -, ⟨-, rfl, -⟩ | ⟨-, rfl, -⟩ | ⟨-, rfl, -⟩⟩ := Cloud.answer_cases ha
  · exact Cloud.execute_deleted h
  · exact h
  · exact Cloud.execute_deleted h

theorem Cloud.answer_status (hu : ∀ status reason, c ≠ .updateStatus status reason)
    (ha : w.answer i c x = some (w', r, js)) : w'.cluster.status = w.cluster.status := by
  have hstatus : (w.execute i x c).1.cluster.status = w.cluster.status := by
    by_cases hp : ∃ status reason, c = .publishTerminal status reason
    · obtain ⟨status, reason, rfl⟩ := hp
      rfl
    · exact (Cloud.execute_status hu fun status reason hc => hp ⟨status, reason, hc⟩).2
  obtain ⟨-, -, ⟨-, rfl, -⟩ | ⟨-, rfl, -⟩ | ⟨-, rfl, -⟩⟩ := Cloud.answer_cases ha
  · exact hstatus
  · rfl
  · exact hstatus

/-- Who believes to have deleted the row has deleted it. -/
theorem next_deleted (h : ρ.deleted = true → w.isDeleted = true)
    (ha : w.answer i c x = some (w', r, js)) (hd : (ρ.next c r).deleted = true) :
    w'.isDeleted = true := by
  by_cases hc : c = .softDelete
  · subst hc
    obtain ⟨-, -, ⟨-, rfl, -⟩ | ⟨-, rfl, rfl⟩ | ⟨-, rfl, -⟩⟩ := Cloud.answer_cases ha
    · simp only [Cloud.execute, Cloud.isDeleted]
      split
      · rfl
      · next hsome => exact Option.isSome_iff_ne_none.mpr (by simpa using hsome)
    · exact h hd
    · simp only [Cloud.execute, Cloud.isDeleted]
      split
      · rfl
      · next hsome => exact Option.isSome_iff_ne_none.mpr (by simpa using hsome)
  · have hsame : (ρ.next c r).deleted = ρ.deleted := by
      cases c with
      | softDelete => exact absurd rfl hc
      | get => cases r <;> rfl
      | _ => rfl
    rw [hsame] at hd
    exact Cloud.answer_deleted (h hd) ha

/-- A deleted row is not found any more. -/
theorem next_found (h : w.isDeleted = true) (hf : ρ.found = false)
    (ha : w.answer i c x = some (w', r, js)) : (ρ.next c r).found = false := by
  cases c with
  | get =>
    have hdeleted : w.cluster.deletedAt.isNone = false := by
      rw [← Option.not_isSome]
      exact congrArg not h
    obtain ⟨-, -, ⟨-, -, rfl⟩ | ⟨-, -, rfl⟩ | ⟨-, -, rfl⟩⟩ := Cloud.answer_cases ha
    · simp only [Cloud.execute, hdeleted]
      exact hf
    · exact hf
    · exact hf
  | softDelete => cases r <;> exact hf
  | _ => exact hf

/-- The last status is set on a deleted row. -/
theorem deleted_of_destroyed {j : ClusterJob}
    (hw : w.cluster.status = .destroyed → w.isDeleted = true)
    (hρ : ρ.deleted = true → w.isDeleted = true) (hP : j.FinalCalls ρ c)
    (ha : w.answer i c x = some (w', r, js)) (hd : w'.cluster.status = .destroyed) :
    w'.isDeleted = true := by
  refine Cloud.answer_deleted ?_ ha
  by_cases hu : ∃ status reason, c = .updateStatus status reason
  · obtain ⟨status, reason, rfl⟩ := hu
    obtain ⟨-, -, ⟨-, rfl, -⟩ | ⟨-, rfl, -⟩ | ⟨-, rfl, -⟩⟩ := Cloud.answer_cases ha
    · exact hρ (hP.1 hd).2
    · exact hw hd
    · exact hρ (hP.1 hd).2
  · rw [Cloud.answer_status (fun status reason hc => hu ⟨status, reason, hc⟩) ha] at hd
    exact hw hd

/-- The record of a slot, empty where nothing was started. -/
def FinalRecord.ofSlot : Option (ClusterJob × Trace cloud) → FinalRecord
  | none => {}
  | some (_, τ) => ofTrace τ

/-- A job that has deleted the row finds it deleted. -/
def DeletedFirst (w : Cloud) (_ : Nat) (slot : Option (ClusterJob × Trace cloud)) : Prop :=
  (ofSlot slot).deleted = true → w.isDeleted = true

/-- Slots from `n` on have not found the row. -/
def NotFound (n : Nat) (_ : Cloud) (i : Nat) (slot : Option (ClusterJob × Trace cloud)) : Prop :=
  n ≤ i → (ofSlot slot).found = false

variable {D : Deployment} {external : ClusterJob → Bool} {as : List (Act ClusterJob Outcome)}
  {s s' : PoolState cloud Cloud ClusterJob Unit}

/-- What is known of every state of every run on one cluster. -/
theorem deletedFirst_exec (hw : w.cluster.status = .destroyed → w.isDeleted = true)
    (h : (runnerPool D external).exec (Pool.init w) as = some s) :
    Pool.Slots (fun j τ c => j.FinalCalls (ofTrace τ) c) (fun _ _ _ => True)
      (fun w => w.cluster.status = .destroyed → w.isDeleted = true) DeletedFirst s := by
  refine Pool.exec_slots (C := fun _ _ => true) (clusterJob_final D) (fun _ _ _ _ _ h => by cases h)
    ?_ (Pool.slots_init hw fun _ h => by cases h) (Pool.allSteps_of_forall fun _ _ _ => rfl) h
  intro s i x t c w' r js hs _ ht _ hP ha
  have hslot := hs.slot i
  rw [PoolState.slot_of_getElem? ht] at hslot
  refine ⟨?_, ?_, fun k _ hd => Cloud.answer_deleted (hs.slot k hd) ha⟩
  · exact deleted_of_destroyed hs.world hslot hP ha
  · show (ofTrace (t.trace ++ [⟨c, r⟩])).deleted = true → _
    rw [ofTrace_append]
    exact next_deleted hslot ha

/-- After the deletion nobody finds the row, apart from those who had found it before. -/
theorem notFound_exec
    (hs : Pool.Slots (fun j τ c => j.FinalCalls (ofTrace τ) c) (fun _ _ _ => True)
      (fun w => w.cluster.status = .destroyed → w.isDeleted = true) DeletedFirst s)
    (hdeleted : s.world.isDeleted = true)
    (h : (runnerPool D external).exec s as = some s') :
    Pool.Slots (fun j τ c => j.FinalCalls (ofTrace τ) c) (fun _ _ _ => True)
      (fun w => w.isDeleted = true) (NotFound s.threads.length) s' := by
  have h0 : Pool.Slots (fun j τ c => j.FinalCalls (ofTrace τ) c) (fun _ _ _ => True)
      (fun w => w.isDeleted = true) (NotFound s.threads.length) s := by
    refine ⟨hdeleted, fun i hi => ?_, hs.meets⟩
    rw [PoolState.slot, List.getElem?_eq_none hi]
    rfl
  refine Pool.exec_slots (C := fun _ _ => true) (clusterJob_final D) (fun _ _ _ _ _ _ => rfl) ?_ h0
    (Pool.allSteps_of_forall fun _ _ _ => rfl) h
  intro s' i x t c w' r js hs' _ ht _ _ ha
  refine ⟨Cloud.answer_deleted hs'.world ha, fun hi => ?_, fun k _ hk => hs'.slot k hk⟩
  have hslot := hs'.slot i hi
  rw [PoolState.slot_of_getElem? ht] at hslot
  show (ofTrace (t.trace ++ [⟨c, r⟩])).found = false
  rw [ofTrace_append]
  exact next_found hs'.world hslot ha

/-- One call of a job that has not found the row, or has deleted it. -/
theorem status_of_finalCalls {j : ClusterJob} (hP : j.FinalCalls ρ c)
    (ha : w.answer i c x = some (w', r, js)) :
    (ρ.deleted = true → w'.cluster.status = w.cluster.status ∨ w'.cluster.status = .destroyed) ∧
      (j.readsFirst = true → ρ.found = false →
        w'.cluster.status = w.cluster.status ∧ js = []) := by
  have hjs := (Cloud.answer_cases ha).2.1
  cases c with
  | updateStatus status reason =>
    obtain ⟨-, hlast, hfound⟩ := hP
    constructor
    · intro hdeleted
      obtain rfl := hlast hdeleted
      obtain ⟨-, -, ⟨-, rfl, -⟩ | ⟨-, rfl, -⟩ | ⟨-, rfl, -⟩⟩ := Cloud.answer_cases ha
      · exact .inr rfl
      · exact .inl rfl
      · exact .inr rfl
    · intro hreads hnot
      rw [hfound hreads] at hnot
      cases hnot
  | spawn job =>
    refine ⟨fun _ => .inl (Cloud.answer_status (by simp) ha), fun hreads hnot => ?_⟩
    rw [hP hreads] at hnot
    cases hnot
  | _ =>
    have hsame := Cloud.answer_status (by simp) ha
    exact ⟨fun _ => .inl hsame, fun _ _ => ⟨hsame, hjs⟩⟩

/-- Once a cluster is destroyed or deleted it is deleted for good. The destroy that has
deleted it sets no status but destroyed, and a destroy or a scale request that begins
afterwards changes no status and starts no run. -/
theorem destroyed_stays_deleted {as₁ as₂ : List (Act ClusterJob Outcome)}
    {s₁ s₂ s₃ : PoolState cloud Cloud ClusterJob Unit} {j : ClusterJob} {τ : Trace cloud}
    (hw : w.cluster.status = .destroyed → w.isDeleted = true)
    (h₁ : (runnerPool D external).exec (Pool.init w) as₁ = some s₁)
    (hend : s₁.world.cluster.status = .destroyed ∨ s₁.world.isDeleted = true)
    (h₂ : (runnerPool D external).exec s₁ as₂ = some s₂)
    (h₃ : (runnerPool D external).step s₂ (.step i x) = some s₃)
    (hslot : s₂.slot i = some (j, τ)) :
    s₁.world.isDeleted = true ∧ s₃.world.isDeleted = true ∧
      ((ofTrace τ).deleted = true →
        s₃.world.cluster.status = s₂.world.cluster.status ∨
          s₃.world.cluster.status = .destroyed) ∧
      (s₁.threads.length ≤ i → j.readsFirst = true →
        s₃.world.cluster.status = s₂.world.cluster.status ∧
          s₃.threads.length = s₂.threads.length) := by
  have hs₁ := deletedFirst_exec hw h₁
  have hdeleted : s₁.world.isDeleted = true := by
    rcases hend with hdestroyed | hdeleted
    · exact hs₁.world hdestroyed
    · exact hdeleted
  have hs₂ := notFound_exec hs₁ hdeleted h₂
  obtain ⟨t, c, k, w', r, js, ht, hc, ha, rfl⟩ := Pool.step_step.mp h₃
  obtain ⟨rfl, rfl⟩ := Prod.mk.inj (Option.some.inj
    ((PoolState.slot_of_getElem? ht).symm.trans hslot))
  have hm := hs₂.meets t (List.mem_of_getElem? ht)
  rw [hc] at hm
  obtain ⟨hlast, hfresh⟩ := status_of_finalCalls hm.1 ha
  refine ⟨hdeleted, Cloud.answer_deleted hs₂.world ha, hlast, fun hi hreads => ?_⟩
  have hnot := hs₂.slot i hi
  rw [PoolState.slot_of_getElem? ht] at hnot
  obtain ⟨hstatus, rfl⟩ := hfresh hreads hnot
  refine ⟨hstatus, ?_⟩
  rw [List.map_nil, List.append_nil, List.length_set]

end Final

/-- A destroy up to the deletion of the row. -/
def untilDeleted : List (Act ClusterJob Outcome) := alone .destroy (List.replicate 9 {})

/-- The destroy that has deleted the row sets the status afterwards. -/
theorem not_destroyed_is_final :
    ¬ ∀ (D : Deployment) (external : ClusterJob → Bool) (w : Cloud)
      (as₁ as₂ : List (Act ClusterJob Outcome)) (s₁ s₂ s₃ : PoolState cloud Cloud ClusterJob Unit)
      (i : Nat) (x : Outcome),
      (w.cluster.status = .destroyed → w.isDeleted = true) →
      (runnerPool D external).exec (Pool.init w) as₁ = some s₁ →
      (s₁.world.cluster.status = .destroyed ∨ s₁.world.isDeleted = true) →
      (runnerPool D external).exec s₁ as₂ = some s₂ →
      (runnerPool D external).step s₂ (.step i x) = some s₃ →
      s₃.world.cluster.status = s₂.world.cluster.status := by
  intro h
  have hrun : ((runnerPool seventhCluster fun _ => true).exec (Pool.init readyCluster)
      untilDeleted).any (fun s => s.world.isDeleted &&
        ((runnerPool seventhCluster fun _ => true).step s (.step 0 {})).any fun s' =>
          decide (s.world.cluster.status = .destroying ∧ s'.world.cluster.status = .destroyed)) =
        true := by decide +kernel
  obtain ⟨s, hs, hend⟩ := (Option.any_eq_true _ _).mp hrun
  rw [Bool.and_eq_true, Option.any_eq_true] at hend
  obtain ⟨hdeleted, s', hstep, hstatus⟩ := hend
  obtain ⟨hbefore, hafter⟩ := of_decide_eq_true hstatus
  have hsame := h _ _ readyCluster untilDeleted [] s s s' 0 {} (by decide) hs (.inr hdeleted) rfl hstep
  rw [hbefore, hafter] at hsame
  cases hsame

/-- A destroy that has run to its end, and another one that begins after it. -/
theorem destroyed_stays_deleted_twice :
    ∃ s₁ s₂ s₃, (runnerPool seventhCluster fun _ => true).exec (Pool.init readyCluster)
        (alone .destroy (List.replicate 11 {})) = some s₁ ∧
      (runnerPool seventhCluster fun _ => true).exec s₁ [.start .destroy] = some s₂ ∧
      (runnerPool seventhCluster fun _ => true).step s₂ (.step 1 {}) = some s₃ ∧
      s₁.world.cluster.status = .destroyed ∧ s₃.world.isDeleted = true ∧
      s₃.world.cluster.status = s₂.world.cluster.status ∧
      s₃.threads.length = s₂.threads.length := by
  have hrun : ((runnerPool seventhCluster fun _ => true).exec (Pool.init readyCluster)
      (alone .destroy (List.replicate 11 {}))).any (fun s₁ =>
        decide (s₁.world.cluster.status = .destroyed ∧ s₁.threads.length ≤ 1) &&
        ((runnerPool seventhCluster fun _ => true).exec s₁ [.start .destroy]).any fun s₂ =>
          ((runnerPool seventhCluster fun _ => true).step s₂ (.step 1 {})).isSome &&
            (s₂.slot 1).any fun p => p.1.readsFirst) = true := by decide +kernel
  obtain ⟨s₁, h₁, hend⟩ := (Option.any_eq_true _ _).mp hrun
  rw [Bool.and_eq_true, decide_eq_true_eq, Option.any_eq_true] at hend
  obtain ⟨⟨hdestroyed, hlength⟩, s₂, h₂, hnext⟩ := hend
  rw [Bool.and_eq_true, Option.isSome_iff_exists, Option.any_eq_true] at hnext
  obtain ⟨⟨s₃, h₃⟩, ⟨j, τ⟩, hslot, hreads⟩ := hnext
  obtain ⟨-, hdeleted, -, hsame⟩ :=
    destroyed_stays_deleted (by decide) h₁ (.inl hdestroyed) h₂ h₃ hslot
  exact ⟨s₁, s₂, s₃, h₁, h₂, h₃, hdestroyed, hdeleted, hsame hlength hreads⟩

end Kubinate.Clusters
