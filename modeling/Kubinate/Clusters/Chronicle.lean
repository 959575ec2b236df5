import Kubinate.Clusters.Inventory
import Kubinate.Clusters.Provisioning

/-!
# A cluster with its history

The tables of a cluster next to everything that was called and answered so far: which servers
were created, under which names, and what the rows of `cluster_servers` make of them.

* `Answered`: how a call may go, with the history that it continues; `Achieves step s p A` is a
  specification of a part of a run whose calls go in some of these ways.
* `Keyed`: no two rows share their id, and no two live ones their server id.
* `achieves_workflow`: a workflow that provisions goes a course and leaves the rows alone.
-/

namespace Kubinate.Clusters

open Platform Library

abbrev Chronicle := Cloud × Trace cloud

/-- A call that is answered in some way, and remembered. -/
def Answered (s : Chronicle) (c : cloud.Call) (r : cloud.Answer c) (s' : Chronicle) : Prop :=
  (∃ i x js, s.1.answer i c x = some (s'.1, r, js)) ∧ s'.2 = s.2 ++ [⟨c, r⟩]

/-- The servers that were created, each with the name it was given, oldest first. -/
def createdAs (h : Trace cloud) : List (Nat × String) :=
  h.filterMap fun
    | ⟨.createServer params, .ok id⟩ => some (id, params.name)
    | _ => none

/-- The calls that touch the rows of the servers. -/
def CloudCall.isRows : CloudCall → Bool
  | .recordServer .. | .softDeleteServers | .softDeleteServerRow _ => true
  | _ => false

def CloudCall.isCreation : CloudCall → Bool
  | .createServer _ => true
  | _ => false

@[simp] theorem createdAs_append (h h' : Trace cloud) :
    createdAs (h ++ h') = createdAs h ++ createdAs h' :=
  List.filterMap_append

theorem createdAs_concat_of_not {h : Trace cloud} {c : CloudCall} {r : c.Answer}
    (hc : c.isCreation = false) : createdAs (h ++ [⟨c, r⟩]) = createdAs h := by
  rw [createdAs_append]
  cases c with
  | createServer params => cases hc
  | _ => exact List.append_nil _

/-! ## Rows -/

namespace Cloud

variable {w w' : Cloud} {i : Nat} {c : CloudCall} {x : Outcome} {r : c.Answer}
  {js : List ClusterJob}

theorem execute_servers (hc : c.isRows = false) : (w.execute i x c).1.servers = w.servers := by
  cases c with
  | recordServer hetznerServerId role publicIpv4 privateIpv4 => cases hc
  | softDeleteServers => cases hc
  | softDeleteServerRow id => cases hc
  | setKubeconfigSecret secretId =>
    simp only [execute, setKubeconfigSecret]
    split <;> rfl
  | insertWorkflowRow id =>
    simp only [execute]
    split <;> rfl
  | deleteSecret id =>
    simp only [execute]
    split <;> rfl
  | deleteServer id =>
    simp only [execute]
    split <;> rfl
  | _ => rfl

theorem answer_servers (hc : c.isRows = false) (h : w.answer i c x = some (w', r, js)) :
    w'.servers = w.servers := by
  obtain ⟨-, -, ⟨-, rfl, -⟩ | ⟨-, rfl, -⟩ | ⟨-, rfl, -⟩⟩ := answer_cases h
  · exact execute_servers hc
  · rfl
  · exact execute_servers hc

/-- Rows are told apart by their id, live ones also by the id of their server. -/
structure Keyed (w : Cloud) : Prop where
  ids : (w.servers.map (·.id)).Nodup
  serverIds : (w.liveServers.map (·.hetznerServerId)).Nodup

theorem Keyed.of_eq (h : w.Keyed) (hservers : w'.servers = w.servers) : w'.Keyed where
  ids := hservers ▸ h.ids
  serverIds := by
    rw [liveServers, hservers]
    exact h.serverIds

/-- What is live after a deletion. -/
theorem liveServers_softDelete {p : ClusterServer → Bool} {now : Timestamp}
    (hservers : w'.servers = w.servers.map (ClusterServer.softDelete p now)) :
    w'.liveServers = w.liveServers.filter fun r => !p r := by
  rw [liveServers, liveServers, hservers, List.filter_map, List.filter_filter]
  have hfilter : (w.servers.filter ((·.isLive) ∘ ClusterServer.softDelete p now)) =
      w.servers.filter fun r => !p r && r.isLive := by
    refine List.filter_congr fun r _ => ?_
    simp only [Function.comp, ClusterServer.softDelete]
    by_cases hp : p r = true
    · rw [if_pos hp, hp]
      rfl
    · have hp' : p r = false := Bool.eq_false_of_not_eq_true hp
      rw [if_neg hp, hp']
      rfl
  rw [hfilter]
  conv_rhs => rw [← List.map_id (w.servers.filter _)]
  refine List.map_congr_left fun r hr => ?_
  have hp := (List.mem_filter.mp hr).2
  rw [Bool.and_eq_true, Bool.not_eq_true'] at hp
  exact ClusterServer.softDelete_of_not hp.1

theorem Keyed.softDelete (h : w.Keyed) {p : ClusterServer → Bool} {now : Timestamp}
    (hservers : w'.servers = w.servers.map (ClusterServer.softDelete p now)) : w'.Keyed where
  ids := by
    have hid : (fun r : ClusterServer => r.id) ∘ ClusterServer.softDelete p now = (·.id) :=
      funext fun r => r.softDelete_id
    rw [hservers, List.map_map, hid]
    exact h.ids
  serverIds := by
    rw [liveServers_softDelete hservers]
    exact h.serverIds.sublist (List.filter_sublist.map _)

/-- What recording a server does when it is answered. -/
theorem recordServer_cases {hid : Nat} {role : ClusterNodeRole} {pub priv : Option String} :
    (w.recordServer x hid role pub priv).1 = w ∨
      w.hasLiveRow hid = false ∧ (∀ r ∈ w.servers, r.id ≠ x.id) ∧
        (w.recordServer x hid role pub priv).1.servers =
          w.servers ++ [⟨x.id, hid, role, pub, priv, x.now, none⟩] := by
  unfold Cloud.recordServer
  split
  · exact .inl rfl
  next hlive =>
  split
  · exact .inl rfl
  next hfree =>
  refine .inr ⟨by simpa [hasLiveRow] using hlive, ?_, rfl⟩
  intro r hr hid
  exact hfree (List.any_eq_true.mpr ⟨r, hr, beq_iff_eq.mpr hid⟩)

/-- A server that is recorded and had no row has the last one. -/
theorem recordServer_ok {hid : Nat} {role : ClusterNodeRole} {pub priv : Option String}
    (hfree : w.hasLiveRow hid = false) (hok : (w.recordServer x hid role pub priv).2 = .ok ()) :
    (w.recordServer x hid role pub priv).1.servers =
      w.servers ++ [⟨x.id, hid, role, pub, priv, x.now, none⟩] := by
  unfold Cloud.recordServer at hok ⊢
  rw [hasLiveRow] at hfree
  rw [hfree] at hok ⊢
  by_cases hused : (w.servers.any (·.id == x.id)) = true
  · rw [if_neg Bool.false_ne_true, if_pos hused] at hok
    cases hok
  · rw [if_neg Bool.false_ne_true, if_neg hused]

theorem Keyed.concat (h : w.Keyed) {r : ClusterServer} (hservers : w'.servers = w.servers ++ [r])
    (hlive : w.hasLiveRow r.hetznerServerId = false) (hid : ∀ r' ∈ w.servers, r'.id ≠ r.id) :
    w'.Keyed where
  ids := by
    rw [hservers, List.map_append, List.nodup_append]
    refine ⟨h.ids, List.nodup_singleton _, ?_⟩
    simpa using hid
  serverIds := by
    rw [liveServers, hservers, List.filter_append, List.map_append, List.nodup_append]
    refine ⟨h.serverIds, ?_, ?_⟩
    · exact (List.nodup_singleton r.hetznerServerId).sublist
        (List.filter_sublist (l := [r]) |>.map (·.hetznerServerId))
    · intro a ha b hb hab
      obtain ⟨r₁, hr₁, rfl⟩ := List.mem_map.mp ha
      obtain ⟨r₂, hr₂, rfl⟩ := List.mem_map.mp hb
      obtain rfl := List.mem_singleton.mp (List.mem_of_mem_filter hr₂)
      obtain ⟨hmem, hr₁⟩ := List.mem_filter.mp hr₁
      have hhas : w.hasLiveRow r₂.hetznerServerId = true :=
        hasLiveRow_iff.mpr ⟨r₁, hmem, hr₁, hab⟩
      rw [hlive] at hhas
      cases hhas

theorem Keyed.execute (h : w.Keyed) (c : CloudCall) : (w.execute i x c).1.Keyed := by
  by_cases hc : c.isRows = false
  · exact h.of_eq (execute_servers hc)
  · cases c with
    | recordServer hid role pub priv =>
      rcases @recordServer_cases w x hid role pub priv with hsame | ⟨hlive, hfree, hservers⟩
      · exact hsame.symm ▸ h
      · exact h.concat hservers hlive hfree
    | softDeleteServers => exact h.softDelete rfl
    | softDeleteServerRow id => exact h.softDelete rfl
    | _ => exact absurd rfl hc

theorem Keyed.answer (h : w.Keyed) (ha : w.answer i c x = some (w', r, js)) : w'.Keyed := by
  obtain ⟨-, -, ⟨-, rfl, -⟩ | ⟨-, rfl, -⟩ | ⟨-, rfl, -⟩⟩ := answer_cases ha
  · exact h.execute c
  · exact h
  · exact h.execute c

end Cloud

/-! ## Names -/

def workerName (clusterName : String) (index : Nat) : String :=
  clusterName ++ "-worker-" ++ twoDigits index

theorem createdAs_eq_nil {τ : Trace cloud} (h : ∀ e ∈ τ, e.1.isCreation = false) :
    createdAs τ = [] := by
  rw [createdAs, List.filterMap_eq_nil_iff]
  intro e he
  obtain ⟨c, r⟩ := e
  have hc := h _ he
  cases c with
  | createServer params => cases hc
  | _ => rfl

theorem createdAs_creations {newV5 : String → Uuid} {clusterId : Uuid}
    {input : ProvisionClusterInput} (ids : List Nat) :
    createdAs (creations newV5 clusterId input ids) =
      ids.zipIdx.map fun p => (p.1, workerName input.clusterName p.2) := by
  induction ids using List.reverseRecOn with
  | nil => rfl
  | append_singleton ids id ih =>
    rw [creations_concat, createdAs_append, ih, List.zipIdx_append, List.map_append, Nat.zero_add]
    rfl

/-- The control plane and the workers in order. -/
theorem createdAs_trace {newV5 : String → Uuid} {clusterId : Uuid}
    {input : ProvisionClusterInput} (σ : Course) :
    createdAs (σ.trace newV5 clusterId input) =
      (σ.controlPlane.id, input.clusterName ++ "-cp-01") ::
        (σ.workers.map (·.id)).zipIdx.map fun p => (p.1, workerName input.clusterName p.2) := by
  have hpolls (b : Boot) : createdAs b.polls = [] := createdAs_eq_nil fun e he => by
    obtain ⟨state, -, rfl⟩ := List.mem_map.mp he
    rfl
  have hworkers : createdAs (σ.workers.flatMap Boot.polls) = [] := createdAs_eq_nil fun e he => by
    obtain ⟨b, -, he⟩ := List.mem_flatMap.mp he
    obtain ⟨state, -, rfl⟩ := List.mem_map.mp he
    rfl
  have hjoins : createdAs (joins input σ.address (trim σ.token) σ.joined) = [] :=
    createdAs_eq_nil fun e he => by
      obtain ⟨p, -, rfl⟩ := List.mem_map.mp he
      rfl
  have hend : createdAs (σ.kubeconfig.toList.map fun raw =>
      (⟨.sshRun ⟨σ.host, "kubinate"⟩ kubeconfigCommand, .ok raw⟩ :
        Σ c : cloud.Call, cloud.Answer c)) = [] := createdAs_eq_nil fun e he => by
    obtain ⟨raw, -, rfl⟩ := List.mem_map.mp he
    rfl
  have hopening : createdAs (opening clusterId input σ.controlPlane σ.host σ.installed σ.token) =
      [(σ.controlPlane.id, input.clusterName ++ "-cp-01")] := by
    rw [opening, ← List.singleton_append, createdAs_append, createdAs_append, hpolls]
    rfl
  rw [Course.trace_eq, createdAs_append, createdAs_append, createdAs_append, createdAs_append,
    hworkers, hjoins, hend, List.append_nil, List.append_nil, List.append_nil, hopening,
    createdAs_creations]
  rfl

/-! ## Runs -/

/-- What the workflow does at the provider and on the servers. -/
def deeds (h : Trace cloud) : Trace cloud := h.filter fun e => e.1.isActivity && !e.1.isProgress

theorem deeds_concat {h : Trace cloud} {c : cloud.Call} {r : cloud.Answer c}
    (hc : c.isActivity = true) : deeds (h ++ [⟨c, r⟩]) = record (deeds h) c r := by
  unfold deeds record
  rw [List.filter_append]
  by_cases hp : c.isProgress = true
  · rw [if_pos hp, List.filter_cons_of_neg (by simpa [hc] using hp), List.filter_nil,
      List.append_nil]
  · rw [if_neg hp, List.filter_cons_of_pos (by simpa [hc] using hp), List.filter_nil]

theorem deeds_concat_of_not {h : Trace cloud} {c : cloud.Call} {r : cloud.Answer c}
    (hc : c.isActivity = false) : deeds (h ++ [⟨c, r⟩]) = deeds h := by
  unfold deeds
  rw [List.filter_append, List.filter_cons_of_neg (by simp [hc]), List.filter_nil, List.append_nil]

theorem createdAs_deeds (h : Trace cloud) : createdAs (deeds h) = createdAs h := by
  rw [createdAs, deeds, List.filterMap_filter, createdAs]
  refine List.filterMap_congr fun e _ => ?_
  obtain ⟨c, r⟩ := e
  cases c with
  | createServer params => rfl
  | _ => exact ite_self none

theorem isRows_of_isActivity {c : CloudCall} (h : c.isActivity = true) : c.isRows = false := by
  cases c with
  | recordServer hid role pub priv => cases h
  | softDeleteServers => cases h
  | softDeleteServerRow id => cases h
  | _ => rfl

/-- Calls that are none of the workflow and touch no rows. -/
def Aside (c : CloudCall) : Prop := c.isActivity = false ∧ c.isRows = false

theorem storeKubeconfig_aside (kubeconfig : String) :
    Makes (I := cloud) Aside (ClusterService.storeKubeconfig kubeconfig).run := by
  refine makes_bindE (makes_attempt (makes_call ⟨rfl, rfl⟩)) fun secretId => ?_
  refine makes_bindE (makes_lift (makes_call ⟨rfl, rfl⟩)) ?_
  rintro (e | ⟨⟩)
  · exact makes_bindE (makes_ignore (makes_call ⟨rfl, rfl⟩)) fun _ => trivial
  · trivial

def Course.servers (σ : Course) : List (ClusterNodeRole × Boot) :=
  (.controlPlane, σ.controlPlane) :: σ.workers.map fun b => (.worker, b)

section Runs

variable (step : Chronicle → (c : cloud.Call) → cloud.Answer c → Chronicle → Prop)

/-- The part of a run ends in `A`, or in a failure. -/
def Achieves {ε α : Type} (s : Chronicle) (p : ExceptT ε (Program cloud) α)
    (A : Chronicle → α → Prop) : Prop :=
  Always step (Post A fun _ _ => True) p.run s

variable {step} {s : Chronicle} {ε α β : Type}

theorem achieves_bind {p : ExceptT ε (Program cloud) α} {f : α → ExceptT ε (Program cloud) β}
    {A : Chronicle → α → Prop}
    {B : Chronicle → β → Prop} (hp : Achieves step s p A)
    (hf : ∀ s' a, A s' a → Achieves step s' (f a) B) : Achieves step s (p >>= f) B :=
  always_bindE hp hf fun _ _ _ => trivial

theorem Achieves.mono {p : ExceptT ε (Program cloud) α} {A B : Chronicle → α → Prop}
    (hp : Achieves step s p A) (h : ∀ s' a, A s' a → B s' a) : Achieves step s p B := by
  refine Always.mono hp ?_
  rintro s' (e | a) hend
  · trivial
  · exact h s' a hend

theorem Achieves.leads {p : ExceptT ε (Program cloud) α} {A : Chronicle → α → Prop}
    {s' : Chronicle} {a : α} (hp : Achieves step s p A) (h : Leads step p.run s s' (.ok a)) :
    A s' a :=
  Always.leads (Q := Post A fun _ _ => True) hp h

/-- What is known at every moment is known at the end. -/
theorem Achieves.and {p : ExceptT ε (Program cloud) α} {A : Chronicle → α → Prop}
    {Inv : Chronicle → Prop} (hp : Achieves step s p A) (hInv : ∀ s c r s', Inv s → step s c r s' → Inv s') (hs : Inv s) :
    Achieves step s p fun s' a => Inv s' ∧ A s' a := by
  have hkept : Always step (fun s' _ => Inv s') p.run s :=
    always_of_makes (makes_true _) (fun _ _ _ _ _ h hstep => hInv _ _ _ _ h hstep) hs
  refine (hkept.and hp).mono ?_
  rintro s' (e | a) ⟨hs', hend⟩
  · trivial
  · exact ⟨hs', hend⟩

/-- The result of a workflow, to be looked at. -/
theorem achieves_outcomeOf {p : Activity α} {A : Chronicle → α → Prop}
    (hp : Achieves step s p A) :
    Achieves step s (outcomeOf p) fun s' r => ∀ a, r = .ok a → A s' a := by
  refine always_lift (Always.mono hp ?_)
  rintro s' (e | a) hend
  · exact nofun
  · rintro b ⟨⟩
    exact hend

variable (hanswered : ∀ s c r s', step s c r s' → Answered s c r s')

include hanswered

theorem achieves_aside {p : ExceptT ε (Program cloud) α} (hp : Makes (I := cloud) Aside p.run) :
    Achieves step s p fun s' _ => deeds s'.2 = deeds s.2 ∧ s'.1.servers = s.1.servers := by
  have hkept : Always step
      (fun s' _ => deeds s'.2 = deeds s.2 ∧ s'.1.servers = s.1.servers) p.run s := by
    refine always_of_makes hp ?_ ⟨rfl, rfl⟩
    rintro s₁ c r s₂ ⟨hactivity, hrows⟩ ⟨hdeeds, hservers⟩ hstep
    obtain ⟨⟨i, x, js, hanswer⟩, htrace⟩ := hanswered _ _ _ _ hstep
    refine ⟨?_, (Cloud.answer_servers hrows hanswer).trans hservers⟩
    rw [htrace, deeds_concat_of_not hactivity, hdeeds]
  refine hkept.mono ?_
  rintro s' (e | a) hend
  · trivial
  · exact hend

/-- The workflow: it goes a course, and leaves the rows alone. -/
theorem achieves_workflow {newV5 : String → Uuid} {clusterId : Uuid}
    {input : ProvisionClusterInput} (workflowId : Uuid) (hdeeds : deeds s.2 = []) :
    Achieves step s
      (outcomeOf (provisionCluster newV5 clusterId (workflowProgress workflowId) input))
      fun s' r => s'.1.servers = s.1.servers ∧ ∀ out, r = .ok out →
        ∃ σ : Course, σ.Valid input ∧ ∃ raw, out = σ.output raw ∧
          deeds s'.2 = σ.trace newV5 clusterId input := by
  refine always_lift ?_
  have hmakes := @provisionCluster_makes newV5 clusterId _ (.inr ⟨workflowId, rfl⟩) input
  have hrows : Always step (fun s' _ => s'.1.servers = s.1.servers)
      (provisionCluster newV5 clusterId (workflowProgress workflowId) input).run s := by
    refine always_of_makes hmakes ?_ rfl
    intro s₁ c r s₂ hc hsame hstep
    obtain ⟨⟨i, x, js, hanswer⟩, -⟩ := hanswered _ _ _ _ hstep
    rw [Cloud.answer_servers (isRows_of_isActivity hc) hanswer, hsame]
  have hcourse := @keepsTo_provisionCluster newV5 clusterId input workflowId
  rw [← hdeeds] at hcourse
  have hdeed (s₁ : Chronicle) (c : cloud.Call) (r : cloud.Answer c) (s₂ : Chronicle)
      (hc : IsActivity c) (hstep : step s₁ c r s₂) : deeds s₂.2 = record (deeds s₁.2) c r := by
    rw [(hanswered _ _ _ _ hstep).2]
    exact deeds_concat hc
  have hdone := always_of_follows (f := fun s : Chronicle => deeds s.2) hcourse hmakes hdeed
  refine (hrows.and hdone).mono ?_
  rintro s' (e | out) ⟨hsame, hend⟩
  · exact ⟨hsame, nofun⟩
  · refine ⟨hsame, ?_⟩
    rintro out ⟨⟩
    obtain ⟨σ, hσ, raw, -, htrace, rfl⟩ := hend
    exact ⟨σ, hσ, raw, rfl, htrace⟩

omit hanswered in
/-- The workers are recorded one after the other: `Rec` holds with what is recorded. -/
theorem achieves_recordWorkers {Rec : List (ClusterNodeRole × Boot) → Chronicle → Prop}
    {σ : Course} (hrecord : ∀ done p rest s, Rec done s → σ.servers = done ++ p :: rest →
      Achieves step s (recordServer p.1 p.2.server) fun s' _ => Rec (done ++ [p]) s')
    (h : Rec [(.controlPlane, σ.controlPlane)] s) :
    Achieves step s ((σ.workers.map Boot.server).forM (recordServer .worker))
      fun s' _ => Rec σ.servers s' := by
  let worker (b : Boot) : ClusterNodeRole × Boot := (.worker, b)
  have hloop : Achieves step s ((σ.workers.map Boot.server).forM (recordServer .worker))
      fun s' _ => ∃ before left, [] = left.map Boot.server ∧ σ.workers = before ++ left ∧
        Rec ((.controlPlane, σ.controlPlane) :: before.map worker) s' := by
    refine always_forM (K := fun rest s' => ∃ before left, rest = left.map Boot.server ∧
      σ.workers = before ++ left ∧
        Rec ((.controlPlane, σ.controlPlane) :: before.map worker) s') ?_ _
      ⟨[], σ.workers, rfl, rfl, h⟩
    rintro server rest s₁ ⟨before, left, hleft, hσ, h₁⟩
    cases left with
    | nil => cases hleft
    | cons b left =>
      rw [List.map_cons, List.cons.injEq] at hleft
      obtain ⟨rfl, rfl⟩ := hleft
      have hservers : σ.servers = ((.controlPlane, σ.controlPlane) :: before.map worker) ++
          worker b :: left.map worker := by
        rw [Course.servers, hσ, List.map_append]
        rfl
      refine (hrecord _ _ _ _ h₁ hservers).mono fun s₂ _ h₂ => ?_
      refine ⟨before ++ [b], left, rfl, by rw [hσ, List.append_assoc]; rfl, ?_⟩
      rw [List.map_append]
      exact h₂
  refine hloop.mono ?_
  rintro s' - ⟨before, left, hleft, hσ, h'⟩
  obtain rfl : left = [] := List.map_eq_nil_iff.mp hleft.symm
  rw [Course.servers, hσ, List.append_nil]
  exact h'

/-- A provisioning that succeeds has gone a course and recorded its servers. `Inv` is known at
every moment. -/
theorem achieves_runProvision {newV5 : String → Uuid} {clusterId : Uuid}
    {input : ProvisionClusterInput} {w₀ : Cloud} {Inv : Chronicle → Prop}
    (Rec : Course → List (ClusterNodeRole × Boot) → Chronicle → Prop)
    (hInv : ∀ s c r s', Inv s → step s c r s' → Inv s') (h₀ : Inv (w₀, []))
    (hstart : ∀ σ s, Inv s → deeds s.2 = σ.trace newV5 clusterId input →
      s.1.servers = w₀.servers → Rec σ [] s)
    (hrecord : ∀ σ done p rest s, Rec σ done s → σ.servers = done ++ p :: rest →
      Achieves step s (recordServer p.1 p.2.server) fun s' _ => Rec σ (done ++ [p]) s')
    (haside : ∀ σ s s', Rec σ σ.servers s → deeds s'.2 = deeds s.2 →
      s'.1.servers = s.1.servers → Rec σ σ.servers s') :
    Achieves step (w₀, []) (runProvision newV5 clusterId input) fun s' _ => Inv s' ∧
      ∃ σ : Course, σ.Valid input ∧ Rec σ σ.servers s' := by
  refine Achieves.and ?_ hInv h₀
  have haside' {α : Type} {s : Chronicle} {p : Run α} (hs : Inv s)
      (hp : Makes (I := cloud) Aside p.run) : Achieves step s p fun s' _ => Inv s' ∧
        deeds s'.2 = deeds s.2 ∧ s'.1.servers = s.1.servers :=
    (achieves_aside hanswered hp).and hInv hs
  refine achieves_bind (haside' h₀ (makes_lift (makes_call ⟨rfl, rfl⟩)))
    fun s₁ workflowRow ⟨hs₁, h₁⟩ => ?_
  refine achieves_bind (haside' hs₁ (makes_attempt (makes_call ⟨rfl, rfl⟩)))
    fun s₂ _ ⟨hs₂, h₂⟩ => ?_
  refine achieves_bind (haside' hs₂ (makes_attempt (makes_call ⟨rfl, rfl⟩)))
    fun s₃ _ ⟨hs₃, h₃⟩ => ?_
  have hdeeds : deeds s₃.2 = [] := h₃.1.trans (h₂.1.trans h₁.1)
  refine achieves_bind ((achieves_workflow hanswered workflowRow hdeeds).and hInv hs₃) ?_
  rintro s₄ r ⟨hs₄, hservers, hdone⟩
  cases r with
  | error err =>
    -- the run reports the failure and fails
    refine achieves_bind (haside' hs₄ (makes_ignore (makes_call ⟨rfl, rfl⟩)))
      fun s₅ _ ⟨hs₅, _⟩ => ?_
    refine achieves_bind (haside' hs₅ (makes_ignore (makes_call ⟨rfl, rfl⟩)))
      fun s₆ _ ⟨hs₆, _⟩ => ?_
    refine achieves_bind (haside' hs₆ (makes_ignore (makes_call ⟨rfl, rfl⟩))) fun _ _ _ => ?_
    exact trivial
  | ok output =>
    obtain ⟨σ, hσ, raw, rfl, htrace⟩ := hdone output rfl
    have hrows : s₄.1.servers = w₀.servers :=
      hservers.trans (h₃.2.trans (h₂.2.trans h₁.2))
    have hrec {s : Chronicle} {p : Run Unit} (hs : Rec σ σ.servers s)
        (hp : Makes (I := cloud) Aside p.run) :
        Achieves step s p fun s' _ => Rec σ σ.servers s' :=
      (achieves_aside hanswered hp).mono fun s' _ h => haside σ s s' hs h.1 h.2
    refine achieves_bind (hrecord σ [] (.controlPlane, σ.controlPlane) _ s₄
      (hstart σ s₄ hs₄ htrace hrows) rfl) fun s₅ _ h₅ => ?_
    refine achieves_bind (achieves_recordWorkers (hrecord σ) h₅) fun s₆ _ h₆ => ?_
    refine achieves_bind (hrec h₆ (storeKubeconfig_aside _)) fun s₇ _ h₇ => ?_
    refine achieves_bind (hrec h₇ (makes_attempt (makes_call ⟨rfl, rfl⟩))) fun s₈ _ h₈ => ?_
    refine achieves_bind (hrec h₈ (makes_attempt (makes_call ⟨rfl, rfl⟩))) fun s₉ _ h₉ => ?_
    exact (hrec h₉ (makes_ignore (makes_call ⟨rfl, rfl⟩))).mono fun s' _ h' => ⟨σ, hσ, h'⟩

end Runs

end Kubinate.Clusters
