import Kubinate.Clusters.Deletion

/-!
# Scaling in, and scaling in again

`scale_in` drains every target, deletes every node, and only then deletes the servers.

* `Scene`: the provider's servers and the nodes of the cluster, with the calls so far.
  `kubectl` says `Ok` of a node that is not there.
* `scaleIn_course`: what a run has done wherever it stops, and what another one makes of it.
-/

namespace Kubinate.Clusters

open Platform Library

/-- The servers at the provider, the names of the nodes, and what was called. -/
structure Scene where
  provider : Cloud
  nodes : List String
  trace : Trace cloud

/-- Deleting a node that is not there changes nothing. -/
def Scene.nodesAfter (s : Scene) (x : Outcome) : CloudCall → List String
  | .deleteNode _ nodeName =>
    if x.reply = .failed then s.nodes else s.nodes.filter (· != nodeName)
  | _ => s.nodes

/-- A call whose reply is of the given kinds. -/
def CallGoes (replies : Reply → Prop) (s : Scene) (c : CloudCall) (r : c.Answer) (s' : Scene) : Prop :=
  ∃ i x js, replies x.reply ∧ s.provider.answer i c x = some (s'.provider, r, js) ∧
    s'.nodes = s.nodesAfter x c ∧ s'.trace = s.trace ++ [⟨c, r⟩]

/-- The provider fails to delete a server and says whatever it likes, `404` included. -/
def Mistaken (s s' : Scene) : (c : CloudCall) → c.Answer → Prop
  | .deleteServer id, r =>
    (∃ e, r = .error e) ∧ s'.provider = s.provider ∧ s'.nodes = s.nodes ∧
      s'.trace = s.trace ++ [⟨.deleteServer id, r⟩]
  | _, _ => False

/-- Calls may fail, also after they have had their effect. -/
def Attempts (s : Scene) (c : cloud.Call) (r : cloud.Answer c) (s' : Scene) : Prop :=
  CallGoes (fun _ => True) s c r s' ∨ Mistaken s s' c r

/-- No call fails. -/
def Smooth : (s : Scene) → (c : cloud.Call) → cloud.Answer c → Scene → Prop := CallGoes (· = .ok)

/-! ## What may be called when -/

section Order

variable (targets : List WorkerToRemove) (path : String)

def AllDrained (h : Trace cloud) : Prop :=
  ∀ t ∈ targets, ⟨.drainNode path t.nodeName, .ok ()⟩ ∈ h

def AllNodesDeleted (h : Trace cloud) : Prop :=
  ∀ t ∈ targets, ⟨.deleteNode path t.nodeName, .ok ()⟩ ∈ h

/-- What comes before a call. -/
def Due (h : Trace cloud) : CloudCall → Prop
  | .drainNode _ nodeName => ∃ t ∈ targets, t.nodeName = nodeName
  | .deleteNode _ nodeName => (∃ t ∈ targets, t.nodeName = nodeName) ∧ AllDrained targets path h
  | .deleteServer id => (∃ t ∈ targets, t.serverId = id) ∧ AllDrained targets path h ∧
      AllNodesDeleted targets path h
  | _ => True

/-- Every call came after what comes before it. -/
def Ordered (h : Trace cloud) : Prop :=
  ∀ pre e post, h = pre ++ e :: post → Due targets path pre e.1

variable {targets path} {h : Trace cloud}

theorem ordered_nil : Ordered targets path [] := by
  intro pre e post h
  cases pre <;> cases h

theorem Ordered.concat {e : Σ c : cloud.Call, cloud.Answer c} (hh : Ordered targets path h)
    (he : Due targets path h e.1) : Ordered targets path (h ++ [e]) := by
  intro pre e' post heq
  rcases List.eq_nil_or_concat post with rfl | ⟨post, last, rfl⟩
  · obtain ⟨rfl, hlast⟩ := List.append_inj' heq rfl
    cases hlast
    exact he
  · rw [List.concat_eq_append, ← List.cons_append, ← List.append_assoc] at heq
    exact hh pre e' post (List.append_inj' heq rfl).1

end Order

def IsDrainError : (Σ c : cloud.Call, cloud.Answer c) → Prop
  | ⟨.drainNode _ _, .error _⟩ => True
  | _ => False

def IsNodeError : (Σ c : cloud.Call, cloud.Answer c) → Prop
  | ⟨.deleteNode _ _, .error _⟩ => True
  | _ => False

/-- The run has failed in the first phase. -/
def DrainFailed (h : Trace cloud) : Prop := ∃ e ∈ h, IsDrainError e

/-- The run has failed in the second phase. -/
def NodeFailed (h : Trace cloud) : Prop := ∃ e ∈ h, IsNodeError e

/-! ## One call -/

section Step

variable {replies : Reply → Prop} {s s' : Scene} {path name : String} {id : Nat}

theorem CallGoes.trace {c : CloudCall} {r : c.Answer} (h : CallGoes replies s c r s') :
    s'.trace = s.trace ++ [⟨c, r⟩] := by
  obtain ⟨_, _, _, -, -, -, htrace⟩ := h
  exact htrace

/-- Calls that the provider's servers do not depend on. -/
theorem goes_alive {c : CloudCall} {r : c.Answer} (hc : ∀ i x w, (Cloud.execute w i x c).1 = w)
    (h : CallGoes replies s c r s') : s'.provider = s.provider := by
  obtain ⟨i, x, js, -, hanswer, -, -⟩ := h
  obtain ⟨-, -, ⟨-, hw, -⟩ | ⟨-, hw, -⟩ | ⟨-, hw, -⟩⟩ := Cloud.answer_cases hanswer
  · exact hw.trans (hc i x s.provider)
  · exact hw
  · exact hw.trans (hc i x s.provider)

theorem goes_publishStep {text : String} {a : Unit}
    (h : CallGoes replies s (.publishStep text) a s') : s'.provider = s.provider ∧ s'.nodes = s.nodes := by
  have hcloud := goes_alive (fun _ _ _ => rfl) h
  obtain ⟨_, _, _, -, -, hnodes, -⟩ := h
  exact ⟨hcloud, hnodes⟩

theorem goes_drainNode {r : Except KubectlError Unit}
    (h : CallGoes replies s (.drainNode path name) r s') :
    s'.provider = s.provider ∧ s'.nodes = s.nodes := by
  have hcloud := goes_alive (fun _ _ _ => rfl) h
  obtain ⟨_, _, _, -, -, hnodes, -⟩ := h
  exact ⟨hcloud, hnodes⟩

theorem goes_deleteNode {r : Except KubectlError Unit}
    (h : CallGoes replies s (.deleteNode path name) r s') :
    s'.provider = s.provider ∧ (∀ n ∈ s'.nodes, n ∈ s.nodes) ∧ (r = .ok () → name ∉ s'.nodes) := by
  have hcloud := goes_alive (fun _ _ _ => rfl) h
  obtain ⟨i, x, js, -, hanswer, hnodes, -⟩ := h
  rw [Scene.nodesAfter] at hnodes
  refine ⟨hcloud, fun n hn => ?_, ?_⟩
  · rw [hnodes] at hn
    split at hn
    · exact hn
    · exact List.mem_of_mem_filter hn
  · rintro rfl hname
    -- a call that is answered `Ok` has had its effect
    have hok : x.reply ≠ .failed := by
      obtain ⟨-, -, ⟨hreply, -, -⟩ | ⟨-, -, hr⟩ | ⟨hreply, -, -⟩⟩ := Cloud.answer_cases hanswer
      · rw [hreply]
        nofun
      · cases hr
      · rw [hreply]
        nofun
    rw [hnodes, if_neg hok] at hname
    have hne := (List.mem_filter.mp hname).2
    simp at hne

/-- The provider says `404` only of a server that is not there. -/
theorem gone_of_notFound {w w' : Cloud} {i : Nat} {x : Outcome} {e : HetznerError}
    {js : List ClusterJob} (h : w.answer i (.deleteServer id) x = some (w', .error e, js))
    (he : e.isNotFound = true) : w.Gone id := by
  have hgone (hnone : ¬ w.alive.any (·.id == id) = true) : w.Gone id := by
    intro server hserver heq
    exact hnone (List.any_eq_true.mpr ⟨server, hserver, beq_iff_eq.mpr heq⟩)
  have hbroken (hreply : ¬x.reply = .ok) (hr : e = x.hetznerError)
      (himpossible : w.impossible x (.deleteServer id) = false) : w.Gone id := by
    apply hgone
    intro hany
    rw [Cloud.impossible, ← hr, he, hany, bne_iff_ne.mpr hreply] at himpossible
    cases himpossible
  obtain ⟨himpossible, -, ⟨-, -, hr⟩ | ⟨hreply, -, hr⟩ | ⟨hreply, -, hr⟩⟩ := Cloud.answer_cases h
  · rw [Cloud.execute] at hr
    split at hr
    · cases hr
    · next hnone => exact hgone hnone
  · exact hbroken (by rw [hreply]; decide) (Except.error.inj hr) himpossible
  · exact hbroken (by rw [hreply]; decide) (Except.error.inj hr) himpossible

theorem goes_deleteServer {r : Except HetznerError Unit}
    (h : CallGoes replies s (.deleteServer id) r s') :
    s'.nodes = s.nodes ∧ (s'.provider = s.provider ∨ s'.provider = s.provider.without id) ∧
      (RunRecord.confirmed r = true → s'.provider.Gone id) := by
  obtain ⟨i, x, js, -, hanswer, hnodes, -⟩ := h
  have hexecute := Cloud.execute_deleteServer (w := s.provider) (i := i) x id
  have heffect : s'.provider = s.provider ∨ s'.provider = s.provider.without id := by
    obtain ⟨-, -, ⟨-, hw, -⟩ | ⟨-, hw, -⟩ | ⟨-, hw, -⟩⟩ := Cloud.answer_cases hanswer
    · exact .inr (hw.trans hexecute)
    · exact .inl hw
    · exact .inr (hw.trans hexecute)
  refine ⟨hnodes, heffect, fun hconfirmed => ?_⟩
  rcases r with e | ⟨⟩
  · have hgone := gone_of_notFound hanswer hconfirmed
    rcases heffect with heq | heq
    · rw [heq]
      exact hgone
    · rw [heq]
      exact Cloud.gone_without s.provider id
  · obtain ⟨-, -, ⟨-, hw, -⟩ | ⟨-, -, hr⟩ | ⟨-, -, hr⟩⟩ := Cloud.answer_cases hanswer
    · rw [hw, hexecute]
      exact Cloud.gone_without s.provider id
    · cases hr
    · cases hr

theorem attempts_deleteServer {r : Except HetznerError Unit}
    (h : Attempts s (.deleteServer id) r s') :
    s'.nodes = s.nodes ∧ (s'.provider = s.provider ∨ s'.provider = s.provider.without id) ∧
      s'.trace = s.trace ++ [⟨.deleteServer id, r⟩] := by
  rcases h with h | ⟨-, hprovider, hnodes, htrace⟩
  · have htrace := h.trace
    obtain ⟨hnodes, heffect, -⟩ := goes_deleteServer h
    exact ⟨hnodes, heffect, htrace⟩
  · exact ⟨hnodes, .inl hprovider, htrace⟩

/-- What is answered when nothing fails. -/
theorem Smooth.answer {c : CloudCall} {r : c.Answer} (h : Smooth s c r s') :
    ∃ i x, r = (s.provider.execute i x c).2 := by
  obtain ⟨i, x, js, hok, hanswer, -, -⟩ := h
  obtain ⟨-, -, ⟨-, -, hr⟩ | ⟨hfailed, -, -⟩ | ⟨hlost, -, -⟩⟩ := Cloud.answer_cases hanswer
  · exact ⟨i, x, hr⟩
  · rw [hok] at hfailed
    cases hfailed
  · rw [hok] at hlost
    cases hlost

theorem smooth_deleteServer {r : Except HetznerError Unit} (h : Smooth s (.deleteServer id) r s') :
    RunRecord.confirmed r = true := by
  obtain ⟨i, x, hr⟩ := Smooth.answer h
  rw [hr, Cloud.execute]
  split
  · rfl
  · rfl

end Step

/-! ## A run of `scale_in` -/

section Run

variable {step : Scene → (c : cloud.Call) → cloud.Answer c → Scene → Prop}
  {targets : List WorkerToRemove} {path : String} {E : Scene → ActivityError → Prop} {s : Scene}

/-- The three loops, each with `K` for what is left of its list. -/
theorem scaleIn_loops {D N S : List WorkerToRemove → Scene → Prop}
    (hpublish₁ : ∀ text l s (a : Unit) s', D l s → step s (.publishStep text) a s' → D l s')
    (hpublish₂ : ∀ text l s (a : Unit) s', N l s → step s (.publishStep text) a s' → N l s')
    (hpublish₃ : ∀ text l s (a : Unit) s', S l s → step s (.publishStep text) a s' → S l s')
    (hdrain : ∀ t l s (r : Except KubectlError Unit) s', D (t :: l) s →
      step s (.drainNode path t.nodeName) r s' →
      (r = .ok () → D l s') ∧ ∀ e, r = .error e → E s' (.kubectl e))
    (hnodes : ∀ s, D [] s → N targets s)
    (hdelete : ∀ t l s (r : Except KubectlError Unit) s', N (t :: l) s →
      step s (.deleteNode path t.nodeName) r s' →
      (r = .ok () → N l s') ∧ ∀ e, r = .error e → E s' (.kubectl e))
    (hservers : ∀ s, N [] s → S targets s)
    (hremove : ∀ t l s (r : Except HetznerError Unit) s', S (t :: l) s →
      step s (.deleteServer t.serverId) r s' →
      (RunRecord.confirmed r = true → S l s') ∧
        ∀ e, RunRecord.confirmed r = false → E s' e)
    (h : D targets s) :
    Always step (Post (fun s' _ => S [] s') E) (scaleIn hubOnlyProgress targets path).run s := by
  have hprogress {K : List WorkerToRemove → Scene → Prop}
      (hK : ∀ text l s (a : Unit) s', K l s → step s (.publishStep text) a s' → K l s')
      (text : String) (l : List WorkerToRemove) (s : Scene) (hl : K l s) :
      Always step (Post (fun s' _ => K l s') E)
        (ExceptT.lift (hubOnlyProgress text) : Activity Unit).run s :=
    always_lift (p := hubOnlyProgress text) fun a s' hstep => hK text l s a s' hl hstep
  unfold scaleIn
  refine always_bindE (hprogress hpublish₁ _ targets s h) (fun s₁ _ h₁ => ?_) fun _ _ h => h
  refine always_bindE (always_forM (K := D) ?_ targets h₁) (fun s₂ _ h₂ => ?_) fun _ _ h => h
  · intro t l s₁ h₁ r s₂ hstep
    obtain ⟨hok, hfailed⟩ := hdrain t l s₁ r s₂ h₁ hstep
    rcases r with e | ⟨⟩
    · exact hfailed e rfl
    · exact hok rfl
  refine always_bindE (hprogress hpublish₂ _ targets s₂ (hnodes s₂ h₂)) (fun s₃ _ h₃ => ?_)
    fun _ _ h => h
  refine always_bindE (always_forM (K := N) ?_ targets h₃) (fun s₄ _ h₄ => ?_) fun _ _ h => h
  · intro t l s₁ h₁ r s₂ hstep
    obtain ⟨hok, hfailed⟩ := hdelete t l s₁ r s₂ h₁ hstep
    rcases r with e | ⟨⟩
    · exact hfailed e rfl
    · exact hok rfl
  refine always_bindE (hprogress hpublish₃ _ targets s₄ (hservers s₄ h₄)) (fun s₅ _ h₅ => ?_)
    fun _ _ h => h
  refine always_bindE (always_forM (K := S) ?_ targets h₅)
    (fun s₆ _ h₆ => hprogress hpublish₃ _ [] s₆ h₆) fun _ _ h => h
  intro t l s₁ h₁ r s₂ hstep
  obtain ⟨hok, hfailed⟩ := hremove t l s₁ r s₂ h₁ hstep
  rcases r with e | ⟨⟩
  · dsimp only [Program.bind]
    by_cases he : e.isNotFound = true
    · rw [if_pos he]
      exact hok he
    · rw [if_neg he]
      exact hfailed _ (by simpa [RunRecord.confirmed] using he)
  · exact hok rfl

end Run

/-! ## Wherever it stops -/

section ScaleInCourse

variable {targets : List WorkerToRemove} {path : String} {s₀ s s' : Scene}

theorem drainFailed_concat {h : Trace cloud} {e : Σ c : cloud.Call, cloud.Answer c} :
    DrainFailed (h ++ [e]) ↔ DrainFailed h ∨ IsDrainError e := by
  simp only [DrainFailed, List.mem_append, List.mem_singleton, or_and_right, exists_or,
    exists_eq_left]

theorem nodeFailed_concat {h : Trace cloud} {e : Σ c : cloud.Call, cloud.Answer c} :
    NodeFailed (h ++ [e]) ↔ NodeFailed h ∨ IsNodeError e := by
  simp only [NodeFailed, List.mem_append, List.mem_singleton, or_and_right, exists_or,
    exists_eq_left]

/-- All nodes and servers of the list are gone. -/
def TargetsGone (targets : List WorkerToRemove) (s : Scene) : Prop :=
  ∀ t ∈ targets, t.nodeName ∉ s.nodes ∧ s.provider.Gone t.serverId

/-- Servers that are not in the list are still there. -/
def OthersStay (targets : List WorkerToRemove) (s s' : Scene) : Prop :=
  ∀ server ∈ s.provider.alive, (∀ t ∈ targets, t.serverId ≠ server.id) → server ∈ s'.provider.alive

/-- What holds wherever a run stops that has begun in the first scene. -/
structure ScaleInCourse (targets : List WorkerToRemove) (path : String) (s₀ s : Scene) : Prop where
  ordered : Ordered targets path s.trace
  others : OthersStay targets s₀ s
  drainFailed : DrainFailed s.trace →
    s.nodes = s₀.nodes ∧ s.provider.alive = s₀.provider.alive
  nodeFailed : NodeFailed s.trace → s.provider.alive = s₀.provider.alive

/-- A run on its way: what is left to drain, to delete and to remove. -/
structure Reached (targets : List WorkerToRemove) (path : String) (s₀ : Scene)
    (drain delete remove : List WorkerToRemove) (s : Scene) : Prop where
  ordered : Ordered targets path s.trace
  others : OthersStay targets s₀ s
  noDrainFailed : ¬ DrainFailed s.trace
  noNodeFailed : ¬ NodeFailed s.trace
  listed : ∀ t, t ∈ drain ∨ t ∈ delete ∨ t ∈ remove → t ∈ targets
  drained : ∀ t ∈ targets, t ∈ drain ∨ ⟨.drainNode path t.nodeName, .ok ()⟩ ∈ s.trace
  deleted : ∀ t ∈ targets, t ∈ delete ∨
    ⟨.deleteNode path t.nodeName, .ok ()⟩ ∈ s.trace ∧ t.nodeName ∉ s.nodes

namespace Reached

variable {drain delete remove : List WorkerToRemove} {t : WorkerToRemove}

theorem start (nodes : List String) (w : Cloud) :
    Reached targets path ⟨w, nodes, []⟩ targets targets targets ⟨w, nodes, []⟩ where
  ordered := ordered_nil
  others _ h _ := h
  noDrainFailed := by
    rintro ⟨e, h, -⟩
    cases h
  noNodeFailed := by
    rintro ⟨e, h, -⟩
    cases h
  listed t h := by
    rcases h with h | h | h
    · exact h
    · exact h
    · exact h
  drained _ h := .inl h
  deleted _ h := .inl h

theorem course (h : Reached targets path s₀ drain delete remove s) : ScaleInCourse targets path s₀ s where
  ordered := h.ordered
  others := h.others
  drainFailed hfailed := absurd hfailed h.noDrainFailed
  nodeFailed hfailed := absurd hfailed h.noNodeFailed

/-- One call, that is neither a drain nor the deletion of a node that has failed. -/
theorem step {c : CloudCall} {r : c.Answer}
    (h : Reached targets path s₀ drain delete remove s) (htrace : s'.trace = s.trace ++ [⟨c, r⟩])
    (hdue : Due targets path s.trace c) (hdrain : ¬ IsDrainError ⟨c, r⟩)
    (hnode : ¬ IsNodeError ⟨c, r⟩) (hnodes : ∀ n ∈ s'.nodes, n ∈ s.nodes)
    (hothers : OthersStay targets s s') : Reached targets path s₀ drain delete remove s' := by
  have hmem (e : Σ c : cloud.Call, cloud.Answer c) (he : e ∈ s.trace) : e ∈ s'.trace := by
    rw [htrace]
    exact List.mem_append_left _ he
  constructor
  · rw [htrace]
    exact h.ordered.concat hdue
  · exact fun server hserver hout => hothers server (h.others server hserver hout) hout
  · rw [htrace, drainFailed_concat, not_or]
    exact ⟨h.noDrainFailed, hdrain⟩
  · rw [htrace, nodeFailed_concat, not_or]
    exact ⟨h.noNodeFailed, hnode⟩
  · exact h.listed
  · exact fun t ht => (h.drained t ht).imp_right (hmem _)
  · exact fun t ht => (h.deleted t ht).imp_right fun hdeleted =>
      ⟨hmem _ hdeleted.1, fun hname => hdeleted.2 (hnodes _ hname)⟩

/-- A call that changes nothing at the provider. -/
theorem step_of_eq {c : CloudCall} {r : c.Answer} {replies : Reply → Prop}
    (h : Reached targets path s₀ drain delete remove s) (hstep : CallGoes replies s c r s')
    (hdue : Due targets path s.trace c) (hdrain : ¬ IsDrainError ⟨c, r⟩)
    (hnode : ¬ IsNodeError ⟨c, r⟩) (hnodes : ∀ n ∈ s'.nodes, n ∈ s.nodes)
    (heq : s'.provider = s.provider) : Reached targets path s₀ drain delete remove s' := by
  refine h.step hstep.trace hdue hdrain hnode hnodes fun server hserver _ => ?_
  rwa [heq]

theorem publishStep {text : String} {a : Unit} {replies : Reply → Prop}
    (h : Reached targets path s₀ drain delete remove s)
    (hstep : CallGoes replies s (.publishStep text) a s') :
    Reached targets path s₀ drain delete remove s' := by
  obtain ⟨hprovider, hnodes⟩ := goes_publishStep hstep
  exact h.step_of_eq hstep trivial id id (fun n hn => hnodes ▸ hn) hprovider

theorem drainNode {replies : Reply → Prop}
    (h : Reached targets path s₀ (t :: drain) delete remove s)
    (hstep : CallGoes replies s (.drainNode path t.nodeName) (.ok ()) s') :
    Reached targets path s₀ drain delete remove s' := by
  obtain ⟨hprovider, hnodes⟩ := goes_drainNode hstep
  have ht : t ∈ targets := h.listed t (.inl List.mem_cons_self)
  have hstepped : Reached targets path s₀ (t :: drain) delete remove s' :=
    h.step_of_eq hstep ⟨t, ht, rfl⟩ id id (fun n hn => hnodes ▸ hn) hprovider
  refine { hstepped with
    listed := fun t' ht' => hstepped.listed t' (ht'.imp_left (List.mem_cons_of_mem t))
    drained := fun t' ht' => ?_ }
  rcases hstepped.drained t' ht' with hmem | hdrained
  · rcases List.mem_cons.mp hmem with rfl | hmem
    · right
      rw [hstep.trace]
      exact List.mem_append_right _ (List.mem_singleton_self _)
    · exact .inl hmem
  · exact .inr hdrained

theorem allDrained (h : Reached targets path s₀ [] delete remove s) :
    AllDrained targets path s.trace :=
  fun t ht => (h.drained t ht).resolve_left List.not_mem_nil

theorem deleteNode {replies : Reply → Prop}
    (h : Reached targets path s₀ [] (t :: delete) remove s)
    (hstep : CallGoes replies s (.deleteNode path t.nodeName) (.ok ()) s') :
    Reached targets path s₀ [] delete remove s' := by
  obtain ⟨hprovider, hnodes, hgone⟩ := goes_deleteNode hstep
  have ht : t ∈ targets := h.listed t (.inr (.inl List.mem_cons_self))
  have hstepped : Reached targets path s₀ [] (t :: delete) remove s' :=
    h.step_of_eq hstep ⟨⟨t, ht, rfl⟩, h.allDrained⟩ id id hnodes hprovider
  refine { hstepped with
    listed := fun t' ht' =>
      hstepped.listed t' (ht'.imp_right fun h => h.imp_left (List.mem_cons_of_mem t))
    deleted := fun t' ht' => ?_ }
  rcases hstepped.deleted t' ht' with hmem | hdeleted
  · rcases List.mem_cons.mp hmem with rfl | hmem
    · refine .inr ⟨?_, hgone rfl⟩
      rw [hstep.trace]
      exact List.mem_append_right _ (List.mem_singleton_self _)
    · exact .inl hmem
  · exact .inr hdeleted

/-- Removing a server of the list, whatever is answered. -/
theorem deleteServer {r : Except HetznerError Unit}
    (h : Reached targets path s₀ [] [] (t :: remove) s)
    (hstep : Attempts s (.deleteServer t.serverId) r s') :
    Reached targets path s₀ [] [] remove s' := by
  obtain ⟨hnodes, heffect, htrace⟩ := attempts_deleteServer hstep
  have ht : t ∈ targets := h.listed t (.inr (.inr List.mem_cons_self))
  have hstepped : Reached targets path s₀ [] [] (t :: remove) s' := by
    refine h.step htrace ⟨⟨t, ht, rfl⟩, h.allDrained, ?_⟩ id id (fun n hn => hnodes ▸ hn) ?_
    · exact fun t' ht' => ((h.deleted t' ht').resolve_left List.not_mem_nil).1
    · intro server hserver hout
      rcases heffect with heq | heq
      · rwa [heq]
      · rw [heq]
        exact List.mem_filter.mpr ⟨hserver, bne_iff_ne.mpr (hout t ht).symm⟩
  refine { hstepped with listed := fun t' ht' => hstepped.listed t' ?_ }
  exact ht'.imp_right fun h => h.imp_right (List.mem_cons_of_mem t)

/-- A call of `kubectl` that fails before anything was changed at the provider. -/
theorem stop {c : CloudCall} {r : c.Answer} {replies : Reply → Prop}
    (h : Reached targets path s₀ drain delete remove s) (hstep : CallGoes replies s c r s')
    (hdue : Due targets path s.trace c) (hprovider : s'.provider = s.provider)
    (halive : s.provider.alive = s₀.provider.alive)
    (hnodes : IsDrainError ⟨c, r⟩ → s'.nodes = s₀.nodes) : ScaleInCourse targets path s₀ s' where
  ordered := by
    rw [hstep.trace]
    exact h.ordered.concat hdue
  others := by
    rw [OthersStay, hprovider]
    exact h.others
  drainFailed hfailed := by
    rw [hstep.trace, drainFailed_concat] at hfailed
    rw [hprovider]
    exact ⟨hnodes (hfailed.resolve_left h.noDrainFailed), halive⟩
  nodeFailed _ := by
    rw [hprovider]
    exact halive

theorem nodesGone (h : Reached targets path s₀ [] [] [] s) :
    ∀ t ∈ targets, t.nodeName ∉ s.nodes :=
  fun t ht => ((h.deleted t ht).resolve_left List.not_mem_nil).2

end Reached

end ScaleInCourse

/-- Whatever fails in a run, and whether its effect took place or not. -/
theorem scaleIn_attempts (targets : List WorkerToRemove) (path : String) (s : Scene)
    (h : Reached targets path s targets targets targets s) :
    Always Attempts
      (Post (fun s' _ => Reached targets path s [] [] [] s') fun s' _ => ScaleInCourse targets path s s')
      (scaleIn hubOnlyProgress targets path).run s := by
  refine scaleIn_loops
    (D := fun l s' => Reached targets path s l targets targets s' ∧ s'.nodes = s.nodes ∧
      s'.provider.alive = s.provider.alive)
    (N := fun l s' => Reached targets path s [] l targets s' ∧
      s'.provider.alive = s.provider.alive)
    (S := fun l s' => Reached targets path s [] [] l s') ?_ ?_ ?_ ?_ ?_ ?_ ?_ ?_ ⟨h, rfl, rfl⟩
  · rintro text l s₁ a s₂ ⟨h₁, hnodes, halive⟩ hstep
    have hstep := hstep.resolve_right id
    obtain ⟨hprovider, hnodes'⟩ := goes_publishStep hstep
    exact ⟨h₁.publishStep hstep, hnodes'.trans hnodes, by rw [hprovider, halive]⟩
  · rintro text l s₁ a s₂ ⟨h₁, halive⟩ hstep
    have hstep := hstep.resolve_right id
    obtain ⟨hprovider, -⟩ := goes_publishStep hstep
    exact ⟨h₁.publishStep hstep, by rw [hprovider, halive]⟩
  · exact fun text l s₁ a s₂ h₁ hstep => h₁.publishStep (hstep.resolve_right id)
  · rintro t l s₁ r s₂ ⟨h₁, hnodes, halive⟩ hstep
    have hstep := hstep.resolve_right id
    obtain ⟨hprovider, hnodes'⟩ := goes_drainNode hstep
    constructor
    · rintro rfl
      exact ⟨h₁.drainNode hstep, hnodes'.trans hnodes, by rw [hprovider, halive]⟩
    · intro e _
      have ht : t ∈ targets := h₁.listed t (.inl List.mem_cons_self)
      exact h₁.stop hstep ⟨t, ht, rfl⟩ hprovider halive fun _ => hnodes'.trans hnodes
  · exact fun s₁ h₁ => ⟨h₁.1, h₁.2.2⟩
  · rintro t l s₁ r s₂ ⟨h₁, halive⟩ hstep
    have hstep := hstep.resolve_right id
    obtain ⟨hprovider, -⟩ := goes_deleteNode hstep
    constructor
    · rintro rfl
      exact ⟨h₁.deleteNode hstep, by rw [hprovider, halive]⟩
    · intro e _
      have ht : t ∈ targets := h₁.listed t (.inr (.inl List.mem_cons_self))
      exact h₁.stop hstep ⟨⟨t, ht, rfl⟩, h₁.allDrained⟩ hprovider halive False.elim
  · exact fun s₁ h₁ => h₁.1
  · intro t l s₁ r s₂ h₁ hstep
    have h₂ := h₁.deleteServer hstep
    exact ⟨fun _ => h₂, fun _ _ => h₂.course⟩

/-- A run in which nothing fails completes whatever was begun. -/
theorem scaleIn_smooth (targets : List WorkerToRemove) (path : String) (s : Scene) :
    Always Smooth (fun s' r => r = .ok () ∧ TargetsGone targets s')
      (scaleIn hubOnlyProgress targets path).run s := by
  have hrun := @scaleIn_loops Smooth targets path (fun _ _ => False) s
    (fun _ _ => True)
    (fun l s' => ∀ t ∈ targets, t ∈ l ∨ t.nodeName ∉ s'.nodes)
    (fun l s' => ∀ t ∈ targets, t.nodeName ∉ s'.nodes ∧ (t ∈ l ∨ s'.provider.Gone t.serverId))
    (fun _ _ _ _ _ _ _ => trivial) ?_ ?_ ?_ (fun _ _ t ht => .inl ht) ?_ ?_ ?_ trivial
  · refine hrun.mono ?_
    rintro s' (e | ⟨⟩) h
    · exact h.elim
    · exact ⟨rfl, fun t ht => ⟨(h t ht).1, (h t ht).2.resolve_left List.not_mem_nil⟩⟩
  · intro text l s₁ a s₂ h₁ hstep
    obtain ⟨-, hnodes⟩ := goes_publishStep hstep
    rw [hnodes]
    exact h₁
  · intro text l s₁ a s₂ h₁ hstep
    obtain ⟨hprovider, hnodes⟩ := goes_publishStep hstep
    rw [hprovider, hnodes]
    exact h₁
  · intro t l s₁ r s₂ _ hstep
    obtain ⟨i, x, hr⟩ := hstep.answer
    refine ⟨fun _ => trivial, fun e he => ?_⟩
    rw [hr] at he
    cases he
  · intro t l s₁ r s₂ h₁ hstep
    obtain ⟨-, hsubset, hgone⟩ := goes_deleteNode hstep
    obtain ⟨i, x, hr⟩ := hstep.answer
    constructor
    · intro hok t' ht'
      rcases h₁ t' ht' with hmem | hname
      · rcases List.mem_cons.mp hmem with rfl | hmem
        · exact .inr (hgone hok)
        · exact .inl hmem
      · exact .inr fun h => hname (hsubset _ h)
    · intro e he
      rw [hr] at he
      cases he
  · exact fun s₁ h₁ t ht => ⟨(h₁ t ht).resolve_left List.not_mem_nil, .inl ht⟩
  · intro t l s₁ r s₂ h₁ hstep
    obtain ⟨hnodes, heffect, hgone⟩ := goes_deleteServer hstep
    have hconfirmed := smooth_deleteServer hstep
    refine ⟨fun _ t' ht' => ⟨?_, ?_⟩, fun _ hnot => ?_⟩
    · rw [hnodes]
      exact (h₁ t' ht').1
    · rcases (h₁ t' ht').2 with hmem | hgone'
      · rcases List.mem_cons.mp hmem with rfl | hmem
        · exact .inr (hgone hconfirmed)
        · exact .inl hmem
      · refine .inr (Cloud.gone_of_subset hgone' fun server hserver => ?_)
        rcases heffect with heq | heq
        · rwa [heq] at hserver
        · rw [heq] at hserver
          exact List.mem_of_mem_filter hserver
    · rw [hconfirmed] at hnot
      cases hnot

/-- Whatever the targets and the failures: every call comes after what has to come before it,
a failed drain leaves all nodes and servers and a failed deletion of a node leaves all servers,
and only servers of the list are deleted. Wherever the run stops, another one in which nothing
fails returns `Ok`, and then all nodes and servers of the list are gone. -/
theorem scaleIn_course (targets : List WorkerToRemove) (path : String) (w : Cloud)
    (nodes : List String) :
    Always Attempts
      (fun s r =>
        ScaleInCourse targets path ⟨w, nodes, []⟩ s ∧
        (DrainFailed s.trace ∨ NodeFailed s.trace → ∃ e, r = .error e) ∧
        (r = .ok () → ∀ t ∈ targets, t.nodeName ∉ s.nodes) ∧
        Always Smooth (fun s' r' => r' = .ok () ∧ TargetsGone targets s')
          (scaleIn hubOnlyProgress targets path).run s)
      (scaleIn hubOnlyProgress targets path).run ⟨w, nodes, []⟩ := by
  refine (scaleIn_attempts targets path ⟨w, nodes, []⟩ (.start nodes w)).mono ?_
  rintro s (e | ⟨⟩) h
  · exact ⟨h, fun _ => ⟨e, rfl⟩, nofun, scaleIn_smooth targets path s⟩
  · refine ⟨h.course, fun hfailed => ?_, fun _ => h.nodesGone, scaleIn_smooth targets path s⟩
    rcases hfailed with hfailed | hfailed
    · exact absurd hfailed h.noDrainFailed
    · exact absurd hfailed h.noNodeFailed

end Kubinate.Clusters
