import Kubinate.Clusters.Activities
import Kubinate.Library.Together

/-!
# Runs under row-level security

Two statements of the runner set no tenant: the last update of the workflow row, and the
deletion of the rows of the removed workers. Under row-level security they match nothing and
report success. A run cannot tell the difference, but it leaves other rows behind.

* `spares`: a statement without a tenant fails, so that it has no effect in either world.
* `runProvision_together`, `runScaleIn_together`: with and without row-level security a run
  gets the same answers, and the tables are the same at its end or some row tells them apart.
* `replay_eq_iff`: the tables are the same exactly if every statement without a tenant has
  failed.
-/

namespace Kubinate.Clusters

open Platform Library

def cloudAnswer (w : Cloud) (c : cloud.Call) (x : Outcome) : Option (Cloud × cloud.Answer c) :=
  (w.answer 0 c x).map fun (w', r, _) => (w', r)

/-- The statements that set no tenant. -/
def CloudCall.isUnscoped : CloudCall → Bool
  | .finalizeWorkflowRow .. | .softDeleteServerRow _ => true
  | _ => false

def spares (_ : Cloud) (c : cloud.Call) (x : Outcome) : Bool :=
  !CloudCall.isUnscoped c || x.reply == .failed

/-- The world of the other role. -/
def Cloud.withRls (w : Cloud) (enforceRls : Bool) : Cloud := { w with enforceRls := enforceRls }

section Scoped

variable {w : Cloud} {b : Bool} {i : Nat} {x : Outcome} {c : CloudCall}

/-- Nothing but those two statements depends on the role. -/
theorem Cloud.execute_withRls (hc : c.isUnscoped = false) :
    (w.withRls b).execute i x c = ((w.execute i x c).1.withRls b, (w.execute i x c).2) := by
  cases c with
  | finalizeWorkflowRow | softDeleteServerRow => cases hc
  | recordServer hetznerServerId =>
    by_cases hrow : (w.servers.any fun r => r.isLive && r.hetznerServerId == hetznerServerId) = true
    · simp only [Cloud.execute, Cloud.recordServer, Cloud.withRls, hrow, if_true]
    · by_cases hid : (w.servers.any (·.id == x.id)) = true
      · simp [Cloud.execute, Cloud.recordServer, Cloud.withRls, hrow, hid]
      · simp [Cloud.execute, Cloud.recordServer, Cloud.withRls, hrow, hid]
  | setKubeconfigSecret secretId =>
    by_cases hset : (w.cluster.deletedAt.isNone && (w.cluster.kubeconfigSecretId.isNone ||
        w.cluster.kubeconfigSecretId == some secretId)) = true
    · simp [Cloud.execute, Cloud.setKubeconfigSecret, Cloud.withRls, hset]
    · simp [Cloud.execute, Cloud.setKubeconfigSecret, Cloud.withRls, hset]
  | insertWorkflowRow id =>
    by_cases hrow : (w.workflows.any (·.id == id)) = true
    · simp [Cloud.execute, Cloud.withRls, hrow]
    · simp [Cloud.execute, Cloud.withRls, hrow]
  | deleteServer id =>
    by_cases hserver : (w.alive.any (·.id == id)) = true
    · simp [Cloud.execute, Cloud.withRls, hserver]
    · simp [Cloud.execute, Cloud.withRls, hserver]
  | deleteSecret id =>
    by_cases hreferenced : (w.cluster.kubeconfigSecretId == some id) = true
    · simp only [Cloud.execute, Cloud.withRls, hreferenced, if_true]
    · simp [Cloud.execute, Cloud.withRls, hreferenced]
  | _ => rfl

theorem Cloud.execute_enforceRls : (w.execute i x c).1.enforceRls = w.enforceRls := by
  cases c with
  | recordServer =>
    simp only [Cloud.execute, Cloud.recordServer]
    split
    · rfl
    · split <;> rfl
  | setKubeconfigSecret =>
    simp only [Cloud.execute, Cloud.setKubeconfigSecret]
    split <;> rfl
  | insertWorkflowRow | deleteServer | deleteSecret =>
    simp only [Cloud.execute]
    split <;> rfl
  | _ => rfl

theorem Cloud.answer_withRls (hc : c.isUnscoped = false) :
    cloudAnswer (w.withRls b) c x = (cloudAnswer w c x).map fun (w', r) => (w'.withRls b, r) := by
  have himp : (w.withRls b).impossible x c = w.impossible x c := rfl
  simp only [cloudAnswer, Cloud.answer, himp, Cloud.execute_withRls hc]
  split
  · rfl
  · cases x.reply <;> rfl

/-- Every answer comes from a call that took effect or from one that did not. -/
theorem cloudAnswer_cases {w' : Cloud} {r : cloud.Answer c} (h : cloudAnswer w c x = some (w', r)) :
    w' = (w.execute 0 x c).1 ∧ x.reply ≠ .failed ∨ w' = w ∧ x.reply = .failed := by
  obtain ⟨⟨v, r', js⟩, ha, heq⟩ := Option.map_eq_some_iff.mp h
  obtain ⟨rfl, rfl⟩ := Prod.mk.inj heq
  obtain ⟨-, -, ⟨hreply, hw, -⟩ | ⟨hreply, hw, -⟩ | ⟨hreply, hw, -⟩⟩ := Cloud.answer_cases ha
  · exact .inl ⟨hw, by rw [hreply]; nofun⟩
  · exact .inr ⟨hw, hreply⟩
  · exact .inl ⟨hw, by rw [hreply]; nofun⟩

end Scoped

/-! ## The same tables -/

/-- With and without row-level security everything is the same so far. -/
structure Twins (s : Pair Cloud) : Prop where
  fine : s.fine = true
  bypassed : s.snd.enforceRls = false
  same : s.fst = s.snd.withRls true

/-- Some row tells the two worlds apart: a workflow that is not finished, or a server row
that is not deleted, where row-level security is in force. -/
structure Apart (s : Pair Cloud) : Prop where
  fine : s.fine = false
  enforced : s.fst.enforceRls = true
  bypassed : s.snd.enforceRls = false
  row : (∃ id, (∃ row ∈ s.fst.workflows, row.id = id ∧ row.finished = false) ∧
      ∀ row ∈ s.snd.workflows, row.id = id → row.finished = true) ∨
    ∃ id, (∃ row ∈ s.fst.servers, row.id = id ∧ row.isLive = true) ∧
      ∀ row ∈ s.snd.servers, row.id = id → row.isLive = false

def Ended (s : Pair Cloud) : Prop := Twins s ∨ Apart s

theorem Ended.iff {s : Pair Cloud} (h : Ended s) :
    s.fst.withRls false = s.snd ↔ s.fine = true := by
  rcases h with h | h
  · refine ⟨fun _ => h.fine, fun _ => ?_⟩
    rw [h.same]
    obtain ⟨_, ⟨⟩, _⟩ := s
    cases h.bypassed
    rfl
  · refine ⟨fun hsame => ?_, fun hfine => ?_⟩
    · have hworkflows : s.fst.workflows = s.snd.workflows := by rw [← hsame]; rfl
      have hservers : s.fst.servers = s.snd.servers := by rw [← hsame]; rfl
      rcases h.row with ⟨id, ⟨row, hrow, hid, hopen⟩, hall⟩ | ⟨id, ⟨row, hrow, hid, hlive⟩, hall⟩
      · rw [hworkflows] at hrow
        rw [hall row hrow hid] at hopen
        cases hopen
      · rw [hservers] at hrow
        rw [hall row hrow hid] at hlive
        cases hlive
    · rw [h.fine] at hfine
      cases hfine

section Calls

variable {s : Pair Cloud} {c : CloudCall} {x : Outcome}

/-- A call within the tenant. -/
theorem Twins.meet (hs : Twins s) (hc : c.isUnscoped = false) :
    Meet (I := cloud) cloudAnswer spares s c x fun r s' =>
      Twins s' ∧ cloudAnswer s.snd c x = some (s'.snd, r) := by
  have hanswer := Cloud.answer_withRls (w := s.snd) (b := true) (x := x) hc
  rw [← hs.same] at hanswer
  have hfine : (s.fine && spares s.snd c x) = true := by
    rw [hs.fine, spares, hc]
    rfl
  cases h : cloudAnswer s.snd c x with
  | none =>
    rw [h] at hanswer
    exact .impossible hanswer h
  | some a =>
    obtain ⟨w', r⟩ := a
    rw [h] at hanswer
    refine .same hanswer h ⟨⟨hfine, ?_, rfl⟩, rfl⟩
    rcases cloudAnswer_cases h with ⟨hw, -⟩ | ⟨hw, -⟩
    · rw [hw, Cloud.execute_enforceRls]
      exact hs.bypassed
    · rw [hw]
      exact hs.bypassed

/-! ### The row of the workflow -/

/-- There is a workflow with this id, and it is not finished. -/
def Cloud.HasOpen (w : Cloud) (id : Uuid) : Prop :=
  ∃ row ∈ w.workflows, row.id = id ∧ row.finished = false

def Opened (id : Uuid) (s : Pair Cloud) : Prop := Twins s ∧ s.snd.HasOpen id

theorem Cloud.HasOpen.execute {w : Cloud} {id : Uuid} (h : w.HasOpen id)
    (hc : c.isUnscoped = false) : (w.execute 0 x c).1.HasOpen id := by
  obtain ⟨row, hrow, hid, hopen⟩ := h
  cases c with
  | finalizeWorkflowRow | softDeleteServerRow => cases hc
  | insertWorkflowRow =>
    simp only [Cloud.execute]
    split
    · exact ⟨row, hrow, hid, hopen⟩
    · exact ⟨row, List.mem_append_left _ hrow, hid, hopen⟩
  | updateStep id' step =>
    refine ⟨if row.id == id' then { row with currentStep := step } else row,
      List.mem_map.mpr ⟨row, hrow, rfl⟩, ?_⟩
    split
    · exact ⟨hid, hopen⟩
    · exact ⟨hid, hopen⟩
  | recordServer =>
    simp only [Cloud.execute, Cloud.recordServer]
    split
    · exact ⟨row, hrow, hid, hopen⟩
    · split <;> exact ⟨row, hrow, hid, hopen⟩
  | setKubeconfigSecret =>
    simp only [Cloud.execute, Cloud.setKubeconfigSecret]
    split <;> exact ⟨row, hrow, hid, hopen⟩
  | deleteServer | deleteSecret =>
    simp only [Cloud.execute]
    split <;> exact ⟨row, hrow, hid, hopen⟩
  | _ => exact ⟨row, hrow, hid, hopen⟩

theorem Opened.meet {id : Uuid} (hs : Opened id s) (hc : c.isUnscoped = false) :
    Meet (I := cloud) cloudAnswer spares s c x fun _ s' => Opened id s' := by
  refine (hs.1.meet hc).mono ?_
  rintro r s' ⟨hs', ha⟩
  refine ⟨hs', ?_⟩
  rcases cloudAnswer_cases ha with ⟨hw, -⟩ | ⟨hw, -⟩
  · rw [hw]
    exact hs.2.execute hc
  · rw [hw]
    exact hs.2

/-- An inserted workflow is not finished. -/
theorem Twins.insertWorkflowRow (hs : Twins s) (id : Uuid) :
    Together cloudAnswer spares (Post (fun s' _ => Opened id s') fun s' _ => Ended s')
      (call (.insertWorkflowRow id)) s := by
  intro x
  refine (hs.meet rfl).mono ?_
  rintro r s' ⟨hs', ha⟩
  rcases r with e | ⟨⟩
  · exact .inl hs'
  · refine ⟨hs', ?_⟩
    obtain ⟨⟨v, r', js⟩, ha, heq⟩ := Option.map_eq_some_iff.mp ha
    obtain ⟨hv, hr⟩ := Prod.mk.inj heq
    obtain ⟨-, -, ⟨-, hw, hres⟩ | ⟨-, -, hres⟩ | ⟨-, -, hres⟩⟩ := Cloud.answer_cases ha
    · rw [hr] at hres
      rw [← hv, hw]
      simp only [Cloud.execute] at hres ⊢
      split at hres
      · cases hres
      · next hnew =>
        rw [if_neg hnew]
        exact ⟨_, List.mem_append_right _ (List.mem_singleton_self _), rfl, rfl⟩
    · rw [hr] at hres
      cases hres
    · rw [hr] at hres
      cases hres

/-- The calls whose answer does not depend on the rows. -/
def CloudCall.isBlind : CloudCall → Bool
  | .updateStatus .. | .publishTerminal .. | .softDeleteServerRow _ | .finalizeWorkflowRow .. => true
  | _ => false

theorem cloudAnswer_blind (w₀ : Cloud) (hc : c.isBlind = true) :
    (∀ w, cloudAnswer w c x = none) ∨ ∃ r : cloud.Answer c, ∀ w : Cloud, cloudAnswer w c x =
      some (if x.reply = .failed then w else (w.execute 0 x c).1, r) := by
  have hsame (w : Cloud) : (w.execute 0 x c).2 = (w₀.execute 0 x c).2 := by
    cases c <;> first | exact absurd hc Bool.false_ne_true | rfl
  have himp (w : Cloud) : w.impossible x c = w₀.impossible x c := by
    cases c <;> first | exact absurd hc Bool.false_ne_true | rfl
  by_cases h : w₀.impossible x c = true
  · refine .inl fun w => ?_
    simp [cloudAnswer, Cloud.answer, himp w, h]
  · rw [Bool.not_eq_true] at h
    refine .inr ⟨if x.reply = .ok then (w₀.execute 0 x c).2 else Cloud.broken x c, fun w => ?_⟩
    cases hreply : x.reply <;> simp [cloudAnswer, Cloud.answer, himp w, h, hreply, hsame w]

/-- A call that both worlds answer blindly: it fails in both, or it is executed in both. -/
theorem meet_blind (hc : c.isBlind = true) {P : Pair Cloud → Prop}
    (hfailed : x.reply = .failed → P ⟨s.fst, s.snd, s.fine && spares s.snd c x⟩)
    (hdone : x.reply ≠ .failed →
      P ⟨(s.fst.execute 0 x c).1, (s.snd.execute 0 x c).1, s.fine && spares s.snd c x⟩) :
    Meet (I := cloud) cloudAnswer spares s c x fun _ s' => P s' := by
  rcases cloudAnswer_blind (x := x) s.fst hc with hnone | ⟨r, hr⟩
  · exact .impossible (hnone s.fst) (hnone s.snd)
  · refine .same (hr s.fst) (hr s.snd) ?_
    by_cases hreply : x.reply = .failed
    · rw [if_pos hreply, if_pos hreply]
      exact hfailed hreply
    · rw [if_neg hreply, if_neg hreply]
      exact hdone hreply

/-- A statement without a tenant. -/
theorem meet_unscoped (hc : c.isUnscoped = true) {P : Pair Cloud → Prop} (hfailed : P s)
    (hdone : P ⟨(s.fst.execute 0 x c).1, (s.snd.execute 0 x c).1, false⟩) :
    Meet (I := cloud) cloudAnswer spares s c x fun _ s' => P s' := by
  have hblind : c.isBlind = true := by
    cases c <;> first | exact absurd hc Bool.false_ne_true | rfl
  refine meet_blind hblind (fun hreply => ?_) fun hreply => ?_
  · have hspares : spares s.snd c x = true := by
      rw [spares, hreply]
      exact Bool.or_true _
    rw [hspares, Bool.and_true]
    exact hfailed
  · have hspares : spares s.snd c x = false := by
      rw [spares, hc, beq_eq_false_iff_ne.mpr hreply]
      rfl
    rw [hspares, Bool.and_false]
    exact hdone

/-- The last update finishes the workflow in one of the two worlds. -/
theorem Opened.finalize {id : Uuid} (hs : Opened id s) (step : String) (reason : Option String) :
    Meet (I := cloud) cloudAnswer spares s (.finalizeWorkflowRow id step reason) x
      fun _ s' => Ended s' := by
  have henforced : s.fst.enforceRls = true := by
    rw [hs.1.same]
    rfl
  refine meet_unscoped rfl (.inl hs.1) (.inr ?_)
  refine ⟨rfl, henforced, hs.1.bypassed, .inl ⟨id, ?_, ?_⟩⟩
  · obtain ⟨row, hrow, hid, hopen⟩ := hs.2
    refine ⟨row, ?_, hid, hopen⟩
    have hfst : row ∈ s.fst.workflows := by
      rw [hs.1.same]
      exact hrow
    simp only [Cloud.execute, henforced]
    simpa using hfst
  · intro row hrow hid
    simp only [Cloud.execute, hs.1.bypassed] at hrow
    obtain ⟨row', -, rfl⟩ := List.mem_map.mp hrow
    by_cases hmatch : (row'.id == id) = true
    · simp [hmatch]
    · simp [hmatch] at hid
      simp [hid] at hmatch

/-! ### The rows of the servers -/

def Listed (rows : List ClusterServer) (s : Pair Cloud) : Prop :=
  Twins s ∧ ∀ r ∈ rows, ∃ row ∈ s.snd.servers, row.id = r.id ∧ row.isLive = true

/-- A call that leaves the rows of the servers alone. -/
def LeavesServers (c : CloudCall) : Prop :=
  c.isUnscoped = false ∧ ∀ (w : Cloud) x, (w.execute 0 x c).1.servers = w.servers

theorem leavesServers_of_joined (c : CloudCall) (h : Joined c) : LeavesServers c := by
  obtain ⟨hactivity, -⟩ := h
  cases c with
  | updateStep | createServer | getServer | sshRun | drainNode | deleteNode | publishStep =>
    exact ⟨rfl, fun _ _ => rfl⟩
  | deleteServer =>
    refine ⟨rfl, fun w x => ?_⟩
    simp only [Cloud.execute]
    split <;> rfl
  | _ => cases hactivity

theorem Listed.meet {rows : List ClusterServer} (hs : Listed rows s) (hc : LeavesServers c) :
    Meet (I := cloud) cloudAnswer spares s c x fun _ s' => Listed rows s' := by
  refine (hs.1.meet hc.1).mono ?_
  rintro r s' ⟨hs', ha⟩
  refine ⟨hs', ?_⟩
  rcases cloudAnswer_cases ha with ⟨hw, -⟩ | ⟨hw, -⟩
  · rw [hw, hc.2]
    exact hs.2
  · rw [hw]
    exact hs.2

/-- The inventory lists live rows. -/
theorem Twins.listServers (hs : Twins s) :
    Together cloudAnswer spares (Post (fun s' rows => Listed rows s') fun s' _ => Ended s')
      (call .listServers) s := by
  intro x
  refine (hs.meet rfl).mono ?_
  rintro r s' ⟨hs', ha⟩
  rcases r with e | rows
  · exact .inl hs'
  · refine ⟨hs', ?_⟩
    obtain ⟨⟨v, r', js⟩, ha, heq⟩ := Option.map_eq_some_iff.mp ha
    obtain ⟨hv, hr⟩ := Prod.mk.inj heq
    obtain ⟨-, -, ⟨-, hw, hres⟩ | ⟨-, -, hres⟩ | ⟨-, -, hres⟩⟩ := Cloud.answer_cases ha
    · rw [hr] at hres
      obtain rfl : rows = s.snd.listServers := Except.ok.inj hres
      rw [← hv, hw]
      intro r hmem
      obtain ⟨row, hrow, rfl⟩ := List.mem_map.mp hmem
      rw [List.mem_insertionSort] at hrow
      obtain ⟨hrow, hlive⟩ := List.mem_filter.mp hrow
      exact ⟨row, hrow, rfl, hlive⟩
    · rw [hr] at hres
      cases hres
    · rw [hr] at hres
      cases hres

/-- The deletion of a row tells the two worlds apart. -/
theorem Listed.softDelete {r : ClusterServer} {rows : List ClusterServer}
    (hs : Listed (r :: rows) s) :
    Meet (I := cloud) cloudAnswer spares s (.softDeleteServerRow r.id) x
      fun _ s' => Listed rows s' ∨ Apart s' := by
  have henforced : s.fst.enforceRls = true := by
    rw [hs.1.same]
    rfl
  refine meet_unscoped rfl (.inl ⟨hs.1, fun r' hr' => hs.2 r' (List.mem_cons_of_mem _ hr')⟩) (.inr ?_)
  refine ⟨rfl, henforced, hs.1.bypassed, .inr ⟨r.id, ?_, ?_⟩⟩
  · obtain ⟨row, hrow, hid, hlive⟩ := hs.2 r List.mem_cons_self
    refine ⟨row, ?_, hid, hlive⟩
    have hfst : row ∈ s.fst.servers := by
      rw [hs.1.same]
      exact hrow
    simp only [Cloud.execute, henforced]
    simpa using hfst
  · intro row hrow hid
    simp only [Cloud.execute, hs.1.bypassed] at hrow
    obtain ⟨row', -, rfl⟩ := List.mem_map.mp hrow
    by_cases hmatch : (!false && row'.id == r.id && row'.isLive) = true
    · rw [if_pos hmatch]
      rfl
    · rw [if_neg hmatch] at hid ⊢
      cases hlive : row'.isLive with
      | false => rfl
      | true => exact absurd (by simp [hid, hlive]) hmatch

/-- Later calls of a run neither see nor mend the difference. -/
theorem Apart.meet (hs : Apart s) (hc : c.isBlind = true)
    (hc' : c.isUnscoped = false ∨ ∃ id, c = .softDeleteServerRow id) :
    Meet (I := cloud) cloudAnswer spares s c x fun _ s' => Apart s' := by
  have hfine (b : Bool) : (s.fine && b) = false := by
    rw [hs.fine]
    rfl
  refine meet_blind hc (fun _ => ⟨hfine _, hs.enforced, hs.bypassed, hs.row⟩) fun _ => ?_
  refine ⟨hfine _, ?_, ?_, ?_⟩
  · rw [Cloud.execute_enforceRls]
    exact hs.enforced
  · rw [Cloud.execute_enforceRls]
    exact hs.bypassed
  · cases c with
    | updateStatus | publishTerminal => exact hs.row
    | finalizeWorkflowRow =>
      rcases hc' with h | ⟨id, h⟩
      · cases h
      · cases h
    | softDeleteServerRow id =>
      rcases hs.row with hrow | ⟨id', ⟨row, hrow, hid, hlive⟩, hall⟩
      · exact .inl hrow
      · refine .inr ⟨id', ⟨row, ?_, hid, hlive⟩, ?_⟩
        · simp only [Cloud.execute, hs.enforced]
          simpa using hrow
        · intro row hrow hid
          simp only [Cloud.execute] at hrow
          obtain ⟨row', hrow', rfl⟩ := List.mem_map.mp hrow
          split at hid
          · next h =>
            rw [if_pos h]
            rfl
          · next h =>
            rw [if_neg h]
            exact hall row' hrow' hid
    | _ => cases hc

end Calls

/-! ## The runs -/

section Runs

variable {s : Pair Cloud} {α β : Type}

/-- A part of a run in which both worlds answer the same, with `A` after it. -/
def Agrees (A : Pair Cloud → α → Prop) (p : Run α) (s : Pair Cloud) : Prop :=
  Together cloudAnswer spares (Post A fun s _ => Ended s) p.run s

theorem agrees_bind {p : Run α} {f : α → Run β} {A : Pair Cloud → α → Prop}
    {B : Pair Cloud → β → Prop} (hp : Agrees A p s) (hf : ∀ s a, A s a → Agrees B (f a) s) :
    Agrees B (p >>= f) s :=
  together_bindE hp hf fun _ _ h => h

theorem agrees_repository {A : Pair Cloud → α → Prop} {p : Program cloud (Except PlatformError α)}
    (h : Together cloudAnswer spares (Post A fun s _ => Ended s) p s) :
    Agrees A (repository p) s := by
  refine together_bind h ?_
  rintro s (e | a) h
  · exact h
  · exact h

theorem agrees_ignore {A : Pair Cloud → Unit → Prop} {p : Program cloud α}
    (h : Together cloudAnswer spares (fun s _ => A s ()) p s) : Agrees A (ignore p) s :=
  together_bindE (E := fun s _ => Ended s) (together_lift h) (fun _ _ h => h) fun _ _ h => h

/-- A part whose calls keep an invariant under which the worlds are the same. -/
theorem agrees_of_makes {K : CloudCall → Prop} {Inv : Pair Cloud → Prop} {p : Run α}
    (hp : Makes (I := cloud) K p.run) (hInv : ∀ s, Inv s → Twins s)
    (hK : ∀ c s x, K c → Inv s → Meet (I := cloud) cloudAnswer spares s c x fun _ s' => Inv s')
    (hs : Inv s) : Agrees (fun s' _ => Inv s') p s := by
  refine (together_of_makes hp hK hs).mono ?_
  rintro s' (e | a) h
  · exact .inl (hInv s' h)
  · exact h

def IsScoped (c : CloudCall) : Prop := c.isUnscoped = false

theorem isScoped_of_isActivity (c : CloudCall) (h : IsActivity c) : IsScoped c := by
  cases c <;> first | exact absurd h Bool.false_ne_true | rfl

theorem agrees_twins {p : Run α} (hp : Makes (I := cloud) IsScoped p.run) (hs : Twins s) :
    Agrees (fun s' _ => Twins s') p s :=
  agrees_of_makes hp (fun _ h => h) (fun _ _ _ hc h => (h.meet hc).mono fun _ _ h => h.1) hs

theorem agrees_opened {id : Uuid} {p : Run α} (hp : Makes (I := cloud) IsScoped p.run)
    (hs : Opened id s) : Agrees (fun s' _ => Opened id s') p s :=
  agrees_of_makes hp (fun _ h => h.1) (fun _ _ _ hc h => h.meet hc) hs

theorem agrees_listed {rows : List ClusterServer} {p : Run α}
    (hp : Makes (I := cloud) LeavesServers p.run) (hs : Listed rows s) :
    Agrees (fun s' _ => Listed rows s') p s :=
  agrees_of_makes hp (fun _ h => h.1) (fun _ _ _ hc h => h.meet hc) hs

/-- Publishing changes no table. -/
theorem agrees_publish (hs : Ended s) (status : ClusterStatus) (reason : Option String) :
    Agrees (fun s' _ => Ended s') (ignore (publishTerminal status reason)) s := by
  refine agrees_ignore ?_
  have hcall : Together cloudAnswer spares (fun s' _ => Ended s')
      (call (.publishTerminal status reason)) s := by
    intro x
    rcases hs with hs | hs
    · exact (hs.meet rfl).mono fun _ _ h => .inl h.1
    · exact (hs.meet rfl (.inl rfl)).mono fun _ _ h => .inr h
  cases status with
  | ready | failed | destroyed => exact hcall
  | pending | provisioning | scaling | destroying => exact hs

theorem storeKubeconfig_makes (kubeconfig : String) :
    Makes (I := cloud) IsScoped (ClusterService.storeKubeconfig kubeconfig).run := by
  unfold ClusterService.storeKubeconfig
  refine makes_bindE (makes_attempt (makes_call rfl)) fun secretId => ?_
  refine makes_bindE (makes_lift (makes_call rfl)) fun recorded => ?_
  cases recorded with
  | error err => exact makes_bindE (makes_ignore (makes_call rfl)) fun _ => trivial
  | ok _ => trivial

theorem recordServer_makes (role : ClusterNodeRole) (server : HetznerServer) :
    Makes (I := cloud) IsScoped (recordServer role server).run :=
  makes_attempt (makes_call rfl)

theorem runProvision_together {newV5 : String → Uuid} {clusterId : Uuid}
    (input : ProvisionClusterInput) (hs : Twins s) :
    Together cloudAnswer spares (fun s' _ => Ended s') (runProvision newV5 clusterId input).run s := by
  suffices h : Agrees (fun s' _ => Ended s') (runProvision newV5 clusterId input) s by
    refine Together.mono h ?_
    rintro s' (e | ⟨⟩) h
    · exact h
    · exact h
  unfold runProvision
  refine agrees_bind (agrees_twins (makes_lift (makes_call rfl)) hs) fun s₁ workflowRow h₁ => ?_
  refine agrees_bind (agrees_twins (makes_attempt (makes_call rfl)) h₁) fun s₂ _ h₂ => ?_
  refine agrees_bind (agrees_repository (h₂.insertWorkflowRow workflowRow)) fun s₃ _ h₃ => ?_
  refine agrees_bind (agrees_opened (makes_lift
    ((provisionCluster_makes (.inr ⟨workflowRow, rfl⟩) input).mono isScoped_of_isActivity)) h₃)
    fun s₄ result h₄ => ?_
  cases result with
  | error err =>
    refine agrees_bind (agrees_opened (makes_ignore (makes_call rfl)) h₄) fun s₅ _ h₅ => ?_
    refine agrees_bind (A := fun s' _ => Ended s') (agrees_ignore fun x => h₅.finalize _ _)
      fun s₆ _ h₆ => ?_
    exact agrees_bind (agrees_publish h₆ _ _) fun _ _ h => h
  | ok output =>
    refine agrees_bind (agrees_opened (recordServer_makes _ _) h₄) fun s₅ _ h₅ => ?_
    refine agrees_bind (agrees_opened (makes_forM (recordServer_makes _) _) h₅) fun s₆ _ h₆ => ?_
    refine agrees_bind (agrees_opened (storeKubeconfig_makes _) h₆) fun s₇ _ h₇ => ?_
    refine agrees_bind (agrees_opened (makes_attempt (makes_call rfl)) h₇) fun s₈ _ h₈ => ?_
    refine agrees_bind (A := fun s' _ => Ended s') (agrees_repository fun x => ?_)
      fun s₉ _ h₉ => agrees_publish h₉ _ _
    refine (h₈.finalize _ _).mono ?_
    rintro (e | ⟨⟩) s' h
    · exact h
    · exact h

/-- The status is written and published, whatever the rows. -/
theorem agrees_status (hs : Ended s) (status : ClusterStatus) (reason : Option String) :
    Together cloudAnswer spares (fun s' _ => Ended s') (call (.updateStatus status reason)) s := by
  intro x
  rcases hs with hs | hs
  · exact (hs.meet rfl).mono fun _ _ h => .inl h.1
  · exact (hs.meet rfl (.inl rfl)).mono fun _ _ h => .inr h

theorem runScaleIn_together {clusterId : Uuid} (clusterName : String) (count : Nat)
    (hs : Twins s) :
    Together cloudAnswer spares (fun s' _ => Ended s')
      (runScaleIn clusterId clusterName count).run s := by
  suffices h : Agrees (fun s' _ => Ended s') (runScaleIn clusterId clusterName count) s by
    refine Together.mono h ?_
    rintro s' (e | ⟨⟩) h
    · exact h
    · exact h
  unfold runScaleIn
  refine agrees_bind (agrees_twins (makes_attempt (makes_call rfl)) hs) fun s₁ _ h₁ => ?_
  refine agrees_bind (agrees_repository h₁.listServers) fun s₂ servers h₂ => ?_
  have hremove : Listed (workersToRemove servers count) s₂ :=
    ⟨h₂.1, fun r hr => h₂.2 r (workersToRemove_subset servers count hr)⟩
  refine agrees_bind (agrees_listed ?_ hremove) fun s₃ kubeconfig h₃ => ?_
  · unfold ClusterService.fetchKubeconfig
    refine makes_bindE (makes_attempt (makes_call ⟨rfl, fun _ _ => rfl⟩)) fun secretId => ?_
    cases secretId with
    | none => trivial
    | some secretId => exact makes_attempt (makes_call ⟨rfl, fun _ _ => rfl⟩)
  refine agrees_bind (agrees_listed (makes_lift (makes_call ⟨rfl, fun _ _ => rfl⟩)) h₃)
    fun s₄ fileId h₄ => ?_
  refine agrees_bind (agrees_listed (makes_attempt (makes_call ⟨rfl, fun _ _ => rfl⟩)) h₄)
    fun s₅ _ h₅ => ?_
  refine agrees_bind (agrees_listed (makes_lift
    ((scaleIn_makes _ _).mono leavesServers_of_joined)) h₅) fun s₆ result h₆ => ?_
  refine agrees_bind (agrees_listed (makes_ignore (makes_call ⟨rfl, fun _ _ => rfl⟩)) h₆)
    fun s₇ _ h₇ => ?_
  cases result with
  | error err =>
    refine agrees_bind (agrees_ignore (A := fun s' _ => Ended s')
      (agrees_status (.inl h₇.1) _ _)) fun s₈ _ h₈ => ?_
    exact agrees_bind (agrees_publish h₈ _ _) fun _ _ h => h
  | ok _ =>
    refine agrees_bind (A := fun s' _ => Ended s') ?_ fun s₈ _ h₈ => ?_
    · refine (together_forM (K := fun rows s' => Listed rows s' ∨ Apart s')
        (E := fun s' _ => Ended s') ?_ _ (.inl h₇)).mono ?_
      · intro r rows s' h
        refine agrees_ignore fun x => ?_
        rcases h with h | h
        · exact h.softDelete
        · exact (h.meet rfl (.inr ⟨r.id, rfl⟩)).mono fun _ _ h => .inr h
      · rintro s' (e | ⟨⟩) h
        · exact h
        · exact h.imp_left And.left
    · refine agrees_bind (A := fun s' _ => Ended s') (agrees_repository ?_)
        fun s₉ _ h₉ => agrees_publish h₉ _ _
      refine (agrees_status h₈ _ _).mono ?_
      rintro s' (e | ⟨⟩) h
      · exact h
      · exact h

/-- What follows for the two runs of a program that ends so. -/
theorem replay_eq_iff {p : Program cloud α} {w : Cloud}
    (hp : Together cloudAnswer spares (fun s' _ => Ended s') p ⟨w.withRls true, w.withRls false, true⟩)
    {xs : Nat → Outcome} (h : (p.replay cloudAnswer xs 0 (w.withRls false)).isSome = true) :
    (p.replay cloudAnswer xs 0 (w.withRls true)).map (fun (v, a) => (v.withRls false, a)) =
        p.replay cloudAnswer xs 0 (w.withRls false) ↔
      p.replayAll cloudAnswer xs spares 0 (w.withRls false) = true := by
  rcases hp.replay xs 0 with ⟨-, hnone⟩ | ⟨w₁, w₂, b, h₁, h₂, hended⟩
  · rw [hnone] at h
    cases h
  · have hiff := hended.iff
    rw [Bool.true_and] at hiff
    rw [h₁, h₂, ← hiff]
    simp

end Runs

end Kubinate.Clusters
