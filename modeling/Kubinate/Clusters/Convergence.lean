import Kubinate.Clusters.Finality

/-!
# Destroying again

A destroy is a chain of steps that are committed one by one, and a failed one is meant to be
completed by running it again. That works up to the deletion of the row: from there on a
second destroy does not find the cluster, so the status has to be written by the first.

* `runDestroy_ends`: how a destroy can leave a cluster behind, whatever its calls come to.
* `converges_iff`: a second destroy in which everything succeeds completes the first exactly
  if the first one was told of the deletion of the row and its write of the last status
  took effect.
-/

namespace Kubinate.Clusters

open Platform Library

/-! ## What is left of a cluster -/

namespace Cloud

variable (w : Cloud)

/-- The servers of the live rows. -/
def recorded : List Nat := w.liveServers.map (·.hetznerServerId)

/-- There is no such server at the provider. -/
def Gone (id : Nat) : Prop := ∀ server ∈ w.alive, server.id ≠ id

end Cloud

/-- Nothing is left of `w` in `w'`: the cluster is destroyed and deleted, the servers that it
had on record are gone and so are their rows. -/
structure Converged (w w' : Cloud) : Prop where
  status : w'.cluster.status = .destroyed
  deleted : w'.isDeleted = true
  servers : ∀ id ∈ w.recorded, w'.Gone id
  rows : w'.recorded = []

/-- What is remembered of how the calls of a destroy went. -/
structure Marks where
  allOk : Bool := true
  /-- the deletion of the row was answered and the last status was written -/
  kept : Bool := true

/-- Neither is the reply to the deletion of the row lost, nor does the write of the last
status fail. -/
def keepsRow (c : CloudCall) (x : Outcome) : Bool :=
  match c with
  | .softDelete => x.reply != .lost
  | .updateStatus .destroyed _ => x.reply != .failed
  | _ => true

def Marks.next (g : Marks) (c : CloudCall) (x : Outcome) : Marks where
  allOk := g.allOk && x.reply == .ok
  kept := g.kept && keepsRow c x

/-- How a call of a destroy may go. What succeeds is not asked whether it is possible. -/
def Replies (s : Cloud × Marks) (c : cloud.Call) (r : cloud.Answer c) (s' : Cloud × Marks) : Prop :=
  ∃ x : Outcome, s'.2 = s.2.next c x ∧
    (x.reply = .ok ∧ s'.1 = (s.1.execute 0 x c).1 ∧ r = (s.1.execute 0 x c).2 ∨
      s.1.impossible x c = false ∧ r = Cloud.broken x c ∧
        (x.reply = .failed ∧ s'.1 = s.1 ∨ x.reply = .lost ∧ s'.1 = (s.1.execute 0 x c).1))

theorem replies_of_answers {D : Deployment} {external : ClusterJob → Bool} {s s' : Cloud × Marks}
    {c : cloud.Call} {r : cloud.Answer c}
    (h : (runnerPool D external).Answers Marks.next s c r s') : Replies s c r s' := by
  obtain ⟨x, js, ha, hmark⟩ := h
  obtain ⟨himp, -, hcases⟩ := Cloud.answer_cases ha
  refine ⟨x, hmark, ?_⟩
  rcases hcases with ⟨hr, hw, hres⟩ | ⟨hr, hw, hres⟩ | ⟨hr, hw, hres⟩
  · exact .inl ⟨hr, hw, hres⟩
  · exact .inr ⟨himp, hres, .inl ⟨hr, hw⟩⟩
  · exact .inr ⟨himp, hres, .inr ⟨hr, hw⟩⟩

/-! ## Up to the deletion of the row -/

/-- Of `w₀` nothing is lost: the row is live, and every server that was on record is so still
or is gone. -/
structure Mid (w₀ w : Cloud) : Prop where
  live : w.isDeleted = false
  status : w.cluster.status ≠ .destroyed
  servers : ∀ id ∈ w₀.recorded, id ∈ w.recorded ∨ w.Gone id

def Midway (w₀ : Cloud) (s : Cloud × Marks) : Prop := s.2.kept = true ∧ Mid w₀ s.1

/-- All servers are gone. -/
def Bare (w₀ : Cloud) (s : Cloud × Marks) : Prop :=
  Midway w₀ s ∧ ∀ id ∈ w₀.recorded, s.1.Gone id

/-- A destroy that was told of a failure and can be tried again. -/
def Halted (w₀ : Cloud) (s : Cloud × Marks) : Prop := Midway w₀ s ∧ s.2.allOk = false

/-- How a destroy can end. -/
def Left (w₀ : Cloud) (s : Cloud × Marks) : Prop :=
  Halted w₀ s ∨ s.2.kept = true ∧ Converged w₀ s.1 ∨
    s.2.kept = false ∧ s.2.allOk = false ∧ s.1.isDeleted = true ∧ s.1.cluster.status ≠ .destroyed

section Walk

variable {w₀ w : Cloud} {s s' : Cloud × Marks} {c : CloudCall} {r : c.Answer} {x : Outcome}
  {α β : Type}

theorem Cloud.recorded_nil (h : ∀ r ∈ w.servers, r.isLive = false) : w.recorded = [] := by
  rw [Cloud.recorded, Cloud.liveServers, List.filter_eq_nil_iff.mpr, List.map_nil]
  intro r hr
  rw [h r hr]
  exact Bool.false_ne_true

/-- The inventory names the servers on record. -/
theorem Cloud.mem_listServers {id : Nat} :
    id ∈ w.listServers.map (·.hetznerServerId) ↔ id ∈ w.recorded := by
  simp [Cloud.listServers, Cloud.recorded]

/-- What the world does with a call: it succeeds, or the destroy is told of a failure. -/
theorem replies_cases (h : Replies s c r s') :
    ∃ x, s'.2.kept = (s.2.kept && keepsRow c x) ∧
      (x.reply = .ok ∧ s'.1 = (s.1.execute 0 x c).1 ∧ r = (s.1.execute 0 x c).2 ∨
        s'.2.allOk = false ∧ s.1.impossible x c = false ∧ r = Cloud.broken x c ∧
          (x.reply = .failed ∧ s'.1 = s.1 ∨ x.reply = .lost ∧ s'.1 = (s.1.execute 0 x c).1)) := by
  obtain ⟨x, hmark, hcases⟩ := h
  refine ⟨x, by rw [hmark]; rfl, ?_⟩
  rcases hcases with hok | ⟨himp, hr, hw⟩
  · exact .inl hok
  · refine .inr ⟨?_, himp, hr, hw⟩
    rw [hmark, Marks.next]
    rcases hw with ⟨hreply, -⟩ | ⟨hreply, -⟩
    · rw [hreply]
      exact Bool.and_false _
    · rw [hreply]
      exact Bool.and_false _

/-- A call that leaves nothing behind and is not one of the last two. -/
theorem Midway.reply (hs : Midway w₀ s) (hc : ∀ x, keepsRow c x = true)
    (hx : ∀ x, Mid w₀ (s.1.execute 0 x c).1) (h : Replies s c r s') :
    Midway w₀ s' ∧
      ((∃ x, s'.1 = (s.1.execute 0 x c).1 ∧ r = (s.1.execute 0 x c).2) ∨
        s'.2.allOk = false ∧ ∃ x, r = Cloud.broken x c) := by
  obtain ⟨x, hkept, hcases⟩ := replies_cases h
  rw [hs.1, hc x] at hkept
  rcases hcases with ⟨-, hw, hr⟩ | ⟨hfailed, -, hr, ⟨-, hw⟩ | ⟨-, hw⟩⟩
  · exact ⟨⟨hkept, hw ▸ hx x⟩, .inl ⟨x, hw, hr⟩⟩
  · exact ⟨⟨hkept, hw ▸ hs.2⟩, .inr ⟨hfailed, x, hr⟩⟩
  · exact ⟨⟨hkept, hw ▸ hx x⟩, .inr ⟨hfailed, x, hr⟩⟩

/-- A part of a destroy after which `A` holds, unless the destroy ends there. -/
def Takes (w₀ : Cloud) (A : Cloud × Marks → α → Prop) (p : Run α) (s : Cloud × Marks) : Prop :=
  Always Replies (Post A fun s _ => Left w₀ s) p.run s

theorem takes_bind {p : Run α} {f : α → Run β} {A : Cloud × Marks → α → Prop}
    {B : Cloud × Marks → β → Prop} (hp : Takes w₀ A p s)
    (hf : ∀ s a, A s a → Takes w₀ B (f a) s) : Takes w₀ B (p >>= f) s :=
  always_bindE hp hf fun _ _ h => h

theorem takes_repository {A : Cloud × Marks → α → Prop} {p : Program cloud (Except PlatformError α)}
    (h : Always Replies (Post A fun s _ => Left w₀ s) p s) : Takes w₀ A (repository p) s := by
  refine always_bind h ?_
  rintro s' (e | a) hr
  · exact hr
  · exact hr

theorem takes_ignore {A : Cloud × Marks → Unit → Prop} {p : Program cloud α}
    (h : Always Replies (fun s _ => A s ()) p s) : Takes w₀ A (ignore p) s :=
  always_bindE (E := fun s _ => Left w₀ s) (always_lift h) (fun _ _ h => h) fun _ _ h => h

theorem takes_get (hs : Midway w₀ s) :
    Takes w₀ (fun s cluster => Midway w₀ s ∧ cluster.status ≠ .destroyed)
      (repository (call .get)) s := by
  refine takes_repository fun r s' h => ?_
  obtain ⟨hs', ⟨x, -, rfl⟩ | ⟨hfailed, x, rfl⟩⟩ :=
    hs.reply (c := .get) (fun _ => rfl) (fun _ => hs.2) h
  · have hnone : s.1.cluster.deletedAt.isNone = true := by
      rw [← Option.not_isSome]
      exact congrArg not hs.2.live
    simp only [Cloud.execute, hnone]
    exact ⟨hs', hs.2.status⟩
  · exact .inl ⟨hs', hfailed⟩

/-- A write of a status that is not the last one. -/
theorem Mid.updateStatus {status : ClusterStatus} {reason : Option String} (h : Mid w₀ w)
    (hstatus : status ≠ .destroyed) (x : Outcome) :
    Mid w₀ (w.execute 0 x (.updateStatus status reason)).1 :=
  ⟨h.live, hstatus, h.servers⟩

theorem keepsRow_updateStatus {status : ClusterStatus} {reason : Option String}
    (hstatus : status ≠ .destroyed) (x : Outcome) :
    keepsRow (.updateStatus status reason) x = true := by
  cases status with
  | destroyed => exact absurd rfl hstatus
  | _ => rfl

theorem beginDestroy_takes (hs : Midway w₀ s) :
    Takes w₀ (fun s _ => Midway w₀ s) ClusterService.beginDestroy s := by
  unfold ClusterService.beginDestroy
  refine takes_bind (takes_get hs) fun s₁ cluster ⟨h₁, hstatus⟩ => ?_
  refine always_iteE (fun h => absurd h hstatus) fun _ => ?_
  refine takes_bind (A := fun s _ => Midway w₀ s) (takes_repository fun r s' h => ?_) fun _ _ h => h
  obtain ⟨hs', ⟨x, -, rfl⟩ | ⟨hfailed, x, rfl⟩⟩ :=
    h₁.reply (keepsRow_updateStatus (by simp)) (h₁.2.updateStatus (by simp)) h
  · exact hs'
  · exact .inl ⟨hs', hfailed⟩

theorem takes_listServers (hs : Midway w₀ s) :
    Takes w₀ (fun s servers => Midway w₀ s ∧
        ∀ id ∈ w₀.recorded, id ∈ servers.map (·.hetznerServerId) ∨ s.1.Gone id)
      (repository (call .listServers)) s := by
  refine takes_repository fun r s' h => ?_
  obtain ⟨hs', ⟨x, hw, rfl⟩ | ⟨hfailed, x, rfl⟩⟩ :=
    hs.reply (c := .listServers) (fun _ => rfl) (fun _ => hs.2) h
  · refine ⟨hs', fun id hid => ?_⟩
    rcases hs.2.servers id hid with hrow | hgone
    · exact .inl (Cloud.mem_listServers.mpr hrow)
    · exact .inr (hw ▸ hgone)
  · exact .inl ⟨hs', hfailed⟩

/-! ### The servers -/

/-- Deleting a server. -/
theorem Cloud.execute_deleteServer {i : Nat} (x : Outcome) (id : Nat) :
    (w.execute i x (.deleteServer id)).1 = { w with alive := w.alive.filter (·.id != id) } := by
  simp only [Cloud.execute]
  split
  · rfl
  · next h =>
    rw [List.filter_eq_self.mpr]
    intro server hserver
    simp only [List.any_eq_true, not_exists, not_and] at h
    simpa using h server hserver

theorem Cloud.Gone.deleteServer {id id' : Nat} (h : w.Gone id') (x : Outcome) :
    (w.execute 0 x (.deleteServer id)).1.Gone id' := by
  rw [Cloud.execute_deleteServer]
  exact fun server hserver => h server (List.mem_of_mem_filter hserver)

theorem Cloud.gone_deleteServer (x : Outcome) (id : Nat) :
    (w.execute 0 x (.deleteServer id)).1.Gone id := by
  rw [Cloud.execute_deleteServer]
  intro server hserver
  simpa using (List.mem_filter.mp hserver).2

theorem Mid.deleteServer (h : Mid w₀ w) (x : Outcome) (id : Nat) :
    Mid w₀ (w.execute 0 x (.deleteServer id)).1 := by
  have hservers : ∀ id' ∈ w₀.recorded,
      id' ∈ w.recorded ∨ (w.execute 0 x (.deleteServer id)).1.Gone id' := by
    intro id' hid
    exact (h.servers id' hid).imp_right fun hgone => hgone.deleteServer x
  rw [Cloud.execute_deleteServer] at hservers ⊢
  exact ⟨h.live, h.status, hservers⟩

/-- A server that is reported as gone is gone. -/
theorem replies_deleteServer {id : Nat} {r : Except HetznerError Unit}
    (h : Replies s (.deleteServer id) r s') :
    (∀ id', s.1.Gone id' → s'.1.Gone id') ∧
      (if RunRecord.confirmed r then s'.1.Gone id else s'.2.allOk = false) := by
  obtain ⟨x, -, ⟨-, hw, hr⟩ | ⟨hfailed, himp, hr, hw⟩⟩ := replies_cases h
  · have hgone : s'.1.Gone id := hw ▸ Cloud.gone_deleteServer x id
    have hconfirmed : RunRecord.confirmed r = true := by
      simp only [Cloud.execute] at hr
      split at hr
      · rw [hr]
        rfl
      · rw [hr]
        rfl
    rw [hconfirmed]
    exact ⟨fun id' h => hw ▸ h.deleteServer x, hgone⟩
  · have hmono : ∀ id', s.1.Gone id' → s'.1.Gone id' := by
      intro id' hgone
      rcases hw with ⟨-, hw⟩ | ⟨-, hw⟩
      · exact hw ▸ hgone
      · exact hw ▸ hgone.deleteServer x
    refine ⟨hmono, ?_⟩
    subst hr
    by_cases he : x.hetznerError.isNotFound = true
    · -- the provider says so only of a server that is not there
      have hgone : s.1.Gone id := by
        intro server hserver heq
        rcases hw with ⟨hreply, -⟩ | ⟨hreply, -⟩
        · simp [Cloud.impossible, hreply, he] at himp
          exact himp server hserver heq
        · simp [Cloud.impossible, hreply, he] at himp
          exact himp server hserver heq
      simp only [Cloud.broken, RunRecord.confirmed, he, ↓reduceIte]
      exact hmono id hgone
    · simp only [Cloud.broken, RunRecord.confirmed, he]
      exact hfailed

theorem deleteServer_always {id : Nat} {E : Cloud × Marks → ActivityError → Prop}
    (hs : Midway w₀ s) (hE : ∀ s e, Halted w₀ s → E s e) :
    Always Replies (Post (fun s' _ => Midway w₀ s' ∧ s'.1.Gone id ∧
        ∀ id', s.1.Gone id' → s'.1.Gone id') E)
      (hetznerDeleteServerIdempotent id).run s := by
  refine always_bind (Q := fun s' (r : Except HetznerError Unit) => Midway w₀ s' ∧
    (∀ id', s.1.Gone id' → s'.1.Gone id') ∧
    (if RunRecord.confirmed r then s'.1.Gone id else s'.2.allOk = false)) ?_ ?_
  · intro r s' h
    exact ⟨(hs.reply (fun _ => rfl) (fun x => hs.2.deleteServer x id) h).1, replies_deleteServer h⟩
  · rintro s' (e | ⟨⟩) ⟨hmid, hmono, hgone⟩
    · by_cases he : e.isNotFound = true
      · rw [RunRecord.confirmed, he] at hgone
        simp only [he]
        exact ⟨hmid, hgone, hmono⟩
      · rw [RunRecord.confirmed, if_neg he] at hgone
        simp only [he]
        exact hE _ _ ⟨hmid, hgone⟩
    · exact ⟨hmid, hgone, hmono⟩

/-- A step of the progress is only published. -/
theorem publishStep_always {K : Cloud × Marks → Prop} (step : String)
    (hK : ∀ s', Midway w₀ s' → s'.1.alive = s.1.alive → K s') (hs : Midway w₀ s) :
    Always Replies (fun s' _ => K s') (hubOnlyProgress step) s := by
  intro r s' h
  obtain ⟨hs', -⟩ := hs.reply (c := .publishStep step) (fun _ => rfl) (fun _ => hs.2) h
  obtain ⟨x, -, ⟨-, hw, -⟩ | ⟨-, -, -, ⟨-, hw⟩ | ⟨-, hw⟩⟩⟩ := replies_cases h
  · exact hK s' hs' (by rw [hw]; rfl)
  · exact hK s' hs' (by rw [hw])
  · exact hK s' hs' (by rw [hw]; rfl)

/-- All servers that are on record are deleted, or the workflow fails. -/
theorem destroyCluster_always {ids : List Nat} (hs : Midway w₀ s)
    (hids : ∀ id ∈ w₀.recorded, id ∈ ids ∨ s.1.Gone id) :
    Always Replies (Post (fun s' _ => Bare w₀ s') fun s' _ => Halted w₀ s')
      (destroyCluster hubOnlyProgress ids).run s := by
  unfold destroyCluster
  refine always_bindE (A := fun s' _ => Midway w₀ s' ∧
      ∀ id ∈ w₀.recorded, id ∈ ids ∨ s'.1.Gone id) (E := fun s' _ => Halted w₀ s')
    (always_lift (publishStep_always _ (fun s' hs' halive => ⟨hs', fun id hid => ?_⟩) hs)) ?_
    fun _ _ h => h
  · rw [Cloud.Gone, halive]
    exact hids id hid
  intro s₁ _ h₁
  refine always_bindE (always_forM (K := fun ids s' => Midway w₀ s' ∧
      ∀ id ∈ w₀.recorded, id ∈ ids ∨ s'.1.Gone id) (E := fun s' _ => Halted w₀ s') ?_ ids h₁) ?_
    fun _ _ h => h
  · rintro id rest s' ⟨hs', hrest⟩
    refine (deleteServer_always (E := fun s' _ => Halted w₀ s') hs' fun _ _ h => h).mono ?_
    rintro s'' (e | ⟨⟩) h
    · exact h
    · obtain ⟨hs'', hgone, hmono⟩ := h
      refine ⟨hs'', fun id' hid' => ?_⟩
      rcases hrest id' hid' with hmem | hgone'
      · rcases List.mem_cons.mp hmem with rfl | hmem
        · exact .inr hgone
        · exact .inl hmem
      · exact .inr (hmono id' hgone')
  · intro s₂ _ h₂
    refine always_lift (publishStep_always _ (fun s' hs' halive => ⟨hs', fun id hid => ?_⟩) h₂.1)
    rw [Cloud.Gone, halive]
    exact (h₂.2 id hid).resolve_left (List.not_mem_nil)

/-! ### The rows -/

theorem Mid.softDeleteServers (h : Mid w₀ w) (hgone : ∀ id ∈ w₀.recorded, w.Gone id) (x : Outcome) :
    Mid w₀ (w.execute 0 x .softDeleteServers).1 :=
  ⟨h.live, h.status, fun id hid => .inr (hgone id hid)⟩

theorem Cloud.recorded_softDeleteServers (x : Outcome) :
    (w.execute 0 x .softDeleteServers).1.recorded = [] := by
  refine Cloud.recorded_nil fun r hr => ?_
  obtain ⟨r', -, rfl⟩ := List.mem_map.mp hr
  by_cases hlive : r'.isLive = true
  · rw [if_pos hlive]
    rfl
  · rw [if_neg hlive]
    simpa using hlive

/-- The servers are gone and so are their rows. -/
def Swept (w₀ : Cloud) (s : Cloud × Marks) : Prop := Bare w₀ s ∧ s.1.recorded = []

theorem takes_softDeleteServers (hs : Bare w₀ s) :
    Takes w₀ (fun s' _ => Swept w₀ s') (repository (call .softDeleteServers)) s := by
  refine takes_repository fun r s' h => ?_
  obtain ⟨hs', ⟨x, hw, rfl⟩ | ⟨hfailed, x, rfl⟩⟩ :=
    hs.1.reply (fun _ => rfl) (hs.1.2.softDeleteServers hs.2) h
  · refine ⟨⟨hs', fun id hid => ?_⟩, ?_⟩
    · rw [hw]
      exact hs.2 id hid
    · rw [hw]
      exact Cloud.recorded_softDeleteServers x
  · exact .inl ⟨hs', hfailed⟩

/-- Neither the row of the cluster nor its servers differ. -/
structure Cloud.Alike (w w' : Cloud) : Prop where
  cluster : w'.cluster = w.cluster
  servers : w'.servers = w.servers
  alive : w'.alive = w.alive

theorem Cloud.Alike.recorded {w' : Cloud} (h : w.Alike w') : w'.recorded = w.recorded := by
  rw [Cloud.recorded, Cloud.liveServers, h.servers]
  rfl

theorem Cloud.Alike.gone {w' : Cloud} (h : w.Alike w') {id : Nat} : w'.Gone id ↔ w.Gone id := by
  rw [Cloud.Gone, h.alive]
  rfl

theorem Cloud.Alike.mid {w' : Cloud} (h : w.Alike w') (hw : Mid w₀ w) : Mid w₀ w' := by
  obtain ⟨hlive, hstatus, hservers⟩ := hw
  rw [Cloud.isDeleted, ← h.cluster] at hlive
  rw [← h.cluster] at hstatus
  refine ⟨hlive, hstatus, fun id hid => ?_⟩
  rw [h.recorded, h.gone]
  exact hservers id hid

theorem Cloud.Alike.swept {w' : Cloud} {g g' : Marks} (h : w.Alike w') (hs : Swept w₀ (w, g))
    (hg : g'.kept = true) : Swept w₀ (w', g') := by
  obtain ⟨⟨⟨-, hmid⟩, hgone⟩, hrows⟩ := hs
  exact ⟨⟨⟨hg, h.mid hmid⟩, fun id hid => h.gone.mpr (hgone id hid)⟩, h.recorded.trans hrows⟩

/-- A call that touches neither the row of the cluster nor its servers. -/
theorem Swept.reply (hs : Swept w₀ s) (hc : ∀ x, keepsRow c x = true)
    (halike : ∀ x, s.1.Alike (s.1.execute 0 x c).1) (h : Replies s c r s') :
    Swept w₀ s' ∧ ((∃ x, r = (s.1.execute 0 x c).2) ∨
      s'.2.allOk = false ∧ ∃ x, r = Cloud.broken x c) := by
  obtain ⟨hmid, -⟩ := hs.1.1.reply hc (fun x => (halike x).mid hs.1.1.2) h
  obtain ⟨x, -, ⟨-, hw, hr⟩ | ⟨hfailed, -, hr, ⟨-, hw⟩ | ⟨-, hw⟩⟩⟩ := replies_cases h
  · exact ⟨(hw ▸ halike x : s.1.Alike s'.1).swept hs hmid.1, .inl ⟨x, hr⟩⟩
  · exact ⟨Cloud.Alike.swept ⟨by rw [hw], by rw [hw], by rw [hw]⟩ hs hmid.1, .inr ⟨hfailed, x, hr⟩⟩
  · exact ⟨(hw ▸ halike x : s.1.Alike s'.1).swept hs hmid.1, .inr ⟨hfailed, x, hr⟩⟩

/-! ## The last two calls -/

/-- The row is deleted: the destroy is told so, or it can do nothing more. -/
theorem takes_softDelete (hs : Swept w₀ s) :
    Takes w₀ (fun s' _ => s'.2.kept = true ∧ s'.1.isDeleted = true ∧
        s'.1.cluster.status ≠ .destroyed ∧ (∀ id ∈ w₀.recorded, s'.1.Gone id) ∧
        s'.1.recorded = [])
      (repository (call .softDelete)) s := by
  refine takes_repository fun r s' h => ?_
  have hnone : s.1.cluster.deletedAt.isNone = true := by
    rw [← Option.not_isSome]
    exact congrArg not hs.1.1.2.live
  obtain ⟨x, hkept, hcases⟩ := replies_cases h
  rw [hs.1.1.1, Bool.true_and] at hkept
  rcases hcases with ⟨hreply, hw, rfl⟩ | ⟨hfailed, -, rfl, ⟨hreply, hw⟩ | ⟨hreply, hw⟩⟩
  · rw [keepsRow, hreply] at hkept
    simp only [Cloud.execute, hnone] at hw
    refine ⟨hkept, ?_⟩
    rw [hw]
    exact ⟨rfl, hs.1.1.2.status, hs.1.2, hs.2⟩
  · rw [keepsRow, hreply] at hkept
    refine .inl ⟨⟨hkept, ?_⟩, hfailed⟩
    rw [hw]
    exact hs.1.1.2
  · rw [keepsRow, hreply] at hkept
    refine .inr (.inr ⟨hkept, hfailed, ?_⟩)
    simp only [Cloud.execute, hnone] at hw
    rw [hw]
    exact ⟨rfl, hs.1.1.2.status⟩

theorem takes_destroyed (hkept : s.2.kept = true) (hdeleted : s.1.isDeleted = true)
    (hstatus : s.1.cluster.status ≠ .destroyed) (hgone : ∀ id ∈ w₀.recorded, s.1.Gone id)
    (hrows : s.1.recorded = []) :
    Takes w₀ (fun s' _ => s'.2.kept = true ∧ Converged w₀ s'.1)
      (repository (call (.updateStatus .destroyed none))) s := by
  refine takes_repository fun r s' h => ?_
  obtain ⟨x, hmark, hcases⟩ := replies_cases h
  rw [hkept, Bool.true_and] at hmark
  rcases hcases with ⟨hreply, hw, rfl⟩ | ⟨hfailed, -, rfl, ⟨hreply, hw⟩ | ⟨hreply, hw⟩⟩
  · rw [keepsRow, hreply] at hmark
    refine ⟨hmark, ?_⟩
    rw [hw]
    exact ⟨rfl, hdeleted, hgone, hrows⟩
  · rw [keepsRow, hreply] at hmark
    refine .inr (.inr ⟨hmark, hfailed, ?_⟩)
    rw [hw]
    exact ⟨hdeleted, hstatus⟩
  · -- the reply is lost, but the write is not
    rw [keepsRow, hreply] at hmark
    refine .inr (.inl ⟨hmark, ?_⟩)
    rw [hw]
    exact ⟨rfl, hdeleted, hgone, hrows⟩

theorem finalizeDestroy_takes (hs : Swept w₀ s) :
    Takes w₀ (fun s' _ => s'.2.kept = true ∧ Converged w₀ s'.1) ClusterService.finalizeDestroy s := by
  have hrest : ∀ s, Swept w₀ s → Takes w₀ (fun s' _ => s'.2.kept = true ∧ Converged w₀ s'.1) (do
      repository (call .softDelete)
      repository (call (.updateStatus .destroyed none))) s := by
    intro s hs
    refine takes_bind (takes_softDelete hs) ?_
    rintro s' _ ⟨hkept, hdeleted, hstatus, hgone, hrows⟩
    exact takes_destroyed hkept hdeleted hstatus hgone hrows
  have hnone : s.1.cluster.deletedAt.isNone = true := by
    rw [← Option.not_isSome]
    exact congrArg not hs.1.1.2.live
  unfold ClusterService.finalizeDestroy
  refine takes_bind (A := fun s' _ => Swept w₀ s') (takes_repository fun r s' h => ?_)
    fun s' secretId hs' => ?_
  · obtain ⟨hs', ⟨x, rfl⟩ | ⟨hfailed, x, rfl⟩⟩ :=
      hs.reply (c := .kubeconfigSecret) (fun _ => rfl) (fun _ => ⟨rfl, rfl, rfl⟩) h
    · simp only [Cloud.execute, hnone]
      exact hs'
    · exact .inl ⟨hs'.1.1, hfailed⟩
  · cases secretId with
    | none => exact hrest s' hs'
    | some secretId =>
      refine takes_bind (A := fun s' _ => Swept w₀ s') (takes_ignore fun r s'' h => ?_)
        fun s'' _ hs'' => hrest s'' hs''
      refine (hs'.reply (c := .deleteSecret secretId) (fun _ => rfl) (fun x => ?_) h).1
      simp only [Cloud.execute]
      split <;> exact ⟨rfl, rfl, rfl⟩

/-- A settled status is only published. -/
theorem publishTerminal_always {K : Cloud × Marks → Prop} {status : ClusterStatus}
    (reason : Option String) (hs : K s)
    (hK : ∀ s', s'.2.kept = s.2.kept → (s.2.allOk = false → s'.2.allOk = false) →
      s.1.Alike s'.1 → K s') :
    Always Replies (fun s' _ => K s') (publishTerminal status reason) s := by
  have hcall : Always Replies (fun s' _ => K s') (call (.publishTerminal status reason)) s := by
    intro r s' h
    have hmono : s.2.allOk = false → s'.2.allOk = false := by
      obtain ⟨x, hmark, -⟩ := h
      intro hfailed
      rw [hmark, Marks.next, hfailed]
      rfl
    obtain ⟨x, hmark, ⟨-, hw, -⟩ | ⟨-, -, -, ⟨-, hw⟩ | ⟨-, hw⟩⟩⟩ := replies_cases h
    · exact hK s' (hmark.trans (Bool.and_true _)) hmono (by rw [hw]; exact ⟨rfl, rfl, rfl⟩)
    · exact hK s' (hmark.trans (Bool.and_true _)) hmono (by rw [hw]; exact ⟨rfl, rfl, rfl⟩)
    · exact hK s' (hmark.trans (Bool.and_true _)) hmono (by rw [hw]; exact ⟨rfl, rfl, rfl⟩)
  cases status with
  | ready | failed | destroyed => exact hcall
  | pending | provisioning | scaling | destroying => exact hs

theorem Cloud.Alike.converged {w' : Cloud} (h : w.Alike w') (hw : Converged w₀ w) :
    Converged w₀ w' := by
  obtain ⟨hstatus, hdeleted, hservers, hrows⟩ := hw
  rw [← h.cluster] at hstatus
  rw [Cloud.isDeleted, ← h.cluster] at hdeleted
  exact ⟨hstatus, hdeleted, fun id hid => h.gone.mpr (hservers id hid), h.recorded.trans hrows⟩

/-- How a destroy can leave a cluster behind, whatever its calls come to. -/
theorem runDestroy_ends (hs : Midway w₀ s) :
    Always Replies (fun s' _ => Left w₀ s') runDestroy.run s := by
  suffices h : Takes w₀ (fun s' _ => Left w₀ s') runDestroy s by
    refine Always.mono h ?_
    rintro s' (e | ⟨⟩) h
    · exact h
    · exact h
  unfold runDestroy
  refine takes_bind (beginDestroy_takes hs) fun s₁ _ h₁ => ?_
  refine takes_bind (takes_listServers h₁) fun s₂ servers h₂ => ?_
  refine takes_bind (A := Post (fun s' _ => Bare w₀ s') fun s' _ => Halted w₀ s')
    (always_lift (destroyCluster_always h₂.1 h₂.2)) ?_
  rintro s₃ (err | ⟨⟩) h₃
  · refine takes_bind (A := fun s' _ => Halted w₀ s') (takes_ignore fun r s' h => ?_) fun s₄ _ h₄ => ?_
    · obtain ⟨hs', -⟩ :=
        h₃.1.reply (keepsRow_updateStatus (by simp)) (h₃.1.2.updateStatus (by simp)) h
      obtain ⟨x, hmark, -⟩ := h
      refine ⟨hs', ?_⟩
      rw [hmark, Marks.next, h₃.2]
      rfl
    · refine takes_bind (A := fun s' _ => Halted w₀ s')
        (takes_ignore (publishTerminal_always _ h₄ fun s' hkept hfailed halike => ?_))
        fun _ _ h => .inl h
      exact ⟨⟨hkept.trans h₄.1.1, halike.mid h₄.1.2⟩, hfailed h₄.2⟩
  · refine takes_bind (takes_softDeleteServers h₃) fun s₄ _ h₄ => ?_
    refine takes_bind (finalizeDestroy_takes h₄) fun s₅ _ h₅ => ?_
    refine takes_ignore (publishTerminal_always _ (.inr (.inl h₅)) fun s' hkept _ halike => ?_)
    exact .inr (.inl ⟨hkept.trans h₅.1, halike.converged h₅.2⟩)

end Walk

/-! ## The second destroy -/

section Again

variable {w₀ w : Cloud} (x : Cloud → CloudCall → Outcome)

/-- Every call succeeds; what the outside chooses is `x`. -/
def Cloud.succeed (w : Cloud) (c : cloud.Call) : Cloud × cloud.Answer c :=
  w.execute 0 { x w c with reply := .ok } c

/-- What a destroy makes of a cluster when nothing fails. -/
def destroyAgain (w : Cloud) : Cloud := (runDestroy.run.run (Cloud.succeed x) w).1

theorem destroyAgain_of_mid (h : Mid w₀ w) : Converged w₀ (destroyAgain x w) := by
  have hends := runDestroy_ends (s := (w, {})) ⟨rfl, h⟩
  have hrun := hends.run (π := Prod.fst) (fun s => s.2.allOk = true) rfl (Cloud.succeed x) ?_
  · obtain ⟨s', hworld, hok, hleft⟩ := hrun
    rw [destroyAgain, ← hworld]
    rcases hleft with ⟨-, hfailed⟩ | ⟨-, hconverged⟩ | ⟨-, hfailed, -⟩
    · rw [hok] at hfailed
      cases hfailed
    · exact hconverged
    · rw [hok] at hfailed
      cases hfailed
  · intro s c hok
    refine ⟨((Cloud.succeed x s.1 c).1, s.2.next c { x s.1 c with reply := .ok }),
      ⟨_, rfl, .inl ⟨rfl, rfl, rfl⟩⟩, rfl, ?_⟩
    show (s.2.allOk && true) = true
    rw [hok]
    rfl

/-- A deleted cluster is not found. -/
theorem destroyAgain_of_deleted (h : w.isDeleted = true) : destroyAgain x w = w := by
  have hnone : w.cluster.deletedAt.isNone = false := by
    rw [← Option.not_isSome]
    exact congrArg not h
  have hget : Cloud.succeed x w .get = (w, .error w.clusterNotFound) := by
    simp only [Cloud.succeed, Cloud.execute, hnone]
    rfl
  have hcall : ∀ k, runDestroy.run = .call .get k →
      (runDestroy.run.run (Cloud.succeed x) w).1 =
        ((k (.error w.clusterNotFound)).run (Cloud.succeed x) w).1 := by
    intro k hk
    rw [hk, Program.run, hget]
  exact hcall _ rfl

end Again

/-- After a destroy that is over, another one in which everything succeeds leaves nothing of
the cluster, exactly if in the first one the reply to the deletion of the row was not lost
and the write of the last status did not fail. -/
theorem converges_iff {D : Deployment} {external : ClusterJob → Bool} {w : Cloud}
    {xs : List Outcome} {s : PoolState cloud Cloud ClusterJob Unit}
    (hlive : w.isDeleted = false) (hstatus : w.cluster.status ≠ .destroyed)
    (h : (runnerPool D external).exec (Pool.init w) (alone .destroy xs) = some s)
    (hresult : s.result 0 = some ()) (x : Cloud → CloudCall → Outcome) :
    Converged w (destroyAgain x s.world) ↔
      (runnerPool D external).allSteps (Pool.onCalls keepsRow) (Pool.init w) (alone .destroy xs) =
        true := by
  rw [alone, Pool.exec_cons, Option.bind_eq_some_iff] at h
  obtain ⟨s₁, hstart, hsteps⟩ := h
  obtain ⟨-, hs₁⟩ := Pool.step_start.mp hstart
  have hworld : s₁.world = w := by
    rw [hs₁]
    rfl
  have hthread : s₁.threads[0]? = some ((runnerPool D external).launch .destroy) := by
    rw [hs₁]
    rfl
  have hcondition : (runnerPool D external).allSteps (Pool.onCalls keepsRow) (Pool.init w)
      (alone .destroy xs) =
        (runnerPool D external).allSteps (Pool.onCalls keepsRow) s₁ (xs.map (.step 0)) := by
    rw [alone, Pool.allSteps, hstart]
    rfl
  have hmid : Mid w w := ⟨hlive, hstatus, fun _ hid => .inl hid⟩
  have hends : Always ((runnerPool D external).Answers Marks.next) (fun s' _ => Left w s')
      (ClusterJob.program D .destroy) (s₁.world, {}) := by
    refine Always.mono_step ?_ fun _ _ _ _ => replies_of_answers
    rw [hworld]
    exact always_bind (runDestroy_ends ⟨rfl, hmid⟩) fun _ _ h => h
  have hleft := Pool.exec_first hends hthread hsteps hresult
  have hmarked := Pool.marked_all Marks.kept Marks.next keepsRow (g := Marks.mk true true)
    (fun _ _ _ => rfl) hsteps
  rw [hcondition, ← Bool.true_and (Pool.allSteps _ _ _ _), ← hmarked]
  rcases hleft with ⟨⟨hkept, hmid⟩, -⟩ | ⟨hkept, hconverged⟩ | ⟨hlost, -, hdeleted, hnot⟩
  · exact ⟨fun _ => hkept, fun _ => destroyAgain_of_mid x hmid⟩
  · rw [destroyAgain_of_deleted x hconverged.deleted]
    exact ⟨fun _ => hkept, fun _ => hconverged⟩
  · rw [destroyAgain_of_deleted x hdeleted, hlost]
    exact ⟨fun hc => absurd hc.status hnot, fun hf => by cases hf⟩

def plainOutcomes (_ : Cloud) (_ : CloudCall) : Outcome := {}

/-- A destroy whose read of the inventory fails is completed by the next one. -/
theorem converges_iff_after_failedListing :
    ∃ s, (runnerPool seventhCluster fun _ => true).exec (Pool.init readyCluster)
        (alone .destroy [{}, {}, { reply := .failed }]) = some s ∧ s.result 0 = some () ∧
      s.world.cluster.status = .destroying ∧
      Converged readyCluster (destroyAgain plainOutcomes s.world) := by
  have hrun : ((runnerPool seventhCluster fun _ => true).exec (Pool.init readyCluster)
      (alone .destroy [{}, {}, { reply := .failed }])).any (fun s =>
        decide (s.result 0 = some () ∧ s.world.cluster.status = .destroying)) = true := by
    decide +kernel
  obtain ⟨s, hs, hend⟩ := (Option.any_eq_true _ _).mp hrun
  obtain ⟨hresult, hstatus⟩ := of_decide_eq_true hend
  have hfine : (runnerPool seventhCluster fun _ => true).allSteps (Pool.onCalls keepsRow)
      (Pool.init readyCluster) (alone .destroy [{}, {}, { reply := .failed }]) = true := by
    decide +kernel
  exact ⟨s, hs, hresult, hstatus,
    (converges_iff rfl (by decide) hs hresult plainOutcomes).mpr hfine⟩

/-- Everything succeeds but the write of the last status. -/
def failedLastWrite : List Outcome := (List.replicate 9 {}).concat { reply := .failed }

/-- The row is deleted by then, so that no second destroy can write it. -/
theorem not_converges :
    ¬ ∀ (D : Deployment) (external : ClusterJob → Bool) (w : Cloud) (xs : List Outcome)
      (s : PoolState cloud Cloud ClusterJob Unit) (x : Cloud → CloudCall → Outcome),
      w.isDeleted = false → w.cluster.status ≠ .destroyed → xs.countP (·.reply ≠ .ok) ≤ 1 →
      (runnerPool D external).exec (Pool.init w) (alone .destroy xs) = some s →
      s.result 0 = some () → Converged w (destroyAgain x s.world) := by
  intro h
  have hrun : ((runnerPool seventhCluster fun _ => true).exec (Pool.init readyCluster)
      (alone .destroy failedLastWrite)).any (fun s => decide (s.result 0 = some () ∧
        (destroyAgain plainOutcomes s.world).cluster.status = .destroying)) = true := by
    decide +kernel
  obtain ⟨s, hs, hend⟩ := (Option.any_eq_true _ _).mp hrun
  obtain ⟨hresult, hstatus⟩ := of_decide_eq_true hend
  have hdestroyed := (h _ _ readyCluster failedLastWrite s plainOutcomes rfl (by decide)
    (by decide) hs hresult).status
  rw [hstatus] at hdestroyed
  cases hdestroyed

end Kubinate.Clusters
