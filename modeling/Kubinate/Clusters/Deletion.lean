import Kubinate.Clusters.Convergence

/-!
# Deleting servers again

`destroy_cluster` stops at the first server that it cannot delete and takes a server that is
gone for one it has deleted, so it can be run again over whatever an earlier run has left.

* `Provides`: how a provider answers that says `404` exactly of a server that is not there. It
  may fail at any call, before or after it has deleted the server.
* `destroyCluster_rerun`: what a run leaves behind, and what a second run makes of it.
-/

namespace Kubinate.Clusters

open Platform Library

/-! ## The provider -/

/-- `404` means that the server is not there, and the other way round. -/
def NotFoundExactly (w : Cloud) : (c : CloudCall) → c.Answer → Prop
  | .deleteServer id, r => (∃ e, r = .error e ∧ e.isNotFound = true) ↔ w.Gone id
  | _, _ => True

/-- Calls may fail, also after they have had their effect. -/
def Provides (w : Cloud) (c : cloud.Call) (r : cloud.Answer c) (w' : Cloud) : Prop :=
  (∃ i x js, w.answer i c x = some (w', r, js)) ∧ NotFoundExactly w c r

/-- No call fails. -/
def Healthy (w : Cloud) (c : cloud.Call) (r : cloud.Answer c) (w' : Cloud) : Prop :=
  ∃ i x js, x.reply = .ok ∧ w.answer i c x = some (w', r, js)

namespace Cloud

variable {w w' : Cloud} {id : Nat}

def without (w : Cloud) (id : Nat) : Cloud := { w with alive := w.alive.filter (·.id != id) }

theorem without_of_gone (h : w.Gone id) : w.without id = w := by
  unfold without
  rw [List.filter_eq_self.mpr]
  intro server hserver
  simpa using h server hserver

theorem gone_without (w : Cloud) (id : Nat) : (w.without id).Gone id := by
  intro server hserver
  simpa using (List.mem_filter.mp hserver).2

theorem gone_of_subset {id' : Nat} (h : w.Gone id') (hsub : ∀ server ∈ w'.alive, server ∈ w.alive) :
    w'.Gone id' :=
  fun server hserver => h server (hsub server hserver)

end Cloud

section Provider

variable {w w' : Cloud} {id : Nat} {r : Except HetznerError Unit}

/-- What deleting a server comes to. -/
theorem provides_deleteServer (h : Provides w (.deleteServer id) r w') :
    (w' = w ∨ w' = w.without id) ∧ (RunRecord.confirmed r = true → w'.Gone id) ∧
      (w.Gone id → w' = w ∧ RunRecord.confirmed r = true) := by
  obtain ⟨⟨i, x, js, hanswer⟩, hexactly⟩ := h
  have hexecute := Cloud.execute_deleteServer (w := w) (i := i) x id
  have heffect : w' = w ∨ w' = w.without id := by
    obtain ⟨-, -, ⟨-, hw, -⟩ | ⟨-, hw, -⟩ | ⟨-, hw, -⟩⟩ := Cloud.answer_cases hanswer
    · exact .inr (hw.trans hexecute)
    · exact .inl hw
    · exact .inr (hw.trans hexecute)
  refine ⟨heffect, fun hconfirmed => ?_, fun hgone => ⟨?_, ?_⟩⟩
  · rcases r with e | ⟨⟩
    · -- the answer is 404, so the server was not there before
      have hgone : w.Gone id := hexactly.mp ⟨e, rfl, hconfirmed⟩
      rcases heffect with rfl | rfl
      · exact hgone
      · exact Cloud.gone_without w id
    · obtain ⟨-, -, ⟨-, hw, -⟩ | ⟨-, -, hr⟩ | ⟨-, -, hr⟩⟩ := Cloud.answer_cases hanswer
      · rw [hw, hexecute]
        exact Cloud.gone_without w id
      · cases hr
      · cases hr
  · rcases heffect with rfl | rfl
    · rfl
    · exact Cloud.without_of_gone hgone
  · obtain ⟨e, rfl, he⟩ := hexactly.mpr hgone
    exact he

theorem healthy_deleteServer (h : Healthy w (.deleteServer id) r w') :
    w' = w.without id ∧ RunRecord.confirmed r = true := by
  obtain ⟨i, x, js, hok, hanswer⟩ := h
  obtain ⟨-, -, ⟨-, hw, hr⟩ | ⟨hfailed, -, -⟩ | ⟨hlost, -, -⟩⟩ := Cloud.answer_cases hanswer
  · refine ⟨hw.trans (Cloud.execute_deleteServer x id), ?_⟩
    simp only [Cloud.execute] at hr
    split at hr
    · rw [hr]
      rfl
    · rw [hr]
      rfl
  · rw [hok] at hfailed
    cases hfailed
  · rw [hok] at hlost
    cases hlost

theorem provides_publishStep {step : String} {a : Unit} (h : Provides w (.publishStep step) a w') :
    w' = w := by
  obtain ⟨⟨i, x, js, hanswer⟩, -⟩ := h
  obtain ⟨-, -, ⟨-, hw, -⟩ | ⟨-, hw, -⟩ | ⟨-, hw, -⟩⟩ := Cloud.answer_cases hanswer
  · exact hw
  · exact hw
  · exact hw

theorem healthy_publishStep {step : String} {a : Unit} (h : Healthy w (.publishStep step) a w') :
    w' = w := by
  obtain ⟨i, x, js, -, hanswer⟩ := h
  exact provides_publishStep ⟨⟨i, x, js, hanswer⟩, trivial⟩

end Provider

/-! ## A run of `destroy_cluster` -/

section Run

variable {step : Cloud → (c : cloud.Call) → cloud.Answer c → Cloud → Prop} {ids : List Nat}
  {K : List Nat → Cloud → Prop} {E : Cloud → ActivityError → Prop} {w : Cloud}

/-- The loop over the servers, with `K` for what is left of them. A step that is published
changes nothing. -/
theorem destroyCluster_loop
    (hpublish : ∀ s w (a : Unit) w', step w (.publishStep s) a w' → w' = w)
    (hdelete : ∀ id rest w (r : Except HetznerError Unit) w', K (id :: rest) w →
      step w (.deleteServer id) r w' →
      (RunRecord.confirmed r = true → K rest w') ∧
        ∀ e, RunRecord.confirmed r = false → E w' e) (h : K ids w) :
    Always step (Post (fun w' _ => K [] w') E) (destroyCluster hubOnlyProgress ids).run w := by
  have hprogress (s : String) (l : List Nat) (w : Cloud) (hl : K l w) :
      Always step (Post (fun w' _ => K l w') E)
        (ExceptT.lift (ε := ActivityError) (hubOnlyProgress s)).run w := by
    refine always_lift (p := hubOnlyProgress s) fun a w' hstep => ?_
    obtain rfl := hpublish s w a w' hstep
    exact hl
  unfold destroyCluster
  refine always_bindE (hprogress _ ids w h) (fun w₁ _ h₁ => ?_) fun _ _ h => h
  refine always_bindE (always_forM (K := K) ?_ ids h₁) (fun w₂ _ h₂ => hprogress _ [] w₂ h₂)
    fun _ _ h => h
  intro id rest w₂ h₂ r w₃ hstep
  obtain ⟨hgone, hfailed⟩ := hdelete id rest w₂ r w₃ h₂ hstep
  rcases r with e | ⟨⟩
  · dsimp only [Program.bind]
    by_cases he : e.isNotFound = true
    · rw [if_pos he]
      exact hgone he
    · rw [if_neg he]
      exact hfailed _ (by simpa [RunRecord.confirmed] using he)
  · exact hgone rfl

/-- Servers were deleted, all of them from the list. -/
structure Deleted (ids : List Nat) (w w' : Cloud) : Prop where
  others : ∀ server ∈ w.alive, server.id ∉ ids → server ∈ w'.alive
  subset : ∀ server ∈ w'.alive, server ∈ w.alive

theorem Deleted.without {w' : Cloud} {id : Nat} (h : Deleted ids w w') (hid : id ∈ ids) :
    Deleted ids w (w'.without id) where
  others server hserver hout := by
    refine List.mem_filter.mpr ⟨h.others server hserver hout, ?_⟩
    rw [bne_iff_ne]
    rintro rfl
    exact hout hid
  subset server hserver := h.subset server (List.mem_of_mem_filter hserver)

theorem destroyCluster_provides (ids : List Nat) (w : Cloud) :
    Always Provides (Post (fun w' _ => Deleted ids w w' ∧ ∀ id ∈ ids, w'.Gone id)
      fun w' _ => Deleted ids w w') (destroyCluster hubOnlyProgress ids).run w := by
  have hrun := @destroyCluster_loop Provides ids
    (fun rest w' => (∀ id ∈ rest, id ∈ ids) ∧ Deleted ids w w' ∧
      ∀ id ∈ ids, id ∈ rest ∨ w'.Gone id)
    (fun w' _ => Deleted ids w w') w (fun _ _ _ _ => provides_publishStep) ?_
    ⟨fun _ h => h, ⟨fun _ h _ => h, fun _ h => h⟩, fun _ h => .inl h⟩
  · refine hrun.mono ?_
    rintro w' (e | ⟨⟩) h
    · exact h
    · exact ⟨h.2.1, fun id hid => (h.2.2 id hid).resolve_left List.not_mem_nil⟩
  · rintro id rest w₁ r w₂ ⟨hrest, hdeleted, hleft⟩ hstep
    obtain ⟨heffect, hgone, -⟩ := provides_deleteServer hstep
    have hdeleted₂ : Deleted ids w w₂ := by
      rcases heffect with rfl | rfl
      · exact hdeleted
      · exact hdeleted.without (hrest id List.mem_cons_self)
    have hsubset : ∀ server ∈ w₂.alive, server ∈ w₁.alive := by
      rcases heffect with rfl | rfl
      · exact fun _ h => h
      · exact fun _ h => List.mem_of_mem_filter h
    refine ⟨fun hconfirmed => ⟨fun id' h => hrest id' (List.mem_cons_of_mem _ h), hdeleted₂, ?_⟩,
      fun _ _ => hdeleted₂⟩
    intro id' hid'
    rcases hleft id' hid' with hmem | hgone'
    · rcases List.mem_cons.mp hmem with rfl | hmem
      · exact .inr (hgone hconfirmed)
      · exact .inl hmem
    · exact .inr (Cloud.gone_of_subset hgone' hsubset)

/-- A run in which nothing fails completes whatever was begun. -/
theorem destroyCluster_healthy (ids : List Nat) (w : Cloud) :
    Always Healthy (fun w' r => r = .ok () ∧ ∀ id ∈ ids, w'.Gone id)
      (destroyCluster hubOnlyProgress ids).run w := by
  have hrun := @destroyCluster_loop Healthy ids
    (fun rest w' => ∀ id ∈ ids, id ∈ rest ∨ w'.Gone id) (fun _ _ => False) w
    (fun _ _ _ _ => healthy_publishStep) ?_ fun _ h => .inl h
  · refine hrun.mono ?_
    rintro w' (e | ⟨⟩) h
    · exact h.elim
    · exact ⟨rfl, fun id hid => (h id hid).resolve_left List.not_mem_nil⟩
  · intro id rest w₁ r w₂ hleft hstep
    obtain ⟨rfl, hconfirmed⟩ := healthy_deleteServer hstep
    refine ⟨fun _ id' hid' => ?_, fun _ hnot => ?_⟩
    · rcases hleft id' hid' with hmem | hgone
      · rcases List.mem_cons.mp hmem with rfl | hmem
        · exact .inr (Cloud.gone_without w₁ id')
        · exact .inl hmem
      · exact .inr (Cloud.gone_of_subset hgone fun _ h => List.mem_of_mem_filter h)
    · rw [hconfirmed] at hnot
      cases hnot

/-- Where all servers are gone, there is nothing to do. -/
theorem destroyCluster_of_gone {ids : List Nat} {w : Cloud} (h : ∀ id ∈ ids, w.Gone id) :
    Always Provides (fun w' r => r = .ok () ∧ w' = w) (destroyCluster hubOnlyProgress ids).run w := by
  have hrun := @destroyCluster_loop Provides ids
    (fun rest w' => w' = w ∧ ∀ id ∈ rest, w.Gone id) (fun _ _ => False) w
    (fun _ _ _ _ => provides_publishStep) ?_ ⟨rfl, h⟩
  · refine hrun.mono ?_
    rintro w' (e | ⟨⟩) h
    · exact h.elim
    · exact ⟨rfl, h.1⟩
  · rintro id rest w₁ r w₂ ⟨rfl, hgone⟩ hstep
    obtain ⟨-, -, hnothing⟩ := provides_deleteServer hstep
    obtain ⟨rfl, hconfirmed⟩ := hnothing (hgone id List.mem_cons_self)
    refine ⟨fun _ => ⟨rfl, fun id' hid' => hgone id' (List.mem_cons_of_mem _ hid')⟩, fun _ hnot => ?_⟩
    rw [hconfirmed] at hnot
    cases hnot

end Run

/-- Whatever the list of servers, the servers at the provider and the failures: a run deletes no
server that is not in the list. If it returns `Ok`, none of the list is there any more, and
another run returns `Ok` and changes nothing. If it fails, another run in which nothing fails
returns `Ok`, and then none is there any more. -/
theorem destroyCluster_rerun (ids : List Nat) (w : Cloud) :
    Always Provides
      (fun w' r =>
        (∀ server ∈ w.alive, server.id ∉ ids → server ∈ w'.alive) ∧
          match r with
          | .ok () =>
            (∀ id ∈ ids, w'.Gone id) ∧
              Always Provides (fun w'' r' => r' = .ok () ∧ w'' = w')
                (destroyCluster hubOnlyProgress ids).run w'
          | .error _ =>
            Always Healthy (fun w'' r' => r' = .ok () ∧ ∀ id ∈ ids, w''.Gone id)
              (destroyCluster hubOnlyProgress ids).run w')
      (destroyCluster hubOnlyProgress ids).run w := by
  refine (destroyCluster_provides ids w).mono ?_
  rintro w' (e | ⟨⟩) h
  · exact ⟨h.others, destroyCluster_healthy ids w'⟩
  · exact ⟨h.1.others, h.2, destroyCluster_of_gone h.2⟩

end Kubinate.Clusters
