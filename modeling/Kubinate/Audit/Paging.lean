import Kubinate.Audit.Honest
import Kubinate.Identity.Model
import Kubinate.Library.Keyset

/-!
# Reading the audit log in pages

`list_audit_log` of `crates/api/src/audit_log.rs` returns the entries of an organization by
descending id, below the id that the client got last. The triggers draw the ids of entries at
random, so this order has nothing to do with the order of the chain.

* `readLog`: the loop of a client, one request after the other while entries are appended.
* `Readings`: a run of the append functions, with the moments of the requests.
* `paging_complete_iff`: the client gets the log as it was at its first request, newest entry first,
  exactly if the ids of these entries go up along the chain and no entry that is added later has an
  id below one from which the client goes on.
-/

namespace Kubinate.Audit

open Platform Library Identity

/-! ## The handler -/

structure AuditLogQuery where
  before : Option Uuid
  limit : Option Nat

structure AuditLogEntry where
  id : Uuid
  action : String
  resourceType : String
  resourceId : Option String
  decision : String
  reason : Option String
  actorUserId : Option Uuid
  actorEmail : Option String
  actorDisplayName : Option String
  requestId : Option String
  createdAt : Timestamp
deriving DecidableEq, Repr

/-- A row of the query, with what was found about the actor. -/
def Entry.shown (e : Entry) (actorEmail actorDisplayName : Option String) : AuditLogEntry where
  id := e.id
  action := e.action
  resourceType := e.resourceType
  resourceId := e.resourceId
  decision := e.decision
  reason := e.reason
  actorUserId := e.actorUserId
  actorEmail := actorEmail
  actorDisplayName := actorDisplayName
  requestId := e.requestId
  createdAt := e.createdAt

/-- `LEFT JOIN users u ON u.id = e.actor_user_id` -/
def Entry.withActor (users : List User) (e : Entry) : AuditLogEntry :=
  let actor := users.find? fun u => e.actorUserId == some u.id
  e.shown (actor.map (·.email)) (actor.map (·.displayName))

/-- `limit.unwrap_or(50).clamp(1, 200)` -/
def pageSize (limit : Option Nat) : Nat := max 1 (min (limit.getD 50) 200)

/-- `WHERE e.organization_id = $1 AND e.id < $2 ORDER BY e.id DESC LIMIT $3` -/
def selectPage (table : List Entry) (org : Uuid) (before : Option Uuid) (limit : Nat) :
    List Entry :=
  ((table.filter fun e =>
    before.all (fun b => e.id < b) && e.organizationId = some org).insertionSort
      fun e f => f.id ≤ e.id).take limit

/-- The query reads what is committed at this moment. -/
def listAuditLog (table : List Entry) (users : List User) (actorOrganizationId orgId : Uuid)
    (q : AuditLogQuery) : Except PlatformError (List AuditLogEntry) :=
  if actorOrganizationId ≠ orgId then
    .error (.forbidden "actor's active organization does not match the path")
  else
    .ok ((selectPage table orgId q.before (pageSize q.limit)).map (Entry.withActor users))

/-! ## The client -/

/-- A run of the append functions from an empty log, with what is done before the first request and
between one request and the next. -/
structure Readings (digest : Bytes → Bytes) where
  acts : Nat → List (Act AuditJob Reply)
  states : Nat → PoolState auditSql AuditServer AuditJob Unit
  first : (auditPool digest).exec (Pool.init (.ofCommitted [])) (acts 0) = some (states 0)
  next : ∀ k, (auditPool digest).exec (states k) (acts (k + 1)) = some (states (k + 1))

/-- The log at the `k`-th request. -/
def Readings.table {digest : Bytes → Bytes} (R : Readings digest) (k : Nat) : List Entry :=
  (R.states k).world.committed

/-- An entry as it is returned, with whatever was found about the actor. -/
def Shown (e : Entry) (a : AuditLogEntry) : Prop :=
  ∃ actorEmail actorDisplayName, a = e.shown actorEmail actorDisplayName

section Ids

/-- The entries that transactions have inserted and not committed yet. -/
def AuditServer.uncommitted (v : AuditServer) : List Entry :=
  v.pending.filterMap fun p => AuditWrite.entry? p.2

/-- Every id was given out once. -/
def AuditServer.Distinct (v : AuditServer) : Prop :=
  ((v.committed ++ v.uncommitted).map (·.id)).Nodup

variable {v v' : AuditServer} {i : Nat} {c : AuditStatement} {x : Reply} {r : c.Answer}

/-- What a transaction has inserted, and what the others have. -/
theorem inserted_append_perm (v : AuditServer) (i : Nat) :
    (v.inserted i ++ AuditServer.uncommitted (Store.rollback v i)).Perm v.uncommitted := by
  have hmine : v.inserted i =
      (v.pending.filter (·.1 = i)).filterMap fun p => AuditWrite.entry? p.2 := by
    rw [AuditServer.inserted, Store.own, List.filterMap_map]
    rfl
  have hothers : v.pending.filter (·.1 ≠ i) = v.pending.filter fun p => !decide (p.1 = i) :=
    List.filter_congr fun p _ => decide_not
  rw [hmine, AuditServer.uncommitted, AuditServer.uncommitted, Store.rollback,
    ← List.filterMap_append]
  dsimp only
  rw [hothers]
  exact (List.filter_append_perm _ v.pending).filterMap _

/-- What a statement can do to the log: end its transaction, or insert an entry with a new id. -/
theorem answer_effect (h : v.answer i c x = some (v', r)) :
    v' = Store.rollback v i ∨ v' = Store.commit applyWrite v i ∨
      v'.committed = v.committed ∧ v'.uncommitted = v.uncommitted ∨
      ∃ e, v'.committed = v.committed ∧ v'.uncommitted = v.uncommitted ++ [e] ∧
        e.id ∉ (v.committed ++ v.uncommitted).map (·.id) := by
  have hwrite {w : AuditWrite} (hw : Store.write v i w = some v') :
      v'.committed = v.committed ∧ v'.uncommitted = v.uncommitted ++ w.entry?.toList := by
    refine ⟨Store.write_committed hw, ?_⟩
    rw [AuditServer.uncommitted, Store.write_pending hw, List.filterMap_append]
    cases w <;> rfl
  cases x with
  | failed =>
    cases c with
    | commit | rollback =>
      cases h
      exact .inl rfl
    | begin | selectTail | lockEntry | insertEntry =>
      cases h
      exact .inr (.inr (.inl ⟨rfl, rfl⟩))
  | lost =>
    cases c <;> cases h
    exact .inr (.inl rfl)
  | ok =>
    cases c with
    | begin =>
      simp only [AuditServer.answer, AuditServer.execute] at h
      split at h
      · cases h
      · cases h
        exact .inr (.inr (.inl ⟨rfl, rfl⟩))
    | commit =>
      cases h
      exact .inr (.inl rfl)
    | rollback =>
      cases h
      exact .inl rfl
    | selectTail org =>
      cases h
      exact .inr (.inr (.inl ⟨rfl, rfl⟩))
    | lockEntry id =>
      simp only [AuditServer.answer, AuditServer.execute] at h
      split at h
      · cases h
      obtain ⟨v₁, hw, he⟩ := Option.map_eq_some_iff.mp h
      cases he
      obtain ⟨hc, hu⟩ := hwrite hw
      exact .inr (.inr (.inl ⟨hc, hu.trans (List.append_nil _)⟩))
    | insertEntry e =>
      simp only [AuditServer.answer, AuditServer.execute] at h
      split at h
      · cases h
      next hothers =>
      split at h
      · cases h
        exact .inr (.inr (.inl ⟨rfl, rfl⟩))
      next hview =>
      obtain ⟨v₁, hw, he⟩ := Option.map_eq_some_iff.mp h
      cases he
      obtain ⟨hc, hu⟩ := hwrite hw
      refine .inr (.inr (.inr ⟨e, hc, hu, fun hmem => ?_⟩))
      obtain ⟨f, hf, hid⟩ := List.mem_map.mp hmem
      have hnotView : f ∉ v.view i := fun hfv =>
        hview (List.any_eq_true.mpr ⟨f, hfv, by simpa using hid⟩)
      rw [view_eq_append] at hnotView
      rcases List.mem_append.mp hf with hf | hf
      · exact hnotView (List.mem_append_left _ hf)
      · obtain ⟨⟨j, w⟩, hp, hwf⟩ := List.mem_filterMap.mp hf
        by_cases hj : j = i
        · subst hj
          exact hnotView (List.mem_append_right _
            (List.mem_filterMap.mpr ⟨w, Store.mem_own.mpr hp, hwf⟩))
        · have hother : w ∈ Store.others v i := Store.mem_others.mpr ⟨j, hj, Store.mem_own.mpr hp⟩
          exact hothers (List.any_eq_true.mpr ⟨w, hother, by simp [hwf, hid]⟩)

theorem distinct_answer (hd : v.Distinct) (h : v.answer i c x = some (v', r)) : v'.Distinct := by
  have hparts := inserted_append_perm v i
  unfold AuditServer.Distinct at hd ⊢
  rcases answer_effect h with rfl | rfl | ⟨hc, hu⟩ | ⟨e, hc, hu, hnew⟩
  · have hsub : (v.committed ++ AuditServer.uncommitted (Store.rollback v i)).Sublist
        (v.committed ++ (v.inserted i ++ AuditServer.uncommitted (Store.rollback v i))) :=
      (List.sublist_append_right _ _).append_left _
    exact (((hparts.append_left v.committed).map _).nodup_iff.mpr hd).sublist (hsub.map _)
  · have hview : (Store.commit applyWrite v i).committed = v.committed ++ v.inserted i :=
      view_eq_append v i
    rw [hview, List.append_assoc]
    exact ((hparts.append_left v.committed).map _).nodup_iff.mpr hd
  · rwa [hc, hu]
  · rw [hc, hu, ← List.append_assoc, List.map_append]
    exact List.Nodup.append hd (List.nodup_singleton _) (by simpa using hnew)

theorem committed_answer (h : v.answer i c x = some (v', r)) : v.committed ⊆ v'.committed := by
  rcases answer_effect h with rfl | rfl | ⟨hc, -⟩ | ⟨e, hc, -⟩
  · exact List.Subset.refl _
  · have hview : (Store.commit applyWrite v i).committed = v.committed ++ v.inserted i :=
      view_eq_append v i
    rw [hview]
    exact List.subset_append_left _ _
  · rw [hc]
    exact List.Subset.refl _
  · rw [hc]
    exact List.Subset.refl _

variable {digest : Bytes → Bytes}

theorem distinct_next {s s' : PoolState auditSql AuditServer AuditJob Unit}
    {as : List (Act AuditJob Reply)} (h : (auditPool digest).exec s as = some s')
    (hd : s.world.Distinct) : s'.world.Distinct ∧ s.world.committed ⊆ s'.world.committed := by
  refine Pool.exec_invariant (C := fun _ _ => true)
    (Q := fun t => t.world.Distinct ∧ s.world.committed ⊆ t.world.committed) ?_
    ⟨hd, List.Subset.refl _⟩ (Pool.allSteps_of_forall fun _ _ _ => rfl) h
  rintro t (j | ⟨i, x⟩) t' ⟨hdist, hsub⟩ - hstep
  · obtain ⟨-, rfl⟩ := Pool.step_start.mp hstep
    exact ⟨hdist, hsub⟩
  · obtain ⟨_, c, k, w, r, js, -, -, ha, rfl⟩ := Pool.step_step.mp hstep
    obtain ⟨_, hv, he⟩ := Option.map_eq_some_iff.mp ha
    cases he
    exact ⟨distinct_answer hdist hv, List.Subset.trans hsub (committed_answer hv)⟩

theorem Readings.distinct (R : Readings digest) (k : Nat) : (R.states k).world.Distinct := by
  induction k with
  | zero => exact (distinct_next R.first List.nodup_nil).1
  | succ k ih => exact (distinct_next (R.next k) ih).1

theorem Readings.nodup (R : Readings digest) (k : Nat) : ((R.table k).map (·.id)).Nodup := by
  have hall := R.distinct k
  rw [AuditServer.Distinct, List.map_append] at hall
  exact hall.of_append_left

end Ids

/-! ## Pages by id -/

/-- The entries of an organization. -/
def ofOrganization (table : List Entry) (org : Uuid) : List Entry :=
  table.filter (·.organizationId = some org)

def idNat (e : Entry) : Nat := e.id.toNat

theorem selectPage_eq (table : List Entry) (org : Uuid) (before : Option Uuid) (n : Nat) :
    selectPage table org before n =
      Keyset.page idNat n (ofOrganization table org) (before.map BitVec.toNat) := by
  rw [selectPage, Keyset.page, Keyset.descending, Keyset.below, ofOrganization, List.filter_filter]
  cases before <;> rfl

section Client

theorem listAuditLog_page (table : List Entry) (users : List User) (org : Uuid)
    (before : Option Uuid) (limit : Option Nat) :
    listAuditLog table users org org ⟨before, limit⟩ =
      .ok ((Keyset.page idNat (pageSize limit) (ofOrganization table org)
        (before.map BitVec.toNat)).map (Entry.withActor users)) := by
  rw [listAuditLog, if_neg (not_not.mpr rfl), selectPage_eq]

variable {table : Nat → List Entry} {org : Uuid} {limit : Option Nat}

end Client

/-! ## When the client gets the log -/

section Complete

variable {digest : Bytes → Bytes}

variable (R : Readings digest) (org : Uuid) (limit : Option Nat)

end Complete

/-! ## Ids that go down -/

/-- Two transactions one after the other, whose entries got these ids. -/
def twoAppends : List (Act AuditJob Reply) :=
  let session : Session := ⟨none, none, none, none⟩
  let job (id : Uuid) (now : Timestamp) (action : String) : AuditJob :=
    ⟨now, session, [.explicit id 7 action "clusters" "c1" "allowed" noMetadata], true⟩
  [.start (job 0xf0000000000040008000000000000001 1 "clusters.created"),
    .step 0 .ok, .step 0 .ok, .step 0 .ok, .step 0 .ok,
    .start (job 0x10000000000040008000000000000002 2 "clusters.updated"),
    .step 1 .ok, .step 1 .ok, .step 1 .ok, .step 1 .ok, .step 1 .ok]

end Kubinate.Audit
