import Kubinate.Identity.Repository

/-!
# `users.requires_mfa` and the owner and admin memberships

The trigger on `memberships` recomputes `users.requires_mfa` inside the tenant-scoped
transaction that changes a membership. What it reads is limited to the tenant by row-level
security, while the flag is about all organizations.
-/

namespace Kubinate.Identity

open Platform Library

/-! ## The transactions of the membership repository -/

namespace MembershipStatement

/-- The repository call that sends the statement: `insert`, `update_role`, `soft_delete`. -/
def program : MembershipStatement → Program sql Unit
  | .upsert id now organizationId userId role => do
    let _ ← (MembershipRepository.insert id now organizationId userId role).run
  | .updateRole organizationId userId role => do
    let _ ← (MembershipRepository.updateRole organizationId userId role).run
  | .softDelete now organizationId userId => do
    let _ ← (MembershipRepository.softDelete now organizationId userId).run

end MembershipStatement

/-- Any number of membership transactions, interleaved statement by statement. -/
def membershipPool : Pool sql Server MembershipStatement Reply Unit :=
  sqlPool MembershipStatement.program

/-! ## Where a transaction stands -/

/-- How far a membership transaction has come: the tenant is set, the row is written, the
trigger has computed the flag, and the flag was found right or was updated. -/
inductive MembershipPhase where
  | idle
  | tenanted
  | wrote
  | computed (value : Bool)
  | kept (value : Bool)
  | updated (value : Bool)
deriving DecidableEq, Repr

namespace MembershipPhase

def next (φ : MembershipPhase) : (c : Statement) → c.Answer → MembershipPhase
  | .setLocalTenant _, .ok _ => .tenanted
  | .writeMembership _, .ok n => if n = 0 then φ else .wrote
  | .existsPrivileged _, .ok value => .computed value
  | .selectRequiresMfa _, .ok current =>
    match φ with
    | .computed value => if current = some value then .kept value else φ
    | _ => φ
  | .updateRequiresMfa _ value, .ok _ => .updated value
  | .commit, _ => .idle
  | .rollback, _ => .idle
  | _, _ => φ

def ofTrace (h : Trace sql) : MembershipPhase := h.foldl (fun φ e => φ.next e.1 e.2) .idle

@[simp] theorem ofTrace_nil : ofTrace [] = .idle := rfl

@[simp] theorem ofTrace_append (h : Trace sql) (c : sql.Call) (r : sql.Answer c) :
    ofTrace (h ++ [⟨c, r⟩]) = (ofTrace h).next c r := by
  rw [ofTrace, List.foldl_append]
  rfl

end MembershipPhase

/-- The statements a membership transaction may send in each phase. -/
def MembershipStatement.Sends (m : MembershipStatement) : MembershipPhase → Statement → Prop
  | _, .rollback => True
  | .idle, .begin => True
  | .idle, .setLocalTenant organizationId => organizationId = m.organizationId
  | .tenanted, .applyAudit => True
  | .tenanted, .writeMembership c => c = m
  | .tenanted, .commit => True
  | .wrote, .existsPrivileged userId => userId = m.userId
  | .computed _, .selectRequiresMfa userId => userId = m.userId
  | .computed value, .updateRequiresMfa userId value' => userId = m.userId ∧ value' = value
  | .kept _, .commit => True
  | .updated _, .commit => True
  | _, _ => False

/-- The transaction of the membership repository sends nothing else, whatever the server
answers. -/
theorem tenantTransaction_sends (m : MembershipStatement) :
    Meets (fun h c => m.Sends (MembershipPhase.ofTrace h) c) (fun _ _ _ => True) (fun _ _ => True)
      (MembershipRepository.tenantTransaction m.organizationId
        (MembershipRepository.withTrigger m.userId (send (.writeMembership m)))).run [] := by
  refine ⟨trivial, fun r _ => ?_⟩
  rcases r with e | ⟨⟩
  · trivial
  refine ⟨rfl, fun r _ => ?_⟩
  rcases r with e | ⟨⟩
  · exact ⟨trivial, fun _ _ => trivial⟩
  refine ⟨trivial, fun r _ => ?_⟩
  rcases r with e | ⟨⟩
  · exact ⟨trivial, fun _ _ => trivial⟩
  refine ⟨rfl, fun r _ => ?_⟩
  rcases r with e | affected
  · exact ⟨trivial, fun _ _ => trivial⟩
  rcases affected with _ | affected
  · -- no row was written, so the trigger does not fire
    refine ⟨trivial, fun r _ => ?_⟩
    rcases r with e | ⟨⟩
    · exact ⟨trivial, fun _ _ => trivial⟩
    · trivial
  refine ⟨rfl, fun r _ => ?_⟩
  rcases r with e | computed
  · exact ⟨trivial, fun _ _ => trivial⟩
  refine ⟨rfl, fun r _ => ?_⟩
  rcases r with e | current
  · exact ⟨trivial, fun _ _ => trivial⟩
  rcases current with _ | _ | _ <;> rcases computed with _ | _
  all_goals first
    | -- the flag is right already
      refine ⟨trivial, fun r _ => ?_⟩
      rcases r with e | ⟨⟩
      · exact ⟨trivial, fun _ _ => trivial⟩
      · trivial
    | -- the flag is distinct from the computed value
      refine ⟨⟨rfl, rfl⟩, fun r _ => ?_⟩
      rcases r with e | affected
      · exact ⟨trivial, fun _ _ => trivial⟩
      refine ⟨trivial, fun r _ => ?_⟩
      rcases r with e | ⟨⟩
      · exact ⟨trivial, fun _ _ => trivial⟩
      · trivial

theorem membershipProgram_sends (m : MembershipStatement) :
    Meets (fun h c => m.Sends (MembershipPhase.ofTrace h) c) (fun _ _ _ => True) (fun _ _ => True)
      m.program [] := by
  have hm := tenantTransaction_sends m
  cases m with
  | upsert id now organizationId userId role =>
    refine meets_bind (Q := fun _ _ => True) (meets_bindE hm (fun _ _ _ => ?_)
      fun _ _ _ => ?_) fun _ _ _ => ?_
    all_goals trivial
  | updateRole organizationId userId role =>
    refine meets_bind (Q := fun _ _ => True) (meets_bindE hm (fun h affected _ => ?_)
      fun _ _ _ => ?_) fun _ _ _ => ?_
    · rcases affected with _ | affected <;> trivial
    all_goals trivial
  | softDelete now organizationId userId =>
    refine meets_bind (Q := fun _ _ => True) (meets_bindE hm (fun _ _ _ => ?_)
      fun _ _ _ => ?_) fun _ _ _ => ?_
    all_goals trivial

/-! ## The flag and the rows -/

namespace Database

variable {db : Database} {u : Uuid}

/-- The user is an owner or admin somewhere. -/
def holdsPrivileged (db : Database) (userId : Uuid) : Bool :=
  db.memberships.any fun m => m.userId == userId && m.isPrivileged

/-- The user is an owner or admin of that organization. -/
def privilegedIn (db : Database) (organizationId userId : Uuid) : Bool :=
  db.memberships.any fun m => m.isOf organizationId userId && m.isPrivileged

/-- The user is an owner or admin of some other organization. -/
def privilegedElsewhere (db : Database) (organizationId userId : Uuid) : Bool :=
  db.memberships.any fun m =>
    m.organizationId != organizationId && m.userId == userId && m.isPrivileged

/-- `users.requires_mfa` says whether the user is an owner or admin in any organization. -/
def RequiresInSync (db : Database) : Prop :=
  ∀ u ∈ db.users, u.requiresMfa = db.holdsPrivileged u.id

instance : DecidablePred RequiresInSync := fun db =>
  inferInstanceAs (Decidable (∀ u ∈ db.users, u.requiresMfa = db.holdsPrivileged u.id))

theorem holdsPrivileged_eq (organizationId : Uuid) :
    db.holdsPrivileged u =
      (db.privilegedIn organizationId u || db.privilegedElsewhere organizationId u) := by
  rw [Bool.eq_iff_iff]
  simp only [holdsPrivileged, privilegedIn, privilegedElsewhere, Bool.or_eq_true, List.any_eq_true,
    Membership.isOf, Bool.and_eq_true, bne_iff_ne, beq_iff_eq]
  constructor
  · rintro ⟨m, hm, hu, hp⟩
    by_cases ho : m.organizationId = organizationId
    · exact .inl ⟨m, hm, ⟨ho, hu⟩, hp⟩
    · exact .inr ⟨m, hm, ⟨ho, hu⟩, hp⟩
  · rintro (⟨m, hm, ⟨-, hu⟩, hp⟩ | ⟨m, hm, ⟨-, hu⟩, hp⟩)
    · exact ⟨m, hm, hu, hp⟩
    · exact ⟨m, hm, hu, hp⟩

@[simp] theorem holdsPrivileged_setRequiresMfa (userId : Uuid) (value : Bool) :
    (db.apply (.setRequiresMfa userId value)).holdsPrivileged u = db.holdsPrivileged u := rfl

/-- Changing the rows of one user leaves alone what others hold. -/
theorem any_map_of_userId {p : Membership → Bool} {f : Membership → Membership} {userId : Uuid}
    (hf : ∀ m, p m = true → m.userId = userId ∧ (f m).userId = userId) (hu : u ≠ userId)
    (ms : List Membership) :
    ((ms.map fun m => if p m then f m else m).any fun m => m.userId == u && m.isPrivileged) =
      ms.any fun m => m.userId == u && m.isPrivileged := by
  rw [List.any_map]
  congr 1
  funext m
  simp only [Function.comp]
  split
  · next hp =>
    obtain ⟨h₁, h₂⟩ := hf m hp
    have hne : (userId == u) = false := beq_eq_false_iff_ne.mpr hu.symm
    rw [h₁, h₂, hne, Bool.false_and, Bool.false_and]
  · rfl

theorem holdsPrivileged_write_ne {w : Write} {organizationId userId : Uuid}
    (hw : w.membership = some (organizationId, userId)) (hu : u ≠ userId) :
    (db.apply w).holdsPrivileged u = db.holdsPrivileged u := by
  have hisOf : ∀ m : Membership, m.isOf organizationId userId = true → m.userId = userId := by
    intro m hm
    simp only [Membership.isOf, Bool.and_eq_true, beq_iff_eq] at hm
    exact hm.2
  cases w with
  | insertMembership m =>
    cases hw
    have hne : (m.userId == u) = false := beq_eq_false_iff_ne.mpr hu.symm
    simp [holdsPrivileged, apply, hne]
  | reviveMembership o u' role =>
    cases hw
    refine any_map_of_userId (fun m hm => ?_) hu _
    exact ⟨hisOf m hm, hisOf m hm⟩
  | setRole o u' role =>
    cases hw
    refine any_map_of_userId (fun m hm => ?_) hu _
    have hm := hisOf m (Bool.and_eq_true _ _ ▸ hm).1
    exact ⟨hm, hm⟩
  | softDeleteMembership o u' now =>
    cases hw
    refine any_map_of_userId (fun m hm => ?_) hu _
    have hm := hisOf m (Bool.and_eq_true _ _ ▸ hm).1
    exact ⟨hm, hm⟩
  | insertPasskey | revokePasskey | setMfaEnrolled | setRequiresMfa => cases hw

theorem users_write {w : Write} {k : Uuid × Uuid} (hw : w.membership = some k) :
    (db.apply w).users = db.users := by
  cases w <;> first | rfl | cases hw

theorem requiresInSync_setRequiresMfa {userId : Uuid} {value : Bool}
    (h : ∀ u ∈ db.users, u.id ≠ userId → u.requiresMfa = db.holdsPrivileged u.id)
    (hv : value = db.holdsPrivileged userId) :
    (db.apply (.setRequiresMfa userId value)).RequiresInSync := by
  intro u hu
  simp only [apply, List.mem_map] at hu
  obtain ⟨u, hu, rfl⟩ := hu
  rw [holdsPrivileged_setRequiresMfa]
  split
  · next hid =>
    rw [hid]
    exact hv
  · next hid => exact h u hu hid

end Database

/-! ## What holds of each transaction -/

/-- The transaction has changed the membership and nothing else. -/
def MembershipStatement.Changed (m : MembershipStatement) (v : Server) (i : Nat) : Prop :=
  ∃ w, w.membership = some (m.organizationId, m.userId) ∧ v.store.own i = [w]

/-- The transaction has changed the membership and then set the flag. -/
def MembershipStatement.Flagged (m : MembershipStatement) (v : Server) (i : Nat) (value : Bool) :
    Prop :=
  ∃ w, w.membership = some (m.organizationId, m.userId) ∧
    (v.store.own i = [w, .setRequiresMfa m.userId value] ∨
      (v.store.own i = [w] ∧ m.userId ∉ v.store.committed.users.map (·.id)))

/-- The writes of a membership transaction in each phase, and that what its trigger read is
still right. -/
def MembershipStatement.Owns (v : Server) (i : Nat) (m : MembershipStatement) :
    MembershipPhase → Prop
  | .idle | .tenanted => v.store.own i = []
  | .wrote => m.Changed v i
  | .computed value => m.Changed v i ∧ (v.view i).holdsPrivileged m.userId = value
  | .kept value =>
    m.Changed v i ∧ (v.view i).holdsPrivileged m.userId = value ∧
      ∀ u ∈ v.store.committed.users, u.id = m.userId → u.requiresMfa = value
  | .updated value => m.Flagged v i value ∧ (v.view i).holdsPrivileged m.userId = value

def MembershipSlot (v : Server) (i : Nat) : Option (MembershipStatement × Trace sql) → Prop
  | none => v.store.own i = []
  | some (m, h) => m.Owns v i (MembershipPhase.ofTrace h)

/-! ## The condition -/

/-- What the trigger can see decides what it should compute: after the write the user is
an owner or admin in the tenant of the transaction, or nowhere else. -/
def Server.seesEnough (v : Server) (i : Nat) (userId : Uuid) : Bool :=
  (v.view i).privilegedIn (v.tenant i) userId || !(v.view i).privilegedElsewhere (v.tenant i) userId

/-- A commit of transaction `i` leaves as it was what the trigger of the program in slot `k`
has read: whether its user is an owner or admin, and, if it has decided to leave the flag
alone, the flag. -/
def keepsRead (v : Server) (i k : Nat) : Option (MembershipStatement × Trace sql) → Bool
  | none => true
  | some (m, h) =>
    let privileged := (((v.commit i).view k).holdsPrivileged m.userId =
      (v.view k).holdsPrivileged m.userId : Bool)
    match MembershipPhase.ofTrace h with
    | .computed _ | .updated _ => privileged
    | .kept value =>
      privileged && (v.commit i).store.committed.users.all fun u =>
        u.id != m.userId || u.requiresMfa == value
    | _ => true

/-- Every trigger sees enough when it recomputes the flag, and no commit outdates what
another open transaction's trigger has read. -/
def keepsFlagReads (s : PoolState sql Server MembershipStatement Unit) :
    Act MembershipStatement Reply → Bool
  | .start _ => true
  | .step i x =>
    match s.nextCall i with
    | some (.existsPrivileged userId) => s.world.seesEnough i userId
    | some .commit =>
      x = .failed || (List.range s.threads.length).all fun k =>
        k = i || keepsRead s.world i k (s.slot k)
    | _ => true

/-! ## One step -/

section Step

variable {v v' : Server} {i k : Nat} {m : MembershipStatement} {φ : MembershipPhase}

theorem membershipSlot_of_unseen {o : Option (MembershipStatement × Trace sql)}
    (h : MembershipSlot v k o) (hv : v.Unseen v' i) (hk : k ≠ i) : MembershipSlot v' k o := by
  have hown := hv.own k hk
  have hview := Server.view_eq_of_own hv.committed hown
  rcases o with _ | ⟨m, h'⟩
  · exact hown.trans h
  · simp only [MembershipSlot] at h ⊢
    unfold MembershipStatement.Owns MembershipStatement.Changed MembershipStatement.Flagged at h ⊢
    rw [hown, hview, hv.committed]
    exact h

theorem membershipSlot_commit {o : Option (MembershipStatement × Trace sql)}
    (h : MembershipSlot v k o) (hk : k ≠ i) (hread : keepsRead v i k o = true) :
    MembershipSlot (v.commit i) k o := by
  have hown : (v.commit i).store.own k = v.store.own k := by rw [Server.commit_own, if_neg hk]
  have hids : (v.commit i).store.committed.users.map (·.id) =
      v.store.committed.users.map (·.id) := Database.userIds_foldl _
  rcases o with _ | ⟨m, h'⟩
  · exact hown.trans h
  · simp only [MembershipSlot, keepsRead] at h hread ⊢
    unfold MembershipStatement.Owns MembershipStatement.Changed MembershipStatement.Flagged at h ⊢
    rw [hown, hids]
    cases hφ : MembershipPhase.ofTrace h' with
    | idle | tenanted | wrote =>
      rw [hφ] at h
      exact h
    | computed value =>
      rw [hφ] at h hread
      exact ⟨h.1, (of_decide_eq_true hread).trans h.2⟩
    | kept value =>
      rw [hφ] at h hread
      simp only [Bool.and_eq_true, decide_eq_true_eq, List.all_eq_true, Bool.or_eq_true,
        bne_iff_ne, ne_eq, beq_iff_eq] at hread
      refine ⟨h.1, hread.1.trans h.2.1, fun u hu hid => ?_⟩
      exact (hread.2 u hu).resolve_left (not_not_intro hid)
    | updated value =>
      rw [hφ] at h hread
      exact ⟨h.1, (of_decide_eq_true hread).trans h.2⟩

/-- The trigger's `EXISTS`, limited to the tenant, gives the answer it should. -/
theorem existsPrivileged_eq (hsees : v.seesEnough i m.userId = true) (hrls : v.enforceRls = true) :
    ((v.memberships i).any fun n => n.userId == m.userId && n.isPrivileged) =
      (v.view i).holdsPrivileged m.userId := by
  have hin : ((v.memberships i).any fun n => n.userId == m.userId && n.isPrivileged) =
      (v.view i).privilegedIn (v.tenant i) m.userId := by
    simp only [Server.memberships, Server.sees, hrls, Bool.not_true, Bool.false_or,
      List.any_filter, Database.privilegedIn, Membership.isOf, Bool.and_assoc]
  rw [hin, Database.holdsPrivileged_eq (v.tenant i)]
  unfold Server.seesEnough at hsees
  cases h₁ : (v.view i).privilegedIn (v.tenant i) m.userId <;>
    cases h₂ : (v.view i).privilegedElsewhere (v.tenant i) m.userId <;> simp_all

/-- `SELECT requires_mfa` finds the flag that all rows of the user have. -/
theorem requiresMfa_of_select {value : Bool} (hsync : v.store.committed.RequiresInSync)
    (h : m.Changed v i)
    (hsel : ((v.view i).users.find? (·.id == m.userId)).map (·.requiresMfa) = some value) :
    ∀ u ∈ v.store.committed.users, u.id = m.userId → u.requiresMfa = value := by
  obtain ⟨w, hw, hown⟩ := h
  have husers : (v.view i).users = v.store.committed.users := by
    rw [Server.view, Store.view, hown]
    exact Database.users_write hw
  rw [husers, Option.map_eq_some_iff] at hsel
  obtain ⟨r, hr, rfl⟩ := hsel
  have hrid : (r.id == m.userId) = true := List.find?_some (p := fun u : User => u.id == m.userId) hr
  intro u hu hid
  rw [hsync u hu, hsync r (List.mem_of_find?_eq_some hr), hid, eq_of_beq hrid]

theorem membershipFlagged_of_update {value : Bool} {r : Except SqlError Nat} (h : m.Changed v i)
    (ha : v.update i ((v.view i).users.countP (·.id == m.userId)) (.setRequiresMfa m.userId value) =
      some (v', r)) :
    m.Flagged v' i value ∧
      (v'.view i).holdsPrivileged m.userId = (v.view i).holdsPrivileged m.userId := by
  obtain ⟨w, hw, hown⟩ := h
  rcases Server.update_cases ha with ⟨hn, rfl, -⟩ | ⟨-, -, hwrite⟩
  · refine ⟨⟨w, hw, .inr ⟨hown, ?_⟩⟩, rfl⟩
    have hids : (v'.view i).users.map (·.id) = v'.store.committed.users.map (·.id) :=
      Database.userIds_foldl _
    rw [List.countP_eq_zero] at hn
    rw [← hids, List.mem_map]
    rintro ⟨u, hu, hid⟩
    exact hn u hu (beq_iff_eq.mpr hid)
  · have hs := Server.write_store hwrite
    refine ⟨⟨w, hw, .inl ?_⟩, ?_⟩
    · rw [Store.write_own hs, if_pos rfl, hown]
      rfl
    · rw [Server.view, Store.write_view_self hs]
      rfl

/-- Everything a membership transaction can send, with the phase it sends it in. -/
theorem MembershipStatement.sends_cases {c : Statement} (h : m.Sends φ c) :
    c = .rollback ∨ (φ = .idle ∧ (c = .begin ∨ c = .setLocalTenant m.organizationId)) ∨
    (φ = .tenanted ∧ (c = .applyAudit ∨ c = .writeMembership m ∨ c = .commit)) ∨
    (φ = .wrote ∧ c = .existsPrivileged m.userId) ∨
    (∃ value, φ = .computed value ∧
      (c = .selectRequiresMfa m.userId ∨ c = .updateRequiresMfa m.userId value)) ∨
    (∃ value, (φ = .kept value ∨ φ = .updated value) ∧ c = .commit) := by
  cases c with
  | rollback => exact .inl rfl
  | begin | applyAudit | commit => cases φ <;> first | exact h.elim | simp
  | setLocalTenant | writeMembership | existsPrivileged | selectRequiresMfa =>
    cases φ <;> first | exact h.elim | (cases h; simp)
  | updateRequiresMfa => cases φ <;> first | exact h.elim | (obtain ⟨rfl, rfl⟩ := h; simp)
  | insertPasskey | revokePasskey | countLivePasskeys | updateMfaEnrolled =>
    cases φ <;> exact h.elim

theorem membershipOwns_call {c : Statement} {x : Reply} {r : c.Answer}
    (hsync : v.store.committed.RequiresInSync) (hrls : v.enforceRls = true)
    (hsees : ∀ userId, c = .existsPrivileged userId → v.seesEnough i userId = true)
    (h : m.Owns v i φ) (hs : m.Sends φ c) (ha : v.answer i c x = some (v', r)) :
    m.Owns v' i (φ.next c r) := by
  by_cases hcr : c = .commit ∨ c = .rollback
  · -- the transaction is over
    rcases hcr with rfl | rfl
    · rcases Server.commit_cases ha with ⟨-, rfl⟩ | ⟨-, rfl⟩
      · exact Server.rollback_own_self
      · show (v.commit i).store.own i = []
        rw [Server.commit_own, if_pos rfl]
    · rw [Server.rollback_cases ha]
      exact Server.rollback_own_self
  obtain ⟨hc, hr⟩ := not_or.mp hcr
  cases x with
  | lost => exact absurd (Server.answer_lost ha) hc
  | failed =>
    obtain ⟨rfl, rfl⟩ := Server.answer_failed ha hc hr
    cases c <;> first | exact h | contradiction
  | ok =>
    rcases MembershipStatement.sends_cases hs with hroll | ⟨rfl, rfl | rfl⟩ |
      ⟨rfl, rfl | rfl | hcommit⟩ | ⟨rfl, rfl⟩ | ⟨value, rfl, rfl | rfl⟩ | ⟨value, -, hcommit⟩
    · exact absurd hroll hr
    · simp only [Server.answer, Server.execute] at ha
      split at ha
      · cases ha
      · cases ha
        exact h
    · cases ha
      exact h
    · cases ha
      exact h
    · -- the membership row
      have hown : v.store.own i = [] := h
      rcases Server.writeMembership_cases ha with ⟨rfl, hzero⟩ | ⟨n, w, rfl, hn, hw, hwrite⟩
      · rcases r with e | n
        · exact h
        · obtain rfl := hzero n rfl
          exact h
      · show m.Owns v' i (if n = 0 then _ else _)
        rw [if_neg hn]
        refine ⟨w, hw, ?_⟩
        rw [Store.write_own (Server.write_store hwrite), if_pos rfl, hown]
        rfl
    · exact absurd hcommit hc
    · -- the trigger's `EXISTS`
      cases ha
      exact ⟨h, (existsPrivileged_eq (hsees _ rfl) hrls).symm⟩
    · -- the current value, which either settles the matter or is to be overwritten
      cases ha
      show m.Owns v i (if _ then _ else _)
      split
      · next hcur => exact ⟨h.1, h.2, requiresMfa_of_select hsync h.1 hcur⟩
      · exact h
    · obtain ⟨hf, hp⟩ := membershipFlagged_of_update h.1 ha
      rcases Server.update_cases ha with ⟨-, -, rfl⟩ | ⟨-, rfl, -⟩ <;>
        exact ⟨hf, hp.trans h.2⟩
    · exact absurd hcommit hc

/-- What a committing transaction leaves behind is in sync. -/
theorem requiresInSync_commit (hsync : v.store.committed.RequiresInSync) (h : m.Owns v i φ)
    (hs : m.Sends φ .commit) : (v.commit i).store.committed.RequiresInSync := by
  show (v.view i).RequiresInSync
  have hother : ∀ w : Write, w.membership = some (m.organizationId, m.userId) →
      ∀ u ∈ (v.store.committed.apply w).users, u.id ≠ m.userId →
      u.requiresMfa = (v.store.committed.apply w).holdsPrivileged u.id := by
    intro w hw u hu hne
    rw [Database.users_write hw] at hu
    rw [Database.holdsPrivileged_write_ne hw hne]
    exact hsync u hu
  rcases MembershipStatement.sends_cases hs with hc | ⟨-, hc | hc⟩ | ⟨rfl, hc⟩ | ⟨-, hc⟩ |
    ⟨value, -, hc | hc⟩ | ⟨value, rfl | rfl, -⟩
  all_goals first | cases hc; done | skip
  · -- nothing was written
    have hown : v.store.own i = [] := h
    rw [Server.view, Store.view, hown]
    exact hsync
  · obtain ⟨⟨w, hw, hown⟩, hvalue, hflag⟩ := h
    rw [Server.view, Store.view, hown] at hvalue ⊢
    intro u hu
    by_cases hid : u.id = m.userId
    · have hu' : u ∈ v.store.committed.users := Database.users_write hw ▸ hu
      rw [hflag u hu' hid, hid]
      exact hvalue.symm
    · exact hother w hw u hu hid
  · obtain ⟨⟨w, hw, hown | ⟨hown, hids⟩⟩, hvalue⟩ := h
    · rw [Server.view, Store.view, hown] at hvalue ⊢
      exact Database.requiresInSync_setRequiresMfa (hother w hw) hvalue.symm
    · rw [Server.view, Store.view, hown]
      intro u hu
      refine hother w hw u hu fun hid => hids ?_
      rw [← hid]
      exact List.mem_map_of_mem (Database.users_write hw ▸ hu)

end Step

/-! ## Every run -/

theorem membershipPool_slots {db : Database} {as : List (Act MembershipStatement Reply)}
    {s : PoolState sql Server MembershipStatement Unit} (hdb : db.RequiresInSync)
    (hC : membershipPool.allSteps keepsFlagReads (Pool.init (.ofDatabase db true)) as = true)
    (h : membershipPool.exec (Pool.init (.ofDatabase db true)) as = some s) :
    Pool.Slots (fun m h c => m.Sends (MembershipPhase.ofTrace h) c) (fun _ _ _ => True)
      (fun v => v.store.committed.RequiresInSync ∧ v.enforceRls = true) MembershipSlot s := by
  have h0 : ∀ i, MembershipSlot (.ofDatabase db true) i none := fun _ => rfl
  refine Pool.exec_slots membershipProgram_sends (fun _ _ _ _ h => h) ?_
    (Pool.slots_init ⟨hdb, rfl⟩ h0) hC h
  intro s i x t c v r js hs hCs ht hnext hsends ha
  replace ha := sqlPool_answer ha
  obtain ⟨hsync, hrls⟩ := hs.world
  have hi := hs.slot i
  rw [PoolState.slot_of_getElem? ht] at hi
  have hsees : ∀ userId, c = .existsPrivileged userId → s.world.seesEnough i userId = true := by
    rintro userId rfl
    simpa only [keepsFlagReads, hnext] using hCs
  have hslot : MembershipSlot v i (some (t.job, t.trace ++ [⟨c, r⟩])) := by
    show t.job.Owns v i (MembershipPhase.ofTrace _)
    rw [MembershipPhase.ofTrace_append]
    exact membershipOwns_call hsync hrls hsees hi hsends ha
  by_cases hc : c ≠ .commit ∨ x = .failed
  · -- nobody else notices
    have hv := Server.unseen_answer ha hc
    refine ⟨⟨?_, hv.enforceRls.trans hrls⟩, hslot, fun k hk =>
      membershipSlot_of_unseen (hs.slot k) hv hk⟩
    rw [hv.committed]
    exact hsync
  · obtain ⟨hcommit, hx⟩ := not_or.mp hc
    obtain rfl := not_not.mp hcommit
    rcases Server.commit_cases ha with ⟨hf, -⟩ | ⟨-, rfl⟩
    · exact absurd hf hx
    refine ⟨⟨requiresInSync_commit hsync hi hsends, hrls⟩, hslot, fun k hk => ?_⟩
    refine membershipSlot_commit (hs.slot k) hk ?_
    simp only [keepsFlagReads, hnext, hx, decide_false, Bool.false_or, List.all_eq_true,
      List.mem_range, Bool.or_eq_true, decide_eq_true_eq] at hCs
    by_cases hlt : k < s.threads.length
    · exact (hCs k hlt).resolve_left hk
    · have hnone : s.slot k = none := by
        by_contra hne
        exact hlt (PoolState.lt_of_slot_ne_none hne)
      rw [hnone]
      rfl

/-- In every run in which each trigger sees enough and no commit outdates what another
trigger has read, the flag of every user says whether the user is an owner or admin in any
organization. It does so in every state reached, so in particular whenever no transaction is
open. -/
theorem requiresMfa_iff_privileged {db : Database} {as : List (Act MembershipStatement Reply)}
    {s : PoolState sql Server MembershipStatement Unit} (hdb : db.RequiresInSync)
    (hC : membershipPool.allSteps keepsFlagReads (Pool.init (.ofDatabase db true)) as = true)
    (h : membershipPool.exec (Pool.init (.ofDatabase db true)) as = some s) :
    s.world.store.committed.RequiresInSync :=
  (membershipPool_slots hdb hC h).world.1

/-- An admin of organization 100. -/
def adminOfOne : Database where
  organizations := [100, 200]
  users := [⟨1, "admin@example.com", "Admin", false, true⟩]
  memberships := [⟨10, 100, 1, .admin, 0, none⟩]
  passkeys := []

/-- The admin is demoted in organization 100 while being made an admin of organization 200,
whose trigger runs after the demotion has committed. -/
def demotionAndPromotion : List (Act MembershipStatement Reply) :=
  [.start (.updateRole 100 1 .viewer), .start (.upsert 11 5 200 1 .admin), .step 0 .ok,
    .step 1 .ok, .step 0 .ok, .step 1 .ok, .step 0 .ok, .step 1 .ok, .step 1 .ok, .step 0 .ok,
    .step 0 .ok, .step 0 .ok, .step 0 .ok, .step 0 .ok, .step 1 .ok, .step 1 .ok, .step 1 .ok,
    .step 1 .ok]

theorem requiresMfa_iff_privileged_demotion :
    ∃ s, membershipPool.exec (Pool.init (.ofDatabase adminOfOne true)) demotionAndPromotion =
        some s ∧ s.world.store.opened = [] ∧ s.world.store.committed.RequiresInSync := by
  have hrun : (membershipPool.exec (Pool.init (.ofDatabase adminOfOne true))
      demotionAndPromotion).any (fun s => s.world.store.opened = []) = true := by decide +kernel
  obtain ⟨s, hs, hidle⟩ := (Option.any_eq_true _ _).mp hrun
  exact ⟨s, hs, of_decide_eq_true hidle,
    requiresMfa_iff_privileged (by decide) (by decide +kernel) hs⟩

/-- An owner of organization 200. -/
def ownerElsewhere : Database where
  organizations := [100, 200]
  users := [⟨1, "owner@example.com", "Owner", true, true⟩]
  memberships := [⟨10, 200, 1, .owner, 0, none⟩]
  passkeys := []

/-- The owner joins organization 100 as a viewer. -/
def joinAsViewer : List (Act MembershipStatement Reply) :=
  [.start (.upsert 11 5 100 1 .viewer), .step 0 .ok, .step 0 .ok, .step 0 .ok, .step 0 .ok,
    .step 0 .ok, .step 0 .ok, .step 0 .ok, .step 0 .ok]

/-- Joining a second organization in a lower role drops the flag of an owner. -/
theorem not_requiresMfa_iff_privileged :
    ¬ ∀ (db : Database) (as : List (Act MembershipStatement Reply))
      (s : PoolState sql Server MembershipStatement Unit), db.RequiresInSync →
      membershipPool.exec (Pool.init (.ofDatabase db true)) as = some s →
      s.world.store.opened = [] → s.world.store.committed.RequiresInSync := by
  intro h
  have hrun : (membershipPool.exec (Pool.init (.ofDatabase ownerElsewhere true)) joinAsViewer).any
      (fun s => s.world.store.opened = [] ∧ ¬ s.world.store.committed.RequiresInSync) = true := by
    decide
  obtain ⟨s, hs, hbad⟩ := (Option.any_eq_true _ _).mp hrun
  replace hbad := of_decide_eq_true hbad
  exact hbad.2 (h ownerElsewhere joinAsViewer s (by decide) hs hbad.1)

end Kubinate.Identity
