import Kubinate.Identity.MembershipService
import Kubinate.Identity.Owners
import Kubinate.Library.Pool

/-!
# The last owner of an organization

`update_role` refuses to demote the last owner. Its check and its write are two calls,
`remove_member` has no such check, and the upsert of `accept_invite` can lower the role of
somebody who is a member already.

* `exists_owner_of_keepsOwners`: in every run whose steps satisfy `keepsOwners`, an
  organization that has an owner at some point has one at every later point.
* `not_exists_owner_later`: without that condition an admin removes the only owner.
-/

namespace Kubinate.Identity

open Platform Library

/-! ## The calls of the operations -/

/-- How far `update_role` has come, as its trace tells. -/
inductive DemotionPhase where
  | gate
  | target
  | counting
  /-- the check has let the demotion through -/
  | cleared
  | ended
deriving DecidableEq

namespace DemotionPhase

def next (φ : DemotionPhase) : (c : DirectoryCall) → c.Answer → DemotionPhase
  | .roleOf .., r =>
    match φ, r with
    | .gate, .ok (some _) => .target
    | .target, .ok current => if current = some .owner then .counting else .cleared
    | _, _ => .ended
  | .listMembers _, r =>
    match φ, r with
    | .counting, .ok members => if members.countP (·.role = .owner) ≤ 1 then .ended else .cleared
    | _, _ => .ended
  | _, _ => .ended

def ofTrace (h : Trace directory) : DemotionPhase := h.foldl (fun φ e => φ.next e.1 e.2) .gate

@[simp] theorem ofTrace_nil : ofTrace [] = .gate := rfl

@[simp] theorem ofTrace_append (h : Trace directory) (c : directory.Call) (r : directory.Answer c) :
    ofTrace (h ++ [⟨c, r⟩]) = (ofTrace h).next c r := by
  rw [ofTrace, List.foldl_append]
  rfl

end DemotionPhase

/-- The calls an operation may make. The write of `update_role` comes after its check unless
the new role is owner. -/
def MembershipOp.Calls (φ : DemotionPhase) : MembershipOp → DirectoryCall → Prop
  | _, .now | _, .insertInvite .. | _, .getByHash _ | _, .markAccepted .. => True
  | .updateRole organizationId targetUserId newRole actorUserId, c =>
    match φ with
    | .gate => c = .roleOf organizationId actorUserId
    | .target =>
      (newRole = .owner ∧ c = .updateRole organizationId targetUserId newRole) ∨
        c = .roleOf organizationId targetUserId
    | .counting => c = .listMembers organizationId
    | .cleared => c = .updateRole organizationId targetUserId newRole
    | .ended => False
  | _, .roleOf .. => True
  | .acceptInvite .., .insertMembership .. => True
  | .removeMember .., .softDelete .. => True
  | _, _ => False

section Calls

variable {sha256 : String → List UInt8}

theorem meets_repository {P : Trace directory → DirectoryCall → Prop} {α : Type}
    {Q : Trace directory → Except InviteError α → Prop}
    {R : Trace directory → Except PlatformError α → Prop} {h : Trace directory}
    {p : Program directory (Except PlatformError α)}
    (hp : Meets P (fun _ _ _ => True) R p h) (hok : ∀ h a, R h (.ok a) → Q h (.ok a))
    (herror : ∀ h e, R h (.error e) → Q h (.error (.platform e))) :
    Meets P (fun _ _ _ => True) Q (repository p).run h := by
  refine meets_bind hp ?_
  rintro h (e | a) hr
  · exact herror h e hr
  · exact hok h a hr

/-- For an operation whose calls may come in any order. -/
theorem meets_repository_true {P : Trace directory → DirectoryCall → Prop} {α : Type}
    {h : Trace directory} {p : Program directory (Except PlatformError α)}
    (hp : Meets P (fun _ _ _ => True) (fun _ _ => True) p h) :
    Meets P (fun _ _ _ => True) (fun _ _ => True) (repository p).run h :=
  meets_repository hp (fun _ _ h => h) (fun _ _ h => h)

theorem requireMemberManagement_calls {P : Trace directory → DirectoryCall → Prop}
    {Q : Trace directory → Except InviteError MembershipRole → Prop}
    {organizationId actorUserId : Uuid} {h : Trace directory}
    (hP : P h (.roleOf organizationId actorUserId))
    (hok : ∀ role, Q (h ++ [⟨.roleOf organizationId actorUserId, .ok (some role)⟩]) (.ok role))
    (herror : ∀ h e, Q h (.error e)) :
    Meets P (fun _ _ _ => True) Q
      (MembershipService.requireMemberManagement organizationId actorUserId).run h := by
  refine ⟨hP, fun r _ => ?_⟩
  rcases r with e | _ | role
  · exact herror _ _
  · exact herror _ _
  · cases role
    · exact hok .owner
    · exact hok .admin
    · exact herror _ _
    · exact herror _ _

/-- After the check has passed the trace says so. -/
theorem refuseLastOwner_calls {organizationId targetUserId actorUserId : Uuid}
    {newRole : MembershipRole} {h : Trace directory} (hφ : DemotionPhase.ofTrace h = .target) :
    Meets (fun h c => (MembershipOp.updateRole organizationId targetUserId newRole
        actorUserId).Calls (DemotionPhase.ofTrace h) c) (fun _ _ _ => True)
      (fun h r => r = .ok () → DemotionPhase.ofTrace h = .cleared)
      (MembershipService.refuseLastOwner organizationId targetUserId).run h := by
  refine meets_bindE (Q := fun h r => ∀ current, r = .ok current →
    DemotionPhase.ofTrace h = if current = some .owner then .counting else .cleared) ?_ ?_ ?_
  · refine meets_repository (R := fun h r => ∀ current, r = .ok current →
      DemotionPhase.ofTrace h = if current = some .owner then .counting else .cleared) ?_ ?_ ?_
    · refine ⟨?_, fun r _ current hr => ?_⟩
      · beta_reduce
        rw [hφ]
        exact .inr rfl
      · subst hr
        rw [DemotionPhase.ofTrace_append, hφ]
        rfl
    · rintro h a hr current ⟨⟩
      exact hr a rfl
    · exact fun h e _ _ he => by cases he
  · intro h current hcurrent
    replace hcurrent := hcurrent current rfl
    refine meets_iteE.mpr ⟨fun howner => ?_, fun hne _ => ?_⟩
    · -- an owner is to be demoted: the list of members decides
      rw [if_pos howner] at hcurrent
      refine ⟨?_, fun r _ => ?_⟩
      · beta_reduce
        rw [hcurrent]
        rfl
      rcases r with e | members
      · exact nofun
      · refine meets_iteE.mpr ⟨fun _ => nofun, fun hcount _ => ?_⟩
        rw [DemotionPhase.ofTrace_append, hcurrent]
        exact if_neg hcount
    · rw [hcurrent, if_neg hne]
  · exact fun h e _ he => by cases he

theorem membershipOp_calls (j : MembershipOp) :
    Meets (fun h c => j.Calls (DemotionPhase.ofTrace h) c) (fun _ _ _ => True) (fun _ _ => True)
      (j.program sha256) [] := by
  cases j with
  | createInvite organizationId actorUserId email role token =>
    refine meets_bind (Q := fun _ _ => True) ?_ fun _ _ _ => trivial
    refine meets_bindE (Q := fun _ _ => True) ?_ (fun h _ _ => ?_) fun _ _ _ => trivial
    · exact requireMemberManagement_calls trivial (fun _ => trivial) fun _ _ => trivial
    refine ⟨trivial, fun now _ => ?_⟩
    refine meets_bindE (Q := fun _ _ => True) ?_ (fun _ _ _ => trivial) fun _ _ _ => trivial
    exact meets_repository_true ⟨trivial, fun _ _ => trivial⟩
  | acceptInvite token userId userEmail =>
    refine meets_bind (Q := fun _ _ => True) ?_ fun _ _ _ => trivial
    refine meets_bindE (Q := fun _ _ => True) ?_ (fun h found _ => ?_) fun _ _ _ => trivial
    · exact meets_repository_true ⟨trivial, fun _ _ => trivial⟩
    rcases found with _ | invite
    · trivial
    refine ⟨trivial, fun now _ => ?_⟩
    refine meets_iteE.mpr ⟨fun _ => trivial, fun _ => ?_⟩
    refine meets_iteE.mpr ⟨fun _ => trivial, fun _ => ?_⟩
    refine meets_bindE (Q := fun _ _ => True) ?_ (fun _ _ _ => ?_) fun _ _ _ => trivial
    · exact meets_repository_true ⟨trivial, fun _ _ => trivial⟩
    refine meets_bindE (Q := fun _ _ => True) ?_ (fun _ _ _ => trivial) fun _ _ _ => trivial
    exact meets_repository_true ⟨trivial, fun _ _ => trivial⟩
  | updateRole organizationId targetUserId newRole actorUserId =>
    refine meets_bind (Q := fun _ _ => True) ?_ fun _ _ _ => trivial
    refine meets_bindE (Q := fun h r => (∃ role, r = .ok role) → DemotionPhase.ofTrace h = .target)
      ?_ (fun h role hφ => ?_) fun _ _ _ => trivial
    · exact requireMemberManagement_calls rfl (fun _ _ => rfl) (fun _ _ ⟨_, he⟩ => by cases he)
    replace hφ := hφ ⟨role, rfl⟩
    by_cases howner : newRole = .owner
    · subst howner
      refine meets_repository_true ⟨?_, fun _ _ => trivial⟩
      beta_reduce
      rw [hφ]
      exact .inl ⟨rfl, rfl⟩
    · rw [if_pos howner]
      refine meets_bindE (refuseLastOwner_calls hφ) (fun h _ hcleared => ?_) fun _ _ _ => trivial
      refine meets_repository_true ⟨?_, fun _ _ => trivial⟩
      beta_reduce
      rw [hcleared rfl]
      rfl
  | removeMember organizationId targetUserId actorUserId =>
    refine meets_bind (Q := fun _ _ => True) ?_ fun _ _ _ => trivial
    refine meets_bindE (Q := fun _ _ => True) ?_ (fun h _ _ => ?_) fun _ _ _ => trivial
    · exact requireMemberManagement_calls trivial (fun _ => trivial) fun _ _ => trivial
    refine meets_iteE.mpr ⟨fun _ => trivial, fun _ => ?_⟩
    exact meets_repository_true ⟨trivial, fun _ _ => trivial⟩

end Calls

/-! ## The condition -/

/-- The user can lose the owner role: they do not hold it, or they are not the only one. -/
def Database.canDemote (db : Database) (organizationId userId : Uuid) : Bool :=
  !(db.owners organizationId).contains userId || (db.owners organizationId).any (· != userId)

/-- The organization and the target of an `update_role` that is between its check and its
write. -/
def clearedFor : Option (MembershipOp × Trace directory) → Option (Uuid × Uuid)
  | some (.updateRole organizationId targetUserId _ _, h) =>
    if DemotionPhase.ofTrace h = .cleared then some (organizationId, targetUserId) else none
  | _ => none

/-- `remove_member` and an accepted invite do not take the role of the only owner, and no
call outdates the check of an `update_role` that has yet to write. -/
def keepsOwners (s : PoolState directory Directory MembershipOp Unit) :
    Act MembershipOp Outcome → Bool
  | .start _ => true
  | .step i x =>
    match s.nextCall i with
    | none => true
    | some c =>
      (match c with
        | .softDelete organizationId userId =>
          x.reply = .failed || s.world.db.canDemote organizationId userId
        | .insertMembership organizationId userId role =>
          x.reply = .failed || role = .owner || s.world.db.canDemote organizationId userId
        | _ => true) &&
      (List.range s.threads.length).all fun k =>
        k = i || (clearedFor (s.slot k)).all fun p => (s.world.answer c x).1.db.canDemote p.1 p.2

section Condition

variable {s : PoolState directory Directory MembershipOp Unit} {i k : Nat} {x : Outcome}
  {c : directory.Call}

theorem canDemote_of_keepsOwners (h : keepsOwners s (.step i x) = true)
    (hnext : s.nextCall i = some c) (hk : k ≠ i) {p : Uuid × Uuid}
    (hp : clearedFor (s.slot k) = some p) : (s.world.answer c x).1.db.canDemote p.1 p.2 = true := by
  have hlt : k < s.threads.length := by
    refine PoolState.lt_of_slot_ne_none fun hnone => ?_
    rw [hnone] at hp
    cases hp
  simp only [keepsOwners, hnext, Bool.and_eq_true, List.all_eq_true, List.mem_range] at h
  have hall := h.2 k hlt
  simpa only [hk, decide_false, Bool.false_or, hp, Option.all_some] using hall

end Condition

/-! ## One step -/

/-- What the check of an `update_role` has found still holds. -/
def ClearedSlot (d : Directory) (_ : Nat) (o : Option (MembershipOp × Trace directory)) : Prop :=
  ∀ p, clearedFor o = some p → d.db.canDemote p.1 p.2 = true

namespace Database

variable {db db' : Database} {o u : Uuid} {n : Nat}

theorem canDemote_iff : db.canDemote o u = true ↔ (u ∈ db.owners o → ∃ w ∈ db.owners o, w ≠ u) := by
  simp only [canDemote, Bool.or_eq_true, Bool.not_eq_true', List.any_eq_true, bne_iff_ne]
  rw [← Bool.not_eq_true, List.contains_iff_mem]
  tauto

/-- The members that the check counts are owners, so two of them are two owners. -/
theorem countP_members_le : (db.members o).countP (·.role = .owner) ≤ (db.owners o).length := by
  rw [owners, List.length_map, ← List.countP_eq_length_filter, members, List.countP_filterMap,
    List.countP_filter]
  refine List.countP_mono_left fun m _ hm => ?_
  simp only [Bool.and_eq_true, beq_iff_eq] at hm
  obtain ⟨hview, horg, hlive⟩ := hm
  have hrole : m.role = .owner := by
    cases hu : db.users.find? (·.id == m.userId) with
    | none => simp [hu] at hview
    | some u => simpa [hu] using hview
  simp [Membership.isOwnerOf, horg, hlive, hrole]

theorem KeysUnique.canDemote_of_count (h : db.KeysUnique)
    (hn : 1 < (db.members o).countP (·.role = .owner)) : db.canDemote o u = true := by
  rw [canDemote_iff]
  intro hu
  have hlen : 1 < (db.owners o).length := lt_of_lt_of_le hn countP_members_le
  by_contra hall
  push Not at hall
  have hsub : (db.owners o).length ≤ [u].length := by
    refine (h.nodup_owners.subperm fun w hw => ?_).length_le
    exact List.mem_singleton.mpr (hall w hw)
  exact absurd hlen (Nat.not_lt.mpr hsub)

/-- A membership write keeps an owner as long as it does not demote the only one. -/
theorem owners_ne_nil_change {c : MembershipStatement} (h : db.changeMembership c = .ok (db', n))
    (hc : c.demotes = true → db.canDemote c.organizationId c.userId = true)
    (ho : db.owners o ≠ []) : db'.owners o ≠ [] := by
  by_cases hne : o = c.organizationId
  · subst hne
    obtain ⟨w, hw⟩ := List.exists_mem_of_ne_nil _ ho
    cases hd : c.demotes with
    | false => exact List.ne_nil_of_mem (owners_keep h hd hw)
    | true =>
      rw [owners_demote h hd]
      have hdem := canDemote_iff.mp (hc hd)
      by_cases hu : c.userId ∈ db.owners c.organizationId
      · obtain ⟨w', hw', hne'⟩ := hdem hu
        exact List.ne_nil_of_mem (List.mem_filter.mpr ⟨hw', bne_iff_ne.mpr hne'⟩)
      · refine List.ne_nil_of_mem (List.mem_filter.mpr ⟨hw, bne_iff_ne.mpr ?_⟩)
        rintro rfl
        exact hu hw
  · rw [owners_change_ne h hne]
    exact ho

end Database

section Step

variable {d d' : Directory} {j : MembershipOp} {h : Trace directory} {x : Outcome} {i : Nat}

/-- The two ways through the check of `update_role`. -/
theorem clearedSlot_call {c : DirectoryCall} {r : c.Answer} (hk : d.db.KeysUnique)
    (hc : j.Calls (DemotionPhase.ofTrace h) c) (ha : d.answer c x = (d', r)) :
    ClearedSlot d' i (some (j, h ++ [⟨c, r⟩])) := by
  intro p hp
  cases j with
  | updateRole organizationId targetUserId newRole actorUserId =>
    simp only [clearedFor] at hp
    split at hp
    · next hcleared =>
      cases hp
      rw [DemotionPhase.ofTrace_append] at hcleared
      generalize DemotionPhase.ofTrace h = φ at hc hcleared
      cases c with
      | roleOf o u =>
        rcases r with e | current
        · cases φ <;> cases hcleared
        obtain ⟨rfl, rfl⟩ := Directory.answer_roleOf ha
        cases φ with
        | target =>
          -- the target is not an owner
          rcases hc with ⟨-, hc⟩ | hc
          · cases hc
          cases hc
          rw [Database.canDemote_iff, ← hk.roleOf_eq_owner_iff]
          intro howner
          rw [howner] at hcleared
          cases hcleared
        | gate => cases hrole : d'.db.roleOf o u <;> rw [hrole] at hcleared <;> cases hcleared
        | counting | cleared | ended => cases hcleared
      | listMembers o =>
        rcases r with e | members
        · cases φ <;> cases hcleared
        obtain ⟨rfl, rfl⟩ := Directory.answer_listMembers ha
        cases φ with
        | counting =>
          -- there are two owners
          cases hc
          refine hk.canDemote_of_count ?_
          by_contra hle
          have hover : DemotionPhase.next .counting (.listMembers organizationId)
              (.ok (d'.db.members organizationId)) = .ended := if_pos (Nat.not_lt.mp hle)
          cases hover.symm.trans hcleared
        | gate | target | cleared | ended => cases hcleared
      | now | insertMembership | updateRole | softDelete | insertInvite | getByHash
      | markAccepted => cases hcleared
    · cases hp
  | createInvite | acceptInvite | removeMember => cases hp

/-- A call inside the specification of its operation and inside the condition takes the last
owner from no organization. -/
theorem owners_ne_nil_call {s : PoolState directory Directory MembershipOp Unit}
    {c : DirectoryCall} {organizationId : Uuid} (hC : keepsOwners s (.step i x) = true)
    (hnext : s.nextCall i = some c) (hc : j.Calls (DemotionPhase.ofTrace h) c)
    (hslot : ClearedSlot s.world i (some (j, h)))
    (ho : s.world.db.owners organizationId ≠ []) :
    (s.world.answer c x).1.db.owners organizationId ≠ [] := by
  rcases Directory.answer_memberships (d := s.world) (x := x) c with hm | ⟨m, db, n, hx, hst, hch, hm⟩
  · rw [Database.owners_congr hm]
    exact ho
  rw [Database.owners_congr hm]
  refine Database.owners_ne_nil_change hch (fun hd => ?_) ho
  simp only [keepsOwners, hnext, Bool.and_eq_true] at hC
  replace hC := hC.1
  cases c with
  | insertMembership o u role =>
    cases hst
    have hrole : role ≠ .owner := by simpa [MembershipStatement.demotes] using hd
    simpa [hx, hrole, MembershipStatement.organizationId, MembershipStatement.userId] using hC
  | softDelete o u =>
    cases hst
    simpa [hx, MembershipStatement.organizationId, MembershipStatement.userId] using hC
  | updateRole o u role =>
    cases hst
    have hrole : role ≠ .owner := by simpa [MembershipStatement.demotes] using hd
    cases j with
    | updateRole organizationId targetUserId newRole actorUserId =>
      -- only a cleared demotion gets here
      generalize hφ : DemotionPhase.ofTrace h = φ at hc
      cases φ with
      | cleared =>
        cases hc
        exact hslot (o, u) (by simp [clearedFor, hφ])
      | target =>
        rcases hc with ⟨hown, hc⟩ | hc
        · cases hc
          exact absurd hown hrole
        · cases hc
      | gate | counting | ended => cases hc
    | createInvite | acceptInvite | removeMember => cases hc
  | now | roleOf | listMembers | insertInvite | getByHash | markAccepted => cases hst

end Step

/-! ## Every run -/

section Runs

variable {sha256 : String → List UInt8} {s s' : PoolState directory Directory MembershipOp Unit}
  {as : List (Act MembershipOp Outcome)}

/-- Checks stay right along a run, and so does anything else about the directory that every
call preserves. -/
theorem servicePool_slots {G : Directory → Prop}
    (hG : ∀ (s : PoolState directory Directory MembershipOp Unit) i x j h c,
      keepsOwners s (.step i x) = true → s.nextCall i = some c →
      MembershipOp.Calls (DemotionPhase.ofTrace h) j c → ClearedSlot s.world i (some (j, h)) →
      G s.world → G (s.world.answer c x).1)
    (h0 : Pool.Slots (fun j h c => j.Calls (DemotionPhase.ofTrace h) c) (fun _ _ _ => True)
      (fun d => d.db.KeysUnique ∧ G d) ClearedSlot s)
    (hC : (servicePool sha256).allSteps keepsOwners s as = true)
    (h : (servicePool sha256).exec s as = some s') :
    Pool.Slots (fun j h c => j.Calls (DemotionPhase.ofTrace h) c) (fun _ _ _ => True)
      (fun d => d.db.KeysUnique ∧ G d) ClearedSlot s' := by
  refine Pool.exec_slots membershipOp_calls ?_ ?_ h0 hC h
  · intro d i j _ _ p hp
    cases j <;> cases hp
  · intro s i x t c d r js hs hCs ht hnext hcalls ha
    have ha' : s.world.answer c x = (d, r) := by
      simp only [servicePool, Option.some.injEq, Prod.mk.injEq] at ha
      exact Prod.ext ha.1 ha.2.1
    have hi := hs.slot i
    rw [PoolState.slot_of_getElem? ht] at hi
    have hd : (s.world.answer c x).1 = d := by rw [ha']
    refine ⟨⟨?_, ?_⟩, clearedSlot_call hs.world.1 hcalls ha', ?_⟩
    · exact hd ▸ Directory.keysUnique_answer hs.world.1 c
    · exact hd ▸ hG s i x t.job t.trace c hCs hnext hcalls hi hs.world.2
    · intro k hk p hp
      exact hd ▸ canDemote_of_keepsOwners hCs hnext hk hp

/-- In every run inside the condition, an organization with an owner at some point has an
owner at every later point. -/
theorem exists_owner_of_keepsOwners {d : Directory} {organizationId : Uuid}
    {as₁ as₂ : List (Act MembershipOp Outcome)}
    {s₁ s₂ : PoolState directory Directory MembershipOp Unit} (hd : d.db.KeysUnique)
    (hC : (servicePool sha256).allSteps keepsOwners (Pool.init d) (as₁ ++ as₂) = true)
    (h₁ : (servicePool sha256).exec (Pool.init d) as₁ = some s₁)
    (h₂ : (servicePool sha256).exec s₁ as₂ = some s₂)
    (howner : s₁.world.db.owners organizationId ≠ []) :
    s₂.world.db.owners organizationId ≠ [] := by
  obtain ⟨hC₁, hC₂⟩ := Pool.allSteps_append h₁ hC
  have hinit : Pool.Slots (fun j h c => MembershipOp.Calls (DemotionPhase.ofTrace h) j c) (fun _ _ _ => True)
      (fun d => d.db.KeysUnique ∧ True) ClearedSlot
      (Pool.init d : PoolState directory Directory MembershipOp Unit) :=
    Pool.slots_init ⟨hd, trivial⟩ fun _ _ hp => by cases hp
  have hs₁ := servicePool_slots (fun _ _ _ _ _ _ _ _ _ _ _ => trivial) hinit hC₁ h₁
  have hs₁' : Pool.Slots (fun j h c => MembershipOp.Calls (DemotionPhase.ofTrace h) j c) (fun _ _ _ => True)
      (fun d => d.db.KeysUnique ∧ d.db.owners organizationId ≠ []) ClearedSlot s₁ :=
    { hs₁ with world := ⟨hs₁.world.1, howner⟩ }
  exact (servicePool_slots (fun _ _ _ _ _ _ hCs hnext hcalls hslot ho =>
    owners_ne_nil_call hCs hnext hcalls hslot ho) hs₁' hC₂ h₂).world.2

end Runs

/-- Organization 7 with the owner 1, the owner 2 and the admin 3. -/
def threeMembers : Directory where
  enforceRls := true
  db :=
    { organizations := [7]
      users := [⟨1, "ada@example.com", "Ada", false, true⟩, ⟨2, "bob@example.com", "Bob", false, true⟩,
        ⟨3, "cyd@example.com", "Cyd", false, true⟩]
      memberships := [⟨10, 7, 1, .owner, 0, none⟩, ⟨11, 7, 2, .owner, 0, none⟩,
        ⟨12, 7, 3, .admin, 0, none⟩]
      passkeys := [] }

/-- Each of the two owners demotes the other, one after the other. -/
def demotionsInTurn : List (Act MembershipOp Outcome) :=
  let ok : Outcome := ⟨.ok, 5, 0⟩
  [.start (.updateRole 7 2 .admin 1), .start (.updateRole 7 1 .admin 2), .step 0 ok, .step 1 ok,
    .step 0 ok, .step 0 ok, .step 0 ok, .step 1 ok, .step 1 ok]

theorem exists_owner_of_keepsOwners_in_turn :
    ∃ s, (servicePool fun _ => []).exec (Pool.init threeMembers) demotionsInTurn = some s ∧
      s.quiet = true ∧ s.world.db.owners 7 ≠ [] := by
  have hrun : ((servicePool fun _ => []).exec (Pool.init threeMembers) demotionsInTurn).any
      (fun s => s.quiet) = true := by decide
  obtain ⟨s, hs, hquiet⟩ := (Option.any_eq_true _ _).mp hrun
  exact ⟨s, hs, hquiet, exists_owner_of_keepsOwners (d := threeMembers) (by decide) (by decide)
    (Pool.exec_nil) hs (by decide)⟩

/-- The admin removes both owners. -/
def removals : List (Act MembershipOp Outcome) :=
  let ok : Outcome := ⟨.ok, 5, 0⟩
  [.start (.removeMember 7 1 3), .step 0 ok, .step 0 ok, .start (.removeMember 7 2 3), .step 1 ok,
    .step 1 ok]

/-- Without that condition an organization can be left without an owner. -/
theorem not_exists_owner_later :
    ¬ ∀ (sha256 : String → List UInt8) (d : Directory) (organizationId : Uuid)
      (as₁ as₂ : List (Act MembershipOp Outcome))
      (s₁ s₂ : PoolState directory Directory MembershipOp Unit), d.db.KeysUnique →
      (servicePool sha256).exec (Pool.init d) as₁ = some s₁ →
      (servicePool sha256).exec s₁ as₂ = some s₂ →
      s₁.world.db.owners organizationId ≠ [] → s₂.world.db.owners organizationId ≠ [] := by
  intro h
  have hrun : ((servicePool fun _ => []).exec (Pool.init threeMembers) removals).any
      (fun s => s.world.db.owners 7 = []) = true := by decide
  obtain ⟨s, hs, hnone⟩ := (Option.any_eq_true _ _).mp hrun
  exact h _ threeMembers 7 [] removals _ s (by decide) Pool.exec_nil hs (by decide)
    (of_decide_eq_true hnone)

end Kubinate.Identity
