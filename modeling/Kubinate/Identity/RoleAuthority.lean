import Kubinate.Identity.MembershipService
import Kubinate.Identity.Owners
import Kubinate.Library.Sequence

/-!
# Authority over the owner role

An admin passes `require_member_management` as an owner does, and none of the operations
compares the role it gives or takes with the role of its caller.

* `ownerRows_of_respectsOwners`: in every sequence of operations by callers who are not
  owners, as long as each satisfies `respectsOwners`, the live owner memberships stay
  exactly as they are.
* `not_ownerRows_eq`: without that condition an admin promotes themselves.
-/

namespace Kubinate.Identity

open Platform Library

/-! ## Operations one after the other -/

/-- An operation with how each of its calls goes. -/
structure MembershipRequest where
  op : MembershipOp
  outcome : Nat → Outcome

/-- The directory answers the `n`-th call of an operation. -/
def Directory.respond (x : Nat → Outcome) (w : Directory × Nat) (c : DirectoryCall) :
    (Directory × Nat) × c.Answer :=
  (((w.1.answer c (x w.2)).1, w.2 + 1), (w.1.answer c (x w.2)).2)

section

variable (sha256 : String → List UInt8)

/-- The directory after the operation. -/
def MembershipRequest.perform (d : Directory) (q : MembershipRequest) : Directory :=
  ((q.op.program sha256).run (I := directory) (Directory.respond q.outcome) (d, 0)).1.1

/-- The caller of the operation does not own the organization it is about. -/
def callerNotOwner (d : Directory) (q : MembershipRequest) : Bool :=
  match q.op with
  | .createInvite organizationId actorUserId .. | .updateRole organizationId _ _ actorUserId
  | .removeMember organizationId _ actorUserId =>
    d.db.roleOf organizationId actorUserId ≠ some .owner
  | .acceptInvite token userId _ =>
    (d.unscopedInvites.find? (·.tokenHash == sha256 token)).all fun i =>
      d.db.roleOf i.organizationId userId ≠ some .owner

/-- No invite for the owner role is accepted, and an admin neither changes or removes an
owner nor makes one. -/
def respectsOwners (d : Directory) (q : MembershipRequest) : Bool :=
  match q.op with
  | .createInvite .. => true
  | .acceptInvite token _ userEmail =>
    (d.unscopedInvites.find? (·.tokenHash == sha256 token)).all fun i =>
      i.role ≠ .owner || !eqIgnoreAsciiCase i.email userEmail ||
        !i.toInvite.isLive (q.outcome 1).now
  | .updateRole organizationId targetUserId newRole actorUserId =>
    d.db.roleOf organizationId actorUserId ≠ some .admin ||
      match d.db.roleOf organizationId targetUserId with
      | none => true
      | some current =>
        if newRole = .owner then current = .owner
        -- the last owner cannot be demoted
        else current ≠ .owner || (d.db.members organizationId).countP (·.role = .owner) ≤ 1
  | .removeMember organizationId targetUserId actorUserId =>
    d.db.roleOf organizationId actorUserId ≠ some .admin || targetUserId = actorUserId ||
      d.db.roleOf organizationId targetUserId ≠ some .owner

end

/-! ## The owner rows -/

namespace Database

variable {db db' : Database} {o u : Uuid} {c : MembershipStatement} {n : Nat}

/-- The live memberships with the owner role. -/
def ownerRows (db : Database) : List Membership :=
  db.memberships.filter fun m => m.isLive && m.role == .owner

/-- Changing rows that are owner rows neither before nor after changes no owner row. -/
theorem filter_map_of_not {p q : Membership → Bool} {f : Membership → Membership}
    {ms : List Membership} (h : ∀ m ∈ ms, q m = true → p m = false ∧ p (f m) = false) :
    (ms.map fun m => if q m then f m else m).filter p = ms.filter p := by
  induction ms with
  | nil => rfl
  | cons m ms ih =>
    rw [List.map_cons, List.filter_cons, List.filter_cons,
      ih fun m hm => h m (List.mem_cons_of_mem _ hm)]
    by_cases hq : q m = true
    · obtain ⟨h₁, h₂⟩ := h m List.mem_cons_self hq
      rw [if_pos hq, h₁, h₂]
      rfl
    · rw [if_neg hq]

/-- A statement that leaves its user without the owner role changes no owner row when the
user was not an owner. -/
theorem ownerRows_demote (h : db.changeMembership c = .ok (db', n)) (hd : c.demotes = true)
    (hu : c.userId ∉ db.owners c.organizationId) : db'.ownerRows = db.ownerRows := by
  have hnot : ∀ m ∈ db.memberships, m.isOf c.organizationId c.userId = true →
      (m.isLive && m.role == .owner) = false := by
    intro m hm hof
    obtain ⟨ho, hmu⟩ := isOf_eq_true_iff.mp hof
    rw [← Bool.not_eq_true]
    intro hown
    refine hu (mem_owners.mpr ⟨m, hm, ?_, hmu⟩)
    simp only [Bool.and_eq_true, beq_iff_eq] at hown
    simp [Membership.isOwnerOf, ho, hown]
  cases c with
  | upsert id now organizationId userId role =>
    have hrole : role ≠ .owner := by simpa [MembershipStatement.demotes] using hd
    rcases upsert_cases h with rfl | ⟨-, rfl⟩
    · exact filter_map_of_not fun m hm hof => ⟨hnot m hm hof, by simp [hrole]⟩
    · simp [ownerRows, apply, hrole]
  | updateRole organizationId userId role =>
    have hrole : role ≠ .owner := by simpa [MembershipStatement.demotes] using hd
    cases h
    refine filter_map_of_not fun m hm hof => ⟨hnot m hm ?_, by simp [hrole]⟩
    exact (Bool.and_eq_true _ _ ▸ hof).1
  | softDelete now organizationId userId =>
    cases h
    refine filter_map_of_not fun m hm hof => ⟨hnot m hm ?_, by simp [Membership.isLive]⟩
    exact (Bool.and_eq_true _ _ ▸ hof).1

/-- Giving the owner role to somebody who has it, or who is no member, changes nothing. -/
theorem setRole_owner (hk : db.KeysUnique)
    (h : ∀ current, db.roleOf o u = some current → current = .owner) :
    (db.apply (.setRole o u .owner)).memberships = db.memberships := by
  refine (List.map_congr_left fun m hm => ?_).trans (List.map_id _)
  split
  · next hof =>
    have hrole := h m.role (hk.roleOf_eq hm hof)
    rw [← hrole]
    rfl
  · rfl

theorem ownerRows_congr (h : db'.memberships = db.memberships) : db'.ownerRows = db.ownerRows := by
  rw [ownerRows, ownerRows, h]

end Database

/-! ## One operation -/

section Step

variable {sha256 : String → List UInt8} {d : Directory} {x : Nat → Outcome} {w : Directory × Nat}

theorem ends_repository {α : Type} {p : Program directory (Except PlatformError α)}
    {R : Directory × Nat → Except InviteError α → Prop}
    (hok : ∀ a, (p.run (Directory.respond x) w).2 = .ok a →
      R (p.run (Directory.respond x) w).1 (.ok a))
    (herror : ∀ e, R (p.run (Directory.respond x) w).1 (.error e)) :
    Program.Ends (I := directory) (Directory.respond x) R (repository p).run w := by
  refine Program.ends_bind.mpr ?_
  unfold Program.Ends
  cases hr : (p.run (Directory.respond x) w).2 with
  | ok a => exact hok a hr
  | error e => exact herror (.platform e)

/-- A read leaves the directory alone and, when it succeeds, returns what is there. -/
theorem ends_read {α : Type} {p : Program directory (Except PlatformError α)} {a : α}
    {R : Directory × Nat → Except InviteError α → Prop}
    (hp : p.run (Directory.respond x) w = ((w.1, w.2 + 1), .ok a) ∨
      ∃ e, p.run (Directory.respond x) w = ((w.1, w.2 + 1), .error e))
    (hok : R (w.1, w.2 + 1) (.ok a)) (herror : ∀ e, R (w.1, w.2 + 1) (.error e)) :
    Program.Ends (I := directory) (Directory.respond x) R (repository p).run w := by
  refine ends_repository (fun b hb => ?_) fun e => ?_
  · rcases hp with hp | ⟨e, hp⟩
    · rw [hp] at hb ⊢
      cases hb
      exact hok
    · rw [hp] at hb
      cases hb
  · rcases hp with hp | ⟨_, hp⟩ <;> rw [hp] <;> exact herror e

theorem run_roleOf (organizationId userId : Uuid) :
    (ask (.roleOf organizationId userId)).run (Directory.respond x) w =
        ((w.1, w.2 + 1), .ok (w.1.db.roleOf organizationId userId)) ∨
      ∃ e, (ask (.roleOf organizationId userId)).run (Directory.respond x) w =
        ((w.1, w.2 + 1), .error e) := by
  cases hx : (x w.2).reply <;>
    simp [ask, Program.perform, Program.run, Directory.respond, Directory.answer, hx,
      Directory.execute, Directory.broken]

theorem run_listMembers (organizationId : Uuid) :
    (ask (.listMembers organizationId)).run (Directory.respond x) w =
        ((w.1, w.2 + 1), .ok (w.1.db.members organizationId)) ∨
      ∃ e, (ask (.listMembers organizationId)).run (Directory.respond x) w =
        ((w.1, w.2 + 1), .error e) := by
  cases hx : (x w.2).reply <;>
    simp [ask, Program.perform, Program.run, Directory.respond, Directory.answer, hx,
      Directory.execute, Directory.broken]

theorem run_getByHash (tokenHash : List UInt8) :
    (ask (.getByHash tokenHash)).run (Directory.respond x) w =
        ((w.1, w.2 + 1),
          .ok ((w.1.unscopedInvites.find? (·.tokenHash == tokenHash)).map (·.toInvite))) ∨
      ∃ e, (ask (.getByHash tokenHash)).run (Directory.respond x) w =
        ((w.1, w.2 + 1), .error e) := by
  cases hx : (x w.2).reply <;>
    simp [ask, Program.perform, Program.run, Directory.respond, Directory.answer, hx,
      Directory.execute, Directory.broken]

/-- The gate only reads; it lets owners and admins through. -/
theorem ends_requireMemberManagement {organizationId actorUserId : Uuid}
    {R : Directory × Nat → Except InviteError MembershipRole → Prop}
    (hok : ∀ role, w.1.db.roleOf organizationId actorUserId = some role →
      role.canManageMembers = true → R (w.1, w.2 + 1) (.ok role))
    (herror : ∀ e, R (w.1, w.2 + 1) (.error e)) :
    Program.Ends (I := directory) (Directory.respond x) R
      (MembershipService.requireMemberManagement organizationId actorUserId).run w := by
  refine Program.ends_bindE (Q := fun w' r => w' = (w.1, w.2 + 1) ∧
    ∀ role, r = .ok role → role = w.1.db.roleOf organizationId actorUserId) ?_ ?_ ?_
  · exact ends_read (run_roleOf organizationId actorUserId)
      ⟨rfl, fun _ h => by cases h; rfl⟩ fun _ => ⟨rfl, nofun⟩
  · rintro _ role ⟨rfl, hrole⟩
    have hrole := hrole role rfl
    rcases role with _ | role
    · exact herror _
    · refine Program.ends_iteE.mpr ⟨fun _ => herror _, fun hmanage => ?_⟩
      exact hok role hrole.symm (by simpa using hmanage)
  · rintro _ e ⟨rfl, -⟩
    exact herror e

/-- A caller who passes the gate without being an owner is an admin. -/
theorem roleOf_eq_admin {r : Option MembershipRole} {role : MembershipRole}
    (hcaller : r ≠ some .owner) (hr : r = some role) (hmanage : role.canManageMembers = true) :
    r = some .admin := by
  subst hr
  cases role with
  | owner => exact absurd rfl hcaller
  | admin => rfl
  | developer | viewer => cases hmanage

/-- A membership write inside the condition. -/
theorem ownerRows_respond {c : DirectoryCall} (hk : w.1.db.KeysUnique)
    (hc : ∀ m, c.statement (x w.2) = some m →
      (m.demotes = true ∧ m.userId ∉ w.1.db.owners m.organizationId) ∨
        ∃ o u, m = .updateRole o u .owner ∧
          ∀ current, w.1.db.roleOf o u = some current → current = .owner) :
    (Directory.respond x w c).1.1.db.ownerRows = w.1.db.ownerRows := by
  rcases Directory.answer_memberships (d := w.1) (x := x w.2) c with
    hm | ⟨m, db, n, -, hst, hch, hm⟩
  · exact Database.ownerRows_congr hm
  · refine (Database.ownerRows_congr hm).trans ?_
    rcases hc m hst with ⟨hd, hu⟩ | ⟨o, u, rfl, hrole⟩
    · exact Database.ownerRows_demote hch hd hu
    · cases hch
      exact Database.ownerRows_congr (Database.setRole_owner hk hrole)

/-- The owner rows are those of `w`. -/
def SameOwners {α : Type} (w w' : Directory × Nat) (_ : α) : Prop :=
  w'.1.db.ownerRows = w.1.db.ownerRows

theorem sameOwners_of_eq {α : Type} {w' : Directory × Nat} {a : α} (h : w'.1.db = w.1.db) :
    SameOwners w w' a :=
  congrArg Database.ownerRows h

theorem createInvite_sameOwners (hk : w.1.db.KeysUnique) (organizationId actorUserId : Uuid)
    (email : String) (role : MembershipRole) (token : String) :
    Program.Ends (I := directory) (Directory.respond x) (SameOwners w)
      (MembershipService.createInvite sha256 organizationId actorUserId email role token).run w := by
  refine Program.ends_bindE (Q := fun w' _ => w'.1 = w.1) ?_ ?_ ?_
  · exact ends_requireMemberManagement (fun _ _ _ => rfl) fun _ => rfl
  · intro w₁ _ hw₁
    refine Program.ends_bindE (Q := fun w' _ => w'.1.db = w.1.db) ?_ ?_ ?_
    · show (w₁.1.answer .now _).1.db = w.1.db
      rw [Directory.answer_now, hw₁]
    · intro w₂ now hw₂
      have hsame : (Directory.respond x w₂ (.insertInvite organizationId (trim email) role
          (sha256 token) (tokenPrefix token) actorUserId (now + inviteTtl))).1.1.db.ownerRows =
          w.1.db.ownerRows := by
        rw [ownerRows_respond (hw₂ ▸ hk) (fun _ hst => by cases hst), hw₂]
      refine Program.ends_bindE (Q := SameOwners w) ?_ (fun _ _ h => h) fun _ _ h => h
      exact ends_repository (fun _ _ => hsame) fun _ => hsame
    · intro w₂ _ hw₂
      exact sameOwners_of_eq hw₂
  · intro w₁ _ hw₁
    exact sameOwners_of_eq (congrArg Directory.db hw₁)

theorem acceptInvite_sameOwners {d : Directory} (hk : d.db.KeysUnique) {token : String}
    {userId : Uuid} {userEmail : String}
    (hcaller : callerNotOwner sha256 d ⟨.acceptInvite token userId userEmail, x⟩ = true)
    (hC : respectsOwners sha256 d ⟨.acceptInvite token userId userEmail, x⟩ = true) :
    Program.Ends (I := directory) (Directory.respond x) (SameOwners (d, 0))
      (MembershipService.acceptInvite sha256 token userId userEmail).run (d, 0) := by
  refine Program.ends_bindE (Q := fun w' r => w' = (d, 1) ∧ ∀ found, r = .ok found → found =
    (d.unscopedInvites.find? (·.tokenHash == sha256 token)).map (·.toInvite)) ?_ ?_ ?_
  · exact ends_read (run_getByHash (sha256 token)) ⟨rfl, fun _ h => by cases h; rfl⟩
      fun _ => ⟨rfl, nofun⟩
  · rintro _ found ⟨rfl, hfound⟩
    replace hfound := hfound found rfl
    cases hrow : d.unscopedInvites.find? (·.tokenHash == sha256 token) with
    | none =>
      rw [hrow] at hfound
      subst hfound
      exact sameOwners_of_eq rfl
    | some i =>
      rw [hrow] at hfound
      subst hfound
      have huser : userId ∉ d.db.owners i.organizationId := by
        rw [← hk.roleOf_eq_owner_iff]
        simpa [callerNotOwner, hrow] using hcaller
      simp only [respectsOwners, hrow, Option.all_some, Bool.or_eq_true, decide_eq_true_eq,
        Bool.not_eq_true'] at hC
      refine Program.ends_bindE (Q := fun w' r => w' = (d, 2) ∧ r = .ok (x 1).now) ?_ ?_ ?_
      · show ((d.answer .now (x 1)).1, 2) = (d, 2) ∧ Except.ok (d.answer .now (x 1)).2 = _
        rw [Directory.answer_now]
        trivial
      · rintro _ _ ⟨rfl, ⟨⟩⟩
        refine Program.ends_iteE.mpr ⟨fun _ => sameOwners_of_eq rfl, fun hlive => ?_⟩
        refine Program.ends_iteE.mpr ⟨fun _ => sameOwners_of_eq rfl, fun hemail => ?_⟩
        have hrole : i.role ≠ .owner := by
          rcases hC with (hrole | hne) | hdead
          · exact hrole
          · exact absurd (by simp [hne]) hemail
          · exact absurd (by simp [hdead]) hlive
        -- the invite is marked before the membership is written
        have hmark : (Directory.respond x (d, 2) (.markAccepted i.id userId)).1.1.db.memberships =
            d.db.memberships := by
          rcases Directory.answer_memberships (d := d) (x := x 2) (.markAccepted i.id userId) with
            hm | ⟨m, db, n, -, hst, -⟩
          · exact hm
          · cases hst
        refine Program.ends_bindE (Q := fun w' _ => w'.1.db.memberships = d.db.memberships) ?_ ?_ ?_
        · exact ends_repository (fun _ _ => hmark) fun _ => hmark
        · intro w₁ _ hw₁
          have hsame : (Directory.respond x w₁ (.insertMembership i.organizationId userId
              i.role)).1.1.db.ownerRows = d.db.ownerRows := by
            rw [ownerRows_respond (hk.congr hw₁), Database.ownerRows_congr hw₁]
            rintro m ⟨⟩
            refine .inl ⟨by simp [MembershipStatement.demotes, hrole], ?_⟩
            rw [Database.owners_congr hw₁]
            exact huser
          refine Program.ends_bindE (Q := SameOwners (d, 0)) ?_ (fun _ _ h => h) fun _ _ h => h
          exact ends_repository (fun _ _ => hsame) fun _ => hsame
        · exact fun w₁ _ hw₁ => Database.ownerRows_congr hw₁
      · rintro _ _ ⟨-, ⟨⟩⟩
  · rintro _ e ⟨rfl, -⟩
    exact sameOwners_of_eq rfl

/-- The check only reads, and lets a demotion through when the target is no owner or one of
several. -/
theorem ends_refuseLastOwner {organizationId targetUserId : Uuid}
    {R : Directory × Nat → Except InviteError Unit → Prop}
    (hok : ∀ n, w.1.db.roleOf organizationId targetUserId ≠ some .owner ∨
      1 < (w.1.db.members organizationId).countP (·.role = .owner) → R (w.1, n) (.ok ()))
    (herror : ∀ n e, R (w.1, n) (.error e)) :
    Program.Ends (I := directory) (Directory.respond x) R
      (MembershipService.refuseLastOwner organizationId targetUserId).run w := by
  refine Program.ends_bindE (Q := fun w' r => w' = (w.1, w.2 + 1) ∧
    ∀ role, r = .ok role → role = w.1.db.roleOf organizationId targetUserId) ?_ ?_ ?_
  · exact ends_read (run_roleOf organizationId targetUserId)
      ⟨rfl, fun _ h => by cases h; rfl⟩ fun _ => ⟨rfl, nofun⟩
  · rintro _ current ⟨rfl, hcurrent⟩
    have hcurrent := hcurrent current rfl
    refine Program.ends_iteE.mpr ⟨fun _ => ?_, fun hne => ?_⟩
    · refine Program.ends_bindE (Q := fun w' r => w' = (w.1, w.2 + 2) ∧
        ∀ members, r = .ok members → members = w.1.db.members organizationId) ?_ ?_ ?_
      · exact ends_read (run_listMembers organizationId)
          ⟨rfl, fun _ h => by cases h; rfl⟩ fun _ => ⟨rfl, nofun⟩
      · rintro _ members ⟨rfl, hmembers⟩
        have hmembers := hmembers members rfl
        refine Program.ends_iteE.mpr ⟨fun _ => herror _ _, fun hcount => ?_⟩
        exact hok _ (.inr (Nat.not_le.mp (hmembers ▸ hcount)))
      · rintro _ e ⟨rfl, -⟩
        exact herror _ _
    · exact hok _ (.inl (hcurrent ▸ hne))
  · rintro _ e ⟨rfl, -⟩
    exact herror _ _

theorem updateRole_sameOwners (hk : w.1.db.KeysUnique) {organizationId targetUserId : Uuid}
    {newRole : MembershipRole} {actorUserId : Uuid}
    (hcaller : callerNotOwner sha256 w.1
      ⟨.updateRole organizationId targetUserId newRole actorUserId, x⟩ = true)
    (hC : respectsOwners sha256 w.1
      ⟨.updateRole organizationId targetUserId newRole actorUserId, x⟩ = true) :
    Program.Ends (I := directory) (Directory.respond x) (SameOwners w)
      (MembershipService.updateRole organizationId targetUserId newRole actorUserId).run w := by
  refine Program.ends_bindE (Q := fun w' r => w'.1 = w.1 ∧ ∀ role, r = .ok role →
    w.1.db.roleOf organizationId actorUserId = some .admin) ?_ ?_ ?_
  · exact ends_requireMemberManagement (fun role hrole hmanage => ⟨rfl, fun _ _ =>
      roleOf_eq_admin (by simpa [callerNotOwner] using hcaller) hrole hmanage⟩) fun _ => ⟨rfl, nofun⟩
  · rintro w₁ role ⟨hw₁, hadmin⟩
    simp only [respectsOwners, hadmin role rfl, ne_eq, not_true, decide_false,
      Bool.false_or] at hC
    by_cases howner : newRole = .owner
    · subst howner
      have hsame : (Directory.respond x w₁ (.updateRole organizationId targetUserId
          .owner)).1.1.db.ownerRows = w.1.db.ownerRows := by
        rw [ownerRows_respond (hw₁ ▸ hk), hw₁]
        rintro m ⟨⟩
        refine .inr ⟨organizationId, targetUserId, rfl, fun current hcurrent => ?_⟩
        rw [hw₁] at hcurrent
        simpa [hcurrent] using hC
      exact ends_repository (fun _ _ => hsame) fun _ => hsame
    · rw [if_pos howner]
      refine Program.ends_bindE (Q := fun w' r => w'.1 = w.1 ∧ (r = .ok () →
        targetUserId ∉ w.1.db.owners organizationId)) ?_ ?_ ?_
      · refine ends_refuseLastOwner (fun n hpass => ⟨hw₁, fun _ => ?_⟩) fun n e => ⟨hw₁, nofun⟩
        rw [hw₁] at hpass
        rw [← hk.roleOf_eq_owner_iff]
        intro hrole
        rw [hrole] at hC
        rcases hpass with hpass | hcount
        · exact hpass hrole
        · exact absurd hcount (by simpa [howner] using hC)
      · rintro w₂ _ ⟨hw₂, htarget⟩
        have hsame : (Directory.respond x w₂ (.updateRole organizationId targetUserId
            newRole)).1.1.db.ownerRows = w.1.db.ownerRows := by
          rw [ownerRows_respond (hw₂ ▸ hk), hw₂]
          rintro m ⟨⟩
          exact .inl ⟨by simp [MembershipStatement.demotes, howner], hw₂ ▸ htarget rfl⟩
        exact ends_repository (fun _ _ => hsame) fun _ => hsame
      · rintro w₂ e ⟨hw₂, -⟩
        exact sameOwners_of_eq (congrArg Directory.db hw₂)
  · rintro w₁ e ⟨hw₁, -⟩
    exact sameOwners_of_eq (congrArg Directory.db hw₁)

theorem removeMember_sameOwners (hk : w.1.db.KeysUnique)
    {organizationId targetUserId actorUserId : Uuid}
    (hcaller : callerNotOwner sha256 w.1
      ⟨.removeMember organizationId targetUserId actorUserId, x⟩ = true)
    (hC : respectsOwners sha256 w.1
      ⟨.removeMember organizationId targetUserId actorUserId, x⟩ = true) :
    Program.Ends (I := directory) (Directory.respond x) (SameOwners w)
      (MembershipService.removeMember organizationId targetUserId actorUserId).run w := by
  refine Program.ends_bindE (Q := fun w' r => w'.1 = w.1 ∧ ∀ role, r = .ok role →
    w.1.db.roleOf organizationId actorUserId = some .admin) ?_ ?_ ?_
  · exact ends_requireMemberManagement (fun role hrole hmanage => ⟨rfl, fun _ _ =>
      roleOf_eq_admin (by simpa [callerNotOwner] using hcaller) hrole hmanage⟩) fun _ => ⟨rfl, nofun⟩
  · rintro w₁ role ⟨hw₁, hadmin⟩
    refine Program.ends_iteE.mpr ⟨fun _ => sameOwners_of_eq (congrArg Directory.db hw₁), fun hself => ?_⟩
    have htarget : targetUserId ∉ w.1.db.owners organizationId := by
      rw [← hk.roleOf_eq_owner_iff]
      simpa [respectsOwners, hadmin role rfl, hself] using hC
    have hsame : (Directory.respond x w₁ (.softDelete organizationId targetUserId)).1.1.db.ownerRows =
        w.1.db.ownerRows := by
      rw [ownerRows_respond (hw₁ ▸ hk), hw₁]
      rintro m ⟨⟩
      exact .inl ⟨rfl, hw₁ ▸ htarget⟩
    exact ends_repository (fun _ _ => hsame) fun _ => hsame
  · rintro w₁ e ⟨hw₁, -⟩
    exact sameOwners_of_eq (congrArg Directory.db hw₁)

end Step

/-! ## Every sequence -/

section Sequences

variable {sha256 : String → List UInt8} {d : Directory}

theorem keysUnique_perform (hk : d.db.KeysUnique) (q : MembershipRequest) :
    (q.perform sha256 d).db.KeysUnique :=
  Program.run_invariant (I := directory) (Directory.respond q.outcome)
    (Q := fun w => w.1.db.KeysUnique) (fun _ c h => Directory.keysUnique_answer h c) _ hk

theorem ownerRows_run_discard {α : Type} {x : Nat → Outcome}
    {p : Program directory (Except InviteError α)}
    (h : Program.Ends (Directory.respond x) (SameOwners (d, 0)) p (d, 0)) :
    ((p >>= fun _ => pure ()).run (Directory.respond x) (d, 0)).1.1.db.ownerRows =
      d.db.ownerRows := by
  rw [Program.run_bind]
  exact h

theorem ownerRows_perform {q : MembershipRequest} (hk : d.db.KeysUnique)
    (hcaller : callerNotOwner sha256 d q = true) (hC : respectsOwners sha256 d q = true) :
    (q.perform sha256 d).db.ownerRows = d.db.ownerRows := by
  obtain ⟨op, x⟩ := q
  cases op with
  | createInvite organizationId actorUserId email role token =>
    exact ownerRows_run_discard
      (createInvite_sameOwners (w := (d, 0)) hk organizationId actorUserId email role token)
  | acceptInvite token userId userEmail =>
    exact ownerRows_run_discard (acceptInvite_sameOwners hk hcaller hC)
  | updateRole organizationId targetUserId newRole actorUserId =>
    exact ownerRows_run_discard (updateRole_sameOwners (w := (d, 0)) hk hcaller hC)
  | removeMember organizationId targetUserId actorUserId =>
    exact ownerRows_run_discard (removeMember_sameOwners (w := (d, 0)) hk hcaller hC)

/-- Operations by callers who are not owners leave the live owner memberships as they are,
as long as each satisfies the condition. Every prefix of the sequence is one, so this is
about every point of it. -/
theorem ownerRows_of_respectsOwners {qs : List MembershipRequest} (hk : d.db.KeysUnique)
    (hcaller : always (MembershipRequest.perform sha256) (callerNotOwner sha256) d qs = true)
    (hC : always (MembershipRequest.perform sha256) (respectsOwners sha256) d qs = true) :
    (qs.foldl (MembershipRequest.perform sha256) d).db.ownerRows = d.db.ownerRows := by
  refine (foldl_invariant (C := fun d q => callerNotOwner sha256 d q && respectsOwners sha256 d q)
    (Q := fun d' => d'.db.KeysUnique ∧ d'.db.ownerRows = d.db.ownerRows) ?_ ⟨hk, rfl⟩ ?_).2
  · intro d' q ⟨hk', hrows⟩ hq
    rw [Bool.and_eq_true] at hq
    exact ⟨keysUnique_perform hk' q, (ownerRows_perform hk' hq.1 hq.2).trans hrows⟩
  · exact always_and hcaller hC

end Sequences

/-- Organization 7 with the owner 1, the admin 2 and the developer 3. -/
def ownerAdminDeveloper : Directory where
  enforceRls := true
  db :=
    { organizations := [7]
      users := [⟨1, "ada@example.com", "Ada", false, true⟩, ⟨2, "bob@example.com", "Bob", false, true⟩,
        ⟨3, "cyd@example.com", "Cyd", false, false⟩]
      memberships := [⟨10, 7, 1, .owner, 0, none⟩, ⟨11, 7, 2, .admin, 0, none⟩,
        ⟨12, 7, 3, .developer, 0, none⟩]
      passkeys := [] }

/-- The admin makes the developer an admin, who then fails to demote the owner and removes
the first admin. -/
def adminsAmongThemselves : List MembershipRequest :=
  [⟨.updateRole 7 3 .admin 2, fun _ => ⟨.ok, 5, 0⟩⟩, ⟨.updateRole 7 1 .viewer 3, fun _ => ⟨.ok, 6, 0⟩⟩,
    ⟨.removeMember 7 2 3, fun _ => ⟨.ok, 7, 0⟩⟩]

theorem ownerRows_of_respectsOwners_admins :
    (adminsAmongThemselves.foldl (MembershipRequest.perform fun _ => [])
      ownerAdminDeveloper).db.ownerRows = ownerAdminDeveloper.db.ownerRows :=
  ownerRows_of_respectsOwners (by decide) (by decide) (by decide)

/-- An admin can promote themselves to owner. -/
theorem not_ownerRows_eq :
    ¬ ∀ (sha256 : String → List UInt8) (d : Directory) (qs : List MembershipRequest),
      d.db.KeysUnique →
      always (MembershipRequest.perform sha256) (callerNotOwner sha256) d qs = true →
      (qs.foldl (MembershipRequest.perform sha256) d).db.ownerRows = d.db.ownerRows := by
  intro h
  have hrows := h (fun _ => []) ownerAdminDeveloper
    [⟨.updateRole 7 2 .owner 2, fun _ => ⟨.ok, 5, 0⟩⟩] (by decide) (by decide)
  revert hrows
  decide

end Kubinate.Identity
