import Kubinate.Identity.Directory

/-!
# The owners of an organization

How each membership write changes the owners. The unique index on
`(organization_id, user_id)` is `KeysUnique`; with it, the role that `role_of` returns is
the only live role of the user.

* `owners_demote`: a write that gives a lower role or removes the member takes exactly that
  user from the owners.
* `owners_keep`: a write that gives the owner role takes nobody from the owners.
-/

namespace Kubinate.Identity

open Platform Library

/-- A live row of the organization with the owner role. -/
def Membership.isOwnerOf (m : Membership) (organizationId : Uuid) : Bool :=
  m.organizationId == organizationId && m.isLive && m.role == .owner

/-- The statement leaves its user without the owner role. -/
def MembershipStatement.demotes : MembershipStatement → Bool
  | .upsert _ _ _ _ role | .updateRole _ _ role => role != .owner
  | .softDelete .. => true

namespace Database

variable {db db' : Database} {o u : Uuid} {c : MembershipStatement} {n : Nat}

/-- The users with a live owner membership of the organization. -/
def owners (db : Database) (organizationId : Uuid) : List Uuid :=
  (db.memberships.filter (·.isOwnerOf organizationId)).map (·.userId)

theorem mem_owners : u ∈ db.owners o ↔ ∃ m ∈ db.memberships, m.isOwnerOf o = true ∧ m.userId = u := by
  simp [owners, and_assoc]

/-- The unique index on `(organization_id, user_id)`. -/
def KeysUnique (db : Database) : Prop :=
  (db.memberships.map fun m => (m.organizationId, m.userId)).Nodup

instance : DecidablePred KeysUnique := fun db =>
  inferInstanceAs (Decidable (db.memberships.map fun m => (m.organizationId, m.userId)).Nodup)

theorem KeysUnique.congr (h : db.KeysUnique) (hm : db'.memberships = db.memberships) :
    db'.KeysUnique := by
  rw [KeysUnique, hm]
  exact h

theorem KeysUnique.eq (h : db.KeysUnique) {a b : Membership} (ha : a ∈ db.memberships)
    (hb : b ∈ db.memberships) (ho : a.organizationId = b.organizationId)
    (hu : a.userId = b.userId) : a = b :=
  List.inj_on_of_nodup_map h ha hb (by rw [ho, hu])

theorem organizationId_of_isOwnerOf {m : Membership} (h : m.isOwnerOf o = true) :
    m.organizationId = o := by
  simp only [Membership.isOwnerOf, Bool.and_eq_true, beq_iff_eq] at h
  exact h.1.1

theorem KeysUnique.nodup_owners (h : db.KeysUnique) : (db.owners o).Nodup := by
  refine List.Nodup.map_on ?_ ((List.Nodup.of_map _ h).filter _)
  intro a ha b hb hab
  obtain ⟨ha, hao⟩ := List.mem_filter.mp ha
  obtain ⟨hb, hbo⟩ := List.mem_filter.mp hb
  exact h.eq ha hb
    ((organizationId_of_isOwnerOf hao).trans (organizationId_of_isOwnerOf hbo).symm) hab

theorem isOf_eq_true_iff {m : Membership} :
    m.isOf o u = true ↔ m.organizationId = o ∧ m.userId = u := by
  simp [Membership.isOf]

/-- With the unique index, `role_of` reads every live row of the user. -/
theorem KeysUnique.roleOf_eq (hk : db.KeysUnique) {m : Membership} (hm : m ∈ db.memberships)
    (hof : (m.isOf o u && m.isLive) = true) : db.roleOf o u = some m.role := by
  obtain ⟨m', hm'⟩ := Option.isSome_iff_exists.mp
    (List.find?_isSome (p := fun n => n.isOf o u && n.isLive).mpr ⟨m, hm, hof⟩)
  have hp := List.find?_some hm'
  rw [Bool.and_eq_true, isOf_eq_true_iff] at hp hof
  have heq := hk.eq (List.mem_of_find?_eq_some hm') hm (hp.1.1.trans hof.1.1.symm)
    (hp.1.2.trans hof.1.2.symm)
  rw [roleOf, hm', heq]
  rfl

/-- With the unique index, `role_of` finds the owner role of every owner. -/
theorem KeysUnique.roleOf_eq_owner_iff (h : db.KeysUnique) :
    db.roleOf o u = some .owner ↔ u ∈ db.owners o := by
  rw [mem_owners]
  constructor
  · intro hrole
    rw [roleOf, Option.map_eq_some_iff] at hrole
    obtain ⟨m, hm, hrole⟩ := hrole
    have hp := List.find?_some hm
    rw [Bool.and_eq_true, isOf_eq_true_iff] at hp
    refine ⟨m, List.mem_of_find?_eq_some hm, ?_, hp.1.2⟩
    simp [Membership.isOwnerOf, hp.1.1, hp.2, hrole]
  · rintro ⟨m, hm, hown, rfl⟩
    simp only [Membership.isOwnerOf, Bool.and_eq_true, beq_iff_eq] at hown
    rw [h.roleOf_eq hm (by simp [Membership.isOf, hown.1.1, hown.1.2]), hown.2]

/-! ## What the writes do to the owners -/

/-- Changing only the rows of one member so that none of them is an owner row takes that
member from the owners. -/
theorem owners_map_demote {f : Membership → Membership} {p : Membership → Bool}
    (hp : ∀ m, m.isOf o u = false → p m = false)
    (hf : ∀ m, m.isOf o u = true → (if p m then f m else m).isOwnerOf o = false)
    (ms : List Membership) :
    ((ms.map fun m => if p m then f m else m).filter (·.isOwnerOf o)).map (·.userId) =
      ((ms.filter (·.isOwnerOf o)).map (·.userId)).filter (· != u) := by
  induction ms with
  | nil => rfl
  | cons m ms ih =>
    rw [List.map_cons, List.filter_cons, List.filter_cons]
    by_cases hm : m.isOf o u = true
    · rw [if_neg (Bool.not_eq_true _ ▸ hf m hm), ih]
      split
      · have hu : m.userId = u := by
          simp only [Membership.isOf, Bool.and_eq_true, beq_iff_eq] at hm
          exact hm.2
        simp [hu]
      · rfl
    · rw [Bool.not_eq_true] at hm
      rw [hp m hm]
      simp only [Bool.false_eq_true, if_false]
      split
      · next hown =>
        have hu : m.userId ≠ u := by
          rintro rfl
          simp [Membership.isOf, organizationId_of_isOwnerOf hown] at hm
        simp [hu, ih]
      · exact ih

/-- Changing rows of another organization does not matter. -/
theorem owners_map_ne {f : Membership → Membership} {p : Membership → Bool}
    (hp : ∀ m, p m = true → m.isOwnerOf o = false ∧ (f m).isOwnerOf o = false)
    (ms : List Membership) :
    ((ms.map fun m => if p m then f m else m).filter (·.isOwnerOf o)).map (·.userId) =
      (ms.filter (·.isOwnerOf o)).map (·.userId) := by
  induction ms with
  | nil => rfl
  | cons m ms ih =>
    rw [List.map_cons, List.filter_cons, List.filter_cons]
    by_cases hm : p m = true
    · obtain ⟨h₁, h₂⟩ := hp m hm
      rw [if_pos hm, h₁, h₂]
      exact ih
    · rw [if_neg hm]
      split
      · rw [List.map_cons, List.map_cons, ih]
      · exact ih

theorem isOwnerOf_eq_false {m : Membership} (h : m.organizationId ≠ o) : m.isOwnerOf o = false := by
  simp [Membership.isOwnerOf, h]

/-- An upsert revives the row of the member, or adds one for somebody who had none. -/
theorem upsert_cases {id userId organizationId : Uuid} {now : Timestamp} {role : MembershipRole}
    (h : db.changeMembership (.upsert id now organizationId userId role) = .ok (db', n)) :
    db' = db.apply (.reviveMembership organizationId userId role) ∨
      ((∀ m ∈ db.memberships, m.isOf organizationId userId ≠ true) ∧
        db' = db.apply (.insertMembership ⟨id, organizationId, userId, role, now, none⟩)) := by
  simp only [changeMembership] at h
  split at h
  · cases h
    exact .inl rfl
  · next hany =>
    split at h
    · cases h
    split at h
    · cases h
    · cases h
      exact .inr ⟨fun m hm hof => hany (List.any_eq_true.mpr ⟨m, hm, hof⟩), rfl⟩

/-- After an upsert the user is a member with the role. -/
theorem member_of_upsert {id userId organizationId : Uuid} {now : Timestamp} {role : MembershipRole}
    (h : db.changeMembership (.upsert id now organizationId userId role) = .ok (db', n)) :
    ∃ m ∈ db'.memberships, m.isOf organizationId userId = true ∧ m.isLive = true ∧ m.role = role := by
  simp only [changeMembership] at h
  split at h
  · next hany =>
    cases h
    obtain ⟨m, hm, hof⟩ := List.any_eq_true.mp hany
    exact ⟨_, List.mem_map_of_mem hm, by rw [if_pos hof]; exact ⟨hof, rfl, rfl⟩⟩
  · split at h
    · cases h
    split at h
    · cases h
    · cases h
      refine ⟨_, List.mem_append_right _ List.mem_cons_self, ?_, rfl, rfl⟩
      exact isOf_eq_true_iff.mpr ⟨rfl, rfl⟩

theorem changeMembership_frame (h : db.changeMembership c = .ok (db', n)) :
    db'.passkeys = db.passkeys ∧ db'.invites = db.invites := by
  cases c with
  | upsert =>
    rcases upsert_cases h with rfl | ⟨-, rfl⟩
    · exact ⟨rfl, rfl⟩
    · exact ⟨rfl, rfl⟩
  | updateRole | softDelete =>
    cases h
    exact ⟨rfl, rfl⟩

/-- No membership statement touches passkeys or invites, nor does the trigger after it. -/
theorem writeMembership_frame {b : Bool} (h : db.writeMembership b c = .ok (db', n)) :
    db'.passkeys = db.passkeys ∧ db'.invites = db.invites := by
  unfold writeMembership at h
  cases hchange : db.changeMembership c with
  | error e =>
    rw [hchange] at h
    cases h
  | ok r =>
    obtain ⟨db₁, affected⟩ := r
    rw [hchange] at h
    cases h
    rw [← (changeMembership_frame hchange).1, ← (changeMembership_frame hchange).2]
    split
    · exact ⟨rfl, rfl⟩
    · simp only [syncUserRequiresMfa]
      split
      · exact ⟨rfl, rfl⟩
      · exact ⟨rfl, rfl⟩

/-- A write to one organization leaves the owners of the others alone. -/
theorem owners_change_ne (h : db.changeMembership c = .ok (db', n)) (ho : o ≠ c.organizationId) :
    db'.owners o = db.owners o := by
  have hne : ∀ m : Membership, ∀ u, m.isOf c.organizationId u = true → m.isOwnerOf o = false := by
    intro m u hm
    exact isOwnerOf_eq_false ((isOf_eq_true_iff.mp hm).1 ▸ ho.symm)
  cases c with
  | upsert id now organizationId userId role =>
    rcases upsert_cases h with rfl | ⟨-, rfl⟩
    · refine owners_map_ne (fun m hm => ?_) _
      exact ⟨hne m userId hm, hne _ userId hm⟩
    · have hrow : (Membership.mk id organizationId userId role now none).isOwnerOf o = false :=
        isOwnerOf_eq_false ho.symm
      simp [owners, apply, hrow]
  | updateRole organizationId userId role =>
    cases h
    refine owners_map_ne (fun m hm => ?_) _
    have hm := (Bool.and_eq_true _ _ ▸ hm).1
    exact ⟨hne m userId hm, hne _ userId hm⟩
  | softDelete now organizationId userId =>
    cases h
    refine owners_map_ne (fun m hm => ?_) _
    have hm := (Bool.and_eq_true _ _ ▸ hm).1
    exact ⟨hne m userId hm, hne _ userId hm⟩

theorem owners_demote (h : db.changeMembership c = .ok (db', n)) (hd : c.demotes = true) :
    db'.owners c.organizationId = (db.owners c.organizationId).filter (· != c.userId) := by
  cases c with
  | upsert id now organizationId userId role =>
    have hrole : role ≠ .owner := by simpa [MembershipStatement.demotes] using hd
    simp only [MembershipStatement.organizationId, MembershipStatement.userId]
    rcases upsert_cases h with rfl | ⟨hnew, rfl⟩
    · refine owners_map_demote (fun m hm => hm) (fun m hm => ?_) _
      rw [if_pos hm]
      simp [Membership.isOwnerOf, hrole]
    · -- a new row, of a user who was not a member and so not an owner
      have hrow : (Membership.mk id organizationId userId role now none).isOwnerOf organizationId =
          false := by simp [Membership.isOwnerOf, hrole]
      have hnot : ∀ u ∈ db.owners organizationId, u ≠ userId := by
        rintro u hu rfl
        obtain ⟨m, hm, hown, hmu⟩ := mem_owners.mp hu
        exact hnew m hm (isOf_eq_true_iff.mpr ⟨organizationId_of_isOwnerOf hown, hmu⟩)
      rw [List.filter_eq_self.mpr fun u hu => bne_iff_ne.mpr (hnot u hu)]
      simp [owners, apply, hrow]
  | updateRole organizationId userId role =>
    have hrole : role ≠ .owner := by simpa [MembershipStatement.demotes] using hd
    simp only [MembershipStatement.organizationId, MembershipStatement.userId]
    cases h
    refine owners_map_demote (fun m hm => by simp [hm]) (fun m hm => ?_) _
    split
    · simp [Membership.isOwnerOf, hrole]
    · next hlive => simp_all [Membership.isOwnerOf]
  | softDelete now organizationId userId =>
    simp only [MembershipStatement.organizationId, MembershipStatement.userId]
    cases h
    refine owners_map_demote (fun m hm => by simp [hm]) (fun m hm => ?_) _
    split
    · simp [Membership.isOwnerOf, Membership.isLive]
    · next hlive => simp_all [Membership.isOwnerOf]

theorem owners_keep (h : db.changeMembership c = .ok (db', n)) (hd : c.demotes = false)
    (hu : u ∈ db.owners o) : u ∈ db'.owners o := by
  obtain ⟨m, hm, hown, rfl⟩ := mem_owners.mp hu
  cases c with
  | upsert id now organizationId userId role =>
    obtain rfl : role = .owner := by simpa [MembershipStatement.demotes] using hd
    rcases upsert_cases h with rfl | ⟨-, rfl⟩
    · refine mem_owners.mpr ⟨_, List.mem_map_of_mem hm, ?_, ?_⟩
      · split
        · simp [Membership.isOwnerOf, Membership.isLive, organizationId_of_isOwnerOf hown]
        · exact hown
      · split <;> rfl
    · exact mem_owners.mpr ⟨m, List.mem_append_left _ hm, hown, rfl⟩
  | updateRole organizationId userId role =>
    obtain rfl : role = .owner := by simpa [MembershipStatement.demotes] using hd
    cases h
    refine mem_owners.mpr ⟨_, List.mem_map_of_mem hm, ?_, ?_⟩
    · split
      · next hp =>
        simp only [Membership.isOwnerOf, Bool.and_eq_true, beq_iff_eq] at hown hp ⊢
        exact ⟨⟨hown.1.1, hp.2⟩, trivial⟩
      · exact hown
    · split <;> rfl
  | softDelete now organizationId userId => cases hd

theorem KeysUnique.change (hk : db.KeysUnique) (h : db.changeMembership c = .ok (db', n)) :
    db'.KeysUnique := by
  have hmap : ∀ (p : Membership → Bool) (f : Membership → Membership),
      (∀ m, (f m).organizationId = m.organizationId ∧ (f m).userId = m.userId) →
      ((db.memberships.map fun m => if p m then f m else m).map fun m =>
        (m.organizationId, m.userId)).Nodup := by
    intro p f hf
    rw [List.map_map]
    refine (List.map_congr_left fun m _ => ?_) ▸ hk
    simp only [Function.comp]
    split
    · rw [(hf m).1, (hf m).2]
    · rfl
  cases c with
  | upsert id now organizationId userId role =>
    rcases upsert_cases h with rfl | ⟨hnew, rfl⟩
    · exact hmap _ _ fun m => ⟨rfl, rfl⟩
    · show ((db.memberships ++ [_]).map _).Nodup
      rw [List.map_append, List.nodup_append]
      refine ⟨hk, by simp, ?_⟩
      rintro a ha b hb rfl
      obtain ⟨m, hm, rfl⟩ := List.mem_map.mp ha
      simp only [List.map_cons, List.map_nil, List.mem_singleton, Prod.mk.injEq] at hb
      exact hnew m hm (isOf_eq_true_iff.mpr hb)
  | updateRole organizationId userId role =>
    cases h
    exact hmap _ _ fun m => ⟨rfl, rfl⟩
  | softDelete now organizationId userId =>
    cases h
    exact hmap _ _ fun m => ⟨rfl, rfl⟩

/-! ## With the trigger -/

/-- The trigger changes `users` only. -/
theorem memberships_sync (enforceRls : Bool) :
    (db.syncUserRequiresMfa enforceRls o u).memberships = db.memberships := by
  unfold syncUserRequiresMfa
  dsimp only
  split <;> rfl

/-- A membership write is its row change as far as `memberships` goes. -/
theorem writeMembership_cases {enforceRls : Bool}
    (h : db.writeMembership enforceRls c = .ok (db', n)) :
    ∃ db₁, db.changeMembership c = .ok (db₁, n) ∧ db'.memberships = db₁.memberships := by
  unfold writeMembership at h
  split at h
  · cases h
  · next db₁ affected hc =>
    cases h
    refine ⟨db₁, hc, ?_⟩
    split
    · rfl
    · exact memberships_sync enforceRls

theorem owners_congr (h : db'.memberships = db.memberships) : db'.owners o = db.owners o := by
  rw [owners, owners, h]

end Database

/-! ## What a call does to the memberships -/

/-- The membership statement of a call. -/
def DirectoryCall.statement (x : Outcome) : DirectoryCall → Option MembershipStatement
  | .insertMembership organizationId userId role =>
    some (.upsert x.id x.now organizationId userId role)
  | .updateRole organizationId userId role => some (.updateRole organizationId userId role)
  | .softDelete organizationId userId => some (.softDelete x.now organizationId userId)
  | _ => none

namespace Directory

variable {d d' : Directory} {x : Outcome}

theorem writeMembership_memberships (c : MembershipStatement) :
    (d.writeMembership c).1.db.memberships = d.db.memberships ∨
      ∃ db n, d.db.changeMembership c = .ok (db, n) ∧
        (d.writeMembership c).1.db.memberships = db.memberships := by
  unfold writeMembership
  split
  · next db n h =>
    obtain ⟨db₁, hc, hm⟩ := Database.writeMembership_cases h
    exact .inr ⟨db₁, n, hc, hm⟩
  · exact .inl rfl

/-- A call leaves the memberships alone unless it is one of the three writes. -/
theorem execute_memberships (c : DirectoryCall) :
    (d.execute x c).1.db.memberships = d.db.memberships ∨
      ∃ m db n, c.statement x = some m ∧ d.db.changeMembership m = .ok (db, n) ∧
        (d.execute x c).1.db.memberships = db.memberships := by
  cases c with
  | insertMembership organizationId userId role =>
    refine (writeMembership_memberships (.upsert x.id x.now organizationId userId role)).imp id ?_
    exact fun ⟨db, n, h⟩ => ⟨_, db, n, rfl, h⟩
  | updateRole organizationId userId role =>
    refine (writeMembership_memberships (.updateRole organizationId userId role)).imp id ?_
    exact fun ⟨db, n, h⟩ => ⟨_, db, n, rfl, h⟩
  | softDelete organizationId userId =>
    refine (writeMembership_memberships (.softDelete x.now organizationId userId)).imp id ?_
    exact fun ⟨db, n, h⟩ => ⟨_, db, n, rfl, h⟩
  | insertInvite =>
    left
    simp only [execute, insertInvite]
    split
    · rfl
    · split <;> rfl
  | markAccepted =>
    left
    simp only [execute, markAccepted]
    split
    · rfl
    · split <;> rfl
  | now | roleOf | listMembers | getByHash => exact .inl rfl

theorem answer_memberships (c : DirectoryCall) :
    (d.answer c x).1.db.memberships = d.db.memberships ∨
      ∃ m db n, x.reply ≠ .failed ∧ c.statement x = some m ∧
        d.db.changeMembership m = .ok (db, n) ∧
        (d.answer c x).1.db.memberships = db.memberships := by
  unfold answer
  split
  · next hx =>
    refine (execute_memberships c).imp id ?_
    rintro ⟨m, db, n, hm⟩
    exact ⟨m, db, n, by simp [hx], hm⟩
  · exact .inl rfl
  · next hx =>
    refine (execute_memberships c).imp id ?_
    rintro ⟨m, db, n, hm⟩
    exact ⟨m, db, n, by simp [hx], hm⟩

theorem keysUnique_answer (h : d.db.KeysUnique) (c : DirectoryCall) :
    (d.answer c x).1.db.KeysUnique := by
  rcases answer_memberships (d := d) (x := x) c with hm | ⟨m, db, n, -, -, hc, hm⟩
  · exact h.congr hm
  · exact (h.change hc).congr hm

theorem answer_now : d.answer .now x = (d, x.now) := by
  unfold answer
  split <;> rfl

/-- A role or a list of members that comes back is what the database holds. -/
theorem answer_roleOf {organizationId userId : Uuid} {role : Option MembershipRole}
    (ha : d.answer (.roleOf organizationId userId) x = (d', .ok role)) :
    d' = d ∧ role = d.db.roleOf organizationId userId := by
  unfold answer at ha
  split at ha <;> cases ha
  exact ⟨rfl, rfl⟩

theorem answer_listMembers {organizationId : Uuid} {members : List MembershipView}
    (ha : d.answer (.listMembers organizationId) x = (d', .ok members)) :
    d' = d ∧ members = d.db.members organizationId := by
  unfold answer at ha
  split at ha <;> cases ha
  exact ⟨rfl, rfl⟩

end Directory

end Kubinate.Identity
