import Kubinate.Identity.Model
import Kubinate.Library.Pool
import Kubinate.Library.ReadCommitted

/-!
# The identity tables under READ COMMITTED

The SQL statements that the passkey and membership repositories send, and what Postgres
does with each: which rows it matches in the snapshot of the statement, which rows it locks
and so waits for, what it writes, and what it answers. A statement that has to wait for a
row lock is not answered until the lock is free.

Row-level security applies to `memberships`: with `enforceRls` (the `kubinate_app` role)
a transaction sees only the rows of the tenant it has set.
-/

namespace Kubinate.Identity

open Platform Library

structure Database where
  organizations : List Uuid
  users : List User
  memberships : List Membership
  passkeys : List Passkey
  invites : List InviteRow := []
deriving DecidableEq, Repr

/-- A change of some rows made by one statement. -/
inductive Write where
  | insertPasskey (p : Passkey)
  | revokePasskey (id : Uuid) (userId : Uuid) (credentialIds : List String) (now : Timestamp)
  | setMfaEnrolled (userId : Uuid) (value : Bool)
  | setRequiresMfa (userId : Uuid) (value : Bool)
  | insertMembership (m : Membership)
  | reviveMembership (organizationId userId : Uuid) (role : MembershipRole)
  | setRole (organizationId userId : Uuid) (role : MembershipRole)
  | softDeleteMembership (organizationId userId : Uuid) (now : Timestamp)
deriving DecidableEq, Repr

/-- `WHERE id = $1 AND user_id = $2 AND revoked_at IS NULL`. -/
def Passkey.matches (p : Passkey) (id userId : Uuid) : Bool :=
  p.id == id && p.userId == userId && p.isLive

/-- `WHERE organization_id = $1 AND user_id = $2`. -/
def Membership.isOf (m : Membership) (organizationId userId : Uuid) : Bool :=
  m.organizationId == organizationId && m.userId == userId

namespace Database

def apply (db : Database) : Write → Database
  | .insertPasskey p => { db with passkeys := db.passkeys ++ [p] }
  | .revokePasskey id userId _ now =>
    { db with
      passkeys := db.passkeys.map fun p =>
        if p.matches id userId then { p with revokedAt := some now } else p }
  | .setMfaEnrolled userId value =>
    { db with
      users := db.users.map fun u => if u.id = userId then { u with mfaEnrolled := value } else u }
  | .setRequiresMfa userId value =>
    { db with
      users := db.users.map fun u => if u.id = userId then { u with requiresMfa := value } else u }
  | .insertMembership m => { db with memberships := db.memberships ++ [m] }
  | .reviveMembership organizationId userId role =>
    { db with
      memberships := db.memberships.map fun m =>
        if m.isOf organizationId userId then { m with role := role, deletedAt := none } else m }
  | .setRole organizationId userId role =>
    { db with
      memberships := db.memberships.map fun m =>
        if m.isOf organizationId userId && m.isLive then { m with role := role } else m }
  | .softDeleteMembership organizationId userId now =>
    { db with
      memberships := db.memberships.map fun m =>
        if m.isOf organizationId userId && m.isLive then { m with deletedAt := some now } else m }

variable {db : Database}

/-- Writes never change which users there are. -/
theorem userIds_apply (w : Write) : (db.apply w).users.map (·.id) = db.users.map (·.id) := by
  cases w with
  | setMfaEnrolled userId value =>
    simp only [apply, List.map_map]
    refine List.map_congr_left fun u _ => ?_
    simp only [Function.comp]
    split <;> rfl
  | setRequiresMfa userId value =>
    simp only [apply, List.map_map]
    refine List.map_congr_left fun u _ => ?_
    simp only [Function.comp]
    split <;> rfl
  | _ => rfl

theorem userIds_foldl (ws : List Write) :
    (ws.foldl Database.apply db).users.map (·.id) = db.users.map (·.id) := by
  induction ws generalizing db with
  | nil => rfl
  | cons w ws ih => exact ih.trans (userIds_apply w)

end Database

/-! ## Row locks -/

/-- What a write locks until the end of its transaction: a row of `users`, a row of
`user_passkeys` and its entry in the unique index on `credential_id`, or the entry of a
membership in the unique index on `(organization_id, user_id)`. -/
inductive Lock where
  | user (id : Uuid)
  | passkey (id : Uuid)
  | credential (id : String)
  | membership (organizationId userId : Uuid)
deriving DecidableEq, Repr

def Write.locks : Write → List Lock
  | .insertPasskey p => [.passkey p.id, .credential p.credentialId]
  | .revokePasskey id _ credentialIds _ => .passkey id :: credentialIds.map .credential
  | .setMfaEnrolled userId _ | .setRequiresMfa userId _ => [.user userId]
  | .insertMembership m => [.membership m.organizationId m.userId]
  | .reviveMembership organizationId userId _ | .setRole organizationId userId _
  | .softDeleteMembership organizationId userId _ => [.membership organizationId userId]

/-- The organization and user of the membership that a write changes. -/
def Write.membership : Write → Option (Uuid × Uuid)
  | .insertMembership m => some (m.organizationId, m.userId)
  | .reviveMembership organizationId userId _ | .setRole organizationId userId _
  | .softDeleteMembership organizationId userId _ => some (organizationId, userId)
  | _ => none

/-! ## Statements -/

/-- The statements that change one row of `memberships`. An upsert is
`INSERT INTO memberships … ON CONFLICT (organization_id, user_id) DO UPDATE SET role =
EXCLUDED.role, deleted_at = NULL`, with the fresh id and the transaction's `now()`. -/
inductive MembershipStatement where
  | upsert (id : Uuid) (now : Timestamp) (organizationId userId : Uuid) (role : MembershipRole)
  | updateRole (organizationId userId : Uuid) (role : MembershipRole)
  | softDelete (now : Timestamp) (organizationId userId : Uuid)
deriving DecidableEq, Repr

namespace MembershipStatement

def organizationId : MembershipStatement → Uuid
  | .upsert _ _ organizationId _ _ => organizationId
  | .updateRole organizationId _ _ => organizationId
  | .softDelete _ organizationId _ => organizationId

def userId : MembershipStatement → Uuid
  | .upsert _ _ _ userId _ => userId
  | .updateRole _ userId _ => userId
  | .softDelete _ _ userId => userId

end MembershipStatement

inductive Statement where
  | begin
  | commit
  | rollback
  | setLocalTenant (organizationId : Uuid)
  /-- The `SET LOCAL`s of `AuditContext::apply`; only the audit triggers read them. -/
  | applyAudit
  | insertPasskey (p : Passkey)
  | revokePasskey (id userId : Uuid) (now : Timestamp)
  | countLivePasskeys (userId : Uuid)
  | updateMfaEnrolled (userId : Uuid) (value : Bool)
  | writeMembership (c : MembershipStatement)
  | existsPrivileged (userId : Uuid)
  | selectRequiresMfa (userId : Uuid)
  | updateRequiresMfa (userId : Uuid) (value : Bool)
deriving DecidableEq

/-- Writing statements answer with the number of rows they affected. -/
def Statement.Answer : Statement → Type
  | .begin | .commit | .setLocalTenant _ | .applyAudit => Except SqlError Unit
  | .rollback => Unit
  | .insertPasskey _ => Except SqlError Passkey
  | .revokePasskey .. | .countLivePasskeys _ | .updateMfaEnrolled .. | .writeMembership _
  | .updateRequiresMfa .. => Except SqlError Nat
  | .existsPrivileged _ => Except SqlError Bool
  | .selectRequiresMfa _ => Except SqlError (Option Bool)

def sql : Interface where
  Call := Statement
  Answer := Statement.Answer

instance : DecidableEq sql.Call := inferInstanceAs (DecidableEq Statement)

/-- The database server: the store, the tenant each transaction has set, and whether the
connecting role is subject to row-level security. -/
structure Server where
  store : Store Database Write
  tenant : Nat → Uuid
  enforceRls : Bool

namespace Server

def ofDatabase (db : Database) (enforceRls : Bool) : Server :=
  ⟨.ofCommitted db, fun _ => Uuid.nil, enforceRls⟩

def view (v : Server) (i : Nat) : Database := v.store.view Database.apply i

/-- The policy `memberships_tenant_scope`. -/
def sees (v : Server) (i : Nat) (m : Membership) : Bool :=
  !v.enforceRls || m.organizationId == v.tenant i

/-- The rows of `memberships` that transaction `i` can see. -/
def memberships (v : Server) (i : Nat) : List Membership :=
  (v.view i).memberships.filter (v.sees i)

/-- Some other open transaction holds a lock that the write needs. -/
def blocked (v : Server) (i : Nat) (w : Write) : Bool :=
  (v.store.others i).any fun w' => w'.locks.any (· ∈ w.locks)

/-- Makes the write unless it has to wait. -/
def write (v : Server) (i : Nat) (w : Write) : Option Server :=
  if v.blocked i w then none else (v.store.write i w).map fun s => { v with store := s }

/-- An `UPDATE` that matches `n` rows of the snapshot writes only if there is a row to
write, and answers with their number. -/
def update (v : Server) (i : Nat) (n : Nat) (w : Write) :
    Option (Server × Except SqlError Nat) :=
  if n = 0 then some (v, .ok 0) else (v.write i w).map fun v => (v, .ok n)

/-- `INSERT INTO user_passkeys`: the primary key and the unique index on the credential ids
of live rows, then the foreign key to `users`. -/
def insertPasskey (v : Server) (i : Nat) (p : Passkey) :
    Option (Server × Except SqlError Passkey) :=
  let db := v.view i
  if v.blocked i (.insertPasskey p) then none
  else if db.passkeys.any fun q => q.id == p.id || (q.isLive && q.credentialId == p.credentialId)
  then some (v, .error .uniqueViolation)
  else if db.users.all fun u => u.id != p.userId then some (v, .error .foreignKeyViolation)
  else (v.write i (.insertPasskey p)).map fun v => (v, .ok p)

/-- `INSERT … ON CONFLICT (organization_id, user_id) DO UPDATE` with the row policy, the two
unique indexes and the foreign keys. -/
def upsertMembership (v : Server) (i : Nat) (m : Membership) :
    Option (Server × Except SqlError Nat) :=
  let db := v.view i
  if !v.sees i m then some (v, .error .rowSecurityViolation)
  else if v.blocked i (.insertMembership m) then none
  else if db.memberships.any fun n => n.isOf m.organizationId m.userId then
    (v.write i (.reviveMembership m.organizationId m.userId m.role)).map fun v => (v, .ok 1)
  else if db.memberships.any fun n => n.id == m.id then some (v, .error .uniqueViolation)
  else if !db.organizations.contains m.organizationId || db.users.all fun u => u.id != m.userId
  then some (v, .error .foreignKeyViolation)
  else (v.write i (.insertMembership m)).map fun v => (v, .ok 1)

def writeMembership (v : Server) (i : Nat) :
    MembershipStatement → Option (Server × Except SqlError Nat)
  | .upsert id now organizationId userId role =>
    v.upsertMembership i ⟨id, organizationId, userId, role, now, none⟩
  | .updateRole organizationId userId role =>
    v.update i ((v.memberships i).countP fun m => m.isOf organizationId userId && m.isLive)
      (.setRole organizationId userId role)
  | .softDelete now organizationId userId =>
    v.update i ((v.memberships i).countP fun m => m.isOf organizationId userId && m.isLive)
      (.softDeleteMembership organizationId userId now)

def commit (v : Server) (i : Nat) : Server :=
  { v with store := v.store.commit Database.apply i, tenant := Function.update v.tenant i Uuid.nil }

def rollback (v : Server) (i : Nat) : Server :=
  { v with store := v.store.rollback i, tenant := Function.update v.tenant i Uuid.nil }

/-- How the server executes a statement of transaction `i` when nothing goes wrong. -/
def execute (v : Server) (i : Nat) : (c : Statement) → Option (Server × c.Answer)
  | .begin => if i ∈ v.store.opened then none else some ({ v with store := v.store.begin i }, .ok ())
  | .commit => some (v.commit i, .ok ())
  | .rollback => some (v.rollback i, ())
  | .setLocalTenant organizationId =>
    some ({ v with tenant := Function.update v.tenant i organizationId }, .ok ())
  | .applyAudit => some (v, .ok ())
  | .insertPasskey p => v.insertPasskey i p
  | .revokePasskey id userId now =>
    let rows := (v.view i).passkeys.filter (·.matches id userId)
    v.update i rows.length (.revokePasskey id userId (rows.map (·.credentialId)) now)
  | .countLivePasskeys userId =>
    some (v, .ok ((v.view i).passkeys.countP fun p => p.userId == userId && p.isLive))
  | .updateMfaEnrolled userId value =>
    v.update i ((v.view i).users.countP (·.id == userId)) (.setMfaEnrolled userId value)
  | .writeMembership c => v.writeMembership i c
  | .existsPrivileged userId =>
    some (v, .ok ((v.memberships i).any fun m => m.userId == userId && m.isPrivileged))
  | .selectRequiresMfa userId =>
    some (v, .ok (((v.view i).users.find? (·.id == userId)).map (·.requiresMfa)))
  | .updateRequiresMfa userId value =>
    v.update i ((v.view i).users.countP (·.id == userId)) (.setRequiresMfa userId value)

/-- The answer to a statement whose connection breaks. -/
def broken : (c : Statement) → c.Answer
  | .begin | .commit | .setLocalTenant _ | .applyAudit | .insertPasskey _ | .revokePasskey ..
  | .countLivePasskeys _ | .updateMfaEnrolled .. | .writeMembership _ | .existsPrivileged _
  | .selectRequiresMfa _ | .updateRequiresMfa .. => Except.error SqlError.connection
  | .rollback => ()

/-- A failing statement has no effect, except that a failing `COMMIT` ends its transaction;
a commit whose reply is lost has taken effect. -/
def answer (v : Server) (i : Nat) (c : Statement) : Reply → Option (Server × c.Answer)
  | .ok => v.execute i c
  | .failed =>
    match c with
    | .commit => some (v.rollback i, broken .commit)
    | .rollback => some (v.rollback i, ())
    | c => some (v, broken c)
  | .lost =>
    match c with
    | .commit => some (v.commit i, broken .commit)
    | _ => none

/-! ## What the statements do to the store -/

section Lemmas

variable {v v' : Server} {i j n : Nat} {w : Write}

theorem write_store (h : v.write i w = some v') : v.store.write i w = some v'.store := by
  unfold write at h
  split at h
  · cases h
  · obtain ⟨s, hs, rfl⟩ := Option.map_eq_some_iff.mp h
    exact hs

/-- An `UPDATE` either matches no row and changes nothing, or it makes its write. -/
theorem update_cases {r : Except SqlError Nat} (h : v.update i n w = some (v', r)) :
    (n = 0 ∧ v' = v ∧ r = .ok 0) ∨ (n ≠ 0 ∧ r = .ok n ∧ v.write i w = some v') := by
  unfold update at h
  split at h
  · next hn =>
    cases h
    exact .inl ⟨hn, rfl, rfl⟩
  · next hn =>
    obtain ⟨v₁, hv, he⟩ := Option.map_eq_some_iff.mp h
    cases he
    exact .inr ⟨hn, rfl, hv⟩

theorem insertPasskey_cases {p : Passkey} {r : Except SqlError Passkey}
    (h : v.insertPasskey i p = some (v', r)) :
    (v' = v ∧ ∃ e, r = .error e) ∨ (r = .ok p ∧ v.write i (.insertPasskey p) = some v') := by
  unfold insertPasskey at h
  dsimp only at h
  split at h
  · cases h
  split at h
  · cases h
    exact .inl ⟨rfl, _, rfl⟩
  split at h
  · cases h
    exact .inl ⟨rfl, _, rfl⟩
  · obtain ⟨v₁, hv, he⟩ := Option.map_eq_some_iff.mp h
    cases he
    exact .inr ⟨rfl, hv⟩

/-- An upsert fails, or it makes the row of that user in that organization live with the new
role, by an insert or an update. -/
theorem upsertMembership_cases {m : Membership} {r : Except SqlError Nat}
    (h : v.upsertMembership i m = some (v', r)) :
    (v' = v ∧ ∃ e, r = .error e) ∨
      (r = .ok 1 ∧ ((v.write i (.reviveMembership m.organizationId m.userId m.role) = some v') ∨
          v.write i (.insertMembership m) = some v')) := by
  unfold upsertMembership at h
  dsimp only at h
  split at h
  · cases h
    exact .inl ⟨rfl, _, rfl⟩
  split at h
  · cases h
  split at h
  · obtain ⟨v₁, hv, he⟩ := Option.map_eq_some_iff.mp h
    cases he
    exact .inr ⟨rfl, .inl hv⟩
  split at h
  · cases h
    exact .inl ⟨rfl, _, rfl⟩
  split at h
  · cases h
    exact .inl ⟨rfl, _, rfl⟩
  · obtain ⟨v₁, hv, he⟩ := Option.map_eq_some_iff.mp h
    cases he
    exact .inr ⟨rfl, .inr hv⟩

/-- A membership statement changes nothing and affects no row, or it makes one write to the
membership it is about. -/
theorem writeMembership_cases {c : MembershipStatement} {r : Except SqlError Nat}
    (h : v.writeMembership i c = some (v', r)) :
    (v' = v ∧ ∀ n, r = .ok n → n = 0) ∨
      ∃ n w, r = .ok n ∧ n ≠ 0 ∧ w.membership = some (c.organizationId, c.userId) ∧
        v.write i w = some v' := by
  cases c with
  | upsert id now organizationId userId role =>
    rcases upsertMembership_cases h with ⟨rfl, e, rfl⟩ | ⟨rfl, hw | hw⟩
    · exact .inl ⟨rfl, by rintro n ⟨⟩⟩
    · exact .inr ⟨_, _, rfl, Nat.one_ne_zero, rfl, hw⟩
    · exact .inr ⟨_, _, rfl, Nat.one_ne_zero, rfl, hw⟩
  | updateRole organizationId userId role =>
    rcases update_cases h with ⟨-, rfl, rfl⟩ | ⟨hn, rfl, hw⟩
    · exact .inl ⟨rfl, by rintro n ⟨⟩; rfl⟩
    · exact .inr ⟨_, _, rfl, hn, rfl, hw⟩
  | softDelete now organizationId userId =>
    rcases update_cases h with ⟨-, rfl, rfl⟩ | ⟨hn, rfl, hw⟩
    · exact .inl ⟨rfl, by rintro n ⟨⟩; rfl⟩
    · exact .inr ⟨_, _, rfl, hn, rfl, hw⟩

/-- From `v` to `v'`, transaction `i` has done nothing the others can see. -/
structure Unseen (v v' : Server) (i : Nat) : Prop where
  committed : v'.store.committed = v.store.committed
  own : ∀ k, k ≠ i → v'.store.own k = v.store.own k
  tenant : ∀ k, k ≠ i → v'.tenant k = v.tenant k
  enforceRls : v'.enforceRls = v.enforceRls

theorem Unseen.refl : v.Unseen v i := ⟨rfl, fun _ _ => rfl, fun _ _ => rfl, rfl⟩

theorem unseen_write (h : v.write i w = some v') : v.Unseen v' i := by
  have hs := write_store h
  unfold write at h
  split at h
  · cases h
  obtain ⟨s, -, rfl⟩ := Option.map_eq_some_iff.mp h
  refine ⟨Store.write_committed hs, fun k hk => ?_, fun _ _ => rfl, rfl⟩
  rw [Store.write_own hs, if_neg hk]

theorem unseen_update {r : Except SqlError Nat} (h : v.update i n w = some (v', r)) :
    v.Unseen v' i := by
  rcases update_cases h with ⟨-, rfl, -⟩ | ⟨-, -, h⟩
  · exact .refl
  · exact unseen_write h

theorem unseen_rollback : v.Unseen (v.rollback i) i where
  committed := rfl
  own k hk := by rw [rollback, Store.rollback_own, if_neg hk]
  tenant k hk := Function.update_of_ne hk _ _
  enforceRls := rfl

theorem unseen_execute {c : Statement} {r : c.Answer} (h : v.execute i c = some (v', r))
    (hc : c ≠ .commit) : v.Unseen v' i := by
  cases c with
  | commit => exact absurd rfl hc
  | begin =>
    simp only [execute] at h
    split at h
    · cases h
    · cases h
      exact ⟨rfl, fun _ _ => rfl, fun _ _ => rfl, rfl⟩
  | rollback =>
    cases h
    exact unseen_rollback
  | setLocalTenant organizationId =>
    cases h
    exact ⟨rfl, fun _ _ => rfl, fun k hk => Function.update_of_ne hk _ _, rfl⟩
  | insertPasskey p =>
    rcases insertPasskey_cases h with ⟨rfl, -⟩ | ⟨-, h⟩
    · exact .refl
    · exact unseen_write h
  | writeMembership c =>
    rcases writeMembership_cases h with ⟨rfl, -⟩ | ⟨_, _, -, -, -, h⟩
    · exact .refl
    · exact unseen_write h
  | revokePasskey | updateMfaEnrolled | updateRequiresMfa =>
    exact unseen_update h
  | applyAudit | countLivePasskeys | existsPrivileged | selectRequiresMfa =>
    cases h
    exact .refl

/-- Nothing but a commit that takes effect is seen by the other transactions. -/
theorem unseen_answer {c : Statement} {x : Reply} {r : c.Answer}
    (h : v.answer i c x = some (v', r)) (hc : c ≠ .commit ∨ x = .failed) : v.Unseen v' i := by
  cases x with
  | ok => exact unseen_execute h (hc.resolve_right (by simp))
  | failed =>
    cases c with
    | commit | rollback =>
      cases h
      exact unseen_rollback
    | _ =>
      cases h
      exact .refl
  | lost =>
    cases c with
    | commit => exact absurd rfl (hc.resolve_right (by simp))
    | _ => cases h

/-- A statement that fails outright, other than the end of a transaction, does nothing. -/
theorem answer_failed {c : Statement} {r : c.Answer} (h : v.answer i c .failed = some (v', r))
    (hc : c ≠ .commit) (hr : c ≠ .rollback) : v' = v ∧ r = broken c := by
  cases c <;> first | exact absurd rfl hc | exact absurd rfl hr | (cases h; exact ⟨rfl, rfl⟩)

theorem answer_lost {c : Statement} {r : c.Answer} (h : v.answer i c .lost = some (v', r)) :
    c = .commit := by
  cases c <;> first | rfl | cases h

/-- `COMMIT` ends the transaction, without effect only if it fails. -/
theorem commit_cases {x : Reply} {r : Except SqlError Unit}
    (h : v.answer i .commit x = some (v', r)) :
    (x = .failed ∧ v' = v.rollback i) ∨ (x ≠ .failed ∧ v' = v.commit i) := by
  cases x <;> cases h <;> simp [commit, rollback]

theorem rollback_cases {x : Reply} {r : Unit} (h : v.answer i .rollback x = some (v', r)) :
    v' = v.rollback i := by
  cases x <;> cases h <;> rfl

@[simp] theorem rollback_own_self : (v.rollback i).store.own i = [] := by
  rw [rollback, Store.rollback_own, if_pos rfl]

theorem commit_own : (v.commit i).store.own j = if j = i then [] else v.store.own j :=
  Store.commit_own

theorem view_eq_of_own (hc : v'.store.committed = v.store.committed)
    (h : v'.store.own j = v.store.own j) : v'.view j = v.view j := by
  rw [view, view, Store.view, Store.view, h, hc]

end Lemmas

end Server

/-- Transactions that are interleaved statement by statement. -/
def sqlPool {J : Type} (program : J → Program sql Unit) : Pool sql Server J Reply Unit where
  prog := program
  external := fun _ => true
  answer := fun v i c x => (v.answer i c x).map fun (v, r) => (v, r, [])

theorem sqlPool_answer {J : Type} {program : J → Program sql Unit} {v v' : Server} {i : Nat}
    {c : Statement} {x : Reply} {r : c.Answer} {js : List J}
    (h : (sqlPool program).answer v i c x = some (v', r, js)) : v.answer i c x = some (v', r) := by
  obtain ⟨_, hv, he⟩ := Option.map_eq_some_iff.mp h
  cases he
  exact hv

end Kubinate.Identity
