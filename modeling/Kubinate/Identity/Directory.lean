import Kubinate.Identity.Statements

/-!
# The repositories as the services see them

The services of the identity crate talk to the membership and invite repositories through
traits. Each method is one transaction that writes at most one row of `memberships` or
`invites`, so for the services a call takes effect at one moment, its commit.

`Database.writeMembership` is the effect of the three membership writes, trigger included;
`Directory.answer` is what each method answers and does.
-/

namespace Kubinate.Identity

open Platform Library

namespace Database

variable (db : Database)

/-- `SELECT role FROM memberships` of the live row. -/
def roleOf (organizationId userId : Uuid) : Option MembershipRole :=
  (db.memberships.find? fun m => m.isOf organizationId userId && m.isLive).map (·.role)

/-- `memberships` joined with `users`, the live rows of the organization. -/
def members (organizationId : Uuid) : List MembershipView :=
  (db.memberships.filter fun m => m.organizationId == organizationId && m.isLive).filterMap
    fun m => (db.users.find? (·.id == m.userId)).map fun u =>
      ⟨m.id, m.userId, u.email, u.displayName, m.role, m.createdAt⟩

/-- The rows of `memberships` that a transaction scoped to the organization can see. -/
def inTenant (enforceRls : Bool) (organizationId : Uuid) : List Membership :=
  db.memberships.filter fun m => !enforceRls || m.organizationId == organizationId

/-- `sync_user_requires_mfa` in a transaction scoped to the organization. -/
def syncUserRequiresMfa (enforceRls : Bool) (organizationId userId : Uuid) : Database :=
  let computed := (db.inTenant enforceRls organizationId).any fun m =>
    m.userId == userId && m.isPrivileged
  if (db.users.find? (·.id == userId)).map (·.requiresMfa) = some computed then db
  else db.apply (.setRequiresMfa userId computed)

/-- The row change of a membership statement with the number of rows affected. -/
def changeMembership : MembershipStatement → Except SqlError (Database × Nat)
  | .upsert id now organizationId userId role =>
    if db.memberships.any fun m => m.isOf organizationId userId then
      .ok (db.apply (.reviveMembership organizationId userId role), 1)
    else if db.memberships.any fun m => m.id == id then .error .uniqueViolation
    else if !db.organizations.contains organizationId || db.users.all fun u => u.id != userId
    then .error .foreignKeyViolation
    else .ok (db.apply (.insertMembership ⟨id, organizationId, userId, role, now, none⟩), 1)
  | .updateRole organizationId userId role =>
    .ok (db.apply (.setRole organizationId userId role),
      db.memberships.countP fun m => m.isOf organizationId userId && m.isLive)
  | .softDelete now organizationId userId =>
    .ok (db.apply (.softDeleteMembership organizationId userId now),
      db.memberships.countP fun m => m.isOf organizationId userId && m.isLive)

/-- A membership write with the trigger that follows it when a row was written. -/
def writeMembership (enforceRls : Bool) (c : MembershipStatement) :
    Except SqlError (Database × Nat) :=
  match db.changeMembership c with
  | .error e => .error e
  | .ok (db, affected) =>
    .ok (if affected = 0 then db
      else db.syncUserRequiresMfa enforceRls c.organizationId c.userId, affected)

end Database

/-! ## The calls -/

inductive DirectoryCall where
  /-- `OffsetDateTime::now_utc()` -/
  | now
  | roleOf (organizationId userId : Uuid)
  | listMembers (organizationId : Uuid)
  | insertMembership (organizationId userId : Uuid) (role : MembershipRole)
  | updateRole (organizationId userId : Uuid) (role : MembershipRole)
  | softDelete (organizationId userId : Uuid)
  | insertInvite (organizationId : Uuid) (email : String) (role : MembershipRole)
      (tokenHash : List UInt8) (tokenPrefix : String) (invitedBy : Uuid) (expiresAt : Timestamp)
  | getByHash (tokenHash : List UInt8)
  | markAccepted (id acceptedBy : Uuid)
deriving DecidableEq

@[reducible]
def DirectoryCall.Answer : DirectoryCall → Type
  | .now => Timestamp
  | .roleOf .. => Except PlatformError (Option MembershipRole)
  | .listMembers _ => Except PlatformError (List MembershipView)
  | .insertMembership .. | .updateRole .. | .softDelete .. | .markAccepted .. =>
    Except PlatformError Unit
  | .insertInvite .. => Except PlatformError Invite
  | .getByHash _ => Except PlatformError (Option Invite)

abbrev directory : Interface where
  Call := DirectoryCall
  Answer := DirectoryCall.Answer

instance : DecidableEq directory.Call := inferInstanceAs (DecidableEq DirectoryCall)

/-- How a call goes, with the time of the server and the fresh id that an insert uses. -/
structure Outcome where
  reply : Reply
  now : Timestamp := 0
  id : Uuid := 0
deriving DecidableEq, Repr

structure Directory where
  db : Database
  enforceRls : Bool

namespace Directory

/-- `citext` equality of two addresses. -/
def sameEmail (a b : String) : Bool := a.toList.map Char.toLower == b.toList.map Char.toLower

/-- The rows of `invites` that a query outside any tenant can see. -/
def unscopedInvites (d : Directory) : List InviteRow :=
  d.db.invites.filter fun i => !d.enforceRls || i.organizationId == Uuid.nil

/-- A membership write as a repository method. -/
def writeMembership (d : Directory) (c : MembershipStatement) :
    Directory × Except PlatformError Nat :=
  match d.db.writeMembership d.enforceRls c with
  | .ok (db, affected) => ({ d with db := db }, .ok affected)
  | .error e => (d, .error (.database e))

/-- `PgInviteRepository::insert`: the token hash is unique, and so is the address among the
pending invites of the organization. -/
def insertInvite (d : Directory) (row : InviteRow) : Directory × Except PlatformError Invite :=
  if d.db.invites.any fun i => i.id == row.id || i.tokenHash == row.tokenHash ||
      (i.acceptedAt.isNone && i.revokedAt.isNone && i.organizationId == row.organizationId &&
        sameEmail i.email row.email)
  then (d, .error (.conflict "an invite for this email is already pending"))
  else if !d.db.organizations.contains row.organizationId
  then (d, .error (.database .foreignKeyViolation))
  else ({ d with db := { d.db with invites := d.db.invites ++ [row] } }, .ok row.toInvite)

/-- `PgInviteRepository::mark_accepted`. -/
def markAccepted (d : Directory) (now : Timestamp) (id acceptedBy : Uuid) :
    Directory × Except PlatformError Unit :=
  match d.unscopedInvites.find? (·.id == id) with
  | none => (d, .error (.notFound ("invite/" ++ id.text)))
  | some _ =>
    if d.db.invites.any fun i => i.id == id && i.isLive now then
      ({ d with
        db := { d.db with
          invites := d.db.invites.map fun i =>
            if i.id == id && i.isLive now
            then { i with acceptedAt := some now, acceptedBy := some acceptedBy } else i } },
        .ok ())
    else (d, .error (.forbidden "invite is expired, revoked, or already accepted"))

/-- What each method does and answers when the database does not fail. -/
def execute (d : Directory) (x : Outcome) : (c : DirectoryCall) → Directory × c.Answer
  | .now => (d, x.now)
  | .roleOf organizationId userId => (d, .ok (d.db.roleOf organizationId userId))
  | .listMembers organizationId => (d, .ok (d.db.members organizationId))
  | .insertMembership organizationId userId role =>
    let (d, r) := d.writeMembership (.upsert x.id x.now organizationId userId role)
    (d, r.map fun _ => ())
  | .updateRole organizationId userId role =>
    let (d, r) := d.writeMembership (.updateRole organizationId userId role)
    (d, match r with
      | .ok 0 => .error (.notFound
          ("membership user/" ++ userId.text ++ " in org/" ++ organizationId.text))
      | .ok _ => .ok ()
      | .error e => .error e)
  | .softDelete organizationId userId =>
    let (d, r) := d.writeMembership (.softDelete x.now organizationId userId)
    (d, r.map fun _ => ())
  | .insertInvite organizationId email role tokenHash tokenPrefix invitedBy expiresAt =>
    d.insertInvite
      { id := x.id, organizationId, email, role, tokenPrefix, acceptedAt := none,
        revokedAt := none, expiresAt, createdAt := x.now, tokenHash, invitedBy := some invitedBy,
        acceptedBy := none }
  | .getByHash tokenHash =>
    (d, .ok ((d.unscopedInvites.find? (·.tokenHash == tokenHash)).map (·.toInvite)))
  | .markAccepted id acceptedBy => d.markAccepted x.now id acceptedBy

/-- The answer to a call whose connection breaks. -/
def broken (x : Outcome) : (c : DirectoryCall) → c.Answer
  | .now => x.now
  | .roleOf .. | .listMembers _ | .insertMembership .. | .updateRole .. | .softDelete ..
  | .insertInvite .. | .getByHash _ | .markAccepted .. =>
    Except.error (PlatformError.database SqlError.connection)

/-- A call that fails has no effect; one whose reply is lost has taken effect. -/
def answer (d : Directory) (c : DirectoryCall) (x : Outcome) : Directory × c.Answer :=
  match x.reply with
  | .ok => d.execute x c
  | .failed => (d, broken x c)
  | .lost => ((d.execute x c).1, broken x c)

end Directory

end Kubinate.Identity
