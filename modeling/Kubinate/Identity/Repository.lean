import Kubinate.Identity.Statements

/-!
# The passkey and membership repositories

`PgPasskeyRepository` and the membership repository of
`crates/identity/src/repository.rs`, statement by statement. The trigger of
`20260508174335_users_requires_mfa.sql` runs inside the statement that fires it; its own
statements take snapshots of their own, so they are separate calls here.
-/

namespace Kubinate.Identity

open Platform Library

/-- Code that sends statements and returns a `PlatformResult`. -/
abbrev Db := ExceptT PlatformError (Program sql)

/-- Sends one statement. -/
def send (c : Statement) : Program sql c.Answer := Program.perform (I := sql) c

/-- `.await.map_err(f)?` on a statement. -/
def query {α : Type} (f : SqlError → PlatformError) (p : Program sql (Except SqlError α)) : Db α :=
  ExceptT.mk (p >>= fun r =>
    match r with
    | .ok a => pure (.ok a)
    | .error e => pure (.error (f e)))

/-- `.await?` on a statement: the error becomes `PlatformError::Database`. -/
def sqlx {α : Type} (p : Program sql (Except SqlError α)) : Db α := query .database p

/-- `pool.begin()`, then the body with the open transaction, which is rolled back when it
is dropped on an early return. -/
def transaction {α : Type} (body : Db α) : Db α := do
  sqlx (send .begin)
  ExceptT.mk (body.run >>= fun r =>
    match r with
    | .ok a => pure (.ok a)
    | .error e => send .rollback >>= fun _ => pure (.error e))

namespace PasskeyRepository

/-- The unique violation of either index is reported as a conflict. -/
def insertError : SqlError → PlatformError
  | .uniqueViolation => .conflict "this passkey is already registered"
  | e => .database e

/-- The row that `insert` writes; `id` is the fresh v7 UUID and `now` the transaction's
`now()`. -/
def newPasskey (id : Uuid) (now : Timestamp) (userId : Uuid) (credentialId : String)
    (credential : List UInt8) (nickname : String) : Passkey where
  id := id
  userId := userId
  credentialId := credentialId
  credential := credential
  signCounter := 0
  nickname := nickname
  registeredAt := now
  lastUsedAt := none
  revokedAt := none

def insert (id : Uuid) (now : Timestamp) (userId : Uuid) (credentialId : String)
    (credential : List UInt8) (nickname : String) : Db Passkey :=
  transaction do
    let row ← query insertError
      (send (.insertPasskey (newPasskey id now userId credentialId credential nickname)))
    let _ ← sqlx (send (.updateMfaEnrolled userId true))
    sqlx (send .commit)
    return row

def revoke (now : Timestamp) (userId passkeyId : Uuid) : Db Unit :=
  transaction do
    let affected ← sqlx (send (.revokePasskey passkeyId userId now))
    if affected ≠ 1 then throw (.notFound ("passkey/" ++ passkeyId.text))
    let liveRemaining ← sqlx (send (.countLivePasskeys userId))
    if liveRemaining = 0 then
      let _ ← sqlx (send (.updateMfaEnrolled userId false))
    sqlx (send .commit)

end PasskeyRepository

namespace MembershipRepository

/-- `sync_user_requires_mfa`. A user that does not exist has `NULL` as the current value,
which is distinct from either boolean. -/
def syncUserRequiresMfa (userId : Uuid) : Db Unit := do
  let computed ← sqlx (send (.existsPrivileged userId))
  let currentValue ← sqlx (send (.selectRequiresMfa userId))
  if currentValue ≠ some computed then
    let _ ← sqlx (send (.updateRequiresMfa userId computed))

/-- A write to `memberships` of one user with the trigger `memberships_requires_mfa_sync`,
which fires once for each row written. The unique index on `(organization_id, user_id)`
leaves at most one row to write. -/
def withTrigger (userId : Uuid) (p : Program sql (Except SqlError Nat)) : Db Nat := do
  let affected ← sqlx p
  if affected ≠ 0 then syncUserRequiresMfa userId
  return affected

/-- A tenant-scoped transaction with its audit context. -/
def tenantTransaction {α : Type} (organizationId : Uuid) (body : Db α) : Db α :=
  transaction do
    sqlx (send (.setLocalTenant organizationId))
    sqlx (send .applyAudit)
    let a ← body
    sqlx (send .commit)
    return a

def insert (id : Uuid) (now : Timestamp) (organizationId userId : Uuid) (role : MembershipRole) :
    Db Unit := do
  let _ ← tenantTransaction organizationId
    (withTrigger userId (send (.writeMembership (.upsert id now organizationId userId role))))

def updateRole (organizationId userId : Uuid) (role : MembershipRole) : Db Unit := do
  let affected ← tenantTransaction organizationId
    (withTrigger userId (send (.writeMembership (.updateRole organizationId userId role))))
  if affected = 0 then
    throw (.notFound
      ("membership user/" ++ userId.text ++ " in org/" ++ organizationId.text))

def softDelete (now : Timestamp) (organizationId userId : Uuid) : Db Unit := do
  let _ ← tenantTransaction organizationId
    (withTrigger userId (send (.writeMembership (.softDelete now organizationId userId))))

end MembershipRepository

end Kubinate.Identity
