import Kubinate.Identity.Directory
import Kubinate.Identity.Repository
import Kubinate.Platform.Text

/-!
# The credentials of the users

What the API process keeps about its callers besides the tables of the identity
repositories: `sessions`, `api_keys`, `mfa_recovery_codes`, `webauthn_ceremonies`,
`auth_states`, `user_oidc_identities`, and the nicknames of passkeys that are being
registered.

A request reads and writes these tables through `AccessCall`. Each call is one statement or
one transaction and takes effect at one moment; `Accounts.execute` is what it does,
`Accounts.answer` adds the ways in which it can fail. Queries on the bare pool set no
tenant, so under row-level security they see only rows of the nil organization.
-/

namespace Kubinate.Access

open Platform Library Identity

/-! ## Rows -/

structure Session where
  id : Uuid
  userId : Uuid
  createdAt : Timestamp
  expiresAt : Timestamp
  revokedAt : Option Timestamp
  mfaSatisfied : Bool
deriving DecidableEq, Repr

/-- `revoked_at IS NULL AND expires_at > now()`. -/
def Session.isLive (s : Session) (now : Timestamp) : Bool :=
  s.revokedAt.isNone && decide (now < s.expiresAt)

/-- A row of `api_keys`; every row that the code writes has a user. -/
structure ApiKey where
  id : Uuid
  organizationId : Uuid
  userId : Uuid
  name : String
  tokenHash : List UInt8
  tokenPrefix : String
  createdAt : Timestamp
  expiresAt : Option Timestamp
  revokedAt : Option Timestamp
deriving DecidableEq, Repr

/-- `revoked_at IS NULL AND (expires_at IS NULL OR expires_at > now())`. -/
def ApiKey.isUsable (k : ApiKey) (now : Timestamp) : Bool :=
  k.revokedAt.isNone && k.expiresAt.all fun e => decide (now < e)

def ApiKey.isOf (k : ApiKey) (organizationId userId : Uuid) : Bool :=
  k.organizationId == organizationId && k.userId == userId

structure RecoveryCode where
  userId : Uuid
  codeHash : List UInt8
  usedAt : Option Timestamp
deriving DecidableEq, Repr

inductive CeremonyKind where
  | registration
  | assertion
deriving DecidableEq, Repr

/-- A row of `webauthn_ceremonies`; `state` is opaque here. -/
structure Ceremony where
  id : Uuid
  userId : Uuid
  kind : CeremonyKind
  state : List UInt8
  expiresAt : Timestamp
deriving DecidableEq, Repr

structure AuthState where
  state : String
  codeVerifier : String
  provider : String
  redirectTo : Option String
  expiresAt : Timestamp
  consumedAt : Option Timestamp
deriving DecidableEq, Repr

/-- A row of `user_oidc_identities`. -/
structure IdentityLink where
  issuer : String
  subject : String
  userId : Uuid
deriving DecidableEq, Repr

/-- What the identity provider reports about the person who logged in. -/
structure IdpUser where
  subject : String
  issuer : String
  email : Option String
  displayName : String
deriving DecidableEq, Repr

/-- The address under which a new user is stored. -/
def IdpUser.address (idp : IdpUser) : String :=
  idp.email.getD (idp.subject ++ "+" ++ idp.issuer ++ "@placeholder.local")

/-- What `upsert_identity` returns and what its transaction has yet to commit. -/
structure Upsert where
  userId : Uuid
  inserted : Option User
  renamed : Option String
  linked : Option IdentityLink
deriving DecidableEq, Repr

structure Accounts where
  directory : Directory
  identities : List IdentityLink := []
  authStates : List AuthState := []
  sessions : List Session := []
  apiKeys : List ApiKey := []
  recoveryCodes : List RecoveryCode := []
  ceremonies : List Ceremony := []
  pendingNicknames : List (Uuid × String) := []
  clock : Timestamp := 0

/-! ## Calls -/

inductive AccessCall where
  | directory (c : DirectoryCall)
  /-- `session::resolve` -/
  | resolveSession (id : Uuid)
  /-- The membership count of `resolve_organization`. -/
  | countMemberships (userId organizationId : Uuid)
  /-- The fallback of `resolve_organization`. -/
  | latestMembership (userId : Uuid)
  /-- The transaction of `resolve_api_key`. -/
  | findApiKey (tokenHash : List UInt8)
  /-- The two queries of `OwnerActor`. -/
  | sessionMfa (id : Uuid)
  | membershipRole (userId organizationId : Uuid)
  | insertApiKey (organizationId userId : Uuid) (name : String) (tokenHash : List UInt8)
      (tokenPrefix : String) (expiresInDays : Option Nat)
  | updateRevokedAt (organizationId userId id : Uuid)
  | revokeSession (id : Uuid)
  | markMfaSatisfied (id : Uuid)
  | requiresPartialSession (userId : Uuid)
  | userEmail (userId : Uuid)
  | storeState (state codeVerifier provider : String) (redirectTo : Option String)
  | consumeState (state : String)
  /-- The code exchange and the profile lookup at GitHub. -/
  | githubProfile (code codeVerifier : String)
  | upsertIdentity (idp : IdpUser)
  /-- The insert of the session and the commit that makes it and the identity visible. -/
  | commitLogin (upsert : Upsert) (mfaSatisfied : Bool)
  | listPasskeys (userId : Uuid)
  | findPasskey (credentialId : String)
  | insertPasskey (userId : Uuid) (credentialId : String) (credential : List UInt8)
      (nickname : String)
  | recordUse (id : Uuid) (signCounter : Int) (credential : List UInt8)
  | revokePasskey (userId id : Uuid)
  | putCeremony (userId : Uuid) (kind : CeremonyKind) (state : List UInt8)
  | takeCeremony (id : Uuid) (kind : CeremonyKind)
  | stashNickname (ceremonyId : Uuid) (nickname : String)
  | takeNickname (ceremonyId : Uuid)
  | rotateBatch (userId : Uuid) (hashes : List (List UInt8))
  | tryConsume (userId : Uuid) (hash : List UInt8)
  | countLive (userId : Uuid)
  /-- The organizations of the fan-out in `audit_passkey_event_for_user`. -/
  | privilegedOrganizations (userId : Uuid)
  /-- One tenant's transaction that appends an audit entry. -/
  | appendAudit (organizationId : Uuid) (action : String)
deriving DecidableEq

@[reducible] def AccessCall.Answer : AccessCall → Type
  | .directory c => c.Answer
  | .resolveSession _ => Except PlatformError (Option Session)
  | .countMemberships .. => Except SqlError Nat
  | .latestMembership _ => Except SqlError (Option Uuid)
  | .findApiKey _ => Except String (Option (Uuid × Uuid))
  | .sessionMfa _ => Except SqlError (Option Bool)
  | .membershipRole .. => Except SqlError (Option MembershipRole)
  | .insertApiKey .. | .storeState .. | .markMfaSatisfied _ | .recordUse .. | .revokePasskey ..
  | .rotateBatch .. | .appendAudit .. => Except PlatformError Unit
  | .updateRevokedAt .. => Except PlatformError Nat
  | .revokeSession _ => Except PlatformError Unit
  | .requiresPartialSession _ => Except PlatformError Bool
  | .userEmail _ => Except PlatformError (Option String)
  | .consumeState _ => Except PlatformError AuthState
  | .githubProfile .. => Except PlatformError IdpUser
  | .upsertIdentity _ => Except PlatformError Upsert
  | .commitLogin .. => Except PlatformError Uuid
  | .listPasskeys _ => Except PlatformError (List Passkey)
  | .findPasskey _ => Except PlatformError (Option Passkey)
  | .insertPasskey .. => Except PlatformError Passkey
  | .putCeremony .. => Except PlatformError Uuid
  | .takeCeremony .. => Except PlatformError (Option Ceremony)
  | .stashNickname .. => Unit
  | .takeNickname _ => Option String
  | .tryConsume .. => Except PlatformError Bool
  | .countLive _ => Except PlatformError Nat
  | .privilegedOrganizations _ => Except PlatformError (List Uuid)

abbrev access : Interface where
  Call := AccessCall
  Answer := AccessCall.Answer

instance : DecidableEq access.Call := inferInstanceAs (DecidableEq AccessCall)

/-! ## What the calls do -/

/-- The step of `resolve_api_key` that a broken connection interrupts. -/
inductive LookupPhase where
  | begin
  | bypass
  | lookup
  | commit
deriving DecidableEq, Repr

def LookupPhase.message : LookupPhase → String
  | .begin => "api key auth: db begin failed"
  | .bypass => "api key auth: bypass set failed"
  | .lookup => "api key lookup failed"
  | .commit => "api key auth: commit failed"

/-- How a call goes: how much time has passed since the last one, the fresh id that an
insert uses, and what GitHub answers. -/
structure Outcome where
  reply : Reply
  elapsed : Nat := 0
  id : Uuid := 0
  profile : Except PlatformError IdpUser := .error (.internal "")
  phase : LookupPhase := .lookup

/-- Thirty days in microseconds. -/
def sessionTtl : Timestamp := 30 * 24 * 60 * 60 * 1000000

/-- Five minutes in microseconds. -/
def ceremonyTtl : Timestamp := 5 * 60 * 1000000

/-- Ten minutes in microseconds. -/
def authStateTtl : Timestamp := 10 * 60 * 1000000

/-- A day in microseconds. -/
def day : Timestamp := 24 * 60 * 60 * 1000000

namespace Accounts

variable (w : Accounts)

abbrev db : Database := w.directory.db

/-- The same accounts with another directory database. -/
def setDb (db : Database) : Accounts := { w with directory := { w.directory with db := db } }

/-- The user has a live membership in the organization. -/
def isMember (organizationId userId : Uuid) : Bool :=
  w.db.memberships.any fun m => m.isOf organizationId userId && m.isLive

/-- The rows of `memberships` that a query outside any tenant can see. -/
def unscopedMemberships : List Membership := w.db.inTenant w.directory.enforceRls Uuid.nil

/-- `ORDER BY created_at DESC LIMIT 1`; among rows of the same instant, the first. -/
def latest : List Membership → Option Membership
  | [] => none
  | m :: rest =>
    match latest rest with
    | none => some m
    | some n => if m.createdAt < n.createdAt then some n else some m

/-- `INSERT INTO api_keys` in a transaction scoped to the organization. -/
def insertApiKey (k : ApiKey) : Accounts × Except PlatformError Unit :=
  if w.apiKeys.any fun k' => k'.id == k.id || k'.tokenHash == k.tokenHash
  then (w, .error (.database .uniqueViolation))
  else if !w.db.organizations.contains k.organizationId || w.db.users.all fun u => u.id != k.userId
  then (w, .error (.database .foreignKeyViolation))
  else ({ w with apiKeys := w.apiKeys ++ [k] }, .ok ())

/-- `UPDATE api_keys SET revoked_at = now()`. The trigger `api_keys_updated_at` assigns
`NEW.updated_at`, a column that `api_keys` does not have, so the statement fails for every
row it matches. -/
def updateRevokedAt (organizationId userId id : Uuid) : Except PlatformError Nat :=
  if w.apiKeys.any fun k => k.id == id && k.userId == userId && k.revokedAt.isNone &&
      (!w.directory.enforceRls || k.organizationId == organizationId)
  then .error (.database .undefinedColumn)
  else .ok 0

/-- `oidc::consume`: a consumed state stays consumed even when it turns out to be expired. -/
def consumeState (state : String) : Accounts × Except PlatformError AuthState :=
  match w.authStates.find? (·.state == state) with
  | none => (w, .error (.forbidden "auth state not found or already consumed"))
  | some a =>
    if a.consumedAt.isSome then (w, .error (.forbidden "auth state already consumed"))
    else
      ({ w with
        authStates := w.authStates.map fun a =>
          if a.state == state then { a with consumedAt := some w.clock } else a },
        if a.expiresAt ≤ w.clock then .error (.forbidden "auth state expired") else .ok a)

/-- `oidc::upsert_identity` up to the commit: an identity that is linked gives its user, an
unknown one is linked to the user with its address, who is created if there is none. -/
def upsertIdentity (freshId : Uuid) (idp : IdpUser) : Upsert :=
  match w.identities.find? fun l => l.issuer == idp.issuer && l.subject == idp.subject with
  | some l => ⟨l.userId, none, none, none⟩
  | none =>
    match w.db.users.find? fun u => Directory.sameEmail u.email idp.address with
    | some u => ⟨u.id, none, some idp.displayName, some ⟨idp.issuer, idp.subject, u.id⟩⟩
    | none =>
      ⟨freshId, some ⟨freshId, idp.address, idp.displayName, false, false⟩, none,
        some ⟨idp.issuer, idp.subject, freshId⟩⟩

/-- The rows that a login writes to `users` and `user_oidc_identities`. -/
def applyUpsert (u : Upsert) : Accounts :=
  let users := w.db.users.map fun v =>
    match u.renamed with
    | some name => if v.id == u.userId then { v with displayName := name } else v
    | none => v
  { w.setDb { w.db with users := users ++ u.inserted.toList } with
    identities := w.identities ++ u.linked.toList }

def commitLogin (u : Upsert) (s : Session) : Accounts × Except PlatformError Uuid :=
  if w.sessions.any (·.id == s.id) then (w, .error (.database .uniqueViolation))
  else
    ({ w.applyUpsert u with sessions := w.sessions ++ [s] }, .ok s.id)

/-- `PgPasskeyRepository::insert`. -/
def insertPasskey (p : Passkey) : Accounts × Except PlatformError Passkey :=
  if w.db.passkeys.any fun q => q.id == p.id || (q.isLive && q.credentialId == p.credentialId)
  then (w, .error (PasskeyRepository.insertError .uniqueViolation))
  else if w.db.users.all fun u => u.id != p.userId
  then (w, .error (PasskeyRepository.insertError .foreignKeyViolation))
  else (w.setDb ((w.db.apply (.insertPasskey p)).apply (.setMfaEnrolled p.userId true)), .ok p)

/-- `PgPasskeyRepository::revoke`. -/
def revokePasskey (userId id : Uuid) : Accounts × Except PlatformError Unit :=
  if w.db.passkeys.countP (·.matches id userId) ≠ 1
  then (w, .error (.notFound ("passkey/" ++ id.text)))
  else
    let db := w.db.apply (.revokePasskey id userId [] w.clock)
    if db.passkeys.countP (fun p => p.userId == userId && p.isLive) = 0
    then (w.setDb (db.apply (.setMfaEnrolled userId false)), .ok ())
    else (w.setDb db, .ok ())

/-- The rows that `record_use` may update. -/
def acceptsUse (id : Uuid) (signCounter : Int) (p : Passkey) : Bool :=
  p.id == id && p.isLive && (p.signCounter < signCounter || p.signCounter == 0)

/-- `PgPasskeyRepository::record_use`. -/
def recordUse (id : Uuid) (signCounter : Int) (credential : List UInt8) :
    Accounts × Except PlatformError Unit :=
  if w.db.passkeys.countP (acceptsUse id signCounter) ≠ 1
  then (w, .error (.conflict "passkey was revoked or the assertion counter regressed"))
  else
    (w.setDb { w.db with
      passkeys := w.db.passkeys.map fun p =>
        if acceptsUse id signCounter p
        then { p with signCounter, credential, lastUsedAt := some w.clock } else p }, .ok ())

/-- `DELETE FROM webauthn_ceremonies … RETURNING`. -/
def takeCeremony (id : Uuid) (kind : CeremonyKind) : Accounts × Option Ceremony :=
  let taken : Ceremony → Bool := fun c =>
    c.id == id && c.kind == kind && decide (w.clock < c.expiresAt)
  ({ w with ceremonies := w.ceremonies.filter fun c => !taken c }, w.ceremonies.find? taken)

/-- `PgRecoveryCodeRepository::rotate_batch`; the hashes of unused codes are unique among
all users. -/
def rotateBatch (userId : Uuid) (hashes : List (List UInt8)) :
    Accounts × Except PlatformError Unit :=
  let others := w.recoveryCodes.filter (·.userId != userId)
  if ¬ hashes.Nodup ∨ others.any fun c => c.usedAt.isNone && hashes.contains c.codeHash
  then (w, .error (.database .uniqueViolation))
  else ({ w with recoveryCodes := others ++ hashes.map fun h => ⟨userId, h, none⟩ }, .ok ())

/-- `PgRecoveryCodeRepository::try_consume`. -/
def tryConsume (userId : Uuid) (hash : List UInt8) : Accounts × Bool :=
  let live : RecoveryCode → Bool := fun c =>
    c.userId == userId && c.codeHash == hash && c.usedAt.isNone
  ({ w with
    recoveryCodes := w.recoveryCodes.map fun c =>
      if live c then { c with usedAt := some w.clock } else c },
    w.recoveryCodes.any live)

/-- `SELECT mfa_satisfied FROM sessions`. -/
def sessionMfa (id : Uuid) : Option Bool :=
  (w.sessions.find? fun s => s.id == id && s.isLive w.clock).map (·.mfaSatisfied)

/-- A change of the sessions with this id that are not revoked. -/
def updateSession (id : Uuid) (f : Session → Session) : Accounts :=
  { w with
    sessions := w.sessions.map fun s => if s.id == id && s.revokedAt.isNone then f s else s }

/-- What each call does and answers when nothing fails. -/
def execute (x : Outcome) : (c : AccessCall) → Accounts × c.Answer
  | .directory c =>
    let (d, r) := w.directory.execute ⟨.ok, w.clock, x.id⟩ c
    ({ w with directory := d }, r)
  | .resolveSession id => (w, .ok (w.sessions.find? fun s => s.id == id && s.isLive w.clock))
  | .countMemberships userId organizationId =>
    (w, .ok (w.unscopedMemberships.countP fun m => m.isOf organizationId userId && m.isLive))
  | .latestMembership userId =>
    (w, .ok ((latest (w.unscopedMemberships.filter fun m => m.userId == userId && m.isLive)).map
      (·.organizationId)))
  | .findApiKey tokenHash =>
    (w, .ok ((w.apiKeys.find? fun k => k.tokenHash == tokenHash && k.isUsable w.clock).map
      fun k => (k.userId, k.organizationId)))
  | .sessionMfa id => (w, .ok (w.sessionMfa id))
  | .membershipRole userId organizationId =>
    (w, .ok ((w.unscopedMemberships.find? fun m => m.isOf organizationId userId && m.isLive).map
      (·.role)))
  | .insertApiKey organizationId userId name tokenHash tokenPrefix expiresInDays =>
    w.insertApiKey
      { id := x.id, organizationId, userId, name, tokenHash, tokenPrefix, createdAt := w.clock,
        expiresAt := expiresInDays.map fun days => w.clock + days * day, revokedAt := none }
  | .updateRevokedAt organizationId userId id => (w, w.updateRevokedAt organizationId userId id)
  | .revokeSession id =>
    (w.updateSession id fun s => { s with revokedAt := some w.clock }, .ok ())
  | .markMfaSatisfied id => (w.updateSession id fun s => { s with mfaSatisfied := true }, .ok ())
  | .requiresPartialSession userId =>
    (w, .ok (w.db.users.any fun u => u.id == userId && u.requiresMfa && u.mfaEnrolled))
  | .userEmail userId => (w, .ok ((w.db.users.find? (·.id == userId)).map (·.email)))
  | .storeState state codeVerifier provider redirectTo =>
    if w.authStates.any (·.state == state) then (w, .error (.database .uniqueViolation))
    else
      ({ w with
        authStates := w.authStates ++
          [⟨state, codeVerifier, provider, redirectTo, w.clock + authStateTtl, none⟩] }, .ok ())
  | .consumeState state => w.consumeState state
  | .githubProfile _ _ => (w, x.profile)
  | .upsertIdentity idp => (w, .ok (w.upsertIdentity x.id idp))
  | .commitLogin u mfaSatisfied =>
    w.commitLogin u ⟨x.id, u.userId, w.clock, w.clock + sessionTtl, none, mfaSatisfied⟩
  | .listPasskeys userId => (w, .ok (w.db.passkeys.filter fun p => p.userId == userId && p.isLive))
  | .findPasskey credentialId =>
    (w, .ok (w.db.passkeys.find? fun p => p.credentialId == credentialId && p.isLive))
  | .insertPasskey userId credentialId credential nickname =>
    w.insertPasskey
      (PasskeyRepository.newPasskey x.id w.clock userId credentialId credential nickname)
  | .recordUse id signCounter credential => w.recordUse id signCounter credential
  | .revokePasskey userId id => w.revokePasskey userId id
  | .putCeremony userId kind state =>
    if w.ceremonies.any (·.id == x.id) then (w, .error (.database .uniqueViolation))
    else
      ({ w with
        ceremonies := w.ceremonies ++ [⟨x.id, userId, kind, state, w.clock + ceremonyTtl⟩] },
        .ok x.id)
  | .takeCeremony id kind => let (w, c) := w.takeCeremony id kind; (w, .ok c)
  | .stashNickname ceremonyId nickname =>
    ({ w with
      pendingNicknames :=
        (ceremonyId, nickname) :: w.pendingNicknames.filter (·.1 != ceremonyId) }, ())
  | .takeNickname ceremonyId =>
    ({ w with pendingNicknames := w.pendingNicknames.filter (·.1 != ceremonyId) },
      (w.pendingNicknames.find? (·.1 == ceremonyId)).map (·.2))
  | .rotateBatch userId hashes => w.rotateBatch userId hashes
  | .tryConsume userId hash => let (w, b) := w.tryConsume userId hash; (w, .ok b)
  | .countLive userId =>
    (w, .ok (w.recoveryCodes.countP fun c => c.userId == userId && c.usedAt.isNone))
  | .privilegedOrganizations userId =>
    (w, .ok ((w.unscopedMemberships.filter fun m => m.userId == userId && m.isPrivileged).map
      (·.organizationId)))
  | .appendAudit .. => (w, .ok ())

/-- The answer to a call whose connection breaks; what is kept in the process does not. -/
def broken (w : Accounts) (x : Outcome) : (c : AccessCall) → c.Answer
  | .directory c => Directory.broken ⟨x.reply, w.clock, x.id⟩ c
  | .countMemberships .. | .latestMembership _ | .sessionMfa _ | .membershipRole .. =>
    Except.error SqlError.connection
  | .findApiKey _ => .error x.phase.message
  | .githubProfile .. => x.profile
  | .stashNickname .. => ()
  | .takeNickname ceremonyId => (w.execute x (.takeNickname ceremonyId)).2
  | .resolveSession _ | .insertApiKey .. | .updateRevokedAt .. | .revokeSession _
  | .markMfaSatisfied _ | .requiresPartialSession _ | .userEmail _ | .storeState ..
  | .consumeState _ | .upsertIdentity _ | .commitLogin .. | .listPasskeys _ | .findPasskey _
  | .insertPasskey .. | .recordUse .. | .revokePasskey .. | .putCeremony .. | .takeCeremony ..
  | .rotateBatch .. | .tryConsume .. | .countLive _ | .privilegedOrganizations _
  | .appendAudit .. => Except.error (PlatformError.database SqlError.connection)

/-- Time only moves forward. -/
def tick (elapsed : Nat) : Accounts := { w with clock := w.clock + elapsed }

/-- A call that fails has no effect; one whose reply is lost has taken effect. -/
def answer (c : AccessCall) (x : Outcome) : Accounts × c.Answer :=
  let w := w.tick x.elapsed
  match x.reply with
  | .ok => w.execute x c
  | .failed =>
    match c with
    | .stashNickname ceremonyId nickname => w.execute x (.stashNickname ceremonyId nickname)
    | .takeNickname ceremonyId => w.execute x (.takeNickname ceremonyId)
    | c => (w, broken w x c)
  | .lost => ((w.execute x c).1, broken w x c)

end Accounts

end Kubinate.Access
