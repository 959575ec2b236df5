import Kubinate.Access.Extractors

/-!
# The requests

The handlers of `crates/api/src` that change memberships, sessions, API keys, passkeys or
recovery codes: `auth.rs`, `auth_passkey.rs`, `api_keys.rs` and `team.rs`. Each is a program
over `access` that starts with its extractor. What a handler draws at random (tokens, codes,
nonces) is part of the request.

`accessPool` runs any number of requests at the same time.
-/

namespace Kubinate.Access

open Platform Library Identity

/-- The verification of `webauthn-rs`, over encoded states and credentials. A failure
carries the reason with which the ceremony is rejected. -/
structure Webauthn where
  startRegistration : (nonce : List UInt8) → (userId : Uuid) → (email : String) →
    (excluded : List String) → Except String (List UInt8)
  finishRegistration : (state register : List UInt8) → Except String (List UInt8 × List UInt8)
  startAuthentication : (nonce : List UInt8) → (passkeys : List (List UInt8)) →
    Except String (List UInt8)
  /-- The new counter and the updated credential. -/
  finishAuthentication : (state passkey credential : List UInt8) → Except String (Nat × List UInt8)
  /-- The stored credential can be read back. -/
  readable : List UInt8 → Bool

/-- What the deployment is built from; without a configured relying party there are no
ceremonies. -/
structure Deployment extends Crates where
  webauthn : Option Webauthn

/-- What a request answers with. -/
inductive Response where
  | none
  | actor (actor : Actor)
  | owner (owner : OwnerActor)
  | session (id : Uuid)
  | token (token : String)
  | ceremony (id : Uuid)
  | codes (codes : List String)
  | promoted
deriving DecidableEq, Repr

inductive Request where
  /-- A route that takes an `Actor` and changes none of the tables here. -/
  | asActor (h : Headers)
  /-- Any other route that takes an `OwnerActor`. -/
  | asOwner (h : Headers)
  | start (state codeVerifier : String) (redirectTo : Option String)
  | callback (h : Headers) (code state : String)
  | logout (h : Headers)
  | createApiKey (h : Headers) (name : String) (expiresInDays : Option Nat) (token : String)
  | revokeApiKey (h : Headers) (id : Uuid)
  | registerStart (h : Headers) (nickname : String) (nonce : List UInt8)
  | registerFinish (h : Headers) (ceremonyId : Uuid) (register : List UInt8)
  | assertStart (h : Headers) (nonce : List UInt8)
  | assertFinish (h : Headers) (ceremonyId : Uuid) (credentialId credential : List UInt8)
  | revokePasskey (h : Headers) (id : Uuid)
  | recoveryRegenerate (h : Headers) (codes : List String)
  | recoveryRedeem (h : Headers) (code : String)
  | createInvite (h : Headers) (organizationId : Uuid) (email : String) (role : MembershipRole)
      (token : String)
  | acceptInvite (h : Headers) (token : String)
  | updateRole (h : Headers) (organizationId userId : Uuid) (role : MembershipRole)
  | removeMember (h : Headers) (organizationId userId : Uuid)
deriving DecidableEq

/-! ## GitHub sign-in -/

def providerGithub : String := "github"

/-- `start`: only a redirect into the application is kept. -/
def start (state codeVerifier : String) (redirectTo : Option String) : Handler Response := do
  let target := (redirectTo.filter fun s => s.toList.head? == some '/').getD "/"
  await (perform (.storeState state codeVerifier providerGithub (some target)))
  return .none

/-- A call whose result is ignored. -/
def ignore {α : Type} (p : Program access α) : Handler Unit :=
  ExceptT.lift (p >>= fun _ => pure ())

section

variable (env : Deployment)

/-- A session that the cookie carries is revoked first. -/
def rotateSession (h : Headers) : Handler Unit := do
  match extractSessionCookie env.toCrates h with
  | some old => ignore (perform (.revokeSession old))
  | none => return ()

def callback (h : Headers) (code state : String) : Handler Response := do
  let stored ← await (perform (.consumeState state))
  if stored.provider ≠ providerGithub then
    throw (.platform (.forbidden "auth state provider mismatch"))
  let idp ← await (perform (.githubProfile code stored.codeVerifier))
  rotateSession env h
  let upsert ← await (perform (.upsertIdentity idp))
  let needsPartial ← await (perform (.requiresPartialSession upsert.userId))
  let id ← await (perform (.commitLogin upsert (!needsPartial)))
  return .session id

def logout (h : Headers) : Handler Response := do
  rotateSession env h
  return .none

/-! ## API keys -/

def checkName (name : String) : Handler String := do
  let name := trim name
  if name.isEmpty then throw (.platform (.invalid "name must not be empty"))
  if name.utf8ByteSize > 64 then
    throw (.platform (.invalid "name must be 64 characters or fewer"))
  return name

def createApiKey (h : Headers) (name : String) (expiresInDays : Option Nat) (token : String) :
    Handler Response := do
  let actor ← Actor.fromRequestParts env.toCrates h
  let name ← checkName name
  await (perform (.insertApiKey actor.organizationId actor.userId name (env.sha256 token)
    (tokenPrefix token) expiresInDays))
  return .token token

def revokeApiKey (h : Headers) (id : Uuid) : Handler Response := do
  let actor ← Actor.fromRequestParts env.toCrates h
  let affected ← await (perform (.updateRevokedAt actor.organizationId actor.userId id))
  if affected = 0 then throw (.platform (.notFound ("api_key/" ++ id.text)))
  return .none

/-! ## Passkeys -/

def requireCeremonies : Handler Webauthn :=
  match env.webauthn with
  | some webauthn => return webauthn
  | none => throw (.platform (.internal ("WebAuthn is not configured on this deployment " ++
      "(KUBINATE__WEBAUTHN_RP_ID + KUBINATE__WEBAUTHN_RP_ORIGIN)")))

def sanitizeNickname (raw : String) : Handler String := do
  let trimmed := trim raw
  if trimmed.isEmpty then throw (.platform (.invalid "nickname must not be empty"))
  if trimmed.length > 64 then
    throw (.platform (.invalid "nickname must be 64 characters or fewer"))
  return trimmed

/-- A verification of `webauthn-rs`, named in the error. -/
def verify {α : Type} (step : String) : Except String α → Handler α
  | .ok a => return a
  | .error e => throw (.platform (.forbidden (step ++ ": " ++ e)))

/-- `WebauthnError::CeremonyMissing` when the row is gone, expired or of the other kind. -/
def takeCeremony (id : Uuid) (kind : CeremonyKind) : Handler Ceremony := do
  match ← await (perform (.takeCeremony id kind)) with
  | some row => return row
  | none => throw (.platform (.notFound "webauthn ceremony not found or expired"))

/-- `lookup_user_email`, with what the two copies of it report for an unknown user. -/
def lookupUserEmail (missing : PlatformError) (userId : Uuid) : Handler String := do
  match ← await (perform (.userEmail userId)) with
  | some email => return email
  | none => throw (.platform missing)

def auditActor (actor : Actor) (action : String) : Handler Unit :=
  await (perform (.appendAudit actor.organizationId action))

/-- `audit_passkey_event_for_user`: one entry in the chain of each organization that the user
is an owner or admin of. -/
def auditUser (userId : Uuid) (action : String) : Handler Unit := do
  let organizations ← await (perform (.privilegedOrganizations userId))
  organizations.forM fun organizationId => await (perform (.appendAudit organizationId action))

def registerStart (h : Headers) (nickname : String) (nonce : List UInt8) : Handler Response := do
  let actor ← Actor.fromRequestParts env.toCrates h
  let ceremonies ← requireCeremonies env
  let nickname ← sanitizeNickname nickname
  let existing ← await (perform (.listPasskeys actor.userId))
  let email ← lookupUserEmail (.database .rowNotFound) actor.userId
  let state ← verify "start_passkey_registration"
    (ceremonies.startRegistration nonce actor.userId email (existing.map (·.credentialId)))
  let ceremonyId ← await (perform (.putCeremony actor.userId .registration state))
  ExceptT.lift (perform (.stashNickname ceremonyId nickname))
  return .ceremony ceremonyId

def registerFinish (h : Headers) (ceremonyId : Uuid) (register : List UInt8) :
    Handler Response := do
  let actor ← Actor.fromRequestParts env.toCrates h
  let ceremonies ← requireCeremonies env
  let nickname : Option String ← ExceptT.lift (perform (.takeNickname ceremonyId))
  let row ← takeCeremony ceremonyId .registration
  let (credentialId, credential) ← verify "finish_passkey_registration"
    (ceremonies.finishRegistration row.state register)
  let _ ← await (perform (.insertPasskey actor.userId (encodeBase64Url credentialId) credential
    (nickname.getD "Passkey")))
  auditActor actor "passkey.enrolled"
  return .none

def assertStart (h : Headers) (nonce : List UInt8) : Handler Response := do
  let user ← SessionUser.fromRequestParts env.toCrates h
  let ceremonies ← requireCeremonies env
  let live ← await (perform (.listPasskeys user.userId))
  if live.isEmpty then
    throw (.platform (.conflict
      "no registered passkeys; visit /app/settings/security to enroll"))
  if !live.all fun p => ceremonies.readable p.credential then
    throw (.platform (.internal "corrupt passkey"))
  let state ← verify "start_passkey_authentication"
    (ceremonies.startAuthentication nonce (live.map (·.credential)))
  let ceremonyId ← await (perform (.putCeremony user.userId .assertion state))
  return .ceremony ceremonyId

/-- Both ways through the gate end here: the session that made the request is promoted. -/
def promote (user : SessionUser) : Handler Unit := do
  if user.sessionId ≠ Uuid.nil then await (perform (.markMfaSatisfied user.sessionId))

/-- `credentialId` are the bytes of the identifier in the browser's answer. -/
def assertFinish (h : Headers) (ceremonyId : Uuid) (credentialId credential : List UInt8) :
    Handler Response := do
  let user ← SessionUser.fromRequestParts env.toCrates h
  let ceremonies ← requireCeremonies env
  match ← await (perform (.findPasskey (encodeBase64Url credentialId))) with
  | none => throw (.platform (.forbidden "no live passkey matches this assertion"))
  | some row =>
    if row.userId ≠ user.userId then
      throw (.platform (.forbidden "passkey does not belong to this user"))
    if !ceremonies.readable row.credential then throw (.platform (.internal "corrupt passkey"))
    let ceremony ← takeCeremony ceremonyId .assertion
    let (counter, updated) ← verify "finish_passkey_authentication"
      (ceremonies.finishAuthentication ceremony.state row.credential credential)
    await (perform (.recordUse row.id counter updated))
    promote user
    auditUser user.userId "passkey.used"
    return .promoted

def revokePasskey (h : Headers) (id : Uuid) : Handler Response := do
  let actor ← Actor.fromRequestParts env.toCrates h
  await (perform (.revokePasskey actor.userId id))
  auditActor actor "passkey.revoked"
  return .none

/-! ## Recovery codes -/

/-- `recovery_codes::hash`: the code without whitespace and hyphens, in upper case. -/
def hashCode (code : String) : List UInt8 :=
  env.sha256 (String.ofList ((code.toList.filter fun c => !isWhitespace c && c ≠ '-').flatMap
    env.toUppercase))

def recoveryRegenerate (h : Headers) (codes : List String) : Handler Response := do
  let actor ← Actor.fromRequestParts env.toCrates h
  await (perform (.rotateBatch actor.userId (codes.map (hashCode env))))
  auditActor actor "recovery_codes.regenerated"
  return .codes codes

def recoveryRedeem (h : Headers) (code : String) : Handler Response := do
  let user ← SessionUser.fromRequestParts env.toCrates h
  let consumed ← await (perform (.tryConsume user.userId (hashCode env code)))
  if !consumed then
    ignore (auditUser user.userId "recovery_codes.redeem_failed").run
    throw (.platform (.forbidden "recovery code is invalid or already used"))
  promote user
  let _ ← await (perform (.countLive user.userId))
  auditUser user.userId "recovery_codes.redeemed"
  return .promoted

/-! ## Members -/

/-- An `InviteError` as the API reports it. -/
def inviteToApi : InviteError → ApiError
  | .forbidden message => .platform (.forbidden message)
  | .platform error => .platform error

/-- A use case of `MembershipService`. -/
def service {α : Type} (p : Service α) : Handler α :=
  attempt inviteToApi (p.run.embed .directory fun _ r => r)

def requireSelfOrg (actor : Actor) (organizationId : Uuid) : Handler Unit := do
  if actor.organizationId ≠ organizationId then
    throw (.platform (.forbidden "actor's active organization does not match the path"))

def createInvite (h : Headers) (organizationId : Uuid) (email : String) (role : MembershipRole)
    (token : String) : Handler Response := do
  let owner ← OwnerActor.fromRequestParts env.toCrates h
  requireSelfOrg owner.inner organizationId
  let created ← service (MembershipService.createInvite env.sha256 organizationId
    owner.inner.userId email role token)
  return .token created.2

def acceptInvite (h : Headers) (token : String) : Handler Response := do
  let user ← SessionUser.fromRequestParts env.toCrates h
  if !"kinv_".toList.isPrefixOf token.toList then
    throw (.platform (.invalid "invite token must start with the kinv_ prefix"))
  let email ← lookupUserEmail (.notFound ("user/" ++ user.userId.text)) user.userId
  let _ ← service (MembershipService.acceptInvite env.sha256 token user.userId email)
  return .none

def updateRole (h : Headers) (organizationId userId : Uuid) (role : MembershipRole) :
    Handler Response := do
  let owner ← OwnerActor.fromRequestParts env.toCrates h
  requireSelfOrg owner.inner organizationId
  service (MembershipService.updateRole organizationId userId role owner.inner.userId)
  return .none

def removeMember (h : Headers) (organizationId userId : Uuid) : Handler Response := do
  let owner ← OwnerActor.fromRequestParts env.toCrates h
  requireSelfOrg owner.inner organizationId
  service (MembershipService.removeMember organizationId userId owner.inner.userId)
  return .none

/-! ## The pool -/

def Request.handler : Request → Handler Response
  | .asActor h => Response.actor <$> Actor.fromRequestParts env.toCrates h
  | .asOwner h => Response.owner <$> OwnerActor.fromRequestParts env.toCrates h
  | .start state codeVerifier redirectTo => Access.start state codeVerifier redirectTo
  | .callback h code state => Access.callback env h code state
  | .logout h => Access.logout env h
  | .createApiKey h name expiresInDays token => Access.createApiKey env h name expiresInDays token
  | .revokeApiKey h id => Access.revokeApiKey env h id
  | .registerStart h nickname nonce => Access.registerStart env h nickname nonce
  | .registerFinish h ceremonyId register => Access.registerFinish env h ceremonyId register
  | .assertStart h nonce => Access.assertStart env h nonce
  | .assertFinish h ceremonyId credentialId credential =>
    Access.assertFinish env h ceremonyId credentialId credential
  | .revokePasskey h id => Access.revokePasskey env h id
  | .recoveryRegenerate h codes => Access.recoveryRegenerate env h codes
  | .recoveryRedeem h code => Access.recoveryRedeem env h code
  | .createInvite h organizationId email role token =>
    Access.createInvite env h organizationId email role token
  | .acceptInvite h token => Access.acceptInvite env h token
  | .updateRole h organizationId userId role => Access.updateRole env h organizationId userId role
  | .removeMember h organizationId userId => Access.removeMember env h organizationId userId

/-- Any number of requests, interleaved between their calls. -/
def accessPool : Pool access Accounts Request Outcome (Except ApiError Response) where
  prog := fun r => (r.handler env).run
  external := fun _ => true
  answer := fun w _ c x => let (w, r) := w.answer c x; some (w, r, [])

end

end Kubinate.Access
