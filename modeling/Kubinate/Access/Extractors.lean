import Kubinate.Access.Accounts
import Kubinate.Identity.MembershipService

/-!
# The extractors

`crates/api/src/actor.rs` with the dev-header mode off: who a request is made by
(`SessionUser`), for which organization (`Actor`), and whether it may use a route of owners
and admins (`OwnerActor`).

A header that is not text counts as absent. `Uuid::parse_str`, SHA-256 and the upper case of
Unicode are parameters.
-/

namespace Kubinate.Access

open Platform Library Identity

/-- The code of other crates and of the standard library that the handlers call. -/
structure Crates where
  parseUuid : String → Option Uuid
  sha256 : String → List UInt8
  /-- `char::to_uppercase` -/
  toUppercase : Char → List Char

/-- The headers that the extractors read. -/
structure Headers where
  cookie : Option String := none
  authorization : Option String := none
  organizationId : Option String := none
deriving DecidableEq, Repr

/-- A rejection of an extractor, or the error of a handler. -/
inductive ApiError where
  | reject (status : Nat) (message : String)
  | platform (error : PlatformError)
deriving DecidableEq, Repr

abbrev Handler := ExceptT ApiError (Program access)

def perform (c : AccessCall) : Program access c.Answer := Program.perform (I := access) c

/-- A query of an extractor, with what it is rejected with when the query fails. -/
def attempt {ε α : Type} (f : ε → ApiError) (p : Program access (Except ε α)) : Handler α :=
  ExceptT.mk (Except.mapError f <$> p)

/-- `.await?` on a call of a repository. -/
def await {α : Type} (p : Program access (Except PlatformError α)) : Handler α :=
  attempt .platform p

/-- `str::strip_prefix`. -/
def stripPrefix? (start text : String) : Option String :=
  if start.toList.isPrefixOf text.toList
  then some (String.ofList (text.toList.drop start.toList.length)) else none

def sessionCookie : String := "kubinate_session"

def tokenMark : String := "kpat_"

structure Actor where
  userId : Uuid
  sessionId : Uuid
  organizationId : Uuid
deriving DecidableEq, Repr

structure SessionUser where
  userId : Uuid
  sessionId : Uuid
deriving DecidableEq, Repr

structure OwnerActor where
  inner : Actor
  role : MembershipRole
deriving DecidableEq, Repr

section

variable (env : Crates)

/-- The first cookie of that name decides, even when its value is not a UUID. -/
def extractSessionCookie (h : Headers) : Option Uuid := do
  let raw ← h.cookie
  let pairs := (raw.toList.splitOn ';').map fun pair => trim (String.ofList pair)
  let rest ← pairs.findSome? (stripPrefix? (sessionCookie ++ "="))
  env.parseUuid rest

def extractBearerToken (h : Headers) : Option String := do
  stripPrefix? "Bearer " (← h.authorization)

/-- The live session of the request's cookie. -/
def resolveCookie (h : Headers) : Handler (Option Session) := do
  match extractSessionCookie env h with
  | none => return none
  | some id =>
    attempt (fun _ => .reject 500 "session lookup failed") (perform (.resolveSession id))

def resolveOrganization (h : Headers) (userId : Uuid) : Handler Uuid := do
  match h.organizationId.bind env.parseUuid with
  | some headerOrg =>
    let count ← attempt (fun _ => .reject 500 "membership check failed")
      (perform (.countMemberships userId headerOrg))
    if count = 0 then throw (.reject 403 "not a member of that organization")
    return headerOrg
  | none =>
    let row ← attempt (fun _ => .reject 500 "membership lookup failed")
      (perform (.latestMembership userId))
    match row with
    | some org => return org
    | none => throw (.reject 403 "user has no active organization membership")

def resolveApiKey (token : String) : Handler (Option Actor) := do
  let row ← attempt (.reject 500) (perform (.findApiKey (env.sha256 token)))
  return row.map fun (userId, organizationId) => ⟨userId, Uuid.nil, organizationId⟩

/-- The bearer path: a token that is no API key is left to the dev header. -/
def authenticateBearer (h : Headers) : Handler Actor := do
  match extractBearerToken h with
  | some token =>
    if tokenMark.toList.isPrefixOf token.toList then
      match ← resolveApiKey env token with
      | some actor => return actor
      | none => throw (.reject 401 "invalid or revoked API key")
    else throw (.reject 401 "authentication required")
  | none => throw (.reject 401 "authentication required")

def Actor.fromRequestParts (h : Headers) : Handler Actor := do
  match ← resolveCookie env h with
  | some session =>
    let orgId ← resolveOrganization env h session.userId
    return ⟨session.userId, session.id, orgId⟩
  | none => authenticateBearer env h

def SessionUser.fromRequestParts (h : Headers) : Handler SessionUser := do
  match ← resolveCookie env h with
  | some session => return ⟨session.userId, session.id⟩
  | none => throw (.reject 401 "authentication required")

/-- The MFA gate, which requests without a session do not pass through. -/
def requireMfa (actor : Actor) : Handler Unit := do
  if actor.sessionId ≠ Uuid.nil then
    let satisfied ← attempt (fun _ => .reject 500 "session mfa-state lookup failed")
      (perform (.sessionMfa actor.sessionId))
    if satisfied ≠ some true then
      throw (.platform (.mfaRequired "WebAuthn assertion required for this action"))

def OwnerActor.fromRequestParts (h : Headers) : Handler OwnerActor := do
  let actor ← Actor.fromRequestParts env h
  requireMfa actor
  let role ← attempt (fun _ => .reject 500 "role lookup failed")
    (perform (.membershipRole actor.userId actor.organizationId))
  match role with
  | none => throw (.reject 403 "no membership in the active organization")
  | some .owner => return ⟨actor, .owner⟩
  | some .admin => return ⟨actor, .admin⟩
  | some .developer | some .viewer =>
    throw (.reject 403 "this action requires Owner or Admin role")

end

end Kubinate.Access
