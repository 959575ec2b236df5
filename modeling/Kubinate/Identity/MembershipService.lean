import Kubinate.Identity.Directory
import Kubinate.Platform.Text

/-!
# Invites and memberships

The use cases of `MembershipService` in `crates/identity/src/service.rs` that change
memberships or invites: `create_invite`, `accept_invite`, `update_role` and `remove_member`,
with the gate `require_member_management`. The hash of an invite token is SHA-256, a
parameter here.
-/

namespace Kubinate.Identity

open Platform Library

inductive InviteError where
  | forbidden (message : String)
  | platform (error : PlatformError)
deriving DecidableEq, Repr

abbrev Service := ExceptT InviteError (Program directory)

/-- `.await?` on a repository method. -/
def repository {α : Type} (p : Program directory (Except PlatformError α)) : Service α :=
  ExceptT.mk (p >>= fun r =>
    match r with
    | .ok a => pure (.ok a)
    | .error e => pure (.error (.platform e)))

def ask (c : DirectoryCall) : Program directory c.Answer := Program.perform (I := directory) c

/-- Seven days in microseconds. -/
def inviteTtl : Timestamp := 7 * 24 * 60 * 60 * 1000000

/-- The display prefix of a token: `kinv_` and four more characters. -/
def tokenPrefix (token : String) : String := String.ofList (token.toList.take 9)

namespace MembershipService

def requireMemberManagement (organizationId actorUserId : Uuid) : Service MembershipRole := do
  let role ← repository (ask (.roleOf organizationId actorUserId))
  match role with
  | none => throw (.forbidden "not a member of this organization")
  | some role =>
    if !role.canManageMembers then throw (.forbidden "only owners and admins can manage members")
    return role

section

variable (sha256 : String → List UInt8)

/-- The token is the one that `generate_token` draws. -/
def createInvite (organizationId actorUserId : Uuid) (email : String) (role : MembershipRole)
    (token : String) : Service (Invite × String) := do
  let _ ← requireMemberManagement organizationId actorUserId
  let now : Timestamp ← ExceptT.lift (ask .now)
  let invite ← repository (ask (.insertInvite organizationId (trim email) role (sha256 token)
    (tokenPrefix token) actorUserId (now + inviteTtl)))
  return (invite, token)

def acceptInvite (token : String) (userId : Uuid) (userEmail : String) : Service Invite := do
  let found ← repository (ask (.getByHash (sha256 token)))
  match found with
  | none => throw (.forbidden "invite not found")
  | some invite =>
    let now : Timestamp ← ExceptT.lift (ask .now)
    if !invite.isLive now then
      throw (.forbidden "invite is expired, revoked, or already accepted")
    if !eqIgnoreAsciiCase invite.email userEmail then
      throw (.forbidden "invite email does not match the logged-in user")
    repository (ask (.markAccepted invite.id userId))
    repository (ask (.insertMembership invite.organizationId userId invite.role))
    return invite

end

/-- The check that `update_role` makes before it takes the owner role from somebody. -/
def refuseLastOwner (organizationId targetUserId : Uuid) : Service Unit := do
  let current ← repository (ask (.roleOf organizationId targetUserId))
  if current = some .owner then
    let members ← repository (ask (.listMembers organizationId))
    if members.countP (·.role = .owner) ≤ 1 then
      throw (.forbidden "cannot demote the last owner of the organization")

def updateRole (organizationId targetUserId : Uuid) (newRole : MembershipRole)
    (actorUserId : Uuid) : Service Unit := do
  let _ ← requireMemberManagement organizationId actorUserId
  -- promotions to owner are always fine
  if newRole ≠ .owner then refuseLastOwner organizationId targetUserId
  repository (ask (.updateRole organizationId targetUserId newRole))

def removeMember (organizationId targetUserId actorUserId : Uuid) : Service Unit := do
  let _ ← requireMemberManagement organizationId actorUserId
  if targetUserId = actorUserId then
    throw (.forbidden "use the leave-org flow to remove yourself")
  repository (ask (.softDelete organizationId targetUserId))

end MembershipService

/-- The operations that change memberships or invites. -/
inductive MembershipOp where
  | createInvite (organizationId actorUserId : Uuid) (email : String) (role : MembershipRole)
      (token : String)
  | acceptInvite (token : String) (userId : Uuid) (userEmail : String)
  | updateRole (organizationId targetUserId : Uuid) (newRole : MembershipRole) (actorUserId : Uuid)
  | removeMember (organizationId targetUserId actorUserId : Uuid)

def MembershipOp.program (sha256 : String → List UInt8) : MembershipOp → Program directory Unit
  | .createInvite organizationId actorUserId email role token => do
    let _ ← (MembershipService.createInvite sha256 organizationId actorUserId email role token).run
  | .acceptInvite token userId userEmail => do
    let _ ← (MembershipService.acceptInvite sha256 token userId userEmail).run
  | .updateRole organizationId targetUserId newRole actorUserId => do
    let _ ← (MembershipService.updateRole organizationId targetUserId newRole actorUserId).run
  | .removeMember organizationId targetUserId actorUserId => do
    let _ ← (MembershipService.removeMember organizationId targetUserId actorUserId).run

/-- Any number of operations by any callers, interleaved between their repository calls. -/
def servicePool (sha256 : String → List UInt8) :
    Pool directory Directory MembershipOp Outcome Unit where
  prog := MembershipOp.program sha256
  external := fun _ => true
  answer := fun d _ c x => let (d, r) := d.answer c x; some (d, r, [])

end Kubinate.Identity
