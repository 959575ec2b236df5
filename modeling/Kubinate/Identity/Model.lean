import Kubinate.Platform.Types

/-!
# Entities of the identity context

The rows of `users`, `memberships`, `invites` and `user_passkeys`
(`crates/identity/src/model.rs` and the migrations), with the columns the code reads.
-/

namespace Kubinate.Identity

open Platform

/-- The SQL enum `membership_role`. -/
inductive MembershipRole where
  | owner
  | admin
  | developer
  | viewer
deriving DecidableEq, Repr

/-- Whether a holder can invite or change other members' roles. -/
def MembershipRole.canManageMembers : MembershipRole → Bool
  | .owner | .admin => true
  | .developer | .viewer => false

structure User where
  id : Uuid
  email : String
  displayName : String
  mfaEnrolled : Bool
  requiresMfa : Bool
deriving DecidableEq, Repr

structure Membership where
  id : Uuid
  organizationId : Uuid
  userId : Uuid
  role : MembershipRole
  createdAt : Timestamp
  deletedAt : Option Timestamp
deriving DecidableEq, Repr

def Membership.isLive (m : Membership) : Bool := m.deletedAt.isNone

/-- A live membership with a role for which MFA is required. -/
def Membership.isPrivileged (m : Membership) : Bool :=
  m.isLive && (m.role == .owner || m.role == .admin)

/-- A member with the fields that the members page and the owner count read. -/
structure MembershipView where
  id : Uuid
  userId : Uuid
  email : String
  displayName : String
  role : MembershipRole
  joinedAt : Timestamp
deriving DecidableEq, Repr

structure Invite where
  id : Uuid
  organizationId : Uuid
  email : String
  role : MembershipRole
  tokenPrefix : String
  acceptedAt : Option Timestamp
  revokedAt : Option Timestamp
  expiresAt : Timestamp
  createdAt : Timestamp
deriving DecidableEq, Repr

/-- Neither accepted nor revoked, and not past its expiry. -/
def Invite.isLive (i : Invite) (now : Timestamp) : Bool :=
  i.acceptedAt.isNone && i.revokedAt.isNone && i.expiresAt > now

/-- A row of `invites`: the entity with the hash of its token and the users involved. -/
structure InviteRow extends Invite where
  tokenHash : List UInt8
  invitedBy : Option Uuid
  acceptedBy : Option Uuid
deriving DecidableEq, Repr

structure Passkey where
  id : Uuid
  userId : Uuid
  credentialId : String
  credential : List UInt8
  signCounter : Int
  nickname : String
  registeredAt : Timestamp
  lastUsedAt : Option Timestamp
  revokedAt : Option Timestamp
deriving DecidableEq, Repr

def Passkey.isLive (p : Passkey) : Bool := p.revokedAt.isNone

end Kubinate.Identity
