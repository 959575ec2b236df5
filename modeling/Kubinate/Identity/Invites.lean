import Kubinate.Identity.MembershipService
import Kubinate.Identity.Owners

/-!
# Invites are single-use

`accept_invite` checks the invite that it has read, and only then consumes it, in another
transaction. Whatever happened in between is decided by the condition of that update:
`accepted_at IS NULL AND revoked_at IS NULL AND expires_at > now()`, where `now()` is the
start of the transaction. `revoke_invite` updates under the first two conditions, so a row
that is accepted or revoked is never written again.

* `Kept`: what any statement leaves of an invite, and that a settled one is left alone.
* `acceptInvite_ends`: what `accept_invite` has called when it succeeds.
* `invites_single_use`: in every run at most one `accept_invite` succeeds for a token, with an
  invite that was live and addressed to the caller, who is then a member with its role.
-/

namespace Kubinate.Identity

open Platform Library

/-! ## Calls and operations -/

/-- The calls of the directory with `InviteRepository::revoke`. -/
inductive InviteCall where
  | directory (c : DirectoryCall)
  | revoke (organizationId id : Uuid)
deriving DecidableEq

@[reducible]
def InviteCall.Answer : InviteCall → Type
  | .directory c => c.Answer
  | .revoke .. => Except PlatformError Unit

abbrev inviting : Interface where
  Call := InviteCall
  Answer := InviteCall.Answer

namespace Directory

/-- `PgInviteRepository::revoke`. -/
def revoke (d : Directory) (now : Timestamp) (organizationId id : Uuid) : Directory :=
  { d with
    db := { d.db with
      invites := d.db.invites.map fun i =>
        if i.id == id && i.revokedAt.isNone && i.acceptedAt.isNone &&
            (!d.enforceRls || i.organizationId == organizationId)
        then { i with revokedAt := some now } else i } }

/-- The time in an outcome is the `now()` of the call's transaction. -/
def answerInvite (d : Directory) (c : InviteCall) (x : Outcome) : Directory × c.Answer :=
  match c with
  | .directory c => d.answer c x
  | .revoke organizationId id =>
    match x.reply with
    | .ok => (d.revoke x.now organizationId id, .ok ())
    | .failed => (d, .error (.database .connection))
    | .lost => (d.revoke x.now organizationId id, .error (.database .connection))

end Directory

inductive InviteOp where
  | createInvite (organizationId actorUserId : Uuid) (email : String) (role : MembershipRole)
      (token : String)
  | acceptInvite (token : String) (userId : Uuid) (userEmail : String)
  | revokeInvite (organizationId inviteId actorUserId : Uuid)
  | updateRole (organizationId targetUserId : Uuid) (newRole : MembershipRole) (actorUserId : Uuid)
  | removeMember (organizationId targetUserId actorUserId : Uuid)
deriving DecidableEq

/-- A use case that only uses the directory. -/
def withinDirectory {α : Type} (p : Service α) : ExceptT InviteError (Program inviting) α :=
  ExceptT.mk (p.run.embed .directory fun _ r => r)

def revokeInvite (organizationId inviteId actorUserId : Uuid) :
    ExceptT InviteError (Program inviting) Unit := do
  let _ ← withinDirectory (MembershipService.requireMemberManagement organizationId actorUserId)
  ExceptT.mk (Program.perform (I := inviting) (.revoke organizationId inviteId) >>= fun r =>
    pure (r.mapError .platform))

/-- An operation ends with the invite that it created or accepted. -/
def InviteOp.program (sha256 : String → List UInt8) :
    InviteOp → Program inviting (Except InviteError (Option Invite))
  | .createInvite organizationId actorUserId email role token => ExceptT.run do
    let created ← withinDirectory
      (MembershipService.createInvite sha256 organizationId actorUserId email role token)
    return some created.1
  | .acceptInvite token userId userEmail => ExceptT.run do
    let invite ← withinDirectory (MembershipService.acceptInvite sha256 token userId userEmail)
    return some invite
  | .revokeInvite organizationId inviteId actorUserId => ExceptT.run do
    Identity.revokeInvite organizationId inviteId actorUserId
    return none
  | .updateRole organizationId targetUserId newRole actorUserId => ExceptT.run do
    withinDirectory
      (MembershipService.updateRole organizationId targetUserId newRole actorUserId)
    return none
  | .removeMember organizationId targetUserId actorUserId => ExceptT.run do
    withinDirectory (MembershipService.removeMember organizationId targetUserId actorUserId)
    return none

/-- Any number of operations by any callers, interleaved between their repository calls. -/
def invitePool (sha256 : String → List UInt8) :
    Pool inviting Directory InviteOp Outcome (Except InviteError (Option Invite)) where
  prog := InviteOp.program sha256
  external := fun _ => true
  answer := fun d _ c x => let (d, r) := d.answerInvite c x; some (d, r, [])

/-! ## What the statements leave of an invite -/

/-- Accepted or revoked. -/
def Invite.isSettled (i : Invite) : Bool := i.acceptedAt.isSome || i.revokedAt.isSome

/-- Everything but the settlement of an invite is fixed, and so is all of it once it is settled. -/
structure Kept (i i' : InviteRow) : Prop where
  fixed : { i' with
    acceptedAt := i.acceptedAt, revokedAt := i.revokedAt, acceptedBy := i.acceptedBy } = i
  settled : i.isSettled = true → i' = i

theorem Kept.refl (i : InviteRow) : Kept i i := ⟨rfl, fun _ => rfl⟩

theorem Kept.trans {i i' i'' : InviteRow} (h : Kept i i') (h' : Kept i' i'') : Kept i i'' where
  fixed := by
    rw [← h.fixed, ← h'.fixed]
  settled := fun hi => by
    obtain rfl := h.settled hi
    exact h'.settled hi

theorem Kept.id_eq {i i' : InviteRow} (h : Kept i i') : i'.id = i.id := by
  rw [← h.fixed]

theorem Kept.tokenHash_eq {i i' : InviteRow} (h : Kept i i') : i'.tokenHash = i.tokenHash := by
  rw [← h.fixed]

/-- What was read of an invite that was live, it still has while it is live. -/
theorem Kept.toInvite_eq {i i' : InviteRow} {now now' : Timestamp} (h : Kept i i')
    (hi : i.isLive now = true) (hi' : i'.isLive now' = true) : i'.toInvite = i.toInvite := by
  simp only [Invite.isLive, Bool.and_eq_true, Option.isNone_iff_eq_none] at hi hi'
  have haccepted : i'.acceptedAt = i.acceptedAt := hi'.1.1.trans hi.1.1.symm
  have hrevoked : i'.revokedAt = i.revokedAt := hi'.1.2.trans hi.1.2.symm
  rw [← h.fixed, ← haccepted, ← hrevoked]

/-- The unique indexes of `invites`. -/
structure InvitesUnique (rows : List InviteRow) : Prop where
  ids : (rows.map (·.id)).Nodup
  tokenHashes : (rows.map (·.tokenHash)).Nodup

/-- What a statement does to the table: it settles rows that are not settled, or adds one whose
id and token are new. -/
def InvitesStep (rows rows' : List InviteRow) : Prop :=
  (∃ f : InviteRow → InviteRow, (∀ i, Kept i (f i)) ∧ rows' = rows.map f) ∨
    ∃ row : InviteRow, (∀ i ∈ rows, i.id ≠ row.id ∧ i.tokenHash ≠ row.tokenHash) ∧
      rows' = rows ++ [row]

theorem invitesStep_refl {rows rows' : List InviteRow} (h : rows' = rows) : InvitesStep rows rows' :=
  .inl ⟨id, Kept.refl, h.trans (List.map_id _).symm⟩

theorem InvitesStep.kept {rows rows' : List InviteRow} (h : InvitesStep rows rows') {i : InviteRow}
    (hi : i ∈ rows) : ∃ i' ∈ rows', Kept i i' := by
  rcases h with ⟨f, hf, rfl⟩ | ⟨row, -, rfl⟩
  · exact ⟨f i, List.mem_map_of_mem hi, hf i⟩
  · exact ⟨i, List.mem_append_left _ hi, Kept.refl i⟩

/-- A column that no statement changes, and in which a new row has a value of its own, stays
unique. -/
theorem InvitesStep.nodup {α : Type} {rows rows' : List InviteRow} {column : InviteRow → α}
    (h : InvitesStep rows rows') (hkept : ∀ i i', Kept i i' → column i' = column i)
    (hfresh : ∀ i i' : InviteRow, i.id ≠ i'.id ∧ i.tokenHash ≠ i'.tokenHash → column i ≠ column i')
    (hrows : (rows.map column).Nodup) : (rows'.map column).Nodup := by
  rcases h with ⟨f, hf, rfl⟩ | ⟨row, hnew, rfl⟩
  · have hsame : (rows.map f).map column = rows.map column := by
      rw [List.map_map]
      exact List.map_congr_left fun i _ => hkept i (f i) (hf i)
    rw [hsame]
    exact hrows
  · rw [List.map_append]
    refine List.nodup_append.mpr ⟨hrows, List.nodup_singleton _, ?_⟩
    intro a ha b hb
    obtain ⟨i, hi, rfl⟩ := List.mem_map.mp ha
    cases List.mem_singleton.mp hb
    exact hfresh i row (hnew i hi)

theorem InvitesStep.unique {rows rows' : List InviteRow} (h : InvitesStep rows rows')
    (hrows : InvitesUnique rows) : InvitesUnique rows' where
  ids := h.nodup (fun _ _ hkept => hkept.id_eq) (fun _ _ hne => hne.1) hrows.ids
  tokenHashes := h.nodup (fun _ _ hkept => hkept.tokenHash_eq) (fun _ _ hne => hne.2) hrows.tokenHashes

namespace Directory

variable {d : Directory} {x : Outcome}

theorem revoke_invites (now : Timestamp) (organizationId id : Uuid) :
    InvitesStep d.db.invites (d.revoke now organizationId id).db.invites := by
  refine .inl ⟨_, fun i => ?_, rfl⟩
  split
  · next h =>
    simp only [Bool.and_eq_true, Option.isNone_iff_eq_none] at h
    exact ⟨rfl, fun hi => by simp [Invite.isSettled, h.1.1.2, h.1.2] at hi⟩
  · exact Kept.refl i

/-- The update of `mark_accepted` takes the row that its condition allows. -/
theorem markAccepted_invites (now : Timestamp) (id acceptedBy : Uuid) :
    InvitesStep d.db.invites (d.markAccepted now id acceptedBy).1.db.invites := by
  unfold markAccepted
  split
  · exact invitesStep_refl rfl
  · split
    · refine .inl ⟨_, fun i => ?_, rfl⟩
      split
      · next h =>
        simp only [Invite.isLive, Bool.and_eq_true, Option.isNone_iff_eq_none] at h
        exact ⟨rfl, fun hi => by simp [Invite.isSettled, h.2.1.1, h.2.1.2] at hi⟩
      · exact Kept.refl i
    · exact invitesStep_refl rfl

theorem insertInvite_invites (row : InviteRow) :
    InvitesStep d.db.invites (d.insertInvite row).1.db.invites := by
  unfold insertInvite
  split
  · exact invitesStep_refl rfl
  · next hfresh =>
    split
    · exact invitesStep_refl rfl
    · refine .inr ⟨row, fun i hi => ?_, rfl⟩
      have hnot := List.any_eq_false.mp (Bool.eq_false_iff.mpr hfresh) i hi
      simp only [Bool.or_eq_true, beq_iff_eq, not_or] at hnot
      exact hnot.1

theorem execute_invites (c : DirectoryCall) :
    InvitesStep d.db.invites (d.execute x c).1.db.invites := by
  have hwrite (m : MembershipStatement) :
      (d.writeMembership m).1.db.invites = d.db.invites := by
    unfold Directory.writeMembership
    cases h : d.db.writeMembership d.enforceRls m with
    | ok r => exact (Database.writeMembership_frame h).2
    | error e => rfl
  cases c with
  | insertMembership organizationId userId role =>
    exact invitesStep_refl (hwrite (.upsert x.id x.now organizationId userId role))
  | updateRole organizationId userId role =>
    exact invitesStep_refl (hwrite (.updateRole organizationId userId role))
  | softDelete organizationId userId =>
    exact invitesStep_refl (hwrite (.softDelete x.now organizationId userId))
  | insertInvite => exact insertInvite_invites _
  | markAccepted id acceptedBy => exact markAccepted_invites _ _ _
  | now | roleOf | listMembers | getByHash => exact invitesStep_refl rfl

theorem answerInvite_invites (c : InviteCall) :
    InvitesStep d.db.invites (d.answerInvite c x).1.db.invites := by
  cases c with
  | directory c =>
    simp only [answerInvite, answer]
    cases x.reply with
    | failed => exact invitesStep_refl rfl
    | ok | lost => exact execute_invites c
  | revoke organizationId id =>
    simp only [answerInvite]
    cases x.reply with
    | failed => exact invitesStep_refl rfl
    | ok | lost => exact revoke_invites _ _ _

/-! ### What an answer says -/

theorem row_of_getByHash {tokenHash : List UInt8} {i : Invite}
    (h : (d.answerInvite (.directory (.getByHash tokenHash)) x).2 = .ok (some i)) :
    ∃ row ∈ d.db.invites, row.tokenHash = tokenHash ∧ row.toInvite = i := by
  cases hx : x.reply with
  | failed | lost => simp [answerInvite, answer, hx, broken] at h
  | ok =>
    simp only [answerInvite, answer, hx, execute, Except.ok.injEq, Option.map_eq_some_iff] at h
    obtain ⟨row, hfind, hrow⟩ := h
    have hhash := List.find?_some hfind
    exact ⟨row, List.mem_of_mem_filter (List.mem_of_find?_eq_some hfind), beq_iff_eq.mp hhash, hrow⟩

/-- An update that reports success has found the invite live, and has accepted it. -/
theorem row_of_markAccepted {id acceptedBy : Uuid}
    (h : (d.answerInvite (.directory (.markAccepted id acceptedBy)) x).2 = .ok ()) :
    ∃ row ∈ d.db.invites, row.id = id ∧ row.isLive x.now = true ∧
      { row with acceptedAt := some x.now, acceptedBy := some acceptedBy } ∈
        (d.answerInvite (.directory (.markAccepted id acceptedBy)) x).1.db.invites := by
  cases hx : x.reply with
  | failed | lost => simp [answerInvite, answer, hx, broken] at h
  | ok =>
    simp only [answerInvite, answer, hx, execute, markAccepted] at h ⊢
    split at h
    · cases h
    · split at h
      · next hany =>
        obtain ⟨row, hrow, hlive⟩ := List.any_eq_true.mp hany
        have hboth := (Bool.and_eq_true _ _ ▸ hlive)
        refine ⟨row, hrow, beq_iff_eq.mp hboth.1, hboth.2, ?_⟩
        rw [if_pos hany]
        exact List.mem_map.mpr ⟨row, hrow, if_pos hlive⟩
      · cases h

/-- An insert that reports success has left the user with a live membership of this role. -/
theorem member_of_insertMembership {organizationId userId : Uuid} {role : MembershipRole}
    (h : (d.answerInvite (.directory (.insertMembership organizationId userId role)) x).2 = .ok ()) :
    ∃ m ∈ (d.answerInvite (.directory (.insertMembership organizationId userId role)) x).1.db.memberships,
      m.isOf organizationId userId = true ∧ m.isLive = true ∧ m.role = role := by
  cases hx : x.reply with
  | failed | lost => simp [answerInvite, answer, hx, broken] at h
  | ok =>
    simp only [answerInvite, answer, hx, execute] at h ⊢
    cases hwrite : d.db.writeMembership d.enforceRls
      (.upsert x.id x.now organizationId userId role) with
    | error e =>
      simp only [writeMembership, hwrite] at h
      cases h
    | ok r =>
      obtain ⟨db, n⟩ := r
      obtain ⟨db₁, hchange, heq⟩ := Database.writeMembership_cases hwrite
      simp only [writeMembership, hwrite]
      rw [heq]
      exact Database.member_of_upsert hchange

end Directory

/-! ## What `accept_invite` has called -/

section Accept

variable (sha256 : String → List UInt8)

/-- The calls of an `accept_invite` that succeeds, with their answers. -/
def acceptTrace (token : String) (userId : Uuid) (invite : Invite) (now : Timestamp) :
    Trace directory :=
  [⟨.getByHash (sha256 token), .ok (some invite)⟩, ⟨.now, now⟩,
    ⟨.markAccepted invite.id userId, .ok ()⟩,
    ⟨.insertMembership invite.organizationId userId invite.role, .ok ()⟩]

/-- The checks that it has made on what it read. -/
def Checked (invite : Invite) (userEmail : String) (now : Timestamp) : Prop :=
  invite.isLive now = true ∧ eqIgnoreAsciiCase invite.email userEmail = true

theorem acceptInvite_ends (token : String) (userId : Uuid) (userEmail : String) :
    Meets (fun _ _ => True) (fun _ _ _ => True)
      (fun τ r => ∀ invite, r = .ok invite → ∃ now, τ = acceptTrace sha256 token userId invite now ∧
        Checked invite userEmail now)
      (MembershipService.acceptInvite sha256 token userId userEmail).run [] := by
  refine ⟨trivial, fun found _ => ?_⟩
  rcases found with e | _ | invite
  · exact nofun
  · exact nofun
  refine ⟨trivial, fun now _ => ?_⟩
  refine meets_iteE.mpr ⟨fun _ => nofun, fun hlive => ?_⟩
  refine meets_iteE.mpr ⟨fun _ => nofun, fun hemail => ?_⟩
  refine ⟨trivial, fun marked _ => ?_⟩
  rcases marked with e | ⟨⟩
  · exact nofun
  refine ⟨trivial, fun inserted _ => ?_⟩
  rcases inserted with e | ⟨⟩
  · exact nofun
  rintro _ ⟨⟩
  exact ⟨now, rfl, by simpa using hlive, by simpa using hemail⟩

/-- The same entries, as calls of `inviting`. -/
def liftTrace (τ : Trace directory) : Trace inviting := τ.map fun e => ⟨.directory e.1, e.2⟩

theorem liftTrace_concat (τ : Trace directory) (τ' : Trace inviting) (c : DirectoryCall)
    (r : c.Answer) (h : τ' = liftTrace τ) :
    τ' ++ [⟨.directory c, r⟩] = liftTrace (τ ++ [⟨c, r⟩]) := by
  rw [h, liftTrace, liftTrace, List.map_append]
  rfl

/-- How an operation ends: what it has called, if it has accepted an invite. -/
def InviteOp.Ends : InviteOp → Trace inviting → Except InviteError (Option Invite) → Prop
  | .acceptInvite token userId userEmail, τ, .ok (some invite) =>
    ∃ now, τ = liftTrace (acceptTrace sha256 token userId invite now) ∧
      Checked invite userEmail now
  | _, _, _ => True

theorem inviteOp_ends (op : InviteOp) :
    Meets (fun _ _ => True) (fun _ _ _ => True) (op.Ends sha256) (op.program sha256) [] := by
  cases op with
  | acceptInvite token userId userEmail =>
    refine meets_bindE (Q := fun τ r => ∀ invite, r = .ok invite → ∃ now,
      τ = liftTrace (acceptTrace sha256 token userId invite now) ∧ Checked invite userEmail now)
      ?_ ?_ ?_
    · refine meets_embed (F := fun τ τ' => τ' = liftTrace τ)
        (acceptInvite_ends sha256 token userId userEmail) (fun _ _ _ _ hcall => hcall)
        liftTrace_concat ?_ rfl
      · rintro τ _ r rfl hends invite hr
        obtain ⟨now, rfl, hchecked⟩ := hends invite hr
        exact ⟨now, rfl, hchecked⟩
    · exact fun τ invite hends => hends invite rfl
    · exact fun _ _ _ => trivial
  | createInvite | revokeInvite | updateRole | removeMember =>
    exact meets_mono (meets_true _) (fun _ _ h => h) fun _ _ _ => trivial

end Accept

/-! ## Runs -/

section Runs

variable {sha256 : String → List UInt8} {d : Directory} {as : List (Act InviteOp Outcome)}
  {s s' : PoolState inviting Directory InviteOp (Except InviteError (Option Invite))}

theorem invitePool_answer {d d' : Directory} {i : Nat} {c : inviting.Call} {x : Outcome}
    {r : inviting.Answer c} {js : List InviteOp}
    (h : (invitePool sha256).answer d i c x = some (d', r, js)) :
    d' = (d.answerInvite c x).1 ∧ r = (d.answerInvite c x).2 := by
  cases h
  exact ⟨rfl, rfl⟩

/-- Each step of a run is a step of the table. -/
theorem step_invites {a : Act InviteOp Outcome} (h : (invitePool sha256).step s a = some s') :
    InvitesStep s.world.db.invites s'.world.db.invites := by
  cases a with
  | start op =>
    obtain ⟨-, rfl⟩ := Pool.step_start.mp h
    exact invitesStep_refl rfl
  | step i x =>
    obtain ⟨t, c, k, d', r, js, -, -, ha, rfl⟩ := Pool.step_step.mp h
    obtain ⟨rfl, -⟩ := invitePool_answer ha
    exact Directory.answerInvite_invites c

theorem exec_invitesUnique (hd : InvitesUnique s.world.db.invites)
    (h : (invitePool sha256).exec s as = some s') : InvitesUnique s'.world.db.invites :=
  Pool.exec_invariant (C := fun _ _ => true)
    (Q := fun s : PoolState inviting Directory InviteOp (Except InviteError (Option Invite)) =>
      InvitesUnique s.world.db.invites) (fun _ _ _ hs _ hstep => (step_invites hstep).unique hs) hd
    (Pool.allSteps_of_forall fun _ _ _ => rfl) h

theorem exec_kept {i : InviteRow} (hi : i ∈ s.world.db.invites)
    (h : (invitePool sha256).exec s as = some s') : ∃ i' ∈ s'.world.db.invites, Kept i i' := by
  refine Pool.exec_invariant (C := fun _ _ => true)
    (Q := fun s : PoolState inviting Directory InviteOp (Except InviteError (Option Invite)) =>
      ∃ i' ∈ s.world.db.invites, Kept i i') ?_ ⟨i, hi, Kept.refl i⟩
    (Pool.allSteps_of_forall fun _ _ _ => rfl) h
  intro s a s' ⟨i', hi', hkept⟩ _ hstep
  obtain ⟨i'', hi'', hkept'⟩ := (step_invites hstep).kept hi'
  exact ⟨i'', hi'', hkept.trans hkept'⟩

/-- A settled invite is never written again. -/
theorem exec_settled {i : InviteRow} (hi : i ∈ s.world.db.invites) (hsettled : i.isSettled = true)
    (h : (invitePool sha256).exec s as = some s') : i ∈ s'.world.db.invites := by
  obtain ⟨i', hi', hkept⟩ := exec_kept hi h
  exact hkept.settled hsettled ▸ hi'

variable (sha256 d)

/-- After this schedule slot `i` makes the accepting update of the invite, which takes effect: the
row is neither accepted nor revoked, and not expired at the start of the transaction. -/
def AcceptedAt (as : List (Act InviteOp Outcome)) (i : Nat) (x : Outcome) (userId : Uuid)
    (row : InviteRow) : Prop :=
  ∃ s s', (invitePool sha256).exec (Pool.init d) as = some s ∧
    (invitePool sha256).step s (.step i x) = some s' ∧
    s.nextCall i = some (.directory (.markAccepted row.id userId)) ∧
    row ∈ s.world.db.invites ∧ row.isLive x.now = true ∧
    { row with acceptedAt := some x.now, acceptedBy := some userId } ∈ s'.world.db.invites

/-- After this schedule slot `i` writes the membership, which is then there. -/
def JoinedAt (as : List (Act InviteOp Outcome)) (i : Nat) (x : Outcome) (userId : Uuid)
    (invite : Invite) : Prop :=
  ∃ s s', (invitePool sha256).exec (Pool.init d) as = some s ∧
    (invitePool sha256).step s (.step i x) = some s' ∧
    s.nextCall i = some (.directory (.insertMembership invite.organizationId userId invite.role)) ∧
    ∃ m ∈ s'.world.db.memberships,
      m.isOf invite.organizationId userId = true ∧ m.isLive = true ∧ m.role = invite.role

/-- What an `accept_invite` that succeeds has done in the course of the run. -/
structure Accepted (as : List (Act InviteOp Outcome)) (i : Nat) (token : String) (userId : Uuid)
    (userEmail : String) (invite : Invite) : Prop where
  took : ∃ as₁ x as₂ row, as = as₁ ++ .step i x :: as₂ ∧ AcceptedAt sha256 d as₁ i x userId row ∧
    row.tokenHash = sha256 token ∧ row.toInvite = invite
  email : eqIgnoreAsciiCase invite.email userEmail = true
  joined : ∃ as₁ x as₂, as = as₁ ++ .step i x :: as₂ ∧ JoinedAt sha256 d as₁ i x userId invite

variable {sha256 d}

theorem accepted_of_result (hd : InvitesUnique d.db.invites)
    (hrun : (invitePool sha256).exec (Pool.init d) as = some s) {i : Nat} {token : String}
    {userId : Uuid} {userEmail : String} {τ : Trace inviting} {invite : Invite}
    (hslot : s.slot i = some (.acceptInvite token userId userEmail, τ))
    (hresult : s.result i = some (.ok (some invite))) :
    Accepted sha256 d as i token userId userEmail invite := by
  obtain ⟨now, rfl, hlive, hemail⟩ :
      InviteOp.Ends sha256 (.acceptInvite token userId userEmail) τ (.ok (some invite)) :=
    Pool.exec_ends (inviteOp_ends sha256) hrun hslot hresult
  refine ⟨?_, hemail, ?_⟩
  · -- the update, and before it the read
    have hslot₁ : s.slot i = some (.acceptInvite token userId userEmail,
        [⟨.directory (.getByHash (sha256 token)), .ok (some invite)⟩, ⟨.directory .now, now⟩] ++
          ⟨.directory (.markAccepted invite.id userId), .ok ()⟩ :: [⟨.directory
            (.insertMembership invite.organizationId userId invite.role), .ok ()⟩]) := hslot
    obtain ⟨as₁, x, as₂, s₁, s₂, rfl, h₁, hmark, -⟩ := Pool.exec_moment hrun hslot₁
    have hslot₂ : s₁.slot i = some (.acceptInvite token userId userEmail,
        [] ++ ⟨.directory (.getByHash (sha256 token)), .ok (some invite)⟩ ::
          [⟨.directory .now, now⟩]) := hmark.slot
    obtain ⟨bs₁, y, bs₂, s₃, s₄, rfl, h₃, hread, h₄⟩ := Pool.exec_moment h₁ hslot₂
    obtain ⟨-, hfound⟩ := invitePool_answer hread.answer.choose_spec
    obtain ⟨hworld, haccepted⟩ := invitePool_answer hmark.answer.choose_spec
    obtain ⟨row₀, hrow₀, hhash, hinvite⟩ := Directory.row_of_getByHash hfound.symm
    obtain ⟨row, hrow, hid, hrowlive, hnew⟩ := Directory.row_of_markAccepted haccepted.symm
    have hbetween : (invitePool sha256).exec s₃ (.step i y :: bs₂) = some s₁ := by
      rw [Pool.exec_cons, hread.step]
      exact h₄
    obtain ⟨row', hrow', hkept⟩ := exec_kept hrow₀ hbetween
    have hunique := exec_invitesUnique (s := Pool.init d) hd h₁
    obtain rfl : row' = row := by
      refine List.inj_on_of_nodup_map hunique.ids hrow' hrow ?_
      rw [hkept.id_eq, hid, ← hinvite]
    have hsame : row'.toInvite = invite := by
      rw [← hinvite]
      exact hkept.toInvite_eq (hinvite ▸ hlive) hrowlive
    refine ⟨_, x, as₂, row', rfl, ⟨s₁, s₂, h₁, hmark.step, ?_, hrow, hrowlive, ?_⟩,
      hkept.tokenHash_eq.trans hhash, hsame⟩
    · rw [hid]
      exact hmark.nextCall
    · rw [hworld]
      exact hnew
  · have hslot₁ : s.slot i = some (.acceptInvite token userId userEmail,
        [⟨.directory (.getByHash (sha256 token)), .ok (some invite)⟩, ⟨.directory .now, now⟩,
          ⟨.directory (.markAccepted invite.id userId), .ok ()⟩] ++ ⟨.directory
            (.insertMembership invite.organizationId userId invite.role), .ok ()⟩ :: []) := hslot
    obtain ⟨as₁, x, as₂, s₁, s₂, rfl, h₁, hjoin, -⟩ := Pool.exec_moment hrun hslot₁
    obtain ⟨hworld, hjoined⟩ := invitePool_answer hjoin.answer.choose_spec
    refine ⟨as₁, x, as₂, rfl, s₁, s₂, h₁, hjoin.step, hjoin.nextCall, ?_⟩
    rw [hworld]
    exact Directory.member_of_insertMembership hjoined.symm

/-- Of two accepting updates of one invite, the second does not take effect. -/
theorem not_acceptedAt_twice (hd : InvitesUnique d.db.invites) {as cs : List (Act InviteOp Outcome)}
    {i k : Nat} {x y : Outcome} {userId userId' : Uuid} {row row' : InviteRow}
    (h : AcceptedAt sha256 d as i x userId row)
    (h' : AcceptedAt sha256 d (as ++ .step i x :: cs) k y userId' row')
    (hhash : row.tokenHash = row'.tokenHash) : False := by
  obtain ⟨s₁, s₂, h₁, hstep, -, -, -, hnew⟩ := h
  obtain ⟨s₃, s₄, h₃, -, -, hrow', hlive, -⟩ := h'
  rw [Pool.exec_append, h₁, Option.bind_some, Pool.exec_cons, hstep, Option.bind_some] at h₃
  have hold := exec_settled hnew rfl h₃
  have hunique : InvitesUnique s₃.world.db.invites :=
    exec_invitesUnique ((step_invites hstep).unique
      (exec_invitesUnique (s := Pool.init d) hd h₁)) h₃
  have heq := List.inj_on_of_nodup_map hunique.tokenHashes hold hrow' hhash
  rw [← heq] at hlive
  cases hlive

/-- In every run of any operations, interleaved and failing in any way: at most one
`accept_invite` succeeds for a token; one that succeeds has accepted an invite for this token that
was neither accepted nor revoked at that moment nor expired at the start of the transaction, that
is addressed to the caller's e-mail, and has made the caller a member with its role; and an invite
that is accepted or revoked stays exactly as it is. -/
theorem invites_single_use (hd : InvitesUnique d.db.invites)
    (hrun : (invitePool sha256).exec (Pool.init d) as = some s) :
    (∀ i i' token token' u u' e e' τ τ' invite invite',
      s.slot i = some (.acceptInvite token u e, τ) → s.result i = some (.ok (some invite)) →
      s.slot i' = some (.acceptInvite token' u' e', τ') → s.result i' = some (.ok (some invite')) →
      sha256 token = sha256 token' → i = i') ∧
    (∀ i token userId userEmail τ invite,
      s.slot i = some (.acceptInvite token userId userEmail, τ) →
      s.result i = some (.ok (some invite)) →
      Accepted sha256 d as i token userId userEmail invite) ∧
    ∀ bs s', (invitePool sha256).exec s bs = some s' → ∀ row ∈ s.world.db.invites,
      row.isSettled = true → row ∈ s'.world.db.invites := by
  refine ⟨?_, ?_, fun bs s' h row hrow hsettled => exec_settled hrow hsettled h⟩
  · intro i i' token token' u u' e e' τ τ' invite invite' hslot hresult hslot' hresult' hhash
    by_contra hne
    obtain ⟨as₁, x, as₂, row, has, hat, hrow, -⟩ := (accepted_of_result hd hrun hslot hresult).took
    obtain ⟨bs₁, y, bs₂, row', hbs, hat', hrow', -⟩ := (accepted_of_result hd hrun hslot' hresult').took
    have hsame : row.tokenHash = row'.tokenHash := by rw [hrow, hrow', hhash]
    rcases Pool.moments_ordered hne (has.symm.trans hbs) with ⟨cs, rfl⟩ | ⟨cs, rfl⟩
    · exact not_acceptedAt_twice hd hat hat' hsame
    · exact not_acceptedAt_twice hd hat' hat hsame.symm
  · intro i token userId userEmail τ invite hslot hresult
    exact accepted_of_result hd hrun hslot hresult

end Runs

/-- Organization 7 of user 1, who has invited user 2 as a viewer. -/
def invitingOne : Directory where
  enforceRls := false
  db :=
    { organizations := [7]
      users := [⟨1, "ada@example.com", "Ada", false, true⟩,
        ⟨2, "bob@example.com", "Bob", false, false⟩]
      memberships := [⟨5, 7, 1, .owner, 0, none⟩]
      passkeys := []
      invites := [{ id := 30, organizationId := 7, email := "Bob@example.com", role := .viewer,
                    tokenPrefix := "kinv_AAAA", acceptedAt := none, revokedAt := none,
                    expiresAt := 100, createdAt := 0, tokenHash := [1], invitedBy := some 1,
                    acceptedBy := none }] }

/-- The user sends the token twice at the same time, while the owner revokes the invite. -/
def acceptTwice : List (Act InviteOp Outcome) :=
  let fine : Outcome := { reply := .ok, now := 1, id := 6 }
  let accept : InviteOp := .acceptInvite "kinv_AAAA" 2 "bob@example.com"
  [.start accept, .start accept, .start (.revokeInvite 7 30 1), .step 0 fine, .step 1 fine,
    .step 0 fine, .step 1 fine, .step 2 fine, .step 0 fine, .step 1 fine, .step 2 fine, .step 0 fine]

/-- The invite that was accepted grants the role of a viewer. -/
def grantsViewer : Except ApiError (Option Invite) → Bool
  | .ok (some invite) => invite.role == .viewer
  | _ => false

theorem invites_single_use_acceptTwice :
    ∃ s invite, (invitePool fun _ => [1]).exec (Pool.init invitingOne) acceptTwice = some s ∧
      s.result 0 = some (.ok (some invite)) ∧ invite.role = .viewer ∧
      s.result 1 = some (.error (.platform
        (.forbidden "invite is expired, revoked, or already accepted"))) ∧
      s.result 2 = some (.ok none) ∧
      Accepted (fun _ => [1]) invitingOne acceptTwice 0 "kinv_AAAA" 2 "bob@example.com" invite := by
  have hrun : ((invitePool fun _ => [1]).exec (Pool.init invitingOne) acceptTwice).any (fun s =>
      decide ((s.slot 0).map Prod.fst = some (.acceptInvite "kinv_AAAA" 2 "bob@example.com")) &&
        (s.result 0).any grantsViewer &&
        decide (s.result 1 = some (.error (.platform
          (.forbidden "invite is expired, revoked, or already accepted")))) &&
        decide (s.result 2 = some (.ok none))) = true := by
    decide +kernel
  obtain ⟨s, hs, hrest⟩ := (Option.any_eq_true _ _).mp hrun
  simp only [Bool.and_eq_true, decide_eq_true_eq, Option.map_eq_some_iff] at hrest
  obtain ⟨⟨⟨⟨⟨op, τ⟩, hslot, rfl⟩, hfirst⟩, hsecond⟩, hthird⟩ := hrest
  obtain ⟨r, hresult, hr⟩ := (Option.any_eq_true _ _).mp hfirst
  rcases r with e | _ | invite
  · cases hr
  · cases hr
  refine ⟨s, invite, hs, hresult, beq_iff_eq.mp hr, hsecond, hthird, ?_⟩
  exact (invites_single_use ⟨by decide, by decide⟩ hs).2.1 0 _ _ _ τ invite hslot hresult

end Kubinate.Identity
