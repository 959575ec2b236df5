import Kubinate.Identity.Invites
import Kubinate.Library.Together

/-!
# `accept_invite` in two transactions

`mark_accepted` and the insert of the membership are committed one after the other, and nothing
takes the first back when the second fails.

* `acceptInvite_settles`: how a call can go, by what comes after the mark.
* `Directory.mem_acceptances_answer`: what any call does to the accepted invites.
* `inviteOp_continues`: what follows a mark.
* `accept_invite_atomic_iff`: when a failing call changes nothing, in which runs every accepted invite
  has its membership at any time, and in which it has it or is about to get it.
-/

namespace Kubinate.Identity

open Platform Library

/-- The organizations of the accepted invites, with who has accepted them. -/
def Database.acceptances (db : Database) : List (Uuid × Uuid) :=
  db.invites.filterMap fun i =>
    if i.acceptedAt.isSome then i.acceptedBy.map (i.organizationId, ·) else none

/-- A membership of the user in the organization has been written, whatever has become of it. -/
def Database.hasMembership (db : Database) (p : Uuid × Uuid) : Bool :=
  db.memberships.any (·.isOf p.1 p.2)

/-- Every accepted invite has led to a membership. -/
def Database.Honoured (db : Database) : Prop := ∀ p ∈ db.acceptances, db.hasMembership p = true

/-! ## One call of `accept_invite` -/

/-- How a method answers when nobody else uses the directory. -/
def Directory.reply (d : Directory) (c : DirectoryCall) (x : Outcome) :
    Option (Directory × c.Answer) :=
  some (d.answer c x)

/-- The reply to a mark that takes effect is not lost, and the membership is written after it. -/
def carriesOn (d : Directory) (c : DirectoryCall) (x : Outcome) : Bool :=
  match c with
  | .markAccepted id acceptedBy => x.reply != .lost || !(d.markAccepted x.now id acceptedBy).2.isOk
  | .insertMembership organizationId userId role =>
    x.reply == .ok &&
      (d.db.changeMembership (.upsert x.id x.now organizationId userId role)).isOk
  | _ => true

abbrev marking := Marking (I := directory) Directory.reply (fun _ => True) carriesOn

section Alone

variable {d : Directory} {s : Directory × Bool}

/-- The invites are accepted or not as before, and the memberships are as they were. -/
def SameRows (d d' : Directory) : Prop :=
  d'.db.invites.map (·.acceptedAt) = d.db.invites.map (·.acceptedAt) ∧
    d'.db.memberships = d.db.memberships

/-- An error leaves the acceptances and the memberships as they were, exactly if the mark says so. -/
def Settled {α : Type} (d : Directory) (s : Directory × Bool) (r : Except InviteError α) : Prop :=
  (∀ e, r = .error e → SameRows d s.1) ↔ s.2 = true

theorem settled_same {α : Type} {b : Bool} (r : Except InviteError α) (hb : b = true) :
    Settled d (d, b) r :=
  ⟨fun _ => hb, fun _ _ _ => ⟨rfl, rfl⟩⟩

theorem settled_changed {α : Type} {b : Bool} {d' : Directory} (e : InviteError)
    (hchanged : d'.db.invites.map (·.acceptedAt) ≠ d.db.invites.map (·.acceptedAt)) (hb : b = false) :
    Settled d (d', b) (.error e : Except InviteError α) := by
  rw [Settled, hb]
  exact ⟨fun h => absurd (h e rfl).1 hchanged, nofun⟩

/-- A mark is refused and changes nothing, or it accepts an invite. -/
theorem markAccepted_cases (d : Directory) (now : Timestamp) (id acceptedBy : Uuid) :
    ((∃ e, (d.markAccepted now id acceptedBy).2 = .error e) ∧
        (d.markAccepted now id acceptedBy).1 = d) ∨
      (d.markAccepted now id acceptedBy).2 = .ok () ∧
        (d.markAccepted now id acceptedBy).1.db.invites.map (·.acceptedAt) ≠
          d.db.invites.map (·.acceptedAt) := by
  unfold Directory.markAccepted
  split
  · exact .inl ⟨⟨_, rfl⟩, rfl⟩
  split
  · next hany =>
    refine .inr ⟨rfl, fun hsame => ?_⟩
    obtain ⟨row, hrow, hlive⟩ := List.any_eq_true.mp hany
    rw [List.map_map] at hsame
    have haccepted := List.map_eq_map_iff.mp hsame row hrow
    rw [Function.comp_apply, if_pos hlive] at haccepted
    simp only [Invite.isLive, Bool.and_eq_true, Option.isNone_iff_eq_none] at hlive
    rw [hlive.2.1.1] at haccepted
    cases haccepted
  · exact .inl ⟨⟨_, rfl⟩, rfl⟩

theorem reply_cases {c : DirectoryCall} {x : Outcome} {d' : Directory} {r : c.Answer}
    (h : d.reply c x = some (d', r)) :
    x.reply = .ok ∧ d' = (d.execute x c).1 ∧ r = (d.execute x c).2 ∨
      x.reply = .failed ∧ d' = d ∧ r = Directory.broken x c ∨
      x.reply = .lost ∧ d' = (d.execute x c).1 ∧ r = Directory.broken x c := by
  have hanswer : d.answer c x = (d', r) := Option.some.inj h
  unfold Directory.answer at hanswer
  cases hreply : x.reply <;> rw [hreply] at hanswer
  · exact .inl ⟨rfl, (congrArg Prod.fst hanswer).symm, (congrArg Prod.snd hanswer).symm⟩
  · cases hanswer
    exact .inr (.inl ⟨rfl, rfl, rfl⟩)
  · cases hanswer
    exact .inr (.inr ⟨rfl, rfl, rfl⟩)

/-- A call that only looks. -/
theorem reading_call {c : DirectoryCall} {r : c.Answer} {d' : Directory} {b b' : Bool}
    (h : marking (d, b) c r (d', b')) (hfine : ∀ x, carriesOn d c x = true)
    (hsame : ∀ x, (d.execute x c).1 = d) : d' = d ∧ b' = b := by
  obtain ⟨x, -, ha, hb⟩ := h
  refine ⟨?_, hb.trans (by rw [hfine x, Bool.and_true])⟩
  rcases reply_cases ha with ⟨-, hd, -⟩ | ⟨-, hd, -⟩ | ⟨-, hd, -⟩
  · exact hd.trans (hsame x)
  · exact hd
  · exact hd.trans (hsame x)

theorem mark_call {id acceptedBy : Uuid} {r : Except PlatformError Unit} {d' : Directory} {b' : Bool}
    (h : marking (d, true) (.markAccepted id acceptedBy) r (d', b')) :
    ((∃ e, r = .error e) ∧ d' = d ∧ b' = true) ∨
      ((∃ e, r = .error e) ∧
        d'.db.invites.map (·.acceptedAt) ≠ d.db.invites.map (·.acceptedAt) ∧ b' = false) ∨
      r = .ok () ∧ d'.db.invites.map (·.acceptedAt) ≠ d.db.invites.map (·.acceptedAt) ∧
        b' = true := by
  obtain ⟨x, -, ha, hb⟩ := h
  replace hb : b' = (x.reply != .lost || !(d.markAccepted x.now id acceptedBy).2.isOk) := hb
  rcases reply_cases ha with ⟨hreply, hd, hr⟩ | ⟨hreply, hd, hr⟩ | ⟨hreply, hd, hr⟩
  · rw [hreply] at hb
    subst hd hr
    rcases markAccepted_cases d x.now id acceptedBy with ⟨hrefused, hsame⟩ | ⟨hok, hchanged⟩
    · exact .inl ⟨hrefused, hsame, hb⟩
    · exact .inr (.inr ⟨hok, hchanged, hb⟩)
  · rw [hreply] at hb
    exact .inl ⟨⟨_, hr⟩, hd, hb⟩
  · rw [hreply] at hb
    subst hd
    rcases markAccepted_cases d x.now id acceptedBy with ⟨⟨e, he⟩, hsame⟩ | ⟨hok, hchanged⟩
    · rw [he] at hb
      exact .inl ⟨⟨_, hr⟩, hsame, hb⟩
    · rw [hok] at hb
      exact .inr (.inl ⟨⟨_, hr⟩, hchanged, hb⟩)

theorem writeMembership_invites (d : Directory) (c : MembershipStatement) :
    (d.writeMembership c).1.db.invites = d.db.invites := by
  unfold Directory.writeMembership
  cases hwrite : d.db.writeMembership d.enforceRls c with
  | ok r => exact (Database.writeMembership_frame hwrite).2
  | error e => rfl

/-- The insert leaves the invites alone, and succeeds exactly if the mark says so. -/
theorem insert_call {organizationId userId : Uuid} {role : MembershipRole}
    {r : Except PlatformError Unit} {d' : Directory} {b' : Bool}
    (h : marking (d, true) (.insertMembership organizationId userId role) r (d', b')) :
    d'.db.invites = d.db.invites ∧ (r = .ok () ∧ b' = true ∨ (∃ e, r = .error e) ∧ b' = false) := by
  obtain ⟨x, -, ha, hb⟩ := h
  replace hb : b' = (x.reply == .ok &&
    (d.db.changeMembership (.upsert x.id x.now organizationId userId role)).isOk) := hb
  have hinvites := writeMembership_invites d (.upsert x.id x.now organizationId userId role)
  rcases reply_cases ha with ⟨hreply, hd, hr⟩ | ⟨hreply, hd, hr⟩ | ⟨hreply, hd, hr⟩
  · rw [hreply] at hb
    refine ⟨(congrArg (·.db.invites) hd).trans hinvites, ?_⟩
    replace hr : r = (d.writeMembership (.upsert x.id x.now organizationId userId role)).2.map
      fun _ => () := hr
    unfold Directory.writeMembership Database.writeMembership at hr
    cases hchange : d.db.changeMembership (.upsert x.id x.now organizationId userId role) with
    | error e =>
      rw [hchange] at hb hr
      exact .inr ⟨⟨_, hr⟩, hb⟩
    | ok changed =>
      rw [hchange] at hb hr
      exact .inl ⟨hr, hb⟩
  · rw [hreply] at hb
    exact ⟨congrArg (·.db.invites) hd, .inr ⟨⟨_, hr⟩, hb⟩⟩
  · rw [hreply] at hb
    exact ⟨(congrArg (·.db.invites) hd).trans hinvites, .inr ⟨⟨_, hr⟩, hb⟩⟩

/-- How a call of `accept_invite` goes. -/
theorem acceptInvite_settles (sha256 : String → List UInt8) (token : String) (userId : Uuid)
    (userEmail : String) :
    Always marking (Settled d) (MembershipService.acceptInvite sha256 token userId userEmail).run
      (d, true) := by
  unfold MembershipService.acceptInvite
  rintro found ⟨d₁, b₁⟩ hfound
  obtain ⟨rfl, rfl⟩ := reading_call hfound (fun _ => rfl) fun _ => rfl
  rcases found with e | _ | invite
  · exact settled_same _ rfl
  · exact settled_same _ rfl
  rintro now ⟨d₂, b₂⟩ hnow
  obtain ⟨rfl, rfl⟩ := reading_call hnow (fun _ => rfl) fun _ => rfl
  refine always_iteE (fun _ => settled_same _ rfl) fun _ => ?_
  refine always_iteE (fun _ => settled_same _ rfl) fun _ => ?_
  rintro marked ⟨d₃, b₃⟩ hmark
  rcases mark_call hmark with ⟨⟨e, rfl⟩, rfl, rfl⟩ | ⟨⟨e, rfl⟩, hchanged, rfl⟩ | ⟨rfl, hchanged, rfl⟩
  · exact settled_same _ rfl
  · exact settled_changed _ hchanged rfl
  rintro inserted ⟨d₄, b₄⟩ hinsert
  obtain ⟨hinvites, ⟨rfl, rfl⟩ | ⟨⟨e, rfl⟩, rfl⟩⟩ := insert_call hinsert
  · exact ⟨fun _ => rfl, fun _ => nofun⟩
  · exact settled_changed _ (hinvites ▸ hchanged) rfl

end Alone

/-! ## What a call does to the acceptances and to the memberships -/

namespace Database

variable {db db' : Database} {p : Uuid × Uuid}

theorem hasMembership_iff :
    db.hasMembership p = true ↔ ∃ m ∈ db.memberships, m.isOf p.1 p.2 = true :=
  List.any_eq_true

/-- A membership that was written stays, perhaps revoked or with another role. -/
theorem hasMembership_change {c : MembershipStatement} {n : Nat}
    (h : db.changeMembership c = .ok (db', n)) (hp : db.hasMembership p = true) :
    db'.hasMembership p = true := by
  have hmap {f : Membership → Membership} (hf : ∀ m, (f m).isOf p.1 p.2 = m.isOf p.1 p.2) :
      (db.memberships.map f).any (·.isOf p.1 p.2) = true := by
    rw [List.any_map]
    exact (List.any_congr rfl hf).trans hp
  cases c with
  | upsert id now organizationId userId role =>
    simp only [changeMembership] at h
    split at h
    · cases h
      exact hmap fun m => by split <;> rfl
    split at h
    · cases h
    split at h
    · cases h
    · cases h
      rw [hasMembership, apply, List.any_append, show db.memberships.any _ = true from hp, Bool.true_or]
  | updateRole organizationId userId role =>
    cases h
    exact hmap fun m => by split <;> rfl
  | softDelete now organizationId userId =>
    cases h
    exact hmap fun m => by split <;> rfl

end Database

namespace Directory

variable {d : Directory} {x : Outcome} {p : Uuid × Uuid}

theorem hasMembership_answer (c : InviteCall) (hp : d.db.hasMembership p = true) :
    (d.answerInvite c x).1.db.hasMembership p = true := by
  cases c with
  | directory c =>
    rcases answer_memberships (d := d) (x := x) c with hsame | ⟨m, db, n, -, -, hchange, hsame⟩
    · rw [Database.hasMembership, answerInvite, hsame]
      exact hp
    · rw [Database.hasMembership, answerInvite, hsame]
      exact Database.hasMembership_change hchange hp
  | revoke organizationId id =>
    rw [answerInvite]
    cases x.reply with
    | ok => exact hp
    | failed => exact hp
    | lost => exact hp

/-- The organizations of the invites that a mark accepts. -/
def marks (d : Directory) (x : Outcome) (id : Uuid) : List Uuid :=
  if x.reply = .failed ∨ (d.unscopedInvites.find? (·.id == id)).isNone then []
  else (d.db.invites.filter fun i => i.id == id && i.isLive x.now).map (·.organizationId)

theorem acceptances_congr {db db' : Database} (h : db'.invites = db.invites) :
    db'.acceptances = db.acceptances := by
  rw [Database.acceptances, h]
  rfl

/-- The acceptances after a mark of rows that are not accepted yet. -/
theorem mem_acceptances_mark {now : Timestamp} {id acceptedBy : Uuid} {db' : Database}
    (h : db'.invites = d.db.invites.map fun i =>
      if i.id == id && i.isLive now
      then { i with acceptedAt := some now, acceptedBy := some acceptedBy } else i) :
    p ∈ db'.acceptances ↔ p ∈ d.db.acceptances ∨
      ∃ o ∈ (d.db.invites.filter fun i => i.id == id && i.isLive now).map (·.organizationId),
        p = (o, acceptedBy) := by
  have hfresh {i : InviteRow} (hlive : (i.id == id && i.isLive now) = true) :
      i.acceptedAt.isSome = false := by
    simp only [Invite.isLive, Bool.and_eq_true, Option.isNone_iff_eq_none] at hlive
    rw [hlive.2.1.1]
    rfl
  simp only [Database.acceptances, h, List.mem_filterMap, List.mem_map, List.mem_filter]
  constructor
  · rintro ⟨_, ⟨i, hi, rfl⟩, hp⟩
    by_cases hlive : (i.id == id && i.isLive now) = true
    · rw [if_pos hlive] at hp
      exact .inr ⟨i.organizationId, ⟨i, ⟨hi, hlive⟩, rfl⟩, (Option.some.inj hp).symm⟩
    · rw [if_neg hlive] at hp
      exact .inl ⟨i, hi, hp⟩
  · rintro (⟨i, hi, hp⟩ | ⟨o, ⟨i, ⟨hi, hlive⟩, rfl⟩, rfl⟩)
    · have hlive : ¬ (i.id == id && i.isLive now) = true := by
        intro hlive
        rw [hfresh hlive] at hp
        cases hp
      refine ⟨_, ⟨i, hi, rfl⟩, ?_⟩
      rw [if_neg hlive]
      exact hp
    · refine ⟨_, ⟨i, hi, rfl⟩, ?_⟩
      rw [if_pos hlive]
      rfl

theorem mem_acceptances_markAccepted {id acceptedBy : Uuid} (hx : x.reply ≠ .failed) :
    p ∈ (d.markAccepted x.now id acceptedBy).1.db.acceptances ↔ p ∈ d.db.acceptances ∨
      ∃ o ∈ d.marks x id, p = (o, acceptedBy) := by
  have hnothing (h : d.marks x id = []) : p ∈ d.db.acceptances ↔ p ∈ d.db.acceptances ∨
      ∃ o ∈ d.marks x id, p = (o, acceptedBy) := by
    rw [h]
    refine ⟨.inl, ?_⟩
    rintro (hp | ⟨o, ho, -⟩)
    · exact hp
    · cases ho
  unfold markAccepted
  split
  · next hnone =>
    refine hnothing ?_
    rw [marks, hnone]
    exact if_pos (.inr rfl)
  · next row hrow =>
    have hmarks : d.marks x id =
        (d.db.invites.filter fun i => i.id == id && i.isLive x.now).map (·.organizationId) := by
      rw [marks, hrow]
      exact if_neg (not_or.mpr ⟨hx, nofun⟩)
    split
    · rw [hmarks]
      exact mem_acceptances_mark rfl
    · next hany =>
      refine hnothing ?_
      rw [hmarks, List.map_eq_nil_iff, List.filter_eq_nil_iff]
      exact fun i hi hlive => hany (List.any_eq_true.mpr ⟨i, hi, hlive⟩)

theorem acceptances_execute (c : DirectoryCall) (hc : ∀ id u, c ≠ .markAccepted id u) :
    (d.execute x c).1.db.acceptances = d.db.acceptances := by
  cases c with
  | now => rfl
  | roleOf => rfl
  | listMembers => rfl
  | getByHash => rfl
  | insertMembership organizationId userId role =>
    exact acceptances_congr (writeMembership_invites d (.upsert x.id x.now organizationId userId role))
  | updateRole organizationId userId role =>
    exact acceptances_congr (writeMembership_invites d (.updateRole organizationId userId role))
  | softDelete organizationId userId =>
    exact acceptances_congr (writeMembership_invites d (.softDelete x.now organizationId userId))
  | markAccepted id u => exact absurd rfl (hc id u)
  | insertInvite organizationId email role tokenHash tokenPrefix invitedBy expiresAt =>
    rw [execute, insertInvite]
    split
    · rfl
    split
    · rfl
    · rw [Database.acceptances, List.filterMap_append]
      exact List.append_nil _

theorem acceptances_revoke (now : Timestamp) (organizationId id : Uuid) :
    (d.revoke now organizationId id).db.acceptances = d.db.acceptances := by
  rw [Database.acceptances, revoke, List.filterMap_map]
  refine List.filterMap_congr fun i _ => ?_
  rw [Function.comp_apply]
  split
  · rfl
  · rfl

/-- Only marks add acceptances. -/
theorem mem_acceptances_answer (c : InviteCall) :
    p ∈ (d.answerInvite c x).1.db.acceptances ↔ p ∈ d.db.acceptances ∨
      ∃ id acceptedBy, c = .directory (.markAccepted id acceptedBy) ∧
        ∃ o ∈ d.marks x id, p = (o, acceptedBy) := by
  have hsame (hc : ∀ id u, c ≠ .directory (.markAccepted id u))
      (h : (d.answerInvite c x).1.db.acceptances = d.db.acceptances) :
      p ∈ (d.answerInvite c x).1.db.acceptances ↔ p ∈ d.db.acceptances ∨
        ∃ id acceptedBy, c = .directory (.markAccepted id acceptedBy) ∧
          ∃ o ∈ d.marks x id, p = (o, acceptedBy) := by
    rw [h]
    refine ⟨.inl, ?_⟩
    rintro (hp | ⟨id, u, hmark, -⟩)
    · exact hp
    · exact absurd hmark (hc id u)
  cases c with
  | revoke organizationId id =>
    refine hsame (fun _ _ heq => InviteCall.noConfusion heq) ?_
    rw [answerInvite]
    cases x.reply with
    | ok => exact acceptances_revoke _ _ _
    | failed => rfl
    | lost => exact acceptances_revoke _ _ _
  | directory c =>
    by_cases hc : ∀ id u, c ≠ .markAccepted id u
    · refine hsame (fun id u h => hc id u (InviteCall.directory.inj h)) ?_
      rw [answerInvite, answer]
      cases x.reply with
      | ok => exact acceptances_execute c hc
      | failed => rfl
      | lost => exact acceptances_execute c hc
    · simp only [not_forall, not_not] at hc
      obtain ⟨id, u, rfl⟩ := hc
      have hmark : (∃ id' u', InviteCall.directory (.markAccepted id u) = .directory (.markAccepted id' u') ∧
          ∃ o ∈ d.marks x id', p = (o, u')) ↔ ∃ o ∈ d.marks x id, p = (o, u) := by
        constructor
        · rintro ⟨id', u', heq, ho⟩
          cases heq
          exact ho
        · exact fun ho => ⟨id, u, rfl, ho⟩
      rw [hmark, answerInvite, answer]
      cases hx : x.reply with
      | ok => exact mem_acceptances_markAccepted (by rw [hx]; decide)
      | lost => exact mem_acceptances_markAccepted (by rw [hx]; decide)
      | failed =>
        rw [marks, if_pos (.inl hx)]
        refine ⟨.inl, ?_⟩
        rintro (hp | ⟨o, ho, -⟩)
        · exact hp
        · cases ho

theorem memberships_markAccepted (now : Timestamp) (id acceptedBy : Uuid) :
    (d.markAccepted now id acceptedBy).1.db.memberships = d.db.memberships := by
  unfold markAccepted
  split
  · rfl
  split
  · rfl
  · rfl

theorem hasMembership_mark {id acceptedBy : Uuid} :
    (d.answerInvite (.directory (.markAccepted id acceptedBy)) x).1.db.hasMembership p =
      d.db.hasMembership p := by
  rw [answerInvite, answer, Database.hasMembership, Database.hasMembership]
  cases x.reply with
  | ok => exact congrArg (List.any · _) (memberships_markAccepted x.now id acceptedBy)
  | failed => rfl
  | lost => exact congrArg (List.any · _) (memberships_markAccepted x.now id acceptedBy)

/-- An insert that takes effect has written the membership. -/
theorem hasMembership_insert {organizationId userId : Uuid} {role : MembershipRole}
    (hx : x.reply ≠ .failed)
    (h : (d.db.changeMembership (.upsert x.id x.now organizationId userId role)).isOk = true) :
    (d.answerInvite (.directory (.insertMembership organizationId userId role)) x).1.db.hasMembership
      (organizationId, userId) = true := by
  have hexecute : (d.execute x (.insertMembership organizationId userId role)).1.db.hasMembership
      (organizationId, userId) = true := by
    cases hwrite : d.db.writeMembership d.enforceRls
      (.upsert x.id x.now organizationId userId role) with
    | error e =>
      unfold Database.writeMembership at hwrite
      split at hwrite
      · next herror =>
        rw [herror] at h
        cases h
      · cases hwrite
    | ok written =>
      obtain ⟨db, n⟩ := written
      obtain ⟨db₁, hchange, hsame⟩ := Database.writeMembership_cases hwrite
      obtain ⟨m, hm, hof, -⟩ := Database.member_of_upsert hchange
      show (d.writeMembership (.upsert x.id x.now organizationId userId role)).1.db.hasMembership _ = true
      rw [writeMembership, hwrite, Database.hasMembership_iff]
      exact ⟨m, hsame ▸ hm, hof⟩
  rw [answerInvite, answer]
  cases hreply : x.reply with
  | ok => exact hexecute
  | failed => exact absurd hreply hx
  | lost => exact hexecute

end Directory

/-! ## Runs -/

abbrev InviteState :=
  PoolState inviting Directory InviteOp (Except InviteError (Option Invite))

/-- An invite is only marked for somebody who has a membership in its organization already. -/
def marksMembers (s : InviteState) : Act InviteOp Outcome → Bool
  | .start _ => true
  | .step i x =>
    match s.nextCall i with
    | some (.directory (.markAccepted id acceptedBy)) =>
      (s.world.marks x id).all fun o => s.world.db.hasMembership (o, acceptedBy)
    | _ => true

/-- The reply to a mark that takes effect is not lost, and a membership that is to be written is
written. -/
def joins (s : InviteState) : Act InviteOp Outcome → Bool
  | .start _ => true
  | .step i x =>
    match s.nextCall i with
    | some (.directory (.markAccepted id _)) => x.reply != .lost || (s.world.marks x id).isEmpty
    | some (.directory (.insertMembership organizationId userId role)) =>
      x.reply != .failed &&
        (s.world.db.changeMembership (.upsert x.id x.now organizationId userId role)).isOk
    | _ => true

/-! ### What follows a mark -/

/-- The mark that was made last. -/
def justMarked (τ : Trace inviting) : Option (Uuid × Uuid) :=
  τ.getLast?.bind fun
    | ⟨.directory (.markAccepted id acceptedBy), .ok _⟩ => some (id, acceptedBy)
    | _ => none

/-- After a mark comes the insert of the membership, for the invite that was found. -/
def Continues (τ : Trace inviting) (c : InviteCall) : Prop :=
  ∀ id u, justMarked τ = some (id, u) → ∃ tokenHash invite,
    ⟨.directory (.getByHash tokenHash), .ok (some invite)⟩ ∈ τ ∧ invite.id = id ∧
      c = .directory (.insertMembership invite.organizationId u invite.role)

def NoMark (c : InviteCall) : Prop := ∀ id u, c ≠ .directory (.markAccepted id u)

theorem justMarked_concat {τ : Trace inviting} {c : InviteCall} {r : c.Answer} (hc : NoMark c) :
    justMarked (τ ++ [⟨c, r⟩]) = none := by
  rw [justMarked, List.getLast?_concat, Option.bind_some]
  split
  · next id u _ heq =>
    cases heq
    exact absurd rfl (hc id u)
  · rfl

theorem continues_of_none {τ : Trace inviting} {c : InviteCall} (h : justMarked τ = none) :
    Continues τ c := by
  intro id u hmarked
  rw [h] at hmarked
  cases hmarked

/-- A program that marks nothing. -/
theorem continues_of_makes {α : Type} {p : Program inviting α} {τ : Trace inviting}
    (hp : Makes (I := inviting) NoMark p) (hτ : justMarked τ = none) :
    Meets Continues (fun _ _ _ => True) (fun τ _ => justMarked τ = none) p τ := by
  induction p generalizing τ with
  | done a => exact hτ
  | call c k ih => exact ⟨continues_of_none hτ, fun r _ => ih r (hp.2 r) (justMarked_concat hp.1)⟩

/-- The same for a program that only uses the directory. -/
def ContinuesWithin (τ : Trace directory) (c : DirectoryCall) : Prop :=
  Continues (liftTrace τ) (.directory c)

theorem acceptInvite_continues (sha256 : String → List UInt8) (token : String) (userId : Uuid)
    (userEmail : String) :
    Meets ContinuesWithin (fun _ _ _ => True) (fun τ _ => justMarked (liftTrace τ) = none)
      (MembershipService.acceptInvite sha256 token userId userEmail).run [] := by
  refine ⟨continues_of_none rfl, fun found _ => ?_⟩
  rcases found with e | _ | invite
  · exact rfl
  · exact rfl
  refine ⟨continues_of_none rfl, fun now _ => ?_⟩
  refine meets_iteE.mpr ⟨fun _ => rfl, fun _ => ?_⟩
  refine meets_iteE.mpr ⟨fun _ => rfl, fun _ => ?_⟩
  refine ⟨continues_of_none rfl, fun marked _ => ?_⟩
  rcases marked with e | ⟨⟩
  · exact rfl
  refine ⟨?_, fun inserted _ => ?_⟩
  · rintro id u hmarked
    cases hmarked
    exact ⟨sha256 token, invite, List.mem_cons_self, rfl, rfl⟩
  rcases inserted with e | ⟨⟩
  · exact rfl
  · exact rfl

/-- The calls of the other use cases. -/
def NoMarkWithin (c : DirectoryCall) : Prop := NoMark (.directory c)

theorem noMark_repository {α : Type} {p : Program directory (Except PlatformError α)}
    (hp : Makes NoMarkWithin p) : Makes NoMarkWithin (repository p).run := by
  refine makes_bind hp ?_
  rintro (e | a)
  · trivial
  · trivial

theorem noMark_ask {c : DirectoryCall} (hc : NoMarkWithin c) : Makes NoMarkWithin (ask c) :=
  ⟨hc, fun _ => trivial⟩

theorem noMark_requireMemberManagement (organizationId actorUserId : Uuid) :
    Makes NoMarkWithin
      (MembershipService.requireMemberManagement organizationId actorUserId).run := by
  refine makes_bindE (noMark_repository (noMark_ask nofun)) ?_
  rintro (_ | role)
  · trivial
  exact makes_iteE trivial trivial

theorem noMark_createInvite (sha256 : String → List UInt8) (organizationId actorUserId : Uuid)
    (email : String) (role : MembershipRole) (token : String) :
    Makes NoMarkWithin
      (MembershipService.createInvite sha256 organizationId actorUserId email role token).run := by
  refine makes_bindE (noMark_requireMemberManagement organizationId actorUserId) fun _ => ?_
  refine makes_bindE (makes_lift (noMark_ask nofun)) fun now => ?_
  exact makes_bindE (noMark_repository (noMark_ask nofun)) fun _ => trivial

theorem noMark_updateRole (organizationId targetUserId : Uuid) (newRole : MembershipRole)
    (actorUserId : Uuid) :
    Makes NoMarkWithin
      (MembershipService.updateRole organizationId targetUserId newRole actorUserId).run := by
  have hrefuse : Makes NoMarkWithin
      (MembershipService.refuseLastOwner organizationId targetUserId).run := by
    refine makes_bindE (noMark_repository (noMark_ask nofun)) fun _ => ?_
    refine makes_iteE ?_ trivial
    refine makes_bindE (noMark_repository (noMark_ask nofun)) fun _ => ?_
    exact makes_iteE trivial trivial
  have hupdate := noMark_repository (p := ask (.updateRole organizationId targetUserId newRole))
    (noMark_ask nofun)
  refine makes_bindE (noMark_requireMemberManagement organizationId actorUserId) fun _ => ?_
  exact makes_iteE (makes_bindE hrefuse fun _ => hupdate) hupdate

theorem noMark_removeMember (organizationId targetUserId actorUserId : Uuid) :
    Makes NoMarkWithin
      (MembershipService.removeMember organizationId targetUserId actorUserId).run := by
  refine makes_bindE (noMark_requireMemberManagement organizationId actorUserId) fun _ => ?_
  exact makes_iteE trivial (noMark_repository (noMark_ask nofun))

theorem noMark_within {α : Type} {p : Service α} (hp : Makes NoMarkWithin p.run) :
    Makes (I := inviting) NoMark (withinDirectory p).run :=
  makes_embed (I := directory) (J := inviting) (K := NoMarkWithin) (fun _ hc => hc) hp

/-- Whatever an operation calls after a mark is the insert of the membership. -/
theorem inviteOp_continues (sha256 : String → List UInt8) (op : InviteOp) :
    Meets Continues (fun _ _ _ => True) (fun τ _ => justMarked τ = none) (op.program sha256) [] := by
  cases op with
  | acceptInvite token userId userEmail =>
    refine meets_bindE (Q := fun τ _ => justMarked τ = none) ?_ (fun _ _ h => h) fun _ _ h => h
    refine meets_embed (F := fun τ τ' => τ' = liftTrace τ)
      (acceptInvite_continues sha256 token userId userEmail) ?_ liftTrace_concat ?_ rfl
    · rintro τ _ c rfl hcall
      exact hcall
    · rintro τ _ r rfl hend
      exact hend
  | createInvite organizationId actorUserId email role token =>
    refine continues_of_makes (makes_bindE (noMark_within ?_) fun _ => trivial) rfl
    exact noMark_createInvite sha256 organizationId actorUserId email role token
  | revokeInvite organizationId inviteId actorUserId =>
    refine continues_of_makes (makes_bindE ?_ fun _ => trivial) rfl
    refine makes_bindE (noMark_within ?_) fun _ => ?_
    · exact noMark_requireMemberManagement organizationId actorUserId
    · exact ⟨nofun, fun _ => trivial⟩
  | updateRole organizationId targetUserId newRole actorUserId =>
    refine continues_of_makes (makes_bindE (noMark_within ?_) fun _ => trivial) rfl
    exact noMark_updateRole organizationId targetUserId newRole actorUserId
  | removeMember organizationId targetUserId actorUserId =>
    refine continues_of_makes (makes_bindE (noMark_within ?_) fun _ => trivial) rfl
    exact noMark_removeMember organizationId targetUserId actorUserId

section Runs

variable {sha256 : String → List UInt8} {d : Directory} {as : List (Act InviteOp Outcome)}
  {s s' : InviteState}

theorem world_of_calls {i : Nat} {x : Outcome} {op : InviteOp} {τ : Trace inviting} {c : InviteCall}
    {r : c.Answer} (h : (invitePool sha256).Calls s i x op τ c r s') :
    s'.world = (s.world.answerInvite c x).1 ∧ r = (s.world.answerInvite c x).2 := by
  obtain ⟨js, ha⟩ := h.answer
  exact invitePool_answer ha

/-- After a step every acceptance is honoured exactly if the step marks members only. -/
theorem honoured_step_iff {a : Act InviteOp Outcome} (hs : s.world.db.Honoured)
    (h : (invitePool sha256).step s a = some s') :
    s'.world.db.Honoured ↔ marksMembers s a = true := by
  cases a with
  | start op =>
    obtain ⟨-, rfl⟩ := Pool.step_start.mp h
    exact ⟨fun _ => rfl, fun _ => hs⟩
  | step i x =>
    obtain ⟨op, τ, c, r, hcalls⟩ := Pool.calls_of_step h
    obtain ⟨hworld, -⟩ := world_of_calls hcalls
    have hold (p : Uuid × Uuid) (hp : p ∈ s.world.db.acceptances) :
        s'.world.db.hasMembership p = true := by
      rw [hworld]
      exact Directory.hasMembership_answer c (hs p hp)
    have hiff : s'.world.db.Honoured ↔ ∀ id u, c = .directory (.markAccepted id u) →
        ∀ o ∈ s.world.marks x id, s'.world.db.hasMembership (o, u) = true := by
      constructor
      · rintro hs' id u rfl o ho
        refine hs' _ ?_
        rw [hworld]
        exact (Directory.mem_acceptances_answer _).mpr (.inr ⟨id, u, rfl, o, ho, rfl⟩)
      · intro hmarks p hp
        rw [hworld] at hp
        rcases (Directory.mem_acceptances_answer c).mp hp with hp | ⟨id, u, hc, o, ho, rfl⟩
        · exact hold p hp
        · exact hmarks id u hc o ho
    rw [hiff, marksMembers, hcalls.nextCall]
    split
    · next id u heq =>
      obtain rfl := Option.some.inj heq
      rw [List.all_eq_true]
      constructor
      · intro hmarks o ho
        have hmember := hmarks id u rfl o ho
        rwa [hworld, Directory.hasMembership_mark] at hmember
      · intro hall id' u' hc o ho
        cases hc
        rw [hworld, Directory.hasMembership_mark]
        exact hall o ho
    · next hother =>
      refine iff_of_true (fun id u hc => ?_) rfl
      exact absurd (congrArg some hc) (hother id u)

/-- The row of an invite that an operation was shown belongs to the organization that it saw. -/
theorem organization_of_found (hd : InvitesUnique d.db.invites)
    (hrun : (invitePool sha256).exec (Pool.init d) as = some s) {i : Nat} {op : InviteOp}
    {τ : Trace inviting} (hslot : s.slot i = some (op, τ)) {tokenHash : List UInt8} {invite : Invite}
    (hfound : ⟨.directory (.getByHash tokenHash), .ok (some invite)⟩ ∈ τ) {row : InviteRow}
    (hrow : row ∈ s.world.db.invites) (hid : row.id = invite.id) :
    row.organizationId = invite.organizationId := by
  obtain ⟨τ₁, τ₂, rfl⟩ := List.append_of_mem hfound
  obtain ⟨as₁, x, as₂, s₁, s₂, -, -, hread, hrest⟩ := Pool.exec_moment hrun hslot
  obtain ⟨-, hanswer⟩ := world_of_calls hread
  obtain ⟨row₀, hrow₀, -, rfl⟩ := Directory.row_of_getByHash hanswer.symm
  have hbetween : (invitePool sha256).exec s₁ (.step i x :: as₂) = some s := by
    rw [Pool.exec_cons, hread.step]
    exact hrest
  obtain ⟨row', hrow', hkept⟩ := exec_kept hrow₀ hbetween
  have hunique := exec_invitesUnique (s := Pool.init d) hd hrun
  obtain rfl : row' = row := by
    refine List.inj_on_of_nodup_map hunique.ids hrow' hrow ?_
    rw [hkept.id_eq, hid]
  rw [← hkept.fixed]

/-- The insert of the membership is what some operation does next. -/
def InviteState.aboutToJoin (s : InviteState) (p : Uuid × Uuid) : Prop :=
  ∃ k role, s.nextCall k = some (.directory (.insertMembership p.1 p.2 role))

/-- Every accepted invite has led to a membership, or is about to. -/
def InviteState.Settling (s : InviteState) : Prop :=
  ∀ p ∈ s.world.db.acceptances, s.world.db.hasMembership p = true ∨ s.aboutToJoin p

/-- After a mark that is reported, the insert for the row's organization comes next. -/
theorem aboutToJoin_of_mark (hd : InvitesUnique d.db.invites)
    (hrun : (invitePool sha256).exec (Pool.init d) as = some s) {i : Nat} {x : Outcome}
    {op : InviteOp} {τ : Trace inviting} {id u : Uuid}
    (hcalls : (invitePool sha256).Calls s i x op τ (.directory (.markAccepted id u)) (.ok ()) s')
    {o : Uuid} (ho : o ∈ s.world.marks x id) : s'.aboutToJoin (o, u) := by
  have hrun' : (invitePool sha256).exec (Pool.init d) (as ++ [.step i x]) = some s' := by
    rw [Pool.exec_append, hrun, Option.bind_some, Pool.exec_cons, hcalls.step]
    rfl
  have hmarked : justMarked (τ ++ [⟨.directory (.markAccepted id u), .ok ()⟩]) = some (id, u) := by
    rw [justMarked, List.getLast?_concat]
    rfl
  rcases PoolState.next_or_result hcalls.slot_self with ⟨c, hnext⟩ | ⟨a, hresult⟩
  · obtain ⟨tokenHash, invite, hfound, hid, hc⟩ :=
      Pool.exec_nextCall (inviteOp_continues sha256) hrun' hcalls.slot_self hnext id u hmarked
    have hfound : ⟨.directory (.getByHash tokenHash), .ok (some invite)⟩ ∈ τ := by
      rcases List.mem_append.mp hfound with hfound | hfound
      · exact hfound
      · cases List.mem_singleton.mp hfound
    have hrow : ∃ row ∈ s.world.db.invites, row.id = id ∧ row.organizationId = o := by
      unfold Directory.marks at ho
      split at ho
      · cases ho
      obtain ⟨row, hrow, rfl⟩ := List.mem_map.mp ho
      obtain ⟨hmem, hlive⟩ := List.mem_filter.mp hrow
      exact ⟨row, hmem, beq_iff_eq.mp ((Bool.and_eq_true _ _).mp hlive).1, rfl⟩
    obtain ⟨row, hmem, hrowid, rfl⟩ := hrow
    refine ⟨i, invite.role, ?_⟩
    rw [hnext, hc, organization_of_found hd hrun hcalls.slot hfound hmem (hrowid.trans hid.symm)]
  · have hend : justMarked _ = none :=
      Pool.exec_ends (inviteOp_continues sha256) hrun' hcalls.slot_self hresult
    rw [hmarked] at hend
    cases hend

/-- A mark that takes effect is reported, if the reply is not lost. -/
theorem ok_of_marks {id u o : Uuid} {x : Outcome} (hx : x.reply ≠ .lost) (ho : o ∈ d.marks x id) :
    (d.answerInvite (.directory (.markAccepted id u)) x).2 = .ok () := by
  unfold Directory.marks at ho
  split at ho
  · cases ho
  next hneither =>
  rw [not_or] at hneither
  have hexecute : (d.markAccepted x.now id u).2 = .ok () := by
    obtain ⟨row, hrow, -⟩ := List.mem_map.mp ho
    obtain ⟨hmem, hlive⟩ := List.mem_filter.mp hrow
    unfold Directory.markAccepted
    split
    · next hnone =>
      rw [hnone] at hneither
      exact absurd rfl hneither.2
    · rw [if_pos (List.any_eq_true.mpr ⟨row, hmem, hlive⟩)]
  rw [Directory.answerInvite, Directory.answer]
  cases hreply : x.reply with
  | ok => exact hexecute
  | failed => exact absurd hreply hneither.1
  | lost => exact absurd hreply hx

theorem settling_step (hd : InvitesUnique d.db.invites)
    (hrun : (invitePool sha256).exec (Pool.init d) as = some s) (hs : s.Settling)
    {a : Act InviteOp Outcome} (hC : joins s a = true) (h : (invitePool sha256).step s a = some s') :
    s'.Settling := by
  cases a with
  | start op =>
    have hstep := h
    obtain ⟨-, rfl⟩ := Pool.step_start.mp hstep
    intro p hp
    rcases hs p hp with hmember | ⟨k, role, hnext⟩
    · exact .inl hmember
    · exact .inr ⟨k, role, Pool.nextCall_other h nofun hnext⟩
  | step i x =>
    obtain ⟨op, τ, c, r, hcalls⟩ := Pool.calls_of_step h
    obtain ⟨hworld, hr⟩ := world_of_calls hcalls
    intro p hp
    rw [hworld] at hp
    rcases (Directory.mem_acceptances_answer c).mp hp with hp | ⟨id, u, rfl, o, ho, rfl⟩
    · rcases hs p hp with hmember | ⟨k, role, hnext⟩
      · rw [hworld]
        exact .inl (Directory.hasMembership_answer c hmember)
      by_cases hk : k = i
      · -- the insert that was to come
        subst hk
        obtain rfl := Option.some.inj (hcalls.nextCall.symm.trans hnext)
        rw [joins, hnext, Bool.and_eq_true, bne_iff_ne] at hC
        rw [hworld]
        exact .inl (Directory.hasMembership_insert hC.1 hC.2)
      · refine .inr ⟨k, role, Pool.nextCall_other h ?_ hnext⟩
        rintro y ⟨⟩
        exact hk rfl
    · -- a new acceptance
      rw [joins, hcalls.nextCall, Bool.or_eq_true, bne_iff_ne] at hC
      rcases hC with hreply | hempty
      · rw [ok_of_marks hreply ho] at hr
        subst hr
        exact .inr (aboutToJoin_of_mark hd hrun hcalls ho)
      · rw [List.isEmpty_iff.mp hempty] at ho
        cases ho

/-- Where marks are reported and memberships are written, only the time between the two
transactions is without a membership. -/
theorem exec_settling (hd : InvitesUnique d.db.invites) (hhonoured : d.db.Honoured)
    (hC : (invitePool sha256).allSteps joins (Pool.init d) as = true)
    (hrun : (invitePool sha256).exec (Pool.init d) as = some s) : s.Settling := by
  have hboth : (∃ bs, (invitePool sha256).exec (Pool.init d) bs = some s) ∧ s.Settling := by
    refine Pool.exec_invariant (Q := fun s : InviteState =>
      (∃ bs, (invitePool sha256).exec (Pool.init d) bs = some s) ∧ s.Settling) ?_
      ⟨⟨[], rfl⟩, fun p hp => .inl (hhonoured p hp)⟩ hC hrun
    intro s a s' ⟨⟨bs, hbs⟩, hs⟩ hCs hstep
    refine ⟨⟨bs ++ [a], ?_⟩, settling_step hd hbs hs hCs hstep⟩
    rw [Pool.exec_append, hbs, Option.bind_some, Pool.exec_cons, hstep]
    rfl
  exact hboth.2

end Runs

/-- A call of `accept_invite` that fails leaves every invite accepted or not as before and the
memberships as they were, exactly if the reply to a mark that takes effect is not lost and the
membership is written after it. In a run every accepted invite has led to a membership at any time,
exactly if invites are only marked for users who have a membership already; if no reply to a mark is
lost and no insert of a membership fails, whatever has not led to one is about to. -/
theorem accept_invite_atomic_iff (sha256 : String → List UInt8) :
    (∀ (token : String) (userId : Uuid) (userEmail : String) (d d' : Directory) (xs : Nat → Outcome)
      (r : Except InviteError Invite),
      (MembershipService.acceptInvite sha256 token userId userEmail).run.replay Directory.reply xs 0 d =
        some (d', r) →
      ((∀ e, r = .error e → SameRows d d') ↔
        (MembershipService.acceptInvite sha256 token userId userEmail).run.replayAll Directory.reply xs
          carriesOn 0 d = true)) ∧
    ∀ (d : Directory) (as : List (Act InviteOp Outcome)) (s : InviteState),
      InvitesUnique d.db.invites → d.db.Honoured →
      (invitePool sha256).exec (Pool.init d) as = some s →
      ((∀ as₁ as₂ s₁, as = as₁ ++ as₂ → (invitePool sha256).exec (Pool.init d) as₁ = some s₁ →
          s₁.world.db.Honoured) ↔
        (invitePool sha256).allSteps marksMembers (Pool.init d) as = true) ∧
      ((invitePool sha256).allSteps joins (Pool.init d) as = true → s.Settling) := by
  constructor
  · intro token userId userEmail d d' xs r h
    have hend := (acceptInvite_settles sha256 token userId userEmail).replayAll (fun _ => trivial) h
    rwa [Bool.true_and] at hend
  · intro d as s hd hhonoured hrun
    refine ⟨?_, fun hC => exec_settling hd hhonoured hC hrun⟩
    exact Pool.exec_invariant_iff (Q := fun s : InviteState => s.world.db.Honoured)
      (fun s a s' hs hstep => honoured_step_iff hs hstep) hhonoured hrun

/-- Call `n` fails, and the others succeed. -/
def failsAt (n k : Nat) : Outcome := { reply := if k = n then .failed else .ok, now := 1, id := 6 }

/-- The user of `invitingOne` sends the token. -/
def acceptOne : Program directory (Except InviteError Invite) :=
  (MembershipService.acceptInvite (fun _ => [1]) "kinv_AAAA" 2 "bob@example.com").run

theorem honoured_invitingOne : invitingOne.db.Honoured := fun p hp => by
  rw [show invitingOne.db.acceptances = [] from by decide] at hp
  cases hp

theorem accept_invite_atomic_iff_acceptTwice :
    (∃ d' e, acceptOne.replay Directory.reply (failsAt 2) 0 invitingOne = some (d', .error e) ∧
      SameRows invitingOne d') ∧
    ∃ s : InviteState, (invitePool fun _ => [1]).exec (Pool.init invitingOne) acceptTwice = some s ∧
      (¬ ∀ as₁ as₂ s₁, acceptTwice = as₁ ++ as₂ →
        (invitePool fun _ => [1]).exec (Pool.init invitingOne) as₁ = some s₁ → s₁.world.db.Honoured) ∧
      s.Settling := by
  obtain ⟨hcalls, hruns⟩ := accept_invite_atomic_iff fun _ => [1]
  constructor
  · have hrun : (acceptOne.replay Directory.reply (failsAt 2) 0 invitingOne).any (fun p =>
        decide (p.2 = .error (.platform (.database .connection)))) = true := by decide +kernel
    obtain ⟨⟨d', r⟩, hr, he⟩ := (Option.any_eq_true _ _).mp hrun
    obtain rfl := of_decide_eq_true he
    exact ⟨d', _, hr, (hcalls _ _ _ _ d' _ _ hr).mpr (by decide +kernel) _ rfl⟩
  · have hrun : ((invitePool fun _ => [1]).exec (Pool.init invitingOne) acceptTwice).isSome = true := by
      decide +kernel
    obtain ⟨s, hs⟩ := Option.isSome_iff_exists.mp hrun
    obtain ⟨hiff, hsettling⟩ := hruns invitingOne acceptTwice s ⟨by decide, by decide⟩
      honoured_invitingOne hs
    refine ⟨s, hs, fun hall => ?_, hsettling (by decide +kernel)⟩
    have hmembers := hiff.mp hall
    revert hmembers
    decide +kernel

/-- The insert of the membership fails: the invite is accepted, the user is not a member, and the
token is refused when it is sent again. -/
theorem not_accept_invite_atomic :
    (∃ d' e, acceptOne.replay Directory.reply (failsAt 3) 0 invitingOne = some (d', .error e) ∧
      ¬ SameRows invitingOne d' ∧ ¬ d'.db.Honoured ∧
      (acceptOne.replay Directory.reply (failsAt 4) 0 d').map Prod.snd =
        some (.error (.forbidden "invite is expired, revoked, or already accepted"))) ∧
    ∃ (as : List (Act InviteOp Outcome)) (s : InviteState),
      (invitePool fun _ => [1]).exec (Pool.init invitingOne) as = some s ∧
        invitingOne.db.Honoured ∧ ¬ s.world.db.Honoured := by
  have hbad {db : Database}
      (h : (decide (db.acceptances = [(7, 2)]) && !db.hasMembership (7, 2)) = true) : ¬ db.Honoured := by
    intro hhonoured
    rw [Bool.and_eq_true, decide_eq_true_eq] at h
    rw [hhonoured (7, 2) (h.1 ▸ List.mem_singleton_self _)] at h
    exact Bool.noConfusion h.2
  constructor
  · have hrun : (acceptOne.replay Directory.reply (failsAt 3) 0 invitingOne).any (fun p =>
        decide (p.2 = .error (.platform (.database .connection))) &&
          !decide (p.1.db.invites.map (·.acceptedAt) = invitingOne.db.invites.map (·.acceptedAt)) &&
          (decide (p.1.db.acceptances = [(7, 2)]) && !p.1.db.hasMembership (7, 2)) &&
          decide ((acceptOne.replay Directory.reply (failsAt 4) 0 p.1).map Prod.snd =
            some (.error (.forbidden "invite is expired, revoked, or already accepted")))) = true := by
      decide +kernel
    obtain ⟨⟨d', r⟩, hr, hrest⟩ := (Option.any_eq_true _ _).mp hrun
    rw [Bool.and_eq_true, Bool.and_eq_true, Bool.and_eq_true, decide_eq_true_eq, decide_eq_true_eq,
      Bool.not_eq_true', decide_eq_false_iff_not] at hrest
    obtain ⟨⟨⟨rfl, haccepted⟩, hrows⟩, hagain⟩ := hrest
    exact ⟨d', _, hr, fun hsame => haccepted hsame.1, hbad hrows, hagain⟩
  · let as : List (Act InviteOp Outcome) :=
      [.start (.acceptInvite "kinv_AAAA" 2 "bob@example.com"), .step 0 (failsAt 3 0),
        .step 0 (failsAt 3 1), .step 0 (failsAt 3 2), .step 0 (failsAt 3 3)]
    have hrun : ((invitePool fun _ => [1]).exec (Pool.init invitingOne) as).any (fun s =>
        decide (s.world.db.acceptances = [(7, 2)]) && !s.world.db.hasMembership (7, 2)) = true := by
      decide +kernel
    obtain ⟨s, hs, hrows⟩ := (Option.any_eq_true _ _).mp hrun
    exact ⟨as, s, hs, honoured_invitingOne, hbad hrows⟩

end Kubinate.Identity
