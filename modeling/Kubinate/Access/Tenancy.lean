import Kubinate.Access.Extractors
import Kubinate.Library.Together

/-!
# The extraction of owners under row-level security

The extractors look up memberships before they know the organization of the request, on
connections that set no tenant. Where row-level security is in force they find none, so that
every member is rejected as if he were not one.

* `findsNone`: no query for memberships finds one.
* `ownerActor_transparent_iff`: row-level security makes no difference to exactly those
  extractions.
-/

namespace Kubinate.Access

open Platform Library Identity

namespace Accounts

variable (w : Accounts)

/-- The tables as the other role reaches them. -/
def withRls (enforceRls : Bool) : Accounts :=
  { w with directory := { w.directory with enforceRls := enforceRls } }

/-- No membership is one of the nil organization, the tenant of a connection that sets none. -/
def NoNil : Prop := ∀ m ∈ w.db.memberships, m.organizationId ≠ Uuid.nil

/-- The user is a member of some organization. -/
def isAnywhere (userId : Uuid) : Bool := w.db.memberships.any fun m => m.userId == userId && m.isLive

end Accounts

def accessAnswer (w : Accounts) (c : access.Call) (x : Outcome) :
    Option (Accounts × access.Answer c) :=
  some (w.answer c x)

/-- A query for memberships fails or finds none. -/
def findsNone (w : Accounts) (c : access.Call) (x : Outcome) : Bool :=
  match c with
  | .countMemberships userId organizationId | .membershipRole userId organizationId =>
    x.reply != .ok || !w.isMember organizationId userId
  | .latestMembership userId => x.reply != .ok || !w.isAnywhere userId
  | _ => true

section Answers

variable {w : Accounts} {userId organizationId : Uuid}

theorem unscopedMemberships_enforced (h : w.NoNil) :
    (w.withRls true).unscopedMemberships = [] := by
  refine List.filter_eq_nil_iff.mpr fun m hm => ?_
  simpa [Accounts.withRls] using h m hm

theorem unscopedMemberships_bypassed :
    (w.withRls false).unscopedMemberships = w.db.memberships :=
  List.filter_eq_self.mpr fun _ _ => rfl

@[simp] theorem isMember_withRls (b : Bool) :
    (w.withRls b).isMember organizationId userId = w.isMember organizationId userId := rfl

@[simp] theorem isAnywhere_withRls (b : Bool) :
    (w.withRls b).isAnywhere userId = w.isAnywhere userId := rfl

/-- A read outside the memberships is the same for both roles. -/
def IsShared (c : AccessCall) : Prop :=
  ∀ (w : Accounts) x, ∃ r : access.Answer c, ∀ b,
    accessAnswer (w.withRls b) c x = some ((w.tick x.elapsed).withRls b, r)

theorem isShared_resolveSession (id : Uuid) : IsShared (.resolveSession id) := by
  intro w x
  refine ⟨(w.answer (.resolveSession id) x).2, fun b => ?_⟩
  simp only [accessAnswer, Accounts.answer]
  cases x.reply <;> rfl

theorem isShared_findApiKey (tokenHash : List UInt8) : IsShared (.findApiKey tokenHash) := by
  intro w x
  refine ⟨(w.answer (.findApiKey tokenHash) x).2, fun b => ?_⟩
  simp only [accessAnswer, Accounts.answer]
  cases x.reply <;> rfl

theorem isShared_sessionMfa (id : Uuid) : IsShared (.sessionMfa id) := by
  intro w x
  refine ⟨(w.answer (.sessionMfa id) x).2, fun b => ?_⟩
  simp only [accessAnswer, Accounts.answer]
  cases x.reply <;> rfl

theorem isMember_eq_false_iff :
    w.isMember organizationId userId = false ↔
      ∀ m ∈ w.db.memberships, (m.isOf organizationId userId && m.isLive) = false := by
  rw [Accounts.isMember, List.any_eq_false]
  simp

theorem isAnywhere_eq_false_iff :
    w.isAnywhere userId = false ↔
      ∀ m ∈ w.db.memberships, (m.userId == userId && m.isLive) = false := by
  rw [Accounts.isAnywhere, List.any_eq_false]
  simp

/-- A query for memberships, with what it reads out of those that the role may see. -/
def IsQuery (c : AccessCall) (read : List Membership → access.Answer c) (failed : access.Answer c) :
    Prop :=
  ∀ (w : Accounts) x b, accessAnswer (w.withRls b) c x =
    some ((w.tick x.elapsed).withRls b,
      if x.reply = .ok then read (w.withRls b).unscopedMemberships else failed)

theorem isQuery_countMemberships (userId organizationId : Uuid) :
    IsQuery (.countMemberships userId organizationId)
      (fun rows => .ok (rows.countP fun m => m.isOf organizationId userId && m.isLive))
      (.error .connection) := by
  intro w x b
  simp only [accessAnswer, Accounts.answer]
  cases x.reply <;> rfl

theorem isQuery_latestMembership (userId : Uuid) :
    IsQuery (.latestMembership userId)
      (fun rows => .ok ((Accounts.latest (rows.filter fun m =>
        m.userId == userId && m.isLive)).map (·.organizationId)))
      (.error .connection) := by
  intro w x b
  simp only [accessAnswer, Accounts.answer]
  cases x.reply <;> rfl

theorem isQuery_membershipRole (userId organizationId : Uuid) :
    IsQuery (.membershipRole userId organizationId)
      (fun rows => .ok ((rows.find? fun m =>
        m.isOf organizationId userId && m.isLive).map (·.role)))
      (.error .connection) := by
  intro w x b
  simp only [accessAnswer, Accounts.answer]
  cases x.reply <;> rfl

theorem latest_isSome {l : List Membership} (h : l ≠ []) : ∃ m, Accounts.latest l = some m := by
  cases l with
  | nil => exact absurd rfl h
  | cons m rest =>
    simp only [Accounts.latest]
    split
    · exact ⟨m, rfl⟩
    · split
      · exact ⟨_, rfl⟩
      · exact ⟨_, rfl⟩

end Answers

section Extraction

variable {xs : Nat → Outcome} {α : Type} {n : Nat} {w : Accounts}

/-- With and without row-level security a program has the same result and leaves the same
tables. -/
def Transparent (xs : Nat → Outcome) (p : Program access α) (n : Nat) (w : Accounts) : Prop :=
  (p.replay accessAnswer xs n (w.withRls true)).map (fun (w, r) => (w.withRls false, r)) =
    p.replay accessAnswer xs n (w.withRls false)

/-- That is so exactly if no query for memberships finds one. -/
def Exact (xs : Nat → Outcome) (p : Program access α) (n : Nat) (w : Accounts) : Prop :=
  Transparent xs p n w ↔ p.replayAll accessAnswer xs findsNone n (w.withRls false) = true

theorem exact_done (a : α) : Exact xs (.done a) n w := iff_of_true rfl rfl

/-- A call with the same answer for both roles. -/
theorem exact_same {c : access.Call} {k : access.Answer c → Program access α} {r : access.Answer c}
    (hr : ∀ b, accessAnswer (w.withRls b) c (xs n) = some ((w.tick (xs n).elapsed).withRls b, r))
    (hc : findsNone (w.withRls false) c (xs n) = true)
    (hk : Exact xs (k r) (n + 1) (w.tick (xs n).elapsed)) : Exact xs (.call c k) n w := by
  rw [Exact, Transparent, Program.replay, Program.replay, Program.replayAll, hr true, hr false, hc]
  exact hk

theorem exact_shared {c : access.Call} {k : access.Answer c → Program access α}
    (hc : IsShared c) (hnone : ∀ w x, findsNone w c x = true)
    (hk : ∀ r, Exact xs (k r) (n + 1) (w.tick (xs n).elapsed)) : Exact xs (.call c k) n w := by
  obtain ⟨r, hr⟩ := hc w (xs n)
  exact exact_same hr (hnone _ _) (hk r)

/-- A query that finds a membership where row-level security is bypassed. The request is
rejected under row-level security, and ends otherwise without it. -/
theorem exact_found {ε : Type} {c : access.Call} {k : access.Answer c → Program access (Except ε α)}
    {r r' : access.Answer c} {w₁ w₂ : Accounts} {e : ε}
    (henforced : accessAnswer (w.withRls true) c (xs n) = some (w₁, r))
    (hk : k r = .done (.error e))
    (hbypassed : accessAnswer (w.withRls false) c (xs n) = some (w₂, r'))
    (hc : findsNone (w.withRls false) c (xs n) = false)
    (hne : Always (Ways accessAnswer) (fun _ a => a ≠ .error e) (k r') w₂) :
    Exact xs (.call c k) n w := by
  rw [Exact, Transparent, Program.replay, Program.replay, Program.replayAll, henforced, hbypassed,
    hc]
  refine iff_of_false (fun heq => ?_) Bool.false_ne_true
  simp only [Option.bind_some, hk, Program.replay, Option.map_some] at heq
  exact hne.replay heq.symm rfl

/-- A query for memberships, with the rejection of a request that has none. -/
theorem exact_query {ε : Type} {c : access.Call} {k : access.Answer c → Program access (Except ε α)}
    {read : List Membership → access.Answer c} {failed : access.Answer c} {e : ε} {a : Except ε α}
    (hc : IsQuery c read failed) (h : w.NoNil) (hfailed : k failed = .done a)
    (hrejected : k (read []) = .done (.error e))
    (hfails : (xs n).reply ≠ .ok → findsNone (w.withRls false) c (xs n) = true)
    (hnone : (xs n).reply = .ok → findsNone (w.withRls false) c (xs n) = true →
      read w.db.memberships = read [])
    (hfound : (xs n).reply = .ok → findsNone (w.withRls false) c (xs n) = false →
      ∀ w', Always (Ways accessAnswer) (fun _ r => r ≠ .error e) (k (read w.db.memberships)) w') :
    Exact xs (.call c k) n w := by
  have hon := hc w (xs n) true
  have hoff := hc w (xs n) false
  rw [unscopedMemberships_enforced h] at hon
  rw [unscopedMemberships_bypassed] at hoff
  by_cases hreply : (xs n).reply = .ok
  · rw [if_pos hreply] at hon hoff
    cases hfinds : findsNone (w.withRls false) c (xs n) with
    | true =>
      rw [hnone hreply hfinds] at hoff
      refine exact_same (r := read []) (fun b => ?_) hfinds ?_
      · cases b
        · exact hoff
        · exact hon
      · rw [hrejected]
        exact exact_done _
    | false => exact exact_found hon hrejected hoff hfinds (hfound hreply hfinds _)
  · rw [if_neg hreply] at hon hoff
    refine exact_same (r := failed) (fun b => ?_) (hfails hreply) ?_
    · cases b
      · exact hoff
      · exact hon
    · rw [hfailed]
      exact exact_done _

/-! ## The parts of the extraction -/

/-- The role gate. -/
def requireRole (actor : Actor) : Handler OwnerActor := do
  let role ← attempt (fun _ => .reject 500 "role lookup failed")
    (perform (.membershipRole actor.userId actor.organizationId))
  match role with
  | none => throw (.reject 403 "no membership in the active organization")
  | some .owner => return ⟨actor, .owner⟩
  | some .admin => return ⟨actor, .admin⟩
  | some .developer | some .viewer =>
    throw (.reject 403 "this action requires Owner or Admin role")

theorem exact_requireRole (h : w.NoNil) (actor : Actor) :
    Exact xs (requireRole actor).run n w := by
  refine exact_query (isQuery_membershipRole actor.userId actor.organizationId) h rfl rfl
    (fun hreply => by simp [findsNone, hreply]) (fun hreply hfinds => ?_) fun hreply hfinds w' => ?_
  · have hmember : w.isMember actor.organizationId actor.userId = false := by
      simpa [findsNone, hreply] using hfinds
    have hfind : w.db.memberships.find? (fun m =>
        m.isOf actor.organizationId actor.userId && m.isLive) = none :=
      List.find?_eq_none.mpr fun m hm => by simpa using isMember_eq_false_iff.mp hmember m hm
    rw [hfind]
    rfl
  · have hmember : w.isMember actor.organizationId actor.userId = true := by
      simpa [findsNone, hreply] using hfinds
    cases hfind : w.db.memberships.find? fun m =>
        m.isOf actor.organizationId actor.userId && m.isLive with
    | none =>
      have hnone := List.any_eq_false.mpr (List.find?_eq_none.mp hfind)
      rw [Accounts.isMember, hnone] at hmember
      cases hmember
    | some m =>
      obtain ⟨_, _, _, role, _, _⟩ := m
      cases role with
      | owner | admin => exact nofun
      | developer | viewer =>
        intro heq
        simp at heq

/-- Both gates. -/
def requireOwner (actor : Actor) : Handler OwnerActor := do
  requireMfa actor
  requireRole actor

theorem requireOwner_of_nil {actor : Actor} (h : actor.sessionId = Uuid.nil) :
    requireOwner actor = requireRole actor := by
  rw [requireOwner, requireMfa, if_neg (not_not.mpr h)]
  rfl

theorem requireOwner_of_session {actor : Actor} (h : actor.sessionId ≠ Uuid.nil) :
    (requireOwner actor).run = Program.call (I := access) (.sessionMfa actor.sessionId) fun r =>
      match r with
      | .error _ => .done (.error (.reject 500 "session mfa-state lookup failed"))
      | .ok satisfied =>
        if satisfied ≠ some true then
          .done (.error (.platform (.mfaRequired "WebAuthn assertion required for this action")))
        else (requireRole actor).run := by
  rw [requireOwner, requireMfa, if_pos h]
  refine congrArg (Program.call (I := access) (.sessionMfa actor.sessionId)) (funext fun r => ?_)
  rcases r with e | _ | _ | _
  · rfl
  · rfl
  · rfl
  · rfl

theorem exact_requireOwner (h : w.NoNil) (actor : Actor) :
    Exact xs (requireOwner actor).run n w := by
  by_cases hnil : actor.sessionId = Uuid.nil
  · rw [requireOwner_of_nil hnil]
    exact exact_requireRole h actor
  · rw [requireOwner_of_session hnil]
    refine exact_shared (isShared_sessionMfa _) (fun _ _ => rfl) fun r => ?_
    rcases r with e | satisfied
    · exact exact_done _
    · by_cases hs : satisfied ≠ some true
      · simp only [if_pos hs]
        exact exact_done _
      · simp only [if_neg hs]
        exact exact_requireRole (w := w.tick _) h actor

/-- The gates do not reject a request as one of somebody who is no member. -/
theorem requireOwner_ne (actor : Actor) {message : String}
    (hnone : message ≠ "no membership in the active organization")
    (hrole : message ≠ "this action requires Owner or Admin role") :
    Always (Ways accessAnswer) (fun _ a => a ≠ .error (.reject 403 message))
      (requireOwner actor).run w := by
  have hgate (w : Accounts) : Always (Ways accessAnswer)
      (fun _ a => a ≠ .error (.reject 403 message)) (requireRole actor).run w := by
    intro r w' _
    rcases r with e | _ | role
    · intro heq
      simp at heq
    · intro heq
      simp [Ne.symm hnone] at heq
    · cases role with
      | owner | admin => nofun
      | developer | viewer =>
        intro heq
        simp [Ne.symm hrole] at heq
  by_cases hnil : actor.sessionId = Uuid.nil
  · rw [requireOwner_of_nil hnil]
    exact hgate w
  · rw [requireOwner_of_session hnil]
    intro r w' _
    rcases r with e | satisfied
    · intro heq
      simp at heq
    · by_cases hs : satisfied ≠ some true
      · simp only [if_pos hs]
        intro heq
        cases heq
      · simp only [if_neg hs]
        exact hgate w'

/-- The choice of the organization, and the gates after it. -/
def requireOwnerIn (env : Crates) (headers : Headers) (session : Session) : Handler OwnerActor := do
  let orgId ← resolveOrganization env headers session.userId
  requireOwner ⟨session.userId, session.id, orgId⟩

theorem requireOwnerIn_of_header {env : Crates} {headers : Headers} {session : Session}
    {organizationId : Uuid} (h : headers.organizationId.bind env.parseUuid = some organizationId) :
    (requireOwnerIn env headers session).run =
      Program.call (I := access) (.countMemberships session.userId organizationId) fun r =>
        match r with
        | .error _ => .done (.error (.reject 500 "membership check failed"))
        | .ok 0 => .done (.error (.reject 403 "not a member of that organization"))
        | .ok (_ + 1) => (requireOwner ⟨session.userId, session.id, organizationId⟩).run := by
  simp only [requireOwnerIn, resolveOrganization, h]
  refine congrArg (Program.call (I := access) (.countMemberships session.userId organizationId))
    (funext fun r => ?_)
  rcases r with e | _ | k
  · rfl
  · rfl
  · rfl

theorem requireOwnerIn_of_none {env : Crates} {headers : Headers} {session : Session}
    (h : headers.organizationId.bind env.parseUuid = none) :
    (requireOwnerIn env headers session).run =
      Program.call (I := access) (.latestMembership session.userId) fun r =>
        match r with
        | .error _ => .done (.error (.reject 500 "membership lookup failed"))
        | .ok none => .done (.error (.reject 403 "user has no active organization membership"))
        | .ok (some organizationId) =>
          (requireOwner ⟨session.userId, session.id, organizationId⟩).run := by
  simp only [requireOwnerIn, resolveOrganization, h]
  refine congrArg (Program.call (I := access) (.latestMembership session.userId))
    (funext fun r => ?_)
  rcases r with e | _ | organizationId
  · rfl
  · rfl
  · rfl

/-- The organization that the request names. -/
theorem exact_of_header {env : Crates} {headers : Headers} (session : Session)
    {organizationId : Uuid} (horg : headers.organizationId.bind env.parseUuid = some organizationId)
    (h : w.NoNil) : Exact xs (requireOwnerIn env headers session).run n w := by
  rw [requireOwnerIn_of_header horg]
  refine exact_query (isQuery_countMemberships session.userId organizationId) h rfl rfl
    (fun hreply => by simp [findsNone, hreply]) (fun hreply hfinds => ?_) fun hreply hfinds w' => ?_
  · have hmember : w.isMember organizationId session.userId = false := by
      simpa [findsNone, hreply] using hfinds
    have hcount : w.db.memberships.countP (fun m =>
        m.isOf organizationId session.userId && m.isLive) = 0 :=
      List.countP_eq_zero.mpr fun m hm => by simpa using isMember_eq_false_iff.mp hmember m hm
    rw [hcount]
    rfl
  · have hmember : w.isMember organizationId session.userId = true := by
      simpa [findsNone, hreply] using hfinds
    cases hcount : w.db.memberships.countP fun m =>
        m.isOf organizationId session.userId && m.isLive with
    | zero =>
      have hnone := List.any_eq_false.mpr (List.countP_eq_zero.mp hcount)
      rw [Accounts.isMember, hnone] at hmember
      cases hmember
    | succ k => exact requireOwner_ne _ (by decide) (by decide)

/-- The organization that the user joined last. -/
theorem exact_of_none {env : Crates} {headers : Headers} (session : Session)
    (horg : headers.organizationId.bind env.parseUuid = none) (h : w.NoNil) :
    Exact xs (requireOwnerIn env headers session).run n w := by
  rw [requireOwnerIn_of_none horg]
  refine exact_query (isQuery_latestMembership session.userId) h rfl rfl
    (fun hreply => by simp [findsNone, hreply]) (fun hreply hfinds => ?_) fun hreply hfinds w' => ?_
  · have hmember : w.isAnywhere session.userId = false := by
      simpa [findsNone, hreply] using hfinds
    have hfilter : w.db.memberships.filter (fun m => m.userId == session.userId && m.isLive) = [] :=
      List.filter_eq_nil_iff.mpr fun m hm => by simpa using isAnywhere_eq_false_iff.mp hmember m hm
    rw [hfilter]
    rfl
  · have hmember : w.isAnywhere session.userId = true := by
      simpa [findsNone, hreply] using hfinds
    have hfilter : w.db.memberships.filter (fun m =>
        m.userId == session.userId && m.isLive) ≠ [] := by
      intro hnil
      have hnone := List.any_eq_false.mpr (List.filter_eq_nil_iff.mp hnil)
      rw [Accounts.isAnywhere, hnone] at hmember
      cases hmember
    obtain ⟨m, hm⟩ := latest_isSome hfilter
    rw [hm]
    exact requireOwner_ne _ (by decide) (by decide)

theorem exact_requireOwnerIn (h : w.NoNil) (env : Crates) (headers : Headers) (session : Session) :
    Exact xs (requireOwnerIn env headers session).run n w := by
  cases horg : headers.organizationId.bind env.parseUuid with
  | some organizationId => exact exact_of_header session horg h
  | none => exact exact_of_none session horg h

/-- The key of the request, and the gates after it. -/
def requireOwnerByKey (env : Crates) (headers : Headers) : Handler OwnerActor := do
  requireOwner (← authenticateBearer env headers)

theorem exact_requireOwnerByKey (h : w.NoNil) (env : Crates) (headers : Headers) :
    Exact xs (requireOwnerByKey env headers).run n w := by
  rw [requireOwnerByKey, authenticateBearer]
  cases htoken : extractBearerToken headers with
  | none => exact exact_done _
  | some token =>
    by_cases hmark : tokenMark.toList.isPrefixOf token.toList = true
    · simp only [if_pos hmark]
      refine exact_shared (isShared_findApiKey (env.sha256 token)) (fun _ _ => rfl) fun r => ?_
      rcases r with message | _ | ⟨userId, organizationId⟩
      · exact exact_done _
      · exact exact_done _
      · exact exact_requireOwner (w := w.tick _) h ⟨userId, Uuid.nil, organizationId⟩
    · simp only [if_neg hmark]
      exact exact_done _

theorem fromRequestParts_eq (env : Crates) (headers : Headers) :
    OwnerActor.fromRequestParts env headers =
      (resolveCookie env headers >>= fun session =>
        match session with
        | some session => requireOwnerIn env headers session
        | none => requireOwnerByKey env headers) := by
  show (Actor.fromRequestParts env headers >>= requireOwner) = _
  rw [Actor.fromRequestParts, bind_assoc]
  refine congrArg (resolveCookie env headers >>= ·) (funext fun session => ?_)
  cases session with
  | some session => simp only [requireOwnerIn, bind_assoc, pure_bind]
  | none => rfl

/-- The extraction of owners: row-level security makes no difference to it exactly if, without
it, no query for memberships would find one. -/
theorem ownerActor_transparent_iff (h : w.NoNil) (env : Crates) (headers : Headers) :
    Exact xs (OwnerActor.fromRequestParts env headers).run n w := by
  rw [fromRequestParts_eq, resolveCookie]
  cases hcookie : extractSessionCookie env headers with
  | none => exact exact_requireOwnerByKey h env headers
  | some id =>
    refine exact_shared (isShared_resolveSession id) (fun _ _ => rfl) fun r => ?_
    rcases r with e | _ | session
    · exact exact_done _
    · exact exact_requireOwnerByKey (w := w.tick _) h env headers
    · exact exact_requireOwnerIn (w := w.tick _) h env headers session

end Extraction

end Kubinate.Access
