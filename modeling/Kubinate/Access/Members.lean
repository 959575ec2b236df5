import Kubinate.Access.Requests
import Kubinate.Identity.Owners

/-!
# Every actor is a member

The session path of the extractor reads the memberships on every request. The bearer path
reads only the key, and neither `remove_member` nor anything else touches the keys of a
member who leaves. So the bearer path depends on an invariant: whoever holds a usable key is
a member (`KeysOfMembers`).

* `admits`: the answer that decides an extraction, and whom it lets in.
* `actor_letIn`: an accepted extraction ends with such an answer for its actor.
* `keysOfMembers_answer`: the calls that can break the invariant are the removal of a
  member and the insert of a key.
* `actor_is_member`: while no member leaves with a usable key and no key is inserted for
  somebody who has left, every actor is a member.
-/

namespace Kubinate.Access

open Platform Library Identity

/-- The user and the organization that an answer lets in. -/
def admits : (c : AccessCall) → c.Answer → Option (Uuid × Uuid)
  | .countMemberships userId organizationId, .ok n =>
    if n = 0 then none else some (userId, organizationId)
  | .latestMembership userId, .ok (some organizationId) => some (userId, organizationId)
  | .findApiKey _, .ok (some actor) => some actor
  | _, _ => none

/-- The last answer let in this user for this organization. -/
def LetIn (τ : Trace access) (actor : Uuid × Uuid) : Prop :=
  ∃ τ' c r, τ = τ' ++ [⟨c, r⟩] ∧ admits c r = some actor

/-! ## The extractor -/

section Extraction

variable {P : Trace access → AccessCall → Prop}
  {G : Trace access → (c : AccessCall) → c.Answer → Prop} {α β ε : Type} {τ : Trace access}

theorem meets_attempt {f : ε → ApiError} {p : Program access (Except ε α)}
    {Q : Trace access → Except ApiError α → Prop}
    (h : Meets (I := access) P G (fun τ r => Q τ (Except.mapError f r)) p τ) :
    Meets (I := access) P G Q (attempt f p).run τ :=
  meets_bind h fun _ _ h => h

variable (env : Crates) (h : Headers)

theorem resolveOrganization_letIn (userId : Uuid) :
    Meets (I := access) (fun _ _ => True) (fun _ _ _ => True)
      (Post (fun τ organizationId => LetIn τ (userId, organizationId)) fun _ _ => True)
      (resolveOrganization env h userId).run τ := by
  unfold resolveOrganization
  split
  · next headerOrg _ =>
    refine ⟨trivial, fun r _ => ?_⟩
    cases r with
    | error e => trivial
    | ok n =>
      by_cases hn : n = 0
      · subst hn
        trivial
      · show Meets (I := access) _ _ _ (ExceptT.run (if n = 0 then _ else _)) _
        rw [if_neg hn]
        exact ⟨τ, .countMemberships userId headerOrg, .ok n, rfl, if_neg hn⟩
  · refine ⟨trivial, fun r _ => ?_⟩
    match r with
    | .error e => trivial
    | .ok none => trivial
    | .ok (some organizationId) =>
      exact ⟨τ, .latestMembership userId, .ok (some organizationId), rfl, rfl⟩

theorem authenticateBearer_letIn :
    Meets (I := access) (fun _ _ => True) (fun _ _ _ => True)
      (Post (fun τ a => LetIn τ (a.userId, a.organizationId)) fun _ _ => True)
      (authenticateBearer env h).run τ := by
  unfold authenticateBearer
  split
  · next token _ =>
    split
    · refine ⟨trivial, fun r _ => ?_⟩
      match r with
      | .error e => trivial
      | .ok none => trivial
      | .ok (some actor) => exact ⟨τ, .findApiKey (env.sha256 token), .ok (some actor), rfl, rfl⟩
    · trivial
  · trivial

/-- Whoever is extracted was let in by the last answer. -/
theorem actor_letIn :
    Meets (I := access) (fun _ _ => True) (fun _ _ _ => True)
      (Post (fun τ a => LetIn τ (a.userId, a.organizationId)) fun _ _ => True)
      (Actor.fromRequestParts env h).run τ := by
  refine meets_bindE (meets_true _) (fun τ session _ => ?_) fun _ _ _ => trivial
  cases session with
  | none => exact authenticateBearer_letIn env h
  | some session =>
    exact meets_bindE (resolveOrganization_letIn env h session.userId) (fun τ _ h => h)
      fun _ _ _ => trivial

end Extraction

/-! ## Keys and members -/

/-- Whoever holds a usable key is a member of its organization. -/
def KeysOfMembers (w : Accounts) : Prop :=
  ∀ k ∈ w.apiKeys, k.isUsable w.clock = true → w.isMember k.organizationId k.userId = true

theorem ApiKey.isUsable_of_le {k : ApiKey} {now later : Timestamp} (h : now ≤ later)
    (hk : k.isUsable later = true) : k.isUsable now = true := by
  rw [ApiKey.isUsable, Bool.and_eq_true] at hk ⊢
  refine ⟨hk.1, ?_⟩
  cases he : k.expiresAt with
  | none => rfl
  | some e =>
    have hlater := hk.2
    simp only [he, Option.all_some, decide_eq_true_eq] at hlater ⊢
    exact Int.lt_of_le_of_lt h hlater

namespace Accounts

variable {w : Accounts} {x : Outcome} {o u : Uuid}

theorem isMember_iff : w.isMember o u = true ↔
    ∃ m ∈ w.db.memberships, m.organizationId = o ∧ m.userId = u ∧ m.isLive = true := by
  simp [isMember, Membership.isOf, and_assoc]

theorem isMember_congr {w' : Accounts} (h : w'.db.memberships = w.db.memberships) :
    w'.isMember o u = w.isMember o u := by
  rw [isMember, isMember, h]

/-- The calls that write neither `api_keys` nor `memberships`. -/
theorem execute_frame {c : AccessCall} (hd : ∀ c', c ≠ .directory c')
    (hi : ∀ o u n t p e, c ≠ .insertApiKey o u n t p e) :
    (w.execute x c).1.apiKeys = w.apiKeys ∧
      (w.execute x c).1.db.memberships = w.db.memberships ∧ (w.execute x c).1.clock = w.clock := by
  cases c with
  | directory c => exact absurd rfl (hd c)
  | insertApiKey o u n t p e => exact absurd rfl (hi o u n t p e)
  | storeState | putCeremony =>
    simp only [execute]
    split <;> exact ⟨rfl, rfl, rfl⟩
  | consumeState state =>
    simp only [execute, consumeState]
    split
    · exact ⟨rfl, rfl, rfl⟩
    · split <;> exact ⟨rfl, rfl, rfl⟩
  | commitLogin | recordUse | rotateBatch =>
    simp only [execute, commitLogin, recordUse, rotateBatch]
    split <;> exact ⟨rfl, rfl, rfl⟩
  | insertPasskey =>
    simp only [execute, insertPasskey]
    split
    · exact ⟨rfl, rfl, rfl⟩
    · split <;> exact ⟨rfl, rfl, rfl⟩
  | revokePasskey =>
    simp only [execute, revokePasskey]
    split
    · exact ⟨rfl, rfl, rfl⟩
    · split <;> exact ⟨rfl, rfl, rfl⟩
  | _ => exact ⟨rfl, rfl, rfl⟩

/-- A member stays one, unless the statement removes exactly that member. -/
theorem isMember_change {c : MembershipStatement} {db : Database} {n : Nat}
    (h : w.db.changeMembership c = .ok (db, n)) (hm : w.isMember o u = true) :
    (∃ now, c = .softDelete now o u) ∨ (w.setDb db).isMember o u = true := by
  obtain ⟨m, hmem, ho, hu, hlive⟩ := isMember_iff.mp hm
  cases c with
  | upsert id now organizationId userId role =>
    refine .inr (isMember_iff.mpr ?_)
    rcases Database.upsert_cases h with rfl | ⟨-, rfl⟩
    · refine ⟨_, List.mem_map_of_mem hmem, ?_⟩
      split
      · exact ⟨ho, hu, rfl⟩
      · exact ⟨ho, hu, hlive⟩
    · exact ⟨m, List.mem_append_left _ hmem, ho, hu, hlive⟩
  | updateRole organizationId userId role =>
    cases h
    refine .inr (isMember_iff.mpr ⟨_, List.mem_map_of_mem hmem, ?_⟩)
    split
    · exact ⟨ho, hu, hlive⟩
    · exact ⟨ho, hu, hlive⟩
  | softDelete now organizationId userId =>
    cases h
    by_cases hof : m.isOf organizationId userId = true
    · obtain ⟨ho', hu'⟩ := Database.isOf_eq_true_iff.mp hof
      refine .inl ⟨now, ?_⟩
      rw [← ho, ← hu, ho', hu']
    · refine .inr (isMember_iff.mpr ⟨_, List.mem_map_of_mem hmem, ?_⟩)
      rw [if_neg (by simp [hof])]
      exact ⟨ho, hu, hlive⟩

/-- The same for a call of the directory. -/
theorem isMember_directory {c : DirectoryCall} (hm : w.isMember o u = true) :
    c = .softDelete o u ∨ (w.execute x (.directory c)).1.isMember o u = true := by
  rcases Directory.execute_memberships (d := w.directory) (x := ⟨.ok, w.clock, x.id⟩) c with
    h | ⟨m, db, n, hstatement, hchange, h⟩
  · exact .inr ((isMember_congr h).trans hm)
  · rcases isMember_change hchange hm with ⟨now, rfl⟩ | hm'
    · cases c with
      | softDelete organizationId userId =>
        simp only [DirectoryCall.statement, Option.some.injEq,
          MembershipStatement.softDelete.injEq] at hstatement
        exact .inl (by rw [hstatement.2.1, hstatement.2.2])
      | _ => simp [DirectoryCall.statement] at hstatement
    · exact .inr ((isMember_congr (w := w.setDb db) h).trans hm')

theorem insertApiKey_cases (k : ApiKey) :
    (w.insertApiKey k).1 = w ∨ (w.insertApiKey k).1 = { w with apiKeys := w.apiKeys ++ [k] } := by
  unfold insertApiKey
  split
  · exact .inl rfl
  · split
    · exact .inl rfl
    · exact .inr rfl

/-- The call leaves the keys to members: a key goes to a member, and a member who leaves has
no usable key. -/
def keepsKeys (w : Accounts) : AccessCall → Bool
  | .insertApiKey organizationId userId .. => w.isMember organizationId userId
  | .directory (.softDelete organizationId userId) =>
    w.apiKeys.all fun k => !(k.isOf organizationId userId && k.isUsable w.clock)
  | _ => true

theorem keysOfMembers_execute {c : AccessCall} (h : KeysOfMembers w)
    (hC : w.keepsKeys c = true) : KeysOfMembers (w.execute x c).1 := by
  by_cases hd : ∃ c', c = .directory c'
  · obtain ⟨c, rfl⟩ := hd
    intro k hk husable
    rcases isMember_directory (x := x) (c := c) (h k hk husable) with rfl | hm
    · -- the holder of a usable key is not removed
      have hnot := List.all_eq_true.mp hC k hk
      have husable' : k.isUsable w.clock = true := husable
      simp [ApiKey.isOf, husable'] at hnot
    · exact hm
  by_cases hi : ∃ o u n t p e, c = .insertApiKey o u n t p e
  · obtain ⟨o, u, n, t, p, e, rfl⟩ := hi
    rcases insertApiKey_cases (w := w) ⟨x.id, o, u, n, t, p, w.clock,
      e.map fun days => w.clock + days * day, none⟩ with heq | heq
    · show KeysOfMembers (w.insertApiKey _).1
      rw [heq]
      exact h
    · show KeysOfMembers (w.insertApiKey _).1
      rw [heq]
      intro k hk husable
      rcases List.mem_append.mp hk with hk | hk
      · exact h k hk husable
      · cases List.mem_singleton.mp hk
        exact hC
  · obtain ⟨hkeys, hmembers, hclock⟩ := execute_frame (w := w) (x := x) (c := c)
      (fun c' hc => hd ⟨c', hc⟩) fun o u n t p e hc => hi ⟨o, u, n, t, p, e, hc⟩
    intro k hk husable
    rw [hkeys] at hk
    rw [hclock] at husable
    exact (isMember_congr hmembers).trans (h k hk husable)

theorem keysOfMembers_tick (h : KeysOfMembers w) (elapsed : Nat) :
    KeysOfMembers (w.tick elapsed) := by
  intro k hk husable
  exact h k hk (ApiKey.isUsable_of_le (Int.le_add_of_nonneg_right (Int.natCast_nonneg _)) husable)

theorem keysOfMembers_answer {c : AccessCall} (h : KeysOfMembers w)
    (hC : x.reply = .failed ∨ (w.tick x.elapsed).keepsKeys c = true) :
    KeysOfMembers (w.answer c x).1 := by
  have htick := keysOfMembers_tick h x.elapsed
  unfold answer
  cases hr : x.reply with
  | ok => exact keysOfMembers_execute htick (hC.resolve_left (by simp [hr]))
  | lost => exact keysOfMembers_execute htick (hC.resolve_left (by simp [hr]))
  | failed =>
    cases c with
    | stashNickname => exact keysOfMembers_execute htick rfl
    | takeNickname => exact keysOfMembers_execute htick rfl
    | _ => exact htick

theorem mem_unscopedMemberships {m : Membership} (h : m ∈ w.unscopedMemberships) :
    m ∈ w.db.memberships :=
  List.mem_of_mem_filter h

theorem mem_of_latest {m : Membership} : {ms : List Membership} → latest ms = some m → m ∈ ms
  | [], h => by cases h
  | a :: ms, h => by
    unfold latest at h
    split at h
    · cases h
      exact List.mem_cons_self
    · next n hn =>
      split at h
      · cases h
        exact List.mem_cons_of_mem _ (mem_of_latest hn)
      · cases h
        exact List.mem_cons_self

/-- Whoever an answer lets in is a member, as long as the keys are with members. -/
theorem isMember_of_admits {c : AccessCall} (h : KeysOfMembers w)
    (ha : admits c (w.execute x c).2 = some (u, o)) : w.isMember o u = true := by
  cases c with
  | countMemberships userId organizationId =>
    simp only [execute, admits] at ha
    split at ha
    · cases ha
    · next hcount =>
      cases ha
      obtain ⟨m, hm, hp⟩ := List.countP_pos_iff.mp (Nat.pos_of_ne_zero hcount)
      simp only [Bool.and_eq_true, Database.isOf_eq_true_iff] at hp
      exact isMember_iff.mpr ⟨m, mem_unscopedMemberships hm, hp.1.1, hp.1.2, hp.2⟩
  | latestMembership userId =>
    simp only [execute] at ha
    cases hl : latest (w.unscopedMemberships.filter fun m => m.userId == userId && m.isLive) with
    | none =>
      rw [hl] at ha
      cases ha
    | some m =>
      rw [hl] at ha
      cases ha
      obtain ⟨hm, hp⟩ := List.mem_filter.mp (mem_of_latest hl)
      simp only [Bool.and_eq_true, beq_iff_eq] at hp
      exact isMember_iff.mpr ⟨m, mem_unscopedMemberships hm, rfl, hp.1, hp.2⟩
  | findApiKey tokenHash =>
    simp only [execute] at ha
    cases hk : w.apiKeys.find? fun k => k.tokenHash == tokenHash && k.isUsable w.clock with
    | none =>
      rw [hk] at ha
      cases ha
    | some k =>
      rw [hk] at ha
      cases ha
      have husable := List.find?_some hk
      rw [Bool.and_eq_true] at husable
      exact h k (List.mem_of_find?_eq_some hk) husable.2
  | _ => simp [admits] at ha

/-- A query that fails lets nobody in, and one that succeeds changes nothing. -/
theorem execute_of_admits {c : AccessCall} {actor : Uuid × Uuid}
    (ha : admits c (w.answer c x).2 = some actor) :
    admits c ((w.tick x.elapsed).execute x c).2 = some actor ∧
      (w.answer c x).1 = w.tick x.elapsed := by
  unfold answer at ha ⊢
  cases hr : x.reply with
  | ok =>
    rw [hr] at ha
    cases c with
    | countMemberships | latestMembership | findApiKey => exact ⟨ha, rfl⟩
    | _ => simp [admits] at ha
  | failed | lost =>
    rw [hr] at ha
    cases c with
    | countMemberships | latestMembership | findApiKey => cases ha
    | _ => simp [admits] at ha

end Accounts

/-! ## Runs -/

section Runs

variable (env : Deployment)

/-- No member leaves with a usable key, and no key is inserted for somebody who has left. -/
def keysStayWithMembers (s : PoolState access Accounts Request (Except ApiError Response)) :
    Act Request Outcome → Bool
  | .start _ => true
  | .step i x =>
    match s.nextCall i with
    | some c => x.reply == .failed || (s.world.tick x.elapsed).keepsKeys c
    | none => true

/-- The end of a request that only extracts its actor. -/
def ExtractedIsLetIn : Request → Trace access → Except ApiError Response → Prop
  | .asActor _, τ, .ok (.actor a) => LetIn τ (a.userId, a.organizationId)
  | _, _, _ => True

theorem handler_meets (r : Request) :
    Meets (I := access) (fun _ _ => True) (fun _ _ _ => True) (ExtractedIsLetIn r)
      (r.handler env).run [] := by
  cases r with
  | asActor h =>
    refine meets_bind (actor_letIn env.toCrates h) ?_
    rintro τ (e | a) hr
    · trivial
    · exact hr
  | _ => exact meets_mono (meets_true _) (fun _ _ h => h) fun _ _ _ => trivial

theorem keysOfMembers_of_nil {w : Accounts} (h : w.apiKeys = []) : KeysOfMembers w := by
  intro k hk
  rw [h] at hk
  cases hk

/-- The run lemma: keys stay with members, and every request is inside its specification. -/
theorem accessPool_slots {s s' : PoolState access Accounts Request (Except ApiError Response)}
    {as : List (Act Request Outcome)}
    (h0 : Pool.Slots (fun _ _ _ => True) ExtractedIsLetIn KeysOfMembers (fun _ _ _ => True) s)
    (hC : (accessPool env).allSteps keysStayWithMembers s as = true)
    (h : (accessPool env).exec s as = some s') :
    Pool.Slots (fun _ _ _ => True) ExtractedIsLetIn KeysOfMembers (fun _ _ _ => True) s' := by
  refine Pool.exec_slots (handler_meets env) (fun _ _ _ _ _ => trivial) ?_ h0 hC h
  intro s i x t c w r js hs hCs ht hnext _ ha
  cases ha
  refine ⟨Accounts.keysOfMembers_answer hs.world ?_, trivial, fun _ _ => trivial⟩
  simpa [keysStayWithMembers, hnext] using hCs

/-- From a time before the first key on, while no member leaves with a usable key and no key
is inserted for somebody who has left: the moment a request is extracted, its actor is a
member. -/
theorem actor_is_member {w : Accounts} (hw : w.apiKeys = []) {as : List (Act Request Outcome)}
    {s s' : PoolState access Accounts Request (Except ApiError Response)} {i : Nat} {x : Outcome}
    {h : Headers} {τ : Trace access} {a : Actor}
    (hrun : (accessPool env).exec (Pool.init w) as = some s)
    (hC : (accessPool env).allSteps keysStayWithMembers (Pool.init w) as = true)
    (hstep : (accessPool env).step s (.step i x) = some s')
    (hslot : s'.slot i = some (.asActor h, τ)) (hresult : s'.result i = some (.ok (.actor a))) :
    s'.world.isMember a.organizationId a.userId = true := by
  have hs := accessPool_slots env (Pool.slots_init (keysOfMembers_of_nil hw) fun _ => trivial) hC hrun
  obtain ⟨τ₁, c, r, js, rfl, ha, τ₂, c₂, r₂, hlast, hadmits⟩ := hs.ended_by_step hstep hslot hresult
  obtain ⟨-, hentry⟩ := List.append_inj' hlast rfl
  cases List.singleton_inj.mp hentry
  obtain ⟨hworld, hr, -⟩ : (s.world.answer c x).1 = s'.world ∧ (s.world.answer c x).2 = r ∧ _ :=
    by simpa [accessPool] using ha
  rw [← hr] at hadmits
  obtain ⟨hexecuted, hsame⟩ := Accounts.execute_of_admits hadmits
  rw [← hworld, hsame]
  exact Accounts.isMember_of_admits (Accounts.keysOfMembers_tick hs.world x.elapsed) hexecuted

end Runs

/-- The token `kpat_` with 32 zero bytes, and its SHA-256. -/
def zeroToken : String := "kpat_AAAAAAAAAAAAAAAAAAAAAAAAAAAAAAAAAAAAAAAAAAA"

def zeroTokenHash : List UInt8 :=
  [254, 228, 43, 202, 60, 232, 40, 146, 179, 249, 76, 162, 146, 141, 197, 134, 122, 103, 5, 90, 6,
    14, 248, 62, 85, 83, 24, 132, 124, 168, 112, 62]

/-- Enough of the other crates for two session ids, one token and plain letters. -/
def smallDeployment : Deployment where
  parseUuid := fun text => [10#128, 20#128].find? fun id => id.text == text
  sha256 := fun text => if text = zeroToken then zeroTokenHash else []
  toUppercase := fun c => [c.toUpper]
  webauthn := none

/-- Organization 7 with the owner 1 and the developer 2, each with a session. -/
def smallTeam : Accounts where
  directory :=
    { enforceRls := false
      db :=
        { organizations := [7]
          users := [⟨1, "ada@example.com", "Ada", false, true⟩,
            ⟨2, "bob@example.com", "Bob", false, false⟩]
          memberships := [⟨5, 7, 1, .owner, 0, none⟩, ⟨6, 7, 2, .developer, 0, none⟩]
          passkeys := [] } }
  sessions := [⟨10, 1, 0, sessionTtl, none, true⟩, ⟨20, 2, 0, sessionTtl, none, true⟩]

def cookieOf (id : Uuid) : Headers := { cookie := some (sessionCookie ++ "=" ++ id.text) }

def bearerZero : Headers := { authorization := some ("Bearer " ++ zeroToken) }

/-- The developer creates a key. -/
def createKey : List (Act Request Outcome) :=
  let ok : Outcome := { reply := .ok, elapsed := 1, id := 30 }
  [.start (.createApiKey (cookieOf 20) "ci" none zeroToken), .step 0 ok, .step 0 ok, .step 0 ok]

/-- The last call of a request that uses the key. -/
def useKey : Outcome := { reply := .ok, elapsed := 1 }

theorem actor_is_member_with_key :
    ∃ s s' τ, (accessPool smallDeployment).exec (Pool.init smallTeam)
        (createKey ++ [.start (.asActor bearerZero)]) = some s ∧
      (accessPool smallDeployment).step s (.step 1 useKey) = some s' ∧
      s'.slot 1 = some (.asActor bearerZero, τ) ∧
      s'.result 1 = some (.ok (.actor ⟨2, Uuid.nil, 7⟩)) ∧ s'.world.isMember 7 2 = true := by
  have hrun : ((accessPool smallDeployment).exec (Pool.init smallTeam)
      (createKey ++ [.start (.asActor bearerZero)])).any (fun s =>
        ((accessPool smallDeployment).step s (.step 1 useKey)).any fun s' =>
          decide ((s'.slot 1).map Prod.fst = some (.asActor bearerZero)) &&
            decide (s'.result 1 = some (.ok (.actor ⟨2, Uuid.nil, 7⟩)))) = true := by
    decide +kernel
  have hC : (accessPool smallDeployment).allSteps keysStayWithMembers (Pool.init smallTeam)
      (createKey ++ [.start (.asActor bearerZero)]) = true := by decide +kernel
  obtain ⟨s, hs, hrest⟩ := (Option.any_eq_true _ _).mp hrun
  obtain ⟨s', hs', hend⟩ := (Option.any_eq_true _ _).mp hrest
  rw [Bool.and_eq_true, decide_eq_true_eq, decide_eq_true_eq, Option.map_eq_some_iff] at hend
  obtain ⟨⟨⟨j, τ⟩, hslot, rfl⟩, hresult⟩ := hend
  exact ⟨s, s', τ, hs, hs', hslot, hresult,
    actor_is_member smallDeployment rfl hs hC hs' hslot hresult⟩

/-- The owner removes the developer, who then uses the key. -/
def leaveWithKey : List (Act Request Outcome) :=
  let ok : Outcome := { reply := .ok, elapsed := 1 }
  createKey ++
    [.start (.removeMember (cookieOf 10) 7 2), .step 1 ok, .step 1 ok, .step 1 ok, .step 1 ok,
      .step 1 ok, .step 1 ok, .start (.asActor bearerZero)]

/-- A key outlives the membership of its holder. -/
theorem not_actor_is_member :
    ¬ ∀ (env : Deployment) (w : Accounts) (as : List (Act Request Outcome))
      (s s' : PoolState access Accounts Request (Except ApiError Response)) (i : Nat)
      (x : Outcome) (h : Headers) (τ : Trace access) (a : Actor), w.apiKeys = [] →
      (accessPool env).exec (Pool.init w) as = some s →
      (accessPool env).step s (.step i x) = some s' → s'.slot i = some (.asActor h, τ) →
      s'.result i = some (.ok (.actor a)) →
      s'.world.isMember a.organizationId a.userId = true := by
  intro h
  have hrun : ((accessPool smallDeployment).exec (Pool.init smallTeam) leaveWithKey).any (fun s =>
      ((accessPool smallDeployment).step s (.step 2 useKey)).any fun s' =>
        decide ((s'.slot 2).map Prod.fst = some (.asActor bearerZero)) &&
          decide (s'.result 2 = some (.ok (.actor ⟨2, Uuid.nil, 7⟩))) &&
            !s'.world.isMember 7 2) = true := by
    decide +kernel
  obtain ⟨s, hs, hrest⟩ := (Option.any_eq_true _ _).mp hrun
  obtain ⟨s', hs', hend⟩ := (Option.any_eq_true _ _).mp hrest
  rw [Bool.and_eq_true, Bool.and_eq_true, decide_eq_true_eq, decide_eq_true_eq,
    Option.map_eq_some_iff] at hend
  obtain ⟨⟨⟨⟨j, τ⟩, hslot, rfl⟩, hresult⟩, hnot⟩ := hend
  have hmember := h smallDeployment smallTeam leaveWithKey s s' 2 useKey bearerZero τ _ rfl hs hs'
    hslot hresult
  rw [hmember] at hnot
  cases hnot

end Kubinate.Access
