import Kubinate.Access.Effects
import Kubinate.Access.Evidence

/-!
# The gate of owners and a partial session

A client holds a partial session of a user who has to pass a second factor, and nothing else
of his. The routes for API keys, passkeys and recovery codes take an `Actor`, which a partial
session is, although the documentation of `auth_passkey.rs` reserves them for full sessions:
the client can create credentials that the gate then accepts, or take away the passkeys that
make a login partial.

* `ClientRequest`: the requests that such a client can make.
* `keepsGate`: a call that creates no credential of the user, and makes no login full.
* `Shut`: what the gate depends on; `Known`: what a request of the client can have been told.
* `owner_never_passes`: while every call keeps the gate, no request passes as an owner.
* `not_owner_never_passes`: with an API key one does.
-/

namespace Kubinate.Access

open Platform Library Identity

/-- The tables when the client has got hold of the partial session `p` of the user `u`. -/
structure Begins (w : Accounts) (u p : Uuid) : Prop where
  requiresMfa : ∃ v ∈ w.db.users, v.id = u ∧ v.requiresMfa = true
  passkey : ∃ q ∈ w.db.passkeys, q.userId = u ∧ q.isLive = true
  session : ∃ s ∈ w.sessions, s.id = p ∧ s.userId = u ∧ s.mfaSatisfied = false
  ids : (w.sessions.map (·.id)).Nodup
  noNil : ∀ s ∈ w.sessions, s.id ≠ Uuid.nil

/-- A request with no other session of the user than `p`, and with none of his API keys. What
belongs to others, or was given out since, the client may use. -/
structure ClientRequest (env : Deployment) (w : Accounts) (u p : Uuid) where
  request : Request
  ownSession : ∀ s ∈ w.sessions, s.userId = u →
    extractSessionCookie env.toCrates request.headers = some s.id → s.id = p
  ownKeys : ∀ k ∈ w.apiKeys, k.userId = u → ∀ token,
    extractBearerToken request.headers = some token → env.sha256 token ≠ k.tokenHash

/-- Any number of requests of the client, interleaved between their calls. -/
def clientPool (env : Deployment) (w : Accounts) (u p : Uuid) :
    Pool access Accounts (ClientRequest env w u p) Outcome (Except ApiError Response) where
  prog := fun r => (r.request.handler env).run
  external := fun _ => true
  answer := fun w _ c x => let (w, r) := w.answer c x; some (w, r, [])

/-- A successful assertion by a passkey of the user, or the redemption of a recovery code of
his, that is already in the tables `w`. -/
def proves (w : Accounts) (u : Uuid) : (c : AccessCall) → c.Answer → Bool
  | .recordUse id _ _, .ok () => w.db.passkeys.any fun q => q.id == id && q.userId == u
  | .tryConsume v hash, .ok true =>
    v == u && w.recoveryCodes.any fun r => r.userId == u && r.codeHash == hash
  | _, _ => false

/-- The call gives the user no new API key, passkey or recovery code, and a login of his is
partial. -/
def keepsGate (u : Uuid) (w : Accounts) (x : Outcome) : AccessCall → Bool
  | .insertApiKey _ v .. | .insertPasskey v .. | .rotateBatch v _ => v != u || x.reply == .failed
  | .requiresPartialSession v => v != u || x.reply != .ok ||
    w.db.users.any fun y => y.id == v && y.requiresMfa && y.mfaEnrolled
  | _ => true

/-- The id that `Uuid::now_v7` draws for a session is not the nil one. -/
def drawsId (x : Outcome) : AccessCall → Bool
  | .commitLogin .. => x.id != Uuid.nil
  | _ => true

section

variable {J : Type}

/-- A condition on the call that a request makes next. -/
def onNext (C : Accounts → Outcome → AccessCall → Bool)
    (s : PoolState access Accounts J (Except ApiError Response)) : Act J Outcome → Bool
  | .start _ => true
  | .step i x => (s.nextCall i).all fun c => C s.world x c

end

/-! ## The invariant -/

/-- Since `w₀`, the user has got no new credential, and no session of his has been promoted. -/
structure Shut (w₀ : Accounts) (u p : Uuid) (w : Accounts) : Prop where
  ids : (w.sessions.map (·.id)).Nodup
  noNil : ∀ s ∈ w.sessions, s.id ≠ Uuid.nil
  sessions : ∀ s ∈ w.sessions, s.userId = u → s.mfaSatisfied = true →
    ∃ s₀ ∈ w₀.sessions, s₀.id = s.id ∧ s₀.userId = u ∧ s₀.id ≠ p
  keys : ∀ k ∈ w.apiKeys, k.userId = u → k ∈ w₀.apiKeys
  passkeys : ∀ q ∈ w.db.passkeys, q.userId = u → ∃ q₀ ∈ w₀.db.passkeys, q₀.id = q.id ∧ q₀.userId = u
  codes : ∀ r ∈ w.recoveryCodes, r.userId = u →
    ∃ r₀ ∈ w₀.recoveryCodes, r₀.userId = u ∧ r₀.codeHash = r.codeHash

/-- What a request of the client can have been told. -/
def Known (env : Deployment) (w₀ : Accounts) (u : Uuid) (h : Headers) (w : Accounts) :
    (c : AccessCall) → c.Answer → Prop
  | .resolveSession id, .ok (some s) => s.id = id ∧
    extractSessionCookie env.toCrates h = some id ∧ ∃ s' ∈ w.sessions, s'.id = s.id ∧ s'.userId = s.userId
  | .findApiKey _, .ok (some (v, _)) => v ≠ u
  | .sessionMfa id, .ok (some true) => ∃ s ∈ w.sessions, s.id = id ∧ s.mfaSatisfied = true
  | .requiresPartialSession v, .ok b => v = u → b = true
  | .findPasskey _, .ok (some q) => q.userId = u → ∃ q₀ ∈ w₀.db.passkeys, q₀.id = q.id ∧ q₀.userId = u
  | .recordUse id _ _, .ok () => ¬ ∃ q₀ ∈ w₀.db.passkeys, q₀.id = id ∧ q₀.userId = u
  | .tryConsume v _, .ok true => v ≠ u
  | .membershipRole v _, _ => v ≠ u
  | _, _ => True

section Invariant

variable {env : Deployment} {w₀ w w' : Accounts} {u p : Uuid} {h : Headers} {x : Outcome}
  {c : AccessCall} {τ : Trace access}

theorem shut_begin (hw : Begins w u p) : Shut w u p w where
  ids := hw.ids
  noNil := hw.noNil
  sessions := by
    intro s hs huser hsatisfied
    refine ⟨s, hs, rfl, huser, fun hp => ?_⟩
    obtain ⟨s', hs', hid, -, hpartial⟩ := hw.session
    have heq : s = s' := List.inj_on_of_nodup_map hw.ids hs hs' (hp.trans hid.symm)
    rw [heq, hpartial] at hsatisfied
    cases hsatisfied
  keys := fun k hk _ => hk
  passkeys := fun q hq huser => ⟨q, hq, rfl, huser⟩
  codes := fun r hr huser => ⟨r, hr, huser, rfl⟩

theorem Known.persists {c' : AccessCall} {r : c'.Answer} (hk : Known env w₀ u h w c' r) :
    Known env w₀ u h (w.answer c x).1 c' r := by
  unfold Known at hk ⊢
  split
  · obtain ⟨hid, hcookie, s', hs', hid', huser⟩ := hk
    obtain ⟨s'', hs'', hid'', huser'', -⟩ := Accounts.session_persists (c := c) (x := x) hs'
    exact ⟨hid, hcookie, s'', hs'', hid''.trans hid', huser''.trans huser⟩
  · exact hk
  · obtain ⟨s, hs, hid, hsatisfied⟩ := hk
    obtain ⟨s', hs', hid', -, hkeeps⟩ := Accounts.session_persists (c := c) (x := x) hs
    exact ⟨s', hs', hid'.trans hid, hkeeps hsatisfied⟩
  · exact hk
  · exact hk
  · exact hk
  · exact hk
  · exact hk
  · trivial

/-- What the request has been told so far. -/
def AllKnown (env : Deployment) (w₀ : Accounts) (u : Uuid) (h : Headers) (w : Accounts)
    (τ : Trace access) : Prop :=
  ∀ e ∈ τ, Known env w₀ u h w e.1 e.2

theorem AllKnown.resolved (hτ : AllKnown env w₀ u h w τ) {s : Session} (hs : Resolved τ s) :
    extractSessionCookie env.toCrates h = some s.id ∧
      ∃ s' ∈ w.sessions, s'.id = s.id ∧ s'.userId = s.userId := by
  obtain ⟨id, hmem⟩ := hs
  obtain ⟨hid, hcookie, hs'⟩ := hτ _ hmem
  exact ⟨hcookie.trans (congrArg some hid.symm), hs'⟩

/-- The session that a request carries is the one that is stored under its id. -/
theorem Shut.resolved_user (hw : Shut w₀ u p w) (hτ : AllKnown env w₀ u h w τ) {s s' : Session}
    (hs : Resolved τ s) (hs' : s' ∈ w.sessions) (hid : s'.id = s.id) : s'.userId = s.userId := by
  obtain ⟨-, s'', hs'', hid'', huser⟩ := hτ.resolved hs
  have heq : s' = s'' := List.inj_on_of_nodup_map hw.ids hs' hs'' (hid.trans hid''.symm)
  rw [heq, huser]

/-- Nobody has proved to be the user. -/
theorem AllKnown.not_proved (hτ : AllKnown env w₀ u h w τ) :
    ¬ (Asserted τ env u ∨ Redeemed τ u) := by
  rintro (⟨_, _, _, _, row, _, _, _, -, hfound, huser, -, -, hused⟩ | ⟨hash, hconsumed⟩)
  · exact hτ _ hused (hτ _ hfound huser)
  · exact hτ _ hconsumed rfl

/-- Nobody is cleared as the user: a key of his would be an old one, and a promoted session
one of the others. -/
theorem Shut.not_cleared {r : ClientRequest env w₀ u p} (hw : Shut w₀ u p w)
    (hτ : AllKnown env w₀ u r.request.headers w τ) : ¬ Cleared τ u := by
  rintro (⟨tokenHash, organizationId, hkey⟩ | ⟨s, hs, huser, hgate⟩)
  · exact hτ _ hkey rfl
  · obtain ⟨hcookie, s', hs', hid', huser'⟩ := hτ.resolved hs
    rcases hgate with hnil | hgate
    · exact hw.noNil s' hs' (hid'.trans hnil)
    · obtain ⟨s'', hs'', hid'', hsatisfied⟩ := hτ _ hgate
      have hown : s''.userId = u := (hw.resolved_user hτ hs hs'' hid'').trans huser
      obtain ⟨s₀, hs₀, hid₀, huser₀, hother⟩ := hw.sessions s'' hs'' hown hsatisfied
      refine hother (r.ownSession s₀ hs₀ huser₀ ?_)
      rw [hcookie, hid₀, hid'']

/-- The one who makes the call knows what he may be told. -/
theorem known_answer {r : ClientRequest env w₀ u p} (hw : Shut w₀ u p w)
    (hτ : AllKnown env w₀ u r.request.headers w τ) (hc : Warranted env r.request.headers τ c)
    (hproof : proves w₀ u c (w.answer c x).2 = false) (hgate : keepsGate u w x c = true) :
    Known env w₀ u r.request.headers (w.answer c x).1 c (w.answer c x).2 := by
  cases c with
  | membershipRole v organizationId =>
    show v ≠ u
    rintro rfl
    exact hw.not_cleared hτ hc
  | resolveSession id =>
    cases hanswer : (w.answer (.resolveSession id) x).2 with
    | error e => trivial
    | ok o =>
      cases o with
      | none => trivial
      | some s =>
        have hfind := (Accounts.reply_of_resolveSession hanswer).symm
        have hid := List.find?_some hfind
        simp only [Bool.and_eq_true, beq_iff_eq] at hid
        obtain ⟨s', hs', hid', huser, -⟩ := Accounts.session_persists (c := .resolveSession id)
          (x := x) (List.mem_of_find?_eq_some hfind)
        exact ⟨hid.1, hc, s', hs', hid', huser⟩
  | findApiKey tokenHash =>
    cases hanswer : (w.answer (.findApiKey tokenHash) x).2 with
    | error e => trivial
    | ok o =>
      cases o with
      | none => trivial
      | some a =>
        obtain ⟨k, hfind, rfl⟩ :=
          Option.map_eq_some_iff.mp (Accounts.reply_of_findApiKey hanswer).symm
        show k.userId ≠ u
        intro huser
        have hhash := List.find?_some hfind
        simp only [Bool.and_eq_true, beq_iff_eq] at hhash
        obtain ⟨token, htoken, hsha⟩ := hc
        have hold := hw.keys k (List.mem_of_find?_eq_some hfind) huser
        exact r.ownKeys k hold huser token htoken (hsha.symm.trans hhash.1.symm)
  | sessionMfa id =>
    cases hanswer : (w.answer (.sessionMfa id) x).2 with
    | error e => trivial
    | ok o =>
      cases o with
      | none => trivial
      | some b =>
        cases b with
        | false => trivial
        | true =>
          obtain ⟨s, hfind, hsatisfied⟩ :=
            Option.map_eq_some_iff.mp (Accounts.reply_of_sessionMfa hanswer).symm
          have hid := List.find?_some hfind
          simp only [Bool.and_eq_true, beq_iff_eq] at hid
          obtain ⟨s', hs', hid', -, hkeeps⟩ := Accounts.session_persists (c := .sessionMfa id)
            (x := x) (List.mem_of_find?_eq_some hfind)
          exact ⟨s', hs', hid'.trans hid.1, hkeeps hsatisfied⟩
  | requiresPartialSession v =>
    cases hanswer : (w.answer (.requiresPartialSession v) x).2 with
    | error e => trivial
    | ok b =>
      obtain ⟨hreply, hb⟩ := Accounts.reply_of_requiresPartialSession hanswer
      show v = u → b = true
      rintro rfl
      rw [hb]
      simpa [keepsGate, hreply] using hgate
  | findPasskey credentialId =>
    cases hanswer : (w.answer (.findPasskey credentialId) x).2 with
    | error e => trivial
    | ok o =>
      cases o with
      | none => trivial
      | some q =>
        have hfind := (Accounts.reply_of_findPasskey hanswer).symm
        exact fun huser => hw.passkeys q (List.mem_of_find?_eq_some hfind) huser
  | recordUse id counter credential =>
    cases hanswer : (w.answer (.recordUse id counter credential) x).2 with
    | error e => trivial
    | ok _ =>
      rintro ⟨q₀, hq₀, hid, huser⟩
      rw [hanswer] at hproof
      have hnone := List.any_eq_false.mp hproof q₀ hq₀
      simp [hid, huser] at hnone
  | tryConsume v hash =>
    cases hanswer : (w.answer (.tryConsume v hash) x).2 with
    | error e => trivial
    | ok b =>
      cases b with
      | false => trivial
      | true =>
        rw [hanswer] at hproof
        show v ≠ u
        rintro rfl
        obtain ⟨code, hcode, hlive⟩ :=
          List.any_eq_true.mp (Accounts.reply_of_tryConsume hanswer).symm
        simp only [Bool.and_eq_true, beq_iff_eq] at hlive
        obtain ⟨r₀, hr₀, huser, hhash⟩ := hw.codes code hcode hlive.1.1
        have hnone := (Bool.and_eq_false_iff.mp hproof).resolve_left (by simp)
        have hnot := List.any_eq_false.mp hnone r₀ hr₀
        simp [huser, hhash, hlive.1.2] at hnot
  | _ => trivial

/-- A call that takes effect leaves the gate shut, if it keeps it and who makes it is warranted
to. -/
theorem shut_execute (hw : Shut w₀ u p w) (hτ : AllKnown env w₀ u h w τ)
    (hc : Warranted env h τ c) (hgate : ∀ v, (∃ o n t q e, c = .insertApiKey o v n t q e) ∨
      (∃ i k n, c = .insertPasskey v i k n) ∨ (∃ hashes, c = .rotateBatch v hashes) → v ≠ u)
    (hid : drawsId x c = true) : Shut w₀ u p (w.execute x c).1 := by
  have hkeys : ∀ k ∈ (w.execute x c).1.apiKeys, k.userId = u → k ∈ w₀.apiKeys := by
    intro k hk huser
    rcases Accounts.execute_apiKeys w x c k hk with hk | ⟨o, n, t, q, e, rfl⟩
    · exact hw.keys k hk huser
    · exact absurd huser (hgate _ (.inl ⟨o, n, t, q, e, rfl⟩))
  have hpasskeys : ∀ q ∈ (w.execute x c).1.db.passkeys, q.userId = u →
      ∃ q₀ ∈ w₀.db.passkeys, q₀.id = q.id ∧ q₀.userId = u := by
    intro q hq huser
    rcases Accounts.execute_passkeys w x c q hq with ⟨q', hq', hsame⟩ | ⟨i, k, n, rfl, -⟩
    · obtain ⟨q₀, hq₀, hid₀, huser₀⟩ := hw.passkeys q' hq' (hsame.sameUser.trans huser)
      exact ⟨q₀, hq₀, hid₀.trans hsame.sameId, huser₀⟩
    · exact absurd huser (hgate _ (.inr (.inl ⟨i, k, n, rfl⟩)))
  have hcodes : ∀ r ∈ (w.execute x c).1.recoveryCodes, r.userId = u →
      ∃ r₀ ∈ w₀.recoveryCodes, r₀.userId = u ∧ r₀.codeHash = r.codeHash := by
    intro r hr huser
    rcases Accounts.execute_recoveryCodes w x c r hr with ⟨r', hr', hsame, hhash⟩ | ⟨hashes, rfl⟩
    · obtain ⟨r₀, hr₀, huser₀, hhash₀⟩ := hw.codes r' hr' (hsame.trans huser)
      exact ⟨r₀, hr₀, huser₀, hhash₀.trans hhash⟩
    · exact absurd huser (hgate _ (.inr (.inr ⟨hashes, rfl⟩)))
  have hids := Accounts.execute_ids_nodup (x := x) (c := c) hw.ids
  rcases Accounts.execute_sessions w x c with ⟨f, hf, hmap⟩ | ⟨upsert, m, rfl, -, hnew⟩
  · refine ⟨hids, ?_, ?_, hkeys, hpasskeys, hcodes⟩
    · rw [hmap]
      intro s hs
      obtain ⟨s', hs', rfl⟩ := List.mem_map.mp hs
      rw [(hf s').sameId]
      exact hw.noNil s' hs'
    · rw [hmap]
      intro s hs huser hsatisfied
      obtain ⟨s', hs', rfl⟩ := List.mem_map.mp hs
      rw [(hf s').sameUser] at huser
      rw [(hf s').sameId]
      rcases (hf s').promoted hsatisfied with hbefore | rfl
      · exact hw.sessions s' hs' huser hbefore
      · -- the session is promoted now, by a request that carries it
        obtain ⟨s'', hs'', hid'', hproved⟩ := hc
        rw [← hw.resolved_user hτ hs'' hs' hid''.symm, huser] at hproved
        exact absurd hproved hτ.not_proved
  · refine ⟨hids, ?_, ?_, hkeys, hpasskeys, hcodes⟩
    · rw [hnew]
      intro s hs
      rcases List.mem_append.mp hs with hs | hs
      · exact hw.noNil s hs
      · cases List.mem_singleton.mp hs
        simpa [drawsId] using hid
    · rw [hnew]
      intro s hs huser hsatisfied
      rcases List.mem_append.mp hs with hs | hs
      · exact hw.sessions s hs huser hsatisfied
      · cases List.mem_singleton.mp hs
        have hpartial : (!m) = true := hτ _ hc huser
        rw [show m = true from hsatisfied] at hpartial
        cases hpartial

theorem shut_tick (hw : Shut w₀ u p w) (elapsed : Nat) : Shut w₀ u p (w.tick elapsed) :=
  ⟨hw.ids, hw.noNil, hw.sessions, hw.keys, hw.passkeys, hw.codes⟩

theorem shut_answer (hw : Shut w₀ u p w) (hτ : AllKnown env w₀ u h w τ)
    (hc : Warranted env h τ c) (hgate : keepsGate u w x c = true) (hid : drawsId x c = true) :
    Shut w₀ u p (w.answer c x).1 := by
  rcases Accounts.answer_cases w c x with ⟨heq, heffect⟩ | ⟨heq, -⟩
  · rw [heq]
    refine shut_execute (shut_tick hw _) hτ hc ?_ hid
    rintro v (⟨o, n, t, q, e, rfl⟩ | ⟨i, k, n, rfl⟩ | ⟨hashes, rfl⟩)
    all_goals
      have hreply : x.reply ≠ .failed := by
        rcases heffect with hreply | ⟨_, _, hc⟩ | ⟨_, hc⟩
        · exact hreply
        · cases hc
        · cases hc
      simpa [keepsGate, hreply] using hgate
  · rw [heq]
    exact shut_tick hw _

end Invariant

/-! ## Runs -/

section Runs

variable {env : Deployment} {w : Accounts} {u p : Uuid}

/-- What a request of the client has been told, it can have been told. -/
def SlotKnown (env : Deployment) (w₀ : Accounts) (u p : Uuid) (w : Accounts) (_ : Nat) :
    Option (ClientRequest env w₀ u p × Trace access) → Prop
  | some (r, τ) => AllKnown env w₀ u r.request.headers w τ
  | none => True

/-- The run lemma: the gate stays shut, and every request is inside its specification. -/
theorem clientPool_slots {as : List (Act (ClientRequest env w u p) Outcome)}
    {s : PoolState access Accounts (ClientRequest env w u p) (Except ApiError Response)}
    (hw : Begins w u p) (hrun : (clientPool env w u p).exec (Pool.init w) as = some s)
    (hC : (clientPool env w u p).allSteps (fun s a =>
      (onNext (fun w' x c => !proves w u c (w'.answer c x).2) s a && onNext (keepsGate u) s a) &&
        onNext (fun _ => drawsId) s a) (Pool.init w) as = true) :
    Pool.Slots (fun r => Warranted env r.request.headers) (fun r => OwnerIsLetThrough r.request)
      (Shut w u p) (SlotKnown env w u p) s := by
  have hlaunch (w' : Accounts) (i : Nat) (r : ClientRequest env w u p) :
      SlotKnown env w u p w' i (some (r, [])) := by
    intro e he
    cases he
  refine Pool.exec_slots (fun r => handler_warranted env r.request)
    (fun w' i r _ _ => hlaunch w' i r) ?_ (Pool.slots_init (shut_begin hw) fun _ => trivial) hC hrun
  intro s i x t c w' r js hs hCs ht hnext hwarrant ha
  cases ha
  simp only [onNext, hnext, Option.all_some, Bool.and_eq_true, Bool.not_eq_true'] at hCs
  obtain ⟨⟨hproof, hgate⟩, hid⟩ := hCs
  have hτ : AllKnown env w u t.job.request.headers s.world t.trace := by
    have hslot := hs.slot i
    rw [PoolState.slot_of_getElem? ht] at hslot
    exact hslot
  refine ⟨shut_answer hs.world hτ hwarrant hgate hid, ?_, fun k _ => ?_⟩
  · intro e he
    rcases List.mem_append.mp he with he | he
    · exact (hτ e he).persists
    · cases List.mem_singleton.mp he
      exact known_answer hs.world hτ hwarrant hproof hgate
  · have hslot := hs.slot k
    cases hsk : s.slot k with
    | none => trivial
    | some job =>
      rw [hsk] at hslot
      exact fun e he => (hslot e he).persists

/-- A client that holds a partial session of the user, and nothing else of his, makes any number
of requests at the same time. As long as nobody proves to be the user with a passkey or a
recovery code that he had before, and no call gives him a new credential or a full session,
none of the requests gets past the extractor of owners as that user. -/
theorem owner_never_passes {as : List (Act (ClientRequest env w u p) Outcome)}
    {s : PoolState access Accounts (ClientRequest env w u p) (Except ApiError Response)}
    (hw : Begins w u p) (hrun : (clientPool env w u p).exec (Pool.init w) as = some s)
    (hids : (clientPool env w u p).allSteps (onNext fun _ => drawsId) (Pool.init w) as = true)
    (hproof : (clientPool env w u p).allSteps
      (onNext fun w' x c => !proves w u c (w'.answer c x).2) (Pool.init w) as = true)
    (hC : (clientPool env w u p).allSteps (onNext (keepsGate u)) (Pool.init w) as = true) :
    (∀ i r τ, s.slot i = some (r, τ) → ¬ LetThrough τ u) ∧
      ∀ i r τ h a, s.slot i = some (r, τ) → r.request = .asOwner h →
        s.result i = some (.ok (.owner a)) → a.inner.userId ≠ u := by
  have hs := clientPool_slots hw hrun (Pool.allSteps_and (Pool.allSteps_and hproof hC) hids)
  have hnot : ∀ i r τ, s.slot i = some (r, τ) → ¬ LetThrough τ u := by
    rintro i r τ hslot ⟨organizationId, role, hmem, -⟩
    have hτ := hs.slot i
    rw [hslot] at hτ
    exact hτ _ hmem rfl
  refine ⟨hnot, fun i r τ h a hslot hr hresult huser => ?_⟩
  have hend := hs.finished hslot hresult
  rw [hr] at hend
  exact hnot i r τ hslot (huser ▸ hend)

end Runs

/-! ## An API key gets past the gate -/

/-- Organization 7 with its owner 1, who has a passkey and a partial session. -/
def partialOwner : Accounts where
  directory :=
    { enforceRls := false
      db :=
        { organizations := [7]
          users := [⟨1, "ada@example.com", "Ada", true, true⟩]
          memberships := [⟨5, 7, 1, .owner, 0, none⟩]
          passkeys := [PasskeyRepository.newPasskey 4 0 1 "credential" [] "laptop"] } }
  sessions := [⟨10, 1, 0, sessionTtl, none, false⟩]

theorem begins_partialOwner : Begins partialOwner 1 10 where
  requiresMfa := ⟨_, List.mem_cons_self, rfl, rfl⟩
  passkey := ⟨_, List.mem_cons_self, rfl, rfl⟩
  session := ⟨_, List.mem_cons_self, rfl, rfl, rfl⟩
  ids := by decide
  noNil := by decide

/-- A client with that session makes any request, as long as it carries no other. -/
def partialRequest (request : Request) : ClientRequest smallDeployment partialOwner 1 10 where
  request := request
  ownSession := by
    intro s hs _ _
    cases List.mem_singleton.mp hs
    rfl
  ownKeys := nofun

/-- The client creates an API key, and uses it on a route for owners. -/
def keyPastGate : List (Act (ClientRequest smallDeployment partialOwner 1 10) Outcome) :=
  let ok : Outcome := { reply := .ok, elapsed := 1, id := 30 }
  [.start (partialRequest (.createApiKey (cookieOf 10) "ci" none zeroToken)), .step 0 ok,
    .step 0 ok, .step 0 ok, .start (partialRequest (.asOwner bearerZero)), .step 1 ok, .step 1 ok]

/-- The session alone does not get past the gate. -/
def sessionAtGate : List (Act (ClientRequest smallDeployment partialOwner 1 10) Outcome) :=
  let ok : Outcome := { reply := .ok, elapsed := 1 }
  [.start (partialRequest (.asOwner (cookieOf 10))), .step 0 ok, .step 0 ok, .step 0 ok]

theorem owner_never_passes_with_session :
    ∃ s, (clientPool smallDeployment partialOwner 1 10).exec (Pool.init partialOwner) sessionAtGate =
        some s ∧ (∃ e, s.result 0 = some (.error e)) ∧
      ∀ i r τ, s.slot i = some (r, τ) → ¬ LetThrough τ 1 := by
  have hrun : ((clientPool smallDeployment partialOwner 1 10).exec (Pool.init partialOwner)
      sessionAtGate).any (fun s => decide (s.result 0 = some (.error
        (.platform (.mfaRequired "WebAuthn assertion required for this action"))))) = true := by
    decide +kernel
  obtain ⟨s, hs, hresult⟩ := (Option.any_eq_true _ _).mp hrun
  exact ⟨s, hs, ⟨_, of_decide_eq_true hresult⟩,
    (owner_never_passes begins_partialOwner hs (by decide +kernel) (by decide +kernel)
      (by decide +kernel)).1⟩

theorem not_owner_never_passes :
    ¬ ∀ (env : Deployment) (w : Accounts) (u p : Uuid)
      (as : List (Act (ClientRequest env w u p) Outcome))
      (s : PoolState access Accounts (ClientRequest env w u p) (Except ApiError Response)),
      Begins w u p → (clientPool env w u p).exec (Pool.init w) as = some s →
      (clientPool env w u p).allSteps (onNext fun _ => drawsId) (Pool.init w) as = true →
      (clientPool env w u p).allSteps
        (onNext fun w' x c => !proves w u c (w'.answer c x).2) (Pool.init w) as = true →
      ∀ i a, s.result i = some (.ok (.owner a)) → a.inner.userId ≠ u := by
  intro h
  have hrun : ((clientPool smallDeployment partialOwner 1 10).exec (Pool.init partialOwner)
      keyPastGate).any (fun s => decide (s.result 1 =
        some (.ok (.owner ⟨⟨1, Uuid.nil, 7⟩, .owner⟩)))) = true := by
    decide +kernel
  obtain ⟨s, hs, hresult⟩ := (Option.any_eq_true _ _).mp hrun
  exact h _ _ _ _ _ s begins_partialOwner hs (by decide +kernel) (by decide +kernel) 1 _
    (of_decide_eq_true hresult) rfl

end Kubinate.Access
