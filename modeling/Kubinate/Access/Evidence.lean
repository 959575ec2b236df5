import Kubinate.Access.Members

/-!
# What the requests know

Before a request reads a role, promotes a session or issues one, its own calls have told it
something: whose session it carries, whose key, whether that session has passed the second
factor, which passkey was used or which code was redeemed, whether a login is to be partial.

* `Warranted`: what a request must have been told before it makes a call.
* `LetThrough`: the answer with which `OwnerActor` lets a user through.
* `handler_warranted`: every request makes only warranted calls, whatever it is answered.
-/

namespace Kubinate.Access

open Platform Library Identity

/-- A call with its answer, as it stands in a trace. -/
abbrev told (c : AccessCall) (r : c.Answer) : Σ c : access.Call, access.Answer c := ⟨c, r⟩

section Told

variable (τ : Trace access)

/-- The session was found, and it is live. -/
def Resolved (s : Session) : Prop := ∃ id, told (.resolveSession id) (.ok (some s)) ∈ τ

/-- Everything but the role of this user has been checked. -/
def Cleared (userId : Uuid) : Prop :=
  (∃ tokenHash organizationId,
    told (.findApiKey tokenHash) (.ok (some (userId, organizationId))) ∈ τ) ∨
  ∃ s, Resolved τ s ∧ s.userId = userId ∧
    (s.id = Uuid.nil ∨ told (.sessionMfa s.id) (.ok (some true)) ∈ τ)

/-- A credential speaks for this user: a session of his, or an API key. -/
def Speaks (userId : Uuid) : Prop :=
  (∃ s, Resolved τ s ∧ s.userId = userId) ∨
  ∃ tokenHash organizationId,
    told (.findApiKey tokenHash) (.ok (some (userId, organizationId))) ∈ τ

/-- A registration ceremony was taken and finished with this credential. -/
def Registered (env : Deployment) (credentialId : String) (credential : List UInt8) : Prop :=
  ∃ webauthn id row register bytes, env.webauthn = some webauthn ∧
    told (.takeCeremony id .registration) (.ok (some row)) ∈ τ ∧
    webauthn.finishRegistration row.state register = .ok (bytes, credential) ∧
    credentialId = encodeBase64Url bytes

/-- An assertion ceremony was taken and finished with a passkey of this user, whose use was
then recorded. -/
def Asserted (env : Deployment) (userId : Uuid) : Prop :=
  ∃ webauthn id ceremony credentialId row answer counter credential, env.webauthn = some webauthn ∧
    told (.findPasskey credentialId) (.ok (some row)) ∈ τ ∧ row.userId = userId ∧
    told (.takeCeremony id .assertion) (.ok (some ceremony)) ∈ τ ∧
    webauthn.finishAuthentication ceremony.state row.credential answer =
      .ok (counter, credential) ∧
    told (.recordUse row.id counter credential) (.ok ()) ∈ τ

/-- A recovery code of this user was redeemed. -/
def Redeemed (userId : Uuid) : Prop := ∃ hash, told (.tryConsume userId hash) (.ok true) ∈ τ

/-- The extractor of owners has found the role of this user in his organization, and it is one
that it lets through. -/
def LetThrough (userId : Uuid) : Prop :=
  ∃ organizationId role, told (.membershipRole userId organizationId) (.ok (some role)) ∈ τ ∧
    (role = .owner ∨ role = .admin)

end Told

section Monotone

variable {τ τ' : Trace access} {userId : Uuid} {s : Session}

theorem Resolved.mono (h : Resolved τ s) (hτ : τ <+: τ') : Resolved τ' s :=
  h.imp fun _ hmem => hτ.subset hmem

end Monotone

/-- What the calls of a request are based on, next to its own headers. -/
def Warranted (env : Deployment) (h : Headers) (τ : Trace access) : AccessCall → Prop
  | .resolveSession id => extractSessionCookie env.toCrates h = some id
  | .findApiKey tokenHash => ∃ token, extractBearerToken h = some token ∧ tokenHash = env.sha256 token
  | .membershipRole userId _ => Cleared τ userId
  | .markMfaSatisfied id =>
    ∃ s, Resolved τ s ∧ s.id = id ∧ (Asserted τ env s.userId ∨ Redeemed τ s.userId)
  | .putCeremony userId .. => Speaks τ userId
  | .insertPasskey userId credentialId credential _ =>
    Speaks τ userId ∧ Registered τ env credentialId credential
  | .commitLogin upsert mfaSatisfied =>
    told (.requiresPartialSession upsert.userId) (.ok (!mfaSatisfied)) ∈ τ
  | _ => True

/-- The calls that need no warrant. -/
def AccessCall.isPlain : AccessCall → Bool
  | .resolveSession _ | .findApiKey _ | .membershipRole .. | .markMfaSatisfied _
  | .commitLogin .. | .putCeremony .. | .insertPasskey .. => false
  | _ => true

/-- Whatever it is answered, a part of a request makes only plain calls. -/
@[irreducible]
def Plain {α : Type} (p : Handler α) : Prop := Makes (I := access) (·.isPlain = true) p.run

/-- Whatever it is answered, a part of a request makes only warranted calls and ends with `A`,
unless it fails. -/
@[irreducible]
def Knowing {α : Type} (env : Deployment) (h : Headers) (A : Trace access → α → Prop)
    (p : Handler α) (τ : Trace access) : Prop :=
  Meets (I := access) (Warranted env h) (fun _ _ _ => True) (Post A fun _ _ => True) p.run τ

section Rules

variable {env : Deployment} {h : Headers} {τ : Trace access} {α β : Type}
  {A : Trace access → α → Prop} {B : Trace access → β → Prop}

theorem warranted_of_isPlain {c : AccessCall} (hc : c.isPlain = true) : Warranted env h τ c := by
  cases c with
  | resolveSession | findApiKey | membershipRole | markMfaSatisfied | commitLogin | putCeremony
    | insertPasskey => cases hc
  | _ => trivial

theorem knowing_bind {p : Handler α} {f : α → Handler β} (hp : Knowing env h A p τ)
    (hf : ∀ τ', τ <+: τ' → ∀ a, A τ' a → Knowing env h B (f a) τ') :
    Knowing env h B (p >>= f) τ := by
  unfold Knowing at hp hf ⊢
  exact meets_bindE (meets_extends hp) (fun τ' a ha => hf τ' ha.1 a ha.2) fun _ _ _ => trivial

theorem knowing_pure {a : α} (ha : A τ a) : Knowing env h A (pure a) τ := by
  unfold Knowing
  exact ha

theorem knowing_throw {e : ApiError} : Knowing env h A (throw e : Handler α) τ := by
  unfold Knowing
  trivial

theorem knowing_attempt {ε : Type} {f : ε → ApiError} {p : Program access (Except ε α)}
    (hp : Meets (I := access) (Warranted env h) (fun _ _ _ => True)
      (fun τ r => ∀ a, r = .ok a → A τ a) p τ) : Knowing env h A (attempt f p) τ := by
  unfold Knowing
  refine meets_attempt (meets_mono hp (fun _ _ h => h) ?_)
  rintro τ (e | a) ha
  · trivial
  · exact ha a rfl

theorem knowing_plain {p : Handler α} (hp : Plain p) : Knowing env h (fun _ _ => True) p τ := by
  unfold Plain at hp
  unfold Knowing
  suffices hany : ∀ τ, Meets (I := access) (Warranted env h) (fun _ _ _ => True)
      (fun _ _ => True) p.run τ by
    refine meets_mono (hany τ) (fun _ _ h => h) ?_
    rintro τ (e | a) -
    · trivial
    · trivial
  generalize p.run = q at hp
  induction q with
  | done a => exact fun _ => trivial
  | call c k ih => exact fun τ => ⟨warranted_of_isPlain hp.1, fun r _ => ih r (hp.2 r) _⟩

theorem knowing_ite {c : Prop} [Decidable c] {p q : Handler α} (hp : c → Knowing env h A p τ)
    (hq : ¬ c → Knowing env h A q τ) : Knowing env h A (if c then p else q) τ := by
  by_cases hc : c
  · rw [if_pos hc]
    exact hp hc
  · rw [if_neg hc]
    exact hq hc

/-! ### Plain parts -/

theorem plain_bind {p : Handler α} {f : α → Handler β} (hp : Plain p) (hf : ∀ a, Plain (f a)) :
    Plain (p >>= f) := by
  unfold Plain at hp hf ⊢
  exact makes_bindE hp hf

theorem plain_pure {a : α} : Plain (pure a : Handler α) := by
  unfold Plain
  trivial

theorem plain_throw {e : ApiError} : Plain (throw e : Handler α) := by
  unfold Plain
  trivial

theorem plain_throw_bind {e : ApiError} {f : β → Handler α} : Plain (throw e >>= f) := by
  unfold Plain
  trivial

theorem plain_ite {c : Prop} [Decidable c] {p q : Handler α} (hp : Plain p) (hq : Plain q) :
    Plain (if c then p else q) := by
  by_cases hc : c
  · rw [if_pos hc]
    exact hp
  · rw [if_neg hc]
    exact hq

theorem plain_attempt {ε : Type} {f : ε → ApiError} {p : Program access (Except ε α)}
    (hp : Makes (I := access) (·.isPlain = true) p) : Plain (attempt f p) := by
  unfold Plain
  exact makes_bind hp fun _ => trivial

theorem plain_await {p : Program access (Except PlatformError α)}
    (hp : Makes (I := access) (·.isPlain = true) p) : Plain (await p) :=
  plain_attempt hp

theorem plain_lift {p : Program access α} (hp : Makes (I := access) (·.isPlain = true) p) :
    Plain (ExceptT.lift p) := by
  unfold Plain
  exact makes_lift hp

theorem plain_forM {f : α → Handler PUnit} (hf : ∀ a, Plain (f a)) (l : List α) :
    Plain (l.forM f) := by
  unfold Plain at hf ⊢
  exact makes_forM hf l

theorem plain_perform {c : AccessCall} (hc : c.isPlain = true) :
    Makes (I := access) (·.isPlain = true) (perform c) :=
  ⟨hc, fun _ => trivial⟩

theorem plain_ignore {p : Handler α} (hp : Plain p) : Plain (ignore p.run) := by
  unfold Plain at hp ⊢
  exact makes_lift (makes_bind hp fun _ => trivial)

end Rules

/-! ## The extractors -/

section Extractors

variable (env : Deployment) (h : Headers) {τ : Trace access}

theorem resolveCookie_knowing :
    Knowing env h (fun τ session => ∀ s, session = some s → Resolved τ s)
      (resolveCookie env.toCrates h) τ := by
  unfold resolveCookie
  cases hcookie : extractSessionCookie env.toCrates h with
  | none => exact knowing_pure nofun
  | some id =>
    refine knowing_attempt ⟨hcookie, ?_⟩
    rintro r - session rfl s rfl
    exact ⟨id, List.mem_append_right _ List.mem_cons_self⟩

/-- What an extracted actor is based on. -/
def Identified (τ : Trace access) (a : Actor) : Prop :=
  (∃ s, Resolved τ s ∧ s.userId = a.userId ∧ s.id = a.sessionId) ∨
  ∃ tokenHash, told (.findApiKey tokenHash) (.ok (some (a.userId, a.organizationId))) ∈ τ

theorem resolveOrganization_plain (userId : Uuid) :
    Plain (resolveOrganization env.toCrates h userId) := by
  unfold resolveOrganization
  split
  · refine plain_bind (plain_attempt (plain_perform rfl)) fun count => ?_
    exact plain_ite plain_throw_bind plain_pure
  · refine plain_bind (plain_attempt (plain_perform rfl)) fun row => ?_
    cases row with
    | none => exact plain_throw
    | some organizationId => exact plain_pure

theorem authenticateBearer_knowing :
    Knowing env h Identified (authenticateBearer env.toCrates h) τ := by
  unfold authenticateBearer
  cases htoken : extractBearerToken h with
  | none => exact knowing_throw
  | some token =>
    refine knowing_ite (fun _ => ?_) fun _ => knowing_throw
    refine knowing_bind (A := fun τ actor => ∀ a, actor = some a → Identified τ a) ?_ ?_
    · unfold resolveApiKey
      refine knowing_bind (A := fun τ row => ∀ u o, row = some (u, o) →
        told (.findApiKey (env.sha256 token)) (.ok (some (u, o))) ∈ τ) ?_ ?_
      · refine knowing_attempt ⟨⟨token, htoken, rfl⟩, ?_⟩
        rintro r - row rfl u o rfl
        exact List.mem_append_right _ List.mem_cons_self
      · intro τ' _ row hrow
        refine knowing_pure fun a ha => ?_
        obtain ⟨⟨u, o⟩, rfl, rfl⟩ := Option.map_eq_some_iff.mp ha
        exact .inr ⟨_, hrow u o rfl⟩
    · intro τ' _ actor hactor
      cases actor with
      | none => exact knowing_throw
      | some a => exact knowing_pure (hactor a rfl)

theorem actor_knowing :
    Knowing env h Identified (Actor.fromRequestParts env.toCrates h) τ := by
  unfold Actor.fromRequestParts
  refine knowing_bind (resolveCookie_knowing env h) fun τ₁ _ session hsession => ?_
  cases session with
  | none => exact authenticateBearer_knowing env h
  | some s =>
    refine knowing_bind (knowing_plain (resolveOrganization_plain env h s.userId))
      fun τ₂ hτ organizationId _ => ?_
    exact knowing_pure (.inl ⟨s, (hsession s rfl).mono hτ, rfl, rfl⟩)

theorem sessionUser_knowing :
    Knowing env h (fun τ user => ∃ s, Resolved τ s ∧ s.userId = user.userId ∧ s.id = user.sessionId)
      (SessionUser.fromRequestParts env.toCrates h) τ := by
  unfold SessionUser.fromRequestParts
  refine knowing_bind (resolveCookie_knowing env h) fun τ₁ _ session hsession => ?_
  cases session with
  | none => exact knowing_throw
  | some s => exact knowing_pure ⟨s, hsession s rfl, rfl, rfl⟩

theorem requireMfa_knowing {actor : Actor} (ha : Identified τ actor) :
    Knowing env h (fun τ _ => Cleared τ actor.userId) (requireMfa actor) τ := by
  unfold requireMfa
  by_cases hnil : actor.sessionId = Uuid.nil
  · rw [if_neg (not_not.mpr hnil)]
    refine knowing_pure ?_
    rcases ha with ⟨s, hs, huser, hid⟩ | ⟨tokenHash, hkey⟩
    · exact .inr ⟨s, hs, huser, .inl (hid.trans hnil)⟩
    · exact .inl ⟨tokenHash, _, hkey⟩
  · rw [if_pos hnil]
    refine knowing_bind (A := fun τ satisfied => ∀ b, satisfied = some b →
      told (.sessionMfa actor.sessionId) (.ok (some b)) ∈ τ) ?_ ?_
    · refine knowing_attempt ⟨trivial, ?_⟩
      rintro r - satisfied rfl b rfl
      exact List.mem_append_right _ List.mem_cons_self
    · intro τ' hτ satisfied hsatisfied
      refine knowing_ite (fun _ => knowing_throw) fun hmfa => knowing_pure ?_
      have htrue := hsatisfied true (not_not.mp hmfa)
      rcases ha with ⟨s, hs, huser, hid⟩ | ⟨tokenHash, hkey⟩
      · exact .inr ⟨s, hs.mono hτ, huser, .inr (hid ▸ htrue)⟩
      · exact .inl ⟨tokenHash, _, hτ.subset hkey⟩

theorem owner_knowing :
    Knowing env h (fun τ owner => LetThrough τ owner.inner.userId)
      (OwnerActor.fromRequestParts env.toCrates h) τ := by
  unfold OwnerActor.fromRequestParts
  refine knowing_bind (actor_knowing env h) fun τ₁ _ actor ha => ?_
  refine knowing_bind (requireMfa_knowing env h ha) fun τ₂ _ _ hcleared => ?_
  refine knowing_bind (A := fun τ role => ∀ r, role = some r →
    told (.membershipRole actor.userId actor.organizationId) (.ok (some r)) ∈ τ) ?_ ?_
  · refine knowing_attempt ⟨hcleared, ?_⟩
    rintro r - role rfl m rfl
    exact List.mem_append_right _ List.mem_cons_self
  · intro τ₃ _ role hrole
    cases role with
    | none => exact knowing_throw
    | some m =>
      cases m with
      | owner => exact knowing_pure ⟨_, _, hrole _ rfl, .inl rfl⟩
      | admin => exact knowing_pure ⟨_, _, hrole _ rfl, .inr rfl⟩
      | developer | viewer => exact knowing_throw

end Extractors

/-! ## The handlers -/

section Handlers

variable (env : Deployment) (h : Headers) {τ : Trace access} {α : Type}

theorem plain_rotateSession : Plain (rotateSession env h) := by
  unfold rotateSession
  cases extractSessionCookie env.toCrates h with
  | some old => exact plain_lift (makes_bind (plain_perform rfl) fun _ => trivial)
  | none => exact plain_pure

theorem plain_service (p : Service α) : Plain (service p) := by
  refine plain_attempt (makes_embed ?_ (makes_true p.run))
  exact fun _ _ => rfl

theorem plain_auditActor (actor : Actor) (action : String) : Plain (auditActor actor action) :=
  plain_await (plain_perform rfl)

theorem plain_auditUser (userId : Uuid) (action : String) : Plain (auditUser userId action) := by
  unfold auditUser
  refine plain_bind (plain_await (plain_perform rfl)) fun organizations => ?_
  exact plain_forM (fun organizationId => plain_await (plain_perform rfl)) organizations

theorem plain_requireCeremonies : Plain (requireCeremonies env) := by
  unfold requireCeremonies
  split
  · exact plain_pure
  · exact plain_throw

theorem plain_verify {step : String} (r : Except String α) : Plain (verify step r) := by
  cases r with
  | ok a => exact plain_pure
  | error e => exact plain_throw

theorem plain_lookupUserEmail (missing : PlatformError) (userId : Uuid) :
    Plain (lookupUserEmail missing userId) := by
  unfold lookupUserEmail
  refine plain_bind (plain_await (plain_perform rfl)) fun email => ?_
  cases email with
  | some email => exact plain_pure
  | none => exact plain_throw

/-- Two checks of an input. The conditions are arbitrary so that nothing evaluates them. -/
theorem plain_checks {c d : Prop} [Decidable c] [Decidable d] {e e' : ApiError} {a : α} :
    Plain (do
      if c then throw e
      if d then throw e'
      return a) :=
  plain_ite plain_throw_bind (plain_ite plain_throw_bind plain_pure)

theorem plain_checkName (name : String) : Plain (checkName name) := plain_checks

theorem plain_sanitizeNickname (raw : String) : Plain (sanitizeNickname raw) := plain_checks

theorem plain_requireSelfOrg (actor : Actor) (organizationId : Uuid) :
    Plain (requireSelfOrg actor organizationId) :=
  plain_ite plain_throw plain_pure

theorem plain_start (state codeVerifier : String) (redirectTo : Option String) :
    Plain (start state codeVerifier redirectTo) :=
  plain_bind (plain_await (plain_perform rfl)) fun _ => plain_pure

theorem plain_logout : Plain (logout env h) :=
  plain_bind (plain_rotateSession env h) fun _ => plain_pure

/-- A handler that needs no warrant after its extractor. -/
theorem knowing_extracted {A : Trace access → α → Prop} {p : Handler α} {f : α → Handler Response}
    (hp : Knowing env h A p τ) (hf : ∀ a, Plain (f a)) :
    Knowing env h (fun _ _ => True) (p >>= f) τ :=
  knowing_bind hp fun _ _ a _ => knowing_plain (hf a)

theorem callback_knowing (code state : String) :
    Knowing env h (fun _ _ => True) (callback env h code state) τ := by
  unfold callback
  refine knowing_bind (knowing_plain (plain_await (plain_perform rfl))) fun τ₁ _ stored _ => ?_
  refine knowing_ite (fun _ => knowing_throw) fun _ => ?_
  refine knowing_bind (knowing_plain (plain_await (plain_perform rfl))) fun τ₂ _ idp _ => ?_
  refine knowing_bind (knowing_plain (plain_rotateSession env h)) fun τ₃ _ _ _ => ?_
  refine knowing_bind (knowing_plain (plain_await (plain_perform rfl))) fun τ₄ _ upsert _ => ?_
  refine knowing_bind (A := fun τ b => told (.requiresPartialSession upsert.userId) (.ok b) ∈ τ) ?_ ?_
  · refine knowing_attempt ⟨trivial, ?_⟩
    rintro r - b rfl
    exact List.mem_append_right _ List.mem_cons_self
  · intro τ₅ _ needsPartial hread
    refine knowing_bind (A := fun _ _ => True) (knowing_attempt ⟨?_, fun _ _ _ _ => trivial⟩)
      fun _ _ _ _ => knowing_pure trivial
    rw [Warranted, Bool.not_not]
    exact hread

theorem createApiKey_knowing (name : String) (expiresInDays : Option Nat) (token : String) :
    Knowing env h (fun _ _ => True) (createApiKey env h name expiresInDays token) τ := by
  refine knowing_extracted env h (actor_knowing env h) fun actor => ?_
  refine plain_bind (plain_checkName name) fun name => ?_
  exact plain_bind (plain_await (plain_perform rfl)) fun _ => plain_pure

theorem revokeApiKey_knowing (id : Uuid) :
    Knowing env h (fun _ _ => True) (revokeApiKey env h id) τ := by
  refine knowing_extracted env h (actor_knowing env h) fun actor => ?_
  refine plain_bind (plain_await (plain_perform rfl)) fun affected => ?_
  exact plain_ite plain_throw_bind plain_pure

theorem Identified.speaks {a : Actor} (ha : Identified τ a) : Speaks τ a.userId := by
  rcases ha with ⟨s, hs, huser, -⟩ | ⟨tokenHash, hkey⟩
  · exact .inl ⟨s, hs, huser⟩
  · exact .inr ⟨tokenHash, _, hkey⟩

theorem Speaks.mono {τ' : Trace access} {userId : Uuid} (hs : Speaks τ userId) (hτ : τ <+: τ') :
    Speaks τ' userId := by
  rcases hs with ⟨s, hs, huser⟩ | ⟨tokenHash, organizationId, hkey⟩
  · exact .inl ⟨s, hs.mono hτ, huser⟩
  · exact .inr ⟨tokenHash, organizationId, hτ.subset hkey⟩

theorem registerStart_knowing (nickname : String) (nonce : List UInt8) :
    Knowing env h (fun _ _ => True) (registerStart env h nickname nonce) τ := by
  unfold registerStart
  refine knowing_bind (actor_knowing env h) fun τ₁ _ actor ha => ?_
  refine knowing_bind (knowing_plain (plain_requireCeremonies env)) fun τ₂ h₂ ceremonies _ => ?_
  refine knowing_bind (knowing_plain (plain_sanitizeNickname nickname)) fun τ₃ h₃ nickname _ => ?_
  refine knowing_bind (knowing_plain (plain_await (plain_perform rfl))) fun τ₄ h₄ existing _ => ?_
  refine knowing_bind (knowing_plain (plain_lookupUserEmail _ _)) fun τ₅ h₅ email _ => ?_
  refine knowing_bind (knowing_plain (plain_verify _)) fun τ₆ h₆ state _ => ?_
  refine knowing_bind (A := fun _ _ => True) (knowing_attempt ⟨?_, fun _ _ _ _ => trivial⟩)
    fun τ₇ _ ceremonyId _ => ?_
  · exact ha.speaks.mono (h₂.trans (h₃.trans (h₄.trans (h₅.trans h₆))))
  · exact knowing_plain (plain_bind (plain_lift (plain_perform rfl)) fun _ => plain_pure)

/-- A ceremony that was taken. -/
theorem takeCeremony_knowing (id : Uuid) (kind : CeremonyKind) :
    Knowing env h (fun τ row => told (.takeCeremony id kind) (.ok (some row)) ∈ τ)
      (takeCeremony id kind) τ := by
  unfold takeCeremony
  refine knowing_bind (A := fun τ row => ∀ c, row = some c →
    told (.takeCeremony id kind) (.ok (some c)) ∈ τ) ?_ ?_
  · refine knowing_attempt ⟨trivial, ?_⟩
    rintro r - row rfl c rfl
    exact List.mem_append_right _ List.mem_cons_self
  · intro τ' _ row hrow
    cases row with
    | none => exact knowing_throw
    | some c => exact knowing_pure (hrow c rfl)

theorem requireCeremonies_knowing :
    Knowing env h (fun _ webauthn => env.webauthn = some webauthn) (requireCeremonies env) τ := by
  unfold requireCeremonies
  cases hwebauthn : env.webauthn with
  | none => exact knowing_throw
  | some webauthn => exact knowing_pure rfl

theorem verify_knowing {step : String} (r : Except String α) :
    Knowing env h (fun _ a => r = .ok a) (verify step r) τ := by
  cases r with
  | ok a => exact knowing_pure rfl
  | error e => exact knowing_throw

theorem registerFinish_knowing (ceremonyId : Uuid) (register : List UInt8) :
    Knowing env h (fun _ _ => True) (registerFinish env h ceremonyId register) τ := by
  unfold registerFinish
  refine knowing_bind (actor_knowing env h) fun τ₁ _ actor ha => ?_
  refine knowing_bind (requireCeremonies_knowing env h) fun τ₂ h₂ webauthn hwebauthn => ?_
  refine knowing_bind (knowing_plain (plain_lift (plain_perform rfl))) fun τ₃ h₃ nickname _ => ?_
  refine knowing_bind (takeCeremony_knowing env h ceremonyId .registration) fun τ₄ h₄ row hrow => ?_
  refine knowing_bind (verify_knowing env h _) fun τ₅ h₅ registered hverified => ?_
  obtain ⟨bytes, credential⟩ := registered
  refine knowing_bind (A := fun _ _ => True) (knowing_attempt ⟨⟨?_, ?_⟩, fun _ _ _ _ => trivial⟩)
    fun τ₆ _ _ _ => ?_
  · exact ha.speaks.mono (h₂.trans (h₃.trans (h₄.trans h₅)))
  · exact ⟨webauthn, ceremonyId, row, register, bytes, hwebauthn, h₅.subset hrow, hverified, rfl⟩
  · exact knowing_plain (plain_bind (plain_auditActor _ _) fun _ => plain_pure)

theorem assertStart_knowing (nonce : List UInt8) :
    Knowing env h (fun _ _ => True) (assertStart env h nonce) τ := by
  unfold assertStart
  refine knowing_bind (sessionUser_knowing env h) fun τ₁ _ user huser => ?_
  refine knowing_bind (knowing_plain (plain_requireCeremonies env)) fun τ₂ h₂ ceremonies _ => ?_
  refine knowing_bind (knowing_plain (plain_await (plain_perform rfl))) fun τ₃ h₃ live _ => ?_
  refine knowing_ite (fun _ => knowing_throw) fun _ => ?_
  refine knowing_ite (fun _ => knowing_throw) fun _ => ?_
  refine knowing_bind (knowing_plain (plain_verify _)) fun τ₄ h₄ state _ => ?_
  refine knowing_bind (A := fun _ _ => True) (knowing_attempt ⟨?_, fun _ _ _ _ => trivial⟩)
    fun τ₅ _ ceremonyId _ => knowing_pure trivial
  obtain ⟨s, hs, hs', -⟩ := huser
  exact .inl ⟨s, hs.mono (h₂.trans (h₃.trans h₄)), hs'⟩

theorem promote_knowing {user : SessionUser}
    (hs : ∃ s, Resolved τ s ∧ s.id = user.sessionId ∧ (Asserted τ env s.userId ∨ Redeemed τ s.userId)) :
    Knowing env h (fun _ _ => True) (promote user) τ :=
  knowing_ite (fun _ => knowing_attempt ⟨hs, fun _ _ _ _ => trivial⟩) fun _ => knowing_pure trivial

theorem assertFinish_knowing (ceremonyId : Uuid) (credentialId credential : List UInt8) :
    Knowing env h (fun _ _ => True) (assertFinish env h ceremonyId credentialId credential) τ := by
  unfold assertFinish
  refine knowing_bind (sessionUser_knowing env h) fun τ₁ _ user huser => ?_
  refine knowing_bind (requireCeremonies_knowing env h) fun τ₂ h₂ webauthn hwebauthn => ?_
  refine knowing_bind (A := fun τ row => ∀ q, row = some q →
    told (.findPasskey (encodeBase64Url credentialId)) (.ok (some q)) ∈ τ) ?_ ?_
  · refine knowing_attempt ⟨trivial, ?_⟩
    rintro r - row rfl q rfl
    exact List.mem_append_right _ List.mem_cons_self
  intro τ₃ h₃ row hrow
  cases row with
  | none => exact knowing_throw
  | some row =>
    refine knowing_ite (fun _ => knowing_throw) fun hown => ?_
    refine knowing_ite (fun _ => knowing_throw) fun _ => ?_
    refine knowing_bind (takeCeremony_knowing env h ceremonyId .assertion) fun τ₄ h₄ ceremony htaken => ?_
    refine knowing_bind (verify_knowing env h _) fun τ₅ h₅ asserted hverified => ?_
    obtain ⟨counter, updated⟩ := asserted
    refine knowing_bind (A := fun τ _ => told (.recordUse row.id counter updated) (.ok ()) ∈ τ) ?_ ?_
    · refine knowing_attempt ⟨trivial, ?_⟩
      rintro r - ⟨⟩ rfl
      exact List.mem_append_right _ List.mem_cons_self
    · intro τ₆ h₆ _ hused
      have hτ := h₄.trans (h₅.trans h₆)
      obtain ⟨s, hs, hs', hid⟩ := huser
      refine knowing_bind (promote_knowing env h ⟨s, hs.mono (h₂.trans (h₃.trans hτ)), hid, .inl ?_⟩)
        fun τ₇ _ _ _ => knowing_plain (plain_bind (plain_auditUser _ _) fun _ => plain_pure)
      exact ⟨webauthn, ceremonyId, ceremony, _, row, credential, counter, updated, hwebauthn,
        hτ.subset (hrow row rfl), (not_not.mp hown).trans hs'.symm, (h₅.trans h₆).subset htaken,
        hverified, hused⟩

theorem revokePasskey_knowing (id : Uuid) :
    Knowing env h (fun _ _ => True) (revokePasskey env h id) τ := by
  refine knowing_extracted env h (actor_knowing env h) fun actor => ?_
  refine plain_bind (plain_await (plain_perform rfl)) fun _ => ?_
  exact plain_bind (plain_auditActor _ _) fun _ => plain_pure

theorem recoveryRegenerate_knowing (codes : List String) :
    Knowing env h (fun _ _ => True) (recoveryRegenerate env h codes) τ := by
  refine knowing_extracted env h (actor_knowing env h) fun actor => ?_
  refine plain_bind (plain_await (plain_perform rfl)) fun _ => ?_
  exact plain_bind (plain_auditActor _ _) fun _ => plain_pure

theorem recoveryRedeem_knowing (code : String) :
    Knowing env h (fun _ _ => True) (recoveryRedeem env h code) τ := by
  unfold recoveryRedeem
  refine knowing_bind (sessionUser_knowing env h) fun τ₁ _ user huser => ?_
  refine knowing_bind (A := fun τ b => told (.tryConsume user.userId (hashCode env code)) (.ok b) ∈ τ)
    ?_ ?_
  · refine knowing_attempt ⟨trivial, ?_⟩
    rintro r - b rfl
    exact List.mem_append_right _ List.mem_cons_self
  · intro τ₂ h₂ consumed hconsumed
    refine knowing_ite (fun _ => ?_) fun htrue => ?_
    · exact knowing_plain (plain_bind (plain_ignore (plain_auditUser _ _)) fun _ => plain_throw)
    · obtain ⟨s, hs, hs', hid⟩ := huser
      have hredeemed : told (.tryConsume s.userId (hashCode env code)) (.ok true) ∈ τ₂ := by
        rw [hs']
        simpa using (by simpa using htrue : consumed = true) ▸ hconsumed
      refine knowing_bind (promote_knowing env h ⟨s, hs.mono h₂, hid, .inr ⟨_, hredeemed⟩⟩)
        fun τ₃ _ _ _ => knowing_plain ?_
      refine plain_bind (plain_await (plain_perform rfl)) fun _ => ?_
      exact plain_bind (plain_auditUser _ _) fun _ => plain_pure

theorem acceptInvite_knowing (token : String) :
    Knowing env h (fun _ _ => True) (acceptInvite env h token) τ := by
  refine knowing_extracted env h (sessionUser_knowing env h) fun user => ?_
  refine plain_ite plain_throw_bind (plain_bind (plain_lookupUserEmail _ _) fun email => ?_)
  exact plain_bind (plain_service _) fun _ => plain_pure

/-- The routes that manage members: after the extractor of owners, one use case. -/
theorem ownerService_knowing {β : Type} (organizationId : Uuid) (p : OwnerActor → Service β)
    (answer : β → Response) :
    Knowing env h (fun _ _ => True) (do
      let owner ← OwnerActor.fromRequestParts env.toCrates h
      requireSelfOrg owner.inner organizationId
      let b ← service (p owner)
      return answer b) τ := by
  refine knowing_extracted env h (owner_knowing env h) fun owner => ?_
  refine plain_bind (plain_requireSelfOrg _ _) fun _ => ?_
  exact plain_bind (plain_service _) fun _ => plain_pure

end Handlers

/-- The headers of the request; a login is started without any. -/
def Request.headers : Request → Headers
  | .start .. => {}
  | .asActor h | .asOwner h | .callback h .. | .logout h | .createApiKey h .. | .revokeApiKey h _
  | .registerStart h .. | .registerFinish h .. | .assertStart h _ | .assertFinish h ..
  | .revokePasskey h _ | .recoveryRegenerate h _ | .recoveryRedeem h _ | .createInvite h ..
  | .acceptInvite h _ | .updateRole h .. | .removeMember h .. => h

/-- Whoever is extracted as an owner was let through. -/
def OwnerIsLetThrough : Request → Trace access → Except ApiError Response → Prop
  | .asOwner _, τ, .ok (.owner a) => LetThrough τ a.inner.userId
  | _, _, _ => True

theorem Knowing.meets {env : Deployment} {h : Headers} {τ : Trace access} {α : Type}
    {A : Trace access → α → Prop} {p : Handler α} (hp : Knowing env h A p τ) :
    Meets (I := access) (Warranted env h) (fun _ _ _ => True) (Post A fun _ _ => True) p.run τ := by
  unfold Knowing at hp
  exact hp

/-- Whatever it is answered, a request makes only warranted calls, and it extracts an owner only
if he was let through. -/
theorem handler_warranted (env : Deployment) (r : Request) :
    Meets (I := access) (Warranted env r.headers) (fun _ _ _ => True) (OwnerIsLetThrough r)
      (r.handler env).run [] := by
  have hplain {p : Handler Response} (hp : Knowing env r.headers (fun _ _ => True) p [])
      (hr : ∀ τ a, OwnerIsLetThrough r τ a) : Meets (I := access) (Warranted env r.headers)
        (fun _ _ _ => True) (OwnerIsLetThrough r) p.run [] :=
    meets_mono hp.meets (fun _ _ h => h) fun τ a _ => hr τ a
  cases r with
  | asActor h =>
    refine meets_bind (actor_knowing env h).meets ?_
    rintro τ (e | a) -
    · trivial
    · trivial
  | asOwner h =>
    refine meets_bind (owner_knowing env h).meets ?_
    rintro τ (e | a) ha
    · trivial
    · exact ha
  | start state codeVerifier redirectTo =>
    exact hplain (knowing_plain (plain_start _ _ _)) fun _ _ => trivial
  | callback h code state => exact hplain (callback_knowing env h code state) fun _ _ => trivial
  | logout h => exact hplain (knowing_plain (plain_logout env h)) fun _ _ => trivial
  | createApiKey h name expiresInDays token =>
    exact hplain (createApiKey_knowing env h name expiresInDays token) fun _ _ => trivial
  | revokeApiKey h id => exact hplain (revokeApiKey_knowing env h id) fun _ _ => trivial
  | registerStart h nickname nonce =>
    exact hplain (registerStart_knowing env h nickname nonce) fun _ _ => trivial
  | registerFinish h ceremonyId register =>
    exact hplain (registerFinish_knowing env h ceremonyId register) fun _ _ => trivial
  | assertStart h nonce => exact hplain (assertStart_knowing env h nonce) fun _ _ => trivial
  | assertFinish h ceremonyId credentialId credential =>
    exact hplain (assertFinish_knowing env h ceremonyId credentialId credential) fun _ _ => trivial
  | revokePasskey h id => exact hplain (revokePasskey_knowing env h id) fun _ _ => trivial
  | recoveryRegenerate h codes =>
    exact hplain (recoveryRegenerate_knowing env h codes) fun _ _ => trivial
  | recoveryRedeem h code => exact hplain (recoveryRedeem_knowing env h code) fun _ _ => trivial
  | createInvite h organizationId email role token =>
    exact hplain (ownerService_knowing env h organizationId
      (fun owner => MembershipService.createInvite env.sha256 organizationId owner.inner.userId email
        role token) fun created => .token created.2) fun _ _ => trivial
  | acceptInvite h token => exact hplain (acceptInvite_knowing env h token) fun _ _ => trivial
  | updateRole h organizationId userId role =>
    exact hplain (ownerService_knowing env h organizationId
      (fun owner => MembershipService.updateRole organizationId userId role owner.inner.userId)
      fun _ => .none) fun _ _ => trivial
  | removeMember h organizationId userId =>
    exact hplain (ownerService_knowing env h organizationId
      (fun owner => MembershipService.removeMember organizationId userId owner.inner.userId)
      fun _ => .none) fun _ _ => trivial

end Kubinate.Access
