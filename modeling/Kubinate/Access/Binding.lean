import Kubinate.Access.Ceremonies
import Kubinate.Access.Effects
import Kubinate.Access.Evidence

/-!
# Ceremonies and their users

A ceremony is stored with the user that has started it, and the finish handlers take it by
the id that the browser sends. Neither looks at the user that is stored with it:
`register_finish` stores the passkey for whoever finishes, `assert_finish` compares the user
of the session with that of the passkey that the `id` of the answer names, while
`webauthn-rs` verifies the credential with the raw id against the stored state.

* `handler_finishes`: a passkey is stored, and a session is promoted, only by a finish request
  that took a ceremony, or for a recovery code.
* `exec_started`: whoever is stored with a ceremony that a request takes has started it.
* `ceremonies_bound`: in every run whose requests take no ceremony but their own when their
  answer verifies against it, passkeys and promotions belong to the user of the ceremony.
* `not_ceremonies_bound`: a registration that somebody else finishes.
-/

namespace Kubinate.Access

open Platform Library Identity

/-! ## What a finish request is based on -/

/-- The users whose session or API key the request was told about. -/
def speakers (τ : Trace access) : List Uuid :=
  τ.filterMap fun
    | ⟨.resolveSession _, .ok (some s)⟩ => some s.userId
    | ⟨.findApiKey _, .ok (some (userId, _))⟩ => some userId
    | _ => none

/-- The passkeys that the request was told about. -/
def found (τ : Trace access) : List Passkey :=
  τ.filterMap fun
    | ⟨.findPasskey _, .ok q⟩ => q
    | _ => none

theorem Speaks.mem_speakers {τ : Trace access} {userId : Uuid} (h : Speaks τ userId) :
    userId ∈ speakers τ := by
  rcases h with ⟨s, ⟨id, hmem⟩, rfl⟩ | ⟨tokenHash, organizationId, hmem⟩
  · exact List.mem_filterMap.mpr ⟨_, hmem, rfl⟩
  · exact List.mem_filterMap.mpr ⟨_, hmem, rfl⟩

theorem mem_found {τ : Trace access} {credentialId : String} {q : Passkey}
    (h : told (.findPasskey credentialId) (.ok (some q)) ∈ τ) : q ∈ found τ :=
  List.mem_filterMap.mpr ⟨_, h, rfl⟩

section Finished

variable (env : Deployment) (r : Request) (τ : Trace access)

/-- The request has taken a registration ceremony, when it spoke for this user already, and
its answer has been verified against it. -/
def RegistrationFinished (userId : Uuid) (credentialId : String) (credential : List UInt8)
    (row : Ceremony) : Prop :=
  ∃ h ceremonyId register τ₁ τ₂ webauthn bytes, r = .registerFinish h ceremonyId register ∧
    τ = τ₁ ++ told (.takeCeremony ceremonyId .registration) (.ok (some row)) :: τ₂ ∧
    userId ∈ speakers τ₁ ∧ env.webauthn = some webauthn ∧
    webauthn.finishRegistration row.state register = .ok (bytes, credential) ∧
    credentialId = encodeBase64Url bytes

/-- The request has taken an assertion ceremony, when it had its session `s` and the live
passkey `q` of the user of the session, its answer has been verified against the ceremony, and
the use of the passkey was recorded. -/
def AssertionFinished (s : Session) (q : Passkey) (row : Ceremony) : Prop :=
  ∃ h ceremonyId credentialId answer τ₁ τ₂ webauthn counter updated,
    r = .assertFinish h ceremonyId credentialId answer ∧
    τ = τ₁ ++ told (.takeCeremony ceremonyId .assertion) (.ok (some row)) :: τ₂ ∧
    Resolved τ₁ s ∧ told (.findPasskey (encodeBase64Url credentialId)) (.ok (some q)) ∈ τ₁ ∧
    q.userId = s.userId ∧ env.webauthn = some webauthn ∧
    webauthn.finishAuthentication row.state q.credential answer = .ok (counter, updated) ∧
    told (.recordUse q.id counter updated) (.ok ()) ∈ τ₂

/-- What the calls are based on that store a passkey or promote a session. -/
def FinishesOnly : AccessCall → Prop
  | .insertPasskey userId credentialId credential _ =>
    ∃ row, RegistrationFinished env r τ userId credentialId credential row
  | .markMfaSatisfied id =>
    (∃ s q row, s.id = id ∧ AssertionFinished env r τ s q row) ∨
      ∃ s hash, s.id = id ∧ Resolved τ s ∧ told (.tryConsume s.userId hash) (.ok true) ∈ τ
  | _ => True

end Finished

/-- The calls that store no passkey and promote no session. -/
def AccessCall.isSilent : AccessCall → Bool
  | .insertPasskey .. | .markMfaSatisfied _ => false
  | _ => true

/-- Whatever it is answered, a part of a request makes only silent calls. -/
@[irreducible]
def Silent {α : Type} (p : Handler α) : Prop := Makes (I := access) (·.isSilent = true) p.run

/-- Whatever it is answered, a part of the request makes only calls inside `FinishesOnly` and
ends with `A`, unless it fails. -/
@[irreducible]
def Finishing {α : Type} (env : Deployment) (r : Request) (A : Trace access → α → Prop)
    (p : Handler α) (τ : Trace access) : Prop :=
  Meets (I := access) (FinishesOnly env r) (fun _ _ _ => True) (Post A fun _ _ => True) p.run τ

section Rules

variable {env : Deployment} {r : Request} {h : Headers} {τ : Trace access} {α β : Type}
  {A : Trace access → α → Prop} {B : Trace access → β → Prop}

theorem finishesOnly_of_isSilent {c : AccessCall} (hc : c.isSilent = true) :
    FinishesOnly env r τ c := by
  cases c with
  | insertPasskey | markMfaSatisfied => cases hc
  | _ => trivial

theorem Plain.silent {p : Handler α} (hp : Plain p) : Silent p := by
  unfold Plain at hp
  unfold Silent
  refine hp.mono fun c hc => ?_
  cases c <;> first | rfl | cases hc

theorem silent_bind {p : Handler α} {f : α → Handler β} (hp : Silent p)
    (hf : ∀ a, Silent (f a)) : Silent (p >>= f) := by
  unfold Silent at hp hf ⊢
  exact makes_bindE hp hf

theorem silent_pure {a : α} : Silent (pure a : Handler α) := by
  unfold Silent
  trivial

theorem silent_throw {e : ApiError} : Silent (throw e : Handler α) := by
  unfold Silent
  trivial

theorem silent_ite {c : Prop} [Decidable c] {p q : Handler α} (hp : Silent p) (hq : Silent q) :
    Silent (if c then p else q) := by
  by_cases hc : c
  · rw [if_pos hc]
    exact hp
  · rw [if_neg hc]
    exact hq

theorem silent_attempt {ε : Type} {f : ε → ApiError} {p : Program access (Except ε α)}
    (hp : Makes (I := access) (·.isSilent = true) p) : Silent (attempt f p) := by
  unfold Silent
  exact makes_bind hp fun _ => trivial

theorem silent_perform {c : AccessCall} (hc : c.isSilent = true) :
    Makes (I := access) (·.isSilent = true) (perform c) :=
  ⟨hc, fun _ => trivial⟩

theorem finishing_bind {p : Handler α} {f : α → Handler β} (hp : Finishing env r A p τ)
    (hf : ∀ τ', τ <+: τ' → ∀ a, A τ' a → Finishing env r B (f a) τ') :
    Finishing env r B (p >>= f) τ := by
  unfold Finishing at hp hf ⊢
  exact meets_bindE (meets_extends hp) (fun τ' a ha => hf τ' ha.1 a ha.2) fun _ _ _ => trivial

theorem finishing_throw {e : ApiError} : Finishing env r A (throw e : Handler α) τ := by
  unfold Finishing
  trivial

theorem finishing_pure {a : α} (ha : A τ a) : Finishing env r A (pure a) τ := by
  unfold Finishing
  exact ha

theorem finishing_ite {c : Prop} [Decidable c] {p q : Handler α}
    (hp : c → Finishing env r A p τ) (hq : ¬ c → Finishing env r A q τ) :
    Finishing env r A (if c then p else q) τ := by
  by_cases hc : c
  · rw [if_pos hc]
    exact hp hc
  · rw [if_neg hc]
    exact hq hc

theorem finishing_await {p : Program access (Except PlatformError α)}
    (hp : Meets (I := access) (FinishesOnly env r) (fun _ _ _ => True)
      (fun τ r => ∀ a, r = .ok a → A τ a) p τ) : Finishing env r A (await p) τ := by
  unfold Finishing
  refine meets_attempt (meets_mono hp (fun _ _ h => h) ?_)
  rintro τ (e | a) ha
  · trivial
  · exact ha a rfl

/-- What a silent part knows at its end. -/
theorem Knowing.finishing {p : Handler α} (hp : Knowing env h A p τ) (hsilent : Silent p) :
    Finishing env r A p τ := by
  unfold Silent at hsilent
  unfold Finishing
  exact meets_of_makes hp.meets hsilent fun _ _ hc => finishesOnly_of_isSilent hc

theorem Silent.finishing {p : Handler α} (hsilent : Silent p) :
    Finishing env r (fun _ _ => True) p τ := by
  unfold Silent at hsilent
  unfold Finishing
  refine meets_mono (meets_of_makes (meets_true p.run) hsilent fun _ _ hc =>
    finishesOnly_of_isSilent hc) (fun _ _ h => h) ?_
  rintro τ (e | a) -
  · trivial
  · trivial

end Rules

/-! ## The handlers -/

section Handlers

variable (env : Deployment) (r : Request) (h : Headers) {τ : Trace access} {α : Type}

theorem silent_resolveCookie : Silent (resolveCookie env.toCrates h) := by
  unfold resolveCookie
  cases extractSessionCookie env.toCrates h with
  | none => exact silent_pure
  | some id => exact silent_attempt (silent_perform rfl)

theorem silent_authenticateBearer : Silent (authenticateBearer env.toCrates h) := by
  unfold authenticateBearer
  cases extractBearerToken h with
  | none => exact silent_throw
  | some token =>
    refine silent_ite (silent_bind ?_ fun actor => ?_) silent_throw
    · exact silent_bind (silent_attempt (silent_perform rfl)) fun _ => silent_pure
    · cases actor with
      | none => exact silent_throw
      | some a => exact silent_pure

theorem silent_actor : Silent (Actor.fromRequestParts env.toCrates h) := by
  unfold Actor.fromRequestParts
  refine silent_bind (silent_resolveCookie env h) fun session => ?_
  cases session with
  | none => exact silent_authenticateBearer env h
  | some s =>
    exact silent_bind (resolveOrganization_plain env h s.userId).silent fun _ => silent_pure

theorem silent_sessionUser : Silent (SessionUser.fromRequestParts env.toCrates h) := by
  unfold SessionUser.fromRequestParts
  refine silent_bind (silent_resolveCookie env h) fun session => ?_
  cases session with
  | none => exact silent_throw
  | some s => exact silent_pure

theorem silent_owner : Silent (OwnerActor.fromRequestParts env.toCrates h) := by
  unfold OwnerActor.fromRequestParts
  refine silent_bind (silent_actor env h) fun actor => ?_
  refine silent_bind ?_ fun _ => ?_
  · refine silent_ite (silent_bind (silent_attempt (silent_perform rfl)) fun _ => ?_) silent_pure
    exact silent_ite silent_throw silent_pure
  · refine silent_bind (silent_attempt (silent_perform rfl)) fun role => ?_
    cases role with
    | none => exact silent_throw
    | some m =>
      cases m with
      | owner | admin => exact silent_pure
      | developer | viewer => exact silent_throw

theorem silent_callback (code state : String) : Silent (callback env h code state) := by
  unfold callback
  refine silent_bind (silent_attempt (silent_perform rfl)) fun stored => ?_
  refine silent_ite silent_throw ?_
  refine silent_bind (silent_attempt (silent_perform rfl)) fun idp => ?_
  refine silent_bind (plain_rotateSession env h).silent fun _ => ?_
  refine silent_bind (silent_attempt (silent_perform rfl)) fun upsert => ?_
  refine silent_bind (silent_attempt (silent_perform rfl)) fun needsPartial => ?_
  exact silent_bind (silent_attempt (silent_perform rfl)) fun id => silent_pure

theorem silent_registerStart (nickname : String) (nonce : List UInt8) :
    Silent (registerStart env h nickname nonce) := by
  unfold registerStart
  refine silent_bind (silent_actor env h) fun actor => ?_
  refine silent_bind (plain_requireCeremonies env).silent fun ceremonies => ?_
  refine silent_bind (plain_sanitizeNickname nickname).silent fun nickname => ?_
  refine silent_bind (silent_attempt (silent_perform rfl)) fun existing => ?_
  refine silent_bind (plain_lookupUserEmail _ _).silent fun email => ?_
  refine silent_bind (plain_verify _).silent fun state => ?_
  refine silent_bind (silent_attempt (silent_perform rfl)) fun ceremonyId => ?_
  exact (plain_bind (plain_lift (plain_perform rfl)) fun _ => plain_pure).silent

theorem silent_assertStart (nonce : List UInt8) : Silent (assertStart env h nonce) := by
  unfold assertStart
  refine silent_bind (silent_sessionUser env h) fun user => ?_
  refine silent_bind (plain_requireCeremonies env).silent fun ceremonies => ?_
  refine silent_bind (silent_attempt (silent_perform rfl)) fun live => ?_
  refine silent_ite silent_throw (silent_ite silent_throw ?_)
  refine silent_bind (plain_verify _).silent fun state => ?_
  exact silent_bind (silent_attempt (silent_perform rfl)) fun _ => silent_pure

/-- The ceremony is the last thing that the request was told. -/
theorem takeCeremony_finishing (id : Uuid) (kind : CeremonyKind) :
    Finishing env r (fun τ' row => τ' = τ ++ [told (.takeCeremony id kind) (.ok (some row))])
      (takeCeremony id kind) τ := by
  unfold takeCeremony
  refine finishing_bind (A := fun τ' row => τ' = τ ++ [told (.takeCeremony id kind) (.ok row)]) ?_ ?_
  · refine finishing_await ⟨trivial, ?_⟩
    rintro answer - row rfl
    rfl
  · intro τ' _ row hrow
    cases row with
    | none => exact finishing_throw
    | some row => exact finishing_pure hrow

theorem verify_finishing {step : String} (result : Except String α) :
    Finishing env r (fun _ a => result = .ok a) (verify step result) τ := by
  cases result with
  | ok a => exact finishing_pure rfl
  | error e => exact finishing_throw

theorem registerFinish_finishing (ceremonyId : Uuid) (register : List UInt8) :
    Finishing env (.registerFinish h ceremonyId register) (fun _ _ => True)
      (registerFinish env h ceremonyId register) τ := by
  unfold registerFinish
  refine finishing_bind ((actor_knowing env h).finishing (silent_actor env h)) fun τ₁ _ actor ha => ?_
  refine finishing_bind ((requireCeremonies_knowing env h).finishing
    (plain_requireCeremonies env).silent) fun τ₂ h₂ webauthn hwebauthn => ?_
  have hnickname : Silent (ExceptT.lift (perform (.takeNickname ceremonyId))) :=
    (plain_lift (plain_perform rfl)).silent
  refine finishing_bind hnickname.finishing fun τ₃ h₃ nickname _ => ?_
  refine finishing_bind (takeCeremony_finishing env _ ceremonyId .registration) ?_
  rintro τ₄ - row rfl
  refine finishing_bind (verify_finishing env _ _) fun τ₅ h₅ registered hverified => ?_
  obtain ⟨bytes, credential⟩ := registered
  refine finishing_bind (A := fun _ _ => True) (finishing_await ⟨?_, fun _ _ _ _ => trivial⟩)
    fun τ₆ _ _ _ => ?_
  · obtain ⟨τ', rfl⟩ := h₅
    have hspeaks := ha.speaks.mono (h₂.trans h₃)
    exact ⟨row, h, ceremonyId, register, τ₃, τ', webauthn, bytes, rfl,
      List.append_assoc _ _ _, hspeaks.mem_speakers, hwebauthn, hverified, rfl⟩
  · exact (plain_bind (plain_auditActor _ _) fun _ => plain_pure).silent.finishing

/-- The session that made the request is promoted. -/
theorem promote_finishing {user : SessionUser}
    (hu : FinishesOnly env r τ (.markMfaSatisfied user.sessionId)) :
    Finishing env r (fun _ _ => True) (promote user) τ :=
  finishing_ite (fun _ => finishing_await ⟨hu, fun _ _ _ _ => trivial⟩) fun _ => finishing_pure trivial

theorem assertFinish_finishing (ceremonyId : Uuid) (credentialId answer : List UInt8) :
    Finishing env (.assertFinish h ceremonyId credentialId answer) (fun _ _ => True)
      (assertFinish env h ceremonyId credentialId answer) τ := by
  unfold assertFinish
  refine finishing_bind ((sessionUser_knowing env h).finishing (silent_sessionUser env h))
    fun τ₁ _ user huser => ?_
  refine finishing_bind ((requireCeremonies_knowing env h).finishing
    (plain_requireCeremonies env).silent) fun τ₂ h₂ webauthn hwebauthn => ?_
  refine finishing_bind (A := fun τ row => ∀ q, row = some q →
    told (.findPasskey (encodeBase64Url credentialId)) (.ok (some q)) ∈ τ) ?_ ?_
  · refine finishing_await ⟨trivial, ?_⟩
    rintro r - row rfl q rfl
    exact List.mem_append_right _ List.mem_cons_self
  intro τ₃ h₃ found hfound
  cases found with
  | none => exact finishing_throw
  | some q =>
    refine finishing_ite (fun _ => finishing_throw) fun hown => ?_
    refine finishing_ite (fun _ => finishing_throw) fun _ => ?_
    refine finishing_bind (takeCeremony_finishing env _ ceremonyId .assertion) ?_
    rintro τ₄ - row rfl
    refine finishing_bind (verify_finishing env _ _) fun τ₅ h₅ asserted hverified => ?_
    obtain ⟨counter, updated⟩ := asserted
    refine finishing_bind (A := fun τ' _ =>
      τ' = τ₅ ++ [told (.recordUse q.id counter updated) (.ok ())]) ?_ ?_
    · refine finishing_await ⟨trivial, ?_⟩
      rintro r - ⟨⟩ rfl
      rfl
    · rintro τ₆ - _ rfl
      obtain ⟨τ', rfl⟩ := h₅
      obtain ⟨s, hs, hs', hid⟩ := huser
      refine finishing_bind (promote_finishing env _ (.inl ⟨s, q, row, hid, ?_⟩)) fun τ₇ _ _ _ =>
        (plain_bind (plain_auditUser _ _) fun _ => plain_pure).silent.finishing
      refine ⟨h, ceremonyId, credentialId, answer, τ₃,
        τ' ++ [told (.recordUse q.id counter updated) (.ok ())], webauthn, counter, updated, rfl,
        ?_, hs.mono (h₂.trans h₃), hfound q rfl, (not_not.mp hown).trans hs'.symm, hwebauthn,
        hverified, List.mem_append_right _ List.mem_cons_self⟩
      rw [List.append_assoc, List.append_assoc]
      rfl

theorem recoveryRedeem_finishing (code : String) :
    Finishing env (.recoveryRedeem h code) (fun _ _ => True) (recoveryRedeem env h code) τ := by
  unfold recoveryRedeem
  refine finishing_bind ((sessionUser_knowing env h).finishing (silent_sessionUser env h))
    fun τ₁ _ user huser => ?_
  refine finishing_bind (A := fun τ b => told (.tryConsume user.userId (hashCode env code)) (.ok b) ∈ τ)
    ?_ ?_
  · refine finishing_await ⟨trivial, ?_⟩
    rintro r - b rfl
    exact List.mem_append_right _ List.mem_cons_self
  · intro τ₂ h₂ consumed hconsumed
    refine finishing_ite (fun _ => ?_) fun htrue => ?_
    · exact (plain_bind (plain_ignore (plain_auditUser _ _)) fun _ => plain_throw).silent.finishing
    · obtain ⟨s, hs, hs', hid⟩ := huser
      have hredeemed : told (.tryConsume s.userId (hashCode env code)) (.ok true) ∈ τ₂ := by
        rw [hs']
        simpa using (by simpa using htrue : consumed = true) ▸ hconsumed
      refine finishing_bind (promote_finishing env _ (.inr ⟨s, _, hid, hs.mono h₂, hredeemed⟩))
        fun τ₃ _ _ _ => (plain_bind (plain_await (plain_perform rfl)) fun _ => ?_).silent.finishing
      exact plain_bind (plain_auditUser _ _) fun _ => plain_pure

end Handlers

/-- Whatever it is answered, a request stores a passkey or promotes a session only at the end of
a ceremony that it took, or for a recovery code. -/
theorem handler_finishes (env : Deployment) (r : Request) :
    Meets (I := access) (FinishesOnly env r) (fun _ _ _ => True) (fun _ _ => True)
      (r.handler env).run [] := by
  have hdone {p : Handler Response} (hp : Finishing env r (fun _ _ => True) p []) :
      Meets (I := access) (FinishesOnly env r) (fun _ _ _ => True) (fun _ _ => True) p.run [] := by
    unfold Finishing at hp
    exact meets_mono hp (fun _ _ h => h) fun _ _ _ => trivial
  have hextracted {α : Type} {p : Handler α} {f : α → Handler Response} (hp : Silent p)
      (hf : ∀ a, Plain (f a)) := hdone (silent_bind hp fun a => (hf a).silent).finishing
  cases r with
  | asActor h => exact hextracted (silent_actor env h) fun _ => plain_pure
  | asOwner h => exact hextracted (silent_owner env h) fun _ => plain_pure
  | start state codeVerifier redirectTo => exact hdone (plain_start _ _ _).silent.finishing
  | callback h code state => exact hdone (silent_callback env h code state).finishing
  | logout h => exact hdone (plain_logout env h).silent.finishing
  | createApiKey h name expiresInDays token =>
    refine hextracted (silent_actor env h) fun actor => plain_bind (plain_checkName name) fun name => ?_
    exact plain_bind (plain_await (plain_perform rfl)) fun _ => plain_pure
  | revokeApiKey h id =>
    refine hextracted (silent_actor env h) fun actor =>
      plain_bind (plain_await (plain_perform rfl)) fun affected => ?_
    exact plain_ite plain_throw_bind plain_pure
  | registerStart h nickname nonce =>
    exact hdone (silent_registerStart env h nickname nonce).finishing
  | registerFinish h ceremonyId register =>
    exact hdone (registerFinish_finishing env h ceremonyId register)
  | assertStart h nonce => exact hdone (silent_assertStart env h nonce).finishing
  | assertFinish h ceremonyId credentialId answer =>
    exact hdone (assertFinish_finishing env h ceremonyId credentialId answer)
  | revokePasskey h id =>
    refine hextracted (silent_actor env h) fun actor =>
      plain_bind (plain_await (plain_perform rfl)) fun _ => ?_
    exact plain_bind (plain_auditActor _ _) fun _ => plain_pure
  | recoveryRegenerate h codes =>
    refine hextracted (silent_actor env h) fun actor =>
      plain_bind (plain_await (plain_perform rfl)) fun _ => ?_
    exact plain_bind (plain_auditActor _ _) fun _ => plain_pure
  | recoveryRedeem h code => exact hdone (recoveryRedeem_finishing env h code)
  | createInvite h organizationId email role token =>
    refine hextracted (silent_owner env h) fun owner =>
      plain_bind (plain_requireSelfOrg _ _) fun _ => ?_
    exact plain_bind (plain_service _) fun _ => plain_pure
  | acceptInvite h token =>
    refine hextracted (silent_sessionUser env h) fun user => plain_ite plain_throw_bind ?_
    refine plain_bind (plain_lookupUserEmail _ _) fun email => ?_
    exact plain_bind (plain_service _) fun _ => plain_pure
  | updateRole h organizationId userId role | removeMember h organizationId userId =>
    refine hextracted (silent_owner env h) fun owner =>
      plain_bind (plain_requireSelfOrg _ _) fun _ => ?_
    exact plain_bind (plain_service _) fun _ => plain_pure

/-! ## Runs -/

section Runs

variable (env : Deployment) (rawId : List UInt8 → List UInt8) (w : Accounts)
  (s : PoolState access Accounts Request (Except ApiError Response))

/-- The user of the ceremony has started it: some request put it that spoke for him. -/
def Started (row : Ceremony) : Prop :=
  row ∈ w.ceremonies ∨ ∃ i r τ₁ answer τ₂,
    s.slot i = some (r, τ₁ ++ told (.putCeremony row.userId row.kind row.state) answer :: τ₂) ∧
      Speaks τ₁ row.userId

/-- The passkey was stored before, or its user has finished a registration that he started. -/
def PasskeyBound (q : Passkey) : Prop :=
  (∃ q₀ ∈ w.db.passkeys, Accounts.SameKey q₀ q) ∨ ∃ i r τ credential row,
    s.slot i = some (r, τ) ∧ RegistrationFinished env r τ q.userId q.credentialId credential row ∧
      row.kind = .registration ∧ row.userId = q.userId ∧ Started w s row

/-- The passkey is the one that answers, by its raw id. -/
def AnsweredBy (q : Passkey) : Request → Prop
  | .assertFinish _ _ _ answer => q.credentialId = encodeBase64Url (rawId answer)
  | _ => False

/-- The request that promotes the session has redeemed a recovery code of its user, or finished
an assertion that was started for this user, with a live passkey of his. -/
def PromotionBound (r : Request) (τ : Trace access) (t : Session) : Prop :=
  (∃ hash, told (.tryConsume t.userId hash) (.ok true) ∈ τ) ∨ ∃ t' q row,
    t'.id = t.id ∧ AssertionFinished env r τ t' q row ∧ row.kind = .assertion ∧
      row.userId = t.userId ∧ Started w s row ∧ q.userId = t.userId ∧ q.isLive = true ∧
      AnsweredBy rawId q r

/-- The answer of the request verifies against the ceremony. -/
def answersTo (r : Request) (τ : Trace access) (row : Ceremony) : Bool :=
  match env.webauthn, r with
  | some webauthn, .registerFinish _ _ register =>
    (webauthn.finishRegistration row.state register).isOk
  | some webauthn, .assertFinish _ _ _ answer =>
    (found τ).any fun q => (webauthn.finishAuthentication row.state q.credential answer).isOk
  | _, _ => false

/-- The bytes under which the passkey is looked up are the raw id of the one that answers. -/
def namesItself : Request → Bool
  | .assertFinish _ _ credentialId answer => credentialId == rawId answer
  | _ => true

/-- The ceremony is the one of whoever makes the request. -/
def isOwn (r : Request) (τ : Trace access) (row : Ceremony) : Bool :=
  (speakers τ).all (· == row.userId) && namesItself rawId r

/-- No request takes a ceremony that is not its own, if its answer verifies against it. -/
def takesOwn (s : PoolState access Accounts Request (Except ApiError Response)) :
    Act Request Outcome → Bool
  | .start _ => true
  | .step i x =>
    match s.slot i, s.nextCall i with
    | some (r, τ), some (.takeCeremony id kind) => x.reply != .ok ||
      s.world.ceremonies.all fun row =>
        !(takes (s.world.clock + x.elapsed) id kind row && answersTo env r τ row) ||
          isOwn rawId r τ row
    | _, _ => true

/-- What a request learns about the ceremony that it takes and about the passkey it looks up. -/
def Learns (r : Request) (τ : Trace access) : (c : AccessCall) → c.Answer → Prop
  | .takeCeremony _ kind, .ok (some row) =>
    row.kind = kind ∧ (answersTo env r τ row = true → isOwn rawId r τ row = true)
  | .findPasskey credentialId, .ok (some q) => q.credentialId = credentialId ∧ q.isLive = true
  | _, _ => True

variable {env rawId w s} {as : List (Act Request Outcome)}

theorem accessPool_answer {w w' : Accounts} {i : Nat} {c : access.Call} {x : Outcome}
    {answer : access.Answer c} {js : List Request}
    (h : (accessPool env).answer w i c x = some (w', answer, js)) :
    w' = (w.answer c x).1 ∧ answer = (w.answer c x).2 := by
  cases h
  exact ⟨rfl, rfl⟩

theorem learns_of_takesOwn {i : Nat} {x : Outcome} {r : Request} {τ : Trace access} {c : AccessCall}
    {answer : c.Answer} (hC : takesOwn env rawId s (.step i x) = true)
    (hslot : s.slot i = some (r, τ)) (hnext : s.nextCall i = some c)
    (h : (s.world.answer c x).2 = answer) : Learns env rawId r τ c answer := by
  unfold Learns
  split
  · next id kind row =>
    obtain ⟨hreply, hfind⟩ := Accounts.reply_of_takeCeremony h
    simp only [takesOwn, hslot, hnext, hreply, bne_self_eq_false, Bool.false_or] at hC
    have htakes : takes (s.world.clock + x.elapsed) id kind row = true := List.find?_some hfind.symm
    have hown := List.all_eq_true.mp hC row (List.mem_of_find?_eq_some hfind.symm)
    refine ⟨(takes_iff.mp htakes).2.1, fun hanswers => ?_⟩
    rw [htakes, hanswers] at hown
    exact hown
  · have hq := List.find?_some (Accounts.reply_of_findPasskey h).symm
    simp only [Bool.and_eq_true, beq_iff_eq] at hq
    exact hq
  · trivial

/-- Ids of sessions stay unique, and a session that a request has resolved stays with its
user. -/
theorem exec_resolved (hids : (w.sessions.map (·.id)).Nodup)
    (hrun : (accessPool env).exec (Pool.init w) as = some s) :
    (s.world.sessions.map (·.id)).Nodup ∧ ∀ i r τ t, s.slot i = some (r, τ) → Resolved τ t →
      ∃ t' ∈ s.world.sessions, t'.id = t.id ∧ t'.userId = t.userId := by
  let L : Accounts → Nat → Option (Request × Trace access) → Prop := fun w _ slot =>
    ∀ r τ t, slot = some (r, τ) → Resolved τ t →
      ∃ t' ∈ w.sessions, t'.id = t.id ∧ t'.userId = t.userId
  have hslots : Pool.Slots (fun r => FinishesOnly env r) (fun _ _ _ => True)
      (fun w => (w.sessions.map (·.id)).Nodup) L s := by
    refine Pool.exec_slots (C := fun _ _ => true) (L := L) (handler_finishes env) ?_ ?_
      (Pool.slots_init hids fun _ _ _ _ heq => nomatch heq) (Pool.allSteps_of_forall fun _ _ _ => rfl)
      hrun
    · intro w i r _ _ r' τ t heq ht
      cases heq
      obtain ⟨id, hmem⟩ := ht
      cases hmem
    · intro s i x t c w' answer js hs _ ht _ _ ha
      obtain ⟨rfl, rfl⟩ := accessPool_answer ha
      have hold (k : Nat) : L (s.world.answer c x).1 k (s.slot k) := by
        intro r τ t heq ht
        obtain ⟨t', ht', hid, huser⟩ := hs.slot k r τ t heq ht
        obtain ⟨t'', ht'', hid', huser', -⟩ := Accounts.session_persists (c := c) (x := x) ht'
        exact ⟨t'', ht'', hid'.trans hid, huser'.trans huser⟩
      refine ⟨Accounts.answer_ids_nodup hs.world, ?_, fun k _ => hold k⟩
      intro r τ t₁ heq ht₁
      cases heq
      obtain ⟨id, hmem⟩ := ht₁
      rcases List.mem_append.mp hmem with hmem | hmem
      · exact hold i _ _ t₁ (PoolState.slot_of_getElem? ht) ⟨id, hmem⟩
      · -- the session is the one that the call has found
        obtain ⟨rfl, hanswer⟩ := Sigma.mk.inj (List.mem_singleton.mp hmem)
        have hfind := Accounts.reply_of_resolveSession (eq_of_heq hanswer).symm
        obtain ⟨t', ht', hid, huser, -⟩ :=
          Accounts.session_persists (c := .resolveSession id) (x := x)
            (List.mem_of_find?_eq_some hfind.symm)
        exact ⟨t', ht', hid, huser⟩
  exact ⟨hslots.world, fun i r τ t hslot ht => hslots.slot i r τ t hslot ht⟩

/-- Whoever is stored with a ceremony, pending or taken, has started it. -/
theorem exec_started (hrun : (accessPool env).exec (Pool.init w) as = some s) {i : Nat} {r : Request}
    {τ : Trace access} {id : Uuid} {kind : CeremonyKind} {row : Ceremony}
    (hslot : s.slot i = some (r, τ))
    (htaken : told (.takeCeremony id kind) (.ok (some row)) ∈ τ) : Started w s row := by
  have horigin := Pool.exec_origin (D := fun w row => row ∈ w.ceremonies)
    (M := fun c row => c = AccessCall.putCeremony row.userId row.kind row.state)
    (V := fun c answer row => ∃ id kind, (⟨c, answer⟩ : Σ c : access.Call, access.Answer c) =
      told (.takeCeremony id kind) (.ok (some row))) ?_ ?_ hrun
  · rcases horigin.2 i r τ _ _ row hslot htaken ⟨id, kind, rfl⟩ with hold | hput
    · exact .inl hold
    · obtain ⟨k, r', τ₁, c, answer, τ₂, hslot', rfl⟩ := hput
      exact .inr ⟨k, r', τ₁, answer, τ₂, hslot', Pool.exec_calls (handler_warranted env) hrun hslot'⟩
  · intro w i c x w' answer js ha row hrow
    obtain ⟨rfl, rfl⟩ := accessPool_answer ha
    rcases Accounts.answer_cases w c x with ⟨heq, -⟩ | ⟨heq, -⟩
    · rw [heq] at hrow
      exact Accounts.execute_ceremonies (w.tick x.elapsed) x c row hrow
    · rw [heq] at hrow
      exact .inl hrow
  · intro w i c x w' answer js ha row hshown
    obtain ⟨rfl, rfl⟩ := accessPool_answer ha
    obtain ⟨id, kind, heq⟩ := hshown
    obtain ⟨rfl, hanswer⟩ := Sigma.mk.inj heq
    have hfind := (Accounts.reply_of_takeCeremony (eq_of_heq hanswer)).2
    exact List.mem_of_find?_eq_some hfind.symm

/-- What the requests of a run have learned, when they take only what is their own. -/
theorem exec_learns (hrun : (accessPool env).exec (Pool.init w) as = some s)
    (hC : (accessPool env).allSteps (takesOwn env rawId) (Pool.init w) as = true) {i : Nat}
    {r : Request} {τ₁ τ₂ : Trace access} {c : AccessCall} {answer : c.Answer}
    (hslot : s.slot i = some (r, τ₁ ++ told c answer :: τ₂)) : Learns env rawId r τ₁ c answer := by
  refine Pool.exec_told (T := fun r τ c answer => Learns env rawId r τ c answer) ?_ hC hrun hslot
  intro s s' i x r τ c answer hCs hcalls
  obtain ⟨js, ha⟩ := hcalls.answer
  exact learns_of_takesOwn hCs hcalls.slot hcalls.nextCall (accessPool_answer ha).2.symm

/-- A registration that is finished was the user's own. -/
theorem RegistrationFinished.own (hrun : (accessPool env).exec (Pool.init w) as = some s)
    (hC : (accessPool env).allSteps (takesOwn env rawId) (Pool.init w) as = true) {i : Nat}
    {r : Request} {τ₀ τ : Trace access} {userId : Uuid} {credentialId : String}
    {credential : List UInt8} {row : Ceremony} (hslot : s.slot i = some (r, τ)) (hτ : τ₀ <+: τ)
    (h : RegistrationFinished env r τ₀ userId credentialId credential row) :
    RegistrationFinished env r τ userId credentialId credential row ∧ row.kind = .registration ∧
      row.userId = userId ∧ Started w s row := by
  obtain ⟨τ₃, rfl⟩ := hτ
  obtain ⟨headers, ceremonyId, register, τ₁, τ₂, webauthn, bytes, rfl, rfl, hspeaks, hwebauthn,
    hverified, hid⟩ := h
  rw [List.append_assoc, List.cons_append] at hslot ⊢
  obtain ⟨hkind, hown⟩ := exec_learns hrun hC hslot
  refine ⟨⟨headers, ceremonyId, register, τ₁, τ₂ ++ τ₃, webauthn, bytes, rfl, rfl, hspeaks, hwebauthn,
    hverified, hid⟩, hkind, ?_, ?_⟩
  · have hisOwn := hown (by simp only [answersTo, hwebauthn, hverified]; rfl)
    have hall := (Bool.and_eq_true _ _ ▸ hisOwn).1
    have hequal := List.all_eq_true.mp hall userId hspeaks
    exact (beq_iff_eq.mp hequal).symm
  · exact exec_started hrun hslot (List.mem_append_right _ List.mem_cons_self)

theorem AssertionFinished.resolved {r : Request} {τ : Trace access} {t : Session} {q : Passkey}
    {row : Ceremony} (h : AssertionFinished env r τ t q row) : Resolved τ t := by
  obtain ⟨_, _, _, _, τ₁, _, _, _, _, -, rfl, hresolved, -⟩ := h
  exact hresolved.mono (List.prefix_append τ₁ _)

/-- An assertion that is finished was the user's own, and was answered with his passkey. -/
theorem AssertionFinished.own (hrun : (accessPool env).exec (Pool.init w) as = some s)
    (hC : (accessPool env).allSteps (takesOwn env rawId) (Pool.init w) as = true) {i : Nat}
    {r : Request} {τ : Trace access} {t : Session} {q : Passkey} {row : Ceremony}
    (hslot : s.slot i = some (r, τ)) (h : AssertionFinished env r τ t q row) :
    row.kind = .assertion ∧ row.userId = t.userId ∧ Started w s row ∧ q.userId = t.userId ∧
      q.isLive = true ∧ AnsweredBy rawId q r := by
  obtain ⟨headers, ceremonyId, credentialId, answer, τ₁, τ₂, webauthn, counter, updated, rfl, rfl,
    hresolved, hfound, huser, hwebauthn, hverified, -⟩ := h
  obtain ⟨hkind, hown⟩ := exec_learns hrun hC hslot
  have hanswers : answersTo env (.assertFinish headers ceremonyId credentialId answer) τ₁ row =
      true := by
    simp only [answersTo, hwebauthn]
    exact List.any_eq_true.mpr ⟨q, mem_found hfound, by rw [hverified]; rfl⟩
  have hisOwn := hown hanswers
  simp only [isOwn, namesItself, Bool.and_eq_true, beq_iff_eq] at hisOwn
  obtain ⟨hall, hnames⟩ := hisOwn
  have hspeaks : Speaks τ₁ t.userId := .inl ⟨t, hresolved, rfl⟩
  have hequal := List.all_eq_true.mp hall t.userId hspeaks.mem_speakers
  have hlearned : q.credentialId = encodeBase64Url credentialId ∧ q.isLive = true := by
    obtain ⟨τ₃, τ₄, rfl⟩ := List.append_of_mem hfound
    rw [List.append_assoc, List.cons_append] at hslot
    exact exec_learns hrun hC hslot
  refine ⟨hkind, (beq_iff_eq.mp hequal).symm, ?_, huser, hlearned.2, ?_⟩
  · exact exec_started hrun hslot (List.mem_append_right _ List.mem_cons_self)
  · exact hlearned.1.trans (congrArg encodeBase64Url hnames)

/-- In every run of any requests, interleaved and failing in any way, that take no ceremony but
their own when their answer verifies against it: each passkey of a user that is stored was
registered in a ceremony that he started, and each session of a user that is promoted is promoted
for an assertion that was started for him and answered by a live passkey of his, or for one of
his recovery codes. -/
theorem ceremonies_bound (hids : (w.sessions.map (·.id)).Nodup)
    (hrun : (accessPool env).exec (Pool.init w) as = some s)
    (hC : (accessPool env).allSteps (takesOwn env rawId) (Pool.init w) as = true) :
    (∀ q ∈ s.world.db.passkeys, PasskeyBound env w s q) ∧
      ∀ i x s', (accessPool env).step s (.step i x) = some s' → ∀ t ∈ s.world.sessions,
        t.mfaSatisfied = false →
        (∃ t' ∈ s'.world.sessions, t'.id = t.id ∧ t'.mfaSatisfied = true) →
        ∃ r τ, s.slot i = some (r, τ) ∧ PromotionBound env rawId w s r τ t := by
  constructor
  · intro q hq
    have horigin := Pool.exec_origin (D := fun w q => ∃ q₀ ∈ w.db.passkeys, Accounts.SameKey q₀ q)
      (M := fun c q => ∃ credential nickname,
        c = AccessCall.insertPasskey q.userId q.credentialId credential nickname)
      (V := fun _ _ _ => False) ?_ (fun _ _ _ _ _ _ _ _ _ h => h.elim) hrun
    · rcases horigin.1 q ⟨q, hq, rfl, rfl, rfl⟩ with hold | hmade
      · exact .inl hold
      · obtain ⟨i, r, τ₁, c, answer, τ₂, hslot, credential, nickname, rfl⟩ := hmade
        obtain ⟨row, hfinished⟩ := Pool.exec_calls (handler_finishes env) hrun hslot
        exact .inr ⟨i, r, _, credential, row, hslot,
          hfinished.own hrun hC hslot (List.prefix_append _ _)⟩
    · intro w i c x w' answer js ha b hb
      obtain ⟨rfl, rfl⟩ := accessPool_answer ha
      obtain ⟨q', hq', hsame⟩ := hb
      rcases Accounts.answer_cases w c x with ⟨heq, -⟩ | ⟨heq, -⟩
      · rw [heq] at hq'
        rcases Accounts.execute_passkeys (w.tick x.elapsed) x c q' hq' with
          ⟨q₀, hq₀, hsame'⟩ | ⟨credentialId, credential, nickname, rfl, hnew⟩
        · exact .inl ⟨q₀, hq₀, hsame'.sameId.trans hsame.sameId,
            hsame'.sameUser.trans hsame.sameUser, hsame'.sameCredential.trans hsame.sameCredential⟩
        · have hcredential : q'.credentialId = credentialId := by rw [hnew]; rfl
          refine .inr ⟨credential, nickname, ?_⟩
          rw [← hsame.sameUser, ← hsame.sameCredential, hcredential]
      · rw [heq] at hq'
        exact .inl ⟨q', hq', hsame⟩
  · intro i x s' hstep t ht hunpromoted hpromoted
    obtain ⟨thread, c, k, w', answer, js, hthread, hcode, ha, rfl⟩ := Pool.step_step.mp hstep
    obtain ⟨rfl, rfl⟩ := accessPool_answer ha
    obtain ⟨t', ht', hid, hsatisfied⟩ := hpromoted
    obtain ⟨hunique, hresolved⟩ := exec_resolved hids hrun
    obtain rfl := Accounts.eq_of_promoted hunique ht hunpromoted ht' hid hsatisfied
    have hslot := PoolState.slot_of_getElem? hthread
    refine ⟨_, _, hslot, ?_⟩
    have hsameUser {t' : Session} (ht' : Resolved thread.trace t') (hid : t'.id = t.id) :
        t'.userId = t.userId := by
      obtain ⟨t'', ht'', hid', huser⟩ := hresolved i _ _ t' hslot ht'
      obtain rfl : t'' = t := List.inj_on_of_nodup_map hunique ht'' ht (hid'.trans hid)
      exact huser.symm
    rcases Pool.exec_next (handler_finishes env) hrun hthread hcode with
      ⟨t', q, row, hid', hfinished⟩ | ⟨t', hash, hid', hmem, hredeemed⟩
    · have hbound := hfinished.own hrun hC hslot
      rw [hsameUser hfinished.resolved hid'] at hbound
      obtain ⟨hkind, huser, hstarted, hpasskey, hlive, hanswered⟩ := hbound
      exact .inr ⟨t', q, row, hid', hfinished, hkind, huser, hstarted, hpasskey, hlive, hanswered⟩
    · rw [hsameUser hmem hid'] at hredeemed
      exact .inl ⟨hash, hredeemed⟩

end Runs

/-! ## Two users at the same relying party -/

/-- A relying party with challenges of one byte: a registration is the challenge and the new
credential, an assertion the challenge and the credential that answers. -/
def challenging : Webauthn where
  startRegistration := fun nonce _ _ _ => .ok nonce
  finishRegistration := fun state register =>
    if state.isPrefixOf register
    then .ok (register.drop state.length, register.drop state.length) else .error "challenge"
  startAuthentication := fun nonce passkeys => .ok (nonce ++ passkeys.flatten)
  finishAuthentication := fun state passkey answer =>
    if state = answer then .ok (1, passkey) else .error "challenge"
  readable := fun _ => true

def withCeremonies : Deployment := { smallDeployment with webauthn := some challenging }

/-- The team, with a partial session of the owner 1. -/
def teamAtGate : Accounts :=
  { smallTeam with
    sessions := [⟨10, 1, 0, sessionTtl, none, false⟩, ⟨20, 2, 0, sessionTtl, none, true⟩] }

/-- All goes well, and an insert uses this id. -/
def fine (id : Uuid) : Outcome := { reply := .ok, elapsed := 1, id := id }

/-- The owner starts a registration. -/
def ownerStarts : List (Act Request Outcome) :=
  .start (.registerStart (cookieOf 10) "laptop" [7]) :: List.replicate 6 (.step 0 (fine 40))

/-- The owner finishes it, starts an assertion with the new passkey and answers it. -/
def ownerFinishes : List (Act Request Outcome) :=
  ownerStarts ++ .start (.registerFinish (cookieOf 10) 40 [7, 9]) ::
    List.replicate 6 (.step 1 (fine 50)) ++ .start (.assertStart (cookieOf 10) [8]) ::
      List.replicate 3 (.step 2 (fine 41)) ++ .start (.assertFinish (cookieOf 10) 41 [9] [8, 9]) ::
        List.replicate 4 (.step 3 (fine 0))

theorem ceremonies_bound_owner :
    ∃ s s', (accessPool withCeremonies).exec (Pool.init teamAtGate) ownerFinishes = some s ∧
      (accessPool withCeremonies).step s (.step 3 (fine 0)) = some s' ∧
      (∃ q ∈ s.world.db.passkeys, q.userId = 1 ∧ PasskeyBound withCeremonies teamAtGate s q) ∧
      ∃ t ∈ s.world.sessions, t.userId = 1 ∧ ∃ r τ, s.slot 3 = some (r, τ) ∧
        PromotionBound withCeremonies (List.drop 1) teamAtGate s r τ t := by
  have hrun : ((accessPool withCeremonies).exec (Pool.init teamAtGate) ownerFinishes).any (fun s =>
      (s.world.db.passkeys.any fun q => q.userId == 1) &&
        ((accessPool withCeremonies).step s (.step 3 (fine 0))).any fun s' =>
          s.world.sessions.any fun t => !t.mfaSatisfied && t.userId == 1 &&
            s'.world.sessions.any fun t' => t'.id == t.id && t'.mfaSatisfied) = true := by
    decide +kernel
  have hC : (accessPool withCeremonies).allSteps (takesOwn withCeremonies (List.drop 1))
      (Pool.init teamAtGate) ownerFinishes = true := by decide +kernel
  obtain ⟨s, hs, hrest⟩ := (Option.any_eq_true _ _).mp hrun
  simp only [Bool.and_eq_true, Option.any_eq_true, List.any_eq_true, beq_iff_eq,
    Bool.not_eq_true'] at hrest
  obtain ⟨⟨q, hq, huser⟩, s', hs', t, ht, ⟨hunpromoted, howner⟩, hpromoted⟩ := hrest
  obtain ⟨hpasskeys, hsessions⟩ := ceremonies_bound (by decide) hs hC
  refine ⟨s, s', hs, hs', ⟨q, hq, huser, hpasskeys q hq⟩, t, ht, howner, ?_⟩
  exact hsessions 3 (fine 0) s' hs' t ht hunpromoted hpromoted

/-- The developer finishes the registration that the owner has started. -/
def developerFinishes : List (Act Request Outcome) :=
  ownerStarts ++
    .start (.registerFinish (cookieOf 20) 40 [7, 9]) :: List.replicate 5 (.step 1 (fine 50))

/-- A ceremony that was taken is the owner's. -/
def ownersCeremony : (Σ c : access.Call, access.Answer c) → Bool
  | ⟨.takeCeremony _ _, .ok (some row)⟩ => row.userId == 1
  | _ => true

theorem not_ceremonies_bound :
    ¬ ∀ (env : Deployment) (w : Accounts) (as : List (Act Request Outcome))
      (s : PoolState access Accounts Request (Except ApiError Response)),
      (w.sessions.map (·.id)).Nodup → (accessPool env).exec (Pool.init w) as = some s →
      ∀ q ∈ s.world.db.passkeys, PasskeyBound env w s q := by
  intro h
  -- the only ceremony that anybody has taken is the owner's
  have hrun : ((accessPool withCeremonies).exec (Pool.init teamAtGate) developerFinishes).any
      (fun s => (s.world.db.passkeys.any fun q => q.userId == 2) && s.threads.all fun t =>
        t.trace.all ownersCeremony) = true := by
    decide +kernel
  obtain ⟨s, hs, hrest⟩ := (Option.any_eq_true _ _).mp hrun
  rw [Bool.and_eq_true, List.any_eq_true, List.all_eq_true] at hrest
  obtain ⟨⟨q, hq, hdeveloper⟩, htaken⟩ := hrest
  rcases h _ _ _ s (by decide) hs q hq with ⟨q₀, hq₀, -⟩ | ⟨i, r, τ, _, row, hslot, hfinished, -, huser, -⟩
  · cases hq₀
  · rw [PoolState.slot, Option.map_eq_some_iff] at hslot
    obtain ⟨t, ht, heq⟩ := hslot
    cases heq
    obtain ⟨_, id, _, τ₁, τ₂, _, _, -, hτ, -⟩ := hfinished
    have howner := List.all_eq_true.mp (htaken t (List.mem_of_getElem? ht))
      (told (.takeCeremony id .registration) (.ok (some row)))
      (hτ ▸ List.mem_append_right _ List.mem_cons_self)
    replace howner : (row.userId == 1) = true := howner
    rw [beq_iff_eq] at howner hdeveloper
    rw [howner, hdeveloper] at huser
    cases huser

end Kubinate.Access
