import Kubinate.Audit.Append
import Kubinate.Library.Settings

/-!
# Whom an audit entry names

The append functions read the actor, the request and the client from settings of the database
session, which `AuditContext::apply` of `crates/platform/src/audit.rs` sets for the length of a
transaction; row-level security reads the tenant in the same way, and `resolve_api_key` of
`crates/api/src/actor.rs` sets one that opens the API keys of all tenants. The sessions are those
of pooled connections: the next transaction, for whomever it is, gets a connection that others
have used.

* `attributed`: in every run of such transactions an audited write is recorded with the context
  that was given for its own transaction, and is made as the tenant of that transaction. A write
  outside of a transaction is recorded with nobody's.
* `bypasses`: no statement but those of `resolve_api_key` is made with the API keys open.

How statements and connections fail is open. The server's reading of UUIDs is a parameter.
-/

namespace Kubinate.Audit

open Platform Library

/-- The settings that the code makes. -/
inductive SettingName where
  | currentTenantId
  | currentActorId
  | currentRequestId
  | currentRequestIp
  | currentUserAgent
  | apiKeyAuthBypass
deriving DecidableEq, Repr

/-- The statements that read settings. -/
inductive SettingReader where
  | audited (w : AuditedWrite)
  | selectApiKey (tokenHash : Bytes)
  | updateLastUsedAt (keyId : Uuid)

/-- `id, user_id, organization_id` of a key that was found. -/
abbrev ApiKeyFound := Option (Uuid × Uuid × Uuid)

abbrev sessionSql : Interface := settingCalls SettingName String SettingReader ApiKeyFound

abbrev SessionCode := ExceptT Unit (Program sessionSql)

def sendSession (c : SettingCall SettingName String SettingReader) :
    Program sessionSql (c.Answer ApiKeyFound) :=
  Program.perform (I := sessionSql) c

/-- `SET LOCAL`, or `set_config` with `true`. -/
def setLocal (name : SettingName) (value : String) : SessionCode Unit :=
  ExceptT.mk (sendSession (.setLocal name value))

def runStatement (q : SettingReader) : SessionCode ApiKeyFound := ExceptT.mk (sendSession (.run q))

/-! ## Audited transactions -/

/-- An `IpAddr` is its text. -/
structure AuditContext where
  actorUserId : Option Uuid := none
  requestId : Option String := none
  ip : Option String := none
  userAgent : Option String := none

def setSome (name : SettingName) : Option String → SessionCode Unit
  | some value => setLocal name value
  | none => pure ()

def AuditContext.apply (audit : AuditContext) : SessionCode Unit := do
  setSome .currentActorId (audit.actorUserId.map Uuid.text)
  setSome .currentRequestId audit.requestId
  setSome .currentRequestIp audit.ip
  setSome .currentUserAgent audit.userAgent

/-- What every transaction with audited writes does, after `BEGIN` and before its end. -/
def auditedBody (organizationId : Uuid) (audit : AuditContext) (writes : List AuditedWrite) :
    SessionCode Unit := do
  setLocal .currentTenantId organizationId.text
  audit.apply
  writes.forM fun w => do
    let _ ← runStatement (.audited w)

/-- A transaction that is not committed is rolled back when it is dropped. -/
def endTransaction (commits : Bool) : SessionCode Unit := do
  if commits then
    match ← ExceptT.lift (sendSession .commit) with
    | .ok _ => pure ()
    | .error _ =>
      ExceptT.lift (sendSession .drop)
      throw ()
  else ExceptT.lift (sendSession .drop)

/-- A fallible part of a transaction; after an error the transaction is dropped. -/
def orDrop {α : Type} (body : SessionCode α) : SessionCode α := do
  match ← ExceptT.lift body.run with
  | .ok a => return a
  | .error _ =>
    ExceptT.lift (sendSession .drop)
    throw ()

def auditedTransaction (organizationId : Uuid) (audit : AuditContext) (writes : List AuditedWrite)
    (commits : Bool) : SessionCode Unit := do
  ExceptT.mk (sendSession .begin)
  orDrop (auditedBody organizationId audit writes)
  endTransaction commits

/-! ## API keys -/

/-- The update of `last_used_at` and the change of the tenant before it may fail. -/
def resolveApiKey (tokenHash : Bytes) : SessionCode ApiKeyFound := do
  ExceptT.mk (sendSession .begin)
  orDrop (setLocal .apiKeyAuthBypass "on")
  let row ← orDrop (runStatement (.selectApiKey tokenHash))
  match row with
  | none =>
    let _ ← ExceptT.lift (endTransaction true).run
    return none
  | some (keyId, userId, organizationId) =>
    let _ ← ExceptT.lift (setLocal .currentTenantId organizationId.text).run
    let _ ← ExceptT.lift (runStatement (.updateLastUsedAt keyId)).run
    endTransaction true
    return some (keyId, userId, organizationId)

/-! ## All of them -/

inductive SessionJob where
  | transaction (organizationId : Uuid) (audit : AuditContext) (writes : List AuditedWrite)
      (commits : Bool)
  /-- A statement on the pool of connections, as those of the billing events are. -/
  | statement (w : AuditedWrite)
  | resolveApiKey (tokenHash : Bytes)

def SessionJob.program : SessionJob → Program sessionSql (Except Unit ApiKeyFound)
  | .transaction organizationId audit writes commits => do
    let r ← (auditedTransaction organizationId audit writes commits).run
    return r.map fun _ => none
  | .statement w => sendSession (.single (.audited w))
  | .resolveApiKey tokenHash => (Audit.resolveApiKey tokenHash).run

def sessionPool : Pool sessionSql (Connections SettingName String SettingReader) SessionJob
    (SettingOutcome ApiKeyFound) (Except Unit ApiKeyFound) :=
  settingPool "" SessionJob.program

/-! ## What is read -/

section Reading

variable (parseUuid : String → Option Uuid) (settings : SettingName → Option String)

/-- `app_setting_text` and its siblings; an `inet` is its text. -/
def readSession : Session where
  actorUserId := (settings .currentActorId).bind parseUuid
  requestId := settings .currentRequestId
  requestIp := settings .currentRequestIp
  userAgent := settings .currentUserAgent

/-- `app_current_tenant_id()` -/
def readTenant : Uuid := ((settings .currentTenantId).bind parseUuid).getD Uuid.nil

end Reading

/-- An empty text is recorded as `NULL`. -/
def AuditContext.session (audit : AuditContext) : Session where
  actorUserId := audit.actorUserId
  requestId := audit.requestId.filter (· ≠ "")
  requestIp := audit.ip.filter (· ≠ "")
  userAgent := audit.userAgent.filter (· ≠ "")

def AuditContext.settings (organizationId : Uuid) (audit : AuditContext) :
    SettingName → Option String
  | .currentTenantId => some organizationId.text
  | .currentActorId => audit.actorUserId.map Uuid.text
  | .currentRequestId => audit.requestId.filter (· ≠ "")
  | .currentRequestIp => audit.ip.filter (· ≠ "")
  | .currentUserAgent => audit.userAgent.filter (· ≠ "")
  | .apiKeyAuthBypass => none

/-! ## What each program has set -/

/-- What a statement of the job sees when this is what the job has set. -/
def SessionJob.Sees (j : SessionJob) (own : SettingName → Option String) (q : SettingReader) : Prop :=
  match j with
  | .transaction organizationId audit writes _ =>
    ∃ w ∈ writes, q = .audited w ∧ own = audit.settings organizationId
  | .statement _ => False
  | .resolveApiKey tokenHash => q = .selectApiKey tokenHash ∨ ∃ keyId, q = .updateLastUsedAt keyId

/-- Which calls a job makes when this is what it has set. -/
def SessionJob.Makes (j : SessionJob) (own : SettingName → Option String) :
    SettingCall SettingName String SettingReader → Prop
  | .run q => j.Sees own q
  | .single q => ∃ w, j = .statement w ∧ q = .audited w
  | _ => True

/-- The settings after one more. -/
def withSetting (own : SettingName → Option String) (name : SettingName) :
    Option String → (SettingName → Option String)
  | some value => Function.update own name (if value = "" then none else some value)
  | none => own

section Programs

abbrev JobFollows {α : Type} (j : SessionJob) (Q : (SettingName → Option String) → α → Prop)
    (p : Program sessionSql α) (own : SettingName → Option String) : Prop :=
  Follows (I := sessionSql) (ownNext "") j.Makes Q p own

variable {j : SessionJob} {own : SettingName → Option String}
  {Q : (SettingName → Option String) → Except Unit α → Prop} {α : Type}

theorem follows_setLocal {name : SettingName} {value : String} :
    JobFollows j (Post (fun own' _ => own' = withSetting own name (some value)) fun _ _ => True)
      (setLocal name value).run own := by
  refine ⟨trivial, fun r => ?_⟩
  rcases r with e | ⟨⟩
  · trivial
  · rfl

theorem follows_setSome {name : SettingName} {value : Option String} :
    JobFollows j (Post (fun own' _ => own' = withSetting own name value) fun _ _ => True)
      (setSome name value).run own := by
  cases value with
  | none => rfl
  | some value => exact follows_setLocal

theorem text_ne_empty (u : Uuid) : u.text ≠ "" := by
  intro h
  have hlength : u.text.toList.length = 36 := by
    rw [Uuid.text, String.toList_ofList]
    exact u.length_chars
  rw [h] at hlength
  cases hlength

theorem withSetting_self {name : SettingName} {value : Option String} (hown : own name = none) :
    withSetting own name value name = value.filter (· ≠ "") := by
  cases value with
  | none => exact hown
  | some value =>
    rw [withSetting, Function.update_self, Option.filter_some]
    by_cases hv : value = "" <;> simp [hv]

theorem withSetting_of_ne {name name' : SettingName} {value : Option String} (h : name' ≠ name) :
    withSetting own name value name' = own name' := by
  cases value with
  | none => rfl
  | some value => exact Function.update_of_ne h ..

theorem filter_text (id : Option Uuid) : (id.map Uuid.text).filter (· ≠ "") = id.map Uuid.text := by
  cases id with
  | none => rfl
  | some id => rw [Option.map_some, Option.filter_some, if_pos (decide_eq_true (text_ne_empty id))]

/-- The settings of an audited transaction, one after the other. -/
theorem settings_eq (organizationId : Uuid) (audit : AuditContext) :
    withSetting (withSetting (withSetting (withSetting
      (withSetting (fun _ => none) .currentTenantId (some organizationId.text))
        .currentActorId (audit.actorUserId.map Uuid.text))
          .currentRequestId audit.requestId)
            .currentRequestIp audit.ip)
              .currentUserAgent audit.userAgent = audit.settings organizationId := by
  funext name
  cases name with
  | currentTenantId =>
    simp only [withSetting_of_ne, ne_eq, reduceCtorEq, not_false_eq_true]
    rw [withSetting_self rfl]
    exact filter_text (some organizationId)
  | currentActorId =>
    simp only [withSetting_of_ne, ne_eq, reduceCtorEq, not_false_eq_true]
    rw [withSetting_self (withSetting_of_ne SettingName.noConfusion)]
    exact filter_text audit.actorUserId
  | currentRequestId =>
    simp only [withSetting_of_ne, ne_eq, reduceCtorEq, not_false_eq_true]
    rw [withSetting_self (by simp [withSetting_of_ne])]
    rfl
  | currentRequestIp =>
    simp only [withSetting_of_ne, ne_eq, reduceCtorEq, not_false_eq_true]
    rw [withSetting_self (by simp [withSetting_of_ne])]
    rfl
  | currentUserAgent =>
    rw [withSetting_self (by simp [withSetting_of_ne])]
    rfl
  | apiKeyAuthBypass =>
    simp only [withSetting_of_ne, ne_eq, reduceCtorEq, not_false_eq_true]
    rfl

theorem follows_apply (audit : AuditContext) :
    JobFollows j (Post (fun own' _ => own' =
      withSetting (withSetting (withSetting (withSetting own
        .currentActorId (audit.actorUserId.map Uuid.text)) .currentRequestId audit.requestId)
          .currentRequestIp audit.ip) .currentUserAgent audit.userAgent) fun _ _ => True)
      audit.apply.run own := by
  unfold AuditContext.apply
  refine follows_bindE follows_setSome ?_ fun _ _ _ => trivial
  rintro _ ⟨⟩ rfl
  refine follows_bindE follows_setSome ?_ fun _ _ _ => trivial
  rintro _ ⟨⟩ rfl
  refine follows_bindE follows_setSome ?_ fun _ _ _ => trivial
  rintro _ ⟨⟩ rfl
  exact follows_setSome

theorem follows_auditedBody (organizationId : Uuid) (audit : AuditContext)
    (writes : List AuditedWrite) (commits : Bool) :
    JobFollows (.transaction organizationId audit writes commits)
      (Post (fun _ _ => True) fun _ _ => True)
      (auditedBody organizationId audit writes).run fun _ => none := by
  unfold auditedBody
  refine follows_bindE follows_setLocal ?_ fun _ _ _ => trivial
  rintro _ ⟨⟩ rfl
  refine follows_bindE (follows_apply audit) ?_ fun _ _ _ => trivial
  rintro _ ⟨⟩ rfl
  rw [settings_eq]
  refine (follows_forM (E := fun _ _ => True) (K := fun l own => l <:+ writes ∧
    own = audit.settings organizationId) ?_ writes ⟨List.suffix_refl _, rfl⟩).mono ?_
  · rintro w l own ⟨hl, rfl⟩
    refine ⟨⟨w, hl.subset List.mem_cons_self, rfl, rfl⟩, fun r => ?_⟩
    rcases r with e | found
    · trivial
    · exact ⟨(List.suffix_cons w l).trans hl, rfl⟩
  · rintro own (e | ⟨⟩) -
    · trivial
    · trivial

theorem follows_endTransaction (commits : Bool) :
    JobFollows j (fun _ _ => True) (endTransaction commits).run own := by
  cases commits with
  | false => exact ⟨trivial, fun _ => trivial⟩
  | true =>
    refine ⟨trivial, fun r => ?_⟩
    rcases r with e | ⟨⟩
    · exact ⟨trivial, fun _ => trivial⟩
    · trivial

theorem follows_orDrop {A : (SettingName → Option String) → α → Prop}
    {E : (SettingName → Option String) → Unit → Prop} {body : SessionCode α}
    (h : JobFollows j (Post A E) body.run own) :
    JobFollows j (Post A fun _ _ => True) (orDrop body).run own := by
  unfold orDrop
  refine follows_bindE (follows_lift (E := fun _ _ => False) h) (fun own' r hr => ?_) fun _ _ h => h.elim
  rcases r with e | a
  · exact ⟨trivial, fun _ => trivial⟩
  · exact hr

theorem follows_begin : JobFollows j (Post (fun own' _ => own' = fun _ => none) fun _ _ => True)
    (ExceptT.mk (sendSession .begin) : SessionCode Unit).run own := by
  refine ⟨trivial, fun r => ?_⟩
  rcases r with e | ⟨⟩
  · trivial
  · rfl

theorem follows_resolveApiKey (tokenHash : Bytes) :
    JobFollows (.resolveApiKey tokenHash) (fun _ _ => True) (resolveApiKey tokenHash).run own := by
  unfold resolveApiKey
  refine follows_bindE follows_begin ?_ fun _ _ _ => trivial
  rintro _ ⟨⟩ rfl
  refine follows_bindE (follows_orDrop follows_setLocal) (fun own₁ _ _ => ?_)
    fun _ _ _ => trivial
  refine follows_bindE (follows_orDrop (A := fun _ _ => True) (E := fun _ _ => True)
    ⟨.inl rfl, fun r => ?_⟩) (fun own₂ row _ => ?_) fun _ _ _ => trivial
  · rcases r with e | found <;> trivial
  · cases row with
    | none =>
      exact follows_bindE (follows_lift (E := fun _ _ => True) (follows_endTransaction true))
        (fun _ _ _ => trivial) fun _ _ _ => trivial
    | some found =>
      refine follows_bindE (follows_lift (A := fun _ _ => True) (E := fun _ _ => True)
        ⟨trivial, fun _ => trivial⟩) (fun own₃ _ _ => ?_) fun _ _ _ => trivial
      refine follows_bindE (follows_lift (A := fun _ _ => True) (E := fun _ _ => True)
        ⟨.inr ⟨found.1, rfl⟩, fun _ => trivial⟩) (fun own₄ _ _ => ?_) fun _ _ _ => trivial
      exact follows_bindE (A := fun _ _ => True) (E := fun _ _ => True)
        ((follows_endTransaction true).mono fun _ r _ => by rcases r with e | a <;> trivial)
        (fun _ _ _ => trivial) fun _ _ _ => trivial

theorem follows_program (j : SessionJob) :
    JobFollows j (fun _ _ => True) j.program own := by
  cases j with
  | transaction organizationId audit writes commits =>
    refine follows_bind (Q := fun _ _ => True) ?_ fun _ _ _ => trivial
    unfold auditedTransaction
    refine follows_bindE follows_begin ?_ fun _ _ _ => trivial
    rintro _ ⟨⟩ rfl
    refine follows_bindE (follows_orDrop (follows_auditedBody organizationId audit writes commits))
      (fun own' _ _ => follows_endTransaction commits) fun _ _ _ => trivial
  | statement w => exact ⟨⟨w, rfl, rfl⟩, fun _ => trivial⟩
  | resolveApiKey tokenHash => exact follows_resolveApiKey tokenHash

end Programs

/-! ## Results -/

section Results

variable {s : PoolState sessionSql (Connections SettingName String SettingReader) SessionJob
    (Except Unit ApiKeyFound)} {as : List (Act SessionJob (SettingOutcome ApiKeyFound))} {i : Nat}
  {v : SettingName → Option String}

/-- What a statement of a run has seen is what its program has set. -/
theorem saw (h : sessionPool.exec (Pool.init {}) as = some s) {q : SettingReader}
    (hran : (i, q, v) ∈ s.world.ran) :
    ∃ j, s.jobs[i]? = some j ∧
      (j.Sees v q ∨ (∃ w, j = .statement w ∧ q = .audited w) ∧ v = fun _ => none) := by
  have hcalls (j : SessionJob) :
      Meets (fun τ c => j.Makes (ownSettings "" τ) c) (fun _ _ _ => True) (fun _ _ => True)
        (sessionPool.prog j) [] :=
    meets_of_follows (f := ownSettings "") (fun _ _ _ => ownSettings_concat) (follows_program j)
  rcases ran_sees h hran with ⟨j, τ₁, τ₂, ⟨r, hslot, rfl⟩ | ⟨r, hslot, rfl⟩⟩
  · exact ⟨j, PoolState.job_of_slot hslot, .inl (Pool.exec_calls hcalls h hslot)⟩
  · exact ⟨j, PoolState.job_of_slot hslot, .inr ⟨Pool.exec_calls hcalls h hslot, rfl⟩⟩

/-- Whoever has used the connections before: an audited write is recorded with the context of its
own transaction and made as its tenant, and outside of a transaction with nobody's. -/
theorem attributed {parseUuid : String → Option Uuid}
    (hparse : ∀ u : Uuid, parseUuid u.text = some u)
    (h : sessionPool.exec (Pool.init {}) as = some s) {w : AuditedWrite}
    (hran : (i, .audited w, v) ∈ s.world.ran) :
    (∃ organizationId audit writes commits,
        s.jobs[i]? = some (.transaction organizationId audit writes commits) ∧ w ∈ writes ∧
          readSession parseUuid v = audit.session ∧ readTenant parseUuid v = organizationId) ∨
      s.jobs[i]? = some (.statement w) ∧ readSession parseUuid v = ({} : AuditContext).session ∧
        readTenant parseUuid v = Uuid.nil := by
  obtain ⟨j, hj, hsees | ⟨⟨w', rfl, heq⟩, rfl⟩⟩ := saw h hran
  · cases j with
    | transaction organizationId audit writes commits =>
      obtain ⟨w', hw', heq, rfl⟩ := hsees
      cases heq
      refine .inl ⟨organizationId, audit, writes, commits, hj, hw', ?_, ?_⟩
      · have hactor : (audit.actorUserId.map Uuid.text).bind parseUuid = audit.actorUserId := by
          cases audit.actorUserId with
          | none => rfl
          | some id => exact hparse id
        rw [readSession, AuditContext.session]
        simp only [AuditContext.settings, hactor]
      · rw [readTenant]
        simp only [AuditContext.settings, Option.bind_some, hparse, Option.getD_some]
    | statement w' => exact hsees.elim
    | resolveApiKey tokenHash => rcases hsees with heq | ⟨keyId, heq⟩ <;> cases heq
  · cases heq
    exact .inr ⟨hj, rfl, rfl⟩

/-- The standard form of a UUID, read back. -/
noncomputable def uuidOfText (text : String) : Option Uuid :=
  open Classical in if h : ∃ u : Uuid, u.text = text then some h.choose else none

theorem uuidOfText_text (u : Uuid) : uuidOfText u.text = some u := by
  have hthere : ∃ v : Uuid, v.text = u.text := ⟨u, rfl⟩
  rw [uuidOfText, dif_pos hthere, Uuid.text_injective hthere.choose_spec]

def changePlan : AuditedWrite := .organization 1 7 "free" "pro" none none

/-- User 5 changes a row of organization 7, and then a billing event comes on the same
connection. -/
def oneConnection : List (Act SessionJob (SettingOutcome ApiKeyFound)) :=
  .start (.transaction 7 { actorUserId := some 5, userAgent := some "curl" }
      [.trigger 2 .update "clusters" 7 9] true) ::
    List.replicate 6 (.step 0 ⟨0, .ok none⟩) ++
      [.start (.statement changePlan), .step 1 ⟨0, .ok none⟩]

theorem attributed_oneConnection :
    ∃ s v, sessionPool.exec (Pool.init {}) oneConnection = some s ∧
      (1, .audited changePlan, v) ∈ s.world.ran ∧
      ((∃ organizationId audit writes commits,
          s.jobs[1]? = some (.transaction organizationId audit writes commits) ∧
            changePlan ∈ writes ∧ readSession uuidOfText v = audit.session ∧
            readTenant uuidOfText v = organizationId) ∨
        s.jobs[1]? = some (.statement changePlan) ∧
          readSession uuidOfText v = ({} : AuditContext).session ∧
          readTenant uuidOfText v = Uuid.nil) := by
  have hrun : ∃ s, sessionPool.exec (Pool.init {}) oneConnection = some s ∧
      ∃ v, (1, SettingReader.audited changePlan, v) ∈ s.world.ran :=
    ⟨_, rfl, _, List.mem_cons_of_mem _ List.mem_cons_self⟩
  obtain ⟨s, hs, v, hran⟩ := hrun
  exact ⟨s, v, hs, hran, attributed uuidOfText_text hs hran⟩

/-- The API keys of all tenants are open only for the two statements of `resolve_api_key`. -/
theorem bypasses (h : sessionPool.exec (Pool.init {}) as = some s) {q : SettingReader}
    (hran : (i, q, v) ∈ s.world.ran) (hopen : v .apiKeyAuthBypass = some "on") :
    ∃ tokenHash, s.jobs[i]? = some (.resolveApiKey tokenHash) ∧
      (q = .selectApiKey tokenHash ∨ ∃ keyId, q = .updateLastUsedAt keyId) := by
  obtain ⟨j, hj, hsees | ⟨-, rfl⟩⟩ := saw h hran
  · cases j with
    | transaction organizationId audit writes commits =>
      obtain ⟨w, -, -, rfl⟩ := hsees
      cases hopen
    | statement w => exact hsees.elim
    | resolveApiKey tokenHash => exact ⟨tokenHash, hj, hsees⟩
  · cases hopen

/-- A key is looked up, and the connection goes to an audited transaction. -/
def keyThenAudit : List (Act SessionJob (SettingOutcome ApiKeyFound)) :=
  .start (.resolveApiKey [1]) :: List.replicate 4 (.step 0 ⟨0, .ok none⟩) ++
    .start (.transaction 7 {} [changePlan] true) :: List.replicate 3 (.step 1 ⟨0, .ok none⟩)

theorem bypasses_keyThenAudit :
    ∃ s v, sessionPool.exec (Pool.init {}) keyThenAudit = some s ∧
      (0, .selectApiKey [1], v) ∈ s.world.ran ∧ v .apiKeyAuthBypass = some "on" ∧
      ∃ tokenHash, s.jobs[0]? = some (.resolveApiKey tokenHash) ∧
        (SettingReader.selectApiKey [1] = .selectApiKey tokenHash ∨
          ∃ keyId, SettingReader.selectApiKey [1] = .updateLastUsedAt keyId) := by
  have hrun : ∃ s, sessionPool.exec (Pool.init {}) keyThenAudit = some s ∧
      ∃ v, (0, SettingReader.selectApiKey [1], v) ∈ s.world.ran ∧ v .apiKeyAuthBypass = some "on" :=
    ⟨_, rfl, _, List.mem_cons_self, rfl⟩
  obtain ⟨s, hs, v, hran, hopen⟩ := hrun
  exact ⟨s, v, hs, hran, hopen, bypasses hs hran hopen⟩

end Results

end Kubinate.Audit
