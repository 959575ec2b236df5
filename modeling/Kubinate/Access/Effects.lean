import Kubinate.Access.Members

/-!
# What the calls do to the tables

For each of the tables of `Accounts` that hold credentials, the one or two calls that can add
to it and the calls that can change its rows. Whatever a call does, it has taken effect only
if it did not fail.
-/

namespace Kubinate.Access

open Platform Library Identity

theorem Directory.execute_passkeys {d : Directory} {x : Identity.Outcome} (c : DirectoryCall) :
    (d.execute x c).1.db.passkeys = d.db.passkeys := by
  have hwrite (m : MembershipStatement) :
      (d.writeMembership m).1.db.passkeys = d.db.passkeys := by
    unfold Directory.writeMembership
    cases h : d.db.writeMembership d.enforceRls m with
    | ok r => exact (Database.writeMembership_frame h).1
    | error e => rfl
  cases c with
  | insertMembership organizationId userId role =>
    exact hwrite (.upsert x.id x.now organizationId userId role)
  | updateRole organizationId userId role => exact hwrite (.updateRole organizationId userId role)
  | softDelete organizationId userId => exact hwrite (.softDelete x.now organizationId userId)
  | insertInvite =>
    simp only [Directory.execute, Directory.insertInvite]
    split
    · rfl
    · split <;> rfl
  | markAccepted =>
    simp only [Directory.execute, Directory.markAccepted]
    split
    · rfl
    · split <;> rfl
  | now | roleOf | listMembers | getByHash => rfl

namespace Accounts

variable {w : Accounts} {x : Outcome} {c : AccessCall}

/-- A call either takes effect or leaves the tables as they are. -/
theorem answer_cases (w : Accounts) (c : AccessCall) (x : Outcome) :
    (w.answer c x).1 = ((w.tick x.elapsed).execute x c).1 ∧
        (x.reply ≠ .failed ∨ (∃ id n, c = .stashNickname id n) ∨ ∃ id, c = .takeNickname id) ∨
      (w.answer c x).1 = w.tick x.elapsed ∧ x.reply = .failed := by
  unfold answer
  cases hreply : x.reply with
  | ok => exact .inl ⟨rfl, .inl nofun⟩
  | lost => exact .inl ⟨rfl, .inl nofun⟩
  | failed =>
    cases c with
    | stashNickname id n => exact .inl ⟨rfl, .inr (.inl ⟨id, n, rfl⟩)⟩
    | takeNickname id => exact .inl ⟨rfl, .inr (.inr ⟨id, rfl⟩)⟩
    | _ => exact .inr ⟨rfl, rfl⟩

/-- A successful answer is the one of a call that took effect. -/
theorem answer_ok (h : x.reply = .ok) : w.answer c x = (w.tick x.elapsed).execute x c := by
  simp only [answer, h]

/-- A call whose connection breaks is answered as `broken` says. -/
theorem reply_ok_of_ne (h : (w.answer c x).2 ≠ broken (w.tick x.elapsed) x c) : x.reply = .ok := by
  unfold answer at h
  cases hreply : x.reply with
  | ok => rfl
  | lost =>
    rw [hreply] at h
    exact absurd rfl h
  | failed =>
    rw [hreply] at h
    cases c with
    | _ => exact absurd rfl h

/-! ## What an answer says -/

/-- What a call that can fail was told, it was told by a call that succeeded. -/
theorem reply_of_resolveSession {id : Uuid} {s : Option Session}
    (h : (w.answer (.resolveSession id) x).2 = .ok s) :
    s = w.sessions.find? fun s => s.id == id && s.isLive (w.clock + x.elapsed) := by
  have hreply : x.reply = .ok := reply_ok_of_ne (by rw [h]; rintro ⟨⟩)
  rw [answer_ok hreply] at h
  exact (Except.ok.inj h).symm

theorem reply_of_findApiKey {tokenHash : List UInt8} {r : Option (Uuid × Uuid)}
    (h : (w.answer (.findApiKey tokenHash) x).2 = .ok r) :
    r = (w.apiKeys.find? fun k =>
      k.tokenHash == tokenHash && k.isUsable (w.clock + x.elapsed)).map
        fun k => (k.userId, k.organizationId) := by
  have hreply : x.reply = .ok := reply_ok_of_ne (by rw [h]; rintro ⟨⟩)
  rw [answer_ok hreply] at h
  exact (Except.ok.inj h).symm

theorem reply_of_sessionMfa {id : Uuid} {b : Option Bool}
    (h : (w.answer (.sessionMfa id) x).2 = .ok b) :
    b = (w.sessions.find? fun s => s.id == id && s.isLive (w.clock + x.elapsed)).map
      (·.mfaSatisfied) := by
  have hreply : x.reply = .ok := reply_ok_of_ne (by rw [h]; rintro ⟨⟩)
  rw [answer_ok hreply] at h
  exact (Except.ok.inj h).symm

theorem reply_of_requiresPartialSession {userId : Uuid} {b : Bool}
    (h : (w.answer (.requiresPartialSession userId) x).2 = .ok b) :
    x.reply = .ok ∧
      b = w.db.users.any fun u => u.id == userId && u.requiresMfa && u.mfaEnrolled := by
  have hreply : x.reply = .ok := reply_ok_of_ne (by rw [h]; rintro ⟨⟩)
  rw [answer_ok hreply] at h
  exact ⟨hreply, (Except.ok.inj h).symm⟩

theorem reply_of_findPasskey {credentialId : String} {q : Option Passkey}
    (h : (w.answer (.findPasskey credentialId) x).2 = .ok q) :
    q = w.db.passkeys.find? fun p => p.credentialId == credentialId && p.isLive := by
  have hreply : x.reply = .ok := reply_ok_of_ne (by rw [h]; rintro ⟨⟩)
  rw [answer_ok hreply] at h
  exact (Except.ok.inj h).symm

theorem reply_of_takeCeremony {id : Uuid} {kind : CeremonyKind} {row : Option Ceremony}
    (h : (w.answer (.takeCeremony id kind) x).2 = .ok row) :
    x.reply = .ok ∧ row = w.ceremonies.find? fun c =>
      c.id == id && c.kind == kind && decide (w.clock + x.elapsed < c.expiresAt) := by
  have hreply : x.reply = .ok := reply_ok_of_ne (by rw [h]; rintro ⟨⟩)
  rw [answer_ok hreply] at h
  exact ⟨hreply, (Except.ok.inj h).symm⟩

theorem reply_of_tryConsume {userId : Uuid} {hash : List UInt8} {b : Bool}
    (h : (w.answer (.tryConsume userId hash) x).2 = .ok b) :
    b = w.recoveryCodes.any fun r =>
      r.userId == userId && r.codeHash == hash && r.usedAt.isNone := by
  have hreply : x.reply = .ok := reply_ok_of_ne (by rw [h]; rintro ⟨⟩)
  rw [answer_ok hreply] at h
  exact (Except.ok.inj h).symm

/-- How a call may change a session that exists. -/
structure Aged (c : AccessCall) (s s' : Session) : Prop where
  sameId : s'.id = s.id
  sameUser : s'.userId = s.userId
  satisfied : s.mfaSatisfied = true → s'.mfaSatisfied = true
  promoted : s'.mfaSatisfied = true → s.mfaSatisfied = true ∨ c = .markMfaSatisfied s.id

theorem Aged.refl (c : AccessCall) (s : Session) : Aged c s s := ⟨rfl, rfl, id, .inl⟩

theorem execute_sessions (w : Accounts) (x : Outcome) (c : AccessCall) :
    (∃ f : Session → Session, (∀ s, Aged c s (f s)) ∧ (w.execute x c).1.sessions = w.sessions.map f) ∨
      ∃ upsert mfaSatisfied, c = .commitLogin upsert mfaSatisfied ∧
        (∀ s ∈ w.sessions, s.id ≠ x.id) ∧ (w.execute x c).1.sessions =
          w.sessions ++ [⟨x.id, upsert.userId, w.clock, w.clock + sessionTtl, none, mfaSatisfied⟩] := by
  have hsame (h : (w.execute x c).1.sessions = w.sessions) : ∃ f : Session → Session,
      (∀ s, Aged c s (f s)) ∧ (w.execute x c).1.sessions = w.sessions.map f :=
    ⟨id, Aged.refl c, h.trans (List.map_id _).symm⟩
  cases c with
  | commitLogin upsert mfaSatisfied =>
    by_cases hid : w.sessions.any (·.id == x.id) = true
    · left
      refine hsame ?_
      simp [execute, commitLogin, hid]
    · right
      refine ⟨upsert, mfaSatisfied, rfl, fun s hs heq => hid ?_, ?_⟩
      · exact List.any_eq_true.mpr ⟨s, hs, beq_iff_eq.mpr heq⟩
      · simp [execute, commitLogin, hid]
  | revokeSession id =>
    refine .inl ⟨_, fun s => ?_, rfl⟩
    split
    · exact ⟨rfl, rfl, fun h => h, fun h => .inl h⟩
    · exact Aged.refl _ s
  | markMfaSatisfied id =>
    refine .inl ⟨_, fun s => ?_, rfl⟩
    split
    · next h =>
      simp only [Bool.and_eq_true, beq_iff_eq] at h
      exact ⟨rfl, rfl, fun _ => rfl, fun _ => .inr (by rw [h.1])⟩
    · exact Aged.refl _ s
  | insertApiKey =>
    refine .inl (hsame ?_)
    simp only [execute, insertApiKey]
    split
    · rfl
    · split <;> rfl
  | storeState | putCeremony | recordUse | rotateBatch =>
    refine .inl (hsame ?_)
    simp only [execute, recordUse, rotateBatch]
    split <;> rfl
  | consumeState | insertPasskey | revokePasskey =>
    refine .inl (hsame ?_)
    simp only [execute, consumeState, insertPasskey, revokePasskey]
    split
    · rfl
    · split <;> rfl
  | _ => exact .inl (hsame rfl)

/-- Session ids stay unique. -/
theorem execute_ids_nodup (h : (w.sessions.map (·.id)).Nodup) :
    ((w.execute x c).1.sessions.map (·.id)).Nodup := by
  rcases execute_sessions w x c with ⟨f, hf, hmap⟩ | ⟨upsert, m, -, hfresh, hnew⟩
  · have hids : (w.sessions.map f).map (·.id) = w.sessions.map (·.id) := by
      rw [List.map_map]
      exact List.map_congr_left fun s _ => (hf s).sameId
    rw [hmap, hids]
    exact h
  · rw [hnew, List.map_append]
    refine List.nodup_append.mpr ⟨h, List.nodup_singleton _, ?_⟩
    intro a ha b hb hab
    obtain ⟨s, hs, rfl⟩ := List.mem_map.mp ha
    exact hfresh s hs (hab.trans (List.mem_singleton.mp hb))

theorem answer_ids_nodup (h : (w.sessions.map (·.id)).Nodup) :
    ((w.answer c x).1.sessions.map (·.id)).Nodup := by
  rcases answer_cases w c x with ⟨heq, -⟩ | ⟨heq, -⟩
  · rw [heq]
    exact execute_ids_nodup h
  · rw [heq]
    exact h

/-- Sessions that are there stay there. -/
theorem session_persists {s : Session} (hs : s ∈ w.sessions) :
    ∃ s' ∈ (w.answer c x).1.sessions, s'.id = s.id ∧ s'.userId = s.userId ∧
      (s.mfaSatisfied = true → s'.mfaSatisfied = true) := by
  rcases answer_cases w c x with ⟨heq, -⟩ | ⟨heq, -⟩
  · rw [heq]
    rcases execute_sessions (w.tick x.elapsed) x c with ⟨f, hf, hmap⟩ | ⟨_, _, -, -, hnew⟩
    · rw [hmap]
      exact ⟨f s, List.mem_map_of_mem hs, (hf s).sameId, (hf s).sameUser, (hf s).satisfied⟩
    · rw [hnew]
      exact ⟨s, List.mem_append_left _ hs, rfl, rfl, id⟩
  · rw [heq]
    exact ⟨s, hs, rfl, rfl, id⟩

/-- Only its promotion satisfies a session that is partial. -/
theorem eq_of_promoted (hids : (w.sessions.map (·.id)).Nodup) {s s' : Session} (hs : s ∈ w.sessions)
    (hunpromoted : s.mfaSatisfied = false) (hs' : s' ∈ (w.answer c x).1.sessions) (hid : s'.id = s.id)
    (hsatisfied : s'.mfaSatisfied = true) : c = .markMfaSatisfied s.id := by
  have hold (h : s' ∈ w.sessions) : c = .markMfaSatisfied s.id := by
    obtain rfl : s' = s := List.inj_on_of_nodup_map hids h hs hid
    rw [hunpromoted] at hsatisfied
    cases hsatisfied
  rcases answer_cases w c x with ⟨heq, -⟩ | ⟨heq, -⟩
  · rw [heq] at hs'
    rcases execute_sessions (w.tick x.elapsed) x c with ⟨f, hf, hmap⟩ | ⟨_, _, -, hfresh, hnew⟩
    · rw [hmap] at hs'
      obtain ⟨s₀, hs₀, rfl⟩ := List.mem_map.mp hs'
      obtain rfl : s₀ = s := List.inj_on_of_nodup_map hids hs₀ hs ((hf s₀).sameId.symm.trans hid)
      rcases (hf s₀).promoted hsatisfied with h | h
      · rw [hunpromoted] at h
        cases h
      · exact h
    · rw [hnew] at hs'
      rcases List.mem_append.mp hs' with h | h
      · exact hold h
      · cases List.mem_singleton.mp h
        exact absurd hid.symm (hfresh s hs)
  · rw [heq] at hs'
    exact hold hs'

theorem execute_apiKeys (w : Accounts) (x : Outcome) (c : AccessCall) :
    ∀ k ∈ (w.execute x c).1.apiKeys, k ∈ w.apiKeys ∨
      ∃ organizationId name tokenHash tokenPrefix expiresInDays, c = .insertApiKey organizationId
        k.userId name tokenHash tokenPrefix expiresInDays := by
  intro k hk
  by_cases hd : ∃ c', c = .directory c'
  · obtain ⟨c', rfl⟩ := hd
    exact .inl hk
  by_cases hi : ∃ o u n t p e, c = .insertApiKey o u n t p e
  · obtain ⟨o, u, n, t, p, e, rfl⟩ := hi
    rcases insertApiKey_cases (w := w) ⟨x.id, o, u, n, t, p, w.clock,
      e.map fun days => w.clock + days * day, none⟩ with heq | heq
    · simp only [execute, heq] at hk
      exact .inl hk
    · simp only [execute, heq, List.mem_append, List.mem_singleton] at hk
      rcases hk with hk | rfl
      · exact .inl hk
      · exact .inr ⟨o, n, t, p, e, rfl⟩
  · have hsame := (execute_frame (w := w) (x := x) (c := c)
      (fun c' hc => hd ⟨c', hc⟩) fun o u n t p e hc => hi ⟨o, u, n, t, p, e, hc⟩).1
    rw [hsame] at hk
    exact .inl hk

/-- The id, the user and the credential of a passkey are fixed once and for all. -/
structure SameKey (q q' : Passkey) : Prop where
  sameId : q.id = q'.id
  sameUser : q.userId = q'.userId
  sameCredential : q.credentialId = q'.credentialId

theorem execute_passkeys (w : Accounts) (x : Outcome) (c : AccessCall) :
    ∀ q ∈ (w.execute x c).1.db.passkeys, (∃ q' ∈ w.db.passkeys, SameKey q' q) ∨
      ∃ credentialId credential nickname, c = .insertPasskey q.userId credentialId credential nickname ∧
        q = PasskeyRepository.newPasskey x.id w.clock q.userId credentialId credential nickname := by
  intro q hq
  have hsame (h : (w.execute x c).1.db.passkeys = w.db.passkeys) :
      ∃ q' ∈ w.db.passkeys, SameKey q' q := ⟨q, h ▸ hq, rfl, rfl, rfl⟩
  have hmap {f : Passkey → Passkey} (hf : ∀ q, SameKey q (f q))
      (h : (w.execute x c).1.db.passkeys = w.db.passkeys.map f) :
      ∃ q' ∈ w.db.passkeys, SameKey q' q := by
    rw [h] at hq
    obtain ⟨q', hq', rfl⟩ := List.mem_map.mp hq
    exact ⟨q', hq', hf q'⟩
  cases c with
  | directory c => exact .inl (hsame (Directory.execute_passkeys c))
  | insertPasskey userId credentialId credential nickname =>
    simp only [execute, insertPasskey] at hq hsame
    split at hq
    · exact .inl ⟨q, hq, rfl, rfl, rfl⟩
    · split at hq
      · exact .inl ⟨q, hq, rfl, rfl, rfl⟩
      · rcases List.mem_append.mp hq with hq | hq
        · exact .inl ⟨q, hq, rfl, rfl, rfl⟩
        · cases List.mem_singleton.mp hq
          exact .inr ⟨credentialId, credential, nickname, rfl, rfl⟩
  | recordUse id signCounter credential =>
    by_cases hone : w.db.passkeys.countP (acceptsUse id signCounter) ≠ 1
    · exact .inl (hsame (by simp only [execute, recordUse, if_pos hone]))
    · refine .inl (hmap (f := fun p => if acceptsUse id signCounter p
        then { p with signCounter, credential, lastUsedAt := some w.clock } else p) (fun q => ?_) ?_)
      · split
        · exact ⟨rfl, rfl, rfl⟩
        · exact ⟨rfl, rfl, rfl⟩
      · simp only [execute, recordUse, if_neg hone]
        rfl
  | revokePasskey userId id =>
    by_cases hone : w.db.passkeys.countP (·.matches id userId) ≠ 1
    · exact .inl (hsame (by simp only [execute, revokePasskey, if_pos hone]))
    · refine .inl (hmap (f := fun p =>
        if p.matches id userId then { p with revokedAt := some w.clock } else p) (fun q => ?_) ?_)
      · split
        · exact ⟨rfl, rfl, rfl⟩
        · exact ⟨rfl, rfl, rfl⟩
      · simp only [execute, revokePasskey, if_neg hone]
        split <;> rfl
  | insertApiKey =>
    refine .inl (hsame ?_)
    simp only [execute, insertApiKey]
    split
    · rfl
    · split <;> rfl
  | consumeState =>
    refine .inl (hsame ?_)
    simp only [execute, consumeState]
    split
    · rfl
    · split <;> rfl
  | storeState | putCeremony | rotateBatch | commitLogin =>
    refine .inl (hsame ?_)
    simp only [execute, rotateBatch, commitLogin]
    split <;> rfl
  | _ => exact .inl (hsame rfl)

theorem execute_recoveryCodes (w : Accounts) (x : Outcome) (c : AccessCall) :
    ∀ r ∈ (w.execute x c).1.recoveryCodes,
      (∃ r' ∈ w.recoveryCodes, r'.userId = r.userId ∧ r'.codeHash = r.codeHash) ∨
      ∃ hashes, c = .rotateBatch r.userId hashes := by
  intro r hr
  have hsame (h : (w.execute x c).1.recoveryCodes = w.recoveryCodes) :
      ∃ r' ∈ w.recoveryCodes, r'.userId = r.userId ∧ r'.codeHash = r.codeHash :=
    ⟨r, h ▸ hr, rfl, rfl⟩
  cases c with
  | rotateBatch userId hashes =>
    simp only [execute, rotateBatch] at hr
    split at hr
    · exact .inl ⟨r, hr, rfl, rfl⟩
    · rcases List.mem_append.mp hr with hr | hr
      · exact .inl ⟨r, List.mem_of_mem_filter hr, rfl, rfl⟩
      · obtain ⟨hash, -, rfl⟩ := List.mem_map.mp hr
        exact .inr ⟨hashes, rfl⟩
  | tryConsume userId hash =>
    simp only [execute, tryConsume] at hr
    obtain ⟨r', hr', rfl⟩ := List.mem_map.mp hr
    refine .inl ⟨r', hr', ?_⟩
    split
    · exact ⟨rfl, rfl⟩
    · exact ⟨rfl, rfl⟩
  | insertApiKey | insertPasskey | revokePasskey | consumeState =>
    refine .inl (hsame ?_)
    simp only [execute, insertApiKey, insertPasskey, revokePasskey, consumeState]
    split
    · rfl
    · split <;> rfl
  | storeState | putCeremony | recordUse | commitLogin =>
    refine .inl (hsame ?_)
    simp only [execute, recordUse, commitLogin]
    split <;> rfl
  | _ => exact .inl (hsame rfl)

theorem execute_ceremonies (w : Accounts) (x : Outcome) (c : AccessCall) :
    ∀ r ∈ (w.execute x c).1.ceremonies, r ∈ w.ceremonies ∨
      c = .putCeremony r.userId r.kind r.state := by
  intro r hr
  have hsame (h : (w.execute x c).1.ceremonies = w.ceremonies) : r ∈ w.ceremonies := h ▸ hr
  cases c with
  | putCeremony userId kind state =>
    simp only [execute] at hr
    split at hr
    · exact .inl hr
    · rcases List.mem_append.mp hr with hr | hr
      · exact .inl hr
      · cases List.mem_singleton.mp hr
        exact .inr rfl
  | takeCeremony id kind => exact .inl (List.mem_of_mem_filter hr)
  | insertApiKey | insertPasskey | revokePasskey | consumeState =>
    refine .inl (hsame ?_)
    simp only [execute, insertApiKey, insertPasskey, revokePasskey, consumeState]
    split
    · rfl
    · split <;> rfl
  | storeState | recordUse | commitLogin | rotateBatch =>
    refine .inl (hsame ?_)
    simp only [execute, recordUse, commitLogin, rotateBatch]
    split <;> rfl
  | _ => exact .inl (hsame rfl)

end Accounts

end Kubinate.Access
