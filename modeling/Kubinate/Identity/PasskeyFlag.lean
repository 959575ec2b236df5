import Kubinate.Identity.Repository

/-!
# `users.mfa_enrolled` and the live passkeys

`PgPasskeyRepository::insert` and `revoke` keep `users.mfa_enrolled` in step with the
passkey rows, each inside its own transaction.
-/

namespace Kubinate.Identity

open Platform Library

/-! ## The transactions of the passkey repository -/

inductive PasskeyJob where
  | insert (id : Uuid) (now : Timestamp) (userId : Uuid) (credentialId : String)
      (credential : List UInt8) (nickname : String)
  | revoke (now : Timestamp) (userId passkeyId : Uuid)

namespace PasskeyJob

def userId : PasskeyJob → Uuid
  | .insert _ _ userId _ _ _ => userId
  | .revoke _ userId _ => userId

def program : PasskeyJob → Program sql Unit
  | .insert id now userId credentialId credential nickname => do
    let _ ← (PasskeyRepository.insert id now userId credentialId credential nickname).run
  | .revoke now userId passkeyId => do
    let _ ← (PasskeyRepository.revoke now userId passkeyId).run

end PasskeyJob

/-- Any number of passkey transactions, interleaved statement by statement. -/
def passkeyPool : Pool sql Server PasskeyJob Reply Unit := sqlPool PasskeyJob.program

/-! ## Where a transaction stands -/

/-- How far a passkey transaction has come, read off its trace. -/
inductive PasskeyPhase where
  | idle
  | inserted
  | revoked
  | counted (live : Nat)
  | flagged
  | aborting
deriving DecidableEq, Repr

namespace PasskeyPhase

def next (φ : PasskeyPhase) : (c : Statement) → c.Answer → PasskeyPhase
  | .insertPasskey _, .ok _ => .inserted
  | .revokePasskey .., .ok n => if n = 1 then .revoked else .aborting
  | .countLivePasskeys _, .ok n => .counted n
  | .updateMfaEnrolled .., .ok _ => .flagged
  | .commit, _ => .idle
  | .rollback, _ => .idle
  | _, _ => φ

def ofTrace (h : Trace sql) : PasskeyPhase := h.foldl (fun φ e => φ.next e.1 e.2) .idle

@[simp] theorem ofTrace_nil : ofTrace [] = .idle := rfl

@[simp] theorem ofTrace_append (h : Trace sql) (c : sql.Call) (r : sql.Answer c) :
    ofTrace (h ++ [⟨c, r⟩]) = (ofTrace h).next c r := by
  rw [ofTrace, List.foldl_append]
  rfl

end PasskeyPhase

/-- The statements a passkey transaction may send in each phase. -/
def PasskeyJob.Sends : PasskeyJob → PasskeyPhase → Statement → Prop
  | _, .idle, .begin => True
  | .insert id now userId credentialId credential nickname, .idle, .insertPasskey p =>
    p = PasskeyRepository.newPasskey id now userId credentialId credential nickname
  | .insert _ _ userId _ _ _, .inserted, .updateMfaEnrolled userId' value =>
    userId' = userId ∧ value = true
  | .insert .., .flagged, .commit => True
  | .revoke now userId passkeyId, .idle, .revokePasskey id userId' now' =>
    id = passkeyId ∧ userId' = userId ∧ now' = now
  | .revoke _ userId _, .revoked, .countLivePasskeys userId' => userId' = userId
  | .revoke _ userId _, .counted 0, .updateMfaEnrolled userId' value =>
    userId' = userId ∧ value = false
  | .revoke .., .counted (_ + 1), .commit => True
  | .revoke .., .flagged, .commit => True
  | _, _, .rollback => True
  | _, _, _ => False

/-- Everything a passkey transaction can send, with the phase it sends it in. -/
theorem PasskeyJob.sends_cases {j : PasskeyJob} {φ : PasskeyPhase} {c : Statement}
    (h : j.Sends φ c) :
    c = .rollback ∨ (φ = .idle ∧ c = .begin) ∨
    (∃ id now userId credentialId credential nickname,
      j = .insert id now userId credentialId credential nickname ∧
      ((φ = .idle ∧ c = .insertPasskey
          (PasskeyRepository.newPasskey id now userId credentialId credential nickname)) ∨
        (φ = .inserted ∧ c = .updateMfaEnrolled userId true) ∨ (φ = .flagged ∧ c = .commit))) ∨
    (∃ now userId passkeyId, j = .revoke now userId passkeyId ∧
      ((φ = .idle ∧ c = .revokePasskey passkeyId userId now) ∨
        (φ = .revoked ∧ c = .countLivePasskeys userId) ∨
        (φ = .counted 0 ∧ c = .updateMfaEnrolled userId false) ∨
        (∃ n, φ = .counted (n + 1) ∧ c = .commit) ∨ (φ = .flagged ∧ c = .commit))) := by
  unfold Sends at h
  split at h
  all_goals simp_all

/-- The repository's code sends nothing else, whatever the server answers. -/
theorem passkeyProgram_sends (j : PasskeyJob) :
    Meets (fun h c => j.Sends (PasskeyPhase.ofTrace h) c) (fun _ _ _ => True) (fun _ _ => True)
      j.program [] := by
  cases j with
  | insert id now userId credentialId credential nickname =>
    refine ⟨trivial, fun r _ => ?_⟩
    rcases r with e | ⟨⟩
    · trivial
    refine ⟨rfl, fun r _ => ?_⟩
    rcases r with e | row
    · exact ⟨trivial, fun _ _ => trivial⟩
    refine ⟨⟨rfl, rfl⟩, fun r _ => ?_⟩
    rcases r with e | affected
    · exact ⟨trivial, fun _ _ => trivial⟩
    refine ⟨trivial, fun r _ => ?_⟩
    rcases r with e | ⟨⟩
    · exact ⟨trivial, fun _ _ => trivial⟩
    · trivial
  | revoke now userId passkeyId =>
    refine ⟨trivial, fun r _ => ?_⟩
    rcases r with e | ⟨⟩
    · trivial
    refine ⟨⟨rfl, rfl, rfl⟩, fun r _ => ?_⟩
    rcases r with e | affected
    · exact ⟨trivial, fun _ _ => trivial⟩
    rcases affected with _ | _ | affected
    · exact ⟨trivial, fun _ _ => trivial⟩
    · -- exactly one row was revoked
      refine ⟨rfl, fun r _ => ?_⟩
      rcases r with e | liveRemaining
      · exact ⟨trivial, fun _ _ => trivial⟩
      rcases liveRemaining with _ | liveRemaining
      · refine ⟨⟨rfl, rfl⟩, fun r _ => ?_⟩
        rcases r with e | affected
        · exact ⟨trivial, fun _ _ => trivial⟩
        refine ⟨trivial, fun r _ => ?_⟩
        rcases r with e | ⟨⟩
        · exact ⟨trivial, fun _ _ => trivial⟩
        · trivial
      · refine ⟨trivial, fun r _ => ?_⟩
        rcases r with e | ⟨⟩
        · exact ⟨trivial, fun _ _ => trivial⟩
        · trivial
    · exact ⟨trivial, fun _ _ => trivial⟩

/-! ## The flag and the rows -/

namespace Database

variable {db : Database} {u : Uuid}

def hasLivePasskey (db : Database) (userId : Uuid) : Bool :=
  db.passkeys.any fun p => p.userId == userId && p.isLive

/-- `users.mfa_enrolled` says whether the user has a live passkey. -/
def EnrolledInSync (db : Database) : Prop :=
  ∀ u ∈ db.users, u.mfaEnrolled = db.hasLivePasskey u.id

instance : DecidablePred EnrolledInSync := fun db =>
  inferInstanceAs (Decidable (∀ u ∈ db.users, u.mfaEnrolled = db.hasLivePasskey u.id))

@[simp] theorem hasLivePasskey_insertPasskey (p : Passkey) :
    (db.apply (.insertPasskey p)).hasLivePasskey u =
      (db.hasLivePasskey u || (p.userId == u && p.isLive)) := by
  simp [hasLivePasskey, apply]

@[simp] theorem hasLivePasskey_setMfaEnrolled (userId : Uuid) (value : Bool) :
    (db.apply (.setMfaEnrolled userId value)).hasLivePasskey u = db.hasLivePasskey u := rfl

theorem hasLivePasskey_of_revokePasskey {id userId : Uuid} (cs : List String) {now : Timestamp}
    (h : (db.apply (.revokePasskey id userId cs now)).hasLivePasskey u = true) :
    db.hasLivePasskey u = true := by
  simp only [hasLivePasskey, apply, List.any_map, List.any_eq_true, Function.comp] at h ⊢
  obtain ⟨p, hp, h⟩ := h
  split at h
  · simp [Passkey.isLive] at h
  · exact ⟨p, hp, h⟩

theorem hasLivePasskey_revokePasskey_ne {id userId : Uuid} (cs : List String) {now : Timestamp}
    (hu : u ≠ userId) :
    (db.apply (.revokePasskey id userId cs now)).hasLivePasskey u = db.hasLivePasskey u := by
  simp only [hasLivePasskey, apply, List.any_map]
  congr 1
  funext p
  simp only [Function.comp]
  split
  · next h =>
    have hp : p.userId = userId := by
      simp only [Passkey.matches, Bool.and_eq_true, beq_iff_eq] at h
      exact h.1.2
    have hne : (p.userId == u) = false := beq_eq_false_iff_ne.mpr (hp ▸ hu.symm)
    simp [hne]
  · rfl

theorem enrolledInSync_setMfaEnrolled {userId : Uuid} {value : Bool}
    (h : ∀ u ∈ db.users, u.id ≠ userId → u.mfaEnrolled = db.hasLivePasskey u.id)
    (hv : value = db.hasLivePasskey userId) :
    (db.apply (.setMfaEnrolled userId value)).EnrolledInSync := by
  intro u hu
  simp only [apply, List.mem_map] at hu
  obtain ⟨u, hu, rfl⟩ := hu
  rw [hasLivePasskey_setMfaEnrolled]
  split
  · next hid => rw [hid]; exact hv
  · next hid => exact h u hu hid

end Database

/-! ## What holds of each transaction -/

/-- Transaction `i` has made the writes `ws` and then set the flag of the user. -/
def Server.Flagged (v : Server) (i : Nat) (ws : List Write) (userId : Uuid) (value : Bool) : Prop :=
  v.store.own i = ws ++ [.setMfaEnrolled userId value] ∨
    (v.store.own i = ws ∧ userId ∉ v.store.committed.users.map (·.id))

/-- The writes of a passkey transaction in each phase, and that the count of a revoke is
still right about whether a live passkey is left. -/
def PasskeyJob.Owns (v : Server) (i : Nat) : PasskeyJob → PasskeyPhase → Prop
  | _, .idle => v.store.own i = []
  | _, .aborting => True
  | .insert id now userId credentialId credential nickname, .inserted =>
    v.store.own i = [.insertPasskey
      (PasskeyRepository.newPasskey id now userId credentialId credential nickname)]
  | .insert id now userId credentialId credential nickname, .flagged =>
    v.Flagged i [.insertPasskey
      (PasskeyRepository.newPasskey id now userId credentialId credential nickname)] userId true
  | .revoke now userId passkeyId, .revoked =>
    ∃ cs, v.store.own i = [.revokePasskey passkeyId userId cs now]
  | .revoke now userId passkeyId, .counted live =>
    (∃ cs, v.store.own i = [.revokePasskey passkeyId userId cs now]) ∧
      ((v.view i).hasLivePasskey userId = true ↔ live ≠ 0)
  | .revoke now userId passkeyId, .flagged =>
    (∃ cs, v.Flagged i [.revokePasskey passkeyId userId cs now] userId false) ∧
      (v.view i).hasLivePasskey userId = false
  | _, _ => False

def PasskeySlot (v : Server) (i : Nat) : Option (PasskeyJob × Trace sql) → Prop
  | none => v.store.own i = []
  | some (j, h) => j.Owns v i (PasskeyPhase.ofTrace h)

/-- The user whose live passkeys an open revoke has counted. -/
def countedUser : Option (PasskeyJob × Trace sql) → Option Uuid
  | some (.revoke _ userId _, h) =>
    match PasskeyPhase.ofTrace h with
    | .counted _ | .flagged => some userId
    | _ => none
  | _ => none

/-- A commit does not outdate a count: whether the user still has a live passkey stays the
same for every other open revoke that has already counted. -/
def keepsCounts (s : PoolState sql Server PasskeyJob Unit) : Act PasskeyJob Reply → Bool
  | .start _ => true
  | .step i x =>
    s.nextCall i ≠ some .commit || x = .failed || (List.range s.threads.length).all fun k =>
      k = i || (countedUser (s.slot k)).all fun u =>
        ((s.world.commit i).view k).hasLivePasskey u = (s.world.view k).hasLivePasskey u

theorem hasLivePasskey_of_keepsCounts {s : PoolState sql Server PasskeyJob Unit} {i k : Nat}
    {x : Reply} {u : Uuid} (h : keepsCounts s (.step i x) = true)
    (hnext : s.nextCall i = some .commit) (hx : x ≠ .failed) (hk : k ≠ i)
    (hu : countedUser (s.slot k) = some u) :
    ((s.world.commit i).view k).hasLivePasskey u = (s.world.view k).hasLivePasskey u := by
  -- a slot with a counting revoke is not an empty one
  have hlt : k < s.threads.length := by
    refine PoolState.lt_of_slot_ne_none fun hnone => ?_
    rw [hnone] at hu
    cases hu
  simp only [keepsCounts, hnext, ne_eq, not_true, decide_false, Bool.false_or, hx,
    List.all_eq_true, List.mem_range] at h
  have hall := h k hlt
  simp only [hk, decide_false, Bool.false_or, hu, Option.all_some, decide_eq_true_eq] at hall
  exact hall

/-! ## One step -/

section Step

variable {v v' : Server} {i k : Nat} {j : PasskeyJob} {φ : PasskeyPhase}

theorem owns_of_unseen (h : j.Owns v k φ) (hv : v.Unseen v' i) (hk : k ≠ i) : j.Owns v' k φ := by
  have hown := hv.own k hk
  have hview := Server.view_eq_of_own hv.committed hown
  unfold PasskeyJob.Owns Server.Flagged at h ⊢
  rw [hown, hview, hv.committed]
  exact h

theorem passkeySlot_of_unseen {o : Option (PasskeyJob × Trace sql)} (h : PasskeySlot v k o)
    (hv : v.Unseen v' i) (hk : k ≠ i) : PasskeySlot v' k o := by
  cases o with
  | none => exact (hv.own k hk).trans h
  | some p => exact owns_of_unseen h hv hk

theorem passkeySlot_commit {o : Option (PasskeyJob × Trace sql)} (h : PasskeySlot v k o)
    (hk : k ≠ i) (hlive : ∀ u ∈ countedUser o,
      ((v.commit i).view k).hasLivePasskey u = (v.view k).hasLivePasskey u) :
    PasskeySlot (v.commit i) k o := by
  have hown : (v.commit i).store.own k = v.store.own k := by rw [Server.commit_own, if_neg hk]
  have hids : (v.commit i).store.committed.users.map (·.id) =
      v.store.committed.users.map (·.id) := Database.userIds_foldl _
  rcases o with _ | ⟨j, h'⟩
  · exact hown.trans h
  · simp only [PasskeySlot] at h ⊢
    unfold PasskeyJob.Owns Server.Flagged at h ⊢
    rw [hown, hids]
    -- only a revoke that has counted looks at more than its own writes
    split at h
    all_goals first | exact h | simp_all [countedUser]

theorem flagged_of_update {ws : List Write} {userId : Uuid} {value : Bool} {r : Except SqlError Nat}
    (hown : v.store.own i = ws)
    (h : v.update i ((v.view i).users.countP (·.id == userId)) (.setMfaEnrolled userId value) =
      some (v', r)) :
    v'.Flagged i ws userId value ∧
      ∀ u, (v'.view i).hasLivePasskey u = (v.view i).hasLivePasskey u := by
  rcases Server.update_cases h with ⟨hn, rfl, -⟩ | ⟨-, -, hw⟩
  · refine ⟨.inr ⟨hown, ?_⟩, fun _ => rfl⟩
    have hids : (v'.view i).users.map (·.id) = v'.store.committed.users.map (·.id) :=
      Database.userIds_foldl _
    rw [List.countP_eq_zero] at hn
    rw [← hids, List.mem_map]
    rintro ⟨u, hu, rfl⟩
    exact hn u hu (beq_self_eq_true _)
  · have hs := Server.write_store hw
    refine ⟨.inl ?_, fun u => ?_⟩
    · rw [Store.write_own hs, if_pos rfl, hown]
    · rw [Server.view, Store.write_view_self hs]
      rfl

theorem owns_call {c : Statement} {x : Reply} {r : c.Answer} (h : j.Owns v i φ) (hs : j.Sends φ c)
    (ha : v.answer i c x = some (v', r)) : j.Owns v' i (φ.next c r) := by
  by_cases hcr : c = .commit ∨ c = .rollback
  · -- the transaction is over
    rcases hcr with rfl | rfl
    · rcases Server.commit_cases ha with ⟨-, rfl⟩ | ⟨-, rfl⟩
      · exact Server.rollback_own_self
      · show (v.commit i).store.own i = []
        rw [Server.commit_own, if_pos rfl]
    · rw [Server.rollback_cases ha]
      exact Server.rollback_own_self
  obtain ⟨hc, hr⟩ := not_or.mp hcr
  cases x with
  | lost => exact absurd (Server.answer_lost ha) hc
  | failed =>
    obtain ⟨rfl, rfl⟩ := Server.answer_failed ha hc hr
    cases c <;> first | exact h | contradiction
  | ok =>
    rcases PasskeyJob.sends_cases hs with hroll | ⟨rfl, rfl⟩ |
      ⟨id, now, userId, credentialId, credential, nickname, rfl, ⟨rfl, rfl⟩ | ⟨rfl, rfl⟩ | ⟨-, h⟩⟩ |
      ⟨now, userId, passkeyId, rfl, ⟨rfl, rfl⟩ | ⟨rfl, rfl⟩ | ⟨rfl, rfl⟩ | ⟨_, -, h⟩ | ⟨-, h⟩⟩
    · exact absurd hroll hr
    · simp only [Server.answer, Server.execute] at ha
      split at ha
      · cases ha
      · cases ha
        exact h
    · -- the new row, or an error that leaves the transaction as it was
      rcases Server.insertPasskey_cases ha with ⟨rfl, e, rfl⟩ | ⟨rfl, hw⟩
      · exact h
      · show v'.store.own i = [_]
        have hown : v.store.own i = [] := h
        rw [Store.write_own (Server.write_store hw), if_pos rfl, hown]
        rfl
    · have hf := (flagged_of_update h ha).1
      rcases Server.update_cases ha with ⟨-, -, rfl⟩ | ⟨-, rfl, -⟩ <;> exact hf
    · contradiction
    · have hown : v.store.own i = [] := h
      rcases Server.update_cases ha with ⟨-, rfl, rfl⟩ | ⟨-, rfl, hw⟩
      · exact trivial
      · show PasskeyJob.Owns v' i _ (if _ then _ else _)
        split
        · refine ⟨((v.view i).passkeys.filter (·.matches passkeyId userId)).map (·.credentialId), ?_⟩
          rw [Store.write_own (Server.write_store hw), if_pos rfl, hown]
          rfl
        · exact trivial
    · obtain ⟨cs, hown⟩ := h
      cases ha
      refine ⟨⟨cs, hown⟩, ?_⟩
      simp [Database.hasLivePasskey, List.countP_eq_zero]
    · obtain ⟨⟨cs, hown⟩, hlive⟩ := h
      obtain ⟨hf, hl⟩ := flagged_of_update hown ha
      have hdead : (v'.view i).hasLivePasskey userId = false := by
        rw [hl, ← Bool.not_eq_true, hlive]
        simp
      rcases Server.update_cases ha with ⟨-, -, rfl⟩ | ⟨-, rfl, -⟩ <;> exact ⟨⟨cs, hf⟩, hdead⟩
    · contradiction
    · contradiction
/-- What a committing transaction leaves behind is in sync: each of the three ways to reach
the commit of a passkey transaction. -/
theorem enrolledInSync_commit (hsync : v.store.committed.EnrolledInSync) (h : j.Owns v i φ)
    (hs : j.Sends φ .commit) : (v.commit i).store.committed.EnrolledInSync := by
  show (v.view i).EnrolledInSync
  rcases PasskeyJob.sends_cases hs with hc | ⟨-, hc⟩ |
    ⟨id, now, userId, credentialId, credential, nickname, rfl, ⟨-, hc⟩ | ⟨-, hc⟩ | ⟨rfl, -⟩⟩ |
    ⟨now, userId, passkeyId, rfl, ⟨-, hc⟩ | ⟨-, hc⟩ | ⟨-, hc⟩ | ⟨n, rfl, -⟩ | ⟨rfl, -⟩⟩
  all_goals first | cases hc | skip
  · -- an insert: the flag is set and the new row is live
    have hp : (PasskeyRepository.newPasskey id now userId credentialId credential
        nickname).isLive = true := rfl
    have hother : ∀ u ∈ v.store.committed.users, u.id ≠ userId → u.mfaEnrolled =
        (v.store.committed.apply (.insertPasskey (PasskeyRepository.newPasskey id now userId
          credentialId credential nickname))).hasLivePasskey u.id := by
      intro u hu hne
      have hne' : ((PasskeyRepository.newPasskey id now userId credentialId credential
          nickname).userId == u.id) = false := beq_eq_false_iff_ne.mpr hne.symm
      rw [Database.hasLivePasskey_insertPasskey, hne', Bool.false_and, Bool.or_false]
      exact hsync u hu
    rcases h with hown | ⟨hown, hids⟩
    · rw [Server.view, Store.view, hown]
      refine Database.enrolledInSync_setMfaEnrolled hother ?_
      rw [Database.hasLivePasskey_insertPasskey, hp]
      simp [PasskeyRepository.newPasskey]
    · rw [Server.view, Store.view, hown]
      intro u hu
      refine hother u hu ?_
      rintro rfl
      exact hids (List.mem_map_of_mem hu)
  · -- a revoke that left live passkeys: the flag was set and stays set
    obtain ⟨⟨cs, hown⟩, hlive⟩ := h
    have hl := hlive.mpr (Nat.succ_ne_zero n)
    rw [Server.view, Store.view, hown] at hl ⊢
    intro u hu
    by_cases hne : u.id = userId
    · have hbefore := Database.hasLivePasskey_of_revokePasskey cs hl
      rw [hsync u hu, hne, hbefore]
      exact hl.symm
    · exact (hsync u hu).trans (Database.hasLivePasskey_revokePasskey_ne cs hne).symm
  · -- a revoke of the last live passkey: the flag is cleared
    obtain ⟨⟨cs, hf⟩, hdead⟩ := h
    have hother : ∀ u ∈ v.store.committed.users, u.id ≠ userId → u.mfaEnrolled =
        (v.store.committed.apply (.revokePasskey passkeyId userId cs now)).hasLivePasskey u.id := by
      intro u hu hne
      exact (hsync u hu).trans (Database.hasLivePasskey_revokePasskey_ne cs hne).symm
    rcases hf with hown | ⟨hown, hids⟩
    · rw [Server.view, Store.view, hown] at hdead ⊢
      exact Database.enrolledInSync_setMfaEnrolled hother hdead.symm
    · rw [Server.view, Store.view, hown]
      intro u hu
      refine hother u hu ?_
      rintro rfl
      exact hids (List.mem_map_of_mem hu)

end Step

/-! ## Every run -/

theorem passkeyPool_slots {db : Database} {enforceRls : Bool} {as : List (Act PasskeyJob Reply)}
    {s : PoolState sql Server PasskeyJob Unit} (hdb : db.EnrolledInSync)
    (hC : passkeyPool.allSteps keepsCounts (Pool.init (.ofDatabase db enforceRls)) as = true)
    (h : passkeyPool.exec (Pool.init (.ofDatabase db enforceRls)) as = some s) :
    Pool.Slots (fun j h c => j.Sends (PasskeyPhase.ofTrace h) c) (fun _ _ _ => True)
      (fun v => v.store.committed.EnrolledInSync) PasskeySlot s := by
  have h0 : ∀ i, PasskeySlot (.ofDatabase db enforceRls) i none := fun _ => rfl
  refine Pool.exec_slots passkeyProgram_sends (fun _ _ _ _ h => h) ?_ (Pool.slots_init hdb h0) hC h
  intro s i x t c v r js hs hCs ht hnext hsends ha
  replace ha := sqlPool_answer ha
  have hi := hs.slot i
  rw [PoolState.slot_of_getElem? ht] at hi
  have hslot : PasskeySlot v i (some (t.job, t.trace ++ [⟨c, r⟩])) := by
    show t.job.Owns v i (PasskeyPhase.ofTrace _)
    rw [PasskeyPhase.ofTrace_append]
    exact owns_call hi hsends ha
  by_cases hc : c ≠ .commit ∨ x = .failed
  · -- nobody else notices
    have hv := Server.unseen_answer ha hc
    refine ⟨?_, hslot, fun k hk => passkeySlot_of_unseen (hs.slot k) hv hk⟩
    rw [hv.committed]
    exact hs.world
  · obtain ⟨hcommit, hx⟩ := not_or.mp hc
    obtain rfl := not_not.mp hcommit
    rcases Server.commit_cases ha with ⟨hf, -⟩ | ⟨-, rfl⟩
    · exact absurd hf hx
    refine ⟨enrolledInSync_commit hs.world hi hsends, hslot, fun k hk => ?_⟩
    exact passkeySlot_commit (hs.slot k) hk fun u hu =>
      hasLivePasskey_of_keepsCounts hCs hnext hx hk hu

/-- In every run whose commits outdate no count, the flag of every user says whether there
is a live passkey. It does so in every state reached, so in particular whenever no
transaction is open. -/
theorem mfaEnrolled_iff_live_passkey {db : Database} {enforceRls : Bool}
    {as : List (Act PasskeyJob Reply)} {s : PoolState sql Server PasskeyJob Unit}
    (hdb : db.EnrolledInSync)
    (hC : passkeyPool.allSteps keepsCounts (Pool.init (.ofDatabase db enforceRls)) as = true)
    (h : passkeyPool.exec (Pool.init (.ofDatabase db enforceRls)) as = some s) :
    s.world.store.committed.EnrolledInSync :=
  (passkeyPool_slots hdb hC h).world

/-- A user with two live passkeys. -/
def twoPasskeys : Database where
  organizations := []
  users := [⟨1, "owner@example.com", "Owner", true, true⟩]
  memberships := []
  passkeys := [PasskeyRepository.newPasskey 10 0 1 "first" [] "laptop",
    PasskeyRepository.newPasskey 11 0 1 "second" [] "phone"]

/-- Both passkeys are revoked; the second revoke counts after the first has committed. -/
def staggeredRevokes : List (Act PasskeyJob Reply) :=
  [.start (.revoke 5 1 10), .start (.revoke 6 1 11), .step 0 .ok, .step 1 .ok, .step 0 .ok,
    .step 1 .ok, .step 0 .ok, .step 0 .ok, .step 1 .ok, .step 1 .ok, .step 1 .ok]

theorem mfaEnrolled_iff_live_passkey_staggered :
    ∃ s, passkeyPool.exec (Pool.init (.ofDatabase twoPasskeys true)) staggeredRevokes = some s ∧
      s.world.store.opened = [] ∧ s.world.store.committed.EnrolledInSync := by
  have hrun : (passkeyPool.exec (Pool.init (.ofDatabase twoPasskeys true)) staggeredRevokes).any
      (fun s => s.world.store.opened = []) = true := by decide
  obtain ⟨s, hs, hidle⟩ := (Option.any_eq_true _ _).mp hrun
  exact ⟨s, hs, of_decide_eq_true hidle,
    mfaEnrolled_iff_live_passkey (by decide) (by decide) hs⟩

/-- Both passkeys are revoked; each revoke counts before the other commits. -/
def overlappingRevokes : List (Act PasskeyJob Reply) :=
  [.start (.revoke 5 1 10), .start (.revoke 6 1 11), .step 0 .ok, .step 1 .ok, .step 0 .ok,
    .step 1 .ok, .step 0 .ok, .step 1 .ok, .step 0 .ok, .step 1 .ok]

/-- Without that condition the flag can be left set with no live passkey. -/
theorem not_mfaEnrolled_iff_live_passkey :
    ¬ ∀ (db : Database) (as : List (Act PasskeyJob Reply))
      (s : PoolState sql Server PasskeyJob Unit), db.EnrolledInSync →
      passkeyPool.exec (Pool.init (.ofDatabase db true)) as = some s →
      s.world.store.opened = [] → s.world.store.committed.EnrolledInSync := by
  intro h
  have hrun : (passkeyPool.exec (Pool.init (.ofDatabase twoPasskeys true)) overlappingRevokes).any
      (fun s => s.world.store.opened = [] ∧ ¬ s.world.store.committed.EnrolledInSync) = true := by
    decide
  obtain ⟨s, hs, hbad⟩ := (Option.any_eq_true _ _).mp hrun
  replace hbad := of_decide_eq_true hbad
  exact hbad.2 (h twoPasskeys overlappingRevokes s (by decide) hs hbad.1)

end Kubinate.Identity
