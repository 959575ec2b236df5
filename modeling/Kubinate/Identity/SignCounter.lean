import Kubinate.Identity.PasskeyFlag

/-!
# The sign counter of a passkey

`PgPasskeyRepository::record_use` is one `UPDATE` outside any transaction; `revoke` is a
transaction that holds the lock of the passkey's row until it commits, and an `UPDATE` that
matches the row waits for it.

* `Use`: a `record_use` whose `UPDATE` took effect. The world keeps them in their order.
* `passkeyUsePool_slots`: each row is what the uses of its passkey have made of it.
* `signCounter_monotone`: the law of the counter over every run.
-/

namespace Kubinate.Identity

open Platform Library

/-! ## The calls -/

/-- The statements of the transactions, and the `UPDATE` of `record_use`. -/
inductive PasskeyCall where
  | sql (c : Statement)
  | recordUse (now : Timestamp) (passkeyId : Uuid) (newSignCounter : Int)
      (newCredential : List UInt8)
deriving DecidableEq

@[reducible]
def PasskeyCall.Answer : PasskeyCall → Type
  | .sql c => c.Answer
  | .recordUse .. => Except SqlError Nat

abbrev passkeySql : Interface where
  Call := PasskeyCall
  Answer := PasskeyCall.Answer

def PasskeyRepository.recordUse (now : Timestamp) (passkeyId : Uuid) (newSignCounter : Int)
    (newCredential : List UInt8) : ExceptT PlatformError (Program passkeySql) Unit := do
  let affected ← ExceptT.mk
    (Program.perform (I := passkeySql) (.recordUse now passkeyId newSignCounter newCredential) >>=
      fun r =>
        match r with
        | .ok affected => pure (.ok affected)
        | .error e => pure (.error (.database e)))
  if affected ≠ 1 then
    throw (.conflict "passkey was revoked or the assertion counter regressed")

/-- The counter of an assertion is unsigned. -/
inductive UseJob where
  | recordUse (now : Timestamp) (passkeyId : Uuid) (newSignCounter : Nat)
      (newCredential : List UInt8)
  | revoke (now : Timestamp) (userId passkeyId : Uuid)
deriving DecidableEq

def UseJob.program : UseJob → Program passkeySql (Except PlatformError Unit)
  | .recordUse now passkeyId newSignCounter newCredential =>
    (PasskeyRepository.recordUse now passkeyId newSignCounter newCredential).run
  | .revoke now userId passkeyId =>
    (PasskeyRepository.revoke now userId passkeyId).run.embed PasskeyCall.sql fun _ r => r

/-! ## The server -/

/-- `WHERE id = $1 AND revoked_at IS NULL AND ($2 > sign_counter OR sign_counter = 0)`. -/
def Passkey.admits (p : Passkey) (id : Uuid) (newSignCounter : Int) : Bool :=
  p.id == id && p.isLive && (decide (newSignCounter > p.signCounter) || p.signCounter == 0)

def Passkey.use (p : Passkey) (now : Timestamp) (newSignCounter : Int)
    (newCredential : List UInt8) : Passkey :=
  { p with signCounter := newSignCounter, credential := newCredential, lastUsedAt := some now }

def Database.recordUse (db : Database) (now : Timestamp) (id : Uuid) (newSignCounter : Int)
    (newCredential : List UInt8) : Database :=
  { db with
    passkeys := db.passkeys.map fun p =>
      if p.admits id newSignCounter then p.use now newSignCounter newCredential else p }

/-- An `UPDATE` that commits by itself. It waits for the lock of a row that it matches. -/
def Server.recordUse (v : Server) (i : Nat) (now : Timestamp) (id : Uuid) (newSignCounter : Int)
    (newCredential : List UInt8) : Option (Server × Nat) :=
  let n := v.store.committed.passkeys.countP (·.admits id newSignCounter)
  if n = 0 then some (v, 0)
  else if (v.store.others i).any fun w => Lock.passkey id ∈ w.locks then none
  else
    some ({ v with
      store := { v.store with
        committed := v.store.committed.recordUse now id newSignCounter newCredential } }, n)

/-- A call of `record_use` that took effect. -/
structure Use where
  call : Nat
  passkeyId : Uuid
  signCounter : Int
  credential : List UInt8
deriving DecidableEq, Repr

structure UseServer where
  server : Server
  uses : List Use

namespace UseServer

def passkeys (w : UseServer) : List Passkey := w.server.store.committed.passkeys

/-- The `UPDATE`, and the record of it. -/
def recordUse (w : UseServer) (i : Nat) (now : Timestamp) (id : Uuid) (newSignCounter : Int)
    (newCredential : List UInt8) : Option (UseServer × Nat) :=
  (w.server.recordUse i now id newSignCounter newCredential).map fun (v, n) =>
    (⟨v, if n = 0 then w.uses else w.uses ++ [⟨i, id, newSignCounter, newCredential⟩]⟩, n)

def answer (w : UseServer) (i : Nat) : (c : PasskeyCall) → Reply →
    Option (UseServer × c.Answer × List UseJob)
  | .sql c, x => (w.server.answer i c x).map fun (v, r) => (⟨v, w.uses⟩, r, [])
  | .recordUse now id newSignCounter newCredential, .ok =>
    (w.recordUse i now id newSignCounter newCredential).map fun (w', n) => (w', .ok n, [])
  | .recordUse .., .failed => some (w, .error .connection, [])
  | .recordUse now id newSignCounter newCredential, .lost =>
    (w.recordUse i now id newSignCounter newCredential).map fun (w', _) =>
      (w', .error .connection, [])

end UseServer

/-- Calls of `record_use` and `revoke`, interleaved statement by statement. -/
def passkeyUsePool : Pool passkeySql UseServer UseJob Reply (Except PlatformError Unit) where
  prog := UseJob.program
  external := fun _ => true
  answer := UseServer.answer

/-! ## One call -/

/-- What a call can make of a row. -/
structure Passkey.Moves (p p' : Passkey) : Prop where
  id : p'.id = p.id
  signCounter : p.signCounter ≤ p'.signCounter
  revoked : p.isLive = false → p' = p

theorem Passkey.Moves.refl (p : Passkey) : p.Moves p := ⟨rfl, le_rfl, fun _ => rfl⟩

theorem Passkey.Moves.trans {p p' p'' : Passkey} (h : p.Moves p') (h' : p'.Moves p'') :
    p.Moves p'' where
  id := h'.id.trans h.id
  signCounter := h.signCounter.trans h'.signCounter
  revoked hp := by
    obtain rfl := h.revoked hp
    exact h'.revoked hp

theorem Passkey.moves_use {p : Passkey} {id : Uuid} {n : Int} (now : Timestamp)
    (credential : List UInt8) (hn : 0 ≤ n) (h : p.admits id n = true) :
    p.Moves (p.use now n credential) where
  id := rfl
  signCounter := by
    simp only [admits, Bool.and_eq_true, Bool.or_eq_true, decide_eq_true_eq, beq_iff_eq] at h
    change p.signCounter ≤ n
    omega
  revoked hp := by
    simp only [admits, hp, Bool.and_false, Bool.false_and, Bool.false_eq_true] at h

/-- A write other than the insertion of a passkey revokes passkeys at most. -/
theorem Database.apply_passkeys {db : Database} {w : Write} (hw : ∀ p, w ≠ .insertPasskey p) :
    ∃ f : Passkey → Passkey, (db.apply w).passkeys = db.passkeys.map f ∧
      ∀ p, p.Moves (f p) ∧ (f p).signCounter = p.signCounter ∧ (f p).credential = p.credential := by
  cases w with
  | insertPasskey p => exact absurd rfl (hw p)
  | revokePasskey id userId cs now =>
    refine ⟨fun p => if p.matches id userId then { p with revokedAt := some now } else p, rfl, ?_⟩
    intro p
    dsimp only
    split
    · next h =>
      refine ⟨⟨rfl, le_rfl, fun hp => ?_⟩, rfl, rfl⟩
      simp [Passkey.matches, hp] at h
    · exact ⟨.refl p, rfl, rfl⟩
  | _ => exact ⟨id, (List.map_id _).symm, fun p => ⟨.refl p, rfl, rfl⟩⟩

theorem Database.foldl_passkeys {ws : List Write} {db : Database}
    (hws : ∀ w ∈ ws, ∀ p, w ≠ .insertPasskey p) :
    ∃ f : Passkey → Passkey, (ws.foldl Database.apply db).passkeys = db.passkeys.map f ∧
      ∀ p, p.Moves (f p) ∧ (f p).signCounter = p.signCounter ∧ (f p).credential = p.credential := by
  induction ws generalizing db with
  | nil => exact ⟨id, (List.map_id _).symm, fun p => ⟨.refl p, rfl, rfl⟩⟩
  | cons w ws ih =>
    obtain ⟨f, hf, hfmoves⟩ := @Database.apply_passkeys db w (hws w List.mem_cons_self)
    obtain ⟨g, hg, hgmoves⟩ := @ih (db.apply w) fun w' h => hws w' (List.mem_cons_of_mem w h)
    refine ⟨g ∘ f, ?_, fun p => ?_⟩
    · rw [List.foldl_cons, hg, hf, List.map_map]
    · obtain ⟨hf₁, hf₂, hf₃⟩ := hfmoves p
      obtain ⟨hg₁, hg₂, hg₃⟩ := hgmoves (f p)
      exact ⟨hf₁.trans hg₁, hg₂.trans hf₂, hg₃.trans hf₃⟩

/-- `record_use` matches no row, or it moves the row and is kept in mind. -/
theorem UseServer.recordUse_cases {w w' : UseServer} {i n : Nat} {now : Timestamp} {id : Uuid}
    {counter : Int} {credential : List UInt8}
    (h : w.recordUse i now id counter credential = some (w', n)) :
    (w' = w ∧ n = 0) ∨
      (n = w.passkeys.countP (·.admits id counter) ∧ n ≠ 0 ∧
        w'.uses = w.uses ++ [⟨i, id, counter, credential⟩] ∧
        w'.passkeys = w.passkeys.map (fun p =>
          if p.admits id counter then p.use now counter credential else p) ∧
        ∀ k, w'.server.store.own k = w.server.store.own k) := by
  obtain ⟨⟨v, n'⟩, hv, heq⟩ := Option.map_eq_some_iff.mp h
  obtain ⟨rfl, rfl⟩ := Prod.mk.inj heq
  unfold Server.recordUse at hv
  dsimp only at hv
  split at hv
  · cases hv
    exact .inl ⟨rfl, rfl⟩
  split at hv
  · cases hv
  · next hn _ =>
    obtain ⟨rfl, rfl⟩ := Prod.mk.inj (Option.some.inj hv)
    refine .inr ⟨rfl, hn, ?_, rfl, fun _ => rfl⟩
    exact if_neg hn

/-! ## What the uses have made of the rows -/

/-- Counter and credential of a passkey after the uses. -/
def lastUse (uses : List Use) (p₀ : Passkey) : Int × List UInt8 :=
  uses.foldl (fun s u => if u.passkeyId = p₀.id then (u.signCounter, u.credential) else s)
    (p₀.signCounter, p₀.credential)

theorem lastUse_concat (uses : List Use) (u : Use) (p₀ : Passkey) :
    lastUse (uses ++ [u]) p₀ =
      if u.passkeyId = p₀.id then (u.signCounter, u.credential) else lastUse uses p₀ := by
  rw [lastUse, List.foldl_append]
  rfl

structure Counted (db : Database) (w : UseServer) : Prop where
  ids : w.passkeys.map (·.id) = db.passkeys.map (·.id)
  last : ∀ p₀ ∈ db.passkeys, ∀ p ∈ w.passkeys, p.id = p₀.id →
    (p.signCounter, p.credential) = lastUse w.uses p₀
  below : ∀ u ∈ w.uses, ∀ p ∈ w.passkeys, p.id = u.passkeyId → u.signCounter ≤ p.signCounter
  ascending : w.uses.Pairwise fun u u' =>
    u.passkeyId = u'.passkeyId → u.signCounter < u'.signCounter ∨ u.signCounter ≤ 0

section Counted

variable {db : Database} {w w' : UseServer}

/-- The ids of passkeys are a primary key. -/
theorem Counted.eq_of_id (hids : (db.passkeys.map (·.id)).Nodup) (h : Counted db w) {p q : Passkey}
    (hp : p ∈ w.passkeys) (hq : q ∈ w.passkeys) (heq : p.id = q.id) : p = q := by
  rw [← h.ids] at hids
  exact List.inj_on_of_nodup_map hids hp hq heq

theorem kept_start {v : Server} (hids : (v.store.committed.passkeys.map (·.id)).Nodup) :
    Counted v.store.committed ⟨v, []⟩ where
  ids := rfl
  last p₀ hp₀ p hp heq := by
    obtain rfl : p = p₀ := List.inj_on_of_nodup_map hids hp hp₀ heq
    rfl
  below _ h := nomatch h
  ascending := .nil

/-- Rows that are revoked at most. -/
theorem Counted.map {f : Passkey → Passkey} (h : Counted db w) (hpasskeys : w'.passkeys = w.passkeys.map f)
    (huses : w'.uses = w.uses) (hf : ∀ p, p.Moves (f p) ∧ (f p).signCounter = p.signCounter ∧
      (f p).credential = p.credential) : Counted db w' where
  ids := by
    rw [hpasskeys, List.map_map, ← h.ids]
    exact List.map_congr_left fun p _ => (hf p).1.id
  last p₀ hp₀ p' hp' heq := by
    rw [hpasskeys] at hp'
    obtain ⟨p, hp, rfl⟩ := List.mem_map.mp hp'
    obtain ⟨hmoves, hcounter, hcredential⟩ := hf p
    rw [hcounter, hcredential, huses]
    exact h.last p₀ hp₀ p hp (hmoves.id.symm.trans heq)
  below u hu p' hp' heq := by
    rw [hpasskeys] at hp'
    obtain ⟨p, hp, rfl⟩ := List.mem_map.mp hp'
    obtain ⟨hmoves, hcounter, -⟩ := hf p
    rw [hcounter]
    exact h.below u (huses ▸ hu) p hp (hmoves.id.symm.trans heq)
  ascending := by
    rw [huses]
    exact h.ascending

theorem admits_iff {p : Passkey} {id : Uuid} {n : Int} : p.admits id n = true ↔
    p.id = id ∧ p.isLive = true ∧ (p.signCounter < n ∨ p.signCounter = 0) := by
  simp only [Passkey.admits, Bool.and_eq_true, Bool.or_eq_true, decide_eq_true_eq, beq_iff_eq,
    and_assoc, gt_iff_lt]

/-- One use more. -/
theorem Counted.use {i : Nat} {now : Timestamp} {id : Uuid} {n : Int} {credential : List UInt8}
    (hids : (db.passkeys.map (·.id)).Nodup) (h : Counted db w) (hn : 0 ≤ n)
    (hmatch : w.passkeys.countP (·.admits id n) ≠ 0)
    (huses : w'.uses = w.uses ++ [⟨i, id, n, credential⟩])
    (hpasskeys : w'.passkeys = w.passkeys.map fun p =>
      if p.admits id n then p.use now n credential else p) : Counted db w' := by
  obtain ⟨q, hq, hadmits⟩ := List.countP_pos_iff.mp (Nat.pos_of_ne_zero hmatch)
  obtain ⟨hqid, -, hqcounter⟩ := admits_iff.mp hadmits
  -- the row of the passkey is the one that matches
  have hrow : ∀ p' ∈ w'.passkeys, (p'.id = id ∧ p' = q.use now n credential) ∨
      p'.id ≠ id ∧ p' ∈ w.passkeys := by
    intro p' hp'
    rw [hpasskeys] at hp'
    obtain ⟨p, hp, rfl⟩ := List.mem_map.mp hp'
    by_cases hid : p.id = id
    · obtain rfl : p = q := h.eq_of_id hids hp hq (hid.trans hqid.symm)
      rw [if_pos hadmits]
      exact .inl ⟨hid, rfl⟩
    · rw [if_neg fun hp => hid (admits_iff.mp hp).1]
      exact .inr ⟨hid, hp⟩
  have hbefore : ∀ u ∈ w.uses, u.passkeyId = id → u.signCounter ≤ q.signCounter :=
    fun u hu heq => h.below u hu q hq (hqid.trans heq.symm)
  constructor
  · rw [hpasskeys, List.map_map, ← h.ids]
    apply List.map_congr_left
    intro p _
    rw [Function.comp_apply]
    split
    · rfl
    · rfl
  · intro p₀ hp₀ p' hp' heq
    rw [huses, lastUse_concat]
    dsimp only
    rcases hrow p' hp' with ⟨hid, rfl⟩ | ⟨hid, hp⟩
    · rw [if_pos (hid.symm.trans heq)]
      rfl
    · rw [if_neg fun hid' => hid (heq.trans hid'.symm)]
      exact h.last p₀ hp₀ p' hp heq
  · intro u hu p' hp' heq
    rw [huses] at hu
    rcases hrow p' hp' with ⟨hid, rfl⟩ | ⟨hid, hp⟩
    · change u.signCounter ≤ n
      rcases List.mem_append.mp hu with hu | hu
      · have hle := hbefore u hu (heq.symm.trans hid)
        omega
      · rw [List.mem_singleton.mp hu]
    · rcases List.mem_append.mp hu with hu | hu
      · exact h.below u hu p' hp heq
      · rw [List.mem_singleton.mp hu] at heq
        exact absurd heq hid
  · rw [huses]
    refine List.pairwise_append.mpr ⟨h.ascending, List.pairwise_singleton _ _, ?_⟩
    intro u hu u' hu' heq
    rw [List.mem_singleton.mp hu'] at heq ⊢
    have hle := hbefore u hu heq
    change u.signCounter < n ∨ u.signCounter ≤ 0
    omega

/-- At most one row matches. -/
theorem Counted.countP_le (hids : (db.passkeys.map (·.id)).Nodup) (h : Counted db w) (id : Uuid)
    (n : Int) : w.passkeys.countP (·.admits id n) ≤ 1 := by
  rw [← h.ids] at hids
  calc w.passkeys.countP (·.admits id n)
      ≤ w.passkeys.countP (·.id == id) :=
        List.countP_mono_left fun p _ hp => beq_iff_eq.mpr (admits_iff.mp hp).1
    _ = (w.passkeys.map (·.id)).count id := by
        rw [List.count, List.countP_map]
        rfl
    _ ≤ 1 := List.nodup_iff_count_le_one.mp hids id

end Counted

/-- From one state of the rows to a later one. -/
structure Evolves (w w' : UseServer) : Prop where
  moves : ∀ p ∈ w.passkeys, ∃ p' ∈ w'.passkeys, p.Moves p'
  uses : w.uses <+: w'.uses
  revoked : ∀ p ∈ w.passkeys, p.isLive = false → ∀ u ∈ w'.uses, u.passkeyId = p.id → u ∈ w.uses

section Evolves

variable {w w' w'' : UseServer}

theorem Evolves.refl (w : UseServer) : Evolves w w where
  moves p hp := ⟨p, hp, .refl p⟩
  uses := List.prefix_refl _
  revoked _ _ _ _ hu _ := hu

theorem Evolves.trans (h : Evolves w w') (h' : Evolves w' w'') : Evolves w w'' where
  moves p hp := by
    obtain ⟨p', hp', hmoves⟩ := h.moves p hp
    obtain ⟨p'', hp'', hmoves'⟩ := h'.moves p' hp'
    exact ⟨p'', hp'', hmoves.trans hmoves'⟩
  uses := h.uses.trans h'.uses
  revoked p hp hrevoked u hu heq := by
    obtain ⟨p', hp', hmoves⟩ := h.moves p hp
    obtain rfl := hmoves.revoked hrevoked
    exact h.revoked p' hp hrevoked u (h'.revoked p' hp' hrevoked u hu heq) heq

theorem evolves_map {f : Passkey → Passkey} (hpasskeys : w'.passkeys = w.passkeys.map f)
    (huses : w'.uses = w.uses) (hf : ∀ p : Passkey, p.Moves (f p)) : Evolves w w' where
  moves p hp := ⟨f p, hpasskeys ▸ List.mem_map_of_mem hp, hf p⟩
  uses := by rw [huses]
  revoked _ _ _ u hu _ := huses ▸ hu

theorem evolves_use {db : Database} {i : Nat} {now : Timestamp} {id : Uuid} {n : Int}
    {credential : List UInt8} (hids : (db.passkeys.map (·.id)).Nodup) (h : Counted db w) (hn : 0 ≤ n)
    (hmatch : w.passkeys.countP (·.admits id n) ≠ 0)
    (huses : w'.uses = w.uses ++ [⟨i, id, n, credential⟩])
    (hpasskeys : w'.passkeys = w.passkeys.map fun p =>
      if p.admits id n then p.use now n credential else p) : Evolves w w' where
  moves p hp := by
    refine ⟨if p.admits id n then p.use now n credential else p, ?_, ?_⟩
    · rw [hpasskeys]
      exact List.mem_map.mpr ⟨p, hp, rfl⟩
    split
    · next hadmits => exact Passkey.moves_use now credential hn hadmits
    · exact .refl p
  uses := huses ▸ List.prefix_append _ _
  revoked p hp hrevoked u hu heq := by
    rw [huses] at hu
    rcases List.mem_append.mp hu with hu | hu
    · exact hu
    · -- the row of the use is live
      rw [List.mem_singleton.mp hu] at heq
      obtain ⟨q, hq, hadmits⟩ := List.countP_pos_iff.mp (Nat.pos_of_ne_zero hmatch)
      obtain ⟨hqid, hlive, -⟩ := admits_iff.mp hadmits
      obtain rfl : q = p := h.eq_of_id hids hq hp (hqid.trans heq)
      rw [hlive] at hrevoked
      cases hrevoked

end Evolves

/-! ## The programs -/

/-- What the answer to the `UPDATE` is turned into. -/
def useResult : Except SqlError Nat → Except PlatformError Unit
  | .ok affected =>
    if affected = 1 then .ok ()
    else .error (.conflict "passkey was revoked or the assertion counter regressed")
  | .error e => .error (.database e)

/-- The statements of `revoke`. -/
def OfRevoke : Statement → Prop
  | .begin | .commit | .rollback | .revokePasskey .. | .countLivePasskeys _
  | .updateMfaEnrolled .. => True
  | _ => False

def UseJob.Sends : UseJob → Trace passkeySql → PasskeyCall → Prop
  | .recordUse now id n credential, h, c => h = [] ∧ c = .recordUse now id n credential
  | .revoke .., _, c => ∃ c', c = .sql c' ∧ OfRevoke c'

def UseJob.Ends : UseJob → Trace passkeySql → Except PlatformError Unit → Prop
  | .recordUse now id n credential, h, a =>
    ∃ r, h = [⟨.recordUse now id n credential, r⟩] ∧ a = useResult r
  | .revoke .., _, a => ∀ text, a ≠ .error (.conflict text)

theorem useProgram_meets (j : UseJob) :
    Meets j.Sends (fun _ _ _ => True) j.Ends j.program [] := by
  cases j with
  | recordUse now id n credential =>
    refine ⟨⟨rfl, rfl⟩, fun r _ => ?_⟩
    rcases r with e | _ | _ | affected
    · exact ⟨_, rfl, rfl⟩
    · exact ⟨_, rfl, rfl⟩
    · exact ⟨_, rfl, rfl⟩
    · exact ⟨_, rfl, rfl⟩
  | revoke now userId passkeyId =>
    refine ⟨⟨_, rfl, trivial⟩, fun r _ => ?_⟩
    rcases r with e | ⟨⟩
    · exact nofun
    refine ⟨⟨_, rfl, trivial⟩, fun r _ => ?_⟩
    rcases r with e | affected
    · exact ⟨⟨_, rfl, trivial⟩, fun _ _ => nofun⟩
    rcases affected with _ | _ | affected
    · exact ⟨⟨_, rfl, trivial⟩, fun _ _ => nofun⟩
    · -- exactly one row was revoked
      refine ⟨⟨_, rfl, trivial⟩, fun r _ => ?_⟩
      rcases r with e | liveRemaining
      · exact ⟨⟨_, rfl, trivial⟩, fun _ _ => nofun⟩
      rcases liveRemaining with _ | liveRemaining
      · refine ⟨⟨_, rfl, trivial⟩, fun r _ => ?_⟩
        rcases r with e | affected
        · exact ⟨⟨_, rfl, trivial⟩, fun _ _ => nofun⟩
        refine ⟨⟨_, rfl, trivial⟩, fun r _ => ?_⟩
        rcases r with e | ⟨⟩
        · exact ⟨⟨_, rfl, trivial⟩, fun _ _ => nofun⟩
        · exact nofun
      · refine ⟨⟨_, rfl, trivial⟩, fun r _ => ?_⟩
        rcases r with e | ⟨⟩
        · exact ⟨⟨_, rfl, trivial⟩, fun _ _ => nofun⟩
        · exact nofun
    · exact ⟨⟨_, rfl, trivial⟩, fun _ _ => nofun⟩

/-! ## Every run -/

namespace UseServer

def usesOf (w : UseServer) (i : Nat) : List Use := w.uses.filter (·.call == i)

def own (w : UseServer) (i : Nat) : List Write := w.server.store.own i

end UseServer

/-- What a call of `record_use` was told is what has happened. -/
def Recorded (u : Use) (uses : List Use) : Trace passkeySql → Prop
  | [] => uses = []
  | [⟨.recordUse .., .ok affected⟩] => affected = 1 ∧ uses = [u] ∨ affected = 0 ∧ uses = []
  | _ => True

def UseSlot (w : UseServer) (i : Nat) : Option (UseJob × Trace passkeySql) → Prop
  | none => w.own i = [] ∧ w.usesOf i = []
  | some (.recordUse _ id n credential, h) =>
    w.own i = [] ∧ Recorded ⟨i, id, n, credential⟩ (w.usesOf i) h
  | some (.revoke .., _) => (∀ x ∈ w.own i, ∀ p, x ≠ .insertPasskey p) ∧ w.usesOf i = []

/-- Everything a call changes. -/
structure UseStep (db : Database) (w w' : UseServer) (i : Nat) : Prop where
  kept : Counted db w'
  evolves : Evolves w w'
  own : ∀ k, k ≠ i → w'.own k = w.own k
  usesOf : ∀ k, k ≠ i → w'.usesOf k = w.usesOf k

theorem UseStep.refl {db : Database} {w : UseServer} {i : Nat} (h : Counted db w) :
    UseStep db w w i := ⟨h, .refl w, fun _ _ => rfl, fun _ _ => rfl⟩

section Step

variable {db : Database} {w w' : UseServer} {i : Nat}

theorem useSlot_of_step {k : Nat} {o : Option (UseJob × Trace passkeySql)} (h : UseSlot w k o)
    (hstep : UseStep db w w' i) (hk : k ≠ i) : UseSlot w' k o := by
  unfold UseSlot at h ⊢
  rw [hstep.own k hk, hstep.usesOf k hk]
  exact h

theorem recordUse_step {now : Timestamp} {id : Uuid} {n : Nat} {affected : Nat}
    {credential : List UInt8} (hids : (db.passkeys.map (·.id)).Nodup) (h : Counted db w)
    (hown : w.own i = []) (hnone : w.usesOf i = [])
    (hcall : w.recordUse i now id n credential = some (w', affected)) :
    UseStep db w w' i ∧ w'.own i = [] ∧
      (affected = 1 ∧ w'.usesOf i = [⟨i, id, n, credential⟩] ∨
        affected = 0 ∧ w'.usesOf i = []) := by
  rcases UseServer.recordUse_cases hcall with ⟨rfl, rfl⟩ | ⟨rfl, hmatch, huses, hpasskeys, hown'⟩
  · exact ⟨.refl h, hown, .inr ⟨rfl, hnone⟩⟩
  · have hn : (0 : Int) ≤ n := Int.natCast_nonneg n
    refine ⟨⟨h.use hids hn hmatch huses hpasskeys, evolves_use hids h hn hmatch huses hpasskeys,
      fun k _ => hown' k, fun k hk => ?_⟩, (hown' i).trans hown, .inl ⟨?_, ?_⟩⟩
    · have hother : (i == k) = false := beq_eq_false_iff_ne.mpr (Ne.symm hk)
      rw [UseServer.usesOf, huses, List.filter_append, List.filter_cons, hother]
      exact List.append_nil _
    · have hle := h.countP_le hids id n
      omega
    · rw [UseServer.usesOf, huses, List.filter_append, List.filter_cons, beq_self_eq_true]
      change w.usesOf i ++ _ = _
      rw [hnone]
      rfl

/-- An `UPDATE` of a revoke. -/
theorem own_update {v v' : Server} {n : Nat} {y : Write} {r : Except SqlError Nat}
    (hy : ∀ p, y ≠ .insertPasskey p) (hown : ∀ z ∈ v.store.own i, ∀ p, z ≠ .insertPasskey p)
    (h : v.update i n y = some (v', r)) : ∀ z ∈ v'.store.own i, ∀ p, z ≠ .insertPasskey p := by
  rcases Server.update_cases h with ⟨-, rfl, -⟩ | ⟨-, -, hwrite⟩
  · exact hown
  · intro z hz
    rw [Store.write_own (Server.write_store hwrite), if_pos rfl] at hz
    rcases List.mem_append.mp hz with hz | hz
    · exact hown z hz
    · rw [List.mem_singleton.mp hz]
      exact hy

/-- A transaction of `revoke` inserts no passkey. -/
theorem own_revoke {v v' : Server} {c : Statement} {x : Reply} {r : c.Answer} (hc : OfRevoke c)
    (hown : ∀ y ∈ v.store.own i, ∀ p, y ≠ .insertPasskey p)
    (ha : v.answer i c x = some (v', r)) : ∀ y ∈ v'.store.own i, ∀ p, y ≠ .insertPasskey p := by
  have hempty (h : v'.store.own i = []) : ∀ y ∈ v'.store.own i, ∀ p, y ≠ .insertPasskey p := by
    rw [h]
    nofun
  by_cases hend : c = .commit ∨ c = .rollback
  · apply hempty
    rcases hend with rfl | rfl
    · rcases Server.commit_cases ha with ⟨-, rfl⟩ | ⟨-, rfl⟩
      · exact Server.rollback_own_self
      · rw [Server.commit_own, if_pos rfl]
    · rw [Server.rollback_cases ha]
      exact Server.rollback_own_self
  · obtain ⟨hcommit, hrollback⟩ := not_or.mp hend
    cases x with
    | lost => exact absurd (Server.answer_lost ha) hcommit
    | failed =>
      obtain ⟨rfl, -⟩ := Server.answer_failed ha hcommit hrollback
      exact hown
    | ok =>
      cases c with
      | begin =>
        simp only [Server.answer, Server.execute] at ha
        split at ha
        · cases ha
        · cases ha
          exact hown
      | countLivePasskeys userId =>
        cases ha
        exact hown
      | revokePasskey id userId now => exact own_update (by rintro p ⟨⟩) hown ha
      | updateMfaEnrolled userId value => exact own_update (by rintro p ⟨⟩) hown ha
      | commit => exact absurd rfl hcommit
      | rollback => exact absurd rfl hrollback
      | _ => exact hc.elim

theorem revoke_step {c : Statement} {x : Reply} {r : c.Answer} {v : Server} (h : Counted db w)
    (hc : OfRevoke c) (hown : ∀ y ∈ w.own i, ∀ p, y ≠ .insertPasskey p)
    (ha : w.server.answer i c x = some (v, r)) :
    UseStep db w ⟨v, w.uses⟩ i ∧
      ∀ y ∈ UseServer.own ⟨v, w.uses⟩ i, ∀ p, y ≠ .insertPasskey p := by
  by_cases hcommit : c ≠ .commit ∨ x = .failed
  · have hunseen := Server.unseen_answer ha hcommit
    have hpasskeys : UseServer.passkeys ⟨v, w.uses⟩ = w.passkeys.map id := by
      rw [List.map_id, UseServer.passkeys, hunseen.committed]
      rfl
    exact ⟨⟨h.map hpasskeys rfl fun p => ⟨.refl p, rfl, rfl⟩, evolves_map hpasskeys rfl .refl,
      hunseen.own, fun _ _ => rfl⟩, own_revoke hc hown ha⟩
  · obtain ⟨hc', hx⟩ := not_or.mp hcommit
    obtain rfl := not_not.mp hc'
    rcases Server.commit_cases ha with ⟨hfailed, -⟩ | ⟨-, rfl⟩
    · exact absurd hfailed hx
    obtain ⟨f, hf, hmoves⟩ := @Database.foldl_passkeys _ w.server.store.committed hown
    refine ⟨⟨h.map hf rfl hmoves, evolves_map hf rfl fun p => (hmoves p).1, fun k hk => ?_,
      fun _ _ => rfl⟩, own_revoke hc hown ha⟩
    exact Server.commit_own.trans (if_neg hk)

/-- One call of a program that is inside its specification. -/
theorem use_call {j : UseJob} {h : Trace passkeySql} {c : PasskeyCall} {r : c.Answer} {x : Reply}
    {js : List UseJob} (hids : (db.passkeys.map (·.id)).Nodup) (hkept : Counted db w)
    (hslot : UseSlot w i (some (j, h))) (hsends : j.Sends h c)
    (ha : w.answer i c x = some (w', r, js)) :
    UseStep db w w' i ∧ UseSlot w' i (some (j, h ++ [⟨c, r⟩])) := by
  cases j with
  | recordUse now id n credential =>
    obtain ⟨rfl, rfl⟩ := hsends
    obtain ⟨hown, hnone⟩ := hslot
    cases x with
    | ok =>
      obtain ⟨⟨v, affected⟩, hcall, heq⟩ := Option.map_eq_some_iff.mp ha
      cases heq
      exact recordUse_step hids hkept hown hnone hcall
    | failed =>
      cases ha
      exact ⟨.refl hkept, hown, trivial⟩
    | lost =>
      obtain ⟨⟨v, affected⟩, hcall, heq⟩ := Option.map_eq_some_iff.mp ha
      cases heq
      obtain ⟨hstep, hown', -⟩ := recordUse_step hids hkept hown hnone hcall
      exact ⟨hstep, hown', trivial⟩
  | revoke now userId passkeyId =>
    obtain ⟨c', rfl, hc'⟩ := hsends
    obtain ⟨hown, hnone⟩ := hslot
    obtain ⟨⟨v, r'⟩, hcall, heq⟩ := Option.map_eq_some_iff.mp ha
    cases heq
    obtain ⟨hstep, hown'⟩ := revoke_step hkept hc' hown hcall
    exact ⟨hstep, hown', hnone⟩

end Step

/-- What holds of every state, with the passkeys as they were at the beginning. -/
def UseRun (db : Database) : PoolState passkeySql UseServer UseJob (Except PlatformError Unit) → Prop :=
  Pool.Slots UseJob.Sends UseJob.Ends (Counted db) UseSlot

theorem useRun_start {db : Database} (enforceRls : Bool)
    (hids : (db.passkeys.map (·.id)).Nodup) :
    UseRun db (Pool.init ⟨.ofDatabase db enforceRls, []⟩) :=
  Pool.slots_init (kept_start (v := .ofDatabase db enforceRls) hids) fun _ => ⟨rfl, rfl⟩

section Runs

variable {db : Database} {as : List (Act UseJob Reply)}
  {s s' : PoolState passkeySql UseServer UseJob (Except PlatformError Unit)}

theorem passkeyUsePool_slots (hids : (db.passkeys.map (·.id)).Nodup) (hs : UseRun db s)
    (h : passkeyUsePool.exec s as = some s') : UseRun db s' := by
  refine Pool.exec_slots (C := fun _ _ => true) useProgram_meets ?_ ?_ hs
    (Pool.allSteps_of_forall fun _ _ _ => rfl) h
  · rintro w i (_ | _) - ⟨hown, hnone⟩
    · exact ⟨hown, hnone⟩
    · refine ⟨fun y hy => ?_, hnone⟩
      rw [hown] at hy
      cases hy
  · intro s i x t c w r js hs _ ht _ hsends ha
    have hslot := hs.slot i
    rw [PoolState.slot_of_getElem? ht] at hslot
    obtain ⟨hstep, hself⟩ := use_call hids hs.world hslot hsends ha
    exact ⟨hstep.kept, hself, fun k hk => useSlot_of_step (hs.slot k) hstep hk⟩

theorem evolves_step {a : Act UseJob Reply} (hids : (db.passkeys.map (·.id)).Nodup)
    (hs : UseRun db s) (h : passkeyUsePool.step s a = some s') : Evolves s.world s'.world := by
  cases a with
  | start j =>
    obtain ⟨-, rfl⟩ := Pool.step_start.mp h
    exact .refl s.world
  | step i x =>
    obtain ⟨j, τ, c, r, hcalls⟩ := Pool.calls_of_step h
    obtain ⟨js, ha⟩ := hcalls.answer
    have hslot := hs.slot i
    rw [hcalls.slot] at hslot
    exact (use_call hids hs.world hslot (hs.inside hcalls) ha).1.evolves

/-- From any state of a run to a later one. -/
theorem passkeyUsePool_evolves (hids : (db.passkeys.map (·.id)).Nodup) (hs : UseRun db s)
    (h : passkeyUsePool.exec s as = some s') : Evolves s.world s'.world := by
  have hrun := Pool.exec_invariant (C := fun _ _ => true)
    (Q := fun s₁ : PoolState passkeySql UseServer UseJob (Except PlatformError Unit) =>
      UseRun db s₁ ∧ Evolves s.world s₁.world)
    ?_ ⟨hs, .refl s.world⟩ (Pool.allSteps_of_forall fun _ _ _ => rfl) h
  · exact hrun.2
  · intro s₁ a s₂ ⟨hs₁, hevolves⟩ _ hstep
    have hrun₂ : passkeyUsePool.exec s₁ [a] = some s₂ := by
      rw [Pool.exec_cons, hstep]
      rfl
    exact ⟨passkeyUsePool_slots hids hs₁ hrun₂, hevolves.trans (evolves_step hids hs₁ hstep)⟩

/-- A positive counter is used once. -/
theorem Counted.unique {w : UseServer} (h : Counted db w) {u u' : Use} (hu : u ∈ w.uses)
    (hu' : u' ∈ w.uses) (hid : u.passkeyId = u'.passkeyId) (hcounter : u.signCounter = u'.signCounter)
    (hpos : 0 < u.signCounter) : u = u' := by
  have hascending := List.pairwise_iff_getElem.mp h.ascending
  obtain ⟨m, hm, rfl⟩ := List.getElem_of_mem hu
  obtain ⟨n, hn, rfl⟩ := List.getElem_of_mem hu'
  rcases Nat.lt_trichotomy m n with hlt | rfl | hlt
  · have hnew := hascending m n hm hn hlt hid
    omega
  · rfl
  · have hnew := hascending n m hn hm hlt hid.symm
    omega

/-- A call that returns `Ok` has used the passkey, and one that is turned away has not. -/
theorem recorded_of_result (hs : UseRun db s) {i : Nat} {now : Timestamp} {id : Uuid} {n : Nat}
    {credential : List UInt8} (hjob : s.jobs[i]? = some (.recordUse now id n credential)) :
    (s.result i = some (.ok ()) → ⟨i, id, n, credential⟩ ∈ s.world.uses) ∧
      ∀ text, s.result i = some (.error (.conflict text)) → ∀ u ∈ s.world.uses, u.call ≠ i := by
  obtain ⟨τ, hslot⟩ := PoolState.slot_of_job hjob
  have hrecorded := hs.slot i
  rw [hslot] at hrecorded
  constructor
  · intro hresult
    obtain ⟨r, rfl, hr⟩ := hs.finished hslot hresult
    rcases r with e | affected
    · cases hr
    rcases hrecorded.2 with ⟨-, huses⟩ | ⟨rfl, -⟩
    · have hmem : (⟨i, id, n, credential⟩ : Use) ∈ s.world.usesOf i := by
        rw [huses]
        exact List.mem_singleton_self _
      exact List.mem_of_mem_filter hmem
    · cases hr
  · intro text hresult u hu hcall
    obtain ⟨r, rfl, hr⟩ := hs.finished hslot hresult
    rcases r with e | affected
    · cases hr
    rcases hrecorded.2 with ⟨rfl, -⟩ | ⟨-, huses⟩
    · cases hr
    · have hmem : u ∈ s.world.usesOf i := List.mem_filter.mpr ⟨hu, beq_iff_eq.mpr hcall⟩
      rw [huses] at hmem
      cases hmem

/-- The step with which a call is turned away changes nothing. -/
theorem world_of_rejected (hids : (db.passkeys.map (·.id)).Nodup) (hs : UseRun db s) {i : Nat}
    {x : Reply} {text : String} (h : passkeyUsePool.step s (.step i x) = some s')
    (hresult : s'.result i = some (.error (.conflict text))) : s'.world = s.world := by
  obtain ⟨j, τ, c, r, hcalls⟩ := Pool.calls_of_step h
  obtain ⟨τ', c', r', js, hτ, ha, hends⟩ := hs.ended_by_step h hcalls.slot_self hresult
  cases j with
  | revoke now userId passkeyId => exact absurd rfl (hends text)
  | recordUse now id n credential =>
    obtain ⟨a, htrace, hr⟩ := hends
    rw [hτ] at htrace
    obtain ⟨-, hlast⟩ := @List.append_inj' _ τ' _ [] _ htrace rfl
    cases hlast
    rcases a with e | affected
    · cases hr
    cases x with
    | failed =>
      have hanswer := congrArg (·.2.1) (Option.some.inj ha)
      cases hanswer
    | lost =>
      obtain ⟨_, _, heq⟩ := Option.map_eq_some_iff.mp ha
      have hanswer := congrArg (·.2.1) heq
      cases hanswer
    | ok =>
      obtain ⟨⟨w', affected'⟩, hcall, heq⟩ := Option.map_eq_some_iff.mp ha
      obtain ⟨rfl, hanswer⟩ := Prod.mk.inj heq
      obtain rfl : affected' = affected := Except.ok.inj (Prod.mk.inj hanswer).1
      rcases UseServer.recordUse_cases hcall with ⟨hw, -⟩ | ⟨rfl, hmatch, -⟩
      · exact hw
      · -- the row that matched is the only one, so the call was not turned away
        have hone : s.world.passkeys.countP (·.admits id n) = 1 := by
          have hle := hs.world.countP_le hids id n
          omega
        rw [useResult, if_pos hone] at hr
        cases hr

end Runs

/-- From any state of a run to any later one: the counter of a passkey does not decrease, and a
revoked passkey stays as it is. A positive counter is used once, a revoked passkey is not used any
more, and counter and credential are those of the last use. A call that returns `Ok` has used the
passkey; one that is turned away has not, and changes nothing. -/
theorem signCounter_monotone {db : Database} {enforceRls : Bool} {as bs : List (Act UseJob Reply)}
    {s s' : PoolState passkeySql UseServer UseJob (Except PlatformError Unit)}
    (hids : (db.passkeys.map (·.id)).Nodup)
    (h : passkeyUsePool.exec (Pool.init ⟨.ofDatabase db enforceRls, []⟩) as = some s)
    (h' : passkeyUsePool.exec s bs = some s') :
    (∀ p ∈ s.world.passkeys, ∃ p' ∈ s'.world.passkeys,
      p'.id = p.id ∧ p.signCounter ≤ p'.signCounter ∧ (p.isLive = false → p' = p)) ∧
    (∀ u ∈ s'.world.uses, ∀ u' ∈ s'.world.uses, u.passkeyId = u'.passkeyId →
      u.signCounter = u'.signCounter → 0 < u.signCounter → u = u') ∧
    (∀ p ∈ s.world.passkeys, p.isLive = false →
      ∀ u ∈ s'.world.uses, u.passkeyId = p.id → u ∈ s.world.uses) ∧
    (∀ p₀ ∈ db.passkeys, ∀ p ∈ s'.world.passkeys, p.id = p₀.id →
      (p.signCounter, p.credential) = lastUse s'.world.uses p₀) ∧
    (∀ i now id n credential, s'.jobs[i]? = some (.recordUse now id n credential) →
      (s'.result i = some (.ok ()) → ⟨i, id, n, credential⟩ ∈ s'.world.uses) ∧
        ∀ text, s'.result i = some (.error (.conflict text)) → ∀ u ∈ s'.world.uses, u.call ≠ i) ∧
    ∀ i x s'' text, passkeyUsePool.step s' (.step i x) = some s'' →
      s''.result i = some (.error (.conflict text)) → s''.world = s'.world := by
  have hs := passkeyUsePool_slots hids (useRun_start enforceRls hids) h
  have hs' := passkeyUsePool_slots hids hs h'
  have hevolves := passkeyUsePool_evolves hids hs h'
  refine ⟨fun p hp => ?_, fun u hu u' hu' => hs'.world.unique hu hu', hevolves.revoked,
    hs'.world.last, fun i now id n credential => recorded_of_result hs',
    fun i x s'' text => world_of_rejected hids hs'⟩
  obtain ⟨p', hp', hmoves⟩ := hevolves.moves p hp
  exact ⟨p', hp', hmoves.id, hmoves.signCounter, hmoves.revoked⟩

/-- One passkey whose counter was 0 so far. -/
def onePasskey : Database where
  organizations := []
  users := [⟨1, "owner@example.com", "Owner", true, true⟩]
  memberships := []
  passkeys := [PasskeyRepository.newPasskey 10 0 1 "first" [0] "laptop"]

/-- Two assertions report the counter 5, and the passkey is revoked before a third one. -/
def usesAndRevoke : List (Act UseJob Reply) :=
  [.start (.recordUse 1 10 5 [1]), .start (.recordUse 1 10 5 [2]), .step 1 .ok, .step 0 .ok,
    .start (.revoke 2 1 10), .step 2 .ok, .step 2 .ok, .step 2 .ok, .step 2 .ok, .step 2 .ok]

theorem signCounter_monotone_onePasskey :
    ∃ s s', passkeyUsePool.exec (Pool.init ⟨.ofDatabase onePasskey true, []⟩) usesAndRevoke = some s ∧
      passkeyUsePool.exec s [.start (.recordUse 3 10 6 [3]), .step 3 .ok] = some s' ∧
      s'.world.uses = [⟨1, 10, 5, [2]⟩] ∧
      ∀ p ∈ s.world.passkeys, ∃ p' ∈ s'.world.passkeys,
        p'.id = p.id ∧ p.signCounter ≤ p'.signCounter ∧ (p.isLive = false → p' = p) := by
  have hrun : (passkeyUsePool.exec (Pool.init ⟨.ofDatabase onePasskey true, []⟩)
      usesAndRevoke).any (fun s =>
        (passkeyUsePool.exec s [.start (.recordUse 3 10 6 [3]), .step 3 .ok]).any fun s' =>
          decide (s'.world.uses = [⟨1, 10, 5, [2]⟩])) = true := by decide +kernel
  obtain ⟨s, hs, hrest⟩ := (Option.any_eq_true _ _).mp hrun
  obtain ⟨s', hs', huses⟩ := (Option.any_eq_true _ _).mp hrest
  have hids : (onePasskey.passkeys.map (·.id)).Nodup := by decide
  exact ⟨s, s', hs, hs', of_decide_eq_true huses, (signCounter_monotone hids hs hs').1⟩

end Kubinate.Identity
