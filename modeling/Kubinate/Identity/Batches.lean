import Kubinate.Identity.RecoveryEffects

/-!
# Recovery codes are single-use and of one batch

A row that is consumed is locked from its update to the commit, and so is a row that a rotation
deletes, so the two never meet, and a code is consumed once. What a rotation does not delete are
the rows that were committed after its snapshot: when two rotations of a user overlap, the second
one leaves the batch of the first.

* `Tidy`: what holds throughout every run, of the pending writes, of the rows that transactions
  have found, and of the batches.
* `recoveryCodes_singleUse`: the three laws, for runs in which every rotation that commits has
  found all the codes that are unused then.
* `not_recoveryCodes_singleBatch`: two rotations that overlap leave two batches.
-/

namespace Kubinate.Identity

open Platform Library

abbrev CodesState := PoolState codes RecoveryStore CodesJob (Except PlatformError CodesReply)

/-! ## Conditions on a run -/

/-- The ids of the rows that a transaction has inserted. -/
def insertedIds (τ : Trace codes) : List Uuid :=
  τ.filterMap fun
    | ⟨.insert .., .ok row⟩ => some row.id
    | _ => none

/-- The ids in the table before the run, and those that were issued since. -/
def knownIds (d : RecoveryTable) (s : CodesState) : List Uuid :=
  d.codes.map (·.id) ++ s.threads.flatMap fun t => insertedIds t.trace

/-- `Uuid::now_v7` gives an id that no row has had. -/
def drawsFresh (d : RecoveryTable) (s : CodesState) : Act CodesJob CodeOutcome → Bool
  | .start _ => true
  | .step i x =>
    match s.nextCall i with
    | some (.insert ..) => x.id ∉ knownIds d s
    | _ => true

/-- A rotation whose commit takes effect has found every code of the user that is unused at that
moment. -/
def findsUnused (s : CodesState) : Act CodesJob CodeOutcome → Bool
  | .start _ => true
  | .step i x =>
    match s.slot i, s.nextCall i with
    | some (.rotateBatch userId _, τ), some .commit =>
      x.reply == .failed || s.world.committed.codes.all fun c =>
        !(c.userId == userId && c.usedAt.isNone) || c.id ∈ scanned τ
    | _, _ => true

section Known

variable {d : RecoveryTable} {s s' : CodesState} {a : Act CodesJob CodeOutcome} {id : Uuid}

theorem mem_knownIds :
    id ∈ knownIds d s ↔ id ∈ d.codes.map (·.id) ∨
      ∃ i userId codeHash row, Pool.Told s i (.insert userId codeHash) (.ok row) ∧ row.id = id := by
  rw [knownIds, List.mem_append]
  refine or_congr_right ?_
  constructor
  · intro h
    obtain ⟨t, ht, hid⟩ := List.mem_flatMap.mp h
    obtain ⟨⟨c, r⟩, he, hrow⟩ := List.mem_filterMap.mp hid
    obtain ⟨i, hi⟩ := List.mem_iff_getElem?.mp ht
    split at hrow
    · next userId codeHash row heq =>
      cases heq
      exact ⟨i, userId, codeHash, row, ⟨t.job, t.trace, PoolState.slot_of_getElem? hi, he⟩,
        Option.some.inj hrow⟩
    · cases hrow
  · rintro ⟨i, userId, codeHash, row, ⟨j, τ, hslot, he⟩, rfl⟩
    rw [PoolState.slot, Option.map_eq_some_iff] at hslot
    obtain ⟨t, ht, heq⟩ := hslot
    cases heq
    exact List.mem_flatMap.mpr
      ⟨t, List.mem_of_getElem? ht, List.mem_filterMap.mpr ⟨_, he, rfl⟩⟩

theorem knownIds_step (h : codesPool.step s a = some s') (hid : id ∈ knownIds d s) :
    id ∈ knownIds d s' := by
  rcases mem_knownIds.mp hid with hid | ⟨i, userId, codeHash, row, htold, hrow⟩
  · exact mem_knownIds.mpr (.inl hid)
  · exact mem_knownIds.mpr (.inr ⟨i, userId, codeHash, row, htold.step h, hrow⟩)

end Known

/-! ## What holds throughout a run -/

section Invariant

variable (d : RecoveryTable)

/-- A row with this id was there, and none will come. -/
structure Past (s : CodesState) (id : Uuid) : Prop where
  known : id ∈ knownIds d s
  notPending : ∀ k row, (k, .insert row) ∈ s.world.pending → row.id ≠ id

/-- The code cannot be consumed any more. -/
structure Gone (s : CodesState) (id : Uuid) : Prop where
  past : Past d s id
  notUnused : ∀ c ∈ s.world.committed.codes, c.id = id → c.usedAt ≠ none

/-- The unused codes of a user were there before the run, or one rotation has inserted them. -/
def OneBatch (s : CodesState) (userId : Uuid) : Prop :=
  (∀ c ∈ s.world.committed.codes, c.userId = userId → c.usedAt = none → c ∈ d.codes) ∨
    ∃ k codeHashes τ, s.slot k = some (.rotateBatch userId codeHashes, τ) ∧
      ∀ c ∈ s.world.committed.codes, c.userId = userId → c.usedAt = none →
        ⟨.insert userId c.codeHash, .ok c⟩ ∈ τ

/-- What a transaction that goes on has written. -/
structure Secured (s : CodesState) (k : Nat) (τ : Trace codes) : Prop where
  used : ∀ userId codeHash id, ⟨.updateRow userId codeHash id, .ok true⟩ ∈ τ →
    ∃ now, (k, .use id now) ∈ s.world.pending
  deleted : ∀ userId id, ⟨.deleteRow userId id, .ok ()⟩ ∈ τ →
    (k, .delete id) ∈ s.world.pending ∨
      Past d s id ∧ ∀ c ∈ s.world.committed.codes, c.isOf userId id = false

structure Tidy (s : CodesState) : Prop where
  known : ∀ c ∈ s.world.committed.codes, c.id ∈ knownIds d s
  inserts : ∀ k row, (k, .insert row) ∈ s.world.pending → row.usedAt = none ∧
    ∃ codeHashes τ, s.slot k = some (.rotateBatch row.userId codeHashes, τ) ∧
      ⟨.insert row.userId row.codeHash, .ok row⟩ ∈ τ
  uses : ∀ k id now, (k, .use id now) ∈ s.world.pending →
    ∃ userId codeHash τ, s.slot k = some (.tryConsume userId codeHash, τ) ∧
      ∃ c ∈ s.world.committed.codes, c.id = id ∧ c.redeems userId codeHash = true
  apart : ∀ k k' w w', (k, w) ∈ s.world.pending → (k', w') ∈ s.world.pending → k ≠ k' →
    w.id ≠ w'.id
  fresh : ∀ k row, (k, .insert row) ∈ s.world.pending →
    ∀ c ∈ s.world.committed.codes, c.id ≠ row.id
  scanned : ∀ k j τ, s.slot k = some (j, τ) → ∀ id ∈ scanned τ, Past d s id
  secured : ∀ k j τ, s.slot k = some (j, τ) → Ongoing τ → Secured d s k τ
  batch : ∀ userId, OneBatch d s userId

end Invariant

/-! ## What one call does to the rows -/

section Call

variable {d : RecoveryTable} {s s' : CodesState} {i : Nat} {x : CodeOutcome} {j : CodesJob}
  {τ : Trace codes} {c : codes.Call} {r : codes.Answer c} {row : MfaRecoveryCode} {id : Uuid}

theorem answer_of_calls (h : codesPool.Calls s i x j τ c r s') :
    RecoveryStore.answer s.world i c x = some (s'.world, r) := by
  obtain ⟨js, ha⟩ := h.answer
  have hmap : (RecoveryStore.answer s.world i c x).map (fun p => (p.1, p.2, ([] : List CodesJob))) =
      some (s'.world, r, js) := ha
  obtain ⟨⟨v, r'⟩, hanswer, heq⟩ := Option.map_eq_some_iff.mp hmap
  cases heq
  exact hanswer

/-- A row after a call was there, or has been committed by its transaction. -/
theorem row_cases (h : codesPool.Calls s i x j τ c r s') (hrow : row ∈ s'.world.committed.codes) :
    (∃ row₀ ∈ s.world.committed.codes, Later row₀ row) ∨
      c = .commit ∧ ∃ row₀, (i, .insert row₀) ∈ s.world.pending ∧ Later row₀ row := by
  rcases RecoveryStore.committed_of_answer (answer_of_calls h) with hsame | ⟨hc, -, hview⟩
  · exact .inl ⟨row, hsame ▸ hrow, Later.refl row⟩
  · rw [hview] at hrow
    rcases RecoveryStore.mem_view hrow with ⟨row₀, hrow₀, hlater, -⟩ | ⟨row₀, hrow₀, hlater⟩
    · exact .inl ⟨row₀, hrow₀, hlater⟩
    · exact .inr ⟨hc, row₀, hrow₀, hlater⟩

theorem row_kept (h : codesPool.Calls s i x j τ c r s') (hrow : row ∈ s.world.committed.codes)
    (hne : ∀ w, (i, w) ∈ s.world.pending → w.id ≠ row.id) : row ∈ s'.world.committed.codes := by
  rcases RecoveryStore.committed_of_answer (answer_of_calls h) with hsame | ⟨-, -, hview⟩
  · rw [hsame]
    exact hrow
  · rw [hview]
    exact RecoveryStore.mem_view_of_ne hrow hne

theorem fresh_of_writes (h : codesPool.Calls s i x j τ c r s')
    (hfresh : drawsFresh d s (.step i x) = true)
    (hw : RecoveryStore.Writes s.world i x c r (.insert row)) : row.id ∉ knownIds d s := by
  obtain ⟨heq, hid, -⟩ := hw.insert
  cases heq
  simpa only [drawsFresh, h.nextCall, hid, decide_eq_true_eq] using hfresh

theorem Past.step (hid : Past d s id) (h : codesPool.Calls s i x j τ c r s')
    (hfresh : drawsFresh d s (.step i x) = true) : Past d s' id where
  known := knownIds_step h.step hid.known
  notPending := by
    intro k row hrow heq
    rcases RecoveryStore.mem_pending_of_answer (answer_of_calls h) hrow with hold | ⟨rfl, hw⟩
    · exact hid.notPending k row hold heq
    · exact fresh_of_writes h hfresh hw (heq ▸ hid.known)

theorem Gone.step (hid : Gone d s id) (h : codesPool.Calls s i x j τ c r s')
    (hfresh : drawsFresh d s (.step i x) = true) : Gone d s' id where
  past := hid.past.step h hfresh
  notUnused := by
    intro row hrow heq hunused
    rcases row_cases h hrow with ⟨row₀, hrow₀, hlater⟩ | ⟨-, row₀, hrow₀, hlater⟩
    · obtain rfl := hlater.unused hunused
      exact hid.notUnused row hrow₀ heq hunused
    · exact hid.past.notPending i row₀ hrow₀ (hlater.sameId.symm.trans heq)

end Call

/-! ## Each call keeps it -/

section Keeps

variable {d : RecoveryTable} {s s' : CodesState} {i : Nat} {x : CodeOutcome} {j : CodesJob}
  {τ : Trace codes} {c : codes.Call} {r : codes.Answer c}

theorem known_step (hs : Tidy d s) (h : codesPool.Calls s i x j τ c r s') :
    ∀ row ∈ s'.world.committed.codes, row.id ∈ knownIds d s' := by
  intro row hrow
  refine knownIds_step h.step ?_
  rcases row_cases h hrow with ⟨row₀, hrow₀, hlater⟩ | ⟨-, row₀, hrow₀, hlater⟩
  · rw [hlater.sameId]
    exact hs.known row₀ hrow₀
  · obtain ⟨-, codeHashes, τ', hslot, htold⟩ := hs.inserts i row₀ hrow₀
    rw [hlater.sameId]
    exact mem_knownIds.mpr (.inr ⟨i, _, _, row₀, ⟨_, τ', hslot, htold⟩, rfl⟩)

theorem inserts_step (hs : Tidy d s) (h : codesPool.Calls s i x j τ c r s') (hsends : j.Sends τ c) :
    ∀ k row, (k, .insert row) ∈ s'.world.pending → row.usedAt = none ∧
      ∃ codeHashes τ, s'.slot k = some (.rotateBatch row.userId codeHashes, τ) ∧
        ⟨.insert row.userId row.codeHash, .ok row⟩ ∈ τ := by
  intro k row hrow
  rcases RecoveryStore.mem_pending_of_answer (answer_of_calls h) hrow with hold | ⟨rfl, hw⟩
  · obtain ⟨hunused, codeHashes, τ', hslot, htold⟩ := hs.inserts k row hold
    obtain ⟨τ'', hslot', hτ⟩ := Pool.slot_step h.step hslot
    exact ⟨hunused, codeHashes, τ'', hslot', hτ.subset htold⟩
  · obtain ⟨heq, -, hunused⟩ := hw.insert
    cases heq
    obtain ⟨codeHashes, rfl⟩ := hsends.insert
    exact ⟨hunused, codeHashes, _, h.slot_self, mem_grow.mpr (.inr rfl)⟩

theorem uses_step (hs : Tidy d s) (h : codesPool.Calls s i x j τ c r s') (hsends : j.Sends τ c) :
    ∀ k id now, (k, .use id now) ∈ s'.world.pending →
      ∃ userId codeHash τ, s'.slot k = some (.tryConsume userId codeHash, τ) ∧
        ∃ row ∈ s'.world.committed.codes, row.id = id ∧ row.redeems userId codeHash = true := by
  intro k id now hw
  have hanswer := answer_of_calls h
  rcases RecoveryStore.mem_pending_of_answer hanswer hw with hold | ⟨rfl, hw⟩
  · obtain ⟨userId, codeHash, τ', hslot, row, hrow, hid, hmatch⟩ := hs.uses k id now hold
    obtain ⟨τ'', hslot', -⟩ := Pool.slot_step h.step hslot
    refine ⟨userId, codeHash, τ'', hslot', row, ?_, hid, hmatch⟩
    rcases RecoveryStore.committed_of_answer hanswer with hsame | ⟨rfl, -⟩
    · rw [hsame]
      exact hrow
    · -- the row of another transaction
      refine row_kept h hrow fun w' hw' heq => ?_
      by_cases hk : k = i
      · subst hk
        exact RecoveryStore.not_pending_of_isEnd hanswer rfl _ hw
      · exact hs.apart i k w' _ hw' hold (Ne.symm hk) (heq.trans hid)
  · obtain ⟨userId, codeHash, heq, row, hrow, hid, hmatch⟩ := hw.use
    cases heq
    obtain rfl := hsends.updateRow
    refine ⟨userId, codeHash, _, h.slot_self, row, ?_, hid, hmatch⟩
    have hsame := (RecoveryStore.committed_of_answer hanswer).resolve_right nofun
    rw [hsame]
    rcases RecoveryStore.mem_view hrow with ⟨row₀, hrow₀, hlater, -⟩ | ⟨row₀, hrow₀, -⟩
    · simp only [MfaRecoveryCode.redeems, Bool.and_eq_true, Option.isNone_iff_eq_none] at hmatch
      rw [hlater.unused hmatch.2]
      exact hrow₀
    · -- a redemption inserts nothing
      obtain ⟨-, _, _, hslot, -⟩ := hs.inserts k row₀ hrow₀
      cases hslot.symm.trans h.slot

theorem apart_step (hs : Tidy d s) (h : codesPool.Calls s i x j τ c r s') :
    ∀ k k' w w', (k, w) ∈ s'.world.pending → (k', w') ∈ s'.world.pending → k ≠ k' →
      w.id ≠ w'.id := by
  intro k k' w w' hw hw' hne
  have hanswer := answer_of_calls h
  rcases RecoveryStore.mem_pending_of_answer hanswer hw with hold | ⟨rfl, hnew⟩
  · rcases RecoveryStore.mem_pending_of_answer hanswer hw' with hold' | ⟨rfl, hnew'⟩
    · exact hs.apart k k' w w' hold hold' hne
    · exact hnew'.alone hne hold
  · rcases RecoveryStore.mem_pending_of_answer hanswer hw' with hold' | ⟨rfl, -⟩
    · exact (hnew.alone hne.symm hold').symm
    · exact absurd rfl hne

theorem fresh_step (hs : Tidy d s) (h : codesPool.Calls s i x j τ c r s')
    (hfresh : drawsFresh d s (.step i x) = true) :
    ∀ k row, (k, .insert row) ∈ s'.world.pending →
      ∀ row' ∈ s'.world.committed.codes, row'.id ≠ row.id := by
  intro k row hrow row' hrow' heq
  have hanswer := answer_of_calls h
  rcases RecoveryStore.mem_pending_of_answer hanswer hrow with hold | ⟨rfl, hw⟩
  · rcases row_cases h hrow' with ⟨row₀, hrow₀, hlater⟩ | ⟨rfl, row₀, hrow₀, hlater⟩
    · exact hs.fresh k row hold row₀ hrow₀ (hlater.sameId.symm.trans heq)
    · by_cases hk : k = i
      · subst hk
        exact RecoveryStore.not_pending_of_isEnd hanswer rfl _ hrow
      · exact hs.apart i k _ _ hrow₀ hold (Ne.symm hk) (hlater.sameId.symm.trans heq)
  · -- an id that no row has had
    have hnew := fresh_of_writes h hfresh hw
    obtain ⟨hcall, -, -⟩ := hw.insert
    cases hcall
    have hsame := (RecoveryStore.committed_of_answer hanswer).resolve_right nofun
    rw [hsame] at hrow'
    exact hnew (heq ▸ hs.known row' hrow')

/-- The rows of a snapshot were committed when it was taken. -/
theorem scanned_step (hs : Tidy d s) (h : codesPool.Calls s i x j τ c r s')
    (hsends : j.Sends τ c) (hfresh : drawsFresh d s (.step i x) = true) :
    ∀ k j' τ', s'.slot k = some (j', τ') → ∀ id ∈ scanned τ', Past d s' id := by
  intro k j' τ' hslot id hid
  refine Past.step ?_ h hfresh
  rcases h.other_or_self hslot with ⟨-, hold | rfl⟩ | ⟨rfl, rfl, rfl⟩
  · exact hs.scanned k j' τ' hold id hid
  · cases hid
  · obtain ⟨userId, ids, hmem, hid'⟩ := mem_scanned.mp hid
    rcases mem_grow.mp hmem with hmem | heq
    · exact hs.scanned k j' τ h.slot id (mem_scanned.mpr ⟨userId, ids, hmem, hid'⟩)
    · cases heq
      have hfinds : ids =
          ((RecoveryStore.view s.world k).codes.filter (·.userId == userId)).map (·.id) := by
        rcases RecoveryStore.finds_or_writes (answer_of_calls h) rfl with hfinds | ⟨w, hw, -⟩
        · exact hfinds
        · cases hw
      rw [hfinds] at hid'
      obtain ⟨row, hrow, rfl⟩ := List.mem_map.mp hid'
      rcases RecoveryStore.mem_view (List.mem_of_mem_filter hrow) with
        ⟨row₀, hrow₀, hlater, -⟩ | ⟨row₀, hrow₀, -⟩
      · rw [hlater.sameId]
        exact ⟨hs.known row₀ hrow₀, fun k' row' hrow' => (hs.fresh k' row' hrow' row₀ hrow₀).symm⟩
      · -- the snapshot comes before the inserts
        obtain ⟨-, _, _, hslot', htold⟩ := hs.inserts k row₀ hrow₀
        cases hslot'.symm.trans h.slot
        exact absurd rfl (hsends.deleteScan _ htold _ _)

/-- What a rotation's delete leaves: it has deleted the row, or there is none. -/
theorem deleted_or_missing (hs : Tidy d s) {userId id : Uuid} {codeHashes : List (List UInt8)}
    (hslot : s.slot i = some (.rotateBatch userId codeHashes, τ))
    (hfinds : ∀ row ∈ (RecoveryStore.view s.world i).codes, row.isOf userId id = false) :
    (i, .delete id) ∈ s.world.pending ∨
      ∀ row ∈ s.world.committed.codes, row.isOf userId id = false := by
  by_cases hdelete : (i, .delete id) ∈ s.world.pending
  · exact .inl hdelete
  refine .inr fun row hrow => ?_
  by_contra hof
  have hid : row.id = id := by
    rw [Bool.not_eq_false, MfaRecoveryCode.isOf, Bool.and_eq_true] at hof
    exact beq_iff_eq.mp hof.1
  refine hof (hfinds row (RecoveryStore.mem_view_of_ne hrow fun w hw heq => ?_))
  cases w with
  | insert row' => exact hs.fresh i row' hw row hrow heq.symm
  | delete id' =>
    obtain rfl : id' = row.id := heq
    exact hdelete (hid ▸ hw)
  | use id' now =>
    obtain ⟨_, _, _, hslot', -⟩ := hs.uses i id' now hw
    cases hslot'.symm.trans hslot

theorem secured_step (hs : Tidy d s) (h : codesPool.Calls s i x j τ c r s')
    (hsends : j.Sends τ c) (hfresh : drawsFresh d s (.step i x) = true) :
    ∀ k j' τ', s'.slot k = some (j', τ') → Ongoing τ' → Secured d s' k τ' := by
  intro k j' τ' hslot hongoing
  have hanswer := answer_of_calls h
  -- what was secured before the call still is
  have hkeeps {k : Nat} {τ' : Trace codes} (hsecured : Secured d s k τ')
      (hk : k ≠ i ∨ c.isEnd = false) : Secured d s' k τ' := by
    refine ⟨fun u hash id htold => ?_, fun u id htold => ?_⟩
    · obtain ⟨now, hw⟩ := hsecured.used u hash id htold
      exact ⟨now, RecoveryStore.pending_of_answer hanswer hw hk⟩
    · rcases hsecured.deleted u id htold with hw | ⟨hpast, hmissing⟩
      · exact .inl (RecoveryStore.pending_of_answer hanswer hw hk)
      · refine .inr ⟨hpast.step h hfresh, fun row hrow => ?_⟩
        rcases row_cases h hrow with ⟨row₀, hrow₀, hlater⟩ | ⟨-, row₀, hrow₀, hlater⟩
        · have hnot := hmissing row₀ hrow₀
          rwa [MfaRecoveryCode.isOf, ← hlater.sameId, ← hlater.sameUser] at hnot
        · have hne := hpast.notPending i row₀ hrow₀
          rw [← hlater.sameId] at hne
          rw [MfaRecoveryCode.isOf, beq_eq_false_iff_ne.mpr hne, Bool.false_and]
  rcases h.other_or_self hslot with ⟨hk, hold | rfl⟩ | ⟨rfl, rfl, rfl⟩
  · exact hkeeps (hs.secured k j' τ' hold hongoing) (.inl hk)
  · exact ⟨nofun, nofun⟩
  · obtain ⟨hbefore, hc⟩ := ongoing_grow.mp hongoing
    have hsecured := hkeeps (hs.secured k j' τ h.slot hbefore) (.inr hc)
    refine ⟨fun u hash id htold => ?_, fun u id htold => ?_⟩
    · rcases mem_grow.mp htold with htold | heq
      · exact hsecured.used u hash id htold
      · cases heq
        rcases RecoveryStore.finds_or_writes hanswer hc with hfinds | ⟨w, ⟨rfl, -⟩, hw⟩
        · cases hfinds
        · exact ⟨x.now, hw⟩
    · rcases mem_grow.mp htold with htold | heq
      · exact hsecured.deleted u id htold
      · cases heq
        obtain ⟨⟨codeHashes, rfl⟩, hscanned⟩ := hsends.deleteRow
        rcases RecoveryStore.finds_or_writes hanswer hc with hfinds | ⟨w, ⟨rfl, -⟩, hw⟩
        · have hpast := (hs.scanned k _ τ h.slot id hscanned).step h hfresh
          have hsame := (RecoveryStore.committed_of_answer hanswer).resolve_right nofun
          rcases deleted_or_missing hs h.slot hfinds with hw | hmissing
          · exact .inl (RecoveryStore.pending_of_answer hanswer hw (.inr rfl))
          · exact .inr ⟨hpast, hsame ▸ hmissing⟩
        · exact .inl hw

/-- A rotation that commits has deleted, in the rows that it leaves, every unused code that it has
found. -/
theorem not_unused_of_scanned (hs : Tidy d s) {userId : Uuid} {codeHashes : List (List UInt8)}
    (hslot : s.slot i = some (.rotateBatch userId codeHashes, τ))
    (hsends : (CodesJob.rotateBatch userId codeHashes).Sends τ .commit)
    {row : MfaRecoveryCode} (hrow : row ∈ s.world.committed.codes) (huser : row.userId = userId)
    (hscanned : row.id ∈ scanned τ) : (i, .delete row.id) ∈ s.world.pending := by
  obtain ⟨hongoing, hdone⟩ := hsends
  rcases (hs.secured i _ τ hslot hongoing).deleted userId row.id (hdone row.id hscanned) with
    hw | ⟨-, hmissing⟩
  · exact hw
  · have hnot := hmissing row hrow
    rw [MfaRecoveryCode.isOf, huser, BEq.rfl, BEq.rfl] at hnot
    cases hnot

/-- After the commit of a rotation that has found all the unused codes, those are its own. -/
theorem unused_of_rotation (hs : Tidy d s) {userId : Uuid} {codeHashes : List (List UInt8)}
    {r : Except SqlError Unit} (h : codesPool.Calls s i x (.rotateBatch userId codeHashes) τ .commit r s')
    (hsends : (CodesJob.rotateBatch userId codeHashes).Sends τ .commit)
    (hfound : findsUnused s (.step i x) = true)
    (hcommitted : s'.world.committed = RecoveryStore.view s.world i) (hx : x.reply ≠ .failed)
    {row : MfaRecoveryCode} (hrow : row ∈ s'.world.committed.codes) (huser : row.userId = userId)
    (hunused : row.usedAt = none) : (i, .insert row) ∈ s.world.pending := by
  rw [hcommitted] at hrow
  rcases RecoveryStore.mem_view hrow with ⟨row₀, hrow₀, hlater, hdelete, -⟩ | ⟨row₀, hrow₀, hlater⟩
  · obtain rfl := hlater.unused hunused
    have hscanned : row.id ∈ scanned τ := by
      rw [findsUnused, h.slot, h.nextCall] at hfound
      rcases Bool.or_eq_true_iff.mp hfound with hfailed | hall
      · exact absurd (beq_iff_eq.mp hfailed) hx
      · simpa [huser, hunused] using List.all_eq_true.mp hall row hrow₀
    exact absurd (not_unused_of_scanned hs h.slot hsends hrow₀ huser hscanned) hdelete
  · obtain rfl := hlater.unused hunused
    exact hrow₀

theorem batch_step (hs : Tidy d s) (h : codesPool.Calls s i x j τ c r s') (hsends : j.Sends τ c)
    (hfound : findsUnused s (.step i x) = true) (userId : Uuid) : OneBatch d s' userId := by
  have hanswer := answer_of_calls h
  -- a batch stays one as long as no unused code of the user comes in
  have hless (hold : ∀ row ∈ s'.world.committed.codes, row.userId = userId → row.usedAt = none →
      row ∈ s.world.committed.codes) : OneBatch d s' userId := by
    rcases hs.batch userId with hinitial | ⟨k, codeHashes, τ', hslot, hissued⟩
    · exact .inl fun row hrow huser hunused => hinitial row (hold row hrow huser hunused) huser hunused
    · obtain ⟨τ'', hslot', hτ⟩ := Pool.slot_step h.step hslot
      exact .inr ⟨k, codeHashes, τ'', hslot', fun row hrow huser hunused =>
        hτ.subset (hissued row (hold row hrow huser hunused) huser hunused)⟩
  rcases RecoveryStore.committed_of_answer hanswer with hsame | ⟨rfl, hx, hview⟩
  · exact hless fun row hrow _ _ => hsame ▸ hrow
  · by_cases hj : ∃ codeHashes, j = .rotateBatch userId codeHashes
    · obtain ⟨codeHashes, rfl⟩ := hj
      refine .inr ⟨i, codeHashes, _, h.slot_self, fun row hrow huser hunused => ?_⟩
      have hw := unused_of_rotation hs h hsends hfound hview hx hrow huser hunused
      obtain ⟨-, _, _, hslot, htold⟩ := hs.inserts i row hw
      cases hslot.symm.trans h.slot
      exact List.mem_append_left _ htold
    · refine hless fun row hrow huser hunused => ?_
      rw [hview] at hrow
      rcases RecoveryStore.mem_view hrow with ⟨row₀, hrow₀, hlater, -⟩ | ⟨row₀, hrow₀, hlater⟩
      · exact hlater.unused hunused ▸ hrow₀
      · -- the inserts of a transaction are for the user of its rotation
        obtain ⟨-, codeHashes, _, hslot, -⟩ := hs.inserts i row₀ hrow₀
        cases hslot.symm.trans h.slot
        exact absurd ⟨codeHashes, by rw [← huser, hlater.sameUser]⟩ hj

theorem tidy_step (hs : Tidy d s) (h : codesPool.Calls s i x j τ c r s') (hsends : j.Sends τ c)
    (hfresh : drawsFresh d s (.step i x) = true) (hfound : findsUnused s (.step i x) = true) :
    Tidy d s' where
  known := known_step hs h
  inserts := inserts_step hs h hsends
  uses := uses_step hs h hsends
  apart := apart_step hs h
  fresh := fresh_step hs h hfresh
  scanned := scanned_step hs h hsends hfresh
  secured := secured_step hs h hsends hfresh
  batch := batch_step hs h hsends hfound

/-- A transaction that is started has nothing yet. -/
theorem tidy_start {job : CodesJob} (hs : Tidy d s) (h : codesPool.step s (.start job) = some s') :
    Tidy d s' := by
  have hworld : s'.world = s.world := by
    obtain ⟨-, rfl⟩ := Pool.step_start.mp h
    rfl
  have hslots {k : Nat} {j' : CodesJob} {τ' : Trace codes} (hslot : s'.slot k = some (j', τ')) :
      s.slot k = some (j', τ') ∨ τ' = [] := by
    rcases Pool.slot_cases h hslot with hold | hnew | ⟨_, _, _, _, heq, -⟩
    · exact .inl hold
    · exact .inr hnew
    · cases heq
  have hgrown {k : Nat} {j' : CodesJob} {τ' : Trace codes} (hslot : s.slot k = some (j', τ')) :
      ∃ τ'', s'.slot k = some (j', τ'') ∧ τ' <+: τ'' := Pool.slot_step h hslot
  have hpast {id : Uuid} (hid : Past d s id) : Past d s' id :=
    ⟨knownIds_step h hid.known, hworld ▸ hid.notPending⟩
  constructor
  · intro row hrow
    rw [hworld] at hrow
    exact knownIds_step h (hs.known row hrow)
  · intro k row hrow
    rw [hworld] at hrow
    obtain ⟨hunused, codeHashes, τ', hslot, htold⟩ := hs.inserts k row hrow
    obtain ⟨τ'', hslot', hτ⟩ := hgrown hslot
    exact ⟨hunused, codeHashes, τ'', hslot', hτ.subset htold⟩
  · intro k id now hw
    rw [hworld] at hw ⊢
    obtain ⟨userId, codeHash, τ', hslot, hrow⟩ := hs.uses k id now hw
    obtain ⟨τ'', hslot', -⟩ := hgrown hslot
    exact ⟨userId, codeHash, τ'', hslot', hrow⟩
  · rw [hworld]
    exact hs.apart
  · rw [hworld]
    exact hs.fresh
  · intro k j' τ' hslot id hid
    rcases hslots hslot with hold | rfl
    · exact hpast (hs.scanned k j' τ' hold id hid)
    · cases hid
  · intro k j' τ' hslot hongoing
    rcases hslots hslot with hold | rfl
    · obtain ⟨hused, hdeleted⟩ := hs.secured k j' τ' hold hongoing
      refine ⟨hworld ▸ hused, fun u id htold => ?_⟩
      rw [hworld]
      exact (hdeleted u id htold).imp_right fun ⟨hid, hmissing⟩ => ⟨hpast hid, hmissing⟩
    · exact ⟨nofun, nofun⟩
  · intro userId
    rcases hs.batch userId with hinitial | ⟨k, codeHashes, τ', hslot, hissued⟩
    · exact .inl (hworld ▸ hinitial)
    · obtain ⟨τ'', hslot', hτ⟩ := hgrown hslot
      refine .inr ⟨k, codeHashes, τ'', hslot', fun row hrow huser hunused => ?_⟩
      rw [hworld] at hrow
      exact hτ.subset (hissued row hrow huser hunused)

end Keeps

/-! ## Runs -/

section Runs

variable {d : RecoveryTable} {s s' : CodesState} {as : List (Act CodesJob CodeOutcome)}

theorem tidy_init (d : RecoveryTable) : Tidy d (Pool.init (Store.ofCommitted d)) where
  known := fun _ hrow => mem_knownIds.mpr (.inl (List.mem_map_of_mem hrow))
  inserts := nofun
  uses := nofun
  apart := nofun
  fresh := nofun
  scanned := fun _ _ _ hslot => absurd hslot Pool.slot_init_ne_some
  secured := fun _ _ _ hslot => absurd hslot Pool.slot_init_ne_some
  batch := fun _ => .inl fun _ hrow _ _ => hrow

/-- What every call keeps, holds after every run, and with it the programs are inside what they
send. -/
theorem exec_tidy (hfresh : codesPool.allSteps (drawsFresh d) (Pool.init (Store.ofCommitted d)) as = true)
    (hfound : codesPool.allSteps findsUnused (Pool.init (Store.ofCommitted d)) as = true)
    (h : codesPool.exec (Pool.init (Store.ofCommitted d)) as = some s) : Tidy d s := by
  induction as using List.reverseRecOn generalizing s with
  | nil =>
    cases h
    exact tidy_init d
  | append_singleton as a ih =>
    rw [Pool.exec_append, Option.bind_eq_some_iff] at h
    obtain ⟨s₀, h₀, hlast⟩ := h
    have hstep : codesPool.step s₀ a = some s := by simpa using hlast
    obtain ⟨hfresh₀, hfresh⟩ := Pool.allSteps_append h₀ hfresh
    obtain ⟨hfound₀, hfound⟩ := Pool.allSteps_append h₀ hfound
    rw [Pool.allSteps, Bool.and_eq_true] at hfresh hfound
    have hs := ih hfresh₀ hfound₀ h₀
    cases a with
    | start job => exact tidy_start hs hstep
    | step i x =>
      obtain ⟨j, τ, c, r, hcalls⟩ := Pool.calls_of_step hstep
      exact tidy_step hs hcalls (hcalls.inside codesJob_meets h₀) hfresh.1 hfound.1

/-- What cannot be consumed any more, never can. -/
theorem exec_gone {id : Uuid} (hid : Gone d s id)
    (hfresh : codesPool.allSteps (drawsFresh d) s as = true)
    (h : codesPool.exec s as = some s') : Gone d s' id := by
  refine Pool.exec_invariant (Q := fun s => Gone d s id) ?_ hid hfresh h
  intro s a s' hid hfresh hstep
  cases a with
  | start job =>
    have hworld : s'.world = s.world := by
      obtain ⟨-, rfl⟩ := Pool.step_start.mp hstep
      rfl
    exact ⟨⟨knownIds_step hstep hid.past.known, hworld ▸ hid.past.notPending⟩,
      hworld ▸ hid.notUnused⟩
  | step i x =>
    obtain ⟨j, τ, c, r, hcalls⟩ := Pool.calls_of_step hstep
    exact hid.step hcalls hfresh

variable (d)

/-- After this schedule the transaction in slot `i` commits the consumption of this code, and the
commit takes effect. -/
def ConsumesAt (as : List (Act CodesJob CodeOutcome)) (i : Nat) (x : CodeOutcome)
    (c : MfaRecoveryCode) : Prop :=
  ∃ s userId codeHash τ now, codesPool.exec (Pool.init (Store.ofCommitted d)) as = some s ∧
    s.slot i = some (.tryConsume userId codeHash, τ) ∧ s.nextCall i = some .commit ∧
    x.reply ≠ .failed ∧ (i, .use c.id now) ∈ s.world.pending ∧ c ∈ s.world.committed.codes ∧
    c.redeems userId codeHash = true

/-- After this schedule the rotation in slot `i` commits, which takes effect, and this code is one
that it replaces: a row of the user that is there at that moment. -/
def ReplacesAt (as : List (Act CodesJob CodeOutcome)) (i : Nat) (x : CodeOutcome)
    (c : MfaRecoveryCode) : Prop :=
  ∃ s codeHashes τ, codesPool.exec (Pool.init (Store.ofCommitted d)) as = some s ∧
    s.slot i = some (.rotateBatch c.userId codeHashes, τ) ∧ s.nextCall i = some .commit ∧
    x.reply ≠ .failed ∧ c ∈ s.world.committed.codes

variable {d}

/-- A commit that takes effect makes what its transaction saw what everybody sees. -/
theorem committed_of_commit {i : Nat} {x : CodeOutcome} {j : CodesJob} {τ : Trace codes}
    {r : Except SqlError Unit} (h : codesPool.Calls s i x j τ .commit r s') (hx : x.reply ≠ .failed) :
    s'.world.committed = RecoveryStore.view s.world i := by
  rcases RecoveryStore.answer_cases (answer_of_calls h) with ⟨-, hfinds⟩ | ⟨hc, -⟩ |
    ⟨w, hwrites, -⟩ | ⟨-, -, hcommit⟩ | ⟨-, hc | ⟨-, hfailed⟩⟩
  · cases hfinds
  · cases hc
  · cases hwrites
  · rw [hcommit]
    rfl
  · cases hc
  · exact absurd hfailed hx

theorem gone_of_consumes {i : Nat} {x : CodeOutcome} {j : CodesJob} {τ : Trace codes}
    {r : Except SqlError Unit} {c : MfaRecoveryCode} {now : Timestamp} (hs : Tidy d s)
    (h : codesPool.Calls s i x j τ .commit r s') (hx : x.reply ≠ .failed)
    (hfresh : drawsFresh d s (.step i x) = true) (hw : (i, .use c.id now) ∈ s.world.pending)
    (hc : c ∈ s.world.committed.codes) : Gone d s' c.id where
  past := by
    refine Past.step ⟨hs.known c hc, fun k row hrow => ?_⟩ h hfresh
    exact (hs.fresh k row hrow c hc).symm
  notUnused := by
    intro row hrow hid
    rw [committed_of_commit h hx] at hrow
    rcases RecoveryStore.mem_view hrow with ⟨row₀, -, -, -, huse⟩ | ⟨row₀, hrow₀, hlater⟩
    · exact huse now (hid ▸ hw)
    · exact absurd (hid.symm.trans hlater.sameId) (hs.fresh i row₀ hrow₀ c hc)

theorem gone_of_replaces {i : Nat} {x : CodeOutcome} {τ : Trace codes} {codeHashes : List (List UInt8)}
    {r : Except SqlError Unit} {c : MfaRecoveryCode} (hs : Tidy d s)
    (h : codesPool.Calls s i x (.rotateBatch c.userId codeHashes) τ .commit r s')
    (hsends : (CodesJob.rotateBatch c.userId codeHashes).Sends τ .commit)
    (hx : x.reply ≠ .failed) (hfresh : drawsFresh d s (.step i x) = true)
    (hfound : findsUnused s (.step i x) = true) (hc : c ∈ s.world.committed.codes) :
    Gone d s' c.id where
  past := by
    refine Past.step ⟨hs.known c hc, fun k row hrow => ?_⟩ h hfresh
    exact (hs.fresh k row hrow c hc).symm
  notUnused := by
    intro row hrow hid hunused
    have hrow' := hrow
    rw [committed_of_commit h hx] at hrow'
    rcases RecoveryStore.mem_view hrow' with ⟨row₀, hrow₀, hlater, -⟩ | ⟨row₀, hrow₀, hlater⟩
    · -- the row is the code itself, and the rotation has deleted it
      obtain rfl : row₀ = c := List.inj_on_of_nodup_map s.world.committed.primaryKey hrow₀ hc
        (hlater.sameId.symm.trans hid)
      have hw := unused_of_rotation hs h hsends hfound (committed_of_commit h hx) hx hrow
        hlater.sameUser hunused
      exact hs.fresh i row hw row₀ hrow₀ hid.symm
    · exact absurd (hid.symm.trans hlater.sameId) (hs.fresh i row₀ hrow₀ c hc)

/-- A code that cannot be consumed, is not. -/
theorem not_consumes_of_gone {i : Nat} {id : Uuid} {now : Timestamp} (hs : Tidy d s)
    (hid : Gone d s id) : (i, .use id now) ∉ s.world.pending := by
  intro hw
  obtain ⟨userId, codeHash, -, -, row, hrow, hrowid, hmatch⟩ := hs.uses i id now hw
  simp only [MfaRecoveryCode.redeems, Bool.and_eq_true, Option.isNone_iff_eq_none] at hmatch
  exact hid.notUnused row hrow hrowid hmatch.2

/-- The moment at which a schedule goes on with a call. -/
theorem moment_of_exec {as₁ as₂ : List (Act CodesJob CodeOutcome)} {i : Nat} {x : CodeOutcome}
    {s₁ : CodesState} {c : codes.Call}
    (hrun : codesPool.exec (Pool.init (Store.ofCommitted d)) (as₁ ++ .step i x :: as₂) = some s)
    (hfresh : codesPool.allSteps (drawsFresh d) (Pool.init (Store.ofCommitted d))
      (as₁ ++ .step i x :: as₂) = true)
    (hfound : codesPool.allSteps findsUnused (Pool.init (Store.ofCommitted d))
      (as₁ ++ .step i x :: as₂) = true)
    (h₁ : codesPool.exec (Pool.init (Store.ofCommitted d)) as₁ = some s₁)
    (hnext : s₁.nextCall i = some c) :
    ∃ j τ r s₂, codesPool.Calls s₁ i x j τ c r s₂ ∧ codesPool.exec s₂ as₂ = some s ∧ Tidy d s₁ ∧
      j.Sends τ c ∧ drawsFresh d s₁ (.step i x) = true ∧ findsUnused s₁ (.step i x) = true ∧
      codesPool.allSteps (drawsFresh d) s₂ as₂ = true := by
  rw [Pool.exec_append, h₁, Option.bind_some, Pool.exec_cons, Option.bind_eq_some_iff] at hrun
  obtain ⟨s₂, hstep, h₂⟩ := hrun
  obtain ⟨j, τ, c', r, hcalls⟩ := Pool.calls_of_step hstep
  obtain rfl : c' = c := Option.some.inj (hcalls.nextCall.symm.trans hnext)
  obtain ⟨hfresh₁, hfresh⟩ := Pool.allSteps_append h₁ hfresh
  obtain ⟨hfound₁, hfound⟩ := Pool.allSteps_append h₁ hfound
  rw [Pool.allSteps, Bool.and_eq_true, hstep] at hfresh hfound
  exact ⟨j, τ, r, s₂, hcalls, h₂, exec_tidy hfresh₁ hfound₁ h₁, hcalls.inside codesJob_meets h₁,
    hfresh.1, hfound.1, hfresh.2⟩

/-- What is gone is not consumed by what comes later. -/
theorem not_consumesAt_of_gone {s₂ : CodesState} {as₁ as₂ as₃ : List (Act CodesJob CodeOutcome)}
    {k : Nat} {y : CodeOutcome} {c : MfaRecoveryCode} {id : Uuid}
    (hrun : codesPool.exec (Pool.init (Store.ofCommitted d)) (as₁ ++ as₂ ++ .step k y :: as₃) = some s)
    (hfresh : codesPool.allSteps (drawsFresh d) (Pool.init (Store.ofCommitted d))
      (as₁ ++ as₂ ++ .step k y :: as₃) = true)
    (hfound : codesPool.allSteps findsUnused (Pool.init (Store.ofCommitted d))
      (as₁ ++ as₂ ++ .step k y :: as₃) = true)
    (h₂ : codesPool.exec (Pool.init (Store.ofCommitted d)) as₁ = some s₂) (hgone : Gone d s₂ id)
    (hc : ConsumesAt d (as₁ ++ as₂) k y c) : c.id ≠ id := by
  rintro rfl
  obtain ⟨s₃, _, _, _, now, h₃, -, hnext, -, hw, -⟩ := hc
  obtain ⟨_, _, _, _, -, -, htidy, -⟩ := moment_of_exec hrun hfresh hfound h₃ hnext
  rw [List.append_assoc] at hfresh
  have hrest := (Pool.allSteps_append h₂ hfresh).2
  rw [Pool.exec_append, h₂, Option.bind_some] at h₃
  exact not_consumes_of_gone htidy (exec_gone hgone (Pool.allSteps_append h₃ hrest).1 h₃) hw

theorem consumes_once {as₁ as₂ as₃ : List (Act CodesJob CodeOutcome)} {i k : Nat} {x y : CodeOutcome}
    {c c' : MfaRecoveryCode}
    (hrun : codesPool.exec (Pool.init (Store.ofCommitted d))
      (as₁ ++ .step i x :: (as₂ ++ .step k y :: as₃)) = some s)
    (hfresh : codesPool.allSteps (drawsFresh d) (Pool.init (Store.ofCommitted d))
      (as₁ ++ .step i x :: (as₂ ++ .step k y :: as₃)) = true)
    (hfound : codesPool.allSteps findsUnused (Pool.init (Store.ofCommitted d))
      (as₁ ++ .step i x :: (as₂ ++ .step k y :: as₃)) = true)
    (hc : ConsumesAt d as₁ i x c) (hc' : ConsumesAt d (as₁ ++ .step i x :: as₂) k y c') :
    c'.id ≠ c.id := by
  obtain ⟨s₁, _, _, _, now, h₁, -, hnext, hx, hw, hc, -⟩ := hc
  obtain ⟨j, τ, r, s₂, hcalls, -, htidy, -, hfresh₁, -⟩ := moment_of_exec hrun hfresh hfound h₁ hnext
  have h₂ : codesPool.exec (Pool.init (Store.ofCommitted d)) (as₁ ++ [.step i x]) = some s₂ := by
    rw [Pool.exec_append, h₁, Option.bind_some, Pool.exec_cons, hcalls.step]
    rfl
  rw [List.append_cons] at hc'
  rw [List.append_cons, ← List.append_assoc] at hrun hfresh hfound
  exact not_consumesAt_of_gone hrun hfresh hfound h₂ (gone_of_consumes htidy hcalls hx hfresh₁ hw hc)
    hc'

theorem replaced_not_consumed {as₁ as₂ as₃ : List (Act CodesJob CodeOutcome)} {i k : Nat}
    {x y : CodeOutcome} {c c' : MfaRecoveryCode}
    (hrun : codesPool.exec (Pool.init (Store.ofCommitted d))
      (as₁ ++ .step i x :: (as₂ ++ .step k y :: as₃)) = some s)
    (hfresh : codesPool.allSteps (drawsFresh d) (Pool.init (Store.ofCommitted d))
      (as₁ ++ .step i x :: (as₂ ++ .step k y :: as₃)) = true)
    (hfound : codesPool.allSteps findsUnused (Pool.init (Store.ofCommitted d))
      (as₁ ++ .step i x :: (as₂ ++ .step k y :: as₃)) = true)
    (hc : ReplacesAt d as₁ i x c) (hc' : ConsumesAt d (as₁ ++ .step i x :: as₂) k y c') :
    c'.id ≠ c.id := by
  obtain ⟨s₁, codeHashes, τ, h₁, hslot, hnext, hx, hc⟩ := hc
  obtain ⟨j, τ', r, s₂, hcalls, -, htidy, hsends, hfresh₁, hfound₁, -⟩ :=
    moment_of_exec hrun hfresh hfound h₁ hnext
  cases hcalls.slot.symm.trans hslot
  have h₂ : codesPool.exec (Pool.init (Store.ofCommitted d)) (as₁ ++ [.step i x]) = some s₂ := by
    rw [Pool.exec_append, h₁, Option.bind_some, Pool.exec_cons, hcalls.step]
    rfl
  rw [List.append_cons] at hc'
  rw [List.append_cons, ← List.append_assoc] at hrun hfresh hfound
  exact not_consumesAt_of_gone hrun hfresh hfound h₂
    (gone_of_replaces htidy hcalls hsends hx hfresh₁ hfound₁ hc) hc'

/-- A redemption that reports success has consumed a code. -/
theorem consumesAt_of_result
    (hrun : codesPool.exec (Pool.init (Store.ofCommitted d)) as = some s)
    (hfresh : codesPool.allSteps (drawsFresh d) (Pool.init (Store.ofCommitted d)) as = true)
    (hfound : codesPool.allSteps findsUnused (Pool.init (Store.ofCommitted d)) as = true) {i : Nat}
    {userId : Uuid} {codeHash : List UInt8} {τ : Trace codes}
    (hslot : s.slot i = some (.tryConsume userId codeHash, τ))
    (hresult : s.result i = some (.ok (.consumed true))) :
    ∃ as₁ x as₂ c, as = as₁ ++ .step i x :: as₂ ∧ ConsumesAt d as₁ i x c ∧
      c.redeems userId codeHash = true := by
  obtain ⟨τ₁, id, rfl, htold⟩ :
      (CodesJob.tryConsume userId codeHash).Ends τ (.ok (.consumed true)) :=
    Pool.exec_ends codesJob_meets hrun hslot hresult
  obtain ⟨as₁, x, as₂, s₁, s₂, rfl, h₁, hcalls, -⟩ := Pool.exec_moment hrun hslot
  obtain ⟨_, _, _, _, -, -, htidy, -⟩ := moment_of_exec hrun hfresh hfound h₁ hcalls.nextCall
  have hongoing : Ongoing τ₁ := (hcalls.inside codesJob_meets h₁).commit
  obtain ⟨now, hw⟩ := (htidy.secured i _ _ hcalls.slot hongoing).used _ _ id htold
  obtain ⟨u, hash, τ', hslot', c, hc, rfl, hmatch⟩ := htidy.uses i id now hw
  cases hslot'.symm.trans hcalls.slot
  refine ⟨as₁, x, as₂, c, rfl, ⟨s₁, _, _, _, now, h₁, hcalls.slot, hcalls.nextCall, ?_, hw, hc,
    hmatch⟩, hmatch⟩
  -- a commit that fails does not report success
  intro hfailed
  have hanswer := answer_of_calls hcalls
  unfold RecoveryStore.answer at hanswer
  rw [hfailed] at hanswer
  cases (Prod.mk.inj (Option.some.inj hanswer)).2

/-- In every run of rotations and redemptions, interleaved statement by statement and row by row
and failing in any way, in which every rotation that commits has found the user's unused codes: a
redemption that reports success has consumed an unused code of the user with its hash; no code is
consumed twice; a code that a rotation replaces is not consumed after the rotation has committed;
and the unused codes of a user are of one batch, at every moment. -/
theorem recoveryCodes_singleUse
    (hrun : codesPool.exec (Pool.init (Store.ofCommitted d)) as = some s)
    (hfresh : codesPool.allSteps (drawsFresh d) (Pool.init (Store.ofCommitted d)) as = true)
    (hfound : codesPool.allSteps findsUnused (Pool.init (Store.ofCommitted d)) as = true) :
    (∀ i userId codeHash τ, s.slot i = some (.tryConsume userId codeHash, τ) →
      s.result i = some (.ok (.consumed true)) →
      ∃ as₁ x as₂ c, as = as₁ ++ .step i x :: as₂ ∧ ConsumesAt d as₁ i x c ∧
        c.redeems userId codeHash = true) ∧
    (∀ as₁ i x as₂ k y as₃ c c', as = as₁ ++ .step i x :: (as₂ ++ .step k y :: as₃) →
      ConsumesAt d as₁ i x c → ConsumesAt d (as₁ ++ .step i x :: as₂) k y c' → c'.id ≠ c.id) ∧
    (∀ as₁ i x as₂ k y as₃ c c', as = as₁ ++ .step i x :: (as₂ ++ .step k y :: as₃) →
      ReplacesAt d as₁ i x c → ConsumesAt d (as₁ ++ .step i x :: as₂) k y c' → c'.id ≠ c.id) ∧
    ∀ userId, OneBatch d s userId := by
  refine ⟨?_, ?_, ?_, (exec_tidy hfresh hfound hrun).batch⟩
  · intro i userId codeHash τ hslot hresult
    exact consumesAt_of_result hrun hfresh hfound hslot hresult
  · rintro as₁ i x as₂ k y as₃ c c' rfl hc hc'
    exact consumes_once hrun hfresh hfound hc hc'
  · rintro as₁ i x as₂ k y as₃ c c' rfl hc hc'
    exact replaced_not_consumed hrun hfresh hfound hc hc'

end Runs

/-- User 1 without recovery codes. -/
def noCodes : RecoveryTable where
  users := [1]
  codes := []
  primaryKey := List.nodup_nil

/-- Two rotations, both of which take their snapshot before the other one commits. -/
def overlappingRotations : List (Act CodesJob CodeOutcome) :=
  let fine : CodeOutcome := { reply := .ok, now := 1 }
  [.start (.rotateBatch 1 [[1]]), .start (.rotateBatch 1 [[2]]), .step 0 fine, .step 1 fine,
    .step 0 fine, .step 1 fine, .step 0 { fine with id := 10 }, .step 1 { fine with id := 11 },
    .step 0 fine, .step 1 fine]

theorem not_recoveryCodes_singleBatch :
    ¬ ∀ (d : RecoveryTable) (as : List (Act CodesJob CodeOutcome)) (s : CodesState),
      codesPool.exec (Pool.init (Store.ofCommitted d)) as = some s →
      codesPool.allSteps (drawsFresh d) (Pool.init (Store.ofCommitted d)) as = true →
      s.world.opened = [] → ∀ userId, OneBatch d s userId := by
  intro hclaim
  have hrun : (codesPool.exec (Pool.init (Store.ofCommitted noCodes)) overlappingRotations).any
      (fun s => decide (s.world.opened = []) &&
        decide (s.world.committed.codes = [⟨10, 1, [1], 1, none⟩, ⟨11, 1, [2], 1, none⟩]) &&
        decide (s.threads.map (fun t => insertedIds t.trace) = [[10], [11]])) = true := by
    decide +kernel
  obtain ⟨s, hs, hrest⟩ := (Option.any_eq_true _ _).mp hrun
  simp only [Bool.and_eq_true, decide_eq_true_eq] at hrest
  obtain ⟨⟨hopened, hcodes⟩, hinserted⟩ := hrest
  rcases hclaim noCodes overlappingRotations s hs (by decide +kernel) hopened 1 with
    hinitial | ⟨k, codeHashes, τ, hslot, hissued⟩
  · have hfirst := hinitial ⟨10, 1, [1], 1, none⟩ (by rw [hcodes]; decide) rfl rfl
    cases hfirst
  · -- no transaction has inserted both rows
    have hids : insertedIds τ ∈ s.threads.map (fun t => insertedIds t.trace) := by
      rw [PoolState.slot, Option.map_eq_some_iff] at hslot
      obtain ⟨t, ht, heq⟩ := hslot
      obtain ⟨-, rfl⟩ := Prod.mk.inj heq
      exact List.mem_map.mpr ⟨t, List.mem_of_getElem? ht, rfl⟩
    have hfirst : 10 ∈ insertedIds τ := List.mem_filterMap.mpr
      ⟨_, hissued ⟨10, 1, [1], 1, none⟩ (by rw [hcodes]; decide) rfl rfl, rfl⟩
    have hsecond : 11 ∈ insertedIds τ := List.mem_filterMap.mpr
      ⟨_, hissued ⟨11, 1, [2], 1, none⟩ (by rw [hcodes]; decide) rfl rfl, rfl⟩
    rw [hinserted, List.mem_pair] at hids
    rcases hids with hids | hids
    · rw [hids] at hsecond
      simp at hsecond
    · rw [hids] at hfirst
      simp at hfirst

/-- A rotation whose delete waits for a redemption, and a redemption of a code that it replaces. -/
def rotationAfterRedemption : List (Act CodesJob CodeOutcome) :=
  let fine : CodeOutcome := { reply := .ok, now := 1 }
  [.start (.rotateBatch 1 [[1], [2]]), .step 0 fine, .step 0 fine, .step 0 { fine with id := 10 },
    .step 0 { fine with id := 11 }, .step 0 fine,
    .start (.tryConsume 1 [1]), .start (.rotateBatch 1 [[3]]), .start (.tryConsume 1 [2]),
    .step 1 fine, .step 1 fine, .step 1 fine, .step 2 fine, .step 2 fine, .step 1 fine,
    .step 2 fine, .step 2 fine, .step 2 { fine with id := 12 }, .step 2 fine,
    .step 3 fine, .step 3 fine, .step 3 fine]

theorem recoveryCodes_singleUse_rotationAfterRedemption :
    ∃ s, codesPool.exec (Pool.init (Store.ofCommitted noCodes)) rotationAfterRedemption = some s ∧
      s.result 1 = some (.ok (.consumed true)) ∧ s.result 3 = some (.ok (.consumed false)) ∧
      (∃ as₁ x as₂ c, rotationAfterRedemption = as₁ ++ .step 1 x :: as₂ ∧
        ConsumesAt noCodes as₁ 1 x c ∧ c.redeems 1 [1] = true) ∧
      OneBatch noCodes s 1 := by
  have hrun : (codesPool.exec (Pool.init (Store.ofCommitted noCodes)) rotationAfterRedemption).any
      (fun s => decide (s.result 1 = some (.ok (.consumed true))) &&
        decide (s.result 3 = some (.ok (.consumed false))) &&
        decide ((s.slot 1).map Prod.fst = some (.tryConsume 1 [1]))) = true := by
    decide +kernel
  obtain ⟨s, hs, hrest⟩ := (Option.any_eq_true _ _).mp hrun
  simp only [Bool.and_eq_true, decide_eq_true_eq, Option.map_eq_some_iff] at hrest
  obtain ⟨⟨hfirst, hthird⟩, ⟨job, τ⟩, hslot, rfl⟩ := hrest
  obtain ⟨hconsumes, -, -, hbatch⟩ :=
    recoveryCodes_singleUse hs (by decide +kernel) (by decide +kernel)
  exact ⟨s, hs, hfirst, hthird, hconsumes 1 1 [1] τ hslot hfirst, hbatch 1⟩

end Kubinate.Identity
