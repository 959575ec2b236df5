import Kubinate.Identity.RecoveryCodes

/-!
# What the recovery code transactions do

* `Later`: what a row becomes under the writes of any transaction.
* `RecoveryStore.answer_cases`: everything a statement can do, with what its answer says.
* `CodesJob.Sends`, `CodesJob.Ends`: what the two methods send and when, and how they end.
-/

namespace Kubinate.Identity

open Platform Library

/-! ## What the writes of a transaction do to the table -/

/-- The same code at a later time: it is as it was until it is used. -/
structure Later (c c' : MfaRecoveryCode) : Prop where
  sameId : c'.id = c.id
  sameUser : c'.userId = c.userId
  unused : c'.usedAt = none → c' = c

theorem Later.refl (c : MfaRecoveryCode) : Later c c := ⟨rfl, rfl, fun _ => rfl⟩

theorem Later.trans {c c' c'' : MfaRecoveryCode} (h : Later c c') (h' : Later c' c'') :
    Later c c'' where
  sameId := h'.sameId.trans h.sameId
  sameUser := h'.sameUser.trans h.sameUser
  unused := fun hc => by
    obtain rfl := h'.unused hc
    exact h.unused hc

namespace RecoveryTable

variable {t : RecoveryTable} {w : CodeWrite} {ws : List CodeWrite} {c : MfaRecoveryCode}

/-- A row after one write was there before, and has not been deleted by it, or was inserted. -/
theorem mem_apply (h : c ∈ (t.apply w).codes) :
    (∃ c₀ ∈ t.codes, Later c₀ c ∧ w ≠ .delete c.id ∧ ∀ now, w = .use c.id now → c.usedAt ≠ none) ∨
      w = .insert c := by
  cases w with
  | insert row =>
    have hcodes : c ∈ t.codes ∨ c = row := by
      simp only [apply] at h
      split at h
      · exact .inl h
      · simpa using h
    rcases hcodes with hold | rfl
    · exact .inl ⟨c, hold, Later.refl c, nofun, nofun⟩
    · exact .inr rfl
  | delete id =>
    obtain ⟨hold, hne⟩ := List.mem_filter.mp h
    refine .inl ⟨c, hold, Later.refl c, ?_, nofun⟩
    rintro heq
    cases heq
    simp at hne
  | use id now =>
    obtain ⟨c₀, hc₀, rfl⟩ := List.mem_map.mp h
    refine .inl ⟨c₀, hc₀, ?_, nofun, ?_⟩
    · split
      · exact ⟨rfl, rfl, nofun⟩
      · exact Later.refl c₀
    · intro now' heq
      split
      · nofun
      · next hne =>
        rw [if_neg hne] at heq
        cases heq
        simp at hne

/-- The same for the writes of a transaction. -/
theorem mem_foldl (h : c ∈ (ws.foldl apply t).codes) :
    (∃ c₀ ∈ t.codes, Later c₀ c ∧ .delete c.id ∉ ws ∧ ∀ now, .use c.id now ∈ ws → c.usedAt ≠ none) ∨
      ∃ row, .insert row ∈ ws ∧ Later row c := by
  induction ws using List.reverseRecOn generalizing c with
  | nil => exact .inl ⟨c, h, Later.refl c, List.not_mem_nil, fun _ hw => absurd hw List.not_mem_nil⟩
  | append_singleton ws w ih =>
    rw [List.foldl_append] at h
    rcases mem_apply h with ⟨c₀, hc₀, hlater, hdelete, huse⟩ | rfl
    · rcases ih hc₀ with ⟨c₁, hc₁, hlater', hdelete', huse'⟩ | ⟨row, hrow, hlater'⟩
      · refine .inl ⟨c₁, hc₁, hlater'.trans hlater, ?_, fun now hw => ?_⟩
        · rw [hlater.sameId] at hdelete ⊢
          intro hmem
          rcases List.mem_append.mp hmem with hmem | hmem
          · exact hdelete' hmem
          · exact hdelete (List.mem_singleton.mp hmem).symm
        · rcases List.mem_append.mp hw with hw | hw
          · intro hunused
            have hold := huse' now (hlater.sameId ▸ hw)
            rw [← hlater.unused hunused] at hold
            exact hold hunused
          · exact huse now (List.mem_singleton.mp hw).symm
      · exact .inr ⟨row, List.mem_append_left _ hrow, hlater'.trans hlater⟩
    · exact .inr ⟨c, List.mem_append_right _ List.mem_cons_self, Later.refl c⟩

/-- Rows that the writes are not about stay as they are. -/
theorem mem_foldl_of_ne (h : c ∈ t.codes) (hws : ∀ w ∈ ws, w.id ≠ c.id) :
    c ∈ (ws.foldl apply t).codes := by
  induction ws using List.reverseRecOn with
  | nil => exact h
  | append_singleton ws w ih =>
    rw [List.foldl_append]
    have hold := ih fun w hw => hws w (List.mem_append_left _ hw)
    have hw := hws w (List.mem_append_right _ List.mem_cons_self)
    cases w with
    | insert row =>
      show c ∈ (apply _ (.insert row)).codes
      simp only [apply]
      split
      · exact hold
      · exact List.mem_append_left _ hold
    | delete id => exact List.mem_filter.mpr ⟨hold, bne_iff_ne.mpr (Ne.symm hw)⟩
    | use id now =>
      refine List.mem_map.mpr ⟨c, hold, if_neg ?_⟩
      rw [beq_iff_eq]
      exact Ne.symm hw

end RecoveryTable

/-! ## What a call does -/

def CodeStatement.isEnd : CodeStatement → Bool
  | .commit | .rollback => true
  | _ => false

namespace RecoveryStore

variable {v v' : RecoveryStore} {i : Nat} {x : CodeOutcome} {c : CodeStatement} {r : c.Answer}

/-- The write that a call makes when it is answered so. -/
def Writes (v : RecoveryStore) (i : Nat) (x : CodeOutcome) :
    (c : CodeStatement) → c.Answer → CodeWrite → Prop
  | .deleteRow _ id, .ok (), w => w = .delete id ∧ locked v i id = false
  | .updateRow userId codeHash id, .ok true, w => w = .use id x.now ∧ locked v i id = false ∧
    ∃ c ∈ (view v i).codes, c.id = id ∧ c.redeems userId codeHash = true
  | .insert userId codeHash, .ok row, w => w = .insert row ∧ awaits v i row = false ∧
    row = ⟨x.id, userId, codeHash, x.now, none⟩
  | _, _, _ => False

/-- What a call that writes nothing has found. -/
def Finds (v : RecoveryStore) (i : Nat) : (c : CodeStatement) → c.Answer → Prop
  | .deleteScan userId, .ok ids => ids = ((view v i).codes.filter (·.userId == userId)).map (·.id)
  | .deleteRow userId id, .ok () => ∀ c ∈ (view v i).codes, c.isOf userId id = false
  | .updateRow .., .ok true | .insert .., .ok _ | .commit, _ | .rollback, _ => False
  | _, _ => True

theorem execute_cases (h : execute v i x c = some (v', r)) :
    (v' = v ∧ Finds v i c r ∧ c ≠ .begin ∧ c ≠ .commit ∧ c ≠ .rollback) ∨
    (c = .begin ∧ i ∉ v.opened ∧ v' = v.begin i) ∨
    (∃ w, Writes v i x c r w ∧ v.write i w = some v') ∨
    (c = .commit ∧ v' = v.commit RecoveryTable.apply i) ∨ (c = .rollback ∧ v' = v.rollback i) := by
  cases c with
  | begin =>
    simp only [execute] at h
    split at h
    · cases h
    · next hi =>
      cases h
      exact .inr (.inl ⟨rfl, hi, rfl⟩)
  | commit =>
    cases h
    exact .inr (.inr (.inr (.inl ⟨rfl, rfl⟩)))
  | rollback =>
    cases h
    exact .inr (.inr (.inr (.inr ⟨rfl, rfl⟩)))
  | deleteScan | updateScan =>
    cases h
    refine .inl ⟨rfl, ?_, nofun, nofun, nofun⟩
    first | rfl | trivial
  | deleteRow userId id =>
    simp only [execute] at h
    split at h
    · cases h
    next hlocked =>
    split at h
    · obtain ⟨v₁, hv, heq⟩ := Option.map_eq_some_iff.mp h
      cases heq
      exact .inr (.inr (.inl ⟨_, ⟨rfl, Bool.eq_false_iff.mpr hlocked⟩, hv⟩))
    · next hnone =>
      cases h
      refine .inl ⟨rfl, ?_, nofun, nofun, nofun⟩
      intro c hc
      exact Bool.eq_false_iff.mpr (List.any_eq_false.mp (Bool.eq_false_iff.mpr hnone) c hc)
  | updateRow userId codeHash id =>
    simp only [execute] at h
    split at h
    · cases h
    next hlocked =>
    split at h
    · next hany =>
      obtain ⟨v₁, hv, heq⟩ := Option.map_eq_some_iff.mp h
      cases heq
      obtain ⟨c, hc, hmatch⟩ := List.any_eq_true.mp hany
      rw [Bool.and_eq_true, beq_iff_eq] at hmatch
      exact .inr (.inr (.inl ⟨_, ⟨rfl, Bool.eq_false_iff.mpr hlocked, c, hc, hmatch⟩, hv⟩))
    · cases h
      exact .inl ⟨rfl, trivial, nofun, nofun, nofun⟩
  | insert userId codeHash =>
    simp only [execute, insert] at h
    split at h
    · cases h
    next hawaits =>
    split at h
    · cases h
      exact .inl ⟨rfl, trivial, nofun, nofun, nofun⟩
    split at h
    · cases h
      exact .inl ⟨rfl, trivial, nofun, nofun, nofun⟩
    · obtain ⟨v₁, hv, heq⟩ := Option.map_eq_some_iff.mp h
      cases heq
      exact .inr (.inr (.inl ⟨_, ⟨rfl, Bool.eq_false_iff.mpr hawaits, rfl⟩, hv⟩))

/-- Everything a call can do: nothing, beginning, a write, or the end of the transaction. -/
theorem answer_cases (h : answer v i c x = some (v', r)) :
    (v' = v ∧ Finds v i c r) ∨ (c = .begin ∧ i ∉ v.opened ∧ v' = v.begin i) ∨
    (∃ w, Writes v i x c r w ∧ v.write i w = some v') ∨
    (c = .commit ∧ x.reply ≠ .failed ∧ v' = v.commit RecoveryTable.apply i) ∨
    (v' = v.rollback i ∧ (c = .rollback ∨ c = .commit ∧ x.reply = .failed)) := by
  unfold answer at h
  cases hreply : x.reply with
  | ok =>
    rw [hreply] at h
    rcases execute_cases h with ⟨rfl, hfinds, -⟩ | hbegin | hwrite | ⟨rfl, rfl⟩ | ⟨rfl, rfl⟩
    · exact .inl ⟨rfl, hfinds⟩
    · exact .inr (.inl hbegin)
    · exact .inr (.inr (.inl hwrite))
    · exact .inr (.inr (.inr (.inl ⟨rfl, nofun, rfl⟩)))
    · exact .inr (.inr (.inr (.inr ⟨rfl, .inl rfl⟩)))
  | failed =>
    rw [hreply] at h
    cases c with
    | commit =>
      cases h
      exact .inr (.inr (.inr (.inr ⟨rfl, .inr ⟨rfl, rfl⟩⟩)))
    | rollback =>
      cases h
      exact .inr (.inr (.inr (.inr ⟨rfl, .inl rfl⟩)))
    | _ =>
      cases h
      exact .inl ⟨rfl, trivial⟩
  | lost =>
    rw [hreply] at h
    cases c with
    | commit =>
      cases h
      exact .inr (.inr (.inr (.inl ⟨rfl, nofun, rfl⟩)))
    | _ => cases h

/-! ### The same, by what it is about -/

theorem Writes.insert {row : MfaRecoveryCode} (h : Writes v i x c r (.insert row)) :
    (⟨c, r⟩ : Σ c : codes.Call, codes.Answer c) = ⟨.insert row.userId row.codeHash, .ok row⟩ ∧
      row.id = x.id ∧ row.usedAt = none := by
  cases c with
  | insert userId codeHash =>
    cases r with
    | error e => cases h
    | ok row' =>
      obtain ⟨heq, -, rfl⟩ := h
      cases heq
      exact ⟨rfl, rfl, rfl⟩
  | deleteRow userId id =>
    cases r with
    | error e => cases h
    | ok r => cases h.1
  | updateRow userId codeHash id =>
    rcases r with e | _ | _
    · cases h
    · cases h
    · cases h.1
  | begin | commit | rollback | deleteScan | updateScan => cases h

theorem Writes.use {id : Uuid} {now : Timestamp} (h : Writes v i x c r (.use id now)) :
    ∃ userId codeHash,
      (⟨c, r⟩ : Σ c : codes.Call, codes.Answer c) = ⟨.updateRow userId codeHash id, .ok true⟩ ∧
      ∃ c ∈ (view v i).codes, c.id = id ∧ c.redeems userId codeHash = true := by
  cases c with
  | updateRow userId codeHash id' =>
    rcases r with e | _ | _
    · cases h
    · cases h
    · obtain ⟨heq, -, hrow⟩ := h
      cases heq
      exact ⟨userId, codeHash, rfl, hrow⟩
  | insert userId codeHash =>
    cases r with
    | error e => cases h
    | ok row' => cases h.1
  | deleteRow userId id =>
    cases r with
    | error e => cases h
    | ok r => cases h.1
  | begin | commit | rollback | deleteScan | updateScan => cases h

/-- A row that a transaction sees is committed, or one of its own. -/
theorem mem_view {row : MfaRecoveryCode} (h : row ∈ (view v i).codes) :
    (∃ row₀ ∈ v.committed.codes, Later row₀ row ∧ (i, .delete row.id) ∉ v.pending ∧
      ∀ now, (i, .use row.id now) ∈ v.pending → row.usedAt ≠ none) ∨
    ∃ row₀, (i, .insert row₀) ∈ v.pending ∧ Later row₀ row := by
  rcases RecoveryTable.mem_foldl h with ⟨row₀, hrow₀, hlater, hdelete, huse⟩ | ⟨row₀, hrow₀, hlater⟩
  · exact .inl ⟨row₀, hrow₀, hlater, fun hw => hdelete (Store.mem_own.mpr hw),
      fun now hw => huse now (Store.mem_own.mpr hw)⟩
  · exact .inr ⟨row₀, Store.mem_own.mp hrow₀, hlater⟩

/-- A committed row about which it has written nothing, it sees. -/
theorem mem_view_of_ne {row : MfaRecoveryCode} (h : row ∈ v.committed.codes)
    (hne : ∀ w, (i, w) ∈ v.pending → w.id ≠ row.id) : row ∈ (view v i).codes :=
  RecoveryTable.mem_foldl_of_ne h fun w hw => hne w (Store.mem_own.mp hw)

/-- Another transaction's pending write is about another row. -/
theorem Writes.alone {w w' : CodeWrite} (h : Writes v i x c r w) {k : Nat} (hk : k ≠ i)
    (hw : (k, w') ∈ v.pending) : w'.id ≠ w.id := by
  have hothers : w' ∈ v.others i := Store.mem_others.mpr ⟨k, hk, Store.mem_own.mpr hw⟩
  cases c with
  | deleteRow userId id =>
    cases r with
    | error e => cases h
    | ok r =>
      obtain ⟨rfl, hlocked⟩ := h
      simpa [CodeWrite.id] using List.any_eq_false.mp hlocked w' hothers
  | updateRow userId codeHash id =>
    cases r with
    | error e => cases h
    | ok updated =>
      cases updated with
      | false => cases h
      | true =>
        obtain ⟨rfl, hlocked, -⟩ := h
        simpa [CodeWrite.id] using List.any_eq_false.mp hlocked w' hothers
  | insert userId codeHash =>
    cases r with
    | error e => cases h
    | ok row =>
      obtain ⟨rfl, hawaits, -⟩ := h
      have hne := List.any_eq_false.mp hawaits w' hothers
      rw [Bool.or_eq_true, not_or] at hne
      simpa [CodeWrite.id] using hne.1
  | begin | commit | rollback | deleteScan | updateScan => cases h

theorem mem_pending_of_answer (h : answer v i c x = some (v', r)) {k : Nat} {w : CodeWrite}
    (hw : (k, w) ∈ v'.pending) : (k, w) ∈ v.pending ∨ k = i ∧ Writes v i x c r w := by
  rcases answer_cases h with ⟨rfl, -⟩ | ⟨-, -, rfl⟩ | ⟨w', hwrites, hwrite⟩ | ⟨-, -, rfl⟩ | ⟨rfl, -⟩
  · exact .inl hw
  · exact .inl hw
  · rw [Store.write_pending hwrite] at hw
    rcases List.mem_append.mp hw with hw | hw
    · exact .inl hw
    · cases List.mem_singleton.mp hw
      exact .inr ⟨rfl, hwrites⟩
  · exact .inl (Store.mem_rollback_pending.mp hw).1
  · exact .inl (Store.mem_rollback_pending.mp hw).1

/-- What is pending stays, but for what the end of its own transaction takes away. -/
theorem pending_of_answer (h : answer v i c x = some (v', r)) {k : Nat} {w : CodeWrite}
    (hw : (k, w) ∈ v.pending) (hk : k ≠ i ∨ c.isEnd = false) : (k, w) ∈ v'.pending := by
  rcases answer_cases h with ⟨rfl, -⟩ | ⟨-, -, rfl⟩ | ⟨w', -, hwrite⟩ | ⟨rfl, -, rfl⟩ |
    ⟨rfl, rfl | ⟨rfl, -⟩⟩
  · exact hw
  · exact hw
  · rw [Store.write_pending hwrite]
    exact List.mem_append_left _ hw
  · exact Store.mem_rollback_pending.mpr ⟨hw, hk.resolve_right nofun⟩
  · exact Store.mem_rollback_pending.mpr ⟨hw, hk.resolve_right nofun⟩
  · exact Store.mem_rollback_pending.mpr ⟨hw, hk.resolve_right nofun⟩

/-- A transaction that has ended has nothing pending. -/
theorem not_pending_of_isEnd (h : answer v i c x = some (v', r)) (hc : c.isEnd = true) (w : CodeWrite) :
    (i, w) ∉ v'.pending := by
  intro hw
  rcases answer_cases h with ⟨rfl, hfinds⟩ | ⟨rfl, -⟩ | ⟨w', hwrites, -⟩ | ⟨-, -, rfl⟩ | ⟨rfl, -⟩
  · cases c with
    | commit | rollback => cases hfinds
    | _ => cases hc
  · cases hc
  · cases c with
    | commit | rollback => cases hwrites
    | _ => cases hc
  · exact (Store.mem_rollback_pending.mp hw).2 rfl
  · exact (Store.mem_rollback_pending.mp hw).2 rfl

/-- The committed rows change only when a transaction commits. -/
theorem committed_of_answer (h : answer v i c x = some (v', r)) :
    v'.committed = v.committed ∨
      c = .commit ∧ x.reply ≠ .failed ∧ v'.committed = view v i := by
  rcases answer_cases h with ⟨rfl, -⟩ | ⟨-, -, rfl⟩ | ⟨w, -, hwrite⟩ | ⟨hc, hx, rfl⟩ | ⟨rfl, -⟩
  · exact .inl rfl
  · exact .inl rfl
  · exact .inl (Store.write_committed hwrite)
  · exact .inr ⟨hc, hx, rfl⟩
  · exact .inl rfl

/-- What a statement has found or written, by its answer. -/
theorem finds_or_writes (h : answer v i c x = some (v', r)) (hc : c.isEnd = false) :
    Finds v i c r ∨ ∃ w, Writes v i x c r w ∧ (i, w) ∈ v'.pending := by
  rcases answer_cases h with ⟨-, hfinds⟩ | ⟨rfl, -⟩ | ⟨w, hwrites, hwrite⟩ | ⟨rfl, -⟩ |
    ⟨-, rfl | ⟨rfl, -⟩⟩
  · exact .inl hfinds
  · exact .inl trivial
  · refine .inr ⟨w, hwrites, ?_⟩
    rw [Store.write_pending hwrite]
    exact List.mem_append_right _ List.mem_cons_self
  · cases hc
  · cases hc
  · cases hc

end RecoveryStore

/-! ## What the transactions send -/

/-- The trace with one more call. -/
def grow (τ : Trace codes) (c : codes.Call) (r : codes.Answer c) : Trace codes := τ ++ [⟨c, r⟩]

/-- The transaction has not been told to end. -/
def Ongoing (τ : Trace codes) : Prop := ∀ e ∈ τ, CodeStatement.isEnd e.1 = false

/-- The rows in the snapshots of a transaction's `DELETE`. -/
def scanned (τ : Trace codes) : List Uuid :=
  τ.flatMap fun
    | ⟨.deleteScan _, .ok ids⟩ => ids
    | _ => []

/-- What a transaction sends and when. A rotation goes through all the rows of its snapshot before
it inserts or commits. -/
def CodesJob.Sends : CodesJob → Trace codes → CodeStatement → Prop
  | .rotateBatch userId _, τ, c =>
    match c with
    | .begin | .rollback => True
    | .deleteScan u => u = userId ∧ ∀ e ∈ τ, ∀ u h, e.1 ≠ .insert u h
    | .deleteRow u id => u = userId ∧ id ∈ scanned τ
    | .insert u _ => u = userId
    | .commit => Ongoing τ ∧ ∀ id ∈ scanned τ, ⟨.deleteRow userId id, .ok ()⟩ ∈ τ
    | .updateScan .. | .updateRow .. => False
  | .tryConsume userId codeHash, τ, c =>
    match c with
    | .begin | .rollback => True
    | .updateScan .. => True
    | .updateRow u h _ => u = userId ∧ h = codeHash
    | .commit => Ongoing τ
    | .deleteScan _ | .deleteRow .. | .insert .. => False

/-- A redemption that reports success has updated a row and committed. -/
def CodesJob.Ends : CodesJob → Trace codes → Except PlatformError CodesReply → Prop
  | .tryConsume userId codeHash, τ, .ok (.consumed true) =>
    ∃ τ₁ id, τ = τ₁ ++ [⟨.commit, .ok ()⟩] ∧ ⟨.updateRow userId codeHash id, .ok true⟩ ∈ τ₁
  | _, _, _ => True

section Sends

variable {j : CodesJob} {τ : Trace codes} {userId id : Uuid} {codeHash : List UInt8}

theorem CodesJob.Sends.insert (h : j.Sends τ (.insert userId codeHash)) :
    ∃ codeHashes, j = .rotateBatch userId codeHashes := by
  cases j with
  | rotateBatch u codeHashes =>
    obtain rfl : userId = u := h
    exact ⟨codeHashes, rfl⟩
  | tryConsume => cases h

theorem CodesJob.Sends.deleteScan (h : j.Sends τ (.deleteScan userId)) :
    ∀ e ∈ τ, ∀ u h, e.1 ≠ .insert u h := by
  cases j with
  | rotateBatch u codeHashes => exact h.2
  | tryConsume => cases h

theorem CodesJob.Sends.deleteRow (h : j.Sends τ (.deleteRow userId id)) :
    (∃ codeHashes, j = .rotateBatch userId codeHashes) ∧ id ∈ scanned τ := by
  cases j with
  | rotateBatch u codeHashes =>
    obtain ⟨rfl, hid⟩ := h
    exact ⟨⟨codeHashes, rfl⟩, hid⟩
  | tryConsume => cases h

theorem CodesJob.Sends.updateRow (h : j.Sends τ (.updateRow userId codeHash id)) :
    j = .tryConsume userId codeHash := by
  cases j with
  | rotateBatch => cases h
  | tryConsume u hash =>
    obtain ⟨rfl, rfl⟩ := h
    rfl

theorem CodesJob.Sends.commit (h : j.Sends τ .commit) : Ongoing τ := by
  cases j with
  | rotateBatch => exact h.1
  | tryConsume => exact h

end Sends

theorem mem_grow {τ : Trace codes} {c : CodeStatement} {r : c.Answer}
    {e : Σ c : codes.Call, codes.Answer c} : e ∈ grow τ c r ↔ e ∈ τ ∨ e = ⟨c, r⟩ := by
  rw [grow, List.mem_append, List.mem_singleton]

theorem ongoing_grow {τ : Trace codes} {c : CodeStatement} {r : c.Answer} :
    Ongoing (grow τ c r) ↔ Ongoing τ ∧ c.isEnd = false := by
  constructor
  · intro h
    exact ⟨fun e he => h e (mem_grow.mpr (.inl he)), h ⟨c, r⟩ (mem_grow.mpr (.inr rfl))⟩
  · rintro ⟨h, hc⟩ e he
    rcases mem_grow.mp he with he | rfl
    · exact h e he
    · exact hc

theorem ongoing_begin : Ongoing [⟨.begin, .ok ()⟩] := by
  intro e he
  cases List.mem_singleton.mp he
  rfl

theorem mem_scanned {τ : Trace codes} {id : Uuid} :
    id ∈ scanned τ ↔ ∃ u ids, ⟨.deleteScan u, .ok ids⟩ ∈ τ ∧ id ∈ ids := by
  constructor
  · intro h
    obtain ⟨⟨c, r⟩, he, hid⟩ := List.mem_flatMap.mp h
    split at hid
    · next u ids heq =>
      cases heq
      exact ⟨u, ids, he, hid⟩
    · cases hid
  · rintro ⟨u, ids, he, hid⟩
    exact List.mem_flatMap.mpr ⟨_, he, hid⟩

/-- Only a snapshot adds to what was scanned. -/
theorem scanned_grow {τ : Trace codes} {c : CodeStatement} {r : c.Answer}
    (hc : ∀ u, c ≠ .deleteScan u) : scanned (grow τ c r) = scanned τ := by
  have hnone : scanned [⟨c, r⟩] = [] := by
    cases c with
    | deleteScan u => exact absurd rfl (hc u)
    | _ => rfl
  rw [grow, scanned, List.flatMap_append]
  exact (congrArg _ hnone).trans (List.append_nil _)

section Spec

variable {P : Trace codes → codes.Call → Prop} {τ : Trace codes} {α : Type}

theorem follows_sendCode {p : Program codes (Except SqlError α)} {A : Trace codes → α → Prop}
    (h : Follows grow P (fun τ r => ∀ a, r = .ok a → A τ a) p τ) :
    Follows grow P (Post A fun _ _ => True) (sendCode p).run τ := by
  refine follows_bind h ?_
  rintro τ (e | a) h
  · trivial
  · exact h a rfl

/-- The body starts right after `BEGIN`, and whatever happens a failed one is rolled back. -/
theorem follows_codesTransaction {body : CodesDb α} {A : Trace codes → α → Prop}
    (hbegin : P [] .begin) (hrollback : ∀ τ, P τ .rollback)
    (hbody : Follows grow P (Post A fun _ _ => True) body.run [⟨.begin, .ok ()⟩]) :
    Follows grow P (Post A fun _ _ => True) (codesTransaction body).run [] := by
  refine follows_bindE (A := fun τ _ => τ = [⟨.begin, .ok ()⟩]) (E := fun _ _ => True)
    (follows_sendCode ⟨hbegin, ?_⟩) (fun τ _ hτ => ?_) fun _ _ _ => trivial
  · rintro r a rfl
    rfl
  · subst hτ
    refine follows_bind hbody ?_
    rintro τ (e | a) h
    · exact ⟨hrollback τ, fun _ => trivial⟩
    · exact h

variable {userId : Uuid}

theorem follows_rotateBatch (codeHashes : List (List UInt8)) :
    Follows grow (CodesJob.rotateBatch userId codeHashes).Sends
      (Post (fun _ _ => True) fun _ _ => True)
      (RecoveryCodeRepository.rotateBatch userId codeHashes).run [] := by
  -- with what is left of the snapshot
  let Deleting (left : List Uuid) (τ : Trace codes) : Prop :=
    Ongoing τ ∧ (∀ id ∈ left, id ∈ scanned τ) ∧
      ∀ id ∈ scanned τ, id ∈ left ∨ ⟨.deleteRow userId id, .ok ()⟩ ∈ τ
  refine follows_codesTransaction trivial (fun _ => trivial) ?_
  refine follows_bindE (A := fun τ ids => Deleting ids τ) (E := fun _ _ => True)
    (follows_sendCode ⟨⟨rfl, ?_⟩, ?_⟩) (fun τ ids hτ => ?_) fun _ _ _ => trivial
  · intro e he u h
    cases List.mem_singleton.mp he
    exact nofun
  · rintro r ids rfl
    refine ⟨ongoing_grow.mpr ⟨ongoing_begin, rfl⟩, fun id hid => ?_, fun id hid => .inl ?_⟩
    · exact mem_scanned.mpr ⟨userId, ids, mem_grow.mpr (.inr rfl), hid⟩
    · obtain ⟨u, ids', hmem, hid⟩ := mem_scanned.mp hid
      rcases mem_grow.mp hmem with hmem | heq
      · cases List.mem_singleton.mp hmem
      · cases heq
        exact hid
  refine follows_bindE (A := fun τ _ => Deleting [] τ) (E := fun _ _ => True)
    (follows_forM (K := Deleting) ?_ ids hτ) (fun τ _ hτ => ?_) fun _ _ _ => trivial
  · intro id left τ ⟨hongoing, hleft, hdone⟩
    refine follows_sendCode ⟨⟨rfl, hleft id List.mem_cons_self⟩, ?_⟩
    rintro r _ rfl
    have hscanned : scanned (grow τ (.deleteRow userId id) (.ok ())) = scanned τ := by
      refine scanned_grow ?_
      exact nofun
    refine ⟨ongoing_grow.mpr ⟨hongoing, rfl⟩, fun id' hid => ?_, fun id' hid => ?_⟩
    · rw [hscanned]
      exact hleft id' (List.mem_cons_of_mem _ hid)
    · rw [hscanned] at hid
      rcases hdone id' hid with hid | htold
      · rcases List.mem_cons.mp hid with rfl | hid
        · exact .inr (mem_grow.mpr (.inr rfl))
        · exact .inl hid
      · exact .inr (mem_grow.mpr (.inl htold))
  refine follows_bindE (A := fun τ _ => Deleting [] τ) (E := fun _ _ => True)
    (follows_mapM (K := fun _ _ τ => Deleting [] τ) ?_ codeHashes [] hτ) (fun τ rows hτ => ?_)
    fun _ _ _ => trivial
  · intro hash left rows τ ⟨hongoing, _, hdone⟩
    refine follows_sendCode ⟨rfl, ?_⟩
    rintro r row rfl
    have hscanned : scanned (grow τ (.insert userId hash) (.ok row)) = scanned τ := by
      refine scanned_grow ?_
      exact nofun
    refine ⟨ongoing_grow.mpr ⟨hongoing, rfl⟩, fun id hid => ?_, fun id hid => .inr ?_⟩
    · cases hid
    · rw [hscanned] at hid
      exact mem_grow.mpr (.inl ((hdone id hid).resolve_left List.not_mem_nil))
  obtain ⟨hongoing, -, hdone⟩ := hτ
  refine follows_bindE (A := fun _ _ => True) (E := fun _ _ => True) (follows_sendCode
    ⟨⟨hongoing, fun id hid => (hdone id hid).resolve_left List.not_mem_nil⟩, ?_⟩)
    (fun _ _ _ => trivial) fun _ _ _ => trivial
  exact fun _ _ _ => trivial

theorem follows_tryConsume (codeHash : List UInt8) :
    Follows grow (CodesJob.tryConsume userId codeHash).Sends
      (Post (fun τ consumed => consumed = true → ∃ τ₁ id, τ = τ₁ ++ [⟨.commit, .ok ()⟩] ∧
        ⟨.updateRow userId codeHash id, .ok true⟩ ∈ τ₁) fun _ _ => True)
      (RecoveryCodeRepository.tryConsume userId codeHash).run [] := by
  -- a row that was returned was updated
  let Updating (returned : List Bool) (τ : Trace codes) : Prop :=
    Ongoing τ ∧ (returned.any id = true →
      ∃ id, ⟨.updateRow userId codeHash id, .ok true⟩ ∈ τ)
  refine follows_codesTransaction trivial (fun _ => trivial) ?_
  refine follows_bindE (A := fun τ _ => Updating [] τ) (E := fun _ _ => True)
    (follows_sendCode ⟨trivial, ?_⟩) (fun τ ids hτ => ?_) fun _ _ _ => trivial
  · rintro r ids rfl
    exact ⟨ongoing_grow.mpr ⟨ongoing_begin, rfl⟩, nofun⟩
  refine follows_bindE (A := fun τ returned => Updating returned τ) (E := fun _ _ => True)
    (follows_mapM (K := fun _ returned τ => Updating returned τ) ?_ ids [] hτ)
    (fun τ returned hτ => ?_) fun _ _ _ => trivial
  · intro rowId left returned τ ⟨hongoing, hreturned⟩
    refine follows_sendCode ⟨⟨rfl, rfl⟩, ?_⟩
    rintro r updated rfl
    refine ⟨ongoing_grow.mpr ⟨hongoing, rfl⟩, fun hany => ?_⟩
    rw [List.any_append, Bool.or_eq_true] at hany
    rcases hany with hany | hupdated
    · obtain ⟨id, hid⟩ := hreturned hany
      exact ⟨id, mem_grow.mpr (.inl hid)⟩
    · obtain rfl : updated = true := by simpa using hupdated
      exact ⟨rowId, mem_grow.mpr (.inr rfl)⟩
  obtain ⟨hongoing, hreturned⟩ := hτ
  refine follows_bindE (A := fun τ' _ => τ' = τ ++ [⟨.commit, .ok ()⟩]) (E := fun _ _ => True)
    (follows_sendCode ⟨hongoing, ?_⟩) (fun τ' _ hτ' => ?_) fun _ _ _ => trivial
  · rintro r _ rfl
    rfl
  · intro hany
    obtain ⟨id, hid⟩ := hreturned hany
    exact ⟨τ, id, hτ', hid⟩

theorem codesJob_meets (j : CodesJob) :
    Meets j.Sends (fun _ _ _ => True) j.Ends j.program [] := by
  refine meets_of_follows (f := fun τ : Trace codes => τ)
    (fun h c r => (rfl : _ = grow h c r)) ?_
  cases j with
  | rotateBatch userId codeHashes =>
    refine follows_bindE (follows_rotateBatch codeHashes) (fun _ _ _ => trivial) fun _ _ _ => trivial
  | tryConsume userId codeHash =>
    refine follows_bindE (follows_tryConsume codeHash) (fun τ consumed h => ?_) fun _ _ _ => trivial
    cases consumed with
    | true => exact h rfl
    | false => trivial

end Spec

end Kubinate.Identity
