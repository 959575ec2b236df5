import Kubinate.Secrets.Migration
import Kubinate.Secrets.Refinement

/-!
# Which migrations finish

The loop asks for the next page at an offset that grows by the size of the page before,
while the rows of that page have left the result. A run that nothing disturbs therefore
reaches every candidate only if the first page does.

* `completes_iff`: an undisturbed run migrates all candidates iff there are at most
  `batch_size` of them.
-/

namespace Kubinate.Secrets

open Platform Library

variable {V : Type}

/-- No call of the engine fails. -/
def VaultTransit.Succeeds (T : VaultTransit V) : Prop :=
  ∀ keyName plaintext v, ∃ v' v'' ciphertext, T.ensureKey keyName v = (v', .ok ()) ∧
    T.encrypt keyName plaintext v' = (v'', .ok ciphertext)

/-- Every row of pgcrypto decrypts under the key. -/
def SecretsTable.Decryptable (P : Pgcrypto) (kek : String) (t : SecretsTable) : Prop :=
  ∀ row ∈ t.rows, row.algorithm = pgpSymV1 → ∃ plaintext, row.decryptEnvelope P kek = .ok plaintext

/-- Nobody else writes, and no statement fails. -/
def quiet : Nat → Interference := fun _ => .none

/-- The run ends; it has migrated each of the rows it counted, and no row of pgcrypto is
left. -/
def Completes (P : Pgcrypto) (kek : String) (T : VaultTransit V) (keyPrefix : String)
    (batchSize : Nat) (db : SecretsDb) (vault : V) : Prop :=
  ∃ enough, ∀ fuel ≥ enough, Program.Ends (MigrationWorld.answer P kek T quiet)
    (fun w r => (∃ tally, r = .ok (some tally) ∧ tally.migrated = db.secrets.candidates.length) ∧
      w.updated.Perm (db.secrets.candidates.map (·.id)) ∧
      ∀ row ∈ w.db.secrets.rows, row.algorithm ≠ pgpSymV1)
    (migrate keyPrefix batchSize true fuel).run (.start db vault)

section Quiet

variable {P : Pgcrypto} {kek : String} {T : VaultTransit V} {keyPrefix : String} {batchSize : Nat}
  {w : MigrationWorld V}

theorem arrive_quiet : w.arrive quiet = { w with statements := w.statements + 1 } := by
  have hkept : w.db.secrets.delete (fun row => (quiet w.statements).deleted.contains row.id) =
      w.db.secrets := by
    refine SecretsTable.ext (List.filter_eq_self.mpr fun row _ => ?_)
    rfl
  rw [MigrationWorld.arrive, hkept]

/-- A row of pgcrypto after the update was one before. -/
theorem mem_of_mem_reseal {t : SecretsTable} {id : Uuid} {ciphertext : ByteArray} {row : SecretRow}
    (h : row ∈ (t.reseal id ciphertext vaultAlgorithmTag).rows) (halg : row.algorithm = pgpSymV1) :
    row ∈ t.rows := by
  obtain ⟨old, hold, rfl⟩ := List.mem_map.mp h
  by_cases hrow : (old.id == id && isCandidate old) = true
  · rw [if_pos hrow] at halg
    have htag : vaultAlgorithmTag = pgpSymV1 := halg
    exact absurd htag (by decide)
  · rw [if_neg hrow]
    exact hold

/-! ## One row -/

theorem answer_decryptRow {row : SecretRow} {id : Uuid} {plaintext : String}
    (hselect : w.db.secrets.select .superuser id = some row)
    (hplain : row.decryptEnvelope P kek = .ok plaintext) :
    w.answer P kek T quiet (.decryptRow id) =
      ({ w with statements := w.statements + 1 }, .ok plaintext) := by
  simp only [MigrationWorld.answer, arrive_quiet, hselect, hplain]
  rfl

theorem answer_updateRow {id : Uuid} {ciphertext : ByteArray} {algorithm : String} :
    w.answer P kek T quiet (.updateRow id ciphertext algorithm) =
      ({ w with statements := w.statements + 1 }.reseal id ciphertext algorithm, .ok ()) := by
  simp only [MigrationWorld.answer, arrive_quiet]
  rfl

theorem ends_migrateRow (hT : T.Succeeds) {row : SecretRow} {c : Candidate} {plaintext : String}
    (hrow : row ∈ w.db.secrets.rows) (hid : row.id = c.id)
    (hplain : row.decryptEnvelope P kek = .ok plaintext) :
    Program.Ends (MigrationWorld.answer P kek T quiet)
      (fun w' r => r = .ok .applied ∧ w'.updated = w.updated ++ [c.id] ∧
        ∃ ciphertext, w'.db.secrets = w.db.secrets.reseal c.id ciphertext vaultAlgorithmTag)
      (migrateRow keyPrefix c true).run w := by
  have hselect : w.db.secrets.select .superuser c.id = some row := by
    rw [← hid]
    exact SecretsTable.select_eq_some hrow rfl
  obtain ⟨v', v'', ciphertext, hensure, hencrypt⟩ :=
    hT (keyPrefix ++ "/" ++ c.organizationId.text) plaintext w.vault
  refine Program.ends_bindE (Q := fun w' r => r = .ok plaintext ∧
    w' = { w with statements := w.statements + 1 }) ?_ ?_ fun _ _ h => by cases h.1
  · exact ends_statement (ends_ask (answer_decryptRow hselect hplain) ⟨rfl, rfl⟩)
  rintro _ _ ⟨h, rfl⟩
  cases h
  refine Program.ends_bindE (Q := fun w' r => r = .ok () ∧
    w' = { w with vault := v', statements := w.statements + 1 }) ?_ ?_ fun _ _ h => by cases h.1
  · exact ends_transit (ends_ask (MigrationWorld.answer_ensureKey
      (w := { w with statements := w.statements + 1 }) hensure) ⟨rfl, rfl⟩)
  rintro _ _ ⟨h, rfl⟩
  refine Program.ends_bindE (Q := fun w' r => r = .ok ciphertext ∧
    w' = { w with vault := v'', statements := w.statements + 1 }) ?_ ?_ fun _ _ h => by cases h.1
  · exact ends_transit (ends_ask (MigrationWorld.answer_encrypt
      (w := { w with vault := v', statements := w.statements + 1 }) hencrypt) ⟨rfl, rfl⟩)
  rintro _ _ ⟨h, rfl⟩
  cases h
  refine Program.ends_bindE (Q := fun w' r => r = .ok () ∧ w'.updated = w.updated ++ [c.id] ∧
    w'.db.secrets = w.db.secrets.reseal c.id ciphertext.toUTF8 vaultAlgorithmTag) ?_ ?_
    fun _ _ h => by cases h.1
  · exact ends_statement (ends_ask answer_updateRow ⟨rfl, rfl, rfl⟩)
  · rintro w' _ ⟨-, hupdated, hsecrets⟩
    exact ⟨rfl, hupdated, _, hsecrets⟩

/-! ## One page -/

theorem ends_migrateBatch (hT : T.Succeeds) (rows : List Candidate) (tally : Tally)
    (hdecrypt : w.db.secrets.Decryptable P kek) (hrows : ∀ c ∈ rows, c.id ∈ w.db.secrets.candidateIds)
    (hnodup : (rows.map (·.id)).Nodup) :
    Program.Ends (MigrationWorld.answer P kek T quiet)
      (fun w' tally' => tally'.migrated = tally.migrated + rows.length ∧
        w'.updated = w.updated ++ rows.map (·.id) ∧ w'.db.secrets.Decryptable P kek ∧
        w'.db.secrets.candidateIds.length + rows.length = w.db.secrets.candidateIds.length)
      (migrateBatch keyPrefix true rows tally) w := by
  induction rows generalizing w tally with
  | nil => exact ⟨rfl, (List.append_nil _).symm, hdecrypt, rfl⟩
  | cons c rows ih =>
    rw [List.map_cons, List.nodup_cons] at hnodup
    obtain ⟨row, hrow, halg, hid⟩ := SecretsTable.mem_candidateIds.mp (hrows c List.mem_cons_self)
    obtain ⟨plaintext, hplain⟩ := hdecrypt row hrow halg
    refine Program.ends_bind.mpr ((ends_migrateRow hT hrow hid hplain).mono ?_)
    rintro w' r ⟨rfl, hupdated, ciphertext, hsecrets⟩
    have hids : w'.db.secrets.candidateIds = w.db.secrets.candidateIds.erase c.id := by
      rw [hsecrets, SecretsTable.candidateIds_reseal]
    have hdecrypt' : w'.db.secrets.Decryptable P kek := by
      intro row' hrow' halg'
      rw [hsecrets] at hrow'
      exact hdecrypt row' (mem_of_mem_reseal hrow' halg') halg'
    have hrest : ∀ c' ∈ rows, c'.id ∈ w'.db.secrets.candidateIds := by
      intro c' hc'
      have hne : c'.id ≠ c.id := fun h => hnodup.1 (h ▸ List.mem_map_of_mem hc')
      rw [hids]
      exact (List.mem_erase_of_ne hne).mpr (hrows c' (List.mem_cons_of_mem _ hc'))
    refine (ih (tally.count (.ok .applied)) hdecrypt' hrest hnodup.2).mono ?_
    rintro w'' tally' ⟨hmigrated, hupdated', hdecrypt'', hlength⟩
    have hpos := List.length_pos_of_mem (hrows c List.mem_cons_self)
    rw [hids, List.length_erase_of_mem (hrows c List.mem_cons_self)] at hlength
    refine ⟨?_, ?_, hdecrypt'', ?_⟩
    · rw [hmigrated, List.length_cons]
      show tally.migrated + 1 + rows.length = _
      omega
    · rw [hupdated', hupdated, List.append_assoc, List.map_cons, List.singleton_append]
    · rw [List.length_cons]
      omega

/-- A page is a sublist of the candidates. -/
theorem page_spec (t : SecretsTable) (limit offset : Nat) :
    (∀ c ∈ (t.candidates.drop offset).take limit, c.id ∈ t.candidateIds) ∧
      (((t.candidates.drop offset).take limit).map (·.id)).Nodup ∧
      ((t.candidates.drop offset).take limit).length =
        min limit (t.candidateIds.length - offset) := by
  have hsub : ((t.candidates.drop offset).take limit).Sublist t.candidates :=
    (List.take_sublist _ _).trans (List.drop_sublist _ _)
  refine ⟨fun c hc => ?_, ?_, ?_⟩
  · exact (t.perm_candidates.mem_iff).mp (List.mem_map_of_mem (hsub.subset hc))
  · exact (t.perm_candidates.nodup_iff.mpr t.nodup_candidateIds).sublist (hsub.map _)
  · rw [List.length_take, List.length_drop, SecretsTable.length_candidates]

theorem answer_fetchBatch {limit offset : Nat} :
    w.answer P kek T quiet (.fetchBatch limit offset) =
      ({ w with statements := w.statements + 1 },
        .ok ((w.db.secrets.candidates.drop offset).take limit)) := by
  simp only [MigrationWorld.answer, arrive_quiet]
  rfl

/-- One round of the loop: it ends at an empty page, or migrates the page and goes on. -/
theorem ends_migrateLoop_succ (hT : T.Succeeds) {fuel offset : Nat} {tally : Tally}
    {R : MigrationWorld V → Except MigrateError (Option Tally) → Prop}
    (hdecrypt : w.db.secrets.Decryptable P kek)
    (hstop : min batchSize (w.db.secrets.candidateIds.length - offset) = 0 →
      R { w with statements := w.statements + 1 } (.ok (some tally)))
    (hgo : ∀ rows w' tally', rows = (w.db.secrets.candidates.drop offset).take batchSize →
      rows.length = min batchSize (w.db.secrets.candidateIds.length - offset) → 0 < rows.length →
      tally'.migrated = tally.migrated + rows.length →
      w'.updated = w.updated ++ rows.map (·.id) → w'.db.secrets.Decryptable P kek →
      w'.db.secrets.candidateIds.length + rows.length = w.db.secrets.candidateIds.length →
      Program.Ends (MigrationWorld.answer P kek T quiet) R
        (migrateLoop keyPrefix batchSize true fuel (offset + rows.length) tally').run w') :
    Program.Ends (MigrationWorld.answer P kek T quiet) R
      (migrateLoop keyPrefix batchSize true (fuel + 1) offset tally).run w := by
  obtain ⟨hmem, hnodup, hlength⟩ := page_spec w.db.secrets batchSize offset
  generalize hpage : (w.db.secrets.candidates.drop offset).take batchSize = rows at *
  refine Program.ends_bindE (Q := fun w' r => r = .ok rows ∧
    w' = { w with statements := w.statements + 1 }) ?_ ?_ fun _ _ h => by cases h.1
  · refine ends_statement (ends_ask answer_fetchBatch ⟨?_, rfl⟩)
    rw [hpage]
    rfl
  rintro _ _ ⟨h, rfl⟩
  cases h
  refine Program.ends_iteE.mpr ⟨fun hnil => ?_, fun hsome => ?_⟩
  · rw [List.isEmpty_iff.mp hnil] at hlength
    exact hstop hlength.symm
  have hpos : 0 < rows.length := by
    rw [List.isEmpty_iff] at hsome
    exact List.length_pos_iff.mpr hsome
  refine Program.ends_liftE ((ends_migrateBatch (w := { w with
    statements := w.statements + 1 }) hT rows tally hdecrypt hmem hnodup).mono ?_)
  rintro w' tally' ⟨hmigrated, hupdated, hdecrypt', hcount⟩
  exact hgo rows w' tally' rfl hlength hpos hmigrated hupdated hdecrypt' hcount

/-! ## All pages -/

/-- Behind an offset that is not zero there is always a row that no page will reach. -/
theorem ends_migrateLoop_left (hT : T.Succeeds) (fuel offset : Nat) (tally : Tally)
    (hdecrypt : w.db.secrets.Decryptable P kek) (hoffset : 0 < offset)
    (hleft : 0 < w.db.secrets.candidateIds.length) :
    Program.Ends (MigrationWorld.answer P kek T quiet)
      (fun w' _ => 0 < w'.db.secrets.candidateIds.length)
      (migrateLoop keyPrefix batchSize true fuel offset tally).run w := by
  induction fuel generalizing w offset tally with
  | zero => exact hleft
  | succ fuel ih =>
    refine ends_migrateLoop_succ hT hdecrypt (fun _ => hleft) ?_
    intro rows w' tally' _ hlength hpos _ _ hdecrypt' hcount
    exact ih (offset + rows.length) tally' hdecrypt' (by omega) (by omega)

theorem answer_countCandidates :
    w.answer P kek T quiet .countCandidates =
      ({ w with statements := w.statements + 1 }, .ok w.db.secrets.candidates.length) := by
  simp only [MigrationWorld.answer, arrive_quiet]
  rfl

/-- The run counts, and starts the loop if there is anything to do. -/
theorem ends_migrate {fuel : Nat} {R : MigrationWorld V → Except MigrateError (Option Tally) → Prop}
    (hnone : w.db.secrets.candidates.length = 0 →
      R { w with statements := w.statements + 1 } (.ok (some ⟨0, 0, 0⟩)))
    (hsome : w.db.secrets.candidates.length ≠ 0 →
      Program.Ends (MigrationWorld.answer P kek T quiet) R
        (migrateLoop keyPrefix batchSize true fuel 0 ⟨0, 0, 0⟩).run
        { w with statements := w.statements + 1 }) :
    Program.Ends (MigrationWorld.answer P kek T quiet) R
      (migrate keyPrefix batchSize true fuel).run w := by
  refine Program.ends_bindE (Q := fun w' r => r = .ok w.db.secrets.candidates.length ∧
    w' = { w with statements := w.statements + 1 }) ?_ ?_ fun _ _ h => by cases h.1
  · exact ends_statement (ends_ask answer_countCandidates ⟨rfl, rfl⟩)
  rintro _ _ ⟨h, rfl⟩
  cases h
  exact Program.ends_iteE.mpr ⟨hnone, hsome⟩

end Quiet

section Completes

variable {P : Pgcrypto} {kek : String} {T : VaultTransit V} {keyPrefix : String} {batchSize : Nat}
  {db : SecretsDb} {vault : V}

/-- With more candidates than a page holds, every run leaves one behind. -/
theorem not_completes_of_lt (hbatch : 0 < batchSize) (hdecrypt : db.secrets.Decryptable P kek)
    (hT : T.Succeeds) (hlt : batchSize < db.secrets.candidates.length) :
    ¬ Completes P kek T keyPrefix batchSize db vault := by
  rintro ⟨enough, hcompletes⟩
  rw [SecretsTable.length_candidates] at hlt
  have hleft : Program.Ends (MigrationWorld.answer P kek T quiet)
      (fun w' _ => 0 < w'.db.secrets.candidateIds.length)
      (migrate keyPrefix batchSize true enough).run (.start db vault) := by
    refine ends_migrate (fun hnone => ?_) fun _ => ?_
    · rw [SecretsTable.length_candidates] at hnone
      have : db.secrets.candidateIds.length = 0 := hnone
      omega
    cases enough with
    | zero =>
      show 0 < db.secrets.candidateIds.length
      omega
    | succ fuel =>
      refine ends_migrateLoop_succ hT hdecrypt (fun hstop => ?_) ?_
      · have : min batchSize (db.secrets.candidateIds.length - 0) = 0 := hstop
        omega
      · intro rows w' tally' _ hlength hpos _ _ hdecrypt' hcount
        have hlength : rows.length = min batchSize (db.secrets.candidateIds.length - 0) := hlength
        have hcount : _ + rows.length = db.secrets.candidateIds.length := hcount
        exact ends_migrateLoop_left hT fuel _ tally' hdecrypt' (by omega) (by omega)
  obtain ⟨id, hid⟩ := List.exists_mem_of_length_pos hleft
  obtain ⟨row, hrow, halg, -⟩ := SecretsTable.mem_candidateIds.mp hid
  exact (hcompletes enough le_rfl).2.2 row hrow halg

/-- With at most one page of candidates, the second page is empty. -/
theorem completes_of_le (hbatch : 0 < batchSize) (hdecrypt : db.secrets.Decryptable P kek)
    (hT : T.Succeeds) (hle : db.secrets.candidates.length ≤ batchSize) :
    Completes P kek T keyPrefix batchSize db vault := by
  have hids := db.secrets.length_candidates
  refine ⟨2, fun fuel hfuel => ?_⟩
  obtain ⟨fuel, rfl⟩ : ∃ n, fuel = n + 1 + 1 := ⟨fuel - 2, by omega⟩
  refine ends_migrate (fun hnone => ?_) fun hsome => ?_
  · have hnil : db.secrets.candidates = [] := List.length_eq_zero_iff.mp hnone
    refine ⟨⟨_, rfl, by rw [hnil]; rfl⟩, by rw [hnil]; exact List.Perm.refl _, ?_⟩
    intro row hrow halg
    have hpos := List.length_pos_of_mem (SecretsTable.mem_candidateIds.mpr ⟨row, hrow, halg, rfl⟩)
    have hids' : (0 : Nat) = db.secrets.candidateIds.length := by rw [← hids, hnil]; rfl
    exact absurd hids'.symm (Nat.ne_of_gt hpos)
  refine ends_migrateLoop_succ hT hdecrypt (fun hstop => ?_) ?_
  · have hstop : min batchSize (db.secrets.candidateIds.length - 0) = 0 := hstop
    have hsome : db.secrets.candidates.length ≠ 0 := hsome
    omega
  · intro rows w' tally' hrows hlength hpos hmigrated hupdated hdecrypt' hcount
    have hall : rows = db.secrets.candidates := by
      rw [hrows]
      exact List.take_of_length_le hle
    have hcount : w'.db.secrets.candidateIds.length + rows.length =
      db.secrets.candidateIds.length := hcount
    have hnone : w'.db.secrets.candidateIds.length = 0 := by
      rw [hall] at hcount
      omega
    refine ends_migrateLoop_succ hT hdecrypt' (fun _ => ?_) ?_
    · refine ⟨⟨tally', rfl, ?_⟩, ?_, ?_⟩
      · rw [hmigrated, hall]
        exact Nat.zero_add _
      · show List.Perm w'.updated _
        rw [hupdated, hall]
        exact List.Perm.refl _
      · intro row hrow halg
        have := List.length_pos_of_mem (SecretsTable.mem_candidateIds.mpr ⟨row, hrow, halg, rfl⟩)
        have : 0 < w'.db.secrets.candidateIds.length := this
        omega
    · intro rows' _ _ _ hlength' hpos'
      omega

end Completes

/-- An undisturbed run finishes the migration iff one page holds all candidates. -/
theorem completes_iff (P : Pgcrypto) (kek : String) (T : VaultTransit V) (keyPrefix : String)
    (batchSize : Nat) (db : SecretsDb) (vault : V) (hbatch : 0 < batchSize)
    (hdecrypt : db.secrets.Decryptable P kek) (hT : T.Succeeds) :
    Completes P kek T keyPrefix batchSize db vault ↔
      db.secrets.candidates.length ≤ batchSize := by
  constructor
  · intro hcompletes
    by_contra hlt
    exact not_completes_of_lt hbatch hdecrypt hT (by omega) hcompletes
  · exact completes_of_le hbatch hdecrypt hT

/-! ## A table of two secrets -/

theorem succeeds_inMemoryVaultTransit : inMemoryVaultTransit.Succeeds :=
  fun _ _ _ => ⟨_, _, _, rfl, InMemoryVault.encrypt_of_mem List.mem_cons_self⟩

def clearStore : PgcryptoStore := ⟨clearPgcrypto, "kek"⟩

/-- Two secrets of one organization, as the store of pgcrypto writes them. -/
def twoSecrets : SecretsDb where
  organizations := [1]
  secrets :=
    ⟨[clearStore.envelope 1 "first" ⟨10, 0, .empty, .empty, .empty⟩,
      clearStore.envelope 1 "second" ⟨11, 0, .empty, .empty, .empty⟩], by decide⟩
  referenced := []

theorem decryptable_twoSecrets : twoSecrets.secrets.Decryptable clearPgcrypto "kek" := by
  have hall : ∀ plaintext draw, (clearStore.envelope 1 plaintext draw).decryptEnvelope clearPgcrypto
      "kek" = .ok plaintext := by
    intro plaintext draw
    simp only [SecretRow.decryptEnvelope, PgcryptoStore.envelope, clearStore,
      lawful_clearPgcrypto.decrypt_encrypt]
  intro row hrow _
  simp only [twoSecrets, List.mem_cons, List.not_mem_nil, or_false] at hrow
  rcases hrow with rfl | rfl
  · exact ⟨_, hall _ _⟩
  · exact ⟨_, hall _ _⟩

/-- One page holds both. -/
theorem completes_twoSecrets :
    Completes clearPgcrypto "kek" inMemoryVaultTransit "kubinate" 2 twoSecrets InMemoryVault.new :=
  (completes_iff clearPgcrypto "kek" inMemoryVaultTransit "kubinate" 2 twoSecrets InMemoryVault.new
    (by decide) decryptable_twoSecrets succeeds_inMemoryVaultTransit).mpr (by decide)

/-- A page of one row leaves the second secret with pgcrypto. -/
theorem not_completes_twoSecrets :
    0 < 1 ∧ twoSecrets.secrets.Decryptable clearPgcrypto "kek" ∧ inMemoryVaultTransit.Succeeds ∧
      ¬ Completes clearPgcrypto "kek" inMemoryVaultTransit "kubinate" 1 twoSecrets
        InMemoryVault.new :=
  ⟨by decide, decryptable_twoSecrets, succeeds_inMemoryVaultTransit,
    not_completes_of_lt (by decide) decryptable_twoSecrets succeeds_inMemoryVaultTransit
      (by decide)⟩

end Kubinate.Secrets
