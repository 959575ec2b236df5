import Mathlib.Data.List.Sort
import Kubinate.Library.Program
import Kubinate.Secrets.Stores

/-!
# The migration to Vault

`crates/vault-migrate/src/main.rs`: the rows that pgcrypto encrypted are read page by page,
encrypted again by the transit engine and written back.

The program runs as a superuser. While it runs, the API may delete secrets, and every
statement may fail; `Interference` says what happens at each statement. The failures of the
transit engine are its own.
-/

namespace Kubinate.Secrets

open Platform Library

/-! ## The calls -/

/-- What the batch query returns of a row: `SecretRow` of the migration. -/
structure Candidate where
  id : Uuid
  organizationId : Uuid
deriving DecidableEq, Repr

inductive MigrateCall where
  | countCandidates
  | fetchBatch (limit offset : Nat)
  | decryptRow (id : Uuid)
  | ensureKey (keyName : String)
  | encrypt (keyName plaintext : String)
  | updateRow (id : Uuid) (ciphertext : ByteArray) (algorithm : String)

@[reducible] def MigrateCall.Answer : MigrateCall → Type
  | .countCandidates => Except String Nat
  | .fetchBatch _ _ => Except String (List Candidate)
  | .decryptRow _ => Except String String
  | .ensureKey _ => Except SecretError Unit
  | .encrypt _ _ => Except SecretError String
  | .updateRow _ _ _ => Except String Unit

abbrev migration : Interface where
  Call := MigrateCall
  Answer := MigrateCall.Answer

/-- `anyhow::Error`: a failed statement with its context, or an error of the transit engine. -/
inductive MigrateError where
  | statement (context text : String)
  | transit (error : SecretError)
deriving DecidableEq, Repr

inductive MigrateOutcome where
  | applied
  | dryRun
deriving DecidableEq, Repr

def ask (c : MigrateCall) : Program migration c.Answer := Program.perform (I := migration) c

/-- A statement with `.context(..)`. -/
def statement {α : Type} (context : String) (p : Program migration (Except String α)) :
    ExceptT MigrateError (Program migration) α :=
  ExceptT.mk (Except.mapError (MigrateError.statement context) <$> p)

def transit {α : Type} (p : Program migration (Except SecretError α)) :
    ExceptT MigrateError (Program migration) α :=
  ExceptT.mk (Except.mapError MigrateError.transit <$> p)

/-! ## The program -/

def migrateRow (keyPrefix : String) (row : Candidate) (apply : Bool) :
    ExceptT MigrateError (Program migration) MigrateOutcome := do
  let plaintext ← statement ("pgp_sym_decrypt for secret " ++ row.id.text)
    (ask (.decryptRow row.id))
  if !apply then return .dryRun
  let keyName := keyPrefix ++ "/" ++ row.organizationId.text
  transit (ask (.ensureKey keyName))
  let vaultCiphertext ← transit (ask (.encrypt keyName plaintext))
  statement ("update secrets row " ++ row.id.text)
    (ask (.updateRow row.id vaultCiphertext.toUTF8 vaultAlgorithmTag))
  return .applied

/-- The counters of the run. -/
structure Tally where
  migrated : Nat
  skipped : Nat
  errors : Nat
deriving DecidableEq, Repr

def Tally.count (tally : Tally) : Except MigrateError MigrateOutcome → Tally
  | .ok .applied => { tally with migrated := tally.migrated + 1 }
  | .ok .dryRun => { tally with skipped := tally.skipped + 1 }
  | .error _ => { tally with errors := tally.errors + 1 }

/-- `for row in &rows` -/
def migrateBatch (keyPrefix : String) (apply : Bool) :
    List Candidate → Tally → Program migration Tally
  | [], tally => pure tally
  | row :: rows, tally => do
    let outcome ← (migrateRow keyPrefix row apply).run
    migrateBatch keyPrefix apply rows (tally.count outcome)

/-- The loop over the pages, for at most `fuel` pages; `none` when the fuel runs out. -/
def migrateLoop (keyPrefix : String) (batchSize : Nat) (apply : Bool) :
    (fuel offset : Nat) → Tally → ExceptT MigrateError (Program migration) (Option Tally)
  | 0, _, _ => return none
  | fuel + 1, offset, tally => do
    let rows ← statement "fetch batch" (ask (.fetchBatch batchSize offset))
    if rows.isEmpty then return some tally
    let tally ← ExceptT.lift (migrateBatch keyPrefix apply rows tally)
    migrateLoop keyPrefix batchSize apply fuel (offset + rows.length) tally

/-- `main`, from the count of the candidates on. The exit code is 1 when `errors` is
positive or when the program fails. -/
def migrate (keyPrefix : String) (batchSize : Nat) (apply : Bool) (fuel : Nat) :
    ExceptT MigrateError (Program migration) (Option Tally) := do
  let total ← statement "count pgcrypto rows" (ask .countCandidates)
  if total = 0 then return some ⟨0, 0, 0⟩
  migrateLoop keyPrefix batchSize apply fuel 0 ⟨0, 0, 0⟩

/-! ## The world -/

/-- How a statement fails: before it takes effect, or with its reply lost after it did. -/
inductive Failure where
  | refused (text : String)
  | replyLost (text : String)
deriving DecidableEq, Repr

def Failure.text : Failure → String
  | .refused text => text
  | .replyLost text => text

/-- What happens at a statement: the secrets that the API has deleted since the statement
before, and whether the statement fails. -/
structure Interference where
  deleted : List Uuid
  failure : Option Failure

def Interference.none : Interference := ⟨[], .none⟩

/-- `statements` counts the statements so far, and `updated` are the rows that an `UPDATE` of
the migration has reached the database for. -/
structure MigrationWorld (V : Type) where
  db : SecretsDb
  vault : V
  statements : Nat
  updated : List Uuid

def isCandidate (row : SecretRow) : Bool := row.algorithm == pgpSymV1

namespace SecretsTable

/-- `SELECT id, organization_id FROM secrets WHERE algorithm = 'pgp_sym_v1' ORDER BY id` -/
def candidates (t : SecretsTable) : List Candidate :=
  ((t.rows.filter isCandidate).map fun row => ⟨row.id, row.organizationId⟩).insertionSort
    fun a b => a.id.toNat ≤ b.id.toNat

/-- `UPDATE secrets SET .. WHERE id = $1 AND algorithm = 'pgp_sym_v1'` -/
def reseal (t : SecretsTable) (id : Uuid) (ciphertext : ByteArray) (algorithm : String) :
    SecretsTable :=
  t.update (fun row => row.id == id && isCandidate row)
    (fun row => { row with ciphertext := ciphertext, wrappedDek := .empty, algorithm := algorithm })
    fun _ => rfl

end SecretsTable

namespace MigrationWorld

variable {V : Type}

/-- The world at the next statement. -/
def arrive (w : MigrationWorld V) (env : Nat → Interference) : MigrationWorld V :=
  { w with
    db := { w.db with secrets :=
      w.db.secrets.delete fun row => (env w.statements).deleted.contains row.id }
    statements := w.statements + 1 }

/-- The reply to a query. -/
def reply {α : Type} (failure : Option Failure) (result : Except String α) : Except String α :=
  match failure with
  | none => result
  | some failure => .error failure.text

/-- `UPDATE secrets ..` -/
def reseal (w : MigrationWorld V) (id : Uuid) (ciphertext : ByteArray) (algorithm : String) :
    MigrationWorld V :=
  { w with
    db := { w.db with secrets := w.db.secrets.reseal id ciphertext algorithm }
    updated := w.updated ++ [id] }

def answer (P : Pgcrypto) (kek : String) (T : VaultTransit V) (env : Nat → Interference)
    (w : MigrationWorld V) (c : MigrateCall) : MigrationWorld V × c.Answer :=
  let failure := (env w.statements).failure
  match c with
  | .countCandidates =>
    let w := w.arrive env
    (w, reply failure (.ok w.db.secrets.candidates.length))
  | .fetchBatch limit offset =>
    let w := w.arrive env
    (w, reply failure (.ok ((w.db.secrets.candidates.drop offset).take limit)))
  | .decryptRow id =>
    let w := w.arrive env
    (w, reply failure (match w.db.secrets.select .superuser id with
      | none => .error "no rows returned by a query that expected to return at least one row"
      | some row => row.decryptEnvelope P kek))
  | .ensureKey keyName =>
    let (vault, result) := T.ensureKey keyName w.vault
    ({ w with vault := vault }, result)
  | .encrypt keyName plaintext =>
    let (vault, result) := T.encrypt keyName plaintext w.vault
    ({ w with vault := vault }, result)
  | .updateRow id ciphertext algorithm =>
    let w := w.arrive env
    match failure with
    | none => (w.reseal id ciphertext algorithm, .ok ())
    | some (.refused text) => (w, .error text)
    | some (.replyLost text) => (w.reseal id ciphertext algorithm, .error text)

theorem answer_ensureKey {P : Pgcrypto} {kek : String} {T : VaultTransit V}
    {env : Nat → Interference} {w : MigrationWorld V} {keyName : String} {v : V}
    {r : Except SecretError Unit} (h : T.ensureKey keyName w.vault = (v, r)) :
    w.answer P kek T env (.ensureKey keyName) = ({ w with vault := v }, r) := by
  simp only [answer, h]

theorem answer_encrypt {P : Pgcrypto} {kek : String} {T : VaultTransit V}
    {env : Nat → Interference} {w : MigrationWorld V} {keyName plaintext : String} {v : V}
    {r : Except SecretError String} (h : T.encrypt keyName plaintext w.vault = (v, r)) :
    w.answer P kek T env (.encrypt keyName plaintext) = ({ w with vault := v }, r) := by
  simp only [answer, h]

/-- The world in which a run starts. -/
def start (db : SecretsDb) (vault : V) : MigrationWorld V := ⟨db, vault, 0, []⟩

end MigrationWorld

/-! ## Rules for the calls -/

section Rules

variable {W α : Type} {respond : W → (c : MigrateCall) → W × c.Answer} {w : W}
  {R : W → Except MigrateError α → Prop}

theorem ends_ask {c : MigrateCall} {Q : W → c.Answer → Prop} {r : W × c.Answer}
    (hr : respond w c = r) (h : Q r.1 r.2) : Program.Ends respond Q (ask c) w := by
  subst hr
  exact h

theorem ends_statement {context : String} {p : Program migration (Except String α)}
    (h : Program.Ends respond (fun w r => R w (r.mapError (.statement context))) p w) :
    Program.Ends respond R (statement context p).run w :=
  (Program.ends_bind (p := p)).mpr h

theorem ends_transit {p : Program migration (Except SecretError α)}
    (h : Program.Ends respond (fun w r => R w (r.mapError .transit)) p w) :
    Program.Ends respond R (transit p).run w :=
  (Program.ends_bind (p := p)).mpr h

end Rules

namespace SecretsTable

def candidateIds (t : SecretsTable) : List Uuid := (t.rows.filter isCandidate).map (·.id)

theorem not_isCandidate_of_tag {row : SecretRow} (h : row.algorithm = vaultAlgorithmTag) :
    isCandidate row = false := by
  rw [isCandidate, h]
  decide

theorem nodup_candidateIds (t : SecretsTable) : t.candidateIds.Nodup :=
  t.primaryKey.sublist (List.filter_sublist.map _)

theorem mem_candidateIds {t : SecretsTable} {id : Uuid} :
    id ∈ t.candidateIds ↔ ∃ row ∈ t.rows, row.algorithm = pgpSymV1 ∧ row.id = id := by
  simp only [candidateIds, List.mem_map, List.mem_filter, isCandidate, beq_iff_eq, and_assoc]

theorem perm_candidates (t : SecretsTable) :
    (t.candidates.map (·.id)).Perm t.candidateIds := by
  have h := (List.perm_insertionSort (fun a b : Candidate => a.id.toNat ≤ b.id.toNat)
    ((t.rows.filter isCandidate).map fun row => ⟨row.id, row.organizationId⟩)).map (·.id)
  rwa [List.map_map] at h

theorem length_candidates (t : SecretsTable) : t.candidates.length = t.candidateIds.length := by
  rw [← (perm_candidates t).length_eq, List.length_map]

/-- A row that is sealed with another algorithm is no candidate any more. -/
theorem candidateIds_reseal (t : SecretsTable) (id : Uuid) (ciphertext : ByteArray) :
    (t.reseal id ciphertext vaultAlgorithmTag).candidateIds = t.candidateIds.erase id := by
  rw [(nodup_candidateIds t).erase_eq_filter]
  show ((t.rows.map _).filter isCandidate).map (·.id) =
    (((t.rows.filter isCandidate).map (·.id)).filter _)
  rw [List.filter_map, List.map_map, List.filter_map, List.filter_filter]
  have hfilter : ∀ row ∈ t.rows, (isCandidate ∘ fun row => if row.id == id && isCandidate row then
      { row with ciphertext := ciphertext, wrappedDek := .empty, algorithm := vaultAlgorithmTag }
      else row) row = (((· != id) ∘ (·.id)) row && isCandidate row) := by
    intro row _
    simp only [Function.comp_apply]
    split
    · next h =>
      rw [Bool.and_eq_true, beq_iff_eq] at h
      rw [not_isCandidate_of_tag rfl]
      simp [h.1]
    · next h =>
      by_cases hrow : isCandidate row = true
      · rw [hrow, Bool.and_true, beq_iff_eq] at h
        simp [hrow, h]
      · simp [hrow]
  rw [List.filter_congr hfilter]
  refine List.map_congr_left fun row _ => ?_
  simp only [Function.comp_apply]
  split <;> rfl

end SecretsTable

end Kubinate.Secrets
