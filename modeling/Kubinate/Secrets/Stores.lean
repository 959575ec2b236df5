import Mathlib.Data.List.Nodup
import Kubinate.Platform.Types
import Kubinate.Platform.Text

/-!
# The secret stores

`crates/platform/src/secrets.rs`: the table `secrets` with its row-level security, the
store over pgcrypto and the store over Vault's transit engine.

pgcrypto and the transit engine are parameters. What the code relies on is stated by
`Pgcrypto.Lawful` and `VaultTransit.Inverts`; the transit engine of the tests,
`InMemoryVaultTransit`, is modelled.
-/

namespace Kubinate.Secrets

open Platform

structure SecretRef where
  id : Uuid
  organizationId : Uuid
deriving DecidableEq, Repr

/-- An error of the database is the text it is displayed with. -/
inductive SecretError where
  | notFound (id : Uuid)
  | decrypt
  | invalidKek (message : String)
  | authFailed (message : String)
  | database (text : String)
deriving DecidableEq, Repr

/-! ## The table -/

/-- Ciphertexts are compared as arrays of bytes. -/
instance decidableEqByteArray : DecidableEq ByteArray := ByteArray.decEq

structure SecretRow where
  id : Uuid
  organizationId : Uuid
  ciphertext : ByteArray
  wrappedDek : ByteArray
  algorithm : String
  createdAt : Timestamp
  version : Int
deriving DecidableEq

/-- The default of the column `algorithm`. -/
def pgpSymV1 : String := "pgp_sym_v1"

/-- `VAULT_ALGORITHM_TAG` -/
def vaultAlgorithmTag : String := "vault_transit_v1"

@[ext]
structure SecretsTable where
  rows : List SecretRow
  primaryKey : (rows.map (·.id)).Nodup

/-- Who a statement runs as. The bootstrap role is a superuser and bypasses row-level
security; the role of the application sees the tenant set by `SET LOCAL`. -/
inductive Session where
  | superuser
  | app (tenant : Uuid)
deriving DecidableEq, Repr

/-- The policy `secrets_tenant_scope`. -/
def Session.sees : Session → SecretRow → Bool
  | .superuser, _ => true
  | .app tenant, row => row.organizationId == tenant

namespace SecretsTable

def empty : SecretsTable := ⟨[], List.nodup_nil⟩

/-- `SELECT .. FROM secrets WHERE id = $1` -/
def select (t : SecretsTable) (session : Session) (id : Uuid) : Option SecretRow :=
  t.rows.find? fun row => row.id == id && session.sees row

def insert (t : SecretsTable) (row : SecretRow) (h : row.id ∉ t.rows.map (·.id)) : SecretsTable where
  rows := t.rows ++ [row]
  primaryKey := by
    rw [List.map_append]
    refine List.Nodup.append t.primaryKey (List.nodup_singleton _) ?_
    intro id hid hrow
    rw [List.map_singleton, List.mem_singleton] at hrow
    exact h (hrow ▸ hid)

/-- `UPDATE secrets SET .. WHERE ..`, for assignments that leave the primary key alone. -/
def update (t : SecretsTable) (wanted : SecretRow → Bool) (set : SecretRow → SecretRow)
    (hid : ∀ row, (set row).id = row.id) : SecretsTable where
  rows := t.rows.map fun row => if wanted row then set row else row
  primaryKey := by
    have hids : (t.rows.map fun row => if wanted row then set row else row).map (·.id) =
        t.rows.map (·.id) := by
      rw [List.map_map]
      refine List.map_congr_left fun row _ => ?_
      rw [Function.comp_apply]
      split
      · exact hid row
      · rfl
    rw [hids]
    exact t.primaryKey

/-- `DELETE FROM secrets WHERE ..` -/
def delete (t : SecretsTable) (wanted : SecretRow → Bool) : SecretsTable where
  rows := t.rows.filter fun row => !wanted row
  primaryKey := t.primaryKey.sublist (List.filter_sublist.map _)

theorem delete_update {t : SecretsTable} {wanted : SecretRow → Bool} {set : SecretRow → SecretRow}
    (hid : ∀ row, (set row).id = row.id) (h : ∀ row, wanted (set row) = wanted row) :
    (t.update wanted set hid).delete wanted = t.delete wanted := by
  have hwanted : ∀ row, wanted (if wanted row then set row else row) = wanted row := by
    intro row
    split
    · exact h row
    · rfl
  refine SecretsTable.ext ?_
  show List.filter _ (List.map _ t.rows) = List.filter _ t.rows
  rw [List.filter_map]
  refine (List.map_congr_left fun row hrow => if_neg ?_).trans ((List.map_id _).trans ?_)
  · have hkept := (List.mem_filter.mp hrow).2
    rw [Function.comp_apply, hwanted, Bool.not_eq_true'] at hkept
    rw [hkept]
    decide
  · refine List.filter_congr fun row _ => ?_
    rw [Function.comp_apply, hwanted]

theorem eq_of_id_eq {t : SecretsTable} {row row' : SecretRow} (h : row ∈ t.rows)
    (h' : row' ∈ t.rows) (hid : row.id = row'.id) : row = row' :=
  List.inj_on_of_nodup_map t.primaryKey h h' hid

theorem mem_of_select {t : SecretsTable} {session : Session} {id : Uuid} {row : SecretRow}
    (h : t.select session id = some row) :
    row ∈ t.rows ∧ row.id = id ∧ session.sees row = true := by
  have hrow := List.find?_some h
  rw [Bool.and_eq_true, beq_iff_eq] at hrow
  exact ⟨List.mem_of_find?_eq_some h, hrow⟩

theorem select_eq_some {t : SecretsTable} {session : Session} {row : SecretRow}
    (h : row ∈ t.rows) (hsees : session.sees row = true) :
    t.select session row.id = some row := by
  cases hfound : t.select session row.id with
  | none =>
    have := List.find?_eq_none.mp hfound row h
    simp [hsees] at this
  | some row' =>
    obtain ⟨hmem, hid, -⟩ := mem_of_select hfound
    rw [eq_of_id_eq hmem h hid]

theorem select_eq_none {t : SecretsTable} {session : Session} {id : Uuid}
    (h : ∀ row ∈ t.rows, row.id = id → session.sees row = false) :
    t.select session id = none := by
  refine List.find?_eq_none.mpr fun row hrow => ?_
  by_cases hid : row.id = id
  · simp [h row hrow hid]
  · simp [hid]

end SecretsTable

/-- The table with what its foreign keys look at: the organizations, and the secrets that
`clusters` and `hetzner_credentials` refer to. -/
structure SecretsDb where
  organizations : List Uuid
  secrets : SecretsTable
  referenced : List Uuid

namespace SecretsDb

def insertSecret (db : SecretsDb) (session : Session) (row : SecretRow) : Except String SecretsDb :=
  if !session.sees row then
    .error ("error returned from database: new row violates row-level security policy for " ++
      "table \"secrets\"")
  else if h : row.id ∈ db.secrets.rows.map (·.id) then
    .error ("error returned from database: duplicate key value violates unique constraint " ++
      "\"secrets_pkey\"")
  else if row.organizationId ∉ db.organizations then
    .error ("error returned from database: insert or update on table \"secrets\" violates " ++
      "foreign key constraint \"secrets_organization_id_fkey\"")
  else .ok { db with secrets := db.secrets.insert row h }

/-- Overwrites the key material of a secret. -/
def blankSecret (db : SecretsDb) (session : Session) (id : Uuid) : SecretsDb :=
  { db with
    secrets := db.secrets.update (fun row => row.id == id && session.sees row)
      (fun row => { row with ciphertext := .empty, wrappedDek := .empty }) fun _ => rfl }

/-- The references are `ON DELETE RESTRICT`. -/
def deleteSecret (db : SecretsDb) (session : Session) (id : Uuid) : Except String SecretsDb :=
  if (db.secrets.select session id).isSome && id ∈ db.referenced then
    .error ("error returned from database: update or delete on table \"secrets\" violates " ++
      "foreign key constraint")
  else
    .ok { db with secrets := db.secrets.delete fun row => row.id == id && session.sees row }

/-- The transaction of `delete`, the same in both stores. -/
def blankAndDelete (db : SecretsDb) (handle : SecretRef) :
    SecretsDb × Except SecretError Unit :=
  let session := .app handle.organizationId
  match (db.blankSecret session handle.id).deleteSecret session handle.id with
  | .error text => (db, .error (.database text))
  | .ok db' => (db', .ok ())

end SecretsDb

/-! ## pgcrypto -/

/-- The functions of pgcrypto that the statements call. Encryption takes the random bytes
that it draws. -/
structure Pgcrypto where
  pgpSymEncrypt : (random : ByteArray) → (data key : String) → ByteArray
  pgpSymDecrypt : (message : ByteArray) → (key : String) → Except String String

/-- The error of pgcrypto for input that it did not encrypt under the key. -/
def wrongKeyOrCorruptData : String := "error returned from database: Wrong key or corrupt data"

/-- Decryption inverts encryption under the same key and rejects everything else. -/
structure Pgcrypto.Lawful (P : Pgcrypto) : Prop where
  decrypt_encrypt : ∀ random data key,
    P.pgpSymDecrypt (P.pgpSymEncrypt random data key) key = .ok data
  rejects : ∀ message key, (∀ random data, P.pgpSymEncrypt random data key ≠ message) →
    P.pgpSymDecrypt message key = .error wrongKeyOrCorruptData
  encrypt_ne_empty : ∀ random data key, P.pgpSymEncrypt random data key ≠ .empty

/-- Both layers of the envelope:
`pgp_sym_decrypt(ciphertext, pgp_sym_decrypt(wrapped_dek, $2))`. -/
def SecretRow.decryptEnvelope (row : SecretRow) (P : Pgcrypto) (kek : String) :
    Except String String :=
  match P.pgpSymDecrypt row.wrappedDek kek with
  | .error text => .error text
  | .ok dek => P.pgpSymDecrypt row.ciphertext dek

def decryptOrDb (text : String) : SecretError :=
  let lower := toAsciiLowercase text
  if contains lower "wrong key" || contains lower "corrupt data" then .decrypt
  else .database text

/-- What a `put` draws: the id of the secret, the time of its transaction, and for pgcrypto
the data key with the random bytes of the two encryptions. -/
structure Draw where
  id : Uuid
  now : Timestamp
  dek : ByteArray
  dataRandom : ByteArray
  dekRandom : ByteArray

structure PgcryptoStore where
  pgcrypto : Pgcrypto
  kek : String

namespace PgcryptoStore

variable (store : PgcryptoStore)

/-- The row that `put` inserts. -/
def envelope (organizationId : Uuid) (plaintext : String) (draw : Draw) : SecretRow :=
  let dek := encodeBase64 draw.dek.toList
  { id := draw.id
    organizationId := organizationId
    ciphertext := store.pgcrypto.pgpSymEncrypt draw.dataRandom plaintext dek
    wrappedDek := store.pgcrypto.pgpSymEncrypt draw.dekRandom dek store.kek
    algorithm := pgpSymV1
    createdAt := draw.now
    version := 1 }

/-- The plaintext is a text parameter of the statement, which cannot hold NUL. -/
def put (db : SecretsDb) (organizationId : Uuid) (plaintext : String) (draw : Draw) :
    SecretsDb × Except SecretError SecretRef :=
  if plaintext.toList.contains '\x00' then
    (db, .error (.database
      "error returned from database: invalid byte sequence for encoding \"UTF8\": 0x00"))
  else
    match db.insertSecret (.app organizationId) (store.envelope organizationId plaintext draw) with
    | .error text => (db, .error (.database text))
    | .ok db' => (db', .ok ⟨draw.id, organizationId⟩)

def get (db : SecretsDb) (handle : SecretRef) : Except SecretError String :=
  match db.secrets.select (.app handle.organizationId) handle.id with
  | none => .error (.notFound handle.id)
  | some row =>
    match row.decryptEnvelope store.pgcrypto store.kek with
    | .error text => .error (decryptOrDb text)
    | .ok plaintext => .ok plaintext

def delete (db : SecretsDb) (handle : SecretRef) : SecretsDb × Except SecretError Unit :=
  db.blankAndDelete handle

end PgcryptoStore

/-! ## Vault -/

/-- A transit engine with states `V`. -/
structure VaultTransit (V : Type) where
  ensureKey : (keyName : String) → V → V × Except SecretError Unit
  encrypt : (keyName plaintext : String) → V → V × Except SecretError String
  decrypt : (keyName ciphertext : String) → V → Except SecretError String

namespace VaultTransit

variable {V : Type} (T : VaultTransit V)

/-- A call that can change the engine's state. -/
def Moves (v v' : V) : Prop :=
  (∃ keyName, (T.ensureKey keyName v).1 = v') ∨
    ∃ keyName plaintext, (T.encrypt keyName plaintext v).1 = v'

end VaultTransit

theorem fromUTF8?_toUTF8 (text : String) : String.fromUTF8? text.toUTF8 = some text :=
  dif_pos text.isValidUTF8

theorem toUTF8_of_fromUTF8? {bytes : ByteArray} {text : String}
    (h : String.fromUTF8? bytes = some text) : text.toUTF8 = bytes := by
  rw [String.fromUTF8?] at h
  split at h
  · cases h
    rfl
  · cases h

def vaultKeyName (keyPrefix : String) (organizationId : Uuid) : String :=
  keyPrefix ++ "/" ++ organizationId.text

structure VaultStore (V : Type) where
  transit : VaultTransit V
  keyPrefix : String

namespace VaultStore

variable {V : Type} (store : VaultStore V)

/-- The row that `put` inserts. -/
def sealed (organizationId : Uuid) (ciphertext : String) (draw : Draw) : SecretRow where
  id := draw.id
  organizationId := organizationId
  ciphertext := ciphertext.toUTF8
  wrappedDek := .empty
  algorithm := vaultAlgorithmTag
  createdAt := draw.now
  version := 1

def put (db : SecretsDb) (vault : V) (organizationId : Uuid) (plaintext : String) (draw : Draw) :
    SecretsDb × V × Except SecretError SecretRef :=
  let keyName := vaultKeyName store.keyPrefix organizationId
  match store.transit.ensureKey keyName vault with
  | (vault, .error e) => (db, vault, .error e)
  | (vault, .ok _) =>
    match store.transit.encrypt keyName plaintext vault with
    | (vault, .error e) => (db, vault, .error e)
    | (vault, .ok ciphertext) =>
      match db.insertSecret (.app organizationId) (sealed organizationId ciphertext draw) with
      | .error text => (db, vault, .error (.database text))
      | .ok db' => (db', vault, .ok ⟨draw.id, organizationId⟩)

def get (db : SecretsDb) (vault : V) (handle : SecretRef) : Except SecretError String :=
  match db.secrets.select (.app handle.organizationId) handle.id with
  | none => .error (.notFound handle.id)
  | some row =>
    if row.algorithm ≠ vaultAlgorithmTag then .error .decrypt
    else
      match String.fromUTF8? row.ciphertext with
      | none => .error .decrypt
      | some ciphertext =>
        store.transit.decrypt (vaultKeyName store.keyPrefix handle.organizationId) ciphertext vault

def delete (db : SecretsDb) (handle : SecretRef) : SecretsDb × Except SecretError Unit :=
  db.blankAndDelete handle

end VaultStore

/-! ## The transit engine of the tests -/

/-- `HashSet` and `HashMap` as lists; the newest entry for a key is the first. -/
structure InMemoryVault where
  keys : List String
  ciphertexts : List ((String × String) × String)
  counter : Nat

namespace InMemoryVault

def new : InMemoryVault := ⟨[], [], 0⟩

def noTransitKey (keyName : String) : SecretError :=
  .invalidKek ("no transit key named '" ++ keyName ++ "'")

def ensureKey (keyName : String) (g : InMemoryVault) : InMemoryVault × Except SecretError Unit :=
  ({ g with keys := keyName :: g.keys }, .ok ())

/-- The `n`-th ciphertext the engine hands out. -/
def ciphertextOf (n : Nat) : String := "vault:test:" ++ hex16 n

def encrypt (keyName plaintext : String) (g : InMemoryVault) :
    InMemoryVault × Except SecretError String :=
  if keyName ∉ g.keys then (g, .error (noTransitKey keyName))
  else
    let ciphertext := ciphertextOf (g.counter + 1)
    ({ g with
        counter := g.counter + 1
        ciphertexts := ((keyName, ciphertext), plaintext) :: g.ciphertexts }, .ok ciphertext)

def decrypt (keyName ciphertext : String) (g : InMemoryVault) : Except SecretError String :=
  if keyName ∉ g.keys then .error (noTransitKey keyName)
  else
    match g.ciphertexts.lookup (keyName, ciphertext) with
    | none => .error .decrypt
    | some plaintext => .ok plaintext

end InMemoryVault

/-- `InMemoryVaultTransit` -/
def inMemoryVaultTransit : VaultTransit InMemoryVault :=
  ⟨InMemoryVault.ensureKey, InMemoryVault.encrypt, InMemoryVault.decrypt⟩

end Kubinate.Secrets
