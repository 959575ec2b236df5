import Kubinate.Library.Sequence
import Kubinate.Secrets.Stores

/-!
# The stores refine a map

Both stores over one table, called in any order by any organizations with any handles,
against the map from an organization and an id to the store that wrote the secret and its
plaintext.

* `answers_eq_secretMap`: they answer every sequence of requests as the map does.
-/

namespace Kubinate.Secrets

open Platform Library

/-! ## The transit engine of the tests decrypts what it encrypted -/

namespace InMemoryVault

/-- The engine holds `plaintext` under the name and ciphertext, and will not hand out that
ciphertext again. -/
structure Holds (keyName ciphertext plaintext : String) (g : InMemoryVault) : Prop where
  key : keyName ∈ g.keys
  entry : g.ciphertexts.lookup (keyName, ciphertext) = some plaintext
  old : ∃ n ≤ g.counter, ciphertext = ciphertextOf n

theorem ciphertextOf_injective : Function.Injective ciphertextOf := by
  intro m n h
  exact hex16_injective (String.append_right_inj _ |>.mp h)

theorem encrypt_of_mem {keyName plaintext : String} {g : InMemoryVault} (h : keyName ∈ g.keys) :
    encrypt keyName plaintext g =
      (⟨g.keys, ((keyName, ciphertextOf (g.counter + 1)), plaintext) :: g.ciphertexts,
        g.counter + 1⟩, .ok (ciphertextOf (g.counter + 1))) :=
  if_neg (not_not.mpr h)

theorem holds_encrypt {keyName plaintext ciphertext : String} {g : InMemoryVault}
    (h : (encrypt keyName plaintext g).2 = .ok ciphertext) :
    Holds keyName ciphertext plaintext (encrypt keyName plaintext g).1 := by
  by_cases hkey : keyName ∈ g.keys
  · rw [encrypt_of_mem hkey] at h ⊢
    cases h
    exact ⟨hkey, List.lookup_cons_self, _, le_rfl, rfl⟩
  · rw [encrypt, if_pos hkey] at h
    cases h

theorem decrypt_of_holds {keyName ciphertext plaintext : String} {g : InMemoryVault}
    (h : Holds keyName ciphertext plaintext g) : decrypt keyName ciphertext g = .ok plaintext := by
  rw [decrypt, if_neg (not_not.mpr h.key), h.entry]

theorem holds_moves {keyName ciphertext plaintext : String} {g g' : InMemoryVault}
    (h : Holds keyName ciphertext plaintext g) (hmoves : inMemoryVaultTransit.Moves g g') :
    Holds keyName ciphertext plaintext g' := by
  rcases hmoves with ⟨name, rfl⟩ | ⟨name, text, rfl⟩
  · exact ⟨List.mem_cons_of_mem _ h.key, h.entry, h.old⟩
  · show Holds keyName ciphertext plaintext (encrypt name text g).1
    by_cases hname : name ∈ g.keys
    · rw [encrypt_of_mem hname]
      obtain ⟨n, hn, rfl⟩ := h.old
      refine ⟨h.key, ?_, n, by show n ≤ g.counter + 1; omega, rfl⟩
      have hnew : (keyName, ciphertextOf n) ≠ (name, ciphertextOf (g.counter + 1)) := by
        intro heq
        have := ciphertextOf_injective (congrArg Prod.snd heq)
        omega
      show List.lookup _ (_ :: _) = _
      rw [List.lookup_cons, beq_false_of_ne hnew]
      exact h.entry
    · rw [encrypt, if_pos hname]
      exact h

theorem holds_reflTransGen {keyName ciphertext plaintext : String} {g g' : InMemoryVault}
    (h : Holds keyName ciphertext plaintext g)
    (hmoves : Relation.ReflTransGen inMemoryVaultTransit.Moves g g') :
    Holds keyName ciphertext plaintext g' := by
  induction hmoves with
  | refl => exact h
  | tail _ hmove ih => exact holds_moves ih hmove

end InMemoryVault

inductive Backend where
  | pgcrypto
  | vault
deriving DecidableEq, Repr

inductive SecretRequest where
  | put (backend : Backend) (organizationId : Uuid) (plaintext : String) (draw : Draw)
  | get (backend : Backend) (handle : SecretRef)
  | delete (backend : Backend) (handle : SecretRef)

inductive SecretAnswer where
  | stored (result : Except SecretError SecretRef)
  | resolved (result : Except SecretError String)
  | deleted (result : Except SecretError Unit)

/-- Both stores over one table. -/
def serve (P : PgcryptoStore) (S : VaultStore InMemoryVault) (w : SecretsDb × InMemoryVault) :
    SecretRequest → (SecretsDb × InMemoryVault) × SecretAnswer
  | .put .pgcrypto organizationId plaintext draw =>
    let (db, result) := P.put w.1 organizationId plaintext draw
    ((db, w.2), .stored result)
  | .put .vault organizationId plaintext draw =>
    let (db, vault, result) := S.put w.1 w.2 organizationId plaintext draw
    ((db, vault), .stored result)
  | .get .pgcrypto handle => (w, .resolved (P.get w.1 handle))
  | .get .vault handle => (w, .resolved (S.get w.1 w.2 handle))
  | .delete .pgcrypto handle =>
    let (db, result) := PgcryptoStore.delete w.1 handle
    ((db, w.2), .deleted result)
  | .delete .vault handle =>
    let (db, result) := VaultStore.delete w.1 handle
    ((db, w.2), .deleted result)

/-! ## The map -/

/-- By organization and id: the store that wrote the secret, and the plaintext. -/
abbrev SecretMap := Uuid × Uuid → Option (Backend × String)

def SecretMap.empty : SecretMap := fun _ => none

/-- What a store returns for an entry: only the store that wrote it can read it. -/
def SecretMap.read (backend : Backend) (id : Uuid) :
    Option (Backend × String) → Except SecretError String
  | none => .error (.notFound id)
  | some (writer, plaintext) => if writer = backend then .ok plaintext else .error .decrypt

def SecretMap.serve (m : SecretMap) : SecretRequest → SecretMap × SecretAnswer
  | .put backend organizationId plaintext draw =>
    (Function.update m (organizationId, draw.id) (some (backend, plaintext)),
      .stored (.ok ⟨draw.id, organizationId⟩))
  | .get backend handle =>
    (m, .resolved (SecretMap.read backend handle.id (m (handle.organizationId, handle.id))))
  | .delete _ handle =>
    (Function.update m (handle.organizationId, handle.id) none, .deleted (.ok ()))

/-- The plaintext has no NUL, the organization exists and no other table refers to the
secret. -/
def SecretRequest.Admissible (db : SecretsDb) : SecretRequest → Prop
  | .put _ organizationId plaintext draw =>
    organizationId ∈ db.organizations ∧ '\x00' ∉ plaintext.toList ∧ draw.id ∉ db.referenced
  | _ => True

/-- The id that a request draws. -/
def SecretRequest.drawn? : SecretRequest → Option Uuid
  | .put _ _ _ draw => some draw.id
  | _ => none

/-! ## The simulation -/

section Simulation

variable {P : PgcryptoStore} {S : VaultStore InMemoryVault} {db : SecretsDb} {g : InMemoryVault}

/-- The row is one that the store has written for the plaintext. -/
def Readable (P : PgcryptoStore) (S : VaultStore InMemoryVault) (g : InMemoryVault)
    (row : SecretRow) : Backend → String → Prop
  | .pgcrypto, plaintext =>
    row.algorithm = pgpSymV1 ∧ row.decryptEnvelope P.pgcrypto P.kek = .ok plaintext
  | .vault, plaintext =>
    row.algorithm = vaultAlgorithmTag ∧ row.wrappedDek = .empty ∧
      ∃ ciphertext : String, row.ciphertext = ciphertext.toUTF8 ∧
        g.Holds (vaultKeyName S.keyPrefix row.organizationId) ciphertext plaintext

/-- The rows are the entries of the map. The requests to come draw ids that no row has. -/
structure Refines (P : PgcryptoStore) (S : VaultStore InMemoryVault)
    (requests : List SecretRequest) (w : SecretsDb × InMemoryVault) (m : SecretMap) : Prop where
  entry : ∀ row ∈ w.1.secrets.rows, ∃ backend plaintext,
    m (row.organizationId, row.id) = some (backend, plaintext) ∧
      Readable P S w.2 row backend plaintext
  row : ∀ organizationId id, m (organizationId, id) ≠ none →
    ∃ row ∈ w.1.secrets.rows, row.id = id ∧ row.organizationId = organizationId
  unreferenced : ∀ row ∈ w.1.secrets.rows, row.id ∉ w.1.referenced
  admissible : ∀ r ∈ requests, r.Admissible w.1
  fresh : ∀ id ∈ requests.filterMap SecretRequest.drawn?, id ∉ w.1.secrets.rows.map (·.id)
  distinct : (requests.filterMap SecretRequest.drawn?).Nodup

theorem select_of_refines {requests : List SecretRequest} {m : SecretMap}
    (h : Refines P S requests (db, g) m) (organizationId id : Uuid) :
    match m (organizationId, id) with
    | none => db.secrets.select (.app organizationId) id = none
    | some (backend, plaintext) => ∃ row, db.secrets.select (.app organizationId) id = some row ∧
        row.organizationId = organizationId ∧ Readable P S g row backend plaintext := by
  split
  · next hm =>
    refine SecretsTable.select_eq_none fun row hrow hid => ?_
    by_contra hsees
    have horg : row.organizationId = organizationId := by simpa [Session.sees] using hsees
    obtain ⟨backend, plaintext, hentry, -⟩ := h.entry row hrow
    rw [horg, hid, hm] at hentry
    cases hentry
  · next backend plaintext hm =>
    obtain ⟨row, hrow, hid, horg⟩ := h.row organizationId id (by rw [hm]; simp)
    obtain ⟨backend', plaintext', hentry, hreadable⟩ := h.entry row hrow
    rw [horg, hid, hm] at hentry
    cases hentry
    refine ⟨row, ?_, horg, hreadable⟩
    rw [← hid]
    exact SecretsTable.select_eq_some hrow (by simp [Session.sees, horg])

/-! ### Reading -/

theorem pgcrypto_get_of_readable (hlaw : P.pgcrypto.Lawful) {row : SecretRow} {handle : SecretRef}
    {backend : Backend} {plaintext : String}
    (hselect : db.secrets.select (.app handle.organizationId) handle.id = some row)
    (h : Readable P S g row backend plaintext) :
    P.get db handle = SecretMap.read .pgcrypto handle.id (some (backend, plaintext)) := by
  cases backend with
  | pgcrypto => simp only [PgcryptoStore.get, hselect, h.2, SecretMap.read, if_true]
  | vault =>
    -- Nothing was encrypted to the empty wrapped key of a Vault row.
    obtain ⟨-, hdek, -⟩ := h
    have hrejects : row.decryptEnvelope P.pgcrypto P.kek = .error wrongKeyOrCorruptData := by
      rw [SecretRow.decryptEnvelope, hdek,
        hlaw.rejects _ _ fun random data => hlaw.encrypt_ne_empty random data P.kek]
    have herror : decryptOrDb wrongKeyOrCorruptData = .decrypt := by decide
    simp only [PgcryptoStore.get, hselect, hrejects, herror, SecretMap.read]
    rfl

theorem vault_get_of_readable (hS : S.transit = inMemoryVaultTransit) {row : SecretRow}
    {handle : SecretRef} {backend : Backend} {plaintext : String}
    (hselect : db.secrets.select (.app handle.organizationId) handle.id = some row)
    (horg : row.organizationId = handle.organizationId)
    (h : Readable P S g row backend plaintext) :
    S.get db g handle = SecretMap.read .vault handle.id (some (backend, plaintext)) := by
  cases backend with
  | pgcrypto =>
    have htag : row.algorithm ≠ vaultAlgorithmTag := by
      rw [h.1]
      decide
    simp only [VaultStore.get, hselect, if_pos htag, SecretMap.read]
    rfl
  | vault =>
    obtain ⟨htag, -, ciphertext, hbytes, hholds⟩ := h
    rw [horg] at hholds
    simp only [VaultStore.get, hselect, htag, hbytes, fromUTF8?_toUTF8, SecretMap.read, if_true, hS]
    exact InMemoryVault.decrypt_of_holds hholds

theorem serve_get (hlaw : P.pgcrypto.Lawful) (hS : S.transit = inMemoryVaultTransit)
    {requests : List SecretRequest} {m : SecretMap} (h : Refines P S requests (db, g) m)
    (backend : Backend) (handle : SecretRef) :
    (serve P S (db, g) (.get backend handle)).2 = (m.serve (.get backend handle)).2 := by
  have hselect := select_of_refines h handle.organizationId handle.id
  show _ = SecretAnswer.resolved (SecretMap.read backend handle.id _)
  cases hm : m (handle.organizationId, handle.id) with
  | none =>
    rw [hm] at hselect
    cases backend with
    | pgcrypto =>
      show SecretAnswer.resolved (P.get db handle) = _
      simp only [PgcryptoStore.get, hselect, SecretMap.read]
    | vault =>
      show SecretAnswer.resolved (S.get db g handle) = _
      simp only [VaultStore.get, hselect, SecretMap.read]
  | some entry =>
    rw [hm] at hselect
    obtain ⟨row, hselect, horg, hreadable⟩ := hselect
    cases backend with
    | pgcrypto =>
      exact congrArg SecretAnswer.resolved (pgcrypto_get_of_readable hlaw hselect hreadable)
    | vault =>
      exact congrArg SecretAnswer.resolved (vault_get_of_readable hS hselect horg hreadable)

/-! ### Deleting -/

/-- The transaction takes away the rows it sees with the id; blanking them first makes no
difference to the other rows. -/
theorem blankAndDelete_eq (h : ∀ row ∈ db.secrets.rows, row.id ∉ db.referenced)
    (handle : SecretRef) :
    db.blankAndDelete handle = ({ db with secrets := db.secrets.delete fun row =>
      row.id == handle.id && row.organizationId == handle.organizationId }, .ok ()) := by
  have hfree : ((db.blankSecret (.app handle.organizationId) handle.id).secrets.select
      (.app handle.organizationId) handle.id).isSome = true → handle.id ∉ db.referenced := by
    intro hsome
    obtain ⟨row, hrow⟩ := Option.isSome_iff_exists.mp hsome
    obtain ⟨hmem, hid, -⟩ := SecretsTable.mem_of_select hrow
    obtain ⟨old, hold, heq⟩ := List.mem_map.mp hmem
    have : old.id = handle.id := by
      rw [← hid, ← heq]
      split <;> rfl
    exact this ▸ h old hold
  have hdelete : (db.blankSecret (.app handle.organizationId) handle.id).deleteSecret
      (.app handle.organizationId) handle.id = .ok { db with secrets := db.secrets.delete fun row =>
        row.id == handle.id && row.organizationId == handle.organizationId } := by
    rw [SecretsDb.deleteSecret, if_neg]
    · refine congrArg (fun t => Except.ok { db with secrets := t }) ?_
      show (db.secrets.update (fun row => row.id == handle.id &&
        row.organizationId == handle.organizationId) (fun row =>
          { row with ciphertext := .empty, wrappedDek := .empty }) fun _ => rfl).delete _ = _
      exact SecretsTable.delete_update _ fun _ => rfl
    · intro hc
      rw [Bool.and_eq_true] at hc
      exact hfree hc.1 (of_decide_eq_true hc.2)
  rw [SecretsDb.blankAndDelete, hdelete]

theorem refines_delete {requests : List SecretRequest} {m : SecretMap} {handle : SecretRef}
    {backend : Backend} (h : Refines P S (.delete backend handle :: requests) (db, g) m) :
    Refines P S requests ((db.blankAndDelete handle).1, g)
      (Function.update m (handle.organizationId, handle.id) none) := by
  rw [blankAndDelete_eq h.unreferenced]
  have hkept : ∀ row, row ∈ (db.secrets.delete fun row => row.id == handle.id &&
      row.organizationId == handle.organizationId).rows ↔ row ∈ db.secrets.rows ∧
        (row.organizationId, row.id) ≠ (handle.organizationId, handle.id) := by
    intro row
    rw [SecretsTable.delete, List.mem_filter]
    simp only [Bool.not_and, Bool.or_eq_true, Bool.not_eq_true', beq_eq_false_iff_ne, ne_eq,
      Prod.mk.injEq]
    tauto
  constructor
  · intro row hrow
    obtain ⟨hrow, hne⟩ := (hkept row).mp hrow
    rw [Function.update_of_ne hne]
    exact h.entry row hrow
  · intro organizationId id hm
    have hne : (organizationId, id) ≠ (handle.organizationId, handle.id) := by
      intro heq
      rw [heq, Function.update_self] at hm
      exact hm rfl
    rw [Function.update_of_ne hne] at hm
    obtain ⟨row, hrow, hid, horg⟩ := h.row organizationId id hm
    refine ⟨row, (hkept row).mpr ⟨hrow, ?_⟩, hid, horg⟩
    rw [horg, hid]
    exact hne
  · intro row hrow
    exact h.unreferenced row ((hkept row).mp hrow).1
  · intro r hr
    have := h.admissible r (List.mem_cons_of_mem _ hr)
    cases r <;> exact this
  · intro id hid hmem
    obtain ⟨row, hrow, heq⟩ := List.mem_map.mp hmem
    exact h.fresh id hid (List.mem_map.mpr ⟨row, ((hkept row).mp hrow).1, heq⟩)
  · exact h.distinct

/-! ### Storing -/

/-- A row for a new id goes in, under the tenant that it belongs to. -/
theorem insertSecret_eq {row : SecretRow} (hid : row.id ∉ db.secrets.rows.map (·.id))
    (horg : row.organizationId ∈ db.organizations) :
    db.insertSecret (.app row.organizationId) row =
      .ok { db with secrets := db.secrets.insert row hid } := by
  rw [SecretsDb.insertSecret, if_neg (by simp [Session.sees]), dif_neg hid,
    if_neg (not_not.mpr horg)]

/-- What a `put` leaves behind, once its row is readable and the older rows still are. -/
theorem refines_insert {requests : List SecretRequest} {m : SecretMap} {g' : InMemoryVault}
    {backend : Backend} {plaintext : String} {draw : Draw} {row : SecretRow}
    (h : Refines P S (.put backend row.organizationId plaintext draw :: requests) (db, g) m)
    (hdraw : row.id = draw.id) (hid : row.id ∉ db.secrets.rows.map (·.id))
    (hrow : Readable P S g' row backend plaintext)
    (hold : ∀ row backend plaintext, Readable P S g row backend plaintext →
      Readable P S g' row backend plaintext) :
    Refines P S requests ({ db with secrets := db.secrets.insert row hid }, g')
      (Function.update m (row.organizationId, draw.id) (some (backend, plaintext))) := by
  have hdistinct : (draw.id :: requests.filterMap SecretRequest.drawn?).Nodup := h.distinct
  have hmem : ∀ {r}, r ∈ (db.secrets.insert row hid).rows ↔ r ∈ db.secrets.rows ∨ r = row := by
    intro r
    rw [SecretsTable.insert, List.mem_append, List.mem_singleton]
  rw [← hdraw] at hdistinct ⊢
  have hne : ∀ r ∈ db.secrets.rows, (r.organizationId, r.id) ≠ (row.organizationId, row.id) := by
    intro r hr heq
    exact hid (List.mem_map.mpr ⟨r, hr, congrArg Prod.snd heq⟩)
  constructor
  · intro r hr
    rcases hmem.mp hr with hr | rfl
    · obtain ⟨b, p, hentry, hreadable⟩ := h.entry r hr
      rw [Function.update_of_ne (hne r hr)]
      exact ⟨b, p, hentry, hold r b p hreadable⟩
    · rw [Function.update_self]
      exact ⟨backend, plaintext, rfl, hrow⟩
  · intro organizationId id hm
    by_cases heq : (organizationId, id) = (row.organizationId, row.id)
    · cases heq
      exact ⟨row, hmem.mpr (.inr rfl), rfl, rfl⟩
    · rw [Function.update_of_ne heq] at hm
      obtain ⟨r, hr, hspec⟩ := h.row organizationId id hm
      exact ⟨r, hmem.mpr (.inl hr), hspec⟩
  · intro r hr
    rcases hmem.mp hr with hr | rfl
    · exact h.unreferenced r hr
    · rw [hdraw]
      exact (h.admissible _ List.mem_cons_self).2.2
  · intro r hr
    have := h.admissible r (List.mem_cons_of_mem _ hr)
    cases r <;> exact this
  · intro id hdrawn hin
    obtain ⟨r, hr, rfl⟩ := List.mem_map.mp hin
    rcases hmem.mp hr with hr | rfl
    · exact h.fresh r.id (List.mem_cons_of_mem _ hdrawn) (List.mem_map_of_mem hr)
    · exact (List.nodup_cons.mp hdistinct).1 hdrawn
  · exact (List.nodup_cons.mp hdistinct).2

theorem refines_put_pgcrypto (hlaw : P.pgcrypto.Lawful) {requests : List SecretRequest}
    {m : SecretMap} {organizationId : Uuid} {plaintext : String} {draw : Draw}
    (h : Refines P S (.put .pgcrypto organizationId plaintext draw :: requests) (db, g) m) :
    (P.put db organizationId plaintext draw).2 = .ok ⟨draw.id, organizationId⟩ ∧
      Refines P S requests ((P.put db organizationId plaintext draw).1, g)
        (Function.update m (organizationId, draw.id) (some (.pgcrypto, plaintext))) := by
  obtain ⟨horg, hnul, -⟩ := h.admissible _ List.mem_cons_self
  have hid : (P.envelope organizationId plaintext draw).id ∉ db.secrets.rows.map (·.id) :=
    h.fresh draw.id List.mem_cons_self
  have hinsert : db.insertSecret (.app organizationId) (P.envelope organizationId plaintext draw) =
      .ok { db with secrets := db.secrets.insert _ hid } := insertSecret_eq hid horg
  have hreadable : Readable P S g (P.envelope organizationId plaintext draw) .pgcrypto plaintext := by
    refine ⟨rfl, ?_⟩
    simp only [SecretRow.decryptEnvelope, PgcryptoStore.envelope, hlaw.decrypt_encrypt]
  rw [PgcryptoStore.put, if_neg (by simpa using hnul), hinsert]
  exact ⟨rfl, refines_insert (P := P) h rfl hid hreadable fun _ _ _ h => h⟩

theorem readable_moves {row : SecretRow} {backend : Backend} {plaintext : String}
    {g' : InMemoryVault} (h : Readable P S g row backend plaintext)
    (hmoves : Relation.ReflTransGen inMemoryVaultTransit.Moves g g') :
    Readable P S g' row backend plaintext := by
  cases backend with
  | pgcrypto => exact h
  | vault =>
    obtain ⟨htag, hdek, ciphertext, hbytes, hholds⟩ := h
    exact ⟨htag, hdek, ciphertext, hbytes, InMemoryVault.holds_reflTransGen hholds hmoves⟩

theorem refines_put_vault (hS : S.transit = inMemoryVaultTransit) {requests : List SecretRequest}
    {m : SecretMap} {organizationId : Uuid} {plaintext : String} {draw : Draw}
    (h : Refines P S (.put .vault organizationId plaintext draw :: requests) (db, g) m) :
    (S.put db g organizationId plaintext draw).2.2 = .ok ⟨draw.id, organizationId⟩ ∧
      Refines P S requests
        ((S.put db g organizationId plaintext draw).1, (S.put db g organizationId plaintext draw).2.1)
        (Function.update m (organizationId, draw.id) (some (.vault, plaintext))) := by
  obtain ⟨horg, -, -⟩ := h.admissible _ List.mem_cons_self
  obtain ⟨keyName, hname⟩ : ∃ keyName, vaultKeyName S.keyPrefix organizationId = keyName :=
    ⟨_, rfl⟩
  obtain ⟨ensured, hensured⟩ : ∃ v, S.transit.ensureKey keyName g = (v, .ok ()) := by
    rw [hS]
    exact ⟨_, rfl⟩
  have hkey : keyName ∈ ensured.keys := by
    rw [hS] at hensured
    cases hensured
    exact List.mem_cons_self
  obtain ⟨sealed, ciphertext, hsealed⟩ : ∃ v c, S.transit.encrypt keyName plaintext ensured =
      (v, .ok c) := by
    rw [hS]
    exact ⟨_, _, InMemoryVault.encrypt_of_mem hkey⟩
  have hmoves : Relation.ReflTransGen inMemoryVaultTransit.Moves g sealed := by
    rw [hS] at hensured hsealed
    refine .tail (.single (.inl ⟨keyName, congrArg Prod.fst hensured⟩)) ?_
    exact .inr ⟨keyName, plaintext, congrArg Prod.fst hsealed⟩
  have hid : (VaultStore.sealed organizationId ciphertext draw).id ∉
      db.secrets.rows.map (·.id) := h.fresh draw.id List.mem_cons_self
  have hinsert : db.insertSecret (.app organizationId)
      (VaultStore.sealed organizationId ciphertext draw) =
        .ok { db with secrets := db.secrets.insert _ hid } := insertSecret_eq hid horg
  have hput : S.put db g organizationId plaintext draw =
      ({ db with secrets := db.secrets.insert _ hid }, sealed,
        .ok ⟨draw.id, organizationId⟩) := by
    simp only [VaultStore.put, hname, hensured, hsealed, hinsert]
  have hreadable : Readable P S sealed (VaultStore.sealed organizationId ciphertext draw) .vault
      plaintext := by
    refine ⟨rfl, rfl, ciphertext, rfl, ?_⟩
    show InMemoryVault.Holds (vaultKeyName S.keyPrefix organizationId) ciphertext plaintext sealed
    rw [hS] at hsealed
    have hstate : (InMemoryVault.encrypt keyName plaintext ensured).1 = sealed :=
      congrArg Prod.fst hsealed
    rw [hname, ← hstate]
    exact InMemoryVault.holds_encrypt (congrArg Prod.snd hsealed)
  rw [hput]
  exact ⟨rfl, refines_insert (S := S) h rfl hid hreadable fun _ _ _ h => readable_moves h hmoves⟩

/-- One request: the same answer, and the rows are still the entries of the map. -/
theorem refines_serve (hlaw : P.pgcrypto.Lawful) (hS : S.transit = inMemoryVaultTransit)
    (r : SecretRequest) (requests : List SecretRequest) (w : SecretsDb × InMemoryVault)
    (m : SecretMap) (h : Refines P S (r :: requests) w m) :
    (serve P S w r).2 = (m.serve r).2 ∧
      Refines P S requests (serve P S w r).1 (m.serve r).1 := by
  cases r with
  | put backend organizationId plaintext draw =>
    cases backend with
    | pgcrypto =>
      obtain ⟨hanswer, hrefines⟩ := refines_put_pgcrypto hlaw h
      exact ⟨congrArg SecretAnswer.stored hanswer, hrefines⟩
    | vault =>
      obtain ⟨hanswer, hrefines⟩ := refines_put_vault hS h
      exact ⟨congrArg SecretAnswer.stored hanswer, hrefines⟩
  | get backend handle =>
    refine ⟨serve_get hlaw hS h backend handle, ?_⟩
    have hsame : Refines P S requests w m :=
      ⟨h.entry, h.row, h.unreferenced, fun r hr => h.admissible r (List.mem_cons_of_mem _ hr),
        h.fresh, h.distinct⟩
    cases backend <;> exact hsame
  | delete backend handle =>
    have hanswer : (w.1.blankAndDelete handle).2 = .ok () := by
      rw [blankAndDelete_eq h.unreferenced]
    have hrefines := refines_delete h
    cases backend <;> exact ⟨congrArg SecretAnswer.deleted hanswer, hrefines⟩

end Simulation

/-- Over a table that starts empty, both stores answer every sequence of requests as the map
does, whatever the handles. -/
theorem answers_eq_secretMap (P : PgcryptoStore) (keyPrefix : String) (db : SecretsDb)
    (requests : List SecretRequest) (hlaw : P.pgcrypto.Lawful)
    (hempty : db.secrets = SecretsTable.empty) (hadmissible : ∀ r ∈ requests, r.Admissible db)
    (hdistinct : (requests.filterMap SecretRequest.drawn?).Nodup) :
    answers (serve P ⟨inMemoryVaultTransit, keyPrefix⟩) (db, InMemoryVault.new) requests =
      answers SecretMap.serve SecretMap.empty requests := by
  refine answers_eq_of_simulation (R := Refines P ⟨inMemoryVaultTransit, keyPrefix⟩)
    (refines_serve hlaw rfl) ?_
  have hrows : db.secrets.rows = [] := congrArg SecretsTable.rows hempty
  constructor
  · intro row hrow
    rw [hrows] at hrow
    cases hrow
  · intro organizationId id hm
    exact absurd rfl hm
  · intro row hrow
    rw [hrows] at hrow
    cases hrow
  · exact hadmissible
  · intro id _ hmem
    rw [hrows] at hmem
    cases hmem
  · exact hdistinct

/-- A stand-in for pgcrypto that keeps the key in front of the data, in the clear. -/
def clearPgcrypto : Pgcrypto where
  pgpSymEncrypt _ data key := (String.ofList ('#' :: key.toList ++ '\x00' :: data.toList)).toUTF8
  pgpSymDecrypt message key :=
    match String.fromUTF8? message with
    | none => .error wrongKeyOrCorruptData
    | some text =>
      if ('#' :: key.toList ++ ['\x00']).isPrefixOf text.toList then
        .ok (String.ofList (text.toList.drop (key.toList.length + 2)))
      else .error wrongKeyOrCorruptData

theorem lawful_clearPgcrypto : clearPgcrypto.Lawful where
  decrypt_encrypt random data key := by
    have hdrop : ('#' :: key.toList ++ '\x00' :: data.toList).drop (key.toList.length + 2) =
        data.toList := by
      rw [List.cons_append, List.drop_succ_cons, List.drop_append]
      simp
    have hstart : ('#' :: key.toList ++ ['\x00']).isPrefixOf
        ('#' :: key.toList ++ '\x00' :: data.toList) = true := by
      rw [List.isPrefixOf_iff_prefix]
      exact ⟨data.toList, by simp⟩
    simp only [clearPgcrypto, fromUTF8?_toUTF8, String.toList_ofList, hstart, hdrop, if_true,
      String.ofList_toList]
  rejects message key hnone := by
    simp only [clearPgcrypto] at hnone ⊢
    split
    · rfl
    · next text htext =>
      refine if_neg fun hprefix => ?_
      obtain ⟨rest, hrest⟩ := List.isPrefixOf_iff_prefix.mp hprefix
      refine hnone .empty (String.ofList rest) ?_
      rw [← toUTF8_of_fromUTF8? htext, ← String.ofList_toList (s := text), ← hrest]
      simp
  encrypt_ne_empty random data key := by
    intro h
    have hbytes : (String.ofList ('#' :: key.toList ++ '\x00' :: data.toList)).toByteArray =
        "".toByteArray := h
    have htext := congrArg String.toList (String.toByteArray_inj.mp hbytes)
    simp at htext

/-- A secret of each store, read by both stores and under a forged handle, then deleted. -/
theorem answers_eq_secretMap_both :
    answers (serve ⟨clearPgcrypto, "kek"⟩ ⟨inMemoryVaultTransit, "kubinate"⟩)
        (⟨[1, 2], .empty, []⟩, InMemoryVault.new)
        [.put .pgcrypto 1 "hunter2" ⟨10, 0, .empty, .empty, .empty⟩,
          .put .vault 2 "hunter3" ⟨11, 0, .empty, .empty, .empty⟩,
          .get .pgcrypto ⟨10, 1⟩, .get .vault ⟨10, 1⟩, .get .pgcrypto ⟨11, 2⟩, .get .vault ⟨11, 2⟩,
          .get .vault ⟨11, 1⟩, .delete .vault ⟨11, 1⟩, .delete .vault ⟨10, 1⟩,
          .get .pgcrypto ⟨10, 1⟩, .get .vault ⟨11, 2⟩] =
      [.stored (.ok ⟨10, 1⟩), .stored (.ok ⟨11, 2⟩), .resolved (.ok "hunter2"),
        .resolved (.error .decrypt), .resolved (.error .decrypt), .resolved (.ok "hunter3"),
        .resolved (.error (.notFound 11)), .deleted (.ok ()), .deleted (.ok ()),
        .resolved (.error (.notFound 10)), .resolved (.ok "hunter3")] := by
  refine (answers_eq_secretMap ⟨clearPgcrypto, "kek"⟩ "kubinate" ⟨[1, 2], .empty, []⟩ _
    lawful_clearPgcrypto rfl ?_ ?_).trans ?_
  · simp [SecretRequest.Admissible]
  · decide
  · rfl

end Kubinate.Secrets
