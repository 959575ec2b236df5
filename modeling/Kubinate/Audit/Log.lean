import Kubinate.Library.HashChain
import Kubinate.Platform.Types
import Mathlib.Data.List.Sort

/-!
# The hash-chained audit log

The table `audit_log_entries` and the functions `audit_log_hash_input` and
`audit_log_verify` of `20260424120300_audit_log.sql`. The digest is pgcrypto's
`digest(_, 'sha256')`, a parameter here.

`verify_eq_nil_iff` says what the walk of `audit_log_verify` accepts: the rows of the
organization, ordered by `(created_at, id)`, are linked, and each stored hash is the digest
of the row's own hash input.
-/

namespace Kubinate.Audit

open Platform Library

abbrev Bytes := List UInt8

/-- `convert_to(_, 'UTF8')`. -/
def utf8 (s : String) : Bytes := s.toList.flatMap String.utf8EncodeChar

/-- `convert_to(p_org::text, 'UTF8')`. -/
def uuidBytes (u : Uuid) : Bytes := u.chars.flatMap String.utf8EncodeChar

/-- The separator `'|'`. -/
def bar : UInt8 := 124

/-- A row of `audit_log_entries`. -/
structure Entry where
  id : Uuid
  organizationId : Option Uuid
  actorUserId : Option Uuid
  actorApiKeyId : Option Uuid
  action : String
  resourceType : String
  resourceId : Option String
  decision : String
  reason : Option String
  requestId : Option String
  ipAddress : Option String
  userAgent : Option String
  metadata : String
  prevHash : Option Bytes
  hash : Bytes
  createdAt : Timestamp
deriving DecidableEq, Repr

/-- The part of the hash input after the organization. -/
def payload (action resourceType resourceId : String) : Bytes :=
  utf8 action ++ bar :: (utf8 resourceType ++ bar :: utf8 resourceId)

/-- `audit_log_hash_input`. Concatenation is strict, so a null organization or resource id
makes the whole input null; only the previous hash is coalesced. -/
def hashInput (prev : Option Bytes) (org : Option Uuid) (action resourceType : String)
    (resourceId : Option String) : Option Bytes :=
  match org, resourceId with
  | some org, some resourceId =>
    some (prev.getD [] ++ uuidBytes org ++ bar :: payload action resourceType resourceId)
  | _, _ => none

/-- The order `created_at ASC, id ASC`. -/
def Entry.le (e f : Entry) : Prop :=
  e.createdAt < f.createdAt ∨ (e.createdAt = f.createdAt ∧ e.id ≤ f.id)

instance : DecidableRel Entry.le := fun _ _ => inferInstanceAs (Decidable (_ ∨ (_ ∧ _)))

/-- `WHERE organization_id = p_org ORDER BY created_at ASC, id ASC`. -/
def chain (table : List Entry) (org : Uuid) : List Entry :=
  (table.filter (·.organizationId = some org)).insertionSort Entry.le

/-- The two reasons that `audit_log_verify` reports. -/
inductive Reason where
  | prevHashMismatch
  | hashMismatch
deriving DecidableEq, Repr

def Reason.text : Reason → String
  | .prevHashMismatch => "prev_hash mismatch"
  | .hashMismatch => "hash mismatch"

section Verify

variable (digest : Bytes → Bytes)

/-- The hash that the verifier expects of a row when the row before it has hash `prev`. -/
def expected (prev : Option Bytes) (r : Entry) : Option Bytes :=
  (hashInput prev r.organizationId r.action r.resourceType r.resourceId).map digest

/-- The loop of `audit_log_verify`, with `v_prev` as its accumulator. -/
def verifyLoop : Option Bytes → List Entry → List (Uuid × String)
  | _, [] => []
  | prev, r :: rs =>
    (if r.prevHash ≠ prev then [(r.id, Reason.prevHashMismatch.text)] else []) ++
      (if some r.hash ≠ expected digest prev r then [(r.id, Reason.hashMismatch.text)] else []) ++
      verifyLoop (some r.hash) rs

/-- `audit_log_verify(p_org)`. -/
def verify (table : List Entry) (org : Uuid) : List (Uuid × String) :=
  verifyLoop digest none (chain table org)

end Verify

/-! ## What the verifier accepts -/

section Accepts

variable {digest : Bytes → Bytes}

/-- The row's hash input with the previous hash that the row itself names. -/
def Entry.input (e : Entry) : Option Bytes :=
  hashInput e.prevHash e.organizationId e.action e.resourceType e.resourceId

/-- The stored hash is the digest of the row's own input. -/
def Entry.Hashed (digest : Bytes → Bytes) (e : Entry) : Prop := e.input.map digest = some e.hash

instance (e : Entry) : Decidable (e.Hashed digest) :=
  inferInstanceAs (Decidable (e.input.map digest = some e.hash))

theorem verifyLoop_eq_nil_iff {prev : Option Bytes} {rs : List Entry} :
    verifyLoop digest prev rs = [] ↔
      Linked Entry.prevHash Entry.hash prev rs ∧ ∀ r ∈ rs, r.Hashed digest := by
  induction rs generalizing prev with
  | nil => simp [verifyLoop, Linked]
  | cons r rs ih =>
    rw [verifyLoop, List.append_eq_nil_iff, List.append_eq_nil_iff, ih, Linked,
      List.forall_mem_cons]
    have hprev : (if r.prevHash ≠ prev then [(r.id, Reason.prevHashMismatch.text)] else []) = [] ↔
        r.prevHash = prev := by
      by_cases h : r.prevHash = prev <;> simp [h]
    have hhash : (if some r.hash ≠ expected digest prev r then
        [(r.id, Reason.hashMismatch.text)] else []) = [] ↔ expected digest prev r = some r.hash := by
      by_cases h : some r.hash = expected digest prev r
      · simp [h]
      · simp [h, Ne.symm h]
    rw [hprev, hhash]
    constructor
    · rintro ⟨⟨rfl, hh⟩, hl, hrs⟩
      exact ⟨⟨rfl, hl⟩, hh, hrs⟩
    · rintro ⟨⟨rfl, hl⟩, hh, hrs⟩
      exact ⟨⟨rfl, hh⟩, hl, hrs⟩

theorem verify_eq_nil_iff {table : List Entry} {org : Uuid} :
    verify digest table org = [] ↔
      Linked Entry.prevHash Entry.hash none (chain table org) ∧
        ∀ r ∈ chain table org, r.Hashed digest :=
  verifyLoop_eq_nil_iff

end Accepts

/-! ## The order of the rows -/

instance : Std.Total Entry.le where
  total e f := by
    unfold Entry.le
    rcases lt_trichotomy e.createdAt f.createdAt with h | h | h
    · exact .inl (.inl h)
    · rcases BitVec.le_total e.id f.id with hi | hi
      · exact .inl (.inr ⟨h, hi⟩)
      · exact .inr (.inr ⟨h.symm, hi⟩)
    · exact .inr (.inl h)

instance : IsTrans Entry Entry.le where
  trans e f g hef hfg := by
    unfold Entry.le at *
    rcases hef with hef | ⟨hef, hi⟩ <;> rcases hfg with hfg | ⟨hfg, hj⟩
    · exact .inl (hef.trans hfg)
    · exact .inl (hfg ▸ hef)
    · exact .inl (hef ▸ hfg)
    · exact .inr ⟨hef.trans hfg, BitVec.le_trans hi hj⟩

theorem Entry.id_eq_of_le {e f : Entry} (hef : e.le f) (hfe : f.le e) : e.id = f.id := by
  unfold Entry.le at hef hfe
  rcases hef with hef | ⟨hef, hi⟩ <;> rcases hfe with hfe | ⟨hfe, hj⟩
  · exact absurd hef (lt_asymm hfe)
  · exact absurd hef (hfe ▸ lt_irrefl _)
  · exact absurd hfe (hef ▸ lt_irrefl _)
  · exact BitVec.le_antisymm hi hj

theorem mem_chain {table : List Entry} {org : Uuid} {e : Entry} :
    e ∈ chain table org ↔ e ∈ table ∧ e.organizationId = some org := by
  simp [chain]

theorem pairwise_chain (table : List Entry) (org : Uuid) : (chain table org).Pairwise Entry.le :=
  List.pairwise_insertionSort _ _

theorem chain_perm (table : List Entry) (org : Uuid) :
    (chain table org).Perm (table.filter (·.organizationId = some org)) :=
  List.perm_insertionSort _ _

/-- With unique ids there is only one way to order the rows. -/
theorem chain_eq_of_perm {table l : List Entry} {org : Uuid} (hids : (table.map (·.id)).Nodup)
    (hl : l.Perm (table.filter (·.organizationId = some org))) (hs : l.Pairwise Entry.le) :
    chain table org = l := by
  refine List.Perm.eq_of_pairwise ?_ (pairwise_chain table org) hs
    ((chain_perm table org).trans hl.symm)
  intro e f he hf hef hfe
  have het := (mem_chain.mp he).1
  have hft := (List.mem_filter.mp (hl.mem_iff.mp hf)).1
  exact List.inj_on_of_nodup_map hids het hft (Entry.id_eq_of_le hef hfe)

/-! ## Some SHA-256 digests -/

/-- The digest of the first entry of a chain for organization 7. -/
def createdHash : Bytes :=
  [145, 193, 25, 36, 116, 221, 148, 252, 188, 59, 103, 118, 176, 191, 26, 96,
    116, 28, 185, 124, 44, 200, 55, 243, 20, 240, 167, 147, 29, 130, 188, 28]

/-- The digest of the entry after it. -/
def updatedHash : Bytes :=
  [90, 158, 5, 183, 43, 18, 25, 185, 203, 83, 174, 144, 172, 84, 207, 107,
    222, 208, 9, 200, 58, 5, 44, 149, 252, 244, 103, 41, 38, 94, 82, 113]

/-- SHA-256 at the inputs of a few entries, any 32 bytes elsewhere. -/
def sampleDigest (b : Bytes) : Bytes :=
  if b = utf8 "00000000-0000-0000-0000-000000000007|clusters.created|clusters|c1" then createdHash
  else if b = createdHash ++ utf8 "00000000-0000-0000-0000-000000000007|clusters.updated|clusters|c1" then
    updatedHash
  else if b = utf8 "00000000-0000-0000-0000-000000000007|clusters.created|clusters|tampered" then
    [34, 145, 50, 215, 190, 88, 196, 162, 165, 90, 199, 16, 44, 0, 166, 39,
    103, 130, 33, 59, 178, 251, 245, 241, 64, 107, 61, 197, 104, 41, 59, 225]
  else List.replicate 32 0

theorem length_sampleDigest (b : Bytes) : (sampleDigest b).length = 32 := by
  unfold sampleDigest
  split_ifs <;> rfl

end Kubinate.Audit
