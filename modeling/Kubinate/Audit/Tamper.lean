import Kubinate.Audit.Log

/-!
# What `audit_log_verify` notices

A modification of the table rewrites or removes rows without recomputing hashes.
`verify_tampered_ne_nil_iff` says exactly which modifications of a chain that was accepted
are reported: all but those that cut off the end of the chain and, in what is left, keep the
order and every column that enters a hash (`Unnoticed`).
-/

namespace Kubinate.Audit

open Platform Library

/-! ## The hash input determines what was hashed -/

theorem digitChar_encode {n : Nat} (hn : n < 16) :
    ∃ b, String.utf8EncodeChar (Nat.digitChar n) = [b] ∧ b ≠ bar := by
  have h : ∀ n : Fin 16, ∃ b, String.utf8EncodeChar (Nat.digitChar n) = [b] ∧ b ≠ bar := by
    intro n
    refine ⟨(String.utf8EncodeChar (Nat.digitChar n)).headD 0, ?_⟩
    revert n
    decide
  exact h ⟨n, hn⟩

theorem uuid_char_encode {u : Uuid} {c : Char} (hc : c ∈ u.chars) :
    ∃ b, String.utf8EncodeChar c = [b] ∧ b ≠ bar := by
  rcases Uuid.mem_chars hc with rfl | ⟨k, rfl⟩
  · exact ⟨45, by decide⟩
  · exact digitChar_encode (Nat.mod_lt _ (by decide))

theorem bar_notMem_uuidBytes (u : Uuid) : bar ∉ uuidBytes u := by
  intro h
  obtain ⟨c, hc, hb⟩ := List.mem_flatMap.mp h
  obtain ⟨b, hcb, hne⟩ := uuid_char_encode hc
  rw [hcb, List.mem_singleton] at hb
  exact hne hb.symm

theorem length_uuidBytes (u : Uuid) : (uuidBytes u).length = 36 := by
  have hone : ∀ c ∈ u.chars, (String.utf8EncodeChar c).length = 1 := by
    intro c hc
    obtain ⟨b, hcb, -⟩ := uuid_char_encode hc
    rw [hcb]
    rfl
  rw [uuidBytes, List.length_flatMap, List.map_congr_left hone, List.map_const',
    Uuid.length_chars]
  rfl

/-- A missing previous hash cannot be taken for one of 32 bytes: where the first input has
the separator after the organization, the second is still inside the organization. -/
theorem hashInput_inj {p q : Option Bytes} {u x y : Bytes} (hu : u.length = 36) (hbar : bar ∉ u)
    (hp : ∀ b, p = some b → b.length = 32) (hq : ∀ b, q = some b → b.length = 32)
    (h : p.getD [] ++ u ++ bar :: x = q.getD [] ++ u ++ bar :: y) : p = q ∧ x = y := by
  have hmixed : ∀ (b v w : Bytes), b.length = 32 → u ++ bar :: v ≠ b ++ u ++ bar :: w := by
    intro b v w hb heq
    have hl : (u ++ bar :: v)[36]? = some bar := by
      rw [List.getElem?_append_right (by omega), hu]
      rfl
    rw [heq, List.getElem?_append_left (by simp only [List.length_append]; omega),
      List.getElem?_append_right (by omega)] at hl
    exact hbar (List.mem_of_getElem? hl)
  rcases p with _ | b <;> rcases q with _ | c
  · have := List.append_inj_right h rfl
    exact ⟨rfl, (List.cons.inj this).2⟩
  · exact absurd h (hmixed c x y (hq c rfl))
  · exact absurd h.symm (hmixed b y x (hp b rfl))
  · have hbc : b.length = c.length := (hp b rfl).trans (hq c rfl).symm
    obtain ⟨h₁, h₂⟩ := List.append_inj h (by simp [hbc])
    obtain ⟨rfl, -⟩ := List.append_inj h₁ hbc
    exact ⟨rfl, (List.cons.inj h₂).2⟩

/-- The text of a row that enters its hash. -/
def Entry.text (e : Entry) : Option Bytes := e.resourceId.map (payload e.action e.resourceType)

/-- The row before and after agrees in everything that enters the hash chain. -/
def Entry.SameHashed (e f : Entry) : Prop :=
  f.prevHash = e.prevHash ∧ f.hash = e.hash ∧ f.text = e.text

instance (e f : Entry) : Decidable (e.SameHashed f) :=
  inferInstanceAs (Decidable (_ ∧ _ ∧ _))

theorem sameHashed_of_input {e f : Entry} {org : Uuid} {b : Bytes}
    (he : e.organizationId = some org) (hf : f.organizationId = some org)
    (hep : ∀ p, e.prevHash = some p → p.length = 32) (hfp : ∀ p, f.prevHash = some p → p.length = 32)
    (hei : e.input = some b) (hfi : f.input = some b) :
    f.prevHash = e.prevHash ∧ f.text = e.text := by
  simp only [Entry.input, he, hf, hashInput] at hei hfi
  unfold Entry.text
  cases her : e.resourceId with
  | none => simp [her] at hei
  | some r =>
    cases hfr : f.resourceId with
    | none => simp [hfr] at hfi
    | some s =>
      rw [her] at hei
      rw [hfr] at hfi
      have heq := (Option.some.inj hfi).trans (Option.some.inj hei).symm
      obtain ⟨hp, ht⟩ :=
        hashInput_inj (length_uuidBytes org) (bar_notMem_uuidBytes org) hfp hep heq
      exact ⟨hp, congrArg some ht⟩

/-! ## Modifications -/

section Tamper

variable {digest : Bytes → Bytes} {org : Uuid} {edit : Entry → Option Entry} {table : List Entry}

/-- What a modification leaves of a row in the organization's chain: a row that is removed,
or that no longer belongs to the organization, is gone. -/
def within (org : Uuid) (edit : Entry → Option Entry) (e : Entry) : Option Entry :=
  (edit e).filter (·.organizationId = some org)

/-- No row gets a hash that was computed for it: it keeps its hash or gets a wrong one. -/
def NotRecomputed (digest : Bytes → Bytes) (edit : Entry → Option Entry) (table : List Entry) :
    Prop :=
  ∀ e ∈ table, ∀ f ∈ edit e, f.hash = e.hash ∨ ¬ f.Hashed digest

/-- The digest tells apart the inputs hashed along the two lists of rows. -/
def CollisionFree (digest : Bytes → Bytes) (rows : List Entry) : Prop :=
  ∀ a ∈ rows.filterMap Entry.input, ∀ b ∈ rows.filterMap Entry.input, digest a = digest b → a = b

instance (rows : List Entry) : Decidable (CollisionFree digest rows) :=
  inferInstanceAs (Decidable (∀ a ∈ rows.filterMap Entry.input,
    ∀ b ∈ rows.filterMap Entry.input, digest a = digest b → a = b))

/-- The modifications that leave no trace: the end of the chain is cut off, and the rows
that stay keep their order and everything that is hashed. -/
def Unnoticed (org : Uuid) (edit : Entry → Option Entry) (rows : List Entry) : Prop :=
  ∃ kept gone, rows = kept ++ gone ∧ (∀ e ∈ gone, within org edit e = none) ∧
    (∀ e ∈ kept, ∃ f, within org edit e = some f ∧ e.SameHashed f) ∧
    (kept.filterMap (within org edit)).Pairwise Entry.le

theorem organizationId_of_within {e f : Entry} (h : within org edit e = some f) :
    edit e = some f ∧ f.organizationId = some org := by
  obtain ⟨he, hf⟩ := Option.filter_eq_some_iff.mp h
  exact ⟨he, of_decide_eq_true hf⟩

/-- The rows of the organization in the modified table. -/
theorem filter_filterMap_edit (hout : ∀ e ∈ table, e.organizationId ≠ some org →
      within org edit e = none) :
    (table.filterMap edit).filter (·.organizationId = some org) =
      (table.filter (·.organizationId = some org)).filterMap (within org edit) := by
  rw [List.filter_filterMap, List.filterMap_filter]
  refine List.filterMap_congr fun e he => ?_
  by_cases ho : e.organizationId = some org
  · simp only [ho, decide_true, if_true]
    rfl
  · simp only [ho, decide_false, Bool.false_eq_true, if_false]
    exact hout e he ho

theorem input_eq {e : Entry} (he : e.organizationId = some org) :
    e.input = e.text.map fun t => e.prevHash.getD [] ++ uuidBytes org ++ bar :: t := by
  unfold Entry.input Entry.text hashInput
  rw [he]
  cases e.resourceId <;> rfl

/-- The hashes named along an accepted chain are digests. -/
theorem length_prevHash (hlen : ∀ b, (digest b).length = 32) {rows : List Entry}
    (hlinked : Linked Entry.prevHash Entry.hash none rows) (hhashed : ∀ r ∈ rows, r.Hashed digest)
    {e : Entry} (he : e ∈ rows) {p : Bytes} (hp : e.prevHash = some p) : p.length = 32 := by
  obtain ⟨f, hf, rfl⟩ := hlinked.prev_eq_some he hp
  obtain ⟨b, -, hb⟩ := Option.map_eq_some_iff.mp (hhashed f hf)
  rw [← hb]
  exact hlen b

/-- Two hashed rows with the same hash, from chains whose inputs the digest tells apart,
name the same predecessor and have the same text. -/
theorem sameHashed_of_hash {rows : List Entry} (hfree : CollisionFree digest rows)
    {e f : Entry} (he : e ∈ rows) (hf : f ∈ rows)
    (heo : e.organizationId = some org) (hfo : f.organizationId = some org)
    (hep : ∀ p, e.prevHash = some p → p.length = 32) (hfp : ∀ p, f.prevHash = some p → p.length = 32)
    (heh : e.Hashed digest) (hfh : f.Hashed digest) (hhash : f.hash = e.hash) :
    e.SameHashed f := by
  obtain ⟨a, hea, hda⟩ := Option.map_eq_some_iff.mp heh
  obtain ⟨b, hfb, hdb⟩ := Option.map_eq_some_iff.mp hfh
  have ha : a ∈ rows.filterMap Entry.input := List.mem_filterMap.mpr ⟨e, he, hea⟩
  have hb : b ∈ rows.filterMap Entry.input := List.mem_filterMap.mpr ⟨f, hf, hfb⟩
  obtain rfl := hfree a ha b hb (by rw [hda, hdb, hhash])
  obtain ⟨hprev, htext⟩ := sameHashed_of_input heo hfo hep hfp hea hfb
  exact ⟨hprev, hhash, htext⟩

/-- A modified chain that is still accepted was modified without leaving a trace. -/
theorem unnoticed_of_verify (hlen : ∀ b, (digest b).length = 32)
    (hfree : CollisionFree digest (chain table org ++ chain (table.filterMap edit) org))
    (hok : verify digest table org = [])
    (hout : ∀ e ∈ table, e.organizationId ≠ some org → within org edit e = none)
    (hnot : NotRecomputed digest edit table)
    (h : verify digest (table.filterMap edit) org = []) :
    Unnoticed org edit (chain table org) := by
  obtain ⟨hl, hh⟩ := verify_eq_nil_iff.mp hok
  obtain ⟨hl', hh'⟩ := verify_eq_nil_iff.mp h
  -- the surviving rows with their originals, in the order of the modified chain
  let pairs := (table.filter (·.organizationId = some org)).filterMap fun e =>
    (within org edit e).map fun f => (e, f)
  let sorted := pairs.insertionSort fun a b => a.2.le b.2
  have hmem : ∀ a ∈ sorted, a.1 ∈ chain table org ∧ within org edit a.1 = some a.2 := by
    intro a ha
    obtain ⟨e, he, hmap⟩ := List.mem_filterMap.mp ((List.mem_insertionSort _).mp ha)
    obtain ⟨f, hf, rfl⟩ := Option.map_eq_some_iff.mp hmap
    exact ⟨(chain_perm table org).mem_iff.mpr he, hf⟩
  have hsnd : sorted.map Prod.snd = chain (table.filterMap edit) org := by
    rw [chain, filter_filterMap_edit hout, List.map_insertionSort (s := Entry.le) _ _ _
      fun _ _ _ _ => Iff.rfl]
    congr 1
    rw [List.map_filterMap]
    refine List.filterMap_congr fun e _ => ?_
    rw [Option.map_map]
    exact Option.map_id'
  have hpair : ∀ a ∈ sorted, a.1.SameHashed a.2 := by
    intro a ha
    obtain ⟨hchain, hwithin⟩ := hmem a ha
    obtain ⟨hedit, horg⟩ := organizationId_of_within hwithin
    have hin : a.2 ∈ chain (table.filterMap edit) org := hsnd ▸ List.mem_map_of_mem ha
    have hkept : a.2.hash = a.1.hash :=
      (hnot a.1 (mem_chain.mp hchain).1 a.2 hedit).resolve_right (not_not_intro (hh' _ hin))
    exact sameHashed_of_hash hfree (List.mem_append_left _ hchain) (List.mem_append_right _ hin)
      (mem_chain.mp hchain).2 horg (fun _ => length_prevHash hlen hl hh hchain)
      (fun _ => length_prevHash hlen hl' hh' hin) (hh _ hchain) (hh' _ hin) hkept
  -- the originals are linked among themselves, so they are a prefix of the old chain
  have hlinked : Linked Entry.prevHash Entry.hash none (sorted.map Prod.fst) := by
    refine (linked_map_congr fun a ha => ?_).mp (hsnd ▸ hl')
    exact ⟨(hpair a ha).1, (hpair a ha).2.1⟩
  have hnodup : ((chain table org).map Entry.hash).Nodup := by
    refine hl.nodup_hash fun e he f hf heq => ?_
    exact (sameHashed_of_hash hfree (List.mem_append_left _ hf) (List.mem_append_left _ he)
      (mem_chain.mp hf).2 (mem_chain.mp he).2 (fun _ => length_prevHash hlen hl hh hf)
      (fun _ => length_prevHash hlen hl hh he) (hh _ hf) (hh _ he) heq).1
  obtain ⟨gone, hgone⟩ := hl.prefix_of_subset hlinked hnodup (by
    intro e he
    obtain ⟨a, ha, rfl⟩ := List.mem_map.mp he
    exact (hmem a ha).1)
  refine ⟨sorted.map Prod.fst, gone, hgone.symm, fun e he => ?_, fun e he => ?_, ?_⟩
  · -- a row behind the prefix that survived would be in the prefix as well
    by_contra hsome
    obtain ⟨f, hf⟩ := Option.ne_none_iff_exists'.mp hsome
    have hechain : e ∈ chain table org := hgone ▸ List.mem_append_right _ he
    have hesorted : (e, f) ∈ sorted := by
      refine (List.mem_insertionSort _).mpr (List.mem_filterMap.mpr ⟨e, ?_, ?_⟩)
      · exact (chain_perm table org).mem_iff.mp hechain
      · rw [hf]
        rfl
    have hnd := List.Nodup.of_map _ hnodup
    rw [← hgone] at hnd
    exact List.disjoint_of_nodup_append hnd (List.mem_map_of_mem hesorted) he
  · obtain ⟨a, ha, rfl⟩ := List.mem_map.mp he
    exact ⟨a.2, (hmem a ha).2, hpair a ha⟩
  · have hmap : (sorted.map Prod.fst).filterMap (within org edit) = sorted.map Prod.snd := by
      rw [List.filterMap_map, ← List.filterMap_eq_map]
      exact List.filterMap_congr fun a ha => (hmem a ha).2
    rw [hmap, hsnd]
    exact pairwise_chain _ _

/-- A modification that leaves no trace is accepted. -/
theorem verify_of_unnoticed (hok : verify digest table org = [])
    (hids : ((table.filterMap edit).map (·.id)).Nodup)
    (hout : ∀ e ∈ table, e.organizationId ≠ some org → within org edit e = none)
    (h : Unnoticed org edit (chain table org)) :
    verify digest (table.filterMap edit) org = [] := by
  obtain ⟨hl, hh⟩ := verify_eq_nil_iff.mp hok
  obtain ⟨kept, gone, hrows, hgone, hkept, hsorted⟩ := h
  have hnone : gone.filterMap (within org edit) = [] :=
    List.filterMap_eq_nil_iff.mpr hgone
  have hchain : chain (table.filterMap edit) org = kept.filterMap (within org edit) := by
    refine chain_eq_of_perm hids ?_ hsorted
    rw [filter_filterMap_edit hout]
    have hperm := (chain_perm table org).filterMap (within org edit)
    rw [hrows, List.filterMap_append, hnone, List.append_nil] at hperm
    exact hperm
  have hmap : kept.filterMap (within org edit) =
      kept.map fun e => (within org edit e).getD e := by
    rw [← List.filterMap_eq_map]
    refine List.filterMap_congr fun e he => ?_
    obtain ⟨f, hf, -⟩ := hkept e he
    simp only [Function.comp, hf, Option.getD_some]
  rw [verify_eq_nil_iff, hchain]
  constructor
  · rw [hmap]
    have hpre : Linked Entry.prevHash Entry.hash none (kept.map id) := by
      rw [hrows] at hl
      rw [List.map_id]
      exact (linked_append.mp hl).1
    refine (linked_map_congr fun e he => ?_).mp hpre
    obtain ⟨f, hf, hsame⟩ := hkept e he
    rw [hf]
    exact ⟨hsame.1.symm, hsame.2.1.symm⟩
  · intro f hf
    obtain ⟨e, he, hwithin⟩ := List.mem_filterMap.mp hf
    obtain ⟨f', hf', hprev, hhash, htext⟩ := hkept e he
    obtain rfl : f' = f := Option.some.inj (hf'.symm.trans hwithin)
    have hechain : e ∈ chain table org := hrows ▸ List.mem_append_left _ he
    have hinput : f'.input = e.input := by
      rw [input_eq (organizationId_of_within hwithin).2, input_eq (mem_chain.mp hechain).2, hprev,
        htext]
    show f'.input.map digest = some f'.hash
    rw [hinput, hhash]
    exact hh e hechain

/-- A modification of an accepted chain, made without recomputing hashes, is reported unless
it only cuts off the end of the chain and otherwise keeps the order and what is hashed. -/
theorem verify_tampered_ne_nil_iff (hlen : ∀ b, (digest b).length = 32)
    (hfree : CollisionFree digest (chain table org ++ chain (table.filterMap edit) org))
    (hok : verify digest table org = []) (hids : ((table.filterMap edit).map (·.id)).Nodup)
    (hout : ∀ e ∈ table, e.organizationId ≠ some org → within org edit e = none)
    (hnot : NotRecomputed digest edit table) :
    verify digest (table.filterMap edit) org ≠ [] ↔ ¬ Unnoticed org edit (chain table org) :=
  not_congr ⟨unnoticed_of_verify hlen hfree hok hout hnot, verify_of_unnoticed hok hids hout⟩

end Tamper

/-! ## A chain of two entries -/

/-- A cluster is created and updated. -/
def clusterEntries : List Entry :=
  [⟨1, some 7, some 3, none, "clusters.created", "clusters", some "c1", "allowed", none, none, none,
      none, "\x7b\x7d", none, createdHash, 100⟩,
    ⟨2, some 7, some 3, none, "clusters.updated", "clusters", some "c1", "allowed", none, none, none,
      none, "\x7b\x7d", some createdHash, updatedHash, 200⟩]

/-- Rewrites the resource of the first entry. -/
def rewriteResource (e : Entry) : Option Entry :=
  some (if e.id = 1 then { e with resourceId := some "tampered" } else e)

theorem verify_rewriteResource_ne_nil :
    verify sampleDigest (clusterEntries.filterMap rewriteResource) 7 ≠ [] := by
  refine (verify_tampered_ne_nil_iff length_sampleDigest (by decide) (by decide) (by decide)
    (by decide) ?_).mpr ?_
  · intro e _ f hf
    cases hf
    left
    split <;> rfl
  · -- no row was removed, and the first one is not hashed as before
    rintro ⟨kept, gone, hrows, hgone, hkept, -⟩
    have hsome : ∀ e ∈ chain clusterEntries 7, within 7 rewriteResource e ≠ none := by
      decide +kernel
    have hfirst : ∃ e ∈ chain clusterEntries 7,
        ((within 7 rewriteResource e).all fun f => !decide (e.SameHashed f)) = true := by
      decide +kernel
    obtain ⟨e, he, hchanged⟩ := hfirst
    rw [hrows] at he
    rcases List.mem_append.mp he with he | he
    · obtain ⟨f, hf, hsame⟩ := hkept e he
      rw [hf, Option.all_some, Bool.not_eq_true', decide_eq_false_iff_not] at hchanged
      exact hchanged hsame
    · exact hsome e (hrows ▸ List.mem_append_right _ he) (hgone e he)

/-- Turns the decision of the first entry around. -/
def rewriteDecision (e : Entry) : Option Entry :=
  some (if e.id = 1 then { e with decision := "denied" } else e)

/-- A changed decision goes unreported: that column does not enter the hash. -/
theorem not_verify_tampered_ne_nil :
    ¬ ∀ (digest : Bytes → Bytes) (table : List Entry) (org : Uuid) (edit : Entry → Option Entry),
      (∀ b, (digest b).length = 32) →
      CollisionFree digest (chain table org ++ chain (table.filterMap edit) org) →
      verify digest table org = [] → ((table.filterMap edit).map (·.id)).Nodup →
      (∀ e ∈ table, e.organizationId ≠ some org → within org edit e = none) →
      NotRecomputed digest edit table → (∃ e ∈ chain table org, edit e ≠ some e) →
      verify digest (table.filterMap edit) org ≠ [] := by
  intro h
  refine h sampleDigest clusterEntries 7 rewriteDecision length_sampleDigest (by decide) (by decide)
    (by decide) (by decide) ?_ (by decide) (by decide)
  intro e _ f hf
  cases hf
  left
  split <;> rfl

end Kubinate.Audit
