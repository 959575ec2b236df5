import Kubinate.Audit.Tamper
import Kubinate.Library.Utf8

/-!
# What the last hash of a chain determines

`audit_log_hash_input` puts the fields of an entry one after the other with a `'|'` between
them, whatever they contain. Read from its end, a chain that `audit_log_verify` accepts can
therefore be told from its last hash up to the text `action|resource_type|resource_id` of
each entry, and no further.

* `payload_inj`: the text of an entry determines its fields if none of them has a separator.
* `Entry.exists_resplit`: otherwise there are other fields with the same text.
* `binds_iff`: the last hash determines the entries iff none of their fields has a separator.
-/

namespace Kubinate.Audit

open Platform Library

/-! ## Text and its bytes -/

theorem utf8_injective : Function.Injective utf8 :=
  fun _ _ h => String.toList_injective (Utf8.encode_injective h)

@[simp] theorem utf8_append (s t : String) : utf8 (s ++ t) = utf8 s ++ utf8 t := by
  rw [utf8, String.toList_append, List.flatMap_append]
  rfl

theorem utf8_bar : utf8 "|" = [bar] := by decide

/-- The byte of the separator is found in the separator only. -/
theorem bar_mem_utf8EncodeChar {c : Char} : bar ∈ String.utf8EncodeChar c ↔ c = '|' := by
  rw [Utf8.mem_utf8EncodeChar_ascii (by decide)]
  constructor
  · intro h
    exact Char.ext (UInt32.toNat_inj.mp h)
  · rintro rfl
    decide

theorem bar_mem_utf8 {s : String} : bar ∈ utf8 s ↔ '|' ∈ s.toList := by
  unfold utf8
  rw [List.mem_flatMap]
  constructor
  · rintro ⟨c, hc, hbar⟩
    rwa [bar_mem_utf8EncodeChar.mp hbar] at hc
  · intro h
    exact ⟨'|', h, bar_mem_utf8EncodeChar.mpr rfl⟩

/-- Text with a separator in it. -/
theorem exists_split {s : String} (h : '|' ∈ s.toList) : ∃ l r, s = l ++ "|" ++ r := by
  obtain ⟨l, r, hlr⟩ := List.append_of_mem h
  refine ⟨String.ofList l, String.ofList r, ?_⟩
  apply String.toList_injective
  rw [String.toList_append, String.toList_append, String.toList_ofList, String.toList_ofList, hlr]
  simp

/-! ## The text of an entry -/

theorem count_payload (a t r : String) :
    (payload a t r).count bar = (utf8 a).count bar + (utf8 t).count bar + (utf8 r).count bar + 2 := by
  simp only [payload, List.count_append, List.count_cons_self]
  omega

/-- The first separator is in the same place on both sides. -/
theorem append_bar_inj {x y u v : Bytes} (hx : bar ∉ x) (hy : bar ∉ y)
    (h : x ++ bar :: u = y ++ bar :: v) : x = y ∧ u = v := by
  have hindex := congrArg (List.idxOf bar) h
  rw [List.idxOf_append_of_notMem hx, List.idxOf_append_of_notMem hy, List.idxOf_cons_self,
    List.idxOf_cons_self] at hindex
  obtain ⟨hxy, hrest⟩ := List.append_inj h hindex
  exact ⟨hxy, (List.cons.inj hrest).2⟩

/-- Fields without separators are read off the text; another entry with this text has as
many separators, and so none in its fields. -/
theorem payload_inj {a t r a' t' r' : String} (ha : '|' ∉ a.toList) (ht : '|' ∉ t.toList)
    (hr : '|' ∉ r.toList) (h : payload a' t' r' = payload a t r) : a' = a ∧ t' = t ∧ r' = r := by
  have hnone {s : String} (hs : '|' ∉ s.toList) : (utf8 s).count bar = 0 :=
    List.count_eq_zero_of_not_mem fun hbar => hs (bar_mem_utf8.mp hbar)
  have hcount := congrArg (List.count bar) h
  rw [count_payload, count_payload, hnone ha, hnone ht, hnone hr] at hcount
  have ha' : bar ∉ utf8 a' := List.count_eq_zero.mp (by omega)
  have ht' : bar ∉ utf8 t' := List.count_eq_zero.mp (by omega)
  have haBar : bar ∉ utf8 a := fun hbar => ha (bar_mem_utf8.mp hbar)
  have htBar : bar ∉ utf8 t := fun hbar => ht (bar_mem_utf8.mp hbar)
  unfold payload at h
  obtain ⟨hfirst, hrest⟩ := append_bar_inj ha' haBar h
  obtain ⟨hsecond, hthird⟩ := append_bar_inj ht' htBar hrest
  exact ⟨utf8_injective hfirst, utf8_injective hsecond, utf8_injective hthird⟩

namespace Entry

/-- No field that enters the hash has a separator in it. -/
def plain (e : Entry) : Bool :=
  !e.action.toList.contains '|' && !e.resourceType.toList.contains '|' &&
    e.resourceId.all fun r => !r.toList.contains '|'

theorem plain_iff {e : Entry} {r : String} (hr : e.resourceId = some r) :
    e.plain = true ↔ '|' ∉ e.action.toList ∧ '|' ∉ e.resourceType.toList ∧ '|' ∉ r.toList := by
  simp [plain, hr, and_assoc]

/-- What an entry records. -/
def fields (e : Entry) : String × String × Option String := (e.action, e.resourceType, e.resourceId)

theorem fields_of_text {e f : Entry} {r : String} (hr : e.resourceId = some r)
    (hplain : e.plain = true) (h : f.text = e.text) : f.fields = e.fields := by
  obtain ⟨ha, ht, hid⟩ := (plain_iff hr).mp hplain
  unfold text at h
  rw [hr, Option.map_some, Option.map_eq_some_iff] at h
  obtain ⟨r', hr', hpayload⟩ := h
  obtain ⟨haction, htype, rfl⟩ := payload_inj ha ht hid hpayload
  rw [fields, fields, haction, htype, hr', hr]

/-- The entry with other fields. -/
def withFields (e : Entry) (action resourceType : String) (resourceId : Option String) : Entry :=
  { e with action := action, resourceType := resourceType, resourceId := resourceId }

/-- A separator in a field can be taken for one between two fields. -/
theorem exists_resplit {e : Entry} {r : String} (hr : e.resourceId = some r)
    (h : e.plain = false) :
    ∃ a t i, (e.withFields a t i).fields ≠ e.fields ∧ (e.withFields a t i).text = e.text := by
  have hlonger (s l : String) : s ++ "|" ++ l ≠ s := by
    intro heq
    have hlength := congrArg String.length heq
    rw [String.length_append, String.length_append] at hlength
    have hone : "|".length = 1 := rfl
    omega
  by_cases ha : '|' ∈ e.action.toList
  · obtain ⟨x, y, hxy⟩ := exists_split ha
    refine ⟨x, y ++ "|" ++ e.resourceType, e.resourceId, ?_, ?_⟩
    · intro heq
      have haction : x = e.action := congrArg Prod.fst heq
      rw [hxy] at haction
      exact hlonger x y haction.symm
    · simp [text, withFields, hr, payload, hxy, utf8_bar]
  by_cases ht : '|' ∈ e.resourceType.toList
  · obtain ⟨x, y, hxy⟩ := exists_split ht
    refine ⟨e.action ++ "|" ++ x, y, e.resourceId, ?_, ?_⟩
    · intro heq
      exact hlonger e.action x (congrArg Prod.fst heq)
    · simp [text, withFields, hr, payload, hxy, utf8_bar]
  · have hid : '|' ∈ r.toList := by
      by_contra hid
      rw [(plain_iff hr).mpr ⟨ha, ht, hid⟩] at h
      cases h
    obtain ⟨x, y, hxy⟩ := exists_split hid
    refine ⟨e.action, e.resourceType ++ "|" ++ x, some y, ?_, ?_⟩
    · intro heq
      exact hlonger e.resourceType x (congrArg (fun f => f.2.1) heq)
    · simp [text, withFields, hr, payload, hxy, utf8_bar]

end Entry

/-! ## The history behind a hash -/

section History

variable {digest : Bytes → Bytes} {org : Uuid} {table table' : List Entry}

/-- The hash of the last entry. -/
def finalHash (table : List Entry) (org : Uuid) : Option Bytes :=
  (chain table org).getLast?.map (·.hash)

def history (table : List Entry) (org : Uuid) : List (String × String × Option String) :=
  (chain table org).map Entry.fields

/-- Every previous hash is missing or has the length of a digest. -/
def PrevHashes (rows : List Entry) : Prop := ∀ e ∈ rows, ∀ p, e.prevHash = some p → p.length = 32

/-- A chain that is accepted with the same last hash has the same entries. -/
def Binds (digest : Bytes → Bytes) (table : List Entry) (org : Uuid) : Prop :=
  ∀ table', verify digest table' org = [] → PrevHashes (chain table' org) →
    CollisionFree digest (chain table org ++ chain table' org) →
    finalHash table' org = finalHash table org → history table' org = history table org

/-- The hash of a row without a resource id would be null. -/
theorem resourceId_of_hashed {e : Entry} (h : e.Hashed digest) : ∃ r, e.resourceId = some r := by
  unfold Entry.Hashed Entry.input hashInput at h
  split at h
  · next hr =>
    exact ⟨_, hr⟩
  · cases h

theorem binds_of_plain (hok : verify digest table org = []) (hprev : PrevHashes (chain table org))
    (hplain : ∀ e ∈ chain table org, e.plain = true) : Binds digest table org := by
  intro table' hok' hprev' hfree hfinal
  obtain ⟨hl, hh⟩ := verify_eq_nil_iff.mp hok
  obtain ⟨hl', hh'⟩ := verify_eq_nil_iff.mp hok'
  have hagree : List.Forall₂ (fun f e => Entry.fields f = Entry.fields e) (chain table' org)
      (chain table org) := by
    refine hl'.forall₂_of_getLast hl hfinal fun f hf e he heq => ?_
    have hsame := sameHashed_of_hash hfree (List.mem_append_left _ he)
      (List.mem_append_right _ hf) (mem_chain.mp he).2 (mem_chain.mp hf).2 (hprev e he)
      (hprev' f hf) (hh e he) (hh' f hf) heq
    obtain ⟨r, hr⟩ := resourceId_of_hashed (hh e he)
    exact ⟨hsame.1, Entry.fields_of_text hr (hplain e he) hsame.2.2⟩
  rw [history, history]
  exact List.forall₂_eq_eq_eq ▸ List.forall₂_map_left_iff.mpr (List.forall₂_map_right_iff.mpr hagree)

/-- One entry with other fields. -/
def rewriteFields (e e' : Entry) (r : Entry) : Entry := if r = e then e' else r

theorem binds_only_plain (hok : verify digest table org = [])
    (hprev : PrevHashes (chain table org)) (hfree : CollisionFree digest (chain table org))
    (hbinds : Binds digest table org) {e : Entry} (he : e ∈ chain table org) : e.plain = true := by
  obtain ⟨hl, hh⟩ := verify_eq_nil_iff.mp hok
  obtain ⟨r, hr⟩ := resourceId_of_hashed (hh e he)
  by_contra hplain
  obtain ⟨a, t, i, hfields, htext⟩ := Entry.exists_resplit hr (by simpa using hplain)
  let f := rewriteFields e (e.withFields a t i)
  -- everything but the fields of the one entry is as it was
  have hsame (P : Entry → Prop) (x : Entry) (hx : P x) (hnew : x = e → P (e.withFields a t i)) :
      P (f x) := by
    unfold f rewriteFields
    split
    · next hxe => exact hnew hxe
    · exact hx
  have hprevHash (x : Entry) : (f x).prevHash = x.prevHash :=
    hsame (fun y => y.prevHash = x.prevHash) x rfl fun hxe => hxe ▸ rfl
  have hhash (x : Entry) : (f x).hash = x.hash :=
    hsame (fun y => y.hash = x.hash) x rfl fun hxe => hxe ▸ rfl
  have horg (x : Entry) : (f x).organizationId = x.organizationId :=
    hsame (fun y => y.organizationId = x.organizationId) x rfl fun hxe => hxe ▸ rfl
  have hle (x y : Entry) : x.le y ↔ (f x).le (f y) := by
    have hid (x : Entry) : (f x).id = x.id := hsame (fun y => y.id = x.id) x rfl fun hxe => hxe ▸ rfl
    have htime (x : Entry) : (f x).createdAt = x.createdAt :=
      hsame (fun y => y.createdAt = x.createdAt) x rfl fun hxe => hxe ▸ rfl
    unfold Entry.le
    rw [hid, hid, htime, htime]
  have hinput (x : Entry) : (f x).input = x.input := by
    refine hsame (fun y => y.input = x.input) x rfl fun hxe => ?_
    subst hxe
    have ho := (mem_chain.mp he).2
    rw [input_eq ho, ← htext]
    exact input_eq ho
  have hchain : chain (table.map f) org = (chain table org).map f := by
    have hfilter : (table.map f).filter (·.organizationId = some org) =
        (table.filter (·.organizationId = some org)).map f := by
      rw [List.filter_map]
      congr 1
      exact List.filter_congr fun x _ => by rw [Function.comp_apply, horg]
    rw [chain, hfilter, chain, List.map_insertionSort (s := Entry.le) _ _ _ fun x _ y _ => hle x y]
  have hinputs : ((chain table org).map f).filterMap Entry.input =
      (chain table org).filterMap Entry.input := by
    rw [List.filterMap_map]
    exact List.filterMap_congr fun x _ => hinput x
  have hhistory := hbinds (table.map f) ?_ ?_ ?_ ?_
  · -- the rewritten entry is in the history with its new fields
    rw [history, history, hchain, List.map_map, List.map_inj_left] at hhistory
    have hnew := hhistory e he
    rw [Function.comp_apply, show f e = e.withFields a t i from if_pos rfl] at hnew
    exact hfields hnew
  · rw [verify_eq_nil_iff, hchain]
    constructor
    · have hid := (List.map_id (chain table org)).symm ▸ hl
      exact (linked_map_congr fun x _ => ⟨(hprevHash x).symm, (hhash x).symm⟩).mp hid
    · intro y hy
      obtain ⟨x, hx, rfl⟩ := List.mem_map.mp hy
      show (f x).input.map digest = some (f x).hash
      rw [hinput, hhash]
      exact hh x hx
  · rw [hchain]
    intro y hy p hp
    obtain ⟨x, hx, rfl⟩ := List.mem_map.mp hy
    exact hprev x hx p (hprevHash x ▸ hp)
  · rw [hchain]
    intro x hx y hy
    rw [List.filterMap_append, hinputs, List.mem_append, or_self] at hx hy
    exact hfree x hx y hy
  · rw [finalHash, finalHash, hchain, List.getLast?_map, Option.map_map]
    exact Option.map_congr fun x _ => hhash x

/-- What an accepted chain has recorded can be told from its last hash iff no field of its
entries has a separator in it. -/
theorem binds_iff (hok : verify digest table org = []) (hprev : PrevHashes (chain table org))
    (hfree : CollisionFree digest (chain table org)) :
    Binds digest table org ↔ ∀ e ∈ chain table org, e.plain = true :=
  ⟨fun hbinds _ he => binds_only_plain hok hprev hfree hbinds he, binds_of_plain hok hprev⟩

end History

theorem binds_iff_clusterEntries :
    Binds sampleDigest clusterEntries 7 ↔ ∀ e ∈ chain clusterEntries 7, e.plain = true := by
  refine binds_iff (by decide) ?_ (by decide)
  intro e he p hp
  have hrows : ∀ e ∈ chain clusterEntries 7, e.prevHash.all (·.length = 32) = true := by decide
  have hrow := hrows e he
  rw [hp, Option.all_some] at hrow
  exact of_decide_eq_true hrow

/-- A log of one entry whose hash is its input. -/
def oneEntry (action resourceType : String) : List Entry :=
  [⟨1, some 7, none, none, action, resourceType, some "c", "allowed", none, none, none, none,
    "\x7b\x7d", none, (hashInput none (some 7) action resourceType (some "c")).getD [], 100⟩]

/-- An action that ends where another resource type begins. -/
theorem not_binds :
    ¬ ∀ (digest : Bytes → Bytes) (table table' : List Entry) (org : Uuid),
      Function.Injective digest → verify digest table org = [] → verify digest table' org = [] →
      PrevHashes (chain table org) → PrevHashes (chain table' org) →
      finalHash table' org = finalHash table org → history table' org = history table org := by
  intro h
  have hprev (action resourceType : String) :
      PrevHashes (chain (oneEntry action resourceType) 7) := by
    intro e he p hp
    rw [mem_chain] at he
    obtain ⟨he, -⟩ := he
    rw [List.mem_singleton.mp he] at hp
    cases hp
  have hsame := h id (oneEntry "a|b" "t") (oneEntry "a" "b|t") 7 Function.injective_id (by decide)
    (by decide) (hprev _ _) (hprev _ _) (by decide)
  exact absurd hsame (by decide)

end Kubinate.Audit
