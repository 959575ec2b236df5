import Kubinate.Audit.Append

/-!
# When honest appends verify

`honest_appends_verify`: in every run in which each insert still finds the tail it read,
sorts behind it, and meets no other open transaction that has inserted an entry for the same
organization (`appendsInOrder`), `audit_log_verify` reports nothing for any organization.

The row lock of the append gives the last of these except for an organization that has no
entry yet; nothing in the code gives the first two.
-/

namespace Kubinate.Audit

open Platform Library

variable {digest : Bytes → Bytes}

/-! ## What the programs insert -/

/-- Entries are inserted with an organization and with the digest of their own input. -/
def HonestCall (digest : Bytes → Bytes) : AuditStatement → Prop
  | .insertEntry e => e.Hashed digest ∧ ∃ org, e.organizationId = some org
  | _ => True

theorem entry_hashed (now : Timestamp) (session : Session) (prev : Option Bytes) (ev : Event) :
    (ev.entry digest now session prev).Hashed digest := rfl

theorem append_honest (now : Timestamp) (session : Session) (ev : Event) (h : Trace auditSql) :
    Meets (fun _ c => HonestCall digest c) (fun _ _ _ => True) (fun _ _ => True)
      (append digest now session ev).run h := by
  have hinsert : ∀ prev, HonestCall digest (.insertEntry (ev.entry digest now session prev)) :=
    fun prev => ⟨entry_hashed now session prev ev, ev.org, rfl⟩
  refine ⟨trivial, fun r _ => ?_⟩
  rcases r with e | tail
  · trivial
  rcases tail with _ | row
  · exact ⟨hinsert none, fun _ _ => trivial⟩
  · refine ⟨trivial, fun r _ => ?_⟩
    rcases r with e | ⟨⟩
    · trivial
    · exact ⟨hinsert (some row.hash), fun _ _ => trivial⟩

theorem appendAll_honest (now : Timestamp) (session : Session) (ws : List AuditedWrite)
    (h : Trace auditSql) :
    Meets (fun _ c => HonestCall digest c) (fun _ _ _ => True) (fun _ _ => True)
      (appendAll digest now session ws).run h := by
  induction ws generalizing h with
  | nil => trivial
  | cons w ws ih =>
    unfold appendAll
    cases w.event? with
    | none => exact ih h
    | some ev =>
      exact meets_bindE (append_honest now session ev h) (fun h _ _ => ih h) fun _ _ _ => trivial

theorem auditProgram_honest (j : AuditJob) :
    Meets (fun _ c => HonestCall digest c) (fun _ _ _ => True) (fun _ _ => True)
      (j.program digest) [] := by
  refine ⟨trivial, fun r _ => ?_⟩
  rcases r with e | ⟨⟩
  · trivial
  refine meets_bind (p := (appendAll digest j.startedAt j.session j.writes).run)
    (appendAll_honest j.startedAt j.session j.writes _) fun h r _ => ?_
  rcases r with e | ⟨⟩
  · exact ⟨trivial, fun _ _ => trivial⟩
  · cases j.commits <;> exact ⟨trivial, fun _ _ => trivial⟩

/-! ## Tables that verify -/

/-- `audit_log_verify` reports nothing for any organization. -/
def Verifies (digest : Bytes → Bytes) (table : List Entry) : Prop :=
  ∀ org, verify digest table org = []

theorem verify_congr {table table' : List Entry} {org : Uuid}
    (h : table.filter (·.organizationId = some org) = table'.filter (·.organizationId = some org)) :
    verify digest table org = verify digest table' org := by
  rw [verify, verify, chain, chain, h]

theorem orderedInsert_concat {a e : Entry} (h : a.le e) (l : List Entry) :
    (l ++ [e]).orderedInsert Entry.le a = l.orderedInsert Entry.le a ++ [e] := by
  induction l with
  | nil => simp [List.orderedInsert, h]
  | cons b l ih =>
    simp only [List.cons_append, List.orderedInsert]
    split
    · rfl
    · rw [ih]
      rfl

/-- An entry that sorts behind all others goes to the end of its chain. -/
theorem chain_concat {table : List Entry} {e : Entry} {org : Uuid} (he : e.organizationId = some org)
    (hle : ∀ f ∈ chain table org, f.le e) : chain (table ++ [e]) org = chain table org ++ [e] := by
  have key : ∀ l : List Entry, (∀ f ∈ l, f.le e) →
      (l ++ [e]).insertionSort Entry.le = l.insertionSort Entry.le ++ [e] := by
    intro l
    induction l with
    | nil => intro _; rfl
    | cons a l ih =>
      intro hl
      rw [List.cons_append, List.insertionSort_cons, List.insertionSort_cons,
        ih fun f hf => hl f (List.mem_cons_of_mem _ hf), orderedInsert_concat (hl a List.mem_cons_self)]
  rw [chain, chain, List.filter_append, List.filter_singleton, he]
  simp only [decide_true]
  exact key _ fun f hf => hle f ((chain_perm table org).mem_iff.mpr hf)

/-- All entries of a chain come before its tail. -/
theorem le_tail {table : List Entry} {org : Uuid} {t : Entry}
    (ht : (chain table org).getLast? = some t) : ∀ f ∈ chain table org, f.le t := by
  intro f hf
  obtain ⟨l, hl⟩ := List.getLast?_eq_some_iff.mp ht
  have hpair := pairwise_chain table org
  rw [hl] at hf hpair
  rcases List.mem_append.mp hf with hf | hf
  · exact (List.pairwise_append.mp hpair).2.2 f hf t List.mem_cons_self
  · rw [List.mem_singleton.mp hf]
    exact (Std.Total.total t t).elim id id

/-- Appending an honest entry at the end of its chain keeps the table verifying. -/
theorem verifies_concat {table : List Entry} {e : Entry} {org : Uuid} (h : Verifies digest table)
    (he : e.organizationId = some org) (hh : e.Hashed digest)
    (hprev : e.prevHash = (chain table org).getLast?.map Entry.hash)
    (hle : ∀ t, (chain table org).getLast? = some t → t.le e) : Verifies digest (table ++ [e]) := by
  intro org'
  by_cases ho : org' = org
  · subst ho
    have hall : ∀ f ∈ chain table org', f.le e := by
      intro f hf
      cases ht : (chain table org').getLast? with
      | none =>
        rw [List.getLast?_eq_none_iff] at ht
        rw [ht] at hf
        cases hf
      | some t => exact Trans.trans (le_tail ht f hf) (hle t ht)
    obtain ⟨hl, hhash⟩ := verify_eq_nil_iff.mp (h org')
    rw [verify_eq_nil_iff, chain_concat he hall]
    refine ⟨linked_concat.mpr ⟨hl, hprev⟩, fun r hr => ?_⟩
    rcases List.mem_append.mp hr with hr | hr
    · exact hhash r hr
    · rw [List.mem_singleton.mp hr]
      exact hh
  · refine (verify_congr ?_).trans (h org')
    have hne : e.organizationId ≠ some org' := fun h => ho (Option.some.inj (h.symm.trans he))
    rw [List.filter_append, List.filter_singleton]
    simp [hne]

/-! ## The condition and the invariant -/

/-- The entries that transaction `i` has inserted. -/
def AuditServer.inserted (v : AuditServer) (i : Nat) : List Entry :=
  (Store.own v i).filterMap AuditWrite.entry?

/-- An insert that takes effect names the tail of the chain as it is now, sorts behind it,
and no other open transaction has inserted an entry for the organization. -/
def appendsInOrder (s : PoolState auditSql AuditServer AuditJob Unit) : Act AuditJob Reply → Bool
  | .start _ => true
  | .step i x =>
    match s.nextCall i with
    | some (.insertEntry e) =>
      x = .failed || e.organizationId.all fun org =>
        e.prevHash = (s.world.tail i org).map Entry.hash &&
          ((s.world.tail i org).all fun t => t.le e) &&
          (Store.others s.world i).all fun w => w.entry?.all fun f => f.organizationId ≠ some org
    | _ => true

theorem view_eq_append (v : AuditServer) (i : Nat) : v.view i = v.committed ++ v.inserted i := by
  have key : ∀ (ws : List AuditWrite) (table : List Entry),
      ws.foldl applyWrite table = table ++ ws.filterMap AuditWrite.entry? := by
    intro ws
    induction ws with
    | nil => simp
    | cons w ws ih =>
      intro table
      cases w with
      | insert e => simp [applyWrite, ih, AuditWrite.entry?]
      | lock id => exact ih table
  exact key _ _

/-- What everybody sees verifies, and no two open transactions have inserted entries for the
same organization. -/
structure AuditSound (digest : Bytes → Bytes) (v : AuditServer) : Prop where
  committed : Verifies digest v.committed
  view : ∀ i, Verifies digest (v.view i)
  exclusive : ∀ i j, i ≠ j → ∀ e ∈ v.inserted i, ∀ f ∈ v.inserted j,
    e.organizationId ≠ f.organizationId

namespace AuditSound

variable {v v' : AuditServer} {i : Nat}

/-- A change that leaves the committed rows and everybody's inserted entries alone. -/
theorem congr (h : AuditSound digest v) (hc : v'.committed = v.committed)
    (hi : ∀ k, v'.inserted k = v.inserted k) : AuditSound digest v' where
  committed := hc ▸ h.committed
  view k := by
    rw [view_eq_append, hc, hi, ← view_eq_append]
    exact h.view k
  exclusive j k hjk := by
    rw [hi, hi]
    exact h.exclusive j k hjk

theorem rollback (h : AuditSound digest v) : AuditSound digest (Store.rollback v i) := by
  have hins : ∀ k, AuditServer.inserted (Store.rollback v i) k =
      if k = i then [] else v.inserted k := by
    intro k
    unfold AuditServer.inserted
    rw [Store.rollback_own]
    split <;> rfl
  constructor
  · exact h.committed
  · intro k
    rw [view_eq_append, hins]
    split
    · rw [List.append_nil]
      exact h.committed
    · exact view_eq_append v k ▸ h.view k
  · intro j k hjk e he f hf
    rw [hins] at he hf
    split at he
    · cases he
    split at hf
    · cases hf
    exact h.exclusive j k hjk e he f hf

theorem commit (h : AuditSound digest v) : AuditSound digest (Store.commit applyWrite v i) := by
  have hins : ∀ k, AuditServer.inserted (Store.commit applyWrite v i) k =
      if k = i then [] else v.inserted k := by
    intro k
    unfold AuditServer.inserted
    rw [Store.commit_own]
    split <;> rfl
  have hcommitted : (Store.commit applyWrite v i).committed = v.committed ++ v.inserted i :=
    view_eq_append v i
  constructor
  · exact h.view i
  · intro k
    rw [view_eq_append, hins, hcommitted]
    split
    · rw [List.append_nil]
      exact view_eq_append v i ▸ h.view i
    · next hk =>
      -- an organization has new entries from one of the two transactions at most
      intro org
      by_cases hmine : ∃ f ∈ v.inserted k, f.organizationId = some org
      · obtain ⟨f, hf, hfo⟩ := hmine
        have hnone : (v.inserted i).filter (·.organizationId = some org) = [] := by
          rw [List.filter_eq_nil_iff]
          intro e he heo
          exact h.exclusive i k (Ne.symm hk) e he f hf ((of_decide_eq_true heo).trans hfo.symm)
        refine (verify_congr ?_).trans (h.view k org)
        rw [view_eq_append, List.filter_append, List.filter_append, hnone, List.append_nil,
          List.filter_append]
      · have hnone : (v.inserted k).filter (·.organizationId = some org) = [] := by
          rw [List.filter_eq_nil_iff]
          intro f hf hfo
          exact hmine ⟨f, hf, of_decide_eq_true hfo⟩
        refine (verify_congr ?_).trans (h.view i org)
        rw [view_eq_append, List.filter_append, hnone, List.append_nil]
  · intro j k hjk e he f hf
    rw [hins] at he hf
    split at he
    · cases he
    split at hf
    · cases hf
    exact h.exclusive j k hjk e he f hf

/-- An insert that meets the condition. -/
theorem insert {e : Entry} {org : Uuid} (h : AuditSound digest v)
    (hw : Store.write v i (.insert e) = some v') (he : e.organizationId = some org)
    (hh : e.Hashed digest) (hprev : e.prevHash = (v.tail i org).map Entry.hash)
    (hle : ∀ t, v.tail i org = some t → t.le e)
    (hothers : ∀ k, k ≠ i → ∀ f ∈ v.inserted k, f.organizationId ≠ some org) :
    AuditSound digest v' := by
  have hins : ∀ k, v'.inserted k = if k = i then v.inserted i ++ [e] else v.inserted k := by
    intro k
    unfold AuditServer.inserted
    rw [Store.write_own hw]
    split
    · rw [List.filterMap_append]
      rfl
    · rfl
  have hc := Store.write_committed hw
  constructor
  · rw [hc]
    exact h.committed
  · intro k
    rw [view_eq_append, hins, hc]
    split
    · rw [← List.append_assoc, ← view_eq_append]
      exact verifies_concat (h.view i) he hh hprev hle
    · rw [← view_eq_append]
      exact h.view k
  · intro j k hjk a ha b hb
    rw [hins] at ha hb
    split at ha <;> split at hb
    · next hj hk => exact absurd (hj.trans hk.symm) hjk
    · next hj hk =>
      rcases List.mem_append.mp ha with ha | ha
      · exact h.exclusive i k (Ne.symm hk) a ha b hb
      · rw [List.mem_singleton.mp ha, he]
        exact Ne.symm (hothers k hk b hb)
    · next hj hk =>
      rcases List.mem_append.mp hb with hb | hb
      · exact h.exclusive j i hj a ha b hb
      · rw [List.mem_singleton.mp hb, he]
        exact hothers j hj a ha
    · exact h.exclusive j k hjk a ha b hb

end AuditSound

/-! ## Every run -/

theorem auditSound_answer {v v' : AuditServer} {i : Nat} {c : AuditStatement} {x : Reply}
    {r : c.Answer} (h : AuditSound digest v) (hc : HonestCall digest c)
    (hinsert : ∀ e, c = .insertEntry e → x ≠ .failed → ∀ org, e.organizationId = some org →
      e.prevHash = (v.tail i org).map Entry.hash ∧ (∀ t, v.tail i org = some t → t.le e) ∧
        ∀ w ∈ Store.others v i, ∀ f, w.entry? = some f → f.organizationId ≠ some org)
    (ha : v.answer i c x = some (v', r)) : AuditSound digest v' := by
  cases x with
  | failed =>
    cases c with
    | commit | rollback =>
      cases ha
      exact h.rollback
    | begin | selectTail | lockEntry | insertEntry =>
      cases ha
      exact h
  | lost =>
    cases c <;> cases ha
    exact h.commit
  | ok =>
    cases c with
    | begin =>
      simp only [AuditServer.answer, AuditServer.execute] at ha
      split at ha
      · cases ha
      · cases ha
        exact h.congr rfl fun _ => rfl
    | commit =>
      cases ha
      exact h.commit
    | rollback =>
      cases ha
      exact h.rollback
    | selectTail org =>
      cases ha
      exact h
    | lockEntry id =>
      simp only [AuditServer.answer, AuditServer.execute] at ha
      split at ha
      · cases ha
      obtain ⟨v₁, hw, he⟩ := Option.map_eq_some_iff.mp ha
      cases he
      refine h.congr (Store.write_committed hw) fun k => ?_
      unfold AuditServer.inserted
      rw [Store.write_own hw]
      split
      · next hk =>
        subst hk
        rw [List.filterMap_append]
        exact List.append_nil _
      · rfl
    | insertEntry e =>
      simp only [AuditServer.answer, AuditServer.execute] at ha
      split at ha
      · cases ha
      split at ha
      · cases ha
        exact h
      obtain ⟨v₁, hw, he⟩ := Option.map_eq_some_iff.mp ha
      cases he
      obtain ⟨hh, org, horg⟩ := hc
      obtain ⟨hprev, hle, hothers⟩ := hinsert e rfl (by simp) org horg
      refine h.insert hw horg hh hprev hle fun k hk f hf => ?_
      obtain ⟨w, hw, hwf⟩ := List.mem_filterMap.mp hf
      exact hothers w (Store.mem_others.mpr ⟨k, hk, hw⟩) f hwf

/-- In every run whose inserts are in order, `audit_log_verify` reports nothing for any
organization, in every state reached and so in particular after all transactions have
committed or rolled back. -/
theorem honest_appends_verify {table : List Entry} {as : List (Act AuditJob Reply)}
    {s : PoolState auditSql AuditServer AuditJob Unit} (htable : Verifies digest table)
    (hC : (auditPool digest).allSteps appendsInOrder (Pool.init (.ofCommitted table)) as = true)
    (h : (auditPool digest).exec (Pool.init (.ofCommitted table)) as = some s) :
    Verifies digest s.world.committed := by
  have h0 : AuditSound digest (.ofCommitted table) := by
    refine ⟨htable, fun i => ?_, fun i j _ e he => ?_⟩
    · rw [view_eq_append]
      show Verifies digest (table ++ [])
      rw [List.append_nil]
      exact htable
    · cases he
  have hslots := Pool.exec_slots (G := AuditSound digest) (L := fun _ _ _ => True)
    auditProgram_honest (fun _ _ _ _ _ => trivial) ?_ (Pool.slots_init h0 fun _ => trivial) hC h
  · exact hslots.world.committed
  intro s i x t c v r js hs hCs _ hnext hcall ha
  obtain ⟨_, hv, he⟩ := Option.map_eq_some_iff.mp ha
  cases he
  refine ⟨auditSound_answer hs.world hcall ?_ hv, trivial, fun _ _ => trivial⟩
  rintro e rfl hx org horg
  simp only [appendsInOrder, hnext, hx, decide_false, Bool.false_or, horg, Option.all_some,
    Bool.and_eq_true, decide_eq_true_eq, List.all_eq_true] at hCs
  obtain ⟨⟨hprev, hle⟩, hothers⟩ := hCs
  refine ⟨hprev, fun t ht => ?_, fun w hw f hf => ?_⟩
  · rw [ht] at hle
    exact of_decide_eq_true hle
  · have hall := hothers w hw
    rw [hf] at hall
    exact of_decide_eq_true hall

/-! ## Two entries for a new cluster -/

/-- One transaction that records the creation and an update of a cluster; `first` and
`second` are the ids that its entries get. -/
def createAndUpdate (first second : Uuid) : AuditJob where
  startedAt := 100
  session := ⟨some 3, none, none, none⟩
  writes := [.explicit first 7 "clusters.created" "clusters" "c1" "allowed" noMetadata,
    .explicit second 7 "clusters.updated" "clusters" "c1" "allowed" noMetadata]
  commits := true

/-- The transaction alone, from its start to its commit. -/
def runCreateAndUpdate (first second : Uuid) : List (Act AuditJob Reply) :=
  .start (createAndUpdate first second) :: List.replicate 7 (.step 0 .ok)

theorem honest_appends_verify_increasing_ids :
    ∃ s, (auditPool sampleDigest).exec (Pool.init (.ofCommitted [])) (runCreateAndUpdate 1 2) =
        some s ∧ s.world.committed.length = 2 ∧ Verifies sampleDigest s.world.committed := by
  have hrun : ((auditPool sampleDigest).exec (Pool.init (.ofCommitted []))
      (runCreateAndUpdate 1 2)).any (fun s => s.world.committed.length = 2) = true := by decide
  obtain ⟨s, hs, hlen⟩ := (Option.any_eq_true _ _).mp hrun
  exact ⟨s, hs, of_decide_eq_true hlen, honest_appends_verify (fun _ => rfl) (by decide) hs⟩

/-- The second entry of a transaction has the same time and may get a smaller id; then it is
verified before the entry it names. -/
theorem not_honest_appends_verify :
    ¬ ∀ (digest : Bytes → Bytes) (table : List Entry) (as : List (Act AuditJob Reply))
      (s : PoolState auditSql AuditServer AuditJob Unit), Verifies digest table →
      (auditPool digest).exec (Pool.init (.ofCommitted table)) as = some s → s.quiet = true →
      Verifies digest s.world.committed := by
  intro h
  have hrun : ((auditPool sampleDigest).exec (Pool.init (.ofCommitted []))
      (runCreateAndUpdate 2 1)).any
      (fun s => s.quiet ∧ verify sampleDigest s.world.committed 7 ≠ []) = true := by decide
  obtain ⟨s, hs, hbad⟩ := (Option.any_eq_true _ _).mp hrun
  replace hbad := of_decide_eq_true hbad
  exact hbad.2 (h sampleDigest [] (runCreateAndUpdate 2 1) s (fun _ => rfl) hs hbad.1 7)

end Kubinate.Audit
