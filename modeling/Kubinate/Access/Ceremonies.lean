import Mathlib.Data.List.Nodup
import Kubinate.Access.Accounts
import Kubinate.Library.Sequence

/-!
# The ceremony stores

The two stores of pending ceremonies in `crates/identity/src/webauthn.rs`: the table
`webauthn_ceremonies`, where a take is one conditional `DELETE`, and the map of the unit
tests, where a take removes first and looks at the row afterwards. A take under the wrong
kind therefore leaves the row in the table and drops it from the map.

* `OneShot.once`: a store that hands out only what it removes returns no ceremony twice.
* `memory_rows_iff`: what the map still holds of the unexpired rows of the table.
* `stores_agree`: up to ceremonies that were named under the wrong kind, the stores answer
  alike.
* `not_stores_agree`: a take under the wrong kind, and then one under the right kind.
-/

namespace Kubinate.Access

open Platform Library

/-- The trait `CeremonyStore`; a take is told what the clock shows. -/
structure CeremonyStore (σ : Type) where
  put : σ → Ceremony → σ × Except PlatformError Unit
  take : σ → Timestamp → Uuid → CeremonyKind → σ × Except PlatformError (Option Ceremony)

/-! ## The table -/

/-- `webauthn_ceremonies`, and the users that its rows may refer to. -/
structure PgCeremonies where
  users : List Uuid
  rows : List Ceremony
  primaryKey : (rows.map (·.id)).Nodup

/-- The rows that a take deletes. -/
def takes (now : Timestamp) (id : Uuid) (kind : CeremonyKind) (c : Ceremony) : Bool :=
  c.id == id && c.kind == kind && decide (now < c.expiresAt)

/-- `PgCeremonyStore` -/
def pgCeremonyStore : CeremonyStore PgCeremonies where
  put s row :=
    if h : row.id ∈ s.rows.map (·.id) then (s, .error (.database .uniqueViolation))
    else if row.userId ∉ s.users then (s, .error (.database .foreignKeyViolation))
    else
      ({ s with
        rows := s.rows ++ [row]
        primaryKey := by
          rw [List.map_append]
          refine List.Nodup.append s.primaryKey (List.nodup_singleton _) ?_
          intro id hid hrow
          rw [List.map_singleton, List.mem_singleton] at hrow
          exact h (hrow ▸ hid) }, .ok ())
  take s now id kind :=
    ({ s with
      rows := s.rows.filter fun c => !takes now id kind c
      primaryKey := s.primaryKey.sublist (List.filter_sublist.map _) },
      .ok (s.rows.find? (takes now id kind)))

/-- The take of the handlers is the one of the table. -/
theorem takeCeremony_eq (w : Accounts) {s : PgCeremonies} (h : s.rows = w.ceremonies) (id : Uuid)
    (kind : CeremonyKind) :
    (pgCeremonyStore.take s w.clock id kind).1.rows = (w.takeCeremony id kind).1.ceremonies ∧
      (pgCeremonyStore.take s w.clock id kind).2 = .ok (w.takeCeremony id kind).2 := by
  simp only [pgCeremonyStore, Accounts.takeCeremony, h]
  exact ⟨rfl, rfl⟩

/-! ## The map -/

/-- The map from ids to rows. -/
structure CeremonyMap where
  inner : List Ceremony
  keys : (inner.map (·.id)).Nodup

namespace CeremonyMap

def remove (m : CeremonyMap) (id : Uuid) : CeremonyMap where
  inner := m.inner.filter (·.id != id)
  keys := m.keys.sublist (List.filter_sublist.map _)

def insert (m : CeremonyMap) (row : Ceremony) : CeremonyMap where
  inner := row :: (m.remove row.id).inner
  keys := by
    rw [List.map_cons, List.nodup_cons]
    refine ⟨?_, (m.remove row.id).keys⟩
    intro hmem
    obtain ⟨c, hc, hid⟩ := List.mem_map.mp hmem
    simp only [remove, List.mem_filter, bne_iff_ne] at hc
    exact hc.2 hid

end CeremonyMap

/-- `InMemoryCeremonyStore` -/
def inMemoryCeremonyStore : CeremonyStore CeremonyMap where
  put m row := (m.insert row, .ok ())
  take m now id kind :=
    match m.inner.find? (·.id == id) with
    | some row =>
      if row.kind = kind ∧ now < row.expiresAt then (m.remove id, .ok (some row))
      else (m.remove id, .ok none)
    | none => (m.remove id, .ok none)

/-! ## Requests -/

inductive CeremonyRequest where
  | put (row : Ceremony)
  | take (id : Uuid) (kind : CeremonyKind)
deriving DecidableEq, Repr

inductive CeremonyAnswer where
  | put (result : Except PlatformError Unit)
  | take (result : Except PlatformError (Option Ceremony))

/-- A request with the time at which it comes. -/
abbrev TimedRequest := Timestamp × CeremonyRequest

section

variable {σ : Type} (S : CeremonyStore σ)

def CeremonyStore.serve (s : σ) : TimedRequest → σ × CeremonyAnswer
  | (_, .put row) => ((S.put s row).1, .put (S.put s row).2)
  | (now, .take id kind) => ((S.take s now id kind).1, .take (S.take s now id kind).2)

def CeremonyStore.after (s : σ) (requests : List TimedRequest) : σ :=
  requests.foldl (fun s request => (S.serve s request).1) s

end

/-- The ceremonies that are put. -/
def puts (requests : List TimedRequest) : List Ceremony :=
  requests.filterMap fun
    | (_, .put row) => some row
    | (_, .take ..) => none

def CeremonyAnswer.returned : CeremonyAnswer → Option Ceremony
  | .take (.ok c) => c
  | _ => none

/-- Time goes on, and every ceremony that is put has an id of its own and a user that
exists. -/
structure Orderly (users : List Uuid) (requests : List TimedRequest) : Prop where
  times : (requests.map (·.1)).Pairwise (· ≤ ·)
  fresh : ((puts requests).map (·.id)).Nodup
  known : ∀ row ∈ puts requests, row.userId ∈ users

/-- An earlier take has named the ceremony under the other kind. -/
def Misnamed (earlier : List TimedRequest) : CeremonyRequest → Prop
  | .put _ => False
  | .take id _ => ∃ before t row between t' kind, earlier = before ++ (t, .put row) :: between ∧
      row.id = id ∧ (t', .take id kind) ∈ between ∧ kind ≠ row.kind

section

variable {earlier : List TimedRequest} {now : Timestamp} {request : CeremonyRequest}
  {users : List Uuid}

theorem puts_append (as bs : List TimedRequest) : puts (as ++ bs) = puts as ++ puts bs :=
  List.filterMap_append

theorem mem_puts {requests : List TimedRequest} {row : Ceremony} :
    row ∈ puts requests ↔ ∃ t, (t, .put row) ∈ requests := by
  rw [puts, List.mem_filterMap]
  constructor
  · rintro ⟨⟨t, row' | ⟨id, kind⟩⟩, hmem, heq⟩
    · cases heq
      exact ⟨t, hmem⟩
    · cases heq
  · rintro ⟨t, hmem⟩
    exact ⟨_, hmem, rfl⟩

theorem Orderly.of_append {later : List TimedRequest} (h : Orderly users (earlier ++ later)) :
    Orderly users earlier where
  times := by
    have htimes := h.times
    rw [List.map_append, List.pairwise_append] at htimes
    exact htimes.1
  fresh := by
    have hfresh := h.fresh
    rw [puts_append, List.map_append, List.nodup_append] at hfresh
    exact hfresh.1
  known := by
    intro row hrow
    refine h.known row ?_
    rw [puts_append]
    exact List.mem_append_left _ hrow

theorem Orderly.le_now (h : Orderly users (earlier ++ [(now, request)])) :
    ∀ r ∈ earlier, r.1 ≤ now := by
  intro r hr
  have htimes := h.times
  rw [List.map_append, List.pairwise_append] at htimes
  exact htimes.2.2 r.1 (List.mem_map_of_mem hr) now List.mem_cons_self

/-- A ceremony that is put now was not put before. -/
theorem Orderly.ne_of_put {row : Ceremony} (h : Orderly users (earlier ++ [(now, .put row)])) :
    ∀ r ∈ puts earlier, r.id ≠ row.id := by
  intro r hr
  have hfresh := h.fresh
  rw [puts_append, List.map_append, List.nodup_append] at hfresh
  exact hfresh.2.2 r.id (List.mem_map_of_mem hr) row.id List.mem_cons_self

/-- Where a list that ends with `x` is split at `y`. -/
theorem concat_eq_append_cons {α : Type} {as before between : List α} {x y : α}
    (h : as ++ [x] = before ++ y :: between) :
    between = [] ∨ ∃ between', between = between' ++ [x] ∧ as = before ++ y :: between' := by
  rcases List.eq_nil_or_concat' between with rfl | ⟨between, last, rfl⟩
  · exact .inl rfl
  · rw [← List.cons_append, ← List.append_assoc] at h
    obtain ⟨has, hlast⟩ := List.append_inj' h rfl
    exact .inr ⟨between, by rw [List.singleton_inj.mp hlast], has⟩

/-- Only a take adds to what was misnamed. -/
theorem misnamed_put_iff {row : Ceremony} {id : Uuid} {kind : CeremonyKind} :
    Misnamed (earlier ++ [(now, .put row)]) (.take id kind) ↔ Misnamed earlier (.take id kind) := by
  constructor
  · rintro ⟨before, t, row', between, t', kind', heq, hid, hmem, hkind⟩
    rcases concat_eq_append_cons heq with rfl | ⟨between, rfl, rfl⟩
    · cases hmem
    · rcases List.mem_append.mp hmem with hmem | hmem
      · exact ⟨before, t, row', between, t', kind', rfl, hid, hmem, hkind⟩
      · cases List.mem_singleton.mp hmem
  · rintro ⟨before, t, row', between, t', kind', rfl, hid, hmem, hkind⟩
    refine ⟨before, t, row', between ++ [(now, .put row)], t', kind', ?_, hid,
      List.mem_append_left _ hmem, hkind⟩
    rw [List.append_assoc, List.cons_append]

theorem misnamed_take_iff {id id' : Uuid} {kind kind' : CeremonyKind} :
    Misnamed (earlier ++ [(now, .take id' kind')]) (.take id kind) ↔
      Misnamed earlier (.take id kind) ∨
        id = id' ∧ ∃ row ∈ puts earlier, row.id = id ∧ kind' ≠ row.kind := by
  constructor
  · rintro ⟨before, t, row, between, t', kind'', heq, hid, hmem, hkind⟩
    rcases concat_eq_append_cons heq with rfl | ⟨between, rfl, rfl⟩
    · cases hmem
    · rcases List.mem_append.mp hmem with hmem | hmem
      · exact .inl ⟨before, t, row, between, t', kind'', rfl, hid, hmem, hkind⟩
      · have hthis := List.mem_singleton.mp hmem
        cases hthis
        refine .inr ⟨rfl, row, mem_puts.mpr ⟨t, ?_⟩, hid, hkind⟩
        exact List.mem_append_right _ List.mem_cons_self
  · rintro (⟨before, t, row, between, t', kind'', rfl, hid, hmem, hkind⟩ |
      ⟨rfl, row, hrow, hid, hkind⟩)
    · refine ⟨before, t, row, between ++ [(now, .take id' kind')], t', kind'', ?_, hid,
        List.mem_append_left _ hmem, hkind⟩
      rw [List.append_assoc, List.cons_append]
    · obtain ⟨t, ht⟩ := mem_puts.mp hrow
      obtain ⟨before, between, rfl⟩ := List.append_of_mem ht
      refine ⟨before, t, row, between ++ [(now, .take id kind')], now, kind', ?_, hid,
        List.mem_append_right _ List.mem_cons_self, hkind⟩
      rw [List.append_assoc, List.cons_append]

end

/-! ## What a store keeps -/

/-- A store with these rows hands out a row that it has, under the kind it was put under and
before it expires, and has it no longer then. -/
structure OneShot {σ : Type} (S : CeremonyStore σ) (rows : σ → List Ceremony) : Prop where
  put : ∀ s row, ∀ r ∈ rows (S.put s row).1, r = row ∨ r ∈ rows s
  kept : ∀ s now id kind, ∀ r ∈ rows (S.take s now id kind).1, r ∈ rows s
  taken : ∀ s now id kind, ∃ c, (S.take s now id kind).2 = .ok c ∧
    ∀ r, c = some r ↔ r ∈ rows s ∧ r.id = id ∧ r.kind = kind ∧ now < r.expiresAt
  gone : ∀ s now id kind r, (S.take s now id kind).2 = .ok (some r) →
    ∀ r' ∈ rows (S.take s now id kind).1, r'.id ≠ id

/-- The rows that are found by an id. -/
theorem find?_eq_some_iff_of_nodup {rows : List Ceremony} (h : (rows.map (·.id)).Nodup)
    {p : Ceremony → Bool} {id : Uuid} (hp : ∀ r, p r = true → r.id = id) (r : Ceremony) :
    rows.find? p = some r ↔ r ∈ rows ∧ p r = true := by
  constructor
  · intro hfind
    exact ⟨List.mem_of_find?_eq_some hfind, List.find?_some hfind⟩
  · rintro ⟨hr, hpr⟩
    cases hfind : rows.find? p with
    | none => exact absurd hpr (List.find?_eq_none.mp hfind r hr)
    | some r' =>
      have hid : r'.id = r.id := (hp r' (List.find?_some hfind)).trans (hp r hpr).symm
      rw [List.inj_on_of_nodup_map h (List.mem_of_find?_eq_some hfind) hr hid]

theorem takes_iff {now : Timestamp} {id : Uuid} {kind : CeremonyKind} {c : Ceremony} :
    takes now id kind c = true ↔ c.id = id ∧ c.kind = kind ∧ now < c.expiresAt := by
  simp [takes, and_assoc]

theorem mem_pg_take {s : PgCeremonies} {now : Timestamp} {id : Uuid} {kind : CeremonyKind}
    {r : Ceremony} :
    r ∈ (pgCeremonyStore.take s now id kind).1.rows ↔
      r ∈ s.rows ∧ ¬ (r.id = id ∧ r.kind = kind ∧ now < r.expiresAt) := by
  show r ∈ s.rows.filter (fun c => !takes now id kind c) ↔ _
  rw [List.mem_filter, ← takes_iff, Bool.not_eq_true', Bool.not_eq_true]

theorem pgCeremonyStore_oneShot : OneShot pgCeremonyStore PgCeremonies.rows where
  put := by
    intro s row r hr
    simp only [pgCeremonyStore] at hr
    split at hr
    · exact .inr hr
    · split at hr
      · exact .inr hr
      · rcases List.mem_append.mp hr with hr | hr
        · exact .inr hr
        · exact .inl (List.mem_singleton.mp hr)
  kept := by
    intro s now id kind r hr
    exact List.mem_of_mem_filter hr
  taken := by
    intro s now id kind
    refine ⟨_, rfl, fun r => ?_⟩
    rw [find?_eq_some_iff_of_nodup s.primaryKey (fun r hr => (takes_iff.mp hr).1), takes_iff]
  gone := by
    intro s now id kind r hr r' hr' hid
    have hfind : s.rows.find? (takes now id kind) = some r := Except.ok.inj hr
    have hdeleted := (List.mem_filter.mp hr').2
    -- the other rows have other ids
    have hsame : r' = r := by
      have hrid := (takes_iff.mp (List.find?_some hfind)).1
      exact List.inj_on_of_nodup_map s.primaryKey (List.mem_of_mem_filter hr')
        (List.mem_of_find?_eq_some hfind) (hid.trans hrid.symm)
    rw [hsame, List.find?_some hfind] at hdeleted
    cases hdeleted

/-- Whatever it hands out, the map drops the row. -/
theorem memory_take_fst (m : CeremonyMap) (now : Timestamp) (id : Uuid) (kind : CeremonyKind) :
    (inMemoryCeremonyStore.take m now id kind).1 = m.remove id := by
  simp only [inMemoryCeremonyStore]
  split
  · split <;> rfl
  · rfl

theorem inMemoryCeremonyStore_oneShot : OneShot inMemoryCeremonyStore CeremonyMap.inner where
  put := by
    intro m row r hr
    rcases List.mem_cons.mp hr with rfl | hr
    · exact .inl rfl
    · exact .inr (List.mem_of_mem_filter hr)
  kept := by
    intro m now id kind r hr
    rw [memory_take_fst] at hr
    exact List.mem_of_mem_filter hr
  taken := by
    intro m now id kind
    have hfound : ∀ r, m.inner.find? (·.id == id) = some r ↔ r ∈ m.inner ∧ r.id = id := by
      intro r
      rw [find?_eq_some_iff_of_nodup m.keys (fun r hr => beq_iff_eq.mp hr), beq_iff_eq]
    simp only [inMemoryCeremonyStore]
    cases hfind : m.inner.find? (·.id == id) with
    | none =>
      refine ⟨none, rfl, fun r => iff_of_false nofun ?_⟩
      rintro ⟨hr, hid, -⟩
      exact absurd ((hfound r).mpr ⟨hr, hid⟩) (by rw [hfind]; nofun)
    | some row =>
      have hrow := (hfound row).mp hfind
      -- no other row is found
      have honly : ∀ r, r ∈ m.inner → r.id = id → r = row := by
        intro r hr hid
        exact Option.some.inj (((hfound r).mpr ⟨hr, hid⟩).symm.trans hfind)
      by_cases hlive : row.kind = kind ∧ now < row.expiresAt
      · refine ⟨some row, by simp [hlive], fun r => ?_⟩
        constructor
        · intro heq
          cases heq
          exact ⟨hrow.1, hrow.2, hlive⟩
        · rintro ⟨hr, hid, -⟩
          rw [honly r hr hid]
      · refine ⟨none, by simp [hlive], fun r => iff_of_false nofun ?_⟩
        rintro ⟨hr, hid, hkind⟩
        rw [honly r hr hid] at hkind
        exact hlive hkind
  gone := by
    intro m now id kind r _ r' hr'
    rw [memory_take_fst] at hr'
    exact bne_iff_ne.mp (List.mem_filter.mp hr').2

/-! ## Each ceremony once -/

section

variable {σ : Type} (S : CeremonyStore σ) (s : σ)

/-- The ceremonies that are returned, in order. -/
def CeremonyStore.returned (requests : List TimedRequest) : List Ceremony :=
  (answers S.serve s requests).filterMap (·.returned)

/-- Every ceremony is returned at most once, only under the kind it was put under, and only
before it expires. -/
def CeremonyStore.OnceOnly (requests : List TimedRequest) : Prop :=
  ((S.returned s requests).map (·.id)).Nodup ∧
    ∀ earlier now id kind later r, requests = earlier ++ (now, .take id kind) :: later →
      (S.take (S.after s earlier) now id kind).2 = .ok (some r) →
        r ∈ puts earlier ∧ r.id = id ∧ r.kind = kind ∧ now < r.expiresAt

variable {S s} {rows : σ → List Ceremony} {users : List Uuid}

theorem CeremonyStore.after_concat (earlier : List TimedRequest) (request : TimedRequest) :
    S.after s (earlier ++ [request]) = (S.serve (S.after s earlier) request).1 := by
  rw [after, List.foldl_append]
  rfl

theorem answers_concat (earlier : List TimedRequest) (request : TimedRequest) :
    answers S.serve s (earlier ++ [request]) =
      answers S.serve s earlier ++ [(S.serve (S.after s earlier) request).2] := by
  induction earlier generalizing s with
  | nil => rfl
  | cons first earlier ih =>
    rw [List.cons_append, answers, answers, ih]
    rfl

/-- What is in the store was put and has not been returned, and nothing was returned twice. -/
theorem OneShot.once (h : OneShot S rows) (hempty : rows s = []) {requests : List TimedRequest}
    (horderly : Orderly users requests) :
    (∀ r ∈ rows (S.after s requests), r ∈ puts requests) ∧
      (∀ r ∈ S.returned s requests, r ∈ puts requests ∧
        ∀ r' ∈ rows (S.after s requests), r'.id ≠ r.id) ∧
      ((S.returned s requests).map (·.id)).Nodup := by
  induction requests using List.reverseRecOn with
  | nil =>
    refine ⟨?_, nofun, List.nodup_nil⟩
    intro r hr
    rw [show S.after s [] = s from rfl, hempty] at hr
    cases hr
  | append_singleton earlier request ih =>
    obtain ⟨hrows, hreturned, hnodup⟩ := ih horderly.of_append
    have hputs : ∀ r ∈ puts earlier, r ∈ puts (earlier ++ [request]) := by
      intro r hr
      rw [puts_append]
      exact List.mem_append_left _ hr
    obtain ⟨now, row | ⟨id, kind⟩⟩ := request
    · have hsame : S.returned s (earlier ++ [(now, .put row)]) = S.returned s earlier := by
        rw [CeremonyStore.returned, answers_concat, List.filterMap_append]
        exact List.append_nil _
      rw [hsame, CeremonyStore.after_concat]
      refine ⟨fun r hr => ?_, fun r hr => ⟨hputs r (hreturned r hr).1, fun r' hr' => ?_⟩, hnodup⟩
      · rcases h.put _ row r hr with rfl | hr
        · rw [puts_append]
          exact List.mem_append_right _ List.mem_cons_self
        · exact hputs r (hrows r hr)
      · rcases h.put _ row r' hr' with rfl | hr'
        · exact (horderly.ne_of_put r (hreturned r hr).1).symm
        · exact (hreturned r hr).2 r' hr'
    · obtain ⟨c, hanswer, hc⟩ := h.taken (S.after s earlier) now id kind
      have hnew : S.returned s (earlier ++ [(now, .take id kind)]) =
          S.returned s earlier ++ c.toList := by
        rw [CeremonyStore.returned, answers_concat, List.filterMap_append]
        simp only [CeremonyStore.serve, hanswer]
        cases c <;> rfl
      have hkept := h.kept (S.after s earlier) now id kind
      rw [hnew, CeremonyStore.after_concat]
      refine ⟨fun r hr => hputs r (hrows r (hkept r hr)), fun r hr => ?_, ?_⟩
      · rcases List.mem_append.mp hr with hr | hr
        · exact ⟨hputs r (hreturned r hr).1, fun r' hr' => (hreturned r hr).2 r' (hkept r' hr')⟩
        · have heq : c = some r := Option.mem_toList.mp hr
          have hthis := (hc r).mp heq
          rw [heq] at hanswer
          refine ⟨hputs r (hrows r hthis.1), ?_⟩
          rw [hthis.2.1]
          exact h.gone _ _ _ _ r hanswer
      · rw [List.map_append]
        refine List.Nodup.append hnodup ?_ ?_
        · cases c <;> simp
        · intro i hi hi'
          obtain ⟨r, hr, rfl⟩ := List.mem_map.mp hi
          obtain ⟨r', hr', hid⟩ := List.mem_map.mp hi'
          have hthis := (hc r').mp (Option.mem_toList.mp hr')
          exact (hreturned r hr).2 r' hthis.1 hid

theorem OneShot.onceOnly (h : OneShot S rows) (hempty : rows s = []) {requests : List TimedRequest}
    (horderly : Orderly users requests) : S.OnceOnly s requests := by
  refine ⟨(h.once hempty horderly).2.2, ?_⟩
  rintro earlier now id kind later r rfl htaken
  obtain ⟨c, hanswer, hc⟩ := h.taken (S.after s earlier) now id kind
  have heq : c = some r := Except.ok.inj (hanswer.symm.trans htaken)
  obtain ⟨hr, hlive⟩ := (hc r).mp heq
  exact ⟨(h.once hempty horderly.of_append).1 r hr, hlive⟩

end

/-! ## The two stores -/

section

variable {users : List Uuid}

def emptyTable (users : List Uuid) : PgCeremonies := ⟨users, [], List.nodup_nil⟩

def emptyMap : CeremonyMap := ⟨[], List.nodup_nil⟩

theorem after_users (requests : List TimedRequest) :
    (pgCeremonyStore.after (emptyTable users) requests).users = users := by
  induction requests using List.reverseRecOn with
  | nil => rfl
  | append_singleton earlier request ih =>
    rw [CeremonyStore.after_concat]
    obtain ⟨now, row | ⟨id, kind⟩⟩ := request
    · simp only [CeremonyStore.serve, pgCeremonyStore]
      split
      · exact ih
      · split
        · exact ih
        · exact ih
    · exact ih

/-- The table takes every new ceremony. -/
theorem pg_put {earlier : List TimedRequest} {now : Timestamp} {row : Ceremony}
    (h : Orderly users (earlier ++ [(now, .put row)])) :
    let s := pgCeremonyStore.after (emptyTable users) earlier
    (pgCeremonyStore.put s row).2 = .ok () ∧
      ∀ r, r ∈ (pgCeremonyStore.put s row).1.rows ↔ r ∈ s.rows ∨ r = row := by
  intro s
  have hnew : row.id ∉ s.rows.map (·.id) := by
    intro hmem
    obtain ⟨r, hr, hid⟩ := List.mem_map.mp hmem
    exact h.ne_of_put r ((pgCeremonyStore_oneShot.once rfl h.of_append).1 r hr) hid
  have huser : row.userId ∈ s.users := by
    rw [after_users]
    refine h.known row ?_
    rw [puts_append]
    exact List.mem_append_right _ List.mem_cons_self
  simp only [pgCeremonyStore]
  rw [dif_neg hnew, if_neg (not_not.mpr huser)]
  simp

/-- Of the ceremonies that have not expired, the map has those of the table that were not
misnamed. -/
theorem memory_rows_iff {requests : List TimedRequest} (h : Orderly users requests)
    {r : Ceremony} (hlive : ∀ request ∈ requests, request.1 < r.expiresAt) (kind : CeremonyKind) :
    r ∈ (inMemoryCeremonyStore.after emptyMap requests).inner ↔
      r ∈ (pgCeremonyStore.after (emptyTable users) requests).rows ∧
        ¬ Misnamed requests (.take r.id kind) := by
  induction requests using List.reverseRecOn with
  | nil => exact iff_of_false nofun fun hmem => nomatch hmem.1
  | append_singleton earlier request ih =>
    have hih := ih h.of_append fun request hrequest =>
      hlive request (List.mem_append_left _ hrequest)
    have hputs : ∀ r ∈ (pgCeremonyStore.after (emptyTable users) earlier).rows, r ∈ puts earlier :=
      (pgCeremonyStore_oneShot.once rfl h.of_append).1
    rw [CeremonyStore.after_concat, CeremonyStore.after_concat]
    obtain ⟨now, row | ⟨id, kind'⟩⟩ := request
    · have hmemory : r ∈ (inMemoryCeremonyStore.put (inMemoryCeremonyStore.after emptyMap earlier)
          row).1.inner ↔
          r ∈ (inMemoryCeremonyStore.after emptyMap earlier).inner ∧ r.id ≠ row.id ∨ r = row := by
        simp [inMemoryCeremonyStore, CeremonyMap.insert, CeremonyMap.remove, or_comm]
      rw [CeremonyStore.serve, CeremonyStore.serve, hmemory, (pg_put h).2, misnamed_put_iff, hih]
      constructor
      · rintro (⟨⟨hr, hmis⟩, -⟩ | rfl)
        · exact ⟨.inl hr, hmis⟩
        · refine ⟨.inr rfl, ?_⟩
          rintro ⟨before, t, row, between, t', kind'', rfl, hid, -, -⟩
          refine h.ne_of_put row (mem_puts.mpr ⟨t, ?_⟩) hid
          exact List.mem_append_right _ List.mem_cons_self
      · rintro ⟨hr | rfl, hmis⟩
        · exact .inl ⟨⟨hr, hmis⟩, h.ne_of_put r (hputs r hr)⟩
        · exact .inr rfl
    · have hnow : now < r.expiresAt := hlive _ (List.mem_append_right _ List.mem_cons_self)
      have hmemory : r ∈ (inMemoryCeremonyStore.take (inMemoryCeremonyStore.after emptyMap earlier)
          now id kind').1.inner ↔
          r ∈ (inMemoryCeremonyStore.after emptyMap earlier).inner ∧ r.id ≠ id := by
        rw [memory_take_fst]
        simp [CeremonyMap.remove]
      have htable : r ∈ (pgCeremonyStore.take (pgCeremonyStore.after (emptyTable users) earlier)
          now id kind').1.rows ↔
          r ∈ (pgCeremonyStore.after (emptyTable users) earlier).rows ∧
            ¬ (r.id = id ∧ r.kind = kind') := by
        rw [mem_pg_take]
        simp [hnow]
      rw [CeremonyStore.serve, CeremonyStore.serve, hmemory, htable, misnamed_take_iff, hih]
      constructor
      · rintro ⟨⟨hr, hmis⟩, hid⟩
        refine ⟨⟨hr, fun hboth => hid hboth.1⟩, ?_⟩
        rintro (hmis' | ⟨hid', -⟩)
        · exact hmis hmis'
        · exact hid hid'
      · rintro ⟨⟨hr, hother⟩, hmis⟩
        refine ⟨⟨hr, fun hmis' => hmis (.inl hmis')⟩, fun hid => ?_⟩
        -- the row is still in the table, so it was taken under the other kind
        have hkind : kind' ≠ r.kind := fun heq => hother ⟨hid, heq.symm⟩
        exact hmis (.inr ⟨hid, r, hputs r hr, rfl, hkind⟩)

/-- The stores answer alike at every call, but for a take of a ceremony that an earlier take
has named under the other kind: that one finds nothing in the map. Both hand out a ceremony at
most once, under its kind and before its expiry. -/
theorem stores_agree {requests : List TimedRequest} (h : Orderly users requests) :
    (∀ earlier request later, requests = earlier ++ request :: later →
      let table := (pgCeremonyStore.serve (pgCeremonyStore.after (emptyTable users) earlier)
        request).2
      let map := (inMemoryCeremonyStore.serve (inMemoryCeremonyStore.after emptyMap earlier)
        request).2
      (¬ Misnamed earlier request.2 → map = table) ∧
        (Misnamed earlier request.2 → map = .take (.ok none))) ∧
    pgCeremonyStore.OnceOnly (emptyTable users) requests ∧
    inMemoryCeremonyStore.OnceOnly emptyMap requests := by
  refine ⟨?_, pgCeremonyStore_oneShot.onceOnly rfl h, inMemoryCeremonyStore_oneShot.onceOnly rfl h⟩
  rintro earlier ⟨now, row | ⟨id, kind⟩⟩ later rfl
  · have hthis : Orderly users (earlier ++ [(now, .put row)]) := by
      rw [← List.singleton_append, ← List.append_assoc] at h
      exact h.of_append
    refine ⟨fun _ => ?_, fun hmis => hmis.elim⟩
    simp only [CeremonyStore.serve, (pg_put hthis).1]
    rfl
  · have hthis : Orderly users (earlier ++ [(now, .take id kind)]) := by
      rw [← List.singleton_append, ← List.append_assoc] at h
      exact h.of_append
    obtain ⟨c, hc, hctable⟩ := pgCeremonyStore_oneShot.taken
      (pgCeremonyStore.after (emptyTable users) earlier) now id kind
    obtain ⟨c', hc', hcmap⟩ := inMemoryCeremonyStore_oneShot.taken
      (inMemoryCeremonyStore.after emptyMap earlier) now id kind
    -- a row that may be taken now has not expired before
    have hrows : ∀ r : Ceremony, now < r.expiresAt → (r ∈ (inMemoryCeremonyStore.after emptyMap
        earlier).inner ↔ r ∈ (pgCeremonyStore.after (emptyTable users) earlier).rows ∧
          ¬ Misnamed earlier (.take r.id kind)) := by
      intro r hnow
      refine memory_rows_iff h.of_append (fun request hrequest => ?_) kind
      exact lt_of_le_of_lt (hthis.le_now request hrequest) hnow
    simp only [CeremonyStore.serve, hc, hc']
    constructor
    · intro hmis
      have heq : c' = c := by
        refine Option.ext fun r => ?_
        rw [hcmap, hctable]
        constructor
        · rintro ⟨hr, hid, hkind, hnow⟩
          exact ⟨((hrows r hnow).mp hr).1, hid, hkind, hnow⟩
        · rintro ⟨hr, hid, hkind, hnow⟩
          refine ⟨(hrows r hnow).mpr ⟨hr, ?_⟩, hid, hkind, hnow⟩
          rw [hid]
          exact hmis
      rw [heq]
    · intro hmis
      have hnone : c' = none := by
        refine Option.eq_none_iff_forall_ne_some.mpr fun r hsome => ?_
        obtain ⟨hr, hid, -, hnow⟩ := (hcmap r).mp hsome
        refine ((hrows r hnow).mp hr).2 ?_
        rw [hid]
        exact hmis
      rw [hnone]

end

/-! ## The wrong kind, then the right one -/

/-- A ceremony of user 1 that registers a passkey. -/
def registering : Ceremony := ⟨10, 1, .registration, [], 100⟩

def wrongThenRight : List TimedRequest :=
  [(0, .put registering), (1, .take 10 .assertion), (2, .take 10 .registration)]

theorem wrongThenRight_orderly : Orderly [1] wrongThenRight where
  times := by decide
  fresh := by decide
  known := by decide

theorem stores_agree_wrongThenRight :
    (inMemoryCeremonyStore.serve (inMemoryCeremonyStore.after emptyMap (wrongThenRight.take 2))
      (2, .take 10 .registration)).2 = .take (.ok none) ∧
    inMemoryCeremonyStore.OnceOnly emptyMap wrongThenRight := by
  obtain ⟨hcalls, -, honce⟩ := stores_agree wrongThenRight_orderly
  have hmis : Misnamed (wrongThenRight.take 2) (.take 10 .registration) :=
    ⟨[], 0, registering, [(1, .take 10 .assertion)], 1, .assertion, rfl, rfl, List.mem_cons_self,
      nofun⟩
  exact ⟨(hcalls (wrongThenRight.take 2) (2, .take 10 .registration) [] rfl).2 hmis, honce⟩

/-- The table returns the ceremony to the second take, the map has lost it to the first. And
only the table refuses the ceremony of a user that does not exist. -/
theorem not_stores_agree :
    (¬ ∀ (users : List Uuid) (requests : List TimedRequest), Orderly users requests →
      answers inMemoryCeremonyStore.serve emptyMap requests =
        answers pgCeremonyStore.serve (emptyTable users) requests) ∧
      answers inMemoryCeremonyStore.serve emptyMap [(0, .put registering)] ≠
        answers pgCeremonyStore.serve (emptyTable []) [(0, .put registering)] := by
  constructor
  · intro h
    have hanswers := congrArg (·.filterMap CeremonyAnswer.returned)
      (h [1] wrongThenRight wrongThenRight_orderly)
    revert hanswers
    decide
  · intro h
    cases List.head_eq_of_cons_eq h

end Kubinate.Access
