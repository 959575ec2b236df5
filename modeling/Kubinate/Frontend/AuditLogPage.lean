import Kubinate.Audit.Paging
import Kubinate.Library.Machine

/-!
# The page of the audit log

`frontend/src/routes/app/settings/audit-log/+page.svelte` shows the first page of the log and
offers to load more as long as it shows a multiple of `PAGE_SIZE` entries; it goes on below the
last entry that it shows. `list_audit_log` answers its requests from what is committed at that
moment, and meanwhile transactions append to the log.

* `Shows`: what the page shows of the log as it was when the first request was answered.
* `shows_log`: in every run the page shows entries of the log, each once and by descending id. An
  entry that was there at the first answer is shown, or it is older by its id than all that is
  shown and more is offered.

The texts of errors are parameters: what fails shows some text.
-/

namespace Kubinate.Frontend

open Platform Library Identity Audit

/-- `PAGE_SIZE` -/
def auditPageSize : Nat := 50

structure AuditLogPage where
  entries : Option (List AuditLogEntry) := none
  loadError : Option String := none
  orgId : Option Uuid := none
  loadingMore : Bool := false
  loadMoreError : Option String := none

def AuditLogPage.hasMore (p : AuditLogPage) : Bool :=
  match p.entries with
  | none => false
  | some entries => entries.length > 0 && entries.length % auditPageSize == 0

/-- A request to `list_audit_log` waits for an answer, or the answer is on its way. -/
abbrev Awaited := Option (Except PlatformError (List AuditLogEntry))

/-- How far the code that runs when the page appears has come. -/
inductive Mounting where
  | before
  | me
  | entries (answer : Awaited)
  | ended

/-- The page, what it waits for, and the server. A `loadMore` that is under way has its cursor.
`firstTable` is the log as it was when the first request was answered. -/
structure AuditLogVisit where
  page : AuditLogPage := {}
  mounting : Mounting := .before
  more : Option (Uuid × Awaited) := none
  server : PoolState auditSql AuditServer AuditJob Unit := Pool.init (.ofCommitted [])
  firstTable : Option (List Entry) := none

/-- What happens. Who asks, and with which organization, is up to the session. -/
inductive AuditLogAct where
  | server (a : Act AuditJob Reply)
  | mount
  | meArrives (organizationId : Uuid)
  | serveFirst (actorOrganizationId : Uuid) (users : List Identity.User)
  | firstArrives
  | mountFails (message : String)
  | loadMore
  | serveMore (actorOrganizationId : Uuid) (users : List Identity.User)
  | moreArrives
  | moreFails (message : String)

namespace AuditLogVisit

variable (digest : Bytes → Bytes) (v : AuditLogVisit)

/-- What `list_audit_log` reads. -/
def log : List Entry := v.server.world.committed

/-- `{ before: cursor }`, without a limit. -/
def ask (users : List Identity.User) (actorOrganizationId orgId : Uuid) (before : Option Uuid) :
    Except PlatformError (List AuditLogEntry) :=
  listAuditLog v.log users actorOrganizationId orgId ⟨before, none⟩

/-- The button is there when there is no error of the first request, and disabled while more is
loaded. -/
def act : AuditLogAct → Option AuditLogVisit
  | .server a => ((auditPool digest).step v.server a).map fun s => { v with server := s }
  | .mount =>
    match v.mounting with
    | .before => some { v with mounting := .me }
    | _ => none
  | .meArrives organizationId =>
    match v.mounting with
    | .me =>
      some { v with page := { v.page with orgId := some organizationId }, mounting := .entries none }
    | _ => none
  | .serveFirst actorOrganizationId users =>
    match v.mounting, v.page.orgId with
    | .entries none, some orgId =>
      some { v with
        mounting := .entries (some (v.ask users actorOrganizationId orgId none))
        firstTable := some v.log }
    | _, _ => none
  | .firstArrives =>
    match v.mounting with
    | .entries (some (.ok entries)) =>
      some { v with page := { v.page with entries := some entries }, mounting := .ended }
    | _ => none
  | .mountFails message =>
    match v.mounting with
    | .me | .entries _ =>
      some { v with
        page := { v.page with loadError := some message, entries := some [] }
        mounting := .ended }
    | _ => none
  | .loadMore =>
    if v.page.loadError = none ∧ v.page.hasMore = true ∧ v.page.loadingMore = false then
      ((v.page.entries.getD []).getLast?).map fun last =>
        { v with
          page := { v.page with loadingMore := true, loadMoreError := none }
          more := some (last.id, none) }
    else none
  | .serveMore actorOrganizationId users =>
    match v.more, v.page.orgId with
    | some (cursor, none), some orgId =>
      some { v with more := some (cursor, some (v.ask users actorOrganizationId orgId (some cursor))) }
    | _, _ => none
  | .moreArrives =>
    match v.more with
    | some (_, some (.ok next)) =>
      some { v with
        page := { v.page with entries := v.page.entries.map (· ++ next), loadingMore := false }
        more := none }
    | _ => none
  | .moreFails message =>
    match v.more with
    | some _ =>
      some { v with
        page := { v.page with loadMoreError := some message, loadingMore := false }
        more := none }
    | none => none

end AuditLogVisit

/-! ## Pages of a log that grows -/

section Pages

variable {org : Uuid} {first table table' : List Entry} {before : Option Uuid}
  {entries next : List AuditLogEntry}

/-- What an answer tells about the log: it goes down below the cursor, and leaves out only what
is below all of it when it is full. -/
structure NextPage (org : Uuid) (first table : List Entry) (before : Option Uuid)
    (next : List AuditLogEntry) : Prop where
  descending : next.Pairwise fun a b => b.id < a.id
  fromLog : ∀ a ∈ next, ∃ e ∈ ofOrganization table org, Shown e a
  below : ∀ a ∈ next, ∀ b ∈ before, a.id < b
  rest : ∀ e ∈ ofOrganization first org, (∀ b ∈ before, e.id < b) →
    (∃ a ∈ next, Shown e a) ∨ next.length = auditPageSize ∧ ∀ a ∈ next, e.id < a.id

/-- The page shows the log from its newest entry down, as it was in the beginning and with what
has come since. -/
structure Shows (org : Uuid) (first table : List Entry) (entries : List AuditLogEntry) : Prop where
  descending : entries.Pairwise fun a b => b.id < a.id
  fromLog : ∀ a ∈ entries, ∃ e ∈ ofOrganization table org, Shown e a
  rest : ∀ e ∈ ofOrganization first org, (∃ a ∈ entries, Shown e a) ∨
    (0 < entries.length ∧ entries.length % auditPageSize = 0) ∧ ∀ a ∈ entries, e.id < a.id

theorem ofOrganization_mono (h : table ⊆ table') :
    ofOrganization table org ⊆ ofOrganization table' org := fun e he => by
  rw [ofOrganization, List.mem_filter] at he ⊢
  exact ⟨h he.1, he.2⟩

theorem NextPage.mono (h : NextPage org first table before next) (hsub : table ⊆ table') :
    NextPage org first table' before next where
  descending := h.descending
  fromLog a ha := (h.fromLog a ha).imp fun _ he => ⟨ofOrganization_mono hsub he.1, he.2⟩
  below := h.below
  rest := h.rest

theorem Shows.mono (h : Shows org first table entries) (hsub : table ⊆ table') :
    Shows org first table' entries where
  descending := h.descending
  fromLog a ha := (h.fromLog a ha).imp fun _ he => ⟨ofOrganization_mono hsub he.1, he.2⟩
  rest := h.rest

theorem shows_of_nextPage (h : NextPage org first table none next) : Shows org first table next where
  descending := h.descending
  fromLog := h.fromLog
  rest e he := (h.rest e he (by rintro b ⟨⟩)).imp_right fun ⟨hlength, hbelow⟩ =>
    ⟨by rw [hlength]; decide, hbelow⟩

/-- The next page begins below the last entry. -/
theorem Shows.append (h : Shows org first table entries) {last : AuditLogEntry}
    (hlast : entries.getLast? = some last)
    (hnext : NextPage org first table (some last.id) next) :
    Shows org first table (entries ++ next) := by
  have hmem : last ∈ entries := List.mem_of_getLast? hlast
  have hle : ∀ a ∈ entries, a = last ∨ last.id < a.id := by
    obtain ⟨init, rfl⟩ := List.getLast?_eq_some_iff.mp hlast
    intro a ha
    rcases List.mem_append.mp ha with hinit | hsame
    · exact .inr ((List.pairwise_append.mp h.descending).2.2 a hinit last List.mem_cons_self)
    · exact .inl (List.mem_singleton.mp hsame)
  refine ⟨?_, fun a ha => ?_, fun e he => ?_⟩
  · refine List.pairwise_append.mpr ⟨h.descending, hnext.descending, fun a ha b hb => ?_⟩
    have hb := hnext.below b hb last.id rfl
    rcases hle a ha with rfl | hlt
    · exact hb
    · exact BitVec.lt_trans hb hlt
  · exact (List.mem_append.mp ha).elim (h.fromLog a) (hnext.fromLog a)
  · rcases h.rest e he with ⟨a, ha, hshown⟩ | ⟨⟨hpos, hmod⟩, hbelow⟩
    · exact .inl ⟨a, List.mem_append_left _ ha, hshown⟩
    · have hcursor : ∀ b ∈ some last.id, e.id < b := by
        rintro b ⟨⟩
        exact hbelow last hmem
      rcases hnext.rest e he hcursor with ⟨a, ha, hshown⟩ | ⟨hlength, hbelow'⟩
      · exact .inl ⟨a, List.mem_append_right _ ha, hshown⟩
      · refine .inr ⟨⟨?_, ?_⟩, fun a ha => (List.mem_append.mp ha).elim (hbelow a) (hbelow' a)⟩
        · rw [List.length_append]
          exact Nat.lt_of_lt_of_le hpos (Nat.le_add_right _ _)
        · rw [List.length_append, hlength, Nat.add_mod_right, hmod]

/-- What `list_audit_log` answers is the next page. -/
theorem nextPage_of_listAuditLog {users : List Identity.User} {actorOrganizationId : Uuid}
    (hnodup : (table.map (·.id)).Nodup) (hfirst : first ⊆ table)
    (h : listAuditLog table users actorOrganizationId org ⟨before, none⟩ = .ok next) :
    NextPage org first table before next := by
  have horg : actorOrganizationId = org := by
    by_contra hne
    rw [listAuditLog, if_pos hne] at h
    cases h
  subst horg
  rw [listAuditLog_page] at h
  cases h
  have hkeys : ((ofOrganization table actorOrganizationId).map idNat).Nodup := by
    have hids : ((ofOrganization table actorOrganizationId).map (·.id)).Nodup :=
      hnodup.sublist (List.filter_sublist.map _)
    rw [show idNat = BitVec.toNat ∘ (·.id) from rfl, ← List.map_map]
    exact hids.map fun _ _ => BitVec.eq_of_toNat_eq
  have hbefore {e : Entry} : (∀ b ∈ before.map BitVec.toNat, idNat e < b) ↔ ∀ b ∈ before, e.id < b := by
    simp [idNat, BitVec.lt_def]
  refine ⟨?_, fun a ha => ?_, fun a ha b hb => ?_, fun e he hlt => ?_⟩
  · rw [List.pairwise_map]
    exact (Keyset.pairwise_page hkeys).imp fun h => BitVec.lt_def.mpr h
  · obtain ⟨e, he, rfl⟩ := List.mem_map.mp ha
    exact ⟨e, (Keyset.mem_of_mem_page he).1, _, _, rfl⟩
  · obtain ⟨e, he, rfl⟩ := List.mem_map.mp ha
    exact hbefore.mp (Keyset.mem_of_mem_page he).2 b hb
  · have hsplit := @Keyset.mem_page_or _ _ _ idNat auditPageSize _ _ _ hkeys
      (ofOrganization_mono hfirst he) (hbefore.mpr hlt)
    rcases hsplit with hin | ⟨hlength, hbelow⟩
    · exact .inl ⟨_, List.mem_map_of_mem hin, _, _, rfl⟩
    · refine .inr ⟨by rw [List.length_map]; exact hlength, fun a ha => ?_⟩
      obtain ⟨s, hs, rfl⟩ := List.mem_map.mp ha
      exact BitVec.lt_def.mpr (hbelow s hs)

end Pages

/-! ## Every run -/

/-- The answer that is on its way is a page of the log. -/
def AnswerFits (org : Uuid) (first table : List Entry) (before : Option Uuid) : Awaited → Prop
  | some (.ok next) => NextPage org first table before next
  | _ => True

theorem AnswerFits.mono {org : Uuid} {first table table' : List Entry} {before : Option Uuid}
    {answer : Awaited} (h : AnswerFits org first table before answer) (hsub : table ⊆ table') :
    AnswerFits org first table' before answer := by
  rcases answer with _ | _ | next
  · trivial
  · trivial
  · exact NextPage.mono h hsub

/-- What holds while the page has come this far. -/
def AuditLogVisit.Stage (v : AuditLogVisit) : Mounting → Prop
  | .before | .me => v.page.entries = none ∧ v.more = none
  | .entries answer =>
    (v.page.entries = none ∧ v.more = none) ∧
      (answer ≠ none → ∃ org first, v.page.orgId = some org ∧ v.firstTable = some first ∧
        AnswerFits org first v.log none answer)
  | .ended =>
    v.page.loadError = none → ∃ org first entries, v.page.orgId = some org ∧
      v.firstTable = some first ∧ v.page.entries = some entries ∧ Shows org first v.log entries ∧
      ∀ cursor answer, v.more = some (cursor, answer) →
        (entries.getLast?.map (·.id) = some cursor) ∧ AnswerFits org first v.log (some cursor) answer

structure AuditLogVisit.Sound (v : AuditLogVisit) : Prop where
  distinct : v.server.world.Distinct
  grown : ∀ first, v.firstTable = some first → first ⊆ v.log
  loading : v.page.loadingMore = v.more.isSome
  stage : v.Stage v.mounting

namespace AuditLogVisit

variable {digest : Bytes → Bytes} {v v' : AuditLogVisit}

theorem nodup_of_distinct (h : v.server.world.Distinct) : (v.log.map (·.id)).Nodup := by
  rw [AuditServer.Distinct, List.map_append] at h
  exact h.of_append_left

theorem ask_fits {org actorOrganizationId : Uuid} {first : List Entry} {before : Option Uuid}
    {users : List Identity.User} (h : v.server.world.Distinct) (hfirst : first ⊆ v.log) :
    AnswerFits org first v.log before (some (v.ask users actorOrganizationId org before)) := by
  cases hask : v.ask users actorOrganizationId org before with
  | error e => trivial
  | ok next => exact nextPage_of_listAuditLog (nodup_of_distinct h) hfirst hask

/-- The log grows, and nothing else changes. -/
theorem Sound.server (h : v.Sound) {s : PoolState auditSql AuditServer AuditJob Unit}
    (hdistinct : s.world.Distinct) (hsub : v.log ⊆ s.world.committed) :
    ({ v with server := s } : AuditLogVisit).Sound where
  distinct := hdistinct
  grown first hfirst := List.Subset.trans (h.grown first hfirst) hsub
  loading := h.loading
  stage := by
    have hstage := h.stage
    show Stage _ v.mounting
    cases hm : v.mounting with
    | before | me =>
      rw [hm] at hstage
      exact hstage
    | entries answer =>
      rw [hm] at hstage
      refine ⟨hstage.1, fun hne => ?_⟩
      obtain ⟨org, first, horg, hfirst, hfits⟩ := hstage.2 hne
      exact ⟨org, first, horg, hfirst, hfits.mono hsub⟩
    | ended =>
      rw [hm] at hstage
      intro hload
      obtain ⟨org, first, entries, horg, hfirst, hentries, hshows, hmore⟩ := hstage hload
      exact ⟨org, first, entries, horg, hfirst, hentries, hshows.mono hsub,
        fun cursor answer hpending => (hmore cursor answer hpending).imp_right (·.mono hsub)⟩

/-- Entries and requests for more are there after the first answer only. -/
theorem Sound.ended (h : v.Sound) (hthere : v.page.entries ≠ none ∨ v.more ≠ none) :
    v.mounting = .ended ∧ v.Stage .ended := by
  have hstage := h.stage
  have hnothing : ¬ (v.page.entries = none ∧ v.more = none) := fun hnone =>
    hthere.elim (absurd hnone.1) (absurd hnone.2)
  cases hm : v.mounting with
  | before | me =>
    rw [hm] at hstage
    exact absurd hstage hnothing
  | entries answer =>
    rw [hm] at hstage
    exact absurd hstage.1 hnothing
  | ended =>
    rw [hm] at hstage
    exact ⟨rfl, hstage⟩

theorem Sound.act {a : AuditLogAct} (h : v.Sound) (ha : v.act digest a = some v') : v'.Sound := by
  have hstage := h.stage
  have hloading := h.loading
  cases a with
  | server a =>
    obtain ⟨s, hs, rfl⟩ := Option.map_eq_some_iff.mp ha
    have hrun : (auditPool digest).exec v.server [a] = some s := by
      rw [Pool.exec_cons, hs]
      rfl
    obtain ⟨hdistinct, hsub⟩ := distinct_next hrun h.distinct
    exact h.server hdistinct hsub
  | mount =>
    simp only [AuditLogVisit.act] at ha
    split at ha
    · next hm =>
      cases ha
      rw [hm] at hstage
      exact ⟨h.distinct, h.grown, h.loading, hstage⟩
    · cases ha
  | meArrives organizationId =>
    simp only [AuditLogVisit.act] at ha
    split at ha
    · next hm =>
      cases ha
      rw [hm] at hstage
      exact ⟨h.distinct, h.grown, h.loading, hstage, fun hne => absurd rfl hne⟩
    · cases ha
  | serveFirst actorOrganizationId users =>
    simp only [AuditLogVisit.act] at ha
    split at ha
    · next hm horg =>
      cases ha
      rw [hm] at hstage
      refine ⟨h.distinct, ?_, h.loading, hstage.1, fun _ =>
        ⟨_, _, horg, rfl, ask_fits h.distinct (List.Subset.refl _)⟩⟩
      rintro first ⟨⟩
      exact List.Subset.refl _
    · cases ha
  | firstArrives =>
    simp only [AuditLogVisit.act] at ha
    split at ha
    · next entries hm =>
      cases ha
      rw [hm] at hstage
      obtain ⟨⟨-, hmore⟩, hanswer⟩ := hstage
      obtain ⟨org, first, horg, hfirst, hfits⟩ := hanswer (Option.some_ne_none _)
      refine ⟨h.distinct, h.grown, h.loading, fun _ =>
        ⟨org, first, entries, horg, hfirst, rfl, shows_of_nextPage hfits, ?_⟩⟩
      intro cursor answer hpending
      rw [hmore] at hpending
      cases hpending
    · cases ha
  | mountFails message =>
    simp only [AuditLogVisit.act] at ha
    split at ha
    · cases ha
      exact ⟨h.distinct, h.grown, h.loading, by rintro ⟨⟩⟩
    · cases ha
      exact ⟨h.distinct, h.grown, h.loading, by rintro ⟨⟩⟩
    · cases ha
  | loadMore =>
    simp only [AuditLogVisit.act] at ha
    split at ha
    · next hguard =>
      obtain ⟨last, hlast, rfl⟩ := Option.map_eq_some_iff.mp ha
      refine ⟨h.distinct, h.grown, rfl, ?_⟩
      have hthere : v.page.entries ≠ none := by
        intro hnone
        rw [hnone] at hlast
        cases hlast
      obtain ⟨hm, hstage⟩ := h.ended (.inl hthere)
      show Stage _ v.mounting
      rw [hm]
      intro hload
      obtain ⟨org, first, entries, horg, hfirst, hentries, hshows, -⟩ := hstage hload
      refine ⟨org, first, entries, horg, hfirst, hentries, hshows, ?_⟩
      rintro cursor answer ⟨⟩
      rw [hentries, Option.getD_some] at hlast
      exact ⟨by rw [hlast]; rfl, trivial⟩
    · cases ha
  | serveMore actorOrganizationId users =>
    simp only [AuditLogVisit.act] at ha
    split at ha
    · next cursor orgId hpending horg =>
      cases ha
      refine ⟨h.distinct, h.grown, by rw [hloading, hpending]; rfl, ?_⟩
      obtain ⟨hm, hstage⟩ := h.ended (.inr (by rw [hpending]; exact Option.some_ne_none _))
      show Stage _ v.mounting
      rw [hm]
      intro hload
      obtain ⟨org, first, entries, horg', hfirst, hentries, hshows, hmore⟩ := hstage hload
      obtain rfl : orgId = org := Option.some.inj (horg.symm.trans horg')
      refine ⟨orgId, first, entries, horg', hfirst, hentries, hshows, ?_⟩
      rintro _ answer ⟨⟩
      exact ⟨(hmore _ _ hpending).1, ask_fits h.distinct (h.grown first hfirst)⟩
    · cases ha
  | moreArrives =>
    simp only [AuditLogVisit.act] at ha
    split at ha
    · next cursor next hpending =>
      cases ha
      refine ⟨h.distinct, h.grown, rfl, ?_⟩
      obtain ⟨hm, hstage⟩ := h.ended (.inr (by rw [hpending]; exact Option.some_ne_none _))
      show Stage _ v.mounting
      rw [hm]
      intro hload
      obtain ⟨org, first, entries, horg, hfirst, hentries, hshows, hmore⟩ := hstage hload
      obtain ⟨hcursor, hfits⟩ := hmore _ _ hpending
      obtain ⟨last, hlast, rfl⟩ := Option.map_eq_some_iff.mp hcursor
      refine ⟨org, first, entries ++ next, horg, hfirst, ?_, hshows.append hlast hfits, ?_⟩
      · show v.page.entries.map (· ++ next) = _
        rw [hentries]
        rfl
      · rintro _ _ ⟨⟩
    · cases ha
  | moreFails message =>
    simp only [AuditLogVisit.act] at ha
    split at ha
    · next pending hpending =>
      cases ha
      refine ⟨h.distinct, h.grown, rfl, ?_⟩
      obtain ⟨hm, hstage⟩ := h.ended (.inr (by rw [hpending]; exact Option.some_ne_none _))
      show Stage _ v.mounting
      rw [hm]
      intro hload
      obtain ⟨org, first, entries, horg, hfirst, hentries, hshows, -⟩ := hstage hload
      exact ⟨org, first, entries, horg, hfirst, hentries, hshows, by rintro _ _ ⟨⟩⟩
    · cases ha

/-- In every run, with whatever is appended meanwhile: the page shows entries of the log of its
organization, each once and by descending id, and every entry that was there at the first answer
and is not shown is older by its id than all that is shown, and more is offered. -/
theorem shows_log (as : List AuditLogAct) (h : after (AuditLogVisit.act digest) {} as = some v)
    {entries : List AuditLogEntry} (hentries : v.page.entries = some entries)
    (hload : v.page.loadError = none) :
    ∃ org first, v.page.orgId = some org ∧ v.firstTable = some first ∧
      entries.Pairwise (fun a b => b.id < a.id) ∧
      (∀ a ∈ entries, ∃ e ∈ ofOrganization v.log org, Shown e a) ∧
      ∀ e ∈ ofOrganization first org, (∃ a ∈ entries, Shown e a) ∨
        v.page.hasMore = true ∧ ∀ a ∈ entries, e.id < a.id := by
  have hstart : ({} : AuditLogVisit).Sound :=
    ⟨List.nodup_nil, by rintro first ⟨⟩, rfl, rfl, rfl⟩
  have hsound : v.Sound :=
    after_invariant (fun _ _ _ hs _ (hact : AuditLogVisit.act digest _ _ = some _) => hs.act hact)
      hstart (fun _ _ => trivial) h
  obtain ⟨-, hover⟩ := hsound.ended (.inl (by rw [hentries]; exact Option.some_ne_none _))
  obtain ⟨org, first, entries', horg, hfirst, hentries', hshows, -⟩ := hover hload
  obtain rfl : entries = entries' := Option.some.inj (hentries.symm.trans hentries')
  refine ⟨org, first, horg, hfirst, hshows.descending, hshows.fromLog, fun e he => ?_⟩
  refine (hshows.rest e he).imp_right fun ⟨⟨hpos, hmod⟩, hbelow⟩ => ⟨?_, hbelow⟩
  rw [AuditLogPage.hasMore, hentries]
  simp [hpos, hmod]

/-- The second of two entries is appended while the answer is on its way. -/
def visitWhileAppending : List AuditLogAct :=
  (twoAppends.take 5).map .server ++ [.mount, .meArrives 7, .serveFirst 7 []] ++
    (twoAppends.drop 5).map .server ++ [.firstArrives]

theorem shows_log_visitWhileAppending :
    ∃ v entries org first, after (AuditLogVisit.act sampleDigest) {} visitWhileAppending = some v ∧
      v.page.entries = some entries ∧ v.page.loadError = none ∧
      v.page.orgId = some org ∧ v.firstTable = some first ∧
      entries.Pairwise (fun a b => b.id < a.id) ∧
      (∀ a ∈ entries, ∃ e ∈ ofOrganization v.log org, Shown e a) ∧
      ∀ e ∈ ofOrganization first org, (∃ a ∈ entries, Shown e a) ∨
        v.page.hasMore = true ∧ ∀ a ∈ entries, e.id < a.id := by
  have hrun : (after (AuditLogVisit.act sampleDigest) {} visitWhileAppending).any (fun v =>
      v.page.entries.isSome && v.page.loadError.isNone) = true := by decide +kernel
  obtain ⟨v, hv, hthere⟩ := (Option.any_eq_true _ _).mp hrun
  rw [Bool.and_eq_true, Option.isSome_iff_exists, Option.isNone_iff_eq_none] at hthere
  obtain ⟨⟨entries, hentries⟩, hload⟩ := hthere
  obtain ⟨org, first, hrest⟩ := shows_log visitWhileAppending hv hentries hload
  exact ⟨v, entries, org, first, hv, hentries, hload, hrest⟩

end AuditLogVisit

end Kubinate.Frontend
