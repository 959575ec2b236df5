import Kubinate.Clusters.Inventory
import Kubinate.Clusters.ScaleRecord

/-!
# The worker count

A scale request reads that the cluster is ready and how many workers it has, writes the new
count, and starts a run that sets the status to scaling later. So two requests can pass the
gate together, and a run that gives up before it has changed the status leaves a ready
cluster with a wrong count; the rows of a scale-in are deleted outside any tenant and the
failure to do so is ignored.

* `not_atMostOne_and_balanced`: two requests that read the cluster before either writes.
* `balanced_of_keepsCount`: as long as a request writes the count only while nothing is in
  flight and what it has read still holds, and the writes of the status and of the rows take
  effect, one run is in flight at most and the count of a ready cluster is right when none
  is.
-/

namespace Kubinate.Clusters

open Platform Library

/-! ## The books -/

/-- What the count is compared with. -/
structure Books where
  status : ClusterStatus
  workerCount : Int
  servers : List ClusterServer
  created : List Nat

def Cloud.books (w : Cloud) : Books := ⟨w.cluster.status, w.cluster.workerCount, w.servers, w.created⟩

def ClusterServer.isLiveWorker (r : ClusterServer) : Bool := r.isLive && r.role == .worker

def Cloud.liveWorkers (w : Cloud) : Nat := w.servers.countP (·.isLiveWorker)

/-- The count of a ready cluster is the number of its live workers and inside the bounds. -/
def Cloud.CountRight (w : Cloud) : Prop :=
  w.cluster.status = .ready → w.cluster.workerCount = w.liveWorkers ∧
    minWorkerCount ≤ w.cluster.workerCount ∧ w.cluster.workerCount ≤ maxWorkerCount

namespace Books

variable {b : Books}

def liveWorkers (b : Books) : Nat := b.servers.countP (·.isLiveWorker)

def InRange (b : Books) : Prop := minWorkerCount ≤ b.workerCount ∧ b.workerCount ≤ maxWorkerCount

def Balanced (b : Books) : Prop := b.workerCount = b.liveWorkers ∧ b.InRange

/-- A ready cluster with a count that is `delta` ahead of the rows. -/
structure Owes (b : Books) (delta : Int) : Prop where
  status : b.status = .ready
  tally : b.workerCount = b.liveWorkers + delta
  range : b.InRange

end Books

/-! ## Rows -/

section Rows

variable {w w' : Cloud} {x : Outcome}

/-- Calls that write none of it. -/
theorem books_inert {c : CloudCall} {i : Nat} {r : c.Answer} {js : List ClusterJob}
    (hc : c.inert = true) (ha : w.answer i c x = some (w', r, js)) : w'.books = w.books := by
  have hexec : (w.execute i x c).1.books = w.books := by
    cases c
    case setKubeconfigSecret secretId =>
      simp only [Cloud.execute, Cloud.setKubeconfigSecret]
      split <;> rfl
    case insertWorkflowRow id =>
      simp only [Cloud.execute]
      split <;> rfl
    case deleteServer id =>
      simp only [Cloud.execute]
      split <;> rfl
    case softDelete =>
      simp only [Cloud.execute]
      split <;> rfl
    case deleteSecret id =>
      simp only [Cloud.execute]
      split <;> rfl
    all_goals first | rfl | cases hc
  obtain ⟨-, -, ⟨-, rfl, -⟩ | ⟨-, rfl, -⟩ | ⟨-, rfl, -⟩⟩ := Cloud.answer_cases ha
  · exact hexec
  · rfl
  · exact hexec

theorem Cloud.Inventoried.of_books (h : w.Inventoried) (hb : w'.books = w.books) :
    w'.Inventoried := by
  have hcreated : w'.created = w.created := congrArg Books.created hb
  exact h.of_eq (by simp [hcreated]) (congrArg Books.servers hb)

/-- A row of a server that had none. -/
theorem liveWorkers_recordServer {hetznerServerId : Nat} {publicIpv4 privateIpv4 : Option String}
    (hnew : ∀ r ∈ w.servers, r.hetznerServerId ≠ hetznerServerId)
    (hok : (w.recordServer x hetznerServerId .worker publicIpv4 privateIpv4).2 = .ok ()) :
    ∃ r, r.hetznerServerId = hetznerServerId ∧ r.isLiveWorker = true ∧
      (w.recordServer x hetznerServerId .worker publicIpv4 privateIpv4).1 =
        { w with servers := w.servers ++ [r] } := by
  have hnone : (w.servers.any fun r => r.isLive && r.hetznerServerId == hetznerServerId) = false := by
    rw [List.any_eq_false]
    intro r hr
    simp [hnew r hr]
  unfold Cloud.recordServer at hok ⊢
  rw [if_neg (by simp [hnone])] at hok ⊢
  split at hok
  · cases hok
  · next hfree =>
    rw [if_neg hfree]
    exact ⟨_, rfl, rfl, rfl⟩

/-- A row that is deleted is one live worker less. -/
theorem countP_softDelete {l : List ClusterServer} {r : ClusterServer} (now : Timestamp)
    (hids : (l.map (·.id)).Nodup) (hr : r ∈ l) (hlive : r.isLiveWorker = true) :
    (l.map (ClusterServer.softDelete (fun r' => r'.id == r.id && r'.isLive) now)).countP
      (·.isLiveWorker) + 1 = l.countP (·.isLiveWorker) := by
  induction l with
  | nil => cases hr
  | cons a l ih =>
    rw [List.map_cons, List.nodup_cons] at hids
    rw [List.map_cons, List.countP_cons, List.countP_cons]
    rcases List.mem_cons.mp hr with rfl | hmem
    · -- the others have other ids
      have hothers : l.map (ClusterServer.softDelete
          (fun r' => r'.id == r.id && r'.isLive) now) = l := by
        refine List.map_congr_left (g := id) (fun r' hr' => ?_) |>.trans (List.map_id l)
        refine ClusterServer.softDelete_of_not ?_
        have hne : r'.id ≠ r.id := fun heq => hids.1 (heq ▸ List.mem_map_of_mem hr')
        simp [hne]
      have hdead : (ClusterServer.softDelete (fun r' => r'.id == r.id && r'.isLive) now
          r).isLiveWorker = false := by
        have hl : r.isLive = true := (Bool.and_eq_true_iff.mp hlive).1
        rw [ClusterServer.softDelete, if_pos (by simp [hl])]
        rfl
      rw [hothers, hdead, hlive]
      simp
    · have hne : a.id ≠ r.id := fun heq => hids.1 (heq ▸ List.mem_map_of_mem hmem)
      rw [ClusterServer.softDelete_of_not (by simp [hne]), ← ih hids.2 hmem]
      omega

end Rows

/-! ## One run -/

/-- What has to be true of a call for the count to stay right. -/
structure Lands (w : Cloud) (x : Outcome) (c : CloudCall) : Prop where
  scaling : ∀ reason, c = .updateStatus .scaling reason → x.reply ≠ .failed
  create : ∀ params, c = .createServer params → x.serverId < 2 ^ 63
  remove : ∀ id, c = .softDeleteServerRow id → x.reply ≠ .failed ∧ w.enforceRls = false

/-- A cluster that is not ready, with a count that is `owed` ahead of the rows. -/
structure Adrift (b : Books) (owed : Int) : Prop where
  status : b.status ≠ .ready
  range : b.InRange
  tally : b.workerCount = b.liveWorkers + owed

/-- A run that owes `delta` when it begins and satisfies `M` while it is under way. -/
structure RunBooks (delta : Int) (M : Books → ScaleRecord → Prop) (b : Books) (ρ : ScaleRecord) :
    Prop where
  begins : ρ.started = false → b.Owes delta
  ends : ρ.started = true → b.status = .ready → b.Balanced
  under : ρ.UnderWay → M b ρ

section Run

variable {w w' : Cloud} {x : Outcome} {i : Nat} {ρ : ScaleRecord} {js : List ClusterJob}
  {b : Books} {delta : Int} {M : Books → ScaleRecord → Prop}

/-- A run that is over needs nothing more than a count that is right if it is ready. -/
theorem RunBooks.ended (hover : ρ.ended = true) (hstarted : ρ.started = true)
    (h : b.status = .ready → b.Balanced) : RunBooks delta M b ρ where
  begins := fun hs => absurd hstarted (by simp [hs])
  ends := fun _ => h
  under := fun hu => absurd hover (by simp [hu.2])

theorem RunBooks.of_under (hstarted : ρ.started = true) (hstatus : b.status ≠ .ready)
    (h : M b ρ) : RunBooks delta M b ρ where
  begins := fun hs => absurd hstarted (by simp [hs])
  ends := fun _ hready => absurd hready hstatus
  under := fun _ => h

theorem inventoried_updateStatus {r : Except PlatformError Unit} {status : ClusterStatus}
    {reason : Option String} (hw : w.Inventoried)
    (ha : w.answer i (.updateStatus status reason) x = some (w', r, js)) : w'.Inventoried := by
  obtain ⟨-, -, ⟨-, rfl, -⟩ | ⟨-, rfl, -⟩ | ⟨-, rfl, -⟩⟩ := Cloud.answer_cases ha
  · exact hw.of_eq (fun _ h => h) rfl
  · exact hw
  · exact hw.of_eq (fun _ h => h) rfl

theorem runBooks_begins {r : Except PlatformError Unit} {reason : Option String}
    (h : RunBooks delta M w.books {})
    (hM : ∀ b, Adrift b delta → M b { started := true })
    (ha : w.answer i (.updateStatus .scaling reason) x = some (w', r, js))
    (hC : Lands w x (.updateStatus .scaling reason)) :
    RunBooks delta M w'.books (ScaleRecord.next {} (.updateStatus .scaling reason) r) := by
  have hb : w'.books = { w.books with status := .scaling } := by
    obtain ⟨-, -, ⟨-, rfl, -⟩ | ⟨hreply, -, -⟩ | ⟨-, rfl, -⟩⟩ := Cloud.answer_cases ha
    · rfl
    · exact absurd hreply (hC.scaling reason rfl)
    · rfl
  rw [hb]
  rcases r with e | ⟨⟩
  · exact .ended rfl rfl nofun
  · have howes := h.begins rfl
    exact .of_under rfl nofun (hM _ ⟨nofun, howes.range, howes.tally⟩)

/-- The cluster is set ready when nothing is owed any more. -/
theorem runBooks_ready {r : Except PlatformError Unit} {reason : Option String}
    (h : Adrift w.books 0) (hρ : ρ.UnderWay)
    (ha : w.answer i (.updateStatus .ready reason) x = some (w', r, js)) :
    RunBooks delta M w'.books (ρ.next (.updateStatus .ready reason) r) := by
  refine .ended rfl hρ.1 fun hready => ?_
  have hbalanced : ({ w.books with status := .ready } : Books).Balanced :=
    ⟨h.tally.trans (Int.add_zero _), h.range⟩
  obtain ⟨-, -, ⟨-, rfl, -⟩ | ⟨-, rfl, -⟩ | ⟨-, rfl, -⟩⟩ := Cloud.answer_cases ha
  · exact hbalanced
  · exact absurd hready h.status
  · exact hbalanced

theorem runBooks_fails {r : Except PlatformError Unit} {reason : Option String}
    (h : RunBooks delta M w.books ρ) (hρ : ρ.UnderWay)
    (hM : M { w.books with status := .failed } ρ)
    (ha : w.answer i (.updateStatus .failed reason) x = some (w', r, js)) :
    RunBooks delta M w'.books (ρ.next (.updateStatus .failed reason) r) := by
  obtain ⟨-, -, ⟨-, rfl, -⟩ | ⟨-, rfl, -⟩ | ⟨-, rfl, -⟩⟩ := Cloud.answer_cases ha
  · exact .of_under hρ.1 nofun hM
  · exact h
  · exact .of_under hρ.1 nofun hM

theorem runBooks_inert {c : CloudCall} {r : c.Answer} (h : RunBooks delta M w.books ρ)
    (hw : w.Inventoried) (hc : c.inert = true) (hρ : ρ.started = true)
    (ha : w.answer i c x = some (w', r, js)) :
    w'.Inventoried ∧ RunBooks delta M w'.books (ρ.next c r) ∧ (ρ.next c r).started = true := by
  have hb := books_inert hc ha
  rw [ScaleRecord.next_inert hc, hb]
  exact ⟨hw.of_books hb, h, hρ⟩

theorem books_listServers {r : Except PlatformError (List ClusterServer)}
    (ha : w.answer i .listServers x = some (w', r, js)) : w' = w := by
  obtain ⟨-, -, ⟨-, rfl, -⟩ | ⟨-, rfl, -⟩ | ⟨-, rfl, -⟩⟩ := Cloud.answer_cases ha <;> rfl

end Run

/-! ### Scale-out -/

/-- A scale-out by `count` that is under way: each recorded worker brings the rows closer to
the count, and the workers that are not recorded yet have no rows. -/
structure Recording (count : Nat) (b : Books) (ρ : ScaleRecord) : Prop
    extends Adrift b (count - ρ.recorded) where
  nodup : ρ.made.Nodup
  made : ∀ id ∈ ρ.made, id ∈ b.created ∧ toI64 id = id
  fresh : ∀ id ∈ ρ.made.drop ρ.recorded, ∀ r ∈ b.servers, r.hetznerServerId ≠ id

section ScaleOut

variable {w w' : Cloud} {x : Outcome} {i count : Nat} {ρ : ScaleRecord} {js : List ClusterJob}

theorem scaleOut_creates {r : Except HetznerError Nat} {params : CreateServerParams}
    (h : Recording count w.books ρ) (hρ : ρ.UnderWay) (hw : w.Inventoried)
    (ha : w.answer i (.createServer params) x = some (w', r, js))
    (hC : Lands w x (.createServer params)) :
    w'.Inventoried ∧
      RunBooks count (Recording count) w'.books (ρ.next (.createServer params) r) := by
  -- a server that the run is not told about
  have hmore : Recording count { w.books with created := x.serverId :: w.created } ρ :=
    { h with made := fun id hid => ⟨List.mem_cons_of_mem _ (h.made id hid).1, (h.made id hid).2⟩ }
  have hw' : (w.execute i x (.createServer params)).1.Inventoried :=
    hw.of_eq (fun _ hid => List.mem_cons_of_mem _ hid) rfl
  obtain ⟨himp, -, ⟨hreply, rfl, rfl⟩ | ⟨-, rfl, rfl⟩ | ⟨-, rfl, rfl⟩⟩ := Cloud.answer_cases ha
  · have hnew : x.serverId ∉ w.created := by
      simpa [Cloud.impossible, hreply] using himp
    have hlt := hC.create params rfl
    refine ⟨hw', .of_under hρ.1 h.status { hmore with nodup := ?_, made := ?_, fresh := ?_ }⟩
    · refine List.nodup_append.mpr ⟨h.nodup, List.nodup_singleton _, ?_⟩
      rintro id hid _ hid' rfl
      obtain rfl := List.mem_singleton.mp hid'
      exact hnew (h.made _ hid).1
    · intro id hid
      rcases List.mem_append.mp hid with hid | hid
      · exact hmore.made id hid
      · obtain rfl := List.mem_singleton.mp hid
        exact ⟨List.mem_cons_self, if_pos hlt⟩
    · intro id hid r hr
      change id ∈ (ρ.made ++ [x.serverId]).drop ρ.recorded at hid
      rw [List.drop_append] at hid
      rcases List.mem_append.mp hid with hid | hid
      · exact h.fresh id hid r hr
      · obtain rfl := List.mem_singleton.mp (List.mem_of_mem_drop hid)
        exact fun heq => hnew (heq ▸ hw.rows r hr)
  · exact ⟨hw, .of_under hρ.1 h.status h⟩
  · exact ⟨hw', .of_under hρ.1 h.status hmore⟩

/-- One worker more is recorded. -/
theorem Recording.record {b : Books} {id : Nat} {r : ClusterServer} (h : Recording count b ρ)
    (hmade : ρ.made[ρ.recorded]? = some id) (hid : r.hetznerServerId = id)
    (hlive : r.isLiveWorker = true) :
    Recording count { b with servers := b.servers ++ [r] }
      { ρ with recorded := ρ.recorded + 1 } := by
  obtain ⟨hlt, hget⟩ := List.getElem?_eq_some_iff.mp hmade
  have hdrop : ρ.made.drop ρ.recorded = id :: ρ.made.drop (ρ.recorded + 1) := by
    rw [List.drop_eq_getElem_cons hlt, hget]
  have hnodup := h.nodup.sublist (List.drop_sublist ρ.recorded ρ.made)
  rw [hdrop, List.nodup_cons] at hnodup
  refine { h with tally := ?_, fresh := ?_ }
  · have hcount := h.tally
    simp only [Books.liveWorkers, List.countP_append, List.countP_singleton, hlive] at hcount ⊢
    push_cast
    omega
  · intro id' hid' r' hr'
    rcases List.mem_append.mp hr' with hr' | hr'
    · refine h.fresh id' ?_ r' hr'
      rw [hdrop]
      exact List.mem_cons_of_mem _ hid'
    · obtain rfl := List.mem_singleton.mp hr'
      rw [hid]
      rintro rfl
      exact hnodup.1 hid'

theorem scaleOut_records {r : Except PlatformError Unit} {hid : Nat} {a b : Option String}
    (h : Recording count w.books ρ) (hρ : ρ.UnderWay) (hw : w.Inventoried)
    (hnext : (ρ.made[ρ.recorded]?).map toI64 = some hid)
    (ha : w.answer i (.recordServer hid .worker a b) x = some (w', r, js)) :
    w'.Inventoried ∧
      RunBooks count (Recording count) w'.books (ρ.next (.recordServer hid .worker a b) r) := by
  obtain ⟨id, hmade, rfl⟩ := Option.map_eq_some_iff.mp hnext
  obtain ⟨hcreated, hid64⟩ := h.made id (List.mem_of_getElem? hmade)
  rw [hid64] at ha ⊢
  have hw' : (w.execute i x (.recordServer id .worker a b)).1.Inventoried :=
    hw.recordServer x .worker a b hcreated
  have hstatus : (w.execute i x (.recordServer id .worker a b)).1.books.status ≠ .ready := by
    simp only [Cloud.execute, Cloud.recordServer]
    split
    · exact h.status
    split <;> exact h.status
  obtain ⟨-, -, ⟨-, rfl, hr⟩ | ⟨-, rfl, rfl⟩ | ⟨-, rfl, rfl⟩⟩ := Cloud.answer_cases ha
  · rcases r with e | ⟨⟩
    · exact ⟨hw', .ended rfl hρ.1 fun hready => absurd hready hstatus⟩
    · obtain ⟨row, hrow, hlive, hservers⟩ := liveWorkers_recordServer (w := w) (x := x)
        (h.fresh id (List.mem_of_getElem? (i := 0) (by rw [List.getElem?_drop]; exact hmade)))
        hr.symm
      have hbooks : (w.execute i x (.recordServer id .worker a b)).1.books =
          { w.books with servers := w.books.servers ++ [row] } := congrArg Cloud.books hservers
      refine ⟨hw', .of_under hρ.1 hstatus ?_⟩
      rw [hbooks]
      exact h.record hmade hrow hlive
  · exact ⟨hw, .ended rfl hρ.1 fun hready => absurd hready h.status⟩
  · exact ⟨hw', .ended rfl hρ.1 fun hready => absurd hready hstatus⟩

/-- One call of a scale-out. -/
theorem scaleOut_call {c : CloudCall} {r : c.Answer}
    (h : RunBooks count (Recording count) w.books ρ) (hw : w.Inventoried)
    (hcall : ρ.ScaleOutCalls count c) (ha : w.answer i c x = some (w', r, js))
    (hC : Lands w x c) :
    w'.Inventoried ∧ RunBooks count (Recording count) w'.books (ρ.next c r) ∧
      (ρ.next c r).started = true := by
  have hrest (hc : c.inert = true ∧ ρ.started = true) := runBooks_inert h hw hc.1 hc.2 ha
  cases c
  case updateStatus status reason =>
    have hw' := inventoried_updateStatus hw ha
    cases status
    case scaling =>
      obtain rfl : ρ = {} := hcall
      refine ⟨hw', runBooks_begins h (fun b hb => ?_) ha hC, ?_⟩
      · exact { toAdrift := by simpa using hb, nodup := List.nodup_nil, made := nofun, fresh := nofun }
      · rcases r with e | ⟨⟩ <;> rfl
    case ready =>
      obtain ⟨hρ, hall⟩ := hcall
      have hadrift := (h.under hρ).toAdrift
      rw [hall, sub_self] at hadrift
      exact ⟨hw', runBooks_ready hadrift hρ ha, hρ.1⟩
    case failed =>
      have hrec := h.under hcall
      exact ⟨hw', runBooks_fails h hcall { hrec with status := nofun } ha, hcall.1⟩
    all_goals exact absurd hcall.1 nofun
  case listServers =>
    obtain rfl := books_listServers ha
    have hrec := h.under hcall
    rcases r with e | servers
    · exact ⟨hw, h, hcall.1⟩
    · exact ⟨hw, .of_under hcall.1 hrec.status { hrec with }, hcall.1⟩
  case createServer params =>
    obtain ⟨hw', hbooks⟩ := scaleOut_creates (h.under hcall) hcall hw ha hC
    refine ⟨hw', hbooks, ?_⟩
    rcases r with e | id <;> exact hcall.1
  case recordServer hid role a b =>
    obtain ⟨hρ, rfl, hnext⟩ := hcall
    obtain ⟨hw', hbooks⟩ := scaleOut_records (h.under hρ) hρ hw hnext ha
    refine ⟨hw', hbooks, ?_⟩
    rcases r with e | ⟨⟩ <;> exact hρ.1
  all_goals exact hrest hcall

end ScaleOut

/-! ### Scale-in -/

/-- The rows that a scale-in by `count` deletes, `removed` of which it has deleted. -/
structure Chosen (count removed : Nat) (b : Books) (rows : List ClusterServer) : Prop where
  length : (workersToRemove rows count).length = count
  ids : ((workersToRemove rows count).map (·.id)).Nodup
  live : ∀ s ∈ (workersToRemove rows count).drop removed, ∃ r ∈ b.servers,
    r.id = s.id ∧ r.isLiveWorker = true

/-- A scale-in by `count` that is under way. -/
structure Removing (count : Nat) (b : Books) (ρ : ScaleRecord) : Prop
    extends Adrift b (ρ.removed - count) where
  chosen : ∀ rows, ρ.listed = some rows → Chosen count ρ.removed b rows

section ScaleIn

variable {w w' : Cloud} {x : Outcome} {i count : Nat} {ρ : ScaleRecord} {js : List ClusterJob}

theorem workersToRemove_perm_take (rows : List ClusterServer) (count : Nat) :
    ∃ l : List ClusterServer, l.Perm (rows.filter (·.role = .worker)) ∧ workersToRemove rows count = l.take count :=
  ⟨_, List.perm_insertionSort _ _, rfl⟩

/-- There are enough workers, as the count stays inside the bounds. -/
theorem chosen_listServers (hw : w.Inventoried) (h : Adrift w.books (0 - count)) :
    Chosen count 0 w.books w.listServers := by
  obtain ⟨l, hl, heq⟩ := workersToRemove_perm_take w.listServers count
  have hlen : l.length = w.books.liveWorkers := by
    rw [hl.length_eq, ← List.countP_eq_length_filter,
      Cloud.countP_listServers (p := fun role => decide (role = .worker)), Cloud.liveServers,
      List.countP_filter]
    refine List.countP_congr fun r _ => ?_
    simp [ClusterServer.isLiveWorker, and_comm]
  refine ⟨?_, ?_, fun s hs => ?_⟩
  · have hcount := h.tally
    have hrange : 1 ≤ w.books.workerCount := h.range.1
    rw [heq, List.length_take, hlen]
    omega
  · rw [heq, List.map_take]
    refine List.Nodup.sublist (List.take_sublist _ _) ?_
    refine (hl.map (·.id)).nodup_iff.mpr ?_
    exact hw.nodup_listServers.sublist ((List.filter_sublist).map _)
  · rw [List.drop_zero, heq] at hs
    have hmem := hl.subset (List.mem_of_mem_take hs)
    obtain ⟨hmem, hrole⟩ := List.mem_filter.mp hmem
    obtain ⟨r, hr, hlive, hrole', hid, -⟩ := Cloud.exists_of_mem_listServers hmem
    refine ⟨r, hr, hid, ?_⟩
    rw [ClusterServer.isLiveWorker, hlive, hrole']
    simpa using hrole

/-- One row less. -/
theorem scaleIn_removes {r : Except PlatformError Unit} {id : Uuid} {rows : List ClusterServer}
    (h : Removing count w.books ρ) (hρ : ρ.UnderWay) (hw : w.Inventoried)
    (hrows : ρ.listed = some rows)
    (hnext : ((workersToRemove rows count)[ρ.removed]?).map (·.id) = some id)
    (ha : w.answer i (.softDeleteServerRow id) x = some (w', r, js))
    (hC : Lands w x (.softDeleteServerRow id)) :
    w'.Inventoried ∧
      RunBooks (-count) (Removing count) w'.books (ρ.next (.softDeleteServerRow id) r) := by
  obtain ⟨s, hs, rfl⟩ := Option.map_eq_some_iff.mp hnext
  obtain ⟨hreply, hrls⟩ := hC.remove s.id rfl
  have hchosen := h.chosen rows hrows
  obtain ⟨hlt, hget⟩ := List.getElem?_eq_some_iff.mp hs
  have hdrop : (workersToRemove rows count).drop ρ.removed =
      s :: (workersToRemove rows count).drop (ρ.removed + 1) := by
    rw [List.drop_eq_getElem_cons hlt, hget]
  obtain ⟨row, hrow, hid, hlive⟩ := hchosen.live s (by rw [hdrop]; exact List.mem_cons_self)
  -- the row takes effect, whatever the run is told
  have hservers : w'.servers = w.servers.map
      (ClusterServer.softDelete (fun r' => r'.id == row.id && r'.isLive) x.now) ∧
      w'.created = w.created ∧ w'.cluster = w.cluster := by
    have hexec : (w.execute i x (.softDeleteServerRow s.id)).1.servers = w.servers.map
        (ClusterServer.softDelete (fun r' => r'.id == row.id && r'.isLive) x.now) := by
      simp only [Cloud.execute, hrls, hid, Bool.not_false, Bool.true_and]
      rfl
    obtain ⟨-, -, ⟨-, rfl, -⟩ | ⟨hfailed, -, -⟩ | ⟨-, rfl, -⟩⟩ := Cloud.answer_cases ha
    · exact ⟨hexec, rfl, rfl⟩
    · exact absurd hfailed hreply
    · exact ⟨hexec, rfl, rfl⟩
  obtain ⟨hservers, hcreated, hcluster⟩ := hservers
  have hbooks : w'.books = { w.books with
      servers := w.servers.map
        (ClusterServer.softDelete (fun r' => r'.id == row.id && r'.isLive) x.now) } := by
    rw [Cloud.books, hservers, hcreated, hcluster]
    rfl
  refine ⟨hw.softDelete hcreated hservers, .of_under hρ.1 (hbooks ▸ h.status) ?_⟩
  rw [hbooks]
  refine { h with tally := ?_, chosen := fun rows' hrows' => ?_ }
  · have htally := h.tally
    have hless := countP_softDelete x.now hw.ids hrow hlive
    have hlive' : w.books.liveWorkers = w.servers.countP (·.isLiveWorker) := rfl
    rw [hlive', ← hless] at htally
    simp only [Books.liveWorkers, ScaleRecord.next]
    push_cast at htally ⊢
    omega
  · obtain rfl : rows = rows' := Option.some.inj (hrows.symm.trans hrows')
    refine ⟨hchosen.length, hchosen.ids, fun s' hs' => ?_⟩
    obtain ⟨row', hrow', hid', hlive'⟩ := hchosen.live s' (by
      rw [hdrop]
      exact List.mem_cons_of_mem _ hs')
    -- its row is another one
    have hne : row'.id ≠ row.id := by
      have hnodup := hchosen.ids.sublist
        ((List.drop_sublist ρ.removed (workersToRemove rows count)).map ClusterServer.id)
      rw [hdrop, List.map_cons, List.nodup_cons] at hnodup
      rw [hid, hid']
      exact fun heq => hnodup.1 (heq ▸ List.mem_map_of_mem hs')
    refine ⟨row', ?_, hid', hlive'⟩
    exact List.mem_map.mpr ⟨row', hrow', ClusterServer.softDelete_of_not (by simp [hne])⟩

/-- One call of a scale-in. -/
theorem scaleIn_call {c : CloudCall} {r : c.Answer}
    (h : RunBooks (-count) (Removing count) w.books ρ) (hw : w.Inventoried)
    (hcall : ρ.ScaleInCalls count c) (ha : w.answer i c x = some (w', r, js)) (hC : Lands w x c) :
    w'.Inventoried ∧ RunBooks (-count) (Removing count) w'.books (ρ.next c r) ∧
      (ρ.next c r).started = true := by
  have hrest (hc : c.inert = true ∧ ρ.started = true) := runBooks_inert h hw hc.1 hc.2 ha
  cases c
  case updateStatus status reason =>
    have hw' := inventoried_updateStatus hw ha
    cases status
    case scaling =>
      obtain rfl : ρ = {} := hcall
      refine ⟨hw', runBooks_begins h (fun b hb => ?_) ha hC, ?_⟩
      · exact { toAdrift := by simpa using hb, chosen := nofun }
      · rcases r with e | ⟨⟩ <;> rfl
    case ready =>
      obtain ⟨hρ, rows, hrows, hall⟩ := hcall
      have hrem := h.under hρ
      have hadrift := hrem.toAdrift
      rw [hall, (hrem.chosen rows hrows).length, sub_self] at hadrift
      exact ⟨hw', runBooks_ready hadrift hρ ha, hρ.1⟩
    case failed =>
      have hrem := h.under hcall
      refine ⟨hw', runBooks_fails h hcall ?_ ha, hcall.1⟩
      exact { hrem with
        status := nofun
        chosen := fun rows hrows => { hrem.chosen rows hrows with } }
    all_goals exact absurd hcall.1 nofun
  case listServers =>
    obtain rfl := books_listServers ha
    obtain ⟨hρ, hnone, hzero⟩ := hcall
    have hrem := h.under hρ
    rcases r with e | servers
    · exact ⟨hw, h, hρ.1⟩
    · have hadrift := hrem.toAdrift
      rw [hzero] at hadrift
      obtain rfl : servers = w'.listServers := by
        obtain ⟨-, -, ⟨-, -, hr⟩ | ⟨-, -, hr⟩ | ⟨-, -, hr⟩⟩ := Cloud.answer_cases ha
        · cases hr
          rfl
        · cases hr
        · cases hr
      refine ⟨hw, .of_under hρ.1 hrem.status { hrem with chosen := ?_ }, hρ.1⟩
      rintro rows hrows
      obtain rfl := Option.some.inj hrows
      show Chosen count ρ.removed _ _
      rw [hzero]
      exact chosen_listServers hw (by simpa using hadrift)
  case softDeleteServerRow id =>
    obtain ⟨hρ, rows, hrows, hnext⟩ := hcall
    obtain ⟨hw', hbooks⟩ := scaleIn_removes (h.under hρ) hρ hw hrows hnext ha hC
    exact ⟨hw', hbooks, hρ.1⟩
  all_goals exact hrest hcall

end ScaleIn

/-! ## Every run -/

/-- A scaling run that has not ended. It is in flight from the moment its request has
written the count and goes on to start it. -/
def inFlight (t : Thread cloud ClusterJob Unit) : Bool :=
  match t.code with
  | .done _ => false
  | .call c _ =>
    match t.job, c with
    | .scaleOut .., _ | .scaleIn .., _ => true
    | _, .spawn _ => true
    | _, _ => false

/-- A request writes the count only while nothing is in flight, the cluster is ready and the
count is the one it has read; the reply is not lost. A run sets the status to scaling, and
the rows of its workers are deleted, which they are not for a role that row-level security
applies to. -/
def keepsCount (s : PoolState cloud Cloud ClusterJob Unit) : Act ClusterJob Outcome → Bool
  | .start _ => true
  | .step i x =>
    match s.nextCall i with
    | some (.updateWorkerCount _) =>
      x.reply == .failed ||
        (x.reply == .ok && s.threads.all (!inFlight ·) && s.world.cluster.status == .ready &&
          (s.slot i).any fun (_, h) => (ScaleRecord.ofTrace h).read.any fun cluster =>
            cluster.workerCount == s.world.cluster.workerCount)
    | some (.updateStatus .scaling _) => x.reply != .failed
    | some (.createServer _) => decide (x.serverId < 2 ^ 63)
    | some (.softDeleteServerRow _) => x.reply != .failed && !s.world.enforceRls
    | _ => true

/-- The runs among the jobs. -/
def ClusterJob.isRun : ClusterJob → Bool
  | .scaleOut .. | .scaleIn .. => true
  | _ => false

/-- Only requests come from outside. -/
def requests : ClusterJob → Bool
  | .scaleWorkers _ => true
  | _ => false

/-- What is owed by a request that is about to start its run, and by a run. -/
def ThreadBooks (b : Books) (j : ClusterJob) (ρ : ScaleRecord) : Prop :=
  match j with
  | .scaleWorkers delta => b.Owes delta
  | .scaleOut count .. => RunBooks count (Recording count) b ρ
  | .scaleIn _ count => RunBooks (-count) (Removing count) b ρ
  | .provision _ | .destroy => False

/-- The program in a slot is inside its specification. -/
def Scales (t : Thread cloud ClusterJob Unit) : Prop :=
  t.job.scales = true ∧
    Meets (fun h c => t.job.ScaleCalls (.ofTrace h) c) (fun _ _ _ => True)
      (fun h _ => t.job.ScaleEnds (.ofTrace h)) t.code t.trace

/-- The slot `o` is the only one in flight. -/
structure Owner (s : PoolState cloud Cloud ClusterJob Unit) (o : Option Nat) : Prop where
  valid : ∀ k, o = some k → k < s.threads.length
  only : ∀ (k : Nat) t, s.threads[k]? = some t → (inFlight t = true ↔ o = some k)
  books : ∀ k t, o = some k → s.threads[k]? = some t →
    ThreadBooks s.world.books t.job (.ofTrace t.trace)
  rest : o = none → s.world.cluster.status = .ready → s.world.books.Balanced

structure CountKept (s : PoolState cloud Cloud ClusterJob Unit) : Prop where
  rows : s.world.Inventoried
  threads : ∀ (k : Nat) t, s.threads[k]? = some t → Scales t
  owner : ∃ o, Owner s o

section Threads

variable {t : Thread cloud ClusterJob Unit} {delta : Int}

theorem inFlight_of_wrote (ht : Scales t) (hj : t.job = .scaleWorkers delta)
    (hwrote : (ScaleRecord.ofTrace t.trace).wrote = true)
    (hspawned : (ScaleRecord.ofTrace t.trace).spawned = false) : inFlight t = true := by
  obtain ⟨j, h, code⟩ := t
  obtain rfl : j = _ := hj
  obtain ⟨-, hm⟩ := ht
  cases code with
  | done a => exact absurd (hm hwrote) (by simp [hspawned])
  | call c k =>
    obtain ⟨⟨-, hc⟩, -⟩ := hm
    cases c
    case spawn job => rfl
    case get => exact absurd hwrote (by simpa [ScaleRecord.RequestCalls] using hc)
    case updateWorkerCount n => exact absurd hwrote (by simp [hc.1])
    all_goals exact absurd hwrote (by simp [hc.2])

theorem not_inFlight_of_not_wrote (ht : Scales t) (hj : t.job = .scaleWorkers delta)
    (hwrote : (ScaleRecord.ofTrace t.trace).wrote = false) : inFlight t = false := by
  obtain ⟨j, h, code⟩ := t
  obtain rfl : j = _ := hj
  obtain ⟨-, hm⟩ := ht
  cases code with
  | done a => rfl
  | call c k =>
    obtain ⟨⟨-, hc⟩, -⟩ := hm
    cases c
    case spawn job => exact absurd hc.1 (by simp [hwrote])
    all_goals rfl

theorem not_inFlight_of_spawned (ht : Scales t) (hj : t.job = .scaleWorkers delta)
    (hspawned : (ScaleRecord.ofTrace t.trace).spawned = true) : inFlight t = false := by
  obtain ⟨j, h, code⟩ := t
  obtain rfl : j = _ := hj
  obtain ⟨-, hm⟩ := ht
  cases code with
  | done a => rfl
  | call c k => exact absurd hm.1.1 (by simp [hspawned])

end Threads

section Owner

variable {s : PoolState cloud Cloud ClusterJob Unit} {w' : Cloud} {i : Nat} {o : Option Nat}
  {t t' u : Thread cloud ClusterJob Unit}

/-- A program that is started and not in flight. -/
theorem Owner.join (h : Owner s o) (hout : inFlight u = false) :
    Owner { s with threads := s.threads ++ [u] } o := by
  refine ⟨fun k ho => ?_, fun k v hv => ?_, fun k v ho hv => ?_, h.rest⟩
  · rw [List.length_append]
    exact Nat.lt_add_right _ (h.valid k ho)
  · rcases Pool.getElem?_append_singleton hv with hv | ⟨rfl, rfl⟩
    · exact h.only k v hv
    · rw [hout]
      refine iff_of_false nofun fun ho => ?_
      exact Nat.lt_irrefl _ (h.valid _ ho)
  · rcases Pool.getElem?_append_singleton hv with hv | ⟨rfl, rfl⟩
    · exact h.books k v ho hv
    · exact absurd (h.valid _ ho) (Nat.lt_irrefl _)

/-- A step of a program that is not in flight, and still is not afterwards. -/
theorem Owner.pass (h : Owner s o) (ht : s.threads[i]? = some t) (hout : inFlight t = false)
    (hout' : inFlight t' = false) (hb : w'.books = s.world.books) :
    Owner { world := w', threads := s.threads.set i t' ++ [] } o := by
  have hi := (List.getElem?_eq_some_iff.mp ht).1
  have hoi : o ≠ some i := fun ho => by simp [(h.only i t ht).mpr ho] at hout
  refine ⟨fun k ho => ?_, fun k u hu => ?_, fun k u ho hu => ?_, fun ho hready => ?_⟩
  · simpa using h.valid k ho
  · rcases Pool.getElem?_set_append hi hu with ⟨rfl, rfl⟩ | ⟨-, hu⟩ | ⟨-, hu⟩
    · simp [hout', hoi]
    · exact h.only k u hu
    · cases hu
  · rcases Pool.getElem?_set_append hi hu with ⟨rfl, rfl⟩ | ⟨-, hu⟩ | ⟨-, hu⟩
    · exact absurd ho hoi
    · exact hb ▸ h.books k u ho hu
    · cases hu
  · show w'.books.Balanced
    rw [hb]
    exact h.rest ho ((congrArg Books.status hb).symm.trans hready)

/-- A step of the program that is in flight, or of one when none is. -/
theorem Owner.replace (h : Owner s o) (ht : s.threads[i]? = some t) (ho : o = none ∨ o = some i)
    (hbooks : inFlight t' = true → ThreadBooks w'.books t'.job (.ofTrace t'.trace))
    (hrest : inFlight t' = false → w'.cluster.status = .ready → w'.books.Balanced) :
    ∃ o', Owner { world := w', threads := s.threads.set i t' ++ [] } o' := by
  have hi := (List.getElem?_eq_some_iff.mp ht).1
  have hothers : ∀ k u, k ≠ i → s.threads[k]? = some u → inFlight u = false := by
    intro k u hk hu
    rw [← Bool.not_eq_true, h.only k u hu]
    rcases ho with rfl | rfl
    · nofun
    · exact fun heq => hk (Option.some.inj heq).symm
  refine ⟨if inFlight t' then some i else none, fun k ho' => ?_, fun k u hu => ?_,
    fun k u ho' hu => ?_, ?_⟩
  · split at ho'
    · obtain rfl := Option.some.inj ho'
      simpa using hi
    · cases ho'
  · rcases Pool.getElem?_set_append hi hu with ⟨rfl, rfl⟩ | ⟨hk, hu⟩ | ⟨-, hu⟩
    · cases inFlight u <;> simp
    · rw [hothers k u hk hu]
      cases inFlight t'
      · simp
      · simpa using Ne.symm hk
    · cases hu
  · split at ho'
    · next hin =>
      obtain rfl := Option.some.inj ho'
      rcases Pool.getElem?_set_append hi hu with ⟨-, rfl⟩ | ⟨hk, -⟩ | ⟨-, hu⟩
      · exact hbooks hin
      · exact absurd rfl hk
      · cases hu
    · cases ho'
  · intro hnone
    split at hnone
    · cases hnone
    · next hout => exact hrest (by simpa using hout)

/-- The program in flight starts another one and leaves. -/
theorem Owner.handOver (h : Owner s (some i)) (ht : s.threads[i]? = some t)
    (hout : inFlight t' = false) (hin : inFlight u = true)
    (hbooks : ThreadBooks w'.books u.job (.ofTrace u.trace)) :
    Owner { world := w', threads := s.threads.set i t' ++ [u] } (some s.threads.length) := by
  have hi := (List.getElem?_eq_some_iff.mp ht).1
  refine ⟨fun k hk => ?_, fun k v hv => ?_, fun k v hk hv => ?_, nofun⟩
  · obtain rfl := Option.some.inj hk
    simp
  · rcases Pool.getElem?_set_append hi hv with ⟨rfl, rfl⟩ | ⟨hk, hv⟩ | ⟨hk, hv⟩
    · simp [hout, Nat.ne_of_gt hi]
    · have hlt := (List.getElem?_eq_some_iff.mp hv).1
      rw [h.only k v hv]
      simp [Nat.ne_of_gt hlt, Ne.symm hk]
    · obtain ⟨hzero, hv⟩ := List.getElem?_eq_some_iff.mp hv
      rw [List.length_singleton] at hzero
      have hklen : k = s.threads.length := by omega
      subst hklen
      simp only [Nat.sub_self, List.getElem_cons_zero] at hv
      simp [← hv, hin]
  · obtain rfl := Option.some.inj hk
    rcases Pool.getElem?_set_append hi hv with ⟨hki, -⟩ | ⟨-, hv⟩ | ⟨-, hv⟩
    · omega
    · exact absurd (List.getElem?_eq_some_iff.mp hv).1 (Nat.lt_irrefl _)
    · rw [Nat.sub_self] at hv
      obtain rfl := Option.some.inj hv
      exact hbooks

end Owner

section Runs

variable {D : Deployment} {s s' : PoolState cloud Cloud ClusterJob Unit} {w : Cloud} {i : Nat}
  {x : Outcome} {c : CloudCall} {r : c.Answer} {js : List ClusterJob}
  {t : Thread cloud ClusterJob Unit} {k : c.Answer → Program cloud Unit}

theorem scales_call (ht : Scales t) (hcode : t.code = .call c k) (r : c.Answer) :
    t.job.ScaleCalls (.ofTrace t.trace) c ∧ Scales ⟨t.job, t.trace ++ [⟨c, r⟩], k r⟩ := by
  obtain ⟨hj, hm⟩ := ht
  rw [hcode] at hm
  exact ⟨hm.1, hj, hm.2 r trivial⟩

theorem lands_of_keepsCount (hC : keepsCount s (.step i x) = true) (hnext : s.nextCall i = some c) :
    Lands s.world x c := by
  rw [keepsCount, hnext] at hC
  refine ⟨?_, ?_, ?_⟩
  · rintro reason rfl
    simpa using hC
  · rintro params rfl
    simpa using hC
  · rintro id rfl
    simpa using hC

/-- What a run does to the books. -/
theorem threadBooks_call {j : ClusterJob} {ρ : ScaleRecord} (hj : j.isRun = true)
    (hw : s.world.Inventoried) (hb : ThreadBooks s.world.books j ρ) (hcall : j.ScaleCalls ρ c)
    (ha : s.world.answer i c x = some (w, r, js)) (hC : Lands s.world x c) :
    w.Inventoried ∧ ThreadBooks w.books j (ρ.next c r) ∧
      (w.cluster.status = .ready → w.books.Balanced) := by
  cases j with
  | scaleOut count =>
    obtain ⟨hw', hb', hstarted⟩ := scaleOut_call hb hw hcall ha hC
    exact ⟨hw', hb', hb'.ends hstarted⟩
  | scaleIn name count =>
    obtain ⟨hw', hb', hstarted⟩ := scaleIn_call hb hw hcall ha hC
    exact ⟨hw', hb', hb'.ends hstarted⟩
  | scaleWorkers | provision | destroy => cases hj

theorem owner_run_call {o : Option Nat} (hs : CountKept s) (ho : Owner s o)
    (ht : s.threads[i]? = some t) (hcode : t.code = .call c k) (hj : t.job.isRun = true)
    (ha : s.world.answer i c x = some (w, r, js)) (hC : Lands s.world x c) :
    w.Inventoried ∧ ∃ o', Owner ⟨w, s.threads.set i ⟨t.job, t.trace ++ [⟨c, r⟩], k r⟩ ++ []⟩ o' := by
  have hin : inFlight t = true := by
    cases hjob : t.job with
    | scaleOut | scaleIn => simp [inFlight, hcode, hjob]
    | scaleWorkers | provision | destroy =>
      rw [hjob] at hj
      cases hj
  have hoi := (ho.only i t ht).mp hin
  obtain ⟨hcall, -⟩ := scales_call (hs.threads i t ht) hcode r
  obtain ⟨hw', hb', hrest⟩ := threadBooks_call hj hs.rows (ho.books i t hoi ht) hcall ha hC
  refine ⟨hw', ho.replace ht (.inr hoi) (fun _ => ?_) fun _ => hrest⟩
  rw [ScaleRecord.ofTrace_append]
  exact hb'

/-- The count a request writes is the old one with its change, when that stays in range. -/
theorem saturatingAdd_eq {a b : Int} (hmin : minWorkerCount ≤ saturatingAdd a b)
    (hmax : saturatingAdd a b ≤ maxWorkerCount) : saturatingAdd a b = a + b := by
  unfold saturatingAdd minWorkerCount maxWorkerCount at *
  omega

/-- The request writes the count. -/
theorem owner_write {o : Option Nat} {delta n : Int} (hs : CountKept s) (ho : Owner s o)
    {k : Except PlatformError Unit → Program cloud Unit} {r : Except PlatformError Unit}
    (ht : s.threads[i]? = some t) (hcode : t.code = .call (.updateWorkerCount n) k)
    (hj : t.job = .scaleWorkers delta)
    (ha : s.world.answer i (.updateWorkerCount n) x = some (w, r, js))
    (hC : keepsCount s (.step i x) = true) :
    w.Inventoried ∧ ∃ o', Owner
      ⟨w, s.threads.set i ⟨t.job, t.trace ++ [⟨.updateWorkerCount n, r⟩], k r⟩ ++ []⟩ o' := by
  have hscales := hs.threads i t ht
  obtain ⟨hcall, hscales'⟩ := scales_call hscales hcode r
  rw [hj] at hcall
  obtain ⟨hspawned, hwrote, cluster, hread, rfl, hmin, hmax⟩ := hcall
  have hout := not_inFlight_of_not_wrote hscales hj hwrote
  have hnext := PoolState.nextCall_of_getElem? ht hcode
  have hslot := PoolState.slot_of_getElem? ht
  simp only [keepsCount, hnext, hslot, Option.any_some, hread, Bool.or_eq_true, Bool.and_eq_true,
    beq_iff_eq, List.all_eq_true, Bool.not_eq_true'] at hC
  obtain ⟨-, -, ⟨hok, rfl, rfl⟩ | ⟨-, rfl, rfl⟩ | ⟨hlost, -, -⟩⟩ := Cloud.answer_cases ha
  · -- it is the only one, and what it has read still holds
    obtain ⟨⟨⟨-, hidle⟩, hready⟩, hsame⟩ := hC.resolve_left (by simp [hok])
    have hnone : o = none := by
      cases o with
      | none => rfl
      | some n =>
        have hlt := ho.valid n rfl
        have hn := (ho.only n _ (List.getElem?_eq_getElem hlt)).mpr rfl
        rw [hidle _ (List.getElem_mem hlt)] at hn
        cases hn
    have hbalanced := ho.rest hnone hready
    have hsum := saturatingAdd_eq hmin hmax
    refine ⟨hs.rows.of_eq (fun _ h => h) rfl, ho.replace ht (.inl hnone) (fun _ => ?_) fun hn => ?_⟩
    · show ThreadBooks _ t.job _
      rw [hj]
      refine ⟨hready, ?_, hmin, hmax⟩
      show saturatingAdd cluster.workerCount delta = _
      rw [hsum, hsame, show s.world.cluster.workerCount = _ from hbalanced.1]
      rfl
    · -- it goes on to start the run
      rw [inFlight_of_wrote hscales' hj (by rw [ScaleRecord.ofTrace_append]; rfl)
        (by rw [ScaleRecord.ofTrace_append]; exact hspawned)] at hn
      cases hn
  · refine ⟨hs.rows, o, ho.pass ht hout ?_ rfl⟩
    refine not_inFlight_of_not_wrote hscales' hj ?_
    rw [ScaleRecord.ofTrace_append]
    exact hwrote
  · rcases hC with hfailed | hok
    · simp [hlost] at hfailed
    · simp [hlost] at hok

theorem ClusterJob.isRun_or_of_scales {j : ClusterJob} (h : j.scales = true) :
    j.isRun = true ∨ ∃ delta, j = .scaleWorkers delta := by
  cases j with
  | scaleOut | scaleIn => exact .inl rfl
  | scaleWorkers delta => exact .inr ⟨delta, rfl⟩
  | provision | destroy => cases h

/-- Runs start nothing. -/
theorem spawned_of_isRun {j : ClusterJob} {ρ : ScaleRecord} (hj : j.isRun = true)
    (hcall : j.ScaleCalls ρ c) : Cloud.spawned c = [] := by
  cases c
  case spawn job =>
    cases j with
    | scaleOut | scaleIn => exact absurd hcall.1 nofun
    | scaleWorkers | provision | destroy => cases hj
  all_goals rfl

/-- The calls of a request before it writes. -/
theorem owner_read {o : Option Nat} {delta : Int} (hs : CountKept s) (ho : Owner s o)
    (ht : s.threads[i]? = some t) (hcode : t.code = .call c k) (hj : t.job = .scaleWorkers delta)
    (hc : c.inert = true ∨ c = .get) (hwrote : (ScaleRecord.ofTrace t.trace).wrote = false)
    (ha : s.world.answer i c x = some (w, r, js)) :
    w.Inventoried ∧ Owner ⟨w, s.threads.set i ⟨t.job, t.trace ++ [⟨c, r⟩], k r⟩ ++ []⟩ o := by
  have hscales := hs.threads i t ht
  have hb : w.books = s.world.books := by
    rcases hc with hc | rfl
    · exact books_inert hc ha
    · obtain ⟨-, -, ⟨-, rfl, -⟩ | ⟨-, rfl, -⟩ | ⟨-, rfl, -⟩⟩ := Cloud.answer_cases ha <;> rfl
  have hwrote' : ((ScaleRecord.ofTrace t.trace).next c r).wrote = false := by
    rcases hc with hc | rfl
    · rw [ScaleRecord.next_inert hc, hwrote]
    · rcases r with e | cluster <;> exact hwrote
  refine ⟨hs.rows.of_books hb, ho.pass ht (not_inFlight_of_not_wrote hscales hj hwrote) ?_ hb⟩
  refine not_inFlight_of_not_wrote (scales_call hscales hcode r).2 hj ?_
  rw [ScaleRecord.ofTrace_append]
  exact hwrote'

/-- The request starts its run. -/
theorem owner_spawn {o : Option Nat} {delta : Int} {job : ClusterJob} (hs : CountKept s)
    (ho : Owner s o) {k : Unit → Program cloud Unit} {r : Unit} (ht : s.threads[i]? = some t)
    (hcode : t.code = .call (.spawn job) k) (hj : t.job = .scaleWorkers delta)
    (ha : s.world.answer i (.spawn job) x = some (w, r, js)) :
    w.Inventoried ∧ job.scales = true ∧ js = [job] ∧
      Owner ⟨w, s.threads.set i ⟨t.job, t.trace ++ [⟨.spawn job, r⟩], k r⟩ ++
        [(runnerPool D requests).launch job]⟩ (some s.threads.length) := by
  have hscales := hs.threads i t ht
  obtain ⟨hcall, hscales'⟩ := scales_call hscales hcode r
  have hin : inFlight t = true := by simp [inFlight, hcode, hj]
  have hoi := (ho.only i t ht).mp hin
  have howes : s.world.books.Owes delta := by
    have hbooks := ho.books i t hoi ht
    rw [hj] at hbooks
    exact hbooks
  obtain ⟨-, hjs, hw⟩ := Cloud.answer_cases ha
  obtain rfl : w = s.world := by
    rcases hw with ⟨-, rfl, -⟩ | ⟨-, rfl, -⟩ | ⟨-, rfl, -⟩ <;> rfl
  have hout : inFlight ⟨t.job, t.trace ++ [⟨.spawn job, r⟩], k r⟩ = false := by
    refine not_inFlight_of_spawned hscales' hj ?_
    rw [ScaleRecord.ofTrace_append]
    rfl
  rw [hj] at hcall
  obtain ⟨-, -, ⟨hpos, name, location, serverType, sshKey, userData, k3sVersion, rfl⟩ |
    ⟨hneg, name, rfl⟩⟩ := hcall
  · refine ⟨hs.rows, rfl, hjs, (hoi ▸ ho).handOver ht hout rfl ?_⟩
    refine ⟨fun _ => ?_, nofun, fun hu => absurd hu.1 nofun⟩
    rwa [Int.toNat_of_nonneg (by omega)]
  · refine ⟨hs.rows, rfl, hjs, (hoi ▸ ho).handOver ht hout rfl ?_⟩
    refine ⟨fun _ => ?_, nofun, fun hu => absurd hu.1 nofun⟩
    rwa [Int.toNat_of_nonneg (by omega), neg_neg]

/-- One call. -/
theorem countKept_call (hs : CountKept s) (ht : s.threads[i]? = some t)
    (hcode : t.code = .call c k) (ha : s.world.answer i c x = some (w, r, js))
    (hC : keepsCount s (.step i x) = true) :
    CountKept ⟨w, s.threads.set i ⟨t.job, t.trace ++ [⟨c, r⟩], k r⟩ ++
      js.map (runnerPool D requests).launch⟩ := by
  have hi := (List.getElem?_eq_some_iff.mp ht).1
  have hscales := hs.threads i t ht
  obtain ⟨hcall, hscales'⟩ := scales_call hscales hcode r
  obtain ⟨o, ho⟩ := hs.owner
  -- it is enough to look at the books and at the jobs that are started
  suffices h : w.Inventoried ∧ (∀ job ∈ js, job.scales = true) ∧
      ∃ o', Owner ⟨w, s.threads.set i ⟨t.job, t.trace ++ [⟨c, r⟩], k r⟩ ++
        js.map (runnerPool D requests).launch⟩ o' by
    refine ⟨h.1, fun n u hu => ?_, h.2.2⟩
    rcases Pool.getElem?_set_append hi hu with ⟨-, rfl⟩ | ⟨-, hu⟩ | ⟨-, hu⟩
    · exact hscales'
    · exact hs.threads n u hu
    · obtain ⟨job, hjob, rfl⟩ := List.mem_map.mp (List.mem_of_getElem? hu)
      exact ⟨h.2.1 job hjob, scalingJob_meets D (h.2.1 job hjob)⟩
  obtain ⟨-, hjs, -⟩ := Cloud.answer_cases ha
  have hnone (hc : Cloud.spawned c = [])
      (h : w.Inventoried ∧
        ∃ o', Owner ⟨w, s.threads.set i ⟨t.job, t.trace ++ [⟨c, r⟩], k r⟩ ++ []⟩ o') :
      w.Inventoried ∧ (∀ job ∈ js, job.scales = true) ∧
        ∃ o', Owner ⟨w, s.threads.set i ⟨t.job, t.trace ++ [⟨c, r⟩], k r⟩ ++
          js.map (runnerPool D requests).launch⟩ o' := by
    rw [hjs, hc]
    exact ⟨h.1, nofun, h.2⟩
  rcases ClusterJob.isRun_or_of_scales hscales.1 with hrun | ⟨delta, hj⟩
  · refine hnone ?_ (owner_run_call hs ho ht hcode hrun ha (lands_of_keepsCount hC ?_))
    · exact spawned_of_isRun hrun hcall
    · exact PoolState.nextCall_of_getElem? ht hcode
  · rw [hj] at hcall
    obtain ⟨-, hcall⟩ := hcall
    have hread (hc : c.inert = true ∨ c = .get) (hspawned : Cloud.spawned c = [])
        (hwrote : (ScaleRecord.ofTrace t.trace).wrote = false) :=
      have h := owner_read hs ho ht hcode hj hc hwrote ha
      hnone hspawned ⟨h.1, o, h.2⟩
    cases c
    case get => exact hread (.inr rfl) rfl hcall
    case updateWorkerCount n => exact hnone rfl (owner_write hs ho ht hcode hj ha hC)
    case spawn job =>
      obtain ⟨hw, hjob, hjs, howner⟩ := owner_spawn (D := D) hs ho ht hcode hj ha
      rw [hjs]
      exact ⟨hw, fun j hj => List.mem_singleton.mp hj ▸ hjob, _, howner⟩
    all_goals exact hread (.inl hcall.1) rfl hcall.2

theorem countKept_step {a : Act ClusterJob Outcome} (hs : CountKept s)
    (hC : keepsCount s a = true) (hstep : (runnerPool D requests).step s a = some s') :
    CountKept s' := by
  cases a with
  | start j =>
    obtain ⟨hj, rfl⟩ := Pool.step_start.mp hstep
    obtain ⟨delta, rfl⟩ : ∃ delta, j = .scaleWorkers delta := by
      cases j with
      | scaleWorkers delta => exact ⟨delta, rfl⟩
      | _ => cases hj
    obtain ⟨o, ho⟩ := hs.owner
    refine ⟨hs.rows, fun k t ht => ?_, o, ho.join rfl⟩
    rcases Pool.getElem?_append_singleton ht with ht | ⟨-, rfl⟩
    · exact hs.threads k t ht
    · exact ⟨rfl, scalingJob_meets D rfl⟩
  | step i x =>
    obtain ⟨t, c, k, w, r, js, ht, hcode, ha, rfl⟩ := Pool.step_step.mp hstep
    exact countKept_call hs ht hcode ha hC

/-- In every run inside the condition, at most one scaling run is in flight, and when none
is, the count of a ready cluster is the number of its live workers and inside the bounds. -/
theorem balanced_of_keepsCount {as : List (Act ClusterJob Outcome)} (hw : w.Inventoried)
    (h0 : w.CountRight)
    (hC : (runnerPool D requests).allSteps keepsCount (Pool.init w) as = true)
    (h : (runnerPool D requests).exec (Pool.init w) as = some s) :
    (∀ (i k : Nat) t t', s.threads[i]? = some t → s.threads[k]? = some t' → inFlight t = true →
      inFlight t' = true → i = k) ∧
    ((∀ t ∈ s.threads, inFlight t = false) → s.world.CountRight) := by
  have hinit : CountKept (Pool.init w : PoolState cloud Cloud ClusterJob Unit) :=
    ⟨hw, nofun, none, nofun, nofun, nofun, fun _ => h0⟩
  obtain ⟨-, -, o, ho⟩ := Pool.exec_invariant (fun _ _ _ hs hCs => countKept_step hs hCs) hinit hC h
  refine ⟨fun i k t t' ht ht' hin hin' => ?_, fun hidle => ho.rest ?_⟩
  · have hi := (ho.only i t ht).mp hin
    rw [(ho.only k t' ht').mp hin'] at hi
    exact (Option.some.inj hi).symm
  · cases o with
    | none => rfl
    | some n =>
      have hlt := ho.valid n rfl
      have hn := (ho.only n _ (List.getElem?_eq_getElem hlt)).mpr rfl
      rw [hidle _ (List.getElem_mem hlt)] at hn
      cases hn

end Runs

/-- A ready cluster with one worker, reached by a connection that bypasses row-level
security. -/
def readyCloud : Cloud where
  cluster := ⟨9, "demo", "fsn1", "cx22", 1, .ready, none, some 50, none⟩
  servers := [⟨1, 1, .controlPlane, some "10.0.0.1", none, 0, none⟩,
    ⟨2, 2, .worker, some "10.0.0.2", none, 0, none⟩]
  workflows := []
  secrets := [(50, "kubeconfig")]
  alive := [⟨1, 0⟩, ⟨2, 0⟩]
  created := [2, 1]
  published := []
  enforceRls := false

def demoSettings : Deployment := ⟨fun _ => 0, 9, ⟨"key", "", "v1.30"⟩⟩

/-- The next `n` calls of the program in slot `i`, all of them successful. -/
def goOn (i n : Nat) : List (Act ClusterJob Outcome) :=
  (List.range n).map fun k =>
    let id := 100 * (i + 1) + k
    .step i { id := id, serverId := id, serverState := ⟨.ready, some "10.0.0.3", none⟩ }

/-- One worker more, and when that is done one less. -/
def outAndIn : List (Act ClusterJob Outcome) :=
  .start (.scaleWorkers 1) :: goOn 0 4 ++ goOn 1 13 ++
    .start (.scaleWorkers (-1)) :: goOn 2 4 ++ goOn 3 17

theorem balanced_of_keepsCount_in_turn :
    ∃ s, (runnerPool demoSettings requests).exec (Pool.init readyCloud) outAndIn = some s ∧
      s.quiet = true ∧ s.world.cluster.status = .ready ∧ s.world.CountRight := by
  have hrun : ((runnerPool demoSettings requests).exec (Pool.init readyCloud) outAndIn).any
      (fun s => s.quiet && s.world.cluster.status == .ready && s.threads.all (!inFlight ·)) =
        true := by decide +kernel
  obtain ⟨s, hs, hend⟩ := (Option.any_eq_true _ _).mp hrun
  simp only [Bool.and_eq_true, beq_iff_eq, List.all_eq_true, Bool.not_eq_true'] at hend
  have hkeeps : (runnerPool demoSettings requests).allSteps keepsCount (Pool.init readyCloud)
      outAndIn = true := by decide +kernel
  refine ⟨s, hs, hend.1.1, hend.1.2, (balanced_of_keepsCount ?_ ?_ hkeeps hs).2 hend.2⟩
  · exact ⟨by decide, by decide⟩
  · exact fun _ => by decide

/-- Two requests for one worker more read the cluster before either of them writes. -/
def twoRequests : List (Act ClusterJob Outcome) :=
  .start (.scaleWorkers 1) :: .start (.scaleWorkers 1) :: goOn 0 1 ++ goOn 1 1 ++ goOn 0 3 ++
    goOn 1 3 ++ goOn 2 13 ++ goOn 3 13

/-- Without that condition two runs can be in flight at once, and leave three workers in the
rows of a cluster that counts two. -/
theorem not_atMostOne_and_balanced :
    ¬ ∀ (D : Deployment) (w : Cloud) (as : List (Act ClusterJob Outcome))
      (s : PoolState cloud Cloud ClusterJob Unit), w.Inventoried → w.CountRight →
      (runnerPool D requests).exec (Pool.init w) as = some s →
      (∀ (i k : Nat) t t', s.threads[i]? = some t → s.threads[k]? = some t' → inFlight t = true →
        inFlight t' = true → i = k) ∧
      ((∀ t ∈ s.threads, inFlight t = false) → s.world.CountRight) := by
  intro h
  have hrun : ((runnerPool demoSettings requests).exec (Pool.init readyCloud) twoRequests).any
      (fun s => s.world.cluster.status == .ready && s.threads.all (!inFlight ·) &&
        s.world.cluster.workerCount == 2 && s.world.liveWorkers == 3) = true := by decide +kernel
  obtain ⟨s, hs, hend⟩ := (Option.any_eq_true _ _).mp hrun
  simp only [Bool.and_eq_true, beq_iff_eq, List.all_eq_true, Bool.not_eq_true'] at hend
  have hcount := (h _ _ _ s ⟨by decide, by decide⟩ (fun _ => by decide) hs).2 hend.1.1.2
    hend.1.1.1
  rw [hend.1.2, hend.2] at hcount
  exact absurd hcount.1 (by decide)

end Kubinate.Clusters
