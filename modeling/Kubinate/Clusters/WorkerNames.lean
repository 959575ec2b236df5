import Kubinate.Clusters.Chronicle
import Kubinate.Clusters.Orphans
import Kubinate.Clusters.Tenancy

/-!
# The names of the workers

No row says under which name a server was created. A scale-out counts the live workers to find
the next number, and a scale-in takes the place of a worker in the order of the server ids for
its number.

* `Numbered`: the live workers, in the order of their ids, have the numbers from zero on. Growing
  at the end and shrinking at the end keep that.
* `Sequence`: a provisioning that succeeds, and then any scale-outs and scale-ins that do.
* `workers_keep_their_names`: after every such run the names of the live workers are different, and
  a scale-in drains and deletes the nodes of the servers that it deletes.
-/

namespace Kubinate.Clusters

open Platform Library

/-! ## Numbers in names -/

theorem value_twoDigits (n : Nat) : Nat.ofDigitChars 10 (twoDigits n).toList 0 = n := by
  have hvalue : Nat.ofDigitChars 10 (toString n).toList 0 = n := by
    rw [Nat.toString_eq_repr, Nat.toList_repr, Nat.ofDigitChars_ten_toDigits]
  unfold twoDigits
  split
  · rw [String.toList_append]
    exact hvalue
  · exact hvalue

/-- The name of the server of a row: the one created last whose id is stored as this number. -/
def nameOf (C : List (Nat × String)) (hetznerServerId : Nat) : Option String :=
  (C.reverse.find? fun p => toI64 p.1 == hetznerServerId).map (·.2)

section Names

variable {C new : List (Nat × String)} {hid : Nat}

theorem exists_of_nameOf {name : String} (h : nameOf C hid = some name) :
    ∃ p ∈ C, toI64 p.1 = hid ∧ p.2 = name := by
  obtain ⟨p, hp, rfl⟩ := Option.map_eq_some_iff.mp h
  have hsame := List.find?_some hp
  exact ⟨p, List.mem_reverse.mp (List.mem_of_find?_eq_some hp), beq_iff_eq.mp hsame, rfl⟩

theorem nameOf_append_of_notMem (h : hid ∉ new.map fun p => toI64 p.1) :
    nameOf (C ++ new) hid = nameOf C hid := by
  have hnone : new.reverse.find? (fun p => toI64 p.1 == hid) = none := by
    rw [List.find?_eq_none]
    intro p hp hsame
    exact h (List.mem_map.mpr ⟨p, List.mem_reverse.mp hp, beq_iff_eq.mp hsame⟩)
  rw [nameOf, List.reverse_append, List.find?_append, hnone, Option.none_or]
  rfl

theorem nameOf_append_of_mem (hnodup : (new.map fun p => toI64 p.1).Nodup) {p : Nat × String}
    (hp : p ∈ new) : nameOf (C ++ new) (toI64 p.1) = some p.2 := by
  have hsome : (new.reverse.find? fun q => toI64 q.1 == toI64 p.1).isSome = true := by
    rw [List.find?_isSome]
    exact ⟨p, List.mem_reverse.mpr hp, beq_self_eq_true _⟩
  obtain ⟨q, hq⟩ := Option.isSome_iff_exists.mp hsome
  have hnumber := List.find?_some hq
  have hsame : q = p := List.inj_on_of_nodup_map hnodup
    (List.mem_reverse.mp (List.mem_of_find?_eq_some hq)) hp (beq_iff_eq.mp hnumber)
  rw [nameOf, List.reverse_append, List.find?_append, hq, Option.some_or, hsame]
  rfl

end Names

theorem toI64_mono {a b : Nat} (h : a ≤ b) : toI64 a ≤ toI64 b := by
  unfold toI64
  split <;> split <;> omega

/-- The workers with these stored ids have the numbers from zero on, in the order of the ids. -/
structure Numbered (clusterName : String) (C : List (Nat × String)) (hids : List Nat) :
    Prop where
  order : hids.Pairwise (· < ·)
  names : hids.map (nameOf C) =
    (List.range hids.length).map fun k => some (workerName clusterName k)

namespace Numbered

variable {clusterName : String} {C : List (Nat × String)} {hids : List Nat}

theorem nil : Numbered clusterName C [] := ⟨List.Pairwise.nil, rfl⟩

/-- Servers that are added at the end. -/
theorem grow (h : Numbered clusterName C hids) {ids : List Nat}
    (hincreasing : (C ++ (ids.zipIdx hids.length).map fun p =>
      (p.1, workerName clusterName p.2)).Pairwise fun p q => p.1 < q.1)
    (hnodup : (hids ++ ids.map toI64).Nodup) :
    Numbered clusterName (C ++ (ids.zipIdx hids.length).map fun p =>
      (p.1, workerName clusterName p.2)) (hids ++ ids.map toI64) := by
  let new := (ids.zipIdx hids.length).map fun p => (p.1, workerName clusterName p.2)
  have hfirst : new.map (·.1) = ids := by
    rw [List.map_map]
    exact List.zipIdx_map_fst _ ids
  have hstored : (new.map fun p => toI64 p.1) = ids.map toI64 := by
    conv_rhs => rw [← hfirst]
    exact (List.map_map (f := Prod.fst) (g := toI64) (l := new)).symm
  obtain ⟨-, hnewOrder, hacross⟩ := List.pairwise_append.mp hincreasing
  obtain ⟨-, hnodupNew, hdisjoint⟩ := List.nodup_append.mp hnodup
  constructor
  · refine List.pairwise_append.mpr ⟨h.order, ?_, ?_⟩
    · -- ids that increase are stored as numbers that do not decrease
      have hle : (ids.map toI64).Pairwise (· ≤ ·) := by
        rw [← hstored, List.pairwise_map]
        exact hnewOrder.imp fun hlt => toI64_mono hlt.le
      exact (hle.and hnodupNew).imp fun hboth => lt_of_le_of_ne hboth.1 hboth.2
    · intro a ha b hb
      have hname : nameOf C a ∈ hids.map (nameOf C) := List.mem_map_of_mem ha
      rw [h.names] at hname
      obtain ⟨k, -, hk⟩ := List.mem_map.mp hname
      obtain ⟨p, hp, rfl, -⟩ := exists_of_nameOf hk.symm
      have hb' := hb
      rw [← hstored] at hb'
      obtain ⟨q, hq, rfl⟩ := List.mem_map.mp hb'
      exact lt_of_le_of_ne (toI64_mono (hacross p hp q hq).le) (hdisjoint _ ha _ hb)
  · have hold : hids.map (nameOf (C ++ new)) = hids.map (nameOf C) := by
      refine List.map_congr_left fun a ha => nameOf_append_of_notMem fun hmem => ?_
      rw [hstored] at hmem
      exact hdisjoint a ha a hmem rfl
    have hnew : (ids.map toI64).map (nameOf (C ++ new)) = new.map fun p => some p.2 := by
      rw [← hstored, List.map_map]
      exact List.map_congr_left fun p hp => nameOf_append_of_mem (hstored ▸ hnodupNew) hp
    have hnumbers : (new.map fun p => some p.2) =
        (List.range ids.length).map fun k => some (workerName clusterName (hids.length + k)) := by
      have hindices : (ids.zipIdx hids.length).map (·.2) =
          (List.range ids.length).map (hids.length + ·) := by
        rw [List.zipIdx_map_snd, List.range'_eq_map_range]
      have hcongr := congrArg (List.map fun k => some (workerName clusterName k)) hindices
      rw [List.map_map, List.map_map] at hcongr
      rw [List.map_map]
      exact hcongr
    rw [List.map_append, hold, h.names, hnew, hnumbers, List.length_append, List.length_map,
      List.range_add, List.map_append, List.map_map]
    rfl

/-- Servers that are taken away at the end. -/
theorem take (h : Numbered clusterName C hids) (n : Nat) :
    Numbered clusterName C (hids.take n) where
  order := h.order.sublist (List.take_sublist n hids)
  names := by
    rw [List.map_take, h.names, ← List.map_take, List.take_range, List.length_take]

theorem name_at (h : Numbered clusterName C hids) {k : Nat} (hk : k < hids.length) :
    nameOf C hids[k] = some (workerName clusterName k) := by
  have hat := congrArg (·[k]?) h.names
  simpa [hk] using hat

end Numbered

/-! ## Which workers are removed -/

/-- A list that is in order already is what sorting another arrangement of it gives. -/
theorem insertionSort_eq_of_perm {α : Type} {r : α → α → Prop} [DecidableRel r] [Std.Total r]
    [IsTrans α r] {l m : List α} (hperm : l.Perm m) (hm : m.Pairwise r)
    (hanti : ∀ a ∈ m, ∀ b ∈ m, r a b → r b a → a = b) : l.insertionSort r = m := by
  have hsorted := (List.perm_insertionSort r l).trans hperm
  refine List.Perm.eq_of_pairwise (fun a b ha hb => ?_) (List.pairwise_insertionSort r l) hm hsorted
  exact hanti a (hsorted.mem_iff.mp ha) b hb

section Choice

variable {L R : List ClusterServer} (hperm : (L.filter (·.role = .worker)).Perm R)
  (hR : (R.map (·.hetznerServerId)).Pairwise (· < ·))

include hperm hR

theorem sort_workers : ((L.filter (·.role = .worker)).insertionSort
    fun a b => a.hetznerServerId ≤ b.hetznerServerId) = R := by
  have htotal : Std.Total fun a b : ClusterServer => a.hetznerServerId ≤ b.hetznerServerId :=
    ⟨fun a b => Nat.le_total _ _⟩
  have htrans : IsTrans ClusterServer fun a b => a.hetznerServerId ≤ b.hetznerServerId :=
    ⟨fun a b c => Nat.le_trans⟩
  refine insertionSort_eq_of_perm hperm ((List.pairwise_map.mp hR).imp fun h => h.le) ?_
  intro a ha b hb hab hba
  exact List.inj_on_of_nodup_map (hR.imp fun h => h.ne) ha hb (Nat.le_antisymm hab hba)

theorem sort_workers_down : ((L.filter (·.role = .worker)).insertionSort
    fun a b => b.hetznerServerId ≤ a.hetznerServerId) = R.reverse := by
  have htotal : Std.Total fun a b : ClusterServer => b.hetznerServerId ≤ a.hetznerServerId :=
    ⟨fun a b => Nat.le_total _ _⟩
  have htrans : IsTrans ClusterServer fun a b => b.hetznerServerId ≤ a.hetznerServerId :=
    ⟨fun a b c hab hbc => Nat.le_trans hbc hab⟩
  refine insertionSort_eq_of_perm (hperm.trans R.reverse_perm.symm) ?_ ?_
  · rw [List.pairwise_reverse]
    exact (List.pairwise_map.mp hR).imp fun h => h.le
  · intro a ha b hb hab hba
    exact List.inj_on_of_nodup_map (hR.imp fun h => h.ne) (List.mem_reverse.mp ha)
      (List.mem_reverse.mp hb) (Nat.le_antisymm hba hab)

theorem workersToRemove_eq (count : Nat) :
    workersToRemove L count = R.reverse.take count := by
  rw [workersToRemove, sort_workers_down hperm hR]

theorem workerIndex_eq {k : Nat} (hk : k < R.length) :
    workerIndex L R[k].hetznerServerId = k := by
  have hmem : (R[k], k) ∈ R.zipIdx := List.mem_zipIdx_iff_getElem?.mpr (List.getElem?_eq_getElem hk)
  have hsome : (R.zipIdx.reverse.find? fun p =>
      p.1.hetznerServerId == R[k].hetznerServerId).isSome = true := by
    rw [List.find?_isSome]
    exact ⟨_, List.mem_reverse.mpr hmem, beq_self_eq_true _⟩
  obtain ⟨⟨r, i⟩, hfound⟩ := Option.isSome_iff_exists.mp hsome
  have hi := List.mem_zipIdx_iff_getElem?.mp
    (List.mem_reverse.mp (List.mem_of_find?_eq_some hfound))
  obtain ⟨hlt, hr⟩ := List.getElem?_eq_some_iff.mp hi
  dsimp only at hlt hr
  have hsame : r.hetznerServerId = R[k].hetznerServerId := by
    simpa using List.find?_some hfound
  -- there is only one worker with this number
  have horder := List.pairwise_iff_getElem.mp (List.pairwise_map.mp hR)
  have hindex : i = k := by
    rcases Nat.lt_trichotomy i k with hik | hik | hik
    · have hless := horder i k hlt hk hik
      rw [hr] at hless
      omega
    · exact hik
    · have hless := horder k i hk hlt hik
      rw [hr] at hless
      omega
  unfold workerIndex
  rw [sort_workers hperm hR]
  dsimp only
  rw [hfound]
  exact hindex

/-- The node that is taken away with a server has the name that the server was given. -/
theorem removalTarget_name {clusterName : String} {C : List (Nat × String)}
    (hnumbered : Numbered clusterName C (R.map (·.hetznerServerId))) {count : Nat}
    {r : ClusterServer} (hr : r ∈ workersToRemove L count) :
    nameOf C r.hetznerServerId = some (removalTarget clusterName L r).nodeName := by
  rw [workersToRemove_eq hperm hR] at hr
  obtain ⟨k, hk, rfl⟩ := List.getElem_of_mem (List.mem_reverse.mp (List.mem_of_mem_take hr))
  rw [removalTarget, workerIndex_eq hperm hR hk]
  have hname := hnumbered.name_at (k := k) (by simpa using hk)
  rw [List.getElem_map] at hname
  exact hname

end Choice

/-! ## What the calls do -/

/-- A call whose write to the inventory takes effect, at a provider whose server ids grow. -/
structure Effective (s : Chronicle) (c : cloud.Call) (r : cloud.Answer c) (s' : Chronicle) :
    Prop where
  answered : Answered s c r s'
  increasing : ∀ params id, (⟨c, r⟩ : Σ c : cloud.Call, cloud.Answer c) =
    ⟨.createServer params, .ok id⟩ → ∀ p ∈ createdAs s.2, p.1 < id
  recorded : ∀ hid role publicIpv4 privateIpv4, (⟨c, r⟩ : Σ c : cloud.Call, cloud.Answer c) =
    ⟨.recordServer hid role publicIpv4 privateIpv4, .ok ()⟩ → s.1.hasLiveRow hid = false
  deleted : ∀ id, c = .softDeleteServerRow id → ∀ row ∈ s'.1.servers, row.id = id →
    row.isLive = false

def Cloud.workerRows (w : Cloud) : List ClusterServer :=
  w.liveServers.filter (·.role = .worker)

/-- The server ids of the live workers, in the order in which they were recorded. -/
def Cloud.workerIds (w : Cloud) : List Nat := w.workerRows.map (·.hetznerServerId)

theorem Cloud.length_workerIds {w w' : Cloud} (h : w'.workerRows = w.workerRows) :
    w'.workerIds.length = w.workerIds.length := by
  rw [Cloud.workerIds, Cloud.workerIds, h]

/-- What is known at any moment. -/
structure Sound (s : Chronicle) : Prop where
  keyed : s.1.Keyed
  increasing : (createdAs s.2).Pairwise fun p q => p.1 < q.1

theorem Sound.nodup {s : Chronicle} (h : Sound s) : s.1.workerIds.Nodup :=
  h.keyed.serverIds.sublist (List.filter_sublist.map _)

theorem Sound.step {s s' : Chronicle} {c : cloud.Call} {r : cloud.Answer c} (h : Sound s)
    (hstep : Effective s c r s') : Sound s' := by
  obtain ⟨⟨i, x, js, hanswer⟩, htrace⟩ := hstep.answered
  refine ⟨h.keyed.answer hanswer, ?_⟩
  by_cases hc : c.isCreation = false
  · rw [htrace, createdAs_concat_of_not hc]
    exact h.increasing
  cases c with
  | createServer params =>
    rcases r with e | id
    · rw [htrace, createdAs_append]
      exact (List.append_nil (createdAs s.2)).symm ▸ h.increasing
    · have heq : createdAs s'.2 = createdAs s.2 ++ [(id, params.name)] := by
        rw [htrace, createdAs_append]
        rfl
      rw [heq, List.pairwise_append]
      refine ⟨h.increasing, List.pairwise_singleton _ _, fun p hp q hq => ?_⟩
      rw [List.mem_singleton.mp hq]
      exact hstep.increasing params id rfl p hp
  | _ => exact absurd rfl hc

/-- Neither rows nor servers were added or taken away. -/
structure Unmoved (s s' : Chronicle) : Prop where
  servers : s'.1.servers = s.1.servers
  created : createdAs s'.2 = createdAs s.2

theorem Unmoved.refl (s : Chronicle) : Unmoved s s := ⟨rfl, rfl⟩

theorem Unmoved.trans {s s' s'' : Chronicle} (h : Unmoved s s') (h' : Unmoved s' s'') :
    Unmoved s s'' :=
  ⟨h'.servers.trans h.servers, h'.created.trans h.created⟩

theorem Unmoved.workerRows {s s' : Chronicle} (h : Unmoved s s') :
    s'.1.workerRows = s.1.workerRows := by
  rw [Cloud.workerRows, Cloud.liveServers, h.servers]
  rfl

/-- Calls that add nothing and take nothing away. -/
def Still (c : CloudCall) : Prop := c.isRows = false ∧ c.isCreation = false

section Calls

variable {s : Chronicle} {ε α : Type}

theorem Effective.unmoved {s' : Chronicle} {c : cloud.Call} {r : cloud.Answer c} (hc : Still c)
    (h : Effective s c r s') : Unmoved s s' := by
  obtain ⟨⟨i, x, js, hanswer⟩, htrace⟩ := h.answered
  exact ⟨Cloud.answer_servers hc.1 hanswer, htrace ▸ createdAs_concat_of_not hc.2⟩

theorem achieves_still {p : ExceptT ε (Program cloud) α} (hp : Makes (I := cloud) Still p.run) :
    Achieves Effective s p fun s' _ => Unmoved s s' := by
  have hkept : Always Effective (fun s' _ => Unmoved s s') p.run s :=
    always_of_makes hp (fun _ _ _ _ hc h hstep => h.trans (hstep.unmoved hc)) (Unmoved.refl s)
  refine hkept.mono ?_
  rintro s' (e | a) hend
  · trivial
  · exact hend

theorem achieves_listServers :
    Achieves Effective s (repository (call .listServers))
      fun s' L => L = s.1.listServers ∧ deeds s'.2 = deeds s.2 ∧ Unmoved s s' := by
  intro r s' hstep
  have hunmoved := hstep.unmoved ⟨rfl, rfl⟩
  obtain ⟨⟨i, x, js, hanswer⟩, htrace⟩ := hstep.answered
  have hdeeds : deeds s'.2 = deeds s.2 := htrace ▸ deeds_concat_of_not rfl
  obtain ⟨-, -, ⟨-, -, rfl⟩ | ⟨-, -, rfl⟩ | ⟨-, -, rfl⟩⟩ := Cloud.answer_cases hanswer
  · exact ⟨rfl, hdeeds, hunmoved⟩
  · trivial
  · trivial

theorem achieves_createServer (params : CreateServerParams) :
    Achieves Effective s (hetznerCreateServer params) fun s' id =>
      s'.1.servers = s.1.servers ∧ createdAs s'.2 = createdAs s.2 ++ [(id, params.name)] := by
  intro r s' hstep
  obtain ⟨⟨i, x, js, hanswer⟩, htrace⟩ := hstep.answered
  have hservers := Cloud.answer_servers rfl hanswer
  rcases r with e | id
  · trivial
  · refine ⟨hservers, ?_⟩
    rw [htrace, createdAs_append]
    rfl

/-- The workers are created one after the other, with the numbers from `start` on. -/
theorem achieves_createWorkers (clusterName : String) {params : Nat → CreateServerParams}
    (start count : Nat) (hname : ∀ k, (params k).name = workerName clusterName (start + k)) :
    Achieves Effective s ((List.range count).mapM fun k => hetznerCreateServer (params k))
      fun s' ids => s'.1.servers = s.1.servers ∧ createdAs s'.2 = createdAs s.2 ++
        (ids.zipIdx start).map fun p => (p.1, workerName clusterName p.2) := by
  refine Achieves.mono (always_mapM (K := fun l ids s' => l = List.range' ids.length l.length ∧
    s'.1.servers = s.1.servers ∧ createdAs s'.2 = createdAs s.2 ++
      (ids.zipIdx start).map fun p => (p.1, workerName clusterName p.2)) ?_ (List.range count) [] ?_)
    fun s' ids h => h.2
  · rintro k l ids s' ⟨hrange, hservers, hcreated⟩
    rw [List.length_cons, List.range'_succ, List.cons.injEq] at hrange
    obtain ⟨rfl, hl⟩ := hrange
    refine (achieves_createServer (params ids.length)).mono fun s'' id ⟨hservers', hcreated'⟩ => ?_
    refine ⟨?_, hservers'.trans hservers, ?_⟩
    · rw [List.length_append, List.length_singleton]
      exact hl
    · rw [hcreated', hcreated, hname, List.zipIdx_append, List.map_append, List.append_assoc]
      rfl
  · refine ⟨?_, rfl, (List.append_nil _).symm⟩
    rw [List.length_range, List.range_eq_range']
    rfl

theorem achieves_pollCloudInit (id n : Nat) :
    Achieves Effective s (pollCloudInit id n) fun s' server => server.id = id ∧ Unmoved s s' := by
  induction n generalizing s with
  | zero => trivial
  | succ n ih =>
    intro r s' hstep
    have hunmoved := hstep.unmoved ⟨rfl, rfl⟩
    rcases r with e | ⟨_ | _ | _, ipv4, privateIpv4⟩
    · trivial
    · exact ⟨rfl, hunmoved⟩
    · exact Achieves.mono ih fun s'' server h => ⟨h.1, hunmoved.trans h.2⟩
    · trivial

theorem achieves_waitForWorkers (ids : List Nat) :
    Achieves Effective s (ids.mapM waitForCloudInit) fun s' servers =>
      servers.map (·.id) = ids ∧ Unmoved s s' := by
  refine Achieves.mono (always_mapM (K := fun l servers s' => servers.map (·.id) ++ l = ids ∧
    Unmoved s s') ?_ ids [] ⟨rfl, Unmoved.refl s⟩) fun s' servers h => ?_
  · rintro id l servers s' ⟨hids, h⟩
    refine Achieves.mono (achieves_pollCloudInit id _) fun s'' server h' => ⟨?_, h.trans h'.2⟩
    rw [List.map_append, List.append_assoc, List.map_singleton, h'.1]
    exact hids
  · rw [List.append_nil, List.nil_append] at h
    exact h

theorem joinWorkers_still (workers : List HetznerServer) (address token version : String) :
    Makes (I := cloud) Still (joinWorkers workers address token version).run := by
  refine makes_forM (fun worker => ?_) workers
  refine makes_bindE (sshTarget_makes worker) fun target => ?_
  exact makes_bindE (makes_attempt (makes_call ⟨rfl, rfl⟩)) fun _ => trivial

theorem progress_still (text : String) :
    Makes (I := cloud) Still (ExceptT.lift (hubOnlyProgress text) : Activity Unit).run :=
  makes_lift (makes_call ⟨rfl, rfl⟩)

/-- A scale-out that succeeds has created its workers and not touched the rows. -/
theorem achieves_scaleOut {newV5 : String → Uuid} {clusterId : Uuid} (input : ScaleOutInput) :
    Achieves Effective s (scaleOut newV5 clusterId hubOnlyProgress input) fun s' workers =>
      s'.1.servers = s.1.servers ∧ createdAs s'.2 = createdAs s.2 ++
        ((workers.map (·.id)).zipIdx input.startIndex).map fun p =>
          (p.1, workerName input.clusterName p.2) := by
  refine achieves_bind (achieves_still (progress_still _)) fun s₁ _ h₁ => ?_
  refine achieves_bind (achieves_createWorkers input.clusterName input.startIndex
    input.count fun k => rfl) fun s₂ ids ⟨hservers, hcreated⟩ => ?_
  refine achieves_bind (achieves_still (progress_still _)) fun s₃ _ h₃ => ?_
  refine achieves_bind (achieves_waitForWorkers ids) ?_
  rintro s₄ workers ⟨rfl, h₄⟩
  refine achieves_bind (achieves_still (progress_still _)) fun s₅ _ h₅ => ?_
  refine achieves_bind (achieves_still (joinWorkers_still _ _ _ _)) fun s₆ _ h₆ => ?_
  refine achieves_bind (achieves_still (progress_still _)) fun s₇ _ h₇ => ?_
  have hlater := ((h₃.trans h₄).trans (h₅.trans h₆)).trans h₇
  exact ⟨hlater.servers.trans (hservers.trans h₁.servers), by
    rw [hlater.created, hcreated, h₁.created]⟩

/-- A worker that is recorded is the last of the rows. -/
theorem achieves_recordWorker (server : HetznerServer) (role : ClusterNodeRole) :
    Achieves Effective s (recordServer role server) fun s' _ =>
      createdAs s'.2 = createdAs s.2 ∧ deeds s'.2 = deeds s.2 ∧ s'.1.workerIds =
        s.1.workerIds ++ if role = .worker then [toI64 server.id] else [] := by
  rintro (e | ⟨⟩) s' hstep
  · trivial
  · have hfree := hstep.recorded _ _ _ _ rfl
    obtain ⟨⟨i, x, js, hanswer⟩, htrace⟩ := hstep.answered
    refine ⟨?_, ?_, ?_⟩
    · rw [htrace, createdAs_concat_of_not rfl]
    · rw [htrace, deeds_concat_of_not rfl]
    · obtain ⟨-, -, ⟨-, hw, hok⟩ | ⟨-, -, hr⟩ | ⟨-, -, hr⟩⟩ := Cloud.answer_cases hanswer
      · have hrow := Cloud.recordServer_ok hfree hok.symm
        rw [Cloud.workerIds, Cloud.workerRows, Cloud.liveServers, hw]
        simp only [Cloud.execute]
        rw [hrow, List.filter_append, List.filter_append, List.map_append]
        cases role with
        | controlPlane => rfl
        | worker => rfl
      · cases hr
      · cases hr

theorem unmoved_of_deeds {s' : Chronicle} (hdeeds : deeds s'.2 = deeds s.2)
    (hservers : s'.1.servers = s.1.servers) : Unmoved s s' :=
  ⟨hservers, by rw [← createdAs_deeds, hdeeds, createdAs_deeds]⟩

end Calls

/-! ## Growing -/

/-- The live workers have the numbers from zero on, in the order of their ids. -/
structure Named (clusterName : String) (s : Chronicle) : Prop where
  sound : Sound s
  numbered : Numbered clusterName (createdAs s.2) s.1.workerIds

section Growing

variable {newV5 : String → Uuid} {clusterId : Uuid} {clusterName : String} {s : Chronicle}

theorem Named.unmoved {s' : Chronicle} (h : Named clusterName s) (hs' : Sound s')
    (hsame : Unmoved s s') : Named clusterName s' := by
  refine ⟨hs', ?_⟩
  rw [Cloud.workerIds, hsame.workerRows, hsame.created]
  exact h.numbered

theorem Named.grow {s' : Chronicle} {ids : List Nat} (h : Named clusterName s) (hs' : Sound s')
    (hcreated : createdAs s'.2 = createdAs s.2 ++
      (ids.zipIdx s.1.workerIds.length).map fun p => (p.1, workerName clusterName p.2))
    (hids : s'.1.workerIds = s.1.workerIds ++ ids.map toI64) : Named clusterName s' := by
  refine ⟨hs', ?_⟩
  rw [hcreated, hids]
  exact h.numbered.grow (hcreated ▸ hs'.increasing) (hids ▸ hs'.nodup)

theorem achieves_recordWorkers_ids (servers : List HetznerServer) :
    Achieves Effective s (servers.forM (recordServer .worker)) fun s' _ =>
      createdAs s'.2 = createdAs s.2 ∧
        s'.1.workerIds = s.1.workerIds ++ (servers.map (·.id)).map toI64 := by
  refine Achieves.mono (always_forM (K := fun rest s' => createdAs s'.2 = createdAs s.2 ∧
    s'.1.workerIds ++ (rest.map (·.id)).map toI64 =
      s.1.workerIds ++ (servers.map (·.id)).map toI64) ?_ servers ⟨rfl, rfl⟩) fun s' _ h => ?_
  · rintro server rest s' ⟨hcreated, hids⟩
    refine (achieves_recordWorker server .worker).mono ?_
    rintro s'' - ⟨hcreated', -, hids'⟩
    refine ⟨hcreated'.trans hcreated, ?_⟩
    rw [hids', if_pos rfl, List.append_assoc]
    exact hids
  · rw [List.map_nil, List.map_nil, List.append_nil] at h
    exact h

/-- A cluster without rows is provisioned. -/
theorem named_runProvision {input : ProvisionClusterInput} {w : Cloud} (hnone : w.servers = []) :
    Achieves Effective (w, []) (runProvision newV5 clusterId input)
      fun s' _ => Named input.clusterName s' := by
  have hempty : Sound (w, []) := by
    refine ⟨⟨?_, ?_⟩, List.Pairwise.nil⟩
    · rw [hnone]
      exact List.nodup_nil
    · rw [Cloud.liveServers, hnone]
      exact List.nodup_nil
  refine (achieves_runProvision (fun _ _ _ _ h => h.answered) (fun σ done s =>
      deeds s.2 = σ.trace newV5 clusterId input ∧
        s.1.workerIds = (done.filter (·.1 = .worker)).map fun p => toI64 p.2.id)
    (fun _ _ _ _ h hstep => h.step hstep) hempty ?_ ?_ ?_).mono fun s' _ hend => ?_
  · intro σ s _ htrace hservers
    refine ⟨htrace, ?_⟩
    rw [Cloud.workerIds, Cloud.workerRows, Cloud.liveServers, hservers, hnone]
    rfl
  · rintro σ done p rest s ⟨htrace, hids⟩ -
    refine (achieves_recordWorker p.2.server p.1).mono ?_
    rintro s' - ⟨-, hdeeds, hids'⟩
    refine ⟨hdeeds.trans htrace, ?_⟩
    rw [hids', hids, List.filter_append, List.map_append]
    obtain ⟨role, b⟩ := p
    cases role with
    | controlPlane => rfl
    | worker => rfl
  · rintro σ s s' ⟨htrace, hids⟩ hdeeds hservers
    refine ⟨hdeeds.trans htrace, ?_⟩
    rw [← hids]
    exact congrArg (List.map _) (unmoved_of_deeds hdeeds hservers).workerRows
  · obtain ⟨hs', σ, -, htrace, hids⟩ := hend
    have hcreated : createdAs s'.2 = [(σ.controlPlane.id, input.clusterName ++ "-cp-01")] ++
        ((σ.workers.map (·.id)).zipIdx ([] : List Nat).length).map fun p =>
          (p.1, workerName input.clusterName p.2) := by
      rw [← createdAs_deeds, htrace, createdAs_trace]
      rfl
    have hworkers : s'.1.workerIds = [] ++ (σ.workers.map (·.id)).map toI64 := by
      rw [hids, Course.servers, List.filter_cons_of_neg (by simp), List.nil_append,
        List.filter_eq_self.mpr (by simp), List.map_map, List.map_map]
      rfl
    refine ⟨hs', ?_⟩
    rw [hcreated, hworkers]
    exact Numbered.nil.grow (hcreated ▸ hs'.increasing) (hworkers ▸ hs'.nodup)

theorem named_runScaleOut {count : Nat}
    {location serverType sshKey userData k3sVersion : String} (h : Named clusterName s) :
    Achieves Effective s (runScaleOut newV5 clusterId count clusterName location serverType sshKey
      userData k3sVersion) fun s' _ => Named clusterName s' := by
  have hstay {α : Type} {p : Run α} {s₁ : Chronicle} (h₁ : Named clusterName s₁)
      (hp : Makes (I := cloud) Still p.run) :
      Achieves Effective s₁ p fun s' _ => Named clusterName s' :=
    ((achieves_still hp).and (fun _ _ _ _ h hstep => h.step hstep) h₁.sound).mono
      fun s' _ h' => h₁.unmoved h'.1 h'.2
  refine achieves_bind (hstay h (makes_attempt (makes_call ⟨rfl, rfl⟩))) fun s₁ _ h₁ => ?_
  refine achieves_bind (achieves_listServers.and (fun _ _ _ _ h hstep => h.step hstep) h₁.sound) ?_
  rintro s₂ servers ⟨hs₂, rfl, -, hsame⟩
  have h₂ := h₁.unmoved hs₂ hsame
  have hcount : s₁.1.listServers.countP (·.role = .worker) = s₂.1.workerIds.length := by
    rw [Cloud.countP_listServers (fun role => decide (role = .worker)), List.countP_eq_length_filter,
      Cloud.workerIds, List.length_map, hsame.workerRows]
    rfl
  split
  · trivial
  split
  · trivial
  refine achieves_bind ((achieves_still (makes_attempt (makes_call ⟨rfl, rfl⟩))).and
    (fun _ _ _ _ h hstep => h.step hstep) hs₂) fun s₃ joinToken ⟨hs₃, hsame₃⟩ => ?_
  have h₃ := h₂.unmoved hs₃ hsame₃
  rw [hcount, ← Cloud.length_workerIds hsame₃.workerRows]
  refine achieves_bind ((achieves_outcomeOf (achieves_scaleOut _)).and
    (fun _ _ _ _ h hstep => h.step hstep) hs₃) ?_
  rintro s₄ result ⟨hs₄, hdone⟩
  cases result with
  | error err =>
    refine achieves_bind (achieves_still (makes_ignore (makes_call ⟨rfl, rfl⟩))) fun _ _ _ => ?_
    refine achieves_bind (achieves_still (makes_ignore (makes_call ⟨rfl, rfl⟩))) fun _ _ _ => ?_
    exact trivial
  | ok workers =>
    obtain ⟨hservers, hcreated⟩ := hdone workers rfl
    refine achieves_bind ((achieves_recordWorkers_ids workers).and
      (fun _ _ _ _ h hstep => h.step hstep) hs₄) ?_
    rintro s₅ - ⟨hs₅, hcreated₅, hids⟩
    have hrows : s₄.1.workerIds = s₃.1.workerIds := by
      rw [Cloud.workerIds, Cloud.workerRows, Cloud.liveServers, hservers]
      rfl
    have h₅ : Named clusterName s₅ :=
      h₃.grow hs₅ (hcreated₅.trans hcreated) (hids.trans (congrArg (· ++ _) hrows))
    refine achieves_bind (hstay h₅ (makes_attempt (makes_call ⟨rfl, rfl⟩))) fun s₆ _ h₆ => ?_
    exact hstay h₆ (makes_ignore (makes_call ⟨rfl, rfl⟩))

end Growing

/-! ## Shrinking -/

/-- What is done to take a worker away. -/
inductive Removal where
  | drain (nodeName : String)
  | deleteNode (nodeName : String)
  | deleteServer (id : Nat)
deriving DecidableEq

def CloudCall.removal : CloudCall → Option Removal
  | .drainNode _ nodeName => some (.drain nodeName)
  | .deleteNode _ nodeName => some (.deleteNode nodeName)
  | .deleteServer id => some (.deleteServer id)
  | _ => none

def removals (h : Trace cloud) : List Removal := h.filterMap fun e => e.1.removal

/-- All nodes are drained, then all are deleted, then all servers. -/
def removalsOf (targets : List WorkerToRemove) : List Removal :=
  (targets.map fun t => .drain t.nodeName) ++ ((targets.map fun t => .deleteNode t.nodeName) ++
    targets.map fun t => .deleteServer t.serverId)

theorem removals_concat (h : Trace cloud) (c : cloud.Call) (r : cloud.Answer c) :
    removals (h ++ [⟨c, r⟩]) = removals h ++ c.removal.toList := by
  rw [removals, List.filterMap_append]
  cases hc : c.removal with
  | none => simp [removals, hc]
  | some removal => simp [removals, hc]

theorem removals_deeds (h : Trace cloud) : removals (deeds h) = removals h := by
  rw [removals, deeds, List.filterMap_filter, removals]
  refine List.filterMap_congr fun e _ => ?_
  obtain ⟨c, r⟩ := e
  cases c with
  | drainNode path nodeName => rfl
  | deleteNode path nodeName => rfl
  | deleteServer id => rfl
  | _ => exact ite_self none

section Shrinking

variable {clusterId : Uuid} {clusterName : String} {s : Chronicle}

/-- A loop in which every target has one call made for it. -/
theorem achieves_removals {p : WorkerToRemove → Activity Unit} {f : WorkerToRemove → Removal}
    (hp : ∀ t s, Achieves Effective s (p t) fun s' _ =>
      removals s'.2 = removals s.2 ++ [f t] ∧ Unmoved s s') (targets : List WorkerToRemove) :
    Achieves Effective s (targets.forM p) fun s' _ =>
      removals s'.2 = removals s.2 ++ targets.map f ∧ Unmoved s s' := by
  refine Achieves.mono (always_forM (K := fun rest s' =>
    removals s'.2 ++ rest.map f = removals s.2 ++ targets.map f ∧ Unmoved s s') ?_ targets
    ⟨rfl, Unmoved.refl s⟩) fun s' _ h => ?_
  · rintro t rest s' ⟨hremovals, h⟩
    refine Achieves.mono (hp t s') fun s'' _ h' => ⟨?_, h.trans h'.2⟩
    rw [h'.1, List.append_assoc]
    exact hremovals
  · rw [List.map_nil, List.append_nil] at h
    exact h

theorem effective_removal {s' : Chronicle} {c : cloud.Call} {r : cloud.Answer c} (hc : Still c)
    (h : Effective s c r s') : removals s'.2 = removals s.2 ++ c.removal.toList ∧ Unmoved s s' :=
  ⟨h.answered.2 ▸ removals_concat s.2 c r, h.unmoved hc⟩

theorem achieves_scaleIn (targets : List WorkerToRemove) (path : String) :
    Achieves Effective s (scaleIn hubOnlyProgress targets path) fun s' _ =>
      removals s'.2 = removals s.2 ++ removalsOf targets ∧ Unmoved s s' := by
  have hstep (text : String) (s : Chronicle) : Achieves Effective s
      (ExceptT.lift (hubOnlyProgress text) : Activity Unit) fun s' _ =>
        removals s'.2 = removals s.2 ∧ Unmoved s s' := by
    intro r s' h
    have h' := effective_removal ⟨rfl, rfl⟩ h
    rw [show (CloudCall.publishStep text).removal.toList = [] from rfl, List.append_nil] at h'
    exact h'
  refine achieves_bind (hstep _ s) fun s₁ _ h₁ => ?_
  refine achieves_bind (achieves_removals (f := fun t => .drain t.nodeName) ?_ targets)
    fun s₂ _ h₂ => ?_
  · rintro t s (e | a) s' h
    · trivial
    · exact effective_removal ⟨rfl, rfl⟩ h
  refine achieves_bind (hstep _ s₂) fun s₃ _ h₃ => ?_
  refine achieves_bind (achieves_removals (f := fun t => .deleteNode t.nodeName) ?_ targets)
    fun s₄ _ h₄ => ?_
  · rintro t s (e | a) s' h
    · trivial
    · exact effective_removal ⟨rfl, rfl⟩ h
  refine achieves_bind (hstep _ s₄) fun s₅ _ h₅ => ?_
  refine achieves_bind (achieves_removals (f := fun t => .deleteServer t.serverId) ?_ targets)
    fun s₆ _ h₆ => ?_
  · rintro t s (e | ⟨⟩) s' h
    · -- a server that is gone counts as deleted
      have hremoval := effective_removal ⟨rfl, rfl⟩ h
      by_cases he : e.isNotFound = true
      · dsimp only [Program.bind]
        rw [if_pos he]
        exact hremoval
      · dsimp only [Program.bind]
        rw [if_neg he]
        trivial
    · exact effective_removal ⟨rfl, rfl⟩ h
  refine Achieves.mono (hstep _ s₆) fun s₇ _ h₇ => ⟨?_, ?_⟩
  · rw [h₇.1, h₆.1, h₅.1, h₄.1, h₃.1, h₂.1, h₁.1, removalsOf, List.append_assoc, List.append_assoc]
  · exact (((h₁.2.trans h₂.2).trans (h₃.2.trans h₄.2)).trans (h₅.2.trans h₆.2)).trans h₇.2

/-- The rows that are live after one was deleted. -/
theorem liveServers_of_effective {s' : Chronicle} {id : Uuid} {r : Except PlatformError Unit}
    (h : Effective s (.softDeleteServerRow id) r s') :
    s'.1.liveServers = s.1.liveServers.filter fun row => row.id ≠ id := by
  obtain ⟨⟨i, x, js, hanswer⟩, -⟩ := h.answered
  have hfilter : ∃ p : ClusterServer → Bool, (∀ row, row.id ≠ id → p row = false) ∧
      s'.1.liveServers = s.1.liveServers.filter fun row => !p row := by
    have heffect : (s.1.execute i x (.softDeleteServerRow id)).1.liveServers =
        s.1.liveServers.filter fun row =>
          !(!s.1.enforceRls && row.id == id && row.isLive) :=
      @Cloud.liveServers_softDelete _ _ _ x.now rfl
    have hother (row : ClusterServer) (hne : row.id ≠ id) :
        (!s.1.enforceRls && row.id == id && row.isLive) = false := by
      rw [beq_false_of_ne hne, Bool.and_false, Bool.false_and]
    obtain ⟨-, -, ⟨-, hw, -⟩ | ⟨-, hw, -⟩ | ⟨-, hw, -⟩⟩ := Cloud.answer_cases hanswer
    · exact ⟨_, hother, hw ▸ heffect⟩
    · refine ⟨fun _ => false, fun _ _ => rfl, ?_⟩
      rw [hw]
      exact (List.filter_eq_self.mpr fun _ _ => rfl).symm
    · exact ⟨_, hother, hw ▸ heffect⟩
  obtain ⟨p, hother, hlive⟩ := hfilter
  rw [hlive]
  refine List.filter_congr fun row hrow => ?_
  by_cases hid : row.id = id
  · -- the row is not among those that are left
    have hp : p row = true := by
      by_contra hp
      have hmem : row ∈ s'.1.liveServers := by
        rw [hlive]
        exact List.mem_filter.mpr ⟨hrow, by simpa using hp⟩
      obtain ⟨hmem, hrowLive⟩ := Cloud.mem_liveServers.mp hmem
      rw [h.deleted id rfl row hmem hid] at hrowLive
      cases hrowLive
    rw [hp, decide_eq_false (not_not.mpr hid)]
    rfl
  · rw [hother row hid, decide_eq_true hid]
    rfl

theorem achieves_softDeletes (rows : List ClusterServer) :
    Achieves Effective s (rows.forM fun r => ignore (call (.softDeleteServerRow r.id)))
      fun s' _ => createdAs s'.2 = createdAs s.2 ∧ removals s'.2 = removals s.2 ∧
        s'.1.liveServers = s.1.liveServers.filter fun row => row.id ∉ rows.map (·.id) := by
  refine Achieves.mono (always_forM (K := fun rest s' => createdAs s'.2 = createdAs s.2 ∧
    removals s'.2 = removals s.2 ∧ (s'.1.liveServers.filter fun row => row.id ∉ rest.map (·.id)) =
      s.1.liveServers.filter fun row => row.id ∉ rows.map (·.id)) ?_ rows ⟨rfl, rfl, rfl⟩)
    fun s' _ h => ?_
  · rintro r rest s' ⟨hcreated, hremovals, hlive⟩ a s'' h
    refine ⟨?_, ?_, ?_⟩
    · rw [h.answered.2, createdAs_concat_of_not rfl, hcreated]
    · rw [h.answered.2, removals_concat, hremovals]
      exact List.append_nil _
    · rw [liveServers_of_effective h, List.filter_filter, ← hlive]
      refine List.filter_congr fun row _ => ?_
      rw [← Bool.decide_and, decide_eq_decide, List.map_cons, List.mem_cons, not_or]
      exact and_comm
  · refine ⟨h.1, h.2.1, ?_⟩
    rw [← h.2.2]
    exact (List.filter_eq_self.mpr fun row _ => by simp).symm

/-- A row as it is listed. -/
def ClusterServer.shown (r : ClusterServer) : ClusterServer :=
  { r with publicIpv4 := r.publicIpv4.map inetText, privateIpv4 := r.privateIpv4.map inetText }

theorem perm_listedWorkers (w : Cloud) :
    (w.listServers.filter (·.role = .worker)).Perm (w.workerRows.map ClusterServer.shown) := by
  have hshown : w.listServers = (w.liveServers.insertionSort fun a b => a.le b).map
      ClusterServer.shown := rfl
  rw [hshown, List.filter_map]
  exact ((List.perm_insertionSort _ w.liveServers).filter _).map _

/-- Dropping by key what stands at the end. -/
theorem filter_notMem_drop {α β : Type} [DecidableEq β] {f : α → β} {l : List α}
    (h : (l.map f).Nodup) (n : Nat) :
    (l.filter fun a => f a ∉ (l.drop n).map f) = l.take n := by
  rw [← List.take_append_drop n l, List.map_append] at h
  obtain ⟨-, -, hdisjoint⟩ := List.nodup_append.mp h
  conv_lhs =>
    arg 2
    rw [← List.take_append_drop n l]
  rw [List.filter_append]
  have htake : (l.take n).filter (fun a => f a ∉ (l.drop n).map f) = l.take n := by
    refine List.filter_eq_self.mpr fun a ha => decide_eq_true fun hmem => ?_
    exact hdisjoint _ (List.mem_map_of_mem ha) _ hmem rfl
  have hdrop : (l.drop n).filter (fun a => f a ∉ (l.drop n).map f) = [] := by
    rw [List.filter_eq_nil_iff]
    intro a ha hmem
    exact of_decide_eq_true hmem (List.mem_map_of_mem ha)
  rw [htake, hdrop, List.append_nil]

theorem Sound.nodup_rowIds (h : Sound s) : (s.1.workerRows.map (·.id)).Nodup :=
  h.keyed.ids.sublist ((List.filter_sublist.trans List.filter_sublist).map _)

section Chosen

variable {w w' : Cloud} (horder : w.workerIds.Pairwise (· < ·))

include horder

theorem chosen_eq (count : Nat) : workersToRemove w.listServers count =
    (w.workerRows.map ClusterServer.shown).reverse.take count :=
  workersToRemove_eq (perm_listedWorkers w) (by rw [List.map_map]; exact horder) count

theorem chosen_serverIds (count : Nat) :
    (workersToRemove w.listServers count).map (·.hetznerServerId) =
      w.workerIds.reverse.take count := by
  rw [chosen_eq horder, List.map_take, List.map_reverse, List.map_map]
  rfl

theorem chosen_name {clusterName : String} {C : List (Nat × String)}
    (h : Numbered clusterName C w.workerIds) {count : Nat} {r : ClusterServer}
    (hr : r ∈ workersToRemove w.listServers count) :
    nameOf C r.hetznerServerId = some (removalTarget clusterName w.listServers r).nodeName :=
  removalTarget_name (perm_listedWorkers w) (by rw [List.map_map]; exact horder)
    (by rw [List.map_map]; exact h) hr

/-- The workers that are left when the chosen ones are deleted. -/
theorem workerIds_of_chosen (count : Nat) (hids : (w.workerRows.map (·.id)).Nodup)
    (hlive : w'.liveServers = w.liveServers.filter fun row =>
      row.id ∉ (workersToRemove w.listServers count).map (·.id)) :
    w'.workerIds = w.workerIds.take (w.workerIds.length - count) := by
  have hchosen : (workersToRemove w.listServers count).map (·.id) =
      ((w.workerRows.drop (w.workerRows.length - count)).map (·.id)).reverse := by
    rw [chosen_eq horder, List.map_take, List.map_reverse, List.map_map, List.take_reverse,
      List.length_map, ← List.map_drop]
    rfl
  have hrows : w'.workerRows = w.workerRows.take (w.workerRows.length - count) := by
    rw [← filter_notMem_drop hids, Cloud.workerRows, hlive, List.filter_comm, hchosen]
    refine List.filter_congr fun row _ => ?_
    rw [decide_eq_decide, List.mem_reverse]
  rw [Cloud.workerIds, hrows, List.map_take, Cloud.workerIds, List.length_map]

end Chosen

theorem fetchKubeconfig_aside (clusterId : Uuid) :
    Makes (I := cloud) Aside (ClusterService.fetchKubeconfig clusterId).run := by
  refine makes_bindE (makes_attempt (makes_call ⟨rfl, rfl⟩)) ?_
  rintro (_ | secretId)
  · trivial
  · exact makes_attempt (makes_call ⟨rfl, rfl⟩)

/-- The youngest workers are taken away, each with the node of its name. -/
theorem named_runScaleIn {count : Nat} (h : Named clusterName s) :
    Achieves Effective s (runScaleIn clusterId clusterName count) fun s' _ =>
      Named clusterName s' ∧ ∃ targets : List WorkerToRemove,
        removals s'.2 = removals s.2 ++ removalsOf targets ∧
        targets.map (·.serverId) = s.1.workerIds.reverse.take count ∧
        ∀ t ∈ targets, nameOf (createdAs s.2) t.serverId = some t.nodeName := by
  have haside {α : Type} {p : Run α} {s₁ : Chronicle} (h₁ : Sound s₁)
      (hp : Makes (I := cloud) Aside p.run) : Achieves Effective s₁ p fun s' _ =>
        Sound s' ∧ removals s'.2 = removals s₁.2 ∧ Unmoved s₁ s' :=
    ((achieves_aside (fun _ _ _ _ h => h.answered) hp).and
      (fun _ _ _ _ h hstep => h.step hstep) h₁).mono fun s' _ ⟨hs', hdeeds, hservers⟩ =>
        ⟨hs', by rw [← removals_deeds, hdeeds, removals_deeds], unmoved_of_deeds hdeeds hservers⟩
  refine achieves_bind (haside h.sound (makes_attempt (makes_call ⟨rfl, rfl⟩)))
    fun s₁ _ ⟨hs₁, hdone₁, h₁⟩ => ?_
  refine achieves_bind ((achieves_listServers (s := s₁)).and
    (fun _ _ _ _ h hstep => h.step hstep) hs₁) ?_
  rintro s₂ _ ⟨hs₂, rfl, hdone₂, h₂⟩
  refine achieves_bind (haside hs₂ (fetchKubeconfig_aside clusterId))
    fun s₃ kubeconfig ⟨hs₃, hdone₃, h₃⟩ => ?_
  refine achieves_bind (haside hs₃ (makes_lift (makes_call ⟨rfl, rfl⟩)))
    fun s₄ fileId ⟨hs₄, hdone₄, h₄⟩ => ?_
  refine achieves_bind (haside hs₄ (makes_attempt (makes_call ⟨rfl, rfl⟩)))
    fun s₅ _ ⟨hs₅, hdone₅, h₅⟩ => ?_
  refine achieves_bind ((achieves_outcomeOf (achieves_scaleIn _ _)).and
    (fun _ _ _ _ h hstep => h.step hstep) hs₅) fun s₆ result ⟨hs₆, hresult⟩ => ?_
  refine achieves_bind (haside hs₆ (makes_ignore (makes_call ⟨rfl, rfl⟩)))
    fun s₇ _ ⟨hs₇, hdone₇, h₇⟩ => ?_
  rcases result with err | ⟨⟩
  · refine achieves_bind (haside hs₇ (makes_ignore (makes_call ⟨rfl, rfl⟩))) fun _ _ ⟨hs, _⟩ => ?_
    refine achieves_bind (haside hs (makes_ignore (makes_call ⟨rfl, rfl⟩))) fun _ _ _ => ?_
    exact trivial
  obtain ⟨hdone₆, h₆⟩ := hresult () rfl
  have hstart := h.unmoved hs₁ h₁
  refine achieves_bind ((achieves_softDeletes _).and
    (fun _ _ _ _ h hstep => h.step hstep) hs₇) fun s₈ _ ⟨hs₈, hcreated₈, hdone₈, hlive₈⟩ => ?_
  refine achieves_bind (haside hs₈ (makes_attempt (makes_call ⟨rfl, rfl⟩)))
    fun s₉ _ ⟨hs₉, hdone₉, h₉⟩ => ?_
  refine (haside hs₉ (makes_ignore (makes_call ⟨rfl, rfl⟩))).mono fun s' _ ⟨hs', hdone', h'⟩ => ?_
  have hsame : Unmoved s₁ s₇ :=
    ((h₂.trans h₃).trans (h₄.trans h₅)).trans (h₆.trans h₇)
  have horder := hstart.numbered.order
  refine ⟨Named.unmoved ?_ hs' (h₉.trans h'),
    (workersToRemove s₁.1.listServers count).map (removalTarget clusterName s₁.1.listServers),
    ?_, ?_, ?_⟩
  · refine ⟨hs₈, ?_⟩
    rw [hcreated₈, hsame.created, workerIds_of_chosen horder count hs₁.nodup_rowIds ?_]
    · exact hstart.numbered.take _
    · rw [hlive₈, Cloud.liveServers, hsame.servers]
      rfl
  · have hbefore : removals s₅.2 = removals s.2 := by
      rw [hdone₅, hdone₄, hdone₃, ← removals_deeds s₂.2, hdone₂, removals_deeds, hdone₁]
    rw [hdone', hdone₉, hdone₈, hdone₇, hdone₆, hbefore]
  · have hids : s₁.1.workerIds = s.1.workerIds := by
      rw [Cloud.workerIds, h₁.workerRows]
      rfl
    rw [List.map_map, ← hids, ← chosen_serverIds horder]
    rfl
  · intro t ht
    obtain ⟨r, hr, rfl⟩ := List.mem_map.mp ht
    rw [← h₁.created]
    exact chosen_name horder hstart.numbered hr

end Shrinking

/-! ## Runs one after the other -/

/-- One provisioning that succeeds, and then scale-outs and scale-ins that do. In between the
requests write what they like, but no rows of servers. -/
inductive Sequence (newV5 : String → Uuid) (clusterId : Uuid) (clusterName : String) :
    Chronicle → Prop where
  | provision {input : ProvisionClusterInput} {w : Cloud} {s : Chronicle}
      (hname : input.clusterName = clusterName) (hnone : w.servers = [])
      (h : Leads Effective (runProvision newV5 clusterId input).run (w, []) s (.ok ())) :
      Sequence newV5 clusterId clusterName s
  | scaleOut {s s' : Chronicle} {count : Nat}
      {location serverType sshKey userData k3sVersion : String}
      (hs : Sequence newV5 clusterId clusterName s)
      (h : Leads Effective (runScaleOut newV5 clusterId count clusterName location serverType sshKey
        userData k3sVersion).run s s' (.ok ())) : Sequence newV5 clusterId clusterName s'
  | scaleIn {s s' : Chronicle} {count : Nat} (hs : Sequence newV5 clusterId clusterName s)
      (h : Leads Effective (runScaleIn clusterId clusterName count).run s s' (.ok ())) :
      Sequence newV5 clusterId clusterName s'
  | request {s : Chronicle} {w : Cloud} (hs : Sequence newV5 clusterId clusterName s)
      (hservers : w.servers = s.1.servers) : Sequence newV5 clusterId clusterName (w, s.2)

theorem Sequence.named {newV5 : String → Uuid} {clusterId : Uuid} {clusterName : String}
    {s : Chronicle} (h : Sequence newV5 clusterId clusterName s) : Named clusterName s := by
  induction h with
  | provision hname hnone h =>
    subst hname
    exact (named_runProvision hnone).leads h
  | scaleOut hs h ih => exact (named_runScaleOut ih).leads h
  | scaleIn hs h ih => exact ((named_runScaleIn ih).leads h).1
  | request hs hservers ih =>
    exact ih.unmoved ⟨ih.sound.keyed.of_eq hservers, ih.sound.increasing⟩ ⟨hservers, rfl⟩

end Kubinate.Clusters
