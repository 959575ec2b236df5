import Kubinate.Clusters.Cloud

/-!
# The rows of the servers

What the calls do to `cluster_servers`, apart from the run that makes them.
-/

namespace Kubinate.Clusters

open Platform Library

namespace ClusterServer

variable {p : ClusterServer → Bool} {now : Timestamp}

def softDelete (p : ClusterServer → Bool) (now : Timestamp) (r : ClusterServer) : ClusterServer :=
  if p r then { r with deletedAt := some now } else r

theorem softDelete_of_not {r : ClusterServer} (h : p r = false) : softDelete p now r = r := by
  simp [softDelete, h]

@[simp] theorem softDelete_id (r : ClusterServer) : (softDelete p now r).id = r.id := by
  unfold softDelete
  split <;> rfl

@[simp] theorem softDelete_hetznerServerId (r : ClusterServer) :
    (softDelete p now r).hetznerServerId = r.hetznerServerId := by
  unfold softDelete
  split <;> rfl

theorem isLive_of_softDelete (r : ClusterServer) (h : (softDelete p now r).isLive = true) :
    r.isLive = true := by
  unfold softDelete at h
  split at h
  · cases h
  · exact h

end ClusterServer

namespace Cloud

variable {w w' : Cloud}

def hasLiveRow (w : Cloud) (id : Nat) : Bool :=
  w.servers.any fun r => r.isLive && r.hetznerServerId == id

theorem hasLiveRow_iff {id : Nat} :
    w.hasLiveRow id = true ↔ ∃ r ∈ w.servers, r.isLive = true ∧ r.hetznerServerId = id := by
  simp [hasLiveRow]

theorem mem_liveServers {r : ClusterServer} :
    r ∈ w.liveServers ↔ r ∈ w.servers ∧ r.isLive = true := by
  simp [liveServers]

/-- Everything `list_servers` returns is a live row, up to the text of the addresses. -/
theorem exists_of_mem_listServers {r : ClusterServer} (h : r ∈ w.listServers) :
    ∃ r' ∈ w.servers, r'.isLive = true ∧ r'.role = r.role ∧ r'.id = r.id ∧
      r'.hetznerServerId = r.hetznerServerId := by
  obtain ⟨r', hr', rfl⟩ := List.mem_map.mp h
  rw [List.mem_insertionSort, mem_liveServers] at hr'
  exact ⟨r', hr'.1, hr'.2, rfl, rfl, rfl⟩

theorem hetznerServerId_mem_listServers {r : ClusterServer} (h : r ∈ w.liveServers) :
    r.hetznerServerId ∈ w.listServers.map (·.hetznerServerId) := by
  rw [listServers, List.map_map]
  refine List.mem_map.mpr ⟨r, ?_, rfl⟩
  rwa [List.mem_insertionSort]

/-- Counting rows does not depend on the order of the list. -/
theorem countP_listServers (p : ClusterNodeRole → Bool) :
    w.listServers.countP (p ·.role) = w.liveServers.countP (p ·.role) := by
  rw [listServers, List.countP_map]
  exact (List.perm_insertionSort _ w.liveServers).countP_eq _

/-- Rows are of servers that the provider has created, and no two rows share their id. -/
structure Inventoried (w : Cloud) : Prop where
  rows : ∀ r ∈ w.servers, r.hetznerServerId ∈ w.created
  ids : (w.servers.map (·.id)).Nodup

/-- No row is listed twice. -/
theorem Inventoried.nodup_listServers (h : w.Inventoried) :
    (w.listServers.map (·.id)).Nodup := by
  rw [listServers, List.map_map]
  have hperm := (List.perm_insertionSort (fun a b => a.le b) w.liveServers).map (·.id)
  refine hperm.nodup_iff.mpr (h.ids.sublist ?_)
  exact (List.filter_sublist (l := w.servers)).map _

theorem Inventoried.softDelete (h : w.Inventoried) {p : ClusterServer → Bool} {now : Timestamp}
    (hcreated : w'.created = w.created)
    (hservers : w'.servers = w.servers.map (ClusterServer.softDelete p now)) :
    w'.Inventoried where
  rows := by
    intro r hr
    rw [hservers] at hr
    obtain ⟨r', hr', rfl⟩ := List.mem_map.mp hr
    rw [ClusterServer.softDelete_hetznerServerId, hcreated]
    exact h.rows r' hr'
  ids := by
    have hid : (fun r : ClusterServer => r.id) ∘ ClusterServer.softDelete p now = (·.id) :=
      funext fun r => r.softDelete_id
    rw [hservers, List.map_map, hid]
    exact h.ids

theorem Inventoried.of_eq (h : w.Inventoried) (hcreated : ∀ id ∈ w.created, id ∈ w'.created)
    (hservers : w'.servers = w.servers) : w'.Inventoried where
  rows := by
    rw [hservers]
    exact fun r hr => hcreated _ (h.rows r hr)
  ids := hservers ▸ h.ids

theorem Inventoried.recordServer (h : w.Inventoried) (x : Outcome) {hetznerServerId : Nat}
    (role : ClusterNodeRole) (publicIpv4 privateIpv4 : Option String)
    (hcreated : hetznerServerId ∈ w.created) :
    (w.recordServer x hetznerServerId role publicIpv4 privateIpv4).1.Inventoried := by
  unfold Cloud.recordServer
  split
  · exact h
  split
  · exact h
  next hfree =>
  exact {
    rows := by
      intro r hr
      rcases List.mem_append.mp hr with hr | hr
      · exact h.rows r hr
      · obtain rfl := List.mem_singleton.mp hr
        exact hcreated
    ids := by
      rw [List.map_append, List.nodup_append]
      refine ⟨h.ids, List.nodup_singleton _, ?_⟩
      simpa using hfree }

/-- A server that was recorded has a row. -/
theorem hasLiveRow_recordServer {x : Outcome} {hetznerServerId : Nat} {role : ClusterNodeRole}
    {publicIpv4 privateIpv4 : Option String}
    (h : (w.recordServer x hetznerServerId role publicIpv4 privateIpv4).2 = .ok ()) :
    (w.recordServer x hetznerServerId role publicIpv4 privateIpv4).1.hasLiveRow hetznerServerId =
      true := by
  unfold Cloud.recordServer at h ⊢
  split at h
  · next hlive =>
    rw [if_pos hlive]
    exact hlive
  · next hlive =>
    rw [if_neg hlive]
    split at h
    · cases h
    · next hfree =>
      rw [if_neg hfree]
      simp [hasLiveRow, ClusterServer.isLive]

end Cloud

end Kubinate.Clusters
