import Kubinate.Clusters.Inventory
import Kubinate.Clusters.RunRecord

/-!
# No server without a row

A server is created inside a workflow and recorded by the runner after the workflow has
succeeded; a destroy reads the inventory once and deletes what it has read. So a failure in
between loses the servers created so far, and a row recorded behind the back of a destroy is
deleted without its server.

* `not_liveRow_of_alive`: a provisioning run that fails after it has created the control
  plane, and a destroy after it: the cluster is destroyed and the server is still there.
* `liveRow_of_alive_of_keepsInventory`: as long as no run is told of a failure while it holds
  unrecorded servers, no reply to a creation is lost, and nothing is recorded past a destroy,
  every server has a live row whenever nothing is in flight, and none is left of a destroyed
  cluster.
-/

namespace Kubinate.Clusters

open Platform Library

/-! ## The inventory -/

namespace Cloud

variable {w w' : Cloud}

/-- The rows are in order, and a destroyed cluster has none. -/
structure Stocked (w : Cloud) : Prop extends Inventoried w where
  destroyed : w.cluster.status = .destroyed → w.liveServers = []

/-- What the run in slot `i` can do to the inventory: it gets servers with fresh ids, and no
server that stays loses its row. Unless `D`, no row is added. -/
structure Moves (w : Cloud) (i : Nat) (D : Prop) (w' : Cloud) : Prop where
  created : ∀ id ∈ w.created, id ∈ w'.created
  fresh : ∀ v ∈ w'.alive, v ∈ w.alive ∨ v.run = i ∧ v.id ∉ w.created
  rows : ∀ r ∈ w.servers, ∃ r' ∈ w'.servers,
    r'.id = r.id ∧ r'.hetznerServerId = r.hetznerServerId
  kept : ∀ v ∈ w'.alive, w.hasLiveRow v.id = true → w'.hasLiveRow v.id = true
  live : D ∨ ∀ r ∈ w'.liveServers, r.hetznerServerId ∈ w.liveServers.map (·.hetznerServerId)

/-- The tables of servers and the provider are as they were. -/
theorem Moves.of_eq {i : Nat} {D : Prop} (hcreated : w'.created = w.created)
    (halive : w'.alive = w.alive) (hservers : w'.servers = w.servers) : w.Moves i D w' where
  created := by simp [hcreated]
  fresh := fun v hv => .inl (halive ▸ hv)
  rows := fun r hr => ⟨r, hservers ▸ hr, rfl, rfl⟩
  kept := fun v _ hv => by rwa [hasLiveRow, hservers]
  live := .inr fun r hr => List.mem_map_of_mem (by rwa [liveServers, ← hservers])

/-- Rows are deleted whose servers are gone. -/
theorem Moves.softDelete {i : Nat} {D : Prop} {p : ClusterServer → Bool} {now : Timestamp}
    (hgone : ∀ r ∈ w.servers, p r = true → ∀ v ∈ w.alive, v.id ≠ r.hetznerServerId)
    (hcreated : w'.created = w.created) (halive : w'.alive = w.alive)
    (hservers : w'.servers = w.servers.map (ClusterServer.softDelete p now)) :
    w.Moves i D w' where
  created := by simp [hcreated]
  fresh := fun v hv => .inl (halive ▸ hv)
  rows := by
    intro r hr
    rw [hservers]
    exact ⟨_, List.mem_map_of_mem hr, r.softDelete_id, r.softDelete_hetznerServerId⟩
  kept := by
    intro v hv hrow
    rw [halive] at hv
    obtain ⟨r, hr, hlive, hid⟩ := hasLiveRow_iff.mp hrow
    have hkept : p r = false := by
      cases hp : p r with
      | false => rfl
      | true => exact absurd hid.symm (hgone r hr hp v hv)
    refine hasLiveRow_iff.mpr ⟨r, ?_, hlive, hid⟩
    rw [hservers]
    exact List.mem_map.mpr ⟨r, hr, ClusterServer.softDelete_of_not hkept⟩
  live := by
    refine .inr fun r hr => ?_
    rw [mem_liveServers, hservers] at hr
    obtain ⟨r', hr', rfl⟩ := List.mem_map.mp hr.1
    rw [ClusterServer.softDelete_hetznerServerId]
    exact List.mem_map_of_mem (mem_liveServers.mpr ⟨hr', r'.isLive_of_softDelete hr.2⟩)

theorem Stocked.softDelete (h : w.Stocked) {p : ClusterServer → Bool} {now : Timestamp}
    (hcreated : w'.created = w.created) (hstatus : w'.cluster.status = w.cluster.status)
    (hservers : w'.servers = w.servers.map (ClusterServer.softDelete p now)) : w'.Stocked where
  toInventoried := h.toInventoried.softDelete hcreated hservers
  destroyed := by
    intro hdestroyed
    refine List.eq_nil_iff_forall_not_mem.mpr fun r hr => ?_
    rw [mem_liveServers, hservers] at hr
    obtain ⟨r', hr', rfl⟩ := List.mem_map.mp hr.1
    have hmem := mem_liveServers.mpr ⟨hr', r'.isLive_of_softDelete hr.2⟩
    rw [h.destroyed (hstatus ▸ hdestroyed)] at hmem
    cases hmem

/-- The tables of servers and the provider are as they were, and the cluster was not
destroyed just now. -/
theorem Stocked.of_eq (h : w.Stocked) (hcreated : w'.created = w.created)
    (hservers : w'.servers = w.servers)
    (hstatus : w'.cluster.status = .destroyed → w.cluster.status = .destroyed) : w'.Stocked where
  toInventoried := h.toInventoried.of_eq (by simp [hcreated]) hservers
  destroyed := fun hd => by
    rw [liveServers, hservers]
    exact h.destroyed (hstatus hd)

theorem Stocked.recordServer (h : w.Stocked) (x : Outcome) {hetznerServerId : Nat}
    (role : ClusterNodeRole) (publicIpv4 privateIpv4 : Option String)
    (hcreated : hetznerServerId ∈ w.created) (hstatus : w.cluster.status ≠ .destroyed) :
    (w.recordServer x hetznerServerId role publicIpv4 privateIpv4).1.Stocked where
  toInventoried := h.toInventoried.recordServer x role publicIpv4 privateIpv4 hcreated
  destroyed := fun hd => by
    have hkept : (w.recordServer x hetznerServerId role publicIpv4 privateIpv4).1.cluster.status =
        w.cluster.status := by
      unfold Cloud.recordServer
      split
      · rfl
      split <;> rfl
    exact absurd (hkept ▸ hd) hstatus

theorem Moves.recordServer {i : Nat} {D : Prop} (hD : D) (x : Outcome) (hetznerServerId : Nat)
    (role : ClusterNodeRole) (publicIpv4 privateIpv4 : Option String) :
    w.Moves i D (w.recordServer x hetznerServerId role publicIpv4 privateIpv4).1 := by
  unfold Cloud.recordServer
  split
  · exact .of_eq rfl rfl rfl
  split
  · exact .of_eq rfl rfl rfl
  exact {
    created := fun _ h => h
    fresh := fun _ h => .inl h
    rows := fun r hr => ⟨r, List.mem_append_left _ hr, rfl, rfl⟩
    kept := by
      intro v _ hrow
      rw [hasLiveRow, List.any_append]
      exact Bool.or_eq_true_iff.mpr (.inl hrow)
    live := .inl hD }

end Cloud

/-! ## One slot -/

/-- What is known of the run in slot `i`: its servers have rows or are held by it, what it
has seen deleted is gone, and the inventory a destroy has read is complete until it is
over. -/
structure Accounted (w : Cloud) (i : Nat) (j : ClusterJob) (ρ : RunRecord) : Prop where
  own : ∀ v ∈ w.alive, v.run = i →
    w.hasLiveRow v.id = true ∨ v.id ∈ ρ.held ∧ ρ.doomed = false
  held : ∀ id ∈ ρ.held, id ∈ ρ.made
  made : ∀ id ∈ ρ.made, id ∈ w.created ∧ toI64 id = id
  gone : ∀ id ∈ ρ.gone, id ∈ w.created ∧ ∀ v ∈ w.alive, v.id ≠ id
  listed : ∀ rows, ρ.listed = some rows → ∀ r ∈ rows, r.hetznerServerId ∈ w.created ∧
    ∃ r' ∈ w.servers, r'.id = r.id ∧ r'.hetznerServerId = r.hetznerServerId
  complete : j = .destroy → ρ.ended = false → ∀ rows, ρ.listed = some rows →
    ∀ r ∈ w.liveServers, r.hetznerServerId ∈ rows.map (·.hetznerServerId)
  swept : ρ.swept = true → ρ.listed ≠ none ∧ (j = .destroy → ρ.ended = false → w.liveServers = [])

namespace Accounted

variable {w w' : Cloud} {i : Nat} {j : ClusterJob} {ρ ρ' : RunRecord} {D : Prop}

/-- A run that has not made a call yet. -/
theorem start (h : ∀ v ∈ w.alive, v.run ≠ i) : Accounted w i j {} where
  own := fun v hv hi => absurd hi (h v hv)
  held := nofun
  made := nofun
  gone := nofun
  listed := nofun
  complete := nofun
  swept := nofun

/-- How a call of the run in slot `i` may move its record. -/
structure Updates (w w' : Cloud) (i : Nat) (ρ ρ' : RunRecord) : Prop where
  held : ∀ id ∈ ρ'.held, id ∈ ρ'.made
  made : ∀ id ∈ ρ'.made, id ∈ ρ.made ∨ id ∈ w'.created ∧ toI64 id = id
  kept : ∀ id ∈ ρ.held, id ∈ ρ'.held ∨ w'.hasLiveRow id = true
  doomed : ρ'.doomed = true → ρ.doomed = true ∨ ∀ id ∈ ρ'.held, w'.hasLiveRow id = true
  fresh : ∀ v ∈ w'.alive, v ∉ w.alive → v.run = i → v.id ∈ ρ'.held ∧ ρ'.doomed = false
  gone : ∀ id ∈ ρ'.gone, id ∈ ρ.gone ∨ id ∈ w'.created ∧ ∀ v ∈ w'.alive, v.id ≠ id
  listed : ρ'.listed = ρ.listed ∨ ρ.listed = none ∧ ρ'.listed = some w'.listServers
  swept : ρ'.swept = ρ.swept ∨ ρ'.listed ≠ none ∧ w'.liveServers = []
  ended : ρ'.ended = false → ρ.ended = false

/-- A run of another slot. -/
theorem Updates.refl (h : Accounted w i j ρ) (hfresh : ∀ v ∈ w'.alive, v.run = i → v ∈ w.alive) :
    Updates w w' i ρ ρ where
  held := h.held
  made := fun _ h => .inl h
  kept := fun _ h => .inl h
  doomed := .inl
  fresh := fun v hv hn hi => absurd (hfresh v hv hi) hn
  gone := fun _ h => .inl h
  listed := .inl rfl
  swept := .inl rfl
  ended := id

theorem step (h : Accounted w i j ρ) {n : Nat} (hm : w.Moves n D w') (hw' : w'.Stocked)
    (hu : Updates w w' i ρ ρ') (hD : D → j = .destroy → ρ.ended = false → ρ.listed = none) :
    Accounted w' i j ρ' where
  own := by
    intro v hv hi
    by_cases hold : v ∈ w.alive
    · rcases h.own v hold hi with hrow | ⟨hheld, hdoomed⟩
      · exact .inl (hm.kept v hv hrow)
      · rcases hu.kept v.id hheld with hheld' | hrow
        · cases hd : ρ'.doomed with
          | false => exact .inr ⟨hheld', rfl⟩
          | true =>
            rcases hu.doomed hd with hd' | hrows
            · rw [hd'] at hdoomed
              cases hdoomed
            · exact .inl (hrows v.id hheld')
        · exact .inl hrow
    · exact .inr (hu.fresh v hv hold hi)
  held := hu.held
  made := by
    intro id hid
    rcases hu.made id hid with hid | hid
    · exact ⟨hm.created id (h.made id hid).1, (h.made id hid).2⟩
    · exact hid
  gone := by
    intro id hid
    rcases hu.gone id hid with hid | hid
    · obtain ⟨hcreated, hgone⟩ := h.gone id hid
      refine ⟨hm.created id hcreated, fun v hv hvid => ?_⟩
      rcases hm.fresh v hv with hold | ⟨-, hnew⟩
      · exact hgone v hold hvid
      · exact hnew (hvid ▸ hcreated)
    · exact hid
  listed := by
    intro rows hrows r hr
    rcases hu.listed with hl | ⟨-, hl⟩
    · obtain ⟨hcreated, r', hr', hid, hhid⟩ := h.listed rows (hl ▸ hrows) r hr
      obtain ⟨r'', hr'', hid', hhid'⟩ := hm.rows r' hr'
      exact ⟨hm.created _ hcreated, r'', hr'', hid'.trans hid, hhid'.trans hhid⟩
    · obtain rfl : w'.listServers = rows := by simpa [hl] using hrows
      obtain ⟨r', hr', -, -, hid, hhid⟩ := Cloud.exists_of_mem_listServers hr
      exact ⟨hhid ▸ hw'.rows r' hr', r', hr', hid, hhid⟩
  complete := by
    intro hj hover rows hrows r hr
    rcases hu.listed with hl | ⟨-, hl⟩
    · rw [hl] at hrows
      rcases hm.live with hD' | hlive
      · rw [hD hD' hj (hu.ended hover)] at hrows
        cases hrows
      · obtain ⟨r', hr', hhid⟩ := List.mem_map.mp (hlive r hr)
        exact hhid ▸ h.complete hj (hu.ended hover) rows hrows r' hr'
    · obtain rfl : w'.listServers = rows := by simpa [hl] using hrows
      exact Cloud.hetznerServerId_mem_listServers hr
  swept := by
    intro hswept
    rcases hu.swept with hs | ⟨hl, hnone⟩
    · obtain ⟨hl, hnone⟩ := h.swept (hs ▸ hswept)
      refine ⟨?_, fun hj hover => List.eq_nil_iff_forall_not_mem.mpr fun r hr => ?_⟩
      · rcases hu.listed with hl' | ⟨hl', -⟩
        · rwa [hl']
        · exact absurd hl' hl
      · rcases hm.live with hD' | hlive
        · exact hl (hD hD' hj (hu.ended hover))
        · have hr' := hlive r hr
          rw [hnone hj (hu.ended hover)] at hr'
          cases hr'
    · exact ⟨hl, fun _ _ => hnone⟩

/-- Calls that create nothing and move only the marks of failure. -/
theorem Updates.of_eq (h : Accounted w i j ρ) (halive : ∀ v ∈ w'.alive, v ∈ w.alive)
    (hmade : ρ'.made = ρ.made) (hheld : ρ'.held = ρ.held) (hgone : ρ'.gone = ρ.gone)
    (hlisted : ρ'.listed = ρ.listed) (hswept : ρ'.swept = ρ.swept)
    (hover : ρ'.ended = false → ρ.ended = false)
    (hdoomed : ρ'.doomed = true → ρ.doomed = true ∨ ∀ id ∈ ρ'.held, w'.hasLiveRow id = true) :
    Updates w w' i ρ ρ' where
  held := by
    rw [hheld, hmade]
    exact h.held
  made := fun _ h => .inl (hmade ▸ h)
  kept := fun _ h => .inl (hheld ▸ h)
  doomed := hdoomed
  fresh := fun v hv hn _ => absurd (halive v hv) hn
  gone := fun _ h => .inl (hgone ▸ h)
  listed := .inl hlisted
  swept := .inl hswept
  ended := hover

end Accounted

/-! ## One call -/

section Call

variable {w w' : Cloud} {i : Nat} {j : ClusterJob} {ρ : RunRecord} {D : Prop} {x : Outcome}

/-- What has to be true of a call for the inventory to stay in step with the provider. -/
structure Recordable (w : Cloud) (D : Prop) (x : Outcome) (c : CloudCall) : Prop where
  create : ∀ params, c = .createServer params → x.reply ≠ .lost ∧ x.serverId < 2 ^ 63
  record : ∀ id role a b, c = .recordServer id role a b → x.reply ≠ .failed →
    w.cluster.status ≠ .destroyed ∧ D

theorem execute_moves {c : CloudCall} (h : Accounted w i j ρ) (hw : w.Stocked)
    (hcall : j.Calls ρ c) (himp : w.impossible x c = false) (hreply : x.reply ≠ .failed)
    (hc : Recordable w D x c) : w.Moves i D (w.execute i x c).1 := by
  cases c
  case recordServer hid role a b => exact .recordServer (hc.record _ _ _ _ rfl hreply).2 x hid role a b
  case softDeleteServers =>
    -- every live row is of a server that is gone
    obtain ⟨hj, ⟨rows, hrows, hgone⟩, hover⟩ := hcall
    refine .softDelete (p := ClusterServer.isLive) ?_ rfl rfl rfl
    intro r hr hlive v hv heq
    obtain ⟨r', hr', hid⟩ := List.mem_map.mp
      (h.complete hj hover rows hrows r (Cloud.mem_liveServers.mpr ⟨hr, hlive⟩))
    exact (h.gone _ (hgone r' hr')).2 v hv (heq.trans hid.symm)
  case softDeleteServerRow id =>
    obtain ⟨rows, hrows, r₀, hr₀, rfl, hgone⟩ := hcall
    refine .softDelete (p := fun r => !w.enforceRls && r.id == r₀.id && r.isLive)
      ?_ rfl rfl rfl
    intro r hr hp v hv heq
    obtain ⟨-, r', hr', hid, hhid⟩ := h.listed rows hrows r₀ hr₀
    -- the row is the one that was listed
    have hrid : r.id = r'.id := by
      simp only [Bool.and_eq_true, beq_iff_eq] at hp
      exact hp.1.2.trans hid.symm
    obtain rfl : r = r' := List.inj_on_of_nodup_map hw.ids hr hr' hrid
    exact (h.gone _ hgone).2 v hv (heq.trans hhid)
  case createServer params =>
    have hfresh : x.serverId ∉ w.created := by
      simpa [Cloud.impossible, hreply] using himp
    exact {
      created := fun id hid => List.mem_cons_of_mem _ hid
      fresh := by
        intro v hv
        rcases List.mem_append.mp hv with hv | hv
        · exact .inl hv
        · obtain rfl := List.mem_singleton.mp hv
          exact .inr ⟨rfl, hfresh⟩
      rows := fun r hr => ⟨r, hr, rfl, rfl⟩
      kept := fun _ _ hrow => hrow
      live := .inr fun r hr => List.mem_map_of_mem hr }
  case deleteServer id =>
    simp only [Cloud.execute]
    split
    · exact {
        created := fun _ h => h
        fresh := fun v hv => .inl (List.mem_of_mem_filter hv)
        rows := fun r hr => ⟨r, hr, rfl, rfl⟩
        kept := fun _ _ hrow => hrow
        live := .inr fun r hr => List.mem_map_of_mem hr }
    · exact .of_eq rfl rfl rfl
  case setKubeconfigSecret secretId =>
    simp only [Cloud.execute, Cloud.setKubeconfigSecret]
    split <;> exact .of_eq rfl rfl rfl
  case insertWorkflowRow id =>
    simp only [Cloud.execute]
    split <;> exact .of_eq rfl rfl rfl
  case deleteSecret id =>
    simp only [Cloud.execute]
    split <;> exact .of_eq rfl rfl rfl
  all_goals exact .of_eq rfl rfl rfl

theorem execute_stocked {c : CloudCall} (h : Accounted w i j ρ) (hw : w.Stocked)
    (hcall : j.Calls ρ c) (hreply : x.reply ≠ .failed) (hc : Recordable w D x c) :
    (w.execute i x c).1.Stocked := by
  cases c
  case recordServer hid role a b =>
    obtain ⟨id, hid, rfl⟩ := List.mem_map.mp hcall
    obtain ⟨hcreated, hid64⟩ := h.made id hid
    exact hw.recordServer x role a b (hid64.symm ▸ hcreated) (hc.record _ _ _ _ rfl hreply).1
  case softDeleteServers => exact hw.softDelete (p := ClusterServer.isLive) rfl rfl rfl
  case softDeleteServerRow id =>
    exact hw.softDelete (p := fun r => !w.enforceRls && r.id == id && r.isLive)
      rfl rfl rfl
  case updateStatus status reason =>
    cases status
    case destroyed =>
      obtain ⟨hj, hswept, hover⟩ := hcall
      exact {
        toInventoried := hw.toInventoried.of_eq (fun _ h => h) rfl
        destroyed := fun _ => (h.swept hswept).2 hj hover }
    all_goals exact hw.of_eq rfl rfl nofun
  case createServer params =>
    exact {
      toInventoried := hw.toInventoried.of_eq (fun _ h => List.mem_cons_of_mem _ h) rfl
      destroyed := hw.destroyed }
  case deleteServer id =>
    simp only [Cloud.execute]
    split
    · exact hw.of_eq rfl rfl fun h => h
    · exact hw
  case softDelete =>
    refine hw.of_eq rfl rfl ?_
    show (if _ then _ else _ : Cluster).status = _ → _
    split <;> exact id
  case setKubeconfigSecret secretId =>
    simp only [Cloud.execute, Cloud.setKubeconfigSecret]
    split <;> exact hw.of_eq rfl rfl fun h => h
  case insertWorkflowRow id =>
    simp only [Cloud.execute]
    split <;> exact hw.of_eq rfl rfl fun h => h
  case deleteSecret id =>
    simp only [Cloud.execute]
    split <;> exact hw.of_eq rfl rfl fun h => h
  all_goals exact hw.of_eq rfl rfl fun h => h

/-- A server whose deletion was confirmed is gone. -/
theorem not_alive_of_confirmed {id : Nat} {r : Except HetznerError Unit} {js : List ClusterJob}
    (ha : w.answer i (.deleteServer id) x = some (w', r, js))
    (hr : RunRecord.confirmed r = true) : ∀ v ∈ w'.alive, v.id ≠ id := by
  have hdeleted : ∀ v ∈ (w.execute i x (.deleteServer id)).1.alive, v.id ≠ id := by
    simp only [Cloud.execute]
    split
    · intro v hv
      simpa using (List.mem_filter.mp hv).2
    · next hnone =>
      intro v hv hid
      exact hnone (List.any_eq_true.mpr ⟨v, hv, by simpa using hid⟩)
  obtain ⟨himp, -, ⟨-, rfl, -⟩ | ⟨hreply, rfl, rfl⟩ | ⟨-, rfl, -⟩⟩ := Cloud.answer_cases ha
  · exact hdeleted
  · intro v hv hid
    have hfound : w'.alive.any (·.id == id) = true :=
      List.any_eq_true.mpr ⟨v, hv, by simpa using hid⟩
    have hnot : x.hetznerError.isNotFound = true := hr
    simp [Cloud.impossible, hreply, hnot, hfound] at himp
  · exact hdeleted

/-- Servers come from one call only. -/
theorem alive_subset {c : CloudCall} {r : c.Answer} {js : List ClusterJob}
    (ha : w.answer i c x = some (w', r, js)) (hc : ∀ params, c ≠ .createServer params) :
    ∀ v ∈ w'.alive, v ∈ w.alive := by
  have hexec : ∀ v ∈ (w.execute i x c).1.alive, v ∈ w.alive := by
    cases c
    case createServer params => exact absurd rfl (hc params)
    case deleteServer id =>
      simp only [Cloud.execute]
      split
      · exact fun v hv => List.mem_of_mem_filter hv
      · exact fun v hv => hv
    case recordServer =>
      simp only [Cloud.execute, Cloud.recordServer]
      split
      · exact fun v hv => hv
      split <;> exact fun v hv => hv
    case setKubeconfigSecret =>
      simp only [Cloud.execute, Cloud.setKubeconfigSecret]
      split <;> exact fun v hv => hv
    case insertWorkflowRow =>
      simp only [Cloud.execute]
      split <;> exact fun v hv => hv
    case deleteSecret =>
      simp only [Cloud.execute]
      split <;> exact fun v hv => hv
    all_goals exact fun v hv => hv
  obtain ⟨-, -, ⟨-, rfl, -⟩ | ⟨-, rfl, -⟩ | ⟨-, rfl, -⟩⟩ := Cloud.answer_cases ha
  · exact hexec
  · exact fun v hv => hv
  · exact hexec

theorem createServer_updates {params : CreateServerParams} {r : Except HetznerError Nat}
    {js : List ClusterJob} (h : Accounted w i j ρ) (hcall : ρ.doomed = false)
    (ha : w.answer i (.createServer params) x = some (w', r, js))
    (hc : Recordable w D x (.createServer params))
    (hdoomed : (ρ.next (.createServer params) r).doomed = true →
      ρ.doomed = true ∨ ∀ id ∈ (ρ.next (.createServer params) r).held, w'.hasLiveRow id = true) :
    Accounted.Updates w w' i ρ (ρ.next (.createServer params) r) := by
  obtain ⟨hlost, hid⟩ := hc.create params rfl
  obtain ⟨-, -, ⟨-, rfl, rfl⟩ | ⟨-, rfl, rfl⟩ | ⟨hreply, -⟩⟩ := Cloud.answer_cases ha
  · exact {
      held := by
        intro id hid
        rcases List.mem_cons.mp hid with rfl | hid
        · exact List.mem_cons_self
        · exact List.mem_cons_of_mem _ (h.held id hid)
      made := by
        intro id hid'
        rcases List.mem_cons.mp hid' with rfl | hid'
        · exact .inr ⟨List.mem_cons_self, if_pos hid⟩
        · exact .inl hid'
      kept := fun id hid => .inl (List.mem_cons_of_mem _ hid)
      doomed := fun hd => .inl hd
      fresh := by
        intro v hv hn _
        rcases List.mem_append.mp hv with hv | hv
        · exact absurd hv hn
        · obtain rfl := List.mem_singleton.mp hv
          exact ⟨List.mem_cons_self, hcall⟩
      gone := fun _ h => .inl h
      listed := .inl rfl
      swept := .inl rfl
      ended := fun h => h }
  · exact .of_eq h (fun _ hv => hv) rfl rfl rfl rfl rfl (fun h => h) hdoomed
  · exact absurd hreply hlost

theorem recordServer_updates {hid : Nat} {role : ClusterNodeRole} {a b : Option String}
    {r : Except PlatformError Unit} {js : List ClusterJob} (h : Accounted w i j ρ)
    (ha : w.answer i (.recordServer hid role a b) x = some (w', r, js))
    (hdoomed : (ρ.next (.recordServer hid role a b) r).doomed = true →
      ρ.doomed = true ∨
        ∀ id ∈ (ρ.next (.recordServer hid role a b) r).held, w'.hasLiveRow id = true) :
    Accounted.Updates w w' i ρ (ρ.next (.recordServer hid role a b) r) := by
  have halive := alive_subset ha nofun
  rcases r with e | ⟨⟩
  · exact .of_eq h halive rfl rfl rfl rfl rfl (fun h => h) hdoomed
  · have hrow : w'.hasLiveRow hid = true := by
      obtain ⟨-, -, ⟨-, rfl, hr⟩ | ⟨-, -, hr⟩ | ⟨-, -, hr⟩⟩ := Cloud.answer_cases ha
      · exact Cloud.hasLiveRow_recordServer hr.symm
      · cases hr
      · cases hr
    exact {
      held := fun id hid => h.held id (List.mem_of_mem_filter hid)
      made := fun _ h => .inl h
      kept := by
        intro id hid'
        by_cases heq : toI64 id = hid
        · rw [(h.made id (h.held id hid')).2] at heq
          exact .inr (heq ▸ hrow)
        · exact .inl (List.mem_filter.mpr ⟨hid', by simpa using heq⟩)
      doomed := fun hd => .inl hd
      fresh := fun v hv hn _ => absurd (halive v hv) hn
      gone := fun _ h => .inl h
      listed := .inl rfl
      swept := .inl rfl
      ended := fun h => h }

theorem deleteServer_updates {id : Nat} {r : Except HetznerError Unit} {js : List ClusterJob}
    (h : Accounted w i j ρ) (hm : w.Moves i D w') (hcall : j.Calls ρ (.deleteServer id))
    (ha : w.answer i (.deleteServer id) x = some (w', r, js)) :
    Accounted.Updates w w' i ρ (ρ.next (.deleteServer id) r) := by
  have halive := alive_subset ha nofun
  rw [RunRecord.next]
  split
  · next hconf =>
    obtain ⟨rows, hrows, hid⟩ := hcall
    obtain ⟨r₀, hr₀, rfl⟩ := List.mem_map.mp hid
    exact {
      held := h.held
      made := fun _ h => .inl h
      kept := fun _ h => .inl h
      doomed := .inl
      fresh := fun v hv hn _ => absurd (halive v hv) hn
      gone := by
        intro id hid
        rcases List.mem_cons.mp hid with rfl | hid
        · exact .inr ⟨hm.created _ (h.listed rows hrows r₀ hr₀).1, not_alive_of_confirmed ha hconf⟩
        · exact .inl hid
      listed := .inl rfl
      swept := .inl rfl
      ended := fun h => h }
  · exact .of_eq h halive rfl rfl rfl rfl rfl nofun .inl

theorem listServers_updates {r : Except PlatformError (List ClusterServer)} {js : List ClusterJob}
    (h : Accounted w i j ρ) (hcall : ρ.listed = none)
    (ha : w.answer i .listServers x = some (w', r, js)) :
    Accounted.Updates w w' i ρ (ρ.next .listServers r) := by
  have halive := alive_subset ha nofun
  rcases r with e | servers
  · exact .of_eq h halive rfl rfl rfl rfl rfl (fun h => h) .inl
  · have hrows : servers = w'.listServers := by
      obtain ⟨-, -, ⟨-, rfl, hr⟩ | ⟨-, -, hr⟩ | ⟨-, -, hr⟩⟩ := Cloud.answer_cases ha
      · cases hr
        rfl
      · cases hr
      · cases hr
    exact {
      held := h.held
      made := fun _ h => .inl h
      kept := fun _ h => .inl h
      doomed := .inl
      fresh := fun v hv hn _ => absurd (halive v hv) hn
      gone := fun _ h => .inl h
      listed := .inr ⟨hcall, hrows ▸ rfl⟩
      swept := .inl rfl
      ended := fun h => h }

theorem softDeleteServers_updates {r : Except PlatformError Unit} {js : List ClusterJob}
    (h : Accounted w i j ρ) (hcall : j.Calls ρ .softDeleteServers)
    (ha : w.answer i .softDeleteServers x = some (w', r, js)) :
    Accounted.Updates w w' i ρ (ρ.next .softDeleteServers r) := by
  have halive := alive_subset ha nofun
  rcases r with e | ⟨⟩
  · exact .of_eq h halive rfl rfl rfl rfl rfl nofun .inl
  · obtain ⟨-, ⟨rows, hrows, -⟩, -⟩ := hcall
    have hnone : w'.liveServers = [] := by
      obtain ⟨-, -, ⟨-, rfl, -⟩ | ⟨-, -, hr⟩ | ⟨-, -, hr⟩⟩ := Cloud.answer_cases ha
      · refine List.filter_eq_nil_iff.mpr fun r hr hlive => ?_
        obtain ⟨r', -, rfl⟩ := List.mem_map.mp hr
        split at hlive
        · cases hlive
        · next hdead => exact hdead hlive
      · cases hr
      · cases hr
    exact {
      held := h.held
      made := fun _ h => .inl h
      kept := fun _ h => .inl h
      doomed := .inl
      fresh := fun v hv hn _ => absurd (halive v hv) hn
      gone := fun _ h => .inl h
      listed := .inl rfl
      swept := .inr ⟨by simp [RunRecord.next, hrows], hnone⟩
      ended := fun h => h }

/-- Every other call moves the marks of failure at most. -/
theorem next_updates {c : CloudCall} {r : c.Answer} {js : List ClusterJob}
    (h : Accounted w i j ρ) (hm : w.Moves i D w') (hcall : j.Calls ρ c)
    (ha : w.answer i c x = some (w', r, js)) (hc : Recordable w D x c)
    (hdoomed : (ρ.next c r).doomed = true →
      ρ.doomed = true ∨ ∀ id ∈ (ρ.next c r).held, w'.hasLiveRow id = true) :
    Accounted.Updates w w' i ρ (ρ.next c r) := by
  cases c
  case createServer params => exact createServer_updates h hcall ha hc hdoomed
  case recordServer => exact recordServer_updates h ha hdoomed
  case deleteServer id => exact deleteServer_updates h hm hcall ha
  case listServers => exact listServers_updates h hcall ha
  case softDeleteServers => exact softDeleteServers_updates h hcall ha
  case getServer id =>
    have halive := alive_subset ha nofun
    rcases r with e | ⟨_ | _ | _, ipv4, privateIpv4⟩ <;>
      exact .of_eq h halive rfl rfl rfl rfl rfl (fun h => h) hdoomed
  case updateStatus status reason =>
    refine .of_eq h (alive_subset ha nofun) rfl rfl rfl rfl rfl (fun hover => ?_) hdoomed
    exact (Bool.or_eq_false_iff.mp hover).1
  case sshRun | kubeconfigSecret | softDelete =>
    have halive := alive_subset ha nofun
    rcases r with e | a <;>
      exact .of_eq h halive rfl rfl rfl rfl rfl (by first | exact fun h => h | exact nofun) hdoomed
  all_goals exact .of_eq h (alive_subset ha nofun) rfl rfl rfl rfl rfl (fun h => h) hdoomed

end Call

/-! ## Every run -/

/-- A destroy that relies on the inventory it has read. -/
def underDestruction (t : Thread cloud ClusterJob Unit) : Bool :=
  t.job == .destroy && (RunRecord.ofTrace t.trace).listed.isSome &&
    !(RunRecord.ofTrace t.trace).ended

/-- No reply to a creation is lost, a run is told of a failure only when every server it has
created and not recorded has a row, and no server is recorded while a destroy relies on the
inventory or after the cluster was destroyed. -/
def keepsInventory (s : PoolState cloud Cloud ClusterJob Unit) : Act ClusterJob Outcome → Bool
  | .start _ => true
  | .step i x =>
    match s.nextCall i, s.slot i with
    | some c, some (_, h) =>
      (match s.world.answer i c x with
        | none => true
        | some (w, r, _) =>
          (RunRecord.ofTrace h).doomed || !((RunRecord.ofTrace h).next c r).doomed ||
            ((RunRecord.ofTrace h).next c r).held.all w.hasLiveRow) &&
        match c with
        | .createServer _ => x.reply != .lost && decide (x.serverId < 2 ^ 63)
        | .recordServer .. =>
          x.reply == .failed ||
            (s.world.cluster.status != .destroyed && !s.threads.any underDestruction)
        | _ => true
    | _, _ => true

/-- The servers of an empty slot, and of one with a run. -/
def AccountedSlot (w : Cloud) (i : Nat) : Option (ClusterJob × Trace cloud) → Prop
  | none => ∀ v ∈ w.alive, v.run ≠ i
  | some (j, h) => Accounted w i j (.ofTrace h)

section Runs

variable {s s' : PoolState cloud Cloud ClusterJob Unit} {i : Nat} {x : Outcome} {c : CloudCall}

theorem keepsInventory_step {j : ClusterJob} {h : Trace cloud} {w : Cloud} {r : c.Answer}
    {js : List ClusterJob} (hC : keepsInventory s (.step i x) = true)
    (hnext : s.nextCall i = some c) (hslot : s.slot i = some (j, h))
    (ha : s.world.answer i c x = some (w, r, js)) :
    Recordable s.world (s.threads.any underDestruction = false) x c ∧
      (((RunRecord.ofTrace h).next c r).doomed = true →
        (RunRecord.ofTrace h).doomed = true ∨
          ∀ id ∈ ((RunRecord.ofTrace h).next c r).held, w.hasLiveRow id = true) := by
  simp only [keepsInventory, hnext, hslot, ha, Bool.and_eq_true] at hC
  obtain ⟨hdoomed, hcall⟩ := hC
  constructor
  · constructor
    · rintro params rfl
      simpa using hcall
    · rintro id role a b rfl hreply
      simpa [hreply] using hcall
  · intro hnow
    simpa [hnow] using hdoomed

/-- One call keeps the books of every slot. -/
theorem accounted_call {t : Thread cloud ClusterJob Unit} {w : Cloud} {r : c.Answer}
    {js : List ClusterJob} (hw : s.world.Stocked)
    (hslots : ∀ k, AccountedSlot s.world k (s.slot k)) (ht : s.threads[i]? = some t)
    (hnext : s.nextCall i = some c) (hcall : t.job.Calls (.ofTrace t.trace) c)
    (hC : keepsInventory s (.step i x) = true)
    (ha : s.world.answer i c x = some (w, r, js)) :
    w.Stocked ∧ AccountedSlot w i (some (t.job, t.trace ++ [⟨c, r⟩])) ∧
      ∀ k, k ≠ i → AccountedSlot w k (s.slot k) := by
  have hslot := PoolState.slot_of_getElem? ht
  have hi := hslots i
  rw [hslot] at hi
  obtain ⟨hrec, hdoomed⟩ := keepsInventory_step hC hnext hslot ha
  have hexec : w.Stocked ∧
      s.world.Moves i (s.threads.any underDestruction = false) w := by
    obtain ⟨himp, -, ⟨hreply, rfl, -⟩ | ⟨-, rfl, -⟩ | ⟨hreply, rfl, -⟩⟩ := Cloud.answer_cases ha
    · have hne : x.reply ≠ .failed := by simp [hreply]
      exact ⟨execute_stocked hi hw hcall hne hrec, execute_moves hi hw hcall himp hne hrec⟩
    · exact ⟨hw, .of_eq rfl rfl rfl⟩
    · have hne : x.reply ≠ .failed := by simp [hreply]
      exact ⟨execute_stocked hi hw hcall hne hrec, execute_moves hi hw hcall himp hne hrec⟩
  obtain ⟨hw', hm⟩ := hexec
  -- no slot holds a destroy that relies on the inventory, if a row was added
  have hD : ∀ k j h, s.slot k = some (j, h) → s.threads.any underDestruction = false →
      j = .destroy → (RunRecord.ofTrace h).ended = false → (RunRecord.ofTrace h).listed = none := by
    intro k j h hk hnone hj hover
    obtain ⟨t', ht', heq⟩ := Option.map_eq_some_iff.mp hk
    cases heq
    have := List.any_eq_false.mp hnone t' (List.mem_of_getElem? ht')
    simpa [underDestruction, hj, hover] using this
  refine ⟨hw', ?_, fun k hk => ?_⟩
  · rw [AccountedSlot, RunRecord.ofTrace_append]
    exact hi.step hm hw' (next_updates hi hm hcall ha hrec hdoomed) (hD i _ _ hslot)
  · have hfresh : ∀ v ∈ w.alive, v.run = k → v ∈ s.world.alive := by
      intro v hv hrun
      rcases hm.fresh v hv with hold | ⟨hi, -⟩
      · exact hold
      · exact absurd (hrun.symm.trans hi) hk
    have hslotk := hslots k
    cases hk : s.slot k with
    | none =>
      rw [hk] at hslotk
      exact fun v hv hrun => hslotk v (hfresh v hv hrun) hrun
    | some jh =>
      rw [hk] at hslotk
      exact Accounted.step hslotk hm hw' (.refl hslotk hfresh) (hD k _ _ hk)

/-- In every run inside the condition, whenever nothing is in flight every server that was
created and not deleted has a live row, and a destroyed cluster has no server left. -/
theorem liveRow_of_alive_of_keepsInventory {D : Deployment} {row : Cluster} {created : List Nat}
    {enforceRls : Bool} {as : List (Act ClusterJob Outcome)}
    (hC : (runnerPool D fun _ => true).allSteps keepsInventory
      (Pool.init (.fresh row created enforceRls)) as = true)
    (h : (runnerPool D fun _ => true).exec (Pool.init (.fresh row created enforceRls)) as = some s)
    (hquiet : s.quiet = true) :
    (∀ v ∈ s.world.alive, s.world.hasLiveRow v.id = true) ∧
      (s.world.cluster.status = .destroyed → s.world.alive = []) := by
  have hinit : Pool.Slots (fun j h c => ClusterJob.Calls j (.ofTrace h) c)
      (fun _ h _ => (RunRecord.ofTrace h).Settled) Cloud.Stocked AccountedSlot
      (Pool.init (.fresh row created enforceRls) : PoolState cloud Cloud ClusterJob Unit) :=
    Pool.slots_init ⟨⟨nofun, List.nodup_nil⟩, fun _ => rfl⟩ fun _ => nofun
  have hs := Pool.exec_slots (clusterJob_meets D)
    (fun _ _ _ _ hnone => Accounted.start hnone)
    (fun s i x t c w r js hs hCs ht hnext hcall ha =>
      accounted_call hs.world hs.slot ht hnext hcall hCs ha) hinit hC h
  have hlive : ∀ v ∈ s.world.alive, s.world.hasLiveRow v.id = true := by
    intro v hv
    have hslot := hs.slot v.run
    cases hrun : s.slot v.run with
    | none =>
      rw [hrun] at hslot
      exact absurd rfl (hslot v hv)
    | some jh =>
      obtain ⟨j, h⟩ := jh
      rw [hrun] at hslot
      obtain ⟨-, hsettled⟩ := hs.ended hquiet hrun
      rcases Accounted.own hslot v hv rfl with hrow | ⟨hheld, hdoomed⟩
      · exact hrow
      · rcases hsettled with hnil | hdoomed'
        · rw [hnil] at hheld
          cases hheld
        · rw [hdoomed'] at hdoomed
          cases hdoomed
  refine ⟨hlive, fun hdestroyed => List.eq_nil_iff_forall_not_mem.mpr fun v hv => ?_⟩
  obtain ⟨r, hr, hrlive, -⟩ := Cloud.hasLiveRow_iff.mp (hlive v hv)
  have hmem := Cloud.mem_liveServers.mpr ⟨hr, hrlive⟩
  rw [hs.world.destroyed hdestroyed] at hmem
  cases hmem

end Runs

/-- A cluster that was just inserted, with one worker to come. -/
def pendingCluster : Cluster where
  id := 9
  name := "demo"
  region := "fsn1"
  serverType := "cx22"
  workerCount := 1
  status := .pending
  statusReason := none
  kubeconfigSecretId := none
  deletedAt := none

def demoDeployment : Deployment := ⟨fun _ => 0, 9, ⟨"key", "", "v1.30"⟩⟩

def demoInput : ProvisionClusterInput := ⟨"demo", "fsn1", "cx22", 1, "key", "", "v1.30"⟩

/-- A call that succeeds; `n` tells the ids that are given out apart. -/
def succeeds (n : Nat) : Outcome :=
  { id := n, serverId := n, serverState := ⟨.ready, some "10.0.0.1", none⟩ }

/-- The next `n` calls of the run in slot `i`, all of them successful. -/
def advance (i n : Nat) : List (Act ClusterJob Outcome) :=
  (List.range n).map fun k => .step i (succeeds (100 * i + k))

/-- A provisioning run and a destroy, one after the other, without failures. -/
def provisionAndDestroy : List (Act ClusterJob Outcome) :=
  .start (.provision demoInput) :: advance 0 34 ++ .start .destroy :: advance 1 13

theorem liveRow_of_alive_of_keepsInventory_in_turn :
    ∃ s, (runnerPool demoDeployment fun _ => true).exec
        (Pool.init (.fresh pendingCluster [] true)) provisionAndDestroy = some s ∧
      s.world.created = [15, 5] ∧ s.world.alive = [] := by
  have hrun : ((runnerPool demoDeployment fun _ => true).exec
      (Pool.init (.fresh pendingCluster [] true)) provisionAndDestroy).any
      (fun s => s.quiet && s.world.cluster.status == .destroyed && s.world.created == [15, 5]) =
        true := by decide +kernel
  obtain ⟨s, hs, hend⟩ := (Option.any_eq_true _ _).mp hrun
  simp only [Bool.and_eq_true, beq_iff_eq] at hend
  have hkeeps : (runnerPool demoDeployment fun _ => true).allSteps keepsInventory
      (Pool.init (.fresh pendingCluster [] true)) provisionAndDestroy = true := by decide +kernel
  exact ⟨s, hs, hend.2, (liveRow_of_alive_of_keepsInventory hkeeps hs hend.1.1).2 hend.1.2⟩

/-- The control plane is created, the first look at it fails, and the cluster is
destroyed. -/
def failedProvisionAndDestroy : List (Act ClusterJob Outcome) :=
  .start (.provision demoInput) :: advance 0 8 ++
    .step 0 { reply := .failed } :: advance 0 3 ++ .start .destroy :: advance 1 10

/-- Without that condition a destroyed cluster can leave a server behind. -/
theorem not_liveRow_of_alive :
    ¬ ∀ (D : Deployment) (row : Cluster) (created : List Nat) (enforceRls : Bool)
      (as : List (Act ClusterJob Outcome)) (s : PoolState cloud Cloud ClusterJob Unit),
      (runnerPool D fun _ => true).exec (Pool.init (.fresh row created enforceRls)) as = some s →
      s.quiet = true → (∀ v ∈ s.world.alive, s.world.hasLiveRow v.id = true) ∧
        (s.world.cluster.status = .destroyed → s.world.alive = []) := by
  intro h
  have hrun : ((runnerPool demoDeployment fun _ => true).exec
      (Pool.init (.fresh pendingCluster [] true)) failedProvisionAndDestroy).any
      (fun s => s.quiet && s.world.cluster.status == .destroyed && s.world.alive == [⟨5, 0⟩] &&
        !s.world.hasLiveRow 5) = true := by decide +kernel
  obtain ⟨s, hs, hend⟩ := (Option.any_eq_true _ _).mp hrun
  simp only [Bool.and_eq_true, beq_iff_eq] at hend
  have halive := (h _ _ _ _ _ s hs hend.1.1.1).2 hend.1.1.2
  rw [hend.1.2] at halive
  cases halive

end Kubinate.Clusters
