import Kubinate.Clusters.Chronicle
import Kubinate.Clusters.Orphans
import Kubinate.Clusters.Provisioning
import Kubinate.Clusters.Tenancy

/-!
# What a provisioning leaves in the inventory

The runs that come after a provisioning know its servers from `list_servers` only: a destroy
and a scale-in delete the servers with the listed ids, a scale-out goes to the listed address of
the control plane.

* `IdsRoundTrip`: one row for each server, with its role and its id. That holds as long as the ids fit
  into a `BIGINT`.
* `RoundTrips`: the address is the one that the provider has reported as well.
* `provision_never_roundTrips`: it never is, since the text of an `INET` ends with its netmask.
-/

namespace Kubinate.Clusters

open Platform Library

/-! ## Addresses -/

def ipv4Text (a b c d : Fin 256) : String :=
  toString a.val ++ "." ++ toString b.val ++ "." ++ toString c.val ++ "." ++ toString d.val

def IsIpv4 (address : String) : Prop := ∃ a b c d, address = ipv4Text a b c d

theorem slash_notMem_byte (a : Fin 256) : '/' ∉ (toString a.val).toList := by
  revert a
  decide +kernel

theorem slash_notMem_of_isIpv4 {address : String} (h : IsIpv4 address) :
    '/' ∉ address.toList := by
  obtain ⟨a, b, c, d, rfl⟩ := h
  have ha := slash_notMem_byte a
  have hb := slash_notMem_byte b
  have hc := slash_notMem_byte c
  have hd := slash_notMem_byte d
  simp only [ipv4Text, String.toList_append, List.mem_append, ha, hb, hc, hd, or_false, false_or]
  decide

theorem slash_mem_inetText (address : String) : '/' ∈ (inetText address).toList := by
  unfold inetText
  split
  · next h => exact List.contains_iff_mem.mp h
  · rw [String.toList_append]
    exact List.mem_append_right _ (by decide)

theorem toI64_of_lt {id : Nat} (h : id < 2 ^ 63) : toI64 id = id := if_pos h

theorem toI64_lt (id : Nat) : toI64 id < 2 ^ 63 := by
  unfold toI64
  split
  · assumption
  · decide

/-! ## What is to be read back -/

/-- One row for each server, with its role and its id. -/
def IdsRoundTrip (σ : Course) (w : Cloud) : Prop :=
  (w.listServers.map fun r => (r.role, r.hetznerServerId)).Perm
    (σ.servers.map fun p => (p.1, p.2.id))

/-- One row for each server, with its role, its id and the address that was reported. -/
def RoundTrips (σ : Course) (w : Cloud) : Prop :=
  (w.listServers.map fun r => (r.role, r.hetznerServerId, r.publicIpv4)).Perm
    (σ.servers.map fun p => (p.1, p.2.id, p.2.ipv4))

/-- The provider reports addresses that are addresses. -/
def Reports (s : Chronicle) (c : cloud.Call) (r : cloud.Answer c) (s' : Chronicle) : Prop :=
  Answered s c r s' ∧ ∀ id state, (⟨c, r⟩ : Σ c : cloud.Call, cloud.Answer c) =
    ⟨.getServer id, .ok state⟩ → ∀ address, state.ipv4 = some address → IsIpv4 address

/-- What is known at any moment of what was called and answered so far. -/
structure Told (s : Chronicle) : Prop where
  nodup : ((createdAs s.2).map (·.1)).Nodup
  created : ∀ p ∈ createdAs s.2, p.1 ∈ s.1.created
  addresses : ∀ id state, ⟨.getServer id, .ok state⟩ ∈ s.2 →
    ∀ address, state.ipv4 = some address → IsIpv4 address

namespace Cloud

variable {w w' : Cloud} {i : Nat} {c : CloudCall} {x : Outcome} {r : c.Answer}
  {js : List ClusterJob}

theorem execute_created (c : CloudCall) :
    ∀ id ∈ w.created, id ∈ (w.execute i x c).1.created := by
  intro id hid
  cases c with
  | createServer params => exact List.mem_cons_of_mem _ hid
  | recordServer hetznerServerId role publicIpv4 privateIpv4 =>
    simp only [execute, Cloud.recordServer]
    split
    · exact hid
    split
    · exact hid
    · exact hid
  | setKubeconfigSecret secretId =>
    simp only [execute, setKubeconfigSecret]
    split <;> exact hid
  | insertWorkflowRow id =>
    simp only [execute]
    split <;> exact hid
  | deleteSecret id =>
    simp only [execute]
    split <;> exact hid
  | deleteServer id =>
    simp only [execute]
    split <;> exact hid
  | _ => exact hid

theorem answer_created (h : w.answer i c x = some (w', r, js)) :
    ∀ id ∈ w.created, id ∈ w'.created := by
  obtain ⟨-, -, ⟨-, rfl, -⟩ | ⟨-, rfl, -⟩ | ⟨-, rfl, -⟩⟩ := answer_cases h
  · exact execute_created c
  · exact fun _ h => h
  · exact execute_created c

/-- A server that is given out is a new one. -/
theorem answer_createServer {params : CreateServerParams} {id : Nat}
    (h : w.answer i (.createServer params) x = some (w', .ok id, js)) :
    id ∉ w.created ∧ id ∈ w'.created := by
  obtain ⟨himp, -, ⟨hok, rfl, hr⟩ | ⟨-, -, hr⟩ | ⟨-, -, hr⟩⟩ := answer_cases h
  · obtain rfl : id = x.serverId := Except.ok.inj hr
    refine ⟨?_, List.mem_cons_self⟩
    simpa [impossible, hok] using himp
  · cases hr
  · cases hr

end Cloud

theorem told_nil (w : Cloud) : Told (w, []) where
  nodup := List.nodup_nil
  created := fun _ h => absurd h List.not_mem_nil
  addresses := fun _ _ h => absurd h List.not_mem_nil

theorem Told.step {s s' : Chronicle} {c : cloud.Call} {r : cloud.Answer c} (h : Told s)
    (hstep : Reports s c r s') : Told s' := by
  obtain ⟨⟨⟨i, x, js, hanswer⟩, htrace⟩, haddress⟩ := hstep
  have hkept := Cloud.answer_created hanswer
  have haddresses : ∀ id state, ⟨.getServer id, .ok state⟩ ∈ s'.2 →
      ∀ address, state.ipv4 = some address → IsIpv4 address := by
    intro id state hmem
    rw [htrace] at hmem
    rcases List.mem_append.mp hmem with hmem | hmem
    · exact h.addresses id state hmem
    · exact haddress id state (List.mem_singleton.mp hmem).symm
  have hsame (heq : createdAs s'.2 = createdAs s.2) : Told s' :=
    ⟨heq ▸ h.nodup, fun p hp => hkept _ (h.created p (heq ▸ hp)), haddresses⟩
  by_cases hc : c.isCreation = false
  · exact hsame (htrace ▸ createdAs_concat_of_not hc)
  cases c with
  | createServer params =>
    rcases r with e | id
    · exact hsame (by rw [htrace, createdAs_append]; exact List.append_nil _)
    · obtain ⟨hnew, hmem⟩ := Cloud.answer_createServer hanswer
      have heq : createdAs s'.2 = createdAs s.2 ++ [(id, params.name)] := by
        rw [htrace, createdAs_append]
        rfl
      refine ⟨?_, ?_, haddresses⟩
      · rw [heq, List.map_append, List.nodup_append]
        refine ⟨h.nodup, List.nodup_singleton _, ?_⟩
        intro a ha b hb hab
        obtain ⟨p, hp, rfl⟩ := List.mem_map.mp ha
        obtain rfl := List.mem_singleton.mp hb
        have hold := h.created p hp
        rw [hab] at hold
        exact hnew hold
      · intro p hp
        rw [heq] at hp
        rcases List.mem_append.mp hp with hp | hp
        · exact hkept _ (h.created p hp)
        · rw [List.mem_singleton.mp hp]
          exact hmem
  | _ => exact absurd rfl hc

/-! ## A provisioning -/

section Provision

variable {newV5 : String → Uuid} {clusterId : Uuid} {input : ProvisionClusterInput}

theorem ids_trace (σ : Course) :
    (createdAs (σ.trace newV5 clusterId input)).map (·.1) = σ.servers.map (·.2.id) := by
  have hworkers (ids : List Nat) : ((ids.zipIdx.map fun p =>
      (p.1, workerName input.clusterName p.2)).map (·.1)) = ids := by
    rw [List.map_map]
    exact List.zipIdx_map_fst 0 ids
  rw [createdAs_trace, Course.servers, List.map_cons, List.map_cons, hworkers, List.map_map]
  rfl

/-- What a row says of a server. -/
def ClusterServer.view (r : ClusterServer) : ClusterNodeRole × Nat × Option String :=
  (r.role, r.hetznerServerId, r.publicIpv4)

/-- What is stored of a server. -/
def stored (p : ClusterNodeRole × Boot) : ClusterNodeRole × Nat × Option String :=
  (p.1, toI64 p.2.id, p.2.ipv4)

/-- The rows are of these servers, and of all of them if the ids fit. -/
structure Recorded (σ : Course) (done : List (ClusterNodeRole × Boot)) (w : Cloud) : Prop where
  rows : ∀ r ∈ w.servers, r.isLive = true ∧ ∃ p ∈ done, r.view = stored p
  all : (∀ p ∈ σ.servers, p.2.id < 2 ^ 63) →
    w.servers.map ClusterServer.view = done.map stored

theorem Recorded.concat {σ : Course} {done rest : List (ClusterNodeRole × Boot)}
    {p : ClusterNodeRole × Boot} {w w' : Cloud} {i : Nat} {x : Outcome} {js : List ClusterJob}
    (h : Recorded σ done w) (hσ : σ.servers = done ++ p :: rest)
    (hnodup : (σ.servers.map (·.2.id)).Nodup)
    (hanswer : w.answer i (.recordServer (toI64 p.2.id) p.1 p.2.ipv4 p.2.privateIpv4) x =
      some (w', .ok (), js)) : Recorded σ (done ++ [p]) w' := by
  obtain ⟨-, -, ⟨-, rfl, hok⟩ | ⟨-, -, hr⟩ | ⟨-, -, hr⟩⟩ := Cloud.answer_cases hanswer
  · simp only [Cloud.execute, Cloud.recordServer] at hok ⊢
    split
    · next hlive =>
      -- there is a live row with the number already
      refine ⟨fun r hr => ?_, fun hall => ?_⟩
      · obtain ⟨hlive, q, hq, hview⟩ := h.rows r hr
        exact ⟨hlive, q, List.mem_append_left _ hq, hview⟩
      · obtain ⟨r, hr, hsame⟩ := List.any_eq_true.mp hlive
        rw [Bool.and_eq_true, beq_iff_eq] at hsame
        obtain ⟨-, q, hq, hview⟩ := h.rows r hr
        have hnumber : r.hetznerServerId = toI64 q.2.id := congrArg (·.2.1) hview
        have hmem : q ∈ σ.servers := hσ ▸ List.mem_append_left _ hq
        have hmem' : p ∈ σ.servers := hσ ▸ List.mem_append_right _ List.mem_cons_self
        rw [hsame.2, toI64_of_lt (hall q hmem), toI64_of_lt (hall p hmem')] at hnumber
        rw [hσ, List.map_append, List.map_cons, List.nodup_append] at hnodup
        exact absurd hnumber.symm
          (hnodup.2.2 _ (List.mem_map_of_mem hq) _ List.mem_cons_self)
    · next hlive =>
      rw [if_neg hlive] at hok
      split
      · next hused =>
        rw [if_pos hused] at hok
        cases hok
      · refine ⟨fun r hr => ?_, fun hall => ?_⟩
        · rcases List.mem_append.mp hr with hr | hr
          · obtain ⟨hlive, q, hq, hview⟩ := h.rows r hr
            exact ⟨hlive, q, List.mem_append_left _ hq, hview⟩
          · rw [List.mem_singleton.mp hr]
            exact ⟨rfl, p, List.mem_concat_self, rfl⟩
        · rw [List.map_append, List.map_append, h.all hall]
          rfl
  · cases hr
  · cases hr

variable (newV5 clusterId input)

/-- The workflow has gone this course and these of its servers are recorded. -/
structure Provisioned (w₀ : Cloud) (σ : Course) (done : List (ClusterNodeRole × Boot))
    (s : Chronicle) : Prop where
  deeds : deeds s.2 = σ.trace newV5 clusterId input
  rows : w₀.servers = [] → Recorded σ done s.1

variable {newV5 clusterId input} {w₀ : Cloud} {σ : Course} {s : Chronicle} {α β : Type}

theorem achieves_record {done rest : List (ClusterNodeRole × Boot)} {p : ClusterNodeRole × Boot}
    (h : Provisioned newV5 clusterId input w₀ σ done s) (hσ : σ.servers = done ++ p :: rest)
    (hnodup : (σ.servers.map (·.2.id)).Nodup) :
    Achieves Reports s (recordServer p.1 p.2.server)
      fun s' _ => Provisioned newV5 clusterId input w₀ σ (done ++ [p]) s' := by
  rintro (e | ⟨⟩) s' ⟨⟨⟨i, x, js, hanswer⟩, htrace⟩, -⟩
  · trivial
  · refine ⟨?_, fun hnone => (h.rows hnone).concat hσ hnodup hanswer⟩
    rw [htrace, deeds_concat_of_not rfl]
    exact h.deeds

theorem achieves_provisioned (w₀ : Cloud) :
    Achieves Reports (w₀, []) (runProvision newV5 clusterId input) fun s' _ => Told s' ∧
      ∃ σ : Course, σ.Valid input ∧ Provisioned newV5 clusterId input w₀ σ σ.servers s' := by
  refine (achieves_runProvision (fun _ _ _ _ h => h.1) (fun σ done s =>
      (σ.servers.map (·.2.id)).Nodup ∧ Provisioned newV5 clusterId input w₀ σ done s)
    (fun _ _ _ _ h hstep => h.step hstep) (told_nil w₀) ?_ ?_ ?_).mono fun s' _ hend => ?_
  · intro σ s ht htrace hservers
    refine ⟨?_, htrace, fun hnone => ?_⟩
    · rw [← @ids_trace newV5 clusterId input, ← htrace, createdAs_deeds]
      exact ht.nodup
    · have hempty : s.1.servers = [] := hservers.trans hnone
      exact ⟨fun r hr => absurd (hempty ▸ hr) List.not_mem_nil, fun _ => by rw [hempty]; rfl⟩
  · intro σ done p rest s ⟨hnodup, h⟩ hσ
    exact (achieves_record h hσ hnodup).mono fun s' _ h' => ⟨hnodup, h'⟩
  · intro σ s s' ⟨hnodup, h⟩ hdeeds hservers
    refine ⟨hnodup, hdeeds.trans h.deeds, fun hnone => ?_⟩
    obtain ⟨hall, hfit⟩ := h.rows hnone
    exact ⟨fun r hr => hall r (hservers ▸ hr), fun hlt => hservers ▸ hfit hlt⟩
  · obtain ⟨ht, σ, hσ, -, h⟩ := hend
    exact ⟨ht, σ, hσ, h⟩

theorem not_roundTrips {σ : Course} {w : Cloud} (hhost : σ.controlPlane.ipv4 = some σ.host)
    (haddress : IsIpv4 σ.host) : ¬ RoundTrips σ w := by
  intro h
  have hmem : (ClusterNodeRole.controlPlane, σ.controlPlane.id, some σ.host) ∈
      σ.servers.map fun p => (p.1, p.2.id, p.2.ipv4) := by
    rw [Course.servers, List.map_cons, hhost]
    exact List.mem_cons_self
  obtain ⟨r, hr, heq⟩ := List.mem_map.mp (h.mem_iff.mpr hmem)
  obtain ⟨r', -, rfl⟩ := List.mem_map.mp hr
  have htext : r'.publicIpv4.map inetText = some σ.host := congrArg (·.2.2) heq
  obtain ⟨address, -, htext⟩ := Option.map_eq_some_iff.mp htext
  exact slash_notMem_of_isIpv4 haddress (htext ▸ slash_mem_inetText address)

/-- The address of the control plane was reported by its last poll. -/
theorem isIpv4_host (htold : Told s) (hσ : σ.Valid input)
    (hdeeds : deeds s.2 = σ.trace newV5 clusterId input) : IsIpv4 σ.host := by
  have hpoll : (⟨.getServer σ.controlPlane.id, .ok σ.controlPlane.server.toServerState⟩ :
      Σ c : cloud.Call, cloud.Answer c) ∈ deeds s.2 := by
    rw [hdeeds]
    exact List.mem_cons_of_mem _ (List.mem_append_left _
      (List.mem_map.mpr ⟨_, List.mem_concat_self, rfl⟩))
  exact htold.addresses _ _ (List.mem_of_mem_filter hpoll) _ hσ.host

/-- The rows are all live, so that all are listed. -/
theorem map_listServers {w : Cloud} (hlive : ∀ r ∈ w.servers, r.isLive = true) {β : Type}
    {f g : ClusterServer → β} (hf : ∀ r, f { r with
      publicIpv4 := r.publicIpv4.map inetText, privateIpv4 := r.privateIpv4.map inetText } = g r) :
    (w.listServers.map f).Perm (w.servers.map g) := by
  have hall : w.liveServers = w.servers := List.filter_eq_self.mpr hlive
  rw [Cloud.listServers, List.map_map, hall]
  have hperm := (List.perm_insertionSort (fun a b => a.le b) w.servers).map g
  refine List.Perm.trans (List.Perm.of_eq (List.map_congr_left fun r _ => ?_)) hperm
  exact hf r

theorem idsRoundTrip_iff {σ : Course} {w : Cloud} (h : Recorded σ σ.servers w) :
    IdsRoundTrip σ w ↔ ∀ p ∈ σ.servers, p.2.id < 2 ^ 63 := by
  have hlisted : (w.listServers.map fun r => (r.role, r.hetznerServerId)).Perm
      (w.servers.map fun r => (r.role, r.hetznerServerId)) :=
    map_listServers (fun r hr => (h.rows r hr).1) fun _ => rfl
  constructor
  · intro hall p hp
    have hmem : (p.1, p.2.id) ∈ w.servers.map fun r => (r.role, r.hetznerServerId) :=
      (hlisted.symm.trans hall).mem_iff.mpr (List.mem_map_of_mem hp)
    obtain ⟨r, hr, heq⟩ := List.mem_map.mp hmem
    obtain ⟨-, q, -, hview⟩ := h.rows r hr
    have hnumber : r.hetznerServerId = toI64 q.2.id := congrArg (·.2.1) hview
    have hid : r.hetznerServerId = p.2.id := congrArg (·.2) heq
    rw [← hid, hnumber]
    exact toI64_lt q.2.id
  · intro hfit
    have hrows := congrArg (List.map fun v : ClusterNodeRole × Nat × Option String => (v.1, v.2.1))
      (h.all hfit)
    rw [List.map_map, List.map_map] at hrows
    refine hlisted.trans (List.Perm.of_eq (hrows.trans (List.map_congr_left fun p hp => ?_)))
    exact Prod.ext rfl (toI64_of_lt (hfit p hp))

end Provision

/-- However a provisioning succeeds, the addresses do not come back as they were reported. On a
cluster without rows the servers do, with their roles and ids, iff the ids fit. -/
theorem provision_never_roundTrips (newV5 : String → Uuid) (clusterId : Uuid)
    (input : ProvisionClusterInput) (w : Cloud) :
    Always Reports
      (fun s r => r = .ok () → ∃ σ : Course, σ.Valid input ∧
        deeds s.2 = σ.trace newV5 clusterId input ∧ ¬ RoundTrips σ s.1 ∧
        (w.servers = [] → (IdsRoundTrip σ s.1 ↔ ∀ p ∈ σ.servers, p.2.id < 2 ^ 63)))
      (runProvision newV5 clusterId input).run (w, []) := by
  refine Always.mono (@achieves_provisioned newV5 clusterId input w) ?_
  rintro s (e | ⟨⟩) hend
  · exact nofun
  · intro _
    obtain ⟨htold, σ, hσ, h⟩ := hend
    have hnever := not_roundTrips (w := s.1) hσ.host (isIpv4_host htold hσ h.deeds)
    exact ⟨σ, hσ, h.deeds, hnever, fun hnone => idsRoundTrip_iff (h.rows hnone)⟩

/-- A run whose calls are answered one after the other. -/
theorem leads_of_replay {xs : Nat → Outcome}
    (hx : ∀ n address, (xs n).serverState.ipv4 = some address → IsIpv4 address) {α : Type}
    {p : Program cloud α} {n : Nat} {w w' : Cloud} {h : Trace cloud} {a : α}
    (hrun : p.replay cloudAnswer xs n w = some (w', a)) :
    ∃ h', Leads Reports p (w, h) (w', h') a := by
  induction p generalizing n w h with
  | done b =>
    cases hrun
    exact ⟨h, .done a _⟩
  | call c k ih =>
    rw [Program.replay, Option.bind_eq_some_iff] at hrun
    obtain ⟨⟨v, r⟩, hanswer, hrest⟩ := hrun
    obtain ⟨⟨v', r', js⟩, hanswer, heq⟩ := Option.map_eq_some_iff.mp hanswer
    cases heq
    obtain ⟨h', hleads⟩ := ih r (h := h ++ [⟨c, r⟩]) hrest
    refine ⟨h', .call ⟨⟨⟨0, xs n, js, hanswer⟩, rfl⟩, ?_⟩ hleads⟩
    rintro id state heq address haddress
    cases heq
    obtain ⟨-, -, ⟨-, -, hr⟩ | ⟨-, -, hr⟩ | ⟨-, -, hr⟩⟩ := Cloud.answer_cases hanswer
    · rw [Except.ok.inj hr] at haddress
      exact hx n address haddress
    · cases hr
    · cases hr

/-- A cluster is provisioned and no call fails; the control plane is listed at another address. -/
theorem not_inventory_roundTrips :
    ¬ ∀ (newV5 : String → Uuid) (clusterId : Uuid) (input : ProvisionClusterInput) (w : Cloud)
      (s : Chronicle) (σ : Course), w.servers = [] →
      Leads Reports (runProvision newV5 clusterId input).run (w, []) s (.ok ()) →
      σ.Valid input → deeds s.2 = σ.trace newV5 clusterId input → RoundTrips σ s.1 := by
  intro h
  have hrun : ((runProvision demoDeployment.newV5 9 demoInput).run.replay cloudAnswer succeeds 0
      (.fresh pendingCluster [] false)).any (fun (_, r) => r.isOk) = true := by
    decide +kernel
  obtain ⟨⟨w', r⟩, hrun, hok⟩ := (Option.any_eq_true _ _).mp hrun
  obtain ⟨⟩ | ⟨⟨⟩⟩ := r
  · cases hok
  have haddress (n : Nat) (address : String)
      (hreport : (succeeds n).serverState.ipv4 = some address) : IsIpv4 address := by
    obtain rfl := Option.some.inj hreport
    exact ⟨10, 0, 0, 1, by decide⟩
  obtain ⟨h', hleads⟩ := leads_of_replay (h := []) haddress hrun
  obtain ⟨htold, σ, hσ, hdone⟩ := Always.leads (achieves_provisioned _) hleads
  have hroundTrips := h _ _ _ _ _ σ rfl hleads hσ hdone.deeds
  exact not_roundTrips hσ.host (isIpv4_host htold hσ hdone.deeds) hroundTrips

end Kubinate.Clusters
