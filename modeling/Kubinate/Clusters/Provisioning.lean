import Kubinate.Clusters.Activities

/-!
# The course of a provisioning

What `provision_cluster` does at the provider and on the servers, in which order, and when it
succeeds. The calls that only report the progress are left out of what is compared.

* `Course`: what the provider and the servers answer, as far as it goes well, with `Course.trace`
  for what is called and answered on the way.
* `provisionCluster_course`: however the provider and the executor behave, a run calls what comes
  next on the course of the answers so far, and it succeeds iff it has gone all the way.
-/

namespace Kubinate.Clusters

open Platform Library

/-! ## Courses -/

/-- The calls of a `ProgressSink`. -/
def CloudCall.isProgress : CloudCall → Bool
  | .updateStep .. | .publishStep _ => true
  | _ => false

/-- How a server comes up: what the polls report while it is booting, and its addresses. -/
structure Boot where
  id : Nat
  waits : List ServerState
  ipv4 : Option String
  privateIpv4 : Option String

namespace Boot

def server (b : Boot) : HetznerServer := ⟨⟨.ready, b.ipv4, b.privateIpv4⟩, b.id⟩

/-- The polls of the server, up to the one that reports it as ready. -/
def polls (b : Boot) : Trace cloud :=
  (b.waits ++ [b.server.toServerState]).map fun state => ⟨.getServer b.id, .ok state⟩

structure Valid (b : Boot) : Prop where
  booting : ∀ state ∈ b.waits, state.status = .initializing
  attempts : b.waits.length < cloudInitMaxAttempts

end Boot

/-- How a provisioning goes: the control plane, what was printed by its installation and the
token read there, the workers, what was printed when the first of them joined, and the kubeconfig
if it comes to that. -/
structure Course where
  controlPlane : Boot
  host : String
  installed : String
  token : String
  workers : List Boot
  joined : List (String × String)
  kubeconfig : Option String

def installCommand (k3sVersion : String) : String :=
  "k3sup install --local --k3s-version " ++ shellEscape k3sVersion

def joinCommand (controlPlaneIp joinToken k3sVersion : String) : String :=
  "k3sup join --server-ip " ++ shellEscape controlPlaneIp ++ " --k3s-version " ++
    shellEscape k3sVersion ++ " --token " ++ shellEscape joinToken

def kubeconfigCommand : String := "sudo cat /etc/rancher/k3s/k3s.yaml"

section Courses

variable (newV5 : String → Uuid) (clusterId : Uuid) (input : ProvisionClusterInput)

abbrev createControlPlane : CloudCall :=
  .createServer (controlPlaneParams clusterId input.clusterName input.serverType input.location
    input.sshKey input.userData)

abbrev createWorker (index : Nat) : CloudCall :=
  .createServer (workerParams newV5 clusterId input.clusterName index input.serverType
    input.location input.sshKey input.userData)

def creations (ids : List Nat) : Trace cloud :=
  ids.zipIdx.map fun (id, index) => ⟨createWorker newV5 clusterId input index, .ok id⟩

/-- What is run on the workers that join, and what it prints. -/
def joins (address token : String) (joined : List (String × String)) : Trace cloud :=
  joined.map fun (host, out) =>
    ⟨.sshRun ⟨host, "kubinate"⟩ (joinCommand address token input.k3sVersion), .ok out⟩

namespace Course

/-- The address at which workers find the control plane. -/
def address (σ : Course) : String := σ.controlPlane.privateIpv4.getD σ.host

/-- Create the control plane and poll it; install k3s there and read the token; create the
workers in order, poll each, join each with that token; read the kubeconfig. -/
def trace (σ : Course) : Trace cloud :=
  ⟨createControlPlane clusterId input, .ok σ.controlPlane.id⟩ ::
    (σ.controlPlane.polls ++
      (⟨.sshRun ⟨σ.host, "kubinate"⟩ (installCommand input.k3sVersion), .ok σ.installed⟩ ::
        ⟨.sshRun ⟨σ.host, "kubinate"⟩ joinTokenCommand, .ok σ.token⟩ ::
          (creations newV5 clusterId input (σ.workers.map (·.id)) ++
            (σ.workers.flatMap Boot.polls ++
              (joins input σ.address (trim σ.token) σ.joined ++
                σ.kubeconfig.toList.map fun raw =>
                  ⟨.sshRun ⟨σ.host, "kubinate"⟩ kubeconfigCommand, .ok raw⟩)))))

/-- What is returned when the control plane prints this kubeconfig. -/
def output (σ : Course) (raw : String) : ProvisionClusterOutput where
  controlPlane := σ.controlPlane.server
  workers := σ.workers.map Boot.server
  kubeconfig := replace raw "https://127.0.0.1:6443" ("https://" ++ σ.host ++ ":6443")

/-- The servers come up; the control plane has an address, and so have the workers that join,
which do so in order; only when all have joined the kubeconfig is read. -/
structure Valid (σ : Course) : Prop where
  controlPlane : σ.controlPlane.Valid
  host : σ.controlPlane.ipv4 = some σ.host
  workers : ∀ b ∈ σ.workers, b.Valid
  count : σ.workers.length = input.workerCount
  joined : (σ.joined.map fun p => some p.1) <+: σ.workers.map (·.ipv4)
  collected : σ.kubeconfig.isSome = true → σ.joined.length = input.workerCount

variable {newV5 clusterId input}

/-- On a course that goes all the way every worker has an address. -/
theorem Valid.addresses {σ : Course} (hσ : σ.Valid input) (hall : σ.kubeconfig.isSome = true) :
    ∀ b ∈ σ.workers, b.ipv4.isSome = true := by
  intro b hb
  have heq : (σ.joined.map fun p => some p.1) = σ.workers.map (·.ipv4) := by
    refine hσ.joined.eq_of_length ?_
    rw [List.length_map, List.length_map, hσ.collected hall, hσ.count]
  have hmem : b.ipv4 ∈ σ.joined.map fun p => some p.1 := heq ▸ List.mem_map_of_mem hb
  obtain ⟨p, -, hp⟩ := List.mem_map.mp hmem
  rw [← hp]
  rfl

end Course

variable {newV5 clusterId input}

theorem creations_concat (ids : List Nat) (id : Nat) :
    creations newV5 clusterId input (ids ++ [id]) = creations newV5 clusterId input ids ++
      [⟨createWorker newV5 clusterId input ids.length, .ok id⟩] := by
  simp [creations, List.zipIdx_append]

theorem creations_cons (ids more : List Nat) (id : Nat) : ∃ rest,
    creations newV5 clusterId input (ids ++ id :: more) = creations newV5 clusterId input ids ++
      ⟨createWorker newV5 clusterId input ids.length, .ok id⟩ :: rest := by
  rw [creations, List.zipIdx_append, List.map_append, Nat.zero_add]
  exact ⟨_, rfl⟩

end Courses

/-! ## A run -/

/-- What was called and answered, the reports of the progress left out. -/
def effects (h : Trace cloud) : Trace cloud := h.filter fun e => !e.1.isProgress

def record (τ : Trace cloud) (c : cloud.Call) (r : cloud.Answer c) : Trace cloud :=
  if c.isProgress then τ else τ ++ [⟨c, r⟩]

theorem effects_append (h : Trace cloud) (c : cloud.Call) (r : cloud.Answer c) :
    effects (h ++ [⟨c, r⟩]) = record (effects h) c r := by
  unfold effects record
  rw [List.filter_append]
  by_cases hc : c.isProgress = true
  · rw [if_pos hc, List.filter_cons_of_neg (by simpa using hc), List.filter_nil, List.append_nil]
  · rw [if_neg hc, List.filter_cons_of_pos (by simpa using hc), List.filter_nil]

/-- A server that is booting or is up with an address, and a call that does not fail. -/
def Fine : (Σ c : CloudCall, c.Answer) → Prop
  | ⟨.createServer _, r⟩ => ∃ id, r = .ok id
  | ⟨.getServer _, r⟩ => ∃ state, r = .ok state ∧
      (state.status = .initializing ∨ state.status = .ready ∧ state.ipv4.isSome = true)
  | ⟨.sshRun .., r⟩ => ∃ out, r = .ok out
  | _ => True

/-- A run that has not gone all the way: something went wrong, or it has only waited. -/
def Stuck (τ : Trace cloud) : Prop :=
  (∃ e ∈ τ, ¬ Fine e) ∨ ∃ id r, τ.getLast? = some ⟨.getServer id, r⟩

section Walk

variable {newV5 : String → Uuid} {clusterId : Uuid} {input : ProvisionClusterInput}

variable (newV5 clusterId input)

/-- A report of the progress, or what comes next on a course with the answers so far. -/
def OnCourse (τ : Trace cloud) (c : cloud.Call) : Prop :=
  c.isProgress = true ∨ ∃ σ : Course, σ.Valid input ∧
    ∃ r : cloud.Answer c, τ ++ [⟨c, r⟩] <+: σ.trace newV5 clusterId input

/-- The activity keeps to the course: it ends in `A`, or stuck. -/
def KeepsTo {α : Type} (τ : Trace cloud) (p : Activity α) (A : Trace cloud → α → Prop) : Prop :=
  Follows record (OnCourse newV5 clusterId input) (Post A fun τ' _ => Stuck τ') p.run τ

variable {newV5 clusterId input} {α β : Type} {τ : Trace cloud}

theorem keepsTo_bind {p : Activity α} {f : α → Activity β} {A : Trace cloud → α → Prop}
    {B : Trace cloud → β → Prop} (hp : KeepsTo newV5 clusterId input τ p A)
    (hf : ∀ τ' a, A τ' a → KeepsTo newV5 clusterId input τ' (f a) B) :
    KeepsTo newV5 clusterId input τ (p >>= f) B :=
  follows_bindE hp hf fun _ _ h => h

theorem KeepsTo.mono {p : Activity α} {A B : Trace cloud → α → Prop}
    (hp : KeepsTo newV5 clusterId input τ p A) (hAB : ∀ τ' a, A τ' a → B τ' a) :
    KeepsTo newV5 clusterId input τ p B := by
  refine Follows.mono hp ?_
  rintro τ' (e | a) h
  · exact h
  · exact hAB τ' a h

/-- A loop that collects: `K` holds with what is left and with what was collected. -/
theorem keepsTo_mapM {f : α → Activity β} (K : List α → List β → Trace cloud → Prop)
    (hf : ∀ a l bs τ', K (a :: l) bs τ' →
      KeepsTo newV5 clusterId input τ' (f a) fun τ'' b => K l (bs ++ [b]) τ'')
    (l : List α) (h : K l [] τ) :
    KeepsTo newV5 clusterId input τ (l.mapM f) fun τ' bs => K [] bs τ' :=
  follows_mapM hf l [] h

/-- A loop: `K` holds with what is left. -/
theorem keepsTo_forM {f : α → Activity PUnit} (K : List α → Trace cloud → Prop)
    (hf : ∀ a l τ', K (a :: l) τ' → KeepsTo newV5 clusterId input τ' (f a) fun τ'' _ => K l τ'')
    (l : List α) (h : K l τ) : KeepsTo newV5 clusterId input τ (l.forM f) fun τ' _ => K [] τ' :=
  follows_forM hf l h

theorem keepsTo_progress {workflowId : Uuid} (step : String) :
    KeepsTo newV5 clusterId input τ (ExceptT.lift (workflowProgress workflowId step))
      fun τ' _ => τ' = τ := by
  refine follows_lift ⟨.inl rfl, fun r => ⟨.inl rfl, fun _ => ?_⟩⟩
  rfl

theorem stuck_concat {e : Σ c : CloudCall, c.Answer} (h : ¬ Fine e) : Stuck (τ ++ [e]) :=
  .inl ⟨e, List.mem_concat_self, h⟩

theorem keepsTo_sshRun {target : SshTarget} {command : String}
    (h : OnCourse newV5 clusterId input τ (.sshRun target command)) :
    KeepsTo newV5 clusterId input τ (sshRun target command)
      fun τ' out => τ' = τ ++ [⟨.sshRun target command, .ok out⟩] := by
  refine ⟨h, fun r => ?_⟩
  rcases r with e | out
  · exact stuck_concat fun hfine => by cases hfine.choose_spec
  · rfl

theorem keepsTo_createServer {params : CreateServerParams}
    (h : OnCourse newV5 clusterId input τ (.createServer params)) :
    KeepsTo newV5 clusterId input τ (hetznerCreateServer params)
      fun τ' id => τ' = τ ++ [⟨.createServer params, .ok id⟩] := by
  refine ⟨h, fun r => ?_⟩
  rcases r with e | id
  · exact stuck_concat fun hfine => by cases hfine.choose_spec
  · rfl

/-- The polls: at most `cloudInitMaxAttempts`, of which `n` are left. -/
theorem keepsTo_poll (id n : Nat) (waits : List ServerState)
    (hn : waits.length + n = cloudInitMaxAttempts)
    (hbooting : ∀ state ∈ waits, state.status = .initializing)
    (hnext : ∀ waits : List ServerState, (∀ state ∈ waits, state.status = .initializing) →
      waits.length < cloudInitMaxAttempts → OnCourse newV5 clusterId input
        (τ ++ waits.map fun state => ⟨.getServer id, .ok state⟩) (.getServer id)) :
    KeepsTo newV5 clusterId input (τ ++ waits.map fun state => ⟨.getServer id, .ok state⟩)
      (pollCloudInit id n) fun τ' server =>
        ∃ b : Boot, b.Valid ∧ b.id = id ∧ server = b.server ∧ τ' = τ ++ b.polls := by
  induction n generalizing waits with
  | zero =>
    -- all polls have been used up
    rcases List.eq_nil_or_concat' waits with rfl | ⟨before, state, rfl⟩
    · cases hn
    · refine .inr ⟨id, .ok state, ?_⟩
      rw [List.map_append, ← List.append_assoc]
      exact List.getLast?_concat
  | succ n ih =>
    have hlt : waits.length < cloudInitMaxAttempts := by omega
    refine ⟨hnext waits hbooting hlt, fun r => ?_⟩
    rcases r with e | ⟨_ | _ | _, ipv4, privateIpv4⟩
    · exact stuck_concat fun hfine => by cases hfine.choose_spec.1
    · refine ⟨⟨id, waits, ipv4, privateIpv4⟩, ⟨hbooting, hlt⟩, rfl, rfl, ?_⟩
      show _ ++ [_] = _
      rw [Boot.polls, List.map_append, List.append_assoc]
      rfl
    · have hmore := ih (waits ++ [⟨.initializing, ipv4, privateIpv4⟩])
        (by rw [List.length_append, List.length_singleton]; omega) fun state hstate => by
          rcases List.mem_append.mp hstate with hstate | hstate
          · exact hbooting state hstate
          · rw [List.mem_singleton.mp hstate]
      rw [List.map_append, ← List.append_assoc] at hmore
      exact hmore
    · exact stuck_concat fun hfine => by
        obtain ⟨state, hstate, hstatus⟩ := hfine
        cases hstate
        rcases hstatus with hstatus | ⟨hstatus, -⟩
        · cases hstatus
        · cases hstatus

theorem keepsTo_waitForCloudInit (id : Nat)
    (hnext : ∀ waits : List ServerState, (∀ state ∈ waits, state.status = .initializing) →
      waits.length < cloudInitMaxAttempts → OnCourse newV5 clusterId input
        (τ ++ waits.map fun state => ⟨.getServer id, .ok state⟩) (.getServer id)) :
    KeepsTo newV5 clusterId input τ (waitForCloudInit id) fun τ' server =>
      ∃ b : Boot, b.Valid ∧ b.id = id ∧ server = b.server ∧ τ' = τ ++ b.polls := by
  have hpoll := keepsTo_poll id cloudInitMaxAttempts [] (Nat.zero_add _)
    (fun _ h => absurd h List.not_mem_nil) hnext
  rwa [List.map_nil, List.append_nil] at hpoll

/-- A server that is up without an address is of no use. -/
theorem keepsTo_sshTarget {b : Boot} (hmem : ∀ e ∈ b.polls, e ∈ τ) :
    KeepsTo newV5 clusterId input τ (sshTarget b.server) fun τ' target =>
      τ' = τ ∧ ∃ host, b.ipv4 = some host ∧ target = ⟨host, "kubinate"⟩ := by
  unfold sshTarget
  split
  · next host hhost => exact ⟨rfl, host, hhost, rfl⟩
  · next hnone =>
    refine .inl ⟨⟨.getServer b.id, .ok b.server.toServerState⟩, hmem _ ?_, ?_⟩
    · exact List.mem_map.mpr ⟨_, List.mem_concat_self, rfl⟩
    · rintro ⟨state, hstate, hstatus⟩
      cases hstate
      rcases hstatus with hstatus | ⟨-, hsome⟩
      · cases hstatus
      · rw [hnone] at hsome
        cases hsome

/-! ### Loops over the workers -/

theorem keepsTo_createWorkers
    (hnext : ∀ ids : List Nat, ids.length < input.workerCount →
      OnCourse newV5 clusterId input (τ ++ creations newV5 clusterId input ids)
        (createWorker newV5 clusterId input ids.length)) :
    KeepsTo newV5 clusterId input τ
      ((List.range input.workerCount).mapM fun index =>
        hetznerCreateServer (workerParams newV5 clusterId input.clusterName index input.serverType
          input.location input.sshKey input.userData))
      fun τ' ids => ids.length = input.workerCount ∧
        τ' = τ ++ creations newV5 clusterId input ids := by
  refine (keepsTo_mapM (fun l ids τ' => ids.length + l.length = input.workerCount ∧
    l = List.range' ids.length l.length ∧ τ' = τ ++ creations newV5 clusterId input ids) ?_
    (List.range input.workerCount) ?_).mono fun τ' ids h => ⟨h.1, h.2.2⟩
  · rintro index l ids τ' ⟨hlength, hrange, rfl⟩
    rw [List.length_cons, List.range'_succ, List.cons.injEq] at hrange
    obtain ⟨rfl, hl⟩ := hrange
    rw [List.length_cons] at hlength
    refine (keepsTo_createServer (hnext ids (by omega))).mono fun τ'' id h => ?_
    refine ⟨by rw [List.length_append, List.length_singleton]; omega, ?_, ?_⟩
    · rw [List.length_append, List.length_singleton]
      exact hl
    · rw [creations_concat, ← List.append_assoc]
      exact h
  · refine ⟨by simp, ?_, by simp [creations]⟩
    rw [List.length_range, List.range_eq_range']
    rfl

theorem keepsTo_waitForWorkers (ids : List Nat)
    (hnext : ∀ bs : List Boot, (∀ b ∈ bs, b.Valid) → ∀ id rest,
      ids = bs.map (·.id) ++ id :: rest → ∀ waits : List ServerState,
      (∀ state ∈ waits, state.status = .initializing) → waits.length < cloudInitMaxAttempts →
      OnCourse newV5 clusterId input
        (τ ++ bs.flatMap Boot.polls ++ waits.map fun state => ⟨.getServer id, .ok state⟩)
        (.getServer id)) :
    KeepsTo newV5 clusterId input τ (ids.mapM waitForCloudInit) fun τ' servers =>
      ∃ bs : List Boot, (∀ b ∈ bs, b.Valid) ∧ bs.map Boot.server = servers ∧
        bs.map (·.id) = ids ∧ τ' = τ ++ bs.flatMap Boot.polls := by
  refine (keepsTo_mapM (fun l servers τ' => ∃ bs : List Boot, (∀ b ∈ bs, b.Valid) ∧
    bs.map Boot.server = servers ∧ ids = bs.map (·.id) ++ l ∧ τ' = τ ++ bs.flatMap Boot.polls)
    ?_ ids ?_).mono ?_
  · rintro id rest servers τ' ⟨bs, hbs, hservers, hids, rfl⟩
    refine (keepsTo_waitForCloudInit id (hnext bs hbs id rest hids)).mono fun τ'' server h => ?_
    obtain ⟨b, hb, hid, rfl, rfl⟩ := h
    refine ⟨bs ++ [b], ?_, ?_, ?_, ?_⟩
    · intro b' hb'
      rcases List.mem_append.mp hb' with hb' | hb'
      · exact hbs b' hb'
      · rw [List.mem_singleton.mp hb']
        exact hb
    · rw [List.map_append, hservers]
      rfl
    · rw [hids, List.map_append, List.append_assoc, ← hid]
      rfl
    · rw [List.flatMap_append, List.flatMap_singleton, List.append_assoc]
  · exact ⟨[], fun _ h => absurd h List.not_mem_nil, rfl, rfl, (List.append_nil _).symm⟩
  · rintro τ' servers ⟨bs, hbs, hservers, hids, hτ⟩
    rw [List.append_nil] at hids
    exact ⟨bs, hbs, hservers, hids.symm, hτ⟩

theorem keepsTo_joinWorkers (bs : List Boot) (address token : String)
    (hmem : ∀ b ∈ bs, ∀ e ∈ b.polls, e ∈ τ)
    (hnext : ∀ before b rest joined host, bs = before ++ b :: rest →
      before.map (·.ipv4) = (joined.map fun p => some p.1) → b.ipv4 = some host →
      OnCourse newV5 clusterId input (τ ++ joins input address token joined)
        (.sshRun ⟨host, "kubinate"⟩ (joinCommand address token input.k3sVersion))) :
    KeepsTo newV5 clusterId input τ
      (joinWorkers (bs.map Boot.server) address token input.k3sVersion)
      fun τ' _ => ∃ joined : List (String × String),
        bs.map (·.ipv4) = (joined.map fun p => some p.1) ∧
          τ' = τ ++ joins input address token joined := by
  refine (keepsTo_forM (fun l τ' => ∃ before rest joined, bs = before ++ rest ∧
    l = rest.map Boot.server ∧ before.map (·.ipv4) = (joined.map fun p => some p.1) ∧
    τ' = τ ++ joins input address token joined) ?_ (bs.map Boot.server) ?_).mono ?_
  · rintro worker l τ' ⟨before, rest, joined, hbs, hrest, hjoined, rfl⟩
    obtain ⟨b, rest, rfl, rfl, rfl⟩ : ∃ b rest', rest = b :: rest' ∧ b.server = worker ∧
        rest'.map Boot.server = l := by
      cases rest with
      | nil => cases hrest
      | cons b rest =>
        rw [List.map_cons, List.cons.injEq] at hrest
        exact ⟨b, rest, rfl, hrest.1.symm, hrest.2.symm⟩
    have hb : b ∈ bs := hbs ▸ List.mem_append_right _ List.mem_cons_self
    refine keepsTo_bind (keepsTo_sshTarget fun e he => List.mem_append_left _ (hmem b hb e he)) ?_
    rintro τ'' target ⟨rfl, host, hhost, rfl⟩
    refine keepsTo_bind (keepsTo_sshRun (hnext before b rest joined host hbs hjoined hhost))
      fun τ₃ out hτ₃ => ?_
    refine ⟨before ++ [b], rest, joined ++ [(host, out)], ?_, rfl, ?_, ?_⟩
    · rw [hbs, List.append_assoc]
      rfl
    · rw [List.map_append, List.map_append, hjoined, List.map_singleton, hhost]
      rfl
    · rw [joins, List.map_append, ← List.append_assoc]
      exact hτ₃
  · exact ⟨[], bs, [], rfl, rfl, rfl, (List.append_nil _).symm⟩
  · rintro τ' - ⟨before, rest, joined, hbs, hrest, hjoined, hτ⟩
    obtain rfl : rest = [] := List.map_eq_nil_iff.mp hrest.symm
    rw [List.append_nil] at hbs
    subst hbs
    exact ⟨joined, hjoined, hτ⟩

/-! ### The whole run -/

/-- What was called until the token of the control plane was read. -/
def opening (clusterId : Uuid) (input : ProvisionClusterInput) (cp : Boot)
    (host installed token : String) : Trace cloud :=
  ⟨createControlPlane clusterId input, .ok cp.id⟩ :: (cp.polls ++
    [⟨.sshRun ⟨host, "kubinate"⟩ (installCommand input.k3sVersion), .ok installed⟩,
      ⟨.sshRun ⟨host, "kubinate"⟩ joinTokenCommand, .ok token⟩])

theorem Course.trace_eq (σ : Course) : σ.trace newV5 clusterId input =
    opening clusterId input σ.controlPlane σ.host σ.installed σ.token ++
      creations newV5 clusterId input (σ.workers.map (·.id)) ++ σ.workers.flatMap Boot.polls ++
        joins input σ.address (trim σ.token) σ.joined ++ σ.kubeconfig.toList.map fun raw =>
          ⟨.sshRun ⟨σ.host, "kubinate"⟩ kubeconfigCommand, .ok raw⟩ := by
  simp only [Course.trace, opening, List.cons_append, List.append_assoc, List.nil_append]

theorem onCourse_of {σ : Course} (hσ : σ.Valid input) {c : cloud.Call} {r : cloud.Answer c}
    (htrace : ∃ rest, σ.trace newV5 clusterId input = τ ++ ⟨c, r⟩ :: rest) :
    OnCourse newV5 clusterId input τ c := by
  obtain ⟨rest, htrace⟩ := htrace
  refine .inr ⟨σ, hσ, r, ?_⟩
  rw [htrace]
  exact List.prefix_append_right_inj _ |>.mpr ⟨rest, rfl⟩

/-- Servers of which nothing is known but their numbers. -/
def blanks (ids : List Nat) : List Boot := ids.map fun id => ⟨id, [], none, none⟩

theorem valid_blanks (ids : List Nat) : ∀ b ∈ blanks ids, b.Valid := by
  intro b hb
  obtain ⟨id, -, rfl⟩ := List.mem_map.mp hb
  exact ⟨fun _ h => absurd h List.not_mem_nil, Nat.succ_pos 59⟩

theorem ids_blanks (ids : List Nat) : (blanks ids).map (·.id) = ids := by
  rw [blanks, List.map_map]
  exact List.map_id ids

theorem length_blanks (ids : List Nat) : (blanks ids).length = ids.length := List.length_map _

/-- A course on which no worker has joined. -/
theorem valid_unjoined {cp : Boot} {host : String} (hcp : cp.Valid) (hhost : cp.ipv4 = some host)
    (installed token : String) {workers : List Boot} (hworkers : ∀ b ∈ workers, b.Valid)
    (hcount : workers.length = input.workerCount) :
    (Course.mk cp host installed token workers [] none).Valid input where
  controlPlane := hcp
  host := hhost
  workers := hworkers
  count := hcount
  joined := List.nil_prefix
  collected := nofun

/-- A course on which nothing is known of the workers. -/
theorem valid_early {cp : Boot} {host : String} (hcp : cp.Valid) (hhost : cp.ipv4 = some host)
    (installed token : String) :
    (Course.mk cp host installed token (blanks (List.replicate input.workerCount 0)) []
      none).Valid input :=
  valid_unjoined hcp hhost installed token (valid_blanks _) (by
    rw [length_blanks, List.length_replicate])

theorem keepsTo_controlPlane :
    KeepsTo newV5 clusterId input []
      (hetznerCreateServer (controlPlaneParams clusterId input.clusterName input.serverType
        input.location input.sshKey input.userData))
      fun τ' id => τ' = [⟨createControlPlane clusterId input, .ok id⟩] := by
  have hcp : (Boot.mk 0 [] (some "") none).Valid :=
    ⟨fun _ h => absurd h List.not_mem_nil, Nat.succ_pos 59⟩
  exact keepsTo_createServer (onCourse_of (valid_early hcp rfl "" "") ⟨_, rfl⟩)

theorem keepsTo_bootControlPlane (id : Nat) :
    KeepsTo newV5 clusterId input [⟨createControlPlane clusterId input, .ok id⟩]
      (waitForCloudInit id) fun τ' server => ∃ b : Boot, b.Valid ∧ b.id = id ∧
        server = b.server ∧ τ' = [⟨createControlPlane clusterId input, .ok id⟩] ++ b.polls := by
  refine keepsTo_waitForCloudInit id fun waits hbooting hlt => ?_
  have hcp : (Boot.mk id waits (some "") none).Valid := ⟨hbooting, hlt⟩
  refine onCourse_of (valid_early hcp rfl "" "")
    (r := (.ok ⟨.ready, some "", none⟩ : Except HetznerError ServerState)) ?_
  constructor
  rw [Course.trace, Boot.polls, List.map_append, List.append_assoc]
  rfl

theorem keepsTo_installServer {cp : Boot} {host : String} (hcp : cp.Valid)
    (hhost : cp.ipv4 = some host) :
    KeepsTo newV5 clusterId input
      (⟨createControlPlane clusterId input, .ok cp.id⟩ :: cp.polls)
      (sshInstallK3sServer ⟨host, "kubinate"⟩ input.k3sVersion) fun τ' joinToken =>
        ∃ installed token, joinToken = trim token ∧
          τ' = opening clusterId input cp host installed token := by
  have hrun : sshInstallK3sServer ⟨host, "kubinate"⟩ input.k3sVersion =
      sshRun ⟨host, "kubinate"⟩ (installCommand input.k3sVersion) >>= fun _ =>
        sshRun ⟨host, "kubinate"⟩ joinTokenCommand >>= fun token => pure (trim token) := rfl
  rw [hrun]
  refine keepsTo_bind (keepsTo_sshRun (onCourse_of (valid_early hcp hhost "" "") ⟨_, rfl⟩))
    fun τ₁ installed h₁ => ?_
  subst h₁
  refine keepsTo_bind (keepsTo_sshRun ?_) fun τ₂ token h₂ => ?_
  · refine onCourse_of (valid_early hcp hhost installed "")
      (r := (.ok "" : Except SshError String)) ?_
    constructor
    rw [Course.trace, List.cons_append, List.cons_append, List.append_assoc]
    rfl
  · refine ⟨installed, token, rfl, ?_⟩
    rw [h₂, List.cons_append, List.cons_append, List.append_assoc]
    rfl

section Workers

variable {cp : Boot} {host : String} (hcp : cp.Valid) (hhost : cp.ipv4 = some host)
  (installed token : String)

include hcp hhost

theorem keepsTo_allWorkers :
    KeepsTo newV5 clusterId input (opening clusterId input cp host installed token)
      ((List.range input.workerCount).mapM fun index =>
        hetznerCreateServer (workerParams newV5 clusterId input.clusterName index input.serverType
          input.location input.sshKey input.userData))
      fun τ' ids => ids.length = input.workerCount ∧
        τ' = opening clusterId input cp host installed token ++
          creations newV5 clusterId input ids := by
  refine keepsTo_createWorkers fun ids hlt => ?_
  obtain ⟨n, hn⟩ := Nat.exists_eq_add_of_lt hlt
  have hcount : (blanks (ids ++ 0 :: List.replicate n 0)).length = input.workerCount := by
    rw [length_blanks, List.length_append, List.length_cons, List.length_replicate]
    omega
  have hσ := valid_unjoined hcp hhost installed token (valid_blanks _) hcount
  obtain ⟨rest, hrest⟩ := @creations_cons newV5 clusterId input ids (List.replicate n 0) 0
  refine onCourse_of hσ (r := (.ok 0 : Except HetznerError Nat)) ?_
  constructor
  rw [Course.trace_eq, ids_blanks, hrest]
  simp only [List.append_assoc]
  rfl

theorem keepsTo_bootWorkers {ids : List Nat} (hids : ids.length = input.workerCount) :
    KeepsTo newV5 clusterId input
      (opening clusterId input cp host installed token ++ creations newV5 clusterId input ids)
      (ids.mapM waitForCloudInit) fun τ' servers =>
        ∃ bs : List Boot, (∀ b ∈ bs, b.Valid) ∧ bs.map Boot.server = servers ∧
          bs.map (·.id) = ids ∧ τ' = opening clusterId input cp host installed token ++
            creations newV5 clusterId input ids ++ bs.flatMap Boot.polls := by
  refine keepsTo_waitForWorkers ids fun bs hbs id rest hrest waits hbooting hlt => ?_
  have hworkers : ∀ b ∈ bs ++ ⟨id, waits, some "", none⟩ :: blanks rest, b.Valid := by
    intro b hb
    rcases List.mem_append.mp hb with hb | hb
    · exact hbs b hb
    · rcases List.mem_cons.mp hb with rfl | hb
      · exact ⟨hbooting, hlt⟩
      · exact valid_blanks rest b hb
  have hlength : ids.length = bs.length + (rest.length + 1) := by
    rw [hrest, List.length_append, List.length_map, List.length_cons]
  have hcount : (bs ++ Boot.mk id waits (some "") none :: blanks rest).length =
      input.workerCount := by
    rw [List.length_append, List.length_cons, length_blanks]
    omega
  have hσ := valid_unjoined hcp hhost installed token hworkers hcount
  have hnumbers : (bs ++ Boot.mk id waits (some "") none :: blanks rest).map (·.id) = ids := by
    rw [List.map_append, List.map_cons, ids_blanks, hrest]
  refine onCourse_of hσ (r := (.ok ⟨.ready, some "", none⟩ : Except HetznerError ServerState)) ?_
  constructor
  rw [Course.trace_eq, hnumbers, List.flatMap_append, List.flatMap_cons]
  simp only [Boot.polls, List.map_append, List.append_assoc]
  rfl

theorem keepsTo_joinAll {bs : List Boot} (hbs : ∀ b ∈ bs, b.Valid)
    (hcount : bs.length = input.workerCount) {address : String}
    (haddress : address = cp.privateIpv4.getD host) :
    KeepsTo newV5 clusterId input
      (opening clusterId input cp host installed token ++
        creations newV5 clusterId input (bs.map (·.id)) ++ bs.flatMap Boot.polls)
      (joinWorkers (bs.map Boot.server) address (trim token) input.k3sVersion)
      fun τ' _ => ∃ joined : List (String × String),
        bs.map (·.ipv4) = (joined.map fun p => some p.1) ∧
          τ' = opening clusterId input cp host installed token ++
            creations newV5 clusterId input (bs.map (·.id)) ++ bs.flatMap Boot.polls ++
              joins input address (trim token) joined := by
  refine keepsTo_joinWorkers bs address (trim token) (fun b hb e he =>
    List.mem_append_right _ (List.mem_flatMap.mpr ⟨b, hb, he⟩)) ?_
  intro before b rest joined address' hbs' hjoined hb
  have hσ : (Course.mk cp host installed token bs (joined ++ [(address', "")]) none).Valid
      input := by
    refine ⟨hcp, hhost, hbs, hcount, ?_, nofun⟩
    rw [hbs', List.map_append, List.map_append, ← hjoined, List.map_cons (l := rest), hb]
    exact List.prefix_append_right_inj _ |>.mpr ⟨rest.map (·.ipv4), rfl⟩
  refine onCourse_of hσ (r := (.ok "" : Except SshError String)) ⟨[], ?_⟩
  rw [Course.trace_eq, Course.address, ← haddress, joins, List.map_append]
  simp only [List.append_assoc]
  rfl

end Workers

theorem keepsTo_kubeconfig {σ : Course}
    (hσ : ∀ raw, Course.Valid input { σ with kubeconfig := some raw }) (endpoint : String)
    (hτ : τ = opening clusterId input σ.controlPlane σ.host σ.installed σ.token ++
      creations newV5 clusterId input (σ.workers.map (·.id)) ++ σ.workers.flatMap Boot.polls ++
        joins input σ.address (trim σ.token) σ.joined) :
    KeepsTo newV5 clusterId input τ (collectKubeconfig ⟨σ.host, "kubinate"⟩ endpoint)
      fun τ' text => ∃ raw : String,
        text = replace raw "https://127.0.0.1:6443" endpoint ∧
          τ' = Course.trace newV5 clusterId input { σ with kubeconfig := some raw } := by
  have hrun : collectKubeconfig ⟨σ.host, "kubinate"⟩ endpoint =
      sshRun ⟨σ.host, "kubinate"⟩ kubeconfigCommand >>= fun raw =>
        pure (replace raw "https://127.0.0.1:6443" endpoint) := rfl
  rw [hrun]
  refine keepsTo_bind (keepsTo_sshRun ?_) fun τ' raw hraw => ?_
  · refine onCourse_of (hσ "") (r := (.ok "" : Except SshError String)) ⟨[], ?_⟩
    rw [Course.trace_eq, hτ]
    rfl
  · refine ⟨raw, rfl, ?_⟩
    rw [hraw, hτ, Course.trace_eq]
    rfl

/-- Provisioning keeps to the course, and returns at the end of one. -/
theorem keepsTo_provisionCluster (workflowId : Uuid) :
    KeepsTo newV5 clusterId input []
      (provisionCluster newV5 clusterId (workflowProgress workflowId) input) fun τ' out =>
        ∃ σ : Course, σ.Valid input ∧ ∃ raw, σ.kubeconfig = some raw ∧
          τ' = σ.trace newV5 clusterId input ∧ out = σ.output raw := by
  refine keepsTo_bind (keepsTo_progress _) fun τ' _ h => ?_
  subst h
  refine keepsTo_bind keepsTo_controlPlane fun τ' cpId h => ?_
  subst h
  refine keepsTo_bind (keepsTo_progress _) fun τ' _ h => ?_
  subst h
  refine keepsTo_bind (keepsTo_bootControlPlane cpId) ?_
  rintro τ' cpServer ⟨cp, hcp, rfl, rfl, rfl⟩
  refine keepsTo_bind (keepsTo_sshTarget fun e he => List.mem_cons_of_mem _ he) ?_
  rintro τ' cpTarget ⟨rfl, host, hhost, rfl⟩
  refine keepsTo_bind (keepsTo_progress _) fun τ' _ h => ?_
  subst h
  refine keepsTo_bind (keepsTo_installServer hcp hhost) ?_
  rintro τ' joinToken ⟨installed, token, rfl, rfl⟩
  refine keepsTo_bind (keepsTo_progress _) fun τ' _ h => ?_
  subst h
  refine keepsTo_bind (keepsTo_allWorkers hcp hhost installed token) ?_
  rintro τ' ids ⟨hids, rfl⟩
  refine keepsTo_bind (keepsTo_progress _) fun τ' _ h => ?_
  subst h
  refine keepsTo_bind (keepsTo_bootWorkers hcp hhost installed token hids) ?_
  rintro τ' servers ⟨bs, hbs, rfl, rfl, rfl⟩
  rw [List.length_map] at hids
  refine keepsTo_bind (keepsTo_progress _) fun τ' _ h => ?_
  subst h
  -- the control plane has an address, so neither fallback is used
  have hfallback : cp.server.ipv4.getD "0.0.0.0" = host := by
    rw [Boot.server, hhost]
    rfl
  rw [hfallback]
  refine keepsTo_bind (keepsTo_joinAll hcp hhost installed token hbs hids rfl) ?_
  rintro τ' - ⟨joined, hjoined, rfl⟩
  refine keepsTo_bind (keepsTo_progress _) fun τ' _ h => ?_
  subst h
  have hlength : joined.length = input.workerCount := by
    rw [← hids, ← List.length_map fun b : Boot => b.ipv4, hjoined, List.length_map]
  have hσ (raw : String) :
      (Course.mk cp host installed token bs joined (some raw)).Valid input :=
    ⟨hcp, hhost, hbs, hids, hjoined ▸ List.prefix_refl _, fun _ => hlength⟩
  refine keepsTo_bind (keepsTo_kubeconfig (σ := ⟨cp, host, installed, token, bs, joined, none⟩) hσ _
    rfl) ?_
  rintro τ' kubeconfig ⟨raw, rfl, rfl⟩
  refine keepsTo_bind (keepsTo_progress _) fun τ' _ h => ?_
  subst h
  exact ⟨_, hσ raw, raw, rfl, rfl, rfl⟩

end Walk

end Kubinate.Clusters
