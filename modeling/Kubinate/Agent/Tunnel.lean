import Kubinate.Library.ReadCommitted
import Kubinate.Platform.Types

/-!
# The agent tunnel

One stream of the reverse tunnel, as `open_stream` of `crates/api/src/agent.rs` serves it.
The messages of an agent are handled one after the other; the cluster, its organization and
the version of the agent are carried from one to the next. Metrics are forwarded to the
store of the organization that the stream has resolved.

The organization is replaced only by a heartbeat that resolves. One that does not (the id
is no UUID, no live cluster has it, the statement fails) leaves the organization of an
earlier cluster in place.

* `stateAfter_clusterOrgId`: which organization the stream has resolved.
* `acks_openStream`: as long as the channel is open each heartbeat has its acknowledgement.
* `forwardsOwn_and_acknowledges_iff`: metrics go to the organization of the most recent
  heartbeat only, exactly if none come for an organization that a later heartbeat has given
  up without a new one.
* `not_forwardsOwn`: a heartbeat with an unknown id.

The parser of UUIDs is a parameter.
-/

namespace Kubinate.Agent

open Platform Library

structure Heartbeat where
  clusterId : String
  agentVersion : String
  k3sVersion : String
  sentAtMs : Int
deriving DecidableEq, Repr

structure MetricsRemoteWrite where
  organizationId : String
  writeRequest : List UInt8
deriving DecidableEq, Repr

structure AssertionResult where
  ceremonyId : String
  credential : List UInt8
deriving DecidableEq, Repr

inductive AgentPayload where
  | heartbeat (heartbeat : Heartbeat)
  | metrics (metrics : MetricsRemoteWrite)
  | assertion (assertion : AssertionResult)
deriving DecidableEq, Repr

structure AgentToServer where
  payload : Option AgentPayload
deriving DecidableEq, Repr

/-- A row of `clusters`, the columns that a heartbeat reads and writes. -/
structure ClusterRow where
  id : Uuid
  organizationId : Uuid
  deletedAt : Option Timestamp
  agentLastSeenAt : Option Timestamp
  agentVersion : String
deriving DecidableEq, Repr

/-- What a message meets: the table as everybody else has left it, how a statement on it
goes and when, the clock of the server, and whether anybody still reads the outbound
channel. -/
structure Moment where
  clusters : List ClusterRow
  reply : Reply
  now : Timestamp
  wallClockMs : Int
  outboundOpen : Bool
deriving DecidableEq, Repr

/-- What comes next on the inbound stream: a message, or the status it broke with. -/
structure Inbound where
  moment : Moment
  message : Except Nat AgentToServer

/-- What handling a message does to the outside. -/
inductive Effect where
  | touched (clusters : List ClusterRow)
  | forwardWrite (organizationId : Uuid) (writeRequest : List UInt8)
  | heartbeatAck (receivedAtMs : Int)
deriving DecidableEq, Repr

/-! ## The repository -/

/-- The SQL function `touch_cluster_agent_heartbeat`, which is `NULL` when no row is
updated. -/
def touchClusterAgentHeartbeat (clusters : List ClusterRow) (now : Timestamp) (clusterId : Uuid)
    (agentVersion : String) : List ClusterRow × Option Uuid :=
  let touches := fun c : ClusterRow => c.id == clusterId && c.deletedAt.isNone
  (clusters.map fun c =>
      if touches c then { c with agentLastSeenAt := some now, agentVersion := agentVersion } else c,
    (clusters.find? touches).map (·.organizationId))

/-- The row of a `SELECT` of the function is always there; a `NULL` in it does not decode. -/
def touchAgentHeartbeat (m : Moment) (clusterId : Uuid) (agentVersion : String) :
    List ClusterRow × Except PlatformError (Option Uuid) :=
  let (clusters, organizationId) :=
    touchClusterAgentHeartbeat m.clusters m.now clusterId agentVersion
  match m.reply with
  | .failed => (m.clusters, .error (.database .connection))
  | .lost => (clusters, .error (.database .connection))
  | .ok =>
    (clusters, match organizationId with
      | none => .error (.database .columnDecode)
      | some orgId => .ok (some orgId))

/-! ## The stream -/

structure StreamState where
  clusterId : Option String := none
  clusterOrgId : Option Uuid := none
  agentVersion : Option String := none
deriving DecidableEq, Repr

section

variable (parseUuid : String → Option Uuid)

/-- The touch of a heartbeat, where its cluster has an id. -/
def touch (s : StreamState) (m : Moment) (heartbeat : Heartbeat) : StreamState × List Effect :=
  match parseUuid heartbeat.clusterId with
  | none => (s, [])
  | some clusterUuid =>
    let (clusters, touched) := touchAgentHeartbeat m clusterUuid heartbeat.agentVersion
    match touched with
    | .ok (some orgId) => ({ s with clusterOrgId := some orgId }, [.touched clusters])
    | .ok none => (s, [.touched clusters])
    | .error _ => (s, [.touched clusters])

/-- The loop's body: the state to go on with, or none where it breaks off, and what it did. -/
def handle (s : StreamState) (i : Inbound) : Option StreamState × List Effect :=
  match i.message with
  | .error _ => (none, [])
  | .ok msg =>
    match msg.payload with
    | none => (some s, [])
    | some (.heartbeat heartbeat) =>
      let s := { s with
        clusterId := some heartbeat.clusterId
        agentVersion := some heartbeat.agentVersion }
      let (s, effects) := touch parseUuid s i.moment heartbeat
      if i.moment.outboundOpen then
        (some s, effects ++ [.heartbeatAck i.moment.wallClockMs])
      else (none, effects)
    | some (.metrics m) =>
      match parseUuid m.organizationId with
      | none => (some s, [])
      | some orgId =>
        match s.clusterOrgId with
        | none => (some s, [])
        | some resolvedOrg =>
          if resolvedOrg ≠ orgId then (some s, [])
          else (some s, [.forwardWrite orgId m.writeRequest])
    | some (.assertion _) => (some s, [])

/-- What is done for each message that is taken from the stream. -/
def openStream : StreamState → List Inbound → List (List Effect)
  | _, [] => []
  | s, i :: rest =>
    match handle parseUuid s i with
    | (none, effects) => [effects]
    | (some s', effects) => effects :: openStream s' rest

/-- Where the stream is after these messages, if it has not broken off. -/
def stateAfter (s : StreamState) (earlier : List Inbound) : Option StreamState :=
  earlier.foldlM (fun s i => (handle parseUuid s i).1) s

end

/-! ## What a message says -/

namespace Inbound

variable (parseUuid : String → Option Uuid)

def heartbeat (i : Inbound) : Option Heartbeat :=
  match i.message with
  | .ok ⟨some (.heartbeat heartbeat)⟩ => some heartbeat
  | _ => none

/-- The organization of the cluster that the heartbeat of the message is for. -/
def resolved (i : Inbound) : Option Uuid := do
  let heartbeat ← i.heartbeat
  let clusterUuid ← parseUuid heartbeat.clusterId
  match (touchAgentHeartbeat i.moment clusterUuid heartbeat.agentVersion).2 with
  | .ok orgId => orgId
  | .error _ => none

/-- The organization that the metrics of the message are said to belong to. -/
def claimed (i : Inbound) : Option Uuid :=
  match i.message with
  | .ok ⟨some (.metrics m)⟩ => parseUuid m.organizationId
  | _ => none

/-- The loop goes on after the message. -/
def goesOn (i : Inbound) : Bool :=
  match i.message with
  | .error _ => false
  | .ok _ => i.heartbeat.isNone || i.moment.outboundOpen

end Inbound

section

variable (parseUuid : String → Option Uuid)

/-- What the most recent heartbeat has resolved to. -/
def mostRecent (earlier : List Inbound) : Option Uuid :=
  (earlier.filter (·.heartbeat.isSome)).getLast?.bind (·.resolved parseUuid)

/-- What the last of the heartbeats that have resolved has resolved to. -/
def lastResolved (earlier : List Inbound) : Option Uuid :=
  (earlier.filterMap (·.resolved parseUuid)).getLast?

end

/-! ## One message -/

section

variable {parseUuid : String → Option Uuid} {s s' : StreamState} {i : Inbound}

/-- The loop goes on unless the stream or the channel is closed. -/
theorem handle_isSome : (handle parseUuid s i).1.isSome = i.goesOn := by
  obtain ⟨moment, e | ⟨_ | ⟨heartbeat⟩ | ⟨m⟩ | ⟨a⟩⟩⟩ := i
  · rfl
  · rfl
  · simp only [handle, Inbound.goesOn, Inbound.heartbeat]
    cases moment.outboundOpen <;> simp
  · simp only [handle, Inbound.goesOn, Inbound.heartbeat]
    cases parseUuid m.organizationId <;> cases s.clusterOrgId <;> simp
    split <;> rfl
  · rfl

/-- The touch replaces the organization if it finds one, and writes to the table only. -/
theorem touch_spec (s : StreamState) (m : Moment) (heartbeat : Heartbeat) :
    (touch parseUuid s m heartbeat).1.clusterOrgId =
        ((⟨m, .ok ⟨some (.heartbeat heartbeat)⟩⟩ : Inbound).resolved parseUuid).or s.clusterOrgId ∧
      ∀ e ∈ (touch parseUuid s m heartbeat).2, ∃ clusters, e = .touched clusters := by
  simp only [touch, Inbound.resolved, Inbound.heartbeat, Option.bind_eq_bind, Option.bind_some]
  cases parseUuid heartbeat.clusterId with
  | none => simp
  | some clusterUuid =>
    simp only [Option.bind_some]
    rcases (touchAgentHeartbeat m clusterUuid heartbeat.agentVersion).2 with e | _ | orgId
    · simp
    · simp
    · simp

/-- A heartbeat that resolves replaces the organization; nothing else does. -/
theorem clusterOrgId_handle (h : (handle parseUuid s i).1 = some s') :
    s'.clusterOrgId = (i.resolved parseUuid).or s.clusterOrgId := by
  obtain ⟨moment, e | ⟨_ | ⟨heartbeat⟩ | ⟨m⟩ | ⟨a⟩⟩⟩ := i
  · cases h
  · cases h
    rfl
  · simp only [handle] at h
    split at h
    · cases h
      exact (touch_spec _ moment heartbeat).1
    · cases h
  · have hsame : s' = s := by
      simp only [handle] at h
      cases hparse : parseUuid m.organizationId <;> cases horg : s.clusterOrgId <;>
        simp only [hparse, horg] at h
      case some.some orgId resolvedOrg =>
        split at h <;>
        · cases h
          rfl
      all_goals
        cases h
        rfl
    rw [hsame]
    rfl
  · cases h
    rfl

/-- Metrics are forwarded to the organization they claim, if the stream has resolved it. -/
theorem exists_forwardWrite_iff {o : Uuid} :
    (∃ w, .forwardWrite o w ∈ (handle parseUuid s i).2) ↔
      i.claimed parseUuid = some o ∧ s.clusterOrgId = some o := by
  obtain ⟨moment, e | ⟨_ | ⟨heartbeat⟩ | ⟨m⟩ | ⟨a⟩⟩⟩ := i
  · simp [handle, Inbound.claimed]
  · simp [handle, Inbound.claimed]
  · -- a heartbeat forwards nothing
    simp only [handle, Inbound.claimed]
    have htouch := (@touch_spec parseUuid { s with
      clusterId := some heartbeat.clusterId
      agentVersion := some heartbeat.agentVersion } moment heartbeat).2
    refine iff_of_false ?_ (by simp)
    rintro ⟨w, hw⟩
    split at hw
    · rcases List.mem_append.mp hw with hw | hw
      · obtain ⟨clusters, heq⟩ := htouch _ hw
        cases heq
      · cases List.mem_singleton.mp hw
    · obtain ⟨clusters, heq⟩ := htouch _ hw
      cases heq
  · simp only [handle, Inbound.claimed]
    cases parseUuid m.organizationId with
    | none => simp
    | some orgId =>
      cases s.clusterOrgId with
      | none => simp
      | some resolvedOrg =>
        by_cases hsame : resolvedOrg = orgId
        · simp [hsame, eq_comm]
        · have hnot : ¬ (orgId = o ∧ resolvedOrg = o) := fun h => hsame (h.2.trans h.1.symm)
          simp [hsame, hnot]
  · simp [handle, Inbound.claimed]

/-- The acknowledgements among what was done. -/
def acks (effects : List Effect) : List Int :=
  effects.filterMap fun
    | .heartbeatAck receivedAtMs => some receivedAtMs
    | _ => none

theorem acks_handle :
    acks (handle parseUuid s i).2 =
      if i.heartbeat.isSome && i.moment.outboundOpen then [i.moment.wallClockMs] else [] := by
  obtain ⟨moment, e | ⟨_ | ⟨heartbeat⟩ | ⟨m⟩ | ⟨a⟩⟩⟩ := i
  · rfl
  · rfl
  · have htouch : acks (touch parseUuid { s with
        clusterId := some heartbeat.clusterId
        agentVersion := some heartbeat.agentVersion } moment heartbeat).2 = [] := by
      refine List.filterMap_eq_nil_iff.mpr fun e he => ?_
      obtain ⟨clusters, rfl⟩ := (touch_spec _ moment heartbeat).2 e he
      rfl
    simp only [handle, Inbound.heartbeat]
    cases moment.outboundOpen with
    | false => simpa using htouch
    | true =>
      simp only [acks] at htouch
      simp [acks, htouch]
  · simp only [handle, Inbound.heartbeat]
    cases parseUuid m.organizationId <;> cases s.clusterOrgId <;> simp [acks]
    split <;> simp
  · rfl

end

/-! ## The stream -/

section

variable {parseUuid : String → Option Uuid}

/-- The stream has not broken off after messages that let it go on. -/
theorem stateAfter_isSome (s : StreamState) (earlier : List Inbound) :
    (stateAfter parseUuid s earlier).isSome = earlier.all (·.goesOn) := by
  induction earlier generalizing s with
  | nil => rfl
  | cons i earlier ih =>
    rw [stateAfter, List.foldlM_cons, List.all_cons, ← @handle_isSome parseUuid s i]
    cases (handle parseUuid s i).1 with
    | none => rfl
    | some s' => exact ih s'

/-- The stream has resolved the organization of the last heartbeat that resolved. -/
theorem stateAfter_clusterOrgId {s s' : StreamState} {earlier : List Inbound}
    (h : stateAfter parseUuid s earlier = some s') :
    s'.clusterOrgId = (lastResolved parseUuid earlier).or s.clusterOrgId := by
  induction earlier generalizing s with
  | nil =>
    cases h
    rfl
  | cons i earlier ih =>
    rw [stateAfter, List.foldlM_cons, Option.bind_eq_bind, Option.bind_eq_some_iff] at h
    obtain ⟨s₁, h₁, h₂⟩ := h
    have hlast : lastResolved parseUuid (i :: earlier) =
        (lastResolved parseUuid earlier).or (i.resolved parseUuid) := by
      rw [lastResolved, lastResolved, List.filterMap_cons]
      cases i.resolved parseUuid with
      | none => simp
      | some orgId =>
        rw [List.getLast?_cons]
        cases (earlier.filterMap (·.resolved parseUuid)).getLast? <;> rfl
    rw [ih h₂, clusterOrgId_handle h₁, hlast, Option.or_assoc]

/-- What is done for a message is what the state before it says. -/
theorem openStream_getElem? (s : StreamState) (earlier : List Inbound) (i : Inbound)
    (later : List Inbound) :
    (openStream parseUuid s (earlier ++ i :: later))[earlier.length]? =
      (stateAfter parseUuid s earlier).map fun s' => (handle parseUuid s' i).2 := by
  induction earlier generalizing s with
  | nil =>
    rw [List.nil_append, openStream]
    rcases hhandle : handle parseUuid s i with ⟨_ | s', effects⟩
    · simp [stateAfter, hhandle]
    · simp [stateAfter, hhandle]
  | cons j earlier ih =>
    rw [List.cons_append, openStream, stateAfter, List.foldlM_cons]
    rcases hhandle : handle parseUuid s j with ⟨_ | s', effects⟩
    · simp
    · simpa [stateAfter] using ih s'

variable (parseUuid)

/-- Metrics are forwarded only to the organization that they claim, and only if the most recent
heartbeat has resolved to a cluster of it. -/
def ForwardsOwn (stream : List Inbound) : Prop :=
  ∀ earlier i later, stream = earlier ++ i :: later →
    ∀ effects, (openStream parseUuid {} stream)[earlier.length]? = some effects →
      ∀ o w, .forwardWrite o w ∈ effects →
        i.claimed parseUuid = some o ∧ mostRecent parseUuid earlier = some o

/-- As long as the stream has not broken off and the channel is open, each heartbeat is handled
and acknowledged once, and nothing else is acknowledged. -/
def Acknowledges (stream : List Inbound) : Prop :=
  ∀ earlier i later, stream = earlier ++ i :: later → earlier.all (·.goesOn) = true →
    ∃ effects, (openStream parseUuid {} stream)[earlier.length]? = some effects ∧
      acks effects =
        if i.heartbeat.isSome && i.moment.outboundOpen then [i.moment.wallClockMs] else []

/-- No metrics come for the organization of an earlier heartbeat when a later one has not
resolved. -/
def NoneStale (stream : List Inbound) : Prop :=
  ∀ earlier i later, stream = earlier ++ i :: later → earlier.all (·.goesOn) = true →
    ∀ o, i.claimed parseUuid = some o → lastResolved parseUuid earlier = some o →
      mostRecent parseUuid earlier = some o

variable {parseUuid}

theorem acknowledges (stream : List Inbound) : Acknowledges parseUuid stream := by
  rintro earlier i later rfl hgoes
  rw [← @stateAfter_isSome parseUuid, Option.isSome_iff_exists] at hgoes
  obtain ⟨s, hs⟩ := hgoes
  rw [openStream_getElem?, hs, Option.map_some]
  exact ⟨_, rfl, acks_handle⟩

theorem forwardsOwn_iff (stream : List Inbound) :
    ForwardsOwn parseUuid stream ↔ NoneStale parseUuid stream := by
  constructor
  · rintro h earlier i later rfl hgoes o hclaimed hlast
    rw [← @stateAfter_isSome parseUuid, Option.isSome_iff_exists] at hgoes
    obtain ⟨s, hs⟩ := hgoes
    have horg : s.clusterOrgId = some o := by
      rw [stateAfter_clusterOrgId hs, hlast]
      rfl
    obtain ⟨w, hw⟩ := exists_forwardWrite_iff.mpr ⟨hclaimed, horg⟩
    have heffects := @openStream_getElem? parseUuid {} earlier i later
    rw [hs, Option.map_some] at heffects
    exact (h earlier i later rfl _ heffects o w hw).2
  · rintro h earlier i later rfl effects heffects o w hw
    rw [openStream_getElem?, Option.map_eq_some_iff] at heffects
    obtain ⟨s, hs, rfl⟩ := heffects
    obtain ⟨hclaimed, horg⟩ := exists_forwardWrite_iff.mp ⟨w, hw⟩
    refine ⟨hclaimed, h earlier i later rfl ?_ o hclaimed ?_⟩
    · rw [← @stateAfter_isSome parseUuid, hs]
      rfl
    · have hlast := stateAfter_clusterOrgId hs
      rw [horg, Option.or_none] at hlast
      exact hlast.symm

/-- Whatever comes, every heartbeat is acknowledged. Metrics go to the organization of the
most recent heartbeat only, exactly if none of them are stale. -/
theorem forwardsOwn_and_acknowledges_iff (stream : List Inbound) :
    (ForwardsOwn parseUuid stream ∧ Acknowledges parseUuid stream) ↔ NoneStale parseUuid stream :=
  (and_iff_left (acknowledges stream)).trans (forwardsOwn_iff stream)

end

/-! ## An unknown cluster -/

/-- The parser at the ids of two clusters and of the organization of the first. -/
def threeUuids (text : String) : Option Uuid :=
  if text = "00000000-0000-0000-0000-000000000001" then some 1
  else if text = "00000000-0000-0000-0000-000000000002" then some 2
  else if text = "00000000-0000-0000-0000-000000000007" then some 7 else none

/-- Cluster 1 of organization 7 is there, cluster 2 is not. -/
def oneCluster : Moment := ⟨[⟨1, 7, none, none, ""⟩], .ok, 0, 0, true⟩

/-- An agent that takes up the name of another cluster and sends metrics for the first. -/
def switching : List Inbound :=
  [⟨oneCluster, .ok ⟨some (.heartbeat ⟨"00000000-0000-0000-0000-000000000001", "0.1.0", "", 0⟩)⟩⟩,
    ⟨oneCluster, .ok ⟨some (.heartbeat ⟨"00000000-0000-0000-0000-000000000002", "0.1.0", "", 0⟩)⟩⟩,
    ⟨oneCluster, .ok ⟨some (.metrics ⟨"00000000-0000-0000-0000-000000000007", []⟩)⟩⟩]

/-- The metrics are forwarded to the organization of the first cluster. -/
theorem not_forwardsOwn :
    ¬ ∀ (parseUuid : String → Option Uuid) (stream : List Inbound),
      ForwardsOwn parseUuid stream ∧ Acknowledges parseUuid stream := by
  intro h
  have hforward : (openStream threeUuids {} switching)[2]? = some [.forwardWrite 7 []] := by
    decide +kernel
  have hrecent := ((h threeUuids switching).1 (switching.take 2) _ [] rfl _ hforward 7 []
    List.mem_cons_self).2
  revert hrecent
  decide +kernel

end Kubinate.Agent
