import Kubinate.Clusters.Events
import Kubinate.Clusters.Settling

/-!
# The stream of events

`GET /v1/clusters/:id/events` reads the cluster and then subscribes to its events; a run writes
the final status of the cluster and then publishes its terminal event. The status that the
handler has read is not looked at.

* `streamEvents`, `EventStream.take`: the handler, and the stream that it returns.
* `streamPool`: one run and one request for the stream, with everything else that can happen at
  the hub but a publication for the cluster.
* `run_announces_once`: a run publishes at most one terminal event.
* `stream_delivers_iff`: it reaches the stream, unless it was published before the handler subscribes.
-/

namespace Kubinate.Clusters

open Platform Library

/-! ## Runs -/

def CloudCall.isTerminal : CloudCall → Bool
  | .publishTerminal .. => true
  | _ => false

def Terminal (c : CloudCall) : Prop := c.isTerminal = true

def Quiet (c : CloudCall) : Prop := ¬ Terminal c

section Runs

theorem quiet_of_isActivity (c : CloudCall) (h : IsActivity c) : Quiet c := by
  intro hterminal
  cases c with
  | publishTerminal status reason => cases h
  | _ => cases hterminal

theorem quiet_call {c : CloudCall} (h : c.isTerminal = false) :
    Makes (I := cloud) Quiet (call c) :=
  makes_call (Bool.eq_false_iff.mp h)

theorem quiet_recordServer (role : ClusterNodeRole) (server : HetznerServer) :
    Makes (I := cloud) Quiet (recordServer role server).run :=
  makes_attempt (quiet_call rfl)

theorem quiet_storeKubeconfig (kubeconfig : String) :
    Makes (I := cloud) Quiet (ClusterService.storeKubeconfig kubeconfig).run := by
  refine makes_bindE (makes_attempt (quiet_call rfl)) fun secretId => ?_
  refine makes_bindE (makes_lift (quiet_call rfl)) ?_
  rintro (e | ⟨⟩)
  · exact makes_bindE (makes_ignore (quiet_call rfl)) fun _ => trivial
  · trivial

theorem quiet_fetchKubeconfig (clusterId : Uuid) :
    Makes (I := cloud) Quiet (ClusterService.fetchKubeconfig clusterId).run := by
  refine makes_bindE (makes_attempt (quiet_call rfl)) ?_
  rintro (_ | secretId)
  · trivial
  · exact makes_attempt (quiet_call rfl)

theorem quiet_beginDestroy : Makes (I := cloud) Quiet ClusterService.beginDestroy.run := by
  refine makes_bindE (makes_attempt (quiet_call rfl)) fun cluster => ?_
  dsimp only
  split
  · trivial
  · exact makes_bindE (makes_attempt (quiet_call rfl)) fun _ => trivial

theorem quiet_finalizeDestroy : Makes (I := cloud) Quiet ClusterService.finalizeDestroy.run := by
  refine makes_bindE (makes_attempt (quiet_call rfl)) ?_
  rintro (_ | secretId)
  · exact makes_bindE (makes_attempt (quiet_call rfl)) fun _ => makes_attempt (quiet_call rfl)
  · refine makes_bindE (makes_ignore (quiet_call rfl)) fun _ => ?_
    exact makes_bindE (makes_attempt (quiet_call rfl)) fun _ => makes_attempt (quiet_call rfl)

/-- The publication at the end of a run. -/
theorem once_publishTerminal (status : ClusterStatus) (reason : Option String) :
    MakesOnce (I := cloud) Terminal (ignore (publishTerminal status reason)).run := by
  cases status with
  | ready | failed | destroyed => exact fun _ => ⟨trivial, fun _ => trivial⟩
  | pending | provisioning | scaling | destroying => trivial

/-- The way out of a run whose workflow has failed. -/
theorem once_fail (reason : Option String) (err : RunError) :
    MakesOnce (I := cloud) Terminal
      (do ignore (publishTerminal .failed reason); throw err : Run Unit).run :=
  makesOnce_bindE_last (once_publishTerminal _ _) fun _ => trivial

theorem runProvision_once {newV5 : String → Uuid} {clusterId : Uuid}
    (input : ProvisionClusterInput) :
    MakesOnce (I := cloud) Terminal (runProvision newV5 clusterId input).run := by
  refine makesOnce_bindE (makes_lift (quiet_call rfl)) fun workflowRow => ?_
  refine makesOnce_bindE (makes_attempt (quiet_call rfl)) fun _ => ?_
  refine makesOnce_bindE (makes_attempt (quiet_call rfl)) fun _ => ?_
  refine makesOnce_bindE (makes_lift ((provisionCluster_makes (.inr ⟨workflowRow, rfl⟩) input).mono
    quiet_of_isActivity)) ?_
  rintro (err | output)
  · refine makesOnce_bindE (makes_ignore (quiet_call rfl)) fun _ => ?_
    refine makesOnce_bindE (makes_ignore (quiet_call rfl)) fun _ => ?_
    exact once_fail _ _
  · refine makesOnce_bindE (quiet_recordServer _ _) fun _ => ?_
    refine makesOnce_bindE (makes_forM (quiet_recordServer _) _) fun _ => ?_
    refine makesOnce_bindE (quiet_storeKubeconfig _) fun _ => ?_
    refine makesOnce_bindE (makes_attempt (quiet_call rfl)) fun _ => ?_
    refine makesOnce_bindE (makes_attempt (quiet_call rfl)) fun _ => ?_
    exact once_publishTerminal _ _

theorem runDestroy_once : MakesOnce (I := cloud) Terminal runDestroy.run := by
  refine makesOnce_bindE quiet_beginDestroy fun _ => ?_
  refine makesOnce_bindE (makes_attempt (quiet_call rfl)) fun servers => ?_
  refine makesOnce_bindE (makes_lift ((destroyCluster_makes _).mono fun c h =>
    quiet_of_isActivity c h.1)) ?_
  rintro (err | ⟨⟩)
  · refine makesOnce_bindE (makes_ignore (quiet_call rfl)) fun _ => ?_
    exact once_fail _ _
  · refine makesOnce_bindE (makes_attempt (quiet_call rfl)) fun _ => ?_
    refine makesOnce_bindE quiet_finalizeDestroy fun _ => ?_
    exact once_publishTerminal _ _

theorem runScaleOut_once {newV5 : String → Uuid} {clusterId : Uuid} {count : Nat}
    {clusterName location serverType sshKey userData k3sVersion : String} :
    MakesOnce (I := cloud) Terminal (runScaleOut newV5 clusterId count clusterName location
      serverType sshKey userData k3sVersion).run := by
  refine makesOnce_bindE (makes_attempt (quiet_call rfl)) fun _ => ?_
  refine makesOnce_bindE (makes_attempt (quiet_call rfl)) fun servers => ?_
  split
  · trivial
  split
  · trivial
  refine makesOnce_bindE (makes_attempt (quiet_call rfl)) fun joinToken => ?_
  refine makesOnce_bindE (makes_lift ((scaleOut_makes _).mono fun c h =>
    quiet_of_isActivity c h.1)) ?_
  rintro (err | workers)
  · refine makesOnce_bindE (makes_ignore (quiet_call rfl)) fun _ => ?_
    exact once_fail _ _
  · refine makesOnce_bindE (makes_forM (quiet_recordServer _) _) fun _ => ?_
    refine makesOnce_bindE (makes_attempt (quiet_call rfl)) fun _ => ?_
    exact once_publishTerminal _ _

theorem runScaleIn_once {clusterId : Uuid} {clusterName : String} {count : Nat} :
    MakesOnce (I := cloud) Terminal (runScaleIn clusterId clusterName count).run := by
  refine makesOnce_bindE (makes_attempt (quiet_call rfl)) fun _ => ?_
  refine makesOnce_bindE (makes_attempt (quiet_call rfl)) fun servers => ?_
  refine makesOnce_bindE (quiet_fetchKubeconfig clusterId) fun kubeconfig => ?_
  refine makesOnce_bindE (makes_lift (quiet_call rfl)) fun fileId => ?_
  refine makesOnce_bindE (makes_attempt (quiet_call rfl)) fun _ => ?_
  refine makesOnce_bindE (makes_lift ((scaleIn_makes _ _).mono fun c h =>
    quiet_of_isActivity c h.1)) fun result => ?_
  refine makesOnce_bindE (makes_ignore (quiet_call rfl)) fun _ => ?_
  rcases result with err | ⟨⟩
  · refine makesOnce_bindE (makes_ignore (quiet_call rfl)) fun _ => ?_
    exact once_fail _ _
  · refine makesOnce_bindE (makes_forM (fun _ => makes_ignore (quiet_call rfl)) _) fun _ => ?_
    refine makesOnce_bindE (makes_attempt (quiet_call rfl)) fun _ => ?_
    exact once_publishTerminal _ _

theorem run_announces_once (D : Deployment) {j : ClusterJob} (hj : j.movesCluster = true) :
    MakesOnce (I := cloud) Terminal (j.program D) := by
  refine makesOnce_bind_last (p := (j.run D).run) ?_ fun _ => trivial
  cases j with
  | provision input => exact runProvision_once input
  | destroy => exact runDestroy_once
  | scaleOut count clusterName location serverType sshKey userData k3sVersion =>
    exact runScaleOut_once
  | scaleIn clusterName count => exact runScaleIn_once
  | scaleWorkers delta => cases hj

end Runs

/-! ## The stream -/

/-- The body of the response: what it listens to, and what was sent to the browser so far. -/
structure EventStream where
  receiver : Nat
  delivered : List ClusterEvent := []
  terminalSeen : Bool := false
  ended : Bool := false
deriving DecidableEq

namespace EventStream

/-- `take_while`: the event after a terminal one ends the stream. -/
def take (stream : EventStream) (event : ClusterEvent) : EventStream :=
  if stream.ended then stream
  else if stream.terminalSeen then { stream with ended := true }
  else
    { stream with
      delivered := stream.delivered ++ [event]
      terminalSeen := event.isTerminal }

/-- `filter_map`: a lag becomes a step of its own. -/
def next (stream : EventStream) : Received ClusterEvent → EventStream
  | .message event => stream.take event
  | .lagged _ => stream.take (.step "__lagged__")
  | .empty | .gone => stream

/-- The stream once it has been polled through these events. -/
def drain (stream : EventStream) (events : List ClusterEvent) : EventStream :=
  events.foldl take stream

end EventStream

inductive StreamCall where
  /-- of the run, or of the handler -/
  | cloud (c : CloudCall)
  | subscribe
  /-- the body of the response is polled -/
  | poll
  /-- what other subscribers do, and what is published for other clusters -/
  | other (request : HubRequest)

@[reducible]
def StreamCall.Answer : StreamCall → Type
  | .cloud c => c.Answer
  | .subscribe => Nat
  | .poll | .other _ => Unit

abbrev streaming : Interface where
  Call := StreamCall
  Answer := StreamCall.Answer

inductive StreamJob where
  | run (j : ClusterJob)
  | stream
  | poll
  | other (request : HubRequest)

/-- The handler of `GET /v1/clusters/:id/events`. -/
def streamEvents : Program streaming Unit :=
  .call (.cloud .get) fun
    | .error _ => .done ()
    | .ok _ => .call .subscribe fun _ => .done ()

def StreamJob.program (D : Deployment) : StreamJob → Program streaming Unit
  | .run j => (j.program D).embed .cloud fun _ r => r
  | .stream => streamEvents
  | .poll => .call .poll fun _ => .done ()
  | .other request => .call (.other request) fun _ => .done ()

structure StreamWorld where
  cloud : Cloud
  hub : ObservedHub
  stream : Option EventStream := none

/-- What a call of the run tells the hub. -/
def CloudCall.event : CloudCall → Option ClusterEvent
  | .publishStep step => some (.step step)
  | .publishTerminal status reason => terminalEvent status reason
  | _ => none

def ObservedHub.tell (hub : ObservedHub) (clusterId : Uuid) (c : CloudCall) : ObservedHub :=
  match c.event with
  | some event => hub.step (.publish clusterId event)
  | none => hub

/-- Others have their own receivers, and publish nothing for this cluster. -/
def HubRequest.isElsewhere (clusterId : Uuid) (stream : Option EventStream) : HubRequest → Bool
  | .subscribe _ => true
  | .publish clusterId' _ => clusterId' != clusterId
  | .recv receiver | .drop receiver => stream.all (·.receiver != receiver)

def StreamWorld.answer (clusterId : Uuid) (w : StreamWorld) (i : Nat) (c : StreamCall)
    (x : Outcome) : Option (StreamWorld × c.Answer × List StreamJob) :=
  match c with
  | .cloud c => (w.cloud.answer i c x).map fun (cloud, r, _) =>
    -- neither a run nor the handler starts another run
    ({ w with cloud := cloud, hub := w.hub.tell clusterId c }, r, [])
  | .subscribe =>
    let receiver := (w.hub.1.subscribe clusterId).2
    some ({ w with
      hub := w.hub.step (.subscribe clusterId)
      stream := some { receiver := receiver } }, receiver, [])
  | .poll =>
    match w.stream with
    | none => none
    | some stream =>
      if stream.ended then none
      else some ({ w with
        hub := w.hub.step (.recv stream.receiver)
        stream := some (stream.next (w.hub.1.channels.recv stream.receiver).2) }, (), [])
  | .other request =>
    if request.isElsewhere clusterId w.stream then
      some ({ w with hub := w.hub.step request }, (), [])
    else none

/-- A run and a request for the stream are started; polls and others can come at any time. -/
def streamPool (D : Deployment) : Pool streaming StreamWorld StreamJob Outcome Unit where
  prog := StreamJob.program D
  external := fun
    | .poll | .other _ => true
    | .run _ | .stream => false
  answer := fun w i c x => w.answer D.clusterId i c x

abbrev StreamState := PoolState streaming StreamWorld StreamJob Unit

/-- The run is in slot 0 and the request in slot 1. -/
def startStream (D : Deployment) (j : ClusterJob) (w : Cloud) (requests : List HubRequest) :
    StreamState :=
  ⟨{ cloud := w, hub := observed requests },
    [(streamPool D).launch (.run j), (streamPool D).launch .stream]⟩

/-! ## What the stream delivers -/

namespace EventStream

variable {stream : EventStream} {event : ClusterEvent} {events : List ClusterEvent}

theorem drain_concat : stream.drain (events ++ [event]) = (stream.drain events).take event := by
  rw [drain, List.foldl_append]
  rfl

theorem mem_delivered_take (h : event ∈ stream.delivered) (event' : ClusterEvent) :
    event ∈ (stream.take event').delivered := by
  unfold take
  split
  · exact h
  split
  · exact h
  · exact List.mem_append_left _ h

theorem take_receiver (event : ClusterEvent) : (stream.take event).receiver = stream.receiver := by
  unfold take
  split
  · rfl
  split <;> rfl

/-- Steps are all passed on. -/
theorem drain_of_steps {receiver : Nat} (h : ∀ event ∈ events, event.isTerminal = false) :
    drain { receiver := receiver } events = { receiver := receiver, delivered := events } := by
  induction events using List.reverseRecOn with
  | nil => rfl
  | append_singleton events event ih =>
    rw [drain_concat, ih fun e he => h e (List.mem_append_left _ he)]
    simp only [take, h event List.mem_concat_self]
    rfl

/-- So is the first terminal event. -/
theorem mem_drain_of_first {receiver : Nat} (h : ∀ event ∈ events, event.isTerminal = false) :
    event ∈ (drain { receiver := receiver } (events ++ [event])).delivered := by
  rw [drain_concat, drain_of_steps h]
  exact List.mem_concat_self

end EventStream

/-- The stream of the response is open, and `y` is its subscription. -/
structure Listening (clusterId : Uuid) (w : StreamWorld) (stream : EventStream)
    (y : Subscription) : Prop where
  opened : w.stream = some stream
  subscription : w.hub.2[stream.receiver]? = some y
  cluster : y.clusterId = clusterId
  live : y.live = true
  passed : y.lagged = false → stream = EventStream.drain { receiver := stream.receiver } y.received

section Listening

variable {clusterId : Uuid} {w : StreamWorld} {stream : EventStream} {y : Subscription}

theorem Attached.serves_of_getElem? {s : ObservedHub} (h : Attached s) {r : Nat}
    (hy : s.2[r]? = some y) :
    ∃ x, s.1.channels.receivers[r]? = some x ∧ Serves s.1 x y := by
  obtain ⟨hr, rfl⟩ := List.getElem?_eq_some_iff.mp hy
  have hr' : r < s.1.channels.receivers.length := h.serves.length_eq ▸ hr
  exact ⟨_, List.getElem?_eq_getElem hr', List.Forall₂.get h.serves hr' hr⟩

theorem getElem?_observe_publish {subscriptions : List Subscription} {c : Uuid}
    {event : ClusterEvent} {r : Nat} (o : HubAnswer) :
    (observe subscriptions (.publish c event) o)[r]? = (subscriptions[r]?).map fun y =>
      if y.isFor c then { y with published := y.published ++ [event] } else y :=
  List.getElem?_map

theorem getElem?_observe_recv {subscriptions : List Subscription} {r r' : Nat} (hne : r ≠ r')
    (o : HubAnswer) : (observe subscriptions (.recv r) o)[r']? = subscriptions[r']? := by
  cases o with
  | received received =>
    cases received with
    | message event => exact List.getElem?_modify_ne _ _ hne
    | lagged n => exact List.getElem?_modify_ne _ _ hne
    | empty => rfl
    | gone => rfl
  | _ => rfl

theorem Listening.tell (h : Listening clusterId w stream y) (cloud : Cloud) (c : CloudCall) :
    Listening clusterId { w with cloud := cloud, hub := w.hub.tell clusterId c } stream
      { y with published := y.published ++ c.event.toList } := by
  cases hc : c.event with
  | none =>
    have hhub : w.hub.tell clusterId c = w.hub := by rw [ObservedHub.tell, hc]
    rw [hhub, Option.toList_none, List.append_nil]
    exact ⟨h.opened, h.subscription, h.cluster, h.live, h.passed⟩
  | some event =>
    have hhub : w.hub.tell clusterId c = w.hub.step (.publish clusterId event) := by
      rw [ObservedHub.tell, hc]
    have hfor : y.isFor clusterId = true := by
      rw [Subscription.isFor, h.live, h.cluster, beq_self_eq_true]
      rfl
    rw [hhub]
    refine ⟨h.opened, ?_, h.cluster, h.live, h.passed⟩
    refine (getElem?_observe_publish (w.hub.1.serve (.publish clusterId event)).2).trans ?_
    rw [h.subscription, Option.map_some, if_pos hfor]
    rfl

theorem Listening.other (h : Listening clusterId w stream y) {request : HubRequest}
    (helsewhere : request.isElsewhere clusterId w.stream = true) :
    Listening clusterId { w with hub := w.hub.step request } stream y := by
  refine ⟨h.opened, ?_, h.cluster, h.live, h.passed⟩
  have hlt := (List.getElem?_eq_some_iff.mp h.subscription).1
  rw [h.opened] at helsewhere
  cases request with
  | subscribe c =>
    show (w.hub.2 ++ [_])[stream.receiver]? = _
    rw [List.getElem?_append_left hlt, h.subscription]
  | publish c event =>
    have hfor : y.isFor c = false := by
      rw [Subscription.isFor, h.cluster, Bool.and_eq_false_iff]
      exact .inr (beq_false_of_ne (bne_iff_ne.mp helsewhere).symm)
    refine (getElem?_observe_publish (w.hub.1.serve (.publish c event)).2).trans ?_
    rw [h.subscription, Option.map_some, hfor]
    rfl
  | recv receiver =>
    have hne : receiver ≠ stream.receiver := (bne_iff_ne.mp helsewhere).symm
    exact (getElem?_observe_recv hne _).trans h.subscription
  | drop receiver =>
    have hne : receiver ≠ stream.receiver := (bne_iff_ne.mp helsewhere).symm
    show (w.hub.2.modify receiver _)[stream.receiver]? = _
    rw [List.getElem?_modify_ne _ _ hne, h.subscription]

theorem Listening.poll (h : Listening clusterId w stream y) :
    ∃ stream' y', Listening clusterId
        { w with
          hub := w.hub.step (.recv stream.receiver)
          stream := some (stream.next (w.hub.1.channels.recv stream.receiver).2) } stream' y' ∧
      stream'.receiver = stream.receiver ∧ y'.published = y.published ∧
        (y'.lagged = false → y.lagged = false) := by
  let received := (w.hub.1.channels.recv stream.receiver).2
  have hstep : (w.hub.step (.recv stream.receiver)).2 =
      observe w.hub.2 (.recv stream.receiver) (.received received) := rfl
  have hmodify {f : Subscription → Subscription} :
      (w.hub.2.modify stream.receiver f)[stream.receiver]? = some (f y) := by
    rw [List.getElem?_modify_eq, h.subscription]
    rfl
  cases hreceived : received with
  | message event =>
    rw [hreceived] at hstep
    have hnext : stream.next (w.hub.1.channels.recv stream.receiver).2 = stream.take event :=
      congrArg stream.next hreceived
    rw [hnext]
    refine ⟨_, { y with received := y.received ++ [event] }, ⟨rfl, ?_, h.cluster, h.live, ?_⟩,
      EventStream.take_receiver event, rfl, id⟩
    · rw [EventStream.take_receiver, hstep]
      exact hmodify
    · intro hlagged
      rw [EventStream.take_receiver, EventStream.drain_concat, ← h.passed hlagged]
  | lagged n =>
    rw [hreceived] at hstep
    have hnext : stream.next (w.hub.1.channels.recv stream.receiver).2 =
        stream.take (.step "__lagged__") := congrArg stream.next hreceived
    rw [hnext]
    refine ⟨_, { y with lagged := true }, ⟨rfl, ?_, h.cluster, h.live, nofun⟩,
      EventStream.take_receiver _, rfl, nofun⟩
    rw [EventStream.take_receiver, hstep]
    exact hmodify
  | empty | gone =>
    rw [hreceived] at hstep
    have hnext : stream.next (w.hub.1.channels.recv stream.receiver).2 = stream :=
      congrArg stream.next hreceived
    rw [hnext]
    refine ⟨stream, y, ⟨rfl, ?_, h.cluster, h.live, h.passed⟩, rfl, rfl, id⟩
    rw [hstep]
    exact h.subscription

theorem listening_subscribe (h : Attached w.hub) (clusterId : Uuid) :
    Listening clusterId
      { w with
        hub := w.hub.step (.subscribe clusterId)
        stream := some { receiver := (w.hub.1.subscribe clusterId).2 } }
      { receiver := (w.hub.1.subscribe clusterId).2 } { clusterId := clusterId } := by
  refine ⟨rfl, ?_, rfl, rfl, fun _ => rfl⟩
  have hreceiver : (w.hub.1.subscribe clusterId).2 = w.hub.2.length := by
    rw [← h.serves.length_eq]
    unfold ClusterEventHub.subscribe
    split <;> rfl
  show (w.hub.2 ++ [_])[(w.hub.1.subscribe clusterId).2]? = _
  rw [hreceiver, List.getElem?_concat_length]

theorem attached_tell {hub : ObservedHub} (h : Attached hub) (clusterId : Uuid) (c : CloudCall) :
    Attached (hub.tell clusterId c) := by
  unfold ObservedHub.tell
  split
  · exact attached_step h _
  · exact h

/-- Everything that the stream has delivered when it has been polled through what waits for it. -/
def StreamWorld.outcome (w : StreamWorld) (stream : EventStream) : List ClusterEvent :=
  (stream.drain ((w.hub.1.channels.receivers[stream.receiver]?).elim []
    w.hub.1.channels.backlog)).delivered

def StreamWorld.isLagged (w : StreamWorld) (stream : EventStream) : Bool :=
  (w.hub.2[stream.receiver]?).any (·.lagged)

theorem Listening.outcome (h : Listening clusterId w stream y) (hattached : Attached w.hub)
    (hlagged : y.lagged = false) :
    w.outcome stream =
      (EventStream.drain { receiver := stream.receiver } y.published).delivered := by
  obtain ⟨x, hx, hserves⟩ := hattached.serves_of_getElem? h.subscription
  have hdrain : stream.drain (w.hub.1.channels.backlog x) =
      EventStream.drain { receiver := stream.receiver } y.published := by
    conv_lhs => rw [h.passed hlagged]
    rw [← hserves.delivered h.live hlagged, EventStream.drain, EventStream.drain,
      EventStream.drain, List.foldl_append]
  rw [StreamWorld.outcome, hx, Option.elim_some, hdrain]

theorem Listening.isLagged (h : Listening clusterId w stream y) : w.isLagged stream = y.lagged := by
  rw [StreamWorld.isLagged, h.subscription, Option.any_some]

end Listening

/-! ## Runs of the pool -/

/-- The terminal events that a run has published. -/
def announced (τ : Trace streaming) : List ClusterEvent :=
  τ.filterMap fun
    | ⟨.cloud (.publishTerminal status reason), _⟩ => terminalEvent status reason
    | _ => none

/-- The handler has read that the cluster rests. -/
def readSettled (τ : Trace streaming) : Bool :=
  τ.any fun
    | ⟨.cloud .get, .ok cluster⟩ => cluster.status.isSettled
    | _ => false

/-- Unless the handler has read that the cluster rests, or the stream has lagged, the terminal
event of the run is delivered on it. -/
def Delivers (s : StreamState) : Prop :=
  ∀ j τ τ' stream, s.slot 0 = some (.run j, τ) → s.slot 1 = some (.stream, τ') →
    readSettled τ' = false → s.world.stream = some stream → s.world.isLagged stream = false →
    ∀ event ∈ announced τ, event ∈ s.world.outcome stream

/-- The handler subscribes before the run publishes its terminal event, unless it has read that
the cluster rests. -/
def inTime (s : StreamState) : Act StreamJob Outcome → Bool
  | .start _ => true
  | .step i _ =>
    match s.nextCall i with
    | some .subscribe =>
      (s.slot 0).all (fun (_, τ) => (announced τ).isEmpty) ||
        (s.slot 1).any fun (_, τ) => readSettled τ
    | _ => true

def StreamJob.isExternal : StreamJob → Bool
  | .poll | .other _ => true
  | .run _ | .stream => false

def TerminalCall : StreamCall → Prop
  | .cloud c => Terminal c
  | _ => False

/-- What the jobs may call. -/
def StreamJob.Inside : StreamJob → Trace streaming → StreamCall → Prop
  | .run j, τ, c => (∃ c', c = .cloud c') ∧
    (j.movesCluster = true → TerminalCall c → ∀ e ∈ τ, ¬ TerminalCall e.1)
  | .stream, τ, c => τ = [] ∧ c = .cloud .get ∨
    ∃ cluster, τ = [⟨.cloud .get, .ok cluster⟩] ∧ c = .subscribe
  | .poll, _, c => c = .poll
  | .other request, _, c => c = .other request

theorem streamJob_inside (D : Deployment) (job : StreamJob) :
    Meets (I := streaming) job.Inside (fun _ _ _ => True) (fun _ _ => True) (job.program D) [] := by
  cases job with
  | run j =>
    have hcloud : Makes (I := streaming) (fun c => ∃ c', c = .cloud c')
        (StreamJob.program D (.run j)) :=
      makes_embed (fun c _ => ⟨c, rfl⟩) (makes_true (j.program D))
    by_cases hj : j.movesCluster = true
    · have honce : MakesOnce (I := streaming) TerminalCall (StreamJob.program D (.run j)) :=
        makesOnce_embed (fun _ => Iff.rfl) (run_announces_once D hj)
      have hnone : ∀ e ∈ ([] : Trace streaming), ¬ TerminalCall e.1 := fun _ he =>
        absurd he List.not_mem_nil
      refine meets_mono (meets_and_makes (meets_of_makesOnce honce hnone) hcloud) ?_
        fun _ _ h => trivial
      exact fun τ c h => ⟨h.1, fun _ => h.2⟩
    · refine meets_mono (meets_and_makes (meets_true _) hcloud) ?_ fun _ _ h => trivial
      exact fun τ c h => ⟨h.1, fun hmoves => absurd hmoves hj⟩
  | stream =>
    refine ⟨.inl ⟨rfl, rfl⟩, ?_⟩
    rintro (e | cluster) -
    · trivial
    · exact ⟨.inr ⟨cluster, rfl, rfl⟩, fun _ _ => trivial⟩
  | poll => exact ⟨rfl, fun _ _ => trivial⟩
  | other request => exact ⟨rfl, fun _ _ => trivial⟩

/-- What is known at every moment of the run in slot 0 and of the request in slot 1. -/
structure Streaming (clusterId : Uuid) (j : ClusterJob) (s : StreamState)
    (τ τ' : Trace streaming) : Prop where
  jobs : ∃ rest, s.jobs = .run j :: .stream :: rest ∧ ∀ job ∈ rest, job.isExternal = true
  run : s.slot 0 = some (.run j, τ)
  request : s.slot 1 = some (.stream, τ')
  attached : Attached s.world.hub
  closed : s.world.stream ≠ none → τ' ≠ []
  listening : ∀ stream, s.world.stream = some stream → ∃ y,
    Listening clusterId s.world stream y ∧ y.published.filter (·.isTerminal) <:+ announced τ

section Step

variable {D : Deployment} {j : ClusterJob} {s s' : StreamState} {τ τ' : Trace streaming}

theorem Streaming.delivers_iff (h : Streaming D.clusterId j s τ τ') :
    Delivers s ↔ (readSettled τ' = false → ∀ stream y, Listening D.clusterId s.world stream y →
      y.lagged = false → ∀ event ∈ announced τ,
        event ∈ (EventStream.drain { receiver := stream.receiver } y.published).delivered) := by
  constructor
  · intro hdelivers hread stream y hy hlagged event hevent
    rw [← hy.outcome h.attached hlagged]
    exact hdelivers j τ τ' stream h.run h.request hread hy.opened (hy.isLagged.trans hlagged)
      event hevent
  · intro hall j₁ τ₁ τ₁' stream hrun hrequest hread hstream hlagged event hevent
    obtain ⟨-, rfl⟩ := Prod.mk.inj (Option.some.inj (hrun.symm.trans h.run))
    obtain ⟨-, rfl⟩ := Prod.mk.inj (Option.some.inj (hrequest.symm.trans h.request))
    obtain ⟨y, hy, -⟩ := h.listening stream hstream
    rw [hy.isLagged] at hlagged
    rw [hy.outcome h.attached hlagged]
    exact hall hread stream y hy hlagged event hevent

theorem announced_append (τ₁ τ₂ : Trace streaming) :
    announced (τ₁ ++ τ₂) = announced τ₁ ++ announced τ₂ :=
  List.filterMap_append

theorem announced_eq_nil (h : ∀ e ∈ τ, ¬ TerminalCall e.1) : announced τ = [] := by
  rw [announced, List.filterMap_eq_nil_iff]
  rintro ⟨c, r⟩ he
  have hc : ¬ TerminalCall c := h _ he
  cases c with
  | cloud c =>
    cases c with
    | publishTerminal status reason => exact absurd rfl hc
    | _ => rfl
  | _ => rfl

/-- Of what a call tells the hub, the terminal events are announced. -/
theorem filter_event (c : CloudCall) (r : c.Answer) :
    c.event.toList.filter (·.isTerminal) = announced [⟨.cloud c, r⟩] := by
  cases c with
  | publishStep step => rfl
  | publishTerminal status reason => cases status <;> rfl
  | _ => rfl

/-- The run makes a call: what it publishes reaches the subscription. -/
theorem Streaming.step_run (h : Streaming D.clusterId j s τ τ') {x : Outcome}
    {c : CloudCall} {r : c.Answer}
    (hcalls : (streamPool D).Calls s 0 x (.run j) τ (.cloud c) r s') :
    Streaming D.clusterId j s' (τ ++ [⟨.cloud c, r⟩]) τ' := by
  obtain ⟨js, ha, hjobs⟩ := hcalls.jobs
  obtain ⟨⟨cloud, r', js'⟩, -, heq⟩ := Option.map_eq_some_iff.mp ha
  have hworld : s'.world = { s.world with
      cloud := cloud, hub := s.world.hub.tell D.clusterId c } := (congrArg (·.1) heq).symm
  obtain rfl : js = [] := (congrArg (·.2.2) heq).symm
  rw [List.append_nil] at hjobs
  refine ⟨hjobs ▸ h.jobs, hcalls.slot_self, hcalls.slot_other (by decide) h.request,
    hworld ▸ attached_tell h.attached _ _, ?_, ?_⟩
  · rw [hworld]
    exact h.closed
  · rw [hworld]
    intro stream hstream
    obtain ⟨y, hy, t, ht⟩ := h.listening stream hstream
    refine ⟨_, hy.tell cloud c, t, ?_⟩
    rw [List.filter_append, ← List.append_assoc, ht, filter_event c r, announced_append]

/-- The first terminal event of the run is delivered to whoever listens. -/
theorem Streaming.delivers_run (h : Streaming D.clusterId j s τ τ') {x : Outcome} {c : CloudCall}
    {r : c.Answer} (hcalls : (streamPool D).Calls s 0 x (.run j) τ (.cloud c) r s')
    (hfirst : Terminal c → announced τ = []) (hdelivers : Delivers s) : Delivers s' := by
  have h' := h.step_run hcalls
  rw [h.delivers_iff] at hdelivers
  rw [h'.delivers_iff]
  intro hread stream' y' hy' hlagged event hevent
  obtain ⟨js, ha, -⟩ := hcalls.jobs
  obtain ⟨⟨cloud, r', js'⟩, -, heq⟩ := Option.map_eq_some_iff.mp ha
  have hworld : s'.world = { s.world with
      cloud := cloud, hub := s.world.hub.tell D.clusterId c } := (congrArg (·.1) heq).symm
  have hopened : s.world.stream = some stream' := by
    rw [← hy'.opened, hworld]
  obtain ⟨y, hy, t, ht⟩ := h.listening stream' hopened
  have htold := hy.tell cloud c
  rw [← hworld] at htold
  obtain rfl : { y with published := y.published ++ c.event.toList } = y' :=
    Option.some.inj (htold.subscription.symm.trans hy'.subscription)
  rw [announced_append] at hevent
  rcases List.mem_append.mp hevent with hold | hnew
  · -- it was delivered already
    have hbefore := hdelivers hread stream' y hy hlagged event hold
    cases hevent : c.event with
    | none =>
      rw [Option.toList_none, List.append_nil]
      exact hbefore
    | some event' =>
      show event ∈ (EventStream.drain _ (y.published ++ [event'])).delivered
      rw [EventStream.drain_concat]
      exact EventStream.mem_delivered_take hbefore event'
  · -- it is the first
    rw [← filter_event c r] at hnew
    obtain ⟨hmem, hterminal⟩ := List.mem_filter.mp hnew
    have hc : Terminal c := by
      cases c with
      | publishTerminal status reason => rfl
      | publishStep step =>
        rw [List.mem_singleton.mp hmem] at hterminal
        cases hterminal
      | _ => cases hmem
    rw [hfirst hc, List.append_eq_nil_iff] at ht
    have hsteps : ∀ e ∈ y.published, e.isTerminal = false := fun e he => by
      simpa using List.filter_eq_nil_iff.mp ht.2 e he
    have hevent : c.event.toList = [event] := by
      cases hc' : c.event with
      | none => rw [hc'] at hmem; cases hmem
      | some event' =>
        rw [hc', Option.toList_some, List.mem_singleton] at hmem
        rw [hmem]
        rfl
    show event ∈ (EventStream.drain _ (y.published ++ c.event.toList)).delivered
    rw [hevent]
    exact EventStream.mem_drain_of_first hsteps

theorem Streaming.step_poll (h : Streaming D.clusterId j s τ τ') {i : Nat} {x : Outcome}
    {τ₁ : Trace streaming} {r : Unit} (hi : i ≠ 0 ∧ i ≠ 1)
    (hcalls : (streamPool D).Calls s i x .poll τ₁ .poll r s') :
    Streaming D.clusterId j s' τ τ' ∧ (Delivers s → Delivers s') := by
  obtain ⟨js, ha, hjobs⟩ := hcalls.jobs
  have hanswer : ∃ stream, s.world.stream = some stream ∧ s'.world = { s.world with
      hub := s.world.hub.step (.recv stream.receiver)
      stream := some (stream.next (s.world.hub.1.channels.recv stream.receiver).2) } ∧
      js = [] := by
    simp only [streamPool, StreamWorld.answer] at ha
    split at ha
    · cases ha
    · next stream hstream =>
      split at ha
      · cases ha
      · exact ⟨stream, hstream, (congrArg (·.1) (Option.some.inj ha)).symm,
          (congrArg (·.2.2) (Option.some.inj ha)).symm⟩
  obtain ⟨stream, hstream, hworld, rfl⟩ := hanswer
  obtain ⟨y, hy, hpublished⟩ := h.listening stream hstream
  obtain ⟨stream', y', hy', hreceiver, hsame, hlag⟩ := hy.poll
  rw [← hworld] at hy'
  rw [List.append_nil] at hjobs
  have h' : Streaming D.clusterId j s' τ τ' := by
    refine ⟨hjobs ▸ h.jobs, hcalls.slot_other hi.1.symm h.run,
      hcalls.slot_other hi.2.symm h.request, hworld ▸ attached_step h.attached _, ?_, ?_⟩
    · exact fun _ => h.closed (by rw [hstream]; nofun)
    · intro stream'' hstream''
      obtain rfl : stream' = stream'' := Option.some.inj (hy'.opened.symm.trans hstream'')
      exact ⟨y', hy', hsame ▸ hpublished⟩
  refine ⟨h', fun hdelivers => ?_⟩
  rw [h.delivers_iff] at hdelivers
  rw [h'.delivers_iff]
  intro hread stream'' y'' hy'' hlagged event hevent
  obtain rfl : stream' = stream'' := Option.some.inj (hy'.opened.symm.trans hy''.opened)
  obtain rfl : y' = y'' := Option.some.inj (hy'.subscription.symm.trans hy''.subscription)
  rw [hreceiver, hsame]
  exact hdelivers hread stream y hy (hlag hlagged) event hevent

theorem Streaming.step_other (h : Streaming D.clusterId j s τ τ') {i : Nat} {x : Outcome}
    {τ₁ : Trace streaming} {request : HubRequest} {r : Unit} (hi : i ≠ 0 ∧ i ≠ 1)
    (hcalls : (streamPool D).Calls s i x (.other request) τ₁ (.other request) r s') :
    Streaming D.clusterId j s' τ τ' ∧ (Delivers s → Delivers s') := by
  obtain ⟨js, ha, hjobs⟩ := hcalls.jobs
  have hanswer : request.isElsewhere D.clusterId s.world.stream = true ∧
      s'.world = { s.world with hub := s.world.hub.step request } ∧ js = [] := by
    simp only [streamPool, StreamWorld.answer] at ha
    split at ha
    · next helsewhere =>
      exact ⟨helsewhere, (congrArg (·.1) (Option.some.inj ha)).symm,
        (congrArg (·.2.2) (Option.some.inj ha)).symm⟩
    · cases ha
  obtain ⟨helsewhere, hworld, rfl⟩ := hanswer
  rw [List.append_nil] at hjobs
  have hsame : s'.world.stream = s.world.stream := by rw [hworld]
  have hkeeps {stream : EventStream} {y : Subscription}
      (hy : Listening D.clusterId s.world stream y) : Listening D.clusterId s'.world stream y :=
    hworld ▸ hy.other helsewhere
  have h' : Streaming D.clusterId j s' τ τ' := by
    refine ⟨hjobs ▸ h.jobs, hcalls.slot_other hi.1.symm h.run,
      hcalls.slot_other hi.2.symm h.request, hworld ▸ attached_step h.attached _, ?_, ?_⟩
    · rw [hsame]
      exact h.closed
    · rw [hsame]
      intro stream hstream
      obtain ⟨y, hy, hpublished⟩ := h.listening stream hstream
      exact ⟨y, hkeeps hy, hpublished⟩
  refine ⟨h', fun hdelivers => ?_⟩
  rw [h.delivers_iff] at hdelivers
  rw [h'.delivers_iff]
  intro hread stream y' hy' hlagged event hevent
  obtain ⟨y, hy, -⟩ := h.listening stream (hsame ▸ hy'.opened)
  obtain rfl : y = y' := Option.some.inj ((hkeeps hy).subscription.symm.trans hy'.subscription)
  exact hdelivers hread stream y hy hlagged event hevent

/-- The handler reads the cluster: nobody listens yet. -/
theorem Streaming.step_get (h : Streaming D.clusterId j s τ []) {x : Outcome}
    {r : CloudCall.get.Answer} (hcalls : (streamPool D).Calls s 1 x .stream [] (.cloud .get) r s') :
    Streaming D.clusterId j s' τ [⟨.cloud .get, r⟩] ∧ Delivers s' := by
  obtain ⟨js, ha, hjobs⟩ := hcalls.jobs
  obtain ⟨⟨cloud, r', js'⟩, -, heq⟩ := Option.map_eq_some_iff.mp ha
  have hworld : s'.world = { s.world with cloud := cloud } := (congrArg (·.1) heq).symm
  obtain rfl : js = [] := (congrArg (·.2.2) heq).symm
  rw [List.append_nil] at hjobs
  have hnone : s'.world.stream = none := by
    rw [hworld]
    by_contra hsome
    exact h.closed hsome rfl
  have h' : Streaming D.clusterId j s' τ [⟨.cloud .get, r⟩] := by
    refine ⟨hjobs ▸ h.jobs, hcalls.slot_other (by decide) h.run, hcalls.slot_self,
      hworld ▸ h.attached, fun _ => nofun, ?_⟩
    rw [hnone]
    exact nofun
  refine ⟨h', fun _ _ _ stream _ _ _ hstream => ?_⟩
  rw [hnone] at hstream
  cases hstream

/-- The handler subscribes: what was published before is lost. -/
theorem Streaming.step_subscribe (h : Streaming D.clusterId j s τ τ') {x : Outcome}
    {receiver : Nat} (hcalls : (streamPool D).Calls s 1 x .stream τ' .subscribe receiver s') :
    Streaming D.clusterId j s' τ (τ' ++ [⟨.subscribe, receiver⟩]) ∧
      (Delivers s' ↔ announced τ = [] ∨ readSettled τ' = true) := by
  obtain ⟨js, ha, hjobs⟩ := hcalls.jobs
  have hanswer := Option.some.inj ha
  have hworld : s'.world = { s.world with
      hub := s.world.hub.step (.subscribe D.clusterId)
      stream := some { receiver := (s.world.hub.1.subscribe D.clusterId).2 } } :=
    (congrArg (·.1) hanswer).symm
  obtain rfl : js = [] := (congrArg (·.2.2) hanswer).symm
  rw [List.append_nil] at hjobs
  have hnew := listening_subscribe (w := s.world) h.attached D.clusterId
  rw [← hworld] at hnew
  have h' : Streaming D.clusterId j s' τ (τ' ++ [⟨.subscribe, receiver⟩]) := by
    refine ⟨hjobs ▸ h.jobs, hcalls.slot_other (by decide) h.run, hcalls.slot_self,
      hworld ▸ attached_step h.attached _, fun _ => by simp, fun stream hstream => ?_⟩
    obtain rfl := Option.some.inj (hnew.opened.symm.trans hstream)
    exact ⟨_, hnew, List.nil_suffix⟩
  refine ⟨h', ?_⟩
  have hread : readSettled (τ' ++ [⟨.subscribe, receiver⟩]) = readSettled τ' := by
    rw [readSettled, List.any_append]
    exact Bool.or_false _
  rw [h'.delivers_iff, hread]
  constructor
  · intro hall
    by_cases hsettled : readSettled τ' = true
    · exact .inr hsettled
    · refine .inl (List.eq_nil_iff_forall_not_mem.mpr fun event hevent => ?_)
      have hmem := hall (Bool.eq_false_of_not_eq_true hsettled) _ _ hnew rfl event hevent
      cases hmem
  · rintro (hnone | hsettled) hunsettled stream y - - event hevent
    · rw [hnone] at hevent
      cases hevent
    · rw [hsettled] at hunsettled
      cases hunsettled

theorem inTime_of_ne {i : Nat} {x : Outcome} {c : StreamCall} (hnext : s.nextCall i = some c)
    (hc : c ≠ .subscribe) : inTime s (.step i x) = true := by
  rw [inTime, hnext]
  cases c with
  | subscribe => exact absurd rfl hc
  | _ => rfl

/-- A request from outside joins, and nobody there notices. -/
theorem Streaming.step_start (h : Streaming D.clusterId j s τ τ') {job : StreamJob}
    (hexternal : job.isExternal = true)
    (hstep : (streamPool D).step s (.start job) = some s') :
    Streaming D.clusterId j s' τ τ' ∧ (Delivers s → Delivers s') := by
  obtain ⟨-, hs'⟩ := Pool.step_start.mp hstep
  have hworld : s'.world = s.world := by rw [hs']
  have h' : Streaming D.clusterId j s' τ τ' := by
    refine ⟨?_, Pool.slot_start hstep h.run, Pool.slot_start hstep h.request,
      hworld ▸ h.attached, hworld ▸ h.closed, hworld ▸ h.listening⟩
    obtain ⟨rest, hjobs, hrest⟩ := h.jobs
    refine ⟨rest ++ [job], ?_, ?_⟩
    · rw [hs', PoolState.jobs, List.map_append]
      exact congrArg (· ++ [job]) hjobs
    · intro job' hjob'
      rcases List.mem_append.mp hjob' with hold | hnew
      · exact hrest job' hold
      · rw [List.mem_singleton.mp hnew]
        exact hexternal
  refine ⟨h', fun hdelivers => ?_⟩
  rw [h.delivers_iff] at hdelivers
  rw [h'.delivers_iff, hworld]
  exact hdelivers

/-- A step keeps the terminal event from being lost exactly if it is in time. -/
theorem Streaming.step (h : Streaming D.clusterId j s τ τ') (hj : j.movesCluster = true)
    (hs : Pool.Slots StreamJob.Inside (fun _ _ _ => True) (fun _ => True) (fun _ _ _ => True) s)
    {a : Act StreamJob Outcome} (hstep : (streamPool D).step s a = some s') :
    (∃ τ₁ τ₁', Streaming D.clusterId j s' τ₁ τ₁') ∧
      (Delivers s → (Delivers s' ↔ inTime s a = true)) := by
  cases a with
  | start job =>
    obtain ⟨hexternal, -⟩ := Pool.step_start.mp hstep
    obtain ⟨h', hdelivers⟩ := h.step_start (by cases job <;> trivial) hstep
    exact ⟨⟨τ, τ', h'⟩, fun hd => ⟨fun _ => rfl, fun _ => hdelivers hd⟩⟩
  | step i x =>
    obtain ⟨job, τ₁, c, r, hcalls⟩ := Pool.calls_of_step hstep
    have hinside := hs.inside hcalls
    have hjob := PoolState.job_of_slot hcalls.slot
    obtain ⟨rest, hjobs, hrest⟩ := h.jobs
    rw [hjobs] at hjob
    have hplace : i = 0 ∧ job = .run j ∨ i = 1 ∧ job = .stream ∨
        (i ≠ 0 ∧ i ≠ 1) ∧ job.isExternal = true := by
      rcases i with _ | _ | i
      · exact .inl ⟨rfl, (Option.some.inj hjob).symm⟩
      · exact .inr (.inl ⟨rfl, (Option.some.inj hjob).symm⟩)
      · exact .inr (.inr ⟨⟨by omega, by omega⟩, hrest job (List.mem_of_getElem? hjob)⟩)
    rcases hplace with ⟨rfl, rfl⟩ | ⟨rfl, rfl⟩ | ⟨hi, hexternal⟩
    · obtain ⟨-, rfl⟩ := Prod.mk.inj (Option.some.inj (hcalls.slot.symm.trans h.run))
      obtain ⟨⟨c, rfl⟩, hfirst⟩ := hinside
      refine ⟨⟨_, _, h.step_run hcalls⟩, fun hdelivers => ?_⟩
      refine ⟨fun _ => inTime_of_ne hcalls.nextCall fun heq => ?_, fun _ => ?_⟩
      · cases heq
      · exact h.delivers_run hcalls (fun hc => announced_eq_nil (hfirst hj hc)) hdelivers
    · obtain ⟨-, rfl⟩ := Prod.mk.inj (Option.some.inj (hcalls.slot.symm.trans h.request))
      rcases hinside with ⟨rfl, rfl⟩ | ⟨cluster, rfl, rfl⟩
      · obtain ⟨h', hdelivers⟩ := h.step_get hcalls
        refine ⟨⟨_, _, h'⟩, fun _ => ⟨fun _ => ?_, fun _ => hdelivers⟩⟩
        apply inTime_of_ne hcalls.nextCall
        intro heq
        cases heq
      · obtain ⟨h', hiff⟩ := h.step_subscribe hcalls
        refine ⟨⟨_, _, h'⟩, fun _ => ?_⟩
        rw [hiff, inTime, hcalls.nextCall]
        dsimp only
        rw [h.run, h.request, Option.all_some, Option.any_some, Bool.or_eq_true,
          List.isEmpty_iff]
    · cases job with
      | run j | stream => cases hexternal
      | poll =>
        obtain rfl : c = .poll := hinside
        obtain ⟨h', hdelivers⟩ := h.step_poll hi hcalls
        refine ⟨⟨_, _, h'⟩, fun hd => ⟨fun _ => ?_, fun _ => hdelivers hd⟩⟩
        apply inTime_of_ne hcalls.nextCall
        intro heq
        cases heq
      | other request =>
        obtain rfl : c = .other request := hinside
        obtain ⟨h', hdelivers⟩ := h.step_other hi hcalls
        refine ⟨⟨_, _, h'⟩, fun hd => ⟨fun _ => ?_, fun _ => hdelivers hd⟩⟩
        apply inTime_of_ne hcalls.nextCall
        intro heq
        cases heq

end Step

theorem streaming_start (D : Deployment) (j : ClusterJob) (w : Cloud)
    (requests : List HubRequest) :
    Streaming D.clusterId j (startStream D j w requests) [] [] where
  jobs := ⟨[], rfl, nofun⟩
  run := rfl
  request := rfl
  attached := attached_observed requests
  closed := fun hsome => absurd rfl hsome
  listening := nofun

theorem slots_start (D : Deployment) (j : ClusterJob) (w : Cloud) (requests : List HubRequest) :
    Pool.Slots StreamJob.Inside (fun _ _ _ => True) (fun _ => True) (fun _ _ _ => True)
      (startStream D j w requests) where
  world := trivial
  slot := fun _ => trivial
  meets := by
    intro t ht
    rcases List.mem_cons.mp ht with rfl | ht
    · exact streamJob_inside D (.run j)
    · rw [List.mem_singleton.mp ht]
      exact streamJob_inside D .stream

/-- In a run of the pool no terminal event is lost at any moment if and only if the handler, unless
it has read that the cluster rests, subscribes before the event is published. -/
theorem stream_delivers_iff {D : Deployment} {j : ClusterJob} {w : Cloud}
    {requests : List HubRequest} {as : List (Act StreamJob Outcome)} {s : StreamState}
    (hj : j.movesCluster = true)
    (h : (streamPool D).exec (startStream D j w requests) as = some s) :
    (∀ as₁ as₂ s₁, as = as₁ ++ as₂ →
      (streamPool D).exec (startStream D j w requests) as₁ = some s₁ → Delivers s₁) ↔
        (streamPool D).allSteps inTime (startStream D j w requests) as = true := by
  let Known (s : StreamState) : Prop :=
    Pool.Slots StreamJob.Inside (fun _ _ _ => True) (fun _ => True) (fun _ _ _ => True) s ∧
      ∃ τ τ', Streaming D.clusterId j s τ τ'
  have hknown {s : StreamState} {a : Act StreamJob Outcome} {s' : StreamState} (hs : Known s)
      (hstep : (streamPool D).step s a = some s') : Known s' := by
    obtain ⟨hslots, τ, τ', hstreaming⟩ := hs
    refine ⟨?_, (hstreaming.step hj hslots hstep).1⟩
    have hexec : (streamPool D).exec s [a] = some s' := by rw [Pool.exec_cons, hstep]; rfl
    exact Pool.exec_slots (C := fun _ _ => true) (streamJob_inside D) (fun _ _ _ _ _ => trivial)
      (fun _ _ _ _ _ _ _ _ _ _ _ _ _ _ => ⟨trivial, trivial, fun _ _ => trivial⟩) hslots
      (Pool.allSteps_of_forall fun _ _ _ => rfl) hexec
  have hstart : Known (startStream D j w requests) :=
    ⟨slots_start D j w requests, [], [], streaming_start D j w requests⟩
  have hnobody : Delivers (startStream D j w requests) := by
    rintro j₁ τ τ' stream - - - hstream
    cases hstream
  have hiff := Pool.exec_invariant_iff (Q := fun s => Known s ∧ Delivers s) (C := inTime)
    (fun s a s' hs hstep => ?_) ⟨hstart, hnobody⟩ h
  · rw [← hiff]
    constructor
    · intro hall as₁ as₂ s₁ heq hrun
      refine ⟨?_, hall as₁ as₂ s₁ heq hrun⟩
      exact Pool.exec_invariant (C := fun _ _ => true) (fun s a s' hs _ hstep => hknown hs hstep)
        hstart (Pool.allSteps_of_forall fun _ _ _ => rfl) hrun
    · exact fun hall as₁ as₂ s₁ heq hrun => (hall as₁ as₂ s₁ heq hrun).2
  · obtain ⟨hslots, τ, τ', hstreaming⟩ := hs.1
    rw [and_iff_right (hknown hs.1 hstep)]
    exact (hstreaming.step hj hslots hstep).2 hs.2

/-- The next calls of slot `i`, all of them successful. -/
def succeeding (i n : Nat) : List (Act StreamJob Outcome) := List.replicate n (.step i {})

/-- The browser opens the stream while the cluster is being destroyed. -/
def openedEarly : List (Act StreamJob Outcome) :=
  succeeding 0 2 ++ succeeding 1 2 ++ succeeding 0 9

theorem stream_delivers_iff_openedEarly :
    ∃ s, (streamPool seventhCluster).exec (startStream seventhCluster .destroy readyCluster [])
        openedEarly = some s ∧ Delivers s := by
  have hrun : ((streamPool seventhCluster).exec (startStream seventhCluster .destroy readyCluster [])
      openedEarly).isSome = true := by decide +kernel
  obtain ⟨s, hs⟩ := Option.isSome_iff_exists.mp hrun
  have hintime : (streamPool seventhCluster).allSteps inTime
      (startStream seventhCluster .destroy readyCluster []) openedEarly = true := by
    decide +kernel
  exact ⟨s, hs, (stream_delivers_iff rfl hs).mpr hintime openedEarly [] s
    (List.append_nil _).symm hs⟩

/-- The cluster is destroyed between the two steps of the handler. -/
def openedLate : List (Act StreamJob Outcome) :=
  succeeding 0 2 ++ succeeding 1 1 ++ succeeding 0 9 ++ succeeding 1 1

theorem not_stream_delivers :
    ¬ ∀ (D : Deployment) (j : ClusterJob) (w : Cloud) (requests : List HubRequest)
      (as : List (Act StreamJob Outcome)) (s : StreamState), j.movesCluster = true →
      (streamPool D).exec (startStream D j w requests) as = some s → Delivers s := by
  intro h
  have hrun : ((streamPool seventhCluster).exec (startStream seventhCluster .destroy readyCluster [])
      openedLate).any (fun s => (s.slot 0).any (fun (j, τ) =>
          (match j with | .run _ => true | _ => false) &&
            (announced τ).contains (.terminal "destroyed" none)) &&
        (s.slot 1).any (fun (j, τ) =>
          (match j with | .stream => true | _ => false) && !readSettled τ) &&
        s.world.stream.any fun stream => !s.world.isLagged stream &&
          (s.world.outcome stream).isEmpty) = true := by decide +kernel
  obtain ⟨s, hs, hend⟩ := (Option.any_eq_true _ _).mp hrun
  rw [Bool.and_eq_true, Bool.and_eq_true, Option.any_eq_true, Option.any_eq_true,
    Option.any_eq_true] at hend
  obtain ⟨⟨⟨⟨j, τ⟩, hslot, hannounced⟩, ⟨j', τ'⟩, hslot', hread⟩, stream, hstream, hlost⟩ := hend
  rw [Bool.and_eq_true] at hannounced hread hlost
  obtain ⟨hj, hevent⟩ := hannounced
  obtain ⟨hj', hread⟩ := hread
  cases j with
  | run j =>
    cases j' with
    | stream =>
      have hmem := h _ _ _ _ _ s rfl hs j τ τ' stream hslot hslot'
        ((Bool.not_eq_true' _).mp hread) hstream ((Bool.not_eq_true' _).mp hlost.1) _
        (List.elem_iff.mp hevent)
      rw [List.isEmpty_iff.mp hlost.2] at hmem
      cases hmem
    | _ => cases hj'
  | _ => cases hj

end Kubinate.Clusters
