import Kubinate.Agent.Tunnel
import Kubinate.Library.Machine

/-!
# A session of the tunnel, both ends

`run_session` of `agent/src/connect.rs` at one end, `open_stream` at the other, and between
them a transport that keeps the order of each direction. The agent has two tasks: the ticker
puts heartbeats into a channel of 32, and the reader takes the server's messages. The server
takes one message after the other, and waits for room in a channel of 16 before it goes on.
Each of them may act whenever it can, and the transport may break at any moment: then a part
of what is under way arrives, and the rest is lost.

* `touches_own`: an agent that beats for one cluster changes no other one.
* `reads_answer_heartbeats`: in every run the acknowledgements that the agent has read are
  those of its first heartbeats, one each and in order; the agent is never told to exit.
* `all_answered`: while the transport holds and the ticker rests, every order of the steps
  that are left comes to an end, and then every heartbeat is acknowledged.

How much the transport takes at a time, the clocks and the parser of UUIDs are parameters.
-/

namespace Kubinate.Agent

open Platform Library

/-! ## What the server sends -/

structure GracefulRestart where
  graceSeconds : Int
deriving DecidableEq, Repr

structure Command where
  kind : Option GracefulRestart
deriving DecidableEq, Repr

inductive ServerPayload where
  | heartbeatAck (receivedAtMs : Int)
  | command (cmd : Command)
deriving DecidableEq, Repr

structure ServerToAgent where
  payload : Option ServerPayload
deriving DecidableEq, Repr

/-! ## The agent -/

/-- `CARGO_PKG_VERSION` of the workspace. -/
def cargoPkgVersion : String := "0.1.0"

/-- What a session reads of the configuration. -/
structure AgentConfig where
  clusterId : String
deriving DecidableEq, Repr

def AgentConfig.heartbeat (config : AgentConfig) (sentAtMs : Int) : Heartbeat :=
  { clusterId := config.clusterId
    agentVersion := cargoPkgVersion
    k3sVersion := ""
    sentAtMs := sentAtMs }

/-- The task of the heartbeats: between two ticks, waiting for room in the channel, or over. -/
inductive HeartbeatTask where
  | ticking
  | sending (heartbeat : Heartbeat)
  | ended
deriving DecidableEq, Repr

/-- How the session ends: `Ok`, `Err`, or with the whole process. -/
inductive SessionEnd where
  | closed
  | failed
  | exited
deriving DecidableEq, Repr

/-- The body of the reader's loop: whether the session ends with what came. -/
def dispatch (item : Except Nat ServerToAgent) : Option SessionEnd :=
  match item with
  | .error _ => some .failed
  | .ok msg =>
    match msg.payload with
    | none => none
    | some (.heartbeatAck _) => none
    | some (.command cmd) =>
      match cmd.kind with
      | some _ => some .exited
      | none => none

/-! ## The server -/

/-- The server between two messages, waiting for room for an acknowledgement, or over. A
message that waits for its acknowledgement counts as handled on a closed channel. -/
inductive HandlerTask where
  | reading (s : StreamState)
  | answering (s : StreamState) (i : Inbound)
  | ended (unanswered : Option Inbound)

/-- The message that has been handled without an acknowledgement. -/
def HandlerTask.current : HandlerTask → List Inbound
  | .reading _ => []
  | .answering _ i => [i]
  | .ended unanswered => unanswered.toList

/-- The same message on an open channel. -/
def Inbound.opened (i : Inbound) : Inbound :=
  { i with moment := { i.moment with outboundOpen := true } }

/-! ## The link -/

/-- Both ends and what is under way, and below what has happened so far. -/
structure Link where
  heartbeatTask : HeartbeatTask := .ticking
  /-- the agent's channel -/
  outbound : List AgentToServer := []
  up : Bool := true
  toServer : List AgentToServer := []
  handler : HandlerTask := .reading {}
  /-- the server's channel -/
  responses : List ServerToAgent := []
  toAgent : List ServerToAgent := []
  sessionEnd : Option SessionEnd := none
  /-- the heartbeats that the ticker has put into the channel -/
  sent : List Heartbeat := []
  /-- the messages that the server has handled to the end -/
  handled : List Inbound := []
  effects : List Effect := []
  /-- the messages that the agent has read -/
  read : List ServerToAgent := []

inductive LinkAct where
  | tick (sentAtMs : Int)
  | send
  | ship
  | take (moment : Moment)
  | answer
  | deliver
  | read
  /-- the transport breaks; so many messages of each direction still arrive -/
  | fail (arriveAtServer arriveAtAgent : Nat)
  | serverSeesFailure
  /-- the agent reads an error, or the end of the stream -/
  | agentSeesFailure (status : Option Nat)
  /-- the server has dropped its channel -/
  | agentSeesEnd

def outboundCapacity : Nat := 32

def responseCapacity : Nat := 16

section

variable (parseUuid : String → Option Uuid) (window : Nat) (config : AgentConfig)

/-- The server handles a message as far as it can without room in its channel. -/
def Link.take (l : Link) (s : StreamState) (msg : AgentToServer) (moment : Moment) : Link :=
  let i : Inbound := ⟨{ moment with outboundOpen := false }, .ok msg⟩
  let effects := l.effects ++ (handle parseUuid s i).2
  match (handle parseUuid s i.opened).1 with
  | none => { l with handler := .ended (some i), effects := effects }
  | some s' =>
    if i.heartbeat.isSome then { l with handler := .answering s' i, effects := effects }
    else
      { l with handler := .reading s', handled := l.handled ++ [i.opened], effects := effects }

/-- The reader goes on, or leaves its loop by `?`, or the process is over. -/
def Link.readItem (l : Link) (item : Except Nat ServerToAgent) : Link :=
  { l with
    sessionEnd := dispatch item
    heartbeatTask := if dispatch item = some .exited then .ended else l.heartbeatTask }

/-- The stream has ended for the reader, and it stops the ticker. -/
def Link.close (l : Link) : Link :=
  { l with sessionEnd := some .closed, heartbeatTask := .ended }

def step (l : Link) : LinkAct → Option Link
  | .tick sentAtMs =>
    match l.heartbeatTask with
    | .ticking => some { l with heartbeatTask := .sending (config.heartbeat sentAtMs) }
    | _ => none
  | .send =>
    match l.heartbeatTask with
    | .sending heartbeat =>
      -- a transport that has failed has dropped the receiver
      if !l.up then some { l with heartbeatTask := .ended }
      else if l.outbound.length < outboundCapacity then
        some { l with
          heartbeatTask := .ticking
          outbound := l.outbound ++ [⟨some (.heartbeat heartbeat)⟩]
          sent := l.sent ++ [heartbeat] }
      else none
    | _ => none
  | .ship =>
    match l.outbound with
    | msg :: rest =>
      if l.up && decide (l.toServer.length < window) then
        some { l with outbound := rest, toServer := l.toServer ++ [msg] }
      else none
    | [] => none
  | .take moment =>
    match l.handler, l.toServer with
    | .reading s, msg :: rest => some ({ l with toServer := rest }.take parseUuid s msg moment)
    | _, _ => none
  | .answer =>
    match l.handler with
    | .answering s i =>
      if !l.up then some { l with handler := .ended (some i) }
      else if l.responses.length < responseCapacity then
        some { l with
          handler := .reading s
          handled := l.handled ++ [i.opened]
          effects := l.effects ++ [.heartbeatAck i.moment.wallClockMs]
          responses := l.responses ++ [⟨some (.heartbeatAck i.moment.wallClockMs)⟩] }
      else none
    | _ => none
  | .deliver =>
    match l.responses with
    | msg :: rest =>
      if l.up && decide (l.toAgent.length < window) then
        some { l with responses := rest, toAgent := l.toAgent ++ [msg] }
      else none
    | [] => none
  | .read =>
    match l.sessionEnd, l.toAgent with
    | none, msg :: rest =>
      some ({ l with toAgent := rest, read := l.read ++ [msg] }.readItem (.ok msg))
    | _, _ => none
  | .fail arriveAtServer arriveAtAgent =>
    if l.up then
      some { l with
        up := false
        outbound := []
        toServer := l.toServer.take arriveAtServer
        responses := []
        toAgent := l.toAgent.take arriveAtAgent }
    else none
  | .serverSeesFailure =>
    match l.handler with
    | .reading _ =>
      if !l.up && l.toServer.isEmpty then some { l with handler := .ended none } else none
    | _ => none
  | .agentSeesFailure status =>
    if l.sessionEnd.isNone && !l.up && l.toAgent.isEmpty then
      match status with
      | some code => some (l.readItem (.error code))
      | none => some l.close
    else none
  | .agentSeesEnd =>
    match l.handler with
    | .ended _ =>
      if l.sessionEnd.isNone && l.up && l.responses.isEmpty && l.toAgent.isEmpty then
        some l.close
      else none
    | _ => none

end

/-! ## What a step can be -/

section

variable {parseUuid : String → Option Uuid} {window : Nat} {config : AgentConfig} {l l' : Link}
  {a : LinkAct}

/-- The steps of the link, each with what it needs. -/
inductive Moves (parseUuid : String → Option Uuid) (window : Nat) (config : AgentConfig)
    (l : Link) : LinkAct → Link → Prop where
  | tick {sentAtMs : Int} (hticking : l.heartbeatTask = .ticking) :
    Moves parseUuid window config l (.tick sentAtMs)
      { l with heartbeatTask := .sending (config.heartbeat sentAtMs) }
  | sendFails {heartbeat : Heartbeat} (hsending : l.heartbeatTask = .sending heartbeat)
    (hdown : l.up = false) :
    Moves parseUuid window config l .send { l with heartbeatTask := .ended }
  | send {heartbeat : Heartbeat} (hsending : l.heartbeatTask = .sending heartbeat)
    (hup : l.up = true) (hroom : l.outbound.length < outboundCapacity) :
    Moves parseUuid window config l .send
      { l with
        heartbeatTask := .ticking
        outbound := l.outbound ++ [⟨some (.heartbeat heartbeat)⟩]
        sent := l.sent ++ [heartbeat] }
  | ship {msg : AgentToServer} {rest : List AgentToServer} (houtbound : l.outbound = msg :: rest)
    (hup : l.up = true) (hroom : l.toServer.length < window) :
    Moves parseUuid window config l .ship
      { l with outbound := rest, toServer := l.toServer ++ [msg] }
  | take {moment : Moment} {s : StreamState} {msg : AgentToServer} {rest : List AgentToServer}
    (hreading : l.handler = .reading s) (htoServer : l.toServer = msg :: rest) :
    Moves parseUuid window config l (.take moment)
      ({ l with toServer := rest }.take parseUuid s msg moment)
  | answerFails {s : StreamState} {i : Inbound} (hanswering : l.handler = .answering s i)
    (hdown : l.up = false) :
    Moves parseUuid window config l .answer { l with handler := .ended (some i) }
  | answer {s : StreamState} {i : Inbound} (hanswering : l.handler = .answering s i)
    (hup : l.up = true) (hroom : l.responses.length < responseCapacity) :
    Moves parseUuid window config l .answer
      { l with
        handler := .reading s
        handled := l.handled ++ [i.opened]
        effects := l.effects ++ [.heartbeatAck i.moment.wallClockMs]
        responses := l.responses ++ [⟨some (.heartbeatAck i.moment.wallClockMs)⟩] }
  | deliver {msg : ServerToAgent} {rest : List ServerToAgent} (hresponses : l.responses = msg :: rest)
    (hup : l.up = true) (hroom : l.toAgent.length < window) :
    Moves parseUuid window config l .deliver
      { l with responses := rest, toAgent := l.toAgent ++ [msg] }
  | read {msg : ServerToAgent} {rest : List ServerToAgent} (hruns : l.sessionEnd = none)
    (htoAgent : l.toAgent = msg :: rest) :
    Moves parseUuid window config l .read
      ({ l with toAgent := rest, read := l.read ++ [msg] }.readItem (.ok msg))
  | fail {n m : Nat} (hup : l.up = true) :
    Moves parseUuid window config l (.fail n m)
      { l with
        up := false
        outbound := []
        toServer := l.toServer.take n
        responses := []
        toAgent := l.toAgent.take m }
  | serverSeesFailure {s : StreamState} (hreading : l.handler = .reading s) (hdown : l.up = false)
    (htoServer : l.toServer = []) :
    Moves parseUuid window config l .serverSeesFailure { l with handler := .ended none }
  | agentSeesError {code : Nat} (hruns : l.sessionEnd = none) (hdown : l.up = false)
    (htoAgent : l.toAgent = []) :
    Moves parseUuid window config l (.agentSeesFailure (some code)) (l.readItem (.error code))
  | agentSeesFailure (hruns : l.sessionEnd = none) (hdown : l.up = false)
    (htoAgent : l.toAgent = []) :
    Moves parseUuid window config l (.agentSeesFailure none) l.close
  | agentSeesEnd {unanswered : Option Inbound} (hended : l.handler = .ended unanswered)
    (hruns : l.sessionEnd = none) (hup : l.up = true) (hresponses : l.responses = [])
    (htoAgent : l.toAgent = []) :
    Moves parseUuid window config l .agentSeesEnd l.close

theorem moves_of_step (h : step parseUuid window config l a = some l') :
    Moves parseUuid window config l a l' := by
  cases a with
  | tick sentAtMs =>
    simp only [step] at h
    split at h
    case h_1 hticking =>
      cases h
      exact .tick hticking
    case h_2 => cases h
  | send =>
    simp only [step] at h
    split at h
    case h_1 heartbeat hsending =>
      split at h
      case isTrue hdown =>
        cases h
        exact .sendFails hsending (by simpa using hdown)
      case isFalse hup =>
        split at h
        case isTrue hroom =>
          cases h
          exact .send hsending (by simpa using hup) hroom
        case isFalse => cases h
    case h_2 => cases h
  | ship =>
    simp only [step] at h
    split at h
    case h_1 msg rest houtbound =>
      split at h
      case isTrue hif =>
        cases h
        obtain ⟨hup, hroom⟩ := Bool.and_eq_true_iff.mp hif
        exact .ship houtbound hup (of_decide_eq_true hroom)
      case isFalse => cases h
    case h_2 => cases h
  | take moment =>
    simp only [step] at h
    split at h
    case h_1 s msg rest hreading htoServer =>
      cases h
      exact .take hreading htoServer
    case h_2 => cases h
  | answer =>
    simp only [step] at h
    split at h
    case h_1 s i hanswering =>
      split at h
      case isTrue hdown =>
        cases h
        exact .answerFails hanswering (by simpa using hdown)
      case isFalse hup =>
        split at h
        case isTrue hroom =>
          cases h
          exact .answer hanswering (by simpa using hup) hroom
        case isFalse => cases h
    case h_2 => cases h
  | deliver =>
    simp only [step] at h
    split at h
    case h_1 msg rest hresponses =>
      split at h
      case isTrue hif =>
        cases h
        obtain ⟨hup, hroom⟩ := Bool.and_eq_true_iff.mp hif
        exact .deliver hresponses hup (of_decide_eq_true hroom)
      case isFalse => cases h
    case h_2 => cases h
  | read =>
    simp only [step] at h
    split at h
    case h_1 msg rest hruns htoAgent =>
      cases h
      exact .read hruns htoAgent
    case h_2 => cases h
  | fail n m =>
    simp only [step] at h
    split at h
    case isTrue hup =>
      cases h
      exact .fail hup
    case isFalse => cases h
  | serverSeesFailure =>
    simp only [step] at h
    split at h
    case h_1 s hreading =>
      split at h
      case isTrue hif =>
        cases h
        simp only [Bool.and_eq_true, Bool.not_eq_true', List.isEmpty_iff] at hif
        exact .serverSeesFailure hreading hif.1 hif.2
      case isFalse => cases h
    case h_2 => cases h
  | agentSeesFailure status =>
    simp only [step] at h
    split at h
    case isTrue hif =>
      simp only [Bool.and_eq_true, Option.isNone_iff_eq_none, Bool.not_eq_true',
        List.isEmpty_iff] at hif
      obtain ⟨⟨hruns, hdown⟩, htoAgent⟩ := hif
      cases status with
      | some code =>
        cases h
        exact .agentSeesError hruns hdown htoAgent
      | none =>
        cases h
        exact .agentSeesFailure hruns hdown htoAgent
    case isFalse => cases h
  | agentSeesEnd =>
    simp only [step] at h
    split at h
    case h_1 unanswered hended =>
      split at h
      case isTrue hif =>
        cases h
        simp only [Bool.and_eq_true, Option.isNone_iff_eq_none, List.isEmpty_iff] at hif
        obtain ⟨⟨⟨hruns, hup⟩, hresponses⟩, htoAgent⟩ := hif
        exact .agentSeesEnd hended hruns hup hresponses htoAgent
      case isFalse => cases h
    case h_2 => cases h

end

/-! ## What holds on the way -/

def Heartbeat.message (heartbeat : Heartbeat) : AgentToServer := ⟨some (.heartbeat heartbeat)⟩

/-- The acknowledgement of a heartbeat. -/
def Inbound.ack (i : Inbound) : ServerToAgent := ⟨some (.heartbeatAck i.moment.wallClockMs)⟩

/-- The messages that the server has taken, the one that it is about to answer too. -/
def Link.taken (l : Link) : List Inbound := l.handled ++ l.handler.current

section

variable {parseUuid : String → Option Uuid} {window : Nat} {config : AgentConfig} {l l' : Link}
  {a : LinkAct} {s s' : StreamState}

/-- The stream after one more message. -/
theorem openStream_concat {earlier : List Inbound} {i : Inbound}
    (h : stateAfter parseUuid {} earlier = some s) :
    openStream parseUuid {} (earlier ++ [i]) =
      openStream parseUuid {} earlier ++ [(handle parseUuid s i).2] := by
  suffices hfrom : ∀ s₀, stateAfter parseUuid s₀ earlier = some s →
      openStream parseUuid s₀ (earlier ++ [i]) =
        openStream parseUuid s₀ earlier ++ [(handle parseUuid s i).2] from hfrom {} h
  clear h
  induction earlier with
  | nil =>
    intro s₀ h
    cases h
    rcases hhandle : handle parseUuid s i with ⟨_ | s', effects⟩
    · simp [openStream, hhandle]
    · simp [openStream, hhandle]
  | cons j earlier ih =>
    intro s₀ h
    rw [stateAfter, List.foldlM_cons, Option.bind_eq_bind, Option.bind_eq_some_iff] at h
    obtain ⟨s₁, h₁, h₂⟩ := h
    rcases hhandle : handle parseUuid s₀ j with ⟨_ | s₁', effects⟩
    · rw [hhandle] at h₁
      cases h₁
    · rw [hhandle] at h₁
      cases h₁
      simp only [List.cons_append, openStream, hhandle]
      rw [ih s₁ h₂]

theorem stateAfter_concat {earlier : List Inbound} {i : Inbound}
    (h : stateAfter parseUuid {} earlier = some s) :
    stateAfter parseUuid {} (earlier ++ [i]) = (handle parseUuid s i).1 := by
  rw [stateAfter, List.foldlM_append, ← stateAfter, h, Option.bind_eq_bind, Option.bind_some,
    List.foldlM_cons]
  simp

/-- A heartbeat on an open channel does what it does on a closed one, and is acknowledged. -/
theorem handle_opened {i : Inbound} (hheartbeat : i.heartbeat.isSome = true)
    (hclosed : i.moment.outboundOpen = false) :
    (handle parseUuid s i.opened).2 =
        (handle parseUuid s i).2 ++ [.heartbeatAck i.moment.wallClockMs] ∧
      ∃ s', (handle parseUuid s i.opened).1 = some s' := by
  obtain ⟨moment, e | ⟨_ | ⟨heartbeat⟩ | ⟨m⟩ | ⟨a⟩⟩⟩ := i
  case ok.some.heartbeat =>
    simp only at hclosed
    have htouch : ∀ s : StreamState, touch parseUuid s { moment with outboundOpen := true }
        heartbeat = touch parseUuid s moment heartbeat := fun _ => rfl
    simp [handle, Inbound.opened, hclosed, htouch]
  all_goals cases hheartbeat

/-- What the ends have put on their way: each message in its place, and what was lost. -/
structure Sends (config : AgentConfig) (l : Link) : Prop where
  own : ∀ heartbeat ∈ l.sent, ∃ t, heartbeat = config.heartbeat t
  ownNext : ∀ heartbeat, l.heartbeatTask = .sending heartbeat → ∃ t, heartbeat = config.heartbeat t
  inOrder : ∃ lost, l.sent.map (fun h => Except.ok h.message) =
      l.taken.map (·.message) ++ (l.toServer ++ l.outbound ++ lost).map .ok ∧
    (l.up = true → lost = [])

structure Answers (l : Link) : Prop where
  inOrder : ∃ lost, l.handled.map (·.ack) = l.read ++ l.toAgent ++ l.responses ++ lost ∧
    (l.up = true → lost = [])

/-- Where the server is in `openStream`. -/
def HandlerTask.Follows (parseUuid : String → Option Uuid) (handled : List Inbound) :
    HandlerTask → Prop
  | .reading s => stateAfter parseUuid {} handled = some s
  | .answering s i => ∃ s₀, stateAfter parseUuid {} handled = some s₀ ∧
      (handle parseUuid s₀ i.opened).1 = some s ∧ i.heartbeat.isSome = true ∧
      i.moment.outboundOpen = false
  | .ended _ => True

structure Serves (parseUuid : String → Option Uuid) (l : Link) : Prop where
  follows : l.handler.Follows parseUuid l.handled
  effects : l.effects = (openStream parseUuid {} l.taken).flatten

/-- Nothing has ended while the transport holds, and the process of the agent goes on. -/
structure Running (l : Link) : Prop where
  session : l.up = true → l.sessionEnd = none
  handler : l.up = true → ∀ unanswered, l.handler ≠ .ended unanswered
  ticker : l.up = true → l.heartbeatTask ≠ .ended
  notExited : l.sessionEnd ≠ some .exited

structure Bounded (window : Nat) (l : Link) : Prop where
  outbound : l.outbound.length ≤ outboundCapacity
  toServer : l.toServer.length ≤ window
  responses : l.responses.length ≤ responseCapacity
  toAgent : l.toAgent.length ≤ window

/-! ### One step -/

theorem Sends.heartbeat_of_toServer (h : Sends config l) {msg : AgentToServer}
    (hmsg : msg ∈ l.toServer) : ∃ heartbeat : Heartbeat, msg = heartbeat.message := by
  obtain ⟨lost, hsent, -⟩ := h.inOrder
  have hmem : Except.ok msg ∈ l.sent.map fun h => Except.ok (ε := Nat) h.message := by
    rw [hsent]
    refine List.mem_append_right _ (List.mem_map_of_mem ?_)
    exact List.mem_append_left _ (List.mem_append_left _ hmsg)
  obtain ⟨heartbeat, -, heq⟩ := List.mem_map.mp hmem
  cases heq
  exact ⟨heartbeat, rfl⟩

theorem Answers.ack_of_toAgent (h : Answers l) {msg : ServerToAgent} (hmsg : msg ∈ l.toAgent) :
    ∃ receivedAtMs, msg = ⟨some (.heartbeatAck receivedAtMs)⟩ := by
  obtain ⟨lost, hacks, -⟩ := h.inOrder
  have hmem : msg ∈ l.handled.map (·.ack) := by
    rw [hacks]
    exact List.mem_append_left _ (List.mem_append_left _ (List.mem_append_right _ hmsg))
  obtain ⟨i, -, rfl⟩ := List.mem_map.mp hmem
  exact ⟨_, rfl⟩

/-- The server takes a heartbeat, and has to answer it. -/
theorem take_heartbeat (l : Link) (s : StreamState) (heartbeat : Heartbeat) (moment : Moment) :
    ∃ s' i, (handle parseUuid s i.opened).1 = some s' ∧ i.heartbeat.isSome = true ∧
      i.moment.outboundOpen = false ∧ i.message = .ok heartbeat.message ∧
      l.take parseUuid s heartbeat.message moment =
        { l with
          handler := .answering s' i
          effects := l.effects ++ (handle parseUuid s i).2 } := by
  let i : Inbound := ⟨{ moment with outboundOpen := false }, .ok heartbeat.message⟩
  obtain ⟨s', hs'⟩ := (@handle_opened parseUuid s i rfl rfl).2
  refine ⟨s', i, hs', rfl, rfl, rfl, ?_⟩
  rw [Link.take, hs']
  rfl

theorem Sends.moves (h : Sends config l) (hmoves : Moves parseUuid window config l a l') :
    Sends config l' := by
  obtain ⟨hown, hnext, lost, hsent, hlost⟩ := h
  cases hmoves with
  | tick hticking =>
    refine ⟨hown, fun heartbeat hheartbeat => ?_, lost, hsent, hlost⟩
    cases hheartbeat
    exact ⟨_, rfl⟩
  | sendFails hsending hdown =>
    exact ⟨hown, by rintro _ ⟨⟩, lost, hsent, hlost⟩
  | @send heartbeat hsending hup hroom =>
    cases hlost hup
    refine ⟨fun b hb => ?_, by rintro _ ⟨⟩, [], ?_, fun _ => rfl⟩
    · rcases List.mem_append.mp hb with hb | hb
      · exact hown b hb
      · cases List.mem_singleton.mp hb
        exact hnext _ hsending
    · show List.map _ (l.sent ++ [heartbeat]) = List.map _ l.taken ++ _
      rw [List.map_append, hsent]
      simp [Heartbeat.message]
  | ship houtbound hup hroom =>
    refine ⟨hown, hnext, lost, ?_, hlost⟩
    rw [hsent, houtbound]
    show List.map _ l.taken ++ _ = List.map _ l.taken ++ _
    simp
  | @take moment s msg rest hreading htoServer =>
    obtain ⟨heartbeat, rfl⟩ := Sends.heartbeat_of_toServer ⟨hown, hnext, lost, hsent, hlost⟩
      (htoServer ▸ List.mem_cons_self)
    obtain ⟨s', i, -, -, -, hi, htake⟩ :=
      @take_heartbeat parseUuid { l with toServer := rest } s heartbeat moment
    rw [htake]
    refine ⟨hown, hnext, lost, ?_, hlost⟩
    rw [hsent, htoServer]
    simp [Link.taken, hreading, HandlerTask.current, hi]
  | answerFails hanswering hdown =>
    refine ⟨hown, hnext, lost, ?_, hlost⟩
    rw [hsent]
    simp [Link.taken, hanswering, HandlerTask.current]
  | answer hanswering hup hroom =>
    refine ⟨hown, hnext, lost, ?_, hlost⟩
    rw [hsent]
    simp [Link.taken, hanswering, HandlerTask.current, Inbound.opened]
  | deliver hresponses hup hroom => exact ⟨hown, hnext, lost, hsent, hlost⟩
  | @read msg rest hruns htoAgent =>
    refine ⟨hown, fun heartbeat hheartbeat => ?_, lost, hsent, hlost⟩
    simp only [Link.readItem] at hheartbeat
    split at hheartbeat
    · cases hheartbeat
    · exact hnext heartbeat hheartbeat
  | @fail n m hup =>
    cases hlost hup
    refine ⟨hown, hnext, l.toServer.drop n ++ l.outbound, ?_, by rintro ⟨⟩⟩
    rw [hsent]
    show List.map _ l.taken ++ _ = List.map _ l.taken ++ _
    rw [List.append_nil, List.append_nil, ← List.append_assoc, List.take_append_drop]
  | serverSeesFailure hreading hdown htoServer =>
    refine ⟨hown, hnext, lost, ?_, hlost⟩
    rw [hsent]
    simp [Link.taken, hreading, HandlerTask.current]
  | agentSeesError hruns hdown htoAgent =>
    refine ⟨hown, fun heartbeat hheartbeat => ?_, lost, hsent, hlost⟩
    exact hnext heartbeat (by simpa [Link.readItem, dispatch] using hheartbeat)
  | agentSeesFailure hruns hdown htoAgent =>
    exact ⟨hown, by rintro _ ⟨⟩, lost, hsent, hlost⟩
  | agentSeesEnd hended hruns hup hresponses htoAgent =>
    exact ⟨hown, by rintro _ ⟨⟩, lost, hsent, hlost⟩

theorem Answers.moves (hsends : Sends config l) (h : Answers l)
    (hmoves : Moves parseUuid window config l a l') : Answers l' := by
  obtain ⟨lost, hacks, hlost⟩ := h
  cases hmoves with
  | @take moment s msg rest hreading htoServer =>
    obtain ⟨heartbeat, rfl⟩ := hsends.heartbeat_of_toServer (htoServer ▸ List.mem_cons_self)
    obtain ⟨s', i, -, -, -, -, htake⟩ :=
      @take_heartbeat parseUuid { l with toServer := rest } s heartbeat moment
    rw [htake]
    exact ⟨lost, hacks, hlost⟩
  | answer hanswering hup hroom =>
    cases hlost hup
    refine ⟨[], ?_, fun _ => rfl⟩
    rw [List.map_append, hacks]
    simp [Inbound.ack, Inbound.opened]
  | deliver hresponses hup hroom =>
    refine ⟨lost, ?_, hlost⟩
    rw [hacks, hresponses]
    simp
  | read hruns htoAgent =>
    refine ⟨lost, ?_, hlost⟩
    simp only [Link.readItem]
    rw [hacks, htoAgent]
    simp
  | @fail n m hup =>
    cases hlost hup
    refine ⟨l.toAgent.drop m ++ l.responses, ?_, by rintro ⟨⟩⟩
    rw [hacks]
    simp only [List.append_nil, List.append_assoc, List.append_cancel_left_eq]
    rw [← List.append_assoc, List.take_append_drop]
  | tick | sendFails | send | ship | answerFails | serverSeesFailure | agentSeesError
  | agentSeesFailure | agentSeesEnd => exact ⟨lost, hacks, hlost⟩

theorem Serves.moves (hsends : Sends config l) (h : Serves parseUuid l)
    (hmoves : Moves parseUuid window config l a l') : Serves parseUuid l' := by
  obtain ⟨hfollows, heffects⟩ := h
  cases hmoves with
  | @take moment s msg rest hreading htoServer =>
    obtain ⟨heartbeat, rfl⟩ := hsends.heartbeat_of_toServer (htoServer ▸ List.mem_cons_self)
    obtain ⟨s', i, hs', hheartbeat, hclosed, -, htake⟩ :=
      @take_heartbeat parseUuid { l with toServer := rest } s heartbeat moment
    rw [hreading] at hfollows
    rw [htake]
    refine ⟨⟨s, hfollows, hs', hheartbeat, hclosed⟩, ?_⟩
    rw [Link.taken, hreading] at heffects
    simp only [HandlerTask.current, List.append_nil] at heffects
    simp only [Link.taken, HandlerTask.current]
    rw [openStream_concat hfollows, heffects]
    simp
  | @answerFails s i hanswering hdown =>
    refine ⟨trivial, ?_⟩
    rw [heffects]
    simp [Link.taken, hanswering, HandlerTask.current]
  | @answer s i hanswering hup hroom =>
    rw [hanswering] at hfollows
    obtain ⟨s₀, hs₀, hs, hheartbeat, hclosed⟩ := hfollows
    refine ⟨?_, ?_⟩
    · exact (stateAfter_concat hs₀).trans hs
    · rw [Link.taken, hanswering] at heffects
      simp only [HandlerTask.current] at heffects
      rw [openStream_concat hs₀] at heffects
      simp only [Link.taken, HandlerTask.current, List.append_nil]
      rw [openStream_concat hs₀, (handle_opened hheartbeat hclosed).1, heffects]
      simp
  | serverSeesFailure hreading hdown htoServer =>
    refine ⟨trivial, ?_⟩
    rw [heffects]
    simp [Link.taken, hreading, HandlerTask.current]
  | tick | sendFails | send | ship | deliver | read | fail | agentSeesError | agentSeesFailure
  | agentSeesEnd => exact ⟨hfollows, heffects⟩

theorem Running.moves (hsends : Sends config l) (hanswers : Answers l) (h : Running l)
    (hmoves : Moves parseUuid window config l a l') : Running l' := by
  obtain ⟨hsession, hhandler, hticker, hexit⟩ := h
  cases hmoves with
  | @take moment s msg rest hreading htoServer =>
    obtain ⟨heartbeat, rfl⟩ := hsends.heartbeat_of_toServer (htoServer ▸ List.mem_cons_self)
    obtain ⟨s', i, -, -, -, -, htake⟩ :=
      @take_heartbeat parseUuid { l with toServer := rest } s heartbeat moment
    rw [htake]
    exact ⟨hsession, by simp, hticker, hexit⟩
  | read hruns htoAgent =>
    obtain ⟨receivedAtMs, rfl⟩ := hanswers.ack_of_toAgent (htoAgent ▸ List.mem_cons_self)
    exact ⟨fun _ => rfl, hhandler, hticker, by simp [Link.readItem, dispatch]⟩
  | tick hticking => exact ⟨hsession, hhandler, by simp, hexit⟩
  | sendFails hsending hdown =>
    exact ⟨hsession, hhandler, fun hup => absurd (hdown.symm.trans hup) Bool.false_ne_true, hexit⟩
  | send hsending hup hroom => exact ⟨hsession, hhandler, by simp, hexit⟩
  | answerFails hanswering hdown =>
    exact ⟨hsession, fun hup => absurd (hdown.symm.trans hup) Bool.false_ne_true, hticker, hexit⟩
  | answer hanswering hup hroom => exact ⟨hsession, by simp, hticker, hexit⟩
  | fail hup => exact ⟨by simp, by simp, by simp, hexit⟩
  | serverSeesFailure hreading hdown htoServer =>
    exact ⟨hsession, fun hup => absurd (hdown.symm.trans hup) Bool.false_ne_true, hticker, hexit⟩
  | agentSeesError hruns hdown htoAgent =>
    exact ⟨fun hup => absurd (hdown.symm.trans hup) Bool.false_ne_true, hhandler, hticker,
      by simp [Link.readItem, dispatch]⟩
  | agentSeesFailure hruns hdown htoAgent =>
    exact ⟨fun hup => absurd (hdown.symm.trans hup) Bool.false_ne_true, hhandler,
      fun hup => absurd (hdown.symm.trans hup) Bool.false_ne_true, by simp [Link.close]⟩
  | agentSeesEnd hended hruns hup hresponses htoAgent => exact absurd hended (hhandler hup _)
  | ship | deliver => exact ⟨hsession, hhandler, hticker, hexit⟩

theorem Bounded.moves (h : Bounded window l) (hmoves : Moves parseUuid window config l a l') :
    Bounded window l' := by
  obtain ⟨houtbound, htoServer, hresponses, htoAgent⟩ := h
  cases hmoves with
  | send hsending hup hroom =>
    refine ⟨?_, htoServer, hresponses, htoAgent⟩
    rw [List.length_append]
    exact hroom
  | ship hmsg hup hroom =>
    refine ⟨?_, ?_, hresponses, htoAgent⟩
    · rw [hmsg, List.length_cons] at houtbound
      exact Nat.le_of_succ_le houtbound
    · rw [List.length_append]
      exact hroom
  | @take moment s msg rest hreading hmsg =>
    rw [hmsg, List.length_cons] at htoServer
    have hrest := Nat.le_of_succ_le htoServer
    simp only [Link.take]
    split
    · exact ⟨houtbound, hrest, hresponses, htoAgent⟩
    · split <;> exact ⟨houtbound, hrest, hresponses, htoAgent⟩
  | answer hanswering hup hroom =>
    refine ⟨houtbound, htoServer, ?_, htoAgent⟩
    rw [List.length_append]
    exact hroom
  | deliver hmsg hup hroom =>
    refine ⟨houtbound, htoServer, ?_, ?_⟩
    · rw [hmsg, List.length_cons] at hresponses
      exact Nat.le_of_succ_le hresponses
    · rw [List.length_append]
      exact hroom
  | read hruns hmsg =>
    refine ⟨houtbound, htoServer, hresponses, ?_⟩
    rw [hmsg, List.length_cons] at htoAgent
    exact Nat.le_of_succ_le htoAgent
  | @fail n m hup =>
    refine ⟨Nat.zero_le _, ?_, Nat.zero_le _, ?_⟩
    · exact (List.length_take_le' n _).trans htoServer
    · exact (List.length_take_le' m _).trans htoAgent
  | tick | sendFails | answerFails | serverSeesFailure | agentSeesError | agentSeesFailure
  | agentSeesEnd => exact ⟨houtbound, htoServer, hresponses, htoAgent⟩

/-! ### A run -/

structure Sound (parseUuid : String → Option Uuid) (window : Nat) (config : AgentConfig)
    (l : Link) : Prop where
  sends : Sends config l
  answers : Answers l
  serves : Serves parseUuid l
  running : Running l
  bounded : Bounded window l

theorem sound_start : Sound parseUuid window config {} where
  sends := ⟨by simp, by simp, [], rfl, fun _ => rfl⟩
  answers := ⟨[], rfl, fun _ => rfl⟩
  serves := ⟨rfl, rfl⟩
  running := ⟨by simp, by simp, by simp, by simp⟩
  bounded := ⟨Nat.zero_le _, Nat.zero_le _, Nat.zero_le _, Nat.zero_le _⟩

theorem Sound.moves (h : Sound parseUuid window config l)
    (hmoves : Moves parseUuid window config l a l') : Sound parseUuid window config l' where
  sends := h.sends.moves hmoves
  answers := h.answers.moves h.sends hmoves
  serves := h.serves.moves h.sends hmoves
  running := h.running.moves h.sends h.answers hmoves
  bounded := h.bounded.moves hmoves

theorem sound_of_after {as : List LinkAct}
    (h : after (step parseUuid window config) {} as = some l) : Sound parseUuid window config l :=
  after_invariant (P := fun _ => True) (fun _ _ _ hsound _ hstep => hsound.moves (moves_of_step hstep))
    sound_start (fun _ _ => trivial) h

/-! ## What the agent reads -/

theorem Sends.handled_eq (h : Sends config l) :
    l.handled.map (·.message) = (l.sent.take l.handled.length).map fun h => .ok h.message := by
  obtain ⟨lost, hsent, -⟩ := h.inOrder
  rw [List.map_take, hsent, Link.taken, List.map_append, List.append_assoc]
  exact (List.take_left' (List.length_map _)).symm

theorem Answers.read_eq (h : Answers l) :
    l.read = (l.handled.take l.read.length).map (·.ack) := by
  obtain ⟨lost, hacks, -⟩ := h.inOrder
  rw [List.map_take, hacks, List.append_assoc, List.append_assoc]
  exact (List.take_left' rfl).symm

/-- How far the server is behind the agent, and the agent behind the server. -/
theorem Sound.sent_le (h : Sound parseUuid window config l) (hup : l.up = true) :
    l.sent.length ≤
      l.read.length + (outboundCapacity + window + 1 + responseCapacity + window) := by
  obtain ⟨lost, hsent, hlost⟩ := h.sends.inOrder
  obtain ⟨lost', hacks, hlost'⟩ := h.answers.inOrder
  cases hlost hup
  cases hlost' hup
  have hlength := congrArg List.length hsent
  have hlength' := congrArg List.length hacks
  have hcurrent : l.handler.current.length ≤ 1 := by
    cases l.handler with
    | reading s => exact Nat.zero_le 1
    | answering s i => exact Nat.le_refl 1
    | ended unanswered => cases unanswered <;> simp [HandlerTask.current]
  have ⟨h₁, h₂, h₃, h₄⟩ := h.bounded
  simp only [List.length_map, List.length_append, Link.taken, List.length_nil] at hlength hlength'
  omega

/-- In every run the agent reads the acknowledgements of its first heartbeats, one each and in
order, and is never told to exit. As long as the transport holds the session goes on, and no
more heartbeats wait for an answer than the channels take. -/
theorem reads_answer_heartbeats (as : List LinkAct)
    (h : after (step parseUuid window config) {} as = some l) :
    l.read = (l.handled.take l.read.length).map (·.ack) ∧
      l.handled.map (·.message) = (l.sent.take l.handled.length).map (fun h => .ok h.message) ∧
      (∀ heartbeat ∈ l.sent, ∃ t, heartbeat = config.heartbeat t) ∧
      l.sessionEnd ≠ some .exited ∧
      (l.up = true → l.sessionEnd = none ∧ l.sent.length ≤
        l.read.length + (outboundCapacity + window + 1 + responseCapacity + window)) := by
  have hsound := sound_of_after h
  exact ⟨hsound.answers.read_eq, hsound.sends.handled_eq, hsound.sends.own,
    hsound.running.notExited, fun hup => ⟨hsound.running.session hup, hsound.sent_le hup⟩⟩

/-- A parser that knows one text. -/
def oneUuid (text : String) : Option Uuid := if text = "c" then some 1 else none

/-- A heartbeat of cluster 1 on its way to the server and its acknowledgement on its way back,
a second heartbeat after it, which is lost. -/
def oneAnswered : List LinkAct :=
  [.tick 0, .send, .ship, .take ⟨[⟨1, 7, none, none, ""⟩, ⟨2, 7, none, none, ""⟩], .ok, 5, 6, true⟩,
    .tick 1, .answer, .deliver, .send, .read, .fail 0 0]

theorem exists_after_oneAnswered :
    ∃ l, after (step oneUuid 1 ⟨"c"⟩) {} oneAnswered = some l :=
  ⟨_, rfl⟩

theorem reads_answer_heartbeats_oneAnswered :
    ∃ l, after (step oneUuid 1 ⟨"c"⟩) {} oneAnswered = some l ∧
      l.read = (l.handled.take l.read.length).map (·.ack) ∧
      l.handled.map (·.message) = (l.sent.take l.handled.length).map (fun h => .ok h.message) ∧
      (∀ heartbeat ∈ l.sent, ∃ t, heartbeat = AgentConfig.heartbeat ⟨"c"⟩ t) ∧
      l.sessionEnd ≠ some .exited ∧
      (l.up = true → l.sessionEnd = none ∧ l.sent.length ≤
        l.read.length + (outboundCapacity + 1 + 1 + responseCapacity + 1)) := by
  obtain ⟨l, hl⟩ := exists_after_oneAnswered
  exact ⟨l, hl, reads_answer_heartbeats oneAnswered hl⟩

/-! ## What the server touches -/

/-- What is done for a stream is done for one of its messages. -/
theorem exists_of_mem_openStream {stream : List Inbound} {s : StreamState} {e : Effect}
    (h : e ∈ (openStream parseUuid s stream).flatten) :
    ∃ i ∈ stream, ∃ s', e ∈ (handle parseUuid s' i).2 := by
  induction stream generalizing s with
  | nil => cases h
  | cons i rest ih =>
    rw [openStream] at h
    rcases hhandle : handle parseUuid s i with ⟨_ | s', effects⟩
    · simp only [hhandle, List.flatten_cons, List.flatten_nil, List.append_nil] at h
      exact ⟨i, List.mem_cons_self, s, by rwa [hhandle]⟩
    · simp only [hhandle, List.flatten_cons, List.mem_append] at h
      rcases h with h | h
      · exact ⟨i, List.mem_cons_self, s, by rwa [hhandle]⟩
      · obtain ⟨j, hj, hmem⟩ := ih h
        exact ⟨j, List.mem_cons_of_mem i hj, hmem⟩

/-- The row after a heartbeat of the agent: only a live row of its own cluster changes. -/
def TouchedBy (config : AgentConfig) (parseUuid : String → Option Uuid) (now : Timestamp)
    (before after : ClusterRow) : Prop :=
  after = before ∨
    parseUuid config.clusterId = some before.id ∧ before.deletedAt = none ∧
      after = { before with agentLastSeenAt := some now, agentVersion := cargoPkgVersion }

theorem forall₂_touch (clusters : List ClusterRow) (now : Timestamp) {clusterUuid : Uuid}
    (h : parseUuid config.clusterId = some clusterUuid) :
    List.Forall₂ (TouchedBy config parseUuid now) clusters
      (touchClusterAgentHeartbeat clusters now clusterUuid cargoPkgVersion).1 := by
  simp only [touchClusterAgentHeartbeat]
  induction clusters with
  | nil => exact .nil
  | cons c clusters ih =>
    refine .cons ?_ ih
    show TouchedBy config parseUuid now c (if _ then _ else c)
    split
    case isTrue hif =>
      rw [Bool.and_eq_true, beq_iff_eq, Option.isNone_iff_eq_none] at hif
      exact .inr ⟨h.trans (congrArg some hif.1.symm), hif.2, rfl⟩
    case isFalse => exact .inl rfl

/-- All that is done for a heartbeat of the agent. -/
theorem handle_own {s : StreamState} {i : Inbound} {t : Int} {e : Effect}
    (hi : i.message = .ok (config.heartbeat t).message) (h : e ∈ (handle parseUuid s i).2) :
    (∃ receivedAtMs, e = .heartbeatAck receivedAtMs) ∨
      ∃ clusters, e = .touched clusters ∧
        List.Forall₂ (TouchedBy config parseUuid i.moment.now) i.moment.clusters clusters := by
  have hrefl : ∀ clusters : List ClusterRow,
      List.Forall₂ (TouchedBy config parseUuid i.moment.now) clusters clusters :=
    fun clusters => List.forall₂_same.mpr fun _ _ => .inl rfl
  have htouch : ∀ s : StreamState, ∀ e ∈ (touch parseUuid s i.moment (config.heartbeat t)).2,
      ∃ clusters, e = .touched clusters ∧
        List.Forall₂ (TouchedBy config parseUuid i.moment.now) i.moment.clusters clusters := by
    intro s e he
    rw [touch] at he
    cases hparse : parseUuid (config.heartbeat t).clusterId with
    | none => simp [hparse] at he
    | some clusterUuid =>
      have hrows : List.Forall₂ (TouchedBy config parseUuid i.moment.now) i.moment.clusters _ :=
        forall₂_touch i.moment.clusters i.moment.now hparse
      have hafter : ∃ clusters, e = .touched clusters ∧
          clusters = (touchAgentHeartbeat i.moment clusterUuid
            (config.heartbeat t).agentVersion).1 := by
        simp only [hparse] at he
        split at he <;> exact ⟨_, List.mem_singleton.mp he, rfl⟩
      obtain ⟨clusters, rfl, rfl⟩ := hafter
      refine ⟨_, rfl, ?_⟩
      rw [touchAgentHeartbeat]
      cases i.moment.reply with
      | failed => exact hrefl _
      | lost => exact hrows
      | ok => exact hrows
  simp only [handle, hi, Heartbeat.message] at h
  split at h
  · rcases List.mem_append.mp h with h | h
    · exact .inr (htouch _ e h)
    · exact .inl ⟨_, List.mem_singleton.mp h⟩
  · exact .inr (htouch _ e h)

/-- In every run the server does what `openStream` does for the messages that it has taken.
It touches no row but the live ones of the agent's own cluster, and forwards nothing. -/
theorem touches_own (as : List LinkAct)
    (h : after (step parseUuid window config) {} as = some l) :
    l.effects = (openStream parseUuid {} l.taken).flatten ∧
      ∀ e ∈ l.effects, (∃ receivedAtMs, e = .heartbeatAck receivedAtMs) ∨
        ∃ i ∈ l.taken, ∃ clusters, e = .touched clusters ∧
          List.Forall₂ (TouchedBy config parseUuid i.moment.now) i.moment.clusters clusters := by
  have hsound := sound_of_after h
  refine ⟨hsound.serves.effects, fun e he => ?_⟩
  rw [hsound.serves.effects] at he
  obtain ⟨i, hi, s, hmem⟩ := exists_of_mem_openStream he
  obtain ⟨t, hmessage⟩ : ∃ t, i.message = .ok (config.heartbeat t).message := by
    obtain ⟨lost, hsent, -⟩ := hsound.sends.inOrder
    have hin : i.message ∈ l.sent.map fun h => Except.ok h.message := by
      rw [hsent]
      exact List.mem_append_left _ (List.mem_map_of_mem hi)
    obtain ⟨heartbeat, hheartbeat, heq⟩ := List.mem_map.mp hin
    obtain ⟨t, rfl⟩ := hsound.sends.own heartbeat hheartbeat
    exact ⟨t, heq.symm⟩
  rcases handle_own hmessage hmem with hack | ⟨clusters, heq, hrows⟩
  · exact .inl hack
  · exact .inr ⟨i, hi, clusters, heq, hrows⟩

theorem touches_own_oneAnswered :
    ∃ l, after (step oneUuid 1 ⟨"c"⟩) {} oneAnswered = some l ∧
      l.effects = (openStream oneUuid {} l.taken).flatten ∧
      ∀ e ∈ l.effects, (∃ receivedAtMs, e = .heartbeatAck receivedAtMs) ∨
        ∃ i ∈ l.taken, ∃ clusters, e = .touched clusters ∧
          List.Forall₂ (TouchedBy ⟨"c"⟩ oneUuid i.moment.now) i.moment.clusters clusters := by
  obtain ⟨l, hl⟩ := exists_after_oneAnswered
  exact ⟨l, hl, touches_own oneAnswered hl⟩

/-! ## Nothing waits for ever -/

/-- The steps that a link without failures can always go on with. -/
def LinkAct.onTheWay : LinkAct → Bool
  | .send | .ship | .take _ | .answer | .deliver | .read => true
  | _ => false

def HeartbeatTask.remaining : HeartbeatTask → Nat
  | .sending _ => 6
  | _ => 0

def HandlerTask.remaining : HandlerTask → Nat
  | .answering _ _ => 3
  | _ => 0

/-- How many steps what is under way still has to make. -/
def Link.remaining (l : Link) : Nat :=
  l.heartbeatTask.remaining + 5 * l.outbound.length + 4 * l.toServer.length +
    l.handler.remaining + 2 * l.responses.length + l.toAgent.length

theorem remaining_moves (hsound : Sound parseUuid window config l) (hup : l.up = true)
    (ha : a.onTheWay = true) (hmoves : Moves parseUuid window config l a l') :
    l'.up = true ∧ l'.remaining + 1 = l.remaining := by
  cases hmoves with
  | tick | fail | serverSeesFailure | agentSeesError | agentSeesFailure | agentSeesEnd => cases ha
  | sendFails hsending hdown => exact absurd (hdown.symm.trans hup) Bool.false_ne_true
  | answerFails hanswering hdown => exact absurd (hdown.symm.trans hup) Bool.false_ne_true
  | send hsending _ hroom =>
    refine ⟨hup, ?_⟩
    simp only [Link.remaining, HeartbeatTask.remaining, hsending, List.length_append, List.length_singleton]
    omega
  | ship houtbound _ hroom =>
    refine ⟨hup, ?_⟩
    simp only [Link.remaining, houtbound, List.length_append, List.length_cons, List.length_nil]
    omega
  | @take moment s msg rest hreading htoServer =>
    obtain ⟨heartbeat, rfl⟩ := hsound.sends.heartbeat_of_toServer (htoServer ▸ List.mem_cons_self)
    obtain ⟨s', i, -, -, -, -, htake⟩ :=
      @take_heartbeat parseUuid { l with toServer := rest } s heartbeat moment
    rw [htake]
    refine ⟨hup, ?_⟩
    simp only [Link.remaining, HandlerTask.remaining, hreading, htoServer, List.length_cons]
    omega
  | answer hanswering _ hroom =>
    refine ⟨hup, ?_⟩
    simp only [Link.remaining, HandlerTask.remaining, hanswering, List.length_append,
      List.length_singleton]
    omega
  | deliver hresponses _ hroom =>
    refine ⟨hup, ?_⟩
    simp only [Link.remaining, hresponses, List.length_append, List.length_cons, List.length_nil]
    omega
  | read hruns htoAgent =>
    obtain ⟨receivedAtMs, rfl⟩ := hsound.answers.ack_of_toAgent (htoAgent ▸ List.mem_cons_self)
    refine ⟨hup, ?_⟩
    simp only [Link.remaining, Link.readItem, dispatch, htoAgent, List.length_cons, reduceCtorEq,
      if_false]
    omega

/-- Where nothing can go on, nothing is under way. -/
theorem remaining_of_stuck (hsound : Sound parseUuid window config l) (hup : l.up = true)
    (hwindow : 0 < window)
    (hstuck : Stuck (step parseUuid window config) (·.onTheWay = true) l) : l.remaining = 0 := by
  have hruns := hsound.running.session hup
  have htoAgent : l.toAgent = [] := by
    cases hcase : l.toAgent with
    | nil => rfl
    | cons msg rest =>
      have hread := hstuck .read rfl
      simp [step, hruns, hcase] at hread
  have hresponses : l.responses = [] := by
    cases hcase : l.responses with
    | nil => rfl
    | cons msg rest =>
      have hdeliver := hstuck .deliver rfl
      simp [step, hcase, hup, htoAgent, hwindow] at hdeliver
  have hhandler : ∃ s, l.handler = .reading s := by
    cases hcase : l.handler with
    | reading s => exact ⟨s, rfl⟩
    | answering s i =>
      have hanswer := hstuck .answer rfl
      simp [step, hcase, hup, hresponses, responseCapacity] at hanswer
    | ended unanswered => exact absurd hcase (hsound.running.handler hup unanswered)
  obtain ⟨s, hreading⟩ := hhandler
  have htoServer : l.toServer = [] := by
    cases hcase : l.toServer with
    | nil => rfl
    | cons msg rest =>
      have htake := hstuck (.take ⟨[], .ok, 0, 0, true⟩) rfl
      simp [step, hreading, hcase] at htake
  have houtbound : l.outbound = [] := by
    cases hcase : l.outbound with
    | nil => rfl
    | cons msg rest =>
      have hship := hstuck .ship rfl
      simp [step, hcase, hup, htoServer, hwindow] at hship
  have hticker : ∀ heartbeat, l.heartbeatTask ≠ .sending heartbeat := by
    intro heartbeat hcase
    have hsend := hstuck .send rfl
    simp [step, hcase, hup, houtbound, outboundCapacity] at hsend
  have hnot : l.heartbeatTask.remaining = 0 := by
    cases hcase : l.heartbeatTask with
    | sending heartbeat => exact absurd hcase (hticker heartbeat)
    | ticking => rfl
    | ended => rfl
  rw [Link.remaining, hreading, htoAgent, hresponses, htoServer, houtbound, hnot]
  rfl

/-- Nothing is under way: every heartbeat has been handled and acknowledged. -/
theorem Sound.read_length (hsound : Sound parseUuid window config l) (hup : l.up = true)
    (h : l.remaining = 0) : l.read.length = l.sent.length := by
  obtain ⟨lost, hsent, hlost⟩ := hsound.sends.inOrder
  obtain ⟨lost', hacks, hlost'⟩ := hsound.answers.inOrder
  cases hlost hup
  cases hlost' hup
  have hcurrent : l.handler.current = [] := by
    cases hhandler : l.handler with
    | reading s => rfl
    | answering s i => simp [Link.remaining, hhandler, HandlerTask.remaining] at h
    | ended unanswered => exact absurd hhandler (hsound.running.handler hup unanswered)
  have hlength := congrArg List.length hsent
  have hlength' := congrArg List.length hacks
  simp only [List.length_map, List.length_append, Link.taken, hcurrent, List.length_nil] at hlength
  simp only [List.length_map, List.length_append, List.length_nil] at hlength'
  simp only [Link.remaining] at h
  omega

/-- While the transport holds and the ticker rests, the steps that are left can be made in any
order: there are `remaining` of them, none has to wait for ever, and after them every heartbeat
is acknowledged. -/
theorem all_answered (hwindow : 0 < window) (as bs : List LinkAct) {m : Link}
    (h : after (step parseUuid window config) {} as = some l) (hup : l.up = true)
    (hbs : ∀ b ∈ bs, b.onTheWay = true)
    (hm : after (step parseUuid window config) l bs = some m) :
    bs.length ≤ l.remaining ∧
      (Stuck (step parseUuid window config) (·.onTheWay = true) m ↔ bs.length = l.remaining) ∧
      (bs.length = l.remaining → m.up = true ∧ m.read = m.handled.map (·.ack) ∧
        m.handled.map (·.message) = m.sent.map fun h => .ok h.message) := by
  have hstep : ∀ l a l', Sound parseUuid window config l ∧ l.up = true → a.onTheWay = true →
      step parseUuid window config l a = some l' →
      (Sound parseUuid window config l' ∧ l'.up = true) ∧ l'.remaining + 1 = l.remaining := by
    rintro l a l' ⟨hsound, hup⟩ ha hstep
    have hmoves := moves_of_step hstep
    obtain ⟨hup', hremaining⟩ := remaining_moves hsound hup ha hmoves
    exact ⟨⟨hsound.moves hmoves, hup'⟩, hremaining⟩
  obtain ⟨⟨hsound, hup'⟩, hcount⟩ :=
    measure_add_length hstep ⟨sound_of_after h, hup⟩ hbs hm
  have hzero : m.remaining = 0 ↔ bs.length = l.remaining := by omega
  refine ⟨by omega, ⟨fun hstuck => ?_, fun heq b hb => ?_⟩, fun heq => ⟨hup', ?_⟩⟩
  · exact hzero.mp (remaining_of_stuck hsound hup' hwindow hstuck)
  · -- a further step would take one off nothing
    refine Option.eq_none_iff_forall_ne_some.mpr fun m' hm' => ?_
    have hless := (hstep m b m' ⟨hsound, hup'⟩ hb hm').2
    rw [hzero.mpr heq] at hless
    exact Nat.succ_ne_zero _ hless
  · have hlength := hsound.read_length hup' (hzero.mpr heq)
    have hread := hsound.answers.read_eq
    have hhandled := hsound.sends.handled_eq
    have hle : m.read.length ≤ m.handled.length := by
      rw [hread, List.length_map]
      exact List.length_take_le' _ _
    rw [List.take_of_length_le (hlength ▸ hle)] at hhandled
    have heq := congrArg List.length hhandled
    rw [List.length_map, List.length_map] at heq
    rw [List.take_of_length_le (by omega)] at hread
    exact ⟨hread, hhandled⟩

/-- One heartbeat under way, and one that the ticker is about to send. -/
theorem all_answered_two :
    ∃ l m, after (step oneUuid 1 ⟨"c"⟩) {} [.tick 0, .send, .ship, .tick 1] = some l ∧
      after (step oneUuid 1 ⟨"c"⟩) l [.send, .take ⟨[], .ok, 5, 6, true⟩, .ship] = some m ∧
      (3 ≤ l.remaining ∧
        (Stuck (step oneUuid 1 ⟨"c"⟩) (·.onTheWay = true) m ↔ 3 = l.remaining) ∧
        (3 = l.remaining → m.up = true ∧ m.read = m.handled.map (·.ack) ∧
          m.handled.map (·.message) = m.sent.map fun h => .ok h.message)) :=
  ⟨_, _, rfl, rfl, all_answered (by decide) [.tick 0, .send, .ship, .tick 1]
    [.send, .take ⟨[], .ok, 5, 6, true⟩, .ship] rfl rfl (by decide) rfl⟩

end

end Kubinate.Agent
