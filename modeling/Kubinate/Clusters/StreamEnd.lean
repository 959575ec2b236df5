import Kubinate.Clusters.EventStream
import Kubinate.Library.PollStream

/-!
# The end of the stream of events

The body of `GET /v1/clusters/:id/events` is a chain of stream combinators over the receiver of
the subscription. The last event is recognised by the predicate of `take_while`, which sees an
item only when the receiver has one.

* `streamBody`: the body as it is put together.
* `emitted_streamBody`: the frames are those of the events up to the first terminal one.
* `drain_delivered`: so are the events that `EventStream` delivers.
* `stream_ends_iff`: after a terminal event the stream waits for one more item, which it drops.
-/

namespace Kubinate.Clusters

open Platform Library

/-! ## The body of the response -/

/-- What the receiver yields: an event, or how many it has missed. -/
abbrev HubItem := Except Nat ClusterEvent

/-- The event that an item is passed on as. -/
def HubItem.event : HubItem → ClusterEvent
  | .ok event => event
  | .error _ => .step "__lagged__"

structure Frame where
  event : String
  data : String
deriving DecidableEq, Repr

def connectedFrame : Frame := ⟨"connected", "\x7b\x7d"⟩

section Body

variable (toJson : ClusterEvent → Option String)

def ClusterEvent.frame (event : ClusterEvent) : Frame where
  event := match event with
    | .step _ => "step"
    | .terminal .. => "terminal"
  data := (toJson event).getD "\x7b\"type\":\"step\",\"step\":\"__error__\"\x7d"

/-- The closure of `take_while`, with its variable `terminal_seen`. -/
def takeEvent (terminalSeen : Bool) (event : ClusterEvent) : Bool × Bool :=
  if terminalSeen then (false, terminalSeen)
  else if event.isTerminal then (true, true)
  else (true, terminalSeen)

/-- Whether `connected` was sent, the items that wait, `terminal_seen`, and whether
`take_while` is through. -/
abbrev BodyState := Bool × (List HubItem × Bool × Bool)

def streamBody : PollStream Frame BodyState :=
  let raw := PollStream.queue.filterMap (fun item : HubItem => some item.event) List.length
  let mapped := (raw.takeWhile takeEvent).map (ClusterEvent.frame toJson)
  (PollStream.once connectedFrame).chain mapped

/-- The body before the first poll, when these items were delivered. -/
def unpolled (items : List HubItem) : BodyState := (false, items, false, false)

/-- The items that no poll has taken yet. -/
def BodyState.waiting (state : BodyState) : List HubItem := state.2.1

/-- The events up to the first terminal one, and with it. -/
def upToTerminal : List ClusterEvent → List ClusterEvent
  | [] => []
  | event :: events => if event.isTerminal then [event] else event :: upToTerminal events

/-- The frames are those of the events up to the first terminal one, and once that was sent the
next poll says that the stream is over, without taking an item. -/
structure EndsWithTerminal (items : List HubItem) : Prop where
  frames : ∃ N, ∀ n, N ≤ n → (streamBody toJson).emitted n (unpolled items) =
    connectedFrame :: (upToTerminal (items.map HubItem.event)).map (ClusterEvent.frame toJson)
  ending : ∀ n (event : ClusterEvent), event.isTerminal = true →
    ((streamBody toJson).poll ((streamBody toJson).after n (unpolled items))).1 =
      .ready (event.frame toJson) →
    ((streamBody toJson).poll ((streamBody toJson).after (n + 1) (unpolled items))).1 = .ended ∧
      ((streamBody toJson).after (n + 2) (unpolled items)).waiting =
        ((streamBody toJson).after (n + 1) (unpolled items)).waiting

end Body

/-! ## One poll -/

section Polls

variable {toJson : ClusterEvent → Option String} {item : HubItem} {items : List HubItem}

theorem poll_opening :
    (streamBody toJson).poll (unpolled items) =
      (.ready connectedFrame, true, items, false, false) :=
  rfl

theorem poll_step (h : item.event.isTerminal = false) :
    (streamBody toJson).poll (true, item :: items, false, false) =
      (.ready (item.event.frame toJson), true, items, false, false) := by
  have htake : takeEvent false item.event = (true, false) := by
    rw [takeEvent, h]
    rfl
  simp [streamBody, PollStream.chain, PollStream.once, PollStream.map, PollStream.takeWhile,
    PollStream.filterMap, PollStream.pollUntil, PollStream.queue, htake, Poll.map]

theorem poll_terminal (h : item.event.isTerminal = true) :
    (streamBody toJson).poll (true, item :: items, false, false) =
      (.ready (item.event.frame toJson), true, items, true, false) := by
  have htake : takeEvent false item.event = (true, true) := by
    rw [takeEvent, h]
    rfl
  simp [streamBody, PollStream.chain, PollStream.once, PollStream.map, PollStream.takeWhile,
    PollStream.filterMap, PollStream.pollUntil, PollStream.queue, htake, Poll.map]

/-- The item after a terminal event is taken to find out that nothing comes after it. -/
theorem poll_seen : (streamBody toJson).poll (true, item :: items, true, false) =
    (.ended, true, items, true, true) := rfl

/-- Nothing comes out of the stream after a terminal event. -/
theorem emitted_seen (n : Nat) {done : Bool} :
    (streamBody toJson).emitted n (true, items, true, done) = [] := by
  refine PollStream.emitted_of_quiet
    (K := fun state : BodyState => ∃ items done, state = (true, items, true, done)) ?_ n
    ⟨items, done, rfl⟩
  rintro _ ⟨items, done, rfl⟩
  cases done with
  | true => exact ⟨rfl, items, true, rfl⟩
  | false =>
    cases items with
    | nil => exact ⟨rfl, [], false, rfl⟩
    | cons item items => exact ⟨rfl, items, true, rfl⟩

/-- One poll for each item is enough to see what comes out. -/
theorem emitted_running (items : List HubItem) {n : Nat} (hn : items.length ≤ n) :
    (streamBody toJson).emitted n (true, items, false, false) =
      (upToTerminal (items.map HubItem.event)).map (ClusterEvent.frame toJson) := by
  induction items generalizing n with
  | nil =>
    refine PollStream.emitted_of_quiet (K := fun state => state = (true, [], false, false)) ?_ n rfl
    rintro _ rfl
    exact ⟨rfl, rfl⟩
  | cons item items ih =>
    cases n with
    | zero => cases hn
    | succ n =>
      rw [PollStream.emitted, List.map_cons, upToTerminal]
      cases hterminal : item.event.isTerminal with
      | true =>
        rw [poll_terminal hterminal, emitted_seen, if_pos rfl]
        rfl
      | false =>
        rw [poll_step hterminal, ih (Nat.le_of_succ_le_succ hn), if_neg Bool.false_ne_true]
        rfl

theorem emitted_streamBody (items : List HubItem) {n : Nat} (hn : items.length + 1 ≤ n) :
    (streamBody toJson).emitted n (unpolled items) =
      connectedFrame ::
        (upToTerminal (items.map HubItem.event)).map (ClusterEvent.frame toJson) := by
  cases n with
  | zero => cases hn
  | succ n =>
    rw [PollStream.emitted, poll_opening, emitted_running items (Nat.le_of_succ_le_succ hn)]
    rfl

/-- The state when the items before the first terminal one were sent. -/
theorem after_steps {pre : List HubItem} (h : ∀ item ∈ pre, item.event.isTerminal = false) :
    (streamBody toJson).after (pre.length + 1) (unpolled (pre ++ items)) =
      (true, items, false, false) := by
  show (streamBody toJson).after pre.length (true, pre ++ items, false, false) = _
  induction pre with
  | nil => rfl
  | cons item pre ih =>
    rw [List.length_cons, PollStream.after, List.cons_append, poll_step (h item List.mem_cons_self)]
    exact ih fun i hi => h i (List.mem_cons_of_mem _ hi)

end Polls

/-! ## The end -/

section Ending

variable {toJson : ClusterEvent → Option String} {items : List HubItem}

theorem mem_of_mem_upToTerminal {event : ClusterEvent} {events : List ClusterEvent}
    (h : event ∈ upToTerminal events) : event ∈ events := by
  induction events with
  | nil => cases h
  | cons first events ih =>
    rw [upToTerminal] at h
    split at h
    · rw [List.mem_singleton.mp h]
      exact List.mem_cons_self
    · rcases List.mem_cons.mp h with rfl | h
      · exact List.mem_cons_self
      · exact List.mem_cons_of_mem _ (ih h)

theorem event_frame_eq_terminal {event : ClusterEvent} :
    (event.frame toJson).event = "terminal" ↔ event.isTerminal = true := by
  cases event with
  | step step => exact iff_of_false (by decide : "step" ≠ "terminal") Bool.false_ne_true
  | terminal status category => exact iff_of_true rfl rfl

/-- Either all items are steps, or there is a first terminal one. -/
theorem exists_first_terminal (items : List HubItem) :
    (∀ item ∈ items, item.event.isTerminal = false) ∨
      ∃ pre item post, items = pre ++ item :: post ∧ item.event.isTerminal = true ∧
        ∀ i ∈ pre, i.event.isTerminal = false := by
  induction items with
  | nil => exact .inl (List.forall_mem_nil _)
  | cons item items ih =>
    cases hterminal : item.event.isTerminal with
    | true => exact .inr ⟨[], item, items, rfl, hterminal, List.forall_mem_nil _⟩
    | false =>
      rcases ih with hall | ⟨pre, first, post, rfl, hfirst, hpre⟩
      · exact .inl (List.forall_mem_cons.mpr ⟨hterminal, hall⟩)
      · exact .inr ⟨item :: pre, first, post, rfl, hfirst, List.forall_mem_cons.mpr
          ⟨hterminal, hpre⟩⟩

/-- After a terminal event the stream does not end at once, whatever was delivered. -/
theorem not_ends_of_terminal (pre post : List HubItem) {item : HubItem}
    (hpre : ∀ i ∈ pre, i.event.isTerminal = false) (hterminal : item.event.isTerminal = true) :
    ¬ EndsWithTerminal toJson (pre ++ item :: post) := by
  intro h
  have hbefore : (streamBody toJson).after (pre.length + 1) (unpolled (pre ++ item :: post)) =
      (true, item :: post, false, false) := after_steps hpre
  have hafter : (streamBody toJson).after (pre.length + 2) (unpolled (pre ++ item :: post)) =
      (true, post, true, false) := by
    rw [PollStream.after_succ, hbefore, poll_terminal hterminal]
  have hsent : ((streamBody toJson).poll ((streamBody toJson).after (pre.length + 1)
      (unpolled (pre ++ item :: post)))).1 = .ready (item.event.frame toJson) := by
    rw [hbefore, poll_terminal hterminal]
  obtain ⟨hended, hwaiting⟩ := h.ending _ _ hterminal hsent
  rw [PollStream.after_succ (pre.length + 2), hafter] at hwaiting
  rw [hafter] at hended
  cases post with
  | nil => cases hended
  | cons next post =>
    rw [poll_seen] at hwaiting
    exact List.ne_cons_self hwaiting

theorem ends_of_steps (h : ∀ item ∈ items, item.event.isTerminal = false) :
    EndsWithTerminal toJson items := by
  refine ⟨⟨items.length + 1, fun n hn => emitted_streamBody items hn⟩, ?_⟩
  intro n event hterminal hsent
  exfalso
  have hmem : event.frame toJson ∈ connectedFrame ::
      (upToTerminal (items.map HubItem.event)).map (ClusterEvent.frame toJson) := by
    rw [← emitted_streamBody items (Nat.le_max_left (items.length + 1) (n + 1))]
    exact (PollStream.emitted_prefix (Nat.le_max_right _ _) _).subset
      (PollStream.mem_emitted_of_ready hsent)
  have hkind : (event.frame toJson).event = "terminal" := event_frame_eq_terminal.mpr hterminal
  rcases List.mem_cons.mp hmem with hconnected | hmem
  · rw [hconnected] at hkind
    exact absurd hkind (by decide)
  · obtain ⟨sent, hup, hframe⟩ := List.mem_map.mp hmem
    obtain ⟨item, hitem, rfl⟩ := List.mem_map.mp (mem_of_mem_upToTerminal hup)
    rw [← hframe, event_frame_eq_terminal, h item hitem] at hkind
    cases hkind

end Ending

/-! ## What the stream delivers -/

namespace EventStream

variable {stream : EventStream} {events : List ClusterEvent}

theorem delivered_drain_of_seen (h : stream.terminalSeen = true) (events : List ClusterEvent) :
    (stream.drain events).delivered = stream.delivered := by
  induction events generalizing stream with
  | nil => rfl
  | cons event events ih =>
    have htake : (stream.take event).terminalSeen = true ∧
        (stream.take event).delivered = stream.delivered := by
      unfold take
      split
      · exact ⟨h, rfl⟩
      · exact ⟨h, rfl⟩
    exact (ih htake.1).trans htake.2

theorem delivered_drain_of_open (hseen : stream.terminalSeen = false)
    (hended : stream.ended = false) (events : List ClusterEvent) :
    (stream.drain events).delivered = stream.delivered ++ upToTerminal events := by
  induction events generalizing stream with
  | nil => exact (List.append_nil _).symm
  | cons event events ih =>
    have htake : stream.take event = { stream with
        delivered := stream.delivered ++ [event], terminalSeen := event.isTerminal } := by
      rw [take, hended, hseen]
      rfl
    show ((stream.take event).drain events).delivered = _
    rw [upToTerminal, htake]
    cases hterminal : event.isTerminal with
    | true => exact delivered_drain_of_seen rfl events
    | false =>
      have hrest : (drain { stream with
          delivered := stream.delivered ++ [event], terminalSeen := false } events).delivered =
          (stream.delivered ++ [event]) ++ upToTerminal events := ih rfl hended
      rw [hrest, List.append_assoc]
      rfl

/-- The events that are delivered are those whose frames are sent. -/
theorem drain_delivered {receiver : Nat} (events : List ClusterEvent) :
    (drain { receiver := receiver } events).delivered = upToTerminal events :=
  delivered_drain_of_open rfl rfl events

end EventStream

/-- For every sequence of items: the frames are those of the events up to the first terminal one,
and the stream is over as soon as that was sent iff there is no terminal event. -/
theorem stream_ends_iff (toJson : ClusterEvent → Option String) (items : List HubItem) :
    EndsWithTerminal toJson items ↔ ∀ item ∈ items, item.event.isTerminal = false := by
  refine ⟨fun h => ?_, ends_of_steps⟩
  rcases exists_first_terminal items with hall | ⟨pre, item, post, rfl, hterminal, hpre⟩
  · exact hall
  · exact absurd h (not_ends_of_terminal pre post hpre hterminal)

/-- The only item is the terminal event of a cluster that is ready. -/
theorem not_stream_ends :
    ¬ ∀ (toJson : ClusterEvent → Option String) (items : List HubItem),
      EndsWithTerminal toJson items := by
  intro h
  exact not_ends_of_terminal [] [] (List.forall_mem_nil _) rfl
    (h (fun _ => none) [.ok (.terminal "ready" none)])

end Kubinate.Clusters
