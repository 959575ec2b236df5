import Kubinate.Clusters.Model
import Kubinate.Library.Broadcast
import Kubinate.Library.Sequence
import Kubinate.Platform.Text
import Mathlib.Data.List.Forall2
import Mathlib.Logic.Function.Basic

/-!
# The event hub

Subscribers of a cluster share one channel, whose sender is in the map of the hub. A publication
that finds no receiver removes the sender, and the next subscription makes a new one.

* `ClusterEventHub.publish`, `ClusterEventHub.subscribe`: under the mutex of the map, so that each
  takes effect at one moment.
* `Subscription`: what a receiver is meant to see of a history, without senders and channels.
* `attached_step`: no request detaches a receiver from the sender that is stored for its cluster.
* `hub_neither_loses_nor_mixes`: what follows for every history.
-/

namespace Kubinate.Clusters

open Platform Library

/-! ## Events -/

inductive ErrorCategory where
  | providerError
  | networkError
  | bootTimeout
  | installationError
  | unknown
deriving DecidableEq, Repr

def ErrorCategory.asStr : ErrorCategory → String
  | .providerError => "provider_error"
  | .networkError => "network_error"
  | .bootTimeout => "boot_timeout"
  | .installationError => "installation_error"
  | .unknown => "unknown"

/-- `str::starts_with` -/
def startsWith (text pattern : String) : Bool := pattern.toList.isPrefixOf text.toList

def errorCategory (status : ClusterStatus) (reason : Option String) : Option ErrorCategory :=
  if status ≠ .failed then none
  else
    let reason := toAsciiLowercase (reason.getD "")
    if startsWith reason "hetzner:" then
      if contains reason "401" || contains reason "403" || contains reason "quota" ||
          contains reason "forbidden" then some .providerError
      else if contains reason "429" || contains reason "502" || contains reason "503" ||
          contains reason "504" || contains reason "transport" || contains reason "timeout" then
        some .networkError
      else some .providerError
    else if startsWith reason "ssh:" then some .installationError
    else if contains reason "cloud-init" || contains reason "cloudinittimeout" then
      some .bootTimeout
    else some .unknown

inductive ClusterEvent where
  | step (step : String)
  | terminal (status : String) (errorCategory : Option String)
deriving DecidableEq, Repr

def ClusterEvent.isTerminal : ClusterEvent → Bool
  | .step _ => false
  | .terminal .. => true

/-- What `publish_terminal` publishes: nothing for a status that is not settled. -/
def terminalEvent (status : ClusterStatus) (reason : Option String) : Option ClusterEvent :=
  let category :=
    if status = .failed then (errorCategory status reason).map ErrorCategory.asStr else none
  match status with
  | .ready => some (.terminal "ready" category)
  | .failed => some (.terminal "failed" category)
  | .destroyed => some (.terminal "destroyed" category)
  | .pending | .provisioning | .scaling | .destroying => none

/-! ## The hub -/

structure ClusterEventHub where
  inner : Uuid → Option Nat
  capacity : Nat
  /-- the channels that were made so far, and their receivers -/
  channels : Broadcast ClusterEvent

namespace ClusterEventHub

def new : ClusterEventHub := ⟨fun _ => none, 64, ⟨[], []⟩⟩

variable (hub : ClusterEventHub)

def publish (clusterId : Uuid) (event : ClusterEvent) : ClusterEventHub × Nat :=
  match hub.inner clusterId with
  | none => (hub, 0)
  | some sender =>
    match hub.channels.send sender event with
    | some (channels, n) => ({ hub with channels := channels }, n)
    | none => ({ hub with inner := Function.update hub.inner clusterId none }, 0)

def subscribe (clusterId : Uuid) : ClusterEventHub × Nat :=
  match hub.inner clusterId with
  | some sender =>
    let (channels, receiver) := hub.channels.subscribe sender
    ({ hub with channels := channels }, receiver)
  | none =>
    let (channels, sender) := hub.channels.create hub.capacity
    let (channels, receiver) := channels.subscribe sender
    ({ hub with inner := Function.update hub.inner clusterId (some sender), channels := channels },
      receiver)

end ClusterEventHub

inductive HubRequest where
  | subscribe (clusterId : Uuid)
  | publish (clusterId : Uuid) (event : ClusterEvent)
  | recv (receiver : Nat)
  | drop (receiver : Nat)

inductive HubAnswer where
  | receiver (receiver : Nat)
  | observers (n : Nat)
  | received (r : Received ClusterEvent)
  | dropped
deriving DecidableEq

def ClusterEventHub.serve (hub : ClusterEventHub) : HubRequest → ClusterEventHub × HubAnswer
  | .subscribe clusterId =>
    let (hub, receiver) := hub.subscribe clusterId
    (hub, .receiver receiver)
  | .publish clusterId event =>
    let (hub, n) := hub.publish clusterId event
    (hub, .observers n)
  | .recv receiver =>
    let (channels, r) := hub.channels.recv receiver
    ({ hub with channels := channels }, .received r)
  | .drop receiver => ({ hub with channels := hub.channels.drop receiver }, .dropped)

/-! ## What subscribers are meant to see -/

/-- One subscription: what was published for its cluster since, and what has come of it. -/
structure Subscription where
  clusterId : Uuid
  live : Bool := true
  published : List ClusterEvent := []
  received : List ClusterEvent := []
  lagged : Bool := false
deriving DecidableEq

def Subscription.isFor (clusterId : Uuid) (y : Subscription) : Bool :=
  y.live && y.clusterId == clusterId

/-- The subscriptions after a request and its answer. -/
def observe (subscriptions : List Subscription) : HubRequest → HubAnswer → List Subscription
  | .subscribe clusterId, _ => subscriptions ++ [{ clusterId := clusterId }]
  | .publish clusterId event, _ => subscriptions.map fun y =>
    if y.isFor clusterId then { y with published := y.published ++ [event] } else y
  | .recv receiver, .received (.message event) => subscriptions.modify receiver fun y =>
    { y with received := y.received ++ [event] }
  | .recv receiver, .received (.lagged _) => subscriptions.modify receiver fun y =>
    { y with lagged := true }
  | .recv _, _ => subscriptions
  | .drop receiver, _ => subscriptions.modify receiver fun y => { y with live := false }

/-- The hub with the subscriptions of its history. -/
abbrev ObservedHub := ClusterEventHub × List Subscription

def ObservedHub.step (s : ObservedHub) (a : HubRequest) : ObservedHub :=
  ((s.1.serve a).1, observe s.2 a (s.1.serve a).2)

/-! ## Attachment -/

/-- What a receiver still gets is what its subscription is waiting for. -/
structure Serves (hub : ClusterEventHub) (x : Receiver) (y : Subscription) : Prop where
  live : x.live = y.live
  attached : y.live = true → hub.inner y.clusterId = some x.channel
  bounded : y.live = true → x.next ≤ (hub.channels.sentOn x.channel).length
  delivered : y.live = true → y.lagged = false →
    y.received ++ hub.channels.backlog x = y.published

/-- Clusters have their own channels, and every receiver that is there is attached to the sender
stored for its cluster. -/
structure Attached (s : ObservedHub) : Prop where
  known : ∀ c sender, s.1.inner c = some sender →
    sender < s.1.channels.channels.length ∧ s.1.channels.capacityOf sender = s.1.capacity
  own : ∀ c c' sender, s.1.inner c = some sender → s.1.inner c' = some sender → c = c'
  serves : List.Forall₂ (Serves s.1) s.1.channels.receivers s.2

theorem attached_new : Attached (ClusterEventHub.new, []) where
  known := nofun
  own := nofun
  serves := List.Forall₂.nil

/-- Related lists stay related when both are changed at one place. -/
theorem forall₂_modify {α β : Type} {R : α → β → Prop} {l : List α} {m : List β}
    (h : List.Forall₂ R l m) (i : Nat) {f : α → α} {g : β → β}
    (hfg : ∀ x y, l[i]? = some x → R x y → R (f x) (g y)) :
    List.Forall₂ R (l.modify i f) (m.modify i g) := by
  induction h generalizing i with
  | nil =>
    rw [List.modify_nil, List.modify_nil]
    exact .nil
  | @cons x y l m hxy h ih =>
    cases i with
    | zero => exact .cons (hfg x y rfl hxy) h
    | succ i => exact .cons hxy (ih i fun x y hx => hfg x y hx)

theorem exists_of_forall₂ {α β : Type} {R : α → β → Prop} {l : List α} {m : List β}
    (h : List.Forall₂ R l m) {y : β} (hy : y ∈ m) : ∃ x ∈ l, R x y := by
  induction h with
  | nil => cases hy
  | @cons x y' l m hxy h ih =>
    rcases List.mem_cons.mp hy with rfl | hy
    · exact ⟨x, List.mem_cons_self, hxy⟩
    · obtain ⟨x', hx', hxy'⟩ := ih hy
      exact ⟨x', List.mem_cons_of_mem _ hx', hxy'⟩

theorem forall₂_countP {α β : Type} {R : α → β → Prop} {l : List α} {m : List β}
    (h : List.Forall₂ R l m) {p : α → Bool} {q : β → Bool} (hpq : ∀ x y, R x y → p x = q y) :
    l.countP p = m.countP q := by
  induction h with
  | nil => rfl
  | cons hxy h ih => rw [List.countP_cons, List.countP_cons, hpq _ _ hxy, ih]

section Step

variable {hub hub' : ClusterEventHub} {subscriptions : List Subscription} {c : Uuid}
  {event : ClusterEvent} {sender : Nat}

/-- The senders and what was sent matter to a receiver, and no more. -/
theorem Serves.congr {x : Receiver} {y : Subscription} (h : Serves hub x y)
    (hinner : y.live = true → hub'.inner y.clusterId = hub.inner y.clusterId)
    (hsent : y.live = true → hub'.channels.sentOn x.channel = hub.channels.sentOn x.channel) :
    Serves hub' x y where
  live := h.live
  attached := fun hy => (hinner hy).trans (h.attached hy)
  bounded := fun hy => hsent hy ▸ h.bounded hy
  delivered := fun hy hl => by
    rw [Broadcast.backlog, hsent hy]
    exact h.delivered hy hl

theorem Serves.listensTo_iff {x : Receiver} {y : Subscription} (h : Serves hub x y)
    (hown : ∀ c c' sender, hub.inner c = some sender → hub.inner c' = some sender → c = c')
    (hsender : hub.inner c = some sender) : x.listensTo sender = y.isFor c := by
  unfold Receiver.listensTo Subscription.isFor
  rw [h.live]
  cases hy : y.live with
  | false => rfl
  | true =>
    have hx := h.attached hy
    rw [Bool.true_and, Bool.true_and, Bool.eq_iff_iff, beq_iff_eq, beq_iff_eq]
    constructor
    · rintro rfl
      exact hown _ _ _ hx hsender
    · rintro rfl
      rw [hsender] at hx
      exact (Option.some.inj hx).symm

/-- The receivers of the stored sender are those that are there for the cluster. -/
theorem Attached.listeners (h : Attached (hub, subscriptions))
    (hsender : hub.inner c = some sender) :
    hub.channels.listeners sender = subscriptions.countP (·.isFor c) :=
  forall₂_countP h.serves fun _ _ hxy => hxy.listensTo_iff h.own hsender

/-- Without a sender nobody is subscribed. -/
theorem Attached.not_isFor (h : Attached (hub, subscriptions)) (hnone : hub.inner c = none) :
    ∀ y ∈ subscriptions, y.isFor c = false := by
  intro y hy
  obtain ⟨x, -, hxy⟩ := exists_of_forall₂ h.serves hy
  by_contra hfor
  rw [Bool.not_eq_false, Subscription.isFor, Bool.and_eq_true, beq_iff_eq] at hfor
  obtain ⟨hlive, rfl⟩ := hfor
  rw [hxy.attached hlive] at hnone
  cases hnone

theorem observe_publish_of_not_isFor (h : ∀ y ∈ subscriptions, y.isFor c = false)
    (o : HubAnswer) : observe subscriptions (.publish c event) o = subscriptions := by
  rw [observe]
  refine (List.map_congr_left fun y hy => ?_).trans (List.map_id _)
  rw [if_neg (by simp [h y hy])]
  rfl

/-- A new receiver is attached to the sender of its channel, and waits for nothing yet. -/
theorem serves_subscribed (hsender : hub.inner c = some sender) :
    Serves hub ⟨sender, (hub.channels.sentOn sender).length, true⟩ { clusterId := c } where
  live := rfl
  attached := fun _ => hsender
  bounded := fun _ => Nat.le.refl
  delivered := fun _ _ => by
    rw [Broadcast.backlog, List.drop_length]
    rfl

theorem Attached.subscribe (h : Attached (hub, subscriptions)) (c : Uuid) :
    Attached (ObservedHub.step (hub, subscriptions) (.subscribe c)) := by
  cases hinner : hub.inner c with
  | some sender =>
    have hstep : ObservedHub.step (hub, subscriptions) (.subscribe c) =
        ({ hub with channels := (hub.channels.subscribe sender).1 },
          subscriptions ++ [{ clusterId := c }]) := by
      simp only [ObservedHub.step, ClusterEventHub.serve, ClusterEventHub.subscribe, hinner, observe]
    rw [hstep]
    refine ⟨h.known, h.own, List.rel_append ?_ (.cons ?_ .nil)⟩
    · exact h.serves.imp fun x y hxy => hxy.congr (fun _ => rfl) fun _ => rfl
    · exact (serves_subscribed hinner).congr (fun _ => rfl) fun _ => rfl
  | none =>
    let channels := (hub.channels.create hub.capacity).1
    let hub' : ClusterEventHub :=
      { hub with
        inner := Function.update hub.inner c (some hub.channels.channels.length)
        channels := channels }
    have hstep : ObservedHub.step (hub, subscriptions) (.subscribe c) =
        ({ hub' with channels := (channels.subscribe hub.channels.channels.length).1 },
          subscriptions ++ [{ clusterId := c }]) := by
      simp only [ObservedHub.step, ClusterEventHub.serve, ClusterEventHub.subscribe, hinner, observe]
      rfl
    have hlength : channels.channels.length = hub.channels.channels.length + 1 :=
      List.length_append
    -- the sender is new: no other cluster has it
    have hother {c' : Uuid} {sender : Nat} (hc' : hub'.inner c' = some sender) :
        c' = c ∧ sender = hub.channels.channels.length ∨
          c' ≠ c ∧ hub.inner c' = some sender ∧ sender < hub.channels.channels.length := by
      by_cases hc : c' = c
      · subst hc
        have hnew : hub'.inner c' = some hub.channels.channels.length := Function.update_self ..
        rw [hnew] at hc'
        exact .inl ⟨rfl, (Option.some.inj hc').symm⟩
      · have hold : hub'.inner c' = hub.inner c' := Function.update_of_ne hc ..
        rw [hold] at hc'
        exact .inr ⟨hc, hc', (h.known _ _ hc').1⟩
    rw [hstep]
    refine ⟨?_, ?_, List.rel_append ?_ (.cons ?_ .nil)⟩
    · intro c' sender hc'
      rcases hother hc' with ⟨-, rfl⟩ | ⟨-, hold, hlt⟩
      · exact ⟨hlength ▸ Nat.lt_succ_self _, Broadcast.capacityOf_created _⟩
      · refine ⟨hlength ▸ Nat.lt_succ_of_lt hlt, ?_⟩
        exact (Broadcast.capacityOf_create _ hlt).trans (h.known _ _ hold).2
    · intro c' c'' sender hc' hc''
      rcases hother hc' with ⟨rfl, rfl⟩ | ⟨-, hold, hlt⟩
      · rcases hother hc'' with ⟨rfl, -⟩ | ⟨-, -, hlt⟩
        · rfl
        · exact absurd hlt (lt_irrefl _)
      · rcases hother hc'' with ⟨-, rfl⟩ | ⟨-, hold', -⟩
        · exact absurd hlt (lt_irrefl _)
        · exact h.own _ _ _ hold hold'
    · refine h.serves.imp fun x y hxy => hxy.congr (fun hy => ?_) fun hy => ?_
      · refine Function.update_of_ne ?_ _ _
        rintro rfl
        rw [hxy.attached hy] at hinner
        cases hinner
      · exact Broadcast.sentOn_create _ (h.known _ _ (hxy.attached hy)).1
    · have hnew : hub'.inner c = some hub.channels.channels.length := Function.update_self ..
      exact (serves_subscribed hnew).congr (fun _ => rfl) fun _ => rfl

/-- The last receiver is gone, and with the event so is the sender. -/
theorem Attached.unsent (h : Attached (hub, subscriptions)) (hinner : hub.inner c = some sender)
    (hsend : hub.channels.send sender event = none) :
    Attached ({ hub with inner := Function.update hub.inner c none }, subscriptions) ∧
      ∀ y ∈ subscriptions, y.isFor c = false := by
  have hzero : subscriptions.countP (·.isFor c) = 0 := by
    rw [← h.listeners hinner]
    exact Broadcast.listeners_of_send_eq_none hsend
  have hnobody : ∀ y ∈ subscriptions, y.isFor c = false := fun y hy =>
    Bool.eq_false_of_not_eq_true (List.countP_eq_zero.mp hzero y hy)
  have hold {c' : Uuid} {sender : Nat}
      (hc' : Function.update hub.inner c none c' = some sender) :
      hub.inner c' = some sender := by
    by_cases hc : c' = c
    · subst hc
      rw [Function.update_self] at hc'
      cases hc'
    · rwa [Function.update_of_ne hc] at hc'
  refine ⟨⟨fun c' sender hc' => h.known _ _ (hold hc'), fun c' c'' sender hc' hc'' =>
    h.own _ _ _ (hold hc') (hold hc''), ?_⟩, hnobody⟩
  refine List.forall₂_iff_zip.mpr ⟨h.serves.length_eq, fun {x y} hxy => ?_⟩
  have hserves := (List.forall₂_iff_zip.mp h.serves).2 hxy
  have hfor := hnobody y (List.of_mem_zip hxy).2
  refine hserves.congr (fun hy => Function.update_of_ne ?_ _ _) fun _ => rfl
  rintro rfl
  rw [Subscription.isFor, hy] at hfor
  simp at hfor

/-- An event that is sent waits for the receivers of its sender, and for no other. -/
theorem Serves.sent {x : Receiver} {y : Subscription} {channels : Broadcast ClusterEvent} {n : Nat}
    (hserves : Serves hub x y) (h : Attached (hub, subscriptions))
    (hinner : hub.inner c = some sender)
    (hsend : hub.channels.send sender event = some (channels, n)) :
    Serves { hub with channels := channels } x
      (if y.isFor c then { y with published := y.published ++ [event] } else y) := by
  have hlistens := hserves.listensTo_iff h.own hinner
  have hbound := fun hy =>
    (hserves.bounded hy).trans (Broadcast.length_sentOn_send hsend x.channel)
  have hbacklog := fun hy =>
    Broadcast.backlog_send hsend (h.known _ _ hinner).1 (hserves.bounded hy)
  by_cases hfor : y.isFor c = true
  · rw [if_pos hfor]
    refine ⟨hserves.live, hserves.attached, hbound, fun hy hl => ?_⟩
    rw [hfor, Receiver.listensTo, Bool.and_eq_true, beq_iff_eq] at hlistens
    have hwaiting := hbacklog hy
    rw [if_pos hlistens.2] at hwaiting
    rw [hwaiting, ← List.append_assoc, hserves.delivered hy hl]
  · rw [if_neg hfor]
    refine ⟨hserves.live, hserves.attached, hbound, fun hy hl => ?_⟩
    have hne : x.channel ≠ sender := by
      rintro rfl
      have hlive : x.live = true := hserves.live.trans hy
      rw [Receiver.listensTo, hlive, beq_self_eq_true] at hlistens
      exact hfor hlistens.symm
    have hwaiting := hbacklog hy
    rw [if_neg hne, List.append_nil] at hwaiting
    rw [hwaiting, hserves.delivered hy hl]

theorem Attached.sent (h : Attached (hub, subscriptions)) {channels : Broadcast ClusterEvent}
    {n : Nat} (hinner : hub.inner c = some sender)
    (hsend : hub.channels.send sender event = some (channels, n)) :
    Attached ({ hub with channels := channels }, subscriptions.map fun y =>
      if y.isFor c then { y with published := y.published ++ [event] } else y) := by
  obtain ⟨-, hreceivers, hchannels⟩ := Broadcast.send_cases hsend
  have hlength : channels.channels.length = hub.channels.channels.length := by
    rw [hchannels, List.length_modify]
  refine ⟨fun c' sender' hc' => ?_, h.own, ?_⟩
  · obtain ⟨hlt, hcap⟩ := h.known _ _ hc'
    exact ⟨hlength.symm ▸ hlt, (Broadcast.capacityOf_send hsend _).trans hcap⟩
  · rw [List.forall₂_map_right_iff]
    have hsame : ({ hub with channels := channels } : ClusterEventHub).channels.receivers =
      hub.channels.receivers := hreceivers
    rw [hsame]
    exact h.serves.imp fun x y hxy => hxy.sent h hinner hsend

theorem Attached.publish (h : Attached (hub, subscriptions)) (c : Uuid) (event : ClusterEvent) :
    Attached (ObservedHub.step (hub, subscriptions) (.publish c event)) ∧
      (hub.publish c event).2 = subscriptions.countP (·.isFor c) := by
  cases hinner : hub.inner c with
  | none =>
    have hnobody := h.not_isFor hinner
    have hstep : ObservedHub.step (hub, subscriptions) (.publish c event) =
        (hub, subscriptions) := by
      rw [ObservedHub.step, observe_publish_of_not_isFor hnobody]
      simp only [ClusterEventHub.serve, ClusterEventHub.publish, hinner]
    rw [hstep]
    refine ⟨h, ?_⟩
    have hzero : subscriptions.countP (·.isFor c) = 0 :=
      List.countP_eq_zero.mpr fun y hy => by simp [hnobody y hy]
    rw [hzero, ClusterEventHub.publish, hinner]
  | some sender =>
    cases hsend : hub.channels.send sender event with
    | none =>
      obtain ⟨hattached, hnobody⟩ := h.unsent hinner hsend
      have hstep : ObservedHub.step (hub, subscriptions) (.publish c event) =
          ({ hub with inner := Function.update hub.inner c none }, subscriptions) := by
        rw [ObservedHub.step, observe_publish_of_not_isFor hnobody]
        simp only [ClusterEventHub.serve, ClusterEventHub.publish, hinner, hsend]
      rw [hstep]
      refine ⟨hattached, ?_⟩
      rw [← h.listeners hinner, Broadcast.listeners_of_send_eq_none hsend,
        ClusterEventHub.publish, hinner]
      dsimp only
      rw [hsend]
    | some sent =>
      obtain ⟨channels, n⟩ := sent
      have hstep : ObservedHub.step (hub, subscriptions) (.publish c event) =
          ({ hub with channels := channels }, subscriptions.map fun y =>
            if y.isFor c then { y with published := y.published ++ [event] } else y) := by
        simp only [ObservedHub.step, ClusterEventHub.serve, ClusterEventHub.publish, hinner, hsend,
          observe]
      rw [hstep]
      refine ⟨h.sent hinner hsend, ?_⟩
      rw [← h.listeners hinner, ← (Broadcast.send_cases hsend).1, ClusterEventHub.publish, hinner]
      dsimp only
      rw [hsend]

/-- A request that changes one receiver and its subscription. -/
theorem Attached.modify (h : Attached (hub, subscriptions)) {channels : Broadcast ClusterEvent}
    {r : Nat} {f : Receiver → Receiver} {g : Subscription → Subscription}
    (hchannels : channels.channels = hub.channels.channels)
    (hreceivers : channels.receivers = hub.channels.receivers.modify r f)
    (hfg : ∀ x y, hub.channels.receivers[r]? = some x → Serves hub x y → Serves hub (f x) (g y)) :
    Attached ({ hub with channels := channels }, subscriptions.modify r g) := by
  have hsame (channel : Nat) :
      channels.sentOn channel = hub.channels.sentOn channel ∧
        channels.capacityOf channel = hub.channels.capacityOf channel := by
    rw [Broadcast.sentOn, Broadcast.capacityOf, hchannels]
    exact ⟨rfl, rfl⟩
  refine ⟨fun c sender hc => ?_, h.own, ?_⟩
  · obtain ⟨hlt, hcapacity⟩ := h.known c sender hc
    exact ⟨hchannels.symm ▸ hlt, (hsame sender).2.trans hcapacity⟩
  · have hmodified := forall₂_modify h.serves r hfg
    rw [← hreceivers] at hmodified
    exact hmodified.imp fun x y hxy => hxy.congr (fun _ => rfl) fun _ => (hsame _).1

theorem Attached.drop (h : Attached (hub, subscriptions)) (r : Nat) :
    Attached (ObservedHub.step (hub, subscriptions) (.drop r)) :=
  h.modify rfl rfl fun _ _ _ _ => ⟨rfl, nofun, nofun, nofun⟩

theorem Attached.recv (h : Attached (hub, subscriptions)) (r : Nat) :
    Attached (ObservedHub.step (hub, subscriptions) (.recv r)) := by
  rcases hub.channels.recv_cases r with ⟨hsame, hnothing⟩ | ⟨x, hx, hlive, hx'⟩
  · have hstep : ObservedHub.step (hub, subscriptions) (.recv r) = (hub, subscriptions) := by
      rw [ObservedHub.step, ClusterEventHub.serve]
      rcases hnothing with hempty | hgone
      · simp only [hsame, hempty, observe]
      · simp only [hsame, hgone, observe]
    rw [hstep]
    exact h
  · rcases hx' with ⟨event, rest, hbacklog, hrecv⟩ | ⟨missed, hmissed, hrecv⟩
    · have hstep : ObservedHub.step (hub, subscriptions) (.recv r) =
          ({ hub with channels := hub.channels.pass r 1 },
            subscriptions.modify r fun y => { y with received := y.received ++ [event] }) := by
        simp only [ObservedHub.step, ClusterEventHub.serve, hrecv, observe]
      rw [hstep]
      refine h.modify rfl rfl fun x' y hx' hxy => ?_
      obtain rfl : x' = x := Option.some.inj (hx'.symm.trans hx)
      have hnext : x'.next + 1 ≤ (hub.channels.sentOn x'.channel).length := by
        have hlength := congrArg List.length hbacklog
        rw [Broadcast.backlog, List.length_drop, List.length_cons] at hlength
        omega
      refine ⟨hxy.live, hxy.attached, fun _ => hnext, fun hy hl => ?_⟩
      have hrest : hub.channels.backlog { x' with next := x'.next + 1 } = rest := by
        have htail := congrArg List.tail hbacklog
        rwa [Broadcast.backlog, List.tail_drop] at htail
      rw [hrest, ← hxy.delivered hy hl, hbacklog, List.append_assoc]
      rfl
    · have hstep : ObservedHub.step (hub, subscriptions) (.recv r) =
          ({ hub with channels := hub.channels.pass r missed },
            subscriptions.modify r fun y => { y with lagged := true }) := by
        simp only [ObservedHub.step, ClusterEventHub.serve, hrecv, observe]
      rw [hstep]
      refine h.modify rfl rfl fun x' y hx' hxy => ?_
      obtain rfl : x' = x := Option.some.inj (hx'.symm.trans hx)
      refine ⟨hxy.live, hxy.attached, fun hy => ?_, fun _ hlagged => ?_⟩
      · have hbound := hxy.bounded hy
        rw [Broadcast.backlog, List.length_drop] at hmissed
        show x'.next + missed ≤ (hub.channels.sentOn x'.channel).length
        omega
      · cases hlagged

end Step

theorem attached_step {s : ObservedHub} (h : Attached s) (a : HubRequest) :
    Attached (s.step a) := by
  obtain ⟨hub, subscriptions⟩ := s
  cases a with
  | subscribe c => exact h.subscribe c
  | publish c event => exact (h.publish c event).1
  | recv r => exact h.recv r
  | drop r => exact h.drop r

/-- The hub after a history, with the subscriptions. -/
def observed (requests : List HubRequest) : ObservedHub :=
  requests.foldl ObservedHub.step (.new, [])

theorem attached_observed (requests : List HubRequest) : Attached (observed requests) :=
  List.foldlRecOn requests ObservedHub.step attached_new fun _ h a _ => attached_step h a

theorem serve_capacity (hub : ClusterEventHub) (a : HubRequest) :
    (hub.serve a).1.capacity = hub.capacity := by
  cases a with
  | subscribe c =>
    simp only [ClusterEventHub.serve, ClusterEventHub.subscribe]
    split <;> rfl
  | publish c event =>
    simp only [ClusterEventHub.serve, ClusterEventHub.publish]
    split
    · rfl
    · split <;> rfl
  | recv r => rfl
  | drop r => rfl

theorem observed_capacity (requests : List HubRequest) :
    (observed requests).1.capacity = 64 :=
  List.foldlRecOn (motive := fun s : ObservedHub => s.1.capacity = 64) requests ObservedHub.step rfl
    fun s h a _ => (serve_capacity s.1 a).trans h

/-- After every history, whatever is subscribed, published, received and dropped in which order:
every receiver that is there is attached to the sender stored for its cluster, has received or
will receive exactly what was published for it since, and is counted by the next publication. -/
theorem hub_neither_loses_nor_mixes (requests : List HubRequest) :
    List.Forall₂ (fun x y => x.live = y.live ∧ (y.live = true →
        (observed requests).1.inner y.clusterId = some x.channel ∧
        (y.lagged = false → y.received ++ (observed requests).1.channels.backlog x = y.published)))
      (observed requests).1.channels.receivers (observed requests).2 ∧
    (∀ r x, (observed requests).1.channels.receivers[r]? = some x → x.live = true →
      ((observed requests).1.channels.backlog x).length ≤ 64 →
        ((observed requests).1.serve (.recv r)).2 = .received
          (match (observed requests).1.channels.backlog x with
          | [] => .empty
          | event :: _ => .message event)) ∧
    ∀ c event, ((observed requests).1.serve (.publish c event)).2 =
      .observers ((observed requests).2.countP (·.isFor c)) := by
  have h := attached_observed requests
  refine ⟨?_, ?_, ?_⟩
  · exact h.serves.imp fun x y hxy => ⟨hxy.live, fun hy => ⟨hxy.attached hy, hxy.delivered hy⟩⟩
  · intro r x hx hlive hle
    obtain ⟨hr, rfl⟩ := List.getElem?_eq_some_iff.mp hx
    obtain ⟨y, hxy⟩ : ∃ y, Serves (observed requests).1 _ y :=
      ⟨_, List.Forall₂.get h.serves hr (h.serves.length_eq ▸ hr)⟩
    have hcapacity := (h.known _ _ (hxy.attached (hxy.live ▸ hlive))).2
    rw [observed_capacity] at hcapacity
    have hrecv := Broadcast.recv_of_le hx hlive (hle.trans hcapacity.ge)
    rw [ClusterEventHub.serve, hrecv]
    dsimp only
    cases (observed requests).1.channels.backlog (observed requests).1.channels.receivers[r] with
    | nil => rfl
    | cons event rest => rfl
  · intro c event
    exact congrArg HubAnswer.observers (Attached.publish h c event).2

end Kubinate.Clusters
