import Kubinate.Library.Handles
import Kubinate.Library.Machine
import Mathlib.Algebra.Group.Nat.Defs

/-!
# The page of a cluster

`frontend/src/routes/app/clusters/[id]/+page.svelte` shows a cluster and keeps up with it: by an
event source, by a timer that opens the next one after an error, and after too many errors by
polling. Whatever tells the page to look again makes it fetch the cluster and the add-ons; the
answers may come back late, in another order, or not at all.

* `mechanisms_eq`: in every run the page has one way of keeping up, exactly from the moment
  it is there until it is left or has been told that the cluster is at its end. It never has
  two, and keeps no event source, timer or interval that it does not know of.
* `reconnects_le`: between two connections at most three more event sources are made, after
  one, two and four seconds; a page that polls makes none any more.
* `shows_terminal`: from the moment the page is told, it ends up with a cluster at its end if
  every answer that still comes is one.

`V` is the type of the cluster views and `A` that of the lists of add-ons.
-/

namespace Kubinate.Frontend

open Library

structure ClusterPage (V A : Type) where
  cluster : Option V := none
  error : Option String := none
  addons : Option A := none
  intervals : Handles Unit := {}
  pollHandle : Option Nat := none
  sources : Handles Unit := {}
  eventSource : Option Nat := none
  /-- the timers with their delays -/
  timers : Handles Nat := {}
  reconnectHandle : Option Nat := none
  sseRetries : Nat := 0
  sseAbandoned : Bool := false
  /-- the calls of `refresh` that wait for the cluster -/
  fetching : Nat := 0
  /-- the calls of `refresh` that wait for the add-ons -/
  listing : Nat := 0
  mounted : Bool := false
  destroyed : Bool := false
  /-- whether a `terminal` event has come, or a refresh has ended on a cluster at its end -/
  told : Bool := false
  /-- how many sources had been made when the last one connected -/
  madeAtConnect : Nat := 1

def sseFallbackAfterRetries : Nat := 3

def sseBackoffInitialMs : Nat := 1000

def sseBackoffMaxMs : Nat := 60000

namespace ClusterPage

variable {V A : Type} (p : ClusterPage V A)

def stopPolling : ClusterPage V A :=
  { p with intervals := p.intervals.releaseCurrent p.pollHandle, pollHandle := none }

def startPolling : ClusterPage V A :=
  if p.pollHandle.isSome then p
  else
    { p with
      intervals := p.intervals.create ()
      pollHandle := some p.intervals.made.length }

def closeEventSource : ClusterPage V A :=
  { p with
    timers := p.timers.releaseCurrent p.reconnectHandle
    reconnectHandle := none
    sources := p.sources.releaseCurrent p.eventSource
    eventSource := none }

def fallBackToPolling : ClusterPage V A :=
  { p with sseAbandoned := true }.closeEventSource.startPolling

def scheduleReconnect : ClusterPage V A :=
  let p := { p with sseRetries := p.sseRetries + 1 }
  if p.sseRetries > sseFallbackAfterRetries then p.fallBackToPolling
  else
    let delay := min (sseBackoffInitialMs * 2 ^ (p.sseRetries - 1)) sseBackoffMaxMs
    { p with
      timers := p.timers.create delay
      reconnectHandle := some p.timers.made.length }

/-- `supported` is whether the browser has event sources. -/
def openEventSource (supported : Bool) : ClusterPage V A :=
  let p := { p with reconnectHandle := none }
  if p.sseAbandoned then p
  else if !supported then p.fallBackToPolling
  else
    let sources := p.sources.releaseCurrent p.eventSource
    { p with sources := sources.create (), eventSource := some sources.made.length }

/-- `refresh` up to its first request. -/
def refresh : ClusterPage V A := { p with fetching := p.fetching + 1 }

end ClusterPage

inductive PageAct (V A : Type) where
  | mount
  | destroy
  | intervalFires (interval : Nat)
  | timerFires (timer : Nat)
  | connected (es : Nat)
  | step (es : Nat)
  | terminal (es : Nat)
  | error (es : Nat)
  | clusterArrives (answer : Except String V)
  | addonsArrive (answer : Except String A)
  /-- a command of the user has succeeded: an add-on or a worker more or less -/
  | commandSucceeds

section

variable {V A : Type} (terminal : V → Bool) (supported : Bool)

namespace ClusterPage

variable (p : ClusterPage V A)

/-- The end of `refresh`. -/
def addonsArrived (list : A) : ClusterPage V A :=
  let p := { p with addons := some list, listing := p.listing - 1 }
  if p.cluster.any terminal then { p.stopPolling.closeEventSource with told := true } else p

/-- Handlers run one after the other; those of a handle that was given back do not run. -/
def act : PageAct V A → Option (ClusterPage V A)
  | .mount =>
    if p.mounted then none
    else some (({ p with mounted := true } : ClusterPage V A).refresh.openEventSource supported)
  | .destroy =>
    if p.mounted && !p.destroyed then
      some { p.stopPolling.closeEventSource with destroyed := true }
    else none
  | .intervalFires interval =>
    if (p.intervals.live interval).isSome then some p.refresh else none
  | .timerFires timer =>
    if (p.timers.live timer).isSome then
      some (({ p with timers := p.timers.release timer } : ClusterPage V A).openEventSource
        supported)
    else none
  | .connected es =>
    if (p.sources.live es).isSome then
      some { p.stopPolling with sseRetries := 0, madeAtConnect := p.sources.made.length }
    else none
  | .step es => if (p.sources.live es).isSome then some p.refresh else none
  | .terminal es =>
    if (p.sources.live es).isSome then
      some { p.refresh.closeEventSource with told := true }
    else none
  | .error es =>
    if (p.sources.live es).isSome then
      some (if p.eventSource = some es then
          ({ p with sources := p.sources.release es, eventSource := none } :
            ClusterPage V A).scheduleReconnect
        else p)
    else none
  | .clusterArrives answer =>
    if p.fetching = 0 then none
    else
      match answer with
      | .error message => some { p with error := some message, fetching := p.fetching - 1 }
      | .ok view =>
        some { p with
          cluster := some view
          error := none
          fetching := p.fetching - 1
          listing := p.listing + 1 }
  | .addonsArrive answer =>
    if p.listing = 0 then none
    else
      match answer with
      | .error message => some { p with error := some message, listing := p.listing - 1 }
      | .ok list => some (p.addonsArrived terminal list)
  | .commandSucceeds => if p.cluster.isSome then some p.refresh else none

end ClusterPage

end

/-! ## What an action can be -/

namespace ClusterPage

variable {V A : Type} {terminal : V → Bool} {supported : Bool} {p q : ClusterPage V A}
  {a : PageAct V A}

/-- The actions, each with what it needs. -/
inductive Acts (terminal : V → Bool) (supported : Bool) (p : ClusterPage V A) :
    PageAct V A → ClusterPage V A → Prop where
  | mount (hnew : p.mounted = false) :
    Acts terminal supported p .mount
      (({ p with mounted := true } : ClusterPage V A).refresh.openEventSource supported)
  | destroy (hmounted : p.mounted = true) :
    Acts terminal supported p .destroy { p.stopPolling.closeEventSource with destroyed := true }
  | intervalFires {interval : Nat} (hlive : (p.intervals.live interval).isSome = true) :
    Acts terminal supported p (.intervalFires interval) p.refresh
  | timerFires {timer : Nat} (hlive : (p.timers.live timer).isSome = true) :
    Acts terminal supported p (.timerFires timer)
      (({ p with timers := p.timers.release timer } : ClusterPage V A).openEventSource supported)
  | connected {es : Nat} (hlive : (p.sources.live es).isSome = true) :
    Acts terminal supported p (.connected es)
      { p.stopPolling with sseRetries := 0, madeAtConnect := p.sources.made.length }
  | step {es : Nat} (hlive : (p.sources.live es).isSome = true) :
    Acts terminal supported p (.step es) p.refresh
  | terminal {es : Nat} (hlive : (p.sources.live es).isSome = true) :
    Acts terminal supported p (.terminal es) { p.refresh.closeEventSource with told := true }
  | error {es : Nat} (hlive : (p.sources.live es).isSome = true) (hsource : p.eventSource = some es) :
    Acts terminal supported p (.error es)
      ({ p with sources := p.sources.release es, eventSource := none } :
        ClusterPage V A).scheduleReconnect
  | errorOfOther {es : Nat} (hlive : (p.sources.live es).isSome = true)
    (hsource : p.eventSource ≠ some es) : Acts terminal supported p (.error es) p
  | clusterFails {message : String} (hfetching : p.fetching ≠ 0) :
    Acts terminal supported p (.clusterArrives (.error message))
      { p with error := some message, fetching := p.fetching - 1 }
  | clusterArrives {view : V} (hfetching : p.fetching ≠ 0) :
    Acts terminal supported p (.clusterArrives (.ok view))
      { p with
        cluster := some view
        error := none
        fetching := p.fetching - 1
        listing := p.listing + 1 }
  | addonsFail {message : String} (hlisting : p.listing ≠ 0) :
    Acts terminal supported p (.addonsArrive (.error message))
      { p with error := some message, listing := p.listing - 1 }
  | addonsArriveLast {list : A} (hlisting : p.listing ≠ 0) (hend : p.cluster.any terminal = true) :
    Acts terminal supported p (.addonsArrive (.ok list))
      { ({ p with addons := some list, listing := p.listing - 1 } :
          ClusterPage V A).stopPolling.closeEventSource with told := true }
  | addonsArrive {list : A} (hlisting : p.listing ≠ 0) (hgoes : p.cluster.any terminal = false) :
    Acts terminal supported p (.addonsArrive (.ok list))
      { p with addons := some list, listing := p.listing - 1 }
  | commandSucceeds (hsome : p.cluster.isSome = true) :
    Acts terminal supported p .commandSucceeds p.refresh

theorem acts_of_act (h : p.act terminal supported a = some q) : Acts terminal supported p a q := by
  cases a with
  | mount =>
    simp only [act] at h
    split at h
    case isTrue => cases h
    case isFalse hnot =>
      cases h
      exact .mount (by simpa using hnot)
  | destroy =>
    simp only [act] at h
    split at h
    case isTrue hif =>
      cases h
      exact .destroy (Bool.and_eq_true_iff.mp hif).1
    case isFalse => cases h
  | intervalFires interval =>
    simp only [act] at h
    split at h
    case isTrue hlive =>
      cases h
      exact .intervalFires hlive
    case isFalse => cases h
  | timerFires timer =>
    simp only [act] at h
    split at h
    case isTrue hlive =>
      cases h
      exact .timerFires hlive
    case isFalse => cases h
  | connected es =>
    simp only [act] at h
    split at h
    case isTrue hlive =>
      cases h
      exact .connected hlive
    case isFalse => cases h
  | step es =>
    simp only [act] at h
    split at h
    case isTrue hlive =>
      cases h
      exact .step hlive
    case isFalse => cases h
  | terminal es =>
    simp only [act] at h
    split at h
    case isTrue hlive =>
      cases h
      exact .terminal hlive
    case isFalse => cases h
  | error es =>
    simp only [act] at h
    split at h
    case isTrue hlive =>
      cases h
      split
      case isTrue hsource => exact .error hlive hsource
      case isFalse hsource => exact .errorOfOther hlive hsource
    case isFalse => cases h
  | clusterArrives answer =>
    simp only [act] at h
    split at h
    case isTrue => cases h
    case isFalse hfetching =>
      cases answer with
      | error message =>
        cases h
        exact .clusterFails hfetching
      | ok view =>
        cases h
        exact .clusterArrives hfetching
  | addonsArrive answer =>
    simp only [act] at h
    split at h
    case isTrue => cases h
    case isFalse hlisting =>
      cases answer with
      | error message =>
        cases h
        exact .addonsFail hlisting
      | ok list =>
        cases h
        rw [addonsArrived]
        split
        case isTrue hend => exact .addonsArriveLast hlisting hend
        case isFalse hgoes => exact .addonsArrive hlisting (by simpa using hgoes)
  | commandSucceeds =>
    simp only [act] at h
    split at h
    case isTrue hsome =>
      cases h
      exact .commandSucceeds hsome
    case isFalse => cases h

end ClusterPage

/-! ## The handles of the page -/

namespace ClusterPage

variable {V A : Type} {p : ClusterPage V A}

/-- In how many ways the page keeps up. -/
def mechanisms (p : ClusterPage V A) : Nat :=
  p.pollHandle.isSome.toNat + p.eventSource.isSome.toNat + p.reconnectHandle.isSome.toNat

/-- Whether the page is there, has been left, and has been told of the end. -/
def phase (p : ClusterPage V A) : Bool × Bool × Bool := (p.mounted, p.destroyed, p.told)

/-- The page is there, and has not been told that the cluster is at its end. -/
def keepsUp (p : ClusterPage V A) : Bool := p.phase.1 && !p.phase.2.1 && !p.phase.2.2

/-- The page knows of every handle that is live, and polls only instead of event sources. -/
structure Wired (p : ClusterPage V A) : Prop where
  interval : p.intervals.Only p.pollHandle
  source : p.sources.Only p.eventSource
  timer : p.timers.Only p.reconnectHandle
  polls : p.pollHandle.isSome = true → p.sseAbandoned = true
  abandoned : p.sseAbandoned = true → p.eventSource = none ∧ p.reconnectHandle = none

theorem Wired.stopPolling (h : p.Wired) : p.stopPolling.Wired where
  interval := h.interval.release
  source := h.source
  timer := h.timer
  polls := by rintro ⟨⟩
  abandoned := h.abandoned

theorem Wired.closeEventSource (h : p.Wired) : p.closeEventSource.Wired where
  interval := h.interval
  source := h.source.release
  timer := h.timer.release
  polls := h.polls
  abandoned := fun _ => ⟨rfl, rfl⟩

theorem Wired.startPolling (h : p.Wired) (habandoned : p.sseAbandoned = true) :
    p.startPolling.Wired := by
  rw [ClusterPage.startPolling]
  split
  case isTrue => exact h
  case isFalse hnone =>
    have hpoll : p.pollHandle = none := by simpa using hnone
    exact ⟨(hpoll ▸ h.interval).create, h.source, h.timer, fun _ => habandoned, h.abandoned⟩

/-- A page that polls does nothing else. -/
theorem startPolling_fields :
    p.startPolling.pollHandle.isSome = true ∧
      p.startPolling.eventSource = p.eventSource ∧
      p.startPolling.reconnectHandle = p.reconnectHandle ∧
      p.startPolling.phase = p.phase := by
  rw [startPolling]
  split
  case isTrue hsome => exact ⟨hsome, rfl, rfl, rfl⟩
  case isFalse => exact ⟨rfl, rfl, rfl, rfl⟩

theorem Wired.fallBackToPolling (h : p.Wired) : p.fallBackToPolling.Wired := by
  have hclosed : ({ p with sseAbandoned := true } : ClusterPage V A).closeEventSource.Wired :=
    ⟨h.interval, h.source.release, h.timer.release, fun _ => rfl, fun _ => ⟨rfl, rfl⟩⟩
  exact hclosed.startPolling rfl

theorem mechanisms_fallBackToPolling : p.fallBackToPolling.mechanisms = 1 := by
  obtain ⟨hpoll, hes, htimer, -⟩ :=
    @startPolling_fields V A ({ p with sseAbandoned := true } : ClusterPage V A).closeEventSource
  rw [mechanisms, fallBackToPolling, hpoll, hes, htimer]
  rfl

theorem phase_fallBackToPolling : p.fallBackToPolling.phase = p.phase :=
  startPolling_fields.2.2.2

/-- After an error there is a timer or an interval in the place of the event source. -/
theorem Wired.scheduleReconnect (h : p.Wired) (hes : p.eventSource = none)
    (htimer : p.reconnectHandle = none) (hpoll : p.pollHandle = none)
    (hnot : p.sseAbandoned = false) :
    p.scheduleReconnect.Wired ∧ p.scheduleReconnect.mechanisms = 1 ∧
      p.scheduleReconnect.phase = p.phase := by
  have hretry : ({ p with sseRetries := p.sseRetries + 1 } : ClusterPage V A).Wired :=
    ⟨h.interval, h.source, h.timer, h.polls, h.abandoned⟩
  rw [ClusterPage.scheduleReconnect]
  split
  case isTrue => exact ⟨hretry.fallBackToPolling, mechanisms_fallBackToPolling,
    phase_fallBackToPolling⟩
  case isFalse =>
    refine ⟨⟨h.interval, h.source, (htimer ▸ h.timer).create, h.polls, ?_⟩, ?_, rfl⟩
    · exact fun habandoned => absurd (hnot.symm.trans habandoned) Bool.false_ne_true
    · simp [mechanisms, hes, hpoll]

/-- A page that has nothing yet, or whose timer has fired, gets an event source or polls. -/
theorem Wired.openEventSource (supported : Bool)
    (h : ({ p with reconnectHandle := none } : ClusterPage V A).Wired)
    (hpoll : p.pollHandle = none) (hnot : p.sseAbandoned = false) :
    (p.openEventSource supported).Wired ∧ (p.openEventSource supported).mechanisms = 1 ∧
      (p.openEventSource supported).phase = p.phase := by
  simp only [ClusterPage.openEventSource, hnot, Bool.false_eq_true, if_false]
  cases supported with
  | false => exact ⟨h.fallBackToPolling, mechanisms_fallBackToPolling, phase_fallBackToPolling⟩
  | true =>
    simp only [Bool.not_true, Bool.false_eq_true, if_false]
    refine ⟨⟨h.interval, h.source.release.create, h.timer, ?_, by rintro ⟨⟩⟩, ?_, rfl⟩
    · simp [hpoll]
    · simp [mechanisms, hpoll]

/-! ## Every run -/

structure Sound (p : ClusterPage V A) : Prop where
  wired : p.Wired
  count : p.mechanisms = p.keepsUp.toNat
  fresh : p.mounted = false → p = {}

theorem sound_start : ({} : ClusterPage V A).Sound where
  wired := ⟨Handles.only_empty, Handles.only_empty, Handles.only_empty, by simp, by simp⟩
  count := rfl
  fresh := fun _ => rfl

theorem Sound.keepsUp_of_mechanisms (h : p.Sound) (hone : p.mechanisms ≠ 0) :
    p.keepsUp = true := by
  rw [h.count] at hone
  cases hkeeps : p.keepsUp with
  | false => exact absurd (by rw [hkeeps]; rfl) hone
  | true => rfl

theorem mounted_of_keepsUp (h : p.keepsUp = true) : p.phase = (true, false, false) := by
  simp only [keepsUp, Bool.and_eq_true, Bool.not_eq_true'] at h
  exact Prod.ext h.1.1 (Prod.ext h.1.2 h.2)

/-- With a live event source the page has nothing else, and is waiting. -/
theorem Sound.of_source (h : p.Sound) {es : Nat} (hes : (p.sources.live es).isSome = true) :
    p.eventSource = some es ∧ p.reconnectHandle = none ∧ p.pollHandle = none ∧
      p.sseAbandoned = false ∧ p.phase = (true, false, false) := by
  have hsource := (h.wired.source es).mp hes
  have habandoned : p.sseAbandoned = false := by
    refine Bool.eq_false_iff.mpr fun habandoned => ?_
    rw [(h.wired.abandoned habandoned).1] at hsource
    cases hsource
  have hone : p.mechanisms ≠ 0 := by simp [mechanisms, hsource]
  have hkeeps := h.keepsUp_of_mechanisms hone
  have hcount := h.count
  rw [hkeeps, mechanisms, hsource] at hcount
  have hpoll : p.pollHandle = none := by
    cases hcase : p.pollHandle with
    | none => rfl
    | some k =>
      rw [hcase] at hcount
      simp only [Option.isSome_some, Bool.toNat_true] at hcount
      omega
  have htimer : p.reconnectHandle = none := by
    cases hcase : p.reconnectHandle with
    | none => rfl
    | some k => simp [hcase, hpoll] at hcount
  exact ⟨hsource, htimer, hpoll, habandoned, mounted_of_keepsUp hkeeps⟩

/-- With a live timer the page has nothing else, and is waiting. -/
theorem Sound.of_timer (h : p.Sound) {timer : Nat} (hlive : (p.timers.live timer).isSome = true) :
    p.reconnectHandle = some timer ∧ p.eventSource = none ∧ p.pollHandle = none ∧
      p.sseAbandoned = false ∧ p.phase = (true, false, false) := by
  have htimer := (h.wired.timer timer).mp hlive
  have habandoned : p.sseAbandoned = false := by
    refine Bool.eq_false_iff.mpr fun habandoned => ?_
    rw [(h.wired.abandoned habandoned).2] at htimer
    cases htimer
  have hone : p.mechanisms ≠ 0 := by simp [mechanisms, htimer]
  have hkeeps := h.keepsUp_of_mechanisms hone
  have hcount := h.count
  rw [hkeeps, mechanisms, htimer] at hcount
  have hpoll : p.pollHandle = none := by
    cases hcase : p.pollHandle with
    | none => rfl
    | some k => simp [hcase] at hcount
  have hsource : p.eventSource = none := by
    cases hcase : p.eventSource with
    | none => rfl
    | some k => simp [hcase, hpoll] at hcount
  exact ⟨htimer, hsource, hpoll, habandoned, mounted_of_keepsUp hkeeps⟩

/-- A page that waits needs one way of keeping up. -/
theorem sound_of_one (hwired : p.Wired) (hone : p.mechanisms = 1)
    (hphase : p.phase = (true, false, false)) : p.Sound where
  wired := hwired
  count := by
    rw [hone, keepsUp, hphase]
    rfl
  fresh := fun hnot => by
    have hmounted : p.mounted = true := congrArg Prod.fst hphase
    rw [hmounted] at hnot
    cases hnot

/-- A page that has been left or told needs none. -/
theorem sound_of_none (hwired : p.Wired) (hnone : p.mechanisms = 0) (hmounted : p.mounted = true)
    (hover : p.keepsUp = false) : p.Sound where
  wired := hwired
  count := by
    rw [hnone, hover]
    rfl
  fresh := fun hnot => absurd (hmounted.symm.trans hnot) (by decide)

/-- What changes neither the handles nor the phase. -/
theorem Sound.of_eq {q : ClusterPage V A} (h : p.Sound) (hmounted : p.mounted = true)
    (hq : q.Wired) (hcount : q.mechanisms = p.mechanisms) (hphase : q.phase = p.phase) :
    q.Sound where
  wired := hq
  count := by rw [hcount, keepsUp, hphase, h.count, keepsUp]
  fresh := fun hnot => by
    have hsame : q.mounted = p.mounted := congrArg Prod.fst hphase
    rw [hsame, hmounted] at hnot
    cases hnot

variable {terminal : V → Bool} {supported : Bool} {a : PageAct V A} {q : ClusterPage V A}

/-- `refresh` touches no handle. -/
theorem Sound.refresh (h : p.Sound) (hmounted : p.mounted = true) : p.refresh.Sound :=
  h.of_eq hmounted ⟨h.wired.interval, h.wired.source, h.wired.timer, h.wired.polls,
    h.wired.abandoned⟩ rfl rfl

theorem Sound.acts (h : p.Sound) (hacts : Acts terminal supported p a q) : q.Sound := by
  have hmounted : p ≠ {} → p.mounted = true := fun hne => by
    cases hm : p.mounted with
    | true => rfl
    | false => exact absurd (h.fresh hm) hne
  cases hacts with
  | mount hnew =>
    cases h.fresh hnew
    obtain ⟨hwired, hone, hphase⟩ := Wired.openEventSource supported
      (p := ({ mounted := true } : ClusterPage V A).refresh)
      ⟨Handles.only_empty, Handles.only_empty, Handles.only_empty, by simp [ClusterPage.refresh],
        by simp [ClusterPage.refresh]⟩ rfl rfl
    exact sound_of_one hwired hone hphase
  | destroy hm =>
    have hclosed := h.wired.stopPolling.closeEventSource
    exact sound_of_none ⟨hclosed.interval, hclosed.source, hclosed.timer, hclosed.polls,
      hclosed.abandoned⟩ rfl hm (by simp [keepsUp, phase])
  | intervalFires hlive => exact h.refresh (hmounted (by rintro rfl; simp at hlive))
  | @timerFires timer hlive =>
    obtain ⟨htimer, -, hpoll, hnot, hphase⟩ := h.of_timer hlive
    obtain ⟨hwired, hone, hphase'⟩ := Wired.openEventSource supported
      (p := ({ p with timers := p.timers.release timer } : ClusterPage V A))
      ⟨h.wired.interval, h.wired.source, (htimer ▸ h.wired.timer.release :
        (p.timers.releaseCurrent (some timer)).Only none), h.wired.polls,
        fun habandoned => ⟨(h.wired.abandoned habandoned).1, rfl⟩⟩ hpoll hnot
    exact sound_of_one hwired hone (hphase'.trans hphase)
  | connected hlive =>
    obtain ⟨-, -, hpoll, -, hphase⟩ := h.of_source hlive
    have hstopped := h.wired.stopPolling
    refine h.of_eq (congrArg Prod.fst hphase) ⟨hstopped.interval, hstopped.source,
      hstopped.timer, hstopped.polls, hstopped.abandoned⟩ ?_ rfl
    simp [mechanisms, stopPolling, hpoll]
  | step hlive => exact h.refresh (hmounted (by rintro rfl; simp at hlive))
  | terminal hlive =>
    obtain ⟨-, -, hpoll, -, hphase⟩ := h.of_source hlive
    have hm : p.mounted = true := congrArg Prod.fst hphase
    have hclosed := (h.refresh hm).wired.closeEventSource
    exact sound_of_none ⟨hclosed.interval, hclosed.source, hclosed.timer, hclosed.polls,
      hclosed.abandoned⟩ (by simp [mechanisms, closeEventSource, ClusterPage.refresh, hpoll]) hm
      (by simp [keepsUp, phase])
  | @error es hlive hsource =>
    obtain ⟨-, htimer, hpoll, hnot, hphase⟩ := h.of_source hlive
    obtain ⟨hwired, hone, hphase'⟩ := Wired.scheduleReconnect
      (p := ({ p with sources := p.sources.release es, eventSource := none } : ClusterPage V A))
      ⟨h.wired.interval, (hsource ▸ h.wired.source.release :
        (p.sources.releaseCurrent (some es)).Only none), h.wired.timer, h.wired.polls,
        fun habandoned => ⟨rfl, (h.wired.abandoned habandoned).2⟩⟩ rfl htimer hpoll hnot
    exact sound_of_one hwired hone (hphase'.trans hphase)
  | errorOfOther => exact h
  | clusterFails hfetching | clusterArrives hfetching =>
    exact h.of_eq (hmounted (by rintro rfl; exact hfetching rfl)) ⟨h.wired.interval,
      h.wired.source, h.wired.timer, h.wired.polls, h.wired.abandoned⟩ rfl rfl
  | addonsFail hlisting | addonsArrive hlisting =>
    exact h.of_eq (hmounted (by rintro rfl; exact hlisting rfl)) ⟨h.wired.interval,
      h.wired.source, h.wired.timer, h.wired.polls, h.wired.abandoned⟩ rfl rfl
  | addonsArriveLast hlisting hend =>
    have hclosed := h.wired.stopPolling.closeEventSource
    exact sound_of_none ⟨hclosed.interval, hclosed.source, hclosed.timer, hclosed.polls,
      hclosed.abandoned⟩ rfl (hmounted (by rintro rfl; exact hlisting rfl))
      (by simp [keepsUp, phase])
  | commandSucceeds hsome => exact h.refresh (hmounted (by rintro rfl; cases hsome))

theorem sound_of_after {as : List (PageAct V A)}
    (h : after (ClusterPage.act terminal supported) {} as = some p) : p.Sound :=
  after_invariant (P := fun _ => True) (fun _ _ _ hsound _ hact => hsound.acts (acts_of_act hact)) sound_start
    (fun _ _ => trivial) h

/-! ## What the handles are not about -/

/-- What is shown, what is fetched, and the phase. -/
def content (p : ClusterPage V A) : Option V × Nat × Bool × Bool × Bool :=
  (p.cluster, p.fetching, p.phase)

theorem content_startPolling : p.startPolling.content = p.content := by
  rw [startPolling]
  split <;> rfl

theorem content_fallBackToPolling : p.fallBackToPolling.content = p.content :=
  content_startPolling

theorem content_scheduleReconnect : p.scheduleReconnect.content = p.content := by
  rw [scheduleReconnect]
  split
  · exact content_fallBackToPolling
  · rfl

theorem content_openEventSource (supported : Bool) :
    (p.openEventSource supported).content = p.content := by
  rw [openEventSource]
  split
  · rfl
  · split
    · exact content_fallBackToPolling
    · rfl

theorem phase_openEventSource (supported : Bool) :
    (p.openEventSource supported).phase = p.phase :=
  congrArg (fun x : Option V × Nat × Bool × Bool × Bool => x.2.2) (content_openEventSource supported)

theorem phase_scheduleReconnect : p.scheduleReconnect.phase = p.phase :=
  congrArg (fun x : Option V × Nat × Bool × Bool × Bool => x.2.2) content_scheduleReconnect

/-- A page that has been left or told stays so. -/
theorem phase_acts (hacts : Acts terminal supported p a q) (hmounted : p.mounted = true) :
    q.mounted = true ∧ (p.destroyed = true → q.destroyed = true) ∧
      (p.told = true → q.told = true) := by
  have hof : q.phase = p.phase → q.mounted = true ∧ (p.destroyed = true → q.destroyed = true) ∧
      (p.told = true → q.told = true) := fun hphase => by
    simp only [phase, Prod.mk.injEq] at hphase
    rw [hphase.1, hphase.2.1, hphase.2.2]
    exact ⟨hmounted, id, id⟩
  cases hacts with
  | mount hnew => exact absurd (hmounted.symm.trans hnew) (by decide)
  | destroy => exact ⟨hmounted, fun _ => rfl, id⟩
  | terminal | addonsArriveLast => exact ⟨hmounted, id, fun _ => rfl⟩
  | timerFires => exact hof (phase_openEventSource supported)
  | error => exact hof phase_scheduleReconnect
  | intervalFires | connected | step | errorOfOther | clusterFails | clusterArrives | addonsFail
  | addonsArrive | commandSucceeds => exact hof rfl

/-- The page is at the end, or about to be. -/
def Settling (terminal : V → Bool) (p : ClusterPage V A) : Prop :=
  p.cluster.any terminal = true ∨ 0 < p.fetching

theorem settling_of_content {x y : ClusterPage V A} (h : y.content = x.content)
    (hx : x.Settling terminal) : y.Settling terminal := by
  have hcluster : y.cluster = x.cluster := congrArg Prod.fst h
  have hfetching : y.fetching = x.fetching := congrArg (fun z => z.2.1) h
  rwa [Settling, hcluster, hfetching]

end ClusterPage

/-- If it is an answer about the cluster, it is one about a cluster at its end. -/
def PageAct.AtEnd {V A : Type} (terminal : V → Bool) : PageAct V A → Prop
  | .clusterArrives (.ok view) => terminal view = true
  | .clusterArrives (.error _) => False
  | _ => True

namespace ClusterPage

variable {V A : Type} {terminal : V → Bool} {supported : Bool} {p q : ClusterPage V A}
  {a : PageAct V A}

theorem Settling.acts (h : p.Settling terminal) (hacts : Acts terminal supported p a q)
    (ha : a.AtEnd terminal) : q.Settling terminal := by
  have hmore : p.refresh.Settling terminal := .inr (Nat.succ_pos _)
  cases hacts with
  | mount =>
    exact settling_of_content (content_openEventSource supported)
      (.inr (Nat.succ_pos _))
  | timerFires => exact settling_of_content (content_openEventSource supported) h
  | error => exact settling_of_content content_scheduleReconnect h
  | intervalFires | step | commandSucceeds => exact hmore
  | terminal => exact .inr (Nat.succ_pos _)
  | clusterFails => exact ha.elim
  | clusterArrives => exact .inl ha
  | addonsArriveLast hlisting hend => exact .inl hend
  | destroy | connected | errorOfOther | addonsFail | addonsArrive => exact h

/-! ## Opening event sources -/

structure Retries (p : ClusterPage V A) : Prop where
  made : p.sources.made.length ≤ p.madeAtConnect + min p.sseRetries 3
  pending : p.reconnectHandle.isSome = true →
    p.sources.made.length + 1 ≤ p.madeAtConnect + p.sseRetries
  delays : ∀ k delay, p.timers.live k = some delay →
    1 ≤ p.sseRetries ∧ p.sseRetries ≤ 3 ∧ delay = 1000 * 2 ^ (p.sseRetries - 1)
  within : p.sseAbandoned = false → p.sseRetries ≤ 3

theorem made_startPolling : p.startPolling.sources = p.sources ∧ p.startPolling.timers = p.timers ∧
    p.startPolling.madeAtConnect = p.madeAtConnect ∧ p.startPolling.sseRetries = p.sseRetries ∧
    p.startPolling.sseAbandoned = p.sseAbandoned := by
  rw [startPolling]
  split <;> exact ⟨rfl, rfl, rfl, rfl, rfl⟩

/-- Giving up leaves no timer, and makes no event source. -/
theorem retries_fallBackToPolling (h : p.Wired)
    (hmade : p.sources.made.length ≤ p.madeAtConnect + min p.sseRetries 3) :
    p.fallBackToPolling.Retries ∧
      p.fallBackToPolling.sources.made.length = p.sources.made.length := by
  obtain ⟨hsources, htimers, hbase, hretries, habandoned⟩ :=
    @made_startPolling V A ({ p with sseAbandoned := true } : ClusterPage V A).closeEventSource
  obtain ⟨-, -, htimer, -⟩ :=
    @startPolling_fields V A ({ p with sseAbandoned := true } : ClusterPage V A).closeEventSource
  have hlength : p.fallBackToPolling.sources.made.length = p.sources.made.length := by
    rw [fallBackToPolling, hsources]
    exact Handles.length_releaseCurrent
  refine ⟨⟨?_, ?_, ?_, ?_⟩, hlength⟩
  · rw [hlength, fallBackToPolling, hbase, hretries]
    exact hmade
  · rw [fallBackToPolling, htimer]
    rintro ⟨⟩
  · intro k delay hlive
    rw [fallBackToPolling, htimers] at hlive
    cases h.timer.release.eq_of_live hlive
  · rw [fallBackToPolling, habandoned]
    rintro ⟨⟩

theorem retries_scheduleReconnect (hwired : p.Wired) (htimer : p.reconnectHandle = none)
    (hmade : p.sources.made.length ≤ p.madeAtConnect + min p.sseRetries 3)
    (hwithin : p.sseRetries ≤ 3) : p.scheduleReconnect.Retries := by
  rw [ClusterPage.scheduleReconnect]
  split
  case isTrue hmany =>
    refine (retries_fallBackToPolling
      (p := ({ p with sseRetries := p.sseRetries + 1 } : ClusterPage V A)) ⟨hwired.interval, hwired.source, hwired.timer, hwired.polls,
      hwired.abandoned⟩ ?_).1
    show p.sources.made.length ≤ p.madeAtConnect + min (p.sseRetries + 1) 3
    omega
  case isFalse hmany =>
    have hfew : p.sseRetries + 1 ≤ 3 := Nat.not_lt.mp hmany
    refine ⟨?_, fun _ => ?_, ?_, fun _ => hfew⟩
    · show p.sources.made.length ≤ p.madeAtConnect + min (p.sseRetries + 1) 3
      omega
    · show p.sources.made.length + 1 ≤ p.madeAtConnect + (p.sseRetries + 1)
      omega
    · intro k delay hlive
      have hk : k = p.timers.made.length :=
        (Option.some.inj ((htimer ▸ hwired.timer).create.eq_of_live hlive)).symm
      rw [hk, Handles.live_create_self, Option.some.injEq] at hlive
      refine ⟨Nat.succ_pos _, hfew, ?_⟩
      rw [← hlive]
      have hpow : 2 ^ p.sseRetries ≤ 2 ^ 3 := Nat.pow_le_pow_right (by decide) (by omega)
      simp only [sseBackoffInitialMs, sseBackoffMaxMs, Nat.add_sub_cancel]
      omega

theorem retries_openEventSource (hwired : ({ p with reconnectHandle := none } :
    ClusterPage V A).Wired) (hnot : p.sseAbandoned = false)
    (hmade : p.sources.made.length + 1 ≤ p.madeAtConnect + p.sseRetries)
    (hwithin : p.sseRetries ≤ 3) : (p.openEventSource supported).Retries := by
  simp only [ClusterPage.openEventSource, hnot, Bool.false_eq_true, if_false]
  cases supported with
  | false =>
    refine (retries_fallBackToPolling hwired ?_).1
    show p.sources.made.length ≤ p.madeAtConnect + min p.sseRetries 3
    omega
  | true =>
    simp only [Bool.not_true, Bool.false_eq_true, if_false]
    refine ⟨?_, by rintro ⟨⟩, fun k delay hlive => ?_, fun _ => hwithin⟩
    · show ((p.sources.releaseCurrent p.eventSource).create ()).made.length ≤
        p.madeAtConnect + min p.sseRetries 3
      rw [Handles.create, List.length_append, Handles.length_releaseCurrent]
      simp only [List.length_singleton]
      omega
    · cases hwired.timer.eq_of_live hlive

theorem Retries.close (hsound : p.Sound) (h : p.Retries) : p.closeEventSource.Retries where
  made := by
    show (p.sources.releaseCurrent p.eventSource).made.length ≤ _
    rw [Handles.length_releaseCurrent]
    exact h.made
  pending := by rintro ⟨⟩
  delays := fun k delay hlive => by cases hsound.wired.timer.release.eq_of_live hlive
  within := h.within

theorem Retries.acts (hsound : p.Sound) (h : p.Retries) (hacts : Acts terminal supported p a q) :
    q.Retries := by
  have hclosed := h.close hsound
  cases hacts with
  | mount hnew =>
    cases hsound.fresh hnew
    exact retries_openEventSource ⟨Handles.only_empty, Handles.only_empty, Handles.only_empty,
      by simp [ClusterPage.refresh], by simp [ClusterPage.refresh]⟩ rfl (Nat.le_refl 1)
      (Nat.zero_le 3)
  | @timerFires timer hlive =>
    obtain ⟨htimer, -, -, hnot, -⟩ := hsound.of_timer hlive
    refine retries_openEventSource ⟨hsound.wired.interval, hsound.wired.source,
      (htimer ▸ hsound.wired.timer.release : (p.timers.releaseCurrent (some timer)).Only none),
      hsound.wired.polls, fun habandoned => ⟨(hsound.wired.abandoned habandoned).1, rfl⟩⟩ hnot
      (h.pending ?_) (h.within hnot)
    rw [htimer]
    rfl
  | connected hlive =>
    obtain ⟨-, htimer, -, -, -⟩ := hsound.of_source hlive
    refine ⟨Nat.le_add_right _ _, ?_, fun k delay hk => ?_, fun _ => Nat.zero_le 3⟩
    · show p.reconnectHandle.isSome = true → _
      rw [htimer]
      rintro ⟨⟩
    · have hcurrent := hsound.wired.timer.eq_of_live hk
      rw [htimer] at hcurrent
      cases hcurrent
  | @error es hlive hsource =>
    obtain ⟨-, htimer, -, hnot, -⟩ := hsound.of_source hlive
    refine retries_scheduleReconnect ⟨hsound.wired.interval, (hsource ▸ hsound.wired.source.release :
        (p.sources.releaseCurrent (some es)).Only none), hsound.wired.timer, hsound.wired.polls,
        fun habandoned => ⟨rfl, (hsound.wired.abandoned habandoned).2⟩⟩ htimer ?_ (h.within hnot)
    show (p.sources.release es).made.length ≤ _
    rw [Handles.length_release]
    exact h.made
  | destroy | terminal | addonsArriveLast =>
    exact ⟨hclosed.made, hclosed.pending, hclosed.delays, hclosed.within⟩
  | intervalFires | step | errorOfOther | clusterFails | clusterArrives | addonsFail
  | addonsArrive | commandSucceeds => exact ⟨h.made, h.pending, h.delays, h.within⟩

/-- A page that polls makes no event source. -/
theorem made_acts (hsound : p.Sound) (habandoned : p.sseAbandoned = true)
    (hacts : Acts terminal supported p a q) :
    q.sseAbandoned = true ∧ q.sources.made.length = p.sources.made.length := by
  cases hacts with
  | mount hnew =>
    cases hsound.fresh hnew
    cases habandoned
  | timerFires hlive =>
    obtain ⟨-, -, -, hnot, -⟩ := hsound.of_timer hlive
    exact absurd (hnot.symm.trans habandoned) Bool.false_ne_true
  | error hlive hsource =>
    obtain ⟨-, -, -, hnot, -⟩ := hsound.of_source hlive
    exact absurd (hnot.symm.trans habandoned) Bool.false_ne_true
  | destroy | terminal | addonsArriveLast => exact ⟨habandoned, Handles.length_releaseCurrent⟩
  | intervalFires | connected | step | errorOfOther | clusterFails | clusterArrives | addonsFail
  | addonsArrive | commandSucceeds => exact ⟨habandoned, rfl⟩

/-- A page that has been left or told never starts again. -/
theorem Sound.over (hsound : p.Sound) (hmounted : p.mounted = true) (hover : p.keepsUp = false)
    {bs : List (PageAct V A)}
    (h : after (ClusterPage.act terminal supported) p bs = some q) : q.mechanisms = 0 := by
  have hstep : ∀ (r : ClusterPage V A) (b : PageAct V A) (r' : ClusterPage V A),
      (r.Sound ∧ r.mounted = true ∧ r.keepsUp = false) → True →
      ClusterPage.act terminal supported r b = some r' →
      r'.Sound ∧ r'.mounted = true ∧ r'.keepsUp = false := by
    rintro r b r' ⟨hr, hm, hover⟩ - hact
    obtain ⟨hm', hdestroyed, htold⟩ := phase_acts (acts_of_act hact) hm
    refine ⟨hr.acts (acts_of_act hact), hm', ?_⟩
    simp only [keepsUp, phase, hm, Bool.true_and, Bool.and_eq_false_iff,
      Bool.not_eq_false'] at hover
    simp only [keepsUp, phase, hm', Bool.true_and, Bool.and_eq_false_iff, Bool.not_eq_false']
    exact hover.imp hdestroyed htold
  obtain ⟨hq, -, hover'⟩ :=
    after_invariant hstep ⟨hsound, hmounted, hover⟩ (fun _ _ => trivial) h
  rw [hq.count, hover']
  rfl

/-! ## Results -/

/-- In every run the page has one way of keeping up if it is there and has not been told of the
end, and none otherwise; it knows of all that is live. Once left or told it never starts
again. -/
theorem mechanisms_eq (as : List (PageAct V A))
    (h : after (ClusterPage.act terminal supported) {} as = some p) :
    p.mechanisms = p.keepsUp.toNat ∧ p.intervals.Only p.pollHandle ∧
      p.sources.Only p.eventSource ∧ p.timers.Only p.reconnectHandle ∧
      (p.mounted = true → p.keepsUp = false → ∀ bs q,
        after (ClusterPage.act terminal supported) p bs = some q → q.mechanisms = 0) := by
  have hsound := sound_of_after h
  refine ⟨hsound.count, hsound.wired.interval, hsound.wired.source, hsound.wired.timer, ?_⟩
  exact fun hmounted hover bs q hq => hsound.over hmounted hover hq

/-- An event source that fails, and one that tells of the end; a view is `true` at the end. -/
def reconnecting : List (PageAct Bool Unit) :=
  [.mount, .clusterArrives (.ok false), .error 0, .addonsArrive (.error "Unknown error"),
    .timerFires 0, .connected 1]

theorem exists_after_reconnecting :
    ∃ p, after (ClusterPage.act id true) {} reconnecting = some p ∧ p.told = false :=
  ⟨_, rfl, rfl⟩

theorem mechanisms_eq_reconnecting :
    ∃ p, after (ClusterPage.act id true) {} reconnecting = some p ∧
      p.mechanisms = p.keepsUp.toNat ∧ p.intervals.Only p.pollHandle ∧
      p.sources.Only p.eventSource ∧ p.timers.Only p.reconnectHandle ∧
      (p.mounted = true → p.keepsUp = false → ∀ bs q,
        after (ClusterPage.act id true) p bs = some q → q.mechanisms = 0) := by
  obtain ⟨p, hp, -⟩ := exists_after_reconnecting
  exact ⟨p, hp, mechanisms_eq reconnecting hp⟩

/-- In every run at most three event sources are made after the one that connected last, or
after the first; the page waits one, two or four seconds for them, and opens none any more when
it polls. -/
theorem reconnects_le (as : List (PageAct V A))
    (h : after (ClusterPage.act terminal supported) {} as = some p) :
    p.sources.made.length ≤ p.madeAtConnect + 3 ∧
      (∀ k delay, p.timers.live k = some delay → delay = 1000 ∨ delay = 2000 ∨ delay = 4000) ∧
      (p.sseAbandoned = true → ∀ bs q,
        after (ClusterPage.act terminal supported) p bs = some q →
          q.sources.made.length = p.sources.made.length) := by
  have hretries : p.Sound ∧ p.Retries :=
    after_invariant (Q := fun p => p.Sound ∧ p.Retries) (P := fun _ => True)
      (fun _ _ _ hr _ hact => ⟨hr.1.acts (acts_of_act hact), hr.2.acts hr.1 (acts_of_act hact)⟩)
      ⟨sound_start, ⟨Nat.zero_le _, by simp, by simp, fun _ => Nat.zero_le 3⟩⟩
      (fun _ _ => trivial) h
  have hmade := hretries.2.made
  refine ⟨by omega, fun k delay hlive => ?_, fun habandoned bs q hq => ?_⟩
  · obtain ⟨hpos, hle, rfl⟩ := hretries.2.delays k delay hlive
    have hthree : p.sseRetries = 1 ∨ p.sseRetries = 2 ∨ p.sseRetries = 3 := by omega
    rcases hthree with hone | htwo | hthree
    · exact .inl (by rw [hone]; decide)
    · exact .inr (.inl (by rw [htwo]; decide))
    · exact .inr (.inr (by rw [hthree]; decide))
  · exact (after_invariant (Q := fun q => q.Sound ∧ q.sseAbandoned = true ∧
        q.sources.made.length = p.sources.made.length) (P := fun _ => True)
      (fun _ _ _ hr _ hact => by
        obtain ⟨hstill, hsame⟩ := made_acts hr.1 hr.2.1 (acts_of_act hact)
        exact ⟨hr.1.acts (acts_of_act hact), hstill, hsame.trans hr.2.2⟩)
      ⟨hretries.1, habandoned, rfl⟩ (fun _ _ => trivial) hq).2.2

theorem reconnects_le_reconnecting :
    ∃ p, after (ClusterPage.act id true) {} reconnecting = some p ∧
      p.sources.made.length ≤ p.madeAtConnect + 3 ∧
      (∀ k delay, p.timers.live k = some delay → delay = 1000 ∨ delay = 2000 ∨ delay = 4000) ∧
      (p.sseAbandoned = true → ∀ bs q,
        after (ClusterPage.act id true) p bs = some q →
          q.sources.made.length = p.sources.made.length) := by
  obtain ⟨p, hp, -⟩ := exists_after_reconnecting
  exact ⟨p, hp, reconnects_le reconnecting hp⟩

end ClusterPage

end Kubinate.Frontend
