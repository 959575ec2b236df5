import Kubinate.Library.Pool
import Mathlib.Logic.Function.Basic

/-!
# Connections with settings that end with the transaction

Clients share connections to a database. A client that begins a transaction gets a connection
that no one else has, and gives it back with the end of the transaction. What it sets in
between is kept on the connection and taken back at the end; a setting that the connection did
not know before is left behind with a blank value. Statements may fail, connections may break,
and a client may stop anywhere.

* `Sound`: a connection that no one has is clean, and on every other one stands what its client
  has set since it began.
* `ran_sees`: every statement of every run sees exactly what its own client has set for it.

What the clients do is open: the pool takes any programs.
-/

namespace Kubinate.Library

/-- What a client asks for. A `single` statement is made outside of a transaction. -/
inductive SettingCall (K V Q : Type) where
  | begin
  | setLocal (k : K) (v : V)
  | run (q : Q)
  | commit
  | drop
  | single (q : Q)

/-- A statement that is executed has a result of type `R`; giving a connection back is silent. -/
def SettingCall.Answer {K V Q : Type} (R : Type) : SettingCall K V Q → Type
  | .begin | .setLocal .. | .commit => Except Unit Unit
  | .run _ | .single _ => Except Unit R
  | .drop => Unit

abbrev settingCalls (K V Q R : Type) : Interface := ⟨SettingCall K V Q, SettingCall.Answer R⟩

/-- How a call goes. Before the connection breaks or the client stops, the statement may have
been executed. -/
inductive CallEnd (R : Type) where
  | ok (r : R)
  | failed
  | broken (executed : Bool)
  | stopped (executed : Bool)

/-- The connection that is handed out if one is asked for, and how the call goes. -/
structure SettingOutcome (R : Type) where
  connection : Nat
  callEnd : CallEnd R

/-- A connection with its settings, those that come back at the end of the transaction, and
the client that has it. After a failed statement the transaction executes nothing more. -/
structure Connection (K V : Type) where
  settings : K → Option V := fun _ => none
  saved : K → Option V := fun _ => none
  client : Option Nat := none
  aborted : Bool := false

/-- The connections, which client has which, and what was executed for whom with what in
sight. -/
structure Connections (K V Q : Type) where
  connection : Nat → Connection K V := fun _ => {}
  held : Nat → Option Nat := fun _ => none
  ran : List (Nat × Q × (K → Option V)) := []

variable {K V Q R J A : Type} [DecidableEq V]

/-- What a statement sees: a blank setting is as good as none. -/
def visible (blank : V) (settings : K → Option V) : K → Option V :=
  fun k => (settings k).filter (· ≠ blank)

namespace Connection

variable (blank : V) (c : Connection K V)

def begin (client : Nat) : Connection K V :=
  { c with saved := c.settings, client := some client, aborted := false }

def setLocal [DecidableEq K] (k : K) (v : V) : Connection K V :=
  { c with
    settings := Function.update c.settings k (some v)
    saved := Function.update c.saved k (some ((c.saved k).getD blank)) }

def abort : Connection K V := { c with aborted := true }

/-- The end of the transaction. -/
def finish : Connection K V := { c with settings := c.saved, client := none }

end Connection

namespace Connections

variable (blank : V) (w : Connections K V Q)

def set (n : Nat) (c : Connection K V) : Connections K V Q :=
  { w with connection := Function.update w.connection n c }

/-- A connection changes, and which one the client has. -/
def move (client n : Nat) (c : Connection K V) (has : Option Nat) : Connections K V Q :=
  { w.set n c with held := Function.update w.held client has }

def take (client n : Nat) : Connections K V Q :=
  w.move client n ((w.connection n).begin client) (some n)

def giveBack (client n : Nat) (c : Connection K V) : Connections K V Q := w.move client n c none

def execute (client : Nat) (q : Q) (n : Nat) : Connections K V Q :=
  { w with ran := w.ran ++ [(client, q, visible blank (w.connection n).settings)] }

/-- A call of a client that has the connection goes wrong. -/
def interrupt (client n : Nat) : CallEnd R → Connections K V Q
  | .ok _ => w
  | .failed => w.set n (w.connection n).abort
  | .broken _ => w.giveBack client n {}
  | .stopped _ => w.giveBack client n (w.connection n).finish

/-- The statement of a call that goes wrong is executed or not. -/
def perhaps (client : Nat) (q : Q) (n : Nat) : CallEnd R → Connections K V Q
  | .broken true | .stopped true => w.execute blank client q n
  | _ => w

/-- How a call of a client is answered. -/
def answer [DecidableEq K] (client : Nat) :
    (c : SettingCall K V Q) → SettingOutcome R → Option (Connections K V Q × c.Answer R)
  | .begin, ⟨n, e⟩ =>
    if w.held client = none ∧ (w.connection n).client = none then
      match e with
      | .ok _ => some (w.take client n, .ok ())
      | .broken _ => some (w.set n {}, .error ())
      | .failed | .stopped _ => some (w, .error ())
    else none
  | .setLocal k v, ⟨_, e⟩ =>
    (w.held client).bind fun n =>
      match e with
      | .ok _ =>
        if (w.connection n).aborted then none
        else some (w.set n ((w.connection n).setLocal blank k v), .ok ())
      | e => some (w.interrupt client n e, .error ())
  | .run q, ⟨_, e⟩ =>
    (w.held client).bind fun n =>
      match e with
      | .ok r => if (w.connection n).aborted then none else some (w.execute blank client q n, .ok r)
      | e =>
        if (w.connection n).aborted then some (w.interrupt client n e, .error ())
        else some ((w.perhaps blank client q n e).interrupt client n e, .error ())
  | .commit, ⟨_, e⟩ =>
    (w.held client).map fun n =>
      match e with
      | .ok _ => (w.giveBack client n (w.connection n).finish, .ok ())
      | e => (w.interrupt client n e, .error ())
  | .drop, ⟨_, e⟩ =>
    match w.held client, e with
    | none, _ => some (w, ())
    | some n, .broken _ => some (w.giveBack client n {}, ())
    | some n, _ => some (w.giveBack client n (w.connection n).finish, ())
  | .single q, ⟨n, e⟩ =>
    if (w.connection n).client = none then
      match e with
      | .ok r => some (w.execute blank client q n, .ok r)
      | .broken _ => some ((w.perhaps blank client q n e).set n {}, .error ())
      | .failed | .stopped _ => some (w.perhaps blank client q n e, .error ())
    else none

theorem ran_perhaps (client n : Nat) (q : Q) (e : CallEnd R) :
    (w.perhaps blank client q n e).ran = w.ran ∨
      (w.perhaps blank client q n e).ran =
        w.ran ++ [(client, q, visible blank (w.connection n).settings)] := by
  cases e with
  | ok _ | failed => exact .inl rfl
  | broken executed | stopped executed =>
    cases executed with
    | false => exact .inl rfl
    | true => exact .inr rfl

theorem perhaps_eq (client n : Nat) (q : Q) (e : CallEnd R) :
    w.perhaps blank client q n e = { w with ran := (w.perhaps blank client q n e).ran } := by
  cases e with
  | ok _ | failed => rfl
  | broken executed | stopped executed => cases executed <;> rfl

theorem interrupt_perhaps (client n : Nat) (q : Q) (e : CallEnd R) :
    (w.perhaps blank client q n e).interrupt client n e =
      { w.interrupt client n e with ran := (w.perhaps blank client q n e).ran } := by
  rw [perhaps_eq]
  cases e <;> rfl

end Connections

/-- Any programs that share the connections. -/
def settingPool [DecidableEq K] (blank : V) (prog : J → Program (settingCalls K V Q R) A) :
    Pool (settingCalls K V Q R) (Connections K V Q) J (SettingOutcome R) A where
  prog := prog
  external := fun _ => true
  answer := fun w i c x => (w.answer blank i c x).map fun (w, r) => (w, r, [])

/-! ## What a client has set -/

/-- What a call makes of the settings that its client has made. -/
def ownNext [DecidableEq K] (blank : V) (own : K → Option V) :
    (c : SettingCall K V Q) → c.Answer R → (K → Option V)
  | .begin, .ok _ => fun _ => none
  | .setLocal k v, .ok _ => Function.update own k (if v = blank then none else some v)
  | _, _ => own

/-- What the client has set since it began. -/
def ownSettings [DecidableEq K] (blank : V) (τ : Trace (settingCalls K V Q R)) : K → Option V :=
  τ.foldl (fun own e => ownNext blank own e.1 e.2) fun _ => none

theorem ownSettings_concat [DecidableEq K] {blank : V} {τ : Trace (settingCalls K V Q R)} {c : SettingCall K V Q}
    {r : c.Answer R} :
    ownSettings blank (τ ++ [⟨c, r⟩]) = ownNext blank (ownSettings blank τ) c r := by
  rw [ownSettings, List.foldl_append]
  rfl

/-! ## Clean connections -/

/-- No setting is visible. -/
abbrev Clean (blank : V) (settings : K → Option V) : Prop := visible blank settings = fun _ => none

theorem visible_none {blank : V} : Clean blank fun _ : K => none := rfl

theorem visible_update [DecidableEq K] {blank : V} {settings : K → Option V} {k : K} {v : V} :
    visible blank (Function.update settings k (some v)) =
      Function.update (visible blank settings) k (if v = blank then none else some v) := by
  funext k'
  by_cases hk : k' = k
  · subst hk
    rw [visible, Function.update_self, Function.update_self, Option.filter_some]
    by_cases hv : v = blank <;> simp [hv]
  · rw [visible, Function.update_of_ne hk, Function.update_of_ne hk, visible]

/-- What is left behind for a setting is blank. -/
theorem clean_saved [DecidableEq K] {blank : V} {saved : K → Option V} (h : Clean blank saved) (k : K) :
    Clean blank (Function.update saved k (some ((saved k).getD blank))) := by
  have hblank : (saved k).getD blank = blank := by
    cases hk : saved k with
    | none => rfl
    | some v =>
      have hfilter : (saved k).filter (· ≠ blank) = none := congrFun h k
      rw [hk, Option.filter_some] at hfilter
      by_contra hne
      rw [Option.getD_some] at hne
      simp [hne] at hfilter
  rw [Clean, visible_update, h, if_pos hblank]
  exact Function.update_eq_self k _

/-- What holds of connection `n` when each client has made the settings `own` since it began. -/
structure Fits (blank : V) (own : Nat → K → Option V) (held : Nat → Option Nat) (n : Nat)
    (c : Connection K V) : Prop where
  idle : c.client = none → Clean blank c.settings
  held : ∀ i, c.client = some i → held i = some n
  saved : ∀ i, c.client = some i → Clean blank c.saved
  own : ∀ i, c.client = some i → visible blank c.settings = own i

structure Tidy (blank : V) (own : Nat → K → Option V) (w : Connections K V Q) : Prop where
  fits : ∀ n, Fits blank own w.held n (w.connection n)
  client : ∀ i n, w.held i = some n → (w.connection n).client = some i

namespace Tidy

variable {blank : V} {own own' : Nat → K → Option V} {w : Connections K V Q} {i n : Nat}
  {c : Connection K V}

theorem start : Tidy blank own ({} : Connections K V Q) :=
  ⟨fun n => ⟨fun _ => visible_none, by rintro i ⟨⟩, by rintro i ⟨⟩, by rintro i ⟨⟩⟩, by rintro i n ⟨⟩⟩

/-- Only the clients that have a connection matter. -/
theorem congr (h : Tidy blank own w) (hown : ∀ i n, w.held i = some n → own i = own' i) :
    Tidy blank own' w where
  fits n :=
    { idle := (h.fits n).idle
      held := (h.fits n).held
      saved := (h.fits n).saved
      own := fun i hi => ((h.fits n).own i hi).trans (hown i n ((h.fits n).held i hi)) }
  client := h.client

/-- A connection that no one has is replaced. -/
theorem set (h : Tidy blank own w) (hidle : (w.connection n).client = none)
    (hc : Fits blank own w.held n c) : Tidy blank own (w.set n c) where
  fits m := by
    rw [Connections.set]
    dsimp only
    by_cases hmn : m = n
    · subst hmn
      rw [Function.update_self]
      exact hc
    · rw [Function.update_of_ne hmn]
      exact h.fits m
  client k m hm := by
    have hclient := h.client k m hm
    have hmn : m ≠ n := by
      rintro rfl
      rw [hidle] at hclient
      cases hclient
    rw [Connections.set]
    dsimp only
    rwa [Function.update_of_ne hmn]

/-- A connection changes that a client has, or gets. -/
theorem move (h : Tidy blank own w) {o : K → Option V} {has : Option Nat}
    (hmine : w.held i = some n ∨ w.held i = none ∧ (w.connection n).client = none)
    (hc : Fits blank (Function.update own i o) (Function.update w.held i has) n c)
    (hhas : ∀ m, has = some m → m = n ∧ c.client = some i) :
    Tidy blank (Function.update own i o) (w.move i n c has) := by
  -- no other client has this connection, and this client has no other one
  have hothers {k m : Nat} (hk : (w.connection m).client = some k) (hmn : m ≠ n) : k ≠ i := by
    rintro rfl
    rcases hmine with hheld | ⟨hfree, -⟩
    · exact hmn (Option.some.inj (((h.fits m).held k hk).symm.trans hheld))
    · rw [(h.fits m).held k hk] at hfree
      cases hfree
  have hnone {k : Nat} (hk : k ≠ i) : w.held k ≠ some n := by
    intro hheld
    have hclient := h.client k n hheld
    rcases hmine with hmine | ⟨-, hidle⟩
    · exact hk (Option.some.inj (hclient.symm.trans (h.client i n hmine)))
    · rw [hidle] at hclient
      cases hclient
  refine ⟨fun m => ?_, fun k m hm => ?_⟩
  · rw [Connections.move, Connections.set]
    dsimp only
    by_cases hmn : m = n
    · subst hmn
      rw [Function.update_self]
      exact hc
    · rw [Function.update_of_ne hmn]
      refine ⟨(h.fits m).idle, fun k hk => ?_, (h.fits m).saved, fun k hk => ?_⟩
      · rw [Function.update_of_ne (hothers hk hmn)]
        exact (h.fits m).held k hk
      · rw [Function.update_of_ne (hothers hk hmn)]
        exact (h.fits m).own k hk
  · rw [Connections.move, Connections.set] at hm ⊢
    dsimp only at hm ⊢
    by_cases hk : k = i
    · subst hk
      rw [Function.update_self] at hm
      obtain ⟨rfl, hclient⟩ := hhas m hm
      rwa [Function.update_self]
    · rw [Function.update_of_ne hk] at hm
      have hmn : m ≠ n := by
        rintro rfl
        exact hnone hk hm
      rw [Function.update_of_ne hmn]
      exact h.client k m hm

theorem take (h : Tidy blank own w) (hfree : w.held i = none)
    (hidle : (w.connection n).client = none) :
    Tidy blank (Function.update own i fun _ => none) (w.take i n) := by
  have hclean := (h.fits n).idle hidle
  refine h.move (.inr ⟨hfree, hidle⟩) ⟨by rintro ⟨⟩, ?_, ?_, ?_⟩ ?_
  · rintro k ⟨⟩
    exact Function.update_self ..
  · rintro k ⟨⟩
    exact hclean
  · rintro k ⟨⟩
    rw [Function.update_self]
    exact hclean
  · rintro m ⟨⟩
    exact ⟨rfl, rfl⟩

/-- A connection that stays with its client. -/
theorem keep (h : Tidy blank own w) {o : K → Option V} (hheld : w.held i = some n)
    (hclient : c.client = some i) (hsaved : Clean blank c.saved)
    (hown : visible blank c.settings = o) : Tidy blank (Function.update own i o) (w.set n c) := by
  have hset : w.set n c = w.move i n c (some n) := by
    rw [Connections.move, ← hheld, Function.update_eq_self]
    rfl
  have hclients : ∀ k, c.client = some k → k = i := fun k hk =>
    Option.some.inj (hk.symm.trans hclient)
  rw [hset]
  refine h.move (.inl hheld) ⟨fun hnone => ?_, fun k hk => ?_, fun _ _ => hsaved, fun k hk => ?_⟩ ?_
  · rw [hclient] at hnone
    cases hnone
  · rw [hclients k hk, Function.update_self]
  · rw [hclients k hk, Function.update_self]
    exact hown
  · rintro m ⟨⟩
    exact ⟨rfl, hclient⟩

theorem giveBack (h : Tidy blank own w) (hheld : w.held i = some n) (hclient : c.client = none)
    (hclean : Clean blank c.settings) : Tidy blank own (w.giveBack i n c) := by
  have hnone : ∀ k, c.client ≠ some k := fun k => by
    rw [hclient]
    rintro ⟨⟩
  rw [← Function.update_eq_self i own]
  exact h.move (.inl hheld) ⟨fun _ => hclean, fun k hk => absurd hk (hnone k),
    fun k hk => absurd hk (hnone k), fun k hk => absurd hk (hnone k)⟩ (by rintro m ⟨⟩)

theorem finish (h : Tidy blank own w) (hheld : w.held i = some n) :
    Tidy blank own (w.giveBack i n (w.connection n).finish) :=
  h.giveBack hheld rfl ((h.fits n).saved i (h.client i n hheld))

theorem interrupt (h : Tidy blank own w) (hheld : w.held i = some n) (e : CallEnd R) :
    Tidy blank own (w.interrupt i n e) := by
  cases e with
  | ok r => exact h
  | failed =>
    have hclient := h.client i n hheld
    have hkeep := h.keep (c := (w.connection n).abort) hheld hclient ((h.fits n).saved i hclient)
      ((h.fits n).own i hclient)
    rwa [Function.update_eq_self] at hkeep
  | broken _ => exact h.giveBack hheld rfl visible_none
  | stopped _ => exact h.finish hheld

end Tidy

/-! ## Runs -/

section Runs

variable [DecidableEq K] {blank : V}

/-- What a call does to the connections, apart from what is executed. -/
inductive Moved (blank : V) (w : Connections K V Q) (i : Nat) :
    (a : SettingCall K V Q) → a.Answer R → Connections K V Q → Prop where
  | took {n : Nat} (hfree : w.held i = none) (hidle : (w.connection n).client = none) :
    Moved blank w i .begin (.ok ()) (w.take i n)
  | set {n : Nat} {k : K} {v : V} (hheld : w.held i = some n) :
    Moved blank w i (.setLocal k v) (.ok ()) (w.set n ((w.connection n).setLocal blank k v))
  | same {a : SettingCall K V Q} {r : a.Answer R} (hown : ∀ own, ownNext blank own a r = own) :
    Moved blank w i a r w
  | reset {n : Nat} {a : SettingCall K V Q} {r : a.Answer R} (hidle : (w.connection n).client = none)
    (hown : ∀ own, ownNext blank own a r = own) : Moved blank w i a r (w.set n {})
  | finished {n : Nat} {a : SettingCall K V Q} {r : a.Answer R} (hheld : w.held i = some n)
    (hown : ∀ own, ownNext blank own a r = own) :
    Moved blank w i a r (w.giveBack i n (w.connection n).finish)
  | interrupted {n : Nat} {a : SettingCall K V Q} {r : a.Answer R} {e : CallEnd R}
    (hheld : w.held i = some n) (hown : ∀ own, ownNext blank own a r = own) :
    Moved blank w i a r (w.interrupt i n e)

/-- What is executed is the client's own statement, on the connection that it has or on one that
no one has. -/
def Executed (blank : V) (w : Connections K V Q) (i : Nat) (a : SettingCall K V Q)
    (ran : List (Nat × Q × (K → Option V))) : Prop :=
  ran = w.ran ∨ ∃ q n, ran = w.ran ++ [(i, q, visible blank (w.connection n).settings)] ∧
    (a = .run q ∧ w.held i = some n ∨ a = .single q ∧ (w.connection n).client = none)

/-- Everything that a call can do. -/
theorem answer_cases {w w' : Connections K V Q} {i : Nat} {a : SettingCall K V Q}
    {x : SettingOutcome R} {r : a.Answer R} (ha : w.answer blank i a x = some (w', r)) :
    ∃ m, Moved blank w i a r m ∧ w' = { m with ran := w'.ran } ∧ Executed blank w i a w'.ran := by
  obtain ⟨n, e⟩ := x
  cases a with
  | begin =>
    simp only [Connections.answer] at ha
    split at ha
    · next hboth =>
      cases e with
      | ok _ =>
        cases ha
        exact ⟨_, .took hboth.1 hboth.2, rfl, .inl rfl⟩
      | broken _ =>
        cases ha
        exact ⟨_, .reset hboth.2 fun _ => rfl, rfl, .inl rfl⟩
      | failed | stopped _ =>
        cases ha
        exact ⟨_, .same fun _ => rfl, rfl, .inl rfl⟩
    · cases ha
  | setLocal k v =>
    rw [Connections.answer, Option.bind_eq_some_iff] at ha
    obtain ⟨m, hheld, ha⟩ := ha
    cases he : e with
    | ok _ =>
      simp only [he] at ha
      split at ha
      · cases ha
      · cases ha
        exact ⟨_, .set hheld, rfl, .inl rfl⟩
    | failed | broken _ | stopped _ =>
      simp only [he] at ha
      cases ha
      exact ⟨w.interrupt i m e, .interrupted hheld fun _ => rfl, by rw [he], .inl rfl⟩
  | run q =>
    rw [Connections.answer, Option.bind_eq_some_iff] at ha
    obtain ⟨m, hheld, ha⟩ := ha
    have hexecuted {e : CallEnd R} : Executed blank w i (.run q) (w.perhaps blank i q m e).ran :=
      (w.ran_perhaps blank i m q e).imp_right fun hran => ⟨q, m, hran, .inl ⟨rfl, hheld⟩⟩
    cases he : e with
    | ok _ =>
      simp only [he] at ha
      split at ha
      · cases ha
      · cases ha
        exact ⟨w, .same fun _ => rfl, rfl, .inr ⟨q, m, rfl, .inl ⟨rfl, hheld⟩⟩⟩
    | failed | broken _ | stopped _ =>
      simp only [he] at ha
      split at ha
      · cases ha
        exact ⟨w.interrupt i m e, .interrupted hheld fun _ => rfl, by rw [he], .inl rfl⟩
      · rw [Connections.interrupt_perhaps] at ha
        cases ha
        exact ⟨w.interrupt i m e, .interrupted hheld fun _ => rfl, by rw [he], hexecuted⟩
  | commit =>
    rw [Connections.answer, Option.map_eq_some_iff] at ha
    obtain ⟨m, hheld, ha⟩ := ha
    cases he : e with
    | ok _ =>
      simp only [he] at ha
      cases ha
      exact ⟨_, .finished hheld fun _ => rfl, rfl, .inl rfl⟩
    | failed | broken _ | stopped _ =>
      simp only [he] at ha
      cases ha
      exact ⟨w.interrupt i m e, .interrupted hheld fun _ => rfl, by rw [he], .inl rfl⟩
  | drop =>
    cases hheld : w.held i with
    | none =>
      simp only [Connections.answer, hheld] at ha
      cases ha
      exact ⟨_, .same fun _ => rfl, rfl, .inl rfl⟩
    | some m =>
      cases e with
      | broken executed =>
        simp only [Connections.answer, hheld] at ha
        cases ha
        exact ⟨_, .interrupted (e := .broken executed) hheld fun _ => rfl, rfl, .inl rfl⟩
      | ok _ | failed | stopped _ =>
        simp only [Connections.answer, hheld] at ha
        cases ha
        exact ⟨_, .finished hheld fun _ => rfl, rfl, .inl rfl⟩
  | single q =>
    simp only [Connections.answer] at ha
    split at ha
    · next hidle =>
      have hexecuted {e : CallEnd R} :
          Executed blank w i (.single q) (w.perhaps blank i q n e).ran :=
        (w.ran_perhaps blank i n q e).imp_right fun hran => ⟨q, n, hran, .inr ⟨rfl, hidle⟩⟩
      cases e with
      | ok _ =>
        cases ha
        exact ⟨w, .same fun _ => rfl, rfl, .inr ⟨q, n, rfl, .inr ⟨rfl, hidle⟩⟩⟩
      | broken executed =>
        rw [Connections.perhaps_eq] at ha
        cases ha
        exact ⟨_, .reset hidle fun _ => rfl, rfl, hexecuted⟩
      | failed | stopped _ =>
        rw [Connections.perhaps_eq] at ha
        cases ha
        exact ⟨_, .same fun _ => rfl, rfl, hexecuted⟩
    · cases ha

theorem Tidy.moved {own : Nat → K → Option V} {w m : Connections K V Q} {i : Nat}
    {a : SettingCall K V Q} {r : a.Answer R} (h : Tidy blank own w) (hmoved : Moved blank w i a r m) :
    Tidy blank (Function.update own i (ownNext blank (own i) a r)) m := by
  have hsame {a : SettingCall K V Q} {r : a.Answer R} {m : Connections K V Q}
      (hown : ∀ own, ownNext blank own a r = own) (hm : Tidy blank own m) :
      Tidy blank (Function.update own i (ownNext blank (own i) a r)) m := by
    rwa [hown, Function.update_eq_self]
  cases hmoved with
  | took hfree hidle => exact h.take hfree hidle
  | @set n k v hheld =>
    have hclient := h.client i n hheld
    refine h.keep hheld hclient (clean_saved ((h.fits n).saved i hclient) k) ?_
    rw [Connection.setLocal, visible_update, (h.fits n).own i hclient]
    rfl
  | same hown => exact hsame hown h
  | reset hidle hown =>
    exact hsame hown (h.set hidle ⟨fun _ => visible_none, by rintro k ⟨⟩, by rintro k ⟨⟩,
      by rintro k ⟨⟩⟩)
  | finished hheld hown => exact hsame hown (h.finish hheld)
  | interrupted hheld hown => exact hsame hown (h.interrupt hheld _)

/-- The other clients have what they had. -/
theorem Moved.held {w m : Connections K V Q} {i k : Nat} {a : SettingCall K V Q} {r : a.Answer R}
    (h : Moved blank w i a r m) (hk : k ≠ i) : m.held k = w.held k := by
  cases h with
  | took => exact Function.update_of_ne hk ..
  | set | same | reset => rfl
  | finished => exact Function.update_of_ne hk ..
  | @interrupted n a r e =>
    cases e with
    | ok _ | failed => rfl
    | broken _ | stopped _ => exact Function.update_of_ne hk ..

/-- The statement was made in a transaction and has seen what its client had set for it, or it
was made outside of one and has seen nothing. -/
def Saw (blank : V) (s : PoolState (settingCalls K V Q R) (Connections K V Q) J A) (i : Nat) (q : Q)
    (v : K → Option V) : Prop :=
  ∃ j τ₁ τ₂, (∃ r, s.slot i = some (j, τ₁ ++ ⟨.run q, r⟩ :: τ₂) ∧ v = ownSettings blank τ₁) ∨
    ∃ r, s.slot i = some (j, τ₁ ++ ⟨.single q, r⟩ :: τ₂) ∧ v = fun _ => none

/-- What the program in a slot has set since it began. -/
def slotSettings (blank : V) (s : PoolState (settingCalls K V Q R) (Connections K V Q) J A)
    (i : Nat) : K → Option V :=
  match s.slot i with
  | some (_, τ) => ownSettings blank τ
  | none => fun _ => none

structure Sound (blank : V) (s : PoolState (settingCalls K V Q R) (Connections K V Q) J A) :
    Prop where
  tidy : Tidy blank (slotSettings blank s) s.world
  /-- Who has a connection is a program that was started. -/
  started : ∀ i n, s.world.held i = some n → s.slot i ≠ none
  saw : ∀ e ∈ s.world.ran, Saw blank s e.1 e.2.1 e.2.2

variable {prog : J → Program (settingCalls K V Q R) A}
  {s s' : PoolState (settingCalls K V Q R) (Connections K V Q) J A}

/-- What was seen stays true of a program that goes on. -/
theorem Saw.step {a : Act J (SettingOutcome R)} {i : Nat} {q : Q} {v : K → Option V}
    (h : Saw blank s i q v) (hstep : (settingPool blank prog).step s a = some s') :
    Saw blank s' i q v := by
  rcases h with ⟨j, τ₁, τ₂, ⟨r, hslot, hv⟩ | ⟨r, hslot, hv⟩⟩
  all_goals
    obtain ⟨τ', hslot', ⟨τ₃, rfl⟩⟩ := Pool.slot_step hstep hslot
    rw [List.append_assoc, List.cons_append] at hslot'
  · exact ⟨j, τ₁, τ₂ ++ τ₃, .inl ⟨r, hslot', hv⟩⟩
  · exact ⟨j, τ₁, τ₂ ++ τ₃, .inr ⟨r, hslot', hv⟩⟩

theorem slotSettings_of_slot {i : Nat} {j : J} {τ : Trace (settingCalls K V Q R)}
    (h : s.slot i = some (j, τ)) : slotSettings blank s i = ownSettings blank τ := by
  rw [slotSettings, h]

theorem Sound.start {j : J} (h : Sound blank s)
    (hstep : (settingPool blank prog).step s (.start j) = some s') : Sound blank s' := by
  have hworld : s'.world = s.world := by
    obtain ⟨-, rfl⟩ := Pool.step_start.mp hstep
    rfl
  have hslots {i n : Nat} (hheld : s.world.held i = some n) : s'.slot i = s.slot i := by
    cases hslot : s.slot i with
    | none => exact absurd hslot (h.started i n hheld)
    | some p => exact Pool.slot_start hstep hslot
  refine ⟨?_, fun i n hheld => ?_, fun e he => ?_⟩
  · rw [hworld]
    refine h.tidy.congr fun i n hheld => ?_
    rw [slotSettings, slotSettings, hslots hheld]
  · rw [hworld] at hheld
    rw [hslots hheld]
    exact h.started i n hheld
  · rw [hworld] at he
    exact (h.saw e he).step hstep

theorem Sound.step {i : Nat} {x : SettingOutcome R} (h : Sound blank s)
    (hstep : (settingPool blank prog).step s (.step i x) = some s') : Sound blank s' := by
  obtain ⟨j, τ, c, r, hcalls⟩ := Pool.calls_of_step hstep
  obtain ⟨js, hanswer⟩ := hcalls.answer
  have ha : s.world.answer blank i c x = some (s'.world, r) := by
    obtain ⟨⟨w, r'⟩, ha, heq⟩ := Option.map_eq_some_iff.mp hanswer
    cases heq
    exact ha
  obtain ⟨m, hmoved, hworld, hexecuted⟩ := answer_cases ha
  have hslot := hcalls.slot_self
  have hother {k n : Nat} (hk : k ≠ i) (hheld : s'.world.held k = some n) :
      s'.slot k ≠ none ∧ s'.slot k = s.slot k := by
    rw [hworld, hmoved.held hk] at hheld
    cases hslot : s.slot k with
    | none => exact absurd hslot (h.started k n hheld)
    | some p =>
      rw [hcalls.slot_other hk hslot]
      exact ⟨by rintro ⟨⟩, rfl⟩
  refine ⟨?_, fun k n hheld => ?_, fun e he => ?_⟩
  · have htidy := h.tidy.moved hmoved
    have hrest : Tidy blank (Function.update (slotSettings blank s) i
        (ownNext blank (slotSettings blank s i) c r)) s'.world := by
      rw [hworld]
      exact ⟨htidy.fits, htidy.client⟩
    refine hrest.congr fun k n hheld => ?_
    by_cases hk : k = i
    · subst hk
      rw [Function.update_self, slotSettings_of_slot hcalls.slot, slotSettings_of_slot hslot,
        ownSettings_concat]
    · rw [Function.update_of_ne hk, slotSettings, slotSettings, (hother hk hheld).2]
  · by_cases hk : k = i
    · subst hk
      rw [hslot]
      rintro ⟨⟩
    · exact (hother hk hheld).1
  · rcases hexecuted with heq | ⟨q, n, heq, hq⟩
    · rw [heq] at he
      exact (h.saw e he).step hstep
    · rw [heq, List.mem_append, List.mem_singleton] at he
      rcases he with hold | rfl
      · exact (h.saw e hold).step hstep
      · rcases hq with ⟨rfl, hheld⟩ | ⟨rfl, hidle⟩
        · refine ⟨j, τ, [], .inl ⟨r, hslot, ?_⟩⟩
          rw [(h.tidy.fits n).own i (h.tidy.client i n hheld), slotSettings_of_slot hcalls.slot]
        · exact ⟨j, τ, [], .inr ⟨r, hslot, (h.tidy.fits n).idle hidle⟩⟩

/-- Every statement of every run has seen exactly what its own client had set for it. -/
theorem ran_sees {as : List (Act J (SettingOutcome R))}
    (h : (settingPool blank prog).exec (Pool.init {}) as = some s) {i : Nat} {q : Q}
    {v : K → Option V} (he : (i, q, v) ∈ s.world.ran) : Saw blank s i q v := by
  have hsound : Sound blank s := by
    refine Pool.exec_invariant (C := fun _ _ => true) (Q := Sound blank) ?_ ?_
      (Pool.allSteps_of_forall fun _ _ _ => rfl) h
    · intro s a s' hs _ hstep
      cases a with
      | start j => exact hs.start hstep
      | step i x => exact hs.step hstep
    · exact ⟨Tidy.start, by rintro i n ⟨⟩, by rintro e ⟨⟩⟩
  exact hsound.saw _ he

end Runs

end Kubinate.Library
