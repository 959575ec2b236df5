import Kubinate.Access.Accounts
import Kubinate.Library.ReadCommitted

/-!
# States of authorization requests

`oidc::store` and `oidc::consume`, query by query. `consume` takes the row with an `UPDATE`,
looks at the clock if it got one, and at the row again if it got none.

* `consumed_stays`: a consumed state stays consumed, and is not given to anyone later.
* `ok_of_stored`: what `Ok` returns was stored, and is returned before it expires.
* `authStates_single_use`: the law over every run.
-/

namespace Kubinate.Access.Oidc

open Platform Library

/-- A row of `auth_states`. -/
structure Row where
  state : String
  nonce : String
  codeVerifier : String
  provider : String
  redirectTo : Option String
  createdAt : Timestamp
  expiresAt : Timestamp
  consumedAt : Option Timestamp
deriving DecidableEq, Repr

structure AuthState where
  state : String
  nonce : String
  codeVerifier : String
  provider : String
  redirectTo : Option String
  expiresAt : Timestamp
deriving DecidableEq, Repr

def Row.toAuthState (r : Row) : AuthState :=
  ⟨r.state, r.nonce, r.codeVerifier, r.provider, r.redirectTo, r.expiresAt⟩

inductive AuthStateError where
  | notFound
  | expired
  | replay
  | database (e : SqlError)
deriving DecidableEq, Repr

/-- What the caller of `consume` makes of an error. -/
def AuthStateError.toPlatform : AuthStateError → PlatformError
  | .notFound => .forbidden "auth state not found or already consumed"
  | .expired => .forbidden "auth state expired"
  | .replay => .forbidden "auth state already consumed"
  | .database e => .database e

/-! ## The queries -/

inductive StateCall where
  /-- `OffsetDateTime::now_utc()` -/
  | now
  | insert (r : Row)
  /-- `UPDATE auth_states SET consumed_at = now() … RETURNING` -/
  | takeRow (state : String)
  /-- `SELECT consumed_at IS NOT NULL FROM auth_states` -/
  | isConsumed (state : String)
deriving DecidableEq

@[reducible]
def StateCall.Answer : StateCall → Type
  | .now => Timestamp
  | .insert _ => Except SqlError Unit
  | .takeRow _ => Except SqlError (Option Row)
  | .isConsumed _ => Except SqlError (Option Bool)

abbrev stateSql : Interface where
  Call := StateCall
  Answer := StateCall.Answer

abbrev Queries := ExceptT AuthStateError (Program stateSql)

def ask (c : StateCall) : Program stateSql c.Answer := Program.perform (I := stateSql) c

/-- `.await?` on a query. -/
def stateQuery {α : Type} (p : Program stateSql (Except SqlError α)) : Queries α :=
  ExceptT.mk (p >>= fun r =>
    match r with
    | .ok a => pure (.ok a)
    | .error e => pure (.error (.database e)))

def newRow (now : Timestamp) (state nonce codeVerifier provider : String)
    (redirectTo : Option String) : Row :=
  ⟨state, nonce, codeVerifier, provider, redirectTo, now, now + authStateTtl, none⟩

def store (state nonce codeVerifier provider : String) (redirectTo : Option String) :
    Queries Unit := do
  let now ← ExceptT.lift (ask .now)
  stateQuery (ask (.insert (newRow now state nonce codeVerifier provider redirectTo)))

def replayOrMissing (state : String) : Queries AuthStateError := do
  let consumed ← stateQuery (ask (.isConsumed state))
  return match consumed with
    | some true => .replay
    | some false => .expired
    | none => .notFound

def consume (state : String) : Queries AuthState := do
  let row ← stateQuery (ask (.takeRow state))
  match row with
  | none =>
    let e ← replayOrMissing state
    throw e
  | some row =>
    let now ← ExceptT.lift (ask .now)
    if row.expiresAt ≤ now then throw .expired else return row.toAuthState

inductive StateJob where
  | store (state nonce codeVerifier provider : String) (redirectTo : Option String)
  | consume (state : String)
deriving DecidableEq

/-- A call of `store` returns nothing. -/
def StateJob.program : StateJob → Program stateSql (Except AuthStateError (Option AuthState))
  | .store state nonce codeVerifier provider redirectTo => ExceptT.run do
    Oidc.store state nonce codeVerifier provider redirectTo
    return none
  | .consume state => ExceptT.run do
    let a ← Oidc.consume state
    return some a

/-! ## The table -/

/-- How a query goes, and how much time has passed since the last one. -/
structure StateOutcome where
  reply : Reply := .ok
  elapsed : Nat := 0
deriving DecidableEq

structure StateTable where
  rows : List Row
  clock : Timestamp
deriving DecidableEq, Repr

namespace StateTable

variable (w : StateTable)

def takeRow (state : String) : StateTable × Option Row :=
  let taken : Row → Bool := fun r => r.state == state && r.consumedAt.isNone
  ({ w with rows := w.rows.map fun r =>
      if taken r then { r with consumedAt := some w.clock } else r }, w.rows.find? taken)

def execute : (c : StateCall) → StateTable × c.Answer
  | .now => (w, w.clock)
  | .insert r =>
    if w.rows.any (·.state == r.state) then (w, .error .uniqueViolation)
    else ({ w with rows := w.rows ++ [r] }, .ok ())
  | .takeRow state => ((w.takeRow state).1, .ok (w.takeRow state).2)
  | .isConsumed state =>
    (w, .ok ((w.rows.find? (·.state == state)).map fun r => r.consumedAt.isSome))

/-- A query that fails has no effect; one whose reply is lost has taken effect. The clock does not
fail. -/
def answer (c : StateCall) (x : StateOutcome) : Option (StateTable × c.Answer) :=
  let w := { w with clock := w.clock + x.elapsed }
  match c, x.reply with
  | c, .ok => some (w.execute c)
  | .now, _ => none
  | .insert _, .failed => some (w, .error .connection)
  | .takeRow _, .failed => some (w, .error .connection)
  | .isConsumed _, .failed => some (w, .error .connection)
  | .insert r, .lost => some ((w.execute (.insert r)).1, .error .connection)
  | .takeRow state, .lost => some ((w.execute (.takeRow state)).1, .error .connection)
  | .isConsumed _, .lost => some (w, .error .connection)

/-- Nobody is given a row of the state any more. -/
def Consumed (state : String) : Prop :=
  (∃ r ∈ w.rows, r.state = state) ∧ ∀ r ∈ w.rows, r.state = state → r.consumedAt.isSome = true

end StateTable

/-- Any number of calls, interleaved query by query. -/
def statePool : Pool stateSql StateTable StateJob StateOutcome
    (Except AuthStateError (Option AuthState)) where
  prog := StateJob.program
  external := fun _ => true
  answer := fun w _ c x => (w.answer c x).map fun (w, r) => (w, r, [])

abbrev StatesRun := PoolState stateSql StateTable StateJob (Except AuthStateError (Option AuthState))

/-- Nobody who got no row finds one that is not consumed. -/
def findsNoFreshRow (s : StatesRun) : Act StateJob StateOutcome → Bool
  | .start _ => true
  | .step i x =>
    match s.nextCall i with
    | some (.isConsumed state) =>
      x.reply != .ok || (s.world.rows.find? (·.state == state)).all fun r => r.consumedAt.isSome
    | _ => true

/-! ## The programs -/

def StateJob.Sends : StateJob → Trace stateSql → StateCall → Prop
  | .store .., h, .now => h = []
  | .store state nonce codeVerifier provider redirectTo, h, .insert r =>
    ∃ now, h = [⟨.now, now⟩] ∧ r = newRow now state nonce codeVerifier provider redirectTo
  | .consume state, _, .takeRow state' | .consume state, _, .isConsumed state' => state' = state
  | .consume _, _, .now => True
  | _, _, _ => False

/-- What `consume` says of the answers it got. -/
def StateJob.Ends : StateJob → Trace stateSql → Except AuthStateError (Option AuthState) → Prop
  | .store .., _, a => a ≠ .error .expired ∧ ∀ state, a ≠ .ok (some state)
  | .consume state, h, .ok a =>
    ∃ r now, h = [⟨.takeRow state, .ok (some r)⟩, ⟨.now, now⟩] ∧ now < r.expiresAt ∧
      a = some r.toAuthState
  | .consume state, h, .error .expired =>
    (∃ r, ⟨.takeRow state, .ok (some r)⟩ ∈ h) ∨ ⟨.isConsumed state, .ok (some false)⟩ ∈ h
  | .consume _, _, .error _ => True

theorem stateProgram_meets (j : StateJob) :
    Meets j.Sends (fun _ _ _ => True) j.Ends j.program [] := by
  cases j with
  | store state nonce codeVerifier provider redirectTo =>
    refine ⟨rfl, fun now _ => ⟨⟨now, rfl, rfl⟩, fun r _ => ?_⟩⟩
    rcases r with e | ⟨⟩
    · exact ⟨nofun, nofun⟩
    · exact ⟨nofun, nofun⟩
  | consume state =>
    refine ⟨rfl, fun r _ => ?_⟩
    rcases r with e | _ | row
    · trivial
    · refine ⟨rfl, fun r _ => ?_⟩
      rcases r with e | _ | _ | _
      · trivial
      · trivial
      · exact .inr (List.mem_cons_of_mem _ (List.mem_singleton_self _))
      · trivial
    · refine ⟨trivial, fun now _ => ?_⟩
      dsimp only [Program.bind, Function.comp, ExceptT.bindCont]
      by_cases hexpired : row.expiresAt ≤ now
      · rw [if_pos hexpired]
        exact .inl ⟨row, List.mem_cons_self⟩
      · rw [if_neg hexpired]
        exact ⟨row, now, rfl, not_le.mp hexpired, rfl⟩

/-! ## One query -/

namespace StateTable

variable {w w' : StateTable} {state : String} {x : StateOutcome}

theorem answer_cases {c : StateCall} {r : c.Answer} (h : w.answer c x = some (w', r)) :
    (x.reply = .ok ∧ r = (({ w with clock := w.clock + x.elapsed }).execute c).2 ∧
        w' = (({ w with clock := w.clock + x.elapsed }).execute c).1) ∨
      (x.reply ≠ .ok ∧ ((w'.rows = w.rows) ∨
        w' = (({ w with clock := w.clock + x.elapsed }).execute c).1)) := by
  obtain ⟨reply, elapsed⟩ := x
  cases reply with
  | ok =>
    have hexecute := Option.some.inj h
    exact .inl ⟨rfl, (congrArg Prod.snd hexecute).symm, (congrArg Prod.fst hexecute).symm⟩
  | failed =>
    refine .inr ⟨nofun, ?_⟩
    cases c <;> cases h <;> exact .inl rfl
  | lost =>
    refine .inr ⟨nofun, ?_⟩
    cases c <;> cases h
    · exact .inr rfl
    · exact .inr rfl
    · exact .inl rfl

theorem consumed_of_rows (h : w'.rows = w.rows) (hc : w.Consumed state) : w'.Consumed state := by
  rw [Consumed, h]
  exact hc

theorem consumed_takeRow {state' : String} (hc : w.Consumed state) :
    (w.takeRow state').1.Consumed state := by
  obtain ⟨⟨r, hr, hstate⟩, hall⟩ := hc
  constructor
  · refine ⟨_, List.mem_map.mpr ⟨r, hr, rfl⟩, ?_⟩
    split
    · exact hstate
    · exact hstate
  · intro r' hr' hstate'
    obtain ⟨q, hq, rfl⟩ := List.mem_map.mp hr'
    split
    · rfl
    · next hkept =>
      rw [if_neg hkept] at hstate'
      exact hall q hq hstate'

theorem consumed_execute (c : StateCall) (hc : w.Consumed state) : (w.execute c).1.Consumed state := by
  cases c with
  | now => exact hc
  | isConsumed state' => exact hc
  | takeRow state' => exact consumed_takeRow hc
  | insert r =>
    rw [execute]
    split
    · exact hc
    · next hfree =>
      obtain ⟨⟨q, hq, hstate⟩, hall⟩ := hc
      refine ⟨⟨q, List.mem_append_left _ hq, hstate⟩, fun r' hr' hstate' => ?_⟩
      rcases List.mem_append.mp hr' with hr' | hr'
      · exact hall r' hr' hstate'
      · -- the new row is one of another state
        obtain rfl := List.mem_singleton.mp hr'
        refine absurd (List.any_eq_true.mpr ⟨q, hq, ?_⟩) hfree
        rw [hstate, hstate']
        exact beq_self_eq_true state

/-- A consumed state stays consumed. -/
theorem consumed_stays {c : StateCall} {r : c.Answer} (h : w.answer c x = some (w', r))
    (hc : w.Consumed state) : w'.Consumed state := by
  have hlater : ({ w with clock := w.clock + x.elapsed } : StateTable).Consumed state := hc
  rcases answer_cases h with ⟨-, -, rfl⟩ | ⟨-, hrows | rfl⟩
  · exact consumed_execute c hlater
  · exact consumed_of_rows hrows hc
  · exact consumed_execute c hlater

/-- Who is given the row has consumed the state, which was not consumed before. -/
theorem takeRow_answer {r : Row} (h : w.answer (.takeRow state) x = some (w', .ok (some r))) :
    ¬ w.Consumed state ∧ w'.Consumed state ∧ r ∈ w.rows ∧ r.state = state ∧
      r.consumedAt = none := by
  obtain ⟨reply, elapsed⟩ := x
  cases reply with
  | failed => cases h
  | lost => cases h
  | ok =>
    have hfind : w.rows.find? (fun r => r.state == state && r.consumedAt.isNone) = some r :=
      Except.ok.inj (Prod.mk.inj (Option.some.inj h)).2
    have hw : ((⟨w.rows, w.clock + elapsed⟩ : StateTable).takeRow state).1 = w' :=
      (Prod.mk.inj (Option.some.inj h)).1
    have hmem := List.mem_of_find?_eq_some hfind
    have htaken := List.find?_some hfind
    rw [Bool.and_eq_true, beq_iff_eq] at htaken
    have hnone : r.consumedAt = none := Option.isNone_iff_eq_none.mp htaken.2
    refine ⟨fun hc => ?_, ?_, hmem, htaken.1, hnone⟩
    · have hsome := hc.2 r hmem htaken.1
      rw [hnone] at hsome
      cases hsome
    · subst hw
      constructor
      · refine ⟨_, List.mem_map.mpr ⟨r, hmem, rfl⟩, ?_⟩
        split
        · exact htaken.1
        · exact htaken.1
      · intro r' hr' hstate'
        obtain ⟨q, hq, rfl⟩ := List.mem_map.mp hr'
        split
        · rfl
        · next hkept =>
          rw [if_neg hkept] at hstate'
          simp only [hstate', beq_self_eq_true, Bool.true_and] at hkept
          exact Option.isSome_iff_ne_none.mpr fun hq => hkept (Option.isNone_iff_eq_none.mpr hq)

end StateTable

/-! ## Every run -/

theorem statePool_answer {w w' : StateTable} {i : Nat} {c : StateCall} {x : StateOutcome}
    {r : c.Answer} {js : List StateJob} (h : statePool.answer w i c x = some (w', r, js)) :
    w.answer c x = some (w', r) := by
  obtain ⟨_, hw, heq⟩ := Option.map_eq_some_iff.mp h
  cases heq
  exact hw

section Runs

variable {w : StateTable} {as bs : List (Act StateJob StateOutcome)} {s s' : StatesRun}
  {state : String}

theorem consumed_step {a : Act StateJob StateOutcome} (h : statePool.step s a = some s')
    (hc : s.world.Consumed state) : s'.world.Consumed state := by
  cases a with
  | start j =>
    obtain ⟨-, rfl⟩ := Pool.step_start.mp h
    exact hc
  | step i x =>
    obtain ⟨j, τ, c, r, hcalls⟩ := Pool.calls_of_step h
    obtain ⟨js, ha⟩ := hcalls.answer
    exact StateTable.consumed_stays (statePool_answer ha) hc

theorem consumed_run (h : statePool.exec s as = some s') (hc : s.world.Consumed state) :
    s'.world.Consumed state :=
  Pool.exec_invariant (C := fun _ _ => true) (Q := fun s₁ : StatesRun => s₁.world.Consumed state)
    (fun _ _ _ hc₁ _ hstep => consumed_step hstep hc₁) hc
    (Pool.allSteps_of_forall fun _ _ _ => rfl) h

/-- Who was given the row has consumed the state. -/
theorem consumed_of_taken (h : statePool.exec (Pool.init w) as = some s) {i : Nat} {j : StateJob}
    {τ : Trace stateSql} {r : Row} (hslot : s.slot i = some (j, τ))
    (hmem : ⟨.takeRow state, .ok (some r)⟩ ∈ τ) : s.world.Consumed state := by
  obtain ⟨τ₁, τ₂, rfl⟩ := List.append_of_mem hmem
  obtain ⟨as₁, x, as₂, s₁, s₂, -, -, hcalls, hrest⟩ := Pool.exec_moment h hslot
  obtain ⟨js, ha⟩ := hcalls.answer
  exact consumed_run hrest (StateTable.takeRow_answer (statePool_answer ha)).2.1

/-- Nobody else is given it. -/
theorem taken_once (h : statePool.exec (Pool.init w) as = some s) {i k : Nat} {j j' : StateJob}
    {τ τ' : Trace stateSql} {r r' : Row} (hi : s.slot i = some (j, τ))
    (hk : s.slot k = some (j', τ')) (hri : ⟨.takeRow state, .ok (some r)⟩ ∈ τ)
    (hrk : ⟨.takeRow state, .ok (some r')⟩ ∈ τ') : i = k := by
  by_contra hne
  -- of the two takes, the later one finds the state consumed
  have hlater {i k : Nat} {τ₁ τ₁' : Trace stateSql} {r r' : Row} {j j' : StateJob}
      {as₁ cs : List (Act StateJob StateOutcome)} {x y : StateOutcome} {s₁ s₂ t₁ t₂ : StatesRun}
      (h₁ : statePool.exec (Pool.init w) as₁ = some s₁)
      (hfirst : statePool.Calls s₁ i x j τ₁ (.takeRow state) (.ok (some r)) s₂)
      (h₂ : statePool.exec (Pool.init w) (as₁ ++ .step i x :: cs) = some t₁)
      (hsecond : statePool.Calls t₁ k y j' τ₁' (.takeRow state) (.ok (some r')) t₂) : False := by
    rw [Pool.exec_append, h₁, Option.bind_some, Pool.exec_cons, hfirst.step, Option.bind_some] at h₂
    obtain ⟨js, ha⟩ := hfirst.answer
    obtain ⟨js', ha'⟩ := hsecond.answer
    have hconsumed := (StateTable.takeRow_answer (statePool_answer ha)).2.1
    exact (StateTable.takeRow_answer (statePool_answer ha')).1 (consumed_run h₂ hconsumed)
  obtain ⟨τ₁, τ₂, rfl⟩ := List.append_of_mem hri
  obtain ⟨τ₁', τ₂', rfl⟩ := List.append_of_mem hrk
  obtain ⟨as₁, x, as₂, s₁, s₂, has, h₁, hfirst, -⟩ := Pool.exec_moment h hi
  obtain ⟨bs₁, y, bs₂, t₁, t₂, hbs, h₂, hsecond, -⟩ := Pool.exec_moment h hk
  rcases Pool.moments_ordered hne (has.symm.trans hbs) with ⟨cs, rfl⟩ | ⟨cs, rfl⟩
  · exact hlater h₁ hfirst h₂ hsecond
  · exact hlater h₂ hsecond h₁ hfirst

/-- Nobody is given the row of a consumed state later. -/
theorem takes_of_consumed {k : Nat} (hc : s.world.Consumed state)
    (hlater : ∀ j τ, s.slot k = some (j, τ) → ∀ o, ⟨.takeRow state, .ok o⟩ ∉ τ)
    (h : statePool.exec s bs = some s') :
    ∀ j τ, s'.slot k = some (j, τ) → ∀ r, ⟨.takeRow state, .ok (some r)⟩ ∉ τ := by
  have hrun := Pool.exec_invariant (C := fun _ _ => true)
    (Q := fun s₁ : StatesRun => s₁.world.Consumed state ∧
      ∀ j τ, s₁.slot k = some (j, τ) → ∀ r, ⟨.takeRow state, .ok (some r)⟩ ∉ τ)
    ?_ ⟨hc, fun j τ hslot r => hlater j τ hslot (some r)⟩
    (Pool.allSteps_of_forall fun _ _ _ => rfl) h
  · exact hrun.2
  · rintro s₁ a s₂ ⟨hc₁, htakes⟩ - hstep
    refine ⟨consumed_step hstep hc₁, fun j τ hslot r hmem => ?_⟩
    rcases Pool.slot_cases hstep hslot with hold | rfl | ⟨x, τ₀, c, r', rfl, rfl, hcalls⟩
    · exact htakes j τ hold r hmem
    · cases hmem
    · rcases List.mem_append.mp hmem with hmem | hmem
      · exact htakes j τ₀ hcalls.slot r hmem
      · cases List.mem_singleton.mp hmem
        obtain ⟨js, ha⟩ := hcalls.answer
        exact (StateTable.takeRow_answer (statePool_answer ha)).1 hc₁

/-! ## Where the data comes from -/

/-- What an answer shows of a row. -/
def Shows : (c : StateCall) → c.Answer → AuthState → Prop
  | .takeRow _, .ok (some r), a => r.toAuthState = a
  | _, _, _ => False

/-- It was in the table at the beginning, or was stored by a call of `store`. -/
def Stored (w : StateTable) (s : StatesRun) (a : AuthState) : Prop :=
  (∃ r ∈ w.rows, r.toAuthState = a) ∨
    ∃ k τ now, s.slot k =
        some (.store a.state a.nonce a.codeVerifier a.provider a.redirectTo, τ) ∧
      ⟨.now, now⟩ ∈ τ ∧ a.expiresAt = now + authStateTtl

theorem StateTable.execute_rows {w : StateTable} {c : StateCall} {a : AuthState}
    (h : ∃ r ∈ (w.execute c).1.rows, r.toAuthState = a) :
    (∃ r ∈ w.rows, r.toAuthState = a) ∨ ∃ r, c = .insert r ∧ r.toAuthState = a := by
  cases c with
  | now => exact .inl h
  | isConsumed state => exact .inl h
  | takeRow state =>
    obtain ⟨r', hr', ha⟩ := h
    obtain ⟨r, hr, rfl⟩ := List.mem_map.mp hr'
    refine .inl ⟨r, hr, ?_⟩
    split at ha
    · exact ha
    · exact ha
  | insert r =>
    rw [execute] at h
    split at h
    · exact .inl h
    · obtain ⟨r', hr', ha⟩ := h
      rcases List.mem_append.mp hr' with hr' | hr'
      · exact .inl ⟨r', hr', ha⟩
      · exact .inr ⟨r, rfl, List.mem_singleton.mp hr' ▸ ha⟩

theorem stored_of_taken (h : statePool.exec (Pool.init w) as = some s) {i : Nat} {j : StateJob}
    {τ : Trace stateSql} {r : Row} (hslot : s.slot i = some (j, τ))
    (hmem : ⟨.takeRow state, .ok (some r)⟩ ∈ τ) : Stored w s r.toAuthState := by
  have horigin := Pool.exec_origin
    (D := fun (w : StateTable) (a : AuthState) => ∃ r ∈ w.rows, r.toAuthState = a)
    (M := fun (c : StateCall) (a : AuthState) => ∃ r, c = .insert r ∧ r.toAuthState = a)
    (V := Shows) ?_ ?_ h
  · rcases horigin.2 i j τ _ _ r.toAuthState hslot hmem rfl with hold |
      ⟨k, j', τ₁, c, r', τ₂, hslot', r₀, rfl, ha⟩
    · exact .inl hold
    · have hsends := Pool.exec_calls stateProgram_meets h hslot'
      cases j' with
      | consume state' => exact hsends.elim
      | store state' nonce codeVerifier provider redirectTo =>
        obtain ⟨now, rfl, rfl⟩ := hsends
        rw [← ha]
        exact .inr ⟨k, _, now, hslot', List.mem_append_left _ (List.mem_singleton_self _), rfl⟩
  · intro w i c x w' r js ha a hrow
    have hanswer := statePool_answer ha
    have hlater (h : ∃ r ∈ (({ w with clock := w.clock + x.elapsed }).execute c).1.rows,
        r.toAuthState = a) : (∃ r ∈ w.rows, r.toAuthState = a) ∨
          ∃ r, c = .insert r ∧ r.toAuthState = a :=
      StateTable.execute_rows (w := { w with clock := w.clock + x.elapsed }) h
    rcases StateTable.answer_cases hanswer with ⟨-, -, rfl⟩ | ⟨-, hrows | rfl⟩
    · exact hlater hrow
    · rw [hrows] at hrow
      exact .inl hrow
    · exact hlater hrow
  · intro w i c x w' r js ha a hshows
    have hanswer := statePool_answer ha
    unfold Shows at hshows
    split at hshows
    · next state r =>
      obtain ⟨-, -, hr, -, -⟩ := StateTable.takeRow_answer hanswer
      exact ⟨r, hr, hshows⟩
    · exact hshows.elim

/-- Where nobody finds a fresh row, no second query has shown one. -/
theorem not_found_fresh (hC : statePool.allSteps findsNoFreshRow (Pool.init w) as = true)
    (h : statePool.exec (Pool.init w) as = some s) {i : Nat} {j : StateJob} {τ : Trace stateSql}
    (hslot : s.slot i = some (j, τ)) : ⟨.isConsumed state, .ok (some false)⟩ ∉ τ := by
  intro hmem
  obtain ⟨τ₁, τ₂, rfl⟩ := List.append_of_mem hmem
  obtain ⟨as₁, x, as₂, s₁, s₂, rfl, h₁, hcalls, -⟩ := Pool.exec_moment h hslot
  have hrest := (Pool.allSteps_append h₁ hC).2
  rw [Pool.allSteps, Bool.and_eq_true] at hrest
  have hfine := hrest.1
  rw [findsNoFreshRow, hcalls.nextCall] at hfine
  obtain ⟨js, ha⟩ := hcalls.answer
  rcases StateTable.answer_cases (statePool_answer ha) with ⟨hreply, hr, -⟩ | ⟨hreply, -⟩
  · have hfound := Except.ok.inj hr
    obtain ⟨r, hr, hfresh⟩ := Option.map_eq_some_iff.mp hfound.symm
    simp only [hreply, bne_self_eq_false, Bool.false_or, hr, Option.all_some, hfresh] at hfine
    cases hfine
  · -- a query that fails has no answer to show
    have hanswer := statePool_answer ha
    obtain ⟨reply, elapsed⟩ := x
    cases reply with
    | ok => exact hreply rfl
    | failed => cases (Prod.mk.inj (Option.some.inj hanswer)).2
    | lost => cases (Prod.mk.inj (Option.some.inj hanswer)).2

theorem ended (h : statePool.exec (Pool.init w) as = some s) {i : Nat} {j : StateJob}
    {τ : Trace stateSql} {o : Except AuthStateError (Option AuthState)}
    (hslot : s.slot i = some (j, τ)) (hresult : s.result i = some o) : j.Ends τ o :=
  Pool.exec_ends stateProgram_meets h hslot hresult

/-- Whoever gets a state gets a row that was stored, and before it expires. -/
theorem ok_of_stored (h : statePool.exec (Pool.init w) as = some s) {i : Nat} {τ : Trace stateSql}
    {a : Option AuthState} (hslot : s.slot i = some (.consume state, τ))
    (hresult : s.result i = some (.ok a)) :
    ∃ st now, a = some st ∧ st.state = state ∧ ⟨.now, now⟩ ∈ τ ∧ now < st.expiresAt ∧
      Stored w s st := by
  obtain ⟨r, now, rfl, hexpires, rfl⟩ := ended h hslot hresult
  have hmem : (⟨.takeRow state, .ok (some r)⟩ : Σ c, stateSql.Answer c) ∈
      [⟨.takeRow state, .ok (some r)⟩, ⟨.now, now⟩] := List.mem_cons_self
  have hstored := stored_of_taken h hslot hmem
  -- the answer to the `UPDATE` is a row of this state
  have hslot₁ : s.slot i = some (.consume state,
      [] ++ ⟨.takeRow state, .ok (some r)⟩ :: [⟨.now, now⟩]) := hslot
  obtain ⟨as₁, x, as₂, s₁, s₂, -, -, hcalls, -⟩ := Pool.exec_moment h hslot₁
  obtain ⟨js, ha⟩ := hcalls.answer
  have hstate := (StateTable.takeRow_answer (statePool_answer ha)).2.2.2.1
  exact ⟨r.toAuthState, now, rfl, hstate, List.mem_cons_of_mem _ List.mem_cons_self, hexpires, hstored⟩

/-- A state that was given to someone, or found expired, is consumed. -/
theorem consumed_of_result (hC : statePool.allSteps findsNoFreshRow (Pool.init w) as = true)
    (h : statePool.exec (Pool.init w) as = some s) {i : Nat} {τ : Trace stateSql}
    {o : Except AuthStateError (Option AuthState)} (hslot : s.slot i = some (.consume state, τ))
    (hresult : s.result i = some o) (ho : o = .error .expired ∨ ∃ a, o = .ok a) :
    s.world.Consumed state := by
  have hends := ended h hslot hresult
  rcases ho with rfl | ⟨a, rfl⟩
  · rcases hends with ⟨r, hmem⟩ | hmem
    · exact consumed_of_taken h hslot hmem
    · exact absurd hmem (not_found_fresh hC h hslot)
  · obtain ⟨r, now, rfl, -, -⟩ := hends
    exact consumed_of_taken h hslot List.mem_cons_self

/-- No two calls are given one state, and who is given it gets what was stored, in time; a state
that is consumed or was found expired is consumed for ever, and no later call is given it. -/
theorem authStates_single_use
    (hC : statePool.allSteps findsNoFreshRow (Pool.init w) as = true)
    (h : statePool.exec (Pool.init w) as = some s) :
    (∀ state i k τ τ' a a', s.slot i = some (.consume state, τ) → s.result i = some (.ok a) →
      s.slot k = some (.consume state, τ') → s.result k = some (.ok a') → i = k) ∧
    (∀ state i τ a, s.slot i = some (.consume state, τ) → s.result i = some (.ok a) →
      ∃ st now, a = some st ∧ st.state = state ∧ ⟨.now, now⟩ ∈ τ ∧ now < st.expiresAt ∧
        Stored w s st) ∧
    (∀ state i τ o, s.slot i = some (.consume state, τ) → s.result i = some o →
      (o = .error .expired ∨ ∃ a, o = .ok a) → s.world.Consumed state) ∧
    ∀ state, s.world.Consumed state → ∀ bs s', statePool.exec s bs = some s' →
      s'.world.Consumed state ∧ ∀ k τ a, s'.slot k = some (.consume state, τ) →
        (∀ j₀ τ₀, s.slot k = some (j₀, τ₀) → ∀ o, ⟨.takeRow state, .ok o⟩ ∉ τ₀) →
        s'.result k ≠ some (.ok a) := by
  refine ⟨fun state i k τ τ' a a' hi hri hk hrk => ?_, fun state i τ a => ok_of_stored h,
    fun state i τ o => consumed_of_result hC h, fun state hc bs s' hbs =>
      ⟨consumed_run hbs hc, fun k τ a hslot hlater hresult => ?_⟩⟩
  · obtain ⟨r, now, rfl, -, -⟩ := ended h hi hri
    obtain ⟨r', now', rfl, -, -⟩ := ended h hk hrk
    exact taken_once h hi hk List.mem_cons_self List.mem_cons_self
  · have hrun : statePool.exec (Pool.init w) (as ++ bs) = some s' := by
      rw [Pool.exec_append, h]
      exact hbs
    obtain ⟨r, now, rfl, -, -⟩ := ended hrun hslot hresult
    exact takes_of_consumed hc hlater hbs _ _ hslot r List.mem_cons_self

end Runs

/-! ## Two runs -/

def storeXyz : StateJob := .store "xyz" "n" "v" "github" (some "/clusters")

def stepsOk (i n : Nat) : List (Act StateJob StateOutcome) := List.replicate n (.step i {})

/-- The state is stored, and two calls ask for it. -/
theorem authStates_single_use_storedFirst :
    ∃ s, statePool.exec (Pool.init ⟨[], 0⟩)
        (.start storeXyz :: .start (.consume "xyz") :: .start (.consume "xyz") ::
          stepsOk 0 2 ++ stepsOk 1 2 ++ stepsOk 2 2) = some s ∧
      s.result 2 = some (.error .replay) ∧
      ∀ state i τ a, s.slot i = some (.consume state, τ) → s.result i = some (.ok a) →
        ∃ st now, a = some st ∧ st.state = state ∧ ⟨.now, now⟩ ∈ τ ∧ now < st.expiresAt ∧
          Stored ⟨[], 0⟩ s st := by
  have hC : statePool.allSteps findsNoFreshRow (Pool.init ⟨[], 0⟩)
      (.start storeXyz :: .start (.consume "xyz") :: .start (.consume "xyz") ::
        stepsOk 0 2 ++ stepsOk 1 2 ++ stepsOk 2 2) = true := by decide +kernel
  have hrun : (statePool.exec (Pool.init ⟨[], 0⟩)
      (.start storeXyz :: .start (.consume "xyz") :: .start (.consume "xyz") ::
        stepsOk 0 2 ++ stepsOk 1 2 ++ stepsOk 2 2)).any
          (fun s => decide (s.result 2 = some (.error .replay))) = true := by decide +kernel
  obtain ⟨s, hs, hreplay⟩ := (Option.any_eq_true _ _).mp hrun
  exact ⟨s, hs, of_decide_eq_true hreplay, (authStates_single_use hC hs).2.1⟩

/-- A call that asks before the state is stored, and looks again afterwards, calls it expired; the
next one is given it. -/
theorem not_authStates_single_use :
    ¬ ∀ (w : StateTable) (as : List (Act StateJob StateOutcome)) (s : StatesRun),
      statePool.exec (Pool.init w) as = some s →
      ∀ state i τ, s.slot i = some (.consume state, τ) → s.result i = some (.error .expired) →
        ∀ bs s', statePool.exec s bs = some s' → ∀ k τ a, s.slot k = none →
          s'.slot k = some (.consume state, τ) → s'.result k ≠ some (.ok a) := by
  intro hall
  have hrun : (statePool.exec (Pool.init ⟨[], 0⟩)
      (.start storeXyz :: .start (.consume "xyz") :: stepsOk 1 1 ++ stepsOk 0 2 ++
        stepsOk 1 1)).any (fun s =>
          decide (s.jobs[1]? = some (.consume "xyz") ∧ (s.slot 1).isSome = true ∧
            s.result 1 = some (.error .expired) ∧ s.slot 2 = none) &&
          (statePool.exec s (.start (.consume "xyz") :: stepsOk 2 2)).any fun s' =>
            decide (s'.jobs[2]? = some (.consume "xyz") ∧ (s'.slot 2).isSome = true ∧
              s'.result 2 = some (.ok (some ⟨"xyz", "n", "v", "github", some "/clusters",
                authStateTtl⟩)))) = true := by decide +kernel
  obtain ⟨s, hs, hbad⟩ := (Option.any_eq_true _ _).mp hrun
  rw [Bool.and_eq_true] at hbad
  obtain ⟨hjob, hsome, hexpired, hnone⟩ := of_decide_eq_true hbad.1
  obtain ⟨s', hs', hok⟩ := (Option.any_eq_true _ _).mp hbad.2
  obtain ⟨hjob', hsome', hresult⟩ := of_decide_eq_true hok
  obtain ⟨⟨j, τ⟩, hslot⟩ := Option.isSome_iff_exists.mp hsome
  obtain ⟨⟨j', τ'⟩, hslot'⟩ := Option.isSome_iff_exists.mp hsome'
  obtain rfl := Option.some.inj ((PoolState.job_of_slot hslot).symm.trans hjob)
  obtain rfl := Option.some.inj ((PoolState.job_of_slot hslot').symm.trans hjob')
  exact hall _ _ s hs "xyz" 1 τ hslot hexpired _ s' hs' 2 τ' _ hnone hslot' hresult

end Kubinate.Access.Oidc
