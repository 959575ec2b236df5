import Kubinate.Access.AuthStates
import Kubinate.Access.Requests
import Kubinate.Library.Url

/-!
# Where a sign-in leads

`start` of `crates/api/src/auth.rs` keeps a `redirect_to` that begins with a slash, and `callback`
sends the browser there. A second slash, or a backslash, makes the name of a host out of what
follows, and tabs do not count.

* `Emits`: the `Location` of a callback, and the start request whose state it has consumed.
* `redirects_on_site_iff`: which start requests lead back to the application.
-/

namespace Kubinate.Access

open Platform Library Oidc

/-! ## The two requests -/

/-- What `start` stores. -/
def redirectTarget (redirectTo : Option String) : String :=
  (redirectTo.filter fun s => s.toList.head? == some '/').getD "/"

theorem start_stores (state codeVerifier : String) (redirectTo : Option String) :
    ∃ next, (start state codeVerifier redirectTo).run =
      .call (.storeState state codeVerifier providerGithub (some (redirectTarget redirectTo)))
        next :=
  ⟨_, rfl⟩

/-- `HeaderValue::try_from` -/
def isHeaderValue (value : String) : Bool :=
  value.toList.all fun c => (32 ≤ c.toNat && c.toNat != 127) || c == '\t'

/-- The `Location` that `callback` emits after what `consume` has returned, if the steps in between
succeed. A text that is no header value is not emitted. -/
def location (succeeds : Oidc.AuthState → Bool)
    (consumed : Except AuthStateError (Option Oidc.AuthState)) :
    Option String :=
  match consumed with
  | .ok (some stored) =>
    if stored.provider ≠ providerGithub then none
    else if !succeeds stored then none
    else
      let redirect := stored.redirectTo.getD "/"
      if isHeaderValue redirect then some redirect else none
  | _ => none

inductive SignIn where
  | start (state nonce codeVerifier : String) (redirectTo : Option String)
  | callback (state : String)

/-- What a request does with the stored states. -/
def SignIn.job : SignIn → StateJob
  | .start state nonce codeVerifier redirectTo =>
    .store state nonce codeVerifier providerGithub (some (redirectTarget redirectTo))
  | .callback state => .consume state

def SignIn.act : Act SignIn StateOutcome → Act StateJob StateOutcome
  | .start q => .start q.job
  | .step i x => .step i x

/-- Requests arrive at any time, and their queries are interleaved in any way. -/
def SignInRun (as : List (Act SignIn StateOutcome)) (now : Timestamp) (s : StatesRun) : Prop :=
  statePool.exec (Pool.init ⟨[], now⟩) (as.map SignIn.act) = some s

/-- In some run a callback has consumed what a start request with this `redirect_to` has stored, and
emits this `Location`. -/
def Emits (redirectTo : Option String) (target : String) : Prop :=
  ∃ as now s i k stored τ τ' succeeds, SignInRun as now s ∧
    s.slot k =
      some ((SignIn.start stored.state stored.nonce stored.codeVerifier redirectTo).job, τ) ∧
    stored.redirectTo = some (redirectTarget redirectTo) ∧
    s.slot i = some ((SignIn.callback stored.state).job, τ') ∧
    s.result i = some (.ok (some stored)) ∧
    location succeeds (.ok (some stored)) = some target

section Resolve

variable {H : Type} (parseHost : List Char → Option H) (app : Url.Origin H)

/-- Every `Location` has the scheme, the host and the port of the application. -/
def StaysOnSite (redirectTo : Option String) : Prop :=
  ∀ target, Emits redirectTo target → Url.resolve parseHost app target.toList = some app

/-- If what is emitted has two slashes in the beginning, it names the application behind them. -/
def NamesApp (redirectTo : Option String) : Prop :=
  ∀ target, redirectTo = some target → target.toList.head? = some '/' →
    isHeaderValue target = true → ∀ c rest, Url.clean target.toList = '/' :: c :: rest → Url.isSlash c = true →
      Url.authority parseHost app.scheme (rest.dropWhile Url.isSlash) = some app

end Resolve

/-! ## What is emitted -/

theorem target_of_emits {redirectTo : Option String} {target : String}
    (h : Emits redirectTo target) : target = redirectTarget redirectTo ∧ isHeaderValue target = true := by
  obtain ⟨as, now, s, i, k, stored, τ, τ', succeeds, -, -, hstored, -, -, hlocation⟩ := h
  unfold location at hlocation
  dsimp only at hlocation
  split at hlocation
  · cases hlocation
  split at hlocation
  · cases hlocation
  split at hlocation
  · next hvalue =>
    obtain rfl := Option.some.inj hlocation
    rw [hstored] at hvalue ⊢
    exact ⟨rfl, hvalue⟩
  · cases hlocation

/-- One sign-in after which nothing else happens. -/
theorem emits_target (redirectTo : Option String)
    (h : isHeaderValue (redirectTarget redirectTo) = true) :
    Emits redirectTo (redirectTarget redirectTo) := by
  refine ⟨[.start (.start "s" "n" "v" redirectTo), .step 0 {}, .step 0 {}, .start (.callback "s"),
    .step 1 {}, .step 1 {}], 0, _, 1, 0,
    ⟨"s", "n", "v", providerGithub, some (redirectTarget redirectTo), authStateTtl⟩, _, _,
    fun _ => true, rfl, rfl, rfl, rfl, rfl, ?_⟩
  exact if_pos h

/-- Whatever runs is a request of a sign-in. -/
theorem job_of_run {as : List (Act SignIn StateOutcome)} {s s' : StatesRun}
    (h : statePool.exec s (as.map SignIn.act) = some s')
    (hs : ∀ t ∈ s.threads, ∃ q : SignIn, t.job = q.job) :
    ∀ t ∈ s'.threads, ∃ q : SignIn, t.job = q.job := by
  induction as generalizing s with
  | nil =>
    cases h
    exact hs
  | cons a as ih =>
    rw [List.map_cons, Pool.exec_cons, Option.bind_eq_some_iff] at h
    obtain ⟨s₁, hstep, hrest⟩ := h
    refine ih hrest fun t ht => ?_
    cases a with
    | start q =>
      obtain ⟨-, rfl⟩ := Pool.step_start.mp hstep
      rcases List.mem_append.mp ht with ht | ht
      · exact hs t ht
      · rw [List.mem_singleton.mp ht]
        exact ⟨q, rfl⟩
    | step i x =>
      obtain ⟨t₀, c, k, w, r, js, ht₀, -, ha, rfl⟩ := Pool.step_step.mp hstep
      obtain ⟨_, -, he⟩ := Option.map_eq_some_iff.mp ha
      cases he
      rw [List.map_nil, List.append_nil] at ht
      rcases List.mem_or_eq_of_mem_set ht with ht | rfl
      · exact hs t ht
      · exact hs t₀ (List.mem_of_getElem? ht₀)

/-- A callback emits nothing but what some start request has stored. -/
theorem emits_of_location {as : List (Act SignIn StateOutcome)} {now : Timestamp} {s : StatesRun}
    (h : SignInRun as now s) {i : Nat} {state : String} {τ : Trace stateSql}
    {stored : Option Oidc.AuthState} {succeeds : Oidc.AuthState → Bool} {target : String}
    (hslot : s.slot i = some ((SignIn.callback state).job, τ))
    (hresult : s.result i = some (.ok stored))
    (hlocation : location succeeds (.ok stored) = some target) :
    ∃ redirectTo, Emits redirectTo target := by
  obtain ⟨st, -, rfl, rfl, -, -, hstored⟩ := ok_of_stored h hslot hresult
  rcases hstored with ⟨r, hr, -⟩ | ⟨k, τ', -, hslot', -, -⟩
  · cases hr
  obtain ⟨t, ht, heq⟩ := Option.map_eq_some_iff.mp hslot'
  obtain ⟨q, hq⟩ := job_of_run h (fun _ => nofun) t (List.mem_of_getElem? ht)
  rw [(Prod.mk.inj heq).1] at hq
  cases q with
  | callback state => cases hq
  | start state nonce codeVerifier redirectTo =>
    obtain ⟨rfl, rfl, rfl, hprovider, hredirect⟩ := StateJob.store.inj hq
    rw [hprovider, hredirect] at hslot'
    exact ⟨redirectTo, as, now, s, i, k, st, τ', τ, succeeds, h, hslot', hredirect, hslot, hresult,
      hlocation⟩

section OnSite

variable {H : Type} {parseHost : List Char → Option H} {app : Url.Origin H}

theorem resolve_root : Url.resolve parseHost app "/".toList = some app := rfl

/-- A text that begins with a slash is kept, any other is replaced. -/
theorem redirectTarget_cases (redirectTo : Option String) :
    redirectTarget redirectTo = "/" ∨
      ∃ target cs, redirectTo = some target ∧ target.toList = '/' :: cs ∧
        redirectTarget redirectTo = target := by
  cases redirectTo with
  | none => exact .inl rfl
  | some target =>
    by_cases hhead : (target.toList.head? == some '/') = true
    · obtain ⟨cs, hcs⟩ := List.head?_eq_some_iff.mp (beq_iff_eq.mp hhead)
      refine .inr ⟨target, cs, rfl, hcs, ?_⟩
      rw [redirectTarget, Option.filter_some, if_pos hhead, Option.getD_some]
    · rw [redirectTarget, Option.filter_some, if_neg hhead]
      exact .inl rfl

theorem staysOnSite_iff (redirectTo : Option String) :
    StaysOnSite parseHost app redirectTo ↔ NamesApp parseHost app redirectTo := by
  constructor
  · rintro h target rfl hhead hvalue
    obtain ⟨cs, hcs⟩ := List.head?_eq_some_iff.mp hhead
    have htarget : redirectTarget (some target) = target := by
      rw [redirectTarget, Option.filter_some, if_pos (beq_iff_eq.mpr hhead), Option.getD_some]
    have hemits : Emits (some target) target := by
      have hemits := emits_target (some target) (by rwa [htarget])
      rwa [htarget] at hemits
    have hresolve := h target hemits
    rw [hcs] at hresolve ⊢
    exact (Url.resolve_slash parseHost app cs).mp hresolve
  · intro h target hemits
    obtain ⟨rfl, hvalue⟩ := target_of_emits hemits
    rcases redirectTarget_cases redirectTo with hroot | ⟨target, cs, rfl, hcs, htarget⟩
    · rw [hroot]
      exact resolve_root
    · rw [htarget] at hvalue ⊢
      have hnames := h target rfl (by rw [hcs, List.head?_cons]) hvalue
      rw [hcs] at hnames ⊢
      exact (Url.resolve_slash parseHost app cs).mpr hnames

/-- Sign-ins lead back to the application exactly if the start request does not name another host
behind two slashes; and there are no other redirects than those of start requests. -/
theorem redirects_on_site_iff (parseHost : List Char → Option H) (app : Url.Origin H) :
    (∀ redirectTo, StaysOnSite parseHost app redirectTo ↔ NamesApp parseHost app redirectTo) ∧
    ∀ as now s, SignInRun as now s → ∀ i state τ stored succeeds target,
      s.slot i = some ((SignIn.callback state).job, τ) → s.result i = some (.ok stored) →
      location succeeds (.ok stored) = some target → ∃ redirectTo, Emits redirectTo target :=
  ⟨staysOnSite_iff, fun _ _ _ h _ _ _ _ _ _ => emits_of_location h⟩

end OnSite

/-! ## Another host -/

/-- A host that is written in lower case is what it says. -/
def plainHost (host : List Char) : Option String := some (String.ofList host)

def console : Url.Origin String := ⟨.https, "console.kubinate.dev", none⟩

theorem not_redirects_on_site : ¬∀ redirectTo, StaysOnSite plainHost console redirectTo := by
  intro h
  have hemits : Emits (some "//evil.example") "//evil.example" :=
    emits_target (some "//evil.example") (by decide +kernel)
  have hother : Url.resolve plainHost console "//evil.example".toList =
      some ⟨.https, "evil.example", none⟩ := by decide +kernel
  have happ := hother.symm.trans (h _ _ hemits)
  exact absurd happ (by decide)

end Kubinate.Access
