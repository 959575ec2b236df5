import Kubinate.Billing.Plans
import Kubinate.Billing.Redelivery

/-!
# Plans under row-level security

The billing repository trusts that row-level security is bypassed: its statements on
`organizations` set no tenant. Where it is in force they find no organization at all, so that
a plan cannot be read and a write of it is lost without an error.

* `PlanOperation.Spared`: the operations for which that makes no difference.
* `plan_transparent_iff`: there are no others.
-/

namespace Kubinate.Billing

open Platform Library

namespace BillingDb

variable (db : BillingDb)

/-- The tables as the other role reaches them. -/
def withRls (enforceRls : Bool) : BillingDb := { db with enforceRls := enforceRls }

/-- No organization has the nil id, the tenant of a connection that sets none. -/
def NoNil : Prop := ∀ o ∈ db.organizations, o.id ≠ Uuid.nil

variable {db}

theorem sees_enforced (h : db.NoNil) {o : Organization} (ho : o ∈ db.organizations) :
    (db.withRls true).sees o = false := by
  simpa [sees, withRls] using h o ho

@[simp] theorem sees_bypassed (o : Organization) : (db.withRls false).sees o = true := rfl

theorem get_enforced (h : db.NoNil) (id : Uuid) :
    (db.withRls true).get id = .error (.notFound ("organization/" ++ id.text)) := by
  have hnone : (db.withRls true).organizations.find? (fun o =>
      (db.withRls true).sees o && o.id == id) = none := by
    refine List.find?_eq_none.mpr fun o ho => ?_
    rw [sees_enforced h ho]
    exact Bool.false_ne_true
  rw [get, hnone]

theorem orgForCustomer_enforced (h : db.NoNil) (customerId : String) :
    (db.withRls true).orgForCustomer customerId = none := by
  have hnone : (db.withRls true).organizations.find? (fun o =>
      (db.withRls true).sees o && o.stripeCustomerId == some customerId) = none := by
    refine List.find?_eq_none.mpr fun o ho => ?_
    rw [sees_enforced h ho]
    exact Bool.false_ne_true
  rw [orgForCustomer, hnone]
  rfl

theorem updatePlan_enforced (h : db.NoNil) (id : Uuid) (plan : BillingPlan) :
    (db.withRls true).updatePlan id plan = db.withRls true := by
  have hmap : db.organizations.map (fun o =>
      if (db.withRls true).sees o && o.id == id then { o with plan := plan } else o) =
        db.organizations := by
    refine (List.map_congr_left fun o ho => ?_).trans (List.map_id _)
    rw [sees_enforced h ho]
    rfl
  rw [updatePlan]
  exact congrArg (fun l => { db.withRls true with organizations := l }) hmap

theorem updatePlan_eq_iff (id : Uuid) (plan : BillingPlan) :
    db.updatePlan id plan = db ↔ (db.updatePlan id plan).organizations = db.organizations :=
  ⟨fun h => congrArg organizations h, fun h => congrArg (fun l => { db with organizations := l }) h⟩

/-- The plan is what it was, where it is what is asked for. -/
theorem updatePlan_bypassed_iff (id : Uuid) (plan : BillingPlan) :
    (db.withRls false).updatePlan id plan = db.withRls false ↔
      ∀ o ∈ db.organizations, o.id = id → o.plan = plan := by
  rw [updatePlan_eq_iff]
  show db.organizations.map (fun o => if o.id == id then { o with plan := plan } else o) =
    db.organizations ↔ _
  constructor
  · intro h o ho hid
    have hfixed := List.map_inj_left.mp (h.trans (List.map_id _).symm) o ho
    rw [if_pos (beq_iff_eq.mpr hid)] at hfixed
    exact (congrArg Organization.plan hfixed).symm
  · intro h
    refine (List.map_congr_left fun o ho => ?_).trans (List.map_id _)
    by_cases hid : o.id = id
    · obtain ⟨oid, oplan, customer⟩ := o
      simp [← h _ ho hid]
    · simp [hid]

theorem get_bypassed (db : BillingDb) (id : Uuid) :
    (∀ o ∈ db.organizations, o.id ≠ id) ∧
        (db.withRls false).get id = .error (.notFound ("organization/" ++ id.text)) ∨
      (¬ ∀ o ∈ db.organizations, o.id ≠ id) ∧ ∃ state, (db.withRls false).get id = .ok state := by
  rw [get]
  cases hfind : (db.withRls false).organizations.find? fun o =>
      (db.withRls false).sees o && o.id == id with
  | none =>
    refine .inl ⟨fun o ho hid => ?_, rfl⟩
    have hnot := List.find?_eq_none.mp hfind o ho
    simp [hid] at hnot
  | some o =>
    refine .inr ⟨fun hall => ?_, _, rfl⟩
    have hid : o.id = id := by simpa using List.find?_some hfind
    exact hall o (List.mem_of_find?_eq_some hfind) hid

/-- Events are attributed without regard to row-level security. -/
theorem appendEvent_withRls (b : Bool) (evt : String) (id : Option Uuid) (eventType : String)
    (payload : Json) (decision : String) :
    (db.withRls b).appendEvent evt id eventType payload decision =
      ((db.appendEvent evt id eventType payload decision).1.withRls b,
        (db.appendEvent evt id eventType payload decision).2) := by
  by_cases hdup : (db.events.any (·.stripeEventId == evt)) = true
  · simp [appendEvent, withRls, hdup]
  · by_cases hfk : (id.any fun id => db.organizations.all (·.id != id)) = true
    · simp [appendEvent, withRls, hdup, hfk]
    · simp [appendEvent, withRls, hdup, hfk]

end BillingDb

/-- The operation does not reach an organization, or leaves it as it is. `xs` is how its calls
go. -/
def PlanOperation.Spared (db : BillingDb) (xs : Nat → Outcome) : PlanOperation → Prop
  | .state id => (xs 0).reply ≠ .ok ∨ ∀ o ∈ db.organizations, o.id ≠ id
  | .startCheckout id targetPlan _ =>
    targetPlan = .free ∨ (xs 0).reply ≠ .ok ∨ ∀ o ∈ db.organizations, o.id ≠ id
  | .applyCheckoutCompletion _ id plan _ =>
    (xs 0).reply = .failed ∨ ∀ o ∈ db.organizations, o.id = id → o.plan = plan
  | .applySubscriptionCancelled evt customerId _ =>
    (xs 0).reply ≠ .ok ∨
      ∀ id, (db.withRls false).orgForCustomer customerId = some id →
        (xs 1).reply = .ok ∧ (xs 2).reply = .ok ∧
          (∀ o ∈ db.organizations, o.id = id → o.plan = .free) ∧
          db.events.any (·.stripeEventId == evt) = true

/-- With and without row-level security the operation has the same result and leaves the same
tables. -/
def PlanOperation.Transparent (urls : CheckoutUrls) (op : PlanOperation) (db : BillingDb)
    (xs : Nat → Outcome) : Prop :=
  ((op.program urls).run.replay BillingDb.answer xs 0 (db.withRls true)).map
      (fun (db, r) => (db.withRls false, r)) =
    (op.program urls).run.replay BillingDb.answer xs 0 (db.withRls false)

section Transparent

open BillingDb

variable {urls : CheckoutUrls} {db : BillingDb} {xs : Nat → Outcome}

theorem state_transparent_iff (h : db.NoNil) (id : Uuid) :
    (PlanOperation.state id).Transparent urls db xs ↔ (PlanOperation.state id).Spared db xs := by
  have hprogram : (PlanOperation.program urls (.state id)).run =
      Program.call (I := billing) (.get id)
        fun r => .done (Except.mapError BillingError.platform r) := rfl
  rw [PlanOperation.Transparent, hprogram, PlanOperation.Spared, Program.replay, Program.replay,
    BillingDb.answer, BillingDb.answer]
  cases hreply : (xs 0).reply with
  | failed | lost => simp [Program.replay, BillingDb.execute, BillingDb.broken, withRls]
  | ok =>
    simp only [BillingDb.execute, get_enforced h]
    rcases get_bypassed db id with ⟨hnone, hget⟩ | ⟨hsome, state, hget⟩
    · rw [hget]
      exact iff_of_true rfl (.inr hnone)
    · rw [hget]
      refine iff_of_false (fun heq => ?_) (by simpa using hsome)
      cases heq

/-- Once the organization was read, a checkout does not end as if there were none. -/
theorem checkoutFrom_ne (params : CheckoutSessionParams) (id : Uuid) (message : String) :
    Always (Ways BillingDb.answer) (fun _ r => r ≠ .error (.platform (.notFound message)))
      (checkoutFrom params id).run db := by
  intro r db₁ _
  rcases r with e | ⟨url, _ | customerId⟩
  · intro heq
    cases heq
  · intro heq
    cases heq
  · intro r db₂ hr
    rcases r with e | ⟨⟩
    · obtain ⟨x, hx⟩ := hr
      intro heq
      have he : e = .notFound message := by
        cases heq
        rfl
      subst he
      simp only [BillingDb.answer, BillingDb.execute, BillingDb.setStripeCustomer,
        BillingDb.broken] at hx
      split at hx
      · split at hx
        · cases hx
        · split at hx
          · cases hx
          · cases hx
      · cases hx
      · cases hx
    · intro heq
      cases heq

theorem startCheckout_transparent_iff (h : db.NoNil) (id : Uuid) (targetPlan : BillingPlan)
    (actorEmail : String) :
    (PlanOperation.startCheckout id targetPlan actorEmail).Transparent urls db xs ↔
      (PlanOperation.startCheckout id targetPlan actorEmail).Spared db xs := by
  cases hprice : priceIdForPlan targetPlan with
  | none =>
    have hfree : targetPlan = .free := by
      cases targetPlan <;> first | rfl | cases hprice
    have hprogram : (PlanOperation.program urls (.startCheckout id targetPlan actorEmail)).run =
        .done (.error (.forbidden "cannot upgrade to the free plan")) := by
      rw [hfree]
      rfl
    rw [PlanOperation.Transparent, hprogram]
    exact iff_of_true rfl (.inl hfree)
  | some priceId =>
    have hpaid : targetPlan ≠ .free := by
      rintro rfl
      cases hprice
    obtain ⟨params, hprogram⟩ := startCheckout_run urls id actorEmail hprice
    rw [PlanOperation.Transparent, PlanOperation.program, hprogram, PlanOperation.Spared,
      Program.replay, Program.replay, BillingDb.answer, BillingDb.answer]
    cases hreply : (xs 0).reply with
    | failed | lost => simp [Program.replay, BillingDb.execute, BillingDb.broken, withRls]
    | ok =>
      simp only [BillingDb.execute, get_enforced h]
      rcases get_bypassed db id with ⟨hnone, hget⟩ | ⟨hsome, state, hget⟩
      · rw [hget]
        exact iff_of_true rfl (.inr (.inr hnone))
      · rw [hget]
        refine iff_of_false (fun heq => ?_) (by simpa [hpaid] using hsome)
        exact (checkoutFrom_ne (params state) id _).replay heq.symm rfl

/-- The row of the event, with nothing after it. -/
def recordApplied (evt : String) (id : Uuid) (eventType : String) (payload : Json) :
    Program billing (Except BillingError Unit) :=
  .call (.appendEvent evt (some id) eventType payload "plan_applied") fun r =>
    .done ((Except.mapError BillingError.platform r).map fun _ => ())

theorem recordApplied_withRls (db : BillingDb) (xs : Nat → Outcome) (evt : String) (id : Uuid) (eventType : String) (payload : Json)
    (n : Nat) :
    ((recordApplied evt id eventType payload).replay BillingDb.answer xs n (db.withRls true)).map
        (fun (db, r) => (db.withRls false, r)) =
      (recordApplied evt id eventType payload).replay BillingDb.answer xs n (db.withRls false) := by
  rw [recordApplied, Program.replay, Program.replay, BillingDb.answer, BillingDb.answer,
    BillingDb.execute, BillingDb.execute, appendEvent_withRls, appendEvent_withRls]
  cases (xs n).reply <;> rfl

theorem recordApplied_organizations (db : BillingDb) (xs : Nat → Outcome) (evt : String)
    (id : Uuid) (eventType : String) (payload : Json) (n : Nat) :
    ∃ db' r, (recordApplied evt id eventType payload).replay BillingDb.answer xs n db =
      some (db', r) ∧ db'.organizations = db.organizations := by
  rw [recordApplied, Program.replay, BillingDb.answer, BillingDb.execute]
  cases (xs n).reply with
  | ok | lost => exact ⟨_, _, rfl, BillingDb.appendEvent_organizations _ _ _ _ _⟩
  | failed => exact ⟨_, _, rfl, rfl⟩

/-- The plan is written, and the event after it. -/
def updateAndRecord (evt : String) (id : Uuid) (plan : BillingPlan) (eventType : String)
    (payload : Json) : Program billing (Except BillingError Unit) :=
  .call (.updatePlan id plan) fun r =>
    match r with
    | .error e => .done (.error (.platform e))
    | .ok () => recordApplied evt id eventType payload

theorem applyCheckoutCompletion_run (evt : String) (id : Uuid) (plan : BillingPlan)
    (payload : Json) :
    (PlanOperation.program urls (.applyCheckoutCompletion evt id plan payload)).run =
      updateAndRecord evt id plan "checkout.session.completed" payload := by
  refine congrArg (Program.call (I := billing) (.updatePlan id plan)) (funext fun r => ?_)
  rcases r with e | ⟨⟩
  · rfl
  · refine congrArg (Program.call (I := billing) _) (funext fun r => ?_)
    rcases r with e | b <;> rfl

/-- The organization of the customer is downgraded, if there is one. -/
def downgradeCustomer (evt customerId : String) (payload : Json) :
    Program billing (Except BillingError Unit) :=
  .call (.orgForCustomer customerId) fun r =>
    match r with
    | .error e => .done (.error (.platform e))
    | .ok none => .done (.ok ())
    | .ok (some id) => updateAndRecord evt id .free "customer.subscription.deleted" payload

theorem applySubscriptionCancelled_run (evt customerId : String) (payload : Json) :
    (PlanOperation.program urls (.applySubscriptionCancelled evt customerId payload)).run =
      downgradeCustomer evt customerId payload := by
  refine congrArg (Program.call (I := billing) (.orgForCustomer customerId)) (funext fun r => ?_)
  rcases r with e | _ | id
  · rfl
  · rfl
  · refine congrArg (Program.call (I := billing) (.updatePlan id .free)) (funext fun r => ?_)
    rcases r with e | ⟨⟩
    · rfl
    · refine congrArg (Program.call (I := billing) _) (funext fun r => ?_)
      rcases r with e | b <;> rfl

theorem applyCheckoutCompletion_transparent_iff (h : db.NoNil) (evt : String) (id : Uuid)
    (plan : BillingPlan) (payload : Json) :
    (PlanOperation.applyCheckoutCompletion evt id plan payload).Transparent urls db xs ↔
      (PlanOperation.applyCheckoutCompletion evt id plan payload).Spared db xs := by
  rw [PlanOperation.Transparent, applyCheckoutCompletion_run, PlanOperation.Spared,
    updateAndRecord, Program.replay, Program.replay, BillingDb.answer, BillingDb.answer,
    BillingDb.execute, BillingDb.execute, updatePlan_enforced h, ← updatePlan_bypassed_iff]
  cases hreply : (xs 0).reply with
  | failed => exact iff_of_true rfl (.inl rfl)
  | lost =>
    constructor
    · intro heq
      exact .inr (Prod.mk.inj (Option.some.inj heq)).1.symm
    · rintro (hfailed | hsame)
      · cases hfailed
      · rw [hsame]
        rfl
  | ok =>
    have hsame := recordApplied_withRls db xs evt id "checkout.session.completed" payload 1
    constructor
    · intro heq
      obtain ⟨d₁, r₁, h₁, horganizations₁⟩ := recordApplied_organizations
        (db.withRls false) xs evt id "checkout.session.completed" payload 1
      obtain ⟨d₂, r₂, h₂, horganizations₂⟩ := recordApplied_organizations
        ((db.withRls false).updatePlan id plan) xs evt id "checkout.session.completed" payload 1
      have hends : some (d₁, r₁) = some (d₂, r₂) := h₁.symm.trans ((hsame.symm.trans heq).trans h₂)
      cases hends
      refine .inr ?_
      rw [updatePlan_eq_iff, ← horganizations₂, horganizations₁]
    · rintro (hfailed | hplan)
      · cases hfailed
      · rw [hplan]
        exact hsame

/-- A downgrade leaves no trace exactly if there was no plan to lose and the event was recorded
before. -/
theorem downgrade_eq_iff (evt : String) (id : Uuid) (payload : Json) :
    (recordApplied evt id "customer.subscription.deleted" payload).replay BillingDb.answer xs 2
        ((db.withRls false).updatePlan id .free) = some (db.withRls false, .ok ()) ↔
      (xs 2).reply = .ok ∧ (∀ o ∈ db.organizations, o.id = id → o.plan = .free) ∧
        db.events.any (·.stripeEventId == evt) = true := by
  rw [recordApplied, Program.replay, BillingDb.answer, BillingDb.execute, ← updatePlan_bypassed_iff]
  cases hreply : (xs 2).reply with
  | failed | lost =>
    refine iff_of_false (fun heq => ?_) (by simp)
    cases (Prod.mk.inj (Option.some.inj heq)).2
  | ok =>
    have hevents : ((db.withRls false).updatePlan id .free).events = db.events := rfl
    simp only [BillingDb.appendEvent, hevents]
    by_cases hdup : db.events.any (·.stripeEventId == evt) = true
    · rw [if_pos hdup]
      constructor
      · intro heq
        exact ⟨trivial, (Prod.mk.inj (Option.some.inj heq)).1, hdup⟩
      · rintro ⟨-, hplan, -⟩
        rw [hplan]
        rfl
    · rw [if_neg hdup]
      refine iff_of_false (fun heq => ?_) fun hc => hdup hc.2.2
      -- the row of the event is refused, or it is there afterwards
      split at heq
      · cases (Prod.mk.inj (Option.some.inj heq)).2
      · have hlength := congrArg (fun db => db.events.length) (Prod.mk.inj (Option.some.inj heq)).1
        simp [withRls] at hlength

theorem applySubscriptionCancelled_transparent_iff (h : db.NoNil) (evt customerId : String)
    (payload : Json) :
    (PlanOperation.applySubscriptionCancelled evt customerId payload).Transparent urls db xs ↔
      (PlanOperation.applySubscriptionCancelled evt customerId payload).Spared db xs := by
  rw [PlanOperation.Transparent, applySubscriptionCancelled_run, PlanOperation.Spared,
    downgradeCustomer, Program.replay, Program.replay, BillingDb.answer, BillingDb.answer]
  cases hreply : (xs 0).reply with
  | failed | lost => exact iff_of_true rfl (.inl (by decide))
  | ok =>
    simp only [BillingDb.execute, orgForCustomer_enforced h]
    cases hfind : (db.withRls false).orgForCustomer customerId with
    | none =>
      refine iff_of_true rfl (.inr fun id hid => ?_)
      cases hid
    | some id =>
      have hspared : (Reply.ok ≠ Reply.ok ∨ ∀ id', some id = some id' →
          (xs 1).reply = .ok ∧ (xs 2).reply = .ok ∧
            (∀ o ∈ db.organizations, o.id = id' → o.plan = .free) ∧
            db.events.any (·.stripeEventId == evt) = true) ↔
          (xs 1).reply = .ok ∧ (xs 2).reply = .ok ∧
            (∀ o ∈ db.organizations, o.id = id → o.plan = .free) ∧
            db.events.any (·.stripeEventId == evt) = true := by
        simp
      rw [hspared]
      show some (db.withRls false, Except.ok ()) =
        (updateAndRecord evt id .free _ payload).replay BillingDb.answer xs 1 _ ↔ _
      rw [updateAndRecord, Program.replay, BillingDb.answer]
      cases hreply₁ : (xs 1).reply with
      | failed | lost =>
        refine iff_of_false (fun heq => ?_) (by simp)
        cases (Prod.mk.inj (Option.some.inj heq)).2
      | ok =>
        rw [eq_comm]
        refine (downgrade_eq_iff evt id payload).trans ?_
        simp

/-- Row-level security makes no difference to the operations that are spared, and to no
others. -/
theorem plan_transparent_iff (h : db.NoNil) (op : PlanOperation) :
    op.Transparent urls db xs ↔ op.Spared db xs := by
  cases op with
  | state id => exact state_transparent_iff h id
  | startCheckout id targetPlan actorEmail =>
    exact startCheckout_transparent_iff h id targetPlan actorEmail
  | applyCheckoutCompletion evt id plan payload =>
    exact applyCheckoutCompletion_transparent_iff h evt id plan payload
  | applySubscriptionCancelled evt customerId payload =>
    exact applySubscriptionCancelled_transparent_iff h evt customerId payload

end Transparent

end Kubinate.Billing
