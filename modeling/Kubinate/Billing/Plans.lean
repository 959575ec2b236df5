import Kubinate.Billing.Webhook
import Kubinate.Library.ReadCommitted
import Kubinate.Library.Together

/-!
# The plan of an organization

The use cases of `crates/billing/src/service.rs` around the plan, with a database that can
fail: reading it, starting a checkout for another one, and the two that the webhook applies.
Where nothing fails the last two are `BillingService.applyCheckoutCompletion` and
`BillingService.applySubscriptionCancelled`.

Stripe is part of the outside: what it answers is in the `Outcome`. None of the statements
sets a tenant.
-/

namespace Kubinate.Billing

open Platform Library

structure OrgBillingState where
  organizationId : Uuid
  plan : BillingPlan
  stripeCustomerId : Option String
deriving DecidableEq, Repr

inductive StripeError where
  | transport
  | status (status : Nat) (body : String)
deriving DecidableEq, Repr

structure CheckoutSessionParams where
  priceId : String
  successUrl : String
  cancelUrl : String
  customerId : Option String
  customerEmail : Option String
  metadata : List (String × String)
deriving DecidableEq, Repr

structure CheckoutSession where
  url : String
  customer : Option String
deriving DecidableEq, Repr

inductive BillingError where
  | forbidden (message : String)
  | stripe (error : StripeError)
  | platform (error : PlatformError)
deriving DecidableEq, Repr

/-! ## Calls -/

inductive BillingCall where
  | get (organizationId : Uuid)
  | orgForCustomer (stripeCustomerId : String)
  | setStripeCustomer (organizationId : Uuid) (customerId : String)
  | updatePlan (organizationId : Uuid) (plan : BillingPlan)
  | appendEvent (stripeEventId : String) (organizationId : Option Uuid) (eventType : String)
      (payload : Json) (decision : String)
  | createCheckoutSession (params : CheckoutSessionParams)

@[reducible]
def BillingCall.Answer : BillingCall → Type
  | .get _ => Except PlatformError OrgBillingState
  | .orgForCustomer _ => Except PlatformError (Option Uuid)
  | .setStripeCustomer .. | .updatePlan .. => Except PlatformError Unit
  | .appendEvent .. => Except PlatformError Bool
  | .createCheckoutSession _ => Except StripeError CheckoutSession

abbrev billing : Interface where
  Call := BillingCall
  Answer := BillingCall.Answer

/-- How a call goes, and what Stripe answers. -/
structure Outcome where
  reply : Reply
  session : Except StripeError CheckoutSession := .error .transport

namespace BillingDb

variable (db : BillingDb)

def get (organizationId : Uuid) : Except PlatformError OrgBillingState :=
  match db.organizations.find? fun o => db.sees o && o.id == organizationId with
  | some o => .ok ⟨organizationId, o.plan, o.stripeCustomerId⟩
  | none => .error (.notFound ("organization/" ++ organizationId.text))

/-- The row that may be linked to the customer. -/
def linkable (organizationId : Uuid) (customerId : String) (o : Organization) : Bool :=
  db.sees o && o.id == organizationId &&
    (o.stripeCustomerId.isNone || o.stripeCustomerId == some customerId)

/-- `organizations_stripe_customer_idx` lets a customer belong to one organization only. -/
def setStripeCustomer (organizationId : Uuid) (customerId : String) :
    BillingDb × Except PlatformError Unit :=
  if db.organizations.countP (db.linkable organizationId customerId) = 0 then
    (db, .error (.conflict "organization already linked to a different Stripe customer"))
  else if db.organizations.any fun o =>
      o.id != organizationId && o.stripeCustomerId == some customerId then
    (db, .error (.database .uniqueViolation))
  else
    ({ db with
      organizations := db.organizations.map fun o =>
        if db.linkable organizationId customerId o
        then { o with stripeCustomerId := some customerId } else o }, .ok ())

/-- What each call does and answers when nothing goes wrong. -/
def execute (x : Outcome) : (c : BillingCall) → BillingDb × c.Answer
  | .get organizationId => (db, db.get organizationId)
  | .orgForCustomer stripeCustomerId => (db, .ok (db.orgForCustomer stripeCustomerId))
  | .setStripeCustomer organizationId customerId => db.setStripeCustomer organizationId customerId
  | .updatePlan organizationId plan => (db.updatePlan organizationId plan, .ok ())
  | .appendEvent stripeEventId organizationId eventType payload decision =>
    db.appendEvent stripeEventId organizationId eventType payload decision
  | .createCheckoutSession _ => (db, x.session)

def broken (x : Outcome) : (c : BillingCall) → c.Answer
  | .get _ | .orgForCustomer _ | .setStripeCustomer .. | .updatePlan .. | .appendEvent .. =>
    Except.error (PlatformError.database SqlError.connection)
  | .createCheckoutSession _ => x.session

/-- A call that fails has no effect; one whose reply is lost has taken effect. -/
def answer (c : billing.Call) (x : Outcome) : Option (BillingDb × billing.Answer c) :=
  match x.reply with
  | .ok => some (db.execute x c)
  | .failed => some (db, broken x c)
  | .lost => some ((db.execute x c).1, broken x c)

end BillingDb

/-! ## The use cases -/

abbrev Use := ExceptT BillingError (Program billing)

def ask (c : BillingCall) : Program billing c.Answer := Program.perform (I := billing) c

/-- `.await?` on a method of the repository or of Stripe. -/
def awaited {ε α : Type} (convert : ε → BillingError) (p : Program billing (Except ε α)) : Use α :=
  ExceptT.mk (Except.mapError convert <$> p)

def priceIdForPlan : BillingPlan → Option String
  | .free => none
  | .starter => some "price_starter_replace_me"
  | .pro => some "price_pro_replace_me"

/-- `format!("{target_plan:?}").to_lowercase()` -/
def BillingPlan.text : BillingPlan → String
  | .free => "free"
  | .starter => "starter"
  | .pro => "pro"

/-- The two pages that Stripe sends the customer back to. -/
structure CheckoutUrls where
  success : String
  cancel : String

/-- The operations on the plan. -/
inductive PlanOperation where
  | state (organizationId : Uuid)
  | startCheckout (organizationId : Uuid) (targetPlan : BillingPlan) (actorEmail : String)
  | applyCheckoutCompletion (stripeEventId : String) (organizationId : Uuid) (plan : BillingPlan)
      (payload : Json)
  | applySubscriptionCancelled (stripeEventId customerId : String) (payload : Json)

@[reducible]
def PlanOperation.Result : PlanOperation → Type
  | .state _ => OrgBillingState
  | .startCheckout .. => CheckoutSession
  | .applyCheckoutCompletion .. | .applySubscriptionCancelled .. => Unit

def startCheckout (urls : CheckoutUrls) (organizationId : Uuid) (targetPlan : BillingPlan)
    (actorEmail : String) : Use CheckoutSession := do
  match priceIdForPlan targetPlan with
  | none => throw (.forbidden "cannot upgrade to the free plan")
  | some priceId =>
    let state ← awaited .platform (ask (.get organizationId))
    let session ← awaited .stripe (ask (.createCheckoutSession
      { priceId
        successUrl := urls.success
        cancelUrl := urls.cancel
        customerId := state.stripeCustomerId
        customerEmail := if state.stripeCustomerId.isNone then some actorEmail else none
        metadata := [("organization_id", organizationId.text), ("target_plan", targetPlan.text)] }))
    match session.customer with
    | none => return session
    | some customerId =>
      awaited .platform (ask (.setStripeCustomer organizationId customerId))
      return session

/-- A checkout after the state of the organization was read. -/
def checkoutFrom (params : CheckoutSessionParams) (id : Uuid) : Use CheckoutSession := do
  let session ← awaited .stripe (ask (.createCheckoutSession params))
  match session.customer with
  | none => return session
  | some customerId =>
    awaited .platform (ask (.setStripeCustomer id customerId))
    return session

/-- For a plan with a price the checkout starts with the state of the organization. -/
theorem startCheckout_run (urls : CheckoutUrls) (id : Uuid) (actorEmail : String)
    {targetPlan : BillingPlan} {priceId : String} (hprice : priceIdForPlan targetPlan = some priceId) :
    ∃ params : OrgBillingState → CheckoutSessionParams,
      (startCheckout urls id targetPlan actorEmail).run = Program.call (I := billing) (.get id) fun r =>
        match r with
        | .error e => .done (.error (.platform e))
        | .ok state => (checkoutFrom (params state) id).run := by
  refine ⟨fun state =>
    { priceId
      successUrl := urls.success
      cancelUrl := urls.cancel
      customerId := state.stripeCustomerId
      customerEmail := if state.stripeCustomerId.isNone then some actorEmail else none
      metadata := [("organization_id", id.text), ("target_plan", targetPlan.text)] }, ?_⟩
  simp only [startCheckout, hprice]
  refine congrArg (Program.call (I := billing) (.get id)) (funext fun r => ?_)
  rcases r with e | state
  · rfl
  · rfl

def applyCheckoutCompletion (stripeEventId : String) (organizationId : Uuid) (plan : BillingPlan)
    (payload : Json) : Use Unit := do
  awaited .platform (ask (.updatePlan organizationId plan))
  let _ ← awaited .platform (ask (.appendEvent stripeEventId (some organizationId)
    "checkout.session.completed" payload "plan_applied"))

def applySubscriptionCancelled (stripeEventId customerId : String) (payload : Json) : Use Unit := do
  match ← awaited .platform (ask (.orgForCustomer customerId)) with
  | none => return ()
  | some orgId =>
    awaited .platform (ask (.updatePlan orgId .free))
    let _ ← awaited .platform (ask (.appendEvent stripeEventId (some orgId)
      "customer.subscription.deleted" payload "plan_applied"))

def PlanOperation.program (urls : CheckoutUrls) : (op : PlanOperation) → Use op.Result
  | .state organizationId => awaited .platform (ask (.get organizationId))
  | .startCheckout organizationId targetPlan actorEmail =>
    Billing.startCheckout urls organizationId targetPlan actorEmail
  | .applyCheckoutCompletion stripeEventId organizationId plan payload =>
    Billing.applyCheckoutCompletion stripeEventId organizationId plan payload
  | .applySubscriptionCancelled stripeEventId customerId payload =>
    Billing.applySubscriptionCancelled stripeEventId customerId payload

/-! ## Where nothing fails -/

section

variable {db : BillingDb} {xs : Nat → Outcome}

/-- A plan is set and the event recorded, one statement after the other. -/
theorem plan_and_event_replay (hx : ∀ n, (xs n).reply = .ok) (n : Nat) (evt : String) (id : Uuid)
    (plan : BillingPlan) (eventType : String) (payload : Json) :
    (do
      awaited .platform (ask (.updatePlan id plan))
      let _ ← awaited .platform (ask (.appendEvent evt (some id) eventType payload
        "plan_applied")) : Use Unit).run.replay BillingDb.answer xs n db =
      some (((db.updatePlan id plan).appendEvent evt (some id) eventType payload "plan_applied").1,
        (((db.updatePlan id plan).appendEvent evt (some id) eventType payload
          "plan_applied").2.map fun _ => ()).mapError .platform) := by
  show ((BillingDb.answer db (.updatePlan id plan) (xs n)).bind fun (db, r) => _) = _
  rw [BillingDb.answer, hx]
  show ((BillingDb.answer (db.updatePlan id plan) (.appendEvent evt (some id) eventType payload
    "plan_applied") (xs (n + 1))).bind fun (db, r) => _) = _
  rw [BillingDb.answer, hx]
  simp only [BillingDb.execute]
  rcases (db.updatePlan id plan).appendEvent evt (some id) eventType payload "plan_applied" with
    ⟨db', e | written⟩
  · rfl
  · rfl

theorem applyCheckoutCompletion_replay (hx : ∀ n, (xs n).reply = .ok) (evt : String) (id : Uuid)
    (plan : BillingPlan) (payload : Json) :
    (applyCheckoutCompletion evt id plan payload).run.replay BillingDb.answer xs 0 db =
      some ((BillingService.applyCheckoutCompletion db evt id plan payload).1,
        (BillingService.applyCheckoutCompletion db evt id plan payload).2.mapError .platform) :=
  plan_and_event_replay hx 0 evt id plan _ payload

theorem applySubscriptionCancelled_replay (hx : ∀ n, (xs n).reply = .ok) (evt customerId : String)
    (payload : Json) :
    (applySubscriptionCancelled evt customerId payload).run.replay BillingDb.answer xs 0 db =
      some ((BillingService.applySubscriptionCancelled db evt customerId payload).1,
        (BillingService.applySubscriptionCancelled db evt customerId payload).2.mapError
          .platform) := by
  show ((BillingDb.answer db (.orgForCustomer customerId) (xs 0)).bind fun (db, r) => _) = _
  rw [BillingDb.answer, hx]
  simp only [BillingDb.execute, BillingService.applySubscriptionCancelled]
  cases db.orgForCustomer customerId with
  | none => rfl
  | some id => exact plan_and_event_replay hx 1 evt id .free _ payload

end

end Kubinate.Billing
