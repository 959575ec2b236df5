import Kubinate.Platform.Types

/-!
# The billing webhook

The receiver of Stripe's deliveries: the handler `webhook` of `crates/api/src/billing.rs`
from the point where the signature has been verified, the use cases of
`crates/billing/src/service.rs` it calls, and their repository over `organizations` and
`subscription_events`.

The JSON parser and the parser of UUIDs are parameters. The database does not fail here; it
still refuses an event row for an organization that does not exist.
-/

namespace Kubinate.Billing

open Platform

/-- `serde_json::Value`. An object has each of its keys once. -/
inductive Json where
  | null
  | bool (value : Bool)
  | number (literal : String)
  | string (text : String)
  | array (items : List Json)
  | object (members : List (String × Json))

namespace Json

/-- `Value::get` with a string index. -/
def get (key : String) : Json → Option Json
  | .object members => (members.find? (·.1 == key)).map (·.2)
  | _ => none

def asStr : Json → Option String
  | .string text => some text
  | _ => none

end Json

/-- The SQL enum `billing_plan`. -/
inductive BillingPlan where
  | free
  | starter
  | pro
deriving DecidableEq, Repr

/-- `serde_json::from_value` at `BillingPlan`. -/
def BillingPlan.fromValue : String → Option BillingPlan
  | "free" => some .free
  | "starter" => some .starter
  | "pro" => some .pro
  | _ => none

/-- A row of `organizations`, the columns of billing. -/
structure Organization where
  id : Uuid
  plan : BillingPlan
  stripeCustomerId : Option String
deriving DecidableEq, Repr

/-- A row of `subscription_events`. -/
structure SubscriptionEvent where
  stripeEventId : String
  organizationId : Option Uuid
  eventType : String
  payload : Json
  decision : String

/-- The tables as the webhook's connection reaches them. It sets no tenant, so with
row-level security in force it sees the organization with the nil id only. -/
structure BillingDb where
  organizations : List Organization
  events : List SubscriptionEvent
  enforceRls : Bool

/-! ## The repository -/

namespace BillingDb

def sees (db : BillingDb) (o : Organization) : Bool := !db.enforceRls || o.id == Uuid.nil

def orgForCustomer (db : BillingDb) (stripeCustomerId : String) : Option Uuid :=
  (db.organizations.find? fun o =>
    db.sees o && o.stripeCustomerId == some stripeCustomerId).map (·.id)

def updatePlan (db : BillingDb) (organizationId : Uuid) (plan : BillingPlan) : BillingDb :=
  { db with
    organizations := db.organizations.map fun o =>
      if db.sees o && o.id == organizationId then { o with plan := plan } else o }

/-- `ON CONFLICT (stripe_event_id) DO NOTHING`; whether the row was written. -/
def appendEvent (db : BillingDb) (stripeEventId : String) (organizationId : Option Uuid)
    (eventType : String) (payload : Json) (decision : String) :
    BillingDb × Except PlatformError Bool :=
  if db.events.any (·.stripeEventId == stripeEventId) then (db, .ok false)
  else if organizationId.any fun id => db.organizations.all (·.id != id) then
    (db, .error (.database .foreignKeyViolation))
  else
    ({ db with events := db.events ++ [⟨stripeEventId, organizationId, eventType, payload,
        decision⟩] }, .ok true)

end BillingDb

/-! ## The use cases -/

namespace BillingService

def applyCheckoutCompletion (db : BillingDb) (stripeEventId : String) (organizationId : Uuid)
    (plan : BillingPlan) (payload : Json) : BillingDb × Except PlatformError Unit :=
  let db := db.updatePlan organizationId plan
  let (db, written) := db.appendEvent stripeEventId (some organizationId)
    "checkout.session.completed" payload "plan_applied"
  (db, written.map fun _ => ())

def applySubscriptionCancelled (db : BillingDb) (stripeEventId customerId : String)
    (payload : Json) : BillingDb × Except PlatformError Unit :=
  match db.orgForCustomer customerId with
  | none => (db, .ok ())
  | some organizationId =>
    let db := db.updatePlan organizationId .free
    let (db, written) := db.appendEvent stripeEventId (some organizationId)
      "customer.subscription.deleted" payload "plan_applied"
    (db, written.map fun _ => ())

def recordEvent (db : BillingDb) (stripeEventId eventType : String) (customerId : Option String)
    (payload : Json) : BillingDb × Except PlatformError Bool :=
  db.appendEvent stripeEventId (customerId.bind db.orgForCustomer) eventType payload "processed"

end BillingService

/-! ## The handler -/

section Handler

variable (fromSlice : List UInt8 → Except String Json) (parseUuid : String → Option Uuid)

/-- `.ok_or_else(|| PlatformError::Invalid(..))` -/
def required {α : Type} (message : String) : Option α → Except PlatformError α
  | some a => .ok a
  | none => .error (.invalid message)

/-- What a completed checkout is for: the organization and the plan in its metadata. -/
def checkoutTarget (envelope : Json) : Except PlatformError (Uuid × BillingPlan) := do
  let obj ← required "missing data.object" ((envelope.get "data").bind (·.get "object"))
  let metadata ← required "missing metadata" (obj.get "metadata")
  let orgId ← required "missing or invalid metadata.organization_id"
    (((metadata.get "organization_id").bind (·.asStr)).bind parseUuid)
  let plan ← required "missing or invalid metadata.target_plan"
    (((metadata.get "target_plan").bind (·.asStr)).bind BillingPlan.fromValue)
  return (orgId, plan)

def customerOf (envelope : Json) : Option String :=
  (((envelope.get "data").bind (·.get "object")).bind (·.get "customer")).bind (·.asStr)

/-- The body as JSON with the id and the type of the event. -/
def parseEnvelope (body : List UInt8) : Except PlatformError (Json × String × String) := do
  let envelope ← (fromSlice body).mapError fun e => .invalid ("invalid json: " ++ e)
  let stripeEventId ← required "missing event id" ((envelope.get "id").bind (·.asStr))
  let eventType ← required "missing event type" ((envelope.get "type").bind (·.asStr))
  return (envelope, stripeEventId, eventType)

/-- What the handler does with an envelope, by the type of the event. -/
def dispatch (db : BillingDb) (envelope : Json) (stripeEventId eventType : String) :
    BillingDb × Except PlatformError Unit :=
  let customerId := customerOf envelope
  match eventType with
  | "checkout.session.completed" =>
    match checkoutTarget parseUuid envelope with
    | .error e => (db, .error e)
    | .ok (orgId, plan) =>
      BillingService.applyCheckoutCompletion db stripeEventId orgId plan envelope
  | "customer.subscription.deleted" =>
    match customerId with
    | none => (db, .ok ())
    | some cid => BillingService.applySubscriptionCancelled db stripeEventId cid envelope
  | _ =>
    let (db, written) := BillingService.recordEvent db stripeEventId eventType customerId envelope
    (db, written.map fun _ => ())

/-- A delivery whose signature has been verified. -/
def webhook (db : BillingDb) (body : List UInt8) : BillingDb × Except PlatformError Unit :=
  match parseEnvelope fromSlice body with
  | .error e => (db, .error e)
  | .ok (envelope, stripeEventId, eventType) =>
    dispatch parseUuid db envelope stripeEventId eventType

end Handler

end Kubinate.Billing
