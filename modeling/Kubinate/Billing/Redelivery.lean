import Kubinate.Billing.Webhook

/-!
# Deliveries that come again

`update_plan` runs before the row of the event is written, and whether the row was written
is not looked at: every delivery of an event sets the plan again.

* `organizations_deliver`: after any deliveries an organization has the plan that the last
  one about it asks for.
* `plans_eq_firstDeliveries_iff`: dropping the retries leads to the same plans exactly when,
  for every organization, the last delivery and the last first delivery ask for the same.
* `not_plans_eq_firstDeliveries`: a late retry undoes a newer event.
-/

namespace Kubinate.Billing

open Platform

section

variable (fromSlice : List UInt8 → Except String Json) (parseUuid : String → Option Uuid)

def deliver (db : BillingDb) (bodies : List (List UInt8)) : BillingDb :=
  bodies.foldl (fun db body => (webhook fromSlice parseUuid db body).1) db

/-- The id of the event in a delivery. -/
def eventId (body : List UInt8) : Option String :=
  match parseEnvelope fromSlice body with
  | .error _ => none
  | .ok (_, stripeEventId, _) => some stripeEventId

/-- The deliveries whose event was not delivered before; `seen` has been delivered already.
A body without an event id is nobody's retry. -/
def firstDeliveriesFrom (seen : List String) : List (List UInt8) → List (List UInt8)
  | [] => []
  | body :: bodies =>
    match eventId fromSlice body with
    | none => body :: firstDeliveriesFrom seen bodies
    | some id =>
      if seen.contains id then firstDeliveriesFrom seen bodies
      else body :: firstDeliveriesFrom (id :: seen) bodies

def firstDeliveries : List (List UInt8) → List (List UInt8) := firstDeliveriesFrom fromSlice []

/-- The plan that a delivery asks for, and for which organization: a completed checkout for
the one in its metadata, a cancelled subscription for the one that the customer is linked
to. -/
def asksFor (orgForCustomer : String → Option Uuid) (body : List UInt8) :
    Option (Uuid × BillingPlan) :=
  match parseEnvelope fromSlice body with
  | .error _ => none
  | .ok (envelope, _, "checkout.session.completed") => (checkoutTarget parseUuid envelope).toOption
  | .ok (envelope, _, "customer.subscription.deleted") =>
    ((customerOf envelope).bind orgForCustomer).map fun id => (id, .free)
  | .ok _ => none

/-- The plan that the last delivery about the organization asks for. -/
def lastAsk (orgForCustomer : String → Option Uuid) (bodies : List (List UInt8)) (id : Uuid) :
    Option BillingPlan :=
  ((bodies.filterMap (asksFor fromSlice parseUuid orgForCustomer)).filter (·.1 == id)).getLast?.map
    (·.2)

end

/-! ## One delivery -/

namespace BillingDb

variable {db : BillingDb}

/-- The plan of each organization. -/
def plans (db : BillingDb) : List (Uuid × BillingPlan) :=
  db.organizations.map fun o => (o.id, o.plan)

@[simp] theorem appendEvent_organizations (stripeEventId : String) (organizationId : Option Uuid)
    (eventType : String) (payload : Json) (decision : String) :
    (db.appendEvent stripeEventId organizationId eventType payload decision).1.organizations =
      db.organizations := by
  unfold appendEvent
  split
  · rfl
  · split <;> rfl

@[simp] theorem appendEvent_enforceRls (stripeEventId : String) (organizationId : Option Uuid)
    (eventType : String) (payload : Json) (decision : String) :
    (db.appendEvent stripeEventId organizationId eventType payload decision).1.enforceRls =
      db.enforceRls := by
  unfold appendEvent
  split
  · rfl
  · split <;> rfl

/-- The rows after somebody asked for a plan. -/
def asked (db : BillingDb) : Option (Uuid × BillingPlan) → List Organization
  | none => db.organizations
  | some (id, plan) => (db.updatePlan id plan).organizations

end BillingDb

section Deliveries

variable {fromSlice : List UInt8 → Except String Json} {parseUuid : String → Option Uuid}
  {db : BillingDb}

/-- A delivery changes the plan it asks for, whether the event is new or not. -/
theorem webhook_organizations (fromSlice : List UInt8 → Except String Json)
    (parseUuid : String → Option Uuid) (db : BillingDb) (body : List UInt8) :
    (webhook fromSlice parseUuid db body).1.organizations =
        db.asked (asksFor fromSlice parseUuid db.orgForCustomer body) ∧
      (webhook fromSlice parseUuid db body).1.enforceRls = db.enforceRls := by
  unfold webhook asksFor
  cases parseEnvelope fromSlice body with
  | error e => exact ⟨rfl, rfl⟩
  | ok p =>
    obtain ⟨envelope, stripeEventId, eventType⟩ := p
    simp only [dispatch]
    split
    · cases htarget : checkoutTarget parseUuid envelope with
      | error e => simp [BillingDb.asked, htarget, Except.toOption]
      | ok target =>
        simp [BillingService.applyCheckoutCompletion, BillingDb.asked, htarget, Except.toOption,
          BillingDb.updatePlan]
    · cases hcustomer : customerOf envelope with
      | none => simp [BillingDb.asked, hcustomer]
      | some customerId =>
        cases hlink : db.orgForCustomer customerId with
        | none =>
          simp [BillingService.applySubscriptionCancelled, BillingDb.asked, hcustomer, hlink]
        | some id =>
          simp [BillingService.applySubscriptionCancelled, BillingDb.asked, hcustomer, hlink,
            BillingDb.updatePlan]
    · simp_all [BillingService.recordEvent, BillingDb.asked]

/-! ## Any deliveries -/

/-- Setting plans leaves the rows, their ids and their customers in place. -/
theorem asked_eq_map (db : BillingDb) (ask : Option (Uuid × BillingPlan)) :
    ∃ f : Organization → Organization, db.asked ask = db.organizations.map f ∧
      ∀ o, (f o).id = o.id ∧ (f o).stripeCustomerId = o.stripeCustomerId := by
  rcases ask with _ | ⟨id, plan⟩
  · exact ⟨id, (List.map_id _).symm, fun o => ⟨rfl, rfl⟩⟩
  · refine ⟨_, rfl, fun o => ?_⟩
    split <;> exact ⟨rfl, rfl⟩

/-- Plans do not matter for finding the organization of a customer. -/
theorem orgForCustomer_asked {db' : BillingDb} {ask : Option (Uuid × BillingPlan)}
    (horgs : db'.organizations = db.asked ask) (hrls : db'.enforceRls = db.enforceRls) :
    db'.orgForCustomer = db.orgForCustomer := by
  obtain ⟨f, hf, hkey⟩ := asked_eq_map db ask
  funext customerId
  simp only [BillingDb.orgForCustomer, BillingDb.sees, horgs, hf, hrls, List.find?_map,
    Option.map_map, Function.comp_def, hkey]

theorem lastAsk_cons (link : String → Option Uuid) (body : List UInt8) (bodies : List (List UInt8))
    (id : Uuid) :
    lastAsk fromSlice parseUuid link (body :: bodies) id =
      (lastAsk fromSlice parseUuid link bodies id).or
        ((asksFor fromSlice parseUuid link body).bind fun p =>
          if p.1 == id then some p.2 else none) := by
  unfold lastAsk
  rw [List.filterMap_cons]
  cases asksFor fromSlice parseUuid link body with
  | none => simp
  | some p =>
    simp only [List.filter_cons, Option.bind_some]
    split
    · rw [List.getLast?_cons]
      cases (List.filter (fun x => x.1 == id) (List.filterMap (asksFor fromSlice parseUuid link)
        bodies)).getLast? <;> rfl
    · simp

/-- Every organization ends with the plan that the last delivery about it asks for. -/
theorem organizations_deliver (bodies : List (List UInt8)) :
    (deliver fromSlice parseUuid db bodies).organizations = db.organizations.map fun o =>
      if db.sees o then
        { o with plan := (lastAsk fromSlice parseUuid db.orgForCustomer bodies o.id).getD o.plan }
      else o := by
  induction bodies generalizing db with
  | nil =>
    refine ((List.map_congr_left fun o _ => ?_).trans (List.map_id _)).symm
    split <;> rfl
  | cons body bodies ih =>
    obtain ⟨horgs, hrls⟩ := webhook_organizations fromSlice parseUuid db body
    show (deliver fromSlice parseUuid (webhook fromSlice parseUuid db body).1 bodies).organizations = _
    rw [ih, orgForCustomer_asked horgs hrls, horgs]
    simp only [lastAsk_cons, BillingDb.sees, hrls]
    cases asksFor fromSlice parseUuid db.orgForCustomer body with
    | none => simp [BillingDb.asked]
    | some p =>
      simp only [BillingDb.asked, BillingDb.updatePlan, List.map_map, Option.bind_some]
      refine List.map_congr_left fun o _ => ?_
      simp only [Function.comp_def, BillingDb.sees]
      by_cases hsees : (!db.enforceRls || o.id == Uuid.nil) = true
      · by_cases hid : p.1 = o.id
        · cases hlast : lastAsk fromSlice parseUuid db.orgForCustomer bodies o.id <;> simp_all
        · simp_all [Ne.symm hid]
      · simp_all

/-- The plans come out as if no event had been delivered twice exactly when, for every
organization that the connection sees, the last delivery about it asks for the plan that the
last of the first deliveries about it asks for. (Where there is none, the plan it had stands
for it.) -/
theorem plans_eq_firstDeliveries_iff (bodies : List (List UInt8)) :
    (deliver fromSlice parseUuid db bodies).plans =
        (deliver fromSlice parseUuid db (firstDeliveries fromSlice bodies)).plans ↔
      ∀ o ∈ db.organizations, db.sees o = true →
        (lastAsk fromSlice parseUuid db.orgForCustomer bodies o.id).getD o.plan =
          (lastAsk fromSlice parseUuid db.orgForCustomer (firstDeliveries fromSlice bodies)
            o.id).getD o.plan := by
  simp only [BillingDb.plans, organizations_deliver, List.map_map, List.map_inj_left]
  refine forall₂_congr fun o _ => ?_
  by_cases hsees : db.sees o = true
  · simp [hsees]
  · simp [hsees]

end Deliveries

/-! ## A late retry -/

/-- The event of a completed checkout of organization 7. -/
def checkoutCompleted (id plan : String) : Json :=
  .object [("id", .string id), ("type", .string "checkout.session.completed"),
    ("data", .object [("object", .object [("metadata", .object
      [("organization_id", .string "00000000-0000-0000-0000-000000000007"),
        ("target_plan", .string plan)])])])]

/-- Its text, as Stripe sends it. -/
def checkoutBody (id plan : String) : List UInt8 :=
  ("\x7b\"id\":\"" ++ id ++ "\",\"type\":\"checkout.session.completed\",\"data\":\x7b\"object\":" ++
    "\x7b\"metadata\":\x7b\"organization_id\":\"00000000-0000-0000-0000-000000000007\"," ++
    "\"target_plan\":\"" ++ plan ++ "\"\x7d\x7d\x7d\x7d").toList.map fun c => UInt8.ofNat c.toNat

/-- The parser at the two deliveries below. -/
def twoEvents (body : List UInt8) : Except String Json :=
  if body = checkoutBody "evt_1" "starter" then .ok (checkoutCompleted "evt_1" "starter")
  else if body = checkoutBody "evt_2" "pro" then .ok (checkoutCompleted "evt_2" "pro")
  else .error "expected value at line 1 column 1"

def oneUuid (text : String) : Option Uuid :=
  if text = "00000000-0000-0000-0000-000000000007" then some 7 else none

def oneOrganization : BillingDb where
  organizations := [⟨7, .free, some "cus_7"⟩]
  events := []
  enforceRls := false

/-- Starter, then pro, then the starter event once more: the organization is back on
starter. -/
theorem not_plans_eq_firstDeliveries :
    ¬ ∀ (fromSlice : List UInt8 → Except String Json) (parseUuid : String → Option Uuid)
      (db : BillingDb) (bodies : List (List UInt8)),
      (deliver fromSlice parseUuid db bodies).plans =
        (deliver fromSlice parseUuid db (firstDeliveries fromSlice bodies)).plans := by
  intro h
  have hplans := h twoEvents oneUuid oneOrganization
    [checkoutBody "evt_1" "starter", checkoutBody "evt_2" "pro", checkoutBody "evt_1" "starter"]
  revert hplans
  decide +kernel

end Kubinate.Billing
