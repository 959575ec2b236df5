import Kubinate.Billing.EventLog
import Kubinate.Billing.Plans

/-!
# Cancellations

A cancelled subscription names a customer of Stripe. The organization is found through the
customer that is stored with it, and the only statement that stores one is at the start of a
checkout, where Stripe's answer may already carry the customer. For a customer that Stripe
creates during the checkout it does not; the completed checkout carries it, and that delivery
sets the plan only.

* `linked_after`: the customers stored after any history are those stored before it and those
  that a start of a checkout has stored.
* `cancellation_reaches_iff`: a cancellation reaches the organization exactly if it is linked
  to the customer in this way, or there is nothing to change.
* `not_cancellation_reaches`: the first checkout of a new customer.
-/

namespace Kubinate.Billing

open Platform Library

namespace BillingDb

variable (db : BillingDb)

/-- The unique index on `stripe_customer_id`. -/
def UniqueCustomers : Prop :=
  ∀ o ∈ db.organizations, ∀ o' ∈ db.organizations, ∀ customerId,
    o.stripeCustomerId = some customerId → o'.stripeCustomerId = some customerId → o.id = o'.id

/-- The organization is linked to the customer, where the connection sees it. -/
def Linked (organizationId : Uuid) (customerId : String) : Prop :=
  ∃ o ∈ db.organizations, db.sees o = true ∧ o.id = organizationId ∧
    o.stripeCustomerId = some customerId

variable {db}

theorem orgForCustomer_eq_some_iff (h : db.UniqueCustomers) {organizationId : Uuid}
    {customerId : String} :
    db.orgForCustomer customerId = some organizationId ↔ db.Linked organizationId customerId := by
  rw [orgForCustomer, Option.map_eq_some_iff]
  constructor
  · rintro ⟨o, hfind, rfl⟩
    have hfound := List.find?_some hfind
    rw [Bool.and_eq_true, beq_iff_eq] at hfound
    exact ⟨o, List.mem_of_find?_eq_some hfind, hfound.1, rfl, hfound.2⟩
  · rintro ⟨o, ho, hsees, rfl, hcustomer⟩
    cases hfind : db.organizations.find? fun o =>
        db.sees o && o.stripeCustomerId == some customerId with
    | none =>
      have hnot := List.find?_eq_none.mp hfind o ho
      rw [hsees, hcustomer] at hnot
      exact absurd (beq_self_eq_true (some customerId)) hnot
    | some o' =>
      have hfound := List.find?_some hfind
      rw [Bool.and_eq_true, beq_iff_eq] at hfound
      exact ⟨o', rfl, h o' (List.mem_of_find?_eq_some hfind) o ho customerId hfound.2 hcustomer⟩

/-! ## Storing a customer -/

theorem linkable_iff {organizationId : Uuid} {customerId : String} {o : Organization} :
    db.linkable organizationId customerId o = true ↔
      db.sees o = true ∧ o.id = organizationId ∧
        (o.stripeCustomerId = none ∨ o.stripeCustomerId = some customerId) := by
  simp [linkable, and_assoc]

/-- Everything that the statement can do: it is refused and changes nothing, or it stores the
customer, which no other organization has. -/
theorem setStripeCustomer_cases (db : BillingDb) (organizationId : Uuid) (customerId : String) :
    (db.setStripeCustomer organizationId customerId).1 = db ∧
        (db.setStripeCustomer organizationId customerId).2 ≠ .ok () ∨
      (db.setStripeCustomer organizationId customerId).2 = .ok () ∧
        (db.setStripeCustomer organizationId customerId).1 =
          { db with
            organizations := db.organizations.map fun o =>
              if db.linkable organizationId customerId o
              then { o with stripeCustomerId := some customerId } else o } ∧
        (∃ o ∈ db.organizations, db.linkable organizationId customerId o = true) ∧
        ∀ o ∈ db.organizations, o.stripeCustomerId = some customerId → o.id = organizationId := by
  rw [setStripeCustomer]
  by_cases hnone : db.organizations.countP (db.linkable organizationId customerId) = 0
  · rw [if_pos hnone]
    exact .inl ⟨rfl, nofun⟩
  · rw [if_neg hnone]
    by_cases htaken : (db.organizations.any fun o =>
        o.id != organizationId && o.stripeCustomerId == some customerId) = true
    · rw [if_pos htaken]
      exact .inl ⟨rfl, nofun⟩
    · rw [if_neg htaken]
      refine .inr ⟨rfl, rfl, List.countP_pos_iff.mp (Nat.pos_of_ne_zero hnone), ?_⟩
      intro o ho hcustomer
      by_contra hid
      refine htaken (List.any_eq_true.mpr ⟨o, ho, ?_⟩)
      simp [hid, hcustomer]

theorem uniqueCustomers_setStripeCustomer (h : db.UniqueCustomers) (organizationId : Uuid)
    (customerId : String) : (db.setStripeCustomer organizationId customerId).1.UniqueCustomers := by
  rcases db.setStripeCustomer_cases organizationId customerId with
    ⟨hsame, -⟩ | ⟨-, hnew, -, halone⟩
  · rw [hsame]
    exact h
  · -- a row with the customer afterwards has had it, or is the one that gets it
    have hrow : ∀ o ∈ (db.setStripeCustomer organizationId customerId).1.organizations,
        ∃ o₀ ∈ db.organizations, o₀.id = o.id ∧
          (o.stripeCustomerId = o₀.stripeCustomerId ∨
            o.stripeCustomerId = some customerId ∧ o₀.id = organizationId) := by
      intro o ho
      rw [hnew] at ho
      obtain ⟨o₀, ho₀, rfl⟩ := List.mem_map.mp ho
      split
      · next hlinkable =>
        exact ⟨o₀, ho₀, rfl, .inr ⟨rfl, (linkable_iff.mp hlinkable).2.1⟩⟩
      · exact ⟨o₀, ho₀, rfl, .inl rfl⟩
    intro o ho o' ho' c hc hc'
    obtain ⟨o₀, ho₀, hid, hcase⟩ := hrow o ho
    obtain ⟨o₀', ho₀', hid', hcase'⟩ := hrow o' ho'
    rw [← hid, ← hid']
    rcases hcase with hsame | ⟨hnewc, hat⟩ <;> rcases hcase' with hsame' | ⟨hnewc', hat'⟩
    · exact h o₀ ho₀ o₀' ho₀' c (hsame ▸ hc) (hsame' ▸ hc')
    · have hcc : c = customerId := Option.some.inj (hc'.symm.trans hnewc')
      rw [hat', halone o₀ ho₀ (hcc ▸ hsame ▸ hc)]
    · have hcc : c = customerId := Option.some.inj (hc.symm.trans hnewc)
      rw [hat, halone o₀' ho₀' (hcc ▸ hsame' ▸ hc')]
    · rw [hat, hat']

/-- The statement stores one link, and no link is ever lost. -/
theorem linked_setStripeCustomer (organizationId : Uuid) (customerId : String) (id : Uuid)
    (c : String) :
    (db.setStripeCustomer organizationId customerId).1.Linked id c ↔
      db.Linked id c ∨
        (db.setStripeCustomer organizationId customerId).2 = .ok () ∧ organizationId = id ∧
          customerId = c := by
  rcases db.setStripeCustomer_cases organizationId customerId with
    ⟨hsame, hrefused⟩ | ⟨hok, hnew, ⟨row, hrow, hlinkable⟩, -⟩
  · rw [hsame]
    simp [hrefused]
  · rw [hnew]
    constructor
    · rintro ⟨o, ho, hsees, hid, hc⟩
      obtain ⟨o₀, ho₀, rfl⟩ := List.mem_map.mp ho
      by_cases hl : db.linkable organizationId customerId o₀ = true
      · rw [if_pos hl] at hid hc
        exact .inr ⟨hok, (linkable_iff.mp hl).2.1.symm.trans hid, Option.some.inj hc⟩
      · rw [if_neg hl] at hsees hid hc
        exact .inl ⟨o₀, ho₀, hsees, hid, hc⟩
    · rintro (⟨o, ho, hsees, hid, hc⟩ | ⟨-, rfl, rfl⟩)
      · refine ⟨_, List.mem_map.mpr ⟨o, ho, rfl⟩, ?_⟩
        by_cases hl : db.linkable organizationId customerId o = true
        · rw [if_pos hl]
          obtain ⟨-, -, hfree | hsame⟩ := linkable_iff.mp hl
          · rw [hfree] at hc
            cases hc
          · exact ⟨hsees, hid, hsame.symm.trans hc⟩
        · rw [if_neg hl]
          exact ⟨hsees, hid, hc⟩
      · refine ⟨_, List.mem_map.mpr ⟨row, hrow, rfl⟩, ?_⟩
        rw [if_pos hlinkable]
        obtain ⟨hsees, hid, -⟩ := linkable_iff.mp hlinkable
        exact ⟨hsees, hid, rfl⟩

end BillingDb

/-! ## Histories -/

/-- What happens to an organization's billing. `xs` is how the calls of the checkout go and
what Stripe answers. -/
inductive Happening where
  | startCheckout (organizationId : Uuid) (targetPlan : BillingPlan) (actorEmail : String)
      (xs : Nat → Outcome)
  | delivery (body : List UInt8)

section

variable (fromSlice : List UInt8 → Except String Json) (parseUuid : String → Option Uuid)
  (urls : CheckoutUrls)

def Happening.apply (db : BillingDb) : Happening → BillingDb
  | .startCheckout organizationId targetPlan actorEmail xs =>
    (((Billing.startCheckout urls organizationId targetPlan actorEmail).run.replay BillingDb.answer xs 0
      db).map (·.1)).getD db
  | .delivery body => (webhook fromSlice parseUuid db body).1

def after (history : List Happening) (db : BillingDb) : BillingDb :=
  history.foldl (Happening.apply fromSlice parseUuid urls) db

/-- The customer that a start of a checkout asks to be stored: the plan has a price, the
organization was read, and Stripe's answer carries the customer. The statement takes effect
unless it fails. -/
def asksToStore (db : BillingDb) (organizationId : Uuid) (targetPlan : BillingPlan)
    (xs : Nat → Outcome) : Option String :=
  if targetPlan ≠ .free ∧ (xs 0).reply = .ok ∧ (db.get organizationId).isOk = true ∧
      (xs 2).reply ≠ .failed then
    (xs 1).session.toOption.bind (·.customer)
  else none

/-- The happening stores the link. -/
def Happening.Stores (db : BillingDb) (id : Uuid) (customerId : String) : Happening → Prop
  | .startCheckout organizationId targetPlan _ xs =>
    organizationId = id ∧ asksToStore db organizationId targetPlan xs = some customerId ∧
      (db.setStripeCustomer organizationId customerId).2 = .ok ()
  | .delivery _ => False

/-- Some happening of the history stores the link. -/
def StoredIn (id : Uuid) (customerId : String) : List Happening → BillingDb → Prop
  | [], _ => False
  | h :: hs, db => h.Stores db id customerId ∨ StoredIn id customerId hs
      (h.apply fromSlice parseUuid urls db)

end

section

variable {fromSlice : List UInt8 → Except String Json} {parseUuid : String → Option Uuid}
  {urls : CheckoutUrls} {db : BillingDb} {id : Uuid} {customerId : String}

/-- What a checkout does after the organization was read. -/
theorem checkoutFrom_replay (params : CheckoutSessionParams) (organizationId : Uuid)
    (xs : Nat → Outcome) (n : Nat) :
    ((checkoutFrom params organizationId).run.replay BillingDb.answer xs n db).map (·.1) =
      match (xs n).session.toOption.bind (·.customer) with
      | none => some db
      | some customerId =>
        if (xs (n + 1)).reply = .failed then some db
        else some (db.setStripeCustomer organizationId customerId).1 := by
  -- Stripe's answer is the same however the call goes
  have hsession : BillingDb.answer db (.createCheckoutSession params) (xs n) =
      some (db, (xs n).session) := by
    rw [BillingDb.answer]
    cases (xs n).reply <;> rfl
  show ((BillingDb.answer db (.createCheckoutSession params) (xs n)).bind fun p => _).map _ = _
  rw [hsession, Option.bind_some]
  rcases (xs n).session with e | ⟨url, _ | customerId⟩
  · rfl
  · rfl
  · show ((BillingDb.answer db (.setStripeCustomer organizationId customerId) (xs (n + 1))).bind
      fun p => _).map _ = if (xs (n + 1)).reply = .failed then some db
        else some (db.setStripeCustomer organizationId customerId).1
    rw [BillingDb.answer]
    cases (xs (n + 1)).reply with
    | failed => rfl
    | lost => rfl
    | ok =>
      simp only [BillingDb.execute]
      rcases db.setStripeCustomer organizationId customerId with ⟨db', e | u⟩
      · rfl
      · rfl

/-- A start of a checkout changes the stored customer, and nothing else. -/
theorem apply_startCheckout (organizationId : Uuid) (targetPlan : BillingPlan) (actorEmail : String)
    (xs : Nat → Outcome) :
    (Happening.startCheckout organizationId targetPlan actorEmail xs).apply fromSlice parseUuid urls
        db =
      match asksToStore db organizationId targetPlan xs with
      | none => db
      | some customerId => (db.setStripeCustomer organizationId customerId).1 := by
  rw [Happening.apply, asksToStore]
  cases hprice : priceIdForPlan targetPlan with
  | none =>
    have hfree : targetPlan = .free := by
      cases targetPlan <;> first | rfl | cases hprice
    subst hfree
    rfl
  | some priceId =>
    have hpaid : targetPlan ≠ .free := by
      rintro rfl
      cases hprice
    obtain ⟨params, hrun⟩ := startCheckout_run urls organizationId actorEmail hprice
    rw [hrun, Program.replay, BillingDb.answer]
    cases (xs 0).reply with
    | failed | lost => simp [BillingDb.execute, BillingDb.broken, Program.replay]
    | ok =>
      cases hget : db.get organizationId with
      | error e => simp [hget, BillingDb.execute, Program.replay, Except.isOk, Except.toBool]
      | ok state =>
        simp only [BillingDb.execute, hget, Option.bind_some, checkoutFrom_replay]
        by_cases hfailed : (xs 2).reply = .failed
        · simp only [hfailed]
          cases (xs 1).session.toOption.bind (·.customer) <;> simp
        · simp only [hfailed, Except.isOk, Except.toBool]
          cases (xs 1).session.toOption.bind (·.customer) <;> simp [hpaid, hfailed]

theorem uniqueCustomers_of_map (h : db.UniqueCustomers) {db' : BillingDb}
    {f : Organization → Organization} (horgs : db'.organizations = db.organizations.map f)
    (hf : ∀ o, (f o).id = o.id ∧ (f o).stripeCustomerId = o.stripeCustomerId) :
    db'.UniqueCustomers := by
  intro o ho o' ho' c hc hc'
  rw [horgs] at ho ho'
  obtain ⟨o, hmem, rfl⟩ := List.mem_map.mp ho
  obtain ⟨o', hmem', rfl⟩ := List.mem_map.mp ho'
  rw [(hf o).1, (hf o').1]
  exact h o hmem o' hmem' c ((hf o).2.symm.trans hc) ((hf o').2.symm.trans hc')

variable (fromSlice parseUuid urls)

/-- A delivery leaves the stored customers as they are. -/
theorem linked_webhook (h : db.UniqueCustomers) (body : List UInt8) (id : Uuid)
    (customerId : String) :
    let db' := (webhook fromSlice parseUuid db body).1
    db'.UniqueCustomers ∧ (db'.Linked id customerId ↔ db.Linked id customerId) := by
  intro db'
  obtain ⟨horgs, hrls⟩ := webhook_organizations fromSlice parseUuid db body
  obtain ⟨f, hf, hkey⟩ := asked_eq_map db (asksFor fromSlice parseUuid db.orgForCustomer body)
  have hunique : db'.UniqueCustomers := uniqueCustomers_of_map h (horgs.trans hf) hkey
  refine ⟨hunique, ?_⟩
  rw [← BillingDb.orgForCustomer_eq_some_iff hunique, ← BillingDb.orgForCustomer_eq_some_iff h,
    orgForCustomer_asked horgs hrls]

theorem linked_apply (h : db.UniqueCustomers) (happening : Happening) (id : Uuid)
    (customerId : String) :
    let db' := happening.apply fromSlice parseUuid urls db
    db'.UniqueCustomers ∧
      (db'.Linked id customerId ↔ db.Linked id customerId ∨ happening.Stores db id customerId) := by
  cases happening with
  | startCheckout organizationId targetPlan actorEmail xs =>
    simp only [apply_startCheckout, Happening.Stores]
    cases asksToStore db organizationId targetPlan xs with
    | none => exact ⟨h, by simp⟩
    | some c =>
      refine ⟨BillingDb.uniqueCustomers_setStripeCustomer h organizationId c,
        (BillingDb.linked_setStripeCustomer organizationId c id customerId).trans
          (or_congr_right ?_)⟩
      constructor
      · rintro ⟨hok, hid, rfl⟩
        exact ⟨hid, rfl, hok⟩
      · rintro ⟨hid, hc, hok⟩
        cases hc
        exact ⟨hok, hid, rfl⟩
  | delivery body =>
    obtain ⟨hunique, hlinked⟩ := linked_webhook fromSlice parseUuid h body id customerId
    exact ⟨hunique, hlinked.trans (or_iff_left fun hstores => hstores).symm⟩

/-- The links after a history. -/
theorem linked_after (h : db.UniqueCustomers) (history : List Happening) (id : Uuid)
    (customerId : String) :
    let db' := after fromSlice parseUuid urls history db
    db'.UniqueCustomers ∧ (db'.Linked id customerId ↔
      db.Linked id customerId ∨ StoredIn fromSlice parseUuid urls id customerId history db) := by
  induction history generalizing db with
  | nil => exact ⟨h, by simp [after, StoredIn]⟩
  | cons happening history ih =>
    obtain ⟨hunique, hlinked⟩ := linked_apply fromSlice parseUuid urls h happening id customerId
    obtain ⟨hunique', hlinked'⟩ := ih hunique
    refine ⟨hunique', hlinked'.trans ?_⟩
    rw [hlinked, or_assoc]
    rfl

end

/-! ## Cancellations -/

namespace BillingDb

variable (db : BillingDb)

/-- The plans once the organization is on the free plan. -/
def downgraded (id : Uuid) : List (Uuid × BillingPlan) :=
  db.plans.map fun p => if p.1 = id then (p.1, .free) else p

def OnFree (id : Uuid) : Prop := ∀ o ∈ db.organizations, o.id = id → o.plan = .free

variable {db}

theorem plans_eq_downgraded_iff (id : Uuid) : db.plans = db.downgraded id ↔ db.OnFree id := by
  simp only [plans, downgraded, OnFree, List.map_map, List.map_inj_left]
  refine forall₂_congr fun o _ => ?_
  by_cases hid : o.id = id
  · simp [hid]
  · simp [hid]

/-- Somebody is put on the free plan. -/
theorem updatePlan_eq_downgraded_iff {found : Uuid} (hsees : ∀ o ∈ db.organizations,
    o.id = found → db.sees o = true) (id : Uuid) :
    (db.updatePlan found .free).plans = db.downgraded id ↔
      found = id ∨ db.OnFree found ∧ db.OnFree id := by
  have hplans : (db.updatePlan found .free).plans = db.downgraded found := by
    simp only [plans, downgraded, updatePlan, List.map_map, List.map_inj_left]
    intro o ho
    by_cases hid : o.id = found
    · simp [hid, hsees o ho hid]
    · simp [hid]
  rw [hplans]
  by_cases heq : found = id
  · simp [heq]
  · simp only [plans, downgraded, OnFree, List.map_map, List.map_inj_left, heq, false_or]
    constructor
    · intro h
      constructor
      · intro o ho hid
        have hne : ¬ o.id = id := fun h' => heq (hid.symm.trans h')
        simpa [hid, hne, heq, eq_comm] using h o ho
      · intro o ho hid
        have hne : ¬ o.id = found := fun h' => heq (h'.symm.trans hid)
        simpa [hid, Ne.symm heq] using h o ho
    · rintro ⟨hfound, hfree⟩ o ho
      have hfound := hfound o ho
      have hfree := hfree o ho
      by_cases hid : o.id = found <;> by_cases hid' : o.id = id <;> simp_all

end BillingDb

section

variable {fromSlice : List UInt8 → Except String Json} {parseUuid : String → Option Uuid}
  {urls : CheckoutUrls} {db : BillingDb}

/-- After any history the subscription of a customer is cancelled. The organization ends on the
free plan, with all other plans as they were, exactly if it is linked to the customer (from the
beginning, or since some start of a checkout has stored the customer), or it is on the free
plan already and so is whoever is linked to the customer. -/
theorem cancellation_reaches_iff (h : db.UniqueCustomers) (history : List Happening)
    {body : List UInt8} {envelope : Json} {stripeEventId customerId : String}
    (hbody : parseEnvelope fromSlice body =
      .ok (envelope, stripeEventId, "customer.subscription.deleted"))
    (hcustomer : customerOf envelope = some customerId) (id : Uuid) :
    let before := after fromSlice parseUuid urls history db
    let linked := fun id => db.Linked id customerId ∨
      StoredIn fromSlice parseUuid urls id customerId history db
    (webhook fromSlice parseUuid before body).1.plans = before.downgraded id ↔
      linked id ∨ before.OnFree id ∧ ∀ found, linked found → before.OnFree found := by
  intro before linked
  have hunique : before.UniqueCustomers :=
    (linked_after fromSlice parseUuid urls h history id customerId).1
  have hlinked : ∀ found, linked found ↔ before.orgForCustomer customerId = some found := by
    intro found
    rw [BillingDb.orgForCustomer_eq_some_iff hunique]
    exact (linked_after fromSlice parseUuid urls h history found customerId).2.symm
  have hasks : asksFor fromSlice parseUuid before.orgForCustomer body =
      (before.orgForCustomer customerId).map fun id => (id, .free) := by
    rw [asksFor, hbody]
    simp [hcustomer]
  rw [BillingDb.plans, (webhook_organizations fromSlice parseUuid before body).1, hasks]
  simp only [hlinked]
  cases hfind : before.orgForCustomer customerId with
  | none =>
    show before.plans = before.downgraded id ↔ _
    simp [BillingDb.plans_eq_downgraded_iff]
  | some found =>
    show (before.updatePlan found .free).plans = before.downgraded id ↔ _
    -- the rows are seen by their ids
    have hsees : ∀ o ∈ before.organizations, o.id = found → before.sees o = true := by
      obtain ⟨row, -, hsees, hid, -⟩ := (BillingDb.orgForCustomer_eq_some_iff hunique).mp hfind
      intro o _ ho
      rw [BillingDb.sees, ho, ← hid]
      exact hsees
    rw [BillingDb.updatePlan_eq_downgraded_iff hsees]
    simp [and_comm]

end

/-! ## A new customer -/

/-- The event of a completed checkout of organization 7, for the plan starter, by customer
`cus_7`. -/
def paidCheckout : Json :=
  .object [("id", .string "evt_0"), ("type", .string "checkout.session.completed"),
    ("data", .object [("object", .object [("customer", .string "cus_7"), ("metadata", .object
      [("organization_id", .string "00000000-0000-0000-0000-000000000007"),
        ("target_plan", .string "starter")])])])]

/-- Its text, as Stripe sends it. -/
def paidCheckoutBody : List UInt8 :=
  ("\x7b\"id\":\"evt_0\",\"type\":\"checkout.session.completed\",\"data\":\x7b\"object\":" ++
    "\x7b\"customer\":\"cus_7\",\"metadata\":\x7b\"organization_id\":" ++
    "\"00000000-0000-0000-0000-000000000007\",\"target_plan\":\"starter\"" ++
    "\x7d\x7d\x7d\x7d").toList.map fun c => UInt8.ofNat c.toNat

/-- The parser at the checkout and at cancellations. -/
def checkoutAndCancellation (body : List UInt8) : Except String Json :=
  if body = paidCheckoutBody then .ok paidCheckout else twoCancellations body

def newOrganization : BillingDb := { oneOrganization with organizations := [⟨7, .free, none⟩] }

def dashboard : CheckoutUrls := ⟨"https://app/billing?ok=1", "https://app/billing?cancel=1"⟩

/-- Nothing fails, and Stripe's answer to the start of a checkout carries this customer. -/
def answering (customer : Option String) (_ : Nat) : Outcome :=
  ⟨.ok, .ok ⟨"https://checkout.stripe.com/c/pay/cs_1", customer⟩⟩

/-- The organization starts a checkout and completes it. -/
def firstCheckout (customer : Option String) : List Happening :=
  [.startCheckout 7 .starter "owner@example.com" (answering customer), .delivery paidCheckoutBody]

theorem newOrganization_unique : newOrganization.UniqueCustomers := by
  intro o ho o' ho' _ _ _
  rw [List.mem_singleton.mp ho, List.mem_singleton.mp ho']

theorem cancellation_body :
    parseEnvelope checkoutAndCancellation (cancellationBody "evt_1" "cus_7") =
      .ok (subscriptionDeleted "evt_1" "cus_7", "evt_1", "customer.subscription.deleted") := by
  have hother : cancellationBody "evt_1" "cus_7" ≠ paidCheckoutBody := by decide +kernel
  have hparsed : checkoutAndCancellation (cancellationBody "evt_1" "cus_7") =
      .ok (subscriptionDeleted "evt_1" "cus_7") := by
    rw [checkoutAndCancellation, if_neg hother]
    rfl
  rw [parseEnvelope, hparsed]
  rfl

theorem paidCheckout_body : parseEnvelope checkoutAndCancellation paidCheckoutBody =
    .ok (paidCheckout, "evt_0", "checkout.session.completed") := by
  have hparsed : checkoutAndCancellation paidCheckoutBody = .ok paidCheckout := by
    rw [checkoutAndCancellation, if_pos rfl]
  rw [parseEnvelope, hparsed]
  rfl

/-- The organization after that, with the bodies read. -/
theorem after_firstCheckout (customer : Option String) :
    after checkoutAndCancellation oneUuid dashboard (firstCheckout customer) newOrganization =
      (dispatch oneUuid (((startCheckout dashboard 7 .starter "owner@example.com").run.replay
        BillingDb.answer (answering customer) 0 newOrganization).map (·.1) |>.getD newOrganization)
          paidCheckout "evt_0" "checkout.session.completed").1 := by
  simp only [after, firstCheckout, List.foldl_cons, List.foldl_nil, Happening.apply, webhook,
    paidCheckout_body]

/-- With the customer in Stripe's answer the cancellation reaches the organization. -/
theorem cancellation_reaches_iff_stored :
    let before := after checkoutAndCancellation oneUuid dashboard (firstCheckout (some "cus_7"))
      newOrganization
    (webhook checkoutAndCancellation oneUuid before (cancellationBody "evt_1" "cus_7")).1.plans =
      before.downgraded 7 := by
  have hcustomer : customerOf (subscriptionDeleted "evt_1" "cus_7") = some "cus_7" := by rfl
  have hstores : asksToStore newOrganization 7 .starter (answering (some "cus_7")) = some "cus_7" ∧
      (newOrganization.setStripeCustomer 7 "cus_7").2 = .ok () := by decide +kernel
  exact (cancellation_reaches_iff newOrganization_unique (firstCheckout (some "cus_7"))
    cancellation_body hcustomer 7).mpr (.inl (.inr (.inl ⟨rfl, hstores⟩)))

/-- A completed checkout of the organization by the customer was applied in the history. -/
def Applied (fromSlice : List UInt8 → Except String Json) (parseUuid : String → Option Uuid)
    (urls : CheckoutUrls) (id : Uuid) (customerId : String) (history : List Happening)
    (db : BillingDb) : Prop :=
  ∃ earlier body later envelope stripeEventId plan, history = earlier ++ .delivery body :: later ∧
    parseEnvelope fromSlice body = .ok (envelope, stripeEventId, "checkout.session.completed") ∧
    checkoutTarget parseUuid envelope = .ok (id, plan) ∧ customerOf envelope = some customerId ∧
    (webhook fromSlice parseUuid (after fromSlice parseUuid urls earlier db) body).2 = .ok ()

/-- Stripe creates the customer during the checkout, so its answer to the start does not carry
one. The organization stays on the paid plan. -/
theorem not_cancellation_reaches :
    ¬ ∀ (fromSlice : List UInt8 → Except String Json) (parseUuid : String → Option Uuid)
      (urls : CheckoutUrls) (db : BillingDb) (history : List Happening) (body : List UInt8)
      (envelope : Json) (stripeEventId customerId : String) (id : Uuid), db.UniqueCustomers →
      Applied fromSlice parseUuid urls id customerId history db →
      parseEnvelope fromSlice body =
        .ok (envelope, stripeEventId, "customer.subscription.deleted") →
      customerOf envelope = some customerId →
      let before := after fromSlice parseUuid urls history db
      before.rowsOf stripeEventId = 0 →
        (webhook fromSlice parseUuid before body).1.plans = before.downgraded id := by
  intro h
  have happlied : Applied checkoutAndCancellation oneUuid dashboard 7 "cus_7" (firstCheckout none)
      newOrganization := by
    refine ⟨[.startCheckout 7 .starter "owner@example.com" (answering none)], paidCheckoutBody, [],
      paidCheckout, "evt_0", .starter, rfl, paidCheckout_body, by rfl, by rfl, ?_⟩
    rw [webhook, paidCheckout_body]
    rfl
  have hcustomer : customerOf (subscriptionDeleted "evt_1" "cus_7") = some "cus_7" := by rfl
  have hplans := h checkoutAndCancellation oneUuid dashboard newOrganization (firstCheckout none)
    (cancellationBody "evt_1" "cus_7") _ _ _ 7 newOrganization_unique happlied cancellation_body
    hcustomer
  simp only [after_firstCheckout, webhook, cancellation_body] at hplans
  revert hplans
  decide +kernel

end Kubinate.Billing
