import Kubinate.Audit.Log
import Kubinate.Library.Pool
import Kubinate.Library.ReadCommitted

/-!
# Appending to the audit log

`audit_log_append_trigger`, `audit_log_append_explicit` and
`organizations_billing_audit_trigger`: each reads the tail of the organization's chain with
`SELECT … ORDER BY created_at DESC, id DESC LIMIT 1 FOR UPDATE` and inserts an entry that
names the tail's hash. The functions run with the rights of the table owner, who is not
subject to row-level security.

The `SELECT` picks its row in the snapshot of the statement and then waits for the row lock.
Entries are never updated, so after the wait it returns the row it had picked, which by then
may no longer be the tail. These are two calls here.
-/

namespace Kubinate.Audit

open Platform Library

/-! ## The server -/

inductive AuditStatement where
  | begin
  | commit
  | rollback
  | selectTail (org : Uuid)
  | lockEntry (id : Uuid)
  | insertEntry (e : Entry)

def AuditStatement.Answer : AuditStatement → Type
  | .begin | .commit | .lockEntry _ | .insertEntry _ => Except SqlError Unit
  | .rollback => Unit
  | .selectTail _ => Except SqlError (Option Entry)

def auditSql : Interface where
  Call := AuditStatement
  Answer := AuditStatement.Answer

/-- What a transaction holds until its end: new entries, and locks on entries. -/
inductive AuditWrite where
  | insert (e : Entry)
  | lock (id : Uuid)
deriving DecidableEq, Repr

def AuditWrite.entry? : AuditWrite → Option Entry
  | .insert e => some e
  | .lock _ => none

def applyWrite (table : List Entry) : AuditWrite → List Entry
  | .insert e => table ++ [e]
  | .lock _ => table

abbrev AuditServer := Store (List Entry) AuditWrite

namespace AuditServer

def view (v : AuditServer) (i : Nat) : List Entry := Store.view applyWrite v i

/-- `ORDER BY created_at DESC, id DESC LIMIT 1`. -/
def tail (v : AuditServer) (i : Nat) (org : Uuid) : Option Entry := (chain (v.view i) org).getLast?

/-- How the server executes a statement of transaction `i` when nothing goes wrong. A lock
waits for the other transactions that hold it; an insert waits for other transactions that
have inserted the same id. -/
def execute (v : AuditServer) (i : Nat) :
    (c : AuditStatement) → Option (AuditServer × c.Answer)
  | .begin => if i ∈ v.opened then none else some (v.begin i, .ok ())
  | .commit => some (v.commit applyWrite i, .ok ())
  | .rollback => some (v.rollback i, ())
  | .selectTail org => some (v, .ok (v.tail i org))
  | .lockEntry id =>
    if .lock id ∈ v.others i then none else (v.write i (.lock id)).map fun v => (v, .ok ())
  | .insertEntry e =>
    if (v.others i).any fun w => w.entry?.any (·.id = e.id) then none
    else if (v.view i).any fun f => f.id = e.id then some (v, .error .uniqueViolation)
    else (v.write i (.insert e)).map fun v => (v, .ok ())

/-- A failing statement has no effect, except that a failing `COMMIT` ends its transaction;
a commit whose reply is lost has taken effect. -/
def answer (v : AuditServer) (i : Nat) :
    (c : AuditStatement) → Reply → Option (AuditServer × c.Answer)
  | c, .ok => v.execute i c
  | .commit, .failed => some (v.rollback i, .error .connection)
  | .commit, .lost => some (v.commit applyWrite i, .error .connection)
  | .rollback, .failed => some (v.rollback i, ())
  | .begin, .failed => some (v, .error .connection)
  | .selectTail _, .failed => some (v, .error .connection)
  | .lockEntry _, .failed => some (v, .error .connection)
  | .insertEntry _, .failed => some (v, .error .connection)
  | _, .lost => none

end AuditServer

/-! ## The append functions -/

/-- The session variables that `AuditContext::apply` sets. -/
structure Session where
  actorUserId : Option Uuid
  requestId : Option String
  requestIp : Option String
  userAgent : Option String

/-- `TG_OP`. -/
inductive TriggerOp where
  | insert
  | update
  | delete
deriving DecidableEq, Repr

def TriggerOp.suffix : TriggerOp → String
  | .insert => ".created"
  | .update => ".updated"
  | .delete => ".deleted"

/-- What an append function is asked to record, with the id that `gen_random_uuid()` gives
the entry. -/
structure Event where
  id : Uuid
  org : Uuid
  action : String
  resourceType : String
  resourceId : String
  decision : String
  metadata : String

/-- The empty object `{}`. -/
def noMetadata : String := "\x7b\x7d"

/-- A quoted JSON string, or `null`. Plans and Stripe ids have nothing to escape. -/
def jsonText : Option String → String
  | some s => "\"" ++ s ++ "\""
  | none => "null"

/-- One audited write of a transaction. -/
inductive AuditedWrite where
  /-- A change of a row of `table` that fires `audit_log_append_trigger`. -/
  | trigger (id : Uuid) (op : TriggerOp) (table : String) (org rowId : Uuid)
  /-- A call of `audit_log_append_explicit`. -/
  | explicit (id : Uuid) (org : Uuid) (action resourceType resourceId decision metadata : String)
  /-- An update of `organizations` that fires `organizations_billing_audit_trigger`. -/
  | organization (id : Uuid) (org : Uuid) (oldPlan newPlan : String)
      (oldCustomer newCustomer : Option String)

/-- The event that a write records. The trigger on `organizations` records nothing when
neither the plan nor the customer changed. -/
def AuditedWrite.event? : AuditedWrite → Option Event
  | .trigger id op table org rowId =>
    some ⟨id, org, table ++ op.suffix, table, rowId.text, "allowed", noMetadata⟩
  | .explicit id org action resourceType resourceId decision metadata =>
    some ⟨id, org, action, resourceType, resourceId, decision, metadata⟩
  | .organization id org oldPlan newPlan oldCustomer newCustomer =>
    if newPlan = oldPlan ∧ newCustomer = oldCustomer then none
    else
      some ⟨id, org, "organizations.updated", "organizations", org.text, "allowed",
        "\x7b\"new_plan\": " ++ jsonText newPlan ++ ", \"old_plan\": " ++ jsonText oldPlan ++
          ", \"new_stripe_customer_id\": " ++ jsonText newCustomer ++
          ", \"old_stripe_customer_id\": " ++ jsonText oldCustomer ++ "\x7d"⟩

section Programs

variable (digest : Bytes → Bytes)

/-- The row that an append inserts after a tail with hash `prev`. -/
def Event.entry (now : Timestamp) (session : Session) (prev : Option Bytes) (ev : Event) : Entry where
  id := ev.id
  organizationId := some ev.org
  actorUserId := session.actorUserId
  actorApiKeyId := none
  action := ev.action
  resourceType := ev.resourceType
  resourceId := some ev.resourceId
  decision := ev.decision
  reason := none
  requestId := session.requestId
  ipAddress := session.requestIp
  userAgent := session.userAgent
  metadata := ev.metadata
  prevHash := prev
  hash := digest
    (prev.getD [] ++ uuidBytes ev.org ++ bar :: payload ev.action ev.resourceType ev.resourceId)
  createdAt := now

abbrev AuditCode := ExceptT SqlError (Program auditSql)

def sendAudit (c : AuditStatement) : Program auditSql c.Answer := Program.perform (I := auditSql) c

/-- The body that the three append functions share. -/
def append (now : Timestamp) (session : Session) (ev : Event) : AuditCode Unit := do
  let tail ← ExceptT.mk (sendAudit (.selectTail ev.org))
  match tail with
  | some row => ExceptT.mk (sendAudit (.lockEntry row.id))
  | none => pure ()
  ExceptT.mk (sendAudit (.insertEntry (ev.entry digest now session (tail.map (·.hash)))))

def appendAll (now : Timestamp) (session : Session) : List AuditedWrite → AuditCode Unit
  | [] => pure ()
  | w :: ws => do
    match w.event? with
    | some ev => append digest now session ev
    | none => pure ()
    appendAll now session ws

/-- A transaction with its audited writes in order, which the application then commits or
rolls back. `now()` is the time at which it started. -/
structure AuditJob where
  startedAt : Timestamp
  session : Session
  writes : List AuditedWrite
  commits : Bool

def AuditJob.program (j : AuditJob) : Program auditSql Unit := do
  match ← sendAudit .begin with
  | .error _ => pure ()
  | .ok _ =>
    match ← (appendAll digest j.startedAt j.session j.writes).run with
    | .error _ => sendAudit .rollback
    | .ok _ =>
      if j.commits then
        let _ ← sendAudit .commit
      else
        sendAudit .rollback

/-- Any number of transactions with audited writes, interleaved statement by statement. -/
def auditPool : Pool auditSql AuditServer AuditJob Reply Unit where
  prog := AuditJob.program digest
  external := fun _ => true
  answer := fun v i c x => (v.answer i c x).map fun (v, r) => (v, r, [])

end Programs

end Kubinate.Audit
