import Kubinate.Identity.Model
import Kubinate.Library.Pool
import Kubinate.Library.ReadCommitted

/-!
# Recovery codes

`PgRecoveryCodeRepository` of `crates/identity/src/repository.rs` under READ COMMITTED. A
`DELETE` or `UPDATE` finds its rows in a snapshot taken when it starts, and then goes through
them one by one: it waits for the transaction that has written the row and looks at what is
left of it. Rows that others insert in the meantime it never sees. So such a statement is two
kinds of calls here, the scan and the rows.
-/

namespace Kubinate.Identity

open Platform Library

structure MfaRecoveryCode where
  id : Uuid
  userId : Uuid
  codeHash : List UInt8
  createdAt : Timestamp
  usedAt : Option Timestamp
deriving DecidableEq, Repr

/-- `mfa_recovery_codes`, and the users that its rows may refer to. -/
structure RecoveryTable where
  users : List Uuid
  codes : List MfaRecoveryCode
  primaryKey : (codes.map (·.id)).Nodup

/-- The row matches `WHERE user_id = $1`. -/
def MfaRecoveryCode.isOf (c : MfaRecoveryCode) (userId id : Uuid) : Bool :=
  c.id == id && c.userId == userId

/-- `WHERE user_id = $1 AND code_hash = $2 AND used_at IS NULL`. -/
def MfaRecoveryCode.redeems (c : MfaRecoveryCode) (userId : Uuid) (codeHash : List UInt8) : Bool :=
  c.userId == userId && c.codeHash == codeHash && c.usedAt.isNone

inductive CodeWrite where
  | insert (row : MfaRecoveryCode)
  | delete (id : Uuid)
  | use (id : Uuid) (now : Timestamp)
deriving DecidableEq, Repr

/-- The row that the write locks. -/
def CodeWrite.id : CodeWrite → Uuid
  | .insert row => row.id
  | .delete id => id
  | .use id _ => id

namespace RecoveryTable

/-- A row that is inserted has an id of its own, which the insert has checked. -/
def apply (t : RecoveryTable) : CodeWrite → RecoveryTable
  | .insert row =>
    if h : row.id ∈ t.codes.map (·.id) then t
    else
      { t with
        codes := t.codes ++ [row]
        primaryKey := by
          rw [List.map_append]
          refine List.Nodup.append t.primaryKey (List.nodup_singleton _) ?_
          intro id hid hrow
          rw [List.map_singleton, List.mem_singleton] at hrow
          exact h (hrow ▸ hid) }
  | .delete id =>
    { t with
      codes := t.codes.filter (·.id != id)
      primaryKey := t.primaryKey.sublist (List.filter_sublist.map _) }
  | .use id now =>
    { t with
      codes := t.codes.map fun c => if c.id == id then { c with usedAt := some now } else c
      primaryKey := by
        rw [List.map_map]
        refine (List.map_congr_left fun c _ => ?_).symm ▸ t.primaryKey
        simp only [Function.comp]
        split <;> rfl }

end RecoveryTable

abbrev RecoveryStore := Store RecoveryTable CodeWrite

/-! ## Statements -/

inductive CodeStatement where
  | begin
  | commit
  | rollback
  /-- The snapshot of `DELETE … WHERE user_id = $1`. -/
  | deleteScan (userId : Uuid)
  /-- The same statement at one of its rows. -/
  | deleteRow (userId id : Uuid)
  /-- The snapshot of `UPDATE … SET used_at = now()`. -/
  | updateScan (userId : Uuid) (codeHash : List UInt8)
  /-- The same statement at one of its rows, which it returns or passes over. -/
  | updateRow (userId : Uuid) (codeHash : List UInt8) (id : Uuid)
  | insert (userId : Uuid) (codeHash : List UInt8)
deriving DecidableEq

@[reducible]
def CodeStatement.Answer : CodeStatement → Type
  | .begin | .commit | .deleteRow .. => Except SqlError Unit
  | .rollback => Unit
  | .deleteScan _ | .updateScan .. => Except SqlError (List Uuid)
  | .updateRow .. => Except SqlError Bool
  | .insert .. => Except SqlError MfaRecoveryCode

abbrev codes : Interface where
  Call := CodeStatement
  Answer := CodeStatement.Answer

/-- How a statement goes, with the `now()` of its transaction and the fresh id of an insert. -/
structure CodeOutcome where
  reply : Reply
  now : Timestamp := 0
  id : Uuid := 0

namespace RecoveryStore

variable (v : RecoveryStore) (i : Nat)

def view : RecoveryTable := Store.view RecoveryTable.apply v i

/-- Another open transaction has written the row. -/
def locked (id : Uuid) : Bool := (v.others i).any (·.id == id)

/-- Another open transaction has written a row that an insert has to be compared with: one with
its id, or with its hash in the unique index of the unused codes. -/
def awaits (row : MfaRecoveryCode) : Bool :=
  (v.others i).any fun w => w.id == row.id ||
    match w with
    | .insert row' => row'.codeHash == row.codeHash
    | .delete id | .use id _ =>
      v.committed.codes.any fun c => c.id == id && c.codeHash == row.codeHash

/-- `INSERT INTO mfa_recovery_codes` -/
def insert (row : MfaRecoveryCode) : Option (RecoveryStore × Except SqlError MfaRecoveryCode) :=
  if awaits v i row then none
  else if (view v i).codes.any fun c =>
      c.id == row.id || (c.usedAt.isNone && c.codeHash == row.codeHash)
  then some (v, .error .uniqueViolation)
  else if row.userId ∉ v.committed.users then some (v, .error .foreignKeyViolation)
  else (v.write i (.insert row)).map fun v => (v, .ok row)

/-- How the server executes a statement of transaction `i`; it gives no answer while the
statement has to wait. -/
def execute (x : CodeOutcome) : (c : CodeStatement) → Option (RecoveryStore × c.Answer)
  | .begin => if i ∈ v.opened then none else some (v.begin i, .ok ())
  | .commit => some (v.commit RecoveryTable.apply i, .ok ())
  | .rollback => some (v.rollback i, ())
  | .deleteScan userId =>
    some (v, .ok (((view v i).codes.filter (·.userId == userId)).map (·.id)))
  | .deleteRow userId id =>
    if locked v i id then none
    else if (view v i).codes.any (·.isOf userId id)
    then (v.write i (.delete id)).map fun v => (v, .ok ())
    else some (v, .ok ())
  | .updateScan userId codeHash =>
    some (v, .ok (((view v i).codes.filter (·.redeems userId codeHash)).map (·.id)))
  | .updateRow userId codeHash id =>
    if locked v i id then none
    else if (view v i).codes.any fun c => c.id == id && c.redeems userId codeHash
    then (v.write i (.use id x.now)).map fun v => (v, .ok true)
    else some (v, .ok false)
  | .insert userId codeHash => insert v i ⟨x.id, userId, codeHash, x.now, none⟩

/-- The answer to a statement whose connection breaks. -/
def broken : (c : CodeStatement) → c.Answer
  | .begin | .commit | .deleteScan _ | .deleteRow .. | .updateScan .. | .updateRow ..
  | .insert .. => Except.error SqlError.connection
  | .rollback => ()

/-- A failing statement has no effect, except that a failing `COMMIT` ends its transaction;
a commit whose reply is lost has taken effect. -/
def answer (c : CodeStatement) (x : CodeOutcome) : Option (RecoveryStore × c.Answer) :=
  match x.reply with
  | .ok => execute v i x c
  | .failed =>
    match c with
    | .commit => some (v.rollback i, broken .commit)
    | .rollback => some (v.rollback i, ())
    | c => some (v, broken c)
  | .lost =>
    match c with
    | .commit => some (v.commit RecoveryTable.apply i, broken .commit)
    | _ => none

end RecoveryStore

/-! ## The repository -/

/-- Code that sends statements and returns a `PlatformResult`. -/
abbrev CodesDb := ExceptT PlatformError (Program codes)

/-- `.await?` on a statement. -/
def sendCode {α : Type} (p : Program codes (Except SqlError α)) : CodesDb α :=
  ExceptT.mk (p >>= fun r => pure (r.mapError .database))

def code (c : CodeStatement) : Program codes c.Answer := Program.perform (I := codes) c

/-- A transaction that is rolled back when the body fails. A statement on the bare pool is one of
its own. -/
def codesTransaction {α : Type} (body : CodesDb α) : CodesDb α := do
  sendCode (code .begin)
  ExceptT.mk (body.run >>= fun r =>
    match r with
    | .ok a => pure (.ok a)
    | .error e => code .rollback >>= fun _ => pure (.error e))

namespace RecoveryCodeRepository

def rotateBatch (userId : Uuid) (codeHashes : List (List UInt8)) : CodesDb (List MfaRecoveryCode) :=
  codesTransaction do
    let ids ← sendCode (code (.deleteScan userId))
    ids.forM fun id => sendCode (code (.deleteRow userId id))
    let inserted ← codeHashes.mapM fun hash => sendCode (code (.insert userId hash))
    sendCode (code .commit)
    return inserted

/-- `fetch_optional` on the rows that the `UPDATE` returns. -/
def tryConsume (userId : Uuid) (codeHash : List UInt8) : CodesDb Bool :=
  codesTransaction do
    let ids ← sendCode (code (.updateScan userId codeHash))
    let returned ← ids.mapM fun id => sendCode (code (.updateRow userId codeHash id))
    sendCode (code .commit)
    return returned.any id

end RecoveryCodeRepository

inductive CodesJob where
  | rotateBatch (userId : Uuid) (codeHashes : List (List UInt8))
  | tryConsume (userId : Uuid) (codeHash : List UInt8)
deriving DecidableEq, Repr

/-- What a job ends with: the rows of the new batch, or whether a code was consumed. -/
inductive CodesReply where
  | batch (rows : List MfaRecoveryCode)
  | consumed (b : Bool)
deriving DecidableEq, Repr

def CodesJob.program : CodesJob → Program codes (Except PlatformError CodesReply)
  | .rotateBatch userId codeHashes =>
    (CodesReply.batch <$> RecoveryCodeRepository.rotateBatch userId codeHashes).run
  | .tryConsume userId codeHash =>
    (CodesReply.consumed <$> RecoveryCodeRepository.tryConsume userId codeHash).run

/-- Any number of transactions, interleaved statement by statement and row by row. The job in
slot `i` is transaction `i`. -/
def codesPool : Pool codes RecoveryStore CodesJob CodeOutcome (Except PlatformError CodesReply) where
  prog := CodesJob.program
  external := fun _ => true
  answer := fun v i c x => (RecoveryStore.answer v i c x).map fun (v, r) => (v, r, [])

end Kubinate.Identity
