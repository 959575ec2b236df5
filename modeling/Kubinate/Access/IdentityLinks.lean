import Kubinate.Access.Accounts
import Kubinate.Library.ReadCommitted

/-!
# Which user an identity is linked to

`oidc::upsert_identity` in the transaction of the login callback, statement by statement. It
looks for the link of the identity; where there is none, it finds or creates the user with the
reported address, and links the identity to it, unless it has been linked in the meantime.

* `returned`: what `upsert_identity` has returned, read off the trace.
* `loginPool_slots`: where each login stands.
* `links_stable`: identities keep their users, as long as no link is found where the user was
  resolved to another one.
-/

namespace Kubinate.Access

open Platform Library Identity

/-! ## The tables -/

structure LoginDb where
  users : List User
  identities : List IdentityLink
deriving DecidableEq, Repr

inductive LoginWrite where
  | insertUser (u : User)
  | renameUser (email displayName : String)
  | insertLink (l : IdentityLink)
deriving DecidableEq, Repr

namespace LoginDb

def apply (db : LoginDb) : LoginWrite → LoginDb
  | .insertUser u => { db with users := db.users ++ [u] }
  | .renameUser email displayName =>
    { db with
      users := db.users.map fun u =>
        if Directory.sameEmail u.email email then { u with displayName := displayName } else u }
  | .insertLink l => { db with identities := db.identities ++ [l] }

/-- `SELECT user_id FROM user_oidc_identities`. -/
def linkOf (db : LoginDb) (issuer subject : String) : Option Uuid :=
  (db.identities.find? fun l => l.issuer == issuer && l.subject == subject).map (·.userId)

end LoginDb

/-- Two writes to one entry of the unique index on `email` or on `(issuer, subject)`. -/
def LoginWrite.collides : LoginWrite → LoginWrite → Bool
  | .insertLink l, .insertLink l' => l.issuer == l'.issuer && l.subject == l'.subject
  | .insertUser u, .insertUser u' => Directory.sameEmail u.email u'.email
  | .insertUser u, .renameUser email _ | .renameUser email _, .insertUser u =>
    Directory.sameEmail u.email email
  | .renameUser email _, .renameUser email' _ => Directory.sameEmail email email'
  | _, _ => false

/-! ## The statements of a login -/

inductive LoginStatement where
  | begin
  | commit
  | rollback
  | selectLink (issuer subject : String)
  /-- `INSERT INTO users … ON CONFLICT (email) DO UPDATE` -/
  | upsertUser (id : Uuid) (email displayName : String)
  | selectUser (email : String)
  /-- `INSERT INTO user_oidc_identities … ON CONFLICT (issuer, subject) DO NOTHING` -/
  | insertLink (userId : Uuid) (issuer subject : String)
  /-- `session::user_requires_partial_session`, on another connection. -/
  | requiresPartialSession (userId : Uuid)
  | insertSession (userId : Uuid) (mfaSatisfied : Bool)
deriving DecidableEq

@[reducible]
def LoginStatement.Answer : LoginStatement → Type
  | .rollback => Unit
  | .selectLink .. => Except SqlError (Option Uuid)
  | .selectUser _ => Except SqlError Uuid
  | .requiresPartialSession _ => Except SqlError Bool
  | .begin | .commit | .upsertUser .. | .insertLink .. | .insertSession .. => Except SqlError Unit

abbrev loginSql : Interface where
  Call := LoginStatement
  Answer := LoginStatement.Answer

abbrev LoginM := ExceptT PlatformError (Program loginSql)

/-- `.await?` on a statement. -/
def loginQuery {α : Type} (p : Program loginSql (Except SqlError α)) : LoginM α :=
  ExceptT.mk (p >>= fun r =>
    match r with
    | .ok a => pure (.ok a)
    | .error e => pure (.error (.database e)))

def loginSend (c : LoginStatement) : Program loginSql c.Answer := Program.perform (I := loginSql) c

/-- `freshId` is the fresh v7 UUID for a new user. -/
def upsertIdentity (freshId : Uuid) (idp : IdpUser) : LoginM Uuid := do
  let existing ← loginQuery (loginSend (.selectLink idp.issuer idp.subject))
  match existing with
  | some userId => return userId
  | none =>
    loginQuery (loginSend (.upsertUser freshId idp.address idp.displayName))
    let resolvedUserId ← loginQuery (loginSend (.selectUser idp.address))
    loginQuery (loginSend (.insertLink resolvedUserId idp.issuer idp.subject))
    return resolvedUserId

structure Login where
  freshId : Uuid
  idp : IdpUser
deriving DecidableEq

/-- The session of the user, and the commit. -/
def issueSession (userId : Uuid) : LoginM Uuid := do
  let needsPartial ← loginQuery (loginSend (.requiresPartialSession userId))
  loginQuery (loginSend (.insertSession userId (!needsPartial)))
  loginQuery (loginSend .commit)
  return userId

/-- The transaction is rolled back when it is dropped. -/
def rolledBack (body : LoginM Uuid) : LoginM Uuid :=
  ExceptT.mk (body.run >>= fun r =>
    match r with
    | .ok userId => pure (.ok userId)
    | .error e => loginSend .rollback >>= fun _ => pure (.error e))

/-- The transaction of the callback. -/
def Login.program (j : Login) : Program loginSql (Except PlatformError Uuid) :=
  ExceptT.run do
    loginQuery (loginSend .begin)
    rolledBack do
      let userId ← upsertIdentity j.freshId j.idp
      issueSession userId

/-! ## The server -/

/-- How a statement goes, and whether the user has to confirm a passkey. -/
structure LoginOutcome where
  reply : Reply
  partialSession : Bool := false
deriving DecidableEq

/-- `commits` are the logins whose transaction has committed. -/
structure LoginServer where
  store : Store LoginDb LoginWrite
  commits : List Nat

namespace LoginServer

def ofDatabase (db : LoginDb) : LoginServer := ⟨.ofCommitted db, []⟩

variable (v : LoginServer)

def view (i : Nat) : LoginDb := v.store.view LoginDb.apply i

/-- Another open transaction has written to an entry that the write needs. -/
def blocked (i : Nat) (w : LoginWrite) : Bool := (v.store.others i).any w.collides

def write (i : Nat) (w : LoginWrite) : Option LoginServer :=
  if v.blocked i w then none else (v.store.write i w).map fun s => { v with store := s }

def upsertUser (i : Nat) (id : Uuid) (email displayName : String) :
    Option (LoginServer × Except SqlError Unit) :=
  let w : LoginWrite := .renameUser email displayName
  if v.blocked i w then none
  else if (v.view i).users.any fun u => Directory.sameEmail u.email email then
    (v.write i w).map fun v => (v, .ok ())
  else if (v.view i).users.any fun u => u.id == id then some (v, .error .uniqueViolation)
  else (v.write i (.insertUser ⟨id, email, displayName, false, false⟩)).map fun v => (v, .ok ())

def insertLink (i : Nat) (l : IdentityLink) : Option (LoginServer × Except SqlError Unit) :=
  if v.blocked i (.insertLink l) then none
  else if ((v.view i).linkOf l.issuer l.subject).isSome then some (v, .ok ())
  else if (v.view i).users.all fun u => u.id != l.userId then
    some (v, .error .foreignKeyViolation)
  else (v.write i (.insertLink l)).map fun v => (v, .ok ())

def commit (i : Nat) : LoginServer :=
  ⟨v.store.commit LoginDb.apply i, v.commits ++ [i]⟩

def rollback (i : Nat) : LoginServer := { v with store := v.store.rollback i }

/-- A statement that is executed. -/
def execute (i : Nat) (x : LoginOutcome) :
    (c : LoginStatement) → Option (LoginServer × c.Answer)
  | .begin =>
    if i ∈ v.store.opened then none else some ({ v with store := v.store.begin i }, .ok ())
  | .commit => some (v.commit i, .ok ())
  | .rollback => some (v.rollback i, ())
  | .selectLink issuer subject => some (v, .ok ((v.view i).linkOf issuer subject))
  | .upsertUser id email displayName => v.upsertUser i id email displayName
  | .selectUser email =>
    some (v, match (v.view i).users.find? fun u => Directory.sameEmail u.email email with
      | some u => .ok u.id
      | none => .error .rowNotFound)
  | .insertLink userId issuer subject => v.insertLink i ⟨issuer, subject, userId⟩
  | .requiresPartialSession _ => some (v, .ok x.partialSession)
  | .insertSession .. => some (v, .ok ())

def broken : (c : LoginStatement) → c.Answer
  | .begin | .commit | .selectLink .. | .upsertUser .. | .selectUser _ | .insertLink ..
  | .requiresPartialSession _ | .insertSession .. => Except.error SqlError.connection
  | .rollback => ()

/-- A failing statement has no effect, except that a failing `COMMIT` ends its transaction; the
reply to a commit that takes effect can be lost. -/
def answer (i : Nat) (c : LoginStatement) (x : LoginOutcome) : Option (LoginServer × c.Answer) :=
  match x.reply with
  | .ok => v.execute i x c
  | .failed =>
    match c with
    | .commit => some (v.rollback i, broken .commit)
    | .rollback => some (v.rollback i, ())
    | c => some (v, broken c)
  | .lost =>
    match c with
    | .commit => some (v.commit i, broken .commit)
    | _ => none

end LoginServer

/-- Any number of logins, interleaved statement by statement. -/
def loginPool : Pool loginSql LoginServer Login LoginOutcome (Except PlatformError Uuid) where
  prog := Login.program
  external := fun _ => true
  answer := fun v i c x => (v.answer i c x).map fun (v, r) => (v, r, [])

/-! ## Where a login stands -/

/-- What `upsert_identity` has returned: the user of the link that was found, or the user that the
identity was to be linked to. -/
def returned (h : Trace loginSql) : Option Uuid :=
  h.foldl (fun u e =>
    match e with
    | ⟨.selectLink .., .ok (some userId)⟩ => some userId
    | ⟨.insertLink userId .., .ok _⟩ => some userId
    | _ => u) none

/-- The transaction has been committed or rolled back. -/
def isOver (h : Trace loginSql) : Bool :=
  h.any fun e => e.1 == .commit || e.1 == .rollback

/-- What a login sends, after what. -/
def Login.Sends (j : Login) (h : Trace loginSql) : LoginStatement → Prop
  | .rollback => True
  | .begin => h = []
  | .selectLink issuer subject =>
    isOver h = false ∧ returned h = none ∧ issuer = j.idp.issuer ∧ subject = j.idp.subject
  | .insertLink _ issuer subject =>
    isOver h = false ∧ returned h = none ∧ issuer = j.idp.issuer ∧ subject = j.idp.subject ∧
      ⟨.selectLink issuer subject, .ok none⟩ ∈ h
  | .upsertUser .. | .selectUser _ => isOver h = false ∧ returned h = none
  | .commit | .requiresPartialSession _ | .insertSession .. =>
    isOver h = false ∧ (returned h).isSome = true

section Trace

variable (h : Trace loginSql) (e : Σ c : loginSql.Call, loginSql.Answer c)

theorem returned_concat :
    returned (h ++ [e]) =
      match e with
      | ⟨.selectLink .., .ok (some userId)⟩ => some userId
      | ⟨.insertLink userId .., .ok _⟩ => some userId
      | _ => returned h := by
  rw [returned, List.foldl_append]
  rfl

theorem isOver_concat : isOver (h ++ [e]) = (isOver h || (e.1 == .commit || e.1 == .rollback)) := by
  rw [isOver, List.any_append, List.any_cons, List.any_nil, Bool.or_false]
  rfl

end Trace

/-- From the moment at which `upsert_identity` has returned. -/
theorem issueSession_sends {j : Login} {h : Trace loginSql} {u : Uuid} (hover : isOver h = false)
    (hreturned : returned h = some u) :
    Meets j.Sends (fun _ _ _ => True) (fun _ _ => True) (rolledBack (issueSession u)).run h := by
  have hopen : isOver h = false ∧ (returned h).isSome = true := ⟨hover, by rw [hreturned]; rfl⟩
  refine ⟨hopen, fun r _ => ?_⟩
  rcases r with e | needsPartial
  · exact ⟨trivial, fun _ _ => trivial⟩
  refine ⟨?_, fun r _ => ?_⟩
  · refine ⟨?_, ?_⟩
    · rw [isOver_concat, hover]
      rfl
    · rw [returned_concat]
      exact hopen.2
  rcases r with e | ⟨⟩
  · exact ⟨trivial, fun _ _ => trivial⟩
  refine ⟨?_, fun r _ => ?_⟩
  · refine ⟨?_, ?_⟩
    · rw [isOver_concat, isOver_concat, hover]
      rfl
    · rw [returned_concat, returned_concat]
      exact hopen.2
  rcases r with e | ⟨⟩
  · exact ⟨trivial, fun _ _ => trivial⟩
  · trivial

theorem loginProgram_sends (j : Login) :
    Meets j.Sends (fun _ _ _ => True) (fun _ _ => True) j.program [] := by
  refine ⟨rfl, fun r _ => ?_⟩
  rcases r with e | ⟨⟩
  · trivial
  refine ⟨⟨rfl, rfl, rfl, rfl⟩, fun r _ => ?_⟩
  rcases r with e | _ | userId
  · exact ⟨trivial, fun _ _ => trivial⟩
  · -- there is no link yet
    refine ⟨⟨rfl, rfl⟩, fun r _ => ?_⟩
    rcases r with e | ⟨⟩
    · exact ⟨trivial, fun _ _ => trivial⟩
    refine ⟨⟨rfl, rfl⟩, fun r _ => ?_⟩
    rcases r with e | resolvedUserId
    · exact ⟨trivial, fun _ _ => trivial⟩
    refine ⟨⟨rfl, rfl, rfl, rfl, ?_⟩, fun r _ => ?_⟩
    · simp
    rcases r with e | ⟨⟩
    · exact ⟨trivial, fun _ _ => trivial⟩
    · exact issueSession_sends rfl rfl
  · exact issueSession_sends rfl rfl

/-! ## Links, committed and not -/

def LoginWrite.link? : LoginWrite → Option IdentityLink
  | .insertLink l => some l
  | _ => none

namespace LoginDb

variable {db : LoginDb} {issuer subject : String} {u : Uuid} {ws : List LoginWrite}

theorem foldl_identities (ws : List LoginWrite) :
    (ws.foldl LoginDb.apply db).identities = db.identities ++ ws.filterMap LoginWrite.link? := by
  induction ws generalizing db with
  | nil => exact (List.append_nil _).symm
  | cons w ws ih =>
    rw [List.foldl_cons, ih]
    cases w with
    | insertUser u => rfl
    | renameUser email displayName => rfl
    | insertLink l => exact List.append_assoc _ _ _

/-- A link that is there stays the one of its identity. -/
theorem linkOf_foldl (ws : List LoginWrite) (h : db.linkOf issuer subject = some u) :
    (ws.foldl LoginDb.apply db).linkOf issuer subject = some u := by
  rw [linkOf, Option.map_eq_some_iff] at h ⊢
  obtain ⟨l, hl, hu⟩ := h
  refine ⟨l, ?_, hu⟩
  rw [foldl_identities, List.find?_append, hl]
  rfl

/-- Writes that link other identities. -/
theorem linkOf_foldl_of_ne
    (hws : ∀ l ∈ ws.filterMap LoginWrite.link?, ¬ (l.issuer = issuer ∧ l.subject = subject)) :
    (ws.foldl LoginDb.apply db).linkOf issuer subject = db.linkOf issuer subject := by
  have hnone : (ws.filterMap LoginWrite.link?).find?
      (fun l => l.issuer == issuer && l.subject == subject) = none := by
    apply List.find?_eq_none.mpr
    intro l hl
    simpa only [Bool.and_eq_true, beq_iff_eq] using hws l hl
  rw [linkOf, linkOf, foldl_identities, List.find?_append, hnone, Option.or_none]

/-- Writes that link the identity. -/
theorem linkOf_foldl_of_none (hws : ws.filterMap LoginWrite.link? = [⟨issuer, subject, u⟩])
    (h : db.linkOf issuer subject = none) :
    (ws.foldl LoginDb.apply db).linkOf issuer subject = some u := by
  rw [linkOf, Option.map_eq_none_iff] at h
  rw [linkOf, foldl_identities, hws, List.find?_append, h, Option.none_or, List.find?_cons,
    beq_self_eq_true, beq_self_eq_true]
  rfl

end LoginDb

namespace LoginServer

/-- The links that transaction `i` has inserted. -/
def ownLinks (v : LoginServer) (i : Nat) : List IdentityLink :=
  (v.store.own i).filterMap LoginWrite.link?

/-- The link that transaction `i` sees is committed, or its own. -/
def Links (v : LoginServer) (i : Nat) (issuer subject : String) (u : Uuid) : Prop :=
  v.ownLinks i = [] ∧ v.store.committed.linkOf issuer subject = some u ∨
    v.ownLinks i = [⟨issuer, subject, u⟩] ∧ v.store.committed.linkOf issuer subject = none

/-- From `v` to `v'`, transaction `i` has done nothing the others can see. -/
structure Still (v v' : LoginServer) (i : Nat) : Prop where
  committed : v'.store.committed = v.store.committed
  own : ∀ k, k ≠ i → v'.store.own k = v.store.own k
  commits : v'.commits = v.commits

variable {v v' : LoginServer} {i k : Nat} {issuer subject : String} {u : Uuid}

theorem Still.refl (v : LoginServer) (i : Nat) : v.Still v i := ⟨rfl, fun _ _ => rfl, rfl⟩

theorem Still.ownLinks (h : v.Still v' i) (hk : k ≠ i) : v'.ownLinks k = v.ownLinks k := by
  rw [LoginServer.ownLinks, LoginServer.ownLinks, h.own k hk]

/-- What a transaction that has linked nothing sees of the links. -/
theorem linkOf_view (h : v.ownLinks i = []) :
    (v.view i).linkOf issuer subject = v.store.committed.linkOf issuer subject := by
  refine LoginDb.linkOf_foldl_of_ne fun l hl => ?_
  rw [ownLinks] at h
  rw [h] at hl
  cases hl

theorem Links.view (h : v.Links i issuer subject u) : (v.view i).linkOf issuer subject = some u := by
  rcases h with ⟨hnone, hlink⟩ | ⟨hown, hnone⟩
  · rw [linkOf_view hnone, hlink]
  · exact LoginDb.linkOf_foldl_of_none hown hnone

theorem write_still {w : LoginWrite} (h : v.write i w = some v') :
    v.blocked i w = false ∧ v.Still v' i ∧ v'.store.own i = v.store.own i ++ [w] := by
  unfold write at h
  split at h
  · cases h
  · next hblocked =>
    obtain ⟨s, hs, rfl⟩ := Option.map_eq_some_iff.mp h
    refine ⟨by simpa using hblocked, ⟨Store.write_committed hs, fun k hk => ?_, rfl⟩, ?_⟩
    · exact (Store.write_own hs).trans (if_neg hk)
    · exact (Store.write_own hs).trans (if_pos rfl)

theorem rollback_still : v.Still (v.rollback i) i ∧ (v.rollback i).ownLinks i = [] := by
  refine ⟨⟨rfl, fun k hk => Store.rollback_own.trans (if_neg hk), rfl⟩, ?_⟩
  rw [ownLinks, rollback, Store.rollback_own, if_pos rfl]
  rfl

theorem upsertUser_still {id : Uuid} {email displayName : String} {r : Except SqlError Unit}
    (h : v.upsertUser i id email displayName = some (v', r)) :
    v.Still v' i ∧ v'.ownLinks i = v.ownLinks i := by
  have hwrite {w : LoginWrite} (hw : w.link? = none) (h : v.write i w = some v') :
      v.Still v' i ∧ v'.ownLinks i = v.ownLinks i := by
    obtain ⟨-, hstill, hown⟩ := write_still h
    refine ⟨hstill, ?_⟩
    rw [ownLinks, ownLinks, hown, List.filterMap_append, List.filterMap_cons, hw]
    exact List.append_nil _
  unfold upsertUser at h
  dsimp only at h
  split at h
  · cases h
  split at h
  · obtain ⟨v₁, hv, heq⟩ := Option.map_eq_some_iff.mp h
    cases heq
    exact hwrite rfl hv
  split at h
  · cases h
    exact ⟨.refl v i, rfl⟩
  · obtain ⟨v₁, hv, heq⟩ := Option.map_eq_some_iff.mp h
    cases heq
    exact hwrite rfl hv

/-- Inserting a link fails, or finds one, or makes the write. -/
theorem insertLink_cases {l : IdentityLink} {r : Except SqlError Unit}
    (h : v.insertLink i l = some (v', r)) :
    (v' = v ∧ ∃ e, r = .error e) ∨
    (v' = v ∧ r = .ok () ∧ ((v.view i).linkOf l.issuer l.subject).isSome = true) ∨
    (r = .ok () ∧ (v.view i).linkOf l.issuer l.subject = none ∧
      v.write i (.insertLink l) = some v') := by
  unfold insertLink at h
  split at h
  · cases h
  split at h
  · next hfound =>
    cases h
    exact .inr (.inl ⟨rfl, rfl, hfound⟩)
  · next hnone =>
    split at h
    · cases h
      exact .inl ⟨rfl, _, rfl⟩
    · obtain ⟨v₁, hv, heq⟩ := Option.map_eq_some_iff.mp h
      cases heq
      exact .inr (.inr ⟨rfl, by simpa using hnone, hv⟩)

end LoginServer

/-! ## Every run -/

/-- No two open transactions have linked one identity. -/
def ExclusiveLinks (v : LoginServer) : Prop :=
  ∀ i k, i ≠ k → ∀ l ∈ v.ownLinks i, ∀ l' ∈ v.ownLinks k,
    ¬ (l.issuer = l'.issuer ∧ l.subject = l'.subject)

/-- An open login sees the link that it returned; what a committed one returned is committed. -/
structure LoginAt (v : LoginServer) (i : Nat) (j : Login) (h : Trace loginSql) : Prop where
  openLink : isOver h = false → ∀ u, returned h = some u → v.Links i j.idp.issuer j.idp.subject u
  noLink : returned h = none → v.ownLinks i = []
  uncommitted : isOver h = false → i ∉ v.commits
  committed : i ∈ v.commits → ∃ u, returned h = some u ∧
    v.store.committed.linkOf j.idp.issuer j.idp.subject = some u

def LoginSlot (v : LoginServer) (i : Nat) : Option (Login × Trace loginSql) → Prop
  | none => v.ownLinks i = [] ∧ i ∉ v.commits
  | some (j, h) => LoginAt v i j h

/-- A link `INSERT` finds no link of the identity, or one to the user it was to link. -/
def findsOwnLink (s : PoolState loginSql LoginServer Login (Except PlatformError Uuid)) :
    Act Login LoginOutcome → Bool
  | .start _ => true
  | .step i x =>
    match s.nextCall i with
    | some (.insertLink userId issuer subject) =>
      x.reply = .failed || ((s.world.view i).linkOf issuer subject).all (· == userId)
    | _ => true

section Step

variable {v v' : LoginServer} {i k : Nat} {j : Login} {h : Trace loginSql}

/-- Another transaction's links and commits are as they were. -/
theorem loginSlot_of_still {o : Option (Login × Trace loginSql)} (hslot : LoginSlot v k o)
    (hstill : v.Still v' i) (hk : k ≠ i) : LoginSlot v' k o := by
  have hown := hstill.ownLinks hk
  cases o with
  | none => exact ⟨hown.trans hslot.1, by rw [hstill.commits]; exact hslot.2⟩
  | some p =>
    obtain ⟨hopen, hnone, huncommitted, hcommitted⟩ := hslot
    refine ⟨fun hover u hu => ?_, fun hu => hown.trans (hnone hu), ?_, ?_⟩
    · rw [LoginServer.Links, hown, hstill.committed]
      exact hopen hover u hu
    · rw [hstill.commits]
      exact huncommitted
    · rw [hstill.commits, hstill.committed]
      exact hcommitted

/-- A commit of another transaction. -/
theorem loginSlot_commit {o : Option (Login × Trace loginSql)} (hexclusive : ExclusiveLinks v)
    (hslot : LoginSlot v k o) (hk : k ≠ i) : LoginSlot (v.commit i) k o := by
  have hown : (v.commit i).ownLinks k = v.ownLinks k := by
    rw [LoginServer.ownLinks, LoginServer.commit, Store.commit_own, if_neg hk]
    rfl
  have hmem : k ∈ (v.commit i).commits ↔ k ∈ v.commits := by
    rw [LoginServer.commit, List.mem_append, List.mem_singleton]
    exact or_iff_left hk
  cases o with
  | none => exact ⟨hown.trans hslot.1, mt hmem.mp hslot.2⟩
  | some p =>
    obtain ⟨hopen, hnone, huncommitted, hcommitted⟩ := hslot
    refine ⟨fun hover u hu => ?_, fun hu => hown.trans (hnone hu),
      fun hover => mt hmem.mp (huncommitted hover), fun hin => ?_⟩
    · rcases hopen hover u hu with ⟨hempty, hlink⟩ | ⟨hlinks, hfree⟩
      · exact .inl ⟨hown.trans hempty, LoginDb.linkOf_foldl _ hlink⟩
      · refine .inr ⟨hown.trans hlinks, ?_⟩
        -- the transaction that commits has not linked this identity
        refine (LoginDb.linkOf_foldl_of_ne fun l hl => ?_).trans hfree
        refine hexclusive i k hk.symm l hl ⟨p.1.idp.issuer, p.1.idp.subject, u⟩ ?_
        rw [hlinks]
        exact List.mem_singleton_self _
    · obtain ⟨u, hu, hlink⟩ := hcommitted (hmem.mp hin)
      exact ⟨u, hu, LoginDb.linkOf_foldl _ hlink⟩

theorem exclusive_of_still (hexclusive : ExclusiveLinks v) (hstill : v.Still v' i)
    (hself : ∀ l ∈ v'.ownLinks i, l ∈ v.ownLinks i) : ExclusiveLinks v' := by
  have hsub : ∀ k, ∀ l ∈ v'.ownLinks k, l ∈ v.ownLinks k := by
    intro k l hl
    by_cases hk : k = i
    · subst hk
      exact hself l hl
    · rwa [hstill.ownLinks hk] at hl
  exact fun a b hab l hl l' hl' => hexclusive a b hab l (hsub a l hl) l' (hsub b l' hl')

theorem exclusive_commit (hexclusive : ExclusiveLinks v) : ExclusiveLinks (v.commit i) := by
  have hsub : ∀ k, ∀ l ∈ (v.commit i).ownLinks k, l ∈ v.ownLinks k := by
    intro k l hl
    rw [LoginServer.ownLinks, LoginServer.commit, Store.commit_own] at hl
    split at hl
    · cases hl
    · exact hl
  exact fun a b hab l hl l' hl' => hexclusive a b hab l (hsub a l hl) l' (hsub b l' hl')

/-- A link that was not blocked. -/
theorem exclusive_insertLink {l : IdentityLink} (hexclusive : ExclusiveLinks v)
    (hwrite : v.write i (.insertLink l) = some v') :
    ExclusiveLinks v' ∧ v'.ownLinks i = v.ownLinks i ++ [l] := by
  obtain ⟨hfree, hstill, hown⟩ := LoginServer.write_still hwrite
  have hlinks : v'.ownLinks i = v.ownLinks i ++ [l] := by
    rw [LoginServer.ownLinks, hown, List.filterMap_append]
    rfl
  -- nobody else has linked this identity
  have hother : ∀ k, k ≠ i → ∀ l' ∈ v.ownLinks k,
      ¬ (l.issuer = l'.issuer ∧ l.subject = l'.subject) := by
    intro k hk l' hl' hsame
    obtain ⟨w, hw, hwl⟩ := List.mem_filterMap.mp hl'
    have hmem : w ∈ v.store.others i := Store.mem_others.mpr ⟨k, hk, hw⟩
    have hfalse := List.any_eq_false.mp hfree w hmem
    cases w with
    | insertUser u => cases hwl
    | renameUser email displayName => cases hwl
    | insertLink l'' =>
      cases hwl
      simp [LoginWrite.collides, hsame.1, hsame.2] at hfalse
  refine ⟨fun a b hab l₁ hl₁ l₂ hl₂ => ?_, hlinks⟩
  by_cases ha : a = i
  · subst ha
    rw [hstill.ownLinks hab.symm] at hl₂
    rw [hlinks] at hl₁
    rcases List.mem_append.mp hl₁ with hl₁ | hl₁
    · exact hexclusive a b hab l₁ hl₁ l₂ hl₂
    · rw [List.mem_singleton.mp hl₁]
      exact hother b hab.symm l₂ hl₂
  · rw [hstill.ownLinks ha] at hl₁
    by_cases hb : b = i
    · subst hb
      rw [hlinks] at hl₂
      rcases List.mem_append.mp hl₂ with hl₂ | hl₂
      · exact hexclusive a b hab l₁ hl₁ l₂ hl₂
      · rw [List.mem_singleton.mp hl₂]
        exact fun hsame => hother a hab l₁ hl₁ ⟨hsame.1.symm, hsame.2.symm⟩
    · rw [hstill.ownLinks hb] at hl₂
      exact hexclusive a b hab l₁ hl₁ l₂ hl₂

/-- A statement that neither ends the transaction nor says anything about the link. -/
theorem LoginAt.keep {h' : Trace loginSql} (hslot : LoginAt v i j h) (hstill : v.Still v' i)
    (hown : v'.ownLinks i = v.ownLinks i) (hreturned : returned h' = returned h)
    (hover : isOver h' = isOver h) : LoginAt v' i j h' := by
  obtain ⟨hopen, hnone, huncommitted, hcommitted⟩ := hslot
  refine ⟨fun ho u hu => ?_, fun hu => ?_, fun ho => ?_, fun hin => ?_⟩
  · rw [LoginServer.Links, hown, hstill.committed]
    exact hopen (hover ▸ ho) u (hreturned ▸ hu)
  · exact hown.trans (hnone (hreturned ▸ hu))
  · rw [hstill.commits]
    exact huncommitted (hover ▸ ho)
  · rw [hreturned, hstill.committed]
    exact hcommitted (hstill.commits ▸ hin)

/-- The transaction is rolled back. -/
theorem LoginAt.rollback {h' : Trace loginSql} (hslot : LoginAt v i j h)
    (hreturned : returned h' = returned h) (hover : isOver h' = true) :
    LoginAt (v.rollback i) i j h' := by
  obtain ⟨hstill, hown⟩ := LoginServer.rollback_still (v := v) (i := i)
  refine ⟨fun ho => ?_, fun _ => hown, fun ho => ?_, fun hin => ?_⟩
  · rw [hover] at ho
    cases ho
  · rw [hover] at ho
    cases ho
  · rw [hreturned, hstill.committed]
    exact hslot.committed (hstill.commits ▸ hin)

/-- What the transaction has returned is committed. -/
theorem LoginAt.commit {h' : Trace loginSql} {u : Uuid} (hslot : LoginAt v i j h)
    (hopen : isOver h = false) (hu : returned h = some u) (hreturned : returned h' = returned h)
    (hover : isOver h' = true) : LoginAt (v.commit i) i j h' := by
  have hlink := (hslot.openLink hopen u hu).view
  refine ⟨fun ho => ?_, fun hnone => ?_, fun ho => ?_, fun _ => ⟨u, hreturned.trans hu, hlink⟩⟩
  · rw [hover] at ho
    cases ho
  · rw [hreturned, hu] at hnone
    cases hnone
  · rw [hover] at ho
    cases ho

/-- `upsert_identity` returns the user of a link that the transaction sees. -/
theorem LoginAt.linked {u : Uuid} {h' : Trace loginSql} (hslot : LoginAt v i j h)
    (hstill : v.Still v' i) (hopen : isOver h = false)
    (hlink : v'.Links i j.idp.issuer j.idp.subject u) (hreturned : returned h' = some u) :
    LoginAt v' i j h' := by
  have hnotin : i ∉ v'.commits := by
    rw [hstill.commits]
    exact hslot.uncommitted hopen
  refine ⟨fun _ u' hu' => ?_, fun hnone => ?_, fun _ => hnotin, fun hin => absurd hin hnotin⟩
  · rw [hreturned] at hu'
    cases hu'
    exact hlink
  · rw [hreturned] at hnone
    cases hnone

/-- Where a call of the login `j` leaves the server: `h` is its trace with the answer. -/
structure LoginStep (v v' : LoginServer) (i : Nat) (j : Login) (h : Trace loginSql) : Prop where
  exclusive : ExclusiveLinks v'
  slot : LoginAt v' i j h
  others : ∀ k, k ≠ i → ∀ o, LoginSlot v k o → LoginSlot v' k o

/-- A statement that links nothing. -/
theorem LoginStep.still {h' : Trace loginSql} (hexclusive : ExclusiveLinks v)
    (hstill : v.Still v' i) (hown : v'.ownLinks i = v.ownLinks i) (hslot : LoginAt v' i j h') :
    LoginStep v v' i j h' :=
  ⟨exclusive_of_still hexclusive hstill fun _ hl => hown ▸ hl, hslot,
    fun _ hk _ ho => loginSlot_of_still ho hstill hk⟩

theorem LoginStep.keep {h' : Trace loginSql} (hexclusive : ExclusiveLinks v)
    (hslot : LoginAt v i j h) (hstill : v.Still v' i) (hown : v'.ownLinks i = v.ownLinks i)
    (hreturned : returned h' = returned h) (hover : isOver h' = isOver h) :
    LoginStep v v' i j h' :=
  .still hexclusive hstill hown (hslot.keep hstill hown hreturned hover)

theorem LoginStep.rollback {h' : Trace loginSql} (hexclusive : ExclusiveLinks v)
    (hslot : LoginAt v i j h) (hreturned : returned h' = returned h) (hover : isOver h' = true) :
    LoginStep v (v.rollback i) i j h' := by
  obtain ⟨hstill, hown⟩ := LoginServer.rollback_still (v := v) (i := i)
  refine ⟨exclusive_of_still hexclusive hstill fun _ hl => ?_, hslot.rollback hreturned hover,
    fun _ hk _ ho => loginSlot_of_still ho hstill hk⟩
  rw [hown] at hl
  cases hl

theorem LoginStep.commit {h' : Trace loginSql} (hexclusive : ExclusiveLinks v)
    (hslot : LoginAt v i j h) (hsends : j.Sends h .commit) (hreturned : returned h' = returned h)
    (hover : isOver h' = true) : LoginStep v (v.commit i) i j h' := by
  obtain ⟨hopen, hsome⟩ := hsends
  obtain ⟨u, hu⟩ := Option.isSome_iff_exists.mp hsome
  exact ⟨exclusive_commit hexclusive, hslot.commit hopen hu hreturned hover,
    fun _ hk _ ho => loginSlot_commit hexclusive ho hk⟩

/-- The link that `upsert_identity` looks for is a committed one: the login has no own yet. -/
theorem loginStep_selectLink {issuer subject : String}
    {r : (LoginStatement.selectLink issuer subject).Answer} (hexclusive : ExclusiveLinks v)
    (hslot : LoginAt v i j h) (hsends : j.Sends h (.selectLink issuer subject))
    (hr : r = .ok ((v.view i).linkOf issuer subject)) :
    LoginStep v v i j (h ++ [⟨.selectLink issuer subject, r⟩]) := by
  obtain ⟨hopen, hnone, rfl, rfl⟩ := hsends
  have hown : v.ownLinks i = [] := hslot.noLink hnone
  rw [LoginServer.linkOf_view hown] at hr
  subst hr
  cases hlink : v.store.committed.linkOf j.idp.issuer j.idp.subject with
  | none =>
    refine .keep hexclusive hslot (.refl v i) rfl (returned_concat _ _) ?_
    rw [isOver_concat]
    exact Bool.or_false _
  | some u =>
    exact .still hexclusive (.refl v i) rfl
      (hslot.linked (.refl v i) hopen (.inl ⟨hown, hlink⟩) (returned_concat _ _))

/-- The link that `upsert_identity` inserts, or finds instead. -/
theorem loginStep_insertLink {userId : Uuid} {issuer subject : String} {x : LoginOutcome}
    {r : (LoginStatement.insertLink userId issuer subject).Answer} (hexclusive : ExclusiveLinks v)
    (hslot : LoginAt v i j h) (hsends : j.Sends h (.insertLink userId issuer subject))
    (hfinds : ((v.view i).linkOf issuer subject).all (· == userId) = true)
    (ha : v.execute i x (.insertLink userId issuer subject) = some (v', r)) :
    LoginStep v v' i j (h ++ [⟨.insertLink userId issuer subject, r⟩]) := by
  obtain ⟨hopen, hnone, rfl, rfl, -⟩ := hsends
  have hown : v.ownLinks i = [] := hslot.noLink hnone
  rcases LoginServer.insertLink_cases ha with ⟨rfl, e, rfl⟩ | ⟨rfl, rfl, hfound⟩ |
    ⟨rfl, hfree, hwrite⟩
  · refine .keep hexclusive hslot (.refl v' i) rfl (returned_concat _ _) ?_
    rw [isOver_concat]
    exact Bool.or_false _
  · -- the link that is found is one to the same user
    obtain ⟨u, hu⟩ := Option.isSome_iff_exists.mp hfound
    rw [hu, Option.all_some, beq_iff_eq] at hfinds
    subst hfinds
    have hlink : v'.Links i j.idp.issuer j.idp.subject u :=
      .inl ⟨hown, (LoginServer.linkOf_view hown).symm.trans hu⟩
    exact .still hexclusive (.refl v' i) rfl
      (hslot.linked (.refl v' i) hopen hlink (returned_concat _ _))
  · obtain ⟨-, hstill, -⟩ := LoginServer.write_still hwrite
    obtain ⟨hexclusive', hlinks⟩ := exclusive_insertLink hexclusive hwrite
    have hlink : v'.Links i j.idp.issuer j.idp.subject userId := by
      refine .inr ⟨by rw [hlinks, hown]; rfl, ?_⟩
      rw [hstill.committed]
      exact (LoginServer.linkOf_view hown).symm.trans hfree
    exact ⟨hexclusive', hslot.linked hstill hopen hlink (returned_concat _ _),
      fun _ hk _ ho => loginSlot_of_still ho hstill hk⟩

/-- A login makes a call that it may send. -/
theorem login_call {c : LoginStatement} {x : LoginOutcome} {r : c.Answer}
    (hexclusive : ExclusiveLinks v) (hslot : LoginAt v i j h) (hsends : j.Sends h c)
    (hfinds : ∀ u issuer subject, c = .insertLink u issuer subject → x.reply ≠ .failed →
      ((v.view i).linkOf issuer subject).all (· == u) = true)
    (ha : v.answer i c x = some (v', r)) : LoginStep v v' i j (h ++ [⟨c, r⟩]) := by
  have hgoesOn (hc : c ≠ .commit) (hr : c ≠ .rollback) :
      isOver (h ++ [⟨c, r⟩]) = isOver h := by
    rw [isOver_concat, beq_eq_false_iff_ne.mpr hc, beq_eq_false_iff_ne.mpr hr]
    exact Bool.or_false _
  have hends (hc : c = .commit ∨ c = .rollback) : isOver (h ++ [⟨c, r⟩]) = true := by
    rw [isOver_concat]
    rcases hc with rfl | rfl
    · exact Bool.or_true _
    · exact Bool.or_true _
  obtain ⟨reply, partialSession⟩ := x
  cases reply with
  | lost =>
    cases c with
    | commit =>
      cases ha
      exact .commit hexclusive hslot hsends (returned_concat _ _) (hends (.inl rfl))
    | _ => cases ha
  | failed =>
    cases c with
    | commit =>
      cases ha
      exact .rollback hexclusive hslot (returned_concat _ _) (hends (.inl rfl))
    | rollback =>
      cases ha
      exact .rollback hexclusive hslot (returned_concat _ _) (hends (.inr rfl))
    | _ =>
      cases ha
      exact .keep hexclusive hslot (.refl v i) rfl (returned_concat _ _) (hgoesOn nofun nofun)
  | ok =>
    cases c with
    | begin =>
      replace ha : v.execute i ⟨.ok, partialSession⟩ .begin = some (v', r) := ha
      rw [LoginServer.execute] at ha
      split at ha
      · cases ha
      · cases ha
        exact .keep hexclusive hslot ⟨rfl, fun _ _ => rfl, rfl⟩ rfl (returned_concat _ _)
          (hgoesOn nofun nofun)
    | commit =>
      cases ha
      exact .commit hexclusive hslot hsends (returned_concat _ _) (hends (.inl rfl))
    | rollback =>
      cases ha
      exact .rollback hexclusive hslot (returned_concat _ _) (hends (.inr rfl))
    | upsertUser id email displayName =>
      obtain ⟨hstill, hown⟩ := LoginServer.upsertUser_still ha
      exact .keep hexclusive hslot hstill hown (returned_concat _ _) (hgoesOn nofun nofun)
    | selectUser email =>
      cases ha
      exact .keep hexclusive hslot (.refl v i) rfl (returned_concat _ _) (hgoesOn nofun nofun)
    | requiresPartialSession userId =>
      cases ha
      exact .keep hexclusive hslot (.refl v i) rfl (returned_concat _ _) (hgoesOn nofun nofun)
    | insertSession userId mfaSatisfied =>
      cases ha
      exact .keep hexclusive hslot (.refl v i) rfl (returned_concat _ _) (hgoesOn nofun nofun)
    | selectLink issuer subject =>
      cases ha
      exact loginStep_selectLink hexclusive hslot hsends rfl
    | insertLink userId issuer subject =>
      exact loginStep_insertLink (x := ⟨.ok, partialSession⟩) hexclusive hslot hsends
        (hfinds userId _ _ rfl nofun) ha

end Step

abbrev LoginState := PoolState loginSql LoginServer Login (Except PlatformError Uuid)

theorem loginPool_answer {v v' : LoginServer} {i : Nat} {c : LoginStatement} {x : LoginOutcome}
    {r : c.Answer} {js : List Login} (h : loginPool.answer v i c x = some (v', r, js)) :
    v.answer i c x = some (v', r) := by
  obtain ⟨_, hv, heq⟩ := Option.map_eq_some_iff.mp h
  cases heq
  exact hv

theorem loginPool_slots {db : LoginDb} {as : List (Act Login LoginOutcome)} {s : LoginState}
    (hC : loginPool.allSteps findsOwnLink (Pool.init (.ofDatabase db)) as = true)
    (h : loginPool.exec (Pool.init (.ofDatabase db)) as = some s) :
    Pool.Slots Login.Sends (fun _ _ _ => True) ExclusiveLinks LoginSlot s := by
  have hstart : ExclusiveLinks (.ofDatabase db) := by
    intro i k _ l hl
    cases hl
  refine Pool.exec_slots loginProgram_sends ?_ ?_
    (Pool.slots_init hstart fun i => ⟨rfl, List.not_mem_nil⟩) hC h
  · rintro v i j - ⟨hown, hcommits⟩
    exact ⟨nofun, fun _ => hown, fun _ => hcommits, fun hin => absurd hin hcommits⟩
  · intro s i x t c v r js hs hCs ht hnext hsends ha
    have hslot := hs.slot i
    rw [PoolState.slot_of_getElem? ht] at hslot
    have hfinds : ∀ u issuer subject, c = .insertLink u issuer subject → x.reply ≠ .failed →
        ((s.world.view i).linkOf issuer subject).all (· == u) = true := by
      rintro u issuer subject rfl hreply
      simp only [findsOwnLink, hnext, Bool.or_eq_true, decide_eq_true_eq] at hCs
      exact hCs.resolve_left hreply
    obtain ⟨hexclusive, hself, hothers⟩ :=
      login_call hs.world hslot hsends hfinds (loginPool_answer ha)
    exact ⟨hexclusive, hself, fun k hk => hothers k hk _ (hs.slot k)⟩

/-! ## Calls that come later -/

/-- Only commits change what is committed. -/
theorem LoginServer.answer_committed {v v' : LoginServer} {i : Nat} {c : LoginStatement}
    {x : LoginOutcome} {r : c.Answer} (h : v.answer i c x = some (v', r)) :
    v'.store.committed = v.store.committed ∨ v'.store.committed = v.view i := by
  obtain ⟨reply, partialSession⟩ := x
  cases reply with
  | lost =>
    cases c with
    | commit =>
      cases h
      exact .inr rfl
    | _ => cases h
  | failed =>
    left
    cases c <;> cases h <;> rfl
  | ok =>
    cases c with
    | begin =>
      replace h : v.execute i ⟨.ok, partialSession⟩ .begin = some (v', r) := h
      rw [LoginServer.execute] at h
      split at h
      · cases h
      · cases h
        exact .inl rfl
    | commit =>
      cases h
      exact .inr rfl
    | upsertUser id email displayName => exact .inl (LoginServer.upsertUser_still h).1.committed
    | insertLink userId issuer subject =>
      rcases LoginServer.insertLink_cases h with ⟨rfl, -⟩ | ⟨rfl, -⟩ | ⟨-, -, hwrite⟩
      · exact .inl rfl
      · exact .inl rfl
      · exact .inl (LoginServer.write_still hwrite).2.1.committed
    | _ =>
      cases h
      exact .inl rfl

section Later

variable {s s' : LoginState} {a : Act Login LoginOutcome} {issuer subject : String} {u : Uuid}

/-- Links stay. -/
theorem linkOf_step (h : loginPool.step s a = some s')
    (hlink : s.world.store.committed.linkOf issuer subject = some u) :
    s'.world.store.committed.linkOf issuer subject = some u := by
  cases a with
  | start j =>
    obtain ⟨-, rfl⟩ := Pool.step_start.mp h
    exact hlink
  | step i x =>
    obtain ⟨j, τ, c, r, hcalls⟩ := Pool.calls_of_step h
    obtain ⟨js, ha⟩ := hcalls.answer
    rcases LoginServer.answer_committed (loginPool_answer ha) with hsame | hview
    · rw [hsame]
      exact hlink
    · rw [hview]
      exact LoginDb.linkOf_foldl _ hlink

/-- A lookup that comes after the link. -/
theorem selectLink_answer {v v' : LoginServer} {i : Nat} {x : LoginOutcome} {o : Option Uuid}
    (h : v.answer i (.selectLink issuer subject) x = some (v', .ok o))
    (hlink : v.store.committed.linkOf issuer subject = some u) : o = some u := by
  obtain ⟨reply, partialSession⟩ := x
  cases reply with
  | lost => cases h
  | failed => cases h
  | ok =>
    cases h
    exact LoginDb.linkOf_foldl _ hlink

/-- The lookups of a login that come after the link. -/
theorem lookups_of_linkOf {k : Nat} {bs : List (Act Login LoginOutcome)}
    (hlink : s.world.store.committed.linkOf issuer subject = some u)
    (hlater : ∀ j h, s.slot k = some (j, h) → ∀ o, ⟨.selectLink issuer subject, .ok o⟩ ∉ h)
    (h : loginPool.exec s bs = some s') :
    ∀ j h, s'.slot k = some (j, h) → ∀ o, ⟨.selectLink issuer subject, .ok o⟩ ∈ h → o = some u := by
  have hrun := Pool.exec_invariant (C := fun _ _ => true)
    (Q := fun s₁ : LoginState => s₁.world.store.committed.linkOf issuer subject = some u ∧
      ∀ j h, s₁.slot k = some (j, h) → ∀ o, ⟨.selectLink issuer subject, .ok o⟩ ∈ h → o = some u)
    ?_ ⟨hlink, fun j h hslot o hmem => absurd hmem (hlater j h hslot o)⟩
    (Pool.allSteps_of_forall fun _ _ _ => rfl) h
  · exact hrun.2
  · rintro s₁ a s₂ ⟨hlink₁, hlookups⟩ - hstep
    refine ⟨linkOf_step hstep hlink₁, fun j h hslot o hmem => ?_⟩
    rcases Pool.slot_cases hstep hslot with hold | rfl | ⟨x, τ, c, r, rfl, rfl, hcalls⟩
    · exact hlookups j h hold o hmem
    · cases hmem
    · rcases List.mem_append.mp hmem with hmem | hmem
      · exact hlookups j τ hcalls.slot o hmem
      · cases List.mem_singleton.mp hmem
        obtain ⟨js, ha⟩ := hcalls.answer
        exact selectLink_answer (loginPool_answer ha) hlink₁

theorem returned_cases {h : Trace loginSql} (hu : returned h = some u) :
    (∃ issuer subject, ⟨.selectLink issuer subject, .ok (some u)⟩ ∈ h) ∨
      ∃ issuer subject, ⟨.insertLink u issuer subject, .ok ()⟩ ∈ h := by
  induction h using List.reverseRecOn with
  | nil => cases hu
  | append_singleton h e ih =>
    rw [returned_concat] at hu
    split at hu
    · cases hu
      exact .inl ⟨_, _, List.mem_append_right _ (List.mem_singleton_self _)⟩
    · cases hu
      exact .inr ⟨_, _, List.mem_append_right _ (List.mem_singleton_self _)⟩
    · rcases ih hu with ⟨issuer, subject, hmem⟩ | ⟨issuer, subject, hmem⟩
      · exact .inl ⟨issuer, subject, List.mem_append_left _ hmem⟩
      · exact .inr ⟨issuer, subject, List.mem_append_left _ hmem⟩

end Later

/-- As long as no link is found where the user was resolved to another one: what `upsert_identity`
has returned in a transaction that has committed is the stored link of the identity. And whenever
an identity is linked, every call for it whose lookup comes later returns the user of the link. -/
theorem links_stable {db : LoginDb} {as : List (Act Login LoginOutcome)} {s : LoginState}
    (hC : loginPool.allSteps findsOwnLink (Pool.init (.ofDatabase db)) as = true)
    (h : loginPool.exec (Pool.init (.ofDatabase db)) as = some s) :
    (∀ i j τ u, s.slot i = some (j, τ) → returned τ = some u → i ∈ s.world.commits →
      s.world.store.committed.linkOf j.idp.issuer j.idp.subject = some u) ∧
    ∀ issuer subject u, s.world.store.committed.linkOf issuer subject = some u →
      ∀ bs s', loginPool.exec s bs = some s' →
        s'.world.store.committed.linkOf issuer subject = some u ∧
        ∀ k j τ u', s'.slot k = some (j, τ) → j.idp.issuer = issuer → j.idp.subject = subject →
          (∀ j₀ τ₀, s.slot k = some (j₀, τ₀) → ∀ o, ⟨.selectLink issuer subject, .ok o⟩ ∉ τ₀) →
          returned τ = some u' → u' = u := by
  refine ⟨fun i j τ u hslot hu hin => ?_, fun issuer subject u hlink bs s' hbs => ⟨?_, ?_⟩⟩
  · have hat := (loginPool_slots hC h).slot i
    rw [hslot] at hat
    obtain ⟨u', hu', hlink⟩ := hat.committed hin
    rw [hu] at hu'
    cases hu'
    exact hlink
  · exact Pool.exec_invariant (C := fun _ _ => true)
      (Q := fun s₁ : LoginState => s₁.world.store.committed.linkOf issuer subject = some u)
      (fun s₁ a s₂ hlink₁ _ hstep => linkOf_step hstep hlink₁) hlink
      (Pool.allSteps_of_forall fun _ _ _ => rfl) hbs
  · rintro k j τ u' hslot rfl rfl hlater hu'
    have hlookups := lookups_of_linkOf hlink hlater hbs j τ hslot
    have hrun : loginPool.exec (Pool.init (.ofDatabase db)) (as ++ bs) = some s' := by
      rw [Pool.exec_append, h]
      exact hbs
    rcases returned_cases hu' with ⟨issuer, subject, hmem⟩ | ⟨issuer, subject, hmem⟩
    · obtain ⟨τ₁, τ₂, rfl⟩ := List.append_of_mem hmem
      obtain ⟨-, -, rfl, rfl⟩ := Pool.exec_calls loginProgram_sends hrun hslot
      exact Option.some.inj (hlookups _ hmem)
    · -- the lookup of a login that links its identity has found nothing
      obtain ⟨τ₁, τ₂, rfl⟩ := List.append_of_mem hmem
      obtain ⟨-, -, rfl, rfl, hnone⟩ := Pool.exec_calls loginProgram_sends hrun hslot
      cases hlookups none (List.mem_append_left _ hnone)

/-- Two logins of one identity. -/
def firstLogin : Login := ⟨1, ⟨"42", "github", some "work@example.com", "Ada"⟩⟩

def secondLogin : Login := ⟨2, ⟨"42", "github", some "home@example.com", "Ada"⟩⟩

def allOk (i n : Nat) : List (Act Login LoginOutcome) := List.replicate n (.step i ⟨.ok, false⟩)

/-- The second login comes after the first one. -/
theorem links_stable_oneAfterTheOther :
    ∃ s, loginPool.exec (Pool.init (.ofDatabase ⟨[], []⟩))
        (.start firstLogin :: .start secondLogin :: allOk 0 8 ++ allOk 1 5) = some s ∧
      s.world.commits = [0, 1] ∧
      ∀ i j τ u, s.slot i = some (j, τ) → returned τ = some u → i ∈ s.world.commits →
        s.world.store.committed.linkOf j.idp.issuer j.idp.subject = some u := by
  have hC : loginPool.allSteps findsOwnLink (Pool.init (.ofDatabase ⟨[], []⟩))
      (.start firstLogin :: .start secondLogin :: allOk 0 8 ++ allOk 1 5) = true := by
    decide +kernel
  have hrun : (loginPool.exec (Pool.init (.ofDatabase ⟨[], []⟩))
      (.start firstLogin :: .start secondLogin :: allOk 0 8 ++ allOk 1 5)).any
        (fun s => decide (s.world.commits = [0, 1])) = true := by decide +kernel
  obtain ⟨s, hs, hcommits⟩ := (Option.any_eq_true _ _).mp hrun
  exact ⟨s, hs, of_decide_eq_true hcommits, (links_stable hC hs).1⟩

/-- Both logins look for the link before either of them has made it: the second one returns the
user that it has created, whom the identity is not linked to. -/
theorem not_links_stable :
    ¬ ∀ (db : LoginDb) (as : List (Act Login LoginOutcome)) (s : LoginState),
      loginPool.exec (Pool.init (.ofDatabase db)) as = some s →
      ∀ i j τ u, s.slot i = some (j, τ) → returned τ = some u → i ∈ s.world.commits →
        s.world.store.committed.linkOf j.idp.issuer j.idp.subject = some u := by
  intro hall
  have hrun : (loginPool.exec (Pool.init (.ofDatabase ⟨[], []⟩))
      (.start firstLogin :: .start secondLogin :: allOk 0 2 ++ allOk 1 2 ++ allOk 0 6 ++
        allOk 1 6)).any (fun s =>
          decide (1 ∈ s.world.commits ∧ s.jobs[1]? = some secondLogin ∧
            (s.slot 1).map (fun p => returned p.2) = some (some 2) ∧
            s.world.store.committed.linkOf "github" "42" = some 1)) = true := by decide +kernel
  obtain ⟨s, hs, hbad⟩ := (Option.any_eq_true _ _).mp hrun
  obtain ⟨hin, hjob, hreturned, hlink⟩ := of_decide_eq_true hbad
  obtain ⟨⟨j, τ⟩, hslot, hu⟩ := Option.map_eq_some_iff.mp hreturned
  obtain rfl : j = secondLogin := Option.some.inj ((PoolState.job_of_slot hslot).symm.trans hjob)
  have hsame := hall _ _ s hs 1 secondLogin τ 2 hslot hu hin
  rw [show secondLogin.idp.issuer = "github" from rfl,
    show secondLogin.idp.subject = "42" from rfl, hlink] at hsame
  exact absurd hsame (by decide)

end Kubinate.Access
