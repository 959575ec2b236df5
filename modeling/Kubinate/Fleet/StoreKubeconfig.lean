import Kubinate.Fleet.Erasure
import Kubinate.Library.Together

/-!
# `store_kubeconfig` called again

Every call puts a new secret, whose id is compared with the one that the row has. A second call
never finds its own, takes its secret back and fails.

* `course_of_store`: how a call can go.
* `Stored.call`: what a further call leaves of a kubeconfig that is stored.
* `store_kubeconfig_never_idempotent`: no further call succeeds, what was stored can be fetched, and
  a call that fails leaves nothing behind exactly if the reply to its put was not lost.
-/

namespace Kubinate.Fleet.StoreKubeconfig

open Platform Library Secrets Clusters

/-- How the tables answer when nobody else uses them. -/
def reply (store : PgcryptoStore) (db : FleetDb) (c : FleetCall) (x : FleetOutcome) :
    Option (FleetDb × c.Answer) :=
  some (db.answer store c x)

/-- The clean-up delete succeeds. -/
def cleansUp (store : PgcryptoStore) (db : FleetDb) (c : FleetCall) (x : FleetOutcome) : Bool :=
  match c with
  | .onCluster organizationId id (.deleteSecret secretId) =>
    (db.answer store (.onCluster organizationId id (.deleteSecret secretId)) x).2.isOk
  | _ => true

/-- The secret is put and nobody hears of it. -/
def putLost (store : PgcryptoStore) (organizationId : Uuid) (kubeconfig : String) (db : FleetDb)
    (x : FleetOutcome) : Bool :=
  x.reply == .lost && (db.putSecret store organizationId kubeconfig x.draw).2.isOk

section Calls

variable (store : PgcryptoStore) (organizationId id : Uuid) (kubeconfig : String)

/-- `store_kubeconfig` on these tables, whose `n`-th call goes as `xs n` says. -/
def storeCall (db : FleetDb) (xs : Nat → FleetOutcome) : Option (FleetDb × Except RunError Unit) :=
  (forCluster organizationId id (ClusterService.storeKubeconfig kubeconfig).run).replay (reply store)
    xs 0 db

/-- The clean-up delete of the call, if it makes one, succeeds. -/
def storeCleansUp (db : FleetDb) (xs : Nat → FleetOutcome) : Bool :=
  (forCluster organizationId id (ClusterService.storeKubeconfig kubeconfig).run).replayAll (reply store)
    xs (cleansUp store) 0 db

/-- The tables after these calls, one after the other. -/
def afterCalls (db : FleetDb) : List (Nat → FleetOutcome) → Option FleetDb
  | [] => some db
  | xs :: calls => (storeCall store organizationId id kubeconfig db xs).bind fun p =>
      afterCalls p.1 calls

/-- `fetch_kubeconfig` -/
def fetchCall (db : FleetDb) (xs : Nat → FleetOutcome) : Option (FleetDb × Except RunError String) :=
  (forCluster organizationId id (ClusterService.fetchKubeconfig id).run).replay (reply store) xs 0 db

/-- How a call of `store_kubeconfig` goes: the secret is not put, it is put and recorded, or it is
put and, the row being left alone, deleted again. -/
inductive StoreCourse (db : FleetDb) (xs : Nat → FleetOutcome) : FleetDb → Except RunError Unit → Prop
  | unput {db₁ : FleetDb} {e : PlatformError}
    (hput : db.answer store (.onCluster organizationId id (.putSecret kubeconfig)) (xs 0) =
      (db₁, .error e)) : StoreCourse db xs db₁ (.error (.platform e))
  | recorded {db₁ db₂ : FleetDb} {secretId : Uuid}
    (hput : db.answer store (.onCluster organizationId id (.putSecret kubeconfig)) (xs 0) =
      (db₁, .ok secretId))
    (hset : db₁.answer store (.onCluster organizationId id (.setKubeconfigSecret secretId)) (xs 1) =
      (db₂, .ok ())) : StoreCourse db xs db₂ (.ok ())
  | takenBack {db₁ db₂ db₃ : FleetDb} {secretId : Uuid} {e : PlatformError}
    {r : Except PlatformError Unit}
    (hput : db.answer store (.onCluster organizationId id (.putSecret kubeconfig)) (xs 0) =
      (db₁, .ok secretId))
    (hset : db₁.answer store (.onCluster organizationId id (.setKubeconfigSecret secretId)) (xs 1) =
      (db₂, .error e))
    (hdelete : db₂.answer store (.onCluster organizationId id (.deleteSecret secretId)) (xs 2) =
      (db₃, r))
    (hclean : storeCleansUp store organizationId id kubeconfig db xs = true → r = .ok ()) :
    StoreCourse db xs db₃ (.error (.platform e))

end Calls

section Course

variable {store : PgcryptoStore} {organizationId id : Uuid} {kubeconfig : String}
  {db db' : FleetDb} {xs : Nat → FleetOutcome} {r : Except RunError Unit}

theorem reply_of_answer {db db' : FleetDb} {c : FleetCall} {x : FleetOutcome} {r : c.Answer}
    (h : db.answer store c x = (db', r)) : reply store db c x = some (db', r) :=
  congrArg some h

theorem course_of_store (h : storeCall store organizationId id kubeconfig db xs = some (db', r)) :
    StoreCourse store organizationId id kubeconfig db xs db' r := by
  obtain ⟨⟨db₁, put⟩, hput⟩ : ∃ p, db.answer store
    (.onCluster organizationId id (.putSecret kubeconfig)) (xs 0) = p := ⟨_, rfl⟩
  have h := (Program.replay_call (reply_of_answer hput)).symm.trans h
  rcases put with e | secretId
  · cases h
    exact .unput hput
  obtain ⟨⟨db₂, recorded⟩, hset⟩ : ∃ p, db₁.answer store
    (.onCluster organizationId id (.setKubeconfigSecret secretId)) (xs 1) = p := ⟨_, rfl⟩
  have h := (Program.replay_call (reply_of_answer hset)).symm.trans h
  rcases recorded with e | ⟨⟩
  · obtain ⟨⟨db₃, deleted⟩, hdelete⟩ : ∃ p, db₂.answer store
      (.onCluster organizationId id (.deleteSecret secretId)) (xs 2) = p := ⟨_, rfl⟩
    have h := (Program.replay_call (reply_of_answer hdelete)).symm.trans h
    cases h
    refine .takenBack hput hset hdelete fun hclean => ?_
    have hfirst := Program.replayAll_call (reply_of_answer hput) hclean
    have hsecond := Program.replayAll_call (reply_of_answer hset) hfirst.2
    have hthird := Program.replayAll_call (reply_of_answer hdelete) hsecond.2
    have hok : deleted.isOk = true := by
      rw [show deleted = _ from (congrArg Prod.snd hdelete).symm]
      exact hthird.1
    rcases deleted with e | ⟨⟩
    · cases hok
    · rfl
  · cases h
    exact .recorded hput hset

end Course

/-! ## The three calls -/

section Answers

variable {store : PgcryptoStore} {organizationId id secretId : Uuid} {kubeconfig : String}
  {db db' : FleetDb} {x : FleetOutcome}

/-- A call takes effect, and its reply may be lost, or it fails and changes nothing. -/
theorem answer_cases {c : FleetCall} {r : c.Answer} (h : db.answer store c x = (db', r)) :
    db' = (db.execute store x c).1 ∧ (x.reply = .ok ∧ r = (db.execute store x c).2 ∨
        x.reply = .lost ∧ r = brokenAnswer x c) ∨
      db' = db ∧ x.reply = .failed ∧ r = brokenAnswer x c := by
  unfold FleetDb.answer at h
  split at h
  · next hreply =>
    rw [h]
    exact .inl ⟨rfl, .inl ⟨hreply, rfl⟩⟩
  · next hreply =>
    cases h
    exact .inr ⟨rfl, hreply, rfl⟩
  · next hreply =>
    cases h
    exact .inl ⟨rfl, .inr ⟨hreply, rfl⟩⟩

theorem putSecret_cases (store : PgcryptoStore) (db : FleetDb) (organizationId : Uuid)
    (kubeconfig : String) (draw : Draw) :
    (db.putSecret store organizationId kubeconfig draw).1.secrets.rows = db.secrets.rows ∧
        (∃ e, (db.putSecret store organizationId kubeconfig draw).2 = .error e) ∨
      draw.id ∉ db.secrets.rows.map (·.id) ∧
        (db.putSecret store organizationId kubeconfig draw).1.secrets.rows =
          db.secrets.rows ++ [store.envelope organizationId kubeconfig draw] ∧
        (db.putSecret store organizationId kubeconfig draw).2 = .ok ⟨draw.id, organizationId⟩ := by
  rcases put_cases store db.secretsDb organizationId kubeconfig draw with
    ⟨hsame, herror⟩ | hput
  · exact .inl ⟨congrArg (·.secrets.rows) hsame, herror⟩
  · exact .inr hput

/-- A put adds a secret or fails; the answer is lost in between. -/
theorem put_call {r : Except PlatformError Uuid}
    (h : db.answer store (.onCluster organizationId id (.putSecret kubeconfig)) x = (db', r)) :
    db'.clusters = db.clusters ∧
      (db'.secrets.rows = db.secrets.rows ∧ (∃ e, r = .error e) ∧
          putLost store organizationId kubeconfig db x = false ∨
        x.draw.id ∉ db.secrets.rows.map (·.id) ∧
          db'.secrets.rows = db.secrets.rows ++ [store.envelope organizationId kubeconfig x.draw] ∧
          (r = .ok x.draw.id ∧ putLost store organizationId kubeconfig db x = false ∨
            (∃ e, r = .error e) ∧ putLost store organizationId kubeconfig db x = true)) := by
  have hput := putSecret_cases store db organizationId kubeconfig x.draw
  rw [putLost]
  rcases answer_cases h with ⟨rfl, ⟨hreply, hr⟩ | ⟨hreply, rfl⟩⟩ | ⟨rfl, hreply, rfl⟩
  · replace hr : r = ((db.putSecret store organizationId kubeconfig x.draw).2.map
      (·.id)).mapError SecretError.toPlatform := hr
    rw [hreply]
    rcases hput with ⟨hsame, e, he⟩ | ⟨hfresh, hrows, hok⟩
    · rw [he] at hr
      exact ⟨rfl, .inl ⟨hsame, ⟨_, hr⟩, rfl⟩⟩
    · rw [hok] at hr
      exact ⟨rfl, .inr ⟨hfresh, hrows, .inl ⟨hr, rfl⟩⟩⟩
  · rw [hreply]
    rcases hput with ⟨hsame, e, he⟩ | ⟨hfresh, hrows, hok⟩
    · rw [he]
      exact ⟨rfl, .inl ⟨hsame, ⟨_, rfl⟩, rfl⟩⟩
    · rw [hok]
      exact ⟨rfl, .inr ⟨hfresh, hrows, .inr ⟨⟨_, rfl⟩, rfl⟩⟩⟩
  · rw [hreply]
    exact ⟨rfl, .inl ⟨rfl, ⟨_, rfl⟩, rfl⟩⟩

/-- The row of the cluster is the only one with its id. -/
theorem handle_of_mem {c : ClusterRow} (hc : c ∈ db.clusters)
    (hlive : c.isLiveAt organizationId id = true) :
    db.kubeconfigSecret organizationId id = .ok c.kubeconfigSecretId := by
  unfold FleetDb.kubeconfigSecret
  split
  · next c' hfound =>
    have hlive' := List.find?_some hfound
    have hids : c'.id = c.id :=
      (FleetDb.isLiveAt_iff.mp hlive').1.trans (FleetDb.isLiveAt_iff.mp hlive).1.symm
    rw [List.inj_on_of_nodup_map db.clusterKey (List.mem_of_find?_eq_some hfound) hc hids]
  · next hnone => exact absurd hlive (List.find?_eq_none.mp hnone c hc)

/-- A set fails, or it gives the handle to the row, which had none or this one. -/
theorem set_call {r : Except PlatformError Unit}
    (h : db.answer store (.onCluster organizationId id (.setKubeconfigSecret secretId)) x = (db', r)) :
    db'.secrets = db.secrets ∧ (db'.clusters = db.clusters ∧ (∃ e, r = .error e) ∨
      db'.kubeconfigSecret organizationId id = .ok (some secretId) ∧
        (db.kubeconfigSecret organizationId id = .ok none ∨
          db.kubeconfigSecret organizationId id = .ok (some secretId))) := by
  have hset : (db.setKubeconfigSecret x.draw.now organizationId id secretId).1.secrets = db.secrets ∧
      ((db.setKubeconfigSecret x.draw.now organizationId id secretId).1.clusters = db.clusters ∧
          (∃ e, (db.setKubeconfigSecret x.draw.now organizationId id secretId).2 = .error e) ∨
        (db.setKubeconfigSecret x.draw.now organizationId id secretId).1.kubeconfigSecret
            organizationId id = .ok (some secretId) ∧
          (db.kubeconfigSecret organizationId id = .ok none ∨
            db.kubeconfigSecret organizationId id = .ok (some secretId))) := by
    unfold FleetDb.setKubeconfigSecret
    split
    · exact ⟨rfl, .inl ⟨rfl, _, rfl⟩⟩
    next htakes =>
    split
    · refine ⟨rfl, .inr ?_⟩
      rw [Bool.not_eq_true, Bool.not_eq_false'] at htakes
      obtain ⟨c, hc, htake⟩ := List.any_eq_true.mp htakes
      obtain ⟨hlive, hfree⟩ := (Bool.and_eq_true _ _).mp htake
      constructor
      · have hrow := List.mem_map_of_mem (f := fun c : ClusterRow =>
          if FleetDb.takesKubeconfig c organizationId id secretId then
            { c with
              toCluster := { c.toCluster with kubeconfigSecretId := some secretId }
              updatedAt := x.draw.now, version := c.version + 1 } else c) hc
        rw [if_pos htake] at hrow
        refine Eq.trans (handle_of_mem hrow ?_) rfl
        exact hlive
      · rw [handle_of_mem hc hlive]
        rw [Bool.or_eq_true, Option.isNone_iff_eq_none, beq_iff_eq] at hfree
        exact hfree.imp (congrArg _) (congrArg _)
    · exact ⟨rfl, .inl ⟨rfl, _, rfl⟩⟩
  rcases answer_cases h with ⟨rfl, ⟨-, hr⟩ | ⟨-, rfl⟩⟩ | ⟨rfl, -, rfl⟩
  · refine ⟨hset.1, hset.2.imp (fun hfailed => ⟨hfailed.1, ?_⟩) fun hdone => hdone⟩
    rw [hr]
    exact hfailed.2
  · exact ⟨hset.1, hset.2.imp (fun hfailed => ⟨hfailed.1, _, rfl⟩) fun hdone => hdone⟩
  · exact ⟨rfl, .inl ⟨rfl, _, rfl⟩⟩

/-- A delete is refused, or it takes away what it sees under the id. -/
theorem deleteSecret_cases (db : FleetDb) (handle : SecretRef) :
    (db.deleteSecret handle).1.secrets = db.secrets ∧ (∃ e, (db.deleteSecret handle).2 = .error e) ∨
      (db.deleteSecret handle).1.secrets.rows = db.secrets.rows.filter (fun row =>
          !(row.id == handle.id && row.organizationId == handle.organizationId)) ∧
        (db.deleteSecret handle).2 = .ok () := by
  show (db.secretsDb.blankAndDelete handle).1.secrets = _ ∧
      (∃ e, (db.secretsDb.blankAndDelete handle).2 = .error e) ∨
    (db.secretsDb.blankAndDelete handle).1.secrets.rows = _ ∧
      (db.secretsDb.blankAndDelete handle).2 = .ok ()
  cases hdelete : (db.secretsDb.blankSecret (.app handle.organizationId) handle.id).deleteSecret
    (.app handle.organizationId) handle.id with
  | error e =>
    rw [SecretsDb.blankAndDelete, hdelete]
    exact .inl ⟨rfl, _, rfl⟩
  | ok sdb =>
    rw [SecretsDb.blankAndDelete, hdelete]
    unfold SecretsDb.deleteSecret at hdelete
    split at hdelete
    · cases hdelete
    · cases hdelete
      have hsame : (db.secretsDb.blankSecret (.app handle.organizationId) handle.id).secrets.delete
          (fun row => row.id == handle.id && row.organizationId == handle.organizationId) =
            db.secrets.delete fun row =>
              row.id == handle.id && row.organizationId == handle.organizationId := by
        show (db.secrets.update (fun row => row.id == handle.id &&
          row.organizationId == handle.organizationId) (fun row =>
            { row with ciphertext := .empty, wrappedDek := .empty }) fun _ => rfl).delete _ = _
        exact SecretsTable.delete_update _ fun _ => rfl
      have hrows := congrArg SecretsTable.rows hsame
      exact .inr ⟨hrows, rfl⟩

/-- The clean-up delete takes away at most the secret, not if a row refers to it, and it has taken it
away if it succeeds. -/
theorem delete_call {r : Except PlatformError Unit}
    (h : db.answer store (.onCluster organizationId id (.deleteSecret secretId)) x = (db', r)) :
    db'.clusters = db.clusters ∧ db'.secrets.rows ⊆ db.secrets.rows ∧
      (∀ row ∈ db.secrets.rows, row.id ≠ secretId ∨ ⟨secretId, organizationId⟩ ∈ db.handles →
        row ∈ db'.secrets.rows) ∧
      (r = .ok () → ∀ row ∈ db'.secrets.rows, row.id = secretId →
        row.organizationId ≠ organizationId) := by
  have hkept : ∀ row ∈ db.secrets.rows, row.id ≠ secretId ∨ ⟨secretId, organizationId⟩ ∈ db.handles →
      row ∈ db'.secrets.rows := by
    intro row hrow hreason
    have heffects := @FleetDb.effects_answer db store
      (.onCluster organizationId id (.deleteSecret secretId)) x
    rw [h] at heffects
    rcases heffects.secrets_kept row hrow with hin | ⟨handle, hdeletes, hid, hunreferenced⟩
    · exact hin
    cases hdeletes
    rcases hreason with hother | hreferenced
    · exact absurd hid hother
    · exact absurd (List.mem_map_of_mem hreferenced) hunreferenced
  have hcases := deleteSecret_cases db ⟨secretId, organizationId⟩
  have hsubset : (db.deleteSecret ⟨secretId, organizationId⟩).1.secrets.rows ⊆ db.secrets.rows := by
    rcases hcases with ⟨hsame, -⟩ | ⟨hgone, -⟩
    · rw [hsame]
      exact List.Subset.refl _
    · rw [hgone]
      exact fun row hrow => List.mem_of_mem_filter hrow
  rcases answer_cases h with ⟨rfl, ⟨-, hr⟩ | ⟨-, rfl⟩⟩ | ⟨rfl, -, rfl⟩
  · refine ⟨rfl, hsubset, hkept, fun hok row hrow hid htenant => ?_⟩
    rw [hok] at hr
    replace hr : Except.ok () = (db.deleteSecret ⟨secretId, organizationId⟩).2.mapError
      SecretError.toPlatform := hr
    rcases hcases with ⟨-, e, he⟩ | ⟨hgone, -⟩
    · rw [he] at hr
      cases hr
    · replace hrow : row ∈ (db.deleteSecret ⟨secretId, organizationId⟩).1.secrets.rows := hrow
      rw [hgone, List.mem_filter, hid, htenant, BEq.rfl, BEq.rfl] at hrow
      cases hrow.2
  · exact ⟨rfl, hsubset, hkept, nofun⟩
  · exact ⟨rfl, List.Subset.refl _, hkept, nofun⟩

theorem handle_congr (h : db'.clusters = db.clusters) :
    db'.kubeconfigSecret organizationId id = db.kubeconfigSecret organizationId id := by
  rw [FleetDb.kubeconfigSecret, h]
  rfl

end Answers

/-! ## What a call leaves -/

section Leaves

variable {store : PgcryptoStore} {organizationId id secretId : Uuid} {kubeconfig : String}
  {db db' : FleetDb} {xs : Nat → FleetOutcome} {r : Except RunError Unit}

/-- The row of the cluster has this handle, and the kubeconfig can be read under it. -/
structure Stored (store : PgcryptoStore) (organizationId id : Uuid) (kubeconfig : String) (db : FleetDb)
    (secretId : Uuid) : Prop where
  handle : db.kubeconfigSecret organizationId id = .ok (some secretId)
  secret : ∃ row ∈ db.secrets.rows, row.id = secretId ∧ row.organizationId = organizationId ∧
    row.decryptEnvelope store.pgcrypto store.kek = .ok kubeconfig

theorem Stored.mono (h : Stored store organizationId id kubeconfig db secretId)
    (hclusters : db'.clusters = db.clusters)
    (hsecrets : ∀ row ∈ db.secrets.rows, row.id = secretId → row ∈ db'.secrets.rows) :
    Stored store organizationId id kubeconfig db' secretId := by
  obtain ⟨row, hrow, hid, hreads⟩ := h.secret
  exact ⟨(handle_congr hclusters).trans h.handle, row, hsecrets row hrow hid, hid, hreads⟩

theorem Stored.mem_ids (h : Stored store organizationId id kubeconfig db secretId) :
    secretId ∈ db.secrets.rows.map (·.id) := by
  obtain ⟨row, hrow, hid, -⟩ := h.secret
  exact List.mem_map.mpr ⟨row, hrow, hid⟩

/-- A call that succeeds has stored the kubeconfig. -/
theorem stored_of_ok (hlawful : store.pgcrypto.Lawful)
    (h : storeCall store organizationId id kubeconfig db xs = some (db', .ok ())) :
    ∃ secretId, Stored store organizationId id kubeconfig db' secretId := by
  cases course_of_store h with
  | @recorded db₁ _ secretId hput hset =>
    obtain ⟨-, ⟨-, ⟨e, he⟩, -⟩ | ⟨-, hrows, ⟨hid, -⟩ | ⟨⟨e, he⟩, -⟩⟩⟩ := put_call hput
    · cases he
    · cases hid
      obtain ⟨hsecrets, ⟨-, e, he⟩ | ⟨hhandle, -⟩⟩ := set_call hset
      · cases he
      refine ⟨_, hhandle, store.envelope organizationId kubeconfig (xs 0).draw, ?_, rfl, rfl, ?_⟩
      · rw [hsecrets, hrows]
        exact List.mem_append_right _ List.mem_cons_self
      · simp only [SecretRow.decryptEnvelope, PgcryptoStore.envelope, hlawful.decrypt_encrypt]
    · cases he

/-- The id of a new secret is not the one that the row has, so the row is left alone. -/
theorem Stored.untaken (h : Stored store organizationId id kubeconfig db secretId) {db₁ db₂ : FleetDb}
    {newId : Uuid} {x : FleetOutcome} {r : Except PlatformError Unit}
    (hnew : newId ∉ db.secrets.rows.map (·.id)) (hclusters : db₁.clusters = db.clusters)
    (hset : db₁.answer store (.onCluster organizationId id (.setKubeconfigSecret newId)) x = (db₂, r)) :
    db₂.clusters = db.clusters ∧ db₂.secrets = db₁.secrets ∧ ∃ e, r = .error e := by
  obtain ⟨hsecrets, ⟨hsame, herror⟩ | ⟨-, hnone | hsome⟩⟩ := set_call hset
  · exact ⟨hsame.trans hclusters, hsecrets, herror⟩
  · rw [handle_congr hclusters, h.handle] at hnone
    cases hnone
  · rw [handle_congr hclusters, h.handle] at hsome
    cases hsome
    exact absurd h.mem_ids hnew

/-- A further call fails, and leaves the row and its kubeconfig alone. -/
theorem Stored.call (h : Stored store organizationId id kubeconfig db secretId) {kubeconfig' : String}
    (hcall : storeCall store organizationId id kubeconfig' db xs = some (db', r)) :
    (∃ e, r = .error e) ∧ db'.clusters = db.clusters ∧
      Stored store organizationId id kubeconfig db' secretId := by
  cases course_of_store hcall with
  | unput hput =>
    obtain ⟨hclusters, ⟨hrows, -, -⟩ | ⟨-, hrows, -⟩⟩ := put_call hput
    · refine ⟨⟨_, rfl⟩, hclusters, h.mono hclusters fun row hrow _ => ?_⟩
      rwa [hrows]
    · refine ⟨⟨_, rfl⟩, hclusters, h.mono hclusters fun row hrow _ => ?_⟩
      rw [hrows]
      exact List.mem_append_left _ hrow
  | recorded hput hset =>
    obtain ⟨hclusters, ⟨-, ⟨e, he⟩, -⟩ | ⟨hfresh, -, ⟨hid, -⟩ | ⟨⟨e, he⟩, -⟩⟩⟩ := put_call hput
    · cases he
    · cases hid
      obtain ⟨-, -, e, he⟩ := h.untaken hfresh hclusters hset
      cases he
    · cases he
  | takenBack hput hset hdelete hclean =>
    obtain ⟨hclusters, ⟨-, ⟨e, he⟩, -⟩ | ⟨hfresh, hrows, ⟨hid, -⟩ | ⟨⟨e, he⟩, -⟩⟩⟩ := put_call hput
    · cases he
    · cases hid
      obtain ⟨hrow, hsecrets, -⟩ := h.untaken hfresh hclusters hset
      obtain ⟨hrow', -, hkept, -⟩ := delete_call hdelete
      refine ⟨⟨_, rfl⟩, hrow'.trans hrow, h.mono (hrow'.trans hrow) fun row hmem hid => ?_⟩
      refine hkept row ?_ (.inl fun hsame => ?_)
      · rw [hsecrets, hrows]
        exact List.mem_append_left _ hmem
      · exact hfresh (hsame ▸ List.mem_map_of_mem hmem)
    · cases he

theorem Stored.calls (h : Stored store organizationId id kubeconfig db secretId)
    {calls : List (Nat → FleetOutcome)}
    (hcalls : afterCalls store organizationId id kubeconfig db calls = some db') :
    db'.clusters = db.clusters ∧ Stored store organizationId id kubeconfig db' secretId := by
  induction calls generalizing db with
  | nil =>
    cases hcalls
    exact ⟨rfl, h⟩
  | cons xs calls ih =>
    rw [afterCalls, Option.bind_eq_some_iff] at hcalls
    obtain ⟨⟨db₁, r⟩, hcall, hrest⟩ := hcalls
    obtain ⟨-, hclusters, h₁⟩ := h.call hcall
    obtain ⟨hclusters', h'⟩ := ih h₁ hrest
    exact ⟨hclusters'.trans hclusters, h'⟩

/-- What is stored is fetched. -/
theorem Stored.fetch (h : Stored store organizationId id kubeconfig db secretId)
    (hxs : ∀ n, (xs n).reply = .ok) :
    fetchCall store organizationId id db xs = some (db, .ok kubeconfig) := by
  have hhandle : db.answer store (.onCluster organizationId id .kubeconfigSecret) (xs 0) =
      (db, .ok (some secretId)) := by
    rw [FleetDb.answer, hxs]
    exact congrArg (Prod.mk db) h.handle
  have hget : db.answer store (.onCluster organizationId id (.getSecret secretId)) (xs 1) =
      (db, .ok kubeconfig) := by
    obtain ⟨row, hrow, rfl, htenant, hreads⟩ := h.secret
    have hselect : db.secretsDb.secrets.select (.app organizationId) row.id = some row :=
      SecretsTable.select_eq_some hrow (by rw [Session.sees, htenant, BEq.rfl])
    have hread : db.getSecret store ⟨row.id, organizationId⟩ = .ok kubeconfig := by
      simp only [FleetDb.getSecret, PgcryptoStore.get, hselect, hreads]
    rw [FleetDb.answer, hxs]
    exact congrArg (fun r => (db, r.mapError SecretError.toPlatform)) hread
  refine Eq.trans (Program.replay_call (reply_of_answer hhandle)) ?_
  refine Eq.trans (Program.replay_call (reply_of_answer hget)) ?_
  rfl

/-- A call that fails leaves nothing behind, if its clean-up succeeds, exactly if the reply to the
put was not lost. -/
theorem leaves_nothing_iff {e : RunError}
    (h : storeCall store organizationId id kubeconfig db xs = some (db', .error e))
    (hcleans : storeCleansUp store organizationId id kubeconfig db xs = true) :
    (db'.clusters = db.clusters ∧ ∀ row ∈ db'.secrets.rows, row ∈ db.secrets.rows) ↔
      putLost store organizationId kubeconfig db (xs 0) = false := by
  cases course_of_store h with
  | unput hput =>
    obtain ⟨hclusters, ⟨hrows, -, hlost⟩ | ⟨hfresh, hrows, ⟨hok, -⟩ | ⟨-, hlost⟩⟩⟩ := put_call hput
    · exact ⟨fun _ => hlost, fun _ => ⟨hclusters, fun row hrow => hrows ▸ hrow⟩⟩
    · cases hok
    · rw [hlost]
      refine ⟨fun ⟨_, hnothing⟩ => ?_, nofun⟩
      -- the new secret is still there
      have hnew := hnothing (store.envelope organizationId kubeconfig (xs 0).draw)
        (hrows ▸ List.mem_append_right _ List.mem_cons_self)
      exact absurd (List.mem_map_of_mem hnew) hfresh
  | takenBack hput hset hdelete hclean =>
    obtain ⟨hclusters, ⟨-, ⟨e, he⟩, -⟩ | ⟨hfresh, hrows, ⟨hid, hlost⟩ | ⟨⟨e, he⟩, -⟩⟩⟩ := put_call hput
    · cases he
    · cases hid
      rw [hlost]
      refine iff_of_true ?_ rfl
      obtain ⟨hsecrets, hrecorded⟩ := set_call hset
      obtain ⟨hrow, hsubset, hkept, hgone⟩ := delete_call hdelete
      have hgone := hgone (hclean hcleans)
      constructor
      · rcases hrecorded with ⟨hsame, -⟩ | ⟨hhandle, -⟩
        · exact (hrow.trans hsame).trans hclusters
        · -- the secret that the row refers to would be there
          have hstill := hkept (store.envelope organizationId kubeconfig (xs 0).draw)
            (by rw [hsecrets, hrows]; exact List.mem_append_right _ List.mem_cons_self)
            (.inr (mem_handles_of_kubeconfigSecret hhandle))
          exact absurd rfl (hgone _ hstill rfl)
      · intro row hmem
        have hbefore := hsubset hmem
        rw [hsecrets, hrows] at hbefore
        rcases List.mem_append.mp hbefore with hold | hnew
        · exact hold
        · cases List.mem_singleton.mp hnew
          exact absurd rfl (hgone _ hmem rfl)
    · cases he

end Leaves

/-- After a call that has succeeded, and any number of further calls, one more call with the same
kubeconfig fails, whatever way its calls go, and leaves the row as the first call has left it; the
kubeconfig is fetched all the same. A call that fails, with a clean-up delete that succeeds, leaves
the row as it was and no secret behind, exactly if the reply to a put that takes effect was not
lost. -/
theorem store_kubeconfig_never_idempotent (store : PgcryptoStore) (hlawful : store.pgcrypto.Lawful)
    (organizationId id : Uuid) (kubeconfig : String) :
    (∀ (db db₁ db₂ : FleetDb) (xs : Nat → FleetOutcome) (calls : List (Nat → FleetOutcome)),
      storeCall store organizationId id kubeconfig db xs = some (db₁, .ok ()) →
      afterCalls store organizationId id kubeconfig db₁ calls = some db₂ →
      (∀ ys db₃ r, storeCall store organizationId id kubeconfig db₂ ys = some (db₃, r) →
        (∃ e, r = .error e) ∧ db₃.clusters = db₁.clusters) ∧
      ∀ zs : Nat → FleetOutcome, (∀ n, (zs n).reply = .ok) →
        fetchCall store organizationId id db₂ zs = some (db₂, .ok kubeconfig)) ∧
    ∀ (db db' : FleetDb) (xs : Nat → FleetOutcome) (e : RunError),
      storeCall store organizationId id kubeconfig db xs = some (db', .error e) →
      storeCleansUp store organizationId id kubeconfig db xs = true →
      ((db'.clusters = db.clusters ∧ ∀ row ∈ db'.secrets.rows, row ∈ db.secrets.rows) ↔
        putLost store organizationId kubeconfig db (xs 0) = false) := by
  refine ⟨fun db db₁ db₂ xs calls hfirst hcalls => ?_, fun db db' xs e h hcleans =>
    leaves_nothing_iff h hcleans⟩
  obtain ⟨secretId, hstored⟩ := stored_of_ok hlawful hfirst
  obtain ⟨hclusters, hstill⟩ := hstored.calls hcalls
  refine ⟨fun ys db₃ r hcall => ?_, fun zs hzs => hstill.fetch hzs⟩
  obtain ⟨herror, hsame, -⟩ := hstill.call hcall
  exact ⟨herror, hsame.trans hclusters⟩

/-- Organization 7 with the cluster 80. -/
def oneCluster : FleetDb :=
  (((emptyFleet.putSecret clearStore 7 "token" (fine 70 0).draw).1.insertCredential 0 71 7 "main"
    ⟨70, 7⟩).1.insertCluster 1 80 7 ⟨"a", "nbg1", "cpx21", 1, 1, 71⟩).1

/-- Every call succeeds; a secret gets this id. -/
def storing (id : Uuid) (n : Nat) : FleetOutcome := fine id n

theorem store_kubeconfig_never_idempotent_storedTwice :
    ∃ db₁ db₂, storeCall clearStore 7 80 "apiVersion: v1" oneCluster (storing 90) =
        some (db₁, .ok ()) ∧
      afterCalls clearStore 7 80 "apiVersion: v1" db₁ [storing 91] = some db₂ ∧
      fetchCall clearStore 7 80 db₂ (storing 92) = some (db₂, .ok "apiVersion: v1") := by
  have hrun : (storeCall clearStore 7 80 "apiVersion: v1" oneCluster (storing 90)).any (fun p =>
      decide (p.2 = .ok ()) &&
        (afterCalls clearStore 7 80 "apiVersion: v1" p.1 [storing 91]).isSome) = true := by
    decide +kernel
  obtain ⟨⟨db₁, r⟩, hfirst, hrest⟩ := (Option.any_eq_true _ _).mp hrun
  rw [Bool.and_eq_true, decide_eq_true_eq] at hrest
  obtain ⟨rfl, hsome⟩ := hrest
  obtain ⟨db₂, hcalls⟩ := Option.isSome_iff_exists.mp hsome
  refine ⟨db₁, db₂, hfirst, hcalls, ?_⟩
  exact ((store_kubeconfig_never_idempotent clearStore lawful_clearPgcrypto 7 80 _).1 _ _ _ _ _ hfirst
    hcalls).2 _ fun n => rfl

/-- Two calls of which every call succeeds: the second answers `409`. -/
theorem not_store_kubeconfig_idempotent :
    ¬ ∀ (store : PgcryptoStore) (organizationId id : Uuid) (kubeconfig : String)
      (db db₁ db₂ : FleetDb) (xs ys : Nat → FleetOutcome) (r : Except RunError Unit),
      store.pgcrypto.Lawful →
      storeCall store organizationId id kubeconfig db xs = some (db₁, .ok ()) →
      storeCall store organizationId id kubeconfig db₁ ys = some (db₂, r) →
      r = .ok () ∧
        db₂.kubeconfigSecret organizationId id = db₁.kubeconfigSecret organizationId id := by
  intro hall
  have hrun : (storeCall clearStore 7 80 "apiVersion: v1" oneCluster (storing 90)).any (fun p =>
      decide (p.2 = .ok ()) &&
        (storeCall clearStore 7 80 "apiVersion: v1" p.1 (storing 91)).any fun q =>
          decide (q.2 = .error (.platform
            (.conflict "kubeconfig already set to a different secret")))) = true := by
    decide +kernel
  obtain ⟨⟨db₁, r⟩, hfirst, hrest⟩ := (Option.any_eq_true _ _).mp hrun
  rw [Bool.and_eq_true, decide_eq_true_eq] at hrest
  obtain ⟨rfl, hagain⟩ := hrest
  obtain ⟨⟨db₂, r⟩, hsecond, hconflict⟩ := (Option.any_eq_true _ _).mp hagain
  obtain rfl := of_decide_eq_true hconflict
  cases (hall _ _ _ _ _ _ _ _ _ _ lawful_clearPgcrypto hfirst hsecond).1

end Kubinate.Fleet.StoreKubeconfig
