import Kubinate.Clusters.WorkerNames

/-!
# Names and keys of servers

`control_plane_params` and `worker_params` of `crates/workflows/src/activities.rs` derive the name
of a server from the name of its cluster, and the key that marks retries of its creation from the
id. A cluster may have any name, such as one that looks like the name of a worker.

* `append_inj_of_notMem`: what stands behind the last hyphen of a name can be told from the rest.
* `workerKeyText_injective`: so can the parts of the text from which the key of a worker is made.
* `server_names_distinct`: no two servers share a name or a key.
-/

namespace Kubinate.Clusters

open Platform Library

/-! ## Names -/

theorem append_inj_of_notMem {c : Char} {as bs ds es : List Char} (hd : c ∉ ds) (he : c ∉ es)
    (h : as ++ c :: ds = bs ++ c :: es) : as = bs ∧ ds = es := by
  rcases List.append_eq_append_iff.mp h with ⟨m, rfl, hm⟩ | ⟨m, rfl, hm⟩
  · cases m with
    | nil => exact ⟨(List.append_nil as).symm, (List.cons.inj hm).2⟩
    | cons x m =>
      have hmem : c ∈ ds := (List.cons.inj hm).2 ▸ List.mem_append_right m List.mem_cons_self
      exact absurd hmem hd
  · cases m with
    | nil => exact ⟨List.append_nil bs, (List.cons.inj hm).2.symm⟩
    | cons x m =>
      have hmem : c ∈ es := (List.cons.inj hm).2 ▸ List.mem_append_right m List.mem_cons_self
      exact absurd hmem he

theorem hyphen_notMem_twoDigits (n : Nat) : '-' ∉ (twoDigits n).toList :=
  fun h => absurd (isDigit_of_mem_twoDigits h) (by decide)

theorem toList_workerName (clusterName : String) (index : Nat) :
    (workerName clusterName index).toList =
      (clusterName ++ "-worker").toList ++ '-' :: (twoDigits index).toList := by
  rw [workerName, String.toList_append, String.toList_append, String.toList_append,
    List.append_assoc, List.append_assoc]
  rfl

theorem toList_controlPlaneName (clusterName : String) :
    (clusterName ++ "-cp-01").toList = (clusterName ++ "-cp").toList ++ '-' :: ['0', '1'] := by
  rw [String.toList_append, String.toList_append, List.append_assoc]
  rfl

theorem workerName_inj {a b : String} {i j : Nat} (h : workerName a i = workerName b j) :
    a = b ∧ i = j := by
  have hlist := congrArg String.toList h
  rw [toList_workerName, toList_workerName] at hlist
  obtain ⟨hbase, hdigits⟩ := append_inj_of_notMem (hyphen_notMem_twoDigits i)
    (hyphen_notMem_twoDigits j) hlist
  constructor
  · rw [String.toList_append, String.toList_append] at hbase
    exact String.toList_inj.mp (List.append_cancel_right hbase)
  · rw [← value_twoDigits i, hdigits, value_twoDigits]

/-- The letters before the last hyphen differ. -/
theorem workerName_ne_controlPlane (a b : String) (i : Nat) : workerName a i ≠ b ++ "-cp-01" := by
  intro h
  have hlist := congrArg String.toList h
  rw [toList_workerName, toList_controlPlaneName] at hlist
  obtain ⟨hbase, -⟩ := append_inj_of_notMem (hyphen_notMem_twoDigits i) (by decide) hlist
  have hworker : (a ++ "-worker").toList.getLast? = some 'r' := by
    rw [String.toList_append, List.getLast?_append]
    rfl
  have hplane : (b ++ "-cp").toList.getLast? = some 'p' := by
    rw [String.toList_append, List.getLast?_append]
    rfl
  rw [hbase, hplane] at hworker
  exact absurd hworker (by decide)

/-! ## Keys -/

/-- The text from which the key of a worker is made. -/
def workerKeyText (clusterId : Uuid) (index : Nat) : String :=
  "kubinate.worker:" ++ clusterId.text ++ ":" ++ toString index

theorem toList_workerKeyText (clusterId : Uuid) (index : Nat) :
    (workerKeyText clusterId index).toList = "kubinate.worker:".toList ++
      (clusterId.text.toList ++ (":".toList ++ (toString index).toList)) := by
  unfold workerKeyText
  generalize clusterId.text = text
  rw [String.toList_append, String.toList_append, String.toList_append, List.append_assoc,
    List.append_assoc]

theorem length_text (u : Uuid) : u.text.toList.length = 36 := by
  rw [Uuid.text, String.toList_ofList, Uuid.length_chars]

theorem workerKeyText_injective {c d : Uuid} {i j : Nat}
    (h : workerKeyText c i = workerKeyText d j) : c = d ∧ i = j := by
  have hlist := congrArg String.toList h
  rw [toList_workerKeyText, toList_workerKeyText] at hlist
  obtain ⟨hid, hindex⟩ := List.append_inj (List.append_cancel_left hlist)
    ((length_text c).trans (length_text d).symm)
  refine ⟨Uuid.text_injective (String.toList_inj.mp hid), ?_⟩
  have hrepr := List.append_cancel_left hindex
  rw [Nat.toString_eq_repr, Nat.toString_eq_repr, Nat.toList_repr, Nat.toList_repr] at hrepr
  rw [← Nat.ofDigitChars_ten_toDigits (n := i), hrepr, Nat.ofDigitChars_ten_toDigits]

/-- The version of a UUID, the digit after the second hyphen. -/
def uuidVersion (u : Uuid) : Nat := u.toNat / 16 ^ 19 % 16

section Servers

variable {newV5 : String → Uuid} {used : Set (Uuid × Nat)}

/-- Workers have one name only if cluster names and indices are the same, and none has the name of
a control plane. If ids of version 5 are different for the different texts that they are made of
here, then so are the keys of workers, and none is the key of a control plane, an id of
version 7. -/
theorem server_names_distinct
    (hinj : Set.InjOn newV5 ((fun p : Uuid × Nat => workerKeyText p.1 p.2) '' used))
    (hversion : ∀ text, uuidVersion (newV5 text) = 5) :
    (∀ (c d : Uuid) (a b : String) (i j : Nat) (t l k u t' l' k' u' : String),
      (workerParams newV5 c a i t l k u).name = (workerParams newV5 d b j t' l' k' u').name →
      a = b ∧ i = j) ∧
    (∀ (c d : Uuid) (a b : String) (i : Nat) (t l k u t' l' k' u' : String),
      (workerParams newV5 c a i t l k u).name ≠ (controlPlaneParams d b t' l' k' u').name) ∧
    (∀ (c d : Uuid) (a b : String) (i j : Nat) (t l k u t' l' k' u' : String),
      (c, i) ∈ used → (d, j) ∈ used →
      (workerParams newV5 c a i t l k u).idempotencyKey =
        (workerParams newV5 d b j t' l' k' u').idempotencyKey → c = d ∧ i = j) ∧
    ∀ (c d : Uuid) (a b : String) (i : Nat) (t l k u t' l' k' u' : String), uuidVersion d = 7 →
      (workerParams newV5 c a i t l k u).idempotencyKey ≠
        (controlPlaneParams d b t' l' k' u').idempotencyKey := by
  refine ⟨?_, ?_, ?_, ?_⟩
  · intro c d a b i j t l k u t' l' k' u' h
    exact workerName_inj h
  · intro c d a b i t l k u t' l' k' u'
    exact workerName_ne_controlPlane a b i
  · intro c d a b i j t l k u t' l' k' u' hc hd h
    exact workerKeyText_injective (hinj ⟨_, hc, rfl⟩ ⟨_, hd, rfl⟩ h)
  · intro c d a b i t l k u t' l' k' u' hd h
    have hkey : newV5 (workerKeyText c i) = d := h
    have hfive := hversion (workerKeyText c i)
    rw [hkey, hd] at hfive
    exact absurd hfive (by decide)

end Servers

/-- Two workers of a cluster whose name looks like the name of a worker. -/
theorem server_names_distinct_twoWorkers :
    let clusterId : Uuid := 0x18f0000000070008000000000000001#128
    let newV5 : String → Uuid := fun text =>
      if text = workerKeyText clusterId 0 then 0xb75211aceb4a58379b9da05b284ec6a0#128
      else 0x3a593f1a9ab25310aab0b965a77800c6#128
    let worker (index : Nat) :=
      workerParams newV5 clusterId "a-worker-01" index "cx22" "fsn1" "key" ""
    let controlPlane := controlPlaneParams clusterId "a-worker-01" "cx22" "fsn1" "key" ""
    (worker 0).idempotencyKey ≠ (worker 1).idempotencyKey ∧
      (worker 0).idempotencyKey ≠ controlPlane.idempotencyKey := by
  intro clusterId newV5 worker controlPlane
  have hinj : Set.InjOn newV5 ((fun p : Uuid × Nat => workerKeyText p.1 p.2) ''
      {(clusterId, 0), (clusterId, 1)}) := by
    rw [Set.image_pair]
    rintro _ (rfl | rfl) _ (rfl | rfl) h
    · rfl
    · exact absurd h (by decide +kernel)
    · exact absurd h (by decide +kernel)
    · rfl
  have hversion : ∀ text, uuidVersion (newV5 text) = 5 := by
    intro text
    by_cases htext : text = workerKeyText clusterId 0
    · exact (congrArg uuidVersion (if_pos htext)).trans (by decide)
    · exact (congrArg uuidVersion (if_neg htext)).trans (by decide)
  obtain ⟨-, -, hkeys, hplane⟩ := server_names_distinct hinj hversion
  constructor
  · intro h
    have hindex := (hkeys clusterId clusterId _ _ 0 1 _ _ _ _ _ _ _ _ (.inl rfl) (.inr rfl) h).2
    exact absurd hindex (by decide)
  · exact hplane clusterId clusterId _ _ 0 _ _ _ _ _ _ _ _ (by decide)

end Kubinate.Clusters
