import Mathlib.Data.List.Basic
import Mathlib.Data.List.Forall2
import Mathlib.Data.List.Induction
import Mathlib.Data.List.Nodup

/-!
# Hash chains

A list is linked when each entry names the hash of the entry before it and the first one
names nothing. Nothing is assumed of the hashes themselves except, where it is needed, that
entries with the same hash name the same predecessor (`Linked.nodup_hash`), which is what a
collision-free hash over the predecessor's hash gives.

* `Linked.prefix_of_subset`: entries picked out of a linked list in any order are linked
  again only if they are a prefix of it.
* `linked_concat`: what an appended entry has to name.
* `Linked.forall₂_of_getLast`: the last hash determines the whole list.
-/

namespace Kubinate.Library

variable {α H : Type} {prev : α → Option H} {hash : α → H}

/-- Each entry names the hash of the one before it, the first one names `p`. -/
def Linked (prev : α → Option H) (hash : α → H) : Option H → List α → Prop
  | _, [] => True
  | p, a :: as => prev a = p ∧ Linked prev hash (some (hash a)) as

theorem linked_append {as bs : List α} {p : Option H} :
    Linked prev hash p (as ++ bs) ↔
      Linked prev hash p as ∧ Linked prev hash ((as.getLast?.map hash).or p) bs := by
  induction as generalizing p with
  | nil => simp [Linked]
  | cons a as ih =>
    have hlast : ((a :: as).getLast?.map hash).or p =
        (as.getLast?.map hash).or (some (hash a)) := by
      cases as with
      | nil => rfl
      | cons b bs => simp [List.getLast?_cons]
    rw [List.cons_append, Linked, Linked, ih, hlast, and_assoc]

theorem linked_concat {as : List α} {a : α} :
    Linked prev hash none (as ++ [a]) ↔
      Linked prev hash none as ∧ prev a = as.getLast?.map hash := by
  rw [linked_append, Option.or_none]
  simp [Linked]

/-- Being linked depends only on what the entries name and on their hashes. -/
theorem linked_map_congr {β : Type} {f g : β → α} {p : Option H} {l : List β}
    (h : ∀ x ∈ l, prev (f x) = prev (g x) ∧ hash (f x) = hash (g x)) :
    Linked prev hash p (l.map f) ↔ Linked prev hash p (l.map g) := by
  induction l generalizing p with
  | nil => rfl
  | cons x l ih =>
    obtain ⟨hp, hh⟩ := h x List.mem_cons_self
    have ih := ih (p := some (hash (g x))) fun y hy => h y (List.mem_cons_of_mem _ hy)
    simp only [List.map_cons, Linked, hp, hh, ih]

namespace Linked

variable {l m : List α}

/-- What the entry at each position names. -/
theorem prev_getElem {p : Option H} (h : Linked prev hash p l) (i : Nat) (hi : i < l.length) :
    prev l[i] = if i = 0 then p else some (hash l[i - 1]) := by
  induction l generalizing p i with
  | nil => exact absurd hi (Nat.not_lt_zero _)
  | cons a as ih =>
    cases i with
    | zero => exact h.1
    | succ i =>
      have hi' : i < as.length := Nat.lt_of_succ_lt_succ hi
      have := ih h.2 i hi'
      simp only [List.getElem_cons_succ, this]
      cases i with
      | zero => rfl
      | succ i => rfl

theorem prev_zero (h : Linked prev hash none l) (hi : 0 < l.length) : prev l[0] = none := by
  rw [h.prev_getElem 0 hi, if_pos rfl]

theorem prev_succ (h : Linked prev hash none l) (i : Nat) (hi : i + 1 < l.length) :
    prev l[i + 1] = some (hash l[i]) := by
  rw [h.prev_getElem (i + 1) hi, if_neg (Nat.succ_ne_zero i)]
  rfl

/-- An entry that names something names the hash of another entry. -/
theorem prev_eq_some (h : Linked prev hash none l) {a : α} (ha : a ∈ l) {p : H}
    (hp : prev a = some p) : ∃ b ∈ l, hash b = p := by
  obtain ⟨i, hi, rfl⟩ := List.mem_iff_getElem.mp ha
  cases i with
  | zero =>
    rw [h.prev_zero hi] at hp
    cases hp
  | succ i =>
    rw [h.prev_succ i hi] at hp
    exact ⟨l[i], List.getElem_mem _, Option.some.inj hp⟩

/-- If entries with the same hash name the same predecessor, no hash occurs twice: two equal
hashes lead back, one predecessor at a time, to the first entry, which names none. -/
theorem nodup_hash (h : Linked prev hash none l)
    (hprev : ∀ a ∈ l, ∀ b ∈ l, hash a = hash b → prev a = prev b) : (l.map hash).Nodup := by
  have key : ∀ i j (hij : i < j) (hj : j < l.length), hash l[i] ≠ hash l[j] := by
    intro i
    induction i with
    | zero =>
      intro j hij hj heq
      obtain ⟨j, rfl⟩ := Nat.exists_eq_succ_of_ne_zero (Nat.ne_of_gt hij)
      have hp := hprev _ (List.getElem_mem _) _ (List.getElem_mem _) heq
      rw [h.prev_zero, h.prev_succ j hj] at hp
      cases hp
    | succ i ih =>
      intro j hij hj heq
      obtain ⟨j, rfl⟩ := Nat.exists_eq_succ_of_ne_zero (Nat.ne_of_gt (Nat.zero_lt_of_lt hij))
      have hp := hprev _ (List.getElem_mem _) _ (List.getElem_mem _) heq
      rw [h.prev_succ i (by omega), h.prev_succ j hj] at hp
      exact ih j (by omega) (by omega) (Option.some.inj hp)
  rw [List.nodup_iff_pairwise_ne, List.pairwise_map, List.pairwise_iff_getElem]
  intro i j hi hj hij
  exact key i j hij hj

/-- Entries of a linked list that are linked among themselves are a prefix of it. -/
theorem prefix_of_subset (h : Linked prev hash none l) (hm : Linked prev hash none m)
    (hnodup : (l.map hash).Nodup) (hsub : ∀ a ∈ m, a ∈ l) : m <+: l := by
  have hinj : ∀ i j (hi : i < l.length) (hj : j < l.length), hash l[i] = hash l[j] → i = j := by
    intro i j hi hj heq
    have hl := List.inj_on_of_nodup_map hnodup (List.getElem_mem hi) (List.getElem_mem hj) heq
    exact (List.Nodup.of_map _ hnodup).getElem_inj_iff.mp hl
  have key : ∀ k (hk : k < m.length), ∃ hl : k < l.length, m[k] = l[k] := by
    intro k
    induction k with
    | zero =>
      intro hk
      obtain ⟨i, hi, heq⟩ := List.mem_iff_getElem.mp (hsub _ (List.getElem_mem hk))
      have hp := hm.prev_zero hk
      cases i with
      | zero => exact ⟨hi, heq.symm⟩
      | succ i =>
        rw [← heq, h.prev_succ i hi] at hp
        cases hp
    | succ k ih =>
      intro hk
      obtain ⟨hl, hkeq⟩ := ih (by omega)
      obtain ⟨i, hi, heq⟩ := List.mem_iff_getElem.mp (hsub _ (List.getElem_mem hk))
      have hp := hm.prev_succ k hk
      cases i with
      | zero =>
        rw [← heq, h.prev_zero hi] at hp
        cases hp
      | succ i =>
        rw [← heq, h.prev_succ i hi, hkeq] at hp
        obtain rfl := hinj i k (by omega) hl (Option.some.inj hp)
        exact ⟨hi, heq.symm⟩
  rw [List.prefix_iff_getElem?]
  intro k hk
  obtain ⟨hl, heq⟩ := key k hk
  rw [List.getElem?_eq_getElem hl, heq]

/-- Linked lists with the same last hash agree entry by entry, from the last one back to the
first, if entries with the same hash name the same predecessor. -/
theorem forall₂_of_getLast {R : α → α → Prop} (hl : Linked prev hash none l)
    (hm : Linked prev hash none m) (hlast : l.getLast?.map hash = m.getLast?.map hash)
    (h : ∀ a ∈ l, ∀ b ∈ m, hash a = hash b → prev a = prev b ∧ R a b) : List.Forall₂ R l m := by
  induction l using List.reverseRecOn generalizing m with
  | nil =>
    rw [List.getLast?_nil, Option.map_none, eq_comm, Option.map_eq_none_iff,
      List.getLast?_eq_none_iff] at hlast
    subst hlast
    exact .nil
  | append_singleton l a ih =>
    rcases List.eq_nil_or_concat' m with rfl | ⟨m, b, rfl⟩
    · simp at hlast
    · rw [List.getLast?_concat, List.getLast?_concat, Option.map_some, Option.map_some,
        Option.some.injEq] at hlast
      obtain ⟨hlinked, hprev⟩ := linked_concat.mp hl
      obtain ⟨hmlinked, hmprev⟩ := linked_concat.mp hm
      obtain ⟨heq, hab⟩ := h a List.mem_concat_self b List.mem_concat_self hlast
      have hrest := ih hlinked hmlinked (by rw [← hprev, heq, hmprev]) fun c hc d hd =>
        h c (List.mem_append_left _ hc) d (List.mem_append_left _ hd)
      exact List.rel_append hrest (.cons hab .nil)

end Linked

end Kubinate.Library
