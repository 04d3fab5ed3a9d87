/-
# Meteo.Proofs.Sorting -- indices sorted by a key

Observations are sorted by their times.  Indices in ascending order that are sorted by
a key come out in the order of the keys, and those of equal keys in the order they
had (`sortedBy_ordered`).
-/
import Mathlib.Data.List.Basic

namespace Meteo

set_option autoImplicit false

variable {l : List Nat}

/-- Indices in the order of their keys. -/
def sortedBy (key : Nat → Int) (l : List Nat) : List Nat :=
  l.mergeSort fun i j => key i ≤ key j

theorem sortedBy_perm (key : Nat → Int) (l : List Nat) : (sortedBy key l).Perm l :=
  List.mergeSort_perm l _

section

variable (key : Nat → Int)

theorem key_trans (a b c : Nat) (hab : decide (key a ≤ key b)) (hbc : decide (key b ≤ key c)) :
    decide (key a ≤ key c) := by
  rw [decide_eq_true_eq] at *
  exact Int.le_trans hab hbc

theorem key_total (a b : Nat) : decide (key a ≤ key b) || decide (key b ≤ key a) := by
  rw [Bool.or_eq_true, decide_eq_true_eq, decide_eq_true_eq]
  exact Int.le_total (key a) (key b)

/-- Among the indices of one key, sorting changes nothing. -/
theorem filter_sortedBy (x : Int) :
    (sortedBy key l).filter (key · = x) = l.filter (key · = x) := by
  have equal : (l.filter (key · = x)).Pairwise fun i j => decide (key i ≤ key j) := by
    refine List.pairwise_of_forall_mem_list fun i hi j hj => ?_
    have first := List.of_mem_filter hi
    have second := List.of_mem_filter hj
    simp only [decide_eq_true_eq] at first second ⊢
    exact Int.le_of_eq (first.trans second.symm)
  have kept : (l.filter (key · = x)).Sublist (sortedBy key l) :=
    List.sublist_mergeSort (key_trans key) (key_total key) equal List.filter_sublist
  have within := kept.filter (key · = x)
  simp only [List.filter_filter, Bool.and_self] at within
  have number := ((sortedBy_perm key l).filter (key · = x)).length_eq
  exact (within.eq_of_length number.symm).symm

/-- Ascending indices are sorted by their keys, and where these are equal stay ascending. -/
theorem sortedBy_ordered (ascending : l.Pairwise (· < ·)) :
    (sortedBy key l).Pairwise fun i j => key i < key j ∨ key i = key j ∧ i < j := by
  rw [List.pairwise_iff_forall_sublist]
  intro i j sub
  have ordered : key i ≤ key j := by
    have sorted := List.pairwise_mergeSort (key_trans key) (key_total key) l
    simpa using List.pairwise_iff_forall_sublist.1 sorted sub
  rcases Int.lt_or_eq_of_le ordered with less | same
  · exact .inl less
  · refine .inr ⟨same, ?_⟩
    have alike := sub.filter (key · = key j)
    rw [filter_sortedBy] at alike
    simp only [same, decide_true, List.filter_cons_of_pos, List.filter_nil] at alike
    exact List.pairwise_iff_forall_sublist.1 (ascending.filter _) alike

end

end Meteo
