/-
# Meteo.Proofs.Axis.Steps -- the steps between evenly spaced samples

Whether samples are evenly spaced is decided on the list of their differences.  For
three samples or more that comes to one statement about any two neighbours
(`steps_of_isRegular`): the step between them is finite and close to one step,
which is not zero.  So none of them is infinite or missing (`isFinite_of_isRegular`), while
two samples count as evenly spaced even if one is missing (`isRegular_pair`).
-/
import Meteo.Axis.Classify
import Meteo.Proofs.Number.Order

namespace Meteo.Spacing

set_option autoImplicit false

open Ordinate

variable {α : Type} [Ordinate α]

theorem mem_differences {values : List α} {i : Nat} (h : i + 1 < values.length) :
    values[i + 1] - values[i] ∈ differences values := by
  fun_induction differences values generalizing i with
  | case1 a b rest ih =>
      cases i with
      | zero => exact List.mem_cons_self
      | succ i => exact List.mem_cons_of_mem _ (ih (Nat.lt_of_succ_lt_succ h))
  | case2 values short =>
      rcases values with _ | ⟨a, _ | ⟨b, rest⟩⟩
      · cases h
      · exact absurd (Nat.lt_of_succ_lt_succ h) (Nat.not_lt_zero i)
      · exact (short a b rest rfl).elim

/-- Steps that are even have a first one, which is not zero, and all are finite and close to it. -/
theorem of_isEven {rtol : α} {steps : List α} (several : steps ≠ [])
    (even : isEven rtol steps = true) :
    ∃ first : α, eq first zero = false ∧
      ∀ step ∈ steps, isFinite step = true ∧ close rtol (abs first * rtol) step first = true := by
  cases steps with
  | nil => exact absurd rfl several
  | cons first steps =>
      rw [isEven] at even
      simp only [Bool.and_eq_true, Bool.not_eq_true', List.all_eq_true] at even
      obtain ⟨⟨moves, finite⟩, near⟩ := even
      exact ⟨first, moves, fun step among => ⟨finite step among, near step among⟩⟩

/-- Any two neighbours among three evenly spaced samples or more are a finite step apart, close to
one step, which is not zero. -/
theorem steps_of_isRegular {n : Nat} {rtol : α} {values : Vector α n} (several : 3 ≤ n)
    (regular : isRegular rtol values.toList = true) :
    ∃ first : α, eq first zero = false ∧ ∀ i j : Fin n, i.val + 1 = j.val →
      isFinite (values.get j - values.get i) = true ∧
        close rtol (abs first * rtol) (values.get j - values.get i) first = true := by
  have length : values.toList.length = n := Vector.length_toList
  have even : isEven rtol (differences values.toList) = true := by
    rwa [isRegular] at regular
    intro a b pair
    rw [pair] at length
    change 2 = n at length
    omega
  have member (i j : Fin n) (next : i.val + 1 = j.val) :
      values.get j - values.get i ∈ differences values.toList := by
    have among : i.val + 1 < values.toList.length := by omega
    have found := mem_differences among
    simp only [next] at found
    exact found
  have present : differences values.toList ≠ [] :=
    List.ne_nil_of_mem (member ⟨0, by omega⟩ ⟨1, by omega⟩ rfl)
  obtain ⟨first, moves, near⟩ := of_isEven present even
  exact ⟨first, moves, fun i j next => near _ (member i j next)⟩

/-! ## Missing samples -/

section Partial

open PartialOrdinate

variable [PartialOrdinate α]

/-- Among three samples or more that are evenly spaced, none is infinite or missing. -/
theorem isFinite_of_isRegular {n : Nat} {rtol : α} {values : Vector α n} (several : 3 ≤ n)
    (regular : isRegular rtol values.toList = true) (i : Fin n) :
    isFinite (values.get i) = true := by
  obtain ⟨first, -, near⟩ := steps_of_isRegular several regular
  by_cases start : i.val = 0
  · have next : i.val + 1 = 1 := by omega
    exact (isFinite_of_sub (near i ⟨1, by omega⟩ next).1).2
  · have next : i.val - 1 + 1 = i.val := by omega
    exact (isFinite_of_sub (near ⟨i.val - 1, by omega⟩ i next).1).1

/-- What is missing equals nothing, and two samples are evenly spaced unless they are equal. -/
theorem isRegular_pair {rtol a b : α} (missing : isNaN a = true ∨ isNaN b = true) :
    isRegular rtol [a, b] = true := by
  rw [isRegular, eq_of_or missing.symm, Bool.not_false]

end Partial

end Meteo.Spacing
