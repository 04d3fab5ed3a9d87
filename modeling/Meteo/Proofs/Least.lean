/-
# Meteo.Proofs.Least -- the first of the least items of a list

The search for the nearest station and the one for the closest observation keep the best item
so far, and another one takes its place only if it is better.  What such a search has found is
described for every prefix of the list (`FirstLeast`): the item is less than every one before
it and not greater than any behind it.  One item more keeps the description, whether it stays
behind (`FirstLeast.keep`) or takes the place (`FirstLeast.replace`).

Items are compared by a key.  In whichever order the items stand, the least key is the
same (`FirstLeast.key_eq_of_perm`).
-/
import Mathlib

namespace Meteo

set_option autoImplicit false

variable {α κ : Type} [LinearOrder κ] {key : α → κ} {xs ys : List α} {x y : α}

/-- An item of a list that is less than every item before it, and not greater than any behind it. -/
def FirstLeast (key : α → κ) (xs : List α) (x : α) : Prop :=
  ∃ before behind, xs = before ++ x :: behind ∧
    (∀ y ∈ before, key x < key y) ∧ ∀ y ∈ behind, key x ≤ key y

namespace FirstLeast

theorem singleton (x : α) : FirstLeast key [x] x := ⟨[], [], rfl, nofun, nofun⟩

theorem mem (h : FirstLeast key xs x) : x ∈ xs := by
  obtain ⟨before, behind, rfl, -⟩ := h
  exact List.mem_append_right _ List.mem_cons_self

/-- No item is less. -/
theorem le (h : FirstLeast key xs x) (member : y ∈ xs) : key x ≤ key y := by
  obtain ⟨before, behind, rfl, earlier, later⟩ := h
  rcases List.mem_append.1 member with front | back
  · exact (earlier y front).le
  · rcases List.mem_cons.1 back with rfl | back
    · exact le_rfl
    · exact later y back

/-- An item that is not less stays behind. -/
theorem keep (h : FirstLeast key xs x) (notLess : key x ≤ key y) :
    FirstLeast key (xs ++ [y]) x := by
  obtain ⟨before, behind, rfl, earlier, later⟩ := h
  refine ⟨before, behind ++ [y], by simp, earlier, fun z member => ?_⟩
  rcases List.mem_append.1 member with old | new
  · exact later z old
  · rwa [List.mem_singleton.1 new]

/-- An item that is less is less than all. -/
theorem replace (h : FirstLeast key xs x) (less : key y < key x) :
    FirstLeast key (xs ++ [y]) y :=
  ⟨xs, [], rfl, fun _ member => less.trans_le (h.le member), nofun⟩

/-- Two keys that order the items of a list alike. -/
theorem congr {κ' : Type} [LinearOrder κ'] {key' : α → κ'} (h : FirstLeast key xs x)
    (alike : ∀ a ∈ xs, ∀ b ∈ xs, key' a < key' b ↔ key a < key b) : FirstLeast key' xs x := by
  have self := h.mem
  obtain ⟨before, behind, rfl, earlier, later⟩ := h
  refine ⟨before, behind, rfl, fun y member => ?_, fun y member => ?_⟩
  · exact (alike x self y (List.mem_append_left _ member)).2 (earlier y member)
  · have back := alike y (List.mem_append_right _ (List.mem_cons_of_mem _ member)) x self
    rw [← not_lt, back]
    exact not_lt.2 (later y member)

theorem key_eq_of_perm (h : FirstLeast key xs x) (h' : FirstLeast key ys y) (perm : xs.Perm ys) :
    key x = key y :=
  le_antisymm (h.le (perm.mem_iff.2 h'.mem)) (h'.le (perm.mem_iff.1 h.mem))

end FirstLeast

end Meteo
