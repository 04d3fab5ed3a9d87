/-
# Meteo.Proofs.Slice -- some indices of one dimension

Keeping one index of a dimension keeps every dimension: `Variable.IsSlice` says of a part
of a variable that it has the same dimensions, some indices of one of them and all indices
of the others, and that its cells are those of the whole at these indices.  What
`Variable.only` keeps is such a part (`only_isSlice`), with a single index if there is such
an index and with none if there is not.
-/
import Meteo.Proofs.Block
import Meteo.Proofs.Dataset

namespace Meteo

set_option autoImplicit false

namespace Variable

/-- The sizes of a variable with `count` indices of one dimension. -/
def sizesWith (v : Variable) (dim : String) (count : Nat) : List Nat :=
  (v.dims.zip v.cells.shape).map fun e => if e.1 = dim then count else e.2

/-- Indices along dimensions, moved on along one of them. -/
def moved (dims : List String) (dim : String) (first : Nat) (index : List Nat) : List Nat :=
  (dims.zip index).map fun e => if e.1 = dim then e.2 + first else e.2

/-- A variable is part of another one: it has `count` indices of one dimension, from `first` on, and
everything of the others. -/
structure IsSlice (part whole : Variable) (dim : String) (first count : Nat) : Prop where
  name : part.name = whole.name
  dims : part.dims = whole.dims
  attributes : part.attributes = whole.attributes
  type : part.cells.type = whole.cells.type
  shape : part.cells.shape = whole.sizesWith dim count
  cells : ∀ index, Block.inside part.cells.shape index → ∃ cell,
    part.cells.block.get? index = some cell ∧
      whole.cells.block.get? (moved whole.dims dim first index) = some cell

/-- Indices inside the sizes of a slice are inside those of the whole when they are moved on. -/
theorem inside_moved {dims : List String} {shape index : List Nat} {dim : String} {k n : Nat}
    (lengths : dims.length = shape.length) (size : ∀ m, (dim, m) ∈ dims.zip shape → m = n)
    (within : Block.inside
      ((dims.zip shape).map fun e => if e.1 = dim then min 1 (n - k) else e.2) index) :
    Block.inside shape (moved dims dim k index) := by
  induction dims generalizing shape index with
  | nil =>
      obtain rfl := List.length_eq_zero_iff.1 lengths.symm
      rfl
  | cons d dims ih =>
      cases shape with
      | nil => cases lengths
      | cons m shape =>
          cases index with
          | nil => cases within
          | cons i index =>
              simp only [List.zip_cons_cons, List.map_cons, Block.inside, Bool.and_eq_true,
                decide_eq_true_eq] at within
              have others := ih (Nat.succ.inj lengths)
                (fun m member => size m (List.mem_cons_of_mem _ member)) within.2
              simp only [moved, List.zip_cons_cons, List.map_cons, Block.inside, Bool.and_eq_true,
                decide_eq_true_eq]
              refine ⟨?_, others⟩
              by_cases same : d = dim
              · have length := size m (by rw [same]; exact List.mem_cons_self)
                have first := within.1
                rw [if_pos same] at first ⊢
                omega
              · rw [if_neg same]
                simpa only [if_neg same] using within.1

/-- Nothing is moved along a dimension that is not there. -/
theorem moved_of_not_mem {dims : List String} {dim : String} (absent : dim ∉ dims) (k : Nat)
    {index : List Nat} (lengths : index.length ≤ dims.length) : moved dims dim k index = index := by
  have same : moved dims dim k index = (dims.zip index).map Prod.snd := by
    refine List.map_congr_left fun e member => if_neg fun equal => absent ?_
    exact equal ▸ (List.of_mem_zip member).1
  rw [same, List.map_snd_zip lengths]

theorem sizesWith_of_not_mem {v : Variable} {dim : String} (absent : dim ∉ v.dims)
    (lengths : v.dims.length = v.cells.shape.length) (count : Nat) :
    v.sizesWith dim count = v.cells.shape := by
  have same : v.sizesWith dim count = (v.dims.zip v.cells.shape).map Prod.snd := by
    refine List.map_congr_left fun e member => if_neg fun equal => absent ?_
    exact equal ▸ (List.of_mem_zip member).1
  rw [same, List.map_snd_zip (Nat.le_of_eq lengths.symm)]

section Only

variable {v : Variable} {dim : String} {n : Nat}

/-- What is kept of a variable that has the dimension: a block of the cells at the indices that are
left. -/
theorem only_of_mem (present : dim ∈ v.dims)
    (size : ∀ m, (dim, m) ∈ v.dims.zip v.cells.shape → m = n) (k : Nat) :
    v.only dim k = { v with
      cells := { v.cells with
        block := Block.ofFn (v.sizesWith dim (min 1 (n - k))) fun index =>
          (v.cells.block.get? (moved v.dims dim k index)).getD (.value .null) } } := by
  have sizes : v.sizesWith dim (min 1 (n - k)) =
      (v.dims.zip v.cells.shape).map fun e => if e.1 = dim then min 1 (e.2 - k) else e.2 := by
    refine List.map_congr_left fun e member => ?_
    split
    · next same => rw [size e.2 (same ▸ member)]
    · rfl
  rw [only, if_pos (List.contains_iff_mem.2 present), sizes]
  rfl

theorem only_of_not_mem (absent : dim ∉ v.dims) (k : Nat) : v.only dim k = v := by
  rw [only, if_neg fun kept => absent (List.contains_iff_mem.1 kept)]

/-- Keeping one index of a dimension keeps that index if there is one, and nothing if there is
none. -/
theorem only_isSlice (lengths : v.dims.length = v.cells.shape.length)
    (size : ∀ m, (dim, m) ∈ v.dims.zip v.cells.shape → m = n) (k : Nat) :
    (v.only dim k).IsSlice v dim k (min 1 (n - k)) := by
  by_cases present : dim ∈ v.dims
  · rw [only_of_mem present size]
    refine ⟨rfl, rfl, rfl, rfl, rfl, fun index within => ?_⟩
    have whole : Block.inside v.cells.shape (moved v.dims dim k index) :=
      inside_moved lengths size within
    obtain ⟨cell, there⟩ := Option.isSome_iff_exists.1 (Block.isSome_get? whole)
    refine ⟨cell, (Block.get?_ofFn within _).trans ?_, there⟩
    rw [show v.cells.block.get? _ = some cell from there, Option.getD_some]
  · rw [only_of_not_mem present]
    refine ⟨rfl, rfl, rfl, rfl, (sizesWith_of_not_mem present lengths _).symm, fun index within => ?_⟩
    obtain ⟨cell, there⟩ := Option.isSome_iff_exists.1 (Block.isSome_get? within)
    have short : index.length ≤ v.dims.length := by
      rw [lengths]
      exact Nat.le_of_eq (Block.length_of_inside within)
    exact ⟨cell, there, by rw [moved_of_not_mem present k short]; exact there⟩

end Only

end Variable

end Meteo
