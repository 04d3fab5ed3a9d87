/-
# Meteo.Proofs.Dataset -- the sizes of the variables of a dataset

`Dataset.ofVariables` accepts variables that have a size for each dimension, the one
that the dimension has in the dataset.  So the shape of the cells of a variable
follows from its dimensions (`shape_one`, `shape_two`).  It puts every variable under its
own name.
-/
import Mathlib.Data.List.Basic
import Meteo.Dataset.Basic
import Meteo.Proofs.Table

namespace Meteo.Dataset

set_option autoImplicit false

variable {ds : Dataset}

/-- Every variable fits into the dataset. -/
def WellFormed (ds : Dataset) : Prop := ∀ e ∈ ds.vars.entries, ds.fits e.1 e.2

theorem wellFormed_of_ofVariables {vars : List Variable} {attributes : Table Value}
    {declared : List String} {source : Option String}
    (made : ofVariables vars attributes declared source = .ok ds) : ds.WellFormed := by
  rw [ofVariables] at made
  split at made
  · next fit =>
    cases made
    exact fun e member => List.all_eq_true.1 fit e member
  · cases made

/-- What holds of the variables that are given holds of those of the dataset. -/
theorem forall_of_ofVariables {P : Variable → Prop} {vars : List Variable}
    {attributes : Table Value} {declared : List String} {source : Option String}
    (made : ofVariables vars attributes declared source = .ok ds) (all : ∀ v ∈ vars, P v) :
    ∀ e ∈ ds.vars.entries, P e.2 := by
  rw [ofVariables] at made
  split at made
  · cases made
    intro e member
    obtain ⟨v, listed, rfl⟩ := List.mem_map.1 (Table.mem_ofList member)
    exact all v listed
  · cases made

/-- Every variable stands under its name. -/
def WellNamed (ds : Dataset) : Prop := ∀ e ∈ ds.vars.entries, e.2.nameText = e.1

theorem wellNamed_of_ofVariables {vars : List Variable} {attributes : Table Value}
    {declared : List String} {source : Option String}
    (made : ofVariables vars attributes declared source = .ok ds) : ds.WellNamed := by
  rw [ofVariables] at made
  split at made
  · cases made
    intro e member
    obtain ⟨v, -, rfl⟩ := List.mem_map.1 (Table.mem_ofList member)
    rfl
  · cases made

/-- The names of the variables of a dataset are distinct. -/
theorem nodup_dataVariables (ds : Dataset) : (ds.dataVariables.map Prod.fst).Nodup :=
  (List.Sublist.map Prod.fst List.filter_sublist).nodup ds.vars.nodup

section Fits

variable {name : String} {v : Variable} (fit : ds.fits name v)

include fit

theorem length_shape : v.dims.length = v.cells.block.shape.length := by
  simp only [fits, Bool.and_eq_true, decide_eq_true_eq] at fit
  exact fit.1.1

theorem sizeOf?_of_mem_zip (dim : String) (n : Nat)
    (member : (dim, n) ∈ v.dims.zip v.cells.block.shape) : ds.sizeOf? dim = some n := by
  simp only [fits, Bool.and_eq_true, List.all_eq_true, decide_eq_true_eq] at fit
  exact fit.1.2 (dim, n) member

theorem shape_one {a : String} (dims : v.dims = [a]) :
    ∃ n, v.cells.block.shape = [n] ∧ ds.sizeOf? a = some n := by
  have length := length_shape fit
  have sizes := sizeOf?_of_mem_zip fit a
  rw [dims] at length sizes
  obtain ⟨n, shape⟩ := List.length_eq_one_iff.1 length.symm
  rw [shape] at sizes
  exact ⟨n, shape, sizes n (by simp)⟩

theorem shape_two {a b : String} (dims : v.dims = [a, b]) :
    ∃ m n, v.cells.block.shape = [m, n] ∧ ds.sizeOf? a = some m ∧ ds.sizeOf? b = some n := by
  have length := length_shape fit
  have first := sizeOf?_of_mem_zip fit a
  have second := sizeOf?_of_mem_zip fit b
  rw [dims] at length first second
  obtain ⟨m, n, shape⟩ := List.length_eq_two.1 length.symm
  rw [shape] at first second
  exact ⟨m, n, shape, first m (by simp), second n (by simp)⟩

end Fits

end Meteo.Dataset
