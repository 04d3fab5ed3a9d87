/-
# Meteo.Proofs.Storage -- the same cells, stored otherwise

A variable may have its dimensions in the opposite order (`Variable.transposed`), other
indices along one of them (`Variable.reindexed`), or one more dimension along which its
cells are repeated (`Variable.broadcast`).  In each case the cell at some indices is a
cell of the variable it was made of, and the lemmas here say at which indices.

`Dataset.revise` puts other variables under the names of a dataset.  If these fit into it
and have the dimensions that were there (`Dataset.Refits`), its dimensions, their sizes
and its coordinates remain what they are.
-/
import Mathlib.Data.List.Forall2
import Meteo.Proofs.Block
import Meteo.Proofs.Dataset

namespace Meteo

set_option autoImplicit false

theorem Block.inside_iff {shape index : List Nat} :
    Block.inside shape index ↔ List.Forall₂ (· < ·) index shape := by
  induction shape generalizing index with
  | nil => cases index <;> simp [Block.inside]
  | cons n ns ih => cases index <;> simp [Block.inside, ih]

/-- A block that reads each cell at other indices has there what the other block has. -/
theorem Block.get?_ofFn_get? {α : Type} {b : Block α} {shape index : List Nat}
    (within : Block.inside shape index) (g : List Nat → List Nat) (d : α)
    (there : (b.get? (g index)).isSome) :
    (Block.ofFn shape fun index => (b.get? (g index)).getD d).get? index = b.get? (g index) := by
  obtain ⟨c, found⟩ := Option.isSome_iff_exists.1 there
  rw [Block.get?_ofFn within, found, Option.getD_some]

namespace Variable

/-- The variable with its dimensions in the opposite order. -/
def transposed (v : Variable) : Variable :=
  { v with
    dims := v.dims.reverse
    cells := { v.cells with
      block := Block.ofFn v.cells.shape.reverse fun index =>
        (v.cells.block.get? index.reverse).getD (.value .null) } }

/-- The variable with other indices along a dimension, if it has that dimension: at `j` stands what
stood at `σ j`. -/
def reindexed (v : Variable) (dim : String) (σ : Nat → Nat) : Variable :=
  if v.dims.contains dim then
    { v with
      cells := { v.cells with
        block := Block.ofFn v.cells.shape fun index =>
          (v.cells.block.get? ((v.dims.zip index).map fun e =>
            if e.1 = dim then σ e.2 else e.2)).getD (.value .null) } }
  else v

/-- The variable repeated along one more dimension, in front of the others. -/
def broadcast (v : Variable) (dim : String) (n : Nat) : Variable :=
  { v with
    dims := dim :: v.dims
    cells := { v.cells with
      block := Block.ofFn (n :: v.cells.shape) fun index =>
        (v.cells.block.get? index.tail).getD (.value .null) } }

/-! ## Sizes -/

theorem reindexed_of_not_mem {v : Variable} {dim : String} (absent : dim ∉ v.dims)
    (σ : Nat → Nat) : v.reindexed dim σ = v := by
  simp [reindexed, absent]

theorem dims_reindexed (v : Variable) (dim : String) (σ : Nat → Nat) :
    (v.reindexed dim σ).dims = v.dims := by
  rw [reindexed]
  split <;> rfl

theorem shape_reindexed (v : Variable) (dim : String) (σ : Nat → Nat) :
    (v.reindexed dim σ).cells.shape = v.cells.shape := by
  rw [reindexed]
  split <;> rfl

/-- A variable that fits into a dataset has sizes along its dimensions. -/
theorem isSome_sizeOf? {ds : Dataset} {name : String} {v : Variable} (fit : ds.fits name v)
    {dim : String} : (v.sizeOf? dim).isSome ↔ dim ∈ v.dims := by
  have lengths : v.dims.length = v.cells.shape.length := Dataset.length_shape fit
  have keys : (v.dims.zip v.cells.shape).map Prod.fst = v.dims :=
    List.map_fst_zip (Nat.le_of_eq lengths)
  rw [sizeOf?, List.lookup_isSome_iff, ← keys, List.mem_map, keys]
  exact exists_congr fun e => and_congr_right fun _ => beq_iff_eq.trans eq_comm

/-- They are those that the dimensions have in the dataset. -/
theorem sizeOf?_of_fits {ds : Dataset} {name : String} {v : Variable} (fit : ds.fits name v)
    {dim : String} {n : Nat} (found : v.sizeOf? dim = some n) : ds.sizeOf? dim = some n := by
  obtain ⟨before, behind, split, -⟩ := List.lookup_eq_some_iff.1 found
  refine Dataset.sizeOf?_of_mem_zip fit dim n ?_
  change (dim, n) ∈ v.dims.zip v.cells.shape
  rw [split]
  simp

/-- Whether a variable fits depends on its dimensions and its sizes. -/
theorem fits_iff {ds : Dataset} {name : String} {v : Variable} :
    ds.fits name v ↔ v.dims.length = v.cells.shape.length ∧
      (∀ e ∈ v.dims.zip v.cells.shape, ds.sizeOf? e.1 = some e.2) ∧
      (v.cells.shape.length ≠ 0 ∨ ds.isDimension name = false) := by
  rw [Dataset.fits, Bool.and_eq_true, Bool.and_eq_true, decide_eq_true_eq, List.all_eq_true,
    and_assoc, rank]
  simp

/-! ## Indices -/

section Cells

variable {v : Variable} {index index' : List (String × Nat)} {is js : List Nat}

/-- Indices by dimension find the cell at `is`: these are the indices along the dimensions of the
variable, in their order, and each is below the size. -/
structure IndexedBy (v : Variable) (index : List (String × Nat)) (is : List Nat) : Prop where
  along : List.Forall₂ (fun dim i => index.lookup dim = some i) v.dims is
  below : List.Forall₂ (· < ·) is v.cells.shape

theorem mapM_lookup {dims : List String}
    (along : List.Forall₂ (fun dim i => index.lookup dim = some i) dims is) :
    (dims.mapM fun dim => index.lookup dim) = some is := by
  induction along with
  | nil => rfl
  | cons first _ ih => simp [List.mapM_cons, first, ih]

theorem IndexedBy.cellAt? (indexed : v.IndexedBy index is) :
    v.cellAt? index = v.cells.block.get? is := by
  rw [Variable.cellAt?, mapM_lookup indexed.along]
  rfl

theorem IndexedBy.isSome (indexed : v.IndexedBy index is) : (v.cells.block.get? is).isSome :=
  Block.isSome_get? (Block.inside_iff.2 indexed.below)

theorem exists_indices {dims : List String} {shape : List Nat}
    (lengths : dims.length = shape.length)
    (known : ∀ e ∈ dims.zip shape, ∃ i < e.2, index.lookup e.1 = some i) :
    ∃ is, List.Forall₂ (fun dim i => index.lookup dim = some i) dims is ∧
      List.Forall₂ (· < ·) is shape := by
  induction dims generalizing shape with
  | nil =>
      obtain rfl := List.length_eq_zero_iff.1 lengths.symm
      exact ⟨[], .nil, .nil⟩
  | cons dim dims ih =>
      cases shape with
      | nil => cases lengths
      | cons n sizes =>
          rw [List.zip_cons_cons, List.forall_mem_cons] at known
          obtain ⟨⟨i, below, found⟩, rest⟩ := known
          obtain ⟨is, along, within⟩ := ih (Nat.succ.inj lengths) rest
          exact ⟨i :: is, .cons found along, .cons below within⟩

/-- Indices below the sizes of the dimensions of a dataset find a cell in each variable. -/
theorem exists_indexedBy {ds : Dataset} {name : String} (fit : ds.fits name v)
    (known : ∀ dim ∈ v.dims, ∀ n, ds.sizeOf? dim = some n → ∃ i < n, index.lookup dim = some i) :
    ∃ is, v.IndexedBy index is := by
  obtain ⟨lengths, sizes, -⟩ := fits_iff.1 fit
  obtain ⟨is, along, below⟩ := exists_indices lengths fun e member =>
    known e.1 (List.of_mem_zip member).1 e.2 (sizes e member)
  exact ⟨is, along, below⟩

/-- Indices by dimension find the same cell in the opposite order of the dimensions. -/
theorem cellAt?_transposed (indexed : v.IndexedBy index is) :
    v.transposed.cellAt? index = v.cellAt? index := by
  have reversed : v.transposed.IndexedBy index is.reverse :=
    ⟨List.forall₂_reverse_iff.2 indexed.along, List.forall₂_reverse_iff.2 indexed.below⟩
  rw [reversed.cellAt?, indexed.cellAt?]
  have there : (v.cells.block.get? is.reverse.reverse).isSome := by
    rw [List.reverse_reverse]
    exact indexed.isSome
  refine (Block.get?_ofFn_get? (Block.inside_iff.2 reversed.below) List.reverse _ there).trans ?_
  rw [List.reverse_reverse]

theorem map_zip_indices {dim : String} {σ : Nat → Nat} {dims : List String}
    (along : List.Forall₂ (fun dim i => index.lookup dim = some i) dims is)
    (along' : List.Forall₂ (fun dim i => index'.lookup dim = some i) dims js)
    (moved : ∀ d i, index.lookup d = some i →
      index'.lookup d = some (if d = dim then σ i else i)) :
    (dims.zip is).map (fun e => if e.1 = dim then σ e.2 else e.2) = js := by
  induction along generalizing js with
  | nil =>
      cases along'
      rfl
  | cons first _ ih =>
      cases along' with
      | cons first' rest' =>
          rw [List.zip_cons_cons, List.map_cons, ih rest']
          rw [moved _ _ first] at first'
          rw [Option.some.inj first']

/-- A variable with other indices along a dimension has at these what stood at those. -/
theorem cellAt?_reindexed {dim : String} {σ : Nat → Nat} (present : dim ∈ v.dims)
    (indexed : v.IndexedBy index is) (indexed' : v.IndexedBy index' js)
    (moved : ∀ d i, index.lookup d = some i →
      index'.lookup d = some (if d = dim then σ i else i)) :
    (v.reindexed dim σ).cellAt? index = v.cellAt? index' := by
  have same : (v.reindexed dim σ).IndexedBy index is := by
    refine ⟨?_, ?_⟩
    · rw [dims_reindexed]
      exact indexed.along
    · rw [shape_reindexed]
      exact indexed.below
  have all := map_zip_indices indexed.along indexed'.along moved
  have there : (v.cells.block.get? ((v.dims.zip is).map fun e =>
      if e.1 = dim then σ e.2 else e.2)).isSome := by
    rw [all]
    exact indexed'.isSome
  rw [same.cellAt?, indexed'.cellAt?, reindexed, if_pos (List.contains_iff_mem.2 present)]
  refine (Block.get?_ofFn_get? (Block.inside_iff.2 indexed.below) _ _ there).trans ?_
  rw [all]

/-- The new dimension does not matter for the cells of a variable that is repeated along it. -/
theorem cellAt?_broadcast {dim : String} {n i : Nat} (indexed : v.IndexedBy index is)
    (first : index.lookup dim = some i) (below : i < n) :
    (v.broadcast dim n).cellAt? index = v.cellAt? index := by
  have more : (v.broadcast dim n).IndexedBy index (i :: is) :=
    ⟨.cons first indexed.along, .cons below indexed.below⟩
  rw [more.cellAt?, indexed.cellAt?]
  exact Block.get?_ofFn_get? (Block.inside_iff.2 more.below) List.tail _ indexed.isSome

end Cells

/-! ## Fitting -/

theorem fits_transposed {ds : Dataset} {name : String} {v : Variable} (fit : ds.fits name v) :
    ds.fits name v.transposed := by
  obtain ⟨lengths, sizes, named⟩ := fits_iff.1 fit
  refine fits_iff.2 ⟨?_, ?_, ?_⟩
  · change v.dims.reverse.length = v.cells.shape.reverse.length
    rw [List.length_reverse, List.length_reverse, lengths]
  · intro e member
    have reversed : v.dims.reverse.zip v.cells.shape.reverse = (v.dims.zip v.cells.shape).reverse :=
      (List.reverse_zipWith lengths).symm
    change e ∈ v.dims.reverse.zip v.cells.shape.reverse at member
    rw [reversed, List.mem_reverse] at member
    exact sizes e member
  · change v.cells.shape.reverse.length ≠ 0 ∨ _
    rw [List.length_reverse]
    exact named

theorem fits_reindexed {ds : Dataset} {name : String} {v : Variable} (fit : ds.fits name v)
    (dim : String) (σ : Nat → Nat) : ds.fits name (v.reindexed dim σ) := by
  rw [fits_iff, dims_reindexed, shape_reindexed]
  exact fits_iff.1 fit

theorem fits_broadcast {ds : Dataset} {name dim : String} {v : Variable} {n : Nat}
    (fit : ds.fits name v) (size : ds.sizeOf? dim = some n) : ds.fits name (v.broadcast dim n) := by
  obtain ⟨lengths, sizes, -⟩ := fits_iff.1 fit
  refine fits_iff.2 ⟨congrArg Nat.succ lengths, ?_, .inl (Nat.succ_ne_zero _)⟩
  exact List.forall_mem_cons.2 ⟨size, sizes⟩

end Variable

/-! ## Datasets -/

namespace Dataset

/-- The dataset with other variables under its names. -/
def revise (ds : Dataset) (f : String → Variable → Variable) : Dataset :=
  { ds with
    vars := ⟨ds.vars.entries.map fun e => (e.1, f e.1 e.2), by
      rw [List.map_map]
      exact ds.vars.nodup⟩ }

/-- Changes the variables of some names. -/
def among (chosen : String → Bool) (g : Variable → Variable) (name : String) (v : Variable) :
    Variable :=
  if chosen name then g v else v

/-- The other variables fit into the dataset, and have the dimensions that were there. -/
structure Refits (ds : Dataset) (f : String → Variable → Variable) : Prop where
  fit (e : String × Variable) (member : e ∈ ds.vars.entries) : ds.fits e.1 (f e.1 e.2)
  dims (e : String × Variable) (member : e ∈ ds.vars.entries) (dim : String)
    (present : dim ∈ e.2.dims) : dim ∈ (f e.1 e.2).dims

variable {ds : Dataset} {f : String → Variable → Variable}

theorem entries_revise :
    (ds.revise f).vars.entries = ds.vars.entries.map fun e => (e.1, f e.1 e.2) := rfl

theorem contains_revise (name : String) :
    (ds.revise f).vars.contains name = ds.vars.contains name := by
  have names : (ds.revise f).vars.names = ds.vars.names := by
    rw [Table.names, entries_revise, List.map_map]
    rfl
  rw [Table.contains, names, Table.contains]

theorem get?_revise (name : String) :
    (ds.revise f).vars.get? name = (ds.vars.get? name).map (f name) := by
  rw [Table.get?, entries_revise, Table.get?]
  induction ds.vars.entries with
  | nil => rfl
  | cons e es ih =>
      rw [List.map_cons, List.lookup_cons, List.lookup_cons]
      cases same : name == e.1 with
      | false => exact ih
      | true =>
          rw [eq_of_beq same]
          rfl

section Refits

variable (well : ds.WellFormed) (refits : ds.Refits f) {dim : String}

theorem exists_of_sizeOf? {n : Nat} (found : ds.sizeOf? dim = some n) :
    ∃ e ∈ ds.vars.entries, e.2.sizeOf? dim = some n :=
  List.exists_of_findSome?_eq_some found

include well in
theorem isDimension_iff : ds.isDimension dim ↔ (ds.sizeOf? dim).isSome := by
  rw [isDimension, List.any_eq_true, sizeOf?, List.findSome?_isSome_iff]
  refine exists_congr fun e => and_congr_right fun member => ?_
  rw [List.contains_iff_mem, Variable.isSome_sizeOf? (well e member)]

include well refits

theorem sizeOf?_revise (dim : String) : (ds.revise f).sizeOf? dim = ds.sizeOf? dim := by
  have known {n : Nat} (found : (ds.revise f).sizeOf? dim = some n) : ds.sizeOf? dim = some n := by
    obtain ⟨e', member, size⟩ := exists_of_sizeOf? found
    obtain ⟨e, listed, rfl⟩ := List.mem_map.1 member
    exact Variable.sizeOf?_of_fits (refits.fit e listed) size
  refine Option.ext fun n => ⟨known, fun found => ?_⟩
  obtain ⟨e, member, size⟩ := exists_of_sizeOf? found
  have present := (Variable.isSome_sizeOf? (well e member)).1 (Option.isSome_of_eq_some size)
  have kept := (Variable.isSome_sizeOf? (refits.fit e member)).2 (refits.dims e member dim present)
  have some : ((ds.revise f).sizeOf? dim).isSome :=
    List.findSome?_isSome_iff.2 ⟨_, List.mem_map_of_mem member, kept⟩
  obtain ⟨m, found'⟩ := Option.isSome_iff_exists.1 some
  exact found'.trans ((known found').symm.trans found)

theorem isDimension_revise (dim : String) : (ds.revise f).isDimension dim = ds.isDimension dim := by
  rw [Bool.eq_iff_iff]
  constructor
  · intro along
    obtain ⟨e', member, present⟩ := List.any_eq_true.1 along
    obtain ⟨e, listed, rfl⟩ := List.mem_map.1 member
    have some := (Variable.isSome_sizeOf? (refits.fit e listed)).2 (List.contains_iff_mem.1 present)
    obtain ⟨n, size⟩ := Option.isSome_iff_exists.1 some
    exact (isDimension_iff well).2
      (Option.isSome_of_eq_some (Variable.sizeOf?_of_fits (refits.fit e listed) size))
  · intro along
    obtain ⟨e, member, present⟩ := List.any_eq_true.1 along
    exact List.any_eq_true.2 ⟨_, List.mem_map_of_mem member,
      List.contains_iff_mem.2 (refits.dims e member dim (List.contains_iff_mem.1 present))⟩

theorem wellFormed_revise : (ds.revise f).WellFormed := by
  intro e' member
  obtain ⟨e, listed, rfl⟩ := List.mem_map.1 member
  obtain ⟨lengths, sizes, named⟩ := Variable.fits_iff.1 (refits.fit e listed)
  refine Variable.fits_iff.2 ⟨lengths, fun size present => ?_, ?_⟩
  · rw [sizeOf?_revise well refits]
    exact sizes size present
  · rw [isDimension_revise well refits]
    exact named

theorem isCoordinate_revise (name : String) :
    (ds.revise f).isCoordinate name = ds.isCoordinate name := by
  rw [isCoordinate, isCoordinate, contains_revise, isDimension_revise well refits]
  rfl

theorem coordinates_revise :
    (ds.revise f).coordinates = ds.coordinates.map fun e => (e.1, f e.1 e.2) := by
  rw [coordinates, entries_revise, List.filter_map, coordinates]
  congr 1
  exact List.filter_congr fun e _ => isCoordinate_revise well refits e.1

theorem dataVariables_revise :
    (ds.revise f).dataVariables = ds.dataVariables.map fun e => (e.1, f e.1 e.2) := by
  rw [dataVariables, entries_revise, List.filter_map, dataVariables]
  congr 1
  exact List.filter_congr fun e _ => congrArg (!·) (isCoordinate_revise well refits e.1)

end Refits

end Dataset

end Meteo
