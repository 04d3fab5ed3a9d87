/-
# Meteo.Proofs.Block -- what stands in blocks

Samples are blocks of one dimension and the bounds of their cells blocks of two.
Reading such a block back gives what it was made of, and every block of these shapes
is made so (`exists_ofVector`, `exists_ofPairs`).  Every combination of indices
inside the sizes of a block has a cell (`isSome_get?`), and a block made of what stands
at each combination has that there (`get?_ofFn`).  By its indices a cell of a block of
two dimensions is found in the rows one after the other.
-/
import Meteo.Block

namespace Meteo.Block

set_option autoImplicit false

variable {α : Type} {n : Nat}

@[simp] theorem shape_ofVector (cells : Vector α n) : (ofVector cells).shape = [n] := rfl

@[simp] theorem shape_ofPairs (cells : Vector (α × α) n) : (ofPairs cells).shape = [n, 2] := rfl

@[simp] theorem size_ofVector (cells : Vector α n) : (ofVector cells).size = n := by
  simp [size, count]

@[simp] theorem vector?_ofVector (cells : Vector α n) :
    (ofVector cells).vector? n = some cells := by
  rw [vector?, dif_pos (shape_ofVector cells)]
  rfl

@[simp] theorem pairs?_ofPairs (cells : Vector (α × α) n) :
    (ofPairs cells).pairs? n = some cells := by
  rw [pairs?, dif_pos (shape_ofPairs cells)]
  congr 1
  apply Vector.ext
  intro i bound
  have second : (2 * i + 1) / 2 = i := by omega
  simp [ofPairs, second]

/-- A block of one dimension is made of its cells. -/
theorem exists_ofVector {b : Block α} (shape : b.shape = [n]) :
    ∃ cells : Vector α n, b = ofVector cells := by
  obtain ⟨_, cells⟩ := b
  cases shape
  exact ⟨cells.cast (by simp [count]), by simp [ofVector]⟩

/-- A block of two dimensions, the second of size two, is made of pairs. -/
theorem exists_ofPairs {b : Block α} (shape : b.shape = [n, 2]) :
    ∃ cells : Vector (α × α) n, b = ofPairs cells := by
  obtain ⟨_, cells⟩ := b
  cases shape
  have size : count [n, 2] = n * 2 := by simp [count]
  refine ⟨.ofFn fun i => (cells.get ⟨2 * i.val, by omega⟩, cells.get ⟨2 * i.val + 1, by omega⟩), ?_⟩
  rw [ofPairs]
  congr 1
  apply Vector.ext
  intro i bound
  have parts := Nat.div_add_mod i 2
  simp only [Vector.getElem_ofFn]
  split
  · next first =>
    simp only [show 2 * (i / 2) = i by omega]
    rfl
  · next second =>
    simp only [show 2 * (i / 2) + 1 = i by omega]
    rfl

/-- Converting the cells keeps the sizes. -/
theorem shape_of_mapM {ε β : Type} {f : α → Except ε β} {b : Block α} {b' : Block β}
    (converted : b.mapM f = .ok b') : b'.shape = b.shape := by
  rw [mapM] at converted
  cases cells : b.cells.mapM f with
  | error e => rw [cells] at converted; cases converted
  | ok cs => rw [cells] at converted; cases converted; rfl

/-- Converting undoes a change of the cells if it does so for each of them. -/
theorem mapM_map {ε β : Type} {f : α → β} {g : β → Except ε α} (back : ∀ x, g (f x) = .ok x)
    (b : Block α) : (b.map f).mapM g = .ok b := by
  have identity : g ∘ f = fun x => pure (id x) := funext back
  have cells : (b.cells.map f).mapM g = .ok b.cells := by
    rw [Vector.mapM_map, identity, Vector.mapM_pure, Vector.map_id]
    rfl
  rw [map, mapM, cells]
  rfl

/-! ## Blocks made of what stands at each combination -/

theorem length_of_inside {shape index : List Nat} (within : inside shape index) :
    index.length = shape.length := by
  induction shape generalizing index with
  | nil =>
      cases index with
      | nil => rfl
      | cons i is => cases within
  | cons n ns ih =>
      cases index with
      | nil => cases within
      | cons i is =>
          rw [inside, Bool.and_eq_true] at within
          exact congrArg Nat.succ (ih within.2)

/-- Every combination of indices inside the sizes has a place among the cells. -/
theorem offset_lt {shape index : List Nat} (within : inside shape index) :
    offset shape index < count shape := by
  induction shape generalizing index with
  | nil => exact Nat.one_pos
  | cons n ns ih =>
      cases index with
      | nil => cases within
      | cons i is =>
          rw [inside, Bool.and_eq_true, decide_eq_true_eq] at within
          have later := ih within.2
          have rows : (i + 1) * count ns ≤ n * count ns := Nat.mul_le_mul_right _ within.1
          rw [Nat.succ_mul] at rows
          rw [offset, count]
          omega

/-- In rows of one length, the entry at a place of a row. -/
theorem getElem?_flatMap_range {β : Type} {m : Nat} (f : Nat → List β)
    (length : ∀ i, (f i).length = m) {n i j : Nat} (row : i < n) (column : j < m) :
    ((List.range n).flatMap f)[i * m + j]? = (f i)[j]? := by
  induction n with
  | zero => cases row
  | succ n ih =>
      have rows : ((List.range n).flatMap f).length = n * m := by
        simp [List.length_flatMap, length, List.map_const']
      rw [List.range_succ, List.flatMap_append, List.flatMap_singleton]
      rcases Nat.lt_or_eq_of_le (Nat.le_of_lt_succ row) with earlier | last
      · have before : i * m + j < n * m := by
          have := Nat.mul_le_mul_right m earlier
          rw [Nat.succ_mul] at this
          omega
        rw [List.getElem?_append_left (rows ▸ before), ih earlier]
      · subst last
        rw [List.getElem?_append_right (by omega), rows, Nat.add_sub_cancel_left]

/-- The combinations of indices stand at their places. -/
theorem getElem?_indices {shape index : List Nat} (within : inside shape index) :
    (indices shape)[offset shape index]? = some index := by
  induction shape generalizing index with
  | nil =>
      cases index with
      | nil => rfl
      | cons i is => cases within
  | cons n ns ih =>
      cases index with
      | nil => cases within
      | cons i is =>
          rw [inside, Bool.and_eq_true, decide_eq_true_eq] at within
          rw [indices, offset, getElem?_flatMap_range _ (fun i => by simp [length_indices]) within.1
            (offset_lt within.2), List.getElem?_map, ih within.2]
          rfl

@[simp] theorem shape_ofFn (shape : List Nat) (f : List Nat → α) :
    (ofFn shape f).shape = shape := rfl

/-- A block made of what stands at each combination has that there. -/
theorem get?_ofFn {shape index : List Nat} (within : inside shape index) (f : List Nat → α) :
    (ofFn shape f).get? index = some (f index) := by
  have place : ((indices shape).map f)[offset shape index]? = some (f index) := by
    rw [List.getElem?_map, getElem?_indices within]
    rfl
  have within' : inside (ofFn shape f).shape index := within
  rw [get?, if_pos within', ← Vector.getElem?_toArray]
  exact List.getElem?_toArray.trans place

theorem isSome_get? {b : Block α} {index : List Nat} (within : inside b.shape index) :
    (b.get? index).isSome := by
  rw [get?, if_pos within, Vector.getElem?_eq_getElem (offset_lt within)]
  rfl

/-! ## Cells by their indices -/

variable {b : Block α} {m k i j : Nat}

theorem get?_one (shape : b.shape = [m]) (within : i < m) : b.get? [i] = b.cells[i]? := by
  simp [get?, shape, inside, offset, count, within]

theorem get?_two (shape : b.shape = [m, k]) (row : i < m) (column : j < k) :
    b.get? [i, j] = b.cells[i * k + j]? := by
  simp [get?, shape, inside, offset, count, row, column]

/-- The cell in a row and a column is there. -/
theorem isSome_two (shape : b.shape = [m, k]) (row : i < m) (column : j < k) :
    b.cells[i * k + j]?.isSome := by
  rw [← get?_two shape row column]
  exact isSome_get? (by simp [shape, inside, row, column])

theorem isSome_one (shape : b.shape = [m]) (within : i < m) : b.cells[i]?.isSome := by
  rw [← get?_one shape within]
  exact isSome_get? (by simp [shape, inside, within])

end Meteo.Block
