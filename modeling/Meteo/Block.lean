/-
# Meteo.Block -- cells arranged along several dimensions

A block holds one cell for every combination of indices, the last index varying
fastest.  The number of its cells is the product of its sizes, which is part of
the type; a block without dimensions has a single cell.

`ofFn` builds a block from what stands at each combination, and transposing and
cutting are defined by it.
-/

namespace Meteo

set_option autoImplicit false

namespace Block

def count : List Nat → Nat
  | [] => 1
  | n :: ns => n * count ns

end Block

/-- Cells of one type with their sizes. -/
structure Block (α : Type) where
  shape : List Nat
  cells : Vector α (Block.count shape)

namespace Block

variable {α β : Type}

/-- The cells in order with these sizes, if their number fits. -/
def ofCells? (shape : List Nat) (cells : Array α) : Option (Block α) :=
  if h : cells.size = count shape then some ⟨shape, ⟨cells, h⟩⟩ else none

def ofVector {n : Nat} (cells : Vector α n) : Block α :=
  ⟨[n], cells.cast (by simp [count])⟩

/-- Pairs along a dimension, the two of a pair along a second one. -/
def ofPairs {n : Nat} (cells : Vector (α × α) n) : Block α :=
  ⟨[n, 2], Vector.ofFn fun i : Fin (count [n, 2]) =>
    have bound : i.val / 2 < n := by
      have := i.isLt
      simp only [count] at this
      omega
    let pair := cells[i.val / 2]
    if i.val % 2 = 0 then pair.1 else pair.2⟩

def rank (b : Block α) : Nat := b.shape.length

def size (b : Block α) : Nat := count b.shape

def indices : List Nat → List (List Nat)
  | [] => [[]]
  | n :: ns => (List.range n).flatMap fun i => (indices ns).map (i :: ·)

theorem length_indices (shape : List Nat) : (indices shape).length = count shape := by
  induction shape with
  | nil => rfl
  | cons n ns ih =>
    simp [indices, count, List.length_flatMap, ih, List.map_const']

def ofFn (shape : List Nat) (f : List Nat → α) : Block α :=
  ⟨shape, ⟨((indices shape).map f).toArray, by simp [length_indices]⟩⟩

/-- The place of a combination of indices among the cells. -/
def offset : List Nat → List Nat → Nat
  | _ :: ns, i :: is => i * count ns + offset ns is
  | _, _ => 0

/-- Whether the indices are as many as the sizes and below them. -/
def inside : List Nat → List Nat → Bool
  | [], [] => true
  | n :: ns, i :: is => i < n && inside ns is
  | _, _ => false

def get? (b : Block α) (index : List Nat) : Option α :=
  if inside b.shape index then b.cells[offset b.shape index]? else none

def map (f : α → β) (b : Block α) : Block β := ⟨b.shape, b.cells.map f⟩

/-- Converts the cells in order until one fails. -/
def mapM {ε : Type} (f : α → Except ε β) (b : Block α) : Except ε (Block β) :=
  (b.cells.mapM f).map fun cells => ⟨b.shape, cells⟩

/-- The cells of a block of one dimension of this size. -/
def vector? (b : Block α) (n : Nat) : Option (Vector α n) :=
  if h : b.shape = [n] then some (b.cells.cast (by simp [h, count])) else none

/-- The cells of a block of two dimensions, the second of size two, as pairs. -/
def pairs? (b : Block α) (n : Nat) : Option (Vector (α × α) n) :=
  if h : b.shape = [n, 2] then
    some (Vector.ofFn fun i : Fin n =>
      have size : count b.shape = n * 2 := by simp [h, count]
      have bound := i.isLt
      (b.cells[2 * i.val], b.cells[2 * i.val + 1]))
  else none

end Block

end Meteo
