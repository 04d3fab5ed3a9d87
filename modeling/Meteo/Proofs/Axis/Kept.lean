/-
# Meteo.Proofs.Axis.Kept -- what an axis keeps of its samples

Doubles along a single dimension make an axis, alone or with a pair of bounds for each of
them, and nothing else does (`scaleOf_doubles`).  Whatever the samples are, the axis is
described by `Holds`: its spacing is the one that the samples and the source show, what is
stored passes the checks of the parts again, and the positions, the edges and the stored
numbers are as many as the spacing says.

The stored numbers are those that were given (`Keeps`).  Only cells that touch lose some:
where one cell ends and the next one begins a single edge is kept, and the bound that it
replaces is within the tolerance of touching cells.

Most of `Holds` is true of every axis, since a layout carries its numbers in its type
(`ofParts_toParts`, `edges_eq`).  What depends on the samples is shown once for samples alone
(`holds_points`) and once for samples in cells (`holds_pairs`).
-/
import Meteo.Proofs.Axis.Build
import Meteo.Proofs.Axis.Origin
import Meteo.Proofs.Cells

namespace Meteo

set_option autoImplicit false

open Ordinate

/-! ## What is stored, as parts -/

section Parts

variable {α : Type} {n : Nat}

/-- What is stored of samples, as the parts of which a scale is made. -/
def Layout.toParts : Layout α n → Layout.Parts α
  | .regular => {}
  | .points values => { values := some (.ofVector values) }
  | .edges values => { edges := some (.ofVector values) }
  | .cells bounds => { bounds := some (.ofPairs bounds) }

/-- Exactly the part is there that a kind of spacing asks for. -/
structure Layout.Parts.Exactly (p : Layout.Parts α) (kind : Spacing) : Prop where
  values : p.values.isSome ↔ kind = .irregularPoint
  edges : p.edges.isSome ↔ kind = .contiguousInterval
  bounds : p.bounds.isSome ↔ kind = .discontiguousInterval

theorem Layout.exactly_toParts (l : Layout α n) : l.toParts.Exactly l.spacing := by
  constructor <;> cases l <;> simp [toParts, spacing]

/-- What a scale stores makes the scale again. -/
theorem Scale.ofParts_toParts (s : Scale α) :
    ofParts s.size s.start s.stop s.spacing s.layout.toParts = .ok s := by
  obtain ⟨n, h, start, stop, layout⟩ := s
  have fits : layout.toParts.misfit? layout.spacing = none := by cases layout <;> rfl
  have made : layout.toParts.layout? n layout.spacing = .ok layout := by
    cases layout <;> simp [Layout.toParts, Layout.spacing, Layout.Parts.layout?]
  exact ofParts_of_layout h start stop fits made

end Parts

/-! ## The kind of spacing of samples -/

namespace Spacing

variable {α : Type} [Ordinate α] {n : Nat}

theorem ofSamples_ofVector (values : Vector α n) (regular : Option Bool) :
    ofSamples (.ofVector values) none regular =
      .ok (classify (Scale.isEven values regular) false false) := by
  cases regular with
  | none => exact ofSamples_points values
  | some r => rfl

theorem ofSamples_ofVector_ofPairs (values : Vector α n) (bounds : Vector (α × α) n)
    (regular : Option Bool) : ofSamples (.ofVector values) (some (.ofPairs bounds)) regular =
      .ok (classify (Scale.isEven values regular) true (isContiguous bounds.toList)) := by
  cases regular with
  | none => exact ofSamples_ofPairs values bounds
  | some r =>
      rw [ofSamples]
      simp only [isContiguousBlock_ofPairs]
      rfl

end Spacing

/-! ## Samples and bounds by their indices -/

namespace Block

variable {α : Type} {n i : Nat}

theorem get?_ofVector (values : Vector α n) (within : i < n) :
    (ofVector values).get? [i] = some values[i] := by
  have bound : i < count [n] := by rwa [count, count, Nat.mul_one]
  rw [get?_one (shape_ofVector values) within]
  exact Vector.getElem?_eq_getElem bound

theorem get?_ofPairs (bounds : Vector (α × α) n) (within : i < n) :
    (ofPairs bounds).get? [i, 0] = some bounds[i].1 ∧
      (ofPairs bounds).get? [i, 1] = some bounds[i].2 := by
  have size : count [n, 2] = n * 2 := by simp [count]
  have first : i * 2 + 0 < count [n, 2] := by omega
  have second : i * 2 + 1 < count [n, 2] := by omega
  rw [get?_two (shape_ofPairs bounds) within (by decide),
    get?_two (shape_ofPairs bounds) within (by decide)]
  constructor
  · rw [ofPairs, Vector.getElem?_ofFn, dif_pos first]
    simp
  · rw [ofPairs, Vector.getElem?_ofFn, dif_pos second]
    simp [show (i * 2 + 1) / 2 = i by omega]

end Block

/-! ## Axes of doubles -/

namespace Axis

variable {a : Axis} {values : Block Float} {bounds : Option (Block Float)} {n : Nat}

/-- The stored numbers of an axis are those it was made of: none where the samples are evenly
spaced; the samples; where each cell begins and where the last one ends, the other bounds being
close to the edge that follows; or both bounds of each cell in turn. -/
inductive Keeps (a : Axis) (values : Block Float) : Option (Block Float) → Prop where
  | regular {bounds : Option (Block Float)} (kind : a.scale.spacing = .regular)
      (stored : a.stored = .error (.coordinate a.name .noStoredValues)) : Keeps a values bounds
  | points {xs : List Float} (kind : a.scale.spacing = .irregularPoint)
      (stored : a.stored = .ok xs) (length : xs.length = a.scale.size)
      (each : ∀ i < a.scale.size, xs[i]? = values.get? [i]) : Keeps a values none
  | edges {b : Block Float} {xs : List Float} (kind : a.scale.spacing = .contiguousInterval)
      (stored : a.stored = .ok xs) (length : xs.length = a.scale.size + 1)
      (lower : ∀ i < a.scale.size, xs[i]? = b.get? [i, 0])
      (last : xs[a.scale.size]? = b.get? [a.scale.size - 1, 1])
      (near : ∀ i, i + 1 < a.scale.size → ∃ upper edge, b.get? [i, 1] = some upper ∧
        xs[i + 1]? = some edge ∧ close (tenth 5) (tenth 8) upper edge) :
      Keeps a values (some b)
  | cells {b : Block Float} {xs : List Float} (kind : a.scale.spacing = .discontiguousInterval)
      (stored : a.stored = .ok xs) (length : xs.length = 2 * a.scale.size)
      (each : ∀ i < a.scale.size,
        xs[2 * i]? = b.get? [i, 0] ∧ xs[2 * i + 1]? = b.get? [i, 1]) :
      Keeps a values (some b)

/-- The axis of samples and perhaps of the bounds of their cells, where the source may say whether
the samples are evenly spaced. -/
structure Holds (a : Axis) (values : Block Float) (bounds : Option (Block Float))
    (regular : Option Bool) : Prop where
  size : values.shape = [a.scale.size]
  start : values.get? [0] = some a.start
  stop : values.get? [a.scale.size - 1] = some a.stop
  kind : Spacing.ofSamples values bounds regular = .ok a.scale.spacing
  accepted : Scale.ofParts a.scale.size a.scale.start a.scale.stop a.scale.spacing
    a.scale.layout.toParts = .ok a.scale
  exactly : a.scale.layout.toParts.Exactly a.scale.spacing
  positions : a.positions.length = a.scale.size
  edges : if a.scale.spacing = .discontiguousInterval
    then a.edges = .error (.coordinate a.name .noSharedEdges)
    else ∃ xs, a.edges = .ok xs ∧ xs.length = a.scale.size + 1
  keeps : a.Keeps values bounds

/-! ### The numbers that are kept -/

theorem length_inTurn {α : Type} (bounds : List (α × α)) :
    (bounds.flatMap fun b => [b.1, b.2]).length = 2 * bounds.length := by
  induction bounds with
  | nil => rfl
  | cons b bounds ih =>
      rw [List.flatMap_cons, List.length_append, ih]
      simp only [List.length_cons, List.length_nil]
      omega

/-- Both bounds of each cell in turn. -/
theorem getElem?_inTurn {α : Type} (bounds : List (α × α)) (i : Nat) :
    (bounds.flatMap fun b => [b.1, b.2])[2 * i]? = bounds[i]?.map Prod.fst ∧
      (bounds.flatMap fun b => [b.1, b.2])[2 * i + 1]? = bounds[i]?.map Prod.snd := by
  induction bounds generalizing i with
  | nil => exact ⟨rfl, rfl⟩
  | cons b bounds ih =>
      cases i with
      | zero => exact ⟨rfl, rfl⟩
      | succ i => exact ih i

theorem length_positions (a : Axis) : a.positions.length = a.scale.size := by
  rw [positions, List.length_map, Vector.length_toList]

/-- Cells with gaps between them share no edges; all other samples have one more edge than there are
samples. -/
theorem edges_eq (a : Axis) : if a.scale.spacing = .discontiguousInterval
    then a.edges = .error (.coordinate a.name .noSharedEdges)
    else ∃ xs, a.edges = .ok xs ∧ xs.length = a.scale.size + 1 := by
  rw [edges, Scale.coordEdges?, Scale.spacing]
  cases a.scale.layout with
  | cells bounds => rfl
  | regular | points values | edges values =>
      exact ⟨_, rfl, by rw [List.length_map, Vector.length_toList]⟩

theorem stored_of_some {xs : List Float} (stored : a.scale.stored? = some xs) :
    a.stored = .ok xs := by
  rw [Axis.stored, stored]
  exact congrArg Except.ok (List.map_id xs)

theorem stored_of_none (none : a.scale.stored? = none) :
    a.stored = .error (.coordinate a.name .noStoredValues) := by
  rw [Axis.stored, none]

section Layouts

variable {start stop : Float} {h : 0 < n}

theorem keeps_regular {b : Option (Block Float)} (made : a.scale = ⟨n, h, start, stop, .regular⟩) :
    a.Keeps values b :=
  .regular (by rw [made]; rfl) (stored_of_none (by rw [made]; rfl))

theorem keeps_points {v : Vector Float n} (made : a.scale = ⟨n, h, start, stop, .points v⟩) :
    a.Keeps (.ofVector v) none := by
  refine .points (by rw [made]; rfl) (stored_of_some (by rw [made]; rfl))
    (by rw [made, Vector.length_toList]) fun i within => ?_
  rw [made] at within
  rw [Block.get?_ofVector v within, Vector.getElem?_toList, Vector.getElem?_eq_getElem within]

/-- Where one cell ends and the next one begins, only the edge of the next one is kept. -/
theorem keeps_edges {v : Vector (Float × Float) n}
    (made : a.scale = ⟨n, h, start, stop, .edges (Scale.sharedEdges h v)⟩)
    (touching : Spacing.isContiguous v.toList = true) : a.Keeps values (some (.ofPairs v)) := by
  have edge {i : Nat} (bound : i < n + 1) :
      (Scale.sharedEdges h v).toList[i]? = some (Scale.sharedEdges h v)[i] := by
    rw [Vector.getElem?_toList, Vector.getElem?_eq_getElem bound]
  refine .edges (by rw [made]; rfl) (stored_of_some (by rw [made]; rfl))
    (by rw [made, Vector.length_toList]) (fun i within => ?_) ?_ fun i next => ?_
  · rw [made] at within
    rw [(Block.get?_ofPairs v within).1, edge (Nat.lt_succ_of_lt within),
      Scale.getElem_sharedEdges_of_lt h v within]
  · rw [made]
    dsimp only
    rw [(Block.get?_ofPairs v (show n - 1 < n by omega)).2, edge n.lt_succ_self,
      Scale.getElem_sharedEdges_of_eq h v rfl]
  · replace next : i + 1 < n := by rwa [made] at next
    refine ⟨_, _, (Block.get?_ofPairs v (Nat.lt_of_succ_lt next)).2, edge (by omega), ?_⟩
    rw [Scale.getElem_sharedEdges_of_lt h v next]
    exact Spacing.isContiguous_toList_iff v |>.1 touching ⟨i, by omega⟩ ⟨i + 1, next⟩ rfl

theorem keeps_cells {v : Vector (Float × Float) n}
    (made : a.scale = ⟨n, h, start, stop, .cells v⟩) : a.Keeps values (some (.ofPairs v)) := by
  refine .cells (by rw [made]; rfl) (stored_of_some (by rw [made]; rfl)) ?_ fun i within => ?_
  · rw [made, length_inTurn, Vector.length_toList]
  · rw [made] at within
    obtain ⟨lower, upper⟩ := Block.get?_ofPairs v within
    obtain ⟨first, second⟩ := getElem?_inTurn v.toList i
    rw [lower, upper, first, second, Vector.getElem?_toList, Vector.getElem?_eq_getElem within]
    exact ⟨rfl, rfl⟩

/-- What depends on the samples is the kind of spacing and the numbers kept. -/
theorem holds_of_made {v : Vector Float n} {layout : Layout Float n} {regular : Option Bool}
    (made : a.scale = ⟨n, h, v[0], v.get (Scale.lastIndex h), layout⟩)
    (kind : Spacing.ofSamples (.ofVector v) bounds regular = .ok layout.spacing)
    (keeps : a.Keeps (.ofVector v) bounds) : a.Holds (.ofVector v) bounds regular where
  size := by rw [made]; rfl
  start := by rw [Block.get?_ofVector v h, start, made]; rfl
  stop := by
    rw [made]
    rw [Block.get?_ofVector v (show n - 1 < n by omega), stop, made]
    rfl
  kind := by rw [kind, made]; rfl
  accepted := Scale.ofParts_toParts a.scale
  exactly := Layout.exactly_toParts a.scale.layout
  positions := a.length_positions
  edges := a.edges_eq
  keeps := keeps

end Layouts

/-! ### Samples that make an axis -/

theorem holds_points (h : 0 < n) (v : Vector Float n) (regular : Option Bool)
    (made : Scale.ofVector h v none regular = .ok a.scale) :
    a.Holds (.ofVector v) none regular := by
  rw [Scale.ofVector_points] at made
  have made := (Except.ok.inj made).symm
  have kind := Spacing.ofSamples_ofVector v regular
  cases even : Scale.isEven v regular with
  | true =>
      rw [even, if_pos rfl] at made
      rw [even] at kind
      exact holds_of_made made kind (keeps_regular made)
  | false =>
      rw [even, if_neg Bool.false_ne_true] at made
      rw [even] at kind
      exact holds_of_made made kind (keeps_points made)

theorem holds_pairs (h : 0 < n) (v : Vector Float n) (b : Vector (Float × Float) n)
    (regular : Option Bool) (made : Scale.ofVector h v (some (.ofPairs b)) regular = .ok a.scale) :
    a.Holds (.ofVector v) (some (.ofPairs b)) regular := by
  rw [Scale.ofVector_pairs] at made
  have made := (Except.ok.inj made).symm
  have kind := Spacing.ofSamples_ofVector_ofPairs v b regular
  rw [← Scale.spacing_layoutOf h v b (.classify _ _ _)] at kind
  refine holds_of_made made kind ?_
  cases even : Scale.isEven v regular with
  | true =>
      rw [even] at made
      exact keeps_regular made
  | false =>
      cases touching : Spacing.isContiguous b.toList with
      | true =>
          rw [even, touching] at made
          exact keeps_edges made touching
      | false =>
          rw [even, touching] at made
          exact keeps_cells made

/-- The samples do not run along a single dimension, or there are none of them, or the bounds are
not a pair for each of them. -/
def Misshapen (values : Block Float) (bounds : Option (Block Float)) : Prop :=
  values.rank ≠ 1 ∨ values.size = 0 ∨ ∃ b ∈ bounds, b.shape ≠ [values.size, 2]

theorem misshapen_ofVector (h : 0 < n) (v : Vector Float n) :
    Misshapen (.ofVector v) bounds ↔ ∃ b ∈ bounds, b.shape ≠ [n, 2] := by
  have rank : (Block.ofVector v).rank = 1 := rfl
  rw [Misshapen, rank, Block.size_ofVector]
  constructor
  · rintro (other | none | other)
    · exact absurd rfl other
    · omega
    · exact other
  · exact fun other => .inr (.inr other)

theorem misshapen_of_not_samples (other : ¬ ∃ n, 0 < n ∧ values.shape = [n]) :
    Misshapen values bounds := by
  rw [Misshapen]
  by_contra well
  rw [not_or, not_or, not_not] at well
  obtain ⟨n, shape⟩ := List.length_eq_one_iff.1 well.1
  have size : values.size = n := by simp [Block.size, shape, Block.count]
  exact other ⟨n, Nat.pos_of_ne_zero (size ▸ well.2.1), shape⟩

/-- The shape of the samples is checked before they are converted, and again with the bounds. -/
theorem scaleOf_ofDoubles (name : String) (values : Block Float) (bounds : Option (Block Float))
    (regular : Option Bool) :
    scaleOf name (.ofDoubles values) (bounds.map .ofDoubles) regular Cells.toDoubles =
      (Scale.ofSamples values bounds regular).mapError (Error.coordinate name) := by
  have shape : (Cells.ofDoubles values).shape = values.shape := rfl
  rw [scaleOf, samples, shape, Cells.toDoubles_ofDoubles]
  cases issue : Scale.samplesIssue? values.shape with
  | some issue' =>
      rw [Scale.ofSamples, issue]
      rfl
  | none =>
      cases bounds with
      | none => rfl
      | some b =>
          dsimp only [Option.map_some, bind, Except.bind, Except.mapError]
          rw [Cells.toDoubles_ofDoubles]
          rfl

/-- Doubles make an axis exactly if they run along a single dimension, there is one at least, and
the bounds are a pair for each of them; and the axis holds them. -/
theorem scaleOf_doubles (name : String) (values : Block Float) (bounds : Option (Block Float))
    (regular : Option Bool) :
    (Misshapen values bounds ∧ ∃ issue,
      scaleOf name (.ofDoubles values) (bounds.map .ofDoubles) regular Cells.toDoubles =
        .error (.coordinate name issue)) ∨
    (¬ Misshapen values bounds ∧ ∃ s,
      scaleOf name (.ofDoubles values) (bounds.map .ofDoubles) regular Cells.toDoubles = .ok s ∧
        ∀ a : Axis, { a with scale := s }.Holds values bounds regular) := by
  rw [scaleOf_ofDoubles]
  by_cases samples : ∃ n, 0 < n ∧ values.shape = [n]
  · obtain ⟨n, h, shape⟩ := samples
    obtain ⟨v, rfl⟩ := Block.exists_ofVector shape
    rw [Scale.ofSamples_ofVector h, misshapen_ofVector h]
    cases bounds with
    | none =>
        refine .inr ⟨nofun, _, ?_, fun a => holds_points h v regular (Scale.ofVector_points h v _)⟩
        rw [Scale.ofVector_points]
        rfl
    | some b =>
        by_cases pairs : b.shape = [n, 2]
        · obtain ⟨cells, rfl⟩ := Block.exists_ofPairs pairs
          refine .inr ⟨?_, _, ?_, fun a =>
            holds_pairs h v cells regular (Scale.ofVector_pairs h v cells _)⟩
          · rintro ⟨_, ⟨⟩, other⟩
            exact other pairs
          · rw [Scale.ofVector_pairs]
            rfl
        · refine .inl ⟨⟨b, rfl, pairs⟩, .boundsShape b.shape n, ?_⟩
          rw [Scale.ofVector_of_not_pairs h v regular pairs]
          rfl
  · obtain ⟨issue, refused⟩ := Scale.samplesIssue?_of_not_samples samples
    refine .inl ⟨misshapen_of_not_samples samples, issue, ?_⟩
    rw [Scale.ofSamples, refused]
    rfl

end Axis

end Meteo
