/-
# Meteo.Proofs.Axis.Build -- the scales that samples make

Samples along one dimension, in cells of their own, always make a scale, with as many
samples, the first and the last of them as its ends, and a layout that the spacing of the
samples and of the cells decides (`ofSamples_cells`).  Whatever is made into a scale or an
axis, the size is that of the only dimension there is (`shape_of_ofSamples`,
`shape_of_ofVariable`).
-/
import Meteo.Axis.Basic
import Meteo.Proofs.Block
import Meteo.Proofs.Outcome

namespace Meteo.Scale

set_option autoImplicit false

variable {α : Type} {n : Nat}

/-! ## Edges of cells that touch -/

/-- Where each cell begins, and where the last one ends. -/
def sharedEdges (h : 0 < n) (bounds : Vector (α × α) n) : Vector α (n + 1) :=
  Vector.ofFn fun i : Fin (n + 1) => if below : i.val < n then bounds[i.val].1 else bounds[n - 1].2

theorem getElem_sharedEdges_of_lt (h : 0 < n) (bounds : Vector (α × α) n) {i : Nat}
    (below : i < n) : (sharedEdges h bounds)[i] = bounds[i].1 := by
  rw [sharedEdges, Vector.getElem_ofFn, dif_pos below]

theorem getElem_sharedEdges_of_eq (h : 0 < n) (bounds : Vector (α × α) n) {i : Nat} (last : i = n) :
    (sharedEdges h bounds)[i] = bounds[n - 1].2 := by
  rw [sharedEdges, Vector.getElem_ofFn, dif_neg (Nat.not_lt.2 (Nat.le_of_eq last.symm))]

/-! ## Layouts of samples -/

/-- What a kind of spacing keeps of samples in cells. -/
def layoutOf (h : 0 < n) (values : Vector α n) (bounds : Vector (α × α) n) : Spacing → Layout α n
  | .regular => .regular
  | .irregularPoint => .points values
  | .contiguousInterval => .edges (sharedEdges h bounds)
  | .discontiguousInterval => .cells bounds

theorem spacing_layoutOf (h : 0 < n) (values : Vector α n) (bounds : Vector (α × α) n)
    (spacing : Spacing) : (layoutOf h values bounds spacing).spacing = spacing := by
  cases spacing <;> rfl

theorem spacing_of_layout? {parts : Layout.Parts α} {spacing : Spacing} {layout : Layout α n}
    (made : parts.layout? n spacing = .ok layout) : layout.spacing = spacing := by
  cases spacing <;> rw [Layout.Parts.layout?] at made
  · cases made
    rfl
  all_goals
    split at made
    · cases made
      rfl
    · cases made

/-- A scale that is made of parts has the size, the ends and the spacing that were asked for. -/
theorem of_ofParts {k : Int} {start stop : α} {spacing : Spacing} {parts : Layout.Parts α}
    {s : Scale α} (made : ofParts k start stop spacing parts = .ok s) :
    s.size = k.toNat ∧ s.start = start ∧ s.stop = stop ∧ s.spacing = spacing := by
  rw [ofParts] at made
  split at made
  · cases made
  · split at made
    · cases layout : parts.layout? k.toNat spacing with
      | error issue => rw [layout] at made; cases made
      | ok l =>
          rw [layout] at made
          cases made
          exact ⟨rfl, rfl, rfl, spacing_of_layout? layout⟩
    · cases made

/-- Parts that are what the spacing asks for make a scale. -/
theorem ofParts_of_layout {spacing : Spacing} {parts : Layout.Parts α} {layout : Layout α n}
    (h : 0 < n) (start stop : α) (fits : parts.misfit? spacing = none)
    (made : parts.layout? n spacing = .ok layout) :
    ofParts n start stop spacing parts = .ok ⟨n, h, start, stop, layout⟩ := by
  rw [ofParts, fits]
  simp only [Int.toNat_natCast, dif_pos h, made]
  rfl

theorem even_of_classify {even interval contiguous : Bool}
    (regular : Spacing.classify even interval contiguous = .regular) : even = true := by
  rw [Spacing.classify] at regular
  split at regular
  · assumption
  · split at regular
    · cases regular
    · split at regular <;> cases regular

variable [Ordinate α]

/-- The kind of spacing that samples in cells have. -/
def spacingOf (values : Vector α n) (bounds : Vector (α × α) n) : Spacing :=
  Spacing.classify (Spacing.isRegular Spacing.regularTolerance values.toList) true
    (Spacing.isContiguous bounds.toList)

theorem isRegular_of_spacingOf {values : Vector α n} {bounds : Vector (α × α) n}
    (regular : spacingOf values bounds = .regular) :
    Spacing.isRegular Spacing.regularTolerance values.toList = true :=
  even_of_classify regular

/-- Samples in cells are not points. -/
theorem spacingOf_ne_irregularPoint (values : Vector α n) (bounds : Vector (α × α) n) :
    spacingOf values bounds ≠ .irregularPoint := by
  rw [spacingOf, Spacing.classify]
  split
  · exact nofun
  · rw [if_neg (by decide)]
    split <;> exact nofun

omit [Ordinate α] in
theorem samplesIssue?_of_samples (h : 0 < n) : samplesIssue? [n] = none := by
  cases n with
  | zero => cases h
  | succ n => rfl

omit [Ordinate α] in
theorem samplesIssue?_of_not_samples {shape : List Nat}
    (other : ¬ ∃ n, 0 < n ∧ shape = [n]) : ∃ issue, samplesIssue? shape = some issue := by
  match shape with
  | [] => exact ⟨_, rfl⟩
  | [0] => exact ⟨_, rfl⟩
  | [n + 1] => exact absurd ⟨n + 1, n.succ_pos, rfl⟩ other
  | m :: k :: rest => exact ⟨.notOneDimensional (m :: k :: rest).length, by simp [samplesIssue?]⟩

theorem ofSamples_ofVector (h : 0 < n) (values : Vector α n) (bounds : Option (Block α))
    (regular : Option Bool) :
    ofSamples (.ofVector values) bounds regular = ofVector h values bounds regular := by
  have well : samplesIssue? (Block.ofVector values).shape = none := samplesIssue?_of_samples h
  rw [ofSamples, well]
  simp only [Block.size_ofVector]
  rw [ofBlock, Block.vector?_ofVector]
  simp only [dif_pos h]

theorem misfit?_parts (values : Vector α n) (bounds : Vector (α × α) n) (spacing : Spacing) :
    (parts spacing values (some bounds)).misfit? spacing = none := by
  cases spacing <;> rfl

theorem layout?_parts (h : 0 < n) (values : Vector α n) (bounds : Vector (α × α) n)
    (spacing : Spacing) : (parts spacing values (some bounds)).layout? n spacing =
      .ok (layoutOf h values bounds spacing) := by
  cases spacing with
  | regular => rfl
  | irregularPoint => simp [parts, Layout.Parts.layout?, layoutOf]
  | contiguousInterval => simp [parts, Layout.Parts.layout?, layoutOf, sharedEdges, h]
  | discontiguousInterval => simp [parts, Layout.Parts.layout?, layoutOf]

/-- Whether samples count as evenly spaced: as the source says, or else as they are. -/
def isEven (values : Vector α n) (regular : Option Bool) : Bool :=
  regular.getD (Spacing.isRegular Spacing.regularTolerance values.toList)

/-- Samples without cells make a scale. -/
theorem ofVector_points (h : 0 < n) (values : Vector α n) (regular : Option Bool) :
    ofVector h values none regular =
      .ok ⟨n, h, values[0], values.get (lastIndex h),
        if isEven values regular then .regular else .points values⟩ := by
  rw [ofVector, ← isEven]
  cases isEven values regular with
  | true => exact ofParts_of_layout h _ _ rfl rfl
  | false =>
      have made : (parts .irregularPoint values none).layout? n .irregularPoint =
          .ok (.points values) := by
        simp [parts, Layout.Parts.layout?]
      exact ofParts_of_layout h _ _ rfl made

/-- Samples in cells make a scale. -/
theorem ofVector_pairs (h : 0 < n) (values : Vector α n) (bounds : Vector (α × α) n)
    (regular : Option Bool) :
    ofVector h values (some (.ofPairs bounds)) regular =
      .ok ⟨n, h, values[0], values.get (lastIndex h),
        layoutOf h values bounds
          (.classify (isEven values regular) true (Spacing.isContiguous bounds.toList))⟩ := by
  rw [ofVector, Block.pairs?_ofPairs]
  exact ofParts_of_layout h _ _ (misfit?_parts values bounds _) (layout?_parts h values bounds _)

/-- Bounds that are not a pair for each sample make none. -/
theorem ofVector_of_not_pairs (h : 0 < n) (values : Vector α n) {b : Block α}
    (regular : Option Bool) (other : b.shape ≠ [n, 2]) :
    ofVector h values (some b) regular = .error (.boundsShape b.shape n) := by
  rw [ofVector]
  dsimp only
  rw [Block.pairs?, dif_neg other]

/-- Samples in cells make a scale, of the kind that they have themselves. -/
theorem ofSamples_cells (h : 0 < n) (values : Vector α n) (bounds : Vector (α × α) n) :
    ofSamples (.ofVector values) (some (.ofPairs bounds)) none =
      .ok ⟨n, h, values[0], values.get (lastIndex h),
        layoutOf h values bounds (spacingOf values bounds)⟩ := by
  rw [ofSamples_ofVector h, ofVector_pairs]
  rfl

/-- Evenly spaced samples make the same scale without their cells. -/
theorem ofSamples_even (h : 0 < n) (values : Vector α n)
    (even : Spacing.isRegular Spacing.regularTolerance values.toList = true) :
    ofSamples (.ofVector values) none none =
      .ok ⟨n, h, values[0], values.get (lastIndex h), .regular⟩ := by
  rw [ofSamples_ofVector h, ofVector_points, isEven, Option.getD_none, if_pos even]

/-! ## Evenly spaced samples -/

theorem of_ofVector_regular {h : 0 < n} {values : Vector α n} {bounds : Option (Block α)}
    {s : Scale α} (made : ofVector h values bounds none = .ok s) (even : s.layout = .regular) :
    Spacing.isRegular Spacing.regularTolerance values.toList = true ∧
      s.start = values[0] ∧ s.stop = values.get (lastIndex h) := by
  have spaced : s.spacing = .regular := congrArg Layout.spacing even
  unfold ofVector at made
  split at made
  · obtain ⟨-, start, stop, spacing⟩ := of_ofParts made
    exact ⟨even_of_classify (spacing.symm.trans spaced), start, stop⟩
  · split at made
    · cases made
    · obtain ⟨-, start, stop, spacing⟩ := of_ofParts made
      exact ⟨even_of_classify (spacing.symm.trans spaced), start, stop⟩

/-! ## The size of a scale -/

theorem size_of_ofVector {n : Nat} {h : 0 < n} {values : Vector α n} {bounds : Option (Block α)}
    {regular : Option Bool} {s : Scale α} (made : ofVector h values bounds regular = .ok s) :
    s.size = n := by
  unfold ofVector at made
  split at made
  · exact (of_ofParts made).1
  · split at made
    · cases made
    · exact (of_ofParts made).1

/-- A scale has as many samples as it was made of. -/
theorem shape_of_ofSamples {values : Block α} {bounds : Option (Block α)} {regular : Option Bool}
    {s : Scale α} (made : ofSamples values bounds regular = .ok s) : values.shape = [s.size] := by
  rw [ofSamples] at made
  split at made
  · cases made
  · rw [ofBlock] at made
    split at made
    · cases made
    · next cells read =>
      have shape : values.shape = [values.size] := by
        rw [Block.vector?] at read
        split at read
        · assumption
        · cases read
      split at made
      · rw [size_of_ofVector made]
        exact shape
      · cases made

/-- Where the source says nothing about the spacing, samples of which nothing but the ends is stored
are evenly spaced. -/
theorem of_ofSamples_regular {values : Block α} {bounds : Option (Block α)} {s : Scale α}
    (made : ofSamples values bounds none = .ok s) (even : s.layout = .regular) :
    ∃ samples : Vector α s.size,
      Spacing.isRegular Spacing.regularTolerance samples.toList = true ∧
      s.start = samples.get ⟨0, s.size_pos⟩ ∧ s.stop = samples.get (lastIndex s.size_pos) := by
  rw [ofSamples] at made
  split at made
  · cases made
  · rw [ofBlock] at made
    split at made
    · cases made
    · split at made
      · next samples _ several =>
        have size := size_of_ofVector made
        have ends := of_ofVector_regular made even
        obtain ⟨n, positive, start, stop, layout⟩ := s
        subst size
        exact ⟨samples, ends⟩
      · cases made

end Meteo.Scale

namespace Meteo.Axis

/-- An axis is its scale with what the coordinate tells of itself. -/
theorem eq_of_ofVariable {v : Variable} {bounds : Option Cells} {a : Axis}
    (made : ofVariable v bounds none = .ok a) :
    ∃ scale, scaleOf v.nameText v.cells bounds none Cells.toSeconds = .ok scale ∧
      a = {
        name := v.nameText
        kind := AxisKind.infer? v.nameText v.attributes v.cells.isTime
        dataType := v.cells.type.text
        units :=
          if v.cells.isTime then epochUnits else Convention.attributeText v.attributes "units"
        description := Convention.descriptionText v.attributes
        attributes := v.attributes
        scale } := by
  rw [ofVariable] at made
  split at made
  · obtain ⟨scale, parts, axis⟩ := Outcome.bind_eq_ok.1 made
    exact ⟨scale, parts, (Except.ok.inj axis).symm⟩
  · cases made

/-- The scale of the axis of a coordinate is that of its cells and its bounds in numbers. -/
theorem scale_of_ofVariable {v : Variable} {bounds : Option Cells} {a : Axis}
    (made : ofVariable v bounds none = .ok a) :
    ∃ xs bs, v.cells.toSeconds = .ok xs ∧ bounds.mapM Cells.toSeconds = .ok bs ∧
      Scale.ofSamples xs bs none = .ok a.scale := by
  obtain ⟨scale, parts, rfl⟩ := eq_of_ofVariable made
  rw [scaleOf] at parts
  obtain ⟨xs, samples, parts⟩ := Outcome.bind_eq_ok.1 parts
  have read : v.cells.toSeconds = .ok xs := by
    rw [Axis.samples] at samples
    split at samples
    · cases samples
    · exact Outcome.eq_ok_of_mapError samples
  cases bounds with
  | none => exact ⟨xs, none, read, rfl, Outcome.eq_ok_of_mapError parts⟩
  | some cells =>
      obtain ⟨bs, converted, built⟩ := Outcome.bind_eq_ok.1 parts
      cases numbers : cells.toSeconds with
      | error e => rw [numbers] at converted; cases converted
      | ok b =>
          rw [numbers] at converted
          cases converted
          refine ⟨xs, some b, read, ?_, Outcome.eq_ok_of_mapError built⟩
          rw [Option.mapM_some, numbers]
          rfl

/-- An axis has as many samples as its coordinate has cells along its one dimension. -/
theorem shape_of_ofVariable {v : Variable} {bounds : Option Cells} {a : Axis}
    (made : ofVariable v bounds none = .ok a) : v.cells.shape = [a.scale.size] := by
  obtain ⟨xs, bs, read, -, built⟩ := scale_of_ofVariable made
  rw [Cells.shape, ← Block.shape_of_mapM read]
  exact Scale.shape_of_ofSamples built

end Meteo.Axis
