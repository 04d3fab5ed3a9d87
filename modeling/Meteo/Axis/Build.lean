/-
# Meteo.Axis.Build -- scales from their parts and from samples

`Scale.ofParts` accepts what is stored of an axis if it is exactly what the kind
of spacing asks for, in the right number.  `Scale.ofSamples` finds the kind of
spacing of samples and the bounds of their cells, and stores what that kind asks
for: nothing, the samples, the lower bounds and the last upper one, or all bounds.
It goes through `ofParts`, so every scale has passed the same checks.
-/
import Meteo.Axis.Classify

namespace Meteo

set_option autoImplicit false

structure Layout.Parts (α : Type) where
  values : Option (Block α) := none
  edges : Option (Block α) := none
  bounds : Option (Block α) := none

namespace Layout.Parts

variable {α : Type}

/-- The first part that is present without being asked for, or missing although it is. -/
def misfit? (p : Parts α) (spacing : Spacing) : Option Layout.Name :=
  let expected := Layout.Name.ofSpacing spacing
  [(.values, p.values.isSome), (.edges, p.edges.isSome), (.bounds, p.bounds.isSome)].findSome?
    fun (name, present) => if present != (expected == some name) then some name else none

/-- The layout of `n` samples that the parts make; none if a part has not the right shape. -/
def layout? (p : Parts α) (n : Nat) : Spacing → Except AxisIssue (Layout α n)
  | .regular => .ok .regular
  | .irregularPoint =>
      match p.values.bind (·.vector? n) with
      | some v => .ok (.points v)
      | none => .error (.pointCount n)
  | .contiguousInterval =>
      match p.edges.bind (·.vector? (n + 1)) with
      | some v => .ok (.edges v)
      | none => .error (.edgeCount (n + 1))
  | .discontiguousInterval =>
      match p.bounds.bind (·.pairs? n) with
      | some v => .ok (.cells v)
      | none => .error (.boundCount n)

end Layout.Parts

namespace Scale

variable {α : Type}

def ofParts (n : Int) (start stop : α) (spacing : Spacing) (parts : Layout.Parts α) :
    Except AxisIssue (Scale α) :=
  match parts.misfit? spacing with
  | some found => .error (.wrongLayout spacing found)
  | none =>
      if h : 0 < n.toNat then
        (parts.layout? n.toNat spacing).map fun layout => ⟨n.toNat, h, start, stop, layout⟩
      else .error .empty

/-- Why a block of samples makes no scale. -/
def samplesIssue? (shape : List Nat) : Option AxisIssue :=
  match shape with
  | [0] => some .empty
  | [_] => none
  | shape => some (.notOneDimensional shape.length)

variable [Ordinate α]

def parts {n : Nat} (spacing : Spacing) (values : Vector α n) (bounds : Option (Vector (α × α) n)) :
    Layout.Parts α :=
  match spacing, bounds with
  | .regular, _ => {}
  | .irregularPoint, _ => { values := some (Block.ofVector values) }
  | .contiguousInterval, some b =>
      { edges := some (Block.ofVector (Vector.ofFn fun i : Fin (n + 1) =>
          if h : i.val < n then b[i.val].1
          else if hn : 0 < n then b[n - 1].2 else Ordinate.zero)) }
  | .discontiguousInterval, some b => { bounds := some (Block.ofPairs b) }
  | _, none => {}

/-- The scale of at least one sample, and perhaps of the bounds of the cells. -/
def ofVector {n : Nat} (h : 0 < n) (values : Vector α n) (bounds : Option (Block α))
    (regular : Option Bool) : Except AxisIssue (Scale α) :=
  let even := regular.getD (Spacing.isRegular Spacing.regularTolerance values.toList)
  let build (spacing : Spacing) (pairs : Option (Vector (α × α) n)) :=
    ofParts n values[0] (values.get (lastIndex h)) spacing (parts spacing values pairs)
  match bounds with
  | none => build (Spacing.classify even false false) none
  | some b =>
      match b.pairs? n with
      | none => .error (.boundsShape b.shape n)
      | some pairs =>
          build (Spacing.classify even true (Spacing.isContiguous pairs.toList)) (some pairs)

def ofBlock (n : Nat) (values : Block α) (bounds : Option (Block α)) (regular : Option Bool) :
    Except AxisIssue (Scale α) :=
  match values.vector? n with
  | none => .error .empty
  | some v => if h : 0 < n then ofVector h v bounds regular else .error .empty

/-- The scale of samples, and perhaps of the bounds of their cells. -/
def ofSamples (values : Block α) (bounds : Option (Block α)) (regular : Option Bool) :
    Except AxisIssue (Scale α) :=
  match samplesIssue? values.shape with
  | some issue => .error issue
  | none => ofBlock values.size values bounds regular

end Scale

end Meteo
