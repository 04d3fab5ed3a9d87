/-
# Meteo.Error -- what can go wrong, and how it is said

An error is the cause of a failure with the names and values that belong to it;
`Error.message` is the one place where causes become sentences.  Many messages
have a second line with details.

A `fault` is a conversion or an access that failed without a sentence of its own:
a text that is no number where a number is stored, an integer beyond the largest
double, an index beyond the end.
-/
import Meteo.Axis.Spacing
import Meteo.Decimal.Text

namespace Meteo

set_option autoImplicit false

/-- The kinds of failure that carry no sentence. -/
inductive Fault where
  /-- The value is of the right kind but cannot be converted. -/
  | badValue
  /-- The number is too large. -/
  | overflow
  /-- The value is of a kind that cannot be converted. -/
  | badKind
  /-- The bytes are not text. -/
  | badEncoding
  /-- There is nothing at the index. -/
  | badIndex
  /-- There is no file at the path. -/
  | missingFile
  /-- There is a folder where a file is wanted. -/
  | folder
  /-- A path leads through a file. -/
  | notFolder
  /-- There is a file where a folder is wanted. -/
  | fileInPlace
  /-- A path, or a part of it, is too long. -/
  | longName
  /-- None of the things to choose from is left. -/
  | exhausted
  deriving Repr, DecidableEq, Inhabited

/-- The sizes of an array between parentheses; a single size has a comma behind it. -/
def shapeText : List Nat → String
  | [n] => "(" ++ Decimal.digitText n ++ ",)"
  | sizes => "(" ++ ", ".intercalate (sizes.map Decimal.digitText) ++ ")"

inductive Layout.Name where
  | values
  | edges
  | bounds
  deriving Repr, DecidableEq, Inhabited

namespace Layout.Name

def text : Layout.Name → String
  | values => "values"
  | edges => "edges"
  | bounds => "bounds"

def ofSpacing : Spacing → Option Layout.Name
  | .regular => none
  | .irregularPoint => some values
  | .contiguousInterval => some edges
  | .discontiguousInterval => some bounds

end Layout.Name

inductive AxisIssue where
  | notOneDimensional (dimensions : Nat)
  | empty
  | boundsShape (shape : List Nat) (size : Nat)
  | wrongLayout (spacing : Spacing) (found : Layout.Name)
  | pointCount (size : Nat)
  | edgeCount (size : Nat)
  | boundCount (size : Nat)
  | noStoredValues
  | noSharedEdges
  | noVerticalAxis
  | other (text : String)
  deriving Repr, DecidableEq, Inhabited

namespace AxisIssue

def text : AxisIssue → String
  | notOneDimensional n => "Only 1-D axes are supported, got " ++ Decimal.digitText n ++ "-D"
  | empty => "Axis must have at least one value"
  | boundsShape shape n =>
      "Bounds shape " ++ shapeText shape ++ " does not match (" ++ Decimal.digitText n ++ ", 2)"
  | wrongLayout spacing found =>
      let expected := ((Layout.Name.ofSpacing spacing).map Layout.Name.text).getD "no values"
      spacing.text ++ " axis must store " ++ expected ++ ", found " ++ found.text
  | pointCount n => "Expected " ++ Decimal.digitText n ++ " point values"
  | edgeCount n => "Expected " ++ Decimal.digitText n ++ " edges"
  | boundCount n => "Expected (" ++ Decimal.digitText n ++ ", 2) bounds"
  | noStoredValues => "Regular axis values are described by start, end and count"
  | noSharedEdges => "Discontiguous intervals have no shared edges"
  | noVerticalAxis => "Coverage has no vertical axis"
  | other s => s

end AxisIssue

inductive PositionIssue (α : Type) where
  | notFinite (name : String) (value : α)
  | latitudeRange (name : String) (value : α)
  | latitudeOrder
  deriving Repr, Inhabited

def PositionIssue.text : PositionIssue Float → String
  | latitudeRange name x => name ++ " must be within [-90, 90], got " ++ Double.text x
  | notFinite name x => name ++ " must be finite, got " ++ Double.text x
  | latitudeOrder => "lat_min must be <= lat_max"

/-- Values that a caller may not pass. -/
inductive Problem where
  | unknownSpacingCode (code : String)
  | unknownFeatureType (value : String)
  | position (issue : PositionIssue Float)
  | noStationNames
  | timeRangeLength
  | boundsShape (shape : List Nat)
  | noCandidates
  deriving Repr, Inhabited

namespace Problem

def text : Problem → String
  | unknownSpacingCode code => "Unknown spacing code: " ++ code
  | unknownFeatureType value => "Unknown CF featureType: " ++ value
  | position issue => issue.text
  | noStationNames => "stations must contain at least one name"
  | timeRangeLength => "time_range must contain exactly 2 values"
  | boundsShape shape => "bounds must have shape (N, 2), got " ++ shapeText shape
  | noCandidates => "Cannot search for the closest station in an empty station list"

end Problem

/-- The work during which data turned out to be unusable. -/
inductive Operation where
  | stationLoading
  | axisConstruction (dimension : String)
  | coverageRead
  | opening (path : String)
  | other (text : String)
  deriving Repr, DecidableEq, Inhabited

namespace Operation

def text : Operation → String
  | stationLoading => "station collection loading"
  | axisConstruction dim => "axis construction for '" ++ dim ++ "'"
  | coverageRead => "coverage read"
  | opening path => "opening " ++ path
  | other s => s

end Operation

inductive Error where
  | general (summary : String) (details : Option String)
  | coordinate (name : String) (issue : AxisIssue)
  | coverageNotFound (name : String) (available : List String)
  | emptySubset (criteria : Option String)
  | processing (operation : Operation) (reason : Option String)
  | parameter (name : String) (value : String) (reason : Option String)
  | malformedCriterion (criterion : String) (value : String) (reason : Option String)
  | invalid (problem : Problem)
  | unsupported
  | fault (kind : Fault)
  deriving Repr, Inhabited

namespace Error

/-- The first line of the message; none for a failure without a sentence. -/
def summary? : Error → Option String
  | general s _ => some s
  | coordinate name issue => some ("Coordinate error in '" ++ name ++ "': " ++ issue.text)
  | coverageNotFound name _ => some ("Coverage not found: " ++ name)
  | emptySubset _ => some "No features are in the requested subset"
  | processing op _ => some ("Data processing failed during " ++ op.text)
  | parameter name value _ => some ("Invalid parameter '" ++ name ++ "': " ++ value)
  | malformedCriterion name value _ => some ("Invalid parameter '" ++ name ++ "': " ++ value)
  | invalid problem => some problem.text
  | unsupported => some ""
  | fault _ => none

def details? : Error → Option String
  | general _ details => details
  | coverageNotFound _ [] => none
  | coverageNotFound _ available => some ("Available coverages: " ++ ", ".intercalate available)
  | emptySubset criteria => criteria
  | processing _ reason => reason
  | parameter _ _ reason => reason
  | malformedCriterion _ _ reason => reason
  | _ => none

/-- The message: the first line, and the details on a second one when there are any. -/
def message? (e : Error) : Option String :=
  e.summary?.map fun s =>
    match e.details? with
    | none => s
    | some d => if d.isEmpty then s else s ++ "\nDetails: " ++ d

/-! ## Parameters that cannot be used -/

def notANumber (criterion value : String) : Error :=
  malformedCriterion criterion value (some "Not a number")

def notFiniteCriterion (criterion value : String) : Error :=
  malformedCriterion criterion value (some "Value must be finite")

def unreadableTime (value : String) : Error :=
  parameter "time_value" value (some "Cannot parse time value")

def notAnInstant (value : String) : Error :=
  parameter "time_value" value (some "Time value is not a valid instant")

def rangeLength (range : String) : Error :=
  parameter "time_range" range (some "Must contain exactly 2 values")

def rangeOrder (range : String) : Error :=
  parameter "time_range" range (some "Start time must be <= end time")

def lookupValue (x : Float) : Error :=
  parameter "value" (Double.text x) (some "Axis lookup value must be finite")

def unknownFormat (format : String) (known : List String) : Error :=
  parameter "format" format (some ("Supported formats: " ++ ", ".intercalate known))

end Error

end Meteo
