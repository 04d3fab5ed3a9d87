/-
# Meteo.Proofs.Cells -- cells that are no numbers

Reading cells as numbers stops at the first one that is none (`Cells.firstOther?`).  Which
cells these are is decided cell by cell (`Cell.isNumber`): texts and bytes that write no
number, lists, integers beyond the largest double, dates, and missing times unless all
cells are times.  An integer is then too large, a time of the wrong kind, and anything
else a bad value (`Cell.flaw`).
-/
import Meteo.Cells
import Meteo.Proofs.Block
import Meteo.Proofs.Outcome

namespace Meteo

set_option autoImplicit false

open Time

namespace Cell

/-- Whether a cell of a type stands for a number. -/
def isNumber (type : CellType) : Cell → Bool
  | time (.instant t) => type = .time || t.isPresent
  | time (.date _) => false
  | value .null | value (.bool _) | value (.float _) => true
  | value (.int n) => (Double.ofInt? n).isSome
  | value (.string s) => (Double.read? s).isSome
  | value (.bytes bs) => (Double.readBytes? bs).isSome
  | value (.list _) => false

/-- Why a cell that stands for no number cannot be read. -/
def flaw : Cell → Fault
  | value (.int _) => .overflow
  | time _ => .badKind
  | value _ => .badValue

/-- A value that is read is a number, or else the flaw. -/
def orFlaw (f : Fault) : Option Float → Except Fault Float
  | some x => .ok x
  | none => .error f

theorem orFlaw_of_isSome {f : Fault} {o : Option Float} (read : o.isSome) :
    ∃ x, orFlaw f o = .ok x := by
  cases o with
  | none => cases read
  | some x => exact ⟨x, rfl⟩

theorem orFlaw_of_not_isSome {f : Fault} {o : Option Float} (unread : o.isSome = false) :
    orFlaw f o = .error f := by
  cases o with
  | none => rfl
  | some x => cases unread

theorem orFlaw_eq_ok {f : Fault} {o : Option Float} {x : Float} (read : orFlaw f o = .ok x) :
    o = some x := by
  cases o with
  | none => cases read
  | some y => exact congrArg some (Except.ok.inj read)

theorem toDouble_int (n : Int) :
    (value (.int n)).toDouble = orFlaw .overflow (Double.ofInt? n) := by
  rw [toDouble]
  cases Double.ofInt? n <;> rfl

theorem toDouble_string (s : String) :
    (value (.string s)).toDouble = orFlaw .badValue (Double.read? s) := by
  rw [toDouble]
  cases Double.read? s <;> rfl

theorem toDouble_bytes (bs : List UInt8) :
    (value (.bytes bs)).toDouble = orFlaw .badValue (Double.readBytes? bs) := by
  rw [toDouble]
  cases Double.readBytes? bs <;> rfl

section Convert

variable {ofTime : Instant → Float} {type : CellType} {c : Cell}

theorem convert_value (v : Value) : (value v).convert ofTime type = (value v).toDouble := by
  cases type <;> rfl

theorem convert_instant (t : Instant) :
    (time (.instant t)).convert ofTime type =
      if type = .time then .ok (ofTime t) else (time (.instant t)).toDouble := by
  cases type <;> rfl

theorem convert_date (t : DateTime) : (time (.date t)).convert ofTime type = .error .badKind := by
  cases type <;> rfl

theorem convert_of_isNumber (number : c.isNumber type) : ∃ x, c.convert ofTime type = .ok x := by
  rcases c with v | t | t
  · rw [convert_value]
    cases v with
    | null => exact ⟨_, rfl⟩
    | bool b => exact ⟨_, rfl⟩
    | float x => exact ⟨x, rfl⟩
    | int n => exact toDouble_int n ▸ orFlaw_of_isSome number
    | string s => exact toDouble_string s ▸ orFlaw_of_isSome number
    | bytes bs => exact toDouble_bytes bs ▸ orFlaw_of_isSome number
    | list vs => cases number
  · rw [convert_instant]
    by_cases times : type = .time
    · exact ⟨_, if_pos times⟩
    · have present : t.isPresent := by simpa [isNumber, times] using number
      rw [if_neg times, toDouble, if_pos present]
      exact ⟨_, rfl⟩
  · cases number

theorem convert_of_not_isNumber (other : c.isNumber type = false) :
    c.convert ofTime type = .error c.flaw := by
  rcases c with v | t | t
  · rw [convert_value]
    cases v with
    | null | bool | float => cases other
    | int n => exact (toDouble_int n).trans (orFlaw_of_not_isSome other)
    | string s => exact (toDouble_string s).trans (orFlaw_of_not_isSome other)
    | bytes bs => exact (toDouble_bytes bs).trans (orFlaw_of_not_isSome other)
    | list vs => rfl
  · obtain ⟨values, missing⟩ : type ≠ .time ∧ t.isPresent = false := by
      simpa [isNumber] using other
    rw [convert_instant, if_neg values, toDouble, missing]
    rfl
  · exact convert_date t

end Convert

end Cell

namespace Block

variable {ε α β : Type} {f : α → Except ε β} {b : Block α}

/-- Converting a block is converting its cells. -/
theorem map_mapM (f : α → Except ε β) (b : Block α) :
    (b.mapM f).map (·.cells.toList) = b.cells.toList.mapM f := by
  have list : b.cells.toList.mapM f = Array.toList <$> Vector.toArray <$> b.cells.mapM f := by
    rw [Vector.toArray_mapM, Array.toList_mapM]
    rfl
  rw [list, mapM]
  cases b.cells.mapM f <;> rfl

theorem exists_mapM_iff : (∃ b', b.mapM f = .ok b') ↔ ∀ x ∈ b.cells.toList, ∃ y, f x = .ok y := by
  rw [← Outcome.exists_mapM_iff, ← map_mapM]
  cases b.mapM f with
  | error e => exact ⟨nofun, nofun⟩
  | ok b' => exact ⟨fun _ => ⟨_, rfl⟩, fun _ => ⟨_, rfl⟩⟩

theorem mapM_eq_error {e : ε} : b.mapM f = .error e ↔ b.cells.toList.mapM f = .error e := by
  rw [← map_mapM]
  cases b.mapM f with
  | error e' => exact (Except.error.injEq e' e).to_iff.trans (Except.error.injEq e' e).to_iff.symm
  | ok b' => exact ⟨nofun, nofun⟩

end Block

namespace Cells

open Cell

/-- All cells of an array, in order. -/
def all (c : Cells) : List Cell := c.block.cells.toList

theorem mem_all {c : Cells} {i : Nat} {x : Cell} (stored : c.block.cells[i]? = some x) :
    x ∈ c.all :=
  Vector.mem_toList_iff.2 (Vector.mem_of_getElem? stored)

/-- The first cell that stands for no number. -/
def firstOther? (c : Cells) : Option Cell := c.all.find? fun x => !x.isNumber c.type

theorem firstOther?_eq_none {c : Cells} :
    c.firstOther? = none ↔ ∀ x ∈ c.all, x.isNumber c.type := by
  simp [firstOther?]

theorem toSeconds_of_none {c : Cells} (numbers : c.firstOther? = none) :
    ∃ b, c.toSeconds = .ok b :=
  Block.exists_mapM_iff.2 fun _ member =>
    convert_of_isNumber (firstOther?_eq_none.1 numbers _ member)

theorem toSeconds_of_some {c : Cells} {x : Cell} (other : c.firstOther? = some x) :
    c.toSeconds = .error x.flaw := by
  obtain ⟨none, before, behind, split, numbers⟩ := List.find?_eq_some_iff_append.1 other
  refine Block.mapM_eq_error.2 (Outcome.mapM_eq_error.2 ⟨before, x, behind, split, ?_, ?_⟩)
  · intro b member
    exact convert_of_isNumber (by simpa using numbers b member)
  · exact convert_of_not_isNumber (by simpa using none)

/-- Doubles are converted to themselves, whatever times are converted to. -/
theorem convert_ofDoubles (ofTime : Instant → Float) (b : Block Float) :
    (ofDoubles b).block.mapM (Cell.convert ofTime (ofDoubles b).type) = .ok b :=
  Block.mapM_map (f := fun x => Cell.value (.float x)) (g := Cell.convert ofTime .float64)
    (fun _ => rfl) b

theorem toDoubles_ofDoubles (b : Block Float) : (ofDoubles b).toDoubles = .ok b :=
  convert_ofDoubles Cell.nanosOf b

theorem toSeconds_ofDoubles (b : Block Float) : (ofDoubles b).toSeconds = .ok b :=
  convert_ofDoubles Cell.secondsOf b

end Cells

end Meteo
