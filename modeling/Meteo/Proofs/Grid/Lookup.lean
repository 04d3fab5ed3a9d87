/-
# Meteo.Proofs.Grid.Lookup -- coverages by name

Names of variables may differ in the case of their letters only, and the lookup of a coverage
does not look at case.  It stops at the first coverage of a name (`find?_eq_some_iff`), so a
coverage is found under its own name if and only if no coverage before it has that name up to
case; otherwise the first one is found in its place, and its data are read (`Lookup`).  A name
that no coverage has in any case is refused with the names there are.

So it is not true that every coverage is found under its own name (`not_findsOwn`).
-/
import Meteo.Proofs.Grid.Levels

namespace Meteo.Grid

set_option autoImplicit false

namespace CoverageDataset

variable {d : CoverageDataset} {name : String} {c : Coverage}

/-- The first coverage of a name, whatever the case of its letters. -/
def IsFirst (d : CoverageDataset) (name : String) (c : Coverage) : Prop :=
  ∃ before behind, d.grids = before ++ c :: behind ∧ Text.lower c.name = Text.lower name ∧
    ∀ b ∈ before, Text.lower b.name ≠ Text.lower name

/-- No coverage has this name in any case. -/
def Lacks (d : CoverageDataset) (name : String) : Prop :=
  ∀ c ∈ d.grids, Text.lower c.name ≠ Text.lower name

theorem find?_eq_some_iff : d.find? name = some c ↔ d.IsFirst name c := by
  unfold find? IsFirst
  rw [List.find?_eq_some_iff_append]
  constructor
  · rintro ⟨same, before, behind, split, others⟩
    refine ⟨before, behind, split, beq_iff_eq.1 same, fun b member equal => ?_⟩
    have differs := others b member
    rw [equal, beq_self_eq_true] at differs
    cases differs
  · rintro ⟨before, behind, split, same, others⟩
    refine ⟨beq_iff_eq.2 same, before, behind, split, fun b member => ?_⟩
    rw [beq_false_of_ne (others b member)]
    rfl

theorem find?_eq_none_iff : d.find? name = none ↔ d.Lacks name := by
  unfold find? Lacks
  simp only [List.find?_eq_none, beq_iff_eq]

/-- Every coverage has a first one of its name. -/
theorem exists_isFirst (listed : c ∈ d.grids) : ∃ b ∈ d.grids, d.IsFirst c.name b := by
  cases found : d.find? c.name with
  | none => exact absurd rfl (find?_eq_none_iff.1 found c listed)
  | some b => exact ⟨b, List.mem_of_find?_eq_some found, find?_eq_some_iff.1 found⟩

/-- A coverage is found under its name unless one before it has that name in some case. -/
theorem find?_self_iff (distinct : (d.grids.map Coverage.name).Nodup)
    {before behind : List Coverage} (split : d.grids = before ++ c :: behind) :
    d.find? c.name = some c ↔ ∀ b ∈ before, Text.lower b.name ≠ Text.lower c.name := by
  constructor
  · intro found b member same
    -- the search ends before it comes to the coverage, which is not listed twice
    have earlier : c ∈ before := by
      unfold find? at found
      rw [split, List.find?_append] at found
      cases front : before.find? fun g => Text.lower g.name == Text.lower c.name with
      | none => exact absurd (beq_iff_eq.2 same) (List.find?_eq_none.1 front b member)
      | some b' =>
          rw [front, Option.some_or] at found
          exact Option.some.inj found ▸ List.mem_of_find?_eq_some front
    rw [split, List.map_append, List.map_cons, List.nodup_append] at distinct
    exact distinct.2.2 c.name (List.mem_map_of_mem earlier) c.name List.mem_cons_self rfl
  · intro others
    exact find?_eq_some_iff.2 ⟨before, behind, split, rfl, others⟩

/-- A name that no coverage has is refused with the names there are. -/
theorem result_read_of_lacks (absent : d.Lacks name) (criteria : Table Value) :
    (d.read name criteria).result =
      .error (.coverageNotFound name (d.grids.map Coverage.name)) := by
  rw [read, find?_eq_none_iff.2 absent]
  rfl

end CoverageDataset

/-! ## The coverages of a dataset -/

/-- How the coverages of a dataset are found and read by name. -/
structure Lookup (ds : Dataset) (d : CoverageDataset) : Prop where
  /-- Under the name of a coverage the first one of that name in any case is found, and the variable
  is read that has the name of the coverage found. -/
  first : ∀ g ∈ d.grids, ∃ c v, d.IsFirst g.name c ∧ d.find? g.name = some c ∧
    ds.vars.get? c.name = some v ∧
      (d.read g.name .empty).result = .ok (Extract.ofDataset ds v)
  /-- This is the coverage itself if and only if none before it has its name in any case. -/
  own : ∀ before g behind, d.grids = before ++ g :: behind →
    (d.find? g.name = some g ↔ ∀ b ∈ before, Text.lower b.name ≠ Text.lower g.name)
  /-- A name that no coverage has in any case is refused. -/
  absent : ∀ name, d.Lacks name → d.find? name = none ∧ ∀ criteria,
    (d.read name criteria).result = .error (.coverageNotFound name (d.grids.map Coverage.name))

section

variable {ds : Dataset} {d : CoverageDataset}

/-- Without criteria the coverage of a variable is read as it is stored. -/
theorem result_read_of_describes {e : String × Variable} {c : Coverage}
    (describes : Describes ds e c) :
    (c.read .empty).result = .ok (Extract.ofDataset ds e.2) := by
  obtain ⟨axes, -, -, rfl⟩ := describes
  rw [Coverage.result_read rfl]
  rfl

theorem Described.names (described : Described ds d) :
    d.grids.map Coverage.name = (covered ds).map Prod.fst := by
  rw [← List.forall₂_eq_eq_eq, List.forall₂_map_left_iff, List.forall₂_map_right_iff]
  refine described.coverages.flip.imp fun c e describes => ?_
  obtain ⟨axes, -, -, rfl⟩ := describes
  rfl

/-- Coverages are found by the first of their names and refused under any other name. -/
theorem lookup_of_ofDataset {vars : List Variable} {attributes : Table Value}
    {declared : List String} {source : Option String} {location : Option String}
    (stored : Dataset.ofVariables vars attributes declared source = .ok ds)
    (adapted : (CoverageDataset.ofDataset ds location).result = .ok d) : Lookup ds d := by
  have described := described_of_ofDataset stored adapted
  constructor
  case first =>
    intro g listed
    obtain ⟨c, member, first⟩ := CoverageDataset.exists_isFirst listed
    obtain ⟨e, variable_, describes⟩ := described.exists_variable member
    have found := CoverageDataset.find?_eq_some_iff.2 first
    have named : c.name = e.1 := by
      obtain ⟨axes, -, -, rfl⟩ := describes
      rfl
    refine ⟨c, e.2, first, found, ?_, ?_⟩
    · rw [named]
      exact Table.get?_of_mem (List.mem_of_mem_filter variable_)
    · rw [CoverageDataset.read, found]
      exact result_read_of_describes describes
  case own =>
    intro before g behind split
    exact CoverageDataset.find?_self_iff (described.names ▸ nodup_covered ds) split
  case absent =>
    intro name absent
    exact ⟨CoverageDataset.find?_eq_none_iff.2 absent,
      CoverageDataset.result_read_of_lacks absent⟩

end

/-- Two variables whose names differ in case only. -/
def capitals : List Variable :=
  [{ name := some "T", dims := ["x"], attributes := .empty
     cells := ⟨.signed 64, ⟨[2], #v[.value (.int 271), .value (.int 272)]⟩⟩ },
    { name := some "t", dims := ["x"], attributes := .empty
      cells := ⟨.signed 64, ⟨[2], #v[.value (.int 281), .value (.int 282)]⟩⟩ }]

theorem lookup_of_ofDataset_capitals :
    ∃ ds d, Dataset.ofVariables capitals .empty [] none = .ok ds ∧
      (CoverageDataset.ofDataset ds none).result = .ok d ∧
      d.grids.map Coverage.name = ["T", "t"] ∧ d.Lacks "q" ∧ Lookup ds d := by
  obtain ⟨ds, made, shown⟩ : ∃ ds, Dataset.ofVariables capitals .empty [] none = .ok ds ∧
      ((CoverageDataset.ofDataset ds none).result.toOption.map fun d =>
        (d.grids.map Coverage.name, d.grids.map fun c => Text.lower c.name)) =
        some (["T", "t"], ["t", "t"]) :=
    ⟨_, rfl, by decide +kernel⟩
  obtain ⟨d, result, names⟩ := Option.map_eq_some_iff.1 shown
  obtain ⟨names, lowered⟩ := Prod.mk.inj names
  have adapted := Outcome.toOption_eq_some.1 result
  refine ⟨ds, d, made, adapted, names, fun c listed => ?_, lookup_of_ofDataset made adapted⟩
  have lower : Text.lower c.name ∈ ["t", "t"] := lowered ▸ List.mem_map_of_mem listed
  have t : Text.lower c.name = "t" := by simpa using lower
  rw [t]
  decide +kernel

/-- Every coverage is found under its own name, and the variable of that name is read; a name that
no coverage has in any case is refused. -/
def FindsOwn : Prop :=
  ∀ (vars : List Variable) (attributes : Table Value) (declared : List String)
    (source location : Option String) (ds : Dataset) (d : CoverageDataset),
    Dataset.ofVariables vars attributes declared source = .ok ds →
    (CoverageDataset.ofDataset ds location).result = .ok d →
    (∀ g ∈ d.grids, d.find? g.name = some g ∧ ∃ v, ds.vars.get? g.name = some v ∧
      (d.read g.name .empty).result = .ok (Extract.ofDataset ds v)) ∧
    ∀ name criteria, d.Lacks name → (d.read name criteria).result =
      .error (.coverageNotFound name (d.grids.map Coverage.name))

theorem not_findsOwn : ¬ FindsOwn := by
  intro finds
  obtain ⟨ds, made, shown⟩ : ∃ ds, Dataset.ofVariables capitals .empty [] none = .ok ds ∧
      ((CoverageDataset.ofDataset ds none).result.toOption.bind fun d => d.grids[1]?.map fun g =>
        (g.name, (d.find? g.name).map Coverage.name)) = some ("t", some "T") :=
    ⟨_, rfl, by decide +kernel⟩
  obtain ⟨d, result, second⟩ := Option.bind_eq_some_iff.1 shown
  obtain ⟨g, at_one, same⟩ := Option.map_eq_some_iff.1 second
  obtain ⟨name, other⟩ := Prod.mk.inj same
  obtain ⟨own, -⟩ := (finds _ _ _ _ _ ds d made (Outcome.toOption_eq_some.1 result)).1 g
    (List.mem_of_getElem? at_one)
  rw [own, Option.map_some, name] at other
  exact absurd other (by decide)

end Meteo.Grid
