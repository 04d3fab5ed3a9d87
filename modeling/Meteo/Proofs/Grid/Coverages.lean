/-
# Meteo.Proofs.Grid.Coverages -- what coverages and gridsets are made of

The adapter keeps the axes it has made and hands them out again.  Every axis it hands out
is the one that the dataset makes of the coordinate of that name (`IsAxis`), and there is
only one such axis (`IsAxis.unique`).  So it does not matter by which variable an axis was
first asked for: gridsets and coverages hold the axes of their names.

`coverages_described` follows one run through the variables: each variable that is not
skipped becomes a coverage with its own attributes, cells and axes, under the name of the
coordinate system that its axes and transforms spell (`Describes`), and every gridset bears
the name that its axes and transforms spell (`Sound`).  `described_of_ofDataset` says so of
the dataset as a whole.
-/
import Meteo.Proofs.Axis.Build
import Meteo.Proofs.Grid.Gridsets

namespace Meteo.Grid

set_option autoImplicit false

open Classes

/-- The name of a coordinate system: the names of the axes, and those of the transforms between
brackets. -/
def Key.text (k : Key) : String :=
  if k.transforms.isEmpty then " ".intercalate k.axes
  else " ".intercalate k.axes ++ " (" ++ " ".intercalate k.transforms ++ ")"

theorem nameFor_eq (axes : List Axis) (transforms : List Transform) :
    Gridset.nameFor axes transforms =
      (Key.mk (axes.map Axis.name) (transforms.map Transform.name)).text := by
  rw [Gridset.nameFor, Key.text, List.isEmpty_map]

/-! ## The axis of a name -/

/-- The axis that a dataset makes of the coordinate of its name. -/
def IsAxis (ds : Dataset) (a : Axis) : Prop :=
  ∃ coord, ds.vars.get? a.name = some coord ∧ (Adapt.buildAxis ds a.name coord).result = .ok a

section Axes

variable {ds : Dataset}

theorem IsAxis.unique {a b : Axis} (ha : IsAxis ds a) (hb : IsAxis ds b) (name : a.name = b.name) :
    a = b := by
  obtain ⟨coord, found, built⟩ := ha
  obtain ⟨coord', found', built'⟩ := hb
  rw [name, found'] at found
  cases found
  rw [name, built'] at built
  exact (Except.ok.inj built).symm

/-- Axes of a dataset are the same when they have the same names. -/
theorem eq_of_names {axes axes' : List Axis} (made : ∀ a ∈ axes, IsAxis ds a)
    (made' : ∀ a ∈ axes', IsAxis ds a) (names : axes.map Axis.name = axes'.map Axis.name) :
    axes = axes' := by
  induction axes generalizing axes' with
  | nil => exact (List.map_eq_nil_iff.1 names.symm).symm
  | cons a axes ih =>
      cases axes' with
      | nil => cases names
      | cons a' axes' =>
          obtain ⟨first, rest⟩ := List.cons.inj names
          have same : a = a' := (made a List.mem_cons_self).unique (made' a' List.mem_cons_self) first
          have others : axes = axes' := ih (fun b member => made b (List.mem_cons_of_mem _ member))
            (fun b member => made' b (List.mem_cons_of_mem _ member)) rest
          rw [same, others]

/-- The axis that is shared or made is that of the dataset, and so are all made until then. -/
theorem isAxis_of_sharedAxis (named : ds.WellNamed) {made made' : List Axis} {dim : String}
    {coord : Variable} {a : Axis} (found : ds.vars.get? dim = some coord)
    (before : ∀ b ∈ made, IsAxis ds b)
    (shared : (Adapt.sharedAxis ds made dim coord).result = .ok (a, made')) :
    IsAxis ds a ∧ ∀ b ∈ made', IsAxis ds b := by
  rw [Adapt.sharedAxis] at shared
  split at shared
  · next kept =>
    cases shared
    exact ⟨before a (List.mem_of_find?_eq_some kept), before⟩
  · rw [Logged.result_bind] at shared
    obtain ⟨a', built, rest⟩ := Outcome.bind_eq_ok.1 shared
    cases rest
    have own : a.name = dim := (name_of_buildAxis built).trans (named _ (Table.mem_of_get? found))
    have fresh : IsAxis ds a := ⟨coord, by rw [own, found], by rw [own, built]⟩
    refine ⟨fresh, fun b member => ?_⟩
    rcases List.mem_append.1 member with old | new
    · exact before b old
    · exact List.mem_singleton.1 new ▸ fresh

theorem isAxis_of_axesFor (named : ds.WellNamed) {name : String} {made made' : List Axis}
    {dims : List String} {axes : List Axis} {vertical : List Transform}
    (before : ∀ b ∈ made, IsAxis ds b)
    (built : (Adapt.axesFor ds name made dims).result = .ok (axes, vertical, made')) :
    (∀ a ∈ axes, IsAxis ds a) ∧ ∀ b ∈ made', IsAxis ds b := by
  induction dims generalizing made axes vertical with
  | nil =>
      cases built
      exact ⟨nofun, before⟩
  | cons dim dims ih =>
      rcases axesFor_cons built with ⟨-, later⟩ |
        ⟨-, coord, a, made₁, axes', vertical', found, shared, later, rfl, rfl⟩
      · exact ih before later
      · obtain ⟨first, known⟩ := isAxis_of_sharedAxis named found before shared
        obtain ⟨others, after⟩ := ih known later
        exact ⟨List.forall_mem_cons.2 ⟨first, others⟩, after⟩

end Axes

/-! ## Gridsets and coverages -/

/-- A gridset bears the name that its axes and transforms spell, and has axes of the dataset. -/
structure Gridset.Sound (ds : Dataset) (g : Gridset) : Prop where
  named : g.name = g.key.text
  axes : ∀ a ∈ g.axes, IsAxis ds a

/-- A coverage is that of a variable, with the axes of its dimensions, under the name of a coordinate
system that these and its transforms spell. -/
def Describes (ds : Dataset) (e : String × Variable) (c : Coverage) : Prop :=
  ∃ axes, axes.map Axis.name = axisDims ds e.2 ∧ (∀ a ∈ axes, IsAxis ds a) ∧
    c = Adapt.coverage ds e.1 e.2 axes (keyOf ds e.2).text

section Run

variable {ds : Dataset}

/-- Sound gridsets remain so with a further coverage, which is told the name of its own. -/
theorem place_sound {gs : List Gridset} {axes : List Axis} (sound : ∀ g ∈ gs, g.Sound ds)
    (made : ∀ a ∈ axes, IsAxis ds a) (transforms : List Transform) (grid : String) :
    (∀ g ∈ (Adapt.place gs axes transforms grid).1, g.Sound ds) ∧
      (Adapt.place gs axes transforms grid).2 =
        (Key.mk (axes.map Axis.name) (transforms.map Transform.name)).text := by
  induction gs with
  | nil =>
      refine ⟨fun g member => ?_, nameFor_eq axes transforms⟩
      obtain rfl := List.mem_singleton.1 member
      exact ⟨nameFor_eq axes transforms, made⟩
  | cons g gs ih =>
      obtain ⟨first, others⟩ := List.forall_mem_cons.1 sound
      rw [Adapt.place]
      by_cases matched : Adapt.matching axes transforms g
      · rw [if_pos matched]
        have grown : Gridset.Sound ds { g with grids := g.grids ++ [grid] } :=
          ⟨first.named, first.axes⟩
        exact ⟨List.forall_mem_cons.2 ⟨grown, others⟩,
          first.named.trans (congrArg Key.text (matching_iff.1 matched))⟩
      · rw [if_neg matched]
        obtain ⟨placed, told⟩ := ih others
        exact ⟨List.forall_mem_cons.2 ⟨first, placed⟩, told⟩

/-- One run through the variables: those that are not skipped are described by the coverages, in
order, and the gridsets are sound. -/
theorem coverages_described (named : ds.WellNamed) {skipped : List String} {made : List Axis}
    {gs gs' : List Gridset} {vars : List (String × Variable)} {grids : List Coverage}
    (known : ∀ a ∈ made, IsAxis ds a) (sound : ∀ g ∈ gs, g.Sound ds)
    (adapted : (Adapt.coverages ds skipped made gs vars).result = .ok (grids, gs')) :
    List.Forall₂ (Describes ds)
        (vars.filter fun e => !(skipped.contains e.1 || e.2.rank = 0)) grids ∧
      ∀ g ∈ gs', g.Sound ds := by
  induction vars generalizing made gs grids with
  | nil =>
      cases adapted
      exact ⟨.nil, sound⟩
  | cons e vars ih =>
      obtain ⟨name, v⟩ := e
      rcases coverages_cons adapted with ⟨skip, adapted⟩ |
        ⟨skip, axes, vertical, made', mapping, rest, built, mapped, later, rfl⟩
      · rw [List.filter_cons_of_neg (by rw [skip]; exact Bool.false_ne_true)]
        exact ih known sound adapted
      · obtain ⟨own, known'⟩ := isAxis_of_axesFor named known built
        obtain ⟨placed, told⟩ := place_sound sound own (mapping ++ vertical) name
        obtain ⟨described, sound'⟩ := ih known' placed later
        rw [List.filter_cons_of_pos (by simpa using skip)]
        refine ⟨.cons ⟨axes, (axesFor_spec named built).1, own, ?_⟩ described, sound'⟩
        rw [told, key_of_built named built mapped]

end Run

/-- What a dataset seen as coverages has: the coverages of its variables, and gridsets that are their
classes by axes and transforms. -/
structure Described (ds : Dataset) (d : CoverageDataset) : Prop where
  coverages : List.Forall₂ (Describes ds) (covered ds) d.grids
  sound : ∀ g ∈ d.gridsets, g.Sound ds
  views : d.gridsets.map Gridset.view = classes (items ds)

theorem described_of_ofDataset {ds : Dataset} {vars : List Variable} {attributes : Table Value}
    {declared : List String} {source : Option String} {location : Option String}
    {d : CoverageDataset}
    (stored : Dataset.ofVariables vars attributes declared source = .ok ds)
    (adapted : (CoverageDataset.ofDataset ds location).result = .ok d) : Described ds d := by
  rw [CoverageDataset.ofDataset, Logged.result_bind] at adapted
  obtain ⟨⟨grids, gridsets⟩, made, last⟩ := Outcome.bind_eq_ok.1 adapted
  cases last
  have named := Dataset.wellNamed_of_ofVariables stored
  have empty : ([] : List Gridset).map Gridset.view = classes ([] : List (Key × String)) := rfl
  obtain ⟨-, views⟩ := coverages_spec named empty made
  obtain ⟨described, sound⟩ := coverages_described named (List.forall_mem_nil _) (List.forall_mem_nil _) made
  rw [covered_eq (Dataset.wellFormed_of_ofVariables stored), ← covered] at views described
  exact ⟨described, sound, views⟩

namespace Described

variable {ds : Dataset} {d : CoverageDataset} (described : Described ds d)

include described

/-- Every coverage is that of a variable. -/
theorem exists_variable {c : Coverage} (member : c ∈ d.grids) :
    ∃ e ∈ covered ds, Describes ds e c := by
  obtain ⟨i, within, rfl⟩ := List.mem_iff_getElem.1 member
  have before : i < (covered ds).length := described.coverages.length_eq ▸ within
  exact ⟨_, List.getElem_mem before, described.coverages.get before within⟩

/-- The coverage of a variable is in the gridset of its axes and transforms. -/
theorem exists_gridset {e : String × Variable} (member : e ∈ covered ds) :
    ∃ g ∈ d.gridsets, g.key = keyOf ds e.2 ∧ e.1 ∈ g.grids := by
  have item : (keyOf ds e.2, e.1) ∈ items ds := (mem_items member).2 rfl
  have listed : (keyOf ds e.2, under (keyOf ds e.2) (items ds)) ∈ classes (items ds) :=
    mem_classes.2 ⟨List.mem_map_of_mem item, rfl⟩
  rw [← described.views] at listed
  obtain ⟨g, placed, view⟩ := List.mem_map.1 listed
  have grids : g.grids = under (keyOf ds e.2) (items ds) := congrArg Prod.snd view
  exact ⟨g, placed, congrArg Prod.fst view, grids ▸ mem_under.2 item⟩

/-- A gridset that has the coverage of a variable has its axes and transforms. -/
theorem key_of_mem {e : String × Variable} (member : e ∈ covered ds) {g : Gridset}
    (placed : g ∈ d.gridsets) (has : e.1 ∈ g.grids) : g.key = keyOf ds e.2 := by
  rw [(grids_of_classes described.views placed).2] at has
  exact (mem_items member).1 (mem_under.1 has)

/-- Gridsets are of distinct axes and transforms. -/
theorem nodup_keys : (d.gridsets.map Gridset.key).Nodup := by
  have keys : d.gridsets.map Gridset.key = (classes (items ds)).map Prod.fst := by
    rw [← described.views, List.map_map]
    rfl
  exact keys ▸ nodup_classes (items ds)

/-- The keys of the gridsets are those of the coverages. -/
theorem mem_keys {k : Key} :
    k ∈ d.gridsets.map Gridset.key ↔ ∃ e ∈ covered ds, keyOf ds e.2 = k := by
  constructor
  · intro listed
    obtain ⟨g, placed, rfl⟩ := List.mem_map.1 listed
    obtain ⟨item, member, key⟩ := List.mem_map.1 (grids_of_classes described.views placed).1
    obtain ⟨e, variable_, rfl⟩ := List.mem_map.1 member
    exact ⟨e, variable_, key⟩
  · rintro ⟨e, member, rfl⟩
    obtain ⟨g, placed, key, -⟩ := described.exists_gridset member
    exact List.mem_map.2 ⟨g, placed, key⟩

end Described

end Meteo.Grid
