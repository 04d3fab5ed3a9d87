/-
# Meteo.Proofs.Grid.Names -- coordinate systems by their names

Coverages are grouped by the sequences of the names of their axes and transforms, and refer
to their coordinate system by one name that is spelled from these (`Key.text`).  The
coordinate system of a coverage is always listed under that name.  It is the only one there
iff no coverage with other axes or transforms spells the same name
(`systemsNamed_of_ofDataset`).

Names that are words are spelled apart (`text_injective`): the brackets show where the
transforms begin, and the spaces where the next name does.  A name with a space in it may be
read as two, and then two coordinate systems have one name (`not_oneSystem`).
-/
import Meteo.Proofs.Grid.Coverages

namespace Meteo.Grid

set_option autoImplicit false

/-! ## Names that are spelled apart -/

/-- A name that shows where it ends: it is not empty and has neither a space nor an opening
bracket. -/
def IsWord (name : String) : Prop := name ≠ "" ∧ ' ' ∉ name.toList ∧ '(' ∉ name.toList

instance (name : String) : Decidable (IsWord name) := inferInstanceAs (Decidable (_ ∧ _))

/-- Axes whose names are words, and transforms whose names have no space. -/
structure Key.Plain (k : Key) : Prop where
  axes : ∀ name ∈ k.axes, IsWord name
  transforms : ∀ name ∈ k.transforms, ' ' ∉ name.toList

instance (k : Key) : Decidable k.Plain :=
  decidable_of_iff ((∀ name ∈ k.axes, IsWord name) ∧ ∀ name ∈ k.transforms, ' ' ∉ name.toList)
    ⟨fun h => ⟨h.1, h.2⟩, fun h => ⟨h.axes, h.transforms⟩⟩

/-- What stands before the first of a character and what stands behind it. -/
theorem eq_of_append_cons {a : Char} {xs xs' ys ys' : List Char} (free : a ∉ xs) (free' : a ∉ xs')
    (same : xs ++ a :: ys = xs' ++ a :: ys') : xs = xs' ∧ ys = ys' := by
  induction xs generalizing xs' with
  | nil =>
      cases xs' with
      | nil => exact ⟨rfl, (List.cons.inj same).2⟩
      | cons x' xs' => exact absurd (List.mem_cons.2 (.inl (List.cons.inj same).1)) free'
  | cons x xs ih =>
      cases xs' with
      | nil => exact absurd (List.mem_cons.2 (.inl (List.cons.inj same).1.symm)) free
      | cons x' xs' =>
          obtain ⟨head, tail⟩ := List.cons.inj same
          obtain ⟨front, back⟩ := ih (fun member => free (List.mem_cons_of_mem _ member))
            (fun member => free' (List.mem_cons_of_mem _ member)) tail
          exact ⟨by rw [head, front], back⟩

/-- Some names without spaces are told apart when they are written with spaces between them. -/
theorem names_of_spaced {names names' : List String} (filled : names ≠ []) (filled' : names' ≠ [])
    (free : ∀ name ∈ names, ' ' ∉ name.toList) (free' : ∀ name ∈ names', ' ' ∉ name.toList)
    (same : " ".intercalate names = " ".intercalate names') : names = names' := by
  have read (names : List String) (filled : names ≠ []) (free : ∀ name ∈ names, ' ' ∉ name.toList) :
      (" ".intercalate names).toList.splitOn ' ' = names.map String.toList := by
    rw [String.toList_intercalate]
    refine List.splitOn_intercalate ' ' (fun chars member => ?_) (by simpa using filled)
    obtain ⟨name, listed, rfl⟩ := List.mem_map.1 member
    exact free name listed
  have chars := read names filled free
  rw [same, read names' filled' free'] at chars
  exact (List.map_injective_iff.2 (fun _ _ => String.toList_injective) chars).symm

theorem spaced_ne_empty {names : List String} (filled : names ≠ [])
    (words : ∀ name ∈ names, IsWord name) : " ".intercalate names ≠ "" := by
  cases names with
  | nil => exact absurd rfl filled
  | cons name rest =>
      have word : name ≠ "" := (words name List.mem_cons_self).1
      cases rest with
      | nil => simpa using word
      | cons next rest => simp [String.append_eq_empty_iff]

/-- Words are told apart when they are written with spaces between them. -/
theorem words_of_spaced {names names' : List String} (words : ∀ name ∈ names, IsWord name)
    (words' : ∀ name ∈ names', IsWord name)
    (same : " ".intercalate names = " ".intercalate names') : names = names' := by
  by_cases filled : names = []
  · by_contra other
    subst filled
    exact spaced_ne_empty (Ne.symm other) words' same.symm
  · by_cases filled' : names' = []
    · subst filled'
      exact absurd same (spaced_ne_empty filled words)
    · exact names_of_spaced filled filled' (fun name member => (words name member).2.1)
        (fun name member => (words' name member).2.1) same

/-- Words with spaces between them have no bracket. -/
theorem bracket_not_mem_spaced {names : List String} (words : ∀ name ∈ names, IsWord name) :
    '(' ∉ (" ".intercalate names).toList := by
  rw [String.toList_intercalate]
  induction names with
  | nil => simp
  | cons name rest ih =>
      obtain ⟨first, others⟩ := List.forall_mem_cons.1 words
      have word : '(' ∉ name.toList := first.2.2
      cases rest with
      | nil => simpa using word
      | cons next rest =>
          rw [List.map_cons, List.map_cons, List.intercalate_cons_cons]
          simpa [word] using ih others

/-- Plain names of axes and transforms are told apart by the name they spell. -/
theorem text_injective {k k' : Key} (plain : k.Plain) (plain' : k'.Plain)
    (same : k.text = k'.text) : k = k' := by
  have noBracket := bracket_not_mem_spaced plain.axes
  have noBracket' := bracket_not_mem_spaced plain'.axes
  rw [Key.text, Key.text] at same
  split at same <;> split at same
  · next bare bare' =>
    have axes := words_of_spaced plain.axes plain'.axes same
    rw [List.isEmpty_iff] at bare bare'
    exact Key.mk.injEq .. ▸ ⟨axes, bare.trans bare'.symm⟩
  · exact absurd (by rw [same]; simp) noBracket
  · exact absurd (by rw [← same]; simp) noBracket'
  · next filled filled' =>
    rw [List.isEmpty_iff] at filled filled'
    have chars := congrArg String.toList same
    have front {name : String} (free : '(' ∉ name.toList) : '(' ∉ name.toList ++ [' '] := by
      simpa using free
    obtain ⟨before, behind⟩ :=
      eq_of_append_cons (front noBracket) (front noBracket') (by simpa using chars)
    have axes : k.axes = k'.axes := words_of_spaced plain.axes plain'.axes
      (String.toList_injective (List.append_cancel_right before))
    have transforms : k.transforms = k'.transforms :=
      names_of_spaced filled filled' plain.transforms plain'.transforms
        (String.toList_injective (by simpa using behind))
    exact Key.mk.injEq .. ▸ ⟨axes, transforms⟩

/-! ## The coordinate systems of a name -/

/-- The coordinate systems with a name. -/
def CoverageDataset.systemsNamed (d : CoverageDataset) (name : String) : List CoordSystem :=
  d.coordSystems.filter fun s => s.name = name

/-- The coordinate system that axes and transforms of these names make. -/
def Key.system (k : Key) : CoordSystem := ⟨k.text, k.transforms, k.axes⟩

/-- Of distinct items one alone passes a test iff no other one passes it. -/
theorem filter_eq_singleton_iff {α : Type} {p : α → Bool} {xs : List α} {x : α}
    (distinct : xs.Nodup) (member : x ∈ xs) (passes : p x) :
    xs.filter p = [x] ↔ ∀ y ∈ xs, p y → y = x := by
  constructor
  · intro alone y listed passes'
    exact List.mem_singleton.1 (alone ▸ List.mem_filter.2 ⟨listed, passes'⟩)
  · intro others
    have same : ∀ y ∈ xs.filter p, y = x := fun y kept =>
      others y (List.mem_filter.1 kept).1 (List.mem_filter.1 kept).2
    have copies := List.eq_replicate_of_mem same
    have once : (xs.filter p).length ≤ 1 := List.nodup_replicate.1 (copies ▸ distinct.filter p)
    have some_ : 0 < (xs.filter p).length :=
      List.length_pos_of_mem (List.mem_filter.2 ⟨member, passes⟩)
    rw [copies, Nat.le_antisymm once some_]
    rfl

section Systems

variable {ds : Dataset} {d : CoverageDataset}

/-- The coordinate systems are those that the axes and transforms of the gridsets make. -/
theorem coordSystems_eq (described : Described ds d) :
    d.coordSystems = (d.gridsets.map Gridset.key).map Key.system := by
  rw [CoverageDataset.coordSystems, List.map_map]
  refine List.map_congr_left fun g placed => ?_
  rw [Gridset.coordSystem, (described.sound g placed).named]
  rfl

theorem systemsNamed_eq (described : Described ds d) (name : String) :
    d.systemsNamed name =
      ((d.gridsets.map Gridset.key).filter fun k => k.text = name).map Key.system := by
  rw [CoverageDataset.systemsNamed, coordSystems_eq described, List.filter_map]
  rfl

theorem system_injective : Function.Injective Key.system := by
  intro k k' same
  rw [Key.system, Key.system, CoordSystem.mk.injEq] at same
  exact Key.mk.injEq .. ▸ ⟨same.2.2, same.2.1⟩

/-- Under the name that a variable spells stands the coordinate system of its axes and transforms. -/
theorem mem_systemsNamed (described : Described ds d) {e : String × Variable}
    (member : e ∈ covered ds) : (keyOf ds e.2).system ∈ d.systemsNamed (keyOf ds e.2).text := by
  rw [systemsNamed_eq described]
  refine List.mem_map_of_mem (List.mem_filter.2 ⟨?_, decide_eq_true rfl⟩)
  exact described.mem_keys.2 ⟨e, member, rfl⟩

/-- It stands there alone iff all variables that spell the name have the same axes and
transforms. -/
theorem systemsNamed_eq_singleton_iff (described : Described ds d) {e : String × Variable}
    (member : e ∈ covered ds) :
    d.systemsNamed (keyOf ds e.2).text = [(keyOf ds e.2).system] ↔
      ∀ e' ∈ covered ds, (keyOf ds e'.2).text = (keyOf ds e.2).text →
        keyOf ds e'.2 = keyOf ds e.2 := by
  have listed : keyOf ds e.2 ∈ d.gridsets.map Gridset.key :=
    described.mem_keys.2 ⟨e, member, rfl⟩
  rw [systemsNamed_eq described, ← List.map_singleton,
    (List.map_injective_iff.2 system_injective).eq_iff,
    filter_eq_singleton_iff described.nodup_keys listed (decide_eq_true rfl)]
  constructor
  · intro alone e' member' same
    exact alone _ (described.mem_keys.2 ⟨e', member', rfl⟩) (decide_eq_true same)
  · intro alone k placed same
    obtain ⟨e', member', rfl⟩ := described.mem_keys.1 placed
    exact alone e' member' (of_decide_eq_true same)

end Systems

/-- Every coverage of a dataset finds its own axes and transforms under the name of its coordinate
system.  It finds nothing else there iff all coverages that spell the name have the same ones, and
so it is where all names are plain. -/
theorem systemsNamed_of_ofDataset {ds : Dataset} {vars : List Variable}
    {attributes : Table Value} {declared : List String} {source : Option String}
    {location : Option String} {d : CoverageDataset}
    (stored : Dataset.ofVariables vars attributes declared source = .ok ds)
    (adapted : (CoverageDataset.ofDataset ds location).result = .ok d) :
    ∀ c ∈ d.grids, ∃ v, (c.name, v) ∈ covered ds ∧
      let own : CoordSystem := ⟨c.coordSystem, transformNames ds v, axisDims ds v⟩
      own ∈ d.systemsNamed c.coordSystem ∧
      (d.systemsNamed c.coordSystem = [own] ↔
        ∀ e ∈ covered ds, (keyOf ds e.2).text = c.coordSystem → keyOf ds e.2 = keyOf ds v) ∧
      ((∀ e ∈ covered ds, (keyOf ds e.2).Plain) → d.systemsNamed c.coordSystem = [own]) := by
  have described := described_of_ofDataset stored adapted
  intro c listed
  obtain ⟨e, member, axes, -, -, rfl⟩ := described.exists_variable listed
  have alone := systemsNamed_eq_singleton_iff described member
  refine ⟨e.2, member, mem_systemsNamed described member, alone, fun plain => ?_⟩
  exact alone.2 fun e' member' same => text_injective (plain e' member') (plain e member) same

theorem systemsNamed_of_ofDataset_layered :
    ∃ ds d, Dataset.ofVariables layered .empty [] none = .ok ds ∧
      (CoverageDataset.ofDataset ds none).result = .ok d ∧
      (∀ e ∈ covered ds, (keyOf ds e.2).Plain) ∧
      d.systemsNamed "lev lat (crs lev)" =
        [⟨"lev lat (crs lev)", ["crs", "lev"], ["lev", "lat"]⟩] := by
  let named (d : CoverageDataset) : Option (String × String) :=
    d.grids.head?.map fun c => (c.name, c.coordSystem)
  obtain ⟨ds, made, plain, keys, shown⟩ : ∃ ds,
      Dataset.ofVariables layered .empty [] none = .ok ds ∧
      (∀ e ∈ covered ds, (keyOf ds e.2).Plain) ∧
      (∀ e ∈ covered ds, e.1 = "temp" → keyOf ds e.2 = ⟨["lev", "lat"], ["crs", "lev"]⟩) ∧
      (CoverageDataset.ofDataset ds none).result.toOption.map named =
        some (some ("temp", "lev lat (crs lev)")) :=
    ⟨_, rfl, by decide +kernel, by decide +kernel, by decide +kernel⟩
  cases adapted : (CoverageDataset.ofDataset ds none).result with
  | error e => rw [adapted] at shown; cases shown
  | ok d =>
      rw [adapted] at shown
      obtain ⟨c, first, same⟩ := Option.map_eq_some_iff.1 (Option.some.inj shown)
      obtain ⟨name, system⟩ := Prod.mk.inj same
      obtain ⟨v, member, -, -, alone⟩ :=
        systemsNamed_of_ofDataset made adapted c (List.mem_of_mem_head? first)
      obtain ⟨axes, transforms⟩ := Key.mk.inj (keys _ member name)
      have found := alone plain
      rw [axes, transforms, system] at found
      exact ⟨ds, d, made, adapted, plain, found⟩

/-! ## A name that two coordinate systems have -/

/-- Every coverage finds its own coordinate system, and no other, under its name. -/
def OneSystem : Prop :=
  ∀ (vars : List Variable) (attributes : Table Value) (declared : List String)
    (source location : Option String) (ds : Dataset) (d : CoverageDataset),
    Dataset.ofVariables vars attributes declared source = .ok ds →
    (CoverageDataset.ofDataset ds location).result = .ok d →
    ∀ c ∈ d.grids, ∀ v, (c.name, v) ∈ covered ds →
      d.systemsNamed c.coordSystem = [⟨c.coordSystem, transformNames ds v, axisDims ds v⟩]

/-- A field along one dimension, and a field along two whose names are the words of the first. -/
def spaced : List Variable :=
  let along (name : String) (dims : List String) (cells : Cells) : Variable :=
    { name := some name, dims, attributes := .empty, cells }
  let pair : Cells := ⟨.float64, ⟨[2], #v[.value (.float 5.0), .value (.float 6.0)]⟩⟩
  [along "a b" ["a b"] pair, along "a" ["a"] pair, along "b" ["b"] pair, along "x" ["a b"] pair,
    along "y" ["a", "b"] ⟨.signed 64, ⟨[2, 2], #v[.value (.int 5), .value (.int 6),
      .value (.int 7), .value (.int 8)]⟩⟩]

theorem not_oneSystem : ¬ OneSystem := by
  intro one
  obtain ⟨ds, made, shown⟩ : ∃ ds, Dataset.ofVariables spaced .empty [] none = .ok ds ∧
      (CoverageDataset.ofDataset ds none).result.toOption.map
        (fun d => d.grids.map fun c => (d.systemsNamed c.coordSystem).length) = some [2, 2] :=
    ⟨_, rfl, by decide +kernel⟩
  cases adapted : (CoverageDataset.ofDataset ds none).result with
  | error e => rw [adapted] at shown; cases shown
  | ok d =>
      rw [adapted] at shown
      have counts : d.grids.map (fun c => (d.systemsNamed c.coordSystem).length) = [2, 2] :=
        Option.some.inj shown
      obtain ⟨c, listed, two⟩ := List.mem_map.1 (counts ▸ List.mem_cons_self : 2 ∈ _)
      obtain ⟨e, member, axes, -, -, rfl⟩ :=
        (described_of_ofDataset made adapted).exists_variable listed
      rw [one _ _ _ _ _ _ _ made adapted _ listed e.2 member] at two
      cases two

end Meteo.Grid
