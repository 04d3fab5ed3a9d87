/-
# Meteo.Proofs.Grid.Firsts -- the first item of each name

The axes and the transforms of a dataset are listed once for each name.  The list is part
of the items in their order (`firsts_sublist`), no name occurs twice in it
(`nodup_firsts`), and an item is found in it under a name iff it is found under that name
among all items (`find?_firsts`).

Which items are listed can be told by their places: those in front of which nothing has
their name (`firstsFrom_eq`).  A list of items is gone through with the names seen so far, and
behind some items these are their names (`firstsFrom_append`).  So the lists of two groups
of gridsets make the list of both together, which begins with the first of them
(`firsts_once`).
-/
import Mathlib.Data.List.FinRange
import Mathlib.Data.List.Nodup
import Meteo.Grid.System

namespace Meteo.Grid

set_option autoImplicit false

variable {α : Type} {name : α → String}

theorem firstsFrom_sublist (seen : List String) (xs : List α) :
    (firstsFrom name seen xs).Sublist xs := by
  induction xs generalizing seen with
  | nil => exact .slnil
  | cons x xs ih =>
      rw [firstsFrom]
      split
      · exact (ih seen).cons x
      · exact (ih _).cons_cons x

/-- What has been seen is not kept. -/
theorem name_not_mem_seen {seen : List String} {xs : List α} {x : α}
    (member : x ∈ firstsFrom name seen xs) : name x ∉ seen := by
  induction xs generalizing seen with
  | nil => cases member
  | cons y xs ih =>
      rw [firstsFrom] at member
      split at member
      · exact ih member
      · next new =>
        rcases List.mem_cons.1 member with rfl | later
        · exact fun old => new (List.contains_iff_mem.2 old)
        · exact fun old => ih later (List.mem_cons_of_mem _ old)

theorem nodup_firstsFrom (seen : List String) (xs : List α) :
    ((firstsFrom name seen xs).map name).Nodup := by
  induction xs generalizing seen with
  | nil => exact .nil
  | cons x xs ih =>
      rw [firstsFrom]
      split
      · exact ih seen
      · rw [List.map_cons, List.nodup_cons]
        refine ⟨fun again => ?_, ih _⟩
        obtain ⟨y, kept, same⟩ := List.mem_map.1 again
        exact name_not_mem_seen kept (same ▸ List.mem_cons_self)

/-- Passing over what has been seen does not change what is found under any other name. -/
theorem find?_firstsFrom {seen : List String} {key : String} (new : key ∉ seen) (xs : List α) :
    ((firstsFrom name seen xs).find? fun x => name x == key) = xs.find? fun x => name x == key := by
  induction xs generalizing seen with
  | nil => rfl
  | cons x xs ih =>
      rw [firstsFrom]
      cases same : name x == key with
      | true =>
          have unseen : ¬ seen.contains (name x) := fun old =>
            new (eq_of_beq same ▸ List.contains_iff_mem.1 old)
          simp only [if_neg unseen, List.find?_cons, same]
      | false =>
          have other : key ≠ name x := fun equal => beq_eq_false_iff_ne.1 same equal.symm
          split
          · simp only [List.find?_cons, same]
            exact ih new
          · simp only [List.find?_cons, same]
            exact ih fun old => (List.mem_cons.1 old).elim other new

theorem firsts_sublist (name : α → String) (xs : List α) : (firsts name xs).Sublist xs :=
  firstsFrom_sublist [] xs

theorem nodup_firsts (name : α → String) (xs : List α) : ((firsts name xs).map name).Nodup :=
  nodup_firstsFrom [] xs

theorem find?_firsts (name : α → String) (xs : List α) (key : String) :
    ((firsts name xs).find? fun x => name x == key) = xs.find? fun x => name x == key :=
  find?_firstsFrom List.not_mem_nil xs

/-- Every name that occurs is listed. -/
theorem name_mem_firsts {xs : List α} {x : α} (member : x ∈ xs) :
    name x ∈ (firsts name xs).map name := by
  have occurs : (xs.find? fun y => name y == name x).isSome :=
    List.find?_isSome.2 ⟨x, member, beq_self_eq_true _⟩
  rw [← find?_firsts] at occurs
  obtain ⟨y, listed, same⟩ := List.find?_isSome.1 occurs
  exact List.mem_map.2 ⟨y, listed, eq_of_beq same⟩

/-- An item that is the only one of its name is found under it. -/
theorem find?_firsts_of_unique {xs : List α} {x : α} (member : x ∈ xs)
    (unique : ∀ y ∈ xs, name y = name x → y = x) :
    ((firsts name xs).find? fun y => name y == name x) = some x := by
  obtain ⟨y, found⟩ := Option.isSome_iff_exists.1
    (List.find?_isSome.2 ⟨_, member, beq_self_eq_true (name x)⟩ :
      (xs.find? fun y => name y == name x).isSome)
  have same := List.find?_some found
  rw [find?_firsts, found, unique y (List.mem_of_find?_eq_some found) (eq_of_beq same)]

/-! ## The places of first items -/

/-- Whether nothing in front of an item has its name. -/
def leads (name : α → String) (xs : List α) (i : Fin xs.length) : Bool :=
  (xs.take i).all fun y => name y != name (xs.get i)

theorem leads_succ (x : α) (xs : List α) (i : Fin xs.length) :
    leads name (x :: xs) i.succ = (name x != name (xs.get i) && leads name xs i) := rfl

/-- Only which names have been seen matters, not in what order. -/
theorem firstsFrom_congr {seen seen' : List String} (same : ∀ key, key ∈ seen ↔ key ∈ seen')
    (xs : List α) : firstsFrom name seen xs = firstsFrom name seen' xs := by
  induction xs generalizing seen seen' with
  | nil => rfl
  | cons x xs ih =>
      have alike : seen.contains (name x) = seen'.contains (name x) := by
        rw [Bool.eq_iff_iff, List.contains_iff_mem, List.contains_iff_mem, same]
      have more (key : String) : key ∈ name x :: seen ↔ key ∈ name x :: seen' := by
        rw [List.mem_cons, List.mem_cons, same]
      rw [firstsFrom, firstsFrom, alike, ih same, ih more]

/-- Seeing a name again changes nothing. -/
theorem firstsFrom_of_seen {seen : List String} {key : String} (old : key ∈ seen) (xs : List α) :
    firstsFrom name (key :: seen) xs = firstsFrom name seen xs := by
  refine firstsFrom_congr (fun k => ?_) xs
  rw [List.mem_cons, or_iff_right_of_imp]
  rintro rfl
  exact old

/-- An item is kept where its name is new and nothing in front of it has that name. -/
theorem firstsFrom_eq (seen : List String) (xs : List α) :
    firstsFrom name seen xs = ((List.finRange xs.length).filter fun i =>
      !seen.contains (name (xs.get i)) && leads name xs i).map xs.get := by
  induction xs generalizing seen with
  | nil => rfl
  | cons x xs ih =>
      have later (i : Fin xs.length) :
          (!seen.contains (name (xs.get i)) && leads name (x :: xs) i.succ) =
            (!(name x :: seen).contains (name (xs.get i)) && leads name xs i) := by
        rw [leads_succ, List.contains_cons, Bool.not_or, ← Bool.and_assoc,
          Bool.and_comm (!List.contains _ _), bne, BEq.comm]
      have indices : List.finRange (x :: xs).length =
          0 :: (List.finRange xs.length).map Fin.succ := List.finRange_succ
      have rest : (((List.finRange xs.length).map Fin.succ).filter fun i =>
          !seen.contains (name ((x :: xs).get i)) && leads name (x :: xs) i).map (x :: xs).get =
          firstsFrom name (name x :: seen) xs := by
        rw [ih, List.filter_map, List.map_map]
        exact congrArg (List.map xs.get) (List.filter_congr fun i _ => later i)
      have first : (!seen.contains (name ((x :: xs).get 0)) && leads name (x :: xs) 0) =
          !seen.contains (name x) := Bool.and_true _
      rw [indices, List.filter_cons, first, firstsFrom]
      cases old : seen.contains (name x) with
      | true =>
          rw [Bool.not_true, if_pos rfl, if_neg Bool.false_ne_true, rest,
            firstsFrom_of_seen (List.contains_iff_mem.1 old)]
      | false =>
          rw [Bool.not_false, if_neg Bool.false_ne_true, if_pos rfl, List.map_cons, rest]
          rfl

/-! ## Lists put together -/

/-- Behind some items, their names have been seen besides. -/
theorem firstsFrom_append (seen : List String) (xs ys : List α) :
    firstsFrom name seen (xs ++ ys) =
      firstsFrom name seen xs ++ firstsFrom name (xs.map name ++ seen) ys := by
  induction xs generalizing seen with
  | nil => rfl
  | cons x xs ih =>
      rw [List.cons_append, firstsFrom, firstsFrom, List.map_cons, List.cons_append]
      split
      · next old =>
        have seen' := List.mem_append_right (xs.map name) (List.contains_iff_mem.1 old)
        rw [ih, firstsFrom_of_seen seen']
      · rw [ih, List.cons_append]
        congr 2
        refine firstsFrom_congr (fun key => ?_) ys
        rw [List.mem_append, List.mem_cons, List.mem_cons, List.mem_append, or_left_comm]

/-- What is passed over in the end may be passed over before. -/
theorem firstsFrom_firstsFrom {seen early : List String} (among : early ⊆ seen) (xs : List α) :
    firstsFrom name seen (firstsFrom name early xs) = firstsFrom name seen xs := by
  induction xs generalizing seen early with
  | nil => rfl
  | cons x xs ih =>
      rw [firstsFrom]
      cases before : early.contains (name x) with
      | true =>
          have old := List.contains_iff_mem.2 (among (List.contains_iff_mem.1 before))
          rw [if_pos rfl, firstsFrom, if_pos old, ih among]
      | false =>
          rw [if_neg Bool.false_ne_true, firstsFrom, firstsFrom]
          split
          · next old => exact ih (List.cons_subset.2 ⟨List.contains_iff_mem.1 old, among⟩)
          · rw [ih (List.cons_subset_cons _ among)]

theorem firsts_firsts (name : α → String) (xs : List α) :
    firsts name (firsts name xs) = firsts name xs :=
  firstsFrom_firstsFrom (List.nil_subset []) xs

theorem firsts_append (name : α → String) (xs ys : List α) :
    firsts name (xs ++ ys) = firsts name xs ++ firstsFrom name (xs.map name) ys := by
  rw [firsts, firstsFrom_append, List.append_nil]
  rfl

/-- Every name of the items is listed, and no other. -/
theorem name_mem_firsts_iff {xs : List α} {key : String} :
    key ∈ (firsts name xs).map name ↔ key ∈ xs.map name := by
  constructor
  · exact fun listed => ((firsts_sublist name xs).map name).subset listed
  · intro occurs
    obtain ⟨x, member, rfl⟩ := List.mem_map.1 occurs
    exact name_mem_firsts member

/-- The lists of two parts make the list of the whole. -/
theorem firsts_append_firsts (name : α → String) (xs ys : List α) :
    firsts name (firsts name xs ++ firsts name ys) = firsts name (xs ++ ys) := by
  rw [firsts_append, firsts_append, firsts_firsts,
    firstsFrom_congr (fun _ => name_mem_firsts_iff) (firsts name ys)]
  exact congrArg _ (firstsFrom_firstsFrom (List.nil_subset _) ys)

/-- Of every name exactly the first item is listed, in the order of the items, and listing again
changes nothing.  The axes and the transforms of gridsets put together are those of both parts,
and the ones of the first part stay as they are in front. -/
theorem firsts_once (name : α → String) (xs : List α) (gs hs : List Gridset) :
    (firsts name xs).Sublist xs ∧ ((firsts name xs).map name).Nodup ∧
    (∀ key, ((firsts name xs).find? fun x => name x == key) =
      xs.find? fun x => name x == key) ∧
    firsts name xs = ((List.finRange xs.length).filter (leads name xs)).map xs.get ∧
    firsts name (firsts name xs) = firsts name xs ∧
    axesOf (gs ++ hs) = firsts Axis.name (axesOf gs ++ axesOf hs) ∧
    transformsOf (gs ++ hs) = firsts Transform.name (transformsOf gs ++ transformsOf hs) ∧
    axesOf gs <+: axesOf (gs ++ hs) ∧ transformsOf gs <+: transformsOf (gs ++ hs) := by
  have axes : axesOf (gs ++ hs) =
      firsts Axis.name (gs.flatMap Gridset.axes ++ hs.flatMap Gridset.axes) := by
    rw [axesOf, List.flatMap_append]
  have transforms : transformsOf (gs ++ hs) =
      firsts Transform.name (gs.flatMap Gridset.transforms ++ hs.flatMap Gridset.transforms) := by
    rw [transformsOf, List.flatMap_append]
  refine ⟨firsts_sublist name xs, nodup_firsts name xs, find?_firsts name xs,
    firstsFrom_eq [] xs, firsts_firsts name xs, ?_, ?_, ?_, ?_⟩
  · rw [axes, ← firsts_append_firsts]
    rfl
  · rw [transforms, ← firsts_append_firsts]
    rfl
  · rw [axes, firsts_append]
    exact List.prefix_append _ _
  · rw [transforms, firsts_append]
    exact List.prefix_append _ _

end Meteo.Grid
