/-
# Meteo.Proofs.Classes -- items with the same key

Items come with keys.  `classes` puts those of one key together, the keys in the order
in which they first occur.  Every item is in exactly one class (`perm_classes`), the
class of its key (`mem_classes`), and the first item of a class precedes all items of
later classes (`classes_ordered`).

A further item goes to the end of its class, or is a class of its own behind the others
(`classes_concat`), so the classes can be kept up while items come in.
-/
import Mathlib.Data.List.Dedup

namespace Meteo.Classes

set_option autoImplicit false

variable {κ α : Type} [DecidableEq κ]

/-- The items of a key. -/
def under (k : κ) (xs : List (κ × α)) : List α := (xs.filter fun x => x.1 = k).map Prod.snd

/-- The items of each key, in the order in which the keys first occur. -/
def classes (xs : List (κ × α)) : List (κ × List α) :=
  (xs.map Prod.fst).eraseDups.map fun k => (k, under k xs)

theorem keys_classes (xs : List (κ × α)) :
    (classes xs).map Prod.fst = (xs.map Prod.fst).eraseDups := by
  rw [classes, List.map_map]
  exact List.map_id _

theorem mem_keys_classes {k : κ} {xs : List (κ × α)} :
    k ∈ (classes xs).map Prod.fst ↔ k ∈ xs.map Prod.fst := by
  rw [keys_classes, List.mem_eraseDups]

theorem mem_under {k : κ} {a : α} {xs : List (κ × α)} : a ∈ under k xs ↔ (k, a) ∈ xs := by
  simp [under]

theorem mem_classes {c : κ × List α} {xs : List (κ × α)} :
    c ∈ classes xs ↔ c.1 ∈ xs.map Prod.fst ∧ c.2 = under c.1 xs := by
  rw [classes, List.mem_map]
  constructor
  · rintro ⟨k, listed, rfl⟩
    exact ⟨List.mem_eraseDups.1 listed, rfl⟩
  · rintro ⟨listed, items⟩
    exact ⟨c.1, List.mem_eraseDups.2 listed, Prod.ext rfl items.symm⟩

/-- The items of a key keep their order. -/
theorem under_sublist (k : κ) (xs : List (κ × α)) : (under k xs).Sublist (xs.map Prod.snd) :=
  List.filter_sublist.map Prod.snd

/-! ## Items that come in -/

theorem under_concat (k k' : κ) (a : α) (xs : List (κ × α)) :
    under k' (xs ++ [(k, a)]) = if k' = k then under k' xs ++ [a] else under k' xs := by
  by_cases same : k = k'
  · simp [under, same]
  · simp [under, same, Ne.symm same]

/-- A further item goes to the end of its class, or is a class of its own. -/
theorem classes_concat (k : κ) (a : α) (xs : List (κ × α)) :
    classes (xs ++ [(k, a)]) =
      if k ∈ xs.map Prod.fst then
        (classes xs).map fun c => (c.1, if c.1 = k then c.2 ++ [a] else c.2)
      else classes xs ++ [(k, [a])] := by
  rw [classes, List.map_append, List.map_singleton, List.eraseDups_append]
  by_cases old : k ∈ xs.map Prod.fst
  · have nothing : [k].removeAll (xs.map Prod.fst) = [] := by simp [List.removeAll, old]
    rw [if_pos old, nothing, List.eraseDups_nil, List.append_nil, classes, List.map_map]
    refine List.map_congr_left fun k' _ => ?_
    rw [under_concat]
    rfl
  · have itself : [k].removeAll (xs.map Prod.fst) = [k] := by simp [List.removeAll, old]
    have none : under k xs = [] :=
      List.eq_nil_iff_forall_not_mem.2 fun b member =>
        old (List.mem_map.2 ⟨(k, b), mem_under.1 member, rfl⟩)
    rw [if_neg old, itself, List.map_append]
    congr 1
    · refine List.map_congr_left fun k' listed => ?_
      have other : k' ≠ k := fun same => old (same ▸ List.mem_eraseDups.1 listed)
      rw [under_concat, if_neg other]
    · rw [List.eraseDups_cons, List.filter_nil, List.eraseDups_nil, List.map_singleton,
        under_concat, if_pos rfl, none]
      rfl

/-! ## All items -/

theorem under_filter {k k' : κ} (other : k' ≠ k) (xs : List (κ × α)) :
    under k' (xs.filter fun x => x.1 ≠ k) = under k' xs := by
  rw [under, List.filter_filter, under]
  congr 1
  refine List.filter_congr fun x _ => ?_
  rw [← Bool.decide_and, decide_eq_decide]
  exact and_iff_left_of_imp fun same => same ▸ other

/-- The first item begins the first class, and the items of other keys make up the other
classes. -/
theorem classes_cons (k : κ) (a : α) (xs : List (κ × α)) :
    classes ((k, a) :: xs) = (k, a :: under k xs) :: classes (xs.filter fun x => x.1 ≠ k) := by
  have keys : (xs.map Prod.fst).filter (fun k' => !k' == k) =
      (xs.filter fun x => x.1 ≠ k).map Prod.fst := by
    rw [List.filter_map]
    congr 1
    refine List.filter_congr fun x _ => ?_
    rw [Function.comp_apply, decide_not]
    rfl
  rw [classes, List.map_cons, List.eraseDups_cons, List.map_cons, keys]
  congr 1
  · simp [under]
  · refine List.map_congr_left fun k' listed => ?_
    have other : k' ≠ k := by
      obtain ⟨x, member, rfl⟩ := List.mem_map.1 (List.mem_eraseDups.1 listed)
      exact of_decide_eq_true (List.mem_filter.1 member).2
    rw [under_filter other, under, List.filter_cons_of_neg (by simpa using Ne.symm other)]
    rfl

/-- The classes are of distinct keys. -/
theorem nodup_classes (xs : List (κ × α)) : ((classes xs).map Prod.fst).Nodup := by
  match xs with
  | [] => exact .nil
  | (k, a) :: xs =>
      rw [classes_cons, List.map_cons, List.nodup_cons]
      refine ⟨fun again => ?_, nodup_classes _⟩
      obtain ⟨c, member, same⟩ := List.mem_map.1 again
      obtain ⟨x, item, key⟩ := List.mem_map.1 (mem_classes.1 member).1
      exact of_decide_eq_true (List.mem_filter.1 item).2 (key.trans same)
termination_by xs.length
decreasing_by exact Nat.lt_succ_of_le (List.length_filter_le _ _)

/-- Every item is in one class. -/
theorem perm_classes (xs : List (κ × α)) :
    ((classes xs).flatMap Prod.snd).Perm (xs.map Prod.snd) := by
  match xs with
  | [] => exact .nil
  | (k, a) :: xs =>
      have others := perm_classes (xs.filter fun x => x.1 ≠ k)
      have split : (under k xs ++ (xs.filter fun x => x.1 ≠ k).map Prod.snd).Perm
          (xs.map Prod.snd) := by
        rw [under, ← List.map_append]
        have parts := List.filter_append_perm (fun x : κ × α => decide (x.1 = k)) xs
        simp only [← decide_not] at parts
        exact parts.map Prod.snd
      rw [classes_cons, List.flatMap_cons, List.cons_append, List.map_cons]
      exact ((others.append_left _).trans split).cons a
termination_by xs.length
decreasing_by exact Nat.lt_succ_of_le (List.length_filter_le _ _)

/-- Of two classes the first item of the former precedes all items of the latter. -/
theorem classes_ordered (xs : List (κ × α)) :
    (classes xs).Pairwise fun c c' =>
      ∃ a, c.2.head? = some a ∧ ∀ b ∈ c'.2, [a, b].Sublist (xs.map Prod.snd) := by
  match xs with
  | [] => exact .nil
  | (k, a) :: xs =>
      have others := classes_ordered (xs.filter fun x => x.1 ≠ k)
      have kept : ((xs.filter fun x => x.1 ≠ k).map Prod.snd).Sublist (xs.map Prod.snd) :=
        List.filter_sublist.map Prod.snd
      rw [classes_cons, List.pairwise_cons]
      constructor
      · intro c member
        refine ⟨a, rfl, fun b item => ?_⟩
        rw [(mem_classes.1 member).2] at item
        have later : b ∈ xs.map Prod.snd :=
          kept.subset (List.mem_map.2 ⟨(c.1, b), mem_under.1 item, rfl⟩)
        exact (List.singleton_sublist.2 later).cons_cons a
      · refine others.imp fun {c c'} ⟨b, first, before⟩ => ⟨b, first, fun b' item => ?_⟩
        exact ((before b' item).trans kept).cons a
termination_by xs.length
decreasing_by exact Nat.lt_succ_of_le (List.length_filter_le _ _)

end Meteo.Classes
