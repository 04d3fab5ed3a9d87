/-
# Meteo.Proofs.Table -- tables of entries under distinct names

Writing entries one after the other merges those of one name.  When the names are
distinct nothing is merged, and the table has the entries as they are.  Entries may be
changed before they are written or after, as long as their names stay (`ofList_mapWith`).
When names that are present are passed over instead, the first entry of a name is the one
that counts (`get?_foldl_insertNew`).
-/
import Meteo.Table

namespace Meteo.Table

set_option autoImplicit false

variable {α : Type}

theorem entries_insert_of_not_mem {t : Table α} {name : String} (new : name ∉ t.names) (x : α) :
    (t.insert name x).entries = t.entries ++ [(name, x)] := by
  rw [names] at new
  rw [insert, dif_neg new]

theorem entries_insertAll {es : List (String × α)} {t : Table α}
    (distinct : ((t.entries ++ es).map Prod.fst).Nodup) :
    (t.insertAll es).entries = t.entries ++ es := by
  induction es generalizing t with
  | nil => exact (List.append_nil _).symm
  | cons e es ih =>
      have new : e.1 ∉ t.names := by
        rw [List.map_append, List.nodup_append] at distinct
        exact fun old => distinct.2.2 e.1 old e.1 (by simp) rfl
      have written := entries_insert_of_not_mem new e.2
      have rest : ((t.insert e.1 e.2).entries ++ es).map Prod.fst =
          (t.entries ++ e :: es).map Prod.fst := by
        rw [written, List.append_assoc]
        rfl
      have all := ih (t := t.insert e.1 e.2) (by rw [rest]; exact distinct)
      rw [written, List.append_assoc] at all
      exact all

/-- Entries under distinct names make the table of these entries. -/
theorem entries_ofList {es : List (String × α)} (distinct : (es.map Prod.fst).Nodup) :
    (ofList es).entries = es :=
  entries_insertAll (t := empty) distinct

theorem names_ofList {es : List (String × α)} (distinct : (es.map Prod.fst).Nodup) :
    (ofList es).names = es.map Prod.fst := by
  rw [names, entries_ofList distinct]

theorem contains_eq_isSome (t : Table α) (name : String) :
    t.contains name = (t.get? name).isSome := by
  rw [Bool.eq_iff_iff, contains, List.contains_iff_mem, names, get?, List.lookup_isSome_iff,
    List.mem_map]
  exact exists_congr fun e => and_congr_right fun _ => eq_comm.trans beq_iff_eq.symm

theorem isSome_get?_of_contains {t : Table α} {name : String} (present : t.contains name) :
    (t.get? name).isSome := (contains_eq_isSome t name).symm.trans present

theorem mem_insert {t : Table α} {name : String} {x : α} {e : String × α}
    (member : e ∈ (t.insert name x).entries) : e ∈ t.entries ∨ e = (name, x) := by
  rw [insert] at member
  split at member
  · obtain ⟨old, listed, rfl⟩ := List.mem_map.1 member
    split
    · exact .inr rfl
    · exact .inl listed
  · simpa using member

/-- The entries of a table are among those that were written. -/
theorem mem_ofList {es : List (String × α)} {e : String × α} (member : e ∈ (ofList es).entries) :
    e ∈ es := by
  have written (es : List (String × α)) (t : Table α) (member : e ∈ (t.insertAll es).entries) :
      e ∈ t.entries ∨ e ∈ es := by
    induction es generalizing t with
    | nil => exact .inl member
    | cons e' es ih =>
        rcases ih _ member with before | later
        · rcases mem_insert before with old | new
          · exact .inl old
          · exact .inr (new ▸ List.mem_cons_self)
        · exact .inr (List.mem_cons_of_mem _ later)
  rcases written es empty member with none | some
  · cases none
  · exact some

theorem mem_of_get? {t : Table α} {name : String} {x : α} (found : t.get? name = some x) :
    (name, x) ∈ t.entries := by
  obtain ⟨before, behind, entries, -⟩ := List.lookup_eq_some_iff.1 found
  rw [entries]
  exact List.mem_append_right before List.mem_cons_self

theorem get?_of_mem {t : Table α} {e : String × α} (member : e ∈ t.entries) :
    t.get? e.1 = some e.2 := by
  obtain ⟨entries, distinct⟩ := t
  change entries.lookup e.1 = some e.2
  induction entries with
  | nil => cases member
  | cons first rest ih =>
      rw [List.map_cons, List.nodup_cons] at distinct
      rw [List.lookup_cons]
      rcases List.mem_cons.1 member with rfl | later
      · rw [beq_self_eq_true]
      · have other : (e.1 == first.1) = false :=
          beq_false_of_ne fun same => distinct.1 (same ▸ List.mem_map_of_mem later)
        rw [other]
        exact ih distinct.2 later

/-! ## Entries that are made of some of others -/

section Made

variable {β : Type} {f : String × β → Option (String × α)} {es : List (String × β)}

theorem map_fst_filterMap (named : ∀ e x, f e = some x → x.1 = e.1) :
    ((es.filterMap f).map Prod.fst).Sublist (es.map Prod.fst) := by
  induction es with
  | nil => exact .slnil
  | cons e es ih =>
      cases made : f e with
      | none =>
          rw [List.filterMap_cons_none made]
          exact ih.cons e.1
      | some x =>
          rw [List.filterMap_cons_some made, List.map_cons, List.map_cons, named e x made]
          exact ih.cons_cons e.1

variable (distinct : (es.map Prod.fst).Nodup) (named : ∀ e x, f e = some x → x.1 = e.1)

include distinct named

theorem names_ofList_filterMap : (ofList (es.filterMap f)).names.Sublist (es.map Prod.fst) := by
  rw [names_ofList ((map_fst_filterMap named).nodup distinct)]
  exact map_fst_filterMap named

/-- Under a name stands what is made of the entry of this name. -/
theorem get?_ofList_filterMap {e : String × β} (member : e ∈ es) :
    (ofList (es.filterMap f)).get? e.1 = (f e).map Prod.snd := by
  have entries := entries_ofList ((map_fst_filterMap named).nodup distinct)
  cases made : f e with
  | some x =>
      have listed : x ∈ (ofList (es.filterMap f)).entries := by
        rw [entries]
        exact List.mem_filterMap.2 ⟨e, member, made⟩
      rw [← named e x made, get?_of_mem listed]
      rfl
  | none =>
      cases found : (ofList (es.filterMap f)).get? e.1 with
      | none => rfl
      | some y =>
          have listed := mem_of_get? found
          rw [entries] at listed
          obtain ⟨e', member', made'⟩ := List.mem_filterMap.1 listed
          have own := get?_of_mem (t := ⟨es, distinct⟩) member'
          rw [← named e' _ made', get?_of_mem (t := ⟨es, distinct⟩) member] at own
          obtain rfl : e = e' := Prod.ext (named e' _ made') (Option.some.inj own)
          cases made.symm.trans made'

end Made

/-! ## Other things under the same names -/

variable {β : Type}

/-- Changes what stands under each name, in view of the name. -/
def mapWith (f : String → α → β) (t : Table α) : Table β :=
  ⟨t.entries.map fun e => (e.1, f e.1 e.2), by
    rw [List.map_map]
    exact t.nodup⟩

theorem replace_mapWith (f : String → α → β) (name : String) (x : α) (es : List (String × α)) :
    replace name (f name x) (es.map fun e => (e.1, f e.1 e.2)) =
      (replace name x es).map fun e => (e.1, f e.1 e.2) := by
  unfold replace
  rw [List.map_map, List.map_map]
  apply List.map_congr_left
  intro e _
  dsimp only [Function.comp_apply]
  by_cases same : e.1 = name
  · rw [if_pos same, if_pos same]
  · rw [if_neg same, if_neg same]

theorem insert_mapWith (f : String → α → β) (t : Table α) (name : String) (x : α) :
    (t.mapWith f).insert name (f name x) = (t.insert name x).mapWith f := by
  have names : (t.mapWith f).entries.map Prod.fst = t.entries.map Prod.fst := List.map_map
  by_cases present : name ∈ t.entries.map Prod.fst
  · unfold insert
    rw [dif_pos present, dif_pos (names ▸ present)]
    unfold mapWith
    congr 1
    exact replace_mapWith f name x t.entries
  · unfold insert
    rw [dif_neg present, dif_neg (names ▸ present)]
    unfold mapWith
    congr 1
    show _ = (t.entries ++ [(name, x)]).map _
    rw [List.map_append]
    rfl

/-- Entries may be changed before they are written or after. -/
theorem ofList_mapWith (f : String → α → β) (es : List (String × α)) :
    ofList (es.map fun e => (e.1, f e.1 e.2)) = (ofList es).mapWith f := by
  have written (t : Table α) : (t.mapWith f).insertAll (es.map fun e => (e.1, f e.1 e.2)) =
      (t.insertAll es).mapWith f := by
    induction es generalizing t with
    | nil => rfl
    | cons e es ih =>
        refine Eq.trans ?_ (ih (t.insert e.1 e.2))
        rw [← insert_mapWith]
        rfl
  exact written empty

theorem mapWith_eq_self {f : String → α → α} {t : Table α} :
    t.mapWith f = t ↔ ∀ e ∈ t.entries, f e.1 e.2 = e.2 := by
  have entries : t.mapWith f = t ↔
      t.entries.map (fun e => (e.1, f e.1 e.2)) = t.entries.map id := by
    rw [List.map_id, ← Table.mk.injEq]
    rfl
  rw [entries, List.map_inj_left]
  refine forall₂_congr fun e _ => ?_
  rw [id_eq, Prod.ext_iff]
  exact ⟨And.right, fun same => ⟨rfl, same⟩⟩

/-! ## Entries of names that are new -/

theorem mem_insertNew {t : Table α} {name : String} {x : α} {e : String × α}
    (member : e ∈ (t.insertNew name x).entries) : e ∈ t.entries ∨ e = (name, x) := by
  rw [insertNew] at member
  split at member
  · exact .inl member
  · next absent =>
    rw [contains, List.contains_iff_mem] at absent
    rw [entries_insert_of_not_mem absent, List.mem_append, List.mem_singleton] at member
    exact member

theorem get?_insertNew (t : Table α) (name : String) (x : α) (k : String) :
    (t.insertNew name x).get? k = (t.get? k).or ([(name, x)].lookup k) := by
  rw [insertNew]
  split
  · next present =>
    rw [contains_eq_isSome] at present
    obtain ⟨old, found⟩ := Option.isSome_iff_exists.1 present
    by_cases same : k = name
    · rw [same, found]
      rfl
    · have other : (k == name) = false := beq_false_of_ne same
      rw [List.lookup_cons, other, List.lookup_nil, Option.or_none]
  · next absent =>
    rw [contains, List.contains_iff_mem] at absent
    rw [get?, entries_insert_of_not_mem absent, List.lookup_append]
    rfl

theorem get?_foldl_insertNew (es : List (String × α)) (t : Table α) (k : String) :
    (es.foldl (fun t e => t.insertNew e.1 e.2) t).get? k = (t.get? k).or (es.lookup k) := by
  induction es generalizing t with
  | nil => rw [List.foldl_nil, List.lookup_nil, Option.or_none]
  | cons e es ih =>
      rw [List.foldl_cons, ih, get?_insertNew, Option.or_assoc, ← List.lookup_append]
      rfl

end Meteo.Table
