/-
# Meteo.Table -- entries under distinct names, in order of first appearance

Attributes, observed values, units and the variables of a dataset are tables:
names with something under each.  Writing under a name that is already present
keeps its place and replaces what stood there; a new name goes to the end.  No
name occurs twice, which is part of the type.
-/

namespace Meteo

set_option autoImplicit false

structure Table (α : Type) where
  entries : List (String × α)
  nodup : (entries.map Prod.fst).Nodup

namespace Table

variable {α β : Type}

def empty : Table α := ⟨[], .nil⟩

instance : Inhabited (Table α) := ⟨empty⟩

def names (t : Table α) : List String := t.entries.map Prod.fst

def get? (t : Table α) (name : String) : Option α := t.entries.lookup name

def contains (t : Table α) (name : String) : Bool := t.names.contains name

/-- The entries with what stands under `name` replaced. -/
def replace (name : String) (x : α) (es : List (String × α)) : List (String × α) :=
  es.map fun e => if e.1 = name then (name, x) else e

theorem map_fst_replace (name : String) (x : α) (es : List (String × α)) :
    (replace name x es).map Prod.fst = es.map Prod.fst := by
  unfold replace
  rw [List.map_map]
  apply List.map_congr_left
  intro e _
  simp only [Function.comp_apply]
  split
  · next h => exact h.symm
  · rfl

def insert (t : Table α) (name : String) (x : α) : Table α :=
  if h : name ∈ t.entries.map Prod.fst then
    ⟨replace name x t.entries, by rw [map_fst_replace]; exact t.nodup⟩
  else
    ⟨t.entries ++ [(name, x)], by
      rw [List.map_append, List.nodup_append]
      refine ⟨t.nodup, by simp, ?_⟩
      intro a ha b hb
      simp only [List.map_cons, List.map_nil, List.mem_singleton] at hb
      rw [hb]
      intro he
      exact h (he ▸ ha)⟩

/-- Writes under a name unless it is present. -/
def insertNew (t : Table α) (name : String) (x : α) : Table α :=
  if t.contains name then t else t.insert name x

def insertAll (t : Table α) (es : List (String × α)) : Table α :=
  es.foldl (fun t e => t.insert e.1 e.2) t

def ofList (es : List (String × α)) : Table α := empty.insertAll es

def map (f : α → β) (t : Table α) : Table β :=
  ⟨t.entries.map fun e => (e.1, f e.2), by
    have : (t.entries.map fun e => (e.1, f e.2)).map Prod.fst = t.entries.map Prod.fst := by
      simp [List.map_map, Function.comp_def]
    rw [this]
    exact t.nodup⟩

end Table

end Meteo
