/-
# Meteo.Proofs.Log -- the outcome of a reported computation

The reports of a computation do not decide what comes of it: the outcome of a
sequence is the sequence of the outcomes.  The equations here drop the entries and
leave a computation in `Except Error`.  The reports of a step stay in front of those that
follow (`entries_prefix_bind`).
-/
import Meteo.Log

namespace Meteo.Logged

set_option autoImplicit false

variable {α β : Type}

@[simp] theorem result_pure (a : α) : (pure a : Logged α).result = .ok a := rfl

@[simp] theorem result_lift (r : Except Error α) : (lift r).result = r := rfl

@[simp] theorem result_report (level : Int) (source text : String) :
    (report level source text).result = .ok () := rfl

@[simp] theorem result_bind (x : Logged α) (f : α → Logged β) :
    (x >>= f).result = x.result >>= fun a => (f a).result := by
  change (Logged.bind x f).result = x.result >>= fun a => (f a).result
  rw [Logged.bind]
  cases x.result <;> rfl

@[simp] theorem result_mapError (f : Error → Error) (x : Logged α) :
    (x.mapError f).result = x.result.mapError f := by
  obtain ⟨entries, _ | a⟩ := x <;> rfl

theorem entries_prefix_bind (x : Logged α) (f : α → Logged β) :
    x.entries <+: (x >>= f).entries := by
  change x.entries <+: (Logged.bind x f).entries
  rw [Logged.bind]
  split
  · exact List.prefix_rfl
  · exact List.prefix_append _ _

end Meteo.Logged
