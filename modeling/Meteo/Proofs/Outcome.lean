/-
# Meteo.Proofs.Outcome -- computations that have succeeded or failed

A sequence of steps succeeds when each of its steps does; `bind_eq_ok` takes the steps
apart.  A step for every item of a list succeeds with the results in order, and fails as the
first item does whose step fails (`mapM_eq_error`).
-/
import Mathlib.Data.List.Forall2

namespace Meteo.Outcome

set_option autoImplicit false

variable {ε α β : Type}

theorem bind_eq_ok {x : Except ε α} {f : α → Except ε β} {b : β} :
    x >>= f = .ok b ↔ ∃ a, x = .ok a ∧ f a = .ok b := by
  cases x with
  | error e => exact ⟨nofun, nofun⟩
  | ok a =>
      constructor
      · intro result
        exact ⟨a, rfl, result⟩
      · rintro ⟨_, same, result⟩
        cases same
        exact result

theorem map_eq_ok {x : Except ε α} {f : α → β} {b : β} :
    x.map f = .ok b ↔ ∃ a, x = .ok a ∧ f a = b := by
  cases x with
  | error e => exact ⟨nofun, nofun⟩
  | ok a =>
      constructor
      · intro result
        exact ⟨a, rfl, Except.ok.inj result⟩
      · rintro ⟨_, same, result⟩
        cases same
        exact congrArg Except.ok result

theorem eq_ok_of_mapError {ε' : Type} {f : ε → ε'} {x : Except ε α} {a : α}
    (result : x.mapError f = .ok a) : x = .ok a := by
  cases x with
  | error e => cases result
  | ok b => exact congrArg Except.ok (Except.ok.inj result)

theorem toOption_eq_some {x : Except ε α} {a : α} : x.toOption = some a ↔ x = .ok a := by
  cases x with
  | error e => exact ⟨nofun, nofun⟩
  | ok b => exact Option.some_inj.trans (Except.ok.injEq b a).symm.to_iff

theorem forall₂_of_mapM {f : α → Except ε β} {xs : List α} {ys : List β}
    (result : xs.mapM f = .ok ys) : List.Forall₂ (fun x y => f x = .ok y) xs ys := by
  induction xs generalizing ys with
  | nil =>
      cases result
      exact .nil
  | cons x xs ih =>
      rw [List.mapM_cons, bind_eq_ok] at result
      obtain ⟨y, first, rest⟩ := result
      obtain ⟨ys', later, made⟩ := bind_eq_ok.1 rest
      cases made
      exact .cons first (ih later)

theorem mapM_congr {f g : α → Except ε β} {xs : List α} (same : ∀ x ∈ xs, f x = g x) :
    xs.mapM f = xs.mapM g := by
  induction xs with
  | nil => rfl
  | cons x xs ih =>
      rw [List.mapM_cons, List.mapM_cons, same x List.mem_cons_self,
        ih fun y member => same y (List.mem_cons_of_mem _ member)]

/-- Items with what comes of them. -/
theorem mapM_pair (f : α → Except ε β) (xs : List α) :
    (xs.mapM fun x => do return (x, ← f x)) = (xs.mapM f).map xs.zip := by
  induction xs with
  | nil => rfl
  | cons x xs ih =>
      rw [List.mapM_cons, List.mapM_cons, ih]
      cases f x with
      | error e => rfl
      | ok y => cases xs.mapM f <;> rfl

theorem mapM_map {γ : Type} (f : α → Except ε β) (g : β → γ) (xs : List α) :
    (xs.mapM fun x => (f x).map g) = (xs.mapM f).map (List.map g) := by
  induction xs with
  | nil => rfl
  | cons x xs ih =>
      rw [List.mapM_cons, List.mapM_cons, ih]
      cases f x with
      | error e => rfl
      | ok y => cases xs.mapM f <;> rfl

theorem mapM_mapError {ε' : Type} (f : α → Except ε β) (g : ε → ε') (xs : List α) :
    (xs.mapM fun x => (f x).mapError g) = (xs.mapM f).mapError g := by
  induction xs with
  | nil => rfl
  | cons x xs ih =>
      rw [List.mapM_cons, List.mapM_cons, ih]
      cases f x with
      | error e => rfl
      | ok y => cases xs.mapM f <;> rfl

/-- A list of steps succeeds when each of them does. -/
theorem exists_mapM_iff {f : α → Except ε β} {xs : List α} :
    (∃ ys, xs.mapM f = .ok ys) ↔ ∀ x ∈ xs, ∃ y, f x = .ok y := by
  induction xs with
  | nil => exact ⟨fun _ => nofun, fun _ => ⟨[], rfl⟩⟩
  | cons x xs ih =>
      rw [List.forall_mem_cons, ← ih]
      constructor
      · rintro ⟨ys, made⟩
        rw [List.mapM_cons, bind_eq_ok] at made
        obtain ⟨y, first, rest⟩ := made
        obtain ⟨ys', later, -⟩ := bind_eq_ok.1 rest
        exact ⟨⟨y, first⟩, ys', later⟩
      · rintro ⟨⟨y, first⟩, ys, later⟩
        refine ⟨y :: ys, ?_⟩
        rw [List.mapM_cons, first, later]
        rfl

/-- The items before the first failure succeed, and those behind it do not count. -/
theorem mapM_eq_error {f : α → Except ε β} {xs : List α} {e : ε} :
    xs.mapM f = .error e ↔ ∃ before x behind, xs = before ++ x :: behind ∧
      (∀ b ∈ before, ∃ y, f b = .ok y) ∧ f x = .error e := by
  induction xs with
  | nil =>
      refine ⟨nofun, ?_⟩
      rintro ⟨before, x, behind, empty, -⟩
      cases before <;> cases empty
  | cons x xs ih =>
      rw [List.mapM_cons]
      cases first : f x with
      | error e' =>
          constructor
          · intro failed
            cases failed
            exact ⟨[], x, xs, rfl, nofun, first⟩
          · rintro ⟨_ | ⟨b, before⟩, y, behind, split, made, fails⟩
            · cases split
              exact congrArg Except.error (Except.error.inj (first.symm.trans fails))
            · cases split
              obtain ⟨_, ok⟩ := made x List.mem_cons_self
              cases first.symm.trans ok
      | ok a =>
          have rest : (do let ys ← xs.mapM f; return a :: ys : Except ε (List β)) = .error e ↔
              xs.mapM f = .error e := by
            cases xs.mapM f with
            | error e' => exact Iff.rfl
            | ok ys => exact ⟨nofun, nofun⟩
          refine rest.trans (ih.trans ?_)
          constructor
          · rintro ⟨before, y, behind, rfl, made, fails⟩
            refine ⟨x :: before, y, behind, rfl, ?_, fails⟩
            rintro b (_ | ⟨_, member⟩)
            · exact ⟨a, first⟩
            · exact made b member
          · rintro ⟨_ | ⟨b, before⟩, y, behind, split, made, fails⟩
            · cases split
              cases first.symm.trans fails
            · cases split
              exact ⟨before, y, behind, rfl,
                fun b member => made b (List.mem_cons_of_mem _ member), fails⟩

end Meteo.Outcome
