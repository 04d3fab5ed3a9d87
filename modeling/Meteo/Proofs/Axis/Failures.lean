/-
# Meteo.Proofs.Axis.Failures -- which lookups fail

A position that is finite is looked up without failure, unless the samples are evenly spaced:
only there a number of steps is rounded, and a double that is infinite or no number cannot be.
`Lost` names the four ways to such a number of steps.  The step may be no number; the step and
the way to the position may both be infinite; the way alone may be; or the step is so small that
their quotient is beyond the doubles.

`find_error_iff` says that a lookup fails in these ways only, and always then.
-/
import Mathlib
import Meteo.Proofs.Axis.Build
import Meteo.Proofs.Axis.Search
import Meteo.Proofs.Axis.Steps
import Meteo.Proofs.Number.Count
import Meteo.Proofs.Number.Differences
import Meteo.Proofs.Number.Double
import Meteo.Proofs.Number.Overflow

namespace Meteo.Scale

set_option autoImplicit false

open Double Ordinate

/-- Positions are found by their number of steps from the start. -/
structure Stepwise (s : Scale Float) : Prop where
  even : s.layout = .regular
  several : s.size ≠ 1
  moves : eq s.step zero = false

/-- Why the number of steps from the start to a position cannot be rounded. -/
inductive Lost (s : Scale Float) (x : Float) : Unrounded → Prop where
  | noStep : isNaN s.step = true → Lost s x .notANumber
  | noRatio : isFinite s.step = false → isFinite (x - s.start) = false → Lost s x .notANumber
  | tooFar : isFinite s.step = true → isFinite (x - s.start) = false → Lost s x .infinite
  | tooMany : isFinite s.step = true → isFinite (x - s.start) = true →
      limit * |value s.step| ≤ |value (x - s.start)| → Lost s x .infinite

variable {s : Scale Float} {x : Float}

/-- Where the start is no number, neither is the step. -/
theorem isNaN_step (several : s.size ≠ 1) (missing : isNaN s.start = true) :
    isNaN s.step = true := by
  rw [step, if_neg several]
  exact isNaN_div_of_or (.inl (isNaN_sub_of_or (.inr missing)))

theorem isNaN_steps_iff (stepwise : s.Stepwise) (finite : isFinite x = true) :
    isNaN ((x - s.start) / s.step - half) = true ↔ s.Lost x .notANumber := by
  rw [isNaN_sub_half, isNaN_div_iff stepwise.moves, isNaN_sub_of_left finite]
  constructor
  · rintro (start | step | ⟨way, step⟩)
    · exact .noStep (isNaN_step stepwise.several start)
    · exact .noStep step
    · exact .noRatio step way
  · rintro (step | ⟨step, way⟩)
    · exact .inr (.inl step)
    · exact .inr (.inr ⟨way, step⟩)

theorem isFinite_steps_iff (stepwise : s.Stepwise) :
    isFinite ((x - s.start) / s.step - half) = true ↔
      isFinite (x - s.start) = true ∧ isNaN s.step = false ∧
        (isFinite s.step = true → |value (x - s.start)| < limit * |value s.step|) := by
  rw [isFinite_sub_half, isFinite_div_iff stepwise.moves]

theorem infinite_steps_iff (stepwise : s.Stepwise) (finite : isFinite x = true) :
    isNaN ((x - s.start) / s.step - half) = false ∧
      isFinite ((x - s.start) / s.step - half) = false ↔ s.Lost x .infinite := by
  rw [← Bool.not_eq_true, ← Bool.not_eq_true, isNaN_steps_iff stepwise finite,
    isFinite_steps_iff stepwise]
  constructor
  · rintro ⟨number, beyond⟩
    cases step : isFinite s.step with
    | false =>
        -- an infinite step leaves none to go, unless the way is infinite too
        refine absurd ⟨?_, ?_, fun no => Bool.noConfusion (step.symm.trans no)⟩ beyond
        · exact Bool.of_not_eq_false fun way => number (.noRatio step way)
        · exact Bool.of_not_eq_true fun missing => number (.noStep missing)
    | true =>
        cases way : isFinite (x - s.start) with
        | false => exact .tooFar step way
        | true =>
            refine .tooMany step way (not_lt.1 fun few => beyond ⟨way, ?_, fun _ => few⟩)
            exact isNaN_of_isFinite step
  · intro lost
    have step : isFinite s.step = true := by cases lost <;> assumption
    constructor
    · rintro (missing | ⟨infinite, -⟩)
      · exact Bool.noConfusion (missing.symm.trans (isNaN_of_isFinite step))
      · exact Bool.noConfusion (infinite.symm.trans step)
    · rintro ⟨way, -, few⟩
      cases lost with
      | tooFar _ beyond => exact Bool.noConfusion (beyond.symm.trans way)
      | tooMany _ _ many => exact not_lt.2 many (few step)

/-- The number of steps to a position cannot be rounded exactly where the position is lost. -/
theorem findRegular_eq_error_iff (stepwise : s.Stepwise) (finite : isFinite x = true)
    {why : Unrounded} : s.findRegular x = .error why ↔ s.Lost x why := by
  have failed : s.findRegular x = .error why ↔
      Double.ceil? ((x - s.start) / s.step - half) = .error why := by
    rw [findRegular, stepwise.moves, if_neg Bool.false_ne_true]
    change (Double.ceil? _).map _ = _ ↔ _
    cases Double.ceil? ((x - s.start) / s.step - half) with
    | error e => rw [Except.map, Except.error.injEq, Except.error.injEq]
    | ok k => exact iff_of_false nofun nofun
  rw [failed, ceil?_eq_error_iff, isNaN_steps_iff stepwise finite,
    infinite_steps_iff stepwise finite]
  cases why <;> simp

/-- A lookup fails only where the number of steps to a position is rounded. -/
theorem find_eq_error_iff (finite : isFinite x = true) {f : LookupFailure} :
    s.find x = .error f ↔ ∃ why, f = .steps why ∧ s.Stepwise ∧ s.Lost x why := by
  by_cases single : s.size = 1
  · rw [find_of_single finite single ⟨0, s.size_pos⟩]
    exact iff_of_false nofun fun ⟨_, _, stepwise, _⟩ => stepwise.several single
  cases layout : s.layout with
  | regular =>
      rw [find_regular finite single layout]
      cases still : eq s.step zero with
      | true =>
          rw [findRegular, still, if_pos rfl]
          refine iff_of_false nofun fun ⟨_, _, stepwise, _⟩ => ?_
          exact Bool.noConfusion (still.symm.trans stepwise.moves)
      | false =>
          have stepwise : s.Stepwise := ⟨layout, single, still⟩
          have lost (why : Unrounded) : s.findRegular x = .error why ↔ s.Lost x why :=
            findRegular_eq_error_iff stepwise finite
          cases found : s.findRegular x with
          | ok i =>
              refine iff_of_false nofun fun ⟨why, _, _, gone⟩ => ?_
              exact nomatch found.symm.trans ((lost why).2 gone)
          | error why =>
              rw [found] at lost
              constructor
              · intro failed
                exact ⟨why, (Except.error.inj failed).symm, stepwise, (lost why).1 rfl⟩
              · rintro ⟨why', rfl, -, gone⟩
                rw [Except.error.inj ((lost why').2 gone)]
                rfl
  | points values =>
      rw [find_points finite single layout]
      exact iff_of_false nofun fun ⟨_, _, stepwise, _⟩ => nomatch layout.symm.trans stepwise.even
  | edges values =>
      rw [find_edges finite single layout]
      exact iff_of_false nofun fun ⟨_, _, stepwise, _⟩ => nomatch layout.symm.trans stepwise.even
  | cells bounds =>
      rw [find_cells finite single layout]
      exact iff_of_false nofun fun ⟨_, _, stepwise, _⟩ => nomatch layout.symm.trans stepwise.even

/-! ## Ends and samples -/

theorem eq_zero_ofNat {k : ℕ} (positive : k ≠ 0) : eq (ofNat k : Float) zero = false := by
  refine Bool.eq_false_iff.2 fun vanishes => ?_
  obtain ⟨sign, unpacked⟩ := eq_zero_iff.1 vanishes
  have finite : isFinite (ofNat k : Float) = true := by
    change (ofNat k : Float).toModel.unpack.isFinite = true
    rw [unpacked]
    rfl
  have large := (one_le_value_ofNat positive).2 finite
  rw [value_eq, unpacked, fractionOf_zero] at large
  exact not_le.2 one_pos large

/-- The step is finite where both ends are, and their distance is. -/
theorem isFinite_step_iff (several : s.size ≠ 1) : isFinite s.step = true ↔
    isFinite s.start = true ∧ isFinite s.stop = true ∧
      |value s.stop - value s.start| < limit := by
  have positive : s.size - 1 ≠ 0 := by
    have := s.size_pos
    omega
  obtain ⟨number, large⟩ := one_le_value_ofNat positive
  have bounded (finite : isFinite (s.stop - s.start) = true)
      (count : isFinite (ofNat (s.size - 1) : Float) = true) :
      |value (s.stop - s.start)| < limit * |value (ofNat (s.size - 1))| :=
    calc |value (s.stop - s.start)| ≤ greatest := abs_value_le finite
      _ < limit := (lt_add_of_pos_right _ one_half_pos).trans greatest_add_half_lt_limit
      _ ≤ limit * |value (ofNat (s.size - 1))| :=
          le_mul_of_one_le_right limit_pos.le ((large count).trans (le_abs_self _))
  rw [step, if_neg several, isFinite_div_iff (eq_zero_ofNat positive), number, isFinite_sub_iff]
  constructor
  · rintro ⟨⟨stop, start, near⟩, -⟩
    exact ⟨start, stop, near⟩
  · rintro ⟨start, stop, near⟩
    exact ⟨⟨stop, start, near⟩, rfl, bounded (isFinite_sub_iff.2 ⟨stop, start, near⟩)⟩

/-- Three samples or more have finite ends, if nothing but the ends is stored of them and the source
did not ask for that. -/
theorem isFinite_ends {values : Block Float} {bounds : Option (Block Float)}
    (made : ofSamples values bounds none = .ok s) (even : s.layout = .regular)
    (several : 3 ≤ s.size) : isFinite s.start = true ∧ isFinite s.stop = true := by
  obtain ⟨samples, regular, start, stop⟩ := of_ofSamples_regular made even
  rw [start, stop]
  exact ⟨Spacing.isFinite_of_isRegular several regular _,
    Spacing.isFinite_of_isRegular several regular _⟩

end Meteo.Scale

namespace Meteo.Axis

open Double Ordinate

theorem result_find (a : Axis) (x : Float) :
    (a.find x).result = ((a.scale.find x).map Fin.val).mapError (lookupError x) := by
  change _ = ((a.scale.find (DoubleOrdinate.ofDouble x)).map Fin.val).mapError (lookupError x)
  rw [find]
  cases a.scale.find (DoubleOrdinate.ofDouble x) with
  | error e => rfl
  | ok i =>
      dsimp only
      split <;> rfl

/-- A lookup of a finite position fails exactly if samples are found by their number of steps from
the start and the position is `Lost` to them.  It fails with the error of the rounding.  Otherwise
it returns an index of a sample.

Which steps and which ways are finite follows from the exact distances between the positions; and
samples that were found to be evenly spaced, unless they are only two, are finite. -/
theorem find_error_iff (a : Axis) {x : Float} (finite : isFinite x = true) :
    (∀ e, (a.find x).result = .error e ↔
      ∃ why, e = lookupError x (.steps why) ∧ a.scale.Stepwise ∧ a.scale.Lost x why) ∧
    (∀ i, (a.find x).result = .ok i → i < a.scale.size) ∧
    (isFinite (x - a.scale.start) = true ↔ isFinite a.scale.start = true ∧
      |value x - value a.scale.start| < limit) ∧
    (a.scale.size ≠ 1 → (isFinite a.scale.step = true ↔
      isFinite a.scale.start = true ∧ isFinite a.scale.stop = true ∧
        |value a.scale.stop - value a.scale.start| < limit)) ∧
    (∀ values bounds, Scale.ofSamples values bounds none = .ok a.scale →
      a.scale.layout = .regular → 3 ≤ a.scale.size →
        isFinite a.scale.start = true ∧ isFinite a.scale.stop = true) := by
  refine ⟨fun e => ?_, fun i found => ?_, ?_, fun several => Scale.isFinite_step_iff several,
    fun values bounds made even several => Scale.isFinite_ends made even several⟩
  · have lost (f : LookupFailure) : a.scale.find x = .error f ↔
        ∃ why, f = .steps why ∧ a.scale.Stepwise ∧ a.scale.Lost x why :=
      Scale.find_eq_error_iff finite
    rw [result_find]
    cases found : a.scale.find x with
    | ok i =>
        rw [found] at lost
        refine iff_of_false nofun fun ⟨why, _, stepwise, gone⟩ => ?_
        exact nomatch (lost (.steps why)).2 ⟨why, rfl, stepwise, gone⟩
    | error f =>
        rw [found] at lost
        constructor
        · intro failed
          obtain ⟨why, rfl, stepwise, gone⟩ := (lost f).1 rfl
          exact ⟨why, (Except.error.inj failed).symm, stepwise, gone⟩
        · rintro ⟨why, rfl, stepwise, gone⟩
          rw [Except.error.inj ((lost (.steps why)).2 ⟨why, rfl, stepwise, gone⟩)]
          rfl
  · rw [result_find] at found
    cases index : a.scale.find x with
    | error f => rw [index] at found; cases found
    | ok k =>
        rw [index] at found
        cases found
        exact k.isLt
  · rw [isFinite_sub_iff, and_iff_right finite]

/-- Two samples so near to each other that a double does not count the steps to a position far
off. -/
def narrow : Axis := { name := "lev", scale := ⟨2, by decide, 0.0, 1e-300, .regular⟩ }

theorem find_narrow : narrow.scale.find 1e10 = .error (.steps .infinite) := by
  decide +kernel

theorem find_error_iff_narrow : isFinite (1e10 : Float) = true ∧
    (narrow.find 1e10).result = .error (.fault .overflow) ∧
    narrow.scale.Stepwise ∧ narrow.scale.Lost 1e10 .infinite := by
  have finite : isFinite (1e10 : Float) = true := by decide +kernel
  have failed : (narrow.find 1e10).result = .error (.fault .overflow) := by
    rw [result_find, find_narrow]
    rfl
  obtain ⟨why, same, stepwise, lost⟩ := ((find_error_iff narrow finite).1 _).1 failed
  refine ⟨finite, failed, stepwise, ?_⟩
  cases why with
  | infinite => exact lost
  | notANumber => cases same

/-- Every finite position is found on every axis that samples make. -/
def FindsFinite : Prop :=
  ∀ (values : Block Float) (bounds : Option (Block Float)) (regular : Option Bool) (a : Axis),
    Scale.ofSamples values bounds regular = .ok a.scale →
    ∀ x, isFinite x = true → ∃ i, i < a.scale.size ∧ (a.find x).result = .ok i

/-- The steps to a position may be too many to be counted. -/
theorem not_findsFinite : ¬ FindsFinite := by
  intro documented
  have even : Spacing.isRegular Spacing.regularTolerance (#v[0.0, 1e-300] : Vector Float 2).toList =
      true := by decide +kernel
  obtain ⟨i, -, found⟩ := documented _ none none narrow (Scale.ofSamples_even (by decide) _ even)
    1e10 (by decide +kernel)
  rw [result_find, find_narrow] at found
  cases found

end Meteo.Axis
