/-
# Meteo.Proofs.Axis.Drift -- nearly even samples are not misplaced

Samples count as evenly spaced when every step is close to the first one.  Only their
ends and their number are kept then, and a position is looked up among positions that
are exactly evenly spaced.  The samples lie beside these positions, the farther the
more of them there are; up to 49999 samples none lies off by half a step, so each is
still found at its own position (`find_of_nearlyEven`).

If no step differs from the first one by more than `d`, then `k` steps differ from `k`
times the first one by at most `k * d` (`abs_run_sub_le`).  The way to a sample and the
way from there to the end are such runs, which bounds what the sample lies off the
straight line between the ends (`off_le`), while the line itself cannot be much flatter
than the first step (`extent_ge`).  What remains is that `n` samples with steps within
`δ` of the first one, relative to it, need `n * δ < 1` (`off_lt_half`).
-/
import Meteo.Proofs.Axis.Build
import Meteo.Proofs.Axis.Lookup
import Meteo.Proofs.Axis.Steps

namespace Meteo.Scale

set_option autoImplicit false

open Ordinate

/-! ## Runs of steps -/

/-- Of the first `m` steps none differs from a given one by more than `d`. -/
def StepsWithin (x : ℕ → ℚ) (m : ℕ) (first d : ℚ) : Prop :=
  ∀ k < m, |x (k + 1) - x k - first| ≤ d

section Line

variable {x : ℕ → ℚ} {m : ℕ} {first d δ : ℚ}

/-- A run of steps differs from as many equal ones by at most `d` for each. -/
theorem abs_run_sub_le (near : StepsWithin x m first d) {i j : ℕ} (order : i ≤ j) (h : j ≤ m) :
    |x j - x i - (j - i) * first| ≤ (j - i) * d := by
  induction j, order using Nat.le_induction with
  | base => simp
  | succ j order ih =>
      have run := ih (by omega)
      have last := near j h
      have parts : x (j + 1) - x i - ((j + 1 : ℕ) - i) * first =
          (x j - x i - (j - i) * first) + (x (j + 1) - x j - first) := by
        push_cast
        ring
      rw [parts]
      refine (abs_add_le _ _).trans ((add_le_add run last).trans_eq ?_)
      push_cast
      ring

/-! ## Samples beside the straight line between the ends -/

/-- What a sample lies off the straight line between the ends, times the number of steps. -/
theorem off_le (near : StepsWithin x m first d) {i : ℕ} (h : i ≤ m) :
    |m * (x i - x 0) - i * (x m - x 0)| ≤ 2 * (i * (m - i)) * d := by
  have way := abs_run_sub_le near (Nat.zero_le i) h
  have rest := abs_run_sub_le near h le_rfl
  rw [Nat.cast_zero, sub_zero] at way
  have before : (0 : ℚ) ≤ m - i := sub_nonneg.2 (Nat.cast_le.2 h)
  have behind : (0 : ℚ) ≤ i := Nat.cast_nonneg i
  have parts : m * (x i - x 0) - i * (x m - x 0) =
      (m - i) * (x i - x 0 - i * first) - i * (x m - x i - (m - i) * first) := by
    ring
  calc |m * (x i - x 0) - i * (x m - x 0)|
      ≤ (m - i) * |x i - x 0 - i * first| + i * |x m - x i - (m - i) * first| := by
        rw [parts]
        refine (abs_sub _ _).trans_eq ?_
        rw [abs_mul, abs_mul, abs_of_nonneg before, abs_of_nonneg behind]
    _ ≤ (m - i) * (i * d) + i * ((m - i) * d) :=
        add_le_add (mul_le_mul_of_nonneg_left way before) (mul_le_mul_of_nonneg_left rest behind)
    _ = 2 * (i * (m - i)) * d := by ring

/-- The ends are not much nearer to each other than equal steps would take them. -/
theorem extent_ge (near : StepsWithin x m first d) : m * (|first| - d) ≤ |x m - x 0| := by
  have way := abs_run_sub_le near (Nat.zero_le m) le_rfl
  have equal : |(m : ℚ) * first| = m * |first| := by
    rw [abs_mul, abs_of_nonneg (Nat.cast_nonneg m : (0 : ℚ) ≤ m)]
  have apart := abs_sub_abs_le_abs_sub (m * first) (x m - x 0)
  rw [abs_sub_comm (m * first), equal] at apart
  rw [Nat.cast_zero, sub_zero] at way
  linarith

/-- Where the number of samples times their tolerance stays below one, no sample lies off the line
by half a step. -/
theorem off_lt_half (near : StepsWithin x m first (δ * |first|)) (moves : first ≠ 0)
    (tolerance : 0 ≤ δ) (few : (m + 1) * δ < 1) (several : 1 ≤ m) {i : ℕ} (h : i ≤ m) :
    (2 : ℚ) * |m * (x i - x 0) - i * (x m - x 0)| < |x m - x 0| := by
  have wide : 0 < |first| := abs_pos.2 moves
  have many : (0 : ℚ) < m := Nat.cast_pos.2 several
  have middle : 4 * (i * (m - i)) ≤ (m : ℚ) * m := by
    nlinarith [sq_nonneg (m - 2 * i : ℚ)]
  calc (2 : ℚ) * |m * (x i - x 0) - i * (x m - x 0)|
      ≤ 4 * (i * (m - i)) * (δ * |first|) := by
        linarith [off_le near h]
    _ ≤ m * m * (δ * |first|) :=
        mul_le_mul_of_nonneg_right middle (mul_nonneg tolerance wide.le)
    _ = m * |first| * (m * δ) := by ring
    _ < m * |first| * (1 - δ) :=
        mul_lt_mul_of_pos_left (by linarith) (mul_pos many wide)
    _ = m * (|first| - δ * |first|) := by ring
    _ ≤ |x m - x 0| := extent_ge near

end Line

/-! ## Looking samples up among even positions -/

/-- What is kept of evenly spaced samples: their ends and their number. -/
def spanning {n : ℕ} (h : 0 < n) (values : Vector ℚ n) : Scale ℚ :=
  ⟨n, h, values[0], values.get (lastIndex h), .regular⟩

/-- The samples by their numbers. -/
def sampleAt {n : ℕ} (values : Vector ℚ n) (k : ℕ) : ℚ := values[k]?.getD 0

theorem sampleAt_val {n : ℕ} (values : Vector ℚ n) (i : Fin n) :
    sampleAt values i = values.get i := by
  rw [sampleAt, Vector.getElem?_eq_getElem i.isLt]
  rfl

section Spanning

variable {m : ℕ} {values : Vector ℚ (m + 1)}

/-- A sample is found at its own position if it lies off the line by less than half a step. -/
theorem find_spanning (several : 1 ≤ m) (i : Fin (m + 1))
    (near : (2 : ℚ) * |m * (values.get i - values.get 0) -
        i.val * (values.get (Fin.last m) - values.get 0)| <
      |values.get (Fin.last m) - values.get 0|) :
    (spanning (Nat.succ_pos m) values).find (values.get i) = .ok i := by
  generalize start : values.get 0 = first at near
  generalize stop : values.get (Fin.last m) = last at near
  have wide : (0 : ℚ) < |last - first| := (by positivity : (0 : ℚ) ≤ _).trans_lt near
  have apart : last - first ≠ 0 := abs_pos.1 wide
  have count : (m : ℚ) ≠ 0 := Nat.cast_ne_zero.2 (by omega)
  have moved : m + 1 ≠ 1 := by omega
  have step : (spanning (Nat.succ_pos m) values).step = (last - first) / m := by
    rw [← start, ← stop]
    exact if_neg moved
  have off : (values.get i - first) / (spanning (Nat.succ_pos m) values).step - i.val =
      (m * (values.get i - first) - i.val * (last - first)) / (last - first) := by
    rw [step]
    field_simp
  have half : |(values.get i - first) / (spanning (Nat.succ_pos m) values).step - i.val| <
      1 / 2 := by
    rw [off, abs_div, div_lt_iff₀ wide]
    linarith
  obtain ⟨behind, before⟩ := abs_lt.1 half
  have begins : (spanning (Nat.succ_pos m) values).start = first := start
  have ends : (spanning (Nat.succ_pos m) values).start ≠
      (spanning (Nat.succ_pos m) values).stop := by
    rw [begins]
    intro same
    exact apart (sub_eq_zero.2 (stop.symm.trans same.symm))
  refine (find_regular_iff rfl ends moved _ i).2 ⟨.inr ?_, .inr ?_⟩
  · rw [begins]
    linarith
  · rw [begins]
    linarith

/-- The steps of evenly spaced samples differ from one step, relative to it, by at most twice the
tolerance. -/
theorem stepsWithin_of_isRegular {rtol : ℚ} (tolerance : 0 ≤ rtol) (several : 2 ≤ m)
    (regular : Spacing.isRegular rtol values.toList = true) :
    ∃ first : ℚ, first ≠ 0 ∧
      StepsWithin (sampleAt values) m first ((2 : ℚ) * rtol * |first|) := by
  obtain ⟨first, moves, near⟩ := Spacing.steps_of_isRegular (by omega) regular
  refine ⟨first, by simpa using moves, fun k below => ?_⟩
  have step := (near ⟨k, by omega⟩ ⟨k + 1, by omega⟩ rfl).2
  rw [← sampleAt_val, ← sampleAt_val] at step
  simp only [close, Fraction.le_eq, Fraction.abs_eq, Fraction.eq_eq, Bool.or_eq_true,
    Bool.and_eq_true, decide_eq_true_eq] at step
  rcases step with ⟨close, -⟩ | same
  · linarith
  · rw [same, sub_self, abs_zero]
    positivity

theorem find_of_isRegular {rtol : ℚ} (tolerance : 0 ≤ rtol) (several : 2 ≤ m)
    (few : (m + 1) * (2 * rtol) < 1) (regular : Spacing.isRegular rtol values.toList = true)
    (i : Fin (m + 1)) : (spanning (Nat.succ_pos m) values).find (values.get i) = .ok i := by
  obtain ⟨first, moves, near⟩ := stepsWithin_of_isRegular tolerance several regular
  have single : 1 ≤ m := by omega
  have off := off_lt_half near moves (by positivity) few single (Nat.le_of_lt_succ i.isLt)
  refine find_spanning single i ?_
  rw [← sampleAt_val, ← sampleAt_val, ← sampleAt_val]
  exact off

end Spanning

/-- Up to 49999 nearly even samples are found at their own positions, although only their ends are
kept. -/
theorem find_of_nearlyEven {n : ℕ} (several : 3 ≤ n) (few : n ≤ 49999) (values : Vector ℚ n)
    (bounds : Option (Vector (ℚ × ℚ) n))
    (regular : Spacing.isRegular Spacing.regularTolerance values.toList = true) :
    ofSamples (.ofVector values) (bounds.map .ofPairs) none =
        .ok (spanning (Nat.zero_lt_of_lt several) values) ∧
      ∀ i : Fin n, (spanning (Nat.zero_lt_of_lt several) values).find (values.get i) = .ok i := by
  refine ⟨?_, fun i => ?_⟩
  · cases bounds with
    | none => exact ofSamples_even (by omega) values regular
    | some bounds =>
        have even : spacingOf values bounds = .regular := by
          rw [spacingOf, regular]
          rfl
        rw [Option.map_some, ofSamples_cells (by omega), even]
        rfl
  · obtain ⟨m, rfl⟩ : ∃ m, n = m + 1 := ⟨n - 1, by omega⟩
    have tolerance : (Spacing.regularTolerance : ℚ) = 1 / 100000 := by decide +kernel
    have most : (m : ℚ) + 1 ≤ 49999 := by exact_mod_cast few
    rw [tolerance] at regular
    exact find_of_isRegular (by norm_num) (by omega) (by linarith) regular i

/-- Four samples whose steps are 100000, 100002 and 99998. -/
def swaying : Vector ℚ 4 := #v[7, 100007, 200009, 300007]

theorem find_of_nearlyEven_swaying :
    3 ≤ 4 ∧ 4 ≤ 49999 ∧ Spacing.isRegular Spacing.regularTolerance swaying.toList = true ∧
      ofSamples (.ofVector swaying) none none = .ok (spanning (by decide) swaying) ∧
      ∀ i : Fin 4, (spanning (by decide) swaying).find (swaying.get i) = .ok i := by
  have regular : Spacing.isRegular Spacing.regularTolerance swaying.toList = true := by
    decide +kernel
  exact ⟨by decide, by decide, regular,
    find_of_nearlyEven (by decide) (by decide) swaying none regular⟩

end Meteo.Scale
