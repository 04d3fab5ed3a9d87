/-
# Meteo.Proofs.Number.Differences -- rounded differences are in order

A difference of doubles is rounded.  With the bit that remembers what was shifted out, the
residual bits of a mantissa tell the nearest integer (`Sticky.nearest`), and nearest integers
are in the order of the numbers they stand for (`Nearest.mono`).

Rounding brings a magnitude to an exponent of its own, so two magnitudes need not be rounded
to the same unit.  Exponent and mantissa together are a place among the doubles; the place of
a rounded magnitude grows with it (`Rounds.mono`), storing keeps the place as far as the
infinite doubles (`position_stored_finite`), and doubles compare as their positions do
(`le_of_position_le`).  Hence a lesser difference is never rounded to a greater one, and
doubles are a `RoundedOrdinate`.
-/
import Mathlib
import Meteo.Proofs.Number.Double
import Meteo.Proofs.Number.Overflow

namespace Meteo.Double

set_option autoImplicit false

open Float.Model Float.Model.UnpackedFloat

/-! ## Nearest integers -/

/-- An integer is nearest to a number; of two that are equally near, the even one is. -/
structure Nearest (n : ℕ) (v : ℚ) : Prop where
  low : (n : ℚ) - 1 / 2 ≤ v
  high : v ≤ n + 1 / 2
  even_of_low : v = n - 1 / 2 → n % 2 = 0
  even_of_high : v = n + 1 / 2 → n % 2 = 0

theorem Nearest.mono {m n : ℕ} {v w : ℚ} (first : Nearest m v) (second : Nearest n w)
    (le : v ≤ w) : m ≤ n := by
  by_contra greater
  have next : (n : ℚ) + 1 ≤ m := by exact_mod_cast Nat.succ_le_of_lt (Nat.lt_of_not_le greater)
  have low := first.low
  have high := second.high
  -- both numbers lie in the middle between two integers, and only one of these is even
  have evenM := first.even_of_low (by linarith)
  have evenN := second.even_of_high (by linarith)
  have same : m = n + 1 := by
    have : (m : ℚ) = n + 1 := by linarith
    exact_mod_cast this
  omega

theorem nearest_self (n : ℕ) : Nearest n n where
  low := by linarith
  high := by linarith
  even_of_low same := by linarith
  even_of_high same := by linarith

/-- A number rounded down to half units; the sticky bit tells whether anything was lost. -/
structure Sticky (em : ExtendedMantissa) (v : ℚ) : Prop extends Halves em v where
  lost : em.stickyBit = true ↔ (halves em : ℚ) < 2 * v

namespace Sticky

variable {em : ExtendedMantissa} {v : ℚ}

theorem shiftRightOne (h : Sticky em v) : Sticky em.shiftRightOne (v / 2) where
  toHalves := h.toHalves.shiftRightOne
  lost := by
    rw [halves_shiftRightOne, mul_div_cancel₀ v two_ne_zero]
    obtain ⟨m, _ | _, b⟩ := em
    · have whole : halves ⟨m, false, b⟩ = 2 * m := by simp [halves]
      have lost := h.lost
      rw [whole] at lost
      push_cast at lost
      rw [mul_lt_mul_iff_of_pos_left two_pos] at lost
      exact lost
    · have odd : halves ⟨m, true, b⟩ = 2 * m + 1 := by simp [halves]
      have le := h.le
      rw [odd] at le
      push_cast at le
      refine iff_of_true rfl ?_
      change (m : ℚ) < v
      linarith

theorem shiftRight (h : Sticky em v) (k : ℕ) : Sticky (em >>> k) (v / 2 ^ k) := by
  induction k with
  | zero =>
      rw [pow_zero, div_one]
      exact h
  | succ k ih =>
      rw [pow_succ, ← div_div]
      exact ih.shiftRightOne

/-- The residual bits tell the nearest integer. -/
theorem nearest (h : Sticky em v) : Nearest em.roundedMantissa v := by
  obtain ⟨⟨le, lt⟩, lost⟩ := h
  rw [halves, Nat.cast_add, Nat.cast_mul, Nat.cast_ofNat] at le lt lost
  obtain ⟨m, _ | _, _ | _⟩ := em
  · rw [Bool.toNat_false, Nat.cast_zero, add_zero] at le lost
    have kept := lost.not.1 Bool.false_ne_true
    have same : v = m := by linarith
    rw [same]
    exact nearest_self m
  · rw [Bool.toNat_false, Nat.cast_zero, add_zero] at lt lost
    have above := lost.1 rfl
    change Nearest m v
    constructor <;> intros <;> linarith
  · rw [Bool.toNat_true, Nat.cast_one] at le lost
    have kept := lost.not.1 Bool.false_ne_true
    have middle : v = m + 1 / 2 := by linarith
    change Nearest (m + m % 2) v
    rw [middle]
    rcases Nat.mod_two_eq_zero_or_one m with even | odd
    · rw [even, add_zero]
      constructor <;> intros <;> linarith
    · rw [odd]
      constructor <;> intros <;> push_cast at * <;> first | linarith | omega
  · rw [Bool.toNat_true, Nat.cast_one] at lt lost
    have above := lost.1 rfl
    change Nearest (m + 1) v
    constructor <;> intros <;> push_cast at * <;> linarith

end Sticky

theorem sticky_exact (m : ℕ) : Sticky (.ofMantissaAndAccuracy m .exact) m where
  toHalves := halves_exact m
  lost := by simp [halves, ExtendedMantissa.ofMantissaAndAccuracy]

/-! ## Places among the doubles -/

/-- The place of a magnitude among the doubles, given by its mantissa and exponent. -/
def place (m : ℕ) (e : ℤ) : ℤ := (e + 1074) * 2 ^ 52 + m

theorem place_nonneg {m : ℕ} {e : ℤ} (least : -1074 ≤ e) : 0 ≤ place m e := by
  rw [place]
  omega

/-- Half of a mantissa that has run over has the same place at the next exponent. -/
theorem place_carry (e : ℤ) : place (2 ^ 53) e = place (2 ^ 52) (e + 1) := by
  rw [place, place]
  push_cast
  ring

/-- A mantissa of 53 bits, or of fewer with the least exponent. -/
structure Canonical (m : ℕ) (e : ℤ) : Prop where
  least : -1074 ≤ e
  short : m < 2 ^ 53
  full : -1074 < e → 2 ^ 52 ≤ m

/-- A magnitude is rounded to a mantissa with an exponent of its own. -/
structure Rounds (q : ℚ) (m : ℕ) (e : ℤ) : Prop where
  least : -1074 ≤ e
  below : q < 2 ^ (e + 53)
  above : -1074 < e → 2 ^ (e + 52) ≤ q
  nearest : Nearest m (q / 2 ^ e)

namespace Rounds

variable {q r : ℚ} {m n : ℕ} {e f : ℤ}

theorem mantissa_le (h : Rounds q m e) : m ≤ 2 ^ 53 := by
  refine h.nearest.mono (nearest_self _) ?_
  rw [div_le_iff₀ (zpow_pos two_pos e), Nat.cast_pow, Nat.cast_ofNat, ← zpow_natCast,
    ← zpow_add₀ two_ne_zero, add_comm]
  exact h.below.le

theorem le_mantissa (h : Rounds q m e) (above : -1074 < e) : 2 ^ 52 ≤ m := by
  refine (nearest_self _).mono h.nearest ?_
  rw [le_div_iff₀ (zpow_pos two_pos e), Nat.cast_pow, Nat.cast_ofNat, ← zpow_natCast,
    ← zpow_add₀ two_ne_zero, add_comm]
  exact h.above above

/-- A greater magnitude is not rounded to a lower place. -/
theorem mono (first : Rounds q m e) (second : Rounds r n f) (le : q ≤ r) :
    place m e ≤ place n f := by
  rw [place, place]
  rcases lt_trichotomy e f with lower | rfl | higher
  · have most := first.mantissa_le
    have least := second.le_mantissa (first.least.trans_lt lower)
    omega
  · have unit : (0 : ℚ) < 2 ^ e := zpow_pos two_pos e
    have := first.nearest.mono second.nearest ((div_le_div_iff_of_pos_right unit).2 le)
    omega
  · have bits : (2 : ℚ) ^ (e + 52) < 2 ^ (f + 53) :=
      calc (2 : ℚ) ^ (e + 52) ≤ q := first.above (second.least.trans_lt higher)
        _ ≤ r := le
        _ < 2 ^ (f + 53) := second.below
    have := (zpow_lt_zpow_iff_right₀ one_lt_two).1 bits
    omega

theorem canonical (h : Rounds q m e) (short : m < 2 ^ 53) : Canonical m e :=
  ⟨h.least, short, h.le_mantissa⟩

end Rounds

/-- A magnitude of a double is rounded to itself. -/
theorem Canonical.rounds {m : ℕ} {e : ℤ} (h : Canonical m e) : Rounds (m * 2 ^ e) m e where
  least := h.least
  below := by
    rw [add_comm, zpow_add₀ two_ne_zero]
    exact mul_lt_mul_of_pos_right (by exact_mod_cast h.short) (zpow_pos two_pos e)
  above high := by
    rw [add_comm, zpow_add₀ two_ne_zero]
    exact mul_le_mul_of_nonneg_right (by exact_mod_cast h.full high) (zpow_pos two_pos e).le
  nearest := by
    rw [mul_div_cancel_right₀ _ (zpow_pos two_pos e).ne']
    exact nearest_self m

/-- A mantissa with residual bits is rounded at the exponent that it is brought to. -/
theorem rounds_rounded {m : ℕ} {e : ℤ} {accuracy : Accuracy} {v : ℚ}
    (h : Sticky (.ofMantissaAndAccuracy m accuracy) v) (fine : e ≤ target m e) :
    Rounds (v * 2 ^ e) (rounded m e accuracy) (target m e) where
  least := by
    rw [target_eq]
    exact le_max_right _ _
  below := by
    refine (lt_pow h.toHalves).trans_le (zpow_le_zpow_right₀ one_le_two ?_)
    rw [target_eq]
    omega
  above := pow_le h.toHalves fine
  nearest := by
    rw [← div_two_pow_eq v fine]
    exact (h.shiftRight _).nearest

/-! ## Positions of doubles -/

/-- The place of the infinite doubles. -/
def beyond : ℤ := 2047 * 2 ^ 52

/-- The place of a double with its sign. -/
def position : UnpackedFloat → ℤ
  | .finite s m e _ => s.apply (place m e)
  | .infinity s => s.apply beyond
  | _ => 0

/-- What the fields of a double give. -/
def Packed (x : UnpackedFloat) : Prop :=
  ∀ s m e h, x = .finite s m e h → Canonical m e ∧ e ≤ 971

theorem packed_unpack (b : BitVec 64) : Packed (UnpackedFloat.unpack Format.binary64 b) := by
  intro s m e h unpacked
  obtain ⟨short, low⟩ := fits_unpack b s m e h unpacked
  refine ⟨?_, low⟩
  rw [UnpackedFloat.unpack] at unpacked
  split at unpacked
  · split at unpacked <;> cases unpacked
  · split at unpacked
    · split at unpacked
      · cases unpacked
      · next least _ =>
        cases unpacked
        refine ⟨?_, short, fun above => ?_⟩
        · rw [least]
          decide
        · rw [least] at above
          exact absurd above (by decide)
    · next field =>
      have positive : (@unpackExponent Format.binary64 b).toNat ≠ 0 := fun none =>
        field (BitVec.eq_of_toNat_eq none)
      cases unpacked
      refine ⟨?_, short, fun _ => ?_⟩
      · change -1074 ≤ ((@unpackExponent Format.binary64 b).toNat : ℤ) - (1023 + 52)
        omega
      · rw [Exact.toNat_implicit]
        exact Nat.le_add_left _ _

theorem place_lt_beyond {m : ℕ} {e : ℤ} (h : Canonical m e) (low : e ≤ 971) :
    place m e < beyond := by
  have short := h.short
  rw [place, beyond]
  omega

/-- A mantissa that is short enough need not be rounded again. -/
theorem target_le {m : ℕ} {e : ℤ} (least : -1074 ≤ e) (short : m < 2 ^ 53) : target m e ≤ e := by
  have bits : m.log2 < 53 := by
    rcases Nat.eq_zero_or_pos m with rfl | positive
    · decide
    · exact (Nat.log2_lt positive.ne').2 short
  rw [target_eq]
  omega

/-- Comparing mantissas and exponents is comparing places. -/
theorem place_lt_place {m n : ℕ} {e f : ℤ} (h : Canonical m e) (k : Canonical n f)
    (lt : e < f ∨ e = f ∧ m < n) : place m e < place n f := by
  rw [place, place]
  rcases lt with lower | ⟨rfl, less⟩
  · have short := h.short
    have full := k.full (h.least.trans_lt lower)
    omega
  · omega

/-- Comparing mantissas and exponents is comparing magnitudes. -/
theorem mul_zpow_le_mul_zpow {m n : ℕ} {e f : ℤ} (h : Canonical m e) (k : Canonical n f)
    (le : e < f ∨ e = f ∧ m ≤ n) : (m : ℚ) * 2 ^ e ≤ n * 2 ^ f := by
  rcases le with lower | ⟨rfl, less⟩
  · calc (m : ℚ) * 2 ^ e ≤ 2 ^ (e + 53) := h.rounds.below.le
      _ ≤ 2 ^ (f + 52) := zpow_le_zpow_right₀ one_le_two (by omega)
      _ ≤ n * 2 ^ f := k.rounds.above (h.least.trans_lt lower)
  · exact mul_le_mul_of_nonneg_right (Nat.cast_le.2 less) (zpow_pos two_pos e).le

theorem Packed.place_bounds {s : Sign} {m : ℕ} {e : ℤ} {h : 0 < m}
    (packed : Packed (.finite s m e h)) : 0 < place m e ∧ place m e < beyond := by
  obtain ⟨canonical, low⟩ := packed s m e h rfl
  have least := canonical.least
  refine ⟨?_, place_lt_beyond canonical low⟩
  rw [place]
  omega

theorem beyond_pos : 0 < beyond := by decide

/-- A double that is less stands at a lower position. -/
theorem position_lt_of_lt {x y : UnpackedFloat} (hx : Packed x) (hy : Packed y)
    (lt : x.lt y = true) : position x < position y := by
  have top := beyond_pos
  rw [lt_iff_rank] at lt
  rcases x with (_ | _) | _ | _ | ⟨_ | _, m, e, h⟩ <;>
    rcases y with (_ | _) | _ | _ | ⟨_ | _, n, f, k⟩ <;>
    simp [rank?, Prod.Lex.lt_iff] at lt <;>
    simp only [position, Sign.apply, neg_lt_neg_iff, Left.neg_neg_iff]
  · omega
  · exact top
  · exact hy.place_bounds.2
  · have := hy.place_bounds
    omega
  · exact top
  · exact hy.place_bounds.1
  · have := hx.place_bounds
    omega
  · exact hx.place_bounds.1
  · exact place_lt_place (hy _ _ _ _ rfl).1 (hx _ _ _ _ rfl).1 (by omega)
  · have := hx.place_bounds
    have := hy.place_bounds
    omega
  · exact hx.place_bounds.2
  · exact place_lt_place (hx _ _ _ _ rfl).1 (hy _ _ _ _ rfl).1 lt

/-- Doubles compare as their positions do. -/
theorem le_of_position_le {x y : UnpackedFloat} (hx : Packed x) (hy : Packed y)
    (numberX : x.isNaN = false) (numberY : y.isNaN = false) (le : position x ≤ position y) :
    x.le y = true := by
  rw [le_iff_rank]
  obtain ⟨a, ha⟩ := exists_rank numberX
  obtain ⟨b, hb⟩ := exists_rank numberY
  refine ⟨a, ha, b, hb, le_of_not_gt fun greater => ?_⟩
  exact not_lt_of_ge le (position_lt_of_lt hy hx ((lt_iff_rank y x).2 ⟨b, hb, a, ha, greater⟩))

/-- Finite doubles compare as the fractions that they stand for. -/
theorem fractionOf_le_of_le {x y : UnpackedFloat} (hx : Packed x) (hy : Packed y)
    (finiteX : x.isFinite = true) (finiteY : y.isFinite = true) (le : x.le y = true) :
    fractionOf x ≤ fractionOf y := by
  have magnitude (m : ℕ) (e : ℤ) : (0 : ℚ) ≤ m * 2 ^ e := by positivity
  rw [le_iff_rank] at le
  rcases x with _ | _ | _ | ⟨_ | _, m, e, h⟩ <;> cases finiteX <;>
    rcases y with _ | _ | _ | ⟨_ | _, n, f, k⟩ <;> cases finiteY <;>
    simp [rank?, Prod.Lex.le_iff] at le <;>
    simp only [fractionOf_zero, fractionOf_finite, Sign.apply, Int.cast_neg, Int.cast_natCast,
      neg_mul, neg_le_neg_iff, Left.neg_nonpos_iff, le_refl]
  · exact magnitude n f
  · exact magnitude m e
  · exact mul_zpow_le_mul_zpow (hy _ _ _ _ rfl).1 (hx _ _ _ _ rfl).1 (by omega)
  · have := magnitude m e
    have := magnitude n f
    linarith
  · exact mul_zpow_le_mul_zpow (hx _ _ _ _ rfl).1 (hy _ _ _ _ rfl).1 le

/-! ## Where rounded numbers are stored -/

/-- The fields of a normal double. -/
theorem unpack_packComponents_normal (s : Sign) {m : ℕ} {e : ℤ} (h : 0 < m) {field : BitVec 11}
    {fraction : BitVec 52} (partially : field ≠ -1#_) (positive : field ≠ 0#_)
    (exponent : (field.toNat : ℤ) = e + 1075) (mantissa : fraction.toNat + 2 ^ 52 = m) :
    UnpackedFloat.unpack Format.binary64 (packComponents Format.binary64 s field fraction) =
      .finite s m e h := by
  have implicit : (1#1 ++ fraction).toNat = m := (Exact.toNat_implicit fraction).trans mantissa
  have bias : (field.toNat : ℤ) - (1023 + 52) = e := by omega
  simp only [UnpackedFloat.unpack, unpackMantissa_packComponents, unpackExponent_packComponents,
    unpackSign_packComponents, Sign.ofBitVec_toBitVec, if_neg partially, if_neg positive]
  rw [UnpackedFloat.finite.injEq]
  exact ⟨rfl, implicit, bias⟩

/-- The fields of a double with the least exponent. -/
theorem unpack_packComponents_subnormal (s : Sign) {m : ℕ} (h : 0 < m) {fraction : BitVec 52}
    (mantissa : fraction.toNat = m) :
    UnpackedFloat.unpack Format.binary64 (packComponents Format.binary64 s 0#_ fraction) =
      .finite s m (-1074) h := by
  have partially : (0#11 : BitVec 11) ≠ -1#_ := by decide
  have positive : fraction ≠ 0#_ := fun none => by
    rw [none] at mantissa
    exact h.ne mantissa
  simp only [UnpackedFloat.unpack, unpackMantissa_packComponents, unpackExponent_packComponents,
    unpackSign_packComponents, Sign.ofBitVec_toBitVec, if_neg partially, if_pos, dif_neg positive]
  rw [UnpackedFloat.finite.injEq]
  exact ⟨rfl, mantissa, rfl⟩

/-- A double is stored as it is. -/
theorem stored_finite_of_canonical (s : Sign) {m : ℕ} {e : ℤ} (h : 0 < m)
    (canonical : Canonical m e) (low : e ≤ 971) : stored (.finite s m e h) = .finite s m e h := by
  obtain ⟨least, short, full⟩ := canonical
  have small : ¬ 2 ^ 11 ≤ (e + Format.binary64.exponentBias + (52 : ℕ)).toNat + 1 := by
    change ¬ 2 ^ 11 ≤ (e + 1023 + 52).toNat + 1
    omega
  rw [stored, UnpackedFloat.pack]
  dsimp only
  rw [if_neg small]
  split
  · next bits =>
    have normal : 2 ^ 52 ≤ m := (Nat.le_log2 h.ne').1 (Nat.le_of_eq (Nat.succ.inj bits).symm)
    have field : (BitVec.ofNat 11 (e + 1023 + 52).toNat).toNat = (e + 1075).toNat := by
      rw [BitVec.toNat_ofNat]
      omega
    refine unpack_packComponents_normal s h (fun top => ?_) (fun none => ?_) ?_ ?_
    · have := congrArg BitVec.toNat top
      change (BitVec.ofNat 11 (e + 1023 + 52).toNat).toNat = 2047 at this
      omega
    · have := congrArg BitVec.toNat none
      change (BitVec.ofNat 11 (e + 1023 + 52).toNat).toNat = 0 at this
      omega
    · change ((BitVec.ofNat 11 (e + 1023 + 52).toNat).toNat : ℤ) = _
      omega
    · rw [BitVec.toNat_ofNat]
      omega
  · next bits =>
    have subnormal : m < 2 ^ 52 := by
      by_contra normal
      exact bits (congrArg Nat.succ ((Nat.log2_eq_iff h.ne').2 ⟨by omega, short⟩))
    have lowest : e = -1074 := by
      by_contra above
      have := full (by omega)
      omega
    subst lowest
    refine unpack_packComponents_subnormal s h ?_
    rw [BitVec.toNat_ofNat]
    omega

/-- The position at which a rounded magnitude is stored. -/
theorem position_stored_finite (s : Sign) {m : ℕ} {e : ℤ} (h : 0 < m) (canonical : Canonical m e) :
    position (stored (.finite s m e h)) = s.apply (min (place m e) beyond) := by
  rcases lt_or_ge 971 e with high | low
  · have far : beyond ≤ place m e := by
      have full := canonical.full (by omega)
      rw [place, beyond]
      omega
    rw [stored_finite_of_high s m h high, min_eq_right far, position]
  · have inside := (place_lt_beyond canonical low).le
    rw [stored_finite_of_canonical s h canonical low, min_eq_left inside, position]

/-- The position at which a number is stored after rounding. -/
theorem position_stored_roundWithAccuracy {m : ℕ} {e : ℤ} {accuracy : Accuracy} {v : ℚ}
    (h : Sticky (.ofMantissaAndAccuracy m accuracy) v) (fine : e ≤ target m e) (s : Sign) :
    ∃ n f, Rounds (v * 2 ^ e) n f ∧
      position (stored (roundWithAccuracy Format.binary64 s m e accuracy)) =
        s.apply (min (place n f) beyond) := by
  have rounds := rounds_rounded h fine
  refine ⟨_, _, rounds, ?_⟩
  rw [roundWithAccuracy_eq fine]
  generalize rounded m e accuracy = n at rounds ⊢
  generalize target m e = f at rounds ⊢
  dsimp only
  rcases Nat.lt_or_eq_of_le rounds.mantissa_le with short | rfl
  · have kept : (target n f - f).toNat = 0 := by
      have := target_le rounds.least short
      omega
    rw [kept, pow_zero, Nat.div_one]
    split
    · next none =>
      have lowest : f = -1074 := by
        have full := (rounds.canonical short).full
        have least := rounds.least
        omega
      rw [stored_zero, none, lowest]
      cases s <;> rfl
    · rw [Nat.cast_zero]
      simp only [add_zero]
      exact position_stored_finite s _ (rounds.canonical short)
  · have moved : (target (2 ^ 53) f - f).toNat = 1 := by
      have least := rounds.least
      rw [target_eq, Nat.log2_two_pow]
      omega
    have half : (2 ^ 53 : ℕ) / 2 = 2 ^ 52 := rfl
    have canonical : Canonical (2 ^ 52) (f + 1) := by
      have least := rounds.least
      exact ⟨by omega, by decide, fun _ => le_rfl⟩
    rw [place_carry]
    simp only [moved, pow_one, half]
    exact position_stored_finite s _ canonical

/-! ## Differences -/

/-- The position of a number that is rounded with its sign. -/
def Stands (q : ℚ) (p : ℤ) : Prop :=
  ∃ m e, Rounds |q| m e ∧ p = SignType.sign q * min (place m e) beyond

namespace Stands

variable {q r : ℚ} {a b : ℤ}

theorem nonneg (h : Stands q a) (positive : 0 ≤ q) : 0 ≤ a := by
  obtain ⟨m, e, rounds, rfl⟩ := h
  have magnitude : 0 ≤ min (place m e) beyond := le_min (place_nonneg rounds.least) beyond_pos.le
  rcases positive.eq_or_lt with rfl | positive
  · simp
  · simpa [sign_pos positive] using magnitude

theorem neg (h : Stands q a) : Stands (-q) (-a) := by
  obtain ⟨m, e, rounds, rfl⟩ := h
  refine ⟨m, e, by rwa [abs_neg], ?_⟩
  rw [Left.sign_neg, SignType.coe_neg, neg_mul]

theorem mono_of_pos (first : Stands q a) (second : Stands r b) (positive : 0 < q) (le : q ≤ r) :
    a ≤ b := by
  obtain ⟨m, e, rounds, rfl⟩ := first
  obtain ⟨n, f, rounds', rfl⟩ := second
  have places : place m e ≤ place n f :=
    rounds.mono rounds' (by rwa [abs_of_pos positive, abs_of_pos (positive.trans_le le)])
  rw [sign_pos positive, sign_pos (positive.trans_le le), SignType.coe_one, one_mul, one_mul]
  exact min_le_min_right _ places

/-- A greater number is not rounded to a lower position. -/
theorem mono (first : Stands q a) (second : Stands r b) (le : q ≤ r) : a ≤ b := by
  rcases lt_or_ge 0 q with positive | negative
  · exact first.mono_of_pos second positive le
  · have below : a ≤ 0 := by
      have := first.neg.nonneg (by linarith)
      omega
    rcases lt_or_ge r 0 with negative' | positive
    · have := second.neg.mono_of_pos first.neg (by linarith) (by linarith)
      omega
    · exact below.trans (second.nonneg positive)

end Stands

theorem stands_zero : Stands 0 0 := by
  refine ⟨0, -1074, ?_, by simp⟩
  have : Canonical 0 (-1074) := ⟨by omega, by decide, by omega⟩
  simpa using this.rounds

/-- A magnitude stands where it is rounded to, on the side of its sign. -/
theorem Rounds.stands {m n : ℕ} {e f : ℤ} (rounds : Rounds (m * 2 ^ e) n f) (positive : 0 < m)
    (s : Sign) :
    Stands ((s.apply m : ℤ) * 2 ^ e) (s.apply (min (place n f) beyond)) := by
  have magnitude : (0 : ℚ) < m * 2 ^ e := mul_pos (Nat.cast_pos.2 positive) (zpow_pos two_pos e)
  have stands : Stands (m * 2 ^ e) (min (place n f) beyond) :=
    ⟨n, f, by rwa [abs_of_pos magnitude], by rw [sign_pos magnitude, SignType.coe_one, one_mul]⟩
  cases s
  · rw [Sign.apply, Int.cast_neg, Int.cast_natCast, neg_mul]
    exact stands.neg
  · rw [Sign.apply, Int.cast_natCast]
    exact stands

theorem stands_round (s : Sign) {m : ℕ} (positive : 0 < m) (e : ℤ) :
    Stands ((s.apply m : ℤ) * 2 ^ e)
      (position (stored (UnpackedFloat.round Format.binary64 s m e))) := by
  have fine := le_target_shiftLeft positive.ne' e
  obtain ⟨n, f, rounds, same⟩ := position_stored_roundWithAccuracy (sticky_exact _) fine s
  rw [shiftLeft_mul_zpow] at rounds
  rw [round_eq, same]
  exact rounds.stands positive s

theorem stands_normalize (n e : ℤ) (s : Sign) :
    Stands (n * 2 ^ e) (position (stored (UnpackedFloat.normalize Format.binary64 n e s))) := by
  rw [UnpackedFloat.normalize]
  rcases lt_trichotomy n 0 with negative | rfl | positive
  · have magnitude : n = Sign.negative.apply (-n).toNat := by
      rw [Sign.apply]
      omega
    rw [compare_lt_iff_lt.2 negative]
    have stands := stands_round .negative (m := (-n).toNat) (by omega) e
    rwa [← magnitude] at stands
  · rw [Int.cast_zero, zero_mul]
    change Stands 0 (position (stored (.zero s)))
    rw [stored_zero]
    exact stands_zero
  · have magnitude : n = Sign.positive.apply n.toNat := by
      rw [Sign.apply]
      omega
    rw [compare_gt_iff_gt.2 positive]
    have stands := stands_round .positive (m := n.toNat) (by omega) e
    rwa [← magnitude] at stands

theorem stands_sub_finite (s t : Sign) {m n : ℕ} {e f : ℤ} (hm : 0 < m) (hn : 0 < n) :
    Stands (fractionOf (.finite s m e hm) - fractionOf (.finite t n f hn))
      (position (stored
        (UnpackedFloat.sub Format.binary64 (.finite s m e hm) (.finite t n f hn)))) := by
  rw [UnpackedFloat.sub, sub_fractionOf_finite]
  exact stands_normalize _ _ _

/-- What is stored of a double that an operation passes on stands for it. -/
theorem stands_finite {s : Sign} {m : ℕ} {e : ℤ} {h : 0 < m} (packed : Packed (.finite s m e h))
    (t : Sign) :
    Stands (fractionOf (.finite t m e h)) (position (stored (.finite t m e h))) := by
  have canonical := (packed s m e h rfl).1
  rw [fractionOf_finite, position_stored_finite t h canonical]
  exact canonical.rounds.stands h t

/-- A difference of doubles stands for the exact difference. -/
theorem stands_sub {x y : UnpackedFloat} (hx : Packed x) (hy : Packed y)
    (finiteX : x.isFinite = true) (finiteY : y.isFinite = true) :
    Stands (fractionOf x - fractionOf y)
      (position (stored (UnpackedFloat.sub Format.binary64 x y))) := by
  cases x with
  | infinity s => cases finiteX
  | notANumber => cases finiteX
  | zero s =>
      cases y with
      | infinity t => cases finiteY
      | notANumber => cases finiteY
      | zero t =>
          have still :
              position (stored (UnpackedFloat.sub Format.binary64 (.zero s) (.zero t))) = 0 := by
            rw [UnpackedFloat.sub]
            split <;> rw [stored_zero] <;> rfl
          rw [fractionOf_zero, fractionOf_zero, sub_zero, still]
          exact stands_zero
      | finite t n f hn =>
          have opposite : fractionOf (.zero s) - fractionOf (.finite t n f hn) =
              fractionOf (.finite (-t) n f hn) := by
            rw [fractionOf_zero, zero_sub, fractionOf_finite, fractionOf_finite]
            cases t <;> simp [Sign.apply]
          rw [opposite]
          exact stands_finite hy (-t)
  | finite s m e hm =>
      cases y with
      | infinity t => cases finiteY
      | notANumber => cases finiteY
      | zero t =>
          rw [fractionOf_zero, sub_zero]
          exact stands_finite hx s
      | finite t n f hn => exact stands_sub_finite s t hm hn

theorem isNaN_sub_of_isFinite {x y : Float} (finiteX : Ordinate.isFinite x)
    (finiteY : Ordinate.isFinite y) : Ordinate.isNaN (x - y) = false := by
  rw [isNaN_sub_of_left finiteX]
  exact isNaN_of_isFinite finiteY

end Meteo.Double

namespace Meteo

open Double

/-- Differences of doubles are rounded, in their order. -/
instance : RoundedOrdinate Float where
  le_or_gt := ranks_rankOf.le_or_gt
  isNaN_of_isFinite finite := Double.isNaN_of_isFinite finite
  isNaN_sub := isNaN_sub_of_isFinite
  sub_le_sub {w x y z} finiteW finiteX finiteY finiteZ less more := by
    have packed (a : Float) : Packed a.toModel.unpack := packed_unpack _
    have order : fractionOf w.toModel.unpack - fractionOf z.toModel.unpack ≤
        fractionOf x.toModel.unpack - fractionOf y.toModel.unpack :=
      tsub_le_tsub
        (fractionOf_le_of_le (packed w) (packed x) finiteW finiteX (decide_eq_true_iff.1 less))
        (fractionOf_le_of_le (packed y) (packed z) finiteY finiteZ (decide_eq_true_iff.1 more))
    have rounded := (stands_sub (packed w) (packed z) finiteW finiteZ).mono
      (stands_sub (packed x) (packed y) finiteX finiteY) order
    exact decide_eq_true_iff.2 (le_of_position_le (packed (w - z)) (packed (x - y))
      (isNaN_sub_of_isFinite finiteW finiteZ) (isNaN_sub_of_isFinite finiteX finiteY) rounded)

/-- What is computed from a double that is no number is none either. -/
instance : PartialOrdinate Float where
  isNaN_abs := Double.isNaN_abs
  isNaN_sub_of_isFinite := isNaN_sub_of_right
  isNaN_sub_of_or := Double.isNaN_sub_of_or
  isNaN_div_of_or := Double.isNaN_div_of_or
  eq_of_or := Double.eq_of_or
  isFinite_of_sub finite := ⟨(isFinite_sub_iff.1 finite).1, (isFinite_sub_iff.1 finite).2.1⟩
  ceil?_of_isNaN := Double.ceil?_of_isNaN

end Meteo
