/-
# Meteo.Proofs.Decimal.Digits -- fields of a fixed number of digits

A number below `10 ^ width` that is padded to `width` places is a field of exactly so many digits
(`toList_padded`).  The field reads back as the number (`natOfDigits?_fixedDigits`), and texts that
begin with such fields are in the order of the numbers first, and of what follows the fields
second (`fixedDigits_append_lt_iff`).
-/
import Mathlib
import Meteo.Decimal.Text
import Meteo.Text.Digit

namespace Meteo

set_option autoImplicit false

/-- Texts with beginnings of equal length are in the order of the beginnings first. -/
theorem append_lt_append_iff {α : Type} [LinearOrder α] {as bs : List α} (cs ds : List α)
    (size : as.length = bs.length) : as ++ cs < bs ++ ds ↔ as < bs ∨ as = bs ∧ cs < ds := by
  induction as generalizing bs with
  | nil =>
      obtain rfl := List.length_eq_zero_iff.1 size.symm
      simp
  | cons a as ih =>
      cases bs with
      | nil => cases size
      | cons b bs =>
          rw [List.cons_append, List.cons_append, List.cons_lt_cons_iff, List.cons_lt_cons_iff,
            ih (Nat.succ.inj size), List.cons.injEq]
          tauto

/-! ## Digits -/

namespace Text

theorem asciiDigit?_digitChar : ∀ d < 10, asciiDigit? (Nat.digitChar d) = some d := by decide

theorem digitChar_lt_iff : ∀ d < 10, ∀ e < 10, Nat.digitChar d < Nat.digitChar e ↔ d < e := by
  decide

theorem natOfDigits?_append_one (cs : List Char) (c : Char) :
    natOfDigits? (cs ++ [c]) =
      (natOfDigits? cs).bind fun n => (asciiDigit? c).map (10 * n + ·) := by
  rw [natOfDigits?, natOfDigits?, List.foldlM_append]
  exact congrArg _ (funext fun n => List.foldlM_cons.trans (bind_pure _))

theorem natOfDigits?_append_zeros (cs : List Char) (count : Nat) :
    natOfDigits? (cs ++ List.replicate count '0') =
      (natOfDigits? cs).map (· * 10 ^ count) := by
  induction count with
  | zero => simp
  | succ count ih =>
      rw [List.replicate_succ', ← List.append_assoc, natOfDigits?_append_one, ih]
      cases natOfDigits? cs with
      | none => rfl
      | some n =>
          rw [Option.map_some, Option.bind_some, Option.map_some,
            show asciiDigit? '0' = some 0 by decide, Option.map_some, Nat.pow_succ]
          congr 1
          ring

/-- A digit of ASCII. -/
def IsDigit (c : Char) : Prop := (asciiDigit? c).isSome = true

theorem isDigit_iff {c : Char} : IsDigit c ↔ 48 ≤ c.toNat ∧ c.toNat ≤ 57 := by
  simp only [IsDigit, asciiDigit?, Option.isSome_ite, Bool.and_eq_true, decide_eq_true_eq,
    Char.le_def, UInt32.le_iff_toNat_le]
  rfl

theorem ne_of_isDigit {c d : Char} (digit : IsDigit c) (other : asciiDigit? d = none) : c ≠ d := by
  rintro rfl
  rw [IsDigit, other] at digit
  cases digit

end Text

/-! ## Fields -/

namespace Decimal

open Text

/-- The last digits of a number, so many of them. -/
def fixedDigits : Nat → Nat → List Char
  | 0, _ => []
  | width + 1, n => fixedDigits width (n / 10) ++ [Nat.digitChar (n % 10)]

@[simp] theorem length_fixedDigits (width n : Nat) : (fixedDigits width n).length = width := by
  induction width generalizing n with
  | zero => rfl
  | succ width ih => rw [fixedDigits, List.length_append, ih, List.length_singleton]

theorem fixedDigits_ne_nil {width : Nat} (some : 0 < width) (n : Nat) :
    fixedDigits width n ≠ [] := by
  rw [← List.length_pos_iff, length_fixedDigits]
  exact some

theorem fixedDigits_zero (width : Nat) : fixedDigits width 0 = List.replicate width '0' := by
  induction width with
  | zero => rfl
  | succ width ih =>
      rw [fixedDigits, Nat.zero_div, ih, List.replicate_succ']
      rfl

theorem toList_padded {width n : Nat} (some : 0 < width) (fits : n < 10 ^ width) :
    (padded width n).toList = fixedDigits width n := by
  have apart : (padded width n).toList =
      List.replicate (width - (Nat.toDigits 10 n).length) '0' ++ Nat.toDigits 10 n := by
    simp [padded, zeros, digitText]
  rw [apart]
  clear apart
  induction width, some using Nat.le_induction generalizing n with
  | base =>
      have one : n < 10 := by simpa using fits
      rw [Nat.toDigits_of_lt_base one, fixedDigits, Nat.mod_eq_of_lt one]
      rfl
  | succ width some ih =>
      rw [fixedDigits]
      by_cases one : n < 10
      · rw [Nat.toDigits_of_lt_base one, Nat.div_eq_of_lt one, Nat.mod_eq_of_lt one,
          fixedDigits_zero]
        rfl
      · have tens := Nat.toDigits_of_base_le (by decide : 1 < 10) (Nat.not_lt.1 one)
        rw [tens, ← ih (n := n / 10) (Nat.div_lt_of_lt_mul (by rwa [Nat.pow_succ'] at fits)),
          List.append_assoc, List.length_append, List.length_singleton,
          Nat.add_sub_add_right]

theorem isDigit_fixedDigits {width n : Nat} : ∀ c ∈ fixedDigits width n, IsDigit c := by
  induction width generalizing n with
  | zero => exact nofun
  | succ width ih =>
      rw [fixedDigits, List.forall_mem_append]
      refine ⟨ih, ?_⟩
      rw [List.forall_mem_singleton, IsDigit, asciiDigit?_digitChar _ (Nat.mod_lt n (by decide))]
      rfl

theorem natOfDigits?_fixedDigits {width n : Nat} (fits : n < 10 ^ width) :
    natOfDigits? (fixedDigits width n) = some n := by
  induction width generalizing n with
  | zero =>
      rw [Nat.lt_one_iff.1 fits]
      rfl
  | succ width ih =>
      rw [fixedDigits, natOfDigits?_append_one,
        ih (Nat.div_lt_of_lt_mul (by rwa [Nat.pow_succ'] at fits)), Option.bind_some,
        asciiDigit?_digitChar _ (Nat.mod_lt n (by decide)), Option.map_some, Nat.div_add_mod]

section

variable {width m n : Nat} (fits : m < 10 ^ width) (fits' : n < 10 ^ width)

include fits fits'

theorem fixedDigits_inj : fixedDigits width m = fixedDigits width n ↔ m = n := by
  constructor
  · intro same
    have read := natOfDigits?_fixedDigits fits
    rw [same, natOfDigits?_fixedDigits fits'] at read
    exact (Option.some.inj read).symm
  · rintro rfl
    rfl

theorem fixedDigits_lt_iff : fixedDigits width m < fixedDigits width n ↔ m < n := by
  induction width generalizing m n with
  | zero =>
      rw [Nat.lt_one_iff.1 fits, Nat.lt_one_iff.1 fits']
      simp
  | succ width ih =>
      have front : m / 10 < 10 ^ width := Nat.div_lt_of_lt_mul (by rwa [Nat.pow_succ'] at fits)
      have front' : n / 10 < 10 ^ width := Nat.div_lt_of_lt_mul (by rwa [Nat.pow_succ'] at fits')
      have last : [Nat.digitChar (m % 10)] < [Nat.digitChar (n % 10)] ↔ m % 10 < n % 10 := by
        rw [List.cons_lt_cons_iff,
          digitChar_lt_iff _ (Nat.mod_lt m (by decide)) _ (Nat.mod_lt n (by decide))]
        simp
      rw [fixedDigits, fixedDigits, append_lt_append_iff _ _ (by simp), ih front front',
        fixedDigits_inj front front', last]
      omega

/-- Texts that begin with fields are in the order of their numbers first. -/
theorem fixedDigits_append_lt_iff (cs ds : List Char) :
    fixedDigits width m ++ cs < fixedDigits width n ++ ds ↔ m < n ∨ m = n ∧ cs < ds := by
  rw [append_lt_append_iff _ _ (by simp), fixedDigits_lt_iff fits fits',
    fixedDigits_inj fits fits']

end

end Decimal

end Meteo
