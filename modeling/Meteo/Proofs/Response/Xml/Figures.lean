/-
# Meteo.Proofs.Response.Xml.Figures -- numbers and times are written with allowed characters

Whatever the coordinates of a station and the time of an observation are, their texts can
stand in a document (`allowed_fixed`, `allowed_general`, `allowed_isoText`): they are put
together from digits, signs and a few words.
-/
import Meteo.Decimal.Text
import Meteo.Proofs.Response.Xml.Characters
import Meteo.Time.Instant

namespace Meteo.Response.Xml

set_option autoImplicit false

theorem allowed_ofList (cs : List Char) : allowed (String.ofList cs) = cs.all isChar := by
  rw [allowed, String.toList_ofList]

/-! ## Digits -/

theorem isChar_of_isDigit {c : Char} (digit : c.isDigit) : isChar c := by
  have bounds : 0x30 ≤ c.toNat ∧ c.toNat ≤ 0x39 := by
    simp only [Char.isDigit, Bool.and_eq_true, decide_eq_true_eq, ge_iff_le,
      UInt32.le_iff_toNat_le] at digit
    exact digit
  have part : among nameParts c :=
    List.any_eq_true.2 ⟨(0x30, 0x39), by simp [nameParts], by simpa using bounds⟩
  exact isChar_of_isNameChar (by rw [isNameChar, part, Bool.or_true])

@[simp] theorem allowed_digitText (n : Nat) : allowed (Decimal.digitText n) := by
  rw [Decimal.digitText, allowed_ofList, List.all_eq_true]
  exact fun c member =>
    isChar_of_isDigit (Nat.isDigit_of_mem_toDigits (by decide) (by decide) member)

@[simp] theorem allowed_zeros (n : Nat) : allowed (Decimal.zeros n) := by
  rw [Decimal.zeros, allowed_ofList, List.all_eq_true]
  exact fun c member => List.eq_of_mem_replicate member ▸ rfl

@[simp] theorem allowed_padded (width n : Nat) : allowed (Decimal.padded width n) := by
  rw [Decimal.padded, allowed_append, allowed_zeros, allowed_digitText]
  rfl

/-! ## Decimals -/

theorem allowed_split (d : Decimal) : allowed d.split.1 ∧ allowed d.split.2 := by
  rw [Decimal.split]
  split
  · exact ⟨allowed_digitText _, rfl⟩
  · exact ⟨allowed_digitText _, allowed_padded _ _⟩

theorem allowed_point {after : String} (digits : allowed after) :
    allowed (Decimal.point after) := by
  rw [Decimal.point]
  split
  · rfl
  · rw [allowed_append, digits]
    rfl

theorem allowed_positional (d : Decimal) : allowed (d.split.1 ++ Decimal.point d.split.2) := by
  obtain ⟨before, after⟩ := allowed_split d
  rw [allowed_append, before, allowed_point after]
  rfl

theorem allowed_exponentText (e : Int) : allowed (Decimal.exponentText e) := by
  rw [Decimal.exponentText, allowed_append, allowed_append, allowed_padded]
  split <;> rfl

theorem allowed_scientific (d : Decimal) : allowed d.scientific := by
  have all := allowed_digitText d.digits
  rw [Decimal.scientific]
  split
  · rfl
  · next c cs digits =>
    rw [allowed, digits, List.all_cons, Bool.and_eq_true] at all
    rw [allowed_append, allowed_append, allowed_ofList, allowed_exponentText,
      allowed_point (by rw [allowed_ofList, all.2]), List.all_cons, all.1]
    rfl

theorem allowed_write {l : FloatLayout} (fraction : allowed l.emptyFraction) (d : Decimal) :
    allowed (l.write d) := by
  obtain ⟨before, after⟩ := allowed_split d
  have positional : allowed (d.split.1 ++
      if d.split.2.isEmpty then l.emptyFraction else "." ++ d.split.2) := by
    rw [allowed_append, before, Bool.true_and]
    split
    · exact fraction
    · rw [allowed_append, after]
      rfl
  rw [FloatLayout.write]
  split
  · exact positional
  · exact allowed_scientific d

/-! ## Doubles -/

theorem allowed_withSign (x : Float) {body : Nat → Int → String}
    (magnitude : ∀ m q, allowed (body m q)) : allowed (Double.withSign x body) := by
  rw [Double.withSign]
  split
  · rfl
  · split <;> rfl
  · next m q _ =>
    rw [allowed_append, magnitude]
    split <;> rfl

theorem allowed_fixed (places : Nat) (x : Float) : allowed (Double.fixed places x) :=
  allowed_withSign x fun _ _ => allowed_positional _

theorem allowed_general (x : Float) : allowed (Double.general x) :=
  allowed_withSign x fun _ _ => allowed_write rfl _

/-! ## Times -/

theorem allowed_dateText (d : Time.Date) : allowed d.text := by
  rw [Time.Date.text]
  simp only [allowed_append, allowed_padded, Bool.and_true]
  split <;> rfl

theorem allowed_clockText (second : Nat) : allowed (Time.clockText second) := by
  rw [Time.clockText]
  simp only [allowed_append, allowed_padded, Bool.and_true]
  rfl

theorem allowed_isoText (t : Time.Instant) : allowed t.isoText := by
  rw [Time.Instant.isoText, Time.Instant.secondsText, allowed_append]
  split
  · simp only [allowed_append, allowed_dateText, allowed_clockText, Bool.and_true, Bool.true_and]
    rfl
  · rfl

end Meteo.Response.Xml
