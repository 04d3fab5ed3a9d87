/-
# Meteo.Proofs.Time.StoredText -- a written time is counted where it is stored

A time without an offset that is written with its date and time of day is the count of its
microseconds when it is read as a stored text (`attos?_text`).  So the count of microseconds that
a caller gives in this form is that of the time (`Stamp.read?_text`).
-/
import Meteo.Proofs.Time.RequestText

namespace Meteo.Time

set_option autoImplicit false

open Text Decimal

namespace StoredText

theorem twoDigits?_fixedDigits {n limit : Nat} (less : n < limit) (fits : n < 100)
    (rest : List Char) : twoDigits? limit (fixedDigits 2 n ++ rest) = some (n, rest) := by
  rw [twoDigits?, takeDigits_fixedDigits fits]
  exact if_pos less

/-! ## Fractions -/

theorem readFraction_fixedDigits {micro : Nat} (fits : micro < 1000000) :
    readFraction (fixedDigits 6 micro) = (micro * 10 ^ 12, []) := by
  have digits : ∀ c ∈ fixedDigits 6 micro, (asciiDigit? c).isSome = true := isDigit_fixedDigits
  have size := length_fixedDigits 6 micro
  have whole : (fixedDigits 6 micro).take 18 = fixedDigits 6 micro :=
    List.take_of_length_le (by rw [size]; decide)
  have filled : (fixedDigits 6 micro ++ List.replicate 18 '0').take 18 =
      fixedDigits 6 micro ++ List.replicate 12 '0' := by
    rw [List.take_append, whole, size]
    rfl
  rw [readFraction, whole, List.takeWhile_eq_self_iff.2 digits, filled,
    natOfDigits?_append_zeros, natOfDigits?_fixedDigits fits, List.drop_length]
  rfl

/-! ## Times of day -/

/-- Attoseconds in a microsecond. -/
def attosPerMicro : ℤ := 1000 * attosPerNano

theorem readClock?_chars {c : Clock} (valid : c.isValid = true) :
    readClock? c.chars = some (c.micros * attosPerMicro, []) := by
  obtain ⟨hour, minute, second, micro⟩ := Clock.isValid_iff.1 valid
  have seconds : (c.hour : ℤ) * 3600 * attosPerSecond + c.minute * 60 * attosPerSecond +
      c.second * attosPerSecond = c.seconds * 1000000 * attosPerMicro := by
    rw [Clock.seconds, attosPerSecond, attosPerMicro, nanosPerSecond]
    push_cast
    ring
  have attos : ((10 ^ 12 : ℕ) : ℤ) = attosPerMicro := by
    rw [attosPerMicro, attosPerNano]
    norm_num
  rw [readClock?, Clock.chars, twoDigits?_fixedDigits hour (by omega), Option.bind_eq_bind,
    Option.bind_some]
  dsimp only
  -- `split` because simplifying the matches would have the kernel multiply out the attoseconds
  split
  · next rest found =>
    obtain rfl := (List.cons.inj found).2
    rw [twoDigits?_fixedDigits minute (by omega), Option.bind_some]
    dsimp only
    split
    · next rest' found' =>
      obtain rfl := (List.cons.inj found').2
      rw [twoDigits?_fixedDigits second (by omega), Option.bind_some]
      dsimp only
      rw [seconds, Clock.micros]
      split
      · next fraction point =>
        have broken : c.micro ≠ 0 := fun whole => by
          rw [if_pos whole] at point
          cases point
        rw [if_neg broken] at point
        obtain rfl := (List.cons.inj point).2
        rw [readFraction_fixedDigits micro, Nat.cast_mul, attos]
        push_cast
        rw [Int.add_mul]
      · next other =>
        have whole : c.micro = 0 := by
          by_contra broken
          exact other _ (if_neg broken)
        rw [if_pos whole, whole, Nat.add_zero, Nat.cast_mul]
        rfl
    · next other => exact absurd rfl (other _)
  · next other => exact absurd rfl (other _)

/-! ## Whole texts -/

theorem startOf_add (d : Date) (c : Clock) :
    startOf d.year d.month d.day + c.micros * attosPerMicro =
      (d.dayNumber * microsPerDay + c.micros) * attosPerMicro := by
  rw [startOf, nanosPerDay, nanosPerSecond, attosPerMicro, microsPerDay]
  ring

variable {t : DateTime}

theorem readAfterYear?_chars (time : t.IsTime) :
    readAfterYear? t.date.year (fixedDigits 2 t.date.month ++ '-' ::
      (fixedDigits 2 t.date.day ++ 'T' :: t.clock.chars)) =
        some (t.localMicros * attosPerMicro) := by
  have first := (Date.isValid_iff.1 time.date).1
  have month := Date.month_le time.date
  have day := Date.day_le time.date
  rw [readAfterYear?, twoDigits?_fixedDigits (by omega) (by omega), Option.bind_eq_bind,
    Option.bind_some]
  dsimp only
  rw [if_neg (by omega)]
  split
  · next found => cases found
  · next rest found =>
    obtain rfl := (List.cons.inj found).2
    rw [twoDigits?_fixedDigits (by omega) (by omega), Option.bind_some]
    dsimp only
    rw [time.date, if_neg (by decide), if_pos (by decide), readClock?_chars time.clock,
      Option.bind_eq_bind, Option.bind_some]
    dsimp only
    rw [show readOffset? [] = some (0, []) from rfl, Option.bind_some]
    dsimp only
    rw [List.dropWhile_nil, if_pos (by decide), startOf_add, Int.zero_mul, Int.zero_mul,
      Int.sub_zero]
    rfl
  · next other => exact absurd rfl (other _)

theorem isSpace_of_isDigit {c : Char} (digit : IsDigit c) : isSpace c = false := by
  have space : c ≠ ' ' := ne_of_isDigit digit rfl
  have control : ¬ c ≤ '\r' := by
    rw [Char.le_def, UInt32.le_iff_toNat_le]
    exact Nat.not_le.2 (Nat.lt_of_lt_of_le (by decide) (isDigit_iff.1 digit).1)
  simp [isSpace, space, control]

/-- A year of four digits without a sign. -/
theorem readPresent?_year {year : Nat} (fits : year < 10000) (rest : List Char) :
    readPresent? (fixedDigits 4 year ++ '-' :: rest) = readAfterYear? year rest := by
  have value := natOfDigits?_fixedDigits (show year < 10 ^ 4 from fits)
  have all : ∀ d ∈ fixedDigits 4 year, (asciiDigit? d).isSome = true := isDigit_fixedDigits
  obtain ⟨c, ds, digits⟩ : ∃ c ds, fixedDigits 4 year = c :: ds :=
    List.exists_cons_of_ne_nil (fixedDigits_ne_nil (by decide) year)
  rw [digits] at value all
  have digit : IsDigit c := all c List.mem_cons_self
  have minus : c ≠ '-' := ne_of_isDigit digit rfl
  have plus : c ≠ '+' := ne_of_isDigit digit rfl
  have positive : ¬ (c :: ds ++ '-' :: rest).head? = some '-' := by simp [minus]
  have unsigned : ¬ (decide ((c :: ds ++ '-' :: rest).head? = some '-') ||
      decide ((c :: ds ++ '-' :: rest).head? = some '+')) = true := by simp [minus, plus]
  have start : (c :: ds ++ '-' :: rest).dropWhile isSpace = c :: ds ++ '-' :: rest :=
    List.dropWhile_cons_of_neg (by simp [isSpace_of_isDigit digit])
  have front : (c :: ds ++ '-' :: rest).takeWhile (fun d => (asciiDigit? d).isSome) = c :: ds := by
    rw [List.takeWhile_append_of_pos all, List.takeWhile_cons_of_neg (by decide), List.append_nil]
  rw [readPresent?, digits]
  dsimp only
  rw [start, if_neg unsigned, if_neg (by simp), if_neg positive, front, value, List.drop_left]
  split
  · next found => cases found
  · next found =>
    obtain rfl := (List.cons.inj found).2
    rfl
  · next other => exact absurd rfl (other _)

/-- The text of a time without an offset counts its microseconds. -/
theorem attos?_text (time : t.IsTime) (naive : t.offset = none) :
    attos? (t.text "T") = some (some (t.localMicros * attosPerMicro)) := by
  have year := time.year
  have letters : (t.text "T").toList = fixedDigits 4 t.date.year.toNat ++
      '-' :: (fixedDigits 2 t.date.month ++
        '-' :: (fixedDigits 2 t.date.day ++ 'T' :: t.clock.chars)) := by
    rw [DateTime.toList_text time, naive]
    simp [Date.chars]
  have long : 3 < (t.text "T").toList.length := by
    rw [letters, List.length_append, length_fixedDigits]
    omega
  have word : (t.text "T").toList.map Char.toLower ≠ ['n', 'a', 't'] := by
    intro same
    have size := congrArg List.length same
    rw [List.length_map] at size
    exact absurd size long.ne'
  have present : ¬ ((t.text "T").toList.isEmpty ||
      decide ((t.text "T").toList.map Char.toLower = ['n', 'a', 't'])) = true := by
    rw [Bool.or_eq_true, decide_eq_true_eq, List.isEmpty_iff_length_eq_zero]
    rintro (empty | missing)
    · omega
    · exact word missing
  rw [attos?, if_neg present, letters, readPresent?_year (by omega), Int.toNat_of_nonneg (by omega),
    readAfterYear?_chars time]
  rfl

end StoredText

namespace Stamp

/-- The count of microseconds of a date and a time of day. -/
def ofDateTime (t : DateTime) : Stamp :=
  ⟨⟨1, .micro⟩, some (t.localMicros * StoredText.attosPerMicro)⟩

variable {t : DateTime}

theorem floor_micros {n : ℤ} (first : -2 ^ 63 ≤ n) (last : n < 2 ^ 63) :
    (Step.mk 1 .micro).floor (n * StoredText.attosPerMicro) = n * StoredText.attosPerMicro := by
  have unit : (1000000000000 : ℤ) = StoredText.attosPerMicro := rfl
  have positive : StoredText.attosPerMicro ≠ 0 := by decide
  rw [Step.floor, Resolution.attos?]
  dsimp only
  rw [unit, Int.mul_ediv_cancel _ positive, Int64.toInt_ofInt_of_le first last, Nat.cast_one,
    Int.ediv_one, Int.mul_one]

/-- Reading the text of a time without an offset in microseconds gives their count. -/
theorem read?_text (time : t.IsTime) (naive : t.offset = none) :
    read? ⟨1, .micro⟩ (t.text "T") = some (ofDateTime t) := by
  obtain ⟨first, last⟩ := DateTime.localMicros_bounds time
  rw [read?, StoredText.attos?_text time naive, Option.map_some, Option.map_some,
    floor_micros (by omega) (by omega)]
  rfl

/-- A count of microseconds is the instant of its time. -/
theorem instant_ofDateTime (naive : t.offset = none) : (ofDateTime t).instant = t.instant := by
  have nanos : t.localMicros * StoredText.attosPerMicro =
      t.localMicros * 1000 * StoredText.attosPerNano := by
    rw [StoredText.attosPerMicro, Int.mul_assoc]
  have positive : StoredText.attosPerNano ≠ 0 := by decide
  rw [instant, ofDateTime, DateTime.instant, DateTime.micros, naive]
  dsimp only
  rw [nanos, Int.mul_ediv_cancel _ positive, Option.getD_none, Int.sub_zero]

end Stamp

end Meteo.Time
