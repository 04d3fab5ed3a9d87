/-
# Meteo.Proofs.Time.RequestText -- a written time reads back

The readers of fields, times of day, offsets and dates undo the writers, one lemma for each
reader, whatever stands behind the field (`takeDigits_fixedDigits`, `readClock?_chars`,
`readOffset?_chars`, `readDate?_chars`).  Together they read the text of a time as that time
(`DateTime.read?_text`).

A request may have white space around the text, and a `Z` for the offset zero; neither changes
the instant (`ofRequestText_text`, `ofRequestText_zulu`).
-/
import Meteo.Proofs.Time.Texts
import Meteo.Time.Given

namespace Meteo

set_option autoImplicit false

/-! ## White space -/

namespace Text

/-- White space, or nothing. -/
def IsBlankText (s : String) : Prop := ∀ c ∈ s.toList, isBlank c = true

theorem isBlank_of_isDigit {c : Char} (digit : IsDigit c) : isBlank c = false := by
  rw [isDigit_iff] at digit
  simp [isBlank]
  omega

theorem dropWhile_eq_of_not {p : Char → Bool} {cs : List Char} (none : ∀ c ∈ cs, p c = false) :
    cs.dropWhile p = cs := by
  cases cs with
  | nil => rfl
  | cons c cs => exact List.dropWhile_cons_of_neg (by simp [none c List.mem_cons_self])

theorem trimBy_append {p : Char → Bool} {before word behind : List Char}
    (front : ∀ c ∈ before, p c = true) (back : ∀ c ∈ behind, p c = true)
    (some : word ≠ []) (solid : ∀ c ∈ word, p c = false) :
    trimBy p (before ++ (word ++ behind)) = word := by
  obtain ⟨c, cs, rfl⟩ := List.exists_cons_of_ne_nil some
  have first : (c :: cs ++ behind).dropWhile p = c :: cs ++ behind :=
    List.dropWhile_cons_of_neg (by simp [solid c List.mem_cons_self])
  rw [trimBy, List.dropWhile_append_of_pos front, first, List.reverse_append,
    List.dropWhile_append_of_pos fun d member => back d (List.mem_reverse.1 member),
    dropWhile_eq_of_not fun d member => solid d (List.mem_reverse.1 member), List.reverse_reverse]

/-- A word without white space is what is left when white space around it is dropped. -/
theorem strip_append {before word behind : String} (front : IsBlankText before)
    (back : IsBlankText behind) (some : word.toList ≠ [])
    (solid : ∀ c ∈ word.toList, isBlank c = false) : strip (before ++ word ++ behind) = word := by
  rw [strip, String.toList_append, String.toList_append, List.append_assoc,
    trimBy_append front back some solid, String.ofList_toList]

end Text

namespace Time

open Text Decimal

/-! ## Fields -/

theorem takeDigits_fixedDigits {width n : Nat} (fits : n < 10 ^ width) (rest : List Char) :
    takeDigits width (fixedDigits width n ++ rest) = some (n, rest) := by
  rw [takeDigits]
  simp only [List.take_left' (length_fixedDigits width n),
    List.drop_left' (length_fixedDigits width n), length_fixedDigits, if_pos,
    natOfDigits?_fixedDigits fits, Option.map_some]

theorem readFraction?_fixedDigits {micro : Nat} (fits : micro < 1000000) :
    readFraction? (fixedDigits 6 micro) = some (micro, true) := by
  have digits := takeDigits_fixedDigits (show micro < 10 ^ 6 from fits) []
  rw [List.append_nil] at digits
  rw [readFraction?, length_fixedDigits, Nat.min_self, digits]
  simp

section

variable (left : Nat) {n : Nat} (fits : n < 100)

include fits

/-- A field at the end. -/
theorem readFields?_end (colons : Option Bool) :
    readFields? (left + 1) colons (fixedDigits 2 n) = some ([n], 0, true) := by
  have field := takeDigits_fixedDigits (show n < 10 ^ 2 from fits) []
  rw [List.append_nil] at field
  rw [readFields?, field]
  rfl

/-- A field with others behind it. -/
theorem readFields?_colon {colons : Option Bool} (known : colons.getD true = true)
    {rest : List Char} (more : rest ≠ []) :
    readFields? (left + 1) colons (fixedDigits 2 n ++ ':' :: rest) =
      (readFields? left (some true) rest).map fun (ns, micro, clean) =>
        (n :: ns, micro, clean) := by
  obtain ⟨c, cs, rfl⟩ := List.exists_cons_of_ne_nil more
  rw [readFields?, takeDigits_fixedDigits fits]
  simp [known, Option.map_eq_bind]

/-- A field with a fraction behind it. -/
theorem readFields?_point (colons : Option Bool) {micro : Nat} (small : micro < 1000000) :
    readFields? (left + 1) colons (fixedDigits 2 n ++ '.' :: fixedDigits 6 micro) =
      some ([n], micro, true) := by
  have fraction := readFraction?_fixedDigits small
  obtain ⟨c, cs, digits⟩ : ∃ c cs, fixedDigits 6 micro = c :: cs :=
    List.exists_cons_of_ne_nil (fixedDigits_ne_nil (by decide) micro)
  rw [digits] at fraction
  rw [readFields?, takeDigits_fixedDigits fits, digits]
  simp [fraction]

end

/-! ## Times of day and offsets -/

theorem field_ne_nil (n : Nat) (rest : List Char) : fixedDigits 2 n ++ rest ≠ [] :=
  List.append_ne_nil_of_left_ne_nil (fixedDigits_ne_nil (by decide) n) rest

theorem readClock?_chars {c : Clock} (valid : c.isValid = true) :
    readClock? c.chars = some (c, true) := by
  obtain ⟨hour, minute, second, micro⟩ := Clock.isValid_iff.1 valid
  have last : readFields? 1 (some true) (fixedDigits 2 c.second ++
      if c.micro = 0 then [] else '.' :: fixedDigits 6 c.micro) =
        some ([c.second], c.micro, true) := by
    split
    · next none => rw [List.append_nil, readFields?_end 0 (by omega), none]
    · exact readFields?_point 0 (by omega) _ micro
  rw [readClock?, Clock.chars,
    readFields?_colon 2 (show c.hour < 100 by omega) rfl (field_ne_nil _ _),
    readFields?_colon 1 (show c.minute < 100 by omega) rfl (field_ne_nil _ _), last]
  rfl

namespace DateTime

/-- The time of day that the fields of an offset name. -/
def offsetClock (seconds : ℤ) : Clock :=
  ⟨seconds.natAbs / 3600, seconds.natAbs / 60 % 60, seconds.natAbs % 60, 0⟩

theorem readClock?_offset {seconds : ℤ} (within : seconds.natAbs < 86400) :
    readClock? (fixedDigits 2 (seconds.natAbs / 3600) ++
      ':' :: (fixedDigits 2 (seconds.natAbs / 60 % 60) ++
        if seconds.natAbs % 60 = 0 then [] else ':' :: fixedDigits 2 (seconds.natAbs % 60))) =
      some (offsetClock seconds, true) := by
  rw [readClock?, readFields?_colon 2 (by omega) rfl (field_ne_nil _ _), offsetClock]
  split
  · next even =>
    rw [List.append_nil, readFields?_end 1 (by omega), even]
    rfl
  · rw [readFields?_colon 1 (by omega) rfl (fixedDigits_ne_nil (by decide) _),
      readFields?_end 0 (by omega)]
    rfl

theorem readOffset?_chars {seconds : ℤ} (within : seconds.natAbs < 86400) :
    readOffset? (offsetChars seconds) = some (seconds * 1000000) := by
  have size : (offsetClock seconds).seconds = seconds.natAbs := by
    rw [Clock.seconds, offsetClock]
    dsimp only
    omega
  have micros : ((offsetClock seconds).micros : ℤ) = seconds.natAbs * 1000000 := by
    rw [Clock.micros, size, offsetClock]
    simp
  have sign : (if seconds < 0 then '-' else '+') ≠ 'Z' := by split <;> decide
  have less : (seconds.natAbs : ℤ) * 1000000 < microsPerDay := by
    rw [microsPerDay]
    omega
  rw [offsetChars, readOffset?]
  · rw [if_neg sign, readClock?_offset within]
    simp only [Option.bind_eq_bind, Option.bind_some, Bool.not_true, Bool.false_eq_true, if_false]
    rw [size, micros, if_pos less]
    split
    · rw [Option.some_inj]
      omega
    · rw [Option.some_inj]
      by_cases minus : seconds < 0
      · rw [if_pos minus, if_pos rfl]
        omega
      · rw [if_neg minus, if_neg (by decide)]
        omega
  · intro first
    exact absurd first sign

end DateTime

theorem beginsOffset_of_isDigit {c : Char} (digit : IsDigit c) : beginsOffset c = false := by
  have other (sign : Char) (no : asciiDigit? sign = none) : c ≠ sign := ne_of_isDigit digit no
  simp [beginsOffset, other '+' rfl, other '-' rfl, other 'Z' rfl]

/-- No character of a time of day begins an offset. -/
theorem beginsOffset_clockChars (c : Clock) : ∀ d ∈ c.chars, (!beginsOffset d) = true :=
  c.forall_chars (fun d digit => by rw [beginsOffset_of_isDigit digit]; rfl) rfl rfl

namespace DateTime

variable {t : DateTime}

/-- What stands behind a time of day begins an offset. -/
theorem readTime?_append {c : Clock} (valid : c.isValid = true) {sign : Char} {cs : List Char}
    (begins : beginsOffset sign = true) : readTime? (c.chars ++ sign :: cs) =
      (readOffset? (sign :: cs)).map fun offset => (c, some offset) := by
  have solid := beginsOffset_clockChars c
  rw [readTime?, List.takeWhile_append_of_pos solid, List.dropWhile_append_of_pos solid]
  simp [begins, readClock?_chars valid, Option.map_eq_bind]

theorem readTime?_chars {c : Clock} (valid : c.isValid = true) :
    readTime? c.chars = some (c, none) := by
  have solid := beginsOffset_clockChars c
  rw [readTime?, List.takeWhile_eq_self_iff.2 solid, List.dropWhile_eq_nil_iff.2 solid,
    readClock?_chars valid]
  rfl

theorem readTime?_text (time : t.IsTime) :
    readTime? (t.clock.chars ++ ((t.offset.map offsetText).getD "").toList) =
      some (t.clock, t.offset) := by
  cases zone : t.offset with
  | none =>
      rw [Option.map_none, Option.getD_none, String.toList_empty, List.append_nil]
      exact readTime?_chars time.clock
  | some o =>
      obtain ⟨seconds, rfl, within⟩ := time.offset o zone
      have begins : beginsOffset (if seconds < 0 then '-' else '+') = true := by
        split <;> rfl
      rw [Option.map_some, Option.getD_some, toList_offsetText within, offsetChars,
        readTime?_append time.clock begins, ← offsetChars, readOffset?_chars within]
      rfl

end DateTime

/-! ## Dates -/

namespace Date

variable {d : Date}

theorem length_chars (d : Date) : d.chars.length = 10 := by
  simp [chars]

theorem dateLength_chars (d : Date) (rest : List Char) :
    dateLength (d.chars ++ 'T' :: rest) = 10 := by
  have size : (d.chars ++ 'T' :: rest).length ≠ 7 := by
    rw [List.length_append, length_chars]
    omega
  have hyphen : (d.chars ++ 'T' :: rest)[4]? = some '-' := by simp [chars, fixedDigits]
  have month : (d.chars ++ 'T' :: rest)[5]? ≠ some 'W' := by simp [chars, fixedDigits]
  rw [dateLength, if_neg size, if_pos hyphen, if_neg month]

theorem readDate?_chars (valid : d.isValid = true) (year : 1 ≤ d.year ∧ d.year ≤ 9999)
    (rest : List Char) (length : Nat) : readDate? (d.chars ++ rest) length = some d := by
  have months := month_le valid
  have days := day_le valid
  have behind : d.chars ++ rest = fixedDigits 4 d.year.toNat ++
      '-' :: (fixedDigits 2 d.month ++ '-' :: (fixedDigits 2 d.day ++ rest)) := by simp [chars]
  have month :
      (fixedDigits 2 d.month ++ '-' :: (fixedDigits 2 d.day ++ rest)).head? ≠ some 'W' := by
    simp [fixedDigits]
  have first : 1 ≤ d.year.toNat := by omega
  have whole : (⟨d.year.toNat, d.month, d.day⟩ : Date) = d := by
    rw [Int.toNat_of_nonneg (by omega)]
  rw [readDate?, behind, takeDigits_fixedDigits (show d.year.toNat < 10 ^ 4 by omega)]
  simp only [Option.bind_eq_bind, Option.bind_some, List.head?_cons, decide_true, if_true,
    List.drop_succ_cons, List.drop_zero, if_neg month, Bool.not_true, Bool.false_eq_true, if_false,
    takeDigits_fixedDigits (show d.month < 10 ^ 2 by omega),
    takeDigits_fixedDigits (show d.day < 10 ^ 2 by omega)]
  rw [whole, valid, decide_eq_true first]
  rfl

end Date

/-! ## Whole texts -/

namespace DateTime

variable {t : DateTime}

/-- The text of a time reads back as the time. -/
theorem read?_text (time : t.IsTime) : read? (t.text "T").toList = some t := by
  rw [toList_text time, read?, Date.dateLength_chars]
  simp only [Date.readDate?_chars time.date time.year, Option.bind_eq_bind, Option.bind_some,
    List.drop_left' (Date.length_chars t.date), readTime?_text time]
  rw [time.clock]
  rfl

/-- The text of a time has no white space, and no `Z`. -/
theorem solid_text (time : t.IsTime) :
    ∀ c ∈ (t.text "T").toList, isBlank c = false ∧ c ≠ 'Z' := by
  refine forall_text (fun c digit => ⟨isBlank_of_isDigit digit, ne_of_isDigit digit rfl⟩) time ?_
  intro c sign
  fin_cases sign <;> exact ⟨rfl, by decide⟩

theorem text_ne_nil (time : t.IsTime) : (t.text "T").toList ≠ [] := by
  rw [toList_text time]
  simp

end DateTime

namespace Given

theorem raw?_string (s : String) : raw? (.value (.string s)) = ofRequestText s := rfl

theorem instant_of_raw? {g : Given} {i : Instant} (raw : g.raw? = some i)
    (present : i.isPresent = true) : g.instant = .ok i := by
  rw [instant, raw]
  exact if_pos present

variable {t : DateTime} {before behind : String}

/-- White space around the text of a time does not matter. -/
theorem ofRequestText_text (time : t.IsTime) (front : IsBlankText before)
    (back : IsBlankText behind) :
    ofRequestText (before ++ t.text "T" ++ behind) = some t.instant := by
  have solid := DateTime.solid_text time
  have last : (t.text "T").toList.getLast? ≠ some 'Z' := fun zulu =>
    (solid _ (List.mem_of_getLast? zulu)).2 rfl
  rw [ofRequestText, strip_append front back (DateTime.text_ne_nil time) fun c member =>
    (solid c member).1]
  simp only [if_neg last]
  rw [DateTime.read?_text time]
  rfl

/-- A `Z` stands for the offset zero. -/
theorem ofRequestText_zulu (time : t.IsTime) (naive : t.offset = none)
    (front : IsBlankText before) (back : IsBlankText behind) :
    ofRequestText (before ++ (t.text "T" ++ "Z") ++ behind) = some t.instant := by
  have zero : ({ t with offset := some 0 } : DateTime).IsTime :=
    ⟨time.date, time.year, time.clock, fun o given => ⟨0, (Option.some.inj given).symm, by decide⟩⟩
  have letters : (t.text "T" ++ "Z").toList = (t.text "T").toList ++ ['Z'] :=
    String.toList_append
  have word : (t.text "T" ++ "Z").toList ≠ [] := by
    rw [letters]
    exact List.concat_ne_nil _ _
  have solid : ∀ c ∈ (t.text "T" ++ "Z").toList, isBlank c = false := by
    rw [letters, List.forall_mem_append]
    exact ⟨fun c member => (DateTime.solid_text time c member).1,
      List.forall_mem_singleton.2 rfl⟩
  have replaced : (t.text "T").toList ++ ['+', '0', '0', ':', '0', '0'] =
      (({ t with offset := some 0 } : DateTime).text "T").toList := by
    rw [DateTime.toList_text time, DateTime.toList_text zero, naive]
    simp [DateTime.toList_offsetText_zero]
  rw [ofRequestText, strip_append front back word solid, letters]
  simp only [List.getLast?_concat, if_pos, List.dropLast_concat, replaced]
  rw [DateTime.read?_text zero, Option.map_some, DateTime.instant_of_offset (by rw [naive]; rfl)]

end Given

end Time

end Meteo
