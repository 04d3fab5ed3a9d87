/-
# Meteo.Proofs.Response.Xml.Characters -- characters read back

What is written of a text or of the value of an attribute is read as it was
(`text?_escapeText`, `value?_escapeAttribute`): a character that has a meaning in documents
is written as a reference, a reference is read as its character (`decodeFrom_reference`),
and in values the white space is written as references too, so none of it is read as a
space.

Before that the ends of lines are read, and a carriage return in a text is one.  Texts
are escaped in vain against this: the text that is read has the ends of lines of the text
that was written as line feeds (`lineEnds_escapeText`).
-/
import Meteo.Response.Xml.Reading
import Mathlib.Data.List.Basic

namespace Meteo.Response.Xml

set_option autoImplicit false

/-! ## Ends of lines -/

theorem lineEnds_cons {c : Char} (other : c ≠ '\r') (cs : List Char) :
    lineEnds (c :: cs) = c :: lineEnds cs := by
  rw [lineEnds]
  exact fun same => absurd same other

/-- In front of anything but a line feed characters have their own ends of lines. -/
theorem lineEnds_append {cs' : List Char} (other : cs'.head? ≠ some '\n') (cs : List Char) :
    lineEnds (cs ++ cs') = lineEnds cs ++ lineEnds cs' := by
  fun_induction lineEnds cs with
  | case1 => rfl
  | case2 cs ih =>
      rw [List.cons_append, List.cons_append, lineEnds, ih]
      rfl
  | case3 cs apart ih =>
      have apart' : ∀ rest, cs ++ cs' = '\n' :: rest → False := by
        intro rest same
        cases cs with
        | nil => exact other (congrArg List.head? same)
        | cons c cs => exact apart cs (congrArg (· :: cs) (List.cons.inj same).1)
      rw [List.cons_append, lineEnds.eq_3 _ apart', ih]
      rfl
  | case4 c cs apart ih => rw [List.cons_append, lineEnds_cons apart, ih, List.cons_append]

/-- Without carriage returns characters are as they were. -/
theorem lineEnds_append_left {cs : List Char} (none : '\r' ∉ cs) (cs' : List Char) :
    lineEnds (cs ++ cs') = cs ++ lineEnds cs' := by
  induction cs with
  | nil => rfl
  | cons c cs ih =>
      rw [List.mem_cons, not_or] at none
      rw [List.cons_append, lineEnds_cons (Ne.symm none.1), ih none.2, List.cons_append]

theorem lineEnds_of_not_mem {cs : List Char} (none : '\r' ∉ cs) : lineEnds cs = cs := by
  have kept := lineEnds_append_left none []
  rwa [List.append_nil, lineEnds, List.append_nil] at kept

theorem return_not_mem_lineEnds (cs : List Char) : '\r' ∉ lineEnds cs := by
  fun_induction lineEnds cs with
  | case1 => exact List.not_mem_nil
  | case2 cs ih => simpa using ih
  | case3 cs apart ih => simpa using ih
  | case4 c cs apart ih => simpa [Ne.symm apart] using ih

/-- The ends of lines are kept exactly if there is no carriage return. -/
theorem lineEnds_eq_self_iff {cs : List Char} : lineEnds cs = cs ↔ '\r' ∉ cs :=
  ⟨fun same => same ▸ return_not_mem_lineEnds cs, lineEnds_of_not_mem⟩


/-! ## References -/

section Decoding

variable (plain : Char → Char) (cs : List Char)

theorem decodeFrom_plain {c : Char} (other : c ≠ '&') :
    decodeFrom plain none (c :: cs) = (decodeFrom plain none cs).map (plain c :: ·) := by
  rw [decodeFrom, if_neg other]

/-- A reference is read as the character that it stands for. -/
theorem decodeFrom_reference (name : List Char) (ends : ';' ∉ name) {d : Char}
    (stands : reference? name = some d) :
    decodeFrom plain none ('&' :: name ++ ';' :: cs) =
      (decodeFrom plain none cs).map (d :: ·) := by
  have collected (read : List Char) : ∀ rest, read ++ rest = name →
      decodeFrom plain (some read) (rest ++ ';' :: cs) =
        (decodeFrom plain none cs).map (d :: ·) := by
    intro rest
    induction rest generalizing read with
    | nil =>
        intro all
        rw [List.append_nil] at all
        subst all
        rw [List.nil_append, decodeFrom, if_pos rfl, stands]
    | cons c rest ih =>
        intro all
        have other : c ≠ ';' := by
          rintro rfl
          exact ends (all ▸ List.mem_append_right read List.mem_cons_self)
        rw [List.cons_append, decodeFrom, if_neg other]
        exact ih (read ++ [c]) (by rw [List.append_assoc]; exact all)
  rw [List.cons_append, decodeFrom, if_pos rfl]
  exact collected [] name rfl

/-- The character of a text is read back, if it is itself where it is not escaped. -/
theorem decodeFrom_escapeChar {c : Char} (itself : plain c = c) :
    decodeFrom plain none (escapeChar c ++ cs) = (decodeFrom plain none cs).map (c :: ·) := by
  rw [escapeChar.eq_def]
  split
  · exact decodeFrom_reference plain cs ['a', 'm', 'p'] (by decide) rfl
  · exact decodeFrom_reference plain cs ['l', 't'] (by decide) rfl
  · exact decodeFrom_reference plain cs ['g', 't'] (by decide) rfl
  · next other _ _ =>
    exact (decodeFrom_plain plain cs other).trans (by rw [itself])

/-- The character of the value of an attribute is read back, white space too. -/
theorem decodeFrom_escapeAttributeChar (c : Char) :
    decodeFrom spaced none (escapeAttributeChar c ++ cs) =
      (decodeFrom spaced none cs).map (c :: ·) := by
  rw [escapeAttributeChar.eq_def]
  split
  · exact decodeFrom_reference spaced cs ['q', 'u', 'o', 't'] (by decide) rfl
  · exact decodeFrom_reference spaced cs ['#', '1', '3'] (by decide) rfl
  · exact decodeFrom_reference spaced cs ['#', '1', '0'] (by decide) rfl
  · exact decodeFrom_reference spaced cs ['#', '0', '9'] (by decide) rfl
  · next notReturn notFeed notTab =>
    have space : isSpace c = decide (c = ' ') := by
      rw [isSpace, decide_eq_false notTab, decide_eq_false notReturn, decide_eq_false notFeed,
        Bool.or_false, Bool.or_false, Bool.or_false]
    refine decodeFrom_escapeChar spaced cs ?_
    rw [spaced, space]
    split
    · next same => exact (of_decide_eq_true same).symm
    · rfl

end Decoding

/-- Characters that are read back one by one are read back together. -/
theorem decodeFrom_flatMap {plain : Char → Char} {escape : Char → List Char}
    (each : ∀ c cs, decodeFrom plain none (escape c ++ cs) =
      (decodeFrom plain none cs).map (c :: ·)) (cs : List Char) :
    decodeFrom plain none (cs.flatMap escape) = some cs := by
  induction cs with
  | nil => rfl
  | cons c cs ih => rw [List.flatMap_cons, each, ih, Option.map_some]

theorem forall_of_all {p : Char → Prop} [DecidablePred p] {cs : List Char}
    (all : cs.all fun c => p c) {d : Char} (member : d ∈ cs) : p d :=
  of_decide_eq_true (List.all_eq_true.1 all d member)

theorem ne_of_mem_escapeChar {c d : Char} (member : d ∈ escapeChar c) : d ≠ '<' ∧ d ≠ '>' := by
  rw [escapeChar.eq_def] at member
  split at member
  case h_4 notAmpersand notLess notGreater =>
    rw [List.mem_singleton.1 member]
    exact ⟨notLess, notGreater⟩
  all_goals exact forall_of_all (p := fun d => d ≠ '<' ∧ d ≠ '>') (by decide) member

theorem ne_of_mem_escapeAttributeChar {c d : Char} (member : d ∈ escapeAttributeChar c) :
    d ≠ '<' ∧ d ≠ '"' := by
  rw [escapeAttributeChar.eq_def] at member
  split at member
  case h_5 notQuote _ _ _ =>
    refine ⟨(ne_of_mem_escapeChar member).1, ?_⟩
    rw [escapeChar.eq_def] at member
    split at member
    case h_4 =>
      rw [List.mem_singleton.1 member]
      exact notQuote
    all_goals exact forall_of_all (p := fun d => d ≠ '"') (by decide) member
  all_goals exact forall_of_all (p := fun d => d ≠ '<' ∧ d ≠ '"') (by decide) member

theorem endsSection_of_not_mem {cs : List Char} (none : '>' ∉ cs) : endsSection cs = false := by
  induction cs with
  | nil => rfl
  | cons c cs ih =>
      rw [List.mem_cons, not_or] at none
      rw [endsSection, ih none.2, Bool.or_false, Bool.eq_false_iff]
      intro marked
      have marked := (List.isPrefixOf_iff_prefix.1 marked).subset
      have first : '>' ∈ c :: cs := marked (by simp)
      exact (List.mem_cons.1 first).elim none.1 none.2

theorem toList_escapeText (s : String) : (escapeText s).toList = s.toList.flatMap escapeChar :=
  String.toList_ofList

theorem toList_escapeAttribute (s : String) :
    (escapeAttribute s).toList = s.toList.flatMap escapeAttributeChar :=
  String.toList_ofList

theorem ne_of_mem_escapeText {s : String} {d : Char} (member : d ∈ (escapeText s).toList) :
    d ≠ '<' ∧ d ≠ '>' := by
  rw [toList_escapeText] at member
  obtain ⟨c, -, part⟩ := List.mem_flatMap.1 member
  exact ne_of_mem_escapeChar part

theorem ne_of_mem_escapeAttribute {s : String} {d : Char}
    (member : d ∈ (escapeAttribute s).toList) : d ≠ '<' ∧ d ≠ '"' := by
  rw [toList_escapeAttribute] at member
  obtain ⟨c, -, part⟩ := List.mem_flatMap.1 member
  exact ne_of_mem_escapeAttributeChar part

/-- A text that has been written is read back. -/
theorem text?_escapeText (s : String) : text? (escapeText s).toList = some s := by
  have open' : endsSection (escapeText s).toList = false :=
    endsSection_of_not_mem fun member => (ne_of_mem_escapeText member).2 rfl
  rw [text?, open', if_neg Bool.false_ne_true, toList_escapeText,
    decodeFrom_flatMap fun c cs => decodeFrom_escapeChar id cs rfl, Option.map_some,
    String.ofList_toList]

/-- The value of an attribute that has been written is read back. -/
theorem value?_escapeAttribute (s : String) : value? (escapeAttribute s).toList = some s := by
  have noBracket : (escapeAttribute s).toList.contains '<' = false := by
    rw [Bool.eq_false_iff, Ne, List.contains_iff_mem]
    exact fun member => (ne_of_mem_escapeAttribute member).1 rfl
  rw [value?, noBracket, if_neg Bool.false_ne_true, toList_escapeAttribute,
    decodeFrom_flatMap fun c cs => decodeFrom_escapeAttributeChar cs c, Option.map_some,
    String.ofList_toList]

/-! ## Texts and ends of lines -/

theorem eq_of_mem_escapeChar {c d : Char} (ends : d = '\r' ∨ d = '\n')
    (member : d ∈ escapeChar c) : d = c := by
  rw [escapeChar.eq_def] at member
  split at member
  case h_4 => exact List.mem_singleton.1 member
  all_goals rcases ends with rfl | rfl <;> revert member <;> decide

theorem escapeChar_ne_nil (c : Char) : escapeChar c ≠ [] := by
  rw [escapeChar.eq_def]
  split <;> exact List.cons_ne_nil _ _

/-- Escaping leaves the ends of lines where they are. -/
theorem lineEnds_flatMap_escapeChar (cs : List Char) :
    lineEnds (cs.flatMap escapeChar) = (lineEnds cs).flatMap escapeChar := by
  fun_induction lineEnds cs with
  | case1 => rfl
  | case2 cs ih => exact congrArg ('\n' :: ·) ih
  | case3 cs apart ih =>
      have apart' : ∀ rest, cs.flatMap escapeChar = '\n' :: rest → False := by
        intro rest same
        cases cs with
        | nil => cases same
        | cons c cs =>
            have first : '\n' ∈ escapeChar c := by
              rw [List.flatMap_cons] at same
              cases written : escapeChar c with
              | nil => exact absurd written (escapeChar_ne_nil c)
              | cons d ds =>
                  rw [written] at same
                  exact (List.cons.inj same).1 ▸ List.mem_cons_self
            exact apart cs (congrArg (· :: cs) (eq_of_mem_escapeChar (.inr rfl) first).symm)
      exact (lineEnds.eq_3 _ apart').trans (congrArg ('\n' :: ·) ih)
  | case4 c cs apart ih =>
      have none : '\r' ∉ escapeChar c := fun member =>
        apart (eq_of_mem_escapeChar (.inl rfl) member).symm
      rw [List.flatMap_cons, List.flatMap_cons, lineEnds_append_left none, ih]

/-- A text with the ends of its lines as line feeds. -/
def withLineFeeds (s : String) : String := String.ofList (lineEnds s.toList)

/-- A text that stands in front of a tag is read with line feeds. -/
theorem lineEnds_escapeText (s : String) {rest : List Char} (other : rest.head? ≠ some '\n') :
    lineEnds ((escapeText s).toList ++ rest) =
      (escapeText (withLineFeeds s)).toList ++ lineEnds rest := by
  rw [lineEnds_append other, toList_escapeText, toList_escapeText, lineEnds_flatMap_escapeChar,
    withLineFeeds, String.toList_ofList]

theorem lineEnds_eq_nil_iff {cs : List Char} : lineEnds cs = [] ↔ cs = [] := by
  fun_cases lineEnds cs <;> simp

theorem isEmpty_withLineFeeds (s : String) : (withLineFeeds s).isEmpty = s.isEmpty := by
  rw [Bool.eq_iff_iff, String.isEmpty_iff, String.isEmpty_iff, withLineFeeds,
    ← String.toList_eq_nil_iff, String.toList_ofList, lineEnds_eq_nil_iff, String.toList_eq_nil_iff]

theorem withLineFeeds_eq_self_iff {s : String} : withLineFeeds s = s ↔ '\r' ∉ s.toList := by
  rw [withLineFeeds, ← lineEnds_eq_self_iff]
  exact ⟨fun same => String.toList_ofList.symm.trans (congrArg String.toList same),
    fun same => (congrArg String.ofList same).trans String.ofList_toList⟩

/-- There is no carriage return in the value of an attribute as it is written. -/
theorem return_not_mem_escapeAttribute (s : String) : '\r' ∉ (escapeAttribute s).toList := by
  rw [toList_escapeAttribute]
  intro member
  obtain ⟨c, -, part⟩ := List.mem_flatMap.1 member
  rw [escapeAttributeChar.eq_def] at part
  split at part
  case h_5 _ notReturn _ _ => exact notReturn (eq_of_mem_escapeChar (.inl rfl) part).symm
  all_goals revert part; decide

/-! ## Allowed characters -/

theorem allowed_append (s t : String) : allowed (s ++ t) = (allowed s && allowed t) := by
  rw [allowed, String.toList_append, List.all_append, allowed, allowed]

/-- Names are made of characters that are allowed. -/
theorem isChar_of_isNameChar {c : Char} (part : isNameChar c) : isChar c := by
  have bounds : ∀ range ∈ nameStarts ++ nameParts,
      0x20 ≤ range.1 ∧ (range.2 < 0xfffe ∨ 0xffff < range.1) := by decide
  obtain ⟨range, listed, inside⟩ : ∃ range ∈ nameStarts ++ nameParts,
      range.1 ≤ c.toNat ∧ c.toNat ≤ range.2 := by
    simpa only [isNameChar, among, ← List.any_append, List.any_eq_true, Bool.and_eq_true,
      decide_eq_true_eq] using part
  obtain ⟨least, apart⟩ := bounds range listed
  have printed : ' ' ≤ c := by
    rw [Char.le_def, UInt32.le_iff_toNat_le]
    exact Nat.le_trans least inside.1
  have first : c ≠ '\ufffe' := by
    rintro rfl
    have number : '\ufffe'.toNat = 0xfffe := rfl
    omega
  have second : c ≠ '\uffff' := by
    rintro rfl
    have number : '\uffff'.toNat = 0xffff := rfl
    omega
  rw [isChar, decide_eq_true printed, decide_eq_true first, decide_eq_true second]
  simp

theorem all_isChar_escapeChar (c : Char) : (escapeChar c).all isChar = isChar c := by
  rw [escapeChar.eq_def]
  split
  case h_4 => exact Bool.and_true _
  all_goals rfl

theorem all_isChar_escapeAttributeChar (c : Char) :
    (escapeAttributeChar c).all isChar = isChar c := by
  rw [escapeAttributeChar.eq_def]
  split
  case h_5 => exact all_isChar_escapeChar c
  all_goals rfl

/-- Escaping neither hides a character that is not allowed nor brings one. -/
theorem allowed_escapeText (s : String) : allowed (escapeText s) = allowed s := by
  simp only [allowed, toList_escapeText, List.all_flatMap, all_isChar_escapeChar]

theorem allowed_escapeAttribute (s : String) : allowed (escapeAttribute s) = allowed s := by
  simp only [allowed, toList_escapeAttribute, List.all_flatMap, all_isChar_escapeAttributeChar]

end Meteo.Response.Xml
