/-
# Meteo.Proofs.Response.Csv -- records read back

What `Csv.record` writes `Csv.records` reads: whatever characters the fields hold,
each record comes back with its own fields (`records_join_record`).  So it does under every
rule for quotes that puts them around all fields with a comma, a quote or the end of a line
(`records_join_recordBy`), such as one that also minds carriage returns.

A reader before a field passes it and stands behind its last character with the
characters of the field in hand (`ReadAs`), wherever that is outside quotes; from there
a comma ends the field and the end of a line the record (`readFrom_comma`,
`readFrom_newline`).  Both hold whatever follows, so fields and records are read one after
the other.
-/
import Mathlib.Data.List.Forall2
import Meteo.Response.Csv

namespace Meteo.Response.Csv

set_option autoImplicit false

/-! ## The end of a field -/

section Reading

variable (field : List Char) (done : List String) (rest : List Char)

theorem readFrom_comma {place : Place} (outside : place ≠ .inQuotes) :
    readFrom place field done (',' :: rest) =
      readFrom .atStart [] (String.ofList field.reverse :: done) rest := by
  cases place with
  | inQuotes => exact absurd rfl outside
  | _ => simp [readFrom]

theorem readFrom_newline {place : Place} (outside : place ≠ .inQuotes) :
    readFrom place field done ('\n' :: rest) =
      (String.ofList field.reverse :: done).reverse :: readFrom .atStart [] [] rest := by
  cases place with
  | inQuotes => exact absurd rfl outside
  | _ => simp [readFrom]

end Reading

/-! ## One field -/

/-- Between quotes every character is taken over, of two quotes one. -/
theorem readFrom_doubleQuotes (cs field : List Char) (done : List String) (rest : List Char) :
    readFrom .inQuotes field done (doubleQuotes cs ++ '"' :: rest) =
      readFrom .afterQuote (cs.reverse ++ field) done rest := by
  induction cs generalizing field with
  | nil => simp [doubleQuotes, readFrom]
  | cons c cs ih =>
      have later := ih (c :: field)
      rw [doubleQuotes] at later ⊢
      rw [List.flatMap_cons, List.reverse_cons, List.append_assoc, List.append_assoc]
      by_cases quote : c = '"'
      · subst quote
        simpa [readFrom] using later
      · rw [if_neg quote, List.singleton_append, readFrom, if_neg quote]
        exact later

/-- A text without a comma or the end of a line. -/
def Plain (cs : List Char) : Prop := ∀ c ∈ cs, c ≠ ',' ∧ c ≠ '\n'

instance (cs : List Char) : Decidable (Plain cs) := List.decidableBAll ..

theorem plain_cons_iff {c : Char} {cs : List Char} :
    Plain (c :: cs) ↔ (c ≠ ',' ∧ c ≠ '\n') ∧ Plain cs :=
  List.forall_mem_cons

theorem plain_append_iff {cs ds : List Char} : Plain (cs ++ ds) ↔ Plain cs ∧ Plain ds :=
  List.forall_mem_append

/-- Without quotes around it a field is taken over as it is. -/
theorem readFrom_plain {cs : List Char} (plain : Plain cs)
    (field : List Char) (done : List String) (rest : List Char) :
    readFrom .plain field done (cs ++ rest) = readFrom .plain (cs.reverse ++ field) done rest := by
  induction cs generalizing field with
  | nil => rfl
  | cons c cs ih =>
      obtain ⟨⟨comma, newline⟩, others⟩ := plain_cons_iff.1 plain
      rw [List.cons_append, readFrom, if_neg comma, if_neg newline, ih others]
      simp

/-- A text is read as a field: behind it the reader stands outside quotes, with the field in
hand. -/
def ReadAs (text field : List Char) : Prop :=
  ∀ (done : List String) (rest : List Char), ∃ place, place ≠ .inQuotes ∧
    readFrom .atStart [] done (text ++ rest) = readFrom place field.reverse done rest

/-- A text that needs no quotes: it begins with none, and has no separator. -/
structure Bare (cs : List Char) : Prop where
  unquoted : cs.head? ≠ some '"'
  plain : Plain cs

instance (cs : List Char) : Decidable (Bare cs) :=
  decidable_of_iff (cs.head? ≠ some '"' ∧ Plain cs)
    ⟨fun h => ⟨h.1, h.2⟩, fun h => ⟨h.unquoted, h.plain⟩⟩

theorem Bare.readAs {cs : List Char} (bare : Bare cs) : ReadAs cs cs := by
  intro done rest
  cases cs with
  | nil => exact ⟨.atStart, by decide, rfl⟩
  | cons c cs =>
      obtain ⟨⟨comma, newline⟩, others⟩ := plain_cons_iff.1 bare.plain
      have quote : c ≠ '"' := fun same => bare.unquoted (congrArg some same)
      have later := readFrom_plain others [c] done rest
      refine ⟨.plain, by decide, ?_⟩
      rw [List.cons_append, readFrom, if_neg quote, if_neg comma, if_neg newline, later]
      simp

theorem readAs_quoted (cs : List Char) : ReadAs ('"' :: doubleQuotes cs ++ ['"']) cs := by
  intro done rest
  have quoted := readFrom_doubleQuotes cs [] done rest
  rw [List.append_nil] at quoted
  exact ⟨.afterQuote, by decide, by simpa [readFrom] using quoted⟩

/-! ## Fields with commas between them -/

theorem joined_cons_cons (t u : String) (ts : List String) (rest : List Char) :
    (joined (t :: u :: ts)).toList ++ rest =
      t.toList ++ ',' :: ((joined (u :: ts)).toList ++ rest) := by
  simp [joined, String.intercalate_cons_cons]

theorem joined_singleton (t : String) (rest : List Char) :
    (joined [t]).toList ++ rest = t.toList ++ '\n' :: rest := by
  simp [joined]

/-- Texts with commas between them are read as the fields that they are read as. -/
theorem readFrom_joined {t f : String} {ts fs : List String} (first : ReadAs t.toList f.toList)
    (others : List.Forall₂ (fun t f => ReadAs t.toList f.toList) ts fs) (done : List String)
    (rest : List Char) :
    readFrom .atStart [] done ((joined (t :: ts)).toList ++ rest) =
      (done.reverse ++ f :: fs) :: readFrom .atStart [] [] rest := by
  induction others generalizing t f done with
  | nil =>
      obtain ⟨place, outside, read⟩ := first done ('\n' :: rest)
      rw [joined_singleton, read, readFrom_newline _ _ _ outside, List.reverse_reverse,
        String.ofList_toList, List.reverse_cons]
  | @cons u g ts fs second others ih =>
      obtain ⟨place, outside, read⟩ := first done (',' :: ((joined (u :: ts)).toList ++ rest))
      rw [joined_cons_cons, read, readFrom_comma _ _ _ outside, List.reverse_reverse,
        String.ofList_toList, ih second, List.reverse_cons, List.append_assoc]
      rfl

/-! ## Rules for quotes -/

/-- A field as it is written where some characters make quotes necessary. -/
def fieldBy (marks : Char → Bool) (s : String) : String :=
  String.ofList (if s.toList.any marks then '"' :: doubleQuotes s.toList ++ ['"'] else s.toList)

/-- A record as it is written where some characters make quotes necessary. -/
def recordBy (marks : Char → Bool) (fields : List String) : String :=
  joined (fields.map (fieldBy marks))

section Rule

variable {marks : Char → Bool} (covers : ∀ c, isSpecial c → marks c)

include covers

theorem readAs_fieldBy (s : String) : ReadAs (fieldBy marks s).toList s.toList := by
  rw [fieldBy, String.toList_ofList]
  split
  · exact readAs_quoted s.toList
  · next unmarked =>
    have plain : ∀ c ∈ s.toList, isSpecial c = false := by
      intro c member
      rw [List.any_eq_true, not_exists] at unmarked
      exact Bool.eq_false_iff.2 fun special => unmarked c ⟨member, covers c special⟩
    simp only [isSpecial, Bool.or_eq_false_iff, decide_eq_false_iff_not] at plain
    refine Bare.readAs ⟨fun first => ?_, fun c member => ?_⟩
    · exact (plain '"' (List.mem_of_mem_head? first)).1.2 rfl
    · exact ⟨(plain c member).1.1, (plain c member).2⟩

/-- Records are read back one after the other, each of which has one field at least. -/
theorem records_join_recordBy {rows : List (List String)} (filled : ∀ fs ∈ rows, fs ≠ []) :
    records (String.join (rows.map (recordBy marks))) = rows := by
  rw [records]
  induction rows with
  | nil => rfl
  | cons fs rows ih =>
      have later := ih fun gs member => filled gs (List.mem_cons_of_mem _ member)
      cases fs with
      | nil => exact absurd rfl (filled [] List.mem_cons_self)
      | cons f fs =>
          have others : List.Forall₂ (fun t f => ReadAs t.toList f.toList)
              (fs.map (fieldBy marks)) fs := by
            rw [List.forall₂_map_left_iff, List.forall₂_same]
            exact fun g _ => readAs_fieldBy covers g
          rw [List.map_cons, String.join_cons, String.toList_append, recordBy, List.map_cons,
            readFrom_joined (readAs_fieldBy covers f) others, later]
          rfl

end Rule

/-- Records are read back as they are written. -/
theorem records_join_record {rows : List (List String)} (filled : ∀ fs ∈ rows, fs ≠ []) :
    records (String.join (rows.map record)) = rows :=
  records_join_recordBy (fun _ special => special) filled

end Meteo.Response.Csv
