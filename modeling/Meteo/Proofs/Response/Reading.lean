/-
# Meteo.Proofs.Response.Reading -- what a reader finds in a CSV response

Observations are written as records, with quotes around the fields that need them, and a
reader finds every field of every observation again (`records_observing`).  That does not
depend on the rule for quotes, as long as it minds commas, quotes and line ends.

The header is written with its labels as they are.  A reader finds the labels if they need
no quotes, and only then (`records_joined_iff`): a label with a separator in it is read up
to the separator, and one that begins with quotes is read with fewer of them.  So a response
is a table, with as many fields in its header as in its other records, if the names of its
variables begin with no quote and neither they nor their units have a separator
(`respond_csv_reads`).
-/
import Meteo.Proofs.Response.Columns

namespace Meteo.Response

set_option autoImplicit false

/-! ## Observations -/

/-- The text of rows where some characters make quotes necessary. -/
def textBy (marks : Char → Bool) (columns : List String) (xs : List Row) : String :=
  String.join (xs.map fun x => Csv.recordBy marks (x.fields columns))

/-- All values of observations are strings, or missing. -/
def OfStrings (ps : List (Station × Observation)) : Prop :=
  ∀ p ∈ ps, ∀ name v, p.2.values.get? name = some v → v = .null ∨ ∃ s, v = .string s

theorem OfStrings.allTold {ps : List (Station × Observation)} (strings : OfStrings ps)
    (columns : List String) : AllTold columns ps := by
  intro p member
  rw [hasTexts, List.all_eq_true]
  intro name _
  cases observed : p.2.values.get? name with
  | none => rfl
  | some v =>
      rcases strings p member name v observed with rfl | ⟨s, rfl⟩ <;> rfl

/-- What a writer appends for observations is read back as one record for each of them, in order,
with time, name, coordinates and the values under the columns; so is what it would append under any
rule for quotes that minds commas, quotes and line ends.  All observations are written if
their values have texts, as strings do, and otherwise those before the first one with a value that
has none. -/
theorem records_observing {w : Writer} (csv : w.format = .csv)
    (ps : List (Station × Observation)) :
    let a := w.performAll (observing ps)
    let qs := told w.columns ps
    a.result = verdict w.columns ps ∧ (OfStrings ps → AllTold w.columns ps) ∧
      (AllTold w.columns ps → qs = ps) ∧
      a.writer.columns = w.columns ∧
      a.writer.out = w.out ++ textBy Csv.isSpecial w.columns (rowsOf qs) ∧
      ∀ marks : Char → Bool, (∀ c, Csv.isSpecial c → marks c) →
        Csv.records (textBy marks w.columns (rowsOf qs)) =
          qs.map fun p =>
            [p.2.time.isoText, p.1.name, Writer.coordinateText p.1.lat,
              Writer.coordinateText p.1.lon] ++ w.columns.map (reported p.2) := by
  intro a qs
  have made : a = ⟨w.withRecords qs, verdict w.columns ps⟩ :=
    Writer.performAll_observing_csv csv ps
  rw [made]
  refine ⟨rfl, fun strings => strings.allTold _, told_eq_self, rfl, rfl, fun marks covers => ?_⟩
  have filled : ∀ fs ∈ (rowsOf qs).map (Row.fields w.columns), fs ≠ [] := by
    intro fs member
    obtain ⟨x, -, rfl⟩ := List.mem_map.1 member
    exact List.cons_ne_nil _ _
  have read := Csv.records_join_recordBy covers filled
  rw [List.map_map] at read
  rw [textBy]
  exact read.trans (List.map_map ..)

/-- Names and values with everything in them that separates fields and records. -/
def awkward : List (Station × Observation) :=
  [({ name := "A, \"B\"\r\nC", lat := 1.0, lon := 2.0, observations := [] },
      ⟨⟨0⟩, .ofList [("remark", .string "\"rain\",\r\nwind\r"), ("temp", .null)]⟩),
    ({ name := "\n", lat := 3.0, lon := 4.0, observations := [] },
      ⟨⟨10000000000⟩, .ofList [("temp", .int 7)]⟩)]

theorem records_observing_awkward :
    let w : Writer := { format := .csv, columns := ["remark", "temp"] }
    w.format = .csv ∧ (w.performAll (observing awkward)).result = .ok () ∧
      Csv.records (w.performAll (observing awkward)).writer.out =
        [["1970-01-01T00:00:00Z", "A, \"B\"\r\nC", "1.000", "2.000", "\"rain\",\r\nwind\r", ""],
          ["1970-01-01T00:00:10Z", "\n", "3.000", "4.000", "", "7"]] := by
  intro w
  obtain ⟨result, -, every, -, out, read⟩ := records_observing (w := w) rfl awkward
  have all : AllTold w.columns awkward := by decide +kernel
  have fields := read Csv.isSpecial fun _ special => special
  rw [every all] at out fields
  refine ⟨rfl, result.trans (verdict_eq_ok_iff.2 all), ?_⟩
  rw [out]
  exact (congrArg Csv.records String.empty_append).trans (fields.trans (by decide +kernel))

/-! ## Texts that need no quotes -/

namespace Csv

/-- The first record begins with some fields, and goes on with one that begins with some
characters. -/
def BeginsWith (done : List String) (front : List Char) (read : List (List String)) : Prop :=
  ∃ behind others more, read = (done ++ String.ofList (front ++ behind) :: others) :: more

theorem BeginsWith.ended {done : List String} {front front' : List Char}
    {read : List (List String)} (h : BeginsWith (done ++ [String.ofList front]) front' read) :
    BeginsWith done front read := by
  obtain ⟨behind, others, more, rfl⟩ := h
  exact ⟨[], String.ofList (front' ++ behind) :: others, more, by simp⟩

theorem BeginsWith.shorter {done : List String} {front behind : List Char}
    {read : List (List String)} (h : BeginsWith done (front ++ behind) read) :
    BeginsWith done front read := by
  obtain ⟨behind', others, more, rfl⟩ := h
  exact ⟨behind ++ behind', others, more, by rw [List.append_assoc]⟩

/-- What a reader has in hand it keeps, unless it stands in front of a record. -/
theorem beginsWith_readFrom (cs : List Char) (place : Place) (field : List Char)
    (done : List String) (inside : place = .atStart → done ≠ []) :
    BeginsWith done.reverse field.reverse (readFrom place field done cs) := by
  induction cs generalizing place field done with
  | nil =>
      refine ⟨[], [], [], ?_⟩
      have some : (decide (place = .atStart) && done.isEmpty) = false := by
        cases done with
        | nil => simpa using fun start => inside start rfl
        | cons d done => exact Bool.and_false _
      rw [readFrom, some]
      simp
  | cons c cs ih =>
      have ended : BeginsWith done.reverse field.reverse
          (readFrom .atStart [] (String.ofList field.reverse :: done) cs) := by
        have later := ih .atStart [] (String.ofList field.reverse :: done)
          fun _ => List.cons_ne_nil _ _
        rw [List.reverse_cons] at later
        exact later.ended
      have same {place : Place} (later : place ≠ .atStart) :
          BeginsWith done.reverse field.reverse (readFrom place field done cs) :=
        ih place field done fun start => absurd start later
      have grown {place : Place} (later : place ≠ .atStart) (d : Char) :
          BeginsWith done.reverse field.reverse (readFrom place (d :: field) done cs) := by
        have longer := ih place (d :: field) done fun start => absurd start later
        rw [List.reverse_cons] at longer
        exact longer.shorter
      have record : BeginsWith done.reverse field.reverse
          ((String.ofList field.reverse :: done).reverse :: readFrom .atStart [] [] cs) :=
        ⟨[], [], readFrom .atStart [] [] cs, by simp⟩
      cases place <;> simp only [readFrom] <;> split_ifs
      all_goals first
        | exact ended
        | exact record
        | exact same (by decide)
        | exact grown (by decide) _

/-- A separator, which ends a field outside quotes. -/
def IsSeparator (c : Char) : Prop := c = ',' ∨ c = '\n'

instance (c : Char) : Decidable (IsSeparator c) := inferInstanceAs (Decidable (_ ∨ _))

theorem readFrom_separator (place : Place) (outside : place ≠ .inQuotes) {c : Char}
    (separator : IsSeparator c) (field : List Char) (done : List String) (rest : List Char) :
    ∃ others more, readFrom place field done (c :: rest) =
      (done.reverse ++ String.ofList field.reverse :: others) :: more := by
  rcases separator with rfl | rfl
  · obtain ⟨behind, others, more, read⟩ := beginsWith_readFrom rest .atStart []
      (String.ofList field.reverse :: done) fun _ => List.cons_ne_nil _ _
    refine ⟨String.ofList behind :: others, more, ?_⟩
    rw [readFrom_comma _ _ _ outside]
    simpa using read
  · refine ⟨[], readFrom .atStart [] [] rest, ?_⟩
    rw [readFrom_newline _ _ _ outside, List.reverse_cons]

/-- Inside quotes one of every two quotes is taken over. -/
theorem readFrom_pairs (i j : Nat) (done : List String) (rest : List Char) :
    readFrom .inQuotes (List.replicate j '"') done (List.replicate (2 * i) '"' ++ rest) =
      readFrom .inQuotes (List.replicate (j + i) '"') done rest := by
  induction i generalizing j with
  | zero => rfl
  | succ i ih =>
      rw [Nat.mul_succ, List.replicate_succ, List.replicate_succ, List.cons_append,
        List.cons_append, readFrom, if_pos rfl, readFrom, if_pos rfl, ← List.replicate_succ, ih,
        Nat.add_right_comm, Nat.add_assoc]

/-- Quotes that follow an opening quote are read as half of them at most. -/
theorem readFrom_quotes (k : Nat) (done : List String) {c : Char} (other : c ≠ '"')
    (rest : List Char) :
    ∃ j behind others more, j ≤ k ∧ behind.head? ≠ some '"' ∧
      readFrom .inQuotes [] done (List.replicate k '"' ++ c :: rest) =
        (done.reverse ++ String.ofList (List.replicate j '"' ++ behind) :: others) :: more := by
  have taken (place : Place) (later : place ≠ .atStart) (j : Nat) :
      ∃ behind others more, behind.head? ≠ some '"' ∧
        readFrom place (c :: List.replicate j '"') done rest =
          (done.reverse ++ String.ofList (List.replicate j '"' ++ behind) :: others) :: more := by
    obtain ⟨behind, others, more, read⟩ :=
      beginsWith_readFrom rest place (c :: List.replicate j '"') done
        fun start => absurd start later
    exact ⟨c :: behind, others, more, by simpa using other, by simpa using read⟩
  obtain ⟨j, rfl | rfl⟩ : ∃ j, k = 2 * j ∨ k = 2 * j + 1 := ⟨k / 2, by omega⟩
  · obtain ⟨behind, others, more, unquoted, read⟩ := taken .inQuotes (by decide) j
    refine ⟨j, behind, others, more, by omega, unquoted, ?_⟩
    have pairs := readFrom_pairs j 0 done (c :: rest)
    rw [List.replicate_zero, Nat.zero_add] at pairs
    rw [pairs, readFrom, if_neg other, read]
  · have pairs := readFrom_pairs j 0 done ('"' :: c :: rest)
    rw [List.replicate_zero, Nat.zero_add, readFrom, if_pos rfl] at pairs
    rw [List.replicate_succ', List.append_assoc, List.singleton_append, pairs]
    by_cases separator : IsSeparator c
    · obtain ⟨others, more, read⟩ := readFrom_separator .afterQuote (by decide) separator
        (List.replicate j '"') done rest
      refine ⟨j, [], others, more, by omega, (Option.some_ne_none _).symm, ?_⟩
      rw [read, List.reverse_replicate, List.append_nil]
    · obtain ⟨comma, newline⟩ := not_or.1 separator
      obtain ⟨behind, others, more, unquoted, read⟩ := taken .plain (by decide) j
      refine ⟨j, behind, others, more, by omega, unquoted, ?_⟩
      rw [readFrom, if_neg other, if_neg comma, if_neg newline, read]

/-- A list begins with some quotes and goes on without one. -/
theorem exists_quotes (cs : List Char) :
    ∃ k behind, cs = List.replicate k '"' ++ behind ∧ behind.head? ≠ some '"' := by
  induction cs with
  | nil => exact ⟨0, [], rfl, nofun⟩
  | cons c cs ih =>
      by_cases quote : c = '"'
      · obtain ⟨k, behind, split, unquoted⟩ := ih
        exact ⟨k + 1, behind, by rw [quote, split]; rfl, unquoted⟩
      · exact ⟨0, c :: cs, rfl, by simpa using quote⟩

/-- Different numbers of quotes at the beginning make different texts. -/
theorem quotes_ne {j k : Nat} (fewer : j < k) {behind behind' : List Char}
    (unquoted : behind.head? ≠ some '"') :
    List.replicate j '"' ++ behind ≠ List.replicate k '"' ++ behind' := by
  obtain ⟨d, rfl⟩ := Nat.exists_eq_add_of_lt fewer
  intro same
  rw [Nat.add_assoc, ← List.replicate_append_replicate, List.append_assoc,
    List.append_cancel_left_eq] at same
  rw [same, List.replicate_succ] at unquoted
  exact unquoted rfl

/-- A text has no separator, or a first one. -/
theorem plain_or_exists_separator (cs : List Char) :
    Plain cs ∨ ∃ front c behind, cs = front ++ c :: behind ∧ Plain front ∧ IsSeparator c := by
  induction cs with
  | nil => exact .inl nofun
  | cons c cs ih =>
      by_cases separator : IsSeparator c
      · exact .inr ⟨[], c, cs, rfl, nofun, separator⟩
      · have first := not_or.1 separator
        rcases ih with plain | ⟨front, d, behind, rfl, plain, found⟩
        · exact .inl (plain_cons_iff.2 ⟨first, plain⟩)
        · exact .inr ⟨c :: front, d, behind, rfl, plain_cons_iff.2 ⟨first, plain⟩, found⟩

theorem field_eq_of_read {done : List String} {f g : String} {others others' : List String}
    {more more' : List (List String)}
    (same : (done.reverse ++ f :: others) :: more = (done.reverse ++ g :: others') :: more') :
    f = g :=
  (List.cons.inj (List.append_cancel_left (List.cons.inj same).1)).1

section Read

variable {cs rest : List Char} {done others : List String} {more : List (List String)}
  {separator : Char} (ends : IsSeparator separator)
  (read : readFrom .atStart [] done (cs ++ separator :: rest) =
    (done.reverse ++ String.ofList cs :: others) :: more)

include read

include ends in
/-- A text that is read as itself in front of a separator begins with no quote: the reader would
take over fewer quotes than stand there. -/
theorem unquoted_of_read : cs.head? ≠ some '"' := by
  intro first
  obtain ⟨inner, rfl⟩ : ∃ inner, cs = '"' :: inner := by
    cases cs with
    | nil => cases first
    | cons c inner => exact ⟨inner, by rw [Option.some.inj first]⟩
  obtain ⟨k, behind, rfl, closed⟩ := exists_quotes inner
  obtain ⟨c, rest', text, other⟩ :
      ∃ c rest', behind ++ separator :: rest = c :: rest' ∧ c ≠ '"' := by
    cases behind with
    | nil => exact ⟨separator, rest, rfl, by rcases ends with rfl | rfl <;> decide⟩
    | cons c behind => exact ⟨c, _, rfl, by simpa using closed⟩
  obtain ⟨j, behind', others', more', fewer, unquoted, found⟩ := readFrom_quotes k done other rest'
  rw [List.cons_append, readFrom, if_pos rfl, List.append_assoc, text, found] at read
  have same := String.ofList_injective (field_eq_of_read read)
  exact quotes_ne (Nat.lt_succ_of_le fewer) unquoted same

/-- If it begins with no quote it has no separator: the reader would stop there. -/
theorem plain_of_read (unquoted : cs.head? ≠ some '"') : Plain cs := by
  rcases plain_or_exists_separator cs with plain | ⟨front, c, behind, rfl, plain, found⟩
  · exact plain
  · have bare : Bare front := by
      refine ⟨fun first => unquoted ?_, plain⟩
      rw [List.head?_append, first]
      rfl
    obtain ⟨place, outside, passed⟩ := bare.readAs done (c :: (behind ++ separator :: rest))
    obtain ⟨others', more', ended⟩ :=
      readFrom_separator place outside found front.reverse done (behind ++ separator :: rest)
    rw [List.append_assoc, List.cons_append, passed, ended, List.reverse_reverse] at read
    have same := congrArg List.length (String.ofList_injective (field_eq_of_read read))
    rw [List.length_append, List.length_cons] at same
    omega

end Read

/-- A text in front of a separator that is read as itself needs no quotes. -/
theorem bare_of_read {text : String} {rest : List Char} {done others : List String}
    {more : List (List String)} {separator : Char} (ends : IsSeparator separator)
    (read : readFrom .atStart [] done (text.toList ++ separator :: rest) =
      (done.reverse ++ text :: others) :: more) : Bare text.toList := by
  rw [← String.ofList_toList (s := text), String.toList_ofList] at read
  have unquoted := unquoted_of_read ends read
  exact ⟨unquoted, plain_of_read read unquoted⟩

/-- Labels are found again in a header that is written with them as they are, exactly if none of
them needs quotes. -/
theorem readFrom_joined_iff (l : String) (ls done : List String) (rest : List Char) :
    readFrom .atStart [] done ((joined (l :: ls)).toList ++ rest) =
        (done.reverse ++ l :: ls) :: readFrom .atStart [] [] rest ↔
      ∀ m ∈ l :: ls, Bare m.toList := by
  constructor
  · intro read
    induction ls generalizing l done with
    | nil =>
        have first : Bare l.toList := by
          rw [joined_singleton] at read
          exact bare_of_read (.inr rfl) read
        exact List.forall_mem_singleton.2 first
    | cons m ls ih =>
        rw [joined_cons_cons] at read
        have first : Bare l.toList := bare_of_read (.inl rfl) read
        obtain ⟨place, outside, passed⟩ :=
          first.readAs done (',' :: ((joined (m :: ls)).toList ++ rest))
        rw [passed, readFrom_comma _ _ _ outside, List.reverse_reverse,
          String.ofList_toList] at read
        refine List.forall_mem_cons.2 ⟨first, ih m (l :: done) (read.trans ?_)⟩
        rw [List.reverse_cons, List.append_assoc]
        rfl
  · intro bare
    refine readFrom_joined (bare l List.mem_cons_self).readAs ?_ done rest
    exact List.forall₂_same.2 fun m later => (bare m (List.mem_cons_of_mem _ later)).readAs

theorem records_joined_iff {labels : List String} (some : labels ≠ []) (body : String) :
    records (joined labels ++ body) = labels :: records body ↔ ∀ l ∈ labels, Bare l.toList := by
  cases labels with
  | nil => exact absurd rfl some
  | cons l ls =>
      rw [records, String.toList_append]
      exact readFrom_joined_iff l ls [] body.toList

end Csv

/-! ## The header -/

/-- The label of a name and a unit needs no quotes if the name needs none and the unit has no
separator. -/
structure Heads (name : String) (unit : Option String) : Prop where
  name : Csv.Bare name.toList
  unit : ∀ u ∈ unit, Csv.Plain u.toList

instance (name : String) (unit : Option String) : Decidable (Heads name unit) :=
  decidable_of_iff (Csv.Bare name.toList ∧ ∀ u ∈ unit, Csv.Plain u.toList)
    ⟨fun h => ⟨h.1, h.2⟩, fun h => ⟨h.name, h.unit⟩⟩

theorem Csv.bare_append_iff {cs ds : List Char} (unquoted : ds.head? ≠ some '"') :
    Csv.Bare (cs ++ ds) ↔ Csv.Bare cs ∧ Csv.Plain ds := by
  constructor
  · intro bare
    obtain ⟨front, behind⟩ := Csv.plain_append_iff.1 bare.plain
    refine ⟨⟨fun first => bare.unquoted ?_, front⟩, behind⟩
    rw [List.head?_append, first]
    rfl
  · rintro ⟨bare, behind⟩
    refine ⟨?_, Csv.plain_append_iff.2 ⟨bare.plain, behind⟩⟩
    cases cs with
    | nil => exact unquoted
    | cons c cs => exact bare.unquoted

theorem bare_label_iff (name : String) (unit : Option String) :
    Csv.Bare (Writer.label name unit).toList ↔ Heads name unit := by
  cases unit with
  | none => exact ⟨fun bare => ⟨bare, nofun⟩, fun heads => heads.name⟩
  | some u =>
      have text : (Writer.label name (some u)).toList =
          name.toList ++ ("[unit=\"".toList ++ (u.toList ++ "\"]".toList)) := by
        simp [Writer.label]
      have opening : Csv.Plain "[unit=\"".toList := by decide
      have closing : Csv.Plain "\"]".toList := by decide
      rw [text, Csv.bare_append_iff (by simp), Csv.plain_append_iff, Csv.plain_append_iff,
        and_iff_right opening, and_iff_left closing]
      constructor
      · rintro ⟨bare, plain⟩
        exact ⟨bare, fun _ same => Option.some.inj same ▸ plain⟩
      · exact fun heads => ⟨heads.name, heads.unit u rfl⟩

/-- The labels of time and place need no quotes. -/
theorem bare_headerFields_iff (w : Writer) :
    (∀ l ∈ w.headerFields, Csv.Bare l.toList) ↔ ∀ name ∈ w.columns, Heads name (w.unit? name) := by
  have place : ∀ l ∈ ["time", "station", Writer.label "latitude" (some "degrees_north"),
      Writer.label "longitude" (some "degrees_east")], Csv.Bare l.toList := by
    decide
  rw [Writer.headerFields, List.forall_mem_append, and_iff_right place, List.forall_mem_map]
  exact forall₂_congr fun name _ => bare_label_iff name (w.unit? name)

/-- A text is a table: it has one record for its header and one for every row, all of them as wide
as the header. -/
structure Rectangular (text : String) (rows width : Nat) : Prop where
  count : (Csv.records text).length = rows + 1
  width : ∀ record ∈ Csv.records text, record.length = width

/-- What a reader finds in a CSV response. -/
theorem respond_csv_reads {cs : List Collection} {r : Request} {n : Nat}
    (made : (respond cs r "csv").outcome.result = .ok n) :
    let w := (respond cs r "csv").writer
    w.headerFields.length = 4 + w.columns.length ∧
      ∃ body, w.out = Csv.joined w.headerFields ++ body ∧ (Csv.records body).length = n ∧
        (∀ record ∈ Csv.records body, record.length = 4 + w.columns.length) ∧
        (Csv.records w.out = w.headerFields :: Csv.records body ↔
          ∀ name ∈ w.columns, Heads name (w.unit? name)) ∧
        ((∀ name ∈ w.columns, Heads name (w.unit? name)) →
          Rectangular w.out n (4 + w.columns.length)) := by
  intro w
  obtain ⟨p, ps, wanted, counted, all⟩ := handed_of_result (by decide) made
  obtain ⟨-, body, out, records⟩ := respond_csv_of_handed wanted all
  have wide : w.headerFields.length = 4 + w.columns.length := by
    rw [Writer.headerFields, List.length_append, List.length_map]
    rfl
  have count : (Csv.records body).length = n := by
    rw [records, List.length_map, rowsOf, List.length_map, counted]
  have widths : ∀ record ∈ Csv.records body, record.length = 4 + w.columns.length := by
    rw [records]
    intro record member
    obtain ⟨x, -, rfl⟩ := List.mem_map.1 member
    rw [Row.fields, List.length_append, List.length_map]
    rfl
  have found : Csv.records w.out = w.headerFields :: Csv.records body ↔
      ∀ name ∈ w.columns, Heads name (w.unit? name) := by
    have some : w.headerFields ≠ [] := List.cons_ne_nil _ _
    rw [out]
    exact (Csv.records_joined_iff some body).trans (bare_headerFields_iff w)
  refine ⟨wide, body, out, count, widths, found, fun heads => ?_⟩
  have read := found.2 heads
  constructor
  · rw [read, List.length_cons, count]
  · rw [read]
    exact List.forall_mem_cons.2 ⟨wide, widths⟩

/-- A response with a unit that has a quote inside and a carriage return. -/
def quotedUnits : List Collection :=
  [{ name := "synop"
     stations := [{ name := "A, B", lat := 1.0, lon := 2.0, observations := [
       ⟨⟨0⟩, .ofList [("temp \"dry\"", .int 280)]⟩] }]
     vars := .ofList [("temp \"dry\"", some "K\r")] }]

theorem respond_csv_reads_quotedUnits :
    (respond quotedUnits {} "csv").outcome.result = .ok 1 ∧
      let w := (respond quotedUnits {} "csv").writer
      (∀ name ∈ w.columns, Heads name (w.unit? name)) ∧ Rectangular w.out 1 5 := by
  have made : (respond quotedUnits {} "csv").outcome.result = .ok 1 := rfl
  obtain ⟨-, body, -, -, -, -, rectangular⟩ := respond_csv_reads made
  have heads : ∀ name ∈ (respond quotedUnits {} "csv").writer.columns,
      Heads name ((respond quotedUnits {} "csv").writer.unit? name) := by
    decide +kernel
  exact ⟨made, heads, rectangular heads⟩

/-- Every CSV response is a table. -/
def AlwaysRectangular : Prop :=
  ∀ (cs : List Collection) (r : Request) (n : Nat), (respond cs r "csv").outcome.result = .ok n →
    let w := (respond cs r "csv").writer
    Rectangular w.out n (4 + w.columns.length)

/-- A variable with a comma in its name. -/
def windAndGust : List Collection :=
  [{ name := "synop"
     stations := [{ name := "A", lat := 1.0, lon := 2.0, observations := [
       ⟨⟨0⟩, .ofList [("wind, gust", .int 7)]⟩] }]
     vars := .ofList [("wind, gust", none)] }]

theorem not_alwaysRectangular : ¬ AlwaysRectangular := by
  intro always
  have made : (respond windAndGust {} "csv").outcome.result = .ok 1 := rfl
  have table := always windAndGust {} 1 made
  have records : Csv.records (respond windAndGust {} "csv").writer.out =
      [["time", "station", "latitude[unit=\"degrees_north\"]", "longitude[unit=\"degrees_east\"]",
          "wind", " gust"],
        ["1970-01-01T00:00:00Z", "A", "1.000", "2.000", "7"]] := by
    decide +kernel
  have width := table.width _ (records ▸ List.mem_cons_self)
  exact absurd width (by decide)

end Meteo.Response
