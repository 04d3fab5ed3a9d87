/-
# Meteo.Proofs.Response.Kinds -- collections of another kind than the requested one

A response depends on its collections in three ways: by the observations that they hand
over, by the variables that they declare, and by the units that these are shown with
(`text_deliver_congr`).  Put among the others, a collection of another kind than the
requested one hands over nothing (`handed_insert`) and declares nothing that becomes a
column (`variablesFor_insert`).

Units are taken from collections of every kind, though.  So the collection has no
influence on the text of a response as long as it is not the first one to declare a column,
or agrees on its unit with the collections behind it (`KeepsUnits`, `keepsUnits_iff`);
otherwise its unit is shown with values of other collections (`respond_insert_front`).
-/
import Meteo.Proofs.Response.Units

namespace Meteo.Response

set_option autoImplicit false

/-- What is answered to one who asks for a text: the text of a response, or the failure. -/
def Delivery.text (d : Delivery Nat) : Except Error String :=
  d.outcome.result.map fun _ => d.writer.out

theorem Delivery.text_of_ok {d : Delivery Nat} {n : Nat} (made : d.outcome.result = .ok n) :
    d.text = .ok d.writer.out := by
  rw [text, made]
  rfl

/-! ## What a response depends on -/

namespace Writer

variable {w w' : Writer}

theorem headerFields_congr (columns : w'.columns = w.columns)
    (units : ∀ name ∈ w.columns, w'.unit? name = w.unit? name) :
    w'.headerFields = w.headerFields := by
  rw [headerFields, headerFields, columns]
  congr 1
  refine List.map_congr_left fun name column => ?_
  rw [units name column]

theorem featureElement_congr (columns : w'.columns = w.columns)
    (units : ∀ name ∈ w.columns, w'.unit? name = w.unit? name) (s : Station) (o : Observation) :
    w'.featureElement s o = w.featureElement s o := by
  rw [featureElement, featureElement, dataElements, dataElements, columns]
  refine congrArg (elementOf s o) (List.filterMap_congr fun name column => ?_)
  simp only [dataElement, units name column]

end Writer

section Congruence

variable {format : Format} {cs cs' : List Collection} {r : Request}

/-- The text of a response is determined by the observations handed over, the variables and the
units of the columns. -/
theorem text_deliver_congr (supported : format ≠ .unspecified)
    (observations : handed cs' r = handed cs r) (vars : variablesFor cs' r = variablesFor cs r)
    (units : ∀ name ∈ (deliver { format } cs r).writer.columns, unitOf cs' name = unitOf cs name) :
    (deliver { format } cs' r).text = (deliver { format } cs r).text := by
  have columns : (deliver { format } cs' r).writer.columns =
      (deliver { format } cs r).writer.columns := by
    simp only [columns_deliver supported, observations, columnsOf, vars]
  have unit : ∀ name ∈ (deliver { format } cs r).writer.columns,
      (deliver { format } cs' r).writer.unit? name =
        (deliver { format } cs r).writer.unit? name := by
    intro name column
    rw [unit?_deliver supported, unit?_deliver supported, units name column]
  have same : (deliver { format } cs' r).outcome.result =
      (deliver { format } cs r).outcome.result := by
    rw [result_deliver supported, result_deliver supported, observations, columns]
  rw [Delivery.text, Delivery.text, same]
  cases made : (deliver { format } cs r).outcome.result with
  | error e => rfl
  | ok n =>
      obtain ⟨p, ps, wanted, -, all⟩ := handed_of_result supported made
      have writes := (deliver_of_handed (w := { format }) supported wanted).2
      have writes' :=
        (deliver_of_handed (w := { format }) supported (observations.trans wanted)).2
      have all' : AllTold (columnsOf cs' r p.2) (p :: ps) := by rwa [columnsOf, vars]
      refine congrArg Except.ok ?_
      cases format with
      | csv =>
          rw [writes.csv rfl all, writes'.csv rfl all', Writer.streamed, Writer.streamed,
            writes.format, writes'.format, columns, Writer.headerFields_congr columns unit]
          rfl
      | xml =>
          obtain ⟨elements, out⟩ := writes.xml rfl all
          obtain ⟨elements', out'⟩ := writes'.xml rfl all'
          have features := funext fun q : Station × Observation =>
            Writer.featureElement_congr columns unit q.1 q.2
          rw [out, out', Writer.documentText, Writer.documentText, elements, elements', features]
          rfl
      | unspecified => exact absurd rfl supported

end Congruence

/-! ## A collection among others -/

section Insert

variable {c : Collection} {r : Request} (other : c.kind ≠ r.kind) (before behind : List Collection)

include other

/-- A collection of another kind contributes no station. -/
theorem contributions_insert :
    (Selection.contributions r (before ++ c :: behind)).result =
      (Selection.contributions r (before ++ behind)).result := by
  induction before with
  | nil =>
      have none : (Selection.contribution r c).result = .ok [] := by
        rw [Selection.contribution, if_pos other]
        rfl
      rw [List.nil_append, List.nil_append, Selection.result_contributions_cons, none]
      cases (Selection.contributions r behind).result <;> rfl
  | cons d before ih =>
      rw [List.cons_append, List.cons_append, Selection.result_contributions_cons, ih,
        Selection.result_contributions_cons]

theorem handed_insert : handed (before ++ c :: behind) r = handed (before ++ behind) r := by
  have selected : (select (before ++ c :: behind) r).result =
      (select (before ++ behind) r).result := by
    simp only [select, Logged.result_bind, contributions_insert other]
  rw [handed, handed, selected]

/-- A collection of another kind declares nothing that becomes a column. -/
theorem variablesFor_insert :
    variablesFor (before ++ c :: behind) r = variablesFor (before ++ behind) r := by
  have kept : ((before ++ c :: behind).filter fun d => d.kind = r.kind) =
      (before ++ behind).filter fun d => d.kind = r.kind := by
    rw [List.filter_append, List.filter_append, List.filter_cons_of_neg (by simpa using other)]
  rw [variablesFor, variablesFor, kept]

end Insert

/-! ## Units of a collection among others -/

theorem unitOf_append (cs cs' : List Collection) (name : String) :
    unitOf (cs ++ cs') name =
      if cs.any (·.declares name) then unitOf cs name else unitOf cs' name := by
  induction cs with
  | nil => rfl
  | cons c cs ih =>
      rw [List.cons_append, unitOf_cons, unitOf_cons, ih, List.any_cons]
      by_cases declared : c.declares name
      · rw [declared, if_pos rfl, if_pos rfl, Bool.true_or, if_pos rfl]
      · rw [if_neg declared, if_neg declared, Bool.eq_false_iff.2 declared, Bool.false_or]

/-- A collection among others leaves the units of columns alone: a column that it declares is
declared before it, or has the same unit behind it. -/
def KeepsUnits (before : List Collection) (c : Collection) (behind : List Collection)
    (columns : List String) : Prop :=
  ∀ name ∈ columns, c.declares name →
    (∃ d ∈ before, d.declares name) ∨ c.unit? name = unitOf behind name

theorem keepsUnits_iff {before behind : List Collection} {c : Collection} {columns : List String} :
    KeepsUnits before c behind columns ↔
      ∀ name ∈ columns, unitOf (before ++ c :: behind) name = unitOf (before ++ behind) name := by
  refine forall₂_congr fun name _ => ?_
  rw [unitOf_append, unitOf_append, unitOf_cons, ← List.any_eq_true]
  by_cases earlier : before.any (·.declares name)
  · simp only [earlier, if_true, true_or, implies_true]
  · rw [if_neg earlier, if_neg earlier, or_iff_right earlier]
    by_cases declared : c.declares name
    · rw [if_pos declared, forall_prop_of_true declared]
    · rw [if_neg declared, forall_prop_of_false declared, true_iff]

/-- A collection of another kind than the requested one changes neither what comes of a response
nor its rows and columns.  It changes a unit of a column unless it leaves the units of the columns
alone, and if it does so the text is the same as without it. -/
theorem respond_insert {c : Collection} {r : Request} (other : c.kind ≠ r.kind)
    (before behind : List Collection) (format : String) :
    let d := respond (before ++ behind) r format
    let d' := respond (before ++ c :: behind) r format
    d'.outcome.result = d.outcome.result ∧ d'.writer.rows = d.writer.rows ∧
      d'.writer.columns = d.writer.columns ∧
      (KeepsUnits before c behind d.writer.columns ↔
        ∀ name ∈ d.writer.columns, d'.writer.unit? name = d.writer.unit? name) ∧
      (KeepsUnits before c behind d.writer.columns → d'.text = d.text) := by
  intro d d'
  cases named : Format.ofName format with
  | error e =>
      have same : d' = d := by simp only [d, d', respond, named]
      have none : d.writer.columns = [] := by simp only [d, respond, named]; rfl
      rw [same, none]
      exact ⟨rfl, rfl, rfl, by simp [KeepsUnits], fun _ => rfl⟩
  | ok f =>
      have supported := ne_unspecified_of_ofName named
      have made : d = deliver { format := f } (before ++ behind) r := by
        simp only [d, respond, named]
      have made' : d' = deliver { format := f } (before ++ c :: behind) r := by
        simp only [d', respond, named]
      have observations := handed_insert other before behind
      have vars := variablesFor_insert other before behind
      rw [made, made']
      have columns : (deliver { format := f } (before ++ c :: behind) r).writer.columns =
          (deliver { format := f } (before ++ behind) r).writer.columns := by
        simp only [columns_deliver supported, observations, columnsOf, vars]
      refine ⟨?_, ?_, columns, ?_, fun kept => ?_⟩
      · rw [result_deliver supported, result_deliver supported, observations, columns]
      · rw [rows_deliver supported, rows_deliver supported, observations, columns]
      · simp only [unit?_deliver supported]
        exact keepsUnits_iff
      · exact text_deliver_congr supported observations vars (keepsUnits_iff.1 kept)

/-- Ships on their way, which declare a variable without an observation of it. -/
def ships : Collection :=
  { name := "ships", kind := .trajectory, vars := .ofList [("temp", some "degF")] }

theorem respond_insert_behind :
    ships.kind ≠ ({} : Request).kind ∧ KeepsUnits [inKelvin] ships [] ["temp"] ∧
      (respond ([inKelvin] ++ ships :: []) {} "csv").text =
        (respond ([inKelvin] ++ []) {} "csv").text := by
  have other : ships.kind ≠ ({} : Request).kind := by decide
  have kept : KeepsUnits [inKelvin] ships [] ["temp"] := by
    intro name column _
    rw [List.mem_singleton.1 column]
    exact .inl ⟨inKelvin, List.mem_singleton_self _, rfl⟩
  exact ⟨other, kept, (respond_insert other [inKelvin] [] "csv").2.2.2.2 kept⟩

/-- In front of the stations the ships have their unit shown with the values of the stations. -/
theorem respond_insert_front :
    ships.kind ≠ ({} : Request).kind ∧
      (respond ([] ++ [inKelvin]) {} "csv").text =
        .ok ("time,station,latitude[unit=\"degrees_north\"],longitude[unit=\"degrees_east\"]," ++
          "temp[unit=\"K\"]\n1970-01-01T00:00:00Z,A,1.000,2.000,280\n") ∧
      (respond ([] ++ ships :: [inKelvin]) {} "csv").text =
        .ok ("time,station,latitude[unit=\"degrees_north\"],longitude[unit=\"degrees_east\"]," ++
          "temp[unit=\"degF\"]\n1970-01-01T00:00:00Z,A,1.000,2.000,280\n") :=
  ⟨by decide, (Delivery.text_of_ok rfl).trans (congrArg _ (by decide +kernel)),
    (Delivery.text_of_ok rfl).trans (congrArg _ (by decide +kernel))⟩

end Meteo.Response
