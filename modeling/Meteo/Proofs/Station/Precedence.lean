/-
# Meteo.Proofs.Station.Precedence -- the first criterion of a request decides

A request has at most one criterion in effect (`Request.choice`), and what that
criterion chooses in a collection is said once, criterion by criterion (`Chosen`).
A selection is what it chooses in the collections of the requested kind, one after
the other, less the stations that lack a variable the request insists on
(`result_select`).  Criteria below the one in effect are never read.

Names, boxes and no criterion at all always select.  The nearest station is sought
through a remainder by the full circle, and an infinite number has none: where the
difference of two longitudes is beyond the largest double the search fails, although
both are finite (`Reaches`, `not_selectsByPrecedence`).
-/
import Meteo.Proofs.Station.Selection

namespace Meteo

set_option autoImplicit false

/-- A criterion by which stations are chosen. -/
inductive Choice where
  | names (wanted : List String)
  | box (b : Box Float)
  | nearest (p : Point Float)
  | every

namespace Request

/-- The criterion in effect. -/
def choice (r : Request) : Choice :=
  match r.stations, r.box, r.point with
  | some wanted, _, _ => .names wanted
  | none, some b, _ => .box b
  | none, none, some p => .nearest p
  | none, none, none => .every

theorem of_choice_nearest {r : Request} {p : Point Float} (nearest : r.choice = .nearest p) :
    r.stations = none ∧ r.box = none ∧ r.point = some p := by
  unfold choice at nearest
  split at nearest
  · cases nearest
  · cases nearest
  · next given bounds target =>
    cases nearest
    exact ⟨given, bounds, target⟩
  · cases nearest

/-- Whether a collection is one the request asks for. -/
def counts (r : Request) (c : Collection) : Bool := c.kind = r.kind && c.kind.hasStations

/-- Whether a chosen station stays, since it has the variables that the request insists on. -/
def keeps (r : Request) (s : Station) : Bool :=
  !r.requireVariables || s.hasVariables (r.vars.getD [])

end Request

/-- What a criterion chooses among the stations of a collection. -/
inductive Chosen (c : Collection) : Choice → List Station → Prop where
  | every : Chosen c .every c.stations
  | all : Chosen c (.names [Request.allStations]) c.stations
  | names {wanted : List String} (listed : wanted ≠ [Request.allStations]) :
      Chosen c (.names wanted) (wanted.eraseDups.filterMap c.find?)
  | box (b : Box Float) : Chosen c (.box b) (c.stations.filter fun s => b.contains s.lat s.lon)
  | nowhere (p : Point Float) (empty : c.stations = []) : Chosen c (.nearest p) []
  | nearest (p : Point Float) {s : Station} (member : s ∈ c.stations)
      (closest : Selection.nearestOf id p c.stations = .ok s) : Chosen c (.nearest p) [s]

/-- What a request takes from a collection: the chosen stations that stay. -/
def Kept (r : Request) (c : Collection) (part : List Station) : Prop :=
  ∃ chosen, Chosen c r.choice chosen ∧ part = chosen.filter r.keeps

/-- The difference of two longitudes is a number or none, but not beyond the largest double. -/
def Reaches (p : Point Float) (s : Station) : Prop :=
  ∀ negative, Exact.ofFloat (s.lon - p.lon) ≠ .infinite negative

/-- A request by the nearest point reaches every station of a collection. -/
def Request.Covers (r : Request) (c : Collection) : Prop :=
  ∀ p, r.choice = .nearest p → ∀ s ∈ c.stations, Reaches p s

/-! ## Names -/

namespace Collection

theorem lookup_named (ss : List Station) (name : String) :
    (ss.map fun s => (s.name, s)).lookup name = ss.find? fun s => s.name == name := by
  induction ss with
  | nil => rfl
  | cons s ss ih =>
      rw [List.map_cons, List.lookup_cons, List.find?_cons, BEq.comm, ih]

/-- The table of the stations finds the first one of a name. -/
theorem get?_byName (c : Collection) (name : String) : c.byName.get? name = c.find? name := by
  have table : c.byName = (c.stations.map fun s => (s.name, s)).foldl
      (fun t e => t.insertNew e.1 e.2) .empty := by
    rw [List.foldl_map]
    rfl
  rw [table, Table.get?_foldl_insertNew, lookup_named]
  rfl

theorem pickFrom_eq (t : Table Station) (seen names : List String) :
    pickFrom t seen names =
      (names.filter fun name => !seen.contains name).eraseDups.filterMap t.get? := by
  induction names generalizing seen with
  | nil => rfl
  | cons name names ih =>
      rw [pickFrom]
      cases old : seen.contains name with
      | true =>
          rw [if_pos rfl, ih, List.filter_cons_of_neg (by rw [old]; decide)]
      | false =>
          have passed : (names.filter fun n => !(name :: seen).contains n) =
              (names.filter fun n => !seen.contains n).filter fun n => !(n == name) := by
            rw [List.filter_filter]
            refine List.filter_congr fun n _ => ?_
            rw [List.contains_cons, Bool.not_or]
          rw [if_neg Bool.false_ne_true, ih, passed,
            List.filter_cons_of_pos (by rw [old]; rfl), List.eraseDups_cons, List.filterMap_cons]
          cases t.get? name <;> rfl

/-- Names are looked up in their order, each once. -/
theorem pick_eq (c : Collection) (names : List String) :
    c.pick names = names.eraseDups.filterMap c.find? := by
  rw [pick, pickFrom_eq, funext c.get?_byName]
  congr 2
  exact List.filter_eq_self.2 fun _ _ => rfl

end Collection

/-! ## The nearest station -/

theorem remainder?_of_not_infinite {x : Float} {n : Nat}
    (bounded : ∀ negative, Exact.ofFloat x ≠ .infinite negative) :
    ∃ r, Double.remainder? x n = .ok r := by
  rw [Double.remainder?]
  cases value : Exact.ofFloat x with
  | nan => exact ⟨x, rfl⟩
  | infinite negative => exact absurd value (bounded negative)
  | finite negative m q =>
      dsimp only
      split_ifs
      · exact ⟨_, rfl⟩
      · exact ⟨_, rfl⟩

namespace Selection

variable {p : Point Float} {s : Station} {r : Request} {c : Collection}

theorem distanceTo_of_reaches (reaches : Reaches p s) : ∃ d, distanceTo p s = .ok d := by
  obtain ⟨near, made⟩ := remainder?_of_not_infinite (n := circle) reaches
  rw [distanceTo, distance, lonNear]
  change ∃ d, ((((Double.remainder? (s.lon - p.lon) circle).map _).map _).mapError _) =
    Except.ok d
  rw [made]
  exact ⟨_, rfl⟩

theorem distanceTo_of_not_reaches (apart : ¬ Reaches p s) :
    distanceTo p s = .error (.fault .badValue) := by
  obtain ⟨negative, infinite⟩ := not_forall_not.1 apart
  have none : Double.remainder? (s.lon - p.lon) circle = .error .infinite := by
    rw [Double.remainder?, infinite]
  rw [distanceTo, distance, lonNear]
  change ((((Double.remainder? (s.lon - p.lon) circle).map _).map _).mapError _) = _
  rw [none]
  rfl

theorem nearestOf_of_reaches {ss : List Station} (some : ss ≠ [])
    (reaches : ∀ s ∈ ss, Reaches p s) : ∃ s, nearestOf id p ss = .ok s := by
  have measured : ∃ ms, (ss.mapM fun s => do return (s, ← distanceTo p s)) = .ok ms :=
    Outcome.exists_mapM_iff.2 fun s member => by
      obtain ⟨d, made⟩ := distanceTo_of_reaches (reaches s member)
      exact ⟨(s, d), by rw [made]; rfl⟩
  obtain ⟨ms, made⟩ := measured
  cases ss with
  | nil => exact absurd rfl some
  | cons s ss =>
      have pairs := Outcome.forall₂_of_mapM made
      cases pairs with
      | @cons _ e _ es _ _ =>
          refine ⟨nearestFrom e.1 none (e :: es), ?_⟩
          change (((s :: ss).mapM fun s => do return (s, ← distanceTo p s)) >>= _) = _
          rw [made]
          rfl

theorem nearestOf_of_not_reaches {ss : List Station} (apart : ¬ ∀ s ∈ ss, Reaches p s) :
    nearestOf id p ss = .error (.fault .badValue) := by
  obtain ⟨s, member, far⟩ := not_forall₂.1 apart
  have failed : (ss.mapM fun s => do return (s, ← distanceTo p s)) =
      .error (.fault .badValue) := by
    cases measured : ss.mapM fun s => do return (s, ← distanceTo p s) with
    | error e =>
        obtain ⟨-, x, -, -, -, fails⟩ := Outcome.mapM_eq_error.1 measured
        by_cases reaches : Reaches p x
        · obtain ⟨d, made⟩ := distanceTo_of_reaches reaches
          rw [made] at fails
          cases fails
        · rw [distanceTo_of_not_reaches reaches] at fails
          cases fails
          rfl
    | ok ms =>
        obtain ⟨e, made⟩ := Outcome.exists_mapM_iff.1 ⟨ms, measured⟩ s member
        rw [distanceTo_of_not_reaches far] at made
        cases made
  cases ss with
  | nil => cases member
  | cons s ss =>
      change (((s :: ss).mapM fun s => do return (s, ← distanceTo p s)) >>= _) = _
      rw [failed]
      rfl

/-! ## One collection -/

theorem isAllStations_iff {wanted : List String} (given : r.stations = some wanted) :
    r.isAllStations = true ↔ wanted = [Request.allStations] := by
  rw [Request.isAllStations, given, decide_eq_true_eq, Option.some_inj]

theorem spatial_of_covers (covers : r.Covers c) :
    ∃ chosen, Chosen c r.choice chosen ∧ (spatial c r).result = .ok chosen := by
  unfold Request.Covers at covers
  rw [spatial]
  cases given : r.stations with
  | some wanted =>
      have names : r.choice = .names wanted := by rw [Request.choice, given]
      rw [names]
      dsimp only
      split
      · next all =>
        exact ⟨c.stations, (isAllStations_iff given).1 all ▸ .all, rfl⟩
      · next listed =>
        refine ⟨_, .names fun all => listed ((isAllStations_iff given).2 all), ?_⟩
        rw [← Collection.pick_eq]
        split <;> rfl
  | none =>
      cases bounds : r.box with
      | some b =>
          have box : r.choice = .box b := by rw [Request.choice, given, bounds]
          exact ⟨_, box ▸ .box b, rfl⟩
      | none =>
          cases target : r.point with
          | none =>
              have every : r.choice = .every := by rw [Request.choice, given, bounds, target]
              exact ⟨_, every ▸ .every, rfl⟩
          | some p =>
              have nearest : r.choice = .nearest p := by
                rw [Request.choice, given, bounds, target]
              rw [nearest]
              dsimp only
              split
              · next empty => exact ⟨[], .nowhere p (List.isEmpty_iff.1 empty), rfl⟩
              · next some =>
                obtain ⟨s, closest⟩ := nearestOf_of_reaches
                  (fun empty => some (List.isEmpty_iff.2 empty)) (covers p nearest)
                refine ⟨[s], .nearest p (mem_nearestOf closest) closest, ?_⟩
                rw [Logged.result_bind, Logged.result_lift, closest]
                rfl

theorem spatial_of_not_covers (apart : ¬ r.Covers c) :
    (spatial c r).result = .error (.fault .badValue) := by
  obtain ⟨p, nearest, far⟩ : ∃ p, r.choice = .nearest p ∧ ¬ ∀ s ∈ c.stations, Reaches p s := by
    simpa only [Request.Covers, not_forall, exists_prop] using apart
  have some : ¬ c.stations.isEmpty := by
    intro empty
    rw [List.isEmpty_iff.1 empty] at far
    exact far nofun
  obtain ⟨given, bounds, target⟩ := Request.of_choice_nearest nearest
  rw [spatial, given, bounds, target]
  dsimp only
  rw [if_neg some, Logged.result_bind, Logged.result_lift, nearestOf_of_not_reaches far]
  rfl

theorem result_withVariables (ss : List Station) (names : List String) :
    (withVariables ss names).result = .ok (ss.filter fun s => s.hasVariables names) := by
  rw [withVariables]
  dsimp only
  split <;> rfl

/-- What is chosen stays as far as it has the variables the request insists on. -/
theorem result_ofCollection (c : Collection) (r : Request) :
    (ofCollection c r).result = (spatial c r).result.map fun chosen => chosen.filter r.keeps := by
  rw [ofCollection, Logged.result_bind]
  cases (spatial c r).result with
  | error e => rfl
  | ok chosen =>
      change _ = Except.ok (chosen.filter r.keeps)
      have every (none : ∀ s, r.keeps s = true) :
          (pure chosen : Logged (List Station)).result = .ok (chosen.filter r.keeps) := by
        rw [List.filter_eq_self.2 fun s _ => none s, Logged.result_pure]
      have unread (s : Station) : s.hasVariables [] = true :=
        List.all_eq_true.2 fun _ _ => rfl
      dsimp only [bind, Except.bind]
      split
      · next insists names =>
        rw [result_withVariables]
        refine congrArg Except.ok (List.filter_congr fun s _ => ?_)
        rw [Request.keeps, insists, names]
        rfl
      · next other =>
        refine every fun s => ?_
        rw [Request.keeps]
        cases insists : r.requireVariables with
        | false => rfl
        | true =>
            rcases listed : r.vars with _ | _ | ⟨name, names⟩
            · exact unread s
            · exact unread s
            · exact absurd listed (other name names insists)

theorem contribution_of_not_counts (skipped : ¬ r.counts c) :
    (contribution r c).result = .ok [] := by
  rw [contribution]
  split
  · rfl
  · next same =>
    split
    · rfl
    · next stations =>
      refine absurd ?_ skipped
      rw [Request.counts, Bool.and_eq_true, decide_eq_true_eq]
      exact ⟨not_not.1 same, by simpa using stations⟩

theorem contribution_of_counts (counted : r.counts c) :
    (contribution r c).result = (ofCollection c r).result := by
  rw [Request.counts, Bool.and_eq_true, decide_eq_true_eq] at counted
  rw [contribution, if_neg (not_not.2 counted.1), if_neg (by simp [counted.2])]

/-! ## The collections one after the other -/

theorem contributions_of_covers {cs : List Collection}
    (covers : ∀ c ∈ cs.filter r.counts, r.Covers c) :
    ∃ parts, List.Forall₂ (Kept r) (cs.filter r.counts) parts ∧
      (contributions r cs).result = .ok parts.flatten := by
  induction cs with
  | nil => exact ⟨[], .nil, rfl⟩
  | cons c cs ih =>
      rw [result_contributions_cons]
      by_cases counted : r.counts c
      · rw [List.filter_cons_of_pos counted] at covers ⊢
        obtain ⟨chosen, choice, made⟩ := spatial_of_covers (covers c List.mem_cons_self)
        obtain ⟨parts, kept, others⟩ := ih fun d member => covers d (List.mem_cons_of_mem _ member)
        refine ⟨chosen.filter r.keeps :: parts, .cons ⟨chosen, choice, rfl⟩ kept, ?_⟩
        rw [contribution_of_counts counted, result_ofCollection, made, others]
        rfl
      · rw [List.filter_cons_of_neg counted] at covers ⊢
        obtain ⟨parts, kept, others⟩ := ih covers
        refine ⟨parts, kept, ?_⟩
        rw [contribution_of_not_counts counted, others]
        rfl

theorem contributions_of_not_covers {cs : List Collection}
    (apart : ¬ ∀ c ∈ cs.filter r.counts, r.Covers c) :
    (contributions r cs).result = .error (.fault .badValue) := by
  induction cs with
  | nil => exact absurd (fun c member => nomatch member) apart
  | cons c cs ih =>
      rw [result_contributions_cons]
      by_cases counted : r.counts c
      · rw [List.filter_cons_of_pos counted, List.forall_mem_cons, not_and] at apart
        rw [contribution_of_counts counted, result_ofCollection]
        by_cases covers : r.Covers c
        · obtain ⟨chosen, -, made⟩ := spatial_of_covers covers
          rw [made, ih (apart covers)]
          rfl
        · rw [spatial_of_not_covers covers]
          rfl
      · rw [List.filter_cons_of_neg counted] at apart
        rw [contribution_of_not_counts counted, ih apart]
        rfl

/-- Two requests that agree in all that is read contribute the same. -/
theorem contributions_congr {q : Request} (same : ∀ c, contribution q c = contribution r c)
    (cs : List Collection) : contributions q cs = contributions r cs := by
  induction cs with
  | nil => rfl
  | cons c cs ih => rw [contributions, contributions, same, ih]

end Selection

/-! ## The selection -/

section

variable (cs : List Collection) (r : Request)

variable {r} in
theorem select_congr {q : Request}
    (same : ∀ c, Selection.contribution q c = Selection.contribution r c)
    (word : q.selector = r.selector) : select cs q = select cs r := by
  rw [select, select, Selection.contributions_congr same, word]

theorem select_of_stations (given : r.stations.isSome) (b : Option (Box Float))
    (p : Option (Point Float)) : select cs { r with box := b, point := p } = select cs r := by
  obtain ⟨_ | wanted, _, _, _, _, _, _, _, _⟩ := r
  · cases given
  · exact select_congr cs (fun _ => rfl) rfl

theorem select_of_box (given : r.box.isSome) (p : Option (Point Float)) :
    select cs { r with point := p } = select cs r := by
  obtain ⟨_ | wanted, _ | b, _, _, _, _, _, _, _⟩ := r
  · cases given
  · exact select_congr cs (fun _ => rfl) rfl
  · cases given
  · exact select_congr cs (fun _ => rfl) rfl

/-- A selection is what the criterion in effect takes from the collections asked for, one after
the other.  Only a nearest station out of reach makes it fail, and a criterion below the one in
effect changes nothing. -/
theorem result_select :
    ((∀ c ∈ cs.filter r.counts, r.Covers c) →
      ∃ parts, List.Forall₂ (Kept r) (cs.filter r.counts) parts ∧
        (select cs r).result = .ok parts.flatten) ∧
    ((¬ ∀ c ∈ cs.filter r.counts, r.Covers c) →
      (select cs r).result = .error (.fault .badValue)) ∧
    (r.stations.isSome → ∀ b p, select cs { r with box := b, point := p } = select cs r) ∧
    (r.box.isSome → ∀ p, select cs { r with point := p } = select cs r) := by
  refine ⟨fun covers => ?_, fun apart => ?_, select_of_stations cs r, select_of_box cs r⟩
  · obtain ⟨parts, kept, made⟩ := Selection.contributions_of_covers covers
    refine ⟨parts, kept, ?_⟩
    rw [select, Logged.result_bind, made]
    rfl
  · rw [select, Logged.result_bind, Selection.contributions_of_not_covers apart]
    rfl

end

/-- A station far to the west. -/
def western : Collection where
  name := "buoys"
  stations := [{ name := "A", lat := 0.0, lon := -1.7e308 }]

/-- The request for the station nearest to a point far to the east. -/
def eastward : Request where
  point := some ⟨0.0, 1.7e308⟩

/-- The same with a box, which then decides. -/
def boxed : Request := { eastward with box := some ⟨-10.0, 10.0, -1.0, 1.0⟩ }

theorem result_select_western :
    (∃ parts, List.Forall₂ (Kept boxed) [western] parts ∧
      (select [western] boxed).result = .ok parts.flatten) ∧
    (select [western] eastward).result = .error (.fault .badValue) ∧
    select [western] { boxed with point := none } = select [western] boxed := by
  refine ⟨(result_select [western] boxed).1 fun c _ p => nofun,
    (result_select [western] eastward).2.1 fun covers => ?_,
    (result_select [western] boxed).2.2.2 rfl none⟩
  exact covers western List.mem_cons_self _ rfl _ List.mem_cons_self true (by decide +kernel)

/-- A selection is found whenever the stations have numbers or none for their places and the
point is one of the globe. -/
def SelectsByPrecedence : Prop :=
  ∀ (cs : List Collection) (r : Request),
    (∀ c ∈ cs, ∀ s ∈ c.stations,
      (s.lat.isFinite ∨ s.lat.isNaN) ∧ (s.lon.isFinite ∨ s.lon.isNaN)) →
    (∀ p, r.point = some p → (Point.ofDegrees p.lat p.lon).toOption.isSome) →
    ∃ parts, List.Forall₂ (Kept r) (cs.filter r.counts) parts ∧
      (select cs r).result = .ok parts.flatten

/-- Two finite longitudes may be further apart than the largest double. -/
theorem not_selectsByPrecedence : ¬ SelectsByPrecedence := by
  intro all
  obtain ⟨parts, -, made⟩ := all [western] eastward (by decide +kernel) (by
    rintro p ⟨⟩
    decide +kernel)
  have failed : (select [western] eastward).result.toOption.isSome = false := by decide +kernel
  rw [made] at failed
  cases failed

end Meteo
