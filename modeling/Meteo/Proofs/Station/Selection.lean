/-
# Meteo.Proofs.Station.Selection -- selected stations are stations of the collections

Whichever criterion selects a station, it is taken as it is from a collection of the
requested kind (`mem_select`).  Each way of selecting has a lemma of its own: names
are looked up in a table of the stations (`mem_pick`), a box filters them, and the
nearest one is among the candidates (`mem_nearestOf`).
-/
import Meteo.Proofs.Log
import Meteo.Proofs.Outcome
import Meteo.Proofs.Table
import Meteo.Station.Selection

namespace Meteo

set_option autoImplicit false

namespace Collection

variable {c : Collection} {s : Station}

theorem mem_byName {e : String × Station} (member : e ∈ c.byName.entries) : e.2 ∈ c.stations := by
  have fold (ss : List Station) (t : Table Station)
      (member : e ∈ (ss.foldl (fun t s => t.insertNew s.name s) t).entries) :
      e ∈ t.entries ∨ e.2 ∈ ss := by
    induction ss generalizing t with
    | nil => exact .inl member
    | cons s ss ih =>
        rcases ih _ member with before | later
        · rcases Table.mem_insertNew before with old | new
          · exact .inl old
          · exact .inr (new ▸ List.mem_cons_self)
        · exact .inr (List.mem_cons_of_mem _ later)
  rcases fold c.stations .empty member with none | some
  · cases none
  · exact some

theorem mem_pickFrom {t : Table Station} {seen names : List String}
    (member : s ∈ pickFrom t seen names) : ∃ name, (name, s) ∈ t.entries := by
  induction names generalizing seen with
  | nil => cases member
  | cons name names ih =>
      rw [pickFrom] at member
      split at member
      · exact ih member
      · rcases List.mem_append.1 member with found | later
        · exact ⟨name, Table.mem_of_get? (Option.mem_toList.1 found)⟩
        · exact ih later

theorem mem_pick {names : List String} (member : s ∈ c.pick names) : s ∈ c.stations := by
  obtain ⟨name, entry⟩ := mem_pickFrom member
  exact mem_byName entry

end Collection

theorem nearestFrom_mem {α β : Type} [Ordinate α] (best : β) (least : Option α)
    (candidates : List (β × α)) :
    nearestFrom best least candidates ∈ best :: candidates.map Prod.fst := by
  induction candidates generalizing best least with
  | nil => exact List.mem_cons_self
  | cons e rest ih =>
      obtain ⟨b, d⟩ := e
      simp only [nearestFrom]
      split_ifs
      · exact List.mem_cons_of_mem _ (ih b _)
      · rcases List.mem_cons.1 (ih best least) with same | later
        · rw [same]
          exact List.mem_cons_self
        · exact List.mem_cons_of_mem _ (List.mem_cons_of_mem _ later)

namespace Selection

variable {r : Request} {c : Collection} {s : Station} {ss : List Station}

theorem mem_nearestOf {β : Type} {place : β → Station} {p : Point Float} {candidates : List β}
    {found : β} (nearest : nearestOf place p candidates = .ok found) : found ∈ candidates := by
  simp only [nearestOf] at nearest
  split at nearest
  · cases nearest
  obtain ⟨measured, made, chosen⟩ := Outcome.bind_eq_ok.1 nearest
  have same : measured.map Prod.fst = candidates := by
    rw [← List.forall₂_eq_eq_eq, List.forall₂_map_left_iff]
    refine (Outcome.forall₂_of_mapM made).flip.imp fun e c result => ?_
    obtain ⟨d, -, pair⟩ := Outcome.bind_eq_ok.1 result
    cases pair
    rfl
  cases result : nearest? measured with
  | none => rw [result] at chosen; cases chosen
  | some b =>
      rw [result] at chosen
      cases chosen
      rw [← same]
      cases measured with
      | nil => cases result
      | cons e rest =>
          obtain ⟨b, d⟩ := e
          cases result
          rcases List.mem_cons.1 (nearestFrom_mem b none ((b, d) :: rest)) with first | later
          · rw [first]
            exact List.mem_cons_self
          · exact later

/-- The criterion in effect selects stations of the collection. -/
theorem mem_spatial (selected : (spatial c r).result = .ok ss) (member : s ∈ ss) :
    s ∈ c.stations := by
  rw [spatial] at selected
  split at selected
  · split at selected
    · cases selected
      exact member
    · dsimp only at selected
      split at selected
      · cases selected
        exact Collection.mem_pick member
      · cases selected
        exact Collection.mem_pick member
  · cases selected
    exact List.mem_of_mem_filter member
  · split at selected
    · cases selected
      cases member
    · next p _ =>
      rw [Logged.result_bind, Logged.result_lift] at selected
      obtain ⟨closest, nearest, rest⟩ := Outcome.bind_eq_ok.1 selected
      cases rest
      rw [List.mem_singleton.1 member]
      exact mem_nearestOf nearest
  · cases selected
    exact member

theorem mem_withVariables {names : List String} {found : List Station}
    (kept : (withVariables found names).result = .ok ss) (member : s ∈ ss) : s ∈ found := by
  rw [withVariables] at kept
  dsimp only at kept
  split at kept
  · cases kept
    exact List.mem_of_mem_filter member
  · cases kept
    exact List.mem_of_mem_filter member

theorem mem_ofCollection (selected : (ofCollection c r).result = .ok ss) (member : s ∈ ss) :
    s ∈ c.stations := by
  rw [ofCollection, Logged.result_bind] at selected
  obtain ⟨found, first, rest⟩ := Outcome.bind_eq_ok.1 selected
  split at rest
  · exact mem_spatial first (mem_withVariables rest member)
  · cases rest
    exact mem_spatial first member

theorem mem_contribution (selected : (contribution r c).result = .ok ss) (member : s ∈ ss) :
    c.kind = r.kind ∧ s ∈ c.stations := by
  rw [contribution] at selected
  split at selected
  · cases selected
    cases member
  · next same =>
    split at selected
    · cases selected
      cases member
    · exact ⟨not_not.1 same, mem_ofCollection selected member⟩

theorem result_contributions_cons (c : Collection) (cs : List Collection) :
    (contributions r (c :: cs)).result = (do
      let own ← (contribution r c).result
      let others ← (contributions r cs).result
      return own ++ others) := by
  simp only [contributions, Logged.result_bind, Logged.result_pure]
  rfl

theorem mem_contributions {cs : List Collection}
    (selected : (contributions r cs).result = .ok ss) (member : s ∈ ss) :
    ∃ c ∈ cs, c.kind = r.kind ∧ s ∈ c.stations := by
  induction cs generalizing ss with
  | nil =>
      cases selected
      cases member
  | cons c cs ih =>
      rw [contributions, Logged.result_bind] at selected
      obtain ⟨own, first, rest⟩ := Outcome.bind_eq_ok.1 selected
      rw [Logged.result_bind] at rest
      obtain ⟨others, later, made⟩ := Outcome.bind_eq_ok.1 rest
      cases made
      rcases List.mem_append.1 member with here | there
      · obtain ⟨kind, station⟩ := mem_contribution first here
        exact ⟨c, List.mem_cons_self, kind, station⟩
      · obtain ⟨d, listed, found⟩ := ih later there
        exact ⟨d, List.mem_cons_of_mem _ listed, found⟩

end Selection

/-- A selected station is a station of a collection of the requested kind. -/
theorem mem_select {cs : List Collection} {r : Request} {ss : List Station} {s : Station}
    (selected : (select cs r).result = .ok ss) (member : s ∈ ss) :
    ∃ c ∈ cs, c.kind = r.kind ∧ s ∈ c.stations := by
  rw [select, Logged.result_bind] at selected
  obtain ⟨wanted, made, rest⟩ := Outcome.bind_eq_ok.1 selected
  cases rest
  exact Selection.mem_contributions made member

end Meteo
