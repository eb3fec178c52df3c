import PremierLeague.Proofs.OrderIndependence
import PremierLeague.Proofs.Positions

/-!
# Seasons that share matches

Two seasons may differ in any number of matches, edited, added or taken away. A team that plays in
none of these has the same figures in both. The other teams can pass it or fall behind it, so that
its rank differs by no more than their number, and it keeps its order with every other team that is
not concerned.
-/

namespace PremierLeague.Proofs

open Tabular SeasonSummary

section Shared

variable {df common other : List Match} (hp : df.Perm (common ++ other)) {team : String}
  (ht : ¬ Occurs other team)

include hp ht

lemma homeViews_of_shared : (homeViews df team).Perm (homeViews common team) := by
  have hother : other.filter (fun m => m.HomeTeam == team) = [] := by
    apply List.filter_eq_nil_iff.mpr
    intro m hm
    rw [beq_iff_eq]
    exact fun hh => ht ⟨m, hm, Or.inl hh⟩
  have hfilter := hp.filter (fun m => m.HomeTeam == team)
  rw [List.filter_append, hother, List.append_nil] at hfilter
  exact hfilter.map homeView

lemma awayViews_of_shared : (awayViews df team).Perm (awayViews common team) := by
  have hother : other.filter (fun m => m.AwayTeam == team) = [] := by
    apply List.filter_eq_nil_iff.mpr
    intro m hm
    rw [beq_iff_eq]
    exact fun ha => ht ⟨m, hm, Or.inr ha⟩
  have hfilter := hp.filter (fun m => m.AwayTeam == team)
  rw [List.filter_append, hother, List.append_nil] at hfilter
  exact hfilter.map awayView

/-- A team has its figures from its own matches. -/
lemma record_of_shared (v : Venue) : v.record df team = v.record common team := by
  have hhome : homeRecord df team = homeRecord common team := by
    rw [homeRecord_eq, homeRecord_eq]
    exact recordOf_perm team (homeViews_of_shared hp ht)
  have haway : awayRecord df team = awayRecord common team := by
    rw [awayRecord_eq, awayRecord_eq]
    exact recordOf_perm team (awayViews_of_shared hp ht)
  cases v with
  | home => exact hhome
  | away => exact haway
  | overall =>
    change overallRecord team (homeRecord df team) (awayRecord df team) = _
    rw [hhome, haway]
    rfl

lemma occurs_of_shared : Occurs df team ↔ Occurs common team := by
  constructor
  · rintro ⟨m, hm, hside⟩
    rcases List.mem_append.mp (hp.mem_iff.mp hm) with hm | hm
    · exact ⟨m, hm, hside⟩
    · exact absurd ⟨m, hm, hside⟩ ht
  · rintro ⟨m, hm, hside⟩
    exact ⟨m, hp.mem_iff.mpr (List.mem_append_left other hm), hside⟩

end Shared

/-- The teams that play in some matches. -/
def playing (ms : List Match) : Finset String :=
  (ms.flatMap (fun m => [m.HomeTeam, m.AwayTeam])).toFinset

lemma mem_playing {ms : List Match} {team : String} :
    team ∈ playing ms ↔ Occurs ms team := by
  unfold playing Occurs
  simp [eq_comm]

/-- A team that is not concerned. -/
lemma not_occurs_of_notMem_playing {old new : List Match} {t : String}
    (ht : t ∉ playing (old ++ new)) : ¬ Occurs old t ∧ ¬ Occurs new t := by
  constructor
  · intro h
    exact ht (mem_playing.mpr (occurs_append h new))
  · rintro ⟨m, hm, hside⟩
    exact ht (mem_playing.mpr ⟨m, List.mem_append_right old hm, hside⟩)

section Drift

variable {s s' : SeasonSummary} {common old new : List Match} (hs : s.data.Perm (common ++ old))
  (hs' : s'.data.Perm (common ++ new)) (v : Venue) {t : String}

include hs hs'

lemma record_of_not_playing (ht : t ∉ playing (old ++ new)) :
    v.record s.data t = v.record s'.data t := by
  obtain ⟨hold, hnew⟩ := not_occurs_of_notMem_playing ht
  rw [record_of_shared hs hold, record_of_shared hs' hnew]

lemma occurs_of_not_playing (ht : t ∉ playing (old ++ new)) (hocc : Occurs s'.data t) :
    Occurs s.data t := by
  obtain ⟨hold, hnew⟩ := not_occurs_of_notMem_playing ht
  exact (occurs_of_shared hs hold).mpr ((occurs_of_shared hs' hnew).mp hocc)

/-- Each team that plays in other matches can pass one that does not. -/
lemma rank_le_add_card (R R' : Runtime) (hocc : Occurs common t) (ht : t ∉ playing (old ++ new)) :
    (rowOf R' s' v t).rank ≤ (rowOf R s v t).rank + (playing (old ++ new)).card := by
  obtain ⟨hold, hnew⟩ := not_occurs_of_notMem_playing ht
  rw [rowOf_rank, rowOf_rank]
  apply denseRank_le_add_card _ (mem_teams.mpr ((occurs_of_shared hs hold).mpr hocc))
    (mem_teams.mpr ((occurs_of_shared hs' hnew).mpr hocc)) ht
  intro x hx hxS
  refine ⟨mem_teams.mpr (occurs_of_not_playing hs hs' hxS (mem_teams.mp hx)), ?_⟩
  unfold key
  rw [record_of_not_playing hs hs' v hxS]

end Drift

/-- The open season with other results of Chelsea. -/
def otherSeason : SeasonSummary :=
  .init [fixture "Chelsea" "Everton" 2 0, fixture "Arsenal" "Leeds" 1 3] "20-21"

end PremierLeague.Proofs
