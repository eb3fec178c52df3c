import PremierLeague.Proofs.OverallTable

/-!
# Averages of teams that have played at one venue

The mean over no matches is undefined, and stays so when it is weighted by zero matches. The
overall averages of a team are therefore defined exactly when it has played at both venues.
-/

namespace PremierLeague.Proofs

open Tabular SeasonSummary

/-- The per-match averages of a record. -/
def averages : List Average :=
  [.goalsScored, .goalsConceded, .cornersFor, .cornersAgainst, .shotsMade, .shotsAllowed,
    .yellowCards, .foulsCommited, .foulsSuffered]

/-- No average is undefined: each is the mean over the matches that the team has played. -/
def AveragesDefined (df : List Match) (team : String) (r : TeamRecord) : Prop :=
  ∀ a ∈ averages, a.field r ≠ .nan ∧ a.field r = meanOver df team a.stat

lemma field_recordOf_nil (a : Average) (team : String) : a.field (recordOf team []) = .nan := by
  rw [a.field_recordOf, List.map_nil, Series.mean_nil]

/-- Without matches at one of the venues, the weighted averages are undefined. -/
lemma weighted_of_no_views (a : Average) {team : String} {vs ws : List View}
    (h : vs = [] ∨ ws = []) : weighted a.field (recordOf team vs) (recordOf team ws) = .nan := by
  unfold weighted
  rcases h with rfl | rfl
  · rw [field_recordOf_nil, ExactFloat.nan_mul, ExactFloat.nan_add, ExactFloat.nan_div]
  · rw [field_recordOf_nil, ExactFloat.nan_mul, ExactFloat.add_nan, ExactFloat.nan_div]

lemma averagesDefined_overall_iff {df : List Match} (hc : NoMissingCells df) (team : String) :
    AveragesDefined df team (Venue.overall.record df team) ↔
      homeViews df team ≠ [] ∧ awayViews df team ≠ [] := by
  have hfield : ∀ a : Average, a.field (Venue.overall.record df team) =
      weighted a.field (homeRecord df team) (awayRecord df team) :=
    fun a => a.field_overall team _ _
  constructor
  · intro h
    have hdef := (h .goalsScored List.mem_cons_self).1
    rw [hfield, homeRecord_eq, awayRecord_eq] at hdef
    constructor
    · intro hnil
      exact hdef (weighted_of_no_views .goalsScored (Or.inl hnil))
    · intro hnil
      exact hdef (weighted_of_no_views .goalsScored (Or.inr hnil))
  · rintro ⟨hh, ha⟩ a -
    rw [average_overall_eq_meanOver a hc hh ha]
    exact ⟨nofun, rfl⟩

/-- The averages in the overall row of a team are defined exactly when it has played at home
and away. -/
theorem overall_averages_defined_iff (R : Runtime) (s : SeasonSummary)
    (hc : NoMissingCells s.data) (team : String) (ht : Occurs s.data team) :
    (∃ t row, s.calcMainTables R "overall" = .ok (some t) ∧ loc t team = .ok row ∧
      AveragesDefined s.data team row.toTeamRecord) ↔
      (∃ m ∈ s.data, m.HomeTeam = team) ∧ ∃ m ∈ s.data, m.AwayTeam = team := by
  rw [← homeViews_ne_nil_iff, ← awayViews_ne_nil_iff, ← averagesDefined_overall_iff hc team]
  constructor
  · rintro ⟨t, row, htable, hloc, hdef⟩
    rwa [eq_rowOf (v := .overall) ht htable hloc] at hdef
  · intro hdef
    exact ⟨_, rowOf R s .overall team, calcMainTables_eq R s .overall, loc_table .overall ht, hdef⟩

theorem overall_averages_defined_iff_openSeason :
    ∃ t row, openSeason.calcMainTables firstSeen "overall" = .ok (some t) ∧
      loc t "Chelsea" = .ok row ∧ AveragesDefined openSeason.data "Chelsea" row.toTeamRecord :=
  (overall_averages_defined_iff firstSeen openSeason complete_openSeason "Chelsea"
    (by decide)).mpr (by decide)

/-- Leeds has only played away. -/
theorem not_averagesDefined_openSeason :
    NoMissingCells openSeason.data ∧ Occurs openSeason.data "Leeds" ∧
      ¬ ∃ t row, openSeason.calcMainTables firstSeen "overall" = .ok (some t) ∧
        loc t "Leeds" = .ok row ∧ AveragesDefined openSeason.data "Leeds" row.toTeamRecord := by
  refine ⟨complete_openSeason, by decide, ?_⟩
  rintro ⟨t, row, ht, hloc, hdef⟩
  have hnan : (rowOf firstSeen openSeason .overall "Leeds").goalsScoredPg = .nan := by
    decide +kernel
  rw [eq_rowOf (v := .overall) (by decide) ht hloc] at hdef
  exact (hdef .goalsScored List.mem_cons_self).1 hnan

end PremierLeague.Proofs
