import PremierLeague.Proofs.League
import PremierLeague.Proofs.OrderIndependence
import PremierLeague.Proofs.Pages

/-!
# The season that a page shows

What a page shows is decided by the rows of the season. The League Tables page shows the league
that playing these matches one after the other leads to: one row for each team, with its standing,
and in the order of points, goal difference and goals as long as these are not packed too high.
The rows of other seasons, the order of the rows and what the interpreter leaves open show on no
page, except in the order of rows of equal rank.
-/

namespace PremierLeague.Proofs

open Tabular SeasonSummary

/-! ### The league that a page shows -/

/-- The figures of a standing on the League Tables page. -/
def Standing.figures (a : Standing) : Dict String ExactFloat := [
  ("played", .fin a.played), ("won", .fin a.won), ("draw", .fin a.draw), ("lost", .fin a.lost),
  ("goals_scored", .fin a.goalsScored), ("goals_conceded", .fin a.goalsConceded),
  ("gd", .fin a.gd), ("points", .fin a.points)]

/-- Points, goal difference and goals scored, compared lexicographically. -/
def Standing.criteria (a : Standing) : Lex (ℕ × Lex (ℚ × ℚ)) :=
  toLex (a.points, toLex (a.gd, a.goalsScored))

lemma pick_columns (r : TableRow) :
    pick displayCols r.columns = (standing r.toTeamRecord).figures := rfl

lemma criteria_record (v : Venue) (df : List Match) (team : String) :
    criteria (v.record df team) = (v.league df team).criteria := by
  rw [← standing_eq_league]
  rfl

/-- The rows of a table on the League Tables page. -/
def leagueRows (t : Table) : List (String × Dict String ExactFloat) :=
  t.map (fun r => (r.team, pick displayCols r.columns))

lemma map_fst_leagueRows (t : Table) : (leagueRows t).map Prod.fst = t.map (·.team) :=
  List.map_map

/-- The rows show the league of a venue after the given matches: one row for each of its teams,
with its standing, in the order of the ranking criteria when no team has more than 499 goals. -/
structure ShowsLeague (v : Venue) (ms : List Match)
    (rows : List (String × Dict String ExactFloat)) : Prop where
  nodup : (rows.map Prod.fst).Nodup
  teams : ∀ team, team ∈ rows.map Prod.fst ↔ Occurs ms team
  figures : ∀ r ∈ rows, r.2 = (v.league ms r.1).figures
  order : WholeGoals ms → GoalsBelow500 ms → (rows.map Prod.fst).Pairwise
    (fun t u => (v.league ms u).criteria ≤ (v.league ms t).criteria)

/-- Within the bound, rows in the order of the packed criteria are in that of the criteria. -/
lemma criteria_sorted (R : Runtime) {s : SeasonSummary} (v : Venue) (hw : WholeGoals s.data)
    (hb : GoalsBelow500 s.data) : ((table R s v).map (·.team)).Pairwise
      (fun t u => (v.league s.data u).criteria ≤ (v.league s.data t).criteria) := by
  rw [List.pairwise_map]
  apply (key_sorted R s v).imp_of_mem
  intro r r' hr hr' hkey
  obtain ⟨t, ht, rfl⟩ := mem_table.mp hr
  obtain ⟨u, hu, rfl⟩ := mem_table.mp hr'
  rw [rowOf_team, rowOf_team] at hkey ⊢
  rw [← criteria_record, ← criteria_record, ← not_lt,
    ← rankPoints_lt_iff (bounded_record hw hb v ht) (bounded_record hw hb v hu), not_lt]
  exact hkey

lemma showsLeague_table (R : Runtime) (s : SeasonSummary) (v : Venue) :
    ShowsLeague v s.data (leagueRows (table R s v)) := by
  constructor
  · rw [map_fst_leagueRows, (map_table_team R s v).nodup_iff]
    exact nodup_teams R s
  · intro team
    rw [map_fst_leagueRows, (map_table_team R s v).mem_iff, mem_teams]
  · intro r hr
    obtain ⟨row, hrow, rfl⟩ := List.mem_map.mp hr
    obtain ⟨team, -, rfl⟩ := mem_table.mp hrow
    rw [pick_columns, rowOf_toTeamRecord, standing_eq_league, Venue.record_team]
  · rw [map_fst_leagueRows]
    exact criteria_sorted R v

/-- When the League Tables page is shown, it shows the league after the matches of the season. -/
theorem page_shows_league (R : Runtime) (allDf : List Match) (choice : Choice)
    (h : Offered allDf choice) (hpage : choice.page = "League Tables")
    (hok : (plApp R allDf choice).result = .ok ()) :
    ∃ v rows, choice.tableType = Venue.label v ∧
      plApp R allDf choice = ⟨[.figures rows], .ok ()⟩ ∧
      ShowsLeague v (SeasonSummary.init allDf choice.season).data rows := by
  obtain ⟨v, hv⟩ := exists_venue h.tableType
  obtain ⟨hs, -⟩ := (result_ok_iff R h).mp hok
  refine ⟨v, _, hv, ?_, showsLeague_table R (SeasonSummary.init allDf choice.season) v⟩
  rw [plApp_league R h hs hpage, hv, leaguePage_eq]
  rfl

/-- Two matches of the season 18-19, and a match of the season after it. -/
def twoSeasons : List Match :=
  [{ fixture "Chelsea" "Arsenal" 1 0 with season := "18-19" },
    { fixture "Arsenal" "Chelsea" 2 2 with season := "18-19" },
    { fixture "Arsenal" "Chelsea" 3 0 with season := "19-20" }]

/-- After the season 18-19 Chelsea stands above Arsenal, with four points from two matches. -/
theorem page_shows_league_twoSeasons : ∃ rows chelsea,
    plApp firstSeen twoSeasons ⟨"League Tables", "18-19", "overall", "Arsenal", "Chelsea"⟩ =
        ⟨[.figures rows], .ok ()⟩ ∧
      rows.map Prod.fst = ["Chelsea", "Arsenal"] ∧ ("Chelsea", chelsea) ∈ rows ∧
      Dict.get? chelsea "played" = some (.fin 2) ∧ Dict.get? chelsea "points" = some (.fin 4) := by
  obtain ⟨v, rows, hv, hrun, hleague⟩ := page_shows_league firstSeen twoSeasons
    ⟨"League Tables", "18-19", "overall", "Arsenal", "Chelsea"⟩ (by decide +kernel) rfl
    (by decide +kernel)
  obtain rfl : v = .overall := by
    cases v with
    | home => exact absurd hv (by decide)
    | away => exact absurd hv (by decide)
    | overall => rfl
  have hteams : (SeasonSummary.init twoSeasons "18-19").teams firstSeen =
      ["Chelsea", "Arsenal"] := by decide +kernel
  have hperm : (rows.map Prod.fst).Perm ["Chelsea", "Arsenal"] := by
    rw [← hteams, List.perm_ext_iff_of_nodup hleague.nodup (nodup_teams _ _)]
    exact fun team => (hleague.teams team).trans mem_teams.symm
  let criteria := fun team =>
    (Venue.overall.league (SeasonSummary.init twoSeasons "18-19").data team).criteria
  have hinj : ∀ t ∈ ["Chelsea", "Arsenal"], ∀ u ∈ ["Chelsea", "Arsenal"],
      criteria u ≤ criteria t → criteria t ≤ criteria u → t = u := by
    decide +kernel
  have horder := hleague.order (wholeGoals_of_goalCounts (by decide +kernel))
    (forall_occurs_iff.mpr (by decide +kernel))
  have hsorted := hperm.eq_of_pairwise (fun t u ht hu => hinj t (hperm.mem_iff.mp ht) u hu) horder
    (by decide +kernel)
  obtain ⟨⟨team, chelsea⟩, hr, rfl⟩ := List.mem_map.mp (hperm.mem_iff.mpr List.mem_cons_self)
  have hfigures : chelsea = (Venue.overall.league
      (SeasonSummary.init twoSeasons "18-19").data "Chelsea").figures := hleague.figures _ hr
  refine ⟨rows, chelsea, hrun, hsorted, hr, ?_, ?_⟩
  · rw [hfigures]
    decide +kernel
  · rw [hfigures]
    decide +kernel

/-! ### The same season -/

/-- Two runs show the same, but for the order of rows of equal rank in a league table. -/
inductive SamePage : Page → Page → Prop where
  | same (page : Page) : SamePage page page
  | league {t t' : Table} (h : SameUpToTies t t') :
    SamePage ⟨[.figures (leagueRows t)], .ok ()⟩ ⟨[.figures (leagueRows t')], .ok ()⟩

section Reordered

variable (R R' : Runtime) {s s' : SeasonSummary} (hp : s.data.Perm s'.data) {team : String}

include hp

lemma teamColumn_perm : teamColumn R s team = teamColumn R' s' team := by
  by_cases ht : Occurs s.data team
  · have hrow : ∀ v, rowOf R s v team = rowOf R' s' v team :=
      fun v => rowOf_congr R R' (occurs_perm hp) (record_perm hp v) ht
    rw [teamColumn_of_occurs R ht, teamColumn_of_occurs R' ((occurs_perm hp team).mp ht)]
    unfold teamTables
    rw [hrow .overall, hrow .home, hrow .away]
  · rw [teamColumn_of_not_occurs R ht,
      teamColumn_of_not_occurs R' (fun h => ht ((occurs_perm hp team).mpr h))]

lemma leaguePage_perm (v : Venue) :
    SamePage (leaguePage R s v.label) (leaguePage R' s' v.label) := by
  rw [leaguePage_eq, leaguePage_eq]
  exact SamePage.league (sameUpToTies_table R R' (occurs_perm hp) (record_perm hp v))

end Reordered

section Choice

variable (R R' : Runtime) {allDf allDf' : List Match} {choice : Choice}
  (hp : (SeasonSummary.init allDf choice.season).data.Perm
    (SeasonSummary.init allDf' choice.season).data)
  (h : Offered allDf choice)

include hp h

/-- A season that is offered by one menu is offered by the other. -/
lemma offered_perm : Offered allDf' choice := by
  obtain ⟨m, hm⟩ := List.exists_mem_of_ne_nil _ (data_ne_nil_of_offered h)
  obtain ⟨hm, hseason⟩ := List.mem_filter.mp (hp.mem_iff.mp hm)
  refine ⟨h.page, ?_, h.tableType, h.homeTeam, h.awayTeam⟩
  rw [← eq_of_beq hseason]
  exact Series.mem_unique.mpr (List.mem_map_of_mem hm)

variable (hmatrix : (SeasonSummary.init allDf choice.season).getResultMatrix =
    (SeasonSummary.init allDf' choice.season).getResultMatrix)

include hmatrix

lemma plApp_perm : SamePage (plApp R allDf choice) (plApp R' allDf' choice) ∧
    (choice.page ≠ "League Tables" → plApp R allDf choice = plApp R' allDf' choice) := by
  cases hfr : (SeasonSummary.init allDf choice.season).getResultMatrix with
  | error e =>
    have hrun : plApp R allDf choice = plApp R' allDf' choice := by
      rw [plApp_of_error R hfr, plApp_of_error R' (hmatrix.symm.trans hfr)]
    exact ⟨hrun ▸ SamePage.same _, fun _ => hrun⟩
  | ok fr =>
    have hs : FixturesScored (SeasonSummary.init allDf choice.season) :=
      getResultMatrix_ok_iff.mp ⟨fr, hfr⟩
    have hs' : FixturesScored (SeasonSummary.init allDf' choice.season) :=
      getResultMatrix_ok_iff.mp ⟨fr, hmatrix.symm.trans hfr⟩
    have h' := offered_perm hp h
    by_cases hpage : choice.page = "League Tables"
    · refine ⟨?_, fun hne => absurd hpage hne⟩
      obtain ⟨v, hv⟩ := exists_venue h.tableType
      rw [plApp_league R h hs hpage, plApp_league R' h' hs' hpage, hv]
      exact leaguePage_perm R R' hp v
    · have hrun : plApp R allDf choice = plApp R' allDf' choice := by
        rw [plApp_of_matrix R h hfr, plApp_of_matrix R' h' (hmatrix.symm.trans hfr),
          teamColumn_perm R R' hp, teamColumn_perm R R' hp]
        simp only [hpage, if_false]
      exact ⟨hrun ▸ SamePage.same _, fun _ => hrun⟩

end Choice

/-- The two matches of the season 18-19 in the other order, after a match of another season. -/
def reordered : List Match :=
  [{ fixture "Leeds" "Arsenal" 5 1 with season := "17-18" },
    { fixture "Arsenal" "Chelsea" 2 2 with season := "18-19" },
    { fixture "Chelsea" "Arsenal" 1 0 with season := "18-19" }]

end PremierLeague.Proofs
