import PremierLeague.Proofs.OverallTable
import PremierLeague.Summaries

/-!
# Totals across the tables and summaries

Summing a column over the teams counts every match once for its home team and once for its
away team. The column totals of the tables therefore agree with the season totals of the
summaries, which are computed from the matches directly.
-/

namespace PremierLeague.Proofs

open Tabular SeasonSummary

/-! ### Sums over the teams -/

lemma home_mem_teams {R : Runtime} {s : SeasonSummary} : ∀ m ∈ s.data, m.HomeTeam ∈ s.teams R :=
  fun m hm => mem_teams.mpr ⟨m, hm, Or.inl rfl⟩

lemma away_mem_teams {R : Runtime} {s : SeasonSummary} : ∀ m ∈ s.data, m.AwayTeam ∈ s.teams R :=
  fun m hm => mem_teams.mpr ⟨m, hm, Or.inr rfl⟩

/-- Summing over the views of every team sums over the matches. -/
lemma sum_views {M : Type*} [AddCommMonoid M] (R : Runtime) (s : SeasonSummary)
    {key : Match → String} (hkey : ∀ m ∈ s.data, key m ∈ s.teams R) (view : Match → View)
    (f : View → M) :
    ((s.teams R).map (fun t =>
        (((s.data.filter (fun m => key m == t)).map view).map f).sum)).sum =
      (s.data.map (fun m => f (view m))).sum := by
  rw [← sum_fibers key (nodup_teams R s) hkey]
  congr 1
  apply List.map_congr_left
  intro t _
  rw [List.map_map]
  rfl

/-- The total of a column that sums over the views. -/
lemma total_col {M : Type*} [AddCommMonoid M] (R : Runtime) (s : SeasonSummary) (f : View → M)
    (col : TeamRecord → M) (hcol : ∀ t us, col (recordOf t us) = (us.map f).sum) :
    ((table R s .home).map (fun r => col r.toTeamRecord)).sum =
        (s.data.map (fun m => f (homeView m))).sum ∧
      ((table R s .away).map (fun r => col r.toTeamRecord)).sum =
        (s.data.map (fun m => f (awayView m))).sum := by
  constructor
  · rw [sum_table, ← sum_views R s home_mem_teams homeView]
    congr 1
    apply List.map_congr_left
    intro t _
    exact (congrArg col (homeRecord_eq s.data t)).trans (hcol t _)
  · rw [sum_table, ← sum_views R s away_mem_teams awayView]
    congr 1
    apply List.map_congr_left
    intro t _
    exact (congrArg col (awayRecord_eq s.data t)).trans (hcol t _)

lemma total_count (R : Runtime) (s : SeasonSummary) (p : View → Bool) (col : TeamRecord → ℕ)
    (hcol : ∀ t us, col (recordOf t us) = us.countP p) :
    ((table R s .home).map (fun r => col r.toTeamRecord)).sum =
        s.data.countP (fun m => p (homeView m)) ∧
      ((table R s .away).map (fun r => col r.toTeamRecord)).sum =
        s.data.countP (fun m => p (awayView m)) := by
  rw [countP_eq_sum_map, countP_eq_sum_map]
  exact total_col R s (fun u => if p u then 1 else 0) col
    (fun t us => (hcol t us).trans (countP_eq_sum_map p us))

lemma total_sum (R : Runtime) (s : SeasonSummary) (f : View → Cell) (col : TeamRecord → ℚ)
    (hcol : ∀ t us, col (recordOf t us) = Series.sum (us.map f)) :
    ((table R s .home).map (fun r => col r.toTeamRecord)).sum =
        Series.sum (s.data.map (fun m => f (homeView m))) ∧
      ((table R s .away).map (fun r => col r.toTeamRecord)).sum =
        Series.sum (s.data.map (fun m => f (awayView m))) := by
  rw [Series.sum_map, Series.sum_map]
  exact total_col R s (fun u => (f u).val) col (fun t us => (hcol t us).trans (Series.sum_map f us))

lemma total_overall {M : Type*} [AddCommMonoid M] (R : Runtime) (s : SeasonSummary)
    (col : TeamRecord → M)
    (hcol : ∀ t home away, col (overallRecord t home away) = col home + col away) :
    ((table R s .overall).map (fun r => col r.toTeamRecord)).sum =
      ((table R s .home).map (fun r => col r.toTeamRecord)).sum +
        ((table R s .away).map (fun r => col r.toTeamRecord)).sum := by
  rw [sum_table, sum_table, sum_table, ← List.sum_map_add]
  congr 1
  apply List.map_congr_left
  intro t _
  exact hcol t _ _

/-! ### Season totals -/

/-- The full-time result agrees with the full-time goals. -/
def FtrConsistent (data : List Match) : Prop :=
  ∀ m ∈ data, (m.FTR = some "H" ↔ Cell.lt m.FTAG m.FTHG = true) ∧
    (m.FTR = some "D" ↔ Cell.eq m.FTHG m.FTAG = true) ∧
    (m.FTR = some "A" ↔ Cell.lt m.FTHG m.FTAG = true)

instance (data : List Match) : Decidable (FtrConsistent data) :=
  inferInstanceAs (Decidable (∀ m ∈ data, _))

lemma length_withResult {s : SeasonSummary} {ftr : String} {p : Match → Bool}
    (h : ∀ m ∈ s.data, m.FTR = some ftr ↔ p m = true) :
    (s.withResult ftr).length = s.data.countP p := by
  unfold withResult
  rw [← List.countP_eq_length_filter]
  apply List.countP_congr
  intro m hm
  rw [beq_iff_eq]
  exact h m hm

/-- The column totals of the three tables are the season totals. -/
structure Conserved (home away overall : Table) (homeWin draw awayWin : FtResultsRow)
    (homeGoals awayGoals totalGoals : GoalsRow) (totalStats : SummaryRow) (n : ℕ) : Prop where
  home_won : (home.map (fun r => r.won)).sum = homeWin.matchCnt
  away_lost : (away.map (fun r => r.lost)).sum = homeWin.matchCnt
  home_lost : (home.map (fun r => r.lost)).sum = awayWin.matchCnt
  away_won : (away.map (fun r => r.won)).sum = awayWin.matchCnt
  home_draw : (home.map (fun r => r.draw)).sum = draw.matchCnt
  away_draw : (away.map (fun r => r.draw)).sum = draw.matchCnt
  played : (overall.map (fun r => r.played)).sum = 2 * n
  points : (overall.map (fun r => r.points)).sum =
    3 * (homeWin.matchCnt + awayWin.matchCnt) + 2 * draw.matchCnt
  home_scored : (home.map (fun r => r.goalsScored)).sum = homeGoals.ftCnt
  away_conceded : (away.map (fun r => r.goalsConceded)).sum = homeGoals.ftCnt
  away_scored : (away.map (fun r => r.goalsScored)).sum = awayGoals.ftCnt
  home_conceded : (home.map (fun r => r.goalsConceded)).sum = awayGoals.ftCnt
  overall_scored : (overall.map (fun r => r.goalsScored)).sum = totalGoals.ftCnt
  overall_conceded : (overall.map (fun r => r.goalsConceded)).sum = totalGoals.ftCnt
  gd : (overall.map (fun r => r.gd)).sum = 0
  red_cards : Dict.get? totalStats.cells "red_cards_cnt" =
    some (.fin (overall.map (fun r => r.redCardsTotal)).sum)

lemma total_points (R : Runtime) (s : SeasonSummary) :
    ((table R s .overall).map (fun r => r.points)).sum =
      3 * (((table R s .home).map (fun r => r.won)).sum +
          ((table R s .away).map (fun r => r.won)).sum) +
        (((table R s .home).map (fun r => r.draw)).sum +
          ((table R s .away).map (fun r => r.draw)).sum) := by
  simp only [sum_table]
  induction s.teams R with
  | nil => rfl
  | cons t ts ih =>
    simp only [List.map_cons, List.sum_cons, ih]
    have hpoints : (rowOf R s .overall t).points =
        ((rowOf R s .home t).won + (rowOf R s .away t).won) * 3 +
          ((rowOf R s .home t).draw + (rowOf R s .away t).draw) := rfl
    omega

lemma total_gd (R : Runtime) (s : SeasonSummary) :
    ((table R s .overall).map (fun r => r.gd)).sum =
      ((table R s .overall).map (fun r => r.goalsScored)).sum -
        ((table R s .overall).map (fun r => r.goalsConceded)).sum := by
  simp only [sum_table]
  induction s.teams R with
  | nil => simp
  | cons t ts ih =>
    have hgd : (rowOf R s .overall t).gd =
        (rowOf R s .overall t).goalsScored - (rowOf R s .overall t).goalsConceded := by
      have hst := standing_record .overall s.data t
      simp only [standing, recordOf, Standing.mk.injEq] at hst
      obtain ⟨-, -, -, -, hs, hc, hg, -, -⟩ := hst
      simp only [rowOf_toTeamRecord, hs, hc, hg]
    simp only [List.map_cons, List.sum_cons, ih, hgd]
    ring

lemma total_redCards (R : Runtime) {s : SeasonSummary} (hc : NoMissingCells s.data) :
    ((table R s .overall).map (fun r => r.redCardsTotal)).sum =
      Series.sum (s.data.map (fun m => Cell.add m.HR m.AR)) := by
  have hred := total_sum R s (·.redCards) (fun r => r.redCardsTotal) (fun _ _ => rfl)
  rw [total_overall R s (fun r => r.redCardsTotal) (fun _ _ _ => rfl), hred.1, hred.2,
    Series.sum_map_add (fun m hm => (hc m hm).HR) (fun m hm => (hc m hm).AR)]
  rfl

/-! ### Results of the matches -/

/-- A draw is one for both sides. -/
lemma countP_awayView_draw (data : List Match) :
    data.countP (fun m => (awayView m).draw) = data.countP (fun m => (homeView m).draw) := by
  congr 1
  funext m
  exact Cell.eq_comm _ _

section Results

variable {s : SeasonSummary} (hf : FtrConsistent s.data)

include hf

lemma length_homeWins :
    (s.withResult "H").length = s.data.countP (fun m => (homeView m).won) :=
  length_withResult (fun m hm => (hf m hm).1)

lemma length_draws : (s.withResult "D").length = s.data.countP (fun m => (homeView m).draw) :=
  length_withResult (fun m hm => (hf m hm).2.1)

lemma length_awayWins :
    (s.withResult "A").length = s.data.countP (fun m => (homeView m).lost) :=
  length_withResult (fun m hm => (hf m hm).2.2)

lemma total_points_results (R : Runtime) :
    ((table R s .overall).map (fun r => r.points)).sum =
      3 * ((s.withResult "H").length + (s.withResult "A").length) +
        2 * (s.withResult "D").length := by
  have hwon := total_count R s View.won (fun r => r.won) (fun _ _ => rfl)
  have hdraw := total_count R s View.draw (fun r => r.draw) (fun _ _ => rfl)
  have haway : s.data.countP (fun m => (awayView m).won) =
      s.data.countP (fun m => (homeView m).lost) := rfl
  rw [total_points, hwon.1, hwon.2, hdraw.1, hdraw.2, countP_awayView_draw, length_homeWins hf,
    length_draws hf, length_awayWins hf, haway]
  omega

end Results

/-- Every match is counted once for each side, by the tables and by the summaries. -/
theorem season_totals_conserved (R : Runtime) (s : SeasonSummary) (hc : NoMissingCells s.data)
    (hf : FtrConsistent s.data) :
    ∃ home away overall homeWin draw awayWin homeGoals awayGoals totalGoals totalStats,
      s.calcMainTables R "home" = .ok (some home) ∧
      s.calcMainTables R "away" = .ok (some away) ∧
      s.calcMainTables R "overall" = .ok (some overall) ∧
      s.summaryFtResults = [homeWin, draw, awayWin] ∧ homeWin.index = "home_win" ∧
      draw.index = "draw" ∧ awayWin.index = "away_win" ∧
      s.summaryGoals = [homeGoals, awayGoals, totalGoals] ∧ homeGoals.index = "home_goals" ∧
      awayGoals.index = "away_goals" ∧ totalGoals.index = "total_goals" ∧
      totalStats ∈ s.summaryStats ∧ totalStats.index = "Total" ∧
      Conserved home away overall homeWin draw awayWin homeGoals awayGoals totalGoals totalStats
        s.numOfMatches := by
  have hH := length_homeWins hf
  have hD := length_draws hf
  have hA := length_awayWins hf
  have hwon := total_count R s View.won (fun r => r.won) (fun _ _ => rfl)
  have hdraw := total_count R s View.draw (fun r => r.draw) (fun _ _ => rfl)
  have hlost := total_count R s View.lost (fun r => r.lost) (fun _ _ => rfl)
  have hplayed := total_count R s (fun _ => true) (fun r => r.played)
    (fun _ us => by rw [List.countP_true]; rfl)
  have hscored := total_sum R s (·.goalsFor) (fun r => r.goalsScored) (fun _ _ => rfl)
  have hconceded := total_sum R s (·.goalsAgainst) (fun r => r.goalsConceded)
    (fun _ _ => rfl)
  have hscored' := total_overall R s (fun r => r.goalsScored) (fun _ _ _ => rfl)
  have hconceded' := total_overall R s (fun r => r.goalsConceded) (fun _ _ _ => rfl)
  refine ⟨table R s .home, table R s .away, table R s .overall, _, _, _, _, _, _, _,
    calcMainTables_eq R s .home, calcMainTables_eq R s .away, calcMainTables_eq R s .overall,
    rfl, rfl, rfl, rfl, rfl, rfl, rfl, rfl,
    List.mem_cons_of_mem _ (List.mem_cons_of_mem _ List.mem_cons_self), rfl, ?_⟩
  constructor
  · exact hwon.1.trans hH.symm
  · exact hlost.2.trans hH.symm
  · exact hlost.1.trans hA.symm
  · exact hwon.2.trans hA.symm
  · exact hdraw.1.trans hD.symm
  · exact (hdraw.2.trans (countP_awayView_draw s.data)).trans hD.symm
  · rw [total_overall R s (fun r => r.played) (fun _ _ _ => rfl), hplayed.1, hplayed.2,
      List.countP_true, s.numOfMatches_eq]
    omega
  · exact total_points_results hf R
  · exact hscored.1
  · exact hconceded.2
  · exact hscored.2
  · exact hconceded.1
  · rw [hscored', hscored.1, hscored.2]
    rfl
  · rw [hconceded', hconceded.1, hconceded.2, Rat.add_comm]
    rfl
  · rw [total_gd, hscored', hconceded', hscored.1, hscored.2, hconceded.1, hconceded.2]
    simp only [homeView, awayView]
    ring
  · rw [total_redCards R hc]
    rfl

theorem season_totals_conserved_openSeason :
    ∃ overall : Table, openSeason.calcMainTables firstSeen "overall" = .ok (some overall) ∧
      (overall.map (fun r => r.played)).sum = 6 ∧
      (overall.map (fun r => r.goalsScored)).sum = 7 := by
  obtain ⟨_, _, overall, _, _, _, _, _, totalGoals, _, -, -, ho, -, -, -, -, hg, -, -, -, -, -,
    h⟩ := season_totals_conserved firstSeen openSeason complete_openSeason (by decide +kernel)
  refine ⟨overall, ho, h.played, h.overall_scored.trans ?_⟩
  have htotal : totalGoals = openSeason.summaryGoals[2] := by
    simp only [hg]
    rfl
  rw [htotal]
  decide +kernel

end PremierLeague.Proofs
