import PremierLeague.Proofs.ResultMatrix
import PremierLeague.Summaries

/-!
# The order of the matches

Every reduction of a column, every count and every fiber of the season is independent of the
order in which the matches are listed. The matrix reads the first match of a fixture, which is
the only one. So the order of the rows, like the order in which the set of teams is enumerated,
can only show in the order of rows of equal rank.
-/

namespace PremierLeague.Proofs

open Tabular SeasonSummary

section Reordered

variable {s s' : SeasonSummary} (hp : s.data.Perm s'.data)

include hp

lemma numOfMatches_perm : s.numOfMatches = s'.numOfMatches := by
  rw [s.numOfMatches_eq, s'.numOfMatches_eq, hp.length_eq]

lemma sum_column_perm (f : Match → Cell) :
    Series.sum (s.data.map f) = Series.sum (s'.data.map f) :=
  Series.sum_perm (hp.map f)

lemma mean_column_perm (f : Match → Cell) :
    Series.mean (s.data.map f) = Series.mean (s'.data.map f) :=
  Series.mean_perm (hp.map f)

lemma withResult_perm (ftr : String) : (s.withResult ftr).Perm (s'.withResult ftr) :=
  hp.filter _

/-! ### Summaries -/

lemma summaryGoals_perm : s.summaryGoals = s'.summaryGoals := by
  unfold summaryGoals
  simp only [sum_column_perm hp, numOfMatches_perm hp]

lemma summaryFtResults_perm : s.summaryFtResults = s'.summaryFtResults := by
  have hlen : ∀ ftr, (s.withResult ftr).length = (s'.withResult ftr).length :=
    fun ftr => (withResult_perm hp ftr).length_eq
  have hmean : ∀ ftr (f : Match → Cell), Series.mean ((s.withResult ftr).map f) =
      Series.mean ((s'.withResult ftr).map f) :=
    fun ftr f => Series.mean_perm ((withResult_perm hp ftr).map f)
  unfold summaryFtResults
  simp only [mean_column_perm hp, hlen, hmean]

lemma summaryGoalSpread_perm : s.summaryGoalSpread = s'.summaryGoalSpread := by
  have hcnt : s.scoreCnt = s'.scoreCnt := by
    funext i j
    exact (hp.filter _).length_eq
  unfold summaryGoalSpread
  rw [hcnt, numOfMatches_perm hp]

lemma marketRows_perm : s.marketRows = s'.marketRows := by
  have hcnt : s.underCnt = s'.underCnt := by
    funext goal
    exact (hp.filter _).length_eq
  funext k
  unfold marketRows
  rw [hcnt, numOfMatches_perm hp]

lemma summaryGoalMarkets_perm : s.summaryGoalMarkets = s'.summaryGoalMarkets := by
  unfold summaryGoalMarkets
  rw [marketRows_perm hp]

lemma statBlock_perm (h a : Match → Cell) : s.statBlock h a = s'.statBlock h a := by
  unfold statBlock
  simp only [sum_column_perm hp, mean_column_perm hp, Series.max_perm (hp.map _),
    Series.min_perm (hp.map _)]

lemma summaryStats_perm : s.summaryStats = s'.summaryStats := by
  unfold summaryStats
  simp only [statBlock_perm hp]

/-! ### The matrix -/

lemma matrixTeams_perm : s.matrixTeams = s'.matrixTeams := by
  have hteams : s.matrixTeams.Perm s'.matrixTeams := by
    rw [List.perm_ext_iff_of_nodup (nodup_matrixTeams s) (nodup_matrixTeams s')]
    intro team
    simp only [mem_matrixTeams, hp.mem_iff]
  exact hteams.eq_of_pairwise (fun a b _ _ hab hba => absurd hab hba.not_gt)
    (matrixTeams_sorted s) (matrixTeams_sorted s')

lemma cellMatches_perm (hu : UniqueFixtures s.data) (team opponent : String) :
    cellMatches s team opponent = cellMatches s' team opponent := by
  have hfiber : ∀ data : List Match,
      data.filter (fun m => m.HomeTeam == team && m.AwayTeam == opponent) =
        data.filter (fun m => decide (m.fixture = (team, opponent))) := by
    intro data
    apply List.filter_congr
    intro m _
    rw [Bool.eq_iff_iff]
    simp [Match.fixture]
  unfold cellMatches
  rw [hfiber, hfiber]
  exact fiber_eq_of_perm Match.fixture hp hu (team, opponent)

lemma getResultMatrix_perm (hu : UniqueFixtures s.data) :
    s.getResultMatrix = s'.getResultMatrix := by
  have hcell : s.resultCell = s'.resultCell := by
    funext team opponent
    have hfilt := cellMatches_perm hp hu team opponent
    unfold cellMatches at hfilt
    unfold resultCell
    simp only [hfilt]
  unfold getResultMatrix
  rw [matrixTeams_perm hp, hcell]

/-! ### The tables -/

lemma record_perm (v : Venue) (team : String) : v.record s.data team = v.record s'.data team := by
  have hhome : homeRecord s.data team = homeRecord s'.data team := by
    rw [homeRecord_eq, homeRecord_eq]
    exact recordOf_perm team ((hp.filter _).map homeView)
  have haway : awayRecord s.data team = awayRecord s'.data team := by
    rw [awayRecord_eq, awayRecord_eq]
    exact recordOf_perm team ((hp.filter _).map awayView)
  cases v with
  | home => exact hhome
  | away => exact haway
  | overall =>
    change overallRecord team (homeRecord s.data team) (awayRecord s.data team) = _
    rw [hhome, haway]
    rfl

lemma occurs_perm (team : String) : Occurs s.data team ↔ Occurs s'.data team := by
  unfold Occurs
  simp only [hp.mem_iff]

end Reordered

/-- A table type is one of the three venues, or `calcMainTables` returns no table. -/
lemma label_or_none (tableType : String) : (∃ v : Venue, tableType = v.label) ∨
    ∀ (R : Runtime) (s : SeasonSummary), s.calcMainTables R tableType = .ok none := by
  by_cases hh : tableType = "home"
  · exact Or.inl ⟨.home, hh⟩
  by_cases ha : tableType = "away"
  · exact Or.inl ⟨.away, ha⟩
  by_cases ho : tableType = "overall"
  · exact Or.inl ⟨.overall, ho⟩
  · right
    intro R s
    unfold calcMainTables calcMainTablesBy
    simp only [hh, ha, ho, if_false]
    rfl

/-- Neither the order of the matches nor the enumeration of the set of teams changes a result,
except for the order of rows of equal rank. -/
theorem order_independence (s s' : SeasonSummary) (hp : s.data.Perm s'.data)
    (hu : UniqueFixtures s.data) :
    s.getResultMatrix = s'.getResultMatrix ∧ s.summaryGoals = s'.summaryGoals ∧
      s.summaryFtResults = s'.summaryFtResults ∧ s.summaryGoalSpread = s'.summaryGoalSpread ∧
      s.summaryGoalMarkets = s'.summaryGoalMarkets ∧ s.summaryStats = s'.summaryStats ∧
      ∀ (R R' : Runtime) (tableType : String),
        (∃ t t', s.calcMainTables R tableType = .ok (some t) ∧
          s'.calcMainTables R' tableType = .ok (some t') ∧ SameUpToTies t t') ∨
        (s.calcMainTables R tableType = .ok none ∧ s'.calcMainTables R' tableType = .ok none) := by
  refine ⟨getResultMatrix_perm hp hu, summaryGoals_perm hp, summaryFtResults_perm hp,
    summaryGoalSpread_perm hp, summaryGoalMarkets_perm hp, summaryStats_perm hp, ?_⟩
  intro R R' tableType
  rcases label_or_none tableType with ⟨v, rfl⟩ | hnone
  · left
    refine ⟨table R s v, table R' s' v, calcMainTables_eq R s v, calcMainTables_eq R' s' v, ?_⟩
    apply sameUpToTies_table
    · exact occurs_perm hp
    · exact record_perm hp v
  · exact Or.inr ⟨hnone R s, hnone R' s'⟩

theorem order_independence_openSeason :
    openSeason.getResultMatrix =
      (SeasonSummary.init openSeason.data.reverse "20-21").getResultMatrix := by
  have hp : openSeason.data.Perm (SeasonSummary.init openSeason.data.reverse "20-21").data := by
    have hdata : (SeasonSummary.init openSeason.data.reverse "20-21").data =
        openSeason.data.reverse := by decide +kernel
    rw [hdata]
    exact (List.reverse_perm _).symm
  exact (order_independence openSeason _ hp (by decide)).1

end PremierLeague.Proofs
