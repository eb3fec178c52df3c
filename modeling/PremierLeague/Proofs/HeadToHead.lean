import PremierLeague.Proofs.TeamStats
import PremierLeague.PlApp

/-!
# The selections of the Head-to-Head page

The season menu follows the data and the team menus do not. The page looks the chosen teams up
in the tables of the chosen season, so it returns for every selection exactly when all teams of
the menus play in all seasons of the data.
-/

namespace PremierLeague.Proofs

open Tabular SeasonSummary

lemma occurs_init {allDf : List Match} {season team : String} :
    Occurs (SeasonSummary.init allDf season).data team ↔
      ∃ m ∈ allDf, m.season = season ∧ (m.HomeTeam = team ∨ m.AwayTeam = team) := by
  unfold Occurs SeasonSummary.init
  simp only [List.mem_filter, beq_iff_eq, and_assoc]

lemma headToHead_ok_iff (R : Runtime) {allDf : List Match} {season home away : String} :
    (∃ stats, headToHead R allDf season home away = .ok stats) ↔
      Occurs (SeasonSummary.init allDf season).data home ∧
        Occurs (SeasonSummary.init allDf season).data away := by
  constructor
  · rintro ⟨stats, hstats⟩
    obtain ⟨homeStats, hhome, hstats⟩ := exists_of_bind_ok hstats
    obtain ⟨awayStats, haway, -⟩ := exists_of_bind_ok hstats
    exact ⟨(calcTeamStats_ok_iff R).mp ⟨_, hhome⟩, (calcTeamStats_ok_iff R).mp ⟨_, haway⟩⟩
  · rintro ⟨hhome, haway⟩
    obtain ⟨homeStats, hhome⟩ := (calcTeamStats_ok_iff R).mpr hhome
    obtain ⟨awayStats, haway⟩ := (calcTeamStats_ok_iff R).mpr haway
    refine ⟨(homeStats, awayStats), ?_⟩
    unfold headToHead
    dsimp only
    rw [hhome, ok_bind, haway]
    rfl

/-- The page returns for every choice from its menus. -/
def SelectionsReturn (R : Runtime) (allDf : List Match) : Prop :=
  ∀ season ∈ seasonMenu allDf, ∀ home ∈ homeMenu, ∀ away ∈ awayMenu,
    ∃ homeStats awayStats, headToHead R allDf season home away = .ok (homeStats, awayStats)

/-- Every team of the menus has a match in every season of the data. -/
def MenuTeamsPlay (allDf : List Match) : Prop :=
  ∀ season ∈ seasonMenu allDf, ∀ team ∈ homeMenu ++ awayMenu,
    ∃ m ∈ allDf, m.season = season ∧ (m.HomeTeam = team ∨ m.AwayTeam = team)

theorem selectionsReturn_iff (R : Runtime) (allDf : List Match) :
    SelectionsReturn R allDf ↔ MenuTeamsPlay allDf := by
  constructor
  · intro h season hseason team hteam
    -- the two menus list the same teams, so one selection shows the team on both sides
    have hboth : team ∈ homeMenu ∧ team ∈ awayMenu := by
      rcases List.mem_append.mp hteam with hteam | hteam
      · exact ⟨hteam, hteam⟩
      · exact ⟨hteam, hteam⟩
    obtain ⟨homeStats, awayStats, hok⟩ := h season hseason team hboth.1 team hboth.2
    exact occurs_init.mp ((headToHead_ok_iff R).mp ⟨_, hok⟩).1
  · intro h season hseason home hhome away haway
    have hoccurs := fun team hteam => occurs_init.mpr (h season hseason team hteam)
    obtain ⟨⟨homeStats, awayStats⟩, hok⟩ := (headToHead_ok_iff R).mpr
      ⟨hoccurs home (List.mem_append_left _ hhome), hoccurs away (List.mem_append_right _ haway)⟩
    exact ⟨homeStats, awayStats, hok⟩

/-- Three matches of the season 01-02, in which Man City did not play. -/
def cityRelegated : List Match :=
  [{ fixture "Liverpool" "Arsenal" 1 2 with season := "01-02" },
    { fixture "Chelsea" "Man United" 0 3 with season := "01-02" },
    { fixture "Tottenham" "Liverpool" 1 0 with season := "01-02" }]

theorem not_selectionsReturn_cityRelegated :
    NoMissingCells cityRelegated ∧ NoMissingOdds cityRelegated ∧
      "01-02" ∈ seasonMenu cityRelegated ∧ "Man City" ∈ homeMenu ∧ "Arsenal" ∈ awayMenu ∧
      headToHead firstSeen cityRelegated "01-02" "Man City" "Arsenal" =
        .error (.keyError "Man City") ∧
      ¬ SelectionsReturn firstSeen cityRelegated := by
  have hraise : headToHead firstSeen cityRelegated "01-02" "Man City" "Arsenal" =
      .error (.keyError "Man City") := by decide +kernel
  refine ⟨?_, ?_, by decide, by decide, by decide, hraise, ?_⟩
  · unfold NoMissingCells cityRelegated
    simp only [List.forall_mem_cons]
    refine ⟨?_, ?_, ?_, by simp⟩ <;> constructor <;> rfl
  · unfold NoMissingOdds cityRelegated
    simp only [List.forall_mem_cons]
    refine ⟨?_, ?_, ?_, by simp⟩ <;> constructor <;> rfl
  · intro h
    obtain ⟨homeStats, awayStats, hok⟩ := h "01-02" (by decide) "Man City" (by decide) "Arsenal"
      (by decide)
    rw [hraise] at hok
    exact nomatch hok

end PremierLeague.Proofs
