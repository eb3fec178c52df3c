import PremierLeague.MainTables

/-!
# The figures of one team

Three rows for a team, read from its rows in the overall, the home and the away table.
-/

namespace PremierLeague

open Tabular

structure StatsRow where
  category : String
  mp : ℕ
  win : ℕ
  draw : ℕ
  lost : ℕ
  gs : ℚ
  gc : ℚ
  totalGoals : ℚ
  position : ℕ
  points : ℕ
  avgPoints : ExactFloat
  avgGs : ExactFloat
  avgGc : ExactFloat
  avgGoals : ExactFloat
  cornersFor : ExactFloat
  cornersAgainst : ExactFloat
  cornersTotal : ExactFloat
  shotsOnGoalF : ExactFloat
  shotsOnGoalA : ExactFloat
  foulsCommited : ExactFloat
  foulsSuffered : ExactFloat
  foulsTotal : ExactFloat
deriving DecidableEq

/-- The row of one category, from the team's row in the table of that category. -/
def statsRow (category : String) (row : TableRow) : StatsRow where
  category := category
  mp := row.played
  win := row.won
  draw := row.draw
  lost := row.lost
  gs := row.goalsScored
  gc := row.goalsConceded
  totalGoals := row.goalsScored + row.goalsConceded
  position := row.rank
  points := row.points
  avgPoints := .fin row.points / .fin row.played
  avgGs := row.goalsScoredPg
  avgGc := row.goalsConcededPg
  avgGoals := row.goalsScoredPg + row.goalsConcededPg
  cornersFor := row.cornersFor
  cornersAgainst := row.cornersAgainst
  cornersTotal := row.cornersFor + row.cornersAgainst
  shotsOnGoalF := row.shotsToScoreAGoal
  shotsOnGoalA := row.shotsToConcedeAGoal
  foulsCommited := row.foulsCommited
  foulsSuffered := row.foulsSuffered
  foulsTotal := row.foulsCommited + row.foulsSuffered

namespace SeasonSummary

/-- `df.loc[team, ..]` on what `calcMainTables` returned; the number 0 has no `loc`. -/
def locResult (t : Option Table) (team : String) : Except PyError TableRow :=
  match t with
  | some t => loc t team
  | none => .error .attributeError

/-- The figures of a team from tables that are ranked by a column `rank_points`. -/
def calcTeamStatsBy (column : TeamRecord → ℚ) (R : Runtime) (self : SeasonSummary) (team : String) :
    Except PyError (List StatsRow) := do
  let overallMainTables ← self.calcMainTablesBy column R "overall"
  let homeMainTables ← self.calcMainTablesBy column R "home"
  let awayMainTables ← self.calcMainTablesBy column R "away"
  let dfs := [("Total", overallMainTables), ("Home", homeMainTables), ("Away", awayMainTables)]
  dfs.mapM (fun (row, df) => do return statsRow row (← locResult df team))

def calcTeamStats (R : Runtime) (self : SeasonSummary) (team : String) :
    Except PyError (List StatsRow) :=
  self.calcTeamStatsBy rankPoints R team

/-- The figures with the positions in the tables as they are held. -/
def calcTeamStatsStored (R : Runtime) (self : SeasonSummary) (team : String) :
    Except PyError (List StatsRow) :=
  self.calcTeamStatsBy (storedPoints self.data) R team

end SeasonSummary

end PremierLeague
