import PremierLeague.Library.Concat
import PremierLeague.Library.Script
import PremierLeague.ResultMatrix
import PremierLeague.TeamStats

/-!
# The pages of the application

The season menu lists the seasons of the loaded data. The two team menus of the Head-to-Head
page are fixed, and the page shows the figures of both chosen teams in the chosen season. The
script computes the matrix of results first, whatever page is chosen.
-/

namespace PremierLeague

open Tabular

def seasonMenu (allDf : List Match) : List String := Series.unique (allDf.map (·.season))

def homeMenu : List String :=
  ["Liverpool", "Arsenal", "Chelsea", "Man United", "Man City", "Tottenham"]

def awayMenu : List String :=
  ["Liverpool", "Arsenal", "Chelsea", "Man United", "Man City", "Tottenham"]

/-- The tables of the Head-to-Head page for a choice from the three menus. -/
def headToHead (R : Runtime) (allDf : List Match) (season homeTeam awayTeam : String) :
    Except PyError (List StatsRow × List StatsRow) := do
  let dataSummary := SeasonSummary.init allDf season
  let homeStats ← dataSummary.calcTeamStats R homeTeam
  let awayStats ← dataSummary.calcTeamStats R awayTeam
  return (homeStats, awayStats)

/-! ### The script -/

def mainMenu : List String := ["League Tables", "Results Matrix", "Head-to-Head"]

def tableMenu : List String := ["overall", "home", "away"]

/-- What stops the script: an exception of the summaries, or a subscript of the number 0. -/
inductive AppError where
  | python (e : PyError)
  | typeError
deriving DecidableEq

/-- What a page shows below its title. -/
inductive Widget where
  | header (text : String)
  | figures (rows : List (String × Dict String ExactFloat))
  | matrix (index : List (Option String)) (data : Frame String)
deriving DecidableEq

abbrev Page := Script AppError Widget Unit

/-- A computation of the summaries, whose exceptions stop the script. -/
def summarise {α : Type} (x : Except PyError α) : Script AppError Widget α :=
  Script.lift (x.mapError .python)

/-- The columns of numbers of a table row. -/
def TableRow.columns (r : TableRow) : Dict String ExactFloat := [
  ("played", .fin r.played), ("won", .fin r.won), ("draw", .fin r.draw), ("lost", .fin r.lost),
  ("goals_scored", .fin r.goalsScored), ("goals_conceded", .fin r.goalsConceded),
  ("gd", .fin r.gd), ("points", .fin r.points), ("goals_scored_pg", r.goalsScoredPg),
  ("goals_conceded_pg", r.goalsConcededPg), ("corners_for", r.cornersFor),
  ("corners_against", r.cornersAgainst), ("shots_made", r.shotsMade),
  ("shots_allowed", r.shotsAllowed), ("shots_to_score_a_goal", r.shotsToScoreAGoal),
  ("shots_to_concede_a_goal", r.shotsToConcedeAGoal), ("yellow_cards", r.yellowCards),
  ("red_cards_total", .fin r.redCardsTotal), ("fouls_commited", r.foulsCommited),
  ("fouls_suffered", r.foulsSuffered), ("rank_points", .fin r.rankPoints), ("rank", .fin r.rank)]

/-- The columns of numbers of a row of team figures. -/
def StatsRow.columns (r : StatsRow) : Dict String ExactFloat := [
  ("mp", .fin r.mp), ("win", .fin r.win), ("draw", .fin r.draw), ("lost", .fin r.lost),
  ("gs", .fin r.gs), ("gc", .fin r.gc), ("total_goals", .fin r.totalGoals),
  ("position", .fin r.position), ("points", .fin r.points), ("avg_points", r.avgPoints),
  ("avg_gs", r.avgGs), ("avg_gc", r.avgGc), ("avg_goals", r.avgGoals),
  ("corners_for", r.cornersFor), ("corners_against", r.cornersAgainst),
  ("corners_total", r.cornersTotal), ("shots_on_goal_f", r.shotsOnGoalF),
  ("shots_on_goal_a", r.shotsOnGoalA), ("fouls_commited", r.foulsCommited),
  ("fouls_suffered", r.foulsSuffered), ("fouls_total", r.foulsTotal)]

/-- `df[cols]` for one row. -/
def selectColumns (cols : List String) (row : Dict String ExactFloat) :
    Except PyError (Dict String ExactFloat) :=
  cols.mapM (fun c =>
    match row.get? c with
    | some v => .ok (c, v)
    | none => .error (.keyError c))

/-- `st.dataframe(df[cols])` -/
def dataframe (cols : List String) (rows : List (String × Dict String ExactFloat)) : Page := do
  let shown ← summarise (rows.mapM (fun (index, row) => do
    return (index, ← selectColumns cols row)))
  Script.emit (.figures shown)

/-- The matrix with its column `Teams` as the index. -/
def indexByTeams (resultMatrix : Frame String) :
    Except PyError (List (Option String) × Frame String) :=
  if "Teams" ∈ resultMatrix.columns then
    .ok (resultMatrix.rows.map (fun r => Frame.cell r "Teams"), resultMatrix.drop "Teams")
  else
    .error (.keyError "Teams")

def displayCols : List String :=
  ["played", "won", "draw", "lost", "goals_scored", "goals_conceded", "gd", "points"]

def statsDisplays : List (List String) := [
  ["mp", "win", "draw", "lost", "gs", "gc"],
  ["position", "points", "avg_points"],
  ["avg_gs", "avg_gc", "avg_goals"],
  ["corners_for", "corners_against", "corners_total"],
  ["shots_on_goal_f", "shots_on_goal_a"],
  ["fouls_commited", "fouls_suffered", "fouls_total"]]

def leaguePage (R : Runtime) (dataSummary : SeasonSummary) (tableType : String) : Page := do
  match ← summarise (dataSummary.calcMainTables R tableType) with
  | some leagueTable => dataframe displayCols (leagueTable.map (fun r => (r.team, r.columns)))
  | none => Script.lift (.error .typeError)

/-- One column of the Head-to-Head page. -/
def teamColumn (R : Runtime) (dataSummary : SeasonSummary) (team : String) : Page := do
  Script.emit (.header team)
  let stats ← summarise (dataSummary.calcTeamStats R team)
  statsDisplays.forM (fun statsDisplay =>
    dataframe statsDisplay (stats.map (fun r => (r.category, r.columns))))

/-- What is chosen in the sidebar. -/
structure Choice where
  page : String
  season : String
  tableType : String
  homeTeam : String
  awayTeam : String
deriving DecidableEq

def plApp (R : Runtime) (allDf : List Match) (choice : Choice) : Page := do
  let dataSummary := SeasonSummary.init allDf choice.season
  let resultMatrix ← summarise dataSummary.getResultMatrix
  let (index, resultMatrix) ← summarise (indexByTeams resultMatrix)
  if choice.page = "League Tables" then
    leaguePage R dataSummary choice.tableType
  if choice.page = "Results Matrix" then
    Script.emit (.matrix index resultMatrix)
  if choice.page = "Head-to-Head" then
    teamColumn R dataSummary choice.homeTeam
    teamColumn R dataSummary choice.awayTeam

end PremierLeague
