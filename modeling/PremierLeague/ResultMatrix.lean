import PremierLeague.SeasonData

/-!
# The matrix of results

One row for every home team and one column for every opponent; a cell holds the score of the
fixture as text.
-/

namespace PremierLeague

open Tabular

namespace SeasonSummary

/-- The text of one cell. The score of a fixture is read off the first of its matches. -/
def resultCell (self : SeasonSummary) (team opponent : String) : Except PyError String :=
  if team = opponent then
    return "-"
  else do
    let filt := self.data.filter (fun m => m.HomeTeam == team && m.AwayTeam == opponent)
    let homeScore ← pyInt (← first (filt.map (·.FTHG)))
    let awayScore ← pyInt (← first (filt.map (·.FTAG)))
    return toString homeScore ++ "-" ++ toString awayScore

/-- The teams of the matrix: the home teams in sorted order. -/
def matrixTeams (self : SeasonSummary) : List String :=
  (Series.unique (self.data.map (·.HomeTeam))).insertionSort (· ≤ ·)

/-- The matrix of results. A record starts with the name of its team under `Teams` and then
sets one key for each opponent. -/
def getResultMatrix (self : SeasonSummary) : Except PyError (Frame String) := do
  let teams := self.matrixTeams
  let results ← teams.mapM (fun team => setLoop (self.resultCell team) teams [("Teams", team)])
  return Frame.fromRecords results

end SeasonSummary

end PremierLeague
