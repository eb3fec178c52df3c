import PremierLeague.ReadCsvData
import PremierLeague.Summaries

/-!
# The script of the data module

The script loads all files and prints the scorelines of the season 19-20. It reads two columns of
the loaded table, whatever the others hold.
-/

namespace PremierLeague

open Tabular

/-- `cell == n`; a missing cell and a text are equal to no number, and `True` and `False` are the
numbers 1 and 0. -/
def equalsNumber (cell : Option Value) (n : ℕ) : Bool :=
  match cell with
  | some (.number q) => q == n
  | some (.bool b) => b.toNat == n
  | some (.text _) => false
  | none => false

namespace SeasonFrame

/-- `self.data[col]` raises when there is no such column. -/
def requireColumn (self : SeasonFrame) (col : String) : Except PyError Unit :=
  if col ∈ self.data.columns then .ok () else .error (.keyError col)

def scoreCnt (self : SeasonFrame) (i j : ℕ) : ℕ :=
  (self.data.rows.filter (fun r =>
    equalsNumber (Frame.cell r "FTHG") i && equalsNumber (Frame.cell r "FTAG") j)).length

/-- `summary_goal_spread()` on the loaded table. -/
def summaryGoalSpread (self : SeasonFrame) : Except PyError (List MarketRow) := do
  self.requireColumn "FTHG"
  self.requireColumn "FTAG"
  SeasonSummary.goalSpread self.numOfMatches self.scoreCnt

end SeasonFrame

/-- `main()`, with the table that it prints. -/
def main (P : Pandas) (files : List CsvFile) : Except PyError (List MarketRow) := do
  let allDf ← readCsvData P files
  let summary ← SeasonFrame.init allDf "19-20"
  summary.summaryGoalSpread

end PremierLeague
