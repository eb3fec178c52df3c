import PremierLeague.Library.Concat
import PremierLeague.SeasonData

/-!
# Loading the match data

Each season is one CSV file. Its label is cut out of the name of the file and written in the
column `season`, and the tables of all files are put together. A season is selected from the
loaded table by its label, before the rows are read as matches.
-/

namespace PremierLeague

open Tabular

/-- A cell of a CSV table that is not missing. -/
inductive Value where
  | number (q : ℚ)
  | text (s : String)
  | bool (b : Bool)
deriving DecidableEq

/-- A file of the data folder: its path and the table that `pd.read_csv` makes of it. -/
structure CsvFile where
  file : String
  currentDf : Frame Value
  wellFormed : currentDf.WellFormed

/-- `pd.concat(dfs, ignore_index=True)` raises without tables; otherwise it has the rows of the
tables in their order under the union of the columns. -/
structure Pandas where
  concat : List (Frame Value) → Except PyError (Frame Value)
  concat_nil : concat [] = .error .valueError
  concat_ok : ∀ dfs, dfs ≠ [] → (∀ df ∈ dfs, df.WellFormed) →
    ∃ df, concat dfs = .ok df ∧ Frame.IsConcat dfs df

/-- The columns in the order of their first occurrence. -/
def firstSeenColumns : Pandas where
  concat := fun dfs => if dfs = [] then .error .valueError else .ok (Frame.concat dfs)
  concat_nil := rfl
  concat_ok := fun dfs hne _ => ⟨Frame.concat dfs, if_neg hne, Frame.isConcat_concat dfs⟩

/-- `s[i:j]` -/
def slice (s : String) (i j : ℕ) : String := String.ofList ((s.toList.take j).drop i)

/-- The part of the path after the last backslash. -/
def fileName (file : String) : String :=
  String.ofList (file.toList.reverse.takeWhile (· != '\\')).reverse

def CsvFile.season (f : CsvFile) : String :=
  slice (fileName f.file) 3 5 ++ "-" ++ slice (fileName f.file) 5 7

def readCsvData (P : Pandas) (files : List CsvFile) : Except PyError (Frame Value) :=
  P.concat (files.map (fun f => f.currentDf.setColumn "season" (.text f.season)))

/-- A season of the loaded table. -/
structure SeasonFrame where
  data : Frame Value
  season : String
  numOfMatches : ℕ
deriving DecidableEq

/-- `SeasonSummary(data, season)` on the loaded table. -/
def SeasonFrame.init (data : Frame Value) (season : String) : Except PyError SeasonFrame :=
  if "season" ∈ data.columns then
    .ok
      { data := data.whereEq "season" (.text season)
        season := season
        numOfMatches := (data.whereEq "season" (.text season)).rows.length }
  else
    .error (.keyError "season")

/-! ### Rows read as matches -/

/-- The cell of a column of numbers. -/
def numberCell (r : Dict String (Option Value)) (col : String) : Option Cell :=
  match Frame.cell r col with
  | none => some none
  | some (.number q) => some (some q)
  | some _ => none

/-- The cell of a column of texts. -/
def textCell (r : Dict String (Option Value)) (col : String) : Option (Option String) :=
  match Frame.cell r col with
  | none => some none
  | some (.text s) => some (some s)
  | some _ => none

/-- The cell of a column of names, none of which is missing. -/
def nameCell (r : Dict String (Option Value)) (col : String) : Option String := do
  (← textCell r col)

/-- The match that a row holds; `none` when a cell has not the type of its column. -/
def readMatch (r : Dict String (Option Value)) : Option Match := do
  let season ← nameCell r "season"
  let HomeTeam ← nameCell r "HomeTeam"
  let AwayTeam ← nameCell r "AwayTeam"
  let FTHG ← numberCell r "FTHG"
  let FTAG ← numberCell r "FTAG"
  let FTR ← textCell r "FTR"
  let HTHG ← numberCell r "HTHG"
  let HTAG ← numberCell r "HTAG"
  let HS ← numberCell r "HS"
  let AS ← numberCell r "AS"
  let HST ← numberCell r "HST"
  let AST ← numberCell r "AST"
  let HC ← numberCell r "HC"
  let AC ← numberCell r "AC"
  let HF ← numberCell r "HF"
  let AF ← numberCell r "AF"
  let HY ← numberCell r "HY"
  let AY ← numberCell r "AY"
  let HR ← numberCell r "HR"
  let AR ← numberCell r "AR"
  let PSH ← numberCell r "PSH"
  let PSD ← numberCell r "PSD"
  let PSA ← numberCell r "PSA"
  let B365H ← numberCell r "B365H"
  let B365D ← numberCell r "B365D"
  let B365A ← numberCell r "B365A"
  return { season, HomeTeam, AwayTeam, FTHG, FTAG, FTR, HTHG, HTAG, HS, AS, HST, AST, HC, AC, HF,
           AF, HY, AY, HR, AR, PSH, PSD, PSA, B365H, B365D, B365A }

/-- The columns that the summaries read. -/
def matchColumns : List String := [
  "season", "HomeTeam", "AwayTeam", "FTHG", "FTAG", "FTR", "HTHG", "HTAG", "HS", "AS", "HST",
  "AST", "HC", "AC", "HF", "AF", "HY", "AY", "HR", "AR", "PSH", "PSD", "PSA", "B365H", "B365D",
  "B365A"]

/-- The matches of a table that has all columns of a match. -/
def readMatches (df : Frame Value) : Option (List Match) :=
  if matchColumns ⊆ df.columns then df.rows.mapM readMatch else none

/-- The matches of one file, under the label of the file. -/
def CsvFile.matches (f : CsvFile) : Option (List Match) :=
  (f.currentDf.setColumn "season" (.text f.season)).rows.mapM readMatch

/-- The matches of all files in their order. -/
def allMatches (files : List CsvFile) : Option (List Match) := do
  return (← files.mapM CsvFile.matches).flatten

end PremierLeague
