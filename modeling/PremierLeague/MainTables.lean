import PremierLeague.SeasonData
import PremierLeague.Library.DenseRank
import PremierLeague.Library.FixedWidth

/-!
# The league tables

`calc_main_tables` builds a home and an away table from the matches, combines them into the
overall table, and ranks each table by points, goal difference and goals scored, packed into
one number. `calcMainTables` ranks by the exact numbers, `calcMainTablesStored` by the column
`rank_points` as pandas holds it, whose 64-bit integers wrap around.
-/

namespace PremierLeague

open Tabular

structure TeamRecord where
  team : String
  played : ℕ
  won : ℕ
  draw : ℕ
  lost : ℕ
  goalsScored : ℚ
  goalsConceded : ℚ
  gd : ℚ
  points : ℕ
  goalsScoredPg : ExactFloat
  goalsConcededPg : ExactFloat
  cornersFor : ExactFloat
  cornersAgainst : ExactFloat
  shotsMade : ExactFloat
  shotsAllowed : ExactFloat
  shotsToScoreAGoal : ExactFloat
  shotsToConcedeAGoal : ExactFloat
  yellowCards : ExactFloat
  redCardsTotal : ℚ
  foulsCommited : ExactFloat
  foulsSuffered : ExactFloat
deriving DecidableEq

structure TableRow extends TeamRecord where
  rankPoints : ℚ
  rank : ℕ
deriving DecidableEq

abbrev Table := List TableRow

/-- What the interpreter leaves open: the order in which `list(set(..))` lists the elements,
and the order of rows of equal rank after the unstable `sort_values(by=["rank"])`. -/
structure Runtime where
  listSet : List String → List String
  sortByRank : Table → Table
  nodup_listSet : ∀ l, (listSet l).Nodup
  mem_listSet : ∀ l a, a ∈ listSet l ↔ a ∈ l
  sortByRank_perm : ∀ t, (sortByRank t).Perm t
  sortByRank_sorted : ∀ t, (sortByRank t).Pairwise (fun r r' => r.rank ≤ r'.rank)

/-- Sets listed in the order of first occurrence, ties kept in their order. -/
def firstSeen : Runtime where
  listSet := Series.unique
  sortByRank := List.insertionSort (fun r r' => r.rank ≤ r'.rank)
  nodup_listSet := Series.nodup_unique
  mem_listSet := fun _ _ => Series.mem_unique
  sortByRank_perm := List.perm_insertionSort _
  sortByRank_sorted := by
    have : Std.Total (fun r r' : TableRow => r.rank ≤ r'.rank) := ⟨fun _ _ => le_total _ _⟩
    have : IsTrans TableRow (fun r r' => r.rank ≤ r'.rank) := ⟨fun _ _ _ => le_trans⟩
    exact List.pairwise_insertionSort _

/-- The packed criteria as an exact number. -/
def rankPoints (r : TeamRecord) : ℚ :=
  r.points * 1000000 + r.gd * 1000 + r.goalsScored

def isInt64 : Cell → Bool
  | none => false
  | some q => decide (q.den = 1 ∧ Fits 64 q.num)

/-- The goals of a season are two columns of 64-bit integers. -/
def intGoals (df : List Match) : Bool := df.all (fun m => isInt64 m.FTHG && isInt64 m.FTAG)

/-- `points * 1_000_000 + gd * 1000 + goals_scored` on columns of 64-bit integers, each operation of
which wraps around. -/
def packInt64 (points gd goalsScored : ℤ) : ℤ :=
  wrap 64 (wrap 64 (wrap 64 (points * 1000000) + wrap 64 (wrap 64 gd * 1000)) +
    wrap 64 goalsScored)

/-- What the column `rank_points` holds: a 64-bit integer when the goals are such integers, and
otherwise a float, whose number is taken as exact. -/
def storedPoints (df : List Match) (r : TeamRecord) : ℚ :=
  if intGoals df then packInt64 r.points ⌊r.gd⌋ ⌊r.goalsScored⌋ else rankPoints r

/-- `rank(method="dense", ascending=False)` on a column `rank_points`, then the sort. -/
def rankTableBy (column : TeamRecord → ℚ) (R : Runtime) (records : List TeamRecord) : Table :=
  R.sortByRank (records.map (fun r =>
    { r with
      rankPoints := column r
      rank := denseRank (records.map column) (column r) }))

/-- `table.loc[team]` -/
def loc (t : Table) (team : String) : Except PyError TableRow :=
  match t.find? (fun r => r.team == team) with
  | some r => .ok r
  | none => .error (.keyError team)

def homeRecord (df : List Match) (team : String) : TeamRecord :=
  let teamDf := df.filter (fun m => m.HomeTeam == team)
  let played := teamDf.length
  let won := (teamDf.filter (fun m => Cell.lt m.FTAG m.FTHG)).length
  let draw := (teamDf.filter (fun m => Cell.eq m.FTHG m.FTAG)).length
  let lost := (teamDf.filter (fun m => Cell.lt m.FTHG m.FTAG)).length
  let goalsScored := Series.sum (teamDf.map (·.FTHG))
  let goalsConceded := Series.sum (teamDf.map (·.FTAG))
  let gd := goalsScored - goalsConceded
  let points := won * 3 + draw
  let goalsScoredPg := Series.mean (teamDf.map (·.FTHG))
  let goalsConcededPg := Series.mean (teamDf.map (·.FTAG))
  let cornersFor := Series.mean (teamDf.map (·.HC))
  let cornersAgainst := Series.mean (teamDf.map (·.AC))
  let shotsMade := Series.mean (teamDf.map (·.HS))
  let shotsAllowed := Series.mean (teamDf.map (·.AS))
  let shotsToScoreAGoal := shotsMade / goalsScoredPg
  let shotsToConcedeAGoal := shotsAllowed / goalsConcededPg
  let yellowCards := Series.mean (teamDf.map (·.HY))
  let redCardsTotal := Series.sum (teamDf.map (·.HR))
  let foulsCommited := Series.mean (teamDf.map (·.HF))
  let foulsSuffered := Series.mean (teamDf.map (·.AF))
  { team, played, won, draw, lost, goalsScored, goalsConceded, gd, points, goalsScoredPg,
    goalsConcededPg, cornersFor, cornersAgainst, shotsMade, shotsAllowed, shotsToScoreAGoal,
    shotsToConcedeAGoal, yellowCards, redCardsTotal, foulsCommited, foulsSuffered }

def awayRecord (df : List Match) (team : String) : TeamRecord :=
  let teamDf := df.filter (fun m => m.AwayTeam == team)
  let played := teamDf.length
  let won := (teamDf.filter (fun m => Cell.lt m.FTHG m.FTAG)).length
  let draw := (teamDf.filter (fun m => Cell.eq m.FTHG m.FTAG)).length
  let lost := (teamDf.filter (fun m => Cell.lt m.FTAG m.FTHG)).length
  let goalsScored := Series.sum (teamDf.map (·.FTAG))
  let goalsConceded := Series.sum (teamDf.map (·.FTHG))
  let gd := goalsScored - goalsConceded
  let points := won * 3 + draw
  let goalsScoredPg := Series.mean (teamDf.map (·.FTAG))
  let goalsConcededPg := Series.mean (teamDf.map (·.FTHG))
  let cornersFor := Series.mean (teamDf.map (·.AC))
  let cornersAgainst := Series.mean (teamDf.map (·.HC))
  let shotsMade := Series.mean (teamDf.map (·.AS))
  let shotsAllowed := Series.mean (teamDf.map (·.HS))
  let shotsToScoreAGoal := shotsMade / goalsScoredPg
  let shotsToConcedeAGoal := shotsAllowed / goalsConcededPg
  let yellowCards := Series.mean (teamDf.map (·.AY))
  let redCardsTotal := Series.sum (teamDf.map (·.AR))
  let foulsCommited := Series.mean (teamDf.map (·.AF))
  let foulsSuffered := Series.mean (teamDf.map (·.HF))
  { team, played, won, draw, lost, goalsScored, goalsConceded, gd, points, goalsScoredPg,
    goalsConcededPg, cornersFor, cornersAgainst, shotsMade, shotsAllowed, shotsToScoreAGoal,
    shotsToConcedeAGoal, yellowCards, redCardsTotal, foulsCommited, foulsSuffered }

def weighted (field : TeamRecord → ExactFloat) (home away : TeamRecord) : ExactFloat :=
  (field home * .fin home.played + field away * .fin away.played) /
    .fin ((home.played + away.played : ℕ) : ℚ)

def overallRecord (team : String) (home away : TeamRecord) : TeamRecord :=
  let played := home.played + away.played
  let won := home.won + away.won
  let draw := home.draw + away.draw
  let lost := home.lost + away.lost
  let goalsScored := home.goalsScored + away.goalsScored
  let goalsConceded := home.goalsConceded + away.goalsConceded
  let gd := home.gd + away.gd
  let points := won * 3 + draw
  let goalsScoredPg := weighted (·.goalsScoredPg) home away
  let goalsConcededPg := weighted (·.goalsConcededPg) home away
  let cornersFor := weighted (·.cornersFor) home away
  let cornersAgainst := weighted (·.cornersAgainst) home away
  let shotsMade := weighted (·.shotsMade) home away
  let shotsAllowed := weighted (·.shotsAllowed) home away
  let shotsToScoreAGoal := weighted (·.shotsToScoreAGoal) home away
  let shotsToConcedeAGoal := weighted (·.shotsToConcedeAGoal) home away
  let yellowCards := weighted (·.yellowCards) home away
  let redCardsTotal := home.redCardsTotal + away.redCardsTotal
  let foulsCommited := weighted (·.foulsCommited) home away
  let foulsSuffered := weighted (·.foulsSuffered) home away
  { team, played, won, draw, lost, goalsScored, goalsConceded, gd, points, goalsScoredPg,
    goalsConcededPg, cornersFor, cornersAgainst, shotsMade, shotsAllowed, shotsToScoreAGoal,
    shotsToConcedeAGoal, yellowCards, redCardsTotal, foulsCommited, foulsSuffered }

namespace SeasonSummary

/-- `list(set(home_teams + away_teams))` -/
def teams (R : Runtime) (self : SeasonSummary) : List String :=
  R.listSet (Series.unique (self.data.map (·.HomeTeam)) ++
    Series.unique (self.data.map (·.AwayTeam)))

/-- The table of the requested type, ranked by a column `rank_points`; any other argument returns
the number 0, here `none`. -/
def calcMainTablesBy (column : TeamRecord → ℚ) (R : Runtime) (self : SeasonSummary)
    (tableType : String) : Except PyError (Option Table) := do
  let df := self.data
  let teams := self.teams R
  let dfHome := if tableType = "home" ∨ tableType = "overall" then
    rankTableBy column R (teams.map (homeRecord df)) else []
  let dfAway := if tableType = "away" ∨ tableType = "overall" then
    rankTableBy column R (teams.map (awayRecord df)) else []
  if tableType = "overall" then
    let resultsOverall ← teams.mapM (fun team => do
      let home ← loc dfHome team
      let away ← loc dfAway team
      return overallRecord team home.toTeamRecord away.toTeamRecord)
    return some (rankTableBy column R resultsOverall)
  else if tableType = "home" then
    return some dfHome
  else if tableType = "away" then
    return some dfAway
  else
    return none

/-- The tables in exact arithmetic. -/
def calcMainTables (R : Runtime) (self : SeasonSummary) (tableType : String) :
    Except PyError (Option Table) :=
  self.calcMainTablesBy rankPoints R tableType

/-- The tables with the column `rank_points` as it is held. -/
def calcMainTablesStored (R : Runtime) (self : SeasonSummary) (tableType : String) :
    Except PyError (Option Table) :=
  self.calcMainTablesBy (storedPoints self.data) R tableType

end SeasonSummary

end PremierLeague
