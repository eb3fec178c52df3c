import PremierLeague.SeasonData

/-!
# Season summaries

Goals, results and odds, scorelines, goal markets and match statistics of a season. Columns
computed as numpy arrays divide by zero without raising; the scorelines and goal markets are
computed with Python numbers, whose division raises.
-/

namespace PremierLeague

open Tabular

structure GoalsRow where
  index : String
  ftCnt : ℚ
  ftAvg : ExactFloat
  fhCnt : ℚ
  fhAvg : ExactFloat
  shCnt : ℚ
  shAvg : ExactFloat
deriving DecidableEq

structure FtResultsRow where
  index : String
  matchCnt : ℕ
  matchPct : ExactFloat
  avgOddsPin : ExactFloat
  avgOddsBet : ExactFloat
  avgWinoddsPin : ExactFloat
  avgWinoddsBet : ExactFloat
  fairOdds : ExactFloat
deriving DecidableEq

structure MarketRow where
  index : String
  matchCnt : ℤ
  matchPct : ExactFloat
  fairOdds : ExactFloat
deriving DecidableEq

/-- A row of the match statistics: its label and its cells by column. -/
structure SummaryRow where
  index : String
  cells : Dict String ExactFloat
deriving DecidableEq

structure StatBlock where
  cntH : ℚ
  cntA : ℚ
  cntT : ℚ
  avgH : ExactFloat
  avgA : ExactFloat
  avgT : ExactFloat
  maxH : ExactFloat
  maxA : ExactFloat
  maxT : ExactFloat
  minH : ExactFloat
  minA : ExactFloat
  minT : ExactFloat
deriving DecidableEq

namespace SeasonSummary

def summaryGoals (self : SeasonSummary) : List GoalsRow :=
  let dfIdx := !["home_goals", "away_goals", "total_goals"]
  let ftCnt := ![Series.sum (self.data.map (·.FTHG)), Series.sum (self.data.map (·.FTAG)),
    Series.sum (self.data.map (·.FTHG)) + Series.sum (self.data.map (·.FTAG))]
  let fhCnt := ![Series.sum (self.data.map (·.HTHG)), Series.sum (self.data.map (·.HTAG)),
    Series.sum (self.data.map (·.HTHG)) + Series.sum (self.data.map (·.HTAG))]
  let shCnt := fun i => ftCnt i - fhCnt i
  let avg := fun (cnt : Fin 3 → ℚ) i => ExactFloat.fin (cnt i) / .fin self.numOfMatches
  List.ofFn (fun i =>
    { index := dfIdx i
      ftCnt := ftCnt i
      ftAvg := avg ftCnt i
      fhCnt := fhCnt i
      fhAvg := avg fhCnt i
      shCnt := shCnt i
      shAvg := avg shCnt i })

def withResult (self : SeasonSummary) (ftr : String) : List Match :=
  self.data.filter (fun m => m.FTR == some ftr)

def summaryFtResults (self : SeasonSummary) : List FtResultsRow :=
  let dfIdx := !["home_win", "draw", "away_win"]
  let matchCnt := ![(self.withResult "H").length, (self.withResult "D").length,
    (self.withResult "A").length]
  let matchPct := fun i =>
    ExactFloat.fin (matchCnt i) / .fin ((matchCnt 0 + matchCnt 1 + matchCnt 2 : ℕ) : ℚ) * .fin 100
  let avgOddsPin := ![Series.mean (self.data.map (·.PSH)), Series.mean (self.data.map (·.PSD)),
    Series.mean (self.data.map (·.PSA))]
  let avgOddsBet := ![Series.mean (self.data.map (·.B365H)), Series.mean (self.data.map (·.B365D)),
    Series.mean (self.data.map (·.B365A))]
  let avgWinoddsPin := ![Series.mean ((self.withResult "H").map (·.PSH)),
    Series.mean ((self.withResult "D").map (·.PSD)),
    Series.mean ((self.withResult "A").map (·.PSA))]
  -- the first two entries stand in the other order than the index
  let avgWinoddsBet := ![Series.mean ((self.withResult "D").map (·.B365D)),
    Series.mean ((self.withResult "H").map (·.B365H)),
    Series.mean ((self.withResult "A").map (·.B365A))]
  let fairOdds := fun i => ExactFloat.fin 100 / matchPct i
  List.ofFn (fun i =>
    { index := dfIdx i
      matchCnt := matchCnt i
      matchPct := matchPct i
      avgOddsPin := avgOddsPin i
      avgOddsBet := avgOddsBet i
      avgWinoddsPin := avgWinoddsPin i
      avgWinoddsBet := avgWinoddsBet i
      fairOdds := fairOdds i })

def scoreCnt (self : SeasonSummary) (i j : ℕ) : ℕ :=
  (self.data.filter (fun m => Cell.eq m.FTHG (some i) && Cell.eq m.FTAG (some j))).length

/-- The scorelines of the double loop over `range(4)`. -/
def scorelines : List (ℕ × ℕ) :=
  (List.range 4).flatMap (fun i => (List.range 4).map (fun j => (i, j)))

/-- The row of a scoreline that `matchCnt` of the matches have. -/
def scoreRow (numOfMatches matchCnt : ℕ) (score : ℕ × ℕ) : Except PyError MarketRow := do
  let matchPct := (← pyDiv matchCnt numOfMatches) * 100
  let fairOdds := ExactFloat.ratRound2 (← pyDiv 100 matchPct)
  return { index := toString score.1 ++ "-" ++ toString score.2
           matchCnt := matchCnt
           matchPct := .fin matchPct
           fairOdds := .fin fairOdds }

/-- The scorelines up to 3-3, and the remaining matches by subtraction. -/
def goalSpread (numOfMatches : ℕ) (scoreCnt : ℕ → ℕ → ℕ) : Except PyError (List MarketRow) := do
  let results ← scorelines.mapM (fun score =>
    scoreRow numOfMatches (scoreCnt score.1 score.2) score)
  let matchCnt := (numOfMatches : ℤ) - (results.map (·.matchCnt)).sum
  let matchPct := ExactFloat.fin matchCnt / .fin numOfMatches * .fin 100
  let fairOdds := (ExactFloat.fin 100 / matchPct).round2
  return results ++ [{ index := "4+", matchCnt, matchPct, fairOdds }]

def summaryGoalSpread (self : SeasonSummary) : Except PyError (List MarketRow) :=
  goalSpread self.numOfMatches self.scoreCnt

/-- The number of matches with fewer than `goal` goals. -/
def underCnt (self : SeasonSummary) (goal : ℚ) : ℕ :=
  (self.data.filter (fun m => Cell.lt (Cell.add m.FTHG m.FTAG) (some goal))).length

/-- The two rows of the threshold `k + 0.5`. -/
def marketRows (self : SeasonSummary) (k : ℕ) : Except PyError (List MarketRow) := do
  let goal : ℚ := k + 1 / 2
  let goalText := toString k ++ ".5"
  let matchCnt := self.underCnt goal
  let matchPct := (← pyDiv matchCnt self.numOfMatches) * 100
  let fairOdds ← pyDiv 100 matchPct
  let overOdds ← pyDiv 100 (100 - matchPct)
  return [
    { index := "Under " ++ goalText ++ " goals"
      matchCnt := matchCnt
      matchPct := .fin matchPct
      fairOdds := .fin fairOdds },
    { index := "Over " ++ goalText ++ " goals"
      matchCnt := (self.numOfMatches : ℤ) - matchCnt
      matchPct := .fin (100 - matchPct)
      fairOdds := .fin overOdds }]

def summaryGoalMarkets (self : SeasonSummary) : Except PyError (List MarketRow) := do
  return (← (List.range 5).mapM self.marketRows).flatten

def statBlock (self : SeasonSummary) (h a : Match → Cell) : StatBlock :=
  let home := self.data.map h
  let away := self.data.map a
  let total := self.data.map (fun m => Cell.add (h m) (a m))
  { cntH := Series.sum home
    cntA := Series.sum away
    cntT := Series.sum total
    avgH := (Series.mean home).round2
    avgA := (Series.mean away).round2
    avgT := (Series.mean total).round2
    maxH := Series.max home
    maxA := Series.max away
    maxT := Series.max total
    minH := Series.min home
    minA := Series.min away
    minT := Series.min total }

def statColumns : List String := [
  "corners_cnt", "corners_per_game", "corners_max", "corners_min",
  "shots_cnt", "shots_per_game", "shots_max", "shots_min",
  "shots_on_target_cnt", "shots_on_target_per_game", "shots_on_target_max",
  "shots_on_target_min",
  "yellow_cards_cnt", "yellow_cards_per_game", "yellow_cards_max", "yellow_cards_min",
  "red_cards_cnt", "red_cards_per_game", "red_cards_max", "red_cards_min",
  "fouls_cnt", "fouls_per_game", "fouls_max", "fouls_min"]

def summaryStats (self : SeasonSummary) : List SummaryRow :=
  let corners := self.statBlock (·.HC) (·.AC)
  let shots := self.statBlock (·.HS) (·.AS)
  let shotsOt := self.statBlock (·.HST) (·.AST)
  let yellowCards := self.statBlock (·.HY) (·.AY)
  let redCards := self.statBlock (·.HR) (·.AR)
  let fouls := self.statBlock (·.HF) (·.AF)
  let row := fun (index : String) (values : List ExactFloat) =>
    ({ index, cells := statColumns.zip values } : SummaryRow)
  [row "Home team" [
      .fin corners.cntH, corners.avgH, corners.maxH, corners.minH,
      .fin shots.cntH, shots.avgH, shots.maxH, shots.minH,
      .fin shotsOt.cntH, shotsOt.avgH, shotsOt.maxH, shotsOt.minH,
      .fin yellowCards.cntH, yellowCards.avgH, yellowCards.maxH, yellowCards.minH,
      .fin redCards.cntH, redCards.avgH, redCards.maxH, redCards.minH,
      .fin fouls.cntH, fouls.avgH, fouls.maxH, fouls.minH],
    row "Away team" [
      .fin corners.cntA, corners.avgA, corners.maxA, corners.minA,
      .fin shots.cntA, shots.avgA, shots.maxA, shots.minA,
      .fin shotsOt.cntA, shotsOt.avgA, shotsOt.maxA, shotsOt.minA,
      .fin yellowCards.cntA, yellowCards.avgA, yellowCards.maxA, yellowCards.minA,
      .fin redCards.cntA, redCards.avgA, redCards.maxA, redCards.minA,
      .fin fouls.cntA, fouls.avgA, fouls.maxA, fouls.minA],
    row "Total" [
      .fin corners.cntT, corners.avgT, corners.maxT, corners.minT,
      .fin shots.cntT, shots.avgT, shots.maxT, shots.minT,
      .fin shotsOt.cntT, shotsOt.avgT, shotsOt.maxT, shotsOt.minT,
      .fin yellowCards.cntT, yellowCards.avgT, yellowCards.maxT, yellowCards.minT,
      .fin redCards.cntT, redCards.avgT, redCards.maxT, redCards.minT,
      .fin fouls.cntT, fouls.avgT, fouls.maxT, fouls.minT]]

end SeasonSummary

end PremierLeague
