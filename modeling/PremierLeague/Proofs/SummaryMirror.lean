import PremierLeague.Proofs.ZeroCounts

/-!
# Exchanging the columns of the two sides

The summaries read the columns of the home and the away side in the same way. Exchanging these
columns in every match exchanges the rows of the two sides and the scorelines with theirs
reversed; it leaves the totals and the goal markets as they are.
-/

namespace PremierLeague

open Tabular

/-- The match with the columns of its two sides exchanged, but not its teams. -/
def Match.exchange (m : Match) : Match :=
  { m with
    FTHG := m.FTAG, FTAG := m.FTHG
    HTHG := m.HTAG, HTAG := m.HTHG
    HC := m.AC, AC := m.HC
    HS := m.AS, AS := m.HS
    HST := m.AST, AST := m.HST
    HY := m.AY, AY := m.HY
    HR := m.AR, AR := m.HR
    HF := m.AF, AF := m.HF }

namespace Proofs

open SeasonSummary

/-- A row of the goals: full-time, half-time and second-half goals of `n` matches. -/
def goalsRow (n : ℕ) (index : String) (ft fh : ℚ) : GoalsRow where
  index := index
  ftCnt := ft
  ftAvg := .fin ft / .fin n
  fhCnt := fh
  fhAvg := .fin fh / .fin n
  shCnt := ft - fh
  shAvg := .fin (ft - fh) / .fin n

lemma summaryGoals_eq (s : SeasonSummary) : s.summaryGoals =
    [goalsRow s.numOfMatches "home_goals" (Series.sum (s.data.map (·.FTHG)))
      (Series.sum (s.data.map (·.HTHG))),
    goalsRow s.numOfMatches "away_goals" (Series.sum (s.data.map (·.FTAG)))
      (Series.sum (s.data.map (·.HTAG))),
    goalsRow s.numOfMatches "total_goals"
      (Series.sum (s.data.map (·.FTHG)) + Series.sum (s.data.map (·.FTAG)))
      (Series.sum (s.data.map (·.HTHG)) + Series.sum (s.data.map (·.HTAG)))] := rfl

section Exchange

variable {s s' : SeasonSummary} (h : s'.data = s.data.map Match.exchange)

include h

lemma numOfMatches_exchange : s'.numOfMatches = s.numOfMatches := by
  rw [s'.numOfMatches_eq, s.numOfMatches_eq, h, List.length_map]

/-- A column of the exchanged matches is the column of the other side. -/
lemma column_exchange {c c' : Match → Cell} (hc : ∀ m : Match, c m.exchange = c' m) :
    s'.data.map c = s.data.map c' := by
  rw [h, List.map_map]
  exact List.map_congr_left (fun m _ => hc m)

/-! ### Goals -/

/-- The rows of the two sides are exchanged, the row of the totals is the same. -/
def GoalsExchanged (rows rows' : List GoalsRow) : Prop :=
  ∃ home away total : GoalsRow, home.index = "home_goals" ∧ away.index = "away_goals" ∧
    total.index = "total_goals" ∧ rows = [home, away, total] ∧
    rows' = [{ away with index := "home_goals" }, { home with index := "away_goals" }, total]

lemma summaryGoals_exchange : GoalsExchanged s.summaryGoals s'.summaryGoals := by
  have hfthg : s'.data.map (·.FTHG) = s.data.map (·.FTAG) := column_exchange h (fun _ => rfl)
  have hftag : s'.data.map (·.FTAG) = s.data.map (·.FTHG) := column_exchange h (fun _ => rfl)
  have hhthg : s'.data.map (·.HTHG) = s.data.map (·.HTAG) := column_exchange h (fun _ => rfl)
  have hhtag : s'.data.map (·.HTAG) = s.data.map (·.HTHG) := column_exchange h (fun _ => rfl)
  refine ⟨_, _, _, rfl, rfl, rfl, summaryGoals_eq s, ?_⟩
  rw [summaryGoals_eq, numOfMatches_exchange h, hfthg, hftag, hhthg, hhtag,
    add_comm (Series.sum (s.data.map (·.FTAG))), add_comm (Series.sum (s.data.map (·.HTAG)))]
  rfl

/-! ### Match statistics -/

/-- The block with the two sides exchanged. -/
def swap (b : StatBlock) : StatBlock where
  cntH := b.cntA
  cntA := b.cntH
  cntT := b.cntT
  avgH := b.avgA
  avgA := b.avgH
  avgT := b.avgT
  maxH := b.maxA
  maxA := b.maxH
  maxT := b.maxT
  minH := b.minA
  minA := b.minH
  minT := b.minT

lemma statBlock_exchange {c d : Match → Cell} (hc : ∀ m : Match, c m.exchange = d m)
    (hd : ∀ m : Match, d m.exchange = c m) : s'.statBlock c d = swap (s.statBlock c d) := by
  have hboth : ∀ m : Match, Cell.add (c m.exchange) (d m.exchange) = Cell.add (c m) (d m) := by
    intro m
    rw [hc, hd, Cell.add_comm]
  unfold statBlock
  rw [column_exchange h hc, column_exchange h hd,
    column_exchange h (c := fun m => Cell.add (c m) (d m)) hboth]
  rfl

def StatsExchanged (rows rows' : List SummaryRow) : Prop :=
  ∃ home away total : SummaryRow, home.index = "Home team" ∧ away.index = "Away team" ∧
    total.index = "Total" ∧ rows = [home, away, total] ∧
    rows' = [{ away with index := "Home team" }, { home with index := "Away team" }, total]

lemma summaryStats_exchange : StatsExchanged s.summaryStats s'.summaryStats := by
  have hcorners : s'.statBlock (·.HC) (·.AC) = swap (s.statBlock (·.HC) (·.AC)) :=
    statBlock_exchange h (fun _ => rfl) (fun _ => rfl)
  have hshots : s'.statBlock (·.HS) (·.AS) = swap (s.statBlock (·.HS) (·.AS)) :=
    statBlock_exchange h (fun _ => rfl) (fun _ => rfl)
  have hshotsOt : s'.statBlock (·.HST) (·.AST) = swap (s.statBlock (·.HST) (·.AST)) :=
    statBlock_exchange h (fun _ => rfl) (fun _ => rfl)
  have hyellow : s'.statBlock (·.HY) (·.AY) = swap (s.statBlock (·.HY) (·.AY)) :=
    statBlock_exchange h (fun _ => rfl) (fun _ => rfl)
  have hred : s'.statBlock (·.HR) (·.AR) = swap (s.statBlock (·.HR) (·.AR)) :=
    statBlock_exchange h (fun _ => rfl) (fun _ => rfl)
  have hfouls : s'.statBlock (·.HF) (·.AF) = swap (s.statBlock (·.HF) (·.AF)) :=
    statBlock_exchange h (fun _ => rfl) (fun _ => rfl)
  refine ⟨_, _, _, rfl, rfl, rfl, rfl, ?_⟩
  unfold summaryStats
  rw [hcorners, hshots, hshotsOt, hyellow, hred, hfouls]
  rfl

/-! ### Scorelines and goal markets -/

/-- The cells of the two scorelines are exchanged, the last row is the same; or both raise. -/
def SpreadExchanged (spread spread' : Except PyError (List MarketRow)) : Prop :=
  (∃ (cell : ℕ × ℕ → MarketRow) (rest : MarketRow),
    (∀ p ∈ scorelines, (cell p).index = scoreText p) ∧ rest.index = "4+" ∧
    spread = .ok (scorelines.map cell ++ [rest]) ∧
    spread' = .ok (scorelines.map (fun p => { cell p.swap with index := scoreText p }) ++
      [rest])) ∨
  (spread = .error .zeroDivisionError ∧ spread' = .error .zeroDivisionError)

lemma scoreCnt_exchange (i j : ℕ) : s'.scoreCnt i j = s.scoreCnt j i := by
  unfold scoreCnt
  rw [h, List.filter_map, List.length_map]
  congr 2
  funext m
  exact Bool.and_comm _ _

lemma underCnt_exchange (goal : ℚ) : s'.underCnt goal = s.underCnt goal := by
  unfold underCnt
  rw [h, List.filter_map, List.length_map]
  congr 2
  funext m
  change Cell.lt (Cell.add m.FTAG m.FTHG) _ = _
  rw [Cell.add_comm]

lemma summaryGoalMarkets_exchange : s'.summaryGoalMarkets = s.summaryGoalMarkets := by
  have hrows : s'.marketRows = s.marketRows := by
    funext k
    unfold marketRows
    simp only [underCnt_exchange h, numOfMatches_exchange h]
  unfold summaryGoalMarkets
  rw [hrows]

lemma scoreMarket_exchange (p : ℕ × ℕ) :
    scoreMarket s'.numOfMatches s'.scoreCnt p =
      { scoreMarket s.numOfMatches s.scoreCnt p.swap with index := scoreText p } := by
  unfold scoreMarket
  rw [scoreCnt_exchange h, numOfMatches_exchange h]
  rfl

lemma restMarket_exchange :
    restMarket s'.numOfMatches s'.scoreCnt = restMarket s.numOfMatches s.scoreCnt := by
  have hcnt : restCnt s'.numOfMatches s'.scoreCnt = restCnt s.numOfMatches s.scoreCnt := by
    have hperm : (scorelines.map Prod.swap).Perm scorelines := by decide
    have hsum := (hperm.map (fun p => (s.scoreCnt p.1 p.2 : ℤ))).sum_eq
    rw [List.map_map] at hsum
    unfold restCnt
    simp only [scoreCnt_exchange h, numOfMatches_exchange h]
    exact congrArg _ hsum
  unfold restMarket
  rw [hcnt, numOfMatches_exchange h]

lemma summaryGoalSpread_ok_exchange :
    (∃ rows, s'.summaryGoalSpread = .ok rows) ↔ ∃ rows, s.summaryGoalSpread = .ok rows := by
  have hswap : ∀ p ∈ scorelines, p.swap ∈ scorelines := by decide
  simp only [summaryGoalSpread_ok_iff, scoreCnt_exchange h]
  constructor
  · intro hall p hp
    exact hall p.swap (hswap p hp)
  · intro hall p hp
    exact hall p.swap (hswap p hp)

lemma summaryGoalSpread_exchange :
    SpreadExchanged s.summaryGoalSpread s'.summaryGoalSpread := by
  have hok := summaryGoalSpread_ok_exchange h
  cases hs : s.summaryGoalSpread with
  | ok rows =>
    obtain ⟨rows', hs'⟩ := hok.mpr ⟨rows, hs⟩
    left
    refine ⟨scoreMarket s.numOfMatches s.scoreCnt, restMarket s.numOfMatches s.scoreCnt,
      fun _ _ => rfl, rfl, ?_, ?_⟩
    · rw [eq_of_summaryGoalSpread_ok hs]
      rfl
    · rw [hs', eq_of_summaryGoalSpread_ok hs', spreadRows, restMarket_exchange h,
        funext (scoreMarket_exchange h)]
  | error e =>
    right
    cases hs' : s'.summaryGoalSpread with
    | ok rows' =>
      obtain ⟨rows, hrows⟩ := hok.mp ⟨rows', hs'⟩
      rw [hs] at hrows
      exact nomatch hrows
    | error e' =>
      rw [eq_zeroDivisionError_of_goalSpread _ _ hs, eq_zeroDivisionError_of_goalSpread _ _ hs']
      exact ⟨rfl, rfl⟩

end Exchange

/-- Exchanging the columns of the two sides exchanges the rows of the two sides in the goals and
the match statistics, reverses the scorelines of the spread and changes nothing else. The spread
and the markets raise on the exchanged matches when they raise on the matches. -/
theorem summaries_exchange (data : List Match) (season : String) :
    GoalsExchanged (init data season).summaryGoals
      (init (data.map Match.exchange) season).summaryGoals ∧
    StatsExchanged (init data season).summaryStats
      (init (data.map Match.exchange) season).summaryStats ∧
    SpreadExchanged (init data season).summaryGoalSpread
      (init (data.map Match.exchange) season).summaryGoalSpread ∧
    (init (data.map Match.exchange) season).summaryGoalMarkets =
      (init data season).summaryGoalMarkets := by
  have h : (init (data.map Match.exchange) season).data =
      (init data season).data.map Match.exchange := List.filter_map
  exact ⟨summaryGoals_exchange h, summaryStats_exchange h, summaryGoalSpread_exchange h,
    summaryGoalMarkets_exchange h⟩

end Proofs

end PremierLeague
