import PremierLeague.Library.Odds
import PremierLeague.Proofs.WinningOdds
import PremierLeague.Proofs.ZeroCounts

/-!
# Books of fair odds

The fair odds of the results, of each goal threshold and of the scorelines imply probabilities
that add up to one: exactly where the odds are not rounded, and up to half a hundredth where
they are. A row without matches has infinite odds and implies nothing.
-/

namespace PremierLeague.Proofs

open Tabular ExactFloat SeasonSummary

/-! ### Results -/

/-- The rows of the results imply one in all. -/
structure ResultsBook (rows : List FtResultsRow) : Prop where
  labels : rows.map (·.index) = ["home_win", "draw", "away_win"]
  book : (rows.map (fun r => implied r.fairOdds)).sum = .fin 1

lemma resultsBook {s : SeasonSummary} (he : EveryOutcome s.data) :
    ResultsBook s.summaryFtResults := by
  have hpos : 0 < (s.withResult "H").length :=
    List.length_pos_iff.mpr (resultMatches_ne_nil he "H" (by decide))
  let n := (s.withResult "H").length + (s.withResult "D").length + (s.withResult "A").length
  have hn : (n : ℚ) ≠ 0 := Nat.cast_ne_zero.mpr (by omega)
  have hsum : ((s.withResult "H").length : ℚ) +
      ((s.withResult "D").length + (s.withResult "A").length) = n := by
    push_cast [n]
    ring
  refine ⟨rfl, ?_⟩
  change implied (fairOdds (s.withResult "H").length n) +
    (implied (fairOdds (s.withResult "D").length n) +
      (implied (fairOdds (s.withResult "A").length n) + .fin 0)) = _
  rw [implied_fairOdds hn, implied_fairOdds hn, implied_fairOdds hn, fin_add_fin, fin_add_fin,
    fin_add_fin, add_zero, ← add_div, ← add_div, hsum, div_self hn]

/-! ### Scorelines -/

/-- The rows of the spread imply one in all, up to the rounding of their odds. -/
structure SpreadBook (rows : List MarketRow) : Prop where
  labels : rows.map (·.index) = scorelines.map scoreText ++ ["4+"]
  book : ∃ q, (rows.map (fun r => implied r.fairOdds)).sum = .fin q ∧ |q - 1| ≤ 51 / 10000

section Spread

variable (s : SeasonSummary)

/-- A match has one score at most, so different scorelines never count more than all matches. -/
lemma sum_scoreCnt_le {ps : List (ℕ × ℕ)} (hps : ps.Nodup) :
    (ps.map (fun p => s.scoreCnt p.1 p.2)).sum ≤ s.numOfMatches := by
  let score : ℕ × ℕ → Cell × Cell := fun p => (some (p.1 : ℚ), some (p.2 : ℚ))
  have hscore : Function.Injective score := by
    rintro ⟨i, j⟩ ⟨i', j'⟩ h
    simpa [score] using h
  have hcnt : ∀ p : ℕ × ℕ,
      s.scoreCnt p.1 p.2 = s.data.countP (fun m => decide ((m.FTHG, m.FTAG) = score p)) := by
    intro p
    unfold scoreCnt
    rw [List.countP_eq_length_filter]
    congr 2
    funext m
    rw [Bool.eq_iff_iff, Bool.and_eq_true, Cell.eq_some_iff, Cell.eq_some_iff,
      decide_eq_true_iff, Prod.mk.injEq]
  have hsum := sum_countP_key (fun m : Match => (m.FTHG, m.FTAG)) (hps.map hscore) s.data
  rw [List.map_map] at hsum
  rw [s.numOfMatches_eq, List.map_congr_left (fun p _ => hcnt p)]
  exact hsum.trans_le List.countP_le_length

lemma restCnt_nonneg : 0 ≤ restCnt s.numOfMatches s.scoreCnt := by
  have hle := sum_scoreCnt_le s nodup_scorelines
  have hcast : (scorelines.map (fun p => (s.scoreCnt p.1 p.2 : ℤ))).sum =
      ((scorelines.map (fun p => s.scoreCnt p.1 p.2)).sum : ℕ) := by
    rw [Nat.cast_list_sum, List.map_map]
    rfl
  unfold restCnt
  rw [hcast]
  omega

variable {s} (hall : ∀ p ∈ scorelines, s.scoreCnt p.1 p.2 ≠ 0)

lemma matchCnt_nonneg {r : MarketRow} (hr : r ∈ spreadRows s.numOfMatches s.scoreCnt) :
    0 ≤ r.matchCnt := by
  rcases List.mem_append.mp hr with hr | hr
  · obtain ⟨p, -, rfl⟩ := List.mem_map.mp hr
    exact Int.natCast_nonneg _
  · rw [List.mem_singleton.mp hr]
    exact restCnt_nonneg s

lemma matchCnt_le {r : MarketRow} (hr : r ∈ spreadRows s.numOfMatches s.scoreCnt) :
    r.matchCnt ≤ s.numOfMatches := by
  rw [← sum_matchCnt_spreadRows]
  refine List.single_le_sum ?_ _ (List.mem_map_of_mem hr)
  intro c hc
  obtain ⟨r', hr', rfl⟩ := List.mem_map.mp hc
  exact matchCnt_nonneg hr'

include hall

lemma numOfMatches_ne_zero : (s.numOfMatches : ℚ) ≠ 0 := by
  have hle := scoreCnt_le s 0 0
  have hne : s.scoreCnt 0 0 ≠ 0 := hall (0, 0) (by decide)
  exact Nat.cast_ne_zero.mpr (by omega)

/-- Every row of the spread has the fair odds of its matches, rounded. -/
lemma fairOdds_spreadRows {r : MarketRow} (hr : r ∈ spreadRows s.numOfMatches s.scoreCnt) :
    r.fairOdds = (fairOdds r.matchCnt s.numOfMatches).round2 := by
  rcases List.mem_append.mp hr with hr | hr
  · obtain ⟨p, hp, rfl⟩ := List.mem_map.mp hr
    have hn := numOfMatches_ne_zero hall
    have hpct := (pct_eq_zero_iff hn).not.mpr (hall p hp)
    change ExactFloat.fin _ = (fairOdds ((s.scoreCnt p.1 p.2 : ℤ) : ℚ) _).round2
    rw [Int.cast_natCast, fairOdds, percent_eq hn, fin_div_fin_of_ne _ hpct]
    rfl
  · rw [List.mem_singleton.mp hr]
    rfl

lemma spreadBook : SpreadBook (spreadRows s.numOfMatches s.scoreCnt) := by
  have hn := numOfMatches_ne_zero hall
  have hpos : (0 : ℚ) < s.numOfMatches := lt_of_le_of_ne (Nat.cast_nonneg _) hn.symm
  have hrow : ∀ r ∈ spreadRows s.numOfMatches s.scoreCnt, ∃ q, implied r.fairOdds = .fin q ∧
      |q - (r.matchCnt : ℚ) / s.numOfMatches| ≤ 1 / 200 * (r.matchCnt / s.numOfMatches) := by
    intro r hr
    have hnonneg : (0 : ℚ) ≤ r.matchCnt := Int.cast_nonneg (matchCnt_nonneg hr)
    have hle : (r.matchCnt : ℚ) ≤ s.numOfMatches := by exact_mod_cast matchCnt_le hr
    rw [fairOdds_spreadRows hall hr]
    exact implied_rounded hnonneg hle hpos
  obtain ⟨q, hq, herror⟩ := exists_sum_implied hrow
  have htotal : ((spreadRows s.numOfMatches s.scoreCnt).map
      (fun r => (r.matchCnt : ℚ) / s.numOfMatches)).sum = 1 := by
    have hcast := congrArg (Int.cast (R := ℚ)) (sum_matchCnt_spreadRows s)
    rw [Int.cast_list_sum, List.map_map, Int.cast_natCast] at hcast
    simp only [div_eq_mul_inv]
    rw [List.sum_map_mul_right]
    exact (congrArg (· * _) hcast).trans (mul_inv_cancel₀ hn)
  rw [htotal] at herror
  exact ⟨index_spreadRows s, q, hq, herror.trans (by norm_num)⟩

end Spread

/-! ### Thresholds -/

/-- Finite odds in their order. -/
def OddsLe (x y : ExactFloat) : Prop := ∃ p q, x = .fin p ∧ y = .fin q ∧ p ≤ q

/-- The two rows of each threshold imply one in all; a higher threshold has lower odds under it
and higher odds over it. -/
structure MarketsBook (rows : List MarketRow) (underRow overRow : ℕ → MarketRow) : Prop where
  rows_eq : rows = (List.range 5).flatMap (fun k => [underRow k, overRow k])
  under_label : ∀ k, (underRow k).index = underLabel k
  over_label : ∀ k, (overRow k).index = overLabel k
  book : ∀ k < 5, implied (underRow k).fairOdds + implied (overRow k).fairOdds = .fin 1
  under_anti : ∀ k k', k ≤ k' → k' < 5 → OddsLe (underRow k').fairOdds (underRow k).fairOdds
  over_mono : ∀ k k', k ≤ k' → k' < 5 → OddsLe (overRow k).fairOdds (overRow k').fairOdds

section Markets

variable {s : SeasonSummary} {k k' : ℕ} (hzero : s.underCnt (k + 1 / 2) ≠ 0)
  (hall : s.underCnt (k + 1 / 2) ≠ s.numOfMatches)

include hzero

lemma numOfMatches_ne_zero_of_under : (s.numOfMatches : ℚ) ≠ 0 := by
  have hle := underCnt_le s (k + 1 / 2)
  exact Nat.cast_ne_zero.mpr (by omega)

lemma fairOdds_underMarket :
    (underMarket s k).fairOdds = fairOdds (s.underCnt (k + 1 / 2)) s.numOfMatches := by
  have hn := numOfMatches_ne_zero_of_under hzero
  rw [fairOdds, percent_eq hn, fin_div_fin_of_ne _ ((pct_eq_zero_iff hn).not.mpr hzero)]
  rfl

include hall

/-- The odds over a threshold come from the percentage left to the full hundred. -/
lemma fairOdds_overMarket : (overMarket s k).fairOdds =
    fairOdds (s.numOfMatches - s.underCnt (k + 1 / 2)) s.numOfMatches := by
  have hn := numOfMatches_ne_zero_of_under hzero
  have hrest : 100 - (s.underCnt (k + 1 / 2) : ℚ) / s.numOfMatches * 100 =
      (s.numOfMatches - s.underCnt (k + 1 / 2)) / s.numOfMatches * 100 := by
    field_simp
  have hpct := (pct_eq_hundred_iff hn).not.mpr hall
  rw [hrest] at hpct
  rw [fairOdds, percent_eq hn, fin_div_fin_of_ne _ hpct, ← hrest]
  rfl

lemma implied_add_implied :
    implied (underMarket s k).fairOdds + implied (overMarket s k).fairOdds = .fin 1 := by
  have hn := numOfMatches_ne_zero_of_under hzero
  rw [fairOdds_underMarket hzero, fairOdds_overMarket hzero hall, implied_fairOdds hn,
    implied_fairOdds hn, fin_add_fin, ← add_div, add_sub_cancel, div_self hn]

end Markets

/-- Fewer cases have higher fair odds. -/
lemma fairOdds_le {c c' n : ℚ} (hc : 0 < c) (hcc' : c ≤ c') (hn : 0 < n) :
    OddsLe (fairOdds c' n) (fairOdds c n) :=
  ⟨_, _, fairOdds_eq_fin hn.ne' (hc.trans_le hcc').ne', fairOdds_eq_fin hn.ne' hc.ne',
    div_le_div_of_nonneg_left hn.le hc hcc'⟩

lemma marketsBook {s : SeasonSummary} (h : ∀ k : ℕ, k < 5 →
    s.underCnt (k + 1 / 2) ≠ 0 ∧ s.underCnt (k + 1 / 2) ≠ s.numOfMatches) :
    MarketsBook (marketsRows s) (underMarket s) (overMarket s) := by
  have hn : (0 : ℚ) < s.numOfMatches :=
    lt_of_le_of_ne (Nat.cast_nonneg _) (numOfMatches_ne_zero_of_under (h 0 (by omega)).1).symm
  constructor
  · rfl
  · exact fun _ => rfl
  · exact fun _ => rfl
  · intro k hk
    exact implied_add_implied (h k hk).1 (h k hk).2
  · intro k k' hle hk'
    obtain ⟨hzero, -⟩ := h k (hle.trans_lt hk')
    rw [fairOdds_underMarket hzero, fairOdds_underMarket (h k' hk').1]
    have hmono : (s.underCnt (k + 1 / 2) : ℚ) ≤ s.underCnt (k' + 1 / 2) :=
      Nat.cast_le.mpr (underCnt_mono s hle)
    exact fairOdds_le (Nat.cast_pos.mpr (Nat.pos_of_ne_zero hzero)) hmono hn
  · intro k k' hle hk'
    obtain ⟨hzero, hall⟩ := h k (hle.trans_lt hk')
    obtain ⟨hzero', hall'⟩ := h k' hk'
    rw [fairOdds_overMarket hzero hall, fairOdds_overMarket hzero' hall']
    have hmono : (s.underCnt (k + 1 / 2) : ℚ) ≤ s.underCnt (k' + 1 / 2) :=
      Nat.cast_le.mpr (underCnt_mono s hle)
    have hlt : (s.underCnt (k' + 1 / 2) : ℚ) < s.numOfMatches :=
      Nat.cast_lt.mpr ((underCnt_le s _).lt_of_ne hall')
    exact fairOdds_le (by linarith) (by linarith) hn

/-! ### All books -/

/-- Every listed outcome has a match, except perhaps the scores beyond 3-3. -/
structure OutcomesOccur (data : List Match) : Prop where
  results : EveryOutcome data
  scorelines : AllScorelinesOccur data
  unders : ∀ k : ℕ, k < 5 → ∃ m ∈ data, Under m (k + 1 / 2)
  overs : ∀ k : ℕ, k < 5 → ∃ m ∈ data, ¬ Under m (k + 1 / 2)

/-- The fair odds of the results, of the scorelines and of each goal threshold form books. -/
theorem fair_odds_book (s : SeasonSummary) (h : OutcomesOccur s.data) :
    ResultsBook s.summaryFtResults ∧
      (∃ spread, s.summaryGoalSpread = .ok spread ∧ SpreadBook spread) ∧
      ∃ markets underRow overRow, s.summaryGoalMarkets = .ok markets ∧
        MarketsBook markets underRow overRow := by
  have hscores : ∀ p ∈ scorelines, s.scoreCnt p.1 p.2 ≠ 0 :=
    fun p hp => (scoreCnt_ne_zero_iff s p.1 p.2).mpr (h.scorelines p hp)
  have hgoals : ∀ k : ℕ, k < 5 →
      s.underCnt (k + 1 / 2) ≠ 0 ∧ s.underCnt (k + 1 / 2) ≠ s.numOfMatches :=
    fun k hk => ⟨(underCnt_ne_zero_iff s _).mpr (h.unders k hk),
      (underCnt_ne_all_iff s _).mpr (h.overs k hk)⟩
  obtain ⟨spread, hspread⟩ := (summaryGoalSpread_ok_iff s).mpr hscores
  obtain ⟨markets, hmarkets⟩ := (summaryGoalMarkets_ok_iff s).mpr hgoals
  refine ⟨resultsBook h.results, ⟨spread, hspread, ?_⟩,
    markets, underMarket s, overMarket s, hmarkets, ?_⟩
  · rw [eq_of_summaryGoalSpread_ok hspread]
    exact spreadBook hscores
  · rw [eq_of_summaryGoalMarkets_ok hmarkets]
    exact marketsBook hgoals

/-- A season with every scoreline up to 3-3 and no other score. -/
def upToThreeAll : SeasonSummary :=
  .init (scorelines.map (fun p : ℕ × ℕ => fixture "Arsenal" "Chelsea" p.1 p.2)) "20-21"

theorem fair_odds_book_upToThreeAll :
    ResultsBook upToThreeAll.summaryFtResults ∧
      ∃ spread, upToThreeAll.summaryGoalSpread = .ok spread ∧ SpreadBook spread := by
  have hunder : ∀ k : ℕ, k < 5 → ∃ m ∈ upToThreeAll.data, Under m (k + 1 / 2) := by
    decide +kernel
  have hover : ∀ k : ℕ, k < 5 → ∃ m ∈ upToThreeAll.data, ¬ Under m (k + 1 / 2) := by
    decide +kernel
  obtain ⟨hresults, hspread, -⟩ := fair_odds_book upToThreeAll
    ⟨by decide +kernel, by decide +kernel, hunder, hover⟩
  exact ⟨hresults, hspread⟩

end PremierLeague.Proofs
