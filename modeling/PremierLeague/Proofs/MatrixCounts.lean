import PremierLeague.Proofs.Conservation
import PremierLeague.Proofs.MatrixEncoding
import PremierLeague.Proofs.ZeroCounts

/-!
# Counting on the matrix

The summaries of a season read the matches; the matrix of results shows their scores only. In a
complete double round robin this is enough: the counts of the scorelines, of the goal markets, of
the results and of the full-time goals are the counts over the cells of the matrix, and the cells
tell whether the spread and the markets can be computed.
-/

namespace PremierLeague.Proofs

open Tabular SeasonSummary

/-- The scores in all cells off the diagonal. -/
def scoresIn (fr : Frame String) : Option (List (ℕ × ℕ)) :=
  (((rowTeams fr).product (columnTeams fr)).filter (fun p => p.1 ≠ p.2)).mapM (fun p =>
    readScore fr p.1 p.2)

lemma DoubleRoundRobin.scoresIn_perm {teams : Finset String} {s : SeasonSummary}
    (h : DoubleRoundRobin teams s.data) :
    ∃ scores, scoresIn (scoreFrame s) = some scores ∧ scores.Perm (s.data.map scoreOf) := by
  refine ⟨((s.matrixTeams.product s.matrixTeams).filter (fun p => p.1 ≠ p.2)).map
    (fun p => fixtureScore s p.1 p.2), ?_, ?_⟩
  · have hrows : rowTeams (scoreFrame s) = s.matrixTeams :=
      rowTeams_matrixFrame h.no_label_matrixTeams
    unfold scoresIn columnTeams
    rw [hrows, h.columns_scoreFrame]
    apply mapM_some
    rintro ⟨t, u⟩ hp
    obtain ⟨hp, hne⟩ := List.mem_filter.mp hp
    obtain ⟨ht, hu⟩ := List.pair_mem_product.mp hp
    exact h.readScore_scoreFrame ht hu (of_decide_eq_true hne)
  · have hperm := h.fixtures_perm.map (fun r => (goalsIn r.FTHG, goalsIn r.FTAG))
    rw [List.map_map, List.map_map] at hperm
    have hscore : ∀ p : String × String, (goalsIn (scoreCells (fixtureScore s p.1 p.2)).1,
        goalsIn (scoreCells (fixtureScore s p.1 p.2)).2) = fixtureScore s p.1 p.2 := by
      intro p
      simp [scoreCells, goalsIn]
    exact (List.Perm.of_eq (List.map_congr_left (fun p _ => (hscore p).symm))).trans hperm

section Counts

variable {s : SeasonSummary} {scores : List (ℕ × ℕ)} (hp : scores.Perm (s.data.map scoreOf))

include hp

lemma countP_scores (p : ℕ × ℕ → Bool) : s.data.countP (fun m => p (scoreOf m)) =
    scores.countP p := by
  rw [hp.countP_eq, List.countP_map]
  rfl

lemma length_scores : s.numOfMatches = scores.length := by
  rw [s.numOfMatches_eq, hp.length_eq, List.length_map]

/-- Comparing the goals of a match is comparing its score. -/
lemma countP_compare (cmp : Cell → Cell → Bool) (p : ℕ × ℕ → Bool)
    (h : ∀ m ∈ s.data, cmp m.FTHG m.FTAG = p (scoreOf m)) :
    s.data.countP (fun m => cmp m.FTHG m.FTAG) = scores.countP p := by
  rw [← countP_scores hp]
  exact List.countP_congr (fun m hm => by rw [h m hm])

lemma sum_goals_scores (f : Match → Cell) (g : ℕ × ℕ → ℕ)
    (h : ∀ m ∈ s.data, f m = some (g (scoreOf m) : ℚ)) :
    Series.sum (s.data.map f) = ((scores.map g).sum : ℕ) := by
  have hval : s.data.map (fun m => (f m).val) = s.data.map (fun m => (g (scoreOf m) : ℚ)) :=
    List.map_congr_left (fun m hm => by rw [h m hm, Cell.val_some])
  rw [Series.sum_map, hval, (hp.map g).sum_eq, List.map_map, Nat.cast_list_sum, List.map_map]
  rfl

variable (hg : GoalCounts s.data)

include hg

lemma scoreCnt_scores (p : ℕ × ℕ) : s.scoreCnt p.1 p.2 = scores.count p := by
  have hbeq : (fun c => decide (c = p)) = (· == p) := by
    funext c
    rw [Bool.eq_iff_iff]
    simp
  rw [scoreCnt_eq hg, countP_scores hp (fun c => decide (c = p)), hbeq, List.count]

lemma spreadRows_scores :
    (spreadRows s.numOfMatches s.scoreCnt).map (fun r => (r.index, r.matchCnt)) =
    scorelines.map (fun p => (scoreText p, (scores.count p : ℤ))) ++
      [("4+", (scores.countP (fun c => 4 ≤ c.1 ∨ 4 ≤ c.2) : ℤ))] := by
  have hrest : restCnt s.numOfMatches s.scoreCnt =
      scores.countP (fun c => 4 ≤ c.1 ∨ 4 ≤ c.2) := by
    rw [restCnt_eq hg, ← countP_scores hp]
  have hcells : ∀ p ∈ scorelines, ((scoreMarket s.numOfMatches s.scoreCnt p).index,
      (scoreMarket s.numOfMatches s.scoreCnt p).matchCnt) =
        (scoreText p, (scores.count p : ℤ)) := by
    intro p _
    change (scoreText p, (s.scoreCnt p.1 p.2 : ℤ)) = _
    rw [scoreCnt_scores hp hg]
  unfold spreadRows
  rw [List.map_append, List.map_map, ← hrest, ← List.map_congr_left hcells]
  rfl

lemma underCnt_scores (k : ℕ) :
    s.underCnt (k + 1 / 2) = scores.countP (fun c => c.1 + c.2 ≤ k) := by
  rw [underCnt_eq hg, countP_scores hp (fun c => decide (c.1 + c.2 ≤ k))]

lemma marketsRows_scores : (marketsRows s).map (fun r => (r.index, r.matchCnt)) =
    (List.range 5).flatMap (fun k =>
      [(underLabel k, (scores.countP (fun c => c.1 + c.2 ≤ k) : ℤ)),
        (overLabel k, (scores.countP (fun c => k < c.1 + c.2) : ℤ))]) := by
  have hover : ∀ k : ℕ, (s.numOfMatches : ℤ) - s.underCnt (k + 1 / 2) =
      scores.countP (fun c => k < c.1 + c.2) := by
    intro k
    have hsplit := List.length_eq_countP_add_countP (fun c : ℕ × ℕ => decide (c.1 + c.2 ≤ k))
      (l := scores)
    have hneg : scores.countP (fun c => decide ¬decide (c.1 + c.2 ≤ k) = true) =
        scores.countP (fun c => k < c.1 + c.2) := by
      congr 1
      funext c
      simp
    rw [length_scores hp, underCnt_scores hp hg]
    omega
  unfold marketsRows
  rw [List.map_flatMap]
  apply List.flatMap_congr
  intro k _
  rw [← hover k, ← underCnt_scores hp hg k]
  rfl

lemma ftResults_scores (hf : FtrConsistent s.data) :
    s.summaryFtResults.map (fun r => (r.index, r.matchCnt)) =
      [("home_win", scores.countP (fun c => c.2 < c.1)),
        ("draw", scores.countP (fun c => c.1 = c.2)),
        ("away_win", scores.countP (fun c => c.1 < c.2))] := by
  have hH := (length_homeWins hf).trans (countP_compare hp (fun h a => Cell.lt a h)
    (fun c => c.2 < c.1) (fun m hm => by
      obtain ⟨⟨h, hh⟩, ⟨a, ha⟩⟩ := hg m hm
      simp [scoreOf, goalsIn, hh, ha, Cell.lt]))
  have hD := (length_draws hf).trans (countP_compare hp Cell.eq
    (fun c => c.1 = c.2) (fun m hm => by
      obtain ⟨⟨h, hh⟩, ⟨a, ha⟩⟩ := hg m hm
      simp [scoreOf, goalsIn, hh, ha, Cell.eq]))
  have hA := (length_awayWins hf).trans (countP_compare hp Cell.lt
    (fun c => c.1 < c.2) (fun m hm => by
      obtain ⟨⟨h, hh⟩, ⟨a, ha⟩⟩ := hg m hm
      simp [scoreOf, goalsIn, hh, ha, Cell.lt]))
  rw [← hH, ← hD, ← hA]
  rfl

lemma goals_scores : s.summaryGoals.map (fun r => (r.index, r.ftCnt)) =
    [("home_goals", (((scores.map Prod.fst).sum : ℕ) : ℚ)),
      ("away_goals", (((scores.map Prod.snd).sum : ℕ) : ℚ)),
      ("total_goals", (((scores.map (fun c => c.1 + c.2)).sum : ℕ) : ℚ))] := by
  have hhome := sum_goals_scores hp (·.FTHG) Prod.fst
    (fun m hm => (some_goalsIn (hg m hm).1).symm)
  have haway := sum_goals_scores hp (·.FTAG) Prod.snd
    (fun m hm => (some_goalsIn (hg m hm).2).symm)
  have htotal : (scores.map (fun c => c.1 + c.2)).sum =
      (scores.map Prod.fst).sum + (scores.map Prod.snd).sum := List.sum_map_add
  rw [htotal, Nat.cast_add, ← hhome, ← haway]
  rfl

end Counts

/-- The spread counts these scores, and is there exactly when each of its scorelines is among
them. -/
structure SpreadCounts (scores : List (ℕ × ℕ)) (spread : Except PyError (List MarketRow)) :
    Prop where
  ok_iff : (∃ rows, spread = .ok rows) ↔ ∀ p ∈ scorelines, p ∈ scores
  error : ∀ e, spread = .error e → e = .zeroDivisionError
  counts : ∀ rows, spread = .ok rows → rows.map (fun r => (r.index, r.matchCnt)) =
    scorelines.map (fun p => (scoreText p, (scores.count p : ℤ))) ++
      [("4+", (scores.countP (fun c => 4 ≤ c.1 ∨ 4 ≤ c.2) : ℤ))]

/-- The markets count these scores, and are there exactly when a goalless match and one with five
goals or more are among them. -/
structure MarketsCount (scores : List (ℕ × ℕ)) (markets : Except PyError (List MarketRow)) :
    Prop where
  ok_iff : (∃ rows, markets = .ok rows) ↔ (0, 0) ∈ scores ∧ ∃ c ∈ scores, 4 < c.1 + c.2
  error : ∀ e, markets = .error e → e = .zeroDivisionError
  counts : ∀ rows, markets = .ok rows → rows.map (fun r => (r.index, r.matchCnt)) =
    (List.range 5).flatMap (fun k =>
      [(underLabel k, (scores.countP (fun c => c.1 + c.2 ≤ k) : ℤ)),
        (overLabel k, (scores.countP (fun c => k < c.1 + c.2) : ℤ))])

section Returns

variable {s : SeasonSummary} {scores : List (ℕ × ℕ)} (hp : scores.Perm (s.data.map scoreOf))
  (hg : GoalCounts s.data)

include hp hg

lemma spreadCounts : SpreadCounts scores s.summaryGoalSpread := by
  constructor
  · rw [summaryGoalSpread_ok_iff]
    simp only [scoreCnt_scores hp hg, ne_eq, List.count_eq_zero, not_not]
  · intro e he
    exact eq_zeroDivisionError_of_goalSpread _ _ he
  · intro rows hrows
    rw [eq_of_summaryGoalSpread_ok hrows]
    exact spreadRows_scores hp hg

lemma underCnt_between_iff (k : ℕ) :
    s.underCnt (k + 1 / 2) ≠ 0 ∧ s.underCnt (k + 1 / 2) ≠ s.numOfMatches ↔
      (∃ c ∈ scores, c.1 + c.2 ≤ k) ∧ ∃ c ∈ scores, k < c.1 + c.2 := by
  rw [underCnt_scores hp hg, length_scores hp, ← Nat.pos_iff_ne_zero, List.countP_pos_iff, ne_eq,
    List.countP_eq_length]
  simp only [decide_eq_true_eq]
  push Not
  rfl

lemma marketsCount : MarketsCount scores s.summaryGoalMarkets := by
  constructor
  · rw [summaryGoalMarkets_ok_iff]
    simp only [underCnt_between_iff hp hg]
    constructor
    · intro h
      obtain ⟨⟨⟨i, j⟩, hmem, hzero⟩, -⟩ := h 0 (by omega)
      obtain ⟨-, hmany⟩ := h 4 (by omega)
      obtain ⟨rfl, rfl⟩ : i = 0 ∧ j = 0 := by omega
      exact ⟨hmem, hmany⟩
    · rintro ⟨hzero, c, hc, hmany⟩ k hk
      exact ⟨⟨(0, 0), hzero, Nat.zero_le k⟩, c, hc, by omega⟩
  · intro e he
    exact eq_zeroDivisionError_of_summaryGoalMarkets s he
  · intro rows hrows
    rw [eq_of_summaryGoalMarkets_ok hrows]
    exact marketsRows_scores hp hg

end Returns

/-- Five teams that meet with every scoreline up to 3-3 and four others. -/
def fiveTeams : SeasonSummary :=
  let teams := ["Arsenal", "Chelsea", "Leeds", "Liverpool", "Tottenham"]
  .init ((((teams.product teams).filter (fun p => p.1 ≠ p.2)).zip
    (scorelines ++ [(4, 0), (1, 5), (2, 2), (6, 1)])).map
      (fun p => fixture p.1.1 p.1.2 p.2.1 p.2.2)) "20-21"

end PremierLeague.Proofs
