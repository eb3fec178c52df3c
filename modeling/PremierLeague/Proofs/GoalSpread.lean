import PremierLeague.Proofs.OverallTable
import PremierLeague.Summaries

/-!
# Scorelines and goal markets

The scorelines up to 3-3 are disjoint, so their counts add up to the matches whose score is
among them, and the row computed by subtraction counts the other matches. The goal markets
count the same matches by their total, which up to three goals is decided by the scorelines.
-/

namespace PremierLeague.Proofs

open Tabular SeasonSummary

/-! ### Rows by label -/

def underLabel (k : ℕ) : String := "Under " ++ (toString k ++ ".5") ++ " goals"

def overLabel (k : ℕ) : String := "Over " ++ (toString k ++ ".5") ++ " goals"

def cntAt (rows : List MarketRow) (label : String) : ℤ :=
  match rows.find? (fun r => r.index == label) with
  | some r => r.matchCnt
  | none => 0

lemma cntAt_of_mem {rows : List MarketRow} (hn : (rows.map (·.index)).Nodup) {r : MarketRow}
    (hr : r ∈ rows) : cntAt rows r.index = r.matchCnt := by
  have hfind : rows.find? (fun r' => r'.index == r.index) = some r :=
    find?_key (fun r : MarketRow => r.index) hn hr
  unfold cntAt
  rw [hfind]

/-! ### What the functions return -/

section Rows

variable (n : ℕ) (cnt : ℕ → ℕ → ℕ)

def scoreMarket (p : ℕ × ℕ) : MarketRow where
  index := scoreText p
  matchCnt := cnt p.1 p.2
  matchPct := .fin ((cnt p.1 p.2 : ℚ) / n * 100)
  fairOdds := .fin (ExactFloat.ratRound2 (100 / ((cnt p.1 p.2 : ℚ) / n * 100)))

/-- The number of matches that the scorelines leave over. -/
def restCnt : ℤ := n - (scorelines.map (fun p => (cnt p.1 p.2 : ℤ))).sum

def restMarket : MarketRow where
  index := "4+"
  matchCnt := restCnt n cnt
  matchPct := .fin (restCnt n cnt) / .fin n * .fin 100
  fairOdds := (ExactFloat.fin 100 / (.fin (restCnt n cnt) / .fin n * .fin 100)).round2

def spreadRows : List MarketRow := scorelines.map (scoreMarket n cnt) ++ [restMarket n cnt]

lemma sum_matchCnt_scoreMarket : ((scorelines.map (scoreMarket n cnt)).map (·.matchCnt)).sum =
    (scorelines.map (fun p => (cnt p.1 p.2 : ℤ))).sum := by
  rw [List.map_map]
  rfl

variable (s : SeasonSummary)

def underMarket (k : ℕ) : MarketRow where
  index := underLabel k
  matchCnt := s.underCnt (k + 1 / 2)
  matchPct := .fin ((s.underCnt (k + 1 / 2) : ℚ) / s.numOfMatches * 100)
  fairOdds := .fin (100 / ((s.underCnt (k + 1 / 2) : ℚ) / s.numOfMatches * 100))

def overMarket (k : ℕ) : MarketRow where
  index := overLabel k
  matchCnt := s.numOfMatches - s.underCnt (k + 1 / 2)
  matchPct := .fin (100 - (s.underCnt (k + 1 / 2) : ℚ) / s.numOfMatches * 100)
  fairOdds := .fin (100 / (100 - (s.underCnt (k + 1 / 2) : ℚ) / s.numOfMatches * 100))

def marketsRows : List MarketRow :=
  (List.range 5).flatMap (fun k => [underMarket s k, overMarket s k])

end Rows

lemma eq_div_of_pyDiv_ok {x y q : ℚ} (h : pyDiv x y = .ok q) : q = x / y := by
  unfold pyDiv at h
  split at h
  · exact nomatch h
  · exact (Except.ok.inj h).symm

lemma eq_of_scoreRow_ok {n : ℕ} {cnt : ℕ → ℕ → ℕ} {p : ℕ × ℕ} {r : MarketRow}
    (h : scoreRow n (cnt p.1 p.2) p = .ok r) : r = scoreMarket n cnt p := by
  obtain ⟨pct, hpct, h⟩ := exists_of_bind_ok h
  obtain ⟨odds, hodds, h⟩ := exists_of_bind_ok h
  obtain rfl := eq_div_of_pyDiv_ok hpct
  obtain rfl := eq_div_of_pyDiv_ok hodds
  exact (Except.ok.inj h).symm

theorem eq_of_goalSpread_ok {n : ℕ} {cnt : ℕ → ℕ → ℕ} {rows : List MarketRow}
    (h : goalSpread n cnt = .ok rows) : rows = spreadRows n cnt := by
  obtain ⟨cells, hcells, h⟩ := exists_of_bind_ok h
  obtain rfl := eq_map_of_mapM_ok (fun _ _ => eq_of_scoreRow_ok) hcells
  rw [sum_matchCnt_scoreMarket] at h
  exact (Except.ok.inj h).symm

theorem eq_of_summaryGoalSpread_ok {s : SeasonSummary} {rows : List MarketRow}
    (h : s.summaryGoalSpread = .ok rows) : rows = spreadRows s.numOfMatches s.scoreCnt :=
  eq_of_goalSpread_ok h

lemma eq_of_marketRows_ok {s : SeasonSummary} {k : ℕ} {rs : List MarketRow}
    (h : s.marketRows k = .ok rs) : rs = [underMarket s k, overMarket s k] := by
  obtain ⟨pct, hpct, h⟩ := exists_of_bind_ok h
  obtain ⟨odds, hodds, h⟩ := exists_of_bind_ok h
  obtain ⟨overOdds, hover, h⟩ := exists_of_bind_ok h
  obtain rfl := eq_div_of_pyDiv_ok hpct
  obtain rfl := eq_div_of_pyDiv_ok hodds
  obtain rfl := eq_div_of_pyDiv_ok hover
  exact (Except.ok.inj h).symm

theorem eq_of_summaryGoalMarkets_ok {s : SeasonSummary} {rows : List MarketRow}
    (h : s.summaryGoalMarkets = .ok rows) : rows = marketsRows s := by
  obtain ⟨rs, hrs, h⟩ := exists_of_bind_ok h
  obtain rfl := eq_map_of_mapM_ok (fun _ _ => eq_of_marketRows_ok) hrs
  unfold marketsRows
  rw [List.flatMap_def]
  exact (Except.ok.inj h).symm

/-! ### Counts -/

section Counts

variable {s : SeasonSummary} (hg : GoalCounts s.data)

include hg

lemma scoreCnt_eq (p : ℕ × ℕ) :
    s.scoreCnt p.1 p.2 = s.data.countP (fun m => decide (scoreOf m = p)) := by
  unfold scoreCnt
  rw [← List.countP_eq_length_filter]
  apply List.countP_congr
  intro m hm
  obtain ⟨⟨h, hh⟩, ⟨a, ha⟩⟩ := hg m hm
  rw [hh, ha]
  simp [scoreOf, hh, ha, goalsIn, Cell.eq, Prod.ext_iff]

lemma underCnt_eq (k : ℕ) : s.underCnt (k + 1 / 2) =
    s.data.countP (fun m => decide ((scoreOf m).1 + (scoreOf m).2 ≤ k)) := by
  unfold underCnt
  rw [← List.countP_eq_length_filter]
  apply List.countP_congr
  intro m hm
  obtain ⟨⟨h, hh⟩, ⟨a, ha⟩⟩ := hg m hm
  have hhalf : (h : ℚ) + a < k + 1 / 2 ↔ h + a ≤ k := by
    constructor
    · intro hlt
      have hlt' : ((h + a : ℕ) : ℚ) < ((k + 1 : ℕ) : ℚ) := by
        push_cast
        linarith
      have hnat : h + a < k + 1 := by exact_mod_cast hlt'
      omega
    · intro hle
      have hle' : ((h + a : ℕ) : ℚ) ≤ (k : ℚ) := by exact_mod_cast hle
      push_cast at hle'
      linarith
  rw [hh, ha]
  simp only [scoreOf, hh, ha, goalsIn, Cell.add, Cell.lt, Cell.val_some, Rat.num_natCast,
    Int.toNat_natCast, decide_eq_true_eq]
  exact hhalf

/-- The counts of different scorelines add up to the matches with one of them. -/
lemma sum_scoreCnt {ps : List (ℕ × ℕ)} (hps : ps.Nodup) :
    (ps.map (fun p => s.scoreCnt p.1 p.2)).sum =
      s.data.countP (fun m => decide (scoreOf m ∈ ps)) := by
  have hcnt : (ps.map (fun p => s.scoreCnt p.1 p.2)).sum =
      (ps.map (fun p => s.data.countP (fun m => decide (scoreOf m = p)))).sum :=
    congrArg List.sum (List.map_congr_left (fun p _ => scoreCnt_eq hg p))
  rw [hcnt]
  refine (sum_countP_key scoreOf hps s.data).trans ?_
  apply List.countP_congr
  intro m _
  simp

end Counts

lemma mem_scorelines {p : ℕ × ℕ} : p ∈ scorelines ↔ p.1 < 4 ∧ p.2 < 4 := by
  obtain ⟨i, j⟩ := p
  simp [scorelines]

lemma nodup_scorelines : scorelines.Nodup := by decide

/-- Subtraction counts the matches in which a side scored four goals or more. -/
lemma restCnt_eq {s : SeasonSummary} (hg : GoalCounts s.data) :
    restCnt s.numOfMatches s.scoreCnt =
      s.data.countP (fun m => decide (4 ≤ (scoreOf m).1 ∨ 4 ≤ (scoreOf m).2)) := by
  have hsplit := List.length_eq_countP_add_countP (fun m => decide (scoreOf m ∈ scorelines))
    (l := s.data)
  have hrest : s.data.countP (fun m => decide ¬decide (scoreOf m ∈ scorelines) = true) =
      s.data.countP (fun m => decide (4 ≤ (scoreOf m).1 ∨ 4 ≤ (scoreOf m).2)) := by
    congr 1
    funext m
    rw [decide_eq_decide, decide_eq_true_eq, mem_scorelines]
    omega
  have hcells : (scorelines.map (fun p => (s.scoreCnt p.1 p.2 : ℤ))).sum =
      ((s.data.countP (fun m => decide (scoreOf m ∈ scorelines)) : ℕ) : ℤ) := by
    rw [← sum_scoreCnt hg nodup_scorelines, Nat.cast_list_sum, List.map_map]
    rfl
  unfold restCnt
  rw [hcells, s.numOfMatches_eq]
  omega

def scorelinesUpTo (k : ℕ) : List (ℕ × ℕ) := scorelines.filter (fun p => p.1 + p.2 ≤ k)

lemma sum_scorelinesUpTo {s : SeasonSummary} (hg : GoalCounts s.data) (k : ℕ) :
    ((scorelinesUpTo k).map (fun p => s.scoreCnt p.1 p.2)).sum =
      s.data.countP (fun m => decide ((scoreOf m).1 < 4 ∧ (scoreOf m).2 < 4 ∧
        (scoreOf m).1 + (scoreOf m).2 ≤ k)) := by
  have hnodup : (scorelinesUpTo k).Nodup := nodup_scorelines.filter _
  rw [sum_scoreCnt hg hnodup]
  congr 1
  funext m
  rw [decide_eq_decide, scorelinesUpTo, List.mem_filter, mem_scorelines, decide_eq_true_eq,
    and_assoc]

/-- Up to three goals, the total is decided by the scorelines. -/
lemma underCnt_eq_sum {s : SeasonSummary} (hg : GoalCounts s.data) {k : ℕ} (hk : k ≤ 3) :
    s.underCnt (k + 1 / 2) = ((scorelinesUpTo k).map (fun p => s.scoreCnt p.1 p.2)).sum := by
  rw [underCnt_eq hg, sum_scorelinesUpTo hg]
  congr 1
  funext m
  rw [decide_eq_decide]
  omega

/-- Four goals are missed by the scorelines exactly when one side scored all of them. -/
lemma underCnt_four {s : SeasonSummary} (hg : GoalCounts s.data) :
    s.underCnt ((4 : ℕ) + 1 / 2) = ((scorelinesUpTo 4).map (fun p => s.scoreCnt p.1 p.2)).sum +
      s.scoreCnt 4 0 + s.scoreCnt 0 4 := by
  have hnodup : (scorelinesUpTo 4 ++ [(4, 0), (0, 4)]).Nodup := by decide
  have hsum := sum_scoreCnt hg hnodup
  rw [List.map_append, List.sum_append] at hsum
  have hmem : ∀ p : ℕ × ℕ, p ∈ scorelinesUpTo 4 ++ [(4, 0), (0, 4)] ↔ p.1 + p.2 ≤ 4 := by
    rintro ⟨i, j⟩
    simp only [scorelinesUpTo, List.mem_append, List.mem_filter, mem_scorelines, List.mem_cons,
      List.not_mem_nil, or_false, Prod.mk.injEq, decide_eq_true_eq]
    omega
  rw [underCnt_eq hg]
  simp only [hmem, List.map_cons, List.map_nil, List.sum_cons, List.sum_nil] at hsum
  omega

lemma four_nil_le_rest {s : SeasonSummary} (hg : GoalCounts s.data) :
    ((s.scoreCnt 4 0 + s.scoreCnt 0 4 : ℕ) : ℤ) ≤ restCnt s.numOfMatches s.scoreCnt := by
  have hnodup : [(4, 0), (0, 4)].Nodup := by decide
  have hsum := sum_scoreCnt hg hnodup
  have hle : s.data.countP (fun m => decide (scoreOf m ∈ [(4, 0), (0, 4)])) ≤
      s.data.countP (fun m => decide (4 ≤ (scoreOf m).1 ∨ 4 ≤ (scoreOf m).2)) := by
    apply List.countP_mono_left
    intro m _ hm
    simp only [List.mem_cons, List.not_mem_nil, or_false, decide_eq_true_eq, Prod.ext_iff] at hm ⊢
    omega
  simp only [List.map_cons, List.map_nil, List.sum_cons, List.sum_nil] at hsum
  rw [restCnt_eq hg]
  omega

lemma underCnt_mono (s : SeasonSummary) {k k' : ℕ} (hk : k ≤ k') :
    s.underCnt (k + 1 / 2) ≤ s.underCnt (k' + 1 / 2) := by
  have hgoal : (k : ℚ) + 1 / 2 ≤ k' + 1 / 2 := by
    have hcast : (k : ℚ) ≤ k' := Nat.cast_le.mpr hk
    linarith
  unfold underCnt
  rw [← List.countP_eq_length_filter, ← List.countP_eq_length_filter]
  apply List.countP_mono_left
  intro m _ hm
  exact Cell.lt_some_mono hgoal hm

/-! ### Partition and agreement -/

/-- The spread is the partition of the season by scoreline. -/
structure SpreadExact (s : SeasonSummary) (rows : List MarketRow) : Prop where
  labels : rows.map (·.index) = scorelines.map scoreText ++ ["4+"]
  cells : ∀ p ∈ scorelines,
    cntAt rows (scoreText p) = s.data.countP (fun m => decide (scoreOf m = p))
  rest : cntAt rows "4+" =
    s.data.countP (fun m => decide (4 ≤ (scoreOf m).1 ∨ 4 ≤ (scoreOf m).2))
  nonneg : ∀ r ∈ rows, 0 ≤ r.matchCnt
  total : (rows.map (·.matchCnt)).sum = s.numOfMatches
  percent : (rows.map (·.matchPct)).sum = .fin 100

/-- The markets count the matches on either side of their thresholds. -/
structure MarketsExact (s : SeasonSummary) (rows : List MarketRow) : Prop where
  labels : rows.map (·.index) = (List.range 5).flatMap (fun k => [underLabel k, overLabel k])
  under : ∀ k < 5, cntAt rows (underLabel k) =
    s.data.countP (fun m => decide ((scoreOf m).1 + (scoreOf m).2 ≤ k))
  complement : ∀ k < 5,
    cntAt rows (underLabel k) + cntAt rows (overLabel k) = s.numOfMatches
  under_mono : ∀ k k', k ≤ k' → k' < 5 →
    cntAt rows (underLabel k) ≤ cntAt rows (underLabel k')
  over_anti : ∀ k k', k ≤ k' → k' < 5 →
    cntAt rows (overLabel k') ≤ cntAt rows (overLabel k)

/-- The markets agree with the spread. -/
structure SpreadAgrees (s : SeasonSummary) (spread markets : List MarketRow) : Prop where
  under_le_three : ∀ k ≤ 3, cntAt markets (underLabel k) =
    ((scorelinesUpTo k).map (fun p => cntAt spread (scoreText p))).sum
  under_four : cntAt markets (underLabel 4) =
    ((scorelinesUpTo 4).map (fun p => cntAt spread (scoreText p))).sum +
      s.data.countP (fun m => decide (scoreOf m = (4, 0))) +
      s.data.countP (fun m => decide (scoreOf m = (0, 4)))
  under_four_le : cntAt markets (underLabel 4) ≤
    ((scorelinesUpTo 4).map (fun p => cntAt spread (scoreText p))).sum + cntAt spread "4+"

section Spread

variable (s : SeasonSummary)

lemma index_spreadRows :
    (spreadRows s.numOfMatches s.scoreCnt).map (·.index) = scorelines.map scoreText ++ ["4+"] := by
  unfold spreadRows
  rw [List.map_append, List.map_map]
  rfl

lemma nodup_index_spreadRows : ((spreadRows s.numOfMatches s.scoreCnt).map (·.index)).Nodup := by
  rw [index_spreadRows]
  decide +kernel

lemma cntAt_scoreText {p : ℕ × ℕ} (hp : p ∈ scorelines) :
    cntAt (spreadRows s.numOfMatches s.scoreCnt) (scoreText p) = s.scoreCnt p.1 p.2 :=
  cntAt_of_mem (nodup_index_spreadRows s) (r := scoreMarket s.numOfMatches s.scoreCnt p)
    (List.mem_append_left _ (List.mem_map_of_mem hp))

lemma cntAt_rest : cntAt (spreadRows s.numOfMatches s.scoreCnt) "4+" =
    restCnt s.numOfMatches s.scoreCnt :=
  cntAt_of_mem (nodup_index_spreadRows s) (r := restMarket s.numOfMatches s.scoreCnt)
    (List.mem_append_right _ List.mem_cons_self)

lemma sum_cntAt_scoreText (k : ℕ) :
    ((scorelinesUpTo k).map (fun p =>
        cntAt (spreadRows s.numOfMatches s.scoreCnt) (scoreText p))).sum =
      (((scorelinesUpTo k).map (fun p => s.scoreCnt p.1 p.2)).sum : ℕ) := by
  rw [Nat.cast_list_sum, List.map_map]
  congr 1
  apply List.map_congr_left
  intro p hp
  exact cntAt_scoreText s (List.mem_filter.mp hp).1

lemma sum_matchCnt_spreadRows :
    ((spreadRows s.numOfMatches s.scoreCnt).map (·.matchCnt)).sum = s.numOfMatches := by
  unfold spreadRows
  rw [List.map_append, List.sum_append, sum_matchCnt_scoreMarket, List.map_singleton,
    List.sum_singleton]
  change _ + restCnt s.numOfMatches s.scoreCnt = _
  unfold restCnt
  omega

lemma matchPct_spreadRows (hn : s.numOfMatches ≠ 0) {r : MarketRow}
    (hr : r ∈ spreadRows s.numOfMatches s.scoreCnt) :
    r.matchPct = .fin (r.matchCnt * (100 / (s.numOfMatches : ℚ))) := by
  have hn : (s.numOfMatches : ℚ) ≠ 0 := Nat.cast_ne_zero.mpr hn
  rcases List.mem_append.mp hr with hr | hr
  · obtain ⟨p, -, rfl⟩ := List.mem_map.mp hr
    change ExactFloat.fin _ = ExactFloat.fin _
    rw [div_mul_comm, mul_comm]
    rfl
  · rw [List.mem_singleton.mp hr]
    change ExactFloat.fin _ / ExactFloat.fin _ * ExactFloat.fin _ = _
    rw [ExactFloat.fin_div_fin_of_ne _ hn, ExactFloat.fin_mul_fin, div_mul_comm, mul_comm]
    rfl

lemma sum_matchPct_spreadRows (hn : s.numOfMatches ≠ 0) :
    ((spreadRows s.numOfMatches s.scoreCnt).map (·.matchPct)).sum = .fin 100 := by
  have hn' : (s.numOfMatches : ℚ) ≠ 0 := Nat.cast_ne_zero.mpr hn
  have hcast : ((spreadRows s.numOfMatches s.scoreCnt).map (fun r => (r.matchCnt : ℚ))).sum =
      (s.numOfMatches : ℚ) := by
    have htotal := congrArg (Int.cast (R := ℚ)) (sum_matchCnt_spreadRows s)
    rw [Int.cast_list_sum, List.map_map, Int.cast_natCast] at htotal
    exact htotal
  rw [List.map_congr_left (fun r hr => matchPct_spreadRows s hn hr), ExactFloat.sum_map_fin,
    List.sum_map_mul_right, hcast, mul_div_cancel₀ _ hn']

lemma spreadExact (hg : GoalCounts s.data) (hn : s.numOfMatches ≠ 0) :
    SpreadExact s (spreadRows s.numOfMatches s.scoreCnt) := by
  constructor
  · exact index_spreadRows s
  · intro p hp
    rw [cntAt_scoreText s hp, scoreCnt_eq hg]
  · rw [cntAt_rest, restCnt_eq hg]
  · intro r hr
    rcases List.mem_append.mp hr with hr | hr
    · obtain ⟨p, -, rfl⟩ := List.mem_map.mp hr
      exact Int.natCast_nonneg _
    · rw [List.mem_singleton.mp hr]
      change 0 ≤ restCnt s.numOfMatches s.scoreCnt
      rw [restCnt_eq hg]
      exact Int.natCast_nonneg _
  · exact sum_matchCnt_spreadRows s
  · exact sum_matchPct_spreadRows s hn

lemma index_marketsRows : (marketsRows s).map (·.index) =
    (List.range 5).flatMap (fun k => [underLabel k, overLabel k]) := rfl

lemma nodup_index_marketsRows : ((marketsRows s).map (·.index)).Nodup := by
  rw [index_marketsRows]
  decide +kernel

lemma cntAt_underLabel {k : ℕ} (hk : k < 5) :
    cntAt (marketsRows s) (underLabel k) = s.underCnt (k + 1 / 2) :=
  cntAt_of_mem (nodup_index_marketsRows s) (r := underMarket s k)
    (List.mem_flatMap.mpr ⟨k, List.mem_range.mpr hk, List.mem_cons_self⟩)

lemma cntAt_overLabel {k : ℕ} (hk : k < 5) :
    cntAt (marketsRows s) (overLabel k) = s.numOfMatches - s.underCnt (k + 1 / 2) :=
  cntAt_of_mem (nodup_index_marketsRows s) (r := overMarket s k)
    (List.mem_flatMap.mpr ⟨k, List.mem_range.mpr hk, List.mem_cons_of_mem _ List.mem_cons_self⟩)

lemma marketsExact (hg : GoalCounts s.data) : MarketsExact s (marketsRows s) := by
  constructor
  · exact index_marketsRows s
  · intro k hk
    rw [cntAt_underLabel s hk, underCnt_eq hg]
  · intro k hk
    rw [cntAt_underLabel s hk, cntAt_overLabel s hk]
    omega
  · intro k k' hle hk'
    have hmono := underCnt_mono s hle
    rw [cntAt_underLabel s hk', cntAt_underLabel s (hle.trans_lt hk')]
    omega
  · intro k k' hle hk'
    have hmono := underCnt_mono s hle
    rw [cntAt_overLabel s hk', cntAt_overLabel s (hle.trans_lt hk')]
    omega

lemma spreadAgrees (hg : GoalCounts s.data) :
    SpreadAgrees s (spreadRows s.numOfMatches s.scoreCnt) (marketsRows s) := by
  have hfour := underCnt_four hg
  constructor
  · intro k hk
    rw [cntAt_underLabel s (by omega), sum_cntAt_scoreText, underCnt_eq_sum hg hk]
  · have h40 := scoreCnt_eq hg (4, 0)
    have h04 := scoreCnt_eq hg (0, 4)
    rw [cntAt_underLabel s (by omega), sum_cntAt_scoreText, hfour, h40, h04]
    omega
  · have hrest := four_nil_le_rest hg
    rw [cntAt_underLabel s (by omega), sum_cntAt_scoreText, cntAt_rest, hfour]
    omega

end Spread

/-- A season with every scoreline up to 3-3, a 4-0 and a 1-5. -/
def allScores : SeasonSummary :=
  .init ((scorelines ++ [(4, 0), (1, 5)]).map
    (fun p : ℕ × ℕ => fixture "Arsenal" "Chelsea" p.1 p.2)) "20-21"

end PremierLeague.Proofs
