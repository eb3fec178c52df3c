import PremierLeague.Proofs.GoalSpread

/-!
# Scorelines and goal totals that do not occur

The fair odds of a scoreline or a goal market divide by its percentage as a Python number, which
raises when no match falls under it. Only the row computed by subtraction divides numpy
numbers and never raises.
-/

namespace PremierLeague.Proofs

open Tabular SeasonSummary

lemma pyDiv_ok_iff {x y : ℚ} : (∃ q, pyDiv x y = .ok q) ↔ y ≠ 0 := by
  unfold pyDiv
  by_cases hy : y = 0
  · simp [hy]
  · simp [hy]

lemma pyDiv_of_ne {x y : ℚ} (hy : y ≠ 0) : pyDiv x y = .ok (x / y) := if_neg hy

lemma eq_zeroDivisionError_of_pyDiv {x y : ℚ} {e : PyError} (h : pyDiv x y = .error e) :
    e = .zeroDivisionError := by
  unfold pyDiv at h
  split at h
  · exact (Except.error.inj h).symm
  · exact nomatch h

/-- A percentage is zero when nothing was counted. -/
lemma pct_eq_zero_iff {c n : ℕ} (hn : (n : ℚ) ≠ 0) : (c : ℚ) / n * 100 = 0 ↔ c = 0 := by
  rw [mul_eq_zero_iff_right (by norm_num), div_eq_zero_iff, or_iff_left hn, Nat.cast_eq_zero]

lemma pct_eq_hundred_iff {c n : ℕ} (hn : (n : ℚ) ≠ 0) :
    100 - (c : ℚ) / n * 100 = 0 ↔ c = n := by
  rw [sub_eq_zero, eq_comm, mul_eq_right₀ (by norm_num), div_eq_one_iff_eq hn, Nat.cast_inj]

section Spread

variable (n : ℕ) (cnt : ℕ → ℕ → ℕ)

lemma scoreRow_ok_iff {c : ℕ} (hle : c ≤ n) (p : ℕ × ℕ) :
    (∃ r, scoreRow n c p = .ok r) ↔ c ≠ 0 := by
  constructor
  · rintro ⟨r, h⟩
    obtain ⟨pct, hpct, h⟩ := exists_of_bind_ok h
    obtain ⟨odds, hodds, -⟩ := exists_of_bind_ok h
    have hn := pyDiv_ok_iff.mp ⟨pct, hpct⟩
    obtain rfl := eq_div_of_pyDiv_ok hpct
    exact (pct_eq_zero_iff hn).not.mp (pyDiv_ok_iff.mp ⟨odds, hodds⟩)
  · intro hne
    have hn : (n : ℚ) ≠ 0 := by
      exact_mod_cast (by omega : n ≠ 0)
    have hpct := (pct_eq_zero_iff hn).not.mpr hne
    unfold scoreRow
    rw [pyDiv_of_ne hn, ok_bind]
    dsimp only
    rw [pyDiv_of_ne hpct, ok_bind]
    exact ⟨_, rfl⟩

/-- The spread is there exactly when every scoreline up to 3-3 occurs. -/
lemma goalSpread_ok_iff (hle : ∀ i j, cnt i j ≤ n) :
    (∃ rows, goalSpread n cnt = .ok rows) ↔ ∀ p ∈ scorelines, cnt p.1 p.2 ≠ 0 := by
  simp only [← fun p : ℕ × ℕ => scoreRow_ok_iff n (hle p.1 p.2) p]
  rw [← mapM_ok_iff]
  constructor
  · rintro ⟨rows, h⟩
    obtain ⟨cells, hcells, -⟩ := exists_of_bind_ok h
    exact ⟨cells, hcells⟩
  · rintro ⟨cells, hcells⟩
    unfold goalSpread
    rw [hcells, ok_bind]
    exact ⟨_, rfl⟩

/-- A percentage of zero is the only reason for which the spread raises. -/
lemma eq_zeroDivisionError_of_goalSpread {e : PyError}
    (h : goalSpread n cnt = .error e) : e = .zeroDivisionError := by
  rcases error_of_bind_error h with h | ⟨rows, -, h⟩
  · obtain ⟨p, -, h⟩ := error_of_mapM_error h
    rcases error_of_bind_error h with h | ⟨pct, -, h⟩
    · exact eq_zeroDivisionError_of_pyDiv h
    · rcases error_of_bind_error h with h | ⟨odds, -, h⟩
      · exact eq_zeroDivisionError_of_pyDiv h
      · exact nomatch h
  · exact nomatch h

lemma goalSpread_eq_ok (hle : ∀ i j, cnt i j ≤ n) (h : ∀ p ∈ scorelines, cnt p.1 p.2 ≠ 0) :
    goalSpread n cnt = .ok (spreadRows n cnt) := by
  obtain ⟨rows, hrows⟩ := (goalSpread_ok_iff n cnt hle).mpr h
  rw [hrows, eq_of_goalSpread_ok hrows]

lemma goalSpread_eq_error (hle : ∀ i j, cnt i j ≤ n) (h : ∃ p ∈ scorelines, cnt p.1 p.2 = 0) :
    goalSpread n cnt = .error .zeroDivisionError := by
  obtain ⟨p, hp, hzero⟩ := h
  cases hspread : goalSpread n cnt with
  | ok rows => exact absurd hzero ((goalSpread_ok_iff n cnt hle).mp ⟨rows, hspread⟩ p hp)
  | error e => rw [eq_zeroDivisionError_of_goalSpread n cnt hspread]

end Spread

section Returns

variable (s : SeasonSummary)

lemma scoreCnt_le (i j : ℕ) : s.scoreCnt i j ≤ s.numOfMatches := by
  rw [s.numOfMatches_eq]
  exact List.length_filter_le _ _

lemma underCnt_le (goal : ℚ) : s.underCnt goal ≤ s.numOfMatches := by
  rw [s.numOfMatches_eq]
  exact List.length_filter_le _ _

theorem summaryGoalSpread_ok_iff :
    (∃ rows, s.summaryGoalSpread = .ok rows) ↔ ∀ p ∈ scorelines, s.scoreCnt p.1 p.2 ≠ 0 :=
  goalSpread_ok_iff s.numOfMatches s.scoreCnt (scoreCnt_le s)

lemma marketRows_ok_iff (k : ℕ) : (∃ rs, s.marketRows k = .ok rs) ↔
    s.underCnt (k + 1 / 2) ≠ 0 ∧ s.underCnt (k + 1 / 2) ≠ s.numOfMatches := by
  constructor
  · rintro ⟨rs, h⟩
    obtain ⟨pct, hpct, h⟩ := exists_of_bind_ok h
    obtain ⟨odds, hodds, h⟩ := exists_of_bind_ok h
    obtain ⟨overOdds, hover, -⟩ := exists_of_bind_ok h
    have hn := pyDiv_ok_iff.mp ⟨pct, hpct⟩
    obtain rfl := eq_div_of_pyDiv_ok hpct
    exact ⟨(pct_eq_zero_iff hn).not.mp (pyDiv_ok_iff.mp ⟨odds, hodds⟩),
      (pct_eq_hundred_iff hn).not.mp (pyDiv_ok_iff.mp ⟨overOdds, hover⟩)⟩
  · rintro ⟨hzero, hall⟩
    have hle := underCnt_le s (k + 1 / 2)
    have hn : (s.numOfMatches : ℚ) ≠ 0 := by
      exact_mod_cast (by omega : s.numOfMatches ≠ 0)
    have hpct := (pct_eq_zero_iff hn).not.mpr hzero
    have hover := (pct_eq_hundred_iff hn).not.mpr hall
    unfold marketRows
    dsimp only
    rw [pyDiv_of_ne hn, ok_bind, pyDiv_of_ne hpct, ok_bind, pyDiv_of_ne hover, ok_bind]
    exact ⟨_, rfl⟩

/-- The markets are there exactly when every threshold has matches on both sides. -/
theorem summaryGoalMarkets_ok_iff : (∃ rows, s.summaryGoalMarkets = .ok rows) ↔
    ∀ k : ℕ, k < 5 → s.underCnt (k + 1 / 2) ≠ 0 ∧ s.underCnt (k + 1 / 2) ≠ s.numOfMatches := by
  simp only [← marketRows_ok_iff, ← List.mem_range]
  rw [← mapM_ok_iff]
  constructor
  · rintro ⟨rows, h⟩
    obtain ⟨rs, hrs, -⟩ := exists_of_bind_ok h
    exact ⟨rs, hrs⟩
  · rintro ⟨rs, hrs⟩
    unfold summaryGoalMarkets
    rw [hrs, ok_bind]
    exact ⟨_, rfl⟩

lemma eq_zeroDivisionError_of_summaryGoalMarkets {e : PyError}
    (h : s.summaryGoalMarkets = .error e) : e = .zeroDivisionError := by
  rcases error_of_bind_error h with h | ⟨rows, -, h⟩
  · obtain ⟨k, -, h⟩ := error_of_mapM_error h
    rcases error_of_bind_error h with h | ⟨pct, -, h⟩
    · exact eq_zeroDivisionError_of_pyDiv h
    · rcases error_of_bind_error h with h | ⟨odds, -, h⟩
      · exact eq_zeroDivisionError_of_pyDiv h
      · rcases error_of_bind_error h with h | ⟨overOdds, -, h⟩
        · exact eq_zeroDivisionError_of_pyDiv h
        · exact nomatch h
  · exact nomatch h

end Returns

/-! ### Conditions on the matches -/

/-- Every scoreline up to 3-3 occurs. -/
def AllScorelinesOccur (data : List Match) : Prop :=
  ∀ p ∈ scorelines, ∃ m ∈ data, m.FTHG = some (p.1 : ℚ) ∧ m.FTAG = some (p.2 : ℚ)

instance (data : List Match) : Decidable (AllScorelinesOccur data) :=
  inferInstanceAs (Decidable (∀ p ∈ scorelines, _))

lemma scoreCnt_ne_zero_iff (s : SeasonSummary) (i j : ℕ) : s.scoreCnt i j ≠ 0 ↔
    ∃ m ∈ s.data, m.FTHG = some (i : ℚ) ∧ m.FTAG = some (j : ℚ) := by
  unfold scoreCnt
  rw [ne_eq, List.length_eq_zero_iff, List.filter_eq_nil_iff]
  simp only [Bool.and_eq_true, Cell.eq_some_iff]
  push Not
  rfl

/-- The total of the match is known and lies under the threshold. -/
def Under (m : Match) (goal : ℚ) : Prop := Cell.lt (Cell.add m.FTHG m.FTAG) (some goal) = true

instance (m : Match) (goal : ℚ) : Decidable (Under m goal) :=
  inferInstanceAs (Decidable (_ = true))

lemma under_iff {m : Match} (hm : m.HasScore) (goal : ℚ) :
    Under m goal ↔ m.FTHG.val + m.FTAG.val < goal := by
  obtain ⟨h, hh⟩ := Option.isSome_iff_exists.mp hm.1
  obtain ⟨a, ha⟩ := Option.isSome_iff_exists.mp hm.2
  unfold Under
  rw [hh, ha]
  simp [Cell.add, Cell.lt]

lemma underCnt_ne_zero_iff (s : SeasonSummary) (goal : ℚ) :
    s.underCnt goal ≠ 0 ↔ ∃ m ∈ s.data, Under m goal := by
  unfold underCnt
  rw [← List.countP_eq_length_filter, ← Nat.pos_iff_ne_zero, List.countP_pos_iff]
  rfl

lemma underCnt_ne_all_iff (s : SeasonSummary) (goal : ℚ) :
    s.underCnt goal ≠ s.numOfMatches ↔ ∃ m ∈ s.data, ¬ Under m goal := by
  unfold underCnt
  rw [s.numOfMatches_eq, ne_eq, List.length_filter_eq_length_iff]
  push Not
  rfl

lemma summaryGoalSpread_ok_iff_occur (s : SeasonSummary) :
    (∃ rows, s.summaryGoalSpread = .ok rows) ↔ AllScorelinesOccur s.data := by
  rw [summaryGoalSpread_ok_iff]
  simp only [scoreCnt_ne_zero_iff]
  rfl

/-- With every scoreline up to 3-3, every threshold has a match on either side: the goalless match
lies under it and a 2-3 over it. -/
lemma markets_ok_of_allScorelines {s : SeasonSummary} (hs : NoMissingScores s.data)
    (hall : AllScorelinesOccur s.data) : ∃ rows, s.summaryGoalMarkets = .ok rows := by
  rw [summaryGoalMarkets_ok_iff]
  simp only [underCnt_ne_zero_iff, underCnt_ne_all_iff]
  intro k hk
  obtain ⟨m, hm, hh, ha⟩ := hall (0, 0) (by decide)
  obtain ⟨m', hm', hh', ha'⟩ := hall (2, 3) (by decide)
  refine ⟨⟨m, hm, ?_⟩, m', hm', ?_⟩
  · have hzero : m.FTHG.val + m.FTAG.val = 0 := by
      rw [hh, ha]
      norm_num
    rw [under_iff (hs m hm), hzero]
    positivity
  · have hfive : m'.FTHG.val + m'.FTAG.val = 5 := by
      rw [hh', ha']
      norm_num
    have hk' : (k : ℚ) ≤ 4 := by exact_mod_cast (by omega : k ≤ 4)
    rw [under_iff (hs m' hm'), not_lt, hfive]
    linarith

/-- Both functions return exactly when every scoreline up to 3-3 occurs. -/
theorem spread_and_markets_ok_iff (s : SeasonSummary) (hs : NoMissingScores s.data) :
    (∃ spread markets, s.summaryGoalSpread = .ok spread ∧
      s.summaryGoalMarkets = .ok markets) ↔ AllScorelinesOccur s.data := by
  constructor
  · rintro ⟨spread, -, hspread, -⟩
    exact (summaryGoalSpread_ok_iff_occur s).mp ⟨spread, hspread⟩
  · intro hall
    obtain ⟨spread, hspread⟩ := (summaryGoalSpread_ok_iff_occur s).mpr hall
    obtain ⟨markets, hmarkets⟩ := markets_ok_of_allScorelines hs hall
    exact ⟨spread, markets, hspread, hmarkets⟩

theorem spread_and_markets_ok_iff_allScores :
    ∃ spread markets, allScores.summaryGoalSpread = .ok spread ∧
      allScores.summaryGoalMarkets = .ok markets :=
  (spread_and_markets_ok_iff allScores (by decide +kernel)).mpr (by decide +kernel)

/-- Every scoreline but 3-3, a 4-0 and a 1-5. -/
def noThreeAll : SeasonSummary :=
  .init ((scorelines.erase (3, 3) ++ [(4, 0), (1, 5)]).map
    (fun p : ℕ × ℕ => fixture "Arsenal" "Chelsea" p.1 p.2)) "20-21"

theorem spread_raises_noThreeAll :
    NoMissingScores noThreeAll.data ∧ noThreeAll.data ≠ [] ∧
      noThreeAll.summaryGoalSpread = .error .zeroDivisionError ∧
      ¬ ∃ spread markets, noThreeAll.summaryGoalSpread = .ok spread ∧
        noThreeAll.summaryGoalMarkets = .ok markets := by
  have hraise : noThreeAll.summaryGoalSpread = .error .zeroDivisionError := by decide +kernel
  refine ⟨by decide +kernel, by decide +kernel, hraise, ?_⟩
  rintro ⟨spread, markets, hspread, -⟩
  rw [hraise] at hspread
  exact nomatch hspread

end PremierLeague.Proofs
