import PremierLeague.Library.ExactFloat

/-!
# Odds and the probabilities they imply

Odds imply a probability, their reciprocal. The odds of an outcome that holds in `c` of `n`
cases are fair when they imply `c / n`. Rounding fair odds to two decimals changes the implied
probability by a small part of itself, so the implied probabilities of a whole book stay as
close to one, however many outcomes it has.
-/

namespace Tabular

namespace ExactFloat

def implied (odds : ExactFloat) : ExactFloat := fin 1 / odds

/-- The odds at which an outcome is fair, from its percentage of the cases. -/
def fairOdds (c n : ℚ) : ExactFloat := fin 100 / (fin c / fin n * fin 100)

section Fair

variable {c n : ℚ}

lemma percent_eq (hn : n ≠ 0) : fin c / fin n * fin 100 = fin (c / n * 100) := by
  rw [fin_div_fin_of_ne _ hn, fin_mul_fin]

lemma fairOdds_eq_fin (hn : n ≠ 0) (hc : c ≠ 0) : fairOdds c n = fin (n / c) := by
  have hpct : c / n * 100 ≠ 0 := mul_ne_zero (div_ne_zero hc hn) (by norm_num)
  unfold fairOdds
  rw [percent_eq hn, fin_div_fin_of_ne _ hpct]
  congr 1
  field_simp

/-- Without cases the odds are infinite. -/
lemma fairOdds_zero (hn : n ≠ 0) : fairOdds 0 n = inf false := by
  unfold fairOdds
  rw [percent_eq hn, zero_div, zero_mul]
  rfl

theorem implied_fairOdds (hn : n ≠ 0) : implied (fairOdds c n) = fin (c / n) := by
  by_cases hc : c = 0
  · rw [hc, fairOdds_zero hn, zero_div]
    rfl
  · rw [fairOdds_eq_fin hn hc, implied, fin_div_fin_of_ne _ (div_ne_zero hn hc), one_div_div]

/-! ### Rounded odds -/

lemma one_le_ratRound2 {x : ℚ} (hx : 1 ≤ x) : 1 ≤ ratRound2 x := by
  have hround := (abs_le.mp (abs_roundHalfEven_sub_le (x * 100))).1
  have hlt : (99 : ℚ) < roundHalfEven (x * 100) := by linarith
  have hint : (99 : ℤ) < roundHalfEven (x * 100) := by exact_mod_cast hlt
  have hle : (100 : ℚ) ≤ roundHalfEven (x * 100) := by exact_mod_cast hint
  unfold ratRound2
  rw [le_div_iff₀ (by norm_num)]
  linarith

/-- The reciprocals of rounded odds have a relative error of half a hundredth at most. -/
lemma abs_inv_ratRound2_sub_le {x : ℚ} (hx : 1 ≤ x) :
    |(ratRound2 x)⁻¹ - x⁻¹| ≤ 1 / 200 * x⁻¹ := by
  have hround := one_le_ratRound2 hx
  have hpos : 0 < x := by linarith
  have hpos' : 0 < ratRound2 x := by linarith
  have hdiff : (ratRound2 x)⁻¹ - x⁻¹ = (x - ratRound2 x) * (ratRound2 x)⁻¹ * x⁻¹ := by
    field_simp
  have herror : |x - ratRound2 x| ≤ 1 / 200 := by
    rw [abs_sub_comm]
    exact abs_ratRound2_sub_le x
  have hinv : (ratRound2 x)⁻¹ ≤ 1 := inv_le_one_of_one_le₀ hround
  have hfactor : |x - ratRound2 x| * (ratRound2 x)⁻¹ ≤ 1 / 200 :=
    calc |x - ratRound2 x| * (ratRound2 x)⁻¹ ≤ 1 / 200 * 1 :=
          mul_le_mul herror hinv (inv_pos.mpr hpos').le (by norm_num)
      _ = 1 / 200 := mul_one _
  rw [hdiff, abs_mul, abs_mul, abs_of_pos (inv_pos.mpr hpos'), abs_of_pos (inv_pos.mpr hpos)]
  exact mul_le_mul_of_nonneg_right hfactor (inv_pos.mpr hpos).le

theorem implied_rounded (hc : 0 ≤ c) (hcn : c ≤ n) (hn : 0 < n) :
    ∃ q, implied (fairOdds c n).round2 = fin q ∧ |q - c / n| ≤ 1 / 200 * (c / n) := by
  rcases hc.eq_or_lt with rfl | hc
  · refine ⟨0, ?_, by norm_num⟩
    rw [fairOdds_zero hn.ne']
    rfl
  · have hone : 1 ≤ n / c := (one_le_div hc).mpr hcn
    have hround : ratRound2 (n / c) ≠ 0 := (zero_lt_one.trans_le (one_le_ratRound2 hone)).ne'
    refine ⟨(ratRound2 (n / c))⁻¹, ?_, ?_⟩
    · rw [fairOdds_eq_fin hn.ne' hc.ne', ← one_div]
      exact fin_div_fin_of_ne _ hround
    · have herror := abs_inv_ratRound2_sub_le hone
      rwa [inv_div] at herror

end Fair

/-- The relative error of the implied probabilities is that of their sum. -/
theorem exists_sum_implied {α : Type*} {l : List α} {odds : α → ExactFloat} {p : α → ℚ} {ε : ℚ}
    (h : ∀ a ∈ l, ∃ q, implied (odds a) = fin q ∧ |q - p a| ≤ ε * p a) :
    ∃ q, (l.map (fun a => implied (odds a))).sum = fin q ∧
      |q - (l.map p).sum| ≤ ε * (l.map p).sum := by
  induction l with
  | nil => exact ⟨0, rfl, by simp⟩
  | cons a l ih =>
    obtain ⟨q, hq, herror⟩ := h a List.mem_cons_self
    obtain ⟨t, ht, hrest⟩ := ih (fun b hb => h b (List.mem_cons_of_mem a hb))
    refine ⟨q + t, ?_, ?_⟩
    · rw [List.map_cons, List.sum_cons, hq, ht, fin_add_fin]
    · rw [List.map_cons, List.sum_cons, add_sub_add_comm, mul_add]
      exact (abs_add_le _ _).trans (add_le_add herror hrest)

end ExactFloat

end Tabular
