import Mathlib

/-!
# Pooling two groups

Two groups have totals and sizes. The mean over both groups lies between the means of the
groups. Averaging two ratios by the sizes of the groups gives the ratio of the pooled totals
only when the ratios agree, or when the denominators are to the sizes as each other.
-/

namespace Tabular

section Ratio

variable {K : Type*} [Field K] {s t g h n k : K}

/-- The difference between the ratio of the totals and the average ratio factors. -/
lemma pooled_sub_weighted (hg : g ≠ 0) (hh : h ≠ 0) :
    (s + t) * (n + k) - (s / g * n + t / h * k) * (g + h) =
      (s / g - t / h) * (g * k - h * n) := by
  field_simp
  ring

/-- The average of two ratios, weighted by the sizes, against the ratio of the totals. -/
theorem weighted_ratio_eq_pooled_iff (hg : g ≠ 0) (hh : h ≠ 0) (hgh : g + h ≠ 0)
    (hnk : n + k ≠ 0) :
    (s / g * n + t / h * k) / (n + k) = (s + t) / (g + h) ↔ s * h = t * g ∨ g * k = h * n := by
  rw [div_eq_div_iff hnk hgh, eq_comm, ← sub_eq_zero, pooled_sub_weighted hg hh, mul_eq_zero,
    sub_eq_zero, sub_eq_zero, div_eq_div_iff hg hh]

end Ratio

section Mean

variable {K : Type*} [Field K] [LinearOrder K] [IsStrictOrderedRing K] {p q n k : K}

lemma pooled_mean_le_max (hn : 0 < n) (hk : 0 < k) :
    (p + q) / (n + k) ≤ max (p / n) (q / k) := by
  have hp : p ≤ max (p / n) (q / k) * n := (div_le_iff₀ hn).mp (le_max_left _ _)
  have hq : q ≤ max (p / n) (q / k) * k := (div_le_iff₀ hk).mp (le_max_right _ _)
  rw [div_le_iff₀ (add_pos hn hk), mul_add]
  exact add_le_add hp hq

lemma min_le_pooled_mean (hn : 0 < n) (hk : 0 < k) :
    min (p / n) (q / k) ≤ (p + q) / (n + k) := by
  have hp : min (p / n) (q / k) * n ≤ p := (le_div_iff₀ hn).mp (min_le_left _ _)
  have hq : min (p / n) (q / k) * k ≤ q := (le_div_iff₀ hk).mp (min_le_right _ _)
  rw [le_div_iff₀ (add_pos hn hk), mul_add]
  exact add_le_add hp hq

end Mean

end Tabular
