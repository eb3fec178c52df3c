import PremierLeague.Library.Series

/-!
# Reductions of a column

The total, the rounded mean and the extreme values of a quantity over a list, each with what
makes it that reduction. The reductions of a sum of two quantities are bounded by those of the
quantities, wherever the extreme values are taken.
-/

namespace Tabular

section Extremes

variable {α M : Type*} [AddCommMonoid M] [PartialOrder M] [IsOrderedAddMonoid M] {S : Set α}
  {f g : α → M} {F G F₀ G₀ T : M}

lemma greatest_add_le (hF : IsGreatest (Set.image f S) F) (hG : IsGreatest (Set.image g S) G)
    (hT : IsGreatest (Set.image (fun a => f a + g a) S) T) : T ≤ F + G := by
  obtain ⟨a, ha, rfl⟩ := hT.1
  exact add_le_add (hF.2 ⟨a, ha, rfl⟩) (hG.2 ⟨a, ha, rfl⟩)

lemma le_least_add (hF : IsLeast (Set.image f S) F₀) (hG : IsLeast (Set.image g S) G₀)
    (hT : IsLeast (Set.image (fun a => f a + g a) S) T) : F₀ + G₀ ≤ T := by
  obtain ⟨a, ha, rfl⟩ := hT.1
  exact add_le_add (hF.2 ⟨a, ha, rfl⟩) (hG.2 ⟨a, ha, rfl⟩)

/-- Where one quantity is greatest, the other one is its least value or more. -/
lemma greatest_add_least_le (hF : IsGreatest (Set.image f S) F) (hG : IsLeast (Set.image g S) G₀)
    (hT : IsGreatest (Set.image (fun a => f a + g a) S) T) : F + G₀ ≤ T := by
  obtain ⟨a, ha, rfl⟩ := hF.1
  have hle : f a + G₀ ≤ f a + g a := add_le_add le_rfl (hG.2 ⟨a, ha, rfl⟩)
  exact hle.trans (hT.2 ⟨a, ha, rfl⟩)

lemma least_le_add_greatest (hF : IsLeast (Set.image f S) F₀)
    (hG : IsGreatest (Set.image g S) G) (hT : IsLeast (Set.image (fun a => f a + g a) S) T) :
    T ≤ F₀ + G := by
  obtain ⟨a, ha, rfl⟩ := hF.1
  have hle : f a + g a ≤ f a + G := add_le_add le_rfl (hG.2 ⟨a, ha, rfl⟩)
  exact (hT.2 ⟨a, ha, rfl⟩).trans hle

end Extremes

/-- The total, the rounded mean and the extreme values of a quantity over a list. -/
structure Reductions {α : Type*} (l : List α) (f : α → ℚ) where
  total : ℚ
  mean : ℚ
  greatest : ℚ
  least : ℚ
  total_eq : total = (l.map f).sum
  mean_eq : mean = ExactFloat.ratRound2 ((l.map f).sum / l.length)
  isGreatest : IsGreatest (Set.image f {a | a ∈ l}) greatest
  isLeast : IsLeast (Set.image f {a | a ∈ l}) least

namespace Reductions

variable {α : Type*} {l : List α} {f g : α → ℚ}

lemma least_mul_le_total (c : Reductions l f) : l.length * c.least ≤ c.total := by
  have h := List.card_nsmul_le_sum (l.map f) c.least (by
    intro x hx
    obtain ⟨a, ha, rfl⟩ := List.mem_map.mp hx
    exact c.isLeast.2 ⟨a, ha, rfl⟩)
  rwa [List.length_map, nsmul_eq_mul, ← c.total_eq] at h

lemma total_le_mul_greatest (c : Reductions l f) : c.total ≤ l.length * c.greatest := by
  have h := List.sum_le_card_nsmul (l.map f) c.greatest (by
    intro x hx
    obtain ⟨a, ha, rfl⟩ := List.mem_map.mp hx
    exact c.isGreatest.2 ⟨a, ha, rfl⟩)
  rwa [List.length_map, nsmul_eq_mul, ← c.total_eq] at h

lemma least_le_greatest (c : Reductions l f) : c.least ≤ c.greatest :=
  c.isLeast.2 c.isGreatest.1

lemma ne_nil (c : Reductions l f) : l ≠ [] := by
  obtain ⟨a, ha, -⟩ := c.isLeast.1
  exact List.ne_nil_of_mem ha

/-- The rounded mean gives the total back up to half a unit for every item. -/
lemma abs_mul_mean_sub_total_le (c : Reductions l f) :
    |l.length * c.mean - c.total| ≤ 1 / 200 * l.length := by
  have hlen : (0 : ℚ) < l.length := Nat.cast_pos.mpr (List.length_pos_iff.mpr c.ne_nil)
  have htotal : c.total = l.length * ((l.map f).sum / l.length) := by
    rw [c.total_eq, mul_div_cancel₀ _ hlen.ne']
  rw [htotal, ← mul_sub, abs_mul, abs_of_pos hlen, mul_comm, c.mean_eq]
  exact mul_le_mul_of_nonneg_right (ExactFloat.abs_ratRound2_sub_le _) hlen.le

variable (cf : Reductions l f) (cg : Reductions l g) (ct : Reductions l (fun a => f a + g a))

include cf cg ct

lemma total_add : ct.total = cf.total + cg.total := by
  rw [ct.total_eq, cf.total_eq, cg.total_eq, List.sum_map_add]

lemma abs_mean_add_sub_le : |ct.mean - (cf.mean + cg.mean)| ≤ 1 / 100 := by
  rw [ct.mean_eq, cf.mean_eq, cg.mean_eq, List.sum_map_add, add_div]
  exact ExactFloat.abs_ratRound2_add_sub_le _ _

end Reductions

/-! ### Reductions of complete columns -/

section Complete

variable {α : Type*} {l : List α} {g : α → ℚ} (hl : l ≠ [])

lemma image_mem_eq (l : List α) (g : α → ℚ) :
    Set.image g {a | a ∈ l} = {q | q ∈ l.map g} := by
  ext q
  simp

include hl

lemma exists_max : ∃ top, (l.map g).max? = some top ∧
    IsGreatest (Set.image g {a | a ∈ l}) top := by
  have hne : l.map g ≠ [] := by
    simpa using hl
  obtain ⟨top, htop⟩ := Option.ne_none_iff_exists'.mp (mt List.max?_eq_none_iff.mp hne)
  refine ⟨top, htop, ?_⟩
  rw [image_mem_eq]
  exact List.max?_eq_some_iff.mp htop

lemma exists_min : ∃ low, (l.map g).min? = some low ∧
    IsLeast (Set.image g {a | a ∈ l}) low := by
  have hne : l.map g ≠ [] := by
    simpa using hl
  obtain ⟨low, hlow⟩ := Option.ne_none_iff_exists'.mp (mt List.min?_eq_none_iff.mp hne)
  refine ⟨low, hlow, ?_⟩
  rw [image_mem_eq]
  exact List.min?_eq_some_iff.mp hlow

/-- What a column without missing values is reduced to. -/
theorem exists_reductions {f : α → Cell} (h : ∀ a ∈ l, f a = some (g a)) :
    ∃ c : Reductions l g, Series.sum (l.map f) = c.total ∧
      (Series.mean (l.map f)).round2 = .fin c.mean ∧ Series.max (l.map f) = .fin c.greatest ∧
      Series.min (l.map f) = .fin c.least := by
  have hpresent := Series.present_map h
  have hval : l.map (fun a => (f a).val) = l.map g :=
    List.map_congr_left (fun a ha => by rw [h a ha, Cell.val_some])
  have hsum : Series.sum (l.map f) = (l.map g).sum := by
    rw [Series.sum_map, hval]
  have hmean : Series.mean (l.map f) = .fin ((l.map g).sum / l.length) := by
    rw [Series.mean_map hl (fun a ha => by rw [h a ha]; rfl), hval]
  obtain ⟨top, htop, hgreatest⟩ := exists_max hl
  obtain ⟨low, hlow, hleast⟩ := exists_min hl
  have hmax : Series.max (l.map f) = .fin top := by
    rw [Series.max, hpresent, htop]
  have hmin : Series.min (l.map f) = .fin low := by
    rw [Series.min, hpresent, hlow]
  refine ⟨⟨_, _, top, low, rfl, rfl, hgreatest, hleast⟩, hsum, ?_, hmax, hmin⟩
  rw [hmean]
  rfl

end Complete

end Tabular
