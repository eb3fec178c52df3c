import Mathlib

/-!
# Floating-point numbers in exact arithmetic

`ExactFloat` keeps the special values of IEEE arithmetic, the two infinities and NaN, and
replaces the rounded finite values by rational numbers. Division by zero therefore returns
an infinity or NaN as it does in numpy, while every finite result is exact.
-/

namespace Tabular

/-- A float without rounding: a rational, an infinity (`neg` is its sign) or NaN. There is
one zero, and it counts as positive in a division. -/
inductive ExactFloat where
  | fin (q : ℚ)
  | inf (neg : Bool)
  | nan
deriving DecidableEq

namespace ExactFloat

/-- An infinity scaled by a finite factor; scaling by zero is undefined. -/
def infTimes (neg : Bool) (q : ℚ) : ExactFloat :=
  if q = 0 then nan else inf (neg != decide (q < 0))

def add : ExactFloat → ExactFloat → ExactFloat
  | fin p, fin q => fin (p + q)
  | nan, _ => nan
  | _, nan => nan
  | inf s, inf t => if s = t then inf s else nan
  | inf s, fin _ => inf s
  | fin _, inf t => inf t

def mul : ExactFloat → ExactFloat → ExactFloat
  | fin p, fin q => fin (p * q)
  | nan, _ => nan
  | _, nan => nan
  | inf s, inf t => inf (s != t)
  | inf s, fin q => infTimes s q
  | fin p, inf t => infTimes t p

def div : ExactFloat → ExactFloat → ExactFloat
  | fin p, fin q => if q = 0 then infTimes false p else fin (p / q)
  | nan, _ => nan
  | _, nan => nan
  | inf _, inf _ => nan
  | inf s, fin q => inf (s != decide (q < 0))
  | fin _, inf _ => fin 0

instance : Zero ExactFloat := ⟨fin 0⟩
instance : Add ExactFloat := ⟨add⟩
instance : Mul ExactFloat := ⟨mul⟩
instance : Div ExactFloat := ⟨div⟩

@[simp] lemma fin_add_fin (p q : ℚ) : fin p + fin q = fin (p + q) := rfl

@[simp] lemma fin_mul_fin (p q : ℚ) : fin p * fin q = fin (p * q) := rfl

lemma fin_div_fin (p q : ℚ) : fin p / fin q = if q = 0 then infTimes false p else fin (p / q) :=
  rfl

lemma fin_div_fin_of_ne {q : ℚ} (p : ℚ) (hq : q ≠ 0) : fin p / fin q = fin (p / q) := by
  rw [fin_div_fin, if_neg hq]

lemma add_comm (x y : ExactFloat) : x + y = y + x := by
  change add x y = add y x
  cases x with
  | fin p =>
    cases y with
    | fin q => simp only [add, Rat.add_comm]
    | inf t => rfl
    | nan => rfl
  | inf s =>
    cases y with
    | fin q => rfl
    | inf t =>
      by_cases h : s = t
      · simp only [add, h]
      · simp only [add, h, Ne.symm h, if_false]
    | nan => rfl
  | nan => cases y <;> rfl

lemma sum_map_fin {α : Type*} (l : List α) (f : α → ℚ) :
    (l.map (fun a => fin (f a))).sum = fin (l.map f).sum := by
  induction l with
  | nil => rfl
  | cons a l ih => rw [List.map_cons, List.sum_cons, ih, fin_add_fin, List.map_cons, List.sum_cons]

/-! ### Undefined and finite results -/

@[simp] lemma nan_add (x : ExactFloat) : nan + x = nan := by cases x <;> rfl

@[simp] lemma add_nan (x : ExactFloat) : x + nan = nan := by cases x <;> rfl

/-- One undefined summand makes a sum undefined. -/
lemma sum_eq_nan {l : List ExactFloat} (h : nan ∈ l) : l.sum = nan := by
  induction l with
  | nil => simp at h
  | cons x l ih =>
    rw [List.sum_cons]
    rcases List.mem_cons.mp h with rfl | h
    · rw [nan_add]
    · rw [ih h, add_nan]

@[simp] lemma nan_mul (x : ExactFloat) : nan * x = nan := by cases x <;> rfl

@[simp] lemma nan_div (x : ExactFloat) : nan / x = nan := by cases x <;> rfl

lemma infTimes_ne_fin (neg : Bool) (p q : ℚ) : infTimes neg p ≠ fin q := by
  unfold infTimes
  split <;> exact nofun

/-- A finite sum has finite summands. -/
lemma fin_of_add_eq_fin {x y : ExactFloat} {q : ℚ} (h : x + y = fin q) :
    (∃ a, x = fin a) ∧ ∃ b, y = fin b := by
  cases x with
  | fin a =>
    cases y with
    | fin b => exact ⟨⟨a, rfl⟩, b, rfl⟩
    | inf t => exact nomatch h
    | nan => exact nomatch h
  | inf s =>
    cases y with
    | fin b => exact nomatch h
    | inf t =>
      change (if s = t then inf s else nan) = fin q at h
      split at h
      · exact nomatch h
      · exact nomatch h
    | nan => exact nomatch h
  | nan =>
    rw [nan_add] at h
    exact nomatch h

lemma fin_of_mul_fin_eq_fin {x : ExactFloat} {p q : ℚ} (h : x * fin p = fin q) :
    ∃ a, x = fin a := by
  cases x with
  | fin a => exact ⟨a, rfl⟩
  | inf s => exact absurd h (infTimes_ne_fin s p q)
  | nan => exact nomatch h

lemma fin_of_div_fin_eq_fin {x : ExactFloat} {p q : ℚ} (h : x / fin p = fin q) :
    ∃ a, x = fin a := by
  cases x with
  | fin a => exact ⟨a, rfl⟩
  | inf s => exact nomatch h
  | nan => exact nomatch h

/-- A finite quotient of numbers has a divisor other than zero. -/
lemma ne_zero_of_div_eq_fin {a p q : ℚ} (h : fin a / fin p = fin q) : p ≠ 0 := by
  rintro rfl
  rw [fin_div_fin, if_pos rfl] at h
  exact infTimes_ne_fin false a q h

/-! ### Rounding -/

/-- Rounding to the nearest integer, ties to the even one. -/
def roundHalfEven (q : ℚ) : ℤ :=
  let f := ⌊q⌋
  if q - f < 1 / 2 then f
  else if 1 / 2 < q - f then f + 1
  else if f % 2 = 0 then f else f + 1

def ratRound2 (q : ℚ) : ℚ := roundHalfEven (q * 100) / 100

/-- Rounding to two decimals; the special values are kept. -/
def round2 : ExactFloat → ExactFloat
  | fin q => fin (ratRound2 q)
  | inf s => inf s
  | nan => nan

lemma abs_roundHalfEven_sub_le (q : ℚ) : |(roundHalfEven q : ℚ) - q| ≤ 1 / 2 := by
  have hl : (⌊q⌋ : ℚ) ≤ q := Int.floor_le q
  have hu : q < ⌊q⌋ + 1 := Int.lt_floor_add_one q
  unfold roundHalfEven
  rw [abs_le]
  dsimp only
  split_ifs with hlt hgt heven
  · constructor <;> linarith
  · push_cast
    constructor <;> linarith
  · constructor <;> linarith
  · push_cast
    constructor <;> linarith

lemma abs_ratRound2_sub_le (q : ℚ) : |ratRound2 q - q| ≤ 1 / 200 := by
  have h := abs_le.mp (abs_roundHalfEven_sub_le (q * 100))
  unfold ratRound2
  rw [abs_le]
  constructor <;> linarith [h.1, h.2]

/-- Rounding a sum differs from adding the rounded summands by one unit of the last place at
most: the three errors stay below two units, and the difference is a whole number of units. -/
theorem abs_ratRound2_add_sub_le (p q : ℚ) :
    |ratRound2 (p + q) - (ratRound2 p + ratRound2 q)| ≤ 1 / 100 := by
  have hp := abs_le.mp (abs_roundHalfEven_sub_le (p * 100))
  have hq := abs_le.mp (abs_roundHalfEven_sub_le (q * 100))
  have hpq := abs_le.mp (abs_roundHalfEven_sub_le ((p + q) * 100))
  have hint : |roundHalfEven ((p + q) * 100) -
      (roundHalfEven (p * 100) + roundHalfEven (q * 100))| ≤ 1 := by
    have hlt : |((roundHalfEven ((p + q) * 100) -
        (roundHalfEven (p * 100) + roundHalfEven (q * 100)) : ℤ) : ℚ)| < 2 := by
      push_cast
      rw [abs_lt]
      constructor <;> linarith [hp.1, hp.2, hq.1, hq.2, hpq.1, hpq.2]
    have hlt' : |roundHalfEven ((p + q) * 100) -
        (roundHalfEven (p * 100) + roundHalfEven (q * 100))| < 2 := by exact_mod_cast hlt
    omega
  have hrat : |((roundHalfEven ((p + q) * 100) -
      (roundHalfEven (p * 100) + roundHalfEven (q * 100)) : ℤ) : ℚ)| ≤ 1 := by exact_mod_cast hint
  push_cast at hrat
  have h := abs_le.mp hrat
  unfold ratRound2
  rw [abs_le]
  constructor <;> linarith [h.1, h.2]

end ExactFloat

end Tabular
