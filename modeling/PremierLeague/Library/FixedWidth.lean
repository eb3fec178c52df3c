import Mathlib

/-!
# Integers of fixed width

A signed integer of `w` bits holds a number modulo `2 ^ w`. It holds the number itself exactly when
the number fits, and since only the residue counts, it does not matter at which steps of a sum or a
product the width is cut off. Adding two held numbers is exact exactly when their sum fits.
-/

namespace Tabular

/-- The signed integer of `w` bits that holds a number. -/
def wrap (w : ℕ) (x : ℤ) : ℤ := x.bmod (2 ^ w)

/-- The number is a signed integer of `w` bits: `-2 ^ (w - 1) ≤ x < 2 ^ (w - 1)`. -/
def Fits (w : ℕ) (x : ℤ) : Prop := -2 ^ w ≤ 2 * x ∧ 2 * x < 2 ^ w

instance (w : ℕ) (x : ℤ) : Decidable (Fits w x) := inferInstanceAs (Decidable (_ ∧ _))

variable {w : ℕ} {x y : ℤ}

lemma fits_wrap (w : ℕ) (x : ℤ) : Fits w (wrap w x) := by
  have hpos : 0 < 2 ^ w := Nat.two_pow_pos w
  have hcast : ((2 ^ w : ℕ) : ℤ) = 2 ^ w := by push_cast; rfl
  have hle := Int.le_bmod (x := x) hpos
  have hlt := Int.bmod_lt (x := x) hpos
  unfold Fits wrap
  constructor
  · omega
  · omega

lemma wrap_of_fits (h : Fits w x) : wrap w x = x := by
  apply Int.bmod_eq_of_le_mul_two
  · push_cast
    linarith [h.1]
  · push_cast
    linarith [h.2]

lemma wrap_eq_self_iff : wrap w x = x ↔ Fits w x := by
  constructor
  · intro h
    rw [← h]
    exact fits_wrap w x
  · exact wrap_of_fits

lemma wrap_add_wrap : wrap w (wrap w x + wrap w y) = wrap w (x + y) := by
  unfold wrap
  rw [Int.bmod_add_bmod, Int.add_bmod_bmod]

lemma wrap_wrap_mul (c : ℤ) : wrap w (wrap w x * c) = wrap w (x * c) := Int.bmod_mul_bmod

/-- The held sum is the sum of the held numbers exactly when this fits. -/
theorem wrap_add_eq_iff :
    wrap w (x + y) = wrap w x + wrap w y ↔ Fits w (wrap w x + wrap w y) := by
  rw [← wrap_add_wrap, wrap_eq_self_iff]

end Tabular
