import Mathlib

/-!
# Pairs of numbers as text

Two natural numbers are written in decimal with a separator between them and read back by
cutting the text at the first separator. A separator that is not a digit makes the two inverse.
-/

namespace Tabular

lemma isDigit_of_mem_toString {n : ℕ} {c : Char} (hc : c ∈ (toString n).toList) :
    c.isDigit = true := by
  rw [Nat.toString_eq_repr, Nat.toList_repr] at hc
  exact Nat.isDigit_of_mem_toDigits (by decide) (by decide) hc

lemma toNat?_toString (n : ℕ) : (toString n).toNat? = some n := by
  simp

/-- The numbers before and after the first separator. -/
def readPair (sep : Char) (text : String) : Option (ℕ × ℕ) := do
  let front := text.toList.takeWhile (· != sep)
  let back := (text.toList.dropWhile (· != sep)).drop 1
  return (← (String.ofList front).toNat?, ← (String.ofList back).toNat?)

lemma cut_append {sep : Char} {front : List Char} (h : ∀ c ∈ front, c ≠ sep) (back : List Char) :
    (front ++ sep :: back).takeWhile (· != sep) = front ∧
      (front ++ sep :: back).dropWhile (· != sep) = sep :: back := by
  have hfront : ∀ c ∈ front, (c != sep) = true := by
    intro c hc
    simpa using h c hc
  constructor
  · rw [List.takeWhile_append_of_pos hfront, List.takeWhile_cons_of_neg (by simp), List.append_nil]
  · rw [List.dropWhile_append_of_pos hfront, List.dropWhile_cons_of_neg (by simp)]

theorem readPair_text {sep : Char} (hsep : sep.isDigit = false) (m n : ℕ) :
    readPair sep (toString m ++ String.singleton sep ++ toString n) = some (m, n) := by
  have hlist : (toString m ++ String.singleton sep ++ toString n).toList =
      (toString m).toList ++ sep :: (toString n).toList := by
    rw [String.toList_append, String.toList_append, String.toList_singleton, List.append_assoc]
    rfl
  have hdigit : ∀ c ∈ (toString m).toList, c ≠ sep := by
    intro c hc h
    rw [← h, isDigit_of_mem_toString hc] at hsep
    exact Bool.noConfusion hsep
  obtain ⟨htake, hdrop⟩ := cut_append hdigit (toString n).toList
  unfold readPair
  rw [hlist, htake, hdrop]
  dsimp only
  rw [List.drop_one, List.tail_cons, String.ofList_toList, String.ofList_toList,
    toNat?_toString, toNat?_toString]
  rfl

end Tabular
