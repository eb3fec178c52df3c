import Mathlib

/-!
# Cutting and filling texts

A text that is cut at a letter has pieces without the letter. Replacing a pattern in a text cuts the
text at the occurrences of the pattern, from left to right and without overlaps, and joins the
pieces with the replacement. No piece contains the pattern, and the filled text does not contain it
either when the replacement cannot take part in an occurrence.
-/

namespace Tabular

variable {α : Type*} [DecidableEq α]

/-! ### Cutting at a letter -/

lemma notMem_of_mem_splitOn {c : α} {l : List α} : ∀ p ∈ l.splitOn c, c ∉ p := by
  induction l with
  | nil => simp
  | cons a l ih =>
    rw [List.splitOn_cons_eq_if_modifyHead]
    split
    · intro p hp
      rcases List.mem_cons.mp hp with rfl | hp
      · exact List.not_mem_nil
      · exact ih p hp
    · rename_i hne
      obtain ⟨q, ps, hps⟩ := List.exists_cons_of_ne_nil (List.splitOn_ne_nil c l)
      rw [hps, List.forall_mem_cons] at ih
      rw [hps, List.modifyHead_cons, List.forall_mem_cons, List.mem_cons, not_or]
      exact ⟨⟨fun h => hne (beq_iff_eq.mpr h.symm), ih.1⟩, ih.2⟩

/-- The pieces between the occurrences of a letter. -/
theorem splitOn_eq_iff {c : α} {l : List α} {ps : List (List α)} :
    l.splitOn c = ps ↔ ps ≠ [] ∧ (∀ p ∈ ps, c ∉ p) ∧ [c].intercalate ps = l := by
  constructor
  · rintro rfl
    exact ⟨List.splitOn_ne_nil c l, notMem_of_mem_splitOn, List.intercalate_splitOn c⟩
  · rintro ⟨hps, hc, rfl⟩
    exact List.splitOn_intercalate c hc hps

lemma splitOn_eq_pair_iff {c : α} {l p q : List α} :
    l.splitOn c = [p, q] ↔ c ∉ p ∧ c ∉ q ∧ l = p ++ c :: q := by
  rw [splitOn_eq_iff, List.forall_mem_cons, List.forall_mem_singleton]
  simp only [List.intercalate_cons_cons, List.intercalate_singleton, List.append_assoc]
  constructor
  · rintro ⟨-, ⟨hp, hq⟩, rfl⟩
    exact ⟨hp, hq, rfl⟩
  · rintro ⟨hp, hq, rfl⟩
    exact ⟨List.cons_ne_nil _ _, ⟨hp, hq⟩, rfl⟩

lemma length_splitOn (c : α) (l : List α) : (l.splitOn c).length = l.count c + 1 := by
  induction l with
  | nil => rfl
  | cons a l ih =>
    rw [List.splitOn_cons_eq_if_modifyHead, List.count_cons]
    split
    · rw [List.length_cons, ih]
    · rw [List.length_modifyHead, ih, Nat.add_zero]

/-! ### Replacing a pattern -/

/-- The pieces of a text between the occurrences of a pattern, when the first letters of the text,
as many as given, still belong to an occurrence. -/
def pieces (old : List α) : ℕ → List α → List (List α)
  | _, [] => [[]]
  | k + 1, _ :: l => pieces old k l
  | 0, a :: l =>
    if old <+: a :: l then [] :: pieces old (old.length - 1) l
    else (pieces old 0 l).modifyHead (a :: ·)

/-- `text.replace(old, new)` for a pattern that is not empty. -/
def replace (text old new : String) : String :=
  String.ofList (new.toList.intercalate (pieces old.toList 0 text.toList))

example : replace "a {{T}} b {{T}}" "{{T}}" "sh:1" = "a sh:1 b sh:1" := by decide

lemma pieces_ne_nil (old : List α) (k : ℕ) (l : List α) : pieces old k l ≠ [] := by
  induction l generalizing k with
  | nil => simp [pieces]
  | cons a l ih =>
    cases k with
    | zero =>
      unfold pieces
      split
      · simp
      · simpa using ih 0
    | succ k => exact ih k

/-- The pieces joined with the pattern are the text. -/
theorem intercalate_pieces {old : List α} (hold : old ≠ []) (k : ℕ) (l : List α) :
    old.intercalate (pieces old k l) = l.drop k := by
  induction l generalizing k with
  | nil => simp [pieces]
  | cons a l ih =>
    cases k with
    | succ k => exact ih k
    | zero =>
      unfold pieces
      split
      · rename_i hprefix
        obtain ⟨rest, hrest⟩ := hprefix
        have hdrop : l.drop (old.length - 1) = rest := by
          obtain ⟨b, old, rfl⟩ := List.exists_cons_of_ne_nil hold
          rw [List.cons_append, List.cons.injEq] at hrest
          rw [← hrest.2]
          simp
        rw [List.intercalate_cons_of_ne_nil (pieces_ne_nil old _ l), ih, hdrop, List.nil_append,
          hrest, List.drop_zero]
      · obtain ⟨p, ps, hps⟩ := List.exists_cons_of_ne_nil (pieces_ne_nil old 0 l)
        have hl := ih 0
        rw [hps, List.drop_zero] at hl
        rw [hps, List.modifyHead_cons, List.intercalate_cons_cons_left, hl, List.drop_zero]

/-- No piece contains the pattern. -/
theorem not_infix_of_mem_pieces {old : List α} (hold : old ≠ []) (k : ℕ) (l : List α) :
    ∀ p ∈ pieces old k l, ¬ old <:+: p := by
  induction l generalizing k with
  | nil =>
    intro p hp
    rw [pieces, List.mem_singleton] at hp
    rw [hp, List.infix_nil]
    exact hold
  | cons a l ih =>
    cases k with
    | succ k => exact ih k
    | zero =>
      unfold pieces
      split
      · intro p hp
        rcases List.mem_cons.mp hp with rfl | hp
        · rw [List.infix_nil]
          exact hold
        · exact ih _ p hp
      · rename_i hprefix
        obtain ⟨q, ps, hps⟩ := List.exists_cons_of_ne_nil (pieces_ne_nil old 0 l)
        have hq : q <+: l := by
          have hl := intercalate_pieces hold 0 l
          rw [hps, List.drop_zero] at hl
          cases ps with
          | nil => rw [← hl, List.intercalate_singleton]
          | cons q' ps =>
            rw [← hl, List.intercalate_cons_cons, List.append_assoc]
            exact List.prefix_append q _
        intro p hp
        rw [hps, List.modifyHead_cons] at hp
        rcases List.mem_cons.mp hp with rfl | hp
        · rw [List.infix_cons_iff]
          rintro (h | h)
          · exact hprefix (h.trans ((List.prefix_cons_inj a).mpr hq))
          · exact ih 0 q (by rw [hps]; exact List.mem_cons_self) h
        · exact ih 0 p (by rw [hps]; exact List.mem_cons_of_mem q hp)

/-! ### Occurrences in a filled text -/

omit [DecidableEq α] in
lemma prefix_of_notMem {old l l' : List α} {c : α} (hc : c ∉ old) (h : old <+: l ++ c :: l') :
    old <+: l := by
  induction l generalizing old with
  | nil =>
    rcases List.prefix_cons_iff.mp h with rfl | ⟨t, rfl, -⟩
    · exact List.prefix_rfl
    · exact absurd List.mem_cons_self hc
  | cons a l ih =>
    rcases List.prefix_cons_iff.mp h with rfl | ⟨t, rfl, ht⟩
    · exact List.nil_prefix
    · exact (List.prefix_cons_inj a).mpr (ih (fun h => hc (List.mem_cons_of_mem a h)) ht)

omit [DecidableEq α] in
/-- An occurrence lies on one side of a letter that the pattern does not have. -/
lemma infix_or_infix_of_notMem {old l l' : List α} {c : α} (hc : c ∉ old)
    (h : old <:+: l ++ c :: l') : old <:+: l ∨ old <:+: l' := by
  induction l with
  | nil =>
    rcases List.infix_cons_iff.mp h with h | h
    · exact Or.inl (prefix_of_notMem hc h).isInfix
    · exact Or.inr h
  | cons a l ih =>
    rcases List.infix_cons_iff.mp h with h | h
    · exact Or.inl (prefix_of_notMem hc h).isInfix
    · exact (ih h).imp_left (fun h => h.trans (List.suffix_cons a l).isInfix)

omit [DecidableEq α] in
/-- An occurrence does not reach into a text without the last letter of the pattern. -/
lemma infix_of_infix_append_left {old l l' : List α} (hold : old ≠ [])
    (hlast : ∀ x ∈ l', old.getLast? ≠ some x) (h : old <:+: l ++ l') : old <:+: l := by
  induction l' using List.reverseRecOn with
  | nil => rwa [List.append_nil] at h
  | append_singleton l' x ih =>
    rw [← List.append_assoc, List.infix_concat_iff] at h
    rcases h with h | h
    · rcases List.suffix_concat_iff.mp h with rfl | ⟨t, rfl, -⟩
      · exact absurd rfl hold
      · exact absurd List.getLast?_concat (hlast x (List.mem_append_right l' List.mem_cons_self))
    · exact ih (fun y hy => hlast y (List.mem_append_left [x] hy)) h

omit [DecidableEq α] in
/-- An occurrence does not start in a text without the first letter of the pattern. -/
lemma infix_of_infix_append_right {old l l' : List α} (hold : old ≠ [])
    (hfirst : ∀ x ∈ l, old.head? ≠ some x) (h : old <:+: l ++ l') : old <:+: l' := by
  induction l with
  | nil => exact h
  | cons x l ih =>
    rcases List.infix_cons_iff.mp h with h | h
    · rcases List.prefix_cons_iff.mp h with rfl | ⟨t, rfl, -⟩
      · exact absurd rfl hold
      · exact absurd rfl (hfirst x List.mem_cons_self)
    · exact ih (fun y hy => hfirst y (List.mem_cons_of_mem x hy)) h

omit [DecidableEq α] in
/-- Pieces without the pattern, joined with a text that cannot take part in an occurrence, have no
occurrence. -/
theorem not_infix_intercalate {old front back : List α} {c : α} (hold : old ≠ []) (hc : c ∉ old)
    (hlast : ∀ x ∈ front, old.getLast? ≠ some x) (hfirst : ∀ x ∈ back, old.head? ≠ some x)
    {ps : List (List α)} (hps : ∀ p ∈ ps, ¬ old <:+: p) :
    ¬ old <:+: (front ++ c :: back).intercalate ps := by
  induction ps with
  | nil =>
    rw [List.intercalate_nil, List.infix_nil]
    exact hold
  | cons p ps ih =>
    have ih := ih (fun q hq => hps q (List.mem_cons_of_mem p hq))
    cases ps with
    | nil =>
      rw [List.intercalate_singleton]
      exact hps p List.mem_cons_self
    | cons q ps =>
      intro h
      rw [List.intercalate_cons_cons] at h
      have hsplit : old <:+:
          (p ++ front) ++ c :: (back ++ (front ++ c :: back).intercalate (q :: ps)) := by
        simpa using h
      rcases infix_or_infix_of_notMem hc hsplit with h | h
      · exact hps p List.mem_cons_self (infix_of_infix_append_left hold hlast h)
      · exact ih (infix_of_infix_append_right hold hfirst h)

end Tabular
