import Mathlib

/-!
# Ledgers

A ledger keeps an amount for every account. An event posts an amount to each account, and the ledger
is brought up to date event by event. After a run an account holds what it held before and the sum
of what the events of the run have posted to it. The total of some accounts is bounded by the number
of events that touch them, and in a falling column an entry is bounded by the totals of the entries
up to it and from it on.
-/

namespace Tabular

namespace Ledger

variable {ε κ M : Type*}

section Run

variable [AddCommMonoid M] (post : ε → κ → M)

/-- The ledger after one more event. -/
def book (l : κ → M) (e : ε) : κ → M := fun k => l k + post e k

/-- The ledger after a run of events. -/
def run (l : κ → M) (es : List ε) : κ → M := es.foldl (book post) l

@[simp] lemma run_nil (l : κ → M) : run post l [] = l := rfl

@[simp] lemma run_cons (l : κ → M) (e : ε) (es : List ε) :
    run post l (e :: es) = run post (book post l e) es := rfl

/-- A run goes on where the previous one has stopped. -/
lemma run_append (l : κ → M) (es fs : List ε) :
    run post l (es ++ fs) = run post (run post l es) fs :=
  List.foldl_append

theorem run_apply (l : κ → M) (es : List ε) (k : κ) :
    run post l es k = l k + (es.map (fun e => post e k)).sum := by
  induction es generalizing l with
  | nil => simp
  | cons e es ih => rw [run_cons, ih, List.map_cons, List.sum_cons, book, add_assoc]

variable {post}

/-- An account to which nothing is posted stays as it is. -/
lemma run_of_untouched {es : List ε} {k : κ} (h : ∀ e ∈ es, post e k = 0) (l : κ → M) :
    run post l es k = l k := by
  rw [run_apply]
  have hzero : (es.map (fun e => post e k)).sum = 0 := by
    apply List.sum_eq_zero
    simpa using h
  rw [hzero, add_zero]

/-- The total of some accounts after a run. -/
theorem sum_run (S : Finset κ) (l : κ → M) (es : List ε) :
    ∑ k ∈ S, run post l es k =
      ∑ k ∈ S, l k + (es.map (fun e => ∑ k ∈ S, post e k)).sum := by
  simp only [run_apply, Finset.sum_add_distrib]
  congr 1
  induction es with
  | nil => simp
  | cons e es ih => simp only [List.map_cons, List.sum_cons, Finset.sum_add_distrib, ih]

/-- One column of a ledger is the ledger of the columns posted. -/
theorem map_run {N : Type*} [AddCommMonoid N] (f : M →+ N) (l : κ → M) (es : List ε) (k : κ) :
    f (run post l es k) = run (fun e k => f (post e k)) (fun k => f (l k)) es k := by
  rw [run_apply, run_apply, map_add, map_list_sum, List.map_map]
  rfl

end Run

section Bounds

variable [AddCommMonoid M] [PartialOrder M] [IsOrderedAddMonoid M] {post : ε → κ → M}
  {es : List ε} {k : κ}

/-- An account that is never charged does not fall. -/
theorem le_run (h : ∀ e ∈ es, 0 ≤ post e k) (l : κ → M) : l k ≤ run post l es k := by
  rw [run_apply]
  apply le_add_of_nonneg_right
  apply List.sum_nonneg
  simpa using h

/-- An account rises by no more than the events allow. -/
theorem run_le {cap : ε → M} (h : ∀ e ∈ es, post e k ≤ cap e) (l : κ → M) :
    run post l es k ≤ l k + (es.map cap).sum := by
  rw [run_apply]
  apply add_le_add_right
  exact List.sum_le_sum h

end Bounds

end Ledger

/-! ### Totals by counting -/

section Counting

variable {α : Type*} {l : List α} {p : α → Bool} {f : α → ℕ} {c : ℕ}

lemma mul_countP_le_sum (h : ∀ a ∈ l, p a → c ≤ f a) : c * l.countP p ≤ (l.map f).sum := by
  induction l with
  | nil => simp
  | cons a l ih =>
    have ih := ih (fun b hb => h b (List.mem_cons_of_mem a hb))
    rw [List.countP_cons, List.map_cons, List.sum_cons, Nat.mul_add]
    have ha := h a List.mem_cons_self
    split
    · have := ha ‹_›
      omega
    · omega

lemma sum_le_mul_countP (h : ∀ a ∈ l, f a ≤ if p a then c else 0) :
    (l.map f).sum ≤ c * l.countP p := by
  induction l with
  | nil => simp
  | cons a l ih =>
    have ih := ih (fun b hb => h b (List.mem_cons_of_mem a hb))
    have ha := h a List.mem_cons_self
    rw [List.countP_cons, List.map_cons, List.sum_cons, Nat.mul_add]
    split at ha
    · rw [if_pos ‹_›]
      omega
    · rw [if_neg ‹_›]
      omega

end Counting

/-! ### Falling columns -/

section Falling

variable {l : List ℕ} (h : l.Pairwise (fun a b => b ≤ a)) {i : ℕ} (hi : i < l.length)

include h

lemma getElem_le_getElem {j : ℕ} (hij : i ≤ j) (hj : j < l.length) : l[j] ≤ l[i] := by
  rcases hij.lt_or_eq with hlt | rfl
  · exact List.pairwise_iff_getElem.mp h i j _ hj hlt
  · exact le_rfl

lemma mul_getElem_le_sum_take : (i + 1) * l[i] ≤ (l.take (i + 1)).sum := by
  have hle : ∀ x ∈ l.take (i + 1), l[i] ≤ x := by
    intro x hx
    obtain ⟨j, hj, rfl⟩ := List.getElem_of_mem hx
    have hj' := hj
    rw [List.length_take] at hj'
    rw [List.getElem_take]
    exact getElem_le_getElem h (by omega) (by omega) hi
  have hsum := List.card_nsmul_le_sum (l.take (i + 1)) l[i] hle
  rwa [List.length_take, min_eq_left (by omega), smul_eq_mul] at hsum

lemma sum_drop_le_mul_getElem : (l.drop i).sum ≤ (l.length - i) * l[i] := by
  have hle : ∀ x ∈ l.drop i, x ≤ l[i] := by
    intro x hx
    obtain ⟨j, hj, rfl⟩ := List.getElem_of_mem hx
    have hj' := hj
    rw [List.length_drop] at hj'
    rw [List.getElem_drop]
    exact getElem_le_getElem h hi (by omega) (by omega)
  have hsum := List.sum_le_card_nsmul (l.drop i) l[i] hle
  rwa [List.length_drop, smul_eq_mul] at hsum

end Falling

end Tabular
