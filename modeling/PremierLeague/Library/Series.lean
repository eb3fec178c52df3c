import PremierLeague.Library.ExactFloat

/-!
# Columns with missing values

A numeric column is a list of cells, each a rational number or missing. The reductions skip
missing cells and the comparisons of a missing cell are false, as pandas has them. Every
reduction depends on the cells only, not on their order.
-/

namespace Tabular

/-- A cell of a numeric column; `none` is a missing value. -/
abbrev Cell := Option ℚ

namespace Cell

/-- `a < b`, false when a side is missing. -/
def lt : Cell → Cell → Bool
  | some x, some y => decide (x < y)
  | _, _ => false

def eq : Cell → Cell → Bool
  | some x, some y => decide (x = y)
  | _, _ => false

def add : Cell → Cell → Cell
  | some x, some y => some (x + y)
  | _, _ => none

/-- What a cell contributes to the sum of its column. -/
def val (c : Cell) : ℚ := c.getD 0

@[simp] lemma val_some (q : ℚ) : val (some q) = q := rfl

/-- A count: a natural number that is not missing. -/
def IsCount (c : Cell) : Prop := ∃ n : ℕ, c = some (n : ℚ)

instance (c : Cell) : Decidable (IsCount c) :=
  match c with
  | none => isFalse (fun ⟨_, h⟩ => nomatch h)
  | some q => decidable_of_iff (q = (q.num.toNat : ℚ))
      ⟨fun h => ⟨q.num.toNat, congrArg some h⟩, fun ⟨n, h⟩ => by
        obtain rfl := Option.some.inj h
        simp⟩

lemma IsCount.isSome {c : Cell} (h : c.IsCount) : c.isSome := by
  obtain ⟨n, rfl⟩ := h
  rfl

lemma eq_some_val {c : Cell} (h : c.isSome) : c = some c.val := by
  obtain ⟨q, rfl⟩ := Option.isSome_iff_exists.mp h
  rfl

lemma eq_comm (a b : Cell) : eq a b = eq b a := by
  cases a with
  | none => cases b <;> rfl
  | some x =>
    cases b with
    | none => rfl
    | some y =>
      simp only [eq, decide_eq_decide]
      exact ⟨Eq.symm, Eq.symm⟩

lemma eq_some_iff {a : Cell} {q : ℚ} : eq a (some q) = true ↔ a = some q := by
  cases a with
  | none => simp [eq]
  | some x => simp [eq]

lemma lt_some_mono {a : Cell} {p q : ℚ} (h : p ≤ q) (ha : lt a (some p) = true) :
    lt a (some q) = true := by
  cases a with
  | none => exact ha
  | some x => exact decide_eq_true ((of_decide_eq_true ha).trans_le h)

lemma add_comm (a b : Cell) : add a b = add b a := by
  cases a with
  | none => cases b <;> rfl
  | some x =>
    cases b with
    | none => rfl
    | some y => exact congrArg some (Rat.add_comm x y)

lemma val_add {a b : Cell} (ha : a.isSome) (hb : b.isSome) : (add a b).val = a.val + b.val := by
  obtain ⟨x, rfl⟩ := Option.isSome_iff_exists.mp ha
  obtain ⟨y, rfl⟩ := Option.isSome_iff_exists.mp hb
  rfl

end Cell

namespace Series

def present (c : List Cell) : List ℚ := c.reduceOption

def sum (c : List Cell) : ℚ := (present c).sum

/-- The mean of the present values: NaN when there is none. -/
def mean (c : List Cell) : ExactFloat := .fin (sum c) / .fin ((present c).length : ℚ)

/-- The largest present value, NaN when there is none. -/
def max (c : List Cell) : ExactFloat :=
  match (present c).max? with
  | some q => .fin q
  | none => .nan

def min (c : List Cell) : ExactFloat :=
  match (present c).min? with
  | some q => .fin q
  | none => .nan

lemma sum_eq_sum_val (c : List Cell) : sum c = (c.map Cell.val).sum := by
  induction c with
  | nil => rfl
  | cons a c ih =>
    unfold sum present at *
    cases a with
    | none =>
      rw [List.reduceOption_cons_of_none, ih, List.map_cons, List.sum_cons]
      simp [Cell.val]
    | some q =>
      rw [List.reduceOption_cons_of_some, List.sum_cons, ih, List.map_cons, List.sum_cons,
        Cell.val_some]

lemma sum_map {α : Type*} (f : α → Cell) (l : List α) :
    sum (l.map f) = (l.map (fun a => (f a).val)).sum := by
  rw [sum_eq_sum_val, List.map_map]
  rfl

lemma sum_append (c d : List Cell) : sum (c ++ d) = sum c + sum d := by
  rw [sum_eq_sum_val, sum_eq_sum_val, sum_eq_sum_val, List.map_append, List.sum_append]

lemma sum_map_add {α : Type*} {f g : α → Cell} {l : List α} (hf : ∀ a ∈ l, (f a).isSome)
    (hg : ∀ a ∈ l, (g a).isSome) :
    sum (l.map (fun a => Cell.add (f a) (g a))) = sum (l.map f) + sum (l.map g) := by
  rw [sum_map, sum_map, sum_map, ← List.sum_map_add]
  congr 1
  apply List.map_congr_left
  intro a ha
  exact Cell.val_add (hf a ha) (hg a ha)

lemma present_length {c : List Cell} (h : ∀ x ∈ c, x.isSome) : (present c).length = c.length := by
  unfold present
  rw [List.reduceOption_length_eq_iff]
  exact h

lemma present_map {α : Type*} {f : α → Cell} {g : α → ℚ} {l : List α}
    (h : ∀ a ∈ l, f a = some (g a)) : present (l.map f) = l.map g := by
  have hmap : l.map f = (l.map g).map some := by
    rw [List.map_map]
    exact List.map_congr_left h
  rw [hmap, present, List.reduceOption, List.filterMap_map]
  exact List.filterMap_some

lemma mean_map {α : Type*} {f : α → Cell} {l : List α} (hl : l ≠ [])
    (h : ∀ a ∈ l, (f a).isSome) :
    mean (l.map f) = .fin ((l.map (fun a => (f a).val)).sum / l.length) := by
  have hlen : (present (l.map f)).length = l.length := by
    rw [present_length, List.length_map]
    intro x hx
    obtain ⟨a, ha, rfl⟩ := List.mem_map.mp hx
    exact h a ha
  have hne : (l.length : ℚ) ≠ 0 := by
    simpa using hl
  unfold mean
  rw [hlen, ExactFloat.fin_div_fin_of_ne _ hne, sum_map]

@[simp] lemma mean_nil : mean [] = .nan := by
  simp [mean, present, sum, ExactFloat.fin_div_fin, ExactFloat.infTimes]

lemma present_perm {c d : List Cell} (h : c.Perm d) : (present c).Perm (present d) :=
  h.filterMap id

lemma sum_perm {c d : List Cell} (h : c.Perm d) : sum c = sum d :=
  (present_perm h).sum_eq

lemma mean_perm {c d : List Cell} (h : c.Perm d) : mean c = mean d := by
  unfold mean
  rw [sum_perm h, (present_perm h).length_eq]

lemma max?_perm {l l' : List ℚ} (h : l.Perm l') : l.max? = l'.max? := by
  cases hl : l.max? with
  | none =>
    rw [List.max?_eq_none_iff] at hl
    subst hl
    rw [← h.nil_eq]
    rfl
  | some q =>
    obtain ⟨hq, hle⟩ := List.max?_eq_some_iff.mp hl
    exact (List.max?_eq_some_iff.mpr
      ⟨h.mem_iff.mp hq, fun b hb => hle b (h.mem_iff.mpr hb)⟩).symm

lemma min?_perm {l l' : List ℚ} (h : l.Perm l') : l.min? = l'.min? := by
  cases hl : l.min? with
  | none =>
    rw [List.min?_eq_none_iff] at hl
    subst hl
    rw [← h.nil_eq]
    rfl
  | some q =>
    obtain ⟨hq, hle⟩ := List.min?_eq_some_iff.mp hl
    exact (List.min?_eq_some_iff.mpr
      ⟨h.mem_iff.mp hq, fun b hb => hle b (h.mem_iff.mpr hb)⟩).symm

lemma max_perm {c d : List Cell} (h : c.Perm d) : max c = max d := by
  unfold max
  rw [max?_perm (present_perm h)]

lemma min_perm {c d : List Cell} (h : c.Perm d) : min c = min d := by
  unfold min
  rw [min?_perm (present_perm h)]

/-- The distinct values of a column in the order of their first occurrence. -/
def unique {α : Type*} [DecidableEq α] (l : List α) : List α := l.reverse.dedup.reverse

@[simp] lemma mem_unique {α : Type*} [DecidableEq α] {l : List α} {a : α} :
    a ∈ unique l ↔ a ∈ l := by
  simp [unique]

lemma nodup_unique {α : Type*} [DecidableEq α] (l : List α) : (unique l).Nodup := by
  rw [unique, List.nodup_reverse]
  exact List.nodup_dedup _

lemma unique_of_nodup {α : Type*} [DecidableEq α] {l : List α} (h : l.Nodup) : unique l = l := by
  unfold unique
  rw [List.Nodup.dedup (List.nodup_reverse.mpr h), List.reverse_reverse]

lemma unique_sublist {α : Type*} [DecidableEq α] (l : List α) : (unique l).Sublist l := by
  unfold unique
  rw [← List.reverse_sublist, List.reverse_reverse]
  exact List.dedup_sublist _

lemma length_unique_le {α : Type*} [DecidableEq α] (l : List α) : (unique l).length ≤ l.length :=
  (unique_sublist l).length_le

lemma length_unique_eq_iff {α : Type*} [DecidableEq α] {l : List α} :
    (unique l).length = l.length ↔ l.Nodup := by
  constructor
  · intro h
    rw [← (unique_sublist l).eq_of_length h]
    exact nodup_unique l
  · intro h
    rw [unique_of_nodup h]

lemma unique_append_of_subset {α : Type*} [DecidableEq α] {l l' : List α} (h : l' ⊆ l) :
    unique (l ++ l') = unique l := by
  have hsub : l'.reverse ⊆ l.reverse.dedup := by
    intro a ha
    rw [List.mem_dedup, List.mem_reverse]
    exact h (List.mem_reverse.mp ha)
  unfold unique
  rw [List.reverse_append, List.dedup_append, List.Subset.union_eq_right hsub]

lemma unique_append_congr {α : Type*} [DecidableEq α] {l l' : List α} (h : unique l = unique l')
    (k : List α) : unique (l ++ k) = unique (l' ++ k) := by
  have hdedup : l.reverse.dedup = l'.reverse.dedup := List.reverse_injective h
  unfold unique
  rw [List.reverse_append, List.dedup_append, hdedup, ← List.dedup_append, ← List.reverse_append]

/-- Runs of equal values are as distinct as the values of the runs that are not empty. -/
lemma unique_flatMap_runs {α β : Type*} [DecidableEq α] (tag : β → α) (run : β → List α)
    {l : List β} (h : ∀ b ∈ l, ∀ a ∈ run b, a = tag b) :
    unique (l.flatMap run) = unique ((l.filter (fun b => !(run b).isEmpty)).map tag) := by
  induction l using List.reverseRecOn with
  | nil => rfl
  | append_singleton l b ih =>
    have ih := ih (fun c hc => h c (List.mem_append_left [b] hc))
    have hconst := h b (List.mem_append_right l List.mem_cons_self)
    rw [List.flatMap_append, List.flatMap_singleton, unique_append_congr ih, List.filter_append,
      List.map_append]
    cases hrun : run b with
    | nil => simp [hrun]
    | cons a as =>
      have hsub : as ⊆ (l.filter (fun b => !(run b).isEmpty)).map tag ++ [a] := by
        intro x hx
        rw [hconst x (by rw [hrun]; exact List.mem_cons_of_mem a hx),
          hconst a (by rw [hrun]; exact List.mem_cons_self)]
        simp
      have hcons : ∀ k : List α, k ++ a :: as = (k ++ [a]) ++ as := by simp
      rw [hcons, unique_append_of_subset hsub, hconst a (by rw [hrun]; exact List.mem_cons_self)]
      simp [hrun]

example : unique [2, 1, 2, 3, 1] = [2, 1, 3] := by decide

end Series

end Tabular
