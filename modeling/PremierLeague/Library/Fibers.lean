import PremierLeague.Library.Series

/-!
# Grouping a list by keys

A duplicate-free list of keys that covers a list of events splits it into fibers, so that
sums and counts over the keys are sums and counts over the events. An event with a home and
an away key belongs to two groupings; what a key sees of all events is what it sees of its home
fiber followed by what it sees of its away fiber, up to order.
-/

namespace Tabular

lemma countP_eq_sum_map {α : Type*} (p : α → Bool) (l : List α) :
    l.countP p = (l.map (fun a => if p a then 1 else 0)).sum := by
  induction l with
  | nil => rfl
  | cons a l ih => rw [List.countP_cons, List.map_cons, List.sum_cons, ih, Nat.add_comm]

section Fibers

variable {α κ : Type*} [DecidableEq κ] (key : α → κ)

/-- The fibers over a covering duplicate-free list of keys make up the whole list. -/
theorem perm_flatMap_fiber (keys : List κ) (hk : keys.Nodup) (l : List α)
    (hc : ∀ a ∈ l, key a ∈ keys) :
    l.Perm (keys.flatMap (fun k => l.filter (fun a => key a == k))) := by
  induction keys generalizing l with
  | nil =>
    have hl : l = [] := List.eq_nil_iff_forall_not_mem.mpr (fun a ha => by simpa using hc a ha)
    rw [hl]
    rfl
  | cons k keys ih =>
    obtain ⟨hnot, hk⟩ := List.nodup_cons.mp hk
    have hrest := ih hk (l.filter (fun a => !(key a == k))) (fun a ha => by
      obtain ⟨ha, hne⟩ := List.mem_filter.mp ha
      have hmem := hc a ha
      simpa [show key a ≠ k by simpa using hne] using hmem)
    have hfiber : keys.flatMap (fun j =>
          (l.filter (fun a => !(key a == k))).filter (fun a => key a == j)) =
        keys.flatMap (fun j => l.filter (fun a => key a == j)) := by
      apply List.flatMap_congr
      intro j hj
      rw [List.filter_filter]
      apply List.filter_congr
      intro a _
      by_cases ha : key a = j
      · have hjk : j ≠ k := fun h => hnot (h ▸ hj)
        simp [ha, hjk]
      · simp [ha]
    rw [hfiber] at hrest
    rw [List.flatMap_cons]
    exact (List.filter_append_perm (fun a => key a == k) l).symm.trans (hrest.append_left _)

theorem sum_fibers {M : Type*} [AddCommMonoid M] {keys : List κ} (hk : keys.Nodup) {l : List α}
    (hc : ∀ a ∈ l, key a ∈ keys) (f : α → M) :
    (keys.map (fun k => ((l.filter (fun a => key a == k)).map f).sum)).sum = (l.map f).sum := by
  rw [((perm_flatMap_fiber key keys hk l hc).map f).sum_eq, List.map_flatMap, List.flatMap_def,
    List.sum_flatten, List.map_map]
  rfl

theorem countP_fibers {keys : List κ} (hk : keys.Nodup) {l : List α}
    (hc : ∀ a ∈ l, key a ∈ keys) (p : α → Bool) :
    (keys.map (fun k => (l.filter (fun a => key a == k)).countP p)).sum = l.countP p := by
  rw [(perm_flatMap_fiber key keys hk l hc).countP_eq, List.countP_flatMap]
  rfl

/-- Counting the events of each key of a list is counting the events with a key in the list. -/
theorem sum_countP_key {keys : List κ} (hk : keys.Nodup) (l : List α) :
    (keys.map (fun k => l.countP (fun a => key a == k))).sum =
      l.countP (fun a => decide (key a ∈ keys)) := by
  have hcover : ∀ a ∈ l.filter (fun a => decide (key a ∈ keys)), key a ∈ keys :=
    fun a ha => of_decide_eq_true (List.mem_filter.mp ha).2
  have hfibers := countP_fibers key hk hcover (fun _ => true)
  rw [List.countP_true, ← List.countP_eq_length_filter] at hfibers
  rw [← hfibers]
  congr 1
  apply List.map_congr_left
  intro k hk
  rw [List.filter_filter, ← List.countP_eq_length_filter]
  apply List.countP_congr
  intro a _
  simp only [beq_iff_eq, Bool.and_eq_true, decide_eq_true_eq]
  exact ⟨fun h => ⟨h, h ▸ hk⟩, fun h => h.1⟩

/-- A list whose fibers are single events is enumerated by the keys. -/
theorem perm_map_of_fiber_eq_singleton {β : Type*} {keys : List κ} (hk : keys.Nodup) {l : List α}
    (hc : ∀ a ∈ l, key a ∈ keys) (f : α → β) (g : κ → β)
    (h : ∀ k ∈ keys, (l.filter (fun a => key a == k)).map f = [g k]) :
    (l.map f).Perm (keys.map g) := by
  have hp := (perm_flatMap_fiber key keys hk l hc).map f
  rw [List.map_flatMap, List.flatMap_congr h, ← List.map_eq_flatMap] at hp
  exact hp

/-- Fibers of distinct keys do not depend on the order of the list. -/
theorem fiber_eq_of_perm {l l' : List α} (h : l.Perm l') (hn : (l.map key).Nodup) (k : κ) :
    l.filter (fun a => key a == k) = l'.filter (fun a => key a == k) := by
  have hperm := h.filter (fun a => key a == k)
  have hle : (l.filter (fun a => key a == k)).length ≤ 1 := by
    have hcount := List.nodup_iff_count_le_one.mp hn k
    rwa [List.count, List.countP_map, List.countP_eq_length_filter] at hcount
  cases hl : l.filter (fun a => key a == k) with
  | nil =>
    rw [hl] at hperm
    exact hperm.nil_eq
  | cons a as =>
    have has : as = [] := by
      rw [hl, List.length_cons] at hle
      exact List.length_eq_zero_iff.mp (by omega)
    rw [hl, has] at hperm
    rw [has]
    exact List.singleton_perm.mp hperm

end Fibers

/-- An event is found by its key. -/
lemma find?_key {α κ : Type*} [BEq κ] [LawfulBEq κ] (key : α → κ) {l : List α}
    (hn : (l.map key).Nodup) {a : α} (ha : a ∈ l) :
    l.find? (fun b => key b == key a) = some a := by
  have hfound : (l.find? (fun b => key b == key a)).isSome := by
    rw [List.find?_isSome]
    exact ⟨a, ha, beq_self_eq_true _⟩
  obtain ⟨b, hb⟩ := Option.isSome_iff_exists.mp hfound
  have hkey : key b = key a := by simpa using List.find?_some hb
  rw [hb, List.inj_on_of_nodup_map hn (List.mem_of_find?_eq_some hb) ha hkey]

/-- Groups put together are found again by keys of their own. -/
theorem filter_flatMap_tag {α β κ : Type*} [BEq κ] [LawfulBEq κ] (key : α → κ) (tag : β → κ)
    (group : β → List α) {l : List β} (hn : (l.map tag).Nodup)
    (htag : ∀ b ∈ l, ∀ a ∈ group b, key a = tag b) {b : β} (hb : b ∈ l) :
    (l.flatMap group).filter (fun a => key a == tag b) = group b := by
  induction l with
  | nil => exact absurd hb List.not_mem_nil
  | cons c l ih =>
    obtain ⟨hnot, hn⟩ := List.nodup_cons.mp hn
    have hkeep : ∀ b ∈ c :: l, (group b).filter (fun a => key a == tag b) = group b := by
      intro b hb
      apply List.filter_eq_self.mpr
      intro a ha
      rw [htag b hb a ha, beq_self_eq_true]
    have hdrop : ∀ b ∈ c :: l, ∀ k, tag b ≠ k →
        (group b).filter (fun a => key a == k) = [] := by
      intro b hb k hk
      apply List.filter_eq_nil_iff.mpr
      intro a ha
      rw [htag b hb a ha, beq_iff_eq]
      exact hk
    rw [List.flatMap_cons, List.filter_append]
    rcases List.mem_cons.mp hb with rfl | hmem
    · have hrest : (l.flatMap group).filter (fun a => key a == tag b) = [] := by
        rw [List.filter_flatMap, List.flatMap_eq_nil_iff]
        intro d hd
        exact hdrop d (List.mem_cons_of_mem b hd) _
          (fun h => hnot (h ▸ List.mem_map_of_mem hd))
      rw [hkeep b hb, hrest, List.append_nil]
    · have hne : tag c ≠ tag b := fun h => hnot (h ▸ List.mem_map_of_mem hmem)
      rw [hdrop c List.mem_cons_self _ hne, List.nil_append]
      exact ih hn (fun d hd => htag d (List.mem_cons_of_mem c hd)) hmem

/-- Groups put together have the groups of a key as its fiber. -/
theorem filter_flatMap_key {α β κ : Type*} [BEq κ] [LawfulBEq κ] (key : α → κ) (tag : β → κ)
    (group : β → List α) {l : List β} (htag : ∀ b ∈ l, ∀ a ∈ group b, key a = tag b) (k : κ) :
    (l.flatMap group).filter (fun a => key a == k) =
      (l.filter (fun b => tag b == k)).flatMap group := by
  induction l with
  | nil => rfl
  | cons b l ih =>
    rw [List.flatMap_cons, List.filter_append,
      ih (fun c hc => htag c (List.mem_cons_of_mem b hc)), List.filter_cons]
    by_cases hk : tag b = k
    · have hall : (group b).filter (fun a => key a == k) = group b := by
        rw [List.filter_eq_self]
        intro a ha
        simp [htag b List.mem_cons_self a ha, hk]
      simp [hk, hall]
    · have hnone : (group b).filter (fun a => key a == k) = [] := by
        rw [List.filter_eq_nil_iff]
        intro a ha
        simp [htag b List.mem_cons_self a ha, hk]
      simp [hk, hnone]

section TwoSided

variable {α κ β : Type*} [DecidableEq κ] (home away : α → κ)

/-- The events in which a key takes part, on either side. -/
def involving (k : κ) (l : List α) : List α := l.filter (fun a => home a == k || away a == k)

/-- What a key sees of an event: `f` on the home side, `g` on the away side. -/
def side (k : κ) (f g : α → β) (a : α) : β := if home a = k then f a else g a

/-- All that a key sees of an event: one entry for each side it takes. -/
def sides (k : κ) (f g : α → β) (a : α) : List β :=
  (if home a = k then [f a] else []) ++ (if away a = k then [g a] else [])

/-- Collecting a view of the events with a key is viewing its fiber. -/
lemma flatMap_ite_singleton (key : α → κ) (view : α → β) (k : κ) (l : List α) :
    l.flatMap (fun a => if key a = k then [view a] else []) =
      (l.filter (fun a => key a == k)).map view := by
  induction l with
  | nil => rfl
  | cons a l ih =>
    by_cases ha : key a = k
    · simp [ha, ih]
    · simp [ha, ih]

theorem flatMap_sides_perm (k : κ) (l : List α) (f g : α → β) :
    (l.flatMap (sides home away k f g)).Perm
      ((l.filter (fun a => home a == k)).map f ++ (l.filter (fun a => away a == k)).map g) := by
  rw [← flatMap_ite_singleton home, ← flatMap_ite_singleton away]
  exact (List.flatMap_append_perm _ _ _).symm

/-- When no event has the same key on both sides, a key sees each of its events once. -/
theorem flatMap_sides (k : κ) {l : List α} (hd : ∀ a ∈ l, home a ≠ away a) (f g : α → β) :
    l.flatMap (sides home away k f g) = (involving home away k l).map (side home k f g) := by
  unfold involving
  induction l with
  | nil => rfl
  | cons a l ih =>
    have hne := hd a List.mem_cons_self
    rw [List.flatMap_cons, ih (fun b hb => hd b (List.mem_cons_of_mem a hb))]
    by_cases hh : home a = k
    · have ha : away a ≠ k := fun h => hne (hh.trans h.symm)
      simp [sides, side, hh, ha]
    · by_cases ha : away a = k
      · simp [sides, side, hh, ha]
      · simp [sides, hh, ha]

end TwoSided

end Tabular
