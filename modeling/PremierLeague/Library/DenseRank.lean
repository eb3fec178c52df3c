import Mathlib

/-!
# Dense ranking and packed keys

The dense rank of a value in a column is its place among the distinct values, counted from
the largest. It is one more than the number of distinct larger values, so it reverses the
order of the values, and it only depends on how the values compare. When one value rises and
another one falls, the rank of the risen item can still get worse by one: the fallen item may
leave a value that it shared and take one of its own above the risen item.

A packed key writes a sequence of criteria into one number. It compares as the criteria do
lexicographically as long as the lower criteria differ by less than one unit of the next.
-/

namespace Tabular

section Rank

variable {α : Type*} [LinearOrder α]

/-- The place of `x` among the distinct values of a column in descending order. -/
def denseRank (vs : List α) (x : α) : ℕ :=
  (vs.dedup.insertionSort (· ≥ ·)).idxOf x + 1

/-- The distinct values of a column above `x`. -/
def above (vs : List α) (x : α) : Finset α := vs.toFinset.filter (x < ·)

@[simp] lemma mem_above {vs : List α} {x y : α} : y ∈ above vs x ↔ y ∈ vs ∧ x < y := by
  simp [above]

lemma idxOf_eq_countP {s : List α} (hs : s.Pairwise (· > ·)) {x : α} (hx : x ∈ s) :
    s.idxOf x = s.countP (fun y => decide (x < y)) := by
  induction s with
  | nil => simp at hx
  | cons y s ih =>
    obtain ⟨hy, hs⟩ := List.pairwise_cons.mp hs
    by_cases hxy : y = x
    · subst hxy
      have hzero : s.countP (fun z => decide (y < z)) = 0 := by
        rw [List.countP_eq_zero]
        intro z hz
        simpa using (hy z hz).le
      rw [List.idxOf_cons_self, List.countP_cons_of_neg (by simp), hzero]
    · have hx : x ∈ s := by
        rcases List.mem_cons.mp hx with h | h
        · exact absurd h.symm hxy
        · exact h
      rw [List.idxOf_cons_ne _ hxy, List.countP_cons_of_pos (by simpa using hy x hx), ih hs hx]

/-- The dense rank is one more than the number of distinct larger values. -/
theorem denseRank_eq {vs : List α} {x : α} (hx : x ∈ vs) :
    denseRank vs x = (above vs x).card + 1 := by
  have hperm : (vs.dedup.insertionSort (· ≥ ·)).Perm vs.dedup := List.perm_insertionSort _ _
  have hnodup : (vs.dedup.insertionSort (· ≥ ·)).Nodup :=
    hperm.nodup_iff.mpr (List.nodup_dedup vs)
  have hsorted : (vs.dedup.insertionSort (· ≥ ·)).Pairwise (· > ·) := by
    have h := (List.pairwise_insertionSort (· ≥ ·) vs.dedup).and hnodup
    exact h.imp (fun ⟨hle, hne⟩ => lt_of_le_of_ne hle (Ne.symm hne))
  have hmem : x ∈ vs.dedup.insertionSort (· ≥ ·) :=
    hperm.mem_iff.mpr (List.mem_dedup.mpr hx)
  have hset : above vs x = (vs.dedup.filter (fun y => decide (x < y))).toFinset := by
    ext y
    simp
  rw [denseRank, idxOf_eq_countP hsorted hmem, hperm.countP_eq, List.countP_eq_length_filter,
    hset, List.toFinset_card_of_nodup ((List.nodup_dedup vs).filter _)]

lemma above_perm {vs ws : List α} (h : vs.Perm ws) (x : α) : above vs x = above ws x := by
  ext y
  simp [h.mem_iff]

lemma denseRank_perm {vs ws : List α} (h : vs.Perm ws) {x : α} (hx : x ∈ vs) :
    denseRank vs x = denseRank ws x := by
  rw [denseRank_eq hx, denseRank_eq (h.mem_iff.mp hx), above_perm h]

lemma above_subset {vs : List α} {x y : α} (h : x ≤ y) : above vs y ⊆ above vs x := by
  intro z hz
  rw [mem_above] at hz ⊢
  exact ⟨hz.1, h.trans_lt hz.2⟩

lemma denseRank_lt {vs : List α} {x y : α} (hx : x ∈ vs) (hy : y ∈ vs) (h : x < y) :
    denseRank vs y < denseRank vs x := by
  rw [denseRank_eq hx, denseRank_eq hy]
  have hss : above vs y ⊂ above vs x := by
    refine (Finset.ssubset_iff_of_subset (above_subset h.le)).mpr ⟨y, ?_, ?_⟩
    · exact mem_above.mpr ⟨hy, h⟩
    · simp
  have hcard := Finset.card_lt_card hss
  omega

theorem denseRank_lt_iff {vs : List α} {x y : α} (hx : x ∈ vs) (hy : y ∈ vs) :
    denseRank vs x < denseRank vs y ↔ y < x := by
  refine ⟨fun h => ?_, denseRank_lt hy hx⟩
  by_contra hle
  rcases (not_lt.mp hle).lt_or_eq with hlt | heq
  · have := denseRank_lt hx hy hlt
    omega
  · rw [heq] at h
    exact lt_irrefl _ h

theorem denseRank_le_iff {vs : List α} {x y : α} (hx : x ∈ vs) (hy : y ∈ vs) :
    denseRank vs x ≤ denseRank vs y ↔ y ≤ x := by
  rw [← not_lt, ← not_lt, denseRank_lt_iff hy hx]

theorem denseRank_eq_iff {vs : List α} {x y : α} (hx : x ∈ vs) (hy : y ∈ vs) :
    denseRank vs x = denseRank vs y ↔ x = y := by
  rw [le_antisymm_iff, denseRank_le_iff hx hy, denseRank_le_iff hy hx, le_antisymm_iff, and_comm]

/-- The dense ranks of a column are all numbers from one to the number of its distinct values. -/
theorem toFinset_map_denseRank (vs : List α) :
    (vs.map (denseRank vs)).toFinset = Finset.Icc 1 vs.toFinset.card := by
  have himage : (vs.map (denseRank vs)).toFinset = vs.toFinset.image (denseRank vs) := by
    ext n
    simp
  have hinj : Set.InjOn (denseRank vs) vs.toFinset := by
    intro x hx y hy hxy
    exact (denseRank_eq_iff (by simpa using hx) (by simpa using hy)).mp hxy
  have hle : vs.toFinset.image (denseRank vs) ⊆ Finset.Icc 1 vs.toFinset.card := by
    intro n hn
    obtain ⟨x, hx, rfl⟩ := Finset.mem_image.mp hn
    have hmem : x ∈ vs := List.mem_toFinset.mp hx
    have hss : above vs x ⊂ vs.toFinset :=
      (Finset.ssubset_iff_of_subset (Finset.filter_subset _ _)).mpr ⟨x, hx, by simp⟩
    have hcard := Finset.card_lt_card hss
    rw [denseRank_eq hmem, Finset.mem_Icc]
    omega
  rw [himage]
  apply Finset.eq_of_subset_of_card_le hle
  rw [Finset.card_image_of_injOn hinj]
  simp

/-- A sorted list of all numbers from one on rises by single steps. -/
theorem getElem_succ_le {l : List ℕ} {n : ℕ} (hsort : l.Pairwise (· ≤ ·))
    (hl : l.toFinset = Finset.Icc 1 n) {i : ℕ} (hi : i + 1 < l.length) :
    l[i + 1] ≤ l[i] + 1 := by
  by_contra hgap
  have hmem : l[i] + 1 ∈ l := by
    have htop : l[i + 1] ∈ l.toFinset := List.mem_toFinset.mpr (List.getElem_mem hi)
    rw [← List.mem_toFinset, hl, Finset.mem_Icc]
    rw [hl, Finset.mem_Icc] at htop
    omega
  obtain ⟨j, hj, hval⟩ := List.getElem_of_mem hmem
  have hmono := List.pairwise_iff_getElem.mp hsort
  -- the missing number can stand neither before the gap nor after it
  rcases lt_trichotomy j i with hji | rfl | hij
  · have := hmono j i hj (by omega) hji
    omega
  · omega
  · rcases (show i + 1 ≤ j from hij).eq_or_lt with rfl | hij
    · omega
    · have := hmono (i + 1) j hi hj hij
      omega

section Transport

variable {β γ : Type*} [LinearOrder γ] {l : List β} {f : β → α} {g : β → γ}

lemma eq_of_same_order (hfg : ∀ a ∈ l, ∀ b ∈ l, f a < f b ↔ g a < g b) {a b : β} (ha : a ∈ l)
    (hb : b ∈ l) (h : g a = g b) : f a = f b := by
  refine le_antisymm ?_ ?_
  · rw [← not_lt, hfg b hb a ha, h]
    exact lt_irrefl _
  · rw [← not_lt, hfg a ha b hb, h]
    exact lt_irrefl _

lemma card_above_le (hfg : ∀ a ∈ l, ∀ b ∈ l, f a < f b ↔ g a < g b) {b : β} (hb : b ∈ l) :
    (above (l.map f) (f b)).card ≤ (above (l.map g) (g b)).card := by
  refine Finset.card_le_card_of_forall_subsingleton (fun y z => ∃ a ∈ l, f a = y ∧ g a = z) ?_ ?_
  · intro y hy
    obtain ⟨hy, hlt⟩ := mem_above.mp hy
    obtain ⟨a, ha, rfl⟩ := List.mem_map.mp hy
    exact ⟨g a, mem_above.mpr ⟨List.mem_map_of_mem ha, (hfg b hb a ha).mp hlt⟩, a, ha, rfl, rfl⟩
  · rintro z _ y ⟨_, a, ha, rfl, rfl⟩ y' ⟨_, a', ha', rfl, hz⟩
    exact eq_of_same_order hfg ha ha' hz.symm

/-- Ranking by a key counts the distinct larger values of any criterion that the key orders
in the same way. -/
theorem denseRank_map (hfg : ∀ a ∈ l, ∀ b ∈ l, f a < f b ↔ g a < g b) {b : β} (hb : b ∈ l) :
    denseRank (l.map f) (f b) = (above (l.map g) (g b)).card + 1 := by
  have hgf : ∀ a ∈ l, ∀ b ∈ l, g a < g b ↔ f a < f b := fun a ha b hb => (hfg a ha b hb).symm
  rw [denseRank_eq (List.mem_map_of_mem hb),
    le_antisymm (card_above_le hfg hb) (card_above_le hgf hb)]

example : [10, 30, 20, 30].map (denseRank [10, 30, 20, 30]) = [3, 1, 2, 1] := by decide

end Transport

section Shift

variable {β : Type*} {l : List β} {a b : β → α} {t o : β}

/-- From `a` to `b`, the value of `t` rises, the value of `o` falls and all others stay. -/
structure Shift (l : List β) (a b : β → α) (t o : β) : Prop where
  mem_t : t ∈ l
  mem_o : o ∈ l
  rise : a t < b t
  fall : b o < a o
  stay : ∀ x ∈ l, x ≠ t → x ≠ o → b x = a x

namespace Shift

variable (h : Shift l a b t o)

include h

/-- No item overtakes the risen one. -/
theorem lt_of_lt {x : β} (hx : x ∈ l) (hlt : b t < b x) : a t < a x := by
  have ht : x ≠ t := by
    rintro rfl
    exact lt_irrefl _ hlt
  by_cases ho : x = o
  · subst ho
    exact h.rise.trans (hlt.trans h.fall)
  · rw [← h.stay x hx ht ho]
    exact h.rise.trans hlt

lemma above_subset_insert : above (l.map b) (b t) ⊆ insert (b o) (above (l.map a) (a t)) := by
  intro z hz
  obtain ⟨hz, hlt⟩ := mem_above.mp hz
  obtain ⟨x, hx, rfl⟩ := List.mem_map.mp hz
  have ht : x ≠ t := by
    rintro rfl
    exact lt_irrefl _ hlt
  by_cases ho : x = o
  · rw [ho]
    exact Finset.mem_insert_self _ _
  · apply Finset.mem_insert_of_mem
    have hlt' := h.lt_of_lt hx hlt
    rw [h.stay x hx ht ho]
    exact mem_above.mpr ⟨List.mem_map_of_mem hx, hlt'⟩

/-- The dense rank of the risen item gets worse by one at most. -/
theorem denseRank_le_succ : denseRank (l.map b) (b t) ≤ denseRank (l.map a) (a t) + 1 := by
  rw [denseRank_eq (List.mem_map_of_mem h.mem_t), denseRank_eq (List.mem_map_of_mem h.mem_t)]
  have hle := (Finset.card_le_card h.above_subset_insert).trans (Finset.card_insert_le _ _)
  omega

end Shift

/-- The fallen item leaves a shared value for one of its own, still above the risen item, and
all values that were above the risen item still are. -/
structure Splits (l : List β) (a b : β → α) (t o : β) : Prop where
  above : b t < b o
  shared : ∃ x ∈ l, x ≠ t ∧ x ≠ o ∧ a x = a o
  alone : ∀ x ∈ l, x ≠ o → b x ≠ b o
  still : ∀ x ∈ l, x ≠ t → x ≠ o → a t < a x → b t < b x

lemma Shift.fresh (h : Shift l a b t o) (habove : b t < b o)
    (halone : ∀ x ∈ l, x ≠ o → b x ≠ b o) : b o ∉ above (l.map a) (a t) := by
  intro hmem
  obtain ⟨x, hx, hxo⟩ := List.mem_map.mp (mem_above.mp hmem).1
  by_cases hxt : x = t
  · subst hxt
    exact (h.rise.trans habove).ne hxo
  · by_cases hne : x = o
    · subst hne
      exact h.fall.ne' hxo
    · exact halone x hx hne ((h.stay x hx hxt hne).trans hxo)

lemma Shift.lt_of_splits (h : Shift l a b t o) (hs : Splits l a b t o) :
    denseRank (l.map a) (a t) < denseRank (l.map b) (b t) := by
  obtain ⟨habove, ⟨y, hy, hyt, hyo, hyo'⟩, halone, hstill⟩ := hs
  have hsup : insert (b o) (above (l.map a) (a t)) ⊆ above (l.map b) (b t) := by
    intro z hz
    rcases Finset.mem_insert.mp hz with rfl | hz
    · exact mem_above.mpr ⟨List.mem_map_of_mem h.mem_o, habove⟩
    · obtain ⟨hz, hlt⟩ := mem_above.mp hz
      obtain ⟨x, hx, rfl⟩ := List.mem_map.mp hz
      have hxt : x ≠ t := by
        rintro rfl
        exact lt_irrefl _ hlt
      by_cases hxo : x = o
      · -- the old value of the fallen item is still that of the item it was level with
        subst hxo
        rw [← hyo', ← h.stay y hy hyt hyo]
        refine mem_above.mpr ⟨List.mem_map_of_mem hy, ?_⟩
        rw [h.stay y hy hyt hyo, hyo']
        exact habove.trans h.fall
      · rw [← h.stay x hx hxt hxo]
        exact mem_above.mpr ⟨List.mem_map_of_mem hx, hstill x hx hxt hxo hlt⟩
  have hcard := Finset.card_le_card hsup
  rw [Finset.card_insert_of_notMem (h.fresh habove halone)] at hcard
  rw [denseRank_eq (List.mem_map_of_mem h.mem_t), denseRank_eq (List.mem_map_of_mem h.mem_t)]
  omega

lemma Shift.above_eq_insert (h : Shift l a b t o)
    (hlt : denseRank (l.map a) (a t) < denseRank (l.map b) (b t)) :
    above (l.map b) (b t) = insert (b o) (above (l.map a) (a t)) ∧
      b o ∉ above (l.map a) (a t) := by
  rw [denseRank_eq (List.mem_map_of_mem h.mem_t), denseRank_eq (List.mem_map_of_mem h.mem_t),
    Nat.add_lt_add_iff_right] at hlt
  have hsub := h.above_subset_insert
  have hfresh : b o ∉ above (l.map a) (a t) := by
    intro hmem
    rw [Finset.insert_eq_of_mem hmem] at hsub
    exact absurd (Finset.card_le_card hsub) (not_le.mpr hlt)
  refine ⟨Finset.eq_of_subset_of_card_le hsub ?_, hfresh⟩
  rw [Finset.card_insert_of_notMem hfresh]
  exact hlt

lemma Shift.splits_of_lt (h : Shift l a b t o)
    (hlt : denseRank (l.map a) (a t) < denseRank (l.map b) (b t)) : Splits l a b t o := by
  obtain ⟨heq, hfresh⟩ := h.above_eq_insert hlt
  have hkeep : ∀ x ∈ l, a t < a x → ∃ y ∈ l, b y = a x ∧ b t < a x := by
    intro x hx hax
    have hmem : a x ∈ above (l.map b) (b t) := by
      rw [heq]
      exact Finset.mem_insert_of_mem (mem_above.mpr ⟨List.mem_map_of_mem hx, hax⟩)
    obtain ⟨hmem, hbx⟩ := mem_above.mp hmem
    obtain ⟨y, hy, hyx⟩ := List.mem_map.mp hmem
    exact ⟨y, hy, hyx, hbx⟩
  have habove : b t < b o := by
    have hmem : b o ∈ above (l.map b) (b t) := heq ▸ Finset.mem_insert_self _ _
    exact (mem_above.mp hmem).2
  refine ⟨habove, ?_, ?_, ?_⟩
  · obtain ⟨y, hy, hyo, hbo⟩ := hkeep o h.mem_o (h.rise.trans (habove.trans h.fall))
    have hyt : y ≠ t := by
      rintro rfl
      exact hbo.ne hyo
    have hne : y ≠ o := by
      rintro rfl
      exact h.fall.ne hyo
    exact ⟨y, hy, hyt, hne, (h.stay y hy hyt hne).symm.trans hyo⟩
  · intro x hx hne hxo
    have hxt : x ≠ t := by
      rintro rfl
      exact habove.ne hxo
    apply hfresh
    rw [← hxo, h.stay x hx hxt hne]
    refine mem_above.mpr ⟨List.mem_map_of_mem hx, ?_⟩
    rw [← h.stay x hx hxt hne, hxo]
    exact h.rise.trans habove
  · intro x hx hxt hxo hax
    obtain ⟨-, -, -, hbx⟩ := hkeep x hx hax
    rwa [h.stay x hx hxt hxo]

/-- The dense rank of the risen item gets worse exactly when the fallen item adds a value above
it. -/
theorem Shift.denseRank_lt_iff_splits (h : Shift l a b t o) :
    denseRank (l.map a) (a t) < denseRank (l.map b) (b t) ↔ Splits l a b t o :=
  ⟨h.splits_of_lt, h.lt_of_splits⟩

end Shift

section Drift

variable {β : Type*} [DecidableEq β] {l l' : List β} {a b : β → α} {S : Finset β}

/-- Values that change, and values that are new, can push a value down by one place each. -/
theorem denseRank_le_add_card (h : ∀ x ∈ l', x ∉ S → x ∈ l ∧ b x = a x) {t : β} (ht : t ∈ l)
    (ht' : t ∈ l') (htS : t ∉ S) :
    denseRank (l'.map b) (b t) ≤ denseRank (l.map a) (a t) + S.card := by
  have habove : above (l'.map b) (b t) ⊆ above (l.map a) (a t) ∪ S.image b := by
    intro y hy
    obtain ⟨hmem, hlt⟩ := mem_above.mp hy
    obtain ⟨x, hx, rfl⟩ := List.mem_map.mp hmem
    by_cases hxS : x ∈ S
    · exact Finset.mem_union_right _ (Finset.mem_image_of_mem b hxS)
    · obtain ⟨hxl, hxeq⟩ := h x hx hxS
      apply Finset.mem_union_left
      rw [mem_above, hxeq]
      rw [hxeq, (h t ht' htS).2] at hlt
      exact ⟨List.mem_map_of_mem hxl, hlt⟩
  have hcard : (above (l'.map b) (b t)).card ≤ (above (l.map a) (a t)).card + S.card :=
    calc (above (l'.map b) (b t)).card
        ≤ (above (l.map a) (a t) ∪ S.image b).card := Finset.card_le_card habove
      _ ≤ (above (l.map a) (a t)).card + (S.image b).card := Finset.card_union_le _ _
      _ ≤ (above (l.map a) (a t)).card + S.card := by
        gcongr
        exact Finset.card_image_le
  rw [denseRank_eq (List.mem_map_of_mem ht'), denseRank_eq (List.mem_map_of_mem ht)]
  omega

end Drift

end Rank

section Pack

/-- A whole-numbered criterion `a` scaled by `B` dominates lower criteria that differ by less
than `B`. -/
theorem pack_lt_pack_iff {a b : ℤ} {r s B : ℚ} (h : |r - s| < B) :
    (a : ℚ) * B + r < b * B + s ↔ a < b ∨ a = b ∧ r < s := by
  obtain ⟨hl, hu⟩ := abs_lt.mp h
  have hB : 0 < B := (abs_nonneg _).trans_lt h
  rcases lt_trichotomy a b with hab | hab | hab
  · have hstep : (a : ℚ) + 1 ≤ b := by exact_mod_cast hab
    have hmul : ((a : ℚ) + 1) * B ≤ b * B := mul_le_mul_of_nonneg_right hstep hB.le
    have hlt : (a : ℚ) * B + r < b * B + s := by linarith
    simp [hab, hlt]
  · subst hab
    simp
  · have hstep : (b : ℚ) + 1 ≤ a := by exact_mod_cast hab
    have hmul : ((b : ℚ) + 1) * B ≤ a * B := mul_le_mul_of_nonneg_right hstep hB.le
    have hlt : ¬ (a : ℚ) * B + r < b * B + s := by linarith
    simp [hlt, hab.not_gt, hab.ne']

end Pack

/-- In a list sorted by a key, the smaller key stands first. -/
lemma idxOf_lt_of_pairwise {α : Type*} [DecidableEq α] {l : List α} {key : α → ℕ}
    (hl : l.Pairwise (fun a b => key a ≤ key b)) {a b : α} (ha : a ∈ l) (hb : b ∈ l)
    (h : key a < key b) : l.idxOf a < l.idxOf b := by
  have hia : l.idxOf a < l.length := List.idxOf_lt_length_iff.mpr ha
  have hib : l.idxOf b < l.length := List.idxOf_lt_length_iff.mpr hb
  by_contra hnot
  rcases Nat.lt_or_ge (l.idxOf b) (l.idxOf a) with hlt | hge
  · have hle := List.pairwise_iff_getElem.mp hl _ _ hib hia hlt
    rw [List.getElem_idxOf, List.getElem_idxOf] at hle
    omega
  · have heq : l.idxOf a = l.idxOf b := by omega
    have hab : a = b := (List.idxOf_inj ha).mp heq
    rw [hab] at h
    omega

end Tabular
