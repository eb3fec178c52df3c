import PremierLeague.Proofs.PackedSums

/-!
# The tables as they are held

When all goals of a season are 64-bit integers, the packed criteria are computed with such integers
too. Every operation wraps around, so that the column holds the packed criteria modulo `2 ^ 64`. A
table is the one of exact arithmetic exactly when the packed criteria of all its teams fit.
-/

namespace PremierLeague.Proofs

open Tabular SeasonSummary

lemma packInt64_eq (points gd goalsScored : ℤ) :
    packInt64 points gd goalsScored = wrap 64 (points * 1000000 + gd * 1000 + goalsScored) := by
  unfold packInt64
  rw [wrap_wrap_mul, wrap_add_wrap (x := points * 1000000), wrap_add_wrap]

/-! ### Whole numbers -/

/-- The whole numbers among the rationals. -/
def whole : Subring ℚ := (Int.castRingHom ℚ).range

lemma mem_whole {q : ℚ} : q ∈ whole ↔ (⌊q⌋ : ℚ) = q := by
  constructor
  · rintro ⟨z, rfl⟩
    simp
  · intro h
    exact ⟨⌊q⌋, h⟩

lemma val_mem_whole {c : Cell} (h : isInt64 c) : c.val ∈ whole := by
  cases c with
  | none => exact zero_mem whole
  | some q =>
    obtain ⟨hden, -⟩ := of_decide_eq_true h
    exact ⟨q.num, (Rat.den_eq_one_iff q).mp hden⟩

lemma sum_mem_whole {us : List View} {f : View → Cell} (h : ∀ u ∈ us, (f u).val ∈ whole) :
    Series.sum (us.map f) ∈ whole := by
  rw [Series.sum_map]
  apply Subring.list_sum_mem
  simpa using h

lemma record_mem_whole {df : List Match} (h : intGoals df) (v : Venue) (team : String) :
    (v.record df team).goalsScored ∈ whole ∧ (v.record df team).gd ∈ whole := by
  have hcells : ∀ m ∈ df, isInt64 m.FTHG ∧ isInt64 m.FTAG := by
    intro m hm
    simpa using List.all_eq_true.mp h m hm
  have hviews : ∀ u ∈ v.views df team, u.goalsFor.val ∈ whole ∧ u.goalsAgainst.val ∈ whole := by
    apply forall_mem_views
    · intro m hm
      exact ⟨val_mem_whole (hcells m hm).1, val_mem_whole (hcells m hm).2⟩
    · intro m hm
      exact ⟨val_mem_whole (hcells m hm).2, val_mem_whole (hcells m hm).1⟩
  have hfor := sum_mem_whole (fun u hu => (hviews u hu).1)
  have hagainst := sum_mem_whole (fun u hu => (hviews u hu).2)
  have hstanding := standing_record v df team
  have hscored := congrArg Standing.goalsScored hstanding
  have hgd := congrArg Standing.gd hstanding
  change (v.record df team).goalsScored = Series.sum _ at hscored
  change (v.record df team).gd = Series.sum _ - Series.sum _ at hgd
  rw [hscored, hgd]
  exact ⟨hfor, sub_mem hfor hagainst⟩

/-! ### What the column holds -/

/-- The sum of what the matches add to the packed criteria of a team. -/
def packed (v : Venue) (df : List Match) (team : String) : ℤ := ⌊(df.map (v.effect team)).sum⌋

/-- The column `rank_points` holds the packed criteria of a team as they are. -/
def HeldExactly (v : Venue) (df : List Match) (team : String) : Prop :=
  intGoals df → Fits 64 (packed v df team)

instance (v : Venue) (df : List Match) (team : String) : Decidable (HeldExactly v df team) :=
  inferInstanceAs (Decidable (_ → _))

/-- The cell of a team in the column `rank_points`. -/
def storedKey (s : SeasonSummary) (v : Venue) (team : String) : ℚ :=
  keyBy (storedPoints s.data) s v team

section Cells

variable {s : SeasonSummary} {v : Venue} {team : String}

lemma floor_key (s : SeasonSummary) (v : Venue) (team : String) :
    ⌊key s v team⌋ = packed v s.data team := by
  rw [key_eq_sum]
  rfl

lemma cast_packed (h : intGoals s.data) (v : Venue) (team : String) :
    (packed v s.data team : ℚ) = key s v team := by
  rw [← floor_key, ← mem_whole]
  obtain ⟨hscored, hgd⟩ := record_mem_whole h v team
  have hnat : ∀ n : ℕ, (n : ℚ) ∈ whole := fun n => natCast_mem whole n
  exact add_mem (add_mem (mul_mem (hnat _) (hnat 1000000)) (mul_mem hgd (hnat 1000))) hscored

lemma storedKey_of_int (h : intGoals s.data) (v : Venue) (team : String) :
    storedKey s v team = (wrap 64 (packed v s.data team) : ℤ) := by
  obtain ⟨hscored, hgd⟩ := record_mem_whole h v team
  unfold storedKey keyBy storedPoints
  rw [if_pos h, packInt64_eq, Int.cast_inj]
  congr 1
  rw [← Int.cast_inj (α := ℚ), cast_packed h]
  push_cast
  rw [mem_whole.mp hscored, mem_whole.mp hgd]
  rfl

lemma storedKey_of_float (h : ¬ intGoals s.data) (v : Venue) (team : String) :
    storedKey s v team = key s v team := by
  unfold storedKey keyBy storedPoints
  rw [if_neg h]
  rfl

lemma storedKey_eq_iff : storedKey s v team = key s v team ↔ HeldExactly v s.data team := by
  unfold HeldExactly
  by_cases h : intGoals s.data
  · rw [storedKey_of_int h, ← cast_packed h, Int.cast_inj, wrap_eq_self_iff]
    simp [h]
  · rw [storedKey_of_float h]
    simp [h]

/-- The cell depends on the packed criteria and on the type of the column only. -/
lemma storedKey_congr {s' : SeasonSummary} (hint : intGoals s'.data = intGoals s.data)
    (hkey : key s' v team = key s v team) : storedKey s' v team = storedKey s v team := by
  by_cases h : intGoals s.data
  · rw [storedKey_of_int h, storedKey_of_int (hint.trans h), ← floor_key, ← floor_key, hkey]
  · rw [storedKey_of_float h, storedKey_of_float (by rwa [hint]), hkey]

end Cells

/-! ### Tables -/

/-- The held table of a venue has the given rows, one for each team of the season. -/
def StoredTableOf (R : Runtime) (s : SeasonSummary) (v : Venue) (row : String → TableRow) : Prop :=
  ∃ t, s.calcMainTablesStored R v.label = .ok (some t) ∧
    (∀ team, Occurs s.data team → loc t team = .ok (row team)) ∧
    ∀ r ∈ t, ∃ team, Occurs s.data team ∧ row team = r

def storedRow (R : Runtime) (s : SeasonSummary) (v : Venue) (team : String) : TableRow :=
  rowBy (storedPoints s.data) R s v team

theorem storedTableOf_storedRow (R : Runtime) (s : SeasonSummary) (v : Venue) :
    StoredTableOf R s v (storedRow R s v) := by
  refine ⟨tableBy (storedPoints s.data) R s v, calcMainTablesBy_eq R s v, ?_, ?_⟩
  · intro team hteam
    exact loc_tableBy v hteam
  · intro r hr
    exact mem_tableBy.mp hr

lemma StoredTableOf.row_eq {R : Runtime} {s : SeasonSummary} {v : Venue} {row : String → TableRow}
    (h : StoredTableOf R s v row) {team : String} (ht : Occurs s.data team) :
    row team = storedRow R s v team := by
  obtain ⟨t, htable, hloc, -⟩ := h
  rw [calcMainTablesStored, calcMainTablesBy_eq] at htable
  obtain rfl := Option.some.inj (Except.ok.inj htable)
  have hrow := hloc team ht
  rw [loc_tableBy v ht] at hrow
  exact (Except.ok.inj hrow).symm

end PremierLeague.Proofs
