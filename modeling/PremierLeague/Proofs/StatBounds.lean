import PremierLeague.Library.Reductions
import PremierLeague.Proofs.OverallTable
import PremierLeague.Summaries

/-!
# Bounds between the rows of the match statistics

Every cell of the match statistics reduces the column named by its label, for the home side,
the away side or both added up match by match. The bounds within a row and between the three
rows are then those of the reductions of two quantities and their sum.
-/

namespace PremierLeague.Proofs

open Tabular SeasonSummary

/-- A match statistic: the name in its four labels and its columns, which complete matches fill. -/
structure Stat where
  name : String
  h : Match → Cell
  a : Match → Cell
  h_isSome : ∀ m : Match, m.Complete → (h m).isSome
  a_isSome : ∀ m : Match, m.Complete → (a m).isSome

def stats : List Stat := [
  ⟨"corners", (·.HC), (·.AC), fun _ hm => hm.HC, fun _ hm => hm.AC⟩,
  ⟨"shots", (·.HS), (·.AS), fun _ hm => hm.HS, fun _ hm => hm.AS⟩,
  ⟨"shots_on_target", (·.HST), (·.AST), fun _ hm => hm.HST, fun _ hm => hm.AST⟩,
  ⟨"yellow_cards", (·.HY), (·.AY), fun _ hm => hm.HY, fun _ hm => hm.AY⟩,
  ⟨"red_cards", (·.HR), (·.AR), fun _ hm => hm.HR, fun _ hm => hm.AR⟩,
  ⟨"fouls", (·.HF), (·.AF), fun _ hm => hm.HF, fun _ hm => hm.AF⟩]

namespace Stat

variable (stat : Stat)

/-- The column of the match totals. -/
def both (m : Match) : Cell := Cell.add (stat.h m) (stat.a m)

def ofHome (m : Match) : ℚ := (stat.h m).val

def ofAway (m : Match) : ℚ := (stat.a m).val

variable {stat} {m : Match}

lemma h_eq (hm : m.Complete) : stat.h m = some (stat.ofHome m) :=
  Cell.eq_some_val (stat.h_isSome m hm)

lemma a_eq (hm : m.Complete) : stat.a m = some (stat.ofAway m) :=
  Cell.eq_some_val (stat.a_isSome m hm)

lemma both_eq (hm : m.Complete) : stat.both m = some (stat.ofHome m + stat.ofAway m) := by
  rw [both, h_eq hm, a_eq hm]
  rfl

end Stat

/-- The four cells of a row under the labels of a statistic. -/
structure Shows (row : SummaryRow) (name : String) (cnt : ℚ) (perGame max min : ExactFloat) :
    Prop where
  cnt : row.cells.get? (name ++ "_cnt") = some (.fin cnt)
  perGame : row.cells.get? (name ++ "_per_game") = some perGame
  max : row.cells.get? (name ++ "_max") = some max
  min : row.cells.get? (name ++ "_min") = some min

/-- Under the labels of each statistic stand the reductions of its own columns. -/
lemma shows_summaryStats (s : SeasonSummary) :
    ∃ home away total, s.summaryStats = [home, away, total] ∧
      home.index = "Home team" ∧ away.index = "Away team" ∧ total.index = "Total" ∧
      ∀ stat ∈ stats,
        Shows home stat.name (Series.sum (s.data.map stat.h))
          (Series.mean (s.data.map stat.h)).round2 (Series.max (s.data.map stat.h))
          (Series.min (s.data.map stat.h)) ∧
        Shows away stat.name (Series.sum (s.data.map stat.a))
          (Series.mean (s.data.map stat.a)).round2 (Series.max (s.data.map stat.a))
          (Series.min (s.data.map stat.a)) ∧
        Shows total stat.name (Series.sum (s.data.map stat.both))
          (Series.mean (s.data.map stat.both)).round2 (Series.max (s.data.map stat.both))
          (Series.min (s.data.map stat.both)) := by
  refine ⟨_, _, _, rfl, rfl, rfl, rfl, ?_⟩
  unfold stats
  simp only [List.forall_mem_cons]
  refine ⟨?_, ?_, ?_, ?_, ?_, ?_, nofun⟩
  all_goals
    exact ⟨⟨rfl, rfl, rfl, rfl⟩, ⟨rfl, rfl, rfl, rfl⟩, rfl, rfl, rfl, rfl⟩

/-! ### Bounds -/

/-- The bounds within a row: between its count, its average, its greatest and its least value. -/
structure RowBounds {data : List Match} {f : Match → ℚ} (c : Reductions data f) : Prop where
  least_mul_le : data.length * c.least ≤ c.total
  le_mul_greatest : c.total ≤ data.length * c.greatest
  least_le_greatest : c.least ≤ c.greatest
  mean : |data.length * c.mean - c.total| ≤ 1 / 200 * data.length

/-- The bounds on the Total row given by the Home team and the Away team row. -/
structure TotalBounds {data : List Match} {f g : Match → ℚ} (h : Reductions data f)
    (a : Reductions data g) (t : Reductions data (fun m => f m + g m)) : Prop where
  total : t.total = h.total + a.total
  mean : |t.mean - (h.mean + a.mean)| ≤ 1 / 100
  le_greatest : max (h.greatest + a.least) (h.least + a.greatest) ≤ t.greatest
  greatest_le : t.greatest ≤ h.greatest + a.greatest
  le_least : h.least + a.least ≤ t.least
  least_le : t.least ≤ min (h.least + a.greatest) (h.greatest + a.least)

lemma rowBounds {data : List Match} {f : Match → ℚ} (c : Reductions data f) : RowBounds c :=
  ⟨c.least_mul_le_total, c.total_le_mul_greatest, c.least_le_greatest,
    c.abs_mul_mean_sub_total_le⟩

lemma totalBounds {data : List Match} {f g : Match → ℚ} (h : Reductions data f)
    (a : Reductions data g) (t : Reductions data (fun m => f m + g m)) : TotalBounds h a t := by
  have hcomm : (fun m => f m + g m) = fun m => g m + f m := funext fun m => add_comm _ _
  -- the same match totals, with the away side first
  have hgreatest : IsGreatest (Set.image (fun m => g m + f m) {m | m ∈ data}) t.greatest :=
    hcomm ▸ t.isGreatest
  have hleast : IsLeast (Set.image (fun m => g m + f m) {m | m ∈ data}) t.least :=
    hcomm ▸ t.isLeast
  constructor
  · exact Reductions.total_add h a t
  · exact Reductions.abs_mean_add_sub_le h a t
  · apply max_le
    · exact greatest_add_least_le h.isGreatest a.isLeast t.isGreatest
    · rw [add_comm]
      exact greatest_add_least_le a.isGreatest h.isLeast hgreatest
  · exact greatest_add_le h.isGreatest a.isGreatest t.isGreatest
  · exact le_least_add h.isLeast a.isLeast t.isLeast
  · apply le_min
    · exact least_le_add_greatest h.isLeast a.isGreatest t.isLeast
    · rw [add_comm]
      exact least_le_add_greatest a.isLeast h.isGreatest hleast

/-- The cells of a row under the labels of a statistic reduce a quantity. -/
def ShowsReductions (row : SummaryRow) (name : String) {data : List Match} {f : Match → ℚ}
    (c : Reductions data f) : Prop :=
  Shows row name c.total (.fin c.mean) (.fin c.greatest) (.fin c.least)

lemma exists_showsReductions {row : SummaryRow} {name : String} {data : List Match}
    {column : Match → Cell} {f : Match → ℚ} (hne : data ≠ [])
    (hcells : ∀ m ∈ data, column m = some (f m))
    (hrow : Shows row name (Series.sum (data.map column)) (Series.mean (data.map column)).round2
      (Series.max (data.map column)) (Series.min (data.map column))) :
    ∃ c : Reductions data f, ShowsReductions row name c := by
  obtain ⟨c, htotal, hmean, hmax, hmin⟩ := exists_reductions hne hcells
  rw [htotal, hmean, hmax, hmin] at hrow
  exact ⟨c, hrow⟩

end PremierLeague.Proofs
