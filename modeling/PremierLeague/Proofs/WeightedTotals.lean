import PremierLeague.Proofs.Conservation
import PremierLeague.Proofs.DefinedAverages
import PremierLeague.Proofs.Mirror
import PremierLeague.Proofs.StatBounds

/-!
# Averages weighted by matches

An average of a table row, times the matches of the row, is a total again. Over all rows of a
table these totals add up to the season counts of the match statistics, provided that every team
has played at the venue of the table; one team that has not makes the whole total undefined.
-/

namespace PremierLeague.Proofs

open Tabular SeasonSummary

/-- The averages of a column, weighted by the matches played, added up over the rows. -/
def weightedTotal (a : Average) (t : Table) : ExactFloat :=
  (t.map (fun r => a.field r.toTeamRecord * .fin r.played)).sum

namespace Venue

/-- The team has played wherever the table counts. -/
def Plays (df : List Match) (team : String) : Venue → Prop
  | home => ∃ m ∈ df, m.HomeTeam = team
  | away => ∃ m ∈ df, m.AwayTeam = team
  | overall => (∃ m ∈ df, m.HomeTeam = team) ∧ ∃ m ∈ df, m.AwayTeam = team

instance (df : List Match) (team : String) (v : Venue) : Decidable (v.Plays df team) :=
  match v with
  | home => inferInstanceAs (Decidable (∃ m ∈ df, _))
  | away => inferInstanceAs (Decidable (∃ m ∈ df, _))
  | overall => inferInstanceAs (Decidable ((∃ m ∈ df, _) ∧ ∃ m ∈ df, _))

/-- The season total of a statistic over the views of a venue. -/
def seasonTotal (f : View → Cell) (df : List Match) : Venue → ℚ
  | home => Series.sum (df.map (fun m => f (homeView m)))
  | away => Series.sum (df.map (fun m => f (awayView m)))
  | overall => Series.sum (df.map (fun m => f (homeView m))) +
      Series.sum (df.map (fun m => f (awayView m)))

end Venue

/-! ### One row -/

section Row

variable (a : Average) {df : List Match} {team : String}

lemma mean_mul_length {us : List View} (hne : us ≠ []) (hc : ∀ u ∈ us, u.Complete) :
    Series.mean (us.map a.stat) * .fin us.length = .fin (total a.stat us) := by
  have hlen : (us.length : ℚ) ≠ 0 := by simpa using hne
  rw [mean_eq_total_div a hne hc, ExactFloat.fin_mul_fin, div_mul_cancel₀ _ hlen]

/-- Times its matches, an average of a team that plays is a total. -/
lemma field_mul_played (hc : NoMissingCells df) (v : Venue) (h : v.Plays df team) :
    a.field (v.record df team) * .fin (v.record df team).played =
      .fin (total a.stat (v.views df team)) := by
  have hcomplete := complete_of_mem_views hc v team
  cases v with
  | home =>
    change a.field (homeRecord df team) * .fin (homeRecord df team).played = _
    rw [homeRecord_eq, a.field_recordOf]
    exact mean_mul_length a (homeViews_ne_nil_iff.mpr h) hcomplete
  | away =>
    change a.field (awayRecord df team) * .fin (awayRecord df team).played = _
    rw [awayRecord_eq, a.field_recordOf]
    exact mean_mul_length a (awayViews_ne_nil_iff.mpr h) hcomplete
  | overall =>
    obtain ⟨hh, ha⟩ := h
    have hh := homeViews_ne_nil_iff.mpr hh
    have ha := awayViews_ne_nil_iff.mpr ha
    have hne : Venue.overall.views df team ≠ [] := by simp [Venue.views, hh]
    have hlen : ((Venue.overall.views df team).length : ℚ) ≠ 0 := by simpa using hne
    rw [average_eq a hc hh ha, played_eq, ExactFloat.fin_mul_fin, div_mul_cancel₀ _ hlen]

/-- The average of a team that does not play there is undefined. -/
lemma field_mul_played_of_not_plays (v : Venue) (h : ¬ v.Plays df team) :
    a.field (v.record df team) * .fin (v.record df team).played = .nan := by
  have hnan : a.field (v.record df team) = .nan := by
    cases v with
    | home =>
      have hnil : homeViews df team = [] := by
        by_contra hne
        exact h (homeViews_ne_nil_iff.mp hne)
      change a.field (homeRecord df team) = _
      rw [homeRecord_eq, hnil, field_recordOf_nil]
    | away =>
      have hnil : awayViews df team = [] := by
        by_contra hne
        exact h (awayViews_ne_nil_iff.mp hne)
      change a.field (awayRecord df team) = _
      rw [awayRecord_eq, hnil, field_recordOf_nil]
    | overall =>
      have hnil : homeViews df team = [] ∨ awayViews df team = [] := by
        by_contra hne
        rw [not_or] at hne
        exact h ⟨homeViews_ne_nil_iff.mp hne.1, awayViews_ne_nil_iff.mp hne.2⟩
      change a.field (overallRecord team (homeRecord df team) (awayRecord df team)) = _
      rw [a.field_overall, homeRecord_eq, awayRecord_eq, weighted_of_no_views a hnil]
  rw [hnan, ExactFloat.nan_mul]

end Row

/-! ### All rows -/

/-- The totals of all teams are the totals of all matches. -/
lemma sum_total_views (R : Runtime) (s : SeasonSummary) (f : View → Cell) (v : Venue) :
    ((s.teams R).map (fun t => total f (v.views s.data t))).sum = v.seasonTotal f s.data := by
  have hhome : ((s.teams R).map (fun t => total f (homeViews s.data t))).sum =
      Series.sum (s.data.map (fun m => f (homeView m))) := by
    rw [Series.sum_map]
    simp only [total_eq_sum]
    exact sum_views R s home_mem_teams homeView (fun u => (f u).val)
  have haway : ((s.teams R).map (fun t => total f (awayViews s.data t))).sum =
      Series.sum (s.data.map (fun m => f (awayView m))) := by
    rw [Series.sum_map]
    simp only [total_eq_sum]
    exact sum_views R s away_mem_teams awayView (fun u => (f u).val)
  cases v with
  | home => exact hhome
  | away => exact haway
  | overall =>
    simp only [Venue.views, total_append, List.sum_map_add, hhome, haway]
    rfl

lemma weightedTotal_eq (R : Runtime) {s : SeasonSummary} (hc : NoMissingCells s.data)
    (a : Average) {v : Venue} (h : ∀ team, Occurs s.data team → v.Plays s.data team) :
    weightedTotal a (table R s v) = .fin (v.seasonTotal a.stat s.data) := by
  have hrow : ∀ r ∈ table R s v, a.field r.toTeamRecord * .fin r.played =
      .fin (total a.stat (v.views s.data r.team)) := by
    intro r hr
    obtain ⟨t, ht, rfl⟩ := mem_table.mp hr
    rw [rowOf_team]
    exact field_mul_played a hc v (h t ht)
  have hteams : ((table R s v).map (fun r => total a.stat (v.views s.data r.team))).sum =
      v.seasonTotal a.stat s.data := by
    rw [sum_table]
    simp only [rowOf_team]
    exact sum_total_views R s a.stat v
  rw [weightedTotal, List.map_congr_left hrow, ExactFloat.sum_map_fin, hteams]

lemma weightedTotal_eq_nan (R : Runtime) {s : SeasonSummary} (a : Average) {v : Venue}
    (h : ¬ ∀ team, Occurs s.data team → v.Plays s.data team) :
    weightedTotal a (table R s v) = .nan := by
  push Not at h
  obtain ⟨team, hteam, hnot⟩ := h
  apply ExactFloat.sum_eq_nan
  rw [List.mem_map]
  exact ⟨rowOf R s v team, mem_table.mpr ⟨team, hteam, rfl⟩,
    field_mul_played_of_not_plays a v hnot⟩

/-! ### The columns of the tables and the labels of the statistics -/

/-- An average of the tables and the match statistic that it averages, taken from the own side or
from the opponent's. -/
structure Column where
  avg : Average
  stat : Stat
  own : Bool

def columns : List Column := [
  ⟨.cornersFor, stats[0], true⟩,
  ⟨.cornersAgainst, stats[0], false⟩,
  ⟨.shotsMade, stats[1], true⟩,
  ⟨.shotsAllowed, stats[1], false⟩,
  ⟨.yellowCards, stats[3], true⟩,
  ⟨.foulsCommited, stats[5], true⟩,
  ⟨.foulsSuffered, stats[5], false⟩]

namespace Column

/-- The average sees the cells of the statistic. -/
structure Fits (c : Column) : Prop where
  mem_stats : c.stat ∈ stats
  homeView_eq : ∀ m, c.avg.stat (homeView m) = if c.own then c.stat.h m else c.stat.a m
  awayView_eq : ∀ m, c.avg.stat (awayView m) = if c.own then c.stat.a m else c.stat.h m

lemma fits_of_mem_columns : ∀ c ∈ columns, c.Fits := by
  intro c hc
  simp only [columns, List.mem_cons, List.not_mem_nil, or_false] at hc
  rcases hc with rfl | rfl | rfl | rfl | rfl | rfl | rfl <;>
    exact ⟨List.getElem_mem _, fun _ => rfl, fun _ => rfl⟩

variable (c : Column)

/-- The row of the match statistics that counts what a table averages. -/
def venue (v : Venue) : Venue := if c.own then v else v.mirror

/-- The counted column in the row of a venue. -/
def cells (df : List Match) : Venue → List Cell
  | .home => df.map c.stat.h
  | .away => df.map c.stat.a
  | .overall => df.map c.stat.both

lemma Fits.seasonTotal_eq {c : Column} (h : c.Fits) {df : List Match} (hc : NoMissingCells df)
    (v : Venue) : v.seasonTotal c.avg.stat df = Series.sum (c.cells df (c.venue v)) := by
  have hboth : Series.sum (df.map c.stat.both) =
      Series.sum (df.map c.stat.h) + Series.sum (df.map c.stat.a) :=
    Series.sum_map_add (fun m hm => c.stat.h_isSome m (hc m hm))
      (fun m hm => c.stat.a_isSome m (hc m hm))
  unfold Venue.seasonTotal venue
  simp only [h.homeView_eq, h.awayView_eq]
  cases c.own <;> cases v <;> simp [cells, Venue.mirror, hboth, Rat.add_comm]

end Column

end PremierLeague.Proofs
