import PremierLeague.Proofs.DefinedAverages
import PremierLeague.Library.Pooling

/-!
# Shots for a goal

The home and the away table divide mean shots by mean goals, which is the ratio of the totals.
The overall table averages the two ratios as it averages means. The average is the ratio of the
overall totals exactly when both venues have goals, and the ratios or the goals per match agree.
-/

namespace PremierLeague.Proofs

open Tabular SeasonSummary

/-- A field that relates the shots to the goals, with the number of these goals. -/
structure Ratio where
  shots : Average
  goals : Average
  field : TeamRecord → ExactFloat
  count : TeamRecord → ℚ
  field_recordOf : ∀ team us, field (recordOf team us) =
    Series.mean (us.map shots.stat) / Series.mean (us.map goals.stat)
  field_overall : ∀ team home away,
    field (overallRecord team home away) = weighted field home away
  count_recordOf : ∀ team us, count (recordOf team us) = total goals.stat us
  count_overall : ∀ team home away,
    count (overallRecord team home away) = count home + count away

namespace Ratio

def toScore : Ratio :=
  ⟨.shotsMade, .goalsScored, (·.shotsToScoreAGoal), (·.goalsScored), fun _ _ => rfl,
    fun _ _ _ => rfl, fun _ _ => rfl, fun _ _ _ => rfl⟩

def toConcede : Ratio :=
  ⟨.shotsAllowed, .goalsConceded, (·.shotsToConcedeAGoal), (·.goalsConceded), fun _ _ => rfl,
    fun _ _ _ => rfl, fun _ _ => rfl, fun _ _ _ => rfl⟩

/-- With goals in the record, the field is the total shots divided by the total goals, and scales
the mean goals to the mean shots. -/
def Exact (ρ : Ratio) (us : List View) (r : TeamRecord) : Prop :=
  0 < ρ.count r → ρ.field r = .fin (total ρ.shots.stat us / total ρ.goals.stat us) ∧
    ρ.field r * ρ.goals.field r = ρ.shots.field r

/-- If there are goals overall, there are goals at both venues, and these agree in the shots for
a goal or in the goals per match. -/
def Survives (ρ : Ratio) (df : List Match) (team : String) : Prop :=
  let home := homeViews df team
  let away := awayViews df team
  0 < total ρ.goals.stat home + total ρ.goals.stat away →
    total ρ.goals.stat home ≠ 0 ∧ total ρ.goals.stat away ≠ 0 ∧
      (total ρ.shots.stat home * total ρ.goals.stat away =
          total ρ.shots.stat away * total ρ.goals.stat home ∨
        total ρ.goals.stat home * away.length = total ρ.goals.stat away * home.length)

instance (ρ : Ratio) (df : List Match) (team : String) : Decidable (ρ.Survives df team) :=
  inferInstanceAs (Decidable (_ → _))

end Ratio

/-! ### One venue -/

section Venue

variable (ρ : Ratio) (team : String) {us : List View} (hc : ∀ u ∈ us, u.Complete)

include hc

lemma ratio_recordOf (hne : us ≠ []) (hg : total ρ.goals.stat us ≠ 0) :
    ρ.field (recordOf team us) = .fin (total ρ.shots.stat us / total ρ.goals.stat us) := by
  have hlen : (us.length : ℚ) ≠ 0 := by simpa using hne
  rw [ρ.field_recordOf, mean_eq_total_div _ hne hc, mean_eq_total_div _ hne hc,
    ExactFloat.fin_div_fin_of_ne _ (div_ne_zero hg hlen), div_div_div_cancel_right₀ hlen]

/-- A ratio that is a number has matches and goals behind it. -/
lemma goals_of_ratio_fin {q : ℚ} (h : ρ.field (recordOf team us) = .fin q) :
    us ≠ [] ∧ total ρ.goals.stat us ≠ 0 := by
  have hne : us ≠ [] := by
    rintro rfl
    rw [ρ.field_recordOf, List.map_nil, Series.mean_nil, ExactFloat.nan_div] at h
    exact nomatch h
  rw [ρ.field_recordOf, mean_eq_total_div _ hne hc, mean_eq_total_div _ hne hc] at h
  refine ⟨hne, fun hzero => ExactFloat.ne_zero_of_div_eq_fin h ?_⟩
  rw [hzero, zero_div]

lemma exact_recordOf (hne : us ≠ []) : ρ.Exact us (recordOf team us) := by
  intro hpos
  have hlen : (us.length : ℚ) ≠ 0 := by simpa using hne
  have hg : total ρ.goals.stat us ≠ 0 := by
    rw [← ρ.count_recordOf team]
    exact hpos.ne'
  refine ⟨ratio_recordOf ρ team hc hne hg, ?_⟩
  rw [ratio_recordOf ρ team hc hne hg, ρ.goals.field_recordOf, ρ.shots.field_recordOf,
    mean_eq_total_div _ hne hc, mean_eq_total_div _ hne hc, ExactFloat.fin_mul_fin,
    div_mul_div_cancel₀ hg]

end Venue

/-! ### Both venues -/

lemma fin_of_weighted_fin {field : TeamRecord → ExactFloat} {home away : TeamRecord} {q : ℚ}
    (h : weighted field home away = .fin q) :
    (∃ p, field home = .fin p) ∧ ∃ p, field away = .fin p := by
  obtain ⟨p, hp⟩ := ExactFloat.fin_of_div_fin_eq_fin h
  obtain ⟨⟨a, ha⟩, b, hb⟩ := ExactFloat.fin_of_add_eq_fin hp
  exact ⟨ExactFloat.fin_of_mul_fin_eq_fin ha, ExactFloat.fin_of_mul_fin_eq_fin hb⟩

section Overall

variable (ρ : Ratio) (team : String) {vs ws : List View} (hv : vs ≠ []) (hw : ws ≠ [])
  (hc : ∀ u ∈ vs ++ ws, u.Complete)

include hv hw hc

lemma weighted_ratio (hgv : total ρ.goals.stat vs ≠ 0) (hgw : total ρ.goals.stat ws ≠ 0) :
    weighted ρ.field (recordOf team vs) (recordOf team ws) =
      .fin ((total ρ.shots.stat vs / total ρ.goals.stat vs * vs.length +
        total ρ.shots.stat ws / total ρ.goals.stat ws * ws.length) /
          ((vs.length : ℚ) + ws.length)) := by
  unfold weighted
  rw [ratio_recordOf ρ team (fun u hu => hc u (List.mem_append_left ws hu)) hv hgv,
    ratio_recordOf ρ team (fun u hu => hc u (List.mem_append_right vs hu)) hw hgw]
  simp only [recordOf, ExactFloat.fin_mul_fin, ExactFloat.fin_add_fin]
  rw [ExactFloat.fin_div_fin_of_ne _ (played_ne_zero hv ws), Nat.cast_add]

end Overall

lemma ne_nil_of_total {f : View → Cell} {us : List View} (h : total f us ≠ 0) : us ≠ [] := by
  rintro rfl
  exact h rfl

lemma exact_overall_iff (ρ : Ratio) {df : List Match} (hc : NoMissingCells df) (team : String) :
    ρ.Exact (Venue.overall.views df team) (Venue.overall.record df team) ↔
      ρ.Survives df team := by
  have hcomplete := complete_of_mem_views hc .overall team
  have hhome : ∀ u ∈ homeViews df team, u.Complete := complete_of_mem_views hc .home team
  have haway : ∀ u ∈ awayViews df team, u.Complete := complete_of_mem_views hc .away team
  have hcount : ρ.count (Venue.overall.record df team) =
      total ρ.goals.stat (homeViews df team) + total ρ.goals.stat (awayViews df team) := by
    change ρ.count (overallRecord team (homeRecord df team) (awayRecord df team)) = _
    rw [ρ.count_overall, homeRecord_eq, awayRecord_eq, ρ.count_recordOf, ρ.count_recordOf]
  have hfield : ρ.field (Venue.overall.record df team) =
      weighted ρ.field (recordOf team (homeViews df team)) (recordOf team (awayViews df team)) := by
    change ρ.field (overallRecord team (homeRecord df team) (awayRecord df team)) = _
    rw [ρ.field_overall, homeRecord_eq, awayRecord_eq]
  have hviews : Venue.overall.views df team = homeViews df team ++ awayViews df team := rfl
  unfold Ratio.Exact Ratio.Survives
  dsimp only
  rw [hcount, hfield, hviews, total_append, total_append]
  apply imp_congr_right
  intro hpos
  constructor
  · rintro ⟨hratio, -⟩
    obtain ⟨⟨p, hp⟩, q, hq⟩ := fin_of_weighted_fin hratio
    obtain ⟨hvne, hgv⟩ := goals_of_ratio_fin ρ team hhome hp
    obtain ⟨hwne, hgw⟩ := goals_of_ratio_fin ρ team haway hq
    have hlen := played_ne_zero hvne (awayViews df team)
    rw [Nat.cast_add] at hlen
    rw [weighted_ratio ρ team hvne hwne hcomplete hgv hgw] at hratio
    exact ⟨hgv, hgw, (weighted_ratio_eq_pooled_iff hgv hgw hpos.ne' hlen).mp
      (ExactFloat.fin.inj hratio)⟩
  · rintro ⟨hgv, hgw, hagree⟩
    have hvne := ne_nil_of_total hgv
    have hwne := ne_nil_of_total hgw
    have hlen := played_ne_zero hvne (awayViews df team)
    have hgoals := average_eq ρ.goals hc hvne hwne .overall
    have hshots := average_eq ρ.shots hc hvne hwne .overall
    rw [hviews, total_append, List.length_append] at hgoals hshots
    rw [weighted_ratio ρ team hvne hwne hcomplete hgv hgw,
      (weighted_ratio_eq_pooled_iff hgv hgw hpos.ne' (by rwa [Nat.cast_add] at hlen)).mpr hagree,
      hgoals, hshots, ExactFloat.fin_mul_fin, div_mul_div_cancel₀ hpos.ne']
    exact ⟨rfl, rfl⟩

/-! ### All tables -/

def ratios : List Ratio := [.toScore, .toConcede]

/-- Both ratios are exact in every row, of every table, that has matches behind it. -/
def RatiosExact (R : Runtime) (s : SeasonSummary) : Prop :=
  ∀ v : Venue, ∃ t, s.calcMainTables R v.label = .ok (some t) ∧
    ∀ row ∈ t, 0 < row.played → ∀ ρ ∈ ratios,
      ρ.Exact (v.views s.data row.team) row.toTeamRecord

def RatiosSurvive (data : List Match) : Prop :=
  ∀ team, Occurs data team → ∀ ρ ∈ ratios, ρ.Survives data team

lemma played_pos_of_occurs {df : List Match} {team : String} (ht : Occurs df team) :
    0 < (Venue.overall.record df team).played := by
  rw [played_eq, List.length_pos_iff]
  change homeViews df team ++ awayViews df team ≠ []
  obtain ⟨m, hm, hteam | hteam⟩ := ht
  · exact List.append_ne_nil_of_left_ne_nil (homeViews_ne_nil_iff.mpr ⟨m, hm, hteam⟩) _
  · exact List.append_ne_nil_of_right_ne_nil _ (awayViews_ne_nil_iff.mpr ⟨m, hm, hteam⟩)

lemma exact_record {df : List Match} (hc : NoMissingCells df) (hr : RatiosSurvive df)
    (v : Venue) {team : String} (ht : Occurs df team) (hp : 0 < (v.record df team).played)
    {ρ : Ratio} (hρ : ρ ∈ ratios) : ρ.Exact (v.views df team) (v.record df team) := by
  have hcomplete := complete_of_mem_views hc v team
  rw [played_eq, List.length_pos_iff] at hp
  cases v with
  | home =>
    change ρ.Exact (homeViews df team) (homeRecord df team)
    rw [homeRecord_eq]
    exact exact_recordOf ρ team hcomplete hp
  | away =>
    change ρ.Exact (awayViews df team) (awayRecord df team)
    rw [awayRecord_eq]
    exact exact_recordOf ρ team hcomplete hp
  | overall => exact (exact_overall_iff ρ hc team).mpr (hr team ht ρ hρ)

/-- The ratios of the home and the away table are always exact, those of the overall table
exactly when they survive the averaging for every team. -/
theorem ratiosExact_iff (R : Runtime) (s : SeasonSummary) (hc : NoMissingCells s.data) :
    RatiosExact R s ↔ RatiosSurvive s.data := by
  constructor
  · intro h team ht ρ hρ
    obtain ⟨t, htable, hrows⟩ := h .overall
    rw [calcMainTables_eq] at htable
    obtain rfl := Option.some.inj (Except.ok.inj htable)
    have hrow := hrows (rowOf R s .overall team) (mem_table.mpr ⟨team, ht, rfl⟩)
      (played_pos_of_occurs ht) ρ hρ
    rw [rowOf_team] at hrow
    exact (exact_overall_iff ρ hc team).mp hrow
  · intro h v
    refine ⟨table R s v, calcMainTables_eq R s v, ?_⟩
    intro row hrow hp ρ hρ
    obtain ⟨team, ht, rfl⟩ := mem_table.mp hrow
    rw [rowOf_team]
    exact exact_record hc h v ht hp hρ

/-- Two matches with the same score, one at each ground. -/
def twoMatches (fthg ftag : ℕ) : SeasonSummary :=
  .init [fixture "Arsenal" "Chelsea" fthg ftag, fixture "Chelsea" "Arsenal" fthg ftag] "20-21"

lemma complete_twoMatches (fthg ftag : ℕ) : NoMissingCells (twoMatches fthg ftag).data :=
  forall_mem_init (by simp [complete_fixture])

/-- With three shots for every goal, at home and away, the ratios survive. -/
theorem ratiosExact_twoMatches : RatiosExact firstSeen (twoMatches 4 3) :=
  (ratiosExact_iff firstSeen (twoMatches 4 3) (complete_twoMatches 4 3)).mpr
    (forall_occurs_iff.mpr (by decide +kernel))

/-- Arsenal scores 2 goals from 12 shots at home and 1 goal from 9 shots away, 3 goals from 21
shots in all, and the overall table has 15 / 2. -/
theorem not_ratiosExact_twoMatches :
    NoMissingCells (twoMatches 2 1).data ∧ ¬ RatiosExact firstSeen (twoMatches 2 1) := by
  refine ⟨complete_twoMatches 2 1, fun h => ?_⟩
  obtain ⟨t, htable, hrows⟩ := h .overall
  rw [calcMainTables_eq] at htable
  obtain rfl := Option.some.inj (Except.ok.inj htable)
  have hrow := hrows (rowOf firstSeen (twoMatches 2 1) .overall "Arsenal")
    (mem_table.mpr ⟨"Arsenal", by decide, rfl⟩) (by decide +kernel) .toScore List.mem_cons_self
    (by decide +kernel)
  have hratio : (rowOf firstSeen (twoMatches 2 1) .overall "Arsenal").shotsToScoreAGoal =
      .fin (15 / 2) := by decide +kernel
  have htotal : total (·.shotsFor) (Venue.overall.views (twoMatches 2 1).data "Arsenal") /
      total (·.goalsFor) (Venue.overall.views (twoMatches 2 1).data "Arsenal") = 7 := by
    decide +kernel
  have hexact := hratio.symm.trans hrow.1
  rw [rowOf_team] at hexact
  exact absurd ((ExactFloat.fin.inj hexact).trans htotal) (by decide +kernel)

end PremierLeague.Proofs
