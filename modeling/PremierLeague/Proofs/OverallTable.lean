import PremierLeague.Proofs.Views

/-!
# The overall table

The overall table is assembled from the home and the away table, never counted. Its rows are
nevertheless the direct counts over all matches of a team, and its per-match averages are the
plain means over these matches for every team that has played at both venues.
-/

namespace PremierLeague.Proofs

open Tabular SeasonSummary

/-! ### Counts -/

lemma hasScore_of_mem_views {df : List Match} (hs : NoMissingScores df) (v : Venue)
    (team : String) : ∀ u ∈ v.views df team, u.HasScore :=
  forall_mem_views (P := View.HasScore) hs (fun m hm => (hs m hm).symm) v team

lemma length_eq_outcomes {vs : List View} (h : ∀ u ∈ vs, u.HasScore) :
    vs.length = vs.countP View.won + vs.countP View.draw + vs.countP View.lost := by
  induction vs with
  | nil => rfl
  | cons u vs ih =>
    have ih := ih (fun w hw => h w (List.mem_cons_of_mem u hw))
    simp only [List.length_cons, List.countP_cons]
    rcases View.outcome_unique (h u List.mem_cons_self) with hu | hu | hu
    · simp only [hu.1, hu.2.1, hu.2.2, if_true, Bool.false_eq_true, if_false]
      omega
    · simp only [hu.1, hu.2.1, hu.2.2, if_true, Bool.false_eq_true, if_false]
      omega
    · simp only [hu.1, hu.2.1, hu.2.2, if_true, Bool.false_eq_true, if_false]
      omega

/-- What holds in every row of every table. -/
structure Balanced (r : TeamRecord) : Prop where
  played : r.played = r.won + r.draw + r.lost
  gd : r.gd = r.goalsScored - r.goalsConceded
  points_le : r.points ≤ 3 * r.played
  points_ne : (r.points : ℤ) ≠ 3 * r.played - 1

lemma balanced_recordOf (team : String) {vs : List View} (h : ∀ u ∈ vs, u.HasScore) :
    Balanced (recordOf team vs) := by
  have hlen := length_eq_outcomes h
  refine ⟨hlen, rfl, ?_, ?_⟩
  · simp only [recordOf]
    omega
  · simp only [recordOf]
    omega

lemma balanced_of_standing {r r' : TeamRecord} (h : standing r = standing r')
    (hr : Balanced r') : Balanced r := by
  simp only [standing, Standing.mk.injEq] at h
  obtain ⟨hp, hw, hd, hl, hs, hc, hg, hpt, -⟩ := h
  constructor
  · rw [hp, hw, hd, hl, hr.played]
  · rw [hg, hs, hc, hr.gd]
  · rw [hpt, hp]
    exact hr.points_le
  · rw [hpt, hp]
    exact hr.points_ne

lemma balanced_record {df : List Match} (hs : NoMissingScores df) (v : Venue) (team : String) :
    Balanced (v.record df team) :=
  balanced_of_standing (standing_record v df team)
    (balanced_recordOf team (hasScore_of_mem_views hs v team))

/-- The overall row of a team is the direct count over all its matches, and the rows of all
three tables are balanced. -/
theorem overall_row_direct_count (R : Runtime) (s : SeasonSummary) (hd : DistinctSides s.data)
    (hs : NoMissingScores s.data) :
    (∃ t, s.calcMainTables R "overall" = .ok (some t) ∧
      ∀ team, Occurs s.data team → ∃ row, loc t team = .ok row ∧
        standing row.toTeamRecord = directStanding s.data team) ∧
    ∀ v : Venue, ∃ t, s.calcMainTables R v.label = .ok (some t) ∧
      ∀ row ∈ t, Balanced row.toTeamRecord := by
  constructor
  · refine ⟨table R s .overall, calcMainTables_eq R s .overall, ?_⟩
    intro team hteam
    exact ⟨rowOf R s .overall team, loc_table .overall hteam, standing_overall hd team⟩
  · intro v
    refine ⟨table R s v, calcMainTables_eq R s v, ?_⟩
    intro row hrow
    obtain ⟨team, _, rfl⟩ := mem_table.mp hrow
    exact balanced_record hs v team

/-- A match of the season 20-21 with the given score. -/
def fixture (home away : String) (fthg ftag : ℕ) : Match where
  season := "20-21"
  HomeTeam := home
  AwayTeam := away
  FTHG := some fthg
  FTAG := some ftag
  FTR := some (if ftag < fthg then "H" else if fthg = ftag then "D" else "A")
  HTHG := some 0
  HTAG := some 0
  HS := some 12
  AS := some 9
  HST := some 5
  AST := some 3
  HC := some 6
  AC := some 4
  HF := some 10
  AF := some 11
  HY := some 1
  AY := some 2
  HR := some 0
  AR := some 1
  PSH := some 2
  PSD := some 3
  PSA := some 4
  B365H := some 2
  B365D := some 3
  B365A := some 4

/-- A season in progress. -/
def openSeason : SeasonSummary := .init [fixture "Arsenal" "Chelsea" 2 1,
  fixture "Chelsea" "Arsenal" 0 0, fixture "Arsenal" "Leeds" 1 3] "20-21"

theorem overall_row_direct_count_openSeason :
    ∃ t row, openSeason.calcMainTables firstSeen "overall" = .ok (some t) ∧
      loc t "Arsenal" = .ok row ∧ row.played = 3 ∧ row.points = 4 ∧ row.gd = -1 := by
  obtain ⟨⟨t, ht, hrow⟩, -⟩ :=
    overall_row_direct_count firstSeen openSeason (by decide) (by decide)
  obtain ⟨row, hloc, hst⟩ := hrow "Arsenal" ⟨_, List.mem_cons_self, Or.inl rfl⟩
  have hval : directStanding openSeason.data "Arsenal" =
      ⟨3, 1, 1, 1, 3, 4, -1, 4, 1⟩ := by decide +kernel
  rw [hval] at hst
  exact ⟨t, row, ht, hloc, congrArg Standing.played hst, congrArg Standing.points hst,
    congrArg Standing.gd hst⟩

/-! ### Averages -/

namespace View

structure Complete (u : View) : Prop where
  goalsFor : u.goalsFor.isSome
  goalsAgainst : u.goalsAgainst.isSome
  cornersFor : u.cornersFor.isSome
  cornersAgainst : u.cornersAgainst.isSome
  shotsFor : u.shotsFor.isSome
  shotsAgainst : u.shotsAgainst.isSome
  yellowCards : u.yellowCards.isSome
  redCards : u.redCards.isSome
  foulsFor : u.foulsFor.isSome
  foulsAgainst : u.foulsAgainst.isSome

end View

lemma complete_homeView {m : Match} (h : m.Complete) : (homeView m).Complete :=
  ⟨h.FTHG, h.FTAG, h.HC, h.AC, h.HS, h.AS, h.HY, h.HR, h.HF, h.AF⟩

lemma complete_awayView {m : Match} (h : m.Complete) : (awayView m).Complete :=
  ⟨h.FTAG, h.FTHG, h.AC, h.HC, h.AS, h.HS, h.AY, h.AR, h.AF, h.HF⟩

/-- The mean of a statistic over all matches of a team, from the side it takes in each. -/
def meanOver (df : List Match) (team : String) (f : View → Cell) : ExactFloat :=
  let views := df.flatMap (sidesOf team)
  .fin ((views.map (fun u => (f u).val)).sum / views.length)

/-- A per-match average of a record: the mean of a statistic over the views of a venue, and the
weighted average of the two venues in the overall record. -/
structure Average where
  field : TeamRecord → ExactFloat
  stat : View → Cell
  isSome_stat : ∀ u : View, u.Complete → (stat u).isSome
  field_recordOf : ∀ team us, field (recordOf team us) = Series.mean (us.map stat)
  field_overall : ∀ team home away,
    field (overallRecord team home away) = weighted field home away

namespace Average

def goalsScored : Average :=
  ⟨(·.goalsScoredPg), (·.goalsFor), fun _ h => h.goalsFor, fun _ _ => rfl, fun _ _ _ => rfl⟩

def goalsConceded : Average :=
  ⟨(·.goalsConcededPg), (·.goalsAgainst), fun _ h => h.goalsAgainst, fun _ _ => rfl,
    fun _ _ _ => rfl⟩

def cornersFor : Average :=
  ⟨(·.cornersFor), (·.cornersFor), fun _ h => h.cornersFor, fun _ _ => rfl, fun _ _ _ => rfl⟩

def cornersAgainst : Average :=
  ⟨(·.cornersAgainst), (·.cornersAgainst), fun _ h => h.cornersAgainst, fun _ _ => rfl,
    fun _ _ _ => rfl⟩

def shotsMade : Average :=
  ⟨(·.shotsMade), (·.shotsFor), fun _ h => h.shotsFor, fun _ _ => rfl, fun _ _ _ => rfl⟩

def shotsAllowed : Average :=
  ⟨(·.shotsAllowed), (·.shotsAgainst), fun _ h => h.shotsAgainst, fun _ _ => rfl,
    fun _ _ _ => rfl⟩

def yellowCards : Average :=
  ⟨(·.yellowCards), (·.yellowCards), fun _ h => h.yellowCards, fun _ _ => rfl, fun _ _ _ => rfl⟩

def foulsCommited : Average :=
  ⟨(·.foulsCommited), (·.foulsFor), fun _ h => h.foulsFor, fun _ _ => rfl, fun _ _ _ => rfl⟩

def foulsSuffered : Average :=
  ⟨(·.foulsSuffered), (·.foulsAgainst), fun _ h => h.foulsAgainst, fun _ _ => rfl,
    fun _ _ _ => rfl⟩

end Average

lemma homeViews_ne_nil_iff {df : List Match} {team : String} :
    homeViews df team ≠ [] ↔ ∃ m ∈ df, m.HomeTeam = team := by
  unfold homeViews
  rw [ne_eq, List.map_eq_nil_iff, List.filter_eq_nil_iff]
  simp

lemma awayViews_ne_nil_iff {df : List Match} {team : String} :
    awayViews df team ≠ [] ↔ ∃ m ∈ df, m.AwayTeam = team := by
  unfold awayViews
  rw [ne_eq, List.map_eq_nil_iff, List.filter_eq_nil_iff]
  simp

lemma complete_of_mem_views {df : List Match} (hc : NoMissingCells df) (v : Venue)
    (team : String) : ∀ u ∈ v.views df team, u.Complete :=
  forall_mem_views (fun m hm => complete_homeView (hc m hm))
    (fun m hm => complete_awayView (hc m hm)) v team

/-- The total of a statistic over the views of a team. -/
def total (f : View → Cell) (us : List View) : ℚ := Series.sum (us.map f)

lemma total_append (f : View → Cell) (vs ws : List View) :
    total f (vs ++ ws) = total f vs + total f ws := by
  unfold total
  rw [List.map_append, Series.sum_append]

lemma total_eq_sum (f : View → Cell) (us : List View) :
    total f us = (us.map (fun u => (f u).val)).sum :=
  Series.sum_map f us

lemma mean_eq_total_div (a : Average) {us : List View} (hne : us ≠ [])
    (hc : ∀ u ∈ us, u.Complete) :
    Series.mean (us.map a.stat) = .fin (total a.stat us / us.length) := by
  rw [Series.mean_map hne (fun u hu => a.isSome_stat u (hc u hu)), total_eq_sum]

lemma played_ne_zero {vs : List View} (hv : vs ≠ []) (ws : List View) :
    ((vs.length + ws.length : ℕ) : ℚ) ≠ 0 := by
  have hlen : 0 < vs.length := List.length_pos_iff.mpr hv
  exact_mod_cast (by omega : vs.length + ws.length ≠ 0)

/-- The mean of two venue means, weighted by the matches played, is the mean over all the
matches. -/
theorem weighted_mean (a : Average) (team : String) {vs ws : List View} (hv : vs ≠ [])
    (hw : ws ≠ []) (hc : ∀ u ∈ vs ++ ws, u.Complete) :
    weighted a.field (recordOf team vs) (recordOf team ws) =
      .fin (total a.stat (vs ++ ws) / (vs ++ ws).length) := by
  have hvpos : (vs.length : ℚ) ≠ 0 := by simpa using hv
  have hwpos : (ws.length : ℚ) ≠ 0 := by simpa using hw
  have hmv := mean_eq_total_div a hv (fun u hu => hc u (List.mem_append_left ws hu))
  have hmw := mean_eq_total_div a hw (fun u hu => hc u (List.mem_append_right vs hu))
  unfold weighted
  rw [a.field_recordOf, a.field_recordOf, hmv, hmw]
  simp only [recordOf, ExactFloat.fin_mul_fin, ExactFloat.fin_add_fin]
  rw [ExactFloat.fin_div_fin_of_ne _ (played_ne_zero hv ws), div_mul_cancel₀ _ hvpos,
    div_mul_cancel₀ _ hwpos, total_append, List.length_append]

/-- In each table, a per-match average of a team with matches at both venues is the total of
the statistic divided by the number of matches. -/
theorem average_eq (a : Average) {df : List Match} (hc : NoMissingCells df) {team : String}
    (hh : homeViews df team ≠ []) (ha : awayViews df team ≠ []) (v : Venue) :
    a.field (v.record df team) =
      .fin (total a.stat (v.views df team) / (v.views df team).length) := by
  have hcomplete := complete_of_mem_views hc v team
  cases v with
  | home =>
    change a.field (homeRecord df team) = _
    rw [homeRecord_eq, a.field_recordOf]
    exact mean_eq_total_div a hh hcomplete
  | away =>
    change a.field (awayRecord df team) = _
    rw [awayRecord_eq, a.field_recordOf]
    exact mean_eq_total_div a ha hcomplete
  | overall =>
    change a.field (overallRecord team (homeRecord df team) (awayRecord df team)) = _
    rw [a.field_overall, homeRecord_eq, awayRecord_eq]
    exact weighted_mean a team hh ha hcomplete

/-- In the overall record of a team with matches at both venues, a per-match average is the mean
over all matches of the team. -/
theorem average_overall_eq_meanOver (a : Average) {df : List Match} (hc : NoMissingCells df)
    {team : String} (hh : homeViews df team ≠ []) (ha : awayViews df team ≠ []) :
    a.field (Venue.overall.record df team) = meanOver df team a.stat := by
  have hperm := flatMap_sidesOf_perm df team
  rw [average_eq a hc hh ha, total_eq_sum]
  change ExactFloat.fin (((homeViews df team ++ awayViews df team).map _).sum / _) = _
  rw [← (hperm.map (fun u => (a.stat u).val)).sum_eq]
  change ExactFloat.fin (_ / ((homeViews df team ++ awayViews df team).length : ℚ)) = _
  rw [← hperm.length_eq]
  rfl

/-- The per-match averages of the overall row are the means over all matches of the team. -/
theorem overall_averages_pooled (R : Runtime) (s : SeasonSummary) (hc : NoMissingCells s.data)
    (team : String) (hh : ∃ m ∈ s.data, m.HomeTeam = team)
    (ha : ∃ m ∈ s.data, m.AwayTeam = team) :
    ∃ t row, s.calcMainTables R "overall" = .ok (some t) ∧ loc t team = .ok row ∧
      row.goalsScoredPg = meanOver s.data team (·.goalsFor) ∧
      row.goalsConcededPg = meanOver s.data team (·.goalsAgainst) ∧
      row.cornersFor = meanOver s.data team (·.cornersFor) ∧
      row.cornersAgainst = meanOver s.data team (·.cornersAgainst) ∧
      row.shotsMade = meanOver s.data team (·.shotsFor) ∧
      row.shotsAllowed = meanOver s.data team (·.shotsAgainst) ∧
      row.yellowCards = meanOver s.data team (·.yellowCards) ∧
      row.foulsCommited = meanOver s.data team (·.foulsFor) ∧
      row.foulsSuffered = meanOver s.data team (·.foulsAgainst) := by
  have hocc : Occurs s.data team := by
    obtain ⟨m, hm, hteam⟩ := hh
    exact ⟨m, hm, Or.inl hteam⟩
  refine ⟨table R s .overall, rowOf R s .overall team, calcMainTables_eq R s .overall,
    loc_table .overall hocc, ?_⟩
  have hmean := fun a => average_overall_eq_meanOver a hc (homeViews_ne_nil_iff.mpr hh)
    (awayViews_ne_nil_iff.mpr ha)
  exact ⟨hmean .goalsScored, hmean .goalsConceded, hmean .cornersFor, hmean .cornersAgainst,
    hmean .shotsMade, hmean .shotsAllowed, hmean .yellowCards, hmean .foulsCommited,
    hmean .foulsSuffered⟩

lemma complete_fixture (home away : String) (fthg ftag : ℕ) :
    (fixture home away fthg ftag).Complete := by
  constructor <;> rfl

lemma complete_openSeason : NoMissingCells openSeason.data :=
  forall_mem_init (by simp [complete_fixture])

theorem overall_averages_pooled_openSeason :
    ∃ t row, openSeason.calcMainTables firstSeen "overall" = .ok (some t) ∧
      loc t "Arsenal" = .ok row ∧ row.goalsConcededPg = .fin (4 / 3) ∧
      row.cornersFor = .fin (16 / 3) := by
  obtain ⟨t, row, ht, hloc, -, hgc, hcf, -⟩ := overall_averages_pooled firstSeen openSeason
    complete_openSeason "Arsenal" (by decide +kernel) (by decide +kernel)
  refine ⟨t, row, ht, hloc, ?_, ?_⟩
  · rw [hgc]
    decide +kernel
  · rw [hcf]
    decide +kernel

end PremierLeague.Proofs
