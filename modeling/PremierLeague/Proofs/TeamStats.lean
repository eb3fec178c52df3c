import PremierLeague.Proofs.OverallTable
import PremierLeague.Library.Pooling
import PremierLeague.TeamStats

/-!
# The figures of a team

The three rows of a team are read from three tables. They agree with each other and with the
matches of the team: the Total row adds up the Home and the Away row, averages times matches are
totals, and sums of two averages are means of the per-match totals of both sides.
-/

namespace PremierLeague.Proofs

open Tabular SeasonSummary

/-! ### What is returned -/

section Column

variable {column : TeamRecord → ℚ} (R : Runtime) {s : SeasonSummary} {team : String}

theorem calcTeamStatsBy_eq (ht : Occurs s.data team) :
    s.calcTeamStatsBy column R team = .ok [statsRow "Total" (rowBy column R s .overall team),
      statsRow "Home" (rowBy column R s .home team),
      statsRow "Away" (rowBy column R s .away team)] := by
  have hoverall := @calcMainTablesBy_eq column R s .overall
  have hhome := @calcMainTablesBy_eq column R s .home
  have haway := @calcMainTablesBy_eq column R s .away
  unfold Venue.label at hoverall hhome haway
  unfold calcTeamStatsBy
  rw [hoverall, hhome, haway]
  have hrow : ∀ v : Venue, locResult (some (tableBy column R s v)) team =
      .ok (rowBy column R s v team) := fun v => loc_tableBy v ht
  simp only [ok_bind, List.mapM_cons, List.mapM_nil, hrow]
  rfl

lemma calcTeamStatsBy_of_not_occurs (ht : ¬ Occurs s.data team) :
    s.calcTeamStatsBy column R team = .error (.keyError team) := by
  have hoverall := @calcMainTablesBy_eq column R s .overall
  have hhome := @calcMainTablesBy_eq column R s .home
  have haway := @calcMainTablesBy_eq column R s .away
  unfold Venue.label at hoverall hhome haway
  have hloc : locResult (some (tableBy column R s .overall)) team = .error (.keyError team) :=
    loc_tableBy_of_not_occurs .overall ht
  unfold calcTeamStatsBy
  rw [hoverall, hhome, haway]
  simp only [ok_bind, List.mapM_cons, hloc]
  rfl

end Column

theorem calcTeamStats_eq (R : Runtime) {s : SeasonSummary} {team : String}
    (ht : Occurs s.data team) :
    s.calcTeamStats R team = .ok [statsRow "Total" (rowOf R s .overall team),
      statsRow "Home" (rowOf R s .home team), statsRow "Away" (rowOf R s .away team)] :=
  calcTeamStatsBy_eq R ht

lemma calcTeamStats_of_not_occurs (R : Runtime) {s : SeasonSummary} {team : String}
    (ht : ¬ Occurs s.data team) : s.calcTeamStats R team = .error (.keyError team) :=
  calcTeamStatsBy_of_not_occurs R ht

/-- The figures of a team are there exactly when it plays in the season. -/
lemma calcTeamStats_ok_iff (R : Runtime) {s : SeasonSummary} {team : String} :
    (∃ stats, s.calcTeamStats R team = .ok stats) ↔ Occurs s.data team := by
  constructor
  · rintro ⟨stats, hstats⟩
    by_contra ht
    rw [calcTeamStats_of_not_occurs R ht] at hstats
    exact nomatch hstats
  · intro ht
    exact ⟨_, calcTeamStats_eq R ht⟩

/-! ### Matches of a row -/

/-- The matches behind a row, in the overall row one for each side the team takes. -/
def Venue.matches : Venue → List Match → String → List Match
  | home, df, team => df.filter (fun m => m.HomeTeam == team)
  | away, df, team => df.filter (fun m => m.AwayTeam == team)
  | overall, df, team =>
    df.filter (fun m => m.HomeTeam == team) ++ df.filter (fun m => m.AwayTeam == team)

lemma length_views (v : Venue) (df : List Match) (team : String) :
    (v.views df team).length = (v.matches df team).length := by
  cases v with
  | home => exact List.length_map _
  | away => exact List.length_map _
  | overall =>
    change (homeViews df team ++ awayViews df team).length = _
    rw [List.length_append, homeViews, awayViews, List.length_map, List.length_map]
    exact List.length_append.symm

/-- When no team meets itself, these are the matches in which the team takes part. -/
lemma matchesOf_perm {df : List Match} (hd : DistinctSides df) (team : String) :
    (matchesOf df team).Perm (Venue.overall.matches df team) := by
  have hside : side Match.HomeTeam team id id = id := by
    funext m
    exact ite_self m
  have hflat := flatMap_sides Match.HomeTeam Match.AwayTeam team hd id id
  have hperm := flatMap_sides_perm Match.HomeTeam Match.AwayTeam team df id id
  rw [hflat, hside, List.map_id, List.map_id, List.map_id] at hperm
  exact hperm

/-- The mean over matches of the sum of a statistic of both sides. -/
def matchMean (ms : List Match) (h a : Match → Cell) : ExactFloat :=
  .fin ((ms.map (fun m => (h m).val + (a m).val)).sum / ms.length)

lemma matchMean_perm {ms ms' : List Match} (hp : ms.Perm ms') (h a : Match → Cell) :
    matchMean ms h a = matchMean ms' h a := by
  unfold matchMean
  rw [(hp.map _).sum_eq, hp.length_eq]

/-- Two averages that together show a statistic of both sides. -/
structure BothSides where
  own : Average
  other : Average
  h : Match → Cell
  a : Match → Cell
  own_home : ∀ m, own.stat (homeView m) = h m
  own_away : ∀ m, own.stat (awayView m) = a m
  other_home : ∀ m, other.stat (homeView m) = a m
  other_away : ∀ m, other.stat (awayView m) = h m

namespace BothSides

def goals : BothSides :=
  ⟨.goalsScored, .goalsConceded, (·.FTHG), (·.FTAG), fun _ => rfl, fun _ => rfl, fun _ => rfl,
    fun _ => rfl⟩

def corners : BothSides :=
  ⟨.cornersFor, .cornersAgainst, (·.HC), (·.AC), fun _ => rfl, fun _ => rfl, fun _ => rfl,
    fun _ => rfl⟩

def fouls : BothSides :=
  ⟨.foulsCommited, .foulsSuffered, (·.HF), (·.AF), fun _ => rfl, fun _ => rfl, fun _ => rfl,
    fun _ => rfl⟩

variable (b : BothSides)

lemma total_home (df : List Match) (team : String) :
    total b.own.stat (homeViews df team) + total b.other.stat (homeViews df team) =
      ((Venue.home.matches df team).map (fun m => (b.h m).val + (b.a m).val)).sum := by
  rw [total_eq_sum, total_eq_sum, ← List.sum_map_add, homeViews, List.map_map]
  congr 1
  apply List.map_congr_left
  intro m _
  rw [Function.comp_apply, b.own_home, b.other_home]

lemma total_away (df : List Match) (team : String) :
    total b.own.stat (awayViews df team) + total b.other.stat (awayViews df team) =
      ((Venue.away.matches df team).map (fun m => (b.h m).val + (b.a m).val)).sum := by
  rw [total_eq_sum, total_eq_sum, ← List.sum_map_add, awayViews, List.map_map]
  congr 1
  apply List.map_congr_left
  intro m _
  rw [Function.comp_apply, b.own_away, b.other_away, add_comm]

lemma total_views (v : Venue) (df : List Match) (team : String) :
    total b.own.stat (v.views df team) + total b.other.stat (v.views df team) =
      ((v.matches df team).map (fun m => (b.h m).val + (b.a m).val)).sum := by
  cases v with
  | home => exact b.total_home df team
  | away => exact b.total_away df team
  | overall =>
    change total _ (homeViews df team ++ awayViews df team) +
      total _ (homeViews df team ++ awayViews df team) = _
    rw [total_append, total_append, add_add_add_comm, b.total_home, b.total_away]
    change _ = ((Venue.home.matches df team ++ Venue.away.matches df team).map _).sum
    rw [List.map_append, List.sum_append]

/-- The two averages add up to the mean of the statistic of both sides. -/
lemma add_eq_matchMean {df : List Match} (hc : NoMissingCells df) {team : String}
    (hh : homeViews df team ≠ []) (ha : awayViews df team ≠ []) (v : Venue) :
    b.own.field (v.record df team) + b.other.field (v.record df team) =
      matchMean (v.matches df team) b.h b.a := by
  rw [average_eq b.own hc hh ha, average_eq b.other hc hh ha, ExactFloat.fin_add_fin,
    ← add_div, b.total_views, length_views]
  rfl

end BothSides

/-! ### Consistency -/

structure RowsAddUp (total home away : StatsRow) : Prop where
  mp : total.mp = home.mp + away.mp
  win : total.win = home.win + away.win
  draw : total.draw = home.draw + away.draw
  lost : total.lost = home.lost + away.lost
  gs : total.gs = home.gs + away.gs
  gc : total.gc = home.gc + away.gc
  totalGoals : total.totalGoals = home.totalGoals + away.totalGoals
  points : total.points = home.points + away.points

/-- The averages of a row times its matches are its totals. -/
structure AveragesScale (r : StatsRow) : Prop where
  totalGoals : r.avgGoals * .fin r.mp = .fin r.totalGoals
  gs : r.avgGs * .fin r.mp = .fin r.gs
  gc : r.avgGc * .fin r.mp = .fin r.gc
  points : r.avgPoints * .fin r.mp = .fin r.points

/-- The figures for both sides are means over the given matches. -/
structure MatchMeans (ms : List Match) (r : StatsRow) : Prop where
  mp : r.mp = ms.length
  avgGoals : r.avgGoals = matchMean ms (·.FTHG) (·.FTAG)
  cornersTotal : r.cornersTotal = matchMean ms (·.HC) (·.AC)
  foulsTotal : r.foulsTotal = matchMean ms (·.HF) (·.AF)

lemma MatchMeans.perm {ms ms' : List Match} {r : StatsRow} (h : MatchMeans ms r)
    (hp : ms.Perm ms') : MatchMeans ms' r := by
  constructor
  · rw [h.mp, hp.length_eq]
  · rw [h.avgGoals, matchMean_perm hp]
  · rw [h.cornersTotal, matchMean_perm hp]
  · rw [h.foulsTotal, matchMean_perm hp]

/-- The average points of the Total row lie between those of the Home and the Away row. -/
def PointsBetween (total home away : StatsRow) : Prop :=
  ∃ p q r : ℚ, home.avgPoints = .fin p ∧ away.avgPoints = .fin q ∧ total.avgPoints = .fin r ∧
    min p q ≤ r ∧ r ≤ max p q

lemma rowsAddUp (R : Runtime) (s : SeasonSummary) (team : String) :
    RowsAddUp (statsRow "Total" (rowOf R s .overall team)) (statsRow "Home" (rowOf R s .home team))
      (statsRow "Away" (rowOf R s .away team)) := by
  constructor
  · rfl
  · rfl
  · rfl
  · rfl
  · rfl
  · rfl
  · exact add_add_add_comm _ _ _ _
  · have hpoints : (Venue.overall.record s.data team).points =
        ((homeRecord s.data team).won + (awayRecord s.data team).won) * 3 +
          ((homeRecord s.data team).draw + (awayRecord s.data team).draw) := rfl
    have hhome : (homeRecord s.data team).points =
        (homeRecord s.data team).won * 3 + (homeRecord s.data team).draw := rfl
    have haway : (awayRecord s.data team).points =
        (awayRecord s.data team).won * 3 + (awayRecord s.data team).draw := rfl
    change (Venue.overall.record s.data team).points =
      (homeRecord s.data team).points + (awayRecord s.data team).points
    omega

section BothVenues

variable {s : SeasonSummary} (hc : NoMissingCells s.data) {team : String}
  (hh : homeViews s.data team ≠ []) (ha : awayViews s.data team ≠ [])

include hh ha

lemma played_pos (v : Venue) : 0 < (v.record s.data team).played := by
  rw [played_eq, List.length_pos_iff]
  cases v with
  | home => exact hh
  | away => exact ha
  | overall => exact List.append_ne_nil_of_left_ne_nil hh _

lemma avgPoints_eq (R : Runtime) (v : Venue) (category : String) :
    (statsRow category (rowOf R s v team)).avgPoints =
      .fin ((v.record s.data team).points / (v.record s.data team).played) := by
  have hp : ((v.record s.data team).played : ℚ) ≠ 0 :=
    Nat.cast_ne_zero.mpr (played_pos hh ha v).ne'
  exact ExactFloat.fin_div_fin_of_ne _ hp

lemma pointsBetween (R : Runtime) :
    PointsBetween (statsRow "Total" (rowOf R s .overall team))
      (statsRow "Home" (rowOf R s .home team)) (statsRow "Away" (rowOf R s .away team)) := by
  refine ⟨_, _, _, avgPoints_eq hh ha R .home "Home", avgPoints_eq hh ha R .away "Away",
    avgPoints_eq hh ha R .overall "Total", ?_⟩
  have hpoints : ((Venue.overall.record s.data team).points : ℚ) =
      (homeRecord s.data team).points + (awayRecord s.data team).points := by
    exact_mod_cast (rowsAddUp R s team).points
  have hplayed : ((Venue.overall.record s.data team).played : ℚ) =
      (homeRecord s.data team).played + (awayRecord s.data team).played := by
    exact_mod_cast (rowsAddUp R s team).mp
  have hhome : (0 : ℚ) < (homeRecord s.data team).played :=
    Nat.cast_pos.mpr (played_pos hh ha .home)
  have haway : (0 : ℚ) < (awayRecord s.data team).played :=
    Nat.cast_pos.mpr (played_pos hh ha .away)
  rw [hpoints, hplayed]
  exact ⟨min_le_pooled_mean hhome haway, pooled_mean_le_max hhome haway⟩

include hc

lemma averagesScale (R : Runtime) (v : Venue) (category : String) :
    AveragesScale (statsRow category (rowOf R s v team)) := by
  have hp : ((v.record s.data team).played : ℚ) ≠ 0 :=
    Nat.cast_ne_zero.mpr (played_pos hh ha v).ne'
  have hscale : ∀ a : Average, a.field (v.record s.data team) *
      .fin (v.record s.data team).played = .fin (total a.stat (v.views s.data team)) := by
    intro a
    rw [average_eq a hc hh ha, ← played_eq, ExactFloat.fin_mul_fin, div_mul_cancel₀ _ hp]
  have hscored : (v.record s.data team).goalsScored = total (·.goalsFor) (v.views s.data team) :=
    congrArg Standing.goalsScored (standing_record v s.data team)
  have hconceded : (v.record s.data team).goalsConceded =
      total (·.goalsAgainst) (v.views s.data team) :=
    congrArg Standing.goalsConceded (standing_record v s.data team)
  have hgs := (hscale .goalsScored).trans (congrArg ExactFloat.fin hscored.symm)
  have hgc := (hscale .goalsConceded).trans (congrArg ExactFloat.fin hconceded.symm)
  refine ⟨?_, hgs, hgc, ?_⟩
  · change (Average.goalsScored.field (v.record s.data team) +
      Average.goalsConceded.field (v.record s.data team)) * .fin (v.record s.data team).played =
        .fin ((v.record s.data team).goalsScored + (v.record s.data team).goalsConceded)
    rw [average_eq _ hc hh ha, average_eq _ hc hh ha, ExactFloat.fin_add_fin, ← add_div,
      ← played_eq, ExactFloat.fin_mul_fin, div_mul_cancel₀ _ hp, hscored, hconceded]
    rfl
  · rw [avgPoints_eq hh ha]
    change ExactFloat.fin _ * .fin ((v.record s.data team).played : ℚ) = _
    rw [ExactFloat.fin_mul_fin, div_mul_cancel₀ _ hp]
    rfl

lemma matchMeans (R : Runtime) (v : Venue) (category : String) :
    MatchMeans (v.matches s.data team) (statsRow category (rowOf R s v team)) := by
  constructor
  · exact (played_eq v s.data team).trans (length_views v s.data team)
  · exact BothSides.goals.add_eq_matchMean hc hh ha v
  · exact BothSides.corners.add_eq_matchMean hc hh ha v
  · exact BothSides.fouls.add_eq_matchMean hc hh ha v

end BothVenues

/-- The three rows of a team that has played at home and away agree with each other and with the
matches of the team. -/
theorem team_stats_consistent (R : Runtime) (s : SeasonSummary) (hc : NoMissingCells s.data)
    (team : String) (hh : ∃ m ∈ s.data, m.HomeTeam = team)
    (ha : ∃ m ∈ s.data, m.AwayTeam = team) :
    ∃ total home away, s.calcTeamStats R team = .ok [total, home, away] ∧
      total.category = "Total" ∧ home.category = "Home" ∧ away.category = "Away" ∧
      RowsAddUp total home away ∧
      AveragesScale total ∧ AveragesScale home ∧ AveragesScale away ∧
      MatchMeans (Venue.overall.matches s.data team) total ∧
      MatchMeans (Venue.home.matches s.data team) home ∧
      MatchMeans (Venue.away.matches s.data team) away ∧
      (DistinctSides s.data → MatchMeans (matchesOf s.data team) total) ∧
      PointsBetween total home away := by
  have hocc : Occurs s.data team := by
    obtain ⟨m, hm, hteam⟩ := hh
    exact ⟨m, hm, Or.inl hteam⟩
  have hhome := homeViews_ne_nil_iff.mpr hh
  have haway := awayViews_ne_nil_iff.mpr ha
  have hscale := averagesScale hc hhome haway R
  have hmeans := matchMeans hc hhome haway R
  refine ⟨_, _, _, calcTeamStats_eq R hocc, rfl, rfl, rfl, rowsAddUp R s team,
    hscale .overall _, hscale .home _, hscale .away _, hmeans .overall _, hmeans .home _,
    hmeans .away _, ?_, pointsBetween hhome haway R⟩
  intro hd
  exact (hmeans .overall "Total").perm (matchesOf_perm hd team).symm

theorem team_stats_consistent_openSeason :
    ∃ total home away, openSeason.calcTeamStats firstSeen "Arsenal" = .ok [total, home, away] ∧
      total.avgGoals = .fin (7 / 3) ∧ total.mp = home.mp + away.mp := by
  obtain ⟨total, home, away, hstats, -, -, -, hadd, -, -, -, hmeans, -⟩ :=
    team_stats_consistent firstSeen openSeason complete_openSeason "Arsenal" (by decide)
      (by decide)
  refine ⟨total, home, away, hstats, ?_, hadd.mp⟩
  rw [hmeans.avgGoals]
  decide +kernel

end PremierLeague.Proofs
