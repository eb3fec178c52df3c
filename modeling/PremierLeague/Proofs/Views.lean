import PremierLeague.Proofs.Tables

/-!
# Matches seen from a team's side

A view is a match as one of its two teams sees it. The home and the away loop compute one and
the same record, `recordOf`, from the home views and the away views of a team. The abstract
model of the overall table is that record over the views of all matches of the team; the
overall loop agrees with it in everything that is counted or summed, and in the per-match
averages of teams that have played at both venues.
-/

namespace PremierLeague.Proofs

open Tabular SeasonSummary

/-- A match from the side of one team. -/
structure View where
  goalsFor : Cell
  goalsAgainst : Cell
  cornersFor : Cell
  cornersAgainst : Cell
  shotsFor : Cell
  shotsAgainst : Cell
  yellowCards : Cell
  redCards : Cell
  foulsFor : Cell
  foulsAgainst : Cell

def homeView (m : Match) : View where
  goalsFor := m.FTHG
  goalsAgainst := m.FTAG
  cornersFor := m.HC
  cornersAgainst := m.AC
  shotsFor := m.HS
  shotsAgainst := m.AS
  yellowCards := m.HY
  redCards := m.HR
  foulsFor := m.HF
  foulsAgainst := m.AF

def awayView (m : Match) : View where
  goalsFor := m.FTAG
  goalsAgainst := m.FTHG
  cornersFor := m.AC
  cornersAgainst := m.HC
  shotsFor := m.AS
  shotsAgainst := m.HS
  yellowCards := m.AY
  redCards := m.AR
  foulsFor := m.AF
  foulsAgainst := m.HF

namespace View

def won (v : View) : Bool := Cell.lt v.goalsAgainst v.goalsFor
def draw (v : View) : Bool := Cell.eq v.goalsFor v.goalsAgainst
def lost (v : View) : Bool := Cell.lt v.goalsFor v.goalsAgainst

def HasScore (v : View) : Prop := v.goalsFor.isSome ∧ v.goalsAgainst.isSome

/-- A match with a score has exactly one outcome. -/
lemma outcome_unique {v : View} (h : v.HasScore) :
    (v.won = true ∧ v.draw = false ∧ v.lost = false) ∨
      (v.won = false ∧ v.draw = true ∧ v.lost = false) ∨
      (v.won = false ∧ v.draw = false ∧ v.lost = true) := by
  obtain ⟨x, hx⟩ := Option.isSome_iff_exists.mp h.1
  obtain ⟨y, hy⟩ := Option.isSome_iff_exists.mp h.2
  unfold won draw lost
  rw [hx, hy]
  rcases lt_trichotomy x y with hxy | hxy | hxy
  · simp [Cell.lt, Cell.eq, hxy, hxy.ne, hxy.le]
  · simp [Cell.lt, Cell.eq, hxy]
  · simp [Cell.lt, Cell.eq, hxy, hxy.ne', hxy.le]

end View

/-- The record of a team over a list of its views. -/
def recordOf (team : String) (vs : List View) : TeamRecord where
  team := team
  played := vs.length
  won := vs.countP View.won
  draw := vs.countP View.draw
  lost := vs.countP View.lost
  goalsScored := Series.sum (vs.map (·.goalsFor))
  goalsConceded := Series.sum (vs.map (·.goalsAgainst))
  gd := Series.sum (vs.map (·.goalsFor)) - Series.sum (vs.map (·.goalsAgainst))
  points := vs.countP View.won * 3 + vs.countP View.draw
  goalsScoredPg := Series.mean (vs.map (·.goalsFor))
  goalsConcededPg := Series.mean (vs.map (·.goalsAgainst))
  cornersFor := Series.mean (vs.map (·.cornersFor))
  cornersAgainst := Series.mean (vs.map (·.cornersAgainst))
  shotsMade := Series.mean (vs.map (·.shotsFor))
  shotsAllowed := Series.mean (vs.map (·.shotsAgainst))
  shotsToScoreAGoal := Series.mean (vs.map (·.shotsFor)) / Series.mean (vs.map (·.goalsFor))
  shotsToConcedeAGoal :=
    Series.mean (vs.map (·.shotsAgainst)) / Series.mean (vs.map (·.goalsAgainst))
  yellowCards := Series.mean (vs.map (·.yellowCards))
  redCardsTotal := Series.sum (vs.map (·.redCards))
  foulsCommited := Series.mean (vs.map (·.foulsFor))
  foulsSuffered := Series.mean (vs.map (·.foulsAgainst))

def homeViews (df : List Match) (team : String) : List View :=
  (df.filter (fun m => m.HomeTeam == team)).map homeView

def awayViews (df : List Match) (team : String) : List View :=
  (df.filter (fun m => m.AwayTeam == team)).map awayView

theorem homeRecord_eq (df : List Match) (team : String) :
    homeRecord df team = recordOf team (homeViews df team) := by
  simp only [homeRecord, recordOf, homeViews, List.map_map, List.length_map, List.countP_map,
    ← List.countP_eq_length_filter]
  rfl

theorem awayRecord_eq (df : List Match) (team : String) :
    awayRecord df team = recordOf team (awayViews df team) := by
  have hdraw : (View.draw ∘ awayView) = fun m => Cell.eq m.FTHG m.FTAG := by
    funext m
    exact Cell.eq_comm _ _
  simp only [awayRecord, recordOf, awayViews, List.map_map, List.length_map, List.countP_map,
    ← List.countP_eq_length_filter, hdraw]
  rfl

theorem recordOf_perm (team : String) {vs ws : List View} (h : vs.Perm ws) :
    recordOf team vs = recordOf team ws := by
  have hs : ∀ f : View → Cell, Series.sum (vs.map f) = Series.sum (ws.map f) :=
    fun f => Series.sum_perm (h.map f)
  have hm : ∀ f : View → Cell, Series.mean (vs.map f) = Series.mean (ws.map f) :=
    fun f => Series.mean_perm (h.map f)
  unfold recordOf
  simp only [hs, hm, h.length_eq, h.countP_eq]

/-! ### Scores -/

/-- The number of goals in a cell. -/
def goalsIn (c : Cell) : ℕ := c.val.num.toNat

lemma some_goalsIn {c : Cell} (h : c.IsCount) : some (goalsIn c : ℚ) = c := by
  obtain ⟨n, rfl⟩ := h
  simp [goalsIn]

/-- The score of a match, home goals first. -/
def scoreOf (m : Match) : ℕ × ℕ := (goalsIn m.FTHG, goalsIn m.FTAG)

/-- The text of a score. -/
def scoreText (score : ℕ × ℕ) : String := toString score.1 ++ "-" ++ toString score.2

/-! ### The direct count -/

/-- What is counted and summed in a record. -/
structure Standing where
  played : ℕ
  won : ℕ
  draw : ℕ
  lost : ℕ
  goalsScored : ℚ
  goalsConceded : ℚ
  gd : ℚ
  points : ℕ
  redCardsTotal : ℚ
deriving DecidableEq

def standing (r : TeamRecord) : Standing where
  played := r.played
  won := r.won
  draw := r.draw
  lost := r.lost
  goalsScored := r.goalsScored
  goalsConceded := r.goalsConceded
  gd := r.gd
  points := r.points
  redCardsTotal := r.redCardsTotal

def matchesOf (df : List Match) (team : String) : List Match :=
  involving (·.HomeTeam) (·.AwayTeam) team df

def viewOf (team : String) : Match → View := side (·.HomeTeam) team homeView awayView

/-- The standing counted directly over all matches of a team. -/
def directStanding (df : List Match) (team : String) : Standing :=
  let ms := matchesOf df team
  let own := viewOf team
  { played := ms.length
    won := ms.countP (fun m => (own m).won)
    draw := ms.countP (fun m => (own m).draw)
    lost := ms.countP (fun m => (own m).lost)
    goalsScored := Series.sum (ms.map (fun m => (own m).goalsFor))
    goalsConceded := Series.sum (ms.map (fun m => (own m).goalsAgainst))
    gd := Series.sum (ms.map (fun m => (own m).goalsFor)) -
      Series.sum (ms.map (fun m => (own m).goalsAgainst))
    points := 3 * ms.countP (fun m => (own m).won) + ms.countP (fun m => (own m).draw)
    redCardsTotal := Series.sum (ms.map (fun m => (own m).redCards)) }

def viewsOf (df : List Match) (team : String) : List View := (matchesOf df team).map (viewOf team)

lemma directStanding_eq (df : List Match) (team : String) :
    directStanding df team = standing (recordOf team (viewsOf df team)) := by
  unfold directStanding standing recordOf viewsOf
  simp only [List.length_map, List.countP_map, List.map_map, Nat.mul_comm 3]
  rfl

/-- What a team sees of a match: one view for each side it takes. -/
def sidesOf (team : String) : Match → List View :=
  sides (·.HomeTeam) (·.AwayTeam) team homeView awayView

theorem flatMap_sidesOf_perm (df : List Match) (team : String) :
    (df.flatMap (sidesOf team)).Perm (homeViews df team ++ awayViews df team) :=
  flatMap_sides_perm _ _ team df homeView awayView

lemma flatMap_sidesOf {df : List Match} (hd : DistinctSides df) (team : String) :
    df.flatMap (sidesOf team) = viewsOf df team :=
  flatMap_sides _ _ team hd homeView awayView

theorem viewsOf_perm {df : List Match} (hd : DistinctSides df) (team : String) :
    (viewsOf df team).Perm (homeViews df team ++ awayViews df team) := by
  rw [← flatMap_sidesOf hd]
  exact flatMap_sidesOf_perm df team

theorem standing_overallRecord (team : String) (vs ws : List View) :
    standing (overallRecord team (recordOf team vs) (recordOf team ws)) =
      standing (recordOf team (vs ++ ws)) := by
  unfold standing overallRecord recordOf
  simp only [List.length_append, List.countP_append, List.map_append, Series.sum_append,
    Standing.mk.injEq, true_and, and_true]
  ring

def Venue.views : Venue → List Match → String → List View
  | home, df, team => homeViews df team
  | away, df, team => awayViews df team
  | overall, df, team => homeViews df team ++ awayViews df team

/-- What holds of both sides of every match holds of every view. -/
lemma forall_mem_views {df : List Match} {P : View → Prop} (hhome : ∀ m ∈ df, P (homeView m))
    (haway : ∀ m ∈ df, P (awayView m)) (v : Venue) (team : String) :
    ∀ u ∈ v.views df team, P u := by
  have hh : ∀ u ∈ homeViews df team, P u := by
    intro u hu
    obtain ⟨m, hm, rfl⟩ := List.mem_map.mp hu
    exact hhome m (List.mem_filter.mp hm).1
  have ha : ∀ u ∈ awayViews df team, P u := by
    intro u hu
    obtain ⟨m, hm, rfl⟩ := List.mem_map.mp hu
    exact haway m (List.mem_filter.mp hm).1
  cases v with
  | home => exact hh
  | away => exact ha
  | overall =>
    intro u hu
    exact (List.mem_append.mp hu).elim (hh u) (ha u)

theorem standing_record (v : Venue) (df : List Match) (team : String) :
    standing (v.record df team) = standing (recordOf team (v.views df team)) := by
  cases v with
  | home => exact congrArg standing (homeRecord_eq df team)
  | away => exact congrArg standing (awayRecord_eq df team)
  | overall =>
    change standing (overallRecord team (homeRecord df team) (awayRecord df team)) = _
    rw [homeRecord_eq, awayRecord_eq, standing_overallRecord]
    rfl

lemma played_eq (v : Venue) (df : List Match) (team : String) :
    (v.record df team).played = (v.views df team).length :=
  congrArg Standing.played (standing_record v df team)

/-- The overall record counts every match of the team once. -/
theorem standing_overall {df : List Match} (hd : DistinctSides df) (team : String) :
    standing (Venue.overall.record df team) = directStanding df team := by
  rw [standing_record, directStanding_eq, recordOf_perm team (viewsOf_perm hd team)]
  rfl

end PremierLeague.Proofs
