import PremierLeague.Library.Ledger
import PremierLeague.Proofs.PackedSums
import PremierLeague.Proofs.Ranking

/-!
# The league as it is played

The abstract league is a ledger of standings that is brought up to date match by match. The
tables are computed from all matches of a season at once; what they count and sum is this ledger
after the run of the season. One more match therefore changes the rows of its own teams only, and
by what it books for them.
-/

namespace PremierLeague.Proofs

open Tabular SeasonSummary

/-! ### Standings add up -/

namespace Standing

instance : Zero Standing := ⟨⟨0, 0, 0, 0, 0, 0, 0, 0, 0⟩⟩

instance : Add Standing where
  add a b :=
    { played := a.played + b.played
      won := a.won + b.won
      draw := a.draw + b.draw
      lost := a.lost + b.lost
      goalsScored := a.goalsScored + b.goalsScored
      goalsConceded := a.goalsConceded + b.goalsConceded
      gd := a.gd + b.gd
      points := a.points + b.points
      redCardsTotal := a.redCardsTotal + b.redCardsTotal }

lemma zero_def : (0 : Standing) = ⟨0, 0, 0, 0, 0, 0, 0, 0, 0⟩ := rfl

lemma add_def (a b : Standing) : a + b = ⟨a.played + b.played, a.won + b.won, a.draw + b.draw,
    a.lost + b.lost, a.goalsScored + b.goalsScored, a.goalsConceded + b.goalsConceded,
    a.gd + b.gd, a.points + b.points, a.redCardsTotal + b.redCardsTotal⟩ := rfl

instance : AddCommMonoid Standing where
  add_assoc a b c := by simp only [add_def, add_assoc]
  zero_add a := by simp only [zero_def, add_def, zero_add]
  add_zero a := by simp only [zero_def, add_def, add_zero]
  add_comm a b := by simp only [add_def, add_comm]
  nsmul := nsmulRec

/-- The column of the points. -/
def pointsHom : Standing →+ ℕ where
  toFun := points
  map_zero' := rfl
  map_add' _ _ := rfl

end Standing

/-! ### Matches are booked -/

/-- What one match is worth for the team that sees it. -/
def View.booked (u : View) : Standing where
  played := 1
  won := if u.won then 1 else 0
  draw := if u.draw then 1 else 0
  lost := if u.lost then 1 else 0
  goalsScored := u.goalsFor.val
  goalsConceded := u.goalsAgainst.val
  gd := u.goalsFor.val - u.goalsAgainst.val
  points := resultPoints u
  redCardsTotal := u.redCards.val

/-- What a match books for a team in the league of a venue. -/
def Venue.post (v : Venue) (m : Match) (team : String) : Standing :=
  ((v.sees team m).map View.booked).sum

/-- The league of a venue: the standing of every team. -/
abbrev League := String → Standing

/-- A match is played. -/
def Venue.play (v : Venue) : League → Match → League := Ledger.book v.post

/-- The league after a run of matches. -/
def Venue.league (v : Venue) (ms : List Match) : League := Ledger.run v.post 0 ms

/-- A record stands where its views have brought it. -/
lemma standing_recordOf (team : String) (us : List View) :
    standing (recordOf team us) = (us.map View.booked).sum := by
  unfold standing recordOf
  simp only [Series.sum_map]
  induction us with
  | nil => simp [Standing.zero_def]
  | cons u us ih =>
    have hcons : ((u :: us).map View.booked).sum = u.booked + (us.map View.booked).sum := by
      rw [List.map_cons, List.sum_cons]
    rw [hcons, ← ih]
    simp only [Standing.add_def, View.booked, resultPoints, List.length_cons, List.countP_cons,
      List.map_cons, List.sum_cons, Standing.mk.injEq, true_and, and_true]
    refine ⟨by omega, by omega, by omega, by omega, by ring, ?_⟩
    cases u.won <;> cases u.draw <;> simp <;> omega

theorem standing_eq_league (v : Venue) (df : List Match) (team : String) :
    standing (v.record df team) = v.league df team := by
  have hperm := (flatMap_sees_perm v df team).map View.booked
  unfold Venue.league
  rw [standing_record, standing_recordOf, Ledger.run_apply, Pi.zero_apply, zero_add,
    ← hperm.sum_eq, List.map_flatMap, List.flatMap_def, List.sum_flatten, List.map_map]
  rfl

/-- A match books nothing for other teams. -/
lemma post_of_not_side {m : Match} {team : String} (hh : m.HomeTeam ≠ team)
    (ha : m.AwayTeam ≠ team) (v : Venue) : v.post m team = 0 := by
  cases v <;> simp [Venue.post, Venue.sees, sidesOf, sides, hh, ha]

lemma league_of_not_occurs {df : List Match} {team : String} (h : ¬ Occurs df team) (v : Venue) :
    v.league df team = 0 := by
  apply Ledger.run_of_untouched
  intro m hm
  apply post_of_not_side
  · exact fun hh => h ⟨m, hm, Or.inl hh⟩
  · exact fun ha => h ⟨m, hm, Or.inr ha⟩

lemma league_append (v : Venue) (df more : List Match) :
    v.league (df ++ more) = Ledger.run v.post (v.league df) more :=
  Ledger.run_append v.post 0 df more

lemma occurs_append {df : List Match} {team : String} (h : Occurs df team) (more : List Match) :
    Occurs (df ++ more) team := by
  obtain ⟨m, hm, hside⟩ := h
  exact ⟨m, List.mem_append_left more hm, hside⟩

/-- The three tables show the league after all matches of the season. When one more match is
played, the table afterwards shows what this match has made of the league before. -/
theorem tables_refine_league (R : Runtime) (s : SeasonSummary) (v : Venue) :
    ∃ row, TableOf R s v row ∧
      (∀ team, Occurs s.data team → standing (row team).toTeamRecord = v.league s.data team) ∧
      (∀ team, ¬ Occurs s.data team → v.league s.data team = 0) ∧
      ∀ (R' : Runtime) (s' : SeasonSummary) (m : Match), s'.data = s.data ++ [m] →
        ∃ row', TableOf R' s' v row' ∧
          (∀ team, Occurs s'.data team → standing (row' team).toTeamRecord =
            v.play (v.league s.data) m team) ∧
          ∀ team, Occurs s.data team → m.HomeTeam ≠ team → m.AwayTeam ≠ team →
            standing (row' team).toTeamRecord = standing (row team).toTeamRecord := by
  have hrow : ∀ (R : Runtime) (s : SeasonSummary) (team : String),
      standing (rowOf R s v team).toTeamRecord = v.league s.data team := by
    intro R s team
    rw [rowOf_toTeamRecord, standing_eq_league]
  refine ⟨rowOf R s v, tableOf_rowOf R s v, fun team _ => hrow R s team,
    fun team h => league_of_not_occurs h v, ?_⟩
  intro R' s' m hs'
  have hplay : ∀ team, standing (rowOf R' s' v team).toTeamRecord =
      v.play (v.league s.data) m team := by
    intro team
    rw [hrow, hs', league_append]
    rfl
  refine ⟨rowOf R' s' v, tableOf_rowOf R' s' v, fun team _ => hplay team, ?_⟩
  intro team _ hh ha
  rw [hplay, hrow, Venue.play, Ledger.book, post_of_not_side hh ha, add_zero]

end PremierLeague.Proofs
