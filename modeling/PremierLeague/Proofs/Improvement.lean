import PremierLeague.Proofs.StoredTables
import PremierLeague.Proofs.TeamStats

/-!
# Improving one result

The packed criteria of a team are a sum over the matches it takes part in. More goals for one
side of a match raise the sum of that team, lower the sum of its opponent and leave all others
as they are, and as long as the column `rank_points` holds the sums of both teams, its cells move
with them. The dense rank counts values and not teams, so the fallen opponent can still cost the
improved team one rank.
-/

namespace PremierLeague

open Tabular

inductive Side where
  | home
  | away
deriving DecidableEq

def Side.other : Side → Side
  | home => away
  | away => home

/-- The table that counts the matches of a side. -/
def Side.venue : Side → Proofs.Venue
  | home => .home
  | away => .away

def Match.team (m : Match) : Side → String
  | .home => m.HomeTeam
  | .away => m.AwayTeam

def Match.goals (m : Match) : Side → Cell
  | .home => m.FTHG
  | .away => m.FTAG

/-- The match with `k` more full-time goals for a side. -/
def Match.addGoals (m : Match) (side : Side) (k : ℕ) : Match :=
  match side with
  | .home => { m with FTHG := m.FTHG.map (· + (k : ℚ)) }
  | .away => { m with FTAG := m.FTAG.map (· + (k : ℚ)) }

namespace Proofs

open SeasonSummary

def viewFrom (m : Match) : Side → View
  | .home => homeView m
  | .away => awayView m

@[simp] lemma viewFrom_goalsFor (m : Match) (side : Side) :
    (viewFrom m side).goalsFor = m.goals side := by
  cases side <;> rfl

@[simp] lemma viewFrom_goalsAgainst (m : Match) (side : Side) :
    (viewFrom m side).goalsAgainst = m.goals side.other := by
  cases side <;> rfl

/-- In the tables that count a side, a match takes effect through the view of that side. -/
lemma effect_team {m : Match} (hne : m.HomeTeam ≠ m.AwayTeam) (side : Side) {v : Venue}
    (hv : v = side.venue ∨ v = .overall) :
    v.effect (m.team side) m = contribution (viewFrom m side) := by
  unfold Venue.effect
  rcases hv with rfl | rfl
  · cases side <;> simp [Venue.sees, Side.venue, Match.team, viewFrom]
  · cases side with
    | home => simp [Venue.sees, sidesOf, sides, Match.team, viewFrom, hne.symm]
    | away => simp [Venue.sees, sidesOf, sides, Match.team, viewFrom, hne]

lemma effect_of_ne {m : Match} {team : String} (hh : m.HomeTeam ≠ team) (ha : m.AwayTeam ≠ team) :
    Venue.overall.effect team m = 0 := by
  unfold Venue.effect Venue.sees sidesOf sides
  dsimp only
  rw [if_neg hh, if_neg ha]
  rfl

/-! ### More goals for one side -/

section Edit

variable {m : Match} {side : Side} {k : ℕ}

@[simp] lemma addGoals_HomeTeam : (m.addGoals side k).HomeTeam = m.HomeTeam := by
  cases side <;> rfl

@[simp] lemma addGoals_AwayTeam : (m.addGoals side k).AwayTeam = m.AwayTeam := by
  cases side <;> rfl

@[simp] lemma addGoals_team (side' : Side) : (m.addGoals side k).team side' = m.team side' := by
  cases side' with
  | home => exact addGoals_HomeTeam
  | away => exact addGoals_AwayTeam

@[simp] lemma addGoals_goals :
    (m.addGoals side k).goals side = (m.goals side).map (· + (k : ℚ)) := by
  cases side <;> rfl

@[simp] lemma addGoals_goals_other :
    (m.addGoals side k).goals side.other = m.goals side.other := by
  cases side <;> rfl

lemma effect_team_addGoals (hne : m.HomeTeam ≠ m.AwayTeam) (side' : Side) :
    Venue.overall.effect (m.team side') (m.addGoals side k) =
      contribution (viewFrom (m.addGoals side k) side') := by
  have h := effect_team (m := m.addGoals side k) (by simpa using hne) side' (Or.inr rfl)
  rwa [addGoals_team] at h

lemma effect_team_lt (hk : 1 ≤ k) (hne : m.HomeTeam ≠ m.AwayTeam) (hg : (m.goals side).isSome) :
    Venue.overall.effect (m.team side) m <
      Venue.overall.effect (m.team side) (m.addGoals side k) := by
  obtain ⟨x, hx⟩ := Option.isSome_iff_exists.mp hg
  rw [effect_team hne side (Or.inr rfl), effect_team_addGoals hne]
  apply contribution_lt_of_scored hk
  · rw [viewFrom_goalsFor, hx]
  · rw [viewFrom_goalsFor, addGoals_goals, hx]
    rfl
  · rw [viewFrom_goalsAgainst, viewFrom_goalsAgainst, addGoals_goals_other]

lemma effect_opponent_lt (hk : 1 ≤ k) (hne : m.HomeTeam ≠ m.AwayTeam)
    (hg : (m.goals side).isSome) : Venue.overall.effect (m.team side.other) (m.addGoals side k) <
      Venue.overall.effect (m.team side.other) m := by
  obtain ⟨x, hx⟩ := Option.isSome_iff_exists.mp hg
  have htwice : side.other.other = side := by cases side <;> rfl
  rw [effect_team hne side.other (Or.inr rfl), effect_team_addGoals hne]
  apply contribution_lt_of_conceded hk
  · rw [viewFrom_goalsAgainst, htwice, hx]
  · rw [viewFrom_goalsAgainst, htwice, addGoals_goals, hx]
    rfl
  · rw [viewFrom_goalsFor, viewFrom_goalsFor, addGoals_goals_other]

lemma effect_other_eq {team : String} (ht : team ≠ m.team side) (ho : team ≠ m.team side.other) :
    Venue.overall.effect team (m.addGoals side k) = Venue.overall.effect team m := by
  have hsides : m.HomeTeam ≠ team ∧ m.AwayTeam ≠ team := by
    cases side with
    | home => exact ⟨ht.symm, ho.symm⟩
    | away => exact ⟨ho.symm, ht.symm⟩
  have hafter : Venue.overall.effect team (m.addGoals side k) = 0 := by
    apply effect_of_ne
    · rw [addGoals_HomeTeam]
      exact hsides.1
    · rw [addGoals_AwayTeam]
      exact hsides.2
  rw [hafter, effect_of_ne hsides.1 hsides.2]

end Edit

/-! ### Ranks before and after -/

/-- The ranks of the teams, as the held overall table and the team statistics give them. -/
structure Reports (R : Runtime) (s : SeasonSummary) (rank : String → ℕ) : Prop where
  table : ∃ t, s.calcMainTablesStored R "overall" = .ok (some t) ∧
    ∀ team, Occurs s.data team → ∃ row, loc t team = .ok row ∧ row.rank = rank team
  position : ∀ team, Occurs s.data team → ∃ total home away,
    s.calcTeamStatsStored R team = .ok [total, home, away] ∧ total.category = "Total" ∧
      total.position = rank team

/-- The ranks in the held overall table. -/
def storedRank (R : Runtime) (s : SeasonSummary) (team : String) : ℕ :=
  (storedRow R s .overall team).rank

lemma reports_storedRank (R : Runtime) (s : SeasonSummary) : Reports R s (storedRank R s) := by
  constructor
  · exact ⟨_, calcMainTablesBy_eq R s .overall, fun team ht => ⟨_, loc_tableBy .overall ht, rfl⟩⟩
  · intro team ht
    exact ⟨_, _, _, calcTeamStatsBy_eq R ht, rfl, rfl⟩

lemma Reports.rank_eq {R : Runtime} {s : SeasonSummary} {rank : String → ℕ} (h : Reports R s rank)
    {team : String} (ht : Occurs s.data team) : rank team = storedRank R s team := by
  obtain ⟨total, home, away, hrows, -, htotal⟩ := h.position team ht
  rw [calcTeamStatsStored, calcTeamStatsBy_eq R ht, Except.ok.injEq, List.cons.injEq] at hrows
  rw [← htotal, ← hrows.1]
  rfl

/-- The opponent leaves a rank that it shared with a third team for a rank of its own, still
above the team, and every third team that was above the team still is. -/
structure OpponentSplits (data : List Match) (before after : String → ℕ)
    (team opponent : String) : Prop where
  above : after opponent < after team
  shared : ∃ x, Occurs data x ∧ x ≠ team ∧ x ≠ opponent ∧ before x = before opponent
  alone : ∀ x, Occurs data x → x ≠ opponent → after x ≠ after opponent
  still : ∀ x, Occurs data x → x ≠ team → x ≠ opponent → before x < before team →
    after x < after team

section Edited

variable {s s' : SeasonSummary} {pre post : List Match} {m : Match} {side : Side} {k : ℕ}
  (hs : s.data = pre ++ m :: post) (hs' : s'.data = pre ++ m.addGoals side k :: post)

include hs hs'

lemma occurs_addGoals (team : String) : Occurs s'.data team ↔ Occurs s.data team :=
  occurs_edit hs hs' (Prod.ext addGoals_HomeTeam addGoals_AwayTeam) team

lemma key_addGoals (team : String) : key s' .overall team - key s .overall team =
    Venue.overall.effect team (m.addGoals side k) - Venue.overall.effect team m :=
  key_edit hs hs' .overall team

variable (hint : intGoals s'.data = intGoals s.data)
  (hheld : ∀ side, HeldExactly .overall s.data (m.team side) ∧
    HeldExactly .overall s'.data (m.team side))

include hint hheld

/-- The cells of the two teams move with their packed criteria, and no other cell moves. -/
lemma shift_addGoals (R : Runtime) (hk : 1 ≤ k) (hg : (m.goals side).isSome)
    (hne : m.HomeTeam ≠ m.AwayTeam) :
    Shift (s.teams R) (storedKey s .overall) (storedKey s' .overall) (m.team side)
      (m.team side.other) := by
  have hkey := key_addGoals hs hs'
  have hm : m ∈ s.data := by
    rw [hs]
    exact List.mem_append_right _ List.mem_cons_self
  have hmem : ∀ side', m.team side' ∈ s.teams R := by
    intro side'
    cases side' with
    | home => exact mem_teams.mpr ⟨m, hm, Or.inl rfl⟩
    | away => exact mem_teams.mpr ⟨m, hm, Or.inr rfl⟩
  have hcell : ∀ side', storedKey s .overall (m.team side') = key s .overall (m.team side') ∧
      storedKey s' .overall (m.team side') = key s' .overall (m.team side') :=
    fun side' => ⟨storedKey_eq_iff.mpr (hheld side').1, storedKey_eq_iff.mpr (hheld side').2⟩
  refine ⟨hmem side, hmem side.other, ?_, ?_, ?_⟩
  · have hlt := effect_team_lt hk hne hg
    have hteam := hkey (m.team side)
    rw [(hcell side).1, (hcell side).2]
    linarith
  · have hlt := effect_opponent_lt hk hne hg
    have hteam := hkey (m.team side.other)
    rw [(hcell side.other).1, (hcell side.other).2]
    linarith
  · intro x _ ht ho
    have heq := effect_other_eq (k := k) ht ho
    have hteam := hkey x
    exact storedKey_congr hint (by linarith)

omit hint hheld in
lemma storedRank_addGoals (R R' : Runtime) {team : String} (ht : Occurs s.data team) :
    storedRank R' s' team =
      denseRank ((s.teams R).map (storedKey s' .overall)) (storedKey s' .overall team) := by
  have hperm : (s'.teams R').Perm (s.teams R) := by
    rw [List.perm_ext_iff_of_nodup (nodup_teams R' s') (nodup_teams R s)]
    intro x
    rw [mem_teams, mem_teams, occurs_addGoals hs hs']
  unfold storedRank storedRow
  rw [rowBy_rank]
  exact denseRank_perm (hperm.map _)
    (keyBy_mem_keysBy .overall ((occurs_addGoals hs hs' team).mpr ht))

end Edited

lemma opponentSplits_iff (R R' : Runtime) {s s' : SeasonSummary} {team opponent : String}
    (hocc : ∀ x, Occurs s'.data x ↔ Occurs s.data x) (ht : Occurs s.data team)
    (ho : Occurs s.data opponent) :
    OpponentSplits s.data (storedRank R s) (storedRank R' s') team opponent ↔
      Splits (s.teams R) (storedKey s .overall) (storedKey s' .overall) team opponent := by
  have ht' := (hocc team).mpr ht
  have ho' := (hocc opponent).mpr ho
  constructor
  · rintro ⟨habove, ⟨x, hx, hxt, hxo, hlevel⟩, halone, hstill⟩
    refine ⟨(rankBy_lt_iff R' .overall ho' ht').mp habove, ?_, ?_, ?_⟩
    · exact ⟨x, mem_teams.mpr hx, hxt, hxo, (rankBy_eq_iff R .overall hx ho).mp hlevel⟩
    · intro x hx hxo heq
      have hx := mem_teams.mp hx
      exact halone x hx hxo ((rankBy_eq_iff R' .overall ((hocc x).mpr hx) ho').mpr heq)
    · intro x hx hxt hxo hlt
      have hx := mem_teams.mp hx
      have hstill := hstill x hx hxt hxo ((rankBy_lt_iff R .overall hx ht).mpr hlt)
      exact (rankBy_lt_iff R' .overall ((hocc x).mpr hx) ht').mp hstill
  · rintro ⟨habove, ⟨x, hx, hxt, hxo, hlevel⟩, halone, hstill⟩
    refine ⟨(rankBy_lt_iff R' .overall ho' ht').mpr habove, ?_, ?_, ?_⟩
    · have hx := mem_teams.mp hx
      exact ⟨x, hx, hxt, hxo, (rankBy_eq_iff R .overall hx ho).mpr hlevel⟩
    · intro x hx hxo heq
      exact halone x (mem_teams.mpr hx) hxo
        ((rankBy_eq_iff R' .overall ((hocc x).mpr hx) ho').mp heq)
    · intro x hx hxt hxo hlt
      have hstill := hstill x (mem_teams.mpr hx) hxt hxo ((rankBy_lt_iff R .overall hx ht).mp hlt)
      exact (rankBy_lt_iff R' .overall ((hocc x).mpr hx) ht').mpr hstill

/-- With more goals in one match, no team overtakes the improved team, whose overall rank gets
worse by one at most, and exactly when its opponent splits a rank above it. The columns keep their
type and hold the packed criteria of both teams. -/
theorem rank_after_more_goals (R R' : Runtime) (s s' : SeasonSummary) (pre post : List Match)
    (m : Match) (side : Side) (k : ℕ) (hk : 1 ≤ k) (hs : s.data = pre ++ m :: post)
    (hs' : s'.data = pre ++ m.addGoals side k :: post) (hg : (m.goals side).isSome)
    (hne : m.HomeTeam ≠ m.AwayTeam) (hint : intGoals s'.data = intGoals s.data)
    (hheld : ∀ side, HeldExactly .overall s.data (m.team side) ∧
      HeldExactly .overall s'.data (m.team side)) :
    ∃ before after : String → ℕ, Reports R s before ∧ Reports R' s' after ∧
      (∀ x, Occurs s.data x → after x < after (m.team side) → before x < before (m.team side)) ∧
      after (m.team side) ≤ before (m.team side) + 1 ∧
      (before (m.team side) < after (m.team side) ↔
        OpponentSplits s.data before after (m.team side) (m.team side.other)) := by
  have hshift := shift_addGoals hs hs' hint hheld R hk hg hne
  have hocc := occurs_addGoals hs hs'
  have ht := mem_teams.mp hshift.mem_t
  have ho := mem_teams.mp hshift.mem_o
  have hbefore : storedRank R s (m.team side) =
      denseRank ((s.teams R).map (storedKey s .overall)) (storedKey s .overall (m.team side)) :=
    rowBy_rank _ R s .overall (m.team side)
  have hafter := storedRank_addGoals hs hs' R R' ht
  refine ⟨_, _, reports_storedRank R s, reports_storedRank R' s', ?_, ?_, ?_⟩
  · intro x hx hlt
    have hlt := (rankBy_lt_iff R' .overall ((hocc x).mpr hx) ((hocc _).mpr ht)).mp hlt
    exact (rankBy_lt_iff R .overall hx ht).mpr (hshift.lt_of_lt (mem_teams.mpr hx) hlt)
  · rw [hafter, hbefore]
    exact hshift.denseRank_le_succ
  · rw [opponentSplits_iff R R' hocc ht ho, hafter, hbefore]
    exact hshift.denseRank_lt_iff_splits

/-- Two 2-0 results, so that Arsenal and Leeds share the first rank. -/
def twoWins : SeasonSummary :=
  .init [fixture "Arsenal" "Chelsea" 2 0, fixture "Leeds" "Everton" 2 0] "20-21"

def consolation : SeasonSummary :=
  .init [(fixture "Arsenal" "Chelsea" 2 0).addGoals .away 1, fixture "Leeds" "Everton" 2 0] "20-21"

theorem rank_after_more_goals_consolation :
    ∃ before after : String → ℕ, Reports firstSeen twoWins before ∧
      Reports firstSeen consolation after ∧ before "Chelsea" = 2 ∧ after "Chelsea" = 3 ∧
      OpponentSplits twoWins.data before after "Chelsea" "Arsenal" := by
  have hheld : ∀ side, HeldExactly .overall twoWins.data
        ((fixture "Arsenal" "Chelsea" 2 0).team side) ∧
      HeldExactly .overall consolation.data ((fixture "Arsenal" "Chelsea" 2 0).team side) := by
    intro side
    cases side <;> decide +kernel
  obtain ⟨before, after, hb, ha, -, -, hsplits⟩ := rank_after_more_goals firstSeen firstSeen
    twoWins consolation [] [fixture "Leeds" "Everton" 2 0] (fixture "Arsenal" "Chelsea" 2 0) .away
    1 (by decide) (by decide +kernel) (by decide +kernel) (by decide) (by decide)
    (by decide +kernel) hheld
  have hbefore : before "Chelsea" = 2 := (hb.rank_eq (by decide)).trans (by decide +kernel)
  have hafter : after "Chelsea" = 3 := (ha.rank_eq (by decide)).trans (by decide +kernel)
  refine ⟨before, after, hb, ha, hbefore, hafter, hsplits.mp ?_⟩
  change before "Chelsea" < after "Chelsea"
  omega

/-- The goal takes Arsenal below Leeds, and Chelsea from the second to the third rank. -/
theorem position_worse_after_goal :
    twoWins.data = [fixture "Arsenal" "Chelsea" 2 0, fixture "Leeds" "Everton" 2 0] ∧
      consolation.data =
        [(fixture "Arsenal" "Chelsea" 2 0).addGoals .away 1, fixture "Leeds" "Everton" 2 0] ∧
      (twoWins.calcTeamStatsStored firstSeen "Chelsea").map (fun rows => rows.map (·.position)) =
        .ok [2, 2, 2] ∧
      (consolation.calcTeamStatsStored firstSeen "Chelsea").map
        (fun rows => rows.map (·.position)) = .ok [3, 3, 2] := by
  refine ⟨by decide +kernel, by decide +kernel, ?_, ?_⟩
  · decide +kernel
  · decide +kernel

end Proofs

end PremierLeague
