import PremierLeague.Proofs.League

/-!
# Positions

The positions of a table are all numbers from one on, without gaps. While a season is in progress
a lead in points is decisive exactly when it is more than the points that the chasing team can
still win: then no results of the remaining fixtures can bring the two teams level.
-/

namespace PremierLeague.Proofs

open Tabular SeasonSummary

/-! ### No gaps -/

/-- In each table the ranks are all numbers from one to the number of different packed criteria;
down the rows they start with one and rise by single steps. -/
theorem ranks_without_gaps (R : Runtime) (s : SeasonSummary) (v : Venue) :
    ∃ t : Table, s.calcMainTables R v.label = .ok (some t) ∧
      (t.map (·.rank)).toFinset = Finset.Icc 1 (t.map (·.rankPoints)).toFinset.card ∧
      (∀ (i : ℕ) (hi : i + 1 < t.length),
        t[i].rank ≤ t[i + 1].rank ∧ t[i + 1].rank ≤ t[i].rank + 1) ∧
      ∀ h : 0 < t.length, t[0].rank = 1 := by
  have hranks : ((table R s v).map (·.rank)).toFinset =
      Finset.Icc 1 ((table R s v).map (·.rankPoints)).toFinset.card := by
    have hpoints : ((table R s v).map (·.rankPoints)).Perm (keys R s v) := by
      have h := (table_perm R s v).map (fun r => r.rankPoints)
      rw [List.map_map] at h
      exact h
    have hrank : ((table R s v).map (·.rank)).Perm
        ((keys R s v).map (denseRank (keys R s v))) := by
      have h := (table_perm R s v).map (fun r => r.rank)
      have hrow : (fun r : TableRow => r.rank) ∘ rowOf R s v =
          denseRank (keys R s v) ∘ key s v := by
        funext t
        exact rowOf_rank R s v t
      rw [List.map_map, hrow, ← List.map_map] at h
      exact h
    rw [List.toFinset_eq_of_perm _ _ hrank, List.toFinset_eq_of_perm _ _ hpoints,
      toFinset_map_denseRank]
  have hsort : ((table R s v).map (fun r => r.rank)).Pairwise (· ≤ ·) :=
    List.pairwise_map.mpr (table_sorted R s v)
  have hmono := List.pairwise_iff_getElem.mp (table_sorted R s v)
  refine ⟨table R s v, calcMainTables_eq R s v, hranks, ?_, ?_⟩
  · intro i hi
    have hstep := getElem_succ_le hsort hranks (i := i) (by simpa using hi)
    simp only [List.getElem_map] at hstep
    exact ⟨hmono i (i + 1) (by omega) hi (by omega), hstep⟩
  · intro hpos
    have hmem : (table R s v)[0].rank ∈ ((table R s v).map (·.rank)).toFinset := by
      simp only [List.mem_toFinset]
      exact List.mem_map_of_mem (List.getElem_mem hpos)
    rw [hranks, Finset.mem_Icc] at hmem
    have hone : 1 ∈ ((table R s v).map (·.rank)).toFinset := by
      rw [hranks, Finset.mem_Icc]
      omega
    obtain ⟨r, hr, hrank⟩ := List.mem_map.mp (List.mem_toFinset.mp hone)
    obtain ⟨j, hj, rfl⟩ := List.getElem_of_mem hr
    rcases Nat.eq_zero_or_pos j with rfl | hj0
    · exact hrank
    · have := hmono 0 j hpos hj hj0
      omega

/-! ### Points still to be won -/

lemma points_eq (R : Runtime) (s : SeasonSummary) (v : Venue) (team : String) :
    (rowOf R s v team).points = Standing.pointsHom (v.league s.data team) :=
  congrArg Standing.points (standing_eq_league v s.data team)

/-- The points after more matches are a ledger that starts with the points so far. -/
lemma points_append (R R' : Runtime) {s s' : SeasonSummary} {more : List Match}
    (hs' : s'.data = s.data ++ more) (v : Venue) (team : String) :
    (rowOf R' s' v team).points =
      Ledger.run (fun m t => (v.post m t).points) (fun t => (rowOf R s v t).points) more
        team := by
  have hstart : (fun t => (rowOf R s v t).points) =
      fun t => Standing.pointsHom (v.league s.data t) := by
    funext t
    exact points_eq R s v t
  rw [points_eq, hs', league_append, Ledger.map_run, hstart]
  rfl

lemma resultPoints_le_three (u : View) : resultPoints u ≤ 3 := by
  unfold resultPoints
  have hexcl : ¬ (u.won = true ∧ u.draw = true) := by
    rintro ⟨hw, hd⟩
    unfold View.won at hw
    unfold View.draw at hd
    cases hf : u.goalsFor with
    | none => simp [hf, Cell.eq] at hd
    | some x =>
      cases ha : u.goalsAgainst with
      | none => simp [hf, ha, Cell.eq] at hd
      | some y =>
        simp only [hf, ha, Cell.eq, Cell.lt, decide_eq_true_eq] at hw hd
        linarith
  cases hw : u.won <;> cases hd : u.draw <;> simp_all

/-- What a match between different teams is worth overall. -/
lemma points_post {m : Match} (hm : m.HomeTeam ≠ m.AwayTeam) (team : String) :
    (Venue.overall.post m team).points =
      if m.HomeTeam = team then resultPoints (homeView m)
      else if m.AwayTeam = team then resultPoints (awayView m) else 0 := by
  unfold Venue.post Venue.sees sidesOf sides
  by_cases hh : m.HomeTeam = team
  · have ha : m.AwayTeam ≠ team := fun h => hm (hh.trans h.symm)
    simp [hh, ha, View.booked]
  · by_cases ha : m.AwayTeam = team
    · simp [hh, ha, View.booked]
    · simp [hh, ha, Standing.zero_def]

/-- The number of fixtures in which the team has a side. -/
def remaining (fixtures : List (String × String)) (team : String) : ℕ :=
  fixtures.countP (fun f => f.1 == team || f.2 == team)

lemma sum_three_eq (more : List Match) (team : String) :
    (more.map (fun m => if m.HomeTeam = team ∨ m.AwayTeam = team then 3 else 0)).sum =
      3 * remaining (more.map Match.fixture) team := by
  unfold remaining
  induction more with
  | nil => simp
  | cons m more ih =>
    rw [List.map_cons, List.sum_cons, List.map_cons, List.countP_cons, ih]
    by_cases h : m.HomeTeam = team ∨ m.AwayTeam = team
    · have hb : (m.fixture.1 == team || m.fixture.2 == team) = true := by
        simpa [Match.fixture] using h
      rw [if_pos h, if_pos hb]
      omega
    · have hb : ¬ (m.fixture.1 == team || m.fixture.2 == team) = true := by
        simpa [Match.fixture] using h
      rw [if_neg h, if_neg hb]
      omega

section Continuation

variable {s s' : SeasonSummary} {more : List Match} (hs' : s'.data = s.data ++ more)

include hs'

lemma points_le_later (R R' : Runtime) (v : Venue) (team : String) :
    (rowOf R s v team).points ≤ (rowOf R' s' v team).points := by
  rw [points_append R R' hs']
  exact Ledger.le_run (fun _ _ => Nat.zero_le _) (fun t => (rowOf R s v t).points)

lemma later_points_le (R R' : Runtime) (hd : DistinctSides more) (team : String) :
    (rowOf R' s' .overall team).points ≤
      (rowOf R s .overall team).points + 3 * remaining (more.map Match.fixture) team := by
  rw [points_append R R' hs', ← sum_three_eq]
  apply Ledger.run_le
  intro m hm
  rw [points_post (hd m hm)]
  have hhome := resultPoints_le_three (homeView m)
  have haway := resultPoints_le_three (awayView m)
  by_cases hh : m.HomeTeam = team
  · rw [if_pos hh, if_pos (Or.inl hh)]
    exact hhome
  · by_cases ha : m.AwayTeam = team
    · rw [if_neg hh, if_pos ha, if_pos (Or.inr ha)]
      exact haway
    · rw [if_neg hh, if_neg ha]
      exact Nat.zero_le _

end Continuation

/-! ### The worst case -/

/-- The result of a fixture that is worst for the leader: the chaser wins and the leader loses. -/
def worstResult (season leader chaser : String) (f : String × String) : Match :=
  if f.1 = chaser ∨ f.2 = leader then { PremierLeague.Proofs.fixture f.1 f.2 1 0 with season }
  else { PremierLeague.Proofs.fixture f.1 f.2 0 1 with season }

section Worst

variable {season leader chaser : String} {f : String × String}

lemma fixture_worstResult : (worstResult season leader chaser f).fixture = f := by
  unfold worstResult
  split <;> rfl

lemma season_worstResult : (worstResult season leader chaser f).season = season := by
  unfold worstResult
  split <;> rfl

lemma resultPoints_win {u : View} (hf : u.goalsFor = some 1) (ha : u.goalsAgainst = some 0) :
    resultPoints u = 3 := by
  unfold resultPoints View.won View.draw
  rw [hf, ha]
  decide +kernel

lemma resultPoints_defeat {u : View} (hf : u.goalsFor = some 0) (ha : u.goalsAgainst = some 1) :
    resultPoints u = 0 := by
  unfold resultPoints View.won View.draw
  rw [hf, ha]
  decide +kernel

variable (hne : leader ≠ chaser) (hd : f.1 ≠ f.2)

include hne hd

lemma points_worstResult_leader :
    (Venue.overall.post (worstResult season leader chaser f) leader).points = 0 := by
  have hteams : (worstResult season leader chaser f).fixture = f := fixture_worstResult
  have hh : (worstResult season leader chaser f).HomeTeam = f.1 := congrArg Prod.fst hteams
  have ha : (worstResult season leader chaser f).AwayTeam = f.2 := congrArg Prod.snd hteams
  rw [points_post (by rw [hh, ha]; exact hd), hh, ha]
  by_cases h1 : f.1 = leader
  · have hlose : ¬ (f.1 = chaser ∨ f.2 = leader) := by
      rintro (h | h)
      · exact hne (h1.symm.trans h)
      · exact hd (h1.trans h.symm)
    rw [if_pos h1]
    unfold worstResult
    rw [if_neg hlose]
    exact resultPoints_defeat rfl rfl
  · rw [if_neg h1]
    by_cases h2 : f.2 = leader
    · rw [if_pos h2]
      unfold worstResult
      rw [if_pos (Or.inr h2)]
      exact resultPoints_defeat rfl rfl
    · rw [if_neg h2]

lemma points_worstResult_chaser :
    (Venue.overall.post (worstResult season leader chaser f) chaser).points =
      if f.1 = chaser ∨ f.2 = chaser then 3 else 0 := by
  have hteams : (worstResult season leader chaser f).fixture = f := fixture_worstResult
  have hh : (worstResult season leader chaser f).HomeTeam = f.1 := congrArg Prod.fst hteams
  have ha : (worstResult season leader chaser f).AwayTeam = f.2 := congrArg Prod.snd hteams
  rw [points_post (by rw [hh, ha]; exact hd), hh, ha]
  by_cases h1 : f.1 = chaser
  · rw [if_pos h1, if_pos (Or.inl h1)]
    unfold worstResult
    rw [if_pos (Or.inl h1)]
    exact resultPoints_win rfl rfl
  · rw [if_neg h1]
    by_cases h2 : f.2 = chaser
    · have hwin : ¬ (f.1 = chaser ∨ f.2 = leader) := by
        rintro (h | h)
        · exact h1 h
        · exact hne (h.symm.trans h2)
      rw [if_pos h2, if_pos (Or.inr h2)]
      unfold worstResult
      rw [if_neg hwin]
      exact resultPoints_win rfl rfl
    · rw [if_neg h2, if_neg (by tauto)]

end Worst

/-- The season after more matches. -/
def continued (s : SeasonSummary) (more : List Match) (h : ∀ m ∈ more, m.season = s.season) :
    SeasonSummary where
  data := s.data ++ more
  season := s.season
  numOfMatches := (s.data ++ more).length
  season_eq := fun m hm => (List.mem_append.mp hm).elim (s.season_eq m) (h m)
  numOfMatches_eq := rfl

/-! ### Decisive leads -/

section Lead

variable {s : SeasonSummary} {leader chaser : String} {fixtures : List (String × String)}
  (hd : ∀ f ∈ fixtures, f.1 ≠ f.2)

include hd

lemma distinctSides_of_fixtures {more : List Match} (h : more.map Match.fixture = fixtures) :
    DistinctSides more := by
  intro m hm
  exact hd m.fixture (h ▸ List.mem_map_of_mem hm)

/-- In the worst case the leader wins no points and the chaser all that are left. -/
lemma exists_worst_case (R R' : Runtime) (hne : leader ≠ chaser) :
    ∃ (s' : SeasonSummary) (more : List Match), s'.data = s.data ++ more ∧
      more.map Match.fixture = fixtures ∧
      (rowOf R' s' .overall leader).points = (rowOf R s .overall leader).points ∧
      (rowOf R' s' .overall chaser).points =
        (rowOf R s .overall chaser).points + 3 * remaining fixtures chaser := by
  let more := fixtures.map (worstResult s.season leader chaser)
  have hseason : ∀ m ∈ more, m.season = s.season := by
    intro m hm
    obtain ⟨f, -, rfl⟩ := List.mem_map.mp hm
    exact season_worstResult
  have hfixtures : more.map Match.fixture = fixtures := by
    rw [List.map_map]
    conv_rhs => rw [← List.map_id fixtures]
    exact List.map_congr_left (fun f _ => fixture_worstResult)
  refine ⟨continued s more hseason, more, rfl, hfixtures, ?_, ?_⟩
  · rw [points_append R R' rfl]
    apply Ledger.run_of_untouched
    intro m hm
    obtain ⟨f, hf, rfl⟩ := List.mem_map.mp hm
    exact points_worstResult_leader hne (hd f hf)
  · rw [points_append R R' rfl, Ledger.run_apply]
    conv_rhs => rw [← hfixtures, ← sum_three_eq]
    congr 2
    apply List.map_congr_left
    intro m hm
    obtain ⟨f, hf, rfl⟩ := List.mem_map.mp hm
    have hteams : (worstResult s.season leader chaser f).fixture = f := fixture_worstResult
    have hh : (worstResult s.season leader chaser f).HomeTeam = f.1 := congrArg Prod.fst hteams
    have ha : (worstResult s.season leader chaser f).AwayTeam = f.2 := congrArg Prod.snd hteams
    rw [points_worstResult_chaser hne (hd f hf), hh, ha]

end Lead

/-- The leader has more points than the chaser whatever the results of the remaining fixtures. -/
def Decided (R : Runtime) (s : SeasonSummary) (fixtures : List (String × String))
    (leader chaser : String) : Prop :=
  ∀ (s' : SeasonSummary) (more : List Match), s'.data = s.data ++ more →
    more.map Match.fixture = fixtures → ∃ row, TableOf R s' .overall row ∧
      (row chaser).points < (row leader).points

lemma TableOf.eq_rowOf {R : Runtime} {s : SeasonSummary} {v : Venue} {row : String → TableRow}
    (h : TableOf R s v row) {team : String} (ht : Occurs s.data team) :
    row team = rowOf R s v team := by
  obtain ⟨t, htable, hloc, -⟩ := h
  exact PremierLeague.Proofs.eq_rowOf ht htable (hloc team ht)

/-- A lead is decisive exactly when it is more than three points for each fixture that the chaser
has left. As long as the packed criteria do not overflow, the leader is then ranked strictly
above the chaser at the end, too. -/
theorem decided_iff (R : Runtime) (s : SeasonSummary) (fixtures : List (String × String))
    (hd : ∀ f ∈ fixtures, f.1 ≠ f.2) (leader chaser : String) (hne : leader ≠ chaser)
    (hl : Occurs s.data leader) (hc : Occurs s.data chaser) :
    ∃ row, TableOf R s .overall row ∧
      (Decided R s fixtures leader chaser ↔
        (row chaser).points + 3 * remaining fixtures chaser < (row leader).points) ∧
      (Decided R s fixtures leader chaser →
        ∀ (s' : SeasonSummary) (more : List Match), s'.data = s.data ++ more →
          more.map Match.fixture = fixtures → WholeGoals s'.data → GoalsBelow500 s'.data →
          ∃ row', TableOf R s' .overall row' ∧ (row' leader).rank < (row' chaser).rank) := by
  have hstay : ∀ {s' : SeasonSummary} {more : List Match}, s'.data = s.data ++ more →
      Occurs s'.data leader ∧ Occurs s'.data chaser := by
    intro s' more hs'
    rw [hs']
    exact ⟨occurs_append hl more, occurs_append hc more⟩
  refine ⟨rowOf R s .overall, tableOf_rowOf R s .overall, ⟨?_, ?_⟩, ?_⟩
  · intro hdecided
    obtain ⟨s', more, hs', hfixtures, hleader, hchaser⟩ := exists_worst_case (s := s) hd R R hne
    obtain ⟨row, hrow, hlt⟩ := hdecided s' more hs' hfixtures
    rwa [hrow.eq_rowOf (hstay hs').1, hrow.eq_rowOf (hstay hs').2, hleader, hchaser] at hlt
  · intro hlead s' more hs' hfixtures
    refine ⟨rowOf R s' .overall, tableOf_rowOf R s' .overall, ?_⟩
    have hup := points_le_later hs' R R .overall leader
    have hmax := later_points_le hs' R R (distinctSides_of_fixtures hd hfixtures) chaser
    rw [hfixtures] at hmax
    omega
  · intro hdecided s' more hs' hfixtures hw hb
    obtain ⟨row, hrow, hlt⟩ := hdecided s' more hs' hfixtures
    obtain ⟨hleader, hchaser⟩ := hstay hs'
    refine ⟨row, hrow, ?_⟩
    rw [hrow.eq_rowOf hleader, hrow.eq_rowOf hchaser] at hlt ⊢
    rw [rank_lt_iff R .overall hleader hchaser]
    unfold key
    rw [rankPoints_lt_iff (bounded_record hw hb .overall hchaser)
      (bounded_record hw hb .overall hleader), criteria, criteria, Prod.Lex.toLex_lt_toLex]
    exact Or.inl hlt

theorem decided_iff_openSeason :
    Decided firstSeen openSeason [("Leeds", "Arsenal")] "Arsenal" "Chelsea" ∧
      ¬ Decided firstSeen openSeason [("Chelsea", "Leeds")] "Arsenal" "Chelsea" := by
  have harsenal : Occurs openSeason.data "Arsenal" := by decide
  have hchelsea : Occurs openSeason.data "Chelsea" := by decide
  constructor
  · obtain ⟨row, hrow, hiff, -⟩ := decided_iff firstSeen openSeason [("Leeds", "Arsenal")]
      (by decide) "Arsenal" "Chelsea" (by decide) harsenal hchelsea
    rw [hiff, hrow.eq_rowOf harsenal, hrow.eq_rowOf hchelsea]
    decide +kernel
  · obtain ⟨row, hrow, hiff, -⟩ := decided_iff firstSeen openSeason [("Chelsea", "Leeds")]
      (by decide) "Arsenal" "Chelsea" (by decide) harsenal hchelsea
    rw [hiff, hrow.eq_rowOf harsenal, hrow.eq_rowOf hchelsea]
    decide +kernel

end PremierLeague.Proofs
