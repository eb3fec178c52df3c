import PremierLeague.Proofs.MatrixEncoding
import PremierLeague.Proofs.Positions

/-!
# How many points a place takes

Whatever the results, a match between two teams of a group gives the group two or three points, and
a match against other teams at most three. In a complete double round robin this bounds the points
of a row by its place in the table: the rows down to it have no more than all points that they can
take from each other and from the rest, and the rows from it on share at least the points of their
own matches.
-/

namespace PremierLeague.Proofs

open Tabular SeasonSummary

/-! ### Points of a group of teams -/

/-- Both teams of the match belong to the group. -/
def inside (S : Finset String) (m : Match) : Bool := m.HomeTeam ∈ S && m.AwayTeam ∈ S

/-- A team of the match belongs to the group. -/
def touches (S : Finset String) (m : Match) : Bool := m.HomeTeam ∈ S || m.AwayTeam ∈ S

lemma sum_points_post {m : Match} (hm : m.HomeTeam ≠ m.AwayTeam) (S : Finset String) :
    ∑ t ∈ S, (Venue.overall.post m t).points =
      (if m.HomeTeam ∈ S then resultPoints (homeView m) else 0) +
        if m.AwayTeam ∈ S then resultPoints (awayView m) else 0 := by
  have hsplit : ∀ t, (Venue.overall.post m t).points =
      (if m.HomeTeam = t then resultPoints (homeView m) else 0) +
        if m.AwayTeam = t then resultPoints (awayView m) else 0 := by
    intro t
    rw [points_post hm]
    by_cases hh : m.HomeTeam = t
    · have ha : m.AwayTeam ≠ t := fun ha => hm (hh.trans ha.symm)
      rw [if_pos hh, if_pos hh, if_neg ha, add_zero]
    · rw [if_neg hh, if_neg hh, zero_add]
  simp only [hsplit, Finset.sum_add_distrib, Finset.sum_ite_eq]

/-- The two sides of a scored match share two points or three. -/
lemma resultPoints_add {m : Match} (hs : m.HasScore) :
    2 ≤ resultPoints (homeView m) + resultPoints (awayView m) ∧
      resultPoints (homeView m) + resultPoints (awayView m) ≤ 3 := by
  obtain ⟨x, hx⟩ := Option.isSome_iff_exists.mp hs.1
  obtain ⟨y, hy⟩ := Option.isSome_iff_exists.mp hs.2
  unfold resultPoints View.won View.draw homeView awayView
  simp only [hx, hy, Cell.lt, Cell.eq]
  rcases lt_trichotomy x y with h | h | h
  · simp [h, h.ne, h.ne', not_lt.mpr h.le]
  · simp [h]
  · simp [h, h.ne, h.ne', not_lt.mpr h.le]

section Group

variable {R : Runtime} {s : SeasonSummary} (hd : DistinctSides s.data)
  (hs : NoMissingScores s.data) (S : Finset String)

lemma sum_points_eq : ∑ t ∈ S, (rowOf R s .overall t).points =
    (s.data.map (fun m => ∑ t ∈ S, (Venue.overall.post m t).points)).sum := by
  have hrow : ∀ t, (rowOf R s .overall t).points =
      Ledger.run (fun m t => (Venue.overall.post m t).points) (fun _ => 0) s.data t := by
    intro t
    rw [points_eq, Venue.league, Ledger.map_run]
    rfl
  simp only [hrow]
  rw [Ledger.sum_run, Finset.sum_const_zero, zero_add]

include hd hs

theorem two_mul_inside_le :
    2 * s.data.countP (inside S) ≤ ∑ t ∈ S, (rowOf R s .overall t).points := by
  rw [sum_points_eq]
  apply mul_countP_le_sum
  intro m hm hinside
  obtain ⟨hh, ha⟩ : m.HomeTeam ∈ S ∧ m.AwayTeam ∈ S := by simpa [inside] using hinside
  rw [sum_points_post (hd m hm), if_pos hh, if_pos ha]
  exact (resultPoints_add (hs m hm)).1

theorem le_three_mul_touches :
    ∑ t ∈ S, (rowOf R s .overall t).points ≤ 3 * s.data.countP (touches S) := by
  rw [sum_points_eq]
  apply sum_le_mul_countP
  intro m hm
  have hshare := (resultPoints_add (hs m hm)).2
  rw [sum_points_post (hd m hm)]
  unfold touches
  by_cases hh : m.HomeTeam ∈ S <;> by_cases ha : m.AwayTeam ∈ S <;> simp [hh, ha] <;> omega

end Group

/-! ### Matches of a round robin -/

namespace RoundRobin

variable {teams : Finset String} {data : List Match} (h : RoundRobin teams data)

include h

lemma fixtures_perm_offDiag : (data.map Match.fixture).Perm teams.offDiag.toList := by
  rw [List.perm_iff_count]
  rintro ⟨t, u⟩
  have hcount : (data.map Match.fixture).count (t, u) =
      data.countP (fun m => m.HomeTeam == t && m.AwayTeam == u) := by
    rw [List.count, List.countP_map]
    rfl
  by_cases hmem : (t, u) ∈ teams.offDiag
  · obtain ⟨ht, hu, hne⟩ := Finset.mem_offDiag.mp hmem
    rw [hcount, h.once t ht u hu hne, List.count_eq_one_of_mem teams.offDiag.nodup_toList
      (Finset.mem_toList.mpr hmem)]
  · rw [List.count_eq_zero.mpr (fun hin => hmem (Finset.mem_toList.mp hin)), List.count_eq_zero]
    intro hin
    obtain ⟨m, hm, hfixture⟩ := List.mem_map.mp hin
    rw [← hfixture] at hmem
    exact hmem (Finset.mem_offDiag.mpr (h.sides m hm))

lemma countP_fixtures (p : String × String → Bool) :
    data.countP (fun m => p m.fixture) = (teams.offDiag.filter (fun f => p f)).card := by
  have hperm := h.fixtures_perm_offDiag.countP_eq p
  rw [List.countP_map] at hperm
  refine hperm.trans ?_
  rw [List.countP_eq_length_filter,
    ← List.toFinset_card_of_nodup (teams.offDiag.nodup_toList.filter p), List.toFinset_filter,
    Finset.toList_toFinset]

variable {S : Finset String} (hS : S ⊆ teams)

include hS

lemma countP_inside : data.countP (inside S) = S.card * S.card - S.card := by
  have hinside : teams.offDiag.filter (fun f => (f.1 ∈ S && f.2 ∈ S : Bool)) = S.offDiag := by
    ext f
    simp only [Finset.mem_filter, Finset.mem_offDiag, Bool.and_eq_true, decide_eq_true_eq]
    constructor
    · rintro ⟨⟨-, -, hne⟩, h1, h2⟩
      exact ⟨h1, h2, hne⟩
    · rintro ⟨h1, h2, hne⟩
      exact ⟨⟨hS h1, hS h2, hne⟩, h1, h2⟩
  have hcount := h.countP_fixtures (fun f => f.1 ∈ S && f.2 ∈ S)
  rw [hinside, Finset.offDiag_card] at hcount
  exact hcount

lemma countP_touches : data.countP (touches S) +
    ((teams.card - S.card) * (teams.card - S.card) - (teams.card - S.card)) =
      teams.card * teams.card - teams.card := by
  have houtside : teams.offDiag.filter (fun f => ¬ (f.1 ∈ S || f.2 ∈ S : Bool)) =
      (teams \ S).offDiag := by
    ext f
    simp only [Finset.mem_filter, Finset.mem_offDiag, Bool.or_eq_true, decide_eq_true_eq, not_or,
      Finset.mem_sdiff]
    tauto
  have hcount := h.countP_fixtures (fun f => f.1 ∈ S || f.2 ∈ S)
  have hsplit := Finset.card_filter_add_card_filter_not (s := teams.offDiag)
    (fun f => (f.1 ∈ S || f.2 ∈ S : Bool) = true)
  rw [houtside, ← hcount, Finset.offDiag_card, Finset.offDiag_card,
    Finset.card_sdiff_of_subset hS] at hsplit
  exact hsplit

end RoundRobin

/-! ### Rows of the table -/

section Rows

variable {R : Runtime} {s : SeasonSummary} {v : Venue}

lemma points_sorted (hw : WholeGoals s.data) (hb : GoalsBelow500 s.data) :
    ((table R s v).map (fun r => r.points)).Pairwise (fun a b => b ≤ a) := by
  rw [List.pairwise_map]
  apply (key_sorted R s v).imp_of_mem
  intro r r' hr hr' hkey
  obtain ⟨t, ht, rfl⟩ := mem_table.mp hr
  obtain ⟨t', ht', rfl⟩ := mem_table.mp hr'
  rw [rowOf_team, rowOf_team, ← not_lt] at hkey
  by_contra hlt
  apply hkey
  unfold key
  rw [rankPoints_lt_iff (bounded_record hw hb v ht) (bounded_record hw hb v ht'), criteria,
    criteria, Prod.Lex.toLex_lt_toLex]
  exact Or.inl (not_le.mp hlt)

/-- The teams of some rows. -/
def teamsOf (rows : Table) : Finset String := (rows.map (fun r => r.team)).toFinset

variable {rows : Table} (hrows : rows.Sublist (table R s v))

include hrows

lemma nodup_teamsOf : (rows.map (fun r => r.team)).Nodup :=
  (hrows.map _).nodup ((map_table_team R s v).nodup_iff.mpr (nodup_teams R s))

lemma card_teamsOf : (teamsOf rows).card = rows.length := by
  rw [teamsOf, List.toFinset_card_of_nodup (nodup_teamsOf hrows), List.length_map]

lemma sum_points_teamsOf : ∑ t ∈ teamsOf rows, (rowOf R s v t).points =
    (rows.map (fun r => r.points)).sum := by
  rw [teamsOf, List.sum_toFinset _ (nodup_teamsOf hrows), List.map_map]
  congr 1
  apply List.map_congr_left
  intro r hr
  obtain ⟨t, -, rfl⟩ := mem_table.mp (hrows.subset hr)
  rw [Function.comp_apply, rowOf_team]

lemma occurs_of_mem_teamsOf {t : String} (ht : t ∈ teamsOf rows) : Occurs s.data t := by
  obtain ⟨r, hr, rfl⟩ := List.mem_map.mp (List.mem_toFinset.mp ht)
  obtain ⟨t, hoccurs, rfl⟩ := mem_table.mp (hrows.subset hr)
  rwa [rowOf_team]

end Rows

lemma RoundRobin.occurs_iff {teams : Finset String} {data : List Match}
    (h : RoundRobin teams data) {t : String} : Occurs data t ↔ t ∈ teams := by
  constructor
  · rintro ⟨m, hm, rfl | rfl⟩
    · exact (h.sides m hm).1
    · exact (h.sides m hm).2.1
  · intro ht
    obtain ⟨u, hu, hne⟩ := Finset.exists_mem_ne h.two_le_card t
    have hfixture : (t, u) ∈ data.map Match.fixture :=
      h.fixtures_perm_offDiag.mem_iff.mpr
        (Finset.mem_toList.mpr (Finset.mem_offDiag.mpr ⟨ht, hu, hne.symm⟩))
    obtain ⟨m, hm, hteams⟩ := List.mem_map.mp hfixture
    exact ⟨m, hm, Or.inl (congrArg Prod.fst hteams)⟩

lemma RoundRobin.length_table {teams : Finset String} {s : SeasonSummary}
    (h : RoundRobin teams s.data) (R : Runtime) (v : Venue) :
    (table R s v).length = teams.card := by
  have hteams : teamsOf (table R s v) = teams := by
    ext t
    rw [teamsOf, List.mem_toFinset, (map_table_team R s v).mem_iff, mem_teams, h.occurs_iff]
  rw [← card_teamsOf (List.Sublist.refl (table R s v)), hteams]

lemma le_of_group_below {n p : ℕ} (hn : 0 < n) (h : 2 * (n * n - n) ≤ n * p) :
    2 * (n - 1) ≤ p := by
  rw [← Nat.mul_sub_one, mul_left_comm] at h
  exact Nat.le_of_mul_le_mul_left h hn

lemma le_of_group_above {n d p q : ℕ} (hn : 0 < n) (h : n * p ≤ 3 * q)
    (hq : q + (d * d - d) = (n + d) * (n + d) - (n + d)) : p + 3 ≤ 3 * n + 6 * d := by
  have hd : d ≤ d * d := Nat.le_mul_self d
  have hnd : n + d ≤ (n + d) * (n + d) := Nat.le_mul_self (n + d)
  have hsum : q + n = n * (n + 2 * d) := by
    zify [hd, hnd] at hq ⊢
    linear_combination hq
  apply Nat.le_of_mul_le_mul_left _ hn
  calc n * (p + 3) = n * p + 3 * n := by ring
    _ ≤ 3 * (q + n) := by omega
    _ = n * (3 * n + 6 * d) := by
      rw [hsum]
      ring

/-- In a complete double round robin of `N` teams, the row in place `i`, counted from zero, has at
least two points for each row below it, and lacks at least three points of the full score for each
row above it. -/
theorem points_of_place (R : Runtime) (s : SeasonSummary) (teams : Finset String)
    (h : RoundRobin teams s.data) (hb : GoalsBelow500 s.data) :
    ∃ t, s.calcMainTables R "overall" = .ok (some t) ∧ t.length = teams.card ∧
      ∀ (i : ℕ) (hi : i < t.length),
        2 * (teams.card - 1 - i) ≤ t[i].points ∧
          t[i].points + 3 * i ≤ 6 * (teams.card - 1) := by
  have hd : DistinctSides s.data := fun m hm => (h.sides m hm).2.2
  have hs := h.goals.noMissingScores
  have hsorted := points_sorted (R := R) (v := .overall) (wholeGoals_of_goalCounts h.goals) hb
  have hsubset : ∀ {rows : Table}, rows.Sublist (table R s .overall) → teamsOf rows ⊆ teams :=
    fun hrows t ht => h.occurs_iff.mp (occurs_of_mem_teamsOf hrows ht)
  have hlength := h.length_table R .overall
  refine ⟨table R s .overall, calcMainTables_eq R s .overall, hlength, ?_⟩
  intro i hi
  have hpos : i < ((table R s .overall).map (fun r => r.points)).length := by simpa using hi
  constructor
  · -- the rows from this one on share the points of their own matches
    have hrows := List.drop_sublist i (table R s .overall)
    have hpoints := two_mul_inside_le hd hs (R := R) (teamsOf ((table R s .overall).drop i))
    have hfall := sum_drop_le_mul_getElem hsorted hpos
    rw [h.countP_inside (hsubset hrows), sum_points_teamsOf hrows, card_teamsOf hrows,
      List.length_drop, List.map_drop, hlength] at hpoints
    rw [List.length_map, hlength, List.getElem_map] at hfall
    have hle := le_of_group_below (by omega) (hpoints.trans hfall)
    omega
  · -- the rows down to this one have no other points than those of their matches
    have hrows := List.take_sublist (i + 1) (table R s .overall)
    have hpoints := le_three_mul_touches hd hs (R := R)
      (teamsOf ((table R s .overall).take (i + 1)))
    have hfall := mul_getElem_le_sum_take hsorted hpos
    have htouches := h.countP_touches (hsubset hrows)
    rw [card_teamsOf hrows, List.length_take, hlength, min_eq_left (by omega)] at htouches
    rw [sum_points_teamsOf hrows, List.map_take] at hpoints
    rw [List.getElem_map] at hfall
    obtain ⟨d, hcard⟩ := Nat.exists_eq_add_of_le (show i + 1 ≤ teams.card by omega)
    rw [hcard, Nat.add_sub_cancel_left] at htouches
    have hle := le_of_group_above (Nat.succ_pos i) (hfall.trans hpoints) htouches
    omega

/-- Of two teams the first has two points or more, and the second three at most. -/
theorem points_of_place_twoLegs : ∃ first second,
    twoLegs.calcMainTables firstSeen "overall" = .ok (some [first, second]) ∧
      2 ≤ first.points ∧ second.points ≤ 3 := by
  have h : RoundRobin {"Arsenal", "Chelsea"} twoLegs.data :=
    ⟨by decide, by decide, by decide, by decide +kernel⟩
  have hb : GoalsBelow500 twoLegs.data := forall_occurs_iff.mpr (by decide +kernel)
  obtain ⟨t, ht, hlen, hpoints⟩ := points_of_place firstSeen twoLegs _ h hb
  obtain ⟨first, second, rfl⟩ := List.length_eq_two.mp (hlen.trans (by decide))
  have hfirst : 2 * (2 - 1 - 0) ≤ first.points := (hpoints 0 Nat.zero_lt_two).1
  have hsecond : second.points + 3 * 1 ≤ 6 * (2 - 1) := (hpoints 1 Nat.one_lt_two).2
  exact ⟨first, second, ht, by omega, by omega⟩

end PremierLeague.Proofs
