import PremierLeague.Proofs.OverallTable

/-!
# The packed ranking key

A table is ranked by the single number `points * 1000000 + gd * 1000 + goalsScored`. As long as
no team scores or concedes more than 499 goals, this number orders the rows as points, goal
difference and goals scored do one after the other.
-/

namespace PremierLeague.Proofs

open Tabular SeasonSummary

/-- Points, goal difference and goals scored, compared lexicographically. -/
def criteria (r : TeamRecord) : Lex (ℕ × Lex (ℚ × ℚ)) :=
  toLex (r.points, toLex (r.gd, r.goalsScored))

/-- The goals of a record are whole numbers of at most 499. -/
structure Bounded (r : TeamRecord) : Prop where
  scored : ∃ n : ℕ, r.goalsScored = n
  conceded : ∃ n : ℕ, r.goalsConceded = n
  gd : r.gd = r.goalsScored - r.goalsConceded
  scored_le : r.goalsScored ≤ 499
  conceded_le : r.goalsConceded ≤ 499

lemma Bounded.gd_int {r : TeamRecord} (h : Bounded r) : ∃ g : ℤ, r.gd = g := by
  obtain ⟨n, hn⟩ := h.scored
  obtain ⟨k, hk⟩ := h.conceded
  refine ⟨(n : ℤ) - k, ?_⟩
  rw [h.gd, hn, hk]
  push_cast
  rfl

lemma Bounded.scored_nonneg {r : TeamRecord} (h : Bounded r) : 0 ≤ r.goalsScored := by
  obtain ⟨n, hn⟩ := h.scored
  rw [hn]
  exact Nat.cast_nonneg n

lemma Bounded.conceded_nonneg {r : TeamRecord} (h : Bounded r) : 0 ≤ r.goalsConceded := by
  obtain ⟨n, hn⟩ := h.conceded
  rw [hn]
  exact Nat.cast_nonneg n

/-- No lower criterion can override a higher one. -/
theorem rankPoints_lt_iff {r r' : TeamRecord} (h : Bounded r) (h' : Bounded r') :
    rankPoints r < rankPoints r' ↔ criteria r < criteria r' := by
  have hs := h.scored_nonneg
  have hs' := h'.scored_nonneg
  have hc := h.conceded_nonneg
  have hc' := h'.conceded_nonneg
  have hsle := h.scored_le
  have hsle' := h'.scored_le
  have hcle := h.conceded_le
  have hcle' := h'.conceded_le
  obtain ⟨g, hg⟩ := h.gd_int
  obtain ⟨g', hg'⟩ := h'.gd_int
  have hgoals : |r.goalsScored - r'.goalsScored| < 1000 := by
    rw [abs_lt]
    constructor <;> linarith
  have hlower : |(r.gd * 1000 + r.goalsScored) - (r'.gd * 1000 + r'.goalsScored)| < 1000000 := by
    rw [abs_lt, h.gd, h'.gd]
    constructor <;> linarith
  have hgd : r.gd * 1000 + r.goalsScored < r'.gd * 1000 + r'.goalsScored ↔
      r.gd < r'.gd ∨ r.gd = r'.gd ∧ r.goalsScored < r'.goalsScored := by
    rw [hg, hg', pack_lt_pack_iff hgoals, Int.cast_lt, Int.cast_inj]
  have hpoints := pack_lt_pack_iff (a := (r.points : ℤ)) (b := (r'.points : ℤ)) hlower
  rw [hgd, Nat.cast_lt, Nat.cast_inj, Int.cast_natCast, Int.cast_natCast] at hpoints
  unfold rankPoints criteria
  rw [Prod.Lex.toLex_lt_toLex, Prod.Lex.toLex_lt_toLex, add_assoc, add_assoc]
  exact hpoints

/-! ### The bounds of a season -/

/-- The known full-time scores are numbers of goals. -/
def WholeGoals (df : List Match) : Prop :=
  ∀ m ∈ df, (∀ q ∈ m.FTHG, ∃ n : ℕ, q = n) ∧ (∀ q ∈ m.FTAG, ∃ n : ℕ, q = n)

lemma wholeGoals_of_goalCounts {df : List Match} (h : GoalCounts df) : WholeGoals df := by
  have hcell : ∀ c : Cell, c.IsCount → ∀ q ∈ c, ∃ n : ℕ, q = n := by
    rintro c ⟨n, rfl⟩ q hq
    exact ⟨n, (Option.mem_some_iff.mp hq).symm⟩
  intro m hm
  exact ⟨hcell _ (h m hm).1, hcell _ (h m hm).2⟩

/-- No team scores or concedes more than 499 goals in total. -/
def GoalsBelow500 (df : List Match) : Prop :=
  ∀ team, Occurs df team →
    Series.sum ((homeViews df team ++ awayViews df team).map (·.goalsFor)) ≤ 499 ∧
      Series.sum ((homeViews df team ++ awayViews df team).map (·.goalsAgainst)) ≤ 499

lemma sum_natCast {c : List Cell} (h : ∀ x ∈ c, ∀ q ∈ x, ∃ n : ℕ, q = n) :
    ∃ n : ℕ, Series.sum c = n := by
  induction c with
  | nil => exact ⟨0, by simp [Series.sum, Series.present]⟩
  | cons x c ih =>
    obtain ⟨n, hn⟩ := ih (fun y hy => h y (List.mem_cons_of_mem x hy))
    rw [Series.sum_eq_sum_val, List.map_cons, List.sum_cons, ← Series.sum_eq_sum_val, hn]
    cases x with
    | none => exact ⟨n, by simp [Cell.val]⟩
    | some q =>
      obtain ⟨k, rfl⟩ := h (some q) List.mem_cons_self q rfl
      exact ⟨k + n, by rw [Cell.val_some, Nat.cast_add]⟩

lemma whole_of_mem_views {df : List Match} (hw : WholeGoals df) (v : Venue) (team : String) :
    ∀ u ∈ v.views df team,
      (∀ q ∈ u.goalsFor, ∃ n : ℕ, q = n) ∧ (∀ q ∈ u.goalsAgainst, ∃ n : ℕ, q = n) :=
  forall_mem_views (P := fun u =>
      (∀ q ∈ u.goalsFor, ∃ n : ℕ, q = n) ∧ (∀ q ∈ u.goalsAgainst, ∃ n : ℕ, q = n))
    hw (fun m hm => (hw m hm).symm) v team

lemma sum_views_natCast {df : List Match} {f : View → Cell} {v : Venue} {team : String}
    (hf : ∀ u ∈ v.views df team, ∀ q ∈ f u, ∃ n : ℕ, q = n) :
    ∃ n : ℕ, Series.sum ((v.views df team).map f) = n := by
  apply sum_natCast
  intro x hx
  obtain ⟨u, hu, rfl⟩ := List.mem_map.mp hx
  exact hf u hu

lemma sum_views_le {df : List Match} {f : View → Cell} {team : String}
    (hf : ∀ v : Venue, ∀ u ∈ v.views df team, ∀ q ∈ f u, ∃ n : ℕ, q = n) (v : Venue) :
    Series.sum ((v.views df team).map f) ≤
      Series.sum ((homeViews df team ++ awayViews df team).map f) := by
  obtain ⟨h, hh⟩ := sum_views_natCast (hf .home)
  obtain ⟨a, ha⟩ := sum_views_natCast (hf .away)
  have hh : Series.sum ((homeViews df team).map f) = h := hh
  have ha : Series.sum ((awayViews df team).map f) = a := ha
  rw [List.map_append, Series.sum_append, hh, ha]
  cases v with
  | home =>
    change Series.sum ((homeViews df team).map f) ≤ _
    rw [hh]
    exact le_add_of_nonneg_right (Nat.cast_nonneg a)
  | away =>
    change Series.sum ((awayViews df team).map f) ≤ _
    rw [ha]
    exact le_add_of_nonneg_left (Nat.cast_nonneg h)
  | overall =>
    change Series.sum ((homeViews df team ++ awayViews df team).map f) ≤ _
    rw [List.map_append, Series.sum_append, hh, ha]

lemma bounded_record {df : List Match} (hw : WholeGoals df) (hb : GoalsBelow500 df) (v : Venue)
    {team : String} (ht : Occurs df team) : Bounded (v.record df team) := by
  have hviews := fun v => whole_of_mem_views hw v team
  have hst := standing_record v df team
  obtain ⟨hbs, hbc⟩ := hb team ht
  simp only [standing, recordOf, Standing.mk.injEq] at hst
  obtain ⟨-, -, -, -, hscored, hconceded, hgd, -, -⟩ := hst
  constructor
  · rw [hscored]
    exact sum_views_natCast (fun u hu => (hviews v u hu).1)
  · rw [hconceded]
    exact sum_views_natCast (fun u hu => (hviews v u hu).2)
  · rw [hgd, hscored, hconceded]
  · rw [hscored]
    exact (sum_views_le (fun v u hu => (hviews v u hu).1) v).trans hbs
  · rw [hconceded]
    exact (sum_views_le (fun v u hu => (hviews v u hu).2) v).trans hbc

/-! ### Ranks -/

/-- In each table, every team has one row, the rank of a row is one more than the number of
distinct criteria above it, rows share a rank exactly when their criteria are equal, and the
rows are in the order of their ranks. -/
theorem rank_eq_lex_rank (R : Runtime) (s : SeasonSummary) (hw : WholeGoals s.data)
    (hb : GoalsBelow500 s.data) (v : Venue) :
    ∃ t, s.calcMainTables R v.label = .ok (some t) ∧
      (∀ team, Occurs s.data team → t.countP (fun r => r.team == team) = 1) ∧
      (∀ r ∈ t, r.rank = 1 +
        (above (t.map (fun r' => criteria r'.toTeamRecord)) (criteria r.toTeamRecord)).card) ∧
      (∀ r ∈ t, ∀ r' ∈ t,
        r.rank = r'.rank ↔ criteria r.toTeamRecord = criteria r'.toTeamRecord) ∧
      t.Pairwise (fun r r' => r.rank ≤ r'.rank) := by
  let crit : String → Lex (ℕ × Lex (ℚ × ℚ)) := fun team => criteria (v.record s.data team)
  have horder : ∀ a ∈ s.teams R, ∀ b ∈ s.teams R, key s v a < key s v b ↔ crit a < crit b :=
    fun a ha b hb' => rankPoints_lt_iff (bounded_record hw hb v (mem_teams.mp ha))
      (bounded_record hw hb v (mem_teams.mp hb'))
  have hcrit : ((table R s v).map (fun r' => criteria r'.toTeamRecord)).Perm
      ((s.teams R).map crit) := by
    have h := (table_perm R s v).map (fun r' => criteria r'.toTeamRecord)
    rw [List.map_map] at h
    exact h
  refine ⟨table R s v, calcMainTables_eq R s v, fun team => countP_team_table R s v, ?_, ?_,
    table_sorted R s v⟩
  · intro r hr
    obtain ⟨team, hteam, rfl⟩ := mem_table.mp hr
    have hrank := denseRank_map horder (mem_teams.mpr hteam)
    rw [rowOf_rank, above_perm hcrit, Nat.add_comm]
    exact hrank
  · intro r hr r' hr'
    obtain ⟨team, hteam, rfl⟩ := mem_table.mp hr
    obtain ⟨team', hteam', rfl⟩ := mem_table.mp hr'
    have hmem := mem_teams (R := R).mpr hteam
    have hmem' := mem_teams (R := R).mpr hteam'
    rw [rank_eq_iff R v hteam hteam']
    constructor
    · exact eq_of_same_order (fun a ha b hb => (horder a ha b hb).symm) hmem hmem'
    · exact eq_of_same_order horder hmem hmem'

lemma goalsBelow500_openSeason : GoalsBelow500 openSeason.data :=
  forall_occurs_iff.mpr (by decide +kernel)

/-- Leeds has won its only match and is second to Arsenal, which has four points. -/
theorem rank_eq_lex_rank_openSeason :
    ∃ t, openSeason.calcMainTables firstSeen "overall" = .ok (some t) ∧
      ∃ r ∈ t, r.team = "Leeds" ∧ r.rank = 2 := by
  obtain ⟨t, ht, hcount, hrank, -, -⟩ := rank_eq_lex_rank firstSeen openSeason
    (wholeGoals_of_goalCounts (by decide +kernel)) goalsBelow500_openSeason .overall
  have hcount := hcount "Leeds" (by decide)
  obtain ⟨r, hr, hteam⟩ := List.countP_pos_iff.mp (by omega : 0 < t.countP (·.team == "Leeds"))
  have hteam : r.team = "Leeds" := eq_of_beq hteam
  refine ⟨t, ht, r, hr, hteam, ?_⟩
  rw [calcMainTables_eq] at ht
  obtain rfl := Option.some.inj (Except.ok.inj ht)
  obtain ⟨team, -, rfl⟩ := mem_table.mp hr
  obtain rfl := hteam
  exact (hrank _ hr).trans (by decide +kernel)

end PremierLeague.Proofs
