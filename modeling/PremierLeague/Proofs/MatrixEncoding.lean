import PremierLeague.Proofs.ResultMatrix
import PremierLeague.Library.Text

/-!
# The matrix as an encoding of the season

In a complete double round robin every cell off the diagonal is the text of exactly one score.
Reading the cells back gives all results of the season, and reading one row or one column gives
the home or the away record of a team.
-/

namespace PremierLeague.Proofs

open Tabular SeasonSummary

/-! ### Reading a matrix -/

/-- The text of a cell, addressed by the labels of its row and its column. -/
def entry (fr : Frame String) (team opponent : String) : Option String := do
  let row ← fr.rows.find? (fun row => Frame.cell row "Teams" == some team)
  Frame.cell row opponent

def readScore (fr : Frame String) (team opponent : String) : Option (ℕ × ℕ) := do
  readPair '-' (← entry fr team opponent)

def rowTeams (fr : Frame String) : List String :=
  fr.rows.filterMap (fun row => Frame.cell row "Teams")

def columnTeams (fr : Frame String) : List String := fr.columns.drop 1

/-- The scores of a row, read off the diagonal. -/
def rowScores (fr : Frame String) (team : String) : Option (List (ℕ × ℕ)) :=
  ((columnTeams fr).filter (· ≠ team)).mapM (readScore fr team)

/-- The scores of a column with their sides exchanged. -/
def columnScores (fr : Frame String) (team : String) : Option (List (ℕ × ℕ)) :=
  ((rowTeams fr).filter (· ≠ team)).mapM (fun home => Prod.swap <$> readScore fr home team)

structure Result where
  HomeTeam : String
  AwayTeam : String
  FTHG : Cell
  FTAG : Cell
deriving DecidableEq

def resultOf (m : Match) : Result := ⟨m.HomeTeam, m.AwayTeam, m.FTHG, m.FTAG⟩

/-- The results in all cells off the diagonal. -/
def decode (fr : Frame String) : Option (List Result) :=
  (((rowTeams fr).product (columnTeams fr)).filter (fun p => p.1 ≠ p.2)).mapM (fun p => do
    let score ← readScore fr p.1 p.2
    return ⟨p.1, p.2, some score.1, some score.2⟩)

/-- A record counts and sums the given scores, own goals first. -/
structure Aggregates (row : TeamRecord) (scores : List (ℕ × ℕ)) : Prop where
  played : row.played = scores.length
  won : row.won = scores.countP (fun s => s.2 < s.1)
  draw : row.draw = scores.countP (fun s => s.1 = s.2)
  lost : row.lost = scores.countP (fun s => s.1 < s.2)
  goalsScored : row.goalsScored = ((scores.map Prod.fst).sum : ℕ)
  goalsConceded : row.goalsConceded = ((scores.map Prod.snd).sum : ℕ)

/-! ### Frames of scores -/

lemma readPair_scoreText (score : ℕ × ℕ) : readPair '-' (scoreText score) = some score :=
  readPair_text (by decide) score.1 score.2

lemma scoreText_ne_dash (score : ℕ × ℕ) : scoreText score ≠ "-" := by
  intro h
  have hlen := congrArg String.length h
  have hpos : 0 < (toString score.1).length := Nat.length_repr_pos
  unfold scoreText at hlen
  rw [String.length_append, String.length_append] at hlen
  change _ + 1 + _ = 1 at hlen
  omega

section Frames

variable {teams : List String} {c : String → String → String}

lemma rowLabels_matrixFrame (hlabel : "Teams" ∉ teams) :
    (matrixFrame teams c).rows.map (fun row => Frame.cell row "Teams") = teams.map some := by
  change List.map _ (List.map _ (List.map _ teams)) = _
  rw [List.map_map, List.map_map]
  apply List.map_congr_left
  intro t ht
  have hcell := Frame.cell_fromRecords (List.mem_map_of_mem
    (f := fun t => matrixRecord teams (c t) t) ht) "Teams"
  rw [get?_matrixRecord, if_neg hlabel, if_pos rfl] at hcell
  exact hcell

lemma entry_matrixFrame (hn : teams.Nodup) (hlabel : "Teams" ∉ teams) {t u : String}
    (ht : t ∈ teams) (hu : u ∈ teams) : entry (matrixFrame teams c) t u = some (c t u) := by
  obtain ⟨row, hrow, hcell⟩ := exists_row_of_mem c ht
  have hname : Frame.cell row "Teams" = some t := by
    rw [hcell, get?_matrixRecord, if_neg hlabel, if_pos rfl]
  have hlabels : ((matrixFrame teams c).rows.map (fun row => Frame.cell row "Teams")).Nodup := by
    rw [rowLabels_matrixFrame hlabel]
    exact hn.map (Option.some_injective _)
  have hfind := find?_key (fun row => Frame.cell row "Teams") hlabels hrow
  simp only [hname] at hfind
  unfold entry
  rw [hfind]
  change Frame.cell row u = _
  rw [hcell, get?_matrixRecord, if_pos hu]

lemma columns_matrixFrame (hne : teams ≠ []) (hn : teams.Nodup) (hlabel : "Teams" ∉ teams) :
    (matrixFrame teams c).columns = "Teams" :: teams := by
  apply Frame.columns_fromRecords
  · simpa using hne
  · exact List.nodup_cons.mpr ⟨hlabel, hn⟩
  · intro r hr
    obtain ⟨t, -, rfl⟩ := List.mem_map.mp hr
    apply Dict.keys_setAll_of_fresh _ _ hn
    intro u hu h
    rw [List.mem_singleton.mp h] at hu
    exact hlabel hu

lemma rowTeams_matrixFrame (hlabel : "Teams" ∉ teams) :
    rowTeams (matrixFrame teams c) = teams := by
  have h := congrArg List.reduceOption (rowLabels_matrixFrame (c := c) hlabel)
  unfold List.reduceOption at h
  rw [List.filterMap_map, List.filterMap_map] at h
  unfold rowTeams
  simpa using h

end Frames

/-! ### Aggregating scores -/

def scoreCells (score : ℕ × ℕ) : Cell × Cell := (some (score.1 : ℚ), some (score.2 : ℚ))

def goalCells (v : View) : Cell × Cell := (v.goalsFor, v.goalsAgainst)

lemma aggregates_recordOf (team : String) {vs : List View} {scores : List (ℕ × ℕ)}
    (hp : (vs.map goalCells).Perm (scores.map scoreCells)) :
    Aggregates (recordOf team vs) scores := by
  have hcount : ∀ (p : Cell × Cell → Bool) (q : ℕ × ℕ → Bool), (∀ x, p (scoreCells x) = q x) →
      vs.countP (fun v => p (goalCells v)) = scores.countP q := by
    intro p q hpq
    have h := hp.countP_eq p
    rw [List.countP_map, List.countP_map] at h
    exact h.trans (congrArg (scores.countP ·) (funext hpq))
  have hsum : ∀ (f : Cell × Cell → Cell) (g : ℕ × ℕ → ℕ), (∀ x, f (scoreCells x) = some (g x : ℚ)) →
      Series.sum (vs.map (fun v => f (goalCells v))) = ((scores.map g).sum : ℕ) := by
    intro f g hfg
    have h := Series.sum_perm (hp.map f)
    rw [List.map_map, List.map_map, Series.sum_map (f ∘ scoreCells)] at h
    rw [Nat.cast_list_sum, List.map_map]
    refine h.trans (congrArg List.sum (List.map_congr_left ?_))
    intro x _
    simp [hfg]
  constructor
  · have hlen := hp.length_eq
    rwa [List.length_map, List.length_map] at hlen
  · exact hcount (fun c => Cell.lt c.2 c.1) _ (fun x => by simp [scoreCells, Cell.lt])
  · exact hcount (fun c => Cell.eq c.1 c.2) _ (fun x => by simp [scoreCells, Cell.eq])
  · exact hcount (fun c => Cell.lt c.1 c.2) _ (fun x => by simp [scoreCells, Cell.lt])
  · exact hsum Prod.fst Prod.fst (fun _ => rfl)
  · exact hsum Prod.snd Prod.snd (fun _ => rfl)

/-! ### Double round robins -/

/-- Each ordered pair of different teams out of at least two meets exactly once. -/
structure RoundRobin (teams : Finset String) (data : List Match) : Prop where
  two_le_card : 2 ≤ teams.card
  sides : ∀ m ∈ data, m.HomeTeam ∈ teams ∧ m.AwayTeam ∈ teams ∧ m.HomeTeam ≠ m.AwayTeam
  once : ∀ t ∈ teams, ∀ u ∈ teams, t ≠ u →
    data.countP (fun m => m.HomeTeam == t && m.AwayTeam == u) = 1
  goals : GoalCounts data

/-- No team bears the name of the column that holds the teams of the matrix. -/
structure DoubleRoundRobin (teams : Finset String) (data : List Match) : Prop
    extends RoundRobin teams data where
  no_label : "Teams" ∉ teams

def fixtureScore (s : SeasonSummary) (t u : String) : ℕ × ℕ :=
  match cellMatches s t u with
  | m :: _ => scoreOf m
  | [] => (0, 0)

lemma nodup_fixtures (s : SeasonSummary) :
    ((s.matrixTeams.product s.matrixTeams).filter (fun p => p.1 ≠ p.2)).Nodup :=
  ((nodup_matrixTeams s).product (nodup_matrixTeams s)).filter _

def scoreFrame (s : SeasonSummary) : Frame String :=
  matrixFrame s.matrixTeams (fun t u => if t = u then "-" else scoreText (fixtureScore s t u))

namespace DoubleRoundRobin

variable {teams : Finset String} {s : SeasonSummary} (h : DoubleRoundRobin teams s.data)

include h

lemma cellMatches_eq {t u : String} (ht : t ∈ teams) (hu : u ∈ teams) (hne : t ≠ u) :
    ∃ m, cellMatches s t u = [m] ∧ m.HomeTeam = t ∧ m.AwayTeam = u ∧
      m.FTHG = some ((fixtureScore s t u).1 : ℚ) ∧ m.FTAG = some ((fixtureScore s t u).2 : ℚ) := by
  have hlen := h.once t ht u hu hne
  rw [List.countP_eq_length_filter, List.length_eq_one_iff] at hlen
  obtain ⟨m, hm⟩ := hlen
  have hcell : cellMatches s t u = [m] := hm
  have hmem : m ∈ cellMatches s t u := hcell ▸ List.mem_cons_self
  obtain ⟨hdata, hhome, haway⟩ := mem_cellMatches.mp hmem
  obtain ⟨hg, ag⟩ := h.goals m hdata
  refine ⟨m, hcell, hhome, haway, ?_, ?_⟩
  · unfold fixtureScore
    rw [hcell]
    exact (some_goalsIn hg).symm
  · unfold fixtureScore
    rw [hcell]
    exact (some_goalsIn ag).symm

lemma resultCell_eq {t u : String} (ht : t ∈ teams) (hu : u ∈ teams) :
    s.resultCell t u = .ok (if t = u then "-" else scoreText (fixtureScore s t u)) := by
  by_cases hne : t = u
  · subst hne
    rw [resultCell_self, if_pos rfl]
  · obtain ⟨m, hcell, -, -, hh, ha⟩ := h.cellMatches_eq ht hu hne
    have htrunc : ∀ n : ℕ, toString ((n : ℚ).num.tdiv (n : ℚ).den) = toString n := by
      intro n
      rw [Rat.num_natCast, Rat.den_natCast, Nat.cast_one, Int.tdiv_one]
      rfl
    rw [resultCell_cons hne hcell hh ha, if_neg hne, htrunc, htrunc]
    rfl

lemma mem_matrixTeams_iff {t : String} : t ∈ s.matrixTeams ↔ t ∈ teams := by
  rw [mem_matrixTeams]
  constructor
  · rintro ⟨m, hm, rfl⟩
    exact (h.sides m hm).1
  · intro ht
    obtain ⟨u, hu, hne⟩ := Finset.exists_mem_ne h.two_le_card t
    obtain ⟨m, hcell, hhome, -⟩ := h.cellMatches_eq ht hu (Ne.symm hne)
    have hmem : m ∈ cellMatches s t u := hcell ▸ List.mem_cons_self
    exact ⟨m, (mem_cellMatches.mp hmem).1, hhome⟩

lemma getResultMatrix_ok : s.getResultMatrix = .ok (scoreFrame s) := by
  apply getResultMatrix_eq
  intro t ht u hu
  exact h.resultCell_eq (h.mem_matrixTeams_iff.mp ht) (h.mem_matrixTeams_iff.mp hu)

/-- All fixtures together make up the season. -/
lemma fixtures_perm :
    (((s.matrixTeams.product s.matrixTeams).filter (fun p => p.1 ≠ p.2)).map (fun p =>
      (⟨p.1, p.2, (scoreCells (fixtureScore s p.1 p.2)).1,
        (scoreCells (fixtureScore s p.1 p.2)).2⟩ : Result))).Perm (s.data.map resultOf) := by
  refine (perm_map_of_fiber_eq_singleton Match.fixture (nodup_fixtures s) ?_ _ _ ?_).symm
  · intro m hm
    obtain ⟨hhome, haway, hne⟩ := h.sides m hm
    rw [List.mem_filter]
    refine ⟨List.pair_mem_product.mpr ⟨h.mem_matrixTeams_iff.mpr hhome,
      h.mem_matrixTeams_iff.mpr haway⟩, ?_⟩
    exact decide_eq_true hne
  · rintro ⟨t, u⟩ hp
    obtain ⟨hp, hne⟩ := List.mem_filter.mp hp
    obtain ⟨ht, hu⟩ := List.pair_mem_product.mp hp
    have hne : t ≠ u := of_decide_eq_true hne
    obtain ⟨m, hcell, rfl, rfl, hh, ha⟩ := h.cellMatches_eq (h.mem_matrixTeams_iff.mp ht)
      (h.mem_matrixTeams_iff.mp hu) hne
    refine Eq.trans (congrArg (List.map resultOf) (?_ : _ = [m])) ?_
    · rw [← hcell]
      apply List.filter_congr
      intro m' _
      rw [Bool.eq_iff_iff]
      simp [Match.fixture]
    · simp only [List.map_singleton, resultOf, scoreCells, ← hh, ← ha]

/-- The matches of a team on one side are listed by its opponents. -/
lemma line_perm (own other : Match → String) (view : Match → View) {t : String}
    {score : String → ℕ × ℕ} (hsides : ∀ m ∈ s.data, other m ∈ teams ∧ own m ≠ other m)
    (hcell : ∀ u ∈ teams, t ≠ u → ∃ m,
      s.data.filter (fun m => own m == t && other m == u) = [m] ∧
        goalCells (view m) = scoreCells (score u)) :
    (((s.data.filter (fun m => own m == t)).map view).map goalCells).Perm
      (((s.matrixTeams.filter (· ≠ t)).map score).map scoreCells) := by
  rw [List.map_map, List.map_map]
  refine perm_map_of_fiber_eq_singleton other ((nodup_matrixTeams s).filter _) ?_ _ _ ?_
  · intro m hm
    obtain ⟨hm, hown⟩ := List.mem_filter.mp hm
    obtain ⟨hother, hne⟩ := hsides m hm
    rw [beq_iff_eq] at hown
    rw [List.mem_filter]
    exact ⟨h.mem_matrixTeams_iff.mpr hother, decide_eq_true (fun ho => hne (hown.trans ho.symm))⟩
  · intro u hu
    obtain ⟨hu, hne⟩ := List.mem_filter.mp hu
    have hne : t ≠ u := Ne.symm (of_decide_eq_true hne)
    obtain ⟨m, hm, hscore⟩ := hcell u (h.mem_matrixTeams_iff.mp hu) hne
    have hfiber : (s.data.filter (fun m' => own m' == t)).filter (fun m' => other m' == u) =
        [m] := by
      rw [List.filter_filter, ← hm]
      simp only [Bool.and_comm]
    rw [hfiber, List.map_singleton]
    exact congrArg (fun c => [c]) hscore

lemma row_perm {t : String} (ht : t ∈ teams) :
    ((homeViews s.data t).map goalCells).Perm (((s.matrixTeams.filter (· ≠ t)).map
      (fixtureScore s t)).map scoreCells) := by
  apply h.line_perm (·.HomeTeam) (·.AwayTeam) homeView
  · intro m hm
    exact (h.sides m hm).2
  · intro u hu hne
    obtain ⟨m, hcell, -, -, hh, ha⟩ := h.cellMatches_eq ht hu hne
    exact ⟨m, hcell, by simp only [goalCells, homeView, scoreCells, hh, ha]⟩

lemma column_perm {u : String} (hu : u ∈ teams) :
    ((awayViews s.data u).map goalCells).Perm (((s.matrixTeams.filter (· ≠ u)).map
      (fun t => (fixtureScore s t u).swap)).map scoreCells) := by
  apply h.line_perm (·.AwayTeam) (·.HomeTeam) awayView
  · intro m hm
    obtain ⟨hhome, -, hne⟩ := h.sides m hm
    exact ⟨hhome, hne.symm⟩
  · intro t ht hne
    obtain ⟨m, hcell, -, -, hh, ha⟩ := h.cellMatches_eq ht hu hne.symm
    unfold cellMatches at hcell
    simp only [Bool.and_comm] at hcell ⊢
    exact ⟨m, hcell, by simp only [goalCells, awayView, scoreCells, Prod.swap, hh, ha]⟩

lemma length_opponents {t : String} (ht : t ∈ teams) :
    (s.matrixTeams.filter (· ≠ t)).length = teams.card - 1 := by
  have hset : (s.matrixTeams.filter (· ≠ t)).toFinset = teams.erase t := by
    ext u
    simp [h.mem_matrixTeams_iff, and_comm]
  rw [← Finset.card_erase_of_mem ht, ← hset,
    List.toFinset_card_of_nodup ((nodup_matrixTeams s).filter _)]

lemma no_label_matrixTeams : "Teams" ∉ s.matrixTeams :=
  fun hmem => h.no_label (h.mem_matrixTeams_iff.mp hmem)

lemma columns_scoreFrame : (scoreFrame s).columns = "Teams" :: s.matrixTeams := by
  have hne : s.matrixTeams ≠ [] := by
    obtain ⟨t, ht⟩ := Finset.card_pos.mp (Nat.zero_lt_two.trans_le h.two_le_card)
    exact List.ne_nil_of_mem (h.mem_matrixTeams_iff.mpr ht)
  exact columns_matrixFrame hne (nodup_matrixTeams s) h.no_label_matrixTeams

lemma readScore_scoreFrame {t u : String} (ht : t ∈ s.matrixTeams) (hu : u ∈ s.matrixTeams)
    (hne : t ≠ u) : readScore (scoreFrame s) t u = some (fixtureScore s t u) := by
  have hentry : entry (scoreFrame s) t u = some (scoreText (fixtureScore s t u)) := by
    unfold scoreFrame
    rw [entry_matrixFrame (nodup_matrixTeams s) h.no_label_matrixTeams ht hu, if_neg hne]
  unfold readScore
  rw [hentry]
  exact readPair_scoreText _

lemma entry_eq_dash_iff {t u : String} (ht : t ∈ s.matrixTeams) (hu : u ∈ s.matrixTeams) :
    entry (scoreFrame s) t u = some "-" ↔ t = u := by
  unfold scoreFrame
  rw [entry_matrixFrame (nodup_matrixTeams s) h.no_label_matrixTeams ht hu, Option.some_inj]
  by_cases hne : t = u
  · simp [hne]
  · rw [if_neg hne]
    exact iff_of_false (scoreText_ne_dash _) hne

lemma decode_perm :
    ∃ results, decode (scoreFrame s) = some results ∧ results.Perm (s.data.map resultOf) := by
  refine ⟨_, ?_, h.fixtures_perm⟩
  have hrows : rowTeams (scoreFrame s) = s.matrixTeams :=
    rowTeams_matrixFrame h.no_label_matrixTeams
  unfold decode columnTeams
  rw [hrows, h.columns_scoreFrame]
  apply mapM_some
  rintro ⟨t, u⟩ hp
  obtain ⟨hp, hne⟩ := List.mem_filter.mp hp
  obtain ⟨ht, hu⟩ := List.pair_mem_product.mp hp
  rw [h.readScore_scoreFrame ht hu (of_decide_eq_true hne)]
  rfl

lemma rowScores_eq {t : String} (ht : t ∈ teams) : rowScores (scoreFrame s) t =
    some ((s.matrixTeams.filter (· ≠ t)).map (fixtureScore s t)) := by
  unfold rowScores columnTeams
  rw [h.columns_scoreFrame]
  apply mapM_some
  intro u hu
  obtain ⟨hu, hne⟩ := List.mem_filter.mp hu
  exact h.readScore_scoreFrame (h.mem_matrixTeams_iff.mpr ht) hu (Ne.symm (of_decide_eq_true hne))

lemma columnScores_eq {u : String} (hu : u ∈ teams) : columnScores (scoreFrame s) u =
    some ((s.matrixTeams.filter (· ≠ u)).map (fun t => (fixtureScore s t u).swap)) := by
  have hrows : rowTeams (scoreFrame s) = s.matrixTeams :=
    rowTeams_matrixFrame h.no_label_matrixTeams
  unfold columnScores
  rw [hrows]
  apply mapM_some
  intro t ht
  obtain ⟨ht, hne⟩ := List.mem_filter.mp ht
  rw [h.readScore_scoreFrame ht (h.mem_matrixTeams_iff.mpr hu) (of_decide_eq_true hne)]
  rfl

lemma aggregates_home {t : String} (ht : t ∈ teams) : Aggregates (homeRecord s.data t)
    ((s.matrixTeams.filter (· ≠ t)).map (fixtureScore s t)) := by
  rw [homeRecord_eq]
  exact aggregates_recordOf t (h.row_perm ht)

lemma aggregates_away {u : String} (hu : u ∈ teams) : Aggregates (awayRecord s.data u)
    ((s.matrixTeams.filter (· ≠ u)).map (fun t => (fixtureScore s t u).swap)) := by
  rw [awayRecord_eq]
  exact aggregates_recordOf u (h.column_perm hu)

lemma occurs {t : String} (ht : t ∈ teams) : Occurs s.data t :=
  occurs_of_mem_matrixTeams (h.mem_matrixTeams_iff.mpr ht)

end DoubleRoundRobin

/-- The matrix of a complete double round robin has the teams as rows and columns in sorted
order and dashes on the diagonal, its cells hold exactly the results of the season, and its
rows and columns aggregate to the home and the away table. -/
theorem matrix_encodes_season (R : Runtime) (s : SeasonSummary) (teams : Finset String)
    (h : DoubleRoundRobin teams s.data) :
    ∃ fr ts home away, s.getResultMatrix = .ok fr ∧
      s.calcMainTables R "home" = .ok (some home) ∧
      s.calcMainTables R "away" = .ok (some away) ∧
      ts.Pairwise (· < ·) ∧ (∀ t, t ∈ ts ↔ t ∈ teams) ∧
      fr.columns = "Teams" :: ts ∧
      fr.rows.map (fun row => Frame.cell row "Teams") = ts.map some ∧
      (∀ t ∈ ts, ∀ u ∈ ts, entry fr t u = some "-" ↔ t = u) ∧
      (∃ results, decode fr = some results ∧ results.Perm (s.data.map resultOf)) ∧
      (∀ t ∈ ts, ∃ scores row, rowScores fr t = some scores ∧ loc home t = .ok row ∧
        Aggregates row.toTeamRecord scores ∧ row.played = teams.card - 1) ∧
      (∀ t ∈ ts, ∃ scores row, columnScores fr t = some scores ∧ loc away t = .ok row ∧
        Aggregates row.toTeamRecord scores ∧ row.played = teams.card - 1) := by
  have hlen : ∀ {t : String}, t ∈ teams → ∀ f : String → ℕ × ℕ,
      ((s.matrixTeams.filter (· ≠ t)).map f).length = teams.card - 1 := by
    intro t ht f
    rw [List.length_map, h.length_opponents ht]
  refine ⟨scoreFrame s, s.matrixTeams, table R s .home, table R s .away, h.getResultMatrix_ok,
    calcMainTables_eq R s .home, calcMainTables_eq R s .away, matrixTeams_sorted s,
    fun t => h.mem_matrixTeams_iff, h.columns_scoreFrame,
    rowLabels_matrixFrame h.no_label_matrixTeams,
    fun t ht u hu => h.entry_eq_dash_iff ht hu, h.decode_perm, ?_, ?_⟩
  · intro t ht
    have ht := h.mem_matrixTeams_iff.mp ht
    exact ⟨_, _, h.rowScores_eq ht, loc_table .home (h.occurs ht), h.aggregates_home ht,
      (h.aggregates_home ht).played.trans (hlen ht _)⟩
  · intro t ht
    have ht := h.mem_matrixTeams_iff.mp ht
    exact ⟨_, _, h.columnScores_eq ht, loc_table .away (h.occurs ht), h.aggregates_away ht,
      (h.aggregates_away ht).played.trans (hlen ht _)⟩

theorem matrix_encodes_season_twoLegs :
    ∃ fr results, twoLegs.getResultMatrix = .ok fr ∧ decode fr = some results ∧
      results.Perm
        [⟨"Arsenal", "Chelsea", some 2, some 1⟩, ⟨"Chelsea", "Arsenal", some 0, some 0⟩] := by
  have h : DoubleRoundRobin {"Arsenal", "Chelsea"} twoLegs.data := by
    constructor
    · exact ⟨by decide, by decide, by decide, by decide +kernel⟩
    · decide
  obtain ⟨fr, _, _, _, hfr, -, -, -, -, -, -, -, ⟨results, hdecode, hperm⟩, -⟩ :=
    matrix_encodes_season firstSeen twoLegs _ h
  exact ⟨fr, results, hfr, hdecode, hperm⟩

end PremierLeague.Proofs
