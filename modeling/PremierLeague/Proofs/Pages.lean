import PremierLeague.Proofs.HeadToHead
import PremierLeague.Proofs.ResultMatrix

/-!
# The pages shown

The script computes the matrix of results before it looks at the page, so every page needs a
scored first match between any two home teams of the season. Beyond that only the Head-to-Head
page can fail, at a chosen team that does not play in the season; what it has shown by then stays.
The figures of a team are the same on the League Tables and the Head-to-Head page.
-/

namespace PremierLeague.Proofs

open Tabular SeasonSummary

/-! ### The matrix -/

/-- Each two different home teams have a match at the ground of either, and the first such match
has its score. -/
def FixturesScored (s : SeasonSummary) : Prop :=
  ∀ t ∈ s.matrixTeams, ∀ u ∈ s.matrixTeams, t ≠ u →
    ∃ m, (cellMatches s t u).head? = some m ∧ m.HasScore

/-- A cell whose first match lacks a score cannot be converted. -/
lemma resultCell_unscored {s : SeasonSummary} {t u : String} (hne : t ≠ u) {m : Match}
    (hm : (cellMatches s t u).head? = some m) (hscore : ¬ m.HasScore) :
    s.resultCell t u = .error .valueError := by
  obtain ⟨ms, hms⟩ := List.head?_eq_some_iff.mp hm
  unfold cellMatches at hms
  unfold resultCell
  rw [if_neg hne]
  simp only [hms, List.map_cons, first, ok_bind]
  cases hh : m.FTHG with
  | none => rfl
  | some hg =>
    cases ha : m.FTAG with
    | none => rfl
    | some ag =>
      refine absurd ?_ hscore
      unfold Match.HasScore
      rw [hh, ha]
      exact ⟨rfl, rfl⟩

lemma resultCell_scored {s : SeasonSummary} {t u : String} (hne : t ≠ u) {m : Match}
    (hm : (cellMatches s t u).head? = some m) (hscore : m.HasScore) :
    ∃ c, s.resultCell t u = .ok c := by
  obtain ⟨ms, hms⟩ := List.head?_eq_some_iff.mp hm
  exact ⟨_, resultCell_cons hne hms (Cell.eq_some_val hscore.1) (Cell.eq_some_val hscore.2)⟩

lemma error_of_resultCell {s : SeasonSummary} {t u : String} {e : PyError}
    (h : s.resultCell t u = .error e) : t ≠ u ∧
      (¬ ∃ m, (cellMatches s t u).head? = some m ∧ m.HasScore) ∧
      (e = .indexError ∨ e = .valueError) := by
  by_cases hne : t = u
  · subst hne
    rw [resultCell_self] at h
    exact nomatch h
  · cases hms : (cellMatches s t u).head? with
    | none =>
      have hnil := cellMatches_eq_nil.mp (List.head?_eq_none_iff.mp hms)
      rw [resultCell_missing hne hnil] at h
      exact ⟨hne, by simp, Or.inl (Except.error.inj h).symm⟩
    | some m =>
      by_cases hscore : m.HasScore
      · obtain ⟨c, hc⟩ := resultCell_scored hne hms hscore
        rw [hc] at h
        exact nomatch h
      · rw [resultCell_unscored hne hms hscore] at h
        exact ⟨hne, by simpa using hscore, Or.inr (Except.error.inj h).symm⟩

lemma getResultMatrix_ok_iff {s : SeasonSummary} :
    (∃ fr, s.getResultMatrix = .ok fr) ↔ FixturesScored s := by
  constructor
  · rintro ⟨fr, hfr⟩ t ht u hu hne
    obtain ⟨c, hc⟩ := resultCell_of_getResultMatrix hfr t ht u hu
    cases hms : (cellMatches s t u).head? with
    | none =>
      rw [resultCell_missing hne (cellMatches_eq_nil.mp (List.head?_eq_none_iff.mp hms))] at hc
      exact nomatch hc
    | some m =>
      refine ⟨m, rfl, ?_⟩
      by_contra hscore
      rw [resultCell_unscored hne hms hscore] at hc
      exact nomatch hc
  · intro h
    have hcell : ∀ t ∈ s.matrixTeams, ∀ u ∈ s.matrixTeams, ∃ c, s.resultCell t u = .ok c := by
      intro t ht u hu
      by_cases hne : t = u
      · exact ⟨"-", hne ▸ resultCell_self s t⟩
      · obtain ⟨m, hm, hscore⟩ := h t ht u hu hne
        exact resultCell_scored hne hm hscore
    choose! c hc using hcell
    exact ⟨_, getResultMatrix_eq hc⟩

/-- The matrix fails at a cell. -/
lemma error_of_getResultMatrix {s : SeasonSummary} {e : PyError}
    (h : s.getResultMatrix = .error e) : e = .indexError ∨ e = .valueError := by
  rcases error_of_bind_error h with h | ⟨rows, -, h⟩
  · obtain ⟨t, -, h⟩ := error_of_mapM_error h
    obtain ⟨u, -, h⟩ := error_of_setLoop_error h
    exact (error_of_resultCell h).2.2
  · exact nomatch h

lemma teams_mem_columns {s : SeasonSummary} {fr : Frame String} (h : s.getResultMatrix = .ok fr)
    (hne : s.data ≠ []) : "Teams" ∈ fr.columns := by
  have hcell := resultCell_of_getResultMatrix h
  choose! c hc using hcell
  rw [getResultMatrix_eq hc] at h
  obtain ⟨m, hm⟩ := List.exists_mem_of_ne_nil s.data hne
  rw [← Except.ok.inj h, mem_columns_matrixFrame]
  exact ⟨List.ne_nil_of_mem (mem_matrixTeams.mpr ⟨m, hm, rfl⟩), Or.inl rfl⟩

/-! ### Tables of figures -/

/-- The cells of the given columns of a row that has them. -/
def pick (cols : List String) (row : Dict String ExactFloat) : Dict String ExactFloat :=
  cols.map (fun c => (c, (row.get? c).getD .nan))

lemma selectColumns_ok {cols : List String} {row : Dict String ExactFloat}
    (h : cols ⊆ row.keys) : selectColumns cols row = .ok (pick cols row) := by
  apply mapM_ok
  intro c hc
  obtain ⟨v, hv⟩ := Dict.exists_get?_of_mem_keys (h hc)
  rw [hv]
  rfl

lemma dataframe_ok {cols : List String} {rows : List (String × Dict String ExactFloat)}
    (h : ∀ r ∈ rows, cols ⊆ r.2.keys) : dataframe cols rows =
      Script.emit (.figures (rows.map (fun r => (r.1, pick cols r.2)))) := by
  have hrows : rows.mapM (fun r => do return (r.1, ← selectColumns cols r.2)) =
      Except.ok (ε := PyError) (rows.map (fun r => (r.1, pick cols r.2))) := by
    apply mapM_ok
    intro r hr
    rw [selectColumns_ok (h r hr)]
    rfl
  unfold dataframe
  rw [hrows]
  rfl

/-- The tables of a team in its column of the Head-to-Head page. -/
def teamTables (R : Runtime) (s : SeasonSummary) (team : String) : List Widget :=
  statsDisplays.map (fun cols => .figures
    ([statsRow "Total" (rowOf R s .overall team), statsRow "Home" (rowOf R s .home team),
      statsRow "Away" (rowOf R s .away team)].map (fun r => (r.category, pick cols r.columns))))

lemma displayCols_subset (r : TableRow) : displayCols ⊆ r.columns.keys := by
  simp [displayCols, TableRow.columns, Dict.keys]

lemma statsDisplays_subset (r : StatsRow) {cols : List String} (h : cols ∈ statsDisplays) :
    cols ⊆ r.columns.keys := by
  revert cols
  simp [statsDisplays, StatsRow.columns, Dict.keys]

lemma leaguePage_eq (R : Runtime) (s : SeasonSummary) (v : Venue) : leaguePage R s v.label =
    Script.emit (.figures ((table R s v).map (fun r => (r.team, pick displayCols r.columns)))) := by
  have hcols : ∀ r ∈ (table R s v).map (fun r => (r.team, r.columns)),
      displayCols ⊆ r.2.keys := by
    intro r hr
    obtain ⟨row, -, rfl⟩ := List.mem_map.mp hr
    exact displayCols_subset row
  unfold leaguePage
  rw [calcMainTables_eq]
  change dataframe displayCols _ = _
  rw [dataframe_ok hcols, List.map_map]
  rfl

lemma teamColumn_of_occurs (R : Runtime) {s : SeasonSummary} {team : String}
    (h : Occurs s.data team) :
    teamColumn R s team = ⟨.header team :: teamTables R s team, .ok ()⟩ := by
  let stats := [statsRow "Total" (rowOf R s .overall team),
    statsRow "Home" (rowOf R s .home team), statsRow "Away" (rowOf R s .away team)]
  have hround : ∀ cols ∈ statsDisplays, dataframe cols (stats.map (fun r =>
      (r.category, r.columns))) = Script.emit (.figures
        (stats.map (fun r => (r.category, pick cols r.columns)))) := by
    intro cols hcols
    rw [dataframe_ok, List.map_map]
    · rfl
    · intro r hr
      obtain ⟨row, -, rfl⟩ := List.mem_map.mp hr
      exact statsDisplays_subset row hcols
  have hshown : statsDisplays.flatMap (fun cols =>
      (dataframe cols (stats.map (fun r => (r.category, r.columns)))).shown) =
        teamTables R s team := by
    refine (List.flatMap_congr ?_).trans List.map_eq_flatMap.symm
    intro cols hcols
    rw [hround cols hcols]
    rfl
  have hloop := Script.forM_of_ok (fun cols hcols => congrArg Script.result (hround cols hcols))
  rw [hshown] at hloop
  unfold teamColumn
  rw [calcTeamStats_eq R h]
  exact congrArg (fun x : Page => (⟨.header team :: x.shown, x.result⟩ : Page)) hloop

lemma teamColumn_of_not_occurs (R : Runtime) {s : SeasonSummary} {team : String}
    (h : ¬ Occurs s.data team) :
    teamColumn R s team = ⟨[.header team], .error (.python (.keyError team))⟩ := by
  unfold teamColumn
  rw [calcTeamStats_of_not_occurs R h]
  rfl

/-! ### The script -/

/-- A choice from the menus. -/
structure Offered (allDf : List Match) (choice : Choice) : Prop where
  page : choice.page ∈ mainMenu
  season : choice.season ∈ seasonMenu allDf
  tableType : choice.tableType ∈ tableMenu
  homeTeam : choice.homeTeam ∈ homeMenu
  awayTeam : choice.awayTeam ∈ awayMenu

instance (allDf : List Match) (choice : Choice) : Decidable (Offered allDf choice) :=
  decidable_of_iff (choice.page ∈ mainMenu ∧ choice.season ∈ seasonMenu allDf ∧
      choice.tableType ∈ tableMenu ∧ choice.homeTeam ∈ homeMenu ∧ choice.awayTeam ∈ awayMenu)
    ⟨fun ⟨h1, h2, h3, h4, h5⟩ => ⟨h1, h2, h3, h4, h5⟩,
      fun ⟨h1, h2, h3, h4, h5⟩ => ⟨h1, h2, h3, h4, h5⟩⟩

lemma exists_venue {tableType : String} (h : tableType ∈ tableMenu) :
    ∃ v : Venue, tableType = v.label := by
  simp only [tableMenu, List.mem_cons, List.not_mem_nil, or_false] at h
  rcases h with rfl | rfl | rfl
  · exact ⟨.overall, rfl⟩
  · exact ⟨.home, rfl⟩
  · exact ⟨.away, rfl⟩

lemma data_ne_nil_of_offered {allDf : List Match} {choice : Choice} (h : Offered allDf choice) :
    (SeasonSummary.init allDf choice.season).data ≠ [] := by
  obtain ⟨m, hm, hseason⟩ := List.mem_map.mp (Series.mem_unique.mp h.season)
  exact List.ne_nil_of_mem (List.mem_filter.mpr ⟨hm, by simpa using hseason⟩)

section Run

variable (R : Runtime) {allDf : List Match} {choice : Choice}

/-- What follows the computation of the matrix. -/
lemma plApp_of_matrix (h : Offered allDf choice) {fr : Frame String}
    (hfr : (SeasonSummary.init allDf choice.season).getResultMatrix = .ok fr) :
    plApp R allDf choice = (do
      if choice.page = "League Tables" then
        leaguePage R (SeasonSummary.init allDf choice.season) choice.tableType
      if choice.page = "Results Matrix" then
        Script.emit (.matrix (fr.rows.map (fun r => Frame.cell r "Teams")) (fr.drop "Teams"))
      if choice.page = "Head-to-Head" then
        teamColumn R (SeasonSummary.init allDf choice.season) choice.homeTeam
        teamColumn R (SeasonSummary.init allDf choice.season) choice.awayTeam) := by
  have hindex : indexByTeams fr =
      .ok (fr.rows.map (fun r => Frame.cell r "Teams"), fr.drop "Teams") :=
    if_pos (teams_mem_columns hfr (data_ne_nil_of_offered h))
  unfold plApp
  dsimp only
  rw [hfr]
  change (summarise (indexByTeams fr) >>= _) = _
  rw [hindex]
  rfl

lemma plApp_of_error {e : PyError}
    (he : (SeasonSummary.init allDf choice.season).getResultMatrix = .error e) :
    plApp R allDf choice = ⟨[], .error (.python e)⟩ := by
  unfold plApp
  dsimp only
  rw [he]
  rfl

lemma plApp_of_unscored (h : ¬ FixturesScored (SeasonSummary.init allDf choice.season)) :
    plApp R allDf choice = ⟨[], .error (.python .indexError)⟩ ∨
      plApp R allDf choice = ⟨[], .error (.python .valueError)⟩ := by
  cases hfr : (SeasonSummary.init allDf choice.season).getResultMatrix with
  | ok fr => exact absurd (getResultMatrix_ok_iff.mp ⟨fr, hfr⟩) h
  | error e =>
    rcases error_of_getResultMatrix hfr with rfl | rfl
    · exact Or.inl (plApp_of_error R hfr)
    · exact Or.inr (plApp_of_error R hfr)

variable (h : Offered allDf choice)
  (hs : FixturesScored (SeasonSummary.init allDf choice.season))

include h hs

lemma plApp_league (hpage : choice.page = "League Tables") : plApp R allDf choice =
    leaguePage R (SeasonSummary.init allDf choice.season) choice.tableType := by
  obtain ⟨fr, hfr⟩ := getResultMatrix_ok_iff.mpr hs
  rw [plApp_of_matrix R h hfr]
  simp [hpage]

lemma plApp_matrix (hpage : choice.page = "Results Matrix") :
    ∃ fr, (SeasonSummary.init allDf choice.season).getResultMatrix = .ok fr ∧
      plApp R allDf choice =
        Script.emit (.matrix (fr.rows.map (fun r => Frame.cell r "Teams")) (fr.drop "Teams")) := by
  obtain ⟨fr, hfr⟩ := getResultMatrix_ok_iff.mpr hs
  refine ⟨fr, hfr, ?_⟩
  rw [plApp_of_matrix R h hfr]
  simp [hpage]

lemma plApp_headToHead (hpage : choice.page = "Head-to-Head") : plApp R allDf choice = (do
    teamColumn R (SeasonSummary.init allDf choice.season) choice.homeTeam
    teamColumn R (SeasonSummary.init allDf choice.season) choice.awayTeam) := by
  obtain ⟨fr, hfr⟩ := getResultMatrix_ok_iff.mpr hs
  rw [plApp_of_matrix R h hfr]
  simp [hpage]

end Run

/-- What a choice leads to: the page with all its tables, or the exception that stops the script
and what the page shows by then. -/
structure PageOutcome (R : Runtime) (s : SeasonSummary) (choice : Choice) (page : Page) : Prop where
  ok_iff : page.result = .ok () ↔ FixturesScored s ∧ (choice.page = "Head-to-Head" →
    Occurs s.data choice.homeTeam ∧ Occurs s.data choice.awayTeam)
  unscored : ¬ FixturesScored s → page.shown = [] ∧
    (page.result = .error (.python .indexError) ∨ page.result = .error (.python .valueError))
  league : FixturesScored s → choice.page = "League Tables" →
    ∃ t, s.calcMainTables R choice.tableType = .ok (some t) ∧
      page.shown = [.figures (t.map (fun r => (r.team, pick displayCols r.columns)))]
  matrix : FixturesScored s → choice.page = "Results Matrix" →
    ∃ fr, s.getResultMatrix = .ok fr ∧
      page.shown = [.matrix (fr.rows.map (fun r => Frame.cell r "Teams")) (fr.drop "Teams")]
  headToHead : FixturesScored s → choice.page = "Head-to-Head" → Occurs s.data choice.homeTeam →
    Occurs s.data choice.awayTeam → page.shown = .header choice.homeTeam ::
      teamTables R s choice.homeTeam ++ .header choice.awayTeam :: teamTables R s choice.awayTeam
  noHome : FixturesScored s → choice.page = "Head-to-Head" → ¬ Occurs s.data choice.homeTeam →
    page = ⟨[.header choice.homeTeam], .error (.python (.keyError choice.homeTeam))⟩
  noAway : FixturesScored s → choice.page = "Head-to-Head" → Occurs s.data choice.homeTeam →
    ¬ Occurs s.data choice.awayTeam →
      page = ⟨.header choice.homeTeam :: teamTables R s choice.homeTeam ++
        [.header choice.awayTeam], .error (.python (.keyError choice.awayTeam))⟩

section Outcome

variable (R : Runtime) {allDf : List Match} {choice : Choice} (h : Offered allDf choice)
  (hs : FixturesScored (SeasonSummary.init allDf choice.season))

include h hs

lemma league_outcome (hpage : choice.page = "League Tables") :
    ∃ t, (SeasonSummary.init allDf choice.season).calcMainTables R choice.tableType = .ok (some t) ∧
      plApp R allDf choice =
        ⟨[.figures (t.map (fun r => (r.team, pick displayCols r.columns)))], .ok ()⟩ := by
  obtain ⟨v, hv⟩ := exists_venue h.tableType
  refine ⟨_, hv ▸ calcMainTables_eq R _ v, ?_⟩
  rw [plApp_league R h hs hpage, hv, leaguePage_eq]
  rfl

lemma headToHead_outcome (hpage : choice.page = "Head-to-Head")
    (hhome : Occurs (SeasonSummary.init allDf choice.season).data choice.homeTeam)
    (haway : Occurs (SeasonSummary.init allDf choice.season).data choice.awayTeam) :
    plApp R allDf choice = ⟨.header choice.homeTeam ::
      teamTables R (SeasonSummary.init allDf choice.season) choice.homeTeam ++
        .header choice.awayTeam ::
          teamTables R (SeasonSummary.init allDf choice.season) choice.awayTeam, .ok ()⟩ := by
  rw [plApp_headToHead R h hs hpage, teamColumn_of_occurs R hhome, teamColumn_of_occurs R haway]
  rfl

lemma noHome_outcome (hpage : choice.page = "Head-to-Head")
    (hhome : ¬ Occurs (SeasonSummary.init allDf choice.season).data choice.homeTeam) :
    plApp R allDf choice =
      ⟨[.header choice.homeTeam], .error (.python (.keyError choice.homeTeam))⟩ := by
  rw [plApp_headToHead R h hs hpage, teamColumn_of_not_occurs R hhome]
  rfl

lemma noAway_outcome (hpage : choice.page = "Head-to-Head")
    (hhome : Occurs (SeasonSummary.init allDf choice.season).data choice.homeTeam)
    (haway : ¬ Occurs (SeasonSummary.init allDf choice.season).data choice.awayTeam) :
    plApp R allDf choice = ⟨.header choice.homeTeam ::
      teamTables R (SeasonSummary.init allDf choice.season) choice.homeTeam ++
        [.header choice.awayTeam], .error (.python (.keyError choice.awayTeam))⟩ := by
  rw [plApp_headToHead R h hs hpage, teamColumn_of_occurs R hhome, teamColumn_of_not_occurs R haway]
  rfl

lemma result_ok_iff_of_scored : (plApp R allDf choice).result = .ok () ↔
    (choice.page = "Head-to-Head" →
      Occurs (SeasonSummary.init allDf choice.season).data choice.homeTeam ∧
        Occurs (SeasonSummary.init allDf choice.season).data choice.awayTeam) := by
  have hpages := h.page
  simp only [mainMenu, List.mem_cons, List.not_mem_nil, or_false] at hpages
  rcases hpages with hpage | hpage | hpage
  · obtain ⟨t, -, hrun⟩ := league_outcome R h hs hpage
    simp [hrun, hpage]
  · obtain ⟨fr, -, hrun⟩ := plApp_matrix R h hs hpage
    simp [hrun, hpage]
  · by_cases hhome : Occurs (SeasonSummary.init allDf choice.season).data choice.homeTeam
    · by_cases haway : Occurs (SeasonSummary.init allDf choice.season).data choice.awayTeam
      · simp [headToHead_outcome R h hs hpage hhome haway, hhome, haway]
      · simp [noAway_outcome R h hs hpage hhome haway, hpage, haway]
    · simp [noHome_outcome R h hs hpage hhome, hpage, hhome]

end Outcome

lemma result_ok_iff (R : Runtime) {allDf : List Match} {choice : Choice}
    (h : Offered allDf choice) : (plApp R allDf choice).result = .ok () ↔
      FixturesScored (SeasonSummary.init allDf choice.season) ∧ (choice.page = "Head-to-Head" →
        Occurs (SeasonSummary.init allDf choice.season).data choice.homeTeam ∧
          Occurs (SeasonSummary.init allDf choice.season).data choice.awayTeam) := by
  by_cases hs : FixturesScored (SeasonSummary.init allDf choice.season)
  · rw [result_ok_iff_of_scored R h hs, and_iff_right hs]
  · rcases plApp_of_unscored R hs with hrun | hrun
    · simp [hrun, hs]
    · simp [hrun, hs]

/-- The outcome of the script for every choice from its menus. -/
theorem plApp_outcome (R : Runtime) (allDf : List Match) (choice : Choice)
    (h : Offered allDf choice) :
    PageOutcome R (SeasonSummary.init allDf choice.season) choice (plApp R allDf choice) := by
  constructor
  · exact result_ok_iff R h
  · intro hs
    rcases plApp_of_unscored R hs with hrun | hrun
    · rw [hrun]
      exact ⟨rfl, Or.inl rfl⟩
    · rw [hrun]
      exact ⟨rfl, Or.inr rfl⟩
  · intro hs hpage
    obtain ⟨t, ht, hrun⟩ := league_outcome R h hs hpage
    exact ⟨t, ht, congrArg Script.shown hrun⟩
  · intro hs hpage
    obtain ⟨fr, hfr, hrun⟩ := plApp_matrix R h hs hpage
    exact ⟨fr, hfr, congrArg Script.shown hrun⟩
  · intro hs hpage hhome haway
    exact congrArg Script.shown (headToHead_outcome R h hs hpage hhome haway)
  · intro hs hpage hhome
    exact noHome_outcome R h hs hpage hhome
  · intro hs hpage hhome haway
    exact noAway_outcome R h hs hpage hhome haway

instance (s : SeasonSummary) : Decidable (FixturesScored s) :=
  decidable_of_iff (∀ t ∈ s.matrixTeams, ∀ u ∈ s.matrixTeams, t ≠ u →
      ∃ m ∈ (cellMatches s t u).head?, m.HasScore) Iff.rfl

theorem plApp_outcome_openSeason :
    (plApp firstSeen openSeason.data
      ⟨"Head-to-Head", "20-21", "overall", "Arsenal", "Liverpool"⟩).result =
        .error (.python (.keyError "Liverpool")) := by
  have hrun := (plApp_outcome firstSeen openSeason.data
    ⟨"Head-to-Head", "20-21", "overall", "Arsenal", "Liverpool"⟩ (by decide)).noAway
    (by decide +kernel) rfl (by decide) (by decide)
  rw [hrun]

/-! ### The pages agree -/

/-- The cell that the first table with this row and column shows. -/
def figure? (ws : List Widget) (index col : String) : Option ExactFloat :=
  ws.findSome? (fun w =>
    match w with
    | .figures rows => (rows.find? (fun r => r.1 == index)).bind (fun r => Dict.get? r.2 col)
    | _ => none)

/-- The columns with the same figures on the League Tables and the Head-to-Head page. -/
def sharedColumns : List (String × String) := [("played", "mp"), ("won", "win"), ("draw", "draw"),
  ("lost", "lost"), ("goals_scored", "gs"), ("goals_conceded", "gc"), ("points", "points")]

/-- The row of a venue in the tables of a team. -/
def Venue.category : Venue → String
  | home => "Home"
  | away => "Away"
  | overall => "Total"

/-- The team has the same figures in the league table and in its tables. -/
def FiguresAgree (v : Venue) (league tables : List Widget) (team : String) : Prop :=
  ∀ p ∈ sharedColumns, ∃ x, figure? league team p.1 = some x ∧
    figure? tables v.category p.2 = some x

section Agree

variable (R : Runtime) {s : SeasonSummary} (v : Venue) {team : String}

lemma get?_pick (cols : List String) (row : Dict String ExactFloat) (c : String) :
    (pick cols row).get? c = if c ∈ cols then some ((row.get? c).getD .nan) else none :=
  Dict.get?_map_pair cols _ c

lemma find?_of_loc {t : Table} {row : TableRow} (h : loc t team = .ok row) :
    t.find? (fun r => r.team == team) = some row := by
  unfold loc at h
  split at h
  · rename_i r hfind
    rw [hfind, Except.ok.inj h]
  · exact nomatch h

lemma figure?_league (ht : Occurs s.data team) {c : String} (hc : c ∈ displayCols) :
    figure? [.figures ((table R s v).map (fun r => (r.team, pick displayCols r.columns)))] team c =
      some (((rowOf R s v team).columns.get? c).getD .nan) := by
  have hfind := find?_of_loc (loc_table (R := R) v ht)
  have hrow : ((table R s v).map (fun r => (r.team, pick displayCols r.columns))).find?
      (fun r => r.1 == team) = some (team, pick displayCols (rowOf R s v team).columns) := by
    rw [List.find?_map]
    change ((table R s v).find? (fun r => r.team == team)).map _ = _
    rw [hfind, Option.map_some, rowOf_team]
  unfold figure?
  rw [List.findSome?_singleton]
  dsimp only
  rw [hrow, Option.bind_some, get?_pick, if_pos hc]

lemma figure?_teamTables {c : String} (hc : c ∈ statsDisplays.flatten) :
    figure? (teamTables R s team) v.category c =
      some (((statsRow v.category (rowOf R s v team)).columns.get? c).getD .nan) := by
  unfold figure? teamTables
  rw [List.findSome?_map, ← findSome?_ite_mem _ hc]
  congr 1
  funext cols
  rw [← get?_pick]
  cases v <;> rfl

end Agree

lemma idxOf_lt_of_rank_lt (R : Runtime) {s : SeasonSummary} (v : Venue) {t u : String}
    (ht : Occurs s.data t) (hu : Occurs s.data u)
    (h : (rowOf R s v t).rank < (rowOf R s v u).rank) :
    ((table R s v).map (·.team)).idxOf t < ((table R s v).map (·.team)).idxOf u := by
  have hmem : ∀ team, Occurs s.data team → team ∈ (table R s v).map (·.team) :=
    fun team hteam => (map_table_team R s v).mem_iff.mpr (mem_teams.mpr hteam)
  have hsorted : ((table R s v).map (·.team)).Pairwise
      (fun a b => (rowOf R s v a).rank ≤ (rowOf R s v b).rank) := by
    rw [List.pairwise_map]
    apply (table_sorted R s v).imp_of_mem
    intro r r' hr hr' hle
    obtain ⟨a, -, rfl⟩ := mem_table.mp hr
    obtain ⟨b, -, rfl⟩ := mem_table.mp hr'
    rwa [rowOf_team, rowOf_team]
  exact idxOf_lt_of_pairwise hsorted (hmem t ht) (hmem u hu) h

/-- The two pages may be shown by different runs of the script. -/
lemma rowOf_runtime (R R' : Runtime) {s : SeasonSummary} (v : Venue) {team : String}
    (ht : Occurs s.data team) : rowOf R s v team = rowOf R' s v team :=
  rowOf_congr R R' (fun _ => Iff.rfl) (fun _ => rfl) ht

lemma figuresAgree (R R' : Runtime) {s : SeasonSummary} (v : Venue) {team : String}
    (ht : Occurs s.data team) : FiguresAgree v
      [.figures ((table R s v).map (fun r => (r.team, pick displayCols r.columns)))]
      (teamTables R' s team) team := by
  intro p hp
  have hcols : p.1 ∈ displayCols ∧ p.2 ∈ statsDisplays.flatten ∧ ∀ row : TableRow,
      row.columns.get? p.1 = (statsRow v.category row).columns.get? p.2 := by
    simp only [sharedColumns, List.mem_cons, List.not_mem_nil, or_false] at hp
    rcases hp with rfl | rfl | rfl | rfl | rfl | rfl | rfl
    all_goals exact ⟨by decide, by decide, fun row => rfl⟩
  obtain ⟨hdisplay, hstats, hrow⟩ := hcols
  refine ⟨_, figure?_league R v ht hdisplay, ?_⟩
  rw [figure?_teamTables R' v hstats, hrow, rowOf_runtime R R' v ht]

/-- A season has one set of figures: both teams of the Head-to-Head page have there the figures of
the league table, and the one with the better position has its row above in the league table. -/
theorem pages_agree (R R' : Runtime) (allDf : List Match) (league headToHead : Choice)
    (hl : Offered allDf league) (hh : Offered allDf headToHead)
    (hseason : league.season = headToHead.season) (hpl : league.page = "League Tables")
    (hph : headToHead.page = "Head-to-Head")
    (hok : (plApp R' allDf headToHead).result = .ok ()) :
    ∃ (v : Venue) (rows : List (String × Dict String ExactFloat))
      (homeTables awayTables : List Widget),
      league.tableType = v.label ∧ plApp R allDf league = ⟨[.figures rows], .ok ()⟩ ∧
      (plApp R' allDf headToHead).shown = .header headToHead.homeTeam :: homeTables ++
        .header headToHead.awayTeam :: awayTables ∧
      FiguresAgree v [.figures rows] homeTables headToHead.homeTeam ∧
      FiguresAgree v [.figures rows] awayTables headToHead.awayTeam ∧
      ∃ p q : ℕ, figure? homeTables v.category "position" = some (.fin p) ∧
        figure? awayTables v.category "position" = some (.fin q) ∧
        (p < q → (rows.map Prod.fst).idxOf headToHead.homeTeam <
          (rows.map Prod.fst).idxOf headToHead.awayTeam) ∧
        (q < p → (rows.map Prod.fst).idxOf headToHead.awayTeam <
          (rows.map Prod.fst).idxOf headToHead.homeTeam) := by
  obtain ⟨hs, hoccurs⟩ := (result_ok_iff R' hh).mp hok
  obtain ⟨hhome, haway⟩ := hoccurs hph
  obtain ⟨v, hv⟩ := exists_venue hl.tableType
  have hleague := plApp_league R hl (hseason ▸ hs) hpl
  rw [hv, leaguePage_eq, hseason] at hleague
  have hteams : ((table R (SeasonSummary.init allDf headToHead.season) v).map
      (fun r => (r.team, pick displayCols r.columns))).map Prod.fst =
        (table R (SeasonSummary.init allDf headToHead.season) v).map (·.team) := List.map_map
  refine ⟨v, _, _, _, hv, hleague, congrArg Script.shown
    (headToHead_outcome R' hh hs hph hhome haway), figuresAgree R R' v hhome,
    figuresAgree R R' v haway,
    _, _, figure?_teamTables R' v (by decide), figure?_teamTables R' v (by decide), ?_, ?_⟩
  · intro h
    rw [hteams]
    apply idxOf_lt_of_rank_lt R v hhome haway
    rwa [rowOf_runtime R R' v hhome, rowOf_runtime R R' v haway]
  · intro h
    rw [hteams]
    apply idxOf_lt_of_rank_lt R v haway hhome
    rwa [rowOf_runtime R R' v hhome, rowOf_runtime R R' v haway]

/-- Both pages show the three points that Arsenal has won at home. -/
theorem pages_agree_openSeason : ∃ homeTables awayTables,
    (plApp firstSeen openSeason.data
        ⟨"Head-to-Head", "20-21", "home", "Arsenal", "Chelsea"⟩).shown =
      .header "Arsenal" :: homeTables ++ .header "Chelsea" :: awayTables ∧
    figure? (plApp firstSeen openSeason.data
        ⟨"League Tables", "20-21", "home", "Arsenal", "Chelsea"⟩).shown "Arsenal" "points" =
      some (.fin 3) ∧
    figure? homeTables "Home" "points" = some (.fin 3) := by
  have hh : Offered openSeason.data ⟨"Head-to-Head", "20-21", "home", "Arsenal", "Chelsea"⟩ := by
    decide
  have hok := (result_ok_iff firstSeen hh).mpr
    ⟨by decide +kernel, fun _ => ⟨by decide, by decide⟩⟩
  obtain ⟨v, rows, homeTables, awayTables, hv, hleague, hshown, hagree, -⟩ :=
    pages_agree firstSeen firstSeen openSeason.data
      ⟨"League Tables", "20-21", "home", "Arsenal", "Chelsea"⟩ _ (by decide) hh rfl rfl rfl hok
  obtain rfl : v = .home := by
    cases v with
    | home => rfl
    | away => exact absurd hv (by decide)
    | overall => exact absurd hv (by decide)
  have hpoints : figure? (plApp firstSeen openSeason.data
      ⟨"League Tables", "20-21", "home", "Arsenal", "Chelsea"⟩).shown "Arsenal" "points" =
        some (.fin 3) := by
    decide +kernel
  refine ⟨homeTables, awayTables, hshown, hpoints, ?_⟩
  obtain ⟨x, hx, hx'⟩ := hagree ("points", "points") (by decide)
  rw [hleague] at hpoints
  exact hx'.trans (hx.symm.trans hpoints)

end PremierLeague.Proofs
