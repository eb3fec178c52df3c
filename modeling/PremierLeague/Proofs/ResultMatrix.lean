import PremierLeague.Proofs.OverallTable
import PremierLeague.ResultMatrix

/-!
# When the matrix of results exists

The double loop reads one cell for every ordered pair of home teams, and a cell between two
different teams needs a match. The matrix is therefore returned, with a row and a column for
every team, exactly for schedules that are complete between the teams they mention.
-/

namespace PremierLeague.Proofs

open Tabular SeasonSummary

/-! ### Cells -/

def cellMatches (s : SeasonSummary) (team opponent : String) : List Match :=
  s.data.filter (fun m => m.HomeTeam == team && m.AwayTeam == opponent)

lemma mem_cellMatches {s : SeasonSummary} {team opponent : String} {m : Match} :
    m ∈ cellMatches s team opponent ↔
      m ∈ s.data ∧ m.HomeTeam = team ∧ m.AwayTeam = opponent := by
  simp [cellMatches]

lemma cellMatches_eq_nil {s : SeasonSummary} {team opponent : String} :
    cellMatches s team opponent = [] ↔ ¬ Played s.data team opponent := by
  unfold Played
  rw [List.eq_nil_iff_forall_not_mem, not_exists]
  simp only [mem_cellMatches]

lemma resultCell_self (s : SeasonSummary) (team : String) : s.resultCell team team = .ok "-" :=
  if_pos rfl

lemma resultCell_missing {s : SeasonSummary} {team opponent : String} (hne : team ≠ opponent)
    (h : ¬ Played s.data team opponent) : s.resultCell team opponent = .error .indexError := by
  have hnil := cellMatches_eq_nil.mpr h
  unfold cellMatches at hnil
  unfold resultCell
  rw [if_neg hne]
  simp only [hnil]
  rfl

lemma resultCell_cons {s : SeasonSummary} {team opponent : String} (hne : team ≠ opponent)
    {m : Match} {ms : List Match} (h : cellMatches s team opponent = m :: ms) {hg ag : ℚ}
    (hh : m.FTHG = some hg) (ha : m.FTAG = some ag) :
    s.resultCell team opponent =
      .ok (toString (hg.num.tdiv hg.den) ++ "-" ++ toString (ag.num.tdiv ag.den)) := by
  unfold cellMatches at h
  unfold resultCell
  rw [if_neg hne]
  simp only [h, List.map_cons, hh, ha]
  rfl

/-- What a cell that is read holds: the diagonal mark or a text with a dash in it. -/
lemma resultCell_ok {s : SeasonSummary} (hs : NoMissingScores s.data) {team opponent : String}
    (h : team = opponent ∨ Played s.data team opponent) :
    ∃ c, s.resultCell team opponent = .ok c ∧ '-' ∈ c.toList := by
  by_cases hne : team = opponent
  · subst hne
    exact ⟨"-", resultCell_self s team, by decide⟩
  · have hplayed : Played s.data team opponent := h.resolve_left hne
    cases hms : cellMatches s team opponent with
    | nil => exact absurd hplayed (cellMatches_eq_nil.mp hms)
    | cons m ms =>
      have hm : m ∈ cellMatches s team opponent := hms ▸ List.mem_cons_self
      obtain ⟨hh, ha⟩ := hs m (mem_cellMatches.mp hm).1
      refine ⟨_, resultCell_cons hne hms (Cell.eq_some_val hh) (Cell.eq_some_val ha), ?_⟩
      rw [String.toList_append, String.toList_append]
      exact List.mem_append_left _ (List.mem_append_right _ (by decide))

lemma resultCell_ok_iff {s : SeasonSummary} (hs : NoMissingScores s.data)
    {team opponent : String} :
    (∃ c, s.resultCell team opponent = .ok c) ↔
      team = opponent ∨ Played s.data team opponent := by
  constructor
  · rintro ⟨c, hc⟩
    by_contra hnot
    obtain ⟨hne, hplayed⟩ := not_or.mp hnot
    rw [resultCell_missing hne hplayed] at hc
    exact nomatch hc
  · intro h
    obtain ⟨c, hc, -⟩ := resultCell_ok hs h
    exact ⟨c, hc⟩

/-! ### The frame -/

def matrixRecord (teams : List String) (c : String → String) (team : String) :
    Dict String String := Dict.setAll [("Teams", team)] teams c

def matrixFrame (teams : List String) (c : String → String → String) : Frame String :=
  Frame.fromRecords (teams.map (fun team => matrixRecord teams (c team) team))

lemma mem_matrixTeams {s : SeasonSummary} {team : String} :
    team ∈ s.matrixTeams ↔ ∃ m ∈ s.data, m.HomeTeam = team := by
  unfold matrixTeams
  rw [List.mem_insertionSort, Series.mem_unique, List.mem_map]

lemma matrixTeams_sorted (s : SeasonSummary) : s.matrixTeams.Pairwise (· < ·) := by
  have hn : s.matrixTeams.Nodup :=
    (List.perm_insertionSort _ _).nodup_iff.mpr (Series.nodup_unique _)
  have hle : s.matrixTeams.Pairwise (· ≤ ·) := List.pairwise_insertionSort _ _
  exact (hle.and hn).imp (fun ⟨h, hne⟩ => lt_of_le_of_ne h hne)

lemma nodup_matrixTeams (s : SeasonSummary) : s.matrixTeams.Nodup :=
  (matrixTeams_sorted s).imp (fun h => h.ne)

/-- If every cell can be read, the matrix is the frame of these cells. -/
theorem getResultMatrix_eq {s : SeasonSummary} {c : String → String → String}
    (h : ∀ t ∈ s.matrixTeams, ∀ u ∈ s.matrixTeams, s.resultCell t u = .ok (c t u)) :
    s.getResultMatrix = .ok (matrixFrame s.matrixTeams c) := by
  have hrows : s.matrixTeams.mapM
        (fun team => setLoop (s.resultCell team) s.matrixTeams [("Teams", team)]) =
      .ok (s.matrixTeams.map (fun team => matrixRecord s.matrixTeams (c team) team)) :=
    mapM_ok (fun t ht => setLoop_ok (h t ht) _)
  unfold getResultMatrix
  simp only [hrows]
  rfl

theorem resultCell_of_getResultMatrix {s : SeasonSummary} {fr : Frame String}
    (h : s.getResultMatrix = .ok fr) :
    ∀ t ∈ s.matrixTeams, ∀ u ∈ s.matrixTeams, ∃ c, s.resultCell t u = .ok c := by
  obtain ⟨rows, hrows, -⟩ := exists_of_bind_ok h
  intro t ht
  obtain ⟨row, hrow⟩ := ok_of_mapM_ok hrows t ht
  exact ok_of_setLoop_ok hrow

lemma get?_matrixRecord (teams : List String) (c : String → String) (team col : String) :
    Dict.get? (matrixRecord teams c team) col =
      if col ∈ teams then some (c col) else if "Teams" = col then some team else none := by
  unfold matrixRecord
  rw [Dict.get?_setAll]
  rfl

lemma mem_keys_matrixRecord {teams : List String} {c : String → String} {team col : String} :
    col ∈ Dict.keys (matrixRecord teams c team) ↔ col = "Teams" ∨ col ∈ teams := by
  unfold matrixRecord
  rw [Dict.mem_keys_setAll]
  simp [Dict.keys]

lemma mem_columns_matrixFrame {teams : List String} {c : String → String → String}
    {col : String} :
    col ∈ (matrixFrame teams c).columns ↔ teams ≠ [] ∧ (col = "Teams" ∨ col ∈ teams) := by
  change col ∈ Series.unique _ ↔ _
  rw [Series.mem_unique, List.mem_flatMap, List.ne_nil_iff_exists_cons]
  constructor
  · rintro ⟨r, hr, hcol⟩
    obtain ⟨t, ht, rfl⟩ := List.mem_map.mp hr
    exact ⟨List.exists_cons_of_ne_nil (List.ne_nil_of_mem ht), mem_keys_matrixRecord.mp hcol⟩
  · rintro ⟨⟨t, ts, rfl⟩, hcol⟩
    exact ⟨_, List.mem_map_of_mem List.mem_cons_self, mem_keys_matrixRecord.mpr hcol⟩

lemma exists_row_matrixFrame {teams : List String} {c : String → String → String}
    {row : Dict String (Option String)} (h : row ∈ (matrixFrame teams c).rows) :
    ∃ t ∈ teams, ∀ col,
      Frame.cell row col = Dict.get? (matrixRecord teams (c t) t) col := by
  obtain ⟨r, hr, rfl⟩ := List.mem_map.mp h
  obtain ⟨t, ht, rfl⟩ := List.mem_map.mp hr
  exact ⟨t, ht, Frame.cell_fromRecords hr⟩

lemma exists_row_of_mem {teams : List String} (c : String → String → String) {t : String}
    (ht : t ∈ teams) :
    ∃ row ∈ (matrixFrame teams c).rows, ∀ col,
      Frame.cell row col = Dict.get? (matrixRecord teams (c t) t) col :=
  ⟨_, List.mem_map_of_mem (List.mem_map_of_mem ht),
    Frame.cell_fromRecords (List.mem_map_of_mem ht)⟩

/-! ### Rows and columns for every team -/

/-- A row labelled with the team and a column under its name. -/
def HasTeam (fr : Frame String) (team : String) : Prop :=
  (∃ row ∈ fr.rows, Frame.cell row "Teams" = some team) ∧ team ∈ fr.columns

/-- The matrix is returned and every team of the season has a row and a column. -/
def MatrixCovers (s : SeasonSummary) : Prop :=
  ∃ fr, s.getResultMatrix = .ok fr ∧ ∀ team, Occurs s.data team → HasTeam fr team

/-- Every two different teams of the season have met at the ground of each. -/
def CompleteSchedule (data : List Match) : Prop :=
  ∀ t u, Occurs data t → Occurs data u → t ≠ u → Played data t u

instance (data : List Match) : Decidable (CompleteSchedule data) :=
  decidable_of_iff (∀ m ∈ data, ∀ m' ∈ data, ∀ t ∈ [m.HomeTeam, m.AwayTeam],
      ∀ u ∈ [m'.HomeTeam, m'.AwayTeam], t ≠ u → Played data t u) <| by
    constructor
    · rintro h t u ⟨m, hm, ht⟩ ⟨m', hm', hu⟩ hne
      exact h m hm m' hm' t (by simpa [eq_comm] using ht) u (by simpa [eq_comm] using hu) hne
    · intro h m hm m' hm' t ht u hu hne
      exact h t u ⟨m, hm, by simpa [eq_comm] using ht⟩ ⟨m', hm', by simpa [eq_comm] using hu⟩ hne

lemma mem_matrixTeams_of_complete {s : SeasonSummary} (h : CompleteSchedule s.data) {t : String}
    (ht : Occurs s.data t) : t ∈ s.matrixTeams := by
  obtain ⟨m, hm, hside⟩ := ht
  by_cases hhome : m.HomeTeam = t
  · exact mem_matrixTeams.mpr ⟨m, hm, hhome⟩
  · obtain ⟨m', hm', h', -⟩ :=
      h t m.HomeTeam ⟨m, hm, hside⟩ ⟨m, hm, Or.inl rfl⟩ (Ne.symm hhome)
    exact mem_matrixTeams.mpr ⟨m', hm', h'⟩

lemma occurs_of_mem_matrixTeams {s : SeasonSummary} {t : String} (ht : t ∈ s.matrixTeams) :
    Occurs s.data t := by
  obtain ⟨m, hm, h⟩ := mem_matrixTeams.mp ht
  exact ⟨m, hm, Or.inl h⟩

lemma exists_cells {s : SeasonSummary} (hs : NoMissingScores s.data)
    (h : ∀ t ∈ s.matrixTeams, ∀ u ∈ s.matrixTeams, t = u ∨ Played s.data t u) :
    ∃ c, s.getResultMatrix = .ok (matrixFrame s.matrixTeams c) ∧
      ∀ t ∈ s.matrixTeams, ∀ u ∈ s.matrixTeams, '-' ∈ (c t u).toList := by
  classical
  let c := fun t u =>
    if htu : t = u ∨ Played s.data t u then (resultCell_ok hs htu).choose else ""
  have hc : ∀ t ∈ s.matrixTeams, ∀ u ∈ s.matrixTeams,
      s.resultCell t u = .ok (c t u) ∧ '-' ∈ (c t u).toList := by
    intro t ht u hu
    simp only [c, dif_pos (h t ht u hu)]
    exact (resultCell_ok hs (h t ht u hu)).choose_spec
  exact ⟨c, getResultMatrix_eq (fun t ht u hu => (hc t ht u hu).1),
    fun t ht u hu => (hc t ht u hu).2⟩

/-- No row can be labelled `Teams`. -/
lemma not_hasTeam_label {teams : List String} {c : String → String → String}
    (hc : ∀ t ∈ teams, ∀ u ∈ teams, '-' ∈ (c t u).toList) :
    ¬ HasTeam (matrixFrame teams c) "Teams" := by
  rintro ⟨⟨row, hrow, hlabel⟩, -⟩
  obtain ⟨t, ht, hcell⟩ := exists_row_matrixFrame hrow
  rw [hcell, get?_matrixRecord] at hlabel
  by_cases hmem : "Teams" ∈ teams
  · rw [if_pos hmem, Option.some_inj] at hlabel
    have hdash := hc t ht "Teams" hmem
    rw [hlabel] at hdash
    exact absurd hdash (by decide)
  · rw [if_neg hmem, if_pos rfl, Option.some_inj] at hlabel
    exact hmem (hlabel ▸ ht)

/-- The matrix covers all teams exactly when the schedule is complete and no team is named
like the label column. -/
theorem matrixCovers_iff (s : SeasonSummary) (hs : NoMissingScores s.data) :
    MatrixCovers s ↔ CompleteSchedule s.data ∧ ¬ Occurs s.data "Teams" := by
  constructor
  · rintro ⟨fr, hfr, hteam⟩
    have hread : ∀ t ∈ s.matrixTeams, ∀ u ∈ s.matrixTeams, t = u ∨ Played s.data t u :=
      fun t ht u hu => (resultCell_ok_iff hs).mp (resultCell_of_getResultMatrix hfr t ht u hu)
    obtain ⟨c, hc, hdash⟩ := exists_cells hs hread
    obtain rfl : matrixFrame s.matrixTeams c = fr := by
      rw [hc] at hfr
      exact Except.ok.inj hfr
    have hlabel : ¬ Occurs s.data "Teams" := fun h => not_hasTeam_label hdash (hteam _ h)
    have hhome : ∀ t, Occurs s.data t → t ∈ s.matrixTeams := by
      intro t ht
      rcases (mem_columns_matrixFrame.mp (hteam t ht).2).2 with rfl | hmem
      · exact absurd ht hlabel
      · exact hmem
    refine ⟨?_, hlabel⟩
    intro t u ht hu hne
    exact (hread t (hhome t ht) u (hhome u hu)).resolve_left hne
  · rintro ⟨hcomplete, hlabel⟩
    have hread : ∀ t ∈ s.matrixTeams, ∀ u ∈ s.matrixTeams, t = u ∨ Played s.data t u := by
      intro t ht u hu
      by_cases hne : t = u
      · exact Or.inl hne
      · exact Or.inr (hcomplete t u (occurs_of_mem_matrixTeams ht)
          (occurs_of_mem_matrixTeams hu) hne)
    obtain ⟨c, hc, -⟩ := exists_cells hs hread
    refine ⟨_, hc, ?_⟩
    intro t ht
    have hmem := mem_matrixTeams_of_complete hcomplete ht
    have hteams : "Teams" ∉ s.matrixTeams := fun h => hlabel (occurs_of_mem_matrixTeams h)
    obtain ⟨row, hrow, hcell⟩ := exists_row_of_mem c hmem
    refine ⟨⟨row, hrow, ?_⟩, mem_columns_matrixFrame.mpr ⟨List.ne_nil_of_mem hmem, Or.inr hmem⟩⟩
    rw [hcell, get?_matrixRecord, if_neg hteams, if_pos rfl]

def twoLegs : SeasonSummary :=
  .init [fixture "Arsenal" "Chelsea" 2 1, fixture "Chelsea" "Arsenal" 0 0] "20-21"

theorem matrixCovers_twoLegs : MatrixCovers twoLegs :=
  (matrixCovers_iff twoLegs (by decide)).mpr (by decide)

/-- A season after its first matches: Arsenal and Chelsea are both home teams, and Chelsea has
not received Arsenal yet. -/
def firstRound : SeasonSummary :=
  .init [fixture "Arsenal" "Chelsea" 2 1, fixture "Chelsea" "Leeds" 0 0] "20-21"

theorem not_matrixCovers_firstRound :
    firstRound.data ≠ [] ∧ NoMissingScores firstRound.data ∧ DistinctSides firstRound.data ∧
      UniqueFixtures firstRound.data ∧ firstRound.getResultMatrix = .error .indexError ∧
      ¬ MatrixCovers firstRound := by
  have herror : firstRound.getResultMatrix = .error .indexError := by decide +kernel
  refine ⟨by decide, by decide, by decide, by decide, herror, ?_⟩
  rintro ⟨fr, hfr, -⟩
  rw [herror] at hfr
  exact nomatch hfr

end PremierLeague.Proofs
