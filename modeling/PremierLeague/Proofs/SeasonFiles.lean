import PremierLeague.DataProc
import PremierLeague.Proofs.LoadSelect
import PremierLeague.Proofs.ZeroCounts

/-!
# From files to seasons

Reading the rows of the loaded table as matches gives the matches of all files, and a season of
the loaded table holds the matches of the files with its label, whatever the other files hold.
The labels found in the loaded table are those of the files with a match, and their seasons share
out the loaded matches. The script of the data module needs no more of the files than the two
columns of goals: it prints the scorelines exactly when the files of the season 19-20 have every
scoreline up to 3-3.
-/

namespace PremierLeague.Proofs

open Tabular SeasonSummary

/-! ### Reading cells and rows -/

/-- The row holds the match: text in the columns of names and results, numbers in the others, and
missing cells for missing values. -/
structure Reads (r : Dict String (Option Value)) (m : Match) : Prop where
  season : Frame.cell r "season" = some (.text m.season)
  HomeTeam : Frame.cell r "HomeTeam" = some (.text m.HomeTeam)
  AwayTeam : Frame.cell r "AwayTeam" = some (.text m.AwayTeam)
  FTHG : Frame.cell r "FTHG" = m.FTHG.map .number
  FTAG : Frame.cell r "FTAG" = m.FTAG.map .number
  FTR : Frame.cell r "FTR" = m.FTR.map .text
  HTHG : Frame.cell r "HTHG" = m.HTHG.map .number
  HTAG : Frame.cell r "HTAG" = m.HTAG.map .number
  HS : Frame.cell r "HS" = m.HS.map .number
  AS : Frame.cell r "AS" = m.AS.map .number
  HST : Frame.cell r "HST" = m.HST.map .number
  AST : Frame.cell r "AST" = m.AST.map .number
  HC : Frame.cell r "HC" = m.HC.map .number
  AC : Frame.cell r "AC" = m.AC.map .number
  HF : Frame.cell r "HF" = m.HF.map .number
  AF : Frame.cell r "AF" = m.AF.map .number
  HY : Frame.cell r "HY" = m.HY.map .number
  AY : Frame.cell r "AY" = m.AY.map .number
  HR : Frame.cell r "HR" = m.HR.map .number
  AR : Frame.cell r "AR" = m.AR.map .number
  PSH : Frame.cell r "PSH" = m.PSH.map .number
  PSD : Frame.cell r "PSD" = m.PSD.map .number
  PSA : Frame.cell r "PSA" = m.PSA.map .number
  B365H : Frame.cell r "B365H" = m.B365H.map .number
  B365D : Frame.cell r "B365D" = m.B365D.map .number
  B365A : Frame.cell r "B365A" = m.B365A.map .number

section Reading

variable {r r' : Dict String (Option Value)} {col : String}

lemma numberCell_eq_some {c : Cell} :
    numberCell r col = some c ↔ Frame.cell r col = c.map .number := by
  unfold numberCell
  split
  · rename_i h
    cases c <;> simp [h]
  · rename_i q h
    cases c <;> simp [h]
  · rename_i v hq h
    cases c with
    | none => simp [h]
    | some q =>
      rw [h, Option.map_some, Option.some.injEq]
      exact ⟨nofun, fun hv => absurd hv (hq q)⟩

lemma textCell_eq_some {c : Option String} :
    textCell r col = some c ↔ Frame.cell r col = c.map .text := by
  unfold textCell
  split
  · rename_i h
    cases c <;> simp [h]
  · rename_i s h
    cases c <;> simp [h]
  · rename_i v hs h
    cases c with
    | none => simp [h]
    | some s =>
      rw [h, Option.map_some, Option.some.injEq]
      exact ⟨nofun, fun hv => absurd hv (hs s)⟩

lemma nameCell_eq_some {s : String} :
    nameCell r col = some s ↔ Frame.cell r col = some (.text s) := by
  unfold nameCell
  simp only [Option.bind_eq_bind, Option.bind_eq_some_iff, textCell_eq_some]
  constructor
  · rintro ⟨c, h, rfl⟩
    exact h
  · intro h
    exact ⟨some s, h, rfl⟩

/-- Reading a row succeeds exactly on the rows that hold a match. -/
theorem readMatch_eq_some {m : Match} : readMatch r = some m ↔ Reads r m := by
  constructor
  · intro h
    -- one bind for each of the 26 columns
    iterate 26 obtain ⟨_, _, h⟩ := Option.bind_eq_some_iff.mp h
    obtain rfl := Option.some.inj h
    constructor
    all_goals first
      | exact numberCell_eq_some.mp ‹_›
      | exact nameCell_eq_some.mp ‹_›
      | exact textCell_eq_some.mp ‹_›
  · intro h
    have hn : ∀ {col s}, Frame.cell r col = some (.text s) → nameCell r col = some s :=
      nameCell_eq_some.mpr
    have hq : ∀ {col c}, Frame.cell r col = Option.map .number c → numberCell r col = some c :=
      numberCell_eq_some.mpr
    rw [readMatch, hn h.season, hn h.HomeTeam, hn h.AwayTeam, hq h.FTHG, hq h.FTAG,
      textCell_eq_some.mpr h.FTR, hq h.HTHG, hq h.HTAG, hq h.HS, hq h.AS, hq h.HST, hq h.AST,
      hq h.HC, hq h.AC, hq h.HF, hq h.AF, hq h.HY, hq h.AY, hq h.HR, hq h.AR, hq h.PSH, hq h.PSD,
      hq h.PSA, hq h.B365H, hq h.B365D, hq h.B365A]
    rfl

/-- Rows with the same cells are read alike. -/
lemma readMatch_congr (h : ∀ c, Frame.cell r c = Frame.cell r' c) : readMatch r = readMatch r' := by
  unfold readMatch nameCell numberCell textCell
  simp only [h]

end Reading

/-! ### The loaded matches -/

section Loaded

variable {files : List CsvFile} {data : List Match}

lemma season_of_matches {f : CsvFile} {ms : List Match} (h : f.matches = some ms) :
    ∀ m ∈ ms, m.season = f.season := by
  intro m hm
  obtain ⟨r, hr, hread⟩ := mem_of_mapM_some h m hm
  obtain ⟨r', -, rfl⟩ := List.mem_map.mp hr
  have hcell := (readMatch_eq_some.mp hread).season
  rw [Frame.cell_set_self, Option.some.injEq, Value.text.injEq] at hcell
  exact hcell.symm

/-- The loaded matches are the matches of the files put together. -/
lemma exists_matches (h : allMatches files = some data) :
    ∃ ms : CsvFile → List Match, (∀ f ∈ files, f.matches = some (ms f)) ∧
      data = files.flatMap ms := by
  rw [allMatches, Option.bind_eq_bind, Option.bind_eq_some_iff] at h
  obtain ⟨lists, hlists, hflat⟩ := h
  have hms : ∀ f ∈ files, f.matches = some (f.matches.getD []) := by
    intro f hf
    obtain ⟨ms, hf⟩ := some_of_mapM_some hlists f hf
    rw [hf, Option.getD_some]
  refine ⟨fun f => f.matches.getD [], hms, ?_⟩
  rw [mapM_some hms, Option.some.injEq] at hlists
  rw [← Option.some.inj hflat, ← hlists, List.flatMap_def]

lemma allMatches_of_matches {ms : CsvFile → List Match}
    (h : ∀ f ∈ files, f.matches = some (ms f)) : allMatches files = some (files.flatMap ms) := by
  rw [allMatches, mapM_some h, List.flatMap_def]
  rfl

/-- The matches of a season are the matches of the files with its label. -/
lemma allMatches_filter (h : allMatches files = some data) (season : String) :
    allMatches (files.filter (fun f => f.season == season)) =
      some (data.filter (fun m => m.season == season)) := by
  obtain ⟨ms, hms, rfl⟩ := exists_matches h
  rw [allMatches_of_matches (fun f hf => hms f (List.mem_filter.mp hf).1),
    filter_flatMap_key Match.season CsvFile.season ms (fun f hf => season_of_matches (hms f hf))]

/-- The labels of the loaded matches. -/
lemma labels_eq (h : allMatches files = some data) : Series.unique (data.map (·.season)) =
    Series.unique ((files.filter (fun f => !f.currentDf.rows.isEmpty)).map CsvFile.season) := by
  obtain ⟨ms, hms, rfl⟩ := exists_matches h
  have hlabel : ∀ f ∈ files, ∀ s ∈ (ms f).map Match.season, s = f.season := by
    intro f hf s hs
    obtain ⟨m, hm, rfl⟩ := List.mem_map.mp hs
    exact season_of_matches (hms f hf) m hm
  have hempty : ∀ f ∈ files,
      (!((ms f).map Match.season).isEmpty) = !f.currentDf.rows.isEmpty := by
    intro f hf
    have hlength := (mapM_eq_some_iff.mp (hms f hf)).length_eq
    rw [Frame.setColumn, List.length_map] at hlength
    congr 1
    rw [Bool.eq_iff_iff, List.isEmpty_iff_length_eq_zero, List.isEmpty_iff_length_eq_zero,
      List.length_map, hlength]
  rw [List.map_flatMap,
    Series.unique_flatMap_runs CsvFile.season (fun f => (ms f).map Match.season) hlabel,
    List.filter_congr hempty]

variable {frame : Frame Value}
  (hframe : Frame.IsConcat
    (files.map (fun f => f.currentDf.setColumn "season" (.text f.season))) frame)

include hframe

/-- A row is read in the loaded table as it is read in its file. -/
lemma readMatch_tagged {f : CsvFile} (hf : f ∈ files) {r : Dict String (Option Value)}
    (hr : r ∈ f.currentDf.rows) :
    readMatch (Frame.tagged frame.columns "season" (.text f.season) r) =
      readMatch (Dict.set r "season" (some (.text f.season))) := by
  apply readMatch_congr
  intro c
  by_cases hc : c = "season"
  · rw [hc, Frame.cell_tagged_self hframe hf, Frame.cell_set_self]
  · rw [Frame.cell_tagged_of_ne hframe hf f.wellFormed hr hc, Frame.cell_set_of_ne hc]

lemma mapM_tagged {fs : List CsvFile} (hfs : fs ⊆ files) :
    (fs.flatMap (fun f =>
      f.currentDf.rows.map (Frame.tagged frame.columns "season" (.text f.season)))).mapM readMatch =
      allMatches fs := by
  have hfile : ∀ f ∈ fs, (f.currentDf.rows.map
      (Frame.tagged frame.columns "season" (.text f.season))).mapM readMatch = f.matches := by
    intro f hf
    rw [List.mapM_map, CsvFile.matches, Frame.setColumn, List.mapM_map]
    exact mapM_congr (fun r hr => readMatch_tagged hframe (hfs hf) hr)
  rw [mapM_flatMap, mapM_congr hfile, allMatches]
  cases fs.mapM CsvFile.matches <;> rfl

/-- The rows of a season are those of its files, as they stand in the loaded table. -/
lemma rows_seasonOf (season : String) : (seasonOf frame season).data.rows =
    (files.filter (fun f => f.season == season)).flatMap (fun f =>
      f.currentDf.rows.map (Frame.tagged frame.columns "season" (.text f.season))) := by
  have hlabel : ∀ f : CsvFile, (Value.text f.season == .text season) = (f.season == season) := by
    intro f
    rw [Bool.eq_iff_iff, beq_iff_eq, beq_iff_eq, Value.text.injEq]
  have hrows := Frame.rows_whereEq_flatMap hframe (.text season)
  simp only [hlabel] at hrows
  exact hrows

variable (hcols : matchColumns ⊆ frame.columns)

include hcols

lemma readMatches_frame : readMatches frame = allMatches files := by
  rw [readMatches, if_pos hcols, Frame.rows_concat hframe]
  exact mapM_tagged hframe (List.Subset.refl files)

/-- A season of the loaded table holds the matches of the files with its label. -/
lemma readMatches_season (season : String) :
    readMatches (frame.whereEq "season" (.text season)) =
      allMatches (files.filter (fun f => f.season == season)) := by
  rw [readMatches, if_pos (show matchColumns ⊆ (frame.whereEq "season" _).columns from hcols)]
  change (seasonOf frame season).data.rows.mapM readMatch = _
  rw [rows_seasonOf hframe]
  exact mapM_tagged hframe (List.filter_subset_self _)

lemma readMatches_seasonOf (hread : allMatches files = some data) (season : String) :
    readMatches (seasonOf frame season).data = some (SeasonSummary.init data season).data :=
  (readMatches_season hframe hcols season).trans (allMatches_filter hread season)

omit hframe in
lemma init_of_columns (season : String) :
    SeasonFrame.init frame season = .ok (seasonOf frame season) :=
  init_eq_ok_iff.mpr ⟨hcols (by decide), rfl⟩

end Loaded

/-- Every column of a match is in some file. -/
def ColumnsPresent (files : List CsvFile) : Prop :=
  ∀ c ∈ matchColumns, c = "season" ∨ ∃ f ∈ files, c ∈ f.currentDf.columns

instance (files : List CsvFile) : Decidable (ColumnsPresent files) :=
  inferInstanceAs (Decidable (∀ c ∈ matchColumns, _))

lemma exists_loaded (P : Pandas) {files : List CsvFile} (hne : files ≠ []) :
    ∃ frame, readCsvData P files = .ok frame ∧ Frame.IsConcat
      (files.map (fun f => f.currentDf.setColumn "season" (.text f.season))) frame := by
  apply P.concat_ok
  · simpa using hne
  · intro df hdf
    obtain ⟨f, -, rfl⟩ := List.mem_map.mp hdf
    exact f.wellFormed.setColumn _ _

lemma ColumnsPresent.ne_nil {files : List CsvFile} (h : ColumnsPresent files) : files ≠ [] := by
  rintro rfl
  rcases h "FTHG" (by decide) with h | ⟨f, hf, -⟩
  · exact absurd h (by decide)
  · exact absurd hf List.not_mem_nil

lemma ColumnsPresent.subset {files : List CsvFile} {frame : Frame Value} (h : ColumnsPresent files)
    (hframe : Frame.IsConcat
      (files.map (fun f => f.currentDf.setColumn "season" (.text f.season))) frame) :
    matchColumns ⊆ frame.columns := by
  intro c hc
  rcases h c hc with rfl | ⟨f, hf, hmem⟩
  · obtain ⟨f, hf⟩ := List.exists_mem_of_ne_nil files h.ne_nil
    exact Frame.mem_columns_concat hframe hf (Or.inr rfl)
  · exact Frame.mem_columns_concat hframe hf (Or.inl hmem)

/-! ### The columns of goals -/

lemma equalsNumber_map (c : Cell) (n : ℕ) :
    equalsNumber (c.map .number) n = Cell.eq c (some (n : ℚ)) := by
  cases c <;> rfl

lemma requireColumn_ok {self : SeasonFrame} {col : String} (h : col ∈ self.data.columns) :
    self.requireColumn col = .ok () := if_pos h

lemma requireColumn_error {self : SeasonFrame} {col : String} (h : col ∉ self.data.columns) :
    self.requireColumn col = .error (.keyError col) := if_neg h

lemma summaryGoalSpread_frame {self : SeasonFrame} (hh : "FTHG" ∈ self.data.columns)
    (ha : "FTAG" ∈ self.data.columns) :
    self.summaryGoalSpread = goalSpread self.numOfMatches self.scoreCnt := by
  rw [SeasonFrame.summaryGoalSpread, requireColumn_ok hh, ok_bind, requireColumn_ok ha, ok_bind]

/-- A season of the loaded table has the spread of the matches that its rows are read as. -/
lemma summaryGoalSpread_seasonOf {frame : Frame Value} {season : String} {s : SeasonSummary}
    (hcols : matchColumns ⊆ frame.columns)
    (hread : readMatches (seasonOf frame season).data = some s.data) :
    (seasonOf frame season).summaryGoalSpread = s.summaryGoalSpread := by
  rw [readMatches, if_pos (show matchColumns ⊆ (seasonOf frame season).data.columns from hcols)]
    at hread
  have hn : (seasonOf frame season).numOfMatches = s.numOfMatches :=
    (mapM_eq_some_iff.mp hread).length_eq.trans s.numOfMatches_eq.symm
  have hcnt : (seasonOf frame season).scoreCnt = s.scoreCnt := by
    funext i j
    apply length_filter_of_mapM_some hread
    intro r m hr
    have hreads := readMatch_eq_some.mp hr
    rw [hreads.FTHG, hreads.FTAG, equalsNumber_map, equalsNumber_map]
  rw [summaryGoalSpread_frame (hcols (by decide)) (hcols (by decide)), hn, hcnt]
  rfl

/-- The loaded table is read as the matches of all files. Its labels are those of the files with
a match, and their seasons share out the matches; the season of a label is what the files with
this label hold, so that no other file has a part in it, and its goal spread is that of these
matches. -/
theorem seasons_from_files (P : Pandas) (files : List CsvFile) (hcols : ColumnsPresent files)
    (data : List Match) (hread : allMatches files = some data) :
    ∃ frame, readCsvData P files = .ok frame ∧ readMatches frame = some data ∧
      Series.unique (data.map (·.season)) = Series.unique
        ((files.filter (fun f => !f.currentDf.rows.isEmpty)).map CsvFile.season) ∧
      ((Series.unique (data.map (·.season))).flatMap
        (fun season => (SeasonSummary.init data season).data)).Perm data ∧
      ∀ season, ∃ summary, SeasonFrame.init frame season = .ok summary ∧
        readMatches summary.data = some (SeasonSummary.init data season).data ∧
        allMatches (files.filter (fun f => f.season == season)) =
          some (SeasonSummary.init data season).data ∧
        summary.summaryGoalSpread = (SeasonSummary.init data season).summaryGoalSpread := by
  obtain ⟨frame, hload, hframe⟩ := exists_loaded P hcols.ne_nil
  have hsub := hcols.subset hframe
  have hlabel : ∀ m ∈ data, m.season ∈ Series.unique (data.map (·.season)) := by
    intro m hm
    exact Series.mem_unique.mpr (List.mem_map_of_mem hm)
  refine ⟨frame, hload, ?_, labels_eq hread, ?_, ?_⟩
  · rw [readMatches_frame hframe hsub, hread]
  · exact (perm_flatMap_fiber Match.season _ (Series.nodup_unique _) data hlabel).symm
  · intro season
    have hseason := readMatches_seasonOf hframe hsub hread season
    exact ⟨seasonOf frame season, init_of_columns hsub season, hseason,
      allMatches_filter hread season, summaryGoalSpread_seasonOf hsub hseason⟩

/-! ### Files of given matches -/

/-- The row that holds a match. -/
def matchRow (m : Match) : Dict String (Option Value) := [
  ("season", some (.text m.season)), ("HomeTeam", some (.text m.HomeTeam)),
  ("AwayTeam", some (.text m.AwayTeam)), ("FTHG", m.FTHG.map .number),
  ("FTAG", m.FTAG.map .number), ("FTR", m.FTR.map .text), ("HTHG", m.HTHG.map .number),
  ("HTAG", m.HTAG.map .number), ("HS", m.HS.map .number), ("AS", m.AS.map .number),
  ("HST", m.HST.map .number), ("AST", m.AST.map .number), ("HC", m.HC.map .number),
  ("AC", m.AC.map .number), ("HF", m.HF.map .number), ("AF", m.AF.map .number),
  ("HY", m.HY.map .number), ("AY", m.AY.map .number), ("HR", m.HR.map .number),
  ("AR", m.AR.map .number), ("PSH", m.PSH.map .number), ("PSD", m.PSD.map .number),
  ("PSA", m.PSA.map .number), ("B365H", m.B365H.map .number), ("B365D", m.B365D.map .number),
  ("B365A", m.B365A.map .number)]

def matchFile (file : String) (data : List Match) : CsvFile where
  file := file
  currentDf := { columns := matchColumns, rows := data.map matchRow }
  wellFormed := by
    constructor
    · exact (by decide : matchColumns.Nodup)
    · intro r hr
      obtain ⟨m, -, rfl⟩ := List.mem_map.mp hr
      rfl

lemma reads_matchRow (m : Match) : Reads (matchRow m) m := by
  constructor <;> simp [matchRow, Frame.cell]

lemma set_matchRow (m : Match) (season : String) :
    Dict.set (matchRow m) "season" (some (.text season)) = matchRow { m with season } := by
  simp [matchRow, Dict.set]

/-- A file of matches is read as these matches, under the label of the file. -/
lemma matches_matchFile (file : String) (data : List Match) :
    (matchFile file data).matches =
      some (data.map (fun m => { m with season := (matchFile file data).season })) := by
  have hrows : (matchFile file data).currentDf.rows = data.map matchRow := rfl
  rw [CsvFile.matches, Frame.setColumn, List.mapM_map, hrows, List.mapM_map]
  apply mapM_some
  intro m _
  rw [Function.comp_apply, Function.comp_apply, set_matchRow, readMatch_eq_some]
  exact reads_matchRow _

/-- The first two matches of one season and all scorelines of another. -/
def twoFiles : List CsvFile :=
  [matchFile "data\\bet\\E0_1819.csv"
      [fixture "Leeds" "Arsenal" 1 0, fixture "Arsenal" "Leeds" 2 2],
    matchFile "data\\bet\\E0_1920.csv" allScores.data]

lemma allMatches_twoFiles :
    allMatches twoFiles = some (twoFiles.flatMap (fun f => f.matches.getD [])) := by
  apply allMatches_of_matches
  intro f hf
  rcases List.mem_pair.mp hf with rfl | rfl
  · rw [matches_matchFile]
    rfl
  · rw [matches_matchFile]
    rfl

/-- The two matches of the season 18-19 are found again, and miss a scoreline. -/
theorem seasons_from_files_twoFiles :
    ∃ data frame summary, allMatches twoFiles = some data ∧
      readCsvData firstSeenColumns twoFiles = .ok frame ∧
      Series.unique (data.map (·.season)) = ["18-19", "19-20"] ∧
      SeasonFrame.init frame "18-19" = .ok summary ∧
      readMatches summary.data = some [
        { fixture "Leeds" "Arsenal" 1 0 with season := "18-19" },
        { fixture "Arsenal" "Leeds" 2 2 with season := "18-19" }] ∧
      summary.summaryGoalSpread = .error .zeroDivisionError := by
  have hread := allMatches_twoFiles
  obtain ⟨frame, hload, -, hlabels, -, hseasons⟩ :=
    seasons_from_files firstSeenColumns twoFiles (by decide) _ hread
  obtain ⟨summary, hinit, hsummary, -, hspread⟩ := hseasons "18-19"
  refine ⟨_, frame, summary, hread, hload, hlabels.trans (by decide +kernel), hinit, ?_, ?_⟩
  · rw [hsummary]
    decide +kernel
  · rw [hspread]
    decide +kernel

/-! ### The script -/

/-- The row has this score. -/
def HasScoreline (r : Dict String (Option Value)) (score : ℕ × ℕ) : Prop :=
  equalsNumber (Frame.cell r "FTHG") score.1 = true ∧
    equalsNumber (Frame.cell r "FTAG") score.2 = true

instance (r : Dict String (Option Value)) (score : ℕ × ℕ) : Decidable (HasScoreline r score) :=
  inferInstanceAs (Decidable (_ ∧ _))

/-- The rows of the files of a season. -/
def seasonRows (files : List CsvFile) (season : String) : List (Dict String (Option Value)) :=
  (files.filter (fun f => f.season == season)).flatMap (fun f => f.currentDf.rows)

/-- The number of rows with a score. -/
def scoreCntIn (rows : List (Dict String (Option Value))) (i j : ℕ) : ℕ :=
  rows.countP (fun r => HasScoreline r (i, j))

lemma scoreCntIn_ne_zero_iff {rows : List (Dict String (Option Value))} {score : ℕ × ℕ} :
    scoreCntIn rows score.1 score.2 ≠ 0 ↔ ∃ r ∈ rows, HasScoreline r score := by
  unfold scoreCntIn
  rw [← Nat.pos_iff_ne_zero, List.countP_pos_iff]
  simp only [decide_eq_true_eq]

section Script

variable {files : List CsvFile} {frame : Frame Value}
  (hframe : Frame.IsConcat
    (files.map (fun f => f.currentDf.setColumn "season" (.text f.season))) frame)

include hframe

lemma numOfMatches_seasonOf (season : String) :
    (seasonOf frame season).numOfMatches = (seasonRows files season).length := by
  change (seasonOf frame season).data.rows.length = _
  rw [rows_seasonOf hframe, seasonRows, List.length_flatMap, List.length_flatMap]
  simp only [List.length_map]

/-- A row has the score in the loaded table that it has in its file. -/
lemma hasScoreline_tagged {f : CsvFile} (hf : f ∈ files) {r : Dict String (Option Value)}
    (hr : r ∈ f.currentDf.rows) (score : ℕ × ℕ) :
    HasScoreline (Frame.tagged frame.columns "season" (.text f.season) r) score ↔
      HasScoreline r score := by
  unfold HasScoreline
  rw [Frame.cell_tagged_of_ne hframe hf f.wellFormed hr (by decide),
    Frame.cell_tagged_of_ne hframe hf f.wellFormed hr (by decide)]

lemma scoreCnt_seasonOf (season : String) :
    (seasonOf frame season).scoreCnt = scoreCntIn (seasonRows files season) := by
  funext i j
  have hfile : ∀ f ∈ files.filter (fun f => f.season == season),
      (f.currentDf.rows.map (Frame.tagged frame.columns "season" (.text f.season))).countP
        (fun r => HasScoreline r (i, j)) =
          f.currentDf.rows.countP (fun r => HasScoreline r (i, j)) := by
    intro f hf
    rw [List.countP_map]
    apply List.countP_congr
    intro r hr
    simpa using hasScoreline_tagged hframe (List.mem_filter.mp hf).1 hr (i, j)
  have hcount : (seasonOf frame season).scoreCnt i j =
      (seasonOf frame season).data.rows.countP (fun r => HasScoreline r (i, j)) := by
    unfold SeasonFrame.scoreCnt
    rw [List.countP_eq_length_filter]
    congr 2
    funext r
    rw [Bool.eq_iff_iff, Bool.and_eq_true, decide_eq_true_eq]
    rfl
  rw [hcount, rows_seasonOf hframe, scoreCntIn, seasonRows, List.countP_flatMap,
    List.countP_flatMap]
  exact congrArg List.sum (List.map_congr_left hfile)

lemma init_of_ne_nil (hne : files ≠ []) (season : String) :
    SeasonFrame.init frame season = .ok (seasonOf frame season) := by
  obtain ⟨f, hf⟩ := List.exists_mem_of_ne_nil files hne
  exact init_eq_ok_iff.mpr ⟨Frame.mem_columns_concat hframe hf (Or.inr rfl), rfl⟩

end Script

/-- Some file has this column. -/
def HasColumn (files : List CsvFile) (col : String) : Prop :=
  ∃ f ∈ files, col ∈ f.currentDf.columns

/-- Without a column of goals the script stops. -/
lemma main_missing (P : Pandas) {files : List CsvFile} (hne : files ≠ []) :
    (¬ HasColumn files "FTHG" → main P files = .error (.keyError "FTHG")) ∧
      (HasColumn files "FTHG" → ¬ HasColumn files "FTAG" →
        main P files = .error (.keyError "FTAG")) := by
  obtain ⟨frame, hload, hframe⟩ := exists_loaded P hne
  have hcol : ∀ {col}, col ≠ "season" →
      (col ∈ (seasonOf frame "19-20").data.columns ↔ HasColumn files col) :=
    fun h => Frame.mem_columns_concat_iff hframe h
  rw [main, hload, ok_bind, init_of_ne_nil hframe hne, ok_bind, SeasonFrame.summaryGoalSpread]
  constructor
  · intro hh
    rw [requireColumn_error ((hcol (by decide)).not.mpr hh)]
    rfl
  · intro hh ha
    rw [requireColumn_ok ((hcol (by decide)).mpr hh), ok_bind,
      requireColumn_error ((hcol (by decide)).not.mpr ha)]
    rfl

/-- With both columns of goals the script counts the rows of the files of the season. -/
lemma main_eq (P : Pandas) {files : List CsvFile} (hh : HasColumn files "FTHG")
    (ha : HasColumn files "FTAG") : main P files =
      goalSpread (seasonRows files "19-20").length (scoreCntIn (seasonRows files "19-20")) := by
  have hne : files ≠ [] := by
    obtain ⟨f, hf, -⟩ := hh
    exact List.ne_nil_of_mem hf
  obtain ⟨frame, hload, hframe⟩ := exists_loaded P hne
  have hcol : ∀ {col}, col ≠ "season" → HasColumn files col →
      col ∈ (seasonOf frame "19-20").data.columns :=
    fun h => (Frame.mem_columns_concat_iff hframe h).mpr
  rw [main, hload, ok_bind, init_of_ne_nil hframe hne, ok_bind,
    summaryGoalSpread_frame (hcol (by decide) hh) (hcol (by decide) ha),
    numOfMatches_seasonOf hframe, scoreCnt_seasonOf hframe]

/-- What the script does with any files: it needs a file, the two columns of goals and a row of
each scoreline up to 3-3 in the files of the season 19-20, and then prints the counts, percentages
and odds of the rows of these files. -/
theorem main_prints_iff (P : Pandas) (files : List CsvFile) :
    (files = [] → main P files = .error .valueError) ∧
    (files ≠ [] → ¬ HasColumn files "FTHG" → main P files = .error (.keyError "FTHG")) ∧
    (HasColumn files "FTHG" → ¬ HasColumn files "FTAG" →
      main P files = .error (.keyError "FTAG")) ∧
    (HasColumn files "FTHG" → HasColumn files "FTAG" →
      ((∀ score ∈ scorelines, ∃ r ∈ seasonRows files "19-20", HasScoreline r score) →
        main P files = .ok (spreadRows (seasonRows files "19-20").length
          (scoreCntIn (seasonRows files "19-20")))) ∧
      ((∃ score ∈ scorelines, ¬ ∃ r ∈ seasonRows files "19-20", HasScoreline r score) →
        main P files = .error .zeroDivisionError)) := by
  refine ⟨?_, fun hne => (main_missing P hne).1, ?_, ?_⟩
  · rintro rfl
    rw [main, readCsvData, List.map_nil, P.concat_nil]
    rfl
  · intro hh ha
    obtain ⟨f, hf, -⟩ := id hh
    exact (main_missing P (List.ne_nil_of_mem hf)).2 hh ha
  · intro hh ha
    have hle : ∀ i j, scoreCntIn (seasonRows files "19-20") i j ≤
        (seasonRows files "19-20").length := fun _ _ => List.countP_le_length
    rw [main_eq P hh ha]
    simp only [← scoreCntIn_ne_zero_iff, ne_eq, not_not]
    exact ⟨goalSpread_eq_ok _ _ hle, goalSpread_eq_error _ _ hle⟩

/-- The file of the season 19-20 has each scoreline up to 3-3 once and two others. -/
theorem main_prints_iff_twoFiles :
    ∃ rows, main firstSeenColumns twoFiles = .ok rows ∧
      rows.map (·.matchCnt) = List.replicate 16 1 ++ [2] ∧
      rows.map (·.fairOdds) = List.replicate 16 (.fin 18) ++ [.fin 9] := by
  obtain ⟨-, -, -, hprint⟩ := main_prints_iff firstSeenColumns twoFiles
  obtain ⟨hprint, -⟩ := hprint ⟨_, List.mem_cons_self, by decide⟩ ⟨_, List.mem_cons_self, by decide⟩
  exact ⟨_, hprint (by decide +kernel), by decide +kernel, by decide +kernel⟩

end PremierLeague.Proofs
