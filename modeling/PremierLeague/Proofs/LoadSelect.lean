import PremierLeague.ReadCsvData

/-!
# Loading and selecting a season

The labels written into the tables keep them apart once they are put together: selecting the
label of a file returns the rows of the file, and all selections together return every loaded
row once.
-/

namespace PremierLeague.Proofs

open Tabular

/-- The selected season has the rows of the file, with its label in the column `season` and
nothing in the columns of other files. -/
structure Lossless (frame : Frame Value) (f : CsvFile) (summary : SeasonFrame) : Prop where
  columns : summary.data.columns = frame.columns
  rows : summary.data.select (f.currentDf.drop "season").columns = f.currentDf.drop "season"
  label : ∀ r ∈ summary.data.rows, Frame.cell r "season" = some (.text f.season)
  lacking : ∀ c ∈ frame.columns, c ∉ f.currentDf.columns → c ≠ "season" →
    ∀ r ∈ summary.data.rows, Dict.get? r c = some none
  numOfMatches : summary.numOfMatches = f.currentDf.rows.length

section Loaded

variable {files : List CsvFile} {frame : Frame Value}
  (hframe : Frame.IsConcat
    (files.map (fun f => f.currentDf.setColumn "season" (.text f.season))) frame)
  (hn : (files.map CsvFile.season).Nodup)

/-- What `SeasonSummary(frame, season)` selects. -/
def seasonOf (frame : Frame Value) (season : String) : SeasonFrame where
  data := frame.whereEq "season" (.text season)
  season := season
  numOfMatches := (frame.whereEq "season" (.text season)).rows.length

lemma init_eq_ok_iff {season : String} {summary : SeasonFrame} :
    SeasonFrame.init frame season = .ok summary ↔
      "season" ∈ frame.columns ∧ summary = seasonOf frame season := by
  unfold SeasonFrame.init
  split
  · rename_i hmem
    rw [Except.ok.injEq, eq_comm]
    exact (and_iff_right hmem).symm
  · rename_i hmem
    exact ⟨nofun, fun h => absurd h.1 hmem⟩

include hn

lemma nodup_labels : (files.map (fun f => Value.text f.season)).Nodup := by
  have hmap := hn.map (f := Value.text) (fun _ _ h => Value.text.inj h)
  rwa [List.map_map] at hmap

include hframe

lemma lossless {f : CsvFile} (hf : f ∈ files) : Lossless frame f (seasonOf frame f.season) := by
  have hlabels := nodup_labels hn
  constructor
  · rfl
  · exact Frame.select_whereEq hframe hlabels hf f.wellFormed
  · intro r hr
    exact eq_of_beq (List.mem_filter.mp hr).2
  · intro c hc hnot hne r hr
    exact Frame.get?_whereEq_of_notMem hframe hlabels hf f.wellFormed hc hnot hne hr
  · exact Frame.length_whereEq hframe hlabels hf

lemma sum_numOfMatches :
    (files.map (fun f => (seasonOf frame f.season).numOfMatches)).sum = frame.rows.length :=
  Frame.sum_length_whereEq hframe (nodup_labels hn)

omit hn in
lemma init_eq_ok {f : CsvFile} (hf : f ∈ files) :
    SeasonFrame.init frame f.season = .ok (seasonOf frame f.season) :=
  init_eq_ok_iff.mpr ⟨Frame.mem_columns_concat hframe hf (Or.inr rfl), rfl⟩

omit hn in
lemma exists_file_of_row {r : Dict String (Option Value)} (hr : r ∈ frame.rows) :
    ∃ f ∈ files, Frame.cell r "season" = some (.text f.season) := by
  rw [Frame.rows_concat hframe] at hr
  obtain ⟨f, hf, hr⟩ := List.mem_flatMap.mp hr
  obtain ⟨r', -, rfl⟩ := List.mem_map.mp hr
  exact ⟨f, hf, Frame.cell_tagged_self hframe hf r'⟩

end Loaded

/-- Files with different labels are loaded without loss: every season selected by the label of a
file is the file, every row belongs to the season of a file, and the seasons add up to all rows.
Without files there is nothing to put together. -/
theorem load_select_lossless (P : Pandas) (files : List CsvFile)
    (hn : (files.map CsvFile.season).Nodup) :
    (files = [] → readCsvData P files = .error .valueError) ∧
      (files ≠ [] → ∃ (frame : Frame Value) (summary : CsvFile → SeasonFrame),
        readCsvData P files = .ok frame ∧
        (∀ f ∈ files, SeasonFrame.init frame f.season = .ok (summary f) ∧
          Lossless frame f (summary f)) ∧
        (∀ r ∈ frame.rows, ∃ f ∈ files, Frame.cell r "season" = some (.text f.season)) ∧
        (files.map (fun f => (summary f).numOfMatches)).sum = frame.rows.length) := by
  constructor
  · rintro rfl
    exact P.concat_nil
  · intro hne
    have hwell : ∀ df ∈ files.map (fun f =>
        f.currentDf.setColumn "season" (Value.text f.season)), df.WellFormed := by
      intro df hdf
      obtain ⟨f, -, rfl⟩ := List.mem_map.mp hdf
      exact f.wellFormed.setColumn _ _
    obtain ⟨frame, hload, hframe⟩ := P.concat_ok _ (by simpa using hne) hwell
    refine ⟨frame, fun f => seasonOf frame f.season, hload, ?_, ?_, ?_⟩
    · intro f hf
      exact ⟨init_eq_ok hframe hf, lossless hframe hn hf⟩
    · intro r hr
      exact exists_file_of_row hframe hr
    · exact sum_numOfMatches hframe hn

/-- Two rows of the season 19-20. -/
def file1920 : CsvFile where
  file := "data\\bet\\E0_1920.csv"
  currentDf :=
    { columns := ["HomeTeam", "FTHG", "PSH"]
      rows := [
        [("HomeTeam", some (.text "Liverpool")), ("FTHG", some (.number 4)), ("PSH", none)],
        [("HomeTeam", some (.text "Arsenal")), ("FTHG", some (.number 2)), ("PSH", none)]] }
  wellFormed := ⟨by decide, by decide⟩

/-- A row of the season 20-21, with other columns and a label that is overwritten. -/
def file2021 : CsvFile where
  file := "data\\bet\\E0_2021.csv"
  currentDf :=
    { columns := ["season", "HomeTeam", "AwayTeam"]
      rows := [[("season", some (.text "19-20")), ("HomeTeam", some (.text "Leeds")),
        ("AwayTeam", none)]] }
  wellFormed := ⟨by decide, by decide⟩

theorem load_select_lossless_twoFiles :
    ∃ frame summary, readCsvData firstSeenColumns [file1920, file2021] = .ok frame ∧
      frame.rows.length = 3 ∧ SeasonFrame.init frame "20-21" = .ok summary ∧
      summary.data.select ["HomeTeam", "AwayTeam"] = file2021.currentDf.drop "season" := by
  obtain ⟨-, hload⟩ := load_select_lossless firstSeenColumns [file1920, file2021] (by decide)
  obtain ⟨frame, summary, hframe, hseasons, -, hsum⟩ := hload (by decide)
  obtain ⟨-, hfirst⟩ := hseasons file1920 List.mem_cons_self
  obtain ⟨hinit, hsecond⟩ := hseasons file2021 (List.mem_cons_of_mem _ List.mem_cons_self)
  refine ⟨frame, summary file2021, hframe, ?_, hinit, hsecond.rows⟩
  rw [← hsum, List.map_cons, List.map_cons, hfirst.numOfMatches, hsecond.numOfMatches]
  rfl

end PremierLeague.Proofs
