import PremierLeague.Library.Fibers
import PremierLeague.Library.Records

/-!
# Tables put together

Tables with different columns are put together under all of their columns: the rows in their
order, with missing cells where a table has no such column. When each table has a value of its
own in one column, selecting the rows with this value and cutting them back to the columns of
the table returns the table.
-/

namespace Tabular

namespace Dict

variable {κ ν : Type*} [DecidableEq κ]

lemma get?_eq_some_of_mem {d : Dict κ ν} (hn : d.keys.Nodup) {e : κ × ν} (he : e ∈ d) :
    d.get? e.1 = some e.2 := by
  induction d with
  | nil => exact absurd he List.not_mem_nil
  | cons f d ih =>
    obtain ⟨hnot, hn⟩ := List.nodup_cons.mp hn
    rcases List.mem_cons.mp he with rfl | he
    · exact if_pos rfl
    · have hne : f.1 ≠ e.1 := fun h => hnot (h ▸ List.mem_map_of_mem he)
      exact (if_neg hne).trans (ih hn he)

end Dict

namespace Frame

variable {ν : Type*}

/-- The columns are different, and every row has a cell for each of them. -/
structure WellFormed (df : Frame ν) : Prop where
  nodup_columns : df.columns.Nodup
  keys_rows : ∀ r ∈ df.rows, Dict.keys r = df.columns

/-- A row under the given columns, with missing cells for the columns it does not have. -/
def reindex (cols : List String) (r : Dict String (Option ν)) : Dict String (Option ν) :=
  cols.map (fun c => (c, cell r c))

/-- `df[col] = v`, the same value in every row. -/
def setColumn (df : Frame ν) (col : String) (v : ν) : Frame ν where
  columns := if col ∈ df.columns then df.columns else df.columns ++ [col]
  rows := df.rows.map (fun r => Dict.set r col (some v))

/-- `df[cols]` -/
def select (df : Frame ν) (cols : List String) : Frame ν where
  columns := cols
  rows := df.rows.map (reindex cols)

/-- `df.drop(columns=[col])` -/
def drop (df : Frame ν) (col : String) : Frame ν where
  columns := df.columns.filter (· != col)
  rows := df.rows.map (fun r => r.filter (fun e => e.1 != col))

/-- `df[df[col] == v]`; a missing cell is equal to no value. -/
def whereEq [DecidableEq ν] (df : Frame ν) (col : String) (v : ν) : Frame ν where
  columns := df.columns
  rows := df.rows.filter (fun r => cell r col == some v)

/-- The rows of the tables in their order, under the union of their columns. -/
structure IsConcat (dfs : List (Frame ν)) (df : Frame ν) : Prop where
  mem_columns : ∀ c, c ∈ df.columns ↔ ∃ d ∈ dfs, c ∈ d.columns
  rows_eq : df.rows = dfs.flatMap (fun d => d.rows.map (reindex df.columns))

/-- The columns in the order of their first occurrence. -/
def concat (dfs : List (Frame ν)) : Frame ν where
  columns := Series.unique (dfs.flatMap (·.columns))
  rows := dfs.flatMap (fun d =>
    d.rows.map (reindex (Series.unique (dfs.flatMap (·.columns)))))

lemma isConcat_concat (dfs : List (Frame ν)) : IsConcat dfs (concat dfs) := by
  constructor
  · intro c
    change c ∈ Series.unique _ ↔ _
    rw [Series.mem_unique, List.mem_flatMap]
  · rfl

/-! ### Cells -/

lemma get?_reindex (cols : List String) (r : Dict String (Option ν)) (c : String) :
    Dict.get? (reindex cols r) c = if c ∈ cols then some (cell r c) else none :=
  Dict.get?_map_pair cols (cell r) c

lemma cell_reindex {cols : List String} {c : String} (hc : c ∈ cols)
    (r : Dict String (Option ν)) : cell (reindex cols r) c = cell r c := by
  rw [cell, get?_reindex, if_pos hc, Option.join_some]

lemma cell_set_self (r : Dict String (Option ν)) (col : String) (v : ν) :
    cell (Dict.set r col (some v)) col = some v := by
  rw [cell, Dict.get?_set, if_pos rfl, Option.join_some]

lemma cell_set_of_ne {col c : String} (h : c ≠ col) (r : Dict String (Option ν)) (v : ν) :
    cell (Dict.set r col (some v)) c = cell r c := by
  rw [cell, Dict.get?_set, if_neg h.symm, cell]

lemma cell_eq_none_of_notMem {r : Dict String (Option ν)} {c : String} (h : c ∉ Dict.keys r) :
    cell r c = none := by
  rw [cell, get?_eq_none_of_notMem h, Option.join_none]

/-- A row with different columns has the cells that stand in it. -/
lemma map_cell_eq_self {r r' : Dict String (Option ν)} (hn : (Dict.keys r).Nodup)
    (hsub : r' ⊆ r) : r'.map (fun e => (e.1, cell r e.1)) = r' := by
  have hcell : ∀ e ∈ r', (e.1, cell r e.1) = e := by
    intro e he
    rw [cell, Dict.get?_eq_some_of_mem hn (hsub he), Option.join_some]
  rw [List.map_congr_left hcell, List.map_id']

lemma keys_filter {r : Dict String (Option ν)} (col : String) :
    Dict.keys (r.filter (fun e => e.1 != col)) = (Dict.keys r).filter (· != col) := by
  unfold Dict.keys
  rw [List.filter_map]
  rfl

lemma mem_columns_setColumn {df : Frame ν} {col c : String} (v : ν) :
    c ∈ (df.setColumn col v).columns ↔ c ∈ df.columns ∨ c = col := by
  unfold setColumn
  dsimp only
  split
  · rename_i hcol
    exact ⟨Or.inl, fun h => h.elim id (fun h => h ▸ hcol)⟩
  · rw [List.mem_append, List.mem_singleton]

lemma WellFormed.setColumn {df : Frame ν} (h : df.WellFormed) (col : String) (v : ν) :
    (df.setColumn col v).WellFormed := by
  constructor
  · unfold Frame.setColumn
    dsimp only
    split
    · exact h.nodup_columns
    · rename_i hcol
      exact List.Nodup.append h.nodup_columns (List.nodup_singleton col) (by simpa using hcol)
  · intro r hr
    obtain ⟨r', hr', rfl⟩ := List.mem_map.mp hr
    rw [Dict.keys_set, h.keys_rows r' hr']
    rfl

/-! ### Tables found again by a value of their own -/

section Tagged

variable {ι : Type*} {table : ι → Frame ν} {tag : ι → ν} {l : List ι} {col : String}
  {df : Frame ν} (hdf : IsConcat (l.map (fun i => (table i).setColumn col (tag i))) df)

/-- A row of a table as it stands in the tables put together. -/
def tagged (cols : List String) (col : String) (v : ν) (r : Dict String (Option ν)) :
    Dict String (Option ν) :=
  reindex cols (Dict.set r col (some v))

include hdf

lemma rows_concat : df.rows = l.flatMap (fun i =>
    (table i).rows.map (tagged df.columns col (tag i))) := by
  rw [hdf.rows_eq, List.flatMap_map]
  apply List.flatMap_congr
  intro i _
  exact List.map_map

lemma mem_columns_concat {i : ι} (hi : i ∈ l) {c : String}
    (hc : c ∈ (table i).columns ∨ c = col) : c ∈ df.columns :=
  (hdf.mem_columns c).mpr
    ⟨_, List.mem_map_of_mem hi, (mem_columns_setColumn (tag i)).mpr hc⟩

lemma mem_columns_concat_iff {c : String} (hc : c ≠ col) :
    c ∈ df.columns ↔ ∃ i ∈ l, c ∈ (table i).columns := by
  rw [hdf.mem_columns]
  simp [mem_columns_setColumn, hc]

lemma cell_tagged_self {i : ι} (hi : i ∈ l) (r : Dict String (Option ν)) :
    cell (tagged df.columns col (tag i) r) col = some (tag i) := by
  rw [tagged, cell_reindex (mem_columns_concat hdf hi (Or.inr rfl)), cell_set_self]

lemma cell_tagged_of_ne {i : ι} (hi : i ∈ l) (hw : (table i).WellFormed)
    {r : Dict String (Option ν)} (hr : r ∈ (table i).rows) {c : String} (hc : c ≠ col) :
    cell (tagged df.columns col (tag i) r) c = cell r c := by
  by_cases hmem : c ∈ df.columns
  · rw [tagged, cell_reindex hmem, cell_set_of_ne hc]
  · have hnot : c ∉ (table i).columns := fun h => hmem (mem_columns_concat hdf hi (Or.inl h))
    rw [← hw.keys_rows r hr] at hnot
    rw [tagged, cell, get?_reindex, if_neg hmem, cell_eq_none_of_notMem hnot, Option.join_none]

/-- The rows with a value are the rows of all tables that have this value set. -/
theorem rows_whereEq_flatMap [DecidableEq ν] (v : ν) : (df.whereEq col v).rows =
    (l.filter (fun i => tag i == v)).flatMap (fun i =>
      (table i).rows.map (tagged df.columns col (tag i))) := by
  have htag : ∀ j ∈ l, ∀ r ∈ (table j).rows.map (tagged df.columns col (tag j)),
      cell r col = some (tag j) := by
    intro j hj r hr
    obtain ⟨r', -, rfl⟩ := List.mem_map.mp hr
    exact cell_tagged_self hdf hj r'
  change df.rows.filter (fun r => cell r col == some v) = _
  rw [rows_concat hdf, filter_flatMap_key (fun r => cell r col) (fun i => some (tag i)) _ htag]
  simp

variable [DecidableEq ν] (hn : (l.map tag).Nodup) {i : ι} (hi : i ∈ l)

include hn hi

/-- The rows with the value of a table are the rows of this table. -/
theorem rows_whereEq : (df.whereEq col (tag i)).rows =
    (table i).rows.map (tagged df.columns col (tag i)) := by
  have hsome : (l.map (fun i => some (tag i))).Nodup := by
    have hmap := hn.map (Option.some_injective ν)
    rwa [List.map_map] at hmap
  have htag : ∀ j ∈ l, ∀ r ∈ (table j).rows.map (tagged df.columns col (tag j)),
      cell r col = some (tag j) := by
    intro j hj r hr
    obtain ⟨r', -, rfl⟩ := List.mem_map.mp hr
    exact cell_tagged_self hdf hj r'
  change df.rows.filter (fun r => cell r col == some (tag i)) = _
  rw [rows_concat hdf]
  exact filter_flatMap_tag (fun r => cell r col) (fun i => some (tag i)) _ hsome htag hi

/-- Selecting the value of a table and cutting back to its columns returns the table, but for
the column that was set. -/
theorem select_whereEq (hw : (table i).WellFormed) :
    (df.whereEq col (tag i)).select ((table i).drop col).columns = (table i).drop col := by
  have hrow : ∀ r ∈ (table i).rows,
      reindex ((table i).drop col).columns (tagged df.columns col (tag i) r) =
        r.filter (fun e => e.1 != col) := by
    intro r hr
    have hcols : ((table i).drop col).columns = Dict.keys (r.filter (fun e => e.1 != col)) := by
      rw [keys_filter, hw.keys_rows r hr]
      rfl
    have hcell : ∀ c ∈ ((table i).drop col).columns,
        (c, cell (tagged df.columns col (tag i) r) c) = (c, cell r c) := by
      intro c hc
      obtain ⟨hmem, hne⟩ := List.mem_filter.mp hc
      rw [tagged, cell_reindex (mem_columns_concat hdf hi (Or.inl hmem)),
        cell_set_of_ne (by simpa using hne)]
    have hnodup : (Dict.keys r).Nodup := by
      rw [hw.keys_rows r hr]
      exact hw.nodup_columns
    rw [reindex, List.map_congr_left hcell, hcols, Dict.keys, List.map_map]
    exact map_cell_eq_self hnodup (List.filter_sublist).subset
  unfold select
  rw [rows_whereEq hdf hn hi, List.map_map]
  exact congrArg (Frame.mk _) (List.map_congr_left hrow)

/-- The columns that a table lacks are there and missing in its rows. -/
theorem get?_whereEq_of_notMem (hw : (table i).WellFormed) {c : String} (hc : c ∈ df.columns)
    (hnot : c ∉ (table i).columns) (hne : c ≠ col) {r : Dict String (Option ν)}
    (hr : r ∈ (df.whereEq col (tag i)).rows) : Dict.get? r c = some none := by
  rw [rows_whereEq hdf hn hi] at hr
  obtain ⟨r', hr', rfl⟩ := List.mem_map.mp hr
  rw [← hw.keys_rows r' hr'] at hnot
  rw [tagged, get?_reindex, if_pos hc, cell_set_of_ne hne, cell_eq_none_of_notMem hnot]

lemma length_whereEq : (df.whereEq col (tag i)).rows.length = (table i).rows.length := by
  rw [rows_whereEq hdf hn hi, List.length_map]

omit hi in
/-- No row is lost or selected twice. -/
theorem sum_length_whereEq :
    (l.map (fun i => (df.whereEq col (tag i)).rows.length)).sum = df.rows.length := by
  have hlength : ∀ i ∈ l, (df.whereEq col (tag i)).rows.length =
      ((table i).rows.map (tagged df.columns col (tag i))).length := by
    intro i hi
    rw [rows_whereEq hdf hn hi]
  rw [List.map_congr_left hlength, rows_concat hdf, List.length_flatMap]

end Tagged

end Frame

end Tabular
