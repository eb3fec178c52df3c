import PremierLeague.MainTables
import PremierLeague.Library.Fibers

/-!
# What the tables contain

All three tables are built in one way: every team of the season gets a record, the records
are ranked by their packed criteria, and the rows are sorted by rank. `calcMainTables` never
raises for the three table types. The lookups of the overall loop in the home and away tables
always succeed and read back the records these tables were built from.
-/

namespace PremierLeague.Proofs

open Tabular SeasonSummary

/-- The three kinds of table. -/
inductive Venue where
  | home
  | away
  | overall
deriving DecidableEq

namespace Venue

/-- The argument of `calcMainTables`. -/
def label : Venue → String
  | home => "home"
  | away => "away"
  | overall => "overall"

def record : Venue → List Match → String → TeamRecord
  | home, df, team => homeRecord df team
  | away, df, team => awayRecord df team
  | overall, df, team => overallRecord team (homeRecord df team) (awayRecord df team)

@[simp] lemma record_team (v : Venue) (df : List Match) (team : String) :
    (v.record df team).team = team := by
  cases v <;> rfl

end Venue

lemma TableRow.ext_parts {r r' : TableRow} (h : r.toTeamRecord = r'.toTeamRecord)
    (hp : r.rankPoints = r'.rankPoints) (hr : r.rank = r'.rank) : r = r' := by
  cases r
  cases r'
  simp only [TableRow.mk.injEq]
  exact ⟨h, hp, hr⟩

lemma mem_teams {R : Runtime} {s : SeasonSummary} {t : String} :
    t ∈ s.teams R ↔ Occurs s.data t := by
  unfold teams Occurs
  rw [R.mem_listSet, List.mem_append, Series.mem_unique, Series.mem_unique, List.mem_map,
    List.mem_map]
  constructor
  · rintro (⟨m, hm, rfl⟩ | ⟨m, hm, rfl⟩)
    · exact ⟨m, hm, Or.inl rfl⟩
    · exact ⟨m, hm, Or.inr rfl⟩
  · rintro ⟨m, hm, rfl | rfl⟩
    · exact Or.inl ⟨m, hm, rfl⟩
    · exact Or.inr ⟨m, hm, rfl⟩

lemma nodup_teams (R : Runtime) (s : SeasonSummary) : (s.teams R).Nodup :=
  R.nodup_listSet _

/-! ### Ranked records -/

section Column

variable (column : TeamRecord → ℚ)

def rankedBy (records : List TeamRecord) (r : TeamRecord) : TableRow :=
  { r with
    rankPoints := column r
    rank := denseRank (records.map column) (column r) }

lemma rankTableBy_perm (R : Runtime) (records : List TeamRecord) :
    (rankTableBy column R records).Perm (records.map (rankedBy column records)) :=
  R.sortByRank_perm _

lemma rankTableBy_sorted (R : Runtime) (records : List TeamRecord) :
    (rankTableBy column R records).Pairwise (fun r r' => r.rank ≤ r'.rank) :=
  R.sortByRank_sorted _

end Column

lemma loc_of_mem {t : Table} (hn : (t.map (fun r => r.team)).Nodup) {r : TableRow} (hr : r ∈ t) :
    loc t r.team = .ok r := by
  have hfind : t.find? (fun r' => r'.team == r.team) = some r :=
    find?_key (fun r : TableRow => r.team) hn hr
  unfold loc
  rw [hfind]

/-! ### The table of a venue -/

section Column

variable (column : TeamRecord → ℚ)

/-- The records of all teams of the season, ranked by a column. -/
def tableBy (R : Runtime) (s : SeasonSummary) (v : Venue) : Table :=
  rankTableBy column R ((s.teams R).map (v.record s.data))

def rowBy (R : Runtime) (s : SeasonSummary) (v : Venue) (t : String) : TableRow :=
  rankedBy column ((s.teams R).map (v.record s.data)) (v.record s.data t)

/-- The cell of a team in the column. -/
def keyBy (s : SeasonSummary) (v : Venue) (t : String) : ℚ := column (v.record s.data t)

def keysBy (R : Runtime) (s : SeasonSummary) (v : Venue) : List ℚ :=
  (s.teams R).map (keyBy column s v)

@[simp] lemma rowBy_team (R : Runtime) (s : SeasonSummary) (v : Venue) (t : String) :
    (rowBy column R s v t).team = t := v.record_team s.data t

lemma rowBy_rank (R : Runtime) (s : SeasonSummary) (v : Venue) (t : String) :
    (rowBy column R s v t).rank = denseRank (keysBy column R s v) (keyBy column s v t) := by
  unfold rowBy rankedBy keysBy
  dsimp only
  rw [List.map_map]
  rfl

variable {column}

lemma keyBy_mem_keysBy {R : Runtime} {s : SeasonSummary} (v : Venue) {t : String}
    (ht : Occurs s.data t) : keyBy column s v t ∈ keysBy column R s v :=
  List.mem_map_of_mem (mem_teams.mpr ht)

theorem rankBy_le_iff (R : Runtime) {s : SeasonSummary} (v : Venue) {t u : String}
    (ht : Occurs s.data t) (hu : Occurs s.data u) :
    (rowBy column R s v t).rank ≤ (rowBy column R s v u).rank ↔
      keyBy column s v u ≤ keyBy column s v t := by
  rw [rowBy_rank, rowBy_rank]
  exact denseRank_le_iff (keyBy_mem_keysBy v ht) (keyBy_mem_keysBy v hu)

/-- Within a table, the better rank has the larger cell in the column. -/
theorem rankBy_lt_iff (R : Runtime) {s : SeasonSummary} (v : Venue) {t u : String}
    (ht : Occurs s.data t) (hu : Occurs s.data u) :
    (rowBy column R s v t).rank < (rowBy column R s v u).rank ↔
      keyBy column s v u < keyBy column s v t := by
  rw [rowBy_rank, rowBy_rank]
  exact denseRank_lt_iff (keyBy_mem_keysBy v ht) (keyBy_mem_keysBy v hu)

theorem rankBy_eq_iff (R : Runtime) {s : SeasonSummary} (v : Venue) {t u : String}
    (ht : Occurs s.data t) (hu : Occurs s.data u) :
    (rowBy column R s v t).rank = (rowBy column R s v u).rank ↔
      keyBy column s v t = keyBy column s v u := by
  rw [rowBy_rank, rowBy_rank]
  exact denseRank_eq_iff (keyBy_mem_keysBy v ht) (keyBy_mem_keysBy v hu)

theorem tableBy_perm (R : Runtime) (s : SeasonSummary) (v : Venue) :
    (tableBy column R s v).Perm ((s.teams R).map (rowBy column R s v)) := by
  have h := rankTableBy_perm column R ((s.teams R).map (v.record s.data))
  rw [List.map_map] at h
  exact h

theorem mem_tableBy {R : Runtime} {s : SeasonSummary} {v : Venue} {r : TableRow} :
    r ∈ tableBy column R s v ↔ ∃ t, Occurs s.data t ∧ rowBy column R s v t = r := by
  rw [(tableBy_perm R s v).mem_iff, List.mem_map]
  simp only [mem_teams]

lemma map_tableBy_team (R : Runtime) (s : SeasonSummary) (v : Venue) :
    ((tableBy column R s v).map (fun r => r.team)).Perm (s.teams R) := by
  have h := (@tableBy_perm column R s v).map (fun r => r.team)
  rw [List.map_map] at h
  have hid : (fun r : TableRow => r.team) ∘ rowBy column R s v = id := by
    funext t
    exact rowBy_team column R s v t
  rwa [hid, List.map_id] at h

theorem loc_tableBy {R : Runtime} {s : SeasonSummary} (v : Venue) {t : String}
    (ht : Occurs s.data t) : loc (tableBy column R s v) t = .ok (rowBy column R s v t) := by
  have hn : ((tableBy column R s v).map (fun r => r.team)).Nodup :=
    (map_tableBy_team R s v).nodup_iff.mpr (nodup_teams R s)
  have h := loc_of_mem hn (mem_tableBy.mpr ⟨t, ht, rfl⟩)
  rwa [rowBy_team] at h

/-- A team without a match in the season is no key of a table. -/
theorem loc_tableBy_of_not_occurs {R : Runtime} {s : SeasonSummary} (v : Venue) {t : String}
    (ht : ¬ Occurs s.data t) : loc (tableBy column R s v) t = .error (.keyError t) := by
  have hfind : (tableBy column R s v).find? (fun r => r.team == t) = none := by
    rw [List.find?_eq_none]
    intro r hr hteam
    obtain ⟨t', ht', rfl⟩ := mem_tableBy.mp hr
    rw [rowBy_team, beq_iff_eq] at hteam
    exact ht (hteam ▸ ht')
  unfold loc
  rw [hfind]

/-- For each table type, `calcMainTablesBy` returns the table of that venue. -/
theorem calcMainTablesBy_eq (R : Runtime) (s : SeasonSummary) (v : Venue) :
    s.calcMainTablesBy column R v.label = .ok (some (tableBy column R s v)) := by
  cases v with
  | home => rfl
  | away => rfl
  | overall =>
    have hrows : (s.teams R).mapM (fun team => do
          let home ← loc (tableBy column R s .home) team
          let away ← loc (tableBy column R s .away) team
          return overallRecord team home.toTeamRecord away.toTeamRecord) =
        Except.ok (ε := PyError) ((s.teams R).map (Venue.record .overall s.data)) := by
      apply mapM_ok
      intro team hteam
      rw [loc_tableBy .home (mem_teams.mp hteam), loc_tableBy .away (mem_teams.mp hteam)]
      rfl
    unfold calcMainTablesBy
    simp only [Venue.label, or_true, if_true]
    change ((s.teams R).mapM (fun team => do
          let home ← loc (tableBy column R s .home) team
          let away ← loc (tableBy column R s .away) team
          return overallRecord team home.toTeamRecord away.toTeamRecord) >>= fun records =>
        Except.ok (some (rankTableBy column R records))) = _
    rw [hrows]
    rfl

end Column

/-! ### Exact arithmetic -/

/-- The ranked records of all teams of the season. -/
def table (R : Runtime) (s : SeasonSummary) (v : Venue) : Table := tableBy rankPoints R s v

def rowOf (R : Runtime) (s : SeasonSummary) (v : Venue) (t : String) : TableRow :=
  rowBy rankPoints R s v t

/-- The packed criteria of a team. -/
def key (s : SeasonSummary) (v : Venue) (t : String) : ℚ := rankPoints (v.record s.data t)

def keys (R : Runtime) (s : SeasonSummary) (v : Venue) : List ℚ := (s.teams R).map (key s v)

@[simp] lemma rowOf_toTeamRecord (R : Runtime) (s : SeasonSummary) (v : Venue) (t : String) :
    (rowOf R s v t).toTeamRecord = v.record s.data t := rfl

@[simp] lemma rowOf_team (R : Runtime) (s : SeasonSummary) (v : Venue) (t : String) :
    (rowOf R s v t).team = t := v.record_team s.data t

@[simp] lemma rowOf_rankPoints (R : Runtime) (s : SeasonSummary) (v : Venue) (t : String) :
    (rowOf R s v t).rankPoints = key s v t := rfl

lemma rowOf_rank (R : Runtime) (s : SeasonSummary) (v : Venue) (t : String) :
    (rowOf R s v t).rank = denseRank (keys R s v) (key s v t) := rowBy_rank rankPoints R s v t

lemma key_mem_keys {R : Runtime} {s : SeasonSummary} (v : Venue) {t : String}
    (ht : Occurs s.data t) : key s v t ∈ keys R s v := keyBy_mem_keysBy v ht

theorem rank_le_iff (R : Runtime) {s : SeasonSummary} (v : Venue) {t u : String}
    (ht : Occurs s.data t) (hu : Occurs s.data u) :
    (rowOf R s v t).rank ≤ (rowOf R s v u).rank ↔ key s v u ≤ key s v t := rankBy_le_iff R v ht hu

/-- Within a table, the better rank has the larger packed criteria. -/
theorem rank_lt_iff (R : Runtime) {s : SeasonSummary} (v : Venue) {t u : String}
    (ht : Occurs s.data t) (hu : Occurs s.data u) :
    (rowOf R s v t).rank < (rowOf R s v u).rank ↔ key s v u < key s v t := rankBy_lt_iff R v ht hu

theorem rank_eq_iff (R : Runtime) {s : SeasonSummary} (v : Venue) {t u : String}
    (ht : Occurs s.data t) (hu : Occurs s.data u) :
    (rowOf R s v t).rank = (rowOf R s v u).rank ↔ key s v t = key s v u := rankBy_eq_iff R v ht hu

theorem table_perm (R : Runtime) (s : SeasonSummary) (v : Venue) :
    (table R s v).Perm ((s.teams R).map (rowOf R s v)) := tableBy_perm R s v

lemma table_sorted (R : Runtime) (s : SeasonSummary) (v : Venue) :
    (table R s v).Pairwise (fun r r' => r.rank ≤ r'.rank) :=
  rankTableBy_sorted rankPoints R _

theorem mem_table {R : Runtime} {s : SeasonSummary} {v : Venue} {r : TableRow} :
    r ∈ table R s v ↔ ∃ t, Occurs s.data t ∧ rowOf R s v t = r := mem_tableBy

/-- The rows of a table fall by their packed criteria. -/
lemma key_sorted (R : Runtime) (s : SeasonSummary) (v : Venue) :
    (table R s v).Pairwise (fun r r' => key s v r'.team ≤ key s v r.team) := by
  apply (table_sorted R s v).imp_of_mem
  intro r r' hr hr' hrank
  obtain ⟨t, ht, rfl⟩ := mem_table.mp hr
  obtain ⟨u, hu, rfl⟩ := mem_table.mp hr'
  rw [rowOf_team, rowOf_team]
  exact (rank_le_iff R v ht hu).mp hrank

lemma map_table_team (R : Runtime) (s : SeasonSummary) (v : Venue) :
    ((table R s v).map (fun r => r.team)).Perm (s.teams R) := map_tableBy_team R s v

theorem loc_table {R : Runtime} {s : SeasonSummary} (v : Venue) {t : String}
    (ht : Occurs s.data t) : loc (table R s v) t = .ok (rowOf R s v t) := loc_tableBy v ht

/-- Every team of the season has exactly one row. -/
theorem countP_team_table (R : Runtime) (s : SeasonSummary) (v : Venue) {t : String}
    (ht : Occurs s.data t) : (table R s v).countP (fun r => r.team == t) = 1 := by
  have h := (map_table_team R s v).countP_eq (fun t' => t' == t)
  rw [List.countP_map] at h
  have hcount : (s.teams R).count t = 1 :=
    List.count_eq_one_of_mem (nodup_teams R s) (mem_teams.mpr ht)
  exact h.trans hcount

theorem sum_table {M : Type*} [AddCommMonoid M] (R : Runtime) (s : SeasonSummary) (v : Venue)
    (f : TableRow → M) :
    ((table R s v).map f).sum = ((s.teams R).map (fun t => f (rowOf R s v t))).sum := by
  rw [((table_perm R s v).map f).sum_eq, List.map_map]
  rfl

/-! ### Equal tables -/

/-- The same rows, and the same rank at each position: the tables differ at most by the order
of rows of equal rank. -/
def SameUpToTies (t t' : Table) : Prop :=
  t.Perm t' ∧ t.map (fun r => r.rank) = t'.map (fun r => r.rank)

lemma sameUpToTies_of_perm {t t' : Table} (h : t.Perm t')
    (ht : t.Pairwise (fun r r' => r.rank ≤ r'.rank))
    (ht' : t'.Pairwise (fun r r' => r.rank ≤ r'.rank)) : SameUpToTies t t' := by
  refine ⟨h, ?_⟩
  have hs : (t.map (fun r => r.rank)).Pairwise (· ≤ ·) := List.pairwise_map.mpr ht
  have hs' : (t'.map (fun r => r.rank)).Pairwise (· ≤ ·) := List.pairwise_map.mpr ht'
  exact (h.map _).eq_of_pairwise (fun a b _ _ hab hba => le_antisymm hab hba) hs hs'

section SameRecords

variable (R R' : Runtime) {s s' : SeasonSummary} {v v' : Venue}
  (hocc : ∀ t, Occurs s.data t ↔ Occurs s'.data t)
  (hrec : ∀ t, v.record s.data t = v'.record s'.data t)

include hocc

lemma teams_perm : (s.teams R).Perm (s'.teams R') := by
  rw [List.perm_ext_iff_of_nodup (nodup_teams R s) (nodup_teams R' s')]
  intro t
  rw [mem_teams, mem_teams, hocc]

include hrec

/-- A team has the same row in two seasons with the same teams and the same records. -/
lemma rowOf_congr {t : String} (ht : Occurs s.data t) : rowOf R s v t = rowOf R' s' v' t := by
  have hkey : key s v = key s' v' := by
    funext t
    unfold key
    rw [hrec]
  have hkeys : (keys R s v).Perm (keys R' s' v') := by
    unfold keys
    rw [hkey]
    exact (teams_perm R R' hocc).map _
  have hrank : (rowOf R s v t).rank = (rowOf R' s' v' t).rank := by
    rw [rowOf_rank, rowOf_rank, denseRank_perm hkeys (key_mem_keys v ht), hkey]
  have hpoints : (rowOf R s v t).rankPoints = (rowOf R' s' v' t).rankPoints := by
    rw [rowOf_rankPoints, rowOf_rankPoints, hkey]
  have hr : (rowOf R s v t).toTeamRecord = (rowOf R' s' v' t).toTeamRecord := hrec t
  exact TableRow.ext_parts hr hpoints hrank

/-- Two seasons with the same teams and the same records have the same tables, whatever the
order in which the teams are listed and the ties are sorted. -/
theorem sameUpToTies_table : SameUpToTies (table R s v) (table R' s' v') := by
  have hrow : ∀ t ∈ s.teams R, rowOf R s v t = rowOf R' s' v' t :=
    fun t ht => rowOf_congr R R' hocc hrec (mem_teams.mp ht)
  apply sameUpToTies_of_perm _ (table_sorted R s v) (table_sorted R' s' v')
  refine (table_perm R s v).trans (List.Perm.trans ?_ (table_perm R' s' v').symm)
  rw [List.map_congr_left hrow]
  exact (teams_perm R R' hocc).map _

end SameRecords

/-- For each table type, `calcMainTables` returns the table of that venue. -/
theorem calcMainTables_eq (R : Runtime) (s : SeasonSummary) (v : Venue) :
    s.calcMainTables R v.label = .ok (some (table R s v)) := calcMainTablesBy_eq R s v

/-- The row that a lookup in a returned table finds. -/
lemma eq_rowOf {R : Runtime} {s : SeasonSummary} {v : Venue} {team : String} {t : Table}
    {row : TableRow} (hteam : Occurs s.data team) (ht : s.calcMainTables R v.label = .ok (some t))
    (hrow : loc t team = .ok row) : row = rowOf R s v team := by
  rw [calcMainTables_eq] at ht
  obtain rfl := Option.some.inj (Except.ok.inj ht)
  rw [loc_table v hteam] at hrow
  exact (Except.ok.inj hrow).symm

/-- The table of a venue has the given rows, one for each team of the season. -/
def TableOf (R : Runtime) (s : SeasonSummary) (v : Venue) (row : String → TableRow) : Prop :=
  ∃ t, s.calcMainTables R v.label = .ok (some t) ∧
    (∀ team, Occurs s.data team → loc t team = .ok (row team)) ∧
    ∀ r ∈ t, ∃ team, Occurs s.data team ∧ row team = r

theorem tableOf_rowOf (R : Runtime) (s : SeasonSummary) (v : Venue) :
    TableOf R s v (rowOf R s v) := by
  refine ⟨table R s v, calcMainTables_eq R s v, ?_, ?_⟩
  · intro team hteam
    exact loc_table v hteam
  · intro r hr
    exact mem_table.mp hr

end PremierLeague.Proofs
