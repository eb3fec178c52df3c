import PremierLeague.Proofs.MatrixEncoding
import PremierLeague.Proofs.OverallTable
import PremierLeague.Proofs.TeamStats
import PremierLeague.Summaries

/-!
# Team names

The teams of a season may be called anything: other names, different for different teams, change no
summary of the season, no figure and no rank of a team, and no score in the matrix of results. Only
the order of the matrix follows the names.
-/

namespace PremierLeague

open Tabular

/-- The match between the teams under their other names. -/
def Match.rename (f : String → String) (m : Match) : Match :=
  { m with HomeTeam := f m.HomeTeam, AwayTeam := f m.AwayTeam }

def SeasonSummary.rename (f : String → String) (s : SeasonSummary) : SeasonSummary where
  data := s.data.map (Match.rename f)
  season := s.season
  numOfMatches := s.numOfMatches
  season_eq := by
    intro m hm
    obtain ⟨m', hm', rfl⟩ := List.mem_map.mp hm
    exact s.season_eq m' hm'
  numOfMatches_eq := by rw [s.numOfMatches_eq, List.length_map]

namespace Proofs

open SeasonSummary

variable {f : String → String}

/-! ### Summaries -/

section Summaries

variable (s : SeasonSummary)

@[simp] lemma data_rename : (s.rename f).data = s.data.map (Match.rename f) := rfl

@[simp] lemma numOfMatches_rename : (s.rename f).numOfMatches = s.numOfMatches := rfl

lemma summaryGoals_rename : (s.rename f).summaryGoals = s.summaryGoals := by
  unfold summaryGoals
  simp only [data_rename, numOfMatches_rename, List.map_map]
  rfl

lemma withResult_rename (ftr : String) :
    (s.rename f).withResult ftr = (s.withResult ftr).map (Match.rename f) := by
  unfold withResult
  rw [data_rename, List.filter_map]
  rfl

lemma summaryFtResults_rename : (s.rename f).summaryFtResults = s.summaryFtResults := by
  unfold summaryFtResults
  simp only [data_rename, withResult_rename, List.map_map, List.length_map]
  rfl

lemma summaryGoalSpread_rename : (s.rename f).summaryGoalSpread = s.summaryGoalSpread := by
  have hcnt : (s.rename f).scoreCnt = s.scoreCnt := by
    funext i j
    unfold scoreCnt
    rw [data_rename, List.filter_map, List.length_map]
    rfl
  unfold summaryGoalSpread
  rw [hcnt, numOfMatches_rename]

lemma marketRows_rename : (s.rename f).marketRows = s.marketRows := by
  funext k
  unfold marketRows underCnt
  simp only [data_rename, numOfMatches_rename, List.filter_map, List.length_map]
  rfl

lemma summaryGoalMarkets_rename : (s.rename f).summaryGoalMarkets = s.summaryGoalMarkets := by
  unfold summaryGoalMarkets
  rw [marketRows_rename]

lemma summaryStats_rename : (s.rename f).summaryStats = s.summaryStats := by
  unfold summaryStats statBlock
  simp only [data_rename, List.map_map]
  rfl

end Summaries

/-! ### Tables -/

section Tables

variable (hf : Function.Injective f)

include hf

lemma homeViews_rename (df : List Match) (t : String) :
    homeViews (df.map (Match.rename f)) (f t) = homeViews df t := by
  have hside : (fun m => m.HomeTeam == f t) ∘ Match.rename f = fun m => m.HomeTeam == t := by
    funext m
    exact (hf.beq_eq : (f m.HomeTeam == f t) = _)
  unfold homeViews
  rw [List.filter_map, hside, List.map_map]
  rfl

lemma awayViews_rename (df : List Match) (t : String) :
    awayViews (df.map (Match.rename f)) (f t) = awayViews df t := by
  have hside : (fun m => m.AwayTeam == f t) ∘ Match.rename f = fun m => m.AwayTeam == t := by
    funext m
    exact (hf.beq_eq : (f m.AwayTeam == f t) = _)
  unfold awayViews
  rw [List.filter_map, hside, List.map_map]
  rfl

lemma record_rename (v : Venue) (df : List Match) (t : String) :
    v.record (df.map (Match.rename f)) (f t) = { v.record df t with team := f t } := by
  have hhome : homeRecord (df.map (Match.rename f)) (f t) =
      { homeRecord df t with team := f t } := by
    rw [homeRecord_eq, homeRecord_eq, homeViews_rename hf]
    rfl
  have haway : awayRecord (df.map (Match.rename f)) (f t) =
      { awayRecord df t with team := f t } := by
    rw [awayRecord_eq, awayRecord_eq, awayViews_rename hf]
    rfl
  cases v with
  | home => exact hhome
  | away => exact haway
  | overall =>
    change overallRecord (f t) (homeRecord _ (f t)) (awayRecord _ (f t)) = _
    rw [hhome, haway]
    rfl

omit hf in
lemma occurs_rename {data : List Match} {u : String} :
    Occurs (data.map (Match.rename f)) u ↔ ∃ t, Occurs data t ∧ f t = u := by
  constructor
  · rintro ⟨_, hmem, hside⟩
    obtain ⟨m, hm, rfl⟩ := List.mem_map.mp hmem
    rcases hside with rfl | rfl
    · exact ⟨m.HomeTeam, ⟨m, hm, Or.inl rfl⟩, rfl⟩
    · exact ⟨m.AwayTeam, ⟨m, hm, Or.inr rfl⟩, rfl⟩
  · rintro ⟨t, ⟨m, hm, hside⟩, rfl⟩
    exact ⟨_, List.mem_map_of_mem hm, hside.imp (congrArg f) (congrArg f)⟩

lemma keys_rename (R R' : Runtime) (s : SeasonSummary) (v : Venue) :
    (keys R' (s.rename f) v).Perm (keys R s v) := by
  have hteams : ((s.rename f).teams R').Perm ((s.teams R).map f) := by
    rw [List.perm_ext_iff_of_nodup (nodup_teams R' _) ((nodup_teams R s).map hf)]
    intro u
    rw [mem_teams, List.mem_map]
    simp only [mem_teams]
    exact occurs_rename
  have hkey : key (s.rename f) v ∘ f = key s v := by
    funext t
    change rankPoints (v.record (s.data.map _) (f t)) = _
    rw [record_rename hf]
    rfl
  have hperm := hteams.map (key (s.rename f) v)
  rw [List.map_map, hkey] at hperm
  exact hperm

/-- A row is the same but for the name. -/
lemma rowOf_rename (R R' : Runtime) {s : SeasonSummary} (v : Venue) {t : String}
    (ht : Occurs s.data t) :
    rowOf R' (s.rename f) v (f t) = { rowOf R s v t with team := f t } := by
  have hkey : key (s.rename f) v (f t) = key s v t := by
    change rankPoints (v.record (s.data.map _) (f t)) = _
    rw [record_rename hf]
    rfl
  apply TableRow.ext_parts
  · exact record_rename hf v s.data t
  · rw [rowOf_rankPoints, hkey]
    rfl
  · rw [rowOf_rank, hkey, denseRank_perm ((keys_rename hf R R' s v))
      ((keys_rename hf R R' s v).mem_iff.mpr (key_mem_keys v ht)), ← rowOf_rank]

end Tables

/-! ### The matrix of results -/

section Matrix

variable (hf : Function.Injective f) (s : SeasonSummary)

include hf

lemma resultCell_rename (t u : String) :
    (s.rename f).resultCell (f t) (f u) = s.resultCell t u := by
  have hpair : (fun m => m.HomeTeam == f t && m.AwayTeam == f u) ∘ Match.rename f =
      fun m => m.HomeTeam == t && m.AwayTeam == u := by
    funext m
    exact congrArg₂ (· && ·) (hf.beq_eq : (f m.HomeTeam == f t) = _)
      (hf.beq_eq : (f m.AwayTeam == f u) = _)
  unfold resultCell
  simp only [hf.eq_iff, data_rename, List.filter_map, hpair, List.map_map]
  rfl

omit hf in
lemma mem_matrixTeams_rename {u : String} :
    u ∈ (s.rename f).matrixTeams ↔ ∃ t ∈ s.matrixTeams, f t = u := by
  simp only [mem_matrixTeams, data_rename, List.mem_map]
  constructor
  · rintro ⟨_, ⟨m, hm, rfl⟩, rfl⟩
    exact ⟨m.HomeTeam, ⟨m, hm, rfl⟩, rfl⟩
  · rintro ⟨_, ⟨m, hm, rfl⟩, rfl⟩
    exact ⟨_, ⟨m, hm, rfl⟩, rfl⟩

lemma getResultMatrix_rename {fr : Frame String} (h : s.getResultMatrix = .ok fr) :
    ∃ fr', (s.rename f).getResultMatrix = .ok fr' ∧
      ("Teams" ∉ s.matrixTeams → "Teams" ∉ (s.rename f).matrixTeams →
        ∀ t ∈ s.matrixTeams, ∀ u ∈ s.matrixTeams, entry fr' (f t) (f u) = entry fr t u) := by
  have hcell := resultCell_of_getResultMatrix h
  choose! c hc using hcell
  have hcell' : ∀ t' ∈ (s.rename f).matrixTeams, ∀ u' ∈ (s.rename f).matrixTeams,
      ∃ c', (s.rename f).resultCell t' u' = .ok c' := by
    intro t' ht' u' hu'
    obtain ⟨t, ht, rfl⟩ := (mem_matrixTeams_rename s).mp ht'
    obtain ⟨u, hu, rfl⟩ := (mem_matrixTeams_rename s).mp hu'
    exact ⟨c t u, (resultCell_rename hf s t u).trans (hc t ht u hu)⟩
  choose! c' hc' using hcell'
  refine ⟨_, getResultMatrix_eq hc', ?_⟩
  intro hlabel hlabel' t ht u hu
  have ht' : f t ∈ (s.rename f).matrixTeams := (mem_matrixTeams_rename s).mpr ⟨t, ht, rfl⟩
  have hu' : f u ∈ (s.rename f).matrixTeams := (mem_matrixTeams_rename s).mpr ⟨u, hu, rfl⟩
  have hcells := (resultCell_rename hf s t u).symm.trans (hc' _ ht' _ hu')
  rw [getResultMatrix_eq hc] at h
  rw [← Except.ok.inj h, entry_matrixFrame (nodup_matrixTeams _) hlabel' ht' hu',
    entry_matrixFrame (nodup_matrixTeams s) hlabel ht hu,
    Except.ok.inj ((hc t ht u hu).symm.trans hcells)]

/-- No name makes a matrix out of a season that has none. -/
lemma getResultMatrix_of_rename {fr' : Frame String}
    (h : (s.rename f).getResultMatrix = .ok fr') : ∃ fr, s.getResultMatrix = .ok fr := by
  have hcell : ∀ t ∈ s.matrixTeams, ∀ u ∈ s.matrixTeams, ∃ c, s.resultCell t u = .ok c := by
    intro t ht u hu
    rw [← resultCell_rename hf s t u]
    exact resultCell_of_getResultMatrix h _ ((mem_matrixTeams_rename s).mpr ⟨t, ht, rfl⟩) _
      ((mem_matrixTeams_rename s).mpr ⟨u, hu, rfl⟩)
  choose! c hc using hcell
  exact ⟨_, getResultMatrix_eq hc⟩

end Matrix

/-! ### The season under other names -/

/-- Both seasons have the same summaries. -/
structure SameSummaries (s s' : SeasonSummary) : Prop where
  summaryGoals : s'.summaryGoals = s.summaryGoals
  summaryFtResults : s'.summaryFtResults = s.summaryFtResults
  summaryGoalSpread : s'.summaryGoalSpread = s.summaryGoalSpread
  summaryGoalMarkets : s'.summaryGoalMarkets = s.summaryGoalMarkets
  summaryStats : s'.summaryStats = s.summaryStats

/-- Other names for the teams leave the summaries, the rows of the tables, the figures of every team
and the scores of the matrix as they are. -/
theorem renamed_season (R R' : Runtime) (s : SeasonSummary) (f : String → String)
    (hf : Function.Injective f) :
    SameSummaries s (s.rename f) ∧
      (∀ v : Venue, ∃ row row', TableOf R s v row ∧ TableOf R' (s.rename f) v row' ∧
        ∀ t, Occurs s.data t → row' (f t) = { row t with team := f t }) ∧
      (∀ t, Occurs s.data t →
        (s.rename f).calcTeamStats R' (f t) = s.calcTeamStats R t) ∧
      ((∃ fr', (s.rename f).getResultMatrix = .ok fr') ↔ ∃ fr, s.getResultMatrix = .ok fr) ∧
      ∀ fr fr', s.getResultMatrix = .ok fr → (s.rename f).getResultMatrix = .ok fr' →
        "Teams" ∉ s.matrixTeams → "Teams" ∉ (s.rename f).matrixTeams →
        ∀ t ∈ s.matrixTeams, ∀ u ∈ s.matrixTeams, entry fr' (f t) (f u) = entry fr t u := by
  refine ⟨⟨summaryGoals_rename s, summaryFtResults_rename s, summaryGoalSpread_rename s,
    summaryGoalMarkets_rename s, summaryStats_rename s⟩, ?_, ?_, ⟨?_, ?_⟩, ?_⟩
  · intro v
    exact ⟨rowOf R s v, rowOf R' (s.rename f) v, tableOf_rowOf R s v, tableOf_rowOf R' _ v,
      fun t ht => rowOf_rename hf R R' v ht⟩
  · intro t ht
    rw [calcTeamStats_eq R ht, calcTeamStats_eq R' (occurs_rename.mpr ⟨t, ht, rfl⟩)]
    simp only [rowOf_rename hf R R' _ ht, statsRow]
  · rintro ⟨fr', hfr'⟩
    exact getResultMatrix_of_rename hf s hfr'
  · rintro ⟨fr, hfr⟩
    obtain ⟨fr', hfr', -⟩ := getResultMatrix_rename hf s hfr
    exact ⟨fr', hfr'⟩
  · intro fr fr' hfr hfr' hlabel hlabel'
    obtain ⟨fr'', hfr'', hentry⟩ := getResultMatrix_rename hf s hfr
    obtain rfl := Except.ok.inj (hfr'.symm.trans hfr'')
    exact hentry hlabel hlabel'

theorem renamed_season_openSeason :
    SameSummaries openSeason (openSeason.rename (fun t => t ++ " FC")) ∧
      (openSeason.rename (fun t => t ++ " FC")).calcTeamStats firstSeen ("Leeds" ++ " FC") =
        openSeason.calcTeamStats firstSeen "Leeds" := by
  have hinj : Function.Injective (fun t : String => t ++ " FC") := by
    intro t u h
    simpa using h
  obtain ⟨hsummaries, -, hstats, -⟩ := renamed_season firstSeen firstSeen openSeason _ hinj
  exact ⟨hsummaries, hstats "Leeds" (by decide)⟩

end Proofs

end PremierLeague
