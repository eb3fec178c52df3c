import PremierLeague.Proofs.Improvement

/-!
# Locality of an edit

A table counts a match for the home side, for the away side or for both. Editing the match changes
no record of another team, and no cell of another team unless the columns change their type where
the packed criteria do not fit. So it keeps the order of the other teams. More goals for one side
raise that team and lower its opponent, and no team passes it, unless the packed criteria of one of
the two wrap around.
-/

namespace PremierLeague.Proofs

open Tabular SeasonSummary

/-- The table of a venue counts the match for the team. -/
def Venue.Counts : Venue → Match → String → Prop
  | home, m, team => m.HomeTeam = team
  | away, m, team => m.AwayTeam = team
  | overall, m, team => m.HomeTeam = team ∨ m.AwayTeam = team

instance (v : Venue) (m : Match) (team : String) : Decidable (v.Counts m team) :=
  match v with
  | .home => inferInstanceAs (Decidable (m.HomeTeam = team))
  | .away => inferInstanceAs (Decidable (m.AwayTeam = team))
  | .overall => inferInstanceAs (Decidable (m.HomeTeam = team ∨ m.AwayTeam = team))

/-- The second match has `k` more full-time goals for a side, and as many for the other. -/
def MoreGoals (side : Side) (k : ℕ) (m m' : Match) : Prop :=
  m'.goals side = (m.goals side).map (· + (k : ℚ)) ∧ m'.goals side.other = m.goals side.other

/-! ### Records that are not touched -/

section Edited

variable {s s' : SeasonSummary} {pre post : List Match} {m m' : Match}
  (hs : s.data = pre ++ m :: post) (hs' : s'.data = pre ++ m' :: post)

include hs hs'

lemma filter_edit {p : Match → Bool} (hm : p m = false) (hm' : p m' = false) :
    s'.data.filter p = s.data.filter p := by
  rw [hs, hs', List.filter_append, List.filter_append, List.filter_cons_of_neg (by simp [hm']),
    List.filter_cons_of_neg (by simp [hm])]

variable (hf : m'.fixture = m.fixture)

include hf

lemma homeRecord_edit {team : String} (ht : m.HomeTeam ≠ team) :
    homeRecord s'.data team = homeRecord s.data team := by
  have ht' : m'.HomeTeam ≠ team := (congrArg Prod.fst hf).trans_ne ht
  have hviews : homeViews s'.data team = homeViews s.data team := by
    unfold homeViews
    rw [filter_edit hs hs' (by simpa using ht) (by simpa using ht')]
  rw [homeRecord_eq, homeRecord_eq, hviews]

lemma awayRecord_edit {team : String} (ht : m.AwayTeam ≠ team) :
    awayRecord s'.data team = awayRecord s.data team := by
  have ht' : m'.AwayTeam ≠ team := (congrArg Prod.snd hf).trans_ne ht
  have hviews : awayViews s'.data team = awayViews s.data team := by
    unfold awayViews
    rw [filter_edit hs hs' (by simpa using ht) (by simpa using ht')]
  rw [awayRecord_eq, awayRecord_eq, hviews]

lemma record_edit (v : Venue) {team : String} (ht : ¬ v.Counts m team) :
    v.record s'.data team = v.record s.data team := by
  cases v with
  | home => exact homeRecord_edit hs hs' hf ht
  | away => exact awayRecord_edit hs hs' hf ht
  | overall =>
    obtain ⟨hh, ha⟩ := not_or.mp ht
    change overallRecord team _ _ = overallRecord team _ _
    rw [homeRecord_edit hs hs' hf hh, awayRecord_edit hs hs' hf ha]

lemma key_of_not_counts (v : Venue) {team : String} (ht : ¬ v.Counts m team) :
    key s' v team = key s v team :=
  congrArg rankPoints (record_edit hs hs' hf v ht)

/-- The cell of a team that is not counted stays, when the columns keep their type or hold its
packed criteria exactly. -/
lemma storedKey_of_not_counts (v : Venue) {team : String} (ht : ¬ v.Counts m team)
    (hcell : intGoals s'.data = intGoals s.data ∨
      HeldExactly v s.data team ∧ HeldExactly v s'.data team) :
    storedKey s' v team = storedKey s v team := by
  have hkey := key_of_not_counts hs hs' hf v ht
  rcases hcell with hint | ⟨hbefore, hafter⟩
  · exact storedKey_congr hint hkey
  · rw [storedKey_eq_iff.mpr hbefore, storedKey_eq_iff.mpr hafter, hkey]

end Edited

/-! ### More goals for one side -/

lemma counts_scorer {m : Match} {side : Side} {v : Venue} (hv : v = side.venue ∨ v = .overall) :
    v.Counts m (m.team side) := by
  rcases hv with rfl | rfl
  · cases side <;> rfl
  · cases side with
    | home => exact Or.inl rfl
    | away => exact Or.inr rfl

/-- The other team that such a table counts is the opponent, in the overall table. -/
lemma eq_opponent_of_counts {m : Match} {side : Side} {v : Venue}
    (hv : v = side.venue ∨ v = .overall) {team : String} (ht : team ≠ m.team side)
    (hc : v.Counts m team) : v = .overall ∧ team = m.team side.other := by
  rcases hv with rfl | rfl
  · cases side with
    | home => exact absurd hc.symm ht
    | away => exact absurd hc.symm ht
  · refine ⟨rfl, ?_⟩
    cases side with
    | home => exact (hc.resolve_left (fun h => ht h.symm)).symm
    | away => exact (hc.resolve_right (fun h => ht h.symm)).symm

section MoreGoals

variable {s s' : SeasonSummary} {pre post : List Match} {m m' : Match} {side : Side} {k : ℕ}
  {v : Venue} (hs : s.data = pre ++ m :: post) (hs' : s'.data = pre ++ m' :: post)
  (hf : m'.fixture = m.fixture) (hk : 1 ≤ k) (hg : MoreGoals side k m m')
  (hne : m.HomeTeam ≠ m.AwayTeam)

include hf hne

/-- The edited match still takes effect through the views of its two teams. -/
lemma effect_edit (side : Side) (hv : v = side.venue ∨ v = .overall) :
    v.effect (m.team side) m' = contribution (viewFrom m' side) := by
  have hh : m'.HomeTeam = m.HomeTeam := congrArg Prod.fst hf
  have ha : m'.AwayTeam = m.AwayTeam := congrArg Prod.snd hf
  have hteam : m'.team side = m.team side := by
    cases side with
    | home => exact hh
    | away => exact ha
  rw [← hteam]
  exact effect_team (by rwa [hh, ha]) side hv

include hs hs' hk hg

lemma key_le_scorer (hv : v = side.venue ∨ v = .overall) :
    key s v (m.team side) ≤ key s' v (m.team side) := by
  have hkey := key_edit hs hs' v (m.team side)
  have hle : contribution (viewFrom m side) ≤ contribution (viewFrom m' side) := by
    apply contribution_le_of_scored hk
    · rw [viewFrom_goalsFor, viewFrom_goalsFor, hg.1]
    · rw [viewFrom_goalsAgainst, viewFrom_goalsAgainst, hg.2]
  rw [effect_edit hf hne side hv, effect_team hne side hv] at hkey
  linarith

lemma key_le_opponent :
    key s' .overall (m.team side.other) ≤ key s .overall (m.team side.other) := by
  have hkey := key_edit hs hs' .overall (m.team side.other)
  have htwice : side.other.other = side := by cases side <;> rfl
  have hle : contribution (viewFrom m' side.other) ≤ contribution (viewFrom m side.other) := by
    apply contribution_le_of_conceded hk
    · rw [viewFrom_goalsAgainst, viewFrom_goalsAgainst, htwice, hg.1]
    · rw [viewFrom_goalsFor, viewFrom_goalsFor, hg.2]
  rw [effect_edit hf hne side.other (Or.inr rfl), effect_team hne side.other (Or.inr rfl)] at hkey
  linarith

end MoreGoals

/-! ### The edited tables -/

/-- The cells of `rank_points` and the order of the teams for which the table does not count the
match are as before. -/
structure OthersKept (v : Venue) (data : List Match) (m : Match)
    (before after : String → TableRow) : Prop where
  cells : ∀ t, Occurs data t → ¬ v.Counts m t → (after t).rankPoints = (before t).rankPoints
  order : ∀ t u, Occurs data t → Occurs data u → ¬ v.Counts m t → ¬ v.Counts m u →
    ((after t).rank < (after u).rank ↔ (before t).rank < (before u).rank)

/-- What an edit of one match leaves in the table of a venue: the records and the order of the teams
for which the table does not count it, and, if it only adds goals for one side, all teams that this
side was level with or above. -/
structure EditLocal (v : Venue) (data : List Match) (m m' : Match)
    (before after : String → TableRow) : Prop extends OthersKept v data m before after where
  records : ∀ t, Occurs data t → ¬ v.Counts m t → (after t).toTeamRecord = (before t).toTeamRecord
  goals : m.HomeTeam ≠ m.AwayTeam → ∀ side k, 1 ≤ k → MoreGoals side k m m' →
    v = side.venue ∨ v = .overall → ∀ t, Occurs data t →
      (before (m.team side)).rank ≤ (before t).rank → (after (m.team side)).rank ≤ (after t).rank

/-- Where the goals change their type, the column `rank_points` of a venue holds the packed criteria
of the teams for which the table does not count the match. -/
def OthersHeld (v : Venue) (before after : List Match) (m : Match) : Prop :=
  ∀ t, Occurs before t → ¬ v.Counts m t → intGoals after = intGoals before ∨
    HeldExactly v before t ∧ HeldExactly v after t

/-- The column holds the packed criteria of the teams for which the table counts the match. -/
def TeamsHeld (v : Venue) (before after : List Match) (m : Match) : Prop :=
  ∀ t, v.Counts m t → HeldExactly v before t ∧ HeldExactly v after t

section Held

variable {s s' : SeasonSummary} {pre post : List Match} {m m' : Match} {v : Venue}
  (hs : s.data = pre ++ m :: post) (hs' : s'.data = pre ++ m' :: post)
  (hf : m'.fixture = m.fixture) (hothers : OthersHeld v s.data s'.data m)

include hs hs' hf hothers

lemma othersKept_edit (R R' : Runtime) :
    OthersKept v s.data m (storedRow R s v) (storedRow R' s' v) := by
  have hocc := occurs_edit hs hs' hf
  constructor
  · intro t ht hnt
    exact storedKey_of_not_counts hs hs' hf v hnt (hothers t ht hnt)
  · intro t u ht hu hnt hnu
    have hafter : (storedRow R' s' v t).rank < (storedRow R' s' v u).rank ↔
        storedKey s' v u < storedKey s' v t :=
      rankBy_lt_iff R' v ((hocc t).mpr ht) ((hocc u).mpr hu)
    have hbefore : (storedRow R s v t).rank < (storedRow R s v u).rank ↔
        storedKey s v u < storedKey s v t := rankBy_lt_iff R v ht hu
    rw [hafter, hbefore, storedKey_of_not_counts hs hs' hf v hnt (hothers t ht hnt),
      storedKey_of_not_counts hs hs' hf v hnu (hothers u hu hnu)]

variable {side : Side} {k : ℕ} (hteams : TeamsHeld v s.data s'.data m) (hk : 1 ≤ k)
  (hg : MoreGoals side k m m') (hne : m.HomeTeam ≠ m.AwayTeam) (hv : v = side.venue ∨ v = .overall)

omit hothers in
include hteams hk hg hne hv in
/-- The cell of the scorer does not fall. -/
lemma storedKey_le_scorer : storedKey s v (m.team side) ≤ storedKey s' v (m.team side) := by
  obtain ⟨hbefore, hafter⟩ := hteams (m.team side) (counts_scorer hv)
  rw [storedKey_eq_iff.mpr hbefore, storedKey_eq_iff.mpr hafter]
  exact key_le_scorer hs hs' hf hk hg hne hv

include hteams hk hg hne hv

/-- No other cell rises in a table that counts the goals. -/
lemma storedKey_le_other {team : String} (hocc : Occurs s.data team) (ht : team ≠ m.team side) :
    storedKey s' v team ≤ storedKey s v team := by
  by_cases hc : v.Counts m team
  · obtain ⟨hbefore, hafter⟩ := hteams team hc
    obtain ⟨rfl, rfl⟩ := eq_opponent_of_counts hv ht hc
    rw [storedKey_eq_iff.mpr hbefore, storedKey_eq_iff.mpr hafter]
    exact key_le_opponent hs hs' hf hk hg hne
  · exact (storedKey_of_not_counts hs hs' hf v hc (hothers team hocc hc)).le

lemma storedRank_le_edit (R R' : Runtime) {team : String} (ht : Occurs s.data team)
    (hle : (storedRow R s v (m.team side)).rank ≤ (storedRow R s v team).rank) :
    (storedRow R' s' v (m.team side)).rank ≤ (storedRow R' s' v team).rank := by
  have hocc := occurs_edit hs hs' hf
  have hscorer : Occurs s.data (m.team side) := by
    refine ⟨m, hs ▸ List.mem_append_right _ List.mem_cons_self, ?_⟩
    cases side with
    | home => exact Or.inl rfl
    | away => exact Or.inr rfl
  by_cases heq : team = m.team side
  · rw [heq]
  · have hbefore := (rankBy_le_iff R v hscorer ht).mp hle
    refine (rankBy_le_iff R' v ((hocc _).mpr hscorer) ((hocc _).mpr ht)).mpr ?_
    exact (storedKey_le_other hs hs' hf hothers hteams hk hg hne hv ht heq).trans
      (hbefore.trans (storedKey_le_scorer hs hs' hf hteams hk hg hne hv))

end Held

def narrowWin : SeasonSummary := .init [fixture "Arsenal" "Chelsea" 1 0] "20-21"

/-- The win with so many goals that the packed criteria of both teams wrap around. -/
def hugeWin : SeasonSummary :=
  .init [(fixture "Arsenal" "Chelsea" 1 0).addGoals .home 9223372036854775] "20-21"

end PremierLeague.Proofs
