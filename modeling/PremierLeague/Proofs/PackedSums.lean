import PremierLeague.Proofs.Views

/-!
# The packed criteria as a sum over matches

The packed criteria are linear. In each table they are the sum of what the single matches
contribute to a team, and the overall criteria are the sum of the home and the away criteria.
More goals for a team raise the contribution of a match to that team and lower the
contribution to its opponent.
-/

namespace PremierLeague.Proofs

open Tabular SeasonSummary

def resultPoints (v : View) : ℕ := (if v.won then 3 else 0) + (if v.draw then 1 else 0)

/-- What a view adds to the packed criteria of its team. -/
def contribution (v : View) : ℚ :=
  resultPoints v * 1000000 + (v.goalsFor.val - v.goalsAgainst.val) * 1000 + v.goalsFor.val

lemma rankPoints_recordOf (team : String) (vs : List View) :
    rankPoints (recordOf team vs) = (vs.map contribution).sum := by
  unfold rankPoints recordOf
  simp only [Series.sum_map]
  induction vs with
  | nil => simp
  | cons v vs ih =>
    have hsum : ((v :: vs).map contribution).sum = contribution v + (vs.map contribution).sum := by
      rw [List.map_cons, List.sum_cons]
    rw [hsum, ← ih]
    simp only [List.countP_cons, List.map_cons, List.sum_cons, contribution, resultPoints]
    cases v.won <;> cases v.draw <;> push_cast <;> simp <;> ring

/-- What a team sees of a match in the table of a venue. -/
def Venue.sees : Venue → String → Match → List View
  | home, team, m => if m.HomeTeam = team then [homeView m] else []
  | away, team, m => if m.AwayTeam = team then [awayView m] else []
  | overall, team, m => sidesOf team m

lemma flatMap_sees_perm (v : Venue) (df : List Match) (team : String) :
    (df.flatMap (v.sees team)).Perm (v.views df team) := by
  cases v with
  | home => exact List.Perm.of_eq (flatMap_ite_singleton Match.HomeTeam homeView team df)
  | away => exact List.Perm.of_eq (flatMap_ite_singleton Match.AwayTeam awayView team df)
  | overall => exact flatMap_sidesOf_perm df team

/-- What a match adds to the packed criteria of a team in the table of a venue. -/
def Venue.effect (v : Venue) (team : String) (m : Match) : ℚ :=
  ((v.sees team m).map contribution).sum

lemma rankPoints_of_standing {r r' : TeamRecord} (h : standing r = standing r') :
    rankPoints r = rankPoints r' := by
  simp only [standing, Standing.mk.injEq] at h
  obtain ⟨-, -, -, -, hs, -, hgd, hp, -⟩ := h
  unfold rankPoints
  rw [hs, hgd, hp]

theorem key_eq_sum (s : SeasonSummary) (v : Venue) (team : String) :
    key s v team = (s.data.map (v.effect team)).sum := by
  unfold key
  rw [rankPoints_of_standing (standing_record v s.data team), rankPoints_recordOf,
    ← ((flatMap_sees_perm v s.data team).map contribution).sum_eq, List.map_flatMap,
    List.flatMap_def, List.sum_flatten, List.map_map]
  rfl

theorem key_overall_add (s : SeasonSummary) (team : String) :
    key s .overall team = key s .home team + key s .away team := by
  rw [key_eq_sum, key_eq_sum, key_eq_sum, ← List.sum_map_add]
  congr 1
  apply List.map_congr_left
  intro m _
  unfold Venue.effect
  dsimp only [Venue.sees, sidesOf, sides]
  rw [List.map_append, List.sum_append]

/-! ### One edited match -/

section Edited

variable {s s' : SeasonSummary} {pre post : List Match} {m m' : Match}
  (hs : s.data = pre ++ m :: post) (hs' : s'.data = pre ++ m' :: post)

include hs hs'

lemma occurs_edit (hf : m'.fixture = m.fixture) (team : String) :
    Occurs s'.data team ↔ Occurs s.data team := by
  have hteams : m'.HomeTeam = m.HomeTeam ∧ m'.AwayTeam = m.AwayTeam := Prod.ext_iff.mp hf
  unfold Occurs
  rw [hs, hs']
  simp only [List.mem_append, List.mem_cons, or_and_right, exists_or, exists_eq_left,
    hteams.1, hteams.2]

/-- An edited match changes the criteria by the difference of its effects. -/
lemma key_edit (v : Venue) (team : String) :
    key s' v team - key s v team = v.effect team m' - v.effect team m := by
  rw [key_eq_sum, key_eq_sum, hs, hs']
  simp only [List.map_append, List.map_cons, List.sum_append, List.sum_cons]
  ring

end Edited

/-! ### More goals -/

lemma resultPoints_of_missing {v : View} (h : v.goalsFor = none ∨ v.goalsAgainst = none) :
    resultPoints v = 0 := by
  unfold resultPoints View.won View.draw
  rcases h with h | h
  · rw [h]
    cases v.goalsAgainst <;> rfl
  · rw [h]
    cases v.goalsFor <;> rfl

lemma resultPoints_le {v v' : View} {x y x' y' : ℚ} (hf : v.goalsFor = some x)
    (ha : v.goalsAgainst = some y) (hf' : v'.goalsFor = some x') (ha' : v'.goalsAgainst = some y')
    (h : x - y ≤ x' - y') : resultPoints v ≤ resultPoints v' := by
  unfold resultPoints View.won View.draw
  rw [hf, ha, hf', ha']
  simp only [Cell.lt, Cell.eq, decide_eq_true_eq]
  rcases lt_trichotomy x y with hxy | hxy | hxy
  · simp [hxy.not_gt, hxy.ne]
  · rcases (show y' ≤ x' by linarith).lt_or_eq with hxy' | hxy'
    · simp [hxy, hxy', hxy'.ne']
    · simp [hxy, hxy']
  · have hxy' : y' < x' := by linarith
    simp [hxy, hxy', hxy.ne', hxy'.ne']

lemma contribution_lt_of_scored {v v' : View} {x : ℚ} {k : ℕ} (hk : 1 ≤ k)
    (hf : v.goalsFor = some x) (hf' : v'.goalsFor = some (x + k))
    (ha : v'.goalsAgainst = v.goalsAgainst) : contribution v < contribution v' := by
  have hk' : (1 : ℚ) ≤ k := by exact_mod_cast hk
  have hpoints : resultPoints v ≤ resultPoints v' := by
    cases hy : v.goalsAgainst with
    | none =>
      rw [resultPoints_of_missing (Or.inr hy), resultPoints_of_missing (Or.inr (ha.trans hy))]
    | some y => exact resultPoints_le hf hy hf' (ha.trans hy) (by linarith)
  have hpoints' : (resultPoints v : ℚ) ≤ resultPoints v' := by exact_mod_cast hpoints
  unfold contribution
  rw [hf, hf', ha]
  simp only [Cell.val_some]
  linarith

lemma contribution_lt_of_conceded {v v' : View} {y : ℚ} {k : ℕ} (hk : 1 ≤ k)
    (ha : v.goalsAgainst = some y) (ha' : v'.goalsAgainst = some (y + k))
    (hf : v'.goalsFor = v.goalsFor) : contribution v' < contribution v := by
  have hk' : (1 : ℚ) ≤ k := by exact_mod_cast hk
  have hpoints : resultPoints v' ≤ resultPoints v := by
    cases hx : v.goalsFor with
    | none =>
      rw [resultPoints_of_missing (Or.inl hx), resultPoints_of_missing (Or.inl (hf.trans hx))]
    | some x => exact resultPoints_le (hf.trans hx) ha' hx ha (by linarith)
  have hpoints' : (resultPoints v' : ℚ) ≤ resultPoints v := by exact_mod_cast hpoints
  unfold contribution
  rw [ha, ha', hf]
  simp only [Cell.val_some]
  linarith

lemma contribution_congr {v v' : View} (hf : v'.goalsFor = v.goalsFor)
    (ha : v'.goalsAgainst = v.goalsAgainst) : contribution v' = contribution v := by
  unfold contribution resultPoints View.won View.draw
  rw [hf, ha]

lemma contribution_le_of_scored {v v' : View} {k : ℕ} (hk : 1 ≤ k)
    (hf : v'.goalsFor = v.goalsFor.map (· + (k : ℚ))) (ha : v'.goalsAgainst = v.goalsAgainst) :
    contribution v ≤ contribution v' := by
  cases hx : v.goalsFor with
  | none =>
    rw [hx] at hf
    exact (contribution_congr (hf.trans hx.symm) ha).ge
  | some x =>
    rw [hx] at hf
    exact (contribution_lt_of_scored hk hx hf ha).le

lemma contribution_le_of_conceded {v v' : View} {k : ℕ} (hk : 1 ≤ k)
    (ha : v'.goalsAgainst = v.goalsAgainst.map (· + (k : ℚ))) (hf : v'.goalsFor = v.goalsFor) :
    contribution v' ≤ contribution v := by
  cases hy : v.goalsAgainst with
  | none =>
    rw [hy] at ha
    exact (contribution_congr hf (ha.trans hy.symm)).le
  | some y =>
    rw [hy] at ha
    exact (contribution_lt_of_conceded hk hy ha hf).le

end PremierLeague.Proofs
