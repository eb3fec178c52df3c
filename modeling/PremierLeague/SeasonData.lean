import PremierLeague.Library.Records

/-!
# The match data

One row of the loaded data, with the columns that the summaries read, and the selection of a
season. Numeric columns may hold missing values; team names and the season label do not.
Integer columns are summed without overflow and float results are exact.
-/

namespace PremierLeague

open Tabular

/-- The exceptions the summaries can raise. -/
inductive PyError where
  | indexError
  | keyError (key : String)
  | valueError
  | zeroDivisionError
  | attributeError
deriving DecidableEq

/-- The first element of a list, `l[0]`. -/
def first {α : Type} : List α → Except PyError α
  | [] => .error .indexError
  | a :: _ => .ok a

/-- `int(x)`: truncation towards zero, which a missing value does not have. -/
def pyInt : Cell → Except PyError ℤ
  | none => .error .valueError
  | some q => .ok (q.num.tdiv q.den)

/-- Division of Python numbers, which raises on zero. -/
def pyDiv (x y : ℚ) : Except PyError ℚ :=
  if y = 0 then .error .zeroDivisionError else .ok (x / y)

/-- A match: the two teams, full-time and half-time goals, the full-time result, the match
statistics, and the closing odds of two bookmakers. -/
structure Match where
  season : String
  HomeTeam : String
  AwayTeam : String
  FTHG : Cell
  FTAG : Cell
  FTR : Option String
  HTHG : Cell
  HTAG : Cell
  HS : Cell
  AS : Cell
  HST : Cell
  AST : Cell
  HC : Cell
  AC : Cell
  HF : Cell
  AF : Cell
  HY : Cell
  AY : Cell
  HR : Cell
  AR : Cell
  PSH : Cell
  PSD : Cell
  PSA : Cell
  B365H : Cell
  B365D : Cell
  B365A : Cell
deriving DecidableEq

namespace Match

def HasScore (m : Match) : Prop := m.FTHG.isSome ∧ m.FTAG.isSome

def CountsGoals (m : Match) : Prop := m.FTHG.IsCount ∧ m.FTAG.IsCount

/-- No score, result or statistic of the match is missing; its odds may be. -/
structure Complete (m : Match) : Prop where
  FTHG : m.FTHG.isSome
  FTAG : m.FTAG.isSome
  FTR : m.FTR.isSome
  HTHG : m.HTHG.isSome
  HTAG : m.HTAG.isSome
  HS : m.HS.isSome
  AS : m.AS.isSome
  HST : m.HST.isSome
  AST : m.AST.isSome
  HC : m.HC.isSome
  AC : m.AC.isSome
  HF : m.HF.isSome
  AF : m.AF.isSome
  HY : m.HY.isSome
  AY : m.AY.isSome
  HR : m.HR.isSome
  AR : m.AR.isSome

/-- None of the odds of the match is missing. -/
structure HasOdds (m : Match) : Prop where
  PSH : m.PSH.isSome
  PSD : m.PSD.isSome
  PSA : m.PSA.isSome
  B365H : m.B365H.isSome
  B365D : m.B365D.isSome
  B365A : m.B365A.isSome

instance : DecidablePred HasScore := fun _ => inferInstanceAs (Decidable (_ ∧ _))

instance : DecidablePred CountsGoals := fun _ => inferInstanceAs (Decidable (_ ∧ _))

lemma CountsGoals.hasScore {m : Match} (h : m.CountsGoals) : m.HasScore :=
  ⟨h.1.isSome, h.2.isSome⟩

lemma Complete.hasScore {m : Match} (h : m.Complete) : m.HasScore := ⟨h.FTHG, h.FTAG⟩

end Match

def Match.fixture (m : Match) : String × String := (m.HomeTeam, m.AwayTeam)

/-- At most one match for each ordered pair of teams. -/
def UniqueFixtures (data : List Match) : Prop := (data.map Match.fixture).Nodup

/-- The home team has received the away team. -/
def Played (data : List Match) (home away : String) : Prop :=
  ∃ m ∈ data, m.HomeTeam = home ∧ m.AwayTeam = away

/-- No match sets a team against itself. -/
def DistinctSides (data : List Match) : Prop := ∀ m ∈ data, m.HomeTeam ≠ m.AwayTeam

/-- No full-time score is missing. -/
def NoMissingScores (data : List Match) : Prop := ∀ m ∈ data, m.HasScore

/-- Every full-time score is a number of goals. -/
def GoalCounts (data : List Match) : Prop := ∀ m ∈ data, m.CountsGoals

/-- No score, result or statistic is missing. -/
def NoMissingCells (data : List Match) : Prop := ∀ m ∈ data, m.Complete

def NoMissingOdds (data : List Match) : Prop := ∀ m ∈ data, m.HasOdds

/-- The team plays at least one match, at home or away. -/
def Occurs (data : List Match) (team : String) : Prop :=
  ∃ m ∈ data, m.HomeTeam = team ∨ m.AwayTeam = team

instance (data : List Match) : Decidable (DistinctSides data) :=
  inferInstanceAs (Decidable (∀ m ∈ data, _))

instance (data : List Match) : Decidable (UniqueFixtures data) :=
  inferInstanceAs (Decidable (List.Nodup _))

instance (data : List Match) (home away : String) : Decidable (Played data home away) :=
  inferInstanceAs (Decidable (∃ m ∈ data, _))

instance (data : List Match) (team : String) : Decidable (Occurs data team) :=
  inferInstanceAs (Decidable (∃ m ∈ data, _))

instance (data : List Match) : Decidable (NoMissingScores data) :=
  inferInstanceAs (Decidable (∀ m ∈ data, _))

instance (data : List Match) : Decidable (GoalCounts data) :=
  inferInstanceAs (Decidable (∀ m ∈ data, _))

lemma forall_occurs_iff {data : List Match} {P : String → Prop} :
    (∀ team, Occurs data team → P team) ↔ ∀ m ∈ data, P m.HomeTeam ∧ P m.AwayTeam := by
  constructor
  · intro h m hm
    exact ⟨h _ ⟨m, hm, Or.inl rfl⟩, h _ ⟨m, hm, Or.inr rfl⟩⟩
  · rintro h team ⟨m, hm, rfl | rfl⟩
    · exact (h m hm).1
    · exact (h m hm).2

lemma GoalCounts.noMissingScores {data : List Match} (h : GoalCounts data) :
    NoMissingScores data := fun m hm => (h m hm).hasScore

lemma NoMissingCells.noMissingScores {data : List Match} (h : NoMissingCells data) :
    NoMissingScores data := fun m hm => (h m hm).hasScore

structure SeasonSummary where
  data : List Match
  season : String
  numOfMatches : ℕ
  season_eq : ∀ m ∈ data, m.season = season
  numOfMatches_eq : numOfMatches = data.length

namespace SeasonSummary

/-- `SeasonSummary(data, season)` selects the rows with the season's label. -/
def init (data : List Match) (season : String) : SeasonSummary where
  data := data.filter (fun m => m.season == season)
  season := season
  numOfMatches := (data.filter (fun m => m.season == season)).length
  season_eq := fun m hm => by simpa using (List.mem_filter.mp hm).2
  numOfMatches_eq := rfl

lemma forall_mem_init {data : List Match} {season : String} {P : Match → Prop}
    (h : ∀ m ∈ data, P m) : ∀ m ∈ (init data season).data, P m :=
  fun m hm => h m (List.mem_filter.mp hm).1

end SeasonSummary

end PremierLeague
