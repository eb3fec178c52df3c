import PremierLeague.Proofs.OverallTable
import PremierLeague.Proofs.StoredTables

/-!
# Joint dominance

The overall points are counted anew from the wins and draws of both venues, while the goal
difference and the goals are added up. The overall criteria are nevertheless the sum of the home
and the away criteria, so a team that is ahead in both venue tables is ahead overall, as long as
the column `rank_points` holds the sum.
-/

namespace PremierLeague.Proofs

open Tabular SeasonSummary

/-- The overall criteria of every team are the sum of its home and its away criteria, and a team
ranked no worse than another one at home and away is ranked no worse overall, and strictly better if
it is strictly better at one of the venues. -/
structure JointDominance (data : List Match) (home away overall : String → TableRow) : Prop where
  add : ∀ t, Occurs data t → (overall t).rankPoints = (home t).rankPoints + (away t).rankPoints
  le : ∀ t u, Occurs data t → Occurs data u → (home t).rank ≤ (home u).rank →
    (away t).rank ≤ (away u).rank → (overall t).rank ≤ (overall u).rank
  lt : ∀ t u, Occurs data t → Occurs data u → (home t).rank ≤ (home u).rank →
    (away t).rank ≤ (away u).rank →
    (home t).rank < (home u).rank ∨ (away t).rank < (away u).rank →
    (overall t).rank < (overall u).rank

/-- In a season of 64-bit integers, what the home and the away matches of a team add up to, each
held as such an integer, has a sum that is one again. -/
def VenuesFit (data : List Match) : Prop :=
  intGoals data → ∀ team, Occurs data team →
    Fits 64 (wrap 64 (packed .home data team) + wrap 64 (packed .away data team))

lemma packed_overall {s : SeasonSummary} (h : intGoals s.data) (team : String) :
    packed .overall s.data team = packed .home s.data team + packed .away s.data team := by
  rw [← Int.cast_inj (α := ℚ), Int.cast_add, cast_packed h, cast_packed h, cast_packed h,
    key_overall_add]

/-- The cells add up exactly when their sum fits. -/
lemma storedKey_add_iff {s : SeasonSummary} {team : String} :
    storedKey s .overall team = storedKey s .home team + storedKey s .away team ↔
      (intGoals s.data →
        Fits 64 (wrap 64 (packed .home s.data team) + wrap 64 (packed .away s.data team))) := by
  by_cases h : intGoals s.data
  · rw [storedKey_of_int h, storedKey_of_int h, storedKey_of_int h, ← Int.cast_add, Int.cast_inj,
      packed_overall h, wrap_add_eq_iff]
    exact ⟨fun hfits _ => hfits, fun hfits => hfits h⟩
  · rw [storedKey_of_float h, storedKey_of_float h, storedKey_of_float h]
    simp [h, key_overall_add]

lemma venuesFit_iff {s : SeasonSummary} : VenuesFit s.data ↔ ∀ team, Occurs s.data team →
    storedKey s .overall team = storedKey s .home team + storedKey s .away team := by
  simp only [storedKey_add_iff]
  exact ⟨fun h team ht hint => h hint team ht, fun h hint team ht => h team ht hint⟩

section Venues

variable (R : Runtime) {s : SeasonSummary} (hfit : VenuesFit s.data) {t u : String}
  (ht : Occurs s.data t) (hu : Occurs s.data u)

include hfit ht hu

lemma overall_rank_le (hhome : (storedRow R s .home t).rank ≤ (storedRow R s .home u).rank)
    (haway : (storedRow R s .away t).rank ≤ (storedRow R s .away u).rank) :
    (storedRow R s .overall t).rank ≤ (storedRow R s .overall u).rank := by
  have hadd := venuesFit_iff.mp hfit
  have hhome := (rankBy_le_iff R _ ht hu).mp hhome
  have haway := (rankBy_le_iff R _ ht hu).mp haway
  apply (rankBy_le_iff R _ ht hu).mpr
  change storedKey s .overall u ≤ storedKey s .overall t
  rw [hadd t ht, hadd u hu]
  exact add_le_add hhome haway

lemma overall_rank_lt (hhome : (storedRow R s .home t).rank ≤ (storedRow R s .home u).rank)
    (haway : (storedRow R s .away t).rank ≤ (storedRow R s .away u).rank)
    (hlt : (storedRow R s .home t).rank < (storedRow R s .home u).rank ∨
      (storedRow R s .away t).rank < (storedRow R s .away u).rank) :
    (storedRow R s .overall t).rank < (storedRow R s .overall u).rank := by
  have hadd := venuesFit_iff.mp hfit
  have hhome := (rankBy_le_iff R _ ht hu).mp hhome
  have haway := (rankBy_le_iff R _ ht hu).mp haway
  apply (rankBy_lt_iff R _ ht hu).mpr
  change storedKey s .overall u < storedKey s .overall t
  rw [hadd t ht, hadd u hu]
  rcases hlt with hlt | hlt
  · exact add_lt_add_of_lt_of_le ((rankBy_lt_iff R _ ht hu).mp hlt) haway
  · exact add_lt_add_of_le_of_lt hhome ((rankBy_lt_iff R _ ht hu).mp hlt)

end Venues

lemma venuesFit_of_jointDominance {R : Runtime} {s : SeasonSummary}
    (h : JointDominance s.data (storedRow R s .home) (storedRow R s .away)
      (storedRow R s .overall)) : VenuesFit s.data :=
  venuesFit_iff.mpr h.add

/-- Two wins of Arsenal whose packed criteria fit, but not their sum. -/
def hugeWins : SeasonSummary :=
  .init [fixture "Arsenal" "Chelsea" 5000000000000000 0,
    fixture "Chelsea" "Arsenal" 0 5000000000000000] "20-21"

end PremierLeague.Proofs
