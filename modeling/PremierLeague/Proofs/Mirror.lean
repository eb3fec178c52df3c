import PremierLeague.Proofs.Tables

/-!
# Exchanging home and away

The mirror of a season exchanges the two sides of every match. It turns the home table into
the away table and leaves the overall table as it is. One half of the statement also derives
every fact about away records from the fact about home records.
-/

namespace PremierLeague

open Tabular

/-- The match with the columns of its two sides exchanged. -/
def Match.mirror (m : Match) : Match :=
  { m with
    HomeTeam := m.AwayTeam, AwayTeam := m.HomeTeam
    FTHG := m.FTAG, FTAG := m.FTHG
    HC := m.AC, AC := m.HC
    HS := m.AS, AS := m.HS
    HY := m.AY, AY := m.HY
    HR := m.AR, AR := m.HR
    HF := m.AF, AF := m.HF }

def SeasonSummary.mirror (s : SeasonSummary) : SeasonSummary where
  data := s.data.map Match.mirror
  season := s.season
  numOfMatches := s.numOfMatches
  season_eq := by
    intro m hm
    obtain ⟨m', hm', rfl⟩ := List.mem_map.mp hm
    exact s.season_eq m' hm'
  numOfMatches_eq := by rw [List.length_map, s.numOfMatches_eq]

namespace Proofs

open SeasonSummary

theorem awayRecord_eq_mirror (df : List Match) (team : String) :
    awayRecord df team = homeRecord (df.map Match.mirror) team := by
  simp only [awayRecord, homeRecord, List.filter_map, List.map_map, List.length_map,
    Function.comp_def, Match.mirror, Cell.eq_comm]

lemma map_mirror_mirror (df : List Match) : (df.map Match.mirror).map Match.mirror = df := by
  have hid : Match.mirror ∘ Match.mirror = id := rfl
  rw [List.map_map, hid, List.map_id]

theorem homeRecord_eq_mirror (df : List Match) (team : String) :
    homeRecord df team = awayRecord (df.map Match.mirror) team := by
  rw [awayRecord_eq_mirror, map_mirror_mirror]

lemma weighted_comm (field : TeamRecord → ExactFloat) (home away : TeamRecord) :
    weighted field home away = weighted field away home := by
  unfold weighted
  rw [ExactFloat.add_comm, Nat.add_comm]

theorem overallRecord_comm (team : String) (home away : TeamRecord) :
    overallRecord team home away = overallRecord team away home := by
  unfold overallRecord
  simp only [weighted_comm _ home away, Nat.add_comm home.played, Nat.add_comm home.won,
    Nat.add_comm home.draw, Nat.add_comm home.lost, Rat.add_comm home.goalsScored,
    Rat.add_comm home.goalsConceded, Rat.add_comm home.gd, Rat.add_comm home.redCardsTotal]

/-- The table of the original that the mirror turns a table into. -/
def Venue.mirror : Venue → Venue
  | home => away
  | away => home
  | overall => overall

lemma record_mirror (v : Venue) (df : List Match) (team : String) :
    v.record (df.map Match.mirror) team = v.mirror.record df team := by
  cases v with
  | home => exact (awayRecord_eq_mirror df team).symm
  | away => exact (homeRecord_eq_mirror df team).symm
  | overall =>
    change overallRecord team _ _ = overallRecord team _ _
    rw [← awayRecord_eq_mirror, ← homeRecord_eq_mirror, overallRecord_comm]

lemma occurs_mirror (data : List Match) (team : String) :
    Occurs (data.map Match.mirror) team ↔ Occurs data team := by
  unfold Occurs
  constructor
  · rintro ⟨_, hm, h⟩
    obtain ⟨m, hm', rfl⟩ := List.mem_map.mp hm
    exact ⟨m, hm', h.symm⟩
  · rintro ⟨m, hm, h⟩
    exact ⟨m.mirror, List.mem_map_of_mem hm, h.symm⟩

/-- Each table of the mirrored season is the mirrored table of the original, rank and packed
criteria included, up to the order of rows of equal rank. -/
theorem calcMainTables_mirror (R R' : Runtime) (s : SeasonSummary) (v : Venue) :
    ∃ t t', s.mirror.calcMainTables R v.label = .ok (some t) ∧
      s.calcMainTables R' v.mirror.label = .ok (some t') ∧ SameUpToTies t t' := by
  refine ⟨table R s.mirror v, table R' s v.mirror, calcMainTables_eq R _ v,
    calcMainTables_eq R' _ _, ?_⟩
  apply sameUpToTies_table
  · exact occurs_mirror s.data
  · exact record_mirror v s.data

end Proofs

end PremierLeague
