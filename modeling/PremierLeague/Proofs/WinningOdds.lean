import PremierLeague.Proofs.OverallTable
import PremierLeague.Summaries

/-!
# The winning odds of an outcome

A row of the results should show, for both bookmakers, the mean odds of its outcome over the
matches with that outcome. One of the two columns has its first two entries exchanged, so it
is right exactly when the exchanged means agree.
-/

namespace PremierLeague.Proofs

open Tabular SeasonSummary

def resultMatches (data : List Match) (ftr : String) : List Match :=
  data.filter (fun m => m.FTR == some ftr)

def totalOdds (data : List Match) (ftr : String) (odds : Match → Cell) : ℚ :=
  ((resultMatches data ftr).map (fun m => (odds m).val)).sum

/-- The mean odds over the matches with a result. -/
def meanOdds (data : List Match) (ftr : String) (odds : Match → Cell) : ℚ :=
  totalOdds data ftr odds / (resultMatches data ftr).length

/-- Every row reports, for both bookmakers, the mean odds of the outcome it is named after. -/
structure WinningOdds (data : List Match) (homeWin draw awayWin : FtResultsRow) : Prop where
  home_index : homeWin.index = "home_win"
  home_pin : homeWin.avgWinoddsPin = .fin (meanOdds data "H" (·.PSH))
  home_bet : homeWin.avgWinoddsBet = .fin (meanOdds data "H" (·.B365H))
  draw_index : draw.index = "draw"
  draw_pin : draw.avgWinoddsPin = .fin (meanOdds data "D" (·.PSD))
  draw_bet : draw.avgWinoddsBet = .fin (meanOdds data "D" (·.B365D))
  away_index : awayWin.index = "away_win"
  away_pin : awayWin.avgWinoddsPin = .fin (meanOdds data "A" (·.PSA))
  away_bet : awayWin.avgWinoddsBet = .fin (meanOdds data "A" (·.B365A))

def EveryOutcome (data : List Match) : Prop :=
  ∀ ftr ∈ ["H", "D", "A"], ∃ m ∈ data, m.FTR = some ftr

instance (data : List Match) : Decidable (EveryOutcome data) :=
  inferInstanceAs (Decidable (∀ ftr ∈ ["H", "D", "A"], ∃ m ∈ data, m.FTR = some ftr))

lemma resultMatches_ne_nil {data : List Match} (he : EveryOutcome data) (ftr : String)
    (hftr : ftr ∈ ["H", "D", "A"]) : resultMatches data ftr ≠ [] := by
  obtain ⟨m, hm, hres⟩ := he ftr hftr
  exact List.ne_nil_of_mem (List.mem_filter.mpr ⟨hm, by simpa using hres⟩)

lemma mean_withResult {s : SeasonSummary} {ftr : String} {odds : Match → Cell}
    (hne : resultMatches s.data ftr ≠ []) (hodds : ∀ m ∈ s.data, (odds m).isSome) :
    Series.mean ((s.withResult ftr).map odds) = .fin (meanOdds s.data ftr odds) :=
  Series.mean_map hne (fun m hm => hodds m (List.mem_filter.mp hm).1)

/-- The means that the column of the second bookmaker exchanges are equal. -/
def ExchangedOddsAgree (data : List Match) : Prop :=
  totalOdds data "H" (·.B365H) * (resultMatches data "D").length =
    totalOdds data "D" (·.B365D) * (resultMatches data "H").length

lemma meanOdds_eq_iff {data : List Match} (he : EveryOutcome data) :
    meanOdds data "H" (·.B365H) = meanOdds data "D" (·.B365D) ↔ ExchangedOddsAgree data := by
  have hlen : ∀ ftr ∈ ["H", "D", "A"], ((resultMatches data ftr).length : ℚ) ≠ 0 := by
    intro ftr hftr
    simpa using resultMatches_ne_nil he ftr hftr
  exact div_eq_div_iff (hlen "H" (by decide)) (hlen "D" (by decide))

/-- The rows report the winning odds of their outcomes exactly when the mean home odds of the
home wins are the mean draw odds of the draws. -/
theorem winningOdds_iff (s : SeasonSummary) (he : EveryOutcome s.data)
    (ho : NoMissingOdds s.data) :
    (∃ homeWin draw awayWin, s.summaryFtResults = [homeWin, draw, awayWin] ∧
      WinningOdds s.data homeWin draw awayWin) ↔ ExchangedOddsAgree s.data := by
  have hH := resultMatches_ne_nil he "H" (by decide)
  have hD := resultMatches_ne_nil he "D" (by decide)
  have hA := resultMatches_ne_nil he "A" (by decide)
  have hpinH := mean_withResult hH (fun m hm => (ho m hm).PSH)
  have hpinD := mean_withResult hD (fun m hm => (ho m hm).PSD)
  have hpinA := mean_withResult hA (fun m hm => (ho m hm).PSA)
  have hbetH := mean_withResult hH (fun m hm => (ho m hm).B365H)
  have hbetD := mean_withResult hD (fun m hm => (ho m hm).B365D)
  have hbetA := mean_withResult hA (fun m hm => (ho m hm).B365A)
  rw [← meanOdds_eq_iff he]
  constructor
  · rintro ⟨homeWin, draw, awayWin, hrows, h⟩
    have hbet : homeWin.avgWinoddsBet = Series.mean ((s.withResult "D").map (·.B365D)) :=
      congrArg FtResultsRow.avgWinoddsBet (List.cons.inj hrows).1.symm
    rw [h.home_bet, hbetD] at hbet
    exact ExactFloat.fin.inj hbet
  · intro hagree
    refine ⟨_, _, _, rfl, rfl, hpinH, ?_, rfl, hpinD, ?_, rfl, hpinA, hbetA⟩
    · exact hbetD.trans (congrArg ExactFloat.fin hagree.symm)
    · exact hbetH.trans (congrArg ExactFloat.fin hagree)

/-- A match with the given odds of the second bookmaker for a home win and a draw. -/
def withOdds (m : Match) (b365h b365d : ℚ) : Match :=
  { m with B365H := some b365h, B365D := some b365d }

def oneOfEach (b365h b365d : ℚ) : SeasonSummary :=
  .init [withOdds (fixture "Arsenal" "Chelsea" 2 1) b365h b365d,
    withOdds (fixture "Chelsea" "Leeds" 0 0) b365h b365d,
    withOdds (fixture "Leeds" "Arsenal" 0 1) b365h b365d] "20-21"

lemma hasOdds_withOdds (home away : String) (fthg ftag : ℕ) (b365h b365d : ℚ) :
    (withOdds (fixture home away fthg ftag) b365h b365d).HasOdds := by
  constructor <;> rfl

lemma noMissingOdds_oneOfEach (b365h b365d : ℚ) : NoMissingOdds (oneOfEach b365h b365d).data :=
  forall_mem_init (by simp [hasOdds_withOdds])

theorem winningOdds_iff_oneOfEach :
    ∃ homeWin draw awayWin, (oneOfEach 3 3).summaryFtResults = [homeWin, draw, awayWin] ∧
      WinningOdds (oneOfEach 3 3).data homeWin draw awayWin :=
  (winningOdds_iff (oneOfEach 3 3) (by decide +kernel) (noMissingOdds_oneOfEach 3 3)).mpr
    (by unfold ExchangedOddsAgree; decide +kernel)

/-- The home row shows the odds of the draw. -/
theorem not_winningOdds_oneOfEach :
    EveryOutcome (oneOfEach 2 3).data ∧ NoMissingOdds (oneOfEach 2 3).data ∧
      ¬ ∃ homeWin draw awayWin, (oneOfEach 2 3).summaryFtResults = [homeWin, draw, awayWin] ∧
        WinningOdds (oneOfEach 2 3).data homeWin draw awayWin := by
  refine ⟨by decide +kernel, noMissingOdds_oneOfEach 2 3, ?_⟩
  rintro ⟨homeWin, draw, awayWin, hrows, h⟩
  have hbet : homeWin.avgWinoddsBet = .fin 3 := by
    have hhead : (oneOfEach 2 3).summaryFtResults.map (·.avgWinoddsBet) =
        [.fin 3, .fin 2, .fin 4] := by decide +kernel
    rw [hrows] at hhead
    exact (List.cons.inj hhead).1
  have hmean : meanOdds (oneOfEach 2 3).data "H" (·.B365H) = 2 := by decide +kernel
  rw [h.home_bet, hmean] at hbet
  exact absurd (ExactFloat.fin.inj hbet) (by decide)

end PremierLeague.Proofs
