import PremierLeague.Proofs.PatternScan

/-!
# The Home page of the stock application

A run of the application loads its tables anew, so that the pages see the patterns and stocks of the
database as it is. The Home page shows every hit of the scan once, in the order in which the
database returns them, with a positive momentum in the bullish and with any other in the bearish
column. A missing momentum ends the page with an exception below the hits before it.
-/

namespace StockApp.Proofs

open Tabular DataLoader

/-! ### What a loader leaves -/

/-- The dictionaries hold what is loaded from the database. -/
structure Snapshot (E : Engine) (db : Database) (shared : Shared) : Prop where
  tables : ∀ t ∈ tableNames, shared.tables.get? t = some (loadTableData E db t)
  scalars : ∀ n ∈ scalarNames, shared.scalars.get? n = some (loadScalarData n)

lemma snapshot_init (E : Engine) (db : Database) (shared : Shared) :
    Snapshot E db (DataLoader.init E db shared) := by
  constructor
  · intro t ht
    rw [DataLoader.init, Dict.get?_setAll, if_pos ht]
  · intro n hn
    rw [DataLoader.init, Dict.get?_setAll, if_pos hn]

namespace Snapshot

variable {E : Engine} {db : Database} {shared : Shared} (h : Snapshot E db shared)

include h

lemma allStocks : stockTable shared "all_stocks" = .ok (E.select db.stockList) := by
  rw [stockTable, h.tables "all_stocks" (by decide)]
  rfl

lemma candlePatterns :
    patternTable shared "candle_patterns" = .ok (E.select db.candlePatterns) := by
  rw [patternTable, h.tables "candle_patterns" (by decide)]
  rfl

lemma topPatterns : patternTable shared "top_patterns" =
    .ok (E.select (db.candlePatterns.filter (fun c => c.isTop))) := by
  rw [patternTable, h.tables "top_patterns" (by decide)]
  rfl

lemma today : scalar shared "today" = .ok (some ⟨2021, 5, 20⟩) := by
  rw [scalar, h.scalars "today" (by decide)]
  rfl

lemma earliestDate : scalar shared "earliest_date" = .ok (some ⟨2020, 1, 1⟩) := by
  rw [scalar, h.scalars "earliest_date" (by decide)]
  rfl

end Snapshot

/-! ### Parts of the page -/

/-- What the Home page shows before any scan. -/
def homeFrame (E : Engine) (db : Database) : List (Place × Widget) := [
  (.main, .write "# Candle Pattern Scanner"),
  (.sidebar, .selectbox "Select Pattern:" ((E.select db.candlePatterns).map (·.patternName))),
  (.sidebar, .dateInput "Start Date:" (some ⟨2020, 1, 1⟩)),
  (.sidebar, .dateInput "End Date:" (some ⟨2021, 5, 20⟩)),
  (.sidebar, .dateInput "Pattern Detection Date:" (some ⟨2021, 5, 20⟩)),
  (.sidebar, .write
    "For candlestick patterns, visit: http://thepatternsite.com/CandleVisual.html"),
  (.col1, .write "## Bullish Trend:"),
  (.col2, .write "## Bearish Trend:")]

/-- The patterns that a button scans. -/
def scannedPatterns (E : Engine) (db : Database) (input : HomeInput) : List (Option ℤ) :=
  if input.scanPattern then [input.pattern]
  else (E.select (db.candlePatterns.filter (fun c => c.isTop))).map (fun c => some c.patternId)

/-- The hits of a scan with the patterns of a loaded and the rows of a current database. -/
def scanned (E : Engine) (loaded db : Database) (input : HomeInput) : List Hit :=
  scan E db input.markDate (scannedPatterns E loaded input)

/-- The momentum of the hit is not missing. -/
def known (hit : Hit) : Bool := hit.momentum.isSome

def columnOf (hit : Hit) : Place := if 0 < hit.momentum.val then .col1 else .col2

def hitFigure (E : Engine) (db : Database) (input : HomeInput) (hit : Hit) : Figure :=
  makeCanddleGraph E db hit.stock input.startDate input.endDate input.markDate

/-- A hit in its column: the text and the candles. -/
def hitWidgets (E : Engine) (db : Database) (input : HomeInput) (hit : Hit) :
    List (Place × Widget) :=
  [(columnOf hit, .write (hitText hit)), (columnOf hit, .chart (hitFigure E db input hit))]

lemma showHit_of_some (E : Engine) (db : Database) (input : HomeInput) {hit : Hit}
    (h : known hit) :
    showHit E db input hit = ⟨hitWidgets E db input hit, .ok ()⟩ := by
  have hbullish : isBullish hit.momentum = .ok (decide (0 < hit.momentum.val)) := by
    rw [Cell.eq_some_val h]
    rfl
  unfold showHit hitWidgets columnOf
  rw [hbullish]
  by_cases hpos : 0 < hit.momentum.val
  · simp only [hpos, decide_true]
    rfl
  · simp only [hpos, decide_false]
    rfl

lemma showHit_of_none (E : Engine) (db : Database) (input : HomeInput) {hit : Hit}
    (h : ¬ known hit) : showHit E db input hit = ⟨[], .error .typeError⟩ := by
  have hnone : hit.momentum = none := by simpa [known] using h
  unfold showHit
  rw [hnone]
  rfl

/-- The loop shows the hits before the first missing momentum. -/
lemma forM_showHit (E : Engine) (db : Database) (input : HomeInput) (hits : List Hit) :
    hits.forM (showHit E db input) =
      ⟨(hits.takeWhile known).flatMap (hitWidgets E db input),
        if ∀ hit ∈ hits, known hit then .ok () else .error .typeError⟩ := by
  induction hits with
  | nil => rfl
  | cons hit hits ih =>
    rw [Script.forM_cons]
    by_cases h : known hit
    · rw [Script.bind_of_ok (congrArg Script.result (showHit_of_some E db input h)),
        showHit_of_some E db input h, ih, List.takeWhile_cons_of_pos h, List.flatMap_cons]
      simp only [List.forall_mem_cons, h, true_and]
    · rw [Script.bind_of_error (congrArg Script.result (showHit_of_none E db input h)),
        showHit_of_none E db input h, List.takeWhile_cons_of_neg h]
      simp [h]

section Home

variable {E : Engine} {loaded : Database} (db : Database) {shared : Shared}
  (h : Snapshot E loaded shared) (input : HomeInput)

/-- What the Home page shows below its frame. -/
def homeBody (E : Engine) (loaded db : Database) (input : HomeInput) : Page Unit :=
  if input.scanPattern || input.scanAll then
    match scanned E loaded db input with
    | [] => put .main (.warning "No such pattern(s) was found!")
    | hits => hits.forM (showHit E db input)
  else
    pure ()

include h

lemma getPageData_home : getPageData E db shared input "Home" input.scanPattern =
    .ok (some (scanned E loaded db input)) := by
  unfold getPageData scanned scannedPatterns
  cases input.scanPattern with
  | true => rfl
  | false =>
    rw [h.topPatterns]
    rfl

lemma makeHomePage_eq : makeHomePage E db shared input =
    ⟨homeFrame E loaded ++ (homeBody E loaded db input).shown,
      (homeBody E loaded db input).result⟩ := by
  have hpage : makeHomePage E db shared input = (do
      Script.mk (homeFrame E loaded) (.ok ())
      homeBody E loaded db input) := by
    unfold makeHomePage makeSidebarHome homeBody
    rw [h.candlePatterns, h.earliestDate, h.today]
    cases input.scanPattern || input.scanAll with
    | false => rfl
    | true =>
      dsimp only
      rw [getPageData_home db h]
      cases scanned E loaded db input with
      | nil => rfl
      | cons hit hits => rfl
  rw [hpage, Script.bind_of_ok rfl]

end Home

/-! ### A run on the Home page -/

/-- The widgets in one place of a page. -/
def inPlace (place : Place) (shown : List (Place × Widget)) : List Widget :=
  (shown.filter (fun w => w.1 == place)).map Prod.snd

lemma inPlace_append (place : Place) (shown shown' : List (Place × Widget)) :
    inPlace place (shown ++ shown') = inPlace place shown ++ inPlace place shown' := by
  rw [inPlace, List.filter_append, List.map_append]
  rfl

/-- The text and the candles of a hit. -/
def hitParts (E : Engine) (db : Database) (input : HomeInput) (hit : Hit) : List Widget :=
  [.write (hitText hit), .chart (hitFigure E db input hit)]

lemma inPlace_hits (E : Engine) (db : Database) (input : HomeInput) (place : Place)
    (hits : List Hit) : inPlace place (hits.flatMap (hitWidgets E db input)) =
      (hits.filter (fun hit => columnOf hit == place)).flatMap (hitParts E db input) := by
  induction hits with
  | nil => rfl
  | cons hit hits ih =>
    rw [List.flatMap_cons, inPlace_append, ih, List.filter_cons]
    by_cases h : columnOf hit = place
    · simp [inPlace, hitWidgets, hitParts, h]
    · simp [inPlace, hitWidgets, h]

/-- The hit belongs to the scan that was asked for. -/
def Wanted (input : HomeInput) (hit : Hit) : Prop :=
  if input.scanPattern then input.pattern = some hit.pattern.patternId else hit.pattern.isTop

/-- Without a button the page has its frame only, from the loaded database. With one, and without
hits, there is a warning below the frame. Otherwise the hits before the first missing momentum
follow the frame, in the column of their sign, with candles of the current database, and a missing
momentum raises. -/
structure HomeOutcome (E : Engine) (loaded db : Database) (input : HomeInput) (hits : List Hit)
    (page : Page Unit) : Prop where
  idle : ¬ (input.scanPattern || input.scanAll) → page = ⟨homeFrame E loaded, .ok ()⟩
  warning : input.scanPattern || input.scanAll → hits = [] →
    page = ⟨homeFrame E loaded ++ [(.main, .warning "No such pattern(s) was found!")], .ok ()⟩
  shown : input.scanPattern || input.scanAll → hits ≠ [] → page.shown =
    homeFrame E loaded ++ (hits.takeWhile known).flatMap (hitWidgets E db input)
  bullish : input.scanPattern || input.scanAll → inPlace .col1 page.shown =
    .write "## Bullish Trend:" :: ((hits.takeWhile known).filter
      (fun hit => decide (0 < hit.momentum.val))).flatMap (hitParts E db input)
  bearish : input.scanPattern || input.scanAll → inPlace .col2 page.shown =
    .write "## Bearish Trend:" :: ((hits.takeWhile known).filter
      (fun hit => !decide (0 < hit.momentum.val))).flatMap (hitParts E db input)
  result : input.scanPattern || input.scanAll →
    page.result = if ∀ hit ∈ hits, known hit then .ok () else .error .typeError

lemma homeBody_of_ne_nil {E : Engine} {loaded db : Database} {input : HomeInput}
    (hbutton : input.scanPattern || input.scanAll) (hne : scanned E loaded db input ≠ []) :
    homeBody E loaded db input = (scanned E loaded db input).forM (showHit E db input) := by
  unfold homeBody
  rw [if_pos hbutton]
  cases hhits : scanned E loaded db input with
  | nil => exact absurd hhits hne
  | cons hit hits => rfl

lemma homeBody_of_nil {E : Engine} {loaded db : Database} {input : HomeInput}
    (hbutton : input.scanPattern || input.scanAll) (hnil : scanned E loaded db input = []) :
    homeBody E loaded db input = put .main (.warning "No such pattern(s) was found!") := by
  unfold homeBody
  rw [if_pos hbutton, hnil]

lemma columnOf_eq_col1 : (fun hit => columnOf hit == .col1) =
    fun hit => decide (0 < hit.momentum.val) := by
  funext hit
  unfold columnOf
  by_cases h : 0 < hit.momentum.val <;> simp [h]

lemma columnOf_eq_col2 : (fun hit => columnOf hit == .col2) =
    fun hit => !decide (0 < hit.momentum.val) := by
  funext hit
  unfold columnOf
  by_cases h : 0 < hit.momentum.val <;> simp [h]

section Outcome

variable {E : Engine} {loaded db : Database} {shared : Shared} (h : Snapshot E loaded shared)
  (input : HomeInput)

lemma inPlace_homeFrame_col1 :
    inPlace .col1 (homeFrame E loaded) = [.write "## Bullish Trend:"] := rfl

lemma inPlace_homeFrame_col2 :
    inPlace .col2 (homeFrame E loaded) = [.write "## Bearish Trend:"] := rfl

/-- In one of the two columns, the hits that belong there follow the title. -/
lemma inPlace_homeBody {place : Place} (hplace : place ≠ .main)
    (hbutton : input.scanPattern || input.scanAll) :
    inPlace place (homeBody E loaded db input).shown =
      (((scanned E loaded db input).takeWhile known).filter
        (fun hit => columnOf hit == place)).flatMap (hitParts E db input) := by
  by_cases hne : scanned E loaded db input = []
  · rw [homeBody_of_nil hbutton hne, hne]
    simp [inPlace, put, hplace.symm]
  · rw [homeBody_of_ne_nil hbutton hne, forM_showHit]
    exact inPlace_hits E db input place _

include h

lemma homeOutcome : HomeOutcome E loaded db input (scanned E loaded db input)
    (makeHomePage E db shared input) := by
  rw [makeHomePage_eq db h]
  constructor
  · intro hidle
    unfold homeBody
    rw [if_neg hidle]
    simp
  · intro hbutton hnil
    rw [homeBody_of_nil hbutton hnil]
    rfl
  · intro hbutton hne
    rw [homeBody_of_ne_nil hbutton hne, forM_showHit]
  · intro hbutton
    rw [inPlace_append, inPlace_homeFrame_col1, inPlace_homeBody input (by decide) hbutton,
      columnOf_eq_col1]
    rfl
  · intro hbutton
    rw [inPlace_append, inPlace_homeFrame_col2, inPlace_homeBody input (by decide) hbutton,
      columnOf_eq_col2]
    rfl
  · intro hbutton
    by_cases hne : scanned E loaded db input = []
    · rw [homeBody_of_nil hbutton hne, hne]
      rfl
    · rw [homeBody_of_ne_nil hbutton hne, forM_showHit]

end Outcome

/-- A pattern that was asked for: the selected one, or a top pattern of the loaded database. -/
def Requested (loaded : Database) (input : HomeInput) (patternId : ℤ) : Prop :=
  if input.scanPattern then input.pattern = some patternId
  else ∃ c ∈ loaded.candlePatterns, c.isTop ∧ c.patternId = patternId

lemma mem_scannedPatterns {E : Engine} {loaded : Database} {input : HomeInput} {patternId : ℤ} :
    some patternId ∈ scannedPatterns E loaded input ↔ Requested loaded input patternId := by
  unfold scannedPatterns Requested
  split
  · rw [List.mem_singleton, eq_comm]
  · rw [List.mem_map]
    constructor
    · rintro ⟨c, hc, hid⟩
      obtain ⟨hmem, htop⟩ := List.mem_filter.mp (E.mem_select.mp hc)
      exact ⟨c, hmem, htop, Option.some.inj hid⟩
    · rintro ⟨c, hmem, htop, hid⟩
      exact ⟨c, E.mem_select.mpr (List.mem_filter.mpr ⟨hmem, htop⟩), congrArg some hid⟩

lemma mem_scanned {E : Engine} {loaded db : Database} {input : HomeInput} {hit : Hit} :
    hit ∈ scanned E loaded db input ↔
      Detected db input.markDate [some hit.pattern.patternId] hit ∧
        Requested loaded input hit.pattern.patternId := by
  rw [scanned, mem_scan, ← mem_scannedPatterns]
  unfold Detected
  simp only [List.mem_singleton, true_and]
  tauto

/-- In one database, a top pattern was asked for when the pattern of the hit is one. -/
lemma requested_iff {db : Database} {input : HomeInput} {hit : Hit}
    (h : hit.pattern ∈ db.candlePatterns) :
    Requested db input hit.pattern.patternId ↔ Wanted input hit := by
  unfold Requested Wanted
  split
  · exact Iff.rfl
  · constructor
    · rintro ⟨c, hc, htop, hid⟩
      rwa [← List.inj_on_of_nodup_map db.nodup_patternId hc h hid]
    · intro htop
      exact ⟨hit.pattern, h, htop, rfl⟩

/-- A run of the application on the Home page shows below its menu the hits of the chosen pattern,
or of all top patterns, each of them once. -/
theorem run_home (E : Engine) (db : Database) (files : Files) (shared : Shared)
    (input : HomeInput) (display : DisplayInput) :
    ∃ (hits : List Hit) (page : Page Unit), hits.Nodup ∧
      (∀ hit, hit ∈ hits ↔
        Detected db input.markDate [some hit.pattern.patternId] hit ∧ Wanted input hit) ∧
      HomeOutcome E db db input hits page ∧
      (App.run E db files shared "Home" input display).2 = (do makeMenu; page) := by
  refine ⟨scanned E db db input, _, nodup_scan, ?_,
    homeOutcome (snapshot_init E db shared) input, rfl⟩
  intro hit
  rw [mem_scanned]
  apply and_congr_right
  intro hdetected
  exact requested_iff hdetected.2.1

/-! ### Candles -/

lemma between_iff {day : Option Date} {startDate endDate : Date} :
    between day startDate endDate ↔ ∃ d, day = some d ∧ startDate ≤ d ∧ d ≤ endDate := by
  cases day with
  | none => simp [between]
  | some d => simp [between]

lemma mem_getGraphData {E : Engine} {db : Database} {stock : StockList} {startDate endDate : Date}
    {p : StockPrices} : p ∈ getGraphData E db stock startDate endDate ↔ p ∈ db.stockPrices ∧
      p.stockId = some stock.stockId ∧ ∃ d, p.date = some d ∧ startDate ≤ d ∧ d ≤ endDate := by
  rw [getGraphData, List.mem_filter, Engine.mem_select, List.mem_filter, beq_iff_eq, between_iff,
    and_assoc]

lemma nodup_getGraphData (E : Engine) (db : Database) (stock : StockList)
    (startDate endDate : Date) : (getGraphData E db stock startDate endDate).Nodup := by
  apply List.Nodup.filter
  rw [(E.select_perm _).nodup_iff]
  exact db.nodup_priceId.of_map.filter _

/-- The candles of a hit are the prices of its stock in the chosen range, each of them once, and the
day of the hit is one of them exactly when it lies in the range. -/
theorem hit_candles (E : Engine) (db : Database) (input : HomeInput) (hit : Hit)
    (h : Detected db input.markDate [some hit.pattern.patternId] hit) :
    ∃ rows : List StockPrices, rows.Nodup ∧
      (∀ p, p ∈ rows ↔ p ∈ db.stockPrices ∧ p.stockId = some hit.stock.stockId ∧
        ∃ d, p.date = some d ∧ input.startDate ≤ d ∧ d ≤ input.endDate) ∧
      hitFigure E db input hit =
        { x := rows.map (·.date)
          openPrice := rows.map (·.openPrice)
          high := rows.map (·.high)
          low := rows.map (·.low)
          close := rows.map (·.close)
          x0 := input.markDate
          x1 := input.endDate } ∧
      (some input.markDate ∈ (hitFigure E db input hit).x ↔
        input.startDate ≤ input.markDate ∧ input.markDate ≤ input.endDate) := by
  refine ⟨getGraphData E db hit.stock input.startDate input.endDate, nodup_getGraphData _ _ _ _ _,
    fun p => mem_getGraphData, rfl, ?_⟩
  change some input.markDate ∈ List.map _ (getGraphData E db hit.stock _ _) ↔ _
  rw [List.mem_map]
  constructor
  · rintro ⟨p, hp, hdate⟩
    obtain ⟨-, -, d, hd, hrange⟩ := mem_getGraphData.mp hp
    obtain rfl : d = input.markDate := Option.some.inj (hd.symm.trans hdate)
    exact hrange
  · intro hrange
    obtain ⟨-, -, -, p, hp, hstock, hdate, -⟩ := h
    exact ⟨p, mem_getGraphData.mpr ⟨hp, hstock, _, hdate, hrange⟩, hdate⟩

/-- A hit of the twentieth is drawn with its own day and the day before. -/
theorem hit_candles_twoStocks :
    let fig := hitFigure storageOrder twoStocks
      ⟨some 1, ⟨2021, 1, 1⟩, ⟨2021, 5, 20⟩, ⟨2021, 5, 20⟩, true, false⟩
      ⟨⟨1, "sh.600000", "Bank"⟩, some 100, ⟨1, "CDLDOJI", "Doji", true⟩⟩
    some ⟨2021, 5, 20⟩ ∈ fig.x ∧ some ⟨2021, 5, 19⟩ ∈ fig.x ∧ fig.x1 = ⟨2021, 5, 20⟩ := by
  have h : Detected twoStocks ⟨2021, 5, 20⟩ [some 1]
      ⟨⟨1, "sh.600000", "Bank"⟩, some 100, ⟨1, "CDLDOJI", "Doji", true⟩⟩ := by
    simp [Detected, twoStocks]
  obtain ⟨rows, -, hrows, hfig, hmark⟩ := hit_candles storageOrder twoStocks
    ⟨some 1, ⟨2021, 1, 1⟩, ⟨2021, 5, 20⟩, ⟨2021, 5, 20⟩, true, false⟩ _ h
  have hbefore : (⟨12, some 1, some ⟨2021, 5, 19⟩, some 8, some 9, some 9, some 8⟩ : StockPrices) ∈
      rows := (hrows _).mpr ⟨by decide, rfl, _, rfl, by decide⟩
  refine ⟨hmark.mpr (by decide), ?_, ?_⟩
  · rw [hfig]
    exact List.mem_map_of_mem hbefore
  · rw [hfig]

end StockApp.Proofs
