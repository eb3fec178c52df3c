import PremierLeague.Proofs.StockPages

/-!
# The View Stocks page of the stock application

A stock code is an exchange and a symbol with one dot between them, and any other code raises. The
chart finds a stock by its symbol and by whether the exchange is `sh`, so that codes of two other
exchanges can lead to one chart. The page fills the code into every placeholder of the widget.
-/

namespace StockApp.Proofs

open Tabular DataLoader

/-! ### Tickers -/

/-- The name of the exchange in a chart. -/
def exchangeCode (exchange : List Char) : String :=
  if exchange = "sh".toList then "SSE" else "SZSE"

/-- The name under which the chart finds a stock. -/
def chartName (exchange symbol : List Char) : String :=
  exchangeCode exchange ++ ":" ++ String.ofList symbol

/-- The parts of a code before and after its only dot. -/
def Parts (stock : String) (exchange symbol : List Char) : Prop :=
  '.' ∉ exchange ∧ '.' ∉ symbol ∧ stock.toList = exchange ++ '.' :: symbol

lemma ticker_of_parts {stock : String} {exchange symbol : List Char}
    (h : Parts stock exchange symbol) : ticker stock = .ok (chartName exchange symbol) := by
  unfold ticker
  rw [splitOn_eq_pair_iff.mpr h]
  rfl

/-- A code without exactly one dot cannot be unpacked. -/
lemma ticker_of_count {stock : String} (h : stock.toList.count '.' ≠ 1) :
    ticker stock = .error .valueError := by
  unfold ticker
  split
  · rename_i hsplit
    have hlength := length_splitOn '.' stock.toList
    rw [hsplit] at hlength
    simp at hlength
    omega
  · rfl

lemma chartName_inj {exchange exchange' symbol symbol' : List Char} :
    chartName exchange symbol = chartName exchange' symbol' ↔
      symbol = symbol' ∧ (exchange = "sh".toList ↔ exchange' = "sh".toList) := by
  have htext : ∀ exchange symbol, (chartName exchange symbol).toList =
      (exchangeCode exchange).toList ++ ':' :: symbol := by
    intro exchange symbol
    simp [chartName]
  have hsame : ∀ front : List Char, (front ++ ':' :: symbol = front ++ ':' :: symbol' ↔
      symbol = symbol') := by
    intro front
    rw [List.append_cancel_left_eq, List.cons.injEq]
    exact and_iff_right rfl
  rw [← String.toList_inj, htext, htext]
  unfold exchangeCode
  by_cases h : exchange = "sh".toList
  · by_cases h' : exchange' = "sh".toList
    · rw [if_pos h, if_pos h', hsame]
      exact (and_iff_left (iff_of_true h h')).symm
    · rw [if_pos h, if_neg h']
      exact iff_of_false (by simp) (fun hand => h' (hand.2.mp h))
  · by_cases h' : exchange' = "sh".toList
    · rw [if_neg h, if_pos h']
      exact iff_of_false (by simp) (fun hand => h (hand.2.mpr h'))
    · rw [if_neg h, if_neg h', hsame]
      exact (and_iff_left (iff_of_false h h')).symm

/-- One chart shows two codes exactly when they have one symbol and either both or neither of them
is of the exchange `sh`. -/
theorem ticker_eq_iff (stock stock' : String) (exchange exchange' symbol symbol' : List Char)
    (h : Parts stock exchange symbol) (h' : Parts stock' exchange' symbol') :
    ticker stock = ticker stock' ↔
      symbol = symbol' ∧ (exchange = "sh".toList ↔ exchange' = "sh".toList) := by
  rw [ticker_of_parts h, ticker_of_parts h', Except.ok.injEq, chartName_inj]

/-- The exchange `bj` has the charts of `sz`, and not those of `sh`. -/
theorem ticker_eq_iff_szBj :
    ticker "sz.000001" = ticker "bj.000001" ∧ ticker "sh.000001" ≠ ticker "bj.000001" := by
  have hsz := ticker_eq_iff "sz.000001" "bj.000001" "sz".toList "bj".toList "000001".toList
    "000001".toList (by simp [Parts]) (by simp [Parts])
  have hsh := ticker_eq_iff "sh.000001" "bj.000001" "sh".toList "bj".toList "000001".toList
    "000001".toList (by simp [Parts]) (by simp [Parts])
  exact ⟨hsz.mpr (by decide), hsh.not.mpr (by decide)⟩

/-! ### The page -/

/-- What the View Stocks page shows before a stock. -/
def displayFrame (E : Engine) (db : Database) (files : Files) : List (Place × Widget) := [
  (.main, .write "# Stock Price Chart"),
  (.main, .html files.marketWidget),
  (.sidebar, .selectbox "Choose stock ticker to display:"
    ((E.select db.stockList).map (fun s => s.code ++ ":" ++ s.codeName)))]

def placeholder : List Char := "{{TICKER}}".toList

/-- The file between its placeholders. -/
def filled (parts : List (List Char)) (text : String) : String :=
  String.ofList (text.toList.intercalate parts)

lemma locCode_of_mem {rows : List StockList} (hnodup : (rows.map (·.stockId)).Nodup) {s : StockList}
    (hs : s ∈ rows) : locCode rows s.stockId = .ok s.code := by
  unfold locCode
  split
  · rename_i s' hfind
    have hid : s'.stockId = s.stockId := by simpa using List.find?_some hfind
    rw [List.inj_on_of_nodup_map hnodup (List.mem_of_find?_eq_some hfind) hs hid]
  · rename_i hfind
    exact absurd (beq_self_eq_true s.stockId) (List.find?_eq_none.mp hfind s hs)

lemma locCode_of_forall_ne {rows : List StockList} {id : ℤ} (h : ∀ s ∈ rows, s.stockId ≠ id) :
    locCode rows id = .error (.keyError (toString id)) := by
  have hfind : rows.find? (fun s => s.stockId == id) = none := by
    apply List.find?_eq_none.mpr
    intro s hs
    simpa using h s hs
  rw [locCode, hfind]

lemma replace_eq_filled (text new : String) :
    replace text "{{TICKER}}" new = filled (pieces placeholder 0 text.toList) new := rfl

/-- A filled widget has no placeholder when the symbol cannot start one. -/
lemma not_infix_filled {parts : List (List Char)} (hparts : ∀ part ∈ parts, ¬ placeholder <:+: part)
    {exchange symbol : List Char} (hsymbol : '{' ∉ symbol) :
    ¬ placeholder <:+: (filled parts (chartName exchange symbol)).toList := by
  have htext : (chartName exchange symbol).toList =
      (exchangeCode exchange).toList ++ ':' :: symbol := by
    simp [chartName]
  have hlast : ∀ x ∈ (exchangeCode exchange).toList, placeholder.getLast? ≠ some x := by
    have hcode : '}' ∉ (exchangeCode exchange).toList := by
      unfold exchangeCode
      split
      · decide
      · decide
    intro x hx h
    rw [← Option.some.inj h] at hx
    exact hcode hx
  have hfirst : ∀ x ∈ symbol, placeholder.head? ≠ some x := by
    intro x hx h
    rw [← Option.some.inj h] at hx
    exact hsymbol hx
  rw [filled, String.toList_ofList, htext]
  exact not_infix_intercalate (by decide) (by decide) hlast hfirst hparts

/-- Without the button the page has its frame only. With it, and without a selected stock, there is
an error message; a stock that is not in the table raises, and so does a code without exactly one
dot. Any other stock fills the name of its chart into the placeholders of the widget. -/
structure DisplayOutcome (E : Engine) (db : Database) (files : Files) (input : DisplayInput)
    (page : Page Unit) : Prop where
  idle : ¬ input.display → page = ⟨displayFrame E db files, .ok ()⟩
  unselected : input.display → input.stockPool = none →
    page = ⟨displayFrame E db files ++ [(.main, .error "No Stocks are selected yet.")], .ok ()⟩
  unknown : input.display → ∀ id, input.stockPool = some id → (∀ s ∈ db.stockList, s.stockId ≠ id) →
    page = ⟨displayFrame E db files, .error (.keyError (toString id))⟩
  malformed : input.display → ∀ s ∈ db.stockList, input.stockPool = some s.stockId →
    s.code.toList.count '.' ≠ 1 → page = ⟨displayFrame E db files, .error .valueError⟩
  chart : input.display → ∀ s ∈ db.stockList, input.stockPool = some s.stockId →
    ∀ exchange symbol, Parts s.code exchange symbol →
      ∃ parts, (∀ part ∈ parts, ¬ placeholder <:+: part) ∧
        placeholder.intercalate parts = files.widget.toList ∧
        page = ⟨displayFrame E db files ++
          [(.main, .html (filled parts (chartName exchange symbol)))], .ok ()⟩ ∧
        ('{' ∉ symbol → ¬ placeholder <:+: (filled parts (chartName exchange symbol)).toList)

section Display

variable {E : Engine} {db : Database} (files : Files) {shared : Shared}
  (h : Snapshot E db shared) (input : DisplayInput)

/-- What the View Stocks page shows below its frame. -/
def displayBody (E : Engine) (db : Database) (files : Files) (input : DisplayInput) : Page Unit :=
  if input.display then
    match input.stockPool with
    | none => put .main (.error "No Stocks are selected yet.")
    | some stockPool => do
      let stock ← Script.lift (locCode (E.select db.stockList) stockPool)
      let ticker ← Script.lift (ticker stock)
      put .main (.html (replace files.widget "{{TICKER}}" ticker))
  else
    pure ()

include h

lemma makeDisplayPage_eq : makeDisplayPage files shared input =
    ⟨displayFrame E db files ++ (displayBody E db files input).shown,
      (displayBody E db files input).result⟩ := by
  have hpage : makeDisplayPage files shared input = (do
      Script.mk (displayFrame E db files) (.ok ())
      displayBody E db files input) := by
    unfold makeDisplayPage makeSidebarDisplay displayBody
    rw [h.allStocks]
    rfl
  rw [hpage, Script.bind_of_ok rfl]

lemma displayOutcome : DisplayOutcome E db files input (makeDisplayPage files shared input) := by
  have hnodup : ((E.select db.stockList).map (·.stockId)).Nodup :=
    ((E.select_perm db.stockList).map _).nodup_iff.mpr db.nodup_stockId
  rw [makeDisplayPage_eq files h]
  unfold displayBody
  constructor
  · intro hidle
    rw [if_neg hidle]
    simp
  · intro hdisplay hnone
    rw [if_pos hdisplay, hnone]
    rfl
  · intro hdisplay id hid hne
    rw [if_pos hdisplay, hid]
    dsimp only
    rw [locCode_of_forall_ne (fun s hs => hne s (E.mem_select.mp hs))]
    simp
  · intro hdisplay s hs hid hcount
    rw [if_pos hdisplay, hid]
    dsimp only
    rw [locCode_of_mem hnodup (E.mem_select.mpr hs), Script.lift_ok_bind, ticker_of_count hcount]
    simp
  · intro hdisplay s hs hid exchange symbol hparts
    have hpieces := not_infix_of_mem_pieces (by decide : placeholder ≠ []) 0 files.widget.toList
    refine ⟨pieces placeholder 0 files.widget.toList, hpieces, ?_, ?_, not_infix_filled hpieces⟩
    · rw [intercalate_pieces (by decide), List.drop_zero]
    · rw [if_pos hdisplay, hid]
      dsimp only
      rw [locCode_of_mem hnodup (E.mem_select.mpr hs), Script.lift_ok_bind,
        ticker_of_parts hparts, Script.lift_ok_bind, replace_eq_filled]
      rfl

end Display

/-- A run of the application on the View Stocks page shows the selected stock below its menu. -/
theorem run_viewStocks (E : Engine) (db : Database) (files : Files) (shared : Shared)
    (home : HomeInput) (input : DisplayInput) :
    ∃ page, DisplayOutcome E db files input page ∧
      (App.run E db files shared "View Stocks" home input).2 = (do makeMenu; page) :=
  ⟨_, displayOutcome files (snapshot_init E db shared) input, rfl⟩

end StockApp.Proofs
