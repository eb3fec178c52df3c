import PremierLeague.Library.Script
import PremierLeague.Library.Templates
import PremierLeague.StockData

/-!
# The stock application

A loader reads three tables into dictionaries of its class when it is made. The Home page looks up
which stocks show a pattern on a day and draws their candles; the View Stocks page embeds a chart of
one stock. Tables come from the dictionaries, the scan and the candles from the database.
-/

namespace StockApp

open Tabular

inductive PyError where
  | keyError (key : String)
  | attributeError
  | valueError
  | typeError
deriving DecidableEq

/-! ### The loader -/

/-- A table as it was loaded. -/
inductive LoadedTable where
  | stocks (rows : List StockList)
  | patterns (rows : List CandlePatterns)
deriving DecidableEq

namespace DataLoader

def tableNames : List String := ["all_stocks", "candle_patterns", "top_patterns"]

def scalarNames : List String := ["today", "earliest_date"]

/-- The dictionaries of the class, which all loaders share. A name without an implementation
stands for `None`. -/
structure Shared where
  tables : Dict String (Option LoadedTable)
  scalars : Dict String (Option Date)
deriving DecidableEq

def loadScalarData (scalar : String) : Option Date :=
  if scalar = "today" then some ⟨2021, 5, 20⟩
  else if scalar = "earliest_date" then some ⟨2020, 1, 1⟩
  else none

def loadTableData (E : Engine) (db : Database) (table : String) : Option LoadedTable :=
  if table = "all_stocks" then some (.stocks (E.select db.stockList))
  else if table = "candle_patterns" then some (.patterns (E.select db.candlePatterns))
  else if table = "top_patterns" then
    some (.patterns (E.select (db.candlePatterns.filter (fun c => c.isTop))))
  else none

/-- `DataLoader(connection)` on the database behind the connection. -/
def init (E : Engine) (db : Database) (shared : Shared) : Shared where
  tables := shared.tables.setAll tableNames (loadTableData E db)
  scalars := shared.scalars.setAll scalarNames loadScalarData

/-- The table of stocks under a name. -/
def stockTable (shared : Shared) (table : String) : Except PyError (List StockList) :=
  match shared.tables.get? table with
  | some (some (.stocks rows)) => .ok rows
  | some _ => .error .attributeError
  | none => .error (.keyError table)

/-- The table of patterns under a name. -/
def patternTable (shared : Shared) (table : String) : Except PyError (List CandlePatterns) :=
  match shared.tables.get? table with
  | some (some (.patterns rows)) => .ok rows
  | some _ => .error .attributeError
  | none => .error (.keyError table)

def scalar (shared : Shared) (name : String) : Except PyError (Option Date) :=
  match shared.scalars.get? name with
  | some value => .ok value
  | none => .error (.keyError name)

end DataLoader

open DataLoader

/-! ### The scan -/

/-- A row of the scan: a stock, the value of a momentum, and its pattern. -/
structure Hit where
  stock : StockList
  momentum : Cell
  pattern : CandlePatterns
deriving DecidableEq

/-- `pattern_id IN (..)`; a missing pattern is in no list. -/
def isIn (patterns : List (Option ℤ)) (patternId : ℤ) : Bool := patterns.contains (some patternId)

/-- The joined tables, stock by stock. -/
def joinedTables (db : Database) :
    List (((StockList × StockPrices) × StockMomentums) × CandlePatterns) :=
  join (fun m c => m.2.patternId == some c.patternId)
    (join (fun p m => m.priceId == some p.2.priceId)
      (join (fun s p => p.stockId == some s.stockId) db.stockList db.stockPrices)
      db.stockMomentums)
    db.candlePatterns

def scan (E : Engine) (db : Database) (markDate : Date) (patterns : List (Option ℤ)) : List Hit :=
  E.all (((joinedTables db).filter (fun row =>
    isIn patterns row.2.patternId && row.1.1.2.date == some markDate)).map
      (fun row => ⟨row.1.1.1, row.1.2.value, row.2⟩))

/-! ### Candles -/

def between (day : Option Date) (start stop : Date) : Bool :=
  match day with
  | some d => decide (start ≤ d ∧ d ≤ stop)
  | none => false

def getGraphData (E : Engine) (db : Database) (stock : StockList) (startDate endDate : Date) :
    List StockPrices :=
  (E.select (db.stockPrices.filter (fun p => p.stockId == some stock.stockId))).filter
    (fun p => between p.date startDate endDate)

/-- The candles and the marked range. -/
structure Figure where
  x : List (Option Date)
  openPrice : List Cell
  high : List Cell
  low : List Cell
  close : List Cell
  x0 : Date
  x1 : Date
deriving DecidableEq

def makeCanddleGraph (E : Engine) (db : Database) (stock : StockList)
    (startDate endDate markDate : Date) : Figure :=
  let dfStock := getGraphData E db stock startDate endDate
  { x := dfStock.map (·.date)
    openPrice := dfStock.map (·.openPrice)
    high := dfStock.map (·.high)
    low := dfStock.map (·.low)
    close := dfStock.map (·.close)
    x0 := markDate
    x1 := endDate }

/-! ### The pages -/

inductive Place where
  | main
  | sidebar
  | col1
  | col2
deriving DecidableEq

inductive Widget where
  | write (text : String)
  | warning (text : String)
  | error (text : String)
  | html (text : String)
  | selectbox (label : String) (options : List String)
  | dateInput (label : String) (value : Option Date)
  | chart (fig : Figure)
deriving DecidableEq

abbrev Page (α : Type) := Script PyError (Place × Widget) α

def put (place : Place) (w : Widget) : Page Unit := Script.emit (place, w)

/-- What is entered in the form of the Home page. -/
structure HomeInput where
  pattern : Option ℤ
  startDate : Date
  endDate : Date
  markDate : Date
  scanPattern : Bool
  scanAll : Bool
deriving DecidableEq

def makeSidebarHome (shared : Shared) : Page Unit := do
  let candlePatterns ← Script.lift (patternTable shared "candle_patterns")
  let earliestDate ← Script.lift (scalar shared "earliest_date")
  let today ← Script.lift (scalar shared "today")
  put .sidebar (.selectbox "Select Pattern:" (candlePatterns.map (·.patternName)))
  put .sidebar (.dateInput "Start Date:" earliestDate)
  put .sidebar (.dateInput "End Date:" today)
  put .sidebar (.dateInput "Pattern Detection Date:" today)
  put .sidebar (.write
    "For candlestick patterns, visit: http://thepatternsite.com/CandleVisual.html")

/-- The rows that a page asks for; pages other than Home have none. -/
def getPageData (E : Engine) (db : Database) (shared : Shared) (input : HomeInput) (page : String)
    (useSinglePattern : Bool) : Except PyError (Option (List Hit)) := do
  if page = "Home" then
    let patterns ←
      if useSinglePattern then
        pure [input.pattern]
      else do
        let top ← patternTable shared "top_patterns"
        pure (top.map (fun c => some c.patternId))
    return some (scan E db input.markDate patterns)
  else
    return none

/-- `momentum > 0`, which a missing momentum does not have. -/
def isBullish (momentum : Cell) : Except PyError Bool :=
  match momentum with
  | some q => .ok (decide (0 < q))
  | none => .error .typeError

def hitText (hit : Hit) : String :=
  "\n                            ### " ++ hit.stock.code ++ ":" ++ hit.stock.codeName ++ " - " ++
    hit.pattern.patternName ++ "\n                            "

def showHit (E : Engine) (db : Database) (input : HomeInput) (hit : Hit) : Page Unit := do
  let fig := makeCanddleGraph E db hit.stock input.startDate input.endDate input.markDate
  let bullish ← Script.lift (isBullish hit.momentum)
  let col := if bullish then Place.col1 else Place.col2
  put col (.write (hitText hit))
  put col (.chart fig)

def makeHomePage (E : Engine) (db : Database) (shared : Shared) (input : HomeInput) :
    Page Unit := do
  put .main (.write "# Candle Pattern Scanner")
  makeSidebarHome shared
  put .col1 (.write "## Bullish Trend:")
  put .col2 (.write "## Bearish Trend:")
  if input.scanPattern || input.scanAll then
    -- set to False for `scan_all`, then to True for `scan_pattern`
    let useSinglePattern := input.scanPattern
    let stocks ← Script.lift (getPageData E db shared input "Home" useSinglePattern)
    match stocks with
    | none | some [] => put .main (.warning "No such pattern(s) was found!")
    | some stocks => stocks.forM (showHit E db input)

/-- What is entered in the form of the View Stocks page. -/
structure DisplayInput where
  stockPool : Option ℤ
  display : Bool
deriving DecidableEq

def makeSidebarDisplay (shared : Shared) : Page Unit := do
  let allStocks ← Script.lift (stockTable shared "all_stocks")
  put .sidebar (.selectbox "Choose stock ticker to display:"
    (allStocks.map (fun s => s.code ++ ":" ++ s.codeName)))

/-- `all_stocks.loc[stock_id, "code"]` -/
def locCode (allStocks : List StockList) (stockId : ℤ) : Except PyError String :=
  match allStocks.find? (fun s => s.stockId == stockId) with
  | some s => .ok s.code
  | none => .error (.keyError (toString stockId))

/-- `exchange, symbol = stock.split(".")`, and the name under which the chart finds the stock. -/
def ticker (stock : String) : Except PyError String :=
  match stock.toList.splitOn '.' with
  | [exchange, symbol] =>
    let exchangeCode := if exchange = "sh".toList then "SSE" else "SZSE"
    .ok (exchangeCode ++ ":" ++ String.ofList symbol)
  | _ => .error .valueError

/-- The two HTML files. -/
structure Files where
  widget : String
  marketWidget : String

def makeDisplayPage (files : Files) (shared : Shared) (input : DisplayInput) : Page Unit := do
  let allStocks ← Script.lift (stockTable shared "all_stocks")
  put .main (.write "# Stock Price Chart")
  put .main (.html files.marketWidget)
  makeSidebarDisplay shared
  if input.display then
    match input.stockPool with
    | none => put .main (.error "No Stocks are selected yet.")
    | some stockPool =>
      let stock ← Script.lift (locCode allStocks stockPool)
      let ticker ← Script.lift (ticker stock)
      put .main (.html (replace files.widget "{{TICKER}}" ticker))

def navigationMenu : List String := ["Home", "View Stocks"]

def makeMenu : Page Unit := put .sidebar (.selectbox "Page" navigationMenu)

/-- `App().run()`: a new loader, then the menu and the chosen page. -/
def App.run (E : Engine) (db : Database) (files : Files) (shared : Shared) (page : String)
    (home : HomeInput) (display : DisplayInput) : Shared × Page Unit :=
  let shared := DataLoader.init E db shared
  (shared, do
    makeMenu
    if page = "Home" then makeHomePage E db shared home
    else if page = "View Stocks" then makeDisplayPage files shared display
    else pure ())

end StockApp
