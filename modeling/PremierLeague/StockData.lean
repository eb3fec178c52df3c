import PremierLeague.Library.Records

/-!
# The stock database

Four tables: stocks, their daily prices, candle patterns, and the momentums that mark a price with
a pattern. Primary keys identify rows; references and all other cells but names may be missing, and
nothing keeps a reference from pointing to no row.
-/

namespace StockApp

open Tabular

structure Date where
  year : ℕ
  month : ℕ
  day : ℕ
deriving DecidableEq

/-- Days are ordered by year, month and day. -/
def Date.key (d : Date) : ℕ ×ₗ ℕ ×ₗ ℕ := toLex (d.year, toLex (d.month, d.day))

instance : LE Date := ⟨fun d d' => d.key ≤ d'.key⟩

instance : DecidableLE Date := fun d d' => inferInstanceAs (Decidable (d.key ≤ d'.key))

example : (⟨2020, 12, 31⟩ : Date) ≤ ⟨2021, 1, 2⟩ := by decide

structure StockList where
  stockId : ℤ
  code : String
  codeName : String
deriving DecidableEq

structure StockPrices where
  priceId : ℤ
  stockId : Option ℤ
  date : Option Date
  openPrice : Cell
  close : Cell
  high : Cell
  low : Cell
deriving DecidableEq

structure CandlePatterns where
  patternId : ℤ
  patternCode : String
  patternName : String
  isTop : Bool
deriving DecidableEq

structure StockMomentums where
  momentumId : ℤ
  patternId : Option ℤ
  priceId : Option ℤ
  value : Cell
deriving DecidableEq

structure Database where
  stockList : List StockList
  stockPrices : List StockPrices
  candlePatterns : List CandlePatterns
  stockMomentums : List StockMomentums
  nodup_stockId : (stockList.map (·.stockId)).Nodup
  nodup_priceId : (stockPrices.map (·.priceId)).Nodup
  nodup_patternId : (candlePatterns.map (·.patternId)).Nodup
  nodup_momentumId : (stockMomentums.map (·.momentumId)).Nodup

/-- A query without `ORDER BY` returns its rows in some order. -/
structure Engine where
  select : {α : Type} → List α → List α
  select_perm : ∀ {α : Type} (rows : List α), (select rows).Perm rows

/-- Rows in the order in which they are stored. -/
def storageOrder : Engine where
  select := id
  select_perm := List.Perm.refl

/-- `session.query(..).all()` lists equal rows once. -/
def Engine.all (E : Engine) {α : Type} [DecidableEq α] (rows : List α) : List α :=
  Series.unique (E.select rows)

namespace Engine

variable (E : Engine) {α : Type}

@[simp] lemma mem_select {rows : List α} {a : α} : a ∈ E.select rows ↔ a ∈ rows :=
  (E.select_perm rows).mem_iff

@[simp] lemma mem_all [DecidableEq α] {rows : List α} {a : α} : a ∈ E.all rows ↔ a ∈ rows := by
  rw [all, Series.mem_unique, mem_select]

lemma nodup_all [DecidableEq α] (rows : List α) : (E.all rows).Nodup := Series.nodup_unique _

end Engine

end StockApp
