import PremierLeague.StockApp

/-!
# The pattern scan

The scan joins four tables and keeps the rows of one day and of the given patterns. It finds a stock
with a pattern exactly when a momentum of the pattern refers to a price of the stock on that day,
whatever the order in which the database returns rows. Scanning several patterns is scanning each of
them, rows of other days and patterns have no part in it, and no momentum is lost as long as a stock
has one price a day and a price one momentum for a pattern.
-/

namespace StockApp.Proofs

open Tabular

section Joined

variable {db : Database}

@[simp] lemma mem_joinedTables {s : StockList} {p : StockPrices} {m : StockMomentums}
    {c : CandlePatterns} : (((s, p), m), c) ∈ joinedTables db ↔
      ((s ∈ db.stockList ∧ p ∈ db.stockPrices ∧ p.stockId = some s.stockId) ∧
        m ∈ db.stockMomentums ∧ m.priceId = some p.priceId) ∧
          c ∈ db.candlePatterns ∧ m.patternId = some c.patternId := by
  simp [joinedTables]

/-- A momentum determines its price, stock and pattern. -/
lemma joinedTables_inj : ∀ row ∈ joinedTables db, ∀ row' ∈ joinedTables db,
    row.1.2 = row'.1.2 → row = row' := by
  rintro ⟨⟨⟨s, p⟩, m⟩, c⟩ h ⟨⟨⟨s', p'⟩, m'⟩, c'⟩ h' rfl
  obtain ⟨⟨⟨hs, hp, hps⟩, -, hmp⟩, hc, hmc⟩ := mem_joinedTables.mp h
  obtain ⟨⟨⟨hs', hp', hps'⟩, -, hmp'⟩, hc', hmc'⟩ := mem_joinedTables.mp h'
  have hpp : p = p' := List.inj_on_of_nodup_map db.nodup_priceId hp hp'
    (Option.some.inj (hmp.symm.trans hmp'))
  subst hpp
  have hss : s = s' := List.inj_on_of_nodup_map db.nodup_stockId hs hs'
    (Option.some.inj (hps.symm.trans hps'))
  have hcc : c = c' := List.inj_on_of_nodup_map db.nodup_patternId hc hc'
    (Option.some.inj (hmc.symm.trans hmc'))
  rw [hss, hcc]

lemma nodup_joinedTables (db : Database) : (joinedTables db).Nodup :=
  nodup_join (nodup_join (nodup_join db.nodup_stockId.of_map db.nodup_priceId.of_map)
    db.nodup_momentumId.of_map) db.nodup_patternId.of_map

end Joined

/-- A momentum of the pattern refers to a price of the stock on the day. -/
def Detected (db : Database) (markDate : Date) (patterns : List (Option ℤ)) (hit : Hit) : Prop :=
  hit.stock ∈ db.stockList ∧ hit.pattern ∈ db.candlePatterns ∧
    some hit.pattern.patternId ∈ patterns ∧
    ∃ p ∈ db.stockPrices, p.stockId = some hit.stock.stockId ∧ p.date = some markDate ∧
      ∃ m ∈ db.stockMomentums, m.priceId = some p.priceId ∧
        m.patternId = some hit.pattern.patternId ∧ m.value = hit.momentum

/-- The joined rows that the scan keeps. -/
def keptRows (db : Database) (markDate : Date) (patterns : List (Option ℤ)) :
    List (((StockList × StockPrices) × StockMomentums) × CandlePatterns) :=
  (joinedTables db).filter (fun row =>
    isIn patterns row.2.patternId && row.1.1.2.date == some markDate)

lemma mem_keptRows {db : Database} {markDate : Date} {patterns : List (Option ℤ)} {s : StockList}
    {p : StockPrices} {m : StockMomentums} {c : CandlePatterns} :
    (((s, p), m), c) ∈ keptRows db markDate patterns ↔
      (((s, p), m), c) ∈ joinedTables db ∧ some c.patternId ∈ patterns ∧
        p.date = some markDate := by
  simp [keptRows, isIn]

section Scan

variable {E : Engine} {db : Database} {markDate : Date} {patterns : List (Option ℤ)}

theorem mem_scan {hit : Hit} :
    hit ∈ scan E db markDate patterns ↔ Detected db markDate patterns hit := by
  rw [scan, Engine.mem_all, List.mem_map]
  constructor
  · rintro ⟨⟨⟨⟨s, p⟩, m⟩, c⟩, hrow, rfl⟩
    obtain ⟨hjoin, hin, hdate⟩ := mem_keptRows.mp hrow
    obtain ⟨⟨⟨hs, hp, hps⟩, hm, hmp⟩, hc, hmc⟩ := mem_joinedTables.mp hjoin
    exact ⟨hs, hc, hin, p, hp, hps, hdate, m, hm, hmp, hmc, rfl⟩
  · rintro ⟨hs, hc, hin, p, hp, hps, hdate, m, hm, hmp, hmc, hvalue⟩
    refine ⟨(((hit.stock, p), m), hit.pattern), mem_keptRows.mpr ⟨?_, hin, hdate⟩, ?_⟩
    · exact mem_joinedTables.mpr ⟨⟨⟨hs, hp, hps⟩, hm, hmp⟩, hc, hmc⟩
    · rw [hvalue]

lemma nodup_scan : (scan E db markDate patterns).Nodup := E.nodup_all _

end Scan

/-- Two scans with the same hits differ by their order only. -/
lemma scan_perm {E E' : Engine} {db db' : Database} {markDate markDate' : Date}
    {patterns patterns' : List (Option ℤ)}
    (h : ∀ hit, Detected db markDate patterns hit ↔ Detected db' markDate' patterns' hit) :
    (scan E db markDate patterns).Perm (scan E' db' markDate' patterns') := by
  rw [List.perm_ext_iff_of_nodup nodup_scan nodup_scan]
  intro hit
  rw [mem_scan, mem_scan, h]

/-! ### Several patterns -/

/-- Scanning a list of patterns finds what the scans of its single patterns find, each hit once. -/
theorem scan_perm_flatMap (E : Engine) (db : Database) (markDate : Date)
    (patterns : List (Option ℤ)) : (scan E db markDate patterns).Nodup ∧
      (scan E db markDate patterns).Perm
        ((Series.unique patterns).flatMap (fun pattern => scan E db markDate [pattern])) := by
  have hpattern : ∀ pattern hit, hit ∈ scan E db markDate [pattern] →
      pattern = some hit.pattern.patternId := by
    intro pattern hit h
    exact (List.mem_singleton.mp (mem_scan.mp h).2.2.1).symm
  have hnodup : ((Series.unique patterns).flatMap
      (fun pattern => scan E db markDate [pattern])).Nodup := by
    apply List.nodup_flatMap.mpr
    constructor
    · intro pattern _
      exact nodup_scan
    · apply (Series.nodup_unique patterns).imp
      intro pattern pattern' hne
      rw [Function.onFun, List.disjoint_left]
      intro hit h h'
      exact hne ((hpattern _ _ h).trans (hpattern _ _ h').symm)
  refine ⟨nodup_scan, (List.perm_ext_iff_of_nodup nodup_scan hnodup).mpr fun hit => ?_⟩
  rw [mem_scan, List.mem_flatMap]
  constructor
  · intro h
    refine ⟨_, Series.mem_unique.mpr h.2.2.1, mem_scan.mpr ?_⟩
    exact ⟨h.1, h.2.1, List.mem_singleton_self _, h.2.2.2⟩
  · rintro ⟨pattern, hmem, h⟩
    have hdetected := mem_scan.mp h
    refine ⟨hdetected.1, hdetected.2.1, ?_, hdetected.2.2.2⟩
    rw [← hpattern _ _ h]
    exact Series.mem_unique.mp hmem

/-! ### Rows without a part in the scan -/

/-- The databases agree on the stocks, on the prices of the day, on the scanned patterns, and on the
momentums that mark such a price with such a pattern. -/
structure AgreeOn (markDate : Date) (patterns : List (Option ℤ)) (db db' : Database) : Prop where
  stockRows : ∀ s, s ∈ db.stockList ↔ s ∈ db'.stockList
  priceRows : ∀ p, p.date = some markDate → (p ∈ db.stockPrices ↔ p ∈ db'.stockPrices)
  patternRows : ∀ c, some c.patternId ∈ patterns → (c ∈ db.candlePatterns ↔ c ∈ db'.candlePatterns)
  momentumRows : ∀ p ∈ db.stockPrices, p.date = some markDate → ∀ m, m.priceId = some p.priceId →
    m.patternId ∈ patterns → (m ∈ db.stockMomentums ↔ m ∈ db'.stockMomentums)

theorem scan_unaffected (E E' : Engine) (db db' : Database) (markDate : Date)
    (patterns : List (Option ℤ)) (h : AgreeOn markDate patterns db db') :
    (scan E db markDate patterns).Perm (scan E' db' markDate patterns) := by
  apply scan_perm
  intro hit
  constructor
  · rintro ⟨hs, hc, hin, p, hp, hps, hdate, m, hm, hmp, hmc, hvalue⟩
    exact ⟨(h.stockRows _).mp hs, (h.patternRows _ hin).mp hc, hin,
      p, (h.priceRows p hdate).mp hp, hps, hdate,
      m, (h.momentumRows p hp hdate m hmp (hmc ▸ hin)).mp hm, hmp, hmc, hvalue⟩
  · rintro ⟨hs, hc, hin, p, hp, hps, hdate, m, hm, hmp, hmc, hvalue⟩
    have hp' := (h.priceRows p hdate).mpr hp
    exact ⟨(h.stockRows _).mpr hs, (h.patternRows _ hin).mpr hc, hin, p, hp', hps, hdate,
      m, (h.momentumRows p hp' hdate m hmp (hmc ▸ hin)).mpr hm, hmp, hmc, hvalue⟩

/-- Two stocks with prices on two days and a price that belongs to no stock. -/
def twoStocks : Database where
  stockList := [⟨1, "sh.600000", "Bank"⟩, ⟨2, "sz.000001", "Tea"⟩]
  stockPrices := [⟨10, some 1, some ⟨2021, 5, 20⟩, some 9, some 10, some 11, some 8⟩,
    ⟨11, some 2, some ⟨2021, 5, 20⟩, none, some 5, some 6, some 4⟩,
    ⟨12, some 1, some ⟨2021, 5, 19⟩, some 8, some 9, some 9, some 8⟩,
    ⟨13, none, none, none, none, none, none⟩]
  candlePatterns := [⟨1, "CDLDOJI", "Doji", true⟩, ⟨2, "CDLHAMMER", "Hammer", false⟩]
  stockMomentums := [⟨1, some 1, some 10, some 100⟩, ⟨2, some 1, some 11, some (-100)⟩,
    ⟨3, some 2, some 11, some 100⟩, ⟨4, some 1, some 12, none⟩]
  nodup_stockId := by decide
  nodup_priceId := by decide
  nodup_patternId := by decide
  nodup_momentumId := by decide

/-- The same without the rows of another day and pattern. -/
def twoStocksOnDay : Database where
  stockList := [⟨2, "sz.000001", "Tea"⟩, ⟨1, "sh.600000", "Bank"⟩]
  stockPrices := [⟨10, some 1, some ⟨2021, 5, 20⟩, some 9, some 10, some 11, some 8⟩,
    ⟨11, some 2, some ⟨2021, 5, 20⟩, none, some 5, some 6, some 4⟩]
  candlePatterns := [⟨1, "CDLDOJI", "Doji", true⟩]
  stockMomentums := [⟨2, some 1, some 11, some (-100)⟩, ⟨1, some 1, some 10, some 100⟩]
  nodup_stockId := by decide
  nodup_priceId := by decide
  nodup_patternId := by decide
  nodup_momentumId := by decide

theorem scan_unaffected_twoStocks :
    (scan storageOrder twoStocks ⟨2021, 5, 20⟩ [some 1]).Perm
      (scan storageOrder twoStocksOnDay ⟨2021, 5, 20⟩ [some 1]) := by
  apply scan_unaffected
  constructor
  · intro s
    simp only [twoStocks, twoStocksOnDay, List.mem_cons, List.not_mem_nil, or_false]
    exact or_comm
  · intro p hp
    simp only [twoStocks, twoStocksOnDay, List.mem_cons, List.not_mem_nil, or_false]
    constructor
    · rintro (rfl | rfl | rfl | rfl)
      all_goals simp_all
    · rintro (rfl | rfl) <;> simp
  · intro c hc
    simp only [twoStocks, twoStocksOnDay, List.mem_cons, List.not_mem_nil, or_false]
    constructor
    · rintro (rfl | rfl)
      all_goals simp_all
    · rintro rfl
      simp
  · intro p hp hdate m hprice hpattern
    simp only [twoStocks, twoStocksOnDay, List.mem_cons, List.not_mem_nil, or_false] at hp ⊢
    constructor
    · rintro (rfl | rfl | rfl | rfl)
      · simp
      · simp
      · simp at hpattern
      · rcases hp with rfl | rfl | rfl | rfl <;> simp at hprice hdate
    · rintro (rfl | rfl) <;> simp

/-! ### Counting momentums -/

/-- The momentum marks a price of the day with a scanned pattern. -/
def Marks (db : Database) (markDate : Date) (patterns : List (Option ℤ)) (m : StockMomentums) :
    Prop :=
  (∃ p ∈ db.stockPrices, m.priceId = some p.priceId ∧ p.date = some markDate ∧
    ∃ s ∈ db.stockList, p.stockId = some s.stockId) ∧
  ∃ c ∈ db.candlePatterns, m.patternId = some c.patternId ∧ some c.patternId ∈ patterns

instance (db : Database) (markDate : Date) (patterns : List (Option ℤ)) :
    DecidablePred (Marks db markDate patterns) := fun _ => inferInstanceAs (Decidable (_ ∧ _))

/-- Two momentums that the result of the scan cannot tell apart. -/
def Twins (db : Database) (markDate : Date) (patterns : List (Option ℤ)) (m m' : StockMomentums) :
    Prop :=
  m ≠ m' ∧ Marks db markDate patterns m ∧ Marks db markDate patterns m' ∧
    m.patternId = m'.patternId ∧ m.value = m'.value ∧
      ∃ p ∈ db.stockPrices, ∃ p' ∈ db.stockPrices,
        m.priceId = some p.priceId ∧ m'.priceId = some p'.priceId ∧ p.stockId = p'.stockId

def hitOf (row : ((StockList × StockPrices) × StockMomentums) × CandlePatterns) : Hit :=
  ⟨row.1.1.1, row.1.2.value, row.2⟩

section Counts

variable {db : Database} {markDate : Date} {patterns : List (Option ℤ)}

lemma nodup_keptRows : (keptRows db markDate patterns).Nodup := (nodup_joinedTables db).filter _

lemma marks_iff {m : StockMomentums} : m ∈ db.stockMomentums ∧ Marks db markDate patterns m ↔
    ∃ s p c, (((s, p), m), c) ∈ keptRows db markDate patterns := by
  constructor
  · rintro ⟨hm, ⟨p, hp, hmp, hdate, s, hs, hps⟩, c, hc, hmc, hin⟩
    exact ⟨s, p, c, mem_keptRows.mpr ⟨mem_joinedTables.mpr
      ⟨⟨⟨hs, hp, hps⟩, hm, hmp⟩, hc, hmc⟩, hin, hdate⟩⟩
  · rintro ⟨s, p, c, hrow⟩
    obtain ⟨hjoin, hin, hdate⟩ := mem_keptRows.mp hrow
    obtain ⟨⟨⟨hs, hp, hps⟩, hm, hmp⟩, hc, hmc⟩ := mem_joinedTables.mp hjoin
    exact ⟨hm, ⟨p, hp, hmp, hdate, s, hs, hps⟩, c, hc, hmc, hin⟩

lemma keptRows_inj : ∀ row ∈ keptRows db markDate patterns,
    ∀ row' ∈ keptRows db markDate patterns, row.1.2 = row'.1.2 → row = row' :=
  fun row hrow row' hrow' =>
    joinedTables_inj row (List.mem_filter.mp hrow).1 row' (List.mem_filter.mp hrow').1

lemma momentums_keptRows : ((keptRows db markDate patterns).map (fun row => row.1.2)).Perm
    (db.stockMomentums.filter (fun m => decide (Marks db markDate patterns m))) := by
  have hnodup : ((keptRows db markDate patterns).map (fun row => row.1.2)).Nodup :=
    nodup_keptRows.map_on keptRows_inj
  rw [List.perm_ext_iff_of_nodup hnodup (db.nodup_momentumId.of_map.filter _)]
  intro m
  rw [List.mem_filter, decide_eq_true_iff, marks_iff, List.mem_map]
  constructor
  · rintro ⟨⟨⟨⟨s, p⟩, m⟩, c⟩, hrow, rfl⟩
    exact ⟨s, p, c, hrow⟩
  · rintro ⟨s, p, c, hrow⟩
    exact ⟨_, hrow, rfl⟩

lemma length_keptRows : (keptRows db markDate patterns).length =
    db.stockMomentums.countP (fun m => decide (Marks db markDate patterns m)) := by
  rw [List.countP_eq_length_filter, ← momentums_keptRows.length_eq, List.length_map]

/-- Kept rows with one hit come from momentums that cannot be told apart. -/
lemma nodup_hits_iff : ((keptRows db markDate patterns).map hitOf).Nodup ↔
    ∀ m ∈ db.stockMomentums, ∀ m' ∈ db.stockMomentums, ¬ Twins db markDate patterns m m' := by
  rw [List.nodup_map_iff_inj_on nodup_keptRows]
  constructor
  · rintro hinj m hm m' hm'
      ⟨hne, hmarks, hmarks', hpattern, hvalue, q, hq, q', hq', hmq, hmq', hstock⟩
    obtain ⟨s, p, c, hrow⟩ := marks_iff.mp ⟨hm, hmarks⟩
    obtain ⟨s', p', c', hrow'⟩ := marks_iff.mp ⟨hm', hmarks'⟩
    obtain ⟨⟨⟨hs, hp, hps⟩, -, hmp⟩, hc, hmc⟩ := mem_joinedTables.mp (mem_keptRows.mp hrow).1
    obtain ⟨⟨⟨hs', hp', hps'⟩, -, hmp'⟩, hc', hmc'⟩ := mem_joinedTables.mp (mem_keptRows.mp hrow').1
    obtain rfl : p = q := List.inj_on_of_nodup_map db.nodup_priceId hp hq
      (Option.some.inj (hmp.symm.trans hmq))
    obtain rfl : p' = q' := List.inj_on_of_nodup_map db.nodup_priceId hp' hq'
      (Option.some.inj (hmp'.symm.trans hmq'))
    have hss : s = s' := List.inj_on_of_nodup_map db.nodup_stockId hs hs'
      (Option.some.inj (hps.symm.trans (hstock.trans hps')))
    have hcc : c = c' := List.inj_on_of_nodup_map db.nodup_patternId hc hc'
      (Option.some.inj (hmc.symm.trans (hpattern.trans hmc')))
    have hrows := hinj _ hrow _ hrow' (by rw [hitOf, hitOf, hss, hvalue, hcc])
    exact hne (congrArg (fun row => row.1.2) hrows)
  · rintro htwins ⟨⟨⟨s, p⟩, m⟩, c⟩ hrow ⟨⟨⟨s', p'⟩, m'⟩, c'⟩ hrow' hhit
    obtain ⟨rfl, hvalue, rfl⟩ := Hit.mk.inj hhit
    by_contra hne
    have hm : m ≠ m' := fun h => hne (keptRows_inj _ hrow _ hrow' h)
    obtain ⟨hmem, hmarks⟩ := marks_iff.mpr ⟨_, _, _, hrow⟩
    obtain ⟨hmem', hmarks'⟩ := marks_iff.mpr ⟨_, _, _, hrow'⟩
    obtain ⟨⟨⟨-, hp, hps⟩, -, hmp⟩, -, hmc⟩ := mem_joinedTables.mp (mem_keptRows.mp hrow).1
    obtain ⟨⟨⟨-, hp', hps'⟩, -, hmp'⟩, -, hmc'⟩ := mem_joinedTables.mp (mem_keptRows.mp hrow').1
    exact htwins m hmem m' hmem' ⟨hm, hmarks, hmarks', hmc.trans hmc'.symm, hvalue,
      p, hp, p', hp', hmp, hmp', hps.trans hps'.symm⟩

end Counts

/-- The scan has at most one hit for each marking momentum, and loses none of them exactly when no
two of them are equal in stock, pattern and value. -/
theorem scan_counts (E : Engine) (db : Database) (markDate : Date) (patterns : List (Option ℤ)) :
    (scan E db markDate patterns).length ≤
        db.stockMomentums.countP (fun m => decide (Marks db markDate patterns m)) ∧
      ((scan E db markDate patterns).length =
          db.stockMomentums.countP (fun m => decide (Marks db markDate patterns m)) ↔
        ∀ m ∈ db.stockMomentums, ∀ m' ∈ db.stockMomentums,
          ¬ Twins db markDate patterns m m') := by
  have hlength : (E.select ((keptRows db markDate patterns).map hitOf)).length =
      db.stockMomentums.countP (fun m => decide (Marks db markDate patterns m)) := by
    rw [(E.select_perm _).length_eq, List.length_map, length_keptRows]
  rw [← hlength, ← nodup_hits_iff, ← (E.select_perm _).nodup_iff]
  exact ⟨Series.length_unique_le _, Series.length_unique_eq_iff⟩

end StockApp.Proofs
