import PremierLeague.Proofs.StockDisplay

/-!
# Loaders that share their tables

The dictionaries of a loader belong to its class. Whatever happens in a process, they hold the
tables of the loader that was made last, as its database was at that moment, while every loader
sends its queries to its own database as it is now. A run of the application makes a loader of its
own first, so that its page is the page of the current database, whatever was loaded before.
-/

namespace StockApp.Proofs

open Tabular DataLoader

/-! ### Histories -/

/-- The databases behind the connections, the dictionaries of the class, and the pages that the
application has shown. -/
structure Process where
  databases : String → Database
  shared : Shared
  pages : List (Page Unit)

/-- A loader is made, a database is changed, or the application runs. -/
inductive Event where
  | construct (connection : String)
  | commit (connection : String) (db : Database)
  | visit (files : Files) (page : String) (home : HomeInput) (display : DisplayInput)

/-- The connection of a run of the application. -/
def appConnection : String := "sqlite:///app.db"

namespace Process

def step (E : Engine) (p : Process) : Event → Process
  | .construct connection =>
    { p with shared := DataLoader.init E (p.databases connection) p.shared }
  | .commit connection db => { p with databases := Function.update p.databases connection db }
  | .visit files page home display =>
    let run := App.run E (p.databases appConnection) files p.shared page home display
    { p with shared := run.1, pages := p.pages ++ [run.2] }

def run (E : Engine) (p : Process) (events : List Event) : Process := events.foldl (step E) p

variable {E : Engine} (p : Process)

@[simp] lemma run_nil : p.run E [] = p := rfl

@[simp] lemma run_cons (e : Event) (events : List Event) :
    p.run E (e :: events) = (p.step E e).run E events := rfl

lemma run_append (events events' : List Event) :
    p.run E (events ++ events') = (p.run E events).run E events' := List.foldl_append

end Process

/-- The connection whose tables an event loads. -/
def Event.loads : Event → Option String
  | .construct connection => some connection
  | .commit _ _ => none
  | .visit _ _ _ _ => some appConnection

/-! ### The tables that loaders see -/

/-- An event that loads leaves the tables of its database. -/
lemma snapshot_step {E : Engine} (p : Process) {e : Event} {connection : String}
    (h : e.loads = some connection) :
    Snapshot E (p.databases connection) (p.step E e).shared := by
  cases e with
  | construct c =>
    obtain rfl : c = connection := Option.some.inj h
    exact snapshot_init E _ _
  | commit c db => exact absurd h (by simp [Event.loads])
  | visit files page home display =>
    obtain rfl : appConnection = connection := Option.some.inj h
    exact snapshot_init E _ _

lemma step_shared_of_not_loads {E : Engine} (p : Process) {e : Event} (h : e.loads = none) :
    (p.step E e).shared = p.shared := by
  cases e with
  | construct c => exact absurd h (by simp [Event.loads])
  | commit c db => rfl
  | visit files page home display => exact absurd h (by simp [Event.loads])

/-- Events that load nothing leave the tables as they are. -/
lemma run_shared_of_not_loads {E : Engine} (p : Process) {events : List Event}
    (h : ∀ e ∈ events, e.loads = none) : (p.run E events).shared = p.shared := by
  induction events generalizing p with
  | nil => rfl
  | cons e events ih =>
    rw [Process.run_cons, ih _ (fun e he => h e (List.mem_cons_of_mem _ he)),
      step_shared_of_not_loads p (h e List.mem_cons_self)]

/-- The tables are those of the last event that has loaded any. -/
lemma snapshot_run {E : Engine} (p : Process) (before : List Event) {e : Event}
    {after : List Event} {connection : String} (he : e.loads = some connection)
    (hafter : ∀ e ∈ after, e.loads = none) :
    Snapshot E ((p.run E before).databases connection) (p.run E (before ++ e :: after)).shared := by
  rw [Process.run_append, Process.run_cons, run_shared_of_not_loads _ hafter]
  exact snapshot_step _ he

/-- The dictionaries hold the tables of the last loaded database. The pages of a loader ask them for
patterns and stocks, and its own database, as it is now, for hits and candles. -/
theorem pages_of_loader (E : Engine) (p : Process) (before after : List Event) (e : Event)
    (connection own : String) (he : e.loads = some connection)
    (hafter : ∀ e ∈ after, e.loads = none) (files : Files) (home : HomeInput)
    (display : DisplayInput) :
    let loaded := (p.run E before).databases connection
    let now := p.run E (before ++ e :: after)
    Snapshot E loaded now.shared ∧
    (∃ hits : List Hit, hits.Nodup ∧
      (∀ hit, hit ∈ hits ↔
        Detected (now.databases own) home.markDate [some hit.pattern.patternId] hit ∧
          Requested loaded home hit.pattern.patternId) ∧
      HomeOutcome E loaded (now.databases own) home hits
        (makeHomePage E (now.databases own) now.shared home)) ∧
    DisplayOutcome E loaded files display (makeDisplayPage files now.shared display) := by
  intro loaded now
  have hsnapshot : Snapshot E loaded now.shared := snapshot_run p before he hafter
  refine ⟨hsnapshot, ?_, ?_⟩
  · exact ⟨scanned E loaded (now.databases own) home, nodup_scan, fun _ => mem_scanned,
      homeOutcome hsnapshot home⟩
  · exact displayOutcome files hsnapshot display

/-- A database without a top pattern. -/
def noTop : Database :=
  { twoStocksOnDay with
    candlePatterns := [⟨1, "CDLDOJI", "Doji", false⟩]
    nodup_patternId := by decide }

/-- Two databases, of which the first was loaded last. -/
def twoLoaders : Process :=
  Process.run storageOrder
    ⟨fun connection => if connection = "first" then twoStocks else noTop, ⟨[], []⟩, []⟩
    [.construct "second", .construct "first", .commit "third" twoStocks]

/-- A loader of the second database, which has no top pattern, finds a stock with the top pattern of
the first. -/
theorem pages_of_loader_twoLoaders :
    let home : HomeInput :=
      ⟨none, ⟨2021, 1, 1⟩, ⟨2021, 5, 20⟩, ⟨2021, 5, 20⟩, false, true⟩
    let bank : Hit := ⟨⟨1, "sh.600000", "Bank"⟩, some 100, ⟨1, "CDLDOJI", "Doji", false⟩⟩
    patternTable twoLoaders.shared "top_patterns" = .ok [⟨1, "CDLDOJI", "Doji", true⟩] ∧
      (makeHomePage storageOrder noTop twoLoaders.shared home).result = .ok () ∧
      .write (hitText bank) ∈
        inPlace .col1 (makeHomePage storageOrder noTop twoLoaders.shared home).shown := by
  intro home bank
  obtain ⟨hsnapshot, ⟨hits, -, hmem, hpage⟩, -⟩ := pages_of_loader storageOrder
    ⟨fun connection => if connection = "first" then twoStocks else noTop, ⟨[], []⟩, []⟩
    [.construct "second"] [.commit "third" twoStocks] (.construct "first") "first" "second" rfl
    (by simp [Event.loads]) ⟨"", ""⟩ home ⟨none, false⟩
  have hpage : HomeOutcome storageOrder twoStocks noTop home hits
      (makeHomePage storageOrder noTop twoLoaders.shared home) := hpage
  have hmem : ∀ hit, hit ∈ hits ↔
      Detected noTop ⟨2021, 5, 20⟩ [some hit.pattern.patternId] hit ∧
        Requested twoStocks home hit.pattern.patternId := hmem
  have hbank : bank ∈ hits :=
    (hmem bank).mpr ⟨by simp [bank, Detected, noTop, twoStocksOnDay],
      by simp [bank, home, Requested, twoStocks]⟩
  have hknown : ∀ hit ∈ hits, known hit := by
    intro hit hhit
    obtain ⟨⟨-, -, -, p, -, -, -, m, hm, -, -, hvalue⟩, -⟩ := (hmem hit).mp hhit
    have hvalues : ∀ m ∈ noTop.stockMomentums, m.value.isSome := by decide
    rw [known, ← hvalue]
    exact hvalues m hm
  have hbullish : bank ∈ (hits.takeWhile known).filter
      (fun hit => decide (0 < hit.momentum.val)) := by
    rw [List.takeWhile_eq_self_iff.mpr hknown, List.mem_filter]
    exact ⟨hbank, by decide +kernel⟩
  refine ⟨hsnapshot.topPatterns, (hpage.result rfl).trans (if_pos hknown), ?_⟩
  rw [hpage.bullish rfl]
  exact List.mem_cons_of_mem _ (List.mem_flatMap.mpr ⟨bank, hbullish, List.mem_cons_self⟩)

/-! ### Runs of the application -/

/-- The pages of an application that keeps nothing between its runs. -/
def freshPages (E : Engine) : (String → Database) → List Event → List (Page Unit)
  | _, [] => []
  | databases, .construct _ :: events => freshPages E databases events
  | databases, .commit connection db :: events =>
    freshPages E (Function.update databases connection db) events
  | databases, .visit files page home display :: events =>
    (App.run E (databases appConnection) files ⟨[], []⟩ page home display).2 ::
      freshPages E databases events

/-- A page does not depend on the tables of earlier loaders. -/
lemma run_page_congr (E : Engine) (db : Database) (files : Files) (shared shared' : Shared)
    (page : String) (home : HomeInput) (display : DisplayInput) :
    (App.run E db files shared page home display).2 =
      (App.run E db files shared' page home display).2 := by
  have h := snapshot_init E db shared
  have h' := snapshot_init E db shared'
  unfold App.run
  dsimp only
  congr 1
  funext _
  split
  · exact (makeHomePage_eq db h home).trans (makeHomePage_eq db h' home).symm
  · split
    · exact (makeDisplayPage_eq files h display).trans (makeDisplayPage_eq files h' display).symm
    · rfl

/-- Through any history, the application shows the pages of one that keeps nothing. -/
theorem pages_run (E : Engine) (p : Process) (events : List Event) :
    (p.run E events).pages = p.pages ++ freshPages E p.databases events := by
  induction events generalizing p with
  | nil => exact (List.append_nil _).symm
  | cons e events ih =>
    rw [Process.run_cons, ih]
    cases e with
    | construct connection => rfl
    | commit connection db => rfl
    | visit files page home display =>
      rw [freshPages, run_page_congr E _ files ⟨[], []⟩ p.shared]
      exact List.append_assoc _ _ _

end StockApp.Proofs
