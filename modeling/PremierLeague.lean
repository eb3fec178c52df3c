import PremierLeague.Library.ExactFloat
import PremierLeague.Library.Series
import PremierLeague.Library.Fibers
import PremierLeague.Library.DenseRank
import PremierLeague.Library.Records
import PremierLeague.Library.Concat
import PremierLeague.Library.Text
import PremierLeague.Library.Pooling
import PremierLeague.Library.Reductions
import PremierLeague.Library.Odds
import PremierLeague.Library.Ledger
import PremierLeague.Library.Script
import PremierLeague.Library.Templates
import PremierLeague.SeasonData
import PremierLeague.ReadCsvData
import PremierLeague.ResultMatrix
import PremierLeague.MainTables
import PremierLeague.TeamStats
import PremierLeague.Summaries
import PremierLeague.PlApp
import PremierLeague.DataProc
import PremierLeague.StockData
import PremierLeague.StockApp
import PremierLeague.Proofs.LoadSelect
import PremierLeague.Proofs.Tables
import PremierLeague.Proofs.Mirror
import PremierLeague.Proofs.Views
import PremierLeague.Proofs.PackedSums
import PremierLeague.Proofs.OverallTable
import PremierLeague.Proofs.DefinedAverages
import PremierLeague.Proofs.ShotRatios
import PremierLeague.Proofs.TeamStats
import PremierLeague.Proofs.Ranking
import PremierLeague.Proofs.League
import PremierLeague.Proofs.Positions
import PremierLeague.Proofs.Dominance
import PremierLeague.Proofs.Conservation
import PremierLeague.Proofs.ResultMatrix
import PremierLeague.Proofs.MatrixEncoding
import PremierLeague.Proofs.Improvement
import PremierLeague.Proofs.Locality
import PremierLeague.Proofs.GoalSpread
import PremierLeague.Proofs.ZeroCounts
import PremierLeague.Proofs.WinningOdds
import PremierLeague.Proofs.FairOdds
import PremierLeague.Proofs.StatBounds
import PremierLeague.Proofs.SummaryMirror
import PremierLeague.Proofs.OrderIndependence
import PremierLeague.Proofs.HeadToHead
import PremierLeague.Proofs.WeightedTotals
import PremierLeague.Proofs.MatrixCounts
import PremierLeague.Proofs.SeasonFiles
import PremierLeague.Proofs.Pages
import PremierLeague.Proofs.PatternScan
import PremierLeague.Proofs.StockPages
import PremierLeague.Proofs.StockDisplay
import PremierLeague.Proofs.StockLoaders
import PremierLeague.Proofs.PointsRange
import PremierLeague.Proofs.Stability
import PremierLeague.Proofs.Renaming
import PremierLeague.Proofs.SeasonPages
import PremierLeague.Proofs.StoredTables
