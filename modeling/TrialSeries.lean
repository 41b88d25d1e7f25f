import TrialSeries.Json.Reader
import TrialSeries.Main
import TrialSeries.Proofs.MapLookup
import TrialSeries.Proofs.FirstBad
import TrialSeries.Proofs.NumberReading
import TrialSeries.Proofs.TextPieces
import TrialSeries.Proofs.LogFaults
import TrialSeries.Proofs.LogSections
import TrialSeries.Proofs.Grouping
import TrialSeries.Proofs.PointSeries
import TrialSeries.Proofs.VectorSeries
import TrialSeries.Proofs.ByteOrder
import TrialSeries.Proofs.SeriesFaults
import TrialSeries.Proofs.DirectAccess
import TrialSeries.Proofs.ValueCounts
import TrialSeries.Proofs.Unpacking
import TrialSeries.Proofs.SingleValues
import TrialSeries.Proofs.AlignedSeries
import TrialSeries.Proofs.Reaggregation
import TrialSeries.Proofs.TrialGroups
import TrialSeries.Proofs.MarkdownTables
import TrialSeries.Proofs.EntryLookup
import TrialSeries.Proofs.RowlessRuns
import TrialSeries.Proofs.ReportLines
import TrialSeries.Proofs.ReportSections
import TrialSeries.Proofs.JsonReading
import TrialSeries.Proofs.RunEncoding
import TrialSeries.Proofs.DirectoryWrites
import TrialSeries.Proofs.CallEndings
import TrialSeries.Proofs.ProgramEffects
import TrialSeries.Proofs.CutVectors
import TrialSeries.Proofs.CallOutcomes
import TrialSeries.Proofs.ChangedPlace
import TrialSeries.Proofs.ConfigurationEncoding
import TrialSeries.Proofs.NeutralConfiguration
import TrialSeries.Proofs.SeriesRows
import TrialSeries.Proofs.LogConcatenation
import TrialSeries.Proofs.LogLayout
import TrialSeries.Proofs.DistinctNumbers
import TrialSeries.Proofs.FieldPositions
import TrialSeries.Proofs.UndisturbedSections
import TrialSeries.Proofs.ContentsLinks
import TrialSeries.Proofs.PlainSeries
import TrialSeries.Proofs.RectangularTables
import TrialSeries.Proofs.StablePartition
import TrialSeries.Proofs.ArgumentPrecedence
import TrialSeries.Proofs.TomlIntegers
import TrialSeries.Proofs.PrecisionLimit
import TrialSeries.Proofs.SpecialValues
import TrialSeries.Proofs.AvailableStatistics
import TrialSeries.Proofs.NumberOrder
import TrialSeries.Proofs.RuleEdits
import TrialSeries.Proofs.SettingOrder
import TrialSeries.Proofs.LiteralGrammar
import TrialSeries.Proofs.NumberLists
import TrialSeries.Proofs.PathNames
