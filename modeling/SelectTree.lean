import SelectTree.Edit.Session
import SelectTree.Edit.Settings
import SelectTree.Proofs.Names
import SelectTree.Proofs.Resolution
import SelectTree.Proofs.Compression
import SelectTree.Proofs.Recompression
import SelectTree.Proofs.Sources
import SelectTree.Proofs.AddedColumns
import SelectTree.Proofs.PrunedTables
import SelectTree.Proofs.NeededTables
import SelectTree.Proofs.Predicates
import SelectTree.Proofs.RemovedColumns
import SelectTree.Proofs.Qualifiers
import SelectTree.Proofs.Readback
import SelectTree.Proofs.Lexing
import SelectTree.Proofs.Numerals
import SelectTree.Proofs.Parsing
import SelectTree.Proofs.OperandNames
import SelectTree.Proofs.Operands
import SelectTree.Proofs.Phrases
import SelectTree.Proofs.PhraseReading
import SelectTree.Proofs.PredicateReading
import SelectTree.Proofs.ColumnReading
import SelectTree.Proofs.ConjunctionReading
import SelectTree.Proofs.ConditionReading
import SelectTree.Proofs.ItemReading
import SelectTree.Proofs.FactorReading
import SelectTree.Proofs.JoinReading
import SelectTree.Proofs.QueryReading
import SelectTree.Proofs.ChainReading
import SelectTree.Proofs.PlainTrees
import SelectTree.Proofs.TreeReading
import SelectTree.Proofs.Filters
import SelectTree.Proofs.Runs
import SelectTree.Proofs.FailedRequests
import SelectTree.Proofs.Validity
import SelectTree.Proofs.Ledger
import SelectTree.Proofs.NaturalChains
import SelectTree.Proofs.Scanning
import SelectTree.Proofs.LoneNames
import SelectTree.Proofs.TableTokens
import SelectTree.Proofs.ReadChains
import SelectTree.Proofs.GrownQueries
import SelectTree.Proofs.SuppliedColumns
import SelectTree.Proofs.JoinFrame
import SelectTree.Proofs.ListedItems
import SelectTree.Proofs.StarredRuns
import SelectTree.Proofs.PlainIdentifiers
import SelectTree.Proofs.SessionReadback
import SelectTree.Proofs.RemovalOrder
import SelectTree.Proofs.EscapedTexts
import SelectTree.Proofs.LeadingOperands
import SelectTree.Proofs.LeadingTests
import SelectTree.Proofs.QuotedValues
import SelectTree.Proofs.FreeSources
import SelectTree.Proofs.DraggedColumns
import SelectTree.Proofs.Restriction
import SelectTree.Proofs.NameTokens
import SelectTree.Proofs.UndoneJoins
import SelectTree.Proofs.JoinedLeaves
import SelectTree.Proofs.LooseTables
import SelectTree.Proofs.StuckTables
import SelectTree.Proofs.DroppedTests
import SelectTree.Proofs.SortKeys
import SelectTree.Proofs.WordChains
import SelectTree.Proofs.NestedCalls
import SelectTree.Proofs.PrunedTests
import SelectTree.Proofs.ConnectiveReading
import SelectTree.Proofs.ReadConditions
import SelectTree.Proofs.ReadSources
import SelectTree.Proofs.ParsedShapes
import SelectTree.Proofs.LoneParentheses
import SelectTree.Proofs.RefusedSources
import SelectTree.Proofs.EditedJoins
import SelectTree.Proofs.HiddenStars
import SelectTree.Proofs.ValueKinds
import SelectTree.Proofs.ShownFilters
import SelectTree.Proofs.NumberTokens
import SelectTree.Proofs.SignedNumbers
import SelectTree.Proofs.SplitConditions
import SelectTree.Proofs.PrintedNumbers
import SelectTree.Proofs.HiddenTables
import SelectTree.Proofs.KeptCalls
import SelectTree.Proofs.ErrorPlaces
import SelectTree.Proofs.LastParts
import SelectTree.Proofs.RebuiltChains
import SelectTree.Proofs.WrittenQueries
import SelectTree.Proofs.LostClauses
import SelectTree.Proofs.FilledNames
import SelectTree.Proofs.FilledSyntax
import SelectTree.Proofs.FilledTypes
import SelectTree.Proofs.FilledOperands
import SelectTree.Proofs.FilledSources
import SelectTree.Proofs.FilledQueries
import SelectTree.Proofs.FilledTexts
import SelectTree.Proofs.MalformedTrees
