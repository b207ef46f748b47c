import LootFilter.Main
import LootFilter.Proofs.Filter.Concatenation
import LootFilter.Proofs.Report.Findings
import LootFilter.Proofs.Report.Renderable
import LootFilter.Proofs.Report.CatchAll
import LootFilter.Proofs.Filter.LastDirective
import LootFilter.Proofs.Report.Concatenation
import LootFilter.Proofs.Filter.Formatting
import LootFilter.Proofs.Report.Formatting
import LootFilter.Proofs.Filter.Knowledge
import LootFilter.Proofs.Filter.Rearrangement
import LootFilter.Proofs.Report.LineOrder
import LootFilter.Proofs.Condition.Display
import LootFilter.Proofs.Filter.Deletion
import LootFilter.Proofs.Filter.Relevance
import LootFilter.Proofs.Filter.Listing
import LootFilter.Proofs.Program.Assignments
import LootFilter.Proofs.Program.Failing
import LootFilter.Proofs.Report.Table
import LootFilter.Proofs.Item.Description
import LootFilter.Proofs.Terminal.WithoutInks
import LootFilter.Proofs.Program.BrokenSettings
import LootFilter.Proofs.CommandLine.Preview
import LootFilter.Proofs.Report.NumberConditions
import LootFilter.Proofs.Condition.Currency
import LootFilter.Proofs.Condition.Comparison
import LootFilter.Proofs.Report.QuotedNames
import LootFilter.Proofs.Filter.LetterCase
import LootFilter.Proofs.Report.UnquotedWords
import LootFilter.Proofs.Condition.OptionalOperator
import LootFilter.Proofs.Filter.SurroundingBlanks
import LootFilter.Proofs.Condition.QuoteScan
import LootFilter.Proofs.Report.Arguments
import LootFilter.Proofs.Terminal.Shortened
