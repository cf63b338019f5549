import HeaderAudit.Analysis
import HeaderAudit.Check.Basic
import HeaderAudit.Check.CacheControl
import HeaderAudit.Check.Catalogue
import HeaderAudit.Check.ContentType
import HeaderAudit.Check.ContentTypeOptions
import HeaderAudit.Check.Cookie
import HeaderAudit.Check.TransportSecurity
import HeaderAudit.CommandLine.Command
import HeaderAudit.CommandLine.Ending
import HeaderAudit.CommandLine.Line
import HeaderAudit.CommandLine.Option
import HeaderAudit.CommandLine.Question
import HeaderAudit.CommandLine.Reach
import HeaderAudit.CommandLine.Rules
import HeaderAudit.CommandLine.Run
import HeaderAudit.Console.Emoji
import HeaderAudit.Console.EmojiTable
import HeaderAudit.Console.Library
import HeaderAudit.Console.Markup
import HeaderAudit.Console.Paint
import HeaderAudit.Console.Panel
import HeaderAudit.Console.Print
import HeaderAudit.Console.StyleName
import HeaderAudit.Console.Styled
import HeaderAudit.Console.Table
import HeaderAudit.Console.Wrap
import HeaderAudit.Disk.Basic
import HeaderAudit.Disk.Path
import HeaderAudit.Headers
import HeaderAudit.Highlight
import HeaderAudit.Json.Basic
import HeaderAudit.Json.Reader
import HeaderAudit.Json.Writer
import HeaderAudit.Log
import HeaderAudit.Main
import HeaderAudit.Number.Binary64
import HeaderAudit.Number.Integer
import HeaderAudit.Number.Shortest
import HeaderAudit.Registry.Basic
import HeaderAudit.Registry.Notify
import HeaderAudit.Report.Document
import HeaderAudit.Report.StyledLine
import HeaderAudit.Report.Terminal
import HeaderAudit.Rule.Basic
import HeaderAudit.RuleFile.Basic
import HeaderAudit.RuleFile.Entry
import HeaderAudit.Store
import HeaderAudit.Text.Basic
import HeaderAudit.Text.Blank
import HeaderAudit.Text.CaseTable
import HeaderAudit.Text.Digit
import HeaderAudit.Text.DigitTable
import HeaderAudit.Text.FoldTable
import HeaderAudit.Text.Folding
import HeaderAudit.Text.LetterCase
import HeaderAudit.Text.PrintableTable
import HeaderAudit.Text.Quoted
import HeaderAudit.Text.Similar
import HeaderAudit.Text.Utf8
import HeaderAudit.Text.Width
import HeaderAudit.Text.WidthTable
import HeaderAudit.Url.Basic
import HeaderAudit.Url.IPv6
import HeaderAudit.Verdict
import HeaderAudit.World
import HeaderAudit.Yaml.Cursor
import HeaderAudit.Yaml.Error
import HeaderAudit.Yaml.Node
import HeaderAudit.Yaml.Reader
import HeaderAudit.Yaml.Scalar
import HeaderAudit.Yaml.Token
import HeaderAudit.Yaml.Value
import HeaderAudit.Yaml.Writer
import HeaderAudit.Proofs.AdvisoryCaching
import HeaderAudit.Proofs.Autosave
import HeaderAudit.Proofs.ChangeHistory
import HeaderAudit.Proofs.ChangedDecisions
import HeaderAudit.Proofs.CheckOrder
import HeaderAudit.Proofs.Colouring
import HeaderAudit.Proofs.CommitChain
import HeaderAudit.Proofs.CommitOrder
import HeaderAudit.Proofs.ConsultedHeaders
import HeaderAudit.Proofs.DecisiveAge
import HeaderAudit.Proofs.DiskWrites
import HeaderAudit.Proofs.EmojiNames
import HeaderAudit.Proofs.EntrySchema
import HeaderAudit.Proofs.ExitCodes
import HeaderAudit.Proofs.FaithfulReports
import HeaderAudit.Proofs.HeaderSpellings
import HeaderAudit.Proofs.IsolatedEntries
import HeaderAudit.Proofs.JsonDocuments
import HeaderAudit.Proofs.JsonSpelling
import HeaderAudit.Proofs.LeftmostAge
import HeaderAudit.Proofs.LegibleRules
import HeaderAudit.Proofs.LineOwners
import HeaderAudit.Proofs.ListedIds
import HeaderAudit.Proofs.LiteralText
import HeaderAudit.Proofs.LoadedRules
import HeaderAudit.Proofs.Lockstep
import HeaderAudit.Proofs.MalformedUrls
import HeaderAudit.Proofs.MarkupEscape
import HeaderAudit.Proofs.Notification
import HeaderAudit.Proofs.OtherListeners
import HeaderAudit.Proofs.OverlongValues
import HeaderAudit.Proofs.PaintedRuns
import HeaderAudit.Proofs.PairedHeaders
import HeaderAudit.Proofs.Passes
import HeaderAudit.Proofs.PrintableYaml
import HeaderAudit.Proofs.PrintedDocuments
import HeaderAudit.Proofs.PrintedTables
import HeaderAudit.Proofs.PrintedTexts
import HeaderAudit.Proofs.ReadingRuns
import HeaderAudit.Proofs.ResponseHeads
import HeaderAudit.Proofs.RuleCommands
import HeaderAudit.Proofs.RuleFileRoundTrip
import HeaderAudit.Proofs.RuleIds
import HeaderAudit.Proofs.RuleLedger
import HeaderAudit.Proofs.RuleListing
import HeaderAudit.Proofs.RuleRuns
import HeaderAudit.Proofs.RuleWords
import HeaderAudit.Proofs.RunLength
import HeaderAudit.Proofs.ScalarFaults
import HeaderAudit.Proofs.SecureCookies
import HeaderAudit.Proofs.ShownMarkup
import HeaderAudit.Proofs.ShownReports
import HeaderAudit.Proofs.StyledSpans
import HeaderAudit.Proofs.Suppression
import HeaderAudit.Proofs.SurvivingOwners
import HeaderAudit.Proofs.UnknownIds
import HeaderAudit.Proofs.UntrustedText
import HeaderAudit.Proofs.UrlParts
import HeaderAudit.Proofs.Utf8Decoding
import HeaderAudit.Proofs.WrappedStyles
import HeaderAudit.Proofs.WrittenRules
