import MessageCatalog.Value.Printer
import MessageCatalog.Options.Config
import MessageCatalog.Options.Merge
import MessageCatalog.Reference.Layout
import MessageCatalog.Message
import MessageCatalog.Index
import MessageCatalog.Text.Codec
import MessageCatalog.Text.Escape
import MessageCatalog.Text.Wrap
import MessageCatalog.Catalog.Files
import MessageCatalog.Merge.Draft
import MessageCatalog.Workspace.Glob
import MessageCatalog.Workspace.Git
import MessageCatalog.Merge.Files
import MessageCatalog.Audit.Files
import MessageCatalog.Source.Lexer
import MessageCatalog.Source.Node
import MessageCatalog.Source.Statement
import MessageCatalog.Main
import MessageCatalog.Proofs.Catalog.RoundTrip
import MessageCatalog.Proofs.Merge.FixedPoint
import MessageCatalog.Proofs.Merge.Preservation
import MessageCatalog.Proofs.Merge.WriteGuard
import MessageCatalog.Proofs.Merge.Rewriting
import MessageCatalog.Proofs.CommandLine.Isolation
import MessageCatalog.Proofs.Workspace.Git
import MessageCatalog.Proofs.Merge.Atomic
import MessageCatalog.Proofs.Merge.Destination
import MessageCatalog.Proofs.Extract.Conflict
import MessageCatalog.Proofs.Extract.Order
import MessageCatalog.Proofs.Extract.Unusable
import MessageCatalog.Proofs.Merge.SourceComments
import MessageCatalog.Proofs.Merge.Keys
import MessageCatalog.Proofs.Catalog.Records
import MessageCatalog.Proofs.Merge.Batch
import MessageCatalog.Proofs.Merge.Context
import MessageCatalog.Proofs.Merge.Obsolete
import MessageCatalog.Proofs.Merge.Relayout
import MessageCatalog.Proofs.Merge.Events
import MessageCatalog.Proofs.Merge.SourceOrder
import MessageCatalog.Proofs.SortOrder.Canonical
import MessageCatalog.Proofs.Index.Answers
import MessageCatalog.Proofs.Extract.Sharing
import MessageCatalog.Proofs.Extract.PossibleTexts
import MessageCatalog.Proofs.Extract.EmptyKeys
import MessageCatalog.Proofs.Extract.KeepingComments
import MessageCatalog.Proofs.Reference.Selection
import MessageCatalog.Proofs.Reference.Grouping
import MessageCatalog.Proofs.Workspace.RelativePath
import MessageCatalog.Proofs.Audit
import MessageCatalog.Proofs.Merge.Malformed
import MessageCatalog.Proofs.Reference.Parts
import MessageCatalog.Proofs.Extract.Places
