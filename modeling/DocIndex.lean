import DocIndex.Main
import DocIndex.Proofs.Snapshot.Lexeme
import DocIndex.Proofs.Snapshot.Reading
import DocIndex.Proofs.Snapshot.Acceptance
import DocIndex.Proofs.Snapshot.RoundTrip
import DocIndex.Markup.Reader
import DocIndex.Proofs.Markup.Session
import DocIndex.Proofs.Markup.Shift
import DocIndex.Proofs.Page.Extraction
import DocIndex.Proofs.Markup.Reference
import DocIndex.Proofs.Markup.Tag
import DocIndex.Proofs.Markup.Writing
import DocIndex.Proofs.Markup.Splitting
import DocIndex.Proofs.Page.Accounting
import DocIndex.Proofs.Snapshot.Tearing
import DocIndex.Proofs.Page.Storing
import DocIndex.Proofs.Service.Reloading
import DocIndex.Proofs.Service.Sharing
import DocIndex.Proofs.Markup.Omission
import DocIndex.Proofs.Page.Written
import DocIndex.Proofs.Snapshot.Recognition
import DocIndex.Proofs.Page.Order
import DocIndex.Proofs.Markup.TagBody
import DocIndex.Proofs.Markup.StrayQuote
import DocIndex.Proofs.Markup.LastSlash
import DocIndex.Proofs.Summary
import DocIndex.Proofs.Markup.RawText
import DocIndex.Proofs.Object.Plain
import DocIndex.Proofs.Object.Label
import DocIndex.Proofs.Object.Quoting
import DocIndex.Proofs.Store.Querying
import DocIndex.Proofs.Object.Literal
import DocIndex.Proofs.Markup.Spelling
import DocIndex.Proofs.Markup.Verbatim
import DocIndex.Proofs.Markup.AttributeForms
import DocIndex.Proofs.Heading
import DocIndex.Proofs.Markup.Uncommented
import DocIndex.Proofs.Markup.Replacing
import DocIndex.Proofs.Page.Comment
import DocIndex.Proofs.Markup.Nesting
import DocIndex.Proofs.Snapshot.Joining
import DocIndex.Proofs.Root
import DocIndex.Proofs.Page.OneLine
import DocIndex.Proofs.Store.Duplicates
import DocIndex.Proofs.Snapshot.Quoting
import DocIndex.Proofs.DocumentOrder
