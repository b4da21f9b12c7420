import DocumentSearch.Json.Parser
import DocumentSearch.Text.Utf8.Lemmas
import DocumentSearch.Schema.Draft
import DocumentSearch.Schema.Builder
import DocumentSearch.Filter.Document
import DocumentSearch.Session.Request
import DocumentSearch.Proofs.Filter.Compilation
import DocumentSearch.Proofs.Filter.Meaning
import DocumentSearch.Proofs.Schema.Tree
import DocumentSearch.Proofs.Schema.Preorder
import DocumentSearch.Proofs.Command.Legible
import DocumentSearch.Proofs.Command.Definition
import DocumentSearch.Proofs.Command.Search
import DocumentSearch.Proofs.Command.Dialect
import DocumentSearch.Proofs.Command.Assembly
import DocumentSearch.Proofs.Filter.Alternatives
import DocumentSearch.Proofs.Reply.Rebuild
import DocumentSearch.Proofs.Schema.RoundTrip
import DocumentSearch.Proofs.Schema.Lookup
import DocumentSearch.Proofs.Filter.Validation
import DocumentSearch.Proofs.Session.Search
import DocumentSearch.Proofs.Filter.Provenance
import DocumentSearch.Proofs.Session.Incomplete
import DocumentSearch.Proofs.Filter.Document
import DocumentSearch.Proofs.Session.Refusal
import DocumentSearch.Proofs.Session.Run
import DocumentSearch.Proofs.Resp.Spelling
import DocumentSearch.Proofs.Resp.ErrorText
import DocumentSearch.Proofs.Schema.Recovery
import DocumentSearch.Proofs.Filter.Operands
import DocumentSearch.Proofs.Reply.Description
import DocumentSearch.Proofs.Session.Reconciliation
import DocumentSearch.Proofs.Schema.Grammar
import DocumentSearch.Proofs.Reply.WholeDocument
import DocumentSearch.Proofs.Reply.ReadBack
import DocumentSearch.Proofs.Reply.Hits
import DocumentSearch.Proofs.Reply.Count
import DocumentSearch.Proofs.Filter.Grouping
import DocumentSearch.Proofs.Filter.FirstFault
import DocumentSearch.Proofs.Schema.Builder
import DocumentSearch.Proofs.Schema.KeyCheck
