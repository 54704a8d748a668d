import Gleaner.Css.Basic
import Gleaner.Css.Matching
import Gleaner.Css.Parse
import Gleaner.Css.Token
import Gleaner.Decimal.Binary64
import Gleaner.Decimal.Scan
import Gleaner.Decimal.Shortest
import Gleaner.Digest.Md5
import Gleaner.Domain.Composition
import Gleaner.Domain.Mapping
import Gleaner.Domain.Name
import Gleaner.Domain.Punycode
import Gleaner.Domain.Script
import Gleaner.Extraction.Assemble
import Gleaner.Extraction.Candidates
import Gleaner.Extraction.Description
import Gleaner.Extraction.Fields
import Gleaner.Extraction.Rows
import Gleaner.Harvest.Archive
import Gleaner.Harvest.Command
import Gleaner.Harvest.Config
import Gleaner.Harvest.Environment
import Gleaner.Harvest.Folders
import Gleaner.Harvest.Listing
import Gleaner.Harvest.Pass
import Gleaner.Harvest.Shelf
import Gleaner.Harvest.Store
import Gleaner.Harvest.Task
import Gleaner.Json.Basic
import Gleaner.Json.Lex
import Gleaner.Json.Parse
import Gleaner.Json.Print
import Gleaner.Main
import Gleaner.Markup.Arena
import Gleaner.Markup.Arrangement
import Gleaner.Markup.Builder
import Gleaner.Markup.Doctype
import Gleaner.Markup.Element
import Gleaner.Markup.Entity
import Gleaner.Markup.Media
import Gleaner.Markup.Node
import Gleaner.Markup.Parse
import Gleaner.Markup.Reference
import Gleaner.Markup.Rules.Body
import Gleaner.Markup.Rules.Foreign
import Gleaner.Markup.Rules.Head
import Gleaner.Markup.Rules.Other
import Gleaner.Markup.Rules.Table
import Gleaner.Markup.Serialize
import Gleaner.Markup.Token
import Gleaner.Product.Codec
import Gleaner.Product.Page
import Gleaner.Product.Query
import Gleaner.Product.Record
import Gleaner.Proofs.Css.Scope
import Gleaner.Proofs.Decimal.Finds
import Gleaner.Proofs.Decimal.Fixed
import Gleaner.Proofs.Decimal.Form
import Gleaner.Proofs.Decimal.Listed
import Gleaner.Proofs.Decimal.Number
import Gleaner.Proofs.Decimal.Seam
import Gleaner.Proofs.Extraction.Candidates
import Gleaner.Proofs.Extraction.Passages
import Gleaner.Proofs.Extraction.Prices
import Gleaner.Proofs.Extraction.Rows
import Gleaner.Proofs.Harvest.Accounts
import Gleaner.Proofs.Harvest.Asking
import Gleaner.Proofs.Harvest.Calls
import Gleaner.Proofs.Harvest.Convergence
import Gleaner.Proofs.Harvest.Deliveries
import Gleaner.Proofs.Harvest.Ledger
import Gleaner.Proofs.Harvest.Reading
import Gleaner.Proofs.Harvest.Revisits
import Gleaner.Proofs.Harvest.Shelf
import Gleaner.Proofs.Harvest.Steady
import Gleaner.Proofs.Json.ReadBack
import Gleaner.Proofs.Markup.Address
import Gleaner.Proofs.Markup.Arrangement
import Gleaner.Proofs.Markup.EndTags
import Gleaner.Proofs.Markup.Escape
import Gleaner.Proofs.Markup.Mentions
import Gleaner.Proofs.Markup.Reading
import Gleaner.Proofs.Product.Codec
import Gleaner.Proofs.Product.MediaFiles
import Gleaner.Proofs.Product.MediaFixed
import Gleaner.Proofs.Product.MediaUrl
import Gleaner.Proofs.Selector.Acceptance
import Gleaner.Proofs.Selector.Canonical
import Gleaner.Proofs.Selector.Cutting
import Gleaner.Proofs.Selector.Distinct
import Gleaner.Proofs.Selector.Mapping
import Gleaner.Proofs.Selector.Marks
import Gleaner.Proofs.Selector.Pieces
import Gleaner.Proofs.Selector.Route
import Gleaner.Proofs.Selector.Unbalanced
import Gleaner.Proofs.Selector.Written
import Gleaner.Proofs.Store.Parts
import Gleaner.Proofs.Store.Recall
import Gleaner.Proofs.Template.Columns
import Gleaner.Proofs.Template.Lookup
import Gleaner.Proofs.Template.Merging
import Gleaner.Proofs.Tree.Cascade
import Gleaner.Proofs.Tree.Cursor
import Gleaner.Proofs.Tree.Data
import Gleaner.Proofs.Tree.Emptiness
import Gleaner.Proofs.Tree.Gathering
import Gleaner.Proofs.Tree.Hits
import Gleaner.Proofs.Tree.Names
import Gleaner.Proofs.Tree.Overtaking
import Gleaner.Proofs.Tree.Page
import Gleaner.Proofs.Tree.Stops
import Gleaner.Proofs.Web.Endpoint
import Gleaner.Proofs.Web.OrderLink
import Gleaner.Selector.Basic
import Gleaner.Selector.Nesting
import Gleaner.Selector.Parse
import Gleaner.Selector.Position
import Gleaner.Selector.Resolve
import Gleaner.Template.Basic
import Gleaner.Template.Registry
import Gleaner.Template.Table
import Gleaner.Text.Blank
import Gleaner.Text.Cut
import Gleaner.Text.Decimal
import Gleaner.Text.Hex
import Gleaner.Text.Letter
import Gleaner.Text.Number
import Gleaner.Text.Printable
import Gleaner.Text.Quoted
import Gleaner.Text.RangeTable
import Gleaner.Text.Utf8
import Gleaner.Time.Date
import Gleaner.Time.Moment
import Gleaner.Tree.Cursor
import Gleaner.Tree.Data
import Gleaner.Tree.Page
import Gleaner.Url.Address
import Gleaner.Url.Basic
import Gleaner.Url.Encode
import Gleaner.Url.Parse
import Gleaner.Url.Path
import Gleaner.Web.Charset
import Gleaner.Web.Endpoint
import Gleaner.Web.Fetch
import Gleaner.Web.OrderLink
import Gleaner.Web.Request
import Gleaner.Web.Status
