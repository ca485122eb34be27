import Folio.Main
import Folio.Site.Call
import Folio.Site.Session
import Folio.Proofs.Text.Lines
import Folio.Proofs.Blog.Order
import Folio.Proofs.Blog.Source
import Folio.Proofs.Blog.Listing
import Folio.Proofs.Blog.Draft
import Folio.Proofs.Blog.Archive
import Folio.Proofs.Blog.Cache
import Folio.Proofs.Blog.Agreement
import Folio.Proofs.Site.Lookup
import Folio.Proofs.Site.Session
import Folio.Proofs.Blog.Growth
import Folio.Proofs.Site.Growth
import Folio.Proofs.Blog.Concurrency
import Folio.Proofs.Blog.Record
import Folio.Proofs.Site.Address
import Folio.Proofs.Site.Query
import Folio.Proofs.Site.Route
import Folio.Proofs.Site.Status
import Folio.Proofs.Site.FrontEnds
import Folio.Proofs.Text.Escape
import Folio.Proofs.Site.Markup
import Folio.Proofs.Site.Document
import Folio.Proofs.Site.BlogMarkup
import Folio.Proofs.Site.Escaping
import Folio.Proofs.Site.Links
import Folio.Proofs.Content.Record
import Folio.Proofs.Feed.Links
import Folio.Proofs.Feed.Texts
import Folio.Proofs.Feed.Publish
import Folio.Proofs.Site.Records
import Folio.Proofs.Blog.Search
import Folio.Proofs.Blog.Body
import Folio.Proofs.Blog.WordSearch
import Folio.Proofs.Blog.Dates
import Folio.Proofs.Highlight.CodeBlock
import Folio.Proofs.Markdown.Fence
import Folio.Proofs.Markdown.Prose
import Folio.Proofs.Site.Article
import Folio.Proofs.Site.About
import Folio.Proofs.Site.Particles
