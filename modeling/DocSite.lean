import DocSite.Blog.Block
import DocSite.Blog.Dataset
import DocSite.Blog.Post
import DocSite.Blog.Store
import DocSite.Command.Arguments
import DocSite.Command.Help
import DocSite.Command.Run
import DocSite.Command.Spec
import DocSite.Content.Document
import DocSite.Content.Frontmatter
import DocSite.Content.Link
import DocSite.Content.Shelf
import DocSite.Content.Slug
import DocSite.Content.Source
import DocSite.Css.Calc
import DocSite.Css.Color
import DocSite.Css.ColorValue
import DocSite.Css.Document
import DocSite.Css.FontFace
import DocSite.Css.Image
import DocSite.Css.Loose
import DocSite.Css.Node
import DocSite.Css.Position
import DocSite.Css.Property.Alignment
import DocSite.Css.Property.Background
import DocSite.Css.Property.Basic
import DocSite.Css.Property.Border
import DocSite.Css.Property.Box
import DocSite.Css.Property.Effect
import DocSite.Css.Property.Font
import DocSite.Css.Property.Grid
import DocSite.Css.Property.Motion
import DocSite.Css.Property.Table
import DocSite.Css.Property.Transform
import DocSite.Css.Property.Writing
import DocSite.Css.Quantity
import DocSite.Css.Query
import DocSite.Css.Reader
import DocSite.Css.Registration
import DocSite.Css.Rule
import DocSite.Css.Selector
import DocSite.Css.Spelling
import DocSite.Css.Stylesheet
import DocSite.Decimal.Binary64
import DocSite.Decimal.Elementary
import DocSite.Decimal.Shortest
import DocSite.Files.Access
import DocSite.Files.Change
import DocSite.Files.Disk
import DocSite.Files.Path
import DocSite.Html.Escape
import DocSite.Json.Basic
import DocSite.Json.Printer
import DocSite.Json.Reader
import DocSite.Json.Token
import DocSite.Main
import DocSite.Markdown.Basic
import DocSite.Markdown.BlockReader
import DocSite.Markdown.Container
import DocSite.Markdown.Cursor
import DocSite.Markdown.Definition
import DocSite.Markdown.Document
import DocSite.Markdown.Emphasis
import DocSite.Markdown.Entity
import DocSite.Markdown.EntityTable
import DocSite.Markdown.Event
import DocSite.Markdown.Html
import DocSite.Markdown.InlineReader
import DocSite.Markdown.Leaf
import DocSite.Markdown.Line
import DocSite.Markdown.Link
import DocSite.Markdown.Passage
import DocSite.Markdown.RawHtml
import DocSite.Markdown.Render
import DocSite.Markdown.Token
import DocSite.Nav.Catalog
import DocSite.Nav.Config
import DocSite.Nav.Sidebar
import DocSite.Proofs.Blog.Dataset
import DocSite.Proofs.Blog.Segment
import DocSite.Proofs.Blog.Store
import DocSite.Proofs.Content.Candidate
import DocSite.Proofs.Content.Dissection
import DocSite.Proofs.Content.Frontmatter
import DocSite.Proofs.Content.Mount
import DocSite.Proofs.Content.Outbound
import DocSite.Proofs.Content.Sources
import DocSite.Proofs.Files.Deposit
import DocSite.Proofs.Files.Folders
import DocSite.Proofs.Files.Lookup
import DocSite.Proofs.Files.Names
import DocSite.Proofs.Files.Repeat
import DocSite.Proofs.Files.Seen
import DocSite.Proofs.Files.Shape
import DocSite.Proofs.Files.Way
import DocSite.Proofs.Files.Write
import DocSite.Proofs.Html.Outline
import DocSite.Proofs.Html.Reading
import DocSite.Proofs.Html.Reference
import DocSite.Proofs.Html.Runs
import DocSite.Proofs.Html.Tags
import DocSite.Proofs.Json.Reader
import DocSite.Proofs.Json.Spelling
import DocSite.Proofs.Markdown.Anchors
import DocSite.Proofs.Markdown.Descriptions
import DocSite.Proofs.Markdown.Images
import DocSite.Proofs.Markdown.Nesting
import DocSite.Proofs.Markdown.Payload
import DocSite.Proofs.Markdown.Pieces
import DocSite.Proofs.Markdown.Tags
import DocSite.Proofs.Nav.Faults
import DocSite.Proofs.Nav.Index
import DocSite.Proofs.Nav.ReadingOrder
import DocSite.Proofs.Nav.Sidebar
import DocSite.Proofs.Nav.Slug
import DocSite.Proofs.Server.Assets
import DocSite.Proofs.Server.Delivery
import DocSite.Proofs.Server.Fresh
import DocSite.Proofs.Server.Hub
import DocSite.Proofs.Server.Links
import DocSite.Proofs.Server.PathCode
import DocSite.Proofs.Server.Posts
import DocSite.Proofs.Server.Probe
import DocSite.Proofs.Server.Quiet
import DocSite.Proofs.Server.Reload
import DocSite.Proofs.Server.Route
import DocSite.Proofs.Site.Account
import DocSite.Proofs.Site.Assets
import DocSite.Proofs.Site.Docs
import DocSite.Proofs.Site.Frame
import DocSite.Proofs.Site.Order
import DocSite.Proofs.Site.Pages
import DocSite.Proofs.Site.Rebuild
import DocSite.Proofs.Site.Scaffold
import DocSite.Proofs.Site.Sitemap
import DocSite.Proofs.Site.Work
import DocSite.Proofs.Tag.Article
import DocSite.Proofs.Tag.Cards
import DocSite.Proofs.Tag.Complete
import DocSite.Proofs.Tag.Leftmost
import DocSite.Proofs.Tag.Prose
import DocSite.Proofs.Tag.Scan
import DocSite.Proofs.Tag.Settle
import DocSite.Proofs.Text.Inert
import DocSite.Proofs.Text.Search
import DocSite.Proofs.Text.Split
import DocSite.Proofs.Text.Trim
import DocSite.Proofs.View.Alike
import DocSite.Proofs.View.Blog
import DocSite.Proofs.View.Contents
import DocSite.Proofs.View.Forms
import DocSite.Proofs.View.Pages
import DocSite.Proofs.View.Pieces
import DocSite.Proofs.View.Places
import DocSite.Proofs.View.Shape
import DocSite.Proofs.View.Values
import DocSite.Proofs.Xml.Document
import DocSite.Server.Address
import DocSite.Server.Audience
import DocSite.Server.ByteRange
import DocSite.Server.Development
import DocSite.Server.Folder
import DocSite.Server.Http
import DocSite.Server.Live
import DocSite.Server.MediaTable
import DocSite.Server.MediaType
import DocSite.Server.Moment
import DocSite.Server.Operation
import DocSite.Server.Preview
import DocSite.Server.Reload
import DocSite.Server.Route
import DocSite.Server.Target
import DocSite.Server.Watcher
import DocSite.Site.Build
import DocSite.Site.Index
import DocSite.Site.Log
import DocSite.Site.Look
import DocSite.Site.Scaffold
import DocSite.Site.Settings
import DocSite.Site.Starter
import DocSite.Site.Work
import DocSite.Tag.Card
import DocSite.Tag.Element
import DocSite.Tag.Expand
import DocSite.Text.Basic
import DocSite.Text.Blank
import DocSite.Text.Bytes
import DocSite.Text.CaseFold
import DocSite.Text.Digit
import DocSite.Text.Punctuation
import DocSite.Text.Visible
import DocSite.Toml.Basic
import DocSite.Toml.Reader
import DocSite.Toml.Scalar
import DocSite.Toml.Section
import DocSite.View.Page
import DocSite.View.Renderer
import DocSite.View.Template
import DocSite.View.Value
