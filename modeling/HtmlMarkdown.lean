import HtmlMarkdown.Convert.Block
import HtmlMarkdown.Convert.Error
import HtmlMarkdown.Convert.Fragment
import HtmlMarkdown.Convert.Inline
import HtmlMarkdown.Convert.Options
import HtmlMarkdown.Convert.Render
import HtmlMarkdown.Convert.Resolve
import HtmlMarkdown.Convert.Rule
import HtmlMarkdown.Convert.Service
import HtmlMarkdown.Convert.Table
import HtmlMarkdown.Convert.Whitespace
import HtmlMarkdown.Markup.Block
import HtmlMarkdown.Markup.Cursor
import HtmlMarkdown.Markup.Domain
import HtmlMarkdown.Markup.Entity
import HtmlMarkdown.Markup.EntityNames
import HtmlMarkdown.Markup.Html.AfterBody
import HtmlMarkdown.Markup.Html.Body
import HtmlMarkdown.Markup.Html.Builder
import HtmlMarkdown.Markup.Html.Document
import HtmlMarkdown.Markup.Html.Element
import HtmlMarkdown.Markup.Html.Head
import HtmlMarkdown.Markup.Html.Lexer
import HtmlMarkdown.Markup.Html.Parse
import HtmlMarkdown.Markup.Html.Reference
import HtmlMarkdown.Markup.Html.Select
import HtmlMarkdown.Markup.Html.Table
import HtmlMarkdown.Markup.Html.Token
import HtmlMarkdown.Markup.Html.Tree
import HtmlMarkdown.Markup.Node
import HtmlMarkdown.Markup.Punycode
import HtmlMarkdown.Markup.Shield
import HtmlMarkdown.Markup.Url
import HtmlMarkdown.Pattern.CharClass
import HtmlMarkdown.Pattern.Program
import HtmlMarkdown.Pattern.Property
import HtmlMarkdown.Pattern.Reader
import HtmlMarkdown.Pattern.Search
import HtmlMarkdown.Pattern.Size
import HtmlMarkdown.Pattern.Syntax
import HtmlMarkdown.Text.Bidi
import HtmlMarkdown.Text.BinaryProperty
import HtmlMarkdown.Text.CaseFold
import HtmlMarkdown.Text.Category
import HtmlMarkdown.Text.Chunk
import HtmlMarkdown.Text.CodePoints
import HtmlMarkdown.Text.Error
import HtmlMarkdown.Text.Escape
import HtmlMarkdown.Text.IdnaMapping
import HtmlMarkdown.Text.Joining
import HtmlMarkdown.Text.Layout
import HtmlMarkdown.Text.Lines
import HtmlMarkdown.Text.Lower
import HtmlMarkdown.Text.Replace
import HtmlMarkdown.Text.Rest
import HtmlMarkdown.Text.Script
import HtmlMarkdown.Text.ScriptExtensions
import HtmlMarkdown.Text.Shortcode
import HtmlMarkdown.Text.Utf8
import HtmlMarkdown.Text.White
import HtmlMarkdown.Text.WordClass
import HtmlMarkdown.Text.Wrap
import HtmlMarkdown.Proofs.Chunking
import HtmlMarkdown.Proofs.Layout
import HtmlMarkdown.Proofs.Rewrap
import HtmlMarkdown.Proofs.InlineSpans
import HtmlMarkdown.Proofs.FirstFailure
import HtmlMarkdown.Proofs.TreeShape
import HtmlMarkdown.Proofs.LineWidth
import HtmlMarkdown.Proofs.PlainText
import HtmlMarkdown.Proofs.SourceBlanks
import HtmlMarkdown.Proofs.LineLength
import HtmlMarkdown.Proofs.DepthGuard
import HtmlMarkdown.Proofs.ParsedText
import HtmlMarkdown.Proofs.Padding
import HtmlMarkdown.Proofs.PaddedConversion
import HtmlMarkdown.Proofs.BlankBetweenBlocks
import HtmlMarkdown.Proofs.LooseItems
import HtmlMarkdown.Proofs.RegistrySession
import HtmlMarkdown.Proofs.FirstFit
import HtmlMarkdown.Proofs.ChunkSpacing
import HtmlMarkdown.Proofs.BlankLines
import HtmlMarkdown.Proofs.Readings
import HtmlMarkdown.Proofs.EscapedAsterisks
import HtmlMarkdown.Proofs.EmphasisDelimiters
import HtmlMarkdown.Proofs.CodeReading
import HtmlMarkdown.Proofs.PipeTables
import HtmlMarkdown.Proofs.EmphasisRuns
import HtmlMarkdown.Proofs.LineStarts
import HtmlMarkdown.Proofs.LinkBrackets
import HtmlMarkdown.Proofs.Unnesting
import HtmlMarkdown.Proofs.UnnestedConversion
import HtmlMarkdown.Proofs.StackDepth
import HtmlMarkdown.Proofs.PreorderSearch
import HtmlMarkdown.Proofs.EncodedTargets
import HtmlMarkdown.Proofs.ChunkContent
