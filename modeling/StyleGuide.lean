import StyleGuide.Command.Arguments
import StyleGuide.Command.Run
import StyleGuide.Config.Expansion
import StyleGuide.Config.Loading
import StyleGuide.Config.Settings
import StyleGuide.Disk
import StyleGuide.Engine.Accessors
import StyleGuide.Engine.OnDisk
import StyleGuide.Engine.Stage
import StyleGuide.Files
import StyleGuide.Fragments.FileList
import StyleGuide.Fragments.Pattern
import StyleGuide.Fragments.Reading
import StyleGuide.Fragments.Search
import StyleGuide.Imports.Comments
import StyleGuide.Imports.Context
import StyleGuide.Imports.Scan
import StyleGuide.Imports.Statement
import StyleGuide.Imports.Target
import StyleGuide.Imports.Tree
import StyleGuide.Main
import StyleGuide.Markdown.Block
import StyleGuide.Markdown.Document
import StyleGuide.Markdown.Emphasis
import StyleGuide.Markdown.Entity
import StyleGuide.Markdown.Html
import StyleGuide.Markdown.Inline
import StyleGuide.Markdown.Line
import StyleGuide.Markdown.Link
import StyleGuide.Markdown.NamedCharacter
import StyleGuide.Options
import StyleGuide.Page.Layout
import StyleGuide.Page.Snippets
import StyleGuide.Path
import StyleGuide.Render.CodeBlock
import StyleGuide.Render.Event
import StyleGuide.Render.Renderer
import StyleGuide.Sass.Color
import StyleGuide.Sass.Compiler
import StyleGuide.Sass.Css
import StyleGuide.Sass.Decimal
import StyleGuide.Sass.Evaluation
import StyleGuide.Sass.Expr
import StyleGuide.Sass.Fault
import StyleGuide.Sass.Indentation
import StyleGuide.Sass.Lookup
import StyleGuide.Sass.MediaQuery
import StyleGuide.Sass.Outline
import StyleGuide.Sass.Selector
import StyleGuide.Sass.Sheet
import StyleGuide.Sass.Value
import StyleGuide.Template.Filter
import StyleGuide.Template.Rendering
import StyleGuide.Template.Token
import StyleGuide.Template.Tree
import StyleGuide.Template.Value
import StyleGuide.Text.Find
import StyleGuide.Text.FoldTable
import StyleGuide.Text.Letter
import StyleGuide.Text.LetterTable
import StyleGuide.Text.Markup
import StyleGuide.Text.PunctuationTable
import StyleGuide.Text.Slug
import StyleGuide.Text.Split
import StyleGuide.Text.UpperTable
import StyleGuide.Text.Utf8
import StyleGuide.Toml.Document
import StyleGuide.Toml.Item
import StyleGuide.Toml.Quoted
import StyleGuide.Toml.Scalar
import StyleGuide.Proofs.Engine.Journal
import StyleGuide.Proofs.Engine.Stages
import StyleGuide.Proofs.Engine.Course
import StyleGuide.Proofs.Engine.Coherence
import StyleGuide.Proofs.Engine.Memoization
import StyleGuide.Proofs.Engine.Resumption
import StyleGuide.Proofs.Imports.Graph
import StyleGuide.Proofs.Imports.Listing
import StyleGuide.Proofs.Imports.Loops
import StyleGuide.Proofs.Imports.Depth
import StyleGuide.Proofs.Imports.Reentry
import StyleGuide.Proofs.Render.Anchors
import StyleGuide.Proofs.Engine.Assembly
import StyleGuide.Proofs.Engine.Steadiness
import StyleGuide.Proofs.Imports.Subtrees
import StyleGuide.Proofs.Imports.Grammar
import StyleGuide.Proofs.Imports.Stripping
import StyleGuide.Proofs.Imports.Extraction
import StyleGuide.Proofs.Imports.Contents
import StyleGuide.Proofs.Disk.Walking
import StyleGuide.Proofs.Fragments.Matching
import StyleGuide.Proofs.Fragments.Reaching
import StyleGuide.Proofs.Fragments.OwnFragment
import StyleGuide.Proofs.Disk.Changing
import StyleGuide.Proofs.Command.Building
import StyleGuide.Proofs.Render.Html
import StyleGuide.Proofs.Render.PlainSlugs
import StyleGuide.Proofs.Render.Trees
import StyleGuide.Proofs.Render.Inserting
import StyleGuide.Proofs.Render.Nesting
import StyleGuide.Proofs.Render.Streaming
import StyleGuide.Proofs.Render.Documents
import StyleGuide.Proofs.Render.Lockstep
import StyleGuide.Proofs.Imports.IndentedGrammar
import StyleGuide.Proofs.Imports.IndentedExtraction
import StyleGuide.Proofs.Imports.PlainImports
import StyleGuide.Proofs.Disk.Texts
import StyleGuide.Proofs.Text.Trimming
import StyleGuide.Proofs.Imports.QuotedArguments
import StyleGuide.Proofs.Render.Images
import StyleGuide.Proofs.Render.Titles
import StyleGuide.Proofs.Config.Layers
import StyleGuide.Proofs.Render.Framing
import StyleGuide.Proofs.Render.CodeBlocks
import StyleGuide.Proofs.Imports.IndentedComments
import StyleGuide.Proofs.Path.Leading
import StyleGuide.Proofs.Disk.Spelling
import StyleGuide.Proofs.Imports.Alongside
import StyleGuide.Proofs.Imports.LoadPaths
import StyleGuide.Proofs.Imports.Leading
import StyleGuide.Proofs.Render.HeadingElements
import StyleGuide.Proofs.Path.Extensions
import StyleGuide.Proofs.Disk.WellFormed
import StyleGuide.Proofs.Fragments.Finding
import StyleGuide.Proofs.Fragments.Verbatim
import StyleGuide.Proofs.Fragments.Entries
import StyleGuide.Proofs.Path.Names
import StyleGuide.Proofs.Imports.SearchDirectories
import StyleGuide.Proofs.Config.OverriddenTemplate
import StyleGuide.Proofs.Text.Letters
import StyleGuide.Proofs.Text.SlugWords
import StyleGuide.Proofs.Text.Escaping
import StyleGuide.Proofs.Path.LastName
import StyleGuide.Proofs.Fragments.Siblings
import StyleGuide.Proofs.Config.OptionLayers
import StyleGuide.Proofs.Imports.Uncovering
import StyleGuide.Proofs.Text.ByteOffsets
import StyleGuide.Proofs.Imports.ByteScanner
import StyleGuide.Proofs.Imports.ByteBounds
import StyleGuide.Proofs.Render.Chunking
