import DocTable.Calendar
import DocTable.Catalog
import DocTable.Command.Arguments
import DocTable.Command.Installed
import DocTable.Command.Places
import DocTable.Command.Product
import DocTable.Command.Record
import DocTable.Command.Run
import DocTable.Command.Words
import DocTable.Comment.Content
import DocTable.Comment.Parse
import DocTable.Comment.Sections
import DocTable.Comment.TagBody
import DocTable.Comment.TypeExpression
import DocTable.Config
import DocTable.Decimal.FloatText
import DocTable.Decimal.Numeral
import DocTable.Decimal.Shortest
import DocTable.DocBlock
import DocTable.DocBlock.Markup
import DocTable.Export
import DocTable.FileTree.Access
import DocTable.FileTree.Basic
import DocTable.FileTree.Changes
import DocTable.FileTree.Scan
import DocTable.Hash
import DocTable.Inspection
import DocTable.Introspector.Basic
import DocTable.Introspector.Plugin
import DocTable.Json.Complaint
import DocTable.Json.Document
import DocTable.Json.Reader
import DocTable.Json.Token
import DocTable.Json.Writer
import DocTable.Link.Host
import DocTable.Link.Target
import DocTable.Log
import DocTable.Main
import DocTable.Manifest.Entry
import DocTable.Manifest.Failure
import DocTable.Manifest.Read
import DocTable.Markdown.Block
import DocTable.Markdown.CharacterName
import DocTable.Markdown.Document
import DocTable.Markdown.Emphasis
import DocTable.Markdown.Fence
import DocTable.Markdown.Html
import DocTable.Markdown.Inline
import DocTable.Markdown.LineBreaks
import DocTable.Markdown.Link
import DocTable.Markdown.Node
import DocTable.Markdown.PipeTable
import DocTable.Markdown.Reference
import DocTable.Markdown.Rule
import DocTable.Markdown.Source
import DocTable.Markup.Converter
import DocTable.Markup.Entities
import DocTable.Markup.Escape
import DocTable.Markup.Plain
import DocTable.OrderedMap
import DocTable.Path
import DocTable.Proofs.Catalog.Conflict
import DocTable.Proofs.Catalog.History
import DocTable.Proofs.Catalog.Merge
import DocTable.Proofs.Catalog.Repeat
import DocTable.Proofs.Catalog.Run
import DocTable.Proofs.Command.Product
import DocTable.Proofs.Command.Run
import DocTable.Proofs.Comment.Appending
import DocTable.Proofs.Comment.Brackets
import DocTable.Proofs.Comment.Conservation
import DocTable.Proofs.Comment.Emptiness
import DocTable.Proofs.Comment.Fences
import DocTable.Proofs.Comment.Layout
import DocTable.Proofs.Comment.Parts
import DocTable.Proofs.Comment.Rendered
import DocTable.Proofs.Comment.Sections
import DocTable.Proofs.Comment.TagBody
import DocTable.Proofs.Comment.TagGrammar
import DocTable.Proofs.Comment.TagGroups
import DocTable.Proofs.Comment.Unions
import DocTable.Proofs.Config.Reading
import DocTable.Proofs.Config.Unusable
import DocTable.Proofs.Contract
import DocTable.Proofs.DocBlock.Reading
import DocTable.Proofs.Export.Document
import DocTable.Proofs.Export.Lossless
import DocTable.Proofs.Export.Manifest
import DocTable.Proofs.Failing
import DocTable.Proofs.FileTree.Extends
import DocTable.Proofs.FileTree.Put
import DocTable.Proofs.FileTree.Scan
import DocTable.Proofs.Grouping
import DocTable.Proofs.Guarantee
import DocTable.Proofs.Inspection
import DocTable.Proofs.Introspector.Plugin
import DocTable.Proofs.Json.Closed
import DocTable.Proofs.Json.Document
import DocTable.Proofs.Json.Reader
import DocTable.Proofs.Json.Token
import DocTable.Proofs.Link.Scheme
import DocTable.Proofs.Logged
import DocTable.Proofs.Manifest.Defaults
import DocTable.Proofs.Manifest.Failures
import DocTable.Proofs.Manifest.Fields
import DocTable.Proofs.Manifest.Forms
import DocTable.Proofs.Manifest.Names
import DocTable.Proofs.Manifest.QualifiedNames
import DocTable.Proofs.Manifest.Reading
import DocTable.Proofs.Manifest.Sections
import DocTable.Proofs.Markdown.Converter
import DocTable.Proofs.Markdown.Plain.Document
import DocTable.Proofs.Markdown.Plain.Inline
import DocTable.Proofs.Markdown.Plain.Node
import DocTable.Proofs.Markdown.Plain.Rule
import DocTable.Proofs.Markup.Elements
import DocTable.Proofs.Markup.Escape
import DocTable.Proofs.Markup.Items
import DocTable.Proofs.Markup.Marks
import DocTable.Proofs.Markup.Plain
import DocTable.Proofs.Markup.Rendered
import DocTable.Proofs.Markup.SafeLinks
import DocTable.Proofs.Markup.Tags
import DocTable.Proofs.Markup.Written
import DocTable.Proofs.OrderedMap
import DocTable.Proofs.Path.Reading
import DocTable.Proofs.Path.Relative
import DocTable.Proofs.Path.Usable
import DocTable.Proofs.Report.Anchors
import DocTable.Proofs.Report.DistinctIds
import DocTable.Proofs.Report.Documentation
import DocTable.Proofs.Report.Inline
import DocTable.Proofs.Report.Reading
import DocTable.Proofs.Report.Shape
import DocTable.Proofs.Sorting
import DocTable.Proofs.Table.Layout
import DocTable.Proofs.Table.Spans
import DocTable.Proofs.Table.Tiling
import DocTable.Proofs.Table.Topics
import DocTable.Proofs.Text.Blank
import DocTable.Proofs.Text.Lines
import DocTable.Proofs.Text.LowerCase
import DocTable.Proofs.Text.Surrogate
import DocTable.Proofs.TypeAnnotation
import DocTable.Proofs.TypeAnnotation.Canonical
import DocTable.Proofs.Value.Closed
import DocTable.Proofs.Value.Injective
import DocTable.Proofs.Value.Printed
import DocTable.Proofs.Value.Tokens
import DocTable.Proofs.Value.Within
import DocTable.Proofs.Yaml.Closed
import DocTable.Release
import DocTable.Report.Cells
import DocTable.Report.Page
import DocTable.Report.Style
import DocTable.Report.Template
import DocTable.Symbol
import DocTable.Table.Basic
import DocTable.Table.Layout
import DocTable.Tag
import DocTable.Text.Blank
import DocTable.Text.Lines
import DocTable.Text.LowerCase
import DocTable.Text.Printable
import DocTable.Text.Quoted
import DocTable.Text.Ranges
import DocTable.Text.Surrogate
import DocTable.Text.Utf8
import DocTable.Text.Word
import DocTable.TypeAnnotation
import DocTable.Value.Basic
import DocTable.Value.Literal
import DocTable.Value.Printed
import DocTable.Value.SetOrder
import DocTable.Value.Unprintable
import DocTable.Yaml.Cursor
import DocTable.Yaml.Fault
import DocTable.Yaml.Load
import DocTable.Yaml.Loader
import DocTable.Yaml.Node
import DocTable.Yaml.PlainTag
import DocTable.Yaml.ScalarText
import DocTable.Yaml.ScalarValue
import DocTable.Yaml.Token
