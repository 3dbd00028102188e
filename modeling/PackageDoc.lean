import PackageDoc.Binary64
import PackageDoc.CommandLine.Arguments
import PackageDoc.CommandLine.Run
import PackageDoc.CommandLine.Session
import PackageDoc.Comment.Render
import PackageDoc.Comment.Writer
import PackageDoc.Conversion
import PackageDoc.Decimal.Shortest
import PackageDoc.Disk
import PackageDoc.DocumentReader
import PackageDoc.Failure
import PackageDoc.FrontMatter
import PackageDoc.Host
import PackageDoc.License
import PackageDoc.Log
import PackageDoc.Main
import PackageDoc.Markdown.Address
import PackageDoc.Markdown.Block
import PackageDoc.Markdown.Cursor
import PackageDoc.Markdown.Definition
import PackageDoc.Markdown.Emphasis
import PackageDoc.Markdown.Entity
import PackageDoc.Markdown.Html
import PackageDoc.Markdown.Inline
import PackageDoc.Markdown.OpenBlock
import PackageDoc.Markdown.Opening
import PackageDoc.Markdown.Outline
import PackageDoc.Markdown.Read
import PackageDoc.Markdown.Table
import PackageDoc.Markdown.Token
import PackageDoc.Markdown.Tree
import PackageDoc.Moment
import PackageDoc.Node
import PackageDoc.Options
import PackageDoc.Output
import PackageDoc.PackageName
import PackageDoc.Path
import PackageDoc.Problem
import PackageDoc.Proofs.Tree
import PackageDoc.Source
import PackageDoc.Text.Base64
import PackageDoc.Text.Blank
import PackageDoc.Text.Encoding
import PackageDoc.Text.Hexadecimal
import PackageDoc.Text.Lines
import PackageDoc.Text.Quoted
import PackageDoc.Toml.Document
import PackageDoc.Toml.Scalar
import PackageDoc.Toolchain
import PackageDoc.Unicode.Casing
import PackageDoc.Unicode.Letter
import PackageDoc.Unicode.Printable
import PackageDoc.Unicode.Punctuation
import PackageDoc.Unicode.Range
import PackageDoc.Value
import PackageDoc.Yaml.Character
import PackageDoc.Yaml.Fault
import PackageDoc.Yaml.Merge
import PackageDoc.Yaml.Node
import PackageDoc.Yaml.Number
import PackageDoc.Yaml.Resolve
import PackageDoc.Yaml.Scalar
import PackageDoc.Yaml.Token
import PackageDoc.Yaml.Value
import PackageDoc.Proofs.Comment.Run
import PackageDoc.Proofs.Comment.Leaves
import PackageDoc.Proofs.Comment.Sound
import PackageDoc.Proofs.Comment.Containment
import PackageDoc.Proofs.Comment.Grammar
import PackageDoc.Proofs.Comment.Alike
import PackageDoc.Proofs.Comment.Unsupported
import PackageDoc.Proofs.Comment.Silence
import PackageDoc.Proofs.Comment.Inline
import PackageDoc.Proofs.Comment.Blocks
import PackageDoc.Proofs.Comment.Concatenation
import PackageDoc.Proofs.Comment.Opening
import PackageDoc.Proofs.Deletion
import PackageDoc.Proofs.Comment.Parallel
import PackageDoc.Proofs.Comment.Agreement
import PackageDoc.Proofs.Comment.Unseen
import PackageDoc.Proofs.Comment.Badge
import PackageDoc.Proofs.Comment.Literal
import PackageDoc.Proofs.Comment.Breaks
import PackageDoc.Proofs.CommandLine.Atomic
import PackageDoc.Proofs.Comment.Indented
import PackageDoc.Proofs.Markdown.Shape
import PackageDoc.Proofs.CommandLine.Stages
import PackageDoc.Proofs.CommandLine.Input
import PackageDoc.Proofs.Source
import PackageDoc.Proofs.Comment.Stops
import PackageDoc.Proofs.Comment.Draft
import PackageDoc.Proofs.Comment.Pieces
import PackageDoc.Proofs.Comment.Reach
import PackageDoc.Proofs.Comment.CodeBlock
import PackageDoc.Proofs.Comment.Items
import PackageDoc.Proofs.Comment.Performance
import PackageDoc.Proofs.Comment.Spacing
import PackageDoc.Proofs.Comment.NestedLinks
import PackageDoc.Proofs.FrontMatter.Partition
import PackageDoc.Proofs.Markdown.Footnotes
import PackageDoc.Proofs.Markdown.Correspondence
import PackageDoc.Proofs.Outcome
import PackageDoc.Proofs.Yaml.Scanning
import PackageDoc.Proofs.Yaml.Composing
import PackageDoc.Proofs.Yaml.Merging
import PackageDoc.Proofs.Yaml.Values
import PackageDoc.Proofs.Toml.Reading
import PackageDoc.Proofs.FrontMatter.Faults
import PackageDoc.Proofs.Path
import PackageDoc.Proofs.CommandLine.Endings
import PackageDoc.Proofs.Markdown.Collection
import PackageDoc.Proofs.Text.Utf8
import PackageDoc.Proofs.Text.Decoding
import PackageDoc.Proofs.Output
import PackageDoc.Proofs.License
import PackageDoc.Proofs.PackageName
import PackageDoc.Proofs.Directory
import PackageDoc.Proofs.CommandLine.Placement
import PackageDoc.Proofs.CommandLine.Spelling
import PackageDoc.Proofs.CommandLine.ChosenOutput
