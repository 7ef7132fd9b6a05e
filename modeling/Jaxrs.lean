import Jaxrs.Annotation
import Jaxrs.Api
import Jaxrs.Api.Reading
import Jaxrs.ArgumentName
import Jaxrs.Base64
import Jaxrs.ClassName
import Jaxrs.Command.Failure
import Jaxrs.Command.Generate
import Jaxrs.Command.Line
import Jaxrs.Command.Run
import Jaxrs.Constraint
import Jaxrs.Credentials
import Jaxrs.Discovery
import Jaxrs.Document.Field
import Jaxrs.Document.Json
import Jaxrs.Document.Json.Numeral
import Jaxrs.Document.Node
import Jaxrs.Document.Plain
import Jaxrs.Document.Yaml
import Jaxrs.Document.Yaml.Lexer
import Jaxrs.Document.Yaml.Scalar
import Jaxrs.Document.Yaml.Token
import Jaxrs.Failure
import Jaxrs.FileAccess
import Jaxrs.FilePath
import Jaxrs.FileTree
import Jaxrs.Framework.Basic
import Jaxrs.Framework.Jaxrs
import Jaxrs.Generation
import Jaxrs.Header
import Jaxrs.Identifier
import Jaxrs.ImportTable
import Jaxrs.Interface
import Jaxrs.JavaType
import Jaxrs.Javadoc
import Jaxrs.Literal
import Jaxrs.Loading
import Jaxrs.Main
import Jaxrs.Markdown
import Jaxrs.Markdown.Block
import Jaxrs.Markdown.CaseFold
import Jaxrs.Markdown.Emphasis
import Jaxrs.Markdown.Entity
import Jaxrs.Markdown.Entity.Table
import Jaxrs.Markdown.Html
import Jaxrs.Markdown.Inline
import Jaxrs.Markdown.Line
import Jaxrs.Markdown.LineStart
import Jaxrs.Markdown.Link
import Jaxrs.Markdown.OpenDocument
import Jaxrs.Markdown.Punctuation
import Jaxrs.Markdown.RawHtml
import Jaxrs.Number
import Jaxrs.Number.Double
import Jaxrs.Number.Shortest
import Jaxrs.Schema.Basic
import Jaxrs.Schema.Reading
import Jaxrs.Settings.Basic
import Jaxrs.Settings.Reading
import Jaxrs.Source
import Jaxrs.Synthesis
import Jaxrs.Text.Blank
import Jaxrs.Text.Digits
import Jaxrs.Text.Printable
import Jaxrs.Text.Segment
import Jaxrs.TypeMapping
import Jaxrs.Proofs.Identifier
import Jaxrs.Proofs.ImportTable
import Jaxrs.Proofs.Except
import Jaxrs.Proofs.Lookup
import Jaxrs.Proofs.Base64
import Jaxrs.Proofs.Source.Validity
import Jaxrs.Proofs.Source.Fault
import Jaxrs.Proofs.Source.References
import Jaxrs.Proofs.Source.Composition
import Jaxrs.Proofs.Source.Layout
import Jaxrs.Proofs.Text.Blank
import Jaxrs.Proofs.Text.LineBreak
import Jaxrs.Proofs.Java.Reading
import Jaxrs.Proofs.Java.Comment
import Jaxrs.Proofs.Java.Interface
import Jaxrs.Proofs.ArgumentName
import Jaxrs.Proofs.ClassName
import Jaxrs.Proofs.TypeMapping
import Jaxrs.Proofs.TypeMapping.Optional
import Jaxrs.Proofs.TypeMapping.Respelling
import Jaxrs.Proofs.Framework
import Jaxrs.Proofs.Synthesis
import Jaxrs.Proofs.Synthesis.Constraint
import Jaxrs.Proofs.Generation
import Jaxrs.Proofs.Command.Generate
import Jaxrs.Proofs.ArgumentName.Allocation
import Jaxrs.Proofs.Synthesis.LegalTypes
import Jaxrs.Proofs.Synthesis.ReturnType
import Jaxrs.Proofs.Synthesis.Correspondence
import Jaxrs.Proofs.Command.Write
import Jaxrs.Proofs.Generation.Paths
import Jaxrs.Proofs.Java.Constant
import Jaxrs.Proofs.Settings.Validity
import Jaxrs.Proofs.Generation.ValidSettings
import Jaxrs.Proofs.Generation.NameCapture
import Jaxrs.Proofs.Java.UnicodeEscape
import Jaxrs.Proofs.Generation.Placement
import Jaxrs.Proofs.Generation.Independence
import Jaxrs.Proofs.Command.Repeat
import Jaxrs.Proofs.ImportTable.Order
import Jaxrs.Proofs.ImportTable.Selection
import Jaxrs.Proofs.JavaType
import Jaxrs.Proofs.Source.Imports
import Jaxrs.Proofs.Synthesis.ConstraintFit
import Jaxrs.Proofs.ClassName.Letters
import Jaxrs.Proofs.Document.Record
import Jaxrs.Proofs.Settings.Layer
import Jaxrs.Proofs.Settings.RoundTrip
import Jaxrs.Proofs.Text.ByteOrder
import Jaxrs.Proofs.FileTree.WellFormed
import Jaxrs.Proofs.Discovery.Walk
import Jaxrs.Proofs.Discovery.Listing
import Jaxrs.Proofs.Command.Line
import Jaxrs.Proofs.Command.Precedence
import Jaxrs.Proofs.Credentials
import Jaxrs.Proofs.Credentials.Header
import Jaxrs.Proofs.Credentials.Session
import Jaxrs.Proofs.Java.Initializer
import Jaxrs.Proofs.Javadoc
import Jaxrs.Proofs.FilePath.Ancestor
import Jaxrs.Proofs.FileTree.MakingDirectories
import Jaxrs.Proofs.FileTree.Blocking
import Jaxrs.Proofs.Command.WriteOutcome
