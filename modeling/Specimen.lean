import Specimen.Category
import Specimen.Category.Reader
import Specimen.Command
import Specimen.Command.CategoryTable
import Specimen.Command.Line
import Specimen.Command.Summary
import Specimen.Command.Usage
import Specimen.Data.Draw
import Specimen.Data.Geometry
import Specimen.Data.Keystream
import Specimen.Data.Luhn
import Specimen.Data.Phrase
import Specimen.Data.Provider
import Specimen.Data.Url
import Specimen.Declaration
import Specimen.Diagnostic
import Specimen.Expr
import Specimen.Expr.Renumbering
import Specimen.Fault
import Specimen.Generation
import Specimen.Generation.Cycle
import Specimen.Generation.Preparation
import Specimen.Generation.Shared
import Specimen.Identifiers
import Specimen.Main
import Specimen.Proofs.Category.Grammar
import Specimen.Proofs.Category.Token
import Specimen.Proofs.Command.Agreement
import Specimen.Proofs.Command.Summary
import Specimen.Proofs.Data.Draw
import Specimen.Proofs.Data.DrawnUrl
import Specimen.Proofs.Data.Luhn
import Specimen.Proofs.Data.LuhnDetection
import Specimen.Proofs.Data.Provider
import Specimen.Proofs.Data.Url
import Specimen.Proofs.Diagnostic.Phase
import Specimen.Proofs.Expr.Hint
import Specimen.Proofs.Expr.Numbering
import Specimen.Proofs.Expr.Occurrence
import Specimen.Proofs.Expr.Retyping
import Specimen.Proofs.Generation.Accounting
import Specimen.Proofs.Generation.Building
import Specimen.Proofs.Generation.Checking
import Specimen.Proofs.Generation.Closure
import Specimen.Proofs.Generation.Doubling
import Specimen.Proofs.Generation.Failure
import Specimen.Proofs.Generation.Hinting
import Specimen.Proofs.Generation.Isolation
import Specimen.Proofs.Generation.Locality
import Specimen.Proofs.Generation.Matching
import Specimen.Proofs.Generation.ModeIndependence
import Specimen.Proofs.Generation.Naming
import Specimen.Proofs.Generation.Numbering
import Specimen.Proofs.Generation.Reference
import Specimen.Proofs.Generation.Reordering
import Specimen.Proofs.Generation.Requalification
import Specimen.Proofs.Generation.Run
import Specimen.Proofs.Generation.Search
import Specimen.Proofs.Generation.Sharing
import Specimen.Proofs.Generation.Spreading
import Specimen.Proofs.Generation.Tidying
import Specimen.Proofs.SampleSet
import Specimen.Proofs.SampleSet.Construction
import Specimen.Proofs.SampleSet.Likeness
import Specimen.Proofs.SampleSet.Rendering
import Specimen.Proofs.SampleSet.Succession
import Specimen.Proofs.SampleSet.Typing
import Specimen.Proofs.Schema.Lookup
import Specimen.Proofs.Shape
import Specimen.Proofs.Shape.Blame
import Specimen.Proofs.Shape.Encoding
import Specimen.Proofs.Shape.Extraction
import Specimen.Proofs.Shape.Requalification
import Specimen.Proofs.Shape.Selection
import Specimen.Proofs.Shape.Tidying
import Specimen.Proofs.Source.Brackets
import Specimen.Proofs.Source.Composition
import Specimen.Proofs.Source.Following
import Specimen.Proofs.Source.Heads
import Specimen.Proofs.Source.Joint
import Specimen.Proofs.Source.Lexing
import Specimen.Proofs.Source.PathText
import Specimen.Proofs.Source.Reading
import Specimen.Proofs.Source.Rereading
import Specimen.Proofs.Source.Respelling
import Specimen.Proofs.Source.Token
import Specimen.Proofs.Source.TypeForm
import Specimen.Proofs.Synthesis
import Specimen.Proofs.Synthesis.Agreement
import Specimen.Proofs.Synthesis.Asking
import Specimen.Proofs.Synthesis.Yield
import Specimen.Proofs.Text.Blank
import Specimen.Proofs.Text.Numeral
import Specimen.Proofs.Text.Split
import Specimen.Proofs.Text.Word
import Specimen.Proofs.Traversal
import Specimen.Proofs.TypeKey
import Specimen.Proofs.TypeRef.Document
import Specimen.Proofs.TypeRef.Fields
import Specimen.Proofs.TypeRef.Forms
import Specimen.Proofs.TypeRef.Reencoding
import Specimen.Proofs.TypeRef.Reference
import Specimen.Proofs.TypeRef.RoundTrip
import Specimen.Proofs.Yaml.Node
import Specimen.Proofs.Yaml.Value
import Specimen.Reasons
import Specimen.SampleSet
import Specimen.SampleSet.Rendering
import Specimen.Scalar
import Specimen.Schema
import Specimen.Schema.Reader
import Specimen.Shape
import Specimen.Shape.Encoding
import Specimen.Shape.Extraction
import Specimen.Shape.Listing
import Specimen.Source.Constant
import Specimen.Source.Grammar
import Specimen.Source.Layout
import Specimen.Source.Lexer
import Specimen.Source.Literal
import Specimen.Source.Name
import Specimen.Source.Path
import Specimen.Source.Pattern
import Specimen.Source.Reader
import Specimen.Source.Spelling
import Specimen.Source.Token
import Specimen.Synthesis
import Specimen.Targets
import Specimen.Text.Blank
import Specimen.Text.Column
import Specimen.Text.EscapedTable
import Specimen.Text.Numeral
import Specimen.Text.Quoted
import Specimen.Text.Shortest
import Specimen.Text.Split
import Specimen.Text.Word
import Specimen.Text.WordTable
import Specimen.TypeKey
import Specimen.TypeRef
import Specimen.TypeRef.Fields
import Specimen.TypeRef.Reader
import Specimen.Yaml.Character
import Specimen.Yaml.Node
import Specimen.Yaml.Node.Reader
import Specimen.Yaml.Node.Value
import Specimen.Yaml.Plain
import Specimen.Yaml.Style
import Specimen.Yaml.Token
import Specimen.Yaml.Token.Lexer
import Specimen.Yaml.Token.Property
import Specimen.Yaml.Token.Scalar
import Specimen.Yaml.Value
import Specimen.Yaml.Writer
