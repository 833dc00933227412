import Declgen.Digest
import Declgen.Text.Hidden
import Declgen.Text.LetterCase
import Declgen.Text.Cluster
import Declgen.Source.WordChar
import Declgen.Text.SnakeCase
import Declgen.Text.Unquoted
import Declgen.Number.Basic
import Declgen.Number.Scaled
import Declgen.Json.Reader
import Declgen.Json.Skip
import Declgen.Json.Writer
import Declgen.QualifiedName
import Declgen.Model.Node
import Declgen.Model.Load
import Declgen.Override
import Declgen.Artifact
import Declgen.Pass
import Declgen.Config
import Declgen.FieldTag
import Declgen.Source.Lexer
import Declgen.Source.Parse.Body
import Declgen.Source.Layout.Body
import Declgen.Render.Fault
import Declgen.Render.Literal
import Declgen.Render.Name
import Declgen.Render.TypeTokens
import Declgen.Render.Attribute
import Declgen.Render.File
import Declgen.Generate
import Declgen.Command.Arguments
import Declgen.Command.Files
import Declgen.Command.Run
import Declgen.Main
import Declgen.Proofs.Naming.Answer
import Declgen.Proofs.Naming.History
import Declgen.Proofs.Pass.Visits
import Declgen.Proofs.Pass.Complete
import Declgen.Proofs.Ordered
import Declgen.Proofs.Model.Reordered
import Declgen.Proofs.Pass.Reordered
import Declgen.Proofs.Pass.Denotes
import Declgen.Proofs.Pass.Refines
import Declgen.Proofs.Pass.Renamed
import Declgen.Proofs.Pass.Roots
import Declgen.Proofs.Model.RoundTrip
import Declgen.Proofs.Naming.Origin
import Declgen.Proofs.Naming.Ownership
import Declgen.Proofs.Pass.Calls
import Declgen.Proofs.Pass.Meaning
import Declgen.Proofs.Pass.Hygiene
import Declgen.Proofs.Pass.Constants
import Declgen.Proofs.Source.Balanced
import Declgen.Proofs.Source.Reads
import Declgen.Proofs.Render.Types
import Declgen.Proofs.Render.Items
import Declgen.Proofs.Render.Faults
import Declgen.Proofs.Render.File
import Declgen.Proofs.Pass.Outcome
import Declgen.Proofs.Pass.Spliced
import Declgen.Proofs.Command.Disk
import Declgen.Proofs.Command.Run
import Declgen.Proofs.Command.Check
import Declgen.Proofs.Naming.Search
import Declgen.Proofs.Pass.Exhausted
import Declgen.Proofs.Pass.Imports
import Declgen.Proofs.Pass.Again
import Declgen.Proofs.FieldTag
import Declgen.Proofs.Model.Flaws
import Declgen.Proofs.Text.Literal
import Declgen.Proofs.Render.WireNames
import Declgen.Proofs.Render.FieldNames
import Declgen.Proofs.Render.Values
import Declgen.Proofs.Pass.Overridden
import Declgen.Proofs.Pass.References
import Declgen.Proofs.Pass.Wrappers
import Declgen.Proofs.Naming.Identifiers
import Declgen.Proofs.Pass.Identifiers
import Declgen.Proofs.Model.Orders
import Declgen.Proofs.Collected
import Declgen.Proofs.Naming.FirstFree
