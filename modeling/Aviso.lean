import Aviso.Binary64.Basic
import Aviso.Binary64.Print
import Aviso.Binary64.Shortest
import Aviso.Binary64.Stepwise
import Aviso.Block
import Aviso.Body
import Aviso.Catalogue
import Aviso.CommandLine.Arguments
import Aviso.CommandLine.Run
import Aviso.CommandLine.Stamp
import Aviso.Condition.Basic
import Aviso.Condition.Parse
import Aviso.Condition.Print
import Aviso.Condition.Token
import Aviso.Condition.Verdict
import Aviso.Context
import Aviso.Expression
import Aviso.Failure
import Aviso.Folder
import Aviso.Json.Decode
import Aviso.Json.Document
import Aviso.Json.Equality
import Aviso.Json.Print
import Aviso.Json.Read
import Aviso.Json.Value
import Aviso.Literal
import Aviso.Main
import Aviso.Message
import Aviso.Placeholder
import Aviso.Proofs.Answers
import Aviso.Proofs.Barrier
import Aviso.Proofs.Binary64
import Aviso.Proofs.Blocks
import Aviso.Proofs.Body
import Aviso.Proofs.Condition.Accounted
import Aviso.Proofs.Condition.Joints
import Aviso.Proofs.Condition.Layout
import Aviso.Proofs.Condition.Literals
import Aviso.Proofs.Condition.Past
import Aviso.Proofs.Condition.Quotation
import Aviso.Proofs.Condition.Segments
import Aviso.Proofs.Condition.Tokens
import Aviso.Proofs.Condition.Worded
import Aviso.Proofs.Condition.Worth
import Aviso.Proofs.Dependence
import Aviso.Proofs.Ending
import Aviso.Proofs.Filling
import Aviso.Proofs.Integers
import Aviso.Proofs.Literal
import Aviso.Proofs.Malformed
import Aviso.Proofs.Path
import Aviso.Proofs.Placeholder
import Aviso.Proofs.Results
import Aviso.Proofs.Script
import Aviso.Proofs.Selection
import Aviso.Proofs.Stored
import Aviso.Proofs.Text.Blank
import Aviso.Proofs.Text.Cut
import Aviso.Proofs.Text.Scan
import Aviso.Proofs.Woven
import Aviso.Render
import Aviso.Template
import Aviso.Text.Blank
import Aviso.Text.Cut
import Aviso.Text.Digits
import Aviso.Text.Hidden
import Aviso.Text.Quoted
import Aviso.Text.Ranges
import Aviso.Text.Scan
import Aviso.Text.Word
import Aviso.Version
import Aviso.Proofs.Json.Decode
import Aviso.Proofs.Json.Equality
import Aviso.Proofs.Condition.Errors
import Aviso.Proofs.Condition.Joining
import Aviso.Proofs.Condition.Itself
import Aviso.Proofs.Json.Structure
import Aviso.Proofs.Condition.Comparators
import Aviso.Proofs.ReadBack
import Aviso.Proofs.Context
import Aviso.Proofs.Condition.Division
import Aviso.Proofs.Encodings
import Aviso.Proofs.EngineVersion
import Aviso.Proofs.Version
