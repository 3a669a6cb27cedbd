import Exemplar.Action
import Exemplar.Decimal.Complex
import Exemplar.Decimal.Exact
import Exemplar.Decimal.Numeral
import Exemplar.Decimal.Shortest
import Exemplar.Declare
import Exemplar.Engine
import Exemplar.Error
import Exemplar.Exec
import Exemplar.Expect
import Exemplar.Forest
import Exemplar.HelperName
import Exemplar.Matcher
import Exemplar.Outcome
import Exemplar.Outline
import Exemplar.Pattern.Basic
import Exemplar.Pattern.Matching
import Exemplar.Pattern.Parser
import Exemplar.Pattern.Source
import Exemplar.Program
import Exemplar.Proofs.Abreast
import Exemplar.Proofs.Access
import Exemplar.Proofs.Ancestry
import Exemplar.Proofs.Aside
import Exemplar.Proofs.Binding
import Exemplar.Proofs.Bodies
import Exemplar.Proofs.Calls
import Exemplar.Proofs.Chains
import Exemplar.Proofs.Chronicle
import Exemplar.Proofs.Course
import Exemplar.Proofs.Cycles
import Exemplar.Proofs.Deferral
import Exemplar.Proofs.Directions
import Exemplar.Proofs.Extent
import Exemplar.Proofs.Frame
import Exemplar.Proofs.Growth
import Exemplar.Proofs.Halting
import Exemplar.Proofs.History
import Exemplar.Proofs.Isolation
import Exemplar.Proofs.Kinship
import Exemplar.Proofs.Leaving
import Exemplar.Proofs.Lines
import Exemplar.Proofs.Lockstep
import Exemplar.Proofs.Numbers
import Exemplar.Proofs.Order
import Exemplar.Proofs.Overrides
import Exemplar.Proofs.ParameterOrder
import Exemplar.Proofs.Passage
import Exemplar.Proofs.Plans
import Exemplar.Proofs.Recorders
import Exemplar.Proofs.Reference
import Exemplar.Proofs.Refusal
import Exemplar.Proofs.Resolution
import Exemplar.Proofs.Scopes
import Exemplar.Proofs.Starts
import Exemplar.Proofs.Successes
import Exemplar.Proofs.Targets
import Exemplar.Proofs.Telling
import Exemplar.Proofs.Verdicts
import Exemplar.Proofs.Views
import Exemplar.Proofs.Walk
import Exemplar.Proofs.Worlds
import Exemplar.Resolve
import Exemplar.Script.Arith
import Exemplar.Script.Class
import Exemplar.Script.Code
import Exemplar.Script.Compare
import Exemplar.Script.Construct
import Exemplar.Script.Convert
import Exemplar.Script.Cut
import Exemplar.Script.Declare
import Exemplar.Script.Errors
import Exemplar.Script.Eval
import Exemplar.Script.Host
import Exemplar.Script.Member
import Exemplar.Script.Object
import Exemplar.Script.Progression
import Exemplar.Script.Scatter
import Exemplar.Script.Show
import Exemplar.Script.Stream
import Exemplar.Script.Syntax
import Exemplar.Script.Tool
import Exemplar.Session
import Exemplar.Signature
import Exemplar.Signature.Layout
import Exemplar.Surface
import Exemplar.Text.Blank
import Exemplar.Text.CaseFold
import Exemplar.Text.CharacterName
import Exemplar.Text.Charset
import Exemplar.Text.Classes
import Exemplar.Text.Coding
import Exemplar.Text.Encoding
import Exemplar.Text.Escapes
import Exemplar.Text.Half
import Exemplar.Text.Identifier
import Exemplar.Text.Punycode
import Exemplar.Text.Quoted
import Exemplar.Text.Utf7
import Exemplar.Trial
import Exemplar.Value
import Exemplar.World
