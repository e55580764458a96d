import ShaderDowngrade.Command.Execution
import ShaderDowngrade.Ledger.Files
import ShaderDowngrade.Main
import ShaderDowngrade.Proofs.Pattern.Language
import ShaderDowngrade.Proofs.StrictRefinement
import ShaderDowngrade.Proofs.Pattern.Shape
import ShaderDowngrade.Proofs.Pattern.Rewriting
import ShaderDowngrade.Proofs.Chain.Steps
import ShaderDowngrade.Proofs.Chain.Exchange
import ShaderDowngrade.Proofs.StrictEnding
import ShaderDowngrade.Proofs.Chain.Early
import ShaderDowngrade.Proofs.Chain.VertexVerdict
import ShaderDowngrade.Proofs.Chain.FragmentText
import ShaderDowngrade.Proofs.Chain.FragmentVerdict
import ShaderDowngrade.Proofs.Pattern.Interrupted
import ShaderDowngrade.Proofs.Chain.ModernSpellings
import ShaderDowngrade.Proofs.Rule.Trace
import ShaderDowngrade.Proofs.StrictHistory
import ShaderDowngrade.Proofs.Chain.Directives
import ShaderDowngrade.Proofs.Ledger.RoundTrip
import ShaderDowngrade.Proofs.Chain.Changes
import ShaderDowngrade.Proofs.Chain.Statements
import ShaderDowngrade.Proofs.Chain.Dropped
import ShaderDowngrade.Proofs.Command.Agreement
import ShaderDowngrade.Proofs.Command.Failures
import ShaderDowngrade.Proofs.Chain.Postconditions
import ShaderDowngrade.Proofs.Chain.Stages
import ShaderDowngrade.Proofs.Pattern.Extension
import ShaderDowngrade.Proofs.Chain.Passes
import ShaderDowngrade.Proofs.Pattern.Scanning
import ShaderDowngrade.Proofs.Text.Replacing
import ShaderDowngrade.Proofs.Rule.Literal
import ShaderDowngrade.Proofs.Chain.CubeSampler
import ShaderDowngrade.Proofs.Pattern.Spans
import ShaderDowngrade.Proofs.Pattern.Numbered
import ShaderDowngrade.Proofs.Chain.Numbers
import ShaderDowngrade.Proofs.Chain.Declarations
import ShaderDowngrade.Proofs.Chain.Demands
import ShaderDowngrade.Proofs.Pattern.Locality
import ShaderDowngrade.Proofs.Chain.OutputNames
import ShaderDowngrade.Proofs.Rule.Skipped
import ShaderDowngrade.Proofs.Chain.Unreached
import ShaderDowngrade.Proofs.Text.Lowercase
import ShaderDowngrade.Proofs.StageOfPath
