import LineScript.Benchmark
import LineScript.Main
import LineScript.Measure.Coverage
import LineScript.Measure.RepoTime
import LineScript.Measure.Survey
import LineScript.Sample.Written
import LineScript.Proofs.Callees
import LineScript.Proofs.Simulation
import LineScript.Proofs.Frame
import LineScript.Proofs.Scope
import LineScript.Proofs.Sandbox
import LineScript.Proofs.Transparency
import LineScript.Proofs.Compile.Forms
import LineScript.Proofs.Text.Utf8
import LineScript.Proofs.Compile.Structure
import LineScript.Proofs.Blocks
import LineScript.Proofs.Expr.Quoted
import LineScript.Proofs.Expr.Name
import LineScript.Proofs.Sample.Separation
import LineScript.Proofs.Sample.Order
import LineScript.Proofs.Files.Path
import LineScript.Proofs.Json.RoundTrip
import LineScript.Proofs.Package.Register
import LineScript.Proofs.Package.Install
import LineScript.Proofs.Package.Consistency
import LineScript.Proofs.Congruence
import LineScript.Proofs.Quiet
import LineScript.Proofs.Repl
import LineScript.Proofs.Closed
import LineScript.Proofs.Straight
import LineScript.Proofs.Irrelevance
import LineScript.Proofs.Layout
import LineScript.Proofs.Termination
import LineScript.Proofs.Body
import LineScript.Proofs.Compile.Headers
import LineScript.Proofs.Package.Undo
import LineScript.Proofs.Compile.Pattern
import LineScript.Proofs.Compile.Recognition
import LineScript.Proofs.Compile.Agreement
import LineScript.Proofs.Compile.Written
import LineScript.Proofs.Compile.Meaning
import LineScript.Proofs.Onward
import LineScript.Proofs.Breakpoint
import LineScript.Proofs.Talk
import LineScript.Proofs.Trace
import LineScript.Proofs.Stepping
import LineScript.Proofs.Turns
import LineScript.Proofs.Package.Effect
import LineScript.Proofs.Package.Confinement
import LineScript.Proofs.Package.Order
import LineScript.Proofs.Atomic
import LineScript.Proofs.Branch
import LineScript.Proofs.Expr.Connective
import LineScript.Proofs.Statement
import LineScript.Proofs.Alternative
import LineScript.Proofs.Files.Content
import LineScript.Proofs.Files.Failure
import LineScript.Proofs.Pause.Commands
import LineScript.Proofs.Pause.Dialogue
import LineScript.Proofs.Compile.Output
import LineScript.Proofs.Jump
import LineScript.Proofs.Measure.Plateau
import LineScript.Proofs.Measure.Chronicle
