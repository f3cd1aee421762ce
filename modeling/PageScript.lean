import PageScript.Main
import PageScript.Plugin.Description
import PageScript.Proofs.Document.Distribution
import PageScript.Proofs.Markup.EventOrder
import PageScript.Proofs.Markup.RoundTrip
import PageScript.Proofs.Plugin.Merging
import PageScript.Proofs.Run.Binding
import PageScript.Proofs.Run.Capturing
import PageScript.Proofs.Run.Emission
import PageScript.Proofs.Run.FirstValue
import PageScript.Proofs.Run.Frameworks
import PageScript.Proofs.Run.Gathering
import PageScript.Proofs.Run.Isolation
import PageScript.Proofs.Run.Loading
import PageScript.Proofs.Run.Recall
import PageScript.Proofs.Run.Refusal
import PageScript.Proofs.Run.Rendering
import PageScript.Proofs.Run.Repetition
import PageScript.Proofs.Run.SameSkeleton
import PageScript.Proofs.Run.Simulation
import PageScript.Proofs.Script.BlankField
import PageScript.Proofs.Script.Block
import PageScript.Proofs.Script.Composition
import PageScript.Proofs.Script.Literal
import PageScript.Proofs.Script.Parsing
import PageScript.Proofs.Script.Recovery
import PageScript.Proofs.Selector.Quoting
import PageScript.Proofs.Service.Answering
import PageScript.Proofs.Service.PluginFailures
import PageScript.Proofs.Service.Showing
import PageScript.Proofs.Service.Tracing
import PageScript.Proofs.Settings.Precedence
import PageScript.Proofs.State.Delivery
import PageScript.Script.Block
import PageScript.Service.Program
