import EventScript.Assembler
import EventScript.Debugger
import EventScript.Ensemble
import EventScript.Main
import EventScript.Proofs.Dispatch
import EventScript.Proofs.Nesting
import EventScript.Proofs.Soundness
import EventScript.Proofs.Batching
import EventScript.Proofs.Execution
import EventScript.Proofs.Safety
import EventScript.Proofs.Layout
import EventScript.Proofs.Answers
import EventScript.Proofs.Frame
import EventScript.Proofs.KillSwitch
import EventScript.Proofs.Breakpoints
import EventScript.Proofs.Transparency
import EventScript.Proofs.Untouched
import EventScript.Proofs.Ticks
import EventScript.Proofs.SharedTemporaries
import EventScript.Proofs.Changes
import EventScript.Proofs.Returns
import EventScript.Proofs.Parking
import EventScript.Proofs.Accounting
import EventScript.Proofs.DerivedTables
import EventScript.Proofs.Defects
import EventScript.Proofs.InputControl
import EventScript.Proofs.Reference
import EventScript.Proofs.TomlLines
import EventScript.Proofs.ConfigRoundTrip
import EventScript.Proofs.Atomicity
import EventScript.Proofs.Stepping
import EventScript.Proofs.RunSummaries
import EventScript.Proofs.Rounds
import EventScript.Proofs.RunFailures
import EventScript.Proofs.Refusals
import EventScript.Proofs.Comparisons
import EventScript.Proofs.ForwardScripts
import EventScript.Proofs.TableEdits
import EventScript.Proofs.BackPatching
import EventScript.Proofs.Utf8
import EventScript.Proofs.HexText
