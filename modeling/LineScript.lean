import LineScript.Main
import LineScript.Console.Coloring
import LineScript.Console.Completion
import LineScript.Proofs.Scanner.Steps
import LineScript.Proofs.Scanner.Calls
import LineScript.Proofs.Statement.RoundTrip
import LineScript.Proofs.Store.Snapshot
import LineScript.Proofs.Store.Partitions
import LineScript.Proofs.Store.Bindings
import LineScript.Proofs.Store.Runs
import LineScript.Proofs.Text.Lines
import LineScript.Proofs.Statement.Placement
import LineScript.Proofs.Script.Lines
import LineScript.Proofs.Script.Running
import LineScript.Proofs.Script.Halting
import LineScript.Proofs.Script.Layout
import LineScript.Proofs.Script.Meaning
import LineScript.Proofs.Script.Agreement
import LineScript.Proofs.Evaluation.Effects
import LineScript.Proofs.Script.Composition
import LineScript.Proofs.Evaluation.Independence
import LineScript.Proofs.Script.Assembly
import LineScript.Proofs.Script.Entries
import LineScript.Proofs.Console.Session
import LineScript.Proofs.Text.Numerals
import LineScript.Proofs.Evaluation.Rules
import LineScript.Proofs.Store.Restoring
import LineScript.Proofs.Store.Canonical
import LineScript.Proofs.CommandLine.Pieces
import LineScript.Proofs.CommandLine.Batch
import LineScript.Proofs.Evaluation.Atomicity
import LineScript.Proofs.Template.Segments
import LineScript.Proofs.Store.References
import LineScript.Proofs.Store.Substitution
import LineScript.Proofs.Store.Indexing
import LineScript.Proofs.Store.Spacing
import LineScript.Proofs.Store.Truncation
import LineScript.Proofs.Evaluation.ReadingBack
import LineScript.Proofs.Statement.Faults
import LineScript.Proofs.Statement.Strictness
import LineScript.Proofs.Statement.Marker
import LineScript.Proofs.Script.Disabling
import LineScript.Proofs.Console.Completion
import LineScript.Proofs.Console.Painting
import LineScript.Proofs.Console.Escapes
