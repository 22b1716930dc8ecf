import SignalGraph.Files.Tree
import SignalGraph.Main
import SignalGraph.Proofs.Arrangement.Counting
import SignalGraph.Proofs.Arrangement.Keeping
import SignalGraph.Proofs.Layering.History
import SignalGraph.Proofs.Program.Delays
import SignalGraph.Proofs.Program.Scoping
import SignalGraph.Proofs.Record.RoundTrip
import SignalGraph.Proofs.Record.Truncation
import SignalGraph.Proofs.Graph.Identity
import SignalGraph.Proofs.ObjectText.Quoting
import SignalGraph.Proofs.ObjectText.Scanning
import SignalGraph.Proofs.ObjectText.Reading
import SignalGraph.Proofs.Files.Tree
import SignalGraph.Proofs.Record.Text
import SignalGraph.Proofs.Files.Store
import SignalGraph.Proofs.CommandLine.Dumping
import SignalGraph.Proofs.Arrangement.Recounting
import SignalGraph.Proofs.Arrangement.Optimum
import SignalGraph.Proofs.Graph.Connectable
import SignalGraph.Proofs.Arrangement.Routing
import SignalGraph.Proofs.Record.Passes
import SignalGraph.Proofs.Record.Verdict
import SignalGraph.Proofs.Layering.Formula
import SignalGraph.Proofs.Record.Outcome
import SignalGraph.Proofs.Record.Normal
import SignalGraph.Proofs.Graph.Cascade
import SignalGraph.Proofs.Program.Usable
import SignalGraph.Proofs.Layering.Fewest
import SignalGraph.Proofs.Discovery
import SignalGraph.Proofs.Program.Imports
import SignalGraph.Proofs.Program.Spelling
import SignalGraph.Proofs.Kinds
import SignalGraph.Proofs.Graph.Undoing
import SignalGraph.Proofs.Arrangement.Naming
import SignalGraph.Proofs.Arrangement.Succession
import SignalGraph.Proofs.Layering.Propagation
import SignalGraph.Proofs.Layering.Ties
