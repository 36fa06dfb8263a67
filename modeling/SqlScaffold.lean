import SqlScaffold.Logging
import SqlScaffold.Main
import SqlScaffold.Run.Journal
import SqlScaffold.Proofs.Run.Accounting
import SqlScaffold.Proofs.Run.Declarations
import SqlScaffold.Proofs.Run.Destinations
import SqlScaffold.Proofs.Run.Files
import SqlScaffold.Proofs.Run.Composition
import SqlScaffold.Proofs.Columns
import SqlScaffold.Proofs.Boxing
import SqlScaffold.Proofs.Imports
import SqlScaffold.Proofs.SimpleNames
import SqlScaffold.Proofs.Keys
import SqlScaffold.Proofs.Run.Artifacts
import SqlScaffold.Proofs.Run.Order
import SqlScaffold.Proofs.Run.Mirror
import SqlScaffold.Proofs.Emit.Confinement
import SqlScaffold.Proofs.Scan.Agreement
import SqlScaffold.Proofs.Scan.Parameterized
import SqlScaffold.Proofs.Run.Objects
import SqlScaffold.Proofs.Settings.Refusal
import SqlScaffold.Proofs.Settings.Saving
import SqlScaffold.Proofs.Units.Finished
import SqlScaffold.Proofs.Units.Head
import SqlScaffold.Proofs.Units.Literals
import SqlScaffold.Proofs.Units.TableName
import SqlScaffold.Proofs.Source.Stability
import SqlScaffold.Proofs.Run.Suffixes
import SqlScaffold.Proofs.Load.Reporting
import SqlScaffold.Proofs.Warnings
import SqlScaffold.Proofs.Text.Lowering
import SqlScaffold.Proofs.Emit.Frame
import SqlScaffold.Proofs.Naming.Agreement
import SqlScaffold.Proofs.Run.Finding
import SqlScaffold.Proofs.CommandLine.Listing
