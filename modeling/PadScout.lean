import PadScout.CommandLine.Simulation
import PadScout.Discovery.Sample
import PadScout.Main
import PadScout.Proofs.CallScan
import PadScout.Proofs.Discovery.ControllerInit
import PadScout.Proofs.Discovery.GlobalPointer
import PadScout.Proofs.Discovery.PairedRegion
import PadScout.Proofs.Discovery.Refusals
import PadScout.Proofs.Discovery.StackFrame
import PadScout.Proofs.Guarded.Analysis
import PadScout.Proofs.Host.Maps
import PadScout.Proofs.Host.Modules
import PadScout.Proofs.Locate.Selection
import PadScout.Proofs.Machine.Arithmetic
import PadScout.Proofs.Machine.ByteMemory
import PadScout.Proofs.Machine.Failure
import PadScout.Proofs.Machine.Locality
import PadScout.Proofs.Machine.Window
import PadScout.Proofs.Memory.Capture
import PadScout.Proofs.Mips.Assembly
import PadScout.Proofs.PartialSettings
import PadScout.Proofs.Pattern.Listing
import PadScout.Proofs.Pattern.Scan
import PadScout.Proofs.Session.Settings
import PadScout.Proofs.Session.Steadiness
import PadScout.Proofs.Worker.Publication
import PadScout.Proofs.Worker.Shutdown
