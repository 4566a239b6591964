import SerialSuite.Main
import SerialSuite.Program
import SerialSuite.Proofs.Handshake
import SerialSuite.Proofs.Endings
import SerialSuite.Proofs.Delivery
import SerialSuite.Proofs.Watchdog
import SerialSuite.Proofs.Resilience
import SerialSuite.Proofs.Sendable
import SerialSuite.Proofs.Rendering
import SerialSuite.Proofs.Printing
import SerialSuite.Proofs.Trace
import SerialSuite.Proofs.Phases
import SerialSuite.Proofs.Counting
import SerialSuite.Proofs.Summary
import SerialSuite.Proofs.Halting
import SerialSuite.Proofs.Inert
import SerialSuite.Proofs.Nightly
import SerialSuite.Proofs.Closing
import SerialSuite.Proofs.Encoding
import SerialSuite.Proofs.Timing
import SerialSuite.Proofs.Calls
import SerialSuite.Proofs.Canonical
import SerialSuite.Proofs.Alignment
import SerialSuite.Proofs.Filling
import SerialSuite.Proofs.Elapsed
import SerialSuite.Proofs.Loading
import SerialSuite.Proofs.Naming
import SerialSuite.Proofs.Opening
import SerialSuite.Proofs.Colour
