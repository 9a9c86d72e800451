import DriverLoader.Flags
import DriverLoader.Installation.History
import DriverLoader.Simulation
import DriverLoader.Structure
import DriverLoader.Proofs.Interception.Chain
import DriverLoader.Proofs.Dispatch.Routing
import DriverLoader.Proofs.Dispatch.Settlement
import DriverLoader.Proofs.Builder.Build
import DriverLoader.Proofs.Loader.Shift
import DriverLoader.Proofs.Loader.Coherence
import DriverLoader.Proofs.Loader.Routing
import DriverLoader.Proofs.NullDriver.Adoption
import DriverLoader.Proofs.Registry.Consistency
import DriverLoader.Proofs.Loader.Accounting
import DriverLoader.Proofs.Loader.Unloading
import DriverLoader.Proofs.Loader.Lifetime
import DriverLoader.Proofs.Interception.Tally
import DriverLoader.Proofs.Interception.Rejection
import DriverLoader.Proofs.Loader.Stack
import DriverLoader.Proofs.Loader.Ledger
import DriverLoader.Proofs.Loader.Teardown
import DriverLoader.Proofs.Negotiation.Outcome
import DriverLoader.Proofs.Builder.Numbering
import DriverLoader.Proofs.Loader.Asking
import DriverLoader.Proofs.Loader.Readiness
import DriverLoader.Proofs.Memory.Writing
import DriverLoader.Proofs.Enumeration.Filling
import DriverLoader.Proofs.Enumeration.Inquiry
import DriverLoader.Proofs.Enumeration.Failing
import DriverLoader.Proofs.Enumeration.Counting
import DriverLoader.Proofs.Loader.Registration
import DriverLoader.Proofs.Loader.Origin
import DriverLoader.Proofs.Installation.Succession
import DriverLoader.Proofs.Installation.Tables
import DriverLoader.Proofs.Interception.Validity
import DriverLoader.Proofs.Builder.Assembly
import DriverLoader.Proofs.Loader.Likeness
import DriverLoader.Proofs.Loader.Adding
import DriverLoader.Proofs.Interception.Nesting
import DriverLoader.Proofs.Discovery.Arrangement
import DriverLoader.Proofs.Discovery.Found
import DriverLoader.Proofs.Loader.Switching
import DriverLoader.Proofs.Loader.Components
import DriverLoader.Proofs.Enumeration.Bounds
import DriverLoader.Proofs.NullDriver.Handles
import DriverLoader.Proofs.Discovery.Reading
import DriverLoader.Proofs.Config.Lists
import DriverLoader.Proofs.Loader.Tracers
