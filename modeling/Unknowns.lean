import Unknowns.Binary64.Reading
import Unknowns.Main
import Unknowns.Session.Step
import Unknowns.ValueType.Transforms
import Unknowns.Proofs.Bindings.Refinement
import Unknowns.Proofs.Property.Derivation
import Unknowns.Proofs.Session.Frame
import Unknowns.Proofs.Session.Ancestry
import Unknowns.Proofs.Session.Lineage
import Unknowns.Handle.Threads
import Unknowns.Proofs.Handle.Supply
import Unknowns.Proofs.Handle.Threads
import Unknowns.Proofs.Handle.Sharing
import Unknowns.Handle.Holdings
import Unknowns.Proofs.Bindings.Reading
import Unknowns.Proofs.Bindings.Commutation
import Unknowns.Proofs.Handle.Provenance
import Unknowns.Proofs.Session.Reading
import Unknowns.Proofs.Bindings.Journal
import Unknowns.Proofs.Session.Journal
import Unknowns.Proofs.FileTree.Listing
import Unknowns.Proofs.FileTree.Writing
import Unknowns.Proofs.Overhead.Estimates
import Unknowns.Proofs.Overhead.Making
import Unknowns.Proofs.Overhead.Rows
import Unknowns.Proofs.Overhead.Faults
import Unknowns.Proofs.Overhead.Summary
import Unknowns.Proofs.Overhead.Replacement
import Unknowns.Proofs.Overhead.Directories
import Unknowns.Proofs.Overhead.Workspace
import Unknowns.Proofs.Session.Indifference
import Unknowns.Proofs.Session.Equivariance
import Unknowns.Proofs.Outline.Diagnostics
import Unknowns.Proofs.Handle.Collections
import Unknowns.Proofs.Overhead.Campaign
import Unknowns.Proofs.Overhead.Table
import Unknowns.Proofs.Binary64.Nearest
import Unknowns.Proofs.Binary64.Order
import Unknowns.Proofs.Binary64.Exact
import Unknowns.Proofs.Binary64.Shown
import Unknowns.Proofs.Binary64.Sign
import Unknowns.Proofs.Overhead.Scales
import Unknowns.Proofs.Overhead.Throughput
import Unknowns.Proofs.Overhead.Ratio
