import VirtualHosting.Session
import VirtualHosting.Resource.FileTree
import VirtualHosting.Main
import VirtualHosting.Proofs.AliasViews
import VirtualHosting.Proofs.Build
import VirtualHosting.Proofs.HandlerSelection
import VirtualHosting.Proofs.MountSelection
import VirtualHosting.Proofs.PathParts
import VirtualHosting.Proofs.TargetIndex
import VirtualHosting.Proofs.HostPrecedence
import VirtualHosting.Proofs.Redirects
import VirtualHosting.Proofs.Locality
import VirtualHosting.Proofs.Atomicity
import VirtualHosting.Proofs.Interchange
import VirtualHosting.Proofs.Pausing
import VirtualHosting.Proofs.Capture
import VirtualHosting.Proofs.Undo
import VirtualHosting.Proofs.Withdrawal
import VirtualHosting.Proofs.CoveringIndex
import VirtualHosting.Proofs.Fallback
import VirtualHosting.Proofs.LastPlace
import VirtualHosting.Proofs.Deferral
import VirtualHosting.Proofs.WelcomeFiles
import VirtualHosting.Proofs.MountBoundary
import VirtualHosting.Proofs.Disputes
import VirtualHosting.Proofs.Grammar
import VirtualHosting.Proofs.Batches
import VirtualHosting.Proofs.LoneHandlers
import VirtualHosting.Proofs.Frame
import VirtualHosting.Proofs.Violations
import VirtualHosting.Proofs.Confinement
import VirtualHosting.Proofs.Refusals
import VirtualHosting.Proofs.CheckedLookup
import VirtualHosting.Proofs.TableHistory
