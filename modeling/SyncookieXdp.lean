import SyncookieXdp.Lib.Octets
import SyncookieXdp.Lib.Buffer
import SyncookieXdp.Lib.Checksum
import SyncookieXdp.Lib.Prefix
import SyncookieXdp.Lib.CoverTable
import SyncookieXdp.Lib.Run
import SyncookieXdp.Lib.Folds
import SyncookieXdp.Lib.Steps
import SyncookieXdp.Lib.CString
import SyncookieXdp.Lib.Framing
import SyncookieXdp.Lib.Flow
import SyncookieXdp.Lib.Outcome
import SyncookieXdp.Lib.Ownership
import SyncookieXdp.Model.Defines
import SyncookieXdp.Model.Headers
import SyncookieXdp.Model.Kernel
import SyncookieXdp.Model.Parser
import SyncookieXdp.Model.Controller
import SyncookieXdp.Model.Syncookie
import SyncookieXdp.Model.Tables
import SyncookieXdp.Model.Stats
import SyncookieXdp.Model.Polling
import SyncookieXdp.Model.Params
import SyncookieXdp.Model.Link
import SyncookieXdp.Model.Pinning
import SyncookieXdp.Model.Nlattr
import SyncookieXdp.Model.Netlink
import SyncookieXdp.Model.Loader
import SyncookieXdp.Model.Relocation
import SyncookieXdp.Model.ObjectFile
import SyncookieXdp.Model.Btf
import SyncookieXdp.Model.Loading
import SyncookieXdp.Spec.Segment
import SyncookieXdp.Spec.Netlink
import SyncookieXdp.Spec.Linking
import SyncookieXdp.Proofs.Access
import SyncookieXdp.Proofs.Rewrite
import SyncookieXdp.Proofs.Filter
import SyncookieXdp.Proofs.Dispatch
import SyncookieXdp.Proofs.ControlBits
import SyncookieXdp.Proofs.TrieKeys
import SyncookieXdp.Proofs.Handshake
import SyncookieXdp.Proofs.Decision
import SyncookieXdp.Proofs.Answer
import SyncookieXdp.Proofs.Checksum
import SyncookieXdp.Proofs.Bounce
import SyncookieXdp.Proofs.Validated
import SyncookieXdp.Proofs.Confirmation
import SyncookieXdp.Proofs.SynFlood
import SyncookieXdp.Proofs.Tracking
import SyncookieXdp.Proofs.Isolation
import SyncookieXdp.Proofs.Accounting
import SyncookieXdp.Proofs.Stats
import SyncookieXdp.Proofs.Collect
import SyncookieXdp.Proofs.Polling
import SyncookieXdp.Proofs.Params
import SyncookieXdp.Proofs.Link
import SyncookieXdp.Proofs.Nlattr
import SyncookieXdp.Proofs.Netlink
import SyncookieXdp.Proofs.LinkRequests
import SyncookieXdp.Proofs.Pinning
import SyncookieXdp.Proofs.Lifecycle
import SyncookieXdp.Proofs.Relocation
import SyncookieXdp.Proofs.Descriptors
import SyncookieXdp.Proofs.Loading
import SyncookieXdp.Proofs.Opening
