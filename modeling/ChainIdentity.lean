import ChainIdentity.Fault.Layer
import ChainIdentity.Main
import ChainIdentity.Node.Script
import ChainIdentity.Proofs.Conversation
import ChainIdentity.Proofs.Raising
import ChainIdentity.Proofs.Verification
import ChainIdentity.Proofs.Configuration
import ChainIdentity.Proofs.Startup
import ChainIdentity.Proofs.Exchange
import ChainIdentity.Proofs.Delivery
import ChainIdentity.Proofs.SingleCall
import ChainIdentity.Proofs.Inheritance
import ChainIdentity.Proofs.ErrorStack
import ChainIdentity.Proofs.NodeAddress
import ChainIdentity.Proofs.Numbering
import ChainIdentity.Proofs.Recording
import ChainIdentity.Proofs.Session
import ChainIdentity.Proofs.Query
import ChainIdentity.Proofs.Documents
import ChainIdentity.Proofs.Account
import ChainIdentity.Proofs.Identity
import ChainIdentity.Proofs.Making
import ChainIdentity.Proofs.ReportedAsDue
import ChainIdentity.Proofs.WrittenOut
import ChainIdentity.Proofs.InPlace
import ChainIdentity.Proofs.Stepwise
import ChainIdentity.Proofs.BlockText
import ChainIdentity.Proofs.QuantityText
import ChainIdentity.Proofs.QuantityValue
import ChainIdentity.Proofs.BlockReadBack
import ChainIdentity.Proofs.DecimalNumeral
import ChainIdentity.Proofs.FirstFault
import ChainIdentity.Proofs.LastReply
import ChainIdentity.Proofs.ResultOrError
import ChainIdentity.Proofs.RollingForward
import ChainIdentity.Proofs.OpenedLog
import ChainIdentity.Proofs.CauseChain
import ChainIdentity.Proofs.ControlSequences
import ChainIdentity.Proofs.LastValue
import ChainIdentity.Proofs.ShownCauses
import ChainIdentity.Proofs.NetworkTable
import ChainIdentity.Proofs.Taxonomy
