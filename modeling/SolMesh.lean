import SolMesh.Model.Client
import SolMesh.Model.Localnet
import SolMesh.Model.Parties
import SolMesh.Model.Program
import SolMesh.Proofs.Acceptance
import SolMesh.Proofs.AgreedTicks
import SolMesh.Proofs.Attempts
import SolMesh.Proofs.Authenticity
import SolMesh.Proofs.BoundedSupply
import SolMesh.Proofs.Cancellation
import SolMesh.Proofs.ClientCompleteness
import SolMesh.Proofs.Commutation
import SolMesh.Proofs.Conservation
import SolMesh.Proofs.Creation
import SolMesh.Proofs.DemoSettled
import SolMesh.Proofs.Dispute
import SolMesh.Proofs.DisputeExit
import SolMesh.Proofs.DisputeStart
import SolMesh.Proofs.Effects
import SolMesh.Proofs.Escrow
import SolMesh.Proofs.Exchange
import SolMesh.Proofs.ExitAvailability
import SolMesh.Proofs.FeeCustody
import SolMesh.Proofs.Fees
import SolMesh.Proofs.Frame
import SolMesh.Proofs.Governance
import SolMesh.Proofs.History
import SolMesh.Proofs.Invariant
import SolMesh.Proofs.Justification
import SolMesh.Proofs.Lifecycle
import SolMesh.Proofs.Loading
import SolMesh.Proofs.MessageParity
import SolMesh.Proofs.NodeAttributes
import SolMesh.Proofs.NodeLedger
import SolMesh.Proofs.NodeOffers
import SolMesh.Proofs.NodeTrackers
import SolMesh.Proofs.Opening
import SolMesh.Proofs.OwedOrder
import SolMesh.Proofs.OwnAsset
import SolMesh.Proofs.Paths
import SolMesh.Proofs.Progress
import SolMesh.Proofs.Provenance
import SolMesh.Proofs.Records
import SolMesh.Proofs.RelayRouting
import SolMesh.Proofs.RentRule
import SolMesh.Proofs.Replay
import SolMesh.Proofs.Reputation
import SolMesh.Proofs.Rerun
import SolMesh.Proofs.SdkDispute
import SolMesh.Proofs.SdkOpening
import SolMesh.Proofs.SdkSettlement
import SolMesh.Proofs.SdkSplOpening
import SolMesh.Proofs.SdkSplSettlement
import SolMesh.Proofs.SdkTransactions
import SolMesh.Proofs.Separation
import SolMesh.Proofs.SessionCount
import SolMesh.Proofs.SessionMoves
import SolMesh.Proofs.SignatureBinding
import SolMesh.Proofs.SignatureCompleteness
import SolMesh.Proofs.Solvency
import SolMesh.Proofs.SplOpening
import SolMesh.Proofs.StorageFormat
import SolMesh.Proofs.StoredAccounts
import SolMesh.Proofs.TickFlow
import SolMesh.Proofs.TotalSupply
import SolMesh.Proofs.Transfers
import SolMesh.Proofs.Twins
import SolMesh.Proofs.Wiring
import SolMesh.Proofs.WorkAccounting
import SolMesh.Support.Channel
import SolMesh.Support.Rounding
import SolMesh.Support.Episodes
