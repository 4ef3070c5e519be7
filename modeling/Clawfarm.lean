import Clawfarm.Masterpool.Solvency
import Clawfarm.Masterpool.ProviderLedger
import Clawfarm.Masterpool.RewardLedger
import Clawfarm.Masterpool.Conservation
import Clawfarm.Masterpool.Payout
import Clawfarm.Masterpool.Enforcement
import Clawfarm.Masterpool.Rollback
import Clawfarm.Masterpool.Payments
import Clawfarm.Masterpool.Closing
import Clawfarm.Masterpool.Exit
import Clawfarm.Masterpool.Vesting
import Clawfarm.Masterpool.Governance
import Clawfarm.Masterpool.FaucetLimits
import Clawfarm.Masterpool.Offsets
import Clawfarm.Masterpool.Snapshots
import Clawfarm.Masterpool.Charge
import Clawfarm.Masterpool.Balances
import Clawfarm.Masterpool.Types
import Clawfarm.Masterpool.Enabled
import Clawfarm.Masterpool.BondPayments
import Clawfarm.Masterpool.ProviderDebt
import Clawfarm.Masterpool.Owners
import Clawfarm.Masterpool.Pauses
import Clawfarm.Masterpool.Releases
import Clawfarm.Masterpool.FaucetClaims
import Clawfarm.Masterpool.Operators
import Clawfarm.Masterpool.Initialization
import Clawfarm.Protocol.Program
import Clawfarm.Protocol.Payments
import Clawfarm.Attestation.Ed25519
import Clawfarm.Attestation.Events
import Clawfarm.Protocol.Authorization
import Clawfarm.Protocol.Window
import Clawfarm.Protocol.Types
import Clawfarm.Protocol.Liveness
import Clawfarm.Protocol.BondPayments
import Clawfarm.Protocol.Owners
import Clawfarm.Protocol.EventLog
import Clawfarm.Protocol.Pauses
import Clawfarm.Protocol.Operators
import Clawfarm.Protocol.Initialization
import Clawfarm.Gateway.Lookup
import Clawfarm.Gateway.Metadata
import Clawfarm.Gateway.Validation
import Clawfarm.Gateway.RoundTrip
