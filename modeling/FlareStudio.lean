import FlareStudio.Shared.Bytes
import FlareStudio.Shared.Keccak
import FlareStudio.Shared.CallMachine
import FlareStudio.Shared.Abi
import FlareStudio.Contracts.ConfidentialPolicy
import FlareStudio.Contracts.PolicyFactory
import FlareStudio.Contracts.StatusMachine
import FlareStudio.Contracts.FundSafety
import FlareStudio.Contracts.FdcNonexistenceTrigger
import FlareStudio.Contracts.FdcSoundness
import FlareStudio.Contracts.ManualHeartbeatTrigger
import FlareStudio.Contracts.TimestampTrigger
import FlareStudio.Shared.WriteOnce
import FlareStudio.Contracts.TriggerOwnership
import FlareStudio.Extension.Policy
import FlareStudio.Shared.Json
import FlareStudio.Extension.Confidentiality
import FlareStudio.Extension.Wire
import FlareStudio.Extension.Holdings
import FlareStudio.Policy.Commitment
import FlareStudio.EndToEnd.SignatureBinding
import FlareStudio.Shared.Zod
import FlareStudio.Contracts.ConfiguredOnce
import FlareStudio.Contracts.FdcSchedule
import FlareStudio.Contracts.ProofOfLife
import FlareStudio.Policy.Schema
import FlareStudio.Policy.Compile
import FlareStudio.Policy.Deploy
import FlareStudio.Shared.Apportion
import FlareStudio.Contracts.Payout
import FlareStudio.EndToEnd.Distribution
import FlareStudio.Extension.StoreSemantics
import FlareStudio.Extension.Dispatch
import FlareStudio.Extension.Routing
import FlareStudio.Policy.Plaintext
import FlareStudio.EndToEnd.Acceptance
import FlareStudio.EndToEnd.Completeness
import FlareStudio.Contracts.FdcBoundaries
import FlareStudio.Contracts.TeeAttestorGate
import FlareStudio.Extension.Refusals
import FlareStudio.Policy.Separation
import FlareStudio.Web.Configure
import FlareStudio.Shared.FixedPoint
import FlareStudio.Web.Amounts
import FlareStudio.Shared.Throwing
import FlareStudio.Web.DeployPolicy
import FlareStudio.Web.DeployOutcome
import FlareStudio.Web.SaltKept
import FlareStudio.Web.Retry
import FlareStudio.Policy.Assets
import FlareStudio.Shared.Double
import FlareStudio.Shared.Numeral
import FlareStudio.Policy.Canonical
import FlareStudio.Shared.Aes
import FlareStudio.Shared.Sha256
import FlareStudio.Policy.Ecies
import FlareStudio.Orchestrator.Instructions
import FlareStudio.Policy.TeeInfo
import FlareStudio.Web.Progress
import FlareStudio.Shared.Keyed
import FlareStudio.Web.VaultHistory
import FlareStudio.Web.Builder
import FlareStudio.Web.Deadline
import FlareStudio.Policy.KeyStream
import FlareStudio.Shared.Magnitude
import FlareStudio.Web.Duration
import FlareStudio.Web.Interval
import FlareStudio.Web.Triggers
import FlareStudio.Shared.Accepts
import FlareStudio.Shared.Conversion
import FlareStudio.Web.Canvas
import FlareStudio.Shared.Rooted
import FlareStudio.Web.Picture
import FlareStudio.Web.Inspector
import FlareStudio.Contracts.InstructionSender
import FlareStudio.EndToEnd.Relay
import FlareStudio.Scaffold.Encoding
import FlareStudio.Scaffold.LockedServer
import FlareStudio.Shared.Arithmetic
import FlareStudio.Shared.Journal
import FlareStudio.Tools.Registration
import FlareStudio.Web.Listing
import FlareStudio.Web.Recipients
