import AaveV2Payloads.Library.Execution
import AaveV2Payloads.Library.Runs
import AaveV2Payloads.Library.Simulation
import AaveV2Payloads.Library.Abi
import AaveV2Payloads.Library.AbiRoundTrip
import AaveV2Payloads.Library.Registry
import AaveV2Payloads.Library.Slots
import AaveV2Payloads.Library.LastWrite
import AaveV2Payloads.Library.Vesting
import AaveV2Payloads.Library.FixedPoint
import AaveV2Payloads.Library.CallContext
import AaveV2Payloads.AddressBook
import AaveV2Payloads.Script.Proposal
import AaveV2Payloads.Script.BuilderLoop
import AaveV2Payloads.Script.Calldata
import AaveV2Payloads.Governance.Actions
import AaveV2Payloads.Governance.Queue
import AaveV2Payloads.Payloads.Pool
import AaveV2Payloads.Payloads.Payment
import AaveV2Payloads.Payloads.Contract
import AaveV2Payloads.Pool.State
import AaveV2Payloads.Pool.Sequences
import AaveV2Payloads.Pool.NormalForm
import AaveV2Payloads.Streams.Reserve
import AaveV2Payloads.Streams.Ledger
import AaveV2Payloads.Streams.Tracked
import AaveV2Payloads.Streams.Runs
import AaveV2Payloads.Streams.Book
import AaveV2Payloads.Streams.Soundness
import AaveV2Payloads.Execution.Steps
import AaveV2Payloads.Execution.Sides
import AaveV2Payloads.Execution.Chain
import AaveV2Payloads.Execution.Outsiders
import AaveV2Payloads.Execution.Lifecycle
import AaveV2Payloads.System.World
import AaveV2Payloads.System.Reference
import AaveV2Payloads.System.Refinement
import AaveV2Payloads.System.Soundness
import AaveV2Payloads.System.Timelock
import AaveV2Payloads.System.Governed
import AaveV2Payloads.System.Delegation
import AaveV2Payloads.System.Deployment
import AaveV2Payloads.Streams.Tokens
import AaveV2Payloads.Streams.Payments
import AaveV2Payloads.Streams.Funded
import AaveV2Payloads.Streams.Solvency
import AaveV2Payloads.Streams.Claims
import AaveV2Payloads.Streams.Finality
import AaveV2Payloads.Streams.Observer
import AaveV2Payloads.System.Approval
import AaveV2Payloads.System.Accounting
import AaveV2Payloads.Tests.Payments
import AaveV2Payloads.Tests.Passing
