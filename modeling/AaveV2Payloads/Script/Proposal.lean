/-
The proposal scripts: the libraries that build the arguments of `GOV.create` for a list of payloads,
or for one, and either make the call or return its calldata.

Two pairs of these libraries are copies of each other, each file keeping its own. They are written
here over the body they share, `multiActions` and `singleActions`, and keep the names of their files.
-/

import AaveV2Payloads.AddressBook

namespace AaveV2Payloads

open Solidity Solidity.Abi

/-! ### The call `GOV.create` -/

/-- The arguments of `IAaveGovernanceV2.create`. -/
structure CreateArgs where
  executor : Address
  targets : List Address
  values : List Word
  signatures : List String
  calldatas : List Bytes
  withDelegatecalls : List Bool
  ipfsHash : Word
  deriving DecidableEq

/-- The parameter types of `create`. -/
abbrev createTypes : List AbiType :=
  [.address, .array .address, .array .uint256, .array .string, .array .bytes, .array .bool, .bytes32]

/-- The arguments at the parameter types. -/
def CreateArgs.encoded (args : CreateArgs) : Values createTypes :=
  (args.executor, args.targets, args.values, args.signatures, args.calldatas,
    args.withDelegatecalls, args.ipfsHash, ())

/-- An external call. -/
structure Call where
  target : Address
  callData : Bytes
  deriving DecidableEq

/-- A broadcasting script: the calls it made so far are on the chain, whatever comes after. -/
abbrev Script := ExceptT Revert (StateM (List Call))

/-- What a script runs against. `respond` is what a call returns, if it does not revert. -/
structure Chain where
  book : AddressBook
  createSelector : Selector
  respond : Call → Except Revert Word

/-- A computation that makes no call. -/
def noCall {α : Type} (result : Except Revert α) : Script α := ExceptT.mk (pure result)

/-- Makes a call and returns its result. -/
def Chain.call (chain : Chain) (call : Call) : Script Word := do
  modify (· ++ [call])
  noCall (chain.respond call)

/-- The call `GOV.create(…)`: its arguments are encoded at the declared parameter types. -/
def Chain.createCall (chain : Chain) (args : CreateArgs) : Call where
  target := chain.book.gov
  callData := encodeCall chain.createSelector createTypes args.encoded

def Chain.create (chain : Chain) (args : CreateArgs) : Script Word :=
  chain.call (chain.createCall args)

/-! ### The five arrays -/

/-- The arrays in memory, one entry for each action. -/
structure ActionArrays where
  targets : List Address
  values : List Word
  signatures : List String
  calldatas : List Bytes
  withDelegatecalls : List Bool
  deriving DecidableEq

/-- `new T[](length)`, five times. -/
def allocateActions (length : Nat) : Except Revert ActionArrays := do
  let targets ← newArray length 0
  let values ← newArray length 0
  let signatures ← newArray length ""
  let calldatas ← newArray length []
  let withDelegatecalls ← newArray length false
  return ⟨targets, values, signatures, calldatas, withDelegatecalls⟩

/-- Entry `i` of the five arrays. -/
def setAction (arrays : ActionArrays) (i : Nat) (payload : Address) : Except Revert ActionArrays := do
  let targets ← writeArray arrays.targets i payload
  let values ← writeArray arrays.values i 0
  let signatures ← writeArray arrays.signatures i "execute()"
  let calldatas ← writeArray arrays.calldatas i []
  let withDelegatecalls ← writeArray arrays.withDelegatecalls i true
  return ⟨targets, values, signatures, calldatas, withDelegatecalls⟩

def payloadError : String := "ERROR: PAYLOAD can't be address(0)"

def ipfsHashError : String := "ERROR: IPFS_HASH can't be bytes32(0)"

/-- The loop body of the builders for many payloads. -/
def fillAction (payloads : List Address) (i : Nat) (arrays : ActionArrays) :
    Except Revert ActionArrays := do
  let payload ← readArray payloads i
  require (payload ≠ 0) payloadError
  setAction arrays i payload

/-- The checks and the arrays of the builders for many payloads. -/
def multiActions (payloads : List Address) (ipfsHash : Word) : Except Revert ActionArrays := do
  require (ipfsHash ≠ 0) ipfsHashError
  let arrays ← allocateActions payloads.length
  forRange (fillAction payloads) 0 payloads.length arrays

/-- The checks and the arrays of the builders for one payload. -/
def singleActions (payload : Address) (ipfsHash : Word) : Except Revert ActionArrays := do
  require (payload ≠ 0) payloadError
  require (ipfsHash ≠ 0) ipfsHashError
  let arrays ← allocateActions 1
  setAction arrays 0 payload

/-- The arguments both kinds of builder pass on. -/
def ActionArrays.createArgs (book : AddressBook) (arrays : ActionArrays) (ipfsHash : Word) :
    CreateArgs where
  executor := book.shortExecutor
  targets := arrays.targets
  values := arrays.values
  signatures := arrays.signatures
  calldatas := arrays.calldatas
  withDelegatecalls := arrays.withDelegatecalls
  ipfsHash := ipfsHash

/-- `return AaveGovernanceV2.GOV.create(…)`. -/
def Chain.createProposal (chain : Chain) (built : Except Revert ActionArrays) (ipfsHash : Word) :
    Script Word := do
  let arrays ← noCall built
  chain.create (arrays.createArgs chain.book ipfsHash)

/-- `return abi.encodeWithSelector(GOV.create.selector, …)`: each argument is encoded at the type it
has here, which the compiler does not compare with the parameter types. -/
def Chain.emitProposal (chain : Chain) (built : Except Revert ActionArrays) (ipfsHash : Word) :
    Except Revert Bytes := do
  let arrays ← built
  return encodeWithSelector chain.createSelector
    [⟨.address, chain.book.shortExecutor⟩,
      ⟨.array .address, arrays.targets⟩,
      ⟨.array .uint256, arrays.values⟩,
      ⟨.array .string, arrays.signatures⟩,
      ⟨.array .bytes, arrays.calldatas⟩,
      ⟨.array .bool, arrays.withDelegatecalls⟩,
      ⟨.bytes32, ipfsHash⟩]

/-! ### The libraries, file by file -/

namespace DeployMultiMainnetProposal

-- library DeployMainnetProposal
def deployMainnetMultiProposals (chain : Chain) (payloads : List Address) (ipfsHash : Word) :
    Script Word :=
  chain.createProposal (multiActions payloads ipfsHash) ipfsHash

-- library EmitMainnetProposal
def deployMultiProposal (chain : Chain) (payloads : List Address) (ipfsHash : Word) :
    Except Revert Bytes :=
  chain.emitProposal (multiActions payloads ipfsHash) ipfsHash

/-- The payloads both entry points of the file pass: USDC, then DAI. -/
def payloads : List Address :=
  [0xeca5bdf0C2b352cBE2D9A19b555E1EC269d4765C, 0x60bCd1CaF97c3fCbC35Bf92A8852728420C34FB5]

def ipfsHash : Word := 0x92596c371b9f45caf0389154f37aa9ab679acdf2763c4ece366615345ba14cbf

/-- `EmitOp.run` -/
def emitOp (chain : Chain) : Except Revert Bytes := deployMultiProposal chain payloads ipfsHash

/-- `DeployProposal.run` -/
def deployProposal (chain : Chain) : Script Word :=
  deployMainnetMultiProposals chain payloads ipfsHash

end DeployMultiMainnetProposal

namespace DeployDaiAndUsdcLTsProposal

-- library DeployMainnetProposal
def deployMainnetMultiProposals (chain : Chain) (payloads : List Address) (ipfsHash : Word) :
    Script Word :=
  chain.createProposal (multiActions payloads ipfsHash) ipfsHash

/-- `DeployProposal.run`, on the payloads and the hash of `DeployMultiMainnetProposal`. -/
def deployProposal (chain : Chain) : Script Word :=
  deployMainnetMultiProposals chain
    [0xeca5bdf0C2b352cBE2D9A19b555E1EC269d4765C, 0x60bCd1CaF97c3fCbC35Bf92A8852728420C34FB5]
    0x92596c371b9f45caf0389154f37aa9ab679acdf2763c4ece366615345ba14cbf

end DeployDaiAndUsdcLTsProposal

namespace DeployMainnetProposal

-- library DeployMainnetProposal
def deployMainnetProposal (chain : Chain) (payload : Address) (ipfsHash : Word) : Script Word :=
  chain.createProposal (singleActions payload ipfsHash) ipfsHash

-- library EmitMainnetProposal
def deployL1Proposal (chain : Chain) (payload : Address) (ipfsHash : Word) : Except Revert Bytes :=
  chain.emitProposal (singleActions payload ipfsHash) ipfsHash

/-- `EmitOp.run`, on the long tail payload. -/
def emitOp (chain : Chain) : Except Revert Bytes :=
  deployL1Proposal chain 0x33d7385B2BF82b2183aFc66dC84EA5f3F2D240D5
    0x31cc3826fed671c95f9522cdac3cb6b6b9bf75ba311c28e84327729586254eed

/-- `DeployProposal.run` -/
def deployProposal (chain : Chain) : Script Word :=
  deployMainnetProposal chain 0x691B41805f7Ef2D7De6165bC42295b035a31600D
    0x5d0543d0e66abc240eceeae5ada6240d4d6402c2ccfe5ad521824dc36be71c45

end DeployMainnetProposal

namespace DeployLongTailLTProposal

-- library DeployMainnetProposal
def deployMainnetProposal (chain : Chain) (payload : Address) (ipfsHash : Word) : Script Word :=
  chain.createProposal (singleActions payload ipfsHash) ipfsHash

-- library EmitMainnetProposal
def deployL1Proposal (chain : Chain) (payload : Address) (ipfsHash : Word) : Except Revert Bytes :=
  chain.emitProposal (singleActions payload ipfsHash) ipfsHash

/-- `EmitOp.run`, on the long tail payload. -/
def emitOp (chain : Chain) : Except Revert Bytes :=
  deployL1Proposal chain 0x33d7385B2BF82b2183aFc66dC84EA5f3F2D240D5
    0x31cc3826fed671c95f9522cdac3cb6b6b9bf75ba311c28e84327729586254eed

/-- `DeployProposal.run`, on the long tail payload. -/
def deployProposal (chain : Chain) : Script Word :=
  deployMainnetProposal chain 0x33d7385B2BF82b2183aFc66dC84EA5f3F2D240D5
    0x31cc3826fed671c95f9522cdac3cb6b6b9bf75ba311c28e84327729586254eed

end DeployLongTailLTProposal

end AaveV2Payloads
