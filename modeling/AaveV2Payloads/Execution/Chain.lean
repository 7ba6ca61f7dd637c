/-
Chains that do what is documented, for any payloads deployed on them: a pool and a set of reserves side
by side, and an executor that performs its actions by calling. On one of them three of the payloads are
at the addresses the scripts propose.

* `callingExecutor_documented` — an executor that calls does what is documented.
* `callingEnvironment_separate` — no payload has the executor's address.
-/

import AaveV2Payloads.Execution.Sides
import AaveV2Payloads.Execution.Steps
import AaveV2Payloads.Pool.Sequences
import AaveV2Payloads.Streams.Book

namespace AaveV2Payloads

open Solidity Solidity.Abi

/-! ### An executor -/

section Executor

variable {σ : Type} (contracts : Contracts σ) (selector : String → Selector) (frame : Nat → Frame)

/-- The call of an action. -/
def actionCall (action : Action) (timestamp : Nat) : Tx σ Bytes :=
  let callData :=
    if action.signature = "" then action.callData
    else (selector action.signature).bytes ++ action.callData
  if action.withDelegatecall then contracts.delegatecall (frame timestamp) action.target callData
  else contracts.call (frame timestamp) action.target callData

/-- `executeTransaction`, of an action whose time has come. -/
def performAction (action : Action) (timestamp : Nat) : Tx σ Unit := fun before =>
  match actionCall contracts selector frame action timestamp before with
  | .ok (_, after) => .ok ((), after)
  | .error _ => .error (.require "FAILED_ACTION_EXECUTION")

/-- An executor that performs the actions of a proposal one after the other. -/
def callingExecutor : Executor σ where
  perform := performAction contracts selector frame
  executeProposal actions timestamp :=
    actions.forM fun action => performAction contracts selector frame action timestamp

theorem performAction_ok_iff (action : Action) (timestamp : Nat) (before after : σ) :
    performAction contracts selector frame action timestamp before = .ok ((), after) ↔
      ∃ returned, actionCall contracts selector frame action timestamp before =
        .ok (returned, after) := by
  unfold performAction
  cases actionCall contracts selector frame action timestamp before with
  | ok result => simp [Prod.ext_iff]
  | error reason => simp

variable {contracts selector frame} {action : Action}

/-- An action with a signature, as a delegatecall. -/
theorem actionCall_delegate (delegate : action.withDelegatecall = true) (signed : action.signature ≠ "")
    (timestamp : Nat) : actionCall contracts selector frame action timestamp =
      contracts.delegatecall (frame timestamp) action.target
        ((selector action.signature).bytes ++ action.callData) := by
  unfold actionCall
  rw [if_pos delegate, if_neg signed]

/-- An action with a signature, as a call. -/
theorem actionCall_plain (plain : action.withDelegatecall = false) (signed : action.signature ≠ "")
    (timestamp : Nat) : actionCall contracts selector frame action timestamp =
      contracts.call (frame timestamp) action.target
        ((selector action.signature).bytes ++ action.callData) := by
  unfold actionCall
  rw [plain, if_neg signed]
  rfl

/-- **An executor that calls does what is documented**, on the code of its chain. -/
theorem callingExecutor_documented {environment : Environment σ}
    (calling : environment.executor = callingExecutor environment.contracts environment.selector
      environment.executorFrame) : environment.ExecutorDocumented where
  perform_delegatecall action timestamp delegate _ signed before after := by
    rw [calling]
    refine (performAction_ok_iff _ _ _ action timestamp before after).trans ?_
    rw [actionCall_delegate delegate signed]
  executeProposal_iff actions timestamp before after := by
    rw [calling]
    rfl

end Executor

/-! ### A chain -/

/-- The selector of `execute()`; the getters are not called. -/
def executeSelector (signature : String) : Selector :=
  if signature = "execute()" then ⟨[0x61, 0x46, 0x19, 0x54], rfl⟩ else ⟨[0, 0, 0, 0], rfl⟩

/-- The frame of the executor. -/
def bookFrame (timestamp : Nat) : Frame := ⟨mainnet.shortExecutor, mainnet.gov, timestamp⟩

section Calling

variable {γ ρ : Type} (configurator : PoolConfigurator (PoolState γ)) (controller : ReserveController ρ)
  (deployed : Address → Option Payload)

/-- The payloads deployed at addresses of the mainnet book. -/
def deployedContracts : Contracts (PoolState γ × ρ) := fun address =>
  (deployed address).map fun payload =>
    payload.code (jointExternals configurator controller) mainnet executeSelector

/-- The chain with the payloads of a deployment. -/
def callingEnvironment : Environment (PoolState γ × ρ) where
  book := mainnet
  selector := executeSelector
  externals := jointExternals configurator controller
  contracts := deployedContracts configurator controller deployed
  executor :=
    callingExecutor (deployedContracts configurator controller deployed) executeSelector bookFrame

variable {configurator controller deployed}

/-- No payload is deployed at the executor's address. -/
theorem callingEnvironment_separate (separate : deployed mainnet.shortExecutor = none)
    (site : Site (callingEnvironment configurator controller deployed)) :
    site.address ≠ mainnet.shortExecutor := by
  intro same
  have found := site.deployed
  rw [same] at found
  change (deployed mainnet.shortExecutor).map _ = some _ at found
  rw [separate] at found
  cases found

/-- The configurator of the pool serves the short executor, and so does the chain when the controller
does. -/
theorem checkingExternals_guarded {owner : Address}
    (create : ∀ timestamp stream, ServesOnly owner fun caller =>
      controller.createStream caller timestamp stream) :
    (jointExternals (checkingConfigurator owner : PoolConfigurator (PoolState γ))
      controller).Guarded owner := by
  refine jointExternals_guarded ?_ ?_ create
  · intro asset ltv liquidationThreshold liquidationBonus caller outsider state
    exact ⟨_, if_neg fun both => outsider both.1⟩
  · intro asset caller outsider state
    exact ⟨_, if_neg outsider⟩

end Calling

/-! ### The shipped proposal -/

/-- The pool and the reserves. -/
abbrev World := PoolState Unit × ReserveBook

def worldExternals (book : AddressBook) : Externals World :=
  jointExternals (checkingConfigurator book.shortExecutor) (bookController book)

theorem worldExternals_guarded (book : AddressBook) :
    (worldExternals book).Guarded book.shortExecutor :=
  checkingExternals_guarded fun _ _ _ outsider _ => ⟨_, if_neg fun both => outsider both.1⟩

/-- The addresses the scripts propose, and the payloads there. -/
def deployedPayload (address : Address) : Option Payload :=
  if address = 0xeca5bdf0C2b352cBE2D9A19b555E1EC269d4765C then some (.pool .usdcLTDecember)
  else if address = 0x60bCd1CaF97c3fCbC35Bf92A8852728420C34FB5 then some (.pool .daiLTDecember)
  else if address = 0x33d7385B2BF82b2183aFc66dC84EA5f3F2D240D5 then some (.pool .ltTailDecember)
  else none

def worldEnvironment : Environment World :=
  callingEnvironment (checkingConfigurator mainnet.shortExecutor) (bookController mainnet)
    deployedPayload

/-- The USDC payload, and the DAI payload. -/
def usdcSite : Site worldEnvironment :=
  ⟨0xeca5bdf0C2b352cBE2D9A19b555E1EC269d4765C, .pool .usdcLTDecember, rfl⟩

def daiSite : Site worldEnvironment :=
  ⟨0x60bCd1CaF97c3fCbC35Bf92A8852728420C34FB5, .pool .daiLTDecember, rfl⟩

/-- The proposal of the scripts. -/
def shippedProposal : BuiltProposal worldEnvironment where
  sites := [usdcSite, daiSite]
  ipfsHash := DeployMultiMainnetProposal.ipfsHash
  arrays := executeAll DeployMultiMainnetProposal.payloads
  built := multiActions_ok (by decide) (by decide) (by decide)

end AaveV2Payloads
