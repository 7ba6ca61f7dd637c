/-
**Call contexts: whose name an external call is made in.**

Code runs in a `Frame` and makes its calls in the name of `this`. A call gives the target's code a
frame of its own; a delegatecall runs it in the caller's.

* `Reverts.bind`, `Reverts.attempt` — code that reverts from every state: so does what starts with
  it, and a run is not changed by it.
* `call_code`, `delegatecall_code` — the frame the target's code runs in.
-/

import AaveV2Payloads.Library.Abi
import AaveV2Payloads.Library.Runs

namespace Solidity

variable {σ α β : Type}

/-- `address(this)`, `msg.sender` and `block.timestamp`. -/
structure Frame where
  this : Address
  sender : Address
  timestamp : Nat

/-- A contract's code, from its calldata to its effect and its return data. -/
abbrev Code (σ : Type) := Frame → Bytes → Tx σ Bytes

/-- The contracts of a chain. -/
abbrev Contracts (σ : Type) := Address → Option (Code σ)

namespace Contracts

variable (contracts : Contracts σ)

/-- Runs the code at an address in a frame; an account without code does nothing. -/
def runAt (target : Address) (frame : Frame) (data : Bytes) : Tx σ Bytes :=
  match contracts target with
  | some code => code frame data
  | none => pure []

/-- `target.call(data)` -/
def call (frame : Frame) (target : Address) (data : Bytes) : Tx σ Bytes :=
  contracts.runAt target ⟨target, frame.this, frame.timestamp⟩ data

/-- `target.delegatecall(data)` -/
def delegatecall (frame : Frame) (target : Address) (data : Bytes) : Tx σ Bytes :=
  contracts.runAt target frame data

variable {contracts} {frame : Frame} {target : Address} {code : Code σ} {data : Bytes}

/-- **A called contract acts in its own name.** -/
theorem call_code (deployed : contracts target = some code) :
    contracts.call frame target data = code ⟨target, frame.this, frame.timestamp⟩ data := by
  unfold call runAt
  rw [deployed]

/-- **A delegate acts in the name of the contract that delegated.** -/
theorem delegatecall_code (deployed : contracts target = some code) :
    contracts.delegatecall frame target data = code frame data := by
  unfold delegatecall runAt
  rw [deployed]

end Contracts

/-! ### Code that always reverts -/

/-- Reverts from every state. -/
def Reverts (tx : Tx σ α) : Prop := ∀ state, ∃ reason, tx state = .error reason

/-- A function that serves one account only. -/
def ServesOnly (owner : Address) (function : Address → Tx σ α) : Prop :=
  ∀ caller, caller ≠ owner → Reverts (function caller)

theorem Reverts.bind {first : Tx σ α} (reverts : Reverts first) (next : α → Tx σ β) :
    Reverts (first >>= next) := by
  intro state
  obtain ⟨reason, failed⟩ := reverts state
  exact ⟨reason, run_bind_of_error failed⟩

/-- **A step that always reverts changes nothing.** -/
theorem Reverts.attempt {ε : Type} {step : ε → Tx σ Unit} {event : ε}
    (reverts : Reverts (step event)) (state : σ) : attempt step state event = state := by
  obtain ⟨reason, failed⟩ := reverts state
  exact attempt_of_error failed

end Solidity
