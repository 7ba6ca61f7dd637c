/-
The two ways an `execute()` is reached: a direct call by any account, and a proposal the short
executor carries out. The executor is outside the repository; `ExecutorDocumented` is what its
documentation promises of how it acts.

* `Site` — an address with the code of a payload.
* `BuiltProposal` — a list of sites the builder accepted, with what it built.
* `call_site_idle` — no direct call changes the state, whatever function it calls.
* `step_direct_reverts`, `step_proposal_ok_iff` — **what one step of each kind does.**
-/

import AaveV2Payloads.Governance.Actions
import AaveV2Payloads.Payloads.Contract

namespace AaveV2Payloads

open Solidity Solidity.Abi

variable {σ : Type}

/-- The short executor, as far as it acts: how it performs one action, and how it carries out a
proposal, in a block of a given time. -/
structure Executor (σ : Type) where
  perform : Action → Nat → Tx σ Unit
  executeProposal : List Action → Nat → Tx σ Unit

/-- A chain with the payloads' external contracts, its code, and the executor. `selector` is the
first four bytes of the hash of a signature. -/
structure Environment (σ : Type) where
  book : AddressBook
  selector : String → Selector
  externals : Externals σ
  contracts : Contracts σ
  executor : Executor σ

namespace Environment

variable (environment : Environment σ)

/-- The frame of the executor, called by governance. -/
def executorFrame (timestamp : Nat) : Frame where
  this := environment.book.shortExecutor
  sender := environment.book.gov
  timestamp := timestamp

/-- What the executor documents of how it acts. Before it acts, `executeTransaction` also checks that
the action is queued, that its time has come and that the grace period is not over; those checks belong
to the queue and are left to `Timelock`. -/
structure ExecutorDocumented : Prop where
  /-- An action that is a delegatecall without value succeeds when the delegatecall does, with the
  selector of its signature in front of its data. -/
  perform_delegatecall : ∀ (action : Action) (timestamp : Nat), action.withDelegatecall = true →
    action.value = 0 → action.signature ≠ "" → ∀ before after,
      environment.executor.perform action timestamp before = .ok ((), after) ↔
        ∃ returned, environment.contracts.delegatecall (environment.executorFrame timestamp)
          action.target ((environment.selector action.signature).bytes ++ action.callData) before =
            .ok (returned, after)
  /-- A proposal is its actions in order, all of them or none. -/
  executeProposal_iff : ∀ actions timestamp before after,
    environment.executor.executeProposal actions timestamp before = .ok ((), after) ↔
      (actions.forM fun action => environment.executor.perform action timestamp) before =
        .ok ((), after)

/-- The contract of a payload. -/
def payloadCode (payload : Payload) : Code σ :=
  payload.code environment.externals environment.book environment.selector

end Environment

/-- An address at which a payload is deployed. -/
structure Site (environment : Environment σ) where
  address : Address
  payload : Payload
  deployed : environment.contracts address = some (environment.payloadCode payload)

/-- A proposal for a list of payloads, as the builder produces it. -/
structure BuiltProposal (environment : Environment σ) where
  sites : List (Site environment)
  ipfsHash : Word
  arrays : ActionArrays
  built : multiActions (sites.map (·.address)) ipfsHash = .ok arrays

/-- The effects of the payloads of a list of sites in the executor's name, once each, in order. -/
def siteEffects {environment : Environment σ} (sites : List (Site environment)) (timestamp : Nat) :
    Tx σ Unit :=
  sites.forM fun site => site.payload.execute environment.externals environment.book
    (environment.executorFrame timestamp)

def BuiltProposal.effects {environment : Environment σ} (proposal : BuiltProposal environment)
    (timestamp : Nat) : Tx σ Unit :=
  siteEffects proposal.sites timestamp

/-- A step of a run. -/
inductive ExecutionEvent (environment : Environment σ)
  /-- An account calls `execute()` of a payload. -/
  | direct (sender : Address) (site : Site environment) (timestamp : Nat)
  /-- The executor carries out a proposal. -/
  | proposal (proposal : BuiltProposal environment) (timestamp : Nat)

namespace ExecutionEvent

variable {environment : Environment σ}

def isProposal : ExecutionEvent environment → Bool
  | .direct _ _ _ => false
  | .proposal _ _ => true

def step : ExecutionEvent environment → Tx σ Unit
  | .direct sender site timestamp => do
      let _ ← environment.contracts.call ⟨sender, sender, timestamp⟩ site.address
        (environment.selector "execute()").bytes
  | .proposal built timestamp =>
      environment.executor.executeProposal
        (built.arrays.createArgs environment.book built.ipfsHash).actions timestamp

end ExecutionEvent

section Steps

variable {environment : Environment σ}

/-- **A direct call reverts**: the payload acts in its own name, and that is not the executor's. -/
theorem step_direct_reverts
    (guarded : environment.externals.Guarded environment.book.shortExecutor)
    (separate : ∀ site : Site environment, site.address ≠ environment.book.shortExecutor)
    (sender : Address) (site : Site environment) (timestamp : Nat) :
    Reverts (ExecutionEvent.step (.direct sender site timestamp)) := by
  refine Reverts.bind ?_ _
  rw [Contracts.call_code site.deployed, ← List.append_nil (environment.selector "execute()").bytes]
  unfold Environment.payloadCode
  rw [Payload.code_execute]
  exact (site.payload.execute_reverts guarded environment.book (separate site)).bind _

/-- **No direct call of a payload changes the state**, whatever its calldata. -/
theorem call_site_idle (guarded : environment.externals.Guarded environment.book.shortExecutor)
    (separate : ∀ site : Site environment, site.address ≠ environment.book.shortExecutor)
    (site : Site environment) (caller : Frame) (data : Bytes) (before : σ) :
    (∃ reason, environment.contracts.call caller site.address data before = .error reason) ∨
      ∃ returned, environment.contracts.call caller site.address data before =
        .ok (returned, before) := by
  rw [Contracts.call_code site.deployed]
  exact site.payload.code_outsider guarded environment.book environment.selector (separate site)
    data before

/-- **A delegatecall of a payload** has the payload's effect in the executor's name. -/
theorem perform_executeAction_iff (documented : environment.ExecutorDocumented)
    (site : Site environment) (timestamp : Nat) (before after : σ) :
    environment.executor.perform (executeAction site.address) timestamp before = .ok ((), after) ↔
      site.payload.execute environment.externals environment.book
        (environment.executorFrame timestamp) before = .ok ((), after) := by
  have nonempty : (executeAction site.address).signature ≠ "" := by
    show "execute()" ≠ ""
    decide
  rw [documented.perform_delegatecall _ _ rfl rfl nonempty]
  simp only [executeAction, Contracts.delegatecall_code site.deployed, Environment.payloadCode,
    Payload.code_execute]
  constructor
  · rintro ⟨_, ran⟩
    obtain ⟨_, _, executed, done⟩ := run_bind_ok_iff.mp ran
    cases done
    exact executed
  · exact fun executed => ⟨[], run_bind_of_ok executed⟩

/-- The executor performs the actions built for a list of sites. -/
theorem executeProposal_sites_iff (documented : environment.ExecutorDocumented)
    (sites : List (Site environment)) (timestamp : Nat) (before after : σ) :
    environment.executor.executeProposal ((sites.map (·.address)).map executeAction) timestamp
        before = .ok ((), after) ↔ siteEffects sites timestamp before = .ok ((), after) := by
  rw [documented.executeProposal_iff, List.map_map]
  have inOrder := List.forM_map (l := sites) (g := executeAction ∘ (·.address))
    (f := fun action => environment.executor.perform action timestamp)
  simp only [List.forM_eq_forM] at inOrder ⊢
  rw [inOrder]
  exact forM_ok_congr (fun site => perform_executeAction_iff documented site timestamp) _ _ _

/-- **A proposal is its payloads, once each and in order, in the executor's name.** -/
theorem step_proposal_ok_iff (documented : environment.ExecutorDocumented)
    (proposal : BuiltProposal environment) (timestamp : Nat) (before after : σ) :
    ExecutionEvent.step (.proposal proposal timestamp) before = .ok ((), after) ↔
      proposal.effects timestamp before = .ok ((), after) := by
  show environment.executor.executeProposal _ timestamp before = _ ↔ _
  rw [executeAll_of_multiActions proposal.built, actions_executeAll]
  exact executeProposal_sites_iff documented proposal.sites timestamp before after

end Steps

end AaveV2Payloads
