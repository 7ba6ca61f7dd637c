/-
The whole system: the pool and the reserves on one chain, and everything that happens on it. Accounts
call the payloads, the executor carries out proposals, and anyone withdraws from streams or cancels
them.

* `PoolPayload.execute_lift`, `PaymentPayload.execute_lift` — a payload runs on the whole state as it
  runs on its own side.
* `siteEffects_run` — **the effect of a proposal's payloads**: the pool executions on the pool, and
  the stream openings on the reserves.
-/

import AaveV2Payloads.Execution.Chain
import AaveV2Payloads.Streams.Runs

namespace AaveV2Payloads

open Solidity

/-! ### The payloads on the whole state -/

section Lift

variable {σ τ : Type} (lifting : Lifting σ τ)

/-- **A pool payload runs as it runs on the part.** -/
theorem PoolPayload.execute_lift (configurator : PoolConfigurator σ) (book : AddressBook)
    (frame : Frame) (payload : PoolPayload) :
    payload.execute (configurator.lift lifting) book frame =
      lifting.lift (payload.execute configurator book frame) := by
  have configure (entries : List (Address × Collateral)) :
      (configurator.lift lifting).configureReserves frame entries =
        lifting.lift (configurator.configureReserves frame entries) :=
    (lifting.lift_forM _ entries).symm
  cases payload with
  | daiLTDecember => exact configure _
  | usdcLTDecember => exact configure _
  | ltTailDecember => exact configure _
  | mkrFeb26 => exact configure _
  | freezeDPI => rfl

/-- **So does a payment payload.** -/
theorem PaymentPayload.execute_lift (controller : ReserveController σ) (book : AddressBook)
    (frame : Frame) (payload : PaymentPayload) :
    payload.execute (controller.lift lifting) book frame =
      lifting.lift (payload.execute controller book frame) := by
  cases payload with
  | paymentProposal =>
      simp only [execute, PaymentProposalPayload.execute, lifting.lift_bind, lifting.lift_computed,
        lifting.lift_pure]
      rfl
  | v2Coverage =>
      simp only [execute, V2CoveragePaymentPayload.execute, lifting.lift_bind,
        lifting.lift_computed, lifting.lift_pure]
      rfl

end Lift

/-! ### The system -/

variable {γ ρ : Type}

/-- A chain whose state is a pool and a set of reserves. -/
structure System (γ ρ : Type) where
  environment : Environment (PoolState γ × ρ)
  configurator : PoolConfigurator (PoolState γ)
  controller : ReserveController ρ
  reserves : Reserves ρ
  joint : environment.externals = jointExternals configurator controller

namespace System

/-- What is relied on of everything outside the repository. -/
structure Documented (system : System γ ρ) : Prop where
  configurator : system.configurator.Documented system.environment.book.shortExecutor
  controller : system.controller.Documented system.reserves system.environment.book
  reserves : system.reserves.Documented
  executor : system.environment.ExecutorDocumented
  /-- The configurator and the controller serve the short executor only. -/
  guarded : system.environment.externals.Guarded system.environment.book.shortExecutor
  /-- The executor's account has code of its own. -/
  separate : ∀ site : Site system.environment,
    site.address ≠ system.environment.book.shortExecutor
  /-- The constants of the address book are different where it matters. -/
  apart : system.environment.book.RecipientApart
  distinct : system.environment.book.namedAssets.Nodup

/-- A run of the pool's payloads. -/
def poolRun (system : System γ ρ) : PoolState γ → List PoolExecution → PoolState γ :=
  run (poolStep system.configurator system.environment.book system.environment.book.shortExecutor)

/-- A run of the streams. -/
def streamRun (system : System γ ρ) : ρ → List StreamStep → ρ :=
  run (StreamStep.step system.controller system.reserves system.environment.book)

end System

/-- What the executor's delegatecall of a payload does to the pool. -/
def Payload.poolExecutions (sender : Address) (timestamp : Nat) : Payload → List PoolExecution
  | .pool payload => [⟨payload, sender, timestamp⟩]
  | .payment _ => []

/-- What it does to the reserves. -/
def Payload.streamSteps (timestamp : Nat) : Payload → List StreamStep
  | .pool _ => []
  | .payment payload => [.execute payload timestamp]

section Effects

variable {system : System γ ρ}

/-- The executions of the pool payloads of a list of sites. -/
def poolExecutions (sites : List (Site system.environment)) (timestamp : Nat) :
    List PoolExecution :=
  sites.flatMap fun site => site.payload.poolExecutions system.environment.book.gov timestamp

/-- The executions of the payment payloads of a list of sites. -/
def streamSteps (sites : List (Site system.environment)) (timestamp : Nat) : List StreamStep :=
  sites.flatMap fun site => site.payload.streamSteps timestamp

/-- The effect of one payload, run by the executor. -/
theorem payload_run (documented : system.Documented) {timestamp : Nat}
    (inTime : timestamp + days 360 < 2 ^ 256) (payload : Payload) (pool : PoolState γ) (state : ρ) :
    payload.execute system.environment.externals system.environment.book
        (system.environment.executorFrame timestamp) (pool, state) =
      .ok ((), (system.poolRun pool
          (payload.poolExecutions system.environment.book.gov timestamp),
        system.streamRun state (payload.streamSteps timestamp))) := by
  rw [system.joint]
  cases payload with
  | pool payload =>
      have ran : poolStep system.configurator system.environment.book
          system.environment.book.shortExecutor ⟨payload, system.environment.book.gov, timestamp⟩ pool =
            .ok ((), pool.put (payload.collaterals system.environment.book)
              (payload.freezes system.environment.book)) := poolStep_ok documented.configurator _ pool
      show payload.execute (system.configurator.lift firstSide) _ _ _ = _
      rw [PoolPayload.execute_lift]
      refine (onFirst_of_ok ran state).trans ?_
      rw [← attempt_of_ok ran]
      rfl
  | payment payload =>
      obtain ⟨after, ran, _⟩ := execute_opens documented.controller documented.apart payload inTime
        state
      show payload.execute (system.controller.lift secondSide) _ _ _ = _
      rw [PaymentPayload.execute_lift]
      refine (onSecond_of_ok ran pool).trans ?_
      rw [← attempt_of_ok ran]
      rfl

/-- **The effect of a list of payloads, run by the executor.** -/
theorem siteEffects_run (documented : system.Documented) {timestamp : Nat}
    (inTime : timestamp + days 360 < 2 ^ 256) (sites : List (Site system.environment)) :
    ∀ (pool : PoolState γ) (state : ρ), siteEffects sites timestamp (pool, state) =
      .ok ((), (system.poolRun pool (poolExecutions sites timestamp),
        system.streamRun state (streamSteps sites timestamp))) := by
  induction sites with
  | nil => exact fun _ _ => rfl
  | cons site rest ih =>
      intro pool state
      refine (run_bind_of_ok (payload_run documented inTime site.payload pool state)).trans ?_
      refine (ih _ _).trans ?_
      rw [System.poolRun, System.streamRun, ← run_append, ← run_append]
      rfl

end Effects

end AaveV2Payloads
