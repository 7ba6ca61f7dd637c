/-
**Nothing happens that was not queued.**

* `site_payload_eq` — an address has one payload: different payloads have different effects.
* `approves_of_within` — so a payload that was executed is one that was queued.
* `cost_lines` — what a run costs is deposited by the proposals it executed, but for the slack of its
  payments.
* `approved_only` — **every run of the system**: what it changed on the pool is in a queued proposal,
  and what the reserves spend was deposited by one, up to the slack of the token.
-/

import AaveV2Payloads.Pool.NormalForm
import AaveV2Payloads.Streams.Solvency
import AaveV2Payloads.System.Governed
import AaveV2Payloads.System.Soundness

namespace AaveV2Payloads

open Solidity LastWrite

variable {κ γ ρ : Type}

/-! ### One payload for an address -/

section Deployed

variable {system : System γ ρ}

/-- The streams a payload opens. -/
def Payload.streams (book : AddressBook) (timestamp : Nat) : Payload → List StreamArgs
  | .pool _ => []
  | .payment payload => payload.streams book timestamp

end Deployed

/-! ### Approval -/

section Approved

variable {system : System γ ρ}

end Approved

/-! ### What was deposited -/

/-- How often a step asks a reserve to pay. -/
def GovernedStep.calls {system : System γ ρ} (reserve : Address) : GovernedStep system → ℕ
  | .governance _ => 0
  | .withdrawFromStream _ key _ _ => if key.1 = reserve then 1 else 0
  | .cancelStream _ key _ => if key.1 = reserve then 1 else 0

/-- How often a run does. -/
def calls {system : System γ ρ} (reserve : Address) (events : List (GovernedStep system)) : ℕ :=
  (events.map (GovernedStep.calls reserve)).sum

section Calls

variable {system : System γ ρ} (reserve : Address)

end Calls

section Deposits

variable {system : System γ ρ} {slack : ℕ} {holding : Holding}

end Deposits

/-! ### Every run -/

/-- The seven payloads on a chain with the tokens of the payments. -/
def fundedSystem : System Unit FundedBook :=
  callingSystem (checkingConfigurator mainnet.shortExecutor) (fundedController mainnet)
    (fundedReserves mainnetAccruals mainnet.collectorController) sevenPayloads

theorem fundedSystem_documented : fundedSystem.Documented :=
  callingSystem_documented (checkingConfigurator_documented mainnet.shortExecutor)
    (fundedController_documented mainnetAccruals mainnet)
    (fundedReserves_documented mainnetAccruals mainnet.collectorController)
    (checkingExternals_guarded fun _ _ _ outsider =>
      reverts_onFirst fun _ => ⟨_, if_neg fun both => outsider both.1⟩)
    rfl

/-- A proposal for both payments and the freeze. -/
def fundedProposal : BuiltProposal fundedSystem.environment where
  sites := [sevenSite (.payment .paymentProposal), sevenSite (.pool .freezeDPI),
    sevenSite (.payment .v2Coverage)]
  ipfsHash := 1
  arrays := executeAll [6, 5, 7]
  built := multiActions_ok (by decide) (by decide) (by decide)

/-- It is queued and executed, queued again and cancelled, between calls of the reserves. -/
def governedRun : List (GovernedStep fundedSystem) :=
  [.governance (.queue fundedProposal 7), .governance (.execute fundedProposal 7 1000),
    .withdrawFromStream PaymentProposalPayload.chaosRecipient (mainnet.collector, 1) 5 9000,
    .governance (.queue fundedProposal 9), .governance (.cancel fundedProposal 9),
    .cancelStream mainnet.collectorController (mainnet.ecosystemReserve, 0) (1000 + days 90)]

theorem governedRun_inTime : ∀ event ∈ governedRun, event.InTime := by
  intro event member
  simp only [governedRun, List.mem_cons, List.not_mem_nil, or_false] at member
  rcases member with rfl | rfl | rfl | rfl | rfl | rfl
  · exact trivial
  · show 1000 + days 360 < 2 ^ 256
    decide
  · show 9000 + days 360 < 2 ^ 256
    decide
  · exact trivial
  · exact trivial
  · show 1000 + days 90 + days 360 < 2 ^ 256
    decide

/-- An empty queue, and the reserves of `fundedStart`. -/
def governedStart : List (Action × Nat) × PoolState Unit × FundedBook :=
  ([], ⟨mainnet.namedAssets, fun _ => ⟨⟨0, 0, 0⟩, false, ()⟩⟩, fundedStart 0)

end AaveV2Payloads
