/-
Systems that do what is documented, for any payloads deployed on them: a pool and reserves side by side,
and an executor that calls.
-/

import AaveV2Payloads.System.World

namespace AaveV2Payloads

open Solidity Solidity.Abi

/-- The constants of the mainnet book are different where it matters. -/
theorem mainnet_apart : mainnet.RecipientApart := ⟨by decide, by decide, by decide⟩

theorem mainnet_distinct : mainnet.namedAssets.Nodup := by decide

section Calling

variable {γ ρ : Type} (configurator : PoolConfigurator (PoolState γ)) (controller : ReserveController ρ)
  (reserves : Reserves ρ) (deployed : Address → Option Payload)

/-- The system on a chain with the payloads of a deployment. -/
def callingSystem : System γ ρ where
  environment := callingEnvironment configurator controller deployed
  configurator := configurator
  controller := controller
  reserves := reserves
  joint := rfl

variable {configurator controller reserves deployed}

/-- **It does what is documented** when its pool and its reserves do, and no payload is deployed at
the executor's address. -/
theorem callingSystem_documented (pool : configurator.Documented mainnet.shortExecutor)
    (opens : controller.Documented reserves mainnet) (pays : reserves.Documented)
    (guarded : (jointExternals configurator controller).Guarded mainnet.shortExecutor)
    (separate : deployed mainnet.shortExecutor = none) :
    (callingSystem configurator controller reserves deployed).Documented where
  configurator := pool
  controller := opens
  reserves := pays
  executor := callingExecutor_documented rfl
  guarded := guarded
  separate := callingEnvironment_separate separate
  apart := mainnet_apart
  distinct := mainnet_distinct

end Calling

/-! ### A book of reserves -/

/-- The chain with a book of reserves. -/
def bookSystem (deployed : Address → Option Payload) : System Unit ReserveBook :=
  callingSystem (checkingConfigurator mainnet.shortExecutor) (bookController mainnet)
    (bookReserves mainnet.collectorController) deployed

theorem bookSystem_documented {deployed : Address → Option Payload}
    (separate : deployed mainnet.shortExecutor = none) : (bookSystem deployed).Documented :=
  callingSystem_documented (checkingConfigurator_documented mainnet.shortExecutor)
    (bookController_documented mainnet) (bookReserves_documented mainnet.collectorController)
    (worldExternals_guarded mainnet) separate

/-! ### The seven payloads -/

/-- The seven payloads, at the addresses from 1 to 7. -/
def sevenPayloads (address : Address) : Option Payload :=
  if address = 1 then some (.pool .daiLTDecember)
  else if address = 2 then some (.pool .usdcLTDecember)
  else if address = 3 then some (.pool .ltTailDecember)
  else if address = 4 then some (.pool .mkrFeb26)
  else if address = 5 then some (.pool .freezeDPI)
  else if address = 6 then some (.payment .paymentProposal)
  else if address = 7 then some (.payment .v2Coverage)
  else none

def sevenAddress : Payload → Address
  | .pool .daiLTDecember => 1
  | .pool .usdcLTDecember => 2
  | .pool .ltTailDecember => 3
  | .pool .mkrFeb26 => 4
  | .pool .freezeDPI => 5
  | .payment .paymentProposal => 6
  | .payment .v2Coverage => 7

theorem sevenPayloads_address (payload : Payload) :
    sevenPayloads (sevenAddress payload) = some payload := by
  cases payload with
  | pool payload => cases payload <;> rfl
  | payment payload => cases payload <;> rfl

/-- A site of the seven. -/
def sevenSite {γ ρ : Type} {configurator : PoolConfigurator (PoolState γ)}
    {controller : ReserveController ρ} {reserves : Reserves ρ} (payload : Payload) :
    Site (callingSystem configurator controller reserves sevenPayloads).environment where
  address := sevenAddress payload
  payload := payload
  deployed := by
    show (sevenPayloads _).map _ = _
    rw [sevenPayloads_address]
    rfl

end AaveV2Payloads
