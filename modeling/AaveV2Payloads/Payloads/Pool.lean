/-
The pool payloads: five contracts that change the configuration of reserves on Aave v2. All their
calls go to the pool configurator, in the name of the account they run as.

Four of them configure reserves as collateral, one after the other, and differ only in the list of
reserves and values; the fifth freezes a reserve.
-/

import AaveV2Payloads.AddressBook
import AaveV2Payloads.Library.CallContext

namespace AaveV2Payloads

open Solidity

variable {σ : Type}

/-- `ILendingPoolConfigurator`, as far as the payloads call it. The first argument is the caller. -/
structure PoolConfigurator (σ : Type) where
  configureReserveAsCollateral : Address → Address → Nat → Nat → Nat → Tx σ Unit
  freezeReserve : Address → Address → Tx σ Unit

/-- What makes a reserve collateral: the parameters, in 1/10000. -/
structure Collateral where
  ltv : Nat
  liquidationThreshold : Nat
  liquidationBonus : Nat
  deriving DecidableEq, Repr

/-- `POOL_CONFIGURATOR.configureReserveAsCollateral(asset, …)`, for each entry of a list. -/
def PoolConfigurator.configureReserves (configurator : PoolConfigurator σ) (frame : Frame)
    (entries : List (Address × Collateral)) : Tx σ Unit :=
  entries.forM fun (asset, collateral) => configurator.configureReserveAsCollateral frame.this asset
    collateral.ltv collateral.liquidationThreshold collateral.liquidationBonus

namespace DaiLTDecemberPayload

def ltv : Nat := 7500
def liquidationThreshold : Nat := 8700
def liquidationBonus : Nat := 10400

def collaterals (book : AddressBook) : List (Address × Collateral) :=
  [(book.daiUnderlying, ⟨ltv, liquidationThreshold, liquidationBonus⟩)]

def execute (configurator : PoolConfigurator σ) (book : AddressBook) (frame : Frame) : Tx σ Unit :=
  configurator.configureReserves frame (collaterals book)

end DaiLTDecemberPayload

namespace UsdcLTDecemberPayload

def ltv : Nat := 8000
def liquidationThreshold : Nat := 8750
def liquidationBonus : Nat := 10450

def collaterals (book : AddressBook) : List (Address × Collateral) :=
  [(book.usdcUnderlying, ⟨ltv, liquidationThreshold, liquidationBonus⟩)]

def execute (configurator : PoolConfigurator σ) (book : AddressBook) (frame : Frame) : Tx σ Unit :=
  configurator.configureReserves frame (collaterals book)

end UsdcLTDecemberPayload

namespace LTTailDecemberPayload

def ensLtv : Nat := 4700
def ensLiquidationThreshold : Nat := 5700
def ensLiquidationBonus : Nat := 10800

def mkrLtv : Nat := 6200
def mkrLiquidationThreshold : Nat := 6700
def mkrLiquidationBonus : Nat := 10750

def snxLtv : Nat := 4600
def snxLiquidationThreshold : Nat := 6200
def snxLiquidationBonus : Nat := 10750

def crvLtv : Nat := 5200
def crvLiquidationThreshold : Nat := 5800
def crvLiquidationBonus : Nat := 10800

def collaterals (book : AddressBook) : List (Address × Collateral) :=
  [(book.ensUnderlying, ⟨ensLtv, ensLiquidationThreshold, ensLiquidationBonus⟩),
    (book.mkrUnderlying, ⟨mkrLtv, mkrLiquidationThreshold, mkrLiquidationBonus⟩),
    (book.snxUnderlying, ⟨snxLtv, snxLiquidationThreshold, snxLiquidationBonus⟩),
    (book.crvUnderlying, ⟨crvLtv, crvLiquidationThreshold, crvLiquidationBonus⟩)]

def execute (configurator : PoolConfigurator σ) (book : AddressBook) (frame : Frame) : Tx σ Unit :=
  configurator.configureReserves frame (collaterals book)

end LTTailDecemberPayload

-- MKRPayload-Feb26.sol
namespace MKRPayloadFeb26

def mkr (book : AddressBook) : Address := book.mkrUnderlying
def mkrLtv : Nat := 5900
def mkrLiquidationThreshold : Nat := 6400
def mkrLiquidationBonus : Nat := 10750

def collaterals (book : AddressBook) : List (Address × Collateral) :=
  [(mkr book, ⟨mkrLtv, mkrLiquidationThreshold, mkrLiquidationBonus⟩)]

def execute (configurator : PoolConfigurator σ) (book : AddressBook) (frame : Frame) : Tx σ Unit :=
  configurator.configureReserves frame (collaterals book)

end MKRPayloadFeb26

namespace AaveV2FreezeDPIPayload

def execute (configurator : PoolConfigurator σ) (book : AddressBook) (frame : Frame) : Tx σ Unit :=
  configurator.freezeReserve frame.this book.dpiUnderlying

end AaveV2FreezeDPIPayload

/-! ### The five payloads -/

inductive PoolPayload
  | daiLTDecember
  | usdcLTDecember
  | ltTailDecember
  | mkrFeb26
  | freezeDPI
  deriving DecidableEq, Repr

namespace PoolPayload

def execute (configurator : PoolConfigurator σ) (book : AddressBook) (frame : Frame) :
    PoolPayload → Tx σ Unit
  | .daiLTDecember => DaiLTDecemberPayload.execute configurator book frame
  | .usdcLTDecember => UsdcLTDecemberPayload.execute configurator book frame
  | .ltTailDecember => LTTailDecemberPayload.execute configurator book frame
  | .mkrFeb26 => MKRPayloadFeb26.execute configurator book frame
  | .freezeDPI => AaveV2FreezeDPIPayload.execute configurator book frame

/-- The reserves a payload configures as collateral, in the order of its calls. -/
def collaterals (book : AddressBook) : PoolPayload → List (Address × Collateral)
  | .daiLTDecember => DaiLTDecemberPayload.collaterals book
  | .usdcLTDecember => UsdcLTDecemberPayload.collaterals book
  | .ltTailDecember => LTTailDecemberPayload.collaterals book
  | .mkrFeb26 => MKRPayloadFeb26.collaterals book
  | .freezeDPI => []

/-- The reserves a payload freezes. -/
def freezes (book : AddressBook) : PoolPayload → List (Address × Bool)
  | .freezeDPI => [(book.dpiUnderlying, true)]
  | _ => []

end PoolPayload

/-- A configurator that serves only its admin makes every payload revert that runs as another
account. -/
theorem PoolPayload.execute_reverts {configurator : PoolConfigurator σ} {admin : Address}
    (configureOnly : ∀ asset ltv liquidationThreshold liquidationBonus,
      ServesOnly admin fun caller => configurator.configureReserveAsCollateral caller asset ltv
        liquidationThreshold liquidationBonus)
    (freezeOnly : ∀ asset, ServesOnly admin fun caller => configurator.freezeReserve caller asset)
    (book : AddressBook) {frame : Frame} (outsider : frame.this ≠ admin) (payload : PoolPayload) :
    Reverts (payload.execute configurator book frame) := by
  have configure (asset : Address) (collateral : Collateral)
      (rest : List (Address × Collateral)) :
      Reverts (configurator.configureReserves frame ((asset, collateral) :: rest)) :=
    (configureOnly asset _ _ _ frame.this outsider).bind _
  cases payload with
  | daiLTDecember => exact configure _ _ _
  | usdcLTDecember => exact configure _ _ _
  | ltTailDecember => exact configure _ _ _
  | mkrFeb26 => exact configure _ _ _
  | freezeDPI => exact freezeOnly _ frame.this outsider

end AaveV2Payloads
