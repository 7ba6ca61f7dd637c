/-
The seven payloads as contracts on a chain: the external contracts they call, and what each does
with its calldata. Beside `execute()` a payload has one getter for each public constant.
-/

import AaveV2Payloads.Payloads.Payment
import AaveV2Payloads.Payloads.Pool

namespace AaveV2Payloads

open Solidity Solidity.Abi

variable {σ : Type}

/-- The external contracts the payloads call. -/
structure Externals (σ : Type) where
  configurator : PoolConfigurator σ
  controller : ReserveController σ

/-- The payloads under `src/payloads`. -/
inductive Payload
  | pool (payload : PoolPayload)
  | payment (payload : PaymentPayload)
  deriving DecidableEq, Repr

namespace Payload

/-- `execute()` -/
def execute (externals : Externals σ) (book : AddressBook) (frame : Frame) : Payload → Tx σ Unit
  | .pool payload => payload.execute externals.configurator book frame
  | .payment payload => payload.execute externals.controller book frame

/-- The public constants. -/
def getters (book : AddressBook) : Payload → List (String × Nat)
  | .pool .daiLTDecember =>
      [("LTV()", DaiLTDecemberPayload.ltv),
        ("LIQUIDATION_THRESHOLD()", DaiLTDecemberPayload.liquidationThreshold),
        ("LIQUIDATION_BONUS()", DaiLTDecemberPayload.liquidationBonus)]
  | .pool .usdcLTDecember =>
      [("LTV()", UsdcLTDecemberPayload.ltv),
        ("LIQUIDATION_THRESHOLD()", UsdcLTDecemberPayload.liquidationThreshold),
        ("LIQUIDATION_BONUS()", UsdcLTDecemberPayload.liquidationBonus)]
  | .pool .ltTailDecember =>
      [("ENS_LTV()", LTTailDecemberPayload.ensLtv),
        ("ENS_LIQUIDATION_THRESHOLD()", LTTailDecemberPayload.ensLiquidationThreshold),
        ("ENS_LIQUIDATION_BONUS()", LTTailDecemberPayload.ensLiquidationBonus),
        ("MKR_LTV()", LTTailDecemberPayload.mkrLtv),
        ("MKR_LIQUIDATION_THRESHOLD()", LTTailDecemberPayload.mkrLiquidationThreshold),
        ("MKR_LIQUIDATION_BONUS()", LTTailDecemberPayload.mkrLiquidationBonus),
        ("SNX_LTV()", LTTailDecemberPayload.snxLtv),
        ("SNX_LIQUIDATION_THRESHOLD()", LTTailDecemberPayload.snxLiquidationThreshold),
        ("SNX_LIQUIDATION_BONUS()", LTTailDecemberPayload.snxLiquidationBonus),
        ("CRV_LTV()", LTTailDecemberPayload.crvLtv),
        ("CRV_LIQUIDATION_THRESHOLD()", LTTailDecemberPayload.crvLiquidationThreshold),
        ("CRV_LIQUIDATION_BONUS()", LTTailDecemberPayload.crvLiquidationBonus)]
  | .pool .mkrFeb26 =>
      [("MKR()", (MKRPayloadFeb26.mkr book).toNat),
        ("MKR_LTV()", MKRPayloadFeb26.mkrLtv),
        ("MKR_LIQUIDATION_THRESHOLD()", MKRPayloadFeb26.mkrLiquidationThreshold),
        ("MKR_LIQUIDATION_BONUS()", MKRPayloadFeb26.mkrLiquidationBonus)]
  | .pool .freezeDPI => []
  | .payment .paymentProposal =>
      [("CHAOS_RECIPIENT()", PaymentProposalPayload.chaosRecipient.toNat),
        ("AUSDC_STREAM_AMOUNT()", PaymentProposalPayload.ausdcStreamAmount),
        ("STREAMS_END()", PaymentProposalPayload.streamsEnd),
        ("STREAMS_START()", PaymentProposalPayload.streamsStart)]
  | .payment .v2Coverage =>
      [("CHAOS_RECIPIENT()", V2CoveragePaymentPayload.chaosRecipient.toNat),
        ("AUSDC_TOKEN()", V2CoveragePaymentPayload.ausdcToken.toNat),
        ("AAVE_TOKEN()", V2CoveragePaymentPayload.aaveToken.toNat),
        ("AUSDC_STREAM_AMOUNT()", V2CoveragePaymentPayload.ausdcStreamAmount),
        ("AAVE_STREAM_AMOUNT()", V2CoveragePaymentPayload.aaveStreamAmount),
        ("STREAMS_DURATION()", V2CoveragePaymentPayload.streamsDuration)]

/-- The contract: `execute()`, the getters, nothing else. `selector` is the first four bytes of the
hash of a signature. -/
def code (externals : Externals σ) (book : AddressBook) (selector : String → Selector)
    (payload : Payload) : Code σ := fun frame data =>
  if data.take 4 = (selector "execute()").bytes then do
    payload.execute externals book frame
    return []
  else
    match (payload.getters book).find? fun getter => data.take 4 = (selector getter.1).bytes with
    | some getter => return wordBytes (BitVec.ofNat 256 getter.2)
    | none => throw .noFunction

variable {externals : Externals σ} {book : AddressBook} {selector : String → Selector}
  {frame : Frame}

/-- **The calldata of `execute()`** runs it, whatever follows the selector. -/
theorem code_execute (payload : Payload) (arguments : Bytes) :
    payload.code externals book selector frame ((selector "execute()").bytes ++ arguments) = do
      payload.execute externals book frame
      return [] := by
  have called : ((selector "execute()").bytes ++ arguments).take 4 = (selector "execute()").bytes :=
    List.take_left' (selector "execute()").four
  unfold code
  rw [if_pos called]

end Payload

/-- What the payloads rely on: the configurator and the controller serve nobody but one account. -/
structure Externals.Guarded (externals : Externals σ) (owner : Address) : Prop where
  configureReserveAsCollateral : ∀ asset ltv liquidationThreshold liquidationBonus,
    ServesOnly owner fun caller => externals.configurator.configureReserveAsCollateral caller asset
      ltv liquidationThreshold liquidationBonus
  freezeReserve : ∀ asset,
    ServesOnly owner fun caller => externals.configurator.freezeReserve caller asset
  createStream : ∀ timestamp stream,
    ServesOnly owner fun caller => externals.controller.createStream caller timestamp stream

/-- **No payload gets past its first call in another name.** -/
theorem Payload.execute_reverts {externals : Externals σ} {owner : Address} {frame : Frame}
    (guarded : externals.Guarded owner) (book : AddressBook) (outsider : frame.this ≠ owner)
    (payload : Payload) : Reverts (payload.execute externals book frame) := by
  cases payload with
  | pool payload =>
      exact payload.execute_reverts guarded.configureReserveAsCollateral guarded.freezeReserve book
        outsider
  | payment payload => exact payload.execute_reverts guarded.createStream outsider

/-- **No call by another name has any effect**, whatever its calldata: it reverts, or it reads a
constant. -/
theorem Payload.code_outsider {externals : Externals σ} {owner : Address} {frame : Frame}
    (guarded : externals.Guarded owner) (book : AddressBook) (selector : String → Selector)
    (outsider : frame.this ≠ owner) (payload : Payload) (data : Bytes) (before : σ) :
    (∃ reason, payload.code externals book selector frame data before = .error reason) ∨
      ∃ returned, payload.code externals book selector frame data before = .ok (returned, before) := by
  unfold code
  by_cases called : data.take 4 = (selector "execute()").bytes
  · rw [if_pos called]
    exact Or.inl (((payload.execute_reverts guarded book outsider).bind _) before)
  · rw [if_neg called]
    cases (payload.getters book).find? fun getter => data.take 4 = (selector getter.1).bytes with
    | none => exact Or.inl ⟨_, rfl⟩
    | some getter => exact Or.inr ⟨_, rfl⟩

end AaveV2Payloads
