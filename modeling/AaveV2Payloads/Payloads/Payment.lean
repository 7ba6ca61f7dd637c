/-
The payment payloads: two contracts that open streams of tokens to Chaos Labs through the controller
of the Aave reserves, in the name of the account they run as.
-/

import AaveV2Payloads.AddressBook
import AaveV2Payloads.Library.CallContext

namespace AaveV2Payloads

open Solidity

variable {σ : Type}

/-- The arguments of `IAaveEcosystemReserveController.createStream`. -/
structure StreamArgs where
  collector : Address
  recipient : Address
  deposit : Nat
  tokenAddress : Address
  startTime : Nat
  stopTime : Nat
  deriving DecidableEq

/-- `IAaveEcosystemReserveController`, as far as the payloads call it: the caller, the time of the
block, the arguments; the new stream's id. -/
structure ReserveController (σ : Type) where
  createStream : Address → Nat → StreamArgs → Tx σ Nat

/-- `n days` -/
def days (n : Nat) : Nat := n * 86400

namespace PaymentProposalPayload

def chaosRecipient : Address := 0xbC540e0729B732fb14afA240aA5A047aE9ba7dF0

-- 500000e6 + 12352000, a multiple of 180 days
def ausdcStreamAmount : Nat := 500000 * 10 ^ 6 + 12352000

def streamsEnd : Nat := days 360
def streamsStart : Nat := days 180

def execute (controller : ReserveController σ) (book : AddressBook) (frame : Frame) :
    Tx σ Unit := do
  let startTime ← checkedAdd frame.timestamp streamsStart
  let stopTime ← checkedAdd frame.timestamp streamsEnd
  -- The source's comment says 12 months; the stream runs for the last six of them.
  let _ ← controller.createStream frame.this frame.timestamp
    { collector := book.collector
      recipient := chaosRecipient
      deposit := ausdcStreamAmount
      tokenAddress := book.usdcAToken
      startTime := startTime
      stopTime := stopTime }

end PaymentProposalPayload

namespace V2CoveragePaymentPayload

def chaosRecipient : Address := 0xbC540e0729B732fb14afA240aA5A047aE9ba7dF0

def ausdcToken : Address := 0xBcca60bB61934080951369a648Fb03DF4F96263C
def aaveToken : Address := 0x7Fc66500c84A76Ad7e9c93437bFc5Ac33E2DDaE9

def ausdcStreamAmount : Nat := 175000 * 10 ^ 6
def aaveStreamAmount : Nat := 1242 * 10 ^ 18

def streamsDuration : Nat := days 150

/-- `(amount / STREAMS_DURATION) * STREAMS_DURATION` -/
def actualAmount (amount : Nat) : Except Revert Nat := do
  let ratePerSecond ← checkedDiv amount streamsDuration
  checkedMul ratePerSecond streamsDuration

def execute (controller : ReserveController σ) (book : AddressBook) (frame : Frame) :
    Tx σ Unit := do
  let actualAmountUSDC ← actualAmount ausdcStreamAmount
  let actualAmountAave ← actualAmount aaveStreamAmount
  let usdcStopTime ← checkedAdd frame.timestamp streamsDuration
  let _ ← controller.createStream frame.this frame.timestamp
    { collector := book.collector
      recipient := chaosRecipient
      deposit := actualAmountUSDC
      tokenAddress := ausdcToken
      startTime := frame.timestamp
      stopTime := usdcStopTime }
  let aaveStopTime ← checkedAdd frame.timestamp streamsDuration
  -- AAVE itself; "aAAVE" in the comment at the amount is not the token that is paid.
  let _ ← controller.createStream frame.this frame.timestamp
    { collector := book.ecosystemReserve
      recipient := chaosRecipient
      deposit := actualAmountAave
      tokenAddress := aaveToken
      startTime := frame.timestamp
      stopTime := aaveStopTime }

end V2CoveragePaymentPayload

/-! ### The two payloads -/

inductive PaymentPayload
  | paymentProposal
  | v2Coverage
  deriving DecidableEq, Repr

namespace PaymentPayload

def execute (controller : ReserveController σ) (book : AddressBook) (frame : Frame) :
    PaymentPayload → Tx σ Unit
  | .paymentProposal => PaymentProposalPayload.execute controller book frame
  | .v2Coverage => V2CoveragePaymentPayload.execute controller book frame

/-- The streams a payload opens when it is executed at a time, in the order of its calls. -/
def streams (book : AddressBook) (timestamp : Nat) : PaymentPayload → List StreamArgs
  | .paymentProposal =>
      [⟨book.collector, PaymentProposalPayload.chaosRecipient,
        PaymentProposalPayload.ausdcStreamAmount, book.usdcAToken,
        timestamp + PaymentProposalPayload.streamsStart,
        timestamp + PaymentProposalPayload.streamsEnd⟩]
  | .v2Coverage =>
      [⟨book.collector, V2CoveragePaymentPayload.chaosRecipient,
        V2CoveragePaymentPayload.ausdcStreamAmount / V2CoveragePaymentPayload.streamsDuration *
          V2CoveragePaymentPayload.streamsDuration,
        V2CoveragePaymentPayload.ausdcToken,
        timestamp, timestamp + V2CoveragePaymentPayload.streamsDuration⟩,
      ⟨book.ecosystemReserve, V2CoveragePaymentPayload.chaosRecipient,
        V2CoveragePaymentPayload.aaveStreamAmount / V2CoveragePaymentPayload.streamsDuration *
          V2CoveragePaymentPayload.streamsDuration,
        V2CoveragePaymentPayload.aaveToken,
        timestamp, timestamp + V2CoveragePaymentPayload.streamsDuration⟩]

end PaymentPayload

/-- `COLLECTOR_CONTROLLER.createStream(…)` for each element of a list. -/
def ReserveController.createStreams (controller : ReserveController σ) (frame : Frame)
    (streams : List StreamArgs) : Tx σ Unit :=
  streams.forM fun stream => do
    let _ ← controller.createStream frame.this frame.timestamp stream

section Execute

variable {controller : ReserveController σ} {book : AddressBook} {frame : Frame}

/-- A computed value is handed on. -/
theorem liftM_ok_bind {α β : Type} (value : α) (next : α → Tx σ β) :
    (liftM (Except.ok value : Except Revert α) : Tx σ α) >>= next = next value := rfl

/-- **The rounding of the amounts** gives a multiple of the duration. -/
theorem V2CoveragePaymentPayload.actualAmount_ok (amount : Nat) (fits : amount < 2 ^ 256) :
    actualAmount amount = .ok (amount / streamsDuration * streamsDuration) := by
  have positive : streamsDuration ≠ 0 := by decide
  have smaller : amount / streamsDuration * streamsDuration < 2 ^ 256 :=
    (Nat.div_mul_le_self amount streamsDuration).trans_lt fits
  unfold actualAmount
  rw [checkedDiv_ok_iff.mpr ⟨positive, rfl⟩, ok_bind]
  exact checkedMul_ok_iff.mpr ⟨smaller, rfl⟩

/-- A time of the payloads does not overflow. -/
theorem checkedAdd_days {timestamp : Nat} (inTime : timestamp + days 360 < 2 ^ 256) (count : Nat)
    (inside : count ≤ 360) :
    checkedAdd timestamp (days count) = .ok (timestamp + days count) := by
  have earlier : days count ≤ days 360 := Nat.mul_le_mul_right _ inside
  exact checkedAdd_ok_iff.mpr ⟨(Nat.add_le_add_left earlier _).trans_lt inTime, rfl⟩

/-- **What an execution does**: it opens the payload's streams. -/
theorem PaymentPayload.execute_eq (inTime : frame.timestamp + days 360 < 2 ^ 256)
    (payload : PaymentPayload) : payload.execute controller book frame =
      controller.createStreams frame (payload.streams book frame.timestamp) := by
  cases payload with
  | paymentProposal =>
      have start : checkedAdd frame.timestamp PaymentProposalPayload.streamsStart = _ :=
        checkedAdd_days inTime 180 (by norm_num)
      have stop : checkedAdd frame.timestamp PaymentProposalPayload.streamsEnd = _ :=
        checkedAdd_days inTime 360 le_rfl
      unfold execute PaymentProposalPayload.execute
      simp only [start, stop, liftM_ok_bind, ReserveController.createStreams, streams,
        List.forM_eq_forM, List.forM_cons, List.forM_nil, bind_assoc, pure_bind]
      rfl
  | v2Coverage =>
      have usdc := V2CoveragePaymentPayload.actualAmount_ok
        V2CoveragePaymentPayload.ausdcStreamAmount (by decide)
      have aave := V2CoveragePaymentPayload.actualAmount_ok
        V2CoveragePaymentPayload.aaveStreamAmount (by decide)
      have stop : checkedAdd frame.timestamp V2CoveragePaymentPayload.streamsDuration = _ :=
        checkedAdd_days inTime 150 (by norm_num)
      unfold execute V2CoveragePaymentPayload.execute
      simp only [usdc, aave, stop, liftM_ok_bind, ReserveController.createStreams, streams,
        List.forM_eq_forM, List.forM_cons, List.forM_nil, bind_assoc, pure_bind]
      rfl

theorem reverts_liftM_bind {α β : Type} {computed : Except Revert α} {next : α → Tx σ β}
    (reverts : ∀ value, Reverts (next value)) : Reverts ((liftM computed : Tx σ α) >>= next) := by
  cases computed with
  | error reason => exact fun _ => ⟨reason, rfl⟩
  | ok value => exact reverts value

/-- A controller that serves only one account makes both payloads revert that run as another. -/
theorem PaymentPayload.execute_reverts {owner : Address}
    (createOnly : ∀ timestamp stream,
      ServesOnly owner fun caller => controller.createStream caller timestamp stream)
    (outsider : frame.this ≠ owner) (payload : PaymentPayload) :
    Reverts (payload.execute controller book frame) := by
  have create (stream : StreamArgs) :
      Reverts (controller.createStream frame.this frame.timestamp stream) :=
    createOnly frame.timestamp stream frame.this outsider
  cases payload with
  | paymentProposal =>
      refine reverts_liftM_bind fun startTime => reverts_liftM_bind fun stopTime => ?_
      exact (create _).bind _
  | v2Coverage =>
      refine reverts_liftM_bind fun actualAmountUSDC => reverts_liftM_bind fun actualAmountAave =>
        reverts_liftM_bind fun usdcStopTime => ?_
      exact (create _).bind _

end Execute

end AaveV2Payloads
