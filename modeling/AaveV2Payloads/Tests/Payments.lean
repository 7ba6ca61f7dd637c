/-
The tests of the payment payloads: each executes its payload on a fork of the chain, compares the
stream it opened, and lets the recipient withdraw its balance every 30 days. A test fails by an
error. The fork, the reserves and the tokens are parameters; the time of the block, which `vm.warp`
sets, is passed along with the state. Balances of the tokens are read in the state, whatever the time:
for the tests they are taken to be exact.

The comments in the tests speak of a period of 12 months. The loops of the second payment have five
rounds, and the test of the waiting months has six, without a withdrawal.
-/

import AaveV2Payloads.Streams.Claims

namespace AaveV2Payloads

open Solidity

variable {ρ : Type}

/-! ### Assertions -/

def assertEq {α : Type} [DecidableEq α] (left right : α) : Except Revert Unit :=
  require (left = right) "assertion failed"

def assertApproxEqAbs (left right maxDelta : ℕ) : Except Revert Unit :=
  require (max left right - min left right ≤ maxDelta) "assertion failed"

/-! ### What the tests share -/

/-- The fork a test runs on. -/
structure Fork (ρ : Type) where
  controller : ReserveController ρ
  reserves : Reserves ρ
  tokens : Tokens ρ
  book : AddressBook

namespace Fork

variable (fork : Fork ρ)

/-- `CHAOS_RECIPIENT` of the tests. -/
def chaosRecipient : Address := 0xbC540e0729B732fb14afA240aA5A047aE9ba7dF0

/-- `_executePayload(address(new ProposalPayload()))` -/
def executePayload (payload : PaymentPayload) (timestamp : ℕ) : Tx ρ Unit :=
  StreamStep.step fork.controller fork.reserves fork.book (.execute payload timestamp)

/-- `getStream(id)` -/
def getStream (key : StreamKey) (state : ρ) : Except Revert Stream :=
  match fork.reserves.getStream state key with
  | some stream => .ok stream
  | none => .error (.require "stream does not exist")

/-- The comparisons of a new stream, of a reserve. -/
def checkStream (stream : Stream) (reserve tokenAddress : Address) (amount duration : ℕ) :
    Except Revert Unit := do
  assertEq stream.sender reserve
  assertEq stream.recipient chaosRecipient
  assertEq stream.deposit amount
  assertEq stream.tokenAddress tokenAddress
  let length ← checkedSub stream.stopTime stream.startTime
  assertEq length duration
  assertEq stream.remainingBalance amount

/-- A round of the loops: the recipient withdraws its balance of the stream, and its balance of the
token grows by that, which is what 30 days release. -/
def withdrawRound (compare : ℕ → ℕ → Except Revert Unit) (tokenAddress : Address) (key : StreamKey)
    (ratePerSecond timestamp : ℕ) (state : ρ) : Except Revert ρ := do
  let currentChaosBalance := fork.tokens.balanceOf state tokenAddress chaosRecipient
  let currentChaosStreamBalance ← fork.reserves.balanceOf timestamp key chaosRecipient state
  let (_, after) ← fork.reserves.withdrawFromStream chaosRecipient timestamp key
    currentChaosStreamBalance state
  let expected ← checkedAdd currentChaosBalance currentChaosStreamBalance
  compare (fork.tokens.balanceOf after tokenAddress chaosRecipient) expected
  let monthly ← checkedMul ratePerSecond (days 30)
  let expectedMonthly ← checkedAdd currentChaosBalance monthly
  compare (fork.tokens.balanceOf after tokenAddress chaosRecipient) expectedMonthly
  return after

/-- The final numbers. -/
def checkFinal (tokenAddress : Address) (initialChaosBalance amount : ℕ) (state : ρ) :
    Except Revert Unit := do
  let expected ← checkedAdd initialChaosBalance amount
  assertEq (decide (expected ≤ fork.tokens.balanceOf state tokenAddress chaosRecipient)) true

end Fork

/-! ### The tests of the second payment -/

namespace ProposalPaymentPayloadV2Test

variable (fork : Fork ρ)

def ausdcStreamAmount : ℕ := 175000 * 10 ^ 6
def aaveStreamAmount : ℕ := 1242 * 10 ^ 18
def streamsDuration : ℕ := days 150
def engagementRange : ℕ := 5

/-- `(AMOUNT / STREAMS_DURATION) * STREAMS_DURATION` -/
def actualAmount (amount : ℕ) : Except Revert ℕ := do
  let ratePerSecond ← checkedDiv amount streamsDuration
  checkedMul ratePerSecond streamsDuration

/-- The body of the loops: `vm.warp(block.timestamp + 30 days)`, and a withdrawal. -/
def round (compare : ℕ → ℕ → Except Revert Unit) (tokenAddress : Address) (key : StreamKey)
    (ratePerSecond : ℕ) (_i : ℕ) : ℕ × ρ → Except Revert (ℕ × ρ) := fun (timestamp, state) => do
  let timestamp ← checkedAdd timestamp (days 30)
  let state ← fork.withdrawRound compare tokenAddress key ratePerSecond timestamp state
  return (timestamp, state)

/-- A test of one of the two streams. -/
def testStream (reserve tokenAddress : Address) (amount : ℕ)
    (compare : ℕ → ℕ → Except Revert Unit) (timestamp : ℕ) (state : ρ) : Except Revert ρ := do
  let actualAmount ← actualAmount amount
  let initialChaosBalance := fork.tokens.balanceOf state tokenAddress Fork.chaosRecipient
  let key := (reserve, fork.reserves.getNextStreamId state reserve)
  let ((), opened) ← fork.executePayload .v2Coverage timestamp state
  let stream ← fork.getStream key opened
  Fork.checkStream stream reserve tokenAddress actualAmount streamsDuration
  let (_, final) ← forRange (round fork compare tokenAddress key stream.ratePerSecond) 0
    engagementRange (timestamp, opened)
  fork.checkFinal tokenAddress initialChaosBalance actualAmount final
  return final

/-- `AUSDC` is the address book's token. -/
def testExecuteUsdc : ℕ → ρ → Except Revert ρ :=
  testStream fork fork.book.collector fork.book.usdcAToken ausdcStreamAmount
    fun left right => assertApproxEqAbs left right 1

/-- `AAVE` is the address book's `AAVE_UNDERLYING`. -/
def testExecuteAave (aaveUnderlying : Address) : ℕ → ρ → Except Revert ρ :=
  testStream fork fork.book.ecosystemReserve aaveUnderlying aaveStreamAmount assertEq

end ProposalPaymentPayloadV2Test

/-! ### The tests of the first payment -/

namespace ProposalPaymentPayloadTest

variable (fork : Fork ρ)

def ausdcStreamAmount : ℕ := 500000 * 10 ^ 6 + 12352000
def streamsEnd : ℕ := days 360
def streamsStart : ℕ := days 180
def noPaymentRange : ℕ := 6
def engagementRange : ℕ := 12

/-- The execution, and the comparisons of the new stream. -/
def openStream (timestamp : ℕ) (state : ρ) : Except Revert ((StreamKey × Stream) × ρ) := do
  let key := (fork.book.collector, fork.reserves.getNextStreamId state fork.book.collector)
  let ((), opened) ← fork.executePayload .paymentProposal timestamp state
  let stream ← fork.getStream key opened
  let duration ← checkedSub streamsEnd streamsStart
  Fork.checkStream stream fork.book.collector fork.book.usdcAToken ausdcStreamAmount duration
  return ((key, stream), opened)

/-- `assertApproxEqAbs(AUSDC.balanceOf(CHAOS_RECIPIENT), 0, 1)` -/
def assertUnpaid (state : ρ) : Except Revert Unit :=
  assertApproxEqAbs (fork.tokens.balanceOf state fork.book.usdcAToken Fork.chaosRecipient) 0 1

/-- A month without a payment. -/
def waitRound (_i : ℕ) : ℕ × ρ → Except Revert (ℕ × ρ) := fun (timestamp, state) => do
  let timestamp ← checkedAdd timestamp (days 30)
  assertUnpaid fork state
  return (timestamp, state)

/-- The body of the loop of `testExecute`. -/
def round (key : StreamKey) (ratePerSecond : ℕ) (i : ℕ) : ℕ × ρ → Except Revert (ℕ × ρ) :=
  fun (timestamp, state) => do
    if i < noPaymentRange then
      waitRound fork i (timestamp, state)
    else
      let timestamp ← checkedAdd timestamp (days 30)
      let state ← fork.withdrawRound (fun left right => assertApproxEqAbs left right 1)
        fork.book.usdcAToken key ratePerSecond timestamp state
      return (timestamp, state)

def testNoPaymentInitial6Months (timestamp : ℕ) (state : ρ) : Except Revert ρ := do
  let (_, opened) ← openStream fork timestamp state
  let (_, final) ← forRange (waitRound fork) 0 noPaymentRange (timestamp, opened)
  assertUnpaid fork final
  return final

def testExecute (timestamp : ℕ) (state : ρ) : Except Revert ρ := do
  let initialChaosBalance :=
    fork.tokens.balanceOf state fork.book.usdcAToken Fork.chaosRecipient
  let ((key, stream), opened) ← openStream fork timestamp state
  let (_, final) ← forRange (round fork key stream.ratePerSecond) 0 engagementRange
    (timestamp, opened)
  fork.checkFinal fork.book.usdcAToken initialChaosBalance ausdcStreamAmount final
  return final

end ProposalPaymentPayloadTest

end AaveV2Payloads
