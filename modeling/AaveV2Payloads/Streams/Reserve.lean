/-
The reserves that hold the streams, as the interface `IStreamable` shows them, and what the payloads
and their streams rely on. Reserves and controller are outside the repository; `Documented` is what
they promise: which calls succeed, and what a successful call leaves (`Opened`, `Withdrawn`,
`Cancelled`).
-/

import AaveV2Payloads.Payloads.Payment

namespace AaveV2Payloads

open Solidity

variable {ρ : Type}

/-! ### The interface -/

/-- What `getStream` returns. -/
structure Stream where
  sender : Address
  recipient : Address
  deposit : Nat
  tokenAddress : Address
  startTime : Nat
  stopTime : Nat
  remainingBalance : Nat
  ratePerSecond : Nat
  deriving DecidableEq

/-- The events of `IStreamable`. -/
inductive StreamEvent
  | createStream (streamId : Nat) (sender recipient : Address) (deposit : Nat)
      (tokenAddress : Address) (startTime stopTime : Nat)
  | withdrawFromStream (streamId : Nat) (recipient : Address) (amount : Nat)
  | cancelStream (streamId : Nat) (sender recipient : Address)
      (senderBalance recipientBalance : Nat)
  deriving DecidableEq

/-- A stream is named by its reserve and its id. -/
abbrev StreamKey := Address × Nat

/-- All reserves, on one state: the views, the log of their events, and the functions on a stream.
The functions take the caller and the time of the block first. -/
structure Reserves (ρ : Type) where
  getStream : ρ → StreamKey → Option Stream
  getNextStreamId : ρ → Address → Nat
  getFundsAdmin : ρ → Address → Address
  log : ρ → List (Address × StreamEvent)
  balanceOf : Nat → StreamKey → Address → ρ → Except Revert Nat
  withdrawFromStream : Address → Nat → StreamKey → Nat → Tx ρ Bool
  cancelStream : Address → Nat → StreamKey → Tx ρ Bool
  /-- The token lets the reserve transfer an amount to a recipient. -/
  canTransfer : ρ → (reserve tokenAddress recipient : Address) → Nat → Prop

/-! ### The balances of a stream -/

namespace Stream

variable (stream : Stream) (now : Nat)

/-- `deltaOf`: the seconds of the stream that have passed. -/
def deltaOf : Nat :=
  if now ≤ stream.startTime then 0
  else if now < stream.stopTime then now - stream.startTime
  else stream.stopTime - stream.startTime

/-- `balanceOf` for the recipient: what has been streamed, less what was withdrawn. -/
def recipientBalance : Except Revert Nat := do
  let streamed ← checkedMul (stream.deltaOf now) stream.ratePerSecond
  if stream.remainingBalance < stream.deposit then
    let withdrawn ← checkedSub stream.deposit stream.remainingBalance
    checkedSub streamed withdrawn
  else
    return streamed

/-- `balanceOf` for the sender: what remains, less the recipient's balance. -/
def senderBalance : Except Revert Nat := do
  let recipientBalance ← stream.recipientBalance now
  checkedSub stream.remainingBalance recipientBalance

end Stream

/-! ### What the calls do -/

/-- The checks of `createStream`, called by `caller`. -/
structure CreateChecks (caller : Address) (now : Nat) (args : StreamArgs) : Prop where
  not_zero : args.recipient ≠ 0
  not_reserve : args.recipient ≠ args.collector
  not_caller : args.recipient ≠ caller
  deposit_pos : 0 < args.deposit
  not_past : now ≤ args.startTime
  ordered : args.startTime < args.stopTime
  deposit_ge : args.stopTime - args.startTime ≤ args.deposit
  deposit_dvd : args.stopTime - args.startTime ∣ args.deposit

/-- The stream `createStream` stores. -/
def StreamArgs.stream (args : StreamArgs) : Stream where
  sender := args.collector
  recipient := args.recipient
  deposit := args.deposit
  tokenAddress := args.tokenAddress
  startTime := args.startTime
  stopTime := args.stopTime
  remainingBalance := args.deposit
  ratePerSecond := args.deposit / (args.stopTime - args.startTime)

/-- The event of `createStream`. -/
def StreamArgs.created (args : StreamArgs) (streamId : Nat) : Address × StreamEvent :=
  (args.collector, .createStream streamId args.collector args.recipient args.deposit
    args.tokenAddress args.startTime args.stopTime)

/-- A call that writes one stream, and logs one event. -/
structure Writes (reserves : Reserves ρ) (key : StreamKey) (stream : Option Stream)
    (event : Address × StreamEvent) (before after : ρ) : Prop where
  written : reserves.getStream after key = stream
  others : ∀ other, other ≠ key → reserves.getStream after other = reserves.getStream before other
  logged : reserves.log after = reserves.log before ++ [event]

/-- `createStream` went through. -/
structure Opened (reserves : Reserves ρ) (args : StreamArgs) (streamId : Nat) (before after : ρ) :
    Prop extends Writes reserves (args.collector, streamId) (some args.stream)
      (args.created streamId) before after where
  next : streamId = reserves.getNextStreamId before args.collector
  next_after : reserves.getNextStreamId after =
    Function.update (reserves.getNextStreamId before) args.collector (streamId + 1)

/-- The stream after a withdrawal: deleted when nothing remains. -/
def Stream.withdrawn (stream : Stream) (amount : Nat) : Option Stream :=
  if stream.remainingBalance - amount = 0 then none
  else some { stream with remainingBalance := stream.remainingBalance - amount }

/-- `withdrawFromStream` went through: the amount was not more than the recipient's balance. -/
structure Withdrawn (reserves : Reserves ρ) (now : Nat) (key : StreamKey) (amount : Nat)
    (stream : Stream) (before after : ρ) : Prop extends
      Writes reserves key (stream.withdrawn amount)
        (key.1, .withdrawFromStream key.2 stream.recipient amount) before after where
  found : reserves.getStream before key = some stream
  within : ∃ balance, stream.recipientBalance now = .ok balance ∧ amount ≤ balance
  next_after : reserves.getNextStreamId after = reserves.getNextStreamId before

/-- `cancelStream` went through: the stream is deleted, and its balances are paid out and kept. -/
structure Cancelled (reserves : Reserves ρ) (now : Nat) (key : StreamKey)
    (senderBalance recipientBalance : Nat) (stream : Stream) (before after : ρ) : Prop extends
      Writes reserves key none (key.1, .cancelStream key.2 stream.sender stream.recipient
        senderBalance recipientBalance) before after where
  found : reserves.getStream before key = some stream
  sender_eq : stream.senderBalance now = .ok senderBalance
  recipient_eq : stream.recipientBalance now = .ok recipientBalance
  next_after : reserves.getNextStreamId after = reserves.getNextStreamId before

/-- What the reserves document. -/
structure Reserves.Documented (reserves : Reserves ρ) : Prop where
  balanceOf_recipient : ∀ {now key state stream}, reserves.getStream state key = some stream →
    reserves.balanceOf now key stream.recipient state = stream.recipientBalance now
  balanceOf_sender : ∀ {now key state stream}, reserves.getStream state key = some stream →
    stream.sender ≠ stream.recipient →
      reserves.balanceOf now key stream.sender state = stream.senderBalance now
  withdraw_effect : ∀ {caller now key amount before result after},
    reserves.withdrawFromStream caller now key amount before = .ok (result, after) →
      ∃ stream, Withdrawn reserves now key amount stream before after
  /-- A withdrawal by the recipient or the admin, within the balance, goes through. -/
  withdraw_ok : ∀ {caller now key amount before stream balance},
    reserves.getStream before key = some stream →
      caller = stream.recipient ∨ caller = reserves.getFundsAdmin before key.1 →
      0 < amount → reserves.balanceOf now key stream.recipient before = .ok balance →
      amount ≤ balance →
      reserves.canTransfer before key.1 stream.tokenAddress stream.recipient amount →
        ∃ after, reserves.withdrawFromStream caller now key amount before = .ok (true, after)
  cancel_effect : ∀ {caller now key before result after},
    reserves.cancelStream caller now key before = .ok (result, after) →
      ∃ stream senderBalance recipientBalance,
        Cancelled reserves now key senderBalance recipientBalance stream before after

/-- A withdrawal of nothing is refused. -/
def Reserves.RefusesZero (reserves : Reserves ρ) : Prop :=
  ∀ {caller now key before result after},
    reserves.withdrawFromStream caller now key 0 before ≠ .ok (result, after)

/-- What the controller documents of the two reserves it administers: the short executor may open
streams, and the arguments have to pass the checks of the reserve, whose caller is the controller. -/
structure ReserveController.Documented (controller : ReserveController ρ) (reserves : Reserves ρ)
    (book : AddressBook) : Prop where
  create_iff : ∀ {caller now args before},
    args.collector = book.collector ∨ args.collector = book.ecosystemReserve →
      ((∃ streamId after, controller.createStream caller now args before = .ok (streamId, after)) ↔
        caller = book.shortExecutor ∧ CreateChecks book.collectorController now args)
  create_effect : ∀ {caller now args before streamId after},
    args.collector = book.collector ∨ args.collector = book.ecosystemReserve →
      controller.createStream caller now args before = .ok (streamId, after) →
        Opened reserves args streamId before after

end AaveV2Payloads
