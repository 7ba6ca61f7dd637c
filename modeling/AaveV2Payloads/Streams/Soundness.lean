/-
**The payment streams are accepted, never over-paid, and fully payable.**

`StreamSound` is what a sound account (`Accounted`) says about a stream in the terms of the reserve;
`payment_streams_sound` says it of every stream a run opens, at every point of the run.
-/

import AaveV2Payloads.Streams.Book
import AaveV2Payloads.Streams.Runs

namespace AaveV2Payloads

open Solidity Vesting

variable {ρ : Type}

/-- The seconds of a stream that have passed. -/
def StreamArgs.secondsPassed (args : StreamArgs) (now : ℕ) : ℕ :=
  min (now - args.startTime) (args.stopTime - args.startTime)

def StreamArgs.ratePerSecond (args : StreamArgs) : ℕ :=
  args.deposit / (args.stopTime - args.startTime)

/-- **What holds of a stream**, opened with `args`, when `emitted` is the log since the run began. -/
structure StreamSound (reserves : Reserves ρ) (now : ℕ) (state : ρ) (emitted : EventLog)
    (key : StreamKey) (args : StreamArgs) : Prop where
  deposit_pos : 0 < args.deposit
  deposit_dvd : args.stopTime - args.startTime ∣ args.deposit
  /-- Nothing is lost: while the stream is open, -/
  conserved_open : ∀ stream, reserves.getStream state key = some stream →
    paidOf emitted key + stream.remainingBalance = args.deposit
  /-- after a cancellation, -/
  conserved_cancelled : WasCancelled emitted key →
    paidOf emitted key + keptOf emitted key = args.deposit
  /-- and when the stream ended by itself. -/
  conserved_ended : reserves.getStream state key = none → ¬ WasCancelled emitted key →
    paidOf emitted key = args.deposit
  /-- Nothing is paid ahead of time. -/
  released : paidOf emitted key ≤ args.ratePerSecond * args.secondsPassed now
  /-- The subtractions of `balanceOf` and `withdrawFromStream` do not underflow. -/
  balances : ∀ stream, reserves.getStream state key = some stream → ∃ balance,
    reserves.balanceOf now key stream.recipient state = .ok balance ∧
      paidOf emitted key + balance = args.ratePerSecond * args.secondsPassed now ∧
      balance ≤ stream.remainingBalance ∧
      reserves.balanceOf now key stream.sender state = .ok (stream.remainingBalance - balance)
  /-- From the stop time on an open stream pays all that remains. -/
  payable : args.stopTime ≤ now → ∀ stream, reserves.getStream state key = some stream →
    reserves.canTransfer state key.1 stream.tokenAddress stream.recipient stream.remainingBalance →
      ∃ after paying, reserves.withdrawFromStream stream.recipient now key stream.remainingBalance
          state = .ok (true, after) ∧
        reserves.log after = reserves.log state ++ paying ∧
        paidOf (emitted ++ paying) key = args.deposit

section Sound

variable {reserves : Reserves ρ} {now : ℕ} {state : ρ} {emitted : EventLog} {key : StreamKey}
  {args : StreamArgs} {valid : args.Valid}

theorem accrued_eq (valid : args.Valid) : (args.schedule valid).accrued now =
    args.ratePerSecond * args.secondsPassed now := by
  show args.secondsPassed now • args.ratePerSecond = _
  rw [nsmul_eq_mul, Nat.cast_id, Nat.mul_comm]

/-- A cancelled stream is closed. -/
theorem Accounted.closed (accounted : Accounted reserves now state emitted key args valid)
    (cancelled : WasCancelled emitted key) : reserves.getStream state key = none := by
  cases found : reserves.getStream state key with
  | none => rfl
  | some stream => exact absurd cancelled (accounted.uncancelled stream found)

/-- **A sound account makes a sound stream.** -/
theorem Accounted.streamSound (documented : reserves.Documented)
    (accounted : Accounted reserves now state emitted key args valid) :
    StreamSound reserves now state emitted key args := by
  have conserved : paidOf emitted key + heldOf reserves state emitted key = args.deposit :=
    accounted.sound.conserved.trans (schedule_total valid)
  refine
    { deposit_pos := valid.deposit_pos
      deposit_dvd := valid.deposit_dvd
      conserved_open := fun stream found => heldOf_open emitted found ▸ conserved
      conserved_cancelled := fun cancelled => heldOf_closed (accounted.closed cancelled) ▸ conserved
      conserved_ended := fun ended uncancelled => ?_
      released := accrued_eq valid ▸ accounted.sound.covered
      balances := fun stream found => ?_
      payable := fun late stream found transfer => ?_ }
  · rwa [heldOf_closed ended, keptOf_eq_zero uncancelled, Nat.add_zero] at conserved
  · have sound := accounted.sound_open found
    have stored := accounted.stored stream found
    have apart : stream.sender ≠ stream.recipient := by
      rw [stored]
      exact valid.not_reserve.symm
    refine ⟨_, (documented.balanceOf_recipient found).trans
      (recipientBalance_eq valid stored sound), ?_, sound.due_le_held,
      (documented.balanceOf_sender found apart).trans (senderBalance_eq valid stored sound)⟩
    rw [← accrued_eq valid]
    exact add_tsub_cancel_of_le sound.covered
  · have sound := accounted.sound_open found
    have stored := accounted.stored stream found
    have all := recipientBalance_eq valid stored sound
    rw [sound.due_after late] at all
    obtain ⟨after, ran⟩ := documented.withdraw_ok found (Or.inl rfl) (accounted.remains stream found)
      ((documented.balanceOf_recipient found).trans all) le_rfl transfer
    obtain ⟨paidStream, withdrawn⟩ := documented.withdraw_effect ran
    refine ⟨after, _, ran, withdrawn.logged, ?_⟩
    have about : eventKey (key.1, StreamEvent.withdrawFromStream key.2 paidStream.recipient
      stream.remainingBalance) = key := rfl
    rw [paidOf_append about]
    exact heldOf_open emitted found ▸ conserved

end Sound

/-- **What holds of a run of payments.** -/
structure PaymentsSound (controller : ReserveController ρ) (reserves : Reserves ρ)
    (book : AddressBook) (initial : ρ) (events : List StreamStep) : Prop where
  /-- No execution reverts: its streams pass the checks of the reserve, and are opened. -/
  executions : ∀ line ∈ trace (StreamStep.step controller reserves book) initial events,
    ∀ payload timestamp, line.event = .execute payload timestamp → line.succeeded = true ∧
      (∀ args ∈ payload.streams book timestamp,
        CreateChecks book.collectorController timestamp args) ∧
      ∃ opening, reserves.log line.after = reserves.log line.before ++ opening ∧
        opening.map openedArgs = (payload.streams book timestamp).map some
  /-- At every point of the run, and until the next step, every stream opened so far is sound; the
  streams of the payment proposal have paid nothing until 180 days after its execution. -/
  streams : ∀ soFar later, events = soFar ++ later →
    ∀ now, lastTime StreamStep.timestamp 0 soFar ≤ now → ∃ emitted,
      reserves.log (run (StreamStep.step controller reserves book) initial soFar) =
        reserves.log initial ++ emitted ∧
      ∀ event ∈ emitted, ∀ args, openedArgs event = some args →
        StreamSound reserves now (run (StreamStep.step controller reserves book) initial soFar)
          emitted (eventKey event) args ∧
        ∃ payload timestamp, .execute payload timestamp ∈ soFar ∧
          args ∈ payload.streams book timestamp ∧
          (payload = .paymentProposal → now ≤ timestamp + days 180 →
            paidOf emitted (eventKey event) = 0)

/-- **The payment streams are accepted, never over-paid, and fully payable.** -/
theorem payment_streams_sound (controller : ReserveController ρ) (reserves : Reserves ρ)
    (book : AddressBook) (documentedReserves : reserves.Documented)
    (documented : controller.Documented reserves book) (apart : book.RecipientApart) (initial : ρ)
    (unused : ∀ reserve streamId, reserves.getNextStreamId initial reserve ≤ streamId →
      reserves.getStream initial (reserve, streamId) = none)
    (events : List StreamStep) (ordered : Chronological StreamStep.timestamp 0 events)
    (inTime : ∀ event ∈ events, event.timestamp + days 360 < 2 ^ 256) :
    PaymentsSound controller reserves book initial events where
  executions line member payload timestamp same := by
    obtain ⟨inside, outcome, after⟩ := mem_trace events initial member
    have early : timestamp + days 360 < 2 ^ 256 := by
      have := inTime line.event inside
      rwa [same] at this
    obtain ⟨next, ran, opened⟩ := execute_opens documented apart payload early line.before
    rw [outcome, after, same, attempt_of_ok ran]
    refine ⟨succeeds_of_ok ran, fun args member => ?_, opened.logged⟩
    exact (streams_checked apart payload timestamp args member).2.1
  streams soFar later split now late := by
    subst split
    obtain ⟨emitted, logged, tracked⟩ := tracked_run documentedReserves documented apart unused
      ordered.of_append (fun event member => inTime event (List.mem_append_left _ member)) late
    refine ⟨emitted, logged, fun event member args opened => ?_⟩
    obtain ⟨⟨payload, timestamp, executed, asked⟩, valid, accounted⟩ :=
      tracked.accounted event member args opened
    refine ⟨accounted.streamSound documentedReserves, payload, timestamp, executed, asked, ?_⟩
    rintro rfl early
    refine accounted.sound.unpaid_before ?_
    obtain rfl := List.mem_singleton.mp asked
    exact early

/-- Both payloads, a withdrawal at the end of the first stream, and a cancellation. -/
theorem payment_streams_sound_book :
    PaymentsSound (bookController mainnet) (bookReserves mainnet.collectorController) mainnet
      ReserveBook.empty
      [.execute .paymentProposal 1000, .execute .v2Coverage 2000,
        .withdrawFromStream PaymentProposalPayload.chaosRecipient (mainnet.collector, 0)
          PaymentProposalPayload.ausdcStreamAmount (1000 + days 360),
        .cancelStream mainnet.collectorController (mainnet.ecosystemReserve, 0)
          (1000 + days 400)] :=
  payment_streams_sound (bookController mainnet) (bookReserves mainnet.collectorController) mainnet
    (bookReserves_documented _) (bookController_documented mainnet)
    ⟨by decide, by decide, by decide⟩ ReserveBook.empty (fun _ _ _ => rfl) _
    ⟨by decide, by decide, by decide, by decide, trivial⟩ (by decide)

end AaveV2Payloads
