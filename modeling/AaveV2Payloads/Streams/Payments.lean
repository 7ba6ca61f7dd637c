/-
**What a step of a run does**: it opens the streams of a payload, or it pays one stream.

A withdrawal and a cancellation are both a `Payment`: an amount within the balance of the stream, paid
by its reserve to its recipient, and what is left of the stream.

* `Payment.of_withdraw`, `Payment.of_cancel` — the two calls.
* `step_cases` — **every step that goes through.**
-/

import AaveV2Payloads.Streams.Runs
import AaveV2Payloads.Streams.Tokens

namespace AaveV2Payloads

open Solidity

variable {ρ : Type}

/-- A withdrawal logs the amount, and leaves the rest; a cancellation logs it, and leaves nothing. -/
def Stream.PaidBy (stream : Stream) (streamId : ℕ) (left : Option Stream) (amount : ℕ)
    (event : StreamEvent) : Prop :=
  left = stream.withdrawn amount ∧
      event = .withdrawFromStream streamId stream.recipient amount ∨
    left = none ∧ ∃ senderBalance,
      event = .cancelStream streamId stream.sender stream.recipient senderBalance amount

/-- **A payment of a stream** went through. -/
structure Payment (controller : ReserveController ρ) (reserves : Reserves ρ) (tokens : Tokens ρ)
    (key : StreamKey) (stream : Stream) (left : Option Stream) (amount : ℕ) (event : StreamEvent)
    (before after : ρ) : Prop extends Writes reserves key left (key.1, event) before after where
  found : reserves.getStream before key = some stream
  paidBy : stream.PaidBy key.2 left amount event
  within : ∃ now balance, stream.recipientBalance now = .ok balance ∧ amount ≤ balance
  next_after : reserves.getNextStreamId after = reserves.getNextStreamId before
  /-- Whatever the tokens obey, they pay the amount to the recipient. -/
  settled : ∀ {idle paid}, tokens.Obeys controller reserves idle paid →
    paid stream.tokenAddress key.1 stream.recipient amount (tokens.balanceOf before)
      (tokens.balanceOf after)

section Payments

variable {controller : ReserveController ρ} {reserves : Reserves ρ} {tokens : Tokens ρ}
  {caller : Address} {now amount : ℕ} {key : StreamKey} {stream : Stream} {left : Option Stream}
  {event : StreamEvent} {result : Bool} {before after : ρ}

/-- What is left of a stream is the stream, with less of it remaining. -/
theorem Stream.PaidBy.next_eq {streamId : ℕ} (paidBy : stream.PaidBy streamId left amount event) :
    ∀ next ∈ left,
      next = { stream with remainingBalance := stream.remainingBalance - amount } := by
  intro next member
  rcases paidBy with ⟨rfl, _⟩ | ⟨rfl, _⟩
  · unfold Stream.withdrawn at member
    split_ifs at member
    · cases member
    · cases member
      rfl
  · cases member

/-- **A withdrawal is a payment.** -/
theorem Payment.of_withdraw (documented : reserves.Documented) (tokens : Tokens ρ)
    (controller : ReserveController ρ)
    (ran : reserves.withdrawFromStream caller now key amount before = .ok (result, after)) :
    ∃ stream, Payment controller reserves tokens key stream (stream.withdrawn amount) amount
      (.withdrawFromStream key.2 stream.recipient amount) before after := by
  obtain ⟨stream, withdrawn⟩ := documented.withdraw_effect ran
  exact ⟨stream,
    { toWrites := withdrawn.toWrites
      found := withdrawn.found
      paidBy := Or.inl ⟨rfl, rfl⟩
      within := ⟨now, withdrawn.within⟩
      next_after := withdrawn.next_after
      settled := fun obeys => obeys.withdraw withdrawn.found ran }⟩

/-- **So is a cancellation.** -/
theorem Payment.of_cancel (documented : reserves.Documented) (tokens : Tokens ρ)
    (controller : ReserveController ρ)
    (ran : reserves.cancelStream caller now key before = .ok (result, after)) :
    ∃ stream balance logged,
      Payment controller reserves tokens key stream none balance logged before after := by
  obtain ⟨stream, senderBalance, recipientBalance, cancelled⟩ := documented.cancel_effect ran
  exact ⟨stream, recipientBalance, _,
    { toWrites := cancelled.toWrites
      found := cancelled.found
      paidBy := Or.inr ⟨rfl, senderBalance, rfl⟩
      within := ⟨now, recipientBalance, cancelled.recipient_eq, le_rfl⟩
      next_after := cancelled.next_after
      settled := fun obeys => obeys.cancel cancelled.found cancelled.recipient_eq ran }⟩

/-- **What a step that goes through does.** -/
theorem step_cases (documented : reserves.Documented) (tokens : Tokens ρ) {book : AddressBook}
    {event : StreamStep} (inTime : event.timestamp + days 360 < 2 ^ 256)
    (ran : event.step controller reserves book before = .ok ((), after)) :
    (∃ payload timestamp, event = .execute payload timestamp ∧
      controller.createStreams ⟨book.shortExecutor, book.gov, timestamp⟩
        (payload.streams book timestamp) before = .ok ((), after)) ∨
      ∃ key stream left amount logged, event.Touches key ∧
        Payment controller reserves tokens key stream left amount logged before after := by
  cases event with
  | execute payload timestamp =>
      refine Or.inl ⟨payload, timestamp, rfl, ?_⟩
      change payload.execute controller book ⟨book.shortExecutor, book.gov, timestamp⟩ before = _
        at ran
      rwa [PaymentPayload.execute_eq inTime] at ran
  | withdrawFromStream caller key amount timestamp =>
      obtain ⟨result, _, withdrew, done⟩ := run_bind_ok_iff.mp ran
      cases done
      obtain ⟨stream, payment⟩ := Payment.of_withdraw documented tokens controller withdrew
      exact Or.inr ⟨key, stream, _, amount, _, rfl, payment⟩
  | cancelStream caller key timestamp =>
      obtain ⟨result, _, closed, done⟩ := run_bind_ok_iff.mp ran
      cases done
      obtain ⟨stream, balance, logged, payment⟩ :=
        Payment.of_cancel documented tokens controller closed
      exact Or.inr ⟨key, stream, none, balance, logged, rfl, payment⟩

end Payments

end AaveV2Payloads
