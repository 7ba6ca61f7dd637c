/-
**A cancelled stream is settled for good.**

A cancellation pays what is released at its time and keeps the rest, whatever was withdrawn before;
from then on nothing about the stream changes. `Gone` is the invariant: the stream is not stored, its
id is used up, and nothing was logged about it.

* `Gone.opened`, `Gone.write` — no call on another stream brings it back.
* `gone_run` — **no run brings it back**, and `touched_fails` — no call on it goes through.
* `cancellation_final` — what a cancellation settles, at the end of every run.
-/

import AaveV2Payloads.Library.Simulation
import AaveV2Payloads.Streams.Claims

namespace AaveV2Payloads

open Solidity Vesting

variable {ρ : Type}

/-! ### Streams that are gone -/

/-- A stream is gone, and nothing was logged about it since the log was `closing`. -/
structure Gone (reserves : Reserves ρ) (closing : EventLog) (key : StreamKey) (state : ρ) : Prop where
  absent : reserves.getStream state key = none
  used : key.2 < reserves.getNextStreamId state key.1
  silent : ∃ since, reserves.log state = closing ++ since ∧ ∀ event ∈ since, eventKey event ≠ key

namespace Gone

variable {controller : ReserveController ρ} {reserves : Reserves ρ} {book : AddressBook}
  {closing : EventLog} {key : StreamKey} {before after : ρ}

/-- **A call on another stream.** -/
theorem write {other : StreamKey} {written : Option Stream} {event : Address × StreamEvent}
    (gone : Gone reserves closing key before) (different : key ≠ other)
    (about : eventKey event = other) (writes : Writes reserves other written event before after)
    (used : reserves.getNextStreamId before key.1 ≤ reserves.getNextStreamId after key.1) :
    Gone reserves closing key after := by
  obtain ⟨since, logged, silent⟩ := gone.silent
  refine ⟨(writes.others key different).trans gone.absent, gone.used.trans_le used,
    since ++ [event], ?_, fun next member => ?_⟩
  · rw [writes.logged, logged, List.append_assoc]
  · rcases List.mem_append.mp member with old | new
    · exact silent next old
    · rw [List.mem_singleton.mp new, about]
      exact different.symm

/-- **Opening a stream** takes an id that is not used up. -/
theorem opened {args : StreamArgs} {streamId : ℕ} (gone : Gone reserves closing key before)
    (opened : Opened reserves args streamId before after) : Gone reserves closing key after := by
  have different : key ≠ (args.collector, streamId) := by
    rintro rfl
    exact (gone.used.trans_eq opened.next.symm).ne rfl
  refine gone.write different rfl opened.toWrites ?_
  rw [opened.next_after]
  by_cases here : key.1 = args.collector
  · rw [here, Function.update_self, opened.next]
    exact Nat.le_succ _
  · rw [Function.update_of_ne here]

theorem openedAll {streams : List StreamArgs} (opened : OpenedAll reserves streams before after)
    (gone : Gone reserves closing key before) : Gone reserves closing key after := by
  induction opened with
  | nil state => exact gone
  | cons first _ ih => exact ih (gone.opened first)

end Gone

section Final

variable {controller : ReserveController ρ} {reserves : Reserves ρ} {book : AddressBook}
  {closing : EventLog} {key : StreamKey}

/-- A call on a stream that goes through found it. -/
theorem touched_found (documented : reserves.Documented) {event : StreamStep} {before after : ρ}
    (touches : event.Touches key) (ran : event.step controller reserves book before = .ok ((), after)) :
    ∃ stream, reserves.getStream before key = some stream := by
  cases event with
  | execute payload timestamp => cases touches
  | withdrawFromStream caller other amount timestamp =>
      cases touches
      obtain ⟨result, _, withdrew, _⟩ := run_bind_ok_iff.mp ran
      obtain ⟨stream, withdrawn⟩ := documented.withdraw_effect withdrew
      exact ⟨stream, withdrawn.found⟩
  | cancelStream caller other timestamp =>
      cases touches
      obtain ⟨result, _, closed, _⟩ := run_bind_ok_iff.mp ran
      obtain ⟨stream, senderBalance, recipientBalance, cancelled⟩ :=
        documented.cancel_effect closed
      exact ⟨stream, cancelled.found⟩

/-- **No call on a stream that is gone goes through.** -/
theorem touched_fails (documented : reserves.Documented) {event : StreamStep} {state : ρ}
    (gone : Gone reserves closing key state) (touches : event.Touches key) :
    succeeds (StreamStep.step controller reserves book) state event = false := by
  refine Bool.eq_false_iff.mpr fun succeeded => ?_
  obtain ⟨stream, found⟩ := touched_found documented touches (succeeds_iff.mp succeeded)
  cases gone.absent.symm.trans found

/-- **Every step leaves a stream gone.** -/
theorem gone_step (documentedReserves : reserves.Documented)
    (documented : controller.Documented reserves book) (apart : book.RecipientApart)
    {event : StreamStep} (inTime : event.timestamp + days 360 < 2 ^ 256) {before after : ρ}
    (gone : Gone reserves closing key before)
    (ran : event.step controller reserves book before = .ok ((), after)) :
    Gone reserves closing key after := by
  by_cases touches : event.Touches key
  · have failed : succeeds (StreamStep.step controller reserves book) before event = false :=
      touched_fails documentedReserves gone touches
    rw [succeeds_of_ok ran] at failed
    cases failed
  · cases event with
    | execute payload timestamp =>
        obtain ⟨next, executed, opened⟩ := execute_opens documented apart payload inTime before
        cases ran.symm.trans executed
        exact gone.openedAll opened
    | withdrawFromStream caller other amount timestamp =>
        obtain ⟨result, _, withdrew, done⟩ := run_bind_ok_iff.mp ran
        cases done
        obtain ⟨stream, withdrawn⟩ := documentedReserves.withdraw_effect withdrew
        exact gone.write (fun same => touches same.symm) rfl withdrawn.toWrites
          (congrFun withdrawn.next_after key.1).ge
    | cancelStream caller other timestamp =>
        obtain ⟨result, _, closed, done⟩ := run_bind_ok_iff.mp ran
        cases done
        obtain ⟨stream, senderBalance, recipientBalance, cancelled⟩ :=
          documentedReserves.cancel_effect closed
        exact gone.write (fun same => touches same.symm) rfl cancelled.toWrites
          (congrFun cancelled.next_after key.1).ge

/-- **No run brings a stream back.** -/
theorem gone_run (documentedReserves : reserves.Documented)
    (documented : controller.Documented reserves book) (apart : book.RecipientApart)
    {events : List StreamStep} (inTime : ∀ event ∈ events, event.timestamp + days 360 < 2 ^ 256)
    {state : ρ} (gone : Gone reserves closing key state) :
    Gone reserves closing key (run (StreamStep.step controller reserves book) state events) :=
  run_invariant (fun event => event.timestamp + days 360 < 2 ^ 256) (Gone reserves closing key)
    (fun _ _ _ early holds ran => gone_step documentedReserves documented apart early holds ran)
    events state inTime gone

end Final

/-! ### What a cancellation settles -/

section Sums

variable {quantity : StreamEvent → ℕ} {key : StreamKey}

theorem sumOf_append_silent {log since : EventLog} (silent : ∀ event ∈ since, eventKey event ≠ key) :
    sumOf quantity (log ++ since) key = sumOf quantity log key := by
  have nothing : sumOf quantity since key = 0 := sumOf_of_absent silent
  unfold sumOf at nothing ⊢
  rw [List.filter_append, List.map_append, List.sum_append, nothing, Nat.add_zero]

end Sums

/-- **The account of a stream that is cancelled** pays all that is released. -/
theorem Accounted.settled {reserves : Reserves ρ} {now senderBalance recipientBalance : ℕ}
    {before after : ρ} {log : EventLog} {key : StreamKey} {args : StreamArgs} {valid : args.Valid}
    {stream : Stream} (accounted : Accounted reserves now before log key args valid)
    (cancelled : Cancelled reserves now key senderBalance recipientBalance stream before after) :
    paidOf log key + recipientBalance = args.released now ∧
      keptOf log key + senderBalance = args.deposit - args.released now := by
  have stored := accounted.stored stream cancelled.found
  have sound := accounted.sound_open cancelled.found
  have recipient_eq := cancelled.recipient_eq
  have sender_eq := cancelled.sender_eq
  rw [recipientBalance_eq valid stored sound] at recipient_eq
  rw [senderBalance_eq valid stored sound] at sender_eq
  cases recipient_eq
  cases sender_eq
  have conserved : paidOf log key + stream.remainingBalance = args.deposit :=
    sound.conserved.trans (schedule_total valid)
  have covered : paidOf log key ≤ args.released now := (released_eq valid).symm ▸ sound.covered
  rw [keptOf_eq_zero (accounted.uncancelled stream cancelled.found), Account.due,
    ← released_eq valid]
  dsimp only
  omega

section Cancelled

variable {reserves : Reserves ρ} {origin : StreamArgs → Prop} {now senderBalance recipientBalance : ℕ}
  {before after : ρ} {emitted : EventLog} {key : StreamKey} {stream : Stream}

/-- **A stream is gone when it is cancelled.** -/
theorem Tracked.gone (tracked : Tracked reserves origin now before emitted)
    (cancelled : Cancelled reserves now key senderBalance recipientBalance stream before after) :
    Gone reserves (reserves.log after) key after := by
  refine ⟨cancelled.written, ?_, [], (List.append_nil _).symm, fun _ member => by cases member⟩
  rw [cancelled.next_after]
  by_contra late
  have absent := (tracked.unused key.1 key.2 (Nat.le_of_not_lt late)).1
  cases absent.symm.trans cancelled.found

/-- **The sums of a cancelled stream**, in a log that goes on without it. -/
theorem Tracked.settled (tracked : Tracked reserves origin now before emitted)
    (cancelled : Cancelled reserves now key senderBalance recipientBalance stream before after)
    {closing since : EventLog} (cancels : closing = emitted ++ [(key.1, .cancelStream key.2
      stream.sender stream.recipient senderBalance recipientBalance)])
    (silent : ∀ event ∈ since, eventKey event ≠ key) :
    ∀ event ∈ closing ++ since, eventKey event = key → ∀ args, openedArgs event = some args →
      paidOf (closing ++ since) key = args.released now ∧
        keptOf (closing ++ since) key = args.deposit - args.released now := by
  intro event member same args opened
  have about : eventKey (key.1, .cancelStream key.2 stream.sender stream.recipient senderBalance
    recipientBalance) = key := rfl
  -- The event that opened the stream is from before the cancellation.
  have known : event ∈ emitted := by
    rcases List.mem_append.mp member with old | new
    · rcases List.mem_append.mp (cancels ▸ old) with old | new
      · exact old
      · rw [List.mem_singleton.mp new] at opened
        cases opened
    · exact absurd same (silent event new)
  obtain ⟨_, valid, accounted⟩ := tracked.accounted event known args opened
  rw [same] at accounted
  rw [paidOf, keptOf, sumOf_append_silent silent, sumOf_append_silent silent, cancels,
    sumOf_append_self about, sumOf_append_self about]
  exact accounted.settled cancelled

end Cancelled

/-- **What a cancellation settles**, at the end of the run. -/
structure Settled (controller : ReserveController ρ) (reserves : Reserves ρ) (book : AddressBook)
    (initial : ρ) (soFar : List StreamStep) (caller : Address) (key : StreamKey) (closing : ℕ)
    (later : List StreamStep) : Prop where
  /-- The recipient has what was released at the time of the cancellation, the reserve the rest. -/
  amounts : ∃ emitted, reserves.log (run (StreamStep.step controller reserves book) initial
      (soFar ++ .cancelStream caller key closing :: later)) = reserves.log initial ++ emitted ∧
    ∀ event ∈ emitted, eventKey event = key → ∀ args, openedArgs event = some args →
      paidOf emitted key = args.released closing ∧
        keptOf emitted key = args.deposit - args.released closing
  gone : reserves.getStream (run (StreamStep.step controller reserves book) initial
    (soFar ++ .cancelStream caller key closing :: later)) key = none
  /-- Nobody withdraws from the stream afterwards, or cancels it again. -/
  refused : ∀ first event rest, later = first ++ event :: rest → event.Touches key →
    succeeds (StreamStep.step controller reserves book)
      (run (StreamStep.step controller reserves book) initial
        (soFar ++ .cancelStream caller key closing :: first)) event = false

/-- **A cancellation that goes through is final.** -/
theorem cancellation_final (controller : ReserveController ρ) (reserves : Reserves ρ)
    (book : AddressBook) (documentedReserves : reserves.Documented)
    (documented : controller.Documented reserves book) (apart : book.RecipientApart) (initial : ρ)
    (unused : ∀ reserve streamId, reserves.getNextStreamId initial reserve ≤ streamId →
      reserves.getStream initial (reserve, streamId) = none)
    (soFar later : List StreamStep) (caller : Address) (key : StreamKey) (closing : ℕ)
    (ordered : Chronological StreamStep.timestamp 0 (soFar ++ [.cancelStream caller key closing]))
    (inTime : ∀ event ∈ soFar ++ later, event.timestamp + days 360 < 2 ^ 256)
    (wentThrough : succeeds (StreamStep.step controller reserves book)
      (run (StreamStep.step controller reserves book) initial soFar)
      (.cancelStream caller key closing) = true) :
    Settled controller reserves book initial soFar caller key closing later := by
  have ran := succeeds_iff.mp wentThrough
  obtain ⟨result, after, closed, done⟩ := run_bind_ok_iff.mp ran
  obtain ⟨stream, senderBalance, recipientBalance, cancelled⟩ :=
    documentedReserves.cancel_effect closed
  have due : lastTime StreamStep.timestamp 0 soFar ≤ closing := ordered.end_of_append.1
  obtain ⟨emitted, logged, tracked⟩ := tracked_run documentedReserves documented apart unused
    ordered.of_append (fun event member => inTime event (List.mem_append_left _ member)) due
  have here : run (StreamStep.step controller reserves book) initial
      (soFar ++ [.cancelStream caller key closing]) = after := by
    rw [run_append, run_cons]
    cases done
    rfl
  -- Wherever the run goes on from the cancellation, the stream stays gone.
  have stays : ∀ first, (∀ event ∈ first, event ∈ later) → Gone reserves (reserves.log after) key
      (run (StreamStep.step controller reserves book) initial
        (soFar ++ .cancelStream caller key closing :: first)) := by
    intro first part
    rw [← List.singleton_append, ← List.append_assoc, run_append, here]
    exact gone_run documentedReserves documented apart
      (fun event member => inTime event (List.mem_append_right _ (part event member)))
      (tracked.gone cancelled)
  have final := stays later fun _ member => member
  refine ⟨?_, final.absent, fun first event rest split touches => ?_⟩
  · obtain ⟨since, extended, silent⟩ := final.silent
    refine ⟨emitted ++ [(key.1, .cancelStream key.2 stream.sender stream.recipient senderBalance
      recipientBalance)] ++ since, ?_, tracked.settled cancelled rfl silent⟩
    rw [extended, cancelled.logged, logged, List.append_assoc, List.append_assoc, List.append_assoc]
  · refine touched_fails documentedReserves (stays first fun event member => ?_) touches
    rw [split]
    exact List.mem_append_left _ member

/-- The second payload's stream of the reserve factor, cancelled after a withdrawal. -/
theorem cancellation_final_book : Settled (bookController mainnet)
    (bookReserves mainnet.collectorController) mainnet ReserveBook.empty
    [.execute .v2Coverage 1000, .withdrawFromStream V2CoveragePaymentPayload.chaosRecipient
      (mainnet.collector, 0) 7 (1000 + days 30)]
    mainnet.collectorController (mainnet.collector, 0) (1000 + days 60)
    [.execute .v2Coverage (1000 + days 61), .withdrawFromStream
      V2CoveragePaymentPayload.chaosRecipient (mainnet.collector, 0) 7 (1000 + days 90)] :=
  cancellation_final (bookController mainnet) (bookReserves mainnet.collectorController) mainnet
    (bookReserves_documented _) (bookController_documented mainnet) ⟨by decide, by decide, by decide⟩
    ReserveBook.empty (fun _ _ _ => rfl) _ _ _ _ _ ⟨by decide, by decide, by decide, trivial⟩
    (by decide) rfl

end AaveV2Payloads
