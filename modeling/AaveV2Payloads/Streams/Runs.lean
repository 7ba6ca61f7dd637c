/-
**The payment streams over whole runs.**

A run interleaves executions of the two payment payloads by the executor with withdrawals and
cancellations by anyone, in the order of their times.

* `streams_checked` — every stream the payloads ask for passes the checks of the reserve.
* `execute_opens` — no execution reverts, and each opens the streams of its payload.
* `tracked_run` — **the invariant holds after every run.**
-/

import AaveV2Payloads.Library.Runs
import AaveV2Payloads.Streams.Tracked

namespace AaveV2Payloads

open Solidity Vesting

variable {ρ : Type}

/-! ### Steps -/

/-- A step of a run, with the time of its block. -/
inductive StreamStep
  | execute (payload : PaymentPayload) (timestamp : Nat)
  | withdrawFromStream (caller : Address) (key : StreamKey) (amount timestamp : Nat)
  | cancelStream (caller : Address) (key : StreamKey) (timestamp : Nat)

namespace StreamStep

def timestamp : StreamStep → Nat
  | .execute _ timestamp => timestamp
  | .withdrawFromStream _ _ _ timestamp => timestamp
  | .cancelStream _ _ timestamp => timestamp

/-- The payload's code runs as the executor. -/
def step (controller : ReserveController ρ) (reserves : Reserves ρ) (book : AddressBook) :
    StreamStep → Tx ρ Unit
  | .execute payload timestamp =>
      payload.execute controller book ⟨book.shortExecutor, book.gov, timestamp⟩
  | .withdrawFromStream caller key amount timestamp => do
      let _ ← reserves.withdrawFromStream caller timestamp key amount
  | .cancelStream caller key timestamp => do
      let _ ← reserves.cancelStream caller timestamp key

/-- The step is a withdrawal from a stream, or its cancellation. -/
def Touches (key : StreamKey) : StreamStep → Prop
  | .execute _ _ => False
  | .withdrawFromStream _ other _ _ => other = key
  | .cancelStream _ other _ => other = key

end StreamStep

/-! ### The streams of the payloads pass the checks -/

/-- The recipient is none of the contracts that handle the streams. -/
structure AddressBook.RecipientApart (book : AddressBook) : Prop where
  collector : PaymentProposalPayload.chaosRecipient ≠ book.collector
  ecosystemReserve : PaymentProposalPayload.chaosRecipient ≠ book.ecosystemReserve
  controller : PaymentProposalPayload.chaosRecipient ≠ book.collectorController

section Checks

variable {args : StreamArgs} {caller : Address} {now rate duration : ℕ}

/-- Arguments whose deposit is a rate times their duration. -/
theorem checks_of_rate (apart : args.recipient ≠ args.collector) (notCaller : args.recipient ≠ caller)
    (notZero : args.recipient ≠ 0) (notPast : now ≤ args.startTime)
    (duration_eq : args.stopTime - args.startTime = duration)
    (deposit_eq : args.deposit = rate * duration) (rate_pos : 0 < rate) (duration_pos : 0 < duration)
    (fits : args.deposit < 2 ^ 256) : CreateChecks caller now args ∧ args.Valid := by
  have ordered : args.startTime < args.stopTime := by omega
  have positive : 0 < args.deposit := deposit_eq ▸ Nat.mul_pos rate_pos duration_pos
  have divides : args.stopTime - args.startTime ∣ args.deposit := by
    rw [duration_eq, deposit_eq]
    exact Nat.dvd_mul_left duration rate
  exact ⟨⟨notZero, apart, notCaller, positive, notPast, ordered, Nat.le_of_dvd positive divides,
    divides⟩, ⟨apart, positive, ordered, divides, fits⟩⟩

/-- **Every stream the payloads ask for passes the checks**, on one of the two reserves. -/
theorem streams_checked {book : AddressBook} (apart : book.RecipientApart) (payload : PaymentPayload)
    (timestamp : ℕ) : ∀ args ∈ payload.streams book timestamp,
      (args.collector = book.collector ∨ args.collector = book.ecosystemReserve) ∧
        CreateChecks book.collectorController timestamp args ∧ args.Valid := by
  intro args member
  have notZero : PaymentProposalPayload.chaosRecipient ≠ 0 := by decide
  cases payload with
  | paymentProposal =>
      have deposit_eq : PaymentProposalPayload.ausdcStreamAmount = 32151 * days 180 := by decide
      have fits : PaymentProposalPayload.ausdcStreamAmount < 2 ^ 256 := by decide
      obtain rfl := List.mem_singleton.mp member
      exact ⟨Or.inl rfl, checks_of_rate apart.collector apart.controller notZero
        (Nat.le_add_right _ _) (Nat.add_sub_add_left timestamp (days 360) (days 180)) deposit_eq
        (by decide) (by decide) fits⟩
  | v2Coverage =>
      have rounded (amount : ℕ) (fits : amount < 2 ^ 256) :
          amount / V2CoveragePaymentPayload.streamsDuration *
            V2CoveragePaymentPayload.streamsDuration < 2 ^ 256 :=
        (Nat.div_mul_le_self _ _).trans_lt fits
      rcases List.mem_pair.mp member with rfl | rfl
      · exact ⟨Or.inl rfl, checks_of_rate apart.collector apart.controller notZero le_rfl
          (Nat.add_sub_cancel_left _ _) rfl (by decide) (by decide)
          (rounded V2CoveragePaymentPayload.ausdcStreamAmount (by decide))⟩
      · exact ⟨Or.inr rfl, checks_of_rate apart.ecosystemReserve apart.controller notZero le_rfl
          (Nat.add_sub_cancel_left _ _) rfl (by decide) (by decide)
          (rounded V2CoveragePaymentPayload.aaveStreamAmount (by decide))⟩

end Checks

/-! ### What an execution opens -/

/-- The streams of a list, opened one after the other. -/
inductive OpenedAll (reserves : Reserves ρ) : List StreamArgs → ρ → ρ → Prop
  | nil (state : ρ) : OpenedAll reserves [] state state
  | cons {args : StreamArgs} {rest : List StreamArgs} {streamId : Nat} {before middle after : ρ} :
      Opened reserves args streamId before middle → OpenedAll reserves rest middle after →
      OpenedAll reserves (args :: rest) before after

section Executions

variable {controller : ReserveController ρ} {reserves : Reserves ρ} {book : AddressBook}

/-- A list of streams that pass the checks is opened. -/
theorem createStreams_ok (documented : controller.Documented reserves book) {frame : Frame}
    (executor : frame.this = book.shortExecutor) {streams : List StreamArgs}
    (checked : ∀ args ∈ streams,
      (args.collector = book.collector ∨ args.collector = book.ecosystemReserve) ∧
        CreateChecks book.collectorController frame.timestamp args) :
    ∀ before, ∃ after, controller.createStreams frame streams before = .ok ((), after) ∧
      OpenedAll reserves streams before after := by
  induction streams with
  | nil => exact fun before => ⟨before, rfl, .nil before⟩
  | cons args rest ih =>
      intro before
      obtain ⟨known, checks⟩ := checked args List.mem_cons_self
      obtain ⟨streamId, middle, created⟩ :=
        (documented.create_iff known).mpr ⟨executor, checks⟩
      obtain ⟨after, others, opened⟩ :=
        ih (fun other member => checked other (List.mem_cons_of_mem _ member)) middle
      refine ⟨after, ?_, .cons (documented.create_effect known created) opened⟩
      exact (run_bind_of_ok ((run_bind_of_ok created).trans rfl)).trans others

/-- What every opening keeps, a list of openings keeps. The invariant reads the streams to come. -/
theorem createStreams_invariant (inv : List StreamArgs → ρ → Prop) {frame : Frame}
    {streams : List StreamArgs}
    (kept : ∀ {args rest before streamId after}, args ∈ streams → inv (args :: rest) before →
      controller.createStream frame.this frame.timestamp args before = .ok (streamId, after) →
        inv rest after) : ∀ {before after : ρ}, inv streams before →
      controller.createStreams frame streams before = .ok ((), after) → inv [] after := by
  induction streams with
  | nil =>
      intro before after holds ran
      cases ran
      exact holds
  | cons args rest ih =>
      intro before after holds ran
      obtain ⟨_, middle, first, others⟩ := run_bind_ok_iff.mp ran
      obtain ⟨streamId, _, created, done⟩ := run_bind_ok_iff.mp first
      cases done
      exact ih (fun member => kept (List.mem_cons_of_mem _ member))
        (kept List.mem_cons_self holds created) others

/-- **No execution reverts**, and each opens the streams of its payload. -/
theorem execute_opens (documented : controller.Documented reserves book)
    (apart : book.RecipientApart) (payload : PaymentPayload) {timestamp : ℕ}
    (inTime : timestamp + days 360 < 2 ^ 256) (before : ρ) :
    ∃ after, StreamStep.step controller reserves book (.execute payload timestamp) before =
        .ok ((), after) ∧ OpenedAll reserves (payload.streams book timestamp) before after := by
  have checked := streams_checked apart payload timestamp
  show ∃ after, payload.execute controller book ⟨book.shortExecutor, book.gov, timestamp⟩ before =
    .ok ((), after) ∧ _
  rw [PaymentPayload.execute_eq inTime]
  exact createStreams_ok documented rfl
    (fun args member => ⟨(checked args member).1, (checked args member).2.1⟩) before

/-- The log of the opened streams. -/
theorem OpenedAll.logged {streams : List StreamArgs} {before after : ρ}
    (opened : OpenedAll reserves streams before after) : ∃ events,
      reserves.log after = reserves.log before ++ events ∧
        events.map openedArgs = streams.map some := by
  induction opened with
  | nil state => exact ⟨[], (List.append_nil _).symm, rfl⟩
  | @cons args rest streamId before middle after first _ ih =>
      obtain ⟨events, logged, same⟩ := ih
      refine ⟨args.created streamId :: events, ?_, ?_⟩
      · rw [logged, first.logged, List.append_assoc, List.singleton_append]
      · rw [List.map_cons, List.map_cons, same]
        rfl

theorem OpenedAll.tracked {origin : StreamArgs → Prop} {now : ℕ} {streams : List StreamArgs}
    {before after : ρ} (opened : OpenedAll reserves streams before after)
    (known : ∀ args ∈ streams, origin args ∧ args.Valid) : ∀ {emitted : EventLog},
      Tracked reserves origin now before emitted → ∃ events,
        reserves.log after = reserves.log before ++ events ∧
          Tracked reserves origin now after (emitted ++ events) := by
  induction opened with
  | nil state => exact fun tracked => ⟨[], (List.append_nil _).symm, by rwa [List.append_nil]⟩
  | @cons args rest streamId before middle after first _ ih =>
      intro emitted tracked
      obtain ⟨hasOrigin, valid⟩ := known args List.mem_cons_self
      obtain ⟨events, logged, others⟩ :=
        ih (fun other member => known other (List.mem_cons_of_mem _ member))
          (tracked.opened hasOrigin valid first)
      refine ⟨args.created streamId :: events, ?_, ?_⟩
      · rw [logged, first.logged, List.append_assoc, List.singleton_append]
      · rwa [List.append_assoc, List.singleton_append] at others

end Executions

/-! ### The invariant of a run -/

section Invariant

variable {controller : ReserveController ρ} {reserves : Reserves ρ} {book : AddressBook}
  {initial : ρ} {events : List StreamStep}

/-- The arguments an execution of the run has. -/
def ExecutedWith (book : AddressBook) (events : List StreamStep) (args : StreamArgs) : Prop :=
  ∃ payload timestamp, .execute payload timestamp ∈ events ∧ args ∈ payload.streams book timestamp

/-- The invariant, and the events that were emitted since the run began. -/
def TrackedSince (reserves : Reserves ρ) (initial : ρ) (origin : StreamArgs → Prop) (now : ℕ)
    (state : ρ) : Prop :=
  ∃ emitted, reserves.log state = reserves.log initial ++ emitted ∧
    Tracked reserves origin now state emitted

/-- **Every step keeps the invariant.** -/
theorem trackedSince_step (documentedReserves : reserves.Documented)
    (documented : controller.Documented reserves book) (apart : book.RecipientApart)
    {event : StreamStep} (member : event ∈ events) (inTime : event.timestamp + days 360 < 2 ^ 256)
    {before after : ρ}
    (holds : TrackedSince reserves initial (ExecutedWith book events) event.timestamp before)
    (ran : event.step controller reserves book before = .ok ((), after)) :
    TrackedSince reserves initial (ExecutedWith book events) event.timestamp after := by
  obtain ⟨emitted, logged, tracked⟩ := holds
  cases event with
  | execute payload timestamp =>
      obtain ⟨next, executed, opened⟩ := execute_opens documented apart payload inTime before
      cases ran.symm.trans executed
      obtain ⟨opening, extended, still⟩ := opened.tracked (fun args inside =>
        ⟨⟨payload, timestamp, member, inside⟩, (streams_checked apart payload timestamp args inside).2.2⟩)
        tracked
      refine ⟨emitted ++ opening, ?_, still⟩
      rw [extended, logged, List.append_assoc]
  | withdrawFromStream caller key amount timestamp =>
      obtain ⟨result, _, paid, done⟩ := run_bind_ok_iff.mp ran
      cases done
      obtain ⟨stream, withdrawn⟩ := documentedReserves.withdraw_effect paid
      refine ⟨_, ?_, tracked.withdrawn withdrawn⟩
      rw [withdrawn.logged, logged, List.append_assoc]
  | cancelStream caller key timestamp =>
      obtain ⟨result, _, closed, done⟩ := run_bind_ok_iff.mp ran
      cases done
      obtain ⟨stream, senderBalance, recipientBalance, cancelled⟩ :=
        documentedReserves.cancel_effect closed
      refine ⟨_, ?_, tracked.cancelled cancelled⟩
      rw [cancelled.logged, logged, List.append_assoc]

/-- **Every run keeps the invariant.** -/
theorem tracked_run (documentedReserves : reserves.Documented)
    (documented : controller.Documented reserves book) (apart : book.RecipientApart)
    (unused : ∀ reserve streamId, reserves.getNextStreamId initial reserve ≤ streamId →
      reserves.getStream initial (reserve, streamId) = none)
    (ordered : Chronological StreamStep.timestamp 0 events)
    (inTime : ∀ event ∈ events, event.timestamp + days 360 < 2 ^ 256) {now : ℕ}
    (late : lastTime StreamStep.timestamp 0 events ≤ now) :
    TrackedSince reserves initial (ExecutedWith book events) now
      (run (StreamStep.step controller reserves book) initial events) := by
  have later (now next : ℕ) (state : ρ) (ordered : now ≤ next)
      (holds : TrackedSince reserves initial (ExecutedWith book events) now state) :
      TrackedSince reserves initial (ExecutedWith book events) next state := by
    obtain ⟨emitted, logged, tracked⟩ := holds
    exact ⟨emitted, logged, tracked.later ordered⟩
  refine later _ now _ late (run_chronological (fun event => event ∈ events) _ later ?_ events 0
    initial ordered (fun _ member => member) ?_)
  · intro event before after member holds ran
    exact trackedSince_step documentedReserves documented apart member (inTime event member) holds ran
  · refine ⟨[], (List.append_nil _).symm, fun reserve streamId next => ?_, ?_⟩
    · exact ⟨unused reserve streamId next, fun _ member => by cases member⟩
    · exact fun _ member => by cases member

end Invariant

end AaveV2Payloads
