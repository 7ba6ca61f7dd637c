/-
**When the payment tests pass.**

The tests run on one block each. On any fork that is ready for the payloads, at any time, and when their
tokens pay exactly, they pass exactly when the constants they share with the payloads agree, and when the
recipient holds at most one unit of the token that the first payment pays (`payment_tests_pass_iff`). The
rounding of an interest bearing token is within what the rounds allow, but not the final numbers.

* `OpenedAll.newStream` — an execution opens the stream the tests read.
* `withdrawRound_ok` — **one round**: `PaidUp`, the loop invariant, is kept for another 30 days.
-/

import AaveV2Payloads.Tests.Payments

namespace AaveV2Payloads

open Solidity Vesting

variable {ρ : Type}

section Assertions

theorem require_ok_iff {condition : Prop} [Decidable condition] {message : String} :
    require condition message = .ok () ↔ condition := by
  by_cases holds : condition
  · exact iff_of_true (require_true holds message) holds
  · rw [require_false holds]
    exact iff_of_false (fun same => (by cases same)) holds

theorem assertEq_ok_iff {α : Type} [DecidableEq α] {left right : α} :
    assertEq left right = .ok () ↔ left = right := require_ok_iff

theorem assertEq_bind_ok_iff {α β : Type} [DecidableEq α] {left right : α}
    {next : Unit → Except Revert β} {value : β} :
    assertEq left right >>= next = .ok value ↔ left = right ∧ next () = .ok value := by
  rw [ok_bind_iff, ← assertEq_ok_iff]
  exact ⟨fun ⟨_, first, second⟩ => ⟨first, second⟩, fun ⟨first, second⟩ => ⟨(), first, second⟩⟩

theorem assertApproxEqAbs_self (value maxDelta : ℕ) : assertApproxEqAbs value value maxDelta = .ok () :=
  require_ok_iff.mpr (by simp)

theorem assertApproxEqAbs_zero {value maxDelta : ℕ} :
    assertApproxEqAbs value 0 maxDelta = .ok () ↔ value ≤ maxDelta :=
  require_ok_iff.trans (by simp)

end Assertions

/-! ### The stream the tests read -/

/-- A stream that was just opened: it paid nothing. -/
structure NewStream (reserves : Reserves ρ) (now : ℕ) (key : StreamKey) (args : StreamArgs)
    (valid : args.Valid) (state : ρ) : Prop where
  found : reserves.getStream state key = some args.stream
  account : ∃ log, Accounted reserves now state log key args valid ∧ ¬ WasCancelled log key ∧
    paidOf log key = 0

section Opening

variable {reserves : Reserves ρ} {now : ℕ} {key : StreamKey} {args : StreamArgs}
  {valid : args.Valid} {before after : ρ}

/-- Another stream is opened. -/
theorem NewStream.other {others : StreamArgs} {streamId : ℕ}
    (new : NewStream reserves now key args valid before)
    (opened : Opened reserves others streamId before after)
    (different : key ≠ (others.collector, streamId)) :
    NewStream reserves now key args valid after := by
  obtain ⟨log, accounted, uncancelled, unpaid⟩ := new.account
  have about : eventKey (others.created streamId) ≠ key := fun same => different same.symm
  refine ⟨(opened.others key different).trans new.found, log ++ [others.created streamId],
    accounted.frame different rfl opened.toWrites, ?_, ?_⟩
  · rw [wasCancelled_append]
    rintro (cancelled | ⟨same, _⟩)
    · exact uncancelled cancelled
    · exact about same
  · rw [paidOf, sumOf_append_other about]
    exact unpaid

theorem NewStream.others {streams : List StreamArgs} (opened : OpenedAll reserves streams before after)
    (elsewhere : ∀ others ∈ streams, others.collector ≠ key.1)
    (new : NewStream reserves now key args valid before) :
    NewStream reserves now key args valid after := by
  induction opened with
  | nil state => exact new
  | @cons first rest streamId before middle after opened _ ih =>
      refine ih (fun others member => elsewhere others (List.mem_cons_of_mem _ member))
        (new.other opened fun same => ?_)
      exact elsewhere first List.mem_cons_self (congrArg Prod.fst same).symm

/-- **The streams of one execution on different reserves** take the ids that were next. -/
theorem OpenedAll.newStream {streams : List StreamArgs} (opened : OpenedAll reserves streams before after)
    (apart : (streams.map StreamArgs.collector).Nodup) (member : args ∈ streams) :
    NewStream reserves now (args.collector, reserves.getNextStreamId before args.collector) args valid
      after := by
  induction opened with
  | nil state => cases member
  | @cons first rest streamId before middle after opened others ih =>
      obtain ⟨elsewhere, apart⟩ := List.nodup_cons.mp apart
      rcases List.mem_cons.mp member with rfl | later
      · have uncancelled : ¬ WasCancelled ([] ++ [args.created streamId]) (args.collector, streamId) := by
          rintro ⟨event, member, _, cancel⟩
          rw [List.mem_singleton.mp member] at cancel
          cases cancel
        have accounted : Accounted reserves now middle ([] ++ [args.created streamId])
            (args.collector, streamId) args valid :=
          Accounted.opened opened fun _ member => by cases member
        have here : NewStream reserves now (args.collector, streamId) args valid middle :=
          ⟨opened.written, _, accounted, uncancelled, paidOf_append rfl⟩
        rw [← opened.next]
        exact here.others others fun other inside same =>
          elsewhere (List.mem_map.mpr ⟨other, inside, same⟩)
      · have different : args.collector ≠ first.collector := fun same =>
          elsewhere (same ▸ List.mem_map_of_mem later)
        have same := congrFun opened.next_after args.collector
        rw [Function.update_of_ne different] at same
        rw [← same]
        exact ih apart later

end Opening

/-! ### The rounds -/

/-- The token pays exactly, and is not paused. -/
structure Fork.PaysIn (fork : Fork ρ) (token : Address) : Prop where
  exact : fork.tokens.Exact fork.controller fork.reserves token
  willing : fork.tokens.NeverRefuses fork.reserves token

/-- What the tests rely on. -/
structure Fork.Documented (fork : Fork ρ) : Prop where
  reserves : fork.reserves.Documented
  controller : fork.controller.Documented fork.reserves fork.book
  tokens : ∀ payload timestamp, ∀ args ∈ PaymentPayload.streams fork.book timestamp payload,
    fork.PaysIn args.tokenAddress
  apart : fork.book.RecipientApart

/-- **The loop invariant**: the recipient has all that was released until now. -/
structure PaidUp (fork : Fork ρ) (key : StreamKey) (args : StreamArgs) (valid : args.Valid)
    (initialBalance timestamp : ℕ) (state : ρ) : Prop where
  account : ∃ log, Accounted fork.reserves timestamp state log key args valid ∧
    ¬ WasCancelled log key ∧ paidOf log key = args.released timestamp
  backed : Backed fork.reserves fork.tokens (key.1, args.tokenAddress) 0 0 state
  balance : fork.tokens.balanceOf state args.tokenAddress args.recipient =
    initialBalance + args.released timestamp

/-- The invariant after some rounds of 30 days each. -/
structure PaidFor (fork : Fork ρ) (key : StreamKey) (args : StreamArgs) (valid : args.Valid)
    (initialBalance timestamp rounds : ℕ) (reached : ℕ × ρ) : Prop where
  now : reached.1 = timestamp + rounds * days 30
  paid : PaidUp fork key args valid initialBalance reached.1 reached.2

section Rounds

variable {fork : Fork ρ} {key : StreamKey} {args : StreamArgs} {valid : args.Valid}
  {initialBalance timestamp seconds : ℕ} {state : ρ}

theorem released_add (started : args.startTime ≤ timestamp)
    (inside : timestamp + seconds ≤ args.stopTime) :
    args.released (timestamp + seconds) = args.released timestamp + args.ratePerSecond * seconds := by
  have passed : args.secondsPassed (timestamp + seconds) = args.secondsPassed timestamp + seconds := by
    unfold StreamArgs.secondsPassed
    omega
  rw [StreamArgs.released, passed, Nat.mul_add]
  rfl

theorem ratePerSecond_pos (valid : args.Valid) : 0 < args.ratePerSecond :=
  Nat.div_pos (Nat.le_of_dvd valid.deposit_pos valid.deposit_dvd) (Nat.sub_pos_of_lt valid.ordered)

/-- A round whose withdrawal goes through, with the amount of a month. -/
theorem withdrawRound_eq {compare : ℕ → ℕ → Except Revert Unit} {tokenAddress : Address}
    {rate amount : ℕ} {result : Bool} {after : ρ}
    (read : fork.reserves.balanceOf timestamp key Fork.chaosRecipient state = .ok amount)
    (withdrew : fork.reserves.withdrawFromStream Fork.chaosRecipient timestamp key amount state =
      .ok (result, after))
    (product : checkedMul rate (days 30) = .ok amount)
    (sum : checkedAdd (fork.tokens.balanceOf state tokenAddress Fork.chaosRecipient) amount =
      .ok (fork.tokens.balanceOf after tokenAddress Fork.chaosRecipient))
    (lenient : ∀ value, compare value value = .ok ()) :
    fork.withdrawRound compare tokenAddress key rate timestamp state = .ok after := by
  unfold Fork.withdrawRound
  simp only [read, withdrew, ok_bind, sum, lenient, product]
  rfl

/-- **One round** of a test. -/
theorem withdrawRound_ok (documented : fork.Documented) (paysIn : fork.PaysIn args.tokenAddress)
    (paidUp : PaidUp fork key args valid initialBalance timestamp state)
    (own : key.1 = args.collector) (recipient : args.recipient = Fork.chaosRecipient)
    (compare : ℕ → ℕ → Except Revert Unit) (lenient : ∀ value, compare value value = .ok ())
    (started : args.startTime ≤ timestamp) (inside : timestamp + days 30 ≤ args.stopTime)
    (fits : initialBalance + args.deposit < 2 ^ 256) :
    ∃ after, fork.withdrawRound compare args.tokenAddress key args.ratePerSecond
        (timestamp + days 30) state = .ok after ∧
      PaidUp fork key args valid initialBalance (timestamp + days 30) after := by
  obtain ⟨log, accounted, uncancelled, paid⟩ := paidUp.account
  have monthly := released_add started inside
  have positive : 0 < args.ratePerSecond * days 30 :=
    Nat.mul_pos (ratePerSecond_pos valid) (by decide)
  have within : args.released (timestamp + days 30) ≤ args.deposit := released_le valid
  have backed : Backed fork.reserves fork.tokens (key.1, args.tokenAddress) 0 (0 + 0) state :=
    paidUp.backed
  obtain ⟨after, claimed, outcome, accountedAfter⟩ := claim_ok
    (accounted.later (Nat.le_add_right timestamp (days 30))) documented.reserves (paysIn.exact.pays 0)
    paysIn.willing own backed uncancelled (by rw [paid, monthly]; omega)
  have amount : args.released (timestamp + days 30) - paidOf log key = args.ratePerSecond * days 30 := by
    rw [paid, monthly]
    omega
  have received := outcome.moved paysIn.exact
  rw [amount] at accountedAfter received
  rw [List.sum_singleton] at received
  refine ⟨after, ?_, ⟨_, accountedAfter, wasCancelled_withdrawals.not.mpr uncancelled, ?_⟩,
    outcome.backed, ?_⟩
  · obtain ⟨balance, read, claimed⟩ := ok_bind_iff.mp claimed
    obtain ⟨⟨result, next⟩, withdrew, done⟩ := ok_bind_iff.mp claimed
    cases done
    obtain ⟨stream, withdrawn⟩ := documented.reserves.withdraw_effect withdrew
    have reading := (accounted.later (Nat.le_add_right timestamp (days 30))).balance
      documented.reserves withdrawn.found
    rw [amount] at reading
    cases reading.symm.trans read
    have held := paidUp.balance
    have product : checkedMul args.ratePerSecond (days 30) = .ok (args.ratePerSecond * days 30) :=
      checkedMul_ok_iff.mpr ⟨by omega, rfl⟩
    have sum : checkedAdd (fork.tokens.balanceOf state args.tokenAddress args.recipient)
        (args.ratePerSecond * days 30) =
          .ok (fork.tokens.balanceOf after args.tokenAddress args.recipient) :=
      checkedAdd_ok_iff.mpr ⟨by omega, received.symm⟩
    rw [recipient] at read withdrew sum
    exact withdrawRound_eq read withdrew product sum lenient
  · rw [paidOf_withdrawals, List.sum_singleton, paid, monthly]
  · rw [received, paidUp.balance, monthly, Nat.add_assoc]

/-- Another round. -/
theorem next_month {now rounds : ℕ} (same : now = timestamp + rounds * days 30) :
    now + days 30 = timestamp + (rounds + 1) * days 30 := by
  rw [same, Nat.add_mul, Nat.one_mul, Nat.add_assoc]

/-- Nothing is released before the start. -/
theorem released_before (early : timestamp ≤ args.startTime) : args.released timestamp = 0 := by
  have none : args.secondsPassed timestamp = 0 := by
    unfold StreamArgs.secondsPassed
    omega
  rw [StreamArgs.released, none, Nat.mul_zero]

/-- **Waiting** for the stream to start. -/
theorem PaidUp.wait (paidUp : PaidUp fork key args valid initialBalance timestamp state)
    (early : timestamp + seconds ≤ args.startTime) :
    PaidUp fork key args valid initialBalance (timestamp + seconds) state := by
  have same : args.released (timestamp + seconds) = args.released timestamp := by
    rw [released_before early, released_before ((Nat.le_add_right _ _).trans early)]
  obtain ⟨log, accounted, uncancelled, paid⟩ := paidUp.account
  refine ⟨⟨log, accounted.later (Nat.le_add_right _ _), uncancelled, ?_⟩, paidUp.backed, ?_⟩
  · rw [paid, same]
  · rw [paidUp.balance, same]

end Rounds

/-! ### What the tests start from -/

/-- A fork a payload can be tested on at a time: the reserve of each of its streams covers, in the token
of the stream, the deposit and all that it owes on open streams, and the balances of the recipient stay
in 256 bits. -/
structure Fork.Ready (fork : Fork ρ) (payload : PaymentPayload) (timestamp : ℕ) (state : ρ) : Prop where
  inTime : timestamp + days 360 < 2 ^ 256
  backed : ∀ args ∈ payload.streams fork.book timestamp,
    Backed fork.reserves fork.tokens (args.collector, args.tokenAddress) 0
      ((StreamStep.execute payload timestamp).cost fork.book 0 (args.collector, args.tokenAddress)) state
  fits : ∀ args ∈ payload.streams fork.book timestamp,
    fork.tokens.balanceOf state args.tokenAddress args.recipient + args.deposit < 2 ^ 256

section Start

variable {fork : Fork ρ} {payload : PaymentPayload} {timestamp : ℕ} {state : ρ}

/-- Opening streams moves nothing. -/
theorem Tokens.Exact.createStreams_keeps {tokens : Tokens ρ} {controller : ReserveController ρ}
    {reserves : Reserves ρ} {token : Address} (exact : tokens.Exact controller reserves token)
    {frame : Frame} {streams : List StreamArgs} {before after : ρ}
    (ran : controller.createStreams frame streams before = .ok ((), after)) :
    tokens.balanceOf after token = tokens.balanceOf before token := by
  apply createStreams_invariant
    (fun _ state => tokens.balanceOf state token = tokens.balanceOf before token) ?_ rfl ran
  intro args rest middle streamId next _ same created
  exact (exact.create created).trans same

/-- The streams of a payload are on different reserves. -/
theorem streams_apart (different : fork.book.collector ≠ fork.book.ecosystemReserve) :
    ((payload.streams fork.book timestamp).map StreamArgs.collector).Nodup := by
  cases payload with
  | paymentProposal => exact List.nodup_singleton _
  | v2Coverage => simpa [PaymentPayload.streams] using different

/-- **The execution of a test** opens its streams. -/
theorem executePayload_ok (documented : fork.Documented)
    (different : fork.book.collector ≠ fork.book.ecosystemReserve)
    (ready : fork.Ready payload timestamp state) :
    ∃ opened, fork.executePayload payload timestamp state = .ok ((), opened) ∧
      ∀ args ∈ payload.streams fork.book timestamp, ∃ valid : args.Valid,
        fork.reserves.getStream opened
            (args.collector, fork.reserves.getNextStreamId state args.collector) = some args.stream ∧
          PaidUp fork (args.collector, fork.reserves.getNextStreamId state args.collector) args valid
            (fork.tokens.balanceOf state args.tokenAddress args.recipient) timestamp opened := by
  obtain ⟨opened, ran, all⟩ := execute_opens documented.controller documented.apart payload
    ready.inTime state
  have created := ran
  change payload.execute fork.controller fork.book _ state = _ at created
  rw [PaymentPayload.execute_eq ready.inTime] at created
  refine ⟨opened, ran, fun args member => ?_⟩
  obtain ⟨_, checks, valid⟩ := streams_checked documented.apart payload timestamp args member
  have exact := (documented.tokens payload timestamp args member).exact
  have new : NewStream fork.reserves timestamp
      (args.collector, fork.reserves.getNextStreamId state args.collector) args valid opened :=
    all.newStream (streams_apart different) member
  obtain ⟨log, accounted, uncancelled, unpaid⟩ := new.account
  have nothing := released_before checks.not_past
  have aside : Backed fork.reserves fork.tokens (args.collector, args.tokenAddress) 0
      ((StreamStep.execute payload timestamp).cost fork.book 0 (args.collector, args.tokenAddress) + 0)
      state := ready.backed args member
  have backed : Backed fork.reserves fork.tokens (args.collector, args.tokenAddress) 0 0
      (attempt (StreamStep.step fork.controller fork.reserves fork.book) state
        (.execute payload timestamp)) :=
    aside.attempt documented.reserves documented.controller (exact.pays 0) documented.apart ready.inTime
  rw [attempt_of_ok ran] at backed
  refine ⟨valid, new.found, ⟨log, accounted, uncancelled, unpaid.trans nothing.symm⟩, backed, ?_⟩
  rw [exact.createStreams_keeps created, nothing, Nat.add_zero]

theorem checkStream_ok_iff {stream : Stream} {reserve tokenAddress : Address} {amount duration : ℕ} :
    Fork.checkStream stream reserve tokenAddress amount duration = .ok () ↔
      stream.sender = reserve ∧ stream.recipient = Fork.chaosRecipient ∧ stream.deposit = amount ∧
        stream.tokenAddress = tokenAddress ∧ (stream.startTime ≤ stream.stopTime ∧
          stream.stopTime - stream.startTime = duration) ∧ stream.remainingBalance = amount := by
  rw [Fork.checkStream, assertEq_bind_ok_iff, assertEq_bind_ok_iff, assertEq_bind_ok_iff,
    assertEq_bind_ok_iff, ok_bind_iff]
  constructor
  · rintro ⟨sender, recipient, deposit, token, length, computed, rest⟩
    obtain ⟨ordered, rfl⟩ := checkedSub_ok_iff.mp computed
    obtain ⟨same, remaining⟩ := assertEq_bind_ok_iff.mp rest
    exact ⟨sender, recipient, deposit, token, ⟨ordered, same⟩, assertEq_ok_iff.mp remaining⟩
  · rintro ⟨sender, recipient, deposit, token, ⟨ordered, same⟩, remaining⟩
    exact ⟨sender, recipient, deposit, token, _, checkedSub_ok_iff.mpr ⟨ordered, rfl⟩,
      assertEq_bind_ok_iff.mpr ⟨same, assertEq_ok_iff.mpr remaining⟩⟩

/-- The final numbers are right when the stream is paid up at its stop time. -/
theorem checkFinal_ok {args : StreamArgs} {valid : args.Valid} {key : StreamKey}
    {initialBalance : ℕ} (paidUp : PaidUp fork key args valid initialBalance timestamp state)
    (ended : args.stopTime ≤ timestamp) (recipient : args.recipient = Fork.chaosRecipient)
    (fits : initialBalance + args.deposit < 2 ^ 256) :
    fork.checkFinal args.tokenAddress initialBalance args.deposit state = .ok () := by
  have all := (released_all_iff valid).mpr ended
  have held := paidUp.balance
  rw [recipient, all] at held
  have sum : checkedAdd initialBalance args.deposit = .ok (initialBalance + args.deposit) :=
    checkedAdd_ok_iff.mpr ⟨fits, rfl⟩
  unfold Fork.checkFinal
  rw [sum, ok_bind, held]
  exact assertEq_ok_iff.mpr (decide_eq_true le_rfl)

theorem Fork.getStream_ok {key : StreamKey} {stream : Stream}
    (found : fork.reserves.getStream state key = some stream) :
    fork.getStream key state = .ok stream := by
  unfold Fork.getStream
  rw [found]

end Start

/-! ### The tests of the second payment -/

namespace ProposalPaymentPayloadV2Test

section Pass

variable {fork : Fork ρ} {timestamp initialBalance : ℕ} {state : ρ} {args : StreamArgs}
  {valid : args.Valid} {key : StreamKey} {compare : ℕ → ℕ → Except Revert Unit}

/-- The loop of a test. -/
theorem rounds_ok (documented : fork.Documented) (paysIn : fork.PaysIn args.tokenAddress)
    (paidUp : PaidUp fork key args valid initialBalance timestamp state)
    (own : key.1 = args.collector) (recipient : args.recipient = Fork.chaosRecipient)
    (start : args.startTime = timestamp) (stop : args.stopTime = timestamp + streamsDuration)
    (inTime : timestamp + days 360 < 2 ^ 256) (fits : initialBalance + args.deposit < 2 ^ 256)
    (lenient : ∀ value, compare value value = .ok ()) :
    ∃ now final, forRange (round fork compare args.tokenAddress key args.ratePerSecond) 0
        engagementRange (timestamp, state) = .ok (now, final) ∧
      args.stopTime ≤ now ∧ PaidUp fork key args valid initialBalance now final := by
  have step : ∀ i reached, 0 ≤ i → i < 0 + engagementRange →
      PaidFor fork key args valid initialBalance timestamp i reached →
        ∃ next, round fork compare args.tokenAddress key args.ratePerSecond i reached = .ok next ∧
          PaidFor fork key args valid initialBalance timestamp (i + 1) next := by
    rintro i ⟨now, reached⟩ _ inside ⟨same, paid⟩
    dsimp only at same paid
    have month : now + days 30 ≤ args.stopTime := by
      rw [stop, same]
      simp only [streamsDuration, engagementRange, days] at inside ⊢
      omega
    have early : now + days 30 < 2 ^ 256 := by
      simp only [stop, streamsDuration, days] at month inTime ⊢
      omega
    have warped : checkedAdd now (days 30) = .ok (now + days 30) :=
      checkedAdd_ok_iff.mpr ⟨early, rfl⟩
    obtain ⟨after, withdrew, paidAfter⟩ := withdrawRound_ok documented paysIn paid own recipient
      compare lenient (by omega) month fits
    refine ⟨(now + days 30, after), ?_, next_month same, paidAfter⟩
    unfold round
    simp only [warped, ok_bind, withdrew]
    rfl
  obtain ⟨⟨now, final⟩, ran, same, paid⟩ := forRange_ok _ engagementRange 0 (timestamp, state) step
    ⟨by simp, paidUp⟩
  refine ⟨now, final, ran, ?_, paid⟩
  dsimp only at same
  rw [stop, same]
  simp only [streamsDuration, engagementRange, days]
  omega

/-- **A test of one stream** passes exactly when the payload pays in the token it looks at. -/
theorem testStream_passes_iff (documented : fork.Documented)
    (different : fork.book.collector ≠ fork.book.ecosystemReserve)
    (ready : fork.Ready .v2Coverage timestamp state)
    (member : args ∈ PaymentPayload.v2Coverage.streams fork.book timestamp) {amount : ℕ}
    (rounded : actualAmount amount = .ok args.deposit) {tokenAddress : Address}
    (lenient : ∀ value, compare value value = .ok ()) :
    (∃ final, testStream fork args.collector tokenAddress amount compare timestamp state =
      .ok final) ↔ tokenAddress = args.tokenAddress := by
  have shape : args.recipient = Fork.chaosRecipient ∧ args.startTime = timestamp ∧
      args.stopTime = timestamp + streamsDuration := by
    rcases List.mem_pair.mp member with rfl | rfl <;> exact ⟨rfl, rfl, rfl⟩
  obtain ⟨recipient, start, stop⟩ := shape
  obtain ⟨opened, executed, streams⟩ := executePayload_ok documented different ready
  obtain ⟨valid, found, paidUp⟩ := streams args member
  have read := Fork.getStream_ok found
  constructor
  · rintro ⟨final, ran⟩
    unfold testStream at ran
    simp only [rounded, executed, read, ok_bind] at ran
    obtain ⟨_, checked, _⟩ := ok_bind_iff.mp ran
    exact (checkStream_ok_iff.mp checked).2.2.2.1.symm
  · rintro rfl
    have paysIn := documented.tokens .v2Coverage timestamp args member
    obtain ⟨now, final, ran, ended, paid⟩ := rounds_ok documented paysIn paidUp rfl recipient start stop
      ready.inTime (ready.fits args member) lenient
    have checked : Fork.checkStream args.stream args.collector args.tokenAddress args.deposit
        streamsDuration = .ok () :=
      checkStream_ok_iff.mpr ⟨rfl, recipient, rfl, rfl, ⟨valid.ordered.le, by
        show args.stopTime - args.startTime = _
        omega⟩, rfl⟩
    have done := checkFinal_ok paid ended recipient (ready.fits args member)
    rw [recipient] at done
    have rate : args.stream.ratePerSecond = args.ratePerSecond := rfl
    refine ⟨final, ?_⟩
    unfold testStream
    simp only [rounded, executed, read, ok_bind, checked, rate, ran, done]
    rfl

end Pass

end ProposalPaymentPayloadV2Test

/-! ### The tests of the first payment -/

namespace ProposalPaymentPayloadTest

/-- The stream the tests expect. -/
structure Expected (fork : Fork ρ) (timestamp : ℕ) (args : StreamArgs) : Prop where
  collector : args.collector = fork.book.collector
  token : args.tokenAddress = fork.book.usdcAToken
  recipient : args.recipient = Fork.chaosRecipient
  deposit : args.deposit = ausdcStreamAmount
  start : args.startTime = timestamp + days 180
  stop : args.stopTime = timestamp + days 360

section Pass

variable {fork : Fork ρ} {timestamp initialBalance : ℕ} {state : ρ} {args : StreamArgs}
  {valid : args.Valid} {key : StreamKey}

theorem expected_of_mem (member : args ∈ PaymentPayload.paymentProposal.streams fork.book timestamp) :
    Expected fork timestamp args := by
  obtain rfl := List.mem_singleton.mp member
  exact ⟨rfl, rfl, rfl, rfl, rfl, rfl⟩

theorem assertUnpaid_ok_iff : assertUnpaid fork state = .ok () ↔
    fork.tokens.balanceOf state fork.book.usdcAToken Fork.chaosRecipient ≤ 1 :=
  assertApproxEqAbs_zero

/-- **The stream the tests open.** -/
theorem openStream_ok (documented : fork.Documented)
    (different : fork.book.collector ≠ fork.book.ecosystemReserve)
    (ready : fork.Ready .paymentProposal timestamp state) :
    ∃ key opened args, ∃ valid : args.Valid, Expected fork timestamp args ∧
      fork.PaysIn args.tokenAddress ∧ key.1 = args.collector ∧
      fork.tokens.balanceOf state fork.book.usdcAToken Fork.chaosRecipient + args.deposit < 2 ^ 256 ∧
      openStream fork timestamp state = .ok ((key, args.stream), opened) ∧
      PaidUp fork key args valid
        (fork.tokens.balanceOf state fork.book.usdcAToken Fork.chaosRecipient) timestamp opened := by
  obtain ⟨opened, executed, streams⟩ := executePayload_ok documented different ready
  obtain ⟨args, member⟩ : ∃ args, args ∈ PaymentPayload.paymentProposal.streams fork.book timestamp :=
    ⟨_, List.mem_singleton_self _⟩
  obtain ⟨valid, found, paidUp⟩ := streams args member
  have expected := expected_of_mem member
  have paysIn := documented.tokens .paymentProposal timestamp args member
  have fits := ready.fits args member
  rw [expected.collector] at found paidUp
  rw [expected.token, expected.recipient] at fits paidUp
  have read := Fork.getStream_ok found
  have length : checkedSub streamsEnd streamsStart = .ok (days 180) := rfl
  have duration : args.stopTime - args.startTime = days 180 := by
    rw [expected.start, expected.stop]
    exact Nat.add_sub_add_left timestamp (days 360) (days 180)
  have checked : Fork.checkStream args.stream fork.book.collector fork.book.usdcAToken
      ausdcStreamAmount (days 180) = .ok () :=
    checkStream_ok_iff.mpr ⟨expected.collector, expected.recipient, expected.deposit,
      expected.token, ⟨valid.ordered.le, duration⟩, expected.deposit⟩
  refine ⟨_, opened, args, valid, expected, paysIn, expected.collector.symm, fits, ?_, paidUp⟩
  unfold openStream
  simp only [executed, read, ok_bind, length, checked]
  rfl

/-- The recipient holds at most one unit before a month of waiting. -/
theorem waitRound_unpaid {i : ℕ} {next : ℕ × ρ}
    (ran : waitRound fork i (timestamp, state) = .ok next) :
    fork.tokens.balanceOf state fork.book.usdcAToken Fork.chaosRecipient ≤ 1 := by
  obtain ⟨_, _, ran⟩ := ok_bind_iff.mp ran
  obtain ⟨_, unpaid, _⟩ := ok_bind_iff.mp ran
  exact assertUnpaid_ok_iff.mp unpaid

/-- What the recipient holds before the start of the stream. -/
theorem balance_before (expected : Expected fork timestamp args) {now : ℕ}
    (paid : PaidUp fork key args valid initialBalance now state) (early : now ≤ args.startTime) :
    fork.tokens.balanceOf state fork.book.usdcAToken Fork.chaosRecipient = initialBalance := by
  have held := paid.balance
  rwa [released_before early, expected.token, expected.recipient, Nat.add_zero] at held

/-- **A month of waiting**, before the start of the stream. -/
theorem waitRound_ok {i now : ℕ} (waiting : i < noPaymentRange)
    (inTime : timestamp + days 360 < 2 ^ 256) (expected : Expected fork timestamp args)
    (paid : PaidFor fork key args valid initialBalance timestamp i (now, state))
    (poor : initialBalance ≤ 1) :
    waitRound fork i (now, state) = .ok (now + days 30, state) ∧
      PaidFor fork key args valid initialBalance timestamp (i + 1) (now + days 30, state) := by
  have same : now = timestamp + i * days 30 := paid.now
  have early : now + days 30 ≤ args.startTime := by
    rw [expected.start, same]
    simp only [noPaymentRange, days] at waiting ⊢
    omega
  have fits : now + days 30 < 2 ^ 256 := by
    rw [expected.start] at early
    simp only [days] at early inTime ⊢
    omega
  have warped : checkedAdd now (days 30) = .ok (now + days 30) := checkedAdd_ok_iff.mpr ⟨fits, rfl⟩
  have unpaid : assertUnpaid fork state = .ok () := by
    rw [assertUnpaid_ok_iff, balance_before expected paid.paid ((Nat.le_add_right _ _).trans early)]
    exact poor
  refine ⟨?_, next_month same, paid.paid.wait early⟩
  unfold waitRound
  simp only [warped, ok_bind, unpaid]
  rfl

/-- **A month of `testExecute`.** -/
theorem round_ok (documented : fork.Documented) (paysIn : fork.PaysIn args.tokenAddress)
    (own : key.1 = args.collector)
    (expected : Expected fork timestamp args) (inTime : timestamp + days 360 < 2 ^ 256)
    (fits : initialBalance + args.deposit < 2 ^ 256) (poor : initialBalance ≤ 1) :
    ∀ i reached, 0 ≤ i → i < 0 + engagementRange →
      PaidFor fork key args valid initialBalance timestamp i reached →
        ∃ next, round fork key args.ratePerSecond i reached = .ok next ∧
          PaidFor fork key args valid initialBalance timestamp (i + 1) next := by
  rintro i ⟨now, reached⟩ _ inside paid
  have same : now = timestamp + i * days 30 := paid.now
  by_cases waiting : i < noPaymentRange
  · obtain ⟨ran, next⟩ := waitRound_ok waiting inTime expected paid poor
    refine ⟨_, ?_, next⟩
    unfold round
    exact (if_pos waiting).trans ran
  · have started : args.startTime ≤ now := by
      rw [expected.start, same]
      simp only [noPaymentRange, days] at waiting ⊢
      omega
    have month : now + days 30 ≤ args.stopTime := by
      rw [expected.stop, same]
      simp only [engagementRange, days] at inside ⊢
      omega
    have warped : checkedAdd now (days 30) = .ok (now + days 30) :=
      checkedAdd_ok_iff.mpr ⟨month.trans_lt (expected.stop ▸ inTime), rfl⟩
    obtain ⟨after, withdrew, paidAfter⟩ := withdrawRound_ok documented paysIn paid.paid own
      expected.recipient (fun left right => assertApproxEqAbs left right 1)
      (fun value => assertApproxEqAbs_self value 1) started month fits
    rw [expected.token] at withdrew
    refine ⟨(now + days 30, after), ?_, next_month same, paidAfter⟩
    unfold round
    simp only [if_neg waiting, warped, ok_bind, withdrew]
    rfl

/-- **The test of the waiting months.** -/
theorem testNoPaymentInitial6Months_passes_iff (documented : fork.Documented)
    (different : fork.book.collector ≠ fork.book.ecosystemReserve)
    (ready : fork.Ready .paymentProposal timestamp state) :
    (∃ final, testNoPaymentInitial6Months fork timestamp state = .ok final) ↔
      fork.tokens.balanceOf state fork.book.usdcAToken Fork.chaosRecipient ≤ 1 := by
  obtain ⟨key, opened, args, valid, expected, paysIn, own, fits, created, paidUp⟩ :=
    openStream_ok documented different ready
  have start : timestamp ≤ args.startTime := expected.start ▸ Nat.le_add_right _ _
  constructor
  · rintro ⟨final, ran⟩
    unfold testNoPaymentInitial6Months at ran
    obtain ⟨_, same, ran⟩ := ok_bind_iff.mp ran
    cases created.symm.trans same
    obtain ⟨_, looped, _⟩ := ok_bind_iff.mp ran
    obtain ⟨_, first⟩ := forRange_first (by decide) looped
    rw [← balance_before expected paidUp start]
    exact waitRound_unpaid first
  · intro poor
    obtain ⟨⟨now, final⟩, looped, same, paid⟩ := forRange_ok
      (PaidFor fork key args valid _ timestamp) noPaymentRange 0 (timestamp, opened)
      (fun i reached _ inside paid => ⟨_, waitRound_ok (by omega) ready.inTime expected paid poor⟩)
      ⟨by simp, paidUp⟩
    have early : now ≤ args.startTime := by
      dsimp only at same
      rw [expected.start, same]
      simp only [noPaymentRange, days]
      omega
    have unpaid : assertUnpaid fork final = .ok () := by
      rw [assertUnpaid_ok_iff, balance_before expected paid early]
      exact poor
    refine ⟨final, ?_⟩
    unfold testNoPaymentInitial6Months
    exact ok_bind_iff.mpr ⟨_, created, ok_bind_iff.mpr ⟨_, looped, ok_bind_iff.mpr ⟨(), unpaid, rfl⟩⟩⟩

/-- **The test of the whole term.** -/
theorem testExecute_passes_iff (documented : fork.Documented)
    (different : fork.book.collector ≠ fork.book.ecosystemReserve)
    (ready : fork.Ready .paymentProposal timestamp state) :
    (∃ final, testExecute fork timestamp state = .ok final) ↔
      fork.tokens.balanceOf state fork.book.usdcAToken Fork.chaosRecipient ≤ 1 := by
  obtain ⟨key, opened, args, valid, expected, paysIn, own, fits, created, paidUp⟩ :=
    openStream_ok documented different ready
  have start : timestamp ≤ args.startTime := expected.start ▸ Nat.le_add_right _ _
  constructor
  · rintro ⟨final, ran⟩
    unfold testExecute at ran
    obtain ⟨_, same, ran⟩ := ok_bind_iff.mp ran
    cases created.symm.trans same
    obtain ⟨_, looped, _⟩ := ok_bind_iff.mp ran
    obtain ⟨_, first⟩ := forRange_first (by decide) looped
    rw [← balance_before expected paidUp start]
    have waited : waitRound fork 0 (timestamp, opened) = .ok _ := first
    exact waitRound_unpaid waited
  · intro poor
    obtain ⟨⟨now, final⟩, looped, same, paid⟩ := forRange_ok _ engagementRange 0 (timestamp, opened)
      (round_ok documented paysIn own expected ready.inTime fits poor) ⟨by simp, paidUp⟩
    have ended : args.stopTime ≤ now := by
      dsimp only at same
      rw [expected.stop, same]
      simp only [engagementRange, days]
      omega
    have done := checkFinal_ok paid ended expected.recipient fits
    rw [expected.token, expected.deposit] at done
    refine ⟨final, ?_⟩
    unfold testExecute
    exact ok_bind_iff.mpr ⟨_, created, ok_bind_iff.mpr ⟨_, looped, ok_bind_iff.mpr ⟨(), done, rfl⟩⟩⟩

end Pass

end ProposalPaymentPayloadTest

/-! ### All four -/

/-- **When the tests pass.** -/
structure PaymentTestsPass (fork : Fork ρ) (aaveUnderlying : Address) (timestamp : ℕ) (state : ρ) :
    Prop where
  /-- The second payload's token is the address book's aUSDC, -/
  testExecuteUsdc : (∃ final, ProposalPaymentPayloadV2Test.testExecuteUsdc fork timestamp state =
    .ok final) ↔ fork.book.usdcAToken = V2CoveragePaymentPayload.ausdcToken
  /-- and its other token the address book's AAVE. -/
  testExecuteAave : (∃ final, ProposalPaymentPayloadV2Test.testExecuteAave fork aaveUnderlying
    timestamp state = .ok final) ↔ aaveUnderlying = V2CoveragePaymentPayload.aaveToken
  /-- The recipient holds at most one unit of aUSDC before the first payload runs. -/
  testNoPaymentInitial6Months : (∃ final,
    ProposalPaymentPayloadTest.testNoPaymentInitial6Months fork timestamp state = .ok final) ↔
      fork.tokens.balanceOf state fork.book.usdcAToken Fork.chaosRecipient ≤ 1
  testExecute : (∃ final, ProposalPaymentPayloadTest.testExecute fork timestamp state = .ok final) ↔
    fork.tokens.balanceOf state fork.book.usdcAToken Fork.chaosRecipient ≤ 1

/-- **On every fork that is ready, at every time**, when the tokens pay exactly. -/
theorem payment_tests_pass_iff (fork : Fork ρ) (aaveUnderlying : Address) (timestamp : ℕ) (state : ρ)
    (documented : fork.Documented) (different : fork.book.collector ≠ fork.book.ecosystemReserve)
    (ready : ∀ payload, fork.Ready payload timestamp state) :
    PaymentTestsPass fork aaveUnderlying timestamp state where
  testExecuteUsdc :=
    ProposalPaymentPayloadV2Test.testStream_passes_iff documented different (ready _)
      List.mem_cons_self rfl fun value => assertApproxEqAbs_self value 1
  testExecuteAave :=
    ProposalPaymentPayloadV2Test.testStream_passes_iff documented different (ready _)
      (List.mem_cons_of_mem _ List.mem_cons_self) rfl fun _ => assertEq_ok_iff.mpr rfl
  testNoPaymentInitial6Months :=
    ProposalPaymentPayloadTest.testNoPaymentInitial6Months_passes_iff documented different (ready _)
  testExecute := ProposalPaymentPayloadTest.testExecute_passes_iff documented different (ready _)

/-- A fork of the mainnet book, on which no token earns interest. -/
def bookFork : Fork FundedBook where
  controller := fundedController mainnet
  reserves := fundedReserves plainAccruals mainnet.collectorController
  tokens := fundedTokens plainAccruals
  book := mainnet

theorem bookFork_documented : bookFork.Documented where
  reserves := fundedReserves_documented plainAccruals _
  controller := fundedController_documented plainAccruals mainnet
  tokens _ _ _ _ := ⟨fundedTokens_exact plainAccruals mainnet rfl, fundedTokens_neverRefuses _ _ _⟩
  apart := ⟨by decide, by decide, by decide⟩

/-- The reserves hold the deposits of both payloads. -/
def bookForkStart : FundedBook :=
  (ReserveBook.empty, ⟨fun tokenAddress who =>
    (StreamStep.execute .paymentProposal 1000).cost mainnet 0 (who, tokenAddress) +
      (StreamStep.execute .v2Coverage 1000).cost mainnet 0 (who, tokenAddress), 0⟩)

theorem bookFork_ready (payload : PaymentPayload) : bookFork.Ready payload 1000 bookForkStart where
  inTime := by decide
  backed args _ :=
    { unused := fun _ _ _ => rfl
      inside := fun _ _ member => by cases member
      covered := by
        have nothing : bookFork.reserves.liability bookForkStart (args.collector, args.tokenAddress) =
          0 := rfl
        have held : bookForkStart.2.scaled args.tokenAddress args.collector ≤
            bookFork.tokens.balanceOf bookForkStart args.tokenAddress args.collector :=
          (plainAccruals args.tokenAddress).le_worth _ _
        rw [nothing, Nat.zero_add, Nat.add_zero]
        refine le_trans ?_ held
        cases payload with
        | paymentProposal => exact Nat.le_add_right _ _
        | v2Coverage => exact Nat.le_add_left _ _ }
  fits args member := by
    have held : bookFork.tokens.balanceOf bookForkStart args.tokenAddress args.recipient =
        bookForkStart.2.scaled args.tokenAddress args.recipient := FixedPoint.worth_none _ _
    rw [held]
    clear held
    revert args member
    cases payload <;> decide

theorem payment_tests_pass_iff_book :
    PaymentTestsPass bookFork V2CoveragePaymentPayload.aaveToken 1000 bookForkStart :=
  payment_tests_pass_iff bookFork V2CoveragePaymentPayload.aaveToken 1000 bookForkStart
    bookFork_documented (by decide) bookFork_ready

end AaveV2Payloads
