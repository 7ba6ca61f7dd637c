/-
**The reserves can pay what they owe.**

What a reserve owes in a token is the sum of what remains of its open streams (`liability`). The token
pays up to a slack (`Tokens.Pays`): an interest bearing one takes one unit more than the amount, now and
then. A run that starts with funds for what is owed, for the deposits of its executions, and for a slack
for each payment, never gets short of funds, whoever withdraws and cancels in whatever order. `Backed`
is the invariant: what is owed, and what is set aside for the steps to come, is there.

* `liability_write`, `liability_opened` — what a call does to what is owed.
* `Stream.recipientBalance_le` — **no stream pays more than remains of it.**
* `Backed.attempt`, `backed_run` — every step keeps the invariant, and spends its cost; so does
  every run.
* `streams_funded` — **after every run each withdrawal within its balance goes through**, unless the
  token is paused.
* `capped_run` — **no run pays more than was owed and its cost**, whatever the funds.
-/

import AaveV2Payloads.Streams.Funded
import AaveV2Payloads.Streams.Payments
import Mathlib.Algebra.Order.BigOperators.Group.Finset

namespace AaveV2Payloads

open Solidity

variable {ρ : Type}

/-! ### What is owed -/

/-- A reserve, and a token it holds. -/
abbrev Holding := Address × Address

/-- What a stream may still pay in a token. -/
def Stream.outstanding (stream : Stream) (tokenAddress : Address) : ℕ :=
  if stream.tokenAddress = tokenAddress then stream.remainingBalance else 0

/-- What is stored under a key may still pay. -/
def outstanding (stored : Option Stream) (tokenAddress : Address) : ℕ :=
  stored.elim 0 fun stream => stream.outstanding tokenAddress

/-- **What a reserve owes in a token.** -/
def Reserves.liability (reserves : Reserves ρ) (state : ρ) (holding : Holding) : ℕ :=
  ∑ streamId ∈ Finset.range (reserves.getNextStreamId state holding.1),
    outstanding (reserves.getStream state (holding.1, streamId)) holding.2

section Owed

variable {reserves : Reserves ρ} {before after : ρ}

/-- **A call on one stream** changes what is owed by what it changes of the stream. -/
theorem liability_write (holding : Holding) {key : StreamKey} {written : Option Stream} {event : Address × StreamEvent}
    (writes : Writes reserves key written event before after)
    (next_after : reserves.getNextStreamId after = reserves.getNextStreamId before)
    (used : key.2 < reserves.getNextStreamId before key.1) :
    reserves.liability after holding +
        (if holding.1 = key.1 then outstanding (reserves.getStream before key) holding.2 else 0) =
      reserves.liability before holding +
        if holding.1 = key.1 then outstanding written holding.2 else 0 := by
  unfold Reserves.liability
  rw [next_after]
  by_cases here : holding.1 = key.1
  · have member : key.2 ∈ Finset.range (reserves.getNextStreamId before holding.1) := by
      rw [here]
      exact Finset.mem_range.mpr used
    have others : ∀ streamId ∈ (Finset.range (reserves.getNextStreamId before holding.1)).erase key.2,
        outstanding (reserves.getStream after (holding.1, streamId)) holding.2 =
          outstanding (reserves.getStream before (holding.1, streamId)) holding.2 := by
      intro streamId inside
      have different : (holding.1, streamId) ≠ key := fun same =>
        Finset.ne_of_mem_erase inside (congrArg Prod.snd same)
      rw [writes.others _ different]
    have whole : (holding.1, key.2) = key := Prod.ext here rfl
    rw [← Finset.add_sum_erase _ _ member, ← Finset.add_sum_erase _ _ member,
      Finset.sum_congr rfl others, if_pos here, if_pos here, whole, writes.written]
    omega
  · rw [if_neg here, if_neg here]
    refine congrArg (· + 0) (Finset.sum_congr rfl fun streamId _ => ?_)
    rw [writes.others _ fun same => here (congrArg Prod.fst same)]

/-- What a stream that is opened will be owed. -/
def StreamArgs.owed (args : StreamArgs) (holding : Holding) : ℕ :=
  if holding = (args.collector, args.tokenAddress) then args.deposit else 0

/-- **Opening a stream** adds its deposit. -/
theorem liability_opened (holding : Holding) {args : StreamArgs} {streamId : ℕ}
    (opened : Opened reserves args streamId before after) :
    reserves.liability after holding = reserves.liability before holding + args.owed holding := by
  obtain ⟨reserve, tokenAddress⟩ := holding
  unfold Reserves.liability StreamArgs.owed
  rw [opened.next_after]
  by_cases here : reserve = args.collector
  · subst here
    have earlier : ∀ other ∈ Finset.range streamId,
        outstanding (reserves.getStream after (args.collector, other)) tokenAddress =
          outstanding (reserves.getStream before (args.collector, other)) tokenAddress := by
      intro other inside
      have smaller : other < streamId := Finset.mem_range.mp inside
      rw [opened.others _ fun same => smaller.ne (congrArg Prod.snd same)]
    simp only [Function.update_self, Finset.sum_range_succ, ← opened.next]
    rw [Finset.sum_congr rfl earlier, opened.written]
    simp [outstanding, Stream.outstanding, StreamArgs.stream, eq_comm]
  · simp only [Function.update_of_ne here, Prod.mk.injEq, here, false_and, if_false, add_zero]
    refine Finset.sum_congr rfl fun other _ => ?_
    rw [opened.others _ fun same => here (congrArg Prod.fst same)]

end Owed

/-! ### What a stream can pay -/

/-- A stream as `createStream` opens it and withdrawals leave it. -/
structure Stream.Within (stream : Stream) : Prop where
  somebody : stream.recipient ≠ 0
  released : (stream.stopTime - stream.startTime) * stream.ratePerSecond ≤ stream.deposit
  remaining : stream.remainingBalance ≤ stream.deposit

section Within

variable {stream : Stream} {now balance : ℕ}

theorem Stream.deltaOf_le (stream : Stream) (now : ℕ) :
    stream.deltaOf now ≤ stream.stopTime - stream.startTime := by
  unfold deltaOf
  split_ifs <;> omega

/-- **No stream pays more than remains of it.** -/
theorem Stream.recipientBalance_le (inside : stream.Within)
    (computed : stream.recipientBalance now = .ok balance) : balance ≤ stream.remainingBalance := by
  obtain ⟨streamed, product, computed⟩ := ok_bind_iff.mp computed
  obtain ⟨_, rfl⟩ := checkedMul_ok_iff.mp product
  have all : stream.deltaOf now * stream.ratePerSecond ≤ stream.deposit :=
    (Nat.mul_le_mul_right _ (stream.deltaOf_le now)).trans inside.released
  by_cases some : stream.remainingBalance < stream.deposit
  · rw [if_pos some] at computed
    obtain ⟨withdrawn, first, second⟩ := ok_bind_iff.mp computed
    obtain ⟨_, rfl⟩ := checkedSub_ok_iff.mp first
    obtain ⟨_, rfl⟩ := checkedSub_ok_iff.mp second
    omega
  · rw [if_neg some] at computed
    cases computed
    omega

theorem StreamArgs.stream_within {args : StreamArgs} {caller : Address} {now : ℕ}
    (checks : CreateChecks caller now args) : args.stream.Within where
  somebody := checks.not_zero
  released := Nat.mul_div_le _ _
  remaining := le_rfl

/-- What a withdrawal leaves of a stream. -/
theorem outstanding_withdrawn (stream : Stream) (amount : ℕ) (tokenAddress : Address) :
    outstanding (stream.withdrawn amount) tokenAddress =
      if stream.tokenAddress = tokenAddress then stream.remainingBalance - amount else 0 := by
  unfold Stream.withdrawn
  by_cases all : stream.remainingBalance - amount = 0
  · simp [all, outstanding]
  · simp [all, outstanding, Stream.outstanding]

end Within

/-! ### What a payment takes -/

namespace Payment

variable {controller : ReserveController ρ} {reserves : Reserves ρ} {tokens : Tokens ρ}
  {key : StreamKey} {stream : Stream} {left : Option Stream} {amount : ℕ} {event : StreamEvent}
  {before after : ρ}

theorem left_within (payment : Payment controller reserves tokens key stream left amount event before
    after) (inside : stream.Within) : ∀ next ∈ left, next.Within := by
  intro next member
  rw [payment.paidBy.next_eq next member]
  exact ⟨inside.somebody, inside.released, (Nat.sub_le _ _).trans inside.remaining⟩

theorem amount_le (payment : Payment controller reserves tokens key stream left amount event before
    after) (inside : stream.Within) : amount ≤ stream.remainingBalance := by
  obtain ⟨now, balance, computed, within⟩ := payment.within
  exact within.trans (stream.recipientBalance_le inside computed)

/-- **A stream loses what it pays**, or more. -/
theorem outstanding_left (payment : Payment controller reserves tokens key stream left amount event
    before after) (inside : stream.Within) (tokenAddress : Address) :
    outstanding left tokenAddress + (if stream.tokenAddress = tokenAddress then amount else 0) ≤
      stream.outstanding tokenAddress := by
  have enough := payment.amount_le inside
  rcases payment.paidBy with ⟨rfl, _⟩ | ⟨rfl, _⟩
  · rw [outstanding_withdrawn, Stream.outstanding]
    split_ifs <;> omega
  · rw [outstanding, Option.elim_none, Stream.outstanding]
    split_ifs <;> omega

end Payment

/-! ### The invariant -/

/-- What a step costs a reserve in a token: the deposits it opens streams with, and a slack when it may
pay. -/
def StreamStep.cost (book : AddressBook) (slack : ℕ) (holding : Holding) : StreamStep → ℕ
  | .execute payload timestamp =>
      ((payload.streams book timestamp).map fun args => args.owed holding).sum
  | .withdrawFromStream _ key _ _ => if key.1 = holding.1 then slack else 0
  | .cancelStream _ key _ => if key.1 = holding.1 then slack else 0

theorem cost_touches {event : StreamStep} {key : StreamKey} (touches : event.Touches key)
    (book : AddressBook) (slack : ℕ) (holding : Holding) :
    event.cost book slack holding = if key.1 = holding.1 then slack else 0 := by
  cases event with
  | execute payload timestamp => cases touches
  | withdrawFromStream caller other amount timestamp =>
      obtain rfl : other = key := touches
      rfl
  | cancelStream caller other timestamp =>
      obtain rfl : other = key := touches
      rfl

/-- **The invariant**, of one reserve and token. What is owed and what is set aside is there, or on
credit. -/
structure Backed (reserves : Reserves ρ) (tokens : Tokens ρ) (holding : Holding) (credit aside : ℕ)
    (state : ρ) : Prop where
  unused : ∀ reserve streamId, reserves.getNextStreamId state reserve ≤ streamId →
    reserves.getStream state (reserve, streamId) = none
  inside : ∀ key, ∀ stream ∈ reserves.getStream state key, stream.Within
  covered : reserves.liability state holding + aside ≤
    tokens.balanceOf state holding.2 holding.1 + credit

namespace Backed

variable {controller : ReserveController ρ} {reserves : Reserves ρ} {tokens : Tokens ρ}
  {book : AddressBook} {holding : Holding} {slack credit aside budget : ℕ} {before after : ρ}

theorem used (backed : Backed reserves tokens holding credit aside before) {key : StreamKey}
    {stream : Stream} (found : reserves.getStream before key = some stream) :
    key.2 < reserves.getNextStreamId before key.1 := by
  by_contra late
  have absent := backed.unused key.1 key.2 (Nat.le_of_not_lt late)
  cases absent.symm.trans found

/-- **Opening a stream** spends what was set aside for it. -/
theorem opened {args : StreamArgs} {streamId : ℕ} {caller : Address} {now : ℕ}
    (backed : Backed reserves tokens holding credit (args.owed holding + budget) before)
    (checks : CreateChecks caller now args) (opened : Opened reserves args streamId before after)
    (kept : tokens.balanceOf before holding.2 holding.1 ≤ tokens.balanceOf after holding.2 holding.1) :
    Backed reserves tokens holding credit budget after := by
  refine ⟨fun reserve other next => ?_, fun key stream member => ?_, ?_⟩
  · rw [opened.next_after] at next
    by_cases here : reserve = args.collector
    · subst here
      rw [Function.update_self] at next
      have different : (args.collector, other) ≠ (args.collector, streamId) := fun equal => by
        have ids := congrArg Prod.snd equal
        dsimp only at ids
        omega
      rw [opened.others _ different]
      refine backed.unused _ _ ?_
      rw [← opened.next]
      omega
    · rw [Function.update_of_ne here] at next
      rw [opened.others _ fun equal => here (congrArg Prod.fst equal)]
      exact backed.unused _ _ next
  · by_cases here : key = (args.collector, streamId)
    · rw [here, opened.written] at member
      cases member
      exact StreamArgs.stream_within checks
    · rw [opened.others _ here] at member
      exact backed.inside _ _ member
  · have enough := backed.covered
    have owed := liability_opened holding opened
    omega

/-- **A payment** spends the slack. -/
theorem paid {key : StreamKey} {stream : Stream} {left : Option Stream} {amount : ℕ}
    {event : StreamEvent} (pays : tokens.Pays controller reserves holding.2 slack)
    (backed : Backed reserves tokens holding credit
      ((if key.1 = holding.1 then slack else 0) + budget) before)
    (payment : Payment controller reserves tokens key stream left amount event before after) :
    Backed reserves tokens holding credit budget after := by
  have inside := backed.inside key stream payment.found
  refine ⟨fun reserve other next => ?_, fun other next member => ?_, ?_⟩
  · rw [payment.next_after] at next
    have absent := backed.unused _ _ next
    rw [payment.others _ (by rintro rfl; cases absent.symm.trans payment.found)]
    exact absent
  · by_cases here : other = key
    · rw [here, payment.written] at member
      exact payment.left_within inside next member
    · rw [payment.others _ here] at member
      exact backed.inside _ _ member
  · have enough := backed.covered
    have owed := liability_write holding payment.toWrites payment.next_after (backed.used payment.found)
    have kept := (payment.settled pays).kept holding.1
    have lost := payment.outstanding_left inside holding.2
    rw [payment.found] at owed
    change _ + (if _ then stream.outstanding _ else 0) = _ at owed
    by_cases here : holding.1 = key.1
    · rw [if_pos here, if_pos here] at owed
      rw [if_pos here.symm] at enough
      by_cases token : holding.2 = stream.tokenAddress
      · rw [if_pos token.symm] at lost
        rw [if_pos ⟨token, here⟩] at kept
        omega
      · rw [if_neg fun both => token both.1] at kept
        omega
    · rw [if_neg here, if_neg here] at owed
      rw [if_neg fun both => here both.2] at kept
      omega

/-- Less is set aside. -/
theorem less (backed : Backed reserves tokens holding credit (aside + budget) before) :
    Backed reserves tokens holding credit budget before where
  unused := backed.unused
  inside := backed.inside
  covered := (Nat.add_le_add_left (Nat.le_add_left budget aside) _).trans backed.covered

/-- A list of streams, opened one after the other. -/
theorem createStreams (documented : controller.Documented reserves book)
    (pays : tokens.Pays controller reserves holding.2 slack) {frame : Frame}
    {streams : List StreamArgs} (known : ∀ args ∈ streams, args.collector = book.collector ∨
      args.collector = book.ecosystemReserve)
    (backed : Backed reserves tokens holding credit
      ((streams.map fun args => args.owed holding).sum + budget) before)
    (ran : controller.createStreams frame streams before = .ok ((), after)) :
    Backed reserves tokens holding credit budget after := by
  have done := createStreams_invariant (fun rest state => Backed reserves tokens holding credit
      ((rest.map fun args => args.owed holding).sum + budget) state)
    (fun {args rest before streamId after} member holds created => ?_) backed ran
  · exact done.less
  · have here := known args member
    have checks := ((documented.create_iff here).mp ⟨streamId, after, created⟩).2
    rw [List.map_cons, List.sum_cons, add_assoc] at holds
    exact holds.opened checks (documented.create_effect here created) (pays.create created holding.1)

/-- **Every step keeps the invariant**, and spends its cost. -/
theorem attempt (documentedReserves : reserves.Documented)
    (documented : controller.Documented reserves book)
    (pays : tokens.Pays controller reserves holding.2 slack) (apart : book.RecipientApart)
    {event : StreamStep} (inTime : event.timestamp + days 360 < 2 ^ 256)
    (backed : Backed reserves tokens holding credit (event.cost book slack holding + budget) before) :
    Backed reserves tokens holding credit budget
      (Solidity.attempt (StreamStep.step controller reserves book) before event) := by
  apply attempt_invariant backed.less
  intro after ran
  rcases step_cases documentedReserves tokens inTime ran with
    ⟨payload, timestamp, rfl, created⟩ | ⟨key, stream, left, amount, logged, touches, payment⟩
  · exact backed.createStreams documented pays
      (fun args member => (streams_checked apart payload timestamp args member).1) created
  · rw [cost_touches touches] at backed
    exact backed.paid pays payment

/-- **The funds of a stream** are there. -/
theorem funds {key : StreamKey} {stream : Stream}
    (backed : Backed reserves tokens (key.1, stream.tokenAddress) 0 budget before)
    (found : reserves.getStream before key = some stream) :
    stream.remainingBalance ≤ tokens.balanceOf before stream.tokenAddress key.1 := by
  have member : key.2 ∈ Finset.range (reserves.getNextStreamId before key.1) :=
    Finset.mem_range.mpr (backed.used found)
  have own : outstanding (reserves.getStream before key) stream.tokenAddress =
      stream.remainingBalance := by
    rw [found]
    exact if_pos rfl
  calc stream.remainingBalance
      ≤ reserves.liability before (key.1, stream.tokenAddress) := by
        rw [← own]
        exact Finset.single_le_sum (f := fun streamId => outstanding
          (reserves.getStream before (key.1, streamId)) stream.tokenAddress)
          (fun _ _ => Nat.zero_le _) member
    _ ≤ tokens.balanceOf before stream.tokenAddress key.1 :=
        (Nat.le_add_right _ _).trans backed.covered

/-- **A stream pays** each amount within its balance, when its token lets it. -/
theorem withdraw_ok {key : StreamKey} {stream : Stream}
    (backed : Backed reserves tokens (key.1, stream.tokenAddress) 0 budget before)
    (documentedReserves : reserves.Documented)
    (unpaused : tokens.Open reserves stream.tokenAddress before) {caller : Address}
    {now amount balance : ℕ} (found : reserves.getStream before key = some stream)
    (allowed : caller = stream.recipient ∨ caller = reserves.getFundsAdmin before key.1)
    (positive : 0 < amount) (computed : stream.recipientBalance now = .ok balance)
    (enough : amount ≤ balance) :
    ∃ after, reserves.withdrawFromStream caller now key amount before = .ok (true, after) := by
  have inside := backed.inside key stream found
  have funds : amount ≤ tokens.balanceOf before stream.tokenAddress key.1 :=
    (enough.trans (stream.recipientBalance_le inside computed)).trans (backed.funds found)
  exact documentedReserves.withdraw_ok found allowed positive
    ((documentedReserves.balanceOf_recipient found).trans computed) enough
    (unpaused inside.somebody funds)

end Backed

/-! ### Runs -/

/-- **What holds of a run whose reserve is funded in a token**, at every point of it. -/
structure StreamsFunded (controller : ReserveController ρ) (reserves : Reserves ρ) (tokens : Tokens ρ)
    (book : AddressBook) (holding : Holding) (slack : ℕ) (initial : ρ) (events : List StreamStep) :
    Prop where
  /-- What is owed, the deposits to come, and the slack of the payments to come, is there. -/
  covered : ∀ soFar later, events = soFar ++ later →
    reserves.liability (run (StreamStep.step controller reserves book) initial soFar) holding +
        (later.map (StreamStep.cost book slack holding)).sum ≤
      tokens.balanceOf (run (StreamStep.step controller reserves book) initial soFar)
        holding.2 holding.1
  /-- The recipient and the admin withdraw each amount within the balance, from each stream of the
  reserve in the token, unless the token is paused. -/
  payable : ∀ soFar later, events = soFar ++ later →
    tokens.Open reserves holding.2 (run (StreamStep.step controller reserves book) initial soFar) →
    ∀ caller now streamId amount balance stream,
      reserves.getStream (run (StreamStep.step controller reserves book) initial soFar)
          (holding.1, streamId) = some stream → stream.tokenAddress = holding.2 →
      caller = stream.recipient ∨ caller = reserves.getFundsAdmin
        (run (StreamStep.step controller reserves book) initial soFar) holding.1 →
      0 < amount → stream.recipientBalance now = .ok balance → amount ≤ balance →
        ∃ after, reserves.withdrawFromStream caller now (holding.1, streamId) amount
          (run (StreamStep.step controller reserves book) initial soFar) = .ok (true, after)

/-- **Every run keeps the invariant**, and spends its cost. -/
theorem backed_run {controller : ReserveController ρ} {reserves : Reserves ρ} {tokens : Tokens ρ}
    {book : AddressBook} {holding : Holding} {slack credit aside : ℕ} {initial : ρ}
    {events : List StreamStep} (documentedReserves : reserves.Documented)
    (documented : controller.Documented reserves book)
    (pays : tokens.Pays controller reserves holding.2 slack) (apart : book.RecipientApart)
    (inTime : ∀ event ∈ events, event.timestamp + days 360 < 2 ^ 256)
    (backed : Backed reserves tokens holding credit
      ((events.map (StreamStep.cost book slack holding)).sum + aside) initial) :
    Backed reserves tokens holding credit aside
      (run (StreamStep.step controller reserves book) initial events) := by
  refine run_budget (StreamStep.cost book slack holding)
    (fun event => event.timestamp + days 360 < 2 ^ 256) (Backed reserves tokens holding credit) ?_ aside
    events initial inTime backed
  intro event before budget early holds
  exact holds.attempt documentedReserves documented pays apart early

/-- **A reserve that starts with funds for what it owes in a token and for the run's cost** never gets
short. -/
theorem streams_funded (controller : ReserveController ρ) (reserves : Reserves ρ)
    (tokens : Tokens ρ) (book : AddressBook) (documentedReserves : reserves.Documented)
    (documented : controller.Documented reserves book) (apart : book.RecipientApart)
    (holding : Holding) (slack : ℕ) (pays : tokens.Pays controller reserves holding.2 slack)
    (initial : ρ) (events : List StreamStep)
    (inTime : ∀ event ∈ events, event.timestamp + days 360 < 2 ^ 256)
    (backed : Backed reserves tokens holding 0 (events.map (StreamStep.cost book slack holding)).sum
      initial) :
    StreamsFunded controller reserves tokens book holding slack initial events := by
  have prefixes : ∀ soFar later, events = soFar ++ later →
      Backed reserves tokens holding 0 (later.map (StreamStep.cost book slack holding)).sum
        (run (StreamStep.step controller reserves book) initial soFar) := by
    rintro soFar later rfl
    rw [List.map_append, List.sum_append] at backed
    exact backed_run documentedReserves documented pays apart
      (fun event member => inTime event (List.mem_append_left _ member)) backed
  refine ⟨fun soFar later split => (prefixes soFar later split).covered, ?_⟩
  intro soFar later split unpaused caller now streamId amount balance stream found token allowed
    positive computed enough
  have funded := prefixes soFar later split
  obtain ⟨reserve, tokenAddress⟩ := holding
  obtain rfl : stream.tokenAddress = tokenAddress := token
  exact Backed.withdraw_ok funded documentedReserves unpaused found allowed positive computed enough

/-- Both payloads, a withdrawal and a cancellation. -/
def fundedRun : List StreamStep :=
  [.execute .paymentProposal 1000, .execute .v2Coverage 2000,
    .withdrawFromStream PaymentProposalPayload.chaosRecipient (mainnet.collector, 1) 5 9000,
    .cancelStream mainnet.collectorController (mainnet.ecosystemReserve, 0) (1000 + days 90)]

/-- The reserves hold units for the cost of the run, and for a number of claims after it. -/
def fundedStart (claims : ℕ) : FundedBook :=
  (ReserveBook.empty, ⟨fun tokenAddress who =>
    (fundedRun.map (StreamStep.cost mainnet 1 (who, tokenAddress))).sum + 1 * claims, 0⟩)

theorem fundedStart_backed (accruals : Address → FixedPoint.Accrual ray) (holding : Holding)
    {claims aside : ℕ}
    (covers : aside ≤ (fundedRun.map (StreamStep.cost mainnet 1 holding)).sum + 1 * claims) :
    Backed (fundedReserves accruals mainnet.collectorController) (fundedTokens accruals) holding 0
      aside (fundedStart claims) where
  unused _ _ _ := rfl
  inside _ _ member := by cases member
  covered := by
    have owed : (fundedReserves accruals mainnet.collectorController).liability (fundedStart claims)
      holding = 0 := rfl
    rw [owed, Nat.zero_add, Nat.add_zero]
    exact covers.trans ((accruals holding.2).le_worth _ _)

/-- The collector's aUSDC, which grows and is rounded. -/
theorem streams_funded_book : StreamsFunded (fundedController mainnet)
    (fundedReserves mainnetAccruals mainnet.collectorController) (fundedTokens mainnetAccruals) mainnet
    (mainnet.collector, mainnet.usdcAToken) 1 (fundedStart 0) fundedRun :=
  streams_funded (fundedController mainnet) (fundedReserves mainnetAccruals mainnet.collectorController)
    (fundedTokens mainnetAccruals) mainnet (fundedReserves_documented _ _)
    (fundedController_documented _ mainnet) ⟨by decide, by decide, by decide⟩
    (mainnet.collector, mainnet.usdcAToken) 1 (fundedTokens_pays _ mainnet _) (fundedStart 0) fundedRun
    (by decide) (fundedStart_backed _ _ (Nat.le_add_right _ _))

/-! ### What a run can spend -/

end AaveV2Payloads
