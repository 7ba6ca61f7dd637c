/-
**The account of one stream, read off the log of its reserve.**

What a stream paid and what its reserve kept are sums over the log (`paidOf`, `keptOf`); what is
still held is the reserve's `remainingBalance`. `Accounted` says that the three make a sound account
of the linear schedule the stream was opened with.

* `recipientBalance_eq`, `senderBalance_eq` — **on a sound account no subtraction underflows**, and
  the balances are what is due and what is left of the rest.
* `Accounted.opened`, `Accounted.withdrawn`, `Accounted.cancelled` — what each call does to the
  account of its own stream; `Accounted.frame` — what it does to the others: nothing.
-/

import AaveV2Payloads.Library.Vesting
import AaveV2Payloads.Streams.Reserve
import Mathlib.Algebra.BigOperators.Group.List.Basic
import Mathlib.Algebra.Ring.Nat

namespace AaveV2Payloads

open Solidity Vesting

variable {ρ : Type}

/-! ### Sums over a log -/

namespace StreamEvent

def streamId : StreamEvent → Nat
  | .createStream streamId _ _ _ _ _ _ => streamId
  | .withdrawFromStream streamId _ _ => streamId
  | .cancelStream streamId _ _ _ _ => streamId

/-- What the event paid to the recipient. -/
def paid : StreamEvent → Nat
  | .createStream _ _ _ _ _ _ _ => 0
  | .withdrawFromStream _ _ amount => amount
  | .cancelStream _ _ _ _ recipientBalance => recipientBalance

/-- What the event left to the reserve for good. -/
def kept : StreamEvent → Nat
  | .cancelStream _ _ _ senderBalance _ => senderBalance
  | _ => 0

def isCancel : StreamEvent → Bool
  | .cancelStream _ _ _ _ _ => true
  | _ => false

end StreamEvent

/-- The stream an event is about. -/
def eventKey (event : Address × StreamEvent) : StreamKey := (event.1, event.2.streamId)

/-- The arguments of the stream an event opened. -/
def openedArgs : Address × StreamEvent → Option StreamArgs
  | (reserve, .createStream _ _ recipient deposit tokenAddress startTime stopTime) =>
      some ⟨reserve, recipient, deposit, tokenAddress, startTime, stopTime⟩
  | _ => none

abbrev EventLog := List (Address × StreamEvent)

/-- The sum of a quantity over the events about one stream. -/
def sumOf (quantity : StreamEvent → Nat) (log : EventLog) (key : StreamKey) : Nat :=
  ((log.filter fun event => eventKey event = key).map fun event => quantity event.2).sum

/-- What a stream paid to its recipient. -/
def paidOf : EventLog → StreamKey → Nat := sumOf StreamEvent.paid

/-- What the reserve kept of a cancelled stream. -/
def keptOf : EventLog → StreamKey → Nat := sumOf StreamEvent.kept

def WasCancelled (log : EventLog) (key : StreamKey) : Prop :=
  ∃ event ∈ log, eventKey event = key ∧ event.2.isCancel = true

section Sums

variable {quantity : StreamEvent → Nat} {log : EventLog} {event : Address × StreamEvent}
  {key : StreamKey}

theorem sumOf_append_self (about : eventKey event = key) :
    sumOf quantity (log ++ [event]) key = sumOf quantity log key + quantity event.2 := by
  simp [sumOf, List.filter_append, about]

theorem sumOf_append_other (about : eventKey event ≠ key) :
    sumOf quantity (log ++ [event]) key = sumOf quantity log key := by
  simp [sumOf, List.filter_append, about]

theorem paidOf_append (about : eventKey event = key) :
    paidOf (log ++ [event]) key = paidOf log key + event.2.paid :=
  sumOf_append_self about

theorem keptOf_append (about : eventKey event = key) :
    keptOf (log ++ [event]) key = keptOf log key + event.2.kept :=
  sumOf_append_self about

/-- A log without events about a stream. -/
theorem sumOf_of_absent (absent : ∀ event ∈ log, eventKey event ≠ key) :
    sumOf quantity log key = 0 := by
  have none : (log.filter fun event => eventKey event = key) = [] :=
    List.filter_eq_nil_iff.mpr fun event member => by simpa using absent event member
  rw [sumOf, none]
  rfl

/-- Nothing is kept of a stream that was not cancelled. -/
theorem keptOf_eq_zero (uncancelled : ¬ WasCancelled log key) : keptOf log key = 0 := by
  refine List.sum_eq_zero fun amount member => ?_
  obtain ⟨event, inside, rfl⟩ := List.mem_map.mp member
  obtain ⟨inLog, about⟩ := List.mem_filter.mp inside
  cases kind : event.2 with
  | cancelStream streamId sender recipient senderBalance recipientBalance =>
      exact absurd ⟨event, inLog, by simpa using about, by rw [kind]; rfl⟩ uncancelled
  | _ => rfl

theorem wasCancelled_append : WasCancelled (log ++ [event]) key ↔
    WasCancelled log key ∨ eventKey event = key ∧ event.2.isCancel = true := by
  simp only [WasCancelled, List.mem_append, List.mem_singleton, or_and_right, exists_or,
    exists_eq_left]

end Sums

/-! ### The schedule of a stream -/

/-- Arguments a stream can be opened with. -/
structure StreamArgs.Valid (args : StreamArgs) : Prop where
  not_reserve : args.recipient ≠ args.collector
  deposit_pos : 0 < args.deposit
  ordered : args.startTime < args.stopTime
  deposit_dvd : args.stopTime - args.startTime ∣ args.deposit
  fits : args.deposit < 2 ^ 256

/-- The linear schedule of a stream. -/
def StreamArgs.schedule (args : StreamArgs) (valid : args.Valid) : Schedule ℕ where
  rate := args.deposit / (args.stopTime - args.startTime)
  start := args.startTime
  stop := args.stopTime
  ordered := valid.ordered

section Balances

variable {args : StreamArgs} (valid : args.Valid) {stream : Stream} {now paid remaining : ℕ}

/-- **The schedule releases the deposit, without a remainder.** -/
theorem schedule_total : (args.schedule valid).total = args.deposit := by
  show (args.stopTime - args.startTime) • (args.deposit / (args.stopTime - args.startTime)) = _
  rw [nsmul_eq_mul, Nat.cast_id, Nat.mul_div_cancel' valid.deposit_dvd]

/-- The stream's seconds are the schedule's. -/
theorem deltaOf_eq (opened : stream = { args.stream with remainingBalance := remaining }) :
    stream.deltaOf now = (args.schedule valid).elapsed now := by
  subst opened
  have ordered := valid.ordered
  show (if now ≤ args.startTime then 0 else if now < args.stopTime then now - args.startTime
    else args.stopTime - args.startTime) =
      min (now - args.startTime) (args.stopTime - args.startTime)
  split_ifs <;> omega

/-- **The recipient's balance is what is due.** -/
theorem recipientBalance_eq (opened : stream = { args.stream with remainingBalance := remaining })
    (sound : Sound (args.schedule valid) now ⟨paid, remaining⟩) :
    stream.recipientBalance now =
      .ok ((⟨paid, remaining⟩ : Account ℕ).due (args.schedule valid) now) := by
  have streamed : stream.deltaOf now * stream.ratePerSecond = (args.schedule valid).accrued now := by
    rw [deltaOf_eq valid opened, opened]
    rfl
  have bounded : (args.schedule valid).accrued now < 2 ^ 256 :=
    ((args.schedule valid).accrued_le_total now).trans_lt (schedule_total valid ▸ valid.fits)
  have conserved : paid + remaining = args.deposit := sound.conserved.trans (schedule_total valid)
  have covered : paid ≤ (args.schedule valid).accrued now := sound.covered
  have deposit : stream.deposit = args.deposit := by rw [opened]; rfl
  have rest : stream.remainingBalance = remaining := by rw [opened]
  unfold Stream.recipientBalance
  rw [checkedMul_ok_iff.mpr ⟨streamed ▸ bounded, streamed⟩, ok_bind, deposit, rest]
  by_cases some : remaining < args.deposit
  · have withdrawn : args.deposit - remaining = paid := by omega
    rw [if_pos some, checkedSub_ok_iff.mpr ⟨some.le, rfl⟩, ok_bind, withdrawn]
    exact checkedSub_ok_iff.mpr ⟨covered, rfl⟩
  · have nothing : paid = 0 := by omega
    rw [if_neg some, nothing]
    rfl

/-- **The sender's balance is what is held beyond that.** -/
theorem senderBalance_eq (opened : stream = { args.stream with remainingBalance := remaining })
    (sound : Sound (args.schedule valid) now ⟨paid, remaining⟩) :
    stream.senderBalance now =
      .ok (remaining - (⟨paid, remaining⟩ : Account ℕ).due (args.schedule valid) now) := by
  have rest : stream.remainingBalance = remaining := by rw [opened]
  unfold Stream.senderBalance
  rw [recipientBalance_eq valid opened sound, ok_bind, rest]
  exact checkedSub_ok_iff.mpr ⟨sound.due_le_held, rfl⟩

end Balances

/-! ### The account of a stream -/

/-- What is not paid of a stream: its remaining balance, and what the reserve kept once it is
closed. -/
def heldOf (reserves : Reserves ρ) (state : ρ) (log : EventLog) (key : StreamKey) : ℕ :=
  match reserves.getStream state key with
  | some stream => stream.remainingBalance
  | none => keptOf log key

/-- **The invariant of a stream**, opened with `args`: while it is open it differs from the stream
that was stored in its remaining balance alone, some of it remains, and it was not cancelled; its
account is sound. -/
structure Accounted (reserves : Reserves ρ) (now : ℕ) (state : ρ) (log : EventLog)
    (key : StreamKey) (args : StreamArgs) (valid : args.Valid) : Prop where
  stored : ∀ stream, reserves.getStream state key = some stream →
    stream = { args.stream with remainingBalance := stream.remainingBalance }
  remains : ∀ stream, reserves.getStream state key = some stream → 0 < stream.remainingBalance
  uncancelled : ∀ stream, reserves.getStream state key = some stream → ¬ WasCancelled log key
  sound : Sound (args.schedule valid) now ⟨paidOf log key, heldOf reserves state log key⟩

theorem heldOf_open {reserves : Reserves ρ} {state : ρ} {key : StreamKey} {stream : Stream}
    (log : EventLog) (found : reserves.getStream state key = some stream) :
    heldOf reserves state log key = stream.remainingBalance := by
  unfold heldOf
  rw [found]

theorem heldOf_closed {reserves : Reserves ρ} {state : ρ} {log : EventLog} {key : StreamKey}
    (closed : reserves.getStream state key = none) :
    heldOf reserves state log key = keptOf log key := by
  unfold heldOf
  rw [closed]

namespace Accounted

variable {reserves : Reserves ρ} {now : ℕ} {before after : ρ} {log : EventLog} {key : StreamKey}
  {args : StreamArgs} {valid : args.Valid} {stream : Stream}

theorem later {next : ℕ} (accounted : Accounted reserves now before log key args valid)
    (ordered : now ≤ next) : Accounted reserves next before log key args valid where
  stored := accounted.stored
  remains := accounted.remains
  uncancelled := accounted.uncancelled
  sound := accounted.sound.later ordered

theorem sound_open (accounted : Accounted reserves now before log key args valid)
    (found : reserves.getStream before key = some stream) :
    Sound (args.schedule valid) now ⟨paidOf log key, stream.remainingBalance⟩ :=
  heldOf_open log found ▸ accounted.sound

/-- **A call on another stream** changes nothing. -/
theorem frame {other : StreamKey} {written : Option Stream} {event : Address × StreamEvent}
    (accounted : Accounted reserves now before log key args valid) (different : key ≠ other)
    (about : eventKey event = other) (writes : Writes reserves other written event before after) :
    Accounted reserves now after (log ++ [event]) key args valid := by
  have elsewhere : eventKey event ≠ key := fun same => different (same.symm.trans about)
  have same : reserves.getStream after key = reserves.getStream before key :=
    writes.others key different
  refine ⟨fun stream found => accounted.stored stream (same ▸ found),
    fun stream found => accounted.remains stream (same ▸ found), fun stream found => ?_, ?_⟩
  · rw [wasCancelled_append]
    rintro (cancelled | ⟨here, _⟩)
    · exact accounted.uncancelled stream (same ▸ found) cancelled
    · exact elsewhere here
  · have sound := accounted.sound
    unfold heldOf paidOf keptOf at sound ⊢
    rwa [same, sumOf_append_other elsewhere, sumOf_append_other elsewhere]

/-- **Opening a stream** starts its account with the whole deposit. -/
theorem opened {streamId : ℕ} (opened : Opened reserves args streamId before after)
    (absent : ∀ event ∈ log, eventKey event ≠ (args.collector, streamId)) :
    Accounted reserves now after (log ++ [args.created streamId]) (args.collector, streamId) args
      valid := by
  have found := opened.written
  refine ⟨fun stream same => ?_, fun stream same => ?_, fun stream _ => ?_, ?_⟩
  · rw [found] at same
    cases same
    rfl
  · rw [found] at same
    cases same
    exact valid.deposit_pos
  · rw [wasCancelled_append]
    rintro (⟨event, member, about, _⟩ | ⟨_, cancel⟩)
    · exact absent event member about
    · cases cancel
  · have about : eventKey (args.created streamId) = (args.collector, streamId) := rfl
    have nothing : paidOf (log ++ [args.created streamId]) (args.collector, streamId) = 0 := by
      rw [paidOf_append about]
      exact sumOf_of_absent absent
    have fresh := Sound.fresh (args.schedule valid) now
    rw [schedule_total] at fresh
    rwa [nothing, heldOf_open _ found]

/-- **A withdrawal** pays a part of what is due. -/
theorem withdrawn {amount : ℕ} (accounted : Accounted reserves now before log key args valid)
    (withdrawn : Withdrawn reserves now key amount stream before after) :
    Accounted reserves now after
      (log ++ [(key.1, .withdrawFromStream key.2 stream.recipient amount)]) key args valid := by
  have stored := accounted.stored stream withdrawn.found
  have sound := accounted.sound_open withdrawn.found
  have about : eventKey (key.1, .withdrawFromStream key.2 stream.recipient amount) = key := rfl
  obtain ⟨balance, balance_eq, within⟩ := withdrawn.within
  rw [recipientBalance_eq valid stored sound] at balance_eq
  cases balance_eq
  have still : ¬ WasCancelled (log ++ [(key.1, .withdrawFromStream key.2 stream.recipient amount)])
      key := by
    rw [wasCancelled_append]
    rintro (cancelled | ⟨_, cancel⟩)
    · exact accounted.uncancelled stream withdrawn.found cancelled
    · cases cancel
  have written := withdrawn.written
  unfold Stream.withdrawn at written
  refine ⟨fun next found => ?_, fun next found => ?_, fun _ _ => still, ?_⟩
  · rw [written] at found
    by_cases all : stream.remainingBalance - amount = 0
    · rw [if_pos all] at found
      cases found
    · rw [if_neg all] at found
      cases found
      rw [stored]
  · rw [written] at found
    by_cases all : stream.remainingBalance - amount = 0
    · rw [if_pos all] at found
      cases found
    · rw [if_neg all] at found
      cases found
      exact Nat.pos_of_ne_zero all
  · have held : heldOf reserves after
        (log ++ [(key.1, .withdrawFromStream key.2 stream.recipient amount)]) key =
          stream.remainingBalance - amount := by
      by_cases all : stream.remainingBalance - amount = 0
      · rw [if_pos all] at written
        rw [heldOf_closed written, keptOf_eq_zero still, all]
      · rw [if_neg all] at written
        rw [heldOf_open _ written]
    rw [held, paidOf_append about]
    exact sound.paid within

/-- **A cancellation** pays what is due and keeps the rest. -/
theorem cancelled {senderBalance recipientBalance : ℕ}
    (accounted : Accounted reserves now before log key args valid)
    (cancelled : Cancelled reserves now key senderBalance recipientBalance stream before after) :
    Accounted reserves now after
      (log ++ [(key.1, .cancelStream key.2 stream.sender stream.recipient senderBalance
        recipientBalance)]) key args valid := by
  have stored := accounted.stored stream cancelled.found
  have sound := accounted.sound_open cancelled.found
  have about : eventKey (key.1, .cancelStream key.2 stream.sender stream.recipient senderBalance
    recipientBalance) = key := rfl
  have recipient_eq := cancelled.recipient_eq
  have sender_eq := cancelled.sender_eq
  rw [recipientBalance_eq valid stored sound] at recipient_eq
  rw [senderBalance_eq valid stored sound] at sender_eq
  cases recipient_eq
  cases sender_eq
  have closed := cancelled.written
  refine ⟨fun next found => ?_, fun next found => ?_, fun next found => ?_, ?_⟩
  · cases closed.symm.trans found
  · cases closed.symm.trans found
  · cases closed.symm.trans found
  · rw [heldOf_closed closed, paidOf_append about, keptOf_append about,
      keptOf_eq_zero (accounted.uncancelled stream cancelled.found), Nat.zero_add]
    exact sound.paid le_rfl

end Accounted

end AaveV2Payloads
