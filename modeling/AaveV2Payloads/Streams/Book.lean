/-
A set of reserves kept in one book, and their controller: an implementation of the interface that
does what is documented (`bookReserves_documented`, `bookController_documented`).
-/

import AaveV2Payloads.Streams.Reserve

namespace AaveV2Payloads

open Solidity

/-- The next ids, the streams and the log of all reserves. -/
structure ReserveBook where
  nextStreamId : Address → Nat
  streams : StreamKey → Option Stream
  log : List (Address × StreamEvent)

namespace ReserveBook

/-- No streams, no events. -/
def empty : ReserveBook := ⟨fun _ => 0, fun _ => none, []⟩

variable (book : ReserveBook)

/-- Writes one stream and logs one event. -/
def write (key : StreamKey) (stream : Option Stream) (event : StreamEvent) : ReserveBook where
  nextStreamId := book.nextStreamId
  streams := Function.update book.streams key stream
  log := book.log ++ [(key.1, event)]

/-- `streamExists` and `onlyAdminOrRecipient`. -/
def authorized (fundsAdmin caller : Address) (key : StreamKey) : Except Revert Stream :=
  match book.streams key with
  | none => .error (.require "stream does not exist")
  | some stream =>
      if caller = stream.recipient ∨ caller = fundsAdmin then .ok stream
      else .error (.require "caller is not the funds admin or the recipient of the stream")

def withdraw (fundsAdmin caller : Address) (now : Nat) (key : StreamKey) (amount : Nat) :
    Except Revert (Bool × ReserveBook) := do
  let stream ← book.authorized fundsAdmin caller key
  require (0 < amount) "amount is zero"
  let balance ← stream.recipientBalance now
  require (amount ≤ balance) "amount exceeds the available balance"
  return (true, book.write key (stream.withdrawn amount)
    (.withdrawFromStream key.2 stream.recipient amount))

def cancel (fundsAdmin caller : Address) (now : Nat) (key : StreamKey) :
    Except Revert (Bool × ReserveBook) := do
  let stream ← book.authorized fundsAdmin caller key
  let senderBalance ← stream.senderBalance now
  let recipientBalance ← stream.recipientBalance now
  return (true, book.write key none (.cancelStream key.2 stream.sender stream.recipient
    senderBalance recipientBalance))

def balanceOf (now : Nat) (key : StreamKey) (who : Address) : Except Revert Nat :=
  match book.streams key with
  | none => .error (.require "stream does not exist")
  | some stream =>
      if who = stream.recipient then stream.recipientBalance now
      else if who = stream.sender then stream.senderBalance now
      else .ok 0

def create (args : StreamArgs) : ReserveBook where
  nextStreamId := Function.update book.nextStreamId args.collector
    (book.nextStreamId args.collector + 1)
  streams := Function.update book.streams (args.collector, book.nextStreamId args.collector)
    (some args.stream)
  log := book.log ++ [args.created (book.nextStreamId args.collector)]

end ReserveBook

/-- The reserves of a book. -/
def bookReserves (fundsAdmin : Address) : Reserves ReserveBook where
  getStream book := book.streams
  getNextStreamId book := book.nextStreamId
  getFundsAdmin _ _ := fundsAdmin
  log book := book.log
  balanceOf now key who book := book.balanceOf now key who
  withdrawFromStream caller now key amount book := book.withdraw fundsAdmin caller now key amount
  cancelStream caller now key book := book.cancel fundsAdmin caller now key
  canTransfer _ _ _ _ _ := True

instance (caller : Address) (now : Nat) (args : StreamArgs) :
    Decidable (CreateChecks caller now args) :=
  decidable_of_iff (args.recipient ≠ 0 ∧ args.recipient ≠ args.collector ∧ args.recipient ≠ caller ∧
      0 < args.deposit ∧ now ≤ args.startTime ∧ args.startTime < args.stopTime ∧
      args.stopTime - args.startTime ≤ args.deposit ∧
      args.stopTime - args.startTime ∣ args.deposit)
    ⟨fun ⟨zero, reserve, caller, positive, past, ordered, ge, dvd⟩ =>
        ⟨zero, reserve, caller, positive, past, ordered, ge, dvd⟩,
      fun checks => ⟨checks.not_zero, checks.not_reserve, checks.not_caller, checks.deposit_pos,
        checks.not_past, checks.ordered, checks.deposit_ge, checks.deposit_dvd⟩⟩

/-- Their controller, which serves the short executor. -/
def bookController (addresses : AddressBook) : ReserveController ReserveBook where
  createStream caller now args book :=
    if caller = addresses.shortExecutor ∧ CreateChecks addresses.collectorController now args then
      .ok (book.nextStreamId args.collector, book.create args)
    else .error (.external [])

section Documented

variable {fundsAdmin caller : Address} {book : ReserveBook} {key : StreamKey} {stream : Stream}

theorem ReserveBook.authorized_ok_iff : book.authorized fundsAdmin caller key = .ok stream ↔
    book.streams key = some stream ∧ (caller = stream.recipient ∨ caller = fundsAdmin) := by
  unfold authorized
  cases found : book.streams key with
  | none => simp
  | some other =>
      by_cases allowed : caller = other.recipient ∨ caller = fundsAdmin
      · simp only [if_pos allowed, Except.ok.injEq, Option.some.injEq]
        exact ⟨fun same => ⟨same, same ▸ allowed⟩, fun both => both.1⟩
      · simp only [if_neg allowed, Option.some.injEq, reduceCtorEq, false_iff]
        rintro ⟨rfl, others⟩
        exact allowed others

theorem ReserveBook.balanceOf_recipient {now : Nat} (found : book.streams key = some stream) :
    book.balanceOf now key stream.recipient = stream.recipientBalance now := by
  unfold balanceOf
  rw [found]
  exact if_pos rfl

theorem bookReserves_writes {written : Option Stream} {event : StreamEvent} :
    Writes (bookReserves fundsAdmin) key written (key.1, event) book
      (book.write key written event) where
  written := Function.update_self _ _ _
  others _ different := Function.update_of_ne different _ _
  logged := rfl

theorem bookReserves_documented (fundsAdmin : Address) : (bookReserves fundsAdmin).Documented where
  balanceOf_recipient found := ReserveBook.balanceOf_recipient found
  balanceOf_sender {now key book stream} found apart := by
    show book.balanceOf now key stream.sender = _
    unfold ReserveBook.balanceOf
    rw [show book.streams key = some stream from found]
    exact (if_neg apart).trans (if_pos rfl)
  withdraw_effect {caller now key amount book result after} ran := by
    obtain ⟨stream, allowed, ran⟩ := ok_bind_iff.mp ran
    obtain ⟨_, _, ran⟩ := ok_bind_iff.mp ran
    obtain ⟨balance, computed, ran⟩ := ok_bind_iff.mp ran
    obtain ⟨_, within, ran⟩ := ok_bind_iff.mp ran
    have enough : amount ≤ balance := by
      by_contra more
      rw [require_false more] at within
      cases within
    cases ran
    refine ⟨stream, ?_⟩
    exact
      { toWrites := bookReserves_writes
        found := (ReserveBook.authorized_ok_iff.mp allowed).1
        within := ⟨balance, computed, enough⟩
        next_after := rfl }
  withdraw_ok {caller now key amount book stream balance} found allowed positive computed enough _ := by
    have authorized : book.authorized fundsAdmin caller key = .ok stream :=
      ReserveBook.authorized_ok_iff.mpr ⟨found, allowed⟩
    have available : stream.recipientBalance now = .ok balance :=
      (ReserveBook.balanceOf_recipient found).symm.trans computed
    refine ⟨book.write key (stream.withdrawn amount)
      (.withdrawFromStream key.2 stream.recipient amount), ?_⟩
    show book.withdraw fundsAdmin caller now key amount = _
    unfold ReserveBook.withdraw
    rw [authorized, ok_bind, require_true positive, ok_bind, available, ok_bind,
      require_true enough]
    rfl
  cancel_effect {caller now key book result after} ran := by
    obtain ⟨stream, allowed, ran⟩ := ok_bind_iff.mp ran
    obtain ⟨senderBalance, sender_eq, ran⟩ := ok_bind_iff.mp ran
    obtain ⟨recipientBalance, recipient_eq, ran⟩ := ok_bind_iff.mp ran
    cases ran
    refine ⟨stream, senderBalance, recipientBalance, ?_⟩
    exact
      { toWrites := bookReserves_writes
        found := (ReserveBook.authorized_ok_iff.mp allowed).1
        sender_eq := sender_eq
        recipient_eq := recipient_eq
        next_after := rfl }

theorem bookController_documented (addresses : AddressBook) :
    (bookController addresses).Documented (bookReserves addresses.collectorController) addresses where
  create_iff {caller now args book} _ := by
    by_cases checked : caller = addresses.shortExecutor ∧
        CreateChecks addresses.collectorController now args
    · exact ⟨fun _ => checked, fun _ => ⟨_, _, if_pos checked⟩⟩
    · refine ⟨fun ⟨streamId, after, ran⟩ => ?_, fun both => absurd both checked⟩
      cases (if_neg checked).symm.trans ran
  create_effect {caller now args book streamId after} _ ran := by
    by_cases checked : caller = addresses.shortExecutor ∧
        CreateChecks addresses.collectorController now args
    · cases (if_pos checked).symm.trans ran
      exact
        { written := Function.update_self _ _ _
          others := fun _ different => Function.update_of_ne different _ _
          logged := rfl
          next := rfl
          next_after := rfl }
    · cases (if_neg checked).symm.trans ran

end Documented

end AaveV2Payloads
