/-
**The invariant of all streams together.**

`Tracked` is kept by every call that goes through: opening a stream takes an id nothing was logged
under, and a withdrawal or a cancellation touches one stream that exists (`Tracked.touch`).
-/

import AaveV2Payloads.Streams.Ledger

namespace AaveV2Payloads

open Solidity Vesting

variable {ρ : Type}

/-- **The invariant**, over the events emitted so far. Nothing is stored or logged under an id that
is still to come, and every stream opened has an `origin` and a sound account. -/
structure Tracked (reserves : Reserves ρ) (origin : StreamArgs → Prop) (now : ℕ) (state : ρ)
    (emitted : EventLog) : Prop where
  unused : ∀ reserve streamId, reserves.getNextStreamId state reserve ≤ streamId →
    reserves.getStream state (reserve, streamId) = none ∧
      ∀ event ∈ emitted, eventKey event ≠ (reserve, streamId)
  accounted : ∀ event ∈ emitted, ∀ args, openedArgs event = some args →
    origin args ∧ ∃ valid : args.Valid,
      Accounted reserves now state emitted (eventKey event) args valid

namespace Tracked

variable {reserves : Reserves ρ} {origin : StreamArgs → Prop} {now : ℕ} {before after : ρ}
  {emitted : EventLog} {args : StreamArgs} {key : StreamKey} {stream : Stream}

theorem later {next : ℕ} (tracked : Tracked reserves origin now before emitted)
    (ordered : now ≤ next) : Tracked reserves origin next before emitted where
  unused := tracked.unused
  accounted event member args opened := by
    obtain ⟨known, valid, accounted⟩ := tracked.accounted event member args opened
    exact ⟨known, valid, accounted.later ordered⟩

/-- **Opening a stream.** -/
theorem opened {streamId : ℕ} (tracked : Tracked reserves origin now before emitted)
    (known : origin args) (valid : args.Valid) (opened : Opened reserves args streamId before after) :
    Tracked reserves origin now after (emitted ++ [args.created streamId]) := by
  have here := tracked.unused args.collector streamId opened.next.ge
  refine ⟨fun reserve other next => ?_, fun event member others same => ?_⟩
  · rw [opened.next_after] at next
    have unused : reserves.getNextStreamId before reserve ≤ other ∧
        (reserve, other) ≠ (args.collector, streamId) := by
      by_cases same : reserve = args.collector
      · subst same
        rw [Function.update_self] at next
        refine ⟨by rw [← opened.next]; omega, fun equal => ?_⟩
        have := congrArg Prod.snd equal
        dsimp only at this
        omega
      · rw [Function.update_of_ne same] at next
        exact ⟨next, fun equal => same (congrArg Prod.fst equal)⟩
    obtain ⟨absent, silent⟩ := tracked.unused reserve other unused.1
    refine ⟨(opened.others _ unused.2).trans absent, fun event member => ?_⟩
    rcases List.mem_append.mp member with old | new
    · exact silent event old
    · rw [List.mem_singleton.mp new]
      exact fun equal => unused.2 equal.symm
  · rcases List.mem_append.mp member with old | new
    · obtain ⟨earlier, sound, accounted⟩ := tracked.accounted event old others same
      exact ⟨earlier, sound, accounted.frame (here.2 event old) rfl opened.toWrites⟩
    · rw [List.mem_singleton.mp new] at same ⊢
      cases same
      exact ⟨known, valid, Accounted.opened opened here.2⟩

/-- **Touching a stream that exists.** -/
theorem touch {written : Option Stream} {event : Address × StreamEvent}
    (tracked : Tracked reserves origin now before emitted)
    (writes : Writes reserves key written event before after) (about : eventKey event = key)
    (found : reserves.getStream before key = some stream) (opens : openedArgs event = none)
    (next_after : reserves.getNextStreamId after = reserves.getNextStreamId before)
    (own : ∀ args (valid : args.Valid), Accounted reserves now before emitted key args valid →
      Accounted reserves now after (emitted ++ [event]) key args valid) :
    Tracked reserves origin now after (emitted ++ [event]) := by
  refine ⟨fun reserve streamId next => ?_, fun other member args same => ?_⟩
  · rw [next_after] at next
    obtain ⟨absent, silent⟩ := tracked.unused reserve streamId next
    have different : (reserve, streamId) ≠ key := by
      rintro rfl
      cases absent.symm.trans found
    refine ⟨(writes.others _ different).trans absent, fun other member => ?_⟩
    rcases List.mem_append.mp member with old | new
    · exact silent other old
    · rw [List.mem_singleton.mp new, about]
      exact different.symm
  · rcases List.mem_append.mp member with old | new
    · obtain ⟨known, valid, accounted⟩ := tracked.accounted other old args same
      refine ⟨known, valid, ?_⟩
      by_cases here : eventKey other = key
      · rw [here] at accounted ⊢
        exact own args valid accounted
      · exact accounted.frame here about writes
    · rw [List.mem_singleton.mp new, opens] at same
      cases same

theorem withdrawn {amount : ℕ} (tracked : Tracked reserves origin now before emitted)
    (withdrawn : Withdrawn reserves now key amount stream before after) :
    Tracked reserves origin now after
      (emitted ++ [(key.1, .withdrawFromStream key.2 stream.recipient amount)]) :=
  tracked.touch withdrawn.toWrites rfl withdrawn.found rfl withdrawn.next_after
    fun _ _ accounted => accounted.withdrawn withdrawn

theorem cancelled {senderBalance recipientBalance : ℕ}
    (tracked : Tracked reserves origin now before emitted)
    (cancelled : Cancelled reserves now key senderBalance recipientBalance stream before after) :
    Tracked reserves origin now after
      (emitted ++ [(key.1, .cancelStream key.2 stream.sender stream.recipient senderBalance
        recipientBalance)]) :=
  tracked.touch cancelled.toWrites rfl cancelled.found rfl cancelled.next_after
    fun _ _ accounted => accounted.cancelled cancelled

end Tracked

end AaveV2Payloads
