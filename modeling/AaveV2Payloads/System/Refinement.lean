/-
**A run of the whole system is a run of the pool and a run of the streams.**

A run interleaves calls of the payloads by any account with any calldata, proposals for any payloads,
withdrawals and cancellations. A proposal is a step when the executor acts on it; whether it may, at that
time, is for the queue to say (`Timelock`).

* `attempt_eq`, `run_eq` — what one step does to the two sides, and what a run does.
* `system_refines` — **every run**: its proposals go through, its calls change nothing, its pool is
  the pool of the executions of its pool payloads, and its reserves are those of its stream steps.
-/

import AaveV2Payloads.System.Reference

namespace AaveV2Payloads

open Solidity

variable {γ ρ : Type}

/-! ### Steps -/

/-- A step of the system. -/
inductive SystemStep (system : System γ ρ)
  /-- An account calls a payload with any calldata. -/
  | call (sender : Address) (site : Site system.environment) (callData : Bytes) (timestamp : Nat)
  /-- The executor carries out a proposal. -/
  | proposal (proposal : BuiltProposal system.environment) (timestamp : Nat)
  | withdrawFromStream (caller : Address) (key : StreamKey) (amount timestamp : Nat)
  | cancelStream (caller : Address) (key : StreamKey) (timestamp : Nat)

namespace SystemStep

variable {system : System γ ρ}

def timestamp : SystemStep system → Nat
  | .call _ _ _ timestamp => timestamp
  | .proposal _ timestamp => timestamp
  | .withdrawFromStream _ _ _ timestamp => timestamp
  | .cancelStream _ _ timestamp => timestamp

def step : SystemStep system → Tx (PoolState γ × ρ) Unit
  | .call sender site callData timestamp => do
      let _ ← system.environment.contracts.call ⟨sender, sender, timestamp⟩ site.address callData
  | .proposal built timestamp => ExecutionEvent.step (.proposal built timestamp)
  | .withdrawFromStream caller key amount timestamp => onSecond do
      let _ ← system.reserves.withdrawFromStream caller timestamp key amount
  | .cancelStream caller key timestamp => onSecond do
      let _ ← system.reserves.cancelStream caller timestamp key

/-- What a step asks of the pool. -/
def poolView : SystemStep system → List PoolExecution
  | .proposal built timestamp => poolExecutions built.sites timestamp
  | _ => []

/-- What a step asks of the reserves. -/
def streamView : SystemStep system → List StreamStep
  | .call _ _ _ _ => []
  | .proposal built timestamp => streamSteps built.sites timestamp
  | .withdrawFromStream caller key amount timestamp =>
      [.withdrawFromStream caller key amount timestamp]
  | .cancelStream caller key timestamp => [.cancelStream caller key timestamp]

/-- The step's times do not overflow. -/
def InTime (event : SystemStep system) : Prop := event.timestamp + days 360 < 2 ^ 256

end SystemStep

section Steps

variable {system : System γ ρ}

/-- **A call changes nothing**, whether it reverts or reads a constant. -/
theorem attempt_call (documented : system.Documented) (sender : Address)
    (site : Site system.environment) (callData : Bytes) (timestamp : Nat)
    (state : PoolState γ × ρ) :
    attempt SystemStep.step state (.call sender site callData timestamp) = state := by
  rcases call_site_idle documented.guarded documented.separate site ⟨sender, sender, timestamp⟩
    callData state with ⟨reason, failed⟩ | ⟨returned, ran⟩
  · exact attempt_of_error (run_bind_of_error failed)
  · exact attempt_of_ok ((run_bind_of_ok ran).trans rfl)

/-- **A proposal goes through**, with the effects of its payloads. -/
theorem step_proposal_ok (documented : system.Documented)
    (built : BuiltProposal system.environment) {timestamp : Nat}
    (inTime : timestamp + days 360 < 2 ^ 256) (pool : PoolState γ) (state : ρ) :
    SystemStep.step (.proposal built timestamp) (pool, state) =
      .ok ((), (system.poolRun pool (poolExecutions built.sites timestamp),
        system.streamRun state (streamSteps built.sites timestamp))) :=
  (step_proposal_ok_iff documented.executor built timestamp _ _).mpr
    (siteEffects_run documented inTime built.sites pool state)

/-- A call of a reserve moves the streams alone. -/
theorem attempt_reserves {event : SystemStep system} {part : StreamStep}
    (same : event.step = onSecond
      (part.step system.controller system.reserves system.environment.book))
    (state : PoolState γ × ρ) :
    attempt SystemStep.step state event = (state.1, system.streamRun state.2 [part]) :=
  attempt_onSecond same state

/-- **One step**, on both sides. -/
theorem attempt_eq (documented : system.Documented) (event : SystemStep system)
    (state : PoolState γ × ρ) (inTime : event.InTime) :
    attempt SystemStep.step state event =
      (system.poolRun state.1 event.poolView, system.streamRun state.2 event.streamView) := by
  obtain ⟨pool, streams⟩ := state
  cases event with
  | call sender site callData timestamp =>
      exact attempt_call documented sender site callData timestamp (pool, streams)
  | proposal built timestamp =>
      exact attempt_of_ok (step_proposal_ok documented built inTime pool streams)
  | withdrawFromStream caller key amount timestamp => exact attempt_reserves rfl (pool, streams)
  | cancelStream caller key timestamp => exact attempt_reserves rfl (pool, streams)

/-- **A whole run**, on both sides. -/
theorem run_eq (documented : system.Documented) {events : List (SystemStep system)}
    (inTime : ∀ event ∈ events, event.InTime) (state : PoolState γ × ρ) :
    run SystemStep.step state events =
      (system.poolRun state.1 (events.flatMap SystemStep.poolView),
        system.streamRun state.2 (events.flatMap SystemStep.streamView)) := by
  apply Prod.ext
  · apply run_simulates Prod.fst SystemStep.poolView SystemStep.InTime _ events state inTime
    intro event before early
    rw [attempt_eq documented event before early]
    rfl
  · apply run_simulates Prod.snd SystemStep.streamView SystemStep.InTime _ events state inTime
    intro event before early
    rw [attempt_eq documented event before early]
    rfl

end Steps

/-! ### Every run -/

/-- **The system refines its two sides.** -/
structure SystemRefines (system : System γ ρ) (initial : PoolState γ × ρ)
    (events : List (SystemStep system)) : Prop where
  /-- The run is a run of the pool payloads and a run of the streams, side by side. -/
  sides : run SystemStep.step initial events =
    (system.poolRun initial.1 (events.flatMap SystemStep.poolView),
      system.streamRun initial.2 (events.flatMap SystemStep.streamView))
  /-- Every proposal goes through, whatever the steps before it. -/
  proposals : ∀ line ∈ trace SystemStep.step initial events, ∀ built timestamp,
    line.event = .proposal built timestamp → line.succeeded = true ∧
      built.effects timestamp line.before = .ok ((), line.after)
  /-- No call of a payload changes anything. -/
  calls : ∀ line ∈ trace SystemStep.step initial events, ∀ sender site callData timestamp,
    line.event = .call sender site callData timestamp → line.after = line.before
  /-- The times of the streams' run are in the order of the system's. -/
  chronological : ∀ now, Chronological SystemStep.timestamp now events →
    Chronological StreamStep.timestamp now (events.flatMap SystemStep.streamView) ∧
      lastTime StreamStep.timestamp now (events.flatMap SystemStep.streamView) ≤
        lastTime SystemStep.timestamp now events

/-- A stream step has the time of the system's step. -/
theorem timestamp_streamView {system : System γ ρ} (event : SystemStep system) :
    ∀ small ∈ event.streamView, small.timestamp = event.timestamp := by
  intro small member
  cases event with
  | call sender site callData timestamp => cases member
  | proposal built timestamp =>
      obtain ⟨site, _, inside⟩ := List.mem_flatMap.mp member
      cases payload : site.payload with
      | pool _ =>
          rw [payload] at inside
          cases inside
      | payment payment =>
          rw [payload] at inside
          rw [List.mem_singleton.mp inside]
          rfl
  | withdrawFromStream caller key amount timestamp => rw [List.mem_singleton.mp member]; rfl
  | cancelStream caller key timestamp => rw [List.mem_singleton.mp member]; rfl

/-- Its times do not overflow when those of the system's steps do not. -/
theorem streamView_inTime {system : System γ ρ} {events : List (SystemStep system)}
    (inTime : ∀ event ∈ events, event.InTime) :
    ∀ small ∈ events.flatMap SystemStep.streamView, small.timestamp + days 360 < 2 ^ 256 := by
  intro small member
  obtain ⟨event, inside, step⟩ := List.mem_flatMap.mp member
  rw [timestamp_streamView event small step]
  exact inTime event inside

/-- **Every run of the system, in time.** The proposals of a run are those the executor acts on: that
they were queued and are due is not asked here, so the run may have any of them at any time. -/
theorem system_refines (system : System γ ρ) (documented : system.Documented)
    (initial : PoolState γ × ρ) (events : List (SystemStep system))
    (inTime : ∀ event ∈ events, event.InTime) : SystemRefines system initial events where
  sides := run_eq documented inTime initial
  proposals line member built timestamp same := by
    obtain ⟨inside, outcome, after⟩ := mem_trace events initial member
    have early : timestamp + days 360 < 2 ^ 256 := by
      have := inTime line.event inside
      rwa [same] at this
    have ran := step_proposal_ok documented built early line.before.1 line.before.2
    rw [outcome, after, same, attempt_of_ok ran]
    exact ⟨succeeds_of_ok ran, siteEffects_run documented early built.sites _ _⟩
  calls line member sender site callData timestamp same := by
    obtain ⟨_, _, after⟩ := mem_trace events initial member
    rw [after, same]
    exact attempt_call documented sender site callData timestamp line.before
  chronological now ordered := ⟨chronological_flatMap timestamp_streamView ordered,
    lastTime_flatMap_le timestamp_streamView le_rfl ordered⟩

/-! ### A run -/

/-- A proposal for five of the seven payloads, in an order of its own. -/
def sevenProposal : BuiltProposal (bookSystem sevenPayloads).environment where
  sites := [sevenSite (.payment .v2Coverage), sevenSite (.pool .ltTailDecember),
    sevenSite (.pool .freezeDPI), sevenSite (.payment .paymentProposal),
    sevenSite (.pool .mkrFeb26)]
  ipfsHash := 1
  arrays := executeAll [7, 3, 5, 6, 4]
  built := multiActions_ok (by decide) (by decide) (by decide)

/-- The proposal, between calls by an outsider and by the recipient of the streams. -/
def sevenRun : List (SystemStep (bookSystem sevenPayloads)) :=
  [.call 0xdead (sevenSite (.payment .paymentProposal))
      (executeSelector "execute()").bytes 900,
    .proposal sevenProposal 1000,
    .withdrawFromStream PaymentProposalPayload.chaosRecipient (mainnet.collector, 0) 5
      (1000 + days 150),
    .cancelStream 0xdead (mainnet.collector, 1) (1000 + days 200),
    .withdrawFromStream PaymentProposalPayload.chaosRecipient (mainnet.collector, 1)
      PaymentProposalPayload.ausdcStreamAmount (1000 + days 360)]

theorem sevenRun_ordered : Chronological SystemStep.timestamp 0 sevenRun :=
  ⟨by decide, by decide, by decide, by decide, by decide, trivial⟩

theorem sevenRun_inTime : ∀ event ∈ sevenRun, event.InTime := by
  unfold SystemStep.InTime
  intro event member
  simp only [sevenRun, List.mem_cons, List.not_mem_nil, or_false] at member
  rcases member with rfl | rfl | rfl | rfl | rfl <;> decide

theorem system_refines_seven : SystemRefines (bookSystem sevenPayloads)
    (⟨mainnet.namedAssets, fun _ => ⟨⟨0, 0, 0⟩, false, ()⟩⟩, ReserveBook.empty) sevenRun :=
  system_refines (bookSystem sevenPayloads) (bookSystem_documented rfl) _ sevenRun sevenRun_inTime

end AaveV2Payloads
