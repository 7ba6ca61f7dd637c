/-
**The unguarded `execute()` functions give no outsider any effect.**

A run interleaves direct calls by any account with proposals carried out by the executor. A direct
call reverts from every state (`step_direct_reverts`), so erasing all of them is the library's
`trace_filter` and `run_filter`; what a proposal does is `step_proposal_ok_iff`.

* `outsiders_powerless` — **the two runs are the same, proposal by proposal.**
-/

import AaveV2Payloads.Execution.Chain

namespace AaveV2Payloads

open Solidity

variable {σ : Type} {environment : Environment σ}

/-- The run without the direct calls. -/
def withoutDirect (events : List (ExecutionEvent environment)) : List (ExecutionEvent environment) :=
  events.filter ExecutionEvent.isProposal

/-- **No outsider has any effect on a run.** -/
structure OutsidersPowerless (initial : σ) (events : List (ExecutionEvent environment)) : Prop where
  /-- Both runs end in the same state. -/
  same_state : run ExecutionEvent.step initial (withoutDirect events) =
    run ExecutionEvent.step initial events
  /-- The proposals find the same states, and end in the same way. -/
  same_proposals : trace ExecutionEvent.step initial (withoutDirect events) =
    (trace ExecutionEvent.step initial events).filter fun line => line.event.isProposal
  direct_reverts : ∀ line ∈ trace ExecutionEvent.step initial events,
    line.event.isProposal = false → line.succeeded = false ∧ line.after = line.before
  /-- A proposal succeeds when all its payloads do, and has then applied their effects. -/
  proposal_all : ∀ line ∈ trace ExecutionEvent.step initial events,
    ∀ proposal timestamp, line.event = .proposal proposal timestamp →
      (line.succeeded = true ↔
        proposal.effects timestamp line.before = .ok ((), line.after))
  /-- A proposal with an action that fails has applied none. -/
  proposal_none : ∀ line ∈ trace ExecutionEvent.step initial events,
    ∀ proposal timestamp, line.event = .proposal proposal timestamp →
      ((∃ reason, proposal.effects timestamp line.before = .error reason) ↔
        line.succeeded = false) ∧ (line.succeeded = false → line.after = line.before)

theorem attempt_direct (guarded : environment.externals.Guarded environment.book.shortExecutor)
    (separate : ∀ site : Site environment, site.address ≠ environment.book.shortExecutor)
    {event : ExecutionEvent environment} (direct : event.isProposal = false) (state : σ) :
    (∃ reason, event.step state = .error reason) ∧ attempt ExecutionEvent.step state event = state := by
  cases event with
  | direct sender site timestamp =>
      have reverts := step_direct_reverts guarded separate sender site timestamp
      exact ⟨reverts state, Reverts.attempt reverts state⟩
  | proposal built timestamp => cases direct

/-- **The unguarded `execute()` functions give no outsider any effect.** -/
theorem outsiders_powerless (environment : Environment σ)
    (guarded : environment.externals.Guarded environment.book.shortExecutor)
    (separate : ∀ site : Site environment, site.address ≠ environment.book.shortExecutor)
    (documented : environment.ExecutorDocumented) (initial : σ)
    (events : List (ExecutionEvent environment)) : OutsidersPowerless initial events := by
  have idle (event : ExecutionEvent environment) (state : σ) (direct : event.isProposal = false) :=
    (attempt_direct guarded separate direct state).2
  refine
    { same_state := run_filter _ idle events initial
      same_proposals := (trace_filter _ idle events initial).symm
      direct_reverts := fun line member direct => ?_
      proposal_all := fun line member proposal timestamp same => ?_
      proposal_none := fun line member proposal timestamp same => ?_ }
  · obtain ⟨_, outcome, after⟩ := mem_trace events initial member
    obtain ⟨⟨reason, failed⟩, unchanged⟩ := attempt_direct guarded separate direct line.before
    exact ⟨outcome.trans (succeeds_of_error failed), after.trans unchanged⟩
  · obtain ⟨_, outcome, after⟩ := mem_trace events initial member
    rw [outcome, succeeds_iff, ← after, same]
    exact step_proposal_ok_iff documented proposal timestamp line.before line.after
  · obtain ⟨_, outcome, after⟩ := mem_trace events initial member
    have applied := step_proposal_ok_iff documented proposal timestamp line.before
    rw [outcome, after, same]
    rcases attempt_cases ExecutionEvent.step line.before (.proposal proposal timestamp) with
      ran | ⟨⟨reason, reverted⟩, unchanged⟩
    · rw [succeeds_of_ok ran, (applied _).mp ran]
      exact ⟨⟨fun ⟨_, failed⟩ => (by cases failed), fun failed => (by cases failed)⟩,
        fun failed => (by cases failed)⟩
    · refine ⟨⟨fun _ => succeeds_of_error reverted, fun _ => ?_⟩, fun _ => unchanged⟩
      cases effects : proposal.effects timestamp line.before with
      | error other => exact ⟨other, rfl⟩
      | ok pair => cases ((applied pair.2).mpr effects).symm.trans reverted

/-- Two direct calls around the proposal of the scripts. -/
theorem outsiders_powerless_shipped :
    OutsidersPowerless (⟨mainnet.namedAssets, fun _ => ⟨⟨0, 0, 0⟩, false, ()⟩⟩, ReserveBook.empty)
      ([.direct 0xdead usdcSite 5, .proposal shippedProposal 7, .direct 0xdead daiSite 9] :
        List (ExecutionEvent worldEnvironment)) :=
  outsiders_powerless worldEnvironment (worldExternals_guarded mainnet)
    (callingEnvironment_separate rfl) (callingExecutor_documented rfl) _ _

end AaveV2Payloads
