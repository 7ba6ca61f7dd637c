/-
**Runs of transactions.**

A run is a list of events, each one a transaction: it changes the state, or it reverts and the
state stays what it was.

* `trace_invariant` — **the invariant rule**: what every successful step keeps holds before and after
  every step of every run; `run_invariant` — it holds after every run.
* `run_chronological` — the rule for an invariant that reads a clock: it survives the passing of
  time, every successful step keeps it at the step's own time, so every run in chronological order
  has it at the time of its last event and at any later time.
* `trace_filter` — **erasure**: steps that leave the state as it was can be erased; the remaining
  steps run from the same states, with the same outcomes, into the same states.
-/

import AaveV2Payloads.Library.Execution
import Mathlib.Order.Basic

namespace Solidity

variable {σ ε τ : Type}

/-- One transaction of a run: the state it leaves, or the old state if it reverts. -/
def attempt (step : ε → Tx σ Unit) (state : σ) (event : ε) : σ :=
  match step event state with
  | .ok (_, next) => next
  | .error _ => state

/-- Whether the transaction goes through. -/
def succeeds (step : ε → Tx σ Unit) (state : σ) (event : ε) : Bool :=
  match step event state with
  | .ok _ => true
  | .error _ => false

/-- The state after a list of transactions. -/
def run (step : ε → Tx σ Unit) (state : σ) (events : List ε) : σ :=
  events.foldl (attempt step) state

section Attempt

variable {step : ε → Tx σ Unit} {state next : σ} {event : ε} {reason : Revert}

theorem attempt_of_ok (ran : step event state = .ok ((), next)) : attempt step state event = next := by
  unfold attempt
  rw [ran]

theorem attempt_of_error (ran : step event state = .error reason) :
    attempt step state event = state := by
  unfold attempt
  rw [ran]

theorem succeeds_of_ok (ran : step event state = .ok ((), next)) :
    succeeds step state event = true := by
  unfold succeeds
  rw [ran]

theorem succeeds_of_error (ran : step event state = .error reason) :
    succeeds step state event = false := by
  unfold succeeds
  rw [ran]

/-- **A transaction goes through or is undone.** -/
theorem attempt_cases (step : ε → Tx σ Unit) (state : σ) (event : ε) :
    step event state = .ok ((), attempt step state event) ∨
      (∃ reason, step event state = .error reason) ∧ attempt step state event = state := by
  cases ran : step event state with
  | ok pair => exact Or.inl (by rw [attempt_of_ok ran])
  | error reason => exact Or.inr ⟨⟨reason, rfl⟩, attempt_of_error ran⟩

/-- Transactions that go through alike are attempted alike. -/
theorem attempt_congr {ι : Type} {other : ι → Tx σ Unit} {part : ι}
    (same : ∀ after, step event state = .ok ((), after) ↔ other part state = .ok ((), after)) :
    attempt step state event = attempt other state part := by
  rcases attempt_cases step state event with ran | ⟨⟨reason, failed⟩, unchanged⟩
  · exact (attempt_of_ok ((same _).mp ran)).symm
  · rcases attempt_cases other state part with ran | ⟨_, still⟩
    · cases failed.symm.trans ((same _).mpr ran)
    · rw [unchanged, still]

theorem succeeds_iff : succeeds step state event = true ↔
    step event state = .ok ((), attempt step state event) := by
  cases ran : step event state with
  | ok pair => simp only [succeeds_of_ok ran, attempt_of_ok ran]
  | error reason => simp [succeeds_of_error ran]

end Attempt

@[simp] theorem run_cons (step : ε → Tx σ Unit) (state : σ) (event : ε) (rest : List ε) :
    run step state (event :: rest) = run step (attempt step state event) rest := rfl

/-! ### Invariants of runs -/

/-- What a successful transaction keeps, an attempt keeps. -/
theorem attempt_invariant {step : ε → Tx σ Unit} {inv : σ → Prop} {event : ε} {before : σ}
    (holds : inv before)
    (kept : ∀ after, step event before = .ok ((), after) → inv after) :
    inv (attempt step before event) := by
  rcases attempt_cases step before event with ran | ⟨_, same⟩
  · exact kept _ ran
  · rwa [same]

/-- **The invariant rule** for the end of a run. `allowed` is what is assumed of the run's events. -/
theorem run_invariant {step : ε → Tx σ Unit} (allowed : ε → Prop) (inv : σ → Prop)
    (kept : ∀ event before after, allowed event → inv before →
      step event before = .ok ((), after) → inv after)
    (events : List ε) : ∀ state, (∀ event ∈ events, allowed event) → inv state →
      inv (run step state events) := by
  induction events with
  | nil => exact fun _ _ holds => holds
  | cons event rest ih =>
      intro state inside holds
      have next := attempt_invariant holds fun after =>
        kept event state after (inside event List.mem_cons_self) holds
      exact ih _ (fun other member => inside other (List.mem_cons_of_mem _ member)) next

section Time

variable [Preorder τ]

/-- The events happen in the order of their times, none before `now`. -/
def Chronological (time : ε → τ) : τ → List ε → Prop
  | _, [] => True
  | now, event :: rest => now ≤ time event ∧ Chronological time (time event) rest

/-- The time of the last event, or the time before the first one. -/
def lastTime (time : ε → τ) (now : τ) (events : List ε) : τ :=
  events.foldl (fun _ event => time event) now

/-- The beginning of a run in order is in order. -/
theorem Chronological.of_append {time : ε → τ} {first second : List ε} : ∀ {now : τ},
    Chronological time now (first ++ second) → Chronological time now first := by
  induction first with
  | nil => exact fun _ => trivial
  | cons event rest ih => exact fun ordered => ⟨ordered.1, ih ordered.2⟩

/-- **The invariant rule with a clock.** `allowed` is what is assumed of the run's events. -/
theorem run_chronological {step : ε → Tx σ Unit} {time : ε → τ} (allowed : ε → Prop)
    (inv : τ → σ → Prop)
    (later : ∀ now next state, now ≤ next → inv now state → inv next state)
    (kept : ∀ event before after, allowed event → inv (time event) before →
      step event before = .ok ((), after) → inv (time event) after)
    (events : List ε) : ∀ now state, Chronological time now events →
      (∀ event ∈ events, allowed event) → inv now state →
      inv (lastTime time now events) (run step state events) := by
  induction events with
  | nil => exact fun _ _ _ _ holds => holds
  | cons event rest ih =>
      intro now state ordered inside holds
      refine ih (time event) _ ordered.2
        (fun other member => inside other (List.mem_cons_of_mem _ member)) ?_
      have due := later now (time event) state ordered.1 holds
      apply attempt_invariant due
      intro after ran
      exact kept event state after (inside event List.mem_cons_self) due ran

end Time

/-! ### Erasing steps without effect -/

/-- One line of a run's record. -/
structure Record (σ ε : Type) where
  event : ε
  before : σ
  succeeded : Bool
  after : σ

/-- The record of a run, step by step. -/
def trace (step : ε → Tx σ Unit) : σ → List ε → List (Record σ ε)
  | _, [] => []
  | state, event :: rest =>
      ⟨event, state, succeeds step state event, attempt step state event⟩ ::
        trace step (attempt step state event) rest

/-- **Erasure.** Steps that leave every state as it was can be erased from a run: the others keep
their states and their outcomes. -/
theorem trace_filter {step : ε → Tx σ Unit} (live : ε → Bool)
    (idle : ∀ event state, live event = false → attempt step state event = state)
    (events : List ε) : ∀ state,
      (trace step state events).filter (fun line => live line.event) =
        trace step state (events.filter live) := by
  induction events with
  | nil => exact fun _ => rfl
  | cons event rest ih =>
      intro state
      rw [trace, List.filter_cons]
      by_cases alive : live event = true
      · rw [if_pos alive, List.filter_cons_of_pos alive, trace, ih]
      · rw [if_neg alive, List.filter_cons_of_neg alive, ih,
          idle event state (Bool.eq_false_iff.mpr alive)]

theorem run_filter {step : ε → Tx σ Unit} (live : ε → Bool)
    (idle : ∀ event state, live event = false → attempt step state event = state)
    (events : List ε) : ∀ state, run step state (events.filter live) = run step state events := by
  induction events with
  | nil => exact fun _ => rfl
  | cons event rest ih =>
      intro state
      by_cases alive : live event = true
      · rw [List.filter_cons_of_pos alive, run_cons, run_cons, ih]
      · rw [List.filter_cons_of_neg alive, run_cons, ih,
          idle event state (Bool.eq_false_iff.mpr alive)]

/-- Every line of a run's record is one attempt of its event. -/
theorem mem_trace {step : ε → Tx σ Unit} {line : Record σ ε} (events : List ε) :
    ∀ state, line ∈ trace step state events →
      line.event ∈ events ∧ line.succeeded = succeeds step line.before line.event ∧
        line.after = attempt step line.before line.event := by
  induction events with
  | nil => exact fun _ member => by cases member
  | cons event rest ih =>
      intro state member
      rcases List.mem_cons.mp member with rfl | member
      · exact ⟨List.mem_cons_self, rfl, rfl⟩
      · obtain ⟨inside, outcome, after⟩ := ih _ member
        exact ⟨List.mem_cons_of_mem _ inside, outcome, after⟩

/-- **The invariant rule**, line by line. -/
theorem trace_invariant {step : ε → Tx σ Unit} (inv : σ → Prop)
    (kept : ∀ event before after, inv before → step event before = .ok ((), after) → inv after)
    {line : Record σ ε} (events : List ε) : ∀ state, inv state → line ∈ trace step state events →
      inv line.before ∧ inv line.after := by
  induction events with
  | nil => exact fun _ _ member => by cases member
  | cons event rest ih =>
      intro state holds member
      have next : inv (attempt step state event) :=
        attempt_invariant holds fun after => kept event state after holds
      rcases List.mem_cons.mp member with rfl | member
      · exact ⟨holds, next⟩
      · exact ih _ next member

end Solidity
