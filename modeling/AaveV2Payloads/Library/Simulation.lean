/-
**Runs that follow runs.**

A run of a system moves its parts. `view` is what one looks at of a state, and `translate` what an
event asks of the part.

* `run_simulates` — **the simulation rule**: when every attempt of an event moves the view like a run
  of its translation, every run moves it like the run of all translations.
* `chronological_flatMap`, `lastTime_flatMap_le` — the translated run keeps the order of the times.
* `run_balance` — **the balance rule**: what every attempt adds to a measure and takes from it adds
  up over a run.
* `run_budget` — **the budget rule**: what the events cost is set aside at the start, and spent.
* `run_replays` — **the replay rule**: a run whose steps are replayed from what they log is replayed
  from all it logs.
* `Lifting` — transactions of a part, run on the whole; `Lifting.lift_forM` lifts a sequence.
-/

import AaveV2Payloads.Library.Runs
import Mathlib.Algebra.BigOperators.Group.List.Basic

namespace Solidity

variable {σ τ ε ι θ α β : Type}

theorem run_append (step : ε → Tx σ Unit) (first second : List ε) (state : σ) :
    run step state (first ++ second) = run step (run step state first) second :=
  List.foldl_append

/-- **The simulation rule.** `allowed` is what is assumed of the run's events. -/
theorem run_simulates {step : ε → Tx σ Unit} {small : ι → Tx τ Unit} (view : σ → τ)
    (translate : ε → List ι) (allowed : ε → Prop)
    (follows : ∀ event state, allowed event →
      view (attempt step state event) = run small (view state) (translate event))
    (events : List ε) : ∀ state, (∀ event ∈ events, allowed event) →
      view (run step state events) = run small (view state) (events.flatMap translate) := by
  induction events with
  | nil => exact fun _ _ => rfl
  | cons event rest ih =>
      intro state inside
      have first := follows event state (inside event List.mem_cons_self)
      rw [run_cons, List.flatMap_cons, run_append, ← first]
      exact ih _ fun other member => inside other (List.mem_cons_of_mem _ member)

/-- The simulation rule for a translation that looks at the outcome of each step. -/
theorem run_simulates_trace {step : ε → Tx σ Unit} {small : ι → Tx τ Unit} (view : σ → τ)
    (translate : Record σ ε → List ι)
    (follows : ∀ event state, view (attempt step state event) = run small (view state)
      (translate ⟨event, state, succeeds step state event, attempt step state event⟩))
    (events : List ε) : ∀ state, view (run step state events) =
      run small (view state) ((trace step state events).flatMap translate) := by
  induction events with
  | nil => exact fun _ => rfl
  | cons event rest ih =>
      intro state
      rw [run_cons, trace, List.flatMap_cons, run_append, ← follows]
      exact ih (attempt step state event)

/-! ### The times of a translated run -/

theorem lastTime_append (clock : ι → θ) (first second : List ι) (now : θ) :
    lastTime clock now (first ++ second) = lastTime clock (lastTime clock now first) second :=
  List.foldl_append

section Time

variable [Preorder θ] {time : ε → θ} {clock : ι → θ} {now next : θ}

/-- A run in order from a later time is in order from an earlier one. -/
theorem Chronological.earlier {events : List ε} (ordered : now ≤ next)
    (chronological : Chronological time next events) : Chronological time now events := by
  cases events with
  | nil => trivial
  | cons event rest => exact ⟨ordered.trans chronological.1, chronological.2⟩

/-- The end of a run in order is in order from the time it is reached. -/
theorem Chronological.end_of_append {first second : List ε} : ∀ {now : θ},
    Chronological time now (first ++ second) →
      Chronological time (lastTime time now first) second := by
  induction first with
  | nil => exact fun ordered => ordered
  | cons event rest ih => exact fun ordered => ih ordered.2

/-- Events of one time, in front of a run in order. -/
theorem Chronological.append_at {first rest : List ι} (here : ∀ event ∈ first, clock event = next)
    (chronological : Chronological clock next rest) : Chronological clock next (first ++ rest) := by
  induction first with
  | nil => exact chronological
  | cons event others ih =>
      have now := here event List.mem_cons_self
      refine ⟨now.ge, ?_⟩
      rw [now]
      exact ih fun other member => here other (List.mem_cons_of_mem _ member)

variable {translate : ε → List ι}

/-- **Translated events keep their times, and so their order.** -/
theorem chronological_flatMap (same : ∀ event, ∀ small ∈ translate event, clock small = time event)
    {events : List ε} : ∀ {now : θ}, Chronological time now events →
      Chronological clock now (events.flatMap translate) := by
  induction events with
  | nil => exact fun _ => trivial
  | cons event rest ih =>
      intro now chronological
      rw [List.flatMap_cons]
      exact ((ih chronological.2).append_at (same event)).earlier chronological.1

/-- The last time of events of one time. -/
theorem lastTime_at {events : List ι} (here : ∀ event ∈ events, clock event = next)
    (ordered : now ≤ next) : lastTime clock now events ≤ next := by
  induction events generalizing now with
  | nil => exact ordered
  | cons event rest ih =>
      apply ih fun other member => here other (List.mem_cons_of_mem _ member)
      exact (here event List.mem_cons_self).le

/-- **The translated run is over when the run is.** -/
theorem lastTime_flatMap_le (same : ∀ event, ∀ small ∈ translate event, clock small = time event)
    {events : List ε} : ∀ {start now : θ}, start ≤ now → Chronological time now events →
      lastTime clock start (events.flatMap translate) ≤ lastTime time now events := by
  induction events with
  | nil => exact fun ordered _ => ordered
  | cons event rest ih =>
      intro start now ordered chronological
      rw [List.flatMap_cons, lastTime_append]
      exact ih (lastTime_at (same event) (ordered.trans chronological.1)) chronological.2

end Time

/-! ### Balances of a run -/

/-- **The balance rule.** What every attempt adds to a measure, and what it takes from it. -/
theorem run_balance {M : Type} [AddCommMonoid M] {step : ε → Tx σ Unit} (measure : σ → M)
    (added taken : Record σ ε → M)
    (balanced : ∀ event before,
      let line : Record σ ε := ⟨event, before, succeeds step before event, attempt step before event⟩
      measure before + added line = measure line.after + taken line)
    (events : List ε) : ∀ state,
      measure state + ((trace step state events).map added).sum =
        measure (run step state events) + ((trace step state events).map taken).sum := by
  induction events with
  | nil => exact fun _ => rfl
  | cons event rest ih =>
      intro state
      have first := balanced event state
      have others := ih (attempt step state event)
      simp only [trace, List.map_cons, List.sum_cons, run_cons] at first ⊢
      rw [← add_assoc, first, add_right_comm, others, add_assoc, add_comm (List.sum _)]

/-- **The budget rule.** What the events of a run cost is set aside at its start, and spent event by
event; `allowed` is what is assumed of the events. -/
theorem run_budget {M : Type} [AddCommMonoid M] {step : ε → Tx σ Unit} (cost : ε → M)
    (allowed : ε → Prop) (inv : M → σ → Prop)
    (spent : ∀ event before budget, allowed event → inv (cost event + budget) before →
      inv budget (attempt step before event))
    (budget : M) (events : List ε) : ∀ state, (∀ event ∈ events, allowed event) →
      inv ((events.map cost).sum + budget) state → inv budget (run step state events) := by
  induction events with
  | nil =>
      intro state _ holds
      rwa [List.map_nil, List.sum_nil, zero_add] at holds
  | cons event rest ih =>
      intro state inside holds
      rw [List.map_cons, List.sum_cons, add_assoc] at holds
      have next := spent event state _ (inside event List.mem_cons_self) holds
      exact ih _ (fun other member => inside other (List.mem_cons_of_mem _ member)) next

/-! ### Runs that are replayed -/

/-- What `after` logs beyond `before`, replayed on books that agree with `before`, gives books that agree
with `after`. -/
def Replays (agrees : σ → τ → Prop) (log : σ → List ι) (replay : τ → ι → τ) (before after : σ) :
    Prop :=
  ∃ emitted, log after = log before ++ emitted ∧
    ∀ books, agrees before books → agrees after (emitted.foldl replay books)

section Replays

variable {agrees : σ → τ → Prop} {log : σ → List ι} {replay : τ → ι → τ} {before middle after : σ}

theorem Replays.refl (state : σ) : Replays agrees log replay state state :=
  ⟨[], (List.append_nil _).symm, fun _ right => right⟩

theorem Replays.trans (first : Replays agrees log replay before middle)
    (second : Replays agrees log replay middle after) : Replays agrees log replay before after := by
  obtain ⟨early, logged, kept⟩ := first
  obtain ⟨late, extended, keptAfter⟩ := second
  refine ⟨early ++ late, ?_, fun books right => ?_⟩
  · rw [extended, logged, List.append_assoc]
  · rw [List.foldl_append]
    exact keptAfter _ (kept books right)

/-- One event. -/
theorem Replays.single {event : ι} (logged : log after = log before ++ [event])
    (kept : ∀ books, agrees before books → agrees after (replay books event)) :
    Replays agrees log replay before after :=
  ⟨[event], logged, kept⟩

/-- **The replay rule.** `allowed` is what is assumed of the run's events. -/
theorem run_replays {step : ε → Tx σ Unit} (allowed : ε → Prop)
    (follows : ∀ event before after, allowed event → step event before = .ok ((), after) →
      Replays agrees log replay before after)
    (events : List ε) (state : σ) (inside : ∀ event ∈ events, allowed event) :
    Replays agrees log replay state (run step state events) :=
  run_invariant allowed (Replays agrees log replay state)
    (fun event before after permitted holds ran =>
      holds.trans (follows event before after permitted ran))
    events state inside (Replays.refl state)

end Replays

/-! ### Transactions of a part -/

/-- A way to run the transactions of one state on another. -/
structure Lifting (σ τ : Type) where
  lift : {α : Type} → Tx σ α → Tx τ α
  lift_pure : ∀ {α : Type} (value : α), lift (pure value) = pure value
  lift_bind : ∀ {α β : Type} (first : Tx σ α) (next : α → Tx σ β),
    lift (first >>= next) = lift first >>= fun value => lift (next value)
  lift_computed : ∀ {α : Type} (computed : Except Revert α),
    lift (liftM computed) = liftM computed

namespace Lifting

variable (lifting : Lifting σ τ)

/-- **A lifted sequence is the sequence of its lifted steps.** -/
theorem lift_forM (body : ι → Tx σ Unit) (items : List ι) :
    lifting.lift (items.forM body) = items.forM fun item => lifting.lift (body item) := by
  induction items with
  | nil => exact lifting.lift_pure ()
  | cons item rest ih =>
      show lifting.lift (body item >>= fun _ => rest.forM body) = _
      rw [lifting.lift_bind, ih]
      rfl

end Lifting

end Solidity
