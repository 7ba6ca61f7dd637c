/-
Two states side by side, and what runs on one of them: transactions, the payloads' external contracts,
and the pool and the reserves on one chain (`jointExternals`).
-/

import AaveV2Payloads.Library.Simulation
import AaveV2Payloads.Payloads.Contract
import AaveV2Payloads.Pool.State

namespace AaveV2Payloads

open Solidity

section Sides

variable {σ τ : Type}

/-! ### Transactions on one side -/

def onFirst {α : Type} (tx : Tx σ α) : Tx (σ × τ) α := fun state =>
  (tx state.1).map fun result => (result.1, (result.2, state.2))

def onSecond {α : Type} (tx : Tx τ α) : Tx (σ × τ) α := fun state =>
  (tx state.2).map fun result => (result.1, (state.1, result.2))

theorem reverts_onFirst {α : Type} {tx : Tx σ α} (reverts : Reverts tx) : Reverts (onFirst (τ := τ) tx) := by
  intro state
  obtain ⟨reason, failed⟩ := reverts state.1
  refine ⟨reason, ?_⟩
  unfold onFirst
  rw [failed]
  rfl

theorem reverts_onSecond {α : Type} {tx : Tx τ α} (reverts : Reverts tx) : Reverts (onSecond (σ := σ) tx) := by
  intro state
  obtain ⟨reason, failed⟩ := reverts state.2
  refine ⟨reason, ?_⟩
  unfold onSecond
  rw [failed]
  rfl

section First

variable {α : Type} {tx : Tx σ α} {value : α} {before after : σ} {reason : Revert}

theorem onFirst_of_ok (ran : tx before = .ok (value, after)) (other : τ) :
    onFirst tx (before, other) = .ok (value, (after, other)) := by
  unfold onFirst
  rw [ran]
  rfl

theorem onFirst_of_error (ran : tx before = .error reason) (other : τ) :
    onFirst tx (before, other) = .error reason := by
  unfold onFirst
  rw [ran]
  rfl

theorem onFirst_ok_iff {start finish : σ × τ} : onFirst tx start = .ok (value, finish) ↔
    tx start.1 = .ok (value, finish.1) ∧ finish.2 = start.2 := by
  unfold onFirst
  cases tx start.1 with
  | error reason => exact ⟨fun same => (by cases same), fun same => (by cases same.1)⟩
  | ok pair =>
      simp only [Except.map, Except.ok.injEq, Prod.ext_iff]
      tauto

end First

section Second

variable {α : Type} {tx : Tx τ α} {value : α} {before after : τ} {reason : Revert}

theorem onSecond_of_ok (ran : tx before = .ok (value, after)) (other : σ) :
    onSecond tx (other, before) = .ok (value, (other, after)) := by
  unfold onSecond
  rw [ran]
  rfl

theorem onSecond_of_error (ran : tx before = .error reason) (other : σ) :
    onSecond tx (other, before) = .error reason := by
  unfold onSecond
  rw [ran]
  rfl

theorem onSecond_ok_iff {start finish : σ × τ} : onSecond tx start = .ok (value, finish) ↔
    tx start.2 = .ok (value, finish.2) ∧ finish.1 = start.1 := by
  unfold onSecond
  cases tx start.2 with
  | error reason => exact ⟨fun same => (by cases same), fun same => (by cases same.1)⟩
  | ok pair =>
      simp only [Except.map, Except.ok.injEq, Prod.ext_iff]
      tauto

end Second

/-- Transactions on the first of two states. -/
def firstSide : Lifting σ (σ × τ) where
  lift := onFirst
  lift_pure _ := rfl
  lift_bind first next := by
    funext ⟨state, other⟩
    cases ran : first state with
    | error reason =>
        rw [run_bind_of_error (onFirst_of_error ran other)]
        exact onFirst_of_error (run_bind_of_error ran) other
    | ok pair =>
        rw [run_bind_of_ok (onFirst_of_ok ran other)]
        unfold onFirst
        rw [run_bind_of_ok ran]
  lift_computed computed := by
    funext state
    cases computed <;> rfl

/-- Transactions on the second of two states. -/
def secondSide : Lifting τ (σ × τ) where
  lift := onSecond
  lift_pure _ := rfl
  lift_bind first next := by
    funext ⟨other, state⟩
    cases ran : first state with
    | error reason =>
        rw [run_bind_of_error (onSecond_of_error ran other)]
        exact onSecond_of_error (run_bind_of_error ran) other
    | ok pair =>
        rw [run_bind_of_ok (onSecond_of_ok ran other)]
        unfold onSecond
        rw [run_bind_of_ok ran]
  lift_computed computed := by
    funext state
    cases computed <;> rfl

/-- An attempt on one side. -/
theorem attempt_onSecond {ε ι : Type} {step : ε → Tx (σ × τ) Unit} {small : ι → Tx τ Unit} {event : ε}
    {part : ι} (same : step event = onSecond (small part)) (state : σ × τ) :
    attempt step state event = (state.1, attempt small state.2 part) := by
  rcases attempt_cases small state.2 part with ran | ⟨⟨reason, failed⟩, unchanged⟩
  · refine attempt_of_ok ?_
    rw [same]
    exact onSecond_of_ok ran state.1
  · rw [unchanged]
    have reverted : step event state = .error reason := by
      rw [same]
      exact onSecond_of_error failed state.1
    exact attempt_of_error reverted

end Sides

/-! ### The external contracts -/

section Lift

variable {σ τ : Type} (lifting : Lifting σ τ)

/-- A configurator of a part. -/
def PoolConfigurator.lift (configurator : PoolConfigurator σ) : PoolConfigurator τ where
  configureReserveAsCollateral caller asset ltv liquidationThreshold liquidationBonus :=
    lifting.lift (configurator.configureReserveAsCollateral caller asset ltv liquidationThreshold
      liquidationBonus)
  freezeReserve caller asset := lifting.lift (configurator.freezeReserve caller asset)

/-- A controller of a part. -/
def ReserveController.lift (controller : ReserveController σ) : ReserveController τ where
  createStream caller timestamp args :=
    lifting.lift (controller.createStream caller timestamp args)

end Lift

section Joint

variable {γ ρ : Type}

/-- The configurator on the pool, and the controller on the reserves. -/
def jointExternals (configurator : PoolConfigurator (PoolState γ)) (controller : ReserveController ρ) :
    Externals (PoolState γ × ρ) where
  configurator := configurator.lift firstSide
  controller := controller.lift secondSide

/-- **They are guarded when both sides are.** -/
theorem jointExternals_guarded {configurator : PoolConfigurator (PoolState γ)}
    {controller : ReserveController ρ} {owner : Address}
    (configure : ∀ asset ltv liquidationThreshold liquidationBonus, ServesOnly owner fun caller =>
      configurator.configureReserveAsCollateral caller asset ltv liquidationThreshold liquidationBonus)
    (freeze : ∀ asset, ServesOnly owner fun caller => configurator.freezeReserve caller asset)
    (create : ∀ timestamp stream, ServesOnly owner fun caller =>
      controller.createStream caller timestamp stream) :
    (jointExternals configurator controller).Guarded owner where
  configureReserveAsCollateral asset ltv liquidationThreshold liquidationBonus caller outsider :=
    reverts_onFirst (configure asset ltv liquidationThreshold liquidationBonus caller outsider)
  freezeReserve asset caller outsider := reverts_onFirst (freeze asset caller outsider)
  createStream timestamp stream caller outsider :=
    reverts_onSecond (create timestamp stream caller outsider)

end Joint

end AaveV2Payloads
