/-
**What one pool payload does to the pool.**

The configurator is outside the repository: `PoolConfigurator.Documented` is what it promises the
pool admin. Every reserve's configuration splits into the parts the payloads write and the `rest`.

* `PoolState.put` — the abstract effect: the collateral parameters and the frozen flags of a list of
  reserves are written, and nothing else.
* `PoolPayload.execute_ok` — **an execution as the pool admin succeeds from every state, and its
  effect is `put` of the payload's two lists.**
-/

import AaveV2Payloads.Library.LastWrite
import AaveV2Payloads.Payloads.Pool

namespace AaveV2Payloads

open Solidity LastWrite

variable {γ : Type}

/-! ### The pool -/

/-- The configuration of a reserve. -/
@[ext] structure ReserveConfig (γ : Type) where
  collateral : Collateral
  isFrozen : Bool
  rest : γ

/-- The assets of the pool, and what is configured for every asset. -/
@[ext] structure PoolState (γ : Type) where
  assets : List Address
  config : Address → ReserveConfig γ

namespace PoolState

variable (state : PoolState γ)

def collateral (asset : Address) : Collateral := (state.config asset).collateral

def isFrozen (asset : Address) : Bool := (state.config asset).isFrozen

def rest (asset : Address) : γ := (state.config asset).rest

def configure (asset : Address) (collateral : Collateral) : PoolState γ :=
  { state with
    config := Function.update state.config asset { state.config asset with collateral } }

def freeze (asset : Address) : PoolState γ :=
  { state with
    config := Function.update state.config asset { state.config asset with isFrozen := true } }

/-- **The abstract effect**: writes the parameters and the flags of two lists. -/
def put (collaterals : List (Address × Collateral)) (freezes : List (Address × Bool)) :
    PoolState γ where
  assets := state.assets
  config asset :=
    { collateral := writeAll state.collateral collaterals asset
      isFrozen := writeAll state.isFrozen freezes asset
      rest := state.rest asset }

variable {state}

/-- Two states are the same when their columns are. -/
theorem ext_columns {other : PoolState γ} (assets : state.assets = other.assets)
    (collateral : state.collateral = other.collateral) (isFrozen : state.isFrozen = other.isFrozen)
    (rest : state.rest = other.rest) : state = other := by
  refine PoolState.ext assets (funext fun asset => ?_)
  exact ReserveConfig.ext (congrFun collateral asset) (congrFun isFrozen asset)
    (congrFun rest asset)

theorem collateral_configure (asset : Address) (collateral : Collateral) :
    (state.configure asset collateral).collateral =
      Function.update state.collateral asset collateral := by
  funext other
  by_cases same : other = asset
  · subst same
    simp [PoolState.collateral, configure]
  · simp [PoolState.collateral, configure, same]

theorem isFrozen_configure (asset : Address) (collateral : Collateral) :
    (state.configure asset collateral).isFrozen = state.isFrozen := by
  funext other
  by_cases same : other = asset
  · subst same
    simp [PoolState.isFrozen, configure]
  · simp [PoolState.isFrozen, configure, same]

theorem rest_configure (asset : Address) (collateral : Collateral) :
    (state.configure asset collateral).rest = state.rest := by
  funext other
  by_cases same : other = asset
  · subst same
    simp [PoolState.rest, configure]
  · simp [PoolState.rest, configure, same]

theorem put_configure (asset : Address) (collateral : Collateral)
    (collaterals : List (Address × Collateral)) (freezes : List (Address × Bool)) :
    (state.configure asset collateral).put collaterals freezes =
      state.put ((asset, collateral) :: collaterals) freezes := by
  refine ext_columns rfl ?_ ?_ ?_
  · funext other
    show writeAll (state.configure asset collateral).collateral collaterals other = _
    rw [collateral_configure]
    rfl
  · funext other
    show writeAll (state.configure asset collateral).isFrozen freezes other = _
    rw [isFrozen_configure]
    rfl
  · exact rest_configure asset collateral

theorem freeze_eq_put (asset : Address) : state.freeze asset = state.put [] [(asset, true)] := by
  refine ext_columns rfl ?_ ?_ ?_ <;> funext other <;> by_cases same : other = asset
  all_goals simp [collateral, isFrozen, rest, freeze, put, same]

end PoolState

/-! ### The configurator -/

/-- `PercentageMath.percentMul`: a product of 1/10000s, rounded half up. -/
def percentMul (value percentage : Nat) : Nat := (value * percentage + 5000) / 10000

/-- The parameters `configureReserveAsCollateral` accepts of a reserve that stays collateral: in
order, of 16 bits each, and no position starts above its liquidation. -/
def Collateral.Accepted (collateral : Collateral) : Prop :=
  collateral.ltv ≤ collateral.liquidationThreshold ∧ 0 < collateral.liquidationThreshold ∧
    10000 < collateral.liquidationBonus ∧
    percentMul collateral.liquidationThreshold collateral.liquidationBonus ≤ 10000 ∧
    collateral.ltv < 2 ^ 16 ∧ collateral.liquidationThreshold < 2 ^ 16 ∧
    collateral.liquidationBonus < 2 ^ 16

instance (collateral : Collateral) : Decidable collateral.Accepted :=
  inferInstanceAs (Decidable (_ ∧ _ ∧ _ ∧ _ ∧ _ ∧ _ ∧ _))

/-- What the configurator documents of calls by the pool admin. -/
structure PoolConfigurator.Documented (configurator : PoolConfigurator (PoolState γ))
    (admin : Address) : Prop where
  configure_ok : ∀ asset (collateral : Collateral) before, collateral.Accepted →
    configurator.configureReserveAsCollateral admin asset collateral.ltv
      collateral.liquidationThreshold collateral.liquidationBonus before =
        .ok ((), before.configure asset collateral)
  freeze_ok : ∀ asset before, configurator.freezeReserve admin asset before =
    .ok ((), before.freeze asset)

section Execute

variable {configurator : PoolConfigurator (PoolState γ)} {book : AddressBook} {frame : Frame}

/-- Configuring a list of reserves. -/
theorem configureReserves_ok (documented : configurator.Documented frame.this)
    {entries : List (Address × Collateral)} (accepted : ∀ entry ∈ entries, entry.2.Accepted) :
    ∀ before, configurator.configureReserves frame entries before =
      .ok ((), before.put entries []) := by
  induction entries with
  | nil => exact fun _ => rfl
  | cons entry rest ih =>
      intro before
      obtain ⟨asset, collateral⟩ := entry
      have first := documented.configure_ok asset collateral before
        (accepted _ List.mem_cons_self)
      have others := ih (fun other member => accepted other (List.mem_cons_of_mem _ member))
        (before.configure asset collateral)
      rw [PoolState.put_configure] at others
      exact (run_bind_of_ok first).trans others

/-- The parameters do not depend on the addresses. -/
theorem PoolPayload.forall_collaterals {good : Collateral → Prop} {payload : PoolPayload}
    (onMainnet : ∀ collateral ∈ (payload.collaterals mainnet).map Prod.snd, good collateral)
    (book : AddressBook) : ∀ entry ∈ payload.collaterals book, good entry.2 := by
  have same : (payload.collaterals book).map Prod.snd = (payload.collaterals mainnet).map Prod.snd := by
    cases payload <;> rfl
  intro entry member
  apply onMainnet
  rw [← same]
  exact List.mem_map_of_mem member

/-- **Every payload's parameters are accepted.** -/
theorem PoolPayload.collaterals_accepted (book : AddressBook) (payload : PoolPayload) :
    ∀ entry ∈ payload.collaterals book, entry.2.Accepted := by
  apply forall_collaterals
  cases payload <;> decide

/-- **The effect of one execution.** -/
theorem PoolPayload.execute_ok (documented : configurator.Documented frame.this)
    (payload : PoolPayload) (before : PoolState γ) :
    payload.execute configurator book frame before =
      .ok ((), before.put (payload.collaterals book) (payload.freezes book)) := by
  cases payload with
  | daiLTDecember => exact configureReserves_ok documented (collaterals_accepted book .daiLTDecember) before
  | usdcLTDecember => exact configureReserves_ok documented (collaterals_accepted book .usdcLTDecember) before
  | ltTailDecember => exact configureReserves_ok documented (collaterals_accepted book .ltTailDecember) before
  | mkrFeb26 => exact configureReserves_ok documented (collaterals_accepted book .mkrFeb26) before
  | freezeDPI =>
      rw [collaterals, freezes, ← PoolState.freeze_eq_put]
      exact documented.freeze_ok book.dpiUnderlying before

end Execute

end AaveV2Payloads
