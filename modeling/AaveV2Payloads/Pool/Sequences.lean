/-
**Sequences of pool payloads: the last writer wins, and nothing else changes.**

An execution by the pool admin writes the payload's two lists (`PoolPayload.execute_ok`), so a run
performs them one after the other (`run_performed`) and the library's last-writer rules apply to the
columns of the pool.

* `soleNamer`, `lastCollateral_mkr` — every asset is named by one payload at most, except MKR.
* `lastCollateral_congr` — so the set of payloads and the last one naming MKR decide everything.
* `last_writer_wins` — **every sequence, from every state.**
* `run_swap_iff` — the payloads commute pair by pair, except the two that name MKR.
-/

import AaveV2Payloads.Library.Runs
import AaveV2Payloads.Pool.State

namespace AaveV2Payloads

open Solidity LastWrite

variable {γ : Type}

/-! ### Runs -/

/-- One execution by the pool admin. -/
structure PoolExecution where
  payload : PoolPayload
  sender : Address
  timestamp : Nat

/-- The payload's code runs as the pool admin. -/
def poolStep (configurator : PoolConfigurator (PoolState γ)) (book : AddressBook) (admin : Address)
    (execution : PoolExecution) : Tx (PoolState γ) Unit :=
  execution.payload.execute configurator book ⟨admin, execution.sender, execution.timestamp⟩

section Runs

variable {configurator : PoolConfigurator (PoolState γ)} {book : AddressBook} {admin : Address}

theorem poolStep_ok (documented : configurator.Documented admin) (execution : PoolExecution)
    (before : PoolState γ) : poolStep configurator book admin execution before =
      .ok ((), before.put (execution.payload.collaterals book) (execution.payload.freezes book)) :=
  PoolPayload.execute_ok documented execution.payload before

/-- A state that a sequence of payloads leaves, column by column. -/
structure Performed (book : AddressBook) (payloads : List PoolPayload) (before after : PoolState γ) :
    Prop where
  assets : after.assets = before.assets
  collateral : after.collateral = perform (PoolPayload.collaterals book) before.collateral payloads
  isFrozen : after.isFrozen = perform (PoolPayload.freezes book) before.isFrozen payloads
  rest : after.rest = before.rest

/-- Two states left by the same columns are the same. -/
theorem Performed.unique {payloads others : List PoolPayload} {before after another : PoolState γ}
    (performed : Performed book payloads before after)
    (performedAlso : Performed book others before another)
    (collateral : perform (PoolPayload.collaterals book) before.collateral payloads =
      perform (PoolPayload.collaterals book) before.collateral others)
    (isFrozen : perform (PoolPayload.freezes book) before.isFrozen payloads =
      perform (PoolPayload.freezes book) before.isFrozen others) : after = another := by
  apply PoolState.ext_columns
  · rw [performed.assets, performedAlso.assets]
  · rw [performed.collateral, performedAlso.collateral, collateral]
  · rw [performed.isFrozen, performedAlso.isFrozen, isFrozen]
  · rw [performed.rest, performedAlso.rest]

/-- The payloads of a sequence. -/
def payloadsOf (executions : List PoolExecution) : List PoolPayload :=
  executions.map (·.payload)

/-- **A run performs its payloads.** -/
theorem run_performed (documented : configurator.Documented admin) (book : AddressBook)
    (executions : List PoolExecution) : ∀ initial : PoolState γ,
    Performed book (payloadsOf executions) initial
      (run (poolStep configurator book admin) initial executions) := by
  induction executions with
  | nil => exact fun _ => ⟨rfl, rfl, rfl, rfl⟩
  | cons execution rest ih =>
      intro initial
      rw [run_cons, attempt_of_ok (poolStep_ok documented execution initial)]
      obtain ⟨assets, collateral, isFrozen, rest⟩ := ih (initial.put _ _)
      exact ⟨assets, collateral, isFrozen, rest⟩

end Runs

/-! ### Which payload names which asset -/

namespace PoolPayload

/-- The assets a payload configures as collateral. -/
def assets (book : AddressBook) : PoolPayload → List Address
  | .daiLTDecember => [book.daiUnderlying]
  | .usdcLTDecember => [book.usdcUnderlying]
  | .ltTailDecember =>
      [book.ensUnderlying, book.mkrUnderlying, book.snxUnderlying, book.crvUnderlying]
  | .mkrFeb26 => [book.mkrUnderlying]
  | .freezeDPI => []

/-- The parameters a payload has for MKR, which two payloads name. -/
def mkrCollateral : PoolPayload → Option Collateral
  | .ltTailDecember =>
      some ⟨LTTailDecemberPayload.mkrLtv, LTTailDecemberPayload.mkrLiquidationThreshold,
        LTTailDecemberPayload.mkrLiquidationBonus⟩
  | .mkrFeb26 =>
      some ⟨MKRPayloadFeb26.mkrLtv, MKRPayloadFeb26.mkrLiquidationThreshold,
        MKRPayloadFeb26.mkrLiquidationBonus⟩
  | _ => none

def namesMkr (payload : PoolPayload) : Bool := payload.mkrCollateral.isSome

variable {book : AddressBook} {asset : Address}

theorem map_fst_collaterals (payload : PoolPayload) :
    (payload.collaterals book).map Prod.fst = payload.assets book := by
  cases payload <;> rfl

theorem lookup_of_not_named {payload : PoolPayload} (absent : asset ∉ payload.assets book) :
    (payload.collaterals book).lookup asset = none :=
  lookup_of_not_mem (payload.map_fst_collaterals ▸ absent)

theorem collaterals_distinct (distinct : book.namedAssets.Nodup) (payload : PoolPayload) :
    ((payload.collaterals book).map Prod.fst).Nodup := by
  rw [map_fst_collaterals]
  cases payload with
  | ltTailDecember =>
      have tail := (List.nodup_cons.mp (List.nodup_cons.mp distinct).2).2
      exact tail.sublist (List.sublist_append_left _ [book.dpiUnderlying])
  | freezeDPI => exact List.nodup_nil
  | _ => exact List.nodup_singleton _

theorem freezes_distinct (payload : PoolPayload) : ((payload.freezes book).map Prod.fst).Nodup := by
  cases payload with
  | freezeDPI => exact List.nodup_singleton _
  | _ => exact List.nodup_nil

/-- **Every asset but MKR is named by one payload at most.** -/
theorem soleNamer (distinct : book.namedAssets.Nodup) (notMkr : asset ≠ book.mkrUnderlying) :
    ∃ sole : PoolPayload, ∀ payload, payload ≠ sole →
      (payload.collaterals book).lookup asset = none := by
  simp only [AddressBook.namedAssets, List.nodup_cons, List.mem_cons, List.not_mem_nil, or_false,
    not_or] at distinct
  by_cases dai : asset = book.daiUnderlying
  · refine ⟨.daiLTDecember, fun payload other => lookup_of_not_named ?_⟩
    subst dai
    cases payload <;> simp_all [assets]
  by_cases usdc : asset = book.usdcUnderlying
  · refine ⟨.usdcLTDecember, fun payload other => lookup_of_not_named ?_⟩
    subst usdc
    cases payload <;> simp_all [assets]
  · refine ⟨.ltTailDecember, fun payload other => lookup_of_not_named ?_⟩
    cases payload <;> simp_all [assets]

theorem lookup_mkr (distinct : book.namedAssets.Nodup) (payload : PoolPayload) :
    (payload.collaterals book).lookup book.mkrUnderlying = payload.mkrCollateral := by
  simp only [AddressBook.namedAssets, List.nodup_cons, List.mem_cons, List.not_mem_nil, or_false,
    not_or] at distinct
  cases payload with
  | ltTailDecember =>
      have later : (book.mkrUnderlying == book.ensUnderlying) = false :=
        beq_eq_false_iff_ne.mpr fun same => distinct.2.2.1.1 same.symm
      simp [collaterals, LTTailDecemberPayload.collaterals, mkrCollateral, List.lookup_cons, later]
  | mkrFeb26 => simp [collaterals, MKRPayloadFeb26.collaterals, MKRPayloadFeb26.mkr, mkrCollateral]
  | daiLTDecember =>
      exact lookup_of_not_named fun member =>
        distinct.1.2.2.1 (List.mem_singleton.mp member).symm
  | usdcLTDecember =>
      exact lookup_of_not_named fun member =>
        distinct.2.1.2.1 (List.mem_singleton.mp member).symm
  | freezeDPI => rfl

/-- **MKR has the parameters of the last payload that names it.** -/
theorem lastCollateral_mkr (distinct : book.namedAssets.Nodup) (payloads : List PoolPayload) :
    lastValue (collaterals book) payloads book.mkrUnderlying =
      (payloads.filter namesMkr).getLast?.bind mkrCollateral := by
  have silent (payload : PoolPayload) (quiet : payload.namesMkr = false) :
      (payload.collaterals book).lookup book.mkrUnderlying = none := by
    rw [lookup_mkr distinct]
    exact Option.not_isSome_iff_eq_none.mp (Bool.eq_false_iff.mp quiet)
  have named (payload : PoolPayload) (names : payload.namesMkr = true) :
      ((payload.collaterals book).lookup book.mkrUnderlying).isSome := by
    rw [lookup_mkr distinct]
    exact names
  rw [lastValue_of_contested silent named]
  simp only [lookup_mkr distinct]

/-- The two payloads that name MKR give it different parameters. -/
theorem eq_of_mkrCollateral {first second : PoolPayload} (names : first.namesMkr = true)
    (others : second.namesMkr = true) (same : first.mkrCollateral = second.mkrCollateral) :
    first = second := by
  revert names others same
  cases first <;> cases second <;> decide

/-- Only one payload freezes. -/
theorem lookup_freezes {payload : PoolPayload} (other : payload ≠ .freezeDPI) :
    (payload.freezes book).lookup asset = none := by
  cases payload with
  | freezeDPI => exact absurd rfl other
  | _ => rfl

variable {payloads others : List PoolPayload}

/-- **The set of payloads and the last one that names MKR decide all parameters.** -/
theorem lastCollateral_congr (distinct : book.namedAssets.Nodup)
    (sameSet : ∀ payload, payload ∈ payloads ↔ payload ∈ others)
    (sameLast : (payloads.filter namesMkr).getLast? = (others.filter namesMkr).getLast?) :
    lastValue (collaterals book) payloads asset = lastValue (collaterals book) others asset := by
  by_cases mkr : asset = book.mkrUnderlying
  · subst mkr
    rw [lastCollateral_mkr distinct, lastCollateral_mkr distinct, sameLast]
  · obtain ⟨sole, silent⟩ := soleNamer distinct mkr
    rw [lastValue_of_sole silent, lastValue_of_sole silent]
    exact if_congr (sameSet sole) rfl rfl

theorem lastFreeze_congr (sameSet : ∀ payload, payload ∈ payloads ↔ payload ∈ others) :
    lastValue (freezes book) payloads asset = lastValue (freezes book) others asset := by
  rw [lastValue_of_sole fun _ => lookup_freezes, lastValue_of_sole fun _ => lookup_freezes]
  exact if_congr (sameSet .freezeDPI) rfl rfl

end PoolPayload

/-! ### Every sequence, from every state -/

/-- The parameters fit together: nothing is lent beyond its liquidation threshold, and a liquidation
with its bonus is covered. -/
def Collateral.Healthy (collateral : Collateral) : Prop :=
  collateral.ltv ≤ collateral.liquidationThreshold ∧
    collateral.liquidationThreshold * collateral.liquidationBonus ≤ 10000 * 10000

instance (collateral : Collateral) : Decidable collateral.Healthy :=
  inferInstanceAs (Decidable (_ ∧ _))

/-- **What a sequence of executions does.** -/
structure LastWriterWins (configurator : PoolConfigurator (PoolState γ)) (book : AddressBook)
    (admin : Address) (initial : PoolState γ) (executions : List PoolExecution) : Prop where
  succeeds : ∀ line ∈ trace (poolStep configurator book admin) initial executions,
    line.succeeded = true
  /-- Each asset has the parameters of the last payload that names it. -/
  collateral : ∀ asset,
    (run (poolStep configurator book admin) initial executions).collateral asset =
      (lastValue (PoolPayload.collaterals book) (payloadsOf executions) asset).getD
        (initial.collateral asset)
  frozen_dpi :
    (run (poolStep configurator book admin) initial executions).isFrozen book.dpiUnderlying = true ↔
      initial.isFrozen book.dpiUnderlying = true ∨ .freezeDPI ∈ payloadsOf executions
  frozen_other : ∀ asset, asset ≠ book.dpiUnderlying →
    (run (poolStep configurator book admin) initial executions).isFrozen asset =
      initial.isFrozen asset
  rest : (run (poolStep configurator book admin) initial executions).rest = initial.rest
  assets : (run (poolStep configurator book admin) initial executions).assets = initial.assets
  healthy : (∀ asset, (initial.collateral asset).Healthy) →
    ∀ line ∈ trace (poolStep configurator book admin) initial executions,
      ∀ asset, (line.after.collateral asset).Healthy
  /-- The order and the repetitions do not matter, but for the last payload that names MKR. -/
  determined : ∀ others : List PoolExecution,
    (∀ payload, payload ∈ payloadsOf executions ↔ payload ∈ payloadsOf others) →
    ((payloadsOf executions).filter PoolPayload.namesMkr).getLast? =
      ((payloadsOf others).filter PoolPayload.namesMkr).getLast? →
    run (poolStep configurator book admin) initial executions =
      run (poolStep configurator book admin) initial others

/-- **Every payload's parameters are healthy.** -/
theorem PoolPayload.collaterals_healthy (book : AddressBook) (payload : PoolPayload) :
    ∀ entry ∈ payload.collaterals book, entry.2.Healthy := by
  apply forall_collaterals
  cases payload <;> decide

section Main

variable {configurator : PoolConfigurator (PoolState γ)} {book : AddressBook} {admin : Address}

/-- **What decides the final state.** -/
theorem run_determined (documented : configurator.Documented admin)
    (distinct : book.namedAssets.Nodup) {executions others : List PoolExecution}
    (sameSet : ∀ payload, payload ∈ payloadsOf executions ↔ payload ∈ payloadsOf others)
    (sameLast : ((payloadsOf executions).filter PoolPayload.namesMkr).getLast? =
      ((payloadsOf others).filter PoolPayload.namesMkr).getLast?) (initial : PoolState γ) :
    run (poolStep configurator book admin) initial executions =
      run (poolStep configurator book admin) initial others := by
  apply (run_performed documented book executions initial).unique
    (run_performed documented book others initial)
  · exact perform_congr (PoolPayload.collaterals_distinct distinct)
      (fun _ => PoolPayload.lastCollateral_congr distinct sameSet sameLast) _
  · exact perform_congr PoolPayload.freezes_distinct
      (fun _ => PoolPayload.lastFreeze_congr sameSet) _

/-- **The last writer wins.** -/
theorem last_writer_wins (configurator : PoolConfigurator (PoolState γ)) (book : AddressBook)
    (admin : Address) (documented : configurator.Documented admin)
    (distinct : book.namedAssets.Nodup) (initial : PoolState γ) (executions : List PoolExecution) :
    LastWriterWins configurator book admin initial executions := by
  have performed := run_performed documented book executions initial
  refine
    { succeeds := ?_
      collateral := fun asset => ?_
      frozen_dpi := ?_
      frozen_other := fun asset other => ?_
      rest := performed.rest
      assets := performed.assets
      healthy := ?_
      determined := fun others sameSet sameLast => ?_ }
  · intro line member
    rw [(mem_trace executions initial member).2.1]
    exact succeeds_of_ok (poolStep_ok documented line.event line.before)
  · rw [performed.collateral, perform_apply (PoolPayload.collaterals_distinct distinct)]
  · rw [performed.isFrozen, perform_apply PoolPayload.freezes_distinct,
      lastValue_of_sole fun _ => PoolPayload.lookup_freezes]
    show (Option.getD (ite (.freezeDPI ∈ payloadsOf executions) _ _) _) = true ↔ _
    by_cases ran : .freezeDPI ∈ payloadsOf executions
    · simp [ran, PoolPayload.freezes]
    · simp [ran]
  · rw [performed.isFrozen, perform_apply PoolPayload.freezes_distinct,
      lastValue_of_silent]
    · rfl
    · intro payload _
      cases payload with
      | freezeDPI => exact lookup_of_not_mem fun named => other (List.mem_singleton.mp named)
      | _ => rfl
  · intro start line member
    refine (trace_invariant (fun state : PoolState γ => ∀ asset, (state.collateral asset).Healthy)
      ?_ executions initial start member).2
    intro execution before after holds ran asset
    rw [poolStep_ok documented] at ran
    cases ran
    exact writeAll_invariant (fun _ collateral => collateral.Healthy)
      (execution.payload.collaterals_healthy book) before.collateral holds asset
  · exact run_determined documented distinct sameSet sameLast initial

/-- Two payloads that change places. -/
theorem run_swap (documented : configurator.Documented admin) (distinct : book.namedAssets.Nodup)
    {first second : PoolExecution}
    (uncontested : first.payload = second.payload ∨
      ¬ (first.payload.namesMkr = true ∧ second.payload.namesMkr = true))
    (initial : PoolState γ) :
    run (poolStep configurator book admin) initial [first, second] =
      run (poolStep configurator book admin) initial [second, first] := by
  refine run_determined documented distinct (fun payload => ?_) ?_ initial
  · simp only [payloadsOf, List.map_cons, List.map_nil, List.mem_cons, List.not_mem_nil, or_false]
    exact or_comm
  · simp only [payloadsOf, List.map_cons, List.map_nil]
    rcases uncontested with same | one
    · rw [same]
    · cases names : first.payload.namesMkr <;> cases others : second.payload.namesMkr <;>
        simp_all

/-- **The payloads commute pair by pair, except the two that name MKR.** -/
theorem run_swap_iff [Nonempty γ] (documented : configurator.Documented admin)
    (distinct : book.namedAssets.Nodup) (first second : PoolExecution) :
    (∀ initial : PoolState γ, run (poolStep configurator book admin) initial [first, second] =
      run (poolStep configurator book admin) initial [second, first]) ↔
      first.payload = second.payload ∨
        ¬ (first.payload.namesMkr = true ∧ second.payload.namesMkr = true) := by
  refine ⟨fun commute => ?_, run_swap documented distinct⟩
  by_contra contested
  obtain ⟨different, names, others⟩ := by simpa using contested
  obtain ⟨rest⟩ := ‹Nonempty γ›
  have same := congrArg (fun state : PoolState γ => state.collateral book.mkrUnderlying)
    (commute ⟨[], fun _ => ⟨⟨0, 0, 0⟩, false, rest⟩⟩)
  simp only [(run_performed documented _ _ _).collateral,
    perform_apply (PoolPayload.collaterals_distinct distinct),
    PoolPayload.lastCollateral_mkr distinct, payloadsOf, List.map_cons, List.map_nil] at same
  obtain ⟨one, firstGives⟩ := Option.isSome_iff_exists.mp names
  obtain ⟨two, secondGives⟩ := Option.isSome_iff_exists.mp others
  have equal : two = one := by simpa [names, others, firstGives, secondGives] using same
  refine different (PoolPayload.eq_of_mkrCollateral names others ?_)
  rw [firstGives, secondGives, equal]

end Main

/-! ### A configurator -/

/-- A configurator that serves one admin and checks the parameters. -/
def checkingConfigurator (admin : Address) : PoolConfigurator (PoolState γ) where
  configureReserveAsCollateral caller asset ltv liquidationThreshold liquidationBonus before :=
    if caller = admin ∧ Collateral.Accepted ⟨ltv, liquidationThreshold, liquidationBonus⟩ then
      .ok ((), before.configure asset ⟨ltv, liquidationThreshold, liquidationBonus⟩)
    else .error (.external [])
  freezeReserve caller asset before :=
    if caller = admin then .ok ((), before.freeze asset) else .error (.external [])

theorem checkingConfigurator_documented (admin : Address) :
    (checkingConfigurator admin : PoolConfigurator (PoolState γ)).Documented admin where
  configure_ok _ _ _ accepted := if_pos ⟨rfl, accepted⟩
  freeze_ok _ _ := if_pos rfl

/-- The long tail payload, then the MKR payload, on a pool without any configuration: MKR ends with
the parameters of the second. -/
theorem last_writer_wins_mkr :
    (run (poolStep (checkingConfigurator mainnet.shortExecutor) mainnet mainnet.shortExecutor)
      (⟨mainnet.namedAssets, fun _ => ⟨⟨0, 0, 0⟩, false, ()⟩⟩ : PoolState Unit)
      [⟨.ltTailDecember, mainnet.gov, 1⟩, ⟨.mkrFeb26, mainnet.gov, 2⟩]).collateral
        mainnet.mkrUnderlying = ⟨5900, 6400, 10750⟩ :=
  (last_writer_wins (checkingConfigurator mainnet.shortExecutor) mainnet mainnet.shortExecutor
    (checkingConfigurator_documented _) (by decide) _ _).collateral _

end AaveV2Payloads
