/-
**Every reachable state of the system is sound.**

`SystemSound` is what holds of a state after a run: on the pool the last proposal to name an asset
has its parameters there, and on the reserves every stream a proposal opened keeps its account. It
rests on `run_eq` and on the invariants of the two sides (`run_performed`, `tracked_run`).

* `system_sound` — **after every run, at every later time.**
-/

import AaveV2Payloads.Streams.Soundness
import AaveV2Payloads.System.Reference
import AaveV2Payloads.System.Refinement

namespace AaveV2Payloads

open Solidity LastWrite

variable {γ ρ : Type}

/-- The pool payloads of the proposals of a run, in the order of their executions. -/
def executedPool {system : System γ ρ} (events : List (SystemStep system)) : List PoolPayload :=
  payloadsOf (events.flatMap SystemStep.poolView)

/-- A proposal of the run opened a stream with the arguments. -/
structure OpenedBy {system : System γ ρ} (events : List (SystemStep system))
    (payload : PaymentPayload) (timestamp : Nat) (args : StreamArgs) : Prop where
  proposed : ∃ built : BuiltProposal system.environment, .proposal built timestamp ∈ events ∧
    ∃ site ∈ built.sites, site.payload = .payment payload
  asked : args ∈ payload.streams system.environment.book timestamp

/-- **What holds after a run**, until the next step. -/
structure SystemSound (system : System γ ρ) (initial : PoolState γ × ρ)
    (events : List (SystemStep system)) (now : Nat) : Prop where
  /-- Each asset has the parameters of the last payload a proposal executed that names it. -/
  collateral : ∀ asset, (run SystemStep.step initial events).1.collateral asset =
    (lastValue (PoolPayload.collaterals system.environment.book) (executedPool events) asset).getD
      (initial.1.collateral asset)
  frozen : ∀ asset, (run SystemStep.step initial events).1.isFrozen asset = true ↔
    initial.1.isFrozen asset = true ∨
      asset = system.environment.book.dpiUnderlying ∧ .freezeDPI ∈ executedPool events
  rest : (run SystemStep.step initial events).1.rest = initial.1.rest
  assets : (run SystemStep.step initial events).1.assets = initial.1.assets
  healthy : (∀ asset, (initial.1.collateral asset).Healthy) →
    ∀ asset, ((run SystemStep.step initial events).1.collateral asset).Healthy
  /-- Every stream opened was asked for by a proposal, and is sound. -/
  streams : ∃ emitted, system.reserves.log (run SystemStep.step initial events).2 =
      system.reserves.log initial.2 ++ emitted ∧
    ∀ event ∈ emitted, ∀ args, openedArgs event = some args →
      StreamSound system.reserves now (run SystemStep.step initial events).2 emitted
        (eventKey event) args ∧
      ∃ payload timestamp, OpenedBy events payload timestamp args ∧
        (payload = .paymentProposal → now ≤ timestamp + days 180 →
          paidOf emitted (eventKey event) = 0)

section Sound

variable {system : System γ ρ} {initial : PoolState γ × ρ} {events : List (SystemStep system)}

/-- The pool of a run is that of the payloads it executed. -/
theorem pool_performed (documented : system.Documented) (inTime : ∀ event ∈ events, event.InTime)
    (initial : PoolState γ × ρ) : Performed system.environment.book (executedPool events) initial.1
      (run SystemStep.step initial events).1 := by
  rw [run_eq documented inTime initial]
  exact run_performed documented.configurator system.environment.book _ initial.1

/-- The flags a sequence of payloads leaves. -/
theorem lastFreeze_eq (book : AddressBook) (payloads : List PoolPayload) (asset : Address)
    (before : Bool) :
    (lastValue (PoolPayload.freezes book) payloads asset).getD before = true ↔
      before = true ∨ asset = book.dpiUnderlying ∧ .freezeDPI ∈ payloads := by
  rw [lastValue_of_sole fun _ => PoolPayload.lookup_freezes]
  by_cases ran : .freezeDPI ∈ payloads
  · by_cases same : asset = book.dpiUnderlying
    · simp [ran, same, PoolPayload.freezes]
    · have other : (asset == book.dpiUnderlying) = false := beq_eq_false_iff_ne.mpr same
      simp [ran, same, other, PoolPayload.freezes, List.lookup_cons]
  · simp [ran]

/-- An execution among the stream steps is a payload of a proposal. -/
theorem openedBy_of_executedWith {args : StreamArgs}
    (executed : ExecutedWith system.environment.book (events.flatMap SystemStep.streamView) args) :
    ∃ payload timestamp, OpenedBy events payload timestamp args := by
  obtain ⟨payload, timestamp, member, asked⟩ := executed
  obtain ⟨event, inside, step⟩ := List.mem_flatMap.mp member
  cases event with
  | call sender site callData time => cases step
  | withdrawFromStream caller key amount time => cases List.mem_singleton.mp step
  | cancelStream caller key time => cases List.mem_singleton.mp step
  | proposal built time =>
      obtain ⟨site, chosen, here⟩ := List.mem_flatMap.mp step
      cases kind : site.payload with
      | pool _ =>
          rw [kind] at here
          cases here
      | payment other =>
          rw [kind] at here
          cases List.mem_singleton.mp here
          exact ⟨payload, timestamp, ⟨built, inside, site, chosen, kind⟩, asked⟩

end Sound

/-- **Every state the system reaches is sound.** -/
theorem system_sound (system : System γ ρ) (documented : system.Documented)
    (initial : PoolState γ × ρ)
    (unused : ∀ reserve streamId, system.reserves.getNextStreamId initial.2 reserve ≤ streamId →
      system.reserves.getStream initial.2 (reserve, streamId) = none)
    (events : List (SystemStep system)) (ordered : Chronological SystemStep.timestamp 0 events)
    (inTime : ∀ event ∈ events, event.InTime) (now : Nat)
    (late : lastTime SystemStep.timestamp 0 events ≤ now) :
    SystemSound system initial events now := by
  have performed := pool_performed documented inTime initial
  refine
    { collateral := fun asset => ?_
      frozen := fun asset => ?_
      rest := performed.rest
      assets := performed.assets
      healthy := fun start asset => ?_
      streams := ?_ }
  · rw [performed.collateral, perform_apply (PoolPayload.collaterals_distinct documented.distinct)]
  · rw [performed.isFrozen, perform_apply PoolPayload.freezes_distinct, lastFreeze_eq]
  · rw [performed.collateral]
    exact perform_invariant (fun _ (collateral : Collateral) => collateral.Healthy)
      (PoolPayload.collaterals_healthy system.environment.book) _ _ start asset
  · have inOrder := chronological_flatMap timestamp_streamView ordered
    have ended := (lastTime_flatMap_le timestamp_streamView le_rfl ordered).trans late
    obtain ⟨emitted, logged, tracked⟩ := tracked_run documented.reserves documented.controller
      documented.apart unused inOrder (streamView_inTime inTime) ended
    rw [run_eq documented inTime initial]
    refine ⟨emitted, logged, fun event member args opened => ?_⟩
    obtain ⟨executed, valid, accounted⟩ := tracked.accounted event member args opened
    refine ⟨accounted.streamSound documented.reserves, ?_⟩
    obtain ⟨payload, timestamp, opener⟩ := openedBy_of_executedWith executed
    refine ⟨payload, timestamp, opener, ?_⟩
    rintro rfl unpaid
    apply accounted.sound.unpaid_before
    obtain rfl := List.mem_singleton.mp opener.asked
    exact unpaid

/-- After both payments, the long tail, the freeze and MKR, at the end of the first stream. -/
theorem system_sound_seven : SystemSound (bookSystem sevenPayloads)
    (⟨mainnet.namedAssets, fun _ => ⟨⟨0, 0, 0⟩, false, ()⟩⟩, ReserveBook.empty) sevenRun
      (1000 + days 360) :=
  system_sound (bookSystem sevenPayloads) (bookSystem_documented rfl) _ (fun _ _ _ => rfl) sevenRun
    sevenRun_ordered sevenRun_inTime _ (by decide)

end AaveV2Payloads
