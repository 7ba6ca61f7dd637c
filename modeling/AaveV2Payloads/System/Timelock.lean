/-
**Many proposals in one queue: no action is lost, and none is carried out twice.**

Proposals are queued, executed and cancelled in any order, between calls of the payloads by anyone.
Governance and the executor are outside the repository; `Timelock.Documented` is what they promise of
the queue. All that tells two built actions apart is the payload, so a tuple of the queue is a payload
and an execution time.

* `actions_conserved` — **every run**: a payload was queued for a time as often as it was executed or
  cancelled there, and once more while it is queued; the chain's state is that of the executions.
* `queued_together_iff` — **which proposals can wait in the queue together**: those that share no
  payload for one execution time.
-/

import AaveV2Payloads.Governance.Queue
import AaveV2Payloads.Library.Slots
import AaveV2Payloads.System.Refinement
import Mathlib.Data.List.Count

namespace AaveV2Payloads

open Solidity Solidity.Abi

variable {κ σ : Type} {environment : Environment σ}

/-! ### The queue -/

/-- The executor's queue: its tuples, and how the actions of a proposal are carried out, with the
execution time and the time of the block. -/
structure Timelock (κ σ : Type) where
  slots : Slots κ (Action × Nat)
  execute : List Action → Nat → Nat → Tx (κ × σ) Unit

/-- The tuples of actions with one execution time. -/
def tuples (actions : List Action) (executionTime : Nat) : List (Action × Nat) :=
  actions.map fun action => (action, executionTime)

/-- What governance and the executor document of the queue. -/
structure Timelock.Documented (timelock : Timelock κ σ) (environment : Environment σ) : Prop where
  lawful : timelock.slots.Lawful
  /-- Actions that were carried out had been queued, are not queued any more, and were performed in
  order. -/
  execute_effect : ∀ {actions executionTime timestamp before after},
    timelock.execute actions executionTime timestamp before = .ok ((), after) →
      (tuples actions executionTime).forM timelock.slots.take before.1 = .ok ((), after.1) ∧
        environment.executor.executeProposal actions timestamp before.2 = .ok ((), after.2)

/-- The actions of a built proposal. -/
def BuiltProposal.actions (proposal : BuiltProposal environment) : List Action :=
  (proposal.arrays.createArgs environment.book proposal.ipfsHash).actions

/-- A step of a run. -/
inductive QueueStep (environment : Environment σ)
  | queue (proposal : BuiltProposal environment) (executionTime : Nat)
  | execute (proposal : BuiltProposal environment) (executionTime timestamp : Nat)
  | cancel (proposal : BuiltProposal environment) (executionTime : Nat)
  | call (sender : Address) (site : Site environment) (callData : Bytes) (timestamp : Nat)

namespace QueueStep

def step (timelock : Timelock κ σ) : QueueStep environment → Tx (κ × σ) Unit
  | .queue proposal executionTime =>
      onFirst (timelock.slots.insertAll (tuples proposal.actions executionTime))
  | .execute proposal executionTime timestamp =>
      timelock.execute proposal.actions executionTime timestamp
  | .cancel proposal executionTime =>
      onFirst ((tuples proposal.actions executionTime).forM timelock.slots.drop)
  | .call sender site callData timestamp => onSecond do
      let _ ← environment.contracts.call ⟨sender, sender, timestamp⟩ site.address callData

/-- How often a step queues a payload for a time. -/
def queues (payload : Address) (executionTime : Nat) : QueueStep environment → Nat
  | .queue proposal time =>
      if time = executionTime then (proposal.sites.map (·.address)).count payload else 0
  | _ => 0

/-- How often a step executes it there. -/
def executes (payload : Address) (executionTime : Nat) : QueueStep environment → Nat
  | .execute proposal time _ =>
      if time = executionTime then (proposal.sites.map (·.address)).count payload else 0
  | _ => 0

/-- Whether a step cancels it there. -/
def cancels (payload : Address) (executionTime : Nat) : QueueStep environment → Bool
  | .cancel proposal time => time = executionTime ∧ payload ∈ proposal.sites.map (·.address)
  | _ => false

end QueueStep

/-- The tuple of a payload. -/
def payloadTuple (payload : Address) (executionTime : Nat) : Action × Nat :=
  (executeAction payload, executionTime)

section Tuples

theorem payloadTuple_injective (executionTime : Nat) :
    Function.Injective fun payload => payloadTuple payload executionTime :=
  fun _ _ same => executeAction_injective (congrArg Prod.fst same)

/-- **A built proposal's actions.** -/
theorem BuiltProposal.actions_eq (proposal : BuiltProposal environment) :
    proposal.actions = (proposal.sites.map (·.address)).map executeAction := by
  unfold BuiltProposal.actions
  rw [executeAll_of_multiActions proposal.built, actions_executeAll]

/-- A built proposal's tuples. -/
theorem BuiltProposal.tuples_eq (proposal : BuiltProposal environment) (executionTime : Nat) :
    tuples proposal.actions executionTime =
      (proposal.sites.map (·.address)).map fun payload => payloadTuple payload executionTime := by
  unfold tuples
  rw [proposal.actions_eq, List.map_map]
  rfl

/-- How often a payload's tuple occurs among them. -/
theorem BuiltProposal.count_tuples (proposal : BuiltProposal environment) (payload : Address)
    (executionTime time : Nat) :
    (tuples proposal.actions time).count (payloadTuple payload executionTime) =
      if time = executionTime then (proposal.sites.map (·.address)).count payload else 0 := by
  rw [proposal.tuples_eq]
  by_cases same : time = executionTime
  · subst same
    rw [if_pos rfl]
    exact List.count_map_of_injective (proposal.sites.map (·.address)) _ (payloadTuple_injective time)
      payload
  · rw [if_neg same]
    apply List.count_eq_zero_of_not_mem
    intro member
    obtain ⟨other, _, equal⟩ := List.mem_map.mp member
    exact same (congrArg Prod.snd equal)

theorem BuiltProposal.mem_tuples (proposal : BuiltProposal environment) (payload : Address)
    (executionTime time : Nat) :
    payloadTuple payload executionTime ∈ tuples proposal.actions time ↔
      time = executionTime ∧ payload ∈ proposal.sites.map (·.address) := by
  rw [← List.count_pos_iff, proposal.count_tuples, ← List.count_pos_iff]
  split_ifs with same
  · simp [same]
  · simp [same]

end Tuples

/-! ### What a run queues, executes and cancels -/

section Counts

variable (timelock : Timelock κ σ) (payload : Address) (executionTime : Nat)

/-- What a line of a run queued. -/
def queuedBy (line : Record (κ × σ) (QueueStep environment)) : Nat :=
  if line.succeeded then line.event.queues payload executionTime else 0

/-- What it executed. -/
def executedBy (line : Record (κ × σ) (QueueStep environment)) : Nat :=
  if line.succeeded then line.event.executes payload executionTime else 0

/-- What it cancelled: a payload that was queued. -/
noncomputable def cancelledBy (line : Record (κ × σ) (QueueStep environment)) : Nat :=
  if line.event.cancels payload executionTime then
    timelock.slots.number line.before.1 (payloadTuple payload executionTime)
  else 0

end Counts

/-- The proposals a run carried out, with the times of their blocks. -/
def carriedOut (line : Record (κ × σ) (QueueStep environment)) :
    List (BuiltProposal environment × Nat) :=
  match line.succeeded, line.event with
  | true, .execute proposal _ timestamp => [(proposal, timestamp)]
  | _, _ => []

section Steps

variable {timelock : Timelock κ σ} {payload : Address} {executionTime : Nat}

/-- **The balance of a step that goes through.** -/
theorem step_number_ok (documented : timelock.Documented environment) {event : QueueStep environment}
    {before after : κ × σ} (ran : event.step timelock before = .ok ((), after)) :
    timelock.slots.number before.1 (payloadTuple payload executionTime) +
        event.queues payload executionTime =
      timelock.slots.number after.1 (payloadTuple payload executionTime) +
        (event.executes payload executionTime +
          if event.cancels payload executionTime then
            timelock.slots.number before.1 (payloadTuple payload executionTime)
          else 0) := by
  cases event with
  | queue proposal time =>
      obtain ⟨inserted, _⟩ := onFirst_ok_iff.mp ran
      have number := Registry.insertAll_number documented.lawful.insertion _ inserted
        (payloadTuple payload executionTime)
      rw [proposal.count_tuples] at number
      exact number.symm
  | execute proposal time timestamp =>
      obtain ⟨took, _⟩ := documented.execute_effect ran
      have number := Slots.takeAll_number documented.lawful _ took
        (payloadTuple payload executionTime)
      rw [proposal.count_tuples] at number
      exact number
  | cancel proposal time =>
      obtain ⟨dropped, _⟩ := onFirst_ok_iff.mp ran
      have number := Slots.dropAll_number documented.lawful dropped
        (payloadTuple payload executionTime)
      simp only [proposal.mem_tuples] at number
      simp only [QueueStep.queues, QueueStep.executes, QueueStep.cancels, decide_eq_true_eq,
        Nat.zero_add, Nat.add_zero]
      exact number
  | call sender site callData timestamp =>
      obtain ⟨_, same⟩ := onSecond_ok_iff.mp ran
      rw [same]
      rfl

/-- **A cancellation goes through**, whatever the queue holds. -/
theorem cancel_ok (documented : timelock.Documented environment)
    (proposal : BuiltProposal environment) (time : Nat) (before : κ × σ) :
    ∃ after, QueueStep.step timelock (.cancel proposal time) before = .ok ((), after) := by
  obtain ⟨after, dropped, _⟩ := documented.lawful.dropAll_ok (tuples proposal.actions time) before.1
  exact ⟨(after, before.2), onFirst_of_ok dropped before.2⟩

/-- **The balance of one step.** -/
theorem step_number (documented : timelock.Documented environment) (payload : Address)
    (executionTime : Nat) (event : QueueStep environment) (before : κ × σ) :
    let line : Record (κ × σ) (QueueStep environment) :=
      ⟨event, before, succeeds (QueueStep.step timelock) before event,
        attempt (QueueStep.step timelock) before event⟩
    timelock.slots.number before.1 (payloadTuple payload executionTime) +
        queuedBy payload executionTime line =
      timelock.slots.number line.after.1 (payloadTuple payload executionTime) +
        (executedBy payload executionTime line + cancelledBy timelock payload executionTime line) := by
  intro line
  unfold queuedBy executedBy cancelledBy
  rcases attempt_cases (QueueStep.step timelock) before event with ran | ⟨⟨reason, failed⟩, unchanged⟩
  · have done : line.succeeded = true := succeeds_of_ok ran
    rw [if_pos done, if_pos done]
    exact step_number_ok documented ran
  · have undone : line.succeeded = false := succeeds_of_error failed
    have none : line.event.cancels payload executionTime = false := by
      cases event with
      | cancel proposal time =>
          obtain ⟨after, ran⟩ := cancel_ok documented proposal time before
          cases failed.symm.trans ran
      | _ => rfl
    rw [undone, none]
    show _ = timelock.slots.number (attempt _ before event).1 _ + _
    rw [unchanged]
    rfl

/-- The effects of a proposal that a line carried out. -/
theorem executed_effects (executor : environment.ExecutorDocumented)
    (documented : timelock.Documented environment) {proposal : BuiltProposal environment}
    {time timestamp : Nat} {before after : κ × σ}
    (ran : timelock.execute proposal.actions time timestamp before = .ok ((), after)) :
    proposal.effects timestamp before.2 = .ok ((), after.2) :=
  (step_proposal_ok_iff executor proposal timestamp before.2 after.2).mp
    (documented.execute_effect ran).2

/-- **One step on the chain**: only an execution that succeeds moves it. -/
theorem attempt_chain (executor : environment.ExecutorDocumented)
    (documented : timelock.Documented environment)
    (guarded : environment.externals.Guarded environment.book.shortExecutor)
    (separate : ∀ site : Site environment, site.address ≠ environment.book.shortExecutor)
    (event : QueueStep environment) (before : κ × σ) :
    (attempt (QueueStep.step timelock) before event).2 =
      run (fun done : BuiltProposal environment × Nat => done.1.effects done.2) before.2
        (carriedOut ⟨event, before, succeeds (QueueStep.step timelock) before event,
          attempt (QueueStep.step timelock) before event⟩) := by
  unfold carriedOut
  rcases attempt_cases (QueueStep.step timelock) before event with ran | ⟨⟨reason, failed⟩, unchanged⟩
  · rw [succeeds_of_ok ran]
    cases event with
    | queue proposal time => exact (onFirst_ok_iff.mp ran).2
    | cancel proposal time => exact (onFirst_ok_iff.mp ran).2
    | execute proposal time timestamp =>
        exact (attempt_of_ok (executed_effects executor documented ran)).symm
    | call sender site callData timestamp =>
        obtain ⟨called, _⟩ := onSecond_ok_iff.mp ran
        obtain ⟨_, middle, called, done⟩ := run_bind_ok_iff.mp called
        have finish : middle = _ := congrArg Prod.snd (Except.ok.inj done)
        rcases call_site_idle guarded separate site ⟨sender, sender, timestamp⟩ callData before.2 with
          ⟨reason, failed⟩ | ⟨returned, idle⟩
        · cases failed.symm.trans called
        · cases idle.symm.trans called
          exact finish.symm
  · rw [succeeds_of_error failed, unchanged]
    rfl

/-- **When a proposal is queued.** -/
theorem queue_ok_iff (documented : timelock.Documented environment)
    (proposal : BuiltProposal environment) (time : Nat) (before : κ × σ) :
    succeeds (QueueStep.step timelock) before (.queue proposal time) = true ↔
      (proposal.sites.map (·.address)).Nodup ∧ ∀ site ∈ proposal.sites,
        ¬ timelock.slots.holds before.1 (payloadTuple site.address time) := by
  have distinct : (tuples proposal.actions time).Nodup ↔ (proposal.sites.map (·.address)).Nodup := by
    rw [proposal.tuples_eq]
    exact List.nodup_map_iff (payloadTuple_injective time)
  have fresh : (∀ key ∈ tuples proposal.actions time, ¬ timelock.slots.holds before.1 key) ↔
      ∀ site ∈ proposal.sites, ¬ timelock.slots.holds before.1 (payloadTuple site.address time) := by
    rw [proposal.tuples_eq]
    simp only [List.mem_map, forall_exists_index, and_imp, forall_apply_eq_imp_iff₂]
  rw [← distinct, ← fresh]
  constructor
  · intro queued
    exact Registry.fresh_of_insertAll documented.lawful.insertion _ _ _
      (onFirst_ok_iff.mp (succeeds_iff.mp queued)).1
  · rintro ⟨nodup, absent⟩
    obtain ⟨after, ran, _⟩ := Registry.insertAll_of_fresh documented.lawful.insertion _ before.1 nodup
      absent
    exact succeeds_of_ok (onFirst_of_ok ran before.2)

end Steps

/-! ### Every run -/

/-- **Actions are neither lost nor carried out twice.** -/
structure ActionsConserved (timelock : Timelock κ σ) (initial : κ × σ)
    (events : List (QueueStep environment)) : Prop where
  /-- What was queued was executed, or cancelled, or is still in the queue. -/
  conserved : ∀ payload executionTime,
    timelock.slots.number initial.1 (payloadTuple payload executionTime) +
        ((trace (QueueStep.step timelock) initial events).map
          (queuedBy payload executionTime)).sum =
      timelock.slots.number (run (QueueStep.step timelock) initial events).1
          (payloadTuple payload executionTime) +
        (((trace (QueueStep.step timelock) initial events).map
            (executedBy payload executionTime)).sum +
          ((trace (QueueStep.step timelock) initial events).map
            (cancelledBy timelock payload executionTime)).sum)
  /-- The chain is where the executions take it, in their order. -/
  chain : (run (QueueStep.step timelock) initial events).2 =
    run (fun done : BuiltProposal environment × Nat => done.1.effects done.2) initial.2
      ((trace (QueueStep.step timelock) initial events).flatMap carriedOut)
  /-- Each of them has the effects of its payloads, all of them. -/
  effects : ∀ line ∈ trace (QueueStep.step timelock) initial events,
    ∀ done ∈ carriedOut line, done.1.effects done.2 line.before.2 = .ok ((), line.after.2)
  /-- A proposal is queued when its payloads are different, and none is queued for the same time. -/
  queue_iff : ∀ line ∈ trace (QueueStep.step timelock) initial events,
    ∀ proposal time, line.event = .queue proposal time → (line.succeeded = true ↔
      (proposal.sites.map (·.address)).Nodup ∧ ∀ site ∈ proposal.sites,
        ¬ timelock.slots.holds line.before.1 (payloadTuple site.address time))

/-- **No action is lost, and none is carried out twice.** -/
theorem actions_conserved (timelock : Timelock κ σ) (executor : environment.ExecutorDocumented)
    (documented : timelock.Documented environment)
    (guarded : environment.externals.Guarded environment.book.shortExecutor)
    (separate : ∀ site : Site environment, site.address ≠ environment.book.shortExecutor)
    (initial : κ × σ) (events : List (QueueStep environment)) :
    ActionsConserved timelock initial events where
  conserved payload executionTime := by
    rw [← List.sum_map_add]
    exact run_balance
      (fun state : κ × σ => timelock.slots.number state.1 (payloadTuple payload executionTime)) _ _
      (fun event before => step_number documented payload executionTime event before) events initial
  chain := run_simulates_trace Prod.snd carriedOut
    (attempt_chain executor documented guarded separate) events initial
  effects line member done inside := by
    obtain ⟨_, outcome, after⟩ := mem_trace events initial member
    unfold carriedOut at inside
    split at inside
    · next succeeded same =>
        obtain rfl := List.mem_singleton.mp inside
        rw [outcome, same, succeeds_iff] at succeeded
        rw [after, same]
        exact executed_effects executor documented succeeded
    · cases inside
  queue_iff line member proposal time same := by
    rw [(mem_trace events initial member).2.1, same]
    exact queue_ok_iff documented proposal time line.before

/-! ### A timelock -/

/-- The queue of `queueRegistry`, with its tuples taken out again. -/
def listSlots : Slots (List (Action × Nat)) (Action × Nat) where
  toRegistry := queueRegistry
  take key queue :=
    if queue.contains key then .ok ((), queue.filter (· ≠ key))
    else .error (.require "ACTION_NOT_QUEUED")
  drop key queue := .ok ((), queue.filter (· ≠ key))

theorem listSlots_lawful : listSlots.Lawful where
  insertion := queueRegistry_lawful
  take_held key before held := ⟨_, if_pos (List.contains_iff_mem.mpr held), fun other => by
    simp [listSlots, queueRegistry, and_comm]⟩
  take_absent key before absent := ⟨_, if_neg (mt List.contains_iff_mem.mp absent)⟩
  drop_ok key before := ⟨_, rfl, fun other => by simp [listSlots, queueRegistry, and_comm]⟩

/-- An executor that takes the tuples out of its list and performs the actions. -/
def listTimelock (environment : Environment σ) : Timelock (List (Action × Nat)) σ where
  slots := listSlots
  execute actions executionTime timestamp := do
    onFirst ((tuples actions executionTime).forM listSlots.take)
    onSecond (environment.executor.executeProposal actions timestamp)

theorem listTimelock_documented (environment : Environment σ) :
    (listTimelock environment).Documented environment where
  lawful := listSlots_lawful
  execute_effect ran := by
    obtain ⟨_, middle, took, performed⟩ := run_bind_ok_iff.mp ran
    obtain ⟨taken, chain⟩ := onFirst_ok_iff.mp took
    obtain ⟨done, queue⟩ := onSecond_ok_iff.mp performed
    rw [chain] at done
    rw [queue]
    exact ⟨taken, done⟩

/-- A proposal queued twice for one time, executed twice, queued for another time and cancelled. -/
theorem actions_conserved_seven : ActionsConserved
    (listTimelock (bookSystem sevenPayloads).environment)
    ([], ⟨mainnet.namedAssets, fun _ => ⟨⟨0, 0, 0⟩, false, ()⟩⟩, ReserveBook.empty)
    [.queue sevenProposal 7, .queue sevenProposal 7, .execute sevenProposal 7 8,
      .execute sevenProposal 7 9, .queue sevenProposal 10, .cancel sevenProposal 10] :=
  actions_conserved (listTimelock (bookSystem sevenPayloads).environment)
    (bookSystem_documented rfl).executor (listTimelock_documented _)
    (bookSystem_documented rfl).guarded (bookSystem_documented rfl).separate _ _

/-! ### Proposals that wait together -/

section Waiting

variable {waiting : List (BuiltProposal environment × Nat)}

/-- How often a payload waits for a time. -/
theorem count_waiting (payload : Address) (time : Nat) :
    (waiting.flatMap fun item => tuples item.1.actions item.2).count (payloadTuple payload time) =
      ((waiting.filter fun item => item.2 = time).flatMap fun item =>
        item.1.sites.map (·.address)).count payload := by
  induction waiting with
  | nil => rfl
  | cons item rest ih =>
      rw [List.flatMap_cons, List.count_append, item.1.count_tuples, ih, List.filter_cons]
      by_cases here : item.2 = time
      · rw [if_pos here, if_pos (decide_eq_true here), List.flatMap_cons, List.count_append]
      · rw [if_neg here, if_neg (by simpa using here), Nat.zero_add]

/-- Different tuples are different payloads, time by time. -/
theorem nodup_waiting : (waiting.flatMap fun item => tuples item.1.actions item.2).Nodup ↔
    ∀ time, ((waiting.filter fun item => item.2 = time).flatMap fun item =>
      item.1.sites.map (·.address)).Nodup := by
  simp only [List.nodup_iff_count_le_one]
  constructor
  · intro distinct time payload
    rw [← count_waiting]
    exact distinct _
  · intro distinct key
    by_cases member : key ∈ waiting.flatMap fun item => tuples item.1.actions item.2
    · obtain ⟨item, _, tuple⟩ := List.mem_flatMap.mp member
      rw [item.1.tuples_eq] at tuple
      obtain ⟨payload, _, rfl⟩ := List.mem_map.mp tuple
      rw [count_waiting]
      exact distinct item.2 payload
    · rw [List.count_eq_zero_of_not_mem member]
      exact Nat.zero_le 1

end Waiting

/-- **Which proposals can be queued one after the other**, from a queue that holds nothing for their
times: those that share no payload for one time. -/
theorem queued_together_iff (timelock : Timelock κ σ) (documented : timelock.Documented environment)
    (waiting : List (BuiltProposal environment × Nat)) (before : κ)
    (unqueued : ∀ item ∈ waiting, ∀ action, ¬ timelock.slots.holds before (action, item.2)) :
    (∃ after, (waiting.forM fun item => timelock.slots.insertAll (tuples item.1.actions item.2))
        before = .ok ((), after)) ↔
      ∀ time, ((waiting.filter fun item => item.2 = time).flatMap fun item =>
        item.1.sites.map (·.address)).Nodup := by
  rw [Registry.insertAll_flatMap, ← nodup_waiting]
  constructor
  · rintro ⟨after, ran⟩
    exact (Registry.fresh_of_insertAll documented.lawful.insertion _ before after ran).1
  · intro distinct
    obtain ⟨after, ran, _⟩ := Registry.insertAll_of_fresh documented.lawful.insertion _ before
      distinct fun key member => by
        obtain ⟨item, inside, tuple⟩ := List.mem_flatMap.mp member
        obtain ⟨action, _, rfl⟩ := List.mem_map.mp tuple
        exact unqueued item inside action
    exact ⟨after, ran⟩

/-- One proposal, for two times. -/
theorem queued_together_iff_seven :
    (∃ after, ([(sevenProposal, 7), (sevenProposal, 8)].forM fun item =>
        listSlots.insertAll (tuples item.1.actions item.2)) [] = .ok ((), after)) ↔
      ∀ time, (([(sevenProposal, 7), (sevenProposal, 8)].filter fun item => item.2 = time).flatMap
        fun item => item.1.sites.map (·.address)).Nodup :=
  queued_together_iff (listTimelock (bookSystem sevenPayloads).environment)
    (listTimelock_documented _) _ [] fun _ _ _ => List.not_mem_nil

end AaveV2Payloads
