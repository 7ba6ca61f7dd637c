/-
**Which accepted proposals governance can carry through.**

The builders check every payload of the list on its own. Governance also looks at the list as a
whole: `create` wants it to be non-empty, and the queue wants its actions to be different, while all
that tells two actions of a built proposal apart is their target.

* `accepted_carried_iff` — for every list the builders accept: `create` takes the arguments exactly
  when the list is not empty, and all actions are queued exactly when no payload occurs twice.
* `accepted_not_carried` — the builders accept the empty list and a repeated payload.
-/

import AaveV2Payloads.Governance.Actions
import Mathlib.Data.List.Nodup

namespace AaveV2Payloads

open Solidity

section Carried

variable {γ : Type} {governance : Governance γ}

/-- The tuples of a built proposal. -/
theorem nodup_tuples {payloads : List Address} {executionTime : Nat} :
    ((payloads.map executeAction).map fun action => (action, executionTime)).Nodup ↔
      payloads.Nodup := by
  rw [List.nodup_map_iff fun _ _ same => congrArg Prod.fst same,
    List.nodup_map_iff executeAction_injective]

/-- **Queueing a built proposal succeeds exactly when no payload occurs twice.** -/
theorem queue_built_iff (documented : governance.Documented) (book : AddressBook)
    (payloads : List Address) (ipfsHash : Word) (executionTime : Nat) (before : γ)
    (unqueued : ∀ action, ¬ governance.queued.holds before (action, executionTime)) :
    (∃ after, governance.queue ((executeAll payloads).createArgs book ipfsHash) executionTime before =
      .ok ((), after)) ↔ payloads.Nodup := by
  rw [documented.queue_eq, actions_executeAll]
  constructor
  · rintro ⟨after, ran⟩
    exact nodup_tuples.mp (Registry.fresh_of_insertAll documented.queued_lawful _ before after ran).1
  · intro distinct
    obtain ⟨after, ran, _⟩ := Registry.insertAll_of_fresh documented.queued_lawful
      ((payloads.map executeAction).map fun action => (action, executionTime)) before
      (nodup_tuples.mpr distinct) fun key member => by
        obtain ⟨action, _, rfl⟩ := List.mem_map.mp member
        exact unqueued action
    exact ⟨after, ran⟩

/-- **Of the lists the builders accept, governance can create the non-empty ones and queue those
without repetition.** -/
theorem accepted_carried_iff (documented : governance.Documented) (book : AddressBook)
    (payloads : List Address) (ipfsHash : Word) (arrays : ActionArrays)
    (built : multiActions payloads ipfsHash = .ok arrays) (executionTime : Nat)
    (proposing queueing : γ) (eligible : governance.mayPropose proposing book.shortExecutor)
    (unqueued : ∀ action, ¬ governance.queued.holds queueing (action, executionTime)) :
    ((∃ id after, governance.create (arrays.createArgs book ipfsHash) proposing = .ok (id, after)) ↔
      payloads ≠ []) ∧
    ((∃ after, governance.queue (arrays.createArgs book ipfsHash) executionTime queueing =
        .ok ((), after)) ↔ payloads.Nodup) := by
  obtain rfl := executeAll_of_multiActions built
  exact ⟨(documented.create_iff _ _ eligible).trans (wellShaped_executeAll book payloads ipfsHash),
    queue_built_iff documented book payloads ipfsHash executionTime queueing unqueued⟩

end Carried

/-! ### A governance contract -/

/-- A queue whose state is the list of its tuples. -/
def queueRegistry : Registry (List (Action × Nat)) (Action × Nat) where
  holds queue key := key ∈ queue
  insert key queue :=
    if queue.contains key then .error (.require "DUPLICATED_ACTION") else .ok ((), key :: queue)

theorem queueRegistry_lawful : queueRegistry.Lawful where
  insert_fresh key before fresh :=
    ⟨key :: before, if_neg (mt List.contains_iff_mem.mp fresh), fun other => List.mem_cons⟩
  insert_held key before held := ⟨_, if_pos (List.contains_iff_mem.mpr held)⟩

/-- Governance with this queue, which authorizes the short executor alone. -/
def listGovernance : Governance (List (Action × Nat)) where
  mayPropose _ executor := executor = mainnet.shortExecutor
  create args := do
    if args.executor ≠ mainnet.shortExecutor then throw (.require "EXECUTOR_NOT_AUTHORIZED")
    if args.WellShaped then return 0 else throw (.require "INVALID_TARGETS")
  queue args executionTime :=
    queueRegistry.insertAll (args.actions.map fun action => (action, executionTime))
  queued := queueRegistry

theorem listGovernance_documented : listGovernance.Documented where
  create_iff args before authorized := by
    have known : ¬ args.executor ≠ mainnet.shortExecutor := not_not.mpr authorized
    by_cases shaped : args.WellShaped
    · simp only [listGovernance, known, if_false, shaped, if_true, iff_true]
      exact ⟨0, before, rfl⟩
    · simp only [listGovernance, known, if_false, shaped, iff_false]
      rintro ⟨id, after, ran⟩
      cases ran
  queue_eq _ _ := rfl
  queued_lawful := queueRegistry_lawful

/-- The two payloads of the shipped scripts are carried through. -/
theorem accepted_carried_iff_shipped :
    (∃ id after, listGovernance.create ((executeAll DeployMultiMainnetProposal.payloads).createArgs
      mainnet DeployMultiMainnetProposal.ipfsHash) [] = .ok (id, after)) ∧
    (∃ after, listGovernance.queue ((executeAll DeployMultiMainnetProposal.payloads).createArgs
      mainnet DeployMultiMainnetProposal.ipfsHash) 7 [] = .ok ((), after)) := by
  have carried := accepted_carried_iff listGovernance_documented mainnet
    DeployMultiMainnetProposal.payloads DeployMultiMainnetProposal.ipfsHash
    (executeAll DeployMultiMainnetProposal.payloads)
    (multiActions_ok (by decide) (by decide) (by decide)) 7 [] [] rfl
    (fun _ => List.not_mem_nil)
  exact ⟨carried.1.mpr (by decide), carried.2.mpr (by decide)⟩

/-- **An accepted list need not be carried through**: the empty list is accepted and `create`
refuses it; one payload given twice is accepted and can be created, but not queued. -/
theorem accepted_not_carried :
    (multiActions [] 1 = .ok (executeAll []) ∧
      ¬ ∃ id after, listGovernance.create ((executeAll []).createArgs mainnet 1) [] =
        .ok (id, after)) ∧
    (multiActions [5, 5] 1 = .ok (executeAll [5, 5]) ∧
      (∃ id after, listGovernance.create ((executeAll [5, 5]).createArgs mainnet 1) [] =
        .ok (id, after)) ∧
      ¬ ∃ after, listGovernance.queue ((executeAll [5, 5]).createArgs mainnet 1) 7 [] =
        .ok ((), after)) := by
  have created_iff (payloads : List Address) : (∃ id after, listGovernance.create
      ((executeAll payloads).createArgs mainnet 1) [] = .ok (id, after)) ↔ payloads ≠ [] :=
    (listGovernance_documented.create_iff ((executeAll payloads).createArgs mainnet 1) [] rfl).trans
      (wellShaped_executeAll mainnet payloads 1)
  have queued_iff (payloads : List Address) : (∃ after, listGovernance.queue
      ((executeAll payloads).createArgs mainnet 1) 7 [] = .ok ((), after)) ↔ payloads.Nodup :=
    queue_built_iff listGovernance_documented mainnet payloads 1 7 [] fun _ => List.not_mem_nil
  refine ⟨⟨multiActions_ok (by decide) (by decide) (by decide), ?_⟩,
    multiActions_ok (by decide) (by decide) (by decide), ?_, ?_⟩
  · rw [created_iff]
    decide
  · rw [created_iff]
    decide
  · rw [queued_iff]
    decide

end AaveV2Payloads
