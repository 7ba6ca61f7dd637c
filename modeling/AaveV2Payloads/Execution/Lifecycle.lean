/-
**A proposal, from its calldata to its effect.**

* `emitted_proposal_carried` — the calldata a script emits for a list of sites without repetition
  decodes to a proposal that governance creates and queues, and whose execution, at whatever time,
  has the effects of the payloads, in the order of the list.
-/

import AaveV2Payloads.Execution.Steps
import AaveV2Payloads.Governance.Queue
import AaveV2Payloads.Script.Calldata

namespace AaveV2Payloads

open Solidity Solidity.Abi

section Carried

variable {σ κ : Type} {environment : Environment σ} {governance : Governance κ}

/-- **The emitted calldata is carried through, up to the payloads' own effects.** -/
theorem emitted_proposal_carried (chain : Chain) (executor : environment.ExecutorDocumented)
    (documented : governance.Documented) {sites : List (Site environment)} {ipfsHash : Word}
    (accepted : ¬ Refused (sites.map (·.address)) ipfsHash)
    (bounded : (sites.map (·.address)).length < 2 ^ 64) (some : sites ≠ [])
    (distinct : (sites.map (·.address)).Nodup) {proposing queueing : κ}
    (eligible : governance.mayPropose proposing chain.book.shortExecutor) {executionTime : Nat}
    (unqueued : ∀ action, ¬ governance.queued.holds queueing (action, executionTime)) :
    ∃ callData args,
      DeployMultiMainnetProposal.deployMultiProposal chain (sites.map (·.address)) ipfsHash =
        .ok callData ∧
      decodeArgs createTypes (callData.drop 4) = .some (CreateArgs.encoded args) ∧
      (∃ id after, governance.create args proposing = .ok (id, after)) ∧
      (∃ after, governance.queue args executionTime queueing = .ok ((), after)) ∧
      ∀ timestamp before after,
        environment.executor.executeProposal args.actions timestamp before = .ok ((), after) ↔
          siteEffects sites timestamp before = .ok ((), after) := by
  refine ⟨_, proposalArgs chain.book (sites.map (·.address)) ipfsHash,
    deployMultiProposal_accepted bounded accepted,
    decodeArgs_encodeCall chain.createSelector createTypes _
      (encodedArgs_fit chain.book _ ipfsHash bounded), ?_, ?_, fun timestamp before after => ?_⟩
  · refine (documented.create_iff _ _ eligible).mpr ((wellShaped_executeAll _ _ _).mpr ?_)
    exact fun none => some (List.map_eq_nil_iff.mp none)
  · exact (queue_built_iff documented chain.book _ ipfsHash executionTime queueing unqueued).mpr
      distinct
  · rw [proposalArgs, actions_executeAll]
    exact executeProposal_sites_iff executor sites timestamp before after

end Carried

end AaveV2Payloads
