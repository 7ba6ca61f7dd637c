/-
The governance side of a proposal: its actions, and what the scripts rely on of `GOV.create` and of
the queue. Governance is outside the repository; a `Governance` stands for any implementation, and
`Documented` is what its documentation promises.
-/

import AaveV2Payloads.Library.Registry
import AaveV2Payloads.Script.BuilderLoop

namespace AaveV2Payloads

open Solidity

/-- One action of a proposal. -/
structure Action where
  target : Address
  value : Word
  signature : String
  callData : Bytes
  withDelegatecall : Bool
  deriving DecidableEq

/-- The actions of a proposal: entry `i` of each of the five arrays. -/
def CreateArgs.actions (args : CreateArgs) : List Action :=
  (args.targets.zip (args.values.zip (args.signatures.zip
    (args.calldatas.zip args.withDelegatecalls)))).map
    fun (target, value, signature, callData, withDelegatecall) =>
      ⟨target, value, signature, callData, withDelegatecall⟩

/-- The arrays `create` takes: one target at least, and one entry of each kind for every target. -/
def CreateArgs.WellShaped (args : CreateArgs) : Prop :=
  args.targets ≠ [] ∧ args.values.length = args.targets.length ∧
    args.signatures.length = args.targets.length ∧ args.calldatas.length = args.targets.length ∧
    args.withDelegatecalls.length = args.targets.length

instance (args : CreateArgs) : Decidable args.WellShaped :=
  inferInstanceAs (Decidable (_ ∧ _ ∧ _ ∧ _ ∧ _))

/-- A governance contract and its executor, on a state of both. -/
structure Governance (γ : Type) where
  /-- The proposer has the proposition power, and the executor is authorized. -/
  mayPropose : γ → (executor : Address) → Prop
  create : CreateArgs → Tx γ Word
  /-- Queues the actions of a passed proposal, for one execution time. -/
  queue : CreateArgs → Nat → Tx γ Unit
  /-- The executor's queue: the tuples (target, value, signature, calldata, withDelegatecall;
  execution time), and `queueTransaction`. -/
  queued : Registry γ (Action × Nat)

/-- What governance documents. -/
structure Governance.Documented {γ : Type} (governance : Governance γ) : Prop where
  /-- Of a proposer who may propose for the executor of the arguments, `create` refuses an empty
  target list and arrays of different lengths, and nothing else. -/
  create_iff : ∀ args before, governance.mayPropose before args.executor →
    ((∃ id after, governance.create args before = .ok (id, after)) ↔ args.WellShaped)
  /-- The actions are queued in order, at one execution time. -/
  queue_eq : ∀ args executionTime, governance.queue args executionTime =
    governance.queued.insertAll (args.actions.map fun action => (action, executionTime))
  /-- An action is refused when its tuple is queued already, and is queued otherwise. -/
  queued_lawful : governance.queued.Lawful

/-! ### The actions the builders produce -/

/-- `target.delegatecall(abi.encodePacked(selector("execute()")))`. -/
def executeAction (payload : Address) : Action where
  target := payload
  value := 0
  signature := "execute()"
  callData := []
  withDelegatecall := true

theorem executeAction_injective : Function.Injective executeAction :=
  fun _ _ same => congrArg Action.target same

/-- **One delegatecall of `execute()` for each payload, in the order of the list.** -/
theorem actions_executeAll (book : AddressBook) (payloads : List Address) (ipfsHash : Word) :
    ((executeAll payloads).createArgs book ipfsHash).actions = payloads.map executeAction := by
  unfold CreateArgs.actions
  simp only [ActionArrays.createArgs, executeAll]
  induction payloads with
  | nil => rfl
  | cons payload rest ih =>
      simp only [List.length_cons, List.replicate_succ, List.zip_cons_cons, List.map_cons, ih]
      rfl

theorem wellShaped_executeAll (book : AddressBook) (payloads : List Address) (ipfsHash : Word) :
    ((executeAll payloads).createArgs book ipfsHash).WellShaped ↔ payloads ≠ [] := by
  simp [CreateArgs.WellShaped, ActionArrays.createArgs, executeAll]

/-- The builders accept no list too long to allocate. -/
theorem length_of_multiActions {payloads : List Address} {ipfsHash : Word} {arrays : ActionArrays}
    (built : multiActions payloads ipfsHash = .ok arrays) : payloads.length < 2 ^ 64 := by
  by_contra long
  obtain ⟨_, _, allocated⟩ := ok_bind_iff.mp built
  obtain ⟨_, refused, _⟩ := ok_bind_iff.mp allocated
  obtain ⟨_, targets, _⟩ := ok_bind_iff.mp refused
  rw [newArray, if_neg long] at targets
  cases targets

/-- **What any accepted list is built into.** -/
theorem executeAll_of_multiActions {payloads : List Address} {ipfsHash : Word}
    {arrays : ActionArrays} (built : multiActions payloads ipfsHash = .ok arrays) :
    arrays = executeAll payloads :=
  ((multiActions_ok_iff (length_of_multiActions built)).mp built).2.2

end AaveV2Payloads
