/-
**The emit path and the direct path build the same call.**

`PathsAgree` says it of one input. Both paths are the arrays of `multiActions` followed by an
encoder: the direct path encodes at the parameter types of `create`, the emit path at the types of
the local variables, and on these arguments the two encoders meet (`emitProposal_ok`). That the
calldata decodes back needs its arguments to be shorter than `2 ^ 256` bytes; a list of `n` payloads
takes `256 * n + 384` (`length_encodedArgs`).

* `paths_agree` — the two paths, and both copies of the direct one, on every list of payloads.
-/

import AaveV2Payloads.Library.AbiRoundTrip
import AaveV2Payloads.Script.BuilderLoop

namespace AaveV2Payloads

open Solidity Solidity.Abi

/-! ### Running a script -/

/-- A script's result, and the calls it made. -/
def outcome {α : Type} (script : Script α) : Except Revert α × List Call := script.run.run []

/-- The script failed at a check of its own: it reverted before any call. -/
def FailsOwnCheck (script : Script Word) : Prop := ∃ reason, outcome script = (.error reason, [])

section Outcome

variable {chain : Chain} {arrays : ActionArrays} {built : Except Revert ActionArrays}
  {ipfsHash : Word} {reason : Revert}

/-- The call a proposal's arrays lead to. -/
def Chain.proposalCall (chain : Chain) (arrays : ActionArrays) (ipfsHash : Word) : Call :=
  chain.createCall (arrays.createArgs chain.book ipfsHash)

theorem createProposal_ok : outcome (chain.createProposal (.ok arrays) ipfsHash) =
    (chain.respond (chain.proposalCall arrays ipfsHash), [chain.proposalCall arrays ipfsHash]) := by
  cases response : chain.respond (chain.proposalCall arrays ipfsHash) <;>
    exact congrArg (fun result => (result, [chain.proposalCall arrays ipfsHash])) response

theorem createProposal_error :
    outcome (chain.createProposal (.error reason) ipfsHash) = (.error reason, []) := rfl

/-- **The two encoders meet**: what the emit path returns is the calldata of the direct call. -/
theorem emitProposal_ok : chain.emitProposal (.ok arrays) ipfsHash =
    .ok (chain.proposalCall arrays ipfsHash).callData := by
  refine congrArg Except.ok (encodeWithSelector_eq_encodeCall chain.createSelector createTypes
    (arrays.createArgs chain.book ipfsHash).encoded _ ?_)
  rfl

end Outcome

/-! ### The size of the arguments -/

/-- A frame whose components all have one size. -/
theorem length_layout_const {slots : List Slot} {size : Nat}
    (same : ∀ component ∈ slots, component.size = size) :
    (layout slots).length = size * slots.length := by
  have sizes : slots.map Slot.size = List.replicate slots.length size := by
    rw [List.eq_replicate_iff]
    refine ⟨List.length_map _, fun value member => ?_⟩
    obtain ⟨component, inside, rfl⟩ := List.mem_map.mp member
    exact same component inside
  rw [length_layout, sizes, List.sum_replicate]
  exact Nat.mul_comm _ _

/-- The size of an array argument whose elements all have one size. -/
theorem size_array {element : AbiType} {values : List element.Value} {size : Nat}
    (same : ∀ value ∈ values, (slot element value).size = size) :
    (slot (.array element) values).size = 64 + size * values.length := by
  have body : (layout (values.map (slot element))).length = size * values.length := by
    rw [← List.length_map (f := slot element)]
    refine length_layout_const fun component member => ?_
    obtain ⟨value, inside, rfl⟩ := List.mem_map.mp member
    exact same value inside
  rw [slot, Slot.size, List.length_append, length_wordBytes, body]
  omega

section Size

variable (book : AddressBook) (payloads : List Address) (ipfsHash : Word)

/-- What the accepted inputs lead to. -/
def proposalArgs : CreateArgs := (executeAll payloads).createArgs book ipfsHash

theorem length_encodedArgs :
    (encodeArgs createTypes (proposalArgs book payloads ipfsHash).encoded).length =
      256 * payloads.length + 384 := by
  have targets : (slot (.array .address) payloads).size = 64 + 32 * payloads.length :=
    size_array fun _ _ => rfl
  have constant (element : AbiType) (value : element.Value) :
      (slot (.array element) (List.replicate payloads.length value)).size =
        64 + (slot element value).size * payloads.length := by
    have sized : (slot (.array element) (List.replicate payloads.length value)).size =
        64 + (slot element value).size * (List.replicate payloads.length value).length :=
      size_array fun other member => by rw [List.eq_of_mem_replicate member]
    rwa [List.length_replicate] at sized
  have signature : (slot .string "execute()").size = 96 := by decide
  have empty : (slot .bytes []).size = 64 := rfl
  rw [encodeArgs, length_layout]
  simp only [CreateArgs.encoded, proposalArgs, ActionArrays.createArgs, executeAll,
    argSlots, List.map_cons, List.map_nil, List.sum_cons, List.sum_nil, targets, constant,
    signature, empty]
  simp only [slot, Slot.size]
  omega

/-- The arguments fit their offsets. -/
theorem encodedArgs_fit (bounded : payloads.length < 2 ^ 64) :
    (encodeArgs createTypes (proposalArgs book payloads ipfsHash).encoded).length < 2 ^ 256 := by
  rw [length_encodedArgs]
  calc 256 * payloads.length + 384 < 2 ^ 128 := by omega
    _ < 2 ^ 256 := by norm_num

end Size

/-! ### The two paths -/

/-- The inputs the builders refuse. -/
def Refused (payloads : List Address) (ipfsHash : Word) : Prop :=
  ipfsHash = 0 ∨ (0 : Address) ∈ payloads

/-- The check a refused input fails first. -/
def refusal (ipfsHash : Word) : Revert :=
  if ipfsHash = 0 then .require ipfsHashError else .require payloadError

/-- The direct builders for many payloads, in both files that hold one. -/
def multiBuilders : List (Chain → List Address → Word → Script Word) :=
  [DeployMultiMainnetProposal.deployMainnetMultiProposals,
    DeployDaiAndUsdcLTsProposal.deployMainnetMultiProposals]

/-- The builders for one payload, direct and emitting, in both files that hold them. -/
def singleBuilders :
    List ((Chain → Address → Word → Script Word) × (Chain → Address → Word → Except Revert Bytes)) :=
  [(DeployMainnetProposal.deployMainnetProposal, DeployMainnetProposal.deployL1Proposal),
    (DeployLongTailLTProposal.deployMainnetProposal, DeployLongTailLTProposal.deployL1Proposal)]

/-- **The paths agree on one input.** -/
structure PathsAgree (chain : Chain) (payloads : List Address) (ipfsHash : Word) : Prop where
  /-- The emit path fails exactly on the refused inputs. -/
  emit_fails : (∃ reason,
      DeployMultiMainnetProposal.deployMultiProposal chain payloads ipfsHash = .error reason) ↔
    Refused payloads ipfsHash
  /-- So does the direct path, at a check of its own and before any call. -/
  direct_fails : ∀ deploy ∈ multiBuilders,
    FailsOwnCheck (deploy chain payloads ipfsHash) ↔ Refused payloads ipfsHash
  /-- They fail at the same check. -/
  same_refusal : Refused payloads ipfsHash →
    DeployMultiMainnetProposal.deployMultiProposal chain payloads ipfsHash =
      .error (refusal ipfsHash) ∧
    ∀ deploy ∈ multiBuilders,
      outcome (deploy chain payloads ipfsHash) = (.error (refusal ipfsHash), [])
  /-- On every other input the emit path returns the calldata of the one call of the direct path,
  a call to `GOV`, and the direct path ends as that call ends. -/
  same_calldata : ¬ Refused payloads ipfsHash → ∃ callData,
    DeployMultiMainnetProposal.deployMultiProposal chain payloads ipfsHash = .ok callData ∧
    (∀ deploy ∈ multiBuilders, outcome (deploy chain payloads ipfsHash) =
      (chain.respond ⟨chain.book.gov, callData⟩, [⟨chain.book.gov, callData⟩])) ∧
    callData.take 4 = chain.createSelector.bytes ∧
    decodeArgs createTypes (callData.drop 4) = some
      (chain.book.shortExecutor, payloads, List.replicate payloads.length 0,
        List.replicate payloads.length "execute()", List.replicate payloads.length [],
        List.replicate payloads.length true, ipfsHash, ())
  /-- Another accepted input gives other calldata. -/
  determined : ∀ (others : List Address) (otherHash : Word), others.length < 2 ^ 64 →
    ∀ callData, DeployMultiMainnetProposal.deployMultiProposal chain payloads ipfsHash = .ok callData →
      DeployMultiMainnetProposal.deployMultiProposal chain others otherHash = .ok callData →
      payloads = others ∧ ipfsHash = otherHash
  /-- On a list of one payload the builders for one payload fail on the same inputs, and on every
  other input return the same calldata and make the same call. -/
  one_payload : ∀ payload, payloads = [payload] → ∀ builders ∈ singleBuilders,
    ((∃ reason, builders.2 chain payload ipfsHash = .error reason) ↔ Refused payloads ipfsHash) ∧
    (FailsOwnCheck (builders.1 chain payload ipfsHash) ↔ Refused payloads ipfsHash) ∧
    (¬ Refused payloads ipfsHash →
      builders.2 chain payload ipfsHash =
        DeployMultiMainnetProposal.deployMultiProposal chain payloads ipfsHash ∧
      ∀ deploy ∈ multiBuilders,
        outcome (builders.1 chain payload ipfsHash) = outcome (deploy chain payloads ipfsHash))

section Paths

variable {chain : Chain} {payloads : List Address} {ipfsHash : Word} {payload : Address}
  {built : Except Revert ActionArrays}

theorem emitProposal_fails_iff :
    (∃ reason, chain.emitProposal built ipfsHash = .error reason) ↔
      ∃ reason, built = .error reason := by
  cases built with
  | error reason => exact ⟨fun _ => ⟨reason, rfl⟩, fun _ => ⟨reason, rfl⟩⟩
  | ok arrays =>
      rw [emitProposal_ok]
      exact ⟨fun ⟨_, same⟩ => (by cases same), fun ⟨_, same⟩ => (by cases same)⟩

theorem createProposal_fails_iff :
    FailsOwnCheck (chain.createProposal built ipfsHash) ↔ ∃ reason, built = .error reason := by
  cases built with
  | error reason => exact ⟨fun _ => ⟨reason, rfl⟩, fun _ => ⟨reason, createProposal_error⟩⟩
  | ok arrays =>
      unfold FailsOwnCheck
      rw [createProposal_ok]
      exact ⟨fun ⟨_, same⟩ => absurd (congrArg Prod.snd same) (List.cons_ne_nil _ _),
        fun ⟨_, same⟩ => (by cases same)⟩

theorem mem_multiBuilders {deploy : Chain → List Address → Word → Script Word}
    (member : deploy ∈ multiBuilders) :
    deploy chain payloads ipfsHash =
      chain.createProposal (multiActions payloads ipfsHash) ipfsHash := by
  rcases List.mem_pair.mp member with rfl | rfl <;> rfl

theorem mem_singleBuilders
    {builders : (Chain → Address → Word → Script Word) × (Chain → Address → Word → Except Revert Bytes)}
    (member : builders ∈ singleBuilders) :
    builders.1 chain payload ipfsHash =
        chain.createProposal (singleActions payload ipfsHash) ipfsHash ∧
      builders.2 chain payload ipfsHash =
        chain.emitProposal (singleActions payload ipfsHash) ipfsHash := by
  rcases List.mem_pair.mp member with rfl | rfl <;> exact ⟨rfl, rfl⟩

/-- The builder for one payload fails on the inputs its list would be refused for. -/
theorem singleActions_error_iff : (∃ reason, singleActions payload ipfsHash = .error reason) ↔
    Refused [payload] ipfsHash := by
  have bounded : [payload].length < 2 ^ 64 := by norm_num
  by_cases both : payload = 0 ∧ ipfsHash = 0
  · obtain ⟨rfl, rfl⟩ := both
    exact ⟨fun _ => Or.inl rfl, fun _ => ⟨_, bothZero_messages.1⟩⟩
  · rw [singleActions_eq_multiActions (not_and_or.mp both), multiActions_error_iff bounded]
    rfl

theorem multiActions_refused (bounded : payloads.length < 2 ^ 64)
    (refused : Refused payloads ipfsHash) :
    multiActions payloads ipfsHash = .error (refusal ipfsHash) := by
  unfold refusal
  by_cases hash : ipfsHash = 0
  · rw [if_pos hash, multiActions_zeroHash hash]
  · rw [if_neg hash, multiActions_zeroPayload bounded hash (refused.resolve_left hash)]

/-- What an accepted input is built into. -/
theorem multiActions_accepted (bounded : payloads.length < 2 ^ 64)
    (accepted : ¬ Refused payloads ipfsHash) :
    multiActions payloads ipfsHash = .ok (executeAll payloads) :=
  multiActions_ok bounded (fun zero => accepted (Or.inl zero)) fun member =>
    accepted (Or.inr member)

/-- The calldata of an accepted input. -/
theorem deployMultiProposal_accepted (bounded : payloads.length < 2 ^ 64)
    (accepted : ¬ Refused payloads ipfsHash) :
    DeployMultiMainnetProposal.deployMultiProposal chain payloads ipfsHash =
      .ok (encodeCall chain.createSelector createTypes
        (proposalArgs chain.book payloads ipfsHash).encoded) := by
  rw [DeployMultiMainnetProposal.deployMultiProposal, multiActions_accepted bounded accepted]
  exact emitProposal_ok

/-- An input with calldata is accepted. -/
theorem accepted_of_callData (bounded : payloads.length < 2 ^ 64) {callData : Bytes}
    (built : DeployMultiMainnetProposal.deployMultiProposal chain payloads ipfsHash = .ok callData) :
    ¬ Refused payloads ipfsHash := by
  intro refused
  obtain ⟨reason, failed⟩ : ∃ reason,
      chain.emitProposal (multiActions payloads ipfsHash) ipfsHash = .error reason :=
    emitProposal_fails_iff.mpr ((multiActions_error_iff bounded).mpr refused)
  rw [DeployMultiMainnetProposal.deployMultiProposal, failed] at built
  cases built

/-- **Two accepted inputs with the same calldata are the same input.** -/
theorem deployMultiProposal_injective {others : List Address} {otherHash : Word} {callData : Bytes}
    (bounded : payloads.length < 2 ^ 64) (otherBounded : others.length < 2 ^ 64)
    (first : DeployMultiMainnetProposal.deployMultiProposal chain payloads ipfsHash = .ok callData)
    (second : DeployMultiMainnetProposal.deployMultiProposal chain others otherHash = .ok callData) :
    payloads = others ∧ ipfsHash = otherHash := by
  have one := first
  have two := second
  rw [deployMultiProposal_accepted bounded (accepted_of_callData bounded first)] at one
  rw [deployMultiProposal_accepted otherBounded (accepted_of_callData otherBounded second)] at two
  have same := encodeCall_injective chain.createSelector createTypes
    (encodedArgs_fit chain.book payloads ipfsHash bounded)
    (encodedArgs_fit chain.book others otherHash otherBounded)
    (Except.ok.inj (one.trans two.symm))
  exact ⟨congrArg (fun values : Values createTypes => values.2.1) same,
    congrArg (fun values : Values createTypes => values.2.2.2.2.2.2.1) same⟩

end Paths

/-- **The emit path and the direct path agree on every list of payloads.** -/
theorem paths_agree (chain : Chain) (payloads : List Address) (ipfsHash : Word)
    (bounded : payloads.length < 2 ^ 64) : PathsAgree chain payloads ipfsHash where
  emit_fails := emitProposal_fails_iff.trans (multiActions_error_iff bounded)
  direct_fails deploy member := by
    rw [mem_multiBuilders member]
    exact createProposal_fails_iff.trans (multiActions_error_iff bounded)
  same_refusal refused := by
    have failed := multiActions_refused bounded refused
    refine ⟨?_, fun deploy member => ?_⟩
    · rw [DeployMultiMainnetProposal.deployMultiProposal, failed]
      rfl
    · rw [mem_multiBuilders member, failed, createProposal_error]
  same_calldata accepted := by
    refine ⟨_, deployMultiProposal_accepted bounded accepted, fun deploy member => ?_, ?_, ?_⟩
    · rw [mem_multiBuilders member, multiActions_accepted bounded accepted, createProposal_ok]
      rfl
    · exact List.take_left' chain.createSelector.four
    · exact decodeArgs_encodeCall chain.createSelector createTypes _
        (encodedArgs_fit chain.book payloads ipfsHash bounded)
  determined others otherHash otherBounded callData first second :=
    deployMultiProposal_injective bounded otherBounded first second
  one_payload payload single builders member := by
    subst single
    obtain ⟨direct, emit⟩ : builders.1 chain payload ipfsHash = _ ∧
        builders.2 chain payload ipfsHash = _ := mem_singleBuilders member
    rw [direct, emit]
    refine ⟨emitProposal_fails_iff.trans singleActions_error_iff,
      createProposal_fails_iff.trans singleActions_error_iff, fun accepted => ?_⟩
    have one : singleActions payload ipfsHash = multiActions [payload] ipfsHash :=
      singleActions_eq_multiActions (Or.inr fun zero => accepted (Or.inl zero))
    refine ⟨by rw [one]; rfl, fun deploy inside => ?_⟩
    rw [mem_multiBuilders inside, one]

/-- A chain with the mainnet addresses, on which every call returns the id 1. -/
def mainnetChain : Chain where
  book := mainnet
  createSelector := ⟨[0xf8, 0x74, 0x1a, 0x9c], rfl⟩
  respond _ := .ok 1

/-- The shipped payloads are accepted, and the paths agree on them. -/
theorem paths_agree_shipped :
    ¬ Refused DeployMultiMainnetProposal.payloads DeployMultiMainnetProposal.ipfsHash ∧
      PathsAgree mainnetChain DeployMultiMainnetProposal.payloads
        DeployMultiMainnetProposal.ipfsHash :=
  ⟨by unfold Refused; decide, paths_agree mainnetChain _ _ (by decide)⟩

end AaveV2Payloads
