/-
**From deployment to effect.**

The deployment scripts broadcast `new ProposalPayload()`, each for the payload it imports. The chain
puts the payload's code at an address that only the deployer's nonce decides.

* `deployAll_spec` — what a sequence of deployments leaves: every payload at an address of its own.
* `deployed_carried` — **payloads that were deployed can always be proposed**: the calldata for their
  addresses is created and queued, and its execution has their effects, in the order they were
  deployed in.
-/

import AaveV2Payloads.Execution.Lifecycle
import AaveV2Payloads.System.Refinement

namespace AaveV2Payloads

open Solidity Solidity.Abi

variable {σ κ : Type}

/-- A network that code is deployed on. `createAddress` is the address of the contract that the
deployer creates with a nonce; `executor` depends on the code it delegates to. -/
structure Network (σ : Type) where
  book : AddressBook
  selector : String → Selector
  externals : Externals σ
  executor : Contracts σ → Executor σ
  createAddress : Nat → Address

/-- The deployer's nonce, and the code on the chain. -/
structure Deployer (σ : Type) where
  nonce : Nat
  contracts : Contracts σ

namespace Network

variable (network : Network σ)

/-- The chain with its code. -/
def environment (contracts : Contracts σ) : Environment σ where
  book := network.book
  selector := network.selector
  externals := network.externals
  contracts := contracts
  executor := network.executor contracts

/-- The code of a payload on the network. -/
def code (payload : Payload) : Code σ :=
  payload.code network.externals network.book network.selector

/-- `new ProposalPayload()`, broadcast by the deployer. -/
def deploy (payload : Payload) (deployer : Deployer σ) : Address × Deployer σ :=
  (network.createAddress deployer.nonce,
    { nonce := deployer.nonce + 1
      contracts := Function.update deployer.contracts (network.createAddress deployer.nonce)
        (some (network.code payload)) })

/-- One deployment after the other. -/
def deployAll : List Payload → Deployer σ → List Address × Deployer σ
  | [], deployer => ([], deployer)
  | payload :: rest, deployer =>
      let (address, deployed) := network.deploy payload deployer
      let (addresses, final) := deployAll rest deployed
      (address :: addresses, final)

/-- The addresses of new contracts: different for different nonces, which have 64 bits, and not the
zero address. -/
structure Fresh : Prop where
  injective : ∀ first second, first < 2 ^ 64 → second < 2 ^ 64 →
    network.createAddress first = network.createAddress second → first = second
  nonzero : ∀ nonce, nonce < 2 ^ 64 → network.createAddress nonce ≠ 0

end Network

/-! ### The scripts -/

/-- `DeployProposalPayload.run`, of `script/DeployProposalPayload.s.sol`. -/
def DeployProposalPayload.run (network : Network σ) : Deployer σ → Address × Deployer σ :=
  network.deploy (.pool .ltTailDecember)

/-- `DeployProposalPayload.run`, of `script/specific/DeployMKR-Feb26ProposalPayload.s.sol`. -/
def DeployMKRFeb26ProposalPayload.run (network : Network σ) : Deployer σ → Address × Deployer σ :=
  network.deploy (.pool .mkrFeb26)

/-- `DeployProposalPayload.run`, of `script/specific/DeployV2CoverageProposalPayload.s.sol`. -/
def DeployV2CoverageProposalPayload.run (network : Network σ) : Deployer σ → Address × Deployer σ :=
  network.deploy (.payment .v2Coverage)

/-! ### What deployments leave -/

section Deployed

variable {network : Network σ}

/-- **What a sequence of deployments leaves.** -/
structure Deployed (network : Network σ) (payloads : List Payload) (before : Deployer σ)
    (addresses : List Address) (after : Deployer σ) : Prop where
  /-- The addresses are those of the deployer's next nonces, in order, -/
  addresses_eq : addresses = (List.range' before.nonce payloads.length).map network.createAddress
  /-- each with its payload's code, -/
  found : List.Forall₂ (fun address payload => after.contracts address = some (network.code payload))
    addresses payloads
  /-- and all other code is still there. -/
  frame : ∀ address, address ∉ addresses → after.contracts address = before.contracts address

/-- **Every sequence of deployments.** -/
theorem deployAll_spec (fresh : network.Fresh) (payloads : List Payload) :
    ∀ before : Deployer σ, before.nonce + payloads.length < 2 ^ 64 →
      Deployed network payloads before (network.deployAll payloads before).1
        (network.deployAll payloads before).2 := by
  induction payloads with
  | nil => exact fun before _ => ⟨rfl, .nil, fun _ _ => rfl⟩
  | cons payload rest ih =>
      intro before bounded
      rw [List.length_cons] at bounded
      have fewer : before.nonce + 1 + rest.length < 2 ^ 64 := by omega
      obtain ⟨others, found, frame⟩ := ih (network.deploy payload before).2 fewer
      have notAgain : network.createAddress before.nonce ∉
          (network.deployAll rest (network.deploy payload before).2).1 := by
        rw [others, List.mem_map]
        rintro ⟨nonce, later, same⟩
        obtain ⟨low, high⟩ : before.nonce + 1 ≤ nonce ∧ nonce < before.nonce + 1 + rest.length :=
          List.mem_range'_1.mp later
        have equal := fresh.injective nonce before.nonce (by omega) (by omega) same
        omega
      refine ⟨?_, .cons ?_ found, fun address absent => ?_⟩
      · exact congrArg (network.createAddress before.nonce :: ·) others
      · exact (frame _ notAgain).trans (Function.update_self _ _ _)
      · obtain ⟨different, elsewhere⟩ := not_or.mp (mt List.mem_cons.mpr absent)
        exact (frame address elsewhere).trans (Function.update_of_ne different _ _)

/-- The deployed payloads are sites of the chain they leave. -/
theorem sites_of_found {contracts : Contracts σ} {addresses : List Address} {payloads : List Payload}
    (found : List.Forall₂ (fun address payload => contracts address = some (network.code payload))
      addresses payloads) :
    ∃ sites : List (Site (network.environment contracts)),
      sites.map (·.address) = addresses ∧ sites.map (·.payload) = payloads := by
  induction found with
  | nil => exact ⟨[], rfl, rfl⟩
  | @cons address payload _ _ here _ ih =>
      obtain ⟨sites, addresses_eq, payloads_eq⟩ := ih
      exact ⟨⟨address, payload, here⟩ :: sites, congrArg (address :: ·) addresses_eq,
        congrArg (payload :: ·) payloads_eq⟩

/-- The effects of sites are those of their payloads. -/
theorem siteEffects_payloads {environment : Environment σ} (sites : List (Site environment))
    (timestamp : Nat) : siteEffects sites timestamp = (sites.map (·.payload)).forM fun payload =>
      payload.execute environment.externals environment.book (environment.executorFrame timestamp) := by
  have mapped := List.forM_map (l := sites) (g := (·.payload)) (f := fun payload =>
    payload.execute environment.externals environment.book (environment.executorFrame timestamp))
  simp only [List.forM_eq_forM] at mapped ⊢
  exact mapped.symm

end Deployed

/-- A proposal for the payloads that were deployed, from its calldata to its effects: it is queued
for an execution time, and executed in a block of any time. -/
def CarriedThrough (network : Network σ) (governance : Governance κ) (chain : Chain)
    (payloads : List Payload) (ipfsHash : Word) (deployer : Deployer σ) (proposing queueing : κ)
    (executionTime : Nat) : Prop :=
  ∃ callData args,
    DeployMultiMainnetProposal.deployMultiProposal chain
      (network.deployAll payloads deployer).1 ipfsHash = .ok callData ∧
    decodeArgs createTypes (callData.drop 4) = .some (CreateArgs.encoded args) ∧
    (∃ id after, governance.create args proposing = .ok (id, after)) ∧
    (∃ after, governance.queue args executionTime queueing = .ok ((), after)) ∧
    ∀ timestamp before after,
      (network.executor (network.deployAll payloads deployer).2.contracts).executeProposal
          args.actions timestamp before = .ok ((), after) ↔
        (payloads.forM fun payload => payload.execute network.externals network.book
          ⟨network.book.shortExecutor, network.book.gov, timestamp⟩) before = .ok ((), after)

/-- **Deployed payloads are carried through**, from the addresses of their deployment to their
effects. -/
theorem deployed_carried {governance : Governance κ} (network : Network σ) (fresh : network.Fresh)
    (executor : ∀ contracts, (network.environment contracts).ExecutorDocumented)
    (documented : governance.Documented) (chain : Chain) (same : chain.book = network.book)
    (payloads : List Payload) (some : payloads ≠ []) (ipfsHash : Word) (hash : ipfsHash ≠ 0)
    (deployer : Deployer σ) (bounded : deployer.nonce + payloads.length < 2 ^ 64) (proposing queueing : κ)
    (eligible : governance.mayPropose proposing network.book.shortExecutor) (executionTime : Nat)
    (unqueued : ∀ action, ¬ governance.queued.holds queueing (action, executionTime)) :
    CarriedThrough network governance chain payloads ipfsHash deployer proposing queueing
      executionTime := by
  unfold CarriedThrough
  obtain ⟨addresses_eq, found, _⟩ := deployAll_spec fresh payloads deployer bounded
  generalize (network.deployAll payloads deployer).2.contracts = contracts at found ⊢
  obtain ⟨sites, sameAddresses, samePayloads⟩ := sites_of_found found
  have count : sites.length = payloads.length := by
    rw [← samePayloads, List.length_map]
  have nonempty : sites ≠ [] := by
    rintro rfl
    exact some samePayloads.symm
  have distinct : (sites.map (·.address)).Nodup := by
    rw [sameAddresses, addresses_eq]
    refine List.Nodup.map_on (fun first inside second also same => ?_) List.nodup_range'
    have low := (List.mem_range'_1.mp inside).2
    have high := (List.mem_range'_1.mp also).2
    exact fresh.injective first second (by omega) (by omega) same
  have nonzero : (0 : Address) ∉ sites.map (·.address) := by
    rw [sameAddresses, addresses_eq, List.mem_map]
    rintro ⟨nonce, inside, zero⟩
    have high := (List.mem_range'_1.mp inside).2
    exact fresh.nonzero nonce (by omega) zero
  have accepted : ¬ Refused (sites.map (·.address)) ipfsHash := by
    rintro (zero | member)
    · exact hash zero
    · exact nonzero member
  have short : (sites.map (·.address)).length < 2 ^ 64 := by
    rw [List.length_map, count]
    omega
  rw [← same] at eligible
  obtain ⟨callData, args, emitted, decoded, created, queued, effects⟩ :=
    emitted_proposal_carried chain (executor contracts) documented accepted short nonempty distinct
      eligible unqueued
  rw [sameAddresses] at emitted
  refine ⟨callData, args, emitted, decoded, created, queued, fun timestamp before after => ?_⟩
  refine (effects timestamp before after).trans ?_
  rw [siteEffects_payloads, samePayloads]
  rfl

/-! ### A network -/

/-- A network with the mainnet book, and addresses counted from 1. -/
def bookNetwork : Network World where
  book := mainnet
  selector := executeSelector
  externals := worldExternals mainnet
  executor contracts := callingExecutor contracts executeSelector bookFrame
  createAddress nonce := BitVec.ofNat 160 (nonce + 1)

theorem bookNetwork_fresh : bookNetwork.Fresh where
  injective first second low high same := by
    have equal := congrArg BitVec.toNat same
    simp only [bookNetwork, BitVec.toNat_ofNat] at equal
    omega
  nonzero nonce bounded zero := by
    have equal : (nonce + 1) % 2 ^ 160 = 0 := congrArg BitVec.toNat zero
    omega

/-- The three payloads that have a deployment script, deployed and proposed together. -/
theorem deployed_carried_scripts : CarriedThrough bookNetwork listGovernance mainnetChain
    [.pool .ltTailDecember, .pool .mkrFeb26, .payment .v2Coverage] 1 ⟨5, fun _ => none⟩ [] [] 7 :=
  deployed_carried bookNetwork bookNetwork_fresh (fun _ => callingExecutor_documented rfl)
    listGovernance_documented mainnetChain rfl _ (List.cons_ne_nil _ _) 1 (by decide) _ (by norm_num)
    [] [] rfl 7 (fun _ => List.not_mem_nil)

end AaveV2Payloads
