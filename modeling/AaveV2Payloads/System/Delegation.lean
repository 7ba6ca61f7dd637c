/-
**Why every action is a delegatecall.**

The builders set `withDelegatecalls` for every payload. A payload that is called instead acts in its
own name, so the contracts it calls refuse it and the whole proposal fails.

* `perform_plain_fails` — a payload that is called is not executed.
* `executeProposal_flagged_iff` — with any other array of flags the proposal fails.
* `executed_flags_iff` — **on the system the proposal goes through with the flags the builders make,
  and with no others**, and then it has the effects of its payloads.
-/

import AaveV2Payloads.System.Refinement

namespace AaveV2Payloads

open Solidity Solidity.Abi

variable {σ : Type} {environment : Environment σ}

/-- What the executor documents of an action that is a call without value: it succeeds when the call
does. -/
def Environment.CallsDocumented (environment : Environment σ) : Prop :=
  ∀ (action : Action) (timestamp : Nat), action.withDelegatecall = false → action.value = 0 →
    action.signature ≠ "" → ∀ before after,
      environment.executor.perform action timestamp before = .ok ((), after) ↔
        ∃ returned, environment.contracts.call (environment.executorFrame timestamp) action.target
          ((environment.selector action.signature).bytes ++ action.callData) before =
            .ok (returned, after)

/-- An action for a payload, with a flag of its own. -/
def flaggedAction (payload : Address) (withDelegatecall : Bool) : Action :=
  { executeAction payload with withDelegatecall := withDelegatecall }

/-- The arrays of the builders with other flags. -/
def flaggedArgs (book : AddressBook) (payloads : List Address) (flags : List Bool) (ipfsHash : Word) :
    CreateArgs :=
  { (executeAll payloads).createArgs book ipfsHash with withDelegatecalls := flags }

/-- The actions of a proposal, with other flags. -/
def BuiltProposal.flagged (proposal : BuiltProposal environment) (flags : List Bool) : List Action :=
  ({ proposal.arrays with withDelegatecalls := flags }.createArgs environment.book
    proposal.ipfsHash).actions

/-- The actions of these arrays. -/
theorem actions_flaggedArgs (book : AddressBook) (payloads : List Address) (ipfsHash : Word) :
    ∀ flags : List Bool, (flaggedArgs book payloads flags ipfsHash).actions =
      (payloads.zip flags).map fun item => flaggedAction item.1 item.2 := by
  unfold flaggedArgs CreateArgs.actions
  simp only [ActionArrays.createArgs, executeAll]
  induction payloads with
  | nil => exact fun _ => rfl
  | cons payload rest ih =>
      intro flags
      cases flags with
      | nil => simp
      | cons flag others =>
          simp only [List.length_cons, List.replicate_succ, List.zip_cons_cons, List.map_cons, ih]
          rfl

/-- A called payload reverts, whoever calls it. -/
theorem call_execute_reverts (guarded : environment.externals.Guarded environment.book.shortExecutor)
    (separate : ∀ site : Site environment, site.address ≠ environment.book.shortExecutor)
    (site : Site environment) (caller : Frame) (arguments : Bytes) :
    Reverts (environment.contracts.call caller site.address
      ((environment.selector "execute()").bytes ++ arguments)) := by
  rw [Contracts.call_code site.deployed]
  unfold Environment.payloadCode
  rw [Payload.code_execute]
  exact (site.payload.execute_reverts guarded environment.book (separate site)).bind _

/-- **A payload that is called is not executed.** -/
theorem perform_plain_fails (calls : environment.CallsDocumented)
    (guarded : environment.externals.Guarded environment.book.shortExecutor)
    (separate : ∀ site : Site environment, site.address ≠ environment.book.shortExecutor)
    (site : Site environment) (timestamp : Nat) (before after : σ) :
    environment.executor.perform (flaggedAction site.address false) timestamp before ≠
      .ok ((), after) := by
  have nonempty : (flaggedAction site.address false).signature ≠ "" := by
    show "execute()" ≠ ""
    decide
  intro performed
  obtain ⟨returned, ran⟩ := (calls _ timestamp rfl rfl nonempty before after).mp performed
  obtain ⟨reason, failed⟩ := call_execute_reverts guarded separate site
    (environment.executorFrame timestamp) [] before
  cases failed.symm.trans ran

/-- The actions of sites with flags, one after the other. -/
theorem flagged_forM_iff (documented : environment.ExecutorDocumented)
    (calls : environment.CallsDocumented)
    (guarded : environment.externals.Guarded environment.book.shortExecutor)
    (separate : ∀ site : Site environment, site.address ≠ environment.book.shortExecutor)
    (timestamp : Nat) (sites : List (Site environment)) : ∀ (flags : List Bool) (before after : σ),
    flags.length = sites.length →
    (((((sites.map (·.address)).zip flags).map fun item => flaggedAction item.1 item.2).forM
        fun action => environment.executor.perform action timestamp) before = .ok ((), after) ↔
      (∀ flag ∈ flags, flag = true) ∧ siteEffects sites timestamp before = .ok ((), after)) := by
  induction sites with
  | nil =>
      intro flags before after same
      rw [List.length_eq_zero_iff.mp same]
      exact ⟨fun ran => ⟨fun _ member => (by cases member), ran⟩, fun both => both.2⟩
  | cons site rest ih =>
      intro flags before after same
      cases flags with
      | nil => cases same
      | cons flag others =>
          have shorter : others.length = rest.length := Nat.succ.inj same
          cases flag with
          | false =>
              refine ⟨fun ran => ?_, fun both => ?_⟩
              · obtain ⟨_, middle, first, _⟩ := run_bind_ok_iff.mp ran
                exact absurd first (perform_plain_fails calls guarded separate site timestamp _ _)
              · exact absurd (both.1 false List.mem_cons_self) Bool.false_ne_true
          | true =>
              have split : (∀ flag ∈ true :: others, flag = true) ↔ ∀ flag ∈ others, flag = true :=
                List.forall_mem_cons.trans (and_iff_right rfl)
              rw [split]
              constructor
              · intro ran
                obtain ⟨_, middle, first, second⟩ := run_bind_ok_iff.mp ran
                have executed := (perform_executeAction_iff documented site timestamp _ _).mp first
                obtain ⟨flagged, effects⟩ := (ih others middle after shorter).mp second
                exact ⟨flagged, (run_bind_of_ok executed).trans effects⟩
              · rintro ⟨flagged, ran⟩
                obtain ⟨_, middle, first, second⟩ := run_bind_ok_iff.mp ran
                have performed := (perform_executeAction_iff documented site timestamp _ _).mpr first
                exact (run_bind_of_ok performed).trans
                  ((ih others middle after shorter).mpr ⟨flagged, second⟩)

/-- A proposal with flags of its own goes through when they are those of the builders, and its
payloads do. -/
theorem executeProposal_flagged_iff (documented : environment.ExecutorDocumented)
    (calls : environment.CallsDocumented)
    (guarded : environment.externals.Guarded environment.book.shortExecutor)
    (separate : ∀ site : Site environment, site.address ≠ environment.book.shortExecutor)
    (proposal : BuiltProposal environment) {flags : List Bool}
    (same : flags.length = proposal.sites.length) (timestamp : Nat) (before after : σ) :
    environment.executor.executeProposal (proposal.flagged flags) timestamp before =
        .ok ((), after) ↔
      flags = proposal.arrays.withDelegatecalls ∧
        proposal.effects timestamp before = .ok ((), after) := by
  unfold BuiltProposal.flagged
  rw [executeAll_of_multiActions proposal.built]
  have actions := actions_flaggedArgs environment.book (proposal.sites.map (·.address))
    proposal.ipfsHash flags
  have allTrue : (∀ flag ∈ flags, flag = true) ↔
      flags = List.replicate (proposal.sites.map (·.address)).length true := by
    rw [List.eq_replicate_iff, List.length_map]
    exact (and_iff_right same).symm
  rw [documented.executeProposal_iff]
  refine Iff.trans ?_ (flagged_forM_iff documented calls guarded separate timestamp proposal.sites
    flags before after same |>.trans (and_congr_left' allTrue))
  exact (congrArg (fun list : List Action =>
    (list.forM fun action => environment.executor.perform action timestamp) before =
      .ok ((), after)) actions).to_iff

/-- **Only the flags the builders set carry a proposal**, from every state, and then it has exactly
the effects of its payloads. -/
theorem executed_flags_iff {γ ρ : Type} (system : System γ ρ) (documented : system.Documented)
    (calls : system.environment.CallsDocumented) (proposal : BuiltProposal system.environment)
    (flags : List Bool) (same : flags.length = proposal.sites.length) (timestamp : Nat)
    (inTime : timestamp + days 360 < 2 ^ 256) (before : PoolState γ × ρ) :
    ((∃ after, system.environment.executor.executeProposal (proposal.flagged flags) timestamp before =
        .ok ((), after)) ↔ flags = proposal.arrays.withDelegatecalls) ∧
    ∀ after, system.environment.executor.executeProposal (proposal.flagged flags) timestamp before =
        .ok ((), after) → proposal.effects timestamp before = .ok ((), after) := by
  have carried := executeProposal_flagged_iff documented.executor calls documented.guarded
    documented.separate proposal same timestamp before
  -- The payloads of a proposal never fail on the system.
  have effects := siteEffects_run documented inTime proposal.sites before.1 before.2
  exact ⟨⟨fun ⟨after, ran⟩ => ((carried after).mp ran).1,
    fun set => ⟨_, (carried _).mpr ⟨set, effects⟩⟩⟩, fun after ran => ((carried after).mp ran).2⟩

/-- The executor of the reference system documents its calls. -/
theorem bookSystem_calls (deployed : Address → Option Payload) :
    (bookSystem deployed).environment.CallsDocumented := by
  intro action timestamp plain _ signed before after
  refine (performAction_ok_iff _ _ _ action timestamp before after).trans ?_
  rw [actionCall_plain plain signed]
  rfl

/-- The proposal for five payloads goes through as it was built, and not with its third flag off. -/
theorem executed_flags_iff_seven :
    (∃ after, (bookSystem sevenPayloads).environment.executor.executeProposal
      (sevenProposal.flagged [true, true, true, true, true]) 1000
      (⟨mainnet.namedAssets, fun _ => ⟨⟨0, 0, 0⟩, false, ()⟩⟩, ReserveBook.empty) =
        .ok ((), after)) ∧
    ¬ ∃ after, (bookSystem sevenPayloads).environment.executor.executeProposal
      (sevenProposal.flagged [true, true, false, true, true]) 1000
      (⟨mainnet.namedAssets, fun _ => ⟨⟨0, 0, 0⟩, false, ()⟩⟩, ReserveBook.empty) =
        .ok ((), after) := by
  have carried (flags : List Bool) (same : flags.length = 5) :=
    (executed_flags_iff (bookSystem sevenPayloads) (bookSystem_documented rfl)
      (bookSystem_calls sevenPayloads) sevenProposal flags same 1000 (by decide)
      (⟨mainnet.namedAssets, fun _ => ⟨⟨0, 0, 0⟩, false, ()⟩⟩, ReserveBook.empty)).1
  refine ⟨(carried _ rfl).mpr rfl, ?_⟩
  rw [carried _ rfl]
  decide

end AaveV2Payloads
