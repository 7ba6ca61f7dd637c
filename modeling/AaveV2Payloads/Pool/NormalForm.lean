/-
**The effects of the pool payloads, and the shortest sequence for each.**

Two sequences have the same effect on every pool exactly when the same payloads other than the MKR
payload occur in them, and the same payload is the last to name MKR (`same_effect_iff`). So every
sequence has a normal form, which decides the effect and is the shortest sequence that has it
(`normal_forms`).
-/

import AaveV2Payloads.Pool.Sequences

namespace AaveV2Payloads

open Solidity LastWrite

variable {γ : Type}

instance : Nontrivial Collateral := ⟨⟨0, 0, 0⟩, ⟨1, 0, 0⟩, by decide⟩

namespace PoolPayload

/-- The last payload that names MKR. -/
def lastNamer (payloads : List PoolPayload) : Option PoolPayload :=
  (payloads.filter namesMkr).getLast?

/-- **The normal form of a sequence**: each payload once, the MKR payload only when it comes last. -/
def normalForm (payloads : List PoolPayload) : List PoolPayload :=
  ([.daiLTDecember, .usdcLTDecember, .freezeDPI, .ltTailDecember].filter (· ∈ payloads)) ++
    if lastNamer payloads = some .mkrFeb26 then [.mkrFeb26] else []

/-- The order of three payloads, and a long tail payload after the MKR payload. -/
example : normalForm [.freezeDPI, .mkrFeb26, .ltTailDecember, .freezeDPI, .daiLTDecember] =
    [.daiLTDecember, .freezeDPI, .ltTailDecember] := by decide

section Normal

variable {payloads others : List PoolPayload} {payload : PoolPayload}

theorem lastNamer_mem (last : lastNamer payloads = some payload) :
    payload ∈ payloads ∧ payload.namesMkr = true :=
  List.mem_filter.mp (List.mem_of_getLast? last)

theorem eq_ltTail_of_namesMkr (names : payload.namesMkr = true) (other : payload ≠ .mkrFeb26) :
    payload = .ltTailDecember := by
  cases payload with
  | ltTailDecember => rfl
  | mkrFeb26 => exact absurd rfl other
  | _ => cases names

/-- Where the MKR payload is not the last to name MKR, the long tail payload is. -/
theorem lastNamer_of_ne (other : lastNamer payloads ≠ some .mkrFeb26) :
    lastNamer payloads = if .ltTailDecember ∈ payloads then some .ltTailDecember else none := by
  cases last : lastNamer payloads with
  | none =>
      have nobody : payloads.filter namesMkr = [] := List.getLast?_eq_none_iff.mp last
      rw [if_neg fun member => ?_]
      exact List.filter_eq_nil_iff.mp nobody _ member rfl
  | some payload =>
      obtain ⟨member, names⟩ := lastNamer_mem last
      obtain rfl := eq_ltTail_of_namesMkr names fun same => other (last.trans (congrArg some same))
      rw [if_pos member]

theorem mem_normalForm (other : payload ≠ .mkrFeb26) :
    payload ∈ normalForm payloads ↔ payload ∈ payloads := by
  cases payload with
  | mkrFeb26 => exact absurd rfl other
  | _ => simp [normalForm]

/-- **The normal form has the same last payload that names MKR.** -/
theorem lastNamer_normalForm : lastNamer (normalForm payloads) = lastNamer payloads := by
  by_cases last : lastNamer payloads = some .mkrFeb26
  · rw [last, lastNamer, normalForm, if_pos last, List.filter_append]
    exact List.getLast?_concat
  · have tail : [daiLTDecember, .usdcLTDecember, .freezeDPI, .ltTailDecember].filter namesMkr =
        [.ltTailDecember] := by decide
    rw [lastNamer_of_ne last, lastNamer, normalForm, if_neg last, List.append_nil, List.filter_comm,
      tail]
    by_cases member : .ltTailDecember ∈ payloads <;> simp [member]

theorem normalForm_eq_iff : normalForm payloads = normalForm others ↔
    (∀ payload, payload ≠ .mkrFeb26 → (payload ∈ payloads ↔ payload ∈ others)) ∧
      lastNamer payloads = lastNamer others := by
  constructor
  · intro same
    refine ⟨fun payload other => ?_, ?_⟩
    · rw [← mem_normalForm other, same, mem_normalForm other]
    · rw [← lastNamer_normalForm, same, lastNamer_normalForm]
  · rintro ⟨sameSet, sameLast⟩
    unfold normalForm
    rw [sameLast]
    congr 1
    refine List.filter_congr fun payload member => ?_
    refine decide_eq_decide.mpr (sameSet payload ?_)
    rintro rfl
    simp at member

theorem normalForm_subset : normalForm payloads ⊆ payloads := by
  intro payload member
  by_cases other : payload = .mkrFeb26
  · subst other
    by_cases last : lastNamer payloads = some .mkrFeb26
    · exact (lastNamer_mem last).1
    · simp [normalForm, last] at member
  · exact (mem_normalForm other).mp member

theorem normalForm_nodup : (normalForm payloads).Nodup := by
  have four : ([.daiLTDecember, .usdcLTDecember, .freezeDPI, .ltTailDecember].filter
      (· ∈ payloads)).Nodup := List.Nodup.filter _ (by decide)
  unfold normalForm
  by_cases last : lastNamer payloads = some .mkrFeb26
  · rw [if_pos last, List.nodup_append]
    refine ⟨four, List.nodup_singleton _, fun first member second single => ?_⟩
    rw [List.mem_singleton.mp single]
    rintro rfl
    simp at member
  · rwa [if_neg last, List.append_nil]

theorem normalForm_length_le : (normalForm payloads).length ≤ payloads.length :=
  normalForm_nodup.length_le_of_subset normalForm_subset

end Normal

/-! ### What decides the columns -/

section Columns

variable {book : AddressBook} {payloads others : List PoolPayload}

/-- Every payload that configures more than MKR has an asset of its own. -/
theorem soleAsset (distinct : book.namedAssets.Nodup) {payload : PoolPayload}
    (notMkr : payload ≠ .mkrFeb26) (notFreeze : payload ≠ .freezeDPI) :
    ∃ asset value, (payload.collaterals book).lookup asset = some value ∧
      ∀ job : PoolPayload, job ≠ payload → (job.collaterals book).lookup asset = none := by
  simp only [AddressBook.namedAssets, List.nodup_cons, List.mem_cons, List.not_mem_nil, or_false,
    not_or] at distinct
  cases payload with
  | daiLTDecember =>
      refine ⟨book.daiUnderlying, _, List.lookup_cons_self, fun job other => lookup_of_not_named ?_⟩
      cases job <;> simp_all [assets]
  | usdcLTDecember =>
      have notDai : book.usdcUnderlying ≠ book.daiUnderlying := fun same => distinct.1.1 same.symm
      refine ⟨book.usdcUnderlying, _, List.lookup_cons_self, fun job other => lookup_of_not_named ?_⟩
      cases job <;> simp_all [assets]
  | ltTailDecember =>
      have notDai : book.ensUnderlying ≠ book.daiUnderlying := fun same => distinct.1.2.1 same.symm
      have notUsdc : book.ensUnderlying ≠ book.usdcUnderlying := fun same =>
        distinct.2.1.1 same.symm
      refine ⟨book.ensUnderlying, _, List.lookup_cons_self, fun job other => lookup_of_not_named ?_⟩
      cases job <;> simp_all [assets]
  | mkrFeb26 => exact absurd rfl notMkr
  | freezeDPI => exact absurd rfl notFreeze

/-- The parameters of MKR decide the last payload that names it. -/
theorem lastNamer_of_mkr (same : (lastNamer payloads).bind mkrCollateral =
    (lastNamer others).bind mkrCollateral) : lastNamer payloads = lastNamer others := by
  have given {sequence : List PoolPayload} {payload : PoolPayload}
      (last : lastNamer sequence = some payload) : ∃ value, payload.mkrCollateral = some value :=
    Option.isSome_iff_exists.mp (lastNamer_mem last).2
  cases first : lastNamer payloads with
  | none =>
      cases second : lastNamer others with
      | none => rfl
      | some other =>
          obtain ⟨value, names⟩ := given second
          simp [first, second, names] at same
  | some payload =>
      cases second : lastNamer others with
      | none =>
          obtain ⟨value, names⟩ := given first
          simp [first, second, names] at same
      | some other =>
          rw [first, second] at same
          exact congrArg some (eq_of_mkrCollateral (lastNamer_mem first).2 (lastNamer_mem second).2 same)

/-- **The parameters of all assets** decide which payloads occurred, and which named MKR last. -/
theorem lastCollateral_eq_iff (distinct : book.namedAssets.Nodup) :
    (∀ asset, lastValue (collaterals book) payloads asset =
      lastValue (collaterals book) others asset) ↔
      (∀ payload, payload ≠ .mkrFeb26 → payload ≠ .freezeDPI →
        (payload ∈ payloads ↔ payload ∈ others)) ∧ lastNamer payloads = lastNamer others := by
  constructor
  · intro same
    refine ⟨fun payload notMkr notFreeze => ?_, lastNamer_of_mkr ?_⟩
    · obtain ⟨asset, value, named, silent⟩ := soleAsset distinct notMkr notFreeze
      have here := same asset
      rw [lastValue_of_sole silent, lastValue_of_sole silent, named] at here
      by_cases first : payload ∈ payloads <;> by_cases second : payload ∈ others <;>
        simp [first, second] at here ⊢
    · have here := same book.mkrUnderlying
      rwa [lastCollateral_mkr distinct, lastCollateral_mkr distinct] at here
  · rintro ⟨sameSet, sameLast⟩ asset
    by_cases mkr : asset = book.mkrUnderlying
    · subst mkr
      rw [lastCollateral_mkr distinct, lastCollateral_mkr distinct]
      exact congrArg (fun last => last.bind mkrCollateral) sameLast
    · obtain ⟨sole, silent⟩ := soleNamer distinct mkr
      rw [lastValue_of_sole silent, lastValue_of_sole silent]
      by_cases named : (sole.collaterals book).lookup asset = none
      · rw [named, ite_self, ite_self]
      · refine if_congr (sameSet sole ?_ ?_) rfl rfl
        · rintro rfl
          exact named (lookup_of_not_named fun member => mkr (List.mem_singleton.mp member))
        · rintro rfl
          exact named rfl

theorem lastFreeze_eq_iff : (∀ asset, lastValue (freezes book) payloads asset =
    lastValue (freezes book) others asset) ↔ (.freezeDPI ∈ payloads ↔ .freezeDPI ∈ others) := by
  constructor
  · intro same
    have here := same book.dpiUnderlying
    rw [lastValue_of_sole fun _ => lookup_freezes, lastValue_of_sole fun _ => lookup_freezes] at here
    by_cases first : .freezeDPI ∈ payloads <;> by_cases second : .freezeDPI ∈ others <;>
      simp_all [freezes]
  · intro same asset
    rw [lastValue_of_sole fun _ => lookup_freezes, lastValue_of_sole fun _ => lookup_freezes]
    exact if_congr same rfl rfl

end Columns

end PoolPayload

/-! ### Effects -/

section Effects

variable {configurator : PoolConfigurator (PoolState γ)} {book : AddressBook} {admin : Address}

/-- Two sequences have the same effect on every pool when they have it on every column. -/
theorem same_effect_columns [Nonempty γ] (documented : configurator.Documented admin)
    (executions others : List PoolExecution) :
    (∀ initial : PoolState γ, run (poolStep configurator book admin) initial executions =
      run (poolStep configurator book admin) initial others) ↔
      (∀ map, perform (PoolPayload.collaterals book) map (payloadsOf executions) =
        perform (PoolPayload.collaterals book) map (payloadsOf others)) ∧
      ∀ map, perform (PoolPayload.freezes book) map (payloadsOf executions) =
        perform (PoolPayload.freezes book) map (payloadsOf others) := by
  constructor
  · intro same
    obtain ⟨rest⟩ := ‹Nonempty γ›
    refine ⟨fun map => ?_, fun map => ?_⟩
    · have here := congrArg PoolState.collateral
        (same ⟨[], fun asset => ⟨map asset, false, rest⟩⟩)
      rwa [(run_performed documented book executions _).collateral,
        (run_performed documented book others _).collateral] at here
    · have here := congrArg PoolState.isFrozen
        (same ⟨[], fun asset => ⟨⟨0, 0, 0⟩, map asset, rest⟩⟩)
      rwa [(run_performed documented book executions _).isFrozen,
        (run_performed documented book others _).isFrozen] at here
  · rintro ⟨collateral, isFrozen⟩ initial
    exact (run_performed documented book executions initial).unique
      (run_performed documented book others initial) (collateral _) (isFrozen _)

/-- **When two sequences have the same effect on every pool.** -/
theorem same_effect_iff [Nonempty γ] (documented : configurator.Documented admin)
    (distinct : book.namedAssets.Nodup) (executions others : List PoolExecution) :
    (∀ initial : PoolState γ, run (poolStep configurator book admin) initial executions =
      run (poolStep configurator book admin) initial others) ↔
      (∀ payload, payload ≠ .mkrFeb26 →
        (payload ∈ payloadsOf executions ↔ payload ∈ payloadsOf others)) ∧
        PoolPayload.lastNamer (payloadsOf executions) = PoolPayload.lastNamer (payloadsOf others) := by
  rw [same_effect_columns documented, perform_eq_iff (PoolPayload.collaterals_distinct distinct),
    perform_eq_iff PoolPayload.freezes_distinct, PoolPayload.lastCollateral_eq_iff distinct,
    PoolPayload.lastFreeze_eq_iff]
  constructor
  · rintro ⟨⟨sameSet, sameLast⟩, freeze⟩
    refine ⟨fun payload notMkr => ?_, sameLast⟩
    by_cases notFreeze : payload = .freezeDPI
    · rw [notFreeze]
      exact freeze
    · exact sameSet payload notMkr notFreeze
  · rintro ⟨sameSet, sameLast⟩
    exact ⟨⟨fun payload notMkr _ => sameSet payload notMkr, sameLast⟩, sameSet .freezeDPI (by decide)⟩

end Effects

/-- **What the normal form of a sequence of executions is good for.** -/
structure NormalForms (configurator : PoolConfigurator (PoolState γ)) (book : AddressBook)
    (admin : Address) (executions : List PoolExecution) : Prop where
  /-- Its payloads, executed by whomever and whenever, have the same effect on every pool. -/
  same_effect : ∀ normal, payloadsOf normal = PoolPayload.normalForm (payloadsOf executions) →
    ∀ initial : PoolState γ, run (poolStep configurator book admin) initial normal =
      run (poolStep configurator book admin) initial executions
  /-- It decides the effect, -/
  decides : ∀ others, (∀ initial : PoolState γ,
    run (poolStep configurator book admin) initial executions =
      run (poolStep configurator book admin) initial others) ↔
    PoolPayload.normalForm (payloadsOf executions) = PoolPayload.normalForm (payloadsOf others)
  /-- and no sequence with that effect is shorter. -/
  shortest : ∀ others, (∀ initial : PoolState γ,
    run (poolStep configurator book admin) initial executions =
      run (poolStep configurator book admin) initial others) →
    (PoolPayload.normalForm (payloadsOf executions)).length ≤ others.length

/-- **Every sequence has a normal form.** -/
theorem normal_forms [Nonempty γ] (configurator : PoolConfigurator (PoolState γ)) (book : AddressBook)
    (admin : Address) (documented : configurator.Documented admin)
    (distinct : book.namedAssets.Nodup) (executions : List PoolExecution) :
    NormalForms configurator book admin executions := by
  have decides : ∀ others, (∀ initial : PoolState γ,
      run (poolStep configurator book admin) initial executions =
        run (poolStep configurator book admin) initial others) ↔
      PoolPayload.normalForm (payloadsOf executions) =
        PoolPayload.normalForm (payloadsOf others) := by
    intro others
    rw [same_effect_iff documented distinct, PoolPayload.normalForm_eq_iff]
  refine ⟨fun normal same => ?_, decides, fun others alike => ?_⟩
  · rw [same_effect_iff documented distinct, same]
    exact ⟨fun _ other => PoolPayload.mem_normalForm other, PoolPayload.lastNamer_normalForm⟩
  · rw [(decides others).mp alike, ← List.length_map (fun execution : PoolExecution => execution.payload)]
    exact PoolPayload.normalForm_length_le

theorem normal_forms_mainnet : NormalForms
    (checkingConfigurator mainnet.shortExecutor : PoolConfigurator (PoolState Unit)) mainnet
    mainnet.shortExecutor [⟨.mkrFeb26, mainnet.gov, 1⟩, ⟨.ltTailDecember, mainnet.gov, 2⟩] :=
  normal_forms (checkingConfigurator mainnet.shortExecutor) mainnet mainnet.shortExecutor
    (checkingConfigurator_documented _) (by decide) _

end AaveV2Payloads
