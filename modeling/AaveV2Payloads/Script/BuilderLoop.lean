/-
**What the builders check, and what they build.**

* `multiActions_ok` — on a non-zero hash and payloads without the zero address, the loop runs to its
  end and the arrays are `executeAll payloads`: the payloads in order, and `0`, `"execute()"`, the
  empty byte string and `true` once for each of them.
* `multiActions_zeroHash`, `multiActions_zeroPayload` — every other input is refused, with the
  message of the check it fails.
* `multiActions_ok_iff`, `singleActions_ok_iff` — the two readings together.
* `singleActions_eq_multiActions` — one payload is built as a list of one; only when both checks
  fail do the two builders disagree, on the message (`bothZero_messages`).

The loop invariant is `filledTo payloads i`: the arrays after `i` iterations.
-/

import AaveV2Payloads.Script.Proposal

namespace AaveV2Payloads

open Solidity Solidity.Abi

/-- The arrays of a proposal that executes every payload. -/
def executeAll (payloads : List Address) : ActionArrays where
  targets := payloads
  values := List.replicate payloads.length 0
  signatures := List.replicate payloads.length "execute()"
  calldatas := List.replicate payloads.length []
  withDelegatecalls := List.replicate payloads.length true

/-- The arrays when `done` is written and `left` slots still hold their defaults. -/
def ActionArrays.pad (done : ActionArrays) (left : Nat) : ActionArrays where
  targets := done.targets ++ List.replicate left 0
  values := done.values ++ List.replicate left 0
  signatures := done.signatures ++ List.replicate left ""
  calldatas := done.calldatas ++ List.replicate left []
  withDelegatecalls := done.withDelegatecalls ++ List.replicate left false

/-- The arrays after `i` iterations. -/
def filledTo (payloads : List Address) (i : Nat) : ActionArrays :=
  (executeAll (payloads.take i)).pad (payloads.length - i)

theorem allocateActions_ok {length : Nat} (bounded : length < 2 ^ 64) :
    allocateActions length = .ok ((executeAll []).pad length) := by
  unfold allocateActions
  rw [newArray_ok bounded, newArray_ok bounded, newArray_ok bounded, newArray_ok bounded,
    newArray_ok bounded]
  rfl

/-- Writing the next entry of the five arrays. -/
theorem setAction_pad (done : List Address) (payload : Address) (left : Nat) :
    setAction ((executeAll done).pad (left + 1)) done.length payload =
      .ok ((executeAll (done ++ [payload])).pad left) := by
  have next {α : Type} (default value : α) : writeArray
      (List.replicate done.length value ++ List.replicate (left + 1) default) done.length value =
        .ok (List.replicate (done.length + 1) value ++ List.replicate left default) := by
    have written := writeArray_filled (List.replicate done.length value) default value left
    rwa [List.length_replicate, ← List.replicate_succ'] at written
  unfold setAction
  simp only [ActionArrays.pad, executeAll]
  rw [writeArray_filled, next, next, next, next]
  simp only [ok_bind, List.length_append, List.length_singleton]
  rfl

/-- **One iteration.** -/
theorem fillAction_ok {payloads : List Address} {i : Nat} (inside : i < payloads.length)
    (nonzero : payloads[i] ≠ 0) :
    fillAction payloads i (filledTo payloads i) = .ok (filledTo payloads (i + 1)) := by
  have prior : (payloads.take i).length = i := List.length_take_of_le inside.le
  have written := setAction_pad (payloads.take i) payloads[i] (payloads.length - (i + 1))
  rw [prior, List.take_append_getElem inside,
    show payloads.length - (i + 1) + 1 = payloads.length - i by omega] at written
  rw [fillAction, readArray_ok (List.getElem?_eq_getElem inside), ok_bind, require_true nonzero,
    ok_bind]
  exact written

theorem fillAction_zero {payloads : List Address} {i : Nat} (inside : i < payloads.length)
    (zero : payloads[i] = 0) (arrays : ActionArrays) :
    fillAction payloads i arrays = .error (.require payloadError) := by
  rw [fillAction, readArray_ok (List.getElem?_eq_getElem inside), ok_bind,
    require_false (not_not.mpr zero), error_bind]

/-- A list holds the zero address at a first index, or nowhere. -/
theorem firstZero {payloads : List Address} (member : (0 : Address) ∈ payloads) :
    ∃ stop, ∃ inside : stop < payloads.length, payloads[stop] = 0 ∧
      ∀ i, (before : i < stop) → payloads[i] ≠ 0 := by
  have found : payloads.findIdx (· == 0) < payloads.length :=
    List.findIdx_lt_length_of_exists ⟨0, member, rfl⟩
  refine ⟨payloads.findIdx (· == 0), found, ?_, fun i before => ?_⟩
  · exact eq_of_beq (List.findIdx_getElem (w := found))
  · exact ne_of_beq_false (List.not_of_lt_findIdx before)

section Multi

variable {payloads : List Address} {ipfsHash : Word}

theorem multiActions_loop (bounded : payloads.length < 2 ^ 64) (hash : ipfsHash ≠ 0) :
    multiActions payloads ipfsHash =
      forRange (fillAction payloads) 0 payloads.length (filledTo payloads 0) := by
  rw [multiActions, require_true hash, ok_bind, allocateActions_ok bounded, ok_bind]
  rfl

/-- **Accepted inputs**: the loop runs to its end. -/
theorem multiActions_ok (bounded : payloads.length < 2 ^ 64) (hash : ipfsHash ≠ 0)
    (nonzero : (0 : Address) ∉ payloads) :
    multiActions payloads ipfsHash = .ok (executeAll payloads) := by
  rw [multiActions_loop bounded hash]
  obtain ⟨final, ran, reached⟩ := forRange_ok (fun i arrays => arrays = filledTo payloads i)
    payloads.length 0 (filledTo payloads 0)
    (fun i arrays _ high here => by
      have inside : i < payloads.length := by omega
      have element : payloads[i] ≠ 0 := fun zero => nonzero (zero ▸ List.getElem_mem inside)
      exact ⟨_, here ▸ fillAction_ok inside element, rfl⟩) rfl
  rw [ran, reached, Nat.zero_add, filledTo, List.take_length, Nat.sub_self]
  simp [ActionArrays.pad]

theorem multiActions_zeroHash (zero : ipfsHash = 0) :
    multiActions payloads ipfsHash = .error (.require ipfsHashError) := by
  rw [multiActions, require_false (not_not.mpr zero), error_bind]

/-- **Refused inputs**: the loop stops at the first zero payload, wherever it is. -/
theorem multiActions_zeroPayload (bounded : payloads.length < 2 ^ 64) (hash : ipfsHash ≠ 0)
    (member : (0 : Address) ∈ payloads) :
    multiActions payloads ipfsHash = .error (.require payloadError) := by
  rw [multiActions_loop bounded hash]
  obtain ⟨stop, inside, zero, earlier⟩ := firstZero member
  exact forRange_error (fun i arrays => arrays = filledTo payloads i) payloads.length 0 _
    (Nat.zero_le _) (by omega)
    (fun i arrays _ before here =>
      ⟨_, here ▸ fillAction_ok (before.trans inside) (earlier i before), rfl⟩)
    (fun arrays _ => fillAction_zero inside zero arrays) rfl

/-- **What the builders for many payloads accept, and what they then build.** -/
theorem multiActions_ok_iff (bounded : payloads.length < 2 ^ 64) {arrays : ActionArrays} :
    multiActions payloads ipfsHash = .ok arrays ↔
      ipfsHash ≠ 0 ∧ (0 : Address) ∉ payloads ∧ arrays = executeAll payloads := by
  by_cases hash : ipfsHash = 0
  · rw [multiActions_zeroHash hash]
    exact ⟨fun same => (by cases same), fun accepted => absurd hash accepted.1⟩
  by_cases member : (0 : Address) ∈ payloads
  · rw [multiActions_zeroPayload bounded hash member]
    exact ⟨fun same => (by cases same), fun accepted => absurd member accepted.2.1⟩
  rw [multiActions_ok bounded hash member, Except.ok.injEq]
  exact ⟨fun same => ⟨hash, member, same.symm⟩, fun accepted => accepted.2.2.symm⟩

/-- Every refusal is one of the two checks. -/
theorem multiActions_error_iff (bounded : payloads.length < 2 ^ 64) :
    (∃ reason, multiActions payloads ipfsHash = .error reason) ↔
      ipfsHash = 0 ∨ (0 : Address) ∈ payloads := by
  by_cases hash : ipfsHash = 0
  · exact ⟨fun _ => Or.inl hash, fun _ => ⟨_, multiActions_zeroHash hash⟩⟩
  by_cases member : (0 : Address) ∈ payloads
  · exact ⟨fun _ => Or.inr member, fun _ => ⟨_, multiActions_zeroPayload bounded hash member⟩⟩
  rw [multiActions_ok bounded hash member]
  exact ⟨fun ⟨_, same⟩ => (by cases same), fun refused => (refused.elim hash member).elim⟩

end Multi

/-! ### One payload -/

section Single

variable {payload : Address} {ipfsHash : Word}

theorem singleActions_ok (nonzero : payload ≠ 0) (hash : ipfsHash ≠ 0) :
    singleActions payload ipfsHash = .ok (executeAll [payload]) := by
  rw [singleActions, require_true nonzero, ok_bind, require_true hash, ok_bind,
    allocateActions_ok (by norm_num), ok_bind]
  exact setAction_pad [] payload 0

theorem singleActions_ok_iff {arrays : ActionArrays} :
    singleActions payload ipfsHash = .ok arrays ↔
      payload ≠ 0 ∧ ipfsHash ≠ 0 ∧ arrays = executeAll [payload] := by
  by_cases zero : payload = 0
  · rw [singleActions, require_false (not_not.mpr zero), error_bind]
    exact ⟨fun same => (by cases same), fun accepted => absurd zero accepted.1⟩
  by_cases hash : ipfsHash = 0
  · rw [singleActions, require_true zero, ok_bind, require_false (not_not.mpr hash), error_bind]
    exact ⟨fun same => (by cases same), fun accepted => absurd hash accepted.2.1⟩
  rw [singleActions_ok zero hash, Except.ok.injEq]
  exact ⟨fun same => ⟨zero, hash, same.symm⟩, fun accepted => accepted.2.2.symm⟩

/-- **One payload is built as a list of one**, unless both checks fail. -/
theorem singleActions_eq_multiActions (one : payload ≠ 0 ∨ ipfsHash ≠ 0) :
    singleActions payload ipfsHash = multiActions [payload] ipfsHash := by
  have bounded : [payload].length < 2 ^ 64 := by norm_num
  by_cases zero : payload = 0
  · have hash : ipfsHash ≠ 0 := one.resolve_left (not_not.mpr zero)
    rw [multiActions_zeroPayload bounded hash (by simp [zero]), singleActions,
      require_false (not_not.mpr zero), error_bind]
  by_cases hash : ipfsHash = 0
  · rw [multiActions_zeroHash hash, singleActions, require_true zero, ok_bind,
      require_false (not_not.mpr hash), error_bind]
  rw [singleActions_ok zero hash,
    multiActions_ok bounded hash (by simpa using fun same : 0 = payload => zero same.symm)]

/-- The builders check in opposite orders: on two zeros they give different messages. -/
theorem bothZero_messages : singleActions 0 0 = .error (.require payloadError) ∧
    multiActions [0] 0 = .error (.require ipfsHashError) :=
  ⟨rfl, multiActions_zeroHash rfl⟩

end Single

end AaveV2Payloads
