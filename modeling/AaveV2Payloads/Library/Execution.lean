/-
**Solidity execution: reverts, checked arithmetic, memory arrays, counted loops.**

Code that can revert returns in `Except Revert`; code that also changes the chain's state is a `Tx`.

* `ok_bind_iff`, `run_bind_ok_iff` — how a computation that ran to its end splits at a bind.
* `checkedAdd_ok_iff` and its siblings — the arithmetic of solc 0.8 succeeds exactly when the
  exact result fits in 256 bits, and is then the exact result.
* `forRange_ok` — **the loop rule**: an invariant every iteration establishes for its successor
  holds at the end of the loop, which runs to its end.
* `forRange_error` — the failure rule: an iteration that reverts on every memory the invariant
  allows makes the loop revert with its reason.
-/

import Mathlib.Data.List.Basic
import Mathlib.Tactic.Linarith

namespace Solidity

/-! ### Reverts and transactions -/

/-- Why an execution was undone. -/
inductive Revert
  /-- `require(condition, message)` with a false condition. -/
  | require (message : String)
  /-- A check the compiler inserts: `0x11` arithmetic, `0x12` division by zero, `0x32` array
  index, `0x41` allocation. -/
  | panic (code : Nat)
  /-- A call into another contract reverted, with its return data. -/
  | external (data : List UInt8)
  /-- The contract has no function for the calldata. -/
  | noFunction
  deriving DecidableEq, Repr

/-- A state-changing computation: a revert keeps no state. -/
abbrev Tx (σ : Type) := StateT σ (Except Revert)

/-- `require(condition, message)`. -/
def require (condition : Prop) [Decidable condition] (message : String) : Except Revert Unit :=
  if condition then .ok () else .error (.require message)

theorem require_true {condition : Prop} [Decidable condition] (holds : condition)
    (message : String) : require condition message = .ok () :=
  if_pos holds

theorem require_false {condition : Prop} [Decidable condition] (fails : ¬ condition)
    (message : String) : require condition message = .error (.require message) :=
  if_neg fails

section Bind

variable {ε σ α β : Type}

/-- A bind that ran to its end ran both halves. -/
theorem ok_bind_iff {first : Except ε α} {next : α → Except ε β} {value : β} :
    first >>= next = .ok value ↔ ∃ middle, first = .ok middle ∧ next middle = .ok value := by
  cases first with
  | error reason =>
      constructor
      · exact fun same => by cases same
      · rintro ⟨_, same, _⟩
        cases same
  | ok middle =>
      constructor
      · exact fun same => ⟨middle, rfl, same⟩
      · rintro ⟨_, same, ran⟩
        cases same
        exact ran

@[simp] theorem ok_bind (value : α) (next : α → Except ε β) :
    (Except.ok value >>= next) = next value := rfl

@[simp] theorem error_bind (reason : ε) (next : α → Except ε β) :
    (Except.error reason >>= next) = .error reason := rfl

/-- The stateful form of `ok_bind_iff`. -/
theorem run_bind_ok_iff {first : Tx σ α} {next : α → Tx σ β} {before after : σ} {value : β} :
    (first >>= next) before = .ok (value, after) ↔
      ∃ middle state, first before = .ok (middle, state) ∧ next middle state = .ok (value, after) := by
  show (first before >>= fun pair => next pair.1 pair.2) = _ ↔ _
  rw [ok_bind_iff]
  exact ⟨fun ⟨⟨middle, state⟩, ran, rest⟩ => ⟨middle, state, ran, rest⟩,
    fun ⟨middle, state, ran, rest⟩ => ⟨(middle, state), ran, rest⟩⟩

/-- A bind whose first half succeeds continues from the state it left. -/
theorem run_bind_of_ok {first : Tx σ α} {next : α → Tx σ β} {before state : σ} {middle : α}
    (ran : first before = .ok (middle, state)) : (first >>= next) before = next middle state := by
  show (first before >>= fun pair => next pair.1 pair.2) = _
  rw [ran]
  rfl

/-- A bind whose first half reverts, reverts. -/
theorem run_bind_of_error {first : Tx σ α} {next : α → Tx σ β} {before : σ} {reason : Revert}
    (ran : first before = .error reason) : (first >>= next) before = .error reason := by
  show (first before >>= fun pair => next pair.1 pair.2) = _
  rw [ran]
  rfl

/-- Two sequences whose steps succeed alike, succeed alike. -/
theorem forM_ok_congr {ι : Type} {first second : ι → Tx σ Unit}
    (alike : ∀ item before after, first item before = .ok ((), after) ↔
      second item before = .ok ((), after)) (items : List ι) : ∀ before after,
    items.forM first before = .ok ((), after) ↔ items.forM second before = .ok ((), after) := by
  induction items with
  | nil => exact fun _ _ => Iff.rfl
  | cons item rest ih =>
      intro before after
      refine run_bind_ok_iff.trans (Iff.trans ?_ run_bind_ok_iff.symm)
      exact exists_congr fun _ => exists_congr fun state =>
        and_congr (alike item before state) (ih state after)

end Bind

/-! ### Checked 256-bit arithmetic -/

/-- A check the compiler inserts in front of a value. -/
def checked (condition : Prop) [Decidable condition] (code value : Nat) : Except Revert Nat :=
  if condition then .ok value else .error (.panic code)

/-- `a + b`, reverting on overflow. -/
def checkedAdd (a b : Nat) : Except Revert Nat := checked (a + b < 2 ^ 256) 0x11 (a + b)

/-- `a - b`, reverting on underflow. -/
def checkedSub (a b : Nat) : Except Revert Nat := checked (b ≤ a) 0x11 (a - b)

/-- `a * b`, reverting on overflow. -/
def checkedMul (a b : Nat) : Except Revert Nat := checked (a * b < 2 ^ 256) 0x11 (a * b)

/-- `a / b`, reverting on a zero divisor. -/
def checkedDiv (a b : Nat) : Except Revert Nat := checked (b ≠ 0) 0x12 (a / b)

theorem checked_ok_iff {condition : Prop} [Decidable condition] {code value result : Nat} :
    checked condition code value = .ok result ↔ condition ∧ value = result := by
  unfold checked
  by_cases holds : condition
  · rw [if_pos holds, Except.ok.injEq]
    exact ⟨fun same => ⟨holds, same⟩, fun both => both.2⟩
  · rw [if_neg holds]
    exact ⟨fun same => (by cases same), fun both => absurd both.1 holds⟩

theorem checkedAdd_ok_iff {a b sum : Nat} :
    checkedAdd a b = .ok sum ↔ a + b < 2 ^ 256 ∧ a + b = sum :=
  checked_ok_iff

theorem checkedSub_ok_iff {a b difference : Nat} :
    checkedSub a b = .ok difference ↔ b ≤ a ∧ a - b = difference :=
  checked_ok_iff

theorem checkedMul_ok_iff {a b product : Nat} :
    checkedMul a b = .ok product ↔ a * b < 2 ^ 256 ∧ a * b = product :=
  checked_ok_iff

theorem checkedDiv_ok_iff {a b quotient : Nat} :
    checkedDiv a b = .ok quotient ↔ b ≠ 0 ∧ a / b = quotient :=
  checked_ok_iff

/-! ### Memory arrays -/

section Arrays

variable {α : Type}

/-- `new T[](length)`: solc refuses lengths of `2 ^ 64` and more; every slot is the default. -/
def newArray (length : Nat) (default : α) : Except Revert (List α) :=
  if length < 2 ^ 64 then .ok (List.replicate length default) else .error (.panic 0x41)

/-- `array[index]`, read. -/
def readArray (array : List α) (index : Nat) : Except Revert α :=
  match array[index]? with
  | some value => .ok value
  | none => .error (.panic 0x32)

/-- `array[index] = value`. -/
def writeArray (array : List α) (index : Nat) (value : α) : Except Revert (List α) :=
  if index < array.length then .ok (array.set index value) else .error (.panic 0x32)

theorem newArray_ok {length : Nat} (bounded : length < 2 ^ 64) (default : α) :
    newArray length default = .ok (List.replicate length default) :=
  if_pos bounded

theorem readArray_ok {array : List α} {index : Nat} {value : α} (found : array[index]? = some value) :
    readArray array index = .ok value := by
  unfold readArray
  rw [found]

theorem writeArray_ok {array : List α} {index : Nat} (inside : index < array.length) (value : α) :
    writeArray array index value = .ok (array.set index value) :=
  if_pos inside

/-- Writing the next slot of an array filled up to it. -/
theorem writeArray_filled (done : List α) (default value : α) (left : Nat) :
    writeArray (done ++ List.replicate (left + 1) default) done.length value =
      .ok ((done ++ [value]) ++ List.replicate left default) := by
  rw [writeArray_ok (by simp)]
  rw [List.set_append_right _ _ le_rfl, Nat.sub_self, List.replicate_succ, List.set_cons_zero,
    List.append_assoc, List.singleton_append]

end Arrays

/-! ### Counted loops -/

section Loops

variable {ε σ : Type}

/-- `for (uint256 i = start; i < start + count; i++) body`, over the memory the body changes. -/
def forRange (body : Nat → σ → Except ε σ) : Nat → Nat → σ → Except ε σ
  | _, 0, memory => .ok memory
  | start, count + 1, memory => body start memory >>= forRange body (start + 1) count

/-- **The loop rule.** An invariant that every iteration runs from and re-establishes for the next
index carries the loop to its end. -/
theorem forRange_ok {body : Nat → σ → Except ε σ} (inv : Nat → σ → Prop) :
    ∀ (count start : Nat) (memory : σ),
      (∀ index state, start ≤ index → index < start + count → inv index state →
        ∃ next, body index state = .ok next ∧ inv (index + 1) next) →
      inv start memory →
      ∃ final, forRange body start count memory = .ok final ∧ inv (start + count) final
  | 0, _, memory, _, holds => ⟨memory, rfl, holds⟩
  | count + 1, start, memory, step, holds => by
      obtain ⟨next, ran, holdsNext⟩ := step start memory le_rfl (by omega) holds
      obtain ⟨final, rest, holdsFinal⟩ := forRange_ok inv count (start + 1) next
        (fun index state low high => step index state (by omega) (by omega)) holdsNext
      refine ⟨final, ?_, ?_⟩
      · rw [forRange, ran, ok_bind, rest]
      · rwa [show start + (count + 1) = start + 1 + count by omega]

/-- A loop that runs to its end runs its first iteration. -/
theorem forRange_first {body : Nat → σ → Except ε σ} {start count : Nat} {memory final : σ}
    (some : 0 < count) (ran : forRange body start count memory = .ok final) :
    ∃ next, body start memory = .ok next := by
  cases count with
  | zero => cases some
  | succ left =>
      obtain ⟨next, first, _⟩ := ok_bind_iff.mp ran
      exact ⟨next, first⟩

/-- **The failure rule.** The iterations before `stop` keep the invariant, and the one at `stop`
reverts on whatever the invariant allows. -/
theorem forRange_error {body : Nat → σ → Except ε σ} (inv : Nat → σ → Prop) {reason : ε}
    {stop : Nat} :
    ∀ (count start : Nat) (memory : σ), start ≤ stop → stop < start + count →
      (∀ index state, start ≤ index → index < stop → inv index state →
        ∃ next, body index state = .ok next ∧ inv (index + 1) next) →
      (∀ state, inv stop state → body stop state = .error reason) →
      inv start memory →
      forRange body start count memory = .error reason
  | 0, start, _, low, high, _, _, _ => by omega
  | count + 1, start, memory, low, high, step, fails, holds => by
      rw [forRange]
      by_cases here : start = stop
      · subst here
        rw [fails memory holds, error_bind]
      · obtain ⟨next, ran, holdsNext⟩ := step start memory le_rfl (by omega) holds
        rw [ran, ok_bind]
        exact forRange_error inv count (start + 1) next (by omega) (by omega)
          (fun index state lower upper => step index state (by omega) upper) fails holdsNext

end Loops

end Solidity
