/-
**Linear vesting.**

A `Schedule` releases a total at a constant rate between two times; an `Account` splits the total
into what the beneficiary was paid and what is held back.

* `accrued_mono`, `accrued_le_total`, `accrued_before`, `accrued_after` — the released amount grows
  from nothing before the start to the total from the stop on.
* `Sound.paid` — **the invariant**: paying out of what is due keeps the two parts adding up to the
  total and the paid part covered by what was released; so does the passing of time.
* `Sound.due_le_held` — what is due is there to be paid.
* `Sound.due_after` — from the stop on, what is held is what is due.
* `sum_increments` — **telescoping**: what is claimed at the times of a list depends on the last only.
-/

import Mathlib.Algebra.Order.Monoid.Unbundled.Pow
import Mathlib.Algebra.Order.Sub.Basic
import Mathlib.Algebra.Order.Sub.Unbundled.Basic

set_option linter.unusedSectionVars false

namespace Vesting

/-- `rate` for every unit of time between `start` and `stop`. -/
structure Schedule (α : Type) where
  rate : α
  start : ℕ
  stop : ℕ
  ordered : start < stop

/-- What was paid, and what is held. -/
@[ext] structure Account (α : Type) where
  paid : α
  held : α

variable {α : Type} [AddCommMonoid α]

namespace Schedule

variable (schedule : Schedule α)

def duration : ℕ := schedule.stop - schedule.start

/-- The time of the schedule that has passed: none before its start, all of it from its stop. -/
def elapsed (now : ℕ) : ℕ := min (now - schedule.start) schedule.duration

/-- The amount released until now. -/
def accrued (now : ℕ) : α := schedule.elapsed now • schedule.rate

/-- The amount released in all. -/
def total : α := schedule.duration • schedule.rate

theorem elapsed_mono {now later : ℕ} (ordered : now ≤ later) :
    schedule.elapsed now ≤ schedule.elapsed later :=
  min_le_min (Nat.sub_le_sub_right ordered _) le_rfl

/-- **Nothing is released before the start.** -/
theorem accrued_before {now : ℕ} (early : now ≤ schedule.start) : schedule.accrued now = 0 := by
  rw [accrued, elapsed, Nat.sub_eq_zero_of_le early, Nat.zero_min, zero_nsmul]

/-- **Everything is released from the stop on.** -/
theorem accrued_after {now : ℕ} (late : schedule.stop ≤ now) :
    schedule.accrued now = schedule.total := by
  have whole : schedule.duration ≤ now - schedule.start := Nat.sub_le_sub_right late _
  rw [accrued, elapsed, min_eq_right whole, total]

variable [PartialOrder α] [IsOrderedCancelAddMonoid α] [CanonicallyOrderedAdd α]

theorem accrued_mono {now later : ℕ} (ordered : now ≤ later) :
    schedule.accrued now ≤ schedule.accrued later :=
  nsmul_le_nsmul_left zero_le (schedule.elapsed_mono ordered)

theorem accrued_le_total (now : ℕ) : schedule.accrued now ≤ schedule.total :=
  nsmul_le_nsmul_left zero_le (min_le_right _ _)

end Schedule

/-- What is released and not paid yet. -/
def Account.due [Sub α] (account : Account α) (schedule : Schedule α) (now : ℕ) : α :=
  schedule.accrued now - account.paid

/-- An account after a payment. -/
def Account.pay [Sub α] (account : Account α) (amount : α) : Account α :=
  ⟨account.paid + amount, account.held - amount⟩

variable [PartialOrder α] [IsOrderedCancelAddMonoid α] [CanonicallyOrderedAdd α]
  {schedule : Schedule α} {account : Account α} {now : ℕ}

/-- Nothing is lost, and nothing is paid ahead of time. -/
structure Sound (schedule : Schedule α) (now : ℕ) (account : Account α) : Prop where
  conserved : account.paid + account.held = schedule.total
  covered : account.paid ≤ schedule.accrued now

namespace Sound

/-- A fresh account. -/
theorem fresh (schedule : Schedule α) (now : ℕ) : Sound schedule now ⟨0, schedule.total⟩ where
  conserved := zero_add _
  covered := zero_le

theorem later {next : ℕ} (sound : Sound schedule now account) (ordered : now ≤ next) :
    Sound schedule next account where
  conserved := sound.conserved
  covered := sound.covered.trans (schedule.accrued_mono ordered)

/-- **Nothing was paid before the start.** -/
theorem unpaid_before (sound : Sound schedule now account) (early : now ≤ schedule.start) :
    account.paid = 0 :=
  nonpos_iff_eq_zero.mp (schedule.accrued_before early ▸ sound.covered)

variable [Sub α] [OrderedSub α]

theorem due_le_held (sound : Sound schedule now account) :
    account.due schedule now ≤ account.held :=
  tsub_le_iff_left.mpr (sound.conserved ▸ schedule.accrued_le_total now)

/-- **Paying what is due, or a part of it.** -/
theorem paid {amount : α} (sound : Sound schedule now account)
    (enough : amount ≤ account.due schedule now) : Sound schedule now (account.pay amount) where
  conserved := by
    have inside : amount ≤ account.held := enough.trans sound.due_le_held
    show account.paid + amount + (account.held - amount) = _
    rw [add_assoc, add_tsub_cancel_of_le inside, sound.conserved]
  covered := by
    calc account.paid + amount ≤ account.paid + account.due schedule now := by gcongr
      _ = schedule.accrued now := add_tsub_cancel_of_le sound.covered

/-- **From the stop on, all that is held is due.** -/
theorem due_after (sound : Sound schedule now account) (late : schedule.stop ≤ now) :
    account.due schedule now = account.held := by
  rw [Account.due, schedule.accrued_after late, ← sound.conserved, add_tsub_cancel_left]

end Sound

/-! ### Claims at the times of a list -/

section Claims

variable {τ : Type} (released : τ → α)

/-- What is released between the times of a list, the first time counted from what was paid. -/
def increments [Sub α] : α → List τ → List α
  | _, [] => []
  | paid, time :: rest => (released time - paid) :: increments (released time) rest

/-- One for each time. -/
theorem length_increments [Sub α] {times : List τ} : ∀ {paid : α},
    (increments released paid times).length = times.length := by
  induction times with
  | nil => exact rfl
  | cons time rest ih => exact congrArg (· + 1) ih

/-- Something is released before each of the times. -/
def Releasing : α → List τ → Prop
  | _, [] => True
  | paid, time :: rest => paid < released time ∧ Releasing (released time) rest

variable [Sub α] [OrderedSub α] {released}

/-- **Telescoping.** -/
theorem sum_increments {times : List τ} : ∀ {paid : α}, Releasing released paid times →
    paid + (increments released paid times).sum = (times.getLast?.map released).getD paid := by
  induction times with
  | nil => exact fun _ => add_zero _
  | cons time rest ih =>
      intro paid releasing
      have others := ih releasing.2
      rw [increments, List.sum_cons, ← add_assoc, add_tsub_cancel_of_le releasing.1.le, others,
        List.getLast?_cons]
      cases rest.getLast? with
      | none => rfl
      | some last => rfl

end Claims

end Vesting
