/-
**Amounts kept in units of an index.**

A holding is kept as a number of units, and is worth the units times an index that interest grows.
Both directions are rounded half up, so a transfer of an amount is right up to one.

* `divRound_le`, `le_divRound` — a rounded quotient is within one half.
* `Accrual.worth_sub`, `Accrual.worth_add` — **a transfer**: the sender loses no more than the amount
  and one, and the recipient gets the amount, or one less.
* `Accrual.unitsOf_le` — what a holding is worth can be transferred.
* `Accrual.worth_mono` — a holding is never worth less later.
-/

import Mathlib.Order.Monotone.Basic
import Mathlib.Tactic.Linarith

namespace FixedPoint

/-- `numerator / denominator`, rounded half up. -/
def divRound (numerator denominator : ℕ) : ℕ := (numerator + denominator / 2) / denominator

section Rounding

variable {numerator denominator : ℕ}

theorem divRound_le (numerator denominator : ℕ) :
    2 * (denominator * divRound numerator denominator) ≤ 2 * numerator + denominator := by
  have below := Nat.mul_div_le (numerator + denominator / 2) denominator
  change denominator * divRound numerator denominator ≤ _ at below
  omega

theorem le_divRound (numerator : ℕ) (positive : 0 < denominator) :
    2 * numerator ≤ 2 * (denominator * divRound numerator denominator) + denominator := by
  have above := Nat.lt_mul_div_succ (numerator + denominator / 2) positive
  change _ < denominator * (divRound numerator denominator + 1) at above
  rw [Nat.mul_add, Nat.mul_one] at above
  omega

theorem divRound_mono {more : ℕ} (ordered : numerator ≤ more) :
    divRound numerator denominator ≤ divRound more denominator :=
  Nat.div_le_div_right (Nat.add_le_add_right ordered _)

/-- A quotient without a remainder is not rounded. -/
theorem divRound_mul (value : ℕ) (positive : 0 < denominator) :
    divRound (value * denominator) denominator = value := by
  have half : denominator / 2 < denominator := Nat.div_lt_self positive one_lt_two
  rw [divRound, Nat.add_comm, Nat.add_mul_div_right _ _ positive, Nat.div_eq_of_lt half, Nat.zero_add]

end Rounding

/-- An index over a unit: it never falls, and it stays between one and two. -/
structure Accrual (unit : ℕ) where
  index : ℕ → ℕ
  mono : Monotone index
  unit_le : ∀ now, unit ≤ index now
  lt_two : ∀ now, index now < 2 * unit

namespace Accrual

variable {unit : ℕ}

/-- No interest. -/
def none (unit : ℕ) (positive : 0 < unit) : Accrual unit where
  index _ := unit
  mono := monotone_const
  unit_le _ := le_rfl
  lt_two _ := by omega

variable (accrual : Accrual unit) (now : ℕ)

/-- What a number of units is worth. -/
def worth (scaled : ℕ) : ℕ := divRound (scaled * accrual.index now) unit

/-- The units of an amount. -/
def unitsOf (amount : ℕ) : ℕ := divRound (amount * unit) (accrual.index now)

variable {now}

include accrual in
theorem unit_pos : 0 < unit := by
  have low := accrual.unit_le 0
  have high := accrual.lt_two 0
  omega

theorem index_pos (now : ℕ) : 0 < accrual.index now :=
  accrual.unit_pos.trans_le (accrual.unit_le now)

/-- **A holding is never worth less later.** -/
theorem worth_mono {later scaled more : ℕ} (ordered : now ≤ later) (grown : scaled ≤ more) :
    accrual.worth now scaled ≤ accrual.worth later more :=
  divRound_mono (Nat.mul_le_mul grown (accrual.mono ordered))

/-- A holding is worth its units, or more. -/
theorem le_worth (now scaled : ℕ) : scaled ≤ accrual.worth now scaled := by
  have grown : scaled * unit ≤ scaled * accrual.index now :=
    Nat.mul_le_mul_left _ (accrual.unit_le now)
  calc scaled = divRound (scaled * unit) unit := (divRound_mul scaled accrual.unit_pos).symm
    _ ≤ accrual.worth now scaled := divRound_mono grown

/-- **Who parts with the units of an amount** loses no more than the amount and one. -/
theorem worth_sub (now scaled amount : ℕ) : accrual.worth now scaled ≤
    accrual.worth now (scaled - accrual.unitsOf now amount) + (amount + 1) := by
  have before := divRound_le (scaled * accrual.index now) unit
  have after := le_divRound ((scaled - accrual.unitsOf now amount) * accrual.index now)
    accrual.unit_pos
  have moved := divRound_le (amount * unit) (accrual.index now)
  have parted : scaled * accrual.index now ≤ (scaled - accrual.unitsOf now amount +
      accrual.unitsOf now amount) * accrual.index now := Nat.mul_le_mul_right _ (by omega)
  have below := accrual.lt_two now
  by_contra more
  -- The three roundings make less than two units of the amount's.
  have gap := Nat.mul_le_mul_left unit (Nat.not_le.mp more)
  change 2 * (unit * accrual.worth now scaled) ≤ _ at before
  change _ ≤ 2 * (unit * accrual.worth now (scaled - accrual.unitsOf now amount)) + _ at after
  change 2 * (accrual.index now * accrual.unitsOf now amount) ≤ _ at moved
  simp only [Nat.succ_eq_add_one] at gap
  nlinarith only [before, after, moved, parted, below, gap]

/-- **Who gets them** gains the amount, or one less. -/
theorem worth_add (now scaled amount : ℕ) : accrual.worth now scaled + amount ≤
    accrual.worth now (scaled + accrual.unitsOf now amount) + 1 := by
  have before := divRound_le (scaled * accrual.index now) unit
  have after := le_divRound ((scaled + accrual.unitsOf now amount) * accrual.index now)
    accrual.unit_pos
  have moved := le_divRound (amount * unit) (accrual.index_pos now)
  have below := accrual.lt_two now
  by_contra less
  have gap := Nat.mul_le_mul_left unit (Nat.not_le.mp less)
  change 2 * (unit * accrual.worth now scaled) ≤ _ at before
  change _ ≤ 2 * (unit * accrual.worth now (scaled + accrual.unitsOf now amount)) + _ at after
  change _ ≤ 2 * (accrual.index now * accrual.unitsOf now amount) + _ at moved
  simp only [Nat.succ_eq_add_one] at gap
  nlinarith only [before, after, moved, below, gap]

/-- **What a holding is worth can be parted with.** -/
theorem unitsOf_le {scaled amount : ℕ} (enough : amount ≤ accrual.worth now scaled) :
    accrual.unitsOf now amount ≤ scaled := by
  have held := divRound_le (scaled * accrual.index now) unit
  have moved := divRound_le (amount * unit) (accrual.index now)
  change 2 * (unit * accrual.worth now scaled) ≤ _ at held
  change 2 * (accrual.index now * accrual.unitsOf now amount) ≤ _ at moved
  have covered := Nat.mul_le_mul_left unit enough
  rcases (accrual.unit_le now).eq_or_lt with same | grown
  · -- Without interest nothing is rounded.
    have exact : accrual.worth now scaled = scaled := by
      rw [worth, ← same, divRound_mul _ accrual.unit_pos]
    rw [unitsOf, ← same, divRound_mul _ accrual.unit_pos, ← exact]
    exact enough
  · by_contra more
    have gap := Nat.mul_le_mul_left (accrual.index now) (Nat.not_le.mp more)
    simp only [Nat.succ_eq_add_one] at gap
    nlinarith only [held, moved, covered, grown, gap]

end Accrual

/-! ### No interest -/

section None

variable {unit : ℕ} {positive : 0 < unit}

theorem worth_none (now scaled : ℕ) : (Accrual.none unit positive).worth now scaled = scaled :=
  divRound_mul scaled positive

theorem unitsOf_none (now amount : ℕ) : (Accrual.none unit positive).unitsOf now amount = amount :=
  divRound_mul amount positive

end None

end FixedPoint
