/-
Reserves that pay in tokens, and do what is assumed of tokens. Every token has an `Accrual`: what the
accounts hold is kept in units of its index, as an interest bearing token keeps it, and without interest
it is an ERC-20 token like any other.

* `fundedTokens_pays` — **every token pays up to one unit**, whatever its interest.
* `fundedTokens_exact` — a token without interest pays exactly.
* `fundedTokens_neverRefuses` — what a reserve holds it can pay.
-/

import AaveV2Payloads.Execution.Sides
import AaveV2Payloads.Library.FixedPoint
import AaveV2Payloads.Streams.Book
import AaveV2Payloads.Streams.Tokens

namespace AaveV2Payloads

open Solidity FixedPoint

/-! ### Reserves with holdings -/

/-- The precision of an index. -/
@[irreducible] def ray : ℕ := 10 ^ 27

/-- What the accounts hold, in units of the indices, and the time of the last payment. -/
structure Holdings where
  scaled : Balances
  clock : ℕ

/-- A book of reserves, and the holdings of all accounts. -/
abbrev FundedBook := ReserveBook × Holdings

section Funded

variable (accruals : Address → Accrual ray)

/-- `balanceOf` of the tokens: what the units are worth. -/
def Holdings.balances (holdings : Holdings) : Balances := fun token who =>
  (accruals token).worth holdings.clock (holdings.scaled token who)

/-- `transfer`, called by the sender in a block of a time: it moves the units of the amount. -/
def payOut (now : ℕ) (tokenAddress sender recipient : Address) (amount : ℕ) : Tx Holdings Unit :=
  fun holdings => do
    let clock := max holdings.clock now
    let units := (accruals tokenAddress).unitsOf clock amount
    require (recipient ≠ 0) "ERC20: transfer to the zero address"
    require (units ≤ holdings.scaled tokenAddress sender) "ERC20: transfer amount exceeds balance"
    return ((), ⟨holdings.scaled.transfer tokenAddress sender recipient units, clock⟩)

def fundedTokens : Tokens FundedBook where
  balanceOf state := state.2.balances accruals

/-- The reserves of a book pay in tokens. -/
def fundedReserves (fundsAdmin : Address) : Reserves FundedBook where
  getStream state := state.1.streams
  getNextStreamId state := state.1.nextStreamId
  getFundsAdmin _ _ := fundsAdmin
  log state := state.1.log
  balanceOf now key who state := state.1.balanceOf now key who
  withdrawFromStream caller now key amount state := do
    let stream ← state.1.authorized fundsAdmin caller key
    let (result, book) ← state.1.withdraw fundsAdmin caller now key amount
    let ((), holdings) ←
      payOut accruals now stream.tokenAddress key.1 stream.recipient amount state.2
    return (result, (book, holdings))
  cancelStream caller now key state := do
    let stream ← state.1.authorized fundsAdmin caller key
    let balance ← stream.recipientBalance now
    let (result, book) ← state.1.cancel fundsAdmin caller now key
    let ((), holdings) ←
      payOut accruals now stream.tokenAddress key.1 stream.recipient balance state.2
    return (result, (book, holdings))
  canTransfer state reserve tokenAddress recipient amount :=
    recipient ≠ 0 ∧ amount ≤ state.2.balances accruals tokenAddress reserve

/-- Their controller. -/
def fundedController (addresses : AddressBook) : ReserveController FundedBook where
  createStream caller now args := onFirst ((bookController addresses).createStream caller now args)

end Funded

section Transfers

variable {accruals : Address → Accrual ray} {fundsAdmin caller tokenAddress sender recipient : Address}
  {now amount : ℕ} {key : StreamKey} {before after : FundedBook} {holdings paid : Holdings}
  {result : Bool}

/-- A transfer that went through. -/
theorem payOut_ok_iff :
    payOut accruals now tokenAddress sender recipient amount holdings = .ok ((), paid) ↔
      (recipient ≠ 0 ∧ (accruals tokenAddress).unitsOf (max holdings.clock now) amount ≤
          holdings.scaled tokenAddress sender) ∧
        paid = ⟨holdings.scaled.transfer tokenAddress sender recipient
          ((accruals tokenAddress).unitsOf (max holdings.clock now) amount), max holdings.clock now⟩ := by
  unfold payOut
  by_cases nobody : recipient ≠ 0
  · by_cases enough : (accruals tokenAddress).unitsOf (max holdings.clock now) amount ≤
        holdings.scaled tokenAddress sender
    · simp only [require_true nobody, require_true enough, ok_bind]
      exact ⟨fun ran => ⟨⟨nobody, enough⟩, by cases ran; rfl⟩, fun same => by rw [same.2]; rfl⟩
    · simp only [require_true nobody, require_false enough, ok_bind]
      exact ⟨fun ran => (by cases ran), fun same => absurd same.1.2 enough⟩
  · rw [require_false nobody]
    exact ⟨fun ran => (by cases ran), fun same => absurd same.1.1 nobody⟩

/-- **What the sender holds it can pay.** -/
theorem payOut_ok (now : ℕ) (somebody : recipient ≠ 0)
    (enough : amount ≤ holdings.balances accruals tokenAddress sender) : ∃ paid,
      payOut accruals now tokenAddress sender recipient amount holdings = .ok ((), paid) := by
  have grown : amount ≤ (accruals tokenAddress).worth (max holdings.clock now)
      (holdings.scaled tokenAddress sender) :=
    enough.trans ((accruals tokenAddress).worth_mono (le_max_left _ _) le_rfl)
  exact ⟨_, payOut_ok_iff.mpr ⟨⟨somebody, (accruals tokenAddress).unitsOf_le grown⟩, rfl⟩⟩

/-- **Every transfer settles up to one unit**, and balances grow with the index. -/
theorem payOut_settles (token : Address)
    (ran : payOut accruals now tokenAddress sender recipient amount holdings = .ok ((), paid)) :
    Balances.Settles token 1 tokenAddress sender recipient amount (holdings.balances accruals)
      (paid.balances accruals) := by
  obtain ⟨_, same⟩ := payOut_ok_iff.mp ran
  obtain ⟨scaled, clock⟩ := holdings
  subst same
  unfold Holdings.balances
  dsimp only
  have later (who : Address) : (accruals token).worth clock (scaled token who) ≤
      (accruals token).worth (max clock now) (scaled token who) :=
    (accruals token).worth_mono (le_max_left _ _) le_rfl
  generalize max clock now = time at later ⊢
  refine ⟨fun who => ?_, fun here apart => ?_⟩
  · have moved := scaled.le_transfer tokenAddress sender recipient
      ((accruals tokenAddress).unitsOf time amount) token who
    by_cases payer : token = tokenAddress ∧ who = sender
    · obtain ⟨rfl, rfl⟩ := payer
      rw [if_pos ⟨rfl, rfl⟩] at moved ⊢
      have start := later who
      have parted := (accruals token).worth_sub time (scaled token who) amount
      have left := (accruals token).worth_mono (le_refl time) (Nat.sub_le_iff_le_add.mpr moved)
      omega
    · rw [if_neg payer, Nat.add_zero] at moved ⊢
      exact (later who).trans ((accruals token).worth_mono le_rfl moved)
  · subst here
    rw [Balances.transfer_recipient apart]
    exact (Nat.add_le_add_right (later recipient) amount).trans
      ((accruals token).worth_add time (scaled token recipient) amount)

/-- **Without interest it moves the amount.** -/
theorem payOut_transfers {token : Address} {positive : 0 < ray}
    (plain : accruals token = Accrual.none ray positive)
    (ran : payOut accruals now tokenAddress sender recipient amount holdings = .ok ((), paid)) :
    paid.balances accruals token = (holdings.balances accruals).transfer tokenAddress sender recipient
      amount token := by
  obtain ⟨_, same⟩ := payOut_ok_iff.mp ran
  have held (holdings : Holdings) : holdings.balances accruals token = holdings.scaled token := by
    funext who
    show (accruals token).worth _ _ = _
    rw [plain, worth_none]
  rw [held, same]
  by_cases here : token = tokenAddress
  · subst here
    show holdings.scaled.transfer token sender recipient _ token = _
    rw [plain, unitsOf_none, Balances.transfer, Balances.transfer, Function.update_self,
      Function.update_self, held]
  · rw [Balances.transfer_token here, held]
    exact Balances.transfer_token here

/-- A withdrawal is a withdrawal from the book, paid by a transfer. -/
theorem funded_withdraw
    (ran : (fundedReserves accruals fundsAdmin).withdrawFromStream caller now key amount before =
      .ok (result, after)) : ∃ stream, before.1.streams key = some stream ∧
      before.1.withdraw fundsAdmin caller now key amount = .ok (result, after.1) ∧
      payOut accruals now stream.tokenAddress key.1 stream.recipient amount before.2 =
        .ok ((), after.2) := by
  obtain ⟨stream, allowed, ran⟩ := ok_bind_iff.mp ran
  obtain ⟨⟨flag, book⟩, withdrawn, ran⟩ := ok_bind_iff.mp ran
  obtain ⟨⟨_, paid⟩, moved, ran⟩ := ok_bind_iff.mp ran
  cases ran
  exact ⟨stream, (ReserveBook.authorized_ok_iff.mp allowed).1, withdrawn, moved⟩

/-- So is a cancellation. -/
theorem funded_cancel
    (ran : (fundedReserves accruals fundsAdmin).cancelStream caller now key before =
      .ok (result, after)) : ∃ stream balance, before.1.streams key = some stream ∧
      stream.recipientBalance now = .ok balance ∧
      before.1.cancel fundsAdmin caller now key = .ok (result, after.1) ∧
      payOut accruals now stream.tokenAddress key.1 stream.recipient balance before.2 =
        .ok ((), after.2) := by
  obtain ⟨stream, allowed, ran⟩ := ok_bind_iff.mp ran
  obtain ⟨balance, computed, ran⟩ := ok_bind_iff.mp ran
  obtain ⟨⟨flag, book⟩, cancelled, ran⟩ := ok_bind_iff.mp ran
  obtain ⟨⟨_, paid⟩, moved, ran⟩ := ok_bind_iff.mp ran
  cases ran
  exact ⟨stream, balance, (ReserveBook.authorized_ok_iff.mp allowed).1, computed, cancelled, moved⟩

end Transfers

/-! ### What they document -/

section Documented

variable (accruals : Address → Accrual ray)

theorem fundedReserves_documented (fundsAdmin : Address) :
    (fundedReserves accruals fundsAdmin).Documented where
  balanceOf_recipient found := (bookReserves_documented fundsAdmin).balanceOf_recipient found
  balanceOf_sender found := (bookReserves_documented fundsAdmin).balanceOf_sender found
  withdraw_effect ran := by
    obtain ⟨_, _, withdrawn, _⟩ := funded_withdraw ran
    obtain ⟨stream, effect⟩ := (bookReserves_documented fundsAdmin).withdraw_effect withdrawn
    exact ⟨stream, ⟨effect.written, effect.others, effect.logged⟩, effect.found, effect.within,
      effect.next_after⟩
  withdraw_ok {caller now key amount before stream balance} found allowed positive computed enough
      funds := by
    obtain ⟨book, ran⟩ := (bookReserves_documented fundsAdmin).withdraw_ok found allowed positive
      computed enough trivial
    have authorized : before.1.authorized fundsAdmin caller key = .ok stream :=
      ReserveBook.authorized_ok_iff.mpr ⟨found, allowed⟩
    have withdrawn : before.1.withdraw fundsAdmin caller now key amount = .ok (true, book) := ran
    obtain ⟨paid, moved⟩ := payOut_ok now funds.1 funds.2
    refine ⟨(book, paid), ?_⟩
    simp only [fundedReserves, authorized, withdrawn, ok_bind, moved]
    rfl
  cancel_effect ran := by
    obtain ⟨_, _, _, _, cancelled, _⟩ := funded_cancel ran
    obtain ⟨stream, senderBalance, recipientBalance, effect⟩ :=
      (bookReserves_documented fundsAdmin).cancel_effect cancelled
    exact ⟨stream, senderBalance, recipientBalance, ⟨effect.written, effect.others, effect.logged⟩,
      effect.found, effect.sender_eq, effect.recipient_eq, effect.next_after⟩

theorem fundedController_documented (addresses : AddressBook) :
    (fundedController addresses).Documented (fundedReserves accruals addresses.collectorController)
      addresses where
  create_iff {caller now args before} known := by
    have created : (∃ streamId after, (bookController addresses).createStream caller now args before.1 =
        .ok (streamId, after)) ↔ _ := (bookController_documented addresses).create_iff known
    rw [← created]
    constructor
    · rintro ⟨streamId, after, ran⟩
      exact ⟨streamId, after.1, (onFirst_ok_iff.mp ran).1⟩
    · rintro ⟨streamId, after, ran⟩
      exact ⟨streamId, (after, before.2), onFirst_of_ok ran before.2⟩
  create_effect known ran := by
    have opened :=
      (bookController_documented addresses).create_effect known (onFirst_ok_iff.mp ran).1
    exact ⟨⟨opened.written, opened.others, opened.logged⟩, opened.next, opened.next_after⟩

theorem fundedReserves_refusesZero (fundsAdmin : Address) :
    (fundedReserves accruals fundsAdmin).RefusesZero := by
  intro caller now key before result after ran
  obtain ⟨_, _, withdrawn, _⟩ := funded_withdraw ran
  obtain ⟨stream, _, positive⟩ := ok_bind_iff.mp withdrawn
  rw [require_false (Nat.lt_irrefl 0)] at positive
  cases positive

/-- **Every token pays up to one unit.** -/
theorem fundedTokens_pays (addresses : AddressBook) (token : Address) :
    (fundedTokens accruals).Pays (fundedController addresses)
      (fundedReserves accruals addresses.collectorController) token 1 where
  create ran who := by
    show Holdings.balances accruals _ token who ≤ Holdings.balances accruals _ token who
    rw [(onFirst_ok_iff.mp ran).2]
  withdraw found ran := by
    obtain ⟨_, stored, _, moved⟩ := funded_withdraw ran
    cases stored.symm.trans found
    exact payOut_settles token moved
  cancel found computed ran := by
    obtain ⟨_, _, stored, released, _, moved⟩ := funded_cancel ran
    cases stored.symm.trans found
    cases released.symm.trans computed
    exact payOut_settles token moved

/-- **A token without interest pays exactly.** -/
theorem fundedTokens_exact (addresses : AddressBook) {token : Address} {positive : 0 < ray}
    (plain : accruals token = Accrual.none ray positive) :
    (fundedTokens accruals).Exact (fundedController addresses)
      (fundedReserves accruals addresses.collectorController) token where
  create ran := by
    show Holdings.balances accruals _ token = Holdings.balances accruals _ token
    rw [(onFirst_ok_iff.mp ran).2]
  withdraw found ran := by
    obtain ⟨_, stored, _, moved⟩ := funded_withdraw ran
    cases stored.symm.trans found
    exact payOut_transfers plain moved
  cancel found computed ran := by
    obtain ⟨_, _, stored, released, _, moved⟩ := funded_cancel ran
    cases stored.symm.trans found
    cases released.symm.trans computed
    exact payOut_transfers plain moved

theorem fundedTokens_neverRefuses (fundsAdmin token : Address) :
    (fundedTokens accruals).NeverRefuses (fundedReserves accruals fundsAdmin) token :=
  fun _ _ _ _ somebody enough => ⟨somebody, enough⟩

end Documented

/-! ### The tokens of the payments -/

theorem ray_pos : 0 < ray := by
  unfold ray
  decide

/-- aUSDC, which has grown by 8 percent and goes on growing; after a long time it stops. -/
def ausdcAccrual : Accrual ray where
  index now := min (ray + 8 * 10 ^ 25 + now * 10 ^ 15) (2 * ray - 1)
  mono first second ordered := by
    have grown := Nat.mul_le_mul_right (10 ^ 15) ordered
    dsimp only
    omega
  unit_le now := by
    have positive := ray_pos
    omega
  lt_two now := by
    have positive := ray_pos
    omega

/-- aUSDC earns interest, and the other tokens do not. -/
def mainnetAccruals (token : Address) : Accrual ray :=
  if token = mainnet.usdcAToken then ausdcAccrual else Accrual.none ray ray_pos

/-- No token does. -/
def plainAccruals (_token : Address) : Accrual ray := Accrual.none ray ray_pos

end AaveV2Payloads
