/-
The tokens the streams are paid in. Tokens are outside the repository, and the payloads pay in two
kinds: a token like AAVE moves exactly the amount of a transfer, while the balances of an interest
bearing one like aUSDC grow with time, a transfer of it is right up to one unit, and it can be paused.
So what is said of balances is said under an assumption on the token: `Tokens.Pays` (up to a slack, and
a balance may grow), `Tokens.Exact`, and on whether it lets a reserve pay, `Tokens.Open` and
`Tokens.NeverRefuses`.
-/

import AaveV2Payloads.Streams.Reserve
import Mathlib.Logic.Function.Basic

namespace AaveV2Payloads

open Solidity

variable {ρ : Type}

/-! ### Balances -/

/-- What every account holds of every token. -/
abbrev Balances := Address → Address → ℕ

namespace Balances

variable (balances : Balances) (tokenAddress sender recipient : Address) (amount : ℕ)

/-- The balances of one token after a transfer: `_transfer` of an ERC-20 token. -/
def moved (held : Address → ℕ) : Address → ℕ :=
  let taken := Function.update held sender (held sender - amount)
  Function.update taken recipient (taken recipient + amount)

/-- The balances after a transfer. -/
def transfer : Balances :=
  Function.update balances tokenAddress (moved sender recipient amount (balances tokenAddress))

variable {balances tokenAddress sender recipient amount}

/-- Other tokens stay where they are. -/
theorem transfer_token {token : Address} (other : token ≠ tokenAddress) :
    balances.transfer tokenAddress sender recipient amount token = balances token :=
  Function.update_of_ne other _ _

/-- The balances of a token after a transfer depend on those before it. -/
theorem transfer_congr {other : Balances} {token : Address} (same : balances token = other token) :
    balances.transfer tokenAddress sender recipient amount token =
      other.transfer tokenAddress sender recipient amount token := by
  by_cases here : token = tokenAddress
  · subst here
    rw [transfer, transfer, Function.update_self, Function.update_self, same]
  · rw [transfer_token here, transfer_token here, same]

/-- Nobody but the sender loses anything, and the sender no more than the amount. -/
theorem le_transfer (balances : Balances) (tokenAddress sender recipient : Address) (amount : ℕ)
    (token who : Address) : balances token who ≤
      balances.transfer tokenAddress sender recipient amount token who +
        if token = tokenAddress ∧ who = sender then amount else 0 := by
  by_cases here : token = tokenAddress
  · subst here
    rw [transfer, Function.update_self, moved]
    by_cases payer : who = sender
    · subst payer
      by_cases self : who = recipient
      · simp [self]
        omega
      · simp [Function.update_of_ne self]
        omega
    · by_cases payee : who = recipient
      · simp [payee, payee ▸ payer]
      · simp [Function.update_of_ne payee, Function.update_of_ne payer]
  · rw [transfer_token here]
    exact Nat.le_add_right _ _

/-- The recipient gets the amount. -/
theorem transfer_recipient (apart : recipient ≠ sender) :
    balances.transfer tokenAddress sender recipient amount tokenAddress recipient =
      balances tokenAddress recipient + amount := by
  simp [transfer, moved, Function.update_of_ne apart]

/-- **A payment of one token, up to a slack**: the sender loses no more than the amount and the slack
and nobody else loses anything, and the recipient gets the amount but for the slack. Every balance may
grow besides. -/
structure Settles (token : Address) (slack : ℕ) (tokenAddress sender recipient : Address)
    (amount : ℕ) (before after : Balances) : Prop where
  kept : ∀ who, before token who ≤ after token who +
    if token = tokenAddress ∧ who = sender then amount + slack else 0
  received : token = tokenAddress → recipient ≠ sender →
    before token recipient + amount ≤ after token recipient + slack

/-- A transfer settles without a slack, and so with any. -/
theorem settles_transfer {token : Address} {slack : ℕ} {after : Balances}
    (same : after token = balances.transfer tokenAddress sender recipient amount token) :
    Settles token slack tokenAddress sender recipient amount balances after where
  kept who := by
    have transferred := le_transfer balances tokenAddress sender recipient amount token who
    rw [same]
    split_ifs at transferred ⊢ <;> omega
  received here apart := by
    subst here
    rw [same, transfer_recipient apart]
    exact Nat.le_add_right _ _

end Balances

/-! ### The interface -/

/-- `IERC20.balanceOf` of all tokens, as of the last block of a state. -/
structure Tokens (ρ : Type) where
  balanceOf : ρ → Balances

namespace Tokens

variable (tokens : Tokens ρ) (controller : ReserveController ρ) (reserves : Reserves ρ)

/-- What the calls do to the balances: `idle` when they open a stream, and `paid`, with the token, the
reserve, the recipient and the amount, when they pay one. -/
structure Obeys (idle : Balances → Balances → Prop)
    (paid : Address → Address → Address → ℕ → Balances → Balances → Prop) : Prop where
  create : ∀ {caller now args before streamId after},
    controller.createStream caller now args before = .ok (streamId, after) →
      idle (tokens.balanceOf before) (tokens.balanceOf after)
  withdraw : ∀ {caller now key amount before stream result after},
    reserves.getStream before key = some stream →
      reserves.withdrawFromStream caller now key amount before = .ok (result, after) →
        paid stream.tokenAddress key.1 stream.recipient amount (tokens.balanceOf before)
          (tokens.balanceOf after)
  cancel : ∀ {caller now key before stream balance result after},
    reserves.getStream before key = some stream → stream.recipientBalance now = .ok balance →
      reserves.cancelStream caller now key before = .ok (result, after) →
        paid stream.tokenAddress key.1 stream.recipient balance (tokens.balanceOf before)
          (tokens.balanceOf after)

/-- **The token pays up to a slack**, and no balance of it shrinks otherwise. Nothing is assumed of
what grows, nor of what it refuses. -/
def Pays (token : Address) (slack : ℕ) : Prop :=
  tokens.Obeys controller reserves (fun before after => ∀ who, before token who ≤ after token who)
    (Balances.Settles token slack)

/-- **The token pays exactly**: it moves the amounts of the payments, and nothing else. -/
def Exact (token : Address) : Prop :=
  tokens.Obeys controller reserves (fun before after => after token = before token)
    fun tokenAddress sender recipient amount before after =>
      after token = before.transfer tokenAddress sender recipient amount token

/-- The token lets every reserve pay what it holds, in a state: it is not paused. -/
def Open (token : Address) (state : ρ) : Prop :=
  ∀ {reserve recipient amount}, recipient ≠ 0 → amount ≤ tokens.balanceOf state token reserve →
    reserves.canTransfer state reserve token recipient amount

/-- It does in every state. -/
def NeverRefuses (token : Address) : Prop := ∀ state, tokens.Open reserves token state

variable {tokens controller reserves} {token : Address}

/-- What is said of the balances can be weakened. -/
theorem Obeys.mono {idle weakIdle : Balances → Balances → Prop}
    {paid weakPaid : Address → Address → Address → ℕ → Balances → Balances → Prop}
    (obeys : tokens.Obeys controller reserves idle paid)
    (ofIdle : ∀ {before after}, idle before after → weakIdle before after)
    (ofPaid : ∀ {tokenAddress sender recipient amount before after},
      paid tokenAddress sender recipient amount before after →
        weakPaid tokenAddress sender recipient amount before after) :
    tokens.Obeys controller reserves weakIdle weakPaid where
  create ran := ofIdle (obeys.create ran)
  withdraw found ran := ofPaid (obeys.withdraw found ran)
  cancel found computed ran := ofPaid (obeys.cancel found computed ran)

/-- **An exact token pays up to any slack.** -/
theorem Exact.pays (exact : tokens.Exact controller reserves token) (slack : ℕ) :
    tokens.Pays controller reserves token slack :=
  exact.mono (fun same who => (congrFun same who).ge) fun same => Balances.settles_transfer same

end Tokens

end AaveV2Payloads
