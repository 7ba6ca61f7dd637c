/-
**Whenever the recipient claims, it claims what was released.**

A claim reads the recipient's balance of a stream and withdraws all of it, as the tests of the
payment payloads do in their loops. From a reserve that is funded, in a token that is not paused, a list
of claims goes through exactly when something is released before each of them, and it pays what is
released until the last, whatever the times in between: exactly, or up to a slack for each claim.

* `claim_ok`, `claim_refused` — one claim.
* `claims_ok`, `claims_refused` — a list of claims, by induction on the list.
* `streams_claimed` — **claims on the streams of every run.**
-/

import AaveV2Payloads.Streams.Solvency
import AaveV2Payloads.Streams.Soundness

namespace AaveV2Payloads

open Solidity Vesting

variable {ρ : Type}

/-- `withdrawFromStream(id, balanceOf(id, recipient))`, called by the recipient. -/
def Reserves.claim (reserves : Reserves ρ) (recipient : Address) (key : StreamKey) (now : ℕ) :
    Tx ρ Unit := fun state => do
  let balance ← reserves.balanceOf now key recipient state
  let (_, after) ← reserves.withdrawFromStream recipient now key balance state
  return ((), after)

/-- What is released of a stream until a time. -/
def StreamArgs.released (args : StreamArgs) (now : ℕ) : ℕ :=
  args.ratePerSecond * args.secondsPassed now

/-- The events of withdrawals from a stream. -/
def withdrawals (key : StreamKey) (recipient : Address) (amounts : List ℕ) : EventLog :=
  amounts.map fun amount => (key.1, .withdrawFromStream key.2 recipient amount)

section Schedule

variable {args : StreamArgs} {now : ℕ}

theorem released_eq (valid : args.Valid) : args.released now = (args.schedule valid).accrued now := (accrued_eq valid).symm

theorem released_le (valid : args.Valid) : args.released now ≤ args.deposit := by
  rw [released_eq valid, ← schedule_total valid]
  exact (args.schedule valid).accrued_le_total now

/-- **The deposit is released at the stop time**, and not before. -/
theorem released_all_iff (valid : args.Valid) :
    args.released now = args.deposit ↔ args.stopTime ≤ now := by
  have rate : args.ratePerSecond * (args.stopTime - args.startTime) = args.deposit :=
    Nat.div_mul_cancel valid.deposit_dvd
  have positive : 0 < args.ratePerSecond := by
    refine Nat.pos_of_ne_zero fun zero => ?_
    rw [zero, Nat.zero_mul] at rate
    exact valid.deposit_pos.ne rate
  have ordered := valid.ordered
  rw [StreamArgs.released, ← rate, Nat.mul_right_inj positive.ne', StreamArgs.secondsPassed]
  omega

end Schedule

section Logs

variable {key : StreamKey} {recipient : Address} {amounts : List ℕ} {log : EventLog}

theorem paidOf_withdrawals : paidOf (log ++ withdrawals key recipient amounts) key =
    paidOf log key + amounts.sum := by
  induction amounts generalizing log with
  | nil => simp [withdrawals]
  | cons amount rest ih =>
      have about : eventKey (key.1, StreamEvent.withdrawFromStream key.2 recipient amount) = key := rfl
      have split : log ++ withdrawals key recipient (amount :: rest) =
          (log ++ [(key.1, .withdrawFromStream key.2 recipient amount)]) ++
            withdrawals key recipient rest := by simp [withdrawals]
      rw [split, ih, paidOf_append about, List.sum_cons, Nat.add_assoc]
      rfl

theorem wasCancelled_withdrawals :
    WasCancelled (log ++ withdrawals key recipient amounts) key ↔ WasCancelled log key := by
  refine ⟨?_, fun ⟨event, member, same⟩ => ⟨event, List.mem_append_left _ member, same⟩⟩
  rintro ⟨event, member, about, cancel⟩
  rcases List.mem_append.mp member with old | new
  · exact ⟨event, old, about, cancel⟩
  · obtain ⟨amount, _, rfl⟩ := List.mem_map.mp new
    cases cancel

end Logs

/-! ### One claim -/

section One

variable {controller : ReserveController ρ} {reserves : Reserves ρ} {tokens : Tokens ρ}
  {slack aside now : ℕ} {before after : ρ} {log : EventLog} {key : StreamKey} {args : StreamArgs}
  {valid : args.Valid} {stream : Stream}

/-- An uncancelled stream is gone exactly when it paid its deposit. -/
theorem Accounted.gone_iff (accounted : Accounted reserves now before log key args valid)
    (uncancelled : ¬ WasCancelled log key) :
    reserves.getStream before key = none ↔ paidOf log key = args.deposit := by
  have conserved := accounted.sound.conserved
  rw [schedule_total] at conserved
  change paidOf log key + heldOf reserves before log key = args.deposit at conserved
  cases stored : reserves.getStream before key with
  | none =>
      rw [heldOf_closed stored, keptOf_eq_zero uncancelled, Nat.add_zero] at conserved
      exact iff_of_true rfl conserved
  | some stream =>
      have some := accounted.remains stream stored
      rw [heldOf_open log stored] at conserved
      refine iff_of_false (fun none => (by cases none)) ?_
      omega

/-- The balance a claim reads. -/
theorem Accounted.balance (accounted : Accounted reserves now before log key args valid)
    (documented : reserves.Documented) (found : reserves.getStream before key = some stream) :
    reserves.balanceOf now key args.recipient before =
      .ok (args.released now - paidOf log key) := by
  have stored := accounted.stored stream found
  have recipient : stream.recipient = args.recipient := by rw [stored]; rfl
  have computed := recipientBalance_eq valid stored (accounted.sound_open found)
  rw [← recipient, documented.balanceOf_recipient found, computed, released_eq valid]
  rfl

/-- The state after a claim, or after several. -/
structure ClaimedTo (controller : ReserveController ρ) (reserves : Reserves ρ) (tokens : Tokens ρ)
    (slack aside : ℕ) (key : StreamKey) (args : StreamArgs) (amounts : List ℕ) (before after : ρ) :
    Prop where
  logged : reserves.log after = reserves.log before ++ withdrawals key args.recipient amounts
  received : tokens.balanceOf before args.tokenAddress args.recipient + amounts.sum ≤
    tokens.balanceOf after args.tokenAddress args.recipient + slack * amounts.length
  /-- An exact token moves the amounts. -/
  moved : tokens.Exact controller reserves args.tokenAddress →
    tokens.balanceOf after args.tokenAddress args.recipient =
      tokens.balanceOf before args.tokenAddress args.recipient + amounts.sum
  backed : Backed reserves tokens (key.1, args.tokenAddress) 0 aside after

/-- **Something released** is claimed. -/
theorem claim_ok (accounted : Accounted reserves now before log key args valid)
    (documented : reserves.Documented)
    (pays : tokens.Pays controller reserves args.tokenAddress slack)
    (willing : tokens.NeverRefuses reserves args.tokenAddress) (own : key.1 = args.collector)
    (backed : Backed reserves tokens (key.1, args.tokenAddress) 0 (slack + aside) before)
    (uncancelled : ¬ WasCancelled log key) (releasing : paidOf log key < args.released now) :
    ∃ after, reserves.claim args.recipient key now before = .ok ((), after) ∧
      ClaimedTo controller reserves tokens slack aside key args
        [args.released now - paidOf log key] before after ∧
      Accounted reserves now after
        (log ++ withdrawals key args.recipient [args.released now - paidOf log key]) key args valid := by
  cases found : reserves.getStream before key with
  | none =>
      have all := (accounted.gone_iff uncancelled).mp found
      exact absurd (released_le valid) (Nat.not_le.mpr (all ▸ releasing))
  | some stream =>
      have stored := accounted.stored stream found
      have recipient : stream.recipient = args.recipient := by rw [stored]; rfl
      have token : stream.tokenAddress = args.tokenAddress := by rw [stored]; rfl
      have balance := accounted.balance documented found
      have computed : stream.recipientBalance now = .ok (args.released now - paidOf log key) := by
        rw [← documented.balanceOf_recipient found, recipient, balance]
      have covered := backed
      rw [← token] at covered willing
      obtain ⟨after, ran⟩ := covered.withdraw_ok documented (willing before) found
        (Or.inl recipient.symm) (Nat.sub_pos_of_lt releasing) computed le_rfl
      obtain ⟨other, withdrawn⟩ := documented.withdraw_effect ran
      cases found.symm.trans withdrawn.found
      obtain ⟨same, payment⟩ := Payment.of_withdraw documented tokens controller ran
      cases found.symm.trans payment.found
      have settled := payment.settled pays
      have exactly (exact : tokens.Exact controller reserves args.tokenAddress) := payment.settled exact
      have inLog := withdrawn.logged
      have accountedAfter := accounted.withdrawn withdrawn
      rw [recipient] at inLog settled exactly accountedAfter
      rw [token, own] at settled exactly
      have set : Backed reserves tokens (key.1, args.tokenAddress) 0
          ((if key.1 = key.1 then slack else 0) + aside) before := by
        rw [if_pos rfl]
        exact backed
      refine ⟨after, ?_, ⟨inLog, ?_, fun exact => ?_, set.paid pays payment⟩, accountedAfter⟩
      · unfold Reserves.claim
        rw [balance, ok_bind, ran]
        rfl
      · rw [List.sum_singleton, List.length_singleton, Nat.mul_one]
        exact settled.received rfl valid.not_reserve
      · rw [exactly exact, Balances.transfer_recipient valid.not_reserve, List.sum_singleton]

/-- **When nothing was released**, a claim is refused. -/
theorem claim_refused (accounted : Accounted reserves now before log key args valid)
    (documented : reserves.Documented) (refuses : reserves.RefusesZero)
    (nothing : args.released now ≤ paidOf log key) :
    reserves.claim args.recipient key now before ≠ .ok ((), after) := by
  intro ran
  obtain ⟨balance, computed, ran⟩ := ok_bind_iff.mp ran
  obtain ⟨⟨result, next⟩, withdrew, _⟩ := ok_bind_iff.mp ran
  obtain ⟨stream, withdrawn⟩ := documented.withdraw_effect withdrew
  rw [accounted.balance documented withdrawn.found, Nat.sub_eq_zero_of_le nothing] at computed
  cases computed
  exact refuses withdrew

end One

/-! ### A list of claims -/

/-- The recipient claims at each of the times. -/
def Reserves.claims (reserves : Reserves ρ) (recipient : Address) (key : StreamKey)
    (times : List ℕ) : Tx ρ Unit := times.forM (reserves.claim recipient key)

section Many

variable {controller : ReserveController ρ} {reserves : Reserves ρ} {tokens : Tokens ρ}
  {slack : ℕ} {before after : ρ} {log : EventLog} {key : StreamKey} {args : StreamArgs}
  {valid : args.Valid}

theorem ClaimedTo.trans {first second : List ℕ} {earlier aside : ℕ} {middle : ρ}
    (early : ClaimedTo controller reserves tokens slack earlier key args first before middle)
    (late : ClaimedTo controller reserves tokens slack aside key args second middle after) :
    ClaimedTo controller reserves tokens slack aside key args (first ++ second) before after where
  logged := by
    rw [late.logged, early.logged, List.append_assoc]
    simp [withdrawals]
  received := by
    have first := early.received
    have second := late.received
    rw [List.sum_append, List.length_append, Nat.mul_add]
    omega
  moved exact := by rw [late.moved exact, early.moved exact, List.sum_append, Nat.add_assoc]
  backed := late.backed

/-- What is paid after a claim. -/
theorem paidOf_claimed {now : ℕ} (releasing : paidOf log key < args.released now) :
    paidOf (log ++ withdrawals key args.recipient [args.released now - paidOf log key]) key =
      args.released now := by
  rw [paidOf_withdrawals, List.sum_singleton, Nat.add_sub_cancel' releasing.le]

/-- A slack for each claim to come. -/
theorem Backed.nextClaim {rest aside : ℕ} {holding : Holding}
    (backed : Backed reserves tokens holding 0 (slack * (rest + 1) + aside) before) :
    Backed reserves tokens holding 0 (slack + (slack * rest + aside)) before := by
  rwa [Nat.mul_add, Nat.mul_one, Nat.add_comm (slack * rest), Nat.add_assoc] at backed

/-- **Claims before each of which something is released** go through. -/
theorem claims_ok (documented : reserves.Documented)
    (pays : tokens.Pays controller reserves args.tokenAddress slack)
    (willing : tokens.NeverRefuses reserves args.tokenAddress) (own : key.1 = args.collector)
    (aside : ℕ) (times : List ℕ) : ∀ {now : ℕ} {log : EventLog} {before : ρ},
      Chronological id now times → Accounted reserves now before log key args valid →
      Backed reserves tokens (key.1, args.tokenAddress) 0 (slack * times.length + aside) before →
      ¬ WasCancelled log key → Releasing args.released (paidOf log key) times →
        ∃ after, reserves.claims args.recipient key times before = .ok ((), after) ∧
          ClaimedTo controller reserves tokens slack aside key args
            (increments args.released (paidOf log key) times) before after ∧
          Accounted reserves (lastTime id now times) after (log ++ withdrawals key args.recipient
            (increments args.released (paidOf log key) times)) key args valid := by
  induction times with
  | nil =>
      intro now log before _ accounted backed _ _
      rw [List.length_nil, Nat.mul_zero, Nat.zero_add] at backed
      refine ⟨before, rfl, ⟨(List.append_nil _).symm, le_rfl, fun _ => rfl, backed⟩, ?_⟩
      rwa [increments, withdrawals, List.map_nil, List.append_nil]
  | cons time rest ih =>
      intro now log before ordered accounted backed uncancelled releasing
      have due : now ≤ time := ordered.1
      obtain ⟨middle, first, claimed, here⟩ := claim_ok (accounted.later due) documented pays willing
        own backed.nextClaim uncancelled releasing.1
      have paid : paidOf _ key = args.released time := paidOf_claimed releasing.1
      obtain ⟨after, others, claimedRest, there⟩ := ih ordered.2 here claimed.backed
        (wasCancelled_withdrawals.not.mpr uncancelled) (paid.symm ▸ releasing.2)
      rw [paid] at claimedRest there
      rw [List.append_assoc] at there
      exact ⟨after, (run_bind_of_ok first).trans others, claimed.trans claimedRest, there⟩

/-- **Other claims are refused.** -/
theorem claims_refused (documented : reserves.Documented)
    (pays : tokens.Pays controller reserves args.tokenAddress slack)
    (willing : tokens.NeverRefuses reserves args.tokenAddress) (refuses : reserves.RefusesZero)
    (own : key.1 = args.collector) (aside : ℕ) (times : List ℕ) :
    ∀ {now : ℕ} {log : EventLog} {before : ρ},
      Chronological id now times → Accounted reserves now before log key args valid →
      Backed reserves tokens (key.1, args.tokenAddress) 0 (slack * times.length + aside) before →
      ¬ WasCancelled log key → ¬ Releasing args.released (paidOf log key) times → ∀ after,
        reserves.claims args.recipient key times before ≠ .ok ((), after) := by
  induction times with
  | nil => exact fun _ _ _ _ nothing => absurd trivial nothing
  | cons time rest ih =>
      intro now log before ordered accounted backed uncancelled nothing after ran
      have due : now ≤ time := ordered.1
      obtain ⟨_, middle, ranFirst, others⟩ := run_bind_ok_iff.mp ran
      by_cases some : paidOf log key < args.released time
      · obtain ⟨next, first, claimed, here⟩ := claim_ok (accounted.later due) documented pays willing
          own backed.nextClaim uncancelled some
        cases ranFirst.symm.trans first
        refine ih ordered.2 here claimed.backed (wasCancelled_withdrawals.not.mpr uncancelled) ?_ _
          others
        rw [paidOf_claimed some]
        exact fun releasing => nothing ⟨some, releasing⟩
      · exact claim_refused (accounted.later due) documented refuses (Nat.le_of_not_lt some) ranFirst

end Many

/-! ### Runs -/

/-- **What holds of claims on a stream**, opened with `args`, at the times of a list. -/
structure ClaimsExact (controller : ReserveController ρ) (reserves : Reserves ρ) (tokens : Tokens ρ)
    (slack : ℕ) (state : ρ) (emitted : EventLog) (key : StreamKey) (args : StreamArgs)
    (times : List ℕ) : Prop where
  /-- They go through exactly when something is released before each. -/
  go_through_iff : (∃ after, reserves.claims args.recipient key times state = .ok ((), after)) ↔
    Releasing args.released (paidOf emitted key) times
  /-- Each claims what was released since the one before. -/
  logged : ∀ after, reserves.claims args.recipient key times state = .ok ((), after) →
    reserves.log after = reserves.log state ++ withdrawals key args.recipient
      (increments args.released (paidOf emitted key) times)
  /-- The recipient is paid all that is released at the last of the times, up to a slack for each claim, -/
  received : ∀ after, reserves.claims args.recipient key times state = .ok ((), after) →
    ∀ last, times.getLast? = some last →
      args.released last + tokens.balanceOf state args.tokenAddress args.recipient ≤
        paidOf emitted key + tokens.balanceOf after args.tokenAddress args.recipient +
          slack * times.length
  /-- exactly that, of an exact token, -/
  moved : tokens.Exact controller reserves args.tokenAddress →
    ∀ after, reserves.claims args.recipient key times state = .ok ((), after) →
      ∀ last, times.getLast? = some last →
        paidOf emitted key + tokens.balanceOf after args.tokenAddress args.recipient =
          args.released last + tokens.balanceOf state args.tokenAddress args.recipient
  /-- and the stream is over exactly when that is not before its stop time. -/
  over_iff : ∀ after, reserves.claims args.recipient key times state = .ok ((), after) →
    ∀ last, times.getLast? = some last →
      (reserves.getStream after key = none ↔ args.stopTime ≤ last)

/-- Claims on a stream with an account. -/
theorem Accounted.claimsExact {controller : ReserveController ρ} {reserves : Reserves ρ}
    {tokens : Tokens ρ} {slack aside now : ℕ} {state : ρ} {emitted : EventLog} {key : StreamKey}
    {args : StreamArgs} {valid : args.Valid}
    (accounted : Accounted reserves now state emitted key args valid)
    (documented : reserves.Documented)
    (pays : tokens.Pays controller reserves args.tokenAddress slack)
    (willing : tokens.NeverRefuses reserves args.tokenAddress) (refuses : reserves.RefusesZero)
    (own : key.1 = args.collector) {times : List ℕ} (ordered : Chronological id now times)
    (backed : Backed reserves tokens (key.1, args.tokenAddress) 0 (slack * times.length + aside) state)
    (uncancelled : ¬ WasCancelled emitted key) :
    ClaimsExact controller reserves tokens slack state emitted key args times := by
  have onlyReleasing : ∀ after, reserves.claims args.recipient key times state = .ok ((), after) →
      Releasing args.released (paidOf emitted key) times := by
    intro after ran
    by_contra nothing
    exact claims_refused documented pays willing refuses own aside times ordered accounted backed
      uncancelled nothing after ran
  have outcome : ∀ after, reserves.claims args.recipient key times state = .ok ((), after) →
      ClaimedTo controller reserves tokens slack aside key args
          (increments args.released (paidOf emitted key) times) state after ∧
        Accounted reserves (lastTime id now times) after (emitted ++ withdrawals key args.recipient
          (increments args.released (paidOf emitted key) times)) key args valid := by
    intro after ran
    obtain ⟨next, went, claimed, still⟩ := claims_ok documented pays willing own aside times ordered
      accounted backed uncancelled (onlyReleasing after ran)
    cases went.symm.trans ran
    exact ⟨claimed, still⟩
  have total : ∀ after, reserves.claims args.recipient key times state = .ok ((), after) →
      ∀ last, times.getLast? = some last → paidOf emitted key +
        (increments args.released (paidOf emitted key) times).sum = args.released last := by
    intro after ran last final
    rw [sum_increments (onlyReleasing after ran), final]
    rfl
  refine ⟨⟨fun ⟨after, ran⟩ => onlyReleasing after ran, fun releasing => ?_⟩,
    fun after ran => (outcome after ran).1.logged, fun after ran last final => ?_,
    fun exact after ran last final => ?_, fun after ran last final => ?_⟩
  · obtain ⟨after, went, _⟩ := claims_ok documented pays willing own aside times ordered accounted
      backed uncancelled releasing
    exact ⟨after, went⟩
  · have received := (outcome after ran).1.received
    have all := total after ran last final
    rw [length_increments] at received
    omega
  · rw [(outcome after ran).1.moved exact, ← total after ran last final]
    omega
  · rw [(outcome after ran).2.gone_iff (wasCancelled_withdrawals.not.mpr uncancelled),
      paidOf_withdrawals, total after ran last final, released_all_iff valid]

/-- **What holds of claims after a run**: on each stream of a reserve in a token that the run opened and
did not cancel, of no more claims than there are funds for. -/
def StreamsClaimed (controller : ReserveController ρ) (reserves : Reserves ρ) (tokens : Tokens ρ)
    (book : AddressBook) (holding : Holding) (slack rounds : ℕ) (initial : ρ)
    (events : List StreamStep) : Prop :=
  ∃ emitted, reserves.log (run (StreamStep.step controller reserves book) initial events) =
      reserves.log initial ++ emitted ∧
    ∀ event ∈ emitted, ∀ args, openedArgs event = some args →
      (args.collector, args.tokenAddress) = holding → ¬ WasCancelled emitted (eventKey event) →
        ∀ times, times.length ≤ rounds →
          Chronological id (lastTime StreamStep.timestamp 0 events) times →
            ClaimsExact controller reserves tokens slack
              (run (StreamStep.step controller reserves book) initial events) emitted (eventKey event)
              args times

/-- **Claims on the streams of every run.** -/
theorem streams_claimed (controller : ReserveController ρ) (reserves : Reserves ρ)
    (tokens : Tokens ρ) (book : AddressBook) (documentedReserves : reserves.Documented)
    (documented : controller.Documented reserves book) (refuses : reserves.RefusesZero)
    (apart : book.RecipientApart) (holding : Holding) (slack rounds : ℕ)
    (pays : tokens.Pays controller reserves holding.2 slack)
    (willing : tokens.NeverRefuses reserves holding.2) (initial : ρ) (events : List StreamStep)
    (ordered : Chronological StreamStep.timestamp 0 events)
    (inTime : ∀ event ∈ events, event.timestamp + days 360 < 2 ^ 256)
    (backed : Backed reserves tokens holding 0
      ((events.map (StreamStep.cost book slack holding)).sum + slack * rounds) initial) :
    StreamsClaimed controller reserves tokens book holding slack rounds initial events := by
  obtain ⟨emitted, logged, tracked⟩ := tracked_run documentedReserves documented apart
    backed.unused ordered inTime le_rfl
  have still := backed_run documentedReserves documented pays apart inTime backed
  refine ⟨emitted, logged, fun event member args opened here uncancelled times few later => ?_⟩
  obtain ⟨_, valid, accounted⟩ := tracked.accounted event member args opened
  have own : (eventKey event).1 = args.collector := by
    obtain ⟨reserve, kind⟩ := event
    cases kind <;> cases opened
    rfl
  have enough : slack * times.length + slack * (rounds - times.length) = slack * rounds := by
    rw [← Nat.mul_add, Nat.add_sub_cancel' few]
  subst here
  rw [← enough, ← own] at still
  exact accounted.claimsExact documentedReserves pays willing refuses own later still uncancelled

/-- Claims of aUSDC, five of them, after the run and from the funds of its start. -/
theorem streams_claimed_book : StreamsClaimed (fundedController mainnet)
    (fundedReserves mainnetAccruals mainnet.collectorController) (fundedTokens mainnetAccruals) mainnet
    (mainnet.collector, mainnet.usdcAToken) 1 5 (fundedStart 5) fundedRun :=
  streams_claimed (fundedController mainnet) (fundedReserves mainnetAccruals mainnet.collectorController)
    (fundedTokens mainnetAccruals) mainnet (fundedReserves_documented _ _)
    (fundedController_documented _ mainnet) (fundedReserves_refusesZero _ _)
    ⟨by decide, by decide, by decide⟩ (mainnet.collector, mainnet.usdcAToken) 1 5
    (fundedTokens_pays _ mainnet _) (fundedTokens_neverRefuses _ _ _)
    (fundedStart 5) fundedRun
    ⟨by decide, by decide, by decide, by decide, trivial⟩ (by decide)
    (fundedStart_backed _ _ le_rfl)

end AaveV2Payloads
