import TokenRouter.ForStd.Run
import TokenRouter.Spec.SessionOpen

/-!
# Money conservation of a billing session

A session that was opened by `NewBillingSession` debits its funding source and its
token by one and the same amount at any time: the pre-consumed quota while it is
open, the settled quota once it is settled, nothing once it is refunded. The one call
that breaks this is `Settle` on a refunded session: unlike `Reserve` it does not look
at `refunded` and debits the difference to the quota that was given back.

## Key results

- `step_runInv`: one call keeps the invariant unless it settles a refunded session
- `billing_session_conserved`: conservation over every run of such calls
-/

namespace TokenRouter

/-! ## The machine -/

/-- A session, the goroutine of its `Refund` if that has not run yet, and the quota of
    the call that settled it. -/
structure BillingRun where
  st : SessionState
  pending : Option RefundTask := none
  settledAt : Option Int := none

/-- The calls on a session and the moment the goroutine runs. -/
inductive BillingEvent where
  | reserve (targetQuota : Int)
  | settle (actualQuota : Nat)
  | refund
  | runRefund

namespace BillingRun

/-- Run the goroutine of `Refund` to completion. -/
def complete (r : BillingRun) : QuotaDB :=
  match r.pending with
  | none => r.st.db
  | some task => task.run r.st.db

/-- One call. -/
def step (env : BillingEnv) (r : BillingRun) : BillingEvent → BillingRun
  | .reserve targetQuota => { r with st := (r.st.reserve env targetQuota).2 }
  | .settle actualQuota =>
    let st := (r.st.settle actualQuota).2
    { r with
      st := st
      settledAt :=
        if r.st.session.settled then r.settledAt
        else if st.session.settled then some (actualQuota : Int)
        else none }
  | .refund =>
    { r with
      st := r.st.refund.1
      pending := match r.st.refund.2 with
        | some task => some task
        | none => r.pending }
  | .runRefund => { r with st := { r.st with db := r.complete }, pending := none }

/-- What the session should have cost by now. -/
def expected (r : BillingRun) : Int :=
  if r.st.session.refunded then 0 else r.settledAt.getD r.st.session.preConsumedQuota

end BillingRun

/-- Once the goroutine of `Refund` has run, the funding source is debited by exactly the
    expected amount, and so is the token unless the request is from the playground. -/
def Conserved (db₀ : QuotaDB) (r : BillingRun) : Prop :=
  fundingDebit db₀ r.complete r.st.session.funding = r.expected ∧
    tokenDebit db₀ r.complete r.st.info.tokenId =
      if r.st.info.isPlayground then 0 else r.expected

/-- No call settles a refunded session at another quota than the one given back. -/
def NoLateSettle (r : BillingRun) : BillingEvent → Prop
  | .settle actualQuota => r.st.session.refunded = true → r.st.session.settled = false →
      (actualQuota : Int) = r.st.session.preConsumedQuota
  | _ => True

instance (r : BillingRun) (e : BillingEvent) : Decidable (NoLateSettle r e) :=
  match e with
  | .settle actualQuota => inferInstanceAs (Decidable (r.st.session.refunded = true →
      r.st.session.settled = false → (actualQuota : Int) = r.st.session.preConsumedQuota))
  | .reserve _ | .refund | .runRefund => inferInstanceAs (Decidable True)

/-- What every run keeps: a live session costs what is expected of it, a refunded one
    costs what it pre-consumed until the goroutine has run and nothing afterwards. -/
inductive RunInv (db₀ : QuotaDB) (r : BillingRun) : Prop where
  | live (hcounts : SessionCounts r.st.info r.st.session)
      (hrefunded : r.st.session.refunded = false) (hpending : r.pending = none)
      (hsettled : r.st.session.settled = r.settledAt.isSome)
      (hrec : RecordIs r.st.db false r.st.session.funding)
      (hdeb : Debited db₀ r.st.info r.st.session.funding r.st.db r.expected r.expected)
  | refunding (hcounts : SessionCounts r.st.info r.st.session)
      (hrefunded : r.st.session.refunded = true) (hpending : r.pending = some r.st.refundTask)
      (hrec : RecordIs r.st.db false r.st.session.funding)
      (hdeb : Debited db₀ r.st.info r.st.session.funding r.st.db
        r.st.session.preConsumedQuota r.st.session.preConsumedQuota)
  | refunded (hcounts : SessionCounts r.st.info r.st.session)
      (hrefunded : r.st.session.refunded = true) (hpending : r.pending = none)
      (hdeb : Debited db₀ r.st.info r.st.session.funding r.st.db 0 0)

/-- The invariant is what conservation needs. -/
theorem RunInv.conserved {db₀ : QuotaDB} {r : BillingRun} (h : RunInv db₀ r) :
    Conserved db₀ r := by
  cases h with
  | live hcounts hrefunded hpending hsettled hrec hdeb =>
    simp only [Conserved, BillingRun.complete, hpending]
    exact ⟨hdeb.funding_eq, hdeb.token_eq⟩
  | refunding hcounts hrefunded hpending hrec hdeb =>
    have hdone := refundTask_debited hcounts hrec hdeb
    simp only [Conserved, BillingRun.complete, BillingRun.expected, hpending, hrefunded, if_true]
    exact ⟨hdone.funding_eq, hdone.token_eq⟩
  | refunded hcounts hrefunded hpending hdeb =>
    simp only [Conserved, BillingRun.complete, BillingRun.expected, hpending, hrefunded, if_true]
    exact ⟨hdeb.funding_eq, hdeb.token_eq⟩

/-! ## One call -/

/-- One call on an open session. -/
theorem step_open (env : BillingEnv) {db₀ : QuotaDB} {r : BillingRun} (e : BillingEvent)
    (hcounts : SessionCounts r.st.info r.st.session) (hrefunded : r.st.session.refunded = false)
    (hpending : r.pending = none) (hs : r.st.session.settled = false) (hnone : r.settledAt = none)
    (hrec : RecordIs r.st.db false r.st.session.funding)
    (hdeb : Debited db₀ r.st.info r.st.session.funding r.st.db
      r.st.session.preConsumedQuota r.st.session.preConsumedQuota) :
    RunInv db₀ (r.step env e) := by
  have hexp : r.expected = r.st.session.preConsumedQuota := by
    simp [BillingRun.expected, hrefunded, hnone]
  have hsame : RunInv db₀ r :=
    .live hcounts hrefunded hpending (by rw [hs, hnone]; rfl) hrec (by rw [hexp]; exact hdeb)
  cases e with
  | reserve targetQuota =>
    obtain ⟨hcounts', hrec', hdeb', href', hset'⟩ := reserve_open env hcounts hrec hdeb targetQuota
    refine .live hcounts' (href'.trans hrefunded) hpending ?_ hrec' ?_
    · simp only [BillingRun.step, hnone]
      exact hset'.trans hs
    · simp only [BillingRun.expected, BillingRun.step, href', hrefunded, hnone,
        Bool.false_eq_true, if_false, Option.getD_none]
      exact hdeb'
  | settle actualQuota =>
    rcases settle_open hcounts hrec hs hdeb (fun _ => Int.natCast_nonneg actualQuota) with
      ⟨-, hst⟩ | ⟨-, db', info', fs, hst, hplay, htok, hsub, hfinal, hrec', hdeb'⟩
    · have hstep : r.step env (.settle actualQuota) = r := by
        simp [BillingRun.step, hst, hs]
        rw [← hnone]
      rw [hstep]
      exact hsame
    · refine .live ?_ ?_ hpending ?_ ?_ ?_
      · simp only [BillingRun.step, hst]
        exact (hcounts.info hsub hfinal).flags fun _ => rfl
      · simp only [BillingRun.step, hst]
        exact hrefunded
      · simp [BillingRun.step, hst, hs]
      · simp only [BillingRun.step, hst]
        exact hrec'
      · simp only [BillingRun.expected, BillingRun.step, hst, hs, hrefunded,
          Bool.false_eq_true, if_false, if_true, Option.getD_some]
        exact hdeb'.info hplay htok
  | refund =>
    cases hneeds : r.st.session.needsRefund with
    | false =>
      have hstep : r.step env .refund = r := by
        simp [BillingRun.step, SessionState.refund, hneeds]
      rw [hstep]
      exact hsame
    | true =>
      have hstep : r.step env .refund = { r with
          st := { r.st with session := { r.st.session with refunded := true } }
          pending := some r.st.refundTask } := by
        simp [BillingRun.step, SessionState.refund, hneeds, hs, hrefunded]
      rw [hstep]
      exact .refunding (hcounts.flags hcounts.committed) rfl rfl hrec hdeb
  | runRefund =>
    have hstep : r.step env .runRefund = r := by
      simp [BillingRun.step, BillingRun.complete, hpending]
      rw [← hpending]
    rw [hstep]
    exact hsame

/-- A settled session answers every call with nothing. -/
theorem step_settled (env : BillingEnv) {r : BillingRun} (e : BillingEvent)
    (hpending : r.pending = none) (hs : r.st.session.settled = true) : r.step env e = r := by
  cases e with
  | reserve targetQuota => simp [BillingRun.step, SessionState.reserve, hs]
  | settle actualQuota => simp [BillingRun.step, SessionState.settle, hs]
  | refund => simp [BillingRun.step, SessionState.refund, hs]
  | runRefund =>
    simp [BillingRun.step, BillingRun.complete, hpending]
    rw [← hpending]

/-- On a refunded session, a call other than the goroutine at most sets `settled`. -/
theorem step_refunded (env : BillingEnv) {r : BillingRun} {e : BillingEvent}
    (hrefunded : r.st.session.refunded = true) (hlate : NoLateSettle r e)
    (he : e ≠ .runRefund) :
    ∃ settled settledAt, r.step env e =
      { r with
        st := { r.st with session := { r.st.session with settled := settled } }
        settledAt := settledAt } ∧ (r.st.session.settled = true → settled = true) := by
  cases e with
  | reserve targetQuota =>
    refine ⟨r.st.session.settled, r.settledAt, ?_, id⟩
    simp [BillingRun.step, SessionState.reserve, hrefunded]
    rw [← hrefunded]
  | settle actualQuota =>
    cases hs : r.st.session.settled with
    | true =>
      refine ⟨true, r.settledAt, ?_, id⟩
      simp [BillingRun.step, SessionState.settle, hs]
      rw [← hs]
    | false =>
      -- the quota is the one that was given back, so there is no difference to debit
      have hzero : (actualQuota : Int) - r.st.session.preConsumedQuota = 0 := by
        rw [hlate hrefunded hs]
        exact sub_self _
      refine ⟨true, some (actualQuota : Int), ?_, fun _ => rfl⟩
      simp [BillingRun.step, SessionState.settle, hs, hzero]
  | refund =>
    refine ⟨r.st.session.settled, r.settledAt, ?_, id⟩
    simp [BillingRun.step, SessionState.refund, hrefunded]
    rw [← hrefunded]
  | runRefund => exact absurd rfl he

/-- One call keeps the invariant unless it settles a refunded session. -/
theorem step_runInv (env : BillingEnv) (db₀ : QuotaDB) (r : BillingRun) (e : BillingEvent)
    (h : RunInv db₀ r) (hlate : NoLateSettle r e) : RunInv db₀ (r.step env e) := by
  cases h with
  | live hcounts hrefunded hpending hsettled hrec hdeb =>
    cases hs : r.st.session.settled with
    | true =>
      rw [step_settled env e hpending hs]
      exact .live hcounts hrefunded hpending hsettled hrec hdeb
    | false =>
      have hnone : r.settledAt = none := by
        rw [hs] at hsettled
        exact Option.isSome_eq_false_iff.mp hsettled.symm |> Option.isNone_iff_eq_none.mp
      have hexp : r.expected = r.st.session.preConsumedQuota := by
        simp [BillingRun.expected, hrefunded, hnone]
      rw [hexp] at hdeb
      exact step_open env e hcounts hrefunded hpending hs hnone hrec hdeb
  | refunding hcounts hrefunded hpending hrec hdeb =>
    by_cases he : e = .runRefund
    · subst he
      have hcomplete : r.complete = r.st.refundTask.run r.st.db := by
        simp only [BillingRun.complete, hpending]
      refine .refunded hcounts hrefunded rfl ?_
      simp only [BillingRun.step, hcomplete]
      exact refundTask_debited hcounts hrec hdeb
    · obtain ⟨settled, settledAt, hstep, hkeep⟩ := step_refunded env hrefunded hlate he
      rw [hstep]
      exact .refunding (hcounts.flags fun h => hkeep (hcounts.committed h)) hrefunded hpending
        hrec hdeb
  | refunded hcounts hrefunded hpending hdeb =>
    by_cases he : e = .runRefund
    · subst he
      have hstep : r.step env .runRefund = r := by
        simp [BillingRun.step, BillingRun.complete, hpending]
        rw [← hpending]
      rw [hstep]
      exact .refunded hcounts hrefunded hpending hdeb
    · obtain ⟨settled, settledAt, hstep, hkeep⟩ := step_refunded env hrefunded hlate he
      rw [hstep]
      exact .refunded (hcounts.flags fun h => hkeep (hcounts.committed h)) hrefunded hpending hdeb

/-! ## Whole runs -/

/-- The run starts with the session that was opened. -/
def BillingRun.start (r : OpenResult) (s : BillingSession) : BillingRun :=
  { st := { db := r.db, info := r.info, session := s } }

/-- An opened session starts in the invariant. -/
theorem Opened.runInv {db₀ : QuotaDB} {r : OpenResult} {s : BillingSession}
    (h : Opened db₀ r.info r.db s) : RunInv db₀ (BillingRun.start r s) := by
  have hexp : (BillingRun.start r s).expected = s.preConsumedQuota := by
    simp [BillingRun.expected, BillingRun.start, h.refunded]
  refine .live h.counts h.refunded rfl h.settled h.record ?_
  rw [hexp]
  exact h.debited

/-- Whatever the funding source and the token, a session that `NewBillingSession` opened
    is conserved after every call of a run in which no call settles the refunded
    session at another quota. -/
theorem billing_session_conserved (env : BillingEnv) (db₀ : QuotaDB) (info : RelayInfo)
    (tokenQuota : Int) (preConsumedQuota : Nat)
    (htoken : info.isPlayground = true ∨ (db₀.tokens.find? info.tokenId).isSome = true)
    (hrec : db₀.records.find? info.requestId = none) (s : BillingSession)
    (hok : (newBillingSession env db₀ info tokenQuota preConsumedQuota).result = .ok s)
    (es : List BillingEvent)
    (hes : Run.Steps (BillingRun.step env) NoLateSettle
      (BillingRun.start (newBillingSession env db₀ info tokenQuota preConsumedQuota) s) es) :
    Run.Always (BillingRun.step env) (Conserved db₀)
      (BillingRun.start (newBillingSession env db₀ info tokenQuota preConsumedQuota) s) es := by
  have hstart := newBillingSession_attempted env tokenQuota preConsumedQuota htoken hrec
  cases hstart with
  | failed e herr =>
    rw [hok] at herr
    exact nomatch herr
  | opened s' hok' hopened =>
    have hs : s = s' := by
      rw [hok] at hok'
      exact Except.ok.inj hok'
    subst hs
    have hinv := Run.always_of_steps (step_runInv env db₀) hopened.runInv hes
    exact hinv.mono fun r hr => hr.conserved

/-- Reserve more, settle below the reservation, and try to refund afterwards. -/
theorem wallet_session_conserved :
    (newBillingSession plainEnv oneWallet walletRequest 100 10).result = .ok walletSession ∧
      Run.Always (BillingRun.step plainEnv) (Conserved oneWallet)
        (BillingRun.start (newBillingSession plainEnv oneWallet walletRequest 100 10) walletSession)
        [.reserve 20, .settle 15, .refund, .runRefund] :=
  ⟨by decide, billing_session_conserved plainEnv oneWallet walletRequest 100 10 (by decide)
    (by decide) walletSession (by decide) _ (by decide)⟩

/-- `Settle` on a refunded session debits the difference to what was given back. -/
theorem late_settle_debits :
    (newBillingSession plainEnv oneWallet walletRequest 100 10).result = .ok walletSession ∧
      ¬ Run.Always (BillingRun.step plainEnv) (Conserved oneWallet)
        (BillingRun.start (newBillingSession plainEnv oneWallet walletRequest 100 10) walletSession)
        [.refund, .runRefund, .settle 30] := by
  refine ⟨by decide, fun h => ?_⟩
  have hlast := h.last.1
  revert hlast
  decide

end TokenRouter
