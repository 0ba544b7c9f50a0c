import TokenRouter.ForStd.Run
import TokenRouter.Service.UsageRecord
import TokenRouter.Spec.SessionOpen
import TokenRouter.Spec.TenantSessionCases

/-!
# The split of a mixed request

A mixed tenant's request is paid from the prepaid session as far as that pre-consumed
quota, and from the tenant's credit beyond it. The credit part is computed once by the
session (`targetPostpaidQuota`) and once by `DecorateTenantLedger`, from the session or
from a copy of the pre-consumed quota that travels through the outbox. The invariant
`MixedInv` says that all carriers agree; it survives `Reserve` and gives the split at
`Settle`, whatever other requests do to the tenant's tables in between.

## Key results

- `reserve_mixedInv`: `Reserve` keeps the carriers in step
- `settle_mixed`: what `Settle` debits from the prepaid session
- `mixed_split_conserved`: prepaid debit plus ledger quota is the actual quota
-/

namespace TokenRouter

/-! ## The carriers -/

/-- The net debit of the prepaid funding source; without a prepaid session there is none. -/
def prepaidDebit (quota₀ : QuotaDB) (st : TenantSessionState) : Int :=
  match st.session.prepaid with
  | none => 0
  | some p => fundingDebit quota₀ st.quota p.funding

/-- `PostpaidQuota` as `DecorateTenantLedger` computes it from `relayInfo.Billing`. -/
def livePostpaidQuota (db : DB) (loc : Location) (now : Timestamp) (ledger : UsageLedger)
    (st : TenantSessionState) : Int :=
  (decorateTenantLedger db loc now ledger st.info
    (some st.session.prepaidConsumed)).postpaidQuota

/-- `PostpaidQuota` as `DecorateTenantLedger` computes it from the outbox payload. -/
def payloadPostpaidQuota (db : DB) (loc : Location) (now : Timestamp) (ledger : UsageLedger)
    (usage : Option Usage) (metadata : UsageRecordMeta) (st : TenantSessionState) : Int :=
  (decorateTenantLedger db loc now ledger
    (newUsageRecordOutboxPayload st.info usage ledger.sellQuota metadata).toRelayInfo
    none).postpaidQuota

/-- What the prepaid side of an unsettled mixed session looks like. -/
def PrepaidInv (quota₀ : QuotaDB) (st : TenantSessionState) : Prop :=
  match st.session.prepaid with
  | none => st.info.finalPreConsumedQuota = 0 ∧
      st.quota.users = quota₀.users ∧ st.quota.subscriptions = quota₀.subscriptions
  | some p => Opened quota₀ st.info st.quota p

/-- A mixed session that is neither settled nor refunded. -/
structure MixedInv (quota₀ : QuotaDB) (st : TenantSessionState) : Prop where
  tenant_pos : 0 < st.info.tenantId
  info_mode : st.info.tenantBillingMode = some .mixed
  mode : st.session.mode = .mixed
  settled : st.session.settled = false
  refunded : st.session.refunded = false
  prepaid : PrepaidInv quota₀ st

/-- The pre-consumed quota on the request is the session's. -/
theorem MixedInv.final_eq {quota₀ : QuotaDB} {st : TenantSessionState} (h : MixedInv quota₀ st) :
    st.info.finalPreConsumedQuota = st.session.prepaidConsumed := by
  have hprepaid := h.prepaid
  unfold PrepaidInv at hprepaid
  unfold TenantCreditBillingSession.prepaidConsumed
  cases hp : st.session.prepaid with
  | none =>
    rw [hp] at hprepaid
    exact hprepaid.1
  | some p =>
    rw [hp] at hprepaid
    exact hprepaid.counts.final_eq

/-- Both carriers give the same quota. -/
theorem postpaidQuota_of_mixed (db : DB) (loc : Location) (now : Timestamp)
    (ledger : UsageLedger) (usage : Option Usage) (metadata : UsageRecordMeta)
    {st : TenantSessionState} (hpos : 0 < st.info.tenantId)
    (hmode : st.info.tenantBillingMode = some .mixed)
    (hfinal : st.info.finalPreConsumedQuota = st.session.prepaidConsumed) :
    livePostpaidQuota db loc now ledger st =
        tenantPostpaidQuota .mixed ledger.sellQuota st.session.prepaidConsumed ∧
      payloadPostpaidQuota db loc now ledger usage metadata st =
        tenantPostpaidQuota .mixed ledger.sellQuota st.session.prepaidConsumed := by
  have hneg : ¬ st.info.tenantId ≤ 0 := by omega
  constructor
  · simp [livePostpaidQuota, decorateTenantLedger, hneg, hmode]
  · simp [payloadPostpaidQuota, decorateTenantLedger, newUsageRecordOutboxPayload,
      OutboxPayload.toRelayInfo, hneg, hmode, hfinal]

/-! ## Frames -/

/-- The invariant does not look at the tenant's tables or at the reservation. -/
theorem MixedInv.frame {quota₀ : QuotaDB} {st : TenantSessionState} (h : MixedInv quota₀ st)
    (db : DB) (reserved : Int) :
    MixedInv quota₀ { st with
      db := db, session := { st.session with reservedPostpaidQuota := reserved } } :=
  ⟨h.tenant_pos, h.info_mode, h.mode, h.settled, h.refunded, h.prepaid⟩

theorem MixedInv.reservePostpaid {quota₀ : QuotaDB} {st : TenantSessionState}
    (h : MixedInv quota₀ st) (targetQuota : Int) :
    MixedInv quota₀ (st.reservePostpaid targetQuota).2 := by
  obtain ⟨db, reserved, heq⟩ := reservePostpaid_frame st targetQuota
  rw [heq]
  exact h.frame db reserved

/-! ## Reserve and Settle -/

/-- `Reserve` keeps the carriers in step. -/
theorem reserve_mixedInv (env : BillingEnv) {quota₀ : QuotaDB} {st : TenantSessionState}
    (h : MixedInv quota₀ st) (targetQuota : Int) :
    MixedInv quota₀ (st.reserve env targetQuota).2 := by
  unfold TenantSessionState.reserve
  split
  · exact h.reservePostpaid _
  next p hp =>
  have hopened : Opened quota₀ st.info st.quota p := by
    have hprepaid := h.prepaid
    rw [PrepaidInv, hp] at hprepaid
    exact hprepaid
  have hcounts : SessionCounts (st.prepaidState p).info (st.prepaidState p).session :=
    hopened.counts
  obtain ⟨hcounts', hrec', hdeb', href', hset'⟩ :=
    reserve_open env hcounts hopened.record hopened.debited targetQuota
  obtain ⟨htenant, hmode⟩ := reserve_sameTenant env (st.prepaidState p) targetQuota
  -- the session with the new prepaid side, before the credit is reserved
  have hnext : MixedInv quota₀ (st.withPrepaid ((st.prepaidState p).reserve env targetQuota).2) :=
    { tenant_pos := htenant.symm ▸ h.tenant_pos
      info_mode := hmode.trans h.info_mode
      mode := h.mode
      settled := h.settled
      refunded := h.refunded
      prepaid := ⟨hcounts', hrec', hset'.trans hopened.settled, href'.trans hopened.refunded,
        hdeb'⟩ }
  split
  · next e p' hres =>
    rw [hres] at hnext
    exact hnext
  · next p' hres =>
    rw [hres] at hnext
    exact hnext.reservePostpaid _

/-- What a successful `Settle` of a mixed session leaves behind. -/
structure MixedSettled (quota₀ : QuotaDB) (st st' : TenantSessionState) (actualQuota : Int) :
    Prop where
  tenant_pos : 0 < st'.info.tenantId
  info_mode : st'.info.tenantBillingMode = some .mixed
  final_eq : st'.info.finalPreConsumedQuota = st'.session.prepaidConsumed
  consumed : st'.session.prepaidConsumed = st.session.prepaidConsumed
  debit : prepaidDebit quota₀ st' + tenantPostpaidQuota .mixed actualQuota
    st.session.prepaidConsumed = actualQuota
  fallback : st'.session.prepaid = none →
    st'.quota.users = quota₀.users ∧ st'.quota.subscriptions = quota₀.subscriptions

/-- The prepaid part and the credit part of an actual quota. -/
theorem min_add_tenantPostpaidQuota {actualQuota preConsumed : Int} (hactual : 0 ≤ actualQuota)
    (hpre : 0 ≤ preConsumed) :
    min actualQuota preConsumed + tenantPostpaidQuota .mixed actualQuota preConsumed =
      actualQuota := by
  simp only [tenantPostpaidQuota]
  split_ifs <;> omega

/-- `Settle` debits the prepaid session by the part that it pre-consumed. -/
theorem settle_mixed {quota₀ : QuotaDB} {st : TenantSessionState} (h : MixedInv quota₀ st)
    {actualQuota : Int} (hactual : 0 ≤ actualQuota) (hok : (st.settle actualQuota).1 = none) :
    MixedSettled quota₀ st (st.settle actualQuota).2 actualQuota := by
  have hfinal := h.final_eq
  have hprepaid := h.prepaid
  have hout := settle_outcome st actualQuota h.settled
  obtain ⟨db, reserved, hframe⟩ :=
    reservePostpaid_frame st (st.session.targetPostpaidQuota actualQuota)
  generalize st.settle actualQuota = r at hok hout
  cases hout with
  | refused e hres => cases hok
  | undone st₁ p p' e hres hp hset => cases hok
  | postpaid st₁ hres hp =>
    -- the whole quota is on the tenant's credit
    rw [PrepaidInv, hp] at hprepaid
    rw [hres] at hframe
    dsimp only at hframe
    subst hframe
    have hzero : st.session.prepaidConsumed = 0 := by
      simp [TenantCreditBillingSession.prepaidConsumed, hp]
    refine ⟨h.tenant_pos, h.info_mode, hfinal, rfl, ?_, fun _ => hprepaid.2⟩
    have hsum := min_add_tenantPostpaidQuota hactual (le_refl 0)
    simp only [prepaidDebit, hp, hzero]
    omega
  | mixed st₁ p p' hres hp hset =>
    rw [PrepaidInv, hp] at hprepaid
    rw [hres] at hframe
    dsimp only at hframe
    subst hframe
    have hpre := hprepaid.counts.pre_nonneg
    have hconsumed : st.session.prepaidConsumed = p.preConsumedQuota := by
      simp [TenantCreditBillingSession.prepaidConsumed, hp]
    have htenant := settle_sameTenant (st.prepaidState p) (min actualQuota p.preConsumedQuota)
    have hcounts : SessionCounts (st.prepaidState p).info (st.prepaidState p).session :=
      hprepaid.counts
    have hcases := settle_open hcounts hprepaid.record hprepaid.settled hprepaid.debited
      fun _ => le_min hactual hpre
    rw [hset] at hcases htenant
    rcases hcases with ⟨hne, -⟩ | ⟨-, qdb, info', fs, hp', -, -, -, hfinal', -, hdeb⟩
    · exact absurd rfl hne
    · dsimp only at hp' htenant
      subst hp'
      refine ⟨?_, htenant.2.trans h.info_mode, ?_, hconsumed.symm, ?_, fun h => by cases h⟩
      · exact htenant.1.symm ▸ h.tenant_pos
      · exact hfinal'.trans hprepaid.counts.final_eq
      · have hfund : fundingDebit quota₀ qdb p.funding = min actualQuota p.preConsumedQuota :=
          hdeb.funding_eq
        show fundingDebit quota₀ qdb p.funding + _ = _
        rw [hfund, hconsumed]
        exact min_add_tenantPostpaidQuota hactual hpre

/-! ## Opening -/

/-- A session without a prepaid part, on databases where nothing was debited. -/
theorem openPostpaid_mixedInv {env : BillingEnv} {db : DB} {quota₀ quota : QuotaDB}
    {info : RelayInfo} {preConsumedQuota : Int} {s : TenantCreditBillingSession}
    (hpos : 0 < info.tenantId) (hmode : info.tenantBillingMode = some .mixed)
    (husers : quota.users = quota₀.users) (hsubs : quota.subscriptions = quota₀.subscriptions)
    (hok : (openPostpaid env db quota info .mixed preConsumedQuota).result = .ok (some s)) :
    MixedInv quota₀
      { db := (openPostpaid env db quota info .mixed preConsumedQuota).db
        quota := (openPostpaid env db quota info .mixed preConsumedQuota).quota
        info := (openPostpaid env db quota info .mixed preConsumedQuota).info
        session := s } := by
  unfold openPostpaid newTenantPostpaidBillingSession at hok ⊢
  dsimp only at hok ⊢
  split at hok
  · simp at hok
  next st hres =>
  have hs : st.session = s := by simpa using hok
  subst hs
  have hstart : MixedInv quota₀
      { db := db
        quota := quota
        info := { info with
          billingSource := if BillingMode.mixed = .mixed then .tenantMixed else .tenantPostpaid
          finalPreConsumedQuota := 0 }
        session := { mode := .mixed } } :=
    ⟨hpos, hmode, rfl, rfl, rfl, rfl, husers, hsubs⟩
  have hnext := reserve_mixedInv env hstart preConsumedQuota
  rw [hres] at hnext
  exact hnext

/-- `PrepareTenantBillingSession` opens a mixed tenant's session in the invariant. -/
theorem prepareTenantBillingSession_mixedInv {env : BillingEnv} {db : DB} {quota₀ : QuotaDB}
    {info : RelayInfo} {tokenQuota : Int} {preConsumedQuota : Nat}
    {s : TenantCreditBillingSession} (hmode : tenantBillingMode db info.tenantId = .mixed)
    (htoken : info.isPlayground = true ∨ (quota₀.tokens.find? info.tokenId).isSome = true)
    (hrec : quota₀.records.find? info.requestId = none)
    (hok : (prepareTenantBillingSession env db quota₀ info tokenQuota preConsumedQuota).result =
      .ok (some s)) :
    MixedInv quota₀
      { db := (prepareTenantBillingSession env db quota₀ info tokenQuota preConsumedQuota).db
        quota := (prepareTenantBillingSession env db quota₀ info tokenQuota preConsumedQuota).quota
        info := (prepareTenantBillingSession env db quota₀ info tokenQuota preConsumedQuota).info
        session := s } := by
  have hpos : 0 < info.tenantId := by
    by_contra hle
    rw [tenantBillingMode, if_pos (not_lt.mp hle)] at hmode
    exact nomatch hmode
  unfold prepareTenantBillingSession at hok ⊢
  simp only [if_neg (not_le.mpr hpos), hmode] at hok ⊢
  have hattempt : Attempted quota₀ { info with tenantBillingMode := some .mixed }
      (newBillingSession env quota₀ { info with tenantBillingMode := some .mixed } tokenQuota
        preConsumedQuota) :=
    newBillingSession_attempted env tokenQuota preConsumedQuota htoken hrec
  obtain ⟨htenant, hmode'⟩ := newBillingSession_sameTenant env quota₀
    { info with tenantBillingMode := some .mixed } tokenQuota preConsumedQuota
  generalize newBillingSession env quota₀ { info with tenantBillingMode := some .mixed } tokenQuota
    preConsumedQuota = r at *
  have hpos' : 0 < r.info.tenantId := by
    rw [htenant]
    exact hpos
  cases hattempt with
  | opened p hp hopened =>
    simp only [hp, newTenantMixedBillingSession, Except.ok.injEq, Option.some.injEq] at hok ⊢
    subst hok
    exact ⟨hpos', hmode', rfl, rfl, rfl, hopened.billingSource _⟩
  | failed e herr hinfo huntouched =>
    simp only [herr] at hok ⊢
    split at hok
    · next hcode =>
      rw [if_pos hcode]
      exact openPostpaid_mixedInv hpos' hmode' huntouched.users huntouched.subscriptions hok
    · simp at hok

/-! ## The whole request -/

/-- The session that `PrepareTenantBillingSession` returned. -/
def TenantOpenResult.state (r : TenantOpenResult) (s : TenantCreditBillingSession) :
    TenantSessionState :=
  { db := r.db, quota := r.quota, info := r.info, session := s }

/-- One `Reserve` call, on the tenant's tables as other requests left them. -/
def reserveStep (env : BillingEnv) (st : TenantSessionState) (call : DB × Int) :
    TenantSessionState :=
  (TenantSessionState.reserve env { st with db := call.1 } call.2).2

/-- After any `Reserve` calls, a settled mixed request is paid for exactly: what the
    prepaid funding source was debited and what the ledger puts on the tenant's credit
    add up to the actual quota. The ledger's part is the same from the live session and
    from the outbox payload, before and after `Settle`. -/
theorem mixed_split_conserved (env : BillingEnv) (db : DB) (quota₀ : QuotaDB) (info : RelayInfo)
    (tokenQuota : Int) (preConsumedQuota : Nat)
    (hmode : tenantBillingMode db info.tenantId = .mixed)
    (htoken : info.isPlayground = true ∨ (quota₀.tokens.find? info.tokenId).isSome = true)
    (hrec : quota₀.records.find? info.requestId = none) (s : TenantCreditBillingSession)
    (hopen : (prepareTenantBillingSession env db quota₀ info tokenQuota preConsumedQuota).result =
      .ok (some s))
    (calls : List (DB × Int)) (st : TenantSessionState)
    (hst : st = Run.run (reserveStep env)
      ((prepareTenantBillingSession env db quota₀ info tokenQuota preConsumedQuota).state s) calls)
    (db' : DB) (actualQuota : Nat)
    (hsettle : (TenantSessionState.settle { st with db := db' } actualQuota).1 = none)
    (st' : TenantSessionState)
    (hst' : st' = (TenantSessionState.settle { st with db := db' } actualQuota).2)
    (dbl : DB) (loc : Location) (now : Timestamp) (ledger : UsageLedger)
    (hsell : ledger.sellQuota = actualQuota) (usage : Option Usage) (metadata : UsageRecordMeta) :
    prepaidDebit quota₀ st' + livePostpaidQuota dbl loc now ledger st = actualQuota ∧
      livePostpaidQuota dbl loc now ledger st' = livePostpaidQuota dbl loc now ledger st ∧
      payloadPostpaidQuota dbl loc now ledger usage metadata st =
        livePostpaidQuota dbl loc now ledger st ∧
      payloadPostpaidQuota dbl loc now ledger usage metadata st' =
        livePostpaidQuota dbl loc now ledger st ∧
      (st'.session.prepaid = none →
        st'.quota.users = quota₀.users ∧ st'.quota.subscriptions = quota₀.subscriptions) := by
  have hstart : MixedInv quota₀
      ((prepareTenantBillingSession env db quota₀ info tokenQuota preConsumedQuota).state s) :=
    prepareTenantBillingSession_mixedInv hmode htoken hrec hopen
  have hinv : MixedInv quota₀ st := by
    rw [hst]
    apply Run.run_inv _ hstart
    intro st call h
    exact reserve_mixedInv env (h.frame call.1 _) call.2
  have hinv' : MixedInv quota₀ { st with db := db' } := hinv.frame db' _
  have hsettled := settle_mixed hinv' (Int.natCast_nonneg actualQuota) hsettle
  rw [← hst'] at hsettled
  obtain ⟨hlive, hpayload⟩ := postpaidQuota_of_mixed dbl loc now ledger usage metadata
    hinv.tenant_pos hinv.info_mode hinv.final_eq
  obtain ⟨hlive', hpayload'⟩ := postpaidQuota_of_mixed dbl loc now ledger usage metadata
    hsettled.tenant_pos hsettled.info_mode hsettled.final_eq
  have hconsumed : st'.session.prepaidConsumed = st.session.prepaidConsumed := hsettled.consumed
  rw [hlive, hpayload, hlive', hpayload', hconsumed, hsell]
  exact ⟨hsettled.debit, rfl, rfl, rfl, hsettled.fallback⟩

/-- A mixed tenant with a credit limit of 1000. -/
def mixedConfig : BillingConfig :=
  { tenantId := 7
    billingMode := .mixed
    paymentTerms := 30
    creditLimit := 1000
    overCreditPolicy := .block }

def mixedTenant : DB := { DB.empty with configs := ⟨[mixedConfig], by decide⟩ }

/-- What a request of that tenant opens at quota 10. -/
def mixedSession : TenantCreditBillingSession :=
  { prepaid := some walletSession, mode := .mixed }

/-- A request opens at 10, reserves up to 50 and settles at 70. -/
theorem mixed_split_seventy :
    let r := prepareTenantBillingSession plainEnv mixedTenant oneWallet
      { walletRequest with tenantId := 7 } 100 (10 : Nat)
    let st := Run.run (reserveStep plainEnv) (r.state mixedSession) [(mixedTenant, 50)]
    let settled := TenantSessionState.settle { st with db := mixedTenant } (70 : Nat)
    r.result = .ok (some mixedSession) ∧ settled.1 = none ∧
      prepaidDebit oneWallet settled.2 + livePostpaidQuota mixedTenant ⟨fun _ => 0⟩
        ⟨1, by decide⟩ { requestId := "r1", sellQuota := 70 } st = (70 : Nat) :=
  ⟨by decide, by decide, (mixed_split_conserved plainEnv mixedTenant oneWallet
    { walletRequest with tenantId := 7 } 100 10 (by decide) (by decide) (by decide) mixedSession
    (by decide) [(mixedTenant, 50)] _ rfl mixedTenant 70 (by decide) _ rfl mixedTenant
    ⟨fun _ => 0⟩ ⟨1, by decide⟩ { requestId := "r1", sellQuota := 70 } rfl none
    { requestId := "r1" }).1⟩

end TokenRouter
