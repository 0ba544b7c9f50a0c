import TokenRouter.Service.Quota
import TokenRouter.Spec.MixedSplit
import TokenRouter.Spec.SessionCredit

/-!
# What settling a request debits

`SettleBilling` on each kind of billing (a prepaid session, a tenant's session, none), against
the tables before the request. The tenant's credit and the prepaid session were each treated
alone; here they are put together for the request that owns them.

## Key results

- `preConsumeBilling_opened`: what `PreConsumeBilling` leaves on the request
- `BillingOpened.settle`: a settlement with room debits the source and the token once
-/

namespace TokenRouter

namespace BillingState

/-- The state that a tenant's session works on. -/
def tenantState (st : BillingState) (s : TenantCreditBillingSession) : TenantSessionState :=
  { db := st.charge.db, quota := st.charge.quota, info := st.charge.info, session := s }

/-- The tenant's credit that is taken, reserved or already used. -/
def creditTaken (db : DB) (tenantId : Int) : Int :=
  (db.credit tenantId).reserved + (db.credit tenantId).unbilled

/-- The net debit of the funding source against the tables before the request. -/
def netDebit (db₀ : DB) (quota₀ : QuotaDB) (st : BillingState) : Int :=
  match st.billing with
  | none => fundingDebit quota₀ st.charge.quota (.wallet { userId := st.charge.info.userId })
  | some (.session s) => fundingDebit quota₀ st.charge.quota s.funding
  | some (.tenant s) =>
    creditTaken st.charge.db st.charge.info.tenantId - creditTaken db₀ st.charge.info.tenantId +
      prepaidDebit quota₀ (st.tenantState s)

/-- The funding source and the token were debited by the quota, all in all. -/
structure ChargedOnce (db₀ : DB) (quota₀ : QuotaDB) (st : BillingState) (quota : Int) : Prop where
  funding : st.netDebit db₀ quota₀ = quota
  token : tokenDebit quota₀ st.charge.quota st.charge.info.tokenId =
    if st.charge.info.isPlayground then 0 else quota

end BillingState

/-- A prepaid session can settle at the quota. -/
def SettleRoom (db : QuotaDB) (s : BillingSession) (quota : Int) : Prop :=
  match s.funding with
  | .wallet _ => True
  | .subscription sub => 0 ≤ quota ∧
      ∀ row ∈ db.subscriptions.find? sub.subscriptionId, 0 < row.amountTotal →
        row.amountUsed + (quota - s.preConsumedQuota) ≤ row.amountTotal

/-- The billing of a request can settle at the quota: a subscription has the room, and what a
    tenant's request costs was taken from its prepaid part, the only one with a token. -/
def BillingState.SettleCovers (st : BillingState) (quota : Int) : Prop :=
  match st.billing with
  | none => True
  | some (.session s) => SettleRoom st.charge.quota s quota
  | some (.tenant s) => 0 ≤ quota ∧ quota ≤ s.prepaidConsumed

/-- A wallet covers everything. -/
theorem settleCovers_wallet {st : BillingState} {s : BillingSession} {w : WalletFunding}
    (hbilling : st.billing = some (.session s)) (hfunding : s.funding = .wallet w) (quota : Int) :
    st.SettleCovers quota := by
  simp [BillingState.SettleCovers, SettleRoom, hbilling, hfunding]

/-! ## A prepaid session -/

/-- A session with room settles. -/
theorem settle_succeeds {db₀ : QuotaDB} {st : SessionState} {quota : Int}
    (h : Opened db₀ st.info st.db st.session) (hroom : SettleRoom st.db st.session quota) :
    (st.settle quota).1 = none := by
  have hfs : st.session.fundingSettled = false := by
    by_contra hne
    have hset := h.counts.committed (by simpa using hne)
    rw [h.settled] at hset
    exact nomatch hset
  have hfunding : quota - st.session.preConsumedQuota ≠ 0 → ∃ db',
      st.session.funding.settle st.db (quota - st.session.preConsumedQuota) = .ok db' := by
    intro hne
    have hlive := h.debited.live
    unfold SettleRoom at hroom
    cases hF : st.session.funding with
    | wallet w =>
      simp only [FundingSource.settle, if_neg hne]
      split
      · next hpos => exact ⟨_, QuotaDB.decreaseUserQuota_of_nonneg _ _ hpos.le⟩
      · exact ⟨_, QuotaDB.increaseUserQuota_of_nonneg _ _ (by omega)⟩
    | subscription sub =>
      rw [hF] at hroom hlive
      obtain ⟨hid, -, row, hfind, htotal⟩ := hlive
      have hfits := hroom.2 row hfind
      simp only [FundingSource.settle, if_neg hne, QuotaDB.postConsumeUserSubscriptionDelta]
      rw [if_neg (by omega), hfind]
      have hno : ¬ (0 < row.amountTotal ∧ row.amountTotal <
          max 0 (row.amountUsed + (quota - st.session.preConsumedQuota))) := by
        rintro ⟨hpos, hover⟩
        have := hfits hpos
        omega
      exact ⟨_, if_neg hno⟩
  simp only [SessionState.settle, h.settled, Bool.false_eq_true, if_false, hfs]
  split
  · rfl
  next hne =>
  obtain ⟨db', hok⟩ := hfunding hne
  simp only [hok, ChargeState.settleToken_eq]

/-- What a settlement of an open session leaves behind. -/
theorem Opened.settle {db₀ : QuotaDB} {st : SessionState} {quota : Int}
    (h : Opened db₀ st.info st.db st.session) (hroom : SettleRoom st.db st.session quota) :
    ∃ db' info' fs,
      st.settle quota = (none, ⟨db', info', { st.session with
        fundingSettled := fs, settled := true }⟩) ∧
      info'.isPlayground = st.info.isPlayground ∧ info'.tokenId = st.info.tokenId ∧
      Debited db₀ st.info st.session.funding db' quota quota := by
  have hok := settle_succeeds h hroom
  have hactual : st.session.funding.source = .subscription → 0 ≤ quota := by
    intro hsub
    unfold SettleRoom at hroom
    cases hF : st.session.funding with
    | wallet w =>
      rw [hF] at hsub
      exact nomatch hsub
    | subscription sub =>
      rw [hF] at hroom
      exact hroom.1
  rcases settle_open h.counts h.record h.settled h.debited hactual with
    ⟨hne, -⟩ | ⟨-, db', info', fs, hst, hplay, htoken, -, -, -, hdeb⟩
  · exact absurd hok hne
  · exact ⟨db', info', fs, Prod.ext hok hst, hplay, htoken, hdeb⟩

/-! ## Open billings -/

/-- The request of an authenticated user that no billing has touched. -/
structure NewRequest (st : ChargeState) : Prop where
  user : (st.quota.users.find? st.info.userId).isSome = true
  token : st.info.isPlayground = true ∨ (st.quota.tokens.find? st.info.tokenId).isSome = true
  record : st.quota.records.find? st.info.requestId = none
  preConsumed : st.info.finalPreConsumedQuota = 0
  source : st.info.billingSource = .none
  credit : 0 ≤ (st.db.credit st.info.tenantId).reserved

/-- The prepaid part of a tenant's open session; without one nothing was debited. -/
def PrepaidOpened (quota₀ : QuotaDB) (st : ChargeState) : Option BillingSession → Prop
  | none => tokenDebit quota₀ st.quota st.info.tokenId = 0
  | some p => Opened quota₀ st.info st.quota p

/-- A tenant's open session. -/
structure TenantOpened (db₀ : DB) (quota₀ : QuotaDB) (st : ChargeState)
    (s : TenantCreditBillingSession) : Prop where
  tenant_pos : 0 < st.info.tenantId
  ok : SessionOk st.info.tenantId st.info s
  postpaid : s.mode = .postpaid → s.prepaid = none
  settled : s.settled = false
  refunded : s.refunded = false
  credit_nonneg : 0 ≤ (db₀.credit st.info.tenantId).reserved
  credit : CreditEffect st.info.tenantId db₀ st.db s.reservedPostpaidQuota 0
  prepaid : PrepaidOpened quota₀ st s.prepaid

/-- The billing of a request that is not settled. -/
inductive BillingOpened (db₀ : DB) (quota₀ : QuotaDB) : BillingState → Prop
  | free (st : ChargeState) (hnew : NewRequest st) (hquota : st.quota = quota₀) :
      BillingOpened db₀ quota₀ { charge := st }
  | session (st : ChargeState) (s : BillingSession) (h : Opened quota₀ st.info st.quota s) :
      BillingOpened db₀ quota₀ { charge := st, billing := some (.session s) }
  | tenant (st : ChargeState) (s : TenantCreditBillingSession)
      (h : TenantOpened db₀ quota₀ st s) :
      BillingOpened db₀ quota₀ { charge := st, billing := some (.tenant s) }

/-! ## Settlement -/

/-- Nothing stays on the credit when the prepaid part covers the quota. -/
theorem TenantOpened.target_eq {db₀ : DB} {quota₀ : QuotaDB} {st : ChargeState}
    {s : TenantCreditBillingSession} (h : TenantOpened db₀ quota₀ st s) {quota : Int}
    (hquota : quota ≤ s.prepaidConsumed) : s.targetPostpaidQuota quota = 0 := by
  rw [targetPostpaidQuota_eq]
  unfold tenantPostpaidQuota
  split
  · rfl
  next hpos =>
  cases hmode : s.mode with
  | postpaid =>
    have hzero : s.prepaidConsumed = 0 := by
      simp [TenantCreditBillingSession.prepaidConsumed, h.postpaid hmode]
    omega
  | mixed => exact if_neg (by omega)
  | prepaid => rfl

/-- The prepaid part of a tenant's session settles at a quota that it covers. -/
theorem settleRoom_of_le {db₀ db : QuotaDB} {info : RelayInfo} {p : BillingSession}
    (h : Opened db₀ info db p) {quota : Int} (hnn : 0 ≤ quota) (hle : quota ≤ p.preConsumedQuota) :
    SettleRoom db p quota := by
  have hlive := h.debited.live
  unfold SettleRoom
  cases hF : p.funding with
  | wallet w => trivial
  | subscription sub =>
    rw [hF] at hlive
    obtain ⟨-, -, row, hfind, htotal⟩ := hlive
    refine ⟨hnn, ?_⟩
    intro row' hrow' hpos
    obtain rfl : row = row' := Option.some.inj (hfind.symm.trans hrow')
    have := htotal hpos
    omega

/-- The state that a tenant's open session settles in. -/
def TenantOpened.state (st : ChargeState) (s : TenantCreditBillingSession) : TenantSessionState :=
  { db := st.db, quota := st.quota, info := st.info, session := s }

/-- A settlement that the prepaid part covers gives the tenant's credit back. -/
theorem TenantOpened.creditTaken_settle {db₀ : DB} {quota₀ : QuotaDB} {st : ChargeState}
    {s : TenantCreditBillingSession} (h : TenantOpened db₀ quota₀ st s) {quota : Int}
    (hquota : quota ≤ s.prepaidConsumed) {st' : TenantSessionState}
    (hst' : ((TenantOpened.state st s).settle quota).2 = st')
    (hsettled : st'.session.settled = true) :
    st'.info.tenantId = st.info.tenantId ∧
      BillingState.creditTaken st'.db st.info.tenantId =
        BillingState.creditTaken db₀ st.info.tenantId := by
  obtain ⟨hok, hsettledOk, heffect⟩ := @settle_sessionOk st.info.tenantId
    (TenantOpened.state st s) h.tenant_pos h.ok h.settled quota h.credit.reserved_nonneg
  rw [hst'] at hok hsettledOk heffect
  have htarget : (TenantOpened.state st s).session.targetPostpaidQuota quota = 0 :=
    h.target_eq hquota
  have hreserved := hsettledOk.reserved hsettled h.refunded
  rw [htarget] at hreserved heffect
  have hopened := h.credit.reserved
  have hnn := h.credit_nonneg
  have hasked : (TenantOpened.state st s).session.asked 0 = s.reservedPostpaidQuota := by
    simp [TenantOpened.state, TenantCreditBillingSession.asked, h.settled]
  have hloss : ((TenantOpened.state st s).db.credit st.info.tenantId).loss
      ((TenantOpened.state st s).session.asked 0) = 0 := by
    rw [hasked, Credit.loss_eq_zero_iff]
    show s.reservedPostpaidQuota ≤ (st.db.credit st.info.tenantId).reserved
    omega
  rw [hloss] at heffect
  have hafter := heffect.reserved
  rw [hreserved] at hafter
  simp only [TenantOpened.state] at hafter
  refine ⟨hok.tenant, ?_⟩
  rw [BillingState.creditTaken, BillingState.creditTaken, heffect.unbilled]
  show _ + (st.db.credit st.info.tenantId).unbilled = _
  rw [h.credit.unbilled]
  omega

/-- What a tenant's session took in advance is what its prepaid part took. -/
theorem prepaidConsumed_of_some {s : TenantCreditBillingSession} {p : BillingSession}
    (h : s.prepaid = some p) : s.prepaidConsumed = p.preConsumedQuota := by
  simp [TenantCreditBillingSession.prepaidConsumed, h]

/-- A tenant's session settled at a quota that its prepaid part covers. -/
theorem TenantOpened.chargedOnce {db₀ : DB} {quota₀ : QuotaDB} {st : ChargeState}
    {s : TenantCreditBillingSession} (h : TenantOpened db₀ quota₀ st s) {quota : Int}
    (hnn : 0 ≤ quota) (hquota : quota ≤ s.prepaidConsumed) :
    ((BillingState.settleBilling { charge := st, billing := some (.tenant s) }
      quota).2).ChargedOnce db₀ quota₀ quota := by
  have hprepaid := h.prepaid
  have hcredit : ∀ {st' : TenantSessionState},
      ((TenantOpened.state st s).settle quota).2 = st' → st'.session.settled = true → _ :=
    h.creditTaken_settle hquota
  have hout := settle_outcome (TenantOpened.state st s) quota h.settled
  obtain ⟨db₁, reserved, hframe⟩ := reservePostpaid_frame (TenantOpened.state st s)
    ((TenantOpened.state st s).session.targetPostpaidQuota quota)
  show (BillingState.ChargedOnce db₀ quota₀
    { charge := { db := ((TenantOpened.state st s).settle quota).2.db
                  quota := ((TenantOpened.state st s).settle quota).2.quota
                  info := ((TenantOpened.state st s).settle quota).2.info }
      billing := some (.tenant ((TenantOpened.state st s).settle quota).2.session) } quota)
  generalize (TenantOpened.state st s).settle quota = r at hout hcredit
  cases hout with
  | refused e hres =>
    -- giving credit back is never refused
    have hlt := (reservePostpaid_error hres).2
    have htarget : (TenantOpened.state st s).session.targetPostpaidQuota quota = 0 :=
      h.target_eq hquota
    have hreserved : 0 ≤ s.reservedPostpaidQuota := h.ok.reserved_nonneg
    rw [htarget] at hlt
    simp only [TenantOpened.state] at hlt
    omega
  | postpaid st₁ hres hp =>
    rw [hres] at hframe
    dsimp only at hframe
    subst hframe
    obtain ⟨htenant, htaken⟩ := hcredit rfl rfl
    have hp' : s.prepaid = none := hp
    have hzero : quota = 0 := by
      have : s.prepaidConsumed = 0 := by simp [TenantCreditBillingSession.prepaidConsumed, hp']
      omega
    rw [hp'] at hprepaid
    subst hzero
    constructor
    · show BillingState.creditTaken db₁ st.info.tenantId -
        BillingState.creditTaken db₀ st.info.tenantId +
        prepaidDebit quota₀ { TenantOpened.state st s with db := db₁, session := _ } = 0
      rw [htaken]
      simp [prepaidDebit, TenantOpened.state, hp']
    · show tokenDebit quota₀ st.quota st.info.tokenId = _
      rw [hprepaid, ite_self]
  | mixed st₁ p p' hres hp hset =>
    rw [hres] at hframe
    dsimp only at hframe
    subst hframe
    obtain ⟨htenant, htaken⟩ := hcredit rfl rfl
    have hp' : s.prepaid = some p := hp
    have hpre := prepaidConsumed_of_some hp'
    rw [hp'] at hprepaid
    have hmin : min quota p.preConsumedQuota = quota := min_eq_left (hpre ▸ hquota)
    rw [hmin] at hset
    have hopened : Opened quota₀ ((TenantOpened.state st s).prepaidState p).info
      ((TenantOpened.state st s).prepaidState p).db
      ((TenantOpened.state st s).prepaidState p).session := hprepaid
    obtain ⟨db', info', fs, hsettle, hplay, htoken, hdeb⟩ :=
      hopened.settle (settleRoom_of_le hprepaid hnn (hpre ▸ hquota))
    obtain rfl := (Prod.mk.inj (hset.symm.trans hsettle)).2
    constructor
    · show BillingState.creditTaken db₁ info'.tenantId -
        BillingState.creditTaken db₀ info'.tenantId +
        fundingDebit quota₀ db' p.funding = quota
      have htaken' : BillingState.creditTaken db₁ st.info.tenantId =
          BillingState.creditTaken db₀ st.info.tenantId := htaken
      have hfunding : fundingDebit quota₀ db' p.funding = quota := hdeb.funding_eq
      rw [show info'.tenantId = st.info.tenantId from htenant, htaken', hfunding]
      omega
    · show tokenDebit quota₀ db' info'.tokenId = if info'.isPlayground then 0 else quota
      rw [htoken, hplay]
      exact hdeb.token_eq
  | undone st₁ p p' e hres hp hset =>
    -- the prepaid part can give back what it took
    have hp' : s.prepaid = some p := hp
    have hpre := prepaidConsumed_of_some hp'
    rw [hp'] at hprepaid
    rw [min_eq_left (hpre ▸ hquota)] at hset
    have hopened : Opened quota₀ ((TenantOpened.state st s).prepaidState p).info
      ((TenantOpened.state st s).prepaidState p).db
      ((TenantOpened.state st s).prepaidState p).session := hprepaid
    have hok := settle_succeeds hopened (settleRoom_of_le hprepaid hnn (hpre ▸ hquota))
    rw [hset] at hok
    cases hok

/-- A prepaid session settled with room. -/
theorem Opened.chargedOnce (db₀ : DB) {quota₀ : QuotaDB} {st : ChargeState} {s : BillingSession}
    (h : Opened quota₀ st.info st.quota s) {quota : Int} (hroom : SettleRoom st.quota s quota) :
    ((BillingState.settleBilling { charge := st, billing := some (.session s) }
      quota).2).ChargedOnce db₀ quota₀ quota := by
  have hopened : Opened quota₀ (SessionState.mk st.quota st.info s).info
    (SessionState.mk st.quota st.info s).db (SessionState.mk st.quota st.info s).session := h
  obtain ⟨db', info', fs, hsettle, hplay, htoken, hdeb⟩ := hopened.settle hroom
  simp only [BillingState.settleBilling, hsettle]
  constructor
  · exact hdeb.funding_eq
  · show tokenDebit quota₀ db' info'.tokenId = if info'.isPlayground then 0 else quota
    rw [htoken, hplay]
    exact hdeb.token_eq

/-- A request without a session is charged when it settles. -/
theorem NewRequest.chargedOnce (db₀ : DB) {st : ChargeState} (h : NewRequest st) (quota : Int) :
    ((BillingState.settleBilling { charge := st } quota).2).ChargedOnce db₀ st.quota quota := by
  have hstart : Debited st.quota st.info (.wallet { userId := st.info.userId }) st.quota 0 0 := by
    refine ⟨h.user, sub_self _, h.token, ?_⟩
    rw [ite_self]
    exact sub_self _
  have hsource : st.info.billingSource ≠ .subscription := by
    rw [h.source]
    exact nofun
  simp only [BillingState.settleBilling, h.preConsumed, sub_zero]
  split
  · rw [ChargeState.postConsumeQuota_wallet st quota hsource]
    have hdeb := hstart.addUserQuota quota
    obtain ⟨db', hok, hdeb', -⟩ := hdeb.settleToken quota
    rw [ChargeState.settleToken_eq, Except.ok.injEq] at hok
    rw [zero_add] at hdeb'
    have hcharged : ChargeState.withToken
        { st with quota := st.quota.addUserQuota st.info.userId (-quota) } quota =
          { st with quota := db' } := by
      rw [← hok]
      rfl
    rw [hcharged]
    exact ⟨hdeb'.funding_eq, hdeb'.token_eq⟩
  · next hzero =>
    rw [not_not] at hzero
    subst hzero
    exact ⟨hstart.funding_eq, hstart.token_eq⟩

/-- A billing that can settle at the quota debits the source and the token by it, once. -/
theorem BillingOpened.settle {db₀ : DB} {quota₀ : QuotaDB} {st : BillingState}
    (h : BillingOpened db₀ quota₀ st) {quota : Int} (hcovers : st.SettleCovers quota) :
    (st.settleBilling quota).2.ChargedOnce db₀ quota₀ quota := by
  cases h with
  | free st hnew hquota =>
    subst hquota
    exact hnew.chargedOnce db₀ quota
  | session st s h => exact h.chargedOnce db₀ hcovers
  | tenant st s h => exact h.chargedOnce hcovers.1 hcovers.2

/-! ## Opening -/

/-- A session that only uses the tenant's credit touches nothing else. -/
theorem openPostpaid_frame {env : BillingEnv} {db : DB} {quota : QuotaDB} {info : RelayInfo}
    {mode : BillingMode} {preConsumedQuota : Int} {s : TenantCreditBillingSession}
    (hok : (openPostpaid env db quota info mode preConsumedQuota).result = .ok (some s)) :
    (openPostpaid env db quota info mode preConsumedQuota).quota = quota ∧
      (openPostpaid env db quota info mode preConsumedQuota).info.tokenId = info.tokenId ∧
      s.prepaid = none := by
  unfold openPostpaid newTenantPostpaidBillingSession TenantSessionState.reserve at hok ⊢
  dsimp only at hok ⊢
  split at hok
  · exact nomatch hok
  next st hres =>
  obtain rfl := Option.some.inj (Except.ok.inj hok)
  obtain ⟨db', reserved, hframe⟩ := reservePostpaid_frame
    { db, quota, session := { mode := mode }, info := { info with
        billingSource := if mode = .mixed then .tenantMixed else .tenantPostpaid
        finalPreConsumedQuota := 0 } }
    (TenantCreditBillingSession.targetPostpaidQuota { mode := mode } preConsumedQuota)
  rw [hres] at hframe
  dsimp only at hframe
  subst hframe
  simp only [and_self]

/-- The prepaid part of the session that `PrepareTenantBillingSession` opens. -/
theorem prepareTenantBillingSession_prepaid {env : BillingEnv} {st : ChargeState}
    (hnew : NewRequest st) {tokenQuota : Int} {preConsumedQuota : Nat}
    {s : TenantCreditBillingSession} {r : TenantOpenResult}
    (hr : prepareTenantBillingSession env st.db st.quota st.info tokenQuota preConsumedQuota = r)
    (hok : r.result = .ok (some s)) :
    0 < st.info.tenantId ∧ (s.mode = .postpaid → s.prepaid = none) ∧
      PrepaidOpened st.quota { db := r.db, quota := r.quota, info := r.info } s.prepaid := by
  -- a session on credit alone, after an attempt that took nothing
  have hpostpaid : ∀ {quota : QuotaDB} {info : RelayInfo} {mode : BillingMode},
      tokenDebit st.quota quota info.tokenId = 0 →
      openPostpaid env st.db quota info mode preConsumedQuota = r →
      (s.mode = .postpaid → s.prepaid = none) ∧
        PrepaidOpened st.quota { db := r.db, quota := r.quota, info := r.info } s.prepaid := by
    intro quota info mode hdebit hopen
    obtain ⟨hquota, htoken, hprepaid⟩ := openPostpaid_frame (hopen ▸ hok)
    rw [hopen] at hquota htoken
    refine ⟨fun _ => hprepaid, ?_⟩
    rw [hprepaid]
    show tokenDebit st.quota r.quota r.info.tokenId = 0
    rw [hquota, htoken]
    exact hdebit
  unfold prepareTenantBillingSession at hr
  split at hr
  · subst hr
    cases hok
  next hpos =>
  refine ⟨by omega, ?_⟩
  dsimp only at hr
  cases hmode : tenantBillingMode st.db st.info.tenantId with
  | prepaid =>
    rw [hmode] at hr
    subst hr
    cases hok
  | postpaid =>
    rw [hmode] at hr
    exact hpostpaid (sub_self _) hr
  | mixed =>
    rw [hmode] at hr
    have hattempt : Attempted st.quota { st.info with tenantBillingMode := some .mixed }
        (newBillingSession env st.quota { st.info with tenantBillingMode := some .mixed }
          tokenQuota preConsumedQuota) :=
      newBillingSession_attempted env tokenQuota preConsumedQuota hnew.token hnew.record
    dsimp only at hr
    generalize newBillingSession env st.quota { st.info with tenantBillingMode := some .mixed }
      tokenQuota preConsumedQuota = r' at hr hattempt
    cases hattempt with
    | opened p hp hopened =>
      simp only [hp, newTenantMixedBillingSession] at hr
      subst hr
      obtain rfl := Option.some.inj (Except.ok.inj hok)
      exact ⟨(fun h => by cases h), hopened.billingSource _⟩
    | failed e herr hinfo huntouched =>
      simp only [herr] at hr
      split at hr
      · refine hpostpaid ?_ hr
        obtain ⟨userQuota, hinfo⟩ := hinfo
        rw [hinfo]
        exact huntouched.token_eq
      · subst hr
        cases hok

/-- Where `PrepareTenantBillingSession` opens nothing, it leaves the request as it was. -/
theorem prepareTenantBillingSession_none {env : BillingEnv} {st : ChargeState} {tokenQuota : Int}
    {preConsumedQuota : Int} {r : TenantOpenResult}
    (hr : prepareTenantBillingSession env st.db st.quota st.info tokenQuota preConsumedQuota = r)
    (hok : r.result = .ok none) :
    r.quota = st.quota ∧ ∃ mode, r.info = { st.info with tenantBillingMode := mode } := by
  have hpostpaid : ∀ {quota : QuotaDB} {info : RelayInfo} {mode : BillingMode},
      (openPostpaid env st.db quota info mode preConsumedQuota).result ≠ .ok none := by
    intro quota info mode
    unfold openPostpaid
    dsimp only
    split <;> exact nofun
  unfold prepareTenantBillingSession at hr
  split at hr
  · subst hr
    exact ⟨rfl, st.info.tenantBillingMode, rfl⟩
  dsimp only at hr
  cases hmode : tenantBillingMode st.db st.info.tenantId with
  | prepaid =>
    rw [hmode] at hr
    subst hr
    exact ⟨rfl, some .prepaid, rfl⟩
  | postpaid =>
    rw [hmode] at hr
    subst hr
    exact absurd hok hpostpaid
  | mixed =>
    rw [hmode] at hr
    dsimp only at hr
    split at hr
    · subst hr
      exact nomatch hok
    · split at hr
      · subst hr
        exact absurd hok hpostpaid
      · subst hr
        exact nomatch hok

/-- What `PreConsumeBilling` leaves on a new request. -/
theorem preConsumeBilling_opened {env : BillingEnv} {st : ChargeState} (hnew : NewRequest st)
    {tokenQuota : Int} {preConsumedQuota : Nat} {request : BillingState}
    (hok : preConsumeBilling env st tokenQuota preConsumedQuota = (none, request)) :
    BillingOpened st.db st.quota request := by
  unfold preConsumeBilling at hok
  generalize hr : prepareTenantBillingSession env st.db st.quota st.info tokenQuota
    preConsumedQuota = r at hok
  dsimp only at hok
  split at hok
  · simp at hok
  · next s hres =>
    obtain ⟨hpos, hpostpaid, hprepaid⟩ := prepareTenantBillingSession_prepaid hnew hr hres
    obtain ⟨hsession, hsettled, hrefunded, hcredit⟩ :=
      (prepareTenantBillingSession_openedOk env st.quota tokenQuota preConsumedQuota hpos rfl
        hnew.credit).session s (by rw [hr]; exact hres)
    rw [hr] at hsession hcredit
    obtain rfl := (Prod.mk.inj hok).2
    have htenant : r.info.tenantId = st.info.tenantId := hsession.tenant
    refine .tenant _ s ⟨?_, ?_, hpostpaid, hsettled, hrefunded, ?_, ?_, hprepaid⟩
    · simpa only [htenant] using hpos
    · simpa only [htenant] using hsession
    · simpa only [htenant] using hnew.credit
    · simpa only [htenant] using hcredit
  · next hres =>
    -- a prepaid tenant, or none
    obtain ⟨hquota, mode, hinfo⟩ := prepareTenantBillingSession_none hr hres
    rw [hquota] at hok
    have hattempt : Attempted st.quota r.info
        (newBillingSession env st.quota r.info tokenQuota preConsumedQuota) := by
      apply newBillingSession_attempted env tokenQuota preConsumedQuota
      · rw [hinfo]
        exact hnew.token
      · rw [hinfo]
        exact hnew.record
    generalize newBillingSession env st.quota r.info tokenQuota preConsumedQuota = r' at hok hattempt
    cases hattempt with
    | failed e herr => simp [herr] at hok
    | opened p hp hopened =>
      simp only [hp] at hok
      obtain rfl := (Prod.mk.inj hok).2
      exact .session _ p hopened

end TokenRouter
