import TokenRouter.Service.TaskBilling
import TokenRouter.Spec.SourceMoves

/-!
# Adjusting the charge of a task

A refund or a recalculation is to leave every source of a task as a settlement of its request at
the actual quota would have left it. The row of the task only tells a subscription from everything
else, so the charge of a tenant's task is adjusted on a wallet that may have paid nothing of it.

## Key results

- `Funded.settle_taken`: what the settlement of a prepaid session takes
- `TenantFunded.settle_taken`, `TenantFunded.settle_credit`: what that of a tenant's session takes
- `taskAdjustment_iff`: when an adjustment goes back to the sources of the charge
-/

namespace TokenRouter

/-! ## Settling a prepaid session -/

instance (db : QuotaDB) (id : Nat) (amount : Int) : Decidable (Fits db id amount) :=
  inferInstanceAs (Decidable (∀ row ∈ db.subscriptions.find? id, _))

theorem Fits.mono {db : QuotaDB} {id : Nat} {amount amount' : Int} (h : Fits db id amount)
    (hle : amount' ≤ amount) : Fits db id amount' := by
  intro row hrow hpos
  have := h row hrow hpos
  omega

/-- What a settlement takes beside what was pre-consumed. -/
def settleDraw (db : QuotaDB) (s : BillingSession) (quota : Int) : Draw :=
  let delta := quota - s.preConsumedQuota
  match s.funding with
  | .wallet _ => { wallet := delta, token := delta }
  | .subscription sub =>
    if Fits db sub.subscriptionId delta then { token := delta, subscription := delta } else {}

/-- The tables after a settlement of an open session. -/
theorem Funded.settle_db {st : SessionState} (h : Funded st.info st.db st.session) (quota : Int) :
    (st.settle quota).2.db =
      if quota - st.session.preConsumedQuota = 0 then st.db
      else
        match st.session.funding.settle st.db (quota - st.session.preConsumedQuota) with
        | .error _ => st.db
        | .ok db => db.addTokenQuota st.info.tokenId (-(quota - st.session.preConsumedQuota)) := by
  simp only [SessionState.settle, h.settled, h.fundingSettled, Bool.false_eq_true, if_false]
  split
  · rfl
  · cases st.session.funding.settle st.db (quota - st.session.preConsumedQuota) with
    | error e => rfl
    | ok db => simp only [ChargeState.settleToken_eq, h.isPlayground, Bool.false_eq_true, if_false]

/-- A delta on a subscription takes it from the token as well, if there is room. -/
theorem Funded.postConsume {info : RelayInfo} {db : QuotaDB} {s : BillingSession}
    (h : Funded info db s) {sub : SubscriptionFunding} (hF : s.funding = .subscription sub)
    {delta : Int} (hfits : Fits db sub.subscriptionId delta) (hne : delta ≠ 0)
    (hroom : 0 ≤ db.amountUsed sub.subscriptionId + delta) :
    ∃ db', db.postConsumeUserSubscriptionDelta sub.subscriptionId delta = .ok db' ∧
      Taken (s.funding.payer info) db (db'.addTokenQuota info.tokenId (-delta))
        { token := delta, subscription := delta } ∧
      (db'.subscriptions.find? sub.subscriptionId).isSome = true ∧
      ∀ more, Fits db' sub.subscriptionId more ↔ Fits db sub.subscriptionId (delta + more) := by
  have hsource := h.source
  have hlive := h.live
  unfold SourceFunded at hsource
  rw [hF] at hsource hlive ⊢
  obtain ⟨-, hid, -, -, hrow, -⟩ := hsource
  obtain ⟨db', hok, htaken, hrow', hafter⟩ := Taken.postConsume hlive hid hrow hfits hne
  have hmax : max 0 (db.amountUsed sub.subscriptionId + delta) - db.amountUsed sub.subscriptionId =
      delta := by omega
  have htoken := htaken.trans (Taken.addTokenQuota htaken.live delta)
  refine ⟨db', hok, ?_, hrow', hafter hroom⟩
  simpa [FundingSource.payer, hmax] using htoken

/-- What a settlement of an open session takes, and the room that it leaves in a subscription. -/
theorem Funded.settle_taken {st : SessionState} (h : Funded st.info st.db st.session) {quota : Int}
    (hnn : 0 ≤ quota) :
    Taken (st.session.funding.payer st.info) st.db (st.settle quota).2.db
        (settleDraw st.db st.session quota) ∧
      ∀ sub, st.session.funding = .subscription sub →
        ((st.settle quota).2.db.subscriptions.find? sub.subscriptionId).isSome = true ∧
        ∀ more, Fits (st.settle quota).2.db sub.subscriptionId more ↔
          Fits st.db sub.subscriptionId ((settleDraw st.db st.session quota).subscription + more) := by
  have hsource := h.source
  have hlive := h.live
  rw [h.settle_db quota]
  unfold SourceFunded at hsource
  unfold settleDraw
  generalize hdelta : quota - st.session.preConsumedQuota = delta
  dsimp only
  cases hF : st.session.funding with
  | wallet w =>
    rw [hF] at hsource hlive
    refine ⟨?_, nofun⟩
    by_cases hzero : delta = 0
    · rw [if_pos hzero, hzero]
      exact Taken.refl hlive
    · rw [if_neg hzero]
      simp only [FundingSource.settle, if_neg hzero, ChargeState.walletStep_eq]
      have hwallet := Taken.addUserQuota hlive delta
      have htoken := hwallet.trans (Taken.addTokenQuota hwallet.live delta)
      simpa [FundingSource.payer, hsource] using htoken
  | subscription sub =>
    rw [hF] at hsource hlive
    obtain ⟨-, -, -, hused, hrow, hfits⟩ := hsource
    dsimp only
    by_cases hzero : delta = 0
    · rw [if_pos hzero, hzero, if_pos hfits]
      refine ⟨Taken.refl hlive, ?_⟩
      rintro sub' ⟨⟩
      exact ⟨hrow, fun more => by rw [zero_add]⟩
    · rw [if_neg hzero]
      simp only [FundingSource.settle, if_neg hzero]
      by_cases hroom : Fits st.db sub.subscriptionId delta
      · obtain ⟨db', hok, htaken, hrow', hafter⟩ := h.postConsume hF hroom hzero (by omega)
        rw [hF] at htaken
        simp only [hok, if_pos hroom]
        refine ⟨htaken, ?_⟩
        rintro sub' ⟨⟩
        exact ⟨hrow', hafter⟩
      · obtain ⟨e, herror⟩ := postConsume_of_not_fits hzero hroom
        simp only [herror, if_neg hroom]
        refine ⟨Taken.refl hlive, ?_⟩
        rintro sub' ⟨⟩
        exact ⟨hrow, fun more => by rw [zero_add]⟩

/-! ## The adjustment -/

namespace BilledTask

variable {t : BilledTask} {payer : Payer} {db : QuotaDB} {delta : Int}

/-- The token of a live task is debited by the difference. -/
theorem taskAdjustTokenQuota_eq (htoken : 0 < t.tokenId)
    (hlive : (db.tokens.find? t.tokenId).isSome = true) (hne : delta ≠ 0) :
    t.taskAdjustTokenQuota db delta = db.addTokenQuota t.tokenId (-delta) := by
  obtain ⟨row, hfind⟩ := Option.isSome_iff_exists.mp hlive
  have hstep : (if 0 < delta then db.decreaseTokenQuota t.tokenId delta
      else db.increaseTokenQuota t.tokenId (-delta)) =
        .ok (db.addTokenQuota t.tokenId (-delta)) := by
    split
    · next hpos => exact QuotaDB.decreaseTokenQuota_of_nonneg _ _ hpos.le
    · exact QuotaDB.increaseTokenQuota_of_nonneg _ _ (by omega)
  rw [taskAdjustTokenQuota, if_neg (by omega), hfind, hstep]
  rfl

/-- A task that is not paid by a subscription is adjusted on the wallet of its user. -/
theorem adjust_wallet (hsource : t.taskIsSubscription = false) (hlive : payer.Live db)
    (huser : payer.userId = t.userId) (htoken : payer.tokenId = t.tokenId) (hpos : 0 < t.tokenId)
    (hne : delta ≠ 0) :
    ∃ db', t.adjust db delta = some db' ∧
      Taken payer db db' { wallet := delta, token := delta } := by
  have hwallet := Taken.addUserQuota hlive delta
  have htaken := hwallet.trans (Taken.addTokenQuota hwallet.live delta)
  refine ⟨_, ?_, by simpa using htaken⟩
  have hlive' := hwallet.live.token
  rw [huser, htoken] at hlive'
  rw [adjust, taskAdjustFunding, hsource, if_neg Bool.false_ne_true, ChargeState.walletStep_eq,
    huser, htoken]
  exact congrArg some (taskAdjustTokenQuota_eq hpos hlive' hne)

/-- A task that a subscription pays for is adjusted on it, if there is room. -/
theorem adjust_subscription (hsource : t.taskIsSubscription = true) (hlive : payer.Live db)
    (htoken : payer.tokenId = t.tokenId) (hid : payer.subscriptionId = t.subscriptionId)
    (hpos : 0 < t.tokenId)
    (hrow : (db.subscriptions.find? payer.subscriptionId).isSome = true) (hne : delta ≠ 0) :
    if Fits db payer.subscriptionId delta then
      ∃ db', t.adjust db delta = some db' ∧
        Taken payer db db' ⟨0, delta, max 0 (db.amountUsed payer.subscriptionId + delta) -
          db.amountUsed payer.subscriptionId⟩
    else t.adjust db delta = none := by
  have hne' : payer.subscriptionId ≠ 0 := by
    rw [taskIsSubscription, Bool.and_eq_true, decide_eq_true_eq, decide_eq_true_eq] at hsource
    omega
  split
  · next hfits =>
    obtain ⟨db', hok, htaken, -, -⟩ := Taken.postConsume hlive hne' hrow hfits hne
    have hboth := htaken.trans (Taken.addTokenQuota htaken.live delta)
    refine ⟨_, ?_, by simpa using hboth⟩
    have hlive' := htaken.live.token
    rw [htoken] at hlive'
    rw [adjust, taskAdjustFunding, hsource, if_pos rfl, ← hid, hok, htoken]
    exact congrArg some (taskAdjustTokenQuota_eq hpos hlive' hne)
  · next hfits =>
    obtain ⟨e, herror⟩ := postConsume_of_not_fits hne hfits
    rw [adjust, taskAdjustFunding, hsource, if_pos rfl, ← hid, herror]

end BilledTask

/-! ## Tasks on a prepaid session -/

/-- The task of a request that a source other than a tenant's credit pays for. -/
structure PaidBy (t : BilledTask) (info : RelayInfo) (F : FundingSource) : Prop where
  userId : t.userId = info.userId
  tokenId : t.tokenId = info.tokenId
  tokenId_pos : 0 < t.tokenId
  source : match F with
    | .wallet _ => t.taskIsSubscription = false
    | .subscription sub => t.taskIsSubscription = true ∧ t.subscriptionId = sub.subscriptionId

/-- An adjustment of a charge at `quota` to `actualQuota` takes what a settlement at `actualQuota`
    takes: always of a wallet, and of a subscription if there is room for both, or if the
    settlement and the adjustment both find no room. -/
def SessionAdjusts (db : QuotaDB) (s : BillingSession) (quota actualQuota : Int) : Prop :=
  match s.funding with
  | .wallet _ => True
  | .subscription sub =>
    if Fits db sub.subscriptionId (quota - s.preConsumedQuota) then
      quota = s.preConsumedQuota ∨ Fits db sub.subscriptionId (actualQuota - s.preConsumedQuota)
    else ¬ Fits db sub.subscriptionId (actualQuota - quota)

theorem settleDraw_wallet {s : BillingSession} {w : WalletFunding} (hF : s.funding = .wallet w)
    (db : QuotaDB) (quota : Int) :
    settleDraw db s quota = ⟨quota - s.preConsumedQuota, quota - s.preConsumedQuota, 0⟩ := by
  simp only [settleDraw, hF]

theorem settleDraw_of_fits {db : QuotaDB} {s : BillingSession} {sub : SubscriptionFunding}
    (hF : s.funding = .subscription sub) {quota : Int}
    (h : Fits db sub.subscriptionId (quota - s.preConsumedQuota)) :
    settleDraw db s quota = ⟨0, quota - s.preConsumedQuota, quota - s.preConsumedQuota⟩ := by
  simp only [settleDraw, hF, if_pos h]

theorem settleDraw_of_not_fits {db : QuotaDB} {s : BillingSession} {sub : SubscriptionFunding}
    (hF : s.funding = .subscription sub) {quota : Int}
    (h : ¬ Fits db sub.subscriptionId (quota - s.preConsumedQuota)) :
    settleDraw db s quota = ⟨0, 0, 0⟩ := by
  simp only [settleDraw, hF, if_neg h]

/-- On a wallet the difference is taken after what the settlement took. -/
theorem Funded.adjust_wallet {st : SessionState} (h : Funded st.info st.db st.session)
    {t : BilledTask} (ht : PaidBy t st.info st.session.funding) {w : WalletFunding}
    (hF : st.session.funding = .wallet w) {quota actualQuota : Int} (hquota : 0 ≤ quota)
    (hne : actualQuota ≠ quota) :
    Taken (st.session.funding.payer st.info) st.db
      ((t.adjust (st.settle quota).2.db (actualQuota - quota)).getD (st.settle quota).2.db)
      (settleDraw st.db st.session actualQuota) := by
  obtain ⟨htaken, -⟩ := h.settle_taken hquota
  have hpaid := ht.source
  rw [settleDraw_wallet hF] at htaken ⊢
  rw [hF] at htaken hpaid ⊢
  have hdelta : actualQuota - quota ≠ 0 := by omega
  obtain ⟨db', hadjust, htaken'⟩ := BilledTask.adjust_wallet hpaid htaken.live
    ht.userId.symm ht.tokenId.symm ht.tokenId_pos hdelta
  have htotal := htaken.trans htaken'
  rw [hadjust]
  have hsum : quota - st.session.preConsumedQuota + (actualQuota - quota) =
    actualQuota - st.session.preConsumedQuota := by omega
  rwa [hsum] at htotal

/-- A subscription has to have the room twice. -/
theorem Funded.adjust_subscription {st : SessionState} (h : Funded st.info st.db st.session)
    {t : BilledTask} (ht : PaidBy t st.info st.session.funding) {sub : SubscriptionFunding}
    (hF : st.session.funding = .subscription sub) {quota actualQuota : Int} (hquota : 0 ≤ quota)
    (hactual : 0 ≤ actualQuota) (hne : actualQuota ≠ quota) :
    ∃ d, Taken (st.session.funding.payer st.info) st.db
        ((t.adjust (st.settle quota).2.db (actualQuota - quota)).getD (st.settle quota).2.db) d ∧
      (d = settleDraw st.db st.session actualQuota ↔
        SessionAdjusts st.db st.session quota actualQuota) := by
  obtain ⟨htaken, hroom⟩ := h.settle_taken hquota
  obtain ⟨hrow, hafter⟩ := hroom sub hF
  have hsource := h.source
  have hpaid := ht.source
  unfold SourceFunded at hsource
  simp only [SessionAdjusts, hF] at hsource hpaid ⊢
  rw [hF] at htaken
  obtain ⟨-, -, hpre, hused, -, hfits⟩ := hsource
  have hdelta : actualQuota - quota ≠ 0 := by omega
  have hadjust := BilledTask.adjust_subscription hpaid.1 htaken.live ht.tokenId.symm
    hpaid.2.symm ht.tokenId_pos hrow hdelta
  have hsettled : (st.settle quota).2.db.amountUsed sub.subscriptionId =
    st.db.amountUsed sub.subscriptionId + _ := htaken.subscription
  have hpayer : ((FundingSource.subscription sub).payer st.info).subscriptionId =
    sub.subscriptionId := rfl
  simp only [hpayer, hafter, hsettled] at hadjust
  by_cases hfirst : Fits st.db sub.subscriptionId (quota - st.session.preConsumedQuota)
  · -- the submission was settled
    have hsum : quota - st.session.preConsumedQuota + (actualQuota - quota) =
      actualQuota - st.session.preConsumedQuota := by omega
    rw [settleDraw_of_fits hF hfirst] at htaken hadjust
    simp only [hsum, add_assoc] at hadjust
    rw [if_pos hfirst]
    by_cases hsecond : Fits st.db sub.subscriptionId (actualQuota - st.session.preConsumedQuota)
    · rw [if_pos hsecond] at hadjust
      obtain ⟨db', hadjust, htaken'⟩ := hadjust
      have htotal := htaken.trans htaken'
      rw [hadjust, settleDraw_of_fits hF hsecond]
      refine ⟨_, htotal, iff_of_true ?_ (.inr hsecond)⟩
      simp only [Draw.mk.injEq]
      omega
    · rw [if_neg hsecond] at hadjust
      rw [hadjust, settleDraw_of_not_fits hF hsecond]
      refine ⟨_, htaken, ?_⟩
      simp only [Draw.mk.injEq, true_and, hsecond, or_false]
      omega
  · -- the settlement of the submission was refused
    have hover : st.session.preConsumedQuota < quota := by
      by_contra hle
      exact hfirst (hfits.mono (by omega))
    rw [settleDraw_of_not_fits hF hfirst] at htaken hadjust
    simp only [zero_add, add_zero] at hadjust
    rw [if_neg hfirst]
    by_cases hsecond : Fits st.db sub.subscriptionId (actualQuota - quota)
    · rw [if_pos hsecond] at hadjust
      obtain ⟨db', hadjust, htaken'⟩ := hadjust
      have htotal := htaken.trans htaken'
      rw [hadjust]
      refine ⟨_, htotal, iff_of_false ?_ (not_not.mpr hsecond)⟩
      intro heq
      have htoken := congrArg Draw.token heq
      by_cases hlast : Fits st.db sub.subscriptionId (actualQuota - st.session.preConsumedQuota)
      · rw [settleDraw_of_fits hF hlast] at htoken
        dsimp only at htoken
        omega
      · rw [settleDraw_of_not_fits hF hlast] at htoken
        dsimp only at htoken
        omega
    · rw [if_neg hsecond] at hadjust
      have hup : quota < actualQuota := by
        by_contra hle
        exact hsecond (hfits.mono (by omega))
      have hlast : ¬ Fits st.db sub.subscriptionId
          (actualQuota - st.session.preConsumedQuota) := by
        intro hlast
        exact hfirst (hlast.mono (by omega))
      rw [hadjust, settleDraw_of_not_fits hF hlast]
      exact ⟨_, htaken, iff_of_true rfl hsecond⟩

/-- What settling at `quota` and adjusting to another quota takes. -/
theorem Funded.adjust_taken {st : SessionState} (h : Funded st.info st.db st.session)
    {t : BilledTask} (ht : PaidBy t st.info st.session.funding) {quota actualQuota : Int}
    (hquota : 0 ≤ quota) (hactual : 0 ≤ actualQuota) (hne : actualQuota ≠ quota) :
    ∃ d, Taken (st.session.funding.payer st.info) st.db
        ((t.adjust (st.settle quota).2.db (actualQuota - quota)).getD (st.settle quota).2.db) d ∧
      (d = settleDraw st.db st.session actualQuota ↔
        SessionAdjusts st.db st.session quota actualQuota) := by
  cases hF : st.session.funding with
  | wallet w =>
    rw [← hF]
    refine ⟨_, h.adjust_wallet ht hF hquota hne, ?_⟩
    simp only [SessionAdjusts, hF]
  | subscription sub =>
    rw [← hF]
    exact h.adjust_subscription ht hF hquota hactual hne

/-! ## Settling a tenant's session -/

/-- The rows that a tenant's session draws on. -/
def TenantCreditBillingSession.payer (s : TenantCreditBillingSession) (c : ChargeState) : Payer :=
  match s.prepaid with
  | none => c.payer
  | some p => p.funding.payer c.info

/-- What the settlement of a tenant's session takes of its prepaid part. -/
def tenantDraw (db : QuotaDB) (s : TenantCreditBillingSession) (quota : Int) : Draw :=
  match s.prepaid with
  | none => ⟨0, 0, 0⟩
  | some p => settleDraw db p (min quota p.preConsumedQuota)

/-- A tenant's open session whose prepaid part draws on its request. -/
structure TenantFunded (db₀ : DB) (quota₀ : QuotaDB) (c : ChargeState)
    (s : TenantCreditBillingSession) : Prop extends TenantOpened db₀ quota₀ c s where
  live : c.payer.Live c.quota
  funded : ∀ p, s.prepaid = some p → Funded c.info c.quota p
  mode : s.mode ≠ .prepaid

/-- A session that draws on its payer takes nothing when it settles at what it has. -/
theorem Funded.settleDraw_self {info : RelayInfo} {db : QuotaDB} {s : BillingSession}
    (h : Funded info db s) : settleDraw db s s.preConsumedQuota = ⟨0, 0, 0⟩ := by
  have hsource := h.source
  unfold SourceFunded at hsource
  cases hF : s.funding with
  | wallet w => rw [settleDraw_wallet hF, sub_self]
  | subscription sub =>
    rw [hF] at hsource
    have hfits : Fits db sub.subscriptionId (s.preConsumedQuota - s.preConsumedQuota) := by
      rw [sub_self]
      exact hsource.2.2.2.2.2
    rw [settleDraw_of_fits hF hfits, sub_self]

/-- The target above the prepaid part. -/
theorem TenantFunded.target_eq {db₀ : DB} {quota₀ : QuotaDB} {c : ChargeState}
    {s : TenantCreditBillingSession} (h : TenantFunded db₀ quota₀ c s) {quota : Int}
    (hnn : 0 ≤ quota) : s.targetPostpaidQuota quota = max 0 (quota - s.prepaidConsumed) := by
  rw [targetPostpaidQuota_eq]
  unfold tenantPostpaidQuota
  have hpre : 0 ≤ s.prepaidConsumed := by
    unfold TenantCreditBillingSession.prepaidConsumed
    split
    · exact le_refl 0
    · next p hp => exact (h.funded p hp).pre_nonneg
  split
  · omega
  · cases hmode : s.mode with
    | prepaid => exact absurd hmode h.mode
    | postpaid =>
      have hzero : s.prepaidConsumed = 0 := by
        simp [TenantCreditBillingSession.prepaidConsumed, h.postpaid hmode]
      dsimp only
      omega
    | mixed =>
      dsimp only
      split
      · omega
      · omega

/-- A refused reservation is refused by the tenant's credit. -/
theorem reservePostpaid_refused {st st' : TenantSessionState} {target : Int} {e : String}
    (hnn : 0 ≤ target) (h : st.reservePostpaid target = (some e, st')) :
    reserveTenantCredit st.db st.info.tenantId (target - st.session.reservedPostpaidQuota) =
      .error e := by
  have hlt := (reservePostpaid_error h).2
  rw [max_eq_right hnn] at hlt
  simp only [TenantSessionState.reservePostpaid, if_neg (not_lt.mpr hnn), if_pos hlt] at h
  split at h
  · cases h
  split at h
  · cases h
  split at h
  · cases h
  split at h
  · next e' herror =>
    rw [herror]
    have := (Prod.mk.inj h).1
    exact congrArg Except.error (Option.some.inj this)
  · cases h

/-- A settlement of a tenant's session is refused by the credit and changes nothing, or it
    reserves the target. -/
structure TenantSettled (db₀ : DB) (c : ChargeState) (s : TenantCreditBillingSession)
    (quota : Int) (st : TenantSessionState) : Prop where
  taken : Taken (s.payer c) c.quota st.quota (tenantDraw c.quota s quota)
  credit : BillingState.creditTaken st.db c.info.tenantId =
    BillingState.creditTaken db₀ c.info.tenantId + st.session.reservedPostpaidQuota
  reserved : (st.session.reservedPostpaidQuota = s.targetPostpaidQuota quota ∧
      (s.reservedPostpaidQuota < s.targetPostpaidQuota quota →
        ∃ db, reserveTenantCredit c.db c.info.tenantId
          (s.targetPostpaidQuota quota - s.reservedPostpaidQuota) = .ok db)) ∨
    (st.session.reservedPostpaidQuota = s.reservedPostpaidQuota ∧
      s.reservedPostpaidQuota < s.targetPostpaidQuota quota ∧
      ∃ e, reserveTenantCredit c.db c.info.tenantId
        (s.targetPostpaidQuota quota - s.reservedPostpaidQuota) = .error e)

theorem TenantFunded.payer_live {db₀ : DB} {quota₀ : QuotaDB} {c : ChargeState}
    {s : TenantCreditBillingSession} (h : TenantFunded db₀ quota₀ c s) :
    (s.payer c).Live c.quota := by
  unfold TenantCreditBillingSession.payer
  split
  · exact h.live
  · next p hp => exact (h.funded p hp).live

/-- A prepaid part that settles within what it has is not refused. -/
theorem TenantFunded.prepaid_settle {db₀ : DB} {quota₀ : QuotaDB} {c : ChargeState}
    {s : TenantCreditBillingSession} (h : TenantFunded db₀ quota₀ c s) {p : BillingSession}
    (hp : s.prepaid = some p) {quota : Int} (hnn : 0 ≤ quota) :
    (((TenantOpened.state c s).prepaidState p).settle (min quota p.preConsumedQuota)).1 = none ∧
      Taken (s.payer c) c.quota
        (((TenantOpened.state c s).prepaidState p).settle
          (min quota p.preConsumedQuota)).2.db (tenantDraw c.quota s quota) := by
  have hfunded : Funded ((TenantOpened.state c s).prepaidState p).info
    ((TenantOpened.state c s).prepaidState p).db
    ((TenantOpened.state c s).prepaidState p).session := h.funded p hp
  have hprepaid := h.prepaid
  rw [hp] at hprepaid
  have hopened : Opened quota₀ ((TenantOpened.state c s).prepaidState p).info
    ((TenantOpened.state c s).prepaidState p).db
    ((TenantOpened.state c s).prepaidState p).session := hprepaid
  have hmin : 0 ≤ min quota p.preConsumedQuota := le_min hnn hfunded.pre_nonneg
  refine ⟨settle_succeeds hopened (settleRoom_of_le hprepaid hmin (min_le_right _ _)), ?_⟩
  have htaken := (hfunded.settle_taken hmin).1
  simp only [TenantCreditBillingSession.payer, tenantDraw, hp]
  exact htaken

theorem TenantFunded.settle {db₀ : DB} {quota₀ : QuotaDB} {c : ChargeState}
    {s : TenantCreditBillingSession} (h : TenantFunded db₀ quota₀ c s) {quota : Int}
    (hnn : 0 ≤ quota) :
    TenantSettled db₀ c s quota ((TenantOpened.state c s).settle quota).2 := by
  have htarget := targetPostpaidQuota_nonneg s quota
  have hreserved := h.ok.reserved_nonneg
  have hlive := h.payer_live
  have hout := settle_outcome (TenantOpened.state c s) quota h.settled
  obtain ⟨db₁, reserved, hframe⟩ := reservePostpaid_frame (TenantOpened.state c s)
    ((TenantOpened.state c s).session.targetPostpaidQuota quota)
  obtain ⟨-, hsettledOk, heffect⟩ := @settle_sessionOk c.info.tenantId (TenantOpened.state c s)
    h.tenant_pos h.ok h.settled quota h.credit.reserved_nonneg
  -- nothing that the session gives back is missing from the account
  have hcredit : BillingState.creditTaken ((TenantOpened.state c s).settle quota).2.db
      c.info.tenantId = BillingState.creditTaken db₀ c.info.tenantId +
        ((TenantOpened.state c s).settle quota).2.session.reservedPostpaidQuota := by
    have hopened := h.credit.reserved
    have hnn₀ := h.credit_nonneg
    have hasked : (TenantOpened.state c s).session.asked
        ((TenantOpened.state c s).session.targetPostpaidQuota quota) =
          s.reservedPostpaidQuota - s.targetPostpaidQuota quota := by
      simp [TenantOpened.state, TenantCreditBillingSession.asked, h.settled]
    have hloss : ((TenantOpened.state c s).db.credit c.info.tenantId).loss
        ((TenantOpened.state c s).session.asked
          ((TenantOpened.state c s).session.targetPostpaidQuota quota)) = 0 := by
      rw [hasked, Credit.loss_eq_zero_iff]
      show _ ≤ (c.db.credit c.info.tenantId).reserved
      omega
    rw [hloss] at heffect
    have hafter := heffect.reserved
    rw [BillingState.creditTaken, BillingState.creditTaken, heffect.unbilled]
    simp only [TenantOpened.state] at hafter ⊢
    rw [h.credit.unbilled]
    omega
  -- a larger reservation is the credit's
  have hgrown : ∀ {st₁ : TenantSessionState}, (TenantOpened.state c s).reservePostpaid
      ((TenantOpened.state c s).session.targetPostpaidQuota quota) = (none, st₁) →
      s.reservedPostpaidQuota < s.targetPostpaidQuota quota →
        ∃ db, reserveTenantCredit c.db c.info.tenantId
          (s.targetPostpaidQuota quota - s.reservedPostpaidQuota) = .ok db := by
    intro st₁ hres hlt
    obtain ⟨db', hmoved, -⟩ := reservePostpaid_ok h.tenant_pos h.settled h.refunded htarget hres
    simp only [TenantOpened.state] at hmoved
    cases hmoved with
    | grown hlt hok => exact ⟨db', hok⟩
    | shrunk hgt hok => omega
    | stayed heq hok => omega
  generalize (TenantOpened.state c s).settle quota = r at hout hsettledOk hcredit
  cases hout with
  | refused e hres =>
    have hlt : s.reservedPostpaidQuota < s.targetPostpaidQuota quota := by
      have := (reservePostpaid_error hres).2
      simp only [TenantOpened.state] at this
      omega
    refine ⟨?_, hcredit, .inr ⟨rfl, hlt, e, reservePostpaid_refused htarget hres⟩⟩
    have hzero : tenantDraw c.quota s quota = ⟨0, 0, 0⟩ := by
      unfold tenantDraw
      split
      · rfl
      · next p hp =>
        have hpre := prepaidConsumed_of_some hp
        have hover : p.preConsumedQuota < quota := by
          have := h.target_eq hnn
          omega
        rw [min_eq_right hover.le]
        exact (h.funded p hp).settleDraw_self
    rw [hzero]
    exact Taken.refl hlive
  | postpaid st₁ hres hp =>
    have hdone := hsettledOk.reserved rfl h.refunded
    rw [hres] at hframe
    dsimp only at hframe
    subst hframe
    refine ⟨?_, hcredit, .inl ⟨hdone, hgrown hres⟩⟩
    have hp' : s.prepaid = none := hp
    have hzero : tenantDraw c.quota s quota = ⟨0, 0, 0⟩ := by
      simp only [tenantDraw, hp']
    rw [hzero]
    exact Taken.refl hlive
  | mixed st₁ p p' hres hp hset =>
    have hdone := hsettledOk.reserved rfl h.refunded
    obtain ⟨-, htaken⟩ := h.prepaid_settle hp hnn
    rw [hset] at htaken
    exact ⟨htaken, hcredit, .inl ⟨hdone, hgrown hres⟩⟩
  | undone st₁ p p' e hres hp hset =>
    obtain ⟨hok, -⟩ := h.prepaid_settle hp hnn
    rw [hset] at hok
    cases hok

/-! ## The adjusted charge -/

/-- `RefundTaskQuota`, or `RecalculateTaskQuota` with the actual quota. -/
inductive TaskAdjustment where
  | refund
  | recalculate (actualQuota : Nat)
  deriving DecidableEq

namespace TaskAdjustment

/-- What the task is to cost in the end. -/
def actualQuota : TaskAdjustment → Nat
  | .refund => 0
  | .recalculate actualQuota => actualQuota

/-- A recalculation to nothing is not made. -/
def skipped : TaskAdjustment → Bool
  | .refund => false
  | .recalculate actualQuota => actualQuota = 0

end TaskAdjustment

namespace BilledTask

/-- The tables after the adjustment of a task. -/
def adjusted (t : BilledTask) (db : QuotaDB) : TaskAdjustment → QuotaDB
  | .refund => t.refundTaskQuota db
  | .recalculate actualQuota => (t.recalculateTaskQuota db actualQuota).2

theorem adjusted_eq (t : BilledTask) (db : QuotaDB) (adjustment : TaskAdjustment) :
    t.adjusted db adjustment =
      if adjustment.skipped = true ∨ adjustment.actualQuota = t.quota then db
      else (t.adjust db (adjustment.actualQuota - t.quota)).getD db := by
  cases adjustment with
  | refund =>
    show t.refundTaskQuota db = _
    simp only [refundTaskQuota, TaskAdjustment.skipped, TaskAdjustment.actualQuota,
      Bool.false_eq_true, false_or, Nat.cast_zero, zero_sub, eq_comm (a := (0 : Int))]
  | recalculate actualQuota =>
    have hskipped : (TaskAdjustment.recalculate actualQuota).skipped = true ↔
        (actualQuota : Int) ≤ 0 := by
      simp [TaskAdjustment.skipped]
    show (t.recalculateTaskQuota db actualQuota).2 = _
    unfold recalculateTaskQuota
    simp only [hskipped, TaskAdjustment.actualQuota]
    split
    · rfl
    · cases t.adjust db (actualQuota - t.quota) with
      | none => rfl
      | some db' => rfl

end BilledTask

namespace BillingState

/-- A request whose task was submitted at `quota` and adjusted. -/
def taskCharge (st : BillingState) (quota : Nat) (adjustment : TaskAdjustment) : ChargeState :=
  let (st, t) := st.submitTask quota
  { st.charge with quota := t.adjusted st.charge.quota adjustment }

/-- An adjustment goes back to the sources of the charge: there is nothing to adjust, or a prepaid
    session adjusts it, or a tenant's wallet has paid, and would have paid, for all of it. -/
def AdjustsBack (st : BillingState) (quota actualQuota : Int) : Prop :=
  actualQuota = quota ∨
    match st.billing with
    | none => False
    | some (.session s) => SessionAdjusts st.charge.quota s quota actualQuota
    | some (.tenant s) => ∃ p w, s.prepaid = some p ∧ p.funding = .wallet w ∧
        quota ≤ p.preConsumedQuota ∧ actualQuota ≤ p.preConsumedQuota

/-- A submission charged nothing: it is free, or nothing was reserved for it and the tenant's
    credit refuses it. -/
def ChargesNothing (st : BillingState) (quota : Int) : Prop :=
  quota = 0 ∨
    match st.billing with
    | some (.tenant s) => s.prepaidConsumed = 0 ∧ s.reservedPostpaidQuota = 0 ∧
        ∃ e, reserveTenantCredit st.charge.db st.charge.info.tenantId quota = .error e
    | _ => False

end BillingState

/-- The sources of a request have the same left, so that the same was taken of each. -/
structure SameCharge (info : RelayInfo) (c c' : ChargeState) : Prop where
  wallet : c.quota.getUserQuota info.userId = c'.quota.getUserQuota info.userId
  token : c.quota.tokenRemain info.tokenId = c'.quota.tokenRemain info.tokenId
  subscription : c.quota.amountUsed = c'.quota.amountUsed
  credit : BillingState.creditTaken c.db info.tenantId = BillingState.creditTaken c'.db info.tenantId

/-- Two charges of one payer compare by what they took. -/
theorem sameCharge_iff {info : RelayInfo} {payer : Payer} (huser : payer.userId = info.userId)
    (htoken : payer.tokenId = info.tokenId) {db : QuotaDB} {c c' : ChargeState} {d d' : Draw}
    (h : Taken payer db c.quota d) (h' : Taken payer db c'.quota d') :
    SameCharge info c c' ↔ d = d' ∧
      BillingState.creditTaken c.db info.tenantId =
        BillingState.creditTaken c'.db info.tenantId := by
  rw [← Taken.same_iff h h', huser, htoken]
  constructor
  · rintro ⟨hwallet, htoken, hsubscription, hcredit⟩
    exact ⟨⟨hwallet, htoken, hsubscription⟩, hcredit⟩
  · rintro ⟨⟨hwallet, htoken, hsubscription⟩, hcredit⟩
    exact ⟨hwallet, htoken, hsubscription, hcredit⟩

theorem FundingSource.payer_userId (info : RelayInfo) (F : FundingSource) :
    (F.payer info).userId = info.userId := by
  cases F <;> rfl

theorem FundingSource.payer_tokenId (info : RelayInfo) (F : FundingSource) :
    (F.payer info).tokenId = info.tokenId := by
  cases F <;> rfl

/-- `Settle` notes on the request what it adds to a subscription, and nothing else. -/
theorem settle_info (st : SessionState) (quota : Int) :
    ∃ delta, (st.settle quota).2.info = { st.info with subscriptionPostDelta := delta } := by
  have hsame : st.info = { st.info with subscriptionPostDelta := st.info.subscriptionPostDelta } :=
    rfl
  unfold SessionState.settle
  dsimp only
  split
  · exact ⟨_, hsame⟩
  split
  · exact ⟨_, hsame⟩
  split
  · exact ⟨_, hsame⟩
  split
  · dsimp only
    split
    · exact ⟨_, rfl⟩
    · exact ⟨_, hsame⟩
  · dsimp only
    split
    · exact ⟨_, rfl⟩
    · exact ⟨_, hsame⟩

/-! ## The task of a prepaid session -/

/-- A settlement takes as little as one at nothing only if it is one. -/
theorem Funded.settleDraw_eq_iff {info : RelayInfo} {db : QuotaDB} {s : BillingSession}
    (h : Funded info db s) {quota : Int} :
    settleDraw db s quota = settleDraw db s 0 ↔ quota = 0 := by
  have hsource := h.source
  unfold SourceFunded at hsource
  cases hF : s.funding with
  | wallet w =>
    rw [settleDraw_wallet hF, settleDraw_wallet hF]
    simp only [Draw.mk.injEq, and_true]
    omega
  | subscription sub =>
    rw [hF] at hsource
    obtain ⟨-, -, hpre, -, -, hfits⟩ := hsource
    have hnothing : Fits db sub.subscriptionId (0 - s.preConsumedQuota) := hfits.mono (by omega)
    rw [settleDraw_of_fits hF hnothing]
    by_cases hquota : Fits db sub.subscriptionId (quota - s.preConsumedQuota)
    · rw [settleDraw_of_fits hF hquota]
      simp only [Draw.mk.injEq, true_and]
      omega
    · rw [settleDraw_of_not_fits hF hquota]
      have hne : quota ≠ 0 := by
        rintro rfl
        exact hquota hnothing
      simp only [Draw.mk.injEq, true_and]
      omega

/-- The row of the task tells its source. -/
theorem Funded.paidBy {info info' : RelayInfo} {db : QuotaDB} {s : BillingSession}
    (h : Funded info db s) (hsource : info.billingSource = s.funding.source)
    (hpos : 0 < info.tokenId) {delta : Int}
    (hinfo : info' = { info with subscriptionPostDelta := delta }) (quota : Int) :
    PaidBy ⟨info'.userId, quota, info'.billingSource, info'.subscriptionId, info'.tokenId⟩ info
      s.funding := by
  subst hinfo
  refine ⟨rfl, rfl, hpos, ?_⟩
  have hfunded := h.source
  unfold SourceFunded at hfunded
  cases hF : s.funding with
  | wallet w =>
    rw [hF] at hsource
    simp [BilledTask.taskIsSubscription, hsource, FundingSource.source]
  | subscription sub =>
    rw [hF] at hsource hfunded
    obtain ⟨hnoted, hid, -⟩ := hfunded
    refine ⟨?_, hnoted⟩
    simp [BilledTask.taskIsSubscription, hsource, hnoted, FundingSource.source,
      Nat.pos_iff_ne_zero, hid]

/-- The task of a prepaid request. -/
theorem session_adjustment_iff {c : ChargeState} {s : BillingSession}
    (h : Funded c.info c.quota s) (hsource : c.info.billingSource = s.funding.source)
    (hpos : 0 < c.info.tokenId) {request : BillingState}
    (hrequest : request = { charge := c, billing := some (.session s) }) (quota : Nat)
    (adjustment : TaskAdjustment) :
    SameCharge c.info (request.taskCharge quota adjustment)
        (request.settleBilling adjustment.actualQuota).2.charge ↔
      if adjustment.skipped then request.ChargesNothing quota
      else request.AdjustsBack quota adjustment.actualQuota := by
  have hfunded : Funded (SessionState.mk c.quota c.info s).info (SessionState.mk c.quota c.info s).db
    (SessionState.mk c.quota c.info s).session := h
  have hquota : (0 : Int) ≤ quota := Int.natCast_nonneg quota
  have hactual : (0 : Int) ≤ adjustment.actualQuota := Int.natCast_nonneg _
  obtain ⟨delta, hinfo⟩ := settle_info ⟨c.quota, c.info, s⟩ quota
  have hpaid := hfunded.paidBy hsource hpos hinfo quota
  generalize htask : (BilledTask.mk _ (quota : Int) _ _ _) = t at hpaid
  have htaskQuota : t.quota = quota := by rw [← htask]
  have hsettled := (hfunded.settle_taken hquota).1
  have hsync : Taken (s.funding.payer c.info) c.quota
      (request.settleBilling adjustment.actualQuota).2.charge.quota
      (settleDraw c.quota s adjustment.actualQuota) := by
    rw [hrequest]
    exact (hfunded.settle_taken hactual).1
  have hcharge : (request.taskCharge quota adjustment).quota =
      t.adjusted (SessionState.settle ⟨c.quota, c.info, s⟩ quota).2.db adjustment := by
    rw [hrequest, ← htask]
    rfl
  have hcredit : BillingState.creditTaken (request.taskCharge quota adjustment).db c.info.tenantId =
      BillingState.creditTaken (request.settleBilling adjustment.actualQuota).2.charge.db
        c.info.tenantId := by
    rw [hrequest]
    rfl
  have hcompare : ∀ {d : Draw}, Taken (s.funding.payer c.info) c.quota
      (request.taskCharge quota adjustment).quota d →
      (SameCharge c.info (request.taskCharge quota adjustment)
        (request.settleBilling adjustment.actualQuota).2.charge ↔
          d = settleDraw c.quota s adjustment.actualQuota) := by
    intro d hd
    rw [sameCharge_iff (s.funding.payer_userId _) (s.funding.payer_tokenId _) hd hsync,
      and_iff_left hcredit]
  rw [BilledTask.adjusted_eq, htaskQuota] at hcharge
  by_cases hskipped : adjustment.skipped = true
  · -- the submission stays as it was settled
    have hzero : adjustment.actualQuota = 0 := by
      cases adjustment with
      | refund => rfl
      | recalculate actualQuota =>
        show actualQuota = 0
        simpa [TaskAdjustment.skipped] using hskipped
    rw [if_pos (.inl hskipped)] at hcharge
    rw [if_pos hskipped, hcompare (hcharge ▸ hsettled), hzero, Nat.cast_zero, h.settleDraw_eq_iff]
    simp only [BillingState.ChargesNothing, hrequest, or_false]
  · rw [if_neg hskipped]
    by_cases hsame : (adjustment.actualQuota : Int) = quota
    · rw [if_pos (.inr hsame)] at hcharge
      rw [hcompare (hcharge ▸ hsettled), hsame]
      exact iff_of_true rfl (.inl rfl)
    · rw [if_neg (by simp [hskipped, hsame])] at hcharge
      obtain ⟨d, htaken, hd⟩ := hfunded.adjust_taken hpaid hquota hactual hsame
      rw [hcompare (hcharge ▸ htaken), hd]
      simp only [BillingState.AdjustsBack, hrequest, hsame, false_or]

/-! ## The task of a tenant -/

theorem tenantSettle_info (st : TenantSessionState) (hsettled : st.session.settled = false)
    (quota : Int) :
    ∃ delta, (st.settle quota).2.info = { st.info with subscriptionPostDelta := delta } := by
  have hsame : st.info = { st.info with subscriptionPostDelta := st.info.subscriptionPostDelta } :=
    rfl
  have hout := settle_outcome st quota hsettled
  obtain ⟨db₁, reserved, hframe⟩ :=
    reservePostpaid_frame st (st.session.targetPostpaidQuota quota)
  generalize st.settle quota = r at hout
  cases hout with
  | refused e hres => exact ⟨_, hsame⟩
  | postpaid st₁ hres hp =>
    rw [hres] at hframe
    dsimp only at hframe
    subst hframe
    exact ⟨_, hsame⟩
  | mixed st₁ p p' hres hp hset =>
    obtain ⟨delta, hinfo⟩ := settle_info (st.prepaidState p) (min quota p.preConsumedQuota)
    rw [hset] at hinfo
    exact ⟨delta, hinfo⟩
  | undone st₁ p p' e hres hp hset =>
    obtain ⟨delta, hinfo⟩ := settle_info (st.prepaidState p) (min quota p.preConsumedQuota)
    rw [hset] at hinfo
    refine ⟨delta, ?_⟩
    obtain ⟨db₂, back, hframe₂⟩ := reservePostpaid_frame (st₁.withPrepaid p')
      st.session.reservedPostpaidQuota
    dsimp only
    split
    · rw [hframe₂]
      exact hinfo
    · exact hinfo

theorem TenantCreditBillingSession.payer_userId (s : TenantCreditBillingSession)
    (c : ChargeState) : (s.payer c).userId = c.info.userId := by
  unfold TenantCreditBillingSession.payer
  split
  · rfl
  · exact FundingSource.payer_userId _ _

theorem TenantCreditBillingSession.payer_tokenId (s : TenantCreditBillingSession)
    (c : ChargeState) : (s.payer c).tokenId = c.info.tokenId := by
  unfold TenantCreditBillingSession.payer
  split
  · rfl
  · exact FundingSource.payer_tokenId _ _

/-- A settlement within the prepaid part leaves nothing reserved. -/
theorem TenantFunded.reserved_eq_zero {db₀ : DB} {quota₀ : QuotaDB} {c : ChargeState}
    {s : TenantCreditBillingSession} (h : TenantFunded db₀ quota₀ c s) {quota : Int}
    (hnn : 0 ≤ quota) (hle : quota ≤ s.prepaidConsumed) :
    ((TenantOpened.state c s).settle quota).2.session.reservedPostpaidQuota = 0 := by
  have htarget := h.target_eq hnn
  have hreserved := h.ok.reserved_nonneg
  rcases (h.settle hnn).reserved with ⟨hdone, -⟩ | ⟨hkept, hlt, -⟩
  · omega
  · omega

/-- Only a wallet that pays for all of it takes what the wallet of an adjustment takes. -/
theorem tenantDraw_adjusted_iff (c : ChargeState) (s : TenantCreditBillingSession)
    {quota actualQuota : Int} (hne : actualQuota ≠ quota) :
    (Draw.mk ((tenantDraw c.quota s quota).wallet + (actualQuota - quota))
        ((tenantDraw c.quota s quota).token + (actualQuota - quota))
        ((tenantDraw c.quota s quota).subscription + 0)) = tenantDraw c.quota s actualQuota ↔
      ∃ p w, s.prepaid = some p ∧ p.funding = .wallet w ∧ quota ≤ p.preConsumedQuota ∧
        actualQuota ≤ p.preConsumedQuota := by
  cases hp : s.prepaid with
  | none =>
    simp only [tenantDraw, hp]
    constructor
    · intro hdraw
      have hwallet := congrArg Draw.wallet hdraw
      dsimp only at hwallet
      omega
    · rintro ⟨p', w', hp', -⟩
      exact nomatch hp'
  | some p =>
    simp only [tenantDraw, hp, Option.some.injEq]
    cases hF : p.funding with
    | wallet w =>
      rw [settleDraw_wallet hF, settleDraw_wallet hF]
      simp only [Draw.mk.injEq]
      constructor
      · intro hdraw
        exact ⟨p, w, rfl, hF, by omega, by omega⟩
      · rintro ⟨p', w', rfl, -, hquota, hactual⟩
        omega
    | subscription sub =>
      have hwallet : ∀ quota, (settleDraw c.quota p quota).wallet = 0 := by
        intro quota
        by_cases hfits : Fits c.quota sub.subscriptionId (quota - p.preConsumedQuota)
        · rw [settleDraw_of_fits hF hfits]
        · rw [settleDraw_of_not_fits hF hfits]
      constructor
      · intro hdraw
        have := congrArg Draw.wallet hdraw
        rw [hwallet] at this
        dsimp only at this
        rw [hwallet] at this
        omega
      · rintro ⟨p', w', rfl, hF', -, -⟩
        rw [hF] at hF'
        exact nomatch hF'

/-- A settlement takes as little as one at nothing only if it is one, or the credit refuses it and
    nothing was reserved. -/
theorem TenantFunded.settle_nothing_iff {db₀ : DB} {quota₀ : QuotaDB} {c : ChargeState}
    {s : TenantCreditBillingSession} (h : TenantFunded db₀ quota₀ c s) {quota : Int}
    (hnn : 0 ≤ quota) :
    (tenantDraw c.quota s quota = tenantDraw c.quota s 0 ∧
        ((TenantOpened.state c s).settle quota).2.session.reservedPostpaidQuota =
          ((TenantOpened.state c s).settle 0).2.session.reservedPostpaidQuota) ↔
      quota = 0 ∨ (s.prepaidConsumed = 0 ∧ s.reservedPostpaidQuota = 0 ∧
        ∃ e, reserveTenantCredit c.db c.info.tenantId quota = .error e) := by
  have htarget := h.target_eq hnn
  have hreserved := h.ok.reserved_nonneg
  have hpre : 0 ≤ s.prepaidConsumed := by
    unfold TenantCreditBillingSession.prepaidConsumed
    split
    · exact le_refl 0
    · next p hp => exact (h.funded p hp).pre_nonneg
  -- the draws agree as long as the prepaid part has nothing to pay
  have hdraw : tenantDraw c.quota s quota = tenantDraw c.quota s 0 ↔
      min quota s.prepaidConsumed = 0 := by
    cases hp : s.prepaid with
    | none =>
      have hzero : s.prepaidConsumed = 0 := by
        simp [TenantCreditBillingSession.prepaidConsumed, hp]
      simp only [tenantDraw, hp, hzero, min_eq_right hnn]
    | some p =>
      have hfunded := h.funded p hp
      simp only [tenantDraw, hp, prepaidConsumed_of_some hp, min_eq_left hfunded.pre_nonneg]
      exact hfunded.settleDraw_eq_iff
  rw [hdraw, h.reserved_eq_zero (le_refl 0) hpre]
  rcases (h.settle hnn).reserved with ⟨hdone, hgrown⟩ | ⟨hkept, hlt, e, herror⟩
  · rw [hdone]
    constructor
    · intro hnothing
      exact .inl (by omega)
    · rintro (rfl | ⟨hconsumed, hzero, e, herror⟩)
      · omega
      · -- what the credit refuses is not settled
        by_cases hpos : 0 < quota
        · obtain ⟨db, hok⟩ := hgrown (by omega)
          have hamount : s.targetPostpaidQuota quota - s.reservedPostpaidQuota = quota := by omega
          rw [hamount, herror] at hok
          cases hok
        · omega
  · rw [hkept]
    constructor
    · intro hnothing
      have hamount : s.targetPostpaidQuota quota - s.reservedPostpaidQuota = quota := by omega
      rw [hamount] at herror
      exact .inr ⟨by omega, by omega, e, herror⟩
    · rintro (rfl | ⟨hconsumed, hzero, -⟩)
      · omega
      · omega

/-- The task of a tenant's request. -/
theorem tenant_adjustment_iff {db₀ : DB} {quota₀ : QuotaDB} {c : ChargeState}
    {s : TenantCreditBillingSession} (h : TenantFunded db₀ quota₀ c s)
    (hsource : c.info.billingSource ≠ .subscription) (hpos : 0 < c.info.tokenId)
    {request : BillingState} (hrequest : request = { charge := c, billing := some (.tenant s) })
    (quota : Nat) (adjustment : TaskAdjustment) :
    SameCharge c.info (request.taskCharge quota adjustment)
        (request.settleBilling adjustment.actualQuota).2.charge ↔
      if adjustment.skipped then request.ChargesNothing quota
      else request.AdjustsBack quota adjustment.actualQuota := by
  have hquota : (0 : Int) ≤ quota := Int.natCast_nonneg quota
  have hactual : (0 : Int) ≤ adjustment.actualQuota := Int.natCast_nonneg _
  have hsubmitted := h.settle hquota
  have hsync := h.settle hactual
  obtain ⟨delta, hinfo⟩ := tenantSettle_info (TenantOpened.state c s) h.settled quota
  generalize htask : (BilledTask.mk ((TenantOpened.state c s).settle quota).2.info.userId quota
    ((TenantOpened.state c s).settle quota).2.info.billingSource
    ((TenantOpened.state c s).settle quota).2.info.subscriptionId
    ((TenantOpened.state c s).settle quota).2.info.tokenId) = t
  have htaskQuota : t.quota = quota := by rw [← htask]
  have hnot : t.taskIsSubscription = false := by
    rw [← htask, hinfo]
    simp [BilledTask.taskIsSubscription, TenantOpened.state, hsource]
  have huser : (s.payer c).userId = t.userId := by
    rw [← htask, hinfo]
    exact s.payer_userId c
  have htoken : (s.payer c).tokenId = t.tokenId := by
    rw [← htask, hinfo]
    exact s.payer_tokenId c
  have htokenPos : 0 < t.tokenId := by
    rw [← htoken, s.payer_tokenId]
    exact hpos
  have hcharge : (request.taskCharge quota adjustment).quota =
      t.adjusted ((TenantOpened.state c s).settle quota).2.quota adjustment := by
    rw [hrequest, ← htask]
    rfl
  have hcompare : ∀ {d : Draw}, Taken (s.payer c) c.quota
      (request.taskCharge quota adjustment).quota d →
      (SameCharge c.info (request.taskCharge quota adjustment)
        (request.settleBilling adjustment.actualQuota).2.charge ↔
          d = tenantDraw c.quota s adjustment.actualQuota ∧
          ((TenantOpened.state c s).settle quota).2.session.reservedPostpaidQuota =
            ((TenantOpened.state c s).settle
              adjustment.actualQuota).2.session.reservedPostpaidQuota) := by
    intro d hd
    subst hrequest
    rw [sameCharge_iff (s.payer_userId c) (s.payer_tokenId c) hd hsync.taken]
    apply and_congr_right'
    show BillingState.creditTaken ((TenantOpened.state c s).settle quota).2.db c.info.tenantId =
      BillingState.creditTaken ((TenantOpened.state c s).settle adjustment.actualQuota).2.db
        c.info.tenantId ↔ _
    rw [hsubmitted.credit, hsync.credit]
    exact add_right_inj _
  rw [BilledTask.adjusted_eq, htaskQuota] at hcharge
  by_cases hskipped : adjustment.skipped = true
  · -- the submission stays as it was settled
    have hzero : adjustment.actualQuota = 0 := by
      cases adjustment with
      | refund => rfl
      | recalculate actualQuota =>
        show actualQuota = 0
        simpa [TaskAdjustment.skipped] using hskipped
    rw [if_pos (.inl hskipped)] at hcharge
    rw [if_pos hskipped, hcompare (hcharge ▸ hsubmitted.taken), hzero, Nat.cast_zero,
      h.settle_nothing_iff hquota]
    simp only [BillingState.ChargesNothing, hrequest]
  · rw [if_neg hskipped]
    by_cases hsame : (adjustment.actualQuota : Int) = quota
    · rw [if_pos (.inr hsame)] at hcharge
      rw [hcompare (hcharge ▸ hsubmitted.taken), hsame]
      exact iff_of_true ⟨rfl, rfl⟩ (.inl rfl)
    · rw [if_neg (by simp [hskipped, hsame])] at hcharge
      have hdelta : (adjustment.actualQuota : Int) - quota ≠ 0 := by omega
      obtain ⟨db', hadjust, htaken⟩ := BilledTask.adjust_wallet hnot hsubmitted.taken.live huser
        htoken htokenPos hdelta
      rw [hadjust, Option.getD_some] at hcharge
      have htotal := hsubmitted.taken.trans htaken
      rw [hcompare (hcharge ▸ htotal), tenantDraw_adjusted_iff c s hsame]
      simp only [BillingState.AdjustsBack, hrequest, hsame, false_or]
      apply and_iff_left_of_imp
      rintro ⟨p, w, hp, -, hleft, hright⟩
      have hpre := prepaidConsumed_of_some hp
      rw [h.reserved_eq_zero hquota (hpre ▸ hleft), h.reserved_eq_zero hactual (hpre ▸ hright)]

/-! ## Every task -/

/-- The billing that `PreConsumeBilling` leaves on the request of a task. -/
inductive RequestFunded (c : ChargeState) : BillingState → Prop
  | session (c' : ChargeState) (s : BillingSession) (hsame : SameRequest c.info c'.info)
      (h : Funded c'.info c'.quota s) (hsource : c'.info.billingSource = s.funding.source) :
      RequestFunded c { charge := c', billing := some (.session s) }
  | tenant (c' : ChargeState) (s : TenantCreditBillingSession) (hsame : SameRequest c.info c'.info)
      (h : TenantFunded c.db c.quota c' s) (hsource : c'.info.billingSource ≠ .subscription) :
      RequestFunded c { charge := c', billing := some (.tenant s) }

theorem preConsumeBilling_funded {env : BillingEnv} {c : ChargeState} (hnew : TaskRequest c)
    {tokenQuota : Int} {preConsumedQuota : Nat} {request : BillingState}
    (hok : preConsumeBilling env c tokenQuota preConsumedQuota = (none, request)) :
    RequestFunded c request := by
  have hopened := preConsumeBilling_opened hnew.toNewRequest hok
  unfold preConsumeBilling at hok
  generalize hr : prepareTenantBillingSession env c.db c.quota c.info tokenQuota
    preConsumedQuota = r at hok
  dsimp only at hok
  split at hok
  · simp at hok
  · next s hres =>
    obtain ⟨hsame, hsource, hmode, hlive, hfunded⟩ := prepareTenantBillingSession_noted hnew hr hres
    obtain rfl := (Prod.mk.inj hok).2
    cases hopened with
    | tenant _ _ h => exact .tenant _ _ hsame ⟨h, hlive, hfunded, hmode⟩ hsource
  · next hres =>
    -- a prepaid tenant, or none
    obtain ⟨hquota, mode, hinfo⟩ := prepareTenantBillingSession_none hr hres
    have hsame : SameRequest c.info r.info := by
      rw [hinfo]
      exact ⟨rfl, rfl, rfl, rfl⟩
    have hrecord : c.quota.records.find? r.info.requestId = none := by
      rw [hinfo]
      exact hnew.record
    have huser : (c.quota.users.find? r.info.userId).isSome = true := by
      rw [hsame.userId]
      exact hnew.live.user
    have htoken : (c.quota.tokens.find? r.info.tokenId).isSome = true := by
      rw [hsame.tokenId]
      exact hnew.live.token
    have hplay : r.info.isPlayground = false := hsame.isPlayground.trans hnew.notPlayground
    rw [hquota] at hok
    cases hsession : (newBillingSession env c.quota r.info tokenQuota preConsumedQuota).result with
    | error e => simp [hsession] at hok
    | ok s =>
      have hnoted := newBillingSession_noted (.inr htoken) hrecord hsession
      have hfunded := newBillingSession_funded huser htoken hplay hrecord hsession
      simp only [hsession] at hok
      obtain rfl := (Prod.mk.inj hok).2
      exact .session _ s (hsame.trans hnoted.request) hfunded hnoted.source

/-- The sources of the request are named by columns that the billing leaves alone. -/
theorem SameRequest.sameCharge_iff {info info' : RelayInfo} (h : SameRequest info info')
    (c c' : ChargeState) : SameCharge info c c' ↔ SameCharge info' c c' := by
  have hcongr : ∀ {a b : RelayInfo}, b.userId = a.userId → b.tokenId = a.tokenId →
      b.tenantId = a.tenantId → SameCharge a c c' → SameCharge b c c' := by
    rintro a b huser htoken htenant ⟨hwallet, htokens, hsubscription, hcredit⟩
    exact ⟨by rw [huser, hwallet], by rw [htoken, htokens], hsubscription, by rw [htenant, hcredit]⟩
  exact ⟨hcongr h.userId h.tokenId h.tenantId,
    hcongr h.userId.symm h.tokenId.symm h.tenantId.symm⟩

/-- After a task was charged through the session of its request and adjusted, every source is
    debited as by a synchronous request at the actual quota, exactly when the adjustment goes back
    to the sources of the charge, or there was nothing charged for a recalculation to skip. -/
theorem taskAdjustment_iff {env : BillingEnv} {c : ChargeState} (hnew : TaskRequest c)
    {tokenQuota : Int} {preConsumedQuota : Nat} {request : BillingState}
    (hok : preConsumeBilling env c tokenQuota preConsumedQuota = (none, request)) (quota : Nat)
    (adjustment : TaskAdjustment) :
    SameCharge c.info (request.taskCharge quota adjustment)
        (request.settleBilling adjustment.actualQuota).2.charge ↔
      if adjustment.skipped then request.ChargesNothing quota
      else request.AdjustsBack quota adjustment.actualQuota := by
  cases preConsumeBilling_funded hnew hok with
  | session c' s hsame h hsource =>
    rw [hsame.sameCharge_iff]
    exact session_adjustment_iff h hsource (hsame.tokenId ▸ hnew.tokenId_pos) rfl quota adjustment
  | tenant c' s hsame h hsource =>
    rw [hsame.sameCharge_iff]
    exact tenant_adjustment_iff h hsource (hsame.tokenId ▸ hnew.tokenId_pos) rfl quota adjustment

/-- The request of a task that a user pays from the wallet. -/
def walletTask : ChargeState := { db := .empty, quota := oneWallet, info := walletRequest }

/-- Submitted at 40 and recalculated to 25, it is charged 25. -/
theorem walletTask_recalculated :
    SameCharge walletRequest
      ((preConsumeBilling plainEnv walletTask 100 (10 : Nat)).2.taskCharge 40 (.recalculate 25))
      ((preConsumeBilling plainEnv walletTask 100 (10 : Nat)).2.settleBilling
        (25 : Nat)).2.charge := by
  have hnew : TaskRequest walletTask :=
    ⟨⟨by decide, by decide, by decide, by decide, by decide, by decide⟩, by decide, by decide⟩
  have hok : preConsumeBilling plainEnv walletTask 100 (10 : Nat) =
      (none, (preConsumeBilling plainEnv walletTask 100 (10 : Nat)).2) :=
    Prod.ext (by decide) rfl
  exact (taskAdjustment_iff hnew hok 40 (.recalculate 25)).mpr (.inr trivial)

/-- A tenant that pays after its use, with a credit of 1000. -/
def creditTenant : BillingConfig :=
  { tenantId := 7
    billingMode := .postpaid
    paymentTerms := 30
    creditLimit := 1000
    overCreditPolicy := .block }

/-- The request of a task that goes on the credit of this tenant. -/
def postpaidTask : ChargeState :=
  { db := { DB.empty with configs := ⟨[creditTenant], List.nodup_singleton _⟩ }
    quota := oneWallet
    info := { walletRequest with tenantId := 7 } }

/-- Its submission reserves 100 of the credit. The refund leaves them reserved, and credits the
    wallet with 100 that it never paid. -/
theorem postpaidTask_refund_credits_wallet :
    ¬ ∀ (env : BillingEnv) (c : ChargeState), TaskRequest c →
        ∀ (tokenQuota : Int) (preConsumedQuota : Nat) (request : BillingState),
          preConsumeBilling env c tokenQuota preConsumedQuota = (none, request) →
          ∀ (quota : Nat) (adjustment : TaskAdjustment),
            SameCharge c.info (request.taskCharge quota adjustment)
              (request.settleBilling adjustment.actualQuota).2.charge := by
  intro h
  have hsame := h plainEnv postpaidTask
    ⟨⟨by decide, by decide, by decide, by decide, by decide, by decide⟩, by decide, by decide⟩
    100 10 (preConsumeBilling plainEnv postpaidTask 100 (10 : Nat)).2
    (Prod.ext (by decide) rfl) 100 .refund
  exact absurd hsame.wallet (by decide)

end TokenRouter
