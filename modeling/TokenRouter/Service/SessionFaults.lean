import TokenRouter.Service.TenantBillingSession

/-!
# Billing sessions on a database that fails (`service/billing_session.go`, `service/tenant.go`)

The same functions with a pattern of failures: each database step of a call may fail with an
error, and then has written nothing. A step that a call does not reach does not fail, and the
steps that roll another one back succeed.

## Key results

- `SessionState.settleWith_none`, `SessionState.reserveWith_none`,
  `newBillingSessionWith_none`: without a failure these are the functions on a database that
  works
-/

namespace TokenRouter

/-- A database step that fails with an error, or does what it does. -/
def failing {α : Type} (fault : Option String) (result : Except String α) : Except String α :=
  match fault with
  | some e => .error e
  | none => result

@[simp] theorem failing_none {α : Type} (result : Except String α) : failing none result = result :=
  rfl

/-- The failures of one call of a session: of the step on the funding source, and of the step
    on the token. -/
structure StepFaults where
  funding : Option String := none
  token : Option String := none
  deriving DecidableEq

/-! ## Settling and reserving -/

namespace SessionState

/-- The token step of `Settle`. -/
def settleTokenWith (fault : Option String) (db : QuotaDB) (info : RelayInfo) (delta : Int) :
    Except String QuotaDB :=
  if info.isPlayground then .ok db else failing fault (settleToken db info delta)

/-- `BillingSession.Settle`, with the error it returns. -/
def settleWith (faults : StepFaults) (st : SessionState) (actualQuota : Int) :
    Option String × SessionState :=
  let s := st.session
  if s.settled then (none, st)
  else
    let delta := actualQuota - s.preConsumedQuota
    if delta = 0 then (none, { st with session := { s with settled := true } })
    else
      match (if s.fundingSettled then .ok st.db
          else failing faults.funding (s.funding.settle st.db delta)) with
      | .error e => (some e, st)
      | .ok db₁ =>
        let info :=
          if s.funding.source = .subscription then
            { st.info with subscriptionPostDelta := st.info.subscriptionPostDelta + delta }
          else st.info
        let session := { s with fundingSettled := true, settled := true }
        match settleTokenWith faults.token db₁ st.info delta with
        | .error e => (some e, { db := db₁, info := info, session := session })
        | .ok db₂ => (none, { db := db₂, info := info, session := session })

/-- The step of `reserveFunding`. -/
def reserveFundingWith (fault : Option String) (db : QuotaDB) (delta : Int) (funding : FundingSource) :
    Except NewAPIError (FundingSource × QuotaDB) :=
  match fault, funding with
  | some e, .wallet _ => .error ⟨.updateDataError, e⟩
  | some e, .subscription _ => .error ⟨.insufficientUserQuota, "订阅额度不足或未配置订阅: " ++ e⟩
  | none, funding => funding.reserve db delta

/-- The step of `reserveToken`. -/
def reserveTokenWith (fault : Option String) (env : BillingEnv) (db : QuotaDB) (info : RelayInfo)
    (delta : Int) : Except NewAPIError QuotaDB :=
  if delta ≤ 0 ∨ info.isPlayground then .ok db
  else
    match fault with
    | some e => .error ⟨.preConsumeTokenQuotaFailed, e⟩
    | none => reserveToken env db info delta

/-- `BillingSession.Reserve`, with the error it returns. -/
def reserveWith (faults : StepFaults) (env : BillingEnv) (st : SessionState) (targetQuota : Int) :
    Option NewAPIError × SessionState :=
  let s := st.session
  if s.settled || s.refunded || s.trusted || targetQuota ≤ s.preConsumedQuota then (none, st)
  else
    let delta := targetQuota - s.preConsumedQuota
    match reserveFundingWith faults.funding st.db delta s.funding with
    | .error e => (some e, st)
    | .ok (funding, db₁) =>
      match reserveTokenWith faults.token env db₁ st.info delta with
      | .error e =>
        let (funding, db₂) := funding.rollbackReserve db₁ delta
        (some e, { st with db := db₂, session := { s with funding := funding } })
      | .ok db₂ =>
        let session := { s with
          funding := funding
          preConsumedQuota := s.preConsumedQuota + delta
          tokenConsumed := s.tokenConsumed + delta
          extraReserved := s.extraReserved + delta }
        (none, { db := db₂, info := syncRelayInfo st.info session, session := session })

theorem settleWith_none (st : SessionState) (actualQuota : Int) :
    st.settleWith {} actualQuota = st.settle actualQuota := by
  have htoken (db : QuotaDB) (delta : Int) :
      settleTokenWith none db st.info delta = settleToken db st.info delta := by
    unfold settleTokenWith settleToken
    cases st.info.isPlayground <;> rfl
  simp only [settleWith, settle, failing_none, htoken]
  all_goals rfl

theorem reserveWith_none (env : BillingEnv) (st : SessionState) (targetQuota : Int) :
    st.reserveWith {} env targetQuota = st.reserve env targetQuota := by
  have hfunding (db : QuotaDB) (delta : Int) (funding : FundingSource) :
      reserveFundingWith none db delta funding = funding.reserve db delta := by
    cases funding <;> rfl
  have htoken (db : QuotaDB) (delta : Int) :
      reserveTokenWith none env db st.info delta = reserveToken env db st.info delta := by
    unfold reserveTokenWith
    split
    · next hskip =>
      rw [reserveToken, if_pos hskip]
    · rfl
  simp only [reserveWith, reserve, hfunding, htoken]
  all_goals rfl

end SessionState

/-! ## Tenant sessions -/

/-- The failures of one call of a tenant session. -/
structure TenantFaults where
  prepaid : StepFaults := {}
  postpaid : Option String := none
  deriving DecidableEq

namespace TenantSessionState

/-- The database is asked for another reservation than the session holds. -/
def Adjusts (st : TenantSessionState) (targetQuota : Int) : Prop :=
  0 < st.info.tenantId ∧ st.session.settled = false ∧ st.session.refunded = false ∧
    max 0 targetQuota ≠ st.session.reservedPostpaidQuota

instance (st : TenantSessionState) (targetQuota : Int) : Decidable (st.Adjusts targetQuota) :=
  inferInstanceAs (Decidable (_ ∧ _ ∧ _ ∧ _))

/-- `reservePostpaid` -/
def reservePostpaidWith (fault : Option String) (st : TenantSessionState) (targetQuota : Int) :
    Option String × TenantSessionState :=
  match fault with
  | some e => if st.Adjusts targetQuota then (some e, st) else st.reservePostpaid targetQuota
  | none => st.reservePostpaid targetQuota

/-- The quota that `Settle` passes to the prepaid session. -/
def prepaidTarget (st : TenantSessionState) (actualQuota : Int) : Int :=
  if actualQuota ≤ st.session.prepaidConsumed then actualQuota else st.session.prepaidConsumed

/-- `TenantCreditBillingSession.Settle`, with the error it returns. -/
def settleWith (faults : TenantFaults) (st : TenantSessionState) (actualQuota : Int) :
    Option String × TenantSessionState :=
  if st.session.settled then (none, st)
  else
    let prepaidTarget := st.prepaidTarget actualQuota
    let targetPostpaid := st.session.targetPostpaidQuota actualQuota
    let currentReserved := st.session.reservedPostpaidQuota
    match st.reservePostpaidWith faults.postpaid targetPostpaid with
    | (some e, st) => (some e, st)
    | (none, st) =>
      match st.session.prepaid with
      | none => (none, { st with session := { st.session with settled := true } })
      | some p =>
        match (st.prepaidState p).settleWith faults.prepaid prepaidTarget with
        | (some e, p) =>
          let st := st.withPrepaid p
          if targetPostpaid ≠ currentReserved then (some e, (st.reservePostpaid currentReserved).2)
          else (some e, st)
        | (none, p) =>
          let st := st.withPrepaid p
          (none, { st with session := { st.session with settled := true } })

/-- `TenantCreditBillingSession.Reserve`, with the error it returns. -/
def reserveWith (faults : TenantFaults) (env : BillingEnv) (st : TenantSessionState)
    (targetQuota : Int) : Option String × TenantSessionState :=
  match st.session.prepaid with
  | none => st.reservePostpaidWith faults.postpaid (st.session.targetPostpaidQuota targetQuota)
  | some p =>
    match (st.prepaidState p).reserveWith faults.prepaid env targetQuota with
    | (some e, p) => (some e.message, st.withPrepaid p)
    | (none, p) =>
      let st := st.withPrepaid p
      st.reservePostpaidWith faults.postpaid (st.session.targetPostpaidQuota targetQuota)

theorem settleWith_none (st : TenantSessionState) (actualQuota : Int) :
    st.settleWith {} actualQuota = st.settle actualQuota := by
  simp only [settleWith, settle, reservePostpaidWith, SessionState.settleWith_none, prepaidTarget]
  all_goals rfl

theorem reserveWith_none (env : BillingEnv) (st : TenantSessionState) (targetQuota : Int) :
    st.reserveWith {} env targetQuota = st.reserve env targetQuota := by
  simp only [reserveWith, reserve, reservePostpaidWith, SessionState.reserveWith_none]
  all_goals rfl

end TenantSessionState

/-! ## Creation -/

/-- The failures of `NewBillingSession`: of the two reads that choose a source, and of each
    attempt. -/
structure OpenFaults where
  userQuota : Option String := none
  wallet : StepFaults := {}
  hasActive : Option String := none
  subscription : StepFaults := {}
  overflow : Option String := none
  deriving DecidableEq

/-- `PreConsumeTokenQuota` -/
def preConsumeTokenQuotaWith (fault : Option String) (env : BillingEnv) (db : QuotaDB)
    (info : RelayInfo) (quota : Int) : Except String QuotaDB :=
  if quota < 0 ∨ info.isPlayground then db.preConsumeTokenQuota env info quota
  else failing fault (db.preConsumeTokenQuota env info quota)

/-- `FundingSource.PreConsume`; a wallet is not asked for nothing. -/
def FundingSource.preConsumeWith (fault : Option String) (env : BillingEnv) (db : QuotaDB)
    (amount : Int) (funding : FundingSource) : Except String (FundingSource × QuotaDB) :=
  if funding.source = .wallet ∧ amount ≤ 0 then funding.preConsume env db amount
  else failing fault (funding.preConsume env db amount)

/-- The funding step of `preConsume`, with the roll back of the token step. -/
def preConsumeFundingWith (fault : Option String) (env : BillingEnv) (db : QuotaDB)
    (info : RelayInfo) (s : BillingSession) (effectiveQuota : Int) : OpenResult :=
  match s.funding.preConsumeWith fault env db effectiveQuota with
  | .error e =>
    let db' :=
      if 0 < s.tokenConsumed ∧ info.isPlayground = false then
        logged db (db.increaseTokenQuota info.tokenId s.tokenConsumed)
      else db
    ⟨.error (fundingError e), info, db'⟩
  | .ok (funding, db') =>
    let s' := { s with funding := funding, preConsumedQuota := effectiveQuota }
    ⟨.ok s', syncRelayInfo info s', db'⟩

/-- `BillingSession.preConsume` on a new session. -/
def preConsumeWith (faults : StepFaults) (env : BillingEnv) (db : QuotaDB) (info : RelayInfo)
    (tokenQuota : Int) (funding : FundingSource) (quota : Int) : OpenResult :=
  let s : BillingSession := { funding := funding }
  let trusted := s.shouldTrust env info tokenQuota
  let effectiveQuota := if trusted then 0 else quota
  let s := { s with trusted := trusted }
  if 0 < effectiveQuota then
    match preConsumeTokenQuotaWith faults.token env db info effectiveQuota with
    | .error e => ⟨.error ⟨.preConsumeTokenQuotaFailed, e⟩, info, db⟩
    | .ok db' =>
      preConsumeFundingWith faults.funding env db' info { s with tokenConsumed := effectiveQuota }
        effectiveQuota
  else preConsumeFundingWith faults.funding env db info s effectiveQuota

/-- `tryWallet` -/
def tryWalletWith (faults : OpenFaults) (env : BillingEnv) (db : QuotaDB) (info : RelayInfo)
    (tokenQuota : Int) (preConsumedQuota : Int) : OpenResult :=
  match faults.userQuota with
  | some e => ⟨.error ⟨.queryDataError, e⟩, info, db⟩
  | none =>
    let userQuota := db.getUserQuota info.userId
    if userQuota ≤ 0 then
      ⟨.error ⟨.insufficientUserQuota, "用户额度不足, 剩余额度: " ++ env.formatQuota userQuota⟩,
        info, db⟩
    else if userQuota - preConsumedQuota < 0 then
      ⟨.error ⟨.insufficientUserQuota, "预扣费额度失败, 用户剩余额度: " ++
        env.formatQuota userQuota ++ ", 需要预扣费额度: " ++ env.formatQuota preConsumedQuota⟩,
        info, db⟩
    else
      preConsumeWith faults.wallet env db { info with userQuota := userQuota } tokenQuota
        (.wallet { userId := info.userId }) preConsumedQuota

/-- `trySubscription` -/
def trySubscriptionWith (faults : OpenFaults) (env : BillingEnv) (db : QuotaDB) (info : RelayInfo)
    (tokenQuota : Int) (preConsumedQuota : Int) : OpenResult :=
  let subConsume := if preConsumedQuota ≤ 0 then 1 else preConsumedQuota
  preConsumeWith faults.subscription env db info tokenQuota
    (.subscription
      { requestId := info.requestId, userId := info.userId, amount := subConsume }) subConsume

/-- `NewBillingSession` -/
def newBillingSessionWith (faults : OpenFaults) (env : BillingEnv) (db : QuotaDB) (info : RelayInfo)
    (tokenQuota : Int) (preConsumedQuota : Int) : OpenResult :=
  match info.billingPreference with
  | .subscriptionOnly => trySubscriptionWith faults env db info tokenQuota preConsumedQuota
  | .walletOnly => tryWalletWith faults env db info tokenQuota preConsumedQuota
  | .walletFirst =>
    let first := tryWalletWith faults env db info tokenQuota preConsumedQuota
    match first.result with
    | .ok _ => first
    | .error e =>
      if e.code = .insufficientUserQuota then
        trySubscriptionWith faults env first.db first.info tokenQuota preConsumedQuota
      else first
  | .subscriptionFirst =>
    match failing faults.hasActive (db.hasActiveUserSubscription info.userId env.now.unix) with
    | .error e => ⟨.error ⟨.queryDataError, e⟩, info, db⟩
    | .ok false => tryWalletWith faults env db info tokenQuota preConsumedQuota
    | .ok true =>
      let first := trySubscriptionWith faults env db info tokenQuota preConsumedQuota
      match first.result with
      | .ok _ => first
      | .error e =>
        if e.code = .insufficientUserQuota then
          match failing faults.overflow
              (first.db.userActiveSubscriptionsAllowWalletOverflow info.userId env.now.unix) with
          | .error e' => ⟨.error ⟨.queryDataError, e'⟩, first.info, first.db⟩
          | .ok true => tryWalletWith faults env first.db first.info tokenQuota preConsumedQuota
          | .ok false => first
        else first

theorem preConsumeWith_none (env : BillingEnv) (db : QuotaDB) (info : RelayInfo) (tokenQuota : Int)
    (funding : FundingSource) (quota : Int) :
    preConsumeWith {} env db info tokenQuota funding quota =
      preConsume env db info tokenQuota funding quota := by
  have hfunding (db : QuotaDB) (s : BillingSession) (quota : Int) :
      preConsumeFundingWith none env db info s quota = preConsumeFunding env db info s quota := by
    simp only [preConsumeFundingWith, preConsumeFunding, FundingSource.preConsumeWith, failing_none,
      ite_self]
    all_goals rfl
  simp only [preConsumeWith, preConsume, preConsumeTokenQuotaWith, failing_none, ite_self, hfunding]
  all_goals rfl

theorem newBillingSessionWith_none (env : BillingEnv) (db : QuotaDB) (info : RelayInfo)
    (tokenQuota : Int) (preConsumedQuota : Int) :
    newBillingSessionWith {} env db info tokenQuota preConsumedQuota =
      newBillingSession env db info tokenQuota preConsumedQuota := by
  have hwallet (db : QuotaDB) (info : RelayInfo) :
      tryWalletWith {} env db info tokenQuota preConsumedQuota =
        tryWallet env db info tokenQuota preConsumedQuota := by
    simp only [tryWalletWith, tryWallet, preConsumeWith_none]
  have hsubscription (db : QuotaDB) (info : RelayInfo) :
      trySubscriptionWith {} env db info tokenQuota preConsumedQuota =
        trySubscription env db info tokenQuota preConsumedQuota := by
    simp only [trySubscriptionWith, trySubscription, preConsumeWith_none]
  simp only [newBillingSessionWith, newBillingSession, failing_none, hwallet, hsubscription]
  all_goals rfl

end TokenRouter
