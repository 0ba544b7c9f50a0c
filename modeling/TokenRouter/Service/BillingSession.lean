import TokenRouter.Model.Quota

/-!
# Prepaid billing sessions (`service/billing_session.go`, `service/funding_source.go`)

One request's pre-consumption, reservation, settlement and refund against a wallet
or a subscription and a token. A method of the source works on the session, on the
`RelayInfo` that the session points to and on the database; here it maps one
`SessionState` to the next. The asynchronous part of `Refund` is a `RefundTask`.
-/

namespace TokenRouter

/-- The `types.ErrorCode...` values that billing returns. -/
inductive ErrorCode where
  | insufficientUserQuota
  | preConsumeTokenQuotaFailed
  | updateDataError
  | queryDataError
  deriving DecidableEq

/-- `types.NewAPIError`. -/
structure NewAPIError where
  code : ErrorCode
  message : String
  deriving DecidableEq

/-! ## Funding sources -/

/-- `WalletFunding`. -/
structure WalletFunding where
  userId : Int
  consumed : Int := 0
  deriving DecidableEq

/-- `SubscriptionFunding`. The plan's id and title only reach logs. -/
structure SubscriptionFunding where
  requestId : String
  userId : Int
  amount : Int
  subscriptionId : Nat := 0
  preConsumed : Int := 0
  amountTotal : Int := 0
  amountUsedAfter : Int := 0
  deriving DecidableEq

/-- `FundingSource`. -/
inductive FundingSource where
  | wallet (w : WalletFunding)
  | subscription (s : SubscriptionFunding)
  deriving DecidableEq

namespace FundingSource

/-- `FundingSource.Source`. -/
def source : FundingSource → BillingSource
  | .wallet _ => .wallet
  | .subscription _ => .subscription

/-- `FundingSource.PreConsume`: the source with its counters filled in. -/
def preConsume (env : BillingEnv) (db : QuotaDB) (amount : Int) :
    FundingSource → Except String (FundingSource × QuotaDB)
  | .wallet w =>
    if amount ≤ 0 then .ok (.wallet w, db)
    else
      match db.decreaseUserQuota w.userId amount with
      | .error e => .error e
      | .ok db' => .ok (.wallet { w with consumed := amount }, db')
  | .subscription s =>
    -- the argument is ignored in favour of the amount fixed at construction
    match db.preConsumeUserSubscription env s.requestId s.userId s.amount with
    | .error e => .error e
    | .ok (res, db') =>
      .ok (.subscription { s with
        subscriptionId := res.userSubscriptionId
        preConsumed := res.preConsumed
        amountTotal := res.amountTotal
        amountUsedAfter := res.amountUsedAfter }, db')

/-- `FundingSource.Settle`. -/
def settle (db : QuotaDB) (delta : Int) : FundingSource → Except String QuotaDB
  | .wallet w =>
    if delta = 0 then .ok db
    else if 0 < delta then db.decreaseUserQuota w.userId delta
    else db.increaseUserQuota w.userId (-delta)
  | .subscription s =>
    if delta = 0 then .ok db else db.postConsumeUserSubscriptionDelta s.subscriptionId delta

/-- `FundingSource.Refund`. `refundWithRetry` repeats a transaction that failed; on
    one database it fails the same way each time. -/
def refund (db : QuotaDB) : FundingSource → Except String QuotaDB
  | .wallet w => if w.consumed ≤ 0 then .ok db else db.increaseUserQuota w.userId w.consumed
  | .subscription s =>
    if s.preConsumed ≤ 0 then .ok db else db.refundSubscriptionPreConsume s.requestId

/-- `BillingSession.reserveFunding`. -/
def reserve (db : QuotaDB) (delta : Int) :
    FundingSource → Except NewAPIError (FundingSource × QuotaDB)
  | .wallet w =>
    match db.decreaseUserQuota w.userId delta with
    | .error e => .error ⟨.updateDataError, e⟩
    | .ok db' => .ok (.wallet { w with consumed := w.consumed + delta }, db')
  | .subscription s =>
    match db.postConsumeUserSubscriptionDelta s.subscriptionId delta with
    | .error e => .error ⟨.insufficientUserQuota, "订阅额度不足或未配置订阅: " ++ e⟩
    | .ok db' => .ok (.subscription s, db')

/-- `BillingSession.rollbackFundingReserve`: an error is only logged. -/
def rollbackReserve (db : QuotaDB) (delta : Int) : FundingSource → FundingSource × QuotaDB
  | .wallet w =>
    match db.increaseUserQuota w.userId delta with
    | .error _ => (.wallet w, db)
    | .ok db' => (.wallet { w with consumed := w.consumed - delta }, db')
  | .subscription s =>
    match db.postConsumeUserSubscriptionDelta s.subscriptionId (-delta) with
    | .error _ => (.subscription s, db)
    | .ok db' => (.subscription s, db')

end FundingSource

/-! ## Sessions -/

/-- `BillingSession`, without the pointer to the `RelayInfo`. -/
structure BillingSession where
  funding : FundingSource
  preConsumedQuota : Int := 0
  tokenConsumed : Int := 0
  extraReserved : Int := 0
  trusted : Bool := false
  fundingSettled : Bool := false
  settled : Bool := false
  refunded : Bool := false
  deriving DecidableEq

/-- What the methods of a session read and write. -/
structure SessionState where
  db : QuotaDB
  info : RelayInfo
  session : BillingSession

/-- What the goroutine started by `Refund` captured. -/
structure RefundTask where
  funding : FundingSource
  tokenId : Int
  isPlayground : Bool
  tokenConsumed : Int
  extraReserved : Int
  subscriptionId : Nat

/-- The database after a step whose error is only logged. -/
def logged (db : QuotaDB) : Except String QuotaDB → QuotaDB
  | .ok db' => db'
  | .error _ => db

/-- The goroutine of `BillingSession.Refund`. -/
def RefundTask.run (task : RefundTask) (db : QuotaDB) : QuotaDB :=
  let db₁ := logged db (task.funding.refund db)
  let db₂ :=
    if 0 < task.extraReserved ∧ task.funding.source = .subscription ∧ 0 < task.subscriptionId then
      logged db₁ (db₁.postConsumeUserSubscriptionDelta task.subscriptionId (-task.extraReserved))
    else db₁
  if 0 < task.tokenConsumed ∧ task.isPlayground = false then
    logged db₂ (db₂.increaseTokenQuota task.tokenId task.tokenConsumed)
  else db₂

/-- `BillingSession.syncRelayInfo`. -/
def syncRelayInfo (info : RelayInfo) (s : BillingSession) : RelayInfo :=
  let info := { info with
    finalPreConsumedQuota := s.preConsumedQuota
    billingSource := s.funding.source }
  match s.funding with
  | .subscription sub =>
    { info with
      subscriptionId := sub.subscriptionId
      subscriptionPreConsumed := sub.preConsumed + s.extraReserved
      subscriptionPostDelta := 0
      subscriptionAmountTotal := sub.amountTotal
      subscriptionAmountUsedAfterPreConsume := sub.amountUsedAfter + s.extraReserved }
  | .wallet _ => { info with subscriptionId := 0, subscriptionPreConsumed := 0 }

namespace BillingSession

/-- `BillingSession.needsRefundLocked`. -/
def needsRefund (s : BillingSession) : Bool :=
  if s.settled || s.refunded || s.fundingSettled then false
  else if 0 < s.tokenConsumed then true
  else
    match s.funding with
    | .subscription sub => decide (0 < sub.preConsumed)
    | .wallet _ => false

/-- `BillingSession.shouldTrust`; `tokenQuota` is the context's `token_quota`. -/
def shouldTrust (env : BillingEnv) (info : RelayInfo) (tokenQuota : Int) (s : BillingSession) :
    Bool :=
  if info.forcePreConsume then false
  else if env.trustQuota ≤ 0 then false
  else if ¬ (info.tokenUnlimited ∨ env.trustQuota < tokenQuota) then false
  else
    match s.funding with
    | .wallet _ => decide (env.trustQuota < info.userQuota)
    | .subscription _ => false

end BillingSession

namespace SessionState

/-- The token step of `Settle`. -/
def settleToken (db : QuotaDB) (info : RelayInfo) (delta : Int) : Except String QuotaDB :=
  if info.isPlayground then .ok db
  else if 0 < delta then db.decreaseTokenQuota info.tokenId delta
  else db.increaseTokenQuota info.tokenId (-delta)

/-- `BillingSession.Settle`, with the error it returns. -/
def settle (st : SessionState) (actualQuota : Int) : Option String × SessionState :=
  let s := st.session
  if s.settled then (none, st)
  else
    let delta := actualQuota - s.preConsumedQuota
    if delta = 0 then (none, { st with session := { s with settled := true } })
    else
      match (if s.fundingSettled then .ok st.db else s.funding.settle st.db delta) with
      | .error e => (some e, st)
      | .ok db₁ =>
        let info :=
          if s.funding.source = .subscription then
            { st.info with subscriptionPostDelta := st.info.subscriptionPostDelta + delta }
          else st.info
        let session := { s with fundingSettled := true, settled := true }
        match settleToken db₁ st.info delta with
        | .error e => (some e, { db := db₁, info := info, session := session })
        | .ok db₂ => (none, { db := db₂, info := info, session := session })

/-- What `Refund` copies for its goroutine. -/
def refundTask (st : SessionState) : RefundTask :=
  { funding := st.session.funding
    tokenId := st.info.tokenId
    isPlayground := st.info.isPlayground
    tokenConsumed := st.session.tokenConsumed
    extraReserved := st.session.extraReserved
    subscriptionId := st.info.subscriptionId }

/-- `BillingSession.Refund`, with the goroutine it starts. -/
def refund (st : SessionState) : SessionState × Option RefundTask :=
  let s := st.session
  if s.settled || s.refunded || !s.needsRefund then (st, none)
  else ({ st with session := { s with refunded := true } }, some st.refundTask)

/-- `BillingSession.reserveToken`. -/
def reserveToken (env : BillingEnv) (db : QuotaDB) (info : RelayInfo) (delta : Int) :
    Except NewAPIError QuotaDB :=
  if delta ≤ 0 ∨ info.isPlayground then .ok db
  else
    match db.preConsumeTokenQuota env info delta with
    | .error e => .error ⟨.preConsumeTokenQuotaFailed, e⟩
    | .ok db' => .ok db'

/-- `BillingSession.Reserve`, with the error it returns. -/
def reserve (env : BillingEnv) (st : SessionState) (targetQuota : Int) :
    Option NewAPIError × SessionState :=
  let s := st.session
  if s.settled || s.refunded || s.trusted || targetQuota ≤ s.preConsumedQuota then (none, st)
  else
    let delta := targetQuota - s.preConsumedQuota
    match s.funding.reserve st.db delta with
    | .error e => (some e, st)
    | .ok (funding, db₁) =>
      match reserveToken env db₁ st.info delta with
      | .error e =>
        let (funding, db₂) := funding.rollbackReserve db₁ delta
        (some e, { st with db := db₂, session := { s with funding := funding } })
      | .ok db₂ =>
        let session := { s with
          funding := funding
          preConsumedQuota := s.preConsumedQuota + delta
          tokenConsumed := s.tokenConsumed + delta
          extraReserved := s.extraReserved + delta }
        (none, { db := db₂, info := syncRelayInfo st.info session, session := session })

end SessionState

/-! ## Creation -/

/-- The outcome of an attempt to open a session: the session or the error, and what
    the attempt left in the request and the database. -/
structure OpenResult where
  result : Except NewAPIError BillingSession
  info : RelayInfo
  db : QuotaDB

/-- The error that `preConsume` makes of a funding error. -/
def fundingError (e : String) : NewAPIError :=
  if containsText e "no active subscription" || containsText e "subscription quota insufficient" then
    ⟨.insufficientUserQuota, "订阅额度不足或未配置订阅: " ++ e⟩
  else ⟨.updateDataError, e⟩

/-- The funding step of `preConsume`, with the roll back of the token step. -/
def preConsumeFunding (env : BillingEnv) (db : QuotaDB) (info : RelayInfo) (s : BillingSession)
    (effectiveQuota : Int) : OpenResult :=
  match s.funding.preConsume env db effectiveQuota with
  | .error e =>
    let db' :=
      if 0 < s.tokenConsumed ∧ info.isPlayground = false then
        logged db (db.increaseTokenQuota info.tokenId s.tokenConsumed)
      else db
    ⟨.error (fundingError e), info, db'⟩
  | .ok (funding, db') =>
    let s' := { s with funding := funding, preConsumedQuota := effectiveQuota }
    ⟨.ok s', syncRelayInfo info s', db'⟩

/-- `BillingSession.preConsume` on a new session. -/
def preConsume (env : BillingEnv) (db : QuotaDB) (info : RelayInfo) (tokenQuota : Int)
    (funding : FundingSource) (quota : Int) : OpenResult :=
  let s : BillingSession := { funding := funding }
  let trusted := s.shouldTrust env info tokenQuota
  let effectiveQuota := if trusted then 0 else quota
  let s := { s with trusted := trusted }
  if 0 < effectiveQuota then
    match db.preConsumeTokenQuota env info effectiveQuota with
    | .error e => ⟨.error ⟨.preConsumeTokenQuotaFailed, e⟩, info, db⟩
    | .ok db' =>
      preConsumeFunding env db' info { s with tokenConsumed := effectiveQuota } effectiveQuota
  else preConsumeFunding env db info s effectiveQuota

/-- `tryWallet` of `NewBillingSession`. -/
def tryWallet (env : BillingEnv) (db : QuotaDB) (info : RelayInfo) (tokenQuota : Int)
    (preConsumedQuota : Int) : OpenResult :=
  let userQuota := db.getUserQuota info.userId
  if userQuota ≤ 0 then
    ⟨.error ⟨.insufficientUserQuota, "用户额度不足, 剩余额度: " ++ env.formatQuota userQuota⟩,
      info, db⟩
  else if userQuota - preConsumedQuota < 0 then
    ⟨.error ⟨.insufficientUserQuota, "预扣费额度失败, 用户剩余额度: " ++
      env.formatQuota userQuota ++ ", 需要预扣费额度: " ++ env.formatQuota preConsumedQuota⟩,
      info, db⟩
  else
    preConsume env db { info with userQuota := userQuota } tokenQuota
      (.wallet { userId := info.userId }) preConsumedQuota

/-- `trySubscription` of `NewBillingSession`. -/
def trySubscription (env : BillingEnv) (db : QuotaDB) (info : RelayInfo) (tokenQuota : Int)
    (preConsumedQuota : Int) : OpenResult :=
  let subConsume := if preConsumedQuota ≤ 0 then 1 else preConsumedQuota
  preConsume env db info tokenQuota
    (.subscription
      { requestId := info.requestId, userId := info.userId, amount := subConsume }) subConsume

/-- `NewBillingSession`. -/
def newBillingSession (env : BillingEnv) (db : QuotaDB) (info : RelayInfo) (tokenQuota : Int)
    (preConsumedQuota : Int) : OpenResult :=
  match info.billingPreference with
  | .subscriptionOnly => trySubscription env db info tokenQuota preConsumedQuota
  | .walletOnly => tryWallet env db info tokenQuota preConsumedQuota
  | .walletFirst =>
    let first := tryWallet env db info tokenQuota preConsumedQuota
    match first.result with
    | .ok _ => first
    | .error e =>
      if e.code = .insufficientUserQuota then
        trySubscription env first.db first.info tokenQuota preConsumedQuota
      else first
  | .subscriptionFirst =>
    match db.hasActiveUserSubscription info.userId env.now.unix with
    | .error e => ⟨.error ⟨.queryDataError, e⟩, info, db⟩
    | .ok false => tryWallet env db info tokenQuota preConsumedQuota
    | .ok true =>
      let first := trySubscription env db info tokenQuota preConsumedQuota
      match first.result with
      | .ok _ => first
      | .error e =>
        if e.code = .insufficientUserQuota then
          match first.db.userActiveSubscriptionsAllowWalletOverflow info.userId env.now.unix with
          | .error e' => ⟨.error ⟨.queryDataError, e'⟩, first.info, first.db⟩
          | .ok true => tryWallet env first.db first.info tokenQuota preConsumedQuota
          | .ok false => first
        else first

end TokenRouter
