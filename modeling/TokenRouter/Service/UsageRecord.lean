import TokenRouter.Model.UsageRecord
import TokenRouter.Service.TenantCredit

/-!
# Usage recording (`service/usage_record.go`, `DecorateTenantLedger`)

From a finished relay request to its `usage_ledgers` row: the idempotency key,
the outbox payload, the cost and the tenant columns, and the transaction that
inserts the row, books the tenant credit and updates the daily aggregate.
Ratios and prices are decimals in the source and rationals here.
-/

namespace TokenRouter

/-- The ratios of a `SupplierAgreement`. -/
structure SupplierAgreement where
  usePrice : Bool
  costModelRatio : ℚ
  costCompletionRatio : ℚ
  costCacheRatio : ℚ
  costCacheCreationRatio : ℚ
  costModelPrice : ℚ

/-- `model.Channel`, as far as usage recording reads it. -/
structure Channel where
  supplierId : Int
  name : String

/-- What usage recording reads besides its own tables: the channel cache, the
    supplier agreements (`none` is `ErrRecordNotFound`) and the server settings. -/
structure UsageEnv where
  cacheGetChannel : Int → Except String Channel
  findActiveSupplierAgreement : Int → String → Int → Except String (Option SupplierAgreement)
  quotaPerUnit : ℚ
  location : Location
  usingSQLite : Bool

/-! ## Cost -/

/-- `UsageCostInput`. -/
structure UsageCostInput where
  promptTokens : Int
  cachedTokens : Int := 0
  cacheCreationTokens : Int := 0
  completionTokens : Int := 0

/-- `freshPromptTokens`. -/
def freshPromptTokens (input : UsageCostInput) : Int :=
  let fresh := input.promptTokens - input.cachedTokens - input.cacheCreationTokens
  if fresh < 0 then 0 else fresh

/-- `decimal.Round(0).IntPart()`: halves are rounded away from zero. -/
def roundHalfAway (q : ℚ) : Int := if 0 ≤ q then ⌊q + 1 / 2⌋ else -⌊-q + 1 / 2⌋

/-- `CalculateUsageCostQuota`. -/
def calculateUsageCostQuota (quotaPerUnit : ℚ) (input : UsageCostInput)
    (agreement : Option SupplierAgreement) : Int :=
  match agreement with
  | none => 0
  | some a =>
    if a.usePrice then
      if a.costModelPrice ≤ 0 then 0 else roundHalfAway (a.costModelPrice * quotaPerUnit)
    else if a.costModelRatio ≤ 0 then 0
    else
      let cost := ((freshPromptTokens input : ℚ) + input.cachedTokens * a.costCacheRatio +
        input.cacheCreationTokens * a.costCacheCreationRatio +
        input.completionTokens * a.costCompletionRatio) * a.costModelRatio
      if cost ≤ 0 then 0
      else
        let quota := roundHalfAway cost
        if quota = 0 then 1 else quota

/-- `usageCostInputFromUsage`. -/
def usageCostInputFromUsage (info : RelayInfo) (usage : Option Usage) : UsageCostInput :=
  match usage with
  | none => { promptTokens := info.estimatePromptTokens }
  | some u =>
    { promptTokens :=
        if u.promptTokens = 0 ∧ 0 < u.inputTokens then u.inputTokens else u.promptTokens
      cachedTokens := u.cachedTokens
      cacheCreationTokens :=
        if u.cachedCreationTokens = 0 then
          u.claudeCacheCreation5mTokens + u.claudeCacheCreation1hTokens
        else u.cachedCreationTokens
      completionTokens :=
        if u.completionTokens = 0 ∧ 0 < u.outputTokens then u.outputTokens
        else u.completionTokens }

/-! ## Keys and metadata -/

/-- `common.UsageLedgerRequestIdHeader`. -/
def usageLedgerRequestIdHeader : String := "X-Token-Router-Request-Id"

/-- `common.RequestIdKey`. -/
def requestIdKey : String := "X-Oneapi-Request-Id"

/-- The first string of a list that is not blank, trimmed; empty if all are blank. -/
def firstNonBlank : List String → String
  | [] => ""
  | s :: ss => if trimSpace s ≠ "" then trimSpace s else firstNonBlank ss

/-- `usageRecordRequestID`. -/
def usageRecordRequestID (ctx : GinContext) (info : RelayInfo) : String :=
  firstNonBlank
    [lookupString ctx.headers usageLedgerRequestIdHeader,
      lookupString info.requestHeaders usageLedgerRequestIdHeader,
      info.requestId,
      lookupString ctx.keys requestIdKey]

/-- `usageRecordSessionID`. -/
def usageRecordSessionID (ctx : GinContext) (info : RelayInfo) : String :=
  let keys := ["X-Session-Id", "X-Session-ID", "session_id", "prompt_cache_key",
    "X-Prompt-Cache-Key"]
  firstNonBlank
    ((keys.flatMap fun k =>
        [lookupString info.runtimeHeadersOverride k, lookupString info.requestHeaders k]) ++
      keys.flatMap fun k => [lookupString ctx.headers k, lookupString ctx.keys k])

/-- `usageRecordSupplyNode`. -/
def usageRecordSupplyNode (env : UsageEnv) (ctx : GinContext) (info : RelayInfo) : String :=
  let node := trimSpace (lookupString ctx.keys "supply_node")
  if node ≠ "" then node
  else
    match info.channelMeta with
    | none => ""
    | some c =>
      let name :=
        if 0 < c.channelId then
          match env.cacheGetChannel c.channelId with
          | .ok channel => trimSpace channel.name
          | .error _ => ""
        else ""
      if name ≠ "" then name else trimSpace c.channelBaseUrl

/-- `newUsageRecordMeta`. -/
def newUsageRecordMeta (env : UsageEnv) (now : Timestamp) (latencyMs : Int) (ctx : GinContext)
    (info : RelayInfo) : UsageRecordMeta :=
  { requestId := usageRecordRequestID ctx info
    sessionId := usageRecordSessionID ctx info
    slaTier := trimSpace (lookupString ctx.keys "sla_tier")
    supplyNode := usageRecordSupplyNode env ctx info
    latencyMs := latencyMs
    createdAt := now.unix
    createdAt_nonneg := now.pos.le }

/-- `newUsageRecordOutboxPayload`. -/
def newUsageRecordOutboxPayload (info : RelayInfo) (usage : Option Usage) (sellQuota : Int)
    (metadata : UsageRecordMeta) : OutboxPayload :=
  { usage := usage
    sellQuota := sellQuota
    metadata := metadata
    relayInfo :=
      { userId := info.userId
        tokenId := info.tokenId
        tenantId := info.tenantId
        appId := info.appId
        endCustomerId := info.endCustomerId
        tenantBillingMode := info.tenantBillingMode
        originModelName := info.originModelName
        finalPreConsumedQuota := info.finalPreConsumedQuota
        billingSource := info.billingSource
        channelId := (info.channelMeta.map (·.channelId)).getD 0
        channelBaseUrl := (info.channelMeta.map (·.channelBaseUrl)).getD ""
        requestId := info.requestId
        requestHeaders := info.requestHeaders
        runtimeHeadersOverride := info.runtimeHeadersOverride } }

/-- `usageRecordOutboxPayload.relayInfo`. `Billing` is nil in the result. -/
def OutboxPayload.toRelayInfo (p : OutboxPayload) : RelayInfo :=
  { requestId := p.relayInfo.requestId
    userId := p.relayInfo.userId
    tokenId := p.relayInfo.tokenId
    tenantId := p.relayInfo.tenantId
    appId := p.relayInfo.appId
    endCustomerId := p.relayInfo.endCustomerId
    tenantBillingMode := p.relayInfo.tenantBillingMode
    originModelName := p.relayInfo.originModelName
    finalPreConsumedQuota := p.relayInfo.finalPreConsumedQuota
    billingSource := p.relayInfo.billingSource
    requestHeaders := p.relayInfo.requestHeaders
    runtimeHeadersOverride := p.relayInfo.runtimeHeadersOverride
    channelMeta := some
      { channelId := p.relayInfo.channelId, channelBaseUrl := p.relayInfo.channelBaseUrl } }

/-! ## The ledger row -/

/-- `DecorateTenantLedger`. `billing` is `relayInfo.Billing.GetPreConsumedQuota()`,
    `none` when `relayInfo.Billing` is nil. -/
def decorateTenantLedger (db : DB) (loc : Location) (now : Timestamp) (ledger : UsageLedger)
    (info : RelayInfo) (billing : Option Int) : UsageLedger :=
  if info.tenantId ≤ 0 then ledger
  else
    let mode := info.tenantBillingMode.getD (tenantBillingMode db info.tenantId)
    let prepaidConsumed := billing.getD info.finalPreConsumedQuota
    { ledger with
      tenantId := info.tenantId
      appId := info.appId
      endCustomerId := info.endCustomerId
      billingMode := some mode
      billingPeriod :=
        formatMonth loc (if ledger.createdAt ≤ 0 then now.unix else ledger.createdAt)
      postpaidQuota := tenantPostpaidQuota mode ledger.sellQuota prepaidConsumed }

/-- `usageRecordChannelID`. -/
def usageRecordChannelID (info : RelayInfo) : Int := (info.channelMeta.map (·.channelId)).getD 0

/-- `resolveUsageRecordSupplierID`. -/
def resolveUsageRecordSupplierID (env : UsageEnv) (channelId : Int) : Except String Int :=
  if channelId ≤ 0 then .ok 0
  else
    match env.cacheGetChannel channelId with
    | .error e => .error e
    | .ok channel => .ok channel.supplierId

/-- `resolveUsageRecordAgreement`. -/
def resolveUsageRecordAgreement (env : UsageEnv) (supplierId : Int) (modelName : String)
    (at_ : Int) : Except String (Option SupplierAgreement) :=
  if supplierId ≤ 0 then .ok none
  else
    match env.findActiveSupplierAgreement supplierId modelName at_ with
    | .error e => .error e
    | .ok none =>
      .error ("no active supplier agreement for supplier_id=" ++ toString supplierId ++
        " model=" ++ modelName)
    | .ok (some a) => .ok (some a)

/-- The part of `recordUsageWithMeta` before the insert: the row to be stored. -/
def newUsageLedger (env : UsageEnv) (db : DB) (now : Timestamp) (info : RelayInfo)
    (billing : Option Int) (usage : Option Usage) (sellQuota : Int)
    (metadata : UsageRecordMeta) : Except String UsageLedger :=
  if metadata.requestId = "" then .error "request id is required"
  else
    let channelId := usageRecordChannelID info
    match resolveUsageRecordSupplierID env channelId with
    | .error e => .error e
    | .ok supplierId =>
      let createdAt := if metadata.createdAt = 0 then now.unix else metadata.createdAt
      match resolveUsageRecordAgreement env supplierId info.originModelName createdAt with
      | .error e => .error e
      | .ok agreement =>
        let costInput := usageCostInputFromUsage info usage
        let ledger : UsageLedger :=
          { requestId := metadata.requestId
            sessionId := metadata.sessionId
            supplierId := supplierId
            channelId := channelId
            userId := info.userId
            tokenId := info.tokenId
            modelName := info.originModelName
            promptTokens := costInput.promptTokens
            freshPromptTokens := freshPromptTokens costInput
            cachedTokens := costInput.cachedTokens
            cacheCreationTokens := costInput.cacheCreationTokens
            completionTokens := costInput.completionTokens
            sellQuota := sellQuota
            costQuota := calculateUsageCostQuota env.quotaPerUnit costInput agreement
            cacheHit := decide (0 < costInput.cachedTokens)
            latencyMs := metadata.latencyMs
            status := "success"
            slaTier := metadata.slaTier
            supplyNode := metadata.supplyNode
            createdAt := createdAt }
        .ok (decorateTenantLedger db env.location now ledger info billing)

/-! ## The recording transaction -/

/-- Where an attempt of the recording transaction breaks off, with the message.
    `later` covers every statement after the insert and the commit; by then gorm
    has filled in the id of the inserted row. -/
inductive TxFault where
  | begin (message : String)
  | insert (message : String)
  | later (message : String)

/-- What the database does in one attempt. -/
structure TxAttempt where
  now : Timestamp
  autoId : Nat
  fault : Option TxFault := none

/-- One attempt of the transaction in `insertUsageLedgerWithTenantCredit`, with the
    in-memory ledger it leaves behind. A failed attempt is rolled back, but the
    ledger object keeps the id that the insert assigned. -/
def tryInsertUsageLedger (loc : Location) (db : DB) (attempt : TxAttempt)
    (ledger : UsageLedger) : Except String (Nat × DB) × UsageLedger :=
  match attempt.fault with
  | some (.begin message) => (.error message, ledger)
  | some (.insert message) => (.error message, ledger.normalize attempt.now)
  | fault =>
    match insertIdempotentRowsAffectedTx db attempt.now attempt.autoId ledger with
    | .error e => (.error e, ledger.normalize attempt.now)
    | .ok (affected, row, db₁) =>
      match fault with
      | some (.later message) => (.error message, row)
      | _ =>
        if affected = 0 then (.ok (0, db), row)
        else
          match applyTenantLedgerCreditTx db₁ row with
          | .error e => (.error e, row)
          | .ok db₂ => (.ok (affected, upsertUsageAggregateDailyTx db₂ loc attempt.now row), row)

/-- `isRetryableTenantDBWriteError`. -/
def isRetryableTenantDBWriteError (message : String) : Bool :=
  let m := String.ofList (message.toList.map Char.toLower)
  containsText m "database is locked" || containsText m "database table is locked" ||
    containsText m "sqlite_busy"

/-- `maxAttempts` of `retryTenantDBWrite`. -/
def maxAttempts (usingSQLite : Bool) : Nat := if usingSQLite then 40 else 8

/-- The loop of `retryTenantDBWrite` around the recording transaction: `fuel`
    attempts are left and `attempts n` is what the database does in the next one.
    The one in-memory ledger is passed from attempt to attempt. -/
def insertUsageLedgerLoop (loc : Location) (db : DB) (attempts : Nat → TxAttempt) :
    (fuel n : Nat) → (ledger : UsageLedger) → (last : String) → Except String (Nat × DB)
  | 0, _, _, last => .error last
  | fuel + 1, n, ledger, _ =>
    match tryInsertUsageLedger loc db (attempts n) ledger with
    | (.ok result, _) => .ok result
    | (.error e, ledger') =>
      if isRetryableTenantDBWriteError e then
        insertUsageLedgerLoop loc db attempts fuel (n + 1) ledger' e
      else .error e

/-- `insertUsageLedgerWithTenantCredit`. -/
def insertUsageLedgerWithTenantCredit (env : UsageEnv) (db : DB) (attempts : Nat → TxAttempt)
    (ledger : UsageLedger) : Except String (Nat × DB) :=
  insertUsageLedgerLoop env.location db attempts (maxAttempts env.usingSQLite) 0 ledger ""

/-- The arguments of a `recordUsageWithMeta` call and what it meets outside. -/
structure RecordCall where
  env : UsageEnv
  now : Timestamp
  info : RelayInfo
  billing : Option Int := none
  usage : Option Usage
  sellQuota : Int
  metadata : UsageRecordMeta
  attempts : Nat → TxAttempt

/-- `recordUsageWithMeta`, up to reading the saved row back. -/
def recordUsageWithMeta (db : DB) (c : RecordCall) : Except String DB :=
  match newUsageLedger c.env db c.now c.info c.billing c.usage c.sellQuota c.metadata with
  | .error e => .error e
  | .ok ledger =>
    match insertUsageLedgerWithTenantCredit c.env db c.attempts ledger with
    | .error e => .error e
    | .ok (_, db') => .ok db'

end TokenRouter
