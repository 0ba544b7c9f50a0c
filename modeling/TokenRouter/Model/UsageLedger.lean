import TokenRouter.Common
import TokenRouter.Model.Tenant

/-!
# Usage ledger and daily aggregate (`model/usage_ledger.go`, `model/usage_aggregate.go`)

One `usage_ledgers` row per recorded request, keyed by `request_id`, and one
`usage_aggregate_daily` row per combination of the eleven key columns. The
aggregate row is split into its key (the conflict columns of the upsert) and its
totals (the columns the upsert adds to). `price_snapshot` is left out: it is a
JSON text that nothing reads back.
-/

namespace TokenRouter

/-- `usage_ledgers`. `id = 0` stands for a row the database has not numbered yet;
    `billingMode = none` is the empty string of requests without a tenant. -/
structure UsageLedger where
  id : Nat := 0
  requestId : String
  sessionId : String := ""
  supplierId : Int := 0
  channelId : Int := 0
  userId : Int := 0
  tokenId : Int := 0
  tenantId : Int := 0
  endCustomerId : Int := 0
  appId : Int := 0
  modelName : String := ""
  promptTokens : Int := 0
  freshPromptTokens : Int := 0
  cachedTokens : Int := 0
  cacheCreationTokens : Int := 0
  completionTokens : Int := 0
  sellQuota : Int := 0
  costQuota : Int := 0
  billingMode : Option BillingMode := none
  billingPeriod : String := ""
  postpaidQuota : Int := 0
  cacheHit : Bool := false
  latencyMs : Int := 0
  status : String := "success"
  slaTier : String := ""
  supplyNode : String := ""
  createdAt : Int := 0
  deriving DecidableEq

/-- `UsageLedger.normalize`. -/
def UsageLedger.normalize (l : UsageLedger) (now : Timestamp) : UsageLedger :=
  let status := trimSpace l.status
  let fresh := l.promptTokens - l.cachedTokens - l.cacheCreationTokens
  { l with
    requestId := trimSpace l.requestId
    sessionId := trimSpace l.sessionId
    modelName := trimSpace l.modelName
    status := if status = "" then "success" else status
    slaTier := trimSpace l.slaTier
    supplyNode := trimSpace l.supplyNode
    billingPeriod := trimSpace l.billingPeriod
    createdAt := if l.createdAt = 0 then now.unix else l.createdAt
    cacheHit := if 0 < l.cachedTokens then true else l.cacheHit
    freshPromptTokens :=
      if l.freshPromptTokens = 0 ∧ 0 < l.promptTokens then (if fresh < 0 then 0 else fresh)
      else l.freshPromptTokens }

/-- The ledger under the primary key that an insert gives it. -/
def UsageLedger.withId (l : UsageLedger) (id : Nat) : UsageLedger := { l with id := id }

@[simp] theorem UsageLedger.withId_withId (l : UsageLedger) (id id' : Nat) :
    (l.withId id).withId id' = l.withId id' := rfl

@[simp] theorem UsageLedger.withId_id (l : UsageLedger) (id : Nat) : (l.withId id).id = id := rfl

@[simp] theorem UsageLedger.withId_createdAt (l : UsageLedger) (id : Nat) :
    (l.withId id).createdAt = l.createdAt := rfl

@[simp] theorem UsageLedger.withId_requestId (l : UsageLedger) (id : Nat) :
    (l.withId id).requestId = l.requestId := rfl

@[simp] theorem UsageLedger.normalize_id (l : UsageLedger) (now : Timestamp) :
    (l.normalize now).id = l.id := rfl

@[simp] theorem UsageLedger.normalize_withId (l : UsageLedger) (id : Nat) (now : Timestamp) :
    (l.withId id).normalize now = (l.normalize now).withId id := rfl

/-- The conflict columns of `UpsertUsageAggregateDailyTx`, which are also the
    columns of the unique index `uk_usage_aggregate_daily`. -/
structure AggregateKey where
  day : String
  tenantId : Int
  appId : Int
  endCustomerId : Int
  userId : Int
  tokenId : Int
  supplierId : Int
  channelId : Int
  modelName : String
  billingMode : Option BillingMode
  status : String
  deriving DecidableEq

/-- The columns that `UpsertUsageAggregateDailyTx` adds to. -/
@[ext] structure AggregateTotals where
  requestCount : Int
  promptTokens : Int
  freshPromptTokens : Int
  cachedTokens : Int
  cacheCreationTokens : Int
  completionTokens : Int
  sellQuota : Int
  costQuota : Int
  postpaidQuota : Int
  cacheHitCount : Int
  latencyMsTotal : Int
  deriving DecidableEq

namespace AggregateTotals

/-- Column-wise addition: the `DoUpdates` assignments `c = c + ?`. -/
instance : Add AggregateTotals where
  add a b :=
    { requestCount := a.requestCount + b.requestCount
      promptTokens := a.promptTokens + b.promptTokens
      freshPromptTokens := a.freshPromptTokens + b.freshPromptTokens
      cachedTokens := a.cachedTokens + b.cachedTokens
      cacheCreationTokens := a.cacheCreationTokens + b.cacheCreationTokens
      completionTokens := a.completionTokens + b.completionTokens
      sellQuota := a.sellQuota + b.sellQuota
      costQuota := a.costQuota + b.costQuota
      postpaidQuota := a.postpaidQuota + b.postpaidQuota
      cacheHitCount := a.cacheHitCount + b.cacheHitCount
      latencyMsTotal := a.latencyMsTotal + b.latencyMsTotal }

instance : Zero AggregateTotals where
  zero := ⟨0, 0, 0, 0, 0, 0, 0, 0, 0, 0, 0⟩

theorem add_def (a b : AggregateTotals) : a + b =
    ⟨a.requestCount + b.requestCount, a.promptTokens + b.promptTokens,
      a.freshPromptTokens + b.freshPromptTokens, a.cachedTokens + b.cachedTokens,
      a.cacheCreationTokens + b.cacheCreationTokens, a.completionTokens + b.completionTokens,
      a.sellQuota + b.sellQuota, a.costQuota + b.costQuota, a.postpaidQuota + b.postpaidQuota,
      a.cacheHitCount + b.cacheHitCount, a.latencyMsTotal + b.latencyMsTotal⟩ := rfl

theorem zero_def : (0 : AggregateTotals) = ⟨0, 0, 0, 0, 0, 0, 0, 0, 0, 0, 0⟩ := rfl

instance : AddCommMonoid AggregateTotals where
  add_assoc a b c := by simp only [add_def, add_assoc]
  zero_add a := by simp only [add_def, zero_def, zero_add]
  add_zero a := by simp only [add_def, zero_def, add_zero]
  add_comm a b := by simp only [add_def, add_comm]
  nsmul := nsmulRec

end AggregateTotals

/-- `usage_aggregate_daily`. -/
structure UsageAggregateDaily where
  key : AggregateKey
  totals : AggregateTotals
  deriving DecidableEq

/-- `UsageLedgerDay`. -/
def usageLedgerDay (loc : Location) (now : Timestamp) (createdAt : Int) : String :=
  formatDay loc (if createdAt ≤ 0 then now.unix else createdAt)

/-- The key columns of the item that `UpsertUsageAggregateDailyTx` builds. -/
def UsageLedger.aggregateKey (l : UsageLedger) (loc : Location) (now : Timestamp) :
    AggregateKey :=
  { day := usageLedgerDay loc now l.createdAt
    tenantId := l.tenantId
    appId := l.appId
    endCustomerId := l.endCustomerId
    userId := l.userId
    tokenId := l.tokenId
    supplierId := l.supplierId
    channelId := l.channelId
    modelName := l.modelName
    billingMode := l.billingMode
    status := l.status }

/-- The summed columns of the item that `UpsertUsageAggregateDailyTx` builds. -/
def UsageLedger.aggregateTotals (l : UsageLedger) : AggregateTotals :=
  { requestCount := 1
    promptTokens := l.promptTokens
    freshPromptTokens := l.freshPromptTokens
    cachedTokens := l.cachedTokens
    cacheCreationTokens := l.cacheCreationTokens
    completionTokens := l.completionTokens
    sellQuota := l.sellQuota
    costQuota := l.costQuota
    postpaidQuota := l.postpaidQuota
    cacheHitCount := if l.cacheHit then 1 else 0
    latencyMsTotal := l.latencyMs }

end TokenRouter
