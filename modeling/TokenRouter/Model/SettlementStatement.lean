import TokenRouter.ForStd.Table
import TokenRouter.Model.UsageLedger

/-!
# model/settlement_statement.go: settlement statements

A statement sums the successful ledgers of a supplier or a user over a period, both ends
included, and is upserted under subject, both ids and the period. The cache hit rate is a
rational and the time stamps are left out.
-/

namespace TokenRouter

/-- `UsageLedgerFilters`; an empty or non-positive filter is off. -/
structure UsageLedgerFilters where
  requestId : String := ""
  sessionId : String := ""
  supplierId : Int := 0
  channelId : Int := 0
  userId : Int := 0
  tokenId : Int := 0
  tenantId : Int := 0
  appId : Int := 0
  endCustomerId : Int := 0
  billingMode : Option BillingMode := none
  billingPeriod : String := ""
  modelName : String := ""
  status : String := ""
  startTime : Int := 0
  endTime : Int := 0

/-- A filter on an id column. -/
def idFilter (filter column : Int) : Bool := filter ≤ 0 || column = filter

/-- A filter on a text column. -/
def textFilter (filter column : String) : Bool := filter = "" || column = trimSpace filter

/-- `SearchUsageLedgers` without its paging. -/
def searchUsageLedgers (ledgers : List UsageLedger) (f : UsageLedgerFilters) : List UsageLedger :=
  ledgers.filter fun l =>
    textFilter f.requestId l.requestId && textFilter f.sessionId l.sessionId &&
    idFilter f.supplierId l.supplierId && idFilter f.channelId l.channelId &&
    idFilter f.userId l.userId && idFilter f.tokenId l.tokenId &&
    idFilter f.tenantId l.tenantId && idFilter f.appId l.appId &&
    idFilter f.endCustomerId l.endCustomerId &&
    (f.billingMode = none || l.billingMode = f.billingMode) &&
    textFilter f.billingPeriod l.billingPeriod && textFilter f.modelName l.modelName &&
    textFilter f.status l.status &&
    (f.startTime ≤ 0 || f.startTime ≤ l.createdAt) && (f.endTime ≤ 0 || l.createdAt ≤ f.endTime)

/-- `SettlementSubjectSupplier`, `SettlementSubjectUser`. -/
inductive SettlementSubject where
  | supplier
  | user
  deriving DecidableEq

/-- The columns of `uk_settlement_subject_period`. -/
structure SettlementKey where
  subjectType : SettlementSubject
  supplierId : Int
  userId : Int
  periodStart : Int
  periodEnd : Int
  deriving DecidableEq

/-- `marginAggregate`. -/
structure MarginAggregate where
  totalSellQuota : Int
  totalCostQuota : Int
  totalRequests : Int
  totalPromptTokens : Int
  totalCachedTokens : Int
  totalCompletionTokens : Int
  cacheHitCount : Int
  deriving DecidableEq

/-- `settlement_statements`; the totals are the columns that a generation writes. -/
structure SettlementStatement where
  id : Nat
  key : SettlementKey
  totalSellQuota : Int
  totalCostQuota : Int
  grossProfitQuota : Int
  totalRequests : Int
  totalPromptTokens : Int
  totalCachedTokens : Int
  totalCompletionTokens : Int
  cacheHitRate : ℚ
  status : String
  deriving DecidableEq

/-- `SettlementStatementGenerateInput`. -/
structure SettlementStatementGenerateInput where
  subjectType : String
  supplierId : Int := 0
  userId : Int := 0
  periodStart : Int
  periodEnd : Int

/-- `validateSettlementStatementInput`, with the key of the statement to write. -/
def validateSettlementStatementInput (input : SettlementStatementGenerateInput) :
    Except String SettlementKey :=
  let key subject : SettlementKey :=
    ⟨subject, input.supplierId, input.userId, input.periodStart, input.periodEnd⟩
  let checkPeriod subject :=
    if input.periodStart ≤ 0 ∨ input.periodEnd ≤ 0 ∨ input.periodEnd < input.periodStart then
      .error "invalid settlement period"
    else .ok (key subject)
  match trimSpace input.subjectType with
  | "supplier" =>
    if input.supplierId ≤ 0 then .error "supplier_id is required for supplier settlement"
    else checkPeriod .supplier
  | "user" =>
    if input.userId ≤ 0 then .error "user_id is required for user settlement"
    else checkPeriod .user
  | _ => .error "subject_type must be supplier or user"

/-- `statementLedgerQuery`. -/
def statementLedgerQuery (ledgers : List UsageLedger) (key : SettlementKey) : List UsageLedger :=
  ledgers.filter fun l =>
    key.periodStart ≤ l.createdAt && l.createdAt ≤ key.periodEnd && l.status = "success" &&
    (match key.subjectType with
    | .supplier => l.supplierId = key.supplierId
    | .user => l.userId = key.userId)

/-- `scanMarginAggregate`. -/
def scanMarginAggregate (ledgers : List UsageLedger) : MarginAggregate where
  totalSellQuota := (ledgers.map (·.sellQuota)).sum
  totalCostQuota := (ledgers.map (·.costQuota)).sum
  totalRequests := ledgers.length
  totalPromptTokens := (ledgers.map (·.promptTokens)).sum
  totalCachedTokens := (ledgers.map (·.cachedTokens)).sum
  totalCompletionTokens := (ledgers.map (·.completionTokens)).sum
  cacheHitCount := (ledgers.map fun l => if l.cacheHit then (1 : Int) else 0).sum

/-- The totals of a statement, as an aggregate gives them. -/
def SettlementStatement.withTotals (s : SettlementStatement) (agg : MarginAggregate) :
    SettlementStatement :=
  { s with
    totalSellQuota := agg.totalSellQuota
    totalCostQuota := agg.totalCostQuota
    grossProfitQuota := agg.totalSellQuota - agg.totalCostQuota
    totalRequests := agg.totalRequests
    totalPromptTokens := agg.totalPromptTokens
    totalCachedTokens := agg.totalCachedTokens
    totalCompletionTokens := agg.totalCompletionTokens
    cacheHitRate :=
      if 0 < agg.totalRequests then (agg.cacheHitCount : ℚ) / agg.totalRequests else 0
    status := "draft" }

/-- A statement before its totals are written. -/
def SettlementStatement.blank (key : SettlementKey) (id : Nat) : SettlementStatement :=
  { id, key, totalSellQuota := 0, totalCostQuota := 0, grossProfitQuota := 0, totalRequests := 0,
    totalPromptTokens := 0, totalCachedTokens := 0, totalCompletionTokens := 0, cacheHitRate := 0,
    status := "draft" }

/-- `usage_ledgers` and `settlement_statements`. -/
structure SettlementDB where
  ledgers : List UsageLedger
  statements : Table SettlementStatement (·.id)

/-- `GenerateSettlementStatement`. -/
def generateSettlementStatement (db : SettlementDB) (input : SettlementStatementGenerateInput) :
    SettlementDB :=
  match validateSettlementStatementInput input with
  | .error _ => db
  | .ok key =>
    let agg := scanMarginAggregate (statementLedgerQuery db.ledgers key)
    { db with
      statements := db.statements.upsertOn (·.key) key (·.withTotals agg)
        fun id => (SettlementStatement.blank key id).withTotals agg }

/-- `UsageLedgerFiltersForStatement`. -/
def usageLedgerFiltersForStatement (s : SettlementStatement) : UsageLedgerFilters where
  supplierId := if s.key.subjectType = .supplier then s.key.supplierId else 0
  userId := if s.key.subjectType = .user then s.key.userId else 0
  startTime := s.key.periodStart
  endTime := s.key.periodEnd
  status := "success"

end TokenRouter
