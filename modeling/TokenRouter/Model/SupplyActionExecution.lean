import TokenRouter.Model.SupplyActionPlan
import TokenRouter.Model.SupplyCapacity

/-!
# Supply action executions (`model/supply_action_execution.go`)

An execution records how a completed plan was carried out. Recording is an upsert on the plan
that writes every column, the drawdown columns with the zeros of a new row; the refresh sums
the usage ledgers of a row and writes the drawdown columns by id. `created_at` is left out.
-/

namespace TokenRouter

/-- `ExecutionStatus` -/
inductive SupplyActionExecutionStatus where
  | recorded
  deriving DecidableEq

/-- A row of `supply_action_executions`. -/
structure SupplyActionExecution where
  id : Nat := 0
  supplyActionPlanId : Nat
  supplyDecisionId : Nat
  decisionKey : String
  trafficProfileId : Nat
  sliceKey : String
  modelName : String
  slaTier : String
  userId : Int
  periodStart : Int
  periodEnd : Int
  decisionType : SupplyDecisionType
  track : SupplyTrack
  actionType : SupplyActionType
  executionStatus : SupplyActionExecutionStatus
  supplierId : Int
  channelId : Int
  supplyCapacityId : Int
  recommendedCapacity : Int
  actualCapacityTokens : Int
  gapTokens : Int
  roiScore : ℚ
  unitCostQuota : ℚ
  drawdownTokens : Int := 0
  drawdownRequestCount : Int := 0
  remainingTokens : Int := 0
  drawdownRate : ℚ := 0
  drawdownSourceType : String := ""
  drawdownSourceRef : String := ""
  drawdownRefreshedAt : Int := 0
  effectiveFrom : Int
  effectiveTo : Int
  externalRef : String
  operatorNote : String
  actionPlanCompletedAt : Int
  actionPlanCompletedBy : Int
  recordedAt : Int
  recordedBy : Int
  updatedAt : Int
  deriving DecidableEq

namespace SupplyActionExecution

def withId (x : SupplyActionExecution) (id : Nat) : SupplyActionExecution := { x with id }

@[simp] theorem withId_id (x : SupplyActionExecution) (id : Nat) : (x.withId id).id = id := rfl

@[simp] theorem withId_supplyActionPlanId (x : SupplyActionExecution) (id : Nat) :
    (x.withId id).supplyActionPlanId = x.supplyActionPlanId := rfl

end SupplyActionExecution

/-- The `supply_action_executions` table. -/
abbrev SupplyActionExecutions := Table SupplyActionExecution (·.id)

/-- The tables that recording and refreshing read; suppliers and channels are only looked up. -/
structure SupplyExecutionDB where
  plans : SupplyActionPlans
  capacities : SupplyCapacities
  suppliers : List Int
  channels : List Int
  ledgers : List UsageLedger
  executions : SupplyActionExecutions

/-- `SupplyActionExecutionRecordInput` -/
structure SupplyActionExecutionRecordInput where
  supplyActionPlanId : Int
  executionStatus : String := ""
  supplierId : Int := 0
  channelId : Int := 0
  supplyCapacityId : Int := 0
  actualCapacityTokens : Int := 0
  unitCostQuota : ℚ := 0
  effectiveFrom : Int := 0
  effectiveTo : Int := 0
  externalRef : String := ""
  operatorNote : String := ""

/-- `SupplyActionExecutionUsageRefreshInput`, which is also the filter of the search. -/
structure SupplyActionExecutionUsageRefreshInput where
  executionId : Int := 0
  supplyActionPlanId : Int := 0
  supplyDecisionId : Int := 0
  executionStatus : String := ""
  track : String := ""
  supplierId : Int := 0
  channelId : Int := 0
  supplyCapacityId : Int := 0
  startTime : Int := 0
  endTime : Int := 0

/-- `normalizeSupplyActionExecutionStatus`; `none` is the empty text. -/
def normalizeSupplyActionExecutionStatus (status : String) : Option SupplyActionExecutionStatus :=
  if trimSpace status = "" ∨ trimSpace status = "recorded" then some .recorded else none

/-- `validateSupplyActionExecutionInput` -/
def validateSupplyActionExecutionInput (input : SupplyActionExecutionRecordInput) :
    Except String SupplyActionExecutionStatus :=
  if input.supplyActionPlanId ≤ 0 then .error "supply_action_plan_id is required"
  else
    match normalizeSupplyActionExecutionStatus input.executionStatus with
    | none => .error "invalid supply action execution status"
    | some status =>
      if input.actualCapacityTokens < 0 then .error "actual_capacity_tokens cannot be negative"
      else if input.unitCostQuota < 0 then .error "unit_cost_quota cannot be negative"
      else if input.effectiveFrom < 0 ∨ input.effectiveTo < 0 then
        .error "effective time cannot be negative"
      else if 0 < input.effectiveTo ∧ 0 < input.effectiveFrom ∧
          input.effectiveTo ≤ input.effectiveFrom then
        .error "effective_to must be greater than effective_from"
      else .ok status

/-- `validateSupplyActionExecutionReferences` -/
def validateSupplyActionExecutionReferences (db : SupplyExecutionDB)
    (input : SupplyActionExecutionRecordInput) : Except String Unit :=
  if 0 < input.supplierId ∧ input.supplierId ∉ db.suppliers then .error "record not found"
  else if 0 < input.channelId ∧ input.channelId ∉ db.channels then .error "record not found"
  else if 0 < input.supplyCapacityId ∧
      (db.capacities.find? input.supplyCapacityId.toNat).isNone then .error "record not found"
  else .ok ()

/-- `buildSupplyActionExecutionFromPlan` -/
def buildSupplyActionExecutionFromPlan (plan : SupplyActionPlan)
    (input : SupplyActionExecutionRecordInput) (status : SupplyActionExecutionStatus)
    (recordedBy now : Int) : SupplyActionExecution where
  supplyActionPlanId := plan.id
  supplyDecisionId := plan.supplyDecisionId
  decisionKey := plan.content.decisionKey
  trafficProfileId := plan.content.trafficProfileId
  sliceKey := plan.content.sliceKey
  modelName := plan.content.modelName
  slaTier := plan.content.slaTier
  userId := plan.content.userId
  periodStart := plan.content.periodStart
  periodEnd := plan.content.periodEnd
  decisionType := plan.content.decisionType
  track := plan.content.track
  actionType := plan.content.actionType
  executionStatus := status
  supplierId := input.supplierId
  channelId := input.channelId
  supplyCapacityId := input.supplyCapacityId
  recommendedCapacity := plan.content.recommendedCapacity
  actualCapacityTokens := input.actualCapacityTokens
  gapTokens := plan.content.gapTokens
  roiScore := plan.content.roiScore
  unitCostQuota := input.unitCostQuota
  effectiveFrom := input.effectiveFrom
  effectiveTo := input.effectiveTo
  externalRef := trimSpace input.externalRef
  operatorNote := trimSpace input.operatorNote
  actionPlanCompletedAt := plan.lifecycle.completedAt
  actionPlanCompletedBy := plan.lifecycle.statusUpdatedBy
  recordedAt := now
  recordedBy := recordedBy
  updatedAt := now

/-- The checks of `RecordSupplyActionExecution` and the row that it builds. -/
def supplyActionExecutionToRecord (db : SupplyExecutionDB)
    (input : SupplyActionExecutionRecordInput) (recordedBy now : Int) :
    Except String SupplyActionExecution := do
  let status ← validateSupplyActionExecutionInput input
  match db.plans.find? input.supplyActionPlanId.toNat with
  | none => .error "record not found"
  | some plan =>
    if plan.lifecycle.status ≠ .completed then
      .error "supply action plan must be completed before execution can be recorded"
    else do
      validateSupplyActionExecutionReferences db input
      return buildSupplyActionExecutionFromPlan plan input status recordedBy now

/-- The upsert on `supply_action_plan_id`: a row of the plan gets every column of the new one. -/
def upsertSupplyActionExecution (executions : SupplyActionExecutions) (x : SupplyActionExecution) :
    SupplyActionExecutions :=
  executions.upsertOn (·.supplyActionPlanId) x.supplyActionPlanId (fun row => x.withId row.id)
    x.withId

/-- `RecordSupplyActionExecution`, which reads the row of the plan back. -/
def recordSupplyActionExecution (db : SupplyExecutionDB) (input : SupplyActionExecutionRecordInput)
    (recordedBy now : Int) : Except String (Option SupplyActionExecution × SupplyExecutionDB) := do
  let x ← supplyActionExecutionToRecord db input recordedBy now
  let executions := upsertSupplyActionExecution db.executions x
  return (executions.rows.find? fun r => r.supplyActionPlanId = x.supplyActionPlanId,
    { db with executions })

/-- The filters of `SearchSupplyActionExecutions`. -/
def searchSupplyActionExecutions (f : SupplyActionExecutionUsageRefreshInput)
    (x : SupplyActionExecution) : Bool :=
  (f.executionId ≤ 0 || (x.id : Int) = f.executionId) &&
  (f.supplyActionPlanId ≤ 0 || (x.supplyActionPlanId : Int) = f.supplyActionPlanId) &&
  (f.supplyDecisionId ≤ 0 || (x.supplyDecisionId : Int) = f.supplyDecisionId) &&
  (normalizeSupplyActionExecutionStatus f.executionStatus = none ||
    some x.executionStatus = normalizeSupplyActionExecutionStatus f.executionStatus) &&
  (trimSpace f.track = "" || x.track.text = trimSpace f.track) &&
  (f.supplierId ≤ 0 || x.supplierId = f.supplierId) &&
  (f.channelId ≤ 0 || x.channelId = f.channelId) &&
  (f.supplyCapacityId ≤ 0 || x.supplyCapacityId = f.supplyCapacityId) &&
  (f.startTime ≤ 0 || f.startTime ≤ x.periodEnd) &&
  (f.endTime ≤ 0 || x.periodStart ≤ f.endTime)

/-- `findSupplyActionExecutionsForUsageRefresh`: `recorded_at DESC, id DESC`, the first 100000. -/
def findSupplyActionExecutionsForUsageRefresh (executions : SupplyActionExecutions)
    (input : SupplyActionExecutionUsageRefreshInput) : List SupplyActionExecution :=
  ((executions.rows.filter (searchSupplyActionExecutions input)).insertionSort fun a b =>
    b.recordedAt < a.recordedAt ∨ (a.recordedAt = b.recordedAt ∧ b.id ≤ a.id)).take 100000

/-- `supplyActionExecutionUsageWindow` -/
def supplyActionExecutionUsageWindow (x : SupplyActionExecution) : Int × Int :=
  (if x.effectiveFrom ≤ 0 then x.periodStart else x.effectiveFrom,
    if x.effectiveTo ≤ 0 then x.periodEnd else x.effectiveTo)

/-- `supplyNodeForSupplyActionExecution` -/
def supplyNodeForSupplyActionExecution (capacities : SupplyCapacities) (capacityID : Int) :
    String :=
  match capacities.find? capacityID.toNat with
  | none => ""
  | some capacity => trimSpace capacity.supplyNode

/-- The node that restricts the query of an execution; empty for none. -/
def usageNodeForSupplyActionExecution (capacities : SupplyCapacities) (x : SupplyActionExecution) :
    String :=
  if 0 < x.supplyCapacityId then supplyNodeForSupplyActionExecution capacities x.supplyCapacityId
  else ""

/-- The `WHERE` of `usageDrawdownForSupplyActionExecution`. -/
def drawsDown (capacities : SupplyCapacities) (x : SupplyActionExecution) (l : UsageLedger) :
    Bool :=
  let (start, finish) := supplyActionExecutionUsageWindow x
  let supplyNode := usageNodeForSupplyActionExecution capacities x
  l.supplierId = x.supplierId && l.status = "success" &&
  start ≤ l.createdAt && l.createdAt ≤ finish &&
  (x.channelId ≤ 0 || l.channelId = x.channelId) &&
  (trimSpace x.modelName = "" || l.modelName = trimSpace x.modelName) &&
  (trimSpace x.slaTier = "" || l.slaTier = trimSpace x.slaTier || l.slaTier = "") &&
  (x.userId ≤ 0 || l.userId = x.userId || l.userId = 0) &&
  (supplyNode = "" || l.supplyNode = supplyNode)

/-- The ledger rows that an execution is charged with: none without a supplier or a window. -/
def drawdownLedgers (db : SupplyExecutionDB) (x : SupplyActionExecution) : List UsageLedger :=
  let (start, finish) := supplyActionExecutionUsageWindow x
  if x.supplierId ≤ 0 ∨ start ≤ 0 ∨ finish ≤ 0 ∨ finish < start then []
  else db.ledgers.filter (drawsDown db.capacities x)

/-- `supplyActionExecutionUsageDrawdown` -/
structure SupplyActionExecutionUsageDrawdown where
  usedTokens : Int := 0
  requestCount : Int := 0
  deriving DecidableEq

/-- `usageDrawdownForSupplyActionExecution` -/
def usageDrawdownForSupplyActionExecution (db : SupplyExecutionDB) (x : SupplyActionExecution) :
    SupplyActionExecutionUsageDrawdown :=
  let rows := drawdownLedgers db x
  { usedTokens := sumTokens rows, requestCount := rows.length }

/-- `buildSupplyActionExecutionDrawdownSourceRef` -/
def buildSupplyActionExecutionDrawdownSourceRef (x : SupplyActionExecution) : String :=
  let (start, finish) := supplyActionExecutionUsageWindow x
  String.intercalate ":" ["usage_ledger", "execution", toString x.id, toString start,
    toString finish]

/-- The `Updates` of `RefreshSupplyActionExecutionUsage`, computed from the listed copy. -/
def refreshSupplyActionExecution (db : SupplyExecutionDB) (now : Int)
    (copy row : SupplyActionExecution) : SupplyActionExecution :=
  let drawdown := usageDrawdownForSupplyActionExecution db copy
  { row with
    drawdownTokens := drawdown.usedTokens
    drawdownRequestCount := drawdown.requestCount
    remainingTokens := copy.actualCapacityTokens - drawdown.usedTokens
    drawdownRate := tokenRate drawdown.usedTokens copy.actualCapacityTokens
    drawdownSourceType := "usage_ledger"
    drawdownSourceRef := buildSupplyActionExecutionDrawdownSourceRef copy
    drawdownRefreshedAt := now
    updatedAt := now }

/-- `RefreshSupplyActionExecutionUsage`: one update by id for each row listed, and the rows read
    back. -/
def refreshSupplyActionExecutionUsage (db : SupplyExecutionDB)
    (input : SupplyActionExecutionUsageRefreshInput) (now : Int) :
    List SupplyActionExecution × SupplyExecutionDB :=
  let copies := findSupplyActionExecutionsForUsageRefresh db.executions input
  let executions := copies.foldl
    (fun rows copy => rows.update copy.id (refreshSupplyActionExecution db now copy)) db.executions
  (copies.filterMap fun copy => executions.find? copy.id, { db with executions })

end TokenRouter
