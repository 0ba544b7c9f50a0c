import TokenRouter.ForStd.GroupFold
import TokenRouter.ForStd.Table
import TokenRouter.Model.SupplyCapacity
import TokenRouter.Model.SupplyDecision

/-!
# model/traffic_profile.go: the profiles of a period

`GenerateTrafficProfiles` reads the ledgers of a period, folds them into one accumulator for
each slice key and upserts one row for each. Maps are lists of entries in the order in which
they were opened; the order in which Go walks over the accumulators is a parameter. `float64`
columns are rationals, and time stamps are left out.
-/

namespace TokenRouter

open GroupFold

/-- `traffic_profiles` with the columns that only this file reads. -/
structure TrafficProfileRow extends TrafficProfile where
  requestCount : Int := 0
  successRequestCount : Int := 0
  peakRatio : ℚ := 0
  uniqueSessions : Int := 0
  cacheHitCount : Int := 0
  totalCachedTokens : Int := 0
  avgLatencyMs : ℚ := 0
  maxLatencyMs : Int := 0
  totalSellQuota : Int := 0
  totalCostQuota : Int := 0
  supplyCapacityTokens : Int := 0
  supplyUsedTokens : Int := 0

/-- `TrafficProfileGenerateInput` -/
structure TrafficProfileGenerateInput where
  periodStart : Int
  periodEnd : Int
  modelName : String := ""
  slaTier : String := ""
  userId : Int := 0

/-- `validateTrafficProfileGenerateInput` -/
def validateTrafficProfileGenerateInput (input : TrafficProfileGenerateInput) :
    Except String Unit :=
  if input.periodStart ≤ 0 then .error "period_start is required"
  else if input.periodEnd ≤ input.periodStart then
    .error "period_end must be greater than period_start"
  else .ok ()

/-- `trafficProfileAccumulator` -/
structure TrafficProfileAccumulator where
  profile : TrafficProfileRow
  sessionSet : List String := []
  hourTokens : List (Int × Int) := []
  latencyTotalMs : Int := 0

/-- `trafficProfileSupplyAggregate` -/
structure TrafficProfileSupplyAggregate where
  capacityTokens : Int := 0
  usedTokens : Int := 0
  headroomTokens : Int := 0
  qualitySum : ℚ := 0
  unitCostSum : ℚ := 0
  count : Int := 0

/-! ## The ledgers of a period -/

/-- The `WHERE` clause on the ledgers. The default tier also selects ledgers without one. -/
def TrafficProfileGenerateInput.selects (input : TrafficProfileGenerateInput) (l : UsageLedger) :
    Bool :=
  let slaTier := normalizeTrafficProfileSlaTier input.slaTier
  (input.periodStart ≤ l.createdAt && l.createdAt ≤ input.periodEnd) &&
  (trimSpace input.modelName = "" || l.modelName = trimSpace input.modelName) &&
  (trimSpace input.slaTier = "" ||
    if slaTier = "default" then l.slaTier = slaTier || l.slaTier = "" else l.slaTier = slaTier) &&
  (input.userId ≤ 0 || l.userId = input.userId)

/-- The ledgers that are read, `ORDER BY created_at ASC, id ASC`. -/
def selectTrafficLedgers (input : TrafficProfileGenerateInput) (ledgers : List UsageLedger) :
    List UsageLedger :=
  (ledgers.filter input.selects).mergeSort fun a b =>
    a.createdAt < b.createdAt || (a.createdAt = b.createdAt && a.id ≤ b.id)

/-- The tokens of a request. -/
def UsageLedger.requestTokens (l : UsageLedger) : Int := l.promptTokens + l.completionTokens

/-- `(CreatedAt / 3600) * 3600` -/
def UsageLedger.hourBucket (l : UsageLedger) : Int := l.createdAt.tdiv 3600 * 3600

/-- The slice key of a ledger. -/
def UsageLedger.sliceKey (l : UsageLedger) : String :=
  trafficProfileSliceKey (trimSpace l.modelName) (normalizeTrafficProfileSlaTier l.slaTier) l.userId

/-! ## Accumulators -/

/-- The accumulator that the first ledger of a slice opens. -/
def newTrafficProfileAccumulator (input : TrafficProfileGenerateInput) (l : UsageLedger) :
    TrafficProfileAccumulator :=
  { profile :=
      { sliceKey := l.sliceKey
        modelName := trimSpace l.modelName
        slaTier := normalizeTrafficProfileSlaTier l.slaTier
        userId := l.userId
        periodStart := input.periodStart
        periodEnd := input.periodEnd } }

/-- The entry of one hour. -/
def addHourTokens (hourTokens : List (Int × Int)) (l : UsageLedger) : List (Int × Int) :=
  groupStep UsageLedger.hourBucket (fun _ => 0) (fun tokens l => tokens + l.requestTokens)
    hourTokens l

/-- What the loop does with one ledger. -/
def TrafficProfileAccumulator.add (acc : TrafficProfileAccumulator) (l : UsageLedger) :
    TrafficProfileAccumulator :=
  { profile :=
      { acc.profile with
        requestCount := acc.profile.requestCount + 1
        successRequestCount :=
          acc.profile.successRequestCount + if l.status = "success" then 1 else 0
        demandTokens := acc.profile.demandTokens + l.requestTokens
        totalCachedTokens := acc.profile.totalCachedTokens + l.cachedTokens
        totalSellQuota := acc.profile.totalSellQuota + l.sellQuota
        totalCostQuota := acc.profile.totalCostQuota + l.costQuota
        cacheHitCount := acc.profile.cacheHitCount + if l.cacheHit then 1 else 0
        maxLatencyMs :=
          if l.latencyMs > acc.profile.maxLatencyMs then l.latencyMs
          else acc.profile.maxLatencyMs }
    sessionSet :=
      if trimSpace l.sessionId = "" then acc.sessionSet
      else setAdd acc.sessionSet (trimSpace l.sessionId)
    hourTokens := addHourTokens acc.hourTokens l
    latencyTotalMs := acc.latencyTotalMs + l.latencyMs }

/-- The map of accumulators after the loop. -/
def trafficProfileAccumulators (input : TrafficProfileGenerateInput) (ledgers : List UsageLedger) :
    List (String × TrafficProfileAccumulator) :=
  groupFold UsageLedger.sliceKey (newTrafficProfileAccumulator input)
    TrafficProfileAccumulator.add ledgers

/-! ## Supply -/

/-- The `WHERE` clause on the capacities. -/
def TrafficProfileGenerateInput.selectsCapacity (input : TrafficProfileGenerateInput)
    (c : SupplyCapacity) : Bool :=
  (input.periodStart ≤ c.periodEnd && c.periodStart ≤ input.periodEnd) &&
  (trimSpace input.modelName = "" || c.modelName = trimSpace input.modelName || c.modelName = "")

def TrafficProfileSupplyAggregate.add (agg : TrafficProfileSupplyAggregate) (c : SupplyCapacity) :
    TrafficProfileSupplyAggregate :=
  { capacityTokens := agg.capacityTokens + c.capacityTokens
    usedTokens := agg.usedTokens + c.usedTokens
    headroomTokens := agg.headroomTokens + c.headroomTokens
    qualitySum := agg.qualitySum + c.qualityScore
    unitCostSum := agg.unitCostSum + c.unitCostQuota
    count := agg.count + 1 }

/-- `trafficProfileSupplyByModel`; capacities without a model are left out. -/
def trafficProfileSupplyByModel (input : TrafficProfileGenerateInput)
    (capacities : List SupplyCapacity) : List (String × TrafficProfileSupplyAggregate) :=
  groupFold (fun c => trimSpace c.modelName) (fun _ => {}) TrafficProfileSupplyAggregate.add
    (capacities.filter fun c => input.selectsCapacity c && trimSpace c.modelName ≠ "")

/-! ## Finished profiles -/

/-- The largest entry, or 0. -/
def peakOf (hourTokens : List (Int × Int)) : Int :=
  hourTokens.foldl (fun peak e => if e.2 > peak then e.2 else peak) 0

/-- `float64(part) / float64(count)` -/
def perRequest (part count : Int) : ℚ := if 0 < count then (part : ℚ) / count else 0

/-- `finalizeTrafficProfileAccumulator`. With tokens in a bucket the average is positive, so the
    ratio is a number. -/
def finalizeTrafficProfileAccumulator (acc : TrafficProfileAccumulator)
    (supply : TrafficProfileSupplyAggregate) : TrafficProfileRow :=
  let activeBucketCount := acc.hourTokens.length
  let peakTokens := peakOf acc.hourTokens
  { acc.profile with
    grossProfitQuota := acc.profile.totalSellQuota - acc.profile.totalCostQuota
    uniqueSessions := acc.sessionSet.length
    cacheHitRate := perRequest acc.profile.cacheHitCount acc.profile.requestCount
    slaMetRate := perRequest acc.profile.successRequestCount acc.profile.requestCount
    avgLatencyMs := perRequest acc.latencyTotalMs acc.profile.requestCount
    peakTokens := peakTokens
    peakRatio :=
      if 0 < activeBucketCount ∧ 0 < acc.profile.demandTokens then
        (peakTokens : ℚ) / ((acc.profile.demandTokens : ℚ) / activeBucketCount)
      else 0
    supplyCapacityTokens := supply.capacityTokens
    supplyUsedTokens := supply.usedTokens
    supplyHeadroomTokens := supply.headroomTokens
    avgSupplyQualityScore := if 0 < supply.count then supply.qualitySum / supply.count else 0
    avgUnitCostQuota := if 0 < supply.count then supply.unitCostSum / supply.count else 0 }

/-- The profiles of the accumulators. -/
def trafficProfilesOf (input : TrafficProfileGenerateInput) (capacities : List SupplyCapacity)
    (ledgers : List UsageLedger) : List TrafficProfileRow :=
  let supplyByModel := trafficProfileSupplyByModel input capacities
  (trafficProfileAccumulators input ledgers).map fun e =>
    finalizeTrafficProfileAccumulator e.2 ((supplyByModel.lookup e.2.profile.modelName).getD {})

/-! ## The table -/

/-- `traffic_profiles` -/
abbrev TrafficProfiles := Table TrafficProfileRow (·.id)

/-- The columns of `uk_traffic_profile_slice_period`. -/
def TrafficProfileRow.conflictKey (p : TrafficProfileRow) : String × Int × Int :=
  (p.sliceKey, p.periodStart, p.periodEnd)

/-- The row under the primary key that an insert gives it. -/
def TrafficProfileRow.withId (p : TrafficProfileRow) (id : Nat) : TrafficProfileRow :=
  { p with id := id }

/-- `Create` with the `OnConflict` clause: on conflict every column but the id is assigned. -/
def upsertTrafficProfiles (table : TrafficProfiles) (profiles : List TrafficProfileRow) :
    TrafficProfiles :=
  table.upsertAll TrafficProfileRow.conflictKey TrafficProfileRow.withId profiles

/-- The `WHERE` clause of the query that reads the profiles back. -/
def TrafficProfileGenerateInput.selectsProfile (input : TrafficProfileGenerateInput)
    (p : TrafficProfileRow) : Bool :=
  (p.periodStart = input.periodStart && p.periodEnd = input.periodEnd) &&
  (trimSpace input.modelName = "" || p.modelName = trimSpace input.modelName) &&
  (trimSpace input.slaTier = "" ||
    p.slaTier = normalizeTrafficProfileSlaTier input.slaTier) &&
  (input.userId ≤ 0 || p.userId = input.userId)

/-- `GenerateTrafficProfiles`: the profiles that are returned, and the table. `order` is the
    order in which Go walks over the accumulators. -/
def generateTrafficProfiles (order : List TrafficProfileRow → List TrafficProfileRow)
    (ledgers : List UsageLedger) (capacities : List SupplyCapacity) (table : TrafficProfiles)
    (input : TrafficProfileGenerateInput) :
    Except String (List TrafficProfileRow × TrafficProfiles) := do
  validateTrafficProfileGenerateInput input
  let selected := selectTrafficLedgers input ledgers
  if selected = [] then return ([], table)
  let profiles := order (trafficProfilesOf input capacities selected)
  let table := upsertTrafficProfiles table profiles
  let results := (table.rows.filter input.selectsProfile).mergeSort fun a b => b.id ≤ a.id
  return (results, table)

end TokenRouter
