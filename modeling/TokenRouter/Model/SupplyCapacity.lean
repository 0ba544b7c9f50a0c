import TokenRouter.ForStd.RefreshRace
import TokenRouter.Model.UsageLedger
import TokenRouter.ForStd.Table
import TokenRouter.Model.Supplier

/-!
# model/supply_capacity.go: capacity snapshots

A snapshot is inserted and saved by an operator, upserted from telemetry, and refreshed
from the usage ledgers. The refresh lists rows, sums ledgers for each copy and writes
derived columns back by id; the upsert reads the row of its period first. `float64`
columns are rationals, deleted rows are gone, and time stamps are left out.
-/

namespace TokenRouter

/-- `supply_capacities`. -/
structure SupplyCapacity where
  id : Nat := 0
  supplierId : Int
  supplyNode : String := ""
  modelName : String := ""
  periodStart : Int
  periodEnd : Int
  capacityTokens : Int := 0
  usedTokens : Int := 0
  headroomTokens : Int := 0
  utilizationRate : ℚ := 0
  gpuUtilizationRate : ℚ := 0
  qualityScore : ℚ := 0
  unitCostQuota : ℚ := 0
  telemetrySourceType : String := ""
  telemetrySourceRef : String := ""
  telemetryObservedAt : Int := 0
  status : Int := 1
  notes : String := ""

/-- `float64(part) / float64(total)` for a positive total, else 0. -/
def tokenRate (part total : Int) : ℚ := if 0 < total then (part : ℚ) / total else 0

namespace SupplyCapacity

def normalize (c : SupplyCapacity) : SupplyCapacity :=
  { c with
    supplyNode := trimSpace c.supplyNode
    modelName := trimSpace c.modelName
    telemetrySourceType := trimSpace c.telemetrySourceType
    telemetrySourceRef := trimSpace c.telemetrySourceRef
    status := if c.status = 0 then 1 else c.status
    headroomTokens := c.capacityTokens - c.usedTokens
    utilizationRate := tokenRate c.usedTokens c.capacityTokens }

def validate (c : SupplyCapacity) : Except String Unit :=
  if c.supplierId ≤ 0 then .error "supplier_id is required"
  else if c.periodStart ≤ 0 then .error "period_start is required"
  else if c.periodEnd ≤ c.periodStart then
    .error "period_end must be greater than period_start"
  else if c.capacityTokens < 0 then .error "capacity_tokens cannot be negative"
  else if c.usedTokens < 0 then .error "used_tokens cannot be negative"
  else if c.qualityScore < 0 ∨ 100 < c.qualityScore then
    .error "quality_score must be between 0 and 100"
  else if c.gpuUtilizationRate < 0 ∨ 1 < c.gpuUtilizationRate then
    .error "gpu_utilization_rate must be between 0 and 1"
  else if c.unitCostQuota < 0 then .error "unit_cost_quota cannot be negative"
  else .ok ()

end SupplyCapacity

/-- The columns of `supply_capacity_telemetries` that reach a capacity. -/
structure SupplyCapacityTelemetry where
  telemetryKey : String := ""
  supplierId : Int
  supplyNode : String := ""
  modelName : String := ""
  periodStart : Int
  periodEnd : Int
  capacityTokens : Int := 0
  usedTokens : Int := 0
  gpuUtilizationRate : ℚ := 0
  qualityScore : ℚ := 0
  unitCostQuota : ℚ := 0
  sourceType : String := ""
  sourceRef : String := ""
  observedAt : Int := 0
  notes : String := ""

/-- `normalizeSupplyCapacityTelemetrySource`. -/
def normalizeSupplyCapacityTelemetrySource (value : String) : String :=
  match trimSpace value with
  | "external" => "external"
  | "manual" => "manual"
  | _ => "node_report"

namespace SupplyCapacityTelemetry

/-- `normalize`, but for the key that it derives from a source reference. -/
def normalize (t : SupplyCapacityTelemetry) : SupplyCapacityTelemetry :=
  { t with
    telemetryKey := trimSpace t.telemetryKey
    supplyNode := trimSpace t.supplyNode
    modelName := trimSpace t.modelName
    sourceType := normalizeSupplyCapacityTelemetrySource t.sourceType
    sourceRef := trimSpace t.sourceRef
    notes := trimSpace t.notes }

/-- `validate` of a normalised row; its key is empty only without a source reference. -/
def validate (t : SupplyCapacityTelemetry) : Except String Unit :=
  if t.telemetryKey = "" ∧ t.sourceRef = "" then .error "telemetry_key is required"
  else if t.supplierId ≤ 0 then .error "supplier_id is required"
  else if t.periodStart ≤ 0 then .error "period_start is required"
  else if t.periodEnd ≤ t.periodStart then
    .error "period_end must be greater than period_start"
  else if t.capacityTokens < 0 then .error "capacity_tokens cannot be negative"
  else if t.usedTokens < 0 then .error "used_tokens cannot be negative"
  else if t.gpuUtilizationRate < 0 ∨ 1 < t.gpuUtilizationRate then
    .error "gpu_utilization_rate must be between 0 and 1"
  else if t.qualityScore < 0 ∨ 100 < t.qualityScore then
    .error "quality_score must be between 0 and 100"
  else if t.unitCostQuota < 0 then .error "unit_cost_quota cannot be negative"
  else if t.sourceRef = "" then .error "source_ref is required"
  else if t.observedAt ≤ 0 then .error "observed_at is required"
  else .ok ()

end SupplyCapacityTelemetry

/-- Whether an input is accepted. -/
def accepted (r : Except String Unit) : Bool :=
  match r with
  | .ok _ => true
  | .error _ => false

/-- `supply_capacities`. -/
abbrev SupplyCapacities := Table SupplyCapacity (·.id)

/-- `SupplyCapacityUsageRefreshInput`. -/
structure SupplyCapacityUsageRefreshInput where
  capacityId : Nat := 0
  supplierId : Int := 0
  supplyNode : String := ""
  modelName : String := ""
  periodStart : Int := 0
  periodEnd : Int := 0

/-- `findSupplyCapacitiesForUsageRefresh`: the rows that an input selects. -/
def findSupplyCapacitiesForUsageRefresh (input : SupplyCapacityUsageRefreshInput)
    (c : SupplyCapacity) : Bool :=
  (input.capacityId = 0 || c.id = input.capacityId) &&
  (input.supplierId ≤ 0 || c.supplierId = input.supplierId) &&
  (trimSpace input.supplyNode = "" || c.supplyNode = trimSpace input.supplyNode) &&
  (trimSpace input.modelName = "" || c.modelName = trimSpace input.modelName) &&
  (input.periodStart ≤ 0 || input.periodStart ≤ c.periodEnd) &&
  (input.periodEnd ≤ 0 || c.periodStart ≤ input.periodEnd)

/-- The ledgers of a supplier in a period that both refreshes sum; an empty node or model
matches all. -/
def supplyUsage (ledgers : List UsageLedger) (supplierId periodStart periodEnd : Int)
    (supplyNode modelName : String) : List UsageLedger :=
  ledgers.filter fun l =>
    l.supplierId = supplierId && l.status = "success" &&
    periodStart ≤ l.createdAt && l.createdAt ≤ periodEnd &&
    (trimSpace supplyNode = "" || l.supplyNode = trimSpace supplyNode) &&
    (trimSpace modelName = "" || l.modelName = trimSpace modelName)

/-- `SUM(prompt_tokens + completion_tokens)`. -/
def sumTokens (ledgers : List UsageLedger) : Int :=
  (ledgers.map fun l => l.promptTokens + l.completionTokens).sum

/-- `usageTokensForSupplyCapacity`. -/
def usageTokensForSupplyCapacity (ledgers : List UsageLedger) (c : SupplyCapacity) : Int :=
  sumTokens (supplyUsage ledgers c.supplierId c.periodStart c.periodEnd c.supplyNode c.modelName)

/-- The `Updates` of `RefreshSupplyCapacityUsage`: the normalised copy with the new usage,
written over three columns of the row. -/
def refreshSupplyCapacity (copy : SupplyCapacity) (usedTokens : Int) (row : SupplyCapacity) :
    SupplyCapacity :=
  let capacity := { copy with usedTokens }.normalize
  { row with
    usedTokens := capacity.usedTokens
    headroomTokens := capacity.headroomTokens
    utilizationRate := capacity.utilizationRate }

/-- The capacity that `upsertSupplyCapacityFromTelemetry` builds from the row it found. -/
def capacityFromTelemetry (t : SupplyCapacityTelemetry) (existing : Option SupplyCapacity) :
    SupplyCapacity :=
  let c := existing.getD
    { supplierId := t.supplierId, supplyNode := t.supplyNode, modelName := t.modelName,
      periodStart := t.periodStart, periodEnd := t.periodEnd, status := 1 }
  { c with
    capacityTokens := t.capacityTokens
    usedTokens := t.usedTokens
    gpuUtilizationRate := t.gpuUtilizationRate
    qualityScore := t.qualityScore
    unitCostQuota := t.unitCostQuota
    telemetrySourceType := t.sourceType
    telemetrySourceRef := t.sourceRef
    telemetryObservedAt := t.observedAt
    notes := if trimSpace c.notes = "" ∧ t.notes ≠ "" then t.notes else c.notes }.normalize

/-- The columns that the upsert writes over a row. -/
def writeTelemetryColumns (c row : SupplyCapacity) : SupplyCapacity :=
  { row with
    capacityTokens := c.capacityTokens
    usedTokens := c.usedTokens
    headroomTokens := c.headroomTokens
    utilizationRate := c.utilizationRate
    gpuUtilizationRate := c.gpuUtilizationRate
    qualityScore := c.qualityScore
    unitCostQuota := c.unitCostQuota
    telemetrySourceType := c.telemetrySourceType
    telemetrySourceRef := c.telemetrySourceRef
    telemetryObservedAt := c.telemetryObservedAt
    notes := c.notes }

/-- What the other writers of the table are asked to do. -/
inductive CapacityWriter where
  | insert (c : SupplyCapacity)
  | update (c : SupplyCapacity)
  | delete (id : Nat)
  | telemetry (t : SupplyCapacityTelemetry)

/-- A write that is still to come: for telemetry, with the row that its transaction read. -/
inductive CapacityWrite where
  | insert (c : SupplyCapacity)
  | update (c : SupplyCapacity)
  | delete (id : Nat)
  | telemetry (t : SupplyCapacityTelemetry) (existing : Option SupplyCapacity)

/-- The checks of a writer, and what it reads. -/
def readCapacity (w : CapacityWriter) (rows : SupplyCapacities) : Option CapacityWrite :=
  match w with
  | .insert c => if accepted c.normalize.validate then some (.insert c) else none
  | .update c => if accepted c.normalize.validate then some (.update c) else none
  | .delete id => some (.delete id)
  | .telemetry t =>
    let t := t.normalize
    if accepted t.validate then
      some (.telemetry t (rows.rows.find? fun c =>
        c.supplierId = t.supplierId && c.supplyNode = t.supplyNode &&
        c.modelName = t.modelName && c.periodStart = t.periodStart && c.periodEnd = t.periodEnd))
    else none

/-- `DB.Create`: an id of 0 is the next one, and one in use is refused. -/
def createCapacity (rows : SupplyCapacities) (c : SupplyCapacity) : SupplyCapacities :=
  rows.insert (if c.id = 0 then { c with id := rows.nextId } else c)

/-- The write of a writer. `DB.Save` inserts a row that is not there. -/
def applyCapacity (w : CapacityWrite) (rows : SupplyCapacities) : SupplyCapacities :=
  match w with
  | .insert c => createCapacity rows c.normalize
  | .update c => rows.upsert c.normalize
  | .delete id => rows.erase id
  | .telemetry t existing =>
    let c := capacityFromTelemetry t existing
    if c.id = 0 then createCapacity rows c else rows.update c.id (writeTelemetryColumns c)

/-- `RefreshSupplyCapacityUsage` and the other writers. -/
def capacityRace : RefreshRace SupplyCapacity CapacityWrite CapacityWriter (List UsageLedger) Int
    SupplyCapacityUsageRefreshInput (·.id) where
  lists := findSupplyCapacitiesForUsageRefresh
  query := usageTokensForSupplyCapacity
  write _ := refreshSupplyCapacity
  key_write _ _ _ _ := rfl
  read := readCapacity
  apply := applyCapacity

end TokenRouter

/-! ## model/supply_capacity.go: recording telemetry

One transaction finds or creates the capacity of the exact period, upserts the telemetry by its
key and notes the telemetry on the capacity. The column `last_telemetry_id` is kept beside the
capacities, and time stamps are left out.
-/

namespace TokenRouter

/-- What an exact-period capacity is about. -/
structure CapacityPeriod where
  supplierId : Int
  supplyNode : String
  modelName : String
  periodStart : Int
  periodEnd : Int
  deriving DecidableEq

def SupplyCapacity.period (c : SupplyCapacity) : CapacityPeriod :=
  { supplierId := c.supplierId, supplyNode := c.supplyNode, modelName := c.modelName
    periodStart := c.periodStart, periodEnd := c.periodEnd }

def SupplyCapacityTelemetry.period (t : SupplyCapacityTelemetry) : CapacityPeriod :=
  { supplierId := t.supplierId, supplyNode := t.supplyNode, modelName := t.modelName
    periodStart := t.periodStart, periodEnd := t.periodEnd }

/-- The key of a normalised telemetry: its own, or one made of its source and period. -/
def SupplyCapacityTelemetry.key (t : SupplyCapacityTelemetry) : String :=
  if t.telemetryKey = "" ∧ t.sourceRef ≠ "" then
    "supply_capacity_telemetry:" ++ t.sourceType ++ ":" ++ t.sourceRef ++ ":" ++
      toString t.supplierId ++ ":" ++ t.supplyNode ++ ":" ++ t.modelName ++ ":" ++
      toString t.periodStart ++ ":" ++ toString t.periodEnd
  else t.telemetryKey

/-- A row of `supply_capacity_telemetries`. -/
structure SupplyCapacityTelemetryRow where
  id : Nat := 0
  telemetryKey : String
  telemetry : SupplyCapacityTelemetry
  headroomTokens : Int
  utilizationRate : ℚ
  appliedCapacityId : Nat
  recordedBy : Int

def SupplyCapacityTelemetryRow.withId (r : SupplyCapacityTelemetryRow) (id : Nat) :
    SupplyCapacityTelemetryRow := { r with id := id }

/-- The tables of `RecordSupplyCapacityTelemetry`. -/
structure TelemetryDB where
  suppliers : Suppliers
  capacities : SupplyCapacities
  telemetries : Table SupplyCapacityTelemetryRow (·.id)
  /-- the column `last_telemetry_id` of the capacities, by id -/
  lastTelemetryId : Nat → Nat

/-- `upsertSupplyCapacityFromTelemetry`: the capacities, and the id of the one written. -/
def upsertSupplyCapacityFromTelemetry (capacities : SupplyCapacities)
    (t : SupplyCapacityTelemetry) : SupplyCapacities × Nat :=
  let existing := capacities.rows.find? fun c => c.period = t.period
  let capacity := capacityFromTelemetry t existing
  (applyCapacity (.telemetry t existing) capacities,
    if capacity.id = 0 then capacities.nextId else capacity.id)

/-- The row that is upserted for a telemetry. -/
def telemetryRow (t : SupplyCapacityTelemetry) (capacityID : Nat) (recordedBy : Int) :
    SupplyCapacityTelemetryRow :=
  { telemetryKey := t.key
    telemetry := t
    headroomTokens := t.capacityTokens - t.usedTokens
    utilizationRate := tokenRate t.usedTokens t.capacityTokens
    appliedCapacityId := capacityID
    recordedBy }

/-- `RecordSupplyCapacityTelemetry` -/
def recordSupplyCapacityTelemetry (db : TelemetryDB) (input : SupplyCapacityTelemetry)
    (recordedBy : Int) : Except String TelemetryDB := do
  let telemetry := input.normalize
  telemetry.validate
  match db.suppliers.first telemetry.supplierId with
  | none => throw "record not found"
  | some _ =>
    let (capacities, capacityID) := upsertSupplyCapacityFromTelemetry db.capacities telemetry
    let telemetries := db.telemetries.upsertRow (·.telemetryKey) SupplyCapacityTelemetryRow.withId
      (telemetryRow telemetry capacityID recordedBy)
    match telemetries.rows.find? fun r => r.telemetryKey = telemetry.key with
    | none => throw "record not found"
    | some result =>
      return { db with
        capacities
        telemetries
        lastTelemetryId := Function.update db.lastTelemetryId capacityID result.id }

end TokenRouter
