import TokenRouter.Model.SupplyCapacity

/-!
# model/supply_prepaid_lot.go: prepaid lots

A lot is recorded by its key and refreshed from the usage ledgers. Recording reads the
row of the key for its drawdown and then writes every column; the refresh writes the
drawdown columns back by id. The creation time is left out.
-/

namespace TokenRouter

/-- `supply_prepaid_lots`. -/
structure SupplyPrepaidLot where
  id : Nat := 0
  prepaidLotKey : String := ""
  supplierId : Int
  channelId : Int := 0
  supplyNode : String := ""
  modelName : String := ""
  periodStart : Int
  periodEnd : Int
  purchasedTokens : Int
  unitCostQuota : ℚ := 0
  totalCostQuota : ℚ := 0
  drawdownTokens : Int := 0
  drawdownRequestCount : Int := 0
  remainingTokens : Int := 0
  drawdownRate : ℚ := 0
  drawdownSourceType : String := ""
  drawdownSourceRef : String := ""
  drawdownRefreshedAt : Int := 0
  sourceType : String := ""
  sourceRef : String := ""
  observedAt : Int := 0
  externalRef : String := ""
  recordedBy : Int := 0
  notes : String := ""
  updatedAt : Int := 0

/-- `normalizeSupplyPrepaidLotSource`. -/
def normalizeSupplyPrepaidLotSource (value : String) : String :=
  match trimSpace value with
  | "accounting" => "accounting"
  | "external" => "external"
  | _ => "manual"

namespace SupplyPrepaidLot

/-- The key that `normalize` derives from a source reference. -/
def derivedKey (lot : SupplyPrepaidLot) : String :=
  String.intercalate ":" ["supply_prepaid_lot", lot.sourceType, lot.sourceRef,
    toString lot.supplierId, toString lot.channelId, lot.supplyNode, lot.modelName,
    toString lot.periodStart, toString lot.periodEnd]

/-- `normalize`, but for the derived key. -/
def normalizeColumns (lot : SupplyPrepaidLot) : SupplyPrepaidLot :=
  { lot with
    prepaidLotKey := trimSpace lot.prepaidLotKey
    supplyNode := trimSpace lot.supplyNode
    modelName := trimSpace lot.modelName
    sourceType := normalizeSupplyPrepaidLotSource lot.sourceType
    sourceRef := trimSpace lot.sourceRef
    externalRef := trimSpace lot.externalRef
    notes := trimSpace lot.notes
    totalCostQuota := lot.purchasedTokens * lot.unitCostQuota
    remainingTokens := lot.purchasedTokens - lot.drawdownTokens
    drawdownRate := tokenRate lot.drawdownTokens lot.purchasedTokens }

/-- Give a lot without a key the derived one. -/
def fillKey (lot : SupplyPrepaidLot) : SupplyPrepaidLot :=
  if lot.prepaidLotKey = "" ∧ lot.sourceRef ≠ "" then { lot with prepaidLotKey := lot.derivedKey }
  else lot

def normalize (lot : SupplyPrepaidLot) : SupplyPrepaidLot := lot.normalizeColumns.fillKey

def validate (lot : SupplyPrepaidLot) : Except String Unit :=
  if lot.prepaidLotKey = "" then .error "prepaid_lot_key is required"
  else if lot.supplierId ≤ 0 then .error "supplier_id is required"
  else if lot.periodStart ≤ 0 then .error "period_start is required"
  else if lot.periodEnd ≤ lot.periodStart then
    .error "period_end must be greater than period_start"
  else if lot.purchasedTokens ≤ 0 then .error "purchased_tokens must be greater than 0"
  else if lot.unitCostQuota < 0 then .error "unit_cost_quota cannot be negative"
  else if lot.totalCostQuota < 0 then .error "total_cost_quota cannot be negative"
  else if lot.sourceRef = "" then .error "source_ref is required"
  else if lot.observedAt ≤ 0 then .error "observed_at is required"
  else .ok ()

end SupplyPrepaidLot

/-- `supply_prepaid_lots`. -/
abbrev SupplyPrepaidLots := Table SupplyPrepaidLot (·.id)

/-- What `RefreshSupplyPrepaidLotUsage` selects by, as `SupplyPrepaidLotFilters`. -/
structure SupplyPrepaidLotUsageRefreshInput where
  prepaidLotId : Nat := 0
  supplierId : Int := 0
  channelId : Int := 0
  supplyNode : String := ""
  modelName : String := ""
  sourceType : String := ""
  startTime : Int := 0
  endTime : Int := 0

/-- The filters of `SearchSupplyPrepaidLots`; the refresh reads the first 100000 rows, taken
here as all. -/
def searchSupplyPrepaidLots (f : SupplyPrepaidLotUsageRefreshInput) (lot : SupplyPrepaidLot) :
    Bool :=
  (f.prepaidLotId = 0 || lot.id = f.prepaidLotId) &&
  (f.supplierId ≤ 0 || lot.supplierId = f.supplierId) &&
  (f.channelId ≤ 0 || lot.channelId = f.channelId) &&
  (trimSpace f.supplyNode = "" || lot.supplyNode = trimSpace f.supplyNode) &&
  (trimSpace f.modelName = "" || lot.modelName = trimSpace f.modelName) &&
  (trimSpace f.sourceType = "" || lot.sourceType = normalizeSupplyPrepaidLotSource f.sourceType) &&
  (f.startTime ≤ 0 || f.startTime ≤ lot.periodEnd) &&
  (f.endTime ≤ 0 || lot.periodStart ≤ f.endTime)

/-- `supplyPrepaidLotUsageDrawdown`. -/
structure SupplyPrepaidLotUsageDrawdown where
  usedTokens : Int := 0
  requestCount : Int := 0

/-- `usageDrawdownForSupplyPrepaidLot`. -/
def usageDrawdownForSupplyPrepaidLot (ledgers : List UsageLedger) (lot : SupplyPrepaidLot) :
    SupplyPrepaidLotUsageDrawdown :=
  if lot.supplierId ≤ 0 ∨ lot.periodStart ≤ 0 ∨ lot.periodEnd < lot.periodStart then {}
  else
    let rows := (supplyUsage ledgers lot.supplierId lot.periodStart lot.periodEnd lot.supplyNode
      lot.modelName).filter fun l => lot.channelId ≤ 0 || l.channelId = lot.channelId
    { usedTokens := sumTokens rows, requestCount := rows.length }

/-- `buildSupplyPrepaidLotDrawdownSourceRef`. -/
def buildSupplyPrepaidLotDrawdownSourceRef (lot : SupplyPrepaidLot) : String :=
  String.intercalate ":" ["usage_ledger", "prepaid_lot", toString lot.id,
    toString lot.periodStart, toString lot.periodEnd]

/-- The `Updates` of `RefreshSupplyPrepaidLotUsage`, computed from the listed copy. -/
def refreshSupplyPrepaidLot (now : Int) (copy : SupplyPrepaidLot)
    (drawdown : SupplyPrepaidLotUsageDrawdown) (row : SupplyPrepaidLot) : SupplyPrepaidLot :=
  { row with
    drawdownTokens := drawdown.usedTokens
    drawdownRequestCount := drawdown.requestCount
    remainingTokens := copy.purchasedTokens - drawdown.usedTokens
    drawdownRate := tokenRate drawdown.usedTokens copy.purchasedTokens
    drawdownSourceType := "usage_ledger"
    drawdownSourceRef := buildSupplyPrepaidLotDrawdownSourceRef copy
    drawdownRefreshedAt := now
    updatedAt := now }

/-- A call of `RecordSupplyPrepaidLot`: the lot it builds from its input, whether the supplier
is self operated, and the time. -/
structure PrepaidLotRecord where
  lot : SupplyPrepaidLot
  selfOperated : Bool
  now : Int

namespace SupplyPrepaidLot

/-- Take over the drawdown of a row. -/
def withDrawdown (lot existing : SupplyPrepaidLot) : SupplyPrepaidLot :=
  { lot with
    drawdownTokens := existing.drawdownTokens
    drawdownRequestCount := existing.drawdownRequestCount
    drawdownSourceType := existing.drawdownSourceType
    drawdownSourceRef := existing.drawdownSourceRef
    drawdownRefreshedAt := existing.drawdownRefreshedAt }

def withUpdatedAt (lot : SupplyPrepaidLot) (now : Int) : SupplyPrepaidLot :=
  { lot with updatedAt := now }

def withId (lot : SupplyPrepaidLot) (id : Nat) : SupplyPrepaidLot := { lot with id }

end SupplyPrepaidLot

/-- The lot that is written: the input, with the drawdown of the row that was read. -/
def recordedLot (lot : SupplyPrepaidLot) (existing : Option SupplyPrepaidLot) (now : Int) :
    SupplyPrepaidLot :=
  match existing with
  | none => lot.withUpdatedAt now
  | some e => (lot.withDrawdown e).normalize.withUpdatedAt now

/-- A record that is still to be written: the normalised lot, and the row that was read. -/
structure PrepaidLotWrite where
  input : SupplyPrepaidLot
  existing : Option SupplyPrepaidLot
  now : Int

/-- The lot that a call builds carries no drawdown and no id. -/
def PrepaidLotRecord.newLot (r : PrepaidLotRecord) : SupplyPrepaidLot :=
  { r.lot with
    id := 0
    drawdownTokens := 0
    drawdownRequestCount := 0
    drawdownSourceType := ""
    drawdownSourceRef := ""
    drawdownRefreshedAt := 0 }

/-- `RecordSupplyPrepaidLot` up to the query for the row of its key. -/
def readPrepaidLot (r : PrepaidLotRecord) (rows : SupplyPrepaidLots) : Option PrepaidLotWrite :=
  let lot := r.newLot.normalize
  if accepted lot.validate && r.selfOperated then
    some ⟨r.newLot, rows.rows.find? fun e => e.prepaidLotKey = lot.prepaidLotKey, r.now⟩
  else none

/-- The insert of `RecordSupplyPrepaidLot`, on conflict of the key an update of every column. -/
def applyPrepaidLot (w : PrepaidLotWrite) (rows : SupplyPrepaidLots) : SupplyPrepaidLots :=
  let lot := recordedLot w.input.normalize w.existing w.now
  rows.upsertOn (·.prepaidLotKey) lot.prepaidLotKey (fun row => lot.withId row.id) lot.withId

/-- `RefreshSupplyPrepaidLotUsage` and `RecordSupplyPrepaidLot`. -/
def prepaidLotRace : RefreshRace SupplyPrepaidLot PrepaidLotWrite PrepaidLotRecord
    (List UsageLedger) SupplyPrepaidLotUsageDrawdown SupplyPrepaidLotUsageRefreshInput
    (·.id) where
  lists := searchSupplyPrepaidLots
  query := usageDrawdownForSupplyPrepaidLot
  write := refreshSupplyPrepaidLot
  key_write _ _ _ _ := rfl
  read := readPrepaidLot
  apply := applyPrepaidLot

end TokenRouter
