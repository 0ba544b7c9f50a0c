import TokenRouter.Common
import TokenRouter.ForStd.Table

/-!
# Supply decisions (`model/supply_decision.go`)

A decision is generated from the traffic profile of a slice and period, and from a
forecast where there is one. Generation is an upsert on `decision_key`: it writes every
column of `SupplyDecisionContent` and leaves the status and the review alone.
`float64` columns are rationals; the floating-point expression of `roi_score` is a parameter.
-/

namespace TokenRouter

/-- `DecisionSource` -/
inductive SupplyDecisionSource where
  | profile
  | forecast
  deriving DecidableEq

/-- `Track` -/
inductive SupplyTrack where
  | thirdParty
  | selfOperated
  | selfHosted
  deriving DecidableEq

/-- `DecisionType` -/
inductive SupplyDecisionType where
  | thirdPartyRecruit
  | selfOperatedPurchase
  | selfHostedEvaluate
  | thirdPartyProbe
  deriving DecidableEq

/-- `Status` -/
inductive SupplyDecisionStatus where
  | draft
  | approved
  | rejected
  deriving DecidableEq

/-- `normalizeSupplyDecisionStatus` -/
def normalizeSupplyDecisionStatus (status : String) : SupplyDecisionStatus :=
  if trimSpace status = "approved" then .approved
  else if trimSpace status = "rejected" then .rejected
  else .draft

/-- The columns of `traffic_profiles` that decisions are made from. -/
structure TrafficProfile where
  id : Nat := 0
  sliceKey : String := ""
  modelName : String := ""
  slaTier : String := "default"
  userId : Int := 0
  periodStart : Int := 0
  periodEnd : Int := 0
  demandTokens : Int := 0
  peakTokens : Int := 0
  supplyHeadroomTokens : Int := 0
  cacheHitRate : ℚ := 0
  slaMetRate : ℚ := 0
  grossProfitQuota : Int := 0
  avgSupplyQualityScore : ℚ := 0
  avgUnitCostQuota : ℚ := 0

/-- The columns of `traffic_forecasts` that decisions are made from. -/
structure TrafficForecast where
  id : Nat := 0
  sliceKey : String := ""
  modelName : String := ""
  slaTier : String := "default"
  userId : Int := 0
  sourcePeriodStart : Int := 0
  sourcePeriodEnd : Int := 0
  targetPeriodStart : Int := 0
  targetPeriodEnd : Int := 0
  forecastDemandTokens : Int := 0
  forecastPeakTokens : Int := 0
  forecastHeadroomTokens : Int := 0
  forecastGapTokens : Int := 0
  cacheHitRate : ℚ := 0
  slaMetRate : ℚ := 0
  grossProfitQuota : Int := 0
  avgUnitCostQuota : ℚ := 0
  confidence : ℚ := 0
  method : String := ""
  generatedAt : Int := 0

/-- `normalizeTrafficProfileSlaTier` -/
def normalizeTrafficProfileSlaTier (value : String) : String :=
  if trimSpace value = "" then "default" else trimSpace value

/-- `trafficProfileSliceKey` -/
def trafficProfileSliceKey (modelName slaTier : String) (userId : Int) : String :=
  "model:" ++ trimSpace modelName ++ "|sla:" ++ normalizeTrafficProfileSlaTier slaTier ++
    "|user:" ++ toString userId

/-- `supplyDecisionSliceKey` -/
def supplyDecisionSliceKey (profile : TrafficProfile) : String :=
  if trimSpace profile.sliceKey = "" then
    trafficProfileSliceKey profile.modelName profile.slaTier profile.userId
  else trimSpace profile.sliceKey

/-- `supplyDecisionKey` -/
def supplyDecisionKey (profile : TrafficProfile) : String :=
  "profile:" ++ supplyDecisionSliceKey profile ++ "|period:" ++ toString profile.periodStart ++
    "-" ++ toString profile.periodEnd

/-- The columns that generation writes on conflict, the two timestamps apart. -/
structure SupplyDecisionContent where
  trafficProfileId : Nat
  trafficForecastId : Nat
  decisionSource : SupplyDecisionSource
  sliceKey : String
  modelName : String
  slaTier : String
  userId : Int
  periodStart : Int
  periodEnd : Int
  forecastTargetStart : Int
  forecastTargetEnd : Int
  forecastConfidence : ℚ
  forecastMethod : String
  decisionType : SupplyDecisionType
  track : SupplyTrack
  demandTokens : Int
  peakTokens : Int
  supplyHeadroomTokens : Int
  gapTokens : Int
  recommendedCapacity : Int
  cacheHitRate : ℚ
  slaMetRate : ℚ
  grossProfitQuota : Int
  avgSupplyQualityScore : ℚ
  avgUnitCostQuota : ℚ
  roiScore : ℚ
  reason : String
  deriving DecidableEq

/-- What a reviewer leaves on a decision. -/
structure SupplyDecisionReview where
  status : SupplyDecisionStatus := .draft
  reviewedAt : Int := 0
  reviewedBy : Int := 0
  reviewNote : String := ""
  deriving DecidableEq

/-- A row of `supply_decisions`. -/
structure SupplyDecision where
  id : Nat
  decisionKey : String
  content : SupplyDecisionContent
  review : SupplyDecisionReview := {}
  generatedAt : Int := 0

/-- The `supply_decisions` table. -/
abbrev SupplyDecisions := Table SupplyDecision (·.id)

/-- `SupplyDecisionGenerateInput` -/
structure SupplyDecisionGenerateInput where
  periodStart : Int
  periodEnd : Int
  modelName : String := ""
  slaTier : String := ""
  userId : Int := 0

/-- `validateSupplyDecisionGenerateInput` -/
def validateSupplyDecisionGenerateInput (input : SupplyDecisionGenerateInput) :
    Except String Unit :=
  if input.periodStart ≤ 0 then .error "period_start is required"
  else if input.periodEnd ≤ input.periodStart then
    .error "period_end must be greater than period_start"
  else .ok ()

/-- The optional conditions that the queries of `GenerateSupplyDecisions` share. -/
def SupplyDecisionGenerateInput.selects (input : SupplyDecisionGenerateInput)
    (modelName slaTier : String) (userId : Int) : Bool :=
  (trimSpace input.modelName = "" || modelName = trimSpace input.modelName) &&
    (trimSpace input.slaTier = "" || slaTier = normalizeTrafficProfileSlaTier input.slaTier) &&
    (input.userId ≤ 0 || userId = input.userId)

/-- The profile query, `period_start ASC, id ASC`. -/
def selectProfiles (input : SupplyDecisionGenerateInput) (profiles : List TrafficProfile) :
    List TrafficProfile :=
  (profiles.filter fun p => p.periodStart = input.periodStart && p.periodEnd = input.periodEnd &&
    input.selects p.modelName p.slaTier p.userId).insertionSort fun a b => a.id ≤ b.id

/-- `loadTrafficForecastsForSupplyDecisions`: the latest forecast of each slice. -/
def loadTrafficForecasts (input : SupplyDecisionGenerateInput) (sliceKeys : List String)
    (forecasts : List TrafficForecast) (sliceKey : String) : Option TrafficForecast :=
  ((forecasts.filter fun f => f.sourcePeriodStart = input.periodStart &&
      f.sourcePeriodEnd = input.periodEnd && decide (f.sliceKey ∈ sliceKeys) &&
      input.selects f.modelName f.slaTier f.userId).insertionSort fun a b =>
        b.generatedAt < a.generatedAt ∨ (a.generatedAt = b.generatedAt ∧ b.id ≤ a.id)).find?
    fun f => f.sliceKey = sliceKey

/-- The floating-point expression of `roi_score`, zero where it is not finite: gross profit,
    cache hit rate, demand, unit cost and gap. -/
abbrev RoiScore := Int → ℚ → Int → ℚ → Int → ℚ

/-- The type, track, capacity and reason that a decision recommends. -/
def recommendSupply (gapTokens demandTokens peakTokens grossProfitQuota : Int)
    (cacheHitRate : ℚ) : SupplyDecisionType × SupplyTrack × Int × String :=
  if 0 < gapTokens then
    (.thirdPartyRecruit, .thirdParty, gapTokens, "peak demand exceeds supply headroom")
  else if 1 / 2 ≤ cacheHitRate ∧ 0 < grossProfitQuota then
    (.selfHostedEvaluate, .selfHosted, demandTokens,
      "cache locality and positive gross profit make this slice a self-hosted candidate")
  else if 0 < grossProfitQuota then
    (.selfOperatedPurchase, .selfOperated, max demandTokens peakTokens,
      "positive gross profit makes this slice a self-operated purchase candidate")
  else
    (.thirdPartyProbe, .thirdParty, peakTokens, "keep third-party supply in observation mode")

/-- The start of the reason of a decision made from a forecast. -/
def forecastReasonPrefix (f : TrafficForecast) : String :=
  "forecast-informed target=" ++ toString f.targetPeriodStart ++ "-" ++
    toString f.targetPeriodEnd ++ " confidence=" ++ formatFixed 2 f.confidence ++ " method=" ++
    f.method ++ ": "

/-- The figures a decision is made from: those of the forecast, or of the profile. -/
structure SupplyFigures where
  demandTokens : Int
  peakTokens : Int
  supplyHeadroomTokens : Int
  gapTokens : Int
  cacheHitRate : ℚ
  slaMetRate : ℚ
  grossProfitQuota : Int
  avgUnitCostQuota : ℚ

/-- The figures of a slice, before the gap is cut off at zero. -/
def supplyFigures (profile : TrafficProfile) : Option TrafficForecast → SupplyFigures
  | none =>
    { demandTokens := profile.demandTokens
      peakTokens := profile.peakTokens
      supplyHeadroomTokens := profile.supplyHeadroomTokens
      gapTokens := profile.peakTokens - profile.supplyHeadroomTokens
      cacheHitRate := profile.cacheHitRate
      slaMetRate := profile.slaMetRate
      grossProfitQuota := profile.grossProfitQuota
      avgUnitCostQuota := profile.avgUnitCostQuota }
  | some f =>
    { demandTokens := f.forecastDemandTokens
      peakTokens := f.forecastPeakTokens
      supplyHeadroomTokens := f.forecastHeadroomTokens
      gapTokens := f.forecastGapTokens
      cacheHitRate := f.cacheHitRate
      slaMetRate := f.slaMetRate
      grossProfitQuota := f.grossProfitQuota
      avgUnitCostQuota := f.avgUnitCostQuota }

/-- `buildSupplyDecisionFromProfile`, without the key and the timestamps. -/
def buildSupplyDecisionFromProfile (roi : RoiScore) (profile : TrafficProfile)
    (forecast : Option TrafficForecast) : SupplyDecisionContent :=
  let figures := supplyFigures profile forecast
  let gapTokens := max 0 figures.gapTokens
  let (decisionType, track, capacity, reason) :=
    recommendSupply gapTokens figures.demandTokens figures.peakTokens figures.grossProfitQuota
      figures.cacheHitRate
  { trafficProfileId := profile.id
    trafficForecastId := (forecast.map (·.id)).getD 0
    decisionSource := if forecast.isSome then .forecast else .profile
    sliceKey := supplyDecisionSliceKey profile
    modelName := profile.modelName
    slaTier := normalizeTrafficProfileSlaTier profile.slaTier
    userId := profile.userId
    periodStart := profile.periodStart
    periodEnd := profile.periodEnd
    forecastTargetStart := (forecast.map (·.targetPeriodStart)).getD 0
    forecastTargetEnd := (forecast.map (·.targetPeriodEnd)).getD 0
    forecastConfidence := (forecast.map (·.confidence)).getD 0
    forecastMethod := (forecast.map (·.method)).getD ""
    decisionType := decisionType
    track := track
    demandTokens := figures.demandTokens
    peakTokens := figures.peakTokens
    supplyHeadroomTokens := figures.supplyHeadroomTokens
    gapTokens := gapTokens
    recommendedCapacity := max 0 capacity
    cacheHitRate := figures.cacheHitRate
    slaMetRate := figures.slaMetRate
    grossProfitQuota := figures.grossProfitQuota
    avgSupplyQualityScore := profile.avgSupplyQualityScore
    avgUnitCostQuota := figures.avgUnitCostQuota
    roiScore := roi figures.grossProfitQuota figures.cacheHitRate figures.demandTokens
      figures.avgUnitCostQuota gapTokens
    reason := (forecast.map forecastReasonPrefix).getD "" ++ reason }

/-- A generated decision: its key and its content. -/
abbrev BuiltDecision := String × SupplyDecisionContent

/-- What `GenerateSupplyDecisions` writes for the present profiles and forecasts. -/
def buildSupplyDecisions (roi : RoiScore) (input : SupplyDecisionGenerateInput)
    (profiles : List TrafficProfile) (forecasts : List TrafficForecast) : List BuiltDecision :=
  let selected := selectProfiles input profiles
  let forecastOf := loadTrafficForecasts input (selected.map supplyDecisionSliceKey) forecasts
  selected.map fun p =>
    (supplyDecisionKey p, buildSupplyDecisionFromProfile roi p (forecastOf (supplyDecisionSliceKey p)))

/-- One row of the `INSERT ... ON CONFLICT (decision_key) DO UPDATE`. -/
def upsertSupplyDecision (now : Timestamp) (decisions : SupplyDecisions) (d : BuiltDecision) :
    SupplyDecisions :=
  decisions.upsertOn (·.decisionKey) d.1
    (fun row => { row with content := d.2, generatedAt := now.unix })
    (fun id => { id := id, decisionKey := d.1, content := d.2, generatedAt := now.unix })

/-- `GenerateSupplyDecisions` -/
def generateSupplyDecisions (roi : RoiScore) (decisions : SupplyDecisions)
    (input : SupplyDecisionGenerateInput) (profiles : List TrafficProfile)
    (forecasts : List TrafficForecast) (now : Timestamp) : Except String SupplyDecisions := do
  validateSupplyDecisionGenerateInput input
  return (buildSupplyDecisions roi input profiles forecasts).foldl (upsertSupplyDecision now) decisions

/-- `UpdateSupplyDecisionReview` -/
def updateSupplyDecisionReview (decisions : SupplyDecisions) (id : Nat) (status : String)
    (reviewedBy : Int) (reviewNote : String) (now : Timestamp) : Except String SupplyDecisions :=
  if normalizeSupplyDecisionStatus status = .draft then
    .error "review status must be approved or rejected"
  else
    match decisions.find? id with
    -- the update finds no row, and the read after it fails
    | none => .error "record not found"
    | some row =>
      .ok (decisions.set
        { row with
          review :=
            { status := normalizeSupplyDecisionStatus status
              reviewedAt := now.unix
              reviewedBy := reviewedBy
              reviewNote := trimSpace reviewNote } })

end TokenRouter
