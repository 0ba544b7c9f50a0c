import TokenRouter.Model.SupplierReview

/-!
# Supplier posture recommendations (`model/supplier_posture_recommendation.go`)

Generation of posture recommendations from scorecards and open insights, and what applying
one does to the supplier and its route preference. The `evidence_json` text is left out.
-/

namespace TokenRouter

/-- `Grade` of a scorecard. -/
inductive ScorecardGrade where
  | a
  | b
  | c
  | d
  deriving DecidableEq

/-- The text of a grade. -/
def ScorecardGrade.text : ScorecardGrade → String
  | .a => "A"
  | .b => "B"
  | .c => "C"
  | .d => "D"

/-- The columns of `supplier_scorecards` that recommendations and evaluations copy. -/
structure SupplierScorecard where
  id : Nat
  supplierId : Int
  periodStart : Int
  periodEnd : Int
  totalRequests : Int := 0
  successRate : ℚ := 0
  avgLatencyMs : ℚ := 0
  cacheHitRate : ℚ := 0
  grossProfitQuota : Int := 0
  supplyHeadroomTokens : Int := 0
  avgSupplyQualityScore : ℚ := 0
  avgUnitCostQuota : ℚ := 0
  score : ℚ := 0
  grade : ScorecardGrade := .d

/-- The input of both generate functions: a period, and optionally one supplier. -/
structure ScorecardInput where
  periodStart : Int
  periodEnd : Int
  supplierId : Int := 0

/-- `validateSupplierPostureRecommendationGenerateInput`,
    `validateSupplierEvaluationGenerateInput` -/
def validateScorecardInput (input : ScorecardInput) : Except String Unit :=
  if input.periodStart ≤ 0 then .error "period_start is required"
  else if input.periodEnd ≤ input.periodStart then
    .error "period_end must be greater than period_start"
  else .ok ()

/-- The scorecards of a period, in the order `before`. -/
def selectScorecards (before : SupplierScorecard → SupplierScorecard → Prop)
    [DecidableRel before] (input : ScorecardInput) (scorecards : List SupplierScorecard) :
    List SupplierScorecard :=
  (scorecards.filter fun s => s.periodStart = input.periodStart && s.periodEnd = input.periodEnd &&
    (input.supplierId ≤ 0 || s.supplierId = input.supplierId)).insertionSort before

/-- `RecommendedAction` -/
inductive PostureAction where
  | observe
  | boost
  | downgrade
  | disable
  deriving DecidableEq

/-- The text of an action. -/
def PostureAction.text : PostureAction → String
  | .observe => "observe"
  | .boost => "boost"
  | .downgrade => "downgrade"
  | .disable => "disable"

/-- `Category` of the insights that posture looks at. -/
inductive InsightCategory where
  | qualityWatch
  | capacityRisk
  | other
  deriving DecidableEq

/-- The columns of `operating_insights` that posture reads. -/
structure OperatingInsight where
  id : Nat
  isDraft : Bool := true
  category : InsightCategory
  /-- `Severity` is `action` -/
  needsAction : Bool := false
  sliceKey : String := ""
  slaProbeRunId : Nat := 0
  periodStart : Int := 0
  periodEnd : Int := 0

/-- What posture generation reads. -/
structure PostureInput where
  input : ScorecardInput
  scorecards : List SupplierScorecard
  insights : List OperatingInsight := []
  /-- the supplier of a probe run -/
  probeSupplier : Nat → Option Int := fun _ => none

/-- `strings.HasSuffix` -/
def hasSuffixText (s needle : String) : Bool := decide (needle.toList <:+ s.toList)

/-- `supplierPostureInsightMatchesSupplier` -/
def supplierPostureInsightMatchesSupplier (probeSupplier : Nat → Option Int)
    (insight : OperatingInsight) (supplierId : Int) : Bool :=
  let token := "supplier:" ++ toString supplierId
  containsText insight.sliceKey (token ++ "|") ||
    containsText insight.sliceKey ("|" ++ token ++ "|") ||
    hasSuffixText insight.sliceKey ("|" ++ token) ||
    (0 < insight.slaProbeRunId && probeSupplier insight.slaProbeRunId = some supplierId)

/-- `supplierPostureInsightEvidence`: how many insights of each list match. -/
structure PostureEvidence where
  quality : Nat := 0
  capacity : Nat := 0
  action : Nat := 0

/-- `loadSupplierPostureInsightEvidence`, for one supplier. A supplier that is listed
    `times` times gets every insight that often. -/
def loadSupplierPostureInsightEvidence (p : PostureInput) (times : Nat) (supplierId : Int) :
    PostureEvidence :=
  let matching := p.insights.filter fun i => i.isDraft && i.category ≠ .other &&
    p.input.periodStart ≤ i.periodEnd && i.periodStart ≤ p.input.periodEnd &&
    supplierPostureInsightMatchesSupplier p.probeSupplier i supplierId
  { quality := times * (matching.filter fun i => i.category = .qualityWatch).length
    capacity := times * (matching.filter fun i => i.category = .capacityRisk).length
    action := times * (matching.filter fun i => i.needsAction).length }

/-- `supplierPostureRecommendedAction` -/
def supplierPostureRecommendedAction (s : SupplierScorecard) (supplierStatus : ChannelStatus)
    (e : PostureEvidence) : PostureAction :=
  if s.score < 50 ∨ s.grade = .d ∨ 2 ≤ e.action then .disable
  else if s.score < 70 ∨ s.grade = .c ∨ 1 ≤ e.action ∨ 2 ≤ e.quality + e.capacity then .downgrade
  else if supplierStatus = .enabled ∧ 0 < s.totalRequests ∧ 90 ≤ s.score ∧ s.grade = .a ∧
      e.quality = 0 ∧ e.capacity = 0 ∧ e.action = 0 then .boost
  else .observe

/-- The code of a status. -/
def ChannelStatus.code : ChannelStatus → Int
  | .unknown => 0
  | .enabled => 1
  | .manuallyDisabled => 2
  | .autoDisabled => 3
  | .other code => code

/-- `supplierPostureRecommendationReason` -/
def supplierPostureRecommendationReason (action : PostureAction) (s : SupplierScorecard)
    (supplierStatus : ChannelStatus) (e : PostureEvidence) : String :=
  let statusPrefix :=
    if supplierStatus = .enabled then ""
    else "supplier status is already " ++ toString supplierStatus.code ++ "; "
  let card := statusPrefix ++ "scorecard grade " ++ s.grade.text ++ " score " ++
    formatFixed 3 s.score
  match action with
  | .disable => card ++ " with " ++ toString e.action ++
      " action-severity supplier insights meets disable review threshold"
  | .downgrade => card ++ " with " ++ toString e.quality ++ " quality and " ++
      toString e.capacity ++ " capacity supplier insights meets downgrade review threshold"
  | .boost => card ++ " with no open supplier posture insights meets boost review threshold"
  | .observe => card ++ " does not meet boost, downgrade, or disable threshold"

/-- The columns that generation writes on conflict, the timestamps apart. -/
structure PostureContent where
  supplierId : Int
  supplierScorecardId : Nat
  periodStart : Int
  periodEnd : Int
  recommendedAction : PostureAction
  score : ℚ
  grade : ScorecardGrade
  totalRequests : Int
  successRate : ℚ
  avgLatencyMs : ℚ
  supplyHeadroomTokens : Int
  avgSupplyQualityScore : ℚ
  qualityInsightCount : Nat
  capacityInsightCount : Nat
  actionInsightCount : Nat
  supplierStatusCurrent : ChannelStatus
  reason : String
  deriving DecidableEq

/-- A row of `supplier_posture_recommendations`. -/
abbrev SupplierPostureRecommendation := ReviewedRow PostureContent

/-- `buildSupplierPostureRecommendation` with its key, `supplierPostureRecommendationKey` -/
def buildSupplierPostureRecommendation (s : SupplierScorecard) (supplier : Supplier)
    (e : PostureEvidence) : String × PostureContent :=
  let action := supplierPostureRecommendedAction s supplier.status e
  ("posture:scorecard:" ++ toString s.id,
    { supplierId := s.supplierId
      supplierScorecardId := s.id
      periodStart := s.periodStart
      periodEnd := s.periodEnd
      recommendedAction := action
      score := s.score
      grade := s.grade
      totalRequests := s.totalRequests
      successRate := s.successRate
      avgLatencyMs := s.avgLatencyMs
      supplyHeadroomTokens := s.supplyHeadroomTokens
      avgSupplyQualityScore := s.avgSupplyQualityScore
      qualityInsightCount := e.quality
      capacityInsightCount := e.capacity
      actionInsightCount := e.action
      supplierStatusCurrent := supplier.status
      reason := supplierPostureRecommendationReason action s supplier.status e })

/-- What `GenerateSupplierPostureRecommendations` upserts; scorecards of missing suppliers are
    skipped. -/
def buildSupplierPostureRecommendations (suppliers : Suppliers) (p : PostureInput) :
    Except String (List (String × PostureContent)) := do
  validateScorecardInput p.input
  let scorecards := selectScorecards
    (fun a b => a.score < b.score ∨ (a.score = b.score ∧ a.id ≤ b.id)) p.input p.scorecards
  return scorecards.filterMap fun s =>
    (suppliers.first s.supplierId).map fun supplier =>
      buildSupplierPostureRecommendation s supplier
        (loadSupplierPostureInsightEvidence p
          (scorecards.countP fun s' => s'.supplierId = s.supplierId) s.supplierId)

/-- `normalizeSupplierPostureRecommendationStatus` -/
def normalizeSupplierPostureRecommendationStatus (value : String) : Option ReviewStatus :=
  if trimSpace value = "draft" then some .draft
  else if trimSpace value = "approved" then some .approved
  else if trimSpace value = "rejected" then some .rejected
  else if trimSpace value = "applied" then some .applied
  else none

/-- `supplierPostureTargetSupplierStatus` -/
def supplierPostureTargetSupplierStatus : PostureAction → ChannelStatus → ChannelStatus
  | .disable, _ => .manuallyDisabled
  | _, current => current

/-- The note of a row that is applied: `supplierPostureApplyNote`, `supplierEvaluationApplyNote` -/
def supplierApplyNote (what action : String) (id : Nat) (grade : ScorecardGrade) (score : ℚ)
    (appliedBy : Int) (operatorNote : String) : String :=
  let note := what ++ " #" ++ toString id ++ " applied by user #" ++ toString appliedBy ++ ": " ++
    action ++ " grade=" ++ grade.text ++ " score=" ++ formatFixed 3 score
  if operatorNote = "" then note else note ++ "; note=" ++ operatorNote

/-- `supplierPostureApplyNote` -/
def supplierPostureApplyNote (row : SupplierPostureRecommendation) (appliedBy : Int)
    (operatorNote : String) : String :=
  supplierApplyNote "supplier_posture_recommendation"
    ("action=" ++ row.content.recommendedAction.text) row.id row.content.grade row.content.score
    appliedBy operatorNote

/-- `upsertSupplierRoutePreferenceTx` -/
def upsertSupplierRoutePreference (preferences : SupplierRoutePreferences)
    (row : SupplierPostureRecommendation) (weightPercent : Nat) (hpos : 1 ≤ weightPercent)
    (hle : weightPercent ≤ 200) (appliedBy : Int) (operatorNote : String) (now : Timestamp) :
    SupplierRoutePreferences :=
  preferences.upsert
    { supplierId := row.content.supplierId
      sourcePostureRecommendationId := row.id
      weightPercent := weightPercent
      reason := "supplier_posture_recommendation #" ++ toString row.id ++ " " ++
        row.content.recommendedAction.text ++ ": grade=" ++ row.content.grade.text ++ " score=" ++
        formatFixed 3 row.content.score
      effectiveFrom := now.unix
      activatedAt := now.unix
      activatedBy := appliedBy
      operatorNote := trimSpace operatorNote
      percentPos := hpos
      percentLe := hle }

/-- `disableSupplierRoutePreferenceTx` -/
def disableSupplierRoutePreference (preferences : SupplierRoutePreferences) (supplierId : Int)
    (sourceId : Nat) (disabledBy : Int) (operatorNote : String) (now : Timestamp) :
    SupplierRoutePreferences :=
  if supplierId ≤ 0 then preferences
  else
    preferences.update supplierId fun p =>
      if p.status = .active then
        { p with
          sourcePostureRecommendationId := sourceId
          status := .disabled
          weightPercent := 100
          effectiveTo := now.unix
          disabledAt := now.unix
          disabledBy := disabledBy
          operatorNote := trimSpace operatorNote
          percentPos := by decide
          percentLe := by decide }
      else p

/-- `applySupplierRoutePreferenceForPostureTx` -/
def applySupplierRoutePreferenceForPosture (preferences : SupplierRoutePreferences)
    (row : SupplierPostureRecommendation) (appliedBy : Int) (operatorNote : String)
    (now : Timestamp) : SupplierRoutePreferences :=
  match row.content.recommendedAction with
  | .downgrade =>
    upsertSupplierRoutePreference preferences row 25 (by decide) (by decide) appliedBy
      operatorNote now
  | .boost =>
    upsertSupplierRoutePreference preferences row 150 (by decide) (by decide) appliedBy
      operatorNote now
  | .observe =>
    disableSupplierRoutePreference preferences row.content.supplierId row.id appliedBy
      operatorNote now
  | .disable =>
    disableSupplierRoutePreference preferences row.content.supplierId row.id appliedBy
      operatorNote now

/-- Posture recommendations: `GenerateSupplierPostureRecommendations`,
    `UpdateSupplierPostureRecommendationReview` and `ApplySupplierPostureRecommendation`. -/
def postureKind : ReviewKind PostureContent PostureInput PostureAction where
  build := buildSupplierPostureRecommendations
  action := (·.recommendedAction)
  supplierId := (·.supplierId)
  normalizeStatus := normalizeSupplierPostureRecommendationStatus
  refusesReview := fun row => 0 < row.applied.appliedAt || row.review.status = .applied
  reviewRefusal := "applied supplier posture recommendation cannot be reviewed"
  unapproved := "supplier posture recommendation must be approved before apply"
  alreadyApplied := "supplier posture recommendation already applied"
  targetSupplierStatus := supplierPostureTargetSupplierStatus
  applyNote := supplierPostureApplyNote
  applyPreference := applySupplierRoutePreferenceForPosture
  appliedStatus := some .applied

end TokenRouter
