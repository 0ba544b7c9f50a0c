import TokenRouter.Model.SupplierPosture

/-!
# Supplier evaluations (`model/supplier_evaluation.go`)

Generation of admission evaluations from scorecards and SLA probe runs, and what applying
one does to the supplier. The `sla_gate_summary_json` text is left out.
-/

namespace TokenRouter

/-- `Recommendation` -/
inductive EvaluationRecommendation where
  | admitted
  | observe
  | reject
  deriving DecidableEq

/-- The text of a recommendation. -/
def EvaluationRecommendation.text : EvaluationRecommendation → String
  | .admitted => "admit"
  | .observe => "observe"
  | .reject => "reject"

/-- The columns of `sla_probe_runs` that evaluations read, joined with the plan and the
    contract of the run. -/
structure SlaProbeRun where
  id : Nat
  supplierId : Int
  contractId : Nat
  /-- `Status` is `passed` -/
  passed : Bool
  hardGatePassed : Bool
  /-- the plan's `ProbeType` is `admission` -/
  isAdmission : Bool
  /-- the contract's `Status` is `active` -/
  contractActive : Bool
  recordedAt : Int := 0
  endedAt : Int := 0

/-- What evaluation generation reads. -/
structure EvaluationInput where
  input : ScorecardInput
  scorecards : List SupplierScorecard
  /-- `hasActiveSlaContract` -/
  hasActiveSlaContract : Bool := false
  probeRuns : List SlaProbeRun := []

/-- `supplierEvaluationSlaEvidence` -/
structure SlaEvidence where
  required : Bool
  run : Option SlaProbeRun

/-- `findSupplierEvaluationSlaEvidence`: the latest passed admission run of the supplier. -/
def findSupplierEvaluationSlaEvidence (p : EvaluationInput) (s : SupplierScorecard) :
    SlaEvidence :=
  if p.hasActiveSlaContract then
    { required := true
      run := ((p.probeRuns.filter fun r => r.supplierId = s.supplierId && r.passed &&
        r.hardGatePassed && r.isAdmission && r.contractActive).insertionSort fun a b =>
          b.recordedAt < a.recordedAt ∨ (a.recordedAt = b.recordedAt ∧
            (b.endedAt < a.endedAt ∨ (a.endedAt = b.endedAt ∧ b.id ≤ a.id)))).head? }
  else { required := false, run := none }

/-- `supplierEvaluationRecommendation` -/
def supplierEvaluationRecommendation (score : ℚ) : EvaluationRecommendation :=
  if 85 ≤ score then .admitted else if 70 ≤ score then .observe else .reject

/-- `supplierEvaluationReason` -/
def supplierEvaluationReason (recommendation : EvaluationRecommendation) (s : SupplierScorecard)
    (e : SlaEvidence) : String :=
  let slaSuffix :=
    if e.required then
      match e.run with
      | some run => "; SLA admission evidence run #" ++ toString run.id ++ " contract #" ++
          toString run.contractId ++ " hard gate passed"
      | none => "; active SLA contract exists but no passed admission probe run is recorded " ++
          "for this supplier"
    else ""
  let card := "scorecard grade " ++ s.grade.text ++ " score " ++ formatFixed 3 s.score
  match recommendation with
  | .admitted => card ++ " meets admission threshold" ++ slaSuffix
  | .observe => card ++ " is below admission threshold or lacks required SLA evidence; " ++
      "keep supplier under observation" ++ slaSuffix
  | .reject => card ++ " is below minimum admission threshold" ++ slaSuffix

/-- The columns that generation writes on conflict, the timestamps and the evaluation type
    `admission` apart. -/
structure EvaluationContent where
  supplierId : Int
  supplierScorecardId : Nat
  slaContractId : Nat
  slaProbeRunId : Nat
  periodStart : Int
  periodEnd : Int
  recommendation : EvaluationRecommendation
  score : ℚ
  grade : ScorecardGrade
  totalRequests : Int
  successRate : ℚ
  avgLatencyMs : ℚ
  cacheHitRate : ℚ
  grossProfitQuota : Int
  supplyHeadroomTokens : Int
  avgSupplyQualityScore : ℚ
  avgUnitCostQuota : ℚ
  reason : String
  deriving DecidableEq

/-- A row of `supplier_evaluations`. -/
abbrev SupplierEvaluation := ReviewedRow EvaluationContent

/-- `buildSupplierEvaluationFromScorecard` with its key, `supplierEvaluationKey` -/
def buildSupplierEvaluationFromScorecard (s : SupplierScorecard) (e : SlaEvidence) :
    String × EvaluationContent :=
  let scored := supplierEvaluationRecommendation s.score
  let recommendation :=
    if scored = .admitted ∧ e.required = true ∧ e.run.isNone = true then .observe else scored
  ("admission:scorecard:" ++ toString s.id,
    { supplierId := s.supplierId
      supplierScorecardId := s.id
      slaContractId := (e.run.map (·.contractId)).getD 0
      slaProbeRunId := (e.run.map (·.id)).getD 0
      periodStart := s.periodStart
      periodEnd := s.periodEnd
      recommendation := recommendation
      score := s.score
      grade := s.grade
      totalRequests := s.totalRequests
      successRate := s.successRate
      avgLatencyMs := s.avgLatencyMs
      cacheHitRate := s.cacheHitRate
      grossProfitQuota := s.grossProfitQuota
      supplyHeadroomTokens := s.supplyHeadroomTokens
      avgSupplyQualityScore := s.avgSupplyQualityScore
      avgUnitCostQuota := s.avgUnitCostQuota
      reason := supplierEvaluationReason recommendation s e })

/-- What `GenerateSupplierEvaluations` upserts. -/
def buildSupplierEvaluations (_suppliers : Suppliers) (p : EvaluationInput) :
    Except String (List (String × EvaluationContent)) := do
  validateScorecardInput p.input
  let scorecards := selectScorecards
    (fun a b => b.score < a.score ∨ (a.score = b.score ∧ a.id ≤ b.id)) p.input p.scorecards
  return scorecards.map fun s =>
    buildSupplierEvaluationFromScorecard s (findSupplierEvaluationSlaEvidence p s)

/-- `normalizeSupplierEvaluationStatus` -/
def normalizeSupplierEvaluationStatus (value : String) : Option ReviewStatus :=
  if trimSpace value = "draft" then some .draft
  else if trimSpace value = "approved" then some .approved
  else if trimSpace value = "rejected" then some .rejected
  else none

/-- `supplierEvaluationTargetSupplierStatus` -/
def supplierEvaluationTargetSupplierStatus :
    EvaluationRecommendation → ChannelStatus → ChannelStatus
  | .admitted, _ => .enabled
  | .observe, current => current
  | .reject, _ => .manuallyDisabled

/-- `supplierEvaluationApplyNote` -/
def supplierEvaluationApplyNote (row : SupplierEvaluation) (appliedBy : Int)
    (operatorNote : String) : String :=
  supplierApplyNote "supplier_evaluation"
    ("recommendation=" ++ row.content.recommendation.text) row.id row.content.grade
    row.content.score appliedBy operatorNote

/-- Evaluations: `GenerateSupplierEvaluations`, `UpdateSupplierEvaluationReview` and
    `ApplySupplierEvaluation`. Applying leaves the status at `approved`. -/
def evaluationKind : ReviewKind EvaluationContent EvaluationInput EvaluationRecommendation where
  build := buildSupplierEvaluations
  action := (·.recommendation)
  supplierId := (·.supplierId)
  normalizeStatus := normalizeSupplierEvaluationStatus
  refusesReview := fun row => 0 < row.applied.appliedAt
  reviewRefusal := "applied supplier evaluation cannot be reviewed"
  unapproved := "supplier evaluation must be approved before apply"
  alreadyApplied := "supplier evaluation already applied"
  targetSupplierStatus := supplierEvaluationTargetSupplierStatus
  applyNote := supplierEvaluationApplyNote
  applyPreference := fun preferences _ _ _ _ => preferences
  appliedStatus := none

end TokenRouter
