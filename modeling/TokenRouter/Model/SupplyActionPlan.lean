import TokenRouter.Model.SupplyDecision

/-!
# Supply action plans (`model/supply_action_plan.go`)

A plan is generated from an approved decision by an upsert on `supply_decision_id`, which
leaves the lifecycle columns alone. `UpdateSupplyActionPlanStatus` runs in no transaction:
it reads the plan, checks the transition on the copy and writes the row by its id.
-/

namespace TokenRouter

/-- `Status` -/
inductive SupplyActionPlanStatus where
  | planned
  | inProgress
  | completed
  | cancelled
  deriving DecidableEq

/-- `normalizeSupplyActionPlanStatus`; `none` is the empty text. -/
def normalizeSupplyActionPlanStatus (status : String) : Option SupplyActionPlanStatus :=
  if trimSpace status = "planned" then some .planned
  else if trimSpace status = "in_progress" then some .inProgress
  else if trimSpace status = "completed" then some .completed
  else if trimSpace status = "cancelled" then some .cancelled
  else none

/-- `canTransitionSupplyActionPlanStatus`, after both texts are normalised. -/
def canTransitionSupplyActionPlanStatus (source target : SupplyActionPlanStatus) : Bool :=
  if source = target then true
  else
    match source with
    | .planned => target = .inProgress || target = .completed || target = .cancelled
    | .inProgress => target = .completed || target = .cancelled
    | .completed => false
    | .cancelled => false

/-- `ActionType` -/
inductive SupplyActionType where
  | recruitThirdParty
  | prepareSelfOperatedBuy
  | evaluateSelfHostedCapacity
  | keepThirdPartyObservation
  deriving DecidableEq

/-- `supplyActionTypeAndReason` -/
def supplyActionTypeAndReason : SupplyDecisionType → SupplyActionType × String
  | .thirdPartyRecruit =>
    (.recruitThirdParty, "approved decision requires third-party supplier recruitment; " ++
      "execute onboarding outside the platform")
  | .selfOperatedPurchase =>
    (.prepareSelfOperatedBuy, "approved decision requires self-operated capacity purchase; " ++
      "execute procurement offline and record capacity after purchase")
  | .selfHostedEvaluate =>
    (.evaluateSelfHostedCapacity, "approved decision requires self-hosted capacity evaluation; " ++
      "register infrastructure only after operator approval")
  | .thirdPartyProbe =>
    (.keepThirdPartyObservation, "approved decision keeps this slice in observation mode " ++
      "without supply mutation")

/-- The columns of `supply_expansion_opportunities` that plans copy. -/
structure SupplyExpansionOpportunity where
  id : Nat := 0
  supplyDecisionId : Nat := 0
  opportunityKey : String := ""
  opportunityType : String := ""
  priority : String := ""
  clusterKey : String := ""
  rankScore : ℚ := 0

/-- The columns that generation writes on conflict, the timestamps and the source review
    apart. -/
structure SupplyActionPlanContent where
  decisionKey : String
  supplyExpansionOpportunityId : Nat
  opportunityKey : String
  opportunityType : String
  opportunityPriority : String
  opportunityClusterKey : String
  opportunityRankScore : ℚ
  trafficProfileId : Nat
  sliceKey : String
  modelName : String
  slaTier : String
  userId : Int
  periodStart : Int
  periodEnd : Int
  decisionType : SupplyDecisionType
  track : SupplyTrack
  actionType : SupplyActionType
  recommendedCapacity : Int
  gapTokens : Int
  roiScore : ℚ
  reason : String
  deriving DecidableEq

/-- The lifecycle columns of a plan, which generation leaves alone. -/
structure SupplyActionPlanLifecycle where
  status : SupplyActionPlanStatus := .planned
  startedAt : Int := 0
  completedAt : Int := 0
  cancelledAt : Int := 0
  statusUpdatedAt : Int := 0
  statusUpdatedBy : Int := 0
  operatorNote : String := ""
  deriving DecidableEq

/-- A row of `supply_action_plans`. -/
structure SupplyActionPlan where
  id : Nat
  supplyDecisionId : Nat
  content : SupplyActionPlanContent
  sourceReviewedAt : Int := 0
  sourceReviewedBy : Int := 0
  generatedAt : Int := 0
  lifecycle : SupplyActionPlanLifecycle := {}

/-- The `supply_action_plans` table. -/
abbrev SupplyActionPlans := Table SupplyActionPlan (·.id)

/-- `SupplyActionPlanGenerateInput` -/
structure SupplyActionPlanGenerateInput where
  decisionId : Int := 0
  periodStart : Int := 0
  periodEnd : Int := 0
  track : String := ""

/-- `validateSupplyActionPlanGenerateInput` -/
def validateSupplyActionPlanGenerateInput (input : SupplyActionPlanGenerateInput) :
    Except String Unit :=
  if 0 < input.decisionId then .ok ()
  else if input.periodStart ≤ 0 then
    .error "period_start is required when decision_id is not provided"
  else if input.periodEnd ≤ input.periodStart then
    .error "period_end must be greater than period_start"
  else .ok ()

/-- The text of a track in the database. -/
def SupplyTrack.text : SupplyTrack → String
  | .thirdParty => "third_party"
  | .selfOperated => "self_operated"
  | .selfHosted => "self_hosted"

/-- The decision query of `GenerateSupplyActionPlans`, `period_start ASC, id ASC`. -/
def selectDecisions (input : SupplyActionPlanGenerateInput) (decisions : SupplyDecisions) :
    List SupplyDecision :=
  (decisions.rows.filter fun d => d.review.status = .approved &&
    (if 0 < input.decisionId then decide ((d.id : Int) = input.decisionId)
      else input.periodStart ≤ d.content.periodEnd && d.content.periodStart ≤ input.periodEnd) &&
    (trimSpace input.track = "" || d.content.track.text = trimSpace input.track)).insertionSort
      fun a b => a.content.periodStart < b.content.periodStart ∨
        (a.content.periodStart = b.content.periodStart ∧ a.id ≤ b.id)

/-- `loadSupplyExpansionOpportunitiesForActionPlans`: the best-ranked opportunity of a
    decision. -/
def loadSupplyExpansionOpportunity (opportunities : List SupplyExpansionOpportunity)
    (decisionId : Nat) : Option SupplyExpansionOpportunity :=
  (opportunities.insertionSort fun a b =>
    b.rankScore < a.rankScore ∨ (a.rankScore = b.rankScore ∧ b.id ≤ a.id)).find?
    fun o => 0 < decisionId && o.supplyDecisionId = decisionId

/-- `buildSupplyActionPlanFromDecision`, without the timestamps. -/
def buildSupplyActionPlanFromDecision (decision : SupplyDecision)
    (opportunity : Option SupplyExpansionOpportunity) : SupplyActionPlanContent :=
  let (actionType, reason) := supplyActionTypeAndReason decision.content.decisionType
  { decisionKey := decision.decisionKey
    supplyExpansionOpportunityId := (opportunity.map (·.id)).getD 0
    opportunityKey := (opportunity.map (·.opportunityKey)).getD ""
    opportunityType := (opportunity.map (·.opportunityType)).getD ""
    opportunityPriority := (opportunity.map (·.priority)).getD ""
    opportunityClusterKey := (opportunity.map (·.clusterKey)).getD ""
    opportunityRankScore := (opportunity.map (·.rankScore)).getD 0
    trafficProfileId := decision.content.trafficProfileId
    sliceKey := decision.content.sliceKey
    modelName := decision.content.modelName
    slaTier := normalizeTrafficProfileSlaTier decision.content.slaTier
    userId := decision.content.userId
    periodStart := decision.content.periodStart
    periodEnd := decision.content.periodEnd
    decisionType := decision.content.decisionType
    track := decision.content.track
    actionType := actionType
    recommendedCapacity := decision.content.recommendedCapacity
    gapTokens := decision.content.gapTokens
    roiScore := decision.content.roiScore
    reason := reason }

/-- One row of the `INSERT ... ON CONFLICT (supply_decision_id) DO UPDATE`. -/
def upsertSupplyActionPlan (opportunities : List SupplyExpansionOpportunity) (now : Timestamp)
    (plans : SupplyActionPlans) (d : SupplyDecision) : SupplyActionPlans :=
  let content := buildSupplyActionPlanFromDecision d (loadSupplyExpansionOpportunity opportunities d.id)
  plans.upsertOn (·.supplyDecisionId) d.id
    (fun row =>
      { row with
        content := content
        sourceReviewedAt := d.review.reviewedAt
        sourceReviewedBy := d.review.reviewedBy
        generatedAt := now.unix })
    (fun id =>
      { id := id
        supplyDecisionId := d.id
        content := content
        sourceReviewedAt := d.review.reviewedAt
        sourceReviewedBy := d.review.reviewedBy
        generatedAt := now.unix })

/-- `GenerateSupplyActionPlans` -/
def generateSupplyActionPlans (decisions : SupplyDecisions) (plans : SupplyActionPlans)
    (input : SupplyActionPlanGenerateInput) (opportunities : List SupplyExpansionOpportunity)
    (now : Timestamp) : Except String SupplyActionPlans := do
  validateSupplyActionPlanGenerateInput input
  return (selectDecisions input decisions).foldl (upsertSupplyActionPlan opportunities now) plans

/-- `SupplyActionPlanStatusInput` -/
structure SupplyActionPlanStatusInput where
  status : String
  operatorNote : String := ""
  deriving DecidableEq

/-- The first half of `UpdateSupplyActionPlanStatus`: the read of the plan and the check of
    the transition. The result is the copy of the lifecycle that the write goes by. -/
def checkSupplyActionPlanStatus (plan : Option SupplyActionPlan)
    (input : SupplyActionPlanStatusInput) :
    Except String (SupplyActionPlanStatus × SupplyActionPlanLifecycle) :=
  match normalizeSupplyActionPlanStatus input.status with
  | none => .error "invalid supply action plan status"
  | some status =>
    match plan with
    | none => .error "record not found"
    | some p =>
      if canTransitionSupplyActionPlanStatus p.lifecycle.status status then
        .ok (status, p.lifecycle)
      else .error "invalid supply action plan status transition"

/-- The columns that `UpdateSupplyActionPlanStatus` writes: `copy` is the lifecycle it has
    read, `row` the stored one. -/
def updateSupplyActionPlanLifecycle (status : SupplyActionPlanStatus)
    (copy row : SupplyActionPlanLifecycle) (operatorNote : String) (updatedBy : Int)
    (now : Timestamp) : SupplyActionPlanLifecycle :=
  let row :=
    { row with
      status := status
      statusUpdatedAt := now.unix
      statusUpdatedBy := updatedBy
      operatorNote := trimSpace operatorNote }
  match status with
  | .planned => row
  | .inProgress => if copy.startedAt = 0 then { row with startedAt := now.unix } else row
  | .completed =>
    let row := if copy.startedAt = 0 then { row with startedAt := now.unix } else row
    { row with completedAt := now.unix }
  | .cancelled => { row with cancelledAt := now.unix }

/-- `UpdateSupplyActionPlanStatus`, run without interruption. -/
def updateSupplyActionPlanStatus (plans : SupplyActionPlans) (id : Nat)
    (input : SupplyActionPlanStatusInput) (updatedBy : Int) (now : Timestamp) :
    Except String SupplyActionPlans := do
  let (status, copy) ← checkSupplyActionPlanStatus (plans.find? id) input
  return plans.update id fun row =>
    { row with
      lifecycle :=
        updateSupplyActionPlanLifecycle status copy row.lifecycle input.operatorNote updatedBy now }

end TokenRouter
