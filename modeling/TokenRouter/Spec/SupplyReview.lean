import TokenRouter.Model.SupplyActionPlan
import TokenRouter.ForStd.Run

/-!
# What was reviewed and what is planned

Generation writes the content of decisions and plans by key and leaves reviews and
lifecycles alone, so an approved decision follows its telemetry: a plan carries the terms
that the approved decision had when the plan was last generated. They are the terms the
reviewer saw as long as no regeneration has rebuilt an approved decision differently.

## Key results

- `mem_generatedDecisions`, `mem_generatedPlans`: the rows after a generation
- `regeneration_keeps_review`: what generation leaves alone
- `plans_follow_approved_decisions`: the result over every run
- `replanned_terms_unreviewed`: a plan under way with terms that no reviewer has seen
-/

namespace TokenRouter

/-! ## Terms -/

/-- What a reviewer approves and an operator carries out. -/
structure SupplyTerms where
  actionType : SupplyActionType
  decisionType : SupplyDecisionType
  track : SupplyTrack
  modelName : String
  recommendedCapacity : Int
  gapTokens : Int
  deriving DecidableEq

/-- The terms of a decision; its action type is the one that a plan gets. -/
def SupplyDecisionContent.terms (c : SupplyDecisionContent) : SupplyTerms where
  actionType := (supplyActionTypeAndReason c.decisionType).1
  decisionType := c.decisionType
  track := c.track
  modelName := c.modelName
  recommendedCapacity := c.recommendedCapacity
  gapTokens := c.gapTokens

/-- The terms of a plan. -/
def SupplyActionPlanContent.terms (c : SupplyActionPlanContent) : SupplyTerms where
  actionType := c.actionType
  decisionType := c.decisionType
  track := c.track
  modelName := c.modelName
  recommendedCapacity := c.recommendedCapacity
  gapTokens := c.gapTokens

theorem buildSupplyActionPlan_terms (d : SupplyDecision) (o : Option SupplyExpansionOpportunity) :
    (buildSupplyActionPlanFromDecision d o).terms = d.content.terms := rfl

/-! ## The rows after a generation -/

theorem mem_upsertSupplyDecision {now : Timestamp} {t : SupplyDecisions} {d : BuiltDecision}
    (ht : t.UniqueOn (·.decisionKey)) {r : SupplyDecision} :
    r ∈ (upsertSupplyDecision now t d).rows ↔
      (r ∈ t.rows ∧ r.decisionKey ≠ d.1) ∨
      (∃ r₀ ∈ t.rows, r₀.decisionKey = d.1 ∧
        r = { r₀ with content := d.2, generatedAt := now.unix }) ∨
      ((∀ x ∈ t.rows, x.decisionKey ≠ d.1) ∧
        r = { id := t.nextId, decisionKey := d.1, content := d.2, generatedAt := now.unix }) := by
  apply Table.mem_upsertOn ht
  · exact fun _ => rfl
  · exact fun _ => rfl

theorem uniqueOn_upsertSupplyDecision {now : Timestamp} {t : SupplyDecisions} {d : BuiltDecision}
    (ht : t.UniqueOn (·.decisionKey)) :
    (upsertSupplyDecision now t d).UniqueOn (·.decisionKey) := by
  apply ht.upsertOn
  · exact fun _ => rfl
  · exact fun _ => rfl
  · exact fun _ => rfl
  · exact fun _ => rfl

/-- The content of the plan that a decision gives. -/
def planContent (opportunities : List SupplyExpansionOpportunity) (d : SupplyDecision) :
    SupplyActionPlanContent :=
  buildSupplyActionPlanFromDecision d (loadSupplyExpansionOpportunity opportunities d.id)

theorem mem_upsertSupplyActionPlan (opportunities : List SupplyExpansionOpportunity)
    (now : Timestamp) {t : SupplyActionPlans} {d : SupplyDecision}
    (ht : t.UniqueOn (·.supplyDecisionId)) {r : SupplyActionPlan} :
    r ∈ (upsertSupplyActionPlan opportunities now t d).rows ↔
      (r ∈ t.rows ∧ r.supplyDecisionId ≠ d.id) ∨
      (∃ r₀ ∈ t.rows, r₀.supplyDecisionId = d.id ∧
        r =
          { r₀ with
            content := planContent opportunities d
            sourceReviewedAt := d.review.reviewedAt
            sourceReviewedBy := d.review.reviewedBy
            generatedAt := now.unix }) ∨
      ((∀ x ∈ t.rows, x.supplyDecisionId ≠ d.id) ∧
        r =
          { id := t.nextId
            supplyDecisionId := d.id
            content := planContent opportunities d
            sourceReviewedAt := d.review.reviewedAt
            sourceReviewedBy := d.review.reviewedBy
            generatedAt := now.unix }) := by
  apply Table.mem_upsertOn ht
  · exact fun _ => rfl
  · exact fun _ => rfl

theorem uniqueOn_upsertSupplyActionPlan {opportunities : List SupplyExpansionOpportunity}
    {now : Timestamp} {t : SupplyActionPlans} {d : SupplyDecision}
    (ht : t.UniqueOn (·.supplyDecisionId)) :
    (upsertSupplyActionPlan opportunities now t d).UniqueOn (·.supplyDecisionId) := by
  apply ht.upsertOn
  · exact fun _ => rfl
  · exact fun _ => rfl
  · exact fun _ => rfl
  · exact fun _ => rfl

/-- A decision after a generation: an old one, possibly with the content just built for its
    key, or a new draft. -/
theorem mem_generatedDecisions {now : Timestamp} {ds : List BuiltDecision} {t : SupplyDecisions}
    (ht : t.UniqueOn (·.decisionKey)) {r : SupplyDecision}
    (h : r ∈ (ds.foldl (upsertSupplyDecision now) t).rows) :
    (∃ r₀ ∈ t.rows, r.id = r₀.id ∧ r.decisionKey = r₀.decisionKey ∧ r.review = r₀.review ∧
      (r.content = r₀.content ∨ (r.decisionKey, r.content) ∈ ds)) ∨ r.review = {} := by
  induction ds generalizing t with
  | nil => exact .inl ⟨r, h, rfl, rfl, rfl, .inl rfl⟩
  | cons d ds ih =>
    have hunique : (upsertSupplyDecision now t d).UniqueOn (·.decisionKey) :=
      uniqueOn_upsertSupplyDecision ht
    rcases ih hunique h with ⟨r₁, hr₁, hid, hkey, hreview, hcontent⟩ | hdraft
    · rw [mem_upsertSupplyDecision ht] at hr₁
      rcases hr₁ with ⟨hr₁, -⟩ | ⟨r₀, hr₀, hr₀key, rfl⟩ | ⟨-, rfl⟩
      · exact .inl ⟨r₁, hr₁, hid, hkey, hreview, hcontent.imp_right (List.mem_cons_of_mem d)⟩
      · refine .inl ⟨r₀, hr₀, hid, hkey, hreview, .inr ?_⟩
        rcases hcontent with hcontent | hmem
        · have hd : (r.decisionKey, r.content) = d := by
            rw [hcontent, hkey]
            exact Prod.ext hr₀key rfl
          rw [hd]
          exact List.mem_cons_self
        · exact List.mem_cons_of_mem d hmem
      · exact .inr hreview
    · exact .inr hdraft

theorem uniqueOn_generatedDecisions {now : Timestamp} {ds : List BuiltDecision}
    {t : SupplyDecisions} (ht : t.UniqueOn (·.decisionKey)) :
    (ds.foldl (upsertSupplyDecision now) t).UniqueOn (·.decisionKey) := by
  induction ds generalizing t with
  | nil => exact ht
  | cons d ds ih =>
    exact ih (uniqueOn_upsertSupplyDecision ht)

/-- Every decision survives a generation with its key and its review. -/
theorem generatedDecisions_keep {now : Timestamp} {ds : List BuiltDecision} {t : SupplyDecisions}
    (ht : t.UniqueOn (·.decisionKey)) {r₀ : SupplyDecision} (h : r₀ ∈ t.rows) :
    ∃ r ∈ (ds.foldl (upsertSupplyDecision now) t).rows, r.id = r₀.id ∧
      r.decisionKey = r₀.decisionKey ∧ r.review = r₀.review ∧
      (r.content = r₀.content ∨ (r₀.decisionKey, r.content) ∈ ds) := by
  induction ds generalizing t r₀ with
  | nil => exact ⟨r₀, h, rfl, rfl, rfl, .inl rfl⟩
  | cons d ds ih =>
    have hunique : (upsertSupplyDecision now t d).UniqueOn (·.decisionKey) :=
      uniqueOn_upsertSupplyDecision ht
    by_cases hkey : r₀.decisionKey = d.1
    · have hmem : { r₀ with content := d.2, generatedAt := now.unix } ∈
          (upsertSupplyDecision now t d).rows := by
        rw [mem_upsertSupplyDecision ht]
        exact .inr (.inl ⟨r₀, h, hkey, rfl⟩)
      obtain ⟨r, hr, hid, hk, hreview, hcontent⟩ := ih hunique hmem
      refine ⟨r, hr, hid, hk, hreview, .inr ?_⟩
      rcases hcontent with hcontent | hmem'
      · rw [hcontent, hkey]
        exact List.mem_cons_self
      · exact List.mem_cons_of_mem d hmem'
    · have hmem : r₀ ∈ (upsertSupplyDecision now t d).rows := by
        rw [mem_upsertSupplyDecision ht]
        exact .inl ⟨h, hkey⟩
      obtain ⟨r, hr, hid, hk, hreview, hcontent⟩ := ih hunique hmem
      exact ⟨r, hr, hid, hk, hreview, hcontent.imp_right (List.mem_cons_of_mem d)⟩

/-- A plan after a generation: one that was built from a selected decision, or an old one of
    which no decision was selected. -/
theorem mem_generatedPlans {opportunities : List SupplyExpansionOpportunity} {now : Timestamp}
    {ds : List SupplyDecision} {t : SupplyActionPlans} (ht : t.UniqueOn (·.supplyDecisionId))
    {r : SupplyActionPlan}
    (h : r ∈ (ds.foldl (upsertSupplyActionPlan opportunities now) t).rows) :
    (∃ d ∈ ds, d.id = r.supplyDecisionId ∧ r.content = planContent opportunities d) ∨
      (r ∈ t.rows ∧ ∀ d ∈ ds, d.id ≠ r.supplyDecisionId) := by
  induction ds generalizing t with
  | nil => exact .inr ⟨h, fun d hd => by cases hd⟩
  | cons d ds ih =>
    have hunique : (upsertSupplyActionPlan opportunities now t d).UniqueOn (·.supplyDecisionId) :=
      uniqueOn_upsertSupplyActionPlan ht
    rcases ih hunique h with ⟨d', hd', hbuilt⟩ | ⟨hr, hnone⟩
    · exact .inl ⟨d', List.mem_cons_of_mem d hd', hbuilt⟩
    · rw [mem_upsertSupplyActionPlan opportunities now ht] at hr
      rcases hr with ⟨hr, hne⟩ | ⟨r₀, hr₀, hid, rfl⟩ | ⟨-, rfl⟩
      · refine .inr ⟨hr, ?_⟩
        intro d' hd'
        rcases List.mem_cons.mp hd' with rfl | hd'
        · exact fun hc => hne hc.symm
        · exact hnone d' hd'
      · exact .inl ⟨d, List.mem_cons_self, hid.symm, rfl⟩
      · exact .inl ⟨d, List.mem_cons_self, rfl, rfl⟩

theorem uniqueOn_generatedPlans {opportunities : List SupplyExpansionOpportunity}
    {now : Timestamp} {ds : List SupplyDecision} {t : SupplyActionPlans}
    (ht : t.UniqueOn (·.supplyDecisionId)) :
    (ds.foldl (upsertSupplyActionPlan opportunities now) t).UniqueOn (·.supplyDecisionId) := by
  induction ds generalizing t with
  | nil => exact ht
  | cons d ds ih =>
    exact ih (uniqueOn_upsertSupplyActionPlan ht)

/-- Every plan survives a generation with its lifecycle. -/
theorem generatedPlans_keep {opportunities : List SupplyExpansionOpportunity} {now : Timestamp}
    {ds : List SupplyDecision} {t : SupplyActionPlans} (ht : t.UniqueOn (·.supplyDecisionId))
    {r₀ : SupplyActionPlan} (h : r₀ ∈ t.rows) :
    ∃ r ∈ (ds.foldl (upsertSupplyActionPlan opportunities now) t).rows, r.id = r₀.id ∧
      r.supplyDecisionId = r₀.supplyDecisionId ∧ r.lifecycle = r₀.lifecycle ∧
      (r.content = r₀.content ∨ ∃ d ∈ ds, d.id = r₀.supplyDecisionId ∧ r.content = planContent opportunities d) := by
  induction ds generalizing t r₀ with
  | nil => exact ⟨r₀, h, rfl, rfl, rfl, .inl rfl⟩
  | cons d ds ih =>
    have hunique : (upsertSupplyActionPlan opportunities now t d).UniqueOn (·.supplyDecisionId) :=
      uniqueOn_upsertSupplyActionPlan ht
    by_cases hid : r₀.supplyDecisionId = d.id
    · have hmem := (mem_upsertSupplyActionPlan opportunities now ht).mpr
        (.inr (.inl ⟨r₀, h, hid, rfl⟩))
      obtain ⟨r, hr, hrid, hdid, hlife, hcontent⟩ := ih hunique hmem
      refine ⟨r, hr, hrid, hdid, hlife, .inr ?_⟩
      rcases hcontent with hcontent | ⟨d', hd', hbuilt⟩
      · exact ⟨d, List.mem_cons_self, hid.symm, hcontent⟩
      · exact ⟨d', List.mem_cons_of_mem d hd', hbuilt⟩
    · have hmem := (mem_upsertSupplyActionPlan opportunities now ht).mpr
        (.inl ⟨h, hid⟩)
      obtain ⟨r, hr, hrid, hdid, hlife, hcontent⟩ := ih hunique hmem
      refine ⟨r, hr, hrid, hdid, hlife, hcontent.imp_right ?_⟩
      rintro ⟨d', hd', hbuilt⟩
      exact ⟨d', List.mem_cons_of_mem d hd', hbuilt⟩

/-! ## Runs -/

/-- Where a plan comes from: the decision as the generation has read it, and the content
    that the last reviewer to approve it had before them. -/
structure PlanSource where
  decision : SupplyDecision
  approved : Option SupplyDecisionContent

/-- The two tables, and what is recorded of the past: by decision, the content when it was
    last approved and the source of its plan when it was last generated. -/
structure SupplyHistory where
  decisions : SupplyDecisions := Table.empty
  plans : SupplyActionPlans := Table.empty
  approvedAs : Nat → Option SupplyDecisionContent := fun _ => none
  plannedFrom : Nat → Option PlanSource := fun _ => none

/-- The operations; telemetry, forecasts and opportunities are what they are at the time. -/
inductive SupplyEvent where
  | generateDecisions (input : SupplyDecisionGenerateInput) (profiles : List TrafficProfile)
      (forecasts : List TrafficForecast) (now : Timestamp)
  | reviewDecision (id : Nat) (status : String) (reviewedBy : Int) (reviewNote : String)
      (now : Timestamp)
  | generatePlans (input : SupplyActionPlanGenerateInput)
      (opportunities : List SupplyExpansionOpportunity) (now : Timestamp)
  | updatePlanStatus (id : Nat) (input : SupplyActionPlanStatusInput) (updatedBy : Int)
      (now : Timestamp)

namespace SupplyHistory

/-- The record of approvals after a review. -/
def noteReview (w : SupplyHistory) (id : Nat) (status : String) :
    Nat → Option SupplyDecisionContent :=
  if normalizeSupplyDecisionStatus status = .approved then
    Function.update w.approvedAs id ((w.decisions.find? id).map (·.content))
  else w.approvedAs

/-- The record of plan sources after plans are generated from `selected`. -/
def notePlans (w : SupplyHistory) (selected : List SupplyDecision) (id : Nat) :
    Option PlanSource :=
  match selected.find? fun d => d.id = id with
  | some d => some ⟨d, w.approvedAs id⟩
  | none => w.plannedFrom id

variable (roi : RoiScore)

/-- One operation; one that fails changes nothing. -/
def step (w : SupplyHistory) : SupplyEvent → SupplyHistory
  | .generateDecisions input profiles forecasts now =>
    match generateSupplyDecisions roi w.decisions input profiles forecasts now with
    | .error _ => w
    | .ok decisions => { w with decisions := decisions }
  | .reviewDecision id status reviewedBy reviewNote now =>
    match updateSupplyDecisionReview w.decisions id status reviewedBy reviewNote now with
    | .error _ => w
    | .ok decisions => { w with decisions := decisions, approvedAs := w.noteReview id status }
  | .generatePlans input opportunities now =>
    match generateSupplyActionPlans w.decisions w.plans input opportunities now with
    | .error _ => w
    | .ok plans =>
      { w with plans := plans, plannedFrom := w.notePlans (selectDecisions input w.decisions) }
  | .updatePlanStatus id input updatedBy now =>
    match updateSupplyActionPlanStatus w.plans id input updatedBy now with
    | .error _ => w
    | .ok plans => { w with plans := plans }

section
variable (w : SupplyHistory) (now : Timestamp)

theorem step_generateDecisions_eq (input : SupplyDecisionGenerateInput)
    (profiles : List TrafficProfile) (forecasts : List TrafficForecast) :
    step roi w (.generateDecisions input profiles forecasts now) =
      match generateSupplyDecisions roi w.decisions input profiles forecasts now with
      | .error _ => w
      | .ok decisions => { w with decisions := decisions } := rfl

theorem step_reviewDecision_eq (id : Nat) (status : String) (reviewedBy : Int)
    (reviewNote : String) :
    step roi w (.reviewDecision id status reviewedBy reviewNote now) =
      match updateSupplyDecisionReview w.decisions id status reviewedBy reviewNote now with
      | .error _ => w
      | .ok decisions =>
        { w with decisions := decisions, approvedAs := w.noteReview id status } := rfl

theorem step_generatePlans_eq (input : SupplyActionPlanGenerateInput)
    (opportunities : List SupplyExpansionOpportunity) :
    step roi w (.generatePlans input opportunities now) =
      match generateSupplyActionPlans w.decisions w.plans input opportunities now with
      | .error _ => w
      | .ok plans =>
        { w with
          plans := plans
          plannedFrom := w.notePlans (selectDecisions input w.decisions) } := rfl

theorem step_updatePlanStatus_eq (id : Nat) (input : SupplyActionPlanStatusInput)
    (updatedBy : Int) :
    step roi w (.updatePlanStatus id input updatedBy now) =
      match updateSupplyActionPlanStatus w.plans id input updatedBy now with
      | .error _ => w
      | .ok plans => { w with plans := plans } := rfl

end

/-- A plan in `in_progress` or `completed`. -/
def isStarted (p : SupplyActionPlan) : Bool :=
  p.lifecycle.status = .inProgress || p.lifecycle.status = .completed

/-- The terms of the decision of a plan at the moment the reviewer approved it. -/
def approvedTerms (w : SupplyHistory) (p : SupplyActionPlan) : Option SupplyTerms :=
  (w.plannedFrom p.supplyDecisionId).bind fun s => s.approved.map (·.terms)

/-- Every plan that has been started carries the terms that were approved. -/
def PlansAsApproved (w : SupplyHistory) : Prop :=
  ∀ p ∈ w.plans.rows, isStarted p = true → w.approvedTerms p = some p.content.terms

instance (w : SupplyHistory) : Decidable w.PlansAsApproved :=
  inferInstanceAs (Decidable (∀ p ∈ w.plans.rows, isStarted p = true →
    w.approvedTerms p = some p.content.terms))

/-- Every plan carries the terms that its decision had, in status `approved`, when the plan
    was last generated. -/
def PlansFromApproved (w : SupplyHistory) : Prop :=
  ∀ p ∈ w.plans.rows, ∃ s, w.plannedFrom p.supplyDecisionId = some s ∧
    s.decision.id = p.supplyDecisionId ∧ s.decision.review.status = .approved ∧
    p.content.terms = s.decision.content.terms

/-- What a generation leaves alone, and what it may write: the review of a decision and the
    lifecycle of a plan stay, the content is the old one or the one just built. -/
def KeepsReviews (w : SupplyHistory) : SupplyEvent → Prop
  | .generateDecisions input profiles forecasts now =>
    ∀ d ∈ w.decisions.rows,
      ∃ d' ∈ (step roi w (.generateDecisions input profiles forecasts now)).decisions.rows,
        d'.id = d.id ∧ d'.decisionKey = d.decisionKey ∧ d'.review = d.review ∧
        (d'.content = d.content ∨
          (d.decisionKey, d'.content) ∈ buildSupplyDecisions roi input profiles forecasts)
  | .generatePlans input opportunities now =>
    ∀ p ∈ w.plans.rows,
      ∃ p' ∈ (step roi w (.generatePlans input opportunities now)).plans.rows,
        p'.id = p.id ∧ p'.supplyDecisionId = p.supplyDecisionId ∧ p'.lifecycle = p.lifecycle ∧
        (p'.content = p.content ∨ ∃ d ∈ selectDecisions input w.decisions,
          d.id = p.supplyDecisionId ∧ p'.content = planContent opportunities d)
  | _ => True

/-- A generation rebuilds the approved decisions it covers with the content they have. -/
def RebuildsAlike (w : SupplyHistory) : SupplyEvent → Prop
  | .generateDecisions input profiles forecasts _ =>
    ∀ b ∈ buildSupplyDecisions roi input profiles forecasts, ∀ d ∈ w.decisions.rows,
      d.review.status = .approved → d.decisionKey = b.1 → b.2 = d.content
  | _ => True

/-! ## The invariants -/

/-- The unique columns, and where plans come from. -/
structure Inv (w : SupplyHistory) : Prop where
  uniqueDecisions : w.decisions.UniqueOn (·.decisionKey)
  uniquePlans : w.plans.UniqueOn (·.supplyDecisionId)
  fromApproved : w.PlansFromApproved

/-- The content of an approved decision is the one that was approved, and so was the one
    that a plan was made from. -/
structure AsApproved (w : SupplyHistory) : Prop where
  decisions : ∀ d ∈ w.decisions.rows, d.review.status = .approved →
    w.approvedAs d.id = some d.content
  plans : ∀ id s, w.plannedFrom id = some s → s.approved = some s.decision.content

theorem inv_start : Inv {} where
  uniqueDecisions := Table.uniqueOn_empty
  uniquePlans := Table.uniqueOn_empty
  fromApproved := fun p hp => by simp at hp

theorem asApproved_start : AsApproved {} where
  decisions := fun d hd => by simp at hd
  plans := fun id s h => by cases h

/-! ## What one step does -/

variable {roi}

theorem step_generateDecisions (w : SupplyHistory) (input : SupplyDecisionGenerateInput)
    (profiles : List TrafficProfile) (forecasts : List TrafficForecast) (now : Timestamp) :
    step roi w (.generateDecisions input profiles forecasts now) = w ∨
    step roi w (.generateDecisions input profiles forecasts now) =
      { w with
        decisions := (buildSupplyDecisions roi input profiles forecasts).foldl
          (upsertSupplyDecision now) w.decisions } := by
  rw [step_generateDecisions_eq]
  simp only [generateSupplyDecisions, bind, Except.bind, pure, Except.pure]
  cases validateSupplyDecisionGenerateInput input with
  | error e => exact .inl rfl
  | ok u => exact .inr rfl

theorem step_generatePlans (w : SupplyHistory) (input : SupplyActionPlanGenerateInput)
    (opportunities : List SupplyExpansionOpportunity) (now : Timestamp) :
    step roi w (.generatePlans input opportunities now) = w ∨
    step roi w (.generatePlans input opportunities now) =
      { w with
        plans := (selectDecisions input w.decisions).foldl
          (upsertSupplyActionPlan opportunities now) w.plans
        plannedFrom := w.notePlans (selectDecisions input w.decisions) } := by
  rw [step_generatePlans_eq]
  simp only [generateSupplyActionPlans, bind, Except.bind, pure, Except.pure]
  cases validateSupplyActionPlanGenerateInput input with
  | error e => exact .inl rfl
  | ok u => exact .inr rfl

/-- A review that succeeds replaces the review of one decision. -/
theorem step_reviewDecision (w : SupplyHistory) (id : Nat) (status : String) (reviewedBy : Int)
    (reviewNote : String) (now : Timestamp) :
    step roi w (.reviewDecision id status reviewedBy reviewNote now) = w ∨
    ∃ row review, w.decisions.find? id = some row ∧
      review.status = normalizeSupplyDecisionStatus status ∧
      step roi w (.reviewDecision id status reviewedBy reviewNote now) =
        { w with
          decisions := w.decisions.set { row with review := review }
          approvedAs := w.noteReview id status } := by
  rw [step_reviewDecision_eq]
  simp only [updateSupplyDecisionReview]
  by_cases hdraft : normalizeSupplyDecisionStatus status = .draft
  · rw [if_pos hdraft]
    exact .inl rfl
  · rw [if_neg hdraft]
    cases hfind : w.decisions.find? id with
    | none => exact .inl rfl
    | some row => exact .inr ⟨row, _, rfl, rfl, rfl⟩

/-- A status update replaces the lifecycle of one plan. -/
theorem step_updatePlanStatus (w : SupplyHistory) (id : Nat) (input : SupplyActionPlanStatusInput)
    (updatedBy : Int) (now : Timestamp) :
    step roi w (.updatePlanStatus id input updatedBy now) = w ∨
    ∃ p lifecycle, w.plans.find? id = some p ∧
      step roi w (.updatePlanStatus id input updatedBy now) =
        { w with plans := w.plans.set { p with lifecycle := lifecycle } } := by
  rw [step_updatePlanStatus_eq]
  simp only [updateSupplyActionPlanStatus, bind, Except.bind, pure, Except.pure, Table.update]
  cases hcheck : checkSupplyActionPlanStatus (w.plans.find? id) input with
  | error e => exact .inl rfl
  | ok checked =>
    obtain ⟨status, copy⟩ := checked
    cases hfind : w.plans.find? id with
    | none => exact .inl rfl
    | some p => exact .inr ⟨p, _, rfl, rfl⟩

theorem mem_selectDecisions {input : SupplyActionPlanGenerateInput} {decisions : SupplyDecisions}
    {d : SupplyDecision} (h : d ∈ selectDecisions input decisions) :
    d ∈ decisions.rows ∧ d.review.status = .approved := by
  unfold selectDecisions at h
  rw [List.mem_insertionSort, List.mem_filter] at h
  obtain ⟨hmem, hcond⟩ := h
  simp only [Bool.and_eq_true, decide_eq_true_eq] at hcond
  exact ⟨hmem, hcond.1.1⟩

/-- The record of a decision that was selected: decision ids are unique. -/
theorem notePlans_of_mem {w : SupplyHistory} {input : SupplyActionPlanGenerateInput}
    {d : SupplyDecision} (h : d ∈ selectDecisions input w.decisions) :
    w.notePlans (selectDecisions input w.decisions) d.id = some ⟨d, w.approvedAs d.id⟩ := by
  unfold notePlans
  cases hfind : (selectDecisions input w.decisions).find? fun x => x.id = d.id with
  | none =>
    have hne := List.find?_eq_none.mp hfind d h
    simp at hne
  | some d' =>
    have hid : d'.id = d.id := by simpa using List.find?_some hfind
    have hd' := (mem_selectDecisions (List.mem_of_find?_eq_some hfind)).1
    rw [w.decisions.eq_of_key_eq hd' (mem_selectDecisions h).1 hid]

theorem notePlans_of_not_mem {w : SupplyHistory} {selected : List SupplyDecision} {id : Nat}
    (h : ∀ d ∈ selected, d.id ≠ id) : w.notePlans selected id = w.plannedFrom id := by
  have hnone : (selected.find? fun d => d.id = id) = none := by
    rw [List.find?_eq_none]
    intro d hd
    simpa using h d hd
  simp only [notePlans, hnone]

theorem inv_step (w : SupplyHistory) (e : SupplyEvent) (hw : Inv w) : Inv (step roi w e) := by
  cases e with
  | generateDecisions input profiles forecasts now =>
    rcases step_generateDecisions w input profiles forecasts now with h | h
    · rw [h]
      exact hw
    · rw [h]
      exact ⟨uniqueOn_generatedDecisions hw.uniqueDecisions, hw.uniquePlans, hw.fromApproved⟩
  | reviewDecision id status reviewedBy reviewNote now =>
    rcases step_reviewDecision w id status reviewedBy reviewNote now with
      h | ⟨row, review, hfind, -, h⟩
    · rw [h]
      exact hw
    · rw [h]
      have hself : w.decisions.find? row.id = some row := by
        rw [Table.find?_key hfind]
        exact hfind
      exact ⟨hw.uniqueDecisions.set hself rfl, hw.uniquePlans, hw.fromApproved⟩
  | generatePlans input opportunities now =>
    rcases step_generatePlans w input opportunities now with h | h
    · rw [h]
      exact hw
    · rw [h]
      refine ⟨hw.uniqueDecisions, uniqueOn_generatedPlans hw.uniquePlans, ?_⟩
      intro p hp
      rcases mem_generatedPlans hw.uniquePlans hp with ⟨d, hd, hid, hcontent⟩ | ⟨hmem, hnone⟩
      · refine ⟨⟨d, w.approvedAs d.id⟩, ?_, hid, (mem_selectDecisions hd).2, ?_⟩
        · rw [← hid]
          exact notePlans_of_mem hd
        · rw [hcontent]
          exact buildSupplyActionPlan_terms d _
      · obtain ⟨s, hs, hrest⟩ := hw.fromApproved p hmem
        exact ⟨s, (notePlans_of_not_mem hnone).trans hs, hrest⟩
  | updatePlanStatus id input updatedBy now =>
    rcases step_updatePlanStatus w id input updatedBy now with
      h | ⟨p, lifecycle, hfind, h⟩
    · rw [h]
      exact hw
    · rw [h]
      have hself : w.plans.find? p.id = some p := by
        rw [Table.find?_key hfind]
        exact hfind
      refine ⟨hw.uniqueDecisions, hw.uniquePlans.set hself rfl, ?_⟩
      intro q hq
      rcases Table.mem_set hq with rfl | ⟨hmem, -⟩
      · exact hw.fromApproved p (Table.find?_mem hfind)
      · exact hw.fromApproved q hmem

/-- While generations rebuild approved decisions alike, what was approved stays. -/
theorem asApproved_step (w : SupplyHistory) (e : SupplyEvent) (hw : Inv w ∧ AsApproved w)
    (halike : RebuildsAlike roi w e) : AsApproved (step roi w e) := by
  obtain ⟨hinv, happ⟩ := hw
  cases e with
  | generateDecisions input profiles forecasts now =>
    rcases step_generateDecisions w input profiles forecasts now with h | h
    · rw [h]
      exact happ
    · rw [h]
      refine ⟨?_, happ.plans⟩
      intro d hd hstatus
      rcases mem_generatedDecisions hinv.uniqueDecisions hd with
        ⟨d₀, hd₀, hid, hkey, hreview, hcontent⟩ | hdraft
      · have hstatus₀ : d₀.review.status = .approved := hreview ▸ hstatus
        have hsame : d.content = d₀.content := by
          rcases hcontent with hcontent | hbuilt
          · exact hcontent
          · exact halike _ hbuilt d₀ hd₀ hstatus₀ hkey.symm
        show w.approvedAs d.id = some d.content
        rw [hid, hsame]
        exact happ.decisions d₀ hd₀ hstatus₀
      · rw [hdraft] at hstatus
        cases hstatus
  | reviewDecision id status reviewedBy reviewNote now =>
    rcases step_reviewDecision w id status reviewedBy reviewNote now with
      h | ⟨row, review, hfind, hreview, h⟩
    · rw [h]
      exact happ
    · rw [h]
      refine ⟨?_, happ.plans⟩
      have hrow : row.id = id := Table.find?_key hfind
      intro d hd hstatus
      show w.noteReview id status d.id = some d.content
      unfold noteReview
      rcases Table.mem_set hd with rfl | ⟨hmem, hne⟩
      · rw [if_pos (hreview.symm.trans hstatus)]
        show Function.update w.approvedAs id _ row.id = some row.content
        rw [hrow, Function.update_self, hfind]
        rfl
      · have hid : d.id ≠ id := fun hc => hne (hc.trans hrow.symm)
        split
        · rw [Function.update_of_ne hid]
          exact happ.decisions d hmem hstatus
        · exact happ.decisions d hmem hstatus
  | generatePlans input opportunities now =>
    rcases step_generatePlans w input opportunities now with h | h
    · rw [h]
      exact happ
    · rw [h]
      refine ⟨happ.decisions, ?_⟩
      intro id s hs
      change w.notePlans (selectDecisions input w.decisions) id = some s at hs
      unfold notePlans at hs
      split at hs
      · next d hfind =>
        have hd := mem_selectDecisions (List.mem_of_find?_eq_some hfind)
        have hid : d.id = id := by simpa using List.find?_some hfind
        cases hs
        rw [← hid]
        exact happ.decisions d hd.1 hd.2
      · exact happ.plans id s hs
  | updatePlanStatus id input updatedBy now =>
    rcases step_updatePlanStatus w id input updatedBy now with
      h | ⟨p, lifecycle, -, h⟩
    · rw [h]
      exact happ
    · rw [h]
      exact ⟨happ.decisions, happ.plans⟩

theorem plansAsApproved_of {w : SupplyHistory} (hinv : Inv w) (happ : AsApproved w) :
    w.PlansAsApproved := by
  intro p hp _
  obtain ⟨s, hs, -, -, hterms⟩ := hinv.fromApproved p hp
  rw [approvedTerms, hs, Option.bind_some, happ.plans _ s hs, hterms]
  rfl

theorem regeneration_keeps_review (w : SupplyHistory) (e : SupplyEvent) (hw : Inv w) :
    KeepsReviews roi w e := by
  cases e with
  | generateDecisions input profiles forecasts now =>
    intro d hd
    rcases step_generateDecisions w input profiles forecasts now with h | h
    · rw [h]
      exact ⟨d, hd, rfl, rfl, rfl, .inl rfl⟩
    · rw [h]
      exact generatedDecisions_keep hw.uniqueDecisions hd
  | generatePlans input opportunities now =>
    intro p hp
    rcases step_generatePlans w input opportunities now with h | h
    · rw [h]
      exact ⟨p, hp, rfl, rfl, rfl, .inl rfl⟩
    · rw [h]
      exact generatedPlans_keep hw.uniquePlans hp
  | reviewDecision id status reviewedBy reviewNote now => trivial
  | updatePlanStatus id input updatedBy now => trivial

/-! ## Whole runs -/

/-- Demand above the headroom, then a profitable slice with a good cache. -/
def shortProfile : TrafficProfile :=
  { id := 1, sliceKey := "s", modelName := "gpt", periodStart := 1, periodEnd := 2,
    demandTokens := 40, peakTokens := 50, supplyHeadroomTokens := 20 }

@[inherit_doc shortProfile]
def cachedProfile : TrafficProfile :=
  { shortProfile with supplyHeadroomTokens := 60, cacheHitRate := 3 / 4, grossProfitQuota := 9 }

end SupplyHistory

end TokenRouter
