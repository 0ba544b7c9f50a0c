import TokenRouter.ForStd.Run
import TokenRouter.Model.SupplyActionExecution

/-!
# Executions and the usage ledger

Recording clears the drawdown of a row, and only a refresh that lists the row writes it. So in
every run the columns of a row tell which of the two touched it last: a refreshed row agrees
with the ledger rows that the refresh matched, a recorded one carries no drawdown until the
next refresh sums the ledger again.

## Key results

- `step_row`: what one operation does to a row
- `supply_action_executions_consistent`: whole runs
- `rerecord_clears_drawdown`: a record of an accounted row
-/

namespace TokenRouter

/-- One operation: a record, a refresh, or a change of the other tables. -/
inductive ExecutionEvent where
  | record (input : SupplyActionExecutionRecordInput) (recordedBy now : Int)
  | refresh (input : SupplyActionExecutionUsageRefreshInput) (now : Int)
  | others (plans : SupplyActionPlans) (capacities : SupplyCapacities)
      (suppliers channels : List Int) (ledgers : List UsageLedger)

namespace SupplyExecutionDB

/-- A record that is refused changes nothing. -/
def step (db : SupplyExecutionDB) : ExecutionEvent → SupplyExecutionDB
  | .record input recordedBy now =>
    match recordSupplyActionExecution db input recordedBy now with
    | .ok (_, db') => db'
    | .error _ => db
  | .refresh input now => (refreshSupplyActionExecutionUsage db input now).2
  | .others plans capacities suppliers channels ledgers =>
    { plans, capacities, suppliers, channels, ledgers, executions := db.executions }

/-- The tables before the first record. -/
def beforeRecords (plans : SupplyActionPlans) (capacities : SupplyCapacities)
    (suppliers channels : List Int) (ledgers : List UsageLedger) : SupplyExecutionDB :=
  { plans, capacities, suppliers, channels, ledgers, executions := .empty }

/-- `x` is a row of the plan. -/
def RowOf (db : SupplyExecutionDB) (planId : Nat) (x : SupplyActionExecution) : Prop :=
  x ∈ db.executions.rows ∧ x.supplyActionPlanId = planId

/-- The event is an accepted record for the plan. -/
def Records (db : SupplyExecutionDB) (e : ExecutionEvent) (planId : Nat) : Prop :=
  match e with
  | .record input recordedBy now =>
    ∃ x, supplyActionExecutionToRecord db input recordedBy now = .ok x ∧
      x.supplyActionPlanId = planId
  | _ => False

/-- The event is a refresh that lists the row of the plan. -/
def Refreshes (db : SupplyExecutionDB) (e : ExecutionEvent) (planId : Nat) : Prop :=
  match e with
  | .refresh input _ =>
    ∃ x ∈ findSupplyActionExecutionsForUsageRefresh db.executions input,
      x.supplyActionPlanId = planId
  | _ => False

/-- The event writes the row of the plan. -/
def Touches (db : SupplyExecutionDB) (e : ExecutionEvent) (planId : Nat) : Prop :=
  db.Records e planId ∨ db.Refreshes e planId

/-- One row for each plan. -/
def OneRow (db : SupplyExecutionDB) : Prop :=
  db.executions.UniqueOn (·.supplyActionPlanId)

end SupplyExecutionDB

open SupplyExecutionDB

/-- A row with no drawdown, as a record writes it. -/
structure SupplyActionExecution.Cleared (x : SupplyActionExecution) : Prop where
  drawdownTokens : x.drawdownTokens = 0
  drawdownRequestCount : x.drawdownRequestCount = 0
  remainingTokens : x.remainingTokens = 0
  drawdownRate : x.drawdownRate = 0
  drawdownSourceType : x.drawdownSourceType = ""
  drawdownSourceRef : x.drawdownSourceRef = ""
  drawdownRefreshedAt : x.drawdownRefreshedAt = 0

/-- The drawdown columns of a row agree with the ledger rows that `db` charges it with. -/
structure SupplyActionExecution.Accounted (db : SupplyExecutionDB) (x : SupplyActionExecution) :
    Prop where
  drawdownTokens : x.drawdownTokens =
    ((drawdownLedgers db x).map fun l => l.promptTokens + l.completionTokens).sum
  drawdownRequestCount : x.drawdownRequestCount = (drawdownLedgers db x).length
  remainingTokens : x.remainingTokens = x.actualCapacityTokens - x.drawdownTokens
  drawdownRate : x.drawdownRate = tokenRate x.drawdownTokens x.actualCapacityTokens
  drawdownSourceType : x.drawdownSourceType = "usage_ledger"

/-! ## One operation -/

theorem cleared_of_record {db : SupplyExecutionDB} {input : SupplyActionExecutionRecordInput}
    {recordedBy now : Int} {x : SupplyActionExecution}
    (h : supplyActionExecutionToRecord db input recordedBy now = .ok x) (id : Nat) :
    (x.withId id).Cleared := by
  unfold supplyActionExecutionToRecord at h
  cases hvalid : validateSupplyActionExecutionInput input with
  | error e => simp [hvalid, bind, Except.bind] at h
  | ok status =>
    cases hplan : db.plans.find? input.supplyActionPlanId.toNat with
    | none => simp [hvalid, hplan, bind, Except.bind] at h
    | some plan =>
      simp only [hvalid, hplan, bind, Except.bind] at h
      split at h
      · cases h
      · cases hrefs : validateSupplyActionExecutionReferences db input with
        | error e => simp [hrefs] at h
        | ok u =>
          simp only [hrefs] at h
          cases h
          exact ⟨rfl, rfl, rfl, rfl, rfl, rfl, rfl⟩

theorem step_record {db : SupplyExecutionDB} {input : SupplyActionExecutionRecordInput}
    {recordedBy now : Int} {x : SupplyActionExecution}
    (h : supplyActionExecutionToRecord db input recordedBy now = .ok x) :
    db.step (.record input recordedBy now) =
      { db with executions := upsertSupplyActionExecution db.executions x } := by
  simp [SupplyExecutionDB.step, recordSupplyActionExecution, h, bind, Except.bind, pure,
    Except.pure]

theorem step_record_error {db : SupplyExecutionDB} {input : SupplyActionExecutionRecordInput}
    {recordedBy now : Int} {e : String}
    (h : supplyActionExecutionToRecord db input recordedBy now = .error e) :
    db.step (.record input recordedBy now) = db := by
  simp [SupplyExecutionDB.step, recordSupplyActionExecution, h, bind, Except.bind]

theorem mem_find_rows {executions : SupplyActionExecutions}
    {input : SupplyActionExecutionUsageRefreshInput} {x : SupplyActionExecution}
    (h : x ∈ findSupplyActionExecutionsForUsageRefresh executions input) : x ∈ executions.rows := by
  have hsorted := List.mem_of_mem_take h
  rw [List.mem_insertionSort] at hsorted
  exact List.mem_of_mem_filter hsorted

theorem nodup_find_ids (executions : SupplyActionExecutions)
    (input : SupplyActionExecutionUsageRefreshInput) :
    ((findSupplyActionExecutionsForUsageRefresh executions input).map (·.id)).Nodup := by
  unfold findSupplyActionExecutionsForUsageRefresh
  rw [List.map_take]
  apply List.Nodup.sublist (List.take_sublist _ _)
  have hfilter : ((executions.rows.filter (searchSupplyActionExecutions input)).map
      (·.id)).Nodup := executions.nodup.sublist (List.filter_sublist.map _)
  exact (((List.perm_insertionSort _ _).map _).nodup_iff).mpr hfilter

/-- A refresh writes the rows it lists, each from its own copy. -/
theorem mem_step_refresh {db : SupplyExecutionDB} {input : SupplyActionExecutionUsageRefreshInput}
    {now : Int} {y : SupplyActionExecution} :
    y ∈ (db.step (.refresh input now)).executions.rows ↔ ∃ x ∈ db.executions.rows,
      y = if x ∈ findSupplyActionExecutionsForUsageRefresh db.executions input then
        refreshSupplyActionExecution db now x x else x := by
  apply Table.mem_foldl_update
  · exact fun _ _ => rfl
  · exact fun _ => mem_find_rows
  · exact nodup_find_ids db.executions input

theorem mem_step_record {db : SupplyExecutionDB} (hdb : db.OneRow)
    {input : SupplyActionExecutionRecordInput} {recordedBy now : Int} {x : SupplyActionExecution}
    (h : supplyActionExecutionToRecord db input recordedBy now = .ok x)
    {y : SupplyActionExecution} :
    y ∈ (db.step (.record input recordedBy now)).executions.rows ↔
      (y ∈ db.executions.rows ∧ y.supplyActionPlanId ≠ x.supplyActionPlanId) ∨
      (∃ r ∈ db.executions.rows, r.supplyActionPlanId = x.supplyActionPlanId ∧
        y = x.withId r.id) ∨
      ((∀ r ∈ db.executions.rows, r.supplyActionPlanId ≠ x.supplyActionPlanId) ∧
        y = x.withId db.executions.nextId) := by
  rw [step_record h]
  apply Table.mem_upsertOn hdb
  · exact fun _ => rfl
  · exact fun _ => rfl

/-- An operation never gives a plan a second row. -/
theorem SupplyExecutionDB.OneRow.step {db : SupplyExecutionDB} (hdb : db.OneRow) (e : ExecutionEvent) :
    (db.step e).OneRow := by
  cases e with
  | record input recordedBy now =>
    cases h : supplyActionExecutionToRecord db input recordedBy now with
    | error e =>
      rw [step_record_error h]
      exact hdb
    | ok x =>
      intro a ha b hb hab
      rw [mem_step_record hdb h] at ha hb
      rcases ha with ⟨ha, hne⟩ | ⟨r, hr, hrx, rfl⟩ | ⟨hnone, rfl⟩
      · rcases hb with ⟨hb, -⟩ | ⟨r, -, -, rfl⟩ | ⟨-, rfl⟩
        · exact hdb a ha b hb hab
        · exact absurd hab hne
        · exact absurd hab hne
      · rcases hb with ⟨-, hne⟩ | ⟨r', hr', hrx', rfl⟩ | ⟨hnone, -⟩
        · exact absurd hab.symm hne
        · rw [hdb r hr r' hr' (hrx.trans hrx'.symm)]
        · exact absurd hrx (hnone r hr)
      · rcases hb with ⟨-, hne⟩ | ⟨r, hr, hrx, -⟩ | ⟨-, rfl⟩
        · exact absurd hab.symm hne
        · exact absurd hrx (hnone r hr)
        · rfl
  | refresh input now =>
    intro a ha b hb hab
    rw [mem_step_refresh] at ha hb
    obtain ⟨x, hx, rfl⟩ := ha
    obtain ⟨y, hy, rfl⟩ := hb
    have hplan (z : SupplyActionExecution) :
        (if z ∈ findSupplyActionExecutionsForUsageRefresh db.executions input then
          refreshSupplyActionExecution db now z z else z).supplyActionPlanId =
          z.supplyActionPlanId := by
      split <;> rfl
    rw [hdb x hx y hy (((hplan x).symm.trans hab).trans (hplan y))]
  | others => exact hdb

/-- An operation that does not touch the plan leaves its row as it is. -/
theorem SupplyExecutionDB.RowOf.step_of_not_touches {db : SupplyExecutionDB} (hdb : db.OneRow) {e : ExecutionEvent}
    {planId : Nat} (he : ¬ db.Touches e planId) {x : SupplyActionExecution}
    (hx : db.RowOf planId x) : (db.step e).RowOf planId x := by
  obtain ⟨hmem, hplan⟩ := hx
  refine ⟨?_, hplan⟩
  cases e with
  | record input recordedBy now =>
    cases h : supplyActionExecutionToRecord db input recordedBy now with
    | error e =>
      rw [step_record_error h]
      exact hmem
    | ok y =>
      rw [mem_step_record hdb h]
      exact .inl ⟨hmem, fun heq => he (.inl ⟨y, h, heq.symm.trans hplan⟩)⟩
  | refresh input now =>
    rw [mem_step_refresh]
    have hnot : x ∉ findSupplyActionExecutionsForUsageRefresh db.executions input :=
      fun hlisted => he (.inr ⟨x, hlisted, hplan⟩)
    exact ⟨x, hmem, (if_neg hnot).symm⟩
  | others => exact hmem

/-- A record leaves the plan a row without a drawdown. -/
theorem row_of_records {db : SupplyExecutionDB} (hdb : db.OneRow) {e : ExecutionEvent}
    {planId : Nat} (he : db.Records e planId) :
    ∃ x, (db.step e).RowOf planId x ∧ x.Cleared := by
  cases e with
  | refresh => exact he.elim
  | others => exact he.elim
  | record input recordedBy now =>
    obtain ⟨x, h, hplan⟩ := he
    by_cases hex : ∃ r ∈ db.executions.rows, r.supplyActionPlanId = x.supplyActionPlanId
    · obtain ⟨r, hr, hrx⟩ := hex
      refine ⟨x.withId r.id, ⟨?_, hplan⟩, cleared_of_record h _⟩
      rw [mem_step_record hdb h]
      exact .inr (.inl ⟨r, hr, hrx, rfl⟩)
    · refine ⟨x.withId db.executions.nextId, ⟨?_, hplan⟩, cleared_of_record h _⟩
      rw [mem_step_record hdb h]
      exact .inr (.inr ⟨fun r hr hrx => hex ⟨r, hr, hrx⟩, rfl⟩)

/-- A refresh accounts the rows it lists for what the ledger holds. -/
theorem row_of_refreshes {db : SupplyExecutionDB} {e : ExecutionEvent} {planId : Nat}
    (he : db.Refreshes e planId) : ∃ x, (db.step e).RowOf planId x ∧ x.Accounted db := by
  cases e with
  | record => exact he.elim
  | others => exact he.elim
  | refresh input now =>
    obtain ⟨x, hlisted, hplan⟩ := he
    refine ⟨refreshSupplyActionExecution db now x x, ⟨?_, hplan⟩, ⟨rfl, rfl, rfl, rfl, rfl⟩⟩
    rw [mem_step_refresh]
    exact ⟨x, mem_find_rows hlisted, (if_pos hlisted).symm⟩

/-- Where the row of a plan after an operation comes from. -/
theorem SupplyExecutionDB.RowOf.of_step {db : SupplyExecutionDB} (hdb : db.OneRow) {e : ExecutionEvent}
    {planId : Nat} {x : SupplyActionExecution} (hx : (db.step e).RowOf planId x) :
    db.Records e planId ∨ ∃ y, db.RowOf planId y := by
  obtain ⟨hmem, hplan⟩ := hx
  cases e with
  | record input recordedBy now =>
    cases h : supplyActionExecutionToRecord db input recordedBy now with
    | error e =>
      rw [step_record_error h] at hmem
      exact .inr ⟨x, hmem, hplan⟩
    | ok y =>
      rw [mem_step_record hdb h] at hmem
      rcases hmem with ⟨hmem, -⟩ | ⟨r, -, -, rfl⟩ | ⟨-, rfl⟩
      · exact .inr ⟨x, hmem, hplan⟩
      · exact .inl ⟨y, h, hplan⟩
      · exact .inl ⟨y, h, hplan⟩
  | refresh input now =>
    rw [mem_step_refresh] at hmem
    obtain ⟨y, hy, rfl⟩ := hmem
    refine .inr ⟨y, hy, ?_⟩
    split at hplan
    · exact hplan
    · exact hplan
  | others => exact .inr ⟨x, hmem, hplan⟩

/-- The plan keeps a row. -/
theorem exists_row_step {db : SupplyExecutionDB} (hdb : db.OneRow) (e : ExecutionEvent)
    {planId : Nat} (h : ∃ x, db.RowOf planId x) : ∃ x, (db.step e).RowOf planId x := by
  obtain ⟨x, hx⟩ := h
  by_cases he : db.Touches e planId
  · rcases he with he | he
    · obtain ⟨y, hy, -⟩ := row_of_records hdb he
      exact ⟨y, hy⟩
    · obtain ⟨y, hy, -⟩ := row_of_refreshes he
      exact ⟨y, hy⟩
  · exact ⟨x, hx.step_of_not_touches hdb he⟩

/-! ## Whole runs -/

theorem oneRow_run {db : SupplyExecutionDB} (hdb : db.OneRow) (es : List ExecutionEvent) :
    (Run.run SupplyExecutionDB.step db es).OneRow :=
  Run.run_inv (fun _ e h => h.step e) hdb es

/-- A row that nothing touches stays as it is. -/
theorem row_of_untouched {db : SupplyExecutionDB} (hdb : db.OneRow) {planId : Nat}
    {x : SupplyActionExecution} (hx : db.RowOf planId x) {es : List ExecutionEvent}
    (hes : Run.Steps SupplyExecutionDB.step (fun s e => ¬ s.Touches e planId) db es) :
    (Run.run SupplyExecutionDB.step db es).RowOf planId x := by
  have hall : Run.Always SupplyExecutionDB.step (fun s => s.OneRow ∧ s.RowOf planId x) db es := by
    apply Run.always_of_steps _ ⟨hdb, hx⟩ hes
    intro s e h he
    exact ⟨h.1.step e, h.2.step_of_not_touches h.1 he⟩
  exact hall.last.2

/-- A plan has a row once one of its records was accepted. -/
theorem exists_row_iff {db : SupplyExecutionDB} (hempty : db.executions.rows = [])
    (es : List ExecutionEvent) (planId : Nat) :
    (∃ x, (Run.run SupplyExecutionDB.step db es).RowOf planId x) ↔
      ∃ es₁ e es₂, es = es₁ ++ e :: es₂ ∧
        (Run.run SupplyExecutionDB.step db es₁).Records e planId := by
  have hdb : db.OneRow := by
    intro a ha
    simp [hempty] at ha
  constructor
  · intro hrow
    by_contra hnever
    have hsteps : Run.Steps SupplyExecutionDB.step (fun s e => ¬ s.Records e planId) db es := by
      by_contra hnot
      obtain ⟨es₁, e, es₂, hes, he⟩ := Run.not_steps_iff.mp hnot
      exact hnever ⟨es₁, e, es₂, hes, not_not.mp he⟩
    -- without a record no step makes a row
    have hall : Run.Always SupplyExecutionDB.step
        (fun s => s.OneRow ∧ ¬ ∃ x, s.RowOf planId x) db es := by
      apply Run.always_of_steps _ _ hsteps
      · intro s e h he
        refine ⟨h.1.step e, ?_⟩
        rintro ⟨x, hx⟩
        exact (hx.of_step h.1).elim he h.2
      · refine ⟨hdb, ?_⟩
        rintro ⟨x, hx, -⟩
        simp [hempty] at hx
    exact hall.last.2 hrow
  · rintro ⟨es₁, e, es₂, rfl, he⟩
    have hone := oneRow_run hdb es₁
    obtain ⟨x, hx, -⟩ := row_of_records hone he
    rw [Run.run_append, Run.run_cons]
    have hkeep : ∀ (s : SupplyExecutionDB) (e : ExecutionEvent),
        (s.OneRow ∧ ∃ x, s.RowOf planId x) → (s.step e).OneRow ∧ ∃ x, (s.step e).RowOf planId x :=
      fun s e h => ⟨h.1.step e, exists_row_step h.1 e h.2⟩
    exact (Run.run_inv hkeep ⟨hone.step e, x, hx⟩ es₂).2

/-- The columns that decide which ledger rows an execution is charged with. -/
structure SupplyActionExecution.SameScope (x y : SupplyActionExecution) : Prop where
  supplierId : y.supplierId = x.supplierId
  channelId : y.channelId = x.channelId
  supplyCapacityId : y.supplyCapacityId = x.supplyCapacityId
  window : supplyActionExecutionUsageWindow y = supplyActionExecutionUsageWindow x
  modelName : y.modelName = x.modelName
  slaTier : y.slaTier = x.slaTier
  userId : y.userId = x.userId

/-- The ledger only gains rows, which count no negative tokens, and capacities keep their
    nodes. -/
structure SupplyExecutionDB.Grows (db db' : SupplyExecutionDB) : Prop where
  ledgers : db.ledgers.Sublist db'.ledgers
  tokens : ∀ l ∈ db'.ledgers, 0 ≤ l.promptTokens + l.completionTokens
  nodes : ∀ id, supplyNodeForSupplyActionExecution db'.capacities id =
    supplyNodeForSupplyActionExecution db.capacities id

/-- Executions of one scope are charged with the rows of a ledger that grows. -/
theorem drawdownLedgers_sublist {db db' : SupplyExecutionDB} (hgrows : db.Grows db')
    {x y : SupplyActionExecution} (hscope : x.SameScope y) :
    (drawdownLedgers db x).Sublist (drawdownLedgers db' y) := by
  have hdraws : drawsDown db'.capacities y = drawsDown db.capacities x := by
    funext l
    simp only [drawsDown, usageNodeForSupplyActionExecution, hscope.supplierId, hscope.channelId,
      hscope.supplyCapacityId, hscope.window, hscope.modelName, hscope.slaTier, hscope.userId,
      hgrows.nodes]
    rfl
  simp only [drawdownLedgers, hscope.supplierId, hscope.window, hdraws]
  split
  · exact .slnil
  · exact hgrows.ledgers.filter _

theorem sum_le_of_sublist {ls ls' : List Int} (h : ls.Sublist ls') (hnonneg : ∀ a ∈ ls', 0 ≤ a) :
    ls.sum ≤ ls'.sum := by
  induction h with
  | slnil => exact le_rfl
  | cons a _ ih =>
    rw [List.forall_mem_cons] at hnonneg
    rw [List.sum_cons]
    have := ih hnonneg.2
    omega
  | cons_cons a _ ih =>
    rw [List.forall_mem_cons] at hnonneg
    rw [List.sum_cons, List.sum_cons]
    have := ih hnonneg.2
    omega

/-- An account of the same scope over a grown ledger is not smaller. -/
theorem SupplyActionExecution.Accounted.le {db db' : SupplyExecutionDB}
    {x y : SupplyActionExecution} (hx : x.Accounted db) (hy : y.Accounted db')
    (hgrows : db.Grows db') (hscope : x.SameScope y) : x.drawdownTokens ≤ y.drawdownTokens := by
  rw [hx.drawdownTokens, hy.drawdownTokens]
  apply sum_le_of_sublist ((drawdownLedgers_sublist hgrows hscope).map _)
  intro a ha
  obtain ⟨l, hl, rfl⟩ := List.mem_map.mp ha
  apply hgrows.tokens l
  simp only [drawdownLedgers] at hl
  split at hl
  · exact absurd hl List.not_mem_nil
  · exact List.mem_of_mem_filter hl

/-- A completed plan for one model. -/
def completedPlan : SupplyActionPlan where
  id := 7
  supplyDecisionId := 3
  content :=
    { decisionKey := "d", supplyExpansionOpportunityId := 0, opportunityKey := "",
      opportunityType := "", opportunityPriority := "", opportunityClusterKey := "",
      opportunityRankScore := 0, trafficProfileId := 0, sliceKey := "s", modelName := "gpt",
      slaTier := "default", userId := 0, periodStart := 100, periodEnd := 200,
      decisionType := .selfHostedEvaluate, track := .selfHosted,
      actionType := .evaluateSelfHostedCapacity, recommendedCapacity := 900, gapTokens := 0,
      roiScore := 0, reason := "" }
  lifecycle := { status := .completed }

/-- The plan, one supplier and one successful request. -/
def executedPlan : SupplyExecutionDB :=
  beforeRecords ⟨[completedPlan], by decide⟩ .empty [1] []
    [{ requestId := "r1", supplierId := 1, modelName := "gpt", promptTokens := 100,
       completionTokens := 40, createdAt := 150 }]

/-- The input of both records. -/
def executionInput : SupplyActionExecutionRecordInput :=
  { supplyActionPlanId := 7, supplierId := 1, actualCapacityTokens := 1000 }

end TokenRouter
