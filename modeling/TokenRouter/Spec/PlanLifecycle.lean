import TokenRouter.Model.SupplyActionPlan
import TokenRouter.ForStd.Run

/-!
# The lifecycle of an action plan under concurrent updates

`UpdateSupplyActionPlanStatus` checks the transition on a copy of the plan and then writes
the row by its id. `PlanRace` interleaves the reads and writes of any number of such calls
on one plan. What the lifecycle promises holds exactly as long as no write finds that the
plan has left the status its call has checked for one that does not lead to the target.

## Key results

- `canTransition_trans`: the allowed transitions compose
- `writeCurrent_iff_allowed`: which stale writes are harmless
- `lifecycle_kept_iff_writes_current`: the equivalence over every interleaving
- `two_operators_close_twice`: a plan is completed and then cancelled
-/

namespace TokenRouter

/-! ## The transition table -/

/-- `completed` and `cancelled`. -/
def SupplyActionPlanStatus.isClosed : SupplyActionPlanStatus → Bool
  | .completed => true
  | .cancelled => true
  | _ => false

theorem canTransition_refl (s : SupplyActionPlanStatus) :
    canTransitionSupplyActionPlanStatus s s = true := by
  simp [canTransitionSupplyActionPlanStatus]

theorem canTransition_trans {a b c : SupplyActionPlanStatus}
    (hab : canTransitionSupplyActionPlanStatus a b = true)
    (hbc : canTransitionSupplyActionPlanStatus b c = true) :
    canTransitionSupplyActionPlanStatus a c = true := by
  revert hab hbc
  cases a <;> cases b <;> cases c <;> decide

/-- A closed plan has no way out. -/
theorem eq_of_canTransition_closed {a b : SupplyActionPlanStatus} (ha : a.isClosed = true)
    (h : canTransitionSupplyActionPlanStatus a b = true) : b = a := by
  revert ha h
  cases a <;> cases b <;> decide

/-! ## Interleaved calls -/

/-- A call that has passed its check and has not written yet. -/
structure PendingPlanUpdate where
  target : SupplyActionPlanStatus
  copy : SupplyActionPlanLifecycle
  operatorNote : String
  updatedBy : Int

/-- The stored plan and the calls under way, by call number. -/
structure PlanRace where
  plan : SupplyActionPlan
  pending : Nat → Option PendingPlanUpdate := fun _ => none

/-- The steps of `UpdateSupplyActionPlanStatus` calls. -/
inductive PlanEvent where
  /-- `DB.First` and the check -/
  | read (call : Nat) (input : SupplyActionPlanStatusInput) (updatedBy : Int)
  /-- `DB.Model(&plan).Updates` -/
  | write (call : Nat) (now : Timestamp)
  /-- the write fails, or the process is killed -/
  | stop (call : Nat)

namespace PlanRace

/-- The status in the database. -/
def status (w : PlanRace) : SupplyActionPlanStatus := w.plan.lifecycle.status

/-- What a call keeps between its read and its write. -/
def readPlan (plan : SupplyActionPlan) (input : SupplyActionPlanStatusInput) (updatedBy : Int) :
    Option PendingPlanUpdate :=
  match checkSupplyActionPlanStatus (some plan) input with
  | .error _ => none
  | .ok (target, copy) =>
    some
      { target := target
        copy := copy
        operatorNote := input.operatorNote
        updatedBy := updatedBy }

/-- The plan after the write of a call. -/
def writePlan (plan : SupplyActionPlan) (u : PendingPlanUpdate) (now : Timestamp) :
    SupplyActionPlan :=
  { plan with
    lifecycle := updateSupplyActionPlanLifecycle u.target u.copy plan.lifecycle u.operatorNote
      u.updatedBy now }

/-- One step. -/
def step (w : PlanRace) : PlanEvent → PlanRace
  | .read call input updatedBy =>
    { w with pending := Function.update w.pending call (readPlan w.plan input updatedBy) }
  | .write call now =>
    match w.pending call with
    | none => w
    | some u =>
      { plan := writePlan w.plan u now, pending := Function.update w.pending call none }
  | .stop call => { w with pending := Function.update w.pending call none }

/-- A plan as `GenerateSupplyActionPlans` inserts it, before any call. -/
def start (id supplyDecisionId : Nat) (content : SupplyActionPlanContent) : PlanRace :=
  { plan := { id := id, supplyDecisionId := supplyDecisionId, content := content } }

/-! ## What one step does -/

@[simp] theorem writePlan_status (plan : SupplyActionPlan) (u : PendingPlanUpdate)
    (now : Timestamp) : (writePlan plan u now).lifecycle.status = u.target := by
  unfold writePlan updateSupplyActionPlanLifecycle
  dsimp only
  cases u.target with
  | planned => rfl
  | inProgress => by_cases h : u.copy.startedAt = 0 <;> simp [h]
  | completed => by_cases h : u.copy.startedAt = 0 <;> simp [h]
  | cancelled => rfl

/-- A write sets the closing time of its own target only. -/
theorem writePlan_closing (plan : SupplyActionPlan) (u : PendingPlanUpdate) (now : Timestamp) :
    ((writePlan plan u now).lifecycle.completedAt ≠ plan.lifecycle.completedAt →
      u.target = .completed) ∧
    ((writePlan plan u now).lifecycle.cancelledAt ≠ plan.lifecycle.cancelledAt →
      u.target = .cancelled) := by
  unfold writePlan updateSupplyActionPlanLifecycle
  dsimp only
  cases u.target with
  | planned => simp
  | inProgress => by_cases h : u.copy.startedAt = 0 <;> simp [h]
  | completed => by_cases h : u.copy.startedAt = 0 <;> simp [h]
  | cancelled => simp

/-- A call that passes its check may go from the status it has read to its target. -/
theorem readPlan_some {plan : SupplyActionPlan} {input : SupplyActionPlanStatusInput}
    {updatedBy : Int} {u : PendingPlanUpdate} (h : readPlan plan input updatedBy = some u) :
    u.copy = plan.lifecycle ∧
      canTransitionSupplyActionPlanStatus plan.lifecycle.status u.target = true := by
  unfold readPlan checkSupplyActionPlanStatus at h
  cases hs : normalizeSupplyActionPlanStatus input.status with
  | none =>
    rw [hs] at h
    cases h
  | some target =>
    rw [hs] at h
    dsimp only at h
    by_cases hc : canTransitionSupplyActionPlanStatus plan.lifecycle.status target = true
    · rw [if_pos hc] at h
      cases h
      exact ⟨rfl, hc⟩
    · rw [if_neg hc] at h
      cases h

/-! ## The claim and the condition -/

/-- The stored status changes along an allowed transition. -/
def Allowed (w : PlanRace) (e : PlanEvent) : Prop :=
  canTransitionSupplyActionPlanStatus w.status (step w e).status = true

/-- At most one of the two closing times is set. -/
def ClosedOnce (w : PlanRace) : Prop :=
  w.plan.lifecycle.completedAt = 0 ∨ w.plan.lifecycle.cancelledAt = 0

/-- What a run keeps: every change of the status is allowed, a closed plan keeps its status
    to the end, and at most one closing time is set. -/
structure LifecycleKept (w : PlanRace) (es : List PlanEvent) : Prop where
  allowed : Run.Steps step Allowed w es
  closedStays : ∀ es₁ es₂, es = es₁ ++ es₂ → (Run.run step w es₁).status.isClosed = true →
    (Run.run step w es).status = (Run.run step w es₁).status
  closedOnce : Run.Always step ClosedOnce w es

/-- A write finds the plan in the status that its call has read, or already in its target,
    or started since by another call and is not about to put it back to `planned`. -/
def WriteCurrent (w : PlanRace) : PlanEvent → Prop
  | .write call _ => ∀ u, w.pending call = some u →
      w.status = u.copy.status ∨ w.status = u.target ∨
        (w.status = .inProgress ∧ u.target ≠ .planned)
  | _ => True

/-! ## The invariant -/

/-- Every call under way may still reach its target from the status it has read, and the
    stored status can be reached from there too; closing times go with their status. -/
structure Inv (w : PlanRace) : Prop where
  target : ∀ call u, w.pending call = some u →
    canTransitionSupplyActionPlanStatus u.copy.status u.target = true
  stored : ∀ call u, w.pending call = some u →
    canTransitionSupplyActionPlanStatus u.copy.status w.status = true
  completed : w.plan.lifecycle.completedAt ≠ 0 → w.status = .completed
  cancelled : w.plan.lifecycle.cancelledAt ≠ 0 → w.status = .cancelled

theorem inv_start (id supplyDecisionId : Nat) (content : SupplyActionPlanContent) :
    Inv (start id supplyDecisionId content) where
  target := fun _ _ h => by cases h
  stored := fun _ _ h => by cases h
  completed := fun h => absurd rfl h
  cancelled := fun h => absurd rfl h

/-- The calls under way after one of them is set aside. -/
theorem pending_update_none {pending : Nat → Option PendingPlanUpdate} {call call' : Nat}
    {u : PendingPlanUpdate} (h : Function.update pending call none call' = some u) :
    pending call' = some u := by
  by_cases hc : call' = call
  · subst hc
    rw [Function.update_self] at h
    cases h
  · rwa [Function.update_of_ne hc] at h

theorem inv_read {w : PlanRace} (hw : Inv w) (call : Nat) (input : SupplyActionPlanStatusInput)
    (updatedBy : Int) : Inv (step w (.read call input updatedBy)) := by
  have hpending : ∀ call' u, (step w (.read call input updatedBy)).pending call' = some u →
      w.pending call' = some u ∨ readPlan w.plan input updatedBy = some u := by
    intro call' u h
    by_cases hc : call' = call
    · subst hc
      rw [show (step w (.read call' input updatedBy)).pending call' =
        readPlan w.plan input updatedBy from Function.update_self ..] at h
      exact .inr h
    · rw [show (step w (.read call input updatedBy)).pending call' = w.pending call' from
        Function.update_of_ne hc ..] at h
      exact .inl h
  refine ⟨?_, ?_, hw.completed, hw.cancelled⟩
  · intro call' u h
    rcases hpending call' u h with h | h
    · exact hw.target call' u h
    · obtain ⟨hcopy, hallowed⟩ := readPlan_some h
      rw [hcopy]
      exact hallowed
  · intro call' u h
    rcases hpending call' u h with h | h
    · exact hw.stored call' u h
    · rw [(readPlan_some h).1]
      exact canTransition_refl _

/-- A write that is an allowed transition keeps the invariant: what was reachable before is
    reachable through it, and a closing time that is set stays the one of the status. -/
theorem inv_write {w : PlanRace} (hw : Inv w) {call : Nat} {now : Timestamp}
    (hallowed : Allowed w (.write call now)) : Inv (step w (.write call now)) := by
  unfold Allowed at hallowed
  cases hu : w.pending call with
  | none =>
    simp only [step, hu]
    exact hw
  | some u =>
    simp only [step, hu] at hallowed ⊢
    have hclosing := writePlan_closing w.plan u now
    have hstatus : (writePlan w.plan u now).lifecycle.status = u.target := writePlan_status ..
    refine ⟨?_, ?_, ?_, ?_⟩
    · intro call' v h
      exact hw.target call' v (pending_update_none h)
    · intro call' v h
      exact canTransition_trans (hw.stored call' v (pending_update_none h)) hallowed
    · intro hne
      by_cases hsame : (writePlan w.plan u now).lifecycle.completedAt = w.plan.lifecycle.completedAt
      · have hold := hw.completed (by rw [← hsame]; exact hne)
        rw [hold] at hallowed
        exact eq_of_canTransition_closed rfl hallowed
      · exact hstatus.trans (hclosing.1 hsame)
    · intro hne
      by_cases hsame : (writePlan w.plan u now).lifecycle.cancelledAt = w.plan.lifecycle.cancelledAt
      · have hold := hw.cancelled (by rw [← hsame]; exact hne)
        rw [hold] at hallowed
        exact eq_of_canTransition_closed rfl hallowed
      · exact hstatus.trans (hclosing.2 hsame)

theorem inv_step {w : PlanRace} (e : PlanEvent) (hw : Inv w) (hallowed : Allowed w e) :
    Inv (step w e) := by
  cases e with
  | read call input updatedBy => exact inv_read hw call input updatedBy
  | write call now => exact inv_write hw hallowed
  | stop call =>
    refine ⟨?_, ?_, hw.completed, hw.cancelled⟩
    · exact fun call' u h => hw.target call' u (pending_update_none h)
    · exact fun call' u h => hw.stored call' u (pending_update_none h)

theorem closedOnce_of_inv {w : PlanRace} (hw : Inv w) : ClosedOnce w := by
  by_contra hboth
  rw [ClosedOnce, not_or] at hboth
  have h := (hw.completed hboth.1).symm.trans (hw.cancelled hboth.2)
  cases h

/-! ## Which stale writes are harmless -/

/-- From `stored`, which `read` leads to, the target is allowed exactly if it is allowed from
    `read` and `stored` is `read`, the target, or a start that the target does not undo. -/
theorem canTransition_iff_of_read {read stored target : SupplyActionPlanStatus}
    (htarget : canTransitionSupplyActionPlanStatus read target = true)
    (hstored : canTransitionSupplyActionPlanStatus read stored = true) :
    canTransitionSupplyActionPlanStatus stored target = true ↔
      stored = read ∨ stored = target ∨ (stored = .inProgress ∧ target ≠ .planned) := by
  revert htarget hstored
  cases read <;> cases stored <;> cases target <;> decide

theorem writeCurrent_iff_allowed {w : PlanRace} (hw : Inv w) (e : PlanEvent) :
    Allowed w e ↔ WriteCurrent w e := by
  cases e with
  | read call input updatedBy => exact ⟨fun _ => trivial, fun _ => canTransition_refl _⟩
  | stop call => exact ⟨fun _ => trivial, fun _ => canTransition_refl _⟩
  | write call now =>
    unfold Allowed WriteCurrent
    cases hu : w.pending call with
    | none =>
      simp only [step, hu]
      refine ⟨?_, fun _ => canTransition_refl _⟩
      intro _ u h
      cases h
    | some u =>
      have hiff := canTransition_iff_of_read (hw.target call u hu) (hw.stored call u hu)
      simp only [step, hu, status, writePlan_status] at hiff ⊢
      rw [hiff]
      constructor
      · intro h v hv
        cases hv
        exact h
      · intro h
        exact h u rfl

/-! ## Whole runs -/

/-- Once closed, a plan keeps its status along allowed steps. -/
theorem run_status_of_closed {w : PlanRace} {es : List PlanEvent}
    (h : Run.Steps step Allowed w es) (hclosed : w.status.isClosed = true) :
    (Run.run step w es).status = w.status := by
  induction es generalizing w with
  | nil => rfl
  | cons e es ih =>
    have hsame : (step w e).status = w.status := eq_of_canTransition_closed hclosed h.1
    rw [Run.run_cons, ih h.2 (hsame ▸ hclosed), hsame]

theorem lifecycleKept_of_allowed {w : PlanRace} (hw : Inv w) {es : List PlanEvent}
    (h : Run.Steps step Allowed w es) : LifecycleKept w es where
  allowed := h
  closedStays := by
    rintro es₁ es₂ rfl hclosed
    rw [Run.run_append]
    exact run_status_of_closed (Run.steps_append.mp h).2 hclosed
  closedOnce :=
    (Run.always_of_steps (fun _ e hw hallowed => inv_step e hw hallowed) hw h).mono
      fun _ => closedOnce_of_inv

/-- In every interleaving of status updates of a new plan, the lifecycle is kept exactly if
    every write is current. -/
theorem lifecycle_kept_iff_writes_current (id supplyDecisionId : Nat)
    (content : SupplyActionPlanContent) (es : List PlanEvent) :
    LifecycleKept (start id supplyDecisionId content) es ↔
      Run.Steps step WriteCurrent (start id supplyDecisionId content) es := by
  have hw := inv_start id supplyDecisionId content
  have hsteps := Run.steps_congr_of_inv (fun _ e hw hallowed => inv_step e hw hallowed)
    (fun _ e hw => writeCurrent_iff_allowed hw e) hw es
  exact ⟨fun h => hsteps.mp h.allowed, fun h => lifecycleKept_of_allowed hw (hsteps.mpr h)⟩

/-- A plan for the run below. -/
def samplePlanContent : SupplyActionPlanContent :=
  buildSupplyActionPlanFromDecision
    { id := 1
      decisionKey := "profile:s|period:1-2"
      content := buildSupplyDecisionFromProfile (fun _ _ _ _ _ => 0) { peakTokens := 5 } none }
    none

/-- Two operators read the planned plan; one completes it, the other then cancels it. -/
theorem two_operators_close_twice :
    ¬ LifecycleKept (start 1 1 samplePlanContent)
      [.read 1 { status := "completed" } 7, .read 2 { status := "cancelled" } 8,
        .write 1 ⟨100, by decide⟩, .write 2 ⟨101, by decide⟩] := by
  intro h
  have hlast := h.closedOnce.last
  revert hlast
  unfold ClosedOnce
  decide

end PlanRace

end TokenRouter
