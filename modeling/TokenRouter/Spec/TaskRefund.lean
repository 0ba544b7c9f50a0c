import TokenRouter.Spec.TaskBillingOnce

/-!
# Refunds of failed tasks

`RowLaw` relates the row of a task to the refunds that were executed or are owed for it: a failed
row that was charged has exactly one, a successful one none, and an unfinished row none either,
except between the refund and the save of a Suno task. Sweeps and polls keep the law. The bulk
updates and realtime fetches fail a task without a refund, and a Suno item is refunded before its
save and without a look at the row; for these the law needs a condition.

## Key results

- `TaskSystem.step_inv`: one statement keeps the law of every row
- `failed_tasks_refunded`: the law in every state of every run that meets the condition
-/

namespace TokenRouter

/-- A task whose charge is returned when it fails. -/
def Task.isCharged (t : Task) : Bool := t.quota ≠ 0 && !t.isLegacy

/-- A refund that is owed for a task. -/
def TaskDue.refundOwed (id : Int) : Option TaskDue → Int
  | some (.refund t) => if t.id = id then 1 else 0
  | _ => 0

/-- A Suno task that was refunded and waits for its save. -/
def TaskDue.refundedSave (id : Int) : Option TaskDue → Int
  | some (.save t) => if t.id = id ∧ t.status = .failure ∧ t.quota ≠ 0 then 1 else 0
  | _ => 0

/-- What the row of a task says about its refunds, with those owed, and about refunded saves. -/
structure RowLaw (r : Task) (refunded waiting : Int) : Prop where
  failed : r.status = .failure → r.isCharged = true → refunded = 1
  succeeded : r.status = .success → refunded = 0
  unfinished : r.status.isTerminal = false → refunded = waiting
  closed : r.status.isTerminal = true → waiting = 0
  waiting_nonneg : 0 ≤ waiting
  waiting_le : waiting ≤ 1

namespace RowLaw

variable {r : Task} {refunded waiting : Int}

theorem of_failure (h : r.status = .failure) (hrefunded : r.isCharged = true → refunded = 1)
    (hwaiting : waiting = 0) : RowLaw r refunded waiting := by
  refine ⟨fun _ => hrefunded, ?_, ?_, fun _ => hwaiting, by omega, by omega⟩
  · intro hsuccess
    rw [h] at hsuccess
    cases hsuccess
  · intro hopen
    rw [h] at hopen
    cases hopen

theorem of_success (h : r.status = .success) (hrefunded : refunded = 0) (hwaiting : waiting = 0) :
    RowLaw r refunded waiting := by
  refine ⟨?_, fun _ => hrefunded, ?_, fun _ => hwaiting, by omega, by omega⟩
  · intro hfailed
    rw [h] at hfailed
    cases hfailed
  · intro hopen
    rw [h] at hopen
    cases hopen

theorem of_open (h : r.status.isTerminal = false) (hrefunded : refunded = waiting)
    (hnonneg : 0 ≤ waiting) (hle : waiting ≤ 1) : RowLaw r refunded waiting := by
  refine ⟨?_, ?_, fun _ => hrefunded, ?_, hnonneg, hle⟩
  · intro hfailed
    rw [hfailed] at h
    cases h
  · intro hsuccess
    rw [hsuccess] at h
    cases h
  · intro hterm
    rw [h] at hterm
    cases hterm

end RowLaw

namespace TaskSystem

/-- The refunds of a task, executed or owed. -/
def refunded (s : TaskSystem) (id : Int) : Int :=
  s.refunds id + s.workers.sum fun w => TaskDue.refundOwed id w.due

/-- The refunded saves of a task that are under way. -/
def waiting (s : TaskSystem) (id : Int) : Int :=
  s.workers.sum fun w => TaskDue.refundedSave id w.due

theorem refunded_setWorker {s : TaskSystem} {w : TaskWorker}
    (h : s.workers.find? w.wid = some w) (job : TaskJob) (due : Option TaskDue) (id : Int) :
    (s.setWorker { w with job := job, due := due }).refunded id =
      s.refunded id - TaskDue.refundOwed id w.due + TaskDue.refundOwed id due := by
  have hsum := Table.sum_set (fun w : TaskWorker => TaskDue.refundOwed id w.due)
    (r := { w with job := job, due := due }) h
  unfold refunded setWorker
  dsimp only at hsum ⊢
  omega

theorem waiting_setWorker {s : TaskSystem} {w : TaskWorker}
    (h : s.workers.find? w.wid = some w) (job : TaskJob) (due : Option TaskDue) (id : Int) :
    (s.setWorker { w with job := job, due := due }).waiting id =
      s.waiting id - TaskDue.refundedSave id w.due + TaskDue.refundedSave id due := by
  have hsum := Table.sum_set (fun w : TaskWorker => TaskDue.refundedSave id w.due)
    (r := { w with job := job, due := due }) h
  exact hsum

/-- A failed row stays failed and charged, or not, as it was. -/
def Frozen (s s' : TaskSystem) : Prop := ∀ id r, s.tasks.find? id = some r → r.status = .failure →
  ∃ r', s'.tasks.find? id = some r' ∧ r'.status = .failure ∧ r'.isCharged = r.isCharged

/-- What a worker may hold. -/
structure WorkerLaw (s : TaskSystem) (w : TaskWorker) : Prop where
  sweep : SweepOk w.job
  refund : ∀ t, w.due = some (.refund t) → t.quota ≠ 0
  realtime : ∀ t, w.job = .realtime (some t) → t.status = .failure →
    ∃ r, s.tasks.find? t.id = some r ∧ r.status = .failure ∧ r.isCharged = t.isCharged

/-- The invariant. -/
structure RefundInv (s : TaskSystem) : Prop where
  rows : ∀ id r, s.tasks.find? id = some r → RowLaw r (s.refunded id) (s.waiting id)
  workers : ∀ w ∈ s.workers.rows, WorkerLaw s w

theorem Frozen.workerLaw {s s' : TaskSystem} (h : Frozen s s') {w : TaskWorker}
    (hw : WorkerLaw s w) : WorkerLaw s' w := by
  refine ⟨hw.sweep, hw.refund, ?_⟩
  intro t hjob hstatus
  obtain ⟨r, hfind, hfailed, hcharged⟩ := hw.realtime t hjob hstatus
  obtain ⟨r', hfind', hfailed', hcharged'⟩ := h t.id r hfind hfailed
  exact ⟨r', hfind', hfailed', hcharged'.trans hcharged⟩

theorem Frozen.refl (s : TaskSystem) : Frozen s s := fun _ r hfind hstatus =>
  ⟨r, hfind, hstatus, rfl⟩

/-- The rows are as before. -/
theorem Frozen.of_tasks {s s' : TaskSystem} (h : s'.tasks = s.tasks) : Frozen s s' := by
  intro id r hfind hstatus
  exact ⟨r, h ▸ hfind, hstatus, rfl⟩

/-- A row was written that had not failed, or that stays as it is charged. -/
theorem Frozen.of_set {s s' : TaskSystem} {row t : Task} (hrow : s.tasks.find? t.id = some row)
    (h : s'.tasks = s.tasks.set t)
    (hfailed : row.status = .failure → t.status = .failure ∧ t.isCharged = row.isCharged) :
    Frozen s s' := by
  intro id r hfind hstatus
  by_cases hid : t.id = id
  · subst hid
    rw [hrow] at hfind
    cases hfind
    refine ⟨t, ?_, hfailed hstatus⟩
    rw [h]
    exact Table.find?_set_self hrow rfl
  · refine ⟨r, ?_, hstatus, rfl⟩
    rw [h, Table.find?_set_of_ne _ hid]
    exact hfind

/-- A worker moves on, after a statement that leaves failed rows alone. -/
theorem RefundInv.setWorker {s s₁ : TaskSystem} (hs : s.RefundInv) (hfrozen : Frozen s s₁)
    (hworkers : s₁.workers = s.workers) {w : TaskWorker}
    (hrows : ∀ id r, s₁.tasks.find? id = some r →
      RowLaw r ((s₁.setWorker w).refunded id) ((s₁.setWorker w).waiting id))
    (hw : WorkerLaw s₁ w) : (s₁.setWorker w).RefundInv := by
  refine ⟨hrows, ?_⟩
  intro w' hw'
  change w' ∈ (s₁.workers.set w).rows at hw'
  rw [hworkers] at hw'
  have hlaw : WorkerLaw s₁ w' := by
    cases Table.mem_set hw' with
    | inl heq => exact heq ▸ hw
    | inr hold => exact hfrozen.workerLaw (hs.workers w' hold.1)
  exact ⟨hlaw.sweep, hlaw.refund, hlaw.realtime⟩

section

variable {s : TaskSystem} {w : TaskWorker}

/-- A worker that owes nothing goes on without a write. -/
theorem RefundInv.idle (hs : s.RefundInv) (hfind : s.workers.find? w.wid = some w)
    (hdue : w.due = none) {job : TaskJob} (hjob : WorkerLaw s ⟨w.wid, job, none⟩)
    {due : Option TaskDue} (hrefund : ∀ id, TaskDue.refundOwed id due = 0)
    (hsave : ∀ id, TaskDue.refundedSave id due = 0) :
    (s.setWorker { w with job := job, due := due }).RefundInv := by
  refine hs.setWorker (Frozen.refl s) rfl ?_ ?_
  · intro id r hrow
    rw [refunded_setWorker hfind, waiting_setWorker hfind, hdue, hrefund, hsave]
    simpa [TaskDue.refundOwed, TaskDue.refundedSave] using hs.rows id r hrow
  · refine ⟨hjob.sweep, ?_, hjob.realtime⟩
    intro t ht
    have hzero := hrefund t.id
    simp only at ht
    rw [ht] at hzero
    simp [TaskDue.refundOwed] at hzero

/-- A worker that owes nothing writes a row under its condition. -/
theorem RefundInv.write (hs : s.RefundInv) (hfind : s.workers.find? w.wid = some w)
    (hdue : w.due = none) {row t : Task} (hrow : s.tasks.find? t.id = some row)
    (hfailed : row.status = .failure → t.status = .failure ∧ t.isCharged = row.isCharged)
    {job : TaskJob} {due : Option TaskDue}
    (hother : ∀ id, id ≠ t.id → TaskDue.refundOwed id due = 0)
    (hsave : ∀ id, TaskDue.refundedSave id due = 0)
    (hlaw : RowLaw t (s.refunded t.id + TaskDue.refundOwed t.id due) (s.waiting t.id))
    (hjob : WorkerLaw { s with tasks := s.tasks.set t } ⟨w.wid, job, due⟩) :
    ({ s with tasks := s.tasks.set t }.setWorker { w with job := job, due := due }).RefundInv := by
  have hrefunded : ∀ id, ({ s with tasks := s.tasks.set t }.setWorker
      { w with job := job, due := due }).refunded id =
      s.refunded id + TaskDue.refundOwed id due := by
    intro id
    have h := refunded_setWorker hfind job due id
    rw [hdue] at h
    change _ = s.refunded id - 0 + _ at h
    rw [sub_zero] at h
    exact h
  have hwaiting : ∀ id, ({ s with tasks := s.tasks.set t }.setWorker
      { w with job := job, due := due }).waiting id = s.waiting id := by
    intro id
    have h := waiting_setWorker hfind job due id
    rw [hdue, hsave] at h
    change _ = s.waiting id - 0 + 0 at h
    rw [sub_zero, add_zero] at h
    exact h
  refine hs.setWorker (Frozen.of_set hrow (by rfl) hfailed) (by rfl) ?_ hjob
  intro id r hr
  rw [hrefunded, hwaiting]
  by_cases hid : t.id = id
  · subst hid
    rw [Table.find?_set_self hrow rfl] at hr
    cases hr
    exact hlaw
  · rw [Table.find?_set_of_ne _ hid] at hr
    rw [hother id (Ne.symm hid), add_zero]
    exact hs.rows id r hr

end

/-! ## The condition -/

/-- The next task of a sweep. -/
def sweepCopy (s : TaskSystem) (wid : Nat) : Option Task :=
  match s.idleWorker wid with
  | some ⟨_, .sweep todo, _⟩ => todo.head?
  | _ => none

/-- The copy that a Suno item is about. -/
def sunoCopy (s : TaskSystem) (wid : Nat) (taskId : String) : Option Task :=
  match s.idleWorker wid with
  | some ⟨_, .pass .suno _ copies _, _⟩ => taskM copies taskId
  | _ => none

/-- The tasks of a bulk update. -/
def nullIDs (s : TaskSystem) (wid : Nat) : List Int :=
  match s.idleWorker wid with
  | some ⟨_, .pass _ nulls _ _, _⟩ => nulls
  | _ => []

/-- The tasks of a bulk update for a channel. -/
def channelIDs (s : TaskSystem) (wid : Nat) (channelId : Int) : List Int :=
  match s.idleWorker wid with
  | some ⟨_, .pass _ _ copies todo, _⟩ => failedIDs copies todo channelId
  | _ => []

/-- The refund that a worker owes. -/
def refundDue (s : TaskSystem) (wid : Nat) : Option Task :=
  match (s.workers.find? wid).bind (·.due) with
  | some (.refund t) => some t
  | _ => none

/-- The save that a worker owes. -/
def saveDue (s : TaskSystem) (wid : Nat) : Option Task :=
  match (s.workers.find? wid).bind (·.due) with
  | some (.save t) => some t
  | _ => none

/-- A row that may be failed without a refund. -/
def Waived (s : TaskSystem) (id : Int) : Prop := ∀ r ∈ s.tasks.find? id,
  (r.status = .failure ∨ r.isCharged = false) ∧ s.waiting id = 0

/-- A row that is not terminal. -/
def IsOpen (s : TaskSystem) (id : Int) : Prop := ∃ r ∈ s.tasks.find? id,
  r.status.isTerminal = false

/-- The condition on a statement: nobody writes a Suno task between its refund and its save; bulk
    updates and realtime fetches fail no charged task; a poll starts from an unfinished copy and a
    realtime fetch leaves a finished status; a Suno item that fails reports the failed status, for
    an unfinished task that is not refunded yet; a Suno save finds an unfinished task; refunds and
    saves meet no database error. -/
def RefundsOnce (s : TaskSystem) : TaskEvent → Prop
  | .sweepNext wid _ _ _ => ∀ t ∈ s.sweepCopy wid, s.waiting t.id = 0
  | .failNull wid dbError => dbError = true ∨ ∀ id ∈ s.nullIDs wid, s.Waived id
  | .failChannel wid channelId dbError =>
    dbError = true ∨ ∀ id ∈ s.channelIDs wid channelId, s.Waived id
  | .poll wid _ upstreamId _ _ _ =>
    ∀ t ∈ s.pollCopy wid upstreamId, t.status.isTerminal = false ∧ s.waiting t.id = 0
  | .sunoItem wid item dbError =>
    ∀ t ∈ s.sunoCopy wid item.taskId, t.quota ≠ 0 → (updateSunoTask t item).2 = true →
      dbError = false ∧ (updateSunoTask t item).1.status = .failure ∧ s.IsOpen t.id ∧
        s.refunded t.id = 0
  | .realtimeWrite wid answer _ =>
    ∀ t ∈ s.realtimeCopy wid, ∀ ti ∈ answer,
      s.waiting t.id = 0 ∧
      (t.status.isTerminal = true → ti.status.getD t.status = t.status) ∧
      (t.status.isTerminal = false → ti.status.getD t.status = .failure → t.isCharged = false)
  | .finish wid _ dbError =>
    (∀ _t ∈ s.refundDue wid, dbError = false) ∧
      ∀ t ∈ s.saveDue wid, dbError = false ∧ s.IsOpen t.id ∧
        s.waiting t.id = TaskDue.refundedSave t.id (some (.save t))
  | _ => True

instance (s : TaskSystem) (id : Int) : Decidable (s.Waived id) :=
  inferInstanceAs (Decidable (∀ r ∈ s.tasks.find? id,
    (r.status = .failure ∨ r.isCharged = false) ∧ s.waiting id = 0))

instance (s : TaskSystem) (id : Int) : Decidable (s.IsOpen id) :=
  inferInstanceAs (Decidable (∃ r ∈ s.tasks.find? id, r.status.isTerminal = false))

instance (s : TaskSystem) (e : TaskEvent) : Decidable (s.RefundsOnce e) :=
  match e with
  | .startSweep _ _ _ => isTrue trivial
  | .startPass _ _ _ => isTrue trivial
  | .startRealtime _ _ => isTrue trivial
  | .sweepNext wid _ _ _ =>
    inferInstanceAs (Decidable (∀ t ∈ s.sweepCopy wid, s.waiting t.id = 0))
  | .failNull wid dbError =>
    inferInstanceAs (Decidable (dbError = true ∨ ∀ id ∈ s.nullIDs wid, s.Waived id))
  | .failChannel wid channelId dbError =>
    inferInstanceAs (Decidable (dbError = true ∨ ∀ id ∈ s.channelIDs wid channelId, s.Waived id))
  | .poll wid _ upstreamId _ _ _ =>
    inferInstanceAs (Decidable (∀ t ∈ s.pollCopy wid upstreamId,
      t.status.isTerminal = false ∧ s.waiting t.id = 0))
  | .sunoItem wid item dbError =>
    inferInstanceAs (Decidable (∀ t ∈ s.sunoCopy wid item.taskId, t.quota ≠ 0 →
      (updateSunoTask t item).2 = true → dbError = false ∧
        (updateSunoTask t item).1.status = .failure ∧ s.IsOpen t.id ∧ s.refunded t.id = 0))
  | .realtimeWrite wid answer _ =>
    inferInstanceAs (Decidable (∀ t ∈ s.realtimeCopy wid, ∀ ti ∈ answer,
      s.waiting t.id = 0 ∧
      (t.status.isTerminal = true → ti.status.getD t.status = t.status) ∧
      (t.status.isTerminal = false → ti.status.getD t.status = .failure → t.isCharged = false)))
  | .finish wid _ dbError =>
    inferInstanceAs (Decidable ((∀ _t ∈ s.refundDue wid, dbError = false) ∧
      ∀ t ∈ s.saveDue wid, dbError = false ∧ s.IsOpen t.id ∧
        s.waiting t.id = TaskDue.refundedSave t.id (some (.save t))))

/-! ## Sweeps and polls -/

/-- What a transition of a poll owes. -/
theorem applyVideoResult_billing {serverAddress : String} {t t' : Task} {result : TaskInfo}
    {now : Int} {settle refund : Bool}
    (h : applyVideoResult serverAddress t result now = (t', some (settle, refund)))
    (hdone : t'.status.isTerminal = true) :
    (t'.status = .success ∧ settle = true) ∨
      (t'.status = .failure ∧ settle = false ∧ refund = decide (t'.quota ≠ 0)) := by
  unfold applyVideoResult at h
  split at h
  · cases h
    cases hdone
  · cases h
    cases hdone
  · cases h
    cases hdone
  · cases h
    exact .inl ⟨rfl, rfl⟩
  · cases h
    exact .inr ⟨rfl, rfl, rfl⟩
  · cases h
  · cases h

theorem updateVideoSingleTask_billing {serverAddress : String} {t t' : Task} {answer : FetchAnswer}
    {now : Int} {settle refund : Bool}
    (h : updateVideoSingleTask serverAddress t answer now = (t', .transition settle refund)) :
    (t'.status = .success ∧ settle = true) ∨
      (t'.status = .failure ∧ settle = false ∧ refund = decide (t'.quota ≠ 0)) := by
  unfold updateVideoSingleTask at h
  cases answer with
  | failed => cases h
  | parsed result data body =>
    dsimp only at h
    split at h
    · cases h
    · split at h
      · cases h
      · next t'' settle' refund' heq =>
        split at h
        · next hdone =>
          cases h
          exact applyVideoResult_billing heq hdone.1
        · cases h

section

variable {s : TaskSystem} {w : TaskWorker}

theorem no_refund (t : Task) (h : (none : Option TaskDue) = some (.refund t)) : t.quota ≠ 0 := by
  cases h

/-- A pass has no copies that the law looks at. -/
theorem workerLaw_pass (s : TaskSystem) (wid : Nat) (platform : TaskPlatform) (nulls : List Int)
    (copies : List Task) (todo : List (Int × String)) {due : Option TaskDue}
    (hdue : ∀ t, due = some (.refund t) → t.quota ≠ 0) :
    WorkerLaw s ⟨wid, .pass platform nulls copies todo, due⟩ :=
  ⟨trivial, hdue, fun _ h => by cases h⟩

theorem workerLaw_sweep (s : TaskSystem) (wid : Nat) {todo : List Task}
    (htodo : ∀ t ∈ todo, t.status.isTerminal = false) {due : Option TaskDue}
    (hdue : ∀ t, due = some (.refund t) → t.quota ≠ 0) :
    WorkerLaw s ⟨wid, .sweep todo, due⟩ :=
  ⟨htodo, hdue, fun _ h => by cases h⟩

theorem workerLaw_done (s : TaskSystem) (wid : Nat) : WorkerLaw s ⟨wid, .realtime none, none⟩ :=
  ⟨trivial, no_refund, fun _ h => by cases h⟩

/-- An unfinished row was not failed. -/
theorem not_failure_of_open {t : Task} {p : Prop} (h : t.status.isTerminal = false) :
    t.status = .failure → p := by
  intro hfailed
  rw [hfailed] at h
  cases h

theorem refundInv_sweepNext (hs : s.RefundInv) (hfind : s.workers.find? w.wid = some w)
    (hdue : w.due = none) (timeoutMinutes now : Int) (dbError : Bool)
    (hwaiting : ∀ t rest, w.job = .sweep (t :: rest) → s.waiting t.id = 0) :
    (s.sweepNext w timeoutMinutes now dbError).RefundInv := by
  have hlaw := hs.workers w (Table.find?_mem hfind)
  unfold sweepNext
  split
  · next t rest hjob =>
    have htodo : ∀ t' ∈ t :: rest, t'.status.isTerminal = false := by
      have hsweep := hlaw.sweep
      rw [hjob] at hsweep
      exact hsweep
    have hopen := htodo t List.mem_cons_self
    have hrest : ∀ t' ∈ rest, t'.status.isTerminal = false := fun t' ht' =>
      htodo t' (List.mem_cons_of_mem _ ht')
    have hlost : (s.setWorker { w with job := .sweep rest, due := none }).RefundInv :=
      hs.idle hfind hdue (workerLaw_sweep s w.wid hrest no_refund) (fun _ => rfl) (fun _ => rfl)
    cases dbError with
    | true => exact hlost
    | false =>
      simp only [Bool.false_eq_true, if_false]
      obtain heq | ⟨row, hrow, hstatus, heq⟩ :=
        Task.updateWithStatus_cases s.tasks (sweptTask t timeoutMinutes now) t.status
      · rw [heq]
        exact hlost
      · rw [heq]
        have hzero : s.waiting (sweptTask t timeoutMinutes now).id = 0 := hwaiting t rest hjob
        have hrowopen : row.status.isTerminal = false := hstatus ▸ hopen
        have hrefunded : s.refunded (sweptTask t timeoutMinutes now).id = 0 := by
          rw [(hs.rows _ row hrow).unfinished hrowopen]
          exact hzero
        -- the refund is owed exactly when the swept task is charged
        split
        · next hdo =>
          refine hs.write hfind hdue hrow (not_failure_of_open hrowopen) ?_ (fun _ => rfl)
            (RowLaw.of_failure rfl ?_ hzero) (workerLaw_sweep _ _ hrest ?_)
          · intro id hid
            exact if_neg (Ne.symm hid)
          · intro _
            rw [hrefunded, zero_add]
            exact if_pos rfl
          · intro t' ht'
            cases ht'
            exact hdo.2.2
        · next hskip =>
          refine hs.write hfind hdue hrow (not_failure_of_open hrowopen) (fun _ _ => rfl)
            (fun _ => rfl) (RowLaw.of_failure rfl ?_ hzero) (workerLaw_sweep _ _ hrest no_refund)
          intro hcharged
          have hcharged' : t.isCharged = true := hcharged
          simp only [Task.isCharged, Bool.and_eq_true, decide_eq_true_eq] at hcharged'
          exact absurd ⟨rfl, by simpa using hcharged'.2, hcharged'.1⟩ hskip
  · exact hs

theorem refundInv_poll (hs : s.RefundInv) (hfind : s.workers.find? w.wid = some w)
    (hdue : w.due = none) (channelId : Int) (upstreamId : String) (answer : FetchAnswer) (now : Int)
    (dbError : Bool)
    (hcopy : ∀ platform nulls copies todo, w.job = .pass platform nulls copies todo →
      ∀ t ∈ taskM copies upstreamId, t.status.isTerminal = false ∧ s.waiting t.id = 0) :
    (s.poll w channelId upstreamId answer now dbError).RefundInv := by
  unfold poll
  split
  · next platform nulls copies todo hjob =>
    have hstay : ∀ copies' todo', (s.setWorker
        { w with job := .pass platform nulls copies' todo', due := none }).RefundInv :=
      fun copies' todo' => hs.idle hfind hdue (workerLaw_pass s w.wid _ _ _ _ no_refund)
        (fun _ => rfl) (fun _ => rfl)
    split
    · exact hs
    · dsimp only
      cases htask : taskM copies upstreamId with
      | none =>
        dsimp only
        rw [hdue]
        exact hstay _ _
      | some t =>
        obtain ⟨hopen, hzero⟩ := hcopy platform nulls copies todo hjob t htask
        have hid := updateVideoSingleTask_id s.serverAddress t answer now
        dsimp only
        cases hpoll : updateVideoSingleTask s.serverAddress t answer now with
        | mk t' action =>
          rw [hpoll] at hid
          dsimp only at hid ⊢
          rw [← hid] at hzero
          obtain rfl | ⟨settle, refund, rfl, hdone⟩ | ⟨write, rfl, hstill⟩ :=
            updateVideoSingleTask_cases hopen hpoll
          · dsimp only
            rw [hdue]
            exact hstay _ _
          · cases dbError with
            | true => exact hstay _ _
            | false =>
              dsimp only
              simp only [Bool.false_eq_true, if_false]
              obtain heq | ⟨row, hrow, hstatus, heq⟩ :=
                Task.updateWithStatus_cases s.tasks t' t.status
              · rw [heq]
                exact hstay _ _
              · rw [heq]
                have hrowopen : row.status.isTerminal = false := hstatus ▸ hopen
                have hrefunded : s.refunded t'.id = 0 := by
                  rw [(hs.rows _ row hrow).unfinished hrowopen]
                  exact hzero
                simp only [if_true]
                obtain ⟨hsuccess, rfl⟩ | ⟨hfailed, rfl, rfl⟩ := updateVideoSingleTask_billing hpoll
                · refine hs.write hfind hdue hrow (not_failure_of_open hrowopen) (fun _ _ => rfl)
                    (fun _ => rfl) ?_ (workerLaw_pass _ _ _ _ _ _ fun _ h => by cases h)
                  exact RowLaw.of_success hsuccess ((add_zero _).trans hrefunded) hzero
                · by_cases hquota : t'.quota = 0
                  · -- nothing was charged, so nothing is owed
                    simp only [hquota, ne_eq, not_true_eq_false, decide_false, billingDue,
                      Bool.false_eq_true, if_false]
                    refine hs.write hfind hdue hrow (not_failure_of_open hrowopen) (fun _ _ => rfl)
                      (fun _ => rfl) ?_ (workerLaw_pass _ _ _ _ _ _ no_refund)
                    refine RowLaw.of_failure hfailed ?_ hzero
                    intro hcharged
                    simp [Task.isCharged, hquota] at hcharged
                  · simp only [ne_eq, hquota, not_false_eq_true, decide_true, billingDue,
                      Bool.false_eq_true, if_false, if_true]
                    refine hs.write hfind hdue hrow (not_failure_of_open hrowopen) ?_
                      (fun _ => rfl) ?_ (workerLaw_pass _ _ _ _ _ _ ?_)
                    · intro id hne
                      exact if_neg (Ne.symm hne)
                    · refine RowLaw.of_failure hfailed (fun _ => ?_) hzero
                      rw [hrefunded, zero_add]
                      exact if_pos rfl
                    · intro t'' ht''
                      cases ht''
                      exact hquota
          · dsimp only
            split
            · obtain heq | ⟨row, hrow, hstatus, heq⟩ :=
                Task.updateWithStatus_cases s.tasks t' t.status
              · rw [heq]
                exact hstay _ _
              · rw [heq]
                have hrowopen : row.status.isTerminal = false := hstatus ▸ hopen
                have hrowlaw := hs.rows _ row hrow
                refine hs.write hfind hdue hrow (not_failure_of_open hrowopen) (fun _ _ => rfl)
                  (fun _ => rfl) ?_ (workerLaw_pass _ _ _ _ _ _ no_refund)
                refine RowLaw.of_open hstill ?_ hrowlaw.waiting_nonneg hrowlaw.waiting_le
                exact (add_zero _).trans (hrowlaw.unfinished hrowopen)
            · exact hstay _ _
  · exact hs

/-! ## Realtime fetches -/

theorem refundInv_realtimeWrite (hs : s.RefundInv) (hfind : s.workers.find? w.wid = some w)
    (hdue : w.due = none) (answer : Option TaskInfo) (dbError : Bool)
    (hcopy : ∀ t, w.job = .realtime (some t) → ∀ ti ∈ answer,
      s.waiting t.id = 0 ∧
      (t.status.isTerminal = true → ti.status.getD t.status = t.status) ∧
      (t.status.isTerminal = false → ti.status.getD t.status = .failure →
        t.isCharged = false)) :
    (s.realtimeWrite w answer dbError).RefundInv := by
  have hstay : (s.setWorker { w with job := .realtime none, due := none }).RefundInv :=
    hs.idle hfind hdue (workerLaw_done s w.wid) (fun _ => rfl) (fun _ => rfl)
  have hlaw := hs.workers w (Table.find?_mem hfind)
  unfold realtimeWrite
  split
  · next t hjob =>
    cases answer with
    | none =>
      dsimp only
      rw [hdue]
      exact hstay
    | some ti =>
      obtain ⟨hzero, hkeep, hwaived⟩ := hcopy t hjob ti rfl
      dsimp only
      rw [hdue]
      split
      · exact hstay
      · obtain heq | ⟨row, hrow, hstatus, heq⟩ :=
          Task.updateWithStatus_cases s.tasks (tryRealtimeFetch s.serverAddress t ti) t.status
        · rw [heq]
          exact hstay
        · rw [heq]
          have hrowlaw := hs.rows _ row hrow
          have hnew : (tryRealtimeFetch s.serverAddress t ti).status =
            ti.status.getD t.status := rfl
          -- a copy that has failed is charged as the row is
          have hfailed : row.status = .failure → t.isCharged = row.isCharged := by
            intro hfail
            obtain ⟨r, hr, -, hcharged⟩ := hlaw.realtime t hjob (hstatus ▸ hfail)
            rw [show s.tasks.find? t.id = some row from hrow] at hr
            cases hr
            exact hcharged.symm
          refine hs.write hfind hdue hrow ?_ (fun _ _ => rfl) (fun _ => rfl) ?_
            (workerLaw_done _ _)
          · intro hfail
            refine ⟨?_, hfailed hfail⟩
            rw [hstatus] at hfail
            rw [hnew, hkeep (by rw [hfail]; rfl), hfail]
          · have hsum : s.refunded t.id + TaskDue.refundOwed t.id none = s.refunded t.id :=
              add_zero _
            show RowLaw _ (s.refunded t.id + TaskDue.refundOwed t.id none) (s.waiting t.id)
            rw [hsum]
            cases hterm : t.status.isTerminal with
            | true =>
              have hsame : (tryRealtimeFetch s.serverAddress t ti).status = row.status := by
                rw [hnew, hkeep hterm, hstatus]
              cases hrowstatus : row.status with
              | failure =>
                refine RowLaw.of_failure (hsame.trans hrowstatus) ?_ hzero
                intro hcharged
                refine hrowlaw.failed hrowstatus ?_
                rw [← hfailed hrowstatus]
                exact hcharged
              | success =>
                exact RowLaw.of_success (hsame.trans hrowstatus) (hrowlaw.succeeded hrowstatus)
                  hzero
              | _ => exact absurd hterm (by rw [← hstatus, hrowstatus]; exact nofun)
            | false =>
              have hrefunded : s.refunded t.id = s.waiting t.id :=
                hrowlaw.unfinished (by rw [hstatus]; exact hterm)
              cases hstatus' : ti.status.getD t.status with
              | failure =>
                refine RowLaw.of_failure (hnew.trans hstatus') ?_ hzero
                intro hcharged
                have hfree : t.isCharged = false := hwaived hterm hstatus'
                rw [show t.isCharged = true from hcharged] at hfree
                cases hfree
              | success =>
                exact RowLaw.of_success (hnew.trans hstatus') (hrefunded.trans hzero) hzero
              | _ =>
                refine RowLaw.of_open ?_ hrefunded hrowlaw.waiting_nonneg hrowlaw.waiting_le
                rw [hnew, hstatus']
                rfl
  · exact hs

/-! ## Bulk updates -/

theorem refundInv_bulk (hs : s.RefundInv) (hfind : s.workers.find? w.wid = some w)
    (hdue : w.due = none) {ids : List Int} (reason : Option String)
    (hids : ∀ id ∈ ids, s.Waived id) (platform : TaskPlatform) (nulls : List Int)
    (copies : List Task) (todo : List (Int × String)) :
    ({ s with tasks := taskBulkFailByID s.tasks ids reason }.setWorker
      { w with job := .pass platform nulls copies todo, due := none }).RefundInv := by
  refine hs.setWorker ?_ (by rfl) ?_ (workerLaw_pass _ _ _ _ _ _ no_refund)
  · intro id r hr hfailed
    refine ⟨_, by rw [taskBulkFailByID, Table.find?_mapRows, hr]; rfl, ?_⟩
    dsimp only
    split
    · exact ⟨rfl, rfl⟩
    · exact ⟨hfailed, rfl⟩
  · intro id r hr
    have hrefunded := refunded_setWorker hfind (.pass platform nulls copies todo) none id
    have hwaiting := waiting_setWorker hfind (.pass platform nulls copies todo) none id
    rw [hdue] at hrefunded hwaiting
    change _ = s.refunded id - 0 + 0 at hrefunded
    change _ = s.waiting id - 0 + 0 at hwaiting
    rw [sub_zero, add_zero] at hrefunded hwaiting
    change RowLaw r ((s.setWorker _).refunded id) ((s.setWorker _).waiting id)
    rw [hrefunded, hwaiting]
    rw [taskBulkFailByID, Table.find?_mapRows] at hr
    cases hold : s.tasks.find? id with
    | none =>
      rw [hold] at hr
      cases hr
    | some r₀ =>
      rw [hold] at hr
      have hlaw := hs.rows id r₀ hold
      obtain rfl : r₀.id = id := Table.find?_key hold
      simp only [Option.map_some, Option.some.injEq] at hr
      subst hr
      split
      · next hmem =>
        obtain ⟨hfree, hzero⟩ := hids r₀.id hmem r₀ hold
        refine RowLaw.of_failure rfl ?_ hzero
        intro hcharged
        have hcharged' : r₀.isCharged = true := hcharged
        cases hfree with
        | inl hfailed => exact hlaw.failed hfailed hcharged'
        | inr hfree =>
          rw [hfree] at hcharged'
          cases hcharged'
      · exact hlaw

/-! ## Suno -/

/-- A refund adds one, if the task was charged. -/
theorem refundTaskQuota_refunded (t : Task) (id : Int) :
    (s.refundTaskQuota t).refunded id =
      s.refunded id + if t.quota ≠ 0 ∧ t.id = id then 1 else 0 := by
  unfold refundTaskQuota
  by_cases hquota : t.quota = 0
  · simp [hquota]
  · have hcount := countFor_eq s.refunds t.id id
    simp only [hquota, if_false, ne_eq, not_false_eq_true, true_and]
    unfold refunded
    dsimp only
    omega

theorem refundTaskQuota_same (t : Task) :
    (s.refundTaskQuota t).workers = s.workers ∧ (s.refundTaskQuota t).tasks = s.tasks := by
  unfold refundTaskQuota
  split <;> exact ⟨rfl, rfl⟩

/-- A Suno item that is not refunded has not failed. -/
theorem updateSunoTask_status {t : Task} {item : SunoDataResponse}
    (h : (updateSunoTask t item).2 = false) : (updateSunoTask t item).1.status ≠ .failure := by
  intro hfailed
  have hstatus : item.status.getD t.status = .failure := hfailed
  simp [updateSunoTask, hstatus] at h

/-- The save of an item waits without a refund. -/
theorem refundInv_sunoSave (hs : s.RefundInv) (hfind : s.workers.find? w.wid = some w)
    (hdue : w.due = none) {t' : Task} (hsave : ¬ (t'.status = .failure ∧ t'.quota ≠ 0))
    (nulls : List Int) (copies : List Task) (todo : List (Int × String)) :
    (s.setWorker { w with
      job := .pass .suno nulls copies todo, due := some (.save t') }).RefundInv := by
  refine hs.idle hfind hdue (workerLaw_pass s w.wid _ _ _ _ no_refund) (fun _ => rfl) ?_
  intro id
  exact if_neg fun h => hsave h.2

/-- The save of an item waits after its refund. -/
theorem refundInv_sunoRefund (hs : s.RefundInv) (hfind : s.workers.find? w.wid = some w)
    (hdue : w.due = none) {t' : Task} (hfailed : t'.status = .failure) (hquota : t'.quota ≠ 0)
    (hopen : s.IsOpen t'.id) (hzero : s.refunded t'.id = 0)
    (nulls : List Int) (copies : List Task) (todo : List (Int × String)) :
    ((s.refundTaskQuota t').setWorker { w with
      job := .pass .suno nulls copies todo, due := some (.save t') }).RefundInv := by
  obtain ⟨hworkers, htasks⟩ := refundTaskQuota_same (s := s) t'
  have hfind' : (s.refundTaskQuota t').workers.find? w.wid = some w := hworkers ▸ hfind
  refine hs.setWorker (Frozen.of_tasks htasks) hworkers ?_
    (workerLaw_pass _ _ _ _ _ _ fun _ h => by cases h)
  intro id r hr
  rw [htasks] at hr
  have hlaw := hs.rows id r hr
  have hrefunded := refunded_setWorker hfind' (.pass .suno nulls copies todo)
    (some (.save t')) id
  have hwaiting := waiting_setWorker hfind' (.pass .suno nulls copies todo) (some (.save t')) id
  have hcount := refundTaskQuota_refunded (s := s) t' id
  have hsame : (s.refundTaskQuota t').waiting id = s.waiting id := by
    unfold waiting
    rw [hworkers]
  rw [hdue] at hrefunded hwaiting
  change _ = _ - 0 + 0 at hrefunded
  change _ = _ - 0 + (if t'.id = id ∧ t'.status = .failure ∧ t'.quota ≠ 0 then (1 : Int) else 0)
    at hwaiting
  rw [hrefunded, hwaiting, hcount, hsame, sub_zero, add_zero, sub_zero]
  by_cases hid : t'.id = id
  · subst hid
    obtain ⟨r', hr', hopen'⟩ := hopen
    rw [hr'] at hr
    cases hr
    have hwait := hlaw.unfinished hopen'
    simp only [hquota, hfailed, ne_eq, not_false_eq_true, and_self, if_true]
    exact RowLaw.of_open hopen' (by omega) (by omega) (by omega)
  · simp only [hid, and_false, false_and, if_false, add_zero]
    exact hlaw

theorem refundInv_sunoItem (hs : s.RefundInv) (hfind : s.workers.find? w.wid = some w)
    (hdue : w.due = none) (item : SunoDataResponse) (dbError : Bool)
    (hcopy : ∀ nulls copies todo, w.job = .pass .suno nulls copies todo →
      ∀ t ∈ taskM copies item.taskId, t.quota ≠ 0 → (updateSunoTask t item).2 = true →
        dbError = false ∧ (updateSunoTask t item).1.status = .failure ∧ s.IsOpen t.id ∧
          s.refunded t.id = 0) :
    (s.sunoItem w item dbError).RefundInv := by
  unfold sunoItem
  split
  · next nulls copies todo hjob =>
    cases htask : taskM copies item.taskId with
    | none => exact hs
    | some t =>
      dsimp only
      split
      · exact hs
      · by_cases hcharged : t.quota ≠ 0 ∧ (updateSunoTask t item).2 = true
        · obtain ⟨hquota, hrefund⟩ := hcharged
          obtain ⟨rfl, hfailed, hopen, hzero⟩ :=
            hcopy nulls copies todo hjob t htask hquota hrefund
          rw [if_pos ⟨hrefund, by decide⟩]
          exact refundInv_sunoRefund hs hfind hdue hfailed hquota hopen hzero _ _ _
        · have hsave : ¬ ((updateSunoTask t item).1.status = .failure ∧
              (updateSunoTask t item).1.quota ≠ 0) := by
            intro hboth
            apply hcharged
            refine ⟨hboth.2, ?_⟩
            by_contra hne
            exact updateSunoTask_status (by simpa using hne) hboth.1
          have hskip : (if (updateSunoTask t item).2 = true ∧ ¬ dbError = true then
              s.refundTaskQuota (updateSunoTask t item).1 else s) = s := by
            split
            · next hdo =>
              have hquota : (updateSunoTask t item).1.quota = 0 := by
                by_contra hne
                exact hcharged ⟨hne, hdo.1⟩
              unfold refundTaskQuota
              rw [if_pos hquota]
            · rfl
          rw [hskip]
          exact refundInv_sunoSave hs hfind hdue hsave _ _ _
  · exact hs

/-! ## What is owed -/

/-- A settlement leaves the refunds alone. -/
theorem refundInv_settle (hs : s.RefundInv) (hfind : s.workers.find? w.wid = some w) {t : Task}
    (hdue : w.due = some (.settle t)) (actualQuota : Int) :
    ({ s with settles := countFor s.settles t.id }.setWorker
      { w with job := settleCopies w.job t actualQuota, due := none }).RefundInv := by
  have hlaw := hs.workers w (Table.find?_mem hfind)
  refine hs.setWorker (Frozen.of_tasks (by rfl)) (by rfl) ?_ ?_
  · intro id r hr
    have hrefunded := refunded_setWorker hfind (settleCopies w.job t actualQuota) none id
    have hwaiting := waiting_setWorker hfind (settleCopies w.job t actualQuota) none id
    rw [hdue] at hrefunded hwaiting
    change _ = s.refunded id - 0 + 0 at hrefunded
    change _ = s.waiting id - 0 + 0 at hwaiting
    rw [sub_zero, add_zero] at hrefunded hwaiting
    change RowLaw r ((s.setWorker _).refunded id) ((s.setWorker _).waiting id)
    rw [hrefunded, hwaiting]
    exact hs.rows id r hr
  · have hjob := hlaw.sweep
    have hrealtime := hlaw.realtime
    unfold settleCopies
    split
    · exact workerLaw_pass _ _ _ _ _ _ no_refund
    · exact ⟨hjob, no_refund, hrealtime⟩

/-- A refund that was owed is executed. -/
theorem refundInv_refund (hs : s.RefundInv) (hfind : s.workers.find? w.wid = some w) {t : Task}
    (hdue : w.due = some (.refund t)) :
    ((s.refundTaskQuota t).setWorker { w with due := none }).RefundInv := by
  have hlaw := hs.workers w (Table.find?_mem hfind)
  have hquota := hlaw.refund t hdue
  obtain ⟨hworkers, htasks⟩ := refundTaskQuota_same (s := s) t
  have hfind' : (s.refundTaskQuota t).workers.find? w.wid = some w := hworkers ▸ hfind
  have hfrozen : Frozen s (s.refundTaskQuota t) := Frozen.of_tasks htasks
  refine hs.setWorker hfrozen hworkers ?_
    ⟨hlaw.sweep, no_refund, (hfrozen.workerLaw hlaw).realtime⟩
  intro id r hr
  rw [htasks] at hr
  have hrefunded := refunded_setWorker hfind' w.job none id
  have hwaiting := waiting_setWorker hfind' w.job none id
  have hcount := refundTaskQuota_refunded (s := s) t id
  have hsame : (s.refundTaskQuota t).waiting id = s.waiting id := by
    unfold waiting
    rw [hworkers]
  rw [hdue] at hrefunded hwaiting
  change _ = _ - (if t.id = id then (1 : Int) else 0) + 0 at hrefunded
  change _ = _ - 0 + 0 at hwaiting
  simp only [hquota, ne_eq, not_false_eq_true, true_and] at hcount
  have hrow := hs.rows id r hr
  rw [← hsame] at hrow
  have heq : ((s.refundTaskQuota t).setWorker ⟨w.wid, w.job, none⟩).refunded id =
      s.refunded id := by
    rw [hrefunded, hcount]
    omega
  have heq' : ((s.refundTaskQuota t).setWorker ⟨w.wid, w.job, none⟩).waiting id =
      (s.refundTaskQuota t).waiting id := by
    rw [hwaiting]
    omega
  show RowLaw r (((s.refundTaskQuota t).setWorker ⟨w.wid, w.job, none⟩).refunded id)
    (((s.refundTaskQuota t).setWorker ⟨w.wid, w.job, none⟩).waiting id)
  rw [heq, heq']
  exact hrow

/-- A Suno task is saved over its unfinished row. -/
theorem refundInv_save (hs : s.RefundInv) (hfind : s.workers.find? w.wid = some w) {t : Task}
    (hdue : w.due = some (.save t)) (hopen : s.IsOpen t.id)
    (hwait : s.waiting t.id = TaskDue.refundedSave t.id (some (.save t))) :
    ({ s with tasks := t.update s.tasks }.setWorker { w with due := none }).RefundInv := by
  have hlaw := hs.workers w (Table.find?_mem hfind)
  obtain ⟨row, hrow, hrowopen⟩ := hopen
  have hset : t.update s.tasks = s.tasks.set t := Table.upsert_of_find?_some hrow
  have hfrozen : Frozen s { s with tasks := t.update s.tasks } :=
    Frozen.of_set hrow hset (not_failure_of_open hrowopen)
  refine hs.setWorker hfrozen (by rfl) ?_
    ⟨hlaw.sweep, no_refund, (hfrozen.workerLaw hlaw).realtime⟩
  intro id r hr
  have hrefunded := refunded_setWorker hfind w.job none id
  have hwaiting := waiting_setWorker hfind w.job none id
  rw [hdue] at hrefunded hwaiting
  change _ = s.refunded id - 0 + 0 at hrefunded
  change _ = s.waiting id - TaskDue.refundedSave id (some (.save t)) + 0 at hwaiting
  rw [sub_zero, add_zero] at hrefunded
  rw [add_zero] at hwaiting
  show RowLaw r ((s.setWorker ⟨w.wid, w.job, none⟩).refunded id)
    ((s.setWorker ⟨w.wid, w.job, none⟩).waiting id)
  rw [hrefunded, hwaiting]
  rw [hset] at hr
  by_cases hid : t.id = id
  · subst hid
    rw [Table.find?_set_self hrow rfl] at hr
    cases hr
    have hequal := (hs.rows _ row hrow).unfinished hrowopen
    have hclosed : s.waiting t.id - TaskDue.refundedSave t.id (some (.save t)) = 0 := by omega
    rw [hclosed]
    have hsave : TaskDue.refundedSave t.id (some (.save t)) =
        if t.status = .failure ∧ t.quota ≠ 0 then 1 else 0 := by
      simp [TaskDue.refundedSave]
    rw [hsave] at hwait
    cases hstatus : t.status with
    | failure =>
      refine RowLaw.of_failure hstatus ?_ rfl
      intro hcharged
      simp only [Task.isCharged, Bool.and_eq_true, decide_eq_true_eq] at hcharged
      rw [if_pos ⟨hstatus, hcharged.1⟩] at hwait
      omega
    | success =>
      rw [if_neg (by rw [hstatus]; exact fun h => by cases h.1)] at hwait
      exact RowLaw.of_success hstatus (by omega) rfl
    | _ =>
      rw [if_neg (by rw [hstatus]; exact fun h => by cases h.1)] at hwait
      exact RowLaw.of_open (by rw [hstatus]; rfl) (by omega) (le_refl 0) (by omega)
  · rw [Table.find?_set_of_ne _ hid] at hr
    have hother : TaskDue.refundedSave id (some (.save t)) = 0 := if_neg fun h => hid h.1
    rw [hother, sub_zero]
    exact hs.rows id r hr

/-- A new worker. -/
theorem refundInv_insert (hs : s.RefundInv) {w : TaskWorker} (hdue : w.due = none)
    (hw : WorkerLaw s w) : RefundInv { s with workers := s.workers.insert w } := by
  refine ⟨?_, ?_⟩
  · intro id r hr
    have hrefunded : refunded { s with workers := s.workers.insert w } id = s.refunded id := by
      unfold refunded
      dsimp only
      cases hfind : s.workers.find? w.wid with
      | none =>
        rw [Table.sum_insert hfind, hdue]
        exact congrArg _ (add_zero _)
      | some w' => rw [Table.insert_of_find?_some hfind]
    have hwaiting : waiting { s with workers := s.workers.insert w } id = s.waiting id := by
      unfold waiting
      dsimp only
      cases hfind : s.workers.find? w.wid with
      | none =>
        rw [Table.sum_insert hfind, hdue]
        exact add_zero _
      | some w' => rw [Table.insert_of_find?_some hfind]
    rw [hrefunded, hwaiting]
    exact hs.rows id r hr
  · intro w' hw'
    have hlaw : WorkerLaw s w' := by
      cases Table.mem_of_mem_insert hw' with
      | inl hold => exact hs.workers w' hold
      | inr heq => exact heq ▸ hw
    exact ⟨hlaw.sweep, hlaw.refund, hlaw.realtime⟩

end

/-! ## Runs -/

/-- One statement keeps the law of every row. -/
theorem step_refundInv (s : TaskSystem) (e : TaskEvent) (hs : s.RefundInv)
    (hok : s.RefundsOnce e) : (s.step e).RefundInv := by
  cases e with
  | startSweep wid cutoffUnix ids =>
    refine refundInv_insert hs rfl (workerLaw_sweep s wid ?_ no_refund)
    intro t ht
    have hselected := (List.mem_filter.mp ht).2
    simp only [Task.isTimedOut, Task.isUnfinished, Bool.and_eq_true] at hselected
    simpa using hselected.1.1.2
  | startPass wid platform ids =>
    exact refundInv_insert hs rfl (workerLaw_pass s wid _ _ _ _ no_refund)
  | startRealtime wid id =>
    refine refundInv_insert hs rfl ⟨trivial, no_refund, ?_⟩
    intro t hjob hfailed
    have hfind : s.tasks.find? id = some t := by
      simpa using hjob
    obtain rfl : t.id = id := Table.find?_key hfind
    exact ⟨t, hfind, hfailed, rfl⟩
  | sweepNext wid timeoutMinutes now dbError =>
    dsimp only [step]
    cases hidle : s.idleWorker wid with
    | none => exact hs
    | some w =>
      obtain ⟨hfind, -, hdue⟩ := idleWorker_eq_some hidle
      refine refundInv_sweepNext hs hfind hdue _ _ _ ?_
      intro t rest hjob
      apply hok t
      obtain ⟨wid', job, due⟩ := w
      cases hjob
      simp only [sweepCopy, hidle]
      rfl
  | failNull wid dbError =>
    dsimp only [step]
    cases hidle : s.idleWorker wid with
    | none => exact hs
    | some w =>
      obtain ⟨hfind, -, hdue⟩ := idleWorker_eq_some hidle
      dsimp only [failNull]
      split
      · next platform nulls copies todo hjob =>
        rw [hdue]
        cases dbError with
        | true =>
          exact hs.idle hfind hdue (workerLaw_pass s w.wid _ _ _ _ no_refund) (fun _ => rfl)
            (fun _ => rfl)
        | false =>
          refine refundInv_bulk hs hfind hdue none ?_ _ _ _ _
          have hids : s.nullIDs wid = nulls := by
            obtain ⟨wid', job, due⟩ := w
            cases hjob
            simp only [nullIDs, hidle]
          simpa [RefundsOnce, hids] using hok
      · exact hs
  | failChannel wid channelId dbError =>
    dsimp only [step]
    cases hidle : s.idleWorker wid with
    | none => exact hs
    | some w =>
      obtain ⟨hfind, -, hdue⟩ := idleWorker_eq_some hidle
      dsimp only [failChannel]
      split
      · next platform nulls copies todo hjob =>
        rw [hdue]
        cases dbError with
        | true =>
          exact hs.idle hfind hdue (workerLaw_pass s w.wid _ _ _ _ no_refund) (fun _ => rfl)
            (fun _ => rfl)
        | false =>
          refine refundInv_bulk hs hfind hdue _ ?_ _ _ _ _
          have hids : s.channelIDs wid channelId = failedIDs copies todo channelId := by
            obtain ⟨wid', job, due⟩ := w
            cases hjob
            simp only [channelIDs, hidle]
          simpa [RefundsOnce, hids] using hok
      · exact hs
  | poll wid channelId upstreamId answer now dbError =>
    dsimp only [step]
    cases hidle : s.idleWorker wid with
    | none => exact hs
    | some w =>
      obtain ⟨hfind, -, hdue⟩ := idleWorker_eq_some hidle
      refine refundInv_poll hs hfind hdue _ _ _ _ _ ?_
      intro platform nulls copies todo hjob t ht
      apply hok t
      obtain ⟨wid', job, due⟩ := w
      cases hjob
      simp only [pollCopy, hidle]
      exact ht
  | sunoItem wid item dbError =>
    dsimp only [step]
    cases hidle : s.idleWorker wid with
    | none => exact hs
    | some w =>
      obtain ⟨hfind, -, hdue⟩ := idleWorker_eq_some hidle
      refine refundInv_sunoItem hs hfind hdue _ _ ?_
      intro nulls copies todo hjob t ht
      apply hok t
      obtain ⟨wid', job, due⟩ := w
      cases hjob
      simp only [sunoCopy, hidle]
      exact ht
  | realtimeWrite wid answer dbError =>
    dsimp only [step]
    cases hidle : s.idleWorker wid with
    | none => exact hs
    | some w =>
      obtain ⟨hfind, -, hdue⟩ := idleWorker_eq_some hidle
      refine refundInv_realtimeWrite hs hfind hdue _ _ ?_
      intro t hjob
      apply hok t
      obtain ⟨wid', job, due⟩ := w
      cases hjob
      simp only [realtimeCopy, hidle]
      rfl
  | finish wid actualQuota dbError =>
    dsimp only [step]
    cases hfind : s.workers.find? wid with
    | none => exact hs
    | some w =>
      obtain ⟨hrefund, hsave⟩ := hok
      have hfind' : s.workers.find? w.wid = some w := by
        rw [show w.wid = wid from Table.find?_key hfind]
        exact hfind
      dsimp only [finish]
      split
      · exact hs
      · next t hdue => exact refundInv_settle hs hfind' hdue _
      · next t hdue =>
        have herror : dbError = false := hrefund t (by simp [refundDue, hfind, hdue])
        subst herror
        exact refundInv_refund hs hfind' hdue
      · next t hdue =>
        obtain ⟨rfl, hopen, hwait⟩ := hsave t (by simp [saveDue, hfind, hdue])
        exact refundInv_save hs hfind' hdue hopen hwait

/-- A charged task that has failed is refunded exactly once, now or by a worker that owes the
    refund; a task that has succeeded is not. -/
def RefundLaw (s : TaskSystem) : Prop := ∀ r ∈ s.tasks.rows,
  (r.status = .failure → r.isCharged = true →
    s.refunded r.id = 1 ∧
      ((∀ w ∈ s.workers.rows, TaskDue.refundOwed r.id w.due = 0) → s.refunds r.id = 1)) ∧
  (r.status = .success → s.refunds r.id = 0)

theorem RefundInv.refundLaw {s : TaskSystem} (hs : s.RefundInv) : s.RefundLaw := by
  intro r hr
  have hlaw := hs.rows r.id r (Table.find?_of_mem hr)
  constructor
  · intro hfailed hcharged
    have hone := hlaw.failed hfailed hcharged
    refine ⟨hone, ?_⟩
    intro hnone
    have hsum : (s.workers.sum fun w => TaskDue.refundOwed r.id w.due) = 0 :=
      Table.sum_eq_zero _ hnone
    unfold refunded at hone
    omega
  · intro hsuccess
    have hzero := hlaw.succeeded hsuccess
    have hnonneg : 0 ≤ s.workers.sum fun w => TaskDue.refundOwed r.id w.due := by
      apply Table.sum_nonneg
      intro w _
      unfold TaskDue.refundOwed
      split
      · split <;> omega
      · omega
    unfold refunded at hzero
    omega

theorem start_refundInv {tasks : Tasks} (h : ∀ r ∈ tasks.rows, r.status.isTerminal = false)
    (serverAddress : String) : (start serverAddress tasks).RefundInv := by
  refine ⟨?_, ?_⟩
  · intro id r hr
    have hopen := h r (Table.find?_mem hr)
    have hrefunded : (start serverAddress tasks).refunded id = 0 := by
      simp [start, refunded]
    have hwaiting : (start serverAddress tasks).waiting id = 0 := by
      simp [start, waiting]
    rw [hrefunded, hwaiting]
    exact RowLaw.of_open hopen rfl (le_refl 0) (by omega)
  · intro w hw
    exact absurd hw (by simp [start])

end TaskSystem

open TaskSystem in
/-- Tasks that are unfinished at first: in every state of every run of sweeps, polls, bulk updates
    and realtime fetches that meet the condition, a charged task that has failed is refunded
    exactly once, at the latest when no worker owes a refund any more, and a task that has
    succeeded was never refunded. -/
theorem failed_tasks_refunded (serverAddress : String) (tasks : Tasks)
    (htasks : ∀ r ∈ tasks.rows, r.status.isTerminal = false) (es : List TaskEvent)
    (hes : Run.Steps step RefundsOnce (start serverAddress tasks) es) :
    Run.Always step RefundLaw (start serverAddress tasks) es :=
  (Run.always_of_steps step_refundInv (start_refundInv htasks serverAddress) hes).mono
    fun _ hs => hs.refundLaw

/-- A Suno task fails upstream and is refunded and saved; the sweep that has read it before loses
    its write. -/
theorem failed_suno_task_refunded :
    let tasks : Tasks := Table.empty.insert
      { id := 1, taskId := "song", platform := .suno, channelId := 5, quota := 100,
        status := .inProgress, submitTime := 1800000000 }
    let es : List TaskEvent := [.startSweep 0 1900000000 [1], .startPass 1 .suno [1],
      .sunoItem 1 { taskId := "song", status := some .failure, failReason := "no" } false,
      .finish 1 0 false, .sweepNext 0 1440 1900000000 false]
    (Run.run TaskSystem.step (.start "" tasks) es).refunds 1 = 1 ∧
      Run.Always TaskSystem.step TaskSystem.RefundLaw (.start "" tasks) es := by
  intro tasks es
  exact ⟨by decide,
    failed_tasks_refunded "" tasks (by decide) es (by decide)⟩

/-- The channel of a charged task is gone: the pass fails the task and nobody refunds it. -/
theorem missing_channel_keeps_charge :
    let es : List TaskEvent := [.startPass 0 (.other "24") [1], .failChannel 0 5 false]
    let s := Run.run TaskSystem.step (.start "" geminiTasks) es
    s.statusOf 1 = some .failure ∧ s.refunds 1 = 0 ∧ s.refunded 1 = 0 ∧ ¬ s.RefundLaw := by
  intro es s
  refine ⟨by decide, by decide, by decide, ?_⟩
  intro hlaw
  have hrow : ∃ r ∈ s.tasks.rows, r.id = 1 ∧ r.status = .failure ∧ r.isCharged = true := by
    decide
  obtain ⟨r, hr, hid, hfailed, hcharged⟩ := hrow
  have hone := ((hlaw r hr).1 hfailed hcharged).1
  rw [hid] at hone
  exact absurd hone (by decide)

end TokenRouter
