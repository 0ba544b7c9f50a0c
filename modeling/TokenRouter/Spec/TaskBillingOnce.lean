import TokenRouter.Service.TaskPolling
import TokenRouter.ForStd.Run

/-!
# The billing of a task is decided once

Sweeps and polls bill a task only after they have moved its row, by a conditional write, from an
unfinished status to a terminal one. So the refunds and settlements of a task, together with those
that a worker still owes, are at most one, and none before its row is terminal. This needs that no
row leaves a terminal status, which a realtime fetch of a finished task does not respect, and that
no poll works on a copy that it has finished itself.

## Key results

- `TaskSystem.step_effect`: what one statement does to the row and to the load of a task
- `task_billed_once`: every run of sweeps, polls and realtime fetches that meet the condition
-/

namespace TokenRouter

/-- A billing that is owed for a task. -/
def TaskDue.billing (id : Int) : Option TaskDue → Int
  | some (.settle t) => if t.id = id then 1 else 0
  | some (.refund t) => if t.id = id then 1 else 0
  | _ => 0

@[simp] theorem TaskDue.billing_none (id : Int) : TaskDue.billing id none = 0 := rfl

/-! ## Conditional writes -/

namespace Task

/-- A conditional write is lost, or the row had the expected status. -/
theorem updateWithStatus_cases (tasks : Tasks) (t : Task) (fromStatus : TaskStatus) :
    t.updateWithStatus tasks fromStatus = (false, tasks) ∨
      ∃ row, tasks.find? t.id = some row ∧ row.status = fromStatus ∧
        t.updateWithStatus tasks fromStatus = (true, tasks.set t) := by
  unfold updateWithStatus
  cases hfind : tasks.find? t.id with
  | none => exact .inl rfl
  | some row =>
    dsimp only
    by_cases hstatus : row.status = fromStatus
    · exact .inr ⟨row, rfl, hstatus, if_pos hstatus⟩
    · exact .inl (if_neg hstatus)

end Task

/-- A poll keeps the id of its copy. -/
theorem applyVideoResult_id (serverAddress : String) (t : Task) (result : TaskInfo) (now : Int) :
    (applyVideoResult serverAddress t result now).1.id = t.id := by
  unfold applyVideoResult
  split <;> rfl

theorem updateVideoSingleTask_id (serverAddress : String) (t : Task) (answer : FetchAnswer)
    (now : Int) : (updateVideoSingleTask serverAddress t answer now).1.id = t.id := by
  unfold updateVideoSingleTask
  cases answer with
  | failed => rfl
  | parsed result data body =>
    dsimp only
    split
    · rfl
    · split
      · next t' heq =>
        have hid := applyVideoResult_id serverAddress { t with data := data }
          (result.resolve body) now
        rw [heq] at hid
        exact hid
      · next t' settle refund heq =>
        have hid := applyVideoResult_id serverAddress { t with data := data }
          (result.resolve body) now
        rw [heq] at hid
        split
        · exact hid
        · exact hid

/-- Only terminal results are billed. -/
theorem applyVideoResult_flags {serverAddress : String} {t t' : Task} {result : TaskInfo}
    {now : Int} {settle refund : Bool}
    (h : applyVideoResult serverAddress t result now = (t', some (settle, refund)))
    (hopen : t'.status.isTerminal = false) : settle = false ∧ refund = false := by
  unfold applyVideoResult at h
  split at h
  · cases h
    exact ⟨rfl, rfl⟩
  · cases h
    exact ⟨rfl, rfl⟩
  · cases h
    exact ⟨rfl, rfl⟩
  · cases h
    cases hopen
  · cases h
    cases hopen
  · cases h
  · cases h

/-- From an unfinished copy a poll bills through a transition only. -/
theorem updateVideoSingleTask_cases {serverAddress : String} {t t' : Task} {answer : FetchAnswer}
    {now : Int} {action : PollAction} (hopen : t.status.isTerminal = false)
    (h : updateVideoSingleTask serverAddress t answer now = (t', action)) :
    action = .stop ∨
      (∃ settle refund, action = .transition settle refund ∧ t'.status.isTerminal = true) ∨
      ∃ write, action = .refresh write false false ∧ t'.status.isTerminal = false := by
  unfold updateVideoSingleTask at h
  cases answer with
  | failed =>
    cases h
    exact .inl rfl
  | parsed result data body =>
    dsimp only at h
    split at h
    · cases h
      exact .inl rfl
    · split at h
      · cases h
        exact .inl rfl
      · next t'' settle refund heq =>
        split at h
        · next hdone =>
          cases h
          exact .inr (.inl ⟨settle, refund, rfl, hdone.1⟩)
        · next hdone =>
          cases h
          right
          right
          have hterminal : t'.status.isTerminal = false := by
            by_contra hterm
            have htrue : t'.status.isTerminal = true := by simpa using hterm
            apply hdone
            refine ⟨htrue, ?_⟩
            intro hsame
            rw [hsame, htrue] at hopen
            cases hopen
          obtain ⟨rfl, rfl⟩ := applyVideoResult_flags heq hterminal
          exact ⟨_, rfl, hterminal⟩

namespace TaskSystem

/-! ## Load -/

/-- The status of a row. -/
def statusOf (s : TaskSystem) (id : Int) : Option TaskStatus := (s.tasks.find? id).map (·.status)

/-- Whether the row of a task is terminal. -/
def isTerminal (s : TaskSystem) (id : Int) : Bool := (s.statusOf id).any (·.isTerminal)

/-- The billings of a task, executed or owed. -/
def load (s : TaskSystem) (id : Int) : Int :=
  s.refunds id + s.settles id + s.workers.sum fun w => TaskDue.billing id w.due

theorem load_setWorker {s : TaskSystem} {w : TaskWorker} (h : s.workers.find? w.wid = some w)
    (job : TaskJob) (due : Option TaskDue) (id : Int) :
    (s.setWorker { w with job := job, due := due }).load id =
      s.load id - TaskDue.billing id w.due + TaskDue.billing id due := by
  have hsum := Table.sum_set (fun w : TaskWorker => TaskDue.billing id w.due)
    (r := { w with job := job, due := due }) h
  unfold load setWorker
  dsimp only at hsum ⊢
  omega

/-- A worker that owes nothing. -/
theorem idleWorker_eq_some {s : TaskSystem} {wid : Nat} {w : TaskWorker}
    (h : s.idleWorker wid = some w) :
    s.workers.find? w.wid = some w ∧ w.wid = wid ∧ w.due = none := by
  unfold idleWorker at h
  cases hfind : s.workers.find? wid with
  | none =>
    rw [hfind] at h
    cases h
  | some w' =>
    rw [hfind] at h
    dsimp only at h
    split at h
    · next hdue =>
      cases h
      have hwid : w.wid = wid := Table.find?_key hfind
      exact ⟨hwid ▸ hfind, hwid, hdue⟩
    · cases h

/-- What one statement may do to a task: its load does not grow and a terminal row stays, or its
    row becomes terminal and at most one billing is owed for that. -/
def Effect (s s' : TaskSystem) : Prop := ∀ id,
  (s'.load id ≤ s.load id ∧ (s.isTerminal id = true → s'.statusOf id = s.statusOf id)) ∨
    (s.isTerminal id = false ∧ s'.isTerminal id = true ∧ s'.load id ≤ s.load id + 1)

theorem Effect.refl (s : TaskSystem) : Effect s s := fun _ => .inl ⟨le_refl _, fun _ => rfl⟩

/-- The rows are as before. -/
theorem Effect.of_tasks {s s' : TaskSystem} (htasks : s'.tasks = s.tasks)
    (hload : ∀ id, s'.load id ≤ s.load id) : Effect s s' := fun id =>
  .inl ⟨hload id, fun _ => by rw [statusOf, statusOf, htasks]⟩

/-- One row was written under its condition. -/
theorem Effect.of_set {s s' : TaskSystem} {row t : Task} (hfind : s.tasks.find? t.id = some row)
    (htasks : s'.tasks = s.tasks.set t)
    (hload : ∀ id, id ≠ t.id → s'.load id ≤ s.load id)
    (hself : (s'.load t.id ≤ s.load t.id ∧
        (row.status.isTerminal = true → t.status = row.status)) ∨
      (row.status.isTerminal = false ∧ t.status.isTerminal = true ∧
        s'.load t.id ≤ s.load t.id + 1)) : Effect s s' := by
  intro id
  by_cases hid : id = t.id
  · subst hid
    have hstatus : s'.statusOf t.id = some t.status := by
      rw [statusOf, htasks, Table.find?_set_self hfind rfl]
      rfl
    have hold : s.statusOf t.id = some row.status := by
      rw [statusOf, hfind]
      rfl
    simp only [isTerminal, hstatus, hold, Option.any_some]
    obtain ⟨hle, hkeep⟩ | hdone := hself
    · exact .inl ⟨hle, fun hterm => by rw [hkeep hterm]⟩
    · exact .inr hdone
  · refine .inl ⟨hload id hid, fun _ => ?_⟩
    rw [statusOf, statusOf, htasks, Table.find?_set_of_ne _ (Ne.symm hid)]

/-! ## Sweeps, polls and realtime fetches -/

/-- The copy that a poll works on. -/
def pollCopy (s : TaskSystem) (wid : Nat) (upstreamId : String) : Option Task :=
  match s.idleWorker wid with
  | some ⟨_, .pass _ _ copies _, _⟩ => taskM copies upstreamId
  | _ => none

/-- The copy that a realtime fetch works on. -/
def realtimeCopy (s : TaskSystem) (wid : Nat) : Option Task :=
  match s.idleWorker wid with
  | some ⟨_, .realtime copy, _⟩ => copy
  | _ => none

end TaskSystem

/-- Sweeps, video polls and realtime fetches. -/
def TaskEvent.isConditional : TaskEvent → Bool
  | .failNull _ _ => false
  | .failChannel _ _ _ => false
  | .sunoItem _ _ _ => false
  | _ => true

namespace TaskSystem

/-- A poll does not start from a copy that is finished already, and a realtime fetch does not
    give a finished task another status. -/
def KeepsFinished (s : TaskSystem) : TaskEvent → Prop
  | .poll wid _ upstreamId _ _ _ =>
    ∀ t ∈ s.pollCopy wid upstreamId, t.status.isTerminal = false
  | .realtimeWrite wid answer _ =>
    ∀ t ∈ s.realtimeCopy wid, ∀ ti ∈ answer, t.status.isTerminal = true →
      ti.status.getD t.status = t.status
  | _ => True

instance (s : TaskSystem) (e : TaskEvent) : Decidable (s.KeepsFinished e) :=
  match e with
  | .poll wid _ upstreamId _ _ _ =>
    inferInstanceAs (Decidable (∀ t ∈ s.pollCopy wid upstreamId, t.status.isTerminal = false))
  | .realtimeWrite wid answer _ =>
    inferInstanceAs (Decidable (∀ t ∈ s.realtimeCopy wid, ∀ ti ∈ answer,
      t.status.isTerminal = true → ti.status.getD t.status = t.status))
  | .startSweep _ _ _ => isTrue trivial
  | .startPass _ _ _ => isTrue trivial
  | .startRealtime _ _ => isTrue trivial
  | .sweepNext _ _ _ _ => isTrue trivial
  | .failNull _ _ => isTrue trivial
  | .failChannel _ _ _ => isTrue trivial
  | .sunoItem _ _ _ => isTrue trivial
  | .finish _ _ _ => isTrue trivial

/-- The copies of a sweep are unfinished. -/
def SweepOk (job : TaskJob) : Prop :=
  match job with
  | .sweep todo => ∀ t ∈ todo, t.status.isTerminal = false
  | _ => True

/-- The workers of a run of conditional events. -/
structure WorkersOk (s : TaskSystem) : Prop where
  sweeps : ∀ w ∈ s.workers.rows, SweepOk w.job
  saves : ∀ w ∈ s.workers.rows, ∀ t, w.due ≠ some (.save t)

section

variable {s : TaskSystem} {w : TaskWorker}

/-- A worker goes on without a write. -/
theorem effect_idle (hfind : s.workers.find? w.wid = some w) (hdue : w.due = none)
    (job : TaskJob) : Effect s (s.setWorker { w with job := job, due := none }) := by
  refine Effect.of_tasks rfl fun id => ?_
  rw [load_setWorker hfind, hdue]
  simp

/-- A worker that owes nothing writes a row, and owes for that row at most. -/
theorem effect_write (hfind : s.workers.find? w.wid = some w) (hdue : w.due = none)
    {row t : Task} (hrow : s.tasks.find? t.id = some row) (job : TaskJob) {due : Option TaskDue}
    (hother : ∀ id, id ≠ t.id → TaskDue.billing id due = 0)
    (hself : (due = none ∧ (row.status.isTerminal = true → t.status = row.status)) ∨
      (row.status.isTerminal = false ∧ t.status.isTerminal = true ∧
        TaskDue.billing t.id due ≤ 1)) :
    Effect s ({ s with tasks := s.tasks.set t }.setWorker { w with job := job, due := due }) := by
  have hload : ∀ id, ({ s with tasks := s.tasks.set t }.setWorker
      { w with job := job, due := due }).load id = s.load id + TaskDue.billing id due := by
    intro id
    have h := load_setWorker hfind job due id
    rw [hdue, TaskDue.billing_none, sub_zero] at h
    exact h
  refine Effect.of_set hrow rfl ?_ ?_
  · intro id hid
    rw [hload, hother id hid, add_zero]
  · rw [hload]
    obtain ⟨rfl, hkeep⟩ | ⟨hopen, hdone, hle⟩ := hself
    · exact .inl ⟨by simp, hkeep⟩
    · exact .inr ⟨hopen, hdone, by omega⟩

theorem billing_of_ne {t : Task} {id : Int} (h : id ≠ t.id) :
    TaskDue.billing id (some (.refund t)) = 0 ∧ TaskDue.billing id (some (.settle t)) = 0 :=
  ⟨if_neg (Ne.symm h), if_neg (Ne.symm h)⟩

theorem billing_le_one (id : Int) (due : Option TaskDue) : TaskDue.billing id due ≤ 1 := by
  unfold TaskDue.billing
  split
  · split <;> omega
  · split <;> omega
  · omega

theorem billingDue_of_ne {t : Task} {id : Int} (h : id ≠ t.id) (settle refund : Bool) :
    TaskDue.billing id (billingDue t settle refund) = 0 := by
  unfold billingDue
  split
  · exact (billing_of_ne h).2
  · split
    · exact (billing_of_ne h).1
    · rfl

theorem effect_sweepNext (hfind : s.workers.find? w.wid = some w) (hdue : w.due = none)
    (hok : SweepOk w.job) (timeoutMinutes now : Int) (dbError : Bool) :
    Effect s (s.sweepNext w timeoutMinutes now dbError) := by
  unfold sweepNext
  split
  · next t rest hjob =>
    rw [hjob] at hok
    have hopen : t.status.isTerminal = false := hok t List.mem_cons_self
    cases dbError with
    | true => exact effect_idle hfind hdue _
    | false =>
      simp only [Bool.false_eq_true, if_false]
      obtain hlost | ⟨row, hrow, hstatus, hwon⟩ :=
        Task.updateWithStatus_cases s.tasks (sweptTask t timeoutMinutes now) t.status
      · rw [hlost]
        exact effect_idle hfind hdue _
      · rw [hwon]
        refine effect_write hfind hdue hrow _ ?_ (.inr ⟨hstatus ▸ hopen, rfl, billing_le_one _ _⟩)
        intro id hid
        split
        · exact (billing_of_ne hid).1
        · rfl
  · exact Effect.refl s

theorem effect_poll (hfind : s.workers.find? w.wid = some w) (hdue : w.due = none)
    (channelId : Int) (upstreamId : String) (answer : FetchAnswer) (now : Int) (dbError : Bool)
    (hcopy : ∀ platform nulls copies todo, w.job = .pass platform nulls copies todo →
      ∀ t ∈ taskM copies upstreamId, t.status.isTerminal = false) :
    Effect s (s.poll w channelId upstreamId answer now dbError) := by
  unfold poll
  split
  · next platform nulls copies todo hjob =>
    split
    · exact Effect.refl s
    · dsimp only
      cases htask : taskM copies upstreamId with
      | none =>
        dsimp only
        rw [hdue]
        exact effect_idle hfind hdue _
      | some t =>
        have hopen := hcopy platform nulls copies todo hjob t htask
        have hid := updateVideoSingleTask_id s.serverAddress t answer now
        dsimp only
        cases hpoll : updateVideoSingleTask s.serverAddress t answer now with
        | mk t' action =>
          rw [hpoll] at hid
          dsimp only at hid ⊢
          obtain rfl | ⟨settle, refund, rfl, hdone⟩ | ⟨write, rfl, hstill⟩ :=
            updateVideoSingleTask_cases hopen hpoll
          · dsimp only
            rw [hdue]
            exact effect_idle hfind hdue _
          · cases dbError with
            | true => exact effect_idle hfind hdue _
            | false =>
              dsimp only
              simp only [Bool.false_eq_true, if_false]
              obtain hlost | ⟨row, hrow, hstatus, hwon⟩ :=
                Task.updateWithStatus_cases s.tasks t' t.status
              · rw [hlost]
                exact effect_idle hfind hdue _
              · rw [hwon]
                exact effect_write hfind hdue hrow _ (fun id h => billingDue_of_ne h _ _)
                  (.inr ⟨hstatus ▸ hopen, hdone, billing_le_one _ _⟩)
          · dsimp only
            split
            · obtain hlost | ⟨row, hrow, hstatus, hwon⟩ :=
                Task.updateWithStatus_cases s.tasks t' t.status
              · rw [hlost]
                exact effect_idle hfind hdue _
              · rw [hwon]
                refine effect_write hfind hdue hrow _ (fun id _ => rfl) (.inl ⟨rfl, ?_⟩)
                intro hterm
                rw [hstatus, hopen] at hterm
                cases hterm
            · exact effect_idle hfind hdue _
  · exact Effect.refl s

theorem effect_realtimeWrite (hfind : s.workers.find? w.wid = some w) (hdue : w.due = none)
    (answer : Option TaskInfo) (dbError : Bool)
    (hcopy : ∀ t, w.job = .realtime (some t) → ∀ ti ∈ answer, t.status.isTerminal = true →
      ti.status.getD t.status = t.status) :
    Effect s (s.realtimeWrite w answer dbError) := by
  unfold realtimeWrite
  split
  · next t hjob =>
    cases answer with
    | none =>
      dsimp only
      rw [hdue]
      exact effect_idle hfind hdue _
    | some ti =>
      dsimp only
      rw [hdue]
      split
      · exact effect_idle hfind hdue _
      · obtain hlost | ⟨row, hrow, hstatus, hwon⟩ :=
          Task.updateWithStatus_cases s.tasks (tryRealtimeFetch s.serverAddress t ti) t.status
        · rw [hlost]
          exact effect_idle hfind hdue _
        · rw [hwon]
          -- without a change of a terminal status nothing is owed
          refine effect_write hfind hdue hrow _ (fun id _ => rfl) (.inl ⟨rfl, ?_⟩)
          intro hterm
          rw [hstatus] at hterm ⊢
          exact hcopy t hjob ti rfl hterm
  · exact Effect.refl s

theorem countFor_eq (counts : Int → Nat) (task id : Int) :
    (countFor counts task id : Int) = counts id + if task = id then 1 else 0 := by
  unfold countFor
  by_cases hid : task = id
  · subst hid
    rw [Function.update_self, if_pos rfl]
    push_cast
    ring
  · rw [Function.update_of_ne (Ne.symm hid), if_neg hid, add_zero]

/-- A refund counts once at most. -/
theorem refundTaskQuota_load (t : Task) (id : Int) :
    (s.refundTaskQuota t).load id ≤ s.load id + if t.id = id then 1 else 0 := by
  unfold refundTaskQuota
  split
  · split <;> omega
  · have hcount := countFor_eq s.refunds t.id id
    unfold load
    dsimp only
    omega

/-- What is owed is executed. -/
theorem effect_finish (hfind : s.workers.find? w.wid = some w) (hsave : ∀ t, w.due ≠ some (.save t))
    (actualQuota : Int) (dbError : Bool) : Effect s (s.finish w actualQuota dbError) := by
  unfold finish
  split
  · exact Effect.refl s
  · next t hdue =>
    refine Effect.of_tasks rfl fun id => ?_
    have hset := load_setWorker (s := { s with settles := countFor s.settles t.id }) hfind
      (settleCopies w.job t (if dbError then 0 else actualQuota)) none id
    have hcount := countFor_eq s.settles t.id id
    rw [hset, hdue]
    show _ - (if t.id = id then (1 : Int) else 0) + 0 ≤ _
    unfold load
    dsimp only
    omega
  · next t hdue =>
    cases dbError with
    | true =>
      refine Effect.of_tasks rfl fun id => ?_
      have hle : (0 : Int) ≤ if t.id = id then (1 : Int) else 0 := by split <;> omega
      have hset := load_setWorker hfind w.job none id
      rw [hdue] at hset
      change (s.setWorker { w with due := none }).load id =
        s.load id - (if t.id = id then (1 : Int) else 0) + 0 at hset
      change (s.setWorker { w with due := none }).load id ≤ s.load id
      omega
    | false =>
      have hworkers : (s.refundTaskQuota t).workers = s.workers := by
        unfold refundTaskQuota
        split <;> rfl
      have htasks : (s.refundTaskQuota t).tasks = s.tasks := by
        unfold refundTaskQuota
        split <;> rfl
      refine Effect.of_tasks htasks fun id => ?_
      have hset := load_setWorker (s := s.refundTaskQuota t) (hworkers ▸ hfind) w.job none id
      rw [hdue] at hset
      change ((s.refundTaskQuota t).setWorker { w with due := none }).load id =
        (s.refundTaskQuota t).load id - (if t.id = id then (1 : Int) else 0) + 0 at hset
      have hle := refundTaskQuota_load (s := s) t id
      change ((s.refundTaskQuota t).setWorker { w with due := none }).load id ≤ s.load id
      omega
  · next t hdue => exact absurd hdue (hsave t)

/-- A new worker owes nothing. -/
theorem effect_insert {w : TaskWorker} (hdue : w.due = none) :
    Effect s { s with workers := s.workers.insert w } := by
  refine Effect.of_tasks rfl fun id => ?_
  unfold load
  dsimp only
  cases hfind : s.workers.find? w.wid with
  | none =>
    rw [Table.sum_insert hfind, hdue]
    simp
  | some w' => rw [Table.insert_of_find?_some hfind]

end

/-- What one statement does to a task. -/
theorem step_effect (s : TaskSystem) (e : TaskEvent) (hs : s.WorkersOk)
    (hkind : e.isConditional = true) (hkeeps : s.KeepsFinished e) : Effect s (s.step e) := by
  cases e with
  | startSweep wid cutoffUnix ids => exact effect_insert rfl
  | startPass wid platform ids => exact effect_insert rfl
  | startRealtime wid id => exact effect_insert rfl
  | sweepNext wid timeoutMinutes now dbError =>
    dsimp only [step]
    cases hidle : s.idleWorker wid with
    | none => exact Effect.refl s
    | some w =>
      obtain ⟨hfind, -, hdue⟩ := idleWorker_eq_some hidle
      exact effect_sweepNext hfind hdue (hs.sweeps w (Table.find?_mem hfind)) _ _ _
  | failNull wid dbError => cases hkind
  | failChannel wid channelId dbError => cases hkind
  | poll wid channelId upstreamId answer now dbError =>
    dsimp only [step]
    cases hidle : s.idleWorker wid with
    | none => exact Effect.refl s
    | some w =>
      obtain ⟨hfind, -, hdue⟩ := idleWorker_eq_some hidle
      refine effect_poll hfind hdue _ _ _ _ _ ?_
      intro platform nulls copies todo hjob t ht
      have hcopy : s.pollCopy wid upstreamId = taskM copies upstreamId := by
        obtain ⟨wid', job, due⟩ := w
        cases hjob
        simp only [pollCopy, hidle]
      exact hkeeps t (hcopy ▸ ht)
  | sunoItem wid item dbError => cases hkind
  | realtimeWrite wid answer dbError =>
    dsimp only [step]
    cases hidle : s.idleWorker wid with
    | none => exact Effect.refl s
    | some w =>
      obtain ⟨hfind, -, hdue⟩ := idleWorker_eq_some hidle
      refine effect_realtimeWrite hfind hdue _ _ ?_
      intro t hjob ti hti
      have hcopy : s.realtimeCopy wid = some t := by
        obtain ⟨wid', job, due⟩ := w
        cases hjob
        simp only [realtimeCopy, hidle]
      exact hkeeps t hcopy ti hti
  | finish wid actualQuota dbError =>
    dsimp only [step]
    cases hfind : s.workers.find? wid with
    | none => exact Effect.refl s
    | some w =>
      have hmem := Table.find?_mem hfind
      obtain rfl : w.wid = wid := Table.find?_key hfind
      exact effect_finish hfind (hs.saves w hmem) _ _

/-! ## Workers -/

/-- A worker is as conditional events leave it. -/
def WorkerOk (w : TaskWorker) : Prop := SweepOk w.job ∧ ∀ t, w.due ≠ some (.save t)

theorem WorkersOk.of_mem {s : TaskSystem} (hs : s.WorkersOk) {w : TaskWorker}
    (h : w ∈ s.workers.rows) : WorkerOk w := ⟨hs.sweeps w h, hs.saves w h⟩

theorem WorkersOk.setWorker {s s' : TaskSystem} (hs : s.WorkersOk)
    (hworkers : s'.workers = s.workers) {w : TaskWorker} (hw : WorkerOk w) :
    (s'.setWorker w).WorkersOk := by
  have hall : ∀ w' ∈ (s'.workers.set w).rows, WorkerOk w' := by
    intro w' hw'
    rw [hworkers] at hw'
    cases Table.mem_set hw' with
    | inl heq => exact heq ▸ hw
    | inr hold => exact hs.of_mem hold.1
  exact ⟨fun w' hw' => (hall w' hw').1, fun w' hw' => (hall w' hw').2⟩

theorem WorkersOk.insert {s : TaskSystem} (hs : s.WorkersOk) {w : TaskWorker} (hw : WorkerOk w) :
    WorkersOk { s with workers := s.workers.insert w } := by
  have hall : ∀ w' ∈ (s.workers.insert w).rows, WorkerOk w' := by
    intro w' hw'
    cases Table.mem_of_mem_insert hw' with
    | inl hold => exact hs.of_mem hold
    | inr heq => exact heq ▸ hw
  exact ⟨fun w' hw' => (hall w' hw').1, fun w' hw' => (hall w' hw').2⟩

theorem billingDue_ne_save (t : Task) (settle refund : Bool) (t' : Task) :
    billingDue t settle refund ≠ some (.save t') := by
  unfold billingDue
  split
  · exact nofun
  · split
    · exact nofun
    · exact nofun

/-- A worker that owed nothing. -/
theorem ne_save_of_none {w : TaskWorker} (hdue : w.due = none) (t : Task) :
    w.due ≠ some (.save t) := by
  rw [hdue]
  exact nofun

theorem poll_workers {s : TaskSystem} (hs : s.WorkersOk) {w : TaskWorker}
    (hdue : w.due = none) (channelId : Int) (upstreamId : String) (answer : FetchAnswer) (now : Int)
    (dbError : Bool) : (s.poll w channelId upstreamId answer now dbError).WorkersOk := by
  have hnone := ne_save_of_none hdue
  unfold poll
  split
  · next platform nulls copies todo hjob =>
    split
    · exact hs
    · dsimp only
      split
      · exact hs.setWorker (by rfl) ⟨trivial, hnone⟩
      · next t _ =>
        cases updateVideoSingleTask s.serverAddress t answer now with
        | mk t' action =>
          dsimp only
          cases action with
          | stop => exact hs.setWorker (by rfl) ⟨trivial, hnone⟩
          | transition settle refund =>
            refine hs.setWorker (by rfl) ⟨trivial, ?_⟩
            intro t
            dsimp only
            generalize (if dbError then (false, s.tasks) else _) = result
            split
            · exact billingDue_ne_save t' settle refund t
            · exact nofun
          | refresh write settle refund =>
            exact hs.setWorker (by rfl) ⟨trivial, billingDue_ne_save t' settle refund⟩
  · exact hs

theorem step_workersOk (s : TaskSystem) (e : TaskEvent) (hs : s.WorkersOk)
    (hkind : e.isConditional = true) : (s.step e).WorkersOk := by
  cases e with
  | startSweep wid cutoffUnix ids =>
    refine hs.insert ⟨?_, ne_save_of_none rfl⟩
    intro t ht
    have hselected := (List.mem_filter.mp ht).2
    simp only [Task.isTimedOut, Task.isUnfinished, Bool.and_eq_true] at hselected
    simpa using hselected.1.1.2
  | startPass wid platform ids => exact hs.insert ⟨trivial, ne_save_of_none rfl⟩
  | startRealtime wid id => exact hs.insert ⟨trivial, ne_save_of_none rfl⟩
  | sweepNext wid timeoutMinutes now dbError =>
    dsimp only [step]
    cases hidle : s.idleWorker wid with
    | none => exact hs
    | some w =>
      obtain ⟨hfind, -, -⟩ := idleWorker_eq_some hidle
      have hok := hs.sweeps w (Table.find?_mem hfind)
      dsimp only [sweepNext]
      split
      · next t rest hjob =>
        rw [hjob] at hok
        refine hs.setWorker (by rfl) ⟨fun t' ht' => hok t' (List.mem_cons_of_mem _ ht'), fun t' => ?_⟩
        dsimp only
        generalize (if dbError then (false, s.tasks)
          else (sweptTask t timeoutMinutes now).updateWithStatus s.tasks t.status).1 = won
        split
        · exact nofun
        · exact nofun
      · exact hs
  | failNull wid dbError => cases hkind
  | failChannel wid channelId dbError => cases hkind
  | poll wid channelId upstreamId answer now dbError =>
    dsimp only [step]
    cases hidle : s.idleWorker wid with
    | none => exact hs
    | some w => exact poll_workers hs (idleWorker_eq_some hidle).2.2 _ _ _ _ _
  | sunoItem wid item dbError => cases hkind
  | realtimeWrite wid answer dbError =>
    dsimp only [step]
    cases hidle : s.idleWorker wid with
    | none => exact hs
    | some w =>
      have hnone := ne_save_of_none (idleWorker_eq_some hidle).2.2
      dsimp only [realtimeWrite]
      split
      · split
        · exact hs.setWorker (by rfl) ⟨trivial, hnone⟩
        · exact hs.setWorker (by rfl) ⟨trivial, hnone⟩
      · exact hs
  | finish wid actualQuota dbError =>
    dsimp only [step]
    cases hfind : s.workers.find? wid with
    | none => exact hs
    | some w =>
      have hok := hs.sweeps w (Table.find?_mem hfind)
      dsimp only [finish]
      split
      · exact hs
      · refine hs.setWorker (by rfl) ⟨?_, ne_save_of_none rfl⟩
        dsimp only
        unfold settleCopies
        split
        · exact trivial
        · exact hok
      · next t _ =>
        refine hs.setWorker ?_ ⟨hok, ne_save_of_none rfl⟩
        split
        · rfl
        · unfold refundTaskQuota
          split <;> rfl
      · next t hdue => exact absurd hdue (hs.saves w (Table.find?_mem hfind) t)

/-! ## Runs -/

/-- At most one billing, and none for an unfinished task. -/
def BilledOnce (s : TaskSystem) : Prop := ∀ id, s.load id ≤ if s.isTerminal id then 1 else 0

theorem Effect.billedOnce {s s' : TaskSystem} (h : Effect s s') (hs : s.BilledOnce) :
    s'.BilledOnce := by
  intro id
  have hload := hs id
  obtain ⟨hle, hkeep⟩ | ⟨hopen, hdone, hle⟩ := h id
  · by_cases hterm : s.isTerminal id = true
    · have hterm' : s'.isTerminal id = true := by
        rw [isTerminal, hkeep hterm]
        exact hterm
      rw [if_pos hterm] at hload
      rw [if_pos hterm']
      omega
    · rw [if_neg hterm] at hload
      split <;> omega
  · rw [hopen] at hload
    rw [if_pos hdone]
    simp only [Bool.false_eq_true, if_false] at hload
    omega

/-- The rows that a run starts from. -/
def start (serverAddress : String) (tasks : Tasks) : TaskSystem :=
  { serverAddress := serverAddress, tasks := tasks }

theorem start_billedOnce (serverAddress : String) (tasks : Tasks) :
    (start serverAddress tasks).BilledOnce := by
  intro id
  have hload : (start serverAddress tasks).load id = 0 := by
    simp [start, load]
  rw [hload]
  split <;> omega

theorem start_workersOk (serverAddress : String) (tasks : Tasks) :
    (start serverAddress tasks).WorkersOk := by
  constructor
  · intro w hw
    exact absurd hw (by simp [start])
  · intro w hw
    exact absurd hw (by simp [start])

/-- The billings that were executed. -/
theorem executed_le_load (s : TaskSystem) (id : Int) :
    (s.refunds id + s.settles id : Int) ≤ s.load id := by
  have hpending : 0 ≤ s.workers.sum fun w => TaskDue.billing id w.due := by
    apply Table.sum_nonneg
    intro w _
    unfold TaskDue.billing
    split
    · split <;> omega
    · split <;> omega
    · omega
  unfold load
  omega

end TaskSystem

open TaskSystem in
/-- In every run of sweeps, video polls and realtime fetches, on any number of workers, in which no
    poll starts from a copy that is finished already and no realtime fetch gives a finished task
    another status: at most one refund or settlement is executed for each task, and a terminal
    status stays. -/
theorem task_billed_once (serverAddress : String) (tasks : Tasks) (es : List TaskEvent)
    (hkind : ∀ e ∈ es, e.isConditional = true)
    (hkeeps : Run.Steps step KeepsFinished (start serverAddress tasks) es) :
    Run.Always step (fun s => ∀ id, s.refunds id + s.settles id ≤ 1)
        (start serverAddress tasks) es ∧
      Run.Steps step (fun s e => ∀ id, s.isTerminal id = true →
        (s.step e).statusOf id = s.statusOf id) (start serverAddress tasks) es := by
  have hsteps : Run.Steps step (fun s e => s.KeepsFinished e ∧ e.isConditional = true)
      (start serverAddress tasks) es := hkeeps.and (Run.steps_of_forall_mem _ hkind)
  have hinv : Run.Always step (fun s => s.BilledOnce ∧ s.WorkersOk) (start serverAddress tasks)
      es := by
    refine Run.always_of_steps ?_
      ⟨start_billedOnce serverAddress tasks, start_workersOk serverAddress tasks⟩ hsteps
    intro s e hs he
    exact ⟨(step_effect s e hs.2 he.2 he.1).billedOnce hs.1, step_workersOk s e hs.2 he.2⟩
  constructor
  · refine hinv.mono ?_
    intro s hs id
    have hexecuted := executed_le_load s id
    have hload := hs.1 id
    have hone : (if s.isTerminal id then (1 : Int) else 0) ≤ 1 := by split <;> omega
    omega
  · refine Run.Steps.mono_of_always ?_ hinv hsteps
    intro s e hs he id hterm
    obtain ⟨-, hkeep⟩ | ⟨hopen, -, -⟩ := step_effect s e hs.2 he.2 he.1 id
    · exact hkeep hterm
    · rw [hopen] at hterm
      cases hterm

/-- A Gemini task of 100 quota that is in progress. -/
def geminiTasks : Tasks :=
  Table.empty.insert
    { id := 1, taskId := "task_1", platform := .other "24", channelId := 5, quota := 100,
      status := .inProgress, submitTime := 1800000000, progress := "30%", upstreamTaskId := "op" }

/-- A sweep and a poll that load the task at the same time: only the poll, which writes first,
    bills it. -/
theorem task_billed_once_race :
    let es : List TaskEvent := [.startSweep 0 1900000000 [1], .startPass 1 (.other "24") [1],
      .poll 1 5 "op" (.parsed { status := some .success } "" .undecodable) 1900000000 false,
      .sweepNext 0 1440 1900000000 false, .finish 1 80 false, .finish 0 0 false]
    (Run.run TaskSystem.step (.start "" geminiTasks) es).settles 1 = 1 ∧
      Run.Always TaskSystem.step (fun s => ∀ id, s.refunds id + s.settles id ≤ 1)
        (.start "" geminiTasks) es := by
  intro es
  exact ⟨by decide,
    (task_billed_once "" geminiTasks es (by decide) (by decide)).1⟩

/-- A sweep fails the task and refunds it. A client asks for it, the upstream still works on it,
    and the realtime fetch takes the row back to `IN_PROGRESS`. The next sweep refunds it again. -/
theorem realtime_fetch_refunds_twice :
    let sweep := fun wid : Nat => ([.startSweep wid 1900000000 [1],
      .sweepNext wid 1440 1900000000 false, .finish wid 0 false] : List TaskEvent)
    let fetch : List TaskEvent := [.startRealtime 1 1,
      .realtimeWrite 1 (some { status := some .inProgress, progress := "50%" }) false]
    let es := sweep 0 ++ fetch ++ sweep 2
    let start := TaskSystem.start "" geminiTasks
    (∀ e ∈ es, e.isConditional = true) ∧
      (Run.run TaskSystem.step start (sweep 0)).statusOf 1 = some .failure ∧
      (Run.run TaskSystem.step start (sweep 0 ++ fetch)).statusOf 1 = some .inProgress ∧
      (Run.run TaskSystem.step start es).refunds 1 = 2 := by
  decide

end TokenRouter
