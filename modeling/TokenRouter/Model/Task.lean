import TokenRouter.ForStd.Table

/-!
# Asynchronous tasks (`model/task.go`)

The `tasks` table, the queries of the polling loop and the writes: the conditional
`UpdateWithStatus`, the unconditional `Update` and `TaskBulkUpdateByID`.
-/

namespace TokenRouter

/-- `TaskStatus`; upstream answers may carry other texts. -/
inductive TaskStatus where
  | notStart
  | submitted
  | queued
  | inProgress
  | failure
  | success
  | unknown
  | other (text : String)
  deriving DecidableEq

/-- `SUCCESS` and `FAILURE`. -/
def TaskStatus.isTerminal : TaskStatus → Bool
  | .success => true
  | .failure => true
  | _ => false

/-- `constant.TaskPlatform` -/
inductive TaskPlatform where
  | suno
  | midjourney
  | other (name : String)
  deriving DecidableEq

/-- A row of `tasks`, as far as polling reads and writes it. -/
structure Task where
  id : Int
  taskId : String := ""
  platform : TaskPlatform := .other "video"
  channelId : Int := 0
  quota : Int := 0
  status : TaskStatus := .notStart
  failReason : String := ""
  submitTime : Int := 0
  startTime : Int := 0
  finishTime : Int := 0
  progress : String := ""
  upstreamTaskId : String := ""
  resultURL : String := ""
  data : String := ""
  deriving DecidableEq

/-- The `tasks` table. -/
abbrev Tasks := Table Task (·.id)

namespace Task

/-- `GetUpstreamTaskID` -/
def getUpstreamTaskID (t : Task) : String :=
  if t.upstreamTaskId ≠ "" then t.upstreamTaskId else t.taskId

/-- The conditions of `GetAllUnFinishSyncTasks`. -/
def isUnfinished (t : Task) : Bool := t.progress ≠ "100%" && !t.status.isTerminal

/-- The conditions of `GetTimedOutUnfinishedTasks`. -/
def isTimedOut (t : Task) (cutoffUnix : Int) : Bool := t.isUnfinished && t.submitTime < cutoffUnix

/-- `isLegacy` of `sweepTimedOutTasks` -/
def isLegacy (t : Task) : Bool := 0 < t.submitTime && t.submitTime < 1740182400

/-- `taskSnapshot.Equal` of two snapshots -/
def sameSnapshot (t t' : Task) : Bool :=
  t.status = t'.status && t.progress = t'.progress && t.startTime = t'.startTime &&
    t.finishTime = t'.finishTime && t.failReason = t'.failReason &&
    t.resultURL = t'.resultURL && t.data = t'.data

/-- `UpdateWithStatus`: whether this caller won, and the table. -/
def updateWithStatus (tasks : Tasks) (t : Task) (fromStatus : TaskStatus) : Bool × Tasks :=
  match tasks.find? t.id with
  | none => (false, tasks)
  | some row => if row.status = fromStatus then (true, tasks.set t) else (false, tasks)

/-- `Update`, an unconditional save. -/
def update (tasks : Tasks) (t : Task) : Tasks := tasks.upsert t

end Task

/-- `TaskBulkUpdateByID` with the status and progress of a failure; without a reason the column
    is not written. -/
def taskBulkFailByID (tasks : Tasks) (ids : List Int) (reason : Option String) : Tasks :=
  tasks.mapRows
    (fun t => if t.id ∈ ids then
      { t with status := .failure, progress := "100%", failReason := reason.getD t.failReason }
      else t)
    (fun t => by split <;> rfl)

end TokenRouter
