import TokenRouter.Model.Task

/-!
# Task polling (`service/task_polling.go`, `tryRealtimeFetch` of `relay/relay_task.go`)

Every node runs a loop that first sweeps tasks that timed out and then polls the unfinished ones;
a client that asks for a Gemini or Vertex task makes the server fetch it at once. All of them work
on copies of rows that they have read earlier. The system here has any number of such workers, and
every statement on the database is one event.
-/

namespace TokenRouter

/-! ## Upstream answers -/

/-- `TaskInfo`; `none` is the empty status. -/
structure TaskInfo where
  status : Option TaskStatus
  progress : String := ""
  url : String := ""
  reason : String := ""
  deriving DecidableEq

/-- `FailTaskInfo` -/
def failTaskInfo (reason : String) : TaskInfo := { status := some .failure, reason := reason }

/-- The progress of an answer, or that of its status. -/
def TaskInfo.progressOr (result : TaskInfo) (default : String) : String :=
  if result.progress ≠ "" then result.progress else default

/-- The body of an answer without a status, read as `GeneralErrorResponse`. -/
inductive ErrorBody where
  | undecodable
  | rateLimited
  | openAIError
  | unrecognized
  deriving DecidableEq

/-- An answer without a status is a failure, if its body says so. -/
def TaskInfo.resolve (result : TaskInfo) (body : ErrorBody) : TaskInfo :=
  if result.status ≠ none then result
  else
    match body with
    | .openAIError => failTaskInfo "upstream returned error"
    | .unrecognized => failTaskInfo "upstream returned unrecognized message"
    | _ => result

/-- What `updateVideoSingleTask` gets from the upstream. -/
inductive FetchAnswer where
  /-- the request or the parser fails -/
  | failed
  | parsed (result : TaskInfo) (data : String) (body : ErrorBody)
  deriving DecidableEq

/-- `dto.SunoDataResponse` -/
structure SunoDataResponse where
  taskId : String
  status : Option TaskStatus
  failReason : String := ""
  submitTime : Int := 0
  startTime : Int := 0
  finishTime : Int := 0
  data : String := ""
  deriving DecidableEq

/-! ## One task -/

/-- `BuildProxyURL` -/
def buildProxyURL (serverAddress taskId : String) : String :=
  serverAddress ++ "/v1/videos/" ++ taskId ++ "/content"

/-- `strings.HasPrefix(url, "data:")` -/
def isDataURL (url : String) : Bool := "data:".toList.isPrefixOf url.toList

/-- The task of `sweepTimedOutTasks` before it is written. -/
def sweptTask (t : Task) (timeoutMinutes now : Int) : Task :=
  { t with
    status := .failure
    progress := "100%"
    finishTime := now
    failReason :=
      if t.isLegacy then "任务超时（旧系统遗留任务，不进行退款，请联系管理员）"
      else "任务超时（" ++ toString timeoutMinutes ++ "分钟）" }

/-- How `updateVideoSingleTask` goes on after its assignments. -/
inductive PollAction where
  /-- it returns -/
  | stop
  /-- a conditional write that decides whether the task is billed -/
  | transition (settle refund : Bool)
  /-- a conditional write, if anything changed, that does not -/
  | refresh (write settle refund : Bool)
  deriving DecidableEq

/-- The status switch of `updateVideoSingleTask`: the task and whether to settle or refund. -/
def applyVideoResult (serverAddress : String) (t : Task) (result : TaskInfo) (now : Int) :
    Task × Option (Bool × Bool) :=
  match result.status with
  | some .submitted => ({ t with status := .submitted, progress := result.progressOr "10%" },
      some (false, false))
  | some .queued => ({ t with status := .queued, progress := result.progressOr "20%" }, some (false, false))
  | some .inProgress =>
    ({ t with
        status := .inProgress
        progress := result.progressOr "30%"
        startTime := if t.startTime = 0 then now else t.startTime },
      some (false, false))
  | some .success =>
    ({ t with
        status := .success
        progress := result.progressOr "100%"
        finishTime := if t.finishTime = 0 then now else t.finishTime
        resultURL :=
          if isDataURL result.url || result.url = "" then buildProxyURL serverAddress t.taskId
          else result.url },
      some (true, false))
  | some .failure =>
    ({ t with
        status := .failure
        progress := "100%"
        finishTime := if t.finishTime = 0 then now else t.finishTime
        failReason := result.reason },
      some (false, t.quota ≠ 0))
  | some status => ({ t with status := status }, none)
  | none => ({ t with status := .other "" }, none)

/-- `updateVideoSingleTask` up to its write. -/
def updateVideoSingleTask (serverAddress : String) (t : Task) (answer : FetchAnswer) (now : Int) :
    Task × PollAction :=
  match answer with
  | .failed => (t, .stop)
  | .parsed result data body =>
    let loaded := { t with data := data }
    if result.status = none ∧ body = .rateLimited then (loaded, .stop)
    else
      match applyVideoResult serverAddress loaded (result.resolve body) now with
      | (t', none) => (t', .stop)
      | (t', some (settle, refund)) =>
        if t'.status.isTerminal ∧ t.status ≠ t'.status then (t', .transition settle refund)
        else (t', .refresh (!t.sameSnapshot t') settle refund)

/-- `tryRealtimeFetch` up to its write. -/
def tryRealtimeFetch (serverAddress : String) (t : Task) (ti : TaskInfo) : Task :=
  let status := ti.status.getD t.status
  { t with
    status := status
    progress := if ti.progress ≠ "" then ti.progress else t.progress
    resultURL :=
      if isDataURL ti.url then t.resultURL
      else if ti.url ≠ "" then ti.url
      else if status = .success then buildProxyURL serverAddress t.taskId
      else t.resultURL }

/-- `taskNeedsUpdate`. The two data texts are compared by their sorted bytes. -/
def taskNeedsUpdate (t : Task) (item : SunoDataResponse) : Bool :=
  t.submitTime ≠ item.submitTime || t.startTime ≠ item.startTime ||
    t.finishTime ≠ item.finishTime || some t.status ≠ item.status ||
    t.failReason ≠ item.failReason || (t.status.isTerminal && t.progress ≠ "100%") ||
    !t.data.toList.isPerm item.data.toList

/-- The task after an item of `updateSunoTasks`, and whether it is refunded. -/
def updateSunoTask (t : Task) (item : SunoDataResponse) : Task × Bool :=
  let status := item.status.getD t.status
  let fails := item.failReason ≠ "" || status = .failure
  ({ t with
      status := status
      failReason := if item.failReason ≠ "" then item.failReason else t.failReason
      submitTime := if item.submitTime ≠ 0 then item.submitTime else t.submitTime
      startTime := if item.startTime ≠ 0 then item.startTime else t.startTime
      finishTime := if item.finishTime ≠ 0 then item.finishTime else t.finishTime
      progress := if fails || item.status = some .success then "100%" else t.progress
      data := item.data },
    fails)

/-! ## Workers -/

/-- The statement that a worker owes next. -/
inductive TaskDue where
  /-- `settleTaskBillingOnComplete` -/
  | settle (task : Task)
  /-- `RefundTaskQuota` -/
  | refund (task : Task)
  /-- `Update` of a Suno task -/
  | save (task : Task)
  deriving DecidableEq

/-- What a worker does, with the copies that it has. -/
inductive TaskJob where
  /-- `sweepTimedOutTasks` -/
  | sweep (todo : List Task)
  /-- a platform of `TaskPollingLoop`: the tasks without an upstream id, the copies in `taskM`
      and the upstream ids of each channel that are still to be looked at -/
  | pass (platform : TaskPlatform) (nulls : List Int) (copies : List Task)
      (todo : List (Int × String))
  /-- `videoFetchByIDRespBodyBuilder` -/
  | realtime (copy : Option Task)
  deriving DecidableEq

/-- A worker. -/
structure TaskWorker where
  wid : Nat
  job : TaskJob
  due : Option TaskDue := none
  deriving DecidableEq

/-- The copy behind an upstream id; a later task replaces an earlier one. -/
def taskM (copies : List Task) (upstreamId : String) : Option Task :=
  copies.reverse.find? fun t => t.getUpstreamTaskID = upstreamId

/-- Copies are changed in place. -/
def replaceCopy (copies : List Task) (t : Task) : List Task :=
  copies.map fun c => if c.id = t.id then t else c

/-- The ids of a channel's tasks when its cache entry is missing. -/
def failedIDs (copies : List Task) (todo : List (Int × String)) (channelId : Int) : List Int :=
  todo.filterMap fun entry =>
    if entry.1 = channelId then (taskM copies entry.2).map (·.id) else none

/-- The reason that the bulk update of a channel writes. -/
def channelFailReason (platform : TaskPlatform) (channelId : Int) : String :=
  if platform = .suno then "获取渠道信息失败，请联系管理员，渠道ID：" ++ toString channelId
  else "Failed to get channel info, channel ID: " ++ toString channelId

/-- The rows, the workers and how often each task was refunded and settled. -/
structure TaskSystem where
  serverAddress : String := ""
  tasks : Tasks
  workers : Table TaskWorker (·.wid) := .empty
  refunds : Int → Nat := 0
  settles : Int → Nat := 0

/-- The steps. `ids` are those that a query's limit leaves. -/
inductive TaskEvent where
  | startSweep (wid : Nat) (cutoffUnix : Int) (ids : List Int)
  | startPass (wid : Nat) (platform : TaskPlatform) (ids : List Int)
  | startRealtime (wid : Nat) (id : Int)
  /-- the next task of a sweep is written -/
  | sweepNext (wid : Nat) (timeoutMinutes now : Int) (dbError : Bool)
  /-- the bulk update of tasks without an upstream id -/
  | failNull (wid : Nat) (dbError : Bool)
  /-- the bulk update of a channel that is not in the cache -/
  | failChannel (wid : Nat) (channelId : Int) (dbError : Bool)
  | poll (wid : Nat) (channelId : Int) (upstreamId : String) (answer : FetchAnswer) (now : Int)
      (dbError : Bool)
  /-- an item of a Suno answer, with its refund -/
  | sunoItem (wid : Nat) (item : SunoDataResponse) (dbError : Bool)
  | realtimeWrite (wid : Nat) (answer : Option TaskInfo) (dbError : Bool)
  /-- the statement that a worker owes; `actualQuota` is what a settlement computes -/
  | finish (wid : Nat) (actualQuota : Int) (dbError : Bool)
  deriving DecidableEq

namespace TaskSystem

/-- One more for a task. -/
def countFor (counts : Int → Nat) (id : Int) : Int → Nat := Function.update counts id (counts id + 1)

/-- `RefundTaskQuota` -/
def refundTaskQuota (s : TaskSystem) (t : Task) : TaskSystem :=
  if t.quota = 0 then s else { s with refunds := countFor s.refunds t.id }

/-- A worker moves on. -/
def setWorker (s : TaskSystem) (w : TaskWorker) : TaskSystem :=
  { s with workers := s.workers.set w }

/-- The write of a sweep: `UpdateWithStatus` from the status that was read. -/
def sweepNext (s : TaskSystem) (w : TaskWorker) (timeoutMinutes now : Int) (dbError : Bool) :
    TaskSystem :=
  match w.job with
  | .sweep (t :: rest) =>
    let t' := sweptTask t timeoutMinutes now
    let (won, tasks) := if dbError then (false, s.tasks) else t'.updateWithStatus s.tasks t.status
    let due := if won ∧ ¬ t.isLegacy ∧ t'.quota ≠ 0 then some (TaskDue.refund t') else none
    { s with tasks := tasks }.setWorker { w with job := .sweep rest, due := due }
  | _ => s

/-- The bulk update of tasks without an upstream id. -/
def failNull (s : TaskSystem) (w : TaskWorker) (dbError : Bool) : TaskSystem :=
  match w.job with
  | .pass platform nulls copies todo =>
    let tasks := if dbError then s.tasks else taskBulkFailByID s.tasks nulls none
    { s with tasks := tasks }.setWorker { w with job := .pass platform [] copies todo }
  | _ => s

/-- The bulk update of a channel that is not in the cache. -/
def failChannel (s : TaskSystem) (w : TaskWorker) (channelId : Int) (dbError : Bool) :
    TaskSystem :=
  match w.job with
  | .pass platform nulls copies todo =>
    let tasks :=
      if dbError then s.tasks
      else taskBulkFailByID s.tasks (failedIDs copies todo channelId)
        (some (channelFailReason platform channelId))
    { s with tasks := tasks }.setWorker
      { w with job := .pass platform nulls copies (todo.filter fun entry => entry.1 ≠ channelId) }
  | _ => s

/-- The billing that `updateVideoSingleTask` goes on with. -/
def billingDue (t : Task) (settle refund : Bool) : Option TaskDue :=
  if settle then some (.settle t) else if refund then some (.refund t) else none

/-- `updateVideoSingleTask` for the next upstream id of a channel. -/
def poll (s : TaskSystem) (w : TaskWorker) (channelId : Int) (upstreamId : String)
    (answer : FetchAnswer) (now : Int) (dbError : Bool) : TaskSystem :=
  match w.job with
  | .pass platform nulls copies todo =>
    if (channelId, upstreamId) ∉ todo ∨ platform = .suno ∨ platform = .midjourney then s
    else
      let todo := todo.erase (channelId, upstreamId)
      match taskM copies upstreamId with
      | none => s.setWorker { w with job := .pass platform nulls copies todo }
      | some t =>
        let (t', action) := updateVideoSingleTask s.serverAddress t answer now
        let job := TaskJob.pass platform nulls (replaceCopy copies t') todo
        match action with
        | .stop => s.setWorker { w with job := job }
        | .transition settle refund =>
          let (won, tasks) :=
            if dbError then (false, s.tasks) else t'.updateWithStatus s.tasks t.status
          { s with tasks := tasks }.setWorker
            { w with job := job, due := if won then billingDue t' settle refund else none }
        | .refresh write settle refund =>
          let tasks :=
            if write ∧ ¬ dbError then (t'.updateWithStatus s.tasks t.status).2 else s.tasks
          { s with tasks := tasks }.setWorker
            { w with job := job, due := billingDue t' settle refund }
  | _ => s

/-- An item of `updateSunoTasks`: the refund comes before the save. -/
def sunoItem (s : TaskSystem) (w : TaskWorker) (item : SunoDataResponse) (dbError : Bool) :
    TaskSystem :=
  match w.job with
  | .pass .suno nulls copies todo =>
    match taskM copies item.taskId with
    | none => s
    | some t =>
      if ¬ taskNeedsUpdate t item then s
      else
        let (t', refund) := updateSunoTask t item
        let s' := if refund ∧ ¬ dbError then s.refundTaskQuota t' else s
        s'.setWorker
          { w with job := .pass .suno nulls (replaceCopy copies t') todo, due := some (.save t') }
  | _ => s

/-- The write of `tryRealtimeFetch`. -/
def realtimeWrite (s : TaskSystem) (w : TaskWorker) (answer : Option TaskInfo) (dbError : Bool) :
    TaskSystem :=
  match w.job with
  | .realtime (some t) =>
    match answer with
    | none => s.setWorker { w with job := .realtime none }
    | some ti =>
      let t' := tryRealtimeFetch s.serverAddress t ti
      let tasks :=
        if t.sameSnapshot t' ∨ dbError then s.tasks
        else (t'.updateWithStatus s.tasks t.status).2
      { s with tasks := tasks }.setWorker { w with job := .realtime none }
  | _ => s

/-- The copies of a pass after a settlement. -/
def settleCopies (job : TaskJob) (t : Task) (actualQuota : Int) : TaskJob :=
  match job with
  | .pass platform nulls copies todo =>
    .pass platform nulls
      (if 0 < actualQuota then replaceCopy copies { t with quota := actualQuota } else copies) todo
  | job => job

/-- The statement that a worker owes. -/
def finish (s : TaskSystem) (w : TaskWorker) (actualQuota : Int) (dbError : Bool) : TaskSystem :=
  match w.due with
  | none => s
  | some (.settle t) =>
    { s with settles := countFor s.settles t.id }.setWorker
      { w with job := settleCopies w.job t (if dbError then 0 else actualQuota), due := none }
  | some (.refund t) =>
    (if dbError then s else s.refundTaskQuota t).setWorker { w with due := none }
  | some (.save t) =>
    (if dbError then s else { s with tasks := t.update s.tasks }).setWorker { w with due := none }

/-- A worker that owes nothing. -/
def idleWorker (s : TaskSystem) (wid : Nat) : Option TaskWorker :=
  match s.workers.find? wid with
  | some w => if w.due = none then some w else none
  | none => none

/-- One step. -/
def step (s : TaskSystem) : TaskEvent → TaskSystem
  | .startSweep wid cutoffUnix ids =>
    let todo := s.tasks.rows.filter fun t => t.isTimedOut cutoffUnix && t.id ∈ ids
    { s with workers := s.workers.insert { wid := wid, job := .sweep todo } }
  | .startPass wid platform ids =>
    let loaded := s.tasks.rows.filter fun t =>
      t.isUnfinished && t.platform = platform && t.id ∈ ids
    let named := loaded.filter fun t => t.getUpstreamTaskID ≠ ""
    let job := TaskJob.pass platform
      ((loaded.filter fun t => t.getUpstreamTaskID = "").map (·.id)) named
      (named.map fun t => (t.channelId, t.getUpstreamTaskID))
    { s with workers := s.workers.insert { wid := wid, job := job } }
  | .startRealtime wid id =>
    { s with workers := s.workers.insert { wid := wid, job := .realtime (s.tasks.find? id) } }
  | .sweepNext wid timeoutMinutes now dbError =>
    match s.idleWorker wid with
    | none => s
    | some w => s.sweepNext w timeoutMinutes now dbError
  | .failNull wid dbError =>
    match s.idleWorker wid with
    | none => s
    | some w => s.failNull w dbError
  | .failChannel wid channelId dbError =>
    match s.idleWorker wid with
    | none => s
    | some w => s.failChannel w channelId dbError
  | .poll wid channelId upstreamId answer now dbError =>
    match s.idleWorker wid with
    | none => s
    | some w => s.poll w channelId upstreamId answer now dbError
  | .sunoItem wid item dbError =>
    match s.idleWorker wid with
    | none => s
    | some w => s.sunoItem w item dbError
  | .realtimeWrite wid answer dbError =>
    match s.idleWorker wid with
    | none => s
    | some w => s.realtimeWrite w answer dbError
  | .finish wid actualQuota dbError =>
    match s.workers.find? wid with
    | none => s
    | some w => s.finish w actualQuota dbError

end TaskSystem

end TokenRouter
