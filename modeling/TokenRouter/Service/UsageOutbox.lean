import TokenRouter.Service.UsageRecord

/-!
# The usage outbox (`service/usage_record.go`)

`RecordUsageAsync` stores a payload in the outbox; goroutines and batch workers load due
items, claim them, record their usage and mark them. Each database statement or
transaction is one step, so that processes interleave between any two of them and may
stop at any point. `Proc` is one execution of `processUsageRecordOutboxItem`, or of the
`recordUsageWithMeta` call that `RecordUsageAsync` falls back to when it cannot enqueue.
-/

namespace TokenRouter

/-! ## Requests -/

/-- The arguments of `recordUsageWithMeta`. -/
structure UsageJob where
  info : RelayInfo
  billing : Option Int := none
  usage : Option Usage
  sellQuota : Int
  metadata : UsageRecordMeta

/-- The key of the ledger that a job records. -/
def UsageJob.requestId (j : UsageJob) : String := trimSpace j.metadata.requestId

/-- `recordUsageWithMeta` up to its transaction. -/
def UsageJob.newLedger (j : UsageJob) (env : UsageEnv) (db : DB) (now : Timestamp) :
    Except String UsageLedger :=
  newUsageLedger env db now j.info j.billing j.usage j.sellQuota j.metadata

/-- The job of an outbox item. -/
def OutboxPayload.job (p : OutboxPayload) : UsageJob :=
  { info := p.toRelayInfo
    usage := p.usage
    sellQuota := p.sellQuota
    metadata := p.metadata }

/-- The arguments of a `RecordUsageAsync` call and what it reads outside. `billing` is
    `relayInfo.Billing.GetPreConsumedQuota()`, `none` when `relayInfo.Billing` is nil. -/
structure RelayRequest where
  env : UsageEnv
  now : Timestamp
  latencyMs : Int := 0
  ctx : GinContext
  info : RelayInfo
  billing : Option Int := none
  usage : Option Usage
  sellQuota : Int

namespace RelayRequest

/-- The metadata of the request. -/
def metadata (r : RelayRequest) : UsageRecordMeta :=
  newUsageRecordMeta r.env r.now r.latencyMs r.ctx r.info

/-- The payload that is put in the outbox. -/
def payload (r : RelayRequest) : OutboxPayload :=
  newUsageRecordOutboxPayload r.info r.usage r.sellQuota r.metadata

/-- The job of the fallback, which still has the relay's own records. -/
def job (r : RelayRequest) : UsageJob :=
  { info := r.info
    billing := r.billing
    usage := r.usage
    sellQuota := r.sellQuota
    metadata := r.metadata }

end RelayRequest

/-! ## Processes -/

/-- Where a process is. -/
inductive ProcStage where
  /-- it has read the outbox item -/
  | loaded
  /-- it has claimed the item -/
  | claimed
  /-- it is inside `insertUsageLedgerWithTenantCredit`, with the attempts that are left -/
  | recording (attemptsLeft : Nat) (ledger : UsageLedger)
  /-- `recordUsageWithMeta` returned without an error -/
  | recorded
  /-- it returned an error -/
  | failed (message : String)
  /-- the process has ended or was killed -/
  | stopped

/-- A process and its local variables. `itemId` is `none` for the fallback. -/
structure Proc where
  pid : Nat
  itemId : Option Nat := none
  retryCount : Nat := 0
  job : UsageJob
  stage : ProcStage

/-- A process that has read an outbox item. -/
def Proc.ofItem (pid : Nat) (item : UsageRecordOutbox) : Proc :=
  { pid := pid
    itemId := some item.id
    retryCount := item.retryCount
    job := item.payload.job
    stage := .loaded }

/-- `usageRecordOutboxStaleAfter` in seconds. -/
def usageRecordOutboxStaleAfter : Int := 120

/-- `nextUsageRecordOutboxRetryAt`: five seconds, doubled with each retry up to five
    minutes. -/
def nextUsageRecordOutboxRetryAt (now : Timestamp) (retryCount : Nat) : Int :=
  now.unix + min 300 (5 * 2 ^ (retryCount - 1))

/-- The steps of a process. -/
inductive ProcEvent where
  /-- `MarkUsageRecordOutboxProcessing` -/
  | claim (now : Timestamp)
  /-- `recordUsageWithMeta` up to its transaction -/
  | build (env : UsageEnv) (now : Timestamp)
  /-- one attempt of the transaction; `lostAck` is the error that the client gets although
      the transaction was committed -/
  | attempt (attempt : TxAttempt) (lostAck : Option String)
  /-- `MarkUsageRecordOutboxSucceeded` or `markUsageRecordOutboxFailed` -/
  | mark (now : Timestamp)
  /-- the process is killed -/
  | crash

namespace Proc

/-- After an attempt that returned an error: `retryTenantDBWrite` tries again or gives up. -/
def afterError (attemptsLeft : Nat) (ledger : UsageLedger) (message : String) : ProcStage :=
  if isRetryableTenantDBWriteError message ∧ 1 < attemptsLeft then
    .recording (attemptsLeft - 1) ledger
  else .failed message

/-- One attempt of the transaction, on the database as other processes left it. The
    database gives a new row an unused number: an attempt with a number in use is no
    step of it. -/
def runAttempt (loc : Location) (db : DB) (attempt : TxAttempt) (lostAck : Option String)
    (attemptsLeft : Nat) (ledger : UsageLedger) : DB × ProcStage :=
  if db.ledgers.rows.any fun r => r.id = attempt.autoId then
    (db, .recording attemptsLeft ledger)
  else
    match tryInsertUsageLedger loc db attempt ledger with
    | (.error e, ledger') => (db, afterError attemptsLeft ledger' e)
    | (.ok (_, db'), ledger') =>
      match lostAck with
      | some e => (db', afterError attemptsLeft ledger' e)
      | none => (db', .recorded)

/-- What a step does to the database and where the process is then. A step that does not
    belong to the process's stage does nothing. -/
def act (loc : Location) (usingSQLite : Bool) (db : DB) (p : Proc) : ProcEvent → DB × ProcStage
  | .crash => (db, .stopped)
  | .claim now =>
    match p.stage, p.itemId with
    | .loaded, some id =>
      let (claimed, db') := markUsageRecordOutboxProcessing db id now.unix
        (now.unix - usageRecordOutboxStaleAfter)
      (db', if claimed then .claimed else .stopped)
    | stage, _ => (db, stage)
  | .build env now =>
    match p.stage with
    | .claimed =>
      match p.job.newLedger { env with location := loc } db now with
      | .error e => (db, .failed e)
      | .ok ledger => (db, .recording (maxAttempts usingSQLite) ledger)
    | stage => (db, stage)
  | .attempt attempt lostAck =>
    match p.stage with
    | .recording attemptsLeft ledger => runAttempt loc db attempt lostAck attemptsLeft ledger
    | stage => (db, stage)
  | .mark now =>
    match p.stage, p.itemId with
    | .recorded, some id => (markUsageRecordOutboxSucceeded db id, .stopped)
    | .failed message, some id =>
      (markUsageRecordOutboxFailed db id message
        (nextUsageRecordOutboxRetryAt now (p.retryCount + 1)), .stopped)
    | stage, _ => (db, stage)

end Proc

/-! ## The system -/

/-- The database and the processes, over all servers. -/
structure UsageSystem where
  db : DB
  procs : Table Proc (·.pid)

/-- How `RecordUsageAsync` fails to enqueue: nothing was stored, or the item was stored
    and the client got an error all the same. -/
inductive EnqueueFault where
  | rejected
  | lostAck

/-- The steps of the system. -/
inductive UsageEvent where
  /-- `RecordUsageAsync` enqueues, or falls back to a process `pid` that records at once -/
  | recordAsync (pid : Nat) (request : RelayRequest) (fault : Option EnqueueFault)
  /-- `ProcessUsageRecordOutboxByRequestID` reads its item -/
  | processById (pid : Nat) (requestId : String)
  /-- `ProcessUsageRecordOutboxBatch` reads the due items, for processes `pid` and up -/
  | processBatch (pid : Nat) (now : Timestamp) (limit : Nat)
  /-- a process takes a step -/
  | proc (pid : Nat) (event : ProcEvent)

namespace UsageSystem

/-- Nothing recorded yet and no process. -/
def start (db : DB) : UsageSystem := ⟨db, .empty⟩

/-- A new process, unless the number is taken. -/
def spawn (s : UsageSystem) (p : Proc) : UsageSystem := { s with procs := s.procs.insert p }

/-- Processes for a list of items, numbered from `pid`. A worker goes through its items
    one by one; here they may also interleave. -/
def spawnAll (s : UsageSystem) (pid : Nat) : List UsageRecordOutbox → UsageSystem
  | [] => s
  | item :: items => spawnAll (s.spawn (.ofItem pid item)) (pid + 1) items

/-- `RecordUsageAsync`. The goroutine that it starts is a `processById` of its own. -/
def recordUsageAsync (s : UsageSystem) (pid : Nat) (r : RelayRequest)
    (fault : Option EnqueueFault) : UsageSystem :=
  let fallback : Proc := { pid := pid, job := r.job, stage := .claimed }
  match fault, insertOutboxIdempotent s.db r.now r.payload with
  | none, .ok db => { s with db := db }
  | some .lostAck, .ok db => UsageSystem.spawn { s with db := db } fallback
  | _, _ => s.spawn fallback

/-- `ProcessUsageRecordOutboxByRequestID` up to the claim. -/
def processUsageRecordOutboxByRequestID (s : UsageSystem) (pid : Nat) (requestId : String) :
    UsageSystem :=
  if trimSpace requestId = "" then s
  else
    match getUsageRecordOutboxByRequestID s.db requestId with
    | none => s
    | some item => if item.status = .succeeded then s else s.spawn (.ofItem pid item)

/-- `ProcessUsageRecordOutboxBatch` up to the first claim. -/
def processUsageRecordOutboxBatch (s : UsageSystem) (pid : Nat) (now : Timestamp) (limit : Nat) :
    UsageSystem :=
  s.spawnAll pid
    (listDueUsageRecordOutbox s.db now.unix (now.unix - usageRecordOutboxStaleAfter) limit)

/-- One step of the system. -/
def step (loc : Location) (usingSQLite : Bool) (s : UsageSystem) : UsageEvent → UsageSystem
  | .recordAsync pid request fault => s.recordUsageAsync pid request fault
  | .processById pid requestId => s.processUsageRecordOutboxByRequestID pid requestId
  | .processBatch pid now limit => s.processUsageRecordOutboxBatch pid now limit
  | .proc pid event =>
    match s.procs.find? pid with
    | none => s
    | some p =>
      let (db, stage) := p.act loc usingSQLite s.db event
      { db := db, procs := s.procs.set { p with stage := stage } }

end UsageSystem

end TokenRouter
