import TokenRouter.Model.DB

/-!
# Writes of the usage tables (`model/usage_ledger.go`, `model/usage_aggregate.go`,
`model/usage_record_outbox.go`)

The idempotent ledger insert, the aggregate upsert and the outbox statements.
`autoId` is the number that the database's sequence hands out for a new row.
-/

namespace TokenRouter

/-- `UsageLedger.InsertIdempotentRowsAffectedTx`: the number of rows inserted, the
    in-memory ledger after the call and the database. `ON CONFLICT DO NOTHING`
    names no column, so a clash on the primary key is ignored like one on
    `request_id`; gorm inserts a non-zero `Id` as given and fills in a zero one. -/
def insertIdempotentRowsAffectedTx (db : DB) (now : Timestamp) (autoId : Nat)
    (ledger : UsageLedger) : Except String (Nat × UsageLedger × DB) :=
  let l := ledger.normalize now
  if l.requestId = "" then .error "usage ledger request_id is required"
  else
    let row := l.withId (if l.id = 0 then autoId else l.id)
    if db.ledgers.rows.any fun r => r.requestId = row.requestId ∨ r.id = row.id then
      .ok (0, l, db)
    else .ok (1, row, { db with ledgers := db.ledgers.insert row })

/-- `UpsertUsageAggregateDailyTx`. -/
def upsertUsageAggregateDailyTx (db : DB) (loc : Location) (now : Timestamp)
    (ledger : UsageLedger) : DB :=
  let key := ledger.aggregateKey loc now
  let old := ((db.aggregates.find? key).map (·.totals)).getD 0
  let item : UsageAggregateDaily := { key := key, totals := old + ledger.aggregateTotals }
  { db with aggregates := db.aggregates.upsert item }

/-! ## Outbox -/

/-- `GetUsageRecordOutboxByRequestID`. -/
def getUsageRecordOutboxByRequestID (db : DB) (requestId : String) : Option UsageRecordOutbox :=
  db.outbox.rows.find? fun o => o.requestId = trimSpace requestId

/-- `UsageRecordOutbox.InsertIdempotent` for the row that `RecordUsageAsync` builds. -/
def insertOutboxIdempotent (db : DB) (now : Timestamp) (payload : OutboxPayload) :
    Except String DB :=
  let requestId := trimSpace payload.metadata.requestId
  if requestId = "" then .error "usage record outbox request_id is required"
  else if db.outbox.rows.any fun o => o.requestId = requestId then .ok db
  else
    let item : UsageRecordOutbox :=
      { id := db.outbox.nextId
        requestId := requestId
        payload := payload
        status := .pending
        nextRetryAt := now.unix }
    .ok { db with outbox := db.outbox.insert item }

/-- The `WHERE` clause of `MarkUsageRecordOutboxProcessing`. -/
def claimable (o : UsageRecordOutbox) (staleBefore : Int) : Bool :=
  match o.status with
  | .pending | .failed => true
  | .processing => 0 < o.lockedAt ∧ o.lockedAt < staleBefore
  | .succeeded => false

/-- `ListDueUsageRecordOutbox`. -/
def listDueUsageRecordOutbox (db : DB) (now staleBefore : Int) (limit : Nat) :
    List UsageRecordOutbox :=
  let due := db.outbox.rows.filter fun o =>
    match o.status with
    | .pending | .failed => decide (o.nextRetryAt ≤ now)
    | .processing => 0 < o.lockedAt ∧ o.lockedAt < staleBefore
    | .succeeded => false
  (due.mergeSort fun a b => a.id ≤ b.id).take (if limit = 0 then 100 else limit)

/-- `MarkUsageRecordOutboxProcessing`: whether the row was claimed. -/
def markUsageRecordOutboxProcessing (db : DB) (id : Nat) (now staleBefore : Int) : Bool × DB :=
  match db.outbox.find? id with
  | none => (false, db)
  | some o =>
    if claimable o staleBefore then
      (true, { db with outbox := db.outbox.set { o with status := .processing, lockedAt := now } })
    else (false, db)

/-- `MarkUsageRecordOutboxSucceeded`. -/
def markUsageRecordOutboxSucceeded (db : DB) (id : Nat) : DB :=
  match db.outbox.find? id with
  | none => db
  | some o =>
    let item := { o with status := .succeeded, lastError := "", nextRetryAt := 0, lockedAt := 0 }
    { db with outbox := db.outbox.set item }

/-- `MarkUsageRecordOutboxFailed`. -/
def markUsageRecordOutboxFailed (db : DB) (id : Nat) (lastError : String) (nextRetryAt : Int) :
    DB :=
  match db.outbox.find? id with
  | none => db
  | some o =>
    let item := { o with
      status := .failed
      retryCount := o.retryCount + 1
      lastError := lastError
      nextRetryAt := nextRetryAt
      lockedAt := 0 }
    { db with outbox := db.outbox.set item }

end TokenRouter
