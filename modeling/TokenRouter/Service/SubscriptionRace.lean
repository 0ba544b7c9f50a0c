import TokenRouter.Model.Quota

/-!
# Concurrent subscription transactions (`model/subscription.go`)

The transactions that change a subscription, step by step. gorm v1.25 ignores the setting
`gorm:query_option`, so the `SELECT`s take no lock: a transaction reads rows as last
committed, computes from its copies, and its writes become visible when it commits. `Save`
writes the whole row. A row lock holds from a write to the commit, so the writes of a
transaction and its commit are one step here.
-/

namespace TokenRouter

namespace QuotaDB

/-- Whether `maybeResetUserSubscriptionWithPlanTx` saves the row. -/
def maybeResetSaves (env : BillingEnv) (sub : UserSubscription) (now : Int) : Bool :=
  if 0 < sub.nextResetTime ∧ now < sub.nextResetTime then false
  else
    match env.resetTimes sub now with
    | .error _ => false
    | .ok .never => false
    | .ok (.notDue _ next) => sub.nextResetTime = 0 ∧ 0 < next
    | .ok (.due _ _) => true

/-- The candidate loop of `PreConsumeUserSubscription` on the rows it has read: the rows
    saved by resets on the way, and the row that takes the amount. -/
def preConsumePlan (env : BillingEnv) (amount now : Int) :
    List UserSubscription → Except String (List UserSubscription × UserSubscription)
  | [] => .error ("subscription quota insufficient, need=" ++ toString amount)
  | candidate :: rest =>
    match maybeResetUserSubscription env candidate now with
    | .error e => .error e
    | .ok sub =>
      let saved := if maybeResetSaves env candidate now then [sub] else []
      if 0 < sub.amountTotal ∧ sub.amountTotal - sub.amountUsed < amount then
        match preConsumePlan env amount now rest with
        | .error e => .error e
        | .ok (saves, chosen) => .ok (saved ++ saves, chosen)
      else .ok (saved, sub)

/-- `Save` on each row, in this order. -/
def saveAll (db : QuotaDB) (subs : List UserSubscription) : QuotaDB :=
  { db with subscriptions := subs.foldl (fun t sub => t.set sub) db.subscriptions }

end QuotaDB

/-- The transactions. -/
inductive SubOp where
  /-- `PreConsumeUserSubscription` -/
  | preConsume (env : BillingEnv) (requestId : String) (userId amount : Int)
  /-- `PostConsumeUserSubscriptionDelta` -/
  | postConsume (subscriptionId : Nat) (delta : Int)
  /-- `RefundSubscriptionPreConsume` -/
  | refund (requestId : String)
  /-- the transaction of `ResetDueSubscriptions` for one subscription -/
  | resetDue (env : BillingEnv) (subscriptionId : Nat)

/-- Where a transaction is, with the rows it has read. -/
inductive SubStage where
  | started
  /-- pre-consume: no record of the request was found -/
  | checked
  /-- pre-consume: the active subscriptions of the user -/
  | candidatesRead (subs : List UserSubscription)
  /-- refund: the unmarked record -/
  | recordRead (record : SubscriptionPreConsumeRecord)
  /-- the subscription that `delta` goes to, and the record that is marked afterwards -/
  | rowRead (sub : UserSubscription) (delta : Int) (mark : Option SubscriptionPreConsumeRecord)
  /-- reset: the due subscription -/
  | dueRead (sub : UserSubscription)
  /-- refund: the decrease is committed, the mark is not -/
  | marking (record : SubscriptionPreConsumeRecord)
  /-- the transaction has ended -/
  | stopped

/-- A transaction in progress. -/
structure SubProc where
  pid : Nat
  op : SubOp
  stage : SubStage := .started

namespace SubProc

/-- The next `SELECT`. -/
def read (db : QuotaDB) (p : SubProc) : SubStage :=
  match p.op, p.stage with
  | .preConsume _ requestId userId amount, .started =>
    if userId ≤ 0 ∨ trimSpace requestId = "" ∨ amount ≤ 0 then .stopped
    else if (db.records.find? requestId).isSome then .stopped
    else .checked
  | .preConsume env _ userId _, .checked =>
    .candidatesRead ((db.activeSubscriptions userId env.now.unix).mergeSort fun a b =>
      a.endTime < b.endTime ∨ (a.endTime = b.endTime ∧ a.id ≤ b.id))
  | .postConsume subscriptionId delta, .started =>
    if subscriptionId = 0 ∨ delta = 0 then .stopped
    else
      match db.subscriptions.find? subscriptionId with
      | none => .stopped
      | some sub => .rowRead sub delta none
  | .refund requestId, .started =>
    if trimSpace requestId = "" then .stopped
    else
      match db.records.find? requestId with
      | none => .stopped
      | some record =>
        if record.refunded then .stopped
        else if record.preConsumed ≤ 0 then .marking record
        else .recordRead record
  | .refund _, .recordRead record =>
    match db.subscriptions.find? record.userSubscriptionId with
    | none => .stopped
    | some sub => .rowRead sub (-record.preConsumed) (some record)
  | .resetDue env subscriptionId, .started =>
    match db.subscriptions.find? subscriptionId with
    | none => .stopped
    | some sub =>
      if 0 < sub.nextResetTime ∧ sub.nextResetTime ≤ env.now.unix then .dueRead sub else .stopped
  | _, stage => stage

/-- The writes of a transaction: the rows it saves, the records table, the stage it is in
    afterwards, and the delta that it commits with the subscription that gets it. -/
structure Committed where
  saved : List UserSubscription := []
  records : Table SubscriptionPreConsumeRecord (·.requestId)
  stage : SubStage := .stopped
  delta : Option (Nat × Int) := none

/-- The commit of `PreConsumeUserSubscription`. If another transaction has created the
    record meanwhile, the amount is not added. -/
def commitPreConsume (db : QuotaDB) (env : BillingEnv) (requestId : String) (userId amount : Int)
    (hamount : 0 ≤ amount) (subs : List UserSubscription) : Committed :=
  match QuotaDB.preConsumePlan env amount env.now.unix subs with
  | .error _ => { records := db.records }
  | .ok (saves, sub) =>
    if (db.records.find? requestId).isSome then { saved := saves, records := db.records }
    else
      let sub' := { sub with
        amountUsed := sub.amountUsed + amount
        amountUsed_nonneg := sub.charged_nonneg hamount }
      let record : SubscriptionPreConsumeRecord :=
        { requestId := requestId
          userId := userId
          userSubscriptionId := sub.id
          preConsumed := amount }
      { saved := saves ++ [sub']
        records := db.records.insert record
        delta := some (sub.id, amount) }

/-- The commit of `PostConsumeUserSubscriptionDelta`, of its own or inside a refund. -/
def commitDelta (db : QuotaDB) (sub : UserSubscription) (delta : Int)
    (mark : Option SubscriptionPreConsumeRecord) : Committed :=
  let newUsed := max 0 (sub.amountUsed + delta)
  if 0 < sub.amountTotal ∧ sub.amountTotal < newUsed then { records := db.records }
  else
    let sub' := { sub with amountUsed := newUsed, amountUsed_nonneg := le_max_left _ _ }
    { saved := [sub']
      records := db.records
      stage := (mark.map SubStage.marking).getD .stopped
      delta := some (sub.id, delta) }

/-- The commit of `ResetDueSubscriptions` for one subscription. -/
def commitReset (db : QuotaDB) (env : BillingEnv) (sub : UserSubscription) : Committed :=
  match QuotaDB.maybeResetUserSubscription env sub env.now.unix with
  | .error _ => { records := db.records }
  | .ok sub' =>
    if QuotaDB.maybeResetSaves env sub env.now.unix then { saved := [sub'], records := db.records }
    else { records := db.records }

theorem amount_nonneg {amount : Int} (h : ¬ amount ≤ 0) : 0 ≤ amount := (not_le.mp h).le

/-- The writes of the transaction when it commits. -/
def commit (db : QuotaDB) (p : SubProc) : Committed :=
  match p.op, p.stage with
  | .preConsume env requestId userId amount, .candidatesRead subs =>
    if h : amount ≤ 0 then { records := db.records }
    else commitPreConsume db env requestId userId amount (amount_nonneg h) subs
  | _, .rowRead sub delta mark => commitDelta db sub delta mark
  | .resetDue env _, .dueRead sub => commitReset db env sub
  | _, .marking record => { records := db.records.set { record with refunded := true } }
  | _, stage => { records := db.records, stage := stage }

end SubProc

/-- The database, the transactions, and the deltas committed so far to each
    subscription, in the order of their commits. -/
structure SubSystem where
  db : QuotaDB
  procs : Table SubProc (·.pid)
  deltas : Nat → List Int

/-- The steps. -/
inductive SubEvent where
  /-- a transaction begins -/
  | start (pid : Nat) (op : SubOp)
  /-- its next `SELECT` -/
  | read (pid : Nat)
  /-- its writes and commit -/
  | commit (pid : Nat)
  /-- it fails and is rolled back -/
  | abort (pid : Nat)

/-- A committed delta is remembered. -/
def recordDelta (deltas : Nat → List Int) : Option (Nat × Int) → Nat → List Int
  | none => deltas
  | some (id, delta) => Function.update deltas id (deltas id ++ [delta])

/-- One step. -/
def SubSystem.step (s : SubSystem) : SubEvent → SubSystem
  | .start pid op => { s with procs := s.procs.insert { pid := pid, op := op } }
  | .read pid =>
    match s.procs.find? pid with
    | none => s
    | some p => { s with procs := s.procs.set { p with stage := p.read s.db } }
  | .commit pid =>
    match s.procs.find? pid with
    | none => s
    | some p =>
      let c := p.commit s.db
      { db := { s.db.saveAll c.saved with records := c.records }
        procs := s.procs.set { p with stage := c.stage }
        deltas := recordDelta s.deltas c.delta }
  | .abort pid =>
    match s.procs.find? pid with
    | none => s
    | some p => { s with procs := s.procs.set { p with stage := .stopped } }

end TokenRouter
