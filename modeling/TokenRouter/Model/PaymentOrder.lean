import TokenRouter.Model.Subscription

/-!
# Paid orders (`model/topup.go`, `model/subscription.go`)

Top-up orders credit a user's quota when they are paid, subscription orders create a
subscription. Every function that completes or closes an order reads the order, checks
that it is pending, and saves it with another status. The read takes no lock (gorm v1.25
ignores the setting `gorm:query_option`) and `Save` writes the whole row, so a transaction
here is a list of reads of what is committed, and one step with its writes and the commit.
-/

namespace TokenRouter

/-! ## Orders -/

/-- `top_ups`, keyed by the unique `trade_no`. -/
structure TopUp where
  tradeNo : String
  userId : Int
  amount : Int
  money : ℚ
  paymentMethod : String := ""
  paymentProvider : String := ""
  createTime : Int := 0
  completeTime : Int := 0
  status : String := "pending"
  deriving DecidableEq

/-- `subscription_orders`, keyed by the unique `trade_no`. -/
structure SubscriptionOrder where
  tradeNo : String
  userId : Int
  planId : Int
  money : ℚ
  paymentMethod : String := ""
  paymentProvider : String := ""
  status : String := "pending"
  createTime : Int := 0
  completeTime : Int := 0
  providerPayload : String := ""
  deriving DecidableEq

/-- The tables. -/
structure PaymentDB where
  topUps : Table TopUp (·.tradeNo)
  orders : Table SubscriptionOrder (·.tradeNo)
  wallets : Table User (·.id)
  subscriptions : SubscriptionDB

/-- What the functions read besides the tables. `stripe` is the quota that the float
    product `topUp.Money * QuotaPerUnit` adds. -/
structure PaymentEnv where
  stripe : ℚ → Int
  quotaPerUnit : ℚ
  plans : Int → Except String SubscriptionPlan
  calendar : Calendar

/-! ## Completing a top-up -/

/-- What a transaction writes: the order row, and the quota that it adds for its user. -/
structure TopUpWrite where
  topUp : TopUp
  credit : Option Int

/-- How a completing function treats the order it has read. -/
structure TopUpRule where
  /-- the provider that the order must have -/
  provider : Option String := none
  /-- a completed order is no error -/
  idempotent : Bool := false
  statusError : String := "充值订单状态错误"
  quota : TopUp → Int
  /-- a quota that is not positive is refused -/
  positiveOnly : Bool := false

/-- The checks of a completing function, and its writes; `none` when there is nothing to do. -/
def TopUpRule.complete (rule : TopUpRule) (now : Int) (topUp : TopUp) :
    Except String (Option TopUpWrite) :=
  if rule.provider.any (topUp.paymentProvider ≠ ·) then .error "payment method mismatch"
  else if rule.idempotent ∧ topUp.status = "success" then .ok none
  else if topUp.status ≠ "pending" then .error rule.statusError
  else
    let quota := rule.quota topUp
    if rule.positiveOnly ∧ quota ≤ 0 then .error "无效的充值额度"
    else .ok (some ⟨{ topUp with completeTime := now, status := "success" }, some quota⟩)

/-- `Recharge` -/
def recharge (env : PaymentEnv) : TopUpRule :=
  { provider := some "stripe"
    quota := fun topUp => env.stripe topUp.money }

/-- `RechargeCreem` -/
def rechargeCreem : TopUpRule :=
  { provider := some "creem"
    quota := fun topUp => topUp.amount }

/-- `RechargeWaffo` -/
def rechargeWaffo (env : PaymentEnv) : TopUpRule :=
  { provider := some "waffo"
    idempotent := true
    quota := fun topUp => intPart (topUp.amount * env.quotaPerUnit)
    positiveOnly := true }

/-- `RechargeWaffoPancake` -/
def rechargeWaffoPancake (env : PaymentEnv) : TopUpRule :=
  { provider := some "waffo_pancake"
    idempotent := true
    quota := fun topUp => intPart (topUp.amount * env.quotaPerUnit)
    positiveOnly := true }

/-- `ManualCompleteTopUp` -/
def manualCompleteTopUp (env : PaymentEnv) : TopUpRule :=
  { idempotent := true
    statusError := "订单状态不是待支付，无法补单"
    quota := fun topUp =>
      if topUp.paymentProvider = "stripe" then intPart (topUp.money * env.quotaPerUnit)
      else intPart (topUp.amount * env.quotaPerUnit)
    positiveOnly := true }

/-- `UpdatePendingTopUpStatus` -/
def updatePendingTopUpStatus (expectedPaymentProvider targetStatus : String) (topUp : TopUp) :
    Except String (Option TopUpWrite) :=
  if expectedPaymentProvider ≠ "" ∧ topUp.paymentProvider ≠ expectedPaymentProvider then
    .error "payment method mismatch"
  else if topUp.status ≠ "pending" then .error "topup status invalid"
  else .ok (some ⟨{ topUp with status := targetStatus }, none⟩)

/-! ## Subscription orders -/

/-- The checks of `CompleteSubscriptionOrder`; `false` when the order is completed already. -/
def checkCompleteSubscriptionOrder (expectedPaymentProvider : String)
    (order : SubscriptionOrder) : Except String Bool :=
  if expectedPaymentProvider ≠ "" ∧ order.paymentProvider ≠ expectedPaymentProvider then
    .error "payment method mismatch"
  else if order.status = "success" then .ok false
  else if order.status ≠ "pending" then .error "subscription order status invalid"
  else .ok true

/-- The order that `CompleteSubscriptionOrder` saves. -/
def completedOrder (now : Int) (providerPayload actualPaymentMethod : String)
    (order : SubscriptionOrder) : SubscriptionOrder :=
  { order with
    status := "success"
    completeTime := now
    providerPayload := if providerPayload ≠ "" then providerPayload else order.providerPayload
    paymentMethod :=
      if actualPaymentMethod ≠ "" ∧ order.paymentMethod ≠ actualPaymentMethod then
        actualPaymentMethod
      else order.paymentMethod }

/-- `upsertSubscriptionTopUpTx`: the top-up row that mirrors a completed order, from the one
    that was read. -/
def upsertSubscriptionTopUp (now : Int) (order : SubscriptionOrder) :
    Option TopUp → Except String TopUp
  | none =>
    .ok { tradeNo := order.tradeNo
          userId := order.userId
          amount := 0
          money := order.money
          paymentMethod := order.paymentMethod
          createTime := order.createTime
          completeTime := now
          status := "success" }
  | some topUp =>
    if topUp.paymentMethod ≠ "" ∧ topUp.paymentMethod ≠ order.paymentMethod then
      .error "payment method mismatch"
    else
      .ok { topUp with
        money := order.money
        paymentMethod := order.paymentMethod
        createTime := if topUp.createTime = 0 then order.createTime else topUp.createTime
        completeTime := now
        status := "success" }

/-- `ExpireSubscriptionOrder`; `none` when the order is not pending. -/
def expireSubscriptionOrder (now : Int) (expectedPaymentProvider : String)
    (order : SubscriptionOrder) : Except String (Option SubscriptionOrder) :=
  if expectedPaymentProvider ≠ "" ∧ order.paymentProvider ≠ expectedPaymentProvider then
    .error "payment method mismatch"
  else if order.status ≠ "pending" then .ok none
  else .ok (some { order with status := "expired", completeTime := now })

/-! ## Transactions -/

/-- The calls. The callers of `UpdatePendingTopUpStatus` close orders: they pass the
    statuses `failed` and `expired`. -/
inductive PayOp where
  | recharge (tradeNo : String)
  | rechargeCreem (tradeNo customerEmail : String)
  | rechargeWaffo (tradeNo : String)
  | rechargeWaffoPancake (tradeNo : String)
  | manualCompleteTopUp (tradeNo : String)
  | updatePendingTopUpStatus (tradeNo expectedPaymentProvider targetStatus : String)
      (closes : targetStatus ≠ "success")
  | completeSubscriptionOrder
      (tradeNo providerPayload expectedPaymentProvider actualPaymentMethod : String)
  | expireSubscriptionOrder (tradeNo expectedPaymentProvider : String)

/-- What a call does with the top-up order that it has read; `none` if it is a call on
    subscription orders. -/
def PayOp.topUpWrite (env : PaymentEnv) (now : Int) (topUp : TopUp) :
    PayOp → Option (Except String (Option TopUpWrite))
  | .recharge _ => some ((TokenRouter.recharge env).complete now topUp)
  | .rechargeCreem _ _ => some (TokenRouter.rechargeCreem.complete now topUp)
  | .rechargeWaffo _ => some ((TokenRouter.rechargeWaffo env).complete now topUp)
  | .rechargeWaffoPancake _ => some ((TokenRouter.rechargeWaffoPancake env).complete now topUp)
  | .manualCompleteTopUp _ => some ((TokenRouter.manualCompleteTopUp env).complete now topUp)
  | .updatePendingTopUpStatus _ expected target _ =>
    some (TokenRouter.updatePendingTopUpStatus expected target topUp)
  | .completeSubscriptionOrder _ _ _ _ => none
  | .expireSubscriptionOrder _ _ => none

/-- The trade number of a call. -/
def PayOp.tradeNo : PayOp → String
  | .recharge tradeNo => tradeNo
  | .rechargeCreem tradeNo _ => tradeNo
  | .rechargeWaffo tradeNo => tradeNo
  | .rechargeWaffoPancake tradeNo => tradeNo
  | .manualCompleteTopUp tradeNo => tradeNo
  | .updatePendingTopUpStatus tradeNo _ _ _ => tradeNo
  | .completeSubscriptionOrder tradeNo _ _ _ => tradeNo
  | .expireSubscriptionOrder tradeNo _ => tradeNo

/-- The error of an empty trade number. -/
def PayOp.emptyError : PayOp → String
  | .manualCompleteTopUp _ => "未提供订单号"
  | .completeSubscriptionOrder _ _ _ _ => "tradeNo is empty"
  | .expireSubscriptionOrder _ _ => "tradeNo is empty"
  | _ => "未提供支付单号"

/-- The error of an unknown trade number. -/
def PayOp.notFoundError : PayOp → String
  | .updatePendingTopUpStatus _ _ _ _ => "topup not found"
  | .completeSubscriptionOrder _ _ _ _ => "subscription order not found"
  | .expireSubscriptionOrder _ _ => "subscription order not found"
  | _ => "充值订单不存在"

/-- The subscription that a transaction inserts, and whether it moves the user to the
    upgrade group. -/
structure NewSubscription where
  sub : UserSubscription
  elevates : Bool

/-- Where a transaction is, with what it has read and computed. -/
inductive PayStage where
  | started
  /-- a top-up: ready to write -/
  | topUpReady (write : TopUpWrite)
  /-- the pending subscription order -/
  | orderRead (order : SubscriptionOrder)
  /-- the subscription is inserted, in the transaction -/
  | subCreated (order : SubscriptionOrder) (created : NewSubscription)
  /-- ready to write; `fresh` says that there was no mirror row -/
  | completeReady (order : SubscriptionOrder) (created : NewSubscription) (mirror : TopUp)
      (fresh : Bool)
  /-- ready to write the expired order -/
  | expireReady (order : SubscriptionOrder)
  /-- the call has returned -/
  | returned (result : Except String Unit)

/-- A call in progress. -/
structure PayProc where
  pid : Nat
  op : PayOp
  now : Timestamp
  stage : PayStage := .started

namespace PayProc

/-- The first `SELECT` of a call on a top-up order. -/
def readTopUp (env : PaymentEnv) (db : PaymentDB) (p : PayProc) : PayStage :=
  match db.topUps.find? p.op.tradeNo with
  | none => .returned (.error p.op.notFoundError)
  | some topUp =>
    match p.op.topUpWrite env p.now.unix topUp with
    | some (.ok (some write)) => .topUpReady write
    | some (.ok none) => .returned (.ok ())
    | some (.error e) => .returned (.error e)
    | none => p.stage

/-- The first `SELECT` of `CompleteSubscriptionOrder`. -/
def readOrder (db : PaymentDB) (p : PayProc) (expectedPaymentProvider : String) : PayStage :=
  match db.orders.find? p.op.tradeNo with
  | none => .returned (.error p.op.notFoundError)
  | some order =>
    match checkCompleteSubscriptionOrder expectedPaymentProvider order with
    | .error e => .returned (.error e)
    | .ok false => .returned (.ok ())
    | .ok true => .orderRead order

/-- `CreateUserSubscriptionFromPlanTx` inside `CompleteSubscriptionOrder`: what it reads is
    read now, what it writes is visible with the commit. -/
def createSubscription (env : PaymentEnv) (db : PaymentDB) (p : PayProc)
    (order : SubscriptionOrder) : PayStage :=
  match env.plans order.planId with
  | .error e => .returned (.error e)
  | .ok plan =>
    match db.subscriptions.createUserSubscriptionFromPlan env.calendar p.now order.userId plan with
    | .error e => .returned (.error e)
    | .ok (sub, _) =>
      .subCreated order
        ⟨sub, sub.upgradeGroup ≠ "" ∧ db.subscriptions.group order.userId ≠ sub.upgradeGroup⟩

/-- The read of the mirror row. -/
def readMirror (db : PaymentDB) (p : PayProc) (order : SubscriptionOrder)
    (created : NewSubscription) : PayStage :=
  let found := db.topUps.find? order.tradeNo
  match upsertSubscriptionTopUp p.now.unix order found with
  | .error e => .returned (.error e)
  | .ok mirror => .completeReady order created mirror found.isNone

/-- The first `SELECT` of `ExpireSubscriptionOrder`. -/
def readExpiring (db : PaymentDB) (p : PayProc) (expectedPaymentProvider : String) : PayStage :=
  match db.orders.find? p.op.tradeNo with
  | none => .returned (.error p.op.notFoundError)
  | some order =>
    match TokenRouter.expireSubscriptionOrder p.now.unix expectedPaymentProvider order with
    | .error e => .returned (.error e)
    | .ok none => .returned (.ok ())
    | .ok (some order') => .expireReady order'

/-- The next read of a call. -/
def read (env : PaymentEnv) (db : PaymentDB) (p : PayProc) : PayStage :=
  match p.stage with
  | .started =>
    if p.op.tradeNo = "" then .returned (.error p.op.emptyError)
    else
      match p.op with
      | .completeSubscriptionOrder _ _ expected _ => p.readOrder db expected
      | .expireSubscriptionOrder _ expected => p.readExpiring db expected
      | _ => p.readTopUp env db
  | .orderRead order => p.createSubscription env db order
  | .subCreated order created => p.readMirror db order created
  | stage => stage

end PayProc

/-- `quota = quota + ?` on `users`. -/
def PaymentDB.addQuota (db : PaymentDB) (userId quota : Int) : PaymentDB :=
  { db with wallets := db.wallets.update userId fun u => { u with quota := u.quota + quota } }

theorem SubscriptionDB.nextId_pos (db : SubscriptionDB) : 0 < db.lastId + 1 := db.lastId.succ_pos

/-- The row that a transaction inserts gets the next id. -/
def SubscriptionDB.insertCreated (db : SubscriptionDB) (created : NewSubscription) :
    SubscriptionDB :=
  let sub := { created.sub with id := db.lastId + 1, id_pos := db.nextId_pos }
  let db' := if created.elevates then db.setGroup sub.userId sub.upgradeGroup else db
  { db' with subs := db'.subs.insert sub, lastId := db.lastId + 1 }

/-- The tables, the calls, and three histories: how often the quota of a top-up order was
    credited, how many subscriptions were created for a subscription order, and which
    orders have been in status `success`. -/
structure PaySystem where
  db : PaymentDB
  procs : Table PayProc (·.pid)
  credits : String → Nat
  created : String → Nat
  succeeded : String → Bool

/-- The steps. -/
inductive PayEvent where
  | start (pid : Nat) (op : PayOp) (now : Timestamp)
  | read (pid : Nat)
  /-- the writes and the commit -/
  | commit (pid : Nat)
  /-- a failure; nothing is written -/
  | abort (pid : Nat)

namespace PaySystem

/-- Whether the order of a trade number is completed. A trade number of a subscription
    order is judged by that order: its top-up row is a mirror. -/
def success (db : PaymentDB) (tradeNo : String) : Bool :=
  match db.orders.find? tradeNo with
  | some order => order.status = "success"
  | none => (db.topUps.find? tradeNo).any (·.status = "success")

/-- The commit of a top-up. -/
def commitTopUp (s : PaySystem) (customerEmail : String) (write : TopUpWrite) :
    Except String PaySystem :=
  let saved := { s.db with topUps := s.db.topUps.set write.topUp }
  match write.credit with
  | none => .ok { s with db := saved }
  | some quota =>
    match s.db.wallets.find? write.topUp.userId with
    | none =>
      -- only `RechargeCreem` looks for the user, to fill in the email
      if customerEmail ≠ "" then .error "record not found" else .ok { s with db := saved }
    | some _ =>
      .ok { s with
        db := saved.addQuota write.topUp.userId quota
        credits := Function.update s.credits write.topUp.tradeNo
          (s.credits write.topUp.tradeNo + 1) }

/-- The commit of `CompleteSubscriptionOrder`. A mirror row that another transaction has
    inserted meanwhile violates the unique index. -/
def commitComplete (s : PaySystem) (now : Int) (providerPayload actualPaymentMethod : String)
    (order : SubscriptionOrder) (created : NewSubscription) (mirror : TopUp) (fresh : Bool) :
    Except String PaySystem :=
  if fresh ∧ (s.db.topUps.find? mirror.tradeNo).isSome then .error "duplicated key not allowed"
  else
    .ok { s with
      db := { s.db with
        topUps := s.db.topUps.upsert mirror
        orders := s.db.orders.set (completedOrder now providerPayload actualPaymentMethod order)
        subscriptions := s.db.subscriptions.insertCreated created }
      created := Function.update s.created order.tradeNo (s.created order.tradeNo + 1) }

/-- The customer email of `RechargeCreem`. -/
def customerEmail : PayOp → String
  | .rechargeCreem _ email => email
  | _ => ""

/-- The writes of a call; `none` while it is not ready to write. -/
def writes (s : PaySystem) (p : PayProc) : Option (Except String PaySystem) :=
  match p.stage, p.op with
  | .topUpReady write, op => some (s.commitTopUp (customerEmail op) write)
  | .completeReady order created mirror fresh, .completeSubscriptionOrder _ payload _ method =>
    some (s.commitComplete p.now.unix payload method order created mirror fresh)
  | .expireReady order, _ =>
    some (.ok { s with db := { s.db with orders := s.db.orders.set order } })
  | _, _ => none

/-- One step, without the history of completed orders. -/
def stepCore (env : PaymentEnv) (s : PaySystem) : PayEvent → PaySystem
  | .start pid op now => { s with procs := s.procs.insert { pid := pid, op := op, now := now } }
  | .read pid =>
    match s.procs.find? pid with
    | none => s
    | some p => { s with procs := s.procs.set { p with stage := p.read env s.db } }
  | .commit pid =>
    match s.procs.find? pid with
    | none => s
    | some p =>
      match s.writes p with
      | none => s
      | some (.error e) =>
        { s with procs := s.procs.set { p with stage := .returned (.error e) } }
      | some (.ok s') => { s' with procs := s.procs.set { p with stage := .returned (.ok ()) } }
  | .abort pid =>
    match s.procs.find? pid with
    | none => s
    | some p =>
      { s with procs := s.procs.set { p with stage := .returned (.error "driver: bad connection") } }

/-- One step. -/
def step (env : PaymentEnv) (s : PaySystem) (e : PayEvent) : PaySystem :=
  let s' := s.stepCore env e
  { s' with succeeded := fun tradeNo => s.succeeded tradeNo || success s'.db tradeNo }

end PaySystem

end TokenRouter
