import TokenRouter.Common
import TokenRouter.Relay.Info
import TokenRouter.ForStd.Table

/-!
# Wallets, tokens and subscriptions (`model/user.go`, `model/token.go`, `model/subscription.go`)

The tables that prepaid billing debits. Redis and the batch updater are off here:
a quota change is one `UPDATE`, which touches no row when the id is unknown.
-/

namespace TokenRouter

/-- `users`, as far as billing reads it. -/
structure User where
  id : Int
  quota : Int
  deriving DecidableEq

/-- `tokens`, as far as billing reads it. `GetTokenByKey` finds a token by the key
    that its id belongs to. -/
structure Token where
  id : Int
  remainQuota : Int
  usedQuota : Int := 0
  unlimitedQuota : Bool := false
  deriving DecidableEq

/-- `user_subscriptions`. Ids start at 1 and `amount_used` is never negative. -/
structure UserSubscription where
  id : Nat
  userId : Int
  planId : Int := 0
  amountTotal : Int
  amountUsed : Int
  startTime : Int := 0
  endTime : Int
  status : String := "active"
  lastResetTime : Int := 0
  nextResetTime : Int := 0
  upgradeGroup : String := ""
  prevUserGroup : String := ""
  downgradeGroup : String := ""
  allowWalletOverflow : Bool := false
  id_pos : 0 < id := by decide
  amountUsed_nonneg : 0 ≤ amountUsed := by decide

instance : DecidableEq UserSubscription := fun a b =>
  decidable_of_iff
    (a.id = b.id ∧ a.userId = b.userId ∧ a.planId = b.planId ∧ a.amountTotal = b.amountTotal ∧
      a.amountUsed = b.amountUsed ∧ a.startTime = b.startTime ∧ a.endTime = b.endTime ∧
      a.status = b.status ∧ a.lastResetTime = b.lastResetTime ∧
      a.nextResetTime = b.nextResetTime ∧ a.upgradeGroup = b.upgradeGroup ∧
      a.prevUserGroup = b.prevUserGroup ∧ a.downgradeGroup = b.downgradeGroup ∧
      a.allowWalletOverflow = b.allowWalletOverflow)
    (by cases a; cases b; simp only [UserSubscription.mk.injEq])

theorem UserSubscription.unused_nonneg : (0 : Int) ≤ 0 := le_refl 0

theorem UserSubscription.charged_nonneg (sub : UserSubscription) {amount : Int}
    (hamount : 0 ≤ amount) : 0 ≤ sub.amountUsed + amount :=
  add_nonneg sub.amountUsed_nonneg hamount

/-- `subscription_pre_consume_records`; `refunded` is the status `"refunded"`. -/
structure SubscriptionPreConsumeRecord where
  requestId : String
  userId : Int
  userSubscriptionId : Nat
  preConsumed : Int
  refunded : Bool := false
  deriving DecidableEq

/-- The tables of prepaid billing. -/
structure QuotaDB where
  users : Table User (·.id)
  tokens : Table Token (·.id)
  subscriptions : Table UserSubscription (·.id)
  records : Table SubscriptionPreConsumeRecord (·.requestId)

/-- The loop of `maybeResetUserSubscriptionWithPlanTx` over the plan's calendar: the
    plan never resets, no reset is due (with the next one), or one is due. -/
inductive ResetTimes where
  | never
  | notDue (base next : Int)
  | due (base next : Int)

/-- What prepaid billing reads besides its tables: server settings, the clock and the
    calendar of a subscription's plan (`calcNextResetTime`). -/
structure BillingEnv where
  trustQuota : Int
  formatQuota : Int → String
  now : Timestamp
  resetTimes : UserSubscription → Int → Except String ResetTimes

namespace QuotaDB

/-! ## Users and tokens -/

/-- The error of a negative quota argument. -/
def errNegativeQuota : String := "quota 不能为负数！"

/-- `GetUserQuota`. -/
def getUserQuota (db : QuotaDB) (userId : Int) : Int :=
  ((db.users.find? userId).map (·.quota)).getD 0

/-- `quota = quota + ?` on `users`. -/
def addUserQuota (db : QuotaDB) (userId quota : Int) : QuotaDB :=
  { db with users := db.users.update userId fun u => { u with quota := u.quota + quota } }

/-- `IncreaseUserQuota`. -/
def increaseUserQuota (db : QuotaDB) (userId quota : Int) : Except String QuotaDB :=
  if quota < 0 then .error errNegativeQuota else .ok (db.addUserQuota userId quota)

/-- `DecreaseUserQuota`. -/
def decreaseUserQuota (db : QuotaDB) (userId quota : Int) : Except String QuotaDB :=
  if quota < 0 then .error errNegativeQuota else .ok (db.addUserQuota userId (-quota))

/-- `remain_quota` of a token, `0` when there is no such token. -/
def tokenRemain (db : QuotaDB) (tokenId : Int) : Int :=
  ((db.tokens.find? tokenId).map (·.remainQuota)).getD 0

/-- `remain_quota = remain_quota + ?, used_quota = used_quota - ?` on `tokens`. -/
def addTokenQuota (db : QuotaDB) (tokenId quota : Int) : QuotaDB :=
  { db with
    tokens := db.tokens.update tokenId fun t =>
      { t with remainQuota := t.remainQuota + quota, usedQuota := t.usedQuota - quota } }

/-- `IncreaseTokenQuota`. -/
def increaseTokenQuota (db : QuotaDB) (tokenId quota : Int) : Except String QuotaDB :=
  if quota < 0 then .error errNegativeQuota else .ok (db.addTokenQuota tokenId quota)

/-- `DecreaseTokenQuota`. -/
def decreaseTokenQuota (db : QuotaDB) (tokenId quota : Int) : Except String QuotaDB :=
  if quota < 0 then .error errNegativeQuota else .ok (db.addTokenQuota tokenId (-quota))

/-- `PreConsumeTokenQuota`. -/
def preConsumeTokenQuota (env : BillingEnv) (db : QuotaDB) (info : RelayInfo) (quota : Int) :
    Except String QuotaDB :=
  if quota < 0 then .error errNegativeQuota
  else if info.isPlayground then .ok db
  else
    match db.tokens.find? info.tokenId with
    | none => .error "record not found"
    | some token =>
      if ¬ info.tokenUnlimited ∧ token.remainQuota < quota then
        .error ("token quota is not enough, token remain quota: " ++
          env.formatQuota token.remainQuota ++ ", need quota: " ++ env.formatQuota quota)
      else db.decreaseTokenQuota info.tokenId quota

/-! ## Subscriptions -/

/-- `amount_used` of a subscription, `0` when there is no such subscription. -/
def amountUsed (db : QuotaDB) (subscriptionId : Nat) : Int :=
  ((db.subscriptions.find? subscriptionId).map (·.amountUsed)).getD 0

/-- The active subscriptions of a user at a time. -/
def activeSubscriptions (db : QuotaDB) (userId now : Int) : List UserSubscription :=
  db.subscriptions.rows.filter fun s =>
    s.userId = userId ∧ s.status = "active" ∧ now < s.endTime

/-- `HasActiveUserSubscription`. -/
def hasActiveUserSubscription (db : QuotaDB) (userId now : Int) : Except String Bool :=
  if userId ≤ 0 then .error "invalid userId"
  else .ok !(db.activeSubscriptions userId now).isEmpty

/-- `UserActiveSubscriptionsAllowWalletOverflow`. -/
def userActiveSubscriptionsAllowWalletOverflow (db : QuotaDB) (userId now : Int) :
    Except String Bool :=
  if userId ≤ 0 then .error "invalid userId"
  else .ok ((db.activeSubscriptions userId now).all (·.allowWalletOverflow))

/-- `PostConsumeUserSubscriptionDelta`. -/
def postConsumeUserSubscriptionDelta (db : QuotaDB) (subscriptionId : Nat) (delta : Int) :
    Except String QuotaDB :=
  if subscriptionId = 0 then .error "invalid userSubscriptionId"
  else if delta = 0 then .ok db
  else
    match db.subscriptions.find? subscriptionId with
    | none => .error "record not found"
    | some sub =>
      let newUsed := max 0 (sub.amountUsed + delta)
      if 0 < sub.amountTotal ∧ sub.amountTotal < newUsed then
        .error ("subscription used exceeds total, used=" ++ toString newUsed ++ " total=" ++
          toString sub.amountTotal)
      else
        let sub' := { sub with amountUsed := newUsed, amountUsed_nonneg := le_max_left _ _ }
        .ok { db with subscriptions := db.subscriptions.set sub' }

/-- `maybeResetUserSubscriptionWithPlanTx`. -/
def maybeResetUserSubscription (env : BillingEnv) (sub : UserSubscription) (now : Int) :
    Except String UserSubscription :=
  if 0 < sub.nextResetTime ∧ now < sub.nextResetTime then .ok sub
  else
    match env.resetTimes sub now with
    | .error e => .error e
    | .ok .never => .ok sub
    | .ok (.notDue base next) =>
      if sub.nextResetTime = 0 ∧ 0 < next then
        .ok { sub with nextResetTime := next, lastResetTime := base }
      else .ok sub
    | .ok (.due base next) =>
      .ok { sub with
        amountUsed := 0
        lastResetTime := base
        nextResetTime := next
        amountUsed_nonneg := le_refl 0 }

/-- `SubscriptionPreConsumeResult`. -/
structure PreConsumeResult where
  userSubscriptionId : Nat
  preConsumed : Int
  amountTotal : Int
  amountUsedBefore : Int
  amountUsedAfter : Int

/-- The candidate loop of `PreConsumeUserSubscription`: the first subscription with
    room takes the amount; a due reset of an earlier candidate is kept. -/
def preConsumeLoop (env : BillingEnv) (requestId : String) (userId amount now : Int)
    (hamount : 0 ≤ amount) :
    QuotaDB → List UserSubscription → Except String (PreConsumeResult × QuotaDB)
  | _, [] => .error ("subscription quota insufficient, need=" ++ toString amount)
  | db, candidate :: rest =>
    match maybeResetUserSubscription env candidate now with
    | .error e => .error e
    | .ok sub =>
      if 0 < sub.amountTotal ∧ sub.amountTotal - sub.amountUsed < amount then
        preConsumeLoop env requestId userId amount now hamount
          { db with subscriptions := db.subscriptions.set sub } rest
      else
        let sub' := { sub with
          amountUsed := sub.amountUsed + amount
          amountUsed_nonneg := add_nonneg sub.amountUsed_nonneg hamount }
        .ok ({ userSubscriptionId := sub.id
               preConsumed := amount
               amountTotal := sub.amountTotal
               amountUsedBefore := sub.amountUsed
               amountUsedAfter := sub.amountUsed + amount },
          { db with
            subscriptions := db.subscriptions.set sub'
            records := db.records.insert
              { requestId := requestId
                userId := userId
                userSubscriptionId := sub.id
                preConsumed := amount } })

/-- `PreConsumeUserSubscription`. -/
def preConsumeUserSubscription (env : BillingEnv) (db : QuotaDB) (requestId : String)
    (userId amount : Int) : Except String (PreConsumeResult × QuotaDB) :=
  if userId ≤ 0 then .error "invalid userId"
  else if trimSpace requestId = "" then .error "requestId is empty"
  else if h : amount ≤ 0 then .error "amount must be > 0"
  else
    match db.records.find? requestId with
    | some existing =>
      -- the request was charged before; nothing is added
      if existing.refunded then .error "subscription pre-consume already refunded"
      else
        match db.subscriptions.find? existing.userSubscriptionId with
        | none => .error "record not found"
        | some sub =>
          .ok ({ userSubscriptionId := sub.id
                 preConsumed := existing.preConsumed
                 amountTotal := sub.amountTotal
                 amountUsedBefore := sub.amountUsed
                 amountUsedAfter := sub.amountUsed }, db)
    | none =>
      let subs := (db.activeSubscriptions userId env.now.unix).mergeSort fun a b =>
        a.endTime < b.endTime ∨ (a.endTime = b.endTime ∧ a.id ≤ b.id)
      if subs.isEmpty then .error "no active subscription"
      else
        preConsumeLoop env requestId userId amount env.now.unix (not_le.mp h).le db subs

/-- `RefundSubscriptionPreConsume`. -/
def refundSubscriptionPreConsume (db : QuotaDB) (requestId : String) : Except String QuotaDB :=
  if trimSpace requestId = "" then .error "requestId is empty"
  else
    match db.records.find? requestId with
    | none => .error "record not found"
    | some record =>
      if record.refunded then .ok db
      else if record.preConsumed ≤ 0 then
        .ok { db with records := db.records.set { record with refunded := true } }
      else
        match db.postConsumeUserSubscriptionDelta record.userSubscriptionId
            (-record.preConsumed) with
        | .error e => .error e
        | .ok db' => .ok { db' with records := db'.records.set { record with refunded := true } }

end QuotaDB

end TokenRouter
