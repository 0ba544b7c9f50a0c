import TokenRouter.Model.Quota

/-!
# Plans, subscriptions and user groups (`model/subscription.go`)

A subscription may move its user to another group while it lasts. It remembers the group
that the user was in when it was created, and the functions that end a subscription
decide from these memories which group the user goes back to.
-/

namespace TokenRouter

/-! ## Plans -/

/-- `time.Time.AddDate` and `time.Date` in the server's time zone, on Unix seconds. -/
structure Calendar where
  addDate : Int → Int → Int → Int
  nextDay : Int → Int
  nextMonday : Int → Int
  nextMonth : Int → Int

/-- `subscription_plans`, as far as creating a subscription reads it. -/
structure SubscriptionPlan where
  id : Int
  durationUnit : String := "month"
  durationValue : Int := 1
  customSeconds : Int := 0
  allowWalletOverflow : Option Bool := none
  maxPurchasePerUser : Int := 0
  upgradeGroup : String := ""
  downgradeGroup : String := ""
  totalAmount : Int := 0
  quotaResetPeriod : String := "never"
  quotaResetCustomSeconds : Int := 0
  deriving DecidableEq

/-- `start.Add(d).Unix()` for a duration in nanoseconds, which is an `int64`. -/
def addDuration (start nanoseconds : Int) : Int :=
  start + Int.bmod nanoseconds (2 ^ 64) / 1000000000

/-- `calcPlanEndTime`. -/
def calcPlanEndTime (cal : Calendar) (start : Int) (plan : SubscriptionPlan) : Except String Int :=
  if plan.durationValue ≤ 0 ∧ plan.durationUnit ≠ "custom" then
    .error "duration_value must be > 0"
  else if plan.durationUnit = "year" then .ok (cal.addDate start plan.durationValue 0)
  else if plan.durationUnit = "month" then .ok (cal.addDate start 0 plan.durationValue)
  else if plan.durationUnit = "day" then
    .ok (addDuration start (plan.durationValue * 24 * 3600000000000))
  else if plan.durationUnit = "hour" then
    .ok (addDuration start (plan.durationValue * 3600000000000))
  else if plan.durationUnit = "custom" then
    if plan.customSeconds ≤ 0 then .error "custom_seconds must be > 0"
    else .ok (addDuration start (plan.customSeconds * 1000000000))
  else .error ("invalid duration_unit: " ++ plan.durationUnit)

/-- `calcNextResetTime`. -/
def calcNextResetTime (cal : Calendar) (base : Int) (plan : SubscriptionPlan) (endUnix : Int) :
    Int :=
  let next :=
    match trimSpace plan.quotaResetPeriod with
    | "daily" => some (cal.nextDay base)
    | "weekly" => some (cal.nextMonday base)
    | "monthly" => some (cal.nextMonth base)
    | "custom" =>
      if plan.quotaResetCustomSeconds ≤ 0 then none
      else some (addDuration base (plan.quotaResetCustomSeconds * 1000000000))
    | _ => none
  match next with
  | none => 0
  | some next => if 0 < endUnix ∧ endUnix < next then 0 else next

/-! ## The tables -/

/-- `users`, as far as the groups are concerned. -/
structure GroupUser where
  id : Int
  group : String
  deriving DecidableEq

/-- Users and their subscriptions. `lastId` is the last auto-increment id: ids of deleted
    subscriptions are not used again. -/
structure SubscriptionDB where
  users : Table GroupUser (·.id)
  subs : Table UserSubscription (·.id)
  lastId : Nat := 0

namespace SubscriptionDB

/-- The group of a user; the query leaves it empty when there is no such user. -/
def group (db : SubscriptionDB) (userId : Int) : String :=
  ((db.users.find? userId).map (·.group)).getD ""

/-- `getUserGroupByIdTx`. -/
def getUserGroupById (db : SubscriptionDB) (userId : Int) : Except String String :=
  if userId ≤ 0 then .error "invalid userId" else .ok (db.group userId)

/-- `Update("group", target)` on a user. -/
def setGroup (db : SubscriptionDB) (userId : Int) (target : String) : SubscriptionDB :=
  { db with users := db.users.update userId fun u => { u with group := target } }

/-- Whether the user has an upgraded subscription that is active and has not ended,
    other than `sub`. -/
def hasOtherUpgraded (db : SubscriptionDB) (sub : UserSubscription) (now : Int) : Bool :=
  db.subs.rows.any fun s =>
    s.userId = sub.userId ∧ s.status = "active" ∧ now < s.endTime ∧ s.id ≠ sub.id ∧
      s.upgradeGroup ≠ ""

/-- `downgradeUserGroupForSubscriptionTx`: the group that the user goes back to, empty if
    the user stays. -/
def downgradeUserGroupForSubscription (db : SubscriptionDB) (sub : UserSubscription)
    (now : Int) : Except String (String × SubscriptionDB) :=
  let downgradeGroup := trimSpace sub.downgradeGroup
  let upgradeGroup := trimSpace sub.upgradeGroup
  if downgradeGroup = "" ∧ upgradeGroup = "" then .ok ("", db)
  else
    match db.getUserGroupById sub.userId with
    | .error e => .error e
    | .ok currentGroup =>
      if db.hasOtherUpgraded sub now then .ok ("", db)
      else if downgradeGroup = "" ∧ currentGroup ≠ upgradeGroup then .ok ("", db)
      else
        let target := if downgradeGroup = "" then trimSpace sub.prevUserGroup else downgradeGroup
        if target = "" ∨ target = currentGroup then .ok ("", db)
        else .ok (target, db.setGroup sub.userId target)

/-- `CreateUserSubscriptionFromPlanTx`. -/
def createUserSubscriptionFromPlan (db : SubscriptionDB) (cal : Calendar) (now : Timestamp)
    (userId : Int) (plan : SubscriptionPlan) : Except String (UserSubscription × SubscriptionDB) :=
  if plan.id = 0 then .error "invalid plan"
  else if userId ≤ 0 then .error "invalid user id"
  else if 0 < plan.maxPurchasePerUser ∧ plan.maxPurchasePerUser ≤
      (db.subs.rows.filter fun s => s.userId = userId ∧ s.planId = plan.id).length then
    .error "已达到该套餐购买上限"
  else
    match calcPlanEndTime cal now.unix plan with
    | .error e => .error e
    | .ok endUnix =>
      let nextReset := calcNextResetTime cal now.unix plan endUnix
      let upgradeGroup := trimSpace plan.upgradeGroup
      let currentGroup := db.group userId
      let elevates := upgradeGroup ≠ "" ∧ currentGroup ≠ upgradeGroup
      let sub : UserSubscription :=
        { id := db.lastId + 1
          userId := userId
          planId := plan.id
          amountTotal := plan.totalAmount
          amountUsed := 0
          startTime := now.unix
          endTime := endUnix
          lastResetTime := if 0 < nextReset then now.unix else 0
          nextResetTime := nextReset
          upgradeGroup := upgradeGroup
          prevUserGroup := if elevates then currentGroup else ""
          downgradeGroup := trimSpace plan.downgradeGroup
          allowWalletOverflow := plan.allowWalletOverflow.getD true
          id_pos := db.lastId.succ_pos }
      let db' := if elevates then db.setGroup userId upgradeGroup else db
      .ok (sub, { db' with subs := db'.subs.insert sub, lastId := db.lastId + 1 })

/-- The message of the admin functions. -/
def downgradeMessage (target : String) : String :=
  if target = "" then "" else "用户分组将回退到 " ++ target

/-- `AdminInvalidateUserSubscription`. -/
def adminInvalidateUserSubscription (db : SubscriptionDB) (now : Timestamp) (id : Nat) :
    Except String (String × SubscriptionDB) :=
  if id = 0 then .error "invalid userSubscriptionId"
  else
    match db.subs.find? id with
    | none => .error "record not found"
    | some sub =>
      let sub' := { sub with status := "cancelled", endTime := now.unix }
      match downgradeUserGroupForSubscription { db with subs := db.subs.set sub' } sub' now.unix with
      | .error e => .error e
      | .ok (target, db') => .ok (downgradeMessage target, db')

/-- `AdminDeleteUserSubscription`. -/
def adminDeleteUserSubscription (db : SubscriptionDB) (now : Timestamp) (id : Nat) :
    Except String (String × SubscriptionDB) :=
  if id = 0 then .error "invalid userSubscriptionId"
  else
    match db.subs.find? id with
    | none => .error "record not found"
    | some sub =>
      match db.downgradeUserGroupForSubscription sub now.unix with
      | .error e => .error e
      | .ok (target, db') => .ok (downgradeMessage target, { db' with subs := db'.subs.erase id })

/-! ## Expiry -/

/-- The rows that `ExpireDueSubscriptions` marks. -/
def isDue (now : Int) (sub : UserSubscription) : Bool :=
  sub.status = "active" ∧ 0 < sub.endTime ∧ sub.endTime ≤ now

/-- `Order("end_time desc, id desc").Limit(1)`. -/
def latest : List UserSubscription → Option UserSubscription
  | [] => none
  | s :: rest =>
    match latest rest with
    | none => some s
    | some t =>
      if t.endTime < s.endTime ∨ (t.endTime = s.endTime ∧ t.id < s.id) then some s else some t

/-- The due subscriptions of a user become expired. -/
def markExpired (db : SubscriptionDB) (userId now : Int) : SubscriptionDB :=
  { db with
    subs := db.subs.mapRows
      (fun s => if s.userId = userId ∧ isDue now s then { s with status := "expired" } else s)
      (fun s => by split <;> rfl) }

/-- The last expired subscription of a user that defines a group transition. -/
def lastExpired (db : SubscriptionDB) (userId : Int) : Option UserSubscription :=
  latest (db.subs.rows.filter fun s =>
    s.userId = userId ∧ s.status = "expired" ∧ (s.downgradeGroup ≠ "" ∨ s.upgradeGroup ≠ ""))

/-- The group that the last expired subscription sends the user to, empty if the user
    stays. -/
def expiryTarget (sub : UserSubscription) (currentGroup : String) : String :=
  if trimSpace sub.downgradeGroup ≠ "" then trimSpace sub.downgradeGroup
  else if trimSpace sub.upgradeGroup = "" ∨ trimSpace sub.prevUserGroup = "" then ""
  else if currentGroup ≠ trimSpace sub.upgradeGroup then ""
  else trimSpace sub.prevUserGroup

/-- The transaction of `ExpireDueSubscriptions` for one user. -/
def expireUser (now : Int) (db : SubscriptionDB) (userId : Int) : SubscriptionDB :=
  let db := db.markExpired userId now
  if db.subs.rows.any fun s =>
      s.userId = userId ∧ s.status = "active" ∧ now < s.endTime ∧ s.upgradeGroup ≠ "" then db
  else
    match db.lastExpired userId with
    | none => db
    | some sub =>
      let currentGroup := db.group userId
      let target := expiryTarget sub currentGroup
      if target = "" ∨ target = currentGroup then db else db.setGroup userId target

/-- The users whose subscriptions are handled: those of the first `limit` due rows. -/
def dueUsers (db : SubscriptionDB) (now limit : Int) : List Int :=
  let limit := if limit ≤ 0 then 200 else limit
  let due := (db.subs.rows.filter fun s => isDue now s).insertionSort fun a b =>
    a.endTime < b.endTime ∨ (a.endTime = b.endTime ∧ a.id ≤ b.id)
  (((due.take limit.toNat).map (·.userId)).filter fun userId => 0 < userId).dedup

/-- `ExpireDueSubscriptions`. The loop over the users is over a Go map, in any order; the
    transactions of two users touch no common row. -/
def expireDueSubscriptions (db : SubscriptionDB) (now : Timestamp) (limit : Int) :
    SubscriptionDB :=
  (db.dueUsers now.unix limit).foldl (expireUser now.unix) db

end SubscriptionDB

end TokenRouter
