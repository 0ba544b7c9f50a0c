import Mathlib.Data.Rat.Floor
import TokenRouter.Service.Quota
import TokenRouter.ForStd.Table

/-!
# The billing of asynchronous tasks (`service/task_billing.go`, `RelayTask` of `controller/relay.go`)

A submitted task is charged through the session of its request. The session ends with the
request; when the task has failed, or its cost is known, the charge is adjusted from what the row
of the task says of its source.
-/

namespace TokenRouter

/-- The columns of a `Task` and its `PrivateData` that the adjustment of its charge reads. -/
structure BilledTask where
  userId : Int
  quota : Int
  billingSource : BillingSource
  subscriptionId : Nat
  tokenId : Int
  deriving DecidableEq

/-- The end of `RelayTask` after a submission: the charge is settled, an error of which is only
    logged, and the task is stored. -/
def BillingState.submitTask (st : BillingState) (quota : Int) : BillingState × BilledTask :=
  let st := (st.settleBilling quota).2
  (st, { userId := st.charge.info.userId
         quota := quota
         billingSource := st.charge.info.billingSource
         subscriptionId := st.charge.info.subscriptionId
         tokenId := st.charge.info.tokenId })

namespace BilledTask

variable (t : BilledTask) (db : QuotaDB)

/-- `taskIsSubscription` -/
def taskIsSubscription : Bool := t.billingSource = .subscription && 0 < t.subscriptionId

/-- `taskAdjustFunding` -/
def taskAdjustFunding (delta : Int) : Except String QuotaDB :=
  if t.taskIsSubscription then db.postConsumeUserSubscriptionDelta t.subscriptionId delta
  else if 0 < delta then db.decreaseUserQuota t.userId delta
  else db.increaseUserQuota t.userId (-delta)

/-- `taskAdjustTokenQuota`: the key of a token that is gone is empty. -/
def taskAdjustTokenQuota (delta : Int) : QuotaDB :=
  if t.tokenId ≤ 0 ∨ delta = 0 then db
  else
    match db.tokens.find? t.tokenId with
    | none => db
    | some _ =>
      logged db (if 0 < delta then db.decreaseTokenQuota t.tokenId delta
        else db.increaseTokenQuota t.tokenId (-delta))

/-- The two steps of an adjustment, the second only after the first. -/
def adjust (delta : Int) : Option QuotaDB :=
  match t.taskAdjustFunding db delta with
  | .error _ => none
  | .ok db => some (t.taskAdjustTokenQuota db delta)

/-- `RefundTaskQuota` -/
def refundTaskQuota : QuotaDB :=
  if t.quota = 0 then db else (t.adjust db (-t.quota)).getD db

/-- `RecalculateTaskQuota`, with the quota that it writes to the task. -/
def recalculateTaskQuota (actualQuota : Int) : BilledTask × QuotaDB :=
  if actualQuota ≤ 0 ∨ actualQuota = t.quota then (t, db)
  else
    match t.adjust db (actualQuota - t.quota) with
    | none => (t, db)
    | some db => ({ t with quota := actualQuota }, db)

end BilledTask

end TokenRouter

/-! ## Submitting a task (`relay/relay_task.go`)

A task costs the price per call, scaled by the ratios of its request. Every attempt computes the
price anew, takes the ratios that the adaptor estimates and applies them one after the other; the
first one that is not free also charges the result. What the upstream answers may replace the
ratios. The ratios are floating point in the source and exact here.
-/

namespace TokenRouter

/-- `PriceData.OtherRatios`, a map. -/
abbrev OtherRatios := Table (String × ℚ) Prod.fst

namespace OtherRatios

variable (ratios : OtherRatios)

/-- `AddOtherRatio` -/
def addOtherRatio (key : String) (ratio : ℚ) : OtherRatios :=
  if ratio ≤ 0 then ratios else ratios.upsert (key, ratio)

/-- The ratios of another map, added to these. -/
def addOtherRatios (added : OtherRatios) : OtherRatios :=
  added.rows.foldl (fun ratios entry => addOtherRatio ratios entry.1 entry.2) ratios

/-- The values of the map. -/
def values : List ℚ := ratios.rows.map Prod.snd

/-- The product of the ratios. -/
def product : ℚ := ratios.values.prod

end OtherRatios

/-- The order in which a loop goes through a map. -/
structure IterationOrder where
  values : OtherRatios → List ℚ
  perm : ∀ ratios, (values ratios).Perm ratios.values

/-- The conversion `int` of a floating point number. -/
def truncToInt (q : ℚ) : Int := if 0 ≤ q then ⌊q⌋ else -⌊-q⌋

/-- The ratios applied to a quota, unless the model is one of `constant.TaskPricePatches`. -/
def applyOtherRatios (patched : Bool) (order : IterationOrder) (quota : Int)
    (ratios : OtherRatios) : Int :=
  if patched then quota
  else
    (order.values ratios).foldl (fun quota ra => if ra ≠ 1 then truncToInt (quota * ra) else quota)
      quota

/-- `recalcQuotaFromRatios`: the quota is divided by its ratios and multiplied by the new ones. -/
def recalcQuotaFromRatios (order : IterationOrder) (quota : Int) (ratios adjusted : OtherRatios) :
    Int :=
  let baseQuota := (order.values ratios).foldl
    (fun quota ra => if ra ≠ 1 ∧ 0 < ra then truncToInt (quota / ra) else quota) quota
  truncToInt (adjusted.values.foldl (fun (result : ℚ) ra => if ra ≠ 1 then result * ra else result)
    baseQuota)

/-! ### The origin of a remix -/

/-- What an origin task says of its ratios: those of its `BillingContext`, or else the seconds and
    the size in its data. -/
inductive OriginRatios where
  | billingContext (ratios : OtherRatios)
  | taskData (seconds : Int) (size : String)

/-- The ratios that `ResolveOriginTask` sets for a remix. -/
def OriginRatios.resolve : OriginRatios → OtherRatios
  | .billingContext ratios => OtherRatios.addOtherRatios .empty ratios
  | .taskData seconds size =>
    let ratios := Table.upsert .empty ("seconds", if seconds ≤ 0 then 4 else (seconds : ℚ))
    ratios.upsert ("size", if size = "1792x1024" ∨ size = "1024x1792" then 1.666667 else 1)

/-! ### An attempt -/

/-- The parts of `PriceData` and `RelayInfo` that an attempt reads and writes: the ratios, the
    quota, and the quota that has been pre-consumed, if any has. -/
structure TaskCharge where
  otherRatios : OtherRatios := .empty
  quota : Int := 0
  preConsumed : Option Int := none

/-- What an attempt meets: the price of the model in its group (`ModelPriceHelperPerCall`), the
    answers of the adaptor, the orders of the loops, and what fails. -/
structure TaskAttempt where
  baseQuota : Nat
  freeModel : Bool := false
  patched : Bool := false
  estimateBilling : OtherRatios := .empty
  adjustBillingOnSubmit : OtherRatios := .empty
  applyOrder : IterationOrder
  recalcOrder : IterationOrder
  rejected : Bool := false
  preConsumeFails : Bool := false
  upstreamFails : Bool := false

/-- The charge with the price of the attempt and the ratios of its estimate. -/
def TaskAttempt.price (a : TaskAttempt) (charge : TaskCharge) : TaskCharge :=
  let otherRatios := OtherRatios.addOtherRatios .empty a.estimateBilling
  { charge with
    otherRatios := otherRatios
    quota := applyOtherRatios a.patched a.applyOrder a.baseQuota otherRatios }

/-- `RelayTaskSubmit`: the quota of the submitted task, if it is, and the charge after it. -/
def relayTaskSubmit (charge : TaskCharge) (a : TaskAttempt) : Option Int × TaskCharge :=
  if a.rejected then (none, charge)
  else
    let charge := a.price charge
    if charge.preConsumed.isNone ∧ ¬ a.freeModel ∧ a.preConsumeFails then (none, charge)
    else
      let charge :=
        if charge.preConsumed.isNone ∧ ¬ a.freeModel then
          { charge with preConsumed := some charge.quota }
        else charge
      if a.upstreamFails then (none, charge)
      else if a.adjustBillingOnSubmit.rows = [] then (some charge.quota, charge)
      else
        let finalQuota := recalcQuotaFromRatios a.recalcOrder charge.quota charge.otherRatios
          a.adjustBillingOnSubmit
        (some finalQuota,
          { charge with otherRatios := a.adjustBillingOnSubmit, quota := finalQuota })

/-- The charge that an attempt leaves, as a step of `RelayTask`. -/
def taskAttemptStep (charge : TaskCharge) (a : TaskAttempt) : TaskCharge :=
  (relayTaskSubmit charge a).2

end TokenRouter
