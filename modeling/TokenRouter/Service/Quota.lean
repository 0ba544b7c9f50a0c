import TokenRouter.Model.DB
import TokenRouter.Service.BillingSession
import TokenRouter.Service.TenantBillingSession

/-!
# Charges outside a billing session (`service/quota.go`)

`PostConsumeQuota` debits a request's subscription or else its user's wallet, and the token.
-/

namespace TokenRouter

/-- What a charge reads and writes, and the tables of tenant billing beside it. -/
structure ChargeState where
  db : DB
  quota : QuotaDB
  info : RelayInfo

namespace ChargeState

/-- The first part of `PostConsumeQuota`: every source that is no subscription is the wallet. -/
def consumeSource (st : ChargeState) (quota : Int) : Except String ChargeState :=
  if st.info.billingSource = .subscription then
    if st.info.subscriptionId = 0 then .error "subscription id is missing"
    else if quota ≠ 0 then
      match st.quota.postConsumeUserSubscriptionDelta st.info.subscriptionId quota with
      | .error e => .error e
      | .ok db =>
        let subscriptionPostDelta := st.info.subscriptionPostDelta + quota
        .ok { st with quota := db, info := { st.info with subscriptionPostDelta } }
    else .ok st
  else
    match (if 0 < quota then st.quota.decreaseUserQuota st.info.userId quota
        else st.quota.increaseUserQuota st.info.userId (-quota)) with
    | .error e => .error e
    | .ok db => .ok { st with quota := db }

/-- `PostConsumeQuota`, with the error it returns; the source stays debited if the token fails. -/
def postConsumeQuota (st : ChargeState) (quota : Int) : Option String × ChargeState :=
  match st.consumeSource quota with
  | .error e => (some e, st)
  | .ok st =>
    match SessionState.settleToken st.quota st.info quota with
    | .error e => (some e, st)
    | .ok db => (none, { st with quota := db })

/-! ## What a charge changes -/

/-- The wallet step, with the sign taken apart. -/
theorem walletStep_eq (db : QuotaDB) (userId quota : Int) :
    (if 0 < quota then db.decreaseUserQuota userId quota
      else db.increaseUserQuota userId (-quota)) = .ok (db.addUserQuota userId (-quota)) := by
  split
  · rw [QuotaDB.decreaseUserQuota, if_neg (by omega)]
  · rw [QuotaDB.increaseUserQuota, if_neg (by omega)]

/-- The token step, with the sign taken apart. -/
theorem settleToken_eq (db : QuotaDB) (info : RelayInfo) (quota : Int) :
    SessionState.settleToken db info quota =
      .ok (if info.isPlayground then db else db.addTokenQuota info.tokenId (-quota)) := by
  unfold SessionState.settleToken
  split
  · rfl
  · split
    · rw [QuotaDB.decreaseTokenQuota, if_neg (by omega)]
    · rw [QuotaDB.increaseTokenQuota, if_neg (by omega)]

/-- The token step writes no other table. -/
def withToken (st : ChargeState) (quota : Int) : ChargeState :=
  { st with quota := if st.info.isPlayground then st.quota
                     else st.quota.addTokenQuota st.info.tokenId (-quota) }

/-- Without a subscription the user's wallet is charged, whatever funds the request. -/
theorem postConsumeQuota_wallet (st : ChargeState) (quota : Int)
    (h : st.info.billingSource ≠ .subscription) :
    st.postConsumeQuota quota =
      (none, withToken { st with quota := st.quota.addUserQuota st.info.userId (-quota) } quota) := by
  simp only [postConsumeQuota, consumeSource, if_neg h, walletStep_eq, settleToken_eq]
  rfl

end ChargeState

end TokenRouter

/-! ## The billing of a request (`service/billing.go`)

`PreConsumeBilling` puts a session on the request, a tenant's or a prepaid one, and
`SettleBilling` settles it. A request of a free model has no session and is charged directly.
-/

namespace TokenRouter

/-- `RelayInfo.Billing` -/
inductive Billing where
  | session (s : BillingSession)
  | tenant (s : TenantCreditBillingSession)
  deriving DecidableEq

/-- A request with its session. -/
structure BillingState where
  charge : ChargeState
  billing : Option Billing := none

/-- `PreConsumeBilling`, with the error it returns. -/
def preConsumeBilling (env : BillingEnv) (st : ChargeState) (tokenQuota preConsumedQuota : Int) :
    Option NewAPIError × BillingState :=
  let t := prepareTenantBillingSession env st.db st.quota st.info tokenQuota preConsumedQuota
  let charge : ChargeState := { db := t.db, quota := t.quota, info := t.info }
  match t.result with
  | .error apiErr => (some apiErr, { charge })
  | .ok (some tenantSession) => (none, { charge, billing := some (.tenant tenantSession) })
  | .ok none =>
    let r := newBillingSession env t.quota t.info tokenQuota preConsumedQuota
    let charge : ChargeState := { db := t.db, quota := r.db, info := r.info }
    match r.result with
    | .error apiErr => (some apiErr, { charge })
    | .ok session => (none, { charge, billing := some (.session session) })

namespace BillingState

/-- `SettleBilling`, with the error it returns. The two branches of the source on the billing
    source differ in what they log and notify. -/
def settleBilling (st : BillingState) (actualQuota : Int) : Option String × BillingState :=
  match st.billing with
  | some (.tenant session) =>
    let (err, t) := TenantSessionState.settle
      { db := st.charge.db, quota := st.charge.quota, info := st.charge.info, session } actualQuota
    (err, { charge := { db := t.db, quota := t.quota, info := t.info }
            billing := some (.tenant t.session) })
  | some (.session session) =>
    let (err, t) := SessionState.settle
      { db := st.charge.quota, info := st.charge.info, session } actualQuota
    (err, { charge := { st.charge with quota := t.db, info := t.info }
            billing := some (.session t.session) })
  | none =>
    -- what the session would have taken in advance was not taken here
    let quotaDelta := actualQuota - st.charge.info.finalPreConsumedQuota
    if quotaDelta ≠ 0 then
      let (err, charge) := st.charge.postConsumeQuota quotaDelta
      (err, { st with charge })
    else (none, st)

end BillingState

end TokenRouter
