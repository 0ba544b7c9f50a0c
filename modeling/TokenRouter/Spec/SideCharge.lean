import TokenRouter.ForStd.Run
import TokenRouter.Service.ViolationFee

/-!
# Charges beside a session

`PostConsumeQuota` knows subscriptions and wallets. A request on a tenant's credit is charged
to its user's wallet, and nothing of it reaches the tenant.

## Main results

- `debitsSource_iff`: one charge follows the request's source exactly if the source covers it
- `side_charges_follow_source_iff`: all charges of a request, and how often the fee is charged
-/

namespace TokenRouter

/-- A charge raised outside the session. -/
inductive SideCharge where
  | violationFee (apiErr : Option RelayAPIError)
  | realtimeEvent (quota : Int)
  | midjourneySubmit (quota : Int)
deriving DecidableEq

namespace ChargeState

variable {st : ChargeState}

/-- The quota that a charge asks for. -/
def sideQuota (env : FeeEnv) (st : ChargeState) : SideCharge → Int
  | .violationFee apiErr => (violationFeeQuota env st.info apiErr).getD 0
  | .realtimeEvent quota => quota
  | .midjourneySubmit quota => quota

/-- One charge. -/
def sideCharge (env : FeeEnv) (st : ChargeState) : SideCharge → ChargeState
  | .violationFee apiErr => (chargeViolationFeeIfNeeded env st apiErr).2
  | .realtimeEvent quota => (st.postConsumeQuota quota).2
  | .midjourneySubmit quota => (st.postConsumeQuota quota).2

/-- The tenant's credit in use: reserved, unbilled, billed or overdue. -/
def creditInUse (st : ChargeState) : Int :=
  st.db.accountColumn st.info.tenantId fun a =>
    a.reservedAmount + a.unbilledAmount + a.billedUnpaidAmount + a.overdueAmount

/-- What the tenant's usage records show on credit. -/
def creditUsage (st : ChargeState) : Int :=
  st.db.ledgers.groupSum (·.tenantId) (·.postpaidQuota) st.info.tenantId

/-- The charge of `quota` was debited from the source of the request, in the tenant's case with
    a record of it, and every other source is unchanged. -/
def DebitsSource (before after : ChargeState) (quota : Int) : Prop :=
  match before.info.billingSource with
  | .subscription =>
    after.quota.amountUsed before.info.subscriptionId =
        before.quota.amountUsed before.info.subscriptionId + quota ∧
      (∀ id, id ≠ before.info.subscriptionId →
        after.quota.subscriptions.find? id = before.quota.subscriptions.find? id) ∧
      after.quota.users = before.quota.users ∧ after.db = before.db
  | .tenantPostpaid | .tenantMixed =>
    after.creditInUse = before.creditInUse + quota ∧
      after.creditUsage = before.creditUsage + quota ∧
      after.quota.users = before.quota.users ∧
      after.quota.subscriptions = before.quota.subscriptions
  | _ => True

/-- The source covers a charge: there is nothing to charge, or it is a subscription that exists
    and has the room. -/
def SourceCovers (st : ChargeState) (quota : Int) : Prop :=
  match st.info.billingSource with
  | .subscription =>
    quota = 0 ∨ (st.info.subscriptionId ≠ 0 ∧
      ∃ sub ∈ st.quota.subscriptions.find? st.info.subscriptionId,
        0 ≤ sub.amountUsed + quota ∧
          (0 < sub.amountTotal → sub.amountUsed + quota ≤ sub.amountTotal))
  | .tenantPostpaid | .tenantMixed => quota = 0
  | _ => True

/-! ## One charge -/

/-- A charge of nothing leaves a wallet as it is. -/
theorem addUserQuota_zero (db : QuotaDB) (userId : Int) : db.addUserQuota userId 0 = db := by
  unfold QuotaDB.addUserQuota Table.update
  cases hfind : db.users.find? userId with
  | none => rfl
  | some u =>
    have hset : db.users.set { u with quota := u.quota + 0 } = db.users := by
      apply Table.set_of_find?
      have hsame : ({ u with quota := u.quota + 0 } : User) = u := by simp
      rw [hsame, Table.find?_key hfind, hfind]
    simp only [hset]

/-- A charge of nothing leaves a token as it is. -/
theorem addTokenQuota_zero (db : QuotaDB) (tokenId : Int) : db.addTokenQuota tokenId 0 = db := by
  unfold QuotaDB.addTokenQuota Table.update
  cases hfind : db.tokens.find? tokenId with
  | none => rfl
  | some t =>
    have hsame : ({ t with remainQuota := t.remainQuota + 0, usedQuota := t.usedQuota - 0 } :
        Token) = t := by simp
    simp only [hsame]
    rw [Table.set_of_find? (by rw [Table.find?_key hfind, hfind])]

/-- A charge of nothing changes nothing. -/
theorem postConsumeQuota_zero (st : ChargeState) : (st.postConsumeQuota 0).2 = st := by
  have hsource : (∃ e, st.consumeSource 0 = .error e) ∨ st.consumeSource 0 = .ok st := by
    unfold consumeSource
    by_cases hsub : st.info.billingSource = .subscription
    · rw [if_pos hsub]
      by_cases hid : st.info.subscriptionId = 0
      · exact .inl ⟨_, if_pos hid⟩
      · rw [if_neg hid, if_neg (by simp)]
        exact .inr rfl
    · rw [if_neg hsub, walletStep_eq, neg_zero, addUserQuota_zero]
      exact .inr rfl
  unfold postConsumeQuota
  rcases hsource with ⟨e, he⟩ | hok
  · rw [he]
  · rw [hok]
    simp only [settleToken_eq, neg_zero, addTokenQuota_zero, ite_self]

/-- The token step touches no source. -/
theorem withToken_frame (st : ChargeState) (quota : Int) :
    (st.withToken quota).db = st.db ∧ (st.withToken quota).quota.users = st.quota.users ∧
      (st.withToken quota).quota.subscriptions = st.quota.subscriptions ∧
      (st.withToken quota).info = st.info := by
  unfold withToken
  split <;> simp [QuotaDB.addTokenQuota]

/-- A wallet charge reaches no tenant. -/
theorem debitsSource_tenant_iff (h : st.info.billingSource = .tenantPostpaid ∨
    st.info.billingSource = .tenantMixed) (quota : Int) :
    st.DebitsSource (st.postConsumeQuota quota).2 quota ↔ quota = 0 := by
  have hsource : st.info.billingSource ≠ .subscription := by
    rcases h with h | h <;> simp [h]
  obtain ⟨hdb, husers, hsubs, hinfo⟩ := withToken_frame
    { st with quota := st.quota.addUserQuota st.info.userId (-quota) } quota
  have hdebits : st.DebitsSource (st.postConsumeQuota quota).2 quota ↔
      (st.postConsumeQuota quota).2.creditInUse = st.creditInUse + quota ∧
        (st.postConsumeQuota quota).2.creditUsage = st.creditUsage + quota ∧
        (st.postConsumeQuota quota).2.quota.users = st.quota.users ∧
        (st.postConsumeQuota quota).2.quota.subscriptions = st.quota.subscriptions := by
    rcases h with h | h <;> simp only [DebitsSource, h]
  rw [hdebits, postConsumeQuota_wallet st quota hsource]
  simp only [creditInUse, creditUsage, hdb, husers, hsubs, hinfo]
  constructor
  · rintro ⟨hcredit, -⟩
    omega
  · rintro rfl
    rw [neg_zero, addUserQuota_zero]
    simp

/-- The subscription step: what it wrote, or why it failed. -/
theorem consumeSource_subscription (h : st.info.billingSource = .subscription) {quota : Int}
    (hquota : quota ≠ 0) :
    (∃ e, st.consumeSource quota = .error e) ∨
      ∃ sub ∈ st.quota.subscriptions.find? st.info.subscriptionId, ∃ sub' : UserSubscription,
        st.info.subscriptionId ≠ 0 ∧
        ¬ (0 < sub.amountTotal ∧ sub.amountTotal < max 0 (sub.amountUsed + quota)) ∧
        sub'.id = sub.id ∧ sub'.amountUsed = max 0 (sub.amountUsed + quota) ∧
        st.consumeSource quota = .ok { st with
          quota := { st.quota with subscriptions := st.quota.subscriptions.set sub' }
          info := { st.info with
            subscriptionPostDelta := st.info.subscriptionPostDelta + quota } } := by
  unfold consumeSource
  rw [if_pos h]
  by_cases hid : st.info.subscriptionId = 0
  · rw [if_pos hid]
    exact .inl ⟨_, rfl⟩
  rw [if_neg hid, if_pos hquota]
  unfold QuotaDB.postConsumeUserSubscriptionDelta
  rw [if_neg hid, if_neg hquota]
  cases hfind : st.quota.subscriptions.find? st.info.subscriptionId with
  | none => exact .inl ⟨_, rfl⟩
  | some sub =>
    by_cases hroom : 0 < sub.amountTotal ∧ sub.amountTotal < max 0 (sub.amountUsed + quota)
    · left
      simp only [if_pos hroom]
      exact ⟨_, rfl⟩
    · right
      refine ⟨sub, rfl, { sub with
        amountUsed := max 0 (sub.amountUsed + quota)
        amountUsed_nonneg := le_max_left _ _ }, hid, hroom, rfl, rfl, ?_⟩
      simp only [if_neg hroom]

/-- A subscription charge reaches the subscription exactly if there is room for it. -/
theorem debitsSource_subscription_iff (h : st.info.billingSource = .subscription) {quota : Int}
    (hquota : quota ≠ 0) :
    st.DebitsSource (st.postConsumeQuota quota).2 quota ↔ st.SourceCovers quota := by
  simp only [DebitsSource, SourceCovers, h, hquota, false_or]
  rcases consumeSource_subscription h hquota with ⟨e, he⟩ | ⟨sub, hfind, sub', hid, hroom, hkey,
    hused, hok⟩
  · -- nothing is charged, because there is no such subscription or no room
    have hsame : (st.postConsumeQuota quota).2 = st := by
      simp only [postConsumeQuota, he]
    rw [hsame]
    refine iff_of_false (by rintro ⟨hused, -⟩; omega) ?_
    rintro ⟨hid, sub, hfind, hpos, htotal⟩
    unfold consumeSource QuotaDB.postConsumeUserSubscriptionDelta at he
    rw [if_pos h, if_neg hid, if_pos hquota, if_neg hid, if_neg hquota, hfind] at he
    have hroom : ¬ (0 < sub.amountTotal ∧ sub.amountTotal < max 0 (sub.amountUsed + quota)) := by
      rintro ⟨hlimited, hover⟩
      have := htotal hlimited
      omega
    simp only [if_neg hroom] at he
    cases he
  · obtain ⟨hdb, husers, hsubs, -⟩ := withToken_frame { st with
      quota := { st.quota with subscriptions := st.quota.subscriptions.set sub' }
      info := { st.info with
        subscriptionPostDelta := st.info.subscriptionPostDelta + quota } } quota
    have hcharge : (st.postConsumeQuota quota).2 = withToken { st with
        quota := { st.quota with subscriptions := st.quota.subscriptions.set sub' }
        info := { st.info with
          subscriptionPostDelta := st.info.subscriptionPostDelta + quota } } quota := by
      simp only [postConsumeQuota, hok, settleToken_eq]
      rfl
    have hsub'id : sub'.id = st.info.subscriptionId := hkey.trans (Table.find?_key hfind)
    have hbefore : st.quota.amountUsed st.info.subscriptionId = sub.amountUsed := by
      simp [QuotaDB.amountUsed, Option.mem_def.mp hfind]
    have hafter : (st.quota.subscriptions.set sub').find? st.info.subscriptionId = some sub' :=
      Table.find?_set_self hfind hsub'id
    rw [hcharge]
    simp only [QuotaDB.amountUsed, hdb, husers, hsubs] at hbefore ⊢
    rw [hafter, hbefore]
    simp only [Option.map_some, Option.getD_some, hused, and_true]
    constructor
    · rintro ⟨hsum, -⟩
      exact ⟨hid, sub, hfind, by omega, by omega⟩
    · rintro ⟨-, sub₂, hfind₂, hpos, -⟩
      obtain rfl : sub₂ = sub := Option.some.inj (hfind₂.symm.trans hfind)
      refine ⟨by omega, ?_⟩
      intro id hne
      exact Table.find?_set_of_ne _ (by rw [hsub'id]; exact hne.symm)

/-- A charge of nothing leaves every source as it is. -/
theorem debitsSource_zero (st : ChargeState) : st.DebitsSource (st.postConsumeQuota 0).2 0 := by
  rw [postConsumeQuota_zero, DebitsSource]
  split <;> simp

/-- One charge follows the source of the request exactly if the source covers it. -/
theorem debitsSource_iff (st : ChargeState) (quota : Int) :
    st.DebitsSource (st.postConsumeQuota quota).2 quota ↔ st.SourceCovers quota := by
  by_cases hquota : quota = 0
  · subst hquota
    refine iff_of_true (debitsSource_zero st) ?_
    cases h : st.info.billingSource <;> simp [SourceCovers, h]
  · cases h : st.info.billingSource with
    | subscription => exact debitsSource_subscription_iff h hquota
    | tenantPostpaid =>
      rw [debitsSource_tenant_iff (.inl h)]
      simp [SourceCovers, h]
    | tenantMixed =>
      rw [debitsSource_tenant_iff (.inr h)]
      simp [SourceCovers, h]
    | _ => simp [DebitsSource, SourceCovers, h]

/-- The same for the call sites of `PostConsumeQuota`; a fee that is not due charges nothing. -/
theorem debitsSource_sideCharge_iff (env : FeeEnv) (st : ChargeState) (c : SideCharge) :
    st.DebitsSource (st.sideCharge env c) (st.sideQuota env c) ↔
      st.SourceCovers (st.sideQuota env c) := by
  cases c with
  | realtimeEvent quota => exact debitsSource_iff st quota
  | midjourneySubmit quota => exact debitsSource_iff st quota
  | violationFee apiErr =>
    simp only [sideCharge, sideQuota, chargeViolationFeeIfNeeded]
    cases hfee : violationFeeQuota env st.info apiErr with
    | none =>
      cases h : st.info.billingSource <;> simp [DebitsSource, SourceCovers, h]
    | some feeQuota =>
      simp only [Option.getD_some]
      rw [← debitsSource_iff]
      rcases hpost : st.postConsumeQuota feeQuota with ⟨_ | e, st'⟩ <;> rfl

end ChargeState

open ChargeState in
/-- For every request and every row of charges raised for it outside its session: each charge is
    debited from the source of the session and from nothing else if and only if there is nothing
    to charge or the source is a subscription with room for it. And whatever the attempts of a
    request end in, and however often their errors are normalised, one violation fee is charged
    at most. -/
theorem side_charges_follow_source_iff (env : FeeEnv) (st : ChargeState)
    (charges : List SideCharge) (attempts : List FeeAttempt) :
    (Run.Steps (sideCharge env)
        (fun st c => st.DebitsSource (st.sideCharge env c) (st.sideQuota env c)) st charges ↔
      Run.Steps (sideCharge env) (fun st c => st.SourceCovers (st.sideQuota env c)) st charges) ∧
    (requestFees env st.info attempts).length ≤ 1 := by
  constructor
  · apply Run.steps_congr
    apply Run.steps_of_forall
    intro st c
    exact debitsSource_sideCharge_iff env st c
  · unfold requestFees
    split
    · simp
    · exact Option.length_toList_le

open ChargeState in
/-- A postpaid tenant's request: the event of 5 is taken from the user's wallet. -/
theorem tenant_event_debits_wallet :
    ¬ ∀ (env : FeeEnv) (st : ChargeState) (charges : List SideCharge),
        Run.Steps (sideCharge env)
          (fun st c => st.DebitsSource (st.sideCharge env c) (st.sideQuota env c)) st charges := by
  intro h
  let quota : QuotaDB :=
    { users := ⟨[{ id := 7, quota := 100 }], by simp⟩, tokens := .empty, subscriptions := .empty
      records := .empty }
  let st : ChargeState :=
    { db := .empty, quota
      info := { requestId := "r1", userId := 7, tenantId := 3, billingSource := .tenantPostpaid } }
  have hcharge := (h {} st [.realtimeEvent 5]).1
  have husers : (st.postConsumeQuota 5).2.quota.users.rows = st.quota.users.rows := by
    rw [show (st.postConsumeQuota 5).2.quota.users = st.quota.users from hcharge.2.2.1]
  exact absurd husers (by decide)

end TokenRouter
