import TokenRouter.Spec.CreditMoves
import TokenRouter.Spec.SessionAtomic
import TokenRouter.Spec.TenantSessionCases

/-!
# A tenant session's call that fails half way

`Reserve` debits the prepaid session first and `Settle` moves the credit first. A failure of the
second step is made good by `Settle` only, and only if the prepaid session has not settled its
funding by then.

## Key results

- `SessionState.reserveWith_error`: `BillingSession.Reserve` does all or nothing
- `reserveWith_unchanged_iff`, `settleWith_unchanged_iff`: when a failed call of a tenant session
  changes nothing
- `failed_settle_keeps_funding`: a `Settle` that fails on the token
-/

namespace TokenRouter

/-! ## The prepaid session -/

namespace QuotaDB

/-- A wallet debit and its roll back leave the wallet as it was. -/
theorem addUserQuota_cancel (db : QuotaDB) (userId quota : Int) :
    (db.addUserQuota userId (-quota)).addUserQuota userId quota = db := by
  simp only [addUserQuota]
  rw [Table.update_cancel]
  · exact fun _ => rfl
  · intro u
    cases u
    simp

/-- A subscription with another amount used. -/
def withUsed (sub : UserSubscription) (used : Int) : UserSubscription :=
  { sub with amountUsed := max 0 used, amountUsed_nonneg := le_max_left _ _ }

theorem withUsed_withUsed (sub : UserSubscription) (used : Int) :
    withUsed (withUsed sub used) sub.amountUsed = sub := by
  have hused := sub.amountUsed_nonneg
  cases sub
  simp only [withUsed, max_eq_right hused]

theorem postConsumeUserSubscriptionDelta_ok_iff {db db₁ : QuotaDB} {subscriptionId : Nat}
    {delta : Int} (hne : delta ≠ 0) :
    db.postConsumeUserSubscriptionDelta subscriptionId delta = .ok db₁ ↔
      subscriptionId ≠ 0 ∧ ∃ sub, db.subscriptions.find? subscriptionId = some sub ∧
        (0 < sub.amountTotal → max 0 (sub.amountUsed + delta) ≤ sub.amountTotal) ∧
        db₁ = { db with
          subscriptions := db.subscriptions.set (withUsed sub (sub.amountUsed + delta)) } := by
  unfold postConsumeUserSubscriptionDelta
  by_cases hid : subscriptionId = 0
  · simp [hid]
  cases hfind : db.subscriptions.find? subscriptionId with
  | none => simp [hid, hne]
  | some sub =>
    simp only [if_neg hid, if_neg hne]
    by_cases hroom : 0 < sub.amountTotal ∧ sub.amountTotal < max 0 (sub.amountUsed + delta)
    · rw [if_pos hroom]
      constructor
      · intro h
        cases h
      · rintro ⟨-, sub', hsub', hfits, -⟩
        obtain rfl := Option.some.inj hsub'
        exact absurd (hfits hroom.1) (not_le.mpr hroom.2)
    · rw [if_neg hroom]
      constructor
      · intro h
        exact ⟨hid, sub, rfl, fun htotal => not_lt.mp fun hlt => hroom ⟨htotal, hlt⟩,
          (Except.ok.inj h).symm⟩
      · rintro ⟨-, sub', hsub', -, rfl⟩
        obtain rfl := Option.some.inj hsub'
        rfl

/-- A debit of a subscription and its roll back leave it as it was. -/
theorem postConsumeUserSubscriptionDelta_cancel {db db₁ : QuotaDB} {subscriptionId : Nat}
    {delta : Int} (hpos : 0 < delta)
    (h : db.postConsumeUserSubscriptionDelta subscriptionId delta = .ok db₁) :
    db₁.postConsumeUserSubscriptionDelta subscriptionId (-delta) = .ok db := by
  rw [postConsumeUserSubscriptionDelta_ok_iff hpos.ne'] at h
  obtain ⟨hid, sub, hfind, hfits, rfl⟩ := h
  rw [postConsumeUserSubscriptionDelta_ok_iff (neg_ne_zero.mpr hpos.ne')]
  have hkey := Table.find?_key hfind
  have hused := sub.amountUsed_nonneg
  have hback : (withUsed sub (sub.amountUsed + delta)).amountUsed + -delta = sub.amountUsed := by
    simp only [withUsed]
    omega
  refine ⟨hid, withUsed sub (sub.amountUsed + delta), ?_, ?_, ?_⟩
  · exact Table.find?_set_self hfind hkey
  · intro (htotal : 0 < sub.amountTotal)
    show max 0 ((withUsed sub (sub.amountUsed + delta)).amountUsed + -delta) ≤ sub.amountTotal
    rw [hback]
    have := hfits htotal
    omega
  · have hself : db.subscriptions.find? sub.id = some sub := by
      rw [hkey]
      exact hfind
    have hset : (db.subscriptions.set (withUsed sub (sub.amountUsed + delta))).set sub =
        db.subscriptions :=
      (Table.set_set (a := withUsed sub (sub.amountUsed + delta)) (b := sub) _ rfl).trans
        (Table.set_of_find? hself)
    dsimp only
    rw [hback, withUsed_withUsed, hset]

end QuotaDB

theorem FundingSource.rollbackReserve_reserve {db db₁ : QuotaDB} {delta : Int}
    {F F₁ : FundingSource} (hpos : 0 < delta) (h : F.reserve db delta = .ok (F₁, db₁)) :
    F₁.rollbackReserve db₁ delta = (F, db) := by
  cases F with
  | wallet w =>
    simp only [FundingSource.reserve, QuotaDB.decreaseUserQuota_of_nonneg _ _ hpos.le] at h
    obtain ⟨rfl, rfl⟩ := Prod.mk.inj (Except.ok.inj h)
    simp only [FundingSource.rollbackReserve, QuotaDB.increaseUserQuota_of_nonneg _ _ hpos.le,
      QuotaDB.addUserQuota_cancel, add_sub_cancel_right]
  | subscription s =>
    simp only [FundingSource.reserve] at h
    split at h
    · cases h
    next db' hok =>
    obtain ⟨rfl, rfl⟩ := Prod.mk.inj (Except.ok.inj h)
    simp only [FundingSource.rollbackReserve,
      QuotaDB.postConsumeUserSubscriptionDelta_cancel hpos hok]

namespace SessionState

/-- The session is asked for more than it holds, and both steps go through. -/
structure Takes (faults : StepFaults) (env : BillingEnv) (st : SessionState) (target : Int) :
    Prop where
  live : (st.session.settled || st.session.refunded || st.session.trusted) = false
  more : st.session.preConsumedQuota < target
  passes : ∃ F db₁ db₂, reserveFundingWith faults.funding st.db
      (target - st.session.preConsumedQuota) st.session.funding = .ok (F, db₁) ∧
    reserveTokenWith faults.token env db₁ st.info (target - st.session.preConsumedQuota) = .ok db₂

theorem reserveFundingWith_ok {fault : Option String} {db db₁ : QuotaDB} {delta : Int}
    {F F₁ : FundingSource} (h : reserveFundingWith fault db delta F = .ok (F₁, db₁)) :
    F.reserve db delta = .ok (F₁, db₁) := by
  cases fault with
  | none => exact h
  | some e => cases F <;> cases h

/-- `BillingSession.Reserve` does all or nothing. -/
theorem reserveWith_error {faults : StepFaults} {env : BillingEnv} {st st' : SessionState}
    {target : Int} {e : NewAPIError} (h : st.reserveWith faults env target = (some e, st')) :
    st' = st := by
  unfold reserveWith at h
  dsimp only at h
  split at h
  · cases h
  next hlive =>
  have hpos : 0 < target - st.session.preConsumedQuota := by
    simp only [Bool.or_eq_true, decide_eq_true_eq, not_or] at hlive
    omega
  split at h
  · exact (Prod.mk.inj h).2.symm
  next F db₁ hfunding =>
  split at h
  · -- the token refuses, and the funding is rolled back
    rw [FundingSource.rollbackReserve_reserve hpos (reserveFundingWith_ok hfunding)] at h
    exact (Prod.mk.inj h).2.symm
  · cases h

/-- Without an error the session was not asked for more, or holds the target. -/
theorem reserveWith_ok {faults : StepFaults} {env : BillingEnv} {st st' : SessionState}
    {target : Int} (h : st.reserveWith faults env target = (none, st')) :
    st' = st ∨ st.Takes faults env target ∧ st'.session.preConsumedQuota = target ∧
      SameTenant st.info st'.info := by
  unfold reserveWith at h
  dsimp only at h
  split at h
  · exact .inl (Prod.mk.inj h).2.symm
  next hlive =>
  simp only [Bool.or_eq_true, decide_eq_true_eq, not_or, Bool.not_eq_true] at hlive
  split at h
  · cases h
  next F db₁ hfunding =>
  split at h
  · cases h
  next db₂ htoken =>
  refine .inr ⟨⟨?_, by omega, F, db₁, db₂, hfunding, htoken⟩, ?_, ?_⟩
  · simp [hlive]
  · rw [← (Prod.mk.inj h).2]
    dsimp only
    omega
  · rw [← (Prod.mk.inj h).2]
    exact syncRelayInfo_sameTenant _ _

theorem Takes.reserveWith {faults : StepFaults} {env : BillingEnv} {st : SessionState}
    {target : Int} (h : st.Takes faults env target) :
    ∃ st', st.reserveWith faults env target = (none, st') ∧
      st'.session.preConsumedQuota = target ∧ SameTenant st.info st'.info := by
  obtain ⟨F, db₁, db₂, hfunding, htoken⟩ := h.passes
  have hnot : (st.session.settled || st.session.refunded || st.session.trusted ||
      decide (target ≤ st.session.preConsumedQuota)) = false := by
    simpa [h.live] using h.more
  cases hres : st.reserveWith faults env target with
  | mk error st' =>
    cases error with
    | none =>
      refine ⟨st', rfl, ?_⟩
      rcases reserveWith_ok hres with rfl | ⟨-, hpre, htenant⟩
      · -- the session was asked for more and would hold the target
        simp only [SessionState.reserveWith, hnot, Bool.false_eq_true, if_false, hfunding,
          htoken] at hres
        have hpre := congrArg (fun p => p.2.session.preConsumedQuota) hres
        have hmore := h.more
        dsimp only at hpre
        omega
      · exact ⟨hpre, htenant⟩
    | some e =>
      simp [SessionState.reserveWith, hnot, hfunding, htoken] at hres

/-- The funding step of `Settle`. -/
def fundingStep (fault : Option String) (st : SessionState) (actual : Int) : Except String QuotaDB :=
  if st.session.fundingSettled then .ok st.db
  else failing fault (st.session.funding.settle st.db (actual - st.session.preConsumedQuota))

/-- The funding source refuses to settle. -/
structure FundingRefuses (faults : StepFaults) (st : SessionState) (actual : Int) : Prop where
  live : st.session.settled = false
  delta : actual ≠ st.session.preConsumedQuota
  refused : ∃ e, st.fundingStep faults.funding actual = .error e

/-- The funding is settled, and the write of the token fails. -/
structure TokenFails (faults : StepFaults) (st : SessionState) (actual : Int) : Prop where
  live : st.session.settled = false
  delta : actual ≠ st.session.preConsumedQuota
  passed : ∃ db, st.fundingStep faults.funding actual = .ok db
  writes : st.info.isPlayground = false
  fails : faults.token.isSome = true

/-- A refund of the token cannot fail but for the database. -/
theorem settleTokenWith_error {fault : Option String} {db : QuotaDB} {info : RelayInfo}
    {delta : Int} {e : String} (hle : delta ≤ 0)
    (h : settleTokenWith fault db info delta = .error e) :
    info.isPlayground = false ∧ fault.isSome = true := by
  unfold settleTokenWith at h
  split at h
  · cases h
  next hplay =>
  refine ⟨by simpa using hplay, ?_⟩
  cases fault with
  | some e => rfl
  | none =>
    rw [failing_none, settleToken, if_neg hplay, if_neg (not_lt.mpr hle),
      QuotaDB.increaseTokenQuota_of_nonneg _ _ (by omega)] at h
    cases h

theorem settleWith_error {faults : StepFaults} {st st' : SessionState} {actual : Int} {e : String}
    (hle : actual ≤ st.session.preConsumedQuota) (h : st.settleWith faults actual = (some e, st')) :
    (st' = st ∧ st.FundingRefuses faults actual) ∨
      (st'.session.settled = true ∧ st.TokenFails faults actual) := by
  unfold settleWith at h
  dsimp only at h
  split at h
  · cases h
  next hlive =>
  split at h
  · cases h
  next hdelta =>
  have hne : actual ≠ st.session.preConsumedQuota := fun heq => hdelta (by omega)
  split at h
  · next e' hfunding =>
    exact .inl ⟨(Prod.mk.inj h).2.symm, ⟨by simpa using hlive, hne, e', hfunding⟩⟩
  next db₁ hfunding =>
  split at h
  · next e' htoken =>
    obtain ⟨hplay, hfault⟩ := settleTokenWith_error (by omega) htoken
    refine .inr ⟨?_, ⟨by simpa using hlive, hne, ⟨db₁, hfunding⟩, hplay, hfault⟩⟩
    rw [← (Prod.mk.inj h).2]
  · cases h

theorem FundingRefuses.settleWith {faults : StepFaults} {st : SessionState} {actual : Int}
    (h : st.FundingRefuses faults actual) : ∃ e, st.settleWith faults actual = (some e, st) := by
  obtain ⟨e, hfunding⟩ := h.refused
  refine ⟨e, ?_⟩
  unfold fundingStep at hfunding
  simp [SessionState.settleWith, h.live, sub_eq_zero, h.delta, hfunding]

theorem TokenFails.settleWith {faults : StepFaults} {st : SessionState} {actual : Int}
    (h : st.TokenFails faults actual) :
    ∃ e st', st.settleWith faults actual = (some e, st') ∧ st'.session.settled = true := by
  obtain ⟨db₁, hfunding⟩ := h.passed
  obtain ⟨e, he⟩ := Option.isSome_iff_exists.mp h.fails
  have htoken : settleTokenWith faults.token db₁ st.info
      (actual - st.session.preConsumedQuota) = .error e := by
    simp [settleTokenWith, h.writes, he, failing]
  unfold fundingStep at hfunding
  simp only [SessionState.settleWith, h.live, Bool.false_eq_true, if_false, sub_eq_zero, h.delta,
    hfunding, htoken]
  exact ⟨e, _, rfl, rfl⟩

end SessionState

/-! ## The credit -/

/-- What a release does to any account, also one without a reservation. -/
theorem releaseTenantCredit_reserved {db db' : DB} {tenantId quota : Int} (hpos : 0 < tenantId)
    (hquota : 0 < quota) (h : releaseTenantCredit db tenantId quota = .ok db') :
    (db'.credit tenantId).reserved =
      (db.credit tenantId).reserved - max 0 (min (db.credit tenantId).reserved quota) := by
  rcases releaseTenantCredit_cases db tenantId quota with ⟨hok, hskip⟩ | ⟨-, -, a, hfind, ha, hok⟩
  · -- nothing is reserved
    rw [hok, Except.ok.injEq] at h
    subst h
    have hcol : (db.credit tenantId).reserved = db.accountColumn tenantId (·.reservedAmount) :=
      column_find?_getD db tenantId _ (·.reservedAmount) rfl
    omega
  · rw [hok, Except.ok.injEq] at h
    subst h
    have hacc : (db.credit tenantId).reserved = a.reservedAmount := by
      simp [DB.credit, DB.creditAccount, hfind]
    rw [DB.credit_saveAccount db (Table.find?_key hfind), hacc]
    dsimp only
    omega

theorem PostpaidMoved.reserved {db db' : DB} {tenantId current target : Int} (hpos : 0 < tenantId)
    (h : PostpaidMoved db tenantId current target db') :
    (db'.credit tenantId).reserved =
      if current < target then (db.credit tenantId).reserved + (target - current)
      else (db.credit tenantId).reserved -
        max 0 (min (db.credit tenantId).reserved (current - target)) := by
  cases h with
  | grown hlt hok =>
    rw [if_pos hlt, (reserveTenantCredit_credit hpos (by omega) hok).2.1]
    rfl
  | shrunk hlt hok =>
    rw [if_neg (by omega), releaseTenantCredit_reserved hpos (by omega) hok]
  | stayed heq hok =>
    subst heq hok
    simp only [lt_irrefl, if_false]
    omega

/-- A reservation that is moved and moved back is as before exactly if the account could give
    what was released. -/
theorem PostpaidMoved.back_iff {db db₁ db₂ : DB} {tenantId current target : Int}
    (hpos : 0 < tenantId) (hne : target ≠ current)
    (h : PostpaidMoved db tenantId current target db₁)
    (hback : PostpaidMoved db₁ tenantId target current db₂) :
    (db₂.credit tenantId).reserved = (db.credit tenantId).reserved ↔
      max 0 (current - target) ≤ (db.credit tenantId).reserved := by
  have h₁ := h.reserved hpos
  have h₂ := hback.reserved hpos
  split at h₁
  · rw [if_neg (by omega)] at h₂
    omega
  · rw [if_pos (by omega)] at h₂
    omega

/-! ## The tenant session -/

namespace TenantSessionState

/-- The account, the reservation, the prepaid session and every quota are as before. -/
structure Unchanged (st st' : TenantSessionState) : Prop where
  reserved : (st'.db.credit st.info.tenantId).reserved = (st.db.credit st.info.tenantId).reserved
  reservedPostpaidQuota : st'.session.reservedPostpaidQuota = st.session.reservedPostpaidQuota
  prepaid : st'.session.prepaid = st.session.prepaid
  quotas : st.quota.SameQuotas st'.quota

theorem Unchanged.refl (st : TenantSessionState) : st.Unchanged st :=
  ⟨rfl, rfl, rfl, .refl _⟩

/-- The postpaid step fails: on the database, or because the credit refuses. -/
structure PostpaidFails (fault : Option String) (st : TenantSessionState) (target : Int) :
    Prop where
  adjusts : st.Adjusts target
  fails : fault.isSome = true ∨ st.session.reservedPostpaidQuota < max 0 target ∧
    ∃ e, reserveTenantCredit st.db st.info.tenantId
      (max 0 target - st.session.reservedPostpaidQuota) = .error e

theorem reservePostpaid_of_not_adjusts {st : TenantSessionState} {target : Int}
    (h : ¬ st.Adjusts target) : st.reservePostpaid target = (none, st) := by
  have hmax : (if target < 0 then 0 else target) = max 0 target := by
    split <;> omega
  unfold reservePostpaid
  rw [hmax]
  split
  · rfl
  next hpos =>
  dsimp only
  split
  · rfl
  next hlive =>
  simp only [Bool.or_eq_true, not_or, Bool.not_eq_true] at hlive
  split
  · rfl
  next hne => exact absurd ⟨by omega, hlive.1, hlive.2, hne⟩ h

theorem reservePostpaid_of_adjusts {st : TenantSessionState} {target : Int}
    (h : st.Adjusts target) : st.reservePostpaid target =
      match (if st.session.reservedPostpaidQuota < max 0 target then
          reserveTenantCredit st.db st.info.tenantId
            (max 0 target - st.session.reservedPostpaidQuota)
        else releaseTenantCredit st.db st.info.tenantId
          (st.session.reservedPostpaidQuota - max 0 target)) with
      | .error e => (some e, st)
      | .ok db =>
        (none, { st with
          db := db
          session := { st.session with reservedPostpaidQuota := max 0 target } }) := by
  obtain ⟨hpos, hsettled, hrefunded, hne⟩ := h
  have hmax : (if target < 0 then 0 else target) = max 0 target := by
    split <;> omega
  simp only [reservePostpaid, if_neg (not_le.mpr hpos), hsettled, hrefunded, Bool.or_self,
    Bool.false_eq_true, if_false, hmax, if_neg hne]
  all_goals rfl

/-- The postpaid step fails exactly so, and then changes nothing. -/
theorem reservePostpaidWith_error_iff {fault : Option String} {st st' : TenantSessionState}
    {target : Int} : (∃ e, st.reservePostpaidWith fault target = (some e, st')) ↔
      st' = st ∧ st.PostpaidFails fault target := by
  by_cases hadjusts : st.Adjusts target
  · cases fault with
    | some e =>
      simp only [reservePostpaidWith, if_pos hadjusts]
      constructor
      · rintro ⟨e', h⟩
        exact ⟨(Prod.mk.inj h).2.symm, hadjusts, .inl rfl⟩
      · rintro ⟨rfl, -⟩
        exact ⟨e, rfl⟩
    | none =>
      simp only [reservePostpaidWith]
      constructor
      · rintro ⟨e, h⟩
        obtain ⟨rfl, hlt⟩ := reservePostpaid_error h
        refine ⟨rfl, hadjusts, .inr ⟨hlt, ?_⟩⟩
        rw [reservePostpaid_of_adjusts hadjusts, if_pos hlt] at h
        split at h
        · next e' herr => exact ⟨e', herr⟩
        · cases h
      · rintro ⟨rfl, -, hfails | ⟨hlt, e, herr⟩⟩
        · cases hfails
        · rw [reservePostpaid_of_adjusts hadjusts, if_pos hlt, herr]
          exact ⟨e, rfl⟩
  · have hnone : st.reservePostpaidWith fault target = (none, st) := by
      cases fault with
      | some e =>
        simp only [reservePostpaidWith, if_neg hadjusts, reservePostpaid_of_not_adjusts hadjusts]
      | none => exact reservePostpaid_of_not_adjusts hadjusts
    constructor
    · rintro ⟨e, h⟩
      rw [hnone] at h
      cases h
    · rintro ⟨-, h⟩
      exact absurd h.adjusts hadjusts

/-- Without an error the step is that of a database that works. -/
theorem reservePostpaidWith_ok {fault : Option String} {st st' : TenantSessionState} {target : Int}
    (h : st.reservePostpaidWith fault target = (none, st')) :
    st.reservePostpaid target = (none, st') := by
  cases fault with
  | none => exact h
  | some e =>
    simp only [reservePostpaidWith] at h
    split at h
    · cases h
    · exact h

/-! ### `Reserve` -/

/-- The postpaid target of a `Reserve` whose prepaid session holds the whole quota. -/
def targetAfterPrepaid (st : TenantSessionState) (quota : Int) : Int :=
  if quota ≤ 0 then 0 else tenantPostpaidQuota st.session.mode quota quota

/-- The prepaid session has been debited when the postpaid step fails. -/
def ReserveHalfDone (faults : TenantFaults) (env : BillingEnv) (st : TenantSessionState)
    (quota : Int) : Prop :=
  ∃ p, st.session.prepaid = some p ∧ (st.prepaidState p).Takes faults.prepaid env quota ∧
    st.PostpaidFails faults.postpaid (st.targetAfterPrepaid quota)

/-- The postpaid step after the prepaid session has moved to `p'`. -/
theorem postpaidFails_withPrepaid_iff {fault : Option String} {st : TenantSessionState}
    {p' : SessionState} (htenant : SameTenant st.info p'.info) (target : Int) :
    (st.withPrepaid p').PostpaidFails fault target ↔ st.PostpaidFails fault target := by
  have hid : (st.withPrepaid p').info.tenantId = st.info.tenantId := htenant.1
  have hadjusts : (st.withPrepaid p').Adjusts target ↔ st.Adjusts target := by
    unfold Adjusts
    rw [hid]
    rfl
  constructor
  · rintro ⟨had, hfails⟩
    rw [hid] at hfails
    exact ⟨hadjusts.mp had, hfails⟩
  · rintro ⟨had, hfails⟩
    refine ⟨hadjusts.mpr had, ?_⟩
    rw [hid]
    exact hfails

theorem withPrepaid_prepaidState {st : TenantSessionState} {p : BillingSession}
    (h : st.session.prepaid = some p) : st.withPrepaid (st.prepaidState p) = st := by
  cases st with
  | mk db quota info session =>
    cases session
    cases h
    rfl

theorem targetPostpaidQuota_withPrepaid {st : TenantSessionState} {p' : SessionState} {quota : Int}
    (h : p'.session.preConsumedQuota = quota) :
    (st.withPrepaid p').session.targetPostpaidQuota quota = st.targetAfterPrepaid quota := by
  simp only [TenantCreditBillingSession.targetPostpaidQuota, targetAfterPrepaid, withPrepaid,
    TenantCreditBillingSession.prepaidConsumed, h]

/-- A failed `Reserve` changes nothing, unless it is half done. -/
theorem reserveWith_unchanged_iff (faults : TenantFaults) (env : BillingEnv)
    (st : TenantSessionState) (quota : Int) :
    (∀ e st', st.reserveWith faults env quota = (some e, st') → st.Unchanged st') ↔
      ¬ st.ReserveHalfDone faults env quota := by
  constructor
  · rintro h ⟨p, hp, htakes, hfails⟩
    obtain ⟨p', hreserve, hpre, htenant⟩ := htakes.reserveWith
    have hstep := (postpaidFails_withPrepaid_iff htenant _).mpr hfails
    rw [← targetPostpaidQuota_withPrepaid hpre] at hstep
    obtain ⟨e, herror⟩ := reservePostpaidWith_error_iff.mpr ⟨rfl, hstep⟩
    have hcall : st.reserveWith faults env quota = (some e, st.withPrepaid p') := by
      simp only [reserveWith, hp, hreserve, herror]
    have hsame : some p'.session = st.session.prepaid := (h _ _ hcall).prepaid
    rw [hp, Option.some.injEq] at hsame
    have hmore : p.preConsumedQuota < quota := htakes.more
    rw [hsame] at hpre
    omega
  · intro hnot e st' h
    unfold reserveWith at h
    cases hp : st.session.prepaid with
    | none =>
      rw [hp] at h
      obtain ⟨rfl, -⟩ := reservePostpaidWith_error_iff.mp ⟨e, h⟩
      exact .refl _
    | some p =>
      rw [hp] at h
      dsimp only at h
      split at h
      · next e' p' hreserve =>
        -- the prepaid session has rolled itself back
        rw [SessionState.reserveWith_error hreserve, withPrepaid_prepaidState hp] at h
        rw [← (Prod.mk.inj h).2]
        exact .refl _
      · next p' hreserve =>
        obtain ⟨rfl, hfails⟩ := reservePostpaidWith_error_iff.mp ⟨e, h⟩
        rcases SessionState.reserveWith_ok hreserve with rfl | ⟨htakes, hpre, htenant⟩
        · rw [withPrepaid_prepaidState hp]
          exact .refl _
        · rw [targetPostpaidQuota_withPrepaid hpre, postpaidFails_withPrepaid_iff htenant] at hfails
          exact absurd ⟨p, hp, htakes, hfails⟩ hnot

/-! ### `Settle` -/

theorem prepaidTarget_le {st : TenantSessionState} {p : BillingSession}
    (h : st.session.prepaid = some p) (quota : Int) :
    st.prepaidTarget quota ≤ p.preConsumedQuota := by
  simp only [prepaidTarget, TenantCreditBillingSession.prepaidConsumed, h]
  split <;> omega

theorem targetPostpaidQuota_nonneg (s : TenantCreditBillingSession) (quota : Int) :
    0 ≤ s.targetPostpaidQuota quota := by
  unfold TenantCreditBillingSession.targetPostpaidQuota tenantPostpaidQuota
  split
  · omega
  next hpos =>
  cases s.mode with
  | postpaid =>
    show 0 ≤ quota
    omega
  | mixed =>
    show 0 ≤ if s.prepaidConsumed < quota then quota - s.prepaidConsumed else 0
    split <;> omega
  | prepaid =>
    show (0 : Int) ≤ 0
    omega

/-- `Settle` comes to the prepaid session. -/
structure ReachesPrepaid (faults : TenantFaults) (st : TenantSessionState) (quota : Int)
    (p : BillingSession) : Prop where
  live : st.session.settled = false
  postpaid : ¬ st.PostpaidFails faults.postpaid (st.session.targetPostpaidQuota quota)
  prepaid : st.session.prepaid = some p

/-- The call back to the old reservation succeeds. -/
def Compensates (st : TenantSessionState) (quota : Int) : Prop :=
  ((st.reservePostpaid (st.session.targetPostpaidQuota quota)).2.reservePostpaid
    st.session.reservedPostpaidQuota).1 = none

instance (st : TenantSessionState) (quota : Int) : Decidable (st.Compensates quota) :=
  inferInstanceAs (Decidable (_ = _))

/-- The account could give what the postpaid step of `Settle` released. -/
def CoversRelease (st : TenantSessionState) (quota : Int) : Prop :=
  st.Adjusts (st.session.targetPostpaidQuota quota) →
    max 0 (st.session.reservedPostpaidQuota - st.session.targetPostpaidQuota quota) ≤
      (st.db.credit st.info.tenantId).reserved

/-- `Settle` from the prepaid step on. -/
theorem settleWith_reaches {faults : TenantFaults} {st : TenantSessionState} {quota : Int}
    {p : BillingSession} (h : st.ReachesPrepaid faults quota p) :
    ∃ st₁, st.reservePostpaid (st.session.targetPostpaidQuota quota) = (none, st₁) ∧
      (∃ db reserved, st₁ =
        { st with db := db, session := { st.session with reservedPostpaidQuota := reserved } }) ∧
      st.settleWith faults quota =
        match (st.prepaidState p).settleWith faults.prepaid (st.prepaidTarget quota) with
        | (some e, p') =>
          if st.session.targetPostpaidQuota quota ≠ st.session.reservedPostpaidQuota then
            (some e, ((st₁.withPrepaid p').reservePostpaid st.session.reservedPostpaidQuota).2)
          else (some e, st₁.withPrepaid p')
        | (none, p') =>
          (none, { st₁.withPrepaid p' with
            session := { (st₁.withPrepaid p').session with settled := true } }) := by
  cases hpost : st.reservePostpaidWith faults.postpaid (st.session.targetPostpaidQuota quota) with
  | mk error st₁ =>
    cases error with
    | some e => exact absurd (reservePostpaidWith_error_iff.mp ⟨e, hpost⟩).2 h.postpaid
    | none =>
      have hok := reservePostpaidWith_ok hpost
      obtain ⟨db, reserved, hframe⟩ :=
        reservePostpaid_frame st (st.session.targetPostpaidQuota quota)
      rw [hok] at hframe
      dsimp only at hframe
      refine ⟨st₁, hok, ⟨db, reserved, hframe⟩, ?_⟩
      have hprepaid : st₁.session.prepaid = some p := by
        rw [show st₁.session.prepaid = st.session.prepaid by rw [hframe], h.prepaid]
      have hstate : st₁.prepaidState p = st.prepaidState p := by
        rw [hframe]
        rfl
      simp only [settleWith, h.live, Bool.false_eq_true, if_false, hpost, hprepaid, hstate]
      all_goals rfl

/-- A state whose prepaid session has not moved keeps what the postpaid steps left. -/
theorem withPrepaid_of_frame {st st₁ : TenantSessionState} {p : BillingSession}
    (hp : st.session.prepaid = some p) {db : DB} {reserved : Int} (hframe : st₁ =
      { st with db := db, session := { st.session with reservedPostpaidQuota := reserved } }) :
    st₁.withPrepaid (st.prepaidState p) = st₁ := by
  have hstate : st.prepaidState p = st₁.prepaidState p := by
    rw [hframe]
    rfl
  rw [hstate]
  apply withPrepaid_prepaidState
  rw [hframe]
  exact hp

/-- Moving the reservation and moving it back changes nothing exactly if the account could give
    what was released. -/
theorem unchanged_back_iff {st st₁ : TenantSessionState} {quota : Int}
    (hnonneg : 0 ≤ st.session.reservedPostpaidQuota) (hcomp : st.Compensates quota)
    (h : st.reservePostpaid (st.session.targetPostpaidQuota quota) = (none, st₁))
    (hne : st.session.targetPostpaidQuota quota ≠ st.session.reservedPostpaidQuota) :
    st.Unchanged (st₁.reservePostpaid st.session.reservedPostpaidQuota).2 ↔
      st.CoversRelease quota := by
  have htarget := targetPostpaidQuota_nonneg st.session quota
  by_cases hadjusts : st.Adjusts (st.session.targetPostpaidQuota quota)
  · obtain ⟨hpos, hsettled, hrefunded, -⟩ := hadjusts
    obtain ⟨db₁, hmoved, hst₁⟩ := reservePostpaid_ok hpos hsettled hrefunded htarget h
    have hinfo : st₁.info = st.info := by rw [hst₁]
    have hdb : st₁.db = db₁ := by rw [hst₁]
    have hreserved : st₁.session.reservedPostpaidQuota =
        st.session.targetPostpaidQuota quota := by rw [hst₁]
    simp only [Compensates, h] at hcomp
    cases hback : st₁.reservePostpaid st.session.reservedPostpaidQuota with
    | mk error st₂ =>
      rw [hback] at hcomp
      obtain rfl : error = none := hcomp
      obtain ⟨db₂, hmoved₂, hst₂⟩ := reservePostpaid_ok (hinfo ▸ hpos) (by rw [hst₁, hsettled])
        (by rw [hst₁, hrefunded]) hnonneg hback
      rw [hinfo, hdb, hreserved] at hmoved₂
      have hiff := hmoved.back_iff hpos hne hmoved₂
      have hdb₂ : st₂.db = db₂ := by rw [hst₂]
      constructor
      · intro hsame _
        have hcredit := hsame.reserved
        rw [show (none, st₂).2 = st₂ from rfl, hdb₂] at hcredit
        exact hiff.mp hcredit
      · intro hcovers
        have hcredit := hiff.mpr (hcovers ⟨hpos, hsettled, hrefunded, by omega⟩)
        rw [← hdb₂] at hcredit
        refine ⟨hcredit, ?_, ?_, ?_⟩
        · rw [hst₂]
        · rw [hst₂, hst₁]
        · rw [hst₂, hst₁]
          exact .refl _
  · -- the reservation of this session is not moved at all
    rw [reservePostpaid_of_not_adjusts hadjusts] at h
    obtain rfl := (Prod.mk.inj h).2
    have hsame : st.reservePostpaid st.session.reservedPostpaidQuota = (none, st) := by
      apply reservePostpaid_of_not_adjusts
      rintro ⟨-, -, -, hmoves⟩
      exact hmoves (max_eq_right hnonneg)
    rw [hsame]
    exact ⟨fun _ had => absurd had hadjusts, fun _ => .refl st⟩

/-- A failed `Settle` changes nothing exactly if the token is not what fails, and the account
    could give what was released before the funding source refused. -/
theorem settleWith_unchanged_iff (faults : TenantFaults) (st : TenantSessionState) (quota : Int)
    (hnonneg : 0 ≤ st.session.reservedPostpaidQuota) (hcomp : st.Compensates quota) :
    (∀ e st', st.settleWith faults quota = (some e, st') → st.Unchanged st') ↔
      ∀ p, st.ReachesPrepaid faults quota p →
        ¬ (st.prepaidState p).TokenFails faults.prepaid (st.prepaidTarget quota) ∧
        ((st.prepaidState p).FundingRefuses faults.prepaid (st.prepaidTarget quota) →
          st.CoversRelease quota) := by
  constructor
  · intro h p hreach
    obtain ⟨st₁, hpost, ⟨db, reserved, hframe⟩, hcall⟩ := settleWith_reaches hreach
    constructor
    · intro htoken
      obtain ⟨e, p', hsettle, hsettled⟩ := htoken.settleWith
      rw [hsettle] at hcall
      have hlive : p.settled = false := htoken.live
      -- the prepaid session is settled now, whatever becomes of the reservation
      have hprepaid (st' : TenantSessionState) (hcall : st.settleWith faults quota = (some e, st'))
          (hst' : st'.session.prepaid = some p'.session) : False := by
        have hsame := (h e st' hcall).prepaid
        rw [hst', hreach.prepaid, Option.some.injEq] at hsame
        rw [hsame, hlive] at hsettled
        cases hsettled
      dsimp only at hcall
      split at hcall
      · obtain ⟨db₂, reserved₂, hframe₂⟩ :=
          reservePostpaid_frame (st₁.withPrepaid p') st.session.reservedPostpaidQuota
        apply hprepaid _ hcall
        rw [hframe₂]
        rfl
      · exact hprepaid _ hcall rfl
    · intro hrefuses
      obtain ⟨e, hsettle⟩ := hrefuses.settleWith
      rw [hsettle] at hcall
      dsimp only at hcall
      rw [withPrepaid_of_frame hreach.prepaid hframe] at hcall
      intro hadjusts
      have hne : st.session.targetPostpaidQuota quota ≠ st.session.reservedPostpaidQuota := by
        have := targetPostpaidQuota_nonneg st.session quota
        have := hadjusts.2.2.2
        omega
      rw [if_pos hne] at hcall
      exact (unchanged_back_iff hnonneg hcomp hpost hne).mp (h e _ hcall) hadjusts
  · intro hcond e st' h
    by_cases hlive : st.session.settled = false
    swap
    · simp [settleWith, Bool.not_eq_false _ ▸ hlive] at h
    by_cases hfails : st.PostpaidFails faults.postpaid (st.session.targetPostpaidQuota quota)
    · obtain ⟨e', herror⟩ := reservePostpaidWith_error_iff.mpr ⟨rfl, hfails⟩
      simp only [settleWith, hlive, Bool.false_eq_true, if_false, herror] at h
      rw [← (Prod.mk.inj h).2]
      exact .refl st
    cases hp : st.session.prepaid with
    | none =>
      cases hpost : st.reservePostpaidWith faults.postpaid
          (st.session.targetPostpaidQuota quota) with
      | mk error st₁ =>
        cases error with
        | some e => exact absurd (reservePostpaidWith_error_iff.mp ⟨e, hpost⟩).2 hfails
        | none =>
          obtain ⟨db, reserved, hframe⟩ :=
            reservePostpaid_frame st (st.session.targetPostpaidQuota quota)
          rw [reservePostpaidWith_ok hpost] at hframe
          dsimp only at hframe
          have hnone : st₁.session.prepaid = none := by
            rw [show st₁.session.prepaid = st.session.prepaid by rw [hframe], hp]
          simp [settleWith, hlive, hpost, hnone] at h
    | some p =>
      have hreach : st.ReachesPrepaid faults quota p := ⟨hlive, hfails, hp⟩
      obtain ⟨htoken, hcovers⟩ := hcond p hreach
      obtain ⟨st₁, hpost, ⟨db, reserved, hframe⟩, hcall⟩ := settleWith_reaches hreach
      rw [hcall] at h
      split at h
      · next e' p' hsettle =>
        rcases SessionState.settleWith_error (prepaidTarget_le hp quota) hsettle with
          ⟨rfl, hrefuses⟩ | ⟨-, hfails⟩
        · rw [withPrepaid_of_frame hp hframe] at h
          split at h
          · next hne =>
            rw [← (Prod.mk.inj h).2]
            exact (unchanged_back_iff hnonneg hcomp hpost hne).mpr (hcovers hrefuses)
          · next heq =>
            -- nothing was moved
            have hsame : st.reservePostpaid (st.session.targetPostpaidQuota quota) = (none, st) := by
              apply reservePostpaid_of_not_adjusts
              rintro ⟨-, -, -, hmoves⟩
              have := targetPostpaidQuota_nonneg st.session quota
              omega
            rw [hsame] at hpost
            rw [← (Prod.mk.inj h).2, ← (Prod.mk.inj hpost).2]
            exact .refl st
        · exact absurd hfails htoken
      · cases h

end TenantSessionState

/-- For every state, quota and pattern of failures: a failed `Reserve` changes nothing, unless
    the postpaid step fails after the prepaid session has taken more. A failed `Settle` changes
    nothing exactly if it is not the token that fails after the funding was settled, and the
    account could give what was released before the funding source refused. -/
theorem failed_call_unchanged (faults : TenantFaults) (env : BillingEnv) (st : TenantSessionState)
    (quota : Int) (hnonneg : 0 ≤ st.session.reservedPostpaidQuota)
    (hcomp : st.Compensates quota) :
    (∀ e st', st.reserveWith faults env quota = (some e, st') →
      ¬ st.ReserveHalfDone faults env quota → st.Unchanged st') ∧
    ((∀ e st', st.settleWith faults quota = (some e, st') → st.Unchanged st') ↔
      ∀ p, st.ReachesPrepaid faults quota p →
        ¬ (st.prepaidState p).TokenFails faults.prepaid (st.prepaidTarget quota) ∧
        ((st.prepaidState p).FundingRefuses faults.prepaid (st.prepaidTarget quota) →
          st.CoversRelease quota)) := by
  constructor
  · intro e st' h hnot
    exact (st.reserveWith_unchanged_iff faults env quota).mpr hnot e st' h
  · exact st.settleWith_unchanged_iff faults quota hnonneg hcomp

/-- A mixed session that holds 10 of the user's quota. -/
def halfPaidSession : TenantSessionState where
  db := .empty
  quota :=
    { users := Table.empty.insert { id := 1, quota := 90 }
      tokens := Table.empty.insert { id := 1, remainQuota := 90 }
      subscriptions := .empty
      records := .empty }
  info := { requestId := "r1", userId := 1, tokenId := 1, tenantId := 1 }
  session :=
    { prepaid := some { funding := .wallet { userId := 1, consumed := 10 }, preConsumedQuota := 10,
                        tokenConsumed := 10 }
      mode := .mixed }

theorem failed_call_unchanged_wallet :
    (halfPaidSession.settleWith { prepaid := { funding := some "timeout" } } 4).1 = some "timeout" ∧
      halfPaidSession.Unchanged
        (halfPaidSession.settleWith { prepaid := { funding := some "timeout" } } 4).2 := by
  have hnot : ∀ p, halfPaidSession.ReachesPrepaid { prepaid := { funding := some "timeout" } } 4 p →
      ¬ (halfPaidSession.prepaidState p).TokenFails { funding := some "timeout" }
        (halfPaidSession.prepaidTarget 4) ∧
      ((halfPaidSession.prepaidState p).FundingRefuses { funding := some "timeout" }
        (halfPaidSession.prepaidTarget 4) → halfPaidSession.CoversRelease 4) := by
    intro p _
    refine ⟨fun h => Bool.noConfusion h.fails, ?_⟩
    rintro - ⟨-, -, -, hmoves⟩
    exact absurd rfl hmoves
  refine ⟨by decide, ?_⟩
  exact (failed_call_unchanged { prepaid := { funding := some "timeout" } } plainEnv halfPaidSession 4
    (by decide) (by decide)).2.mpr hnot "timeout" _ rfl

/-- The request costs 4 of the 10, and the write of the token fails: `Settle` returns the error,
    the user has 6 back, and a refund finds nothing to do. -/
theorem failed_settle_keeps_funding :
    let r := halfPaidSession.settleWith { prepaid := { token := some "timeout" } } 4
    r.1 = some "timeout" ∧ halfPaidSession.quota.getUserQuota 1 = 90 ∧ r.2.quota.getUserQuota 1 = 96 ∧
      r.2.session.needsRefund = false := by
  decide

end TokenRouter
