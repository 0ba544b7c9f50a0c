import TokenRouter.Service.TenantBillingSession
import TokenRouter.Spec.TenantCases

/-!
# What one call on a tenant session can do

Inversions of `reservePostpaid`, `Settle`, `Reserve` and `Refund` of a tenant session,
and what they leave alone. Later proofs split on these cases and not on the definitions.
-/

namespace TokenRouter

/-! ## `reservePostpaid` -/

/-- The reservation grows, shrinks or stays. -/
inductive PostpaidMoved (db : DB) (tenantId current target : Int) (db' : DB) : Prop where
  | grown (h : current < target) (hok : reserveTenantCredit db tenantId (target - current) = .ok db')
  | shrunk (h : target < current)
      (hok : releaseTenantCredit db tenantId (current - target) = .ok db')
  | stayed (h : target = current) (hok : db' = db)

/-- `reservePostpaid` touches the tenant's tables and the reservation only. -/
theorem reservePostpaid_frame (st : TenantSessionState) (targetQuota : Int) :
    ∃ db reserved, (st.reservePostpaid targetQuota).2 =
      { st with db := db, session := { st.session with reservedPostpaidQuota := reserved } } := by
  have hsame : st = { st with
      session := { st.session with reservedPostpaidQuota := st.session.reservedPostpaidQuota } } :=
    rfl
  unfold TenantSessionState.reservePostpaid
  split
  · exact ⟨st.db, _, hsame⟩
  generalize (if targetQuota < 0 then 0 else targetQuota) = target
  dsimp only
  split
  · exact ⟨st.db, _, hsame⟩
  split
  · exact ⟨st.db, _, hsame⟩
  split
  · exact ⟨st.db, _, hsame⟩
  · next db hok => exact ⟨db, _, rfl⟩

/-- An error of `reservePostpaid` changes nothing; only a growing reservation can be
    refused. -/
theorem reservePostpaid_error {st st' : TenantSessionState} {targetQuota : Int} {e : String}
    (h : st.reservePostpaid targetQuota = (some e, st')) :
    st' = st ∧ st.session.reservedPostpaidQuota < max 0 targetQuota := by
  unfold TenantSessionState.reservePostpaid at h
  have hmax : (if targetQuota < 0 then 0 else targetQuota) = max 0 targetQuota := by
    split <;> omega
  rw [hmax] at h
  split at h
  · simp at h
  dsimp only at h
  split at h
  · simp at h
  split at h
  · simp at h
  split at h
  · next e' herr =>
    refine ⟨(Prod.mk.inj h).2.symm, ?_⟩
    -- a release never fails
    by_contra hge
    rw [if_neg hge] at herr
    rcases releaseTenantCredit_cases st.db st.info.tenantId
      (st.session.reservedPostpaidQuota - max 0 targetQuota) with ⟨hok, -⟩ | ⟨-, -, a, -, -, hok⟩
    · rw [hok] at herr
      exact nomatch herr
    · rw [hok] at herr
      exact nomatch herr
  · simp at h

/-- `reservePostpaid` on a live session moves the reservation to the target. -/
theorem reservePostpaid_ok {st st' : TenantSessionState} {targetQuota : Int}
    (hpos : 0 < st.info.tenantId) (hsettled : st.session.settled = false)
    (hrefunded : st.session.refunded = false) (htarget : 0 ≤ targetQuota)
    (h : st.reservePostpaid targetQuota = (none, st')) :
    ∃ db', PostpaidMoved st.db st.info.tenantId st.session.reservedPostpaidQuota targetQuota db' ∧
      st' = { st with
        db := db', session := { st.session with reservedPostpaidQuota := targetQuota } } := by
  have hlive : (st.session.settled || st.session.refunded) = false := by
    simp [hsettled, hrefunded]
  unfold TenantSessionState.reservePostpaid at h
  simp only [if_neg (not_le.mpr hpos), if_neg (not_lt.mpr htarget), hlive,
    Bool.false_eq_true, if_false] at h
  split at h
  · next heq =>
    refine ⟨st.db, .stayed heq rfl, ?_⟩
    rw [← (Prod.mk.inj h).2, heq]
  next hne =>
  split at h
  · simp at h
  next db' hok =>
  refine ⟨db', ?_, (Prod.mk.inj h).2.symm⟩
  split at hok
  · next hlt => exact .grown hlt hok
  · next hge => exact .shrunk (by omega) hok

/-! ## `Settle` -/

/-- What `Settle` on a session that is not settled can do. -/
inductive SettleOutcome (st : TenantSessionState) (actualQuota : Int) :
    Option String × TenantSessionState → Prop where
  /-- the tenant's credit refuses -/
  | refused (e : String)
      (hres : st.reservePostpaid (st.session.targetPostpaidQuota actualQuota) = (some e, st)) :
      SettleOutcome st actualQuota (some e, st)
  /-- no prepaid session -/
  | postpaid (st₁ : TenantSessionState)
      (hres : st.reservePostpaid (st.session.targetPostpaidQuota actualQuota) = (none, st₁))
      (hp : st.session.prepaid = none) :
      SettleOutcome st actualQuota
        (none, { st₁ with session := { st₁.session with settled := true } })
  /-- both sides settle -/
  | mixed (st₁ : TenantSessionState) (p : BillingSession) (p' : SessionState)
      (hres : st.reservePostpaid (st.session.targetPostpaidQuota actualQuota) = (none, st₁))
      (hp : st.session.prepaid = some p)
      (hset : (st.prepaidState p).settle (min actualQuota p.preConsumedQuota) = (none, p')) :
      SettleOutcome st actualQuota
        (none, { st₁.withPrepaid p' with
          session := { (st₁.withPrepaid p').session with settled := true } })
  /-- the prepaid session refuses and the reservation is put back -/
  | undone (st₁ : TenantSessionState) (p : BillingSession) (p' : SessionState) (e : String)
      (hres : st.reservePostpaid (st.session.targetPostpaidQuota actualQuota) = (none, st₁))
      (hp : st.session.prepaid = some p)
      (hset : (st.prepaidState p).settle (min actualQuota p.preConsumedQuota) = (some e, p')) :
      SettleOutcome st actualQuota
        (some e, if st.session.targetPostpaidQuota actualQuota ≠ st.session.reservedPostpaidQuota then
          ((st₁.withPrepaid p').reservePostpaid st.session.reservedPostpaidQuota).2
        else st₁.withPrepaid p')

theorem settle_outcome (st : TenantSessionState) (actualQuota : Int)
    (hsettled : st.session.settled = false) :
    SettleOutcome st actualQuota (st.settle actualQuota) := by
  unfold TenantSessionState.settle
  simp only [hsettled, Bool.false_eq_true, if_false]
  split
  · next e st₁ hres =>
    obtain rfl := (reservePostpaid_error hres).1
    exact .refused e hres
  next st₁ hres =>
  obtain ⟨db, reserved, hframe⟩ :=
    reservePostpaid_frame st (st.session.targetPostpaidQuota actualQuota)
  rw [hres] at hframe
  dsimp only at hframe
  have hprepaid : st₁.session.prepaid = st.session.prepaid := by rw [hframe]
  split
  · next hp => exact .postpaid st₁ hres (hprepaid ▸ hp)
  next p hp =>
  have hp' : st.session.prepaid = some p := hprepaid ▸ hp
  have hstate : st₁.prepaidState p = st.prepaidState p := by rw [hframe]; rfl
  have hmin : (if actualQuota ≤ st.session.prepaidConsumed then actualQuota
      else st.session.prepaidConsumed) = min actualQuota p.preConsumedQuota := by
    simp only [TenantCreditBillingSession.prepaidConsumed, hp']
    omega
  rw [hmin, hstate]
  split
  · next e p' hset =>
    have hout := SettleOutcome.undone st₁ p p' e hres hp' hset
    split
    · next hne =>
      rw [if_pos hne] at hout
      exact hout
    · next heq =>
      rw [if_neg heq] at hout
      exact hout
  · next p' hset => exact .mixed st₁ p p' hres hp' hset

/-! ## The tenant columns of the request -/

/-- The tenant columns of the request. -/
def SameTenant (info info' : RelayInfo) : Prop :=
  info'.tenantId = info.tenantId ∧ info'.tenantBillingMode = info.tenantBillingMode

theorem syncRelayInfo_sameTenant (info : RelayInfo) (s : BillingSession) :
    SameTenant info (syncRelayInfo info s) := by
  unfold syncRelayInfo
  cases s.funding <;> exact ⟨rfl, rfl⟩

/-- `Reserve` on the prepaid session leaves the tenant columns alone. -/
theorem reserve_sameTenant (env : BillingEnv) (st : SessionState) (targetQuota : Int) :
    SameTenant st.info (st.reserve env targetQuota).2.info := by
  unfold SessionState.reserve
  dsimp only
  split
  · exact ⟨rfl, rfl⟩
  split
  · exact ⟨rfl, rfl⟩
  split
  · exact ⟨rfl, rfl⟩
  · exact syncRelayInfo_sameTenant _ _

/-- `Settle` on the prepaid session leaves the tenant columns alone. -/
theorem settle_sameTenant (st : SessionState) (actualQuota : Int) :
    SameTenant st.info (st.settle actualQuota).2.info := by
  unfold SessionState.settle
  dsimp only
  split
  · exact ⟨rfl, rfl⟩
  split
  · exact ⟨rfl, rfl⟩
  split
  · exact ⟨rfl, rfl⟩
  -- a subscription's post delta is noted on the request
  split <;> (dsimp only; split <;> exact ⟨rfl, rfl⟩)

theorem preConsume_sameTenant (env : BillingEnv) (db : QuotaDB) (info : RelayInfo)
    (tokenQuota : Int) (F : FundingSource) (quota : Int) :
    SameTenant info (preConsume env db info tokenQuota F quota).info := by
  have hfunding : ∀ (db : QuotaDB) (s : BillingSession) (q : Int),
      SameTenant info (preConsumeFunding env db info s q).info := by
    intro db s q
    unfold preConsumeFunding
    split
    · exact ⟨rfl, rfl⟩
    · exact syncRelayInfo_sameTenant _ _
  unfold preConsume
  dsimp only
  generalize BillingSession.shouldTrust env info tokenQuota { funding := F } = trusted
  generalize (if trusted = true then 0 else quota) = effective
  split
  · split
    · exact ⟨rfl, rfl⟩
    · exact hfunding _ _ _
  · exact hfunding _ _ _

theorem tryWallet_sameTenant (env : BillingEnv) (db : QuotaDB) (info : RelayInfo)
    (tokenQuota quota : Int) : SameTenant info (tryWallet env db info tokenQuota quota).info := by
  unfold tryWallet
  dsimp only
  split
  · exact ⟨rfl, rfl⟩
  split
  · exact ⟨rfl, rfl⟩
  · exact preConsume_sameTenant _ _ { info with userQuota := _ } _ _ _

theorem SameTenant.trans {info info' info'' : RelayInfo} (h : SameTenant info info')
    (h' : SameTenant info' info'') : SameTenant info info'' :=
  ⟨h'.1.trans h.1, h'.2.trans h.2⟩

/-- `NewBillingSession` leaves the tenant columns alone. -/
theorem newBillingSession_sameTenant (env : BillingEnv) (db : QuotaDB) (info : RelayInfo)
    (tokenQuota quota : Int) :
    SameTenant info (newBillingSession env db info tokenQuota quota).info := by
  have hwallet := tryWallet_sameTenant env db info tokenQuota quota
  have hsub : SameTenant info (trySubscription env db info tokenQuota quota).info :=
    preConsume_sameTenant env db info tokenQuota _ _
  unfold newBillingSession
  split
  · exact hsub
  · exact hwallet
  · dsimp only
    split
    · exact hwallet
    split
    · exact hwallet.trans (preConsume_sameTenant env _ _ tokenQuota _ _)
    · exact hwallet
  · split
    · exact ⟨rfl, rfl⟩
    · exact hwallet
    dsimp only
    split
    · exact hsub
    split
    · split
      · exact hsub
      · exact hsub.trans (tryWallet_sameTenant env _ _ tokenQuota quota)
      · exact hsub
    · exact hsub

/-! ## The pre-consumed quota on the request -/

/-- `Reserve` copies the pre-consumed quota to the request. -/
theorem reserve_final (env : BillingEnv) {st : SessionState} (targetQuota : Int)
    (h : st.info.finalPreConsumedQuota = st.session.preConsumedQuota) :
    (st.reserve env targetQuota).2.info.finalPreConsumedQuota =
      (st.reserve env targetQuota).2.session.preConsumedQuota := by
  unfold SessionState.reserve
  dsimp only
  split
  · exact h
  split
  · exact h
  split
  · exact h
  · unfold syncRelayInfo
    split <;> rfl

/-- `Settle` changes neither copy of the pre-consumed quota. -/
theorem settle_final (st : SessionState) (actualQuota : Int) :
    (st.settle actualQuota).2.info.finalPreConsumedQuota = st.info.finalPreConsumedQuota ∧
      (st.settle actualQuota).2.session.preConsumedQuota = st.session.preConsumedQuota := by
  unfold SessionState.settle
  dsimp only
  split
  · exact ⟨rfl, rfl⟩
  split
  · exact ⟨rfl, rfl⟩
  split
  · exact ⟨rfl, rfl⟩
  split <;> (dsimp only; split <;> exact ⟨rfl, rfl⟩)

/-- `Refund` changes neither copy of the pre-consumed quota. -/
theorem refund_final (st : SessionState) :
    st.refund.1.info = st.info ∧
      st.refund.1.session.preConsumedQuota = st.session.preConsumedQuota := by
  unfold SessionState.refund
  dsimp only
  split <;> exact ⟨rfl, rfl⟩

theorem preConsume_final {env : BillingEnv} {db : QuotaDB} {info : RelayInfo} {tokenQuota : Int}
    {F : FundingSource} {quota : Int} {s : BillingSession}
    (h : (preConsume env db info tokenQuota F quota).result = .ok s) :
    (preConsume env db info tokenQuota F quota).info.finalPreConsumedQuota =
      s.preConsumedQuota := by
  have hfunding : ∀ {db : QuotaDB} {s₀ : BillingSession} {q : Int},
      (preConsumeFunding env db info s₀ q).result = .ok s →
      (preConsumeFunding env db info s₀ q).info.finalPreConsumedQuota = s.preConsumedQuota := by
    intro db s₀ q hok
    unfold preConsumeFunding at hok ⊢
    split at hok
    · exact nomatch hok
    · rw [← Except.ok.inj hok]
      unfold syncRelayInfo
      dsimp only
      split <;> rfl
  unfold preConsume at h ⊢
  dsimp only at h ⊢
  generalize BillingSession.shouldTrust env info tokenQuota { funding := F } = trusted at *
  generalize (if trusted = true then 0 else quota) = effective at *
  by_cases hpos : 0 < effective
  · simp only [if_pos hpos] at h ⊢
    split at h
    · exact nomatch h
    · exact hfunding h
  · simp only [if_neg hpos] at h ⊢
    exact hfunding h

theorem tryWallet_final {env : BillingEnv} {db : QuotaDB} {info : RelayInfo}
    {tokenQuota quota : Int} {s : BillingSession}
    (h : (tryWallet env db info tokenQuota quota).result = .ok s) :
    (tryWallet env db info tokenQuota quota).info.finalPreConsumedQuota = s.preConsumedQuota := by
  unfold tryWallet at h ⊢
  dsimp only at h ⊢
  split at h
  · exact nomatch h
  split at h
  · exact nomatch h
  next hquota henough =>
  rw [if_neg hquota, if_neg henough]
  exact preConsume_final h

/-- A session that `NewBillingSession` opens comes from one of the two attempts. -/
theorem newBillingSession_attempt {env : BillingEnv} {db : QuotaDB} {info : RelayInfo}
    {tokenQuota quota : Int} {s : BillingSession}
    (h : (newBillingSession env db info tokenQuota quota).result = .ok s) :
    ∃ db' info',
      newBillingSession env db info tokenQuota quota = tryWallet env db' info' tokenQuota quota ∨
      newBillingSession env db info tokenQuota quota =
        trySubscription env db' info' tokenQuota quota := by
  unfold newBillingSession at h ⊢
  split at h
  · exact ⟨db, info, .inr rfl⟩
  · exact ⟨db, info, .inl rfl⟩
  · dsimp only at h ⊢
    split at h
    · exact ⟨db, info, .inl rfl⟩
    next e hres =>
    split at h
    · next hcode => exact ⟨_, _, .inr (if_pos hcode)⟩
    · rw [hres] at h
      exact nomatch h
  · split at h
    · exact nomatch h
    · exact ⟨db, info, .inl rfl⟩
    dsimp only at h ⊢
    split at h
    · exact ⟨db, info, .inr rfl⟩
    next e hres =>
    split at h
    · next hcode =>
      rw [if_pos hcode]
      split at h
      · exact nomatch h
      · exact ⟨_, _, .inl rfl⟩
      · rw [hres] at h
        exact nomatch h
    · rw [hres] at h
      exact nomatch h

/-- A session that `NewBillingSession` opens is copied to the request. -/
theorem newBillingSession_final {env : BillingEnv} {db : QuotaDB} {info : RelayInfo}
    {tokenQuota quota : Int} {s : BillingSession}
    (h : (newBillingSession env db info tokenQuota quota).result = .ok s) :
    (newBillingSession env db info tokenQuota quota).info.finalPreConsumedQuota =
      s.preConsumedQuota := by
  obtain ⟨db', info', heq | heq⟩ := newBillingSession_attempt h
  · rw [heq] at h ⊢
    exact tryWallet_final h
  · rw [heq] at h ⊢
    exact preConsume_final h

end TokenRouter
