import TokenRouter.Spec.CreditMoves
import TokenRouter.Spec.TenantSessionCases
import TokenRouter.Spec.UsageCases

/-!
# What a tenant session does to the credit

A session holds a part of the tenant's reservation and counts it in
`reservedPostpaidQuota`. Each call changes the count and the account by the same amount,
up to what could not be taken from the account (`CreditEffect`), and keeps the session
consistent with its request (`SessionOk`).

## Key results

- `reserve_sessionOk`, `settle_sessionOk`, `refund_sessionOk`: one call
- `prepareTenantBillingSession_openedOk`: opening a session
-/

namespace TokenRouter

/-! ## Adjusting a reservation -/

/-- The tenant's credit is adjusted, within the available credit if the policy is
    `block`. -/
structure Adjusted (tenantId : Int) (db db' : DB) (current target : Int) : Prop where
  configs : db'.configs = db.configs
  credit : db'.credit tenantId = (db.credit tenantId).adjust current target
  within : BlockPolicy db tenantId → current < target →
    target - current ≤ (db.credit tenantId).available

theorem Adjusted.refl {tenantId : Int} {db : DB} (h : 0 ≤ (db.credit tenantId).reserved)
    (current : Int) : Adjusted tenantId db db current current :=
  ⟨rfl, (Credit.adjust_self h current).symm, fun _ hlt => absurd hlt (lt_irrefl current)⟩

theorem PostpaidMoved.adjusted {tenantId current target : Int} {db db' : DB}
    (hpos : 0 < tenantId) (hreserved : 0 ≤ (db.credit tenantId).reserved)
    (h : PostpaidMoved db tenantId current target db') :
    Adjusted tenantId db db' current target := by
  cases h with
  | grown hlt hok =>
    obtain ⟨hconfigs, hcredit, hwithin⟩ := reserveTenantCredit_credit hpos (by omega) hok
    exact ⟨hconfigs, by rw [Credit.adjust, if_pos hlt, hcredit], fun hblock _ => hwithin hblock⟩
  | shrunk hlt hok =>
    obtain ⟨hconfigs, hcredit⟩ := releaseTenantCredit_credit hpos (by omega) hreserved hok
    exact ⟨hconfigs, by rw [Credit.adjust, if_neg (by omega), hcredit], fun _ h => by omega⟩
  | stayed heq hok =>
    subst heq hok
    exact .refl hreserved _

/-- `reservePostpaid` adjusts the session's part of the reservation. -/
theorem reservePostpaid_adjusted (st : TenantSessionState) {targetQuota : Int}
    (hpos : 0 < st.info.tenantId) (htarget : 0 ≤ targetQuota)
    (hcurrent : 0 ≤ st.session.reservedPostpaidQuota)
    (hreserved : 0 ≤ (st.db.credit st.info.tenantId).reserved) :
    Adjusted st.info.tenantId st.db (st.reservePostpaid targetQuota).2.db
        st.session.reservedPostpaidQuota
        (st.reservePostpaid targetQuota).2.session.reservedPostpaidQuota ∧
      0 ≤ (st.reservePostpaid targetQuota).2.session.reservedPostpaidQuota := by
  have hsame : Adjusted st.info.tenantId st.db st.db st.session.reservedPostpaidQuota
      st.session.reservedPostpaidQuota ∧ 0 ≤ st.session.reservedPostpaidQuota :=
    ⟨.refl hreserved _, hcurrent⟩
  cases hdone : st.session.settled || st.session.refunded with
  | true =>
    have hres : st.reservePostpaid targetQuota = (none, st) := by
      simp [TenantSessionState.reservePostpaid, hdone]
    rw [hres]
    exact hsame
  | false =>
    rw [Bool.or_eq_false_iff] at hdone
    cases hres : st.reservePostpaid targetQuota with
    | mk err st' =>
      cases err with
      | some e =>
        rw [(reservePostpaid_error hres).1]
        exact hsame
      | none =>
        obtain ⟨db', hmoved, rfl⟩ := reservePostpaid_ok hpos hdone.1 hdone.2 htarget hres
        exact ⟨hmoved.adjusted hpos hreserved, htarget⟩

/-- A call changed the session's part of the reservation by `change`; what it could not
    take from the account is `loss`. -/
structure CreditEffect (tenantId : Int) (db db' : DB) (change loss : Int) : Prop where
  configs : db'.configs = db.configs
  reserved : (db'.credit tenantId).reserved = (db.credit tenantId).reserved + change + loss
  reserved_nonneg : 0 ≤ (db'.credit tenantId).reserved
  unbilled : (db'.credit tenantId).unbilled = (db.credit tenantId).unbilled
  available : BlockPolicy db tenantId → 0 ≤ (db.credit tenantId).available →
    0 ≤ (db'.credit tenantId).available

theorem Adjusted.effect {tenantId : Int} {db db' : DB} {current target : Int}
    (hreserved : 0 ≤ (db.credit tenantId).reserved)
    (h : Adjusted tenantId db db' current target) :
    CreditEffect tenantId db db' (target - current)
      ((db.credit tenantId).loss (current - target)) := by
  refine ⟨h.configs, ?_, ?_, ?_, fun hblock hav => ?_⟩
  · rw [h.credit]
    exact Credit.adjust_reserved hreserved _ _
  · rw [h.credit]
    exact Credit.adjust_reserved_nonneg hreserved _ _
  · rw [h.credit]
    exact Credit.adjust_unbilled _ _ _
  · rw [h.credit]
    exact Credit.adjust_available_nonneg hreserved hav (h.within hblock)

/-- A call that leaves the tenant's tables alone. -/
theorem CreditEffect.refl {tenantId : Int} {db : DB} (h : 0 ≤ (db.credit tenantId).reserved) :
    CreditEffect tenantId db db 0 0 :=
  ⟨rfl, by omega, h, rfl, fun _ hav => hav⟩

theorem CreditEffect.trans {tenantId : Int} {db db₁ db₂ : DB} {c₁ c₂ l₁ l₂ : Int}
    (h₁ : CreditEffect tenantId db db₁ c₁ l₁) (h₂ : CreditEffect tenantId db₁ db₂ c₂ l₂) :
    CreditEffect tenantId db db₂ (c₁ + c₂) (l₁ + l₂) := by
  have hr₁ := h₁.reserved
  have hr₂ := h₂.reserved
  refine ⟨h₂.configs.trans h₁.configs, by omega, h₂.reserved_nonneg,
    h₂.unbilled.trans h₁.unbilled, fun hblock hav => ?_⟩
  apply h₂.available _ (h₁.available hblock hav)
  intro config hconfig
  rw [h₁.configs] at hconfig
  exact hblock config hconfig

/-- What makes a tenant session and its request consistent. -/
structure SessionOk (tenantId : Int) (info : RelayInfo) (s : TenantCreditBillingSession) :
    Prop where
  tenant : info.tenantId = tenantId
  info_mode : info.tenantBillingMode = some s.mode
  final : info.finalPreConsumedQuota = s.prepaidConsumed
  reserved_nonneg : 0 ≤ s.reservedPostpaidQuota
  refunded : s.refunded = true → s.reservedPostpaidQuota = 0

theorem targetPostpaidQuota_eq (s : TenantCreditBillingSession) (actualQuota : Int) :
    s.targetPostpaidQuota actualQuota =
      tenantPostpaidQuota s.mode actualQuota s.prepaidConsumed := by
  unfold TenantCreditBillingSession.targetPostpaidQuota
  split
  · next hle => simp [tenantPostpaidQuota, hle]
  · rfl

theorem targetPostpaidQuota_nonneg (s : TenantCreditBillingSession) (actualQuota : Int) :
    0 ≤ s.targetPostpaidQuota actualQuota := by
  rw [targetPostpaidQuota_eq]
  exact tenantPostpaidQuota_nonneg _ _ _

/-- What is asked of the account when a part of the reservation goes from its size to a
    target; a settled session asks nothing. -/
def TenantCreditBillingSession.asked (s : TenantCreditBillingSession) (target : Int) : Int :=
  if s.settled then 0 else s.reservedPostpaidQuota - target

/-- A refused reservation asks nothing, as does a refunded session; otherwise what lies
    above the target is asked. -/
theorem reservePostpaid_loss {tenantId : Int} {st : TenantSessionState} {targetQuota : Int}
    (hpos : 0 < tenantId) (hok : SessionOk tenantId st.info st.session)
    (htarget : 0 ≤ targetQuota) {c : Credit} (hreserved : 0 ≤ c.reserved) :
    c.loss (st.session.reservedPostpaidQuota -
        (st.reservePostpaid targetQuota).2.session.reservedPostpaidQuota) =
      c.loss (st.session.asked targetQuota) := by
  obtain rfl := hok.tenant
  unfold TenantCreditBillingSession.asked
  cases hsettled : st.session.settled with
  | true =>
    have hres : st.reservePostpaid targetQuota = (none, st) := by
      simp [TenantSessionState.reservePostpaid, hsettled]
    simp only [hres, if_true, sub_self]
  | false =>
    simp only [Bool.false_eq_true, if_false, Credit.loss]
    cases hrefunded : st.session.refunded with
    | true =>
      have hres : st.reservePostpaid targetQuota = (none, st) := by
        simp [TenantSessionState.reservePostpaid, hrefunded]
      have hzero := hok.refunded hrefunded
      rw [hres]
      dsimp only
      omega
    | false =>
      cases hres : st.reservePostpaid targetQuota with
      | mk err st' =>
        cases err with
        | some e =>
          obtain ⟨hst, hlt⟩ := reservePostpaid_error hres
          rw [hst]
          dsimp only
          omega
        | none =>
          obtain ⟨db', -, hst⟩ := reservePostpaid_ok hpos hsettled hrefunded htarget hres
          rw [hst]

/-- `reservePostpaid` keeps a session consistent. -/
theorem reservePostpaid_sessionOk {tenantId : Int} {st : TenantSessionState} {targetQuota : Int}
    (hpos : 0 < tenantId) (hok : SessionOk tenantId st.info st.session)
    (htarget : 0 ≤ targetQuota) (hreserved : 0 ≤ (st.db.credit tenantId).reserved) :
    SessionOk tenantId (st.reservePostpaid targetQuota).2.info
        (st.reservePostpaid targetQuota).2.session ∧
      CreditEffect tenantId st.db (st.reservePostpaid targetQuota).2.db
        ((st.reservePostpaid targetQuota).2.session.reservedPostpaidQuota -
          st.session.reservedPostpaidQuota)
        ((st.db.credit tenantId).loss (st.session.asked targetQuota)) := by
  rw [← reservePostpaid_loss hpos hok htarget hreserved]
  obtain rfl := hok.tenant
  obtain ⟨hadj, hnn⟩ := reservePostpaid_adjusted st hpos htarget hok.reserved_nonneg hreserved
  refine ⟨?_, hadj.effect hreserved⟩
  have hrefunded : st.session.refunded = true → (st.reservePostpaid targetQuota).2 = st := by
    intro h
    simp only [TenantSessionState.reservePostpaid, h, Bool.or_true, if_true]
    split <;> rfl
  obtain ⟨db, reserved, hframe⟩ := reservePostpaid_frame st targetQuota
  have hzero := hok.refunded
  rw [hframe] at hnn hrefunded ⊢
  refine ⟨rfl, hok.info_mode, hok.final, hnn, fun h => ?_⟩
  have hsame := congrArg (·.session.reservedPostpaidQuota) (hrefunded h)
  exact hsame.trans (hzero h)

/-- Taking over a prepaid session that kept the tenant columns and its pre-consumed
    quota in step keeps a session consistent. -/
theorem SessionOk.withPrepaid {tenantId : Int} {st : TenantSessionState} {p' : SessionState}
    (hok : SessionOk tenantId st.info st.session) (htenant : SameTenant st.info p'.info)
    (hfinal : p'.info.finalPreConsumedQuota = p'.session.preConsumedQuota) :
    SessionOk tenantId (st.withPrepaid p').info (st.withPrepaid p').session :=
  ⟨htenant.1.trans hok.tenant, htenant.2.trans hok.info_mode, hfinal, hok.reserved_nonneg,
    hok.refunded⟩

/-- The prepaid session of a consistent session is in step with the request. -/
theorem SessionOk.prepaid_final {tenantId : Int} {st : TenantSessionState} {p : BillingSession}
    (hok : SessionOk tenantId st.info st.session) (hp : st.session.prepaid = some p) :
    (st.prepaidState p).info.finalPreConsumedQuota =
      (st.prepaidState p).session.preConsumedQuota := by
  have hfinal := hok.final
  simp only [TenantCreditBillingSession.prepaidConsumed, hp] at hfinal
  exact hfinal

/-- The reservation that `Reserve` aims at: nothing changes if the prepaid session
    refuses. -/
def TenantSessionState.reserveTarget (env : BillingEnv) (st : TenantSessionState)
    (targetQuota : Int) : Int :=
  match st.session.prepaid with
  | none => st.session.targetPostpaidQuota targetQuota
  | some p =>
    match (st.prepaidState p).reserve env targetQuota with
    | (some _, _) => st.session.reservedPostpaidQuota
    | (none, p') => (st.withPrepaid p').session.targetPostpaidQuota targetQuota

/-- `Reserve` adjusts the reservation to its target. -/
theorem reserve_sessionOk (env : BillingEnv) {tenantId : Int} {st : TenantSessionState}
    (hpos : 0 < tenantId) (hok : SessionOk tenantId st.info st.session) (targetQuota : Int)
    (hreserved : 0 ≤ (st.db.credit tenantId).reserved) :
    SessionOk tenantId (st.reserve env targetQuota).2.info
        (st.reserve env targetQuota).2.session ∧
      CreditEffect tenantId st.db (st.reserve env targetQuota).2.db
        ((st.reserve env targetQuota).2.session.reservedPostpaidQuota -
          st.session.reservedPostpaidQuota)
        ((st.db.credit tenantId).loss (st.session.asked (st.reserveTarget env targetQuota))) := by
  unfold TenantSessionState.reserve TenantSessionState.reserveTarget
  cases hp : st.session.prepaid with
  | none => exact reservePostpaid_sessionOk hpos hok (targetPostpaidQuota_nonneg _ _) hreserved
  | some p =>
    have htenant := reserve_sameTenant env (st.prepaidState p) targetQuota
    have hfinal := reserve_final env targetQuota (hok.prepaid_final hp)
    dsimp only
    cases hres : (st.prepaidState p).reserve env targetQuota with
    | mk err p' =>
      rw [hres] at htenant hfinal
      have hok' := hok.withPrepaid htenant hfinal
      cases err with
      | some e =>
        have hzero : (st.db.credit tenantId).loss
            (st.session.asked st.session.reservedPostpaidQuota) = 0 := by
          rw [Credit.loss_eq_zero_iff]
          unfold TenantCreditBillingSession.asked
          split <;> omega
        refine ⟨hok', ?_⟩
        dsimp only
        rw [hzero]
        exact sub_self (st.session.reservedPostpaidQuota) ▸ .refl hreserved
      | none => exact reservePostpaid_sessionOk hpos hok' (targetPostpaidQuota_nonneg _ _) hreserved

/-- The flags and the reservation after a `Settle`. -/
structure SettledOk (st st' : TenantSessionState) (actualQuota : Int) : Prop where
  consumed : st'.session.prepaidConsumed = st.session.prepaidConsumed
  mode : st'.session.mode = st.session.mode
  refunded : st'.session.refunded = st.session.refunded
  reserved : st'.session.settled = true → st.session.refunded = false →
    st'.session.reservedPostpaidQuota = st.session.targetPostpaidQuota actualQuota

/-- What the prepaid part of `Settle` keeps. -/
theorem SessionOk.prepaid_settle {tenantId : Int} {st : TenantSessionState} {p : BillingSession}
    {p' : SessionState} {quota : Int} {err : Option String}
    (hok : SessionOk tenantId st.info st.session) (hp : st.session.prepaid = some p)
    (hset : (st.prepaidState p).settle quota = (err, p')) :
    SameTenant st.info p'.info ∧
      p'.info.finalPreConsumedQuota = p'.session.preConsumedQuota ∧
      p'.session.preConsumedQuota = st.session.prepaidConsumed := by
  have htenant := settle_sameTenant (st.prepaidState p) quota
  obtain ⟨hfinal, hconsumed⟩ := settle_final (st.prepaidState p) quota
  rw [hset] at htenant hfinal hconsumed
  refine ⟨htenant, hfinal.trans ((hok.prepaid_final hp).trans hconsumed.symm), ?_⟩
  simp only [TenantCreditBillingSession.prepaidConsumed, hp]
  exact hconsumed

/-- A reservation that was just changed can be put back without a loss. -/
theorem CreditEffect.loss_back {tenantId : Int} {db db' : DB} {change loss : Int}
    (h : CreditEffect tenantId db db' change loss)
    (hreserved : 0 ≤ (db.credit tenantId).reserved) (hloss : 0 ≤ loss) :
    (db'.credit tenantId).loss change = 0 := by
  rw [Credit.loss_eq_zero_iff, h.reserved]
  omega

/-- `Settle` on a session that is not settled adjusts the reservation to its target; if
    the prepaid session refuses, the reservation is put back. -/
theorem settle_sessionOk {tenantId : Int} {st : TenantSessionState} (hpos : 0 < tenantId)
    (hok : SessionOk tenantId st.info st.session) (hsettled : st.session.settled = false)
    (actualQuota : Int) (hreserved : 0 ≤ (st.db.credit tenantId).reserved) :
    SessionOk tenantId (st.settle actualQuota).2.info (st.settle actualQuota).2.session ∧
      SettledOk st (st.settle actualQuota).2 actualQuota ∧
      CreditEffect tenantId st.db (st.settle actualQuota).2.db
        ((st.settle actualQuota).2.session.reservedPostpaidQuota -
          st.session.reservedPostpaidQuota)
        ((st.db.credit tenantId).loss
          (st.session.asked (st.session.targetPostpaidQuota actualQuota))) := by
  have hnn := targetPostpaidQuota_nonneg st.session actualQuota
  have hout := settle_outcome st actualQuota hsettled
  obtain ⟨hok₁, heffect⟩ := reservePostpaid_sessionOk hpos hok hnn hreserved
  obtain ⟨db₁, reserved, hframe⟩ :=
    reservePostpaid_frame st (st.session.targetPostpaidQuota actualQuota)
  -- a granted reservation of a live session has the target's size
  have hgranted : ∀ st₁, st.reservePostpaid (st.session.targetPostpaidQuota actualQuota) =
      (none, st₁) → st.session.refunded = false →
      st₁.session.reservedPostpaidQuota = st.session.targetPostpaidQuota actualQuota := by
    intro st₁ hres hrefunded
    obtain ⟨db', -, hst⟩ :=
      reservePostpaid_ok (hok.tenant.symm ▸ hpos) hsettled hrefunded hnn hres
    rw [hst]
  generalize st.settle actualQuota = r at hout
  cases hout with
  | refused e hres =>
    rw [hres] at heffect
    refine ⟨hok, ⟨rfl, rfl, rfl, fun h => ?_⟩, heffect⟩
    rw [hsettled] at h
    exact nomatch h
  | postpaid st₁ hres hp =>
    have hreserved₁ := hgranted st₁ hres
    rw [hres] at heffect hok₁ hframe
    dsimp only at hframe
    subst hframe
    exact ⟨⟨hok₁.tenant, hok₁.info_mode, hok₁.final, hok₁.reserved_nonneg, hok₁.refunded⟩,
      ⟨rfl, rfl, rfl, fun _ => hreserved₁⟩, heffect⟩
  | mixed st₁ p p' hres hp hset =>
    have hreserved₁ := hgranted st₁ hres
    obtain ⟨htenant, hfinal, hconsumed⟩ := hok.prepaid_settle hp hset
    rw [hres] at heffect hok₁ hframe
    dsimp only at hframe
    subst hframe
    have hok₂ := hok₁.withPrepaid htenant hfinal
    exact ⟨⟨hok₂.tenant, hok₂.info_mode, hok₂.final, hok₂.reserved_nonneg, hok₂.refunded⟩,
      ⟨hconsumed, rfl, rfl, fun _ => hreserved₁⟩, heffect⟩
  | undone st₁ p p' e hres hp hset =>
    obtain ⟨htenant, hfinal, hconsumed⟩ := hok.prepaid_settle hp hset
    rw [hres] at heffect hok₁ hframe
    dsimp only at hframe
    subst hframe
    have hok₂ := hok₁.withPrepaid htenant hfinal
    dsimp only
    split
    · -- back to the old size
      obtain ⟨hok₃, hback⟩ := reservePostpaid_sessionOk hpos hok₂ hok.reserved_nonneg
        heffect.reserved_nonneg
      have hasked : ({ st with db := db₁, session := { st.session with
          reservedPostpaidQuota := reserved } }.withPrepaid p').session.asked
            st.session.reservedPostpaidQuota = reserved - st.session.reservedPostpaidQuota := by
        simp [TenantCreditBillingSession.asked, TenantSessionState.withPrepaid, hsettled]
      have hzero := heffect.loss_back hreserved (Credit.loss_nonneg _ _)
      obtain ⟨db₂, back, hframe₂⟩ := reservePostpaid_frame
        (({ st with db := db₁, session := { st.session with
          reservedPostpaidQuota := reserved } } : TenantSessionState).withPrepaid p')
        st.session.reservedPostpaidQuota
      rw [hasked, hframe₂] at hback
      rw [hframe₂] at hok₃ ⊢
      refine ⟨hok₃, ⟨hconsumed, rfl, rfl, fun h => ?_⟩, ?_⟩
      · exact absurd (h.symm.trans hsettled) (by decide)
      · have htotal := heffect.trans hback
        have hchange : reserved - st.session.reservedPostpaidQuota + (back - reserved) =
            back - st.session.reservedPostpaidQuota := by
          omega
        have hloss : (db₁.credit tenantId).loss (reserved - st.session.reservedPostpaidQuota) = 0 :=
          hzero
        simp only [TenantSessionState.withPrepaid, hchange, hloss, add_zero] at htotal
        exact htotal
    · refine ⟨hok₂, ⟨hconsumed, rfl, rfl, fun h => ?_⟩, heffect⟩
      exact absurd (h.symm.trans hsettled) (by decide)

/-- What `Refund` can do: nothing, or hand the reservation to the goroutine. -/
inductive RefundOutcome (st : TenantSessionState) : TenantSessionState × TenantRefundTasks → Prop
    where
  | skipped : RefundOutcome st (st, {})
  | refunded (st' : TenantSessionState) (tasks : TenantRefundTasks)
      (hlive : st.session.settled = false ∧ st.session.refunded = false)
      (hdb : st'.db = st.db)
      (hdone : st'.session.settled = false ∧ st'.session.refunded = true)
      (hreserved : st'.session.reservedPostpaidQuota = 0)
      (hhanded : tasks.release.getD 0 = st.session.reservedPostpaidQuota)
      (hpos : ∀ quota, tasks.release = some quota → 0 < quota) :
      RefundOutcome st (st', tasks)

theorem refund_sessionOk {tenantId : Int} {st : TenantSessionState} (hpos : 0 < tenantId)
    (hok : SessionOk tenantId st.info st.session) :
    SessionOk tenantId st.refund.1.info st.refund.1.session ∧ RefundOutcome st st.refund := by
  have hnn := hok.reserved_nonneg
  have htenant := hok.tenant
  unfold TenantSessionState.refund
  dsimp only
  split
  · exact ⟨hok, .skipped⟩
  next hguard =>
  simp only [Bool.or_eq_true, not_or, Bool.not_eq_true] at hguard
  have hhanded : (if 0 < st.session.reservedPostpaidQuota ∧ 0 < st.info.tenantId then
      some st.session.reservedPostpaidQuota else none).getD 0 =
        st.session.reservedPostpaidQuota := by
    split
    · simp
    · simp only [Option.getD_none]
      omega
  have hrelease : ∀ quota, (if 0 < st.session.reservedPostpaidQuota ∧ 0 < st.info.tenantId then
      some st.session.reservedPostpaidQuota else none) = some quota → 0 < quota := by
    intro quota h
    split at h
    · next hposr =>
      obtain rfl := Option.some.inj h
      exact hposr.1
    · exact nomatch h
  cases hp : st.session.prepaid with
  | none =>
    refine ⟨⟨hok.tenant, hok.info_mode, ?_, le_refl 0, fun _ => rfl⟩,
      .refunded _ _ hguard.1 rfl ⟨hguard.1.1, rfl⟩ rfl hhanded hrelease⟩
    have hfinal := hok.final
    simp only [TenantCreditBillingSession.prepaidConsumed, hp] at hfinal ⊢
    exact hfinal
  | some p =>
    obtain ⟨hinfo, hconsumed⟩ := refund_final (st.prepaidState p)
    have hfinal := hok.prepaid_final hp
    refine ⟨⟨?_, ?_, ?_, le_refl 0, fun _ => rfl⟩,
      .refunded _ _ hguard.1 rfl ⟨hguard.1.1, rfl⟩ rfl hhanded hrelease⟩
    · exact (congrArg (·.tenantId) hinfo).trans hok.tenant
    · exact (congrArg (·.tenantBillingMode) hinfo).trans hok.info_mode
    · exact (congrArg (·.finalPreConsumedQuota) hinfo).trans (hfinal.trans hconsumed.symm)

/-! ## Opening -/

/-- What opening a session leaves behind. -/
structure OpenedOk (tenantId : Int) (db : DB) (r : TenantOpenResult) : Prop where
  session : ∀ s, r.result = .ok (some s) → SessionOk tenantId r.info s ∧
    s.settled = false ∧ s.refunded = false ∧
    CreditEffect tenantId db r.db s.reservedPostpaidQuota 0
  failed : (∀ s, r.result ≠ .ok (some s)) → CreditEffect tenantId db r.db 0 0

/-- `Reserve` leaves the flags alone, and a settled session as a whole. -/
theorem reserve_flags (env : BillingEnv) (st : TenantSessionState) (targetQuota : Int) :
    (st.reserve env targetQuota).2.session.settled = st.session.settled ∧
      (st.reserve env targetQuota).2.session.refunded = st.session.refunded ∧
      (st.session.settled = true → (st.reserve env targetQuota).2.session.reservedPostpaidQuota =
        st.session.reservedPostpaidQuota) := by
  have hpostpaid : ∀ (st : TenantSessionState) (q : Int),
      (st.reservePostpaid q).2.session.settled = st.session.settled ∧
        (st.reservePostpaid q).2.session.refunded = st.session.refunded ∧
        (st.session.settled = true → (st.reservePostpaid q).2.session.reservedPostpaidQuota =
          st.session.reservedPostpaidQuota) := by
    intro st q
    have hdone : st.session.settled = true → st.reservePostpaid q = (none, st) := by
      intro h
      simp [TenantSessionState.reservePostpaid, h]
    obtain ⟨db, reserved, hframe⟩ := reservePostpaid_frame st q
    refine ⟨by rw [hframe], by rw [hframe], fun h => by rw [hdone h]⟩
  unfold TenantSessionState.reserve
  split
  · exact hpostpaid st _
  · split
    · exact ⟨rfl, rfl, fun _ => rfl⟩
    · exact hpostpaid _ _

theorem openPostpaid_openedOk (env : BillingEnv) {tenantId : Int} {db : DB} (quota : QuotaDB)
    {info : RelayInfo} {mode : BillingMode} (preConsumedQuota : Int) (hpos : 0 < tenantId)
    (htenant : info.tenantId = tenantId) (hmode : info.tenantBillingMode = some mode)
    (hreserved : 0 ≤ (db.credit tenantId).reserved) :
    OpenedOk tenantId db (openPostpaid env db quota info mode preConsumedQuota) := by
  unfold openPostpaid newTenantPostpaidBillingSession
  dsimp only
  generalize hst : ({ db := db, quota := quota, session := { mode := mode }, info := { info with
    billingSource := if mode = .mixed then .tenantMixed else .tenantPostpaid
    finalPreConsumedQuota := 0 } } : TenantSessionState) = st
  have hok : SessionOk tenantId st.info st.session := by
    rw [← hst]
    exact ⟨htenant, hmode, rfl, le_refl 0, nofun⟩
  have hzero : st.session.reservedPostpaidQuota = 0 := by rw [← hst]
  have hprepaid : st.session.prepaid = none := by rw [← hst]
  have hdb : st.db = db := by rw [← hst]
  obtain ⟨hok', heffect⟩ := reserve_sessionOk env hpos hok preConsumedQuota (hdb.symm ▸ hreserved)
  obtain ⟨hsettled, hrefunded, -⟩ := reserve_flags env st preConsumedQuota
  have hloss : (st.db.credit tenantId).loss
      (st.session.asked (st.reserveTarget env preConsumedQuota)) = 0 := by
    have hnn := targetPostpaidQuota_nonneg st.session preConsumedQuota
    rw [Credit.loss_eq_zero_iff, hdb]
    simp only [TenantSessionState.reserveTarget, hprepaid, TenantCreditBillingSession.asked, hzero]
    split <;> omega
  rw [hloss, hzero, sub_zero, hdb] at heffect
  cases hres : st.reserve env preConsumedQuota with
  | mk err st' =>
    rw [hres] at hok' heffect hsettled hrefunded
    cases err with
    | some e =>
      refine ⟨fun s h => by simp at h, fun _ => ?_⟩
      -- a refused reservation changes nothing
      simp only [TenantSessionState.reserve, hprepaid] at hres
      rw [(reservePostpaid_error hres).1]
      show CreditEffect tenantId db st.db 0 0
      rw [hdb]
      exact .refl hreserved
    | none =>
      refine ⟨fun s h => ?_, fun h => absurd rfl (h _)⟩
      simp only [Except.ok.injEq, Option.some.injEq] at h
      subst h
      refine ⟨hok', hsettled.trans ?_, hrefunded.trans ?_, heffect⟩
      · rw [← hst]
      · rw [← hst]

/-- `PrepareTenantBillingSession` reserves what the session it returns holds. -/
theorem prepareTenantBillingSession_openedOk (env : BillingEnv) {tenantId : Int} {db : DB}
    (quota : QuotaDB) {info : RelayInfo} (tokenQuota preConsumedQuota : Int)
    (hpos : 0 < tenantId) (htenant : info.tenantId = tenantId)
    (hreserved : 0 ≤ (db.credit tenantId).reserved) :
    OpenedOk tenantId db
      (prepareTenantBillingSession env db quota info tokenQuota preConsumedQuota) := by
  unfold prepareTenantBillingSession
  rw [if_neg (by omega)]
  dsimp only
  split
  · next hmode =>
    rw [hmode]
    exact openPostpaid_openedOk env quota preConsumedQuota hpos htenant rfl hreserved
  · next hmode =>
    rw [hmode]
    obtain ⟨htenant', hmode'⟩ := newBillingSession_sameTenant env quota
      { info with tenantBillingMode := some .mixed } tokenQuota preConsumedQuota
    split
    · next p hres =>
      refine ⟨fun s h => ?_, fun h => absurd rfl (h _)⟩
      simp only [newTenantMixedBillingSession, Except.ok.injEq, Option.some.injEq] at h
      subst h
      exact ⟨⟨htenant'.trans htenant, hmode', newBillingSession_final hres, le_refl 0, nofun⟩, rfl,
        rfl, .refl hreserved⟩
    · split
      · exact openPostpaid_openedOk env _ preConsumedQuota hpos (htenant'.trans htenant) hmode'
          hreserved
      · exact ⟨fun s h => by simp at h, fun _ => .refl hreserved⟩
  · exact ⟨fun s h => by simp at h, fun _ => .refl hreserved⟩

end TokenRouter
