import TokenRouter.ForStd.Run
import TokenRouter.Spec.SessionCredit
import TokenRouter.Spec.SessionOpen
import TokenRouter.Spec.TenantRuns

/-!
# The shared credit of a tenant's requests

The requests of one postpaid or mixed tenant, each with its session, run side by side on
one credit account. The relay records a request's usage (the outbox payload) before it
settles the session at the same quota; the ledger is applied by an outbox worker at any
time after that. A failed request is refunded and its reservation released by a goroutine.

The account's reservation is what the requests hold plus what could not be taken from it
when a release or a ledger asked for more than was there. Once every request is finished
they hold nothing, so exactly these losses remain.

## Key results

- `call_callOk`: one call of one request
- `step_excess`: one step of the pool
- `reserved_zero_iff_no_loss`: when the reservation is used up at the end
- `available_nonneg_iff_covered`: when the limit holds throughout a run
-/

namespace TokenRouter

/-! ## The machine -/

/-- A request: its session, its outbox payload, the ledger that was applied for it, and
    the goroutines of its `Refund` that have not run yet. -/
structure PoolRequest where
  id : Nat
  info : RelayInfo
  session : TenantCreditBillingSession
  payload : Option OutboxPayload := none
  applied : Option UsageLedger := none
  release : Option Int := none
  refundTask : Option RefundTask := none

/-- The databases and the requests of one tenant. -/
structure CreditPool where
  db : DB
  quota : QuotaDB
  requests : Table PoolRequest (·.id)

/-- The steps of one request. -/
inductive RequestEvent where
  | reserve (targetQuota : Int)
  | record (usage : Option Usage) (sellQuota : Nat) (metadata : UsageRecordMeta)
  | settle
  | refund
  | runRelease
  | runRefund
  | apply (env : UsageEnv) (now : Timestamp)

/-- A new request or a step of an open one. -/
inductive PoolEvent where
  | prepare (id : Nat) (info : RelayInfo) (tokenQuota : Int) (preConsumedQuota : Nat)
  | call (id : Nat) (event : RequestEvent)

namespace PoolRequest

/-- What the methods of the session work on. -/
def state (db : DB) (quota : QuotaDB) (r : PoolRequest) : TenantSessionState :=
  { db := db, quota := quota, info := r.info, session := r.session }

/-- The quota the request is settled at: what was recorded, and `0` for a request whose
    upstream reported no usage. -/
def actualQuota (r : PoolRequest) : Int := (r.payload.map (·.sellQuota)).getD 0

/-- The ledger that an outbox worker makes of the payload. -/
def newLedger (env : UsageEnv) (now : Timestamp) (db : DB) (r : PoolRequest) :
    Option UsageLedger :=
  match r.payload, r.applied with
  | some p, none =>
    (newUsageLedger env db now p.toRelayInfo none p.usage p.sellQuota p.metadata).toOption
  | _, _ => none

/-- Take over what a method of the session did. -/
def returned (r : PoolRequest) (st : TenantSessionState) : DB × QuotaDB × PoolRequest :=
  (st.db, st.quota, { r with info := st.info, session := st.session })

/-- One step. The relay reserves and refunds before it has recorded usage, and records
    once; a step that the relay does not take in this state does nothing. -/
def call (env : BillingEnv) (tenantId : Int) (db : DB) (quota : QuotaDB) (r : PoolRequest) :
    RequestEvent → DB × QuotaDB × PoolRequest
  | .reserve targetQuota =>
    if r.payload.isSome then (db, quota, r)
    else r.returned ((r.state db quota).reserve env targetQuota).2
  | .record usage sellQuota metadata =>
    if r.payload.isSome || r.session.settled || r.session.refunded then (db, quota, r)
    else
      (db, quota,
        { r with payload := some (newUsageRecordOutboxPayload r.info usage sellQuota metadata) })
  | .settle => r.returned ((r.state db quota).settle r.actualQuota).2
  | .refund =>
    if r.payload.isSome then (db, quota, r)
    else
      let (st, tasks) := (r.state db quota).refund
      { r with
        release := tasks.release.or r.release
        refundTask := tasks.prepaid.or r.refundTask }.returned st
  | .runRelease =>
    match r.release with
    | none => (db, quota, r)
    | some amount =>
      (commit db (releaseTenantCredit db tenantId amount), quota, { r with release := none })
  | .runRefund =>
    match r.refundTask with
    | none => (db, quota, r)
    | some task => (db, task.run quota, { r with refundTask := none })
  | .apply uenv now =>
    match r.newLedger uenv now db with
    | none => (db, quota, r)
    | some ledger =>
      match applyTenantLedgerCreditTx db ledger with
      | .error _ => (db, quota, r)
      | .ok db' => (db', quota, { r with applied := some ledger })

/-- The postpaid quota of the applied ledger. -/
def appliedQuota (r : PoolRequest) : Int := (r.applied.map (·.postpaidQuota)).getD 0

/-- The part of the account's reservation that the request accounts for. -/
def hold (r : PoolRequest) : Int :=
  r.session.reservedPostpaidQuota + r.release.getD 0 - r.appliedQuota

/-- Settled with its ledger applied (if it has one), or refunded and released. -/
def Finished (r : PoolRequest) : Prop :=
  (r.session.settled = true ∧ r.session.refunded = false ∧
    (r.payload = none ∨ r.applied.isSome = true)) ∨
  (r.session.refunded = true ∧ r.release = none)

/-- What a step asks of the account's reservation. -/
def asked (env : BillingEnv) (db : DB) (quota : QuotaDB) (r : PoolRequest) : RequestEvent → Int
  | .reserve targetQuota =>
    if r.payload.isSome then 0
    else r.session.asked ((r.state db quota).reserveTarget env targetQuota)
  | .settle => r.session.asked (r.session.targetPostpaidQuota r.actualQuota)
  | .runRelease => r.release.getD 0
  | .apply uenv now => ((r.newLedger uenv now db).map (·.postpaidQuota)).getD 0
  | .record .. | .refund | .runRefund => 0

/-- What a step books as unbilled usage. -/
def booked (db : DB) (r : PoolRequest) : RequestEvent → Int
  | .apply uenv now => ((r.newLedger uenv now db).map (·.postpaidQuota)).getD 0
  | _ => 0

end PoolRequest

namespace CreditPool

/-- One step of the pool. -/
def step (env : BillingEnv) (tenantId : Int) (p : CreditPool) : PoolEvent → CreditPool
  | .prepare id info tokenQuota preConsumedQuota =>
    match p.requests.find? id with
    | some _ => p
    | none =>
      let r := prepareTenantBillingSession env p.db p.quota { info with tenantId := tenantId }
        tokenQuota preConsumedQuota
      match r.result with
      | .ok (some s) =>
        { db := r.db
          quota := r.quota
          requests := p.requests.insert { id := id, info := r.info, session := s } }
      | _ => { p with db := r.db, quota := r.quota }
  | .call id event =>
    match p.requests.find? id with
    | none => p
    | some r =>
      let (db, quota, r') := r.call env tenantId p.db p.quota event
      { db := db, quota := quota, requests := p.requests.set r' }

end CreditPool

/-! ## One call -/

/-- What every run keeps of a request. -/
structure RequestInv (tenantId : Int) (r : PoolRequest) : Prop where
  session : SessionOk tenantId r.info r.session
  payload : ∀ p, r.payload = some p → p.relayInfo.tenantId = tenantId ∧
    p.relayInfo.tenantBillingMode = some r.session.mode ∧
    p.relayInfo.finalPreConsumedQuota = r.session.prepaidConsumed ∧ r.session.refunded = false
  settled : r.session.settled = true → r.session.refunded = false →
    r.session.reservedPostpaidQuota = r.session.targetPostpaidQuota r.actualQuota
  applied : ∀ l, r.applied = some l → r.payload.isSome = true ∧
    l.postpaidQuota = r.session.targetPostpaidQuota r.actualQuota
  release : ∀ quota, r.release = some quota → 0 < quota ∧ r.session.refunded = true

/-- A finished request accounts for nothing. -/
theorem RequestInv.hold_of_finished {tenantId : Int} {r : PoolRequest} (h : RequestInv tenantId r)
    (hfin : r.Finished) : r.hold = 0 := by
  rcases hfin with ⟨hsettled, hrefunded, hledger⟩ | ⟨hrefunded, hrelease⟩
  · have hreserved := h.settled hsettled hrefunded
    have hrelease : r.release = none := by
      cases hrel : r.release with
      | none => rfl
      | some quota =>
        have := (h.release quota hrel).2
        rw [hrefunded] at this
        exact nomatch this
    cases happ : r.applied with
    | none =>
      -- no usage was recorded, so the session was settled at 0
      have hpayload : r.payload = none := by simpa [happ] using hledger
      have hzero : r.session.targetPostpaidQuota r.actualQuota = 0 := by
        simp [PoolRequest.actualQuota, hpayload, TenantCreditBillingSession.targetPostpaidQuota]
      simp [PoolRequest.hold, PoolRequest.appliedQuota, happ, hrelease, hreserved, hzero]
    | some l =>
      have hquota := (h.applied l happ).2
      simp [PoolRequest.hold, PoolRequest.appliedQuota, happ, hrelease, hreserved, hquota]
  · have hreserved := h.session.refunded hrefunded
    have happ : r.applied = none := by
      cases happ : r.applied with
      | none => rfl
      | some l =>
        obtain ⟨p, hp⟩ := Option.isSome_iff_exists.mp (h.applied l happ).1
        have := (h.payload p hp).2.2.2
        rw [hrefunded] at this
        exact nomatch this
    simp [PoolRequest.hold, PoolRequest.appliedQuota, happ, hrelease, hreserved]

/-- What one call of one request does to the account. -/
structure CallOk (tenantId : Int) (db : DB) (r : PoolRequest) (db' : DB) (r' : PoolRequest)
    (asked booked : Int) : Prop where
  id : r'.id = r.id
  inv : RequestInv tenantId r'
  configs : db'.configs = db.configs
  reserved : (db'.credit tenantId).reserved =
    (db.credit tenantId).reserved + (r'.hold - r.hold) + (db.credit tenantId).loss asked
  reserved_nonneg : 0 ≤ (db'.credit tenantId).reserved
  booked_eq : r'.appliedQuota = r.appliedQuota + booked
  unbilled : (db'.credit tenantId).unbilled = (db.credit tenantId).unbilled + booked
  available : BlockPolicy db tenantId → 0 ≤ (db.credit tenantId).available →
    (0 ≤ (db'.credit tenantId).available ↔
      booked ≤ (db.credit tenantId).reserved + (db.credit tenantId).available)

/-- A call that moves the reservation and books nothing. -/
theorem CallOk.of_effect {tenantId : Int} {db db' : DB} {r r' : PoolRequest} {asked change : Int}
    (hreserved : 0 ≤ (db.credit tenantId).reserved) (hid : r'.id = r.id)
    (hinv : RequestInv tenantId r') (happlied : r'.applied = r.applied)
    (hchange : r'.session.reservedPostpaidQuota + r'.release.getD 0 =
      r.session.reservedPostpaidQuota + r.release.getD 0 + change)
    (heffect : CreditEffect tenantId db db' change ((db.credit tenantId).loss asked)) :
    CallOk tenantId db r db' r' asked 0 := by
  have heq : r'.appliedQuota = r.appliedQuota := by simp [PoolRequest.appliedQuota, happlied]
  refine ⟨hid, hinv, heffect.configs, ?_, heffect.reserved_nonneg, by omega,
    by rw [heffect.unbilled, add_zero], fun hblock hav => ?_⟩
  · rw [heffect.reserved]
    simp only [PoolRequest.hold, heq]
    omega
  · have hnn := heffect.available hblock hav
    exact ⟨fun _ => by omega, fun _ => hnn⟩

/-- A call that leaves the account alone. -/
theorem CallOk.keep {tenantId : Int} {db : DB} {r r' : PoolRequest}
    (hreserved : 0 ≤ (db.credit tenantId).reserved) (hid : r'.id = r.id)
    (hinv : RequestInv tenantId r') (happlied : r'.applied = r.applied)
    (hsame : r'.session.reservedPostpaidQuota + r'.release.getD 0 =
      r.session.reservedPostpaidQuota + r.release.getD 0) :
    CallOk tenantId db r db r' 0 0 := by
  refine .of_effect hreserved hid hinv happlied (hsame.trans (add_zero _).symm) ?_
  have hzero : (db.credit tenantId).loss 0 = 0 := by
    rw [Credit.loss_eq_zero_iff]
    exact hreserved
  rw [hzero]
  exact .refl hreserved

/-- The ledger that an outbox worker makes of a payload. -/
theorem newUsageLedger_postpaid {env : UsageEnv} {db : DB} {now : Timestamp} {info : RelayInfo}
    {mode : BillingMode} {usage : Option Usage} {sellQuota : Int} {metadata : UsageRecordMeta}
    {l : UsageLedger} (hpos : 0 < info.tenantId) (hmode : info.tenantBillingMode = some mode)
    (h : newUsageLedger env db now info none usage sellQuota metadata = .ok l) :
    l.tenantId = info.tenantId ∧
      l.postpaidQuota = tenantPostpaidQuota mode sellQuota info.finalPreConsumedQuota := by
  unfold newUsageLedger at h
  split at h
  · exact nomatch h
  dsimp only at h
  split at h
  · exact nomatch h
  split at h
  · exact nomatch h
  rw [← Except.ok.inj h]
  simp [decorateTenantLedger, not_le.mpr hpos, hmode]

/-- The ledger of a request has its tenant, and the quota that the session reserves. -/
theorem RequestInv.newLedger {tenantId : Int} {r : PoolRequest} (hpos : 0 < tenantId)
    (h : RequestInv tenantId r) {env : UsageEnv} {now : Timestamp} {db : DB} {l : UsageLedger}
    (hl : r.newLedger env now db = some l) :
    r.payload.isSome = true ∧ r.applied = none ∧ l.tenantId = tenantId ∧
      l.postpaidQuota = r.session.targetPostpaidQuota r.actualQuota := by
  unfold PoolRequest.newLedger at hl
  split at hl
  · next p hp happ =>
    obtain ⟨htenant, hmode, hfinal, -⟩ := h.payload p hp
    obtain ⟨l', hl', rfl⟩ : ∃ l', newUsageLedger env db now p.toRelayInfo none p.usage p.sellQuota
        p.metadata = .ok l' ∧ l' = l := by
      cases hnew : newUsageLedger env db now p.toRelayInfo none p.usage p.sellQuota p.metadata with
      | error e => rw [hnew] at hl; exact nomatch hl
      | ok l' => rw [hnew] at hl; exact ⟨l', rfl, Option.some.inj hl⟩
    have hpos' : 0 < p.toRelayInfo.tenantId := by
      show 0 < p.relayInfo.tenantId
      omega
    obtain ⟨hlt, hlq⟩ := newUsageLedger_postpaid hpos' hmode hl'
    refine ⟨by rw [hp]; rfl, happ, hlt.trans htenant, ?_⟩
    rw [hlq, targetPostpaidQuota_eq]
    show tenantPostpaidQuota _ _ p.relayInfo.finalPreConsumedQuota = _
    simp [hfinal, PoolRequest.actualQuota, hp]
  · exact nomatch hl

/-- `Reserve` of one request. -/
theorem reserve_callOk (env : BillingEnv) {tenantId : Int} {db : DB} (quota : QuotaDB)
    {r : PoolRequest} (hpos : 0 < tenantId) (hinv : RequestInv tenantId r)
    (hreserved : 0 ≤ (db.credit tenantId).reserved) (hpayload : r.payload = none)
    (targetQuota : Int) :
    CallOk tenantId db r ((r.state db quota).reserve env targetQuota).2.db
      (r.returned ((r.state db quota).reserve env targetQuota).2).2.2
      (r.session.asked ((r.state db quota).reserveTarget env targetQuota)) 0 := by
  have hstate : SessionOk tenantId (r.state db quota).info (r.state db quota).session :=
    hinv.session
  obtain ⟨hok, heffect⟩ := reserve_sessionOk env hpos hstate targetQuota hreserved
  obtain ⟨hsettled, hrefunded, hkeep⟩ := reserve_flags env (r.state db quota) targetQuota
  have hnone : ∀ {α : Prop}, r.payload.isSome = true → α := by
    intro α h
    rw [hpayload] at h
    exact nomatch h
  refine .of_effect hreserved rfl ⟨hok, ?_, ?_, ?_, ?_⟩ rfl ?_ heffect
  · intro p hp
    exact hnone (by rw [show r.payload = some p from hp]; rfl)
  · -- a settled session without usage holds nothing
    intro hs hr
    have hzero := hinv.settled (hsettled.symm.trans hs) (hrefunded.symm.trans hr)
    have hactual : r.actualQuota = 0 := by simp [PoolRequest.actualQuota, hpayload]
    have hactual' : (r.returned ((r.state db quota).reserve env targetQuota).2).2.2.actualQuota =
        0 := hactual
    rw [hactual, targetPostpaidQuota_eq] at hzero
    rw [hactual', targetPostpaidQuota_eq]
    have := hkeep (hsettled.symm.trans hs)
    simp only [tenantPostpaidQuota, le_refl, if_true] at hzero ⊢
    exact this.trans hzero
  · intro l hl
    exact hnone (hinv.applied l hl).1
  · intro q hq
    obtain ⟨hqpos, hr⟩ := hinv.release q hq
    exact ⟨hqpos, hrefunded.trans hr⟩
  · simp only [PoolRequest.returned, PoolRequest.state]
    omega

/-- `Settle` of one request. -/
theorem settle_callOk {tenantId : Int} {db : DB} (quota : QuotaDB) {r : PoolRequest}
    (hpos : 0 < tenantId) (hinv : RequestInv tenantId r)
    (hreserved : 0 ≤ (db.credit tenantId).reserved) :
    CallOk tenantId db r ((r.state db quota).settle r.actualQuota).2.db
      (r.returned ((r.state db quota).settle r.actualQuota).2).2.2
      (r.session.asked (r.session.targetPostpaidQuota r.actualQuota)) 0 := by
  cases hs : r.session.settled with
  | true =>
    have hsame : (r.state db quota).settle r.actualQuota = (none, r.state db quota) := by
      simp [TenantSessionState.settle, PoolRequest.state, hs]
    have hasked : r.session.asked (r.session.targetPostpaidQuota r.actualQuota) = 0 := by
      simp [TenantCreditBillingSession.asked, hs]
    rw [hsame, hasked]
    exact .keep hreserved rfl hinv rfl rfl
  | false =>
    have hstate : SessionOk tenantId (r.state db quota).info (r.state db quota).session :=
      hinv.session
    obtain ⟨hok, hset, heffect⟩ := settle_sessionOk hpos hstate hs r.actualQuota hreserved
    -- the target is the same before and after
    have htarget : ∀ q, ((r.state db quota).settle r.actualQuota).2.session.targetPostpaidQuota q =
        r.session.targetPostpaidQuota q := by
      intro q
      rw [targetPostpaidQuota_eq, targetPostpaidQuota_eq, hset.mode, hset.consumed]
      rfl
    refine .of_effect hreserved rfl ⟨hok, ?_, ?_, ?_, ?_⟩ rfl ?_ heffect
    · intro p hp
      obtain ⟨h₁, h₂, h₃, h₄⟩ := hinv.payload p hp
      exact ⟨h₁, h₂.trans (congrArg some hset.mode.symm), h₃.trans hset.consumed.symm,
        hset.refunded.trans h₄⟩
    · intro hs' hr
      exact (hset.reserved hs' (hset.refunded.symm.trans hr)).trans (htarget _).symm
    · intro l hl
      obtain ⟨h₁, h₂⟩ := hinv.applied l hl
      exact ⟨h₁, h₂.trans (htarget _).symm⟩
    · intro q hq
      obtain ⟨hqpos, hr⟩ := hinv.release q hq
      exact ⟨hqpos, hset.refunded.trans hr⟩
    · simp only [PoolRequest.returned, PoolRequest.state]
      omega

/-- `Refund` of one request. -/
theorem refund_callOk {tenantId : Int} {db : DB} (quota : QuotaDB) {r : PoolRequest}
    (hpos : 0 < tenantId) (hinv : RequestInv tenantId r)
    (hreserved : 0 ≤ (db.credit tenantId).reserved) (hpayload : r.payload = none) :
    CallOk tenantId db r (r.state db quota).refund.1.db
      (({ r with
        release := (r.state db quota).refund.2.release.or r.release
        refundTask := (r.state db quota).refund.2.prepaid.or r.refundTask } :
          PoolRequest).returned (r.state db quota).refund.1).2.2 0 0 := by
  have hstate : SessionOk tenantId (r.state db quota).info (r.state db quota).session :=
    hinv.session
  obtain ⟨hok, hout⟩ := refund_sessionOk hpos hstate
  generalize (r.state db quota).refund = out at hok hout
  cases hout with
  | skipped =>
    exact .keep hreserved rfl
      ⟨hinv.session, hinv.payload, hinv.settled, hinv.applied, hinv.release⟩ rfl rfl
  | refunded st' tasks hlive hdb hdone hres hhanded hpos' =>
    have hnone : r.release = none := by
      cases hrel : r.release with
      | none => rfl
      | some q =>
        have hr := (hinv.release q hrel).2
        exact absurd (hr.symm.trans hlive.2) (by decide)
    dsimp only
    rw [hdb]
    refine .keep hreserved rfl ⟨hok, ?_, ?_, ?_, ?_⟩ rfl ?_
    · intro p hp
      rw [show r.payload = some p from hp] at hpayload
      exact nomatch hpayload
    · intro hs
      exact absurd (hs.symm.trans hdone.1) (by decide)
    · intro l hl
      have hsome := (hinv.applied l hl).1
      rw [hpayload] at hsome
      exact nomatch hsome
    · intro q hq
      have hq' : tasks.release = some q := by simpa [PoolRequest.returned, hnone] using hq
      exact ⟨hpos' q hq', hdone.2⟩
    · have hsum : tasks.release.getD 0 = r.session.reservedPostpaidQuota := hhanded
      simp only [PoolRequest.returned, hnone, Option.or_none, hres, hsum, Option.getD_none]
      omega

/-- The goroutine of `Refund` releases the reservation. -/
theorem runRelease_callOk {tenantId : Int} {db : DB} {r : PoolRequest} (hpos : 0 < tenantId)
    (hinv : RequestInv tenantId r) (hreserved : 0 ≤ (db.credit tenantId).reserved) {amount : Int}
    (hrelease : r.release = some amount) :
    CallOk tenantId db r (commit db (releaseTenantCredit db tenantId amount))
      { r with release := none } amount 0 := by
  have hamount := (hinv.release amount hrelease).1
  obtain ⟨db', hok⟩ : ∃ db', releaseTenantCredit db tenantId amount = .ok db' := by
    rcases releaseTenantCredit_cases db tenantId amount with ⟨hok, -⟩ | ⟨-, -, a, -, -, hok⟩
    · exact ⟨_, hok⟩
    · exact ⟨_, hok⟩
  obtain ⟨hconfigs, hcredit⟩ := releaseTenantCredit_credit hpos hamount hreserved hok
  rw [hok]
  have heffect : CreditEffect tenantId db db' (-amount) ((db.credit tenantId).loss amount) := by
    refine ⟨hconfigs, ?_, ?_, ?_, fun _ hav => ?_⟩
    · rw [hcredit, Credit.release_reserved]
      omega
    · rw [hcredit]
      exact Credit.release_reserved_nonneg _ _
    · rw [hcredit]
      rfl
    · rw [hcredit]
      simp only [Credit.release]
      omega
  refine .of_effect hreserved rfl ?_ rfl ?_ heffect
  · exact ⟨hinv.session, hinv.payload, hinv.settled, hinv.applied,
      fun _ h => by cases h⟩
  · simp only [hrelease, Option.getD_none, Option.getD_some]
    omega

/-- An outbox worker applies the ledger. -/
theorem apply_callOk {tenantId : Int} {db db' : DB} {r : PoolRequest} (hpos : 0 < tenantId)
    (hinv : RequestInv tenantId r) (hreserved : 0 ≤ (db.credit tenantId).reserved)
    {env : UsageEnv} {now : Timestamp} {l : UsageLedger} (hl : r.newLedger env now db = some l)
    (hok : applyTenantLedgerCreditTx db l = .ok db') :
    CallOk tenantId db r db' { r with applied := some l } l.postpaidQuota l.postpaidQuota := by
  obtain ⟨hsome, hnone, htenant, hquota⟩ := hinv.newLedger hpos hl
  have hnn : 0 ≤ l.postpaidQuota := by
    rw [hquota]
    exact targetPostpaidQuota_nonneg _ _
  obtain ⟨hconfigs, hcredit⟩ := applyTenantLedgerCreditTx_credit (htenant.symm ▸ hpos) hnn
    (htenant.symm ▸ hreserved) hok
  rw [htenant] at hcredit
  refine ⟨rfl, ⟨hinv.session, hinv.payload, hinv.settled, ?_, hinv.release⟩, hconfigs, ?_, ?_, ?_,
    ?_, fun _ hav => ?_⟩
  · intro l' hl'
    obtain rfl := Option.some.inj hl'
    exact ⟨hsome, hquota⟩
  · rw [hcredit, Credit.book_reserved]
    simp only [PoolRequest.hold, PoolRequest.appliedQuota, hnone, Option.map_none, Option.map_some,
      Option.getD_none, Option.getD_some]
    omega
  · rw [hcredit]
    exact Credit.book_reserved_nonneg _ _
  · simp [PoolRequest.appliedQuota, hnone]
  · rw [hcredit]
    rfl
  · rw [hcredit]
    exact Credit.book_available_nonneg_iff hav _

/-- One call of one request. -/
theorem call_callOk (env : BillingEnv) {tenantId : Int} {db : DB} (quota : QuotaDB)
    {r : PoolRequest} (hpos : 0 < tenantId) (hinv : RequestInv tenantId r)
    (hreserved : 0 ≤ (db.credit tenantId).reserved) (e : RequestEvent) :
    CallOk tenantId db r (r.call env tenantId db quota e).1 (r.call env tenantId db quota e).2.2
      (r.asked env db quota e) (r.booked db e) := by
  have hsame : CallOk tenantId db r db r 0 0 := .keep hreserved rfl hinv rfl rfl
  cases e with
  | reserve targetQuota =>
    simp only [PoolRequest.call, PoolRequest.asked, PoolRequest.booked]
    by_cases hp : r.payload.isSome = true
    · simp only [if_pos hp]
      exact hsame
    · simp only [if_neg hp]
      exact reserve_callOk env quota hpos hinv hreserved (by simpa using hp) targetQuota
  | record usage sellQuota metadata =>
    simp only [PoolRequest.call, PoolRequest.asked, PoolRequest.booked]
    split
    · exact hsame
    next hguard =>
    simp only [Bool.or_eq_true, not_or, Bool.not_eq_true] at hguard
    refine .keep hreserved rfl ⟨hinv.session, ?_, ?_, ?_, hinv.release⟩ rfl rfl
    · intro p hp
      obtain rfl := Option.some.inj hp
      exact ⟨hinv.session.tenant, hinv.session.info_mode, hinv.session.final, hguard.2⟩
    · intro hs
      exact absurd (hs.symm.trans hguard.1.2) (by decide)
    · intro l hl
      exact absurd ((hinv.applied l hl).1.symm.trans hguard.1.1) (by decide)
  | settle => exact settle_callOk quota hpos hinv hreserved
  | refund =>
    simp only [PoolRequest.call, PoolRequest.asked, PoolRequest.booked]
    by_cases hp : r.payload.isSome = true
    · simp only [if_pos hp]
      exact hsame
    · simp only [if_neg hp]
      exact refund_callOk quota hpos hinv hreserved (by simpa using hp)
  | runRelease =>
    simp only [PoolRequest.call, PoolRequest.asked, PoolRequest.booked]
    cases hrel : r.release with
    | none => exact hsame
    | some amount => exact runRelease_callOk hpos hinv hreserved hrel
  | runRefund =>
    simp only [PoolRequest.call, PoolRequest.asked, PoolRequest.booked]
    split
    · exact hsame
    · exact .keep hreserved rfl
        ⟨hinv.session, hinv.payload, hinv.settled, hinv.applied, hinv.release⟩ rfl rfl
  | apply uenv now =>
    simp only [PoolRequest.call, PoolRequest.asked, PoolRequest.booked]
    cases hl : r.newLedger uenv now db with
    | none => exact hsame
    | some l =>
      obtain ⟨db', hok⟩ : ∃ db', applyTenantLedgerCreditTx db l = .ok db' := by
        rcases applyTenantLedgerCreditTx_cases db l with ⟨hok, -⟩ | ⟨-, -, a, -, hok⟩
        · exact ⟨_, hok⟩
        · exact ⟨_, hok⟩
      simp only [hok]
      exact apply_callOk hpos hinv hreserved hl hok

/-! ## One step of the pool -/

namespace CreditPool

/-- What a step asks of the account's reservation. -/
def asked (env : BillingEnv) (p : CreditPool) : PoolEvent → Int
  | .prepare .. => 0
  | .call id e => ((p.requests.find? id).map fun r => r.asked env p.db p.quota e).getD 0

/-- What a step books as unbilled usage. -/
def booked (p : CreditPool) : PoolEvent → Int
  | .prepare .. => 0
  | .call id e => ((p.requests.find? id).map fun r => r.booked p.db e).getD 0

/-- The account's reservation beyond what the requests hold. -/
def excess (tenantId : Int) (p : CreditPool) : Int :=
  (p.db.credit tenantId).reserved - p.requests.sum PoolRequest.hold

end CreditPool

/-- What every run keeps. -/
structure PoolInv (tenantId : Int) (p : CreditPool) : Prop where
  reserved_nonneg : 0 ≤ (p.db.credit tenantId).reserved
  requests : ∀ r ∈ p.requests.rows, RequestInv tenantId r

/-- What one step does to the account and the requests. -/
structure StepOk (env : BillingEnv) (tenantId : Int) (p : CreditPool) (e : PoolEvent)
    (p' : CreditPool) : Prop where
  inv : PoolInv tenantId p'
  configs : p'.db.configs = p.db.configs
  excess : p'.excess tenantId =
    p.excess tenantId + (p.db.credit tenantId).loss (p.asked env e)
  unbilled : (p'.db.credit tenantId).unbilled - p'.requests.sum PoolRequest.appliedQuota =
    (p.db.credit tenantId).unbilled - p.requests.sum PoolRequest.appliedQuota
  available : BlockPolicy p.db tenantId → 0 ≤ (p.db.credit tenantId).available →
    (0 ≤ (p'.db.credit tenantId).available ↔
      p.booked e ≤ (p.db.credit tenantId).reserved + (p.db.credit tenantId).available)

/-- A step that changes the account at most within its credit, and no request. -/
theorem StepOk.of_effect {env : BillingEnv} {tenantId : Int} {p p' : CreditPool} {e : PoolEvent}
    (hinv : PoolInv tenantId p') (hasked : p.asked env e = 0) (hbooked : p.booked e = 0)
    (hreserved : 0 ≤ (p.db.credit tenantId).reserved) {change : Int}
    (heffect : CreditEffect tenantId p.db p'.db change 0)
    (hhold : p'.requests.sum PoolRequest.hold = p.requests.sum PoolRequest.hold + change)
    (happlied : p'.requests.sum PoolRequest.appliedQuota =
      p.requests.sum PoolRequest.appliedQuota) :
    StepOk env tenantId p e p' := by
  have hzero : (p.db.credit tenantId).loss 0 = 0 := by
    rw [Credit.loss_eq_zero_iff]
    exact hreserved
  refine ⟨hinv, heffect.configs, ?_, ?_, fun hblock hav => ?_⟩
  · have hres := heffect.reserved
    simp only [CreditPool.excess, hasked, hzero, hhold, hres]
    omega
  · rw [heffect.unbilled, happlied]
  · have hnn := heffect.available hblock hav
    rw [hbooked]
    exact ⟨fun _ => by omega, fun _ => hnn⟩

/-- A request with a new session. -/
theorem requestInv_of_opened {tenantId : Int} {info : RelayInfo} {s : TenantCreditBillingSession}
    (hok : SessionOk tenantId info s) (hsettled : s.settled = false) (id : Nat) :
    RequestInv tenantId { id := id, info := info, session := s } := by
  refine ⟨hok, ?_, ?_, ?_, ?_⟩
  · intro p hp
    exact nomatch hp
  · intro h
    rw [hsettled] at h
    exact nomatch h
  · intro l hl
    exact nomatch hl
  · intro q hq
    exact nomatch hq

/-- A new request. -/
theorem prepare_stepOk (env : BillingEnv) {tenantId : Int} (hpos : 0 < tenantId) {p : CreditPool}
    (hinv : PoolInv tenantId p) (id : Nat) (info : RelayInfo) (tokenQuota : Int)
    (preConsumedQuota : Nat) :
    StepOk env tenantId p (.prepare id info tokenQuota preConsumedQuota)
      (p.step env tenantId (.prepare id info tokenQuota preConsumedQuota)) := by
  have hreserved := hinv.reserved_nonneg
  simp only [CreditPool.step]
  cases hfind : p.requests.find? id with
  | some r => exact .of_effect hinv rfl rfl hreserved (.refl hreserved) (add_zero _).symm rfl
  | none =>
    have htenant : ({ info with tenantId := tenantId } : RelayInfo).tenantId = tenantId := rfl
    have hopen := prepareTenantBillingSession_openedOk env p.quota tokenQuota preConsumedQuota hpos
      htenant hreserved
    dsimp only
    generalize prepareTenantBillingSession env p.db p.quota { info with tenantId := tenantId }
      tokenQuota preConsumedQuota = r at hopen
    split
    · next s hs =>
      obtain ⟨hok, hsettled, -, heffect⟩ := hopen.session s hs
      generalize hnew : ({ id := id, info := r.info, session := s } : PoolRequest) = new
      have hnewInv : RequestInv tenantId new := hnew ▸ requestInv_of_opened hok hsettled id
      have hfresh : p.requests.find? new.id = none := by
        rw [← hnew]
        exact hfind
      refine .of_effect ⟨heffect.reserved_nonneg, ?_⟩ rfl rfl hreserved heffect ?_ ?_
      · intro x hx
        rcases (Table.mem_insert hfresh).mp hx with hold | hx
        · exact hinv.requests x hold
        · rw [hx]
          exact hnewInv
      · rw [Table.sum_insert hfresh, ← hnew]
        simp [PoolRequest.hold, PoolRequest.appliedQuota]
      · rw [Table.sum_insert hfresh, ← hnew]
        simp [PoolRequest.appliedQuota]
    · next hne =>
      have heffect := hopen.failed fun s hs => hne s hs
      exact .of_effect ⟨heffect.reserved_nonneg, hinv.requests⟩ rfl rfl hreserved heffect
        (add_zero _).symm rfl

/-- One step of the pool. -/
theorem step_stepOk (env : BillingEnv) {tenantId : Int} (hpos : 0 < tenantId) {p : CreditPool}
    (hinv : PoolInv tenantId p) (e : PoolEvent) :
    StepOk env tenantId p e (p.step env tenantId e) := by
  have hreserved := hinv.reserved_nonneg
  cases e with
  | prepare id info tokenQuota preConsumedQuota =>
    exact prepare_stepOk env hpos hinv id info tokenQuota preConsumedQuota
  | call id e =>
    simp only [CreditPool.step]
    cases hfind : p.requests.find? id with
    | none =>
      refine .of_effect hinv ?_ ?_ hreserved (.refl hreserved) (add_zero _).symm rfl
      · simp [CreditPool.asked, hfind]
      · simp [CreditPool.booked, hfind]
    | some r =>
      have hr := hinv.requests r (Table.find?_mem hfind)
      have hcall := call_callOk env p.quota hpos hr hreserved e
      have hasked : p.asked env (.call id e) = r.asked env p.db p.quota e := by
        simp [CreditPool.asked, hfind]
      have hbooked : p.booked (.call id e) = r.booked p.db e := by
        simp [CreditPool.booked, hfind]
      dsimp only
      generalize r.call env tenantId p.db p.quota e = out at hcall
      have hkey : p.requests.find? out.2.2.id = some r := by
        rw [hcall.id, Table.find?_key hfind]
        exact hfind
      refine ⟨⟨hcall.reserved_nonneg, ?_⟩, hcall.configs, ?_, ?_, ?_⟩
      · intro x hx
        rcases Table.mem_set hx with hx | ⟨hold, -⟩
        · rw [hx]
          exact hcall.inv
        · exact hinv.requests x hold
      · have hres := hcall.reserved
        simp only [CreditPool.excess, hasked, Table.sum_set PoolRequest.hold hkey, hres]
        omega
      · have hb := hcall.booked_eq
        have hu := hcall.unbilled
        simp only [Table.sum_set PoolRequest.appliedQuota hkey, hu]
        omega
      · rw [hbooked]
        exact hcall.available

/-! ## Whole runs -/

theorem DB.credit_reserved (db : DB) (tenantId : Int) :
    (db.credit tenantId).reserved = db.accountColumn tenantId (·.reservedAmount) :=
  column_find?_getD db tenantId _ (·.reservedAmount) rfl

theorem DB.credit_unbilled (db : DB) (tenantId : Int) :
    (db.credit tenantId).unbilled = db.accountColumn tenantId (·.unbilledAmount) :=
  column_find?_getD db tenantId _ (·.unbilledAmount) rfl

/-- The account's reservation covers what the step asks of it. -/
def NoLoss (env : BillingEnv) (tenantId : Int) (p : CreditPool) (e : PoolEvent) : Prop :=
  p.asked env e ≤ p.db.accountColumn tenantId (·.reservedAmount)

instance (env : BillingEnv) (tenantId : Int) (p : CreditPool) (e : PoolEvent) :
    Decidable (NoLoss env tenantId p e) :=
  inferInstanceAs (Decidable (_ ≤ _))

instance (r : PoolRequest) : Decidable r.Finished :=
  inferInstanceAs (Decidable (_ ∨ _))

/-- An excess never shrinks, and grows exactly by a loss. -/
theorem step_excess (env : BillingEnv) {tenantId : Int} (hpos : 0 < tenantId) {p : CreditPool}
    (hinv : PoolInv tenantId p) (e : PoolEvent) :
    p.excess tenantId ≤ (p.step env tenantId e).excess tenantId ∧
      ((p.step env tenantId e).excess tenantId = p.excess tenantId ↔
        NoLoss env tenantId p e) := by
  have hstep := (step_stepOk env hpos hinv e).excess
  have hnn := (p.db.credit tenantId).loss_nonneg (p.asked env e)
  rw [NoLoss, ← DB.credit_reserved, ← Credit.loss_eq_zero_iff, hstep]
  omega

/-- A pool without requests. -/
theorem poolInv_of_empty {tenantId : Int} {p : CreditPool} (hempty : p.requests = .empty)
    (hreserved : p.db.accountColumn tenantId (·.reservedAmount) = 0) :
    PoolInv tenantId p ∧ p.excess tenantId = 0 := by
  rw [← DB.credit_reserved] at hreserved
  refine ⟨⟨hreserved.ge, ?_⟩, ?_⟩
  · rw [hempty]
    intro r hr
    exact absurd hr List.not_mem_nil
  · simp [CreditPool.excess, hreserved, hempty]

/-- The unbilled amount is the postpaid quota of the applied ledgers at any time. -/
theorem run_unbilled (env : BillingEnv) {tenantId : Int} (hpos : 0 < tenantId) {p₀ : CreditPool}
    (hinv₀ : PoolInv tenantId p₀) (hempty : p₀.requests = .empty)
    (hunbilled : p₀.db.accountColumn tenantId (·.unbilledAmount) = 0) (es : List PoolEvent) :
    (Run.run (CreditPool.step env tenantId) p₀ es).db.accountColumn tenantId (·.unbilledAmount) =
      (Run.run (CreditPool.step env tenantId) p₀ es).requests.sum PoolRequest.appliedQuota := by
  have hstep : ∀ (p : CreditPool) (e : PoolEvent),
      PoolInv tenantId p ∧ (p.db.credit tenantId).unbilled -
        p.requests.sum PoolRequest.appliedQuota = 0 →
      PoolInv tenantId (p.step env tenantId e) ∧
        ((p.step env tenantId e).db.credit tenantId).unbilled -
          (p.step env tenantId e).requests.sum PoolRequest.appliedQuota = 0 := by
    intro p e h
    have hok := step_stepOk env hpos h.1 e
    exact ⟨hok.inv, hok.unbilled.trans h.2⟩
  rw [← DB.credit_unbilled] at hunbilled
  have hstart : (p₀.db.credit tenantId).unbilled - p₀.requests.sum PoolRequest.appliedQuota = 0 := by
    simp [hunbilled, hempty]
  have hend := (Run.run_inv hstep ⟨hinv₀, hstart⟩ es).2
  rw [← DB.credit_unbilled]
  omega

/-- Once every request of the tenant is finished, the unbilled amount is the postpaid
    quota of the applied ledgers, and the reservation is used up if and only if no step
    asked more of it than was there. -/
theorem reservation_used_up_iff_no_loss (env : BillingEnv) (tenantId : Int) (hpos : 0 < tenantId)
    (p₀ : CreditPool) (hempty : p₀.requests = .empty)
    (hreserved : p₀.db.accountColumn tenantId (·.reservedAmount) = 0)
    (hunbilled : p₀.db.accountColumn tenantId (·.unbilledAmount) = 0) (es : List PoolEvent)
    (p : CreditPool) (hp : p = Run.run (CreditPool.step env tenantId) p₀ es)
    (hfin : ∀ r ∈ p.requests.rows, r.Finished) :
    (p.db.accountColumn tenantId (·.reservedAmount) = 0 ∧
        p.db.accountColumn tenantId (·.unbilledAmount) =
          p.requests.sum PoolRequest.appliedQuota) ↔
      Run.Steps (CreditPool.step env tenantId) (NoLoss env tenantId) p₀ es := by
  obtain ⟨hinv₀, hexcess₀⟩ := poolInv_of_empty hempty hreserved
  have hkeep : ∀ p e, PoolInv tenantId p → PoolInv tenantId (p.step env tenantId e) :=
    fun p e h => (step_stepOk env hpos h e).inv
  have hinv : PoolInv tenantId p := hp ▸ Run.run_inv hkeep hinv₀ es
  -- finished requests hold nothing, so the reservation is the excess
  have hhold : p.requests.sum PoolRequest.hold = 0 :=
    Table.sum_eq_zero _ fun r hr => (hinv.requests r hr).hold_of_finished (hfin r hr)
  have hfinal : p.db.accountColumn tenantId (·.reservedAmount) = p.excess tenantId := by
    rw [← DB.credit_reserved, CreditPool.excess, hhold, sub_zero]
  have hbooked : p.db.accountColumn tenantId (·.unbilledAmount) =
      p.requests.sum PoolRequest.appliedQuota := by
    rw [hp]
    exact run_unbilled env hpos hinv₀ hempty hunbilled es
  -- the excess is 0 at the end exactly if it is 0 throughout
  have hthroughout : Run.Always (CreditPool.step env tenantId) (·.excess tenantId = 0) p₀ es ↔
      Run.Steps (CreditPool.step env tenantId) (NoLoss env tenantId) p₀ es := by
    apply Run.always_iff_steps hkeep _ hinv₀ hexcess₀
    intro p e hinv hzero
    rw [← (step_excess env hpos hinv e).2, hzero]
  rw [hfinal, and_iff_left hbooked, ← hthroughout]
  constructor
  · intro hzero
    have hmono : ∀ p e, PoolInv tenantId p ∧ 0 ≤ p.excess tenantId →
        PoolInv tenantId (p.step env tenantId e) ∧ 0 ≤ (p.step env tenantId e).excess tenantId :=
      fun p e h => ⟨hkeep p e h.1, h.2.trans (step_excess env hpos h.1 e).1⟩
    apply Run.always_of_last_of hmono _ ⟨hinv₀, hexcess₀.ge⟩ (hp ▸ hzero)
    intro p e h hnext
    have hle := (step_excess env hpos h.1 e).1
    have hnn := h.2
    omega
  · intro hall
    rw [hp]
    exact hall.last

/-- The configuration of a postpaid tenant that is blocked at its credit limit. -/
def postpaidConfig (creditLimit : Int) : BillingConfig :=
  { tenantId := 7
    billingMode := .postpaid
    paymentTerms := 30
    creditLimit := creditLimit
    overCreditPolicy := .block }

/-- The pool of that tenant before its first request. -/
def postpaidPool (creditLimit : Int) : CreditPool :=
  { db := { DB.empty with configs := ⟨[postpaidConfig creditLimit], List.nodup_singleton _⟩ }
    quota := { users := .empty, tokens := .empty, subscriptions := .empty, records := .empty }
    requests := .empty }

/-- The steps of a request that reserves 100 and is billed at `quota`, its ledger applied
    before or after it is settled. -/
def billedRequest (id : Nat) (requestId : String) (quota : Nat) (ledgerFirst : Bool) :
    List PoolEvent :=
  [.prepare id { requestId := requestId } 0 100,
    .call id (.record none quota { requestId := requestId, createdAt := 5 })] ++
  if ledgerFirst then [.call id (.apply plainUsageEnv ⟨9, by decide⟩), .call id .settle]
  else [.call id .settle, .call id (.apply plainUsageEnv ⟨9, by decide⟩)]

/-- One request billed below its reservation and one that is refunded. -/
theorem reservation_used_up_eighty :
    let es := billedRequest 1 "a" 80 true ++
      [.prepare 2 { requestId := "b" } 0 100, .call 2 .refund, .call 2 .runRelease]
    let p := Run.run (CreditPool.step plainEnv 7) (postpaidPool 1000) es
    p.db.accountColumn 7 (·.reservedAmount) = 0 ∧
      p.db.accountColumn 7 (·.unbilledAmount) = p.requests.sum PoolRequest.appliedQuota :=
  (reservation_used_up_iff_no_loss plainEnv 7 (by decide) (postpaidPool 1000) rfl (by decide)
    (by decide) _ _ rfl (by decide)).mpr (by decide)

/-- A ledger of 150 that is applied before its request is settled uses up the reservation
    of 100; `Settle` then reserves another 50 that nothing will use. -/
theorem ledger_before_settle_leaks :
    let p := Run.run (CreditPool.step plainEnv 7) (postpaidPool 1000)
      (billedRequest 1 "a" 150 true)
    (∀ r ∈ p.requests.rows, r.Finished) ∧ p.db.accountColumn 7 (·.reservedAmount) = 50 ∧
      (Run.run (CreditPool.step plainEnv 7) (postpaidPool 1000)
        (billedRequest 1 "a" 150 false)).db.accountColumn 7 (·.reservedAmount) = 0 := by
  decide

end TokenRouter

/-! ## The credit limit of a blocked tenant

With the policy `block` a reservation is refused when it exceeds the available credit, so
`Reserve`, `Settle` and `Refund` never bring the available credit below zero. A ledger is
booked without that check: usage that was served is owed. The available credit stays
non-negative exactly as long as each ledger is covered by what is reserved and available
when it is applied.
-/

namespace TokenRouter

/-- The ledger that an outbox worker applies is covered by the reservation and the
    available credit; no other step is restricted. -/
def Covered (tenantId : Int) (p : CreditPool) : PoolEvent → Prop
  | .call id (.apply env now) =>
    p.booked (.call id (.apply env now)) ≤
      (p.db.creditAccount tenantId).reservedAmount + (p.db.creditAccount tenantId).available
  | _ => True

instance (tenantId : Int) (p : CreditPool) (e : PoolEvent) : Decidable (Covered tenantId p e) :=
  match e with
  | .call _ (.apply _ _) => inferInstanceAs (Decidable (_ ≤ _))
  | .prepare .. | .call _ (.reserve _) | .call _ (.record ..) | .call _ .settle
  | .call _ .refund | .call _ .runRelease | .call _ .runRefund => inferInstanceAs (Decidable True)

/-- Only applying a ledger books anything. -/
theorem booked_of_not_apply {p : CreditPool} {e : PoolEvent}
    (h : ∀ id env now, e ≠ .call id (.apply env now)) : p.booked e = 0 := by
  cases e with
  | prepare id info tokenQuota preConsumedQuota => rfl
  | call id e =>
    have hzero : ∀ r : PoolRequest, r.booked p.db e = 0 := by
      intro r
      cases e with
      | apply env now => exact absurd rfl (h id env now)
      | reserve _ | record _ _ _ | settle | refund | runRelease | runRefund => rfl
    cases hfind : p.requests.find? id with
    | none => simp [CreditPool.booked, hfind]
    | some r => simp [CreditPool.booked, hfind, hzero]

/-- A step that is not a ledger books nothing, and is covered. -/
theorem covered_iff {tenantId : Int} {p : CreditPool} (e : PoolEvent)
    (hreserved : 0 ≤ (p.db.credit tenantId).reserved)
    (hav : 0 ≤ (p.db.credit tenantId).available) :
    Covered tenantId p e ↔
      p.booked e ≤ (p.db.credit tenantId).reserved + (p.db.credit tenantId).available := by
  by_cases h : ∃ id env now, e = .call id (.apply env now)
  · obtain ⟨id, env, now, rfl⟩ := h
    rfl
  · simp only [not_exists] at h
    rw [booked_of_not_apply h]
    have hcovered : Covered tenantId p e := by
      unfold Covered
      split
      · next id env now => exact absurd rfl (h id env now)
      · trivial
    exact ⟨fun _ => by omega, fun _ => hcovered⟩

/-- The available credit of a blocked tenant stays non-negative throughout a run of its
    requests if and only if every ledger is covered when it is applied. -/
theorem available_nonneg_iff_covered (env : BillingEnv) (tenantId : Int) (hpos : 0 < tenantId)
    (p₀ : CreditPool) (hempty : p₀.requests = .empty) (hblock : BlockPolicy p₀.db tenantId)
    (hreserved : 0 ≤ (p₀.db.creditAccount tenantId).reservedAmount)
    (hav : 0 ≤ (p₀.db.creditAccount tenantId).available) (es : List PoolEvent) :
    Run.Always (CreditPool.step env tenantId)
        (fun p => 0 ≤ (p.db.creditAccount tenantId).available) p₀ es ↔
      Run.Steps (CreditPool.step env tenantId) (Covered tenantId) p₀ es := by
  have hinv₀ : PoolInv tenantId p₀ ∧ BlockPolicy p₀.db tenantId := by
    refine ⟨⟨hreserved, ?_⟩, hblock⟩
    rw [hempty]
    intro r hr
    exact absurd hr List.not_mem_nil
  have hkeep : ∀ (p : CreditPool) (e : PoolEvent),
      PoolInv tenantId p ∧ BlockPolicy p.db tenantId →
      PoolInv tenantId (p.step env tenantId e) ∧
        BlockPolicy (p.step env tenantId e).db tenantId := by
    intro p e h
    have hok := step_stepOk env hpos h.1 e
    refine ⟨hok.inv, fun config hconfig => ?_⟩
    rw [hok.configs] at hconfig
    exact h.2 config hconfig
  apply Run.always_iff_steps hkeep _ hinv₀ hav
  intro p e h hnn
  rw [covered_iff e h.1.reserved_nonneg hnn]
  exact (step_stepOk env hpos h.1 e).available h.2 hnn

/-- A request billed below its reservation. -/
theorem available_nonneg_eighty :
    Run.Always (CreditPool.step plainEnv 7) (fun p => 0 ≤ (p.db.creditAccount 7).available)
      (postpaidPool 100) (billedRequest 1 "a" 80 true) :=
  (available_nonneg_iff_covered plainEnv 7 (by decide) (postpaidPool 100) rfl
    (by simp [BlockPolicy, postpaidPool, postpaidConfig, Table.find?]) (by decide) (by decide)
    _).mpr (by decide)

/-- A request with a reservation of 100 within the limit of 100 is billed at 150: `Settle`
    refuses, but the ledger is booked. -/
theorem ledger_exceeds_limit :
    BlockPolicy (postpaidPool 100).db 7 ∧
      0 ≤ ((postpaidPool 100).db.creditAccount 7).available ∧
      ((Run.run (CreditPool.step plainEnv 7) (postpaidPool 100)
        (billedRequest 1 "a" 150 false)).db.creditAccount 7).available = -50 :=
  ⟨by simp [BlockPolicy, postpaidPool, postpaidConfig, Table.find?], by decide, by decide⟩

end TokenRouter
