import TokenRouter.Service.BillingSession
import TokenRouter.Service.TenantCredit

/-!
# Tenant billing sessions (`service/tenant.go`)

The session of a postpaid or mixed tenant's request: a reservation on the tenant's
credit, and in mixed mode a prepaid `BillingSession` that is charged first. Both work
on the same `RelayInfo`. A method maps one `TenantSessionState` to the next; what
`Refund` leaves to goroutines is returned as tasks.
-/

namespace TokenRouter

/-- `TenantCreditBillingSession`, without the pointer to the `RelayInfo`. -/
structure TenantCreditBillingSession where
  prepaid : Option BillingSession := none
  mode : BillingMode
  reservedPostpaidQuota : Int := 0
  settled : Bool := false
  refunded : Bool := false
  deriving DecidableEq

/-- What the methods of a tenant session read and write. -/
structure TenantSessionState where
  db : DB
  quota : QuotaDB
  info : RelayInfo
  session : TenantCreditBillingSession

/-- The goroutines that `Refund` starts: the release of a reservation and the refund of
    the prepaid session. -/
structure TenantRefundTasks where
  release : Option Int := none
  prepaid : Option RefundTask := none

namespace TenantCreditBillingSession

/-- `prepaidConsumedLocked`, which is also `GetPreConsumedQuota`. -/
def prepaidConsumed (s : TenantCreditBillingSession) : Int :=
  match s.prepaid with
  | none => 0
  | some p => p.preConsumedQuota

/-- `targetPostpaidQuotaLocked`. -/
def targetPostpaidQuota (s : TenantCreditBillingSession) (actualQuota : Int) : Int :=
  if actualQuota ≤ 0 then 0 else tenantPostpaidQuota s.mode actualQuota s.prepaidConsumed

/-- `needsRefundLocked`. -/
def needsRefund (s : TenantCreditBillingSession) : Bool :=
  if s.settled || s.refunded then false
  else if 0 < s.reservedPostpaidQuota then true
  else
    match s.prepaid with
    | none => false
    | some p => p.needsRefund

end TenantCreditBillingSession

/-- `NewTenantPostpaidBillingSession`, with the request it marks. -/
def newTenantPostpaidBillingSession (info : RelayInfo) (mode : BillingMode) :
    TenantCreditBillingSession × RelayInfo :=
  ({ mode := mode },
    { info with
      billingSource := if mode = .mixed then .tenantMixed else .tenantPostpaid
      finalPreConsumedQuota := 0 })

/-- `NewTenantMixedBillingSession`, with the request it marks. -/
def newTenantMixedBillingSession (info : RelayInfo) (prepaid : BillingSession) :
    TenantCreditBillingSession × RelayInfo :=
  ({ prepaid := some prepaid, mode := .mixed }, { info with billingSource := .tenantMixed })

namespace TenantSessionState

/-- The state that the prepaid session works on. -/
def prepaidState (st : TenantSessionState) (p : BillingSession) : SessionState :=
  { db := st.quota, info := st.info, session := p }

/-- Take over what the prepaid session did. -/
def withPrepaid (st : TenantSessionState) (p : SessionState) : TenantSessionState :=
  { st with
    quota := p.db
    info := p.info
    session := { st.session with prepaid := some p.session } }

/-- `reservePostpaid`: grow or shrink the reservation to the target. -/
def reservePostpaid (st : TenantSessionState) (targetQuota : Int) :
    Option String × TenantSessionState :=
  if st.info.tenantId ≤ 0 then (none, st)
  else
    let target := if targetQuota < 0 then 0 else targetQuota
    let current := st.session.reservedPostpaidQuota
    if st.session.settled || st.session.refunded then (none, st)
    else if target = current then (none, st)
    else
      match (if current < target then
          reserveTenantCredit st.db st.info.tenantId (target - current)
        else releaseTenantCredit st.db st.info.tenantId (current - target)) with
      | .error e => (some e, st)
      | .ok db =>
        (none, { st with
          db := db
          session := { st.session with reservedPostpaidQuota := target } })

/-- `TenantCreditBillingSession.Settle`, with the error it returns. -/
def settle (st : TenantSessionState) (actualQuota : Int) : Option String × TenantSessionState :=
  if st.session.settled then (none, st)
  else
    let preConsumed := st.session.prepaidConsumed
    let targetPostpaid := st.session.targetPostpaidQuota actualQuota
    let currentReserved := st.session.reservedPostpaidQuota
    match st.reservePostpaid targetPostpaid with
    | (some e, st) => (some e, st)
    | (none, st) =>
      match st.session.prepaid with
      | none => (none, { st with session := { st.session with settled := true } })
      | some p =>
        let target := if actualQuota ≤ preConsumed then actualQuota else preConsumed
        match (st.prepaidState p).settle target with
        | (some e, p) =>
          let st := st.withPrepaid p
          -- the reservation is put back; an error of that is ignored
          if targetPostpaid ≠ currentReserved then (some e, (st.reservePostpaid currentReserved).2)
          else (some e, st)
        | (none, p) =>
          let st := st.withPrepaid p
          (none, { st with session := { st.session with settled := true } })

/-- `TenantCreditBillingSession.Refund`, with the goroutines it starts. -/
def refund (st : TenantSessionState) : TenantSessionState × TenantRefundTasks :=
  let s := st.session
  if s.settled || s.refunded || !s.needsRefund then (st, {})
  else
    let reserved := s.reservedPostpaidQuota
    let release := if 0 < reserved ∧ 0 < st.info.tenantId then some reserved else none
    let st := { st with session := { s with refunded := true, reservedPostpaidQuota := 0 } }
    match s.prepaid with
    | none => (st, { release := release })
    | some p =>
      let (p, task) := (st.prepaidState p).refund
      (st.withPrepaid p, { release := release, prepaid := task })

/-- `TenantCreditBillingSession.Reserve`, with the error it returns. -/
def reserve (env : BillingEnv) (st : TenantSessionState) (targetQuota : Int) :
    Option String × TenantSessionState :=
  match st.session.prepaid with
  | none => st.reservePostpaid (st.session.targetPostpaidQuota targetQuota)
  | some p =>
    match (st.prepaidState p).reserve env targetQuota with
    | (some e, p) => (some e.message, st.withPrepaid p)
    | (none, p) =>
      let st := st.withPrepaid p
      st.reservePostpaid (st.session.targetPostpaidQuota targetQuota)

end TenantSessionState

/-! ## Creation -/

/-- The outcome of `PrepareTenantBillingSession`: no session for a prepaid tenant, the
    session, or the error; and what was left in the request and the databases. -/
structure TenantOpenResult where
  result : Except NewAPIError (Option TenantCreditBillingSession)
  info : RelayInfo
  quota : QuotaDB
  db : DB

/-- Reserve the estimate for a session that only uses the tenant's credit. -/
def openPostpaid (env : BillingEnv) (db : DB) (quota : QuotaDB) (info : RelayInfo)
    (mode : BillingMode) (preConsumedQuota : Int) : TenantOpenResult :=
  let (s, info) := newTenantPostpaidBillingSession info mode
  let st : TenantSessionState := { db := db, quota := quota, info := info, session := s }
  match st.reserve env preConsumedQuota with
  | (some e, st) => ⟨.error ⟨.insufficientUserQuota, e⟩, st.info, st.quota, st.db⟩
  | (none, st) => ⟨.ok (some st.session), st.info, st.quota, st.db⟩

/-- `PrepareTenantBillingSession`. -/
def prepareTenantBillingSession (env : BillingEnv) (db : DB) (quota : QuotaDB) (info : RelayInfo)
    (tokenQuota : Int) (preConsumedQuota : Int) : TenantOpenResult :=
  if info.tenantId ≤ 0 then ⟨.ok none, info, quota, db⟩
  else
    let mode := tenantBillingMode db info.tenantId
    let info := { info with tenantBillingMode := some mode }
    match mode with
    | .postpaid => openPostpaid env db quota info mode preConsumedQuota
    | .mixed =>
      let r := newBillingSession env quota info tokenQuota preConsumedQuota
      match r.result with
      | .ok p =>
        let (s, info) := newTenantMixedBillingSession r.info p
        ⟨.ok (some s), info, r.db, db⟩
      | .error e =>
        -- without prepaid quota the request goes on the tenant's credit as a whole
        if e.code = .insufficientUserQuota ∨ e.code = .preConsumeTokenQuotaFailed then
          openPostpaid env db r.db r.info mode preConsumedQuota
        else ⟨.error e, r.info, r.db, db⟩
    | .prepaid => ⟨.ok none, info, quota, db⟩

end TokenRouter
