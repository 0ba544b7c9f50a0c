import TokenRouter.Model.DB

/-!
# Tenant credit transactions (`service/tenant.go`)

`ReserveTenantCredit`, `ReleaseTenantCredit` and `applyTenantLedgerCreditTx`,
each the body of one database transaction.
-/

namespace TokenRouter

/-- gorm's `ErrRecordNotFound`. -/
def errRecordNotFound : String := "record not found"

/-- `TenantPostpaidQuota`: what of a sale goes on the tenant's credit. -/
def tenantPostpaidQuota (mode : BillingMode) (sellQuota prepaidConsumed : Int) : Int :=
  if sellQuota ≤ 0 then 0
  else
    match mode with
    | .postpaid => sellQuota
    | .mixed => if prepaidConsumed < sellQuota then sellQuota - prepaidConsumed else 0
    | .prepaid => 0

/-- `TenantBillingMode`. -/
def tenantBillingMode (db : DB) (tenantId : Int) : BillingMode :=
  if tenantId ≤ 0 then .prepaid
  else
    match db.configs.find? tenantId with
    | none => .prepaid
    | some config => config.billingMode

/-- The message of a reservation that the account refuses because of its status. -/
def errAccountStatus (tenantId : Int) (status : CreditAccountStatus) : String :=
  "tenant " ++ toString tenantId ++ " credit account is " ++ status.text

/-- The message of a reservation above the available credit. -/
def errCreditInsufficient (tenantId available required : Int) : String :=
  "tenant " ++ toString tenantId ++ " credit quota insufficient, available=" ++
    toString available ++ ", required=" ++ toString required

/-- `ReserveTenantCredit`. -/
def reserveTenantCredit (db : DB) (tenantId quota : Int) : Except String DB :=
  if tenantId ≤ 0 ∨ quota ≤ 0 then .ok db
  else
    match db.configs.find? tenantId with
    | none => .error errRecordNotFound
    | some config =>
      let account := (db.accounts.find? tenantId).getD
        { tenantId := tenantId, creditLimit := config.creditLimit }
      if account.status ≠ .active then .error (errAccountStatus tenantId account.status)
      else if config.overCreditPolicy = .block ∧ account.available < quota then
        .error (errCreditInsufficient tenantId account.available quota)
      else
        .ok (db.saveAccount
          { account with reservedAmount := account.reservedAmount + quota }.recalculate)

/-- `ReleaseTenantCredit`: at most what is reserved is released. -/
def releaseTenantCredit (db : DB) (tenantId quota : Int) : Except String DB :=
  if tenantId ≤ 0 ∨ quota ≤ 0 then .ok db
  else
    match db.accounts.find? tenantId with
    | none => .ok db
    | some account =>
      let release := min account.reservedAmount quota
      if release ≤ 0 then .ok db
      else
        .ok (db.saveAccount
          { account with reservedAmount := account.reservedAmount - release }.recalculate)

/-- `applyTenantLedgerCreditTx`. The row count check after the update never fails:
    the row was read or created in the same transaction. -/
def applyTenantLedgerCreditTx (db : DB) (ledger : UsageLedger) : Except String DB :=
  if ledger.tenantId ≤ 0 ∨ ledger.postpaidQuota ≤ 0 then .ok db
  else
    let limit := ((db.configs.find? ledger.tenantId).map (·.creditLimit)).getD 0
    let account := (db.accounts.find? ledger.tenantId).getD
      { tenantId := ledger.tenantId, creditLimit := limit }
    let consumeReserved := min account.reservedAmount ledger.postpaidQuota
    .ok (db.saveAccount
      { account with
        reservedAmount := account.reservedAmount - consumeReserved
        unbilledAmount := account.unbilledAmount + ledger.postpaidQuota }.recalculate)

/-- `ApplyTenantLedgerCredit`. -/
def applyTenantLedgerCredit (db : DB) (ledger : UsageLedger) : Except String DB :=
  if ledger.tenantId ≤ 0 ∨ ledger.postpaidQuota ≤ 0 then .ok db
  else applyTenantLedgerCreditTx db ledger

end TokenRouter
