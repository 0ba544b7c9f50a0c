import TokenRouter.Service.TenantStatement

/-!
# Changing a tenant's billing configuration (`SetTenantBillingConfig` in `service/tenant.go`)

`SetTenantBillingConfig` runs in no transaction: it writes the configuration row, reads
the credit account and writes the account back with all its columns. Each of these is a
step of its own here, between which other transactions may commit.
-/

namespace TokenRouter

/-- `UpsertBillingConfig`; the mode and the policy are normalised before. -/
def upsertBillingConfig (db : DB) (config : BillingConfig) : DB :=
  { db with
    configs := db.configs.upsert
      { config with paymentTerms := if config.paymentTerms ≤ 0 then 30 else config.paymentTerms } }

/-- The account that `SetTenantBillingConfig` writes: the new limit, and the amounts and
    the status of the account it has read. -/
def configuredAccount (config : BillingConfig) (existing : Option CreditAccount) :
    CreditAccount :=
  match existing with
  | none => { tenantId := config.tenantId, creditLimit := config.creditLimit }
  | some a =>
    { tenantId := config.tenantId
      creditLimit := config.creditLimit
      reservedAmount := a.reservedAmount
      unbilledAmount := a.unbilledAmount
      billedUnpaidAmount := a.billedUnpaidAmount
      overdueAmount := a.overdueAmount
      status := a.status }

/-- `UpsertCreditAccount`. -/
def upsertCreditAccount (db : DB) (account : CreditAccount) : DB :=
  db.saveAccount account.recalculate

/-- Where a `SetTenantBillingConfig` call is. -/
inductive ConfigStage where
  | started
  /-- the tenant exists -/
  | checked
  /-- the configuration row is written -/
  | configured
  /-- the account was read, `none` if there was none or the read failed -/
  | read (existing : Option CreditAccount)
  /-- the call has returned -/
  | stopped

/-- A `SetTenantBillingConfig` call. The tenant is `config.tenantId`. -/
structure ConfigCall where
  pid : Nat
  config : BillingConfig
  stage : ConfigStage := .started

/-- The steps of a call. -/
inductive ConfigEvent where
  /-- `GetTenantById` -/
  | check (found : Bool)
  /-- `UpsertBillingConfig` -/
  | writeConfig
  /-- `GetCreditAccountByTenantId`; any error of it is taken for a missing account -/
  | readAccount (failed : Bool)
  /-- `UpsertCreditAccount` -/
  | writeAccount
  /-- a statement fails, or the process is killed -/
  | stop

/-- What a step does to the database and where the call is then. A step that does not
    belong to the call's stage does nothing. -/
def ConfigCall.act (db : DB) (c : ConfigCall) : ConfigEvent → DB × ConfigStage
  | .check found =>
    match c.stage with
    | .started => (db, if 0 < c.config.tenantId ∧ found then .checked else .stopped)
    | stage => (db, stage)
  | .writeConfig =>
    match c.stage with
    | .checked => (upsertBillingConfig db c.config, .configured)
    | stage => (db, stage)
  | .readAccount failed =>
    match c.stage with
    | .configured =>
      (db, .read (if failed then none else db.accounts.find? c.config.tenantId))
    | stage => (db, stage)
  | .writeAccount =>
    match c.stage with
    | .read existing => (upsertCreditAccount db (configuredAccount c.config existing), .stopped)
    | stage => (db, stage)
  | .stop => (db, .stopped)

end TokenRouter
