import TokenRouter.Model.UsageLedger
import TokenRouter.Relay.Info

/-!
# The database tables of tenant billing and usage recording

`UsageRecordOutbox` (`model/usage_record_outbox.go`) and the record `DB` of all
tables that the tenant and usage services touch. A transaction is a function
`DB → Except String DB`: an error carries the message the source returns and
leaves the database as it was.
-/

namespace TokenRouter

/-- The `UsageRecordOutboxStatus...` constants. -/
inductive OutboxStatus where
  | pending
  | processing
  | succeeded
  | failed
  deriving DecidableEq

/-- `usage_record_outboxes`. -/
structure UsageRecordOutbox where
  id : Nat
  requestId : String
  payload : OutboxPayload
  status : OutboxStatus
  retryCount : Nat := 0
  lastError : String := ""
  nextRetryAt : Int := 0
  lockedAt : Int := 0
  deriving DecidableEq

/-- The tables of the tenant and usage services, each with one unique index.
    `usage_ledgers` and `usage_record_outboxes` have a second one, on `id` and on
    `request_id`, which their inserts compare. -/
structure DB where
  configs : Table BillingConfig (·.tenantId)
  accounts : Table CreditAccount (·.tenantId)
  statements : Table BillingStatement (·.id)
  payments : Table PaymentRecord (·.id)
  invoices : Table Invoice (·.id)
  ledgers : Table UsageLedger (·.requestId)
  aggregates : Table UsageAggregateDaily (·.key)
  outbox : Table UsageRecordOutbox (·.id)

namespace DB

/-- No row in any table. -/
def empty : DB :=
  { configs := .empty
    accounts := .empty
    statements := .empty
    payments := .empty
    invoices := .empty
    ledgers := .empty
    aggregates := .empty
    outbox := .empty }

/-- A column of the tenant's credit account, `0` when there is no account row. -/
def accountColumn (db : DB) (tenantId : Int) (column : CreditAccount → Int) : Int :=
  ((db.accounts.find? tenantId).map column).getD 0

theorem accountColumn_of_find {db : DB} {tenantId : Int} {a : CreditAccount}
    (h : db.accounts.find? tenantId = some a) (column : CreditAccount → Int) :
    db.accountColumn tenantId column = column a := by
  simp [accountColumn, h]

/-- Write a credit account row, creating it if there is none. -/
def saveAccount (db : DB) (a : CreditAccount) : DB := { db with accounts := db.accounts.upsert a }

@[simp] theorem find?_saveAccount (db : DB) (a : CreditAccount) (tenantId : Int) :
    (db.saveAccount a).accounts.find? tenantId =
      if a.tenantId = tenantId then some a else db.accounts.find? tenantId :=
  Table.find?_upsert _ _ _

theorem accountColumn_saveAccount (db : DB) (a : CreditAccount) (tenantId : Int)
    (column : CreditAccount → Int) :
    (db.saveAccount a).accountColumn tenantId column =
      if a.tenantId = tenantId then column a else db.accountColumn tenantId column := by
  simp only [accountColumn, find?_saveAccount]
  split <;> rfl

/-- Overwriting an account row changes the columns of its tenant only. -/
theorem accountColumn_set {db db' : DB} {a a' : CreditAccount} {t : Int}
    (h : db'.accounts = db.accounts.set a') (hfind : db.accounts.find? t = some a)
    (ha : a'.tenantId = a.tenantId) (tenantId : Int) (column : CreditAccount → Int) :
    db'.accountColumn tenantId column =
      if t = tenantId then column a' else db.accountColumn tenantId column := by
  have ht : a'.tenantId = t := ha.trans (Table.find?_key hfind)
  rw [← ht, ← accountColumn_saveAccount]
  rw [← ht] at hfind
  simp only [accountColumn, saveAccount, h, Table.upsert_of_find?_some hfind]

theorem accountColumn_congr {db db' : DB} (h : db'.accounts = db.accounts) (tenantId : Int)
    (column : CreditAccount → Int) :
    db'.accountColumn tenantId column = db.accountColumn tenantId column := by
  rw [accountColumn, h, accountColumn]

theorem accountColumn_of_none {db : DB} {tenantId : Int}
    (h : db.accounts.find? tenantId = none) (column : CreditAccount → Int) :
    db.accountColumn tenantId column = 0 := by
  simp [accountColumn, h]

end DB

end TokenRouter
