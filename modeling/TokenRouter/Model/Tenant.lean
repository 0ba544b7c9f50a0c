import TokenRouter.ForStd.Table

/-!
# Tenant billing tables (`model/tenant.go`)

The rows that tenant billing reads and writes. Quota and money columns are
`int64` in the source; they are `Int` here. The audit columns `created_at` and
`updated_at` are left out: no function modelled here reads them.
-/

namespace TokenRouter

/-- `BillingModePrepaid`, `BillingModePostpaid`, `BillingModeMixed`. The tables
    hold normalised modes only (`normalizeBillingMode` runs before each write). -/
inductive BillingMode where
  | prepaid
  | postpaid
  | mixed
  deriving DecidableEq

/-- The values of `normalizeOverCreditPolicy`. -/
inductive OverCreditPolicy where
  | block
  | warn
  | allow
  | manualReview
  deriving DecidableEq

/-- `CreditAccountStatusActive`, `CreditAccountStatusSuspended`. -/
inductive CreditAccountStatus where
  | active
  | suspended
  deriving DecidableEq

/-- The string stored for an account status. -/
def CreditAccountStatus.text : CreditAccountStatus → String
  | .active => "active"
  | .suspended => "suspended"

/-- The `BillingStatementStatus...` constants. -/
inductive BillingStatementStatus where
  | draft
  | adjusted
  | confirmed
  | invoiced
  | paid
  | overdue
  deriving DecidableEq

/-- The string stored for a statement status. -/
def BillingStatementStatus.text : BillingStatementStatus → String
  | .draft => "draft"
  | .adjusted => "adjusted"
  | .confirmed => "confirmed"
  | .invoiced => "invoiced"
  | .paid => "paid"
  | .overdue => "overdue"

/-- `billing_configs`, one row per tenant. -/
structure BillingConfig where
  tenantId : Int
  billingMode : BillingMode
  paymentTerms : Int
  creditLimit : Int
  overCreditPolicy : OverCreditPolicy
  deriving DecidableEq

/-- `credit_accounts`, one row per tenant. -/
structure CreditAccount where
  tenantId : Int
  creditLimit : Int := 0
  reservedAmount : Int := 0
  unbilledAmount : Int := 0
  billedUnpaidAmount : Int := 0
  overdueAmount : Int := 0
  availableCredit : Int := 0
  status : CreditAccountStatus := .active
  deriving DecidableEq

/-- What `Recalculate` computes: the limit less all four buckets. -/
def CreditAccount.available (a : CreditAccount) : Int :=
  a.creditLimit - a.reservedAmount - a.unbilledAmount - a.billedUnpaidAmount - a.overdueAmount

/-- `CreditAccount.Recalculate`. -/
def CreditAccount.recalculate (a : CreditAccount) : CreditAccount :=
  { a with availableCredit := a.available }

/-- `billing_statements`. -/
structure BillingStatement where
  id : Nat
  tenantId : Int
  periodStart : Int
  periodEnd : Int
  amount : Int
  adjustment : Int
  payable : Int
  status : BillingStatementStatus
  confirmedAt : Int := 0
  dueDate : Int
  generatedAt : Int
  deriving DecidableEq

/-- `payment_records`. -/
structure PaymentRecord where
  id : Nat
  statementId : Nat
  tenantId : Int
  amount : Int
  method : String
  paidAt : Int
  operatorId : Int
  deriving DecidableEq

/-- `invoices`. -/
structure Invoice where
  id : Nat
  statementId : Nat
  tenantId : Int
  amount : Int
  invoiceNo : String
  invoiceStatus : String
  operatorId : Int
  deriving DecidableEq

namespace CreditAccount

@[simp] theorem recalculate_tenantId (a : CreditAccount) :
    a.recalculate.tenantId = a.tenantId := rfl

@[simp] theorem recalculate_creditLimit (a : CreditAccount) :
    a.recalculate.creditLimit = a.creditLimit := rfl

@[simp] theorem recalculate_reservedAmount (a : CreditAccount) :
    a.recalculate.reservedAmount = a.reservedAmount := rfl

@[simp] theorem recalculate_unbilledAmount (a : CreditAccount) :
    a.recalculate.unbilledAmount = a.unbilledAmount := rfl

@[simp] theorem recalculate_billedUnpaidAmount (a : CreditAccount) :
    a.recalculate.billedUnpaidAmount = a.billedUnpaidAmount := rfl

@[simp] theorem recalculate_overdueAmount (a : CreditAccount) :
    a.recalculate.overdueAmount = a.overdueAmount := rfl

@[simp] theorem recalculate_status (a : CreditAccount) :
    a.recalculate.status = a.status := rfl

@[simp] theorem recalculate_availableCredit (a : CreditAccount) :
    a.recalculate.availableCredit = a.available := rfl

end CreditAccount

end TokenRouter
