import TokenRouter.Service.TenantCredit

/-!
# Tenant billing statements (`service/tenant.go`)

Generation, confirmation, payment and the overdue sweep of tenant billing
statements. Each function is one transaction on `DB`; the sweep is one
transaction per statement.
-/

namespace TokenRouter

/-- `billingStatementRegenerationLocked`. -/
def billingStatementRegenerationLocked : BillingStatementStatus → Bool
  | .confirmed | .invoiced | .paid | .overdue => true
  | .draft | .adjusted => false

/-- The rows that the `SUM` of `GenerateTenantBillingStatement` ranges over; both
    period bounds are inclusive. -/
def periodLedgers (db : DB) (tenantId periodStart periodEnd : Int) : List UsageLedger :=
  db.ledgers.rows.filter fun l =>
    l.tenantId = tenantId ∧ periodStart ≤ l.createdAt ∧ l.createdAt ≤ periodEnd ∧
      l.status = "success"

/-- `SELECT COALESCE(SUM(postpaid_quota), 0)` over a period. -/
def periodAmount (db : DB) (tenantId periodStart periodEnd : Int) : Int :=
  ((periodLedgers db tenantId periodStart periodEnd).map (·.postpaidQuota)).sum

/-- `PaymentTerms` of the tenant's configuration, 30 days by default. -/
def paymentTerms (db : DB) (tenantId : Int) : Int :=
  match db.configs.find? tenantId with
  | none => 30
  | some config => if 0 < config.paymentTerms then config.paymentTerms else 30

/-- The statement of exactly this period, if there is one. -/
def findPeriodStatement (db : DB) (tenantId periodStart periodEnd : Int) :
    Option BillingStatement :=
  db.statements.rows.find? fun s =>
    s.tenantId = tenantId ∧ s.periodStart = periodStart ∧ s.periodEnd = periodEnd

/-- `GenerateTenantBillingStatement`. Returns the stored statement. -/
def generateTenantBillingStatement (db : DB) (now : Timestamp)
    (tenantId periodStart periodEnd adjustment : Int) :
    Except String (BillingStatement × DB) :=
  if tenantId ≤ 0 then .error "tenant_id is required"
  else if periodStart ≤ 0 ∨ periodEnd ≤ 0 ∨ periodEnd < periodStart then
    .error "invalid billing period"
  else
    let amount := periodAmount db tenantId periodStart periodEnd
    let payable := amount + adjustment
    let dueDate := now.unix + paymentTerms db tenantId * 24 * 60 * 60
    match findPeriodStatement db tenantId periodStart periodEnd with
    | some existing =>
      if billingStatementRegenerationLocked existing.status then
        .error ("billing statement " ++ toString existing.id ++ " is " ++ existing.status.text ++
          " and cannot be regenerated")
      else
        let statement := { existing with
          amount := amount
          adjustment := adjustment
          payable := if payable < 0 then 0 else payable
          status := .draft
          dueDate := dueDate
          generatedAt := now.unix }
        .ok (statement, { db with statements := db.statements.set statement })
    | none =>
      let statement : BillingStatement :=
        { id := db.statements.nextId
          tenantId := tenantId
          periodStart := periodStart
          periodEnd := periodEnd
          amount := amount
          adjustment := adjustment
          payable := if payable < 0 then 0 else payable
          status := .draft
          dueDate := dueDate
          generatedAt := now.unix }
      .ok (statement, { db with statements := db.statements.insert statement })

/-- `WHERE id = ? AND tenant_id = ?` on `billing_statements`. -/
def findStatement (db : DB) (tenantId : Int) (statementId : Nat) : Option BillingStatement :=
  (db.statements.find? statementId).filter fun s => s.tenantId = tenantId

/-- `ConfirmTenantBillingStatement`. -/
def confirmTenantBillingStatement (db : DB) (now : Timestamp) (tenantId : Int)
    (statementId : Nat) : Except String DB :=
  match findStatement db tenantId statementId with
  | none => .error errRecordNotFound
  | some statement =>
    if statement.status ≠ .draft ∧ statement.status ≠ .adjusted then
      .error ("statement status " ++ statement.status.text ++ " cannot be confirmed")
    else
      match db.accounts.find? tenantId with
      | none => .error errRecordNotFound
      | some account =>
        let unbilled := account.unbilledAmount - statement.payable
        let account' := { account with
          unbilledAmount := if unbilled < 0 then 0 else unbilled
          billedUnpaidAmount := account.billedUnpaidAmount + statement.payable }.recalculate
        .ok { db with
          statements := db.statements.set
            { statement with status := .confirmed, confirmedAt := now.unix }
          accounts := db.accounts.set account' }

/-- `SELECT COALESCE(SUM(amount), 0) FROM payment_records WHERE statement_id = ?`. -/
def paidAmount (payments : Table PaymentRecord (·.id)) (statementId : Nat) : Int :=
  payments.sum fun p => if p.statementId = statementId then p.amount else 0

/-- The statuses in which `RegisterTenantPaymentAndInvoice` accepts a payment. -/
def acceptsPayment : BillingStatementStatus → Bool
  | .confirmed | .invoiced | .overdue => true
  | .draft | .adjusted | .paid => false

/-- `RegisterTenantPaymentAndInvoice`. -/
def registerTenantPaymentAndInvoice (db : DB) (now : Timestamp) (tenantId : Int)
    (statementId : Nat) (amount : Int) (method invoiceNo invoiceStatus : String)
    (actorId : Int) : Except String DB :=
  if amount ≤ 0 then .error "payment amount must be positive"
  else
    let invoiceStatus := if invoiceStatus = "" then "issued" else invoiceStatus
    match findStatement db tenantId statementId with
    | none => .error errRecordNotFound
    | some statement =>
      if ¬ acceptsPayment statement.status then
        .error ("statement status " ++ statement.status.text ++ " cannot register payment")
      else
        let remaining := statement.payable - paidAmount db.payments statementId
        if remaining ≤ 0 then
          .error ("statement " ++ toString statementId ++ " is already fully paid")
        else if remaining < amount then
          .error ("payment amount " ++ toString amount ++ " exceeds remaining payable " ++
            toString remaining)
        else
          let payments := db.payments.insert
            { id := db.payments.nextId
              statementId := statementId
              tenantId := tenantId
              amount := amount
              method := method
              paidAt := now.unix
              operatorId := actorId }
          let invoices :=
            if invoiceNo ≠ "" ∨ invoiceStatus ≠ "" then
              db.invoices.insert
                { id := db.invoices.nextId
                  statementId := statementId
                  tenantId := tenantId
                  amount := amount
                  invoiceNo := invoiceNo
                  invoiceStatus := invoiceStatus
                  operatorId := actorId }
            else db.invoices
          let status :=
            if statement.payable ≤ paidAmount payments statementId then .paid
            else if statement.status = .overdue then .overdue
            else .invoiced
          match db.accounts.find? tenantId with
          | none => .error errRecordNotFound
          | some account =>
            let billed := account.billedUnpaidAmount - amount
            let account' := { account with
              billedUnpaidAmount := if billed < 0 then 0 else billed
              overdueAmount :=
                if 0 < account.overdueAmount then
                  if amount ≤ account.overdueAmount then account.overdueAmount - amount else 0
                else account.overdueAmount }.recalculate
            .ok { db with
              statements := db.statements.set { statement with status := status }
              payments := payments
              invoices := invoices
              accounts := db.accounts.set account' }

/-- The statuses that the overdue sweep looks at. -/
def awaitsPayment : BillingStatementStatus → Bool
  | .confirmed | .invoiced => true
  | .draft | .adjusted | .paid | .overdue => false

/-- The transaction that `MarkOverdueTenantStatements` runs for one statement. -/
def markOverdueStatement (db : DB) (statementId : Nat) : Except String DB :=
  match db.statements.find? statementId with
  | none => .error errRecordNotFound
  | some locked =>
    if ¬ awaitsPayment locked.status then .ok db
    else
      let remaining := locked.payable - paidAmount db.payments locked.id
      if remaining ≤ 0 then
        .ok { db with statements := db.statements.set { locked with status := .paid } }
      else
        match db.accounts.find? locked.tenantId with
        | none => .error errRecordNotFound
        | some account =>
          let billed := account.billedUnpaidAmount - remaining
          let account' := { account with
            billedUnpaidAmount := if billed < 0 then 0 else billed
            overdueAmount := account.overdueAmount + remaining }.recalculate
          .ok { db with
            statements := db.statements.set { locked with status := .overdue }
            accounts := db.accounts.set account' }

/-- The loop of `MarkOverdueTenantStatements`: it stops at the first error and
    keeps what was committed before. -/
def markOverdueLoop (db : DB) : List Nat → DB × Option String
  | [] => (db, none)
  | id :: ids =>
    match markOverdueStatement db id with
    | .error e => (db, some e)
    | .ok db' => markOverdueLoop db' ids

/-- `MarkOverdueTenantStatements`; a non-positive `now` means the current time. -/
def markOverdueTenantStatements (db : DB) (clock : Timestamp) (now : Int) : DB × Option String :=
  let now := if now ≤ 0 then clock.unix else now
  let due := db.statements.rows.filter fun s =>
    awaitsPayment s.status ∧ 0 < s.dueDate ∧ s.dueDate < now
  markOverdueLoop db (due.map (·.id))

end TokenRouter
