import TokenRouter.Service.TenantStatement
import TokenRouter.Service.UsageRecord

/-!
# What a successful tenant transaction does

One inversion lemma per transaction of `Service.TenantCredit`,
`Service.TenantStatement` and `Service.UsageRecord`: everything that a successful
call can have found and written. Later modules use these lemmas and never unfold
the transactions.
-/

namespace TokenRouter

/-! ## Credit transactions -/

/-- `applyTenantLedgerCreditTx` never fails, and skips or rewrites one account. -/
theorem applyTenantLedgerCreditTx_cases (db : DB) (ledger : UsageLedger) :
    (applyTenantLedgerCreditTx db ledger = .ok db ∧
      (ledger.tenantId ≤ 0 ∨ ledger.postpaidQuota ≤ 0)) ∨
    (0 < ledger.tenantId ∧ 0 < ledger.postpaidQuota ∧
      ∃ account : CreditAccount,
        account = (db.accounts.find? ledger.tenantId).getD
          { tenantId := ledger.tenantId
            creditLimit := ((db.configs.find? ledger.tenantId).map (·.creditLimit)).getD 0 } ∧
        applyTenantLedgerCreditTx db ledger = .ok (db.saveAccount
          { account with
            reservedAmount := account.reservedAmount -
              min account.reservedAmount ledger.postpaidQuota
            unbilledAmount := account.unbilledAmount + ledger.postpaidQuota }.recalculate)) := by
  unfold applyTenantLedgerCreditTx
  split
  · next h => exact .inl ⟨rfl, h⟩
  · next h =>
    rw [not_or, not_le, not_le] at h
    exact .inr ⟨h.1, h.2, _, rfl, rfl⟩

/-- The account that a ledger is booked on belongs to the ledger's tenant. -/
theorem find?_getD_tenantId (db : DB) (tenantId limit : Int) :
    ((db.accounts.find? tenantId).getD { tenantId := tenantId, creditLimit := limit }).tenantId =
      tenantId := by
  cases h : db.accounts.find? tenantId with
  | none => rfl
  | some a => exact Table.find?_key h

/-- A column that is `0` in a fresh account reads the same from the row or its default. -/
theorem column_find?_getD (db : DB) (tenantId limit : Int) (column : CreditAccount → Int)
    (h : column { tenantId := tenantId, creditLimit := limit } = 0) :
    column ((db.accounts.find? tenantId).getD { tenantId := tenantId, creditLimit := limit }) =
      db.accountColumn tenantId column := by
  cases hf : db.accounts.find? tenantId with
  | none => rw [DB.accountColumn_of_none hf]; exact h
  | some a => rw [DB.accountColumn_of_find hf]; rfl

/-- What `reserveTenantCredit` found and wrote. -/
theorem reserveTenantCredit_ok {db db' : DB} {tenantId quota : Int}
    (h : reserveTenantCredit db tenantId quota = .ok db') :
    (db' = db ∧ (tenantId ≤ 0 ∨ quota ≤ 0)) ∨
    (0 < tenantId ∧ 0 < quota ∧ ∃ config account, db.configs.find? tenantId = some config ∧
      account = (db.accounts.find? tenantId).getD
        { tenantId := tenantId, creditLimit := config.creditLimit } ∧
      account.status = .active ∧ (config.overCreditPolicy = .block → quota ≤ account.available) ∧
      db' = db.saveAccount
        { account with reservedAmount := account.reservedAmount + quota }.recalculate) := by
  unfold reserveTenantCredit at h
  split at h
  · next hskip =>
    simp only [Except.ok.injEq] at h
    exact .inl ⟨h.symm, hskip⟩
  next hpos =>
  split at h
  · exact nomatch h
  next config hconfig =>
  dsimp only at h
  split at h
  · exact nomatch h
  next hactive =>
  split at h
  · exact nomatch h
  next hblock =>
  simp only [Except.ok.injEq] at h
  rw [not_or, not_le, not_le] at hpos
  refine .inr ⟨hpos.1, hpos.2, config, _, hconfig, rfl, not_not.mp hactive, ?_, h.symm⟩
  intro hpolicy
  by_contra hlt
  exact hblock ⟨hpolicy, not_le.mp hlt⟩

/-- `releaseTenantCredit` never fails, and skips or lowers the reservation. -/
theorem releaseTenantCredit_cases (db : DB) (tenantId quota : Int) :
    (releaseTenantCredit db tenantId quota = .ok db ∧ (tenantId ≤ 0 ∨ quota ≤ 0 ∨
      db.accountColumn tenantId (·.reservedAmount) ≤ 0)) ∨
    (0 < tenantId ∧ 0 < quota ∧ ∃ account, db.accounts.find? tenantId = some account ∧
      0 < account.reservedAmount ∧
      releaseTenantCredit db tenantId quota = .ok (db.saveAccount
        { account with
          reservedAmount :=
            account.reservedAmount - min account.reservedAmount quota }.recalculate)) := by
  unfold releaseTenantCredit
  split
  · next h =>
    refine .inl ⟨rfl, ?_⟩
    rcases h with h | h
    · exact .inl h
    · exact .inr (.inl h)
  next hpos =>
  rw [not_or, not_le, not_le] at hpos
  split
  · next hnone => exact .inl ⟨rfl, .inr (.inr (DB.accountColumn_of_none hnone _).le)⟩
  next account hfind =>
  dsimp only
  split
  · next hle =>
    refine .inl ⟨rfl, .inr (.inr ?_)⟩
    rw [DB.accountColumn_of_find hfind]
    omega
  · next hgt => exact .inr ⟨hpos.1, hpos.2, account, hfind, by omega, rfl⟩

/-! ## Statement transactions -/

/-- What `generateTenantBillingStatement` stores. -/
theorem generateTenantBillingStatement_ok {db db' : DB} {now : Timestamp}
    {tenantId periodStart periodEnd adjustment : Int} {s : BillingStatement}
    (h : generateTenantBillingStatement db now tenantId periodStart periodEnd adjustment =
      .ok (s, db')) :
    s.tenantId = tenantId ∧ s.periodStart = periodStart ∧ s.periodEnd = periodEnd ∧
    s.amount = periodAmount db tenantId periodStart periodEnd ∧
    0 ≤ s.payable ∧ s.payable = max 0 (s.amount + adjustment) ∧ s.status = .draft ∧
    ((∃ old, db.statements.find? s.id = some old ∧ old.tenantId = tenantId ∧
        old.periodStart = periodStart ∧ old.periodEnd = periodEnd ∧
        (old.status = .draft ∨ old.status = .adjusted) ∧
        db' = { db with statements := db.statements.set s }) ∨
      (db.statements.find? s.id = none ∧ s.id = db.statements.nextId ∧
        db' = { db with statements := db.statements.insert s })) := by
  have hmax : ∀ x : Int, (if x < 0 then 0 else x) = max 0 x := by
    intro x
    split <;> omega
  unfold generateTenantBillingStatement at h
  split at h
  · exact nomatch h
  split at h
  · exact nomatch h
  simp only [hmax] at h
  split at h
  · next old hold =>
    split at h
    · exact nomatch h
    next hlocked =>
    have hmem := List.mem_of_find?_eq_some hold
    have hkey := List.find?_some hold
    simp only [Bool.decide_and, Bool.and_eq_true, decide_eq_true_eq] at hkey
    simp only [Except.ok.injEq, Prod.mk.injEq] at h
    obtain ⟨rfl, rfl⟩ := h
    refine ⟨hkey.1, hkey.2.1, hkey.2.2, rfl, le_max_left _ _, rfl, rfl, .inl ?_⟩
    refine ⟨old, Table.find?_of_mem hmem, hkey.1, hkey.2.1, hkey.2.2, ?_, rfl⟩
    cases hst : old.status <;> simp_all [billingStatementRegenerationLocked]
  · simp only [Except.ok.injEq, Prod.mk.injEq] at h
    obtain ⟨rfl, rfl⟩ := h
    exact ⟨rfl, rfl, rfl, rfl, le_max_left _ _, rfl, rfl,
      .inr ⟨Table.nextId_fresh _, rfl, rfl⟩⟩

/-- A statement found by id and tenant. -/
theorem findStatement_eq_some {db : DB} {tenantId : Int} {statementId : Nat}
    {s : BillingStatement} :
    findStatement db tenantId statementId = some s ↔
      db.statements.find? statementId = some s ∧ s.tenantId = tenantId := by
  simp [findStatement, Option.filter_eq_some_iff]

/-- What `confirmTenantBillingStatement` found and wrote. -/
theorem confirmTenantBillingStatement_ok {db db' : DB} {now : Timestamp} {tenantId : Int}
    {statementId : Nat} (h : confirmTenantBillingStatement db now tenantId statementId = .ok db') :
    ∃ s a, db.statements.find? statementId = some s ∧ s.tenantId = tenantId ∧
      (s.status = .draft ∨ s.status = .adjusted) ∧ db.accounts.find? tenantId = some a ∧
      db' = { db with
        statements := db.statements.set { s with status := .confirmed, confirmedAt := now.unix }
        accounts := db.accounts.set { a with
          unbilledAmount := max 0 (a.unbilledAmount - s.payable)
          billedUnpaidAmount := a.billedUnpaidAmount + s.payable }.recalculate } := by
  unfold confirmTenantBillingStatement at h
  split at h
  · exact nomatch h
  next s hs =>
  split at h
  · exact nomatch h
  next hstatus =>
  split at h
  · exact nomatch h
  next a ha =>
  obtain ⟨hfind, htenant⟩ := findStatement_eq_some.mp hs
  simp only [Except.ok.injEq] at h
  have hmax : (if a.unbilledAmount - s.payable < 0 then 0 else a.unbilledAmount - s.payable) =
      max 0 (a.unbilledAmount - s.payable) := by
    split <;> omega
  rw [hmax] at h
  refine ⟨s, a, hfind, htenant, ?_, ha, h.symm⟩
  by_contra hne
  rw [not_or] at hne
  exact hstatus hne

/-- The status that an accepted payment leaves. -/
def paidStatus (s : BillingStatement) (paid : Int) : BillingStatementStatus :=
  if s.payable ≤ paid then .paid else if s.status = .overdue then .overdue else .invoiced

/-- `OverdueAmount` after a payment of `amount`. -/
def overdueAfterPayment (overdue amount : Int) : Int :=
  if 0 < overdue then if amount ≤ overdue then overdue - amount else 0 else overdue

/-- What `registerTenantPaymentAndInvoice` found and wrote. -/
theorem registerTenantPaymentAndInvoice_ok {db db' : DB} {now : Timestamp} {tenantId : Int}
    {statementId : Nat} {amount : Int} {method invoiceNo invoiceStatus : String} {actorId : Int}
    (h : registerTenantPaymentAndInvoice db now tenantId statementId amount method invoiceNo
      invoiceStatus actorId = .ok db') :
    ∃ s a p, db.statements.find? statementId = some s ∧ s.tenantId = tenantId ∧
      acceptsPayment s.status = true ∧ db.accounts.find? tenantId = some a ∧ 0 < amount ∧
      amount ≤ s.payable - paidAmount db.payments statementId ∧
      p.id = db.payments.nextId ∧ p.statementId = statementId ∧ p.amount = amount ∧
      db'.configs = db.configs ∧ db'.ledgers = db.ledgers ∧ db'.aggregates = db.aggregates ∧
      db'.outbox = db.outbox ∧ db'.payments = db.payments.insert p ∧
      db'.statements = db.statements.set
        { s with status := paidStatus s (paidAmount (db.payments.insert p) statementId) } ∧
      db'.accounts = db.accounts.set { a with
        billedUnpaidAmount := max 0 (a.billedUnpaidAmount - amount)
        overdueAmount := overdueAfterPayment a.overdueAmount amount }.recalculate := by
  unfold registerTenantPaymentAndInvoice at h
  split at h
  · exact nomatch h
  next hpos =>
  dsimp only at h
  split at h
  · exact nomatch h
  next s hs =>
  split at h
  · exact nomatch h
  next haccept =>
  split at h
  · exact nomatch h
  next hrem =>
  split at h
  · exact nomatch h
  next hle =>
  split at h
  · exact nomatch h
  next a ha =>
  obtain ⟨hfind, htenant⟩ := findStatement_eq_some.mp hs
  simp only [Except.ok.injEq] at h
  have hmax : (if a.billedUnpaidAmount - amount < 0 then 0 else a.billedUnpaidAmount - amount) =
      max 0 (a.billedUnpaidAmount - amount) := by
    split <;> omega
  rw [hmax] at h
  subst h
  refine ⟨s, a, _, hfind, htenant, by simpa using haccept, ha, not_le.mp hpos, by omega,
    rfl, rfl, rfl, rfl, rfl, rfl, rfl, rfl, rfl, rfl⟩

/-- What the overdue transaction of one statement found and wrote. -/
theorem markOverdueStatement_ok {db db' : DB} {statementId : Nat}
    (h : markOverdueStatement db statementId = .ok db') :
    db' = db ∨
    ∃ s, db.statements.find? statementId = some s ∧ awaitsPayment s.status = true ∧
      ((s.payable ≤ paidAmount db.payments s.id ∧
          db' = { db with statements := db.statements.set { s with status := .paid } }) ∨
        (paidAmount db.payments s.id < s.payable ∧
          ∃ a, db.accounts.find? s.tenantId = some a ∧
          db' = { db with
            statements := db.statements.set { s with status := .overdue }
            accounts := db.accounts.set { a with
              billedUnpaidAmount :=
                max 0 (a.billedUnpaidAmount - (s.payable - paidAmount db.payments s.id))
              overdueAmount :=
                a.overdueAmount + (s.payable - paidAmount db.payments s.id) }.recalculate })) := by
  unfold markOverdueStatement at h
  split at h
  · exact nomatch h
  next s hs =>
  split at h
  · simp only [Except.ok.injEq] at h
    exact .inl h.symm
  next hawait =>
  dsimp only at h
  refine .inr ⟨s, hs, by simpa using hawait, ?_⟩
  split at h
  · next hrem =>
    simp only [Except.ok.injEq] at h
    exact .inl ⟨by omega, h.symm⟩
  next hrem =>
  split at h
  · exact nomatch h
  next a ha =>
  simp only [Except.ok.injEq] at h
  have hmax : ∀ x : Int, (if x < 0 then 0 else x) = max 0 x := by
    intro x
    split <;> omega
  rw [hmax] at h
  exact .inr ⟨by omega, a, ha, h.symm⟩

end TokenRouter
