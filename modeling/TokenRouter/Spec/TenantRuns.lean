import TokenRouter.ForStd.Run
import TokenRouter.Spec.UsageCases

/-!
# Runs of tenant operations

The operations that read and write a tenant's credit account, ledgers and
statements, as events of one machine over `DB`. Each is one serialisable
transaction; a failed one leaves the database as it was.

## Key results

- `markOverdueTenantStatements_inv`: what one overdue transaction keeps, the sweep keeps
- `applyTenantLedgerCreditTx_unbilled`: booking a ledger adds its postpaid quota
- `Stored.frame`: which tables a stored row touches
-/

namespace TokenRouter

/-- The database after a transaction, which a failed one leaves alone. -/
def commit (db : DB) : Except String DB → DB
  | .ok db' => db'
  | .error _ => db

/-- What holds before a transaction and after every success holds after it. -/
theorem commit_inv {P : DB → Prop} {db : DB} {r : Except String DB} (h : P db)
    (hok : ∀ db', r = .ok db' → P db') : P (commit db r) := by
  cases r with
  | error e => exact h
  | ok db' => exact hok db' rfl

/-- The calls of the tenant services. -/
inductive TenantOp where
  | recordUsage (call : RecordCall)
  | reserve (tenantId quota : Int)
  | release (tenantId quota : Int)
  | generate (now : Timestamp) (tenantId periodStart periodEnd adjustment : Int)
  | confirm (now : Timestamp) (tenantId : Int) (statementId : Nat)
  | registerPayment (now : Timestamp) (tenantId : Int) (statementId : Nat) (amount : Int)
      (method invoiceNo invoiceStatus : String) (actorId : Int)
  | markOverdue (clock : Timestamp) (now : Int)

/-- The database after a call. -/
def TenantOp.exec (db : DB) : TenantOp → DB
  | .recordUsage c => commit db (recordUsageWithMeta db c)
  | .reserve tenantId quota => commit db (reserveTenantCredit db tenantId quota)
  | .release tenantId quota => commit db (releaseTenantCredit db tenantId quota)
  | .generate now tenantId periodStart periodEnd adjustment =>
    commit db ((generateTenantBillingStatement db now tenantId periodStart periodEnd
      adjustment).map (·.2))
  | .confirm now tenantId statementId =>
    commit db (confirmTenantBillingStatement db now tenantId statementId)
  | .registerPayment now tenantId statementId amount method invoiceNo invoiceStatus actorId =>
    commit db (registerTenantPaymentAndInvoice db now tenantId statementId amount method
      invoiceNo invoiceStatus actorId)
  | .markOverdue clock now => (markOverdueTenantStatements db clock now).1

/-- A generated statement and the database it is stored in. -/
theorem generate_map_ok {db db' : DB} {now : Timestamp}
    {tenantId periodStart periodEnd adjustment : Int}
    (h : (generateTenantBillingStatement db now tenantId periodStart periodEnd adjustment).map
      (·.2) = .ok db') :
    ∃ s, generateTenantBillingStatement db now tenantId periodStart periodEnd adjustment =
      .ok (s, db') := by
  cases hgen : generateTenantBillingStatement db now tenantId periodStart periodEnd adjustment with
  | error e => rw [hgen] at h; exact nomatch h
  | ok r =>
    rw [hgen] at h
    simp only [Except.map, Except.ok.injEq] at h
    exact ⟨r.1, by rw [← h]⟩

/-! ## The overdue sweep -/

/-- The loop keeps what its body keeps. -/
theorem markOverdueLoop_inv {P : DB → Prop}
    (hstep : ∀ db db' id, P db → markOverdueStatement db id = .ok db' → P db') :
    ∀ (ids : List Nat) (db : DB), P db → P (markOverdueLoop db ids).1
  | [], _, h => h
  | id :: ids, db, h => by
    unfold markOverdueLoop
    split
    · exact h
    · next db' hok => exact markOverdueLoop_inv hstep ids db' (hstep db db' id h hok)

/-- The sweep keeps what the transaction of one statement keeps. -/
theorem markOverdueTenantStatements_inv {P : DB → Prop}
    (hstep : ∀ db db' id, P db → markOverdueStatement db id = .ok db' → P db') {db : DB}
    (h : P db) (clock : Timestamp) (now : Int) :
    P (markOverdueTenantStatements db clock now).1 :=
  markOverdueLoop_inv hstep _ db h

/-! ## The ledger table -/

/-- Booking a ledger touches the accounts only. -/
theorem applyTenantLedgerCreditTx_frame {db db' : DB} {ledger : UsageLedger}
    (h : applyTenantLedgerCreditTx db ledger = .ok db') :
    db' = { db with accounts := db'.accounts } := by
  rcases applyTenantLedgerCreditTx_cases db ledger with ⟨hok, -⟩ | ⟨-, -, a, -, hok⟩
  · rw [hok, Except.ok.injEq] at h
    rw [← h]
  · rw [hok, Except.ok.injEq] at h
    rw [← h]
    rfl

/-- Storing a row touches the ledgers, the accounts and the aggregates only. -/
theorem Stored.frame {loc : Location} {db db' : DB} {row : UsageLedger}
    (h : Stored loc db row db') :
    db' = { db with
      ledgers := db.ledgers.insert row
      accounts := db'.accounts
      aggregates := db'.aggregates } := by
  obtain ⟨now, db₂, happly, rfl⟩ := h.written
  have hframe := applyTenantLedgerCreditTx_frame happly
  rw [upsertUsageAggregateDailyTx, hframe]

/-- Booking a ledger adds its postpaid quota to the tenant's unbilled amount. -/
theorem applyTenantLedgerCreditTx_unbilled {db db' : DB} {ledger : UsageLedger}
    (h : applyTenantLedgerCreditTx db ledger = .ok db') (tenantId : Int) (ht : 0 < tenantId)
    (hquota : 0 ≤ ledger.postpaidQuota) :
    db'.accountColumn tenantId (·.unbilledAmount) =
      db.accountColumn tenantId (·.unbilledAmount) +
        if ledger.tenantId = tenantId then ledger.postpaidQuota else 0 := by
  rcases applyTenantLedgerCreditTx_cases db ledger with ⟨hok, hskip⟩ | ⟨-, -, a, ha, hok⟩
  · rw [hok, Except.ok.injEq] at h
    subst h
    split <;> omega
  · rw [hok, Except.ok.injEq] at h
    subst h
    have htenant : a.tenantId = ledger.tenantId := by
      rw [ha]
      exact find?_getD_tenantId _ _ _
    have hcol : a.unbilledAmount = db.accountColumn ledger.tenantId (·.unbilledAmount) := by
      rw [ha]
      exact column_find?_getD _ _ _ (·.unbilledAmount) rfl
    rw [DB.accountColumn_saveAccount]
    simp only [CreditAccount.recalculate_tenantId, htenant,
      CreditAccount.recalculate_unbilledAmount, hcol]
    split
    · next heq => rw [heq]
    · omega

/-- A stored row adds its postpaid quota to the tenant's unbilled amount. -/
theorem Stored.unbilled {loc : Location} {db db' : DB} {row : UsageLedger}
    (h : Stored loc db row db') (tenantId : Int) (ht : 0 < tenantId)
    (hquota : 0 ≤ row.postpaidQuota) :
    db'.accountColumn tenantId (·.unbilledAmount) =
      db.accountColumn tenantId (·.unbilledAmount) +
        if row.tenantId = tenantId then row.postpaidQuota else 0 := by
  obtain ⟨now, db₂, happly, rfl⟩ := h.written
  exact applyTenantLedgerCreditTx_unbilled happly tenantId ht hquota

/-- Booking a ledger leaves the billed and the overdue amounts alone. -/
theorem applyTenantLedgerCreditTx_column {db db' : DB} {ledger : UsageLedger}
    (h : applyTenantLedgerCreditTx db ledger = .ok db') (tenantId : Int)
    {column : CreditAccount → Int}
    (hcol : ∀ a : CreditAccount, ∀ r u, column { a with
      reservedAmount := r, unbilledAmount := u }.recalculate = column a)
    (hzero : ∀ t l, column { tenantId := t, creditLimit := l } = 0) :
    db'.accountColumn tenantId column = db.accountColumn tenantId column := by
  rcases applyTenantLedgerCreditTx_cases db ledger with ⟨hok, hskip⟩ | ⟨-, -, a, ha, hok⟩
  · rw [hok, Except.ok.injEq] at h
    rw [h]
  · rw [hok, Except.ok.injEq] at h
    subst h
    have htenant : a.tenantId = ledger.tenantId := by
      rw [ha]
      exact find?_getD_tenantId _ _ _
    have hread : column a = db.accountColumn ledger.tenantId column := by
      rw [ha]
      exact column_find?_getD _ _ _ column (hzero _ _)
    rw [DB.accountColumn_saveAccount, hcol, hread, CreditAccount.recalculate_tenantId]
    dsimp only
    rw [htenant]
    split
    · next heq => rw [heq]
    · rfl

/-! ## Reservations -/

/-- A column that a reservation neither writes nor recalculates. -/
structure ReserveFree (column : CreditAccount → Int) : Prop where
  keeps : ∀ (a : CreditAccount) (r : Int), column { a with reservedAmount := r }.recalculate = column a
  fresh : ∀ tenantId limit, column { tenantId := tenantId, creditLimit := limit } = 0

theorem reserveFree_unbilled : ReserveFree (·.unbilledAmount) := ⟨fun _ _ => rfl, fun _ _ => rfl⟩

theorem reserveFree_billedUnpaid : ReserveFree (·.billedUnpaidAmount) :=
  ⟨fun _ _ => rfl, fun _ _ => rfl⟩

theorem reserveFree_overdue : ReserveFree (·.overdueAmount) := ⟨fun _ _ => rfl, fun _ _ => rfl⟩

/-- `reserveTenantCredit` touches the reservation of one account only. -/
theorem reserveTenantCredit_frame {db db' : DB} {t quota : Int}
    (h : reserveTenantCredit db t quota = .ok db') {column : CreditAccount → Int}
    (hcol : ReserveFree column) (tenantId : Int) :
    db' = { db with accounts := db'.accounts } ∧
      db'.accountColumn tenantId column = db.accountColumn tenantId column := by
  rcases reserveTenantCredit_ok h with ⟨rfl, -⟩ | ⟨-, -, config, a, -, ha, -, -, rfl⟩
  · exact ⟨rfl, rfl⟩
  refine ⟨rfl, ?_⟩
  have htenant : a.tenantId = t := by
    rw [ha]
    exact find?_getD_tenantId _ _ _
  have hread : column a = db.accountColumn t column := by
    rw [ha]
    exact column_find?_getD _ _ _ column (hcol.fresh _ _)
  rw [DB.accountColumn_saveAccount, hcol.keeps, hread, CreditAccount.recalculate_tenantId]
  dsimp only
  rw [htenant]
  split
  · next heq => rw [heq]
  · rfl

/-- `releaseTenantCredit` touches the reservation of one account only. -/
theorem releaseTenantCredit_frame {db db' : DB} {t quota : Int}
    (h : releaseTenantCredit db t quota = .ok db') {column : CreditAccount → Int}
    (hcol : ReserveFree column) (tenantId : Int) :
    db' = { db with accounts := db'.accounts } ∧
      db'.accountColumn tenantId column = db.accountColumn tenantId column := by
  rcases releaseTenantCredit_cases db t quota with ⟨hok, -⟩ | ⟨-, -, a, hfind, -, hok⟩
  · rw [hok, Except.ok.injEq] at h
    rw [← h]
    exact ⟨rfl, rfl⟩
  rw [hok, Except.ok.injEq] at h
  subst h
  refine ⟨rfl, ?_⟩
  have htenant : a.tenantId = t := Table.find?_key hfind
  rw [DB.accountColumn_saveAccount, hcol.keeps, CreditAccount.recalculate_tenantId]
  dsimp only
  rw [htenant]
  split
  · next heq => rw [← heq, DB.accountColumn_of_find hfind]
  · rfl

/-! ## Sample calls -/

/-- No channels and no supplier agreements. -/
def plainUsageEnv : UsageEnv :=
  { cacheGetChannel := fun _ => .error "channel not found"
    findActiveSupplierAgreement := fun _ _ _ => .ok none
    quotaPerUnit := 500000
    location := ⟨fun _ => 0⟩
    usingSQLite := false }

/-- A request of tenant 7 that is recorded at second `at_` with 30 postpaid quota, in
    a row numbered `id`. -/
def recordAt (at_ : Int) (requestId : String) (id : Nat) (hat : 0 ≤ at_ := by decide) :
    RecordCall :=
  { env := plainUsageEnv
    now := ⟨1, Int.one_pos⟩
    info := { requestId := requestId, tenantId := 7, tenantBillingMode := some .postpaid }
    usage := none
    sellQuota := 30
    metadata := { requestId := requestId, createdAt := at_, createdAt_nonneg := hat }
    attempts := fun _ => { now := ⟨1, Int.one_pos⟩, autoId := id } }

end TokenRouter
