import TokenRouter.Spec.CreditBuckets
import TokenRouter.Spec.UnbilledExact

/-!
# The life of a billing statement

A statement is drafted, possibly drafted again, confirmed, paid in instalments and
perhaps swept as overdue in between. Once it has left draft its amounts are locked, the
payments never exceed the payable amount, and `paid` is where it ends.

## Key results

- `markOverdueLoop_find`: what the overdue sweep makes of each statement
- `exec_lifecycleInv`, `exec_lifecycleStep`: one operation
- `statement_lifecycle`: every sequence of operations
-/

namespace TokenRouter

/-! ## The overdue sweep -/

/-- What the sweep makes of a statement that it looks at. -/
def sweptStatement (payments : Table PaymentRecord (·.id)) (s : BillingStatement) :
    BillingStatement :=
  if awaitsPayment s.status then
    { s with status := if s.payable ≤ paidAmount payments s.id then .paid else .overdue }
  else s

@[simp] theorem sweptStatement_id (payments : Table PaymentRecord (·.id)) (s : BillingStatement) :
    (sweptStatement payments s).id = s.id := by
  unfold sweptStatement
  split <;> rfl

theorem sweptStatement_settled (payments : Table PaymentRecord (·.id)) (s : BillingStatement) :
    awaitsPayment (sweptStatement payments s).status = false := by
  unfold sweptStatement
  split
  · dsimp only
    split <;> rfl
  · next hawait => simpa using hawait

/-- A second look changes nothing. -/
theorem sweptStatement_idem (payments : Table PaymentRecord (·.id)) (s : BillingStatement) :
    sweptStatement payments (sweptStatement payments s) = sweptStatement payments s := by
  conv_lhs => rw [sweptStatement]
  rw [sweptStatement_settled]
  rfl

/-- The transaction of one statement sweeps that statement and keeps the payments. -/
theorem markOverdueStatement_find {db db' : DB} {id : Nat}
    (h : markOverdueStatement db id = .ok db') :
    db'.payments = db.payments ∧ ∀ j, db'.statements.find? j =
      if id = j then (db.statements.find? j).map (sweptStatement db.payments)
      else db.statements.find? j := by
  unfold markOverdueStatement at h
  split at h
  · exact nomatch h
  next s hfind =>
  obtain rfl : s.id = id := Table.find?_key hfind
  split at h
  · next hawait =>
    rw [Except.ok.injEq] at h
    subst h
    refine ⟨rfl, ?_⟩
    intro j
    split
    · next hj =>
      subst hj
      rw [hfind, Option.map_some, sweptStatement, if_neg hawait]
    · rfl
  next hawait =>
  have hset : ∀ status, sweptStatement db.payments s = { s with status := status } → ∀ j,
      (db.statements.set { s with status := status }).find? j =
        if s.id = j then (db.statements.find? j).map (sweptStatement db.payments)
        else db.statements.find? j := by
    intro status hswept j
    rw [Table.find?_set]
    dsimp only
    split
    · next hj =>
      subst hj
      rw [hfind, Option.map_some, Option.map_some, hswept]
    · rfl
  have hawait' : awaitsPayment s.status = true := not_not.mp hawait
  dsimp only at h
  split at h
  · next hrem =>
    rw [Except.ok.injEq] at h
    subst h
    refine ⟨rfl, hset .paid ?_⟩
    rw [sweptStatement, if_pos hawait', if_pos (by omega)]
  next hrem =>
  split at h
  · exact nomatch h
  rw [Except.ok.injEq] at h
  subst h
  refine ⟨rfl, hset .overdue ?_⟩
  rw [sweptStatement, if_pos hawait', if_neg (by omega)]

/-- The sweep looks at the listed statements, as far as it comes without an error. -/
theorem markOverdueLoop_find : ∀ {ids : List Nat} {db : DB}, (markOverdueLoop db ids).2 = none →
    ∀ j, (markOverdueLoop db ids).1.statements.find? j =
      if j ∈ ids then (db.statements.find? j).map (sweptStatement db.payments)
      else db.statements.find? j
  | [], _, _, j => by simp [markOverdueLoop]
  | id :: ids, db, h, j => by
    unfold markOverdueLoop at h ⊢
    split at h
    · cases h
    next db' hok =>
    obtain ⟨hpay, hfind⟩ := markOverdueStatement_find hok
    rw [markOverdueLoop_find h j, hfind j, hpay]
    by_cases hj : id = j
    · -- swept first, and perhaps looked at again
      subst hj
      rw [if_pos rfl, if_pos List.mem_cons_self, Option.map_map]
      split
      · congr 1
        funext s
        exact sweptStatement_idem db.payments s
      · rfl
    · simp [hj, Ne.symm hj]

/-! ## One operation -/

/-- The error that a transaction returns. -/
def errorOf {α : Type} : Except String α → Option String
  | .ok _ => none
  | .error e => some e

/-- The error that a call returns. -/
def TenantOp.error? (db : DB) : TenantOp → Option String
  | .recordUsage c => errorOf (recordUsageWithMeta db c)
  | .reserve tenantId quota => errorOf (reserveTenantCredit db tenantId quota)
  | .release tenantId quota => errorOf (releaseTenantCredit db tenantId quota)
  | .generate now tenantId periodStart periodEnd adjustment =>
    errorOf (generateTenantBillingStatement db now tenantId periodStart periodEnd adjustment)
  | .confirm now tenantId statementId =>
    errorOf (confirmTenantBillingStatement db now tenantId statementId)
  | .registerPayment now tenantId statementId amount method invoiceNo invoiceStatus actorId =>
    errorOf (registerTenantPaymentAndInvoice db now tenantId statementId amount method invoiceNo
      invoiceStatus actorId)
  | .markOverdue clock now => (markOverdueTenantStatements db clock now).2

/-- The statement is one that the overdue sweep selects. -/
def isDue (clock : Timestamp) (now : Int) (s : BillingStatement) : Prop :=
  awaitsPayment s.status ∧ 0 < s.dueDate ∧ s.dueDate < if now ≤ 0 then clock.unix else now

instance (clock : Timestamp) (now : Int) (s : BillingStatement) : Decidable (isDue clock now s) :=
  inferInstanceAs (Decidable (_ ∧ _))

/-- The operation completes the statement: a payment that is accepted and makes the
    payments sum to the payable amount, or a sweep that finds nothing remaining. -/
def Completes (db : DB) (s : BillingStatement) : TenantOp → Prop
  | .registerPayment now tenantId statementId amount method invoiceNo invoiceStatus actorId =>
    statementId = s.id ∧ TenantOp.error? db (.registerPayment now tenantId statementId amount method
      invoiceNo invoiceStatus actorId) = none ∧ paidAmount db.payments s.id + amount = s.payable
  | .markOverdue clock now => isDue clock now s ∧ paidAmount db.payments s.id = s.payable
  | _ => False

/-- What one operation does to the statements that are there. -/
structure LifecycleStep (db : DB) (op : TenantOp) : Prop where
  /-- a statement that left draft keeps its amounts and does not go back to draft -/
  locked : ∀ s ∈ db.statements.rows, billingStatementRegenerationLocked s.status = true →
    ∃ s' ∈ (op.exec db).statements.rows, s'.id = s.id ∧ s'.amount = s.amount ∧
      s'.adjustment = s.adjustment ∧ s'.payable = s.payable ∧
      billingStatementRegenerationLocked s'.status = true
  /-- a paid statement stays paid -/
  absorbing : ∀ s ∈ db.statements.rows, s.status = .paid →
    ∃ s' ∈ (op.exec db).statements.rows, s'.id = s.id ∧ s'.status = .paid
  /-- an unpaid one becomes paid exactly by an operation that completes it -/
  completed : ∀ s ∈ db.statements.rows, s.status ≠ .paid →
    ∀ s' ∈ (op.exec db).statements.rows, s'.id = s.id → (s'.status = .paid ↔ Completes db s op)
  /-- a failed operation changes nothing -/
  failed : op.error? db ≠ none → op.exec db = db

/-- The payments of every statement are within its payable amount, make it up when the
    statement is paid, and fall short of it while there is something to pay. -/
structure StatementsPaid (db : DB) : Prop where
  within : ∀ s ∈ db.statements.rows, paidAmount db.payments s.id ≤ s.payable
  paid : ∀ s ∈ db.statements.rows, s.status = .paid → paidAmount db.payments s.id = s.payable
  unpaid : ∀ s ∈ db.statements.rows, s.status ≠ .paid → 0 < s.payable →
    paidAmount db.payments s.id < s.payable

/-- What holds in every state of a run. -/
structure LifecycleInv (db : DB) : Prop where
  wf : StatementsWF db
  paid : ∀ s ∈ db.statements.rows, s.status = .paid → paidAmount db.payments s.id = s.payable
  unpaid : ∀ s ∈ db.statements.rows, s.status ≠ .paid → 0 < s.payable →
    paidAmount db.payments s.id < s.payable
  accounts : ∀ s ∈ db.statements.rows, billingStatementRegenerationLocked s.status = true →
    (db.accounts.find? s.tenantId).isSome

/-! ## The operations keep the invariant -/

/-- No operation drops an account row. -/
def AccountsKept (db db' : DB) : Prop :=
  ∀ tenantId, (db.accounts.find? tenantId).isSome → (db'.accounts.find? tenantId).isSome

theorem AccountsKept.of_set {db db' : DB} {a : CreditAccount}
    (h : db'.accounts = db.accounts.set a) : AccountsKept db db' := by
  intro tenantId hsome
  rw [h, Table.find?_set]
  split
  · rw [Option.isSome_map]
    exact hsome
  · exact hsome

theorem AccountsKept.of_save (db : DB) (a : CreditAccount) : AccountsKept db (db.saveAccount a) := by
  intro tenantId hsome
  rw [DB.find?_saveAccount]
  split
  · rfl
  · exact hsome

theorem Stored.accountsKept {loc : Location} {db db' : DB} {row : UsageLedger}
    (h : Stored loc db row db') : AccountsKept db db' := by
  obtain ⟨now, db₂, happly, rfl⟩ := h.written
  rcases applyTenantLedgerCreditTx_cases { db with ledgers := db.ledgers.insert row } row with
    ⟨hok, -⟩ | ⟨-, -, a, -, hok⟩
  · rw [hok, Except.ok.injEq] at happly
    rw [← happly]
    exact fun _ hsome => hsome
  · rw [hok, Except.ok.injEq] at happly
    rw [← happly]
    exact .of_save _ _

/-- The statements and payments are the same. -/
theorem LifecycleInv.congr {db db' : DB} (h : LifecycleInv db)
    (hs : db'.statements = db.statements) (hp : db'.payments = db.payments)
    (hacc : AccountsKept db db') : LifecycleInv db' := by
  refine ⟨h.wf.congr hs hp, ?_, ?_, ?_⟩
  · rw [hs, hp]
    exact h.paid
  · rw [hs, hp]
    exact h.unpaid
  · rw [hs]
    intro s hmem hlocked
    exact hacc _ (h.accounts s hmem hlocked)

/-- One statement is overwritten. -/
theorem LifecycleInv.set {db db' : DB} (h : LifecycleInv db) (hwf : StatementsWF db')
    {s' : BillingStatement} (hst : db'.statements = db.statements.set s')
    (hpay : ∀ x ∈ db.statements.rows, x.id ≠ s'.id →
      paidAmount db'.payments x.id = paidAmount db.payments x.id)
    (hacc : AccountsKept db db')
    (hpaid : s'.status = .paid → paidAmount db'.payments s'.id = s'.payable)
    (hunpaid : s'.status ≠ .paid → 0 < s'.payable → paidAmount db'.payments s'.id < s'.payable)
    (haccount : billingStatementRegenerationLocked s'.status = true →
      (db'.accounts.find? s'.tenantId).isSome) : LifecycleInv db' := by
  refine ⟨hwf, ?_, ?_, ?_⟩
  · intro x hx
    rw [hst] at hx
    rcases Table.mem_set hx with rfl | ⟨hold, hne⟩
    · exact hpaid
    · rw [hpay x hold hne]
      exact h.paid x hold
  · intro x hx
    rw [hst] at hx
    rcases Table.mem_set hx with rfl | ⟨hold, hne⟩
    · exact hunpaid
    · rw [hpay x hold hne]
      exact h.unpaid x hold
  · intro x hx hlocked
    rw [hst] at hx
    rcases Table.mem_set hx with rfl | ⟨hold, hne⟩
    · exact haccount hlocked
    · exact hacc _ (h.accounts x hold hlocked)

theorem generate_lifecycleInv {db db' : DB} {now : Timestamp} {s : BillingStatement}
    {tenantId periodStart periodEnd adjustment : Int} (hinv : LifecycleInv db)
    (h : generateTenantBillingStatement db now tenantId periodStart periodEnd adjustment =
      .ok (s, db')) : LifecycleInv db' := by
  have hwf := generate_statementsWF hinv.wf h
  obtain ⟨-, -, -, -, -, -, hstatus, hcase⟩ := generateTenantBillingStatement_ok h
  have hpaid : s.status = .paid → paidAmount db'.payments s.id = s.payable := by
    intro hs
    rw [hstatus] at hs
    exact nomatch hs
  have hlocked : billingStatementRegenerationLocked s.status = true →
      (db'.accounts.find? s.tenantId).isSome := by
    intro hs
    rw [hstatus] at hs
    exact nomatch hs
  -- a draft has no payments
  have hunpaid : s ∈ db'.statements.rows → s.status ≠ .paid → 0 < s.payable →
      paidAmount db'.payments s.id < s.payable := by
    intro hmem _ hpos
    rw [hwf.draft_unpaid s hmem (by rw [hstatus]; rfl)]
    exact hpos
  rcases hcase with ⟨old, hfind, -, -, -, -, rfl⟩ | ⟨hnone, -, rfl⟩
  · exact hinv.set hwf rfl (fun _ _ _ => rfl) (fun _ hs => hs) hpaid
      (hunpaid (Table.mem_set_self hfind)) hlocked
  · refine ⟨hwf, ?_, ?_, ?_⟩
    · intro x hx
      rcases (Table.mem_insert hnone).mp hx with hold | rfl
      · exact hinv.paid x hold
      · exact hpaid
    · intro x hx
      rcases (Table.mem_insert hnone).mp hx with hold | rfl
      · exact hinv.unpaid x hold
      · exact hunpaid hx
    · intro x hx
      rcases (Table.mem_insert hnone).mp hx with hold | rfl
      · exact hinv.accounts x hold
      · exact hlocked

theorem confirm_lifecycleInv {db db' : DB} {now : Timestamp} {tenantId : Int} {statementId : Nat}
    (hinv : LifecycleInv db)
    (h : confirmTenantBillingStatement db now tenantId statementId = .ok db') :
    LifecycleInv db' := by
  have hwf := confirm_statementsWF hinv.wf h
  obtain ⟨s, a, hfind, htenant, hdraft, hacc, rfl⟩ := confirmTenantBillingStatement_ok h
  have hmem := Table.find?_mem hfind
  have hkept : AccountsKept db { db with
      statements := db.statements.set { s with status := .confirmed, confirmedAt := now.unix }
      accounts := db.accounts.set { a with
        unbilledAmount := max 0 (a.unbilledAmount - s.payable)
        billedUnpaidAmount := a.billedUnpaidAmount + s.payable }.recalculate } := .of_set rfl
  have hne : s.status ≠ .paid := by
    rcases hdraft with hdraft | hdraft <;> rw [hdraft] <;> simp
  refine hinv.set hwf rfl (fun _ _ _ => rfl) hkept nofun (fun _ => hinv.unpaid s hmem hne) ?_
  intro _
  apply hkept
  rw [htenant, hacc]
  rfl

theorem registerPayment_lifecycleInv {db db' : DB} {now : Timestamp} {tenantId : Int}
    {statementId : Nat} {amount : Int} {method invoiceNo invoiceStatus : String} {actorId : Int}
    (hinv : LifecycleInv db)
    (h : registerTenantPaymentAndInvoice db now tenantId statementId amount method invoiceNo
      invoiceStatus actorId = .ok db') : LifecycleInv db' := by
  have hwf := registerPayment_statementsWF hinv.wf h
  obtain ⟨s, a, p, hfind, htenant, -, hacc, hpos, hle, hp, hps, hpa, -, -, -, -, hpay, hst, hset⟩ :=
    registerTenantPaymentAndInvoice_ok h
  have hkept : AccountsKept db db' := .of_set hset
  obtain rfl : s.id = statementId := Table.find?_key hfind
  rw [← hpay] at hst
  -- the status says whether the payments have reached the payable amount
  refine hinv.set hwf hst ?_ hkept ?_ ?_ ?_
  · intro x _ hne
    rw [hpay, paidAmount_insert hp, if_neg (by rw [hps]; exact Ne.symm hne), add_zero]
  · intro hstatus
    have hsum := hwf.paid_le _ (by rw [hst]; exact Table.mem_set_self hfind)
    dsimp only [paidStatus] at hstatus hsum ⊢
    split_ifs at hstatus with hge
    omega
  · intro hstatus _
    dsimp only [paidStatus] at hstatus ⊢
    split_ifs at hstatus with hge hover
    · exact absurd rfl hstatus
    · omega
    · omega
  · intro _
    apply hkept
    dsimp only
    rw [htenant, hacc]
    rfl

theorem markOverdueStatement_lifecycleInv {db db' : DB} {id : Nat} (hinv : LifecycleInv db)
    (h : markOverdueStatement db id = .ok db') : LifecycleInv db' := by
  have hwf := markOverdue_statementsWF hinv.wf h
  rcases markOverdueStatement_ok h with rfl | ⟨s, hfind, hawait, ⟨hpaid, rfl⟩ | ⟨hrem, a, -, rfl⟩⟩
  · exact hinv
  · have hmem := Table.find?_mem hfind
    have hle := hinv.wf.paid_le s hmem
    refine hinv.set hwf rfl (fun _ _ _ => rfl) (fun _ hs => hs) ?_ nofun ?_
    · intro _
      dsimp only
      omega
    · intro _
      exact hinv.accounts s hmem (locked_of_awaitsPayment hawait)
  · have hmem := Table.find?_mem hfind
    have hkept : AccountsKept db { db with
        statements := db.statements.set { s with status := .overdue }
        accounts := db.accounts.set { a with
          billedUnpaidAmount :=
            max 0 (a.billedUnpaidAmount - (s.payable - paidAmount db.payments s.id))
          overdueAmount :=
            a.overdueAmount + (s.payable - paidAmount db.payments s.id) }.recalculate } :=
      .of_set rfl
    refine hinv.set hwf rfl (fun _ _ _ => rfl) hkept nofun (fun _ _ => hrem) ?_
    intro _
    apply hkept
    exact hinv.accounts s hmem (locked_of_awaitsPayment hawait)

/-- Every operation keeps the invariant. -/
theorem exec_lifecycleInv (db : DB) (op : TenantOp) (hinv : LifecycleInv db) :
    LifecycleInv (op.exec db) := by
  cases op with
  | recordUsage c =>
    apply commit_inv hinv
    intro db' h
    rcases recordUsageWithMeta_ok h with rfl | ⟨row, hstored, -, -⟩
    · exact hinv
    · exact hinv.congr (by rw [hstored.frame]) (by rw [hstored.frame]) hstored.accountsKept
  | reserve tenantId quota =>
    apply commit_inv hinv
    intro db' h
    rcases reserveTenantCredit_ok h with ⟨rfl, -⟩ | ⟨-, -, config, a, -, -, -, -, rfl⟩
    · exact hinv
    · exact hinv.congr rfl rfl (.of_save db _)
  | release tenantId quota =>
    apply commit_inv hinv
    intro db' h
    rcases releaseTenantCredit_cases db tenantId quota with ⟨hok, -⟩ | ⟨-, -, a, -, -, hok⟩
    · rw [hok, Except.ok.injEq] at h
      rw [← h]
      exact hinv
    · rw [hok, Except.ok.injEq] at h
      rw [← h]
      exact hinv.congr rfl rfl (.of_save db _)
  | generate now tenantId periodStart periodEnd adjustment =>
    apply commit_inv hinv
    intro db' h
    obtain ⟨s, hgen⟩ := generate_map_ok h
    exact generate_lifecycleInv hinv hgen
  | confirm now tenantId statementId =>
    apply commit_inv hinv
    intro db' h
    exact confirm_lifecycleInv hinv h
  | registerPayment now tenantId statementId amount method invoiceNo invoiceStatus actorId =>
    apply commit_inv hinv
    intro db' h
    exact registerPayment_lifecycleInv hinv h
  | markOverdue clock now =>
    exact markOverdueTenantStatements_inv (fun _ _ _ => markOverdueStatement_lifecycleInv) hinv
      clock now

/-! ## What one operation does to a statement -/

/-- What an operation may make of the statement `s`. -/
structure Moved (db : DB) (op : TenantOp) (s s' : BillingStatement) : Prop where
  id : s'.id = s.id
  locked : billingStatementRegenerationLocked s.status = true →
    s'.amount = s.amount ∧ s'.adjustment = s.adjustment ∧ s'.payable = s.payable ∧
      billingStatementRegenerationLocked s'.status = true
  absorbing : s.status = .paid → s'.status = .paid
  completed : s.status ≠ .paid → (s'.status = .paid ↔ Completes db s op)

/-- Every statement is still there, moved by the operation. -/
def Moves (db : DB) (op : TenantOp) (db' : DB) : Prop :=
  ∀ s ∈ db.statements.rows, ∃ s' ∈ db'.statements.rows, Moved db op s s'

/-- A statement that the operation leaves alone. -/
theorem Moved.refl {db : DB} {op : TenantOp} {s : BillingStatement}
    (h : s.status ≠ .paid → ¬ Completes db s op) : Moved db op s s :=
  ⟨rfl, fun hlocked => ⟨rfl, rfl, rfl, hlocked⟩, fun hs => hs,
    fun hs => iff_of_false hs (h hs)⟩

theorem Moves.of_eq {db db' : DB} {op : TenantOp} (hst : db'.statements = db.statements)
    (h : ∀ s ∈ db.statements.rows, s.status ≠ .paid → ¬ Completes db s op) : Moves db op db' := by
  intro s hs
  rw [hst]
  exact ⟨s, hs, .refl (h s hs)⟩

theorem Moves.of_set {db db' : DB} {op : TenantOp} {s s' : BillingStatement}
    (hst : db'.statements = db.statements.set s') (hfind : db.statements.find? s.id = some s)
    (hmoved : Moved db op s s')
    (hother : ∀ x ∈ db.statements.rows, x.id ≠ s.id → x.status ≠ .paid → ¬ Completes db x op) :
    Moves db op db' := by
  intro x hx
  rw [hst]
  by_cases hid : x.id = s.id
  · obtain rfl : x = s := db.statements.eq_of_key_eq hx (Table.find?_mem hfind) hid
    exact ⟨s', Table.mem_set_self (by rw [hmoved.id]; exact hfind), hmoved⟩
  · exact ⟨x, Table.mem_set_of_ne hx (by rw [hmoved.id]; exact hid), .refl (hother x hx hid)⟩

/-- The parts of `LifecycleStep`, from what happened to each statement. -/
theorem LifecycleStep.of_moves {db : DB} {op : TenantOp} (h : Moves db op (op.exec db))
    (hfailed : op.error? db ≠ none → op.exec db = db) : LifecycleStep db op := by
  refine ⟨?_, ?_, ?_, hfailed⟩
  · intro s hs hlocked
    obtain ⟨s', hs', hmoved⟩ := h s hs
    exact ⟨s', hs', hmoved.id, hmoved.locked hlocked⟩
  · intro s hs hpaid
    obtain ⟨s', hs', hmoved⟩ := h s hs
    exact ⟨s', hs', hmoved.id, hmoved.absorbing hpaid⟩
  · intro s hs hne x hx hid
    obtain ⟨s', hs', hmoved⟩ := h s hs
    have hsame : x = s' :=
      (op.exec db).statements.eq_of_key_eq hx hs' (hid.trans hmoved.id.symm)
    rw [hsame]
    exact hmoved.completed hne

/-- A failed transaction is rolled back. -/
theorem commit_of_error {db : DB} {r : Except String DB} (h : errorOf r ≠ none) :
    commit db r = db := by
  cases r with
  | error e => rfl
  | ok db' => exact absurd rfl h

theorem generate_moves {db db' : DB} {now : Timestamp} {s : BillingStatement}
    {tenantId periodStart periodEnd adjustment : Int}
    (h : generateTenantBillingStatement db now tenantId periodStart periodEnd adjustment =
      .ok (s, db')) : Moves db (.generate now tenantId periodStart periodEnd adjustment) db' := by
  obtain ⟨-, -, -, -, -, -, hstatus, hcase⟩ := generateTenantBillingStatement_ok h
  rcases hcase with ⟨old, hfind, -, -, -, hold, rfl⟩ | ⟨hnone, -, rfl⟩
  · have hid : old.id = s.id := Table.find?_key hfind
    have hnotLocked := draft_of_not_locked hold
    rw [← hid] at hfind
    refine .of_set rfl hfind ⟨hid.symm, ?_, ?_, ?_⟩ fun _ _ _ _ => not_false
    · intro hlocked
      rw [hnotLocked] at hlocked
      exact nomatch hlocked
    · intro hpaid
      rw [hpaid] at hnotLocked
      exact nomatch hnotLocked
    · intro _
      rw [hstatus]
      exact iff_of_false nofun not_false
  · intro x hx
    exact ⟨x, (Table.mem_insert hnone).mpr (.inl hx), .refl fun _ => not_false⟩

theorem confirm_moves {db db' : DB} {now : Timestamp} {tenantId : Int} {statementId : Nat}
    (h : confirmTenantBillingStatement db now tenantId statementId = .ok db') :
    Moves db (.confirm now tenantId statementId) db' := by
  obtain ⟨s, a, hfind, -, hdraft, -, rfl⟩ := confirmTenantBillingStatement_ok h
  rw [← Table.find?_key hfind] at hfind
  refine .of_set rfl hfind ⟨rfl, fun _ => ⟨rfl, rfl, rfl, rfl⟩, ?_, ?_⟩ fun _ _ _ _ => not_false
  · intro hpaid
    rcases hdraft with hdraft | hdraft
    · rw [hdraft] at hpaid
      exact nomatch hpaid
    · rw [hdraft] at hpaid
      exact nomatch hpaid
  · intro _
    exact iff_of_false nofun not_false

/-- A payment is accepted for an unpaid statement, and completes it exactly when it makes
    up what remained. -/
theorem registerPayment_moves {db db' : DB} {now : Timestamp} {tenantId : Int}
    {statementId : Nat} {amount : Int} {method invoiceNo invoiceStatus : String} {actorId : Int}
    (h : registerTenantPaymentAndInvoice db now tenantId statementId amount method invoiceNo
      invoiceStatus actorId = .ok db') :
    Moves db (.registerPayment now tenantId statementId amount method invoiceNo invoiceStatus
      actorId) db' := by
  obtain ⟨s, a, p, hfind, -, haccept, -, -, hle, hp, hps, hpa, -, -, -, -, -, hst, -⟩ :=
    registerTenantPaymentAndInvoice_ok h
  obtain rfl : s.id = statementId := Table.find?_key hfind
  have hsum : paidAmount (db.payments.insert p) s.id = paidAmount db.payments s.id + amount := by
    rw [paidAmount_insert hp, if_pos hps, hpa]
  have hnoError : TenantOp.error? db (.registerPayment now tenantId s.id amount method invoiceNo
      invoiceStatus actorId) = none := by
    dsimp only [TenantOp.error?]
    rw [h]
    rfl
  refine .of_set hst hfind ⟨rfl, fun _ => ⟨rfl, rfl, rfl, locked_paidStatus s _⟩, ?_, ?_⟩ ?_
  · intro hpaid
    rw [hpaid] at haccept
    exact nomatch haccept
  · intro _
    dsimp only [paidStatus, Completes]
    rw [hsum, hnoError]
    split
    · exact iff_of_true rfl ⟨rfl, rfl, by omega⟩
    · split
      · exact iff_of_false nofun fun hcomplete => by omega
      · exact iff_of_false nofun fun hcomplete => by omega
  · intro x _ hne _ hcomplete
    exact hne hcomplete.1.symm

/-- The sweep never fails in a reachable state: a statement that left draft has an
    account. -/
theorem markOverdueStatement_total {db : DB} (hinv : LifecycleInv db) {id : Nat}
    (hid : (db.statements.find? id).isSome) : ∃ db', markOverdueStatement db id = .ok db' := by
  obtain ⟨s, hs⟩ := Option.isSome_iff_exists.mp hid
  unfold markOverdueStatement
  rw [hs]
  dsimp only
  split
  · exact ⟨_, rfl⟩
  next hawait =>
  have hlocked := locked_of_awaitsPayment (not_not.mp hawait)
  obtain ⟨a, ha⟩ := Option.isSome_iff_exists.mp (hinv.accounts s (Table.find?_mem hs) hlocked)
  split
  · exact ⟨_, rfl⟩
  · rw [ha]
    exact ⟨_, rfl⟩

theorem markOverdueLoop_noError : ∀ {ids : List Nat} {db : DB}, LifecycleInv db →
    (∀ id ∈ ids, (db.statements.find? id).isSome) → (markOverdueLoop db ids).2 = none
  | [], _, _, _ => rfl
  | id :: ids, db, hinv, hids => by
    obtain ⟨db', hok⟩ := markOverdueStatement_total hinv (hids id List.mem_cons_self)
    unfold markOverdueLoop
    rw [hok]
    apply markOverdueLoop_noError (markOverdueStatement_lifecycleInv hinv hok)
    intro j hj
    have hsome := hids j (List.mem_cons_of_mem id hj)
    rw [(markOverdueStatement_find hok).2 j]
    split
    · rw [Option.isSome_map]
      exact hsome
    · exact hsome

theorem markOverdue_noError {db : DB} (hinv : LifecycleInv db) (clock : Timestamp) (now : Int) :
    (markOverdueTenantStatements db clock now).2 = none := by
  apply markOverdueLoop_noError hinv
  intro id hid
  obtain ⟨s, hs, rfl⟩ := List.mem_map.mp hid
  rw [Table.find?_of_mem (List.mem_filter.mp hs).1]
  rfl

/-- The sweep looks at the due statements and at no other. -/
theorem markOverdue_find {db : DB} (hinv : LifecycleInv db) (clock : Timestamp) (now : Int)
    {s : BillingStatement} (hs : s ∈ db.statements.rows) :
    (markOverdueTenantStatements db clock now).1.statements.find? s.id =
      some (if isDue clock now s then sweptStatement db.payments s else s) := by
  have hdue : s.id ∈ (db.statements.rows.filter fun s => awaitsPayment s.status ∧ 0 < s.dueDate ∧
      s.dueDate < if now ≤ 0 then clock.unix else now).map (·.id) ↔ isDue clock now s := by
    constructor
    · intro hmem
      obtain ⟨x, hx, hid⟩ := List.mem_map.mp hmem
      obtain ⟨hrow, hcond⟩ := List.mem_filter.mp hx
      obtain rfl : x = s := db.statements.eq_of_key_eq hrow hs hid
      exact of_decide_eq_true hcond
    · intro hcond
      exact List.mem_map.mpr ⟨s, List.mem_filter.mpr ⟨hs, decide_eq_true hcond⟩, rfl⟩
  have hloop := markOverdueLoop_find (markOverdue_noError hinv clock now) s.id
  rw [Table.find?_of_mem hs] at hloop
  refine hloop.trans ?_
  by_cases hcond : isDue clock now s
  · rw [if_pos (hdue.mpr hcond), if_pos hcond]
    rfl
  · rw [if_neg (mt hdue.mp hcond), if_neg hcond]

theorem markOverdue_moves {db : DB} (hinv : LifecycleInv db) (clock : Timestamp) (now : Int) :
    Moves db (.markOverdue clock now) (markOverdueTenantStatements db clock now).1 := by
  intro s hs
  have hfind := markOverdue_find hinv clock now hs
  refine ⟨_, Table.find?_mem hfind, ?_⟩
  split
  · next hdue =>
    have hle := hinv.wf.paid_le s hs
    rw [sweptStatement, if_pos hdue.1]
    refine ⟨rfl, ?_, ?_, ?_⟩
    · intro _
      refine ⟨rfl, rfl, rfl, ?_⟩
      dsimp only
      split <;> rfl
    · intro hpaid
      rw [isDue, hpaid] at hdue
      exact nomatch hdue.1
    · intro _
      dsimp only [Completes]
      split
      · exact iff_of_true rfl ⟨hdue, by omega⟩
      · exact iff_of_false nofun fun hcomplete => by omega
  · next hdue => exact .refl fun _ hcomplete => hdue hcomplete.1

/-- Every statement is moved as its operation says. -/
theorem exec_moves (db : DB) (op : TenantOp) (hinv : LifecycleInv db) :
    Moves db op (op.exec db) := by
  cases op with
  | recordUsage c =>
    have hno : ∀ s, ¬ Completes db s (.recordUsage c) := fun s => not_false
    refine commit_inv (P := Moves db (.recordUsage c)) (.of_eq rfl fun s _ _ => hno s) ?_
    intro db' h
    rcases recordUsageWithMeta_ok h with rfl | ⟨row, hstored, -, -⟩
    · exact .of_eq rfl fun s _ _ => hno s
    · exact .of_eq (by rw [hstored.frame]) fun s _ _ => hno s
  | reserve t quota =>
    have hno : ∀ s, ¬ Completes db s (.reserve t quota) := fun s => not_false
    refine commit_inv (P := Moves db (.reserve t quota)) (.of_eq rfl fun s _ _ => hno s) ?_
    intro db' h
    have hframe := (reserveTenantCredit_frame h reserveFree_overdue t).1
    exact .of_eq (by rw [hframe]) fun s _ _ => hno s
  | release t quota =>
    have hno : ∀ s, ¬ Completes db s (.release t quota) := fun s => not_false
    refine commit_inv (P := Moves db (.release t quota)) (.of_eq rfl fun s _ _ => hno s) ?_
    intro db' h
    have hframe := (releaseTenantCredit_frame h reserveFree_overdue t).1
    exact .of_eq (by rw [hframe]) fun s _ _ => hno s
  | generate now t periodStart periodEnd adjustment =>
    refine commit_inv (P := Moves db (.generate now t periodStart periodEnd adjustment))
      (.of_eq rfl fun s _ _ => not_false) ?_
    intro db' h
    obtain ⟨s, hgen⟩ := generate_map_ok h
    exact generate_moves hgen
  | confirm now t statementId =>
    refine commit_inv (P := Moves db (.confirm now t statementId))
      (.of_eq rfl fun s _ _ => not_false) ?_
    intro db' h
    exact confirm_moves h
  | registerPayment now t statementId amount method invoiceNo invoiceStatus actorId =>
    dsimp only [TenantOp.exec]
    cases hpay : registerTenantPaymentAndInvoice db now t statementId amount method
        invoiceNo invoiceStatus actorId with
    | error e =>
      -- a refused payment completes nothing
      refine .of_eq rfl ?_
      intro s _ _ hcomplete
      have herror := hcomplete.2.1
      dsimp only [TenantOp.error?] at herror
      rw [hpay] at herror
      exact nomatch herror
    | ok db' => exact registerPayment_moves hpay
  | markOverdue clock now => exact markOverdue_moves hinv clock now

/-- An operation that returns an error changes nothing. -/
theorem exec_of_error (db : DB) (op : TenantOp) (hinv : LifecycleInv db)
    (h : op.error? db ≠ none) : op.exec db = db := by
  cases op with
  | recordUsage c => exact commit_of_error h
  | reserve t quota => exact commit_of_error h
  | release t quota => exact commit_of_error h
  | generate now t periodStart periodEnd adjustment =>
    dsimp only [TenantOp.error?, TenantOp.exec] at h ⊢
    cases hgen : generateTenantBillingStatement db now t periodStart periodEnd adjustment with
    | error e => rfl
    | ok r =>
      rw [hgen] at h
      exact absurd rfl h
  | confirm now t statementId => exact commit_of_error h
  | registerPayment now t statementId amount method invoiceNo invoiceStatus actorId =>
    exact commit_of_error h
  | markOverdue clock now => exact absurd (markOverdue_noError hinv clock now) h

/-- What every operation does to the statements, in a reachable state. -/
theorem exec_lifecycleStep (db : DB) (op : TenantOp) (hinv : LifecycleInv db) :
    LifecycleStep db op :=
  .of_moves (exec_moves db op hinv) (exec_of_error db op hinv)

/-! ## Runs -/

/-- Over every sequence of operations on a database without statements and payments, the
    payments of a statement stay within its payable amount and reach it exactly when the
    statement is paid; and every operation keeps the locked amounts, leaves paid
    statements paid, completes a statement only by its last payment or by a sweep that
    finds nothing remaining, and changes nothing when it fails. -/
theorem statement_lifecycle (db : DB) (hstatements : db.statements = .empty)
    (hpayments : db.payments = .empty) (ops : List TenantOp) :
    Run.Always TenantOp.exec StatementsPaid db ops ∧
      Run.Steps TenantOp.exec LifecycleStep db ops := by
  have hstart : LifecycleInv db := by
    refine ⟨⟨?_, ?_, ?_, ?_⟩, ?_, ?_, ?_⟩ <;> simp [hstatements, hpayments]
  have hall := Run.always_of_inv exec_lifecycleInv hstart ops
  refine ⟨hall.mono fun db h => ⟨h.wf.paid_le, h.paid, h.unpaid⟩, ?_⟩
  exact Run.steps_of_always (fun db op h => exec_lifecycleStep db op h) hall

/-- A statement of 30 that is paid in two instalments. -/
theorem statement_lifecycle_two_instalments :
    StatementsPaid (Run.run TenantOp.exec DB.empty
      [.recordUsage (recordAt 5 "a" 1), .generate ⟨20, by decide⟩ 7 1 10 0,
        .confirm ⟨20, by decide⟩ 7 1,
        .registerPayment ⟨21, by decide⟩ 7 1 10 "bank" "" "" 1,
        .registerPayment ⟨22, by decide⟩ 7 1 20 "bank" "" "" 1]) :=
  (statement_lifecycle DB.empty rfl rfl _).1.last

end TokenRouter
