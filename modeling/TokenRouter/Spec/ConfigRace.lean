import TokenRouter.Service.TenantConfig
import TokenRouter.Spec.StatementLifecycle

/-!
# Configuration changes and credit traffic

A change of the billing configuration is meant to leave the four amounts of the credit
account alone. `ConfigSystem` runs the credit transactions twice, once with the
configuration calls between them and once without, and compares the amounts. The account
that a call writes back holds the amounts it has read, so the two runs agree exactly as
long as every call finds those amounts unchanged when it writes.

## Key results

- `AccountTx.run_sameAmounts`: a transaction that both runs accept or refuse keeps them equal
- `amounts_unchanged_iff_reads_current`: the equivalence over every interleaving
- `config_write_loses_reservation`: a reservation between the read and the write is lost
-/

namespace TokenRouter

/-! ## The amounts of an account -/

/-- The four amounts of a credit account. -/
structure Amounts where
  reserved : Int := 0
  unbilled : Int := 0
  billedUnpaid : Int := 0
  overdue : Int := 0
  deriving DecidableEq

/-- The amounts of an account row. -/
def CreditAccount.amounts (a : CreditAccount) : Amounts :=
  ⟨a.reservedAmount, a.unbilledAmount, a.billedUnpaidAmount, a.overdueAmount⟩

@[simp] theorem CreditAccount.recalculate_amounts (a : CreditAccount) :
    a.recalculate.amounts = a.amounts := rfl

/-- The amounts of a row that may be missing. -/
def amountsOf (account : Option CreditAccount) : Amounts := (account.map (·.amounts)).getD {}

/-- The amounts of a tenant. -/
def DB.amounts (db : DB) (tenantId : Int) : Amounts := amountsOf (db.accounts.find? tenantId)

theorem DB.amounts_saveAccount (db : DB) (a : CreditAccount) (tenantId : Int) :
    (db.saveAccount a).amounts tenantId =
      if a.tenantId = tenantId then a.amounts else db.amounts tenantId := by
  simp only [DB.amounts, DB.find?_saveAccount]
  split <;> rfl

/-- Overwriting an account row changes the amounts of its tenant only. -/
theorem DB.amounts_set {db db' : DB} {a a' : CreditAccount} {t : Int}
    (h : db'.accounts = db.accounts.set a') (hfind : db.accounts.find? t = some a)
    (ha : a'.tenantId = a.tenantId) (tenantId : Int) :
    db'.amounts tenantId = if t = tenantId then a'.amounts else db.amounts tenantId := by
  have ht : a'.tenantId = t := ha.trans (Table.find?_key hfind)
  rw [← ht, ← DB.amounts_saveAccount]
  rw [← ht] at hfind
  simp only [DB.amounts, DB.saveAccount, h, Table.upsert_of_find?_some hfind]

theorem DB.amounts_of_find {db : DB} {tenantId : Int} {a : CreditAccount}
    (h : db.accounts.find? tenantId = some a) : db.amounts tenantId = a.amounts := by
  rw [DB.amounts, h]
  rfl

/-- A missing account reads as one without amounts. -/
theorem amounts_find?_getD (db : DB) (tenantId limit : Int) :
    ((db.accounts.find? tenantId).getD
      { tenantId := tenantId, creditLimit := limit }).amounts = db.amounts tenantId := by
  rw [DB.amounts]
  cases db.accounts.find? tenantId with
  | none => rfl
  | some a => rfl

/-! ## Credit transactions -/

/-- The transactions that change a credit account, each run as a whole. -/
inductive AccountTx where
  | reserve (tenantId quota : Int)
  | release (tenantId quota : Int)
  | applyLedger (ledger : UsageLedger)
  | confirm (now : Timestamp) (tenantId : Int) (statementId : Nat)
  | registerPayment (now : Timestamp) (tenantId : Int) (statementId : Nat) (amount : Int)
      (method invoiceNo invoiceStatus : String) (actorId : Int)
  | markOverdue (statementId : Nat)

/-- The result of a transaction. -/
def AccountTx.run (db : DB) : AccountTx → Except String DB
  | .reserve tenantId quota => reserveTenantCredit db tenantId quota
  | .release tenantId quota => releaseTenantCredit db tenantId quota
  | .applyLedger ledger => applyTenantLedgerCreditTx db ledger
  | .confirm now tenantId statementId => confirmTenantBillingStatement db now tenantId statementId
  | .registerPayment now tenantId statementId amount method invoiceNo invoiceStatus actorId =>
    registerTenantPaymentAndInvoice db now tenantId statementId amount method invoiceNo
      invoiceStatus actorId
  | .markOverdue statementId => markOverdueStatement db statementId

/-- The two databases agree on everything but the configuration: limits, status and the
    recomputed available credit may differ, and rows without amounts may be missing. -/
structure SameAmounts (db base : DB) : Prop where
  amounts : ∀ tenantId, db.amounts tenantId = base.amounts tenantId
  statements : db.statements = base.statements
  payments : db.payments = base.payments

/-- Both runs save an account of the same tenant with the same amounts. -/
theorem SameAmounts.save {db base : DB} (h : SameAmounts db base) {a b : CreditAccount}
    (htenant : a.tenantId = b.tenantId) (hamounts : a.amounts = b.amounts) :
    SameAmounts (db.saveAccount a) (base.saveAccount b) := by
  refine ⟨?_, h.statements, h.payments⟩
  intro tenantId
  rw [DB.amounts_saveAccount, DB.amounts_saveAccount, htenant, hamounts, h.amounts]

/-- Both runs overwrite the account of a tenant with the same amounts. -/
theorem SameAmounts.set {db base db' base' : DB} (h : SameAmounts db base)
    (hst : db'.statements = base'.statements) (hp : db'.payments = base'.payments)
    {a b a' b' : CreditAccount} {t : Int} (hdb : db'.accounts = db.accounts.set a')
    (hbase : base'.accounts = base.accounts.set b') (ha : db.accounts.find? t = some a)
    (hb : base.accounts.find? t = some b) (hta : a'.tenantId = a.tenantId)
    (htb : b'.tenantId = b.tenantId) (hamounts : a.amounts = b.amounts → a'.amounts = b'.amounts) :
    SameAmounts db' base' := by
  refine ⟨?_, hst, hp⟩
  have hsame : a.amounts = b.amounts := by
    rw [← DB.amounts_of_find ha, ← DB.amounts_of_find hb, h.amounts]
  intro tenantId
  rw [DB.amounts_set hdb ha hta, DB.amounts_set hbase hb htb, h.amounts, hamounts hsame]

/-- The reservation that `ReleaseTenantCredit` looks at. -/
theorem DB.accountColumn_reserved (db : DB) (tenantId : Int) :
    db.accountColumn tenantId (·.reservedAmount) = (db.amounts tenantId).reserved := by
  unfold DB.accountColumn DB.amounts amountsOf
  cases db.accounts.find? tenantId with
  | none => rfl
  | some a => rfl

/-- The payment row that `RegisterTenantPaymentAndInvoice` inserts. -/
theorem registerPayment_payments {db db' : DB} {now : Timestamp} {tenantId : Int}
    {statementId : Nat} {amount : Int} {method invoiceNo invoiceStatus : String} {actorId : Int}
    (h : registerTenantPaymentAndInvoice db now tenantId statementId amount method invoiceNo
      invoiceStatus actorId = .ok db') :
    db'.payments = db.payments.insert
      { id := db.payments.nextId
        statementId := statementId
        tenantId := tenantId
        amount := amount
        method := method
        paidAt := now.unix
        operatorId := actorId } := by
  unfold registerTenantPaymentAndInvoice at h
  split at h
  · exact nomatch h
  dsimp only at h
  split at h
  · exact nomatch h
  split at h
  · exact nomatch h
  split at h
  · exact nomatch h
  split at h
  · exact nomatch h
  split at h
  · exact nomatch h
  rw [Except.ok.injEq] at h
  rw [← h]

/-- What the overdue transaction of a statement does to the amounts. -/
def overdueAmounts (payments : Table PaymentRecord (·.id)) (s : BillingStatement)
    (amounts : Amounts) : Amounts :=
  if awaitsPayment s.status ∧ paidAmount payments s.id < s.payable then
    { amounts with
      billedUnpaid := max 0 (amounts.billedUnpaid - (s.payable - paidAmount payments s.id))
      overdue := amounts.overdue + (s.payable - paidAmount payments s.id) }
  else amounts

/-- The overdue transaction of a statement, in full. -/
theorem markOverdueStatement_exact {db db' : DB} {id : Nat}
    (h : markOverdueStatement db id = .ok db') :
    ∃ s, db.statements.find? id = some s ∧ db'.payments = db.payments ∧
      db'.statements = db.statements.set (sweptStatement db.payments s) ∧
      ∀ t, db'.amounts t =
        if s.tenantId = t then overdueAmounts db.payments s (db.amounts t) else db.amounts t := by
  unfold markOverdueStatement at h
  split at h
  · exact nomatch h
  next s hfind =>
  have hself : db.statements.find? s.id = some s := by
    rw [Table.find?_key hfind]
    exact hfind
  refine ⟨s, hfind, ?_⟩
  split at h
  · next hawait =>
    rw [Except.ok.injEq] at h
    subst h
    have hswept : sweptStatement db.payments s = s := if_neg hawait
    have hamounts : ∀ x, overdueAmounts db.payments s x = x :=
      fun x => if_neg fun hcond => hawait hcond.1
    refine ⟨rfl, ?_, ?_⟩
    · rw [hswept, Table.set_of_find? hself]
    · intro t
      rw [hamounts, ite_self]
  next hawait =>
  have hawait' : awaitsPayment s.status = true := not_not.mp hawait
  dsimp only at h
  split at h
  · next hrem =>
    rw [Except.ok.injEq] at h
    subst h
    have hpaid : s.payable ≤ paidAmount db.payments s.id := by omega
    have hswept : sweptStatement db.payments s = { s with status := .paid } := by
      rw [sweptStatement, if_pos hawait', if_pos hpaid]
    have hamounts : ∀ x, overdueAmounts db.payments s x = x :=
      fun x => if_neg fun hcond => absurd hcond.2 (not_lt.mpr hpaid)
    refine ⟨rfl, ?_, ?_⟩
    · rw [hswept]
    · intro t
      rw [hamounts, ite_self]
      rfl
  next hrem =>
  split at h
  · exact nomatch h
  next a ha =>
  rw [Except.ok.injEq] at h
  have hunpaid : paidAmount db.payments s.id < s.payable := by omega
  have hswept : sweptStatement db.payments s = { s with status := .overdue } := by
    rw [sweptStatement, if_pos hawait', if_neg (not_le.mpr hunpaid)]
  have hmax : ∀ x : Int, (if x < 0 then 0 else x) = max 0 x := by
    intro x
    split <;> omega
  rw [hmax] at h
  have haccounts : db'.accounts = db.accounts.set { a with
      billedUnpaidAmount :=
        max 0 (a.billedUnpaidAmount - (s.payable - paidAmount db.payments s.id))
      overdueAmount :=
        a.overdueAmount + (s.payable - paidAmount db.payments s.id) }.recalculate := by
    rw [← h]
  refine ⟨by rw [← h], by rw [← h, hswept], ?_⟩
  · intro t
    rw [DB.amounts_set haccounts ha rfl]
    split
    · next ht =>
      subst ht
      rw [overdueAmounts, if_pos ⟨hawait', hunpaid⟩, DB.amounts_of_find ha]
      rfl
    · rfl

/-- A transaction that both runs accept keeps them equal. -/
theorem AccountTx.run_sameAmounts {db base db' base' : DB} (h : SameAmounts db base)
    {op : AccountTx} (hdb : op.run db = .ok db') (hbase : op.run base = .ok base') :
    SameAmounts db' base' := by
  cases op with
  | reserve t quota =>
    rcases reserveTenantCredit_ok hdb with ⟨rfl, hskip⟩ | ⟨ht, hq, c, a, -, ha, -, -, rfl⟩
    · rcases reserveTenantCredit_ok hbase with ⟨rfl, -⟩ | ⟨ht, hq, -⟩
      · exact h
      · omega
    · rcases reserveTenantCredit_ok hbase with ⟨rfl, hskip⟩ | ⟨-, -, c', b, -, hb, -, -, rfl⟩
      · omega
      have hamounts : a.amounts = b.amounts := by
        rw [ha, hb, amounts_find?_getD, amounts_find?_getD, h.amounts]
      have htenant : a.tenantId = b.tenantId := by
        rw [ha, hb, find?_getD_tenantId, find?_getD_tenantId]
      refine h.save htenant ?_
      show ({ a.amounts with reserved := a.amounts.reserved + quota } : Amounts) = _
      rw [hamounts]
      rfl
  | release t quota =>
    have hcol : db.accountColumn t (·.reservedAmount) =
        base.accountColumn t (·.reservedAmount) := by
      rw [DB.accountColumn_reserved, DB.accountColumn_reserved, h.amounts]
    rcases releaseTenantCredit_cases db t quota with ⟨hok, hskip⟩ | ⟨ht, hq, a, ha, hpos, hok⟩
    · rcases releaseTenantCredit_cases base t quota with
        ⟨hok', -⟩ | ⟨ht, hq, b, hb, hpos, -⟩
      · rw [AccountTx.run, hok, Except.ok.injEq] at hdb
        rw [AccountTx.run, hok', Except.ok.injEq] at hbase
        rw [← hdb, ← hbase]
        exact h
      · rw [hcol, DB.accountColumn_of_find hb] at hskip
        omega
    · rcases releaseTenantCredit_cases base t quota with ⟨-, hskip⟩ | ⟨-, -, b, hb, -, hok'⟩
      · rw [← hcol, DB.accountColumn_of_find ha] at hskip
        omega
      rw [AccountTx.run, hok, Except.ok.injEq] at hdb
      rw [AccountTx.run, hok', Except.ok.injEq] at hbase
      rw [← hdb, ← hbase]
      have hamounts : a.amounts = b.amounts := by
        rw [← DB.amounts_of_find ha, ← DB.amounts_of_find hb, h.amounts]
      have htenant : a.tenantId = b.tenantId :=
        (Table.find?_key ha).trans (Table.find?_key hb).symm
      refine h.save htenant ?_
      show ({ a.amounts with
        reserved := a.amounts.reserved - min a.amounts.reserved quota } : Amounts) = _
      rw [hamounts]
      rfl
  | applyLedger ledger =>
    rcases applyTenantLedgerCreditTx_cases db ledger with ⟨hok, hskip⟩ | ⟨ht, hq, a, ha, hok⟩
    · rcases applyTenantLedgerCreditTx_cases base ledger with ⟨hok', -⟩ | ⟨ht, hq, -⟩
      · rw [AccountTx.run, hok, Except.ok.injEq] at hdb
        rw [AccountTx.run, hok', Except.ok.injEq] at hbase
        rw [← hdb, ← hbase]
        exact h
      · omega
    · rcases applyTenantLedgerCreditTx_cases base ledger with ⟨-, hskip⟩ | ⟨-, -, b, hb, hok'⟩
      · omega
      rw [AccountTx.run, hok, Except.ok.injEq] at hdb
      rw [AccountTx.run, hok', Except.ok.injEq] at hbase
      rw [← hdb, ← hbase]
      have hamounts : a.amounts = b.amounts := by
        rw [ha, hb, amounts_find?_getD, amounts_find?_getD, h.amounts]
      have htenant : a.tenantId = b.tenantId := by
        rw [ha, hb, find?_getD_tenantId, find?_getD_tenantId]
      refine h.save htenant ?_
      show ({ a.amounts with
        reserved := a.amounts.reserved - min a.amounts.reserved ledger.postpaidQuota
        unbilled := a.amounts.unbilled + ledger.postpaidQuota } : Amounts) = _
      rw [hamounts]
      rfl
  | confirm now t statementId =>
    obtain ⟨s, a, hs, -, -, ha, rfl⟩ := confirmTenantBillingStatement_ok hdb
    obtain ⟨s', b, hs', -, -, hb, rfl⟩ := confirmTenantBillingStatement_ok hbase
    rw [h.statements, hs', Option.some.injEq] at hs
    subst hs
    refine h.set ?_ h.payments rfl rfl ha hb rfl rfl ?_
    · dsimp only
      rw [h.statements]
    · intro hamounts
      show ({ a.amounts with
        unbilled := max 0 (a.amounts.unbilled - s'.payable)
        billedUnpaid := a.amounts.billedUnpaid + s'.payable } : Amounts) = _
      rw [hamounts]
      rfl
  | registerPayment now t statementId amount method invoiceNo invoiceStatus actorId =>
    have hpay := registerPayment_payments hdb
    have hpay' := registerPayment_payments hbase
    obtain ⟨s, a, p, hs, -, -, ha, -, -, -, -, -, -, -, -, -, hp, hst, hacc⟩ :=
      registerTenantPaymentAndInvoice_ok hdb
    obtain ⟨s', b, p', hs', -, -, hb, -, -, -, -, -, -, -, -, -, hp', hst', hacc'⟩ :=
      registerTenantPaymentAndInvoice_ok hbase
    rw [h.statements, hs', Option.some.injEq] at hs
    subst hs
    have hpayments : db'.payments = base'.payments := by
      rw [hpay, hpay', h.payments]
    refine h.set ?_ hpayments hacc hacc' ha hb rfl rfl ?_
    · rw [hst, hst', ← hp, ← hp', hpayments, h.statements]
    · intro hamounts
      show ({ a.amounts with
        billedUnpaid := max 0 (a.amounts.billedUnpaid - amount)
        overdue := overdueAfterPayment a.amounts.overdue amount } : Amounts) = _
      rw [hamounts]
      rfl
  | markOverdue statementId =>
    obtain ⟨s, hs, hp, hst, ham⟩ := markOverdueStatement_exact hdb
    obtain ⟨s', hs', hp', hst', ham'⟩ := markOverdueStatement_exact hbase
    rw [h.statements, hs', Option.some.injEq] at hs
    subst hs
    refine ⟨?_, ?_, ?_⟩
    · intro tenantId
      rw [ham, ham', h.amounts, h.payments]
    · rw [hst, hst', h.payments, h.statements]
    · rw [hp, hp', h.payments]

/-! ## The two runs -/

/-- The database with the configuration calls, the database without them, and the calls. -/
structure ConfigSystem where
  db : DB
  base : DB
  calls : Table ConfigCall (·.pid)

/-- The steps: credit transactions, and the parts of configuration calls. -/
inductive ConfigSystemEvent where
  | tx (op : AccountTx)
  | call (pid : Nat) (config : BillingConfig)
  | config (pid : Nat) (event : ConfigEvent)

namespace ConfigSystem

/-- Before any call. -/
def start (db : DB) : ConfigSystem := ⟨db, db, .empty⟩

/-- One step. A transaction runs on both databases, a configuration call on one. -/
def step (s : ConfigSystem) : ConfigSystemEvent → ConfigSystem
  | .tx op => { s with db := commit s.db (op.run s.db), base := commit s.base (op.run s.base) }
  | .call pid config => { s with calls := s.calls.insert { pid := pid, config := config } }
  | .config pid event =>
    match s.calls.find? pid with
    | none => s
    | some c =>
      let (db, stage) := c.act s.db event
      { s with db := db, calls := s.calls.set { c with stage := stage } }

end ConfigSystem

/-- The transaction commits in both runs or in neither: a new limit or policy does not
    decide it. -/
def DecidedAlike (s : ConfigSystem) : ConfigSystemEvent → Prop
  | .tx op => errorOf (op.run s.db) = none ↔ errorOf (op.run s.base) = none
  | _ => True

instance (s : ConfigSystem) : ∀ e, Decidable (DecidedAlike s e)
  | .tx op =>
    inferInstanceAs (Decidable (errorOf (op.run s.db) = none ↔ errorOf (op.run s.base) = none))
  | .call _ _ | .config _ _ => inferInstanceAs (Decidable True)

/-- A call that is about to write the account back: the account still has the amounts
    that the call read. -/
def ConfigCall.ReadCurrent (db : DB) (c : ConfigCall) : Prop :=
  match c.stage with
  | .read existing => amountsOf existing = db.amounts c.config.tenantId
  | _ => True

instance (db : DB) (c : ConfigCall) : Decidable (c.ReadCurrent db) :=
  match h : c.stage with
  | .read existing =>
    decidable_of_iff (amountsOf existing = db.amounts c.config.tenantId)
      (by rw [ConfigCall.ReadCurrent, h])
  | .started | .checked | .configured | .stopped =>
    isTrue (by rw [ConfigCall.ReadCurrent, h]; trivial)

/-- Every call that writes the account in this step has read current amounts. -/
def WritesCurrent (s : ConfigSystem) : ConfigSystemEvent → Prop
  | .config pid .writeAccount => ∀ c ∈ s.calls.find? pid, c.ReadCurrent s.db
  | _ => True

instance (s : ConfigSystem) : ∀ e, Decidable (WritesCurrent s e)
  | .config pid .writeAccount =>
    inferInstanceAs (Decidable (∀ c ∈ s.calls.find? pid, c.ReadCurrent s.db))
  | .config _ (.check _) | .config _ .writeConfig | .config _ (.readAccount _) | .config _ .stop
  | .tx _ | .call _ _ => inferInstanceAs (Decidable True)

/-- The two runs agree. -/
def AmountsUnchanged (s : ConfigSystem) : Prop := SameAmounts s.db s.base

/-- The account that a call writes has the amounts it has read. -/
theorem configuredAccount_amounts (config : BillingConfig) (existing : Option CreditAccount) :
    (configuredAccount config existing).amounts = amountsOf existing ∧
      (configuredAccount config existing).tenantId = config.tenantId := by
  cases existing with
  | none => exact ⟨rfl, rfl⟩
  | some a => exact ⟨rfl, rfl⟩

/-- Writing the account back keeps the runs equal exactly when the read was current. -/
theorem upsertCreditAccount_sameAmounts_iff {db base : DB} (h : SameAmounts db base)
    (config : BillingConfig) (existing : Option CreditAccount) :
    SameAmounts (upsertCreditAccount db (configuredAccount config existing)) base ↔
      amountsOf existing = db.amounts config.tenantId := by
  obtain ⟨hamounts, htenant⟩ := configuredAccount_amounts config existing
  have hread : ∀ t, (upsertCreditAccount db (configuredAccount config existing)).amounts t =
      if config.tenantId = t then amountsOf existing else db.amounts t := by
    intro t
    rw [upsertCreditAccount, DB.amounts_saveAccount, CreditAccount.recalculate_amounts,
      CreditAccount.recalculate_tenantId, hamounts, htenant]
  constructor
  · intro hsame
    have hself := hsame.amounts config.tenantId
    rw [hread, if_pos rfl, ← h.amounts] at hself
    exact hself
  · intro hcurrent
    refine ⟨?_, h.statements, h.payments⟩
    intro t
    rw [hread, ← h.amounts]
    split
    · next ht => rw [← ht, hcurrent]
    · rfl

/-- Every other step of a call leaves the amounts alone. -/
theorem ConfigCall.act_sameAmounts_iff {db base : DB} (h : SameAmounts db base) (c : ConfigCall)
    (e : ConfigEvent) :
    SameAmounts (c.act db e).1 base ↔ (e = .writeAccount → c.ReadCurrent db) := by
  cases e with
  | writeAccount =>
    simp only [forall_const]
    unfold ConfigCall.act ConfigCall.ReadCurrent
    cases c.stage with
    | read existing => exact upsertCreditAccount_sameAmounts_iff h c.config existing
    | started => exact iff_of_true h trivial
    | checked => exact iff_of_true h trivial
    | configured => exact iff_of_true h trivial
    | stopped => exact iff_of_true h trivial
  | check found =>
    refine iff_of_true ?_ nofun
    dsimp only [ConfigCall.act]
    split <;> exact h
  | writeConfig =>
    refine iff_of_true ?_ nofun
    dsimp only [ConfigCall.act]
    split
    · exact ⟨h.amounts, h.statements, h.payments⟩
    · exact h
  | readAccount failed =>
    refine iff_of_true ?_ nofun
    dsimp only [ConfigCall.act]
    split <;> exact h
  | stop => exact iff_of_true h nofun

/-- One step keeps the runs equal exactly when what it writes was read current. -/
theorem ConfigSystem.step_unchanged_iff (s : ConfigSystem) (e : ConfigSystemEvent)
    (halike : DecidedAlike s e) (h : AmountsUnchanged s) :
    AmountsUnchanged (s.step e) ↔ WritesCurrent s e := by
  cases e with
  | tx op =>
    refine iff_of_true ?_ trivial
    show SameAmounts (commit s.db (op.run s.db)) (commit s.base (op.run s.base))
    dsimp only [DecidedAlike] at halike
    cases hdb : op.run s.db with
    | error e =>
      cases hbase : op.run s.base with
      | error e' => exact h
      | ok base' =>
        rw [hdb, hbase] at halike
        exact absurd (halike.mpr rfl) nofun
    | ok db' =>
      cases hbase : op.run s.base with
      | error e' =>
        rw [hdb, hbase] at halike
        exact absurd (halike.mp rfl) nofun
      | ok base' => exact op.run_sameAmounts h hdb hbase
  | call pid config => exact iff_of_true h trivial
  | config pid event =>
    dsimp only [ConfigSystem.step]
    cases hc : s.calls.find? pid with
    | none =>
      refine iff_of_true h ?_
      cases event <;> simp [WritesCurrent, hc]
    | some c =>
      have hact := ConfigCall.act_sameAmounts_iff h c event
      refine hact.trans ?_
      cases event <;> simp [WritesCurrent, hc]

/-- In every interleaving of configuration calls with credit transactions that both runs
    decide alike, the amounts stay those of the run without the calls throughout exactly
    when every call that writes the account back has read its current amounts. -/
theorem amounts_unchanged_iff_reads_current (db : DB) (events : List ConfigSystemEvent)
    (halike : Run.Steps ConfigSystem.step DecidedAlike (.start db) events) :
    Run.Always ConfigSystem.step AmountsUnchanged (.start db) events ↔
      Run.Steps ConfigSystem.step WritesCurrent (.start db) events := by
  have hstart : AmountsUnchanged (.start db) := ⟨fun _ => rfl, rfl, rfl⟩
  exact Run.always_iff_steps_under ConfigSystem.step_unchanged_iff hstart halike

/-- A tenant with a limit of 1000 under the policy `allow`. -/
def configuredTenant : DB :=
  { DB.empty with
    configs := Table.empty.insert
      { tenantId := 7, billingMode := .postpaid, paymentTerms := 30, creditLimit := 1000
        overCreditPolicy := .allow }
    accounts := Table.empty.insert { tenantId := 7, creditLimit := 1000, availableCredit := 1000 } }

/-- The configuration call of the examples: a new limit of 2000. -/
def raiseLimit : ConfigSystemEvent :=
  .call 1 { tenantId := 7, billingMode := .postpaid, paymentTerms := 30, creditLimit := 2000
            overCreditPolicy := .allow }

/-- A reservation before the call has read the account is kept. -/
theorem amounts_unchanged_reserve_first :
    AmountsUnchanged (Run.run ConfigSystem.step (.start configuredTenant)
      [raiseLimit, .config 1 (.check true), .config 1 .writeConfig, .tx (.reserve 7 100),
        .config 1 (.readAccount false), .config 1 .writeAccount]) :=
  ((amounts_unchanged_iff_reads_current configuredTenant _ (by decide)).mpr (by decide)).last

/-- A reservation between the read and the write of the account is lost: the request holds
    100 that the account no longer shows. -/
theorem config_write_loses_reservation :
    ∃ events : List ConfigSystemEvent,
      events = [raiseLimit, .config 1 (.check true), .config 1 .writeConfig,
        .config 1 (.readAccount false), .tx (.reserve 7 100), .config 1 .writeAccount] ∧
      Run.Steps ConfigSystem.step DecidedAlike (.start configuredTenant) events ∧
      (Run.run ConfigSystem.step (.start configuredTenant) events).db.amounts 7 = {} ∧
      (Run.run ConfigSystem.step (.start configuredTenant) events).base.amounts 7 =
        { reserved := 100 } ∧
      ¬ AmountsUnchanged (Run.run ConfigSystem.step (.start configuredTenant) events) := by
  refine ⟨_, rfl, by decide, by decide, by decide, ?_⟩
  intro hsame
  exact absurd (hsame.amounts 7) (by decide)

end TokenRouter
