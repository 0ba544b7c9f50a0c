import TokenRouter.Spec.BilledOnce

/-!
# The unbilled amount

`UnbilledAmount` is meant to be what the success ledgers hold less what the
statements that left draft bill. Recording keeps that; confirmation subtracts
`Payable`, which contains the adjustment, instead of `Amount`, and clamps at zero.

## Key results

- `exec_unbilledExact_iff`: one operation keeps the equation exactly when it is no
  confirmation that subtracts the wrong number
- `unbilled_exact_iff_confirm_exact`: the same over whole runs
-/

namespace TokenRouter

/-- `UnbilledAmount` is the ledgers' postpaid quota less what was billed. -/
def UnbilledExact (tenantId : Int) (db : DB) : Prop :=
  db.accountColumn tenantId (·.unbilledAmount) =
    successPostpaid db tenantId - billedAmount db tenantId

instance (tenantId : Int) (db : DB) : Decidable (UnbilledExact tenantId db) :=
  inferInstanceAs (Decidable (_ = _))

/-- What a statement adds to the billed amount. -/
def bills (tenantId : Int) (s : BillingStatement) : Int :=
  if s.tenantId = tenantId ∧ billingStatementRegenerationLocked s.status = true then s.amount
  else 0

theorem billedAmount_eq_sum (db : DB) (tenantId : Int) :
    billedAmount db tenantId = db.statements.sum (bills tenantId) :=
  Table.sum_filter _ _ _

theorem successPostpaid_eq_sum (db : DB) (tenantId : Int) :
    successPostpaid db tenantId = db.ledgers.sum fun l =>
      if l.tenantId = tenantId ∧ l.status = "success" then l.postpaidQuota else 0 :=
  Table.sum_filter _ _ _

theorem bills_of_draft {tenantId : Int} {s : BillingStatement}
    (h : billingStatementRegenerationLocked s.status = false) : bills tenantId s = 0 :=
  if_neg fun hs => by simp [h] at hs

theorem bills_of_locked {tenantId : Int} {s : BillingStatement}
    (h : billingStatementRegenerationLocked s.status = true) :
    bills tenantId s = if s.tenantId = tenantId then s.amount else 0 := by
  simp only [bills, h, and_true]

/-- Overwriting a statement replaces its summand. -/
theorem billedAmount_set {db db' : DB} {s s' : BillingStatement} {id : Nat}
    (hst : db'.statements = db.statements.set s') (hfind : db.statements.find? id = some s)
    (hid : s'.id = s.id) (tenantId : Int) :
    billedAmount db' tenantId =
      billedAmount db tenantId - bills tenantId s + bills tenantId s' := by
  rw [billedAmount_eq_sum, billedAmount_eq_sum, hst]
  rw [← Table.find?_key hfind] at hfind
  rw [← hid] at hfind
  exact Table.sum_set _ hfind

/-- Between two statuses past draft the billed amount stays. -/
theorem billedAmount_set_locked {db db' : DB} {s s' : BillingStatement} {id : Nat}
    (hst : db'.statements = db.statements.set s') (hfind : db.statements.find? id = some s)
    (hs : SamePeriod s s') (hlocked : billingStatementRegenerationLocked s.status = true)
    (hlocked' : billingStatementRegenerationLocked s'.status = true) (tenantId : Int) :
    billedAmount db' tenantId = billedAmount db tenantId := by
  obtain ⟨hid, htenant, -, -, hamount⟩ := hs
  rw [billedAmount_set hst hfind hid, bills_of_locked hlocked, bills_of_locked hlocked', htenant,
    hamount]
  omega

/-! ## Statements that left draft stay -/

/-- Every statement of the tenant that left draft is still there, with its period. -/
def BilledPersist (tenantId : Int) (db db' : DB) : Prop :=
  ∀ s ∈ billedStatements db tenantId, ∃ s' ∈ billedStatements db' tenantId, SamePeriod s s'

theorem BilledPersist.of_eq {tenantId : Int} {db db' : DB}
    (h : db'.statements = db.statements) : BilledPersist tenantId db db' := by
  intro s hs
  refine ⟨s, ?_, rfl, rfl, rfl, rfl, rfl⟩
  rw [mem_billedStatements, h]
  exact mem_billedStatements.mp hs

theorem BilledPersist.trans {tenantId : Int} {db db₁ db₂ : DB}
    (h₁ : BilledPersist tenantId db db₁) (h₂ : BilledPersist tenantId db₁ db₂) :
    BilledPersist tenantId db db₂ := by
  intro s hs
  obtain ⟨s₁, hs₁, a₁, a₂, a₃, a₄, a₅⟩ := h₁ s hs
  obtain ⟨s₂, hs₂, b₁, b₂, b₃, b₄, b₅⟩ := h₂ s₁ hs₁
  exact ⟨s₂, hs₂, b₁.trans a₁, b₂.trans a₂, b₃.trans a₃, b₄.trans a₄, b₅.trans a₅⟩

/-- A statement that had left draft keeps its period when it is overwritten. -/
theorem BilledPersist.of_set {tenantId : Int} {db db' : DB} {s s' : BillingStatement} {id : Nat}
    (hst : db'.statements = db.statements.set s') (hfind : db.statements.find? id = some s)
    (hid : s'.id = s.id)
    (hkeep : billingStatementRegenerationLocked s.status = true →
      SamePeriod s s' ∧ billingStatementRegenerationLocked s'.status = true) :
    BilledPersist tenantId db db' := by
  intro x hx
  obtain ⟨hmem, htenant, hlocked⟩ := mem_billedStatements.mp hx
  have hkey : s.id = id := Table.find?_key hfind
  by_cases hxs : x.id = s.id
  · obtain rfl : x = s := db.statements.eq_of_key_eq hmem (Table.find?_mem hfind) hxs
    obtain ⟨hsame, hlocked'⟩ := hkeep hlocked
    have hold : db.statements.find? s'.id = some x := by
      rw [hid, hkey]
      exact hfind
    refine ⟨s', ?_, hsame⟩
    rw [mem_billedStatements, hst]
    exact ⟨Table.mem_set_self hold, hsame.2.1.trans htenant, hlocked'⟩
  · refine ⟨x, ?_, rfl, rfl, rfl, rfl, rfl⟩
    rw [mem_billedStatements, hst]
    exact ⟨Table.mem_set_of_ne hmem (by rw [hid]; exact hxs), htenant, hlocked⟩

theorem locked_of_acceptsPayment {status : BillingStatementStatus}
    (h : acceptsPayment status = true) : billingStatementRegenerationLocked status = true := by
  cases status <;> simp_all [acceptsPayment, billingStatementRegenerationLocked]

theorem locked_of_awaitsPayment {status : BillingStatementStatus}
    (h : awaitsPayment status = true) : billingStatementRegenerationLocked status = true := by
  cases status <;> simp_all [awaitsPayment, billingStatementRegenerationLocked]

theorem locked_paidStatus (s : BillingStatement) (paid : Int) :
    billingStatementRegenerationLocked (paidStatus s paid) = true := by
  unfold paidStatus
  split_ifs <;> rfl

theorem draft_of_not_locked {status : BillingStatementStatus}
    (h : status = .draft ∨ status = .adjusted) :
    billingStatementRegenerationLocked status = false := by
  rcases h with rfl | rfl <;> rfl

theorem markOverdueStatement_billedPersist {tenantId : Int} {db db' : DB} {statementId : Nat}
    (h : markOverdueStatement db statementId = .ok db') : BilledPersist tenantId db db' := by
  rcases markOverdueStatement_ok h with rfl | ⟨s, hfind, hawait, ⟨-, rfl⟩ | ⟨-, a, -, rfl⟩⟩
  · exact .of_eq rfl
  · exact .of_set rfl hfind rfl fun _ => ⟨⟨rfl, rfl, rfl, rfl, rfl⟩, rfl⟩
  · exact .of_set rfl hfind rfl fun _ => ⟨⟨rfl, rfl, rfl, rfl, rfl⟩, rfl⟩

/-- No operation removes a statement that left draft or changes its period. -/
theorem exec_billedPersist (tenantId : Int) (db : DB) (op : TenantOp) :
    BilledPersist tenantId db (op.exec db) := by
  have hrefl : BilledPersist tenantId db db := .of_eq rfl
  cases op with
  | recordUsage c =>
    refine commit_inv hrefl fun db' h => ?_
    rcases recordUsageWithMeta_ok h with rfl | ⟨row, hstored, -, -⟩
    · exact .of_eq rfl
    · exact .of_eq (by rw [hstored.frame])
  | reserve t quota =>
    refine commit_inv hrefl fun db' h => .of_eq ?_
    rw [(reserveTenantCredit_frame h reserveFree_overdue t).1]
  | release t quota =>
    refine commit_inv hrefl fun db' h => .of_eq ?_
    rw [(releaseTenantCredit_frame h reserveFree_overdue t).1]
  | generate now t periodStart periodEnd adjustment =>
    refine commit_inv hrefl fun db' h => ?_
    obtain ⟨s, hgen⟩ := generate_map_ok h
    obtain ⟨-, -, -, -, -, -, -, hcase⟩ := generateTenantBillingStatement_ok hgen
    rcases hcase with ⟨old, hfind, -, -, -, hold, rfl⟩ | ⟨hnone, -, rfl⟩
    · refine .of_set rfl hfind (Table.find?_key hfind).symm fun hlocked => ?_
      rw [draft_of_not_locked hold] at hlocked
      exact nomatch hlocked
    · intro x hx
      refine ⟨x, ?_, rfl, rfl, rfl, rfl, rfl⟩
      obtain ⟨hmem, hrest⟩ := mem_billedStatements.mp hx
      exact mem_billedStatements.mpr ⟨(Table.mem_insert hnone).mpr (.inl hmem), hrest⟩
  | confirm now t statementId =>
    refine commit_inv hrefl fun db' h => ?_
    obtain ⟨s, a, hfind, -, -, -, rfl⟩ := confirmTenantBillingStatement_ok h
    exact .of_set rfl hfind rfl fun _ => ⟨⟨rfl, rfl, rfl, rfl, rfl⟩, rfl⟩
  | registerPayment now t statementId amount method invoiceNo invoiceStatus actorId =>
    refine commit_inv hrefl fun db' h => ?_
    obtain ⟨s, a, p, hfind, -, -, -, -, -, -, -, -, -, -, -, -, -, hst, -⟩ :=
      registerTenantPaymentAndInvoice_ok h
    exact .of_set hst hfind rfl fun _ => ⟨⟨rfl, rfl, rfl, rfl, rfl⟩, locked_paidStatus _ _⟩
  | markOverdue clock now =>
    exact markOverdueTenantStatements_inv
      (fun _ _ _ h hok => h.trans (markOverdueStatement_billedPersist hok)) hrefl clock now

/-- Disjoint periods after an operation were disjoint before it. -/
theorem periodsDisjoint_of_exec (tenantId : Int) (db : DB) (op : TenantOp)
    (h : PeriodsDisjoint tenantId (op.exec db)) : PeriodsDisjoint tenantId db := by
  intro s hs s' hs' hne
  obtain ⟨x, hx, hid, -, hstart, hend, -⟩ := exec_billedPersist tenantId db op s hs
  obtain ⟨x', hx', hid', -, hstart', hend', -⟩ := exec_billedPersist tenantId db op s' hs'
  have := h x hx x' hx' (by rw [hid, hid']; exact hne)
  unfold DisjointPeriods at this ⊢
  omega

/-! ## One operation -/

/-- An accepted confirmation of a statement of `t` subtracts the right number:
    `Payable` is `Amount`, or both empty an account that holds exactly `Amount`. -/
def ConfirmExact (t : Int) (db : DB) : TenantOp → Prop
  | .confirm _ tenantId statementId =>
    ∀ s ∈ findStatement db tenantId statementId, tenantId = t →
      billingStatementRegenerationLocked s.status = false →
      (db.accounts.find? t).isSome = true →
      s.payable = s.amount ∨
        (s.amount ≤ s.payable ∧ db.accountColumn t (·.unbilledAmount) = s.amount)
  | _ => True

instance (t : Int) (db : DB) (op : TenantOp) : Decidable (ConfirmExact t db op) :=
  match op with
  | .confirm _ tenantId statementId =>
    inferInstanceAs (Decidable (∀ s ∈ findStatement db tenantId statementId, tenantId = t →
      billingStatementRegenerationLocked s.status = false →
      (db.accounts.find? t).isSome = true →
      s.payable = s.amount ∨
        (s.amount ≤ s.payable ∧ db.accountColumn t (·.unbilledAmount) = s.amount)))
  | .recordUsage _ | .reserve _ _ | .release _ _ | .generate _ _ _ _ _
  | .registerPayment _ _ _ _ _ _ _ _ | .markOverdue _ _ => inferInstanceAs (Decidable True)

/-- An accepted confirmation adds `Payable` to `BilledUnpaidAmount`. -/
def ConfirmAddsPayable (t : Int) (db : DB) (op : TenantOp) : Prop :=
  ∀ now statementId, op = .confirm now t statementId →
    ∀ s ∈ findStatement db t statementId,
      billingStatementRegenerationLocked s.status = false →
      (db.accounts.find? t).isSome = true →
      (op.exec db).accountColumn t (·.billedUnpaidAmount) =
        db.accountColumn t (·.billedUnpaidAmount) + s.payable

/-- A draft with an account behind it is confirmed. -/
theorem confirm_accepted {db : DB} (now : Timestamp) {tenantId : Int} {statementId : Nat}
    {s : BillingStatement} (hs : findStatement db tenantId statementId = some s)
    (hdraft : billingStatementRegenerationLocked s.status = false)
    (hacc : (db.accounts.find? tenantId).isSome = true) :
    ∃ db', confirmTenantBillingStatement db now tenantId statementId = .ok db' := by
  obtain ⟨a, ha⟩ := Option.isSome_iff_exists.mp hacc
  have hstatus : ¬ (s.status ≠ .draft ∧ s.status ≠ .adjusted) := by
    cases hst : s.status <;> simp_all [billingStatementRegenerationLocked]
  simp only [confirmTenantBillingStatement, hs, if_neg hstatus, ha]
  exact ⟨_, rfl⟩

theorem exec_confirmAddsPayable (t : Int) (db : DB) (op : TenantOp) :
    ConfirmAddsPayable t db op := by
  intro now statementId hop s hs hdraft hacc
  obtain ⟨db', hok⟩ := confirm_accepted now hs hdraft hacc
  obtain ⟨s', a, hfind, htenant, -, hacc', hdb⟩ := confirmTenantBillingStatement_ok hok
  have hss : s' = s := by
    have := (findStatement_eq_some.mp hs).1
    rw [hfind, Option.some.injEq] at this
    exact this
  subst hss
  subst hop
  dsimp only [TenantOp.exec]
  rw [hok, commit, DB.accountColumn_set (congrArg DB.accounts hdb) hacc' rfl, if_pos rfl,
    DB.accountColumn_of_find hacc']
  rfl

/-- The unbilled amount reads accounts, ledgers and billed amounts only. -/
theorem UnbilledExact.congr {t : Int} {db db' : DB} (h : UnbilledExact t db)
    (hcol : db'.accountColumn t (·.unbilledAmount) = db.accountColumn t (·.unbilledAmount))
    (hledgers : db'.ledgers = db.ledgers) (hbilled : billedAmount db' t = billedAmount db t) :
    UnbilledExact t db' := by
  unfold UnbilledExact successPostpaid successLedgers
  rw [hcol, hledgers, hbilled]
  exact h

/-- A recorded row raises the ledgers and the unbilled amount alike. -/
theorem stored_unbilledExact {loc : Location} {t : Int} (ht : 0 < t) {db db' : DB}
    {row : UsageLedger} (h : UnbilledExact t db) (hstored : Stored loc db row db')
    (hrow : LedgerOk row) : UnbilledExact t db' := by
  have hst : db'.statements = db.statements := by rw [hstored.frame]
  have hledgers : db'.ledgers = db.ledgers.insert row := by rw [hstored.frame]
  have hcol := hstored.unbilled t ht hrow.postpaidQuota_nonneg
  have hbilled : billedAmount db' t = billedAmount db t := by
    unfold billedAmount billedStatements
    rw [hst]
  have hsum : successPostpaid db' t =
      successPostpaid db t + if row.tenantId = t then row.postpaidQuota else 0 := by
    rw [successPostpaid_eq_sum, successPostpaid_eq_sum, hledgers, Table.sum_insert hstored.fresh]
    simp only [hrow.status, and_true]
  unfold UnbilledExact at h ⊢
  rw [hbilled, hsum, hcol]
  omega

/-- Drafts bill nothing. -/
theorem generate_billedAmount {db db' : DB} {now : Timestamp} {s : BillingStatement}
    {t tenantId periodStart periodEnd adjustment : Int}
    (h : generateTenantBillingStatement db now tenantId periodStart periodEnd adjustment =
      .ok (s, db')) : billedAmount db' t = billedAmount db t := by
  obtain ⟨-, -, -, -, -, -, hstatus, hcase⟩ := generateTenantBillingStatement_ok h
  have hnew : bills t s = 0 := bills_of_draft (by rw [hstatus]; rfl)
  rcases hcase with ⟨old, hfind, -, -, -, hold, rfl⟩ | ⟨hnone, -, rfl⟩
  · have hset : ({ db with statements := db.statements.set s } : DB).statements =
        db.statements.set s := rfl
    rw [billedAmount_set hset hfind (Table.find?_key hfind).symm, hnew,
      bills_of_draft (draft_of_not_locked hold)]
    omega
  · rw [billedAmount_eq_sum, billedAmount_eq_sum, Table.sum_insert hnone, hnew]
    omega

/-- A payment moves no ledger amount. -/
theorem registerPayment_unbilledExact {db db' : DB} {now : Timestamp} {t tenantId : Int}
    {statementId : Nat} {amount : Int} {method invoiceNo invoiceStatus : String} {actorId : Int}
    (hexact : UnbilledExact t db)
    (h : registerTenantPaymentAndInvoice db now tenantId statementId amount method invoiceNo
      invoiceStatus actorId = .ok db') : UnbilledExact t db' := by
  obtain ⟨s, a, p, hfind, -, haccept, hacc, -, -, -, -, -, -, hledgers, -, -, -, hst,
    haccounts⟩ := registerTenantPaymentAndInvoice_ok h
  refine hexact.congr ?_ hledgers ?_
  · rw [DB.accountColumn_set haccounts hacc rfl]
    split
    · next heq => rw [← heq, DB.accountColumn_of_find hacc]; rfl
    · rfl
  · exact billedAmount_set_locked hst hfind ⟨rfl, rfl, rfl, rfl, rfl⟩
      (locked_of_acceptsPayment haccept) (locked_paidStatus _ _) t

/-- The overdue transaction moves no ledger amount. -/
theorem markOverdueStatement_unbilledExact {db db' : DB} {t : Int} {statementId : Nat}
    (hexact : UnbilledExact t db) (h : markOverdueStatement db statementId = .ok db') :
    UnbilledExact t db' := by
  rcases markOverdueStatement_ok h with rfl | ⟨s, hfind, hawait, ⟨-, hdb⟩ | ⟨-, a, hacc, hdb⟩⟩
  · exact hexact
  · refine hexact.congr (DB.accountColumn_congr (congrArg DB.accounts hdb) _ _)
      (by rw [hdb]) ?_
    exact billedAmount_set_locked (congrArg DB.statements hdb) hfind ⟨rfl, rfl, rfl, rfl, rfl⟩
      (locked_of_awaitsPayment hawait) rfl t
  · refine hexact.congr ?_ (by rw [hdb]) ?_
    · rw [DB.accountColumn_set (congrArg DB.accounts hdb) hacc rfl]
      split
      · next heq => rw [← heq, DB.accountColumn_of_find hacc]; rfl
      · rfl
    · exact billedAmount_set_locked (congrArg DB.statements hdb) hfind
        ⟨rfl, rfl, rfl, rfl, rfl⟩ (locked_of_awaitsPayment hawait) rfl t

/-- A confirmation subtracts `Payable`, clamped at zero, where `Amount` was billed. -/
theorem confirm_unbilledExact_iff {db db' : DB} {now : Timestamp} {t : Int} {statementId : Nat}
    {s : BillingStatement} (hexact : UnbilledExact t db)
    (h : confirmTenantBillingStatement db now t statementId = .ok db')
    (hs : findStatement db t statementId = some s)
    (hroom : billedAmount db' t ≤ successPostpaid db' t) :
    UnbilledExact t db' ↔ s.payable = s.amount ∨
      (s.amount ≤ s.payable ∧ db.accountColumn t (·.unbilledAmount) = s.amount) := by
  obtain ⟨s', a, hfind, htenant, hdraft, hacc, hdb⟩ := confirmTenantBillingStatement_ok h
  have hss : s' = s := by
    have := (findStatement_eq_some.mp hs).1
    rw [hfind, Option.some.injEq] at this
    exact this
  subst hss
  have hbilled : billedAmount db' t = billedAmount db t + s'.amount := by
    rw [billedAmount_set (congrArg DB.statements hdb) hfind rfl,
      bills_of_draft (draft_of_not_locked hdraft), bills_of_locked rfl]
    dsimp only
    rw [if_pos htenant]
    omega
  have hsum : successPostpaid db' t = successPostpaid db t := by
    unfold successPostpaid successLedgers
    rw [hdb]
  have hcol : db'.accountColumn t (·.unbilledAmount) = max 0 (a.unbilledAmount - s'.payable) := by
    rw [DB.accountColumn_set (congrArg DB.accounts hdb) hacc rfl, if_pos rfl]
    rfl
  unfold UnbilledExact at hexact ⊢
  rw [hcol, hbilled, hsum]
  rw [hbilled, hsum] at hroom
  rw [DB.accountColumn_of_find hacc] at hexact ⊢
  omega

/-- A confirmation of another tenant moves nothing of this one. -/
theorem confirm_unbilledExact_of_ne {db db' : DB} {now : Timestamp} {t tenantId : Int}
    {statementId : Nat} (hne : tenantId ≠ t) (hexact : UnbilledExact t db)
    (h : confirmTenantBillingStatement db now tenantId statementId = .ok db') :
    UnbilledExact t db' := by
  obtain ⟨s, a, hfind, htenant, hdraft, hacc, hdb⟩ := confirmTenantBillingStatement_ok h
  refine hexact.congr ?_ (by rw [hdb]) ?_
  · rw [DB.accountColumn_set (congrArg DB.accounts hdb) hacc rfl, if_neg hne]
  · rw [billedAmount_set (congrArg DB.statements hdb) hfind rfl,
      bills_of_draft (draft_of_not_locked hdraft), bills_of_locked rfl]
    dsimp only
    rw [htenant, if_neg hne]
    omega

/-- One operation keeps the unbilled amount right exactly when it is no confirmation
    that subtracts the wrong number. -/
theorem exec_unbilledExact_iff {t : Int} (ht : 0 < t) (db : DB) (op : TenantOp)
    (hroom : billedAmount (op.exec db) t ≤ successPostpaid (op.exec db) t)
    (hexact : UnbilledExact t db) :
    UnbilledExact t (op.exec db) ↔ ConfirmExact t db op := by
  cases op with
  | recordUsage c =>
    refine iff_of_true (commit_inv hexact fun db' h => ?_) trivial
    rcases recordUsageWithMeta_ok h with rfl | ⟨row, hstored, hrow, -⟩
    · exact hexact
    · exact stored_unbilledExact ht hexact hstored hrow
  | reserve tenantId quota =>
    refine iff_of_true (commit_inv hexact fun db' h => ?_) trivial
    obtain ⟨hframe, hcol⟩ := reserveTenantCredit_frame h reserveFree_unbilled t
    exact hexact.congr hcol (by rw [hframe])
      (by unfold billedAmount billedStatements; rw [hframe])
  | release tenantId quota =>
    refine iff_of_true (commit_inv hexact fun db' h => ?_) trivial
    obtain ⟨hframe, hcol⟩ := releaseTenantCredit_frame h reserveFree_unbilled t
    exact hexact.congr hcol (by rw [hframe])
      (by unfold billedAmount billedStatements; rw [hframe])
  | generate now tenantId periodStart periodEnd adjustment =>
    refine iff_of_true (commit_inv hexact fun db' h => ?_) trivial
    obtain ⟨s, hgen⟩ := generate_map_ok h
    obtain ⟨hledgers, haccounts, -⟩ := generate_mem hgen
    exact hexact.congr (DB.accountColumn_congr haccounts _ _) hledgers
      (generate_billedAmount hgen)
  | registerPayment now tenantId statementId amount method invoiceNo invoiceStatus actorId =>
    exact iff_of_true
      (commit_inv hexact fun db' h => registerPayment_unbilledExact hexact h) trivial
  | markOverdue clock now =>
    exact iff_of_true (markOverdueTenantStatements_inv
      (fun _ _ _ => markOverdueStatement_unbilledExact) hexact clock now) trivial
  | confirm now tenantId statementId =>
    dsimp only [TenantOp.exec, ConfirmExact] at hroom ⊢
    cases hconf : confirmTenantBillingStatement db now tenantId statementId with
    | error e =>
      refine iff_of_true hexact ?_
      intro s hs heq hdraft hacc
      subst heq
      obtain ⟨db', hok⟩ := confirm_accepted now hs hdraft hacc
      rw [hconf] at hok
      exact nomatch hok
    | ok db' =>
      rw [hconf] at hroom
      by_cases heq : tenantId = t
      · subst heq
        obtain ⟨s, a, hfind, htenant, hdraft, hacc, -⟩ := confirmTenantBillingStatement_ok hconf
        have hs := findStatement_eq_some.mpr ⟨hfind, htenant⟩
        rw [commit, confirm_unbilledExact_iff hexact hconf hs hroom]
        constructor
        · intro h s' hs' _ _ _
          rw [hs, Option.mem_some_iff] at hs'
          rw [← hs']
          exact h
        · exact fun h => h s hs rfl (draft_of_not_locked hdraft) (by rw [hacc]; rfl)
      · exact iff_of_true (confirm_unbilledExact_of_ne heq hexact hconf)
          fun s _ h => absurd h heq

/-! ## Runs -/

/-- In every run from an unbilled tenant whose statements that leave draft have
    pairwise disjoint periods, `UnbilledAmount` is the success ledgers less the billed
    amounts throughout exactly when every confirmation bills `Payable = Amount` or
    empties an account that holds exactly `Amount`; and every confirmation adds
    `Payable` to `BilledUnpaidAmount`. -/
theorem unbilled_exact_iff_confirm_exact (t : Int) (ht : 0 < t) (db : DB)
    (hstatements : db.statements = .empty) (hledgers : db.ledgers = .empty)
    (hunbilled : db.accountColumn t (·.unbilledAmount) = 0) (ops : List TenantOp)
    (hdisj : PeriodsDisjoint t (Run.run TenantOp.exec db ops)) :
    (Run.Always TenantOp.exec (UnbilledExact t) db ops ↔
        Run.Steps TenantOp.exec (ConfirmExact t) db ops) ∧
      Run.Steps TenantOp.exec (ConfirmAddsPayable t) db ops := by
  have hinit : ∃ included, BilledInv ⟨db, included⟩ := by
    refine ⟨fun _ => [], ?_, ?_⟩ <;> simp [hstatements, hledgers]
  have hexact : UnbilledExact t db := by
    unfold UnbilledExact
    rw [hunbilled, successPostpaid_eq_sum, billedAmount_eq_sum, hledgers, hstatements]
    rfl
  have hstep : ∀ db op, (∃ included, BilledInv ⟨db, included⟩) →
      ∃ included, BilledInv ⟨TenantOp.exec db op, included⟩ := by
    rintro db op ⟨included, hinv⟩
    exact ⟨_, step_billedInv _ op hinv⟩
  refine ⟨?_, ?_⟩
  · refine Run.always_iff_steps_of hstep ?_ hinit hexact
      (Run.always_of_last (periodsDisjoint_of_exec t) hdisj)
    rintro db op hinv hdisj' hexact'
    obtain ⟨included, hinv'⟩ := hstep db op hinv
    exact exec_unbilledExact_iff ht db op (billedAmount_le hinv' hdisj') hexact'
  · exact Run.steps_of_forall (exec_confirmAddsPayable t) db ops

/-- Without adjustments the two statements of `consecutivePeriods` bill exactly. -/
theorem unbilled_exact_consecutive :
    UnbilledExact 7 (Run.run TenantOp.exec DB.empty consecutivePeriods) :=
  ((unbilled_exact_iff_confirm_exact 7 (by decide) DB.empty rfl rfl rfl consecutivePeriods
    (by decide)).1.mpr (by decide)).last

/-- A discount of 10 on a statement of 30 leaves 10 in `UnbilledAmount`, although the
    only ledger is billed. -/
theorem discount_stays_unbilled :
    ∃ ops : List TenantOp,
      ops = [.recordUsage (recordAt 5 "a" 1), .generate ⟨20, by decide⟩ 7 1 10 (-10),
        .confirm ⟨20, by decide⟩ 7 1] ∧
      PeriodsDisjoint 7 (Run.run TenantOp.exec DB.empty ops) ∧
      (Run.run TenantOp.exec DB.empty ops).accountColumn 7 (·.unbilledAmount) = 10 ∧
      successPostpaid (Run.run TenantOp.exec DB.empty ops) 7 -
        billedAmount (Run.run TenantOp.exec DB.empty ops) 7 = 0 ∧
      ¬ UnbilledExact 7 (Run.run TenantOp.exec DB.empty ops) :=
  ⟨_, rfl, by decide, by decide, by decide, by decide⟩

end TokenRouter
