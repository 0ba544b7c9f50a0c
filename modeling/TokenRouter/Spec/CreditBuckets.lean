import TokenRouter.Spec.TenantRuns

/-!
# The credit buckets against the statements

`BilledUnpaidAmount` and `OverdueAmount` of a credit account are meant to mirror
what is still owed on the tenant's statements. Confirmation and the overdue sweep
keep them equal; a payment lowers both buckets whichever of them its statement is
in, so it keeps them equal exactly when the other bucket is empty.

## Key results

- `StatementsWF`: what every reachable pair of statement and payment tables satisfies
- `exec_bucketsAgree_iff`: one operation keeps the buckets right exactly when it is
  no payment that hits the wrong bucket
- `buckets_agree_iff_payments_separate`: the same over whole runs
-/

namespace TokenRouter

/-! ## What is owed -/

/-- What statement `s` contributes to the tenant's debt in the given statuses. -/
def owes (payments : Table PaymentRecord (·.id)) (statuses : BillingStatementStatus → Bool)
    (tenantId : Int) (s : BillingStatement) : Int :=
  if s.tenantId = tenantId ∧ statuses s.status = true then
    s.payable - paidAmount payments s.id
  else 0

/-- The unpaid remainders of the tenant's statements in the given statuses. -/
def owedIn (statements : Table BillingStatement (·.id)) (payments : Table PaymentRecord (·.id))
    (statuses : BillingStatementStatus → Bool) (tenantId : Int) : Int :=
  statements.sum (owes payments statuses tenantId)

/-- The statements whose remainders `OverdueAmount` mirrors. -/
def isOverdue : BillingStatementStatus → Bool
  | .overdue => true
  | .draft | .adjusted | .confirmed | .invoiced | .paid => false

/-- The account's two debt buckets equal what the statements still ask for. -/
structure BucketsAgree (tenantId : Int) (db : DB) : Prop where
  billedUnpaid : db.accountColumn tenantId (·.billedUnpaidAmount) =
    owedIn db.statements db.payments awaitsPayment tenantId
  overdue : db.accountColumn tenantId (·.overdueAmount) =
    owedIn db.statements db.payments isOverdue tenantId

instance (tenantId : Int) (db : DB) : Decidable (BucketsAgree tenantId db) :=
  decidable_of_iff
    (db.accountColumn tenantId (·.billedUnpaidAmount) =
        owedIn db.statements db.payments awaitsPayment tenantId ∧
      db.accountColumn tenantId (·.overdueAmount) =
        owedIn db.statements db.payments isOverdue tenantId)
    ⟨fun h => ⟨h.1, h.2⟩, fun h => ⟨h.1, h.2⟩⟩

theorem owes_of_tenantId_ne {payments : Table PaymentRecord (·.id)}
    {statuses : BillingStatementStatus → Bool} {tenantId : Int} {s : BillingStatement}
    (h : s.tenantId ≠ tenantId) : owes payments statuses tenantId s = 0 :=
  if_neg fun hs => h hs.1

theorem owes_of_status {payments : Table PaymentRecord (·.id)}
    {statuses : BillingStatementStatus → Bool} {tenantId : Int} {s : BillingStatement}
    (h : statuses s.status = false) : owes payments statuses tenantId s = 0 :=
  if_neg fun hs => by simp [h] at hs

theorem owes_eq {payments : Table PaymentRecord (·.id)}
    {statuses : BillingStatementStatus → Bool} {tenantId : Int} {s : BillingStatement}
    (ht : s.tenantId = tenantId) (h : statuses s.status = true) :
    owes payments statuses tenantId s = s.payable - paidAmount payments s.id :=
  if_pos ⟨ht, h⟩

/-! ## Payments -/

/-- A new payment counts for its own statement only. -/
theorem paidAmount_insert {payments : Table PaymentRecord (·.id)} {p : PaymentRecord}
    (hp : p.id = payments.nextId) (statementId : Nat) :
    paidAmount (payments.insert p) statementId =
      paidAmount payments statementId + if p.statementId = statementId then p.amount else 0 := by
  refine Table.sum_insert ?_ _
  rw [hp]
  exact Table.nextId_fresh _

/-- A statement without payment records is unpaid. -/
theorem paidAmount_eq_zero {payments : Table PaymentRecord (·.id)} {statementId : Nat}
    (h : ∀ p ∈ payments.rows, p.statementId ≠ statementId) :
    paidAmount payments statementId = 0 :=
  Table.sum_eq_zero _ fun p hp => if_neg (h p hp)

/-! ## Reachable statement tables -/

/-- No statement is paid beyond its payable amount, drafts are unpaid, and every
    payment names a statement. -/
structure StatementsWF (db : DB) : Prop where
  payable_nonneg : ∀ s ∈ db.statements.rows, 0 ≤ s.payable
  paid_le : ∀ s ∈ db.statements.rows, paidAmount db.payments s.id ≤ s.payable
  draft_unpaid : ∀ s ∈ db.statements.rows, billingStatementRegenerationLocked s.status = false →
    paidAmount db.payments s.id = 0
  known : ∀ p ∈ db.payments.rows, (db.statements.find? p.statementId).isSome

/-- The two tables are all that `StatementsWF` reads. -/
theorem StatementsWF.congr {db db' : DB} (h : StatementsWF db)
    (hs : db'.statements = db.statements) (hp : db'.payments = db.payments) :
    StatementsWF db' := by
  obtain ⟨h₁, h₂, h₃, h₄⟩ := h
  rw [← hs, ← hp] at *
  exact ⟨h₁, h₂, h₃, h₄⟩

/-- An id that no statement has is unpaid. -/
theorem StatementsWF.unpaid_of_none {db : DB} (h : StatementsWF db) {id : Nat}
    (hnone : db.statements.find? id = none) : paidAmount db.payments id = 0 := by
  refine paidAmount_eq_zero fun p hp heq => ?_
  have hsome := h.known p hp
  rw [heq, hnone] at hsome
  exact nomatch hsome

/-- Overwriting a statement keeps the tables well formed if its new version is. -/
theorem StatementsWF.set {db db' : DB} (h : StatementsWF db) {s s' : BillingStatement}
    (hst : db'.statements = db.statements.set s') (hpay : db'.payments = db.payments)
    (hfind : db.statements.find? s'.id = some s) (hnn : 0 ≤ s'.payable)
    (hle : paidAmount db.payments s'.id ≤ s'.payable)
    (hdraft : billingStatementRegenerationLocked s'.status = false →
      paidAmount db.payments s'.id = 0) : StatementsWF db' := by
  refine ⟨?_, ?_, ?_, ?_⟩
  · intro x hx
    rw [hst] at hx
    rcases Table.mem_set hx with rfl | ⟨hx, -⟩
    · exact hnn
    · exact h.payable_nonneg x hx
  · intro x hx
    rw [hst] at hx
    rw [hpay]
    rcases Table.mem_set hx with rfl | ⟨hx, -⟩
    · exact hle
    · exact h.paid_le x hx
  · intro x hx
    rw [hst] at hx
    rw [hpay]
    rcases Table.mem_set hx with rfl | ⟨hx, -⟩
    · exact hdraft
    · exact h.draft_unpaid x hx
  · intro p hp
    rw [hpay] at hp
    have hknown := h.known p hp
    rw [hst, Table.find?_set]
    split
    · next heq => rw [← heq, hfind]; rfl
    · exact hknown

/-- The remainder of a stored statement is not negative. -/
theorem StatementsWF.owes_nonneg {db : DB} (h : StatementsWF db)
    (statuses : BillingStatementStatus → Bool) (tenantId : Int) :
    ∀ s ∈ db.statements.rows, 0 ≤ owes db.payments statuses tenantId s := by
  intro s hs
  have := h.paid_le s hs
  unfold owes
  split <;> omega

/-- What one statement asks for is part of the total. -/
theorem StatementsWF.owes_le {db : DB} (h : StatementsWF db)
    (statuses : BillingStatementStatus → Bool) (tenantId : Int) {id : Nat} {s : BillingStatement}
    (hfind : db.statements.find? id = some s) :
    owes db.payments statuses tenantId s ≤
      owedIn db.statements db.payments statuses tenantId :=
  Table.le_sum _ (h.owes_nonneg statuses tenantId) (Table.find?_mem hfind)

theorem StatementsWF.owedIn_nonneg {db : DB} (h : StatementsWF db)
    (statuses : BillingStatementStatus → Bool) (tenantId : Int) :
    0 ≤ owedIn db.statements db.payments statuses tenantId :=
  Table.sum_nonneg _ (h.owes_nonneg statuses tenantId)

/-! ## One statement is overwritten -/

/-- A statement changes while the payments stay. -/
theorem owedIn_set {db db' : DB} {s s' : BillingStatement}
    (hst : db'.statements = db.statements.set s') (hpay : db'.payments = db.payments)
    (hfind : db.statements.find? s.id = some s) (hid : s'.id = s.id)
    (statuses : BillingStatementStatus → Bool) (tenantId : Int) :
    owedIn db'.statements db'.payments statuses tenantId =
      owedIn db.statements db.payments statuses tenantId -
        owes db.payments statuses tenantId s + owes db.payments statuses tenantId s' := by
  rw [hst, hpay]
  rw [← hid] at hfind
  exact Table.sum_set _ hfind

/-- A statement changes and receives a payment. -/
theorem owedIn_set_insert {db db' : DB} {s s' : BillingStatement} {p : PaymentRecord}
    (hst : db'.statements = db.statements.set s') (hpay : db'.payments = db.payments.insert p)
    (hfind : db.statements.find? s.id = some s) (hid : s'.id = s.id)
    (hp : p.id = db.payments.nextId) (hps : p.statementId = s.id)
    (statuses : BillingStatementStatus → Bool) (tenantId : Int) :
    owedIn db'.statements db'.payments statuses tenantId =
      owedIn db.statements db.payments statuses tenantId -
        owes db.payments statuses tenantId s + owes db'.payments statuses tenantId s' := by
  rw [hst]
  rw [← hid] at hfind hps
  refine Table.sum_set_congr hfind fun x _ hx => ?_
  have hne : ¬ p.statementId = x.id := fun h => hx (h.symm.trans hps)
  unfold owes
  rw [hpay, paidAmount_insert hp, if_neg hne, add_zero]

/-! ## The operations keep the tables well formed -/

theorem generate_statementsWF {db db' : DB} {now : Timestamp} {s : BillingStatement}
    {tenantId periodStart periodEnd adjustment : Int} (hwf : StatementsWF db)
    (h : generateTenantBillingStatement db now tenantId periodStart periodEnd adjustment =
      .ok (s, db')) : StatementsWF db' := by
  obtain ⟨-, -, -, -, hnn, -, hstatus, hcase⟩ := generateTenantBillingStatement_ok h
  rcases hcase with ⟨old, hfind, -, -, -, hold, rfl⟩ | ⟨hnone, -, rfl⟩
  · have hunpaid : paidAmount db.payments s.id = 0 := by
      rw [← Table.find?_key hfind]
      refine hwf.draft_unpaid old (Table.find?_mem hfind) ?_
      rcases hold with hold | hold <;> rw [hold] <;> rfl
    exact hwf.set rfl rfl hfind hnn (by omega) fun _ => hunpaid
  · have hunpaid := hwf.unpaid_of_none hnone
    refine ⟨?_, ?_, ?_, ?_⟩
    · intro x hx
      rcases (Table.mem_insert hnone).mp hx with hx | rfl
      · exact hwf.payable_nonneg x hx
      · exact hnn
    · intro x hx
      rcases (Table.mem_insert hnone).mp hx with hx | rfl
      · exact hwf.paid_le x hx
      · dsimp only; omega
    · intro x hx
      rcases (Table.mem_insert hnone).mp hx with hx | rfl
      · exact hwf.draft_unpaid x hx
      · exact fun _ => hunpaid
    · intro p hp
      have hknown := hwf.known p hp
      rw [Table.find?_insert]
      split
      · rfl
      · exact hknown

theorem confirm_statementsWF {db db' : DB} {now : Timestamp} {tenantId : Int} {statementId : Nat}
    (hwf : StatementsWF db)
    (h : confirmTenantBillingStatement db now tenantId statementId = .ok db') :
    StatementsWF db' := by
  obtain ⟨s, a, hfind, -, -, -, rfl⟩ := confirmTenantBillingStatement_ok h
  have hmem := Table.find?_mem hfind
  rw [← Table.find?_key hfind] at hfind
  exact hwf.set rfl rfl hfind (hwf.payable_nonneg s hmem) (hwf.paid_le s hmem) nofun

theorem registerPayment_statementsWF {db db' : DB} {now : Timestamp} {tenantId : Int}
    {statementId : Nat} {amount : Int} {method invoiceNo invoiceStatus : String} {actorId : Int}
    (hwf : StatementsWF db)
    (h : registerTenantPaymentAndInvoice db now tenantId statementId amount method invoiceNo
      invoiceStatus actorId = .ok db') : StatementsWF db' := by
  obtain ⟨s, a, p, hfind, -, haccept, -, hpos, hle, hp, hps, hpa, -, -, -, -, hpay, hst, -⟩ :=
    registerTenantPaymentAndInvoice_ok h
  have hid : s.id = statementId := Table.find?_key hfind
  have hmem := Table.find?_mem hfind
  have hpaid : ∀ x : BillingStatement, x.id ≠ statementId →
      paidAmount db'.payments x.id = paidAmount db.payments x.id := by
    intro x hx
    rw [hpay, paidAmount_insert hp, if_neg (by rw [hps]; exact hx.symm), add_zero]
  have hself : paidAmount db'.payments statementId =
      paidAmount db.payments statementId + amount := by
    rw [hpay, paidAmount_insert hp, if_pos hps, hpa]
  refine ⟨?_, ?_, ?_, ?_⟩
  · intro x hx
    rw [hst] at hx
    rcases Table.mem_set hx with rfl | ⟨hx, -⟩
    · exact hwf.payable_nonneg s hmem
    · exact hwf.payable_nonneg x hx
  · intro x hx
    rw [hst] at hx
    rcases Table.mem_set hx with rfl | ⟨hx, hne⟩
    · dsimp only
      rw [hid, hself]
      omega
    · rw [hpaid x (by rw [← hid]; exact hne)]
      exact hwf.paid_le x hx
  · intro x hx
    rw [hst] at hx
    rcases Table.mem_set hx with rfl | ⟨hx, hne⟩
    · -- a payment never leaves its statement a draft
      intro hdraft
      dsimp only [paidStatus] at hdraft
      split_ifs at hdraft <;> exact nomatch hdraft
    · rw [hpaid x (by rw [← hid]; exact hne)]
      exact hwf.draft_unpaid x hx
  · intro q hq
    rw [hpay] at hq
    have hfresh : db.payments.find? p.id = none := by
      rw [hp]
      exact Table.nextId_fresh _
    have hknown : (db.statements.find? q.statementId).isSome := by
      rcases (Table.mem_insert hfresh).mp hq with hq | rfl
      · exact hwf.known q hq
      · rw [hps, hfind]; rfl
    rw [hst, Table.find?_set]
    split
    · rw [Option.isSome_map]
      exact hknown
    · exact hknown

theorem markOverdue_statementsWF {db db' : DB} {statementId : Nat} (hwf : StatementsWF db)
    (h : markOverdueStatement db statementId = .ok db') : StatementsWF db' := by
  rcases markOverdueStatement_ok h with rfl | ⟨s, hfind, -, hcase⟩
  · exact hwf
  have hmem := Table.find?_mem hfind
  rw [← Table.find?_key hfind] at hfind
  have hset : ∀ status, status = .paid ∨ status = .overdue → ∀ db'' : DB,
      db''.statements = db.statements.set { s with status := status } →
      db''.payments = db.payments → StatementsWF db'' := by
    intro status hstatus db'' hst hpay
    refine hwf.set hst hpay hfind (hwf.payable_nonneg s hmem) (hwf.paid_le s hmem)
      fun hdraft => ?_
    rcases hstatus with rfl | rfl <;> exact nomatch hdraft
  rcases hcase with ⟨-, rfl⟩ | ⟨-, a, -, rfl⟩
  · exact hset .paid (.inl rfl) _ rfl rfl
  · exact hset .overdue (.inr rfl) _ rfl rfl

/-! ## The operations and the buckets -/

theorem BucketsAgree.congr {tenantId : Int} {db db' : DB} (h : BucketsAgree tenantId db)
    (hs : db'.statements = db.statements) (hp : db'.payments = db.payments)
    (hb : db'.accountColumn tenantId (·.billedUnpaidAmount) =
      db.accountColumn tenantId (·.billedUnpaidAmount))
    (ho : db'.accountColumn tenantId (·.overdueAmount) =
      db.accountColumn tenantId (·.overdueAmount)) : BucketsAgree tenantId db' := by
  refine ⟨?_, ?_⟩
  · rw [hb, hs, hp]
    exact h.billedUnpaid
  · rw [ho, hs, hp]
    exact h.overdue

/-- A draft is in no bucket. -/
theorem generate_bucketsAgree {db db' : DB} {now : Timestamp} {s : BillingStatement}
    {t tenantId periodStart periodEnd adjustment : Int} (hagree : BucketsAgree t db)
    (h : generateTenantBillingStatement db now tenantId periodStart periodEnd adjustment =
      .ok (s, db')) : BucketsAgree t db' := by
  obtain ⟨-, -, -, -, -, -, hstatus, hcase⟩ := generateTenantBillingStatement_ok h
  have hnew : ∀ statuses, statuses BillingStatementStatus.draft = false →
      owes db.payments statuses t s = 0 := by
    intro statuses hdraft
    exact owes_of_status (by rw [hstatus]; exact hdraft)
  rcases hcase with ⟨old, hfind, -, -, -, hold, rfl⟩ | ⟨hnone, -, rfl⟩
  · have hid : old.id = s.id := Table.find?_key hfind
    rw [← hid] at hfind
    have hset : ∀ statuses, statuses BillingStatementStatus.draft = false →
        statuses BillingStatementStatus.adjusted = false →
        owedIn (db.statements.set s) db.payments statuses t =
          owedIn db.statements db.payments statuses t := by
      intro statuses hdraft hadjusted
      have hzero : owes db.payments statuses t old = 0 :=
        owes_of_status (by rcases hold with hold | hold <;> rw [hold] <;> assumption)
      have hst : ({ db with statements := db.statements.set s } : DB).statements =
          db.statements.set s := rfl
      have hsum := owedIn_set hst rfl hfind hid.symm statuses t
      rw [hnew statuses hdraft, hzero] at hsum
      exact hsum.trans (by omega)
    refine ⟨?_, ?_⟩
    · exact hagree.billedUnpaid.trans (hset awaitsPayment rfl rfl).symm
    · exact hagree.overdue.trans (hset isOverdue rfl rfl).symm
  · have hins : ∀ statuses, statuses BillingStatementStatus.draft = false →
        owedIn (db.statements.insert s) db.payments statuses t =
          owedIn db.statements db.payments statuses t := by
      intro statuses hdraft
      rw [owedIn, Table.sum_insert hnone, hnew statuses hdraft, add_zero, owedIn]
    refine ⟨?_, ?_⟩
    · exact hagree.billedUnpaid.trans (hins awaitsPayment rfl).symm
    · exact hagree.overdue.trans (hins isOverdue rfl).symm

/-- Confirmation moves a draft's payable amount into `BilledUnpaidAmount`. -/
theorem confirm_bucketsAgree {db db' : DB} {now : Timestamp} {t tenantId : Int}
    {statementId : Nat} (hwf : StatementsWF db) (hagree : BucketsAgree t db)
    (h : confirmTenantBillingStatement db now tenantId statementId = .ok db') :
    BucketsAgree t db' := by
  obtain ⟨s, a, hfind, htenant, hdraft, hacc, hdb⟩ := confirmTenantBillingStatement_ok h
  have hst := congrArg DB.statements hdb
  have hpay := congrArg DB.payments hdb
  have haccounts := congrArg DB.accounts hdb
  dsimp only at hst hpay haccounts
  have hid : s.id = statementId := Table.find?_key hfind
  have hunpaid : paidAmount db.payments s.id = 0 := by
    refine hwf.draft_unpaid s (Table.find?_mem hfind) ?_
    rcases hdraft with hdraft | hdraft <;> rw [hdraft] <;> rfl
  have hold : ∀ statuses, statuses BillingStatementStatus.draft = false →
      statuses BillingStatementStatus.adjusted = false → owes db.payments statuses t s = 0 := by
    intro statuses h₁ h₂
    exact owes_of_status (by rcases hdraft with hdraft | hdraft <;> rw [hdraft] <;> assumption)
  rw [← hid] at hfind
  have hsum := fun statuses => owedIn_set hst hpay hfind rfl statuses t
  have hb := hagree.billedUnpaid
  have ho := hagree.overdue
  refine ⟨?_, ?_⟩
  · rw [DB.accountColumn_set haccounts hacc rfl, hsum, hold awaitsPayment rfl rfl]
    split
    · next heq =>
      rw [← heq, DB.accountColumn_of_find hacc, heq] at hb
      rw [owes_eq (s := { s with status := .confirmed, confirmedAt := now.unix })
        (htenant.trans heq) rfl]
      simp only [CreditAccount.recalculate_billedUnpaidAmount]
      omega
    · next hne =>
      rw [owes_of_tenantId_ne (s := { s with status := .confirmed, confirmedAt := now.unix })
        fun h => hne (htenant.symm.trans h)]
      omega
  · rw [DB.accountColumn_set haccounts hacc rfl, hsum, hold isOverdue rfl rfl,
      owes_of_status (s := { s with status := .confirmed, confirmedAt := now.unix }) rfl]
    split
    · next heq =>
      rw [← heq, DB.accountColumn_of_find hacc, heq] at ho
      simp only [CreditAccount.recalculate_overdueAmount]
      omega
    · omega

/-- The overdue transaction moves a remainder from one bucket to the other. -/
theorem markOverdue_bucketsAgree {db db' : DB} {t : Int} {statementId : Nat}
    (hwf : StatementsWF db) (hagree : BucketsAgree t db)
    (h : markOverdueStatement db statementId = .ok db') : BucketsAgree t db' := by
  rcases markOverdueStatement_ok h with rfl | ⟨s, hfind, hawait, hcase⟩
  · exact hagree
  have hid : s.id = statementId := Table.find?_key hfind
  have hpart := hwf.owes_le awaitsPayment t hfind
  have hle := hwf.paid_le s (Table.find?_mem hfind)
  rw [← hid] at hfind
  have hnotOverdue : isOverdue s.status = false := by
    cases hst : s.status <;> simp_all [awaitsPayment, isOverdue]
  have hb := hagree.billedUnpaid
  have ho := hagree.overdue
  rcases hcase with ⟨hpaid, hdb⟩ | ⟨hpaid, a, hacc, hdb⟩
  · -- nothing remains, so leaving the billed statements changes no sum
    have hst := congrArg DB.statements hdb
    have hpay := congrArg DB.payments hdb
    have haccounts := congrArg DB.accounts hdb
    dsimp only at hst hpay haccounts
    have hsum := fun statuses => owedIn_set hst hpay hfind rfl statuses t
    have hzero : owes db.payments awaitsPayment t s = 0 := by
      unfold owes
      split <;> omega
    refine ⟨?_, ?_⟩
    · rw [DB.accountColumn_congr haccounts, hsum, hzero,
        owes_of_status (s := { s with status := .paid }) rfl]
      omega
    · rw [DB.accountColumn_congr haccounts, hsum, owes_of_status hnotOverdue,
        owes_of_status (s := { s with status := .paid }) rfl]
      omega
  · have hst := congrArg DB.statements hdb
    have hpay := congrArg DB.payments hdb
    have haccounts := congrArg DB.accounts hdb
    dsimp only at hst hpay haccounts
    have hsum := fun statuses => owedIn_set hst hpay hfind rfl statuses t
    refine ⟨?_, ?_⟩
    · rw [DB.accountColumn_set haccounts hacc rfl, hsum,
        owes_of_status (s := { s with status := .overdue }) rfl]
      split
      · next heq =>
        rw [← heq, DB.accountColumn_of_find hacc, heq] at hb
        rw [owes_eq heq hawait] at hpart ⊢
        simp only [CreditAccount.recalculate_billedUnpaidAmount]
        omega
      · next hne => rw [owes_of_tenantId_ne hne]; omega
    · rw [DB.accountColumn_set haccounts hacc rfl, hsum, owes_of_status hnotOverdue]
      split
      · next heq =>
        rw [← heq, DB.accountColumn_of_find hacc, heq] at ho
        rw [owes_eq (s := { s with status := .overdue }) heq rfl]
        simp only [CreditAccount.recalculate_overdueAmount]
        omega
      · next hne =>
        rw [owes_of_tenantId_ne (s := { s with status := .overdue }) hne]
        omega

/-- The other bucket of a payment on a statement in status `status` is empty. -/
def otherBucketEmpty (db : DB) (tenantId : Int) (status : BillingStatementStatus) : Prop :=
  if status = .overdue then db.accountColumn tenantId (·.billedUnpaidAmount) = 0
  else db.accountColumn tenantId (·.overdueAmount) = 0

instance (db : DB) (tenantId : Int) (status : BillingStatementStatus) :
    Decidable (otherBucketEmpty db tenantId status) :=
  inferInstanceAs (Decidable (if status = .overdue then _ else _))

/-- A payment lowers both buckets, so the buckets stay right exactly when the one
    that its statement is not in is empty. -/
theorem registerPayment_bucketsAgree_iff {db db' : DB} {now : Timestamp} {tenantId : Int}
    {statementId : Nat} {amount : Int} {method invoiceNo invoiceStatus : String} {actorId : Int}
    {s : BillingStatement} (hwf : StatementsWF db) (hagree : BucketsAgree tenantId db)
    (h : registerTenantPaymentAndInvoice db now tenantId statementId amount method invoiceNo
      invoiceStatus actorId = .ok db') (hs : findStatement db tenantId statementId = some s) :
    BucketsAgree tenantId db' ↔ otherBucketEmpty db tenantId s.status := by
  obtain ⟨s', a, p, hfind, htenant, haccept, hacc, hpos, hle, hp, hps, hpa, -, -, -, -, hpay,
    hst, haccounts⟩ := registerTenantPaymentAndInvoice_ok h
  have hss : s' = s := by
    have := (findStatement_eq_some.mp hs).1
    rw [hfind, Option.some.injEq] at this
    exact this
  subst hss
  have hid : s'.id = statementId := Table.find?_key hfind
  have hpartB := hwf.owes_le awaitsPayment tenantId hfind
  have hpartO := hwf.owes_le isOverdue tenantId hfind
  have hnnB := hwf.owedIn_nonneg awaitsPayment tenantId
  have hnnO := hwf.owedIn_nonneg isOverdue tenantId
  rw [← hid] at hfind hle hps
  have hsum := fun statuses =>
    owedIn_set_insert hst hpay hfind rfl hp hps statuses tenantId
  have hpaid : paidAmount db'.payments s'.id = paidAmount db.payments s'.id + amount := by
    rw [hpay, paidAmount_insert hp, if_pos hps, hpa]
  have hb := hagree.billedUnpaid
  have ho := hagree.overdue
  rw [DB.accountColumn_of_find hacc] at hb ho
  -- what the statement asks for afterwards
  have hnew : ∀ statuses, statuses BillingStatementStatus.paid = false →
      owes db'.payments statuses tenantId { s' with
        status := paidStatus s' (paidAmount (db.payments.insert p) statementId) } =
      if statuses (if s'.status = .overdue then .overdue else .invoiced) = true then
        s'.payable - paidAmount db.payments s'.id - amount
      else 0 := by
    intro statuses hnotPaid
    unfold owes paidStatus
    dsimp only
    rw [← hpay, ← hid, hpaid]
    by_cases hfull : s'.payable ≤ paidAmount db.payments s'.id + amount
    · have hrem : s'.payable - paidAmount db.payments s'.id - amount = 0 := by omega
      rw [if_pos hfull, hnotPaid, hrem, ite_self]
      simp only [Bool.false_eq_true, and_false, if_false]
    · rw [if_neg hfull, sub_add_eq_sub_sub]
      simp only [htenant, true_and]
  have hcolB : db'.accountColumn tenantId (·.billedUnpaidAmount) =
      max 0 (a.billedUnpaidAmount - amount) := by
    rw [DB.accountColumn_set haccounts hacc rfl, if_pos rfl]
    rfl
  have hcolO : db'.accountColumn tenantId (·.overdueAmount) =
      overdueAfterPayment a.overdueAmount amount := by
    rw [DB.accountColumn_set haccounts hacc rfl, if_pos rfl]
    rfl
  have hiff : BucketsAgree tenantId db' ↔
      max 0 (a.billedUnpaidAmount - amount) =
          owedIn db'.statements db'.payments awaitsPayment tenantId ∧
        overdueAfterPayment a.overdueAmount amount =
          owedIn db'.statements db'.payments isOverdue tenantId := by
    constructor
    · exact fun h => ⟨hcolB ▸ h.billedUnpaid, hcolO ▸ h.overdue⟩
    · exact fun h => ⟨hcolB.trans h.1, hcolO.trans h.2⟩
  rw [hiff, hsum awaitsPayment, hsum isOverdue, hnew awaitsPayment rfl, hnew isOverdue rfl,
    otherBucketEmpty, DB.accountColumn_of_find hacc, DB.accountColumn_of_find hacc,
    overdueAfterPayment]
  by_cases hover : s'.status = .overdue
  · have hA : awaitsPayment s'.status = false := by rw [hover]; rfl
    have hO : isOverdue s'.status = true := by rw [hover]; rfl
    rw [owes_eq htenant hO] at hpartO ⊢
    rw [owes_of_status hA]
    simp only [hover, if_true, awaitsPayment, isOverdue, Bool.false_eq_true, if_false]
    split_ifs <;> omega
  · have hO : isOverdue s'.status = false := by
      cases hstatus : s'.status <;> simp_all [isOverdue]
    have hA : awaitsPayment s'.status = true := by
      cases hstatus : s'.status <;> simp_all [awaitsPayment, acceptsPayment]
    rw [owes_eq htenant hA] at hpartB ⊢
    rw [owes_of_status hO]
    simp only [hover, if_false, awaitsPayment, isOverdue, Bool.false_eq_true, if_true]
    split_ifs <;> omega

/-- A payment of another tenant touches neither the tenant's debt nor its account. -/
theorem registerPayment_bucketsAgree_of_ne {db db' : DB} {now : Timestamp} {t tenantId : Int}
    {statementId : Nat} {amount : Int} {method invoiceNo invoiceStatus : String} {actorId : Int}
    (hne : tenantId ≠ t) (hagree : BucketsAgree t db)
    (h : registerTenantPaymentAndInvoice db now tenantId statementId amount method invoiceNo
      invoiceStatus actorId = .ok db') : BucketsAgree t db' := by
  obtain ⟨s, a, p, hfind, htenant, -, hacc, -, -, hp, hps, -, -, -, -, -, hpay, hst,
    haccounts⟩ := registerTenantPaymentAndInvoice_ok h
  have hid : s.id = statementId := Table.find?_key hfind
  rw [← hid] at hfind hps
  have hother : s.tenantId ≠ t := fun heq => hne (htenant.symm.trans heq)
  have hsum : ∀ statuses, owedIn db'.statements db'.payments statuses t =
      owedIn db.statements db.payments statuses t := by
    intro statuses
    rw [owedIn_set_insert hst hpay hfind rfl hp hps statuses t, owes_of_tenantId_ne hother]
    rw [owes_of_tenantId_ne (by exact hother)]
    omega
  refine ⟨?_, ?_⟩
  · rw [DB.accountColumn_set haccounts hacc rfl, if_neg hne, hsum]
    exact hagree.billedUnpaid
  · rw [DB.accountColumn_set haccounts hacc rfl, if_neg hne, hsum]
    exact hagree.overdue

/-! ## Runs -/

/-- The operations on a tenant's account: the tenant services, and
    `ApplyTenantLedgerCredit` called on its own. -/
inductive AccountOp where
  | applyLedger (ledger : UsageLedger)
  | tenant (op : TenantOp)

/-- The database after a call. -/
def AccountOp.exec (db : DB) : AccountOp → DB
  | .applyLedger ledger => commit db (applyTenantLedgerCredit db ledger)
  | .tenant op => op.exec db

/-- Every accepted payment of tenant `t` finds the bucket that its statement is not
    in empty. -/
def PaymentSeparate (t : Int) (db : DB) : AccountOp → Prop
  | .tenant (.registerPayment _ tenantId statementId amount _ _ _ _) =>
    ∀ s ∈ findStatement db tenantId statementId,
      tenantId = t → acceptsPayment s.status = true → 0 < amount →
        amount ≤ s.payable - paidAmount db.payments statementId → otherBucketEmpty db t s.status
  | _ => True

instance (t : Int) (db : DB) (op : AccountOp) : Decidable (PaymentSeparate t db op) :=
  match op with
  | .tenant (.registerPayment _ tenantId statementId amount _ _ _ _) =>
    inferInstanceAs (Decidable (∀ s ∈ findStatement db tenantId statementId,
      tenantId = t → acceptsPayment s.status = true → 0 < amount →
        amount ≤ s.payable - paidAmount db.payments statementId →
          otherBucketEmpty db t s.status))
  | .applyLedger _ | .tenant (.recordUsage _) | .tenant (.reserve _ _) | .tenant (.release _ _)
  | .tenant (.generate _ _ _ _ _) | .tenant (.confirm _ _ _) | .tenant (.markOverdue _ _) =>
    inferInstanceAs (Decidable True)

/-- `ApplyTenantLedgerCredit` is the transaction of the recording path. -/
theorem applyTenantLedgerCredit_eq (db : DB) (ledger : UsageLedger) :
    applyTenantLedgerCredit db ledger = applyTenantLedgerCreditTx db ledger := by
  unfold applyTenantLedgerCredit applyTenantLedgerCreditTx
  split <;> rfl

/-- Every operation keeps the statement tables well formed. -/
theorem exec_statementsWF (db : DB) (op : AccountOp) (hwf : StatementsWF db) :
    StatementsWF (op.exec db) := by
  cases op with
  | applyLedger ledger =>
    refine commit_inv hwf fun db' h => ?_
    rw [applyTenantLedgerCredit_eq] at h
    rw [applyTenantLedgerCreditTx_frame h]
    exact hwf.congr rfl rfl
  | tenant op =>
    cases op with
    | recordUsage c =>
      refine commit_inv hwf fun db' h => ?_
      rcases recordUsageWithMeta_ok h with rfl | ⟨row, hstored, -, -⟩
      · exact hwf
      · rw [hstored.frame]
        exact hwf.congr rfl rfl
    | reserve tenantId quota =>
      refine commit_inv hwf fun db' h => ?_
      rw [(reserveTenantCredit_frame h reserveFree_overdue tenantId).1]
      exact hwf.congr rfl rfl
    | release tenantId quota =>
      refine commit_inv hwf fun db' h => ?_
      rw [(releaseTenantCredit_frame h reserveFree_overdue tenantId).1]
      exact hwf.congr rfl rfl
    | generate now tenantId periodStart periodEnd adjustment =>
      refine commit_inv hwf fun db' h => ?_
      obtain ⟨s, hgen⟩ := generate_map_ok h
      exact generate_statementsWF hwf hgen
    | confirm now tenantId statementId =>
      exact commit_inv hwf fun db' h => confirm_statementsWF hwf h
    | registerPayment now tenantId statementId amount method invoiceNo invoiceStatus actorId =>
      exact commit_inv hwf fun db' h => registerPayment_statementsWF hwf h
    | markOverdue clock now =>
      exact markOverdueTenantStatements_inv (fun _ _ _ => markOverdue_statementsWF) hwf clock now

/-- Booking a ledger touches neither bucket. -/
theorem apply_bucketsAgree {db db' : DB} {ledger : UsageLedger} {t : Int}
    (hagree : BucketsAgree t db) (h : applyTenantLedgerCreditTx db ledger = .ok db') :
    BucketsAgree t db' := by
  have hframe := applyTenantLedgerCreditTx_frame h
  refine hagree.congr (by rw [hframe]) (by rw [hframe]) ?_ ?_
  · exact applyTenantLedgerCreditTx_column h t (fun _ _ _ => rfl) fun _ _ => rfl
  · exact applyTenantLedgerCreditTx_column h t (fun _ _ _ => rfl) fun _ _ => rfl

/-- One operation keeps the buckets right exactly when it is no payment that finds
    the other bucket filled. -/
theorem exec_bucketsAgree_iff (t : Int) (db : DB) (op : AccountOp) (hwf : StatementsWF db)
    (hagree : BucketsAgree t db) : BucketsAgree t (op.exec db) ↔ PaymentSeparate t db op := by
  cases op with
  | applyLedger ledger =>
    refine iff_of_true (commit_inv hagree fun db' h => ?_) trivial
    rw [applyTenantLedgerCredit_eq] at h
    exact apply_bucketsAgree hagree h
  | tenant op =>
    cases op with
    | recordUsage c =>
      refine iff_of_true (commit_inv hagree fun db' h => ?_) trivial
      rcases recordUsageWithMeta_ok h with rfl | ⟨row, hstored, -, -⟩
      · exact hagree
      · obtain ⟨now, db₂, happly, rfl⟩ := hstored.written
        have hins : BucketsAgree t { db with ledgers := db.ledgers.insert row } :=
          hagree.congr rfl rfl rfl rfl
        exact (apply_bucketsAgree hins happly).congr rfl rfl rfl rfl
    | reserve tenantId quota =>
      refine iff_of_true (commit_inv hagree fun db' h => ?_) trivial
      have hb := reserveTenantCredit_frame h reserveFree_billedUnpaid t
      have ho := reserveTenantCredit_frame h reserveFree_overdue t
      exact hagree.congr (by rw [hb.1]) (by rw [hb.1]) hb.2 ho.2
    | release tenantId quota =>
      refine iff_of_true (commit_inv hagree fun db' h => ?_) trivial
      have hb := releaseTenantCredit_frame h reserveFree_billedUnpaid t
      have ho := releaseTenantCredit_frame h reserveFree_overdue t
      exact hagree.congr (by rw [hb.1]) (by rw [hb.1]) hb.2 ho.2
    | generate now tenantId periodStart periodEnd adjustment =>
      refine iff_of_true (commit_inv hagree fun db' h => ?_) trivial
      obtain ⟨s, hgen⟩ := generate_map_ok h
      exact generate_bucketsAgree hagree hgen
    | confirm now tenantId statementId =>
      exact iff_of_true (commit_inv hagree fun db' h => confirm_bucketsAgree hwf hagree h) trivial
    | markOverdue clock now =>
      refine iff_of_true ?_ trivial
      exact (markOverdueTenantStatements_inv (P := fun db => StatementsWF db ∧ BucketsAgree t db)
        (fun _ _ _ h hok => ⟨markOverdue_statementsWF h.1 hok, markOverdue_bucketsAgree h.1 h.2 hok⟩)
        ⟨hwf, hagree⟩ clock now).2
    | registerPayment now tenantId statementId amount method invoiceNo invoiceStatus actorId =>
      dsimp only [AccountOp.exec, TenantOp.exec, PaymentSeparate]
      cases hreg : registerTenantPaymentAndInvoice db now tenantId statementId amount method
        invoiceNo invoiceStatus actorId with
      | ok db' =>
        obtain ⟨s, a, p, hfind, htenant, haccept, hacc, hpos, hle, -⟩ :=
          registerTenantPaymentAndInvoice_ok hreg
        have hs := findStatement_eq_some.mpr ⟨hfind, htenant⟩
        by_cases ht : tenantId = t
        · subst ht
          rw [commit, registerPayment_bucketsAgree_iff hwf hagree hreg hs]
          constructor
          · intro h s' hs' _ _ _ _
            rw [hs, Option.mem_some_iff] at hs'
            rw [← hs']
            exact h
          · exact fun h => h s hs rfl haccept hpos hle
        · exact iff_of_true (registerPayment_bucketsAgree_of_ne ht hagree hreg)
            fun s _ h => absurd h ht
      | error e =>
        refine iff_of_true hagree ?_
        -- a refused payment of an acceptable amount means that there is no account
        intro s hs ht haccept hpos hle
        rw [Option.mem_def] at hs
        have hnone : db.accounts.find? t = none := by
          subst ht
          cases hacc : db.accounts.find? tenantId with
          | none => rfl
          | some a =>
            have hrem : ¬ s.payable - paidAmount db.payments statementId ≤ 0 := by omega
            simp only [registerTenantPaymentAndInvoice, if_neg (not_le.mpr hpos), hs, haccept,
              not_true_eq_false, if_false, if_neg hrem, if_neg (not_lt.mpr hle), hacc,
              reduceCtorEq] at hreg
        unfold otherBucketEmpty
        rw [DB.accountColumn_of_none hnone, DB.accountColumn_of_none hnone]
        split <;> rfl

/-- From a tenant with an empty account, the two debt buckets mirror the statements
    and payments in every state of a run exactly when every payment of the tenant
    finds the bucket that its statement is not in empty. -/
theorem buckets_agree_iff_payments_separate (t : Int) (db : DB)
    (hstatements : db.statements = .empty) (hpayments : db.payments = .empty)
    (hbilled : db.accountColumn t (·.billedUnpaidAmount) = 0)
    (hoverdue : db.accountColumn t (·.overdueAmount) = 0) (ops : List AccountOp) :
    Run.Always AccountOp.exec (BucketsAgree t) db ops ↔
      Run.Steps AccountOp.exec (PaymentSeparate t) db ops := by
  have hwf : StatementsWF db := by
    refine ⟨?_, ?_, ?_, ?_⟩ <;> simp [hstatements, hpayments]
  have hagree : BucketsAgree t db := by
    refine ⟨?_, ?_⟩
    · rw [hbilled, hstatements]; rfl
    · rw [hoverdue, hstatements]; rfl
  exact Run.always_iff_steps exec_statementsWF (exec_bucketsAgree_iff t) hwf hagree ops

/-- A tenant with a confirmed statement of 50 (id 2) and an overdue one of 100 (id 1). -/
def twoStatements : List AccountOp :=
  [.applyLedger { requestId := "r", tenantId := 7, postpaidQuota := 150 },
    .tenant (.generate ⟨1, Int.one_pos⟩ 7 1 10 100),
    .tenant (.confirm ⟨1, Int.one_pos⟩ 7 1),
    .tenant (.markOverdue ⟨1, Int.one_pos⟩ 2592002),
    .tenant (.generate ⟨1, Int.one_pos⟩ 7 11 20 50),
    .tenant (.confirm ⟨1, Int.one_pos⟩ 7 2)]

/-- Without an overdue statement the payments of a run keep the buckets right. -/
theorem buckets_agree_after_payment :
    BucketsAgree 7 (Run.run AccountOp.exec DB.empty
      [.applyLedger { requestId := "r", tenantId := 7, postpaidQuota := 150 },
        .tenant (.generate ⟨1, by decide⟩ 7 1 10 100),
        .tenant (.confirm ⟨1, by decide⟩ 7 1),
        .tenant (.registerPayment ⟨1, by decide⟩ 7 1 60 "wire" "" "" 1)]) :=
  ((buckets_agree_iff_payments_separate 7 DB.empty rfl rfl rfl rfl _).mpr (by decide)).last

/-- A payment of 50 on the overdue statement empties `BilledUnpaidAmount`, although
    the confirmed statement still asks for 50. -/
theorem payment_hits_other_statement :
    ∃ ops : List AccountOp,
      ops = twoStatements ++ [.tenant (.registerPayment ⟨1, by decide⟩ 7 1 50 "wire" "" "" 1)] ∧
      (Run.run AccountOp.exec DB.empty ops).accountColumn 7 (·.billedUnpaidAmount) = 0 ∧
      owedIn (Run.run AccountOp.exec DB.empty ops).statements
        (Run.run AccountOp.exec DB.empty ops).payments awaitsPayment 7 = 50 ∧
      ¬ BucketsAgree 7 (Run.run AccountOp.exec DB.empty ops) :=
  ⟨_, rfl, by decide, by decide, by decide⟩

end TokenRouter
