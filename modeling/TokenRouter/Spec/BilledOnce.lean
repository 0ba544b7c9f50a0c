import TokenRouter.Spec.TenantRuns

/-!
# Every ledger row is billed once

`GenerateTenantBillingStatement` sums the success ledgers of a period whose two
bounds are inclusive, and nothing compares the period with those of other
statements. A `BillingHistory` remembers, for each statement, the rows that the
sum of its last generation ranged over. While the periods of the statements that
left draft are disjoint, no row is in two of them and the amounts add up to at
most the ledgers; two periods that share a second can bill a row twice.

## Key results

- `step_billedInv`: each statement's amount is the sum of the rows remembered for it
- `billedAmount_le`: disjoint periods bill at most the ledgers
- `billed_at_most_once`: both over whole runs
-/

namespace TokenRouter

/-! ## Histories -/

/-- The database, and for each statement id the rows its amount was computed from. -/
structure BillingHistory where
  db : DB
  included : Nat → List UsageLedger

/-- A successful generation overwrites the rows remembered for its statement. -/
def BillingHistory.step (h : BillingHistory) (op : TenantOp) : BillingHistory :=
  { db := op.exec h.db
    included :=
      match op with
      | .generate now tenantId periodStart periodEnd adjustment =>
        match generateTenantBillingStatement h.db now tenantId periodStart periodEnd adjustment with
        | .ok (s, _) =>
          Function.update h.included s.id (periodLedgers h.db tenantId periodStart periodEnd)
        | .error _ => h.included
      | _ => h.included }

/-- The rows are stored success ledgers of the statement's tenant and period, each
    once, and their sum is the statement's amount. -/
structure Accounted (ledgers : Table UsageLedger (·.requestId)) (rows : List UsageLedger)
    (s : BillingStatement) : Prop where
  amount : s.amount = (rows.map (·.postpaidQuota)).sum
  nodup : rows.Nodup
  mem : ∀ r ∈ rows, r ∈ ledgers.rows ∧ r.tenantId = s.tenantId ∧
    s.periodStart ≤ r.createdAt ∧ r.createdAt ≤ s.periodEnd ∧ r.status = "success"

/-- Every statement's amount is accounted for, and ledger rows are not negative. -/
structure BilledInv (h : BillingHistory) : Prop where
  accounted : ∀ s ∈ h.db.statements.rows, Accounted h.db.ledgers (h.included s.id) s
  postpaid_nonneg : ∀ r ∈ h.db.ledgers.rows, 0 ≤ r.postpaidQuota

/-- The columns of a statement that only a generation writes. -/
def SamePeriod (s s' : BillingStatement) : Prop :=
  s'.id = s.id ∧ s'.tenantId = s.tenantId ∧ s'.periodStart = s.periodStart ∧
    s'.periodEnd = s.periodEnd ∧ s'.amount = s.amount

/-- Ledger rows stay, and the statement keeps its period and amount. -/
theorem Accounted.mono {ledgers ledgers' : Table UsageLedger (·.requestId)}
    {rows : List UsageLedger} {s s' : BillingStatement} (h : Accounted ledgers rows s)
    (hledgers : ∀ r ∈ ledgers.rows, r ∈ ledgers'.rows) (hs : SamePeriod s s') :
    Accounted ledgers' rows s' := by
  obtain ⟨-, htenant, hstart, hend, hamount⟩ := hs
  refine ⟨hamount.trans h.amount, h.nodup, ?_⟩
  rw [htenant, hstart, hend]
  exact fun r hr => ⟨hledgers r (h.mem r hr).1, (h.mem r hr).2⟩

/-- Rows of one table are listed once. -/
theorem rows_nodup {ρ κ : Type} {key : ρ → κ} (t : Table ρ key) : t.rows.Nodup :=
  t.nodup.of_map

/-! ## What the operations do to statements and ledgers -/

/-- Overwriting a statement by one with the same period changes no period. -/
theorem samePeriod_of_set {statements : Table BillingStatement (·.id)} {s s' : BillingStatement}
    (hfind : statements.find? s.id = some s) (hs : SamePeriod s s') :
    ∀ x' ∈ (statements.set s').rows, ∃ x ∈ statements.rows, SamePeriod x x' := by
  intro x' hx'
  rcases Table.mem_set hx' with rfl | ⟨hx', -⟩
  · exact ⟨s, Table.find?_mem hfind, hs⟩
  · exact ⟨x', hx', rfl, rfl, rfl, rfl, rfl⟩

/-- Every statement afterwards has the period and the amount of one before, and the
    ledgers are the same. -/
def KeepsPeriods (db db' : DB) : Prop :=
  db'.ledgers = db.ledgers ∧
    ∀ s' ∈ db'.statements.rows, ∃ s ∈ db.statements.rows, SamePeriod s s'

theorem KeepsPeriods.refl (db : DB) : KeepsPeriods db db :=
  ⟨rfl, fun s hs => ⟨s, hs, rfl, rfl, rfl, rfl, rfl⟩⟩

theorem KeepsPeriods.of_set {db db' : DB} {s s' : BillingStatement} {id : Nat}
    (hst : db'.statements = db.statements.set s') (hledgers : db'.ledgers = db.ledgers)
    (hfind : db.statements.find? id = some s) (hs : SamePeriod s s') : KeepsPeriods db db' := by
  refine ⟨hledgers, ?_⟩
  rw [hst]
  rw [← Table.find?_key hfind] at hfind
  exact samePeriod_of_set hfind hs

theorem confirm_keepsPeriods {db db' : DB} {now : Timestamp} {tenantId : Int} {statementId : Nat}
    (h : confirmTenantBillingStatement db now tenantId statementId = .ok db') :
    KeepsPeriods db db' := by
  obtain ⟨s, a, hfind, -, -, -, rfl⟩ := confirmTenantBillingStatement_ok h
  exact .of_set rfl rfl hfind ⟨rfl, rfl, rfl, rfl, rfl⟩

theorem registerPayment_keepsPeriods {db db' : DB} {now : Timestamp} {tenantId : Int}
    {statementId : Nat} {amount : Int} {method invoiceNo invoiceStatus : String} {actorId : Int}
    (h : registerTenantPaymentAndInvoice db now tenantId statementId amount method invoiceNo
      invoiceStatus actorId = .ok db') : KeepsPeriods db db' := by
  obtain ⟨s, a, p, hfind, -, -, -, -, -, -, -, -, -, hledgers, -, -, -, hst, -⟩ :=
    registerTenantPaymentAndInvoice_ok h
  exact .of_set hst hledgers hfind ⟨rfl, rfl, rfl, rfl, rfl⟩

theorem markOverdueStatement_keepsPeriods {db db' : DB} {statementId : Nat}
    (h : markOverdueStatement db statementId = .ok db') : KeepsPeriods db db' := by
  rcases markOverdueStatement_ok h with rfl | ⟨s, hfind, -, ⟨-, rfl⟩ | ⟨-, a, -, rfl⟩⟩
  · exact .refl _
  · exact .of_set rfl rfl hfind ⟨rfl, rfl, rfl, rfl, rfl⟩
  · exact .of_set rfl rfl hfind ⟨rfl, rfl, rfl, rfl, rfl⟩

/-- A transaction that keeps ledgers, periods and amounts keeps the accounting. -/
theorem BilledInv.keepsPeriods {db db' : DB} {included : Nat → List UsageLedger}
    (h : BilledInv ⟨db, included⟩) (hkeep : KeepsPeriods db db') : BilledInv ⟨db', included⟩ := by
  refine ⟨?_, ?_⟩
  · intro s' hs'
    obtain ⟨s, hs, hsame⟩ := hkeep.2 s' hs'
    have hacc := h.accounted s hs
    dsimp only at hacc ⊢
    rw [hsame.1, hkeep.1]
    exact hacc.mono (fun _ hr => hr) hsame
  · intro r hr
    dsimp only at hr
    rw [hkeep.1] at hr
    exact h.postpaid_nonneg r hr

/-- Changing only accounts and the like keeps the accounting. -/
theorem BilledInv.congr {db db' : DB} {included : Nat → List UsageLedger}
    (h : BilledInv ⟨db, included⟩) (hst : db'.statements = db.statements)
    (hledgers : db'.ledgers = db.ledgers) : BilledInv ⟨db', included⟩ := by
  refine h.keepsPeriods ⟨hledgers, ?_⟩
  rw [hst]
  exact fun s hs => ⟨s, hs, rfl, rfl, rfl, rfl, rfl⟩

/-- A new ledger row leaves the rows of every statement in place. -/
theorem BilledInv.stored {loc : Location} {db db' : DB} {included : Nat → List UsageLedger}
    {row : UsageLedger} (h : BilledInv ⟨db, included⟩) (hstored : Stored loc db row db')
    (hrow : 0 ≤ row.postpaidQuota) : BilledInv ⟨db', included⟩ := by
  have hst : db'.statements = db.statements := by rw [hstored.frame]
  have hledgers : db'.ledgers = db.ledgers.insert row := by rw [hstored.frame]
  refine ⟨?_, ?_⟩
  · intro s hs
    dsimp only at hs ⊢
    rw [hst] at hs
    rw [hledgers]
    refine (h.accounted s hs).mono (fun r hr => ?_) ⟨rfl, rfl, rfl, rfl, rfl⟩
    exact (Table.mem_insert hstored.fresh).mpr (.inl hr)
  · intro r hr
    dsimp only at hr
    rw [hledgers] at hr
    rcases (Table.mem_insert hstored.fresh).mp hr with hr | rfl
    · exact h.postpaid_nonneg r hr
    · exact hrow

/-- A generated statement is accounted for by the rows of its sum. -/
theorem generate_accounted {db db' : DB} {now : Timestamp} {s : BillingStatement}
    {tenantId periodStart periodEnd adjustment : Int}
    (h : generateTenantBillingStatement db now tenantId periodStart periodEnd adjustment =
      .ok (s, db')) :
    Accounted db.ledgers (periodLedgers db tenantId periodStart periodEnd) s := by
  obtain ⟨htenant, hstart, hend, hamount, -⟩ := generateTenantBillingStatement_ok h
  refine ⟨hamount, (rows_nodup _).filter _, ?_⟩
  intro r hr
  rw [periodLedgers, List.mem_filter] at hr
  obtain ⟨hmem, hr⟩ := hr
  simp only [Bool.decide_and, Bool.and_eq_true, decide_eq_true_eq] at hr
  rw [htenant, hstart, hend]
  exact ⟨hmem, hr.1, hr.2.1, hr.2.2.1, hr.2.2.2⟩

/-- Generation writes one statement and leaves the others. -/
theorem generate_mem {db db' : DB} {now : Timestamp} {s : BillingStatement}
    {tenantId periodStart periodEnd adjustment : Int}
    (h : generateTenantBillingStatement db now tenantId periodStart periodEnd adjustment =
      .ok (s, db')) :
    db'.ledgers = db.ledgers ∧ db'.accounts = db.accounts ∧
      ∀ x ∈ db'.statements.rows, x = s ∨ (x ∈ db.statements.rows ∧ x.id ≠ s.id) := by
  obtain ⟨-, -, -, -, -, -, -, hcase⟩ := generateTenantBillingStatement_ok h
  rcases hcase with ⟨old, hfind, -, -, -, -, rfl⟩ | ⟨hnone, -, rfl⟩
  · exact ⟨rfl, rfl, fun x hx => Table.mem_set hx⟩
  · refine ⟨rfl, rfl, fun x hx => ?_⟩
    rcases (Table.mem_insert hnone).mp hx with hx | rfl
    · exact .inr ⟨hx, Table.find?_eq_none_iff.mp hnone x hx⟩
    · exact .inl rfl

/-- Every operation keeps the statements accounted for. -/
theorem step_billedInv (h : BillingHistory) (op : TenantOp) (hinv : BilledInv h) :
    BilledInv (h.step op) := by
  obtain ⟨db, included⟩ := h
  cases op with
  | recordUsage c =>
    refine commit_inv (P := fun db' => BilledInv ⟨db', included⟩) hinv fun db' hok => ?_
    rcases recordUsageWithMeta_ok hok with rfl | ⟨row, hstored, hrow, -⟩
    · exact hinv
    · exact hinv.stored hstored hrow.postpaidQuota_nonneg
  | reserve tenantId quota =>
    refine commit_inv (P := fun db' => BilledInv ⟨db', included⟩) hinv fun db' hok => ?_
    have hframe := (reserveTenantCredit_frame hok reserveFree_overdue tenantId).1
    exact hinv.congr (by rw [hframe]) (by rw [hframe])
  | release tenantId quota =>
    refine commit_inv (P := fun db' => BilledInv ⟨db', included⟩) hinv fun db' hok => ?_
    have hframe := (releaseTenantCredit_frame hok reserveFree_overdue tenantId).1
    exact hinv.congr (by rw [hframe]) (by rw [hframe])
  | confirm now tenantId statementId =>
    exact commit_inv (P := fun db' => BilledInv ⟨db', included⟩) hinv
      fun db' hok => hinv.keepsPeriods (confirm_keepsPeriods hok)
  | registerPayment now tenantId statementId amount method invoiceNo invoiceStatus actorId =>
    exact commit_inv (P := fun db' => BilledInv ⟨db', included⟩) hinv
      fun db' hok => hinv.keepsPeriods (registerPayment_keepsPeriods hok)
  | markOverdue clock now =>
    exact markOverdueTenantStatements_inv (P := fun db' => BilledInv ⟨db', included⟩)
      (fun _ _ _ h hok => h.keepsPeriods (markOverdueStatement_keepsPeriods hok)) hinv clock now
  | generate now tenantId periodStart periodEnd adjustment =>
    simp only [BillingHistory.step, TenantOp.exec]
    cases hgen : generateTenantBillingStatement db now tenantId periodStart periodEnd
      adjustment with
    | error e => exact hinv
    | ok result =>
      obtain ⟨s, db'⟩ := result
      obtain ⟨hledgers, -, hmem⟩ := generate_mem hgen
      simp only [Except.map, commit]
      refine ⟨?_, ?_⟩
      · intro x hx
        dsimp only at hx ⊢
        rw [hledgers]
        rcases hmem x hx with rfl | ⟨hx, hne⟩
        · rw [Function.update_self]
          exact generate_accounted hgen
        · rw [Function.update_of_ne hne]
          exact hinv.accounted x hx
      · dsimp only
        rw [hledgers]
        exact hinv.postpaid_nonneg

/-! ## The sums -/

/-- The tenant's statements that left draft. -/
def billedStatements (db : DB) (tenantId : Int) : List BillingStatement :=
  db.statements.rows.filter fun s =>
    s.tenantId = tenantId ∧ billingStatementRegenerationLocked s.status = true

/-- The sum of `Amount` over the tenant's statements that left draft. -/
def billedAmount (db : DB) (tenantId : Int) : Int :=
  ((billedStatements db tenantId).map (·.amount)).sum

/-- The tenant's success ledgers. -/
def successLedgers (db : DB) (tenantId : Int) : List UsageLedger :=
  db.ledgers.rows.filter fun l => l.tenantId = tenantId ∧ l.status = "success"

/-- The sum of `PostpaidQuota` over the tenant's success ledgers. -/
def successPostpaid (db : DB) (tenantId : Int) : Int :=
  ((successLedgers db tenantId).map (·.postpaidQuota)).sum

/-- The inclusive periods of two statements share no second. -/
def DisjointPeriods (s s' : BillingStatement) : Prop :=
  s.periodEnd < s'.periodStart ∨ s'.periodEnd < s.periodStart

instance (s s' : BillingStatement) : Decidable (DisjointPeriods s s') :=
  inferInstanceAs (Decidable (_ ∨ _))

/-- The tenant's statements that left draft have pairwise disjoint periods. -/
def PeriodsDisjoint (tenantId : Int) (db : DB) : Prop :=
  ∀ s ∈ billedStatements db tenantId, ∀ s' ∈ billedStatements db tenantId,
    s.id ≠ s'.id → DisjointPeriods s s'

instance (tenantId : Int) (db : DB) : Decidable (PeriodsDisjoint tenantId db) :=
  inferInstanceAs (Decidable (∀ s ∈ billedStatements db tenantId,
    ∀ s' ∈ billedStatements db tenantId, s.id ≠ s'.id → DisjointPeriods s s'))

theorem mem_billedStatements {db : DB} {tenantId : Int} {s : BillingStatement} :
    s ∈ billedStatements db tenantId ↔ s ∈ db.statements.rows ∧ s.tenantId = tenantId ∧
      billingStatementRegenerationLocked s.status = true := by
  simp [billedStatements, List.mem_filter]

/-- A row in the sums of two statements lies in both periods. -/
theorem included_of_disjoint {h : BillingHistory} (hinv : BilledInv h) {tenantId : Int}
    (hdisj : PeriodsDisjoint tenantId h.db) {s s' : BillingStatement}
    (hs : s ∈ billedStatements h.db tenantId) (hs' : s' ∈ billedStatements h.db tenantId)
    {r : UsageLedger} (hr : r ∈ h.included s.id) (hr' : r ∈ h.included s'.id) : s = s' := by
  have hmem := (mem_billedStatements.mp hs).1
  have hmem' := (mem_billedStatements.mp hs').1
  by_contra hne
  have hid : s.id ≠ s'.id := fun heq => hne (h.db.statements.eq_of_key_eq hmem hmem' heq)
  obtain ⟨-, -, hlo, hhi, -⟩ := (hinv.accounted s hmem).mem r hr
  obtain ⟨-, -, hlo', hhi', -⟩ := (hinv.accounted s' hmem').mem r hr'
  rcases hdisj s hs s' hs' hid with hlt | hlt <;> omega

/-- Distinct non-negative members of a list add up to at most the list. -/
theorem sum_map_le_of_nodup {α : Type} {l l' : List α} (f : α → Int) (hnodup : l.Nodup)
    (hsub : l ⊆ l') (hnn : ∀ x ∈ l', 0 ≤ f x) : (l.map f).sum ≤ (l'.map f).sum := by
  obtain ⟨l₁, hperm, hsublist⟩ := List.Nodup.subperm hnodup hsub
  rw [← (hperm.map f).sum_eq]
  refine (hsublist.map f).sum_le_sum ?_
  intro y hy
  obtain ⟨x, hx, rfl⟩ := List.mem_map.mp hy
  exact hnn x hx

/-- Statements with disjoint periods bill at most what the ledgers hold. -/
theorem billedAmount_le {h : BillingHistory} (hinv : BilledInv h) {tenantId : Int}
    (hdisj : PeriodsDisjoint tenantId h.db) :
    billedAmount h.db tenantId ≤ successPostpaid h.db tenantId := by
  -- all rows that were summed, statement by statement
  let rows := (billedStatements h.db tenantId).flatMap fun s => h.included s.id
  have hsum : billedAmount h.db tenantId = (rows.map (·.postpaidQuota)).sum := by
    have hamount : (billedStatements h.db tenantId).map (·.amount) =
        (billedStatements h.db tenantId).map fun s =>
          ((h.included s.id).map (·.postpaidQuota)).sum :=
      List.map_congr_left fun s hs =>
        (hinv.accounted s (mem_billedStatements.mp hs).1).amount
    rw [billedAmount, hamount, List.map_flatMap, List.flatMap_def, List.sum_flatten, List.map_map]
    rfl
  have hnodup : rows.Nodup := by
    rw [List.nodup_flatMap]
    refine ⟨fun s hs => (hinv.accounted s (mem_billedStatements.mp hs).1).nodup, ?_⟩
    have hpair : (billedStatements h.db tenantId).Nodup := (rows_nodup _).filter _
    refine hpair.imp_of_mem ?_
    intro s s' hs hs' hne r hr hr'
    exact hne (included_of_disjoint hinv hdisj hs hs' hr hr')
  have hsub : rows ⊆ successLedgers h.db tenantId := by
    intro r hr
    obtain ⟨s, hs, hr⟩ := List.mem_flatMap.mp hr
    obtain ⟨hmem, htenant, -⟩ := mem_billedStatements.mp hs
    obtain ⟨hrmem, hrtenant, -, -, hstatus⟩ := (hinv.accounted s hmem).mem r hr
    simp [successLedgers, List.mem_filter, hrmem, hrtenant, htenant, hstatus]
  rw [hsum]
  refine sum_map_le_of_nodup _ hnodup hsub fun r hr => ?_
  exact hinv.postpaid_nonneg r (List.mem_filter.mp hr).1

/-! ## Runs -/

/-- In every run from an unbilled database, as long as the periods of the tenant's
    statements that left draft are pairwise disjoint, no ledger row is in the amount
    of two of them and their amounts add up to at most the success ledgers. -/
theorem billed_at_most_once (tenantId : Int) (db : DB) (hstatements : db.statements = .empty)
    (hledgers : db.ledgers = .empty) (ops : List TenantOp) :
    Run.Always BillingHistory.step
      (fun h => PeriodsDisjoint tenantId h.db →
        (∀ r ∈ h.db.ledgers.rows, ∀ s ∈ billedStatements h.db tenantId,
          ∀ s' ∈ billedStatements h.db tenantId,
            r ∈ h.included s.id → r ∈ h.included s'.id → s = s') ∧
        (∀ s ∈ billedStatements h.db tenantId, Accounted h.db.ledgers (h.included s.id) s) ∧
        billedAmount h.db tenantId ≤ successPostpaid h.db tenantId)
      ⟨db, fun _ => []⟩ ops := by
  have hinit : BilledInv ⟨db, fun _ => []⟩ := by
    refine ⟨?_, ?_⟩ <;> simp [hstatements, hledgers]
  refine (Run.always_of_inv step_billedInv hinit ops).mono fun h hinv hdisj => ⟨?_, ?_, ?_⟩
  · exact fun r _ s hs s' hs' hr hr' => included_of_disjoint hinv hdisj hs hs' hr hr'
  · exact fun s hs => hinv.accounted s (mem_billedStatements.mp hs).1
  · exact billedAmount_le hinv hdisj

/-- Two rows and two consecutive periods without a common second. -/
def consecutivePeriods : List TenantOp :=
  [.recordUsage (recordAt 10 "a" 1), .recordUsage (recordAt 11 "b" 2),
    .generate ⟨20, by decide⟩ 7 1 10 0, .generate ⟨20, by decide⟩ 7 11 20 0,
    .confirm ⟨20, by decide⟩ 7 1, .confirm ⟨20, by decide⟩ 7 2]

/-- Consecutive periods bill both rows once. -/
theorem billed_once_consecutive :
    billedAmount (Run.run BillingHistory.step ⟨DB.empty, fun _ => []⟩ consecutivePeriods).db 7 ≤
      successPostpaid
        (Run.run BillingHistory.step ⟨DB.empty, fun _ => []⟩ consecutivePeriods).db 7 :=
  ((billed_at_most_once 7 DB.empty rfl rfl consecutivePeriods).last (by decide)).2.2

/-- Two periods that share second 10 both bill the row of that second: the amounts add
    up to 60 where the ledgers hold 30. -/
theorem shared_second_billed_twice :
    ∃ ops : List TenantOp,
      ops = [.recordUsage (recordAt 10 "a" 1), .generate ⟨20, by decide⟩ 7 1 10 0,
        .generate ⟨20, by decide⟩ 7 10 20 0, .confirm ⟨20, by decide⟩ 7 1,
        .confirm ⟨20, by decide⟩ 7 2] ∧
      billedAmount (Run.run BillingHistory.step ⟨DB.empty, fun _ => []⟩ ops).db 7 = 60 ∧
      successPostpaid (Run.run BillingHistory.step ⟨DB.empty, fun _ => []⟩ ops).db 7 = 30 :=
  ⟨_, rfl, by decide, by decide⟩

end TokenRouter
