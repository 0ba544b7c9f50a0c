import TokenRouter.Model.SettlementStatement
import TokenRouter.ForStd.Run

/-!
# Settlement statements reconcile with the usage ledgers

Over every sequence of generations and changes of the ledgers: a statement is unique
under subject, both ids and period; until the ledgers change, its totals are those of the
ledgers it drills down to; and two consecutive periods share exactly the ledgers created
at the second they have in common.

## Key results

- `searchUsageLedgers_filters`: the two filter functions agree
- `statements_reconcile`: the three laws
-/

namespace TokenRouter

/-- A statement is generated, or the ledgers change. -/
inductive SettlementEvent where
  | generate (input : SettlementStatementGenerateInput)
  | ledgers (ledgers : List UsageLedger)

namespace SettlementDB

def step (db : SettlementDB) : SettlementEvent → SettlementDB
  | .generate input => generateSettlementStatement db input
  | .ledgers ledgers => { db with ledgers }

/-- No statement yet. -/
def start (ledgers : List UsageLedger) : SettlementDB := ⟨ledgers, .empty⟩

end SettlementDB

@[simp] theorem SettlementStatement.withTotals_key (s : SettlementStatement)
    (agg : MarginAggregate) : (s.withTotals agg).key = s.key := rfl

@[simp] theorem SettlementStatement.withTotals_id (s : SettlementStatement)
    (agg : MarginAggregate) : (s.withTotals agg).id = s.id := rfl

/-- An accepted key has a positive subject id and period. -/
structure SettlementKey.Valid (key : SettlementKey) : Prop where
  start_pos : 0 < key.periodStart
  end_pos : 0 < key.periodEnd
  supplier_pos : key.subjectType = .supplier → 0 < key.supplierId
  user_pos : key.subjectType = .user → 0 < key.userId

theorem validateSettlementStatementInput_ok {input : SettlementStatementGenerateInput}
    {key : SettlementKey} (h : validateSettlementStatementInput input = .ok key) : key.Valid := by
  unfold validateSettlementStatementInput at h
  simp only at h
  split at h
  · split at h
    · cases h
    · next hid =>
      split at h
      · cases h
      · next hperiod =>
        cases h
        exact ⟨by show 0 < input.periodStart; omega, by show 0 < input.periodEnd; omega,
          fun _ => by show 0 < input.supplierId; omega, fun hu => absurd hu (by simp)⟩
  · split at h
    · cases h
    · next hid =>
      split at h
      · cases h
      · next hperiod =>
        cases h
        exact ⟨by show 0 < input.periodStart; omega, by show 0 < input.periodEnd; omega,
          fun hs => absurd hs (by simp), fun _ => by show 0 < input.userId; omega⟩
  · cases h

/-- The drill-down of a statement finds the ledgers that its totals were summed over. -/
theorem searchUsageLedgers_filters (ledgers : List UsageLedger) {s : SettlementStatement}
    (h : s.key.Valid) :
    searchUsageLedgers ledgers (usageLedgerFiltersForStatement s) =
      statementLedgerQuery ledgers s.key := by
  have hstart : ¬ s.key.periodStart ≤ 0 := by have := h.start_pos; omega
  have hend : ¬ s.key.periodEnd ≤ 0 := by have := h.end_pos; omega
  have hsuccess : trimSpace "success" = "success" := by decide
  unfold searchUsageLedgers statementLedgerQuery
  apply List.filter_congr
  intro l _
  rw [Bool.eq_iff_iff]
  cases hsub : s.key.subjectType with
  | supplier =>
    have hid : ¬ s.key.supplierId ≤ 0 := by have := h.supplier_pos hsub; omega
    simp [usageLedgerFiltersForStatement, textFilter, idFilter, hsub, hstart, hend, hid, hsuccess]
    tauto
  | user =>
    have hid : ¬ s.key.userId ≤ 0 := by have := h.user_pos hsub; omega
    simp [usageLedgerFiltersForStatement, textFilter, idFilter, hsub, hstart, hend, hid, hsuccess]
    tauto

/-! ### Generations -/

theorem generate_ledgers (db : SettlementDB) (input : SettlementStatementGenerateInput) :
    (generateSettlementStatement db input).ledgers = db.ledgers := by
  unfold generateSettlementStatement
  split <;> rfl

/-- A generation keeps the key unique. -/
theorem uniqueOn_step {db : SettlementDB} (h : db.statements.UniqueOn (·.key))
    (e : SettlementEvent) : (db.step e).statements.UniqueOn (·.key) := by
  cases e with
  | ledgers l => exact h
  | generate input =>
    simp only [SettlementDB.step, generateSettlementStatement]
    split
    · exact h
    · exact h.upsertOn (fun _ => rfl) (fun _ => rfl) (fun _ => rfl) (fun _ => rfl)

/-- Statements of a key agree with its ledgers. -/
def Reconciled (db : SettlementDB) (key : SettlementKey) : Prop :=
  ∀ s ∈ db.statements.rows, s.key = key →
    s = s.withTotals (scanMarginAggregate (statementLedgerQuery db.ledgers key))

/-- A row after an accepted generation: of another key and there before, or of its key and
with its totals. -/
theorem mem_generate {db : SettlementDB} (h : db.statements.UniqueOn (·.key))
    {input : SettlementStatementGenerateInput} {key : SettlementKey}
    (hkey : validateSettlementStatementInput input = .ok key) {s : SettlementStatement}
    (hs : s ∈ (generateSettlementStatement db input).statements.rows) :
    (s ∈ db.statements.rows ∧ s.key ≠ key) ∨
      (s.key = key ∧
        s = s.withTotals (scanMarginAggregate (statementLedgerQuery db.ledgers key))) := by
  simp only [generateSettlementStatement, hkey] at hs
  have hmem := (Table.mem_upsertOn h
    (fun s => s.withTotals_id (scanMarginAggregate (statementLedgerQuery db.ledgers key)))
    (fun _ => rfl)).mp hs
  rcases hmem with ⟨hs, hne⟩ | ⟨s₀, -, hs₀, rfl⟩ | ⟨-, rfl⟩
  · exact .inl ⟨hs, hne⟩
  · exact .inr ⟨hs₀, rfl⟩
  · exact .inr ⟨rfl, rfl⟩

theorem reconciled_generate_self {db : SettlementDB} (h : db.statements.UniqueOn (·.key))
    {input : SettlementStatementGenerateInput} {key : SettlementKey}
    (hkey : validateSettlementStatementInput input = .ok key) :
    Reconciled (generateSettlementStatement db input) key := by
  intro s hs hsk
  rw [generate_ledgers]
  rcases mem_generate h hkey hs with ⟨-, hne⟩ | ⟨-, htotals⟩
  · exact absurd hsk hne
  · exact htotals

/-- A later generation over the same ledgers keeps the totals right. -/
theorem Reconciled.generate {db : SettlementDB} {key : SettlementKey} (h : Reconciled db key)
    (hunique : db.statements.UniqueOn (·.key)) (input : SettlementStatementGenerateInput) :
    Reconciled (generateSettlementStatement db input) key := by
  cases hkey : validateSettlementStatementInput input with
  | error e =>
    simp only [generateSettlementStatement, hkey]
    exact h
  | ok key' =>
    by_cases hk : key' = key
    · exact hk ▸ reconciled_generate_self hunique hkey
    · intro s hs hsk
      rw [generate_ledgers]
      rcases mem_generate hunique hkey hs with ⟨hs, -⟩ | ⟨hk₀, -⟩
      · exact h s hs hsk
      · exact absurd (hk₀.symm.trans hsk) hk

theorem run_generate_ledgers (db : SettlementDB) (inputs : List SettlementStatementGenerateInput) :
    (Run.run SettlementDB.step db (inputs.map .generate)).ledgers = db.ledgers := by
  induction inputs generalizing db with
  | nil => rfl
  | cons input inputs ih => exact (ih _).trans (generate_ledgers db input)

theorem Reconciled.run {db : SettlementDB} {key : SettlementKey} (h : Reconciled db key)
    (hunique : db.statements.UniqueOn (·.key)) (inputs : List SettlementStatementGenerateInput) :
    Reconciled (Run.run SettlementDB.step db (inputs.map .generate)) key := by
  induction inputs generalizing db with
  | nil => exact h
  | cons input inputs ih => exact ih (h.generate hunique input) (uniqueOn_step hunique (.generate input))

/-- What a statement says of the ledgers it drills down to. -/
def SettlementStatement.ReconcilesWith (s : SettlementStatement) (ledgers : List UsageLedger) :
    Prop :=
  s.totalRequests = ledgers.length ∧
    s.totalPromptTokens = (ledgers.map (·.promptTokens)).sum ∧
    s.totalCachedTokens = (ledgers.map (·.cachedTokens)).sum ∧
    s.totalCompletionTokens = (ledgers.map (·.completionTokens)).sum ∧
    s.totalSellQuota = (ledgers.map (·.sellQuota)).sum ∧
    s.totalCostQuota = (ledgers.map (·.costQuota)).sum ∧
    s.grossProfitQuota = s.totalSellQuota - s.totalCostQuota

theorem reconcilesWith_of_withTotals {s : SettlementStatement} {ledgers : List UsageLedger}
    (h : s = s.withTotals (scanMarginAggregate ledgers)) : s.ReconcilesWith ledgers := by
  rw [h]
  exact ⟨rfl, rfl, rfl, rfl, rfl, rfl, rfl⟩

/-- The id of the subject that a statement is about, and the other one. -/
def SettlementKey.subjectId (k : SettlementKey) : Int :=
  if k.subjectType = .supplier then k.supplierId else k.userId

def SettlementKey.otherId (k : SettlementKey) : Int :=
  if k.subjectType = .supplier then k.userId else k.supplierId

theorem SettlementKey.ext_subject {a b : SettlementKey} (htype : a.subjectType = b.subjectType)
    (hsubject : a.subjectId = b.subjectId) (hother : a.otherId = b.otherId)
    (hstart : a.periodStart = b.periodStart) (hend : a.periodEnd = b.periodEnd) : a = b := by
  obtain ⟨ta, sa, ua, psa, pea⟩ := a
  obtain ⟨tb, sb, ub, psb, peb⟩ := b
  simp only at htype hstart hend
  subst htype hstart hend
  cases ta <;> simp_all [SettlementKey.subjectId, SettlementKey.otherId]

/-- A ledger counts for a key if it succeeded for the subject within the period. -/
theorem mem_statementLedgerQuery {ledgers : List UsageLedger} {k : SettlementKey}
    {l : UsageLedger} :
    l ∈ statementLedgerQuery ledgers k ↔
      l ∈ ledgers ∧ l.status = "success" ∧
        (if k.subjectType = .supplier then l.supplierId else l.userId) = k.subjectId ∧
        k.periodStart ≤ l.createdAt ∧ l.createdAt ≤ k.periodEnd := by
  unfold statementLedgerQuery SettlementKey.subjectId
  rw [List.mem_filter]
  cases k.subjectType <;> simp <;> tauto

theorem uniqueOn_run (ledgers : List UsageLedger) (es : List SettlementEvent) :
    (Run.run SettlementDB.step (.start ledgers) es).statements.UniqueOn (·.key) := by
  have hstep : ∀ db e, db.statements.UniqueOn (·.key) →
      (SettlementDB.step db e).statements.UniqueOn (·.key) := fun _ e h => uniqueOn_step h e
  exact Run.run_inv hstep Table.uniqueOn_empty es

/-- Keys of stored statements come from accepted inputs. -/
theorem valid_step {db : SettlementDB} (h : ∀ s ∈ db.statements.rows, s.key.Valid)
    (e : SettlementEvent) : ∀ s ∈ (db.step e).statements.rows, s.key.Valid := by
  cases e with
  | ledgers l => exact h
  | generate input =>
    simp only [SettlementDB.step, generateSettlementStatement]
    split
    · exact h
    · next key hkey =>
      intro s hs
      rcases Table.mem_of_mem_upsertOn hs with hs | ⟨s₀, hs₀, rfl⟩ | rfl
      · exact h s hs
      · exact h s₀ hs₀
      · exact validateSettlementStatementInput_ok hkey

theorem valid_run (ledgers : List UsageLedger) (es : List SettlementEvent) :
    ∀ s ∈ (Run.run SettlementDB.step (.start ledgers) es).statements.rows, s.key.Valid := by
  have hstep : ∀ db e, (∀ s ∈ db.statements.rows, s.key.Valid) →
      ∀ s ∈ (SettlementDB.step db e).statements.rows, s.key.Valid := fun _ e h => valid_step h e
  exact Run.run_inv hstep (fun _ hs => absurd hs List.not_mem_nil) es

/-- Over every sequence of generations and changes of the ledgers: statements of one subject
and period with the same other id are one statement; a statement generated after the last
change of the ledgers has the totals of the ledgers it drills down to; and two statements of
a subject, the second starting where the first ends, count in common the ledgers of the
subject created at that second, and no others. -/
theorem statements_reconcile (ledgers : List UsageLedger) (es : List SettlementEvent) :
    let db := Run.run SettlementDB.step (.start ledgers) es
    (∀ a ∈ db.statements.rows, ∀ b ∈ db.statements.rows,
      a.key.subjectType = b.key.subjectType → a.key.subjectId = b.key.subjectId →
      a.key.periodStart = b.key.periodStart → a.key.periodEnd = b.key.periodEnd →
      a.key.otherId = b.key.otherId → a = b) ∧
    (∀ input key inputs, validateSettlementStatementInput input = .ok key →
      ∀ s ∈ (Run.run SettlementDB.step db
          ((input :: inputs).map .generate)).statements.rows, s.key = key →
        s.ReconcilesWith (searchUsageLedgers db.ledgers (usageLedgerFiltersForStatement s))) ∧
    (∀ a ∈ db.statements.rows, ∀ b ∈ db.statements.rows,
      a.key.subjectType = b.key.subjectType → a.key.subjectId = b.key.subjectId →
      a.key.periodEnd = b.key.periodStart →
      ∀ l, (l ∈ searchUsageLedgers db.ledgers (usageLedgerFiltersForStatement a) ∧
          l ∈ searchUsageLedgers db.ledgers (usageLedgerFiltersForStatement b)) ↔
        l ∈ searchUsageLedgers db.ledgers (usageLedgerFiltersForStatement a) ∧
          l.createdAt = a.key.periodEnd ∧ a.key.periodEnd ≤ b.key.periodEnd) := by
  intro db
  have hunique := uniqueOn_run ledgers es
  have hvalid := valid_run ledgers es
  refine ⟨?_, ?_, ?_⟩
  · intro a ha b hb htype hsubject hstart hend hother
    exact hunique a ha b hb (SettlementKey.ext_subject htype hsubject hother hstart hend)
  · intro input key inputs hkey s hs hsk
    have hself := reconciled_generate_self hunique hkey
    have hrec := hself.run (uniqueOn_step hunique (.generate input)) inputs s hs hsk
    have hledgers : (Run.run SettlementDB.step (generateSettlementStatement db input)
        (inputs.map .generate)).ledgers = db.ledgers := by
      rw [run_generate_ledgers, generate_ledgers]
    rw [hledgers] at hrec
    rw [searchUsageLedgers_filters _ (hsk ▸ validateSettlementStatementInput_ok hkey), hsk]
    exact reconcilesWith_of_withTotals hrec
  · intro a ha b hb htype hsubject hconsecutive l
    rw [searchUsageLedgers_filters _ (hvalid a ha), searchUsageLedgers_filters _ (hvalid b hb),
      mem_statementLedgerQuery, mem_statementLedgerQuery, htype, hsubject, hconsecutive]
    constructor
    · rintro ⟨⟨hl, hok, hsub, hs₁, he₁⟩, -, -, -, hs₂, he₂⟩
      exact ⟨⟨hl, hok, hsub, hs₁, he₁⟩, by omega, by omega⟩
    · rintro ⟨⟨hl, hok, hsub, hs₁, he₁⟩, hat, hle⟩
      exact ⟨⟨hl, hok, hsub, hs₁, he₁⟩, hl, hok, hsub, by omega, by omega⟩

/-- A supplier statement with an idle user id, generated beside the one without, is a second
one for the period; and a ledger at the end of a period counts in the next as well. -/
theorem statement_twice_and_ledger_twice :
    let ledger : UsageLedger := { requestId := "r", supplierId := 7, createdAt := 200 }
    let input : SettlementStatementGenerateInput :=
      { subjectType := "supplier", supplierId := 7, periodStart := 100, periodEnd := 200 }
    let db := Run.run SettlementDB.step (.start [ledger])
      [.generate input, .generate { input with userId := 5 },
        .generate { input with periodStart := 200, periodEnd := 300 }]
    (db.statements.rows.map fun s => (s.key.supplierId, s.key.periodStart, s.totalRequests)) =
      [(7, 100, 1), (7, 100, 1), (7, 200, 1)] := by
  decide

end TokenRouter
