import TokenRouter.ForStd.Run
import TokenRouter.Spec.TenantRuns

/-!
# The daily aggregates are the group-by of the ledgers

`UpsertUsageAggregateDailyTx` adds a stored ledger to the aggregate row of its key, in the
transaction that stores it. `GroupedBy` says what the table of aggregates is for: it has
one row for each group of ledger rows, with the sums over that group.

## Key results

- `Stored.aggregateInv`: storing a row keeps the aggregates grouped
- `aggregates_groupedBy`: so does every sequence of `recordUsageWithMeta` calls
-/

namespace TokenRouter

/-- The aggregate key that a ledger row belongs to. -/
def UsageLedger.groupKey (loc : Location) (l : UsageLedger) : AggregateKey :=
  { day := formatDay loc l.createdAt
    tenantId := l.tenantId
    appId := l.appId
    endCustomerId := l.endCustomerId
    userId := l.userId
    tokenId := l.tokenId
    supplierId := l.supplierId
    channelId := l.channelId
    modelName := l.modelName
    billingMode := l.billingMode
    status := l.status }

/-- The aggregates are the group-by of the ledgers: the totals of each key are the sums
    over exactly the ledger rows of that key, and there is one aggregate row for each key
    that a ledger row has and no other. -/
structure GroupedBy (loc : Location) (db : DB) : Prop where
  totals : ∀ a ∈ db.aggregates.rows,
    a.totals = db.ledgers.groupSum (·.groupKey loc) (·.aggregateTotals) a.key
  covered : ∀ l ∈ db.ledgers.rows, ∃! a, a ∈ db.aggregates.rows ∧ a.key = l.groupKey loc
  inhabited : ∀ a ∈ db.aggregates.rows, ∃ l ∈ db.ledgers.rows, l.groupKey loc = a.key

/-- What the runs keep: a missing row stands for an empty group. -/
structure AggregateInv (loc : Location) (db : DB) : Prop where
  totals : ∀ k, ((db.aggregates.find? k).map (·.totals)).getD 0 =
    db.ledgers.groupSum (·.groupKey loc) (·.aggregateTotals) k
  present : ∀ k, (db.aggregates.find? k).isSome = true ↔
    ∃ l ∈ db.ledgers.rows, l.groupKey loc = k

theorem AggregateInv.groupedBy {loc : Location} {db : DB} (h : AggregateInv loc db) :
    GroupedBy loc db := by
  refine ⟨?_, ?_, ?_⟩
  · intro a ha
    have htotals := h.totals a.key
    rw [Table.find?_of_mem ha] at htotals
    exact htotals
  · intro l hl
    obtain ⟨a, ha⟩ := Option.isSome_iff_exists.mp ((h.present _).mpr ⟨l, hl, rfl⟩)
    refine ⟨a, ⟨Table.find?_mem ha, Table.find?_key ha⟩, ?_⟩
    rintro b ⟨hb, hkey⟩
    exact db.aggregates.eq_of_key_eq hb (Table.find?_mem ha) (hkey.trans (Table.find?_key ha).symm)
  · intro a ha
    apply (h.present a.key).mp
    rw [Table.find?_of_mem ha]
    rfl

/-- A recorded row has a creation time, so its day does not depend on the clock. -/
theorem aggregateKey_eq_groupKey (loc : Location) (now : Timestamp) {l : UsageLedger}
    (h : 0 < l.createdAt) : l.aggregateKey loc now = l.groupKey loc := by
  simp only [UsageLedger.aggregateKey, UsageLedger.groupKey, usageLedgerDay, if_neg (not_le.mpr h)]

/-- The aggregates after a row was stored. -/
theorem Stored.aggregates {loc : Location} {db db' : DB} {row : UsageLedger}
    (h : Stored loc db row db') (hpos : 0 < row.createdAt) (k : AggregateKey) :
    db'.aggregates.find? k =
      if row.groupKey loc = k then
        some ⟨k, ((db.aggregates.find? k).map (·.totals)).getD 0 + row.aggregateTotals⟩
      else db.aggregates.find? k := by
  obtain ⟨now, db₂, happly, rfl⟩ := h.written
  have hframe := applyTenantLedgerCreditTx_frame happly
  have haggregates : db₂.aggregates = db.aggregates := by rw [hframe]
  simp only [upsertUsageAggregateDailyTx, aggregateKey_eq_groupKey loc now hpos,
    Table.find?_upsert, haggregates]
  split
  · next hk => rw [hk]
  · rfl

/-- Storing a row keeps the aggregates grouped. -/
theorem Stored.aggregateInv {loc : Location} {db db' : DB} {row : UsageLedger}
    (h : Stored loc db row db') (hpos : 0 < row.createdAt) (hinv : AggregateInv loc db) :
    AggregateInv loc db' := by
  have hledgers : db'.ledgers = db.ledgers.insert row := by rw [h.frame]
  refine ⟨fun k => ?_, fun k => ?_⟩
  · rw [h.aggregates hpos, hledgers, Table.groupSum_insert h.fresh, ← hinv.totals k]
    by_cases hk : row.groupKey loc = k
    · simp [hk]
    · simp [hk]
  · rw [h.aggregates hpos, hledgers]
    by_cases hk : row.groupKey loc = k
    · simp only [if_pos hk, Option.isSome_some, true_iff]
      exact ⟨row, (Table.mem_insert h.fresh).mpr (.inr rfl), hk⟩
    · rw [if_neg hk, hinv.present k]
      constructor
      · rintro ⟨l, hl, hlk⟩
        exact ⟨l, (Table.mem_insert h.fresh).mpr (.inl hl), hlk⟩
      · rintro ⟨l, hl, hlk⟩
        rcases (Table.mem_insert h.fresh).mp hl with hold | rfl
        · exact ⟨l, hold, hlk⟩
        · exact absurd hlk hk

/-- One `recordUsageWithMeta` call, with whatever attempts and failures it has. -/
def recordStep (db : DB) (c : RecordCall) : DB := commit db (recordUsageWithMeta db c)

theorem recordStep_aggregateInv {loc : Location} (db : DB) (c : RecordCall)
    (h : AggregateInv loc db) (hloc : c.env.location = loc) :
    AggregateInv loc (recordStep db c) := by
  apply commit_inv h
  intro db' hok
  rcases recordUsageWithMeta_ok hok with rfl | ⟨row, hstored, hrow, -⟩
  · exact h
  · rw [hloc] at hstored
    exact hstored.aggregateInv hrow.createdAt_pos h

/-- Throughout every sequence of `recordUsageWithMeta` calls, the aggregates are the
    group-by of the ledgers. -/
theorem aggregates_groupedBy (loc : Location) (db : DB) (hledgers : db.ledgers = .empty)
    (haggregates : db.aggregates = .empty) (calls : List RecordCall)
    (hloc : ∀ c ∈ calls, c.env.location = loc) :
    Run.Always recordStep (GroupedBy loc) db calls := by
  have hstart : AggregateInv loc db := by
    refine ⟨fun k => ?_, fun k => ?_⟩
    · simp [hledgers, haggregates]
    · simp [hledgers, haggregates]
  have hall := Run.always_of_steps recordStep_aggregateInv hstart
    (Run.steps_of_forall_mem db hloc)
  exact hall.mono fun db h => h.groupedBy

/-- Two rows of one day, one of them recorded twice. -/
theorem aggregates_groupedBy_twice :
    GroupedBy plainUsageEnv.location (Run.run recordStep DB.empty
      [recordAt 10 "a" 1, recordAt 11 "b" 2, recordAt 10 "a" 3]) :=
  (aggregates_groupedBy plainUsageEnv.location DB.empty rfl rfl _
    (by simp [recordAt])).last

end TokenRouter
