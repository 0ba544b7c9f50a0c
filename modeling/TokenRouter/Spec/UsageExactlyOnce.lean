import TokenRouter.Service.UsageOutbox
import TokenRouter.Spec.UsageAggregate

/-!
# Exactly-once recording through the outbox

Every process that works on an outbox item ends in the one transaction that inserts the
ledger, books the tenant credit and updates the aggregate. `DbEffect` says once what a
step of a process can do to the database; the invariants of the system follow from it.

A request is recorded at most once whatever happens. That an item marked `succeeded` has
its row needs one more thing: the in-memory ledger keeps the id that a rolled-back insert
gave it, and the insert ignores a conflict on that id as well.

## Key results

- `Proc.act_db`: what a step of a process does to the database
- `UsageSystem.step_usageInv`, `UsageSystem.step_recordedInv`: the invariants of one step
- `recorded_exactly_once`: the same over every interleaving
- `stale_id_loses_usage`: the run that marks an item without a row
-/

namespace TokenRouter

/-! ## Rows of a job -/

/-- An in-memory ledger of the job: since it was built it was only normalised and
    renumbered. -/
def BuiltFor (j : UsageJob) (l : UsageLedger) : Prop :=
  ∃ env db now ledger, j.newLedger env db now = .ok ledger ∧ SameUsage ledger l

/-- A row that `recordUsageWithMeta` stores for the job. -/
def RowOf (j : UsageJob) (row : UsageLedger) : Prop :=
  ∃ env db now ledger now', j.newLedger env db now = .ok ledger ∧
    row = (ledger.normalize now').withId row.id

theorem UsageJob.newLedger_builtFor {j : UsageJob} {env : UsageEnv} {db : DB} {now : Timestamp}
    {l : UsageLedger} (h : j.newLedger env db now = .ok l) : BuiltFor j l := by
  have hok := (newUsageLedger_ok h).1
  exact ⟨env, db, now, l, h, .refl hok.createdAt_pos.ne'⟩

/-- Ledgers of one usage are stored alike. -/
theorem SameUsage.row_eq {l l' : UsageLedger} (h : SameUsage l l') (now : Timestamp) (id : Nat) :
    (l'.normalize now).withId id = (l.normalize now).withId id := by
  have hcols := congrArg (·.withId id) (h.2 now)
  simpa only [UsageLedger.withId_withId] using hcols

theorem BuiltFor.rowOf {j : UsageJob} {l : UsageLedger} (h : BuiltFor j l) (now : Timestamp)
    (id : Nat) : RowOf j ((l.normalize now).withId id) := by
  obtain ⟨env, db, now', ledger, hnew, hsame⟩ := h
  exact ⟨env, db, now', ledger, now, hnew, hsame.row_eq now id⟩

theorem RowOf.ledgerOk {j : UsageJob} {row : UsageLedger} (h : RowOf j row) : LedgerOk row := by
  obtain ⟨env, db, now, ledger, now', hnew, hrow⟩ := h
  rw [hrow]
  exact (newUsageLedger_ok hnew).1.normalize now' row.id

theorem RowOf.requestId {j : UsageJob} {row : UsageLedger} (h : RowOf j row) :
    row.requestId = j.requestId := by
  obtain ⟨env, db, now, ledger, now', hnew, hrow⟩ := h
  rw [hrow, UsageJob.requestId, ← (newUsageLedger_ok hnew).2.1]
  rfl

/-- The ledger of a process that is recording belongs to its job. -/
def ProcStage.Built (j : UsageJob) : ProcStage → Prop
  | .recording _ l => BuiltFor j l
  | _ => True

/-! ## What a step does to the database -/

/-- The request has its row. -/
def HasRow (db : DB) (requestId : String) : Prop :=
  ∃ r ∈ db.ledgers.rows, r.requestId = requestId

instance (db : DB) (requestId : String) : Decidable (HasRow db requestId) :=
  inferInstanceAs (Decidable (∃ r ∈ db.ledgers.rows, r.requestId = requestId))

/-- What a step of the process can do: nothing, a mark on its own item, or storing a row
    of its job. -/
inductive DbEffect (loc : Location) (db : DB) (p : Proc) : DB → Prop where
  | same : DbEffect loc db p db
  | marked {o o' : UsageRecordOutbox} (hfind : db.outbox.find? o.id = some o)
      (hitem : p.itemId = some o.id) (hid : o'.id = o.id) (hreq : o'.requestId = o.requestId)
      (hpayload : o'.payload = o.payload) (hstatus : o'.status = .succeeded → p.stage = .recorded) :
      DbEffect loc db p { db with outbox := db.outbox.set o' }
  | stored {row : UsageLedger} {db' : DB} (hstored : Stored loc db row db')
      (hrow : RowOf p.job row) : DbEffect loc db p db'

/-- One attempt stores a row of the job or nothing. -/
theorem runAttempt_db {loc : Location} {db : DB} {j : UsageJob} {l : UsageLedger}
    (h : BuiltFor j l) (attempt : TxAttempt) (lostAck : Option String) (n : Nat) :
    (Proc.runAttempt loc db attempt lostAck n l).1 = db ∨
      ∃ row, Stored loc db row (Proc.runAttempt loc db attempt lostAck n l).1 ∧ RowOf j row := by
  unfold Proc.runAttempt
  split
  · exact .inl rfl
  split
  · exact .inl rfl
  next affected db' l' htry =>
  have hdb : db' = db ∨ ∃ row, Stored loc db row db' ∧ RowOf j row := by
    rcases tryInsertUsageLedger_ok htry with ⟨-, rfl, -, -⟩ | ⟨-, hstored, rfl⟩
    · exact .inl rfl
    · exact .inr ⟨_, hstored, h.rowOf _ _⟩
  cases lostAck with
  | none => exact hdb
  | some e => exact hdb

/-- Processing and failing marks, and the success mark of a process that has recorded. -/
theorem Proc.act_db (loc : Location) (usingSQLite : Bool) (db : DB) (p : Proc)
    (hbuilt : p.stage.Built p.job) (e : ProcEvent) :
    DbEffect loc db p (p.act loc usingSQLite db e).1 := by
  cases e with
  | crash => exact .same
  | claim now =>
    dsimp only [Proc.act]
    split
    · next id hstage hitem =>
      unfold markUsageRecordOutboxProcessing
      split
      · exact .same
      next o hfind =>
      obtain rfl : o.id = id := Table.find?_key hfind
      split
      · exact .marked hfind hitem rfl rfl rfl (by simp)
      · exact .same
    · exact .same
  | build env now =>
    dsimp only [Proc.act]
    split
    · split
      · exact .same
      · exact .same
    · exact .same
  | attempt attempt lostAck =>
    dsimp only [Proc.act]
    split
    · next n l hstage =>
      rw [hstage] at hbuilt
      rcases runAttempt_db hbuilt attempt lostAck n with hsame | ⟨row, hstored, hrow⟩
      · rw [hsame]
        exact .same
      · exact .stored hstored hrow
    · exact .same
  | mark now =>
    dsimp only [Proc.act]
    split
    · next id hstage hitem =>
      unfold markUsageRecordOutboxSucceeded
      split
      · exact .same
      next o hfind =>
      obtain rfl : o.id = id := Table.find?_key hfind
      exact .marked hfind hitem rfl rfl rfl fun _ => hstage
    · next message id hstage hitem =>
      unfold markUsageRecordOutboxFailed
      split
      · exact .same
      next o hfind =>
      obtain rfl : o.id = id := Table.find?_key hfind
      exact .marked hfind hitem rfl rfl rfl (by simp)
    · exact .same

namespace DbEffect

variable {loc : Location} {db db' : DB} {p : Proc}

/-- No step removes a row. -/
theorem hasRow (h : DbEffect loc db p db') {requestId : String} (hrow : HasRow db requestId) :
    HasRow db' requestId := by
  obtain ⟨r, hr, hreq⟩ := hrow
  cases h with
  | same => exact ⟨r, hr, hreq⟩
  | marked _ _ _ _ _ _ => exact ⟨r, hr, hreq⟩
  | @stored row _ hstored _ =>
    have hledgers : db'.ledgers = db.ledgers.insert row := by rw [hstored.frame]
    refine ⟨r, ?_, hreq⟩
    rw [hledgers]
    exact (Table.mem_insert hstored.fresh).mpr (.inl hr)

/-- Items stay, with their key and payload. -/
theorem find_outbox (h : DbEffect loc db p db') {id : Nat} {x : UsageRecordOutbox}
    (hx : db.outbox.find? id = some x) :
    ∃ x', db'.outbox.find? id = some x' ∧ x'.payload = x.payload := by
  cases h with
  | same => exact ⟨x, hx, rfl⟩
  | @marked o o' hfind _ hid _ hpayload _ =>
    by_cases hkey : o'.id = id
    · refine ⟨o', Table.find?_set_self hx hkey, ?_⟩
      have hsome : some o = some x := by
        rw [← hfind, ← hx, ← hid, hkey]
      rw [hpayload, Option.some.inj hsome]
    · exact ⟨x, by rw [Table.find?_set_of_ne _ hkey]; exact hx, rfl⟩
  | stored hstored _ =>
    have houtbox : db'.outbox = db.outbox := by rw [hstored.frame]
    rw [houtbox]
    exact ⟨x, hx, rfl⟩

/-- An item of the new database was there before, with its key and payload; it is marked
    `succeeded` by this step only if the process has recorded it. -/
theorem mem_outbox (h : DbEffect loc db p db') {x : UsageRecordOutbox}
    (hx : x ∈ db'.outbox.rows) :
    ∃ o ∈ db.outbox.rows, x.requestId = o.requestId ∧ x.payload = o.payload ∧
      (x.status = .succeeded →
        o.status = .succeeded ∨ p.itemId = some o.id ∧ p.stage = .recorded) := by
  cases h with
  | same => exact ⟨x, hx, rfl, rfl, .inl⟩
  | @marked o o' hfind hitem hid hreq hpayload hstatus =>
    rcases Table.mem_set hx with rfl | ⟨hold, -⟩
    · exact ⟨o, Table.find?_mem hfind, hreq, hpayload, fun hs => .inr ⟨hitem, hstatus hs⟩⟩
    · exact ⟨x, hold, rfl, rfl, .inl⟩
  | stored hstored _ =>
    have houtbox : db'.outbox = db.outbox := by rw [hstored.frame]
    rw [houtbox] at hx
    exact ⟨x, hx, rfl, rfl, .inl⟩

end DbEffect

/-! ## Where a step leaves the process -/

/-- An error keeps the ledger of the attempt for the next one. -/
theorem afterError_built {j : UsageJob} {l : UsageLedger} (h : BuiltFor j l) (n : Nat)
    (message : String) : (Proc.afterError n l message).Built j := by
  unfold Proc.afterError
  split
  · exact h
  · trivial

theorem runAttempt_built {loc : Location} {db : DB} {j : UsageJob} {l : UsageLedger}
    (h : BuiltFor j l) (attempt : TxAttempt) (lostAck : Option String) (n : Nat) :
    (Proc.runAttempt loc db attempt lostAck n l).2.Built j := by
  obtain ⟨env, db₀, now, ledger, hnew, hsame⟩ := h
  have hnext : BuiltFor j (tryInsertUsageLedger loc db attempt l).2 :=
    ⟨env, db₀, now, ledger, hnew, tryInsertUsageLedger_sameUsage loc db attempt hsame⟩
  unfold Proc.runAttempt
  split
  · exact ⟨env, db₀, now, ledger, hnew, hsame⟩
  split
  · next e l' htry =>
    rw [htry] at hnext
    exact afterError_built hnext n e
  · next affected db' l' htry =>
    rw [htry] at hnext
    cases lostAck with
    | none => trivial
    | some e => exact afterError_built hnext n e

theorem Proc.act_built (loc : Location) (usingSQLite : Bool) (db : DB) (p : Proc)
    (h : p.stage.Built p.job) (e : ProcEvent) :
    (p.act loc usingSQLite db e).2.Built p.job := by
  cases e with
  | crash => trivial
  | claim now =>
    dsimp only [Proc.act]
    split
    · split <;> trivial
    · exact h
  | build env now =>
    dsimp only [Proc.act]
    split
    · split
      · trivial
      · next l hl => exact UsageJob.newLedger_builtFor hl
    · exact h
  | attempt attempt lostAck =>
    dsimp only [Proc.act]
    split
    · next n l hstage =>
      rw [hstage] at h
      exact runAttempt_built h attempt lostAck n
    · exact h
  | mark now =>
    dsimp only [Proc.act]
    split
    · trivial
    · trivial
    · exact h

/-! ## The id of a rolled-back insert -/

/-- The id that the next insert of the process carries, `0` if the database assigns one. -/
def ProcStage.ledgerId : ProcStage → Nat
  | .recording _ l => l.id
  | _ => 0

/-- The process is about to insert under the id of a row of another request: an earlier
    attempt was numbered, rolled back, and its number was given away. -/
def StaleClash (db : DB) (p : Proc) : Prop :=
  p.stage.ledgerId ≠ 0 ∧
    ∃ r ∈ db.ledgers.rows, r.id = p.stage.ledgerId ∧ r.requestId ≠ p.job.requestId

instance (db : DB) (p : Proc) : Decidable (StaleClash db p) :=
  inferInstanceAs (Decidable (_ ∧ _))

/-- An attempt that returns without an error leaves the row of its request, unless its
    stale id belongs to another request. -/
theorem runAttempt_recorded {loc : Location} {db : DB} {p : Proc} {n : Nat} {l : UsageLedger}
    (hstage : p.stage = .recording n l) (hbuilt : BuiltFor p.job l) (hclash : ¬ StaleClash db p)
    {attempt : TxAttempt} {lostAck : Option String}
    (h : (Proc.runAttempt loc db attempt lostAck n l).2 = .recorded) :
    HasRow (Proc.runAttempt loc db attempt lostAck n l).1 p.job.requestId := by
  unfold Proc.runAttempt at h ⊢
  split at h
  · exact nomatch h
  next hfresh =>
  rw [if_neg hfresh]
  have herror : ∀ (m : Nat) (l' : UsageLedger) (e : String),
      Proc.afterError m l' e ≠ .recorded := by
    intro m l' e
    unfold Proc.afterError
    split <;> simp
  split at h
  · exact absurd h (herror _ _ _)
  next affected db' l' htry =>
  cases lostAck with
  | some e => exact absurd h (herror _ _ _)
  | none =>
    have hreq := (hbuilt.rowOf attempt.now 0).requestId
    rw [UsageLedger.withId_requestId] at hreq
    rcases tryInsertUsageLedger_ok htry with ⟨-, rfl, -, r, hr, hsame⟩ | ⟨-, hstored, rfl⟩
    · -- a conflict: with the request's own row, with the fresh number, or with the stale id
      rcases hsame with hsame | hid
      · exact ⟨r, hr, hsame.trans hreq⟩
      · by_cases hzero : l.id = 0
        · rw [insertedId, if_pos hzero] at hid
          exact absurd (List.any_eq_true.mpr ⟨r, hr, by simpa using hid⟩) hfresh
        · rw [insertedId, if_neg hzero] at hid
          refine ⟨r, hr, ?_⟩
          by_contra hne
          apply hclash
          rw [StaleClash, hstage]
          exact ⟨hzero, r, hr, hid, hne⟩
    · have hledgers : db'.ledgers =
          db.ledgers.insert ((l.normalize attempt.now).withId (insertedId l attempt.autoId)) := by
        rw [hstored.frame]
      refine ⟨(l.normalize attempt.now).withId (insertedId l attempt.autoId), ?_, hreq⟩
      rw [hledgers]
      exact (Table.mem_insert hstored.fresh).mpr (.inr rfl)

/-- A process reaches `recorded` with its row in the table. -/
theorem Proc.act_recorded (loc : Location) (usingSQLite : Bool) (db : DB) (p : Proc)
    (hbuilt : p.stage.Built p.job) (hrecorded : p.stage = .recorded → HasRow db p.job.requestId)
    (e : ProcEvent) (hclash : ∀ attempt lostAck, e = .attempt attempt lostAck → ¬ StaleClash db p)
    (h : (p.act loc usingSQLite db e).2 = .recorded) :
    HasRow (p.act loc usingSQLite db e).1 p.job.requestId := by
  cases e with
  | crash => exact nomatch h
  | claim now =>
    dsimp only [Proc.act] at h ⊢
    split at h
    · dsimp only at h
      split at h <;> exact nomatch h
    · exact hrecorded h
  | build env now =>
    dsimp only [Proc.act] at h ⊢
    split at h
    · split at h <;> exact nomatch h
    · exact hrecorded h
  | attempt attempt lostAck =>
    dsimp only [Proc.act] at h ⊢
    split at h
    · next n l hstage =>
      rw [hstage] at hbuilt
      exact runAttempt_recorded hstage hbuilt (hclash attempt lostAck rfl) h
    · exact hrecorded h
  | mark now =>
    dsimp only [Proc.act] at h ⊢
    split at h
    · exact nomatch h
    · exact nomatch h
    · exact hrecorded h

/-! ## The invariants of the system -/

/-- What a process knows: its item, with its payload, and its ledger. -/
structure ProcOk (db : DB) (p : Proc) : Prop where
  item : ∀ id, p.itemId = some id → ∃ o, db.outbox.find? id = some o ∧ o.payload.job = p.job
  built : p.stage.Built p.job

/-- Every request that is recorded is recorded once, in the ledgers, in the credit
    account and in the aggregates; every process works on an item that exists. -/
structure UsageInv (loc : Location) (s : UsageSystem) : Prop where
  unbilled : ∀ t, 0 < t → s.db.accountColumn t (·.unbilledAmount) =
    s.db.ledgers.groupSum (·.tenantId) (·.postpaidQuota) t
  aggregates : AggregateInv loc s.db
  keyed : ∀ o ∈ s.db.outbox.rows, o.requestId = o.payload.job.requestId
  procs : ∀ p ∈ s.procs.rows, ProcOk s.db p

/-- What was reported as recorded has its row. -/
structure RecordedInv (s : UsageSystem) : Prop where
  procs : ∀ p ∈ s.procs.rows, p.stage = .recorded → HasRow s.db p.job.requestId
  items : ∀ o ∈ s.db.outbox.rows, o.status = .succeeded → HasRow s.db o.requestId

/-- A new process joins. -/
theorem UsageInv.spawn {loc : Location} {s : UsageSystem} (h : UsageInv loc s) {p : Proc}
    (hp : ProcOk s.db p) : UsageInv loc (s.spawn p) := by
  refine ⟨h.unbilled, h.aggregates, h.keyed, ?_⟩
  intro q hq
  rcases Table.mem_of_mem_insert hq with hold | rfl
  · exact h.procs q hold
  · exact hp

theorem RecordedInv.spawn {s : UsageSystem} (h : RecordedInv s) {p : Proc}
    (hp : p.stage ≠ .recorded) : RecordedInv (s.spawn p) := by
  refine ⟨?_, h.items⟩
  intro q hq hstage
  rcases Table.mem_of_mem_insert hq with hold | rfl
  · exact h.procs q hold hstage
  · exact absurd hstage hp

/-- A process that has read an item of the table. -/
theorem Proc.ofItem_ok {db : DB} {item : UsageRecordOutbox} (h : item ∈ db.outbox.rows)
    (pid : Nat) : ProcOk db (Proc.ofItem pid item) := by
  refine ⟨?_, trivial⟩
  intro id hid
  refine ⟨item, ?_, rfl⟩
  rw [← Option.some.inj hid]
  exact Table.find?_of_mem h

theorem UsageInv.spawnAll {loc : Location} : ∀ {items : List UsageRecordOutbox} {s : UsageSystem}
    {pid : Nat}, UsageInv loc s → (∀ o ∈ items, o ∈ s.db.outbox.rows) →
    UsageInv loc (s.spawnAll pid items)
  | [], _, _, h, _ => h
  | item :: items, s, pid, h, hitems => by
    have hspawn := h.spawn (Proc.ofItem_ok (hitems item List.mem_cons_self) pid)
    exact hspawn.spawnAll fun o ho => hitems o (List.mem_cons_of_mem item ho)

theorem RecordedInv.spawnAll : ∀ {items : List UsageRecordOutbox} {s : UsageSystem} {pid : Nat},
    RecordedInv s → RecordedInv (s.spawnAll pid items)
  | [], _, _, h => h
  | item :: items, s, pid, h => by
    have hspawn : RecordedInv (s.spawn (.ofItem pid item)) := h.spawn (by simp [Proc.ofItem])
    exact hspawn.spawnAll

/-- Enqueueing adds a pending item with the payload's key, or nothing. -/
theorem insertOutboxIdempotent_ok {db db' : DB} {now : Timestamp} {payload : OutboxPayload}
    (h : insertOutboxIdempotent db now payload = .ok db') :
    (db' = db ∧ ∃ o ∈ db.outbox.rows, o.requestId = payload.job.requestId) ∨
    ∃ item : UsageRecordOutbox, db' = { db with outbox := db.outbox.insert item } ∧
      db.outbox.find? item.id = none ∧ item.requestId = payload.job.requestId ∧
      item.payload = payload ∧ item.status = .pending := by
  unfold insertOutboxIdempotent at h
  dsimp only at h
  split at h
  · exact nomatch h
  split at h
  · next hany =>
    rw [Except.ok.injEq] at h
    obtain ⟨o, ho, hreq⟩ := List.any_eq_true.mp hany
    exact .inl ⟨h.symm, o, ho, of_decide_eq_true hreq⟩
  · rw [Except.ok.injEq] at h
    exact .inr ⟨_, h.symm, Table.nextId_fresh _, rfl, rfl, rfl⟩

theorem UsageInv.enqueue {loc : Location} {s : UsageSystem} (h : UsageInv loc s) {db : DB}
    {now : Timestamp} {payload : OutboxPayload}
    (hok : insertOutboxIdempotent s.db now payload = .ok db) :
    UsageInv loc { s with db := db } := by
  rcases insertOutboxIdempotent_ok hok with ⟨rfl, -⟩ | ⟨item, rfl, hfresh, hreq, hpayload, -⟩
  · exact h
  refine ⟨h.unbilled, ⟨h.aggregates.totals, h.aggregates.present⟩, ?_, ?_⟩
  · intro o ho
    rcases Table.mem_of_mem_insert ho with hold | rfl
    · exact h.keyed o hold
    · rw [hreq, hpayload]
  · intro p hp
    refine ⟨?_, (h.procs p hp).built⟩
    intro id hid
    obtain ⟨o, ho, hjob⟩ := (h.procs p hp).item id hid
    refine ⟨o, ?_, hjob⟩
    have hne : item.id ≠ id := by
      intro heq
      rw [heq, ho] at hfresh
      exact nomatch hfresh
    dsimp only
    rw [Table.find?_insert, if_neg hne]
    exact ho

theorem RecordedInv.enqueue {s : UsageSystem} (h : RecordedInv s) {db : DB} {now : Timestamp}
    {payload : OutboxPayload} (hok : insertOutboxIdempotent s.db now payload = .ok db) :
    RecordedInv { s with db := db } := by
  rcases insertOutboxIdempotent_ok hok with ⟨rfl, -⟩ | ⟨item, rfl, -, -, -, hpending⟩
  · exact h
  refine ⟨h.procs, ?_⟩
  intro o ho hsucceeded
  rcases Table.mem_of_mem_insert ho with hold | rfl
  · exact h.items o hold hsucceeded
  · rw [hpending] at hsucceeded
    exact nomatch hsucceeded

/-- Storing a row of a job counts it once in each place. -/
theorem DbEffect.usageInv {loc : Location} {s : UsageSystem} {db' : DB} {p : Proc}
    {stage : ProcStage} (h : UsageInv loc s) (heffect : DbEffect loc s.db p db')
    (hp : p ∈ s.procs.rows) (hstage : stage.Built p.job) :
    UsageInv loc ⟨db', s.procs.set { p with stage := stage }⟩ := by
  have hprocs : ∀ q ∈ (s.procs.set { p with stage := stage }).rows, ProcOk db' q := by
    intro q hq
    have hok : ∀ q', ProcOk s.db q' → ∀ id, q'.itemId = some id →
        ∃ o, db'.outbox.find? id = some o ∧ o.payload.job = q'.job := by
      intro q' hq' id hid
      obtain ⟨o, ho, hjob⟩ := hq'.item id hid
      obtain ⟨o', ho', hpayload⟩ := heffect.find_outbox ho
      exact ⟨o', ho', by rw [hpayload, hjob]⟩
    rcases Table.mem_set hq with rfl | ⟨hold, -⟩
    · exact ⟨hok p (h.procs p hp), hstage⟩
    · exact ⟨hok q (h.procs q hold), (h.procs q hold).built⟩
  have hkeyed : ∀ x ∈ db'.outbox.rows, x.requestId = x.payload.job.requestId := by
    intro x hx
    obtain ⟨o, ho, hreq, hpayload, -⟩ := heffect.mem_outbox hx
    rw [hreq, hpayload, h.keyed o ho]
  cases heffect with
  | same => exact ⟨h.unbilled, h.aggregates, hkeyed, hprocs⟩
  | marked _ _ _ _ _ _ => exact ⟨h.unbilled, ⟨h.aggregates.totals, h.aggregates.present⟩,
      hkeyed, hprocs⟩
  | @stored row _ hstored hrow =>
    have hok := hrow.ledgerOk
    have hledgers : db'.ledgers = s.db.ledgers.insert row := by rw [hstored.frame]
    refine ⟨?_, hstored.aggregateInv hok.createdAt_pos h.aggregates, hkeyed, hprocs⟩
    intro t ht
    rw [hstored.unbilled t ht hok.postpaidQuota_nonneg, hledgers,
      Table.groupSum_insert hstored.fresh, h.unbilled t ht]

/-- What a step of a process keeps of `RecordedInv`. -/
theorem DbEffect.recordedInv {loc : Location} {s : UsageSystem} {db' : DB} {p : Proc}
    {stage : ProcStage} (hinv : UsageInv loc s) (h : RecordedInv s)
    (heffect : DbEffect loc s.db p db') (hp : p ∈ s.procs.rows)
    (hstage : stage = .recorded → HasRow db' p.job.requestId) :
    RecordedInv ⟨db', s.procs.set { p with stage := stage }⟩ := by
  refine ⟨?_, ?_⟩
  · intro q hq hrecorded
    rcases Table.mem_set hq with rfl | ⟨hold, -⟩
    · exact hstage hrecorded
    · exact heffect.hasRow (h.procs q hold hrecorded)
  · intro x hx hsucceeded
    obtain ⟨o, ho, hreq, -, hstatus⟩ := heffect.mem_outbox hx
    rw [hreq]
    apply heffect.hasRow
    rcases hstatus hsucceeded with hold | ⟨hitem, hrecorded⟩
    · exact h.items o ho hold
    · -- the mark of this step: the process had recorded the request of its item
      obtain ⟨o', ho', hjob⟩ := (hinv.procs p hp).item o.id hitem
      have hsome : some o = some o' := by rw [← ho', Table.find?_of_mem ho]
      rw [hinv.keyed o ho, Option.some.inj hsome, hjob]
      exact h.procs p hp hrecorded

/-! ## Steps and runs -/

/-- No attempt of the step uses a stale id that belongs to another request. -/
def NoStaleClash (s : UsageSystem) : UsageEvent → Prop
  | .proc pid (.attempt _ _) => ∀ p ∈ s.procs.find? pid, ¬ StaleClash s.db p
  | _ => True

instance (s : UsageSystem) : ∀ e, Decidable (NoStaleClash s e)
  | .proc pid (.attempt _ _) =>
    inferInstanceAs (Decidable (∀ p ∈ s.procs.find? pid, ¬ StaleClash s.db p))
  | .proc _ (.claim _) | .proc _ (.build _ _) | .proc _ (.mark _) | .proc _ .crash
  | .recordAsync _ _ _ | .processById _ _ | .processBatch _ _ _ => inferInstanceAs (Decidable True)

namespace UsageSystem

theorem mem_listDue {db : DB} {now staleBefore : Int} {limit : Nat} {o : UsageRecordOutbox}
    (h : o ∈ listDueUsageRecordOutbox db now staleBefore limit) : o ∈ db.outbox.rows := by
  have hsorted := List.mem_of_mem_take h
  rw [List.mem_mergeSort] at hsorted
  exact (List.mem_filter.mp hsorted).1

/-- Every step keeps the counts. -/
theorem step_usageInv {loc : Location} {usingSQLite : Bool} (s : UsageSystem) (e : UsageEvent)
    (h : UsageInv loc s) : UsageInv loc (s.step loc usingSQLite e) := by
  cases e with
  | recordAsync pid request fault =>
    dsimp only [step, recordUsageAsync]
    -- the fallback has no item, so there is nothing to know about it
    have hfallback : ∀ db, ProcOk db { pid := pid, job := request.job, stage := .claimed } := by
      intro db
      refine ⟨?_, trivial⟩
      intro id hid
      exact nomatch hid
    split
    · next hok => exact h.enqueue hok
    · next hok => exact (h.enqueue hok).spawn (hfallback _)
    · exact h.spawn (hfallback _)
  | processById pid requestId =>
    dsimp only [step, processUsageRecordOutboxByRequestID]
    split
    · exact h
    split
    · exact h
    next item hfind =>
    split
    · exact h
    · exact h.spawn (Proc.ofItem_ok (List.mem_of_find?_eq_some hfind) pid)
  | processBatch pid now limit => exact h.spawnAll fun o ho => mem_listDue ho
  | proc pid event =>
    dsimp only [step]
    split
    · exact h
    next p hp =>
    have hmem := Table.find?_mem hp
    have hbuilt := (h.procs p hmem).built
    exact (p.act_db loc usingSQLite s.db hbuilt event).usageInv h hmem
      (p.act_built loc usingSQLite s.db hbuilt event)

/-- A step without a stale clash keeps the reported requests recorded. -/
theorem step_recordedInv {loc : Location} {usingSQLite : Bool} (s : UsageSystem) (e : UsageEvent)
    (hinv : UsageInv loc s) (h : RecordedInv s) (hclash : NoStaleClash s e) :
    RecordedInv (s.step loc usingSQLite e) := by
  cases e with
  | recordAsync pid request fault =>
    dsimp only [step, recordUsageAsync]
    split
    · next hok => exact h.enqueue hok
    · next hok => exact (h.enqueue hok).spawn (by simp)
    · exact h.spawn (by simp)
  | processById pid requestId =>
    dsimp only [step, processUsageRecordOutboxByRequestID]
    split
    · exact h
    split
    · exact h
    split
    · exact h
    · exact h.spawn (by simp [Proc.ofItem])
  | processBatch pid now limit => exact h.spawnAll
  | proc pid event =>
    dsimp only [step]
    split
    · exact h
    next p hp =>
    have hmem := Table.find?_mem hp
    have hbuilt := (hinv.procs p hmem).built
    refine (p.act_db loc usingSQLite s.db hbuilt event).recordedInv hinv h hmem ?_
    apply p.act_recorded loc usingSQLite s.db hbuilt (h.procs p hmem) event
    intro attempt lostAck he
    subst he
    exact hclash p hp

end UsageSystem

/-- Each request id has at most one ledger row, and the credit and the aggregates hold
    each row once. -/
structure RecordedAtMostOnce (loc : Location) (s : UsageSystem) : Prop where
  unique : ∀ r ∈ s.db.ledgers.rows, ∀ r' ∈ s.db.ledgers.rows, r.requestId = r'.requestId → r = r'
  unbilled : ∀ t, 0 < t → s.db.accountColumn t (·.unbilledAmount) =
    s.db.ledgers.groupSum (·.tenantId) (·.postpaidQuota) t
  aggregates : GroupedBy loc s.db

/-- Items marked `succeeded` have their row. -/
def SucceededRecorded (s : UsageSystem) : Prop :=
  ∀ o ∈ s.db.outbox.rows, o.status = .succeeded → HasRow s.db o.requestId

instance (s : UsageSystem) : Decidable (SucceededRecorded s) :=
  inferInstanceAs (Decidable (∀ o ∈ s.db.outbox.rows, o.status = .succeeded → HasRow s.db o.requestId))

theorem UsageInv.start {loc : Location} {db : DB} (hledgers : db.ledgers = .empty)
    (haggregates : db.aggregates = .empty) (houtbox : db.outbox = .empty)
    (hunbilled : ∀ t, 0 < t → db.accountColumn t (·.unbilledAmount) = 0) :
    UsageInv loc (.start db) := by
  refine ⟨?_, ⟨?_, ?_⟩, ?_, ?_⟩
  · intro t ht
    simp [UsageSystem.start, hledgers, hunbilled t ht]
  · simp [UsageSystem.start, hledgers, haggregates]
  · simp [UsageSystem.start, hledgers, haggregates]
  · simp [UsageSystem.start, houtbox]
  · simp [UsageSystem.start]

theorem RecordedInv.start {db : DB} (houtbox : db.outbox = .empty) :
    RecordedInv (.start db) := by
  refine ⟨?_, ?_⟩
  · simp [UsageSystem.start]
  · simp [UsageSystem.start, houtbox]

/-- In every interleaving of requests, goroutines, workers, crashes and retries each
    request is recorded at most once, in the ledgers, the credit and the aggregates; and
    if no attempt inserts under a stale id of another request, every item marked
    `succeeded` has its row throughout. -/
theorem recorded_exactly_once (loc : Location) (usingSQLite : Bool) (db : DB)
    (hledgers : db.ledgers = .empty) (haggregates : db.aggregates = .empty)
    (houtbox : db.outbox = .empty)
    (hunbilled : ∀ t, 0 < t → db.accountColumn t (·.unbilledAmount) = 0)
    (events : List UsageEvent) :
    Run.Always (UsageSystem.step loc usingSQLite) (RecordedAtMostOnce loc) (.start db) events ∧
      (Run.Steps (UsageSystem.step loc usingSQLite) NoStaleClash (.start db) events →
        Run.Always (UsageSystem.step loc usingSQLite) SucceededRecorded (.start db) events) := by
  have hstart : UsageInv loc (.start db) :=
    .start hledgers haggregates houtbox hunbilled
  have hcounts : ∀ s e, UsageInv loc s → UsageInv loc (UsageSystem.step loc usingSQLite s e) :=
    UsageSystem.step_usageInv
  refine ⟨?_, ?_⟩
  · apply (Run.always_of_inv hcounts hstart events).mono
    intro s h
    exact ⟨fun r hr r' hr' => s.db.ledgers.eq_of_key_eq hr hr', h.unbilled,
      h.aggregates.groupedBy⟩
  · intro hsteps
    have hboth : ∀ s e, UsageInv loc s ∧ RecordedInv s → NoStaleClash s e →
        UsageInv loc (UsageSystem.step loc usingSQLite s e) ∧
          RecordedInv (UsageSystem.step loc usingSQLite s e) := by
      intro s e h hclash
      exact ⟨hcounts s e h.1, UsageSystem.step_recordedInv s e h.1 h.2 hclash⟩
    apply (Run.always_of_steps hboth ⟨hstart, RecordedInv.start houtbox⟩ hsteps).mono
    intro s h
    exact h.2.items

/-- A request of tenant 7 that uses 30 postpaid quota. -/
def relayOf (requestId : String) : RelayRequest :=
  { env := plainUsageEnv
    now := ⟨10, by decide⟩
    ctx := ⟨[], []⟩
    info := { requestId := requestId, tenantId := 7, tenantBillingMode := some .postpaid }
    usage := none
    sellQuota := 30 }

/-- The steps of process `pid` up to its first attempt. -/
def claimAndBuild (pid : Nat) : List UsageEvent :=
  [.proc pid (.claim ⟨10, by decide⟩), .proc pid (.build plainUsageEnv ⟨10, by decide⟩)]

/-- An attempt that the database numbers `autoId`. -/
def attemptWith (pid autoId : Nat) (fault : Option TxFault) : UsageEvent :=
  .proc pid (.attempt { now := ⟨10, by decide⟩, autoId := autoId, fault := fault } none)

/-- The commit of the first attempt of request `a` finds the database locked; the second
    attempt goes through. -/
def retriedRequest : List UsageEvent :=
  [.recordAsync 1 (relayOf "a") none, .processById 2 "a"] ++ claimAndBuild 2 ++
    [attemptWith 2 5 (some (.later "database is locked")), attemptWith 2 6 none,
      .proc 2 (.mark ⟨11, by decide⟩)]

theorem retried_request_recorded_once :
    SucceededRecorded (Run.run (UsageSystem.step plainUsageEnv.location true)
      (.start DB.empty) retriedRequest) :=
  ((recorded_exactly_once plainUsageEnv.location true DB.empty rfl rfl rfl (fun _ _ => rfl)
    retriedRequest).2 (by decide)).last

/-- The same, but between the two attempts request `b` is stored under the number that the
    rollback of `a` gave back: the second attempt of `a` runs into the row of `b`, inserts
    nothing, and the item of `a` is marked `succeeded` without a row. -/
theorem stale_id_loses_usage :
    ∃ events : List UsageEvent,
      events = [.recordAsync 1 (relayOf "a") none, .recordAsync 1 (relayOf "b") none,
          .processById 2 "a", .processById 3 "b"] ++ claimAndBuild 2 ++
        [attemptWith 2 5 (some (.later "database is locked"))] ++ claimAndBuild 3 ++
        [attemptWith 3 5 none, .proc 3 (.mark ⟨11, by decide⟩), attemptWith 2 6 none,
          .proc 2 (.mark ⟨11, by decide⟩)] ∧
      ¬ SucceededRecorded (Run.run (UsageSystem.step plainUsageEnv.location true)
        (.start DB.empty) events) ∧
      (Run.run (UsageSystem.step plainUsageEnv.location true)
        (.start DB.empty) events).db.ledgers.rows.map (·.requestId) = ["b"] :=
  ⟨_, rfl, by decide, by decide⟩

end TokenRouter
