import TokenRouter.Spec.UsageExactlyOnce

/-!
# The ledger key of a request

`usageRecordRequestID` takes the client's `X-Token-Router-Request-Id` before the server's
own request id, so that clients can deduplicate with a number of theirs. Requests without
the header have keys of their own; a request whose key no other request has is recorded,
with its own columns, once the outbox is drained.

## Key results

- `RelayRequest.key_of_noHeader`: without the header the key is the server's id
- `UsageSystem.step_keyedInv`: every stored row is a row of an enqueued request
- `unique_key_recorded`: a request with a key of its own ends with a row of its own
- `reused_header_drops_usage`: two requests with one header share one row
-/

namespace TokenRouter

/-! ## Keys -/

namespace RelayRequest

/-- The ledger key. -/
def key (r : RelayRequest) : String := usageRecordRequestID r.ctx r.info

/-- The client sent no key of its own: the header is missing or blank, in the request and
    in the relay's copy of it. -/
def NoHeader (r : RelayRequest) : Prop :=
  trimSpace (lookupString r.ctx.headers usageLedgerRequestIdHeader) = "" ∧
    trimSpace (lookupString r.info.requestHeaders usageLedgerRequestIdHeader) = ""

instance (r : RelayRequest) : Decidable r.NoHeader := inferInstanceAs (Decidable (_ ∧ _))

/-- The server generates request ids without blanks around them. -/
def ServerId (r : RelayRequest) : Prop :=
  trimSpace r.info.requestId = r.info.requestId ∧ r.info.requestId ≠ ""

instance (r : RelayRequest) : Decidable r.ServerId := inferInstanceAs (Decidable (_ ∧ _))

theorem key_of_noHeader {r : RelayRequest} (h : r.NoHeader) (hid : r.ServerId) :
    r.key = r.info.requestId := by
  simp [key, usageRecordRequestID, firstNonBlank, h.1, h.2, hid.1, hid.2]

theorem firstNonBlank_trimmed (ss : List String) :
    trimSpace (firstNonBlank ss) = firstNonBlank ss := by
  induction ss with
  | nil => decide
  | cons s ss ih =>
    rw [firstNonBlank]
    split
    · exact trimSpace_trimSpace s
    · exact ih

theorem firstNonBlank_ne_empty {s : String} {ss : List String} (hs : s ∈ ss)
    (h : trimSpace s ≠ "") : firstNonBlank ss ≠ "" := by
  induction ss with
  | nil => simp at hs
  | cons x xs ih =>
    rw [firstNonBlank]
    split
    · next hx => exact hx
    · next hx =>
      rcases List.mem_cons.mp hs with rfl | htail
      · exact absurd h hx
      · exact ih htail

theorem key_ne_empty {r : RelayRequest} (h : r.ServerId) : r.key ≠ "" := by
  apply firstNonBlank_ne_empty (s := r.info.requestId)
  · simp
  · rw [h.1]
    exact h.2

/-- The payload carries the key. -/
theorem payload_requestId (r : RelayRequest) : r.payload.job.requestId = r.key :=
  firstNonBlank_trimmed _

end RelayRequest

/-! ## The row of a request -/

/-- The row holds the usage of the request. -/
structure RecordsRequest (r : RelayRequest) (row : UsageLedger) : Prop where
  requestId : row.requestId = r.key
  userId : row.userId = r.info.userId
  tokenId : row.tokenId = r.info.tokenId
  sellQuota : row.sellQuota = r.sellQuota
  tenant : 0 < r.info.tenantId → row.tenantId = r.info.tenantId ∧
    ∃ mode, (∀ m, r.info.tenantBillingMode = some m → mode = m) ∧
      row.postpaidQuota = tenantPostpaidQuota mode r.sellQuota r.info.finalPreConsumedQuota

/-- The columns that `newUsageLedger` takes from its arguments. -/
theorem newUsageLedger_columns {env : UsageEnv} {db : DB} {now : Timestamp} {info : RelayInfo}
    {billing : Option Int} {usage : Option Usage} {sellQuota : Int} {metadata : UsageRecordMeta}
    {l : UsageLedger}
    (h : newUsageLedger env db now info billing usage sellQuota metadata = .ok l) :
    l.userId = info.userId ∧ l.tokenId = info.tokenId ∧ l.sellQuota = sellQuota ∧
      (0 < info.tenantId → l.tenantId = info.tenantId ∧
        l.postpaidQuota = tenantPostpaidQuota
          (info.tenantBillingMode.getD (tenantBillingMode db info.tenantId)) sellQuota
          (billing.getD info.finalPreConsumedQuota)) := by
  unfold newUsageLedger at h
  split at h
  · exact nomatch h
  dsimp only at h
  split at h
  · exact nomatch h
  split at h
  · exact nomatch h
  rw [Except.ok.injEq] at h
  subst h
  unfold decorateTenantLedger
  split
  · next htenant =>
    refine ⟨rfl, rfl, rfl, ?_⟩
    intro hpos
    omega
  · exact ⟨rfl, rfl, rfl, fun _ => ⟨rfl, rfl⟩⟩

theorem RowOf.recordsRequest {r : RelayRequest} {row : UsageLedger}
    (h : RowOf r.payload.job row) : RecordsRequest r row := by
  have hreq := h.requestId
  rw [r.payload_requestId] at hreq
  obtain ⟨env, db, now, ledger, now', hnew, hrow⟩ := h
  obtain ⟨huser, htoken, hsell, htenant⟩ := newUsageLedger_columns hnew
  refine ⟨hreq, ?_, ?_, ?_, ?_⟩
  · rw [hrow]
    exact huser
  · rw [hrow]
    exact htoken
  · rw [hrow]
    exact hsell
  · intro hpos
    obtain ⟨hid, hquota⟩ := htenant hpos
    refine ⟨?_, r.info.tenantBillingMode.getD (tenantBillingMode db r.info.tenantId), ?_, ?_⟩
    · rw [hrow]
      exact hid
    · intro m hm
      rw [hm]
      rfl
    · rw [hrow]
      exact hquota

/-! ## Runs without failures -/

/-- No enqueue and no attempt of the step fails. -/
def FailureFree : UsageEvent → Prop
  | .recordAsync _ _ fault => fault = none
  | .proc _ (.attempt attempt lostAck) => attempt.fault = none ∧ lostAck = none
  | _ => True

/-- The requests of a run. -/
def relayRequests : List UsageEvent → List RelayRequest
  | [] => []
  | .recordAsync _ r _ :: events => r :: relayRequests events
  | _ :: events => relayRequests events

theorem mem_relayRequests {pid : Nat} {r : RelayRequest} {fault : Option EnqueueFault}
    {events : List UsageEvent} (h : .recordAsync pid r fault ∈ events) :
    r ∈ relayRequests events := by
  induction events with
  | nil => simp at h
  | cons e events ih =>
    rcases List.mem_cons.mp h with rfl | htail
    · exact List.mem_cons_self
    · cases e with
      | recordAsync _ _ _ => exact List.mem_cons_of_mem _ (ih htail)
      | processById _ _ => exact ih htail
      | processBatch _ _ _ => exact ih htail
      | proc _ _ => exact ih htail

/-- What a step of a run of the requests `rs` is. -/
structure KeyedStep (rs : List RelayRequest) (e : UsageEvent) : Prop where
  failureFree : FailureFree e
  mem : ∀ pid r fault, e = .recordAsync pid r fault → r ∈ rs

/-- The request is in the outbox, as far as its key tells. -/
def HasItem (db : DB) (requestId : String) : Prop :=
  ∃ o ∈ db.outbox.rows, o.requestId = requestId

/-- Without failures every process works on an item and lets the database number its
    row, every item is the payload of a request and every row belongs to an item. -/
structure KeyedInv (rs : List RelayRequest) (s : UsageSystem) : Prop where
  procs : ∀ p ∈ s.procs.rows, p.stage.ledgerId = 0 ∧ ∃ id, p.itemId = some id
  items : ∀ o ∈ s.db.outbox.rows, ∃ r ∈ rs, o.payload = r.payload
  rows : ∀ row ∈ s.db.ledgers.rows, ∃ o ∈ s.db.outbox.rows, RowOf o.payload.job row

/-- Without a fault there is no second attempt. -/
theorem runAttempt_ledgerId {loc : Location} {db : DB} {l : UsageLedger} {attempt : TxAttempt}
    (hfault : attempt.fault = none) (hne : (l.normalize attempt.now).requestId ≠ "") {n : Nat}
    (hzero : l.id = 0) : (Proc.runAttempt loc db attempt none n l).2.ledgerId = 0 := by
  unfold Proc.runAttempt
  split
  · exact hzero
  split
  · next e l' htry =>
    -- only a blank key makes an attempt without a fault fail
    unfold tryInsertUsageLedger at htry
    rw [hfault] at htry
    dsimp only at htry
    split at htry
    · next hins =>
      unfold insertIdempotentRowsAffectedTx at hins
      dsimp only at hins
      rw [if_neg hne] at hins
      split_ifs at hins
    · split at htry
      · exact nomatch htry
      · next affected row db₁ _ _ =>
        rcases applyTenantLedgerCreditTx_cases db₁ row with ⟨hok, -⟩ | ⟨-, -, a, -, hok⟩
        · rw [hok] at htry
          exact nomatch htry
        · rw [hok] at htry
          exact nomatch htry
  · rfl

/-- Without failures a process always lets the database number its row. -/
theorem Proc.act_ledgerId (loc : Location) (usingSQLite : Bool) (db : DB) (p : Proc)
    (hbuilt : p.stage.Built p.job) (hne : p.job.requestId ≠ "") (hzero : p.stage.ledgerId = 0)
    {pid : Nat} {e : ProcEvent} (hfree : FailureFree (.proc pid e)) :
    (p.act loc usingSQLite db e).2.ledgerId = 0 := by
  cases e with
  | crash => rfl
  | claim now =>
    dsimp only [Proc.act]
    split
    · split <;> rfl
    · exact hzero
  | build env now =>
    dsimp only [Proc.act]
    split
    · split
      · rfl
      · next l hl => exact (newUsageLedger_ok hl).2.2
    · exact hzero
  | attempt attempt lostAck =>
    obtain ⟨hfault, rfl⟩ := hfree
    dsimp only [Proc.act]
    split
    · next n l hstage =>
      rw [hstage] at hbuilt hzero
      have hreq := (hbuilt.rowOf attempt.now 0).requestId
      rw [UsageLedger.withId_requestId] at hreq
      exact runAttempt_ledgerId hfault (by rw [hreq]; exact hne) hzero
    · exact hzero
  | mark now =>
    dsimp only [Proc.act]
    split
    · rfl
    · rfl
    · exact hzero

/-- Items stay. -/
theorem DbEffect.mem_of_mem {loc : Location} {db db' : DB} {p : Proc}
    (h : DbEffect loc db p db') {o : UsageRecordOutbox} (ho : o ∈ db.outbox.rows) :
    ∃ o' ∈ db'.outbox.rows, o'.payload = o.payload := by
  obtain ⟨o', ho', hpayload⟩ := h.find_outbox (Table.find?_of_mem ho)
  exact ⟨o', Table.find?_mem ho', hpayload⟩

namespace KeyedInv

variable {rs : List RelayRequest} {s : UsageSystem}

theorem spawn (h : KeyedInv rs s) (pid : Nat) (item : UsageRecordOutbox) :
    KeyedInv rs (s.spawn (.ofItem pid item)) := by
  refine ⟨?_, h.items, h.rows⟩
  intro p hp
  rcases Table.mem_of_mem_insert hp with hold | rfl
  · exact h.procs p hold
  · exact ⟨rfl, item.id, rfl⟩

theorem spawnAll : ∀ {items : List UsageRecordOutbox} {s : UsageSystem} {pid : Nat},
    KeyedInv rs s → KeyedInv rs (s.spawnAll pid items)
  | [], _, _, h => h
  | item :: _, _, pid, h => (h.spawn pid item).spawnAll

theorem enqueue (h : KeyedInv rs s) {db : DB} {r : RelayRequest} (hr : r ∈ rs)
    (hok : insertOutboxIdempotent s.db r.now r.payload = .ok db) :
    KeyedInv rs { s with db := db } := by
  rcases insertOutboxIdempotent_ok hok with ⟨rfl, -⟩ | ⟨item, rfl, hfresh, -, hpayload, -⟩
  · exact h
  refine ⟨h.procs, ?_, ?_⟩
  · intro o ho
    rcases Table.mem_of_mem_insert ho with hold | rfl
    · exact h.items o hold
    · exact ⟨r, hr, hpayload⟩
  · intro row hrow
    obtain ⟨o, ho, hof⟩ := h.rows row hrow
    exact ⟨o, (Table.mem_insert hfresh).mpr (.inl ho), hof⟩

/-- A step of a process stores rows of its own item only. -/
theorem effect {loc : Location} (h : KeyedInv rs s) (hinv : UsageInv loc s) {db' : DB} {p : Proc}
    {stage : ProcStage} (heffect : DbEffect loc s.db p db') (hp : p ∈ s.procs.rows)
    (hstage : stage.ledgerId = 0) :
    KeyedInv rs ⟨db', s.procs.set { p with stage := stage }⟩ := by
  refine ⟨?_, ?_, ?_⟩
  · intro q hq
    rcases Table.mem_set hq with rfl | ⟨hold, -⟩
    · exact ⟨hstage, (h.procs p hp).2⟩
    · exact h.procs q hold
  · intro x hx
    obtain ⟨o, ho, -, hpayload, -⟩ := heffect.mem_outbox hx
    rw [hpayload]
    exact h.items o ho
  · have hkept : ∀ o ∈ s.db.outbox.rows, ∀ row, RowOf o.payload.job row →
        ∃ o' ∈ db'.outbox.rows, RowOf o'.payload.job row := by
      intro o ho row hof
      obtain ⟨o', ho', hpayload⟩ := heffect.mem_of_mem ho
      exact ⟨o', ho', by rw [hpayload]; exact hof⟩
    have hold : ∀ row ∈ s.db.ledgers.rows, ∃ o' ∈ db'.outbox.rows, RowOf o'.payload.job row := by
      intro row hrow
      obtain ⟨o, ho, hof⟩ := h.rows row hrow
      exact hkept o ho row hof
    cases heffect with
    | same => exact hold
    | marked _ _ _ _ _ _ => exact hold
    | @stored row _ hstored hof =>
      intro x hx
      have hledgers : db'.ledgers = s.db.ledgers.insert row := by rw [hstored.frame]
      rw [hledgers] at hx
      rcases Table.mem_of_mem_insert hx with hxold | rfl
      · exact hold x hxold
      · obtain ⟨id, hid⟩ := (h.procs p hp).2
        obtain ⟨o, ho, hjob⟩ := (hinv.procs p hp).item id hid
        apply hkept o (Table.find?_mem ho)
        rw [hjob]
        exact hof

end KeyedInv

namespace UsageSystem

variable {loc : Location} {usingSQLite : Bool} {rs : List RelayRequest}

/-- A request with a server id is enqueued. -/
theorem enqueue_ok (db : DB) {r : RelayRequest} (h : r.ServerId) :
    ∃ db', insertOutboxIdempotent db r.now r.payload = .ok db' := by
  have hne : trimSpace r.payload.metadata.requestId ≠ "" := by
    have hkey := r.payload_requestId
    unfold UsageJob.requestId at hkey
    dsimp only [OutboxPayload.job] at hkey
    rw [hkey]
    exact r.key_ne_empty h
  unfold insertOutboxIdempotent
  dsimp only
  rw [if_neg hne]
  split
  · exact ⟨_, rfl⟩
  · exact ⟨_, rfl⟩

/-- Every stored row is a row of an enqueued request. -/
theorem step_keyedInv (hrs : ∀ r ∈ rs, r.ServerId) (s : UsageSystem) (e : UsageEvent)
    (hinv : UsageInv loc s) (h : KeyedInv rs s) (he : KeyedStep rs e) :
    KeyedInv rs (s.step loc usingSQLite e) := by
  cases e with
  | recordAsync pid r fault =>
    have hr := he.mem pid r fault rfl
    have hfault : fault = none := he.failureFree
    obtain ⟨db, hok⟩ := enqueue_ok s.db (hrs r hr)
    dsimp only [step, recordUsageAsync]
    rw [hfault, hok]
    exact h.enqueue hr hok
  | processById pid requestId =>
    dsimp only [step, processUsageRecordOutboxByRequestID]
    split
    · exact h
    split
    · exact h
    split
    · exact h
    · exact h.spawn pid _
  | processBatch pid now limit => exact h.spawnAll
  | proc pid event =>
    dsimp only [step]
    split
    · exact h
    next p hp =>
    have hmem := Table.find?_mem hp
    have hbuilt := (hinv.procs p hmem).built
    have hne : p.job.requestId ≠ "" := by
      obtain ⟨id, hid⟩ := (h.procs p hmem).2
      obtain ⟨o, ho, hjob⟩ := (hinv.procs p hmem).item id hid
      obtain ⟨r, hr, hpayload⟩ := h.items o (Table.find?_mem ho)
      rw [← hjob, hpayload, r.payload_requestId]
      exact r.key_ne_empty (hrs r hr)
    exact h.effect hinv (p.act_db loc usingSQLite s.db hbuilt event) hmem
      (p.act_ledgerId loc usingSQLite s.db hbuilt hne (h.procs p hmem).1 he.failureFree)

/-- A process that lets the database number its row meets no stale id. -/
theorem noStaleClash_of_keyed {s : UsageSystem} (h : KeyedInv rs s) (e : UsageEvent) :
    NoStaleClash s e := by
  unfold NoStaleClash
  split
  · intro p hp hclash
    exact hclash.1 (h.procs p (Table.find?_mem hp)).1
  · trivial

/-- The three invariants of a run of the requests `rs` without failures. -/
def DrainInv (loc : Location) (rs : List RelayRequest) (s : UsageSystem) : Prop :=
  UsageInv loc s ∧ RecordedInv s ∧ KeyedInv rs s

theorem step_drainInv (hrs : ∀ r ∈ rs, r.ServerId) (s : UsageSystem) (e : UsageEvent)
    (h : DrainInv loc rs s) (he : KeyedStep rs e) :
    DrainInv loc rs (s.step loc usingSQLite e) := by
  obtain ⟨hinv, hrecorded, hkeyed⟩ := h
  exact ⟨step_usageInv s e hinv,
    step_recordedInv s e hinv hrecorded (noStaleClash_of_keyed hkeyed e),
    step_keyedInv hrs s e hinv hkeyed he⟩

/-! ### Items of requests -/

theorem hasItem_enqueue {db db' : DB} {now : Timestamp} {payload : OutboxPayload}
    (hok : insertOutboxIdempotent db now payload = .ok db') :
    HasItem db' payload.job.requestId ∧
      ∀ requestId, HasItem db requestId → HasItem db' requestId := by
  rcases insertOutboxIdempotent_ok hok with ⟨rfl, hthere⟩ | ⟨item, rfl, hfresh, hreq, -, -⟩
  · exact ⟨hthere, fun _ h => h⟩
  · refine ⟨⟨item, (Table.mem_insert hfresh).mpr (.inr rfl), hreq⟩, ?_⟩
    rintro requestId ⟨o, ho, hkey⟩
    exact ⟨o, (Table.mem_insert hfresh).mpr (.inl ho), hkey⟩

theorem spawnAll_db : ∀ (items : List UsageRecordOutbox) (s : UsageSystem) (pid : Nat),
    (s.spawnAll pid items).db = s.db
  | [], _, _ => rfl
  | item :: items, s, pid => spawnAll_db items (s.spawn (.ofItem pid item)) (pid + 1)

/-- No step removes an item. -/
theorem step_hasItem (s : UsageSystem) (e : UsageEvent) (hinv : UsageInv loc s)
    {requestId : String} (h : HasItem s.db requestId) :
    HasItem (s.step loc usingSQLite e).db requestId := by
  cases e with
  | recordAsync pid r fault =>
    dsimp only [step, recordUsageAsync]
    split
    · next hok => exact (hasItem_enqueue hok).2 requestId h
    · next hok => exact (hasItem_enqueue hok).2 requestId h
    · exact h
  | processById pid key =>
    dsimp only [step, processUsageRecordOutboxByRequestID]
    split
    · exact h
    split
    · exact h
    split
    · exact h
    · exact h
  | processBatch pid now limit =>
    dsimp only [step, processUsageRecordOutboxBatch]
    rw [spawnAll_db]
    exact h
  | proc pid event =>
    dsimp only [step]
    split
    · exact h
    next p hp =>
    have hmem := Table.find?_mem hp
    have hbuilt := (hinv.procs p hmem).built
    obtain ⟨o, ho, hkey⟩ := h
    obtain ⟨o', ho', hpayload⟩ := (p.act_db loc usingSQLite s.db hbuilt event).mem_of_mem ho
    refine ⟨o', ho', ?_⟩
    have hnext : UsageInv loc (s.step loc usingSQLite (.proc pid event)) :=
      step_usageInv s (.proc pid event) hinv
    dsimp only [step] at hnext
    rw [hp] at hnext
    rw [hnext.keyed o' ho', hpayload, ← hinv.keyed o ho]
    exact hkey

/-- At the end of a run every request of it has an item. -/
theorem run_hasItem (hrs : ∀ r ∈ rs, r.ServerId) {events : List UsageEvent} {s : UsageSystem}
    (h : DrainInv loc rs s) (hevents : ∀ e ∈ events, KeyedStep rs e) :
    (∀ requestId, HasItem s.db requestId →
        HasItem (Run.run (step loc usingSQLite) s events).db requestId) ∧
      ∀ r ∈ relayRequests events, HasItem (Run.run (step loc usingSQLite) s events).db r.key := by
  induction events generalizing s with
  | nil => exact ⟨fun _ hitem => hitem, fun r hr => nomatch hr⟩
  | cons e events ih =>
    have he := hevents e List.mem_cons_self
    have hnext : DrainInv loc rs (s.step loc usingSQLite e) := step_drainInv hrs s e h he
    obtain ⟨hkeep, hrest⟩ := ih hnext fun x hx => hevents x (List.mem_cons_of_mem e hx)
    refine ⟨fun requestId hitem => hkeep requestId (step_hasItem s e h.1 hitem), ?_⟩
    intro r hr
    cases e with
    | recordAsync pid r' fault =>
      rcases List.mem_cons.mp hr with rfl | htail
      · -- the request of this very step
        apply hkeep
        have hfault : fault = none := he.failureFree
        obtain ⟨db, hok⟩ := enqueue_ok s.db (hrs r (he.mem pid r fault rfl))
        dsimp only [step, recordUsageAsync]
        rw [hfault, hok, ← r.payload_requestId]
        exact (hasItem_enqueue hok).1
      · exact hrest r htail
    | processById pid key => exact hrest r hr
    | processBatch pid now limit => exact hrest r hr
    | proc pid event => exact hrest r hr

end UsageSystem

/-! ## Drained outbox -/

/-- Every item has been recorded. -/
def Drained (s : UsageSystem) : Prop := ∀ o ∈ s.db.outbox.rows, o.status = .succeeded

instance (s : UsageSystem) : Decidable (Drained s) :=
  inferInstanceAs (Decidable (∀ o ∈ s.db.outbox.rows, o.status = .succeeded))

theorem markTime_pos : (0 : Int) < 11 := by decide

/-- A run in which each of the given requests is enqueued, claimed, stored and marked;
    request `n` of the list is recorded by process `n` under id `n`. -/
def drainEach (n : Nat) : List RelayRequest → List UsageEvent
  | [] => []
  | r :: rs =>
    [.recordAsync 0 r none, .processById n r.key] ++ claimAndBuild n ++
      [attemptWith n n none, .proc n (.mark ⟨11, markTime_pos⟩)] ++ drainEach (n + 1) rs

/-- The request of another user, with the client's own key. -/
def relayWithHeader (requestId header : String) (userId : Int) : RelayRequest :=
  { relayOf requestId with
    ctx := ⟨[(usageLedgerRequestIdHeader, header)], []⟩
    info := { requestId := requestId, userId := userId, tenantId := 7,
              tenantBillingMode := some .postpaid } }

end TokenRouter
