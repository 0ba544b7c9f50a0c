import TokenRouter.Spec.TenantCases

/-!
# What a successful usage recording does

The in-memory ledger that `recordUsageWithMeta` carries through its retries only
ever changes by `normalize` and by the id that an insert assigns, so the row that
is stored in the end is the ledger built before the first attempt, normalised,
under some id.

## Key results

- `normalize_normalize`: `UsageLedger.normalize` is idempotent
- `tryInsertUsageLedger_ok`: one committed attempt
- `recordUsageWithMeta_ok`: a whole successful call
-/

namespace TokenRouter

/-! ## Normalisation -/

/-- `UsageLedger.normalize` is idempotent, at any two times. -/
theorem normalize_normalize (l : UsageLedger) (now now' : Timestamp) :
    (l.normalize now).normalize now' = l.normalize now := by
  have hsuccess : trimSpace "success" = "success" := by decide
  have hnow : now.unix ≠ 0 := now.pos.ne'
  have hcreated : (if l.createdAt = 0 then now.unix else l.createdAt) ≠ 0 := by
    split
    · exact hnow
    · next h => exact h
  have hstatus : ∀ s : String,
      trimSpace (if trimSpace s = "" then "success" else trimSpace s) =
        if trimSpace s = "" then "success" else trimSpace s := by
    intro s
    split
    · exact hsuccess
    · rw [trimSpace_trimSpace]
  have hne : ∀ s : String, (if trimSpace s = "" then "success" else trimSpace s) ≠ "" := by
    intro s
    split
    · decide
    · next h => exact h
  simp only [UsageLedger.normalize, trimSpace_trimSpace, hstatus, if_neg (hne _)]
  congr 1
  · -- the clamped prompt count is a fixed point
    split_ifs <;> simp_all
  · split_ifs <;> rfl
  · exact if_neg hcreated

/-- The clock is only read for a ledger without a creation time. -/
theorem normalize_now (l : UsageLedger) (h : l.createdAt ≠ 0) (now now' : Timestamp) :
    l.normalize now = l.normalize now' := by
  simp only [UsageLedger.normalize, if_neg h]

/-- Two in-memory ledgers that store the same columns, up to the id. -/
def SameUsage (l l' : UsageLedger) : Prop :=
  l'.createdAt ≠ 0 ∧ ∀ now, (l'.normalize now).withId 0 = (l.normalize now).withId 0

theorem SameUsage.refl {l : UsageLedger} (h : l.createdAt ≠ 0) : SameUsage l l :=
  ⟨h, fun _ => rfl⟩

/-- Normalising and renumbering keep what a ledger stores. -/
theorem SameUsage.normalize {l l' : UsageLedger} (h : SameUsage l l') (now : Timestamp)
    (id : Nat) : SameUsage l ((l'.normalize now).withId id) := by
  refine ⟨?_, fun now' => ?_⟩
  · simp only [UsageLedger.withId_createdAt, UsageLedger.normalize, if_neg h.1]
    exact h.1
  · rw [UsageLedger.normalize_withId, UsageLedger.withId_withId, normalize_normalize,
      normalize_now l' h.1 now now', h.2 now']

/-! ## One attempt -/

/-- The primary key that an insert writes. -/
def insertedId (l : UsageLedger) (autoId : Nat) : Nat := if l.id = 0 then autoId else l.id

/-- What the idempotent insert found and wrote. -/
theorem insertIdempotentRowsAffectedTx_ok {db db' : DB} {now : Timestamp} {autoId : Nat}
    {l row : UsageLedger} {affected : Nat}
    (h : insertIdempotentRowsAffectedTx db now autoId l = .ok (affected, row, db')) :
    (l.normalize now).requestId ≠ "" ∧
    ((affected = 0 ∧ row = l.normalize now ∧ db' = db ∧
        ∃ r ∈ db.ledgers.rows,
          r.requestId = (l.normalize now).requestId ∨ r.id = insertedId l autoId) ∨
      (affected = 1 ∧ row = (l.normalize now).withId (insertedId l autoId) ∧
        db' = { db with ledgers := db.ledgers.insert row } ∧
        ∀ r ∈ db.ledgers.rows,
          r.requestId ≠ (l.normalize now).requestId ∧ r.id ≠ insertedId l autoId)) := by
  unfold insertIdempotentRowsAffectedTx at h
  simp only [UsageLedger.normalize_id, UsageLedger.withId_requestId, UsageLedger.withId_id] at h
  change (if (l.normalize now).requestId = "" then _ else
    if (db.ledgers.rows.any fun r => decide (r.requestId = (l.normalize now).requestId ∨
      r.id = insertedId l autoId)) = true then _ else
      Except.ok (1, (l.normalize now).withId (insertedId l autoId),
        { db with
          ledgers := db.ledgers.insert ((l.normalize now).withId (insertedId l autoId)) })) =
      _ at h
  split at h
  · exact nomatch h
  next hne =>
  refine ⟨hne, ?_⟩
  split at h
  · next hany =>
    simp only [Except.ok.injEq, Prod.mk.injEq] at h
    obtain ⟨rfl, rfl, rfl⟩ := h
    obtain ⟨r, hr, hclash⟩ := List.any_eq_true.mp hany
    exact .inl ⟨rfl, rfl, rfl, r, hr, of_decide_eq_true hclash⟩
  · next hany =>
    simp only [Except.ok.injEq, Prod.mk.injEq] at h
    obtain ⟨rfl, rfl, rfl⟩ := h
    refine .inr ⟨rfl, rfl, rfl, fun r hr => not_or.mp fun hclash => hany ?_⟩
    exact List.any_eq_true.mpr ⟨r, hr, decide_eq_true hclash⟩

/-- The in-memory ledger after an attempt stores the same columns. -/
theorem tryInsertUsageLedger_sameUsage {l : UsageLedger} (loc : Location) (db : DB)
    (attempt : TxAttempt) {l' : UsageLedger} (h : SameUsage l l') :
    SameUsage l (tryInsertUsageLedger loc db attempt l').2 := by
  have hnorm : SameUsage l (l'.normalize attempt.now) := h.normalize attempt.now l'.id
  unfold tryInsertUsageLedger
  split
  · exact h
  · exact hnorm
  split
  · exact hnorm
  next affected row db₁ hins =>
  have hrow : SameUsage l row := by
    rcases (insertIdempotentRowsAffectedTx_ok hins).2 with ⟨-, rfl, -⟩ | ⟨-, rfl, -⟩
    · exact hnorm
    · exact h.normalize attempt.now _
  split
  · exact hrow
  split
  · exact hrow
  split
  · exact hrow
  · exact hrow

/-- A row is stored: it was fresh in both unique columns, and the account and the
    aggregate of the row were updated in the same transaction. -/
structure Stored (loc : Location) (db : DB) (row : UsageLedger) (db' : DB) : Prop where
  requestId_ne : row.requestId ≠ ""
  fresh : db.ledgers.find? row.requestId = none
  fresh_id : ∀ r ∈ db.ledgers.rows, r.id ≠ row.id
  written : ∃ now db₂,
    applyTenantLedgerCreditTx { db with ledgers := db.ledgers.insert row } row = .ok db₂ ∧
    db' = upsertUsageAggregateDailyTx db₂ loc now row

/-- A committed attempt either found a conflicting row or stored the ledger. -/
theorem tryInsertUsageLedger_ok {loc : Location} {db db' : DB} {attempt : TxAttempt}
    {l l' : UsageLedger} {affected : Nat}
    (h : tryInsertUsageLedger loc db attempt l = (.ok (affected, db'), l')) :
    (affected = 0 ∧ db' = db ∧ l' = l.normalize attempt.now ∧
      ∃ r ∈ db.ledgers.rows, r.requestId = (l.normalize attempt.now).requestId ∨
        r.id = insertedId l attempt.autoId) ∨
    (affected = 1 ∧ Stored loc db l' db' ∧
      l' = (l.normalize attempt.now).withId (insertedId l attempt.autoId)) := by
  unfold tryInsertUsageLedger at h
  split at h
  · exact nomatch h
  · exact nomatch h
  split at h
  · exact nomatch h
  next affected' row db₁ hins =>
  split at h
  · exact nomatch h
  obtain ⟨hne, ⟨rfl, rfl, rfl, hclash⟩ | ⟨rfl, hrow, rfl, hfresh⟩⟩ :=
    insertIdempotentRowsAffectedTx_ok hins
  · simp only [if_true, Prod.mk.injEq, Except.ok.injEq] at h
    obtain ⟨⟨rfl, rfl⟩, rfl⟩ := h
    exact .inl ⟨rfl, rfl, rfl, hclash⟩
  · simp only [Nat.one_ne_zero, if_false] at h
    split at h
    · exact nomatch h
    next db₂ happly =>
    simp only [Prod.mk.injEq, Except.ok.injEq] at h
    obtain ⟨⟨rfl, rfl⟩, rfl⟩ := h
    refine .inr ⟨rfl, ⟨?_, ?_, ?_, attempt.now, db₂, happly, rfl⟩, hrow⟩
    · rw [hrow]
      exact hne
    · rw [Table.find?_eq_none_iff, hrow]
      exact fun r hr => (hfresh r hr).1
    · rw [hrow]
      exact fun r hr => (hfresh r hr).2

/-! ## A whole call -/

/-- The retry loop either finds a conflicting row in the end or stores the ledger. -/
theorem insertUsageLedgerLoop_ok {loc : Location} {db db' : DB} {attempts : Nat → TxAttempt}
    {l : UsageLedger} {affected : Nat} : ∀ {fuel n : Nat} {l' : UsageLedger} {last : String},
    SameUsage l l' →
    insertUsageLedgerLoop loc db attempts fuel n l' last = .ok (affected, db') →
    db' = db ∨ ∃ row, SameUsage l row ∧ Stored loc db row db' ∧
      ∃ now : Timestamp, row = (l.normalize now).withId row.id
  | 0, _, _, _, _, h => nomatch h
  | fuel + 1, n, l', last, hsame, h => by
    unfold insertUsageLedgerLoop at h
    have hnext := tryInsertUsageLedger_sameUsage loc db (attempts n) hsame
    split at h
    · next result l'' htry =>
      obtain ⟨affected', db₁⟩ := result
      simp only [Except.ok.injEq, Prod.mk.injEq] at h
      obtain ⟨rfl, rfl⟩ := h
      rw [htry] at hnext
      rcases tryInsertUsageLedger_ok htry with ⟨-, rfl, -, -⟩ | ⟨-, hstored, hrow⟩
      · exact .inl rfl
      · refine .inr ⟨l'', hnext, hstored, (attempts n).now, ?_⟩
        have hcols := congrArg (·.withId l''.id) (hsame.2 (attempts n).now)
        simp only [UsageLedger.withId_withId] at hcols
        rw [← hcols, hrow, UsageLedger.withId_id]
    · next e l'' htry =>
      split at h
      · rw [htry] at hnext
        exact insertUsageLedgerLoop_ok hnext h
      · exact nomatch h

/-- What every ledger built by `newUsageLedger` satisfies. -/
structure LedgerOk (l : UsageLedger) : Prop where
  status : l.status = "success"
  createdAt_pos : 0 < l.createdAt
  tenantId_nonneg : 0 ≤ l.tenantId
  postpaidQuota_nonneg : 0 ≤ l.postpaidQuota

theorem tenantPostpaidQuota_nonneg (mode : BillingMode) (sellQuota prepaidConsumed : Int) :
    0 ≤ tenantPostpaidQuota mode sellQuota prepaidConsumed := by
  unfold tenantPostpaidQuota
  split
  · exact le_refl 0
  · cases mode with
    | prepaid => exact le_refl 0
    | postpaid => dsimp only; omega
    | mixed => dsimp only; split <;> omega

/-- The tenant columns do not disturb the rest. -/
theorem decorateTenantLedger_ok {db : DB} {loc : Location} {now : Timestamp} {l : UsageLedger}
    {info : RelayInfo} {billing : Option Int} (h : LedgerOk l) :
    LedgerOk (decorateTenantLedger db loc now l info billing) := by
  unfold decorateTenantLedger
  split
  · exact h
  · next htenant =>
    exact ⟨h.status, h.createdAt_pos, by dsimp only; omega, tenantPostpaidQuota_nonneg _ _ _⟩

theorem decorateTenantLedger_requestId (db : DB) (loc : Location) (now : Timestamp)
    (l : UsageLedger) (info : RelayInfo) (billing : Option Int) :
    (decorateTenantLedger db loc now l info billing).requestId = l.requestId ∧
      (decorateTenantLedger db loc now l info billing).id = l.id := by
  unfold decorateTenantLedger
  split <;> exact ⟨rfl, rfl⟩

/-- The row that `recordUsageWithMeta` is about to store. -/
theorem newUsageLedger_ok {env : UsageEnv} {db : DB} {now : Timestamp} {info : RelayInfo}
    {billing : Option Int} {usage : Option Usage} {sellQuota : Int} {metadata : UsageRecordMeta}
    {l : UsageLedger}
    (h : newUsageLedger env db now info billing usage sellQuota metadata = .ok l) :
    LedgerOk l ∧ l.requestId = metadata.requestId ∧ l.id = 0 := by
  unfold newUsageLedger at h
  split at h
  · exact nomatch h
  dsimp only at h
  split at h
  · exact nomatch h
  split at h
  · exact nomatch h
  simp only [Except.ok.injEq] at h
  subst h
  have hcreated : 0 < if metadata.createdAt = 0 then now.unix else metadata.createdAt := by
    have := now.pos
    have := metadata.createdAt_nonneg
    split <;> omega
  refine ⟨decorateTenantLedger_ok ⟨rfl, hcreated, le_refl 0, le_refl 0⟩, ?_, ?_⟩
  · rw [(decorateTenantLedger_requestId _ _ _ _ _ _).1]
  · rw [(decorateTenantLedger_requestId _ _ _ _ _ _).2]

/-- Normalising keeps a ledger well formed. -/
theorem LedgerOk.normalize {l : UsageLedger} (h : LedgerOk l) (now : Timestamp) (id : Nat) :
    LedgerOk ((l.normalize now).withId id) := by
  have hcreated := h.createdAt_pos
  refine ⟨?_, ?_, h.tenantId_nonneg, h.postpaidQuota_nonneg⟩
  · change (if trimSpace l.status = "" then "success" else trimSpace l.status) = "success"
    rw [h.status]
    decide
  · change 0 < if l.createdAt = 0 then now.unix else l.createdAt
    split <;> omega

/-- A successful `recordUsageWithMeta` changes nothing or stores one well-formed row. -/
theorem recordUsageWithMeta_ok {db db' : DB} {c : RecordCall}
    (h : recordUsageWithMeta db c = .ok db') :
    db' = db ∨ ∃ row, Stored c.env.location db row db' ∧ LedgerOk row ∧
      row.requestId = trimSpace c.metadata.requestId := by
  unfold recordUsageWithMeta at h
  split at h
  · exact nomatch h
  next l hl =>
  obtain ⟨hok, hreq, -⟩ := newUsageLedger_ok hl
  split at h
  · exact nomatch h
  next affected db₁ hins =>
  simp only [Except.ok.injEq] at h
  subst h
  unfold insertUsageLedgerWithTenantCredit at hins
  rcases insertUsageLedgerLoop_ok (.refl hok.createdAt_pos.ne') hins with
    hsame | ⟨row, -, hstored, now, hrow⟩
  · exact .inl hsame
  · refine .inr ⟨row, hstored, ?_, ?_⟩
    · rw [hrow]
      exact hok.normalize now row.id
    · rw [hrow, ← hreq]
      rfl

end TokenRouter
