import TokenRouter.Service.SubscriptionRace
import TokenRouter.ForStd.Run

/-!
# Subscription usage under interleaving

Transactions save copies of the rows they read. A copy keeps the total of its row, and
each path checks the new amount against that total, so the amount used never passes it.
The amount itself is only right as long as a saved copy is current: the delta of a
transaction that commits between the read and the save is overwritten.

## Key results

- `SubProc.commit_writes`: what a commit without a reset saves
- `postConsume_uninterrupted`: a settlement on its own is the sequential function
- `usage_exact_of_current_reads`: bounded in every run, exact in runs of current saves
- `concurrent_delta_lost`: two overlapping settlements, of which one is lost
-/

namespace TokenRouter

/-! ## Rows of a transaction -/

/-- The subscription rows that a transaction holds. -/
def SubStage.subs : SubStage → List UserSubscription
  | .candidatesRead subs => subs
  | .rowRead sub _ _ => [sub]
  | .dueRead sub => [sub]
  | _ => []

/-- The amount used is within a positive total. -/
def UserSubscription.Bounded (sub : UserSubscription) : Prop :=
  0 < sub.amountTotal → sub.amountUsed ≤ sub.amountTotal

instance : DecidablePred UserSubscription.Bounded := fun sub =>
  inferInstanceAs (Decidable (0 < sub.amountTotal → sub.amountUsed ≤ sub.amountTotal))

/-- Every subscription is bounded. -/
def QuotaDB.BoundedUsage (db : QuotaDB) : Prop :=
  ∀ sub ∈ db.subscriptions.rows, sub.Bounded

/-- Whether `maybeResetUserSubscriptionWithPlanTx` would set the amount used to zero. -/
def QuotaDB.resetFalls (env : BillingEnv) (sub : UserSubscription) : Bool :=
  if 0 < sub.nextResetTime ∧ env.now.unix < sub.nextResetTime then false
  else
    match env.resetTimes sub env.now.unix with
    | .ok (.due _ _) => true
    | _ => false

/-- Whether a transaction would reset one of the rows that it holds. -/
def SubProc.resetFalls (p : SubProc) : Bool :=
  match p.op with
  | .preConsume env _ _ _ => p.stage.subs.any (QuotaDB.resetFalls env)
  | .resetDue env _ => p.stage.subs.any (QuotaDB.resetFalls env)
  | _ => false

/-- The row is the copy `c` up to its reset times. -/
structure UserSubscription.SameUse (sub c : UserSubscription) : Prop where
  id : sub.id = c.id
  amountTotal : sub.amountTotal = c.amountTotal
  amountUsed : sub.amountUsed = c.amountUsed

/-- The row is the copy `c` with `delta` added to the amount used. -/
structure UserSubscription.Charged (delta : Int) (sub c : UserSubscription) : Prop where
  id : sub.id = c.id
  amountTotal : sub.amountTotal = c.amountTotal
  amountUsed : sub.amountUsed = max 0 (c.amountUsed + delta)
  bounded : sub.Bounded

theorem maybeReset_sameUse {env : BillingEnv} {c sub : UserSubscription}
    (hno : QuotaDB.resetFalls env c = false)
    (h : QuotaDB.maybeResetUserSubscription env c env.now.unix = .ok sub) : sub.SameUse c := by
  unfold QuotaDB.maybeResetUserSubscription at h
  unfold QuotaDB.resetFalls at hno
  by_cases hlater : 0 < c.nextResetTime ∧ env.now.unix < c.nextResetTime
  · rw [if_pos hlater] at h
    cases h
    exact ⟨rfl, rfl, rfl⟩
  · rw [if_neg hlater] at h hno
    cases htimes : env.resetTimes c env.now.unix with
    | error e => simp [htimes] at h
    | ok times =>
      rw [htimes] at h hno
      cases times with
      | never =>
        cases h
        exact ⟨rfl, rfl, rfl⟩
      | notDue base next =>
        dsimp only at h
        split at h
        · cases h
          exact ⟨rfl, rfl, rfl⟩
        · cases h
          exact ⟨rfl, rfl, rfl⟩
      | due base next => simp at hno

/-- The candidate loop saves copies of candidates, and chooses one with room. -/
theorem preConsumePlan_spec {env : BillingEnv} {amount : Int} {subs saves : List UserSubscription}
    {chosen : UserSubscription} (hno : ∀ c ∈ subs, QuotaDB.resetFalls env c = false)
    (h : QuotaDB.preConsumePlan env amount env.now.unix subs = .ok (saves, chosen)) :
    (∀ row ∈ saves, ∃ c ∈ subs, row.SameUse c) ∧ (∃ c ∈ subs, chosen.SameUse c) ∧
      (0 < chosen.amountTotal → chosen.amountUsed + amount ≤ chosen.amountTotal) := by
  induction subs generalizing saves with
  | nil => cases h
  | cons candidate rest ih =>
    have hrest : ∀ c ∈ rest, QuotaDB.resetFalls env c = false := fun c hc =>
      hno c (List.mem_cons_of_mem candidate hc)
    rw [QuotaDB.preConsumePlan] at h
    cases hreset : QuotaDB.maybeResetUserSubscription env candidate env.now.unix with
    | error e => simp [hreset] at h
    | ok sub =>
      have hsame : sub.SameUse candidate := maybeReset_sameUse (hno candidate (by simp)) hreset
      simp only [hreset] at h
      -- the row saved for this candidate, if any
      have hsaved : ∀ row ∈ (if QuotaDB.maybeResetSaves env candidate env.now.unix then [sub]
          else []), row = sub := by
        intro row hrow
        split at hrow
        · simpa using hrow
        · simp at hrow
      by_cases hfull : 0 < sub.amountTotal ∧ sub.amountTotal - sub.amountUsed < amount
      · rw [if_pos hfull] at h
        cases hplan : QuotaDB.preConsumePlan env amount env.now.unix rest with
        | error e => simp [hplan] at h
        | ok result =>
          simp only [hplan, Except.ok.injEq, Prod.mk.injEq] at h
          obtain ⟨rfl, rfl⟩ := h
          obtain ⟨hsaves, ⟨c, hc, hchosen⟩, hroom⟩ := ih hrest hplan
          refine ⟨?_, ⟨c, List.mem_cons_of_mem candidate hc, hchosen⟩, hroom⟩
          intro row hrow
          cases List.mem_append.mp hrow with
          | inl hrow => exact ⟨candidate, by simp, hsaved row hrow ▸ hsame⟩
          | inr hrow =>
            obtain ⟨d, hd, hrow⟩ := hsaves row hrow
            exact ⟨d, List.mem_cons_of_mem candidate hd, hrow⟩
      · rw [if_neg hfull] at h
        simp only [Except.ok.injEq, Prod.mk.injEq] at h
        obtain ⟨rfl, rfl⟩ := h
        refine ⟨?_, ⟨candidate, by simp, hsame⟩, ?_⟩
        · intro row hrow
          exact ⟨candidate, by simp, hsaved row hrow ▸ hsame⟩
        · intro htotal
          by_contra hover
          exact hfull ⟨htotal, by omega⟩

/-! ## What a commit writes -/

/-- A commit over the copies `subs` saves some of them unchanged, and then perhaps the one
    that its delta goes to. -/
structure SubProc.Committed.Writes (subs : List UserSubscription) (c : SubProc.Committed) :
    Prop where
  saved : ∃ kept, (∀ row ∈ kept, ∃ copy ∈ subs, UserSubscription.SameUse row copy) ∧
    ((c.saved = kept ∧ c.delta = none) ∨
      ∃ row delta, c.saved = kept ++ [row] ∧ c.delta = some (row.id, delta) ∧
        ∃ copy ∈ subs, UserSubscription.Charged delta row copy)
  stage : ∀ row ∈ c.stage.subs, row ∈ subs

/-- A commit that only saves copies. -/
theorem SubProc.Committed.Writes.of_kept {subs : List UserSubscription} {c : SubProc.Committed}
    (hkept : ∀ row ∈ c.saved, ∃ copy ∈ subs, row.SameUse copy) (hdelta : c.delta = none)
    (hstage : ∀ row ∈ c.stage.subs, row ∈ subs) : c.Writes subs :=
  ⟨⟨c.saved, hkept, .inl ⟨rfl, hdelta⟩⟩, hstage⟩

theorem SubProc.commitPreConsume_writes (db : QuotaDB) {env : BillingEnv} (requestId : String)
    (userId : Int) {amount : Int} (hamount : 0 ≤ amount) {subs : List UserSubscription}
    (hno : ∀ c ∈ subs, QuotaDB.resetFalls env c = false) :
    (commitPreConsume db env requestId userId amount hamount subs).Writes subs := by
  unfold commitPreConsume
  cases hplan : QuotaDB.preConsumePlan env amount env.now.unix subs with
  | error e => exact .of_kept (by simp) rfl (by simp [SubStage.subs])
  | ok result =>
    obtain ⟨saves, chosen⟩ := result
    obtain ⟨hsaves, ⟨copy, hcopy, hchosen⟩, hroom⟩ := preConsumePlan_spec hno hplan
    dsimp only
    split
    · exact .of_kept hsaves rfl (by simp [SubStage.subs])
    · refine ⟨⟨saves, hsaves, .inr ⟨_, amount, rfl, rfl, copy, hcopy, ?_⟩⟩, by simp [SubStage.subs]⟩
      have hused : 0 ≤ chosen.amountUsed + amount :=
        add_nonneg chosen.amountUsed_nonneg hamount
      refine ⟨hchosen.id, hchosen.amountTotal, ?_, hroom⟩
      show chosen.amountUsed + amount = max 0 (copy.amountUsed + amount)
      rw [← hchosen.amountUsed, max_eq_right hused]

theorem SubProc.commitDelta_writes (db : QuotaDB) (sub : UserSubscription) (delta : Int)
    (mark : Option SubscriptionPreConsumeRecord) : (commitDelta db sub delta mark).Writes [sub] := by
  unfold commitDelta
  dsimp only
  split
  · exact .of_kept (by simp) rfl (by simp [SubStage.subs])
  · rename_i hfits
    refine ⟨⟨[], by simp, .inr ⟨_, delta, rfl, rfl, sub, by simp, rfl, rfl, rfl, ?_⟩⟩, ?_⟩
    · intro htotal
      by_contra hover
      exact hfits ⟨htotal, not_le.mp hover⟩
    · cases mark with
      | none => simp [SubStage.subs]
      | some record => simp [SubStage.subs]

theorem SubProc.commitReset_writes (db : QuotaDB) {env : BillingEnv} {sub : UserSubscription}
    (hno : QuotaDB.resetFalls env sub = false) : (commitReset db env sub).Writes [sub] := by
  unfold commitReset
  cases hreset : QuotaDB.maybeResetUserSubscription env sub env.now.unix with
  | error e => exact .of_kept (by simp) rfl (by simp [SubStage.subs])
  | ok sub' =>
    dsimp only
    split
    · refine .of_kept ?_ rfl (by simp [SubStage.subs])
      intro row hrow
      have hrow' : row = sub' := by simpa using hrow
      exact ⟨sub, by simp, hrow' ▸ maybeReset_sameUse hno hreset⟩
    · exact .of_kept (by simp) rfl (by simp [SubStage.subs])

/-- What a commit writes when no reset falls on the rows it holds. -/
theorem SubProc.commit_writes (db : QuotaDB) {p : SubProc} (hno : p.resetFalls = false) :
    (p.commit db).Writes p.stage.subs := by
  obtain ⟨pid, op, stage⟩ := p
  -- the copies of a stage that is not the one of the operation are not looked at
  have hidle : ∀ records, SubProc.Committed.Writes stage.subs
      { records := records, stage := stage } := fun records => .of_kept (by simp) rfl (by simp)
  have hmark : ∀ records, SubProc.Committed.Writes stage.subs { records := records } := fun records =>
    .of_kept (by simp) rfl (by simp [SubStage.subs])
  cases stage with
  | rowRead sub delta mark =>
    cases op <;> exact commitDelta_writes db sub delta mark
  | marking record => cases op <;> exact hmark _
  | candidatesRead subs =>
    cases op with
    | preConsume env requestId userId amount =>
      dsimp only [commit]
      split
      · exact hmark _
      · refine commitPreConsume_writes db requestId userId _ ?_
        intro c hc
        simp only [SubProc.resetFalls, SubStage.subs, List.any_eq_false] at hno
        simpa using hno c hc
    | postConsume subscriptionId delta => exact hidle _
    | refund requestId => exact hidle _
    | resetDue env subscriptionId => exact hidle _
  | dueRead sub =>
    cases op with
    | resetDue env subscriptionId =>
      refine commitReset_writes db ?_
      simpa [SubProc.resetFalls, SubStage.subs] using hno
    | preConsume env requestId userId amount => exact hidle _
    | postConsume subscriptionId delta => exact hidle _
    | refund requestId => exact hidle _
  | started => cases op <;> exact hidle _
  | checked => cases op <;> exact hidle _
  | recordRead record => cases op <;> exact hidle _
  | stopped => cases op <;> exact hidle _

/-- The rows that a `SELECT` adds are rows of the table. -/
theorem SubProc.read_subs {db : QuotaDB} {p : SubProc} {row : UserSubscription}
    (h : row ∈ (p.read db).subs) : row ∈ p.stage.subs ∨ row ∈ db.subscriptions.rows := by
  obtain ⟨pid, op, stage⟩ := p
  cases op with
  | preConsume env requestId userId amount =>
    cases stage with
    | started =>
      dsimp only [read] at h
      split at h
      · simp [SubStage.subs] at h
      · split at h <;> simp [SubStage.subs] at h
    | checked =>
      right
      simp only [read, SubStage.subs, List.mem_mergeSort, QuotaDB.activeSubscriptions,
        List.mem_filter] at h
      exact h.1
    | _ => exact .inl h
  | postConsume subscriptionId delta =>
    cases stage with
    | started =>
      dsimp only [read] at h
      split at h
      · simp [SubStage.subs] at h
      · split at h
        · simp [SubStage.subs] at h
        · rename_i sub hfind
          have hrow : row = sub := by simpa [SubStage.subs] using h
          exact .inr (hrow ▸ Table.find?_mem hfind)
    | _ => exact .inl h
  | refund requestId =>
    cases stage with
    | started =>
      dsimp only [read] at h
      split at h
      · simp [SubStage.subs] at h
      · split at h
        · simp [SubStage.subs] at h
        · split at h
          · simp [SubStage.subs] at h
          · split at h <;> simp [SubStage.subs] at h
    | recordRead record =>
      dsimp only [read] at h
      split at h
      · simp [SubStage.subs] at h
      · rename_i sub hfind
        have hrow : row = sub := by simpa [SubStage.subs] using h
        exact .inr (hrow ▸ Table.find?_mem hfind)
    | _ => exact .inl h
  | resetDue env subscriptionId =>
    cases stage with
    | started =>
      dsimp only [read] at h
      split at h
      · simp [SubStage.subs] at h
      · rename_i sub hfind
        split at h
        · have hrow : row = sub := by simpa [SubStage.subs] using h
          exact .inr (hrow ▸ Table.find?_mem hfind)
        · simp [SubStage.subs] at h
    | _ => exact .inl h

/-! ## Saving rows -/

/-- The subscription exists and has this total. -/
def QuotaDB.HasTotal (db : QuotaDB) (id : Nat) (total : Int) : Prop :=
  (db.subscriptions.find? id).map (·.amountTotal) = some total

theorem QuotaDB.hasTotal_of_mem {db : QuotaDB} {sub : UserSubscription}
    (h : sub ∈ db.subscriptions.rows) : db.HasTotal sub.id sub.amountTotal := by
  rw [HasTotal, Table.find?_of_mem h]
  rfl

theorem QuotaDB.saveAll_cons (db : QuotaDB) (row : UserSubscription)
    (rows : List UserSubscription) : db.saveAll (row :: rows) = (db.saveAll [row]).saveAll rows :=
  rfl

theorem QuotaDB.saveAll_append (db : QuotaDB) (rows rows' : List UserSubscription) :
    db.saveAll (rows ++ rows') = (db.saveAll rows).saveAll rows' := by
  simp only [saveAll, List.foldl_append]

theorem QuotaDB.mem_saveAll {db : QuotaDB} {rows : List UserSubscription} {sub : UserSubscription}
    (h : sub ∈ (db.saveAll rows).subscriptions.rows) :
    sub ∈ rows ∨ sub ∈ db.subscriptions.rows := by
  induction rows generalizing db with
  | nil => exact .inr h
  | cons row rows ih =>
    rw [saveAll_cons] at h
    cases ih h with
    | inl hmem => exact .inl (List.mem_cons_of_mem row hmem)
    | inr hmem =>
      cases Table.mem_set hmem with
      | inl heq => exact .inl (heq ▸ List.mem_cons_self)
      | inr hold => exact .inr hold.1

theorem QuotaDB.hasTotal_save {db : QuotaDB} {row : UserSubscription}
    (hrow : db.HasTotal row.id row.amountTotal) {id : Nat} {total : Int}
    (h : db.HasTotal id total) : (db.saveAll [row]).HasTotal id total := by
  show ((db.subscriptions.set row).find? id).map (·.amountTotal) = some total
  rw [Table.find?_set]
  by_cases hid : row.id = id
  · subst hid
    have htotal : row.amountTotal = total := Option.some.inj (hrow.symm.trans h)
    rw [if_pos rfl]
    unfold HasTotal at h
    cases hfind : db.subscriptions.find? row.id with
    | none => simp [hfind] at h
    | some old => simp [htotal]
  · rw [if_neg hid]
    exact h

/-- Saving copies that have the totals of their rows changes no total. -/
theorem QuotaDB.hasTotal_saveAll {db : QuotaDB} {rows : List UserSubscription}
    (hrows : ∀ row ∈ rows, db.HasTotal row.id row.amountTotal) {id : Nat} {total : Int}
    (h : db.HasTotal id total) : (db.saveAll rows).HasTotal id total := by
  induction rows generalizing db with
  | nil => exact h
  | cons row rows ih =>
    have hrow : db.HasTotal row.id row.amountTotal := hrows row List.mem_cons_self
    rw [saveAll_cons]
    refine ih ?_ (hasTotal_save hrow h)
    intro r hr
    exact hasTotal_save hrow (hrows r (List.mem_cons_of_mem row hr))

theorem QuotaDB.amountUsed_save {db : QuotaDB} {row : UserSubscription}
    (hrow : db.HasTotal row.id row.amountTotal) (id : Nat) :
    (db.saveAll [row]).amountUsed id = if row.id = id then row.amountUsed else db.amountUsed id := by
  show (((db.subscriptions.set row).find? id).map (·.amountUsed)).getD 0 = _
  rw [Table.find?_set]
  by_cases hid : row.id = id
  · subst hid
    unfold HasTotal at hrow
    cases hfind : db.subscriptions.find? row.id with
    | none => simp [hfind] at hrow
    | some old => simp
  · rw [if_neg hid, if_neg hid]
    rfl

/-- Saving copies that are current changes no amount. -/
theorem QuotaDB.amountUsed_saveAll {db : QuotaDB} {rows : List UserSubscription}
    (hrows : ∀ row ∈ rows, db.HasTotal row.id row.amountTotal)
    (hused : ∀ row ∈ rows, row.amountUsed = db.amountUsed row.id) (id : Nat) :
    (db.saveAll rows).amountUsed id = db.amountUsed id := by
  induction rows generalizing db with
  | nil => rfl
  | cons row rows ih =>
    have hrow : db.HasTotal row.id row.amountTotal := hrows row List.mem_cons_self
    have hone : ∀ i, (db.saveAll [row]).amountUsed i = db.amountUsed i := by
      intro i
      rw [amountUsed_save hrow]
      by_cases hi : row.id = i
      · rw [if_pos hi, ← hi]
        exact hused row List.mem_cons_self
      · rw [if_neg hi]
    rw [saveAll_cons, ih, hone]
    · intro r hr
      exact hasTotal_save hrow (hrows r (List.mem_cons_of_mem row hr))
    · intro r hr
      rw [hone]
      exact hused r (List.mem_cons_of_mem row hr)

/-! ## The invariant of a run -/

/-- The tables are bounded, and so are the copies that transactions hold; a copy has the
    total of its row. -/
structure SubSystem.Inv (s : SubSystem) : Prop where
  bounded : s.db.BoundedUsage
  copies : ∀ p ∈ s.procs.rows, ∀ copy ∈ p.stage.subs,
    copy.Bounded ∧ s.db.HasTotal copy.id copy.amountTotal

/-- Before any transaction has begun. -/
def SubSystem.init (db : QuotaDB) : SubSystem := ⟨db, Table.empty, fun _ => []⟩

theorem SubSystem.init_inv {db : QuotaDB} (h : db.BoundedUsage) : (init db).Inv :=
  ⟨h, fun _ hp => by simp [init] at hp⟩

/-- No reset falls on a row that a commit holds. -/
def SubSystem.NoReset (s : SubSystem) : SubEvent → Prop
  | .commit pid => ∀ p ∈ s.procs.find? pid, p.resetFalls = false
  | _ => True

/-- The rows that a commit saves have not changed their amount since they were read. -/
def SubSystem.SavesCurrent (s : SubSystem) : SubEvent → Prop
  | .commit pid => ∀ p ∈ s.procs.find? pid, ∀ copy ∈ p.stage.subs,
      (∃ row ∈ (p.commit s.db).saved, row.id = copy.id) →
        s.db.amountUsed copy.id = copy.amountUsed
  | _ => True

instance (s : SubSystem) : DecidablePred s.NoReset
  | .start _ _ => inferInstanceAs (Decidable True)
  | .read _ => inferInstanceAs (Decidable True)
  | .abort _ => inferInstanceAs (Decidable True)
  | .commit pid =>
    inferInstanceAs (Decidable (∀ p ∈ s.procs.find? pid, p.resetFalls = false))

instance (s : SubSystem) : DecidablePred s.SavesCurrent
  | .start _ _ => inferInstanceAs (Decidable True)
  | .read _ => inferInstanceAs (Decidable True)
  | .abort _ => inferInstanceAs (Decidable True)
  | .commit pid =>
    inferInstanceAs (Decidable (∀ p ∈ s.procs.find? pid, ∀ copy ∈ p.stage.subs,
      (∃ row ∈ (p.commit s.db).saved, row.id = copy.id) →
        s.db.amountUsed copy.id = copy.amountUsed))

/-- The amounts used are the ones of `db` with every committed delta added in turn,
    clamped at zero. -/
def SubSystem.UsageExact (db : QuotaDB) (s : SubSystem) : Prop :=
  ∀ id, s.db.amountUsed id =
    (s.deltas id).foldl (fun used delta => max 0 (used + delta)) (db.amountUsed id)

/-- A process moves to a stage whose copies are in order. -/
theorem SubSystem.Inv.set_proc {s : SubSystem} (hs : s.Inv) {p : SubProc} {stage : SubStage}
    (hstage : ∀ copy ∈ stage.subs, copy.Bounded ∧ s.db.HasTotal copy.id copy.amountTotal) :
    ({ s with procs := s.procs.set { p with stage := stage } } : SubSystem).Inv := by
  refine ⟨hs.bounded, ?_⟩
  intro q hq copy hcopy
  cases Table.mem_set hq with
  | inl heq =>
    subst heq
    exact hstage copy hcopy
  | inr hold => exact hs.copies q hold.1 copy hcopy

/-- The rows a commit saves are bounded and have the totals of their rows. -/
theorem SubProc.Committed.Writes.saved_ok {db : QuotaDB} {subs : List UserSubscription}
    {c : SubProc.Committed} (h : c.Writes subs)
    (hsubs : ∀ copy ∈ subs, copy.Bounded ∧ db.HasTotal copy.id copy.amountTotal)
    {row : UserSubscription} (hrow : row ∈ c.saved) :
    row.Bounded ∧ db.HasTotal row.id row.amountTotal := by
  -- a copy saved as it was read
  have hsame : ∀ r copy : UserSubscription, copy ∈ subs → r.SameUse copy →
      r.Bounded ∧ db.HasTotal r.id r.amountTotal := by
    intro r copy hcopy hr
    obtain ⟨hbounded, htotal⟩ := hsubs copy hcopy
    rw [hr.id, hr.amountTotal]
    refine ⟨?_, htotal⟩
    unfold UserSubscription.Bounded at hbounded ⊢
    rwa [hr.amountTotal, hr.amountUsed]
  obtain ⟨kept, hkept, ⟨hsaved, -⟩ | ⟨last, delta, hsaved, -, copy, hcopy, hlast⟩⟩ := h.saved
  · rw [hsaved] at hrow
    obtain ⟨copy, hcopy, hr⟩ := hkept row hrow
    exact hsame row copy hcopy hr
  · rw [hsaved, List.mem_append, List.mem_singleton] at hrow
    cases hrow with
    | inl hrow =>
      obtain ⟨copy, hcopy, hr⟩ := hkept row hrow
      exact hsame row copy hcopy hr
    | inr hrow =>
      subst hrow
      refine ⟨hlast.bounded, ?_⟩
      rw [hlast.id, hlast.amountTotal]
      exact (hsubs copy hcopy).2

/-- A commit without a reset keeps the invariant. -/
theorem SubSystem.Inv.commit {s : SubSystem} (hs : s.Inv) {p : SubProc} (hp : p ∈ s.procs.rows)
    (hno : p.resetFalls = false) (deltas : Nat → List Int) :
    (⟨{ s.db.saveAll (p.commit s.db).saved with records := (p.commit s.db).records },
      s.procs.set { p with stage := (p.commit s.db).stage }, deltas⟩ : SubSystem).Inv := by
  have hwrites := SubProc.commit_writes s.db hno
  have hsaved : ∀ row ∈ (p.commit s.db).saved,
      row.Bounded ∧ s.db.HasTotal row.id row.amountTotal := fun row hrow =>
    hwrites.saved_ok (hs.copies p hp) hrow
  have htotal : ∀ copy : UserSubscription, s.db.HasTotal copy.id copy.amountTotal →
      (s.db.saveAll (p.commit s.db).saved).HasTotal copy.id copy.amountTotal := fun copy h =>
    QuotaDB.hasTotal_saveAll (fun row hrow => (hsaved row hrow).2) h
  constructor
  · intro sub hsub
    cases QuotaDB.mem_saveAll hsub with
    | inl hrow => exact (hsaved sub hrow).1
    | inr hold => exact hs.bounded sub hold
  · intro q hq copy hcopy
    cases Table.mem_set hq with
    | inl heq =>
      subst heq
      obtain ⟨hbounded, h⟩ := hs.copies p hp copy (hwrites.stage copy hcopy)
      exact ⟨hbounded, htotal copy h⟩
    | inr hold =>
      obtain ⟨hbounded, h⟩ := hs.copies q hold.1 copy hcopy
      exact ⟨hbounded, htotal copy h⟩

/-- One step keeps the invariant. -/
theorem SubSystem.step_inv (s : SubSystem) (e : SubEvent) (hs : s.Inv) (hno : s.NoReset e) :
    (s.step e).Inv := by
  cases e with
  | start pid op =>
    refine ⟨hs.bounded, ?_⟩
    intro p hp copy hcopy
    cases Table.mem_of_mem_insert hp with
    | inl hold => exact hs.copies p hold copy hcopy
    | inr heq =>
      subst heq
      simp [SubStage.subs] at hcopy
  | read pid =>
    dsimp only [step]
    cases hfind : s.procs.find? pid with
    | none => exact hs
    | some p =>
      refine hs.set_proc ?_
      intro copy hcopy
      cases SubProc.read_subs hcopy with
      | inl hheld => exact hs.copies p (Table.find?_mem hfind) copy hheld
      | inr hrow => exact ⟨hs.bounded copy hrow, QuotaDB.hasTotal_of_mem hrow⟩
  | commit pid =>
    dsimp only [step]
    cases hfind : s.procs.find? pid with
    | none => exact hs
    | some p => exact hs.commit (Table.find?_mem hfind) (hno p (by simp [hfind])) _
  | abort pid =>
    dsimp only [step]
    cases hfind : s.procs.find? pid with
    | none => exact hs
    | some p => exact hs.set_proc (by simp [SubStage.subs])

/-! ## The amounts -/

/-- A commit of current copies adds its delta and changes no other amount. -/
theorem SubProc.Committed.Writes.amountUsed {db : QuotaDB} {subs : List UserSubscription}
    {c : SubProc.Committed} (h : c.Writes subs)
    (hsubs : ∀ copy ∈ subs, copy.Bounded ∧ db.HasTotal copy.id copy.amountTotal)
    (hcurrent : ∀ copy ∈ subs, (∃ row ∈ c.saved, row.id = copy.id) →
      db.amountUsed copy.id = copy.amountUsed) (id : Nat) :
    (db.saveAll c.saved).amountUsed id =
      match c.delta with
      | none => db.amountUsed id
      | some (target, delta) =>
        if target = id then max 0 (db.amountUsed id + delta) else db.amountUsed id := by
  obtain ⟨kept, hkept, hcases⟩ := h.saved
  -- the copies saved as they were read change nothing
  have hkeep : (∀ row ∈ kept, row ∈ c.saved) → ∀ i,
      (db.saveAll kept).amountUsed i = db.amountUsed i := by
    intro hsub i
    refine QuotaDB.amountUsed_saveAll (fun row hrow => (h.saved_ok hsubs (hsub row hrow)).2) ?_ i
    intro row hrow
    obtain ⟨copy, hcopy, hr⟩ := hkept row hrow
    rw [hr.amountUsed, hr.id]
    exact (hcurrent copy hcopy ⟨row, hsub row hrow, hr.id⟩).symm
  cases hcases with
  | inl hnone =>
    obtain ⟨hsaved, hdelta⟩ := hnone
    rw [hdelta, hsaved]
    exact hkeep (fun row hrow => hsaved ▸ hrow) id
  | inr hsome =>
    obtain ⟨last, delta, hsaved, hdelta, copy, hcopy, hlast⟩ := hsome
    have hmem : last ∈ c.saved := by simp [hsaved]
    have hsub : ∀ row ∈ kept, row ∈ c.saved := fun row hrow => by simp [hsaved, hrow]
    have htotal : (db.saveAll kept).HasTotal last.id last.amountTotal :=
      QuotaDB.hasTotal_saveAll (fun row hrow => (h.saved_ok hsubs (hsub row hrow)).2)
        (h.saved_ok hsubs hmem).2
    rw [hdelta, hsaved, QuotaDB.saveAll_append, QuotaDB.amountUsed_save htotal, hkeep hsub]
    by_cases hid : last.id = id
    · have hcopyid : copy.id = id := hlast.id.symm.trans hid
      have hused := hcurrent copy hcopy ⟨last, hmem, hlast.id⟩
      rw [hcopyid] at hused
      simp only [if_pos hid]
      rw [hused, hlast.amountUsed]
    · simp only [if_neg hid]

/-- A step whose saves are current keeps the amounts exact. -/
theorem SubSystem.step_usageExact {db : QuotaDB} (s : SubSystem) (e : SubEvent) (hs : s.Inv)
    (hno : s.NoReset e) (hcurrent : s.SavesCurrent e) (h : s.UsageExact db) :
    (s.step e).UsageExact db := by
  cases e with
  | start pid op => exact h
  | read pid =>
    dsimp only [step]
    cases s.procs.find? pid with
    | none => exact h
    | some p => exact h
  | abort pid =>
    dsimp only [step]
    cases s.procs.find? pid with
    | none => exact h
    | some p => exact h
  | commit pid =>
    dsimp only [step]
    cases hfind : s.procs.find? pid with
    | none => exact h
    | some p =>
      have hp : p ∈ s.procs.find? pid := by simp [hfind]
      intro id
      have hused := (SubProc.commit_writes s.db (hno p hp)).amountUsed
        (hs.copies p (Table.find?_mem hfind)) (hcurrent p hp) id
      show (s.db.saveAll (p.commit s.db).saved).amountUsed id =
        (recordDelta s.deltas (p.commit s.db).delta id).foldl _ _
      rw [hused]
      cases (p.commit s.db).delta with
      | none => exact h id
      | some entry =>
        obtain ⟨target, delta⟩ := entry
        by_cases hid : target = id
        · subst hid
          simp [recordDelta, List.foldl_append, h target]
        · have hne : id ≠ target := fun heq => hid heq.symm
          simp only [if_neg hid, recordDelta, Function.update_of_ne hne]
          exact h id

/-! ## Alone -/

/-- A settlement that nothing interrupts is `PostConsumeUserSubscriptionDelta`. -/
theorem postConsume_uninterrupted (db : QuotaDB) (id : Nat) (delta : Int) :
    (Run.run SubSystem.step (SubSystem.init db)
        [.start 0 (.postConsume id delta), .read 0, .commit 0]).db =
      ((db.postConsumeUserSubscriptionDelta id delta).toOption).getD db := by
  have hstart : (Table.empty.insert { pid := 0, op := .postConsume id delta } :
      Table SubProc (·.pid)).find? 0 = some { pid := 0, op := .postConsume id delta } := rfl
  have hread : ∀ stage, ((Table.empty.insert { pid := 0, op := .postConsume id delta } :
      Table SubProc (·.pid)).set { pid := 0, op := .postConsume id delta, stage := stage }).find? 0
        = some { pid := 0, op := .postConsume id delta, stage := stage } := fun stage => rfl
  simp only [Run.run_cons, Run.run_nil, SubSystem.step, SubSystem.init, hstart, hread]
  dsimp only [SubProc.read]
  unfold QuotaDB.postConsumeUserSubscriptionDelta
  by_cases hid : id = 0
  · simp only [if_pos (Or.inl hid), if_pos hid]
    rfl
  · by_cases hdelta : delta = 0
    · simp only [if_pos (Or.inr hdelta), if_neg hid, if_pos hdelta]
      rfl
    · rw [if_neg (not_or.mpr ⟨hid, hdelta⟩), if_neg hid, if_neg hdelta]
      cases hfind : db.subscriptions.find? id with
      | none => rfl
      | some sub =>
        dsimp only [SubProc.commit, SubProc.commitDelta]
        split
        · rfl
        · rfl

/-! ## Runs -/

/-- In every run in which no reset falls, the amount used stays within a positive total.
    If moreover every commit saves rows that are still current, the amount used is the
    initial one with each committed delta added, clamped at zero. -/
theorem usage_exact_of_current_reads (db : QuotaDB) (hdb : db.BoundedUsage) (es : List SubEvent)
    (hno : Run.Steps SubSystem.step SubSystem.NoReset (SubSystem.init db) es) :
    Run.Always SubSystem.step (fun s => s.db.BoundedUsage) (SubSystem.init db) es ∧
      (Run.Steps SubSystem.step SubSystem.SavesCurrent (SubSystem.init db) es →
        Run.Always SubSystem.step (SubSystem.UsageExact db) (SubSystem.init db) es) := by
  have hinit := SubSystem.init_inv hdb
  have hinv : Run.Always SubSystem.step SubSystem.Inv (SubSystem.init db) es :=
    Run.always_of_steps SubSystem.step_inv hinit hno
  refine ⟨hinv.mono fun s hs => hs.bounded, ?_⟩
  intro hcurrent
  have hexact : (SubSystem.init db).UsageExact db := fun id => rfl
  -- both conditions are carried along the run together with the invariant
  have hboth : Run.Always SubSystem.step (fun s => s.Inv ∧ s.UsageExact db)
      (SubSystem.init db) es := by
    refine Run.always_of_steps (C := fun s e => s.NoReset e ∧ s.SavesCurrent e) ?_
      ⟨hinit, hexact⟩ (hno.and hcurrent)
    intro s e hs hc
    exact ⟨SubSystem.step_inv s e hs.1 hc.1, SubSystem.step_usageExact s e hs.1 hc.1 hc.2 hs.2⟩
  exact hboth.mono fun s hs => hs.2

/-- A subscription of 100 with 35 used, 30 of them by request `a`. -/
def oneSubscription : QuotaDB :=
  { users := .empty
    tokens := .empty
    subscriptions := Table.empty.insert
      { id := 1, userId := 7, amountTotal := 100, amountUsed := 35, endTime := 1000
        id_pos := Nat.one_pos }
    records := Table.empty.insert
      { requestId := "a", userId := 7, userSubscriptionId := 1, preConsumed := 30 } }

/-- A refund that overlaps with a settlement, but reads the row after its commit. -/
theorem usage_exact_settlement_and_refund :
    Run.Always SubSystem.step (SubSystem.UsageExact oneSubscription)
      (SubSystem.init oneSubscription)
      [.start 1 (.postConsume 1 20), .start 2 (.refund "a"), .read 2, .read 1, .commit 1,
        .read 2, .commit 2, .commit 2] :=
  (usage_exact_of_current_reads oneSubscription (by unfold QuotaDB.BoundedUsage; decide) _
    (by decide)).2 (by decide)

/-- Two settlements of 10 that both read 35 used: both are committed, one is lost. -/
theorem concurrent_delta_lost :
    ∃ es : List SubEvent,
      es = [.start 1 (.postConsume 1 10), .start 2 (.postConsume 1 10), .read 1, .read 2,
        .commit 1, .commit 2] ∧
      Run.Steps SubSystem.step SubSystem.NoReset (SubSystem.init oneSubscription) es ∧
      (Run.run SubSystem.step (SubSystem.init oneSubscription) es).deltas 1 = [10, 10] ∧
      (Run.run SubSystem.step (SubSystem.init oneSubscription) es).db.amountUsed 1 = 45 ∧
      ¬ (Run.run SubSystem.step (SubSystem.init oneSubscription) es).UsageExact
        oneSubscription := by
  refine ⟨_, rfl, by decide, by decide, by decide, ?_⟩
  intro hexact
  have hused := hexact 1
  revert hused
  decide

end TokenRouter
