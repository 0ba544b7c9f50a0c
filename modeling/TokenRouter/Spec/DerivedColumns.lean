import TokenRouter.Model.SupplyPrepaidLot

/-!
# Derived columns of capacities and prepaid lots

A row is exact if its derived columns follow from the others. Every writer but a refresh
writes both sides at once. A refresh derives its columns from the copy it listed, so a row
stays exact exactly when the column it subtracts from has not changed since.

## Key results

- `capacity_exact_iff`, `prepaidLot_exact_iff`: whole runs
- `derived_columns`: both, and what a second refresh changes
-/

namespace TokenRouter

open RefreshRace

/-- Headroom and utilization as `normalize` computes them. -/
def SupplyCapacity.Exact (c : SupplyCapacity) : Prop :=
  c.headroomTokens = c.capacityTokens - c.usedTokens ∧
    c.utilizationRate = tokenRate c.usedTokens c.capacityTokens

/-- Remaining tokens and drawdown rate as `normalize` computes them. -/
def SupplyPrepaidLot.Exact (l : SupplyPrepaidLot) : Prop :=
  l.remainingTokens = l.purchasedTokens - l.drawdownTokens ∧
    l.drawdownRate = tokenRate l.drawdownTokens l.purchasedTokens

instance (c : SupplyCapacity) : Decidable c.Exact := inferInstanceAs (Decidable (_ ∧ _))

instance (l : SupplyPrepaidLot) : Decidable l.Exact := inferInstanceAs (Decidable (_ ∧ _))

/-- Nothing stored and nothing under way. -/
def emptyState {ρ π σ : Type} {key : ρ → Nat} (ledgers : List UsageLedger) :
    State ρ π (List UsageLedger) σ key :=
  ⟨.empty, ledgers, [], []⟩

/-! ### Capacities -/

theorem SupplyCapacity.exact_normalize (c : SupplyCapacity) : c.normalize.Exact := ⟨rfl, rfl⟩

theorem exact_createCapacity {rows : SupplyCapacities} (h : ∀ r ∈ rows.rows, r.Exact)
    {c : SupplyCapacity} (hc : c.Exact) : ∀ r ∈ (createCapacity rows c).rows, r.Exact := by
  intro r hr
  unfold createCapacity at hr
  rcases Table.mem_of_mem_insert hr with hr | rfl
  · exact h r hr
  · split <;> exact hc

/-- Every other writer leaves exact rows. -/
theorem exact_applyCapacity (w : CapacityWrite) {rows : SupplyCapacities}
    (h : ∀ r ∈ rows.rows, r.Exact) : ∀ r ∈ (applyCapacity w rows).rows, r.Exact := by
  cases w with
  | insert c => exact exact_createCapacity h c.exact_normalize
  | update c =>
    intro r hr
    rcases Table.mem_of_mem_upsert hr with rfl | hr
    · exact c.exact_normalize
    · exact h r hr
  | delete id =>
    intro r hr
    exact h r (Table.mem_erase.mp hr).1
  | telemetry t existing =>
    have hc : (capacityFromTelemetry t existing).Exact := SupplyCapacity.exact_normalize _
    simp only [applyCapacity]
    split
    · exact exact_createCapacity h hc
    · intro r hr
      rcases Table.mem_update hr with hr | ⟨r₀, -, rfl⟩
      · exact h r hr
      · exact hc

/-- A refresh leaves an exact row exactly if its copy has the row's capacity. -/
theorem exact_refreshSupplyCapacity_iff (copy : SupplyCapacity) (used : Int)
    (row : SupplyCapacity) :
    (refreshSupplyCapacity copy used row).Exact ↔ copy.capacityTokens = row.capacityTokens := by
  constructor
  · intro h
    have hhead : copy.capacityTokens - used = row.capacityTokens - used := h.1
    omega
  · intro h
    refine ⟨?_, ?_⟩
    · show copy.capacityTokens - used = row.capacityTokens - used
      rw [h]
    · show tokenRate used copy.capacityTokens = tokenRate used row.capacityTokens
      rw [h]

theorem capacity_exact_iff (ledgers : List UsageLedger)
    (es : List (Event CapacityWriter (List UsageLedger) SupplyCapacityUsageRefreshInput)) :
    Run.Always capacityRace.step (AllExact SupplyCapacity.Exact) (emptyState ledgers) es ↔
      Run.Steps capacityRace.step
        (Fresh fun copy row => copy.capacityTokens = row.capacityTokens) (emptyState ledgers) es :=
  always_exact_iff (fun _ c a r _ => exact_refreshSupplyCapacity_iff c a r)
    (fun w _ h => exact_applyCapacity w h) (fun _ hr => absurd hr List.not_mem_nil) es

/-! ### Prepaid lots -/

theorem SupplyPrepaidLot.Exact.fillKey {l : SupplyPrepaidLot} (h : l.Exact) : l.fillKey.Exact := by
  unfold SupplyPrepaidLot.fillKey
  split <;> exact h

theorem SupplyPrepaidLot.exact_normalize (l : SupplyPrepaidLot) : l.normalize.Exact := by
  have h : l.normalizeColumns.Exact := ⟨rfl, rfl⟩
  exact h.fillKey

theorem SupplyPrepaidLot.Exact.withUpdatedAt {l : SupplyPrepaidLot} (h : l.Exact) (now : Int) :
    (l.withUpdatedAt now).Exact := ⟨h.1, h.2⟩

theorem SupplyPrepaidLot.Exact.withId {l : SupplyPrepaidLot} (h : l.Exact) (id : Nat) :
    (l.withId id).Exact := ⟨h.1, h.2⟩

/-- Whatever row a record has read, it writes an exact one. -/
theorem exact_recordedLot (l : SupplyPrepaidLot) (existing : Option SupplyPrepaidLot) (now : Int) :
    (recordedLot l.normalize existing now).Exact := by
  cases existing with
  | none => exact l.exact_normalize.withUpdatedAt now
  | some e => exact (SupplyPrepaidLot.exact_normalize _).withUpdatedAt now

theorem exact_applyPrepaidLot (w : PrepaidLotWrite) {rows : SupplyPrepaidLots}
    (h : ∀ r ∈ rows.rows, r.Exact) : ∀ r ∈ (applyPrepaidLot w rows).rows, r.Exact := by
  have hlot := exact_recordedLot w.input w.existing w.now
  intro r hr
  simp only [applyPrepaidLot] at hr
  rcases Table.mem_of_mem_upsertOn hr with hr | ⟨r₀, -, rfl⟩ | rfl
  · exact h r hr
  · exact hlot.withId _
  · exact hlot.withId _

/-- A refresh leaves an exact row exactly if its copy has the row's purchased tokens. -/
theorem exact_refreshSupplyPrepaidLot_iff (now : Int) (copy : SupplyPrepaidLot)
    (drawdown : SupplyPrepaidLotUsageDrawdown) (row : SupplyPrepaidLot) :
    (refreshSupplyPrepaidLot now copy drawdown row).Exact ↔
      copy.purchasedTokens = row.purchasedTokens := by
  constructor
  · intro h
    have hrem : copy.purchasedTokens - drawdown.usedTokens =
        row.purchasedTokens - drawdown.usedTokens := h.1
    omega
  · intro h
    refine ⟨?_, ?_⟩
    · show copy.purchasedTokens - drawdown.usedTokens = row.purchasedTokens - drawdown.usedTokens
      rw [h]
    · show tokenRate drawdown.usedTokens copy.purchasedTokens =
        tokenRate drawdown.usedTokens row.purchasedTokens
      rw [h]

theorem prepaidLot_exact_iff (ledgers : List UsageLedger)
    (es : List (Event PrepaidLotRecord (List UsageLedger) SupplyPrepaidLotUsageRefreshInput)) :
    Run.Always prepaidLotRace.step (AllExact SupplyPrepaidLot.Exact) (emptyState ledgers) es ↔
      Run.Steps prepaidLotRace.step
        (Fresh fun copy row => copy.purchasedTokens = row.purchasedTokens)
        (emptyState ledgers) es :=
  always_exact_iff (fun now c a r _ => exact_refreshSupplyPrepaidLot_iff now c a r)
    (fun w _ h => exact_applyPrepaidLot w h) (fun _ hr => absurd hr List.not_mem_nil) es

/-! ### A second refresh -/

/-- A lot without the two times that a refresh stamps. -/
def SupplyPrepaidLot.unstamped (l : SupplyPrepaidLot) : SupplyPrepaidLot :=
  { l with drawdownRefreshedAt := 0, updatedAt := 0 }

theorem capacity_refresh_twice (s : State SupplyCapacity CapacityWrite (List UsageLedger) Int (·.id))
    (input : SupplyCapacityUsageRefreshInput) (now now' : Int) (id : Nat) :
    let s₁ := Run.run capacityRace.step s (capacityRace.aloneSteps s input now)
    (Run.run capacityRace.step s₁ (capacityRace.aloneSteps s₁ input now')).rows.find? id =
      s₁.rows.find? id := by
  have htwice := find?_run_twice (M := capacityRace) (fun _ _ _ _ _ => rfl) (fun _ _ _ _ => rfl)
    (fun _ _ _ _ => rfl) s input now now' id
  simp only at htwice ⊢
  rw [htwice, (run_aloneSteps s input now).1, (run_aloneSteps s input now').1]
  -- a capacity keeps no time of its refresh here
  rfl

theorem prepaidLot_refresh_twice
    (s : State SupplyPrepaidLot PrepaidLotWrite (List UsageLedger) SupplyPrepaidLotUsageDrawdown
      (·.id))
    (input : SupplyPrepaidLotUsageRefreshInput) (now now' : Int) (id : Nat) :
    let s₁ := Run.run prepaidLotRace.step s (prepaidLotRace.aloneSteps s input now)
    ((Run.run prepaidLotRace.step s₁ (prepaidLotRace.aloneSteps s₁ input now')).rows.find? id).map
        (·.unstamped) =
      (s₁.rows.find? id).map (·.unstamped) := by
  have htwice := find?_run_twice (M := prepaidLotRace) (fun _ _ _ _ _ => rfl) (fun _ _ _ _ => rfl)
    (fun _ _ _ _ => rfl) s input now now' id
  simp only at htwice ⊢
  rw [htwice, (run_aloneSteps s input now).1, (run_aloneSteps s input now').1, find?_refresh,
    find?_refresh, Option.map_map, Option.map_map]
  congr 1
  funext lot
  simp only [Function.comp_apply]
  split <;> rfl

/-- From an empty database, over every interleaving of the reads and writes: headroom and
utilization stay exact exactly when no refresh writes over a row whose capacity has changed
since it was listed, and remaining tokens and drawdown rate, with no floor at 0, exactly when
none writes over a lot whose purchased tokens have. A second refresh over the same ledgers
changes no column but the times of the refresh. -/
theorem derived_columns :
    (∀ ledgers es, Run.Always capacityRace.step (AllExact SupplyCapacity.Exact)
        (emptyState ledgers) es ↔
      Run.Steps capacityRace.step
        (Fresh fun copy row => copy.capacityTokens = row.capacityTokens) (emptyState ledgers) es) ∧
    (∀ ledgers es, Run.Always prepaidLotRace.step (AllExact SupplyPrepaidLot.Exact)
        (emptyState ledgers) es ↔
      Run.Steps prepaidLotRace.step
        (Fresh fun copy row => copy.purchasedTokens = row.purchasedTokens)
        (emptyState ledgers) es) ∧
    (∀ (s : State SupplyCapacity CapacityWrite (List UsageLedger) Int (·.id)) input now now' id,
      let s₁ := Run.run capacityRace.step s (capacityRace.aloneSteps s input now)
      (Run.run capacityRace.step s₁ (capacityRace.aloneSteps s₁ input now')).rows.find? id =
        s₁.rows.find? id) ∧
    (∀ (s : State SupplyPrepaidLot PrepaidLotWrite (List UsageLedger)
        SupplyPrepaidLotUsageDrawdown (·.id)) input now now' id,
      let s₁ := Run.run prepaidLotRace.step s (prepaidLotRace.aloneSteps s input now)
      ((Run.run prepaidLotRace.step s₁
          (prepaidLotRace.aloneSteps s₁ input now')).rows.find? id).map (·.unstamped) =
        (s₁.rows.find? id).map (·.unstamped)) :=
  ⟨capacity_exact_iff, prepaidLot_exact_iff, capacity_refresh_twice, prepaidLot_refresh_twice⟩

/-- Capacity 100, listed by a refresh, becomes 200 before the refresh writes: the headroom
says 100. -/
def staleRefresh :
    List (Event CapacityWriter (List UsageLedger) SupplyCapacityUsageRefreshInput) :=
  let snapshot : SupplyCapacity :=
    { supplierId := 1, periodStart := 1, periodEnd := 9, capacityTokens := 100 }
  let report : SupplyCapacityTelemetry :=
    { supplierId := 1
      periodStart := 1
      periodEnd := 9
      capacityTokens := 200
      sourceRef := "n"
      observedAt := 4 }
  [.read (.insert snapshot), .apply 0, .list {} 5, .read (.telemetry report), .apply 0, .query 0,
    .write 0]

/-- A lot of 10 tokens of which a ledger draws 30, refreshed twice. -/
def overdrawnLot :
    List (Event PrepaidLotRecord (List UsageLedger) SupplyPrepaidLotUsageRefreshInput) :=
  let lot : SupplyPrepaidLot :=
    { prepaidLotKey := "k"
      supplierId := 1
      periodStart := 1
      periodEnd := 9
      purchasedTokens := 10
      sourceRef := "n"
      observedAt := 4 }
  [.read ⟨lot, true, 4⟩, .apply 0, .list {} 5, .query 0, .write 0, .list {} 6, .query 1, .write 1]

/-- The headroom misses the new capacity; the remaining tokens are negative, not 0; and the
second refresh changes the time of the refresh. -/
theorem headroom_stale_and_remaining_negative :
    ¬ Run.Always capacityRace.step (AllExact SupplyCapacity.Exact) (emptyState []) staleRefresh ∧
      ((Run.run prepaidLotRace.step
          (emptyState [{ requestId := "r", supplierId := 1, promptTokens := 30, createdAt := 3 }])
          (overdrawnLot.take 5)).rows.find? 1).map
        (fun l => (l.remainingTokens, l.drawdownRefreshedAt)) = some (-20, 5) ∧
      ((Run.run prepaidLotRace.step
          (emptyState [{ requestId := "r", supplierId := 1, promptTokens := 30, createdAt := 3 }])
          overdrawnLot).rows.find? 1).map
        (fun l => (l.remainingTokens, l.drawdownRefreshedAt)) = some (-20, 6) := by
  refine ⟨?_, by decide +kernel, by decide +kernel⟩
  intro h
  have hlast := h.last
  revert hlast
  show ¬ ∀ r ∈ (Run.run capacityRace.step (emptyState []) staleRefresh).rows.rows, r.Exact
  decide

end TokenRouter
