import TokenRouter.Model.BatchUpdate
import TokenRouter.ForStd.Run

/-!
# Batched accounting refines immediate accounting

A delta that was handed over is in exactly one place: in a store, in the snapshot of a run
that has not written it yet, or in the database. `Adds` says how two databases differ, by
type and id, and the invariant says that the database differs from the initial one by the
recorded deltas without those that are still held.

## Key results

- `BatchSystem.step_conserved`: one lock section or row write keeps the sum
- `batched_refines_immediate`: conservation in every run, and the database after a final run
  of `batchUpdate`
-/

namespace TokenRouter

/-! ## Columns -/

/-- The accounting columns. -/
inductive Column where
  | quota
  | usedQuota
  | requestCount
  | tokenRemainQuota
  | tokenUsedQuota
  | channelUsedQuota
  deriving DecidableEq

/-- The type of the deltas that go to a column. -/
def Column.type : Column → BatchUpdateType
  | .quota => .userQuota
  | .usedQuota => .usedQuota
  | .requestCount => .requestCount
  | .tokenRemainQuota => .tokenQuota
  | .tokenUsedQuota => .tokenQuota
  | .channelUsedQuota => .channelUsedQuota

/-- A token's delta goes to two columns, with opposite signs. -/
def Column.sign : Column → Int
  | .tokenUsedQuota => -1
  | _ => 1

/-- The value of a column, if the row exists. -/
def AccountDB.column (db : AccountDB) (id : Int) : Column → Option Int
  | .quota => (db.users.find? id).map (·.quota)
  | .usedQuota => (db.users.find? id).map (·.usedQuota)
  | .requestCount => (db.users.find? id).map (·.requestCount)
  | .tokenRemainQuota => (db.tokens.find? id).map (·.remainQuota)
  | .tokenUsedQuota => (db.tokens.find? id).map (·.usedQuota)
  | .channelUsedQuota => (db.channels.find? id).map (·.usedQuota)

@[simp] theorem Column.type_quota : Column.quota.type = .userQuota := rfl
@[simp] theorem Column.type_usedQuota : Column.usedQuota.type = .usedQuota := rfl
@[simp] theorem Column.type_requestCount : Column.requestCount.type = .requestCount := rfl
@[simp] theorem Column.type_tokenRemainQuota : Column.tokenRemainQuota.type = .tokenQuota := rfl
@[simp] theorem Column.type_tokenUsedQuota : Column.tokenUsedQuota.type = .tokenQuota := rfl
@[simp] theorem Column.type_channelUsedQuota :
    Column.channelUsedQuota.type = .channelUsedQuota := rfl

@[simp] theorem Column.sign_quota : Column.quota.sign = 1 := rfl
@[simp] theorem Column.sign_usedQuota : Column.usedQuota.sign = 1 := rfl
@[simp] theorem Column.sign_requestCount : Column.requestCount.sign = 1 := rfl
@[simp] theorem Column.sign_tokenRemainQuota : Column.tokenRemainQuota.sign = 1 := rfl
@[simp] theorem Column.sign_tokenUsedQuota : Column.tokenUsedQuota.sign = -1 := rfl
@[simp] theorem Column.sign_channelUsedQuota : Column.channelUsedQuota.sign = 1 := rfl

section
variable (db : AccountDB) (id : Int)

@[simp] theorem AccountDB.column_quota :
    db.column id .quota = (db.users.find? id).map (·.quota) := rfl

@[simp] theorem AccountDB.column_usedQuota :
    db.column id .usedQuota = (db.users.find? id).map (·.usedQuota) := rfl

@[simp] theorem AccountDB.column_requestCount :
    db.column id .requestCount = (db.users.find? id).map (·.requestCount) := rfl

@[simp] theorem AccountDB.column_tokenRemainQuota :
    db.column id .tokenRemainQuota = (db.tokens.find? id).map (·.remainQuota) := rfl

@[simp] theorem AccountDB.column_tokenUsedQuota :
    db.column id .tokenUsedQuota = (db.tokens.find? id).map (·.usedQuota) := rfl

@[simp] theorem AccountDB.column_channelUsedQuota :
    db.column id .channelUsedQuota = (db.channels.find? id).map (·.usedQuota) := rfl

end

/-- Deltas by type and id. -/
abbrev Deltas := BatchUpdateType → Int → Int

/-- `db'` is `db` with the deltas added to the rows that exist. -/
def Adds (db db' : AccountDB) (delta : Deltas) : Prop :=
  ∀ c id, db'.column id c = (db.column id c).map (· + c.sign * delta c.type id)

theorem Adds.refl (db : AccountDB) : Adds db db 0 := by
  intro c id
  simp

theorem Adds.trans {db₁ db₂ db₃ : AccountDB} {δ₁ δ₂ : Deltas} (h₁ : Adds db₁ db₂ δ₁)
    (h₂ : Adds db₂ db₃ δ₂) : Adds db₁ db₃ (δ₁ + δ₂) := by
  intro c id
  rw [h₂ c id, h₁ c id, Option.map_map]
  congr 1
  funext v
  simp only [Function.comp_apply, Pi.add_apply]
  ring

theorem Adds.congr {db db' : AccountDB} {δ₁ δ₂ : Deltas} (h : Adds db db' δ₁)
    (hδ : ∀ t id, δ₁ t id = δ₂ t id) : Adds db db' δ₂ := by
  intro c id
  rw [h c id, hδ]

/-- The deltas of a write to one user. -/
def userDelta (id quota usedQuota requestCount : Int) : Deltas := fun t i =>
  if i = id then
    match t with
    | .userQuota => quota
    | .usedQuota => usedQuota
    | .requestCount => requestCount
    | _ => 0
  else 0

section
variable (id quota usedQuota requestCount i : Int)

@[simp] theorem userDelta_userQuota :
    userDelta id quota usedQuota requestCount .userQuota i = if i = id then quota else 0 := rfl

@[simp] theorem userDelta_usedQuota :
    userDelta id quota usedQuota requestCount .usedQuota i = if i = id then usedQuota else 0 := rfl

@[simp] theorem userDelta_requestCount :
    userDelta id quota usedQuota requestCount .requestCount i =
      if i = id then requestCount else 0 := rfl

@[simp] theorem userDelta_tokenQuota :
    userDelta id quota usedQuota requestCount .tokenQuota i = if i = id then 0 else 0 := rfl

@[simp] theorem userDelta_channelUsedQuota :
    userDelta id quota usedQuota requestCount .channelUsedQuota i = if i = id then 0 else 0 := rfl

end

/-- An update of one user adds to three columns. -/
theorem adds_users (db : AccountDB) (id quota usedQuota requestCount : Int) :
    Adds db { db with users := db.users.update id fun u =>
      { u with
        quota := u.quota + quota
        usedQuota := u.usedQuota + usedQuota
        requestCount := u.requestCount + requestCount } }
      (userDelta id quota usedQuota requestCount) := by
  intro c i
  have hfind := Table.find?_update db.users id i (f := fun u =>
    { u with
      quota := u.quota + quota
      usedQuota := u.usedQuota + usedQuota
      requestCount := u.requestCount + requestCount }) fun _ => rfl
  by_cases hi : id = i
  · subst hi
    rw [if_pos rfl] at hfind
    cases c <;> simp [hfind, Function.comp_def]
  · rw [if_neg hi] at hfind
    cases c <;> simp [hfind, Ne.symm hi, Function.comp_def]

theorem adds_updateUser (db : AccountDB) (id quota usedQuota requestCount : Int) :
    Adds db (db.updateUserQuotaUsedQuotaAndRequestCount id quota usedQuota requestCount)
      (userDelta id quota usedQuota requestCount) := by
  unfold AccountDB.updateUserQuotaUsedQuotaAndRequestCount
  split
  · next hzero =>
    obtain ⟨rfl, rfl, rfl⟩ := hzero
    refine (Adds.refl db).congr ?_
    intro t i
    cases t <;> simp
  · exact adds_users db id quota usedQuota requestCount

theorem adds_increaseUserQuota (db : AccountDB) (id quota : Int) :
    Adds db (db.increaseUserQuota id quota) (singleDelta .userQuota id quota) := by
  have h := adds_users db id quota 0 0
  simp only [add_zero] at h
  refine h.congr ?_
  intro t i
  cases t <;> simp [singleDelta_apply]

theorem adds_updateUserUsed (db : AccountDB) (id quota count : Int) :
    Adds db (db.updateUserUsedQuotaAndRequestCount id quota count)
      (singleDelta .usedQuota id quota + singleDelta .requestCount id count) := by
  have h := adds_users db id 0 quota count
  simp only [add_zero] at h
  refine h.congr ?_
  intro t i
  cases t <;> simp [singleDelta_apply]

theorem adds_increaseTokenQuota (db : AccountDB) (id quota : Int) :
    Adds db (db.increaseTokenQuota id quota) (singleDelta .tokenQuota id quota) := by
  intro c i
  have hfind := Table.find?_update db.tokens id i (f := fun t =>
    { t with remainQuota := t.remainQuota + quota, usedQuota := t.usedQuota - quota }) fun _ => rfl
  by_cases hi : id = i
  · subst hi
    rw [if_pos rfl] at hfind
    cases c <;> simp [AccountDB.increaseTokenQuota, hfind, singleDelta_apply, Function.comp_def]
    simp only [sub_eq_add_neg]
  · rw [if_neg hi] at hfind
    cases c <;> simp [AccountDB.increaseTokenQuota, hfind, singleDelta_apply, Ne.symm hi,
      Function.comp_def]

theorem adds_updateChannelUsedQuota (db : AccountDB) (id quota : Int) :
    Adds db (db.updateChannelUsedQuota id quota) (singleDelta .channelUsedQuota id quota) := by
  intro c i
  have hfind := Table.find?_update db.channels id i (f := fun ch =>
    { ch with usedQuota := ch.usedQuota + quota }) fun _ => rfl
  by_cases hi : id = i
  · subst hi
    rw [if_pos rfl] at hfind
    cases c <;> simp [AccountDB.updateChannelUsedQuota, hfind, singleDelta_apply, Function.comp_def]
  · rw [if_neg hi] at hfind
    cases c <;> simp [AccountDB.updateChannelUsedQuota, hfind, singleDelta_apply, Ne.symm hi,
      Function.comp_def]

/-! ## Maps of deltas -/

namespace DeltaMap

@[simp] theorem get_empty (id : Int) : get Table.empty id = 0 := rfl

theorem get_insert {m : DeltaMap} {id : Int} (h : m.find? id = none) (value i : Int) :
    get (m.insert (id, value)) i = m.get i + if i = id then value else 0 := by
  rw [get, Table.find?_insert]
  by_cases hi : i = id
  · subst hi
    simp [get, h]
  · simp [get, hi, Ne.symm hi]

theorem get_set {m : DeltaMap} {id : Int} {entry : Int × Int} (h : m.find? id = some entry)
    (value i : Int) :
    get (m.set (id, entry.2 + value)) i = m.get i + if i = id then value else 0 := by
  rw [get, Table.find?_set]
  by_cases hi : i = id
  · subst hi
    simp [get, h]
  · simp [get, hi, Ne.symm hi]

theorem get_erase (m : DeltaMap) (id i : Int) :
    get (m.erase id) i = if i = id then 0 else m.get i := by
  have hfind : (m.erase id).find? i = if i = id then none else m.find? i := by
    unfold Table.find? Table.erase
    rw [List.find?_filter]
    by_cases hi : i = id
    · subst hi
      simp
    · rw [if_neg hi]
      congr 1
      funext entry
      by_cases hentry : entry.1 = i
      · simp [hentry, hi]
      · simp [hentry]
  rw [get, hfind]
  by_cases hi : i = id
  · simp [hi]
  · simp [hi, get]

/-- Values come from entries. -/
theorem get_of_find {m : DeltaMap} {id : Int} {entry : Int × Int} (h : m.find? id = some entry) :
    m.get id = entry.2 := by
  rw [get, h]
  rfl

theorem get_of_isEmpty {m : DeltaMap} (h : m.rows.isEmpty = true) (id : Int) : m.get id = 0 := by
  have hrows : m.rows = [] := List.isEmpty_iff.mp h
  simp [get, Table.find?, hrows]

end DeltaMap

namespace Stores

theorem get_addNewRecord (stores : Stores) (type t : BatchUpdateType) (id value i : Int) :
    ((stores.addNewRecord type id value) t).get i =
      (stores t).get i + singleDelta type id value t i := by
  rw [singleDelta_apply]
  unfold addNewRecord
  by_cases ht : t = type
  · subst ht
    rw [Function.update_self]
    simp only [true_and]
    cases hfind : (stores t).find? id with
    | none => exact DeltaMap.get_insert hfind value i
    | some entry => exact DeltaMap.get_set hfind value i
  · rw [Function.update_of_ne ht]
    simp [ht]

theorem get_drop (stores : Stores) (types : List BatchUpdateType) (id : Int)
    (t : BatchUpdateType) (i : Int) :
    ((stores.drop types id) t).get i =
      (stores t).get i - if t ∈ types ∧ i = id then (stores t).get i else 0 := by
  unfold drop
  by_cases ht : t ∈ types
  · rw [if_pos ht, DeltaMap.get_erase]
    by_cases hi : i = id
    · simp [ht, hi]
    · simp [hi]
  · simp [ht]

/-- A row write moves deltas from the snapshot to the database. -/
theorem writeRow_adds (db : AccountDB) (taken : Stores) (key : Int) :
    ∃ δ : Deltas, Adds db (taken.writeRow db key).1 δ ∧
      ∀ t i, ((taken.writeRow db key).2 t).get i = (taken t).get i - δ t i := by
  have hstay : ∃ δ : Deltas, Adds db db δ ∧ ∀ t i, (taken t).get i = (taken t).get i - δ t i :=
    ⟨0, Adds.refl db, fun t i => by simp⟩
  unfold writeRow
  split
  · -- tokens
    cases hfind : (taken .tokenQuota).find? key with
    | none => exact hstay
    | some entry =>
      refine ⟨_, adds_increaseTokenQuota db key entry.2, ?_⟩
      intro t i
      rw [get_drop, ← DeltaMap.get_of_find hfind]
      cases t <;> simp only [singleDelta_apply, List.mem_singleton, reduceCtorEq, false_and, if_false,
        true_and]
      split
      · next hi => rw [hi]
      · rfl
  · split
    · -- channels
      cases hfind : (taken .channelUsedQuota).find? key with
      | none => exact hstay
      | some entry =>
        refine ⟨_, adds_updateChannelUsedQuota db key entry.2, ?_⟩
        intro t i
        rw [get_drop, ← DeltaMap.get_of_find hfind]
        cases t <;> simp only [singleDelta_apply, List.mem_singleton, reduceCtorEq, false_and, if_false,
          true_and]
        split
        · next hi => rw [hi]
        · rfl
    · split
      · -- users
        refine ⟨userDelta key ((taken .userQuota).get key) ((taken .usedQuota).get key)
          ((taken .requestCount).get key), adds_updateUser db key _ _ _, ?_⟩
        intro t i
        rw [get_drop]
        by_cases hi : i = key
        · subst hi
          cases t <;> simp
        · cases t <;> simp [hi]
      · exact hstay

end Stores

/-- The value of a type constant. -/
def BatchUpdateType.index : BatchUpdateType → Nat
  | .userQuota => 0
  | .tokenQuota => 1
  | .usedQuota => 2
  | .channelUsedQuota => 3
  | .requestCount => 4

theorem BatchUpdateType.index_next {type next : BatchUpdateType} (h : type.next = some next) :
    next.index = type.index + 1 := by
  cases type <;> cases h <;> rfl

theorem BatchUpdateType.index_le (type : BatchUpdateType) : type.index ≤ 4 := by
  cases type <;> decide

theorem BatchUpdateType.index_last {type : BatchUpdateType} (h : type.next = none)
    (t : BatchUpdateType) : t.index ≤ type.index := by
  cases type <;> cases h
  cases t <;> decide

theorem BatchUpdateType.eq_of_index_le {t type : BatchUpdateType} (h : t.index ≤ type.index)
    (hlt : ¬ t.index < type.index) : t = type := by
  cases t <;> cases type <;> simp_all [BatchUpdateType.index]

/-- A run that swaps has not taken the maps that are still ahead. -/
def BatchStage.Ok : BatchStage → Prop
  | .swapping type taken => ∀ t : BatchUpdateType, type.index ≤ t.index → taken t = .empty
  | _ => True

/-- What a run has taken and not written yet. -/
def BatchStage.taken : BatchStage → Stores
  | .swapping _ taken => taken
  | .writing taken => taken
  | _ => Stores.nothing

namespace BatchSystem

/-- The deltas in the stores and in the snapshots of runs. -/
def held (s : BatchSystem) : Deltas := fun t id =>
  (s.stores t).get id + s.runs.sum fun r => (r.stage.taken t).get id

/-- Every column is the initial value plus the recorded deltas that are not held any more. -/
def Conserved (db₀ : AccountDB) (s : BatchSystem) : Prop := Adds db₀ s.db (s.recorded - s.held)

/-- Nothing happened that accounting can see. -/
theorem Conserved.congr {db₀ : AccountDB} {s s' : BatchSystem} (h : s.Conserved db₀)
    (hdb : s'.db = s.db)
    (hδ : ∀ t id, s'.recorded t id - s'.held t id = s.recorded t id - s.held t id) :
    s'.Conserved db₀ := by
  intro c id
  rw [hdb, h c id]
  simp only [Pi.sub_apply, hδ]

/-- Deltas are written that were held or are recorded now. -/
theorem Conserved.adds {db₀ : AccountDB} {s s' : BatchSystem} (h : s.Conserved db₀) {δ : Deltas}
    (hdb : Adds s.db s'.db δ)
    (hδ : ∀ t id, s'.recorded t id - s'.held t id = s.recorded t id - s.held t id + δ t id) :
    s'.Conserved db₀ :=
  (h.trans hdb).congr fun t id => by
    simp only [Pi.add_apply, Pi.sub_apply]
    exact (hδ t id).symm

/-- A run moves on. -/
theorem sum_runs_set {s : BatchSystem} {r : BatchRun} (h : s.runs.find? r.rid = some r)
    (stage : BatchStage) (t : BatchUpdateType) (id : Int) :
    ((s.runs.set { r with stage := stage }).sum fun r => (r.stage.taken t).get id) =
      (s.runs.sum fun r => (r.stage.taken t).get id) - (r.stage.taken t).get id +
        (stage.taken t).get id :=
  Table.sum_set (fun r : BatchRun => (r.stage.taken t).get id)
    (r := { r with stage := stage }) h

theorem get_nothing (t : BatchUpdateType) (id : Int) : (Stores.nothing t).get id = 0 := rfl

/-- The stage after a check. -/
theorem check_stage (s : BatchSystem) (type : BatchUpdateType) {stage : BatchStage}
    (h : stage = if ¬ (s.stores type).rows.isEmpty then .swapping .userQuota Stores.nothing
      else (type.next.map BatchStage.checking).getD .finished) :
    stage.taken = Stores.nothing ∧ stage.Ok := by
  subst h
  split
  · exact ⟨rfl, fun _ _ => rfl⟩
  · cases type.next with
    | none => exact ⟨rfl, trivial⟩
    | some next => exact ⟨rfl, trivial⟩

/-- The stage after a swap. -/
theorem swap_stage {type : BatchUpdateType} {taken taken' : Stores} {m : DeltaMap}
    {stage : BatchStage} (hok : (BatchStage.swapping type taken).Ok)
    (htaken : taken' = Function.update taken type m)
    (h : stage = (type.next.map fun t => BatchStage.swapping t taken').getD (.writing taken')) :
    stage.taken = taken' ∧ stage.Ok := by
  subst h
  cases hnext : type.next with
  | none => exact ⟨rfl, trivial⟩
  | some next =>
    refine ⟨rfl, ?_⟩
    intro t ht
    have hindex := BatchUpdateType.index_next hnext
    have hne : t ≠ type := by
      intro heq
      subst heq
      omega
    rw [htaken, Function.update_of_ne hne]
    exact hok t (by omega)

/-- A lock section of a run moves deltas from a store to a snapshot. -/
theorem advanceRun_held {s : BatchSystem} {r : BatchRun} (h : s.runs.find? r.rid = some r)
    (hok : r.stage.Ok) (t : BatchUpdateType) (id : Int) :
    (s.advanceRun r).held t id = s.held t id := by
  unfold advanceRun held
  cases hstage : r.stage with
  | checking type =>
    dsimp only
    rw [sum_runs_set h, (check_stage s type rfl).1, hstage]
    show _ + (_ - (Stores.nothing t).get id + (Stores.nothing t).get id) = _
    omega
  | swapping type taken =>
    rw [hstage] at hok
    dsimp only
    rw [sum_runs_set h, (swap_stage hok rfl rfl).1, hstage]
    show _ + (_ - (taken t).get id + _) = _
    by_cases ht : t = type
    · subst ht
      rw [Function.update_self, Function.update_self, hok t (le_refl _)]
      simp only [DeltaMap.get_empty]
      omega
    · rw [Function.update_of_ne ht, Function.update_of_ne ht]
      omega
  | writing taken => rfl
  | finished => rfl

/-- A row write moves deltas from a snapshot to the database. -/
theorem writeRun_adds {s : BatchSystem} {r : BatchRun} (h : s.runs.find? r.rid = some r)
    (key : Int) : ∃ δ : Deltas, Adds s.db (s.writeRun r key).db δ ∧
      ∀ t id, (s.writeRun r key).held t id = s.held t id - δ t id := by
  have hstay : ∃ δ : Deltas, Adds s.db s.db δ ∧ ∀ t id, s.held t id = s.held t id - δ t id :=
    ⟨0, Adds.refl s.db, fun t id => by simp⟩
  unfold writeRun
  cases hstage : r.stage with
  | checking type => exact hstay
  | swapping type taken => exact hstay
  | finished => exact hstay
  | writing taken =>
    dsimp only
    split
    · next hempty =>
      -- nothing was left to write
      refine ⟨0, Adds.refl s.db, ?_⟩
      intro t id
      have htaken : (taken t).get id = 0 := by
        simp only [Stores.isEmpty, Bool.and_eq_true] at hempty
        obtain ⟨⟨⟨⟨huser, htoken⟩, hused⟩, hchannel⟩, hcount⟩ := hempty
        cases t with
        | userQuota => exact DeltaMap.get_of_isEmpty huser id
        | tokenQuota => exact DeltaMap.get_of_isEmpty htoken id
        | usedQuota => exact DeltaMap.get_of_isEmpty hused id
        | channelUsedQuota => exact DeltaMap.get_of_isEmpty hchannel id
        | requestCount => exact DeltaMap.get_of_isEmpty hcount id
      unfold held
      dsimp only
      rw [sum_runs_set h, hstage]
      show _ + (_ - (taken t).get id + (Stores.nothing t).get id) = _ - 0
      rw [htaken, get_nothing]
      omega
    · obtain ⟨δ, hadds, htaken⟩ := Stores.writeRow_adds s.db taken key
      refine ⟨δ, hadds, ?_⟩
      intro t id
      unfold held
      dsimp only
      rw [sum_runs_set h, hstage]
      show _ + (_ - (taken t).get id + ((taken.writeRow s.db key).2 t).get id) = _
      rw [htaken]
      omega

/-! ## Conservation -/

/-- The invariant: every delta is in one place. -/
structure Inv (db₀ : AccountDB) (s : BatchSystem) : Prop where
  conserved : s.Conserved db₀
  runs : ∀ r ∈ s.runs.rows, r.stage.Ok

/-- The runs after one of them has moved on. -/
theorem runs_set_ok {s : BatchSystem} (hs : ∀ r ∈ s.runs.rows, r.stage.Ok) {r : BatchRun}
    {stage : BatchStage} (hstage : stage.Ok) :
    ∀ q ∈ (s.runs.set { r with stage := stage }).rows, q.stage.Ok := by
  intro q hq
  cases Table.mem_set hq with
  | inl heq => exact heq ▸ hstage
  | inr hold => exact hs q hold.1

theorem advanceRun_runs {s : BatchSystem} (hs : ∀ r ∈ s.runs.rows, r.stage.Ok) {r : BatchRun}
    (hok : r.stage.Ok) : ∀ q ∈ (s.advanceRun r).runs.rows, q.stage.Ok := by
  unfold advanceRun
  cases hstage : r.stage with
  | checking type => exact runs_set_ok hs (check_stage s type rfl).2
  | swapping type taken =>
    rw [hstage] at hok
    exact runs_set_ok hs (swap_stage hok rfl rfl).2
  | writing taken => exact hs
  | finished => exact hs

theorem writeRun_runs {s : BatchSystem} (hs : ∀ r ∈ s.runs.rows, r.stage.Ok) (r : BatchRun)
    (key : Int) : ∀ q ∈ (s.writeRun r key).runs.rows, q.stage.Ok := by
  unfold writeRun
  cases r.stage with
  | checking type => exact hs
  | swapping type taken => exact hs
  | finished => exact hs
  | writing taken =>
    dsimp only
    split
    · exact runs_set_ok hs trivial
    · exact runs_set_ok hs trivial

theorem advanceRun_recorded (s : BatchSystem) (r : BatchRun) :
    (s.advanceRun r).recorded = s.recorded ∧ (s.advanceRun r).db = s.db := by
  unfold advanceRun
  cases r.stage with
  | checking type => exact ⟨rfl, rfl⟩
  | swapping type taken => exact ⟨rfl, rfl⟩
  | writing taken => exact ⟨rfl, rfl⟩
  | finished => exact ⟨rfl, rfl⟩

theorem writeRun_recorded (s : BatchSystem) (r : BatchRun) (key : Int) :
    (s.writeRun r key).recorded = s.recorded := by
  unfold writeRun
  cases r.stage with
  | checking type => rfl
  | swapping type taken => rfl
  | finished => rfl
  | writing taken =>
    dsimp only
    split
    · rfl
    · rfl

/-- A run that begins holds nothing. -/
theorem sum_runs_insert (s : BatchSystem) (rid : Nat) (t : BatchUpdateType) (id : Int) :
    ((s.runs.insert ⟨rid, .checking .userQuota⟩).sum fun r => (r.stage.taken t).get id) =
      s.runs.sum fun r => (r.stage.taken t).get id := by
  cases hfind : s.runs.find? rid with
  | none =>
    rw [Table.sum_insert hfind]
    show _ + (Stores.nothing t).get id = _
    rw [get_nothing, add_zero]
  | some r => rw [Table.insert_of_find?_some hfind]

/-- One step keeps every delta in one place. -/
theorem step_conserved (db₀ : AccountDB) (s : BatchSystem) (e : BatchEvent) (hs : s.Inv db₀) :
    (s.step e).Inv db₀ := by
  cases e with
  | call pid op =>
    dsimp only [step]
    cases s.producers.find? pid with
    | some p => exact hs
    | none =>
      dsimp only
      cases op.directDelta with
      | none => exact ⟨hs.conserved.congr rfl fun _ _ => rfl, hs.runs⟩
      | some entry =>
        refine ⟨hs.conserved.adds (adds_increaseUserQuota s.db entry.1 entry.2) ?_, hs.runs⟩
        intro t id
        show s.recorded t id + singleDelta .userQuota entry.1 entry.2 t id - s.held t id = _
        omega
  | record pid =>
    dsimp only [step]
    cases s.producers.find? pid with
    | none => exact hs
    | some p =>
      dsimp only
      cases p.pending with
      | nil => exact hs
      | cons r rest =>
        refine ⟨hs.conserved.congr rfl ?_, hs.runs⟩
        intro t id
        show s.recorded t id + singleDelta r.type r.id r.value t id -
            (((s.stores.addNewRecord r.type r.id r.value) t).get id +
              s.runs.sum fun r => (r.stage.taken t).get id) =
          s.recorded t id - ((s.stores t).get id + s.runs.sum fun r => (r.stage.taken t).get id)
        rw [Stores.get_addNewRecord]
        omega
  | begin rid =>
    refine ⟨hs.conserved.congr rfl ?_, ?_⟩
    · intro t id
      show _ - (_ + (s.runs.insert ⟨rid, .checking .userQuota⟩).sum _) = _
      rw [sum_runs_insert]
      rfl
    · intro r hr
      cases Table.mem_of_mem_insert hr with
      | inl hold => exact hs.runs r hold
      | inr heq => exact heq ▸ trivial
  | advance rid =>
    dsimp only [step]
    cases hfind : s.runs.find? rid with
    | none => exact hs
    | some r =>
      have hok := hs.runs r (Table.find?_mem hfind)
      obtain rfl : r.rid = rid := Table.find?_key hfind
      obtain ⟨hrec, hdb⟩ := advanceRun_recorded s r
      refine ⟨hs.conserved.congr hdb ?_, advanceRun_runs hs.runs hok⟩
      intro t id
      show (s.advanceRun r).recorded t id - (s.advanceRun r).held t id = _
      rw [hrec, advanceRun_held hfind hok]
  | write rid key =>
    dsimp only [step]
    cases hfind : s.runs.find? rid with
    | none => exact hs
    | some r =>
      obtain rfl : r.rid = rid := Table.find?_key hfind
      obtain ⟨δ, hadds, hheld⟩ := writeRun_adds hfind key
      refine ⟨hs.conserved.adds hadds ?_, writeRun_runs hs.runs r key⟩
      intro t id
      show (s.writeRun r key).recorded t id - (s.writeRun r key).held t id = _
      rw [writeRun_recorded, hheld]
      omega

end BatchSystem

/-! ## Immediate accounting -/

/-- The deltas of a list of records. -/
def recordsDelta (records : List DeltaRecord) : Deltas := fun t id =>
  (records.map fun r => singleDelta r.type r.id r.value t id).sum

/-- The deltas of a call, whichever way they are written. -/
def QuotaCall.delta (call : QuotaCall) : Deltas := fun t id =>
  recordsDelta call.records t id +
    match call.directDelta with
    | none => 0
    | some (user, value) => singleDelta .userQuota user value t id

/-- Without batch updates a call writes its deltas at once. -/
theorem QuotaCall.immediate_adds (db : AccountDB) (call : QuotaCall) :
    Adds db (call.immediate db) call.delta := by
  cases call with
  | increaseUserQuota id quota direct =>
    dsimp only [immediate]
    split
    · next hneg =>
      refine (Adds.refl db).congr fun t i => ?_
      cases direct <;> simp [delta, records, directDelta, recordsDelta, hneg]
    · next hneg =>
      refine (adds_increaseUserQuota db id quota).congr fun t i => ?_
      cases direct <;> simp [delta, records, directDelta, recordsDelta, hneg]
  | decreaseUserQuota id quota direct =>
    dsimp only [immediate]
    split
    · next hneg =>
      refine (Adds.refl db).congr fun t i => ?_
      cases direct <;> simp [delta, records, directDelta, recordsDelta, hneg]
    · next hneg =>
      refine (adds_increaseUserQuota db id (-quota)).congr fun t i => ?_
      cases direct <;> simp [delta, records, directDelta, recordsDelta, hneg]
  | increaseTokenQuota id quota =>
    dsimp only [immediate]
    split
    · next hneg =>
      refine (Adds.refl db).congr fun t i => ?_
      simp [delta, records, directDelta, recordsDelta, hneg]
    · next hneg =>
      refine (adds_increaseTokenQuota db id quota).congr fun t i => ?_
      simp [delta, records, directDelta, recordsDelta, hneg]
  | decreaseTokenQuota id quota =>
    dsimp only [immediate]
    split
    · next hneg =>
      refine (Adds.refl db).congr fun t i => ?_
      simp [delta, records, directDelta, recordsDelta, hneg]
    · next hneg =>
      refine (adds_increaseTokenQuota db id (-quota)).congr fun t i => ?_
      simp [delta, records, directDelta, recordsDelta, hneg]
  | updateUserUsedQuotaAndRequestCount id quota =>
    refine (adds_updateUserUsed db id quota 1).congr fun t i => ?_
    simp [delta, records, directDelta, recordsDelta]
  | updateChannelUsedQuota id quota =>
    refine (adds_updateChannelUsedQuota db id quota).congr fun t i => ?_
    simp [delta, records, directDelta, recordsDelta]

/-- The deltas of a list of calls. -/
def callsDelta (calls : List QuotaCall) : Deltas := fun t id => (calls.map (·.delta t id)).sum

theorem immediate_calls_adds (db : AccountDB) (calls : List QuotaCall) :
    Adds db (calls.foldl QuotaCall.immediate db) (callsDelta calls) := by
  induction calls generalizing db with
  | nil => exact (Adds.refl db).congr fun _ _ => rfl
  | cons call calls ih =>
    refine ((call.immediate_adds db).trans (ih (call.immediate db))).congr fun t id => ?_
    simp [callsDelta]

namespace BatchSystem

/-- The recorded deltas and those of the lock sections ahead are the deltas of the calls. -/
def Accounted (s : BatchSystem) : Prop := ∀ t id,
  s.recorded t id + (s.producers.sum fun p => recordsDelta p.pending t id) =
    callsDelta s.calls t id

/-- A step of a run records nothing. -/
theorem Accounted.congr {s s' : BatchSystem} (h : s.Accounted)
    (hrecorded : s'.recorded = s.recorded) (hproducers : s'.producers = s.producers)
    (hcalls : s'.calls = s.calls) : s'.Accounted := by
  intro t id
  rw [hrecorded, hproducers, hcalls]
  exact h t id

theorem advanceRun_producers (s : BatchSystem) (r : BatchRun) :
    (s.advanceRun r).producers = s.producers ∧ (s.advanceRun r).calls = s.calls := by
  unfold advanceRun
  cases r.stage with
  | checking type => exact ⟨rfl, rfl⟩
  | swapping type taken => exact ⟨rfl, rfl⟩
  | writing taken => exact ⟨rfl, rfl⟩
  | finished => exact ⟨rfl, rfl⟩

theorem writeRun_producers (s : BatchSystem) (r : BatchRun) (key : Int) :
    (s.writeRun r key).producers = s.producers ∧ (s.writeRun r key).calls = s.calls := by
  unfold writeRun
  cases r.stage with
  | checking type => exact ⟨rfl, rfl⟩
  | swapping type taken => exact ⟨rfl, rfl⟩
  | finished => exact ⟨rfl, rfl⟩
  | writing taken =>
    dsimp only
    split
    · exact ⟨rfl, rfl⟩
    · exact ⟨rfl, rfl⟩

theorem step_accounted (s : BatchSystem) (e : BatchEvent) (hs : s.Accounted) :
    (s.step e).Accounted := by
  cases e with
  | call pid op =>
    dsimp only [step]
    cases hfind : s.producers.find? pid with
    | some p => exact hs
    | none =>
      have hsum : ∀ t id, ((s.producers.insert ⟨pid, op.records⟩).sum fun p =>
          recordsDelta p.pending t id) =
          (s.producers.sum fun p => recordsDelta p.pending t id) + recordsDelta op.records t id :=
        fun t id => Table.sum_insert (r := (⟨pid, op.records⟩ : Producer)) hfind _
      have hcalls : ∀ t id, callsDelta (s.calls ++ [op]) t id =
          callsDelta s.calls t id + op.delta t id := fun t id => by simp [callsDelta]
      dsimp only
      cases hdirect : op.directDelta with
      | none =>
        intro t id
        have h := hs t id
        dsimp only
        rw [hsum, hcalls, QuotaCall.delta, hdirect]
        dsimp only
        omega
      | some entry =>
        intro t id
        have h := hs t id
        dsimp only
        rw [hsum, hcalls, QuotaCall.delta, hdirect]
        show s.recorded t id + singleDelta .userQuota entry.1 entry.2 t id + _ = _
        dsimp only
        omega
  | record pid =>
    dsimp only [step]
    cases hfind : s.producers.find? pid with
    | none => exact hs
    | some p =>
      obtain rfl : p.pid = pid := Table.find?_key hfind
      dsimp only
      cases hpending : p.pending with
      | nil => exact hs
      | cons r rest =>
        intro t id
        have h := hs t id
        have hsum := Table.sum_set (fun p : Producer => recordsDelta p.pending t id)
          (r := { p with pending := rest }) hfind
        show s.recorded t id + singleDelta r.type r.id r.value t id +
          (s.producers.set { p with pending := rest }).sum _ = callsDelta s.calls t id
        have hcons : recordsDelta (r :: rest) t id =
            singleDelta r.type r.id r.value t id + recordsDelta rest t id := by
          simp [recordsDelta]
        rw [hsum, hpending, hcons]
        show _ + _ + (_ - _ + recordsDelta rest t id) = _
        omega
  | begin rid => exact hs
  | advance rid =>
    dsimp only [step]
    cases s.runs.find? rid with
    | none => exact hs
    | some r =>
      exact hs.congr (advanceRun_recorded s r).1 (advanceRun_producers s r).1
        (advanceRun_producers s r).2
  | write rid key =>
    dsimp only [step]
    cases s.runs.find? rid with
    | none => exact hs
    | some r =>
      exact hs.congr (writeRun_recorded s r key) (writeRun_producers s r key).1
        (writeRun_producers s r key).2

/-! ## A final run -/

/-- No call is under way. -/
def Idle (s : BatchSystem) : Prop := ∀ p ∈ s.producers.rows, p.pending = []

/-- Every `batchUpdate` run has returned. -/
def AllFinished (s : BatchSystem) : Prop := ∀ r ∈ s.runs.rows, r.stage = .finished

instance (stage : BatchStage) : Decidable (stage = .finished) :=
  match stage with
  | .finished => isTrue rfl
  | .checking _ => isFalse nofun
  | .swapping _ _ => isFalse nofun
  | .writing _ => isFalse nofun

instance (s : BatchSystem) : Decidable s.AllFinished :=
  inferInstanceAs (Decidable (∀ r ∈ s.runs.rows, r.stage = .finished))

/-- The maps that a run has passed without new records are empty. -/
def Passed (stores : Stores) : BatchStage → Prop
  | .checking type => ∀ t : BatchUpdateType, t.index < type.index → (stores t).rows = []
  | .swapping type _ => ∀ t : BatchUpdateType, t.index < type.index → (stores t).rows = []
  | _ => ∀ t, (stores t).rows = []

/-- No call is under way, and the maps are empty as far as the run `rid` has come. -/
structure Draining (rid : Nat) (s : BatchSystem) : Prop where
  idle : s.Idle
  passed : ∀ r ∈ s.runs.rows, r.rid = rid → Passed s.stores r.stage

/-- Maps that other runs have emptied stay passed. -/
theorem Passed.mono {stores stores' : Stores} {stage : BatchStage} (h : Passed stores stage)
    (hempty : ∀ t, (stores t).rows = [] → (stores' t).rows = []) : Passed stores' stage := by
  cases stage with
  | checking type => exact fun t ht => hempty t (h t ht)
  | swapping type taken => exact fun t ht => hempty t (h t ht)
  | writing taken => exact fun t => hempty t (h t)
  | finished => exact fun t => hempty t (h t)

/-- A check that finds nothing passes a map. -/
theorem check_passed {stores : Stores} {type : BatchUpdateType}
    (h : Passed stores (.checking type)) :
    Passed stores (if ¬ (stores type).rows.isEmpty then .swapping .userQuota Stores.nothing
      else (type.next.map BatchStage.checking).getD .finished) := by
  split
  · intro t ht
    exact absurd ht (Nat.not_lt_zero _)
  · next hempty =>
    have hrows : (stores type).rows = [] := by simpa using hempty
    have hle : ∀ t : BatchUpdateType, t.index ≤ type.index → (stores t).rows = [] := by
      intro t ht
      by_cases hlt : t.index < type.index
      · exact h t hlt
      · rw [BatchUpdateType.eq_of_index_le ht hlt]
        exact hrows
    cases hnext : type.next with
    | none => exact fun t => hle t (BatchUpdateType.index_last hnext t)
    | some next =>
      intro t ht
      have hindex := BatchUpdateType.index_next hnext
      exact hle t (by omega)

/-- A swap passes a map. -/
theorem swap_passed {stores : Stores} {type : BatchUpdateType} {taken : Stores}
    (h : Passed stores (.swapping type taken)) (taken' : Stores) :
    Passed (Function.update stores type .empty)
      ((type.next.map fun t => BatchStage.swapping t taken').getD (.writing taken')) := by
  have hle : ∀ t : BatchUpdateType, t.index ≤ type.index →
      (Function.update stores type .empty t).rows = [] := by
    intro t ht
    by_cases heq : t = type
    · subst heq
      rw [Function.update_self]
      rfl
    · rw [Function.update_of_ne heq]
      by_cases hlt : t.index < type.index
      · exact h t hlt
      · exact absurd (BatchUpdateType.eq_of_index_le ht hlt) heq
  cases hnext : type.next with
  | none => exact fun t => hle t (BatchUpdateType.index_last hnext t)
  | some next =>
    intro t ht
    have hindex := BatchUpdateType.index_next hnext
    exact hle t (by omega)

/-- Another run moves on, or the run itself. -/
theorem Draining.set {rid : Nat} {s : BatchSystem} (hs : s.Draining rid) {stores' : Stores}
    (hempty : ∀ t, (s.stores t).rows = [] → (stores' t).rows = []) (r : BatchRun)
    (stage : BatchStage) (hstage : r.rid = rid → Passed stores' stage) (db : AccountDB) :
    Draining rid
      { s with db := db, stores := stores', runs := s.runs.set { r with stage := stage } } := by
  refine ⟨hs.idle, ?_⟩
  intro q hq hrid
  cases Table.mem_set hq with
  | inl heq =>
    subst heq
    exact hstage hrid
  | inr hold => exact (hs.passed q hold.1 hrid).mono hempty

theorem Draining.advanceRun {rid : Nat} {s : BatchSystem} (hs : s.Draining rid) {r : BatchRun}
    (hr : r ∈ s.runs.rows) : (s.advanceRun r).Draining rid := by
  have hpassed := hs.passed r hr
  unfold BatchSystem.advanceRun
  cases hstage : r.stage with
  | checking type =>
    rw [hstage] at hpassed
    exact hs.set (fun _ h => h) r _ (fun hrid => check_passed (hpassed hrid)) s.db
  | swapping type taken =>
    rw [hstage] at hpassed
    refine hs.set ?_ r _ (fun hrid => swap_passed (hpassed hrid) _) s.db
    intro t ht
    by_cases heq : t = type
    · subst heq
      rw [Function.update_self]
      rfl
    · rw [Function.update_of_ne heq]
      exact ht
  | writing taken => exact hs
  | finished => exact hs

theorem Draining.writeRun {rid : Nat} {s : BatchSystem} (hs : s.Draining rid) {r : BatchRun}
    (hr : r ∈ s.runs.rows) (key : Int) : (s.writeRun r key).Draining rid := by
  have hpassed := hs.passed r hr
  unfold BatchSystem.writeRun
  cases hstage : r.stage with
  | checking type => exact hs
  | swapping type taken => exact hs
  | finished => exact hs
  | writing taken =>
    rw [hstage] at hpassed
    dsimp only
    split
    · exact hs.set (fun _ h => h) r .finished (fun hrid => hpassed hrid) s.db
    · exact hs.set (fun _ h => h) r (.writing (taken.writeRow s.db key).2)
        (fun hrid => hpassed hrid) _

/-- Whether an event is a call of a quota operation. -/
def BatchEvent.IsCall : BatchEvent → Prop
  | .call _ _ => True
  | _ => False

theorem step_draining {rid : Nat} (s : BatchSystem) (e : BatchEvent) (hs : s.Draining rid)
    (he : ¬ BatchEvent.IsCall e) : (s.step e).Draining rid := by
  cases e with
  | call pid op => exact absurd trivial he
  | record pid =>
    dsimp only [step]
    cases hfind : s.producers.find? pid with
    | none => exact hs
    | some p =>
      dsimp only
      rw [hs.idle p (Table.find?_mem hfind)]
      exact hs
  | begin rid' =>
    refine ⟨hs.idle, ?_⟩
    intro r hr hrid
    cases Table.mem_of_mem_insert hr with
    | inl hold => exact hs.passed r hold hrid
    | inr heq =>
      subst heq
      intro t ht
      exact absurd ht (Nat.not_lt_zero _)
  | advance rid' =>
    dsimp only [step]
    cases hfind : s.runs.find? rid' with
    | none => exact hs
    | some r => exact hs.advanceRun (Table.find?_mem hfind)
  | write rid' key =>
    dsimp only [step]
    cases hfind : s.runs.find? rid' with
    | none => exact hs
    | some r => exact hs.writeRun (Table.find?_mem hfind) key

/-- A run stays in the table. -/
theorem isSome_runs_set {s : BatchSystem} {rid : Nat} (h : (s.runs.find? rid).isSome)
    (r : BatchRun) : ((s.runs.set r).find? rid).isSome := by
  rw [Table.find?_set]
  split
  · simpa using h
  · exact h

/-- A lock section of a run moves that run at most. -/
theorem advanceRun_runs_cases (s : BatchSystem) (r : BatchRun) :
    (s.advanceRun r).runs = s.runs ∨
      ∃ stage, (s.advanceRun r).runs = s.runs.set { r with stage := stage } := by
  unfold advanceRun
  cases r.stage with
  | checking type => exact .inr ⟨_, rfl⟩
  | swapping type taken => exact .inr ⟨_, rfl⟩
  | writing taken => exact .inl rfl
  | finished => exact .inl rfl

/-- A row write of a run moves that run at most. -/
theorem writeRun_runs_cases (s : BatchSystem) (r : BatchRun) (key : Int) :
    (s.writeRun r key).runs = s.runs ∨
      ∃ stage, (s.writeRun r key).runs = s.runs.set { r with stage := stage } := by
  unfold writeRun
  cases r.stage with
  | checking type => exact .inl rfl
  | swapping type taken => exact .inl rfl
  | finished => exact .inl rfl
  | writing taken =>
    dsimp only
    split
    · exact .inr ⟨_, rfl⟩
    · exact .inr ⟨_, rfl⟩

/-- What an event does to the runs. -/
theorem step_runs_cases (s : BatchSystem) (e : BatchEvent) :
    (s.step e).runs = s.runs ∨
      (∃ rid, e = .begin rid ∧ (s.step e).runs = s.runs.insert ⟨rid, .checking .userQuota⟩) ∨
      ∃ rid r stage, s.runs.find? rid = some r ∧ (e = .advance rid ∨ ∃ key, e = .write rid key) ∧
        (s.step e).runs = s.runs.set { r with stage := stage } := by
  cases e with
  | call pid op =>
    left
    dsimp only [step]
    cases s.producers.find? pid with
    | some p => rfl
    | none =>
      dsimp only
      cases op.directDelta with
      | none => rfl
      | some entry => rfl
  | record pid =>
    left
    dsimp only [step]
    cases s.producers.find? pid with
    | none => rfl
    | some p =>
      dsimp only
      cases p.pending with
      | nil => rfl
      | cons r rest => rfl
  | begin rid => exact .inr (.inl ⟨rid, rfl, rfl⟩)
  | advance rid =>
    cases hfind : s.runs.find? rid with
    | none =>
      left
      simp only [step, hfind]
    | some r =>
      simp only [step, hfind]
      obtain heq | ⟨stage, heq⟩ := advanceRun_runs_cases s r
      · exact .inl heq
      · exact .inr (.inr ⟨rid, r, stage, hfind, .inl rfl, heq⟩)
  | write rid key =>
    cases hfind : s.runs.find? rid with
    | none =>
      left
      simp only [step, hfind]
    | some r =>
      simp only [step, hfind]
      obtain heq | ⟨stage, heq⟩ := writeRun_runs_cases s r key
      · exact .inl heq
      · exact .inr (.inr ⟨rid, r, stage, hfind, .inr ⟨key, rfl⟩, heq⟩)

theorem step_isSome_run {rid : Nat} (s : BatchSystem) (e : BatchEvent)
    (hs : (s.runs.find? rid).isSome) : ((s.step e).runs.find? rid).isSome := by
  obtain heq | ⟨rid', -, heq⟩ | ⟨rid', r, stage, -, -, heq⟩ := step_runs_cases s e
  · rw [heq]
    exact hs
  · rw [heq, Table.find?_insert]
    split
    · simp
    · exact hs
  · rw [heq]
    exact isSome_runs_set hs _

/-- A run that begins without a call under way drains. -/
theorem begin_draining {s : BatchSystem} (hidle : s.Idle) {rid : Nat}
    (hfresh : s.runs.find? rid = none) : (s.step (.begin rid)).Draining rid := by
  refine ⟨hidle, ?_⟩
  intro r hr hrid
  cases Table.mem_of_mem_insert hr with
  | inl hold => exact absurd hrid (Table.find?_eq_none_iff.mp hfresh r hold)
  | inr heq =>
    subst heq
    intro t ht
    exact absurd ht (Nat.not_lt_zero _)

/-- After a drain nothing is held. -/
theorem Draining.held_eq_zero {rid : Nat} {s : BatchSystem} (hs : s.Draining rid)
    (hrid : (s.runs.find? rid).isSome) (hfinished : s.AllFinished) (t : BatchUpdateType)
    (id : Int) : s.held t id = 0 := by
  obtain ⟨r, hr⟩ := Option.isSome_iff_exists.mp hrid
  have hmem := Table.find?_mem hr
  have hpassed := hs.passed r hmem (Table.find?_key hr)
  rw [hfinished r hmem] at hpassed
  have hstore : (s.stores t).get id = 0 :=
    DeltaMap.get_of_isEmpty (List.isEmpty_iff.mpr (hpassed t)) id
  have hruns : (s.runs.sum fun r => (r.stage.taken t).get id) = 0 := by
    apply Table.sum_eq_zero
    intro q hq
    rw [hfinished q hq]
    rfl
  rw [held, hstore, hruns, add_zero]

/-- Without a call under way every delta of a call is recorded. -/
theorem Accounted.recorded_of_idle {s : BatchSystem} (hs : s.Accounted) (hidle : s.Idle)
    (t : BatchUpdateType) (id : Int) : s.recorded t id = callsDelta s.calls t id := by
  have hsum : (s.producers.sum fun p => recordsDelta p.pending t id) = 0 := by
    apply Table.sum_eq_zero
    intro p hp
    rw [hidle p hp]
    rfl
  have h := hs t id
  omega

/-- The two ways of accounting agree once nothing is held. -/
theorem columns_of_drained {db₀ : AccountDB} {s : BatchSystem} (hconserved : s.Conserved db₀)
    (hheld : ∀ t id, s.held t id = 0)
    (hrecorded : ∀ t id, s.recorded t id = callsDelta s.calls t id) (c : Column) (id : Int) :
    s.db.column id c = (s.calls.foldl QuotaCall.immediate db₀).column id c := by
  rw [hconserved c id, immediate_calls_adds db₀ s.calls c id]
  simp only [Pi.sub_apply, hheld, hrecorded, sub_zero]

/-! ## Runs end -/

/-- The rows that a run has left to write. -/
def size (taken : Stores) : Nat :=
  (taken .userQuota).rows.length + (taken .tokenQuota).rows.length +
    (taken .usedQuota).rows.length + (taken .channelUsedQuota).rows.length +
    (taken .requestCount).rows.length

theorem size_drop_lt {taken : Stores} {types : List BatchUpdateType} {t : BatchUpdateType}
    (ht : t ∈ types) {entry : Int × Int} (hmem : entry ∈ (taken t).rows) :
    size (taken.drop types entry.1) < size taken := by
  have hle : ∀ t', ((taken.drop types entry.1) t').rows.length ≤ (taken t').rows.length := by
    intro t'
    unfold Stores.drop
    split
    · exact List.length_filter_le _ _
    · exact le_refl _
  have hlt : ((taken.drop types entry.1) t).rows.length < (taken t).rows.length := by
    unfold Stores.drop
    rw [if_pos ht]
    exact List.length_filter_lt_length_iff_exists.mpr ⟨entry, hmem, by simp⟩
  have hquota := hle .userQuota
  have htoken := hle .tokenQuota
  have hused := hle .usedQuota
  have hchannel := hle .channelUsedQuota
  have hcount := hle .requestCount
  unfold size
  cases t <;> omega

/-- While rows are left, some row can be written. -/
theorem exists_writeRow {taken : Stores} (h : ¬ taken.isEmpty = true) (db : AccountDB) :
    ∃ key, size (taken.writeRow db key).2 < size taken := by
  unfold Stores.writeRow
  by_cases htoken : (taken .tokenQuota).rows = []
  · by_cases hchannel : (taken .channelUsedQuota).rows = []
    · -- a user is left
      obtain ⟨t, ht, entry, hmem⟩ : ∃ t ∈ [BatchUpdateType.userQuota, .usedQuota, .requestCount],
          ∃ entry, entry ∈ (taken t).rows := by
        by_contra hnone
        push Not at hnone
        apply h
        have hquota := List.eq_nil_iff_forall_not_mem.mpr (hnone .userQuota (by simp))
        have hused := List.eq_nil_iff_forall_not_mem.mpr (hnone .usedQuota (by simp))
        have hcount := List.eq_nil_iff_forall_not_mem.mpr (hnone .requestCount (by simp))
        simp [Stores.isEmpty, htoken, hchannel, hquota, hused, hcount]
      have huser : taken.hasUser entry.1 = true := by
        have hfind := Table.find?_of_mem hmem
        simp only [List.mem_cons, List.not_mem_nil, or_false] at ht
        unfold Stores.hasUser
        obtain rfl | rfl | rfl := ht
        · simp [hfind]
        · simp [hfind]
        · simp [hfind]
      refine ⟨entry.1, ?_⟩
      simp only [htoken, hchannel, List.isEmpty_nil, not_true_eq_false, if_false, huser, if_true]
      exact size_drop_lt ht hmem
    · obtain ⟨entry, hmem⟩ := List.exists_mem_of_ne_nil _ hchannel
      refine ⟨entry.1, ?_⟩
      simp only [htoken, List.isEmpty_nil, not_true_eq_false, if_false, List.isEmpty_iff, hchannel,
        not_false_eq_true, if_true, Table.find?_of_mem hmem]
      exact size_drop_lt (by simp) hmem
  · obtain ⟨entry, hmem⟩ := List.exists_mem_of_ne_nil _ htoken
    refine ⟨entry.1, ?_⟩
    simp only [List.isEmpty_iff, htoken, not_false_eq_true, if_true, Table.find?_of_mem hmem]
    exact size_drop_lt (by simp) hmem

/-- The events of a run. -/
def BatchEvent.IsOf (rid : Nat) : BatchEvent → Prop
  | .advance r => r = rid
  | .write r _ => r = rid
  | _ => False

/-- The run can return on its own. -/
def CanEnd (rid : Nat) (s : BatchSystem) : Prop :=
  ∃ es, (∀ e ∈ es, BatchEvent.IsOf rid e) ∧
    (Run.run step s es).runs.find? rid = some ⟨rid, .finished⟩

theorem CanEnd.of_step {rid : Nat} {s : BatchSystem} {e : BatchEvent}
    (he : BatchEvent.IsOf rid e) (h : CanEnd rid (s.step e)) : CanEnd rid s := by
  obtain ⟨es, hes, hend⟩ := h
  refine ⟨e :: es, ?_, hend⟩
  intro e' he'
  cases List.mem_cons.mp he' with
  | inl heq => exact heq ▸ he
  | inr hmem => exact hes e' hmem

theorem canEnd_of_writing {rid : Nat} {s : BatchSystem} {taken : Stores}
    (h : s.runs.find? rid = some ⟨rid, .writing taken⟩) : CanEnd rid s := by
  -- by the rows that are left
  induction hn : size taken using Nat.strongRecOn generalizing s taken with
  | ind n ih =>
    by_cases hempty : taken.isEmpty = true
    · refine CanEnd.of_step (e := .write rid 0) rfl ⟨[], by simp, ?_⟩
      show (s.step (.write rid 0)).runs.find? rid = _
      simp only [step, h, writeRun, hempty, if_true]
      exact Table.find?_set_self h rfl
    · obtain ⟨key, hlt⟩ := exists_writeRow hempty s.db
      refine CanEnd.of_step (e := .write rid key) rfl (ih _ (hn ▸ hlt) ?_ rfl)
      simp only [step, h, writeRun, if_neg hempty]
      exact Table.find?_set_self h rfl

/-- The stage after a swap that is not the last one. -/
theorem find?_swap {rid : Nat} {s : BatchSystem} {type : BatchUpdateType} {taken : Stores}
    (h : s.runs.find? rid = some ⟨rid, .swapping type taken⟩) :
    (s.step (.advance rid)).runs.find? rid =
      some ⟨rid, (type.next.map fun t => BatchStage.swapping t
        (Function.update taken type (s.stores type))).getD
          (.writing (Function.update taken type (s.stores type)))⟩ := by
  simp only [step, h, advanceRun]
  exact Table.find?_set_self h rfl

/-- The stage after a check. -/
theorem find?_check {rid : Nat} {s : BatchSystem} {type : BatchUpdateType}
    (h : s.runs.find? rid = some ⟨rid, .checking type⟩) :
    (s.step (.advance rid)).runs.find? rid =
      some ⟨rid, if ¬ (s.stores type).rows.isEmpty then .swapping .userQuota Stores.nothing
        else (type.next.map BatchStage.checking).getD .finished⟩ := by
  simp only [step, h, advanceRun]
  exact Table.find?_set_self h rfl

theorem canEnd_of_swapping {rid : Nat} {s : BatchSystem} {type : BatchUpdateType} {taken : Stores}
    (h : s.runs.find? rid = some ⟨rid, .swapping type taken⟩) : CanEnd rid s := by
  -- by the types that are ahead
  induction hn : 4 - type.index using Nat.strongRecOn generalizing s type taken with
  | ind n ih =>
    have hswap := find?_swap h
    refine CanEnd.of_step (e := .advance rid) rfl ?_
    cases hnext : type.next with
    | none =>
      rw [hnext] at hswap
      exact canEnd_of_writing hswap
    | some next =>
      rw [hnext] at hswap
      have hindex := BatchUpdateType.index_next hnext
      have hle := BatchUpdateType.index_le next
      exact ih (4 - next.index) (by omega) hswap rfl

theorem canEnd_of_checking {rid : Nat} {s : BatchSystem} {type : BatchUpdateType}
    (h : s.runs.find? rid = some ⟨rid, .checking type⟩) : CanEnd rid s := by
  induction hn : 4 - type.index using Nat.strongRecOn generalizing s type with
  | ind n ih =>
    have hcheck := find?_check h
    refine CanEnd.of_step (e := .advance rid) rfl ?_
    by_cases hempty : (s.stores type).rows.isEmpty = true
    · rw [if_neg (not_not.mpr hempty)] at hcheck
      cases hnext : type.next with
      | none =>
        rw [hnext] at hcheck
        exact ⟨[], by simp, hcheck⟩
      | some next =>
        rw [hnext] at hcheck
        have hindex := BatchUpdateType.index_next hnext
        have hle := BatchUpdateType.index_le next
        exact ih (4 - next.index) (by omega) hcheck rfl
    · rw [if_pos hempty] at hcheck
      exact canEnd_of_swapping hcheck

/-- The events of a run leave the other runs alone. -/
theorem step_others {rid : Nat} (s : BatchSystem) {e : BatchEvent} (he : BatchEvent.IsOf rid e)
    {q : BatchRun} (hq : q ∈ (s.step e).runs.rows) (hne : q.rid ≠ rid) : q ∈ s.runs.rows := by
  obtain heq | ⟨rid', rfl, -⟩ | ⟨rid', r, stage, hfind, hof, heq⟩ := step_runs_cases s e
  · exact heq ▸ hq
  · exact absurd he id
  · have hrid : r.rid = rid := by
      rw [Table.find?_key hfind]
      obtain rfl | ⟨key, rfl⟩ := hof
      · exact he
      · exact he
    rw [heq] at hq
    cases Table.mem_set hq with
    | inl hself =>
      subst hself
      exact absurd hrid hne
    | inr hold => exact hold.1

theorem run_others {rid : Nat} {s : BatchSystem} {es : List BatchEvent}
    (hes : ∀ e ∈ es, BatchEvent.IsOf rid e) {q : BatchRun}
    (hq : q ∈ (Run.run step s es).runs.rows) (hne : q.rid ≠ rid) : q ∈ s.runs.rows := by
  induction es generalizing s with
  | nil => exact hq
  | cons e es ih =>
    have hmem := ih (fun e' he' => hes e' (List.mem_cons_of_mem _ he')) hq
    exact step_others s (hes e List.mem_cons_self) hmem hne

/-- A run that begins when no other is under way can return. -/
theorem exists_final_run {s : BatchSystem} (hfinished : s.AllFinished) {rid : Nat}
    (hfresh : s.runs.find? rid = none) :
    ∃ es, (∀ e ∈ es, BatchEvent.IsOf rid e) ∧
      (Run.run step (s.step (.begin rid)) es).AllFinished := by
  have hbegin : (s.step (.begin rid)).runs.find? rid = some ⟨rid, .checking .userQuota⟩ := by
    show (s.runs.insert _).find? rid = _
    rw [Table.find?_insert]
    simp [hfresh]
  obtain ⟨es, hes, hend⟩ := canEnd_of_checking hbegin
  refine ⟨es, hes, ?_⟩
  intro q hq
  by_cases hrid : q.rid = rid
  · have hself := Table.find?_of_mem hq
    rw [hrid, hend] at hself
    cases hself
    rfl
  · cases Table.mem_of_mem_insert (run_others hes hq hrid) with
    | inl hold => exact hfinished q hold
    | inr heq =>
      subst heq
      exact absurd rfl hrid

/-! ## Refinement -/

/-- Every column of an existing row, with what the stores and snapshots hold for it, is the
    initial value with everything recorded. -/
def Balanced (db₀ : AccountDB) (s : BatchSystem) : Prop :=
  ∀ (c : Column) (id v₀ : Int), db₀.column id c = some v₀ →
    ∃ v, s.db.column id c = some v ∧
      v + c.sign * s.held c.type id = v₀ + c.sign * s.recorded c.type id

theorem Conserved.balanced {db₀ : AccountDB} {s : BatchSystem} (h : s.Conserved db₀) :
    s.Balanced db₀ := by
  intro c id v₀ hv₀
  have hcolumn := h c id
  rw [hv₀] at hcolumn
  refine ⟨_, hcolumn, ?_⟩
  simp only [Pi.sub_apply]
  ring

theorem start_inv (db : AccountDB) : (start db).Inv db := by
  refine ⟨?_, by simp [start]⟩
  refine (Adds.refl db).congr fun t id => ?_
  simp [start, held, Stores.nothing]

theorem start_accounted (db : AccountDB) : (start db).Accounted := fun t id => by
  simp [start, callsDelta]

/-- The end of a run of `batchUpdate` that began after the last call. -/
theorem columns_of_final_run {db₀ : AccountDB} {s : BatchSystem} (hinv : s.Inv db₀)
    (hacc : s.Accounted) (hidle : s.Idle) {rid : Nat} (hfresh : s.runs.find? rid = none)
    {es : List BatchEvent} (hes : ∀ e ∈ es, ¬ BatchEvent.IsCall e)
    (hfinished : (Run.run step (s.step (.begin rid)) es).AllFinished) (c : Column) (id : Int) :
    (Run.run step (s.step (.begin rid)) es).db.column id c =
      ((Run.run step (s.step (.begin rid)) es).calls.foldl QuotaCall.immediate db₀).column id c := by
  have hdrain : (Run.run step (s.step (.begin rid)) es).Draining rid := by
    have hsteps : Run.Steps step (fun _ e => ¬ BatchEvent.IsCall e) (s.step (.begin rid)) es :=
      Run.steps_of_forall_mem _ hes
    exact (Run.always_of_steps (fun s e => step_draining s e) (begin_draining hidle hfresh)
      hsteps).last
  have hsome : ((Run.run step (s.step (.begin rid)) es).runs.find? rid).isSome := by
    apply Run.run_inv (fun s e => step_isSome_run s e)
    show ((s.runs.insert _).find? rid).isSome
    simp [Table.find?_insert, hfresh]
  have hend : (Run.run step (s.step (.begin rid)) es).Inv db₀ :=
    Run.run_inv (step_conserved db₀) (step_conserved db₀ s _ hinv) es
  have hendacc : (Run.run step (s.step (.begin rid)) es).Accounted :=
    Run.run_inv step_accounted (step_accounted s _ hacc) es
  exact columns_of_drained hend.conserved (hdrain.held_eq_zero hsome hfinished)
    (hendacc.recorded_of_idle hdrain.idle) c id

end BatchSystem

open BatchSystem in
/-- Batched accounting refines immediate accounting. In every state of every run of calls and
    `batchUpdate` runs the columns and what is still held add up. A `batchUpdate` that begins
    after the last call can return, and once all of them have, the columns are those that the
    calls write with batch updates disabled. -/
theorem batched_refines_immediate (db₀ : AccountDB) (es : List BatchEvent) :
    Run.Always step (Balanced db₀) (start db₀) es ∧
    (∀ es₁ rid es₂, es = es₁ ++ .begin rid :: es₂ →
      (Run.run step (start db₀) es₁).Idle →
      (Run.run step (start db₀) es₁).runs.find? rid = none →
      (∀ e ∈ es₂, ¬ BatchEvent.IsCall e) →
      (Run.run step (start db₀) es).AllFinished →
      ∀ c id, (Run.run step (start db₀) es).db.column id c =
        ((Run.run step (start db₀) es).calls.foldl QuotaCall.immediate db₀).column id c) ∧
    ((Run.run step (start db₀) es).AllFinished →
      ∀ rid, (Run.run step (start db₀) es).runs.find? rid = none →
        ∃ es₂, (∀ e ∈ es₂, BatchEvent.IsOf rid e) ∧
          (Run.run step (start db₀) (es ++ .begin rid :: es₂)).AllFinished) := by
  refine ⟨?_, ?_, ?_⟩
  · exact (Run.always_of_inv (step_conserved db₀) (start_inv db₀) es).mono
      fun s hs => hs.conserved.balanced
  · intro es₁ rid es₂ hes hidle hfresh hcalls hfinished
    have hinv := Run.run_inv (step_conserved db₀) (start_inv db₀) es₁
    have hacc := Run.run_inv step_accounted (start_accounted db₀) es₁
    subst hes
    rw [Run.run_append, Run.run_cons] at hfinished ⊢
    exact columns_of_final_run hinv hacc hidle hfresh hcalls hfinished
  · intro hfinished rid hfresh
    obtain ⟨es₂, hof, hend⟩ := exists_final_run hfinished hfresh
    refine ⟨es₂, hof, ?_⟩
    rw [Run.run_append, Run.run_cons]
    exact hend

/-- A token of 100 and a user, with two calls that a final run writes. -/
theorem batched_refines_two_calls :
    let db₀ : AccountDB := ⟨Table.empty.insert { id := 1 },
      Table.empty.insert { id := 7, remainQuota := 100 }, .empty⟩
    let es₁ : List BatchEvent := [.call 0 (.decreaseTokenQuota 7 3),
      .call 1 (.updateUserUsedQuotaAndRequestCount 1 5), .record 1, .record 0, .record 1]
    let es₂ : List BatchEvent :=
      List.replicate 7 (.advance 0) ++ [.write 0 7, .write 0 1, .write 0 0]
    let s := Run.run BatchSystem.step (.start db₀) (es₁ ++ .begin 0 :: es₂)
    s.db.column 7 .tokenUsedQuota = some 3 ∧
      ∀ c id, s.db.column id c = (s.calls.foldl QuotaCall.immediate db₀).column id c := by
  intro db₀ es₁ es₂ s
  refine ⟨by decide, ?_⟩
  have hidle : ∀ p ∈ (Run.run BatchSystem.step (.start db₀) es₁).producers.rows,
      p.pending = [] := by decide
  have hfinished : s.AllFinished := by decide
  exact (batched_refines_immediate db₀ (es₁ ++ .begin 0 :: es₂)).2.1 es₁ 0 es₂ rfl hidle rfl
    (by simp [es₂, BatchSystem.BatchEvent.IsCall]) hfinished

end TokenRouter
