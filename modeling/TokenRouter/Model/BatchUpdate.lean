import TokenRouter.Model.Quota

/-!
# Batched quota updates (`model/utils.go`, `model/user.go`, `model/token.go`, `model/channel.go`)

With batch updates enabled, a quota operation adds its delta to a map in memory, under the
lock of that map. `batchUpdate` swaps the maps one by one for empty ones and writes what it
took to the database, row by row.
-/

namespace TokenRouter

/-! ## The database -/

/-- `users`, as far as accounting writes it. -/
structure AccountUser where
  id : Int
  quota : Int := 0
  usedQuota : Int := 0
  requestCount : Int := 0
  deriving DecidableEq

/-- `channels`, as far as accounting writes it. -/
structure AccountChannel where
  id : Int
  usedQuota : Int := 0
  deriving DecidableEq

/-- The accounting columns. -/
structure AccountDB where
  users : Table AccountUser (·.id)
  tokens : Table Token (·.id)
  channels : Table AccountChannel (·.id)

namespace AccountDB

/-- `increaseUserQuota`; with a negative delta it is `decreaseUserQuota`. -/
def increaseUserQuota (db : AccountDB) (id quota : Int) : AccountDB :=
  { db with users := db.users.update id fun u => { u with quota := u.quota + quota } }

/-- `updateUserUsedQuotaAndRequestCount` -/
def updateUserUsedQuotaAndRequestCount (db : AccountDB) (id quota count : Int) : AccountDB :=
  { db with
    users := db.users.update id fun u =>
      { u with usedQuota := u.usedQuota + quota, requestCount := u.requestCount + count } }

/-- `updateUserQuotaUsedQuotaAndRequestCount` -/
def updateUserQuotaUsedQuotaAndRequestCount (db : AccountDB)
    (id quota usedQuota requestCount : Int) : AccountDB :=
  if quota = 0 ∧ usedQuota = 0 ∧ requestCount = 0 then db
  else
    { db with
      users := db.users.update id fun u =>
        { u with
          quota := u.quota + quota
          usedQuota := u.usedQuota + usedQuota
          requestCount := u.requestCount + requestCount } }

/-- `increaseTokenQuota`; with a negative delta it is `decreaseTokenQuota`. -/
def increaseTokenQuota (db : AccountDB) (id quota : Int) : AccountDB :=
  { db with
    tokens := db.tokens.update id fun t =>
      { t with remainQuota := t.remainQuota + quota, usedQuota := t.usedQuota - quota } }

/-- `updateChannelUsedQuota` -/
def updateChannelUsedQuota (db : AccountDB) (id quota : Int) : AccountDB :=
  { db with channels := db.channels.update id fun c => { c with usedQuota := c.usedQuota + quota } }

end AccountDB

/-! ## The stores -/

/-- The `BatchUpdateType` constants, in the order of their values. -/
inductive BatchUpdateType where
  | userQuota
  | tokenQuota
  | usedQuota
  | channelUsedQuota
  | requestCount
  deriving DecidableEq

/-- `i++` in the loops over the types. -/
def BatchUpdateType.next : BatchUpdateType → Option BatchUpdateType
  | .userQuota => some .tokenQuota
  | .tokenQuota => some .usedQuota
  | .usedQuota => some .channelUsedQuota
  | .channelUsedQuota => some .requestCount
  | .requestCount => none

/-- A `map[int]int`. -/
abbrev DeltaMap := Table (Int × Int) (·.1)

/-- Go's `m[id]`, zero for a missing key. -/
def DeltaMap.get (m : DeltaMap) (id : Int) : Int := ((m.find? id).map (·.2)).getD 0

/-- The maps of all types. -/
abbrev Stores := BatchUpdateType → DeltaMap

/-- The lock section of `addNewRecord`. -/
def Stores.addNewRecord (stores : Stores) (type : BatchUpdateType) (id value : Int) : Stores :=
  Function.update stores type
    (match (stores type).find? id with
      | none => (stores type).insert (id, value)
      | some entry => (stores type).set (id, entry.2 + value))

/-! ## Operations -/

/-- The quota operations; `direct` is the argument `db` of the user functions. -/
inductive QuotaCall where
  | increaseUserQuota (id quota : Int) (direct : Bool)
  | decreaseUserQuota (id quota : Int) (direct : Bool)
  | increaseTokenQuota (id quota : Int)
  | decreaseTokenQuota (id quota : Int)
  | updateUserUsedQuotaAndRequestCount (id quota : Int)
  | updateChannelUsedQuota (id quota : Int)
  deriving DecidableEq

/-- A call of `addNewRecord`. -/
structure DeltaRecord where
  type : BatchUpdateType
  id : Int
  value : Int
  deriving DecidableEq

namespace QuotaCall

/-- The records of a call when batch updates are enabled; a negative quota is an error. -/
def records : QuotaCall → List DeltaRecord
  | .increaseUserQuota id quota direct =>
    if quota < 0 ∨ direct then [] else [⟨.userQuota, id, quota⟩]
  | .decreaseUserQuota id quota direct =>
    if quota < 0 ∨ direct then [] else [⟨.userQuota, id, -quota⟩]
  | .increaseTokenQuota id quota => if quota < 0 then [] else [⟨.tokenQuota, id, quota⟩]
  | .decreaseTokenQuota id quota => if quota < 0 then [] else [⟨.tokenQuota, id, -quota⟩]
  | .updateUserUsedQuotaAndRequestCount id quota =>
    [⟨.usedQuota, id, quota⟩, ⟨.requestCount, id, 1⟩]
  | .updateChannelUsedQuota id quota => [⟨.channelUsedQuota, id, quota⟩]

/-- The user and the delta that a call writes to the database at once, batch updates or not. -/
def directDelta : QuotaCall → Option (Int × Int)
  | .increaseUserQuota id quota true => if quota < 0 then none else some (id, quota)
  | .decreaseUserQuota id quota true => if quota < 0 then none else some (id, -quota)
  | _ => none

/-- A call when batch updates are disabled. -/
def immediate (db : AccountDB) : QuotaCall → AccountDB
  | .increaseUserQuota id quota _ => if quota < 0 then db else db.increaseUserQuota id quota
  | .decreaseUserQuota id quota _ => if quota < 0 then db else db.increaseUserQuota id (-quota)
  | .increaseTokenQuota id quota => if quota < 0 then db else db.increaseTokenQuota id quota
  | .decreaseTokenQuota id quota => if quota < 0 then db else db.increaseTokenQuota id (-quota)
  | .updateUserUsedQuotaAndRequestCount id quota =>
    db.updateUserUsedQuotaAndRequestCount id quota 1
  | .updateChannelUsedQuota id quota => db.updateChannelUsedQuota id quota

end QuotaCall

/-! ## Goroutines -/

/-- A goroutine in a quota operation: the lock sections that are still ahead. -/
structure Producer where
  pid : Nat
  pending : List DeltaRecord

/-- Where a `batchUpdate` run is. -/
inductive BatchStage where
  /-- looking for data, at this type -/
  | checking (type : BatchUpdateType)
  /-- swapping the maps, at this type -/
  | swapping (type : BatchUpdateType) (taken : Stores)
  /-- writing the rows of what is left of the taken maps -/
  | writing (taken : Stores)
  | finished

/-- A `batchUpdate` run. -/
structure BatchRun where
  rid : Nat
  stage : BatchStage

/-- Nothing. -/
def Stores.nothing : Stores := fun _ => .empty

namespace Stores

/-- The keys of the three maps of users. -/
def hasUser (stores : Stores) (id : Int) : Bool :=
  ((stores .userQuota).find? id).isSome || ((stores .usedQuota).find? id).isSome ||
    ((stores .requestCount).find? id).isSome

/-- Drop a key of the maps of some types. -/
def drop (stores : Stores) (types : List BatchUpdateType) (id : Int) : Stores := fun type =>
  if type ∈ types then (stores type).erase id else stores type

/-- Whether all maps are empty. -/
def isEmpty (stores : Stores) : Bool :=
  (stores .userQuota).rows.isEmpty && (stores .tokenQuota).rows.isEmpty &&
    (stores .usedQuota).rows.isEmpty && (stores .channelUsedQuota).rows.isEmpty &&
    (stores .requestCount).rows.isEmpty

/-- The row write of a run for a key, with what is left to write. Tokens come first, then
    channels, then users; the order of the keys is that of a Go map, any order. -/
def writeRow (db : AccountDB) (taken : Stores) (key : Int) : AccountDB × Stores :=
  if ¬ (taken .tokenQuota).rows.isEmpty then
    match (taken .tokenQuota).find? key with
    | none => (db, taken)
    | some (_, value) => (db.increaseTokenQuota key value, taken.drop [.tokenQuota] key)
  else if ¬ (taken .channelUsedQuota).rows.isEmpty then
    match (taken .channelUsedQuota).find? key with
    | none => (db, taken)
    | some (_, value) => (db.updateChannelUsedQuota key value, taken.drop [.channelUsedQuota] key)
  else if taken.hasUser key then
    (db.updateUserQuotaUsedQuotaAndRequestCount key ((taken .userQuota).get key)
        ((taken .usedQuota).get key) ((taken .requestCount).get key),
      taken.drop [.userQuota, .usedQuota, .requestCount] key)
  else (db, taken)

end Stores

/-- The database, the stores and the goroutines. `calls` are the operations so far and
    `recorded` the deltas that they have handed over, by type and id. -/
structure BatchSystem where
  db : AccountDB
  stores : Stores
  producers : Table Producer (·.pid)
  runs : Table BatchRun (·.rid)
  calls : List QuotaCall
  recorded : BatchUpdateType → Int → Int

/-- The steps. -/
inductive BatchEvent where
  /-- a goroutine calls an operation -/
  | call (pid : Nat) (op : QuotaCall)
  /-- its next lock section -/
  | record (pid : Nat)
  /-- a `batchUpdate` run begins -/
  | begin (rid : Nat)
  /-- its next lock section -/
  | advance (rid : Nat)
  /-- its row write for a key -/
  | write (rid : Nat) (key : Int)

/-- The value at one type and one id. -/
def singleDelta (type : BatchUpdateType) (id value : Int) : BatchUpdateType → Int → Int :=
  fun t i => if t = type ∧ i = id then value else 0

theorem singleDelta_apply (type : BatchUpdateType) (id value : Int) (t : BatchUpdateType)
    (i : Int) : singleDelta type id value t i = if t = type ∧ i = id then value else 0 := rfl

namespace BatchSystem

/-- The next lock section of a run: a check, or a swap. -/
def advanceRun (s : BatchSystem) (r : BatchRun) : BatchSystem :=
  match r.stage with
  | .checking type =>
    let stage :=
      if ¬ (s.stores type).rows.isEmpty then .swapping .userQuota Stores.nothing
      else (type.next.map BatchStage.checking).getD .finished
    { s with runs := s.runs.set { r with stage := stage } }
  | .swapping type taken =>
    let taken' := Function.update taken type (s.stores type)
    let stage := (type.next.map fun t => BatchStage.swapping t taken').getD (.writing taken')
    { s with
      stores := Function.update s.stores type .empty
      runs := s.runs.set { r with stage := stage } }
  | _ => s

/-- The next row write of a run; without rows left the run ends. -/
def writeRun (s : BatchSystem) (r : BatchRun) (key : Int) : BatchSystem :=
  match r.stage with
  | .writing taken =>
    if taken.isEmpty then { s with runs := s.runs.set { r with stage := .finished } }
    else
      let (db, taken') := taken.writeRow s.db key
      { s with db := db, runs := s.runs.set { r with stage := .writing taken' } }
  | _ => s

/-- One step. -/
def step (s : BatchSystem) : BatchEvent → BatchSystem
  | .call pid op =>
    match s.producers.find? pid with
    | some _ => s
    | none =>
      let s' := { s with
        producers := s.producers.insert ⟨pid, op.records⟩
        calls := s.calls ++ [op] }
      match op.directDelta with
      | none => s'
      | some (id, value) =>
        { s' with
          db := s'.db.increaseUserQuota id value
          recorded := s'.recorded + singleDelta .userQuota id value }
  | .record pid =>
    match s.producers.find? pid with
    | none => s
    | some p =>
      match p.pending with
      | [] => s
      | r :: rest =>
        { s with
          stores := s.stores.addNewRecord r.type r.id r.value
          producers := s.producers.set { p with pending := rest }
          recorded := s.recorded + singleDelta r.type r.id r.value }
  | .begin rid => { s with runs := s.runs.insert ⟨rid, .checking .userQuota⟩ }
  | .advance rid =>
    match s.runs.find? rid with
    | none => s
    | some r => s.advanceRun r
  | .write rid key =>
    match s.runs.find? rid with
    | none => s
    | some r => s.writeRun r key

/-- Before the first operation. -/
def start (db : AccountDB) : BatchSystem :=
  ⟨db, Stores.nothing, .empty, .empty, [], 0⟩

end BatchSystem

end TokenRouter
