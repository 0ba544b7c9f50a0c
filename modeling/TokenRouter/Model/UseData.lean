import TokenRouter.ForStd.Split
import TokenRouter.ForStd.Table

/-!
# Dashboard data (`model/usedata.go`)

Every node counts the calls it serves in a cache, a map keyed by text. `SaveQuotaDataCache`
holds the lock of the cache while it goes through the entries in any order: it looks a row
up, and then increases all rows with the same values or inserts one. Nothing makes the rows
unique.
-/

namespace TokenRouter

/-- The columns of `quota_data` that tell one row from another; `createdAt` is an hour. -/
structure QuotaDataKey where
  userId : Int
  username : String := ""
  modelName : String := ""
  createdAt : Int
  useGroup : String := ""
  tokenId : Int := 0
  channelId : Int := 0
  nodeName : String := ""
deriving DecidableEq

/-- The key of a cache entry: `%d\x00%s\x00%s\x00%d\x00%s\x00%d\x00%d\x00%s`. -/
def QuotaDataKey.cacheKey (k : QuotaDataKey) : String :=
  String.intercalate "\x00" [toString k.userId, k.username, k.modelName, toString k.createdAt,
    k.useGroup, toString k.tokenId, toString k.channelId, k.nodeName]

/-- Keys whose names contain no separator have entries of their own. -/
theorem QuotaDataKey.cacheKey_inj {k k' : QuotaDataKey}
    (h : ∀ name ∈ [k.username, k.modelName, k.useGroup, k.nodeName], '\x00' ∉ name.toList)
    (h' : ∀ name ∈ [k'.username, k'.modelName, k'.useGroup, k'.nodeName], '\x00' ∉ name.toList)
    (heq : k.cacheKey = k'.cacheKey) : k = k' := by
  simp only [List.forall_mem_cons, List.not_mem_nil, false_imp_iff, implies_true,
    and_true] at h h'
  obtain ⟨huser, hmodel, hgroup, hnode⟩ := h
  obtain ⟨huser', hmodel', hgroup', hnode'⟩ := h'
  -- a separator is where the text is split, so the parts are the same
  have hparts := congrArg (fun s => s.toList.splitOn '\x00') heq
  have hsep : "\x00".toList = ['\x00'] := by decide
  simp only [cacheKey, String.toList_intercalate, hsep] at hparts
  rw [List.splitOn_intercalate, List.splitOn_intercalate] at hparts
  · simp only [List.map_cons, List.map_nil, List.cons.injEq, String.toList_inj, and_true,
      Int.toString_eq_repr, Int.repr_inj] at hparts
    obtain ⟨h1, h2, h3, h4, h5, h6, h7, h8⟩ := hparts
    cases k
    cases k'
    simp_all
  all_goals simp_all [Separator.notMem_repr]

/-- The hours of a user have entries of their own. -/
theorem QuotaDataKey.cacheKey_hours :
    QuotaDataKey.cacheKey { userId := 1, username := "ann", modelName := "m", createdAt := 3600 } ≠
      QuotaDataKey.cacheKey { userId := 1, username := "ann", modelName := "m", createdAt := 7200 } :=
  fun heq => absurd (QuotaDataKey.cacheKey_inj (by decide) (by decide) heq) (by decide)

/-- `QuotaData` -/
structure QuotaData where
  id : Nat := 0
  key : QuotaDataKey
  count : Int := 0
  quota : Int := 0
  tokenUsed : Int := 0
deriving DecidableEq

/-- `QuotaDataLogParams` -/
structure QuotaDataLogParams where
  userId : Int
  username : String := ""
  modelName : String := ""
  quota : Int := 0
  createdAt : Int
  tokenUsed : Int := 0
  useGroup : String := ""
  tokenId : Int := 0
  channelId : Int := 0
  nodeName : String := ""
deriving DecidableEq

/-- The entry that `LogQuotaData` makes of a call. -/
def QuotaDataLogParams.entry (params : QuotaDataLogParams) : QuotaData :=
  { key := { userId := params.userId, username := params.username, modelName := params.modelName
             createdAt := params.createdAt - params.createdAt.tmod 3600
             useGroup := params.useGroup, tokenId := params.tokenId
             channelId := params.channelId, nodeName := params.nodeName }
    count := 1, quota := params.quota, tokenUsed := params.tokenUsed }

/-- `d` with the counters of `e` added. -/
def QuotaData.add (d e : QuotaData) : QuotaData :=
  { d with count := d.count + e.count, quota := d.quota + e.quota
           tokenUsed := d.tokenUsed + e.tokenUsed }

/-- `CacheQuotaData` -/
abbrev QuotaDataCache : Type := Table QuotaData (·.key.cacheKey)

/-- `logQuotaDataCache` -/
def QuotaDataCache.log (cache : QuotaDataCache) (quotaData : QuotaData) : QuotaDataCache :=
  match cache.find? quotaData.key.cacheKey with
  | some cached => cache.set (cached.add quotaData)
  | none => cache.insert quotaData

/-- A flush on its way: the entries it has not come to, and the one it has looked up, with
    whether there was a row. -/
structure QuotaDataFlush where
  waiting : QuotaDataCache
  current : Option (QuotaData × Bool) := none

/-- A node: its cache, and the flush that holds the lock of it. -/
structure UseDataNode where
  cache : QuotaDataCache := .empty
  flush : Option QuotaDataFlush := none

/-- The table `quota_data`. -/
abbrev QuotaDataTable : Type := Table QuotaData (·.id)

/-- `increaseQuotaData` -/
def QuotaDataTable.increase (rows : QuotaDataTable) (quotaData : QuotaData) : QuotaDataTable :=
  rows.mapRows (fun row => if row.key = quotaData.key then row.add quotaData else row) (by
    intro row
    split <;> rfl)

/-- `DB.Table("quota_data").Create(quotaData)` -/
def QuotaDataTable.create (rows : QuotaDataTable) (quotaData : QuotaData) : QuotaDataTable :=
  rows.insert { quotaData with id := rows.nextId }

/-- The nodes, the table they share, and the entries of all calls so far. -/
structure UseData where
  nodes : List UseDataNode
  rows : QuotaDataTable := .empty
  logged : List QuotaData := []

/-- A call or a step of a flush on the node `n`. The database may fail: a failed look-up reads
    like a missing row, a failed write is only noted. -/
inductive UseDataEvent where
  | log (n : Nat) (params : QuotaDataLogParams)
  | lock (n : Nat)
  | lookUp (n : Nat) (cacheKey : String) (ok : Bool)
  | write (n : Nat) (ok : Bool)
  | unlock (n : Nat)
deriving DecidableEq

namespace UseData

/-- `LogQuotaData`; it waits while a flush holds the lock. -/
def log (s : UseData) (n : Nat) (params : QuotaDataLogParams) : UseData :=
  match s.nodes[n]? with
  | some { cache, flush := none } =>
    { s with nodes := s.nodes.set n { cache := cache.log params.entry }
             logged := s.logged ++ [params.entry] }
  | _ => s

/-- The start of `SaveQuotaDataCache`. -/
def lock (s : UseData) (n : Nat) : UseData :=
  match s.nodes[n]? with
  | some { cache, flush := none } =>
    { s with nodes := s.nodes.set n { cache, flush := some { waiting := cache } } }
  | _ => s

/-- The look-up of the next entry. -/
def lookUp (s : UseData) (n : Nat) (cacheKey : String) (ok : Bool) : UseData :=
  match s.nodes[n]? with
  | some { cache, flush := some { waiting, current := none } } =>
    match waiting.find? cacheKey with
    | some quotaData =>
      let found := ok && s.rows.rows.any (·.key = quotaData.key)
      let flush : QuotaDataFlush :=
        { waiting := waiting.erase cacheKey, current := some (quotaData, found) }
      { s with nodes := s.nodes.set n { cache, flush := some flush } }
    | none => s
  | _ => s

/-- The update or the insert. -/
def write (s : UseData) (n : Nat) (ok : Bool) : UseData :=
  match s.nodes[n]? with
  | some { cache, flush := some { waiting, current := some (quotaData, found) } } =>
    let rows :=
      if ok then
        if found then s.rows.increase quotaData else s.rows.create quotaData
      else s.rows
    { s with rows, nodes := s.nodes.set n { cache, flush := some { waiting } } }
  | _ => s

/-- The end of `SaveQuotaDataCache`: the cache is emptied. -/
def unlock (s : UseData) (n : Nat) : UseData :=
  match s.nodes[n]? with
  | some { cache := _, flush := some { waiting, current := none } } =>
    if waiting.rows = [] then { s with nodes := s.nodes.set n {} } else s
  | _ => s

/-- One event. -/
def step (s : UseData) : UseDataEvent → UseData
  | .log n params => s.log n params
  | .lock n => s.lock n
  | .lookUp n cacheKey ok => s.lookUp n cacheKey ok
  | .write n ok => s.write n ok
  | .unlock n => s.unlock n

end UseData

end TokenRouter
