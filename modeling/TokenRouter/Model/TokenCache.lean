import TokenRouter.Model.TokenRow

/-!
# The token cache (`model/token.go`, `model/token_cache.go`, `common/redis.go`)

The hashes of tokens that Redis keeps by key, beside the rows of the database. Whoever reads or
writes a row starts a task that brings the hash up to date; tasks run later, in any order. The
hash names of two keys differ, as their HMACs do.
-/

namespace TokenRouter

/-! ## Rows by key -/

/-- The tokens with their unique index on `key`, which deleted rows keep. -/
structure KeyedTokens where
  table : TokenTable
  uniqueKeys : (table.rows.map (·.key)).Nodup

/-- An `UPDATE` goes over the rows. -/
theorem TokenTable.rows_updateLive (t : TokenTable) (id : Nat) {f : TokenRow → TokenRow}
    (hid : ∀ row, (f row).id = row.id) :
    (t.updateLive id f).rows =
      t.rows.map fun row => if row.id = id ∧ row.deleted = false then f row else row := by
  unfold updateLive Table.update
  cases hfind : t.find? id with
  | none =>
    have hne := Table.find?_eq_none_iff.mp hfind
    refine ((List.map_congr_left fun row hrow => ?_).trans (List.map_id _)).symm
    exact if_neg fun h => hne row hrow h.1
  | some r =>
    have hr : r.id = id := Table.find?_key hfind
    have hkey : (if r.deleted then r else f r).id = id := by
      split
      · exact hr
      · exact (hid r).trans hr
    refine List.map_congr_left fun row hrow => ?_
    simp only [hkey]
    by_cases heq : row.id = id
    · obtain rfl : row = r := Table.eq_of_key_eq t hrow (Table.find?_mem hfind) (heq.trans hr.symm)
      cases hd : row.deleted <;> simp [heq]
    · simp [heq]

namespace KeyedTokens

/-- An `UPDATE` that leaves the key. -/
def write (t : KeyedTokens) (id : Nat) (f : TokenRow → TokenRow)
    (hid : ∀ row, (f row).id = row.id := by exact fun _ => rfl)
    (hkey : ∀ row, (f row).key = row.key := by exact fun _ => rfl) : KeyedTokens :=
  ⟨t.table.updateLive id f, by
    have hkeys : (t.table.updateLive id f).rows.map (·.key) = t.table.rows.map (·.key) := by
      rw [TokenTable.rows_updateLive _ _ hid, List.map_map]
      refine List.map_congr_left fun row _ => ?_
      simp only [Function.comp_apply]
      split
      · exact hkey row
      · rfl
    rw [hkeys]
    exact t.uniqueKeys⟩

/-- An `UPDATE` of the key; the index refuses a key that another row has. -/
def writeKey (t : KeyedTokens) (id : Nat) (key : String) : Option KeyedTokens :=
  let table := t.table.updateLive id fun row => { row with key }
  if h : (table.rows.map (·.key)).Nodup then some ⟨table, h⟩ else none

/-- `Where(key = ?).First` -/
def findKey (t : KeyedTokens) (key : String) : Option TokenRow :=
  t.table.rows.find? fun row => row.key = key && !row.deleted

end KeyedTokens

/-! ## Hashes -/

/-- A hash: all fields of a token, or `RemainQuota` alone. -/
inductive CachedToken where
  | complete (token : TokenRow)
  | quotaOnly (remainQuota : Int)
  deriving DecidableEq

namespace CachedToken

/-- What `RedisHGetObj` reads into a new token; `DeletedAt` is not cached. -/
def token (key : String) : CachedToken → TokenRow
  | complete token => { token with key, deleted := false }
  | quotaOnly remainQuota =>
    { id := 0, key, status := .other 0, expiredTime := 0, remainQuota }

/-- `HINCRBY` of `RemainQuota`, which makes a hash where there is none. -/
def hIncrBy (delta : Int) : Option CachedToken → CachedToken
  | some (complete token) => complete { token with remainQuota := token.remainQuota + delta }
  | some (quotaOnly remainQuota) => quotaOnly (remainQuota + delta)
  | none => quotaOnly delta

end CachedToken

/-- The background tasks. -/
inductive CacheTask where
  /-- `cacheSetToken` -/
  | set (token : TokenRow)
  /-- `cacheDeleteToken` -/
  | delete (key : String)
  /-- the task of `RotateEnterpriseTokenKey`: delete, then set -/
  | rotate (oldKey : String) (token : TokenRow)
  /-- `RedisHIncrBy`, and its part after the check of the TTL -/
  | incr (key : String) (delta : Int)
  | incrChecked (key : String) (delta : Int)
  deriving DecidableEq

/-- The rows, the hashes, the readers that missed, and the pending tasks. -/
structure TokenCache where
  tokens : KeyedTokens
  hashes : String → Option CachedToken := fun _ => none
  missed : List String := []
  tasks : List CacheTask := []

/-- The steps. An editor holds a copy of a row that it loaded some time before and changed. -/
inductive TokenCacheEvent where
  /-- `GetTokenByKey` up to the cache, and its read of the database after a miss -/
  | lookup (key : String)
  | read (i : Nat)
  /-- `Token.Update`, `Token.SelectUpdate`, `Token.Delete` and `RotateEnterpriseTokenKey` -/
  | update (copy : TokenRow)
  | selectUpdate (copy : TokenRow)
  | delete (copy : TokenRow)
  | rotate (copy : TokenRow) (key : String)
  /-- `IncreaseTokenQuota`, and `DecreaseTokenQuota` with a negative change -/
  | changeQuota (id : Nat) (key : String) (quota : Int)
  /-- the next step of a pending task -/
  | runTask (i : Nat)
  /-- a hash comes to the end of its TTL -/
  | expire (key : String)
  deriving DecidableEq

namespace TokenCache

/-- Give a key its hash. -/
def setHash (s : TokenCache) (key : String) (hash : Option CachedToken) : TokenCache :=
  { s with hashes := fun k => if k = key then hash else s.hashes k }

/-- `gopool.Go` -/
def start (s : TokenCache) (task : CacheTask) : TokenCache := { s with tasks := s.tasks ++ [task] }

/-- `GetTokenByKey` up to the cache. -/
def lookup (s : TokenCache) (key : String) : TokenCache :=
  match s.hashes key with
  | some _ => s
  | none => { s with missed := s.missed ++ [key] }

/-- The rest of `GetTokenByKey` after a miss. -/
def read (s : TokenCache) (i : Nat) : TokenCache :=
  match s.missed[i]? with
  | none => s
  | some key =>
    let s := { s with missed := s.missed.eraseIdx i }
    match s.tokens.findKey key with
    | none => s
    | some token => s.start (.set token)

/-- `Token.Update`; a row that is gone is no error. -/
def update (s : TokenCache) (copy : TokenRow) : TokenCache :=
  { s with tokens := s.tokens.write copy.id copy.updateColumns }.start (.set copy)

/-- `Token.SelectUpdate` -/
def selectUpdate (s : TokenCache) (copy : TokenRow) : TokenCache :=
  { s with tokens := s.tokens.write copy.id copy.selectColumns }.start (.set copy)

/-- `Token.Delete` -/
def delete (s : TokenCache) (copy : TokenRow) : TokenCache :=
  { s with tokens := s.tokens.write copy.id fun row => { row with deleted := true } }.start
    (.delete copy.key)

/-- `RotateEnterpriseTokenKey` -/
def rotate (s : TokenCache) (copy : TokenRow) (key : String) : TokenCache :=
  match s.tokens.writeKey copy.id key with
  | none => s
  | some tokens => { s with tokens }.start (.rotate copy.key { copy with key })

/-- `IncreaseTokenQuota` and `DecreaseTokenQuota` in direct mode. -/
def changeQuota (s : TokenCache) (id : Nat) (key : String) (quota : Int) : TokenCache :=
  { s with tokens := s.tokens.write id (TokenRow.addQuota quota) }.start (.incr key quota)

/-- The next step of a pending task. -/
def runTask (s : TokenCache) (i : Nat) : TokenCache :=
  match s.tasks[i]? with
  | none => s
  | some task =>
    let rest := { s with tasks := s.tasks.eraseIdx i }
    match task with
    | .set token => rest.setHash token.key (some (.complete token))
    | .delete key => rest.setHash key none
    | .rotate oldKey token =>
      let s := { s with tasks := s.tasks.set i (.set token) }
      if oldKey ≠ "" then s.setHash oldKey none else s
    | .incr key delta =>
      match s.hashes key with
      | some _ => { s with tasks := s.tasks.set i (.incrChecked key delta) }
      | none => rest
    | .incrChecked key delta =>
      rest.setHash key (some (CachedToken.hIncrBy delta (s.hashes key)))

/-- One step. -/
def step (s : TokenCache) : TokenCacheEvent → TokenCache
  | .lookup key => s.lookup key
  | .read i => s.read i
  | .update copy => s.update copy
  | .selectUpdate copy => s.selectUpdate copy
  | .delete copy => s.delete copy
  | .rotate copy key => s.rotate copy key
  | .changeQuota id key quota => s.changeQuota id key quota
  | .runTask i => s.runTask i
  | .expire key => s.setHash key none

/-! ## Validation -/

/-- The errors of `ValidateUserToken`. -/
inductive TokenError where
  | notProvided
  | invalid
  | exhausted
  | expired
  | disabled
  deriving DecidableEq

/-- What `GetTokenByKey` returns. -/
def getTokenByKey (s : TokenCache) (key : String) : Option TokenRow :=
  match s.hashes key with
  | some hash => some (hash.token key)
  | none => s.tokens.findKey key

/-- `ValidateUserToken` with Redis. -/
def validateUserToken (s : TokenCache) (key : String) (now : Int) : Except TokenError TokenRow :=
  if key = "" then .error .notProvided
  else match s.getTokenByKey key with
  | none => .error .invalid
  | some token =>
    if token.status = .exhausted then .error .exhausted
    else if token.status = .expired then .error .expired
    else if token.status ≠ .enabled then .error .disabled
    else if token.expiredTime ≠ -1 ∧ token.expiredTime < now then .error .expired
    else if token.unlimitedQuota = false ∧ token.remainQuota ≤ 0 then .error .exhausted
    else .ok token

end TokenCache

end TokenRouter
