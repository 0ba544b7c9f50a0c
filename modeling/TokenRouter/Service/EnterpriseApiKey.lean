import TokenRouter.Common
import TokenRouter.Model.TokenCache

/-!
# The keys of an enterprise (`model/enterprise_token.go`, `service/enterprise_api_key.go`)

The list of keys with its filters, and the summary that goes with it. Every query is read at one
time and answers without an error. The order of equal strings under `LIKE` is the database's.
-/

namespace TokenRouter.EnterpriseKeys

/-- `common.RoleRootUser` -/
def roleRootUser : Int := 100

/-- `users`, with the columns that the list joins. -/
structure UserRow where
  id : Int
  username : String := ""
  displayName : String := ""
  email : String := ""
  group : String := ""
  role : Int := 1
  deleted : Bool := false

/-- The columns of `tokens` that only the filters read. -/
structure TokenColumns where
  name : String := ""
  createdTime : Int := 0
  group : String := ""

/-- `logs`, with the columns that the list counts by. -/
structure LogRow where
  isError : Bool
  createdAt : Int
  tokenId : Int
  other : String := ""
  content : String := ""

structure EnterpriseDB where
  tokens : KeyedTokens
  columns : Nat → TokenColumns := fun _ => {}
  users : Table UserRow (·.id)
  logs : List LogRow := []
  /-- `LIKE ? ESCAPE '!'`: the pattern, then the value -/
  like : String → String → Bool := fun _ _ => false

structure EnterpriseTokenFilters where
  keyword : String := ""
  /-- `0` is `.other 0`, which selects nothing -/
  status : TokenStatus := .other 0
  userId : Int := 0
  group : String := ""
  modelLimitMode : String := ""
  createdStart : Int := 0
  createdEnd : Int := 0
  managerId : Int := 0
  managerRole : Int := 0
  restrictByManagerRole : Bool := false

/-- A token with the columns of its user, none if the join finds none. -/
structure EnterpriseTokenRecord where
  token : TokenRow
  user : Option UserRow

/-! ## The list -/

/-- `filters.RestrictByManagerRole && filters.ManagerRole < common.RoleRootUser` -/
def EnterpriseTokenFilters.restricted (filters : EnterpriseTokenFilters) : Bool :=
  filters.restrictByManagerRole && decide (filters.managerRole < roleRootUser)

/-- `role < ? OR id = ?` -/
def EnterpriseTokenFilters.manages (filters : EnterpriseTokenFilters) (user : UserRow) : Bool :=
  decide (user.role < filters.managerRole) || decide (user.id = filters.managerId)

/-- The value of a `LIKE` that finds a text anywhere. -/
def likePattern (keyword : String) : String :=
  "%" ++ String.ofList (keyword.toList.flatMap fun c =>
    if c = '!' ∨ c = '%' ∨ c = '_' then ['!', c] else [c]) ++ "%"

/-- `strings.TrimPrefix(keyword, "sk-")` -/
def trimSk (keyword : String) : String :=
  if "sk-".toList.isPrefixOf keyword.toList then String.ofList (keyword.toList.drop 3) else keyword

/-- The condition on the keyword; a column of a user who is not there is null. -/
def matchesKeyword (db : EnterpriseDB) (filters : EnterpriseTokenFilters)
    (record : EnterpriseTokenRecord) : Bool :=
  let keyword := trimSpace filters.keyword
  let userLike (column : UserRow → String) : Bool :=
    record.user.elim false fun user => db.like (likePattern keyword) (column user)
  decide (filters.keyword = "") ||
    (db.like (likePattern keyword) (db.columns record.token.id).name ||
      db.like (likePattern (trimSk keyword)) record.token.key ||
      userLike (·.username) || userLike (·.displayName) || userLike (·.email))

/-- The conditions of the filters other than the keyword, the status and the manager. -/
def matchesColumns (db : EnterpriseDB) (filters : EnterpriseTokenFilters) (token : TokenRow) :
    Bool :=
  let columns := db.columns token.id
  (decide (filters.userId ≤ 0) || decide (token.userId = filters.userId)) &&
  (decide (filters.group = "") || decide (columns.group = trimSpace filters.group)) &&
  (match trimSpace filters.modelLimitMode with
    | "restricted" => token.modelLimitsEnabled
    | "all" => !token.modelLimitsEnabled
    | _ => true) &&
  (decide (filters.createdStart ≤ 0) || decide (filters.createdStart ≤ columns.createdTime)) &&
  (decide (filters.createdEnd ≤ 0) || decide (columns.createdTime ≤ filters.createdEnd))

/-- `status = 1 AND (expired_time = -1 OR expired_time > ?) AND (unlimited_quota OR remain_quota > 0)` -/
def activeWhere (now : Int) (token : TokenRow) : Bool :=
  decide (token.status = .enabled) &&
  (decide (token.expiredTime = -1) || decide (now < token.expiredTime)) &&
  (token.unlimitedQuota || decide (0 < token.remainQuota))

/-- `status = 4 OR (status = 1 AND NOT unlimited_quota AND remain_quota <= 0)` -/
def exhaustedWhere (token : TokenRow) : Bool :=
  decide (token.status = .exhausted) ||
    (decide (token.status = .enabled) && !token.unlimitedQuota && decide (token.remainQuota ≤ 0))

/-- The condition of `switch filters.Status`. -/
def matchesStatus (status : TokenStatus) (now : Int) (token : TokenRow) : Bool :=
  match status with
  | .enabled => activeWhere now token
  | .disabled => decide (token.status = .disabled)
  | .expired =>
    decide (token.status = .expired) ||
      (decide (token.status = .enabled) && decide (token.expiredTime ≠ -1) &&
        decide (token.expiredTime ≤ now))
  | .exhausted => exhaustedWhere token
  | .other _ => true

/-- `users.role < ? OR users.id = ?`, after the join; a null compares as false. -/
def matchesManager (filters : EnterpriseTokenFilters) (record : EnterpriseTokenRecord) : Bool :=
  !filters.restricted || record.user.elim false filters.manages

/-- `tokens LEFT JOIN users`; gorm leaves out the deleted tokens, the join keeps deleted users. -/
def joined (db : EnterpriseDB) : List EnterpriseTokenRecord :=
  (db.tokens.table.rows.filter fun token => !token.deleted).map fun token =>
    { token, user := db.users.find? token.userId }

/-- `applyEnterpriseTokenFilters` -/
def applyEnterpriseTokenFilters (db : EnterpriseDB) (filters : EnterpriseTokenFilters) (now : Int)
    (records : List EnterpriseTokenRecord) : List EnterpriseTokenRecord :=
  records.filter fun record =>
    matchesKeyword db filters record && matchesColumns db filters record.token &&
      matchesStatus filters.status now record.token && matchesManager filters record

/-- `Order("tokens.id DESC").Offset(offset).Limit(limit)` -/
def page (offset limit : Int) (records : List EnterpriseTokenRecord) :
    List EnterpriseTokenRecord :=
  let limit := if limit ≤ 0 ∨ 200 < limit then 20 else limit
  ((records.insertionSort fun a b => b.token.id ≤ a.token.id).drop offset.toNat).take limit.toNat

/-- The page and the total of `SearchEnterpriseTokens`. -/
def searchEnterpriseTokens (db : EnterpriseDB) (filters : EnterpriseTokenFilters) (now : Int)
    (offset limit : Int) : List EnterpriseTokenRecord × Nat :=
  let records := applyEnterpriseTokenFilters db filters now (joined db)
  (page offset limit records, records.length)

/-! ## The summary -/

def enterpriseEffectiveTokenStatus (token : TokenRow) (now : Int) : TokenStatus :=
  if token.status ≠ .enabled then token.status
  else if token.expiredTime ≠ -1 ∧ token.expiredTime ≤ now then .expired
  else if token.unlimitedQuota = false ∧ token.remainQuota ≤ 0 then .exhausted
  else .enabled

/-- The fields of `dto.EnterpriseAPIKeyItem` that are not copied from the record. -/
structure EnterpriseAPIKeyItem where
  record : EnterpriseTokenRecord
  effectiveStatus : TokenStatus
  recentFailureCount : Nat

structure EnterpriseAPIKeySummary where
  total : Nat := 0
  active : Nat := 0
  expiringSoon : Nat := 0
  exhausted : Nat := 0
  disabled : Nat := 0
  activeUsers : Nat := 0
  totalUsedQuota : Int := 0
  rateLimitHits : Nat := 0

/-- A `*gorm.DB` that `Model(&Token{})` gave: the conditions of all its `Where` calls so far. -/
structure TokenQuery where
  conds : List (TokenRow → Bool) := []

namespace TokenQuery

/-- `base.Where(..)`, which adds to the conditions of `base` itself. -/
def addWhere (q : TokenQuery) (cond : TokenRow → Bool) : TokenQuery := ⟨q.conds ++ [cond]⟩

/-- The rows that the query selects. -/
def rows (q : TokenQuery) (db : EnterpriseDB) : List TokenRow :=
  db.tokens.table.rows.filter fun token => !token.deleted && q.conds.all fun cond => cond token

def count (q : TokenQuery) (db : EnterpriseDB) : Nat := (q.rows db).length

end TokenQuery

/-- `Pluck("id", &ids)` over the users that a manager sees; gorm leaves out the deleted ones. -/
def managedIds (db : EnterpriseDB) (filters : EnterpriseTokenFilters) : List Int :=
  (db.users.rows.filter fun user => !user.deleted && filters.manages user).map (·.id)

def countEnterpriseAPIKeyRateLimitHits (db : EnterpriseDB) (filters : EnterpriseTokenFilters)
    (since : Int) : Nat :=
  let hits := db.logs.filter fun log =>
    log.isError && decide (since ≤ log.createdAt) && decide (0 < log.tokenId) &&
      (db.like "%\"status_code\":429%" log.other || db.like "%rate limit%" log.content ||
        db.like "%Too Many Requests%" log.content || db.like "%请求数限制%" log.content)
  if filters.restricted then
    let tokenIds := ((joined db).filter fun record => record.user.elim false filters.manages).map
      fun record => (record.token.id : Int)
    if tokenIds = [] then 0
    else (hits.filter fun log => decide (log.tokenId ∈ tokenIds)).length
  else hits.length

/-- The queries of the summary, all of them on `base`. -/
def summaryOf (db : EnterpriseDB) (filters : EnterpriseTokenFilters) (now : Int)
    (base : TokenQuery) : EnterpriseAPIKeySummary :=
  let total := base.count db
  let base := base.addWhere (activeWhere now)
  let active := base.count db
  let base := base.addWhere fun token => decide (token.status = .enabled) &&
    decide (now < token.expiredTime) && decide (token.expiredTime ≤ now + 7 * 24 * 60 * 60)
  let expiringSoon := base.count db
  let base := base.addWhere exhaustedWhere
  let exhausted := base.count db
  let base := base.addWhere fun token => decide (token.status = .disabled)
  let disabled := base.count db
  let activeUsers := ((base.rows db).map (·.userId)).dedup.length
  let totalUsedQuota := ((base.rows db).map (·.usedQuota)).sum
  { total, active, expiringSoon, exhausted, disabled, activeUsers, totalUsedQuota,
    rateLimitHits := countEnterpriseAPIKeyRateLimitHits db filters (now - 24 * 60 * 60) }

/-- `ListEnterpriseAPIKeys` -/
def listEnterpriseAPIKeys (db : EnterpriseDB) (filters : EnterpriseTokenFilters) (now : Int)
    (offset limit : Int) : List EnterpriseAPIKeyItem × Nat × EnterpriseAPIKeySummary :=
  let (records, total) := searchEnterpriseTokens db filters now offset limit
  let items : List EnterpriseAPIKeyItem := records.map fun record =>
    { record
      effectiveStatus := enterpriseEffectiveTokenStatus record.token now
      recentFailureCount := (db.logs.filter fun log : LogRow =>
        decide (log.tokenId = record.token.id) && log.isError &&
          decide (now - 24 * 60 * 60 ≤ log.createdAt)).length }
  if filters.restricted then
    let ids := managedIds db filters
    if ids = [] then (items, total, {})
    else (items, total, summaryOf db filters now
      (TokenQuery.addWhere {} fun token => decide (token.userId ∈ ids)))
  else (items, total, summaryOf db filters now {})

/-! ## Validation -/

/-- `ValidateUserToken` without Redis, with the rows it leaves: it writes the status of a token
    that it finds expired or exhausted. -/
def validateUserToken (tokens : KeyedTokens) (key : String) (now : Int) :
    Except TokenCache.TokenError TokenRow × KeyedTokens :=
  if key = "" then (.error .notProvided, tokens)
  else match tokens.findKey key with
  | none => (.error .invalid, tokens)
  | some token =>
    let written (status : TokenStatus) : KeyedTokens :=
      tokens.write token.id (TokenRow.selectColumns { token with status })
    if token.status = .exhausted then (.error .exhausted, tokens)
    else if token.status = .expired then (.error .expired, tokens)
    else if token.status ≠ .enabled then (.error .disabled, tokens)
    else if token.expiredTime ≠ -1 ∧ token.expiredTime < now then (.error .expired, written .expired)
    else if token.unlimitedQuota = false ∧ token.remainQuota ≤ 0 then
      (.error .exhausted, written .exhausted)
    else (.ok token, tokens)

end TokenRouter.EnterpriseKeys
