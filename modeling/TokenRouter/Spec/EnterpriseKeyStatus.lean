import TokenRouter.Service.EnterpriseApiKey

/-!
# The status of an enterprise key

The list of keys, its summary and `ValidateUserToken` each read the status of a key. They agree
exactly when no key falls between their rules: a key that is expired and out of quota at once, one
that expires this second, and every key that is disabled or out of quota, which the summary never
counts, since all its conditions are added to one query.

## Key results

- `matchesStatus_iff`: where a filter and the effective status part
- `summary_counts`: what the accumulated queries leave of the summary
- `validateUserToken_ok_iff`: the keys that a request is accepted with
- `keyStatus_iff`: when list, summary and validation agree
-/

namespace TokenRouter.EnterpriseKeys

/-! ## Rows of a token -/

/-- `expired_time` is set and has come. -/
def IsExpired (token : TokenRow) (now : Int) : Prop :=
  token.expiredTime ≠ -1 ∧ token.expiredTime ≤ now

instance (token : TokenRow) (now : Int) : Decidable (IsExpired token now) :=
  inferInstanceAs (Decidable (_ ∧ _))

/-- A limited quota that is used up. -/
def IsSpent (token : TokenRow) : Prop := token.unlimitedQuota = false ∧ token.remainQuota ≤ 0

instance (token : TokenRow) : Decidable (IsSpent token) := inferInstanceAs (Decidable (_ ∧ _))

theorem effective_eq_enabled_iff {token : TokenRow} {now : Int} :
    enterpriseEffectiveTokenStatus token now = .enabled ↔
      token.status = .enabled ∧ ¬ IsExpired token now ∧ ¬ IsSpent token := by
  unfold enterpriseEffectiveTokenStatus IsExpired IsSpent
  split_ifs <;> simp_all

theorem effective_eq_disabled_iff {token : TokenRow} {now : Int} :
    enterpriseEffectiveTokenStatus token now = .disabled ↔ token.status = .disabled := by
  unfold enterpriseEffectiveTokenStatus
  split_ifs <;> simp_all

theorem effective_eq_expired_iff {token : TokenRow} {now : Int} :
    enterpriseEffectiveTokenStatus token now = .expired ↔
      token.status = .expired ∨ token.status = .enabled ∧ IsExpired token now := by
  unfold enterpriseEffectiveTokenStatus IsExpired
  split_ifs <;> simp_all

theorem effective_eq_exhausted_iff {token : TokenRow} {now : Int} :
    enterpriseEffectiveTokenStatus token now = .exhausted ↔
      token.status = .exhausted ∨
        token.status = .enabled ∧ ¬ IsExpired token now ∧ IsSpent token := by
  unfold enterpriseEffectiveTokenStatus IsExpired IsSpent
  split_ifs <;> simp_all

/-- The condition of the active keys is the effective status. -/
theorem activeWhere_iff {token : TokenRow} {now : Int} :
    activeWhere now token = true ↔ enterpriseEffectiveTokenStatus token now = .enabled := by
  rw [effective_eq_enabled_iff]
  have htime : token.expiredTime = -1 ∨ now < token.expiredTime ↔ ¬ IsExpired token now := by
    unfold IsExpired
    omega
  have hquota : token.unlimitedQuota = true ∨ 0 < token.remainQuota ↔ ¬ IsSpent token := by
    unfold IsSpent
    cases token.unlimitedQuota <;> simp
  simp only [activeWhere, Bool.and_eq_true, Bool.or_eq_true, decide_eq_true_eq, htime, hquota,
    and_assoc]

theorem exhaustedWhere_iff {token : TokenRow} :
    exhaustedWhere token = true ↔
      token.status = .exhausted ∨ token.status = .enabled ∧ IsSpent token := by
  simp [exhaustedWhere, IsSpent, and_assoc]

/-- The four statuses that a key can be filtered by. -/
def IsFilter (status : TokenStatus) : Prop :=
  status = .enabled ∨ status = .disabled ∨ status = .expired ∨ status = .exhausted

/-- A filter selects the keys with its effective status, except that the filter of the exhausted
    keys also selects the enabled keys that are expired as well. -/
theorem matchesStatus_iff {status : TokenStatus} {token : TokenRow} {now : Int}
    (h : IsFilter status) :
    matchesStatus status now token = true ↔
      enterpriseEffectiveTokenStatus token now = status ∨
        status = .exhausted ∧ token.status = .enabled ∧ IsExpired token now ∧ IsSpent token := by
  rcases h with rfl | rfl | rfl | rfl
  · simp [matchesStatus, activeWhere_iff]
  · simp [matchesStatus, effective_eq_disabled_iff]
  · simp [matchesStatus, effective_eq_expired_iff, IsExpired, and_assoc]
  · show exhaustedWhere token = true ↔ _
    rw [exhaustedWhere_iff, effective_eq_exhausted_iff]
    by_cases hexpired : IsExpired token now
    · simp [hexpired]
    · simp [hexpired]

/-! ## The list -/

/-- The keys that the list shows under the filters without a status. -/
def visible (db : EnterpriseDB) (filters : EnterpriseTokenFilters) (now : Int) :
    List EnterpriseTokenRecord :=
  applyEnterpriseTokenFilters db { filters with status := .other 0 } now (joined db)

/-- The visible keys with an effective status. -/
def visibleWith (db : EnterpriseDB) (filters : EnterpriseTokenFilters) (now : Int)
    (status : TokenStatus) : List EnterpriseTokenRecord :=
  (visible db filters now).filter fun record =>
    decide (enterpriseEffectiveTokenStatus record.token now = status)

/-- Filtering by status goes over the visible keys. -/
theorem applyFilters_eq (db : EnterpriseDB) (filters : EnterpriseTokenFilters) (now : Int)
    (status : TokenStatus) :
    applyEnterpriseTokenFilters db { filters with status } now (joined db) =
      (visible db filters now).filter fun record => matchesStatus status now record.token := by
  unfold visible applyEnterpriseTokenFilters
  rw [List.filter_filter]
  refine List.filter_congr fun record _ => ?_
  show (matchesKeyword db filters record && matchesColumns db filters record.token &&
      matchesStatus status now record.token && matchesManager filters record) =
    (matchesStatus status now record.token &&
      (matchesKeyword db filters record && matchesColumns db filters record.token && true &&
        matchesManager filters record))
  cases matchesStatus status now record.token <;> simp

/-- A filter that selects no other key than one it includes selects the same when it selects as
    many. -/
theorem mem_of_filter_length {α : Type} {p q : α → Bool} {as : List α}
    (hqp : ∀ a, q a = true → p a = true)
    (hlen : (as.filter p).length = (as.filter q).length) {a : α} (ha : a ∈ as)
    (hp : p a = true) : q a = true := by
  have hsub : (as.filter q).Sublist (as.filter p) := List.monotone_filter_right as hqp
  have heq : as.filter q = as.filter p := hsub.eq_of_length hlen.symm
  have hmem : a ∈ as.filter q := heq ▸ List.mem_filter.mpr ⟨ha, hp⟩
  exact (List.mem_filter.mp hmem).2

/-- The list under each status is that of the visible keys with this effective status. -/
def ListAgrees (db : EnterpriseDB) (filters : EnterpriseTokenFilters) (now : Int) : Prop :=
  ∀ status, IsFilter status → ∀ offset limit,
    searchEnterpriseTokens db { filters with status } now offset limit =
      (page offset limit (visibleWith db filters now status),
        (visibleWith db filters now status).length)

/-- No visible key is enabled, expired and out of quota. -/
def NoOverlap (db : EnterpriseDB) (filters : EnterpriseTokenFilters) (now : Int) : Prop :=
  ∀ record ∈ visible db filters now,
    ¬ (record.token.status = .enabled ∧ IsExpired record.token now ∧ IsSpent record.token)

theorem listAgrees_iff (db : EnterpriseDB) (filters : EnterpriseTokenFilters) (now : Int) :
    ListAgrees db filters now ↔ NoOverlap db filters now := by
  constructor
  · intro h record hrecord hover
    have hstatus : IsFilter .exhausted := Or.inr (Or.inr (Or.inr rfl))
    have htotal := congrArg Prod.snd (h .exhausted hstatus 0 0)
    have hlen : ((visible db filters now).filter fun record =>
          matchesStatus .exhausted now record.token).length =
        (visibleWith db filters now .exhausted).length := by
      rw [← applyFilters_eq]
      exact htotal
    have heff := mem_of_filter_length
      (fun _ hq => (matchesStatus_iff hstatus).mpr (Or.inl (of_decide_eq_true hq))) hlen hrecord
      ((matchesStatus_iff hstatus).mpr (Or.inr ⟨rfl, hover⟩))
    rcases effective_eq_exhausted_iff.mp (of_decide_eq_true heff) with hex | ⟨_, hnot, _⟩
    · rw [hover.1] at hex
      cases hex
    · exact hnot hover.2.1
  · intro h status hstatus offset limit
    have heq : applyEnterpriseTokenFilters db { filters with status } now (joined db) =
        visibleWith db filters now status := by
      rw [applyFilters_eq]
      refine List.filter_congr fun record hrecord => ?_
      rw [Bool.eq_iff_iff, decide_eq_true_eq, matchesStatus_iff hstatus]
      constructor
      · rintro (heff | ⟨_, hover⟩)
        · exact heff
        · exact absurd hover (h record hrecord)
      · exact Or.inl
    unfold searchEnterpriseTokens
    rw [heq]

/-! ## The summary -/

/-- The keys of the users that a manager sees, whatever else is filtered. -/
def managed (db : EnterpriseDB) (filters : EnterpriseTokenFilters) : List TokenRow :=
  ((joined db).filter fun record => matchesManager filters record).map (·.token)

theorem managed_eq (db : EnterpriseDB) (filters : EnterpriseTokenFilters) :
    managed db filters = db.tokens.table.rows.filter fun token =>
      !token.deleted &&
        (!filters.restricted || (db.users.find? token.userId).elim false filters.manages) := by
  unfold managed joined
  rw [List.filter_map, List.map_map, List.filter_filter]
  refine (List.map_id _).trans (List.filter_congr fun token _ => ?_)
  exact Bool.and_comm _ _

/-- The query that the summary starts from, none if the manager sees no user. -/
def summaryBase (db : EnterpriseDB) (filters : EnterpriseTokenFilters) : Option TokenQuery :=
  if filters.restricted then
    if managedIds db filters = [] then none
    else some (TokenQuery.addWhere {} fun token => decide (token.userId ∈ managedIds db filters))
  else some {}

/-- The rows that the summary is about. -/
def summaryRows (db : EnterpriseDB) (filters : EnterpriseTokenFilters) : List TokenRow :=
  (summaryBase db filters).elim [] fun base => base.rows db

theorem rows_addWhere (q : TokenQuery) (cond : TokenRow → Bool) (db : EnterpriseDB) :
    (q.addWhere cond).rows db = (q.rows db).filter cond := by
  unfold TokenQuery.rows TokenQuery.addWhere
  rw [List.filter_filter]
  refine List.filter_congr fun token _ => ?_
  rw [List.all_append, List.all_cons, List.all_nil, Bool.and_true]
  cases cond token <;> simp

/-- No row is active and exhausted, and none is active and disabled. -/
theorem not_active_exhausted {token : TokenRow} {now : Int} (h : activeWhere now token = true) :
    exhaustedWhere token = false := by
  rw [activeWhere_iff, effective_eq_enabled_iff] at h
  refine eq_false_of_ne_true fun hex => ?_
  rcases exhaustedWhere_iff.mp hex with hstatus | ⟨_, hspent⟩
  · rw [h.1] at hstatus
    cases hstatus
  · exact h.2.2 hspent

/-- The active count is right; from the exhausted count on, the accumulated conditions contradict
    each other. -/
theorem summaryOf_counts (db : EnterpriseDB) (filters : EnterpriseTokenFilters) (now : Int)
    (base : TokenQuery) :
    let summary := summaryOf db filters now base
    summary.total = (base.rows db).length ∧
      summary.active = ((base.rows db).filter (activeWhere now)).length ∧
      summary.exhausted = 0 ∧ summary.disabled = 0 ∧ summary.totalUsedQuota = 0 := by
  intro summary
  have hempty : ∀ cond : TokenRow → Bool, (((base.rows db).filter (activeWhere now)).filter
      cond).filter exhaustedWhere = [] := by
    intro cond
    refine List.filter_eq_nil_iff.mpr fun token htoken => ?_
    have hactive := (List.mem_filter.mp (List.mem_filter.mp htoken).1).2
    rw [not_active_exhausted hactive]
    exact Bool.false_ne_true
  refine ⟨rfl, ?_, ?_, ?_, ?_⟩
  · show ((base.addWhere (activeWhere now)).rows db).length = _
    rw [rows_addWhere]
  · show (((base.addWhere _).addWhere _).addWhere _).count db = 0
    unfold TokenQuery.count
    rw [rows_addWhere, rows_addWhere, rows_addWhere, hempty]
    rfl
  · show ((((base.addWhere _).addWhere _).addWhere _).addWhere _).count db = 0
    unfold TokenQuery.count
    rw [rows_addWhere, rows_addWhere, rows_addWhere, rows_addWhere, hempty]
    rfl
  · show ((((((base.addWhere _).addWhere _).addWhere _).addWhere _).rows db).map
      (·.usedQuota)).sum = 0
    rw [rows_addWhere, rows_addWhere, rows_addWhere, rows_addWhere, hempty]
    rfl

/-- What the summary of the list says of its rows. -/
theorem summary_counts (db : EnterpriseDB) (filters : EnterpriseTokenFilters)
    (now offset limit : Int) :
    let summary := (listEnterpriseAPIKeys db filters now offset limit).2.2
    summary.total = (summaryRows db filters).length ∧
      summary.active = ((summaryRows db filters).filter (activeWhere now)).length ∧
      summary.exhausted = 0 ∧ summary.disabled = 0 ∧ summary.totalUsedQuota = 0 := by
  unfold listEnterpriseAPIKeys summaryRows summaryBase
  by_cases hrestricted : filters.restricted = true
  · by_cases hids : managedIds db filters = []
    · simp [hrestricted, hids]
    · simpa [hrestricted, hids] using summaryOf_counts db filters now _
  · simpa [hrestricted] using summaryOf_counts db filters now _

/-- The manager's users are those of the join that are not deleted. -/
theorem mem_managedIds_iff {db : EnterpriseDB} {filters : EnterpriseTokenFilters} {id : Int} :
    id ∈ managedIds db filters ↔
      ∃ user, db.users.find? id = some user ∧ user.deleted = false ∧
        filters.manages user = true := by
  unfold managedIds
  simp only [List.mem_map, List.mem_filter, Bool.and_eq_true, Bool.not_eq_true']
  constructor
  · rintro ⟨user, ⟨huser, hlive, hmanages⟩, rfl⟩
    exact ⟨user, Table.find?_of_mem huser, hlive, hmanages⟩
  · rintro ⟨user, hfind, hlive, hmanages⟩
    exact ⟨user, ⟨Table.find?_mem hfind, hlive, hmanages⟩, Table.find?_key hfind⟩

/-- The user of a token is deleted. -/
def OwnerDeleted (db : EnterpriseDB) (token : TokenRow) : Prop :=
  ∃ user, db.users.find? token.userId = some user ∧ user.deleted = true

/-- The summary leaves out the keys of deleted users, if it asks for users at all. -/
theorem summaryRows_eq (db : EnterpriseDB) (filters : EnterpriseTokenFilters) :
    summaryRows db filters = (managed db filters).filter fun token =>
      !filters.restricted || decide (token.userId ∈ managedIds db filters) := by
  rw [managed_eq, List.filter_filter]
  unfold summaryRows summaryBase
  by_cases hrestricted : filters.restricted = true
  · have hrow : ∀ token : TokenRow,
        (decide (token.userId ∈ managedIds db filters) &&
          (!token.deleted && (db.users.find? token.userId).elim false filters.manages)) =
        (!token.deleted && decide (token.userId ∈ managedIds db filters)) := by
      intro token
      by_cases hmem : token.userId ∈ managedIds db filters
      · obtain ⟨user, hfind, _, hmanages⟩ := mem_managedIds_iff.mp hmem
        simp [hmem, hfind, hmanages]
      · simp [hmem]
    simp only [hrestricted, Bool.not_true, Bool.false_or, if_true, hrow]
    by_cases hids : managedIds db filters = []
    · simp [hids]
    · rw [if_neg hids]
      show db.tokens.table.rows.filter _ = _
      refine List.filter_congr fun token _ => ?_
      show (!token.deleted && (decide (token.userId ∈ managedIds db filters) && true)) = _
      rw [Bool.and_true]
  · simp [hrestricted, TokenQuery.rows]

/-- The keys among the managed ones that have an effective status. -/
def managedWith (db : EnterpriseDB) (filters : EnterpriseTokenFilters) (now : Int)
    (status : TokenStatus) : List TokenRow :=
  (managed db filters).filter fun token =>
    decide (enterpriseEffectiveTokenStatus token now = status)

/-- The summary counts the managed keys by their effective status. -/
structure SummaryAgrees (db : EnterpriseDB) (filters : EnterpriseTokenFilters) (now : Int)
    (summary : EnterpriseAPIKeySummary) : Prop where
  total : summary.total = (managed db filters).length
  active : summary.active = (managedWith db filters now .enabled).length
  exhausted : summary.exhausted = (managedWith db filters now .exhausted).length
  disabled : summary.disabled = (managedWith db filters now .disabled).length
  totalUsedQuota : summary.totalUsedQuota = ((managed db filters).map (·.usedQuota)).sum

/-- What the summary gets right: every managed key is active or expired, the used quota is zero,
    and no key of a deleted user is shown to a restricted manager. -/
structure SummaryCondition (db : EnterpriseDB) (filters : EnterpriseTokenFilters) (now : Int) :
    Prop where
  owners : filters.restricted = true → ∀ token ∈ managed db filters, ¬ OwnerDeleted db token
  notExhausted : ∀ token ∈ managed db filters, token.status ≠ .exhausted ∧
    ¬ (token.status = .enabled ∧ ¬ IsExpired token now ∧ IsSpent token)
  notDisabled : ∀ token ∈ managed db filters, token.status ≠ .disabled
  usedQuota : ((managed db filters).map (·.usedQuota)).sum = 0

/-- A managed key is in the summary if its user is not deleted. -/
theorem mem_managedIds_of_managed {db : EnterpriseDB} {filters : EnterpriseTokenFilters}
    {token : TokenRow} (hrestricted : filters.restricted = true)
    (htoken : token ∈ managed db filters) :
    token.userId ∈ managedIds db filters ↔ ¬ OwnerDeleted db token := by
  rw [managed_eq, List.mem_filter] at htoken
  have hmanages : (db.users.find? token.userId).elim false filters.manages = true := by
    have h := htoken.2
    rw [Bool.and_eq_true, hrestricted] at h
    exact h.2
  cases huser : db.users.find? token.userId with
  | none => rw [huser] at hmanages; cases hmanages
  | some user =>
    rw [huser] at hmanages
    have hmanages' : filters.manages user = true := hmanages
    simp [mem_managedIds_iff, OwnerDeleted, huser, hmanages']

theorem length_summaryRows_iff (db : EnterpriseDB) (filters : EnterpriseTokenFilters) :
    (summaryRows db filters).length = (managed db filters).length ↔
      (filters.restricted = true → ∀ token ∈ managed db filters, ¬ OwnerDeleted db token) := by
  rw [summaryRows_eq, List.length_filter_eq_length_iff]
  constructor
  · intro h hrestricted token htoken
    have hmem := h token htoken
    rw [hrestricted, Bool.not_true, Bool.false_or, decide_eq_true_eq] at hmem
    exact (mem_managedIds_of_managed hrestricted htoken).mp hmem
  · intro h token htoken
    cases hrestricted : filters.restricted with
    | false => rfl
    | true =>
      have hmem := (mem_managedIds_of_managed hrestricted htoken).mpr (h hrestricted token htoken)
      rw [Bool.not_true, Bool.false_or]
      exact decide_eq_true hmem

/-- No key has a status exactly when none is counted. -/
theorem managedWith_eq_nil_iff {db : EnterpriseDB} {filters : EnterpriseTokenFilters} {now : Int}
    {status : TokenStatus} :
    0 = (managedWith db filters now status).length ↔
      ∀ token ∈ managed db filters, enterpriseEffectiveTokenStatus token now ≠ status := by
  rw [eq_comm, List.length_eq_zero_iff, managedWith, List.filter_eq_nil_iff]
  simp only [decide_eq_true_eq, ne_eq]

theorem summaryAgrees_iff (db : EnterpriseDB) (filters : EnterpriseTokenFilters)
    (now offset limit : Int) :
    SummaryAgrees db filters now (listEnterpriseAPIKeys db filters now offset limit).2.2 ↔
      SummaryCondition db filters now := by
  obtain ⟨htotal, hactive, hexhausted, hdisabled, hused⟩ :=
    summary_counts db filters now offset limit
  have hexhausted_iff : (∀ token ∈ managed db filters,
        enterpriseEffectiveTokenStatus token now ≠ .exhausted) ↔
      ∀ token ∈ managed db filters, token.status ≠ .exhausted ∧
        ¬ (token.status = .enabled ∧ ¬ IsExpired token now ∧ IsSpent token) :=
    forall₂_congr fun token _ => by rw [ne_eq, effective_eq_exhausted_iff, not_or]
  have hdisabled_iff : (∀ token ∈ managed db filters,
        enterpriseEffectiveTokenStatus token now ≠ .disabled) ↔
      ∀ token ∈ managed db filters, token.status ≠ .disabled :=
    forall₂_congr fun token _ => by rw [ne_eq, effective_eq_disabled_iff]
  constructor
  · intro h
    constructor
    · exact (length_summaryRows_iff db filters).mp (htotal.symm.trans h.total)
    · exact hexhausted_iff.mp (managedWith_eq_nil_iff.mp (hexhausted.symm.trans h.exhausted))
    · exact hdisabled_iff.mp (managedWith_eq_nil_iff.mp (hdisabled.symm.trans h.disabled))
    · exact h.totalUsedQuota.symm.trans hused
  · intro h
    have hlen := (length_summaryRows_iff db filters).mpr h.owners
    have hrows : summaryRows db filters = managed db filters := by
      have hsub : (summaryRows db filters).Sublist (managed db filters) := by
        rw [summaryRows_eq]
        exact List.filter_sublist
      exact hsub.eq_of_length hlen
    constructor
    · exact htotal.trans hlen
    · rw [hactive, hrows, managedWith]
      refine congrArg List.length (List.filter_congr fun token _ => ?_)
      rw [Bool.eq_iff_iff, activeWhere_iff, decide_eq_true_eq]
    · exact hexhausted.trans (managedWith_eq_nil_iff.mpr (hexhausted_iff.mpr h.notExhausted))
    · exact hdisabled.trans (managedWith_eq_nil_iff.mpr (hdisabled_iff.mpr h.notDisabled))
    · exact hused.trans h.usedQuota.symm

/-! ## Validation -/

/-- A live token is the one that its key finds. -/
theorem findKey_of_live {tokens : KeyedTokens} {token : TokenRow}
    (htoken : token ∈ tokens.table.rows) (hlive : token.deleted = false) :
    tokens.findKey token.key = some token := by
  unfold KeyedTokens.findKey
  cases hfind : tokens.table.rows.find? fun row => row.key = token.key && !row.deleted with
  | none =>
    have hnone := List.find?_eq_none.mp hfind token htoken
    simp [hlive] at hnone
  | some row =>
    have hrow := List.find?_some hfind
    have hkey : row.key = token.key := by simpa using (Bool.and_eq_true_iff.mp hrow).1
    rw [List.inj_on_of_nodup_map tokens.uniqueKeys (List.mem_of_find?_eq_some hfind) htoken hkey]

/-- What a request with the key of a live token is accepted on. -/
theorem validateUserToken_ok_iff {tokens : KeyedTokens} {token : TokenRow} {now : Int}
    (htoken : token ∈ tokens.table.rows) (hlive : token.deleted = false) :
    (∃ row, (validateUserToken tokens token.key now).1 = .ok row) ↔
      token.key ≠ "" ∧ token.status = .enabled ∧
        ¬ (token.expiredTime ≠ -1 ∧ token.expiredTime < now) ∧ ¬ IsSpent token := by
  unfold validateUserToken
  rw [findKey_of_live htoken hlive]
  by_cases hkey : token.key = ""
  · simp [hkey]
  · rw [if_neg hkey]
    show (∃ row, (ite _ _ _ : Except TokenCache.TokenError TokenRow × KeyedTokens).1 = _) ↔ _
    cases hstatus : token.status with
    | enabled =>
      by_cases hexpired : token.expiredTime ≠ -1 ∧ token.expiredTime < now
      · simp [hexpired]
      · by_cases hspent : token.unlimitedQuota = false ∧ token.remainQuota ≤ 0
        · simp [hexpired, hspent, IsSpent]
        · simp only [hexpired, hspent, IsSpent]
          simpa using hkey
    | disabled => simp
    | expired => simp
    | exhausted => simp
    | other code => simp

/-- A key is effectively enabled exactly when a request with it is accepted. -/
def ValidationAgrees (db : EnterpriseDB) (now : Int) : Prop :=
  ∀ token ∈ db.tokens.table.rows, token.deleted = false →
    (enterpriseEffectiveTokenStatus token now = .enabled ↔
      ∃ row, (validateUserToken db.tokens token.key now).1 = .ok row)

/-- No usable key expires at this second, and none is empty. -/
def NoBoundary (db : EnterpriseDB) (now : Int) : Prop :=
  ∀ token ∈ db.tokens.table.rows, token.deleted = false → token.status = .enabled →
    ¬ IsSpent token →
    if token.key = "" then IsExpired token now else token.expiredTime = now → now = -1

theorem validationAgrees_iff (db : EnterpriseDB) (now : Int) :
    ValidationAgrees db now ↔ NoBoundary db now := by
  unfold ValidationAgrees NoBoundary
  refine forall₃_congr fun token htoken hlive => ?_
  rw [validateUserToken_ok_iff htoken hlive, effective_eq_enabled_iff]
  by_cases hstatus : token.status = .enabled
  · by_cases hspent : IsSpent token
    · simp [hstatus, hspent]
    · by_cases hkey : token.key = ""
      · simp [hstatus, hspent, hkey]
      · simp only [hstatus, hspent, hkey, ne_eq, not_false_eq_true, true_and, and_true, if_false,
          forall_const, IsExpired]
        omega
  · simp [hstatus]

/-! ## Agreement -/

/-- List, summary and validation agree on the status of every key. -/
structure KeyStatusAgrees (db : EnterpriseDB) (filters : EnterpriseTokenFilters) (now : Int) :
    Prop where
  list : ListAgrees db filters now
  summary : ∀ offset limit,
    SummaryAgrees db filters now (listEnterpriseAPIKeys db filters now offset limit).2.2
  validation : ValidationAgrees db now

/-- When they agree. -/
theorem keyStatus_iff (db : EnterpriseDB) (filters : EnterpriseTokenFilters) (now : Int) :
    KeyStatusAgrees db filters now ↔
      NoOverlap db filters now ∧ SummaryCondition db filters now ∧ NoBoundary db now := by
  constructor
  · intro h
    exact ⟨(listAgrees_iff db filters now).mp h.list,
      (summaryAgrees_iff db filters now 0 0).mp (h.summary 0 0),
      (validationAgrees_iff db now).mp h.validation⟩
  · rintro ⟨hoverlap, hsummary, hboundary⟩
    constructor
    · exact (listAgrees_iff db filters now).mpr hoverlap
    · intro offset limit
      exact (summaryAgrees_iff db filters now offset limit).mpr hsummary
    · exact (validationAgrees_iff db now).mpr hboundary

/-- One disabled key, of a user that is not deleted. -/
def disabledKey : EnterpriseDB where
  tokens := ⟨⟨[{ id := 1, userId := 1, key := "k", status := .disabled }], by decide⟩, by decide⟩
  users := ⟨[{ id := 1 }], by decide⟩

/-- The summary of one disabled key counts no disabled key. -/
theorem disabled_not_counted :
    ¬ ∀ (db : EnterpriseDB) (filters : EnterpriseTokenFilters) (now : Int),
      KeyStatusAgrees db filters now := by
  intro h
  have hdisabled := ((h disabledKey {} 0).summary 0 0).disabled
  exact absurd hdisabled (by decide)

end TokenRouter.EnterpriseKeys
