import TokenRouter.ForStd.Run
import TokenRouter.Model.UseData

/-!
# The sums of the dashboard

For every key, what the rows hold and what waits in the caches is what was logged, exactly as
long as no cache entry takes in a call with another key, no write fails, and no increase
meets two rows of one key.

## Main results

- `conserved_step_iff`: what each event does to the sums
- `sums_agree_iff`: whole runs, for any number of nodes
-/

namespace TokenRouter

/-- The three counters of an entry. -/
def QuotaData.amounts (d : QuotaData) : Int × Int × Int := (d.count, d.quota, d.tokenUsed)

/-- What an entry adds to the sums of a key. -/
def QuotaData.amountsAt (k : QuotaDataKey) (d : QuotaData) : Int × Int × Int :=
  if d.key = k then d.amounts else 0

@[simp] theorem QuotaData.amounts_add (d e : QuotaData) :
    (d.add e).amounts = d.amounts + e.amounts := rfl

@[simp] theorem QuotaData.key_add (d e : QuotaData) : (d.add e).key = d.key := rfl

/-- Adding an entry of the same key. -/
theorem QuotaData.amountsAt_add {d e : QuotaData} (h : d.key = e.key) (k : QuotaDataKey) :
    (d.add e).amountsAt k = d.amountsAt k + e.amountsAt k := by
  simp only [amountsAt, key_add, h]
  split <;> simp

namespace UseDataNode

/-- What a node has not written yet. -/
def pending (k : QuotaDataKey) (node : UseDataNode) : Int × Int × Int :=
  match node.flush with
  | none => node.cache.sum (·.amountsAt k)
  | some flush => flush.waiting.sum (·.amountsAt k) +
      match flush.current with
      | some (quotaData, _) => quotaData.amountsAt k
      | none => 0

/-- Every entry of a node counts at least one call. -/
structure Counted (node : UseDataNode) : Prop where
  cache : ∀ d ∈ node.cache.rows, 0 < d.count
  flush : ∀ flush ∈ node.flush, (∀ d ∈ flush.waiting.rows, 0 < d.count) ∧
    ∀ current ∈ flush.current, 0 < current.1.count

end UseDataNode

namespace UseData

variable {s : UseData}

/-- For every key, the rows and what waits in the caches hold what was logged. -/
def Conserved (s : UseData) : Prop :=
  ∀ k, s.rows.sum (·.amountsAt k) + (s.nodes.map (·.pending k)).sum =
    (s.logged.map (·.amountsAt k)).sum

/-- No node has anything left to write. -/
def Flushed (s : UseData) : Prop :=
  ∀ node ∈ s.nodes, node.flush = none ∧ node.cache.rows = []

instance : Decidable s.Flushed :=
  inferInstanceAs (Decidable (∀ node ∈ s.nodes, node.flush = none ∧ node.cache.rows = []))

/-- For every key, the rows hold what was logged. -/
def SumsAgree (s : UseData) : Prop :=
  ∀ k, s.rows.sum (·.amountsAt k) = (s.logged.map (·.amountsAt k)).sum

/-- A call meets no cache entry of another key, and a write succeeds and, if it increases, meets
    one row. -/
def WritesOnce (s : UseData) : UseDataEvent → Prop
  | .log n params =>
    match s.nodes[n]? with
    | some { cache, flush := none } =>
      ∀ cached ∈ cache.find? params.entry.key.cacheKey, cached.key = params.entry.key
    | _ => True
  | .write n ok =>
    match s.nodes[n]? with
    | some { cache := _, flush := some { waiting := _, current := some (quotaData, found) } } =>
      ok ∧ (found → s.rows.rows.countP (·.key = quotaData.key) = 1)
    | _ => True
  | _ => True

/-! ## One event -/

/-- A cache after a call. -/
theorem sum_cache_log (cache : QuotaDataCache) (e : QuotaData) (k : QuotaDataKey)
    (h : ∀ cached ∈ cache.find? e.key.cacheKey, cached.key = e.key) :
    (cache.log e).sum (·.amountsAt k) = cache.sum (·.amountsAt k) + e.amountsAt k := by
  unfold QuotaDataCache.log
  cases hfind : cache.find? e.key.cacheKey with
  | none => exact Table.sum_insert hfind _
  | some cached =>
    have hkey := h cached hfind
    have hcached : cache.find? (cached.add e).key.cacheKey = some cached := by
      rw [QuotaData.key_add, hkey]
      exact hfind
    simp only
    rw [Table.sum_set _ hcached, QuotaData.amountsAt_add hkey]
    abel

/-- A call that is merged into an entry of another key is missing from the sums of its own. -/
theorem sum_cache_log_collision (cache : QuotaDataCache) (e : QuotaData) {cached : QuotaData}
    (hfind : cache.find? e.key.cacheKey = some cached) (hkey : cached.key ≠ e.key) :
    (cache.log e).sum (·.amountsAt e.key) = cache.sum (·.amountsAt e.key) := by
  have hcached : cache.find? (cached.add e).key.cacheKey = some cached := by
    rw [QuotaData.key_add, Table.find?_key hfind]
    exact hfind
  unfold QuotaDataCache.log
  rw [hfind]
  simp only
  rw [Table.sum_set _ hcached]
  simp [QuotaData.amountsAt, hkey]

/-- The rows after an increase: every row of the key is raised. -/
theorem sum_increase (rows : QuotaDataTable) (d : QuotaData) (k : QuotaDataKey) :
    (rows.increase d).sum (·.amountsAt k) = rows.sum (·.amountsAt k) +
      rows.rows.countP (·.key = d.key) • d.amountsAt k := by
  unfold QuotaDataTable.increase
  apply Table.sum_mapRows_add
  intro row
  by_cases h : row.key = d.key
  · simp [h, QuotaData.amountsAt_add h]
  · simp [h]

/-- The rows after an insert. -/
theorem sum_create (rows : QuotaDataTable) (d : QuotaData) (k : QuotaDataKey) :
    (rows.create d).sum (·.amountsAt k) = rows.sum (·.amountsAt k) + d.amountsAt k :=
  Table.sum_insert (Table.nextId_fresh rows) _

/-- An entry with a call has counters other than zero. -/
theorem amounts_ne_zero {d : QuotaData} (h : 0 < d.count) : d.amounts ≠ 0 := by
  intro hzero
  have hcount : d.count = 0 := congrArg Prod.fst hzero
  omega

/-- Changing one node, the rows and the log: only the differences matter. -/
theorem conserved_set_iff (h : s.Conserved) {n : Nat} {node : UseDataNode}
    (hn : s.nodes[n]? = some node) (node' : UseDataNode) (rows : QuotaDataTable)
    (logged : List QuotaData) :
    ({ nodes := s.nodes.set n node', rows, logged } : UseData).Conserved ↔
      ∀ k, rows.sum (·.amountsAt k) - s.rows.sum (·.amountsAt k) + node'.pending k =
        (logged.map (·.amountsAt k)).sum - (s.logged.map (·.amountsAt k)).sum +
          node.pending k := by
  apply forall_congr'
  intro k
  rw [Table.sum_map_set _ hn, ← h k]
  constructor
  · intro heq
    rw [← heq]
    abel
  · intro heq
    rw [sub_add_eq_add_sub, sub_eq_iff_eq_add] at heq
    have hrows : rows.sum (·.amountsAt k) + node'.pending k = _ := heq
    calc rows.sum (·.amountsAt k) +
          ((s.nodes.map (·.pending k)).sum - node.pending k + node'.pending k)
        = (rows.sum (·.amountsAt k) + node'.pending k) +
          ((s.nodes.map (·.pending k)).sum - node.pending k) := by abel
      _ = (logged.map (·.amountsAt k)).sum := by rw [hrows]; abel

theorem conserved_log_iff (h : s.Conserved) (n : Nat) (params : QuotaDataLogParams) :
    (s.log n params).Conserved ↔ s.WritesOnce (.log n params) := by
  unfold log
  split
  · rename_i cache hn
    have honce : s.WritesOnce (.log n params) ↔ ∀ cached ∈
        cache.find? params.entry.key.cacheKey, cached.key = params.entry.key := by
      simp only [WritesOnce, hn]
    rw [conserved_set_iff h hn, honce]
    simp only [UseDataNode.pending, sub_self, zero_add, List.map_append, List.map_cons,
      List.map_nil, List.sum_append, List.sum_cons, List.sum_nil, add_zero, add_sub_cancel_left]
    constructor
    · intro heq cached hfind
      by_contra hkey
      have hsum := heq params.entry.key
      rw [sum_cache_log_collision cache params.entry hfind hkey] at hsum
      have hzero : params.entry.amountsAt params.entry.key = 0 := by simpa using hsum.symm
      rw [QuotaData.amountsAt, if_pos rfl] at hzero
      exact amounts_ne_zero (show (0 : Int) < 1 by decide) hzero
    · intro hkeys k
      rw [sum_cache_log cache params.entry k hkeys, add_comm]
  · refine iff_of_true h ?_
    simp only [WritesOnce]

theorem conserved_lock (h : s.Conserved) (n : Nat) : (s.lock n).Conserved := by
  unfold lock
  split
  · rename_i cache hn
    rw [conserved_set_iff h hn]
    simp [UseDataNode.pending]
  · exact h

theorem conserved_lookUp (h : s.Conserved) (n : Nat) (cacheKey : String) (ok : Bool) :
    (s.lookUp n cacheKey ok).Conserved := by
  unfold lookUp
  split
  · rename_i cache waiting hn
    split
    · rename_i quotaData hfind
      simp only
      rw [conserved_set_iff h hn]
      intro k
      simp only [UseDataNode.pending, Table.sum_erase _ hfind]
      abel
    · exact h
  · exact h

theorem conserved_unlock (h : s.Conserved) (n : Nat) : (s.unlock n).Conserved := by
  unfold unlock
  split
  · rename_i cache waiting hn
    split
    · rename_i hempty
      rw [conserved_set_iff h hn]
      intro k
      simp [UseDataNode.pending, Table.sum, hempty, Table.rows_empty]
    · exact h
  · exact h

/-- A write that adds an entry `m` times to the rows balances it exactly if `m` is one. -/
theorem adds_entry_iff {d : QuotaData} (hcount : 0 < d.count) {rows rows' : QuotaDataTable}
    {m : Nat} (hrows : ∀ k, rows'.sum (·.amountsAt k) =
      rows.sum (·.amountsAt k) + m • d.amountsAt k)
    {logged waiting : QuotaDataKey → Int × Int × Int} :
    (∀ k, rows'.sum (·.amountsAt k) - rows.sum (·.amountsAt k) + waiting k =
      logged k - logged k + (waiting k + d.amountsAt k)) ↔ m = 1 := by
  have hk : ∀ k, (rows'.sum (·.amountsAt k) - rows.sum (·.amountsAt k) + waiting k =
      logged k - logged k + (waiting k + d.amountsAt k)) ↔
      m • d.amountsAt k = d.amountsAt k := by
    intro k
    rw [hrows k, add_sub_cancel_left, sub_self, zero_add, add_comm, add_left_cancel_iff]
  constructor
  · intro heq
    have hsame := (hk d.key).mp (heq d.key)
    rw [QuotaData.amountsAt, if_pos rfl] at hsame
    have hfst : (m : Int) * d.count = d.count := by
      have hfst := congrArg Prod.fst hsame
      simpa [QuotaData.amounts] using hfst
    have hone : ((m : Int) - 1) * d.count = 0 := by
      rw [sub_mul, hfst]
      omega
    rcases mul_eq_zero.mp hone with hone | hone <;> omega
  · rintro rfl k
    exact (hk k).mpr (one_smul _ _)

/-- A write: a failed one loses the entry, an increase counts it once for every row. -/
theorem conserved_write_iff (h : s.Conserved) (hc : ∀ node ∈ s.nodes, node.Counted) (n : Nat)
    (ok : Bool) : (s.write n ok).Conserved ↔ s.WritesOnce (.write n ok) := by
  unfold write
  split
  · rename_i cache waiting quotaData found hn
    have honce : s.WritesOnce (.write n ok) ↔
        ok ∧ (found → s.rows.rows.countP (·.key = quotaData.key) = 1) := by
      simp only [WritesOnce, hn]
    have hcount : 0 < quotaData.count :=
      ((hc _ (List.mem_of_getElem? hn)).flush _ rfl).2 _ rfl
    rw [conserved_set_iff h hn, honce]
    simp only [UseDataNode.pending, add_zero]
    cases ok with
    | false =>
      rw [if_neg (by simp), adds_entry_iff hcount (m := 0) (by simp)]
      simp
    | true =>
      rw [if_pos rfl]
      cases found with
      | false =>
        rw [if_neg (by simp), adds_entry_iff hcount (m := 1) fun k => by rw [sum_create, one_smul]]
        simp
      | true =>
        rw [if_pos rfl, adds_entry_iff hcount (sum_increase s.rows quotaData)]
        simp
  · refine iff_of_true h ?_
    simp only [WritesOnce]

/-- What each event does to the sums. -/
theorem conserved_step_iff (s : UseData) (e : UseDataEvent) (hc : ∀ node ∈ s.nodes, node.Counted)
    (h : s.Conserved) : (s.step e).Conserved ↔ s.WritesOnce e := by
  cases e with
  | log n params => exact conserved_log_iff h n params
  | lock n => exact iff_of_true (conserved_lock h n) trivial
  | lookUp n cacheKey ok => exact iff_of_true (conserved_lookUp h n cacheKey ok) trivial
  | write n ok => exact conserved_write_iff h hc n ok
  | unlock n => exact iff_of_true (conserved_unlock h n) trivial

/-! ## Every entry counts a call -/

/-- Changing one node keeps the others. -/
theorem counted_set (hc : ∀ node ∈ s.nodes, node.Counted) {n : Nat} {node' : UseDataNode}
    (h : node'.Counted) : ∀ node ∈ s.nodes.set n node', node.Counted := by
  intro node hnode
  rcases List.mem_or_eq_of_mem_set hnode with hnode | rfl
  · exact hc node hnode
  · exact h

/-- Merging keeps every entry of a cache counting. -/
theorem counted_cache_log {cache : QuotaDataCache} (h : ∀ d ∈ cache.rows, 0 < d.count)
    (params : QuotaDataLogParams) : ∀ d ∈ (cache.log params.entry).rows, 0 < d.count := by
  intro d hd
  have hentry : 0 < params.entry.count := show (0 : Int) < 1 by decide
  unfold QuotaDataCache.log at hd
  split at hd
  · rename_i cached hfind
    rcases Table.mem_set hd with rfl | ⟨hd, -⟩
    · have := h cached (Table.find?_mem hfind)
      show 0 < cached.count + params.entry.count
      omega
    · exact h d hd
  · rcases Table.mem_of_mem_insert hd with hd | rfl
    · exact h d hd
    · exact hentry

theorem counted_step (hc : ∀ node ∈ s.nodes, node.Counted) (e : UseDataEvent) :
    ∀ node ∈ (s.step e).nodes, node.Counted := by
  cases e with
  | log n params =>
    simp only [step, log]
    split
    · rename_i cache hn
      have hnode := hc _ (List.mem_of_getElem? hn)
      exact counted_set hc ⟨counted_cache_log hnode.cache params, by simp⟩
    · exact hc
  | lock n =>
    simp only [step, lock]
    split
    · rename_i cache hn
      have hnode := hc _ (List.mem_of_getElem? hn)
      exact counted_set hc ⟨hnode.cache, by simpa using hnode.cache⟩
    · exact hc
  | lookUp n cacheKey ok =>
    simp only [step, lookUp]
    split
    · rename_i cache waiting hn
      have hnode := hc _ (List.mem_of_getElem? hn)
      obtain ⟨hwaiting, -⟩ := hnode.flush _ rfl
      split
      · rename_i quotaData hfind
        apply counted_set hc
        refine ⟨hnode.cache, ?_⟩
        rintro flush ⟨rfl⟩
        constructor
        · intro d hd
          exact hwaiting d (Table.mem_erase.mp hd).1
        · rintro current ⟨rfl⟩
          exact hwaiting _ (Table.find?_mem hfind)
      · exact hc
    · exact hc
  | write n ok =>
    simp only [step, write]
    split
    · rename_i cache waiting quotaData found hn
      have hnode := hc _ (List.mem_of_getElem? hn)
      obtain ⟨hwaiting, -⟩ := hnode.flush _ rfl
      exact counted_set hc ⟨hnode.cache, by simpa using hwaiting⟩
    · exact hc
  | unlock n =>
    simp only [step, unlock]
    split
    · split
      · exact counted_set hc ⟨by simp, by simp⟩
      · exact hc
    · exact hc

/-- With nothing left to write, what is conserved is what the rows hold. -/
theorem Conserved.sumsAgree (h : s.Conserved) (hf : s.Flushed) : s.SumsAgree := by
  intro k
  have hzero : (s.nodes.map (·.pending k)).sum = 0 := by
    apply List.sum_eq_zero
    intro x hx
    obtain ⟨node, hnode, rfl⟩ := List.mem_map.mp hx
    obtain ⟨hflush, hcache⟩ := hf node hnode
    simp [UseDataNode.pending, hflush, Table.sum, hcache]
  have := h k
  rwa [hzero, add_zero] at this

end UseData

open UseData in
/-- For any number of nodes and every interleaving of their calls and flushes: rows and caches
    hold for every key what was logged, and the rows alone whenever everything is flushed, in
    every state, if and only if no call is merged into an entry of another key, no write fails,
    and no increase meets more or less than one row. -/
theorem sums_agree_iff (n : Nat) (es : List UseDataEvent) :
    Run.Always step (fun s => s.Conserved ∧ (s.Flushed → s.SumsAgree))
        { nodes := List.replicate n {} } es ↔
      Run.Steps step WritesOnce { nodes := List.replicate n {} } es := by
  have hboth : ∀ s : UseData, (s.Conserved ∧ (s.Flushed → s.SumsAgree)) ↔ s.Conserved :=
    fun s => ⟨fun h => h.1, fun h => ⟨h, h.sumsAgree⟩⟩
  simp only [hboth]
  have hcounted : ∀ s e, (∀ node ∈ s.nodes, node.Counted) → ∀ node ∈ (step s e).nodes, node.Counted :=
    fun s e h => counted_step h e
  apply Run.always_iff_steps hcounted conserved_step_iff
  · intro node hnode
    rw [List.eq_of_mem_replicate hnode]
    exact ⟨by simp, by simp⟩
  · intro k
    have hpending : UseDataNode.pending k {} = 0 := rfl
    simp [hpending]

/-- Two nodes log a call of one hour each, look it up at the same time, and insert a row each;
    the next call is added to both rows. -/
def twoFlushes : List UseDataEvent :=
  let params : QuotaDataLogParams := { userId := 1, modelName := "gpt-4o", quota := 5, createdAt := 0 }
  let cacheKey := params.entry.key.cacheKey
  [.log 0 params, .log 1 params, .lock 0, .lock 1, .lookUp 0 cacheKey true, .lookUp 1 cacheKey true,
    .write 0 true, .write 1 true, .unlock 0, .unlock 1, .log 0 params, .lock 0,
    .lookUp 0 cacheKey true, .write 0 true, .unlock 0]

open UseData in
/-- Three calls of 5 were logged, and the rows show 20. -/
theorem duplicate_row_counts_twice :
    ¬ ∀ (n : Nat) (es : List UseDataEvent),
        Run.Always step (fun s => s.Flushed → s.SumsAgree) { nodes := List.replicate n {} } es := by
  intro h
  have hlast := @Run.Always.last _ _ step (fun s => s.Flushed → s.SumsAgree)
    { nodes := List.replicate 2 {} } twoFlushes (h 2 twoFlushes)
  have hflushed : (Run.run step { nodes := List.replicate 2 {} } twoFlushes).Flushed := by
    decide
  have hsum := hlast hflushed { userId := 1, modelName := "gpt-4o", createdAt := 0 }
  exact absurd hsum (by decide)

end TokenRouter
