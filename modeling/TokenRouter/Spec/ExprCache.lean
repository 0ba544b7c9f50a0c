import TokenRouter.ForStd.Run
import TokenRouter.Pkg.BillingExpr

/-!
# The expression cache is transparent

An entry of the cache is what compiling an expression of its hash yields, so a call that finds one
returns what it would compute itself. `UsedVars` looks its entry up again after compiling, and
another call may have thrown the cache away by then: it returns nil for an expression that
compiles.

## Key results

- `exprCache_transparent_iff`: when every call of a run returns what it would without a cache
-/

namespace TokenRouter.BillingExpr

variable {Program : Type} {lib : ExprCompiler Program}

/-- What a call returns without a cache. -/
def uncached (lib : ExprCompiler Program) : Request → Result Program
  | .compileFromCache exprStr => .program ((lib.compileEntry exprStr).map (·.prog))
  | .usedVars exprStr => .vars ((lib.compileEntry exprStr).toOption.map (·.usedVars))
  | .exprVersion exprStr => .version (parseExprVersion exprStr).1
  | .invalidateCache => .cleared

/-! ## Entries -/

/-- Every entry is what compiling an expression of its hash yields. -/
def EntriesCompiled (lib : ExprCompiler Program) (cache : ExprCache Program) : Prop :=
  ∀ hash entry, GoMap.get? cache hash = some entry →
    ∃ exprStr, hash = lib.exprHashString exprStr ∧ lib.compileEntry exprStr = .ok entry

theorem entriesCompiled_nil : EntriesCompiled lib [] := by
  intro hash entry h
  cases h

/-- With an injective hash, an entry that is found is that of the expression. -/
theorem EntriesCompiled.lookup (hhash : lib.exprHashString.Injective)
    {cache : ExprCache Program} (hcache : EntriesCompiled lib cache) {exprStr : String}
    {entry : CachedEntry Program} (h : lib.lookupEntry cache exprStr = some entry) :
    lib.compileEntry exprStr = .ok entry := by
  obtain ⟨exprStr', heq, hentry⟩ := hcache _ _ h
  rwa [hhash heq]

theorem EntriesCompiled.store {cache : ExprCache Program} (hcache : EntriesCompiled lib cache)
    {exprStr : String} {entry : CachedEntry Program} (h : lib.compileEntry exprStr = .ok entry) :
    EntriesCompiled lib (lib.storeEntry cache exprStr entry) := by
  have hbase : EntriesCompiled lib (if maxCacheSize ≤ cache.length then [] else cache) := by
    split
    · exact entriesCompiled_nil
    · exact hcache
  intro hash found hfound
  by_cases heq : hash = lib.exprHashString exprStr
  · subst heq
    rw [ExprCompiler.storeEntry, GoMap.get?_set_self, Option.some.injEq] at hfound
    exact ⟨exprStr, rfl, hfound ▸ h⟩
  · rw [ExprCompiler.storeEntry, GoMap.get?_set_ne _ _ heq] at hfound
    exact hbase hash found hfound

/-! ## Calls -/

/-- Where a call can stand: what it stores it has compiled, and it looks up again only what
    compiles. -/
def CallState.Sound (lib : ExprCompiler Program) (request : Request) :
    CallState Program → Prop
  | .lookup => True
  | .compileLookup => ∃ exprStr, request = .usedVars exprStr
  | .store entry => ∃ exprStr, lib.compileEntry exprStr = .ok entry ∧
      (request = .compileFromCache exprStr ∨ request = .usedVars exprStr)
  | .reread => ∃ exprStr entry, request = .usedVars exprStr ∧ lib.compileEntry exprStr = .ok entry
  | .returned _ => True

/-- A call that has returned has returned what it would without a cache. -/
def Call.Transparent (lib : ExprCompiler Program) (c : Call Program) : Prop :=
  ∀ result, c.state = .returned result → result = uncached lib c.request

/-- The second lookup of `UsedVars` finds the entry. -/
def FindsEntry (lib : ExprCompiler Program) (cache : ExprCache Program) (c : Call Program) :
    Prop :=
  ∀ exprStr, c.request = .usedVars exprStr → c.state = .reread →
    (lib.lookupEntry cache exprStr).isSome

theorem transparent_returned {request : Request} {result : Result Program} :
    Call.Transparent lib { request := request, state := .returned result } ↔
      result = uncached lib request := by
  constructor
  · exact fun h => h result rfl
  · rintro h _ ⟨⟩
    exact h

theorem transparent_running {request : Request} {state : CallState Program}
    (h : ∀ result, state ≠ .returned result) :
    Call.Transparent lib { request := request, state := state } :=
  fun result hstate => absurd hstate (h result)

theorem version_compileEntry {exprStr : String} {entry : CachedEntry Program}
    (h : lib.compileEntry exprStr = .ok entry) : entry.version = (parseExprVersion exprStr).1 := by
  unfold ExprCompiler.compileEntry at h
  dsimp only at h
  split at h
  · cases h
  · cases h
    rfl

theorem uncached_compile {exprStr : String} {entry : CachedEntry Program}
    (h : lib.compileEntry exprStr = .ok entry) :
    uncached lib (.compileFromCache exprStr) = .program (.ok entry.prog) := by
  rw [uncached, h]
  rfl

theorem uncached_usedVars {exprStr : String} {entry : CachedEntry Program}
    (h : lib.compileEntry exprStr = .ok entry) :
    uncached lib (.usedVars exprStr) = .vars (some entry.usedVars) := by
  rw [uncached, h]
  rfl

theorem uncached_usedVars_error {exprStr err : String}
    (h : lib.compileEntry exprStr = .error err) : uncached lib (.usedVars exprStr) = .vars none := by
  rw [uncached, h]
  rfl

/-- The first lock section of a call. -/
theorem lookup_spec (hhash : lib.exprHashString.Injective)
    (hempty : ∃ err, lib.compileEntry "" = .error err) {cache : ExprCache Program}
    (hcache : EntriesCompiled lib cache) (request : Request) :
    EntriesCompiled lib (lib.advanceCall cache request .lookup).1 ∧
      (lib.advanceCall cache request .lookup).2.Sound lib request ∧
      Call.Transparent lib
        { request := request, state := (lib.advanceCall cache request .lookup).2 } := by
  cases request with
  | compileFromCache exprStr =>
    rw [ExprCompiler.advanceCall]
    cases hlookup : lib.lookupEntry cache exprStr with
    | some entry =>
      have hentry := hcache.lookup hhash hlookup
      exact ⟨hcache, trivial, transparent_returned.mpr (uncached_compile hentry).symm⟩
    | none =>
      dsimp only
      cases hentry : lib.compileEntry exprStr with
      | error err =>
        refine ⟨hcache, trivial, transparent_returned.mpr ?_⟩
        rw [uncached, hentry]
        rfl
      | ok entry =>
        exact ⟨hcache, ⟨exprStr, hentry, .inl rfl⟩, transparent_running fun _ h => nomatch h⟩
  | usedVars exprStr =>
    rw [ExprCompiler.advanceCall]
    split
    · rename_i heq
      obtain ⟨err, herr⟩ := hempty
      subst heq
      exact ⟨hcache, trivial, transparent_returned.mpr (uncached_usedVars_error herr).symm⟩
    · cases hlookup : lib.lookupEntry cache exprStr with
      | some entry =>
        have hentry := hcache.lookup hhash hlookup
        exact ⟨hcache, trivial, transparent_returned.mpr (uncached_usedVars hentry).symm⟩
      | none => exact ⟨hcache, ⟨exprStr, rfl⟩, transparent_running fun _ h => nomatch h⟩
  | exprVersion exprStr =>
    rw [ExprCompiler.advanceCall]
    split
    · rename_i heq
      subst heq
      exact ⟨hcache, trivial, transparent_returned.mpr (by rw [uncached]; rfl)⟩
    · cases hlookup : lib.lookupEntry cache exprStr with
      | some entry =>
        have hversion := version_compileEntry (hcache.lookup hhash hlookup)
        exact ⟨hcache, trivial, transparent_returned.mpr (congrArg Result.version hversion)⟩
      | none => exact ⟨hcache, trivial, transparent_returned.mpr rfl⟩
  | invalidateCache => exact ⟨entriesCompiled_nil, trivial, transparent_returned.mpr rfl⟩

/-- The lookup before compiling. -/
theorem compileLookup_spec (hhash : lib.exprHashString.Injective) {cache : ExprCache Program}
    (hcache : EntriesCompiled lib cache) (exprStr : String) :
    EntriesCompiled lib (lib.advanceCall cache (.usedVars exprStr) .compileLookup).1 ∧
      (lib.advanceCall cache (.usedVars exprStr) .compileLookup).2.Sound lib (.usedVars exprStr) ∧
      Call.Transparent lib
        { request := .usedVars exprStr
          state := (lib.advanceCall cache (.usedVars exprStr) .compileLookup).2 } := by
  rw [ExprCompiler.advanceCall]
  cases hlookup : lib.lookupEntry cache exprStr with
  | some entry =>
    have hentry := hcache.lookup hhash hlookup
    exact ⟨hcache, ⟨exprStr, entry, rfl, hentry⟩, transparent_running fun _ h => nomatch h⟩
  | none =>
    dsimp only
    cases hentry : lib.compileEntry exprStr with
    | error err =>
      exact ⟨hcache, trivial, transparent_returned.mpr (uncached_usedVars_error hentry).symm⟩
    | ok entry =>
      exact ⟨hcache, ⟨exprStr, hentry, .inr rfl⟩, transparent_running fun _ h => nomatch h⟩

/-- A lock section keeps the entries sound, and what it returns is what the call returns without a
    cache exactly if it is not a second lookup that misses. -/
theorem advanceCall_spec (hhash : lib.exprHashString.Injective)
    (hempty : ∃ err, lib.compileEntry "" = .error err) {cache : ExprCache Program}
    (hcache : EntriesCompiled lib cache) {c : Call Program}
    (hsound : c.state.Sound lib c.request) :
    EntriesCompiled lib (lib.advanceCall cache c.request c.state).1 ∧
      (lib.advanceCall cache c.request c.state).2.Sound lib c.request ∧
      (c.Transparent lib →
        (Call.Transparent lib { c with state := (lib.advanceCall cache c.request c.state).2 } ↔
          FindsEntry lib cache c)) := by
  obtain ⟨request, state⟩ := c
  dsimp only at hsound ⊢
  -- a section that is no second lookup finds nothing to miss
  have hother : state ≠ .reread → FindsEntry lib cache { request := request, state := state } :=
    fun h _ _ hstate => absurd hstate h
  cases state with
  | returned result =>
    have hsame : lib.advanceCall cache request (.returned result) = (cache, .returned result) := by
      cases request <;> rfl
    rw [hsame]
    exact ⟨hcache, trivial, fun h => iff_of_true h (hother fun h => nomatch h)⟩
  | lookup =>
    obtain ⟨hentries, hnext, hsame⟩ := lookup_spec hhash hempty hcache request
    exact ⟨hentries, hnext, fun _ => iff_of_true hsame (hother fun h => nomatch h)⟩
  | compileLookup =>
    obtain ⟨exprStr, rfl⟩ := hsound
    obtain ⟨hentries, hnext, hsame⟩ := compileLookup_spec hhash hcache exprStr
    exact ⟨hentries, hnext, fun _ => iff_of_true hsame (hother fun h => nomatch h)⟩
  | store entry =>
    obtain ⟨exprStr, hentry, rfl | rfl⟩ := hsound
    · exact ⟨hcache.store hentry, trivial, fun _ =>
        iff_of_true (transparent_returned.mpr (uncached_compile hentry).symm)
          (hother fun h => nomatch h)⟩
    · exact ⟨hcache.store hentry, ⟨exprStr, entry, rfl, hentry⟩, fun _ =>
        iff_of_true (transparent_running fun _ h => nomatch h) (hother fun h => nomatch h)⟩
  | reread =>
    obtain ⟨exprStr, entry, rfl, hentry⟩ := hsound
    rw [ExprCompiler.advanceCall]
    cases hlookup : lib.lookupEntry cache exprStr with
    | some found =>
      have hfound := hcache.lookup hhash hlookup
      refine ⟨hcache, trivial, fun _ => iff_of_true
        (transparent_returned.mpr (uncached_usedVars hfound).symm) ?_⟩
      rintro _ ⟨⟩ -
      rw [hlookup]
      rfl
    | none =>
      -- the entry was thrown away, and nil is not what the call returns without a cache
      refine ⟨hcache, trivial, fun _ => iff_of_false (fun h => ?_) fun h => ?_⟩
      · have hnil := transparent_returned.mp h
        rw [uncached_usedVars hentry] at hnil
        cases hnil
      · have hsome := h exprStr rfl rfl
        rw [hlookup] at hsome
        cases hsome

/-! ## Runs -/

/-- The entries and the calls are sound. -/
structure CacheInv (lib : ExprCompiler Program) (s : CacheWorld Program) : Prop where
  entries : EntriesCompiled lib s.cache
  calls : ∀ c ∈ s.calls, c.state.Sound lib c.request

/-- Every call that has returned has returned what it would without a cache. -/
def Transparent (lib : ExprCompiler Program) (s : CacheWorld Program) : Prop :=
  ∀ c ∈ s.calls, c.Transparent lib

/-- The step is not a second lookup of `UsedVars` that misses. -/
def EntryKept (lib : ExprCompiler Program) (s : CacheWorld Program) : CacheEvent → Prop
  | .call _ => True
  | .advance i => ∀ c, s.calls[i]? = some c → FindsEntry lib s.cache c

theorem cacheStep_inv (hhash : lib.exprHashString.Injective)
    (hempty : ∃ err, lib.compileEntry "" = .error err) (s : CacheWorld Program) (e : CacheEvent)
    (h : CacheInv lib s) : CacheInv lib (lib.cacheStep s e) := by
  cases e with
  | call request =>
    refine ⟨h.entries, fun c hc => ?_⟩
    rcases List.mem_append.mp hc with hc | hc
    · exact h.calls c hc
    · rw [List.mem_singleton.mp hc]
      trivial
  | advance i =>
    unfold ExprCompiler.cacheStep
    dsimp only
    cases hget : s.calls[i]? with
    | none => exact h
    | some c =>
      obtain ⟨hentries, hnext, -⟩ :=
        advanceCall_spec hhash hempty h.entries (h.calls c (List.mem_of_getElem? hget))
      refine ⟨hentries, fun c' hc' => ?_⟩
      rcases List.mem_or_eq_of_mem_set hc' with hc' | rfl
      · exact h.calls c' hc'
      · exact hnext

/-- A step keeps the calls transparent exactly if it is not a second lookup that misses. -/
theorem cacheStep_transparent (hhash : lib.exprHashString.Injective)
    (hempty : ∃ err, lib.compileEntry "" = .error err) (s : CacheWorld Program) (e : CacheEvent)
    (hinv : CacheInv lib s) (h : Transparent lib s) :
    Transparent lib (lib.cacheStep s e) ↔ EntryKept lib s e := by
  cases e with
  | call request =>
    refine iff_of_true (fun c hc => ?_) trivial
    rcases List.mem_append.mp hc with hc | hc
    · exact h c hc
    · rw [List.mem_singleton.mp hc]
      exact transparent_running fun _ h => nomatch h
  | advance i =>
    unfold ExprCompiler.cacheStep EntryKept
    dsimp only
    cases hget : s.calls[i]? with
    | none => exact iff_of_true h fun c hc => absurd hc (Option.some_ne_none c).symm
    | some c =>
      have hmem := List.mem_of_getElem? hget
      obtain ⟨-, -, hiff⟩ := advanceCall_spec hhash hempty hinv.entries (hinv.calls c hmem)
      have hlt : i < s.calls.length := (List.getElem?_eq_some_iff.mp hget).1
      simp only [Option.some.injEq, forall_eq', ← hiff (h c hmem)]
      constructor
      · exact fun hall => hall _ (List.mem_set hlt _)
      · intro hc c' hc'
        rcases List.mem_or_eq_of_mem_set hc' with hc' | rfl
        · exact h c' hc'
        · exact hc

/-- In every interleaving, every call returns what it would without a cache exactly if no second
    lookup of `UsedVars` misses. -/
theorem exprCache_transparent_iff (lib : ExprCompiler Program)
    (hhash : lib.exprHashString.Injective) (hempty : ∃ err, lib.compileEntry "" = .error err)
    (events : List CacheEvent) :
    Run.Always lib.cacheStep (Transparent lib) emptyWorld events ↔
      Run.Steps lib.cacheStep (EntryKept lib) emptyWorld events := by
  have hinv : CacheInv lib emptyWorld := ⟨entriesCompiled_nil, List.forall_mem_nil _⟩
  exact Run.always_iff_steps (cacheStep_inv hhash hempty) (cacheStep_transparent hhash hempty) hinv
    (List.forall_mem_nil _) events

/-! ## An expression that loses its variables -/

/-- A compiler whose programs are their own source, with the source as their only identifier. -/
def echoCompiler : ExprCompiler String where
  compile := fun _ body => if body = "" then .error "unexpected token EOF" else .ok body
  identifiers := fun prog => [prog]
  exprHashString := id

/-- The variables of `cr` are asked for, and the cache is cleared before they are looked up
    again. -/
def clearedEvents : List CacheEvent :=
  [.call (.usedVars "cr"), .call .invalidateCache, .advance 0, .advance 0, .advance 0, .advance 1,
    .advance 0]

/-- The run without the clearing. -/
theorem transparent_without_clearing :
    Run.Always echoCompiler.cacheStep (Transparent echoCompiler) emptyWorld
        [.call (.usedVars "cr"), .advance 0, .advance 0, .advance 0, .advance 0] ↔
      Run.Steps echoCompiler.cacheStep (EntryKept echoCompiler) emptyWorld
        [.call (.usedVars "cr"), .advance 0, .advance 0, .advance 0, .advance 0] :=
  exprCache_transparent_iff echoCompiler Function.injective_id ⟨_, rfl⟩ _

/-- `UsedVars` returns nil for an expression that compiles. -/
theorem cleared_usedVars_nil :
    ¬ ∀ (lib : ExprCompiler String), lib.exprHashString.Injective →
      (∃ err, lib.compileEntry "" = .error err) → ∀ (events : List CacheEvent),
      Run.Always lib.cacheStep (Transparent lib) emptyWorld events := by
  intro h
  have hlast := (h echoCompiler Function.injective_id ⟨_, rfl⟩ clearedEvents).last
  have hcalls : (Run.run echoCompiler.cacheStep emptyWorld clearedEvents).calls =
      [{ request := .usedVars "cr", state := .returned (.vars none) },
        { request := .invalidateCache, state := .returned .cleared }] := rfl
  have hnil := hlast { request := .usedVars "cr", state := .returned (.vars none) }
    (by rw [hcalls]; exact List.mem_cons_self) _ rfl
  cases hnil

end TokenRouter.BillingExpr
