import TokenRouter.Common.Json

/-!
# Billing expressions (`pkg/billingexpr/compile.go`)

Compiled expressions are kept in one map under a lock. A call takes the lock for a lookup, compiles
without it on a miss, and takes it again to store the entry; a full map is thrown away first.
-/

namespace TokenRouter.BillingExpr

def maxCacheSize : Nat := 256

/-- `DefaultExprVersion` -/
def defaultExprVersion : Nat := 1

/-- `ParseExprVersion` -/
def parseExprVersion (exprStr : String) : Nat × String :=
  match exprStr.toList with
  | 'v' :: '1' :: ':' :: body => (1, String.ofList body)
  | _ => (defaultExprVersion, exprStr)

/-- The names of `compileEnvPrototypeV1`. -/
def compileEnvPrototypeV1 : List String :=
  ["p", "c", "len", "cr", "cc", "cc1h", "img", "img_o", "ai", "ao", "tier", "header", "param",
    "has", "hour", "minute", "weekday", "month", "day", "max", "min", "abs", "ceil", "floor"]

/-- `getCompileEnv` -/
def getCompileEnv (_version : Nat) : List String := compileEnvPrototypeV1

/-- `expr.Compile` and the hash of an expression. -/
structure ExprCompiler (Program : Type) where
  /-- `expr.Compile` with `expr.AsFloat64` -/
  compile : List String → String → Except String Program
  /-- the identifier nodes of a program, as `ast.Find` visits them -/
  identifiers : Program → List String
  /-- `ExprHashString` -/
  exprHashString : String → String

/-- `cachedEntry` -/
structure CachedEntry (Program : Type) where
  prog : Program
  usedVars : GoMap Bool
  version : Nat

abbrev ExprCache (Program : Type) := GoMap (CachedEntry Program)

variable {Program : Type}

namespace ExprCompiler

variable (lib : ExprCompiler Program)

/-- `extractUsedVars` -/
def extractUsedVars (prog : Program) : GoMap Bool :=
  (lib.identifiers prog).foldl (fun vars name => GoMap.set name true vars) []

/-- What `compileFromCacheByHash` does between its lock sections. -/
def compileEntry (exprStr : String) : Except String (CachedEntry Program) :=
  let (version, body) := parseExprVersion exprStr
  match lib.compile (getCompileEnv version) body with
  | .error err => .error ("expr compile error: " ++ err)
  | .ok prog => .ok { prog := prog, usedVars := lib.extractUsedVars prog, version := version }

/-- The first lock section of every call. -/
def lookupEntry (cache : ExprCache Program) (exprStr : String) : Option (CachedEntry Program) :=
  GoMap.get? cache (lib.exprHashString exprStr)

/-- The lock section that stores an entry. -/
def storeEntry (cache : ExprCache Program) (exprStr : String) (entry : CachedEntry Program) :
    ExprCache Program :=
  GoMap.set (lib.exprHashString exprStr) entry (if maxCacheSize ≤ cache.length then [] else cache)

end ExprCompiler

/-! ## Calls -/

inductive Request where
  | compileFromCache (exprStr : String)
  | usedVars (exprStr : String)
  | exprVersion (exprStr : String)
  | invalidateCache
  deriving DecidableEq

/-- What a call returns; a set of variables may be nil. -/
inductive Result (Program : Type) where
  | program (prog : Except String Program)
  | vars (usedVars : Option (GoMap Bool))
  | version (version : Nat)
  | cleared

/-- Where a call stands between its lock sections. -/
inductive CallState (Program : Type) where
  | lookup
  /-- `UsedVars` has missed and calls `compileFromCacheByHash` -/
  | compileLookup
  | store (entry : CachedEntry Program)
  /-- `UsedVars` looks the entry up again -/
  | reread
  | returned (result : Result Program)

namespace ExprCompiler

variable (lib : ExprCompiler Program)

/-- The next lock section of a call, with what it computes before the one after it. -/
def advanceCall (cache : ExprCache Program) :
    Request → CallState Program → ExprCache Program × CallState Program
  | .compileFromCache exprStr, .lookup =>
    match lib.lookupEntry cache exprStr with
    | some entry => (cache, .returned (.program (.ok entry.prog)))
    | none =>
      match lib.compileEntry exprStr with
      | .error err => (cache, .returned (.program (.error err)))
      | .ok entry => (cache, .store entry)
  | .compileFromCache exprStr, .store entry =>
    (lib.storeEntry cache exprStr entry, .returned (.program (.ok entry.prog)))
  | .usedVars exprStr, .lookup =>
    if exprStr = "" then (cache, .returned (.vars none))
    else
      match lib.lookupEntry cache exprStr with
      | some entry => (cache, .returned (.vars (some entry.usedVars)))
      | none => (cache, .compileLookup)
  | .usedVars exprStr, .compileLookup =>
    match lib.lookupEntry cache exprStr with
    | some _ => (cache, .reread)
    | none =>
      match lib.compileEntry exprStr with
      | .error _ => (cache, .returned (.vars none))
      | .ok entry => (cache, .store entry)
  | .usedVars exprStr, .store entry => (lib.storeEntry cache exprStr entry, .reread)
  | .usedVars exprStr, .reread =>
    match lib.lookupEntry cache exprStr with
    | some entry => (cache, .returned (.vars (some entry.usedVars)))
    | none => (cache, .returned (.vars none))
  | .exprVersion exprStr, .lookup =>
    if exprStr = "" then (cache, .returned (.version defaultExprVersion))
    else
      match lib.lookupEntry cache exprStr with
      | some entry => (cache, .returned (.version entry.version))
      | none => (cache, .returned (.version (parseExprVersion exprStr).1))
  | .invalidateCache, .lookup => ([], .returned .cleared)
  | _, state => (cache, state)

end ExprCompiler

/-! ## Interleavings -/

structure Call (Program : Type) where
  request : Request
  state : CallState Program

/-- The cache and the calls that were made. -/
structure CacheWorld (Program : Type) where
  cache : ExprCache Program
  calls : List (Call Program)

/-- A call is made, or takes its next lock section. -/
inductive CacheEvent where
  | call (request : Request)
  | advance (i : Nat)

namespace ExprCompiler

variable (lib : ExprCompiler Program)

def cacheStep (s : CacheWorld Program) : CacheEvent → CacheWorld Program
  | .call request => { s with calls := s.calls ++ [{ request := request, state := .lookup }] }
  | .advance i =>
    match s.calls[i]? with
    | none => s
    | some c =>
      let (cache, state) := lib.advanceCall s.cache c.request c.state
      { cache := cache, calls := s.calls.set i { c with state := state } }

end ExprCompiler

/-- No entry and no call. -/
def emptyWorld : CacheWorld Program := { cache := [], calls := [] }

end TokenRouter.BillingExpr
