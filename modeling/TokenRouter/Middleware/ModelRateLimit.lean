import TokenRouter.Common.RateLimit

/-!
# middleware/model-rate-limit.go: the two model rate limiters

Both handlers are modelled for one user whose requests do not overlap: `enter` is the
part of the handler before `c.Next()`, `leave` the part after a response with a status
below 400. Times are in Unix milliseconds; `time.Now().Unix()` and the `TIME` of Redis
are their whole seconds. Redis answers every command.

The limits are those of the user's group, 0 meaning unlimited, and the duration is
`ModelRequestRateLimitDurationMinutes * 60` seconds.
-/

namespace TokenRouter

/-- The settings of a user's group. -/
structure ModelRateLimit where
  totalMaxCount : Nat
  successMaxCount : Nat
  durationMinutes : Nat

/-- `int64(setting.ModelRequestRateLimitDurationMinutes * 60)`. -/
def ModelRateLimit.duration (cfg : ModelRateLimit) : Int := cfg.durationMinutes * 60

/-- Whether a handler passes a request on, or which limit it refuses it for. -/
inductive RateVerdict where
  | allowed
  | overSuccess
  | overTotal
  deriving DecidableEq

/-- The whole seconds of a time in milliseconds. -/
def unixSeconds (now : Int) : Int := now / 1000

/-! ### Redis -/

/-- The keys of one user in Redis: the list of successes, newest first, with the time it
expires at, and the token bucket, a hash of `tokens` and `last_time`. -/
structure RedisRateStore where
  successes : List Int
  expireAt : Int
  bucket : Option (Int × Int)

namespace RedisRateStore

def init : RedisRateStore := ⟨[], 0, none⟩

/-- The list as Redis sees it: an expired key is gone. -/
def successList (s : RedisRateStore) (now : Int) : List Int :=
  if s.expireAt ≤ now then [] else s.successes

/-- The `EXPIRE` of the success key. -/
def expire (s : RedisRateStore) (cfg : ModelRateLimit) (now : Int) : RedisRateStore :=
  { s with successes := s.successList now, expireAt := now + cfg.duration * 1000 }

/-- `checkRedisRateLimit`. -/
def checkRedisRateLimit (s : RedisRateStore) (cfg : ModelRateLimit) (now : Int) :
    Bool × RedisRateStore :=
  if cfg.successMaxCount = 0 then (true, s)
  else if (s.successList now).length < cfg.successMaxCount then (true, s)
  else
    match (s.successList now).getLast? with
    | none => (true, s)
    | some oldTime =>
      if (now - oldTime).tdiv 1000 < cfg.duration then (false, s.expire cfg now) else (true, s)

/-- `recordRedisRequest`: `LPUSH`, `LTRIM`, `EXPIRE`. -/
def recordRedisRequest (s : RedisRateStore) (cfg : ModelRateLimit) (now : Int) :
    RedisRateStore :=
  if cfg.successMaxCount = 0 then s
  else
    { s with
      successes := (now :: s.successList now).take cfg.successMaxCount
      expireAt := now + cfg.duration * 1000 }

/-- The tokens of the bucket when a request comes, `capacity` at first. -/
def tokens (s : RedisRateStore) (capacity rate now : Int) : Int :=
  match s.bucket with
  | none => capacity
  | some (tokens, lastTime) => min capacity (tokens + (unixSeconds now - lastTime) * rate)

/-- The script `rate_limit.lua`. -/
def tokenBucket (s : RedisRateStore) (requested rate capacity now : Int) :
    Bool × RedisRateStore :=
  if requested ≤ s.tokens capacity rate now then
    (true, { s with bucket := some (s.tokens capacity rate now - requested, unixSeconds now) })
  else (false, { s with bucket := some (s.tokens capacity rate now, unixSeconds now) })

end RedisRateStore

/-- `redisRateLimitHandler` before `c.Next()`. After the total limit it aborts without
returning, and the aborted context runs no later handler. -/
def redisRateLimitHandler (cfg : ModelRateLimit) (s : RedisRateStore) (now : Int) :
    RateVerdict × RedisRateStore :=
  match s.checkRedisRateLimit cfg now with
  | (false, s) => (.overSuccess, s)
  | (true, s) =>
    if 0 < cfg.totalMaxCount then
      match s.tokenBucket cfg.duration cfg.totalMaxCount (cfg.totalMaxCount * cfg.duration) now with
      | (true, s) => (.allowed, s)
      | (false, s) => (.overTotal, s)
    else (.allowed, s)

/-! ### Memory -/

def totalKey (userId : String) : String := "MRRL" ++ userId

def successKey (userId : String) : String := "MRRLS" ++ userId

def checkKey (userId : String) : String := successKey userId ++ "_check"

/-- `memoryRateLimitHandler` before `c.Next()`. -/
def memoryRateLimitHandler (cfg : ModelRateLimit) (userId : String) (l : InMemoryRateLimiter)
    (now : Int) : RateVerdict × InMemoryRateLimiter :=
  let (underTotal, l) :=
    if 0 < cfg.totalMaxCount then
      l.request (totalKey userId) cfg.totalMaxCount cfg.duration (unixSeconds now)
    else (true, l)
  if underTotal then
    match l.request (checkKey userId) cfg.successMaxCount cfg.duration (unixSeconds now) with
    | (true, l) => (.allowed, l)
    | (false, l) => (.overSuccess, l)
  else (.overTotal, l)

/-- `memoryRateLimitHandler` after a successful response. -/
def memoryRecordSuccess (cfg : ModelRateLimit) (userId : String) (l : InMemoryRateLimiter)
    (now : Int) : InMemoryRateLimiter :=
  (l.request (successKey userId) cfg.successMaxCount cfg.duration (unixSeconds now)).2

/-! ### Runs of a handler -/

/-- A handler over its store, with the clock and the window that it measures the limits by. -/
structure RateHandler (σ : Type) where
  clock : Int → Int
  window : Int
  enter : σ → Int → RateVerdict × σ
  leave : σ → Int → σ
  sweep : σ → Int → σ

/-- The Redis handler, on a clock of milliseconds. -/
def redisHandler (cfg : ModelRateLimit) : RateHandler RedisRateStore where
  clock now := now
  window := cfg.duration * 1000
  enter := redisRateLimitHandler cfg
  leave s now := s.recordRedisRequest cfg now
  sweep s _ := s

/-- The memory handler, on a clock of seconds; `sweep` is the limiter's cleanup. -/
def memoryHandler (cfg : ModelRateLimit) (userId : String) : RateHandler InMemoryRateLimiter where
  clock := unixSeconds
  window := cfg.duration
  enter := memoryRateLimitHandler cfg userId
  leave := memoryRecordSuccess cfg userId
  sweep l now := l.clearExpiredItems (unixSeconds now)

/-- A request comes, or the response to the one under way ends, or the cleanup runs. -/
inductive RateEvent where
  | enter (now : Int)
  | leave (now : Int) (success : Bool)
  | sweep (now : Int)

def RateEvent.now : RateEvent → Int
  | .enter now => now
  | .leave now _ => now
  | .sweep now => now

/-- The store, whether a request is under way, and when requests were admitted and when
they succeeded, by the handler's clock and oldest first. -/
structure RateRun (σ : Type) where
  store : σ
  underWay : Bool
  admitted : List Int
  succeeded : List Int

/-- Requests do not overlap: one comes only when none is under way. -/
def RateHandler.step {σ : Type} (h : RateHandler σ) (s : RateRun σ) : RateEvent → RateRun σ
  | .enter now =>
    if s.underWay then s
    else
      match h.enter s.store now with
      | (.allowed, store) =>
        { s with store, underWay := true, admitted := s.admitted ++ [h.clock now] }
      | (_, store) => { s with store }
  | .leave now success =>
    if s.underWay then
      if success then
        { s with
          store := h.leave s.store now
          underWay := false
          succeeded := s.succeeded ++ [h.clock now] }
      else { s with underWay := false }
    else s
  | .sweep now => { s with store := h.sweep s.store now }

end TokenRouter
