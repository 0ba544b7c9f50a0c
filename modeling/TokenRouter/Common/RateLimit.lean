import Mathlib

/-!
# common/rate-limit.go: the in-memory rate limiter

The limiter keeps one queue of admission times for each key, oldest first, in Unix
seconds. Requests are served under the limiter's mutex, and so is each pass of
`clearExpiredItems`, so both are single steps. The limits of a call are its arguments.
-/

namespace TokenRouter

/-- The limiter. `expirationDuration` is a `time.Duration`, in nanoseconds. -/
structure InMemoryRateLimiter where
  store : String → Option (List Int)
  expirationDuration : Int

namespace InMemoryRateLimiter

/-- A limiter after `Init`. -/
def init (expirationDuration : Int) : InMemoryRateLimiter := ⟨fun _ => none, expirationDuration⟩

/-- `int64(l.expirationDuration.Seconds())`. -/
def expirationSeconds (l : InMemoryRateLimiter) : Int := l.expirationDuration.tdiv 1000000000

/-- The times remembered for a key. -/
def queue (l : InMemoryRateLimiter) (key : String) : List Int := (l.store key).getD []

/-- `*(l.store[key]) = queue`. -/
def setQueue (l : InMemoryRateLimiter) (key : String) (queue : List Int) : InMemoryRateLimiter :=
  { l with store := Function.update l.store key (some queue) }

/-- Whether a pass of `clearExpiredItems` deletes a queue. -/
def expired (l : InMemoryRateLimiter) (now : Int) (queue : List Int) : Bool :=
  match queue.getLast? with
  | none => true
  | some last => decide (l.expirationSeconds < now - last)

/-- One pass of `clearExpiredItems`; `Init` starts it only for a positive expiration. -/
def clearExpiredItems (l : InMemoryRateLimiter) (now : Int) : InMemoryRateLimiter :=
  if 0 < l.expirationDuration then
    { l with store := fun key => (l.store key).filter fun queue => !l.expired now queue }
  else l

/-- `Request`. A queue is never stored empty, so `(*queue)[0]` exists. -/
def request (l : InMemoryRateLimiter) (key : String) (maxRequestNum : Nat) (duration now : Int) :
    Bool × InMemoryRateLimiter :=
  match l.store key with
  | some queue =>
    if queue.length < maxRequestNum then (true, l.setQueue key (queue ++ [now]))
    else
      match queue with
      | [] => (false, l)
      | oldest :: rest =>
        if duration ≤ now - oldest then (true, l.setQueue key (rest ++ [now])) else (false, l)
  | none => (true, l.setQueue key [now])

@[simp] theorem queue_init (expirationDuration : Int) (key : String) :
    (init expirationDuration).queue key = [] := rfl

@[simp] theorem queue_setQueue_self (l : InMemoryRateLimiter) (key : String) (q : List Int) :
    (l.setQueue key q).queue key = q := by
  simp [queue, setQueue]

theorem queue_setQueue_of_ne (l : InMemoryRateLimiter) {key key' : String} (q : List Int)
    (h : key' ≠ key) : (l.setQueue key q).queue key' = l.queue key' := by
  simp [queue, setQueue, Function.update_of_ne h]

@[simp] theorem expirationDuration_setQueue (l : InMemoryRateLimiter) (key : String)
    (q : List Int) : (l.setQueue key q).expirationDuration = l.expirationDuration := rfl

@[simp] theorem expirationDuration_clearExpiredItems (l : InMemoryRateLimiter) (now : Int) :
    (l.clearExpiredItems now).expirationDuration = l.expirationDuration := by
  unfold clearExpiredItems
  split <;> rfl

/-- A pass keeps a queue or forgets it; it forgets only what has expired. -/
theorem queue_clearExpiredItems (l : InMemoryRateLimiter) (now : Int) (key : String) :
    (l.clearExpiredItems now).queue key = l.queue key ∨
      (l.clearExpiredItems now).queue key = [] ∧ 0 < l.expirationDuration ∧
        ∀ last, (l.queue key).getLast? = some last → l.expirationSeconds < now - last := by
  by_cases hexp : 0 < l.expirationDuration
  · cases hkey : l.store key with
    | none =>
      left
      simp [queue, clearExpiredItems, hexp, hkey]
    | some q =>
      by_cases hq : l.expired now q
      · right
        refine ⟨by simp [queue, clearExpiredItems, hexp, hkey, Option.filter, hq], hexp, ?_⟩
        intro last hlast
        simp only [queue, hkey, Option.getD_some] at hlast
        simpa [expired, hlast] using hq
      · left
        simp [queue, clearExpiredItems, hexp, hkey, Option.filter, hq]
  · left
    simp [clearExpiredItems, hexp]

@[simp] theorem expirationDuration_request (l : InMemoryRateLimiter) (key : String) (max : Nat)
    (duration now : Int) :
    (l.request key max duration now).2.expirationDuration = l.expirationDuration := by
  unfold request
  split
  · split
    · rfl
    · split
      · rfl
      · split <;> rfl
  · rfl

/-- No queue is stored empty. -/
def NonemptyQueues (l : InMemoryRateLimiter) : Prop := ∀ key, l.store key ≠ some []

theorem nonemptyQueues_init (expirationDuration : Int) :
    (init expirationDuration).NonemptyQueues := by
  intro key h
  cases h

theorem NonemptyQueues.setQueue {l : InMemoryRateLimiter} (h : l.NonemptyQueues) (key : String)
    {q : List Int} (hq : q ≠ []) : (l.setQueue key q).NonemptyQueues := by
  intro key' hkey'
  by_cases hk : key' = key
  · rw [hk] at hkey'
    simp [InMemoryRateLimiter.setQueue] at hkey'
    exact hq hkey'
  · exact h key' (by simpa [InMemoryRateLimiter.setQueue, Function.update_of_ne hk] using hkey')

theorem NonemptyQueues.clearExpiredItems {l : InMemoryRateLimiter} (h : l.NonemptyQueues)
    (now : Int) : (l.clearExpiredItems now).NonemptyQueues := by
  unfold InMemoryRateLimiter.clearExpiredItems
  split
  · intro key hkey
    exact h key (Option.filter_eq_some_iff.mp hkey).1
  · exact h

/-- What a call does, by the state of the key's queue before it. -/
inductive RequestCase (l : InMemoryRateLimiter) (key : String) (maxRequestNum : Nat)
    (duration now : Int) : Bool × InMemoryRateLimiter → Prop
  | absent (hqueue : l.queue key = []) :
    RequestCase l key maxRequestNum duration now (true, l.setQueue key [now])
  | append (hqueue : l.queue key ≠ []) (hlen : (l.queue key).length < maxRequestNum) :
    RequestCase l key maxRequestNum duration now (true, l.setQueue key (l.queue key ++ [now]))
  | shift {oldest : Int} {rest : List Int} (hqueue : l.queue key = oldest :: rest)
      (hlen : maxRequestNum ≤ (l.queue key).length) (hold : duration ≤ now - oldest) :
    RequestCase l key maxRequestNum duration now (true, l.setQueue key (rest ++ [now]))
  | refuse {oldest : Int} {rest : List Int} (hqueue : l.queue key = oldest :: rest)
      (hlen : maxRequestNum ≤ (l.queue key).length) (hold : now - oldest < duration) :
    RequestCase l key maxRequestNum duration now (false, l)

theorem request_cases {l : InMemoryRateLimiter} (h : l.NonemptyQueues) (key : String)
    (maxRequestNum : Nat) (duration now : Int) :
    RequestCase l key maxRequestNum duration now (l.request key maxRequestNum duration now) := by
  unfold request
  cases hkey : l.store key with
  | none => exact .absent (by simp [queue, hkey])
  | some q =>
    have hq : l.queue key = q := by simp [queue, hkey]
    cases q with
    | nil => exact absurd hkey (h key)
    | cons oldest rest =>
      by_cases hlen : (oldest :: rest).length < maxRequestNum
      · simp only [hlen, if_true]
        rw [← hq] at hlen ⊢
        exact .append (by rw [hq]; exact List.cons_ne_nil _ _) hlen
      · simp only [hlen, if_false]
        have hlen' : maxRequestNum ≤ (l.queue key).length := by
          rw [hq]
          omega
        split
        · next hold => exact .shift hq hlen' hold
        · next hold => exact .refuse hq hlen' (by omega)

/-- A limit of 0 works like one of 1: the first call of a window is admitted either way. -/
theorem request_max_one {l : InMemoryRateLimiter} (h : l.NonemptyQueues) (key : String)
    (maxRequestNum : Nat) (duration now : Int) :
    l.request key (max maxRequestNum 1) duration now =
      l.request key maxRequestNum duration now := by
  cases maxRequestNum with
  | succ n => rw [Nat.max_eq_left (by omega)]
  | zero =>
    unfold request
    cases hkey : l.store key with
    | none => rfl
    | some q =>
      cases q with
      | nil => exact absurd hkey (h key)
      | cons oldest rest => simp

end InMemoryRateLimiter

end TokenRouter
