import TokenRouter.Common.RateLimit
import TokenRouter.ForStd.Run
import TokenRouter.ForStd.Window

/-!
# The sliding window of the in-memory limiter

A run is any sequence of calls and cleanup passes, with the history of admissions kept
beside the limiter. A queue is always a suffix of the history of its key; the rest is
forgotten. A refusal is always right. An admission is right exactly when what is forgotten
leaves room and a queue longer than the limit has its `max`-th newest entry outside the
window, and both hold when every call on a key has the same limits and no key expires
within a window.

## Key results

- `respects_iff_keepsWindow`: one step
- `window_respected_iff`: whole runs
- `window_respected_of_fixed`: fixed limits and an expiration that covers the window
-/

namespace TokenRouter

open Window

/-- A call of `Request`, or a pass of the cleanup. -/
inductive LimiterEvent where
  | request (key : String) (maxRequestNum : Nat) (duration now : Int)
  | clear (now : Int)

/-- When an event happens. -/
def LimiterEvent.now : LimiterEvent → Int
  | .request _ _ _ now => now
  | .clear now => now

/-- A call admits at least one request in its window. -/
def LimiterEvent.Valid : LimiterEvent → Prop
  | .request _ maxRequestNum _ _ => 1 ≤ maxRequestNum
  | .clear _ => True

instance : ∀ e, Decidable (LimiterEvent.Valid e)
  | .request _ maxRequestNum _ _ => inferInstanceAs (Decidable (1 ≤ maxRequestNum))
  | .clear _ => inferInstanceAs (Decidable True)

/-- The limiter, and the times of the calls admitted so far on each key. -/
structure LimiterRun where
  limiter : InMemoryRateLimiter
  admitted : String → List Int

namespace LimiterRun

def init (expirationDuration : Int) : LimiterRun := ⟨.init expirationDuration, fun _ => []⟩

/-- An admission is added to the history of its key. -/
def accept (s : LimiterRun) (limiter : InMemoryRateLimiter) (key : String) (now : Int) :
    LimiterRun :=
  ⟨limiter, Function.update s.admitted key (s.admitted key ++ [now])⟩

def step (s : LimiterRun) : LimiterEvent → LimiterRun
  | .request key maxRequestNum duration now =>
    match s.limiter.request key maxRequestNum duration now with
    | (true, limiter) => s.accept limiter key now
    | (false, limiter) => { s with limiter := limiter }
  | .clear now => { s with limiter := s.limiter.clearExpiredItems now }

@[simp] theorem limiter_step_request (s : LimiterRun) (key : String) (max : Nat) (d now : Int) :
    (s.step (.request key max d now)).limiter = (s.limiter.request key max d now).2 := by
  simp only [step]
  split
  · next l heq => rw [heq]; rfl
  · next l heq => rw [heq]

theorem admitted_step_request (s : LimiterRun) (key : String) (max : Nat) (d now : Int) :
    (s.step (.request key max d now)).admitted key =
      if (s.limiter.request key max d now).1 then s.admitted key ++ [now]
      else s.admitted key := by
  simp only [step]
  split
  · next l heq => simp [heq, accept]
  · next l heq => simp [heq]

theorem admitted_step_request_of_ne (s : LimiterRun) {key key' : String} (h : key' ≠ key)
    (max : Nat) (d now : Int) :
    (s.step (.request key max d now)).admitted key' = s.admitted key' := by
  simp only [step]
  split
  · exact Function.update_of_ne h _ _
  · rfl

/-- A call is admitted only if fewer than `max` calls were admitted in the window before it,
and refused only if at least `max` were. -/
def Respects (s : LimiterRun) : LimiterEvent → Prop
  | .request key maxRequestNum duration now =>
    if (s.limiter.request key maxRequestNum duration now).1 then
      recent duration now (s.admitted key) < maxRequestNum
    else maxRequestNum ≤ recent duration now (s.admitted key)
  | .clear _ => True

instance (s : LimiterRun) : ∀ e, Decidable (s.Respects e)
  | .request key maxRequestNum duration now =>
    inferInstanceAs (Decidable (if (s.limiter.request key maxRequestNum duration now).1 then
      recent duration now (s.admitted key) < maxRequestNum
    else maxRequestNum ≤ recent duration now (s.admitted key)))
  | .clear _ => inferInstanceAs (Decidable True)

/-- The admissions of a key that its queue no longer holds. -/
def forgotten (s : LimiterRun) (key : String) : List Int :=
  (s.admitted key).take ((s.admitted key).length - (s.limiter.queue key).length)

/-- The queue has room only if it has room for the forgotten admissions of the window as
well, and where it is full but its oldest entry has left the window, so has its `max`-th
newest entry. -/
def KeepsWindow (s : LimiterRun) : LimiterEvent → Prop
  | .request key maxRequestNum duration now =>
    let queue := s.limiter.queue key
    if queue.length < maxRequestNum then
      recent duration now (s.forgotten key) + queue.length < maxRequestNum
    else
      duration ≤ now - queue.headD now →
        duration ≤ now - queue.getD (queue.length - maxRequestNum) now
  | .clear _ => True

instance (s : LimiterRun) : ∀ e, Decidable (s.KeepsWindow e)
  | .request key maxRequestNum duration now =>
    inferInstanceAs (Decidable (if (s.limiter.queue key).length < maxRequestNum then
      recent duration now (s.forgotten key) + (s.limiter.queue key).length < maxRequestNum
    else duration ≤ now - (s.limiter.queue key).headD now → duration ≤ now -
      (s.limiter.queue key).getD ((s.limiter.queue key).length - maxRequestNum) now))
  | .clear _ => inferInstanceAs (Decidable True)

/-- Each queue is a suffix of the sorted history of its key. -/
structure Remembers (now : Int) (s : LimiterRun) : Prop where
  nonempty : s.limiter.NonemptyQueues
  suffix : ∀ key, s.admitted key = s.forgotten key ++ s.limiter.queue key
  sorted : ∀ key, SortedUpTo now (s.admitted key)

theorem forgotten_eq {s : LimiterRun} {key : String} {f : List Int}
    (h : s.admitted key = f ++ s.limiter.queue key) : s.forgotten key = f := by
  simp [forgotten, h]

theorem remembers_init (expirationDuration now : Int) : (init expirationDuration).Remembers now where
  nonempty := InMemoryRateLimiter.nonemptyQueues_init _
  suffix _ := rfl
  sorted _ := sortedUpTo_nil now

theorem Remembers.mono {s : LimiterRun} {now now' : Int} (h : s.Remembers now)
    (hle : now ≤ now') : s.Remembers now' :=
  ⟨h.nonempty, h.suffix, fun key => (h.sorted key).mono hle⟩

/-- An admission whose queue stays a suffix of the history. -/
theorem Remembers.accept {s : LimiterRun} {now : Int} (h : s.Remembers now) {key : String}
    {f q : List Int} (hq : s.admitted key = f ++ q) :
    (s.accept (s.limiter.setQueue key (q ++ [now])) key now).Remembers now := by
  refine ⟨h.nonempty.setQueue key (by simp), ?_, ?_⟩
  · intro key'
    by_cases hk : key' = key
    · rw [hk]
      have hnew : (s.accept (s.limiter.setQueue key (q ++ [now])) key now).admitted key =
          f ++ (s.accept (s.limiter.setQueue key (q ++ [now])) key now).limiter.queue key := by
        simp [LimiterRun.accept, hq]
      rw [forgotten_eq hnew]
      exact hnew
    · have hold := h.suffix key'
      have hnew : (s.accept (s.limiter.setQueue key (q ++ [now])) key now).admitted key' =
          s.forgotten key' ++
            (s.accept (s.limiter.setQueue key (q ++ [now])) key now).limiter.queue key' := by
        simp only [LimiterRun.accept, Function.update_of_ne hk,
          InMemoryRateLimiter.queue_setQueue_of_ne _ _ hk]
        exact hold
      rw [forgotten_eq hnew]
      exact hnew
  · intro key'
    by_cases hk : key' = key
    · rw [hk]
      simp only [LimiterRun.accept, Function.update_self]
      exact (h.sorted key).push
    · simp only [LimiterRun.accept, Function.update_of_ne hk]
      exact h.sorted key'

/-- Forgetting a queue leaves the empty suffix. -/
theorem Remembers.clear {s : LimiterRun} {now : Int} (h : s.Remembers now) (t : Int) :
    ({ s with limiter := s.limiter.clearExpiredItems t } : LimiterRun).Remembers now := by
  refine ⟨h.nonempty.clearExpiredItems t, ?_, h.sorted⟩
  intro key
  rcases s.limiter.queue_clearExpiredItems t key with hkeep | ⟨hgone, -, -⟩
  · simp only [forgotten, hkeep]
    exact h.suffix key
  · simp [forgotten, hgone]

theorem Remembers.step {s : LimiterRun} {e : LimiterEvent} (h : s.Remembers e.now) :
    (s.step e).Remembers e.now := by
  cases e with
  | clear now => exact h.clear now
  | request key max d now =>
    have hcases := InMemoryRateLimiter.request_cases h.nonempty key max d now
    simp only [LimiterRun.step]
    generalize s.limiter.request key max d now = r at hcases
    cases hcases with
    | absent hq => exact h.accept (q := []) (by rw [h.suffix key, hq])
    | append hq hlen => exact h.accept (h.suffix key)
    | @shift oldest rest hq hlen hold =>
      refine h.accept (f := s.forgotten key ++ [oldest]) ?_
      rw [h.suffix key, hq]
      simp
    | refuse hq hlen hold => exact h

theorem expirationDuration_step (s : LimiterRun) (e : LimiterEvent) :
    (s.step e).limiter.expirationDuration = s.limiter.expirationDuration := by
  cases e with
  | clear now => exact s.limiter.expirationDuration_clearExpiredItems now
  | request key max d now =>
    simp only [step]
    have h := s.limiter.expirationDuration_request key max d now
    generalize s.limiter.request key max d now = r at h
    obtain ⟨ok, l⟩ := r
    cases ok <;> exact h

theorem Remembers.recent_admitted {s : LimiterRun} {now : Int} (h : s.Remembers now)
    (key : String) (d : Int) :
    recent d now (s.admitted key) =
      recent d now (s.forgotten key) + recent d now (s.limiter.queue key) := by
  rw [← recent_append, ← h.suffix key]

/-- With room in the queue: the forgotten admissions of the window decide. -/
theorem Remembers.lt_of_room {s : LimiterRun} {now : Int} (h : s.Remembers now) (key : String)
    {max : Nat} {d : Int} (hlen : (s.limiter.queue key).length < max) :
    recent d now (s.admitted key) < max ↔
      recent d now (s.forgotten key) + (s.limiter.queue key).length < max := by
  have hsum := h.recent_admitted key d
  have hle := recent_le_length d now (s.limiter.queue key)
  by_cases hpos : 0 < recent d now (s.forgotten key)
  · have hsorted := h.sorted key
    rw [h.suffix key] at hsorted
    have hall := recent_append_of_pos hsorted hpos
    rw [hsum, hall]
  · constructor
    · intro _
      omega
    · intro _
      omega

/-- One step keeps the window exactly under the condition; a refusal is always right. -/
theorem respects_iff_keepsWindow {s : LimiterRun} {e : LimiterEvent} (h : s.Remembers e.now)
    (hvalid : e.Valid) : s.Respects e ↔ s.KeepsWindow e := by
  cases e with
  | clear now => exact Iff.rfl
  | request key max d now =>
    have hmax : 1 ≤ max := hvalid
    replace h : s.Remembers now := h
    have hcases := InMemoryRateLimiter.request_cases h.nonempty key max d now
    have hsum := h.recent_admitted key d
    have hsorted := h.sorted key
    simp only [Respects, KeepsWindow]
    generalize s.limiter.request key max d now = r at hcases
    cases hcases with
    | absent hq =>
      have hlen : (s.limiter.queue key).length < max := by
        rw [hq]
        exact hmax
      simp only [hlen, if_true]
      exact h.lt_of_room key hlen
    | append hq hlen =>
      simp only [hlen, if_true]
      exact h.lt_of_room key hlen
    | @shift oldest rest hq hlen hold =>
      have hnlt : ¬ (s.limiter.queue key).length < max := by omega
      simp only [if_true, hnlt, if_false]
      have hcut := hsorted
      rw [h.suffix key] at hcut
      -- the oldest entry has left the window, and so has what came before it
      have hzero : recent d now (s.forgotten key) = 0 := by
        rw [hq] at hcut
        exact recent_eq_zero_of_head hcut hold
      have hiff := le_recent_iff (d := d) hcut.right hmax hlen
      have hidx : (s.limiter.queue key).length - max < (s.limiter.queue key).length := by omega
      have hget : (s.limiter.queue key).getD ((s.limiter.queue key).length - max) now =
          (s.limiter.queue key)[(s.limiter.queue key).length - max] :=
        List.getD_eq_getElem _ _ hidx
      have hhead : (s.limiter.queue key).headD now = oldest := by rw [hq]; rfl
      rw [hsum, hzero, hget, hhead]
      constructor
      · intro hlt _
        by_contra hin
        have := hiff.mpr (by omega)
        omega
      · intro hout
        by_contra hge
        have := hiff.mp (by omega)
        have := hout hold
        omega
    | @refuse oldest rest hq hlen hold =>
      have hnlt : ¬ (s.limiter.queue key).length < max := by omega
      have hhead : (s.limiter.queue key).headD now = oldest := by rw [hq]; rfl
      have hall : recent d now (s.limiter.queue key) = (s.limiter.queue key).length := by
        rw [h.suffix key] at hsorted
        have hr := hsorted.right
        rw [hq] at hr ⊢
        exact recent_eq_length hr hold
      simp only [Bool.false_eq_true, hnlt, if_false, hhead]
      constructor
      · intro _ hout
        omega
      · intro _
        omega

/-- Over every run of calls and cleanup passes in the order of their times, with positive
limits that may differ from call to call and any expiration. -/
theorem window_respected_iff (expirationDuration : Int) (es : List LimiterEvent)
    (htimes : es.Pairwise fun e e' => e.now ≤ e'.now) (hvalid : ∀ e ∈ es, e.Valid) :
    Run.Steps step Respects (init expirationDuration) es ↔
      Run.Steps step KeepsWindow (init expirationDuration) es := by
  apply Run.steps_congr
  refine Run.steps_of_times (fun now s => s.Remembers now) (G := fun _ e => e.Valid)
    (fun _ _ _ hle h => h.mono hle) (fun _ _ h _ => h.step)
    (fun _ _ h hv => respects_iff_keepsWindow h hv) ?_ htimes (Run.steps_of_forall_mem _ hvalid)
  intro e _
  exact remembers_init expirationDuration e.now

/-- A call with a smaller limit is admitted on the age of the oldest of two entries, though
the other one fills its window; and a key idle for less than a window is forgotten. -/
theorem admitted_over_limit :
    ¬ Run.Steps step Respects (init 0)
        [.request "u" 2 10 0, .request "u" 2 10 5, .request "u" 1 10 12] ∧
      ¬ Run.Steps step Respects (init 5000000000)
        [.request "u" 1 60 0, .clear 10, .request "u" 1 60 11] := by
  refine ⟨?_, ?_⟩ <;> decide

/-- Limits that change without harm: the larger one comes later. -/
theorem window_respected_growing :
    Run.Steps step Respects (init 0)
      [.request "u" 1 10 0, .request "u" 1 10 5, .request "u" 2 10 7] :=
  (window_respected_iff 0 _ (by decide) (by decide)).mpr (by decide)

/-! ### Fixed limits -/

/-- A call on a key has that key's limits. -/
def Fixed (limits : String → Nat × Int) : LimiterEvent → Prop
  | .request key maxRequestNum duration _ => (maxRequestNum, duration) = limits key
  | .clear _ => True

/-- A cleanup pass forgets only queues whose newest entry has left the window of their key. -/
def Spares (limits : String → Nat × Int) (l : InMemoryRateLimiter) : LimiterEvent → Prop
  | .request .. => True
  | .clear now => 0 < l.expirationDuration → ∀ key last, (l.queue key).getLast? = some last →
      l.expirationSeconds < now - last → (limits key).2 ≤ now - last

/-- If keys expire at all, none expires within its window. -/
def Covers (l : InMemoryRateLimiter) (limits : String → Nat × Int) : Prop :=
  0 < l.expirationDuration → ∀ key, (limits key).2 ≤ l.expirationSeconds + 1

theorem Covers.spares {l : InMemoryRateLimiter} {limits : String → Nat × Int}
    (h : Covers l limits) (e : LimiterEvent) : Spares limits l e := by
  cases e with
  | request key max d now => trivial
  | clear now =>
    intro hexp key last _ hold
    have := h hexp key
    omega

/-- Every queue holds the newest admissions of its key, and all those of its window. -/
structure RoomIsReal (limits : String → Nat × Int) (now : Int) (s : LimiterRun) : Prop where
  nonempty : s.limiter.NonemptyQueues
  keeps : ∀ key, Keeps (limits key).1 (limits key).2 now (s.admitted key) (s.limiter.queue key)

theorem roomIsReal_init (expirationDuration now : Int) (limits : String → Nat × Int) :
    (init expirationDuration).RoomIsReal limits now where
  nonempty := InMemoryRateLimiter.nonemptyQueues_init _
  keeps _ := keeps_nil _ _ now

theorem RoomIsReal.mono {limits : String → Nat × Int} {now now' : Int} {s : LimiterRun}
    (h : s.RoomIsReal limits now) (hle : now ≤ now') : s.RoomIsReal limits now' :=
  ⟨h.nonempty, fun key => (h.keeps key).mono hle⟩

theorem RoomIsReal.accept {limits : String → Nat × Int} {now : Int} {s : LimiterRun}
    (h : s.RoomIsReal limits now) {key : String} {q : List Int}
    (hq : Keeps (limits key).1 (limits key).2 now (s.admitted key ++ [now]) (q ++ [now])) :
    (s.accept (s.limiter.setQueue key (q ++ [now])) key now).RoomIsReal limits now := by
  refine ⟨h.nonempty.setQueue key (by simp), ?_⟩
  intro key'
  by_cases hk : key' = key
  · rw [hk]
    simpa only [LimiterRun.accept, InMemoryRateLimiter.queue_setQueue_self,
      Function.update_self] using hq
  · simp only [LimiterRun.accept, InMemoryRateLimiter.queue_setQueue_of_ne _ _ hk,
      Function.update_of_ne hk]
    exact h.keeps key'

theorem RoomIsReal.clear {limits : String → Nat × Int} {now : Int} {s : LimiterRun}
    (h : s.RoomIsReal limits now) (hpos : ∀ key, 1 ≤ (limits key).1)
    (hspare : Spares limits s.limiter (.clear now)) :
    ({ s with limiter := s.limiter.clearExpiredItems now } : LimiterRun).RoomIsReal limits
      now := by
  refine ⟨h.nonempty.clearExpiredItems now, ?_⟩
  intro key
  rcases s.limiter.queue_clearExpiredItems now key with hkeep | ⟨hgone, hexp, hlast⟩
  · simp only [hkeep]
    exact h.keeps key
  · simp only [hgone]
    refine (h.keeps key).forget (hpos key) ?_
    intro last hmem
    exact hspare hexp key last hmem (hlast last hmem)

/-- Under the invariant a call within the limits of its key is answered as it should be. -/
theorem RoomIsReal.request {limits : String → Nat × Int} {now : Int} {s : LimiterRun}
    (h : s.RoomIsReal limits now) (key : String) (hpos : 1 ≤ (limits key).1) :
    (s.limiter.request key (limits key).1 (limits key).2 now).1 = true ↔
      recent (limits key).2 now (s.admitted key) < (limits key).1 := by
  rw [(h.keeps key).recent_lt_iff hpos]
  have hcases := InMemoryRateLimiter.request_cases h.nonempty key (limits key).1 (limits key).2 now
  generalize s.limiter.request key (limits key).1 (limits key).2 now = r at hcases
  cases hcases with
  | absent hq => simp [hq]
  | append hq hlen => simp [hlen]
  | shift hq hlen hold =>
    refine ⟨fun _ => Or.inr ?_, fun _ => rfl⟩
    simpa [hq] using hold
  | refuse hq hlen hold =>
    refine ⟨fun hfalse => absurd hfalse Bool.false_ne_true, ?_⟩
    rintro (hlt | hout)
    · omega
    · have := hout _ (by rw [hq]; rfl)
      omega

theorem RoomIsReal.step {limits : String → Nat × Int} {s : LimiterRun} {e : LimiterEvent}
    (h : s.RoomIsReal limits e.now) (hfixed : Fixed limits e) (hpos : ∀ key, 1 ≤ (limits key).1)
    (hspare : Spares limits s.limiter e) : (s.step e).RoomIsReal limits e.now := by
  cases e with
  | clear now => exact h.clear hpos hspare
  | request key max d now =>
    have hcases := InMemoryRateLimiter.request_cases h.nonempty key max d now
    have hlim : limits key = (max, d) := hfixed.symm
    have hkeeps := h.keeps key
    simp only [LimiterRun.step]
    generalize s.limiter.request key max d now = r at hcases
    cases hcases with
    | absent hq =>
      rw [hq] at hkeeps
      exact h.accept (q := []) (hkeeps.push_room (hpos key))
    | append hq hlen => exact h.accept (hkeeps.push_room (by rw [hlim]; exact hlen))
    | shift hq hlen hold =>
      rw [hq] at hkeeps hlen
      exact h.accept (hkeeps.push_full (by rw [hlim]; exact hlen))
    | refuse hq hlen hold => exact h

theorem RoomIsReal.respects {limits : String → Nat × Int} {s : LimiterRun} {e : LimiterEvent}
    (h : s.RoomIsReal limits e.now) (hfixed : Fixed limits e)
    (hpos : ∀ key, 1 ≤ (limits key).1) : s.Respects e := by
  cases e with
  | clear now => trivial
  | request key max d now =>
    have hiff := h.request key (hpos key)
    rw [show limits key = (max, d) from hfixed.symm] at hiff
    simp only [Respects]
    split
    · next hok => exact hiff.mp hok
    · next hno => exact not_lt.mp fun hlt => hno (hiff.mpr hlt)

theorem Covers.step {limits : String → Nat × Int} {s : LimiterRun}
    (h : Covers s.limiter limits) (e : LimiterEvent) : Covers (s.step e).limiter limits := by
  intro hexp key
  unfold InMemoryRateLimiter.expirationSeconds
  rw [expirationDuration_step] at hexp ⊢
  exact h hexp key

/-- With one pair of limits for each key and an expiration that covers the windows, every
admission and every refusal is right. -/
theorem window_respected_of_fixed (expirationDuration : Int) (limits : String → Nat × Int)
    (es : List LimiterEvent) (htimes : es.Pairwise fun e e' => e.now ≤ e'.now)
    (hfixed : ∀ e ∈ es, Fixed limits e) (hpos : ∀ key, 1 ≤ (limits key).1)
    (hcover : Covers (.init expirationDuration) limits) :
    Run.Steps step Respects (init expirationDuration) es := by
  refine Run.steps_of_times
    (fun now s => s.RoomIsReal limits now ∧ Covers s.limiter limits)
    (G := fun _ e => Fixed limits e) ?_ ?_ ?_ ?_ htimes (Run.steps_of_forall_mem _ hfixed)
  · intro t t' s hle h
    exact ⟨h.1.mono hle, h.2⟩
  · intro s e h hf
    exact ⟨h.1.step hf hpos (h.2.spares e), h.2.step e⟩
  · intro s e h hf
    exact h.1.respects hf hpos
  · intro e _
    exact ⟨roomIsReal_init expirationDuration e.now limits, hcover⟩

/-- Two calls in 60 seconds, with a pass after 20 minutes. -/
theorem window_respected_of_fixed_two :
    Run.Steps step Respects (init 1200000000000)
      [.request "a" 2 60 0, .request "a" 2 60 59, .request "a" 2 60 59, .request "b" 2 60 60,
        .request "a" 2 60 60, .clear 1300] :=
  window_respected_of_fixed _ (fun _ => (2, 60)) _ (by simp [LimiterEvent.now]) (by simp [Fixed])
    (fun _ => by decide) (fun _ _ => show (60 : Int) ≤ _ by decide)

end LimiterRun

end TokenRouter
