import Mathlib

/-!
# Sliding windows over a log of times

A log lists times, oldest first. `recent d now log` counts the entries in the window
of length `d` that ends at `now`.

## Key results

- `recent_eq_length`: a log whose oldest entry is recent is recent throughout
- `recent_append_of_pos`: entries before a log count only if the whole log does
- `le_recent_iff`: the count reaches `k` exactly when the `k`-th newest entry is recent
- `Keeps.recent_lt_iff`: what a bounded queue of the newest entries says about the count
-/

namespace Window

/-- The number of entries of `log` in `(now - d, now]`. -/
def recent (d now : Int) (log : List Int) : Nat :=
  log.countP fun t => decide (now - d < t ∧ t ≤ now)

/-- The entries of `log` do not decrease, and none is later than `now`. -/
structure SortedUpTo (now : Int) (log : List Int) : Prop where
  sorted : log.Pairwise (· ≤ ·)
  le : ∀ t ∈ log, t ≤ now

@[simp] theorem recent_nil (d now : Int) : recent d now [] = 0 := rfl

@[simp] theorem recent_append (d now : Int) (log log' : List Int) :
    recent d now (log ++ log') = recent d now log + recent d now log' :=
  List.countP_append

theorem recent_le_length (d now : Int) (log : List Int) : recent d now log ≤ log.length :=
  List.countP_le_length

theorem sortedUpTo_nil (now : Int) : SortedUpTo now [] :=
  ⟨List.Pairwise.nil, fun _ h => absurd h List.not_mem_nil⟩

theorem SortedUpTo.mono {now now' : Int} {log : List Int} (h : SortedUpTo now log)
    (hle : now ≤ now') : SortedUpTo now' log :=
  ⟨h.sorted, fun t ht => le_trans (h.le t ht) hle⟩

/-- The present time may be appended. -/
theorem SortedUpTo.push {now : Int} {log : List Int} (h : SortedUpTo now log) :
    SortedUpTo now (log ++ [now]) := by
  refine ⟨?_, ?_⟩
  · rw [List.pairwise_append]
    refine ⟨h.sorted, List.pairwise_singleton _ _, ?_⟩
    intro t ht u hu
    rw [List.mem_singleton] at hu
    rw [hu]
    exact h.le t ht
  · intro t ht
    rcases List.mem_append.mp ht with ht | ht
    · exact h.le t ht
    · rw [List.mem_singleton] at ht
      omega

theorem SortedUpTo.left {now : Int} {log log' : List Int} (h : SortedUpTo now (log ++ log')) :
    SortedUpTo now log :=
  ⟨(List.pairwise_append.mp h.sorted).1, fun t ht => h.le t (List.mem_append_left _ ht)⟩

theorem SortedUpTo.right {now : Int} {log log' : List Int} (h : SortedUpTo now (log ++ log')) :
    SortedUpTo now log' :=
  ⟨(List.pairwise_append.mp h.sorted).2.1, fun t ht => h.le t (List.mem_append_right _ ht)⟩

/-- If the oldest entry is recent, every entry is. -/
theorem recent_eq_length {d now x : Int} {log : List Int} (h : SortedUpTo now (x :: log))
    (hx : now - x < d) : recent d now (x :: log) = (x :: log).length := by
  apply List.countP_eq_length.mpr
  intro t ht
  have hle := h.le t ht
  have hxt : x ≤ t := by
    rcases List.mem_cons.mp ht with rfl | ht
    · exact le_refl _
    · exact (List.pairwise_cons.mp h.sorted).1 t ht
  simp only [decide_eq_true_eq]
  omega

/-- If no entry is recent, none is counted. -/
theorem recent_eq_zero {d now : Int} {log : List Int} (h : ∀ t ∈ log, t ≤ now - d) :
    recent d now log = 0 := by
  apply List.countP_eq_zero.mpr
  intro t ht
  have := h t ht
  simp only [decide_eq_true_eq]
  omega

/-- The entries before one that is not recent are not recent either. -/
theorem recent_eq_zero_of_head {d now x : Int} {log log' : List Int}
    (h : SortedUpTo now (log ++ x :: log')) (hx : d ≤ now - x) : recent d now log = 0 := by
  apply recent_eq_zero
  intro t ht
  have := (List.pairwise_append.mp h.sorted).2.2 t ht x List.mem_cons_self
  omega

/-- An earlier entry is recent only if every later one is. -/
theorem recent_append_of_pos {d now : Int} {log log' : List Int}
    (h : SortedUpTo now (log ++ log')) (hpos : 0 < recent d now log) :
    recent d now log' = log'.length := by
  obtain ⟨t, ht, hrec⟩ := List.countP_pos_iff.mp hpos
  apply List.countP_eq_length.mpr
  intro u hu
  have htu := (List.pairwise_append.mp h.sorted).2.2 t ht u hu
  have hle := h.le u (List.mem_append_right _ hu)
  simp only [decide_eq_true_eq] at hrec ⊢
  omega

/-- The count reaches `k` exactly when the `k`-th newest entry is recent. -/
theorem le_recent_iff {d now : Int} {log : List Int} {k : Nat} (h : SortedUpTo now log)
    (hk : 0 < k) (hlen : k ≤ log.length) :
    k ≤ recent d now log ↔ now - log[log.length - k] < d := by
  -- cut the log in front of the `k`-th newest entry
  have hcut : log = log.take (log.length - k) ++
      log[log.length - k] :: log.drop (log.length - k + 1) := by
    rw [List.getElem_cons_drop, List.take_append_drop]
  have hdrop : (log[log.length - k] :: log.drop (log.length - k + 1)).length = k := by
    simp only [List.length_cons, List.length_drop]
    omega
  have hcount : recent d now log = recent d now (log.take (log.length - k)) +
      recent d now (log[log.length - k] :: log.drop (log.length - k + 1)) := by
    rw [← recent_append, ← hcut]
  have hsorted := h
  rw [hcut] at hsorted
  by_cases hx : now - log[log.length - k] < d
  · have hall := recent_eq_length hsorted.right hx
    constructor
    · intro _
      exact hx
    · intro _
      omega
  · have hzero := recent_eq_zero_of_head hsorted (by omega : d ≤ now - log[log.length - k])
    -- the entry itself is not counted either
    have hlt : recent d now (log[log.length - k] :: log.drop (log.length - k + 1)) < k := by
      have hle := recent_le_length d now (log.drop (log.length - k + 1))
      have hnot : ¬ (now - d < log[log.length - k] ∧ log[log.length - k] ≤ now) := by omega
      have hcons : recent d now (log[log.length - k] :: log.drop (log.length - k + 1)) =
          recent d now (log.drop (log.length - k + 1)) :=
        List.countP_cons_of_neg (by simpa using hnot)
      rw [List.length_cons] at hdrop
      omega
    constructor
    · intro _
      omega
    · intro hlt'
      exact absurd hlt' hx

/-! ### Bounded queues -/

/-- `queue` holds the newest entries of `log`, at most `cap`, and where it has room it has
dropped only entries that left the window. -/
structure Keeps (cap : Nat) (d now : Int) (log queue : List Int) : Prop where
  suffix : ∃ dropped, log = dropped ++ queue ∧
    (queue.length < cap → ∀ t ∈ dropped, t ≤ now - d)
  length_le : queue.length ≤ cap
  sorted : SortedUpTo now log

theorem keeps_nil (cap : Nat) (d now : Int) : Keeps cap d now [] [] :=
  ⟨⟨[], rfl, fun _ _ h => absurd h List.not_mem_nil⟩, Nat.zero_le _, sortedUpTo_nil now⟩

theorem Keeps.mono {cap : Nat} {d now now' : Int} {log queue : List Int}
    (h : Keeps cap d now log queue) (hle : now ≤ now') : Keeps cap d now' log queue := by
  obtain ⟨dropped, heq, hold⟩ := h.suffix
  refine ⟨⟨dropped, heq, ?_⟩, h.length_le, h.sorted.mono hle⟩
  intro hlen t ht
  have := hold hlen t ht
  omega

/-- The window has room exactly when the queue has, or its oldest entry left the window. -/
theorem Keeps.recent_lt_iff {cap : Nat} {d now : Int} {log queue : List Int}
    (h : Keeps cap d now log queue) (hcap : 0 < cap) :
    recent d now log < cap ↔ queue.length < cap ∨ ∀ x ∈ queue.head?, d ≤ now - x := by
  obtain ⟨dropped, rfl, hold⟩ := h.suffix
  have hle := h.length_le
  rw [recent_append]
  by_cases hlen : queue.length < cap
  · have hzero := recent_eq_zero (hold hlen)
    have := recent_le_length d now queue
    constructor
    · intro _
      exact Or.inl hlen
    · intro _
      omega
  · -- a full queue: its oldest entry decides
    cases queue with
    | nil => simp only [List.length_nil] at hlen; omega
    | cons x rest =>
      have hsorted := h.sorted
      simp only [hlen, false_or, List.head?_cons, Option.mem_some_iff, forall_eq']
      by_cases hx : d ≤ now - x
      · have hzero := recent_eq_zero_of_head hsorted hx
        have hlt := (le_recent_iff (d := d) hsorted.right hcap (by omega : cap ≤ _)).not
        have hidx : (x :: rest).length - cap = 0 := by omega
        simp only [hidx, List.getElem_cons_zero] at hlt
        have := hlt.mpr (by omega)
        constructor
        · intro _
          exact hx
        · intro _
          omega
      · have hall := recent_eq_length hsorted.right (by omega : now - x < d)
        constructor
        · intro _
          omega
        · intro hx'
          exact absurd hx' hx

theorem Keeps.push_room {cap : Nat} {d now : Int} {log queue : List Int}
    (h : Keeps cap d now log queue) (hlen : queue.length < cap) :
    Keeps cap d now (log ++ [now]) (queue ++ [now]) := by
  obtain ⟨dropped, heq, hold⟩ := h.suffix
  refine ⟨⟨dropped, by rw [heq, List.append_assoc], fun _ => hold hlen⟩, ?_, h.sorted.push⟩
  rw [List.length_append, List.length_singleton]
  omega

theorem Keeps.push_full {cap : Nat} {d now x : Int} {log rest : List Int}
    (h : Keeps cap d now log (x :: rest)) (hlen : cap ≤ (x :: rest).length) :
    Keeps cap d now (log ++ [now]) (rest ++ [now]) := by
  obtain ⟨dropped, heq, -⟩ := h.suffix
  have hle := h.length_le
  rw [List.length_cons] at hle hlen
  refine ⟨⟨dropped ++ [x], by rw [heq]; simp, ?_⟩, ?_, h.sorted.push⟩
  · intro hroom
    rw [List.length_append, List.length_singleton] at hroom
    omega
  · rw [List.length_append, List.length_singleton]
    omega

/-- A queue whose newest entry left the window may be forgotten. -/
theorem Keeps.forget {cap : Nat} {d now : Int} {log queue : List Int}
    (h : Keeps cap d now log queue) (hcap : 0 < cap)
    (hold : ∀ x ∈ queue.getLast?, d ≤ now - x) : Keeps cap d now log [] := by
  obtain ⟨dropped, heq, hroom⟩ := h.suffix
  refine ⟨⟨log, by simp, ?_⟩, Nat.zero_le _, h.sorted⟩
  intro _ t ht
  cases queue using List.reverseRecOn with
  | nil =>
    rw [heq, List.append_nil] at ht
    exact hroom hcap t ht
  | append_singleton q last _ =>
    have hlast := hold last (by simp)
    have hsorted := h.sorted.sorted
    rw [heq, ← List.append_assoc] at ht hsorted
    rcases List.mem_append.mp ht with ht | ht
    · have := (List.pairwise_append.mp hsorted).2.2 t ht last (by simp)
      omega
    · rw [List.mem_singleton] at ht
      omega

end Window
