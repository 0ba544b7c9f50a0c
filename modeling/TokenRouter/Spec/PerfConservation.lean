import TokenRouter.Pkg.PerfMetrics

/-!
# Conservation of the performance counters

Every unit that a sample adds is in a row, in a hot bucket, drained and not yet written, or still
to be added. Two steps of the flush let go of what they hold: the one that finds no request drained
and forgets the other six counters, and the one that deletes an old bucket. As long as neither
loses anything the counters are conserved. A sample is lost when its request is drained and written
before the rest of it is added.

## Key results

- `Inv.step`: what every step keeps
- `counters_conserved`: rows and hot buckets sum to the samples when no call is on its way
-/

namespace TokenRouter.PerfMetrics

open Run

/-! ## Sums -/

/-- What a list of operations adds to a counter. -/
def amount (ops : List (Counter × Int)) (c : Counter) : Int :=
  (ops.map fun op => if op.1 = c then op.2 else 0).sum

@[simp] theorem amount_nil (c : Counter) : amount [] c = 0 := rfl

@[simp] theorem amount_cons (op : Counter × Int) (ops : List (Counter × Int)) (c : Counter) :
    amount (op :: ops) c = (if op.1 = c then op.2 else 0) + amount ops c := by
  simp [amount]

/-- `addCounters` adds what was drained. -/
theorem amount_restoreSteps (drained : Counters) (c : Counter) :
    amount (restoreSteps drained) c = drained c := by
  have hfilter : ∀ ops : List (Counter × Int),
      amount (ops.filter fun op => op.2 ≠ 0) c = amount ops c := by
    intro ops
    induction ops with
    | nil => rfl
    | cons op ops ih =>
      by_cases h : op.2 = 0
      · rw [List.filter_cons_of_neg (by simpa using h), ih, amount_cons, h]
        simp
      · rw [List.filter_cons_of_pos (by simpa using h), amount_cons, amount_cons, ih]
  rw [restoreSteps, hfilter]
  cases c <;> simp [allCounters, amount]

/-- What the samples of a key add to a counter. -/
def recordedSum (recorded : List (BucketKey × Sample)) (key : BucketKey) (c : Counter) : Int :=
  (recorded.map fun r => if r.1 = key then amount (addSteps r.2) c else 0).sum

/-- What the calls on their way still add to a counter. -/
def pending (adds : List Add) (key : BucketKey) (c : Counter) : Int :=
  (adds.map fun a => if a.key = key then amount a.todo c else 0).sum

theorem pending_append (as bs : List Add) (key : BucketKey) (c : Counter) :
    pending (as ++ bs) key c = pending as key c + pending bs key c := by
  simp [pending]

theorem pending_cons (a : Add) (as : List Add) (key : BucketKey) (c : Counter) :
    pending (a :: as) key c = (if a.key = key then amount a.todo c else 0) + pending as key c := by
  simp [pending]

namespace State

/-- The counters of the hot bucket of a key. -/
def hotValue (s : State) (key : BucketKey) : Counters :=
  (s.hotBuckets key).elim zeroCounters s.buckets

end State

/-- What the flush has drained and not yet written. -/
def Flush.holds : Flush → BucketKey → Counter → Int
  | .idle, _, _ | .ranging _, _, _ | .deleting _ _, _, _ => 0
  | .draining _ key _ _ drained, key', c | .upserting _ key _ drained, key', c =>
    if key = key' then drained c else 0
  | .restoring _ key _ todo, key', c => if key = key' then amount todo c else 0

/-- The bucket that the flush still works on. -/
def Flush.inHand : Flush → Option (BucketKey × Nat)
  | .idle | .ranging _ | .deleting _ _ => none
  | .draining _ key b _ _ | .upserting _ key b _ | .restoring _ key b _ => some (key, b)

/-- The counters that are still to be swapped are not yet drained. -/
def Flush.Fresh : Flush → Prop
  | .draining _ _ _ todo drained => todo.Nodup ∧ ∀ c ∈ todo, drained c = 0
  | _ => True

/-! ## The invariant -/

structure Inv (s : State) : Prop where
  /-- every unit of a sample is somewhere -/
  ledger : ∀ key c,
    s.rows key c + s.hotValue key c + s.flush.holds key c + pending s.adds key c =
      recordedSum s.recorded key c
  /-- two keys have two buckets -/
  apart : ∀ key key' b, s.hotBuckets key = some b → s.hotBuckets key' = some b → key = key'
  allocated : ∀ key b, s.hotBuckets key = some b → b < s.next
  unused : ∀ b, s.next ≤ b → ∀ c, s.buckets b c = 0
  /-- a call that has something to add adds it to the hot bucket -/
  adds : ∀ a ∈ s.adds, ∀ b, a.bucket = some b → a.todo = [] ∨ s.hotBuckets a.key = some b
  inHand : ∀ key b, s.flush.inHand = some (key, b) → s.hotBuckets key = some b
  fresh : s.flush.Fresh

/-- The next step of the flush loses nothing: a drained bucket without requests is forgotten only
    when all its counters are zero, and an old bucket is deleted only when its counters are zero
    and no call has something to add to it. -/
def Flush.Sound (s : State) : Flush → Prop
  | .draining _ _ _ [] drained => drained .requestCount = 0 → ∀ c ∈ allCounters, drained c = 0
  | .deleting _ key => s.isOld key → ∀ b ∈ s.hotBuckets key,
      (∀ c ∈ allCounters, s.buckets b c = 0) ∧ ∀ a ∈ s.adds, a.bucket = some b → a.todo = []
  | _ => True

/-- The steps that lose nothing. -/
def StepSound (s : State) : Event → Prop
  | .flush _ => s.flush.Sound s
  | _ => True

instance (s : State) : ∀ flush : Flush, Decidable (flush.Sound s)
  | .draining _ _ _ [] _ => inferInstanceAs (Decidable (_ → _))
  | .deleting _ _ => inferInstanceAs (Decidable (_ → _))
  | .draining _ _ _ (_ :: _) _ => isTrue trivial
  | .idle | .ranging _ | .upserting _ _ _ _ | .restoring _ _ _ _ => isTrue trivial

instance (s : State) : ∀ e, Decidable (StepSound s e)
  | .flush _ => inferInstanceAs (Decidable (s.flush.Sound s))
  | .tick _ | .configure _ _ | .record _ | .add _ | .beginFlush | .visit _ | .endFlush =>
    isTrue trivial

theorem mem_allCounters (c : Counter) : c ∈ allCounters := by
  cases c <;> decide

theorem inv_start (enabled : Bool) (bucketSeconds now : Int) :
    Inv (start enabled bucketSeconds now) := by
  constructor
  · intro key c
    rfl
  · intro key key' b h
    cases h
  · intro key b h
    cases h
  · intro b _ c
    rfl
  · intro a ha
    cases ha
  · intro key b h
    cases h
  · trivial

/-! ## Writes to a bucket -/

/-- Adding to the bucket of a key adds to the hot value of this key alone. -/
theorem hotValue_addTo {s : State} (h : Inv s) {key : BucketKey} {b : Nat}
    (hb : s.hotBuckets key = some b) (c : Counter) (n : Int) (key' : BucketKey) (c' : Counter) :
    State.hotValue { s with buckets := addTo s.buckets b c n } key' c' =
      s.hotValue key' c' + if key = key' ∧ c = c' then n else 0 := by
  unfold State.hotValue
  cases hb' : s.hotBuckets key' with
  | none =>
    have hne : key ≠ key' := by
      rintro rfl
      rw [hb] at hb'
      cases hb'
    simp [hne, zeroCounters]
  | some b' =>
    have hkey : b' = b ↔ key = key' := by
      constructor
      · rintro rfl
        exact h.apart _ _ _ hb hb'
      · rintro rfl
        rw [hb] at hb'
        exact (Option.some.inj hb').symm
    show addTo s.buckets b c n b' c' = s.buckets b' c' + _
    unfold addTo
    simp only [hkey, eq_comm (a := c')]
    split
    · rfl
    · rw [add_zero]

theorem swapZero_eq_addTo (buckets : Nat → Counters) (b : Nat) (c : Counter) :
    swapZero buckets b c = addTo buckets b c (-buckets b c) := by
  funext b' c'
  unfold swapZero addTo
  split
  · rename_i h
    obtain ⟨rfl, rfl⟩ := h
    exact (add_neg_cancel _).symm
  · rfl

/-- A write to an allocated bucket leaves those that are not. -/
theorem unused_addTo {s : State} (h : Inv s) {key : BucketKey} {b : Nat}
    (hb : s.hotBuckets key = some b) (c : Counter) (n : Int) :
    ∀ b', s.next ≤ b' → ∀ c', addTo s.buckets b c n b' c' = 0 := by
  intro b' hb' c'
  have hlt := h.allocated key b hb
  unfold addTo
  rw [if_neg (by omega)]
  exact h.unused b' hb' c'

/-! ## The steps of a call -/

/-- A position of a list, with what writing to it and removing it leave. -/
theorem getElem?_split {α : Type} {l : List α} {i : Nat} {a : α} (h : l[i]? = some a) :
    ∃ xs ys, l = xs ++ a :: ys ∧ (∀ a', l.set i a' = xs ++ a' :: ys) ∧
      l.eraseIdx i = xs ++ ys := by
  induction l generalizing i with
  | nil => simp at h
  | cons x l ih =>
    cases i with
    | zero =>
      obtain rfl : x = a := by simpa using h
      exact ⟨[], l, rfl, fun _ => rfl, rfl⟩
    | succ i =>
      obtain ⟨xs, ys, hl, hset, herase⟩ := ih (by simpa using h)
      refine ⟨x :: xs, ys, ?_, ?_, ?_⟩
      · rw [hl, List.cons_append]
      · intro a'
        rw [List.set_cons_succ, hset, List.cons_append]
      · rw [List.eraseIdx_cons_succ, herase, List.cons_append]

/-- A call that has its bucket still has the same to add. -/
theorem pending_set_bucket {adds : List Add} {i : Nat} {a : Add} (h : adds[i]? = some a)
    (bucket : Option Nat) (key : BucketKey) (c : Counter) :
    pending (adds.set i { a with bucket }) key c = pending adds key c := by
  obtain ⟨before, after, hadds, hset, _⟩ := getElem?_split h
  rw [hset, hadds, pending_append, pending_append, pending_cons, pending_cons]

/-- A call that has added one operation. -/
theorem pending_set_todo {adds : List Add} {i : Nat} {a : Add} (h : adds[i]? = some a)
    {c : Counter} {n : Int} {todo : List (Counter × Int)} (htodo : a.todo = (c, n) :: todo)
    (key : BucketKey) (c' : Counter) :
    pending adds key c' =
      pending (adds.set i { a with todo }) key c' + if a.key = key ∧ c = c' then n else 0 := by
  obtain ⟨before, after, hadds, hset, _⟩ := getElem?_split h
  rw [hset, hadds, pending_append, pending_append, pending_cons, pending_cons, htodo, amount_cons]
  by_cases hk : a.key = key
  · simp only [hk, if_true, true_and]
    omega
  · simp only [hk, if_false, false_and]
    omega

/-- A call that returns has nothing left to add. -/
theorem pending_eraseIdx {adds : List Add} {i : Nat} {a : Add} (h : adds[i]? = some a)
    (htodo : a.todo = []) (key : BucketKey) (c : Counter) :
    pending (adds.eraseIdx i) key c = pending adds key c := by
  obtain ⟨before, after, hadds, _, herase⟩ := getElem?_split h
  rw [herase, hadds, pending_append, pending_append, pending_cons, htodo, amount_nil, ite_self,
    zero_add]

/-- `Record` adds to the pending operations what it adds to the samples. -/
theorem Inv.record {s : State} (h : Inv s) (sample : Sample) : Inv (s.record sample) := by
  unfold State.record
  split
  · constructor
    · intro key c
      have hledger := h.ledger key c
      simp only [pending_append, recordedSum, List.map_append, List.sum_append, List.map_cons,
        List.map_nil, List.sum_cons, List.sum_nil, pending_cons] at hledger ⊢
      rw [← hledger]
      show _ + State.hotValue s key c + _ + (_ + (_ + (0 : Int))) = _
      omega
    · exact h.apart
    · exact h.allocated
    · exact h.unused
    · intro a ha b hb
      rcases List.mem_append.mp ha with ha | ha
      · exact h.adds a ha b hb
      · obtain rfl := List.mem_singleton.mp ha
        cases hb
    · exact h.inHand
    · exact h.fresh
  · exact h

/-- `LoadOrStore` loads the hot bucket. -/
theorem Inv.load {s : State} (h : Inv s) {i : Nat} {a : Add} (hget : s.adds[i]? = some a) {b : Nat}
    (hhot : s.hotBuckets a.key = some b) :
    Inv { s with adds := s.adds.set i { a with bucket := some b } } := by
  refine ⟨?_, h.apart, h.allocated, h.unused, ?_, h.inHand, h.fresh⟩
  · intro key c
    rw [← h.ledger key c]
    show _ + s.hotValue key c + _ + pending (s.adds.set i { a with bucket := some b }) key c = _
    rw [pending_set_bucket hget]
  · intro x hx b' hb'
    rcases List.mem_or_eq_of_mem_set hx with hx | rfl
    · exact h.adds x hx b' hb'
    · obtain rfl : b = b' := Option.some.inj hb'
      exact Or.inr hhot

/-- `LoadOrStore` stores a new bucket. -/
theorem Inv.store {s : State} (h : Inv s) {i : Nat} {a : Add} (hget : s.adds[i]? = some a)
    (hhot : s.hotBuckets a.key = none) :
    Inv { s with
      hotBuckets := Function.update s.hotBuckets a.key (some s.next)
      next := s.next + 1
      adds := s.adds.set i { a with bucket := some s.next } } := by
  have hkept : ∀ key b, s.hotBuckets key = some b →
      Function.update s.hotBuckets a.key (some s.next) key = some b := by
    intro key b hb
    have hne : key ≠ a.key := by
      rintro rfl
      rw [hhot] at hb
      cases hb
    rw [Function.update_of_ne hne]
    exact hb
  have hcase : ∀ key b, Function.update s.hotBuckets a.key (some s.next) key = some b →
      key = a.key ∧ b = s.next ∨ s.hotBuckets key = some b := by
    intro key b hb
    by_cases hkey : key = a.key
    · subst hkey
      rw [Function.update_self] at hb
      exact Or.inl ⟨rfl, (Option.some.inj hb).symm⟩
    · rw [Function.update_of_ne hkey] at hb
      exact Or.inr hb
  constructor
  · intro key c
    have hvalue : ((Function.update s.hotBuckets a.key (some s.next) key).elim zeroCounters
        s.buckets) c = s.hotValue key c := by
      unfold State.hotValue
      by_cases hkey : key = a.key
      · subst hkey
        rw [Function.update_self, hhot]
        exact h.unused s.next (le_refl _) c
      · rw [Function.update_of_ne hkey]
    rw [← h.ledger key c]
    show _ + ((Function.update s.hotBuckets a.key (some s.next) key).elim zeroCounters
        s.buckets) c + _ + pending (s.adds.set i { a with bucket := some s.next }) key c = _
    rw [hvalue, pending_set_bucket hget]
  · intro key key' b hb hb'
    rcases hcase key b hb with ⟨rfl, rfl⟩ | hold
    · rcases hcase key' s.next hb' with ⟨rfl, _⟩ | hold'
      · rfl
      · exact absurd (h.allocated _ _ hold') (lt_irrefl _)
    · rcases hcase key' b hb' with ⟨rfl, rfl⟩ | hold'
      · exact absurd (h.allocated _ _ hold) (lt_irrefl _)
      · exact h.apart _ _ _ hold hold'
  · intro key b hb
    show b < s.next + 1
    rcases hcase key b hb with ⟨_, rfl⟩ | hold
    · omega
    · have := h.allocated _ _ hold
      omega
  · intro b hb c
    have hb' : s.next + 1 ≤ b := hb
    exact h.unused b (by omega) c
  · intro x hx b' hb'
    rcases List.mem_or_eq_of_mem_set hx with hx | rfl
    · exact (h.adds x hx b' hb').imp_right (hkept _ _)
    · obtain rfl : s.next = b' := Option.some.inj hb'
      exact Or.inr (Function.update_self _ _ _)
  · intro key b hb
    exact hkept key b (h.inHand key b hb)
  · exact h.fresh

/-- A call returns. -/
theorem Inv.return {s : State} (h : Inv s) {i : Nat} {a : Add} (hget : s.adds[i]? = some a)
    (htodo : a.todo = []) : Inv { s with adds := s.adds.eraseIdx i } := by
  refine ⟨?_, h.apart, h.allocated, h.unused, ?_, h.inHand, h.fresh⟩
  · intro key c
    rw [← h.ledger key c]
    show _ + s.hotValue key c + _ + pending (s.adds.eraseIdx i) key c = _
    rw [pending_eraseIdx hget htodo]
  · intro x hx
    exact h.adds x (List.mem_of_mem_eraseIdx hx)

/-- A call adds to a counter. -/
theorem Inv.addOne {s : State} (h : Inv s) {i : Nat} {a : Add} (hget : s.adds[i]? = some a) {b : Nat}
    (hbucket : a.bucket = some b) {c : Counter} {n : Int} {todo : List (Counter × Int)}
    (htodo : a.todo = (c, n) :: todo) :
    Inv { s with
      buckets := addTo s.buckets b c n
      adds := s.adds.set i { a with todo } } := by
  have hhot : s.hotBuckets a.key = some b := by
    rcases h.adds a (List.mem_of_getElem? hget) b hbucket with hnil | hhot
    · rw [htodo] at hnil
      cases hnil
    · exact hhot
  refine ⟨?_, h.apart, h.allocated, unused_addTo h hhot c n, ?_, h.inHand, h.fresh⟩
  · intro key c'
    rw [← h.ledger key c', pending_set_todo hget htodo]
    show s.rows key c' + State.hotValue { s with buckets := addTo s.buckets b c n } key c' +
      s.flush.holds key c' + pending (s.adds.set i { a with todo }) key c' = _
    rw [hotValue_addTo h hhot]
    omega
  · intro x hx b' hb'
    rcases List.mem_or_eq_of_mem_set hx with hx | rfl
    · exact h.adds x hx b' hb'
    · obtain rfl : b = b' := Option.some.inj (hbucket.symm.trans hb')
      exact Or.inr hhot

/-- Every step of a call keeps the invariant. -/
theorem Inv.stepAdd {s : State} (h : Inv s) (i : Nat) : Inv (s.stepAdd i) := by
  unfold State.stepAdd
  cases hget : s.adds[i]? with
  | none => exact h
  | some a =>
    dsimp only
    cases hbucket : a.bucket with
    | none =>
      dsimp only
      cases hhot : s.hotBuckets a.key with
      | some b => exact h.load hget hhot
      | none => exact h.store hget hhot
    | some b =>
      dsimp only
      cases htodo : a.todo with
      | nil => exact h.return hget htodo
      | cons op todo =>
        have hadd := h.addOne hget hbucket htodo
        rw [hbucket] at hadd
        exact hadd

/-! ## The steps of the flush -/

/-- `Swap` moves a counter from the bucket in hand to what is drained. -/
theorem Inv.swap {s : State} (h : Inv s) {currentBucket : Int} {key : BucketKey} {b : Nat}
    {c : Counter} {todo : List Counter} {drained : Counters}
    (hflush : s.flush = .draining currentBucket key b (c :: todo) drained) :
    Inv { s with
      buckets := swapZero s.buckets b c
      flush := .draining currentBucket key b todo
        (Function.update drained c (s.buckets b c)) } := by
  have hhot : s.hotBuckets key = some b := h.inHand key b (by rw [hflush]; rfl)
  have hfresh := h.fresh
  rw [hflush] at hfresh
  obtain ⟨hnodup, hzero⟩ := hfresh
  obtain ⟨hnotMem, hnodup⟩ := List.nodup_cons.mp hnodup
  have hvalue : s.hotValue key c = s.buckets b c := by
    unfold State.hotValue
    rw [hhot]
    rfl
  rw [swapZero_eq_addTo]
  refine ⟨?_, h.apart, h.allocated, unused_addTo h hhot c _, h.adds, ?_, hnodup, ?_⟩
  · intro key' c'
    have hledger := h.ledger key' c'
    rw [hflush] at hledger
    show s.rows key' c' +
      State.hotValue { s with buckets := addTo s.buckets b c (-s.buckets b c) } key' c' +
      (if key = key' then Function.update drained c (s.buckets b c) c' else 0) +
      pending s.adds key' c' = _
    rw [hotValue_addTo h hhot, ← hledger]
    show _ = s.rows key' c' + s.hotValue key' c' + (if key = key' then drained c' else 0) + _
    by_cases hkey : key = key'
    · by_cases hc : c = c'
      · subst hc
        have hdrained := hzero c List.mem_cons_self
        rw [Function.update_self, if_pos ⟨hkey, rfl⟩, if_pos hkey, if_pos hkey]
        omega
      · rw [Function.update_of_ne (Ne.symm hc), if_neg (fun hboth => hc hboth.2)]
        omega
    · rw [if_neg (fun hboth => hkey hboth.1), if_neg hkey, if_neg hkey]
      omega
  · intro key' b' hheld
    exact h.inHand key' b' (by rw [hflush]; exact hheld)
  · intro c' hc'
    have hne : c' ≠ c := fun heq => hnotMem (heq ▸ hc')
    show Function.update drained c (s.buckets b c) c' = 0
    rw [Function.update_of_ne hne]
    exact hzero c' (List.mem_cons_of_mem c hc')

/-- The flush stands elsewhere but holds the same. -/
theorem Inv.setFlush {s : State} (h : Inv s) {flush : Flush}
    (hholds : ∀ key c, flush.holds key c = s.flush.holds key c)
    (hhand : ∀ key b, flush.inHand = some (key, b) → s.hotBuckets key = some b)
    (hfresh : flush.Fresh) : Inv { s with flush } := by
  refine ⟨?_, h.apart, h.allocated, h.unused, h.adds, hhand, hfresh⟩
  intro key c
  rw [← h.ledger key c, ← hholds]
  rfl

/-- The upsert moves what is drained to the row. -/
theorem Inv.upsert {s : State} (h : Inv s) {currentBucket : Int} {key : BucketKey} {b : Nat}
    {drained : Counters} (hflush : s.flush = .upserting currentBucket key b drained) :
    Inv { s with
      rows := Function.update s.rows key fun c => s.rows key c + drained c
      flush := .deleting currentBucket key } := by
  refine ⟨?_, h.apart, h.allocated, h.unused, h.adds, ?_, trivial⟩
  · intro key' c
    have hledger := h.ledger key' c
    rw [hflush] at hledger
    rw [← hledger]
    show Function.update s.rows key (fun c => s.rows key c + drained c) key' c +
      s.hotValue key' c + 0 + pending s.adds key' c =
      s.rows key' c + s.hotValue key' c + (if key = key' then drained c else 0) + _
    by_cases hkey : key = key'
    · subst hkey
      rw [Function.update_self, if_pos rfl]
      omega
    · rw [Function.update_of_ne (Ne.symm hkey), if_neg hkey]
  · intro key' b' hheld
    cases hheld

/-- `addCounters` moves an operation back to the bucket in hand. -/
theorem Inv.restore {s : State} (h : Inv s) {currentBucket : Int} {key : BucketKey} {b : Nat}
    {c : Counter} {n : Int} {todo : List (Counter × Int)}
    (hflush : s.flush = .restoring currentBucket key b ((c, n) :: todo)) :
    Inv { s with
      buckets := addTo s.buckets b c n
      flush := .restoring currentBucket key b todo } := by
  have hhot : s.hotBuckets key = some b := h.inHand key b (by rw [hflush]; rfl)
  refine ⟨?_, h.apart, h.allocated, unused_addTo h hhot c n, h.adds, ?_, trivial⟩
  · intro key' c'
    have hledger := h.ledger key' c'
    rw [hflush] at hledger
    rw [← hledger]
    show s.rows key' c' + State.hotValue { s with buckets := addTo s.buckets b c n } key' c' +
      (if key = key' then amount todo c' else 0) + pending s.adds key' c' =
      s.rows key' c' + s.hotValue key' c' +
        (if key = key' then amount ((c, n) :: todo) c' else 0) + pending s.adds key' c'
    rw [hotValue_addTo h hhot, amount_cons]
    by_cases hkey : key = key'
    · simp only [hkey, true_and, if_true]
      omega
    · simp only [hkey, false_and, if_false]
      omega
  · intro key' b' hheld
    exact h.inHand key' b' (by rw [hflush]; exact hheld)

/-- A bucket that has nothing is let go of. -/
theorem Inv.delete {s : State} (h : Inv s) {currentBucket : Int} {key : BucketKey}
    (hflush : s.flush = .deleting currentBucket key)
    (hsound : ∀ b, s.hotBuckets key = some b →
      (∀ c, s.buckets b c = 0) ∧ ∀ a ∈ s.adds, a.bucket = some b → a.todo = []) :
    Inv { s with
      hotBuckets := Function.update s.hotBuckets key none
      flush := .ranging currentBucket } := by
  have hold : ∀ key' b, Function.update s.hotBuckets key none key' = some b →
      s.hotBuckets key' = some b := by
    intro key' b hb
    by_cases hkey : key' = key
    · subst hkey
      rw [Function.update_self] at hb
      cases hb
    · rw [Function.update_of_ne hkey] at hb
      exact hb
  refine ⟨?_, ?_, ?_, h.unused, ?_, ?_, trivial⟩
  · intro key' c
    have hledger := h.ledger key' c
    rw [hflush] at hledger
    have hvalue : ((Function.update s.hotBuckets key none key').elim zeroCounters s.buckets) c =
        s.hotValue key' c := by
      unfold State.hotValue
      by_cases hkey : key' = key
      · subst hkey
        rw [Function.update_self]
        cases hb : s.hotBuckets key' with
        | none => rfl
        | some b => exact ((hsound b hb).1 c).symm
      · rw [Function.update_of_ne hkey]
    rw [← hledger]
    show s.rows key' c + ((Function.update s.hotBuckets key none key').elim zeroCounters
      s.buckets) c + 0 + _ = _
    rw [hvalue]
    rfl
  · intro key' key'' b hb hb'
    exact h.apart _ _ _ (hold _ _ hb) (hold _ _ hb')
  · intro key' b hb
    exact h.allocated _ _ (hold _ _ hb)
  · intro a ha b hb
    rcases h.adds a ha b hb with hdone | hhot
    · exact Or.inl hdone
    · by_cases hkey : a.key = key
      · exact Or.inl ((hsound b (hkey ▸ hhot)).2 a ha hb)
      · exact Or.inr ((Function.update_of_ne hkey _ _).trans hhot)
  · intro key' b hheld
    cases hheld

/-- Every step of the flush that loses nothing keeps the invariant. -/
theorem Inv.stepFlush {s : State} (h : Inv s) (ok : Bool) (hsound : StepSound s (.flush ok)) :
    Inv (s.stepFlush ok) := by
  unfold State.stepFlush
  cases hflush : s.flush with
  | idle => exact h
  | ranging currentBucket => exact h
  | draining currentBucket key b todo drained =>
    cases todo with
    | cons c todo => exact h.swap hflush
    | nil =>
      dsimp only
      split
      · rename_i hrequest
        have hlost : ∀ c, drained c = 0 := by
          intro c
          have hstep : s.flush.Sound s := hsound
          rw [hflush] at hstep
          exact hstep hrequest c (mem_allCounters c)
        refine h.setFlush (fun key' c => ?_) (fun _ _ hheld => nomatch hheld) trivial
        rw [hflush]
        show 0 = if key = key' then drained c else 0
        rw [hlost c, ite_self]
      · refine h.setFlush (fun key' c => ?_) (fun key' b' hheld => ?_) trivial
        · rw [hflush]
          rfl
        · exact h.inHand key' b' (by rw [hflush]; exact hheld)
  | upserting currentBucket key b drained =>
    cases ok with
    | true => exact h.upsert hflush
    | false =>
      refine h.setFlush (fun key' c => ?_) (fun key' b' hheld => ?_) trivial
      · rw [hflush]
        show (if key = key' then amount (restoreSteps drained) c else 0) = _
        rw [amount_restoreSteps]
        rfl
      · exact h.inHand key' b' (by rw [hflush]; exact hheld)
  | restoring currentBucket key b todo =>
    cases todo with
    | cons op todo => exact h.restore hflush
    | nil =>
      refine h.setFlush (fun key' c => ?_) (fun _ _ hheld => nomatch hheld) trivial
      rw [hflush]
      show 0 = if key = key' then (0 : Int) else 0
      rw [ite_self]
  | deleting currentBucket key =>
    dsimp only
    split
    · rename_i hold
      have hstep : s.flush.Sound s := hsound
      rw [hflush] at hstep
      refine h.delete hflush fun b hb => ?_
      obtain ⟨hzero, hdone⟩ := hstep hold b hb
      exact ⟨fun c => hzero c (mem_allCounters c), hdone⟩
    · refine h.setFlush (fun key' c => ?_) (fun _ _ hheld => nomatch hheld) trivial
      rw [hflush]
      rfl

/-- `Range` takes a hot bucket in hand, with nothing drained. -/
theorem Inv.visit {s : State} (h : Inv s) (key : BucketKey) : Inv (s.visit key) := by
  unfold State.visit
  cases hflush : s.flush with
  | ranging currentBucket =>
    cases hhot : s.hotBuckets key with
    | none => exact h
    | some b =>
      dsimp only
      split
      · exact h
      · refine h.setFlush (fun key' c => ?_) (fun key' b' hheld => ?_) ⟨by decide, fun _ _ => rfl⟩
        · rw [hflush]
          show (if key = key' then (0 : Int) else 0) = 0
          rw [ite_self]
        · cases hheld
          exact hhot
  | _ => exact h

/-- Every step that loses nothing keeps the invariant. -/
theorem Inv.step {s : State} (h : Inv s) (e : Event) (hsound : StepSound s e) :
    Inv (s.step e) := by
  cases e with
  | tick seconds => exact ⟨h.ledger, h.apart, h.allocated, h.unused, h.adds, h.inHand, h.fresh⟩
  | configure enabled bucketSeconds =>
    exact ⟨h.ledger, h.apart, h.allocated, h.unused, h.adds, h.inHand, h.fresh⟩
  | record sample => exact h.record sample
  | add i => exact h.stepAdd i
  | visit key => exact h.visit key
  | flush ok => exact h.stepFlush ok hsound
  | beginFlush =>
    unfold State.step
    cases hflush : s.flush with
    | idle =>
      refine h.setFlush (fun key c => ?_) (fun _ _ hheld => nomatch hheld) trivial
      rw [hflush]
      rfl
    | _ => exact h
  | endFlush =>
    unfold State.step
    cases hflush : s.flush with
    | ranging currentBucket =>
      refine h.setFlush (fun key c => ?_) (fun _ _ hheld => nomatch hheld) trivial
      rw [hflush]
      rfl
    | _ => exact h

/-! ## Conservation -/

/-- With no call on its way and no bucket in hand, rows and hot buckets sum to the samples, and
    there are no more successes than requests. -/
def Conserved (s : State) : Prop :=
  s.adds = [] → s.flush.inHand = none → ∀ key,
    (∀ c, s.rows key c + s.hotValue key c = recordedSum s.recorded key c) ∧
      s.rows key .successCount + s.hotValue key .successCount ≤
        s.rows key .requestCount + s.hotValue key .requestCount

/-- A sample is one request, and at most one success. -/
theorem amount_success_le (sample : Sample) :
    amount (addSteps sample) .successCount ≤ amount (addSteps sample) .requestCount := by
  simp only [addSteps, amount, List.map_append, List.sum_append]
  split_ifs <;> simp

theorem recordedSum_success_le (recorded : List (BucketKey × Sample)) (key : BucketKey) :
    recordedSum recorded key .successCount ≤ recordedSum recorded key .requestCount := by
  refine List.sum_le_sum fun r _ => ?_
  split
  · exact amount_success_le r.2
  · exact le_refl 0

theorem Inv.conserved {s : State} (h : Inv s) : Conserved s := by
  intro hadds hhand key
  have hnothing : ∀ c, s.flush.holds key c = 0 := by
    intro c
    cases hflush : s.flush with
    | idle => rfl
    | ranging currentBucket => rfl
    | deleting currentBucket key' => rfl
    | draining _ _ _ _ _ => rw [hflush] at hhand; cases hhand
    | upserting _ _ _ _ => rw [hflush] at hhand; cases hhand
    | restoring _ _ _ _ => rw [hflush] at hhand; cases hhand
  have hsum : ∀ c, s.rows key c + s.hotValue key c = recordedSum s.recorded key c := by
    intro c
    have hledger := h.ledger key c
    rw [hnothing, hadds] at hledger
    have hnone : pending [] key c = 0 := rfl
    omega
  refine ⟨hsum, ?_⟩
  rw [hsum, hsum]
  exact recordedSum_success_le s.recorded key

/-- The counters are conserved throughout a run whose steps lose nothing. -/
theorem counters_conserved (enabled : Bool) (bucketSeconds now : Int) (es : List Event)
    (hsound : Steps State.step StepSound (start enabled bucketSeconds now) es) :
    Always State.step Conserved (start enabled bucketSeconds now) es :=
  (always_of_steps (fun _ e h hstep => h.step e hstep) (inv_start enabled bucketSeconds now)
    hsound).mono fun _ h => h.conserved

/-- One sample, recorded before the flush comes to its bucket. -/
def recordThenFlush : List Event :=
  [.record { model := "m", success := true }, .add 0, .add 0, .add 0, .add 0, .tick 3600,
    .beginFlush, .visit ⟨"m", "default", 0⟩] ++ List.replicate 10 (.flush true) ++ [.endFlush]

theorem conserved_recordThenFlush :
    Always State.step Conserved (start true 3600 0) recordThenFlush :=
  counters_conserved true 3600 0 recordThenFlush (by decide)

/-- The flush drains the request of a sample, and another one what the sample adds afterwards. -/
def flushBetween : List Event :=
  [.record { model := "m", success := true }, .add 0, .add 0, .tick 3600,
    .beginFlush, .visit ⟨"m", "default", 0⟩] ++ List.replicate 10 (.flush true) ++
  [.endFlush, .add 0, .add 0, .beginFlush, .visit ⟨"m", "default", 0⟩] ++
  List.replicate 9 (.flush true) ++ [.endFlush]

/-- The success of the sample is lost. -/
theorem success_lost :
    ¬ ∀ (enabled : Bool) (bucketSeconds now : Int) (es : List Event),
      Always State.step Conserved (start enabled bucketSeconds now) es := by
  intro h
  have hend := (h true 3600 0 flushBetween).last (by decide) (by decide) ⟨"m", "default", 0⟩
  exact absurd (hend.1 .successCount) (by decide)

end TokenRouter.PerfMetrics
