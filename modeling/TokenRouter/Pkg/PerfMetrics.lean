import TokenRouter.ForStd.Run

/-!
# Performance counters (`pkg/perf_metrics`, `model/perf_metric.go`)

Samples are added to hot buckets, one atomic operation on a counter at a time, while the one flush
loop drains the completed buckets into the rows of `perf_metrics`. A bucket is an object that an
`add` in progress may hold after the map has let go of it.
-/

namespace TokenRouter.PerfMetrics

inductive Counter where
  | requestCount
  | successCount
  | totalLatencyMs
  | ttftSumMs
  | ttftCount
  | outputTokens
  | generationMs
  deriving DecidableEq

/-- `counters`, `atomicBucket`, or the columns of a row. -/
abbrev Counters := Counter → Int

def zeroCounters : Counters := fun _ => 0

/-- The order in which `drain` swaps and `addCounters` adds. -/
def allCounters : List Counter :=
  [.requestCount, .successCount, .totalLatencyMs, .ttftSumMs, .ttftCount, .outputTokens,
    .generationMs]

structure BucketKey where
  model : String
  group : String
  bucketTs : Int
  deriving DecidableEq

structure Sample where
  model : String
  group : String := ""
  latencyMs : Int := 0
  ttftMs : Int := 0
  hasTtft : Bool := false
  success : Bool := false
  outputTokens : Int := 0
  generationMs : Int := 0

/-- The atomic steps of `atomicBucket.add`. -/
def addSteps (sample : Sample) : List (Counter × Int) :=
  [(.requestCount, 1)] ++
  (if sample.success then [(.successCount, 1)] else []) ++
  (if 0 < sample.latencyMs then [(.totalLatencyMs, sample.latencyMs)] else []) ++
  (if sample.hasTtft ∧ 0 ≤ sample.ttftMs then [(.ttftSumMs, sample.ttftMs), (.ttftCount, 1)]
    else []) ++
  (if 0 < sample.outputTokens ∧ 0 < sample.generationMs then
    [(.outputTokens, sample.outputTokens), (.generationMs, sample.generationMs)] else [])

/-- The atomic steps of `addCounters`. -/
def restoreSteps (drained : Counters) : List (Counter × Int) :=
  (allCounters.map fun c => (c, drained c)).filter fun op => op.2 ≠ 0

/-- A call of `Record` on its way: the bucket once `LoadOrStore` has returned it, and the steps of
    `add` that are still to come. -/
structure Add where
  key : BucketKey
  bucket : Option Nat := none
  todo : List (Counter × Int)

/-- Where `flushCompletedBuckets` stands. -/
inductive Flush where
  | idle
  /-- in `Range`, with no bucket in hand -/
  | ranging (currentBucket : Int)
  | draining (currentBucket : Int) (key : BucketKey) (bucket : Nat) (todo : List Counter)
    (drained : Counters)
  | upserting (currentBucket : Int) (key : BucketKey) (bucket : Nat) (drained : Counters)
  | restoring (currentBucket : Int) (key : BucketKey) (bucket : Nat) (todo : List (Counter × Int))
  | deleting (currentBucket : Int) (key : BucketKey)

structure State where
  enabled : Bool
  bucketSeconds : Int
  now : Int
  /-- the bucket objects by address, of which those from `next` on are not allocated -/
  buckets : Nat → Counters
  next : Nat
  hotBuckets : BucketKey → Option Nat
  rows : BucketKey → Counters
  adds : List Add
  flush : Flush
  /-- the samples that `Record` has let through -/
  recorded : List (BucketKey × Sample)

/-- The process at its start. -/
def start (enabled : Bool) (bucketSeconds now : Int) : State where
  enabled
  bucketSeconds
  now
  buckets := fun _ => zeroCounters
  next := 0
  hotBuckets := fun _ => none
  rows := fun _ => zeroCounters
  adds := []
  flush := .idle
  recorded := []

inductive Event where
  | tick (seconds : Nat)
  | configure (enabled : Bool) (bucketSeconds : Int)
  /-- a call of `Record`, up to `LoadOrStore` -/
  | record (sample : Sample)
  /-- the next step of a call on its way -/
  | add (i : Nat)
  | beginFlush
  /-- `Range` comes to a key -/
  | visit (key : BucketKey)
  /-- the next step on the bucket in hand; an upsert may fail without effect -/
  | flush (ok : Bool)
  | endFlush

/-- `bucketStart` -/
def bucketStart (bucketSeconds ts : Int) : Int :=
  let bucketSeconds := if bucketSeconds ≤ 0 then 3600 else bucketSeconds
  ts - ts.tmod bucketSeconds

/-- `b.counter.Add(n)` -/
def addTo (buckets : Nat → Counters) (bucket : Nat) (c : Counter) (n : Int) : Nat → Counters :=
  fun b c' => if b = bucket ∧ c' = c then buckets b c' + n else buckets b c'

/-- `b.counter.Swap(0)` -/
def swapZero (buckets : Nat → Counters) (bucket : Nat) (c : Counter) : Nat → Counters :=
  fun b c' => if b = bucket ∧ c' = c then 0 else buckets b c'

namespace State

/-- `Record` up to `LoadOrStore`. -/
def record (s : State) (sample : Sample) : State :=
  if s.enabled = true ∧ sample.model ≠ "" then
    let sample := { sample with
      group := if sample.group = "" then "default" else sample.group
      latencyMs := if sample.latencyMs < 0 then 0 else sample.latencyMs }
    let key := ⟨sample.model, sample.group, bucketStart s.bucketSeconds s.now⟩
    { s with
      adds := s.adds ++ [{ key, todo := addSteps sample }]
      recorded := s.recorded ++ [(key, sample)] }
  else s

/-- The next step of the `i`-th call: `LoadOrStore`, an operation of `add`, or the return. -/
def stepAdd (s : State) (i : Nat) : State :=
  match s.adds[i]? with
  | none => s
  | some a =>
    match a.bucket with
    | none =>
      match s.hotBuckets a.key with
      | some b => { s with adds := s.adds.set i { a with bucket := some b } }
      | none =>
        { s with
          hotBuckets := Function.update s.hotBuckets a.key (some s.next)
          next := s.next + 1
          adds := s.adds.set i { a with bucket := some s.next } }
    | some b =>
      match a.todo with
      | [] => { s with adds := s.adds.eraseIdx i }
      | (c, n) :: todo =>
        { s with
          buckets := addTo s.buckets b c n
          adds := s.adds.set i { a with todo } }

/-- A bucket that `deleteOldEmptyBucket` lets go of: a day old. -/
def isOld (s : State) (key : BucketKey) : Prop :=
  key.bucketTs < bucketStart s.bucketSeconds (s.now - 24 * 60 * 60)

instance (s : State) (key : BucketKey) : Decidable (s.isOld key) :=
  inferInstanceAs (Decidable (_ < _))

/-- The next step of the flush on the bucket in hand. -/
def stepFlush (s : State) (ok : Bool) : State :=
  match s.flush with
  | .idle => s
  | .ranging _ => s
  | .draining currentBucket key b (c :: todo) drained =>
    { s with
      buckets := swapZero s.buckets b c
      flush := .draining currentBucket key b todo (Function.update drained c (s.buckets b c)) }
  | .draining currentBucket key b [] drained =>
    if drained .requestCount = 0 then { s with flush := .deleting currentBucket key }
    else { s with flush := .upserting currentBucket key b drained }
  | .upserting currentBucket key b drained =>
    if ok then
      { s with
        rows := Function.update s.rows key fun c => s.rows key c + drained c
        flush := .deleting currentBucket key }
    else { s with flush := .restoring currentBucket key b (restoreSteps drained) }
  | .restoring currentBucket key b ((c, n) :: todo) =>
    { s with
      buckets := addTo s.buckets b c n
      flush := .restoring currentBucket key b todo }
  | .restoring currentBucket _ _ [] => { s with flush := .ranging currentBucket }
  | .deleting currentBucket key =>
    { s with
      hotBuckets := if s.isOld key then Function.update s.hotBuckets key none else s.hotBuckets
      flush := .ranging currentBucket }

/-- `Range` comes to a key, which is passed over if its bucket is not completed. -/
def visit (s : State) (key : BucketKey) : State :=
  match s.flush, s.hotBuckets key with
  | .ranging currentBucket, some b =>
    if currentBucket ≤ key.bucketTs then s
    else { s with flush := .draining currentBucket key b allCounters zeroCounters }
  | _, _ => s

/-- One atomic step. -/
def step (s : State) : Event → State
  | .tick seconds => { s with now := s.now + seconds }
  | .configure enabled bucketSeconds => { s with enabled, bucketSeconds }
  | .record sample => s.record sample
  | .add i => s.stepAdd i
  | .beginFlush =>
    match s.flush with
    | .idle => { s with flush := .ranging (bucketStart s.bucketSeconds s.now) }
    | _ => s
  | .visit key => s.visit key
  | .flush ok => s.stepFlush ok
  | .endFlush =>
    match s.flush with
    | .ranging _ => { s with flush := .idle }
    | _ => s

end State

end TokenRouter.PerfMetrics
