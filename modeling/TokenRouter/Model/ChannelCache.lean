import TokenRouter.Types
import TokenRouter.Model.Channel

/-!
# The memory cache of one channel (`model/channel_cache.go`, `GetNextEnabledKey`)

With the memory cache on, `UpdateChannelStatus` changes two copies of a channel: the cached
object first, then the row it loads from the database. A request takes its key from the cached
object, or without the cache from a row it has loaded, which it may save afterwards.
-/

namespace TokenRouter

/-- The arguments of `UpdateChannelStatus`, and the time it reads. -/
structure StatusUpdate where
  usingKey : String
  status : ChannelStatus
  reason : String := ""
  now : Int := 0
  deriving DecidableEq

/-- One channel in the cache and in the database. -/
structure ChannelCopies where
  cached : ChannelRow
  row : ChannelRow

/-- `UpdateChannelStatus` with the memory cache on, every write succeeding. -/
def ChannelCopies.updateChannelStatus (s : ChannelCopies) (u : StatusUpdate) : ChannelCopies :=
  match updateCachedChannel s.cached u.usingKey u.status u.reason u.now with
  | none => s
  | some cached =>
    match updateChannelRow s.row u.usingKey u.status u.reason u.now with
    | none => { s with cached := cached }
    | some (row, _) => { cached := cached, row := row }

/-- The copy that `InitChannelCache` swaps in for a cached one: the rows it has read, with the
    polling index carried over. -/
def swapChannel (old new : ChannelRow) : ChannelRow :=
  if new.channelInfo.isMultiKey ∧ new.channelInfo.multiKeyMode = .polling ∧
      old.channelInfo.isMultiKey ∧ old.channelInfo.multiKeyMode = .polling then
    { new with
      channelInfo :=
        { new.channelInfo with multiKeyPollingIndex := old.channelInfo.multiKeyPollingIndex } }
  else new

@[simp] theorem swapChannel_status (old new : ChannelRow) :
    (swapChannel old new).status = new.status := by
  unfold swapChannel
  split
  · rfl
  · rfl

/-! ## Calls of `UpdateChannelStatus` -/

/-- A call of `UpdateChannelStatus` after its cached side: it is about to load the row, or to
    save the row it has loaded. -/
inductive PendingStatus where
  | loading (u : StatusUpdate)
  | saving (u : StatusUpdate) (loaded : ChannelRow)

/-- The arguments of the call. -/
def PendingStatus.update : PendingStatus → StatusUpdate
  | loading u => u
  | saving u _ => u

/-- One channel with the calls under way. `listed` holds while the channel is in the cached
    lists of its groups and models. -/
structure ChannelState where
  memoryCache : Bool
  cached : ChannelRow
  listed : Bool
  row : ChannelRow
  locked : Bool := false
  calls : Nat → Option PendingStatus := fun _ => none

namespace ChannelState

/-- A channel just loaded into the cache, with no call under way. -/
def init (memoryCache : Bool) (row : ChannelRow) : ChannelState :=
  { memoryCache := memoryCache, cached := row, listed := row.status = .enabled, row := row }

/-- `InitChannelCache` swaps in what it has read. -/
def swap (s : ChannelState) (read : ChannelRow) : ChannelState :=
  { s with cached := swapChannel s.cached read, listed := read.status = .enabled }

/-- A call can begin: the lock, taken with the memory cache on, is free, and the number is not
    in use. -/
def free (s : ChannelState) (call : Nat) : Bool :=
  !(s.memoryCache && s.locked) && (s.calls call).isNone

/-- `UpdateChannelStatus` up to the load of the row. A cached channel that changes to a status
    other than enabled leaves the lists. -/
def start (s : ChannelState) (call : Nat) (u : StatusUpdate) : ChannelState :=
  if !s.free call then s
  else if s.memoryCache then
    match updateCachedChannel s.cached u.usingKey u.status u.reason u.now with
    | none => s
    | some cached =>
      { s with
        cached := cached
        listed := s.listed && (cached.status = s.cached.status || cached.status = .enabled)
        locked := true
        calls := Function.update s.calls call (some (.loading u)) }
  else { s with calls := Function.update s.calls call (some (.loading u)) }

/-- A call returns. -/
def finish (s : ChannelState) (call : Nat) : ChannelState :=
  { s with locked := false, calls := Function.update s.calls call none }

/-- A call loads the row, and returns if there is nothing to do. -/
def load (s : ChannelState) (call : Nat) : ChannelState :=
  match s.calls call with
  | some (.loading u) =>
    if (updateChannelRow s.row u.usingKey u.status u.reason u.now).isNone then s.finish call
    else { s with calls := Function.update s.calls call (some (.saving u s.row)) }
  | _ => s

/-- A call saves the row it has loaded, as changed, and returns. -/
def save (s : ChannelState) (call : Nat) : ChannelState :=
  match s.calls call with
  | some (.saving u loaded) =>
    match updateChannelRow loaded u.usingKey u.status u.reason u.now with
    | none => s.finish call
    | some (row, _) => { s with row := row }.finish call
  | _ => s

/-- The copy that a new request sees. -/
def view (s : ChannelState) : ChannelRow := if s.memoryCache then s.cached else s.row

/-- The channel can be selected. -/
def offered (s : ChannelState) : Bool :=
  if s.memoryCache then s.listed && s.cached.status = .enabled else s.row.status = .enabled

/-! ### What a call changes -/

/-- A call that begins changes the cached side only. -/
theorem start_frame (s : ChannelState) (call : Nat) (u : StatusUpdate) :
    (s.start call u).row = s.row ∧ (s.start call u).memoryCache = s.memoryCache := by
  unfold start
  split
  · exact ⟨rfl, rfl⟩
  · split
    · split
      · exact ⟨rfl, rfl⟩
      · exact ⟨rfl, rfl⟩
    · exact ⟨rfl, rfl⟩

/-- A call that loads the row changes no copy. -/
theorem load_frame (s : ChannelState) (call : Nat) :
    (s.load call).row = s.row ∧ (s.load call).cached = s.cached ∧
      (s.load call).memoryCache = s.memoryCache := by
  unfold load
  split
  · split
    · exact ⟨rfl, rfl, rfl⟩
    · exact ⟨rfl, rfl, rfl⟩
  · exact ⟨rfl, rfl, rfl⟩

/-! ### The calls under way -/

/-- Every call under way satisfies `Q`, and a row is loaded only where it is changed. -/
def CallsOk (Q : StatusUpdate → Prop) (s : ChannelState) : Prop :=
  ∀ call p, s.calls call = some p → Q p.update ∧ ∀ u loaded, p = .saving u loaded →
    (updateChannelRow loaded u.usingKey u.status u.reason u.now).isSome = true

variable {Q : StatusUpdate → Prop}

theorem callsOk_init (memoryCache : Bool) (row : ChannelRow) :
    CallsOk Q (init memoryCache row) := by
  intro call p h
  cases h

/-- Setting one call to one that is all right. -/
theorem CallsOk.update {s s' : ChannelState} (h : CallsOk Q s) {call : Nat}
    {p : Option PendingStatus} (hcalls : s'.calls = Function.update s.calls call p)
    (hp : ∀ q, p = some q → Q q.update ∧ ∀ u loaded, q = .saving u loaded →
      (updateChannelRow loaded u.usingKey u.status u.reason u.now).isSome = true) :
    CallsOk Q s' := by
  intro call' q hq
  rw [hcalls] at hq
  by_cases hc : call' = call
  · subst hc
    rw [Function.update_self] at hq
    exact hp q hq
  · rw [Function.update_of_ne hc] at hq
    exact h call' q hq

theorem CallsOk.finish {s : ChannelState} (h : CallsOk Q s) (call : Nat) :
    CallsOk Q (s.finish call) := by
  apply h.update rfl
  intro q hq
  cases hq

theorem CallsOk.start {s : ChannelState} (h : CallsOk Q s) (call : Nat) {u : StatusUpdate}
    (hu : Q u) : CallsOk Q (s.start call u) := by
  have hloading : ∀ q, some (PendingStatus.loading u) = some q → Q q.update ∧
      ∀ u loaded, q = .saving u loaded →
        (updateChannelRow loaded u.usingKey u.status u.reason u.now).isSome = true := by
    intro q hq
    cases hq
    exact ⟨hu, fun _ _ h => by cases h⟩
  unfold ChannelState.start
  split
  · exact h
  · split
    · split
      · exact h
      · exact h.update rfl hloading
    · exact h.update rfl hloading

theorem CallsOk.load {s : ChannelState} (h : CallsOk Q s) (call : Nat) : CallsOk Q (s.load call) := by
  unfold ChannelState.load
  split
  · next u hc =>
    split
    · exact h.finish call
    · next hsome =>
      apply h.update rfl
      intro q hq
      cases hq
      refine ⟨(h call _ hc).1, ?_⟩
      intro u' loaded heq
      cases heq
      cases hr : updateChannelRow s.row u.usingKey u.status u.reason u.now with
      | none => simp [hr] at hsome
      | some p => rfl
  · exact h

theorem CallsOk.save {s : ChannelState} (h : CallsOk Q s) (call : Nat) : CallsOk Q (s.save call) := by
  unfold ChannelState.save
  split
  · split
    · exact h.finish call
    · exact CallsOk.finish (s := { s with row := _ }) h call
  · exact h

end ChannelState

/-! ## The next key -/

/-- The indexes of the enabled keys. -/
def ChannelRow.enabledKeys (channel : ChannelRow) : List Nat :=
  (List.range channel.keys.length).filter fun i => channel.channelInfo.keyStatus i = .enabled

/-- The first enabled key from `start` on, cyclically. -/
def ChannelRow.nextPolledKey (channel : ChannelRow) (start : Nat) : Option Nat :=
  ((List.range channel.keys.length).map fun i => (start + i) % channel.keys.length).find?
    fun i => channel.channelInfo.keyStatus i = .enabled

/-- `GetNextEnabledKey`: the index of the key, and the channel with its polling index moved.
    `pollingIndex` is the one that `CacheGetChannelInfo` reads, `draw` is the random number. -/
def getNextEnabledKey (channel : ChannelRow) (pollingIndex : Int) (draw : Nat) :
    Except APIError (Nat × ChannelRow) :=
  if !channel.channelInfo.isMultiKey then .ok (0, channel)
  else if channel.keys = [] then
    .error (newError "no keys available" "channel:no_available_key")
  else
    match channel.enabledKeys with
    | [] => .error (newError "no enabled keys" "channel:no_available_key")
    | first :: rest =>
      match channel.channelInfo.multiKeyMode with
      | .random => .ok ((first :: rest).getD (draw % (rest.length + 1)) first, channel)
      | .polling =>
        let start :=
          if pollingIndex < 0 ∨ channel.keys.length ≤ pollingIndex then 0 else pollingIndex.toNat
        match channel.nextPolledKey start with
        | some i =>
          .ok (i, { channel with
            channelInfo :=
              { channel.channelInfo with
                multiKeyPollingIndex := ((i + 1) % channel.keys.length : Nat) } })
        | none => .ok (first, channel)
      | .other _ => .ok (first, channel)

/-- A selection: the index of the key it uses. -/
def ChannelState.select (s : ChannelState) (draw : Nat) : Option Nat :=
  if s.offered then
    match getNextEnabledKey s.view s.view.channelInfo.multiKeyPollingIndex draw with
    | .ok (i, _) => some i
    | .error _ => none
  else none

theorem ChannelRow.mem_enabledKeys {channel : ChannelRow} {i : Nat} :
    i ∈ channel.enabledKeys ↔
      i < channel.keys.length ∧ channel.channelInfo.keyStatus i = .enabled := by
  simp [enabledKeys]

/-- The key of a channel with several keys is an enabled one, and taking it changes the polling
    index at most. -/
theorem getNextEnabledKey_ok {channel updated : ChannelRow} {pollingIndex : Int} {draw i : Nat}
    (h : getNextEnabledKey channel pollingIndex draw = .ok (i, updated)) :
    (channel.channelInfo.isMultiKey = true →
      i < channel.keys.length ∧ channel.channelInfo.keyStatus i = .enabled) ∧
    ∃ index, updated = { channel with
      channelInfo := { channel.channelInfo with multiKeyPollingIndex := index } } := by
  have hsame : ∃ index, channel = { channel with
      channelInfo := { channel.channelInfo with multiKeyPollingIndex := index } } :=
    ⟨channel.channelInfo.multiKeyPollingIndex, rfl⟩
  unfold getNextEnabledKey at h
  cases hm : channel.channelInfo.isMultiKey with
  | false =>
    rw [hm] at h
    cases h
    refine ⟨?_, hsame⟩
    intro hf
    cases hf
  | true =>
    rw [hm] at h
    simp only [Bool.not_true, Bool.false_eq_true, if_false] at h
    split at h
    · cases h
    · cases hkeys : channel.enabledKeys with
      | nil =>
        rw [hkeys] at h
        cases h
      | cons first rest =>
        rw [hkeys] at h
        dsimp only at h
        have hmem : ∀ j ∈ first :: rest,
            j < channel.keys.length ∧ channel.channelInfo.keyStatus j = .enabled := by
          intro j hj
          rw [← hkeys] at hj
          exact ChannelRow.mem_enabledKeys.mp hj
        have hfirst := hmem first List.mem_cons_self
        split at h
        · cases h
          have hlt : draw % (rest.length + 1) < (first :: rest).length := by
            rw [List.length_cons]
            exact Nat.mod_lt _ (Nat.succ_pos _)
          refine ⟨fun _ => hmem _ ?_, hsame⟩
          rw [List.getD_eq_getElem _ _ hlt]
          exact List.getElem_mem hlt
        · split at h
          · next j hj =>
            cases h
            refine ⟨fun _ => ?_, _, rfl⟩
            -- the walk stops at an enabled key of the channel
            have henabled := List.find?_some hj
            obtain ⟨k, hk, rfl⟩ := List.mem_map.mp (List.mem_of_find?_eq_some hj)
            refine ⟨Nat.mod_lt _ ?_, by simpa using henabled⟩
            have := List.mem_range.mp hk
            omega
          · cases h
            exact ⟨fun _ => hfirst, hsame⟩
        · cases h
          exact ⟨fun _ => hfirst, hsame⟩

end TokenRouter
