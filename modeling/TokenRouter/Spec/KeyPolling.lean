import TokenRouter.ForStd.CyclicScan
import TokenRouter.ForStd.Run
import TokenRouter.Model.RouteCache

/-!
# Polling the keys of a channel

With the memory cache on, the polling index of a channel is read from the cached object and
written to the object that the key is asked of. `InitChannelCache` puts another object in the
cache and carries the index over.

## Key results

- `getNextEnabledKey_polling`: the key that a call takes, and what is to come after it
- `carryPollingIndex_upcoming`: a sync changes nothing of what is to come
- `polling_in_turn`: calls on the cached object take the enabled keys in turn
-/

namespace TokenRouter

/-! ## The system -/

/-- The cached channels, and the indexes of the keys taken of one of them. -/
structure PollingState where
  channelsIDM : Nat → Option ChannelRow
  taken : List Nat := []

/-- What happens to the channel. -/
inductive PollingEvent where
  /-- `GetNextEnabledKey` on the cached object -/
  | nextKey (draw : Nat)
  /-- the same on another object of the channel: a row that `GetChannelById` has loaded, or one
      that a sync has replaced since it was looked up -/
  | nextKeyOf (object : ChannelRow) (draw : Nat)
  /-- `InitChannelCache` with the rows that it reads -/
  | sync (channels : Channels) (suppliers : Suppliers) (preferences : SupplierRoutePreferences)
      (abilities : Abilities) (advancedCustom : Nat → Option (String → Bool)) (now : Int)

namespace PollingState

/-- One step. Another object takes the polling index of the cached one and keeps the new one to
    itself. -/
def step (id : Nat) (s : PollingState) : PollingEvent → PollingState
  | .nextKey draw =>
    match s.channelsIDM id with
    | none => s
    | some cached =>
      match getNextEnabledKey cached cached.channelInfo.multiKeyPollingIndex draw with
      | .error _ => s
      | .ok (i, updated) =>
        { channelsIDM := Function.update s.channelsIDM id (some updated)
          taken := s.taken ++ [i] }
  | .nextKeyOf object draw =>
    match s.channelsIDM id with
    | none => s
    | some cached =>
      match getNextEnabledKey object cached.channelInfo.multiKeyPollingIndex draw with
      | .error _ => s
      | .ok (i, _) => { s with taken := s.taken ++ [i] }
  | .sync channels suppliers preferences abilities advancedCustom now =>
    match initChannelCache s.channelsIDM channels suppliers preferences abilities advancedCustom
        now with
    | none => s
    | some cache => { s with channelsIDM := cache.channelsIDM }

end PollingState

/-! ## One channel -/

/-- Two objects of one polling channel with the same keys and statuses. -/
structure SamePolling (c c' : ChannelRow) : Prop where
  id : c'.id = c.id
  keys : c'.keys = c.keys
  multiKey : c'.channelInfo.isMultiKey = true
  polling : c'.channelInfo.multiKeyMode = .polling
  statuses : c'.channelInfo.multiKeyStatusList = c.channelInfo.multiKeyStatusList

/-- A key is enabled. -/
def ChannelRow.keyEnabled (c : ChannelRow) (i : Nat) : Bool :=
  c.channelInfo.keyStatus i = .enabled

/-- The index that the scan starts at. -/
def ChannelRow.pollStart (c : ChannelRow) (pollingIndex : Int) : Nat :=
  if pollingIndex < 0 ∨ c.keys.length ≤ pollingIndex then 0 else pollingIndex.toNat

/-- The enabled keys in the order in which they are to come. -/
def ChannelRow.upcoming (c : ChannelRow) (pollingIndex : Int) : List Nat :=
  (List.cyclicFrom c.keys.length (c.pollStart pollingIndex)).filter c.keyEnabled

variable {c c' : ChannelRow}

theorem SamePolling.keyEnabled (h : SamePolling c c') : c'.keyEnabled = c.keyEnabled := by
  funext i
  rw [ChannelRow.keyEnabled, ChannelRow.keyEnabled, ChannelInfo.keyStatus, h.statuses]
  rfl

theorem SamePolling.enabledKeys (h : SamePolling c c') : c'.enabledKeys = c.enabledKeys := by
  have hfilter : ∀ d : ChannelRow, d.enabledKeys = (List.range d.keys.length).filter d.keyEnabled :=
    fun d => rfl
  rw [hfilter, hfilter, h.keyEnabled, h.keys]

theorem SamePolling.upcoming (h : SamePolling c c') (pollingIndex : Int) :
    c'.upcoming pollingIndex = c.upcoming pollingIndex := by
  simp only [ChannelRow.upcoming, ChannelRow.pollStart, h.keyEnabled, h.keys]

theorem ChannelRow.upcoming_perm (c : ChannelRow) (pollingIndex : Int) :
    (c.upcoming pollingIndex).Perm c.enabledKeys :=
  (List.cyclicFrom_perm _ _).filter _

/-- A call takes the first key to come, and moves it to the end. -/
theorem getNextEnabledKey_polling (h : SamePolling c c') (hsome : c.enabledKeys ≠ [])
    (pollingIndex : Int) (draw : Nat) :
    ∃ i, getNextEnabledKey c' pollingIndex draw = .ok (i, { c' with
        channelInfo := { c'.channelInfo with
          multiKeyPollingIndex := ((i + 1) % c.keys.length : Nat) } }) ∧
      c.upcoming pollingIndex = i :: (c.upcoming pollingIndex).tail ∧
      c.upcoming ((i + 1) % c.keys.length : Nat) = (c.upcoming pollingIndex).tail ++ [i] := by
  obtain ⟨first, rest, hkeys⟩ := List.exists_cons_of_ne_nil hsome
  have hmem : first ∈ c.enabledKeys := by
    rw [hkeys]
    exact List.mem_cons_self
  have hlt : first < c.keys.length := (ChannelRow.mem_enabledKeys.mp hmem).1
  have hnonempty : c.keys ≠ [] := by
    rintro hnil
    rw [hnil] at hlt
    exact Nat.not_lt_zero _ hlt
  -- the scan finds a key, as there is an enabled one
  obtain ⟨i, hfind⟩ : ∃ i, (List.cyclicFrom c.keys.length (c.pollStart pollingIndex)).find?
      c.keyEnabled = some i := by
    apply Option.isSome_iff_exists.mp
    rw [List.find?_isSome]
    refine ⟨first, ?_, ?_⟩
    · rw [(List.cyclicFrom_perm _ _).mem_iff, List.mem_range]
      exact hlt
    · exact decide_eq_true (ChannelRow.mem_enabledKeys.mp hmem).2
  obtain ⟨hhead, hnext⟩ := List.filter_cyclicFrom_next hfind
  have hstart : c.pollStart ((i + 1) % c.keys.length : Nat) = (i + 1) % c.keys.length := by
    have := Nat.mod_lt (i + 1) (Nat.zero_lt_of_lt hlt)
    unfold ChannelRow.pollStart
    rw [if_neg (by omega)]
    exact Int.toNat_natCast _
  refine ⟨i, ?_, hhead, ?_⟩
  · have hnext' : c'.nextPolledKey (c'.pollStart pollingIndex) = some i := by
      rw [← hfind, ← h.keyEnabled]
      simp only [ChannelRow.pollStart, ← h.keys]
      rfl
    unfold getNextEnabledKey
    unfold ChannelRow.pollStart at hnext'
    simp only [h.multiKey, h.keys, h.enabledKeys, hkeys, h.polling, hnonempty, Bool.not_true,
      Bool.false_eq_true, if_false] at hnext' ⊢
    rw [hnext']
  · unfold ChannelRow.upcoming
    rw [hstart]
    exact hnext

/-- A sync that reads the same keys and statuses keeps the order. -/
theorem carryPollingIndex_upcoming {old : Nat → Option ChannelRow} {cached row : ChannelRow}
    (hcached : SamePolling c cached) (hold : old c.id = some cached) (hrow : SamePolling c row) :
    SamePolling c (carryPollingIndex old row) ∧
      (carryPollingIndex old row).channelInfo.multiKeyPollingIndex =
        cached.channelInfo.multiKeyPollingIndex := by
  have hcarry : carryPollingIndex old row = { row with
      channelInfo := { row.channelInfo with
        multiKeyPollingIndex := cached.channelInfo.multiKeyPollingIndex } } := by
    have hlookup : old row.id = some cached := by rw [hrow.id, hold]
    unfold carryPollingIndex
    rw [hlookup]
    exact if_pos ⟨hrow.multiKey, hrow.polling, hcached.multiKey, hcached.polling⟩
  rw [hcarry]
  exact ⟨⟨hrow.id, hrow.keys, hrow.multiKey, hrow.polling, hrow.statuses⟩, rfl⟩

/-! ## Runs -/

/-- The keys and statuses of the channel do not change: another object has the same, and so has
    the row that a sync reads. -/
def PollingEvent.Keeps (c : ChannelRow) : PollingEvent → Prop
  | .nextKey _ => True
  | .nextKeyOf object _ => SamePolling c object
  | .sync channels _ _ _ _ _ => ∃ row, channels.find? c.id = some row ∧ SamePolling c row

/-- A key is asked of the cached object, or there is only one enabled key. -/
def PollingEvent.Published (c : ChannelRow) : PollingEvent → Prop
  | .nextKeyOf _ _ => c.enabledKeys.length ≤ 1
  | _ => True

/-- Only enabled keys were taken, and of as many calls in a row as there are enabled keys, every
    one was taken once. -/
structure FairlyTaken (c : ChannelRow) (taken : List Nat) : Prop where
  enabled : ∀ i ∈ taken, i ∈ c.enabledKeys
  inTurn : List.InTurn c.enabledKeys taken

/-- The channel is cached, and what was taken last is the end of what is to come. -/
structure PollingInv (c : ChannelRow) (s : PollingState) : Prop where
  fair : FairlyTaken c s.taken
  cached : ∃ cached, s.channelsIDM c.id = some cached ∧ SamePolling c cached ∧
    List.Follows (c.upcoming cached.channelInfo.multiKeyPollingIndex) s.taken

/-- A key is taken in turn. -/
theorem FairlyTaken.concat {taken : List Nat} {pollingIndex : Int} {i : Nat}
    (h : FairlyTaken c taken) (hfollows : List.Follows (c.upcoming pollingIndex) (taken ++ [i]))
    (hi : i ∈ c.enabledKeys) : FairlyTaken c (taken ++ [i]) := by
  constructor
  · intro j hj
    rcases List.mem_append.mp hj with hold | hnew
    · exact h.enabled j hold
    · rw [List.mem_singleton.mp hnew]
      exact hi
  · exact h.inTurn.concat hfollows (c.upcoming_perm pollingIndex)

theorem PollingInv.step {s : PollingState} {e : PollingEvent} (hsome : c.enabledKeys ≠ [])
    (h : PollingInv c s) (hkeeps : e.Keeps c) (hpublished : e.Published c) :
    PollingInv c (s.step c.id e) := by
  obtain ⟨cached, hcached, hsame, hfollows⟩ := h.cached
  cases e with
  | nextKey draw =>
    obtain ⟨i, hkey, hhead, hnext⟩ := getNextEnabledKey_polling hsame hsome
      cached.channelInfo.multiKeyPollingIndex draw
    have hi : i ∈ c.enabledKeys := by
      rw [← (c.upcoming_perm cached.channelInfo.multiKeyPollingIndex).mem_iff, hhead]
      exact List.mem_cons_self
    rw [hhead] at hfollows
    have hafter := hfollows.concat
    rw [← hnext] at hafter
    simp only [PollingState.step, hcached, hkey]
    refine ⟨h.fair.concat hafter hi, _, Function.update_self _ _ _, ?_, hafter⟩
    exact ⟨hsame.id, hsame.keys, hsame.multiKey, hsame.polling, hsame.statuses⟩
  | nextKeyOf object draw =>
    obtain ⟨i, hkey, hhead, -⟩ := getNextEnabledKey_polling hkeeps hsome
      cached.channelInfo.multiKeyPollingIndex draw
    have hi : i ∈ c.enabledKeys := by
      rw [← (c.upcoming_perm cached.channelInfo.multiKeyPollingIndex).mem_iff, hhead]
      exact List.mem_cons_self
    -- the only key is to come again
    have htail : (c.upcoming cached.channelInfo.multiKeyPollingIndex).tail = [] := by
      have hlength := (c.upcoming_perm cached.channelInfo.multiKeyPollingIndex).length_eq
      have hone : c.enabledKeys.length ≤ 1 := hpublished
      apply List.eq_nil_of_length_eq_zero
      rw [List.length_tail]
      omega
    rw [htail] at hhead
    have hafter : List.Follows (c.upcoming cached.channelInfo.multiKeyPollingIndex)
        (s.taken ++ [i]) := by
      rw [hhead] at hfollows ⊢
      exact hfollows.concat
    simp only [PollingState.step, hcached, hkey]
    exact ⟨h.fair.concat hafter hi, cached, hcached, hsame, hafter⟩
  | sync channels suppliers preferences abilities advancedCustom now =>
    obtain ⟨row, hrow, hsameRow⟩ := hkeeps
    simp only [PollingState.step]
    cases hinit : initChannelCache s.channelsIDM channels suppliers preferences abilities
        advancedCustom now with
    | none => exact h
    | some cache =>
      obtain ⟨index, -, rfl⟩ := Option.map_eq_some_iff.mp hinit
      obtain ⟨hcarried, hindex⟩ := carryPollingIndex_upcoming hsame hcached hsameRow
      refine ⟨h.fair, carryPollingIndex s.channelsIDM row, ?_, hcarried, ?_⟩
      · show (channels.find? c.id).map (carryPollingIndex s.channelsIDM) = _
        rw [hrow]
        rfl
      · rw [hindex]
        exact hfollows

/-- From every polling index and with syncs in between: as long as every key is asked of the
    object that is cached then, the enabled keys are taken in turn. -/
theorem polling_in_turn {channelsIDM : Nat → Option ChannelRow}
    (hcached : channelsIDM c.id = some c) (hmulti : c.channelInfo.isMultiKey = true)
    (hpolling : c.channelInfo.multiKeyMode = .polling) (hsome : c.enabledKeys ≠ [])
    {es : List PollingEvent} (hkeeps : ∀ e ∈ es, e.Keeps c) (hpublished : ∀ e ∈ es, e.Published c) :
    Run.Always (PollingState.step c.id) (fun s => FairlyTaken c s.taken)
      { channelsIDM := channelsIDM } es := by
  have hinit : PollingInv c { channelsIDM := channelsIDM } := by
    refine ⟨⟨fun i hi => (nomatch hi), List.InTurn.nil hsome⟩, c, hcached, ?_, List.Follows.nil _⟩
    exact ⟨rfl, rfl, hmulti, hpolling, rfl⟩
  have hsteps : Run.Steps (PollingState.step c.id) (fun _ e => e.Keeps c ∧ e.Published c)
      { channelsIDM := channelsIDM } es :=
    Run.steps_of_forall_mem _ fun e he => ⟨hkeeps e he, hpublished e he⟩
  have hall := Run.always_of_steps (fun s e hs he => hs.step hsome he.1 he.2) hinit hsteps
  exact hall.mono fun s hs => hs.fair

/-! ## A channel with two enabled keys -/

/-- Its second key is disabled, and its polling index is out of range. -/
def pollingChannel : ChannelRow :=
  { id := 1
    keys := ["a", "b", "c"]
    channelInfo :=
      { isMultiKey := true
        multiKeyStatusList := fun i => if i = 1 then some .autoDisabled else none
        multiKeyPollingIndex := 7
        multiKeyMode := .polling } }

/-- The cache with this channel. -/
def pollingCache : Nat → Option ChannelRow := fun id => if id = 1 then some pollingChannel else none

theorem pollingChannel_same : SamePolling pollingChannel pollingChannel := ⟨rfl, rfl, rfl, rfl, rfl⟩

/-- A call, a sync and two calls. -/
theorem pollingChannel_in_turn :
    Run.Always (PollingState.step 1) (fun s => FairlyTaken pollingChannel s.taken)
      { channelsIDM := pollingCache }
      [.nextKey 0, .sync ⟨[pollingChannel], List.nodup_singleton _⟩ ⟨[], List.nodup_nil⟩
        ⟨[], List.nodup_nil⟩ ⟨[], List.nodup_nil⟩ (fun _ => none) 0, .nextKey 0, .nextKey 0] := by
  refine polling_in_turn (c := pollingChannel) rfl rfl rfl (by decide) ?_ ?_
  · simp only [List.forall_mem_cons, List.not_mem_nil, false_imp_iff, implies_true, and_true]
    exact ⟨trivial, ⟨pollingChannel, rfl, pollingChannel_same⟩, trivial, trivial⟩
  · simp only [List.forall_mem_cons, List.not_mem_nil, false_imp_iff, implies_true, and_true]
    exact ⟨trivial, trivial, trivial, trivial⟩

/-- A row that `GetChannelById` has loaded is asked twice, and gives the same key again. -/
theorem loadedRow_same_key :
    ¬ ∀ (c : ChannelRow) (channelsIDM : Nat → Option ChannelRow), channelsIDM c.id = some c →
        c.channelInfo.isMultiKey = true → c.channelInfo.multiKeyMode = .polling →
        c.enabledKeys ≠ [] → ∀ es : List PollingEvent, (∀ e ∈ es, e.Keeps c) →
          Run.Always (PollingState.step c.id) (fun s => FairlyTaken c s.taken)
            { channelsIDM := channelsIDM } es := by
  intro h
  have hall := h pollingChannel pollingCache rfl rfl rfl (by decide)
    [.nextKeyOf pollingChannel 0, .nextKeyOf pollingChannel 0] (by
      simp only [List.forall_mem_cons, List.not_mem_nil, false_imp_iff, implies_true, and_true]
      exact ⟨pollingChannel_same, pollingChannel_same⟩)
  have hperm : [0, 0].Perm pollingChannel.enabledKeys := hall.last.inTurn [] [0, 0] [] rfl rfl
  exact absurd hperm (by decide)

end TokenRouter
