import TokenRouter.ForStd.Run
import TokenRouter.Model.ChannelCache

/-!
# A completed disable against cache rebuilds and key polling

`DisableRace` is one channel with the calls of `UpdateChannelStatus`, the rebuilds of the
cache, and the requests that have loaded the row to take a key from it. A rebuild swaps in what
it has read before, and a polling request without the cache saves the channel information it has
loaded. `Disabled` records the channel and the keys that a completed call has disabled and no
call has enabled since. Nothing disabled is selected again as long as no older copy that lacks a
disable replaces a newer one.

## Key results

- `Disabled.ShownBy.update`: a status update shows what was disabled, and its own target
- `inv_step`: one step
- `no_disabled_selected`: over every interleaving whose steps meet the condition
- `rebuild_and_polling_undo_disable`: a disabled channel and a disabled key are selected again
-/

namespace TokenRouter

/-! ## What is disabled -/

/-- What a status update is about. -/
inductive StatusTarget where
  | channel
  | key (index : Nat)
  | nothing
  deriving DecidableEq

/-- A key of the channel, or the channel as a whole; a key that a channel with several keys does
    not have is neither. -/
def ChannelRow.target (channel : ChannelRow) (usingKey : String) : StatusTarget :=
  if !channel.channelInfo.isMultiKey then .channel
  else
    match channel.keyIndex usingKey with
    | some i => .key i
    | none => if channel.keys = [] ∨ usingKey = "" then .channel else .nothing

/-- The channel and the keys that are out of use. -/
structure Disabled where
  channel : Bool := false
  key : Nat → Bool := fun _ => false

namespace Disabled

/-- A disable of the target has returned. -/
def add (d : Disabled) : StatusTarget → Disabled
  | .channel => { d with channel := true }
  | .key i => { d with key := Function.update d.key i true }
  | .nothing => d

/-- The target of an update is no longer out of use on account of earlier calls. Enabling a key
    enables its channel too. -/
def release (d : Disabled) (t : StatusTarget) (status : ChannelStatus) : Disabled :=
  match t with
  | .channel => { d with channel := false }
  | .key i =>
    { channel := d.channel && status ≠ .enabled, key := Function.update d.key i false }
  | .nothing => d

/-- The effect of a completed update. -/
def complete (d : Disabled) (t : StatusTarget) (status : ChannelStatus) : Disabled :=
  if status = .enabled then d.release t status else d.add t

/-- A copy of the channel shows everything that is disabled. -/
def ShownBy (d : Disabled) (c : ChannelRow) : Prop :=
  (d.channel = true → c.status ≠ .enabled) ∧
    ∀ i, d.key i = true → c.channelInfo.keyStatus i ≠ .enabled

/-- Less is disabled. -/
def Le (d d' : Disabled) : Prop :=
  (d.channel = true → d'.channel = true) ∧ ∀ i, d.key i = true → d'.key i = true

theorem ShownBy.mono {d d' : Disabled} {c : ChannelRow} (h : d'.ShownBy c) (hle : d.Le d') :
    d.ShownBy c :=
  ⟨fun hc => h.1 (hle.1 hc), fun i hi => h.2 i (hle.2 i hi)⟩

/-- Showing depends on the status and the key statuses alone. -/
theorem ShownBy.congr {d : Disabled} {c c' : ChannelRow} (h : d.ShownBy c)
    (hstatus : c'.status = c.status)
    (hkey : ∀ i, c'.channelInfo.keyStatus i = c.channelInfo.keyStatus i) : d.ShownBy c' := by
  refine ⟨?_, ?_⟩
  · rw [hstatus]
    exact h.1
  · intro i hi
    rw [hkey i]
    exact h.2 i hi

theorem le_refl (d : Disabled) : d.Le d := ⟨id, fun _ => id⟩

theorem release_le (d : Disabled) (t : StatusTarget) (status : ChannelStatus) :
    (d.release t status).Le d := by
  cases t with
  | channel =>
    refine ⟨?_, fun _ h => h⟩
    intro h
    cases h
  | key i =>
    refine ⟨?_, ?_⟩
    · intro h
      simp only [release, Bool.and_eq_true] at h
      exact h.1
    · intro j h
      by_cases hj : j = i
      · subst hj
        simp [release] at h
      · simpa [release, hj] using h
  | nothing => exact le_refl d

theorem complete_le_add (d : Disabled) (t : StatusTarget) (status : ChannelStatus) :
    (d.complete t status).Le (d.add t) := by
  unfold complete
  split
  · obtain ⟨hc, hk⟩ := release_le d t status
    refine ⟨fun h => ?_, fun i h => ?_⟩
    · have := hc h
      cases t with
      | channel => rfl
      | key i => exact this
      | nothing => exact this
    · have := hk i h
      cases t with
      | channel => exact this
      | key j =>
        by_cases hj : i = j
        · simp [add, hj]
        · simpa [add, hj] using this
      | nothing => exact this
  · exact le_refl _

/-- What is disabled after adding a target: what was, and the target. -/
theorem shownBy_add {d : Disabled} {t : StatusTarget} {c : ChannelRow} :
    (d.add t).ShownBy c ↔ d.ShownBy c ∧ (({} : Disabled).add t).ShownBy c := by
  cases t with
  | channel =>
    unfold ShownBy add
    simp only [forall_const, Bool.false_eq_true, false_implies, and_true]
    constructor
    · rintro ⟨hc, hk⟩
      exact ⟨⟨fun _ => hc, hk⟩, hc⟩
    · rintro ⟨⟨_, hk⟩, hc⟩
      exact ⟨hc, hk⟩
  | key j =>
    unfold ShownBy add
    simp only [Bool.false_eq_true, false_implies, true_and]
    constructor
    · rintro ⟨hc, hk⟩
      refine ⟨⟨hc, fun i hi => hk i ?_⟩, fun i hi => hk i ?_⟩
      · by_cases hj : i = j
        · simp [hj]
        · simpa [hj] using hi
      · by_cases hj : i = j
        · simp [hj]
        · simp [hj] at hi
    · rintro ⟨⟨hc, hk⟩, hadd⟩
      refine ⟨hc, fun i hi => ?_⟩
      by_cases hj : i = j
      · exact hadd i (by simp [hj])
      · exact hk i (by simpa [hj] using hi)
  | nothing =>
    unfold ShownBy add
    simp

/-- Enabling or disabling in a channel with several keys. -/
theorem ShownBy.handler {d : Disabled} {c : ChannelRow} {u : StatusUpdate}
    (hmulti : c.channelInfo.isMultiKey = true)
    (h : (d.release (c.target u.usingKey) u.status).ShownBy c) :
    (d.complete (c.target u.usingKey) u.status).ShownBy
      (handlerMultiKeyUpdate c u.usingKey u.status u.reason u.now) := by
  unfold ChannelRow.target at h ⊢
  simp only [hmulti, Bool.not_true, Bool.false_eq_true, if_false] at h ⊢
  unfold complete
  cases hi : c.keyIndex u.usingKey with
  | none =>
    rw [hi] at h
    rw [handlerMultiKeyUpdate_of_none _ _ _ hi]
    dsimp only at h ⊢
    by_cases hwhole : c.keys = [] ∨ u.usingKey = ""
    · -- the channel as a whole: its status is written, the keys stay
      rw [if_pos hwhole] at h ⊢
      have hwritten : ∀ c' : ChannelRow, c'.status = u.status → c'.channelInfo = c.channelInfo →
          (if u.status = .enabled then d.release .channel u.status
            else d.add .channel).ShownBy c' := by
        intro c' hstatus hinfo
        by_cases hen : u.status = .enabled
        · rw [if_pos hen]
          refine ⟨fun hc => absurd hc Bool.false_ne_true, fun i hk => ?_⟩
          rw [hinfo]
          exact h.2 i hk
        · rw [if_neg hen]
          refine ⟨fun _ => hstatus ▸ hen, fun i hk => ?_⟩
          rw [hinfo]
          exact h.2 i hk
      apply hwritten
      · by_cases hnil : c.keys = []
        · simp [hnil]
        · simp [hnil, hwhole.resolve_left hnil, ChannelRow.setStatus]
      · by_cases hnil : c.keys = []
        · simp [hnil]
        · simp [hnil, hwhole.resolve_left hnil, ChannelRow.setStatus]
    · rw [if_neg hwhole] at h ⊢
      rw [not_or] at hwhole
      rw [if_neg hwhole.1, if_neg hwhole.2]
      split
      · exact h
      · exact h
  | some i =>
    rw [hi] at h
    dsimp only at h ⊢
    have hkey := handlerMultiKeyUpdate_keyStatus u.status u.reason u.now hi
    by_cases hen : u.status = .enabled
    · rw [if_pos hen]
      refine ⟨fun hc => by simp [release, hen] at hc, fun j hj => ?_⟩
      have hne : j ≠ i := by
        intro heq
        simp [release, heq] at hj
      rw [hkey, if_neg hne]
      exact h.2 j hj
    · rw [if_neg hen]
      refine ⟨fun hc => ?_, fun j hj => ?_⟩
      · rw [handlerMultiKeyUpdate_status _ _ _ hi, if_neg hen]
        split
        · decide
        · exact h.1 (by simpa [release, hen, add] using hc)
      · rw [hkey]
        by_cases hji : j = i
        · rw [if_pos hji]
          exact hen
        · rw [if_neg hji]
          exact h.2 j (by simpa [release, add, hji] using hj)

/-- Enabling or disabling a channel with one key. -/
theorem ShownBy.single {d : Disabled} {c c' : ChannelRow} {u : StatusUpdate}
    (hmulti : c.channelInfo.isMultiKey = false)
    (h : (d.release (c.target u.usingKey) u.status).ShownBy c) (hstatus : c'.status = u.status)
    (hinfo : c'.channelInfo = c.channelInfo) :
    (d.complete (c.target u.usingKey) u.status).ShownBy c' := by
  have ht : c.target u.usingKey = .channel := by simp [ChannelRow.target, hmulti]
  rw [ht] at h ⊢
  unfold complete
  by_cases hen : u.status = .enabled
  · rw [if_pos hen]
    refine ⟨fun hc => absurd hc Bool.false_ne_true, fun i hk => ?_⟩
    rw [hinfo]
    exact h.2 i hk
  · rw [if_neg hen]
    refine ⟨fun _ => hstatus ▸ hen, fun i hk => ?_⟩
    rw [hinfo]
    exact h.2 i hk

/-- The cached side of an update shows what was disabled and is not released, and the target of
    a disable. -/
theorem ShownBy.updateCachedChannel {d : Disabled} {c c' : ChannelRow} {u : StatusUpdate}
    (h : (d.release (c.target u.usingKey) u.status).ShownBy c)
    (hu : updateCachedChannel c u.usingKey u.status u.reason u.now = some c') :
    (d.complete (c.target u.usingKey) u.status).ShownBy c' := by
  unfold TokenRouter.updateCachedChannel at hu
  cases hm : c.channelInfo.isMultiKey with
  | true =>
    rw [hm] at hu
    cases hu
    exact h.handler hm
  | false =>
    rw [hm] at hu
    simp only [Bool.false_eq_true, if_false] at hu
    split at hu
    · cases hu
    · cases hu
      exact h.single hm rfl rfl

/-- The side of the row. -/
theorem ShownBy.updateChannelRow {d : Disabled} {c c' : ChannelRow} {u : StatusUpdate} {b : Bool}
    (h : (d.release (c.target u.usingKey) u.status).ShownBy c)
    (hu : updateChannelRow c u.usingKey u.status u.reason u.now = some (c', b)) :
    (d.complete (c.target u.usingKey) u.status).ShownBy c' := by
  unfold TokenRouter.updateChannelRow at hu
  split at hu
  · cases hu
  · cases hm : c.channelInfo.isMultiKey with
    | true =>
      rw [hm] at hu
      cases hu
      exact h.handler hm
    | false =>
      rw [hm] at hu
      cases hu
      exact h.single hm rfl rfl

end Disabled

/-! ## Interleavings -/

/-- One channel, what is disabled on it, the rebuilds of the cache that have read its row, and
    the requests that have loaded it. -/
structure DisableRace where
  channel : ChannelState
  disabled : Disabled := {}
  rebuilds : Nat → Option ChannelRow := fun _ => none
  loads : Nat → Option ChannelRow := fun _ => none

/-- What happens to the channel. -/
inductive DisableEvent where
  /-- `UpdateChannelStatus` begins -/
  | update (call : Nat) (u : StatusUpdate)
  /-- it loads the row -/
  | load (call : Nat)
  /-- it saves the row it has loaded, and returns -/
  | save (call : Nat)
  /-- `InitChannelCache` reads the tables -/
  | readTables (rebuild : Nat)
  /-- it swaps its maps in -/
  | swapMaps (rebuild : Nat)
  /-- a request loads the row -/
  | loadChannel (request : Nat)
  /-- `GetNextEnabledKey` on a loaded row -/
  | nextKey (request draw : Nat)
  /-- `GetNextEnabledKey` on the cached object -/
  | nextCachedKey (draw : Nat)

namespace DisableRace

/-- The cached side of a call that enables takes effect at once. -/
def enablesCached (s : DisableRace) (call : Nat) (u : StatusUpdate) : Bool :=
  s.channel.memoryCache && s.channel.free call && u.status = .enabled &&
    (updateCachedChannel s.channel.cached u.usingKey u.status u.reason u.now).isSome

/-- The channel information that `GetNextEnabledKey` saves: only a polling channel is saved, and
    only without the memory cache. -/
def saveChannelInfo (s : ChannelState) (loaded : ChannelRow) (draw : Nat) : ChannelState :=
  match getNextEnabledKey loaded s.row.channelInfo.multiKeyPollingIndex draw with
  | .error _ => s
  | .ok (_, updated) =>
    if !s.memoryCache && loaded.channelInfo.isMultiKey &&
        loaded.channelInfo.multiKeyMode = .polling then
      { s with row := { s.row with channelInfo := updated.channelInfo } }
    else s

/-- The polling index of the cached object moves. -/
def pollCached (s : ChannelState) (draw : Nat) : ChannelState :=
  match getNextEnabledKey s.cached s.cached.channelInfo.multiKeyPollingIndex draw with
  | .error _ => s
  | .ok (_, updated) => { s with cached := updated }

/-- One step. -/
def step (s : DisableRace) : DisableEvent → DisableRace
  | .update call u =>
    { s with
      channel := s.channel.start call u
      disabled :=
        if s.enablesCached call u then
          s.disabled.release (s.channel.cached.target u.usingKey) u.status
        else s.disabled }
  | .load call => { s with channel := s.channel.load call }
  | .save call =>
    match s.channel.calls call with
    | some (.saving u loaded) =>
      { s with
        channel := s.channel.save call
        disabled := s.disabled.complete (loaded.target u.usingKey) u.status }
    | _ => s
  | .readTables rebuild =>
    { s with rebuilds := Function.update s.rebuilds rebuild (some s.channel.row) }
  | .swapMaps rebuild =>
    match s.rebuilds rebuild with
    | none => s
    | some read => { s with channel := s.channel.swap read }
  | .loadChannel request =>
    { s with loads := Function.update s.loads request (some s.channel.row) }
  | .nextKey request draw =>
    match s.loads request with
    | none => s
    | some loaded => { s with channel := saveChannelInfo s.channel loaded draw }
  | .nextCachedKey draw => { s with channel := pollCached s.channel draw }

/-- A channel just loaded into the cache, with nothing under way. -/
def init (memoryCache : Bool) (row : ChannelRow) : DisableRace :=
  { channel := .init memoryCache row }

/-- No selection returns the channel or the key that a completed call has disabled. -/
def Safe (s : DisableRace) : Prop :=
  (s.disabled.channel = true → s.channel.offered = false) ∧
    ∀ draw i, s.channel.select draw = some i → s.disabled.key i = false

/-! ## The condition -/

/-- What is disabled, with the targets of the disables under way. -/
def ShownWithCalls (s : DisableRace) (c : ChannelRow) : Prop :=
  s.disabled.ShownBy c ∧ ∀ call p, s.channel.calls call = some p → p.update.status ≠ .enabled →
    (({} : Disabled).add (c.target p.update.usingKey)).ShownBy c

/-- No step puts back a copy that lacks a disable: a rebuild swaps in rows that show every
    disable in force or under way, and without the cache a saved row and a saved channel
    information show every disable in force that the saving call itself does not decide. -/
def Preserves (s : DisableRace) : DisableEvent → Prop
  | .swapMaps rebuild => ∀ read, s.rebuilds rebuild = some read →
      s.channel.memoryCache = true → s.ShownWithCalls read
  | .save call => ∀ u loaded, s.channel.calls call = some (.saving u loaded) →
      s.channel.memoryCache = false →
      (s.disabled.release (loaded.target u.usingKey) u.status).ShownBy loaded
  | .nextKey request _ => ∀ loaded, s.loads request = some loaded →
      s.channel.memoryCache = false → loaded.channelInfo.multiKeyMode = .polling →
      ∀ i, s.disabled.key i = true → loaded.channelInfo.keyStatus i ≠ .enabled
  | _ => True

/-! ## Copies of one channel -/

/-- A copy has the keys of the channel. -/
def CopyOf (base c : ChannelRow) : Prop :=
  c.keys = base.keys ∧ c.channelInfo.isMultiKey = base.channelInfo.isMultiKey

theorem CopyOf.target {base c : ChannelRow} (h : CopyOf base c) (usingKey : String) :
    c.target usingKey = base.target usingKey := by
  unfold ChannelRow.target ChannelRow.keyIndex
  rw [h.1, h.2]

theorem CopyOf.swapChannel {base c : ChannelRow} (h : CopyOf base c) (old : ChannelRow) :
    CopyOf base (swapChannel old c) := by
  unfold TokenRouter.swapChannel
  split
  · exact h
  · exact h

theorem CopyOf.handler {base c : ChannelRow} (h : CopyOf base c) (u : StatusUpdate) :
    CopyOf base (handlerMultiKeyUpdate c u.usingKey u.status u.reason u.now) := by
  unfold CopyOf
  rw [handlerMultiKeyUpdate_keys, handlerMultiKeyUpdate_isMultiKey]
  exact h

theorem CopyOf.updateCachedChannel {base c c' : ChannelRow} (h : CopyOf base c) {u : StatusUpdate}
    (hu : updateCachedChannel c u.usingKey u.status u.reason u.now = some c') : CopyOf base c' := by
  unfold TokenRouter.updateCachedChannel at hu
  split at hu
  · cases hu
    exact h.handler u
  · split at hu
    · cases hu
    · cases hu
      exact h

theorem CopyOf.updateChannelRow {base c c' : ChannelRow} (h : CopyOf base c) {u : StatusUpdate}
    {b : Bool} (hu : updateChannelRow c u.usingKey u.status u.reason u.now = some (c', b)) :
    CopyOf base c' := by
  unfold TokenRouter.updateChannelRow at hu
  split at hu
  · cases hu
  · split at hu
    · cases hu
      exact h.handler u
    · cases hu
      exact h

/-- The copy that is swapped in shows what was read. -/
theorem shownBy_swapChannel {d : Disabled} {c : ChannelRow} (h : d.ShownBy c) (old : ChannelRow) :
    d.ShownBy (swapChannel old c) := by
  refine h.congr (swapChannel_status old c) fun i => ?_
  unfold swapChannel ChannelInfo.keyStatus
  split
  · rfl
  · rfl

/-! ## The invariant -/

variable (base : ChannelRow)

/-- All copies have the keys of the channel; what is disabled shows in the copy that new requests
    see; with the memory cache on at most one call is under way, and a disable under way already
    shows in the cached object. -/
structure Inv (s : DisableRace) : Prop where
  calls : s.channel.CallsOk fun _ => True
  cached : CopyOf base s.channel.cached
  row : CopyOf base s.channel.row
  saving : ∀ call u c, s.channel.calls call = some (.saving u c) → CopyOf base c
  rebuilds : ∀ r c, s.rebuilds r = some c → CopyOf base c
  loads : ∀ r c, s.loads r = some c → CopyOf base c
  single : base.channelInfo.isMultiKey = false → ∀ i, s.disabled.key i = false
  shown : s.disabled.ShownBy s.channel.view
  oneCall : s.channel.memoryCache = true → ∀ call p, s.channel.calls call = some p →
    s.channel.locked = true ∧ ∀ call' p', s.channel.calls call' = some p' → call' = call
  pending : s.channel.memoryCache = true → ∀ call p, s.channel.calls call = some p →
    p.update.status ≠ .enabled →
    (({} : Disabled).add (base.target p.update.usingKey)).ShownBy s.channel.cached

variable {base}

theorem inv_init (memoryCache : Bool) : Inv base (init memoryCache base) where
  calls := ChannelState.callsOk_init memoryCache base
  cached := ⟨rfl, rfl⟩
  row := ⟨rfl, rfl⟩
  saving := fun _ _ _ h => by cases h
  rebuilds := fun _ _ h => by cases h
  loads := fun _ _ h => by cases h
  single := fun _ _ => rfl
  shown := ⟨fun h => absurd h Bool.false_ne_true, fun _ h => absurd h Bool.false_ne_true⟩
  oneCall := fun _ _ _ h => by cases h
  pending := fun _ _ _ h => by cases h

/-- What is disabled shows in the copy that requests see, so it is not selected. -/
theorem safe_of_inv {s : DisableRace} (h : Inv base s) : s.Safe := by
  have hview : CopyOf base s.channel.view := by
    unfold ChannelState.view
    split
    · exact h.cached
    · exact h.row
  refine ⟨?_, ?_⟩
  · intro hc
    have hstatus := h.shown.1 hc
    unfold ChannelState.offered
    unfold ChannelState.view at hstatus
    split
    · next hm =>
      rw [if_pos hm] at hstatus
      simp [hstatus]
    · next hm =>
      rw [if_neg hm] at hstatus
      simp [hstatus]
  · intro draw i hi
    unfold ChannelState.select at hi
    split at hi
    · cases hkey : getNextEnabledKey s.channel.view
          s.channel.view.channelInfo.multiKeyPollingIndex draw with
      | error err =>
        rw [hkey] at hi
        cases hi
      | ok p =>
        obtain ⟨j, updated⟩ := p
        rw [hkey] at hi
        cases hi
        cases hmulti : base.channelInfo.isMultiKey with
        | false => exact h.single hmulti i
        | true =>
          have henabled := (getNextEnabledKey_ok hkey).1 (hview.2.trans hmulti)
          by_contra hd
          exact h.shown.2 i (by simpa using hd) henabled.2
    · cases hi

/-! ## One step -/

/-- A call that ends, or changes what it is about to do. -/
theorem inv_setCall {s : DisableRace} (h : Inv base s) (call : Nat) (p : Option PendingStatus)
    (locked : Bool)
    (hok : ({ s.channel with
      locked := locked
      calls := Function.update s.channel.calls call p } : ChannelState).CallsOk fun _ => True)
    (hp : ∀ q, p = some q → ∃ q', s.channel.calls call = some q' ∧ q'.update = q.update ∧
      locked = s.channel.locked)
    (hfree : p = none → ∃ q', s.channel.calls call = some q')
    (hsaving : ∀ u c, p = some (.saving u c) → CopyOf base c) :
    Inv base { s with
      channel := { s.channel with
        locked := locked
        calls := Function.update s.channel.calls call p } } := by
  -- a call under way afterwards was under way before
  have hback : s.channel.memoryCache = true → ∀ call' q,
      Function.update s.channel.calls call p call' = some q →
      ∃ q', s.channel.calls call' = some q' ∧ q'.update = q.update ∧
        locked = s.channel.locked := by
    intro hm call' q hq
    by_cases hc : call' = call
    · subst hc
      rw [Function.update_self] at hq
      exact hp q hq
    · rw [Function.update_of_ne hc] at hq
      cases hpq : p with
      | none =>
        obtain ⟨q', hq'⟩ := hfree hpq
        exact absurd ((h.oneCall hm call q' hq').2 call' q hq) hc
      | some q₀ =>
        obtain ⟨q', hq', -, hlocked⟩ := hp q₀ hpq
        exact ⟨q, hq, rfl, hlocked⟩
  refine ⟨hok, h.cached, h.row, ?_, h.rebuilds, h.loads, h.single, h.shown, ?_, ?_⟩
  · intro call' u c hq
    have hq : Function.update s.channel.calls call p call' = some (.saving u c) := hq
    by_cases hc : call' = call
    · subst hc
      rw [Function.update_self] at hq
      exact hsaving u c hq
    · rw [Function.update_of_ne hc] at hq
      exact h.saving call' u c hq
  · intro hm call' q hq
    obtain ⟨q', hq', -, hlocked⟩ := hback hm call' q hq
    obtain ⟨hl, hone⟩ := h.oneCall hm call' q' hq'
    refine ⟨hlocked.trans hl, ?_⟩
    intro call'' q'' hq''
    obtain ⟨r, hr, -, -⟩ := hback hm call'' q'' hq''
    exact hone call'' r hr
  · intro hm call' q hq hu
    obtain ⟨q', hq', hupdate, -⟩ := hback hm call' q hq
    rw [← hupdate]
    exact h.pending hm call' q' hq' (by rw [hupdate]; exact hu)

/-- A call begins. -/
theorem inv_update {s : DisableRace} (h : Inv base s) (call : Nat) (u : StatusUpdate) :
    Inv base (step s (.update call u)) := by
  have hok := ChannelState.CallsOk.start (u := u) h.calls call trivial
  cases hfree : s.channel.free call with
  | false =>
    have hsame : step s (.update call u) = s := by
      simp [step, enablesCached, ChannelState.start, hfree]
    rw [hsame]
    exact h
  | true =>
    cases hm : s.channel.memoryCache with
    | false =>
      have hstep : step s (.update call u) = { s with
          channel := { s.channel with
            calls := Function.update s.channel.calls call (some (.loading u)) } } := by
        simp [step, enablesCached, ChannelState.start, hfree, hm]
      have hcallsOk : ({ s.channel with
          calls := Function.update s.channel.calls call
            (some (.loading u)) } : ChannelState).CallsOk fun _ => True := by
        simpa [ChannelState.start, hfree, hm] using hok
      rw [hstep]
      refine ⟨hcallsOk, h.cached, h.row, ?_, h.rebuilds, h.loads, h.single, h.shown, ?_, ?_⟩
      · intro call' u' c hc'
        by_cases hc : call' = call
        · subst hc
          simp at hc'
        · exact h.saving call' u' c (by simpa [hc] using hc')
      · intro hm'
        exact absurd (hm.symm.trans hm') Bool.false_ne_true
      · intro hm'
        exact absurd (hm.symm.trans hm') Bool.false_ne_true
    | true =>
      cases hu : updateCachedChannel s.channel.cached u.usingKey u.status u.reason u.now with
      | none =>
        have hsame : step s (.update call u) = s := by
          simp [step, enablesCached, ChannelState.start, hfree, hm, hu]
        rw [hsame]
        exact h
      | some cached =>
        -- the lock was free, so no call was under way
        have hnone : ∀ call' p, s.channel.calls call' = some p → False := by
          intro call' p hp
          have hl := (h.oneCall hm call' p hp).1
          simp [ChannelState.free, hm, hl] at hfree
        have htarget := h.cached.target u.usingKey
        have hview : s.channel.view = s.channel.cached := by simp [ChannelState.view, hm]
        have hshown := h.shown
        rw [hview] at hshown
        have hcomplete := (hshown.mono (Disabled.release_le _
          (s.channel.cached.target u.usingKey) u.status)).updateCachedChannel hu
        have hstart : s.channel.start call u = { s.channel with
            cached := cached
            listed := s.channel.listed &&
              (cached.status = s.channel.cached.status || cached.status = .enabled)
            locked := true
            calls := Function.update s.channel.calls call (some (.loading u)) } := by
          simp [ChannelState.start, hfree, hm, hu]
        have hcalls : ∀ call' p, (s.channel.start call u).calls call' = some p →
            call' = call ∧ p = .loading u := by
          intro call' p hp
          rw [hstart] at hp
          by_cases hc : call' = call
          · subst hc
            simp only [Function.update_self, Option.some.injEq] at hp
            exact ⟨rfl, hp.symm⟩
          · simp only [Function.update_of_ne hc] at hp
            exact (hnone call' p hp).elim
        refine ⟨hok, ?_, ?_, ?_, h.rebuilds, h.loads, ?_, ?_, ?_, ?_⟩
        · simp only [step, hstart]
          exact h.cached.updateCachedChannel hu
        · simp only [step, hstart]
          exact h.row
        · intro call' u' c hc'
          have := (hcalls call' _ hc').2
          cases this
        · intro hsingle i
          have hi := h.single hsingle i
          simp only [step]
          split
          · by_contra hne
            have := (Disabled.release_le _ _ _).2 i (by simpa using hne)
            rw [hi] at this
            cases this
          · exact hi
        · have hview' : (s.channel.start call u).view = cached := by
            rw [hstart]
            simp [ChannelState.view, hm]
          simp only [step]
          rw [hview']
          unfold Disabled.complete at hcomplete
          have henables : s.enablesCached call u = decide (u.status = .enabled) := by
            simp [enablesCached, hm, hfree, hu]
          rw [henables]
          by_cases hen : u.status = .enabled
          · rw [if_pos hen] at hcomplete
            rw [if_pos (by simpa using hen)]
            exact hcomplete
          · rw [if_neg hen] at hcomplete
            rw [if_neg (by simpa using hen)]
            exact (Disabled.shownBy_add.mp hcomplete).1
        · intro _ call' p hp
          obtain ⟨rfl, -⟩ := hcalls call' p hp
          refine ⟨by simp [step, hstart], ?_⟩
          intro call'' p' hp'
          exact (hcalls call'' p' hp').1
        · intro _ call' p hp hne
          obtain ⟨-, rfl⟩ := hcalls call' p hp
          have hne : u.status ≠ .enabled := hne
          simp only [step, hstart]
          unfold Disabled.complete at hcomplete
          rw [if_neg hne, htarget] at hcomplete
          exact (Disabled.shownBy_add.mp hcomplete).2

/-- A call loads the row. -/
theorem inv_load {s : DisableRace} (h : Inv base s) (call : Nat) :
    Inv base (step s (.load call)) := by
  have hok := ChannelState.CallsOk.load h.calls call
  simp only [step]
  unfold ChannelState.load at hok ⊢
  cases hc : s.channel.calls call with
  | none => exact h
  | some p =>
    rw [hc] at hok
    cases p with
    | saving u loaded => exact h
    | loading u =>
      dsimp only at hok ⊢
      split
      · next hnone =>
        rw [if_pos hnone] at hok
        refine inv_setCall h call none false hok ?_ ?_ ?_
        · intro q hq
          cases hq
        · intro _
          exact ⟨_, hc⟩
        · intro u' c hq
          cases hq
      · next hsome =>
        rw [if_neg hsome] at hok
        refine inv_setCall h call (some (.saving u s.channel.row)) s.channel.locked hok ?_ ?_ ?_
        · intro q hq
          cases hq
          exact ⟨_, hc, rfl, rfl⟩
        · intro hq
          cases hq
        · intro u' c hq
          cases hq
          exact h.row

/-- A call saves its row and returns. -/
theorem inv_save {s : DisableRace} (h : Inv base s) {call : Nat}
    (hpres : Preserves s (.save call)) : Inv base (step s (.save call)) := by
  cases hc : s.channel.calls call with
  | none =>
    simp only [step, hc]
    exact h
  | some p =>
    cases p with
    | loading u =>
      simp only [step, hc]
      exact h
    | saving u loaded =>
      obtain ⟨⟨row, b⟩, hr⟩ :=
        Option.isSome_iff_exists.mp ((h.calls call _ hc).2 u loaded rfl)
      have hloaded := h.saving call u loaded hc
      have hrowCopy := hloaded.updateChannelRow hr
      -- the call returns; the row is written and its target recorded
      have hreturned : Inv base { s with channel := s.channel.finish call } := by
        refine inv_setCall h call none false (h.calls.finish call) ?_ ?_ ?_
        · intro q hq
          cases hq
        · intro _
          exact ⟨_, hc⟩
        · intro u' c hq
          cases hq
      have hstep : step s (.save call) = { s with
          channel := { s.channel.finish call with row := row }
          disabled := s.disabled.complete (loaded.target u.usingKey) u.status } := by
        simp only [step, hc, ChannelState.save, hr, ChannelState.finish]
      rw [hstep]
      refine ⟨hreturned.calls, hreturned.cached, hrowCopy, hreturned.saving, hreturned.rebuilds,
        hreturned.loads, ?_, ?_, hreturned.oneCall, hreturned.pending⟩
      · intro hsingle i
        by_contra hne
        have hadd := (Disabled.complete_le_add _ _ _).2 i (by simpa using hne)
        have htarget : loaded.target u.usingKey = .channel := by
          simp [ChannelRow.target, hloaded.2, hsingle]
        rw [htarget] at hadd
        rw [show (s.disabled.add .channel).key i = s.disabled.key i from rfl,
          h.single hsingle i] at hadd
        cases hadd
      · cases hm : s.channel.memoryCache with
        | true =>
          -- the cached object has shown the target since the call began
          have hview : ChannelState.view { s.channel.finish call with row := row } =
              s.channel.cached := by simp [ChannelState.view, ChannelState.finish, hm]
          have hshown := h.shown
          rw [show s.channel.view = s.channel.cached by simp [ChannelState.view, hm]] at hshown
          rw [hview]
          by_cases hen : u.status = .enabled
          · unfold Disabled.complete
            rw [if_pos hen]
            exact hshown.mono (Disabled.release_le _ _ _)
          · refine Disabled.ShownBy.mono ?_ (Disabled.complete_le_add _ _ _)
            have hpending := h.pending hm call _ hc hen
            rw [Disabled.shownBy_add, hloaded.target]
            exact ⟨hshown, hpending⟩
        | false =>
          have hview : ChannelState.view { s.channel.finish call with row := row } = row := by
            simp [ChannelState.view, ChannelState.finish, hm]
          rw [hview]
          exact (hpres u loaded hc hm).updateChannelRow hr

/-- A rebuild swaps its maps in. -/
theorem inv_swapMaps {s : DisableRace} (h : Inv base s) {rebuild : Nat}
    (hpres : Preserves s (.swapMaps rebuild)) : Inv base (step s (.swapMaps rebuild)) := by
  cases hr : s.rebuilds rebuild with
  | none =>
    simp only [step, hr]
    exact h
  | some read =>
    have hread := h.rebuilds rebuild read hr
    simp only [step, hr, ChannelState.swap]
    refine ⟨h.calls, hread.swapChannel _, h.row, h.saving, h.rebuilds, h.loads, h.single, ?_,
      h.oneCall, ?_⟩
    · cases hm : s.channel.memoryCache with
      | true =>
        have hshown := shownBy_swapChannel (hpres read hr hm).1 s.channel.cached
        simpa [ChannelState.view, hm] using hshown
      | false =>
        have hshown := h.shown
        simpa [ChannelState.view, hm] using hshown
    · intro hm call p hp hne
      have hcalls := (hpres read hr hm).2 call p hp hne
      rw [hread.target] at hcalls
      exact shownBy_swapChannel hcalls s.channel.cached

/-- A polling request saves the channel information it has loaded. -/
theorem inv_nextKey {s : DisableRace} (h : Inv base s) {request draw : Nat}
    (hpres : Preserves s (.nextKey request draw)) :
    Inv base (step s (.nextKey request draw)) := by
  cases hl : s.loads request with
  | none =>
    simp only [step, hl]
    exact h
  | some loaded =>
    have hloaded := h.loads request loaded hl
    simp only [step, hl, saveChannelInfo]
    split
    · exact h
    · next j updated hkey =>
      obtain ⟨-, index, rfl⟩ := getNextEnabledKey_ok hkey
      split
      · next hsave =>
        simp only [Bool.and_eq_true, Bool.not_eq_true', decide_eq_true_eq] at hsave
        obtain ⟨⟨hm, hmulti⟩, hmode⟩ := hsave
        refine ⟨h.calls, h.cached, ⟨h.row.1, hloaded.2⟩, h.saving, h.rebuilds, h.loads, h.single,
          ?_, h.oneCall, h.pending⟩
        have hshown := h.shown
        simp only [ChannelState.view, hm, Bool.false_eq_true, if_false] at hshown ⊢
        exact ⟨hshown.1, hpres loaded hl hm hmode⟩
      · exact h

/-- The polling index of the cached object is no status. -/
theorem inv_nextCachedKey {s : DisableRace} (h : Inv base s) (draw : Nat) :
    Inv base (step s (.nextCachedKey draw)) := by
  simp only [step, pollCached]
  split
  · exact h
  · next j updated hkey =>
    obtain ⟨-, index, rfl⟩ := getNextEnabledKey_ok hkey
    refine ⟨h.calls, h.cached, h.row, h.saving, h.rebuilds, h.loads, h.single, ?_, h.oneCall, ?_⟩
    · have hshown := h.shown
      unfold ChannelState.view at hshown ⊢
      split
      · next hm =>
        rw [if_pos hm] at hshown
        exact hshown.congr rfl fun _ => rfl
      · next hm =>
        rw [if_neg hm] at hshown
        exact hshown
    · intro hm call p hp hne
      exact (h.pending hm call p hp hne).congr rfl fun _ => rfl

theorem inv_step (s : DisableRace) (e : DisableEvent) (h : Inv base s) (hpres : Preserves s e) :
    Inv base (step s e) := by
  cases e with
  | update call u => exact inv_update h call u
  | load call => exact inv_load h call
  | save call => exact inv_save h hpres
  | readTables rebuild =>
    refine ⟨h.calls, h.cached, h.row, h.saving, ?_, h.loads, h.single, h.shown, h.oneCall,
      h.pending⟩
    intro r c hc
    by_cases hr : r = rebuild
    · subst hr
      simp only [step, Function.update_self, Option.some.injEq] at hc
      exact hc ▸ h.row
    · simp only [step, Function.update_of_ne hr] at hc
      exact h.rebuilds r c hc
  | swapMaps rebuild => exact inv_swapMaps h hpres
  | loadChannel request =>
    refine ⟨h.calls, h.cached, h.row, h.saving, h.rebuilds, ?_, h.single, h.shown, h.oneCall,
      h.pending⟩
    intro r c hc
    by_cases hr : r = request
    · subst hr
      simp only [step, Function.update_self, Option.some.injEq] at hc
      exact hc ▸ h.row
    · simp only [step, Function.update_of_ne hr] at hc
      exact h.loads r c hc
  | nextKey request draw => exact inv_nextKey h hpres
  | nextCachedKey draw => exact inv_nextCachedKey h draw

/-! ## Runs -/

/-- Whatever the order of the steps, nothing disabled is selected as long as no step puts back a
    copy that lacks a disable. -/
theorem no_disabled_selected (memoryCache : Bool) (row : ChannelRow) (es : List DisableEvent)
    (h : Run.Steps step Preserves (init memoryCache row) es) :
    Run.Always step Safe (init memoryCache row) es := by
  have hinv : Run.Always step (Inv row) (init memoryCache row) es :=
    Run.always_of_steps (fun s e hs hp => inv_step s e hs hp) (inv_init memoryCache) h
  exact hinv.mono fun _ => safe_of_inv

/-- A rebuild that reads the tables after the disable has returned keeps the channel out. -/
theorem later_rebuild_safe :
    let channel : ChannelRow := { id := 1, keys := ["sk"] }
    Run.Always step Safe (init true channel)
      [.update 0 ⟨"sk", .autoDisabled, "401", 10⟩, .load 0, .save 0, .readTables 0,
        .swapMaps 0] := by
  refine no_disabled_selected true _ _ ⟨trivial, trivial, ?_, trivial, ?_, trivial⟩
  · intro u loaded _ hm
    exact absurd hm (by decide)
  · intro read hr _
    have hread : read.status ≠ .enabled := by
      have hstatus := congrArg (Option.map ChannelRow.status) hr
      intro hen
      rw [Option.map_some, hen] at hstatus
      revert hstatus
      decide
    refine ⟨⟨fun _ => hread, fun i hi => ?_⟩, fun call p hp _ => ?_⟩
    · exact absurd hi Bool.false_ne_true
    · by_cases hc : call = 0
      · subst hc
        cases hp
      · simp [step, ChannelState.save, ChannelState.load, ChannelState.start, ChannelState.free, init,
          ChannelState.init, updateCachedChannel, updateChannelRow, ChannelState.finish] at hp

/-! ## Two lost disables -/

/-- A rebuild that has read the tables before a disable puts the enabled channel back; a polling
    request that has loaded the channel before a key is disabled puts the enabled key back. -/
theorem rebuild_and_polling_undo_disable :
    let channel : ChannelRow := { id := 1, keys := ["sk"] }
    let polling : ChannelRow :=
      { id := 2, keys := ["k0", "k1"], channelInfo :=
          { isMultiKey := true, multiKeySize := 2, multiKeyMode := .polling,
            multiKeyPollingIndex := 1 } }
    ¬ Run.Always step Safe (init true channel)
        [.readTables 0, .update 0 ⟨"sk", .autoDisabled, "401", 10⟩, .load 0, .save 0,
          .swapMaps 0] ∧
      ¬ Run.Always step Safe (init false polling)
        [.loadChannel 0, .update 0 ⟨"k0", .autoDisabled, "401", 10⟩, .load 0, .save 0,
          .nextKey 0 0] := by
  refine ⟨?_, ?_⟩
  · intro h
    have hoffered := h.last.1 (by decide)
    revert hoffered
    decide
  · intro h
    have hkey := h.last.2 0 0 (by decide)
    revert hkey
    decide

end DisableRace

end TokenRouter
