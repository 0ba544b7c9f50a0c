import TokenRouter.ForStd.Run
import TokenRouter.Service.Channel

/-!
# An operator's decision against automatic status changes

`OperatorRace` is one channel with the calls of `UpdateChannelStatus` under way: failing
requests disable it, health tests that read it earlier enable it, and operators replace it.
A call works on the cached channel, loads the row, and saves the row it has loaded; only the
calls among themselves are kept apart by a lock, and only with the memory cache on.

## Key results

- `handler_manual_iff`: which status updates leave a channel manually disabled
- `stands_step_iff`: one step
- `decision_stands_iff_updates_respect`: the equivalence over every interleaving
- `disabled_by_operator_enabled_by_test`: from manually disabled over automatically disabled
  to enabled
-/

namespace TokenRouter

/-! ## Which updates leave a channel manually disabled -/

/-- The update is about a channel with several keys that is manually disabled, and it is about
    none of its keys, or disables one of them and leaves another one enabled. -/
def KeepsManual (channel : ChannelRow) (u : StatusUpdate) : Prop :=
  channel.status = .manuallyDisabled ∧ channel.channelInfo.isMultiKey = true ∧
    match channel.keyIndex u.usingKey with
    | none => channel.keys ≠ [] ∧ u.usingKey ≠ ""
    | some i => u.status ≠ .enabled ∧
        ∃ j < channel.keys.length, j ≠ i ∧ channel.channelInfo.keyStatus j = .enabled

/-- A key that is not enabled itself leaves an enabled key exactly when there is another one. -/
theorem hasEnabledMultiKey_setKeyStatus {keys : List String} {info : ChannelInfo} {i : Nat}
    {u : StatusUpdate} (hu : u.status ≠ .enabled) :
    hasEnabledMultiKey keys (info.setKeyStatus i u.status u.reason u.now) = true ↔
      ∃ j < keys.length, j ≠ i ∧ info.keyStatus j = .enabled := by
  rw [hasEnabledMultiKey_iff]
  refine exists_congr fun j => and_congr_right fun _ => ?_
  rw [ChannelInfo.keyStatus_setKeyStatus]
  by_cases hj : j = i
  · simp [hj, hu]
  · simp [hj]

theorem handler_manual_iff {channel : ChannelRow} {u : StatusUpdate}
    (hmulti : channel.channelInfo.isMultiKey = true) (hu : u.status ≠ .manuallyDisabled) :
    (handlerMultiKeyUpdate channel u.usingKey u.status u.reason u.now).status =
      .manuallyDisabled ↔ KeepsManual channel u := by
  unfold KeepsManual
  simp only [hmulti, true_and]
  cases hi : channel.keyIndex u.usingKey with
  | none =>
    rw [handlerMultiKeyUpdate_of_none _ _ _ hi]
    by_cases hnil : channel.keys = []
    · simp [hnil, hu]
    · by_cases hk : u.usingKey = ""
      · simp [hnil, hk, hu, ChannelRow.setStatus]
      · simp [hnil, hk]
  | some i =>
    rw [handlerMultiKeyUpdate_status _ _ _ hi]
    dsimp only
    by_cases hen : u.status = .enabled
    · simp only [hen, ne_eq, not_true, false_and, and_false, iff_false]
      split
      · decide
      · simp
    · rw [← hasEnabledMultiKey_setKeyStatus hen, if_neg hen]
      cases hasEnabledMultiKey channel.keys
          (channel.channelInfo.setKeyStatus i u.status u.reason u.now) with
      | false => simp
      | true => simp [hen]

/-- The cached side, for an update that does not ask for the manually disabled status. -/
theorem updateCachedChannel_manual_iff {cached updated : ChannelRow} {u : StatusUpdate}
    (hu : u.status ≠ .manuallyDisabled)
    (h : updateCachedChannel cached u.usingKey u.status u.reason u.now = some updated) :
    updated.status = .manuallyDisabled ↔ KeepsManual cached u := by
  unfold updateCachedChannel at h
  by_cases hmulti : cached.channelInfo.isMultiKey = true
  · rw [if_pos hmulti] at h
    cases h
    exact handler_manual_iff hmulti hu
  · rw [if_neg hmulti] at h
    split at h
    · cases h
    · cases h
      simp [KeepsManual, hmulti, hu]

/-- The side of the row. -/
theorem updateChannelRow_manual_iff {channel updated : ChannelRow} {u : StatusUpdate} {b : Bool}
    (hu : u.status ≠ .manuallyDisabled)
    (h : updateChannelRow channel u.usingKey u.status u.reason u.now = some (updated, b)) :
    updated.status = .manuallyDisabled ↔ KeepsManual channel u := by
  unfold updateChannelRow at h
  by_cases hs : channel.status = u.status
  · rw [if_pos hs] at h
    cases h
  · rw [if_neg hs] at h
    by_cases hmulti : channel.channelInfo.isMultiKey = true
    · rw [if_pos hmulti] at h
      cases h
      exact handler_manual_iff hmulti hu
    · rw [if_neg hmulti] at h
      cases h
      simp [KeepsManual, hmulti, hu, ChannelRow.setStatus]

/-! ## Interleaved calls -/

/-- One channel, the health tests that have read its status, and the calls under way.
    `decided` holds when the last operator action on the channel has set it to manually
    disabled. -/
structure OperatorRace where
  channel : ChannelState
  decided : Bool := false
  tests : Nat → Option ChannelStatus := fun _ => none

/-- What happens to the channel. -/
inductive OperatorEvent where
  /-- an operator replaces the row and reloads the cache -/
  | operator (row : ChannelRow)
  /-- `SyncChannelCache` -/
  | sync
  /-- `testAllChannels` reads the channel -/
  | startTest (test : Nat)
  /-- the end of a test: `EnableChannel` begins if `ShouldEnableChannel` says so -/
  | endTest (test call : Nat) (err : Option APIError) (usingKey : String) (now : Int)
  /-- a request has failed: `processChannelError`, and `DisableChannel` begins -/
  | fail (call : Nat) (channelError : ChannelError) (err : APIError) (now : Int)
  /-- a call loads the row -/
  | load (call : Nat)
  /-- a call saves the row it has loaded -/
  | save (call : Nat)

namespace OperatorRace

/-- `UpdateChannelStatus` begins. -/
def start (s : OperatorRace) (call : Nat) (u : StatusUpdate) : OperatorRace :=
  { s with channel := s.channel.start call u }

variable (setting : ChannelMonitorSetting)

/-- One step. -/
def step (s : OperatorRace) : OperatorEvent → OperatorRace
  | .operator row =>
    { s with
      channel := { s.channel with row := row }.swap row
      decided := row.status = .manuallyDisabled }
  | .sync => { s with channel := s.channel.swap s.channel.row }
  | .startTest test =>
    { s with tests := Function.update s.tests test (some s.channel.row.status) }
  | .endTest test call err usingKey now =>
    match s.tests test with
    | none => s
    | some status =>
      if shouldEnableChannel setting err status then s.start call (enableChannel usingKey now)
      else s
  | .fail call channelError err now =>
    match processChannelError setting channelError err now with
    | none => s
    | some u => s.start call u
  | .load call => { s with channel := s.channel.load call }
  | .save call => { s with channel := s.channel.save call }

/-- A channel before any operator action, with no call and no test under way. -/
def init (memoryCache : Bool) (row : ChannelRow) : OperatorRace :=
  { channel := .init memoryCache row }

/-- The operator's decision stands: the channel is manually disabled in the database, and in
    the cache where there is one. -/
def Stands (s : OperatorRace) : Prop :=
  s.decided = true → s.channel.row.status = .manuallyDisabled ∧
    (s.channel.memoryCache = true → s.channel.cached.status = .manuallyDisabled)

/-! ## The condition -/

/-- An automatic update that begins finds a cached channel that it leaves as decided. -/
def StartRespects (s : OperatorRace) (call : Nat) (u : StatusUpdate) : Prop :=
  s.channel.free call = true → s.channel.memoryCache = true → s.decided = true →
    KeepsManual s.channel.cached u

/-- No automatic update of the cached channel, and no save of a loaded row, takes the channel
    out of the decided status. -/
def Respects (s : OperatorRace) : OperatorEvent → Prop
  | .endTest test call err usingKey now => ∀ status, s.tests test = some status →
      shouldEnableChannel setting err status = true →
      s.StartRespects call (enableChannel usingKey now)
  | .fail call channelError err now => ∀ u,
      processChannelError setting channelError err now = some u → s.StartRespects call u
  | .save call => ∀ u loaded, s.channel.calls call = some (.saving u loaded) →
      s.decided = true → KeepsManual loaded u
  | _ => True

/-! ## The invariant -/

/-- No call under way asks for the manually disabled status. -/
def Inv (s : OperatorRace) : Prop :=
  s.channel.CallsOk fun u => u.status ≠ .manuallyDisabled

theorem inv_init (memoryCache : Bool) (row : ChannelRow) : Inv (init memoryCache row) :=
  ChannelState.callsOk_init memoryCache row

theorem inv_step (s : OperatorRace) (e : OperatorEvent) (h : Inv s) : Inv (step setting s e) := by
  cases e with
  | operator row => exact h
  | sync => exact h
  | startTest test => exact h
  | endTest test call err usingKey now =>
    simp only [step]
    split
    · exact h
    · split
      · apply ChannelState.CallsOk.start h
        simp
      · exact h
  | fail call channelError err now =>
    simp only [step]
    split
    · exact h
    · next u hu =>
      apply ChannelState.CallsOk.start h
      rw [processChannelError_status hu]
      decide
  | load call => exact ChannelState.CallsOk.load h call
  | save call => exact ChannelState.CallsOk.save h call

/-! ## One step -/

theorem stands_start_iff {s : OperatorRace} (hs : s.Stands) (call : Nat) {u : StatusUpdate}
    (hu : u.status ≠ .manuallyDisabled) :
    (s.start call u).Stands ↔ s.StartRespects call u := by
  obtain ⟨hrow, hcache⟩ := s.channel.start_frame call u
  unfold Stands StartRespects start
  dsimp only
  rw [hrow, hcache]
  by_cases hd : s.decided = true
  · have hstatus := (hs hd).1
    simp only [hd, hstatus, forall_const, true_and]
    by_cases hm : s.channel.memoryCache = true
    · have hcached := (hs hd).2 hm
      simp only [hm, forall_const]
      unfold ChannelState.start
      cases hfree : s.channel.free call with
      | false => simpa using hcached
      | true =>
        simp only [Bool.not_true, Bool.false_eq_true, if_false, hm, if_true, forall_const]
        cases hu' : updateCachedChannel s.channel.cached u.usingKey u.status u.reason u.now with
        | none =>
          -- a cached channel with one key that already has the status asked for
          exfalso
          unfold updateCachedChannel at hu'
          split at hu'
          · cases hu'
          · split at hu'
            · next heq => exact hu (heq.symm.trans hcached)
            · cases hu'
        | some cached => exact updateCachedChannel_manual_iff hu hu'
    · simp [hm]
  · simp [hd]

theorem stands_step_iff {s : OperatorRace} (hinv : Inv s) (hs : s.Stands) (e : OperatorEvent) :
    (step setting s e).Stands ↔ Respects setting s e := by
  cases e with
  | operator row =>
    refine iff_of_true ?_ trivial
    intro hd
    have hstatus : row.status = .manuallyDisabled := by simpa [step] using hd
    exact ⟨hstatus, fun _ => (swapChannel_status _ _).trans hstatus⟩
  | sync =>
    refine iff_of_true ?_ trivial
    intro hd
    have hstatus := (hs hd).1
    exact ⟨hstatus, fun _ => (swapChannel_status _ _).trans hstatus⟩
  | startTest test => exact iff_of_true hs trivial
  | endTest test call err usingKey now =>
    simp only [step, Respects]
    cases ht : s.tests test with
    | none => exact iff_of_true hs fun status h => by cases h
    | some status =>
      dsimp only
      cases hshould : shouldEnableChannel setting err status with
      | false =>
        refine iff_of_true hs ?_
        intro status' h' htrue
        cases h'
        rw [hshould] at htrue
        cases htrue
      | true =>
        rw [if_pos rfl, stands_start_iff hs call (by simp)]
        constructor
        · intro h status' _ _
          exact h
        · intro h
          exact h status rfl hshould
  | fail call channelError err now =>
    simp only [step, Respects]
    cases hp : processChannelError setting channelError err now with
    | none => exact iff_of_true hs fun u h => by cases h
    | some u =>
      dsimp only
      rw [stands_start_iff hs call (by rw [processChannelError_status hp]; decide)]
      constructor
      · intro h u' hu'
        cases hu'
        exact h
      · intro h
        exact h u rfl
  | load call =>
    refine iff_of_true ?_ trivial
    obtain ⟨hrow, hcached, hcache⟩ := s.channel.load_frame call
    unfold Stands
    simp only [step]
    rw [hrow, hcached, hcache]
    exact hs
  | save call =>
    simp only [step, Respects, ChannelState.save]
    cases hc : s.channel.calls call with
    | none => exact iff_of_true hs fun u loaded h => by cases h
    | some p =>
      cases p with
      | loading u => exact iff_of_true hs fun u' loaded h => by cases h
      | saving u loaded =>
        obtain ⟨hu, hsome⟩ := hinv call _ hc
        obtain ⟨⟨row, b⟩, hr⟩ := Option.isSome_iff_exists.mp (hsome u loaded rfl)
        dsimp only
        rw [hr]
        dsimp only
        have hrow := updateChannelRow_manual_iff hu hr
        constructor
        · intro h u' loaded' heq hd
          cases heq
          exact hrow.mp (h hd).1
        · intro h hd
          exact ⟨hrow.mpr (h u loaded rfl hd), (hs hd).2⟩

/-- The operator's decision stands throughout a run exactly when every automatic update respects
    it. -/
theorem decision_stands_iff_updates_respect (memoryCache : Bool) (row : ChannelRow)
    (es : List OperatorEvent) :
    Run.Always (step setting) Stands (init memoryCache row) es ↔
      Run.Steps (step setting) (Respects setting) (init memoryCache row) es := by
  have hinv := inv_step setting
  have hstep : ∀ s e, Inv s → Stands s → (Stands (step setting s e) ↔ Respects setting s e) :=
    fun s e h hs => stands_step_iff setting h hs e
  have hstands : Stands (init memoryCache row) := by
    intro hd
    cases hd
  exact Run.always_iff_steps hinv hstep (inv_init memoryCache row) hstands es

/-! ## A lost decision -/

/-- Automatic disabling and enabling are on. -/
def automatic : ChannelMonitorSetting :=
  { automaticDisableChannelEnabled := true, automaticEnableChannelEnabled := true }

/-- A request fails after an operator has disabled its channel; the channel becomes
    automatically disabled, and the next health test enables it. -/
theorem disabled_by_operator_enabled_by_test :
    let channel : ChannelRow := { id := 1, keys := ["sk"] }
    let events : List OperatorEvent :=
      [.operator { channel with status := .manuallyDisabled },
        .fail 0 { usingKey := "sk", autoBan := true } { statusCode := 401 } 10, .load 0, .save 0,
        .startTest 0, .endTest 0 1 none "sk" 20, .load 1, .save 1]
    let final := Run.run (step automatic) (init true channel) events
    final.decided = true ∧ final.channel.row.status = .enabled ∧
      ¬ Run.Always (step automatic) Stands (init true channel) events := by
  refine ⟨by decide, by decide, ?_⟩
  intro h
  have hlast := (h.last (by decide)).1
  revert hlast
  decide

end OperatorRace

end TokenRouter
