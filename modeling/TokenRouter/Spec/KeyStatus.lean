import TokenRouter.ForStd.Run
import TokenRouter.Model.ChannelCache

/-!
# The two copies of a channel with several keys

`UpdateChannelStatus` applies one transition to the cached channel and to the row of the
database. The cached side applies it always; the row side returns at once when the channel
already has the status requested for the key, although that is another notion of status. The
copies agree exactly as long as the calls that return there had nothing to do.

## Key results

- `ChannelCopies.agree_step_iff`: which call keeps the copies equal
- `copies_agree_iff_updates_land`: the same over every sequence of calls
- `enabled_key_lost_on_sync`: a key enabled in the cache stays disabled in the database
-/

namespace TokenRouter

namespace ChannelCopies

/-- Two copies of one channel with several keys. -/
structure SameKeys (s : ChannelCopies) : Prop where
  multiKey : s.cached.channelInfo.isMultiKey = true
  rowMultiKey : s.row.channelInfo.isMultiKey = true
  keys : s.cached.keys = s.row.keys

/-- Status and status list of the two copies are equal. -/
def Agree (s : ChannelCopies) : Prop :=
  s.cached.status = s.row.status ∧
    s.cached.channelInfo.multiKeyStatusList = s.row.channelInfo.multiKeyStatusList

/-- The update has nothing to do on the row: it is about no key of the channel, or the entry of
    the key is what it asks for and the channel status already follows from the entries. -/
def NothingToDo (s : ChannelCopies) (u : StatusUpdate) : Prop :=
  match s.row.keyIndex u.usingKey with
  | none => True
  | some i =>
    s.row.channelInfo.multiKeyStatusList i = keyEntry u.status ∧
      (s.row.status = .autoDisabled ∨ hasEnabledMultiKey s.row.keys s.row.channelInfo = true)

/-- An update that asks for the current channel status has nothing to do. -/
def Lands (s : ChannelCopies) (u : StatusUpdate) : Prop :=
  s.row.status = u.status → s.NothingToDo u

instance (s : ChannelCopies) (u : StatusUpdate) : Decidable (s.NothingToDo u) :=
  match h : s.row.keyIndex u.usingKey with
  | none => .isTrue (by simp [NothingToDo, h])
  | some i =>
    decidable_of_iff (s.row.channelInfo.multiKeyStatusList i = keyEntry u.status ∧
      (s.row.status = .autoDisabled ∨ hasEnabledMultiKey s.row.keys s.row.channelInfo = true))
      (by simp [NothingToDo, h])

instance (s : ChannelCopies) (u : StatusUpdate) : Decidable (s.Lands u) :=
  inferInstanceAs (Decidable (_ → _))

/-! ## One call -/

/-- The update of a channel with several keys never returns early on the cached side. -/
theorem updateChannelStatus_eq {s : ChannelCopies} (h : s.SameKeys) (u : StatusUpdate) :
    s.updateChannelStatus u =
      { cached := handlerMultiKeyUpdate s.cached u.usingKey u.status u.reason u.now
        row := if s.row.status = u.status then s.row
          else handlerMultiKeyUpdate s.row u.usingKey u.status u.reason u.now } := by
  unfold updateChannelStatus updateCachedChannel updateChannelRow
  rw [if_pos h.multiKey, if_pos h.rowMultiKey]
  by_cases hs : s.row.status = u.status
  · simp [hs]
  · simp [hs]

theorem SameKeys.step {s : ChannelCopies} (h : s.SameKeys) (u : StatusUpdate) :
    (s.updateChannelStatus u).SameKeys := by
  rw [updateChannelStatus_eq h]
  by_cases hs : s.row.status = u.status
  · simp only [if_pos hs]
    exact ⟨by simpa using h.multiKey, h.rowMultiKey, by simpa using h.keys⟩
  · simp only [if_neg hs]
    exact ⟨by simpa using h.multiKey, by simpa using h.rowMultiKey, by simpa using h.keys⟩

/-- Status and status list after an update depend on the keys, the status and the status list
    alone. -/
theorem handler_agree {a b : ChannelRow} (hkeys : a.keys = b.keys) (hstatus : a.status = b.status)
    (hlist : a.channelInfo.multiKeyStatusList = b.channelInfo.multiKeyStatusList)
    (u : StatusUpdate) :
    (handlerMultiKeyUpdate a u.usingKey u.status u.reason u.now).status =
        (handlerMultiKeyUpdate b u.usingKey u.status u.reason u.now).status ∧
      (handlerMultiKeyUpdate a u.usingKey u.status u.reason u.now).channelInfo.multiKeyStatusList =
        (handlerMultiKeyUpdate b u.usingKey u.status u.reason
          u.now).channelInfo.multiKeyStatusList := by
  have hindex : a.keyIndex u.usingKey = b.keyIndex u.usingKey := by
    simp only [ChannelRow.keyIndex, hkeys]
  cases hb : b.keyIndex u.usingKey with
  | none =>
    rw [handlerMultiKeyUpdate_of_none _ _ _ (hindex.trans hb),
      handlerMultiKeyUpdate_of_none _ _ _ hb, hkeys]
    split
    · exact ⟨rfl, hlist⟩
    · split
      · exact ⟨rfl, hlist⟩
      · exact ⟨hstatus, hlist⟩
  | some i =>
    have ha := hindex.trans hb
    have henabled : hasEnabledMultiKey a.keys
        (a.channelInfo.setKeyStatus i u.status u.reason u.now) =
        hasEnabledMultiKey b.keys (b.channelInfo.setKeyStatus i u.status u.reason u.now) := by
      rw [hkeys]
      apply hasEnabledMultiKey_congr
      rw [ChannelInfo.setKeyStatus_list, ChannelInfo.setKeyStatus_list, hlist]
    rw [handlerMultiKeyUpdate_status _ _ _ ha, handlerMultiKeyUpdate_status _ _ _ hb,
      handlerMultiKeyUpdate_list _ _ _ ha, handlerMultiKeyUpdate_list _ _ _ hb, henabled, hlist,
      hstatus]
    exact ⟨rfl, rfl⟩

/-- An update that asks for the status the channel has keeps status and status list exactly
    when it has nothing to do. -/
theorem handler_unchanged_iff {c : ChannelRow} {u : StatusUpdate} (hs : c.status = u.status) :
    ((handlerMultiKeyUpdate c u.usingKey u.status u.reason u.now).status = c.status ∧
      (handlerMultiKeyUpdate c u.usingKey u.status u.reason u.now).channelInfo.multiKeyStatusList =
        c.channelInfo.multiKeyStatusList) ↔
      (⟨c, c⟩ : ChannelCopies).NothingToDo u := by
  unfold NothingToDo
  cases hi : c.keyIndex u.usingKey with
  | none =>
    dsimp only
    rw [handlerMultiKeyUpdate_of_none _ _ _ hi]
    refine iff_true_intro ?_
    split
    · exact ⟨hs.symm, rfl⟩
    · split
      · exact ⟨hs.symm, rfl⟩
      · exact ⟨rfl, rfl⟩
  | some i =>
    dsimp only
    rw [handlerMultiKeyUpdate_status _ _ _ hi, handlerMultiKeyUpdate_list _ _ _ hi,
      Function.update_eq_self_iff, and_comm, eq_comm (a := keyEntry u.status)]
    refine and_congr_right fun hentry => ?_
    -- the entry is written over itself, so the enabled keys are the same before and after
    have henabled : hasEnabledMultiKey c.keys
        (c.channelInfo.setKeyStatus i u.status u.reason u.now) =
        hasEnabledMultiKey c.keys c.channelInfo := by
      apply hasEnabledMultiKey_congr
      rw [ChannelInfo.setKeyStatus_list, ← hentry, Function.update_eq_self]
    rw [henabled]
    cases hasEnabledMultiKey c.keys c.channelInfo with
    | false => simp [eq_comm]
    | true =>
      simp only [Bool.true_eq_false, if_false, or_true, iff_true]
      by_cases hen : u.status = .enabled
      · rw [if_pos hen, hs, hen]
      · rw [if_neg hen]

/-- A call keeps the copies equal exactly when the row side does not return with work left. -/
theorem agree_step_iff {s : ChannelCopies} (h : s.SameKeys) (ha : s.Agree) (u : StatusUpdate) :
    (s.updateChannelStatus u).Agree ↔ s.Lands u := by
  obtain ⟨hstatus, hlist⟩ := ha
  have hboth := handler_agree h.keys hstatus hlist u
  rw [updateChannelStatus_eq h]
  unfold Lands Agree
  by_cases hs : s.row.status = u.status
  · simp only [if_pos hs]
    rw [hboth.1, hboth.2]
    exact (handler_unchanged_iff hs).trans ⟨fun h' _ => h', fun h' => h' hs⟩
  · simp only [if_neg hs]
    exact ⟨fun _ h' => absurd h' hs, fun _ => hboth⟩

/-- From synced copies, the cache and the database agree after every call exactly when every
    call that asks for the channel status the row already has had nothing to do. -/
theorem copies_agree_iff_updates_land (s : ChannelCopies) (hkeys : s.SameKeys) (hsync : s.Agree)
    (calls : List StatusUpdate) :
    Run.Always updateChannelStatus Agree s calls ↔
      Run.Steps updateChannelStatus Lands s calls := by
  have hinv : ∀ (t : ChannelCopies) (u : StatusUpdate), t.SameKeys →
      (t.updateChannelStatus u).SameKeys := fun _ u h => h.step u
  have hstep : ∀ (t : ChannelCopies) (u : StatusUpdate), t.SameKeys → t.Agree →
      ((t.updateChannelStatus u).Agree ↔ t.Lands u) := fun _ u h ha => agree_step_iff h ha u
  exact Run.always_iff_steps hinv hstep hkeys hsync calls

/-! ## A lost update -/

/-- An enabled channel with two enabled keys, cached and stored. -/
def twoKeys : ChannelCopies :=
  let channel : ChannelRow :=
    { id := 1, keys := ["k0", "k1"], channelInfo := { isMultiKey := true, multiKeySize := 2 } }
  { cached := channel, row := channel }

/-- Both keys are disabled after errors and the first one is enabled again: every call changes
    the channel status or a key that was enabled. -/
theorem twoKeys_agree :
    Run.Always updateChannelStatus Agree twoKeys
      [⟨"k0", .autoDisabled, "401", 10⟩, ⟨"k1", .autoDisabled, "401", 11⟩,
        ⟨"k0", .enabled, "", 20⟩] :=
  (copies_agree_iff_updates_land twoKeys ⟨rfl, rfl, rfl⟩ ⟨rfl, rfl⟩ _).mpr (by decide)

/-- The first key is disabled after an error and enabled again after a test: the cache forgets
    its entry, and the row keeps it, because the channel itself was enabled all along. -/
theorem enabled_key_lost_on_sync :
    twoKeys.SameKeys ∧ twoKeys.Agree ∧
      ¬ Run.Always updateChannelStatus Agree twoKeys
        [⟨"k0", .autoDisabled, "401", 10⟩, ⟨"k0", .enabled, "", 20⟩] := by
  refine ⟨⟨rfl, rfl, rfl⟩, ⟨rfl, rfl⟩, ?_⟩
  intro h
  have hentry := congrFun h.2.2.2 0
  revert hentry
  decide

end ChannelCopies

end TokenRouter
