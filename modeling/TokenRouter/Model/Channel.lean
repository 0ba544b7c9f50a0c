import TokenRouter.Model.Supplier

/-!
# Channels (`model/channel.go`)

A channel with several keys keeps the status of each key in its channel information, by the
index of the key; a key without an entry is enabled. `UpdateChannelStatus` changes the cached
channel and the row of the database one after the other, and its two halves return early under
different conditions.
-/

namespace TokenRouter

/-- `constant.MultiKeyMode` -/
inductive MultiKeyMode where
  | random
  | polling
  | other (mode : String)
  deriving DecidableEq

/-- The `channel_info` column. A map is its lookup function. -/
structure ChannelInfo where
  isMultiKey : Bool := false
  multiKeySize : Nat := 0
  multiKeyStatusList : Nat → Option ChannelStatus := fun _ => none
  multiKeyDisabledReason : Nat → Option String := fun _ => none
  multiKeyDisabledTime : Nat → Option Int := fun _ => none
  multiKeyPollingIndex : Int := 0
  multiKeyMode : MultiKeyMode := .random

/-- The columns of `channels` that routing, key selection and status changes use. `keys` is what
    `GetKeys` reads in the `key` column; a weight or priority that is NULL reads as 0. -/
structure ChannelRow where
  id : Nat
  channelType : Int := 0
  keys : List String := []
  status : ChannelStatus := .enabled
  supplierId : Int := 0
  weight : Nat := 0
  models : String := ""
  group : String := "default"
  priority : Int := 0
  tag : Option String := none
  channelInfo : ChannelInfo := {}
  /-- `status_reason` and `status_time` in the `other_info` column -/
  statusReason : Option String := none
  statusTime : Option Int := none

/-- The status of a key as `GetNextEnabledKey` reads it. -/
def ChannelInfo.keyStatus (info : ChannelInfo) (index : Nat) : ChannelStatus :=
  (info.multiKeyStatusList index).getD .enabled

/-- `hasEnabledMultiKey` -/
def hasEnabledMultiKey (keys : List String) (info : ChannelInfo) : Bool :=
  (List.range keys.length).any fun i => info.keyStatus i = .enabled

/-- The entry that a status is stored as: an enabled key has none. -/
def keyEntry (status : ChannelStatus) : Option ChannelStatus :=
  if status = .enabled then none else some status

/-- The entry of one key in the status list, its reason and its time. -/
def ChannelInfo.setKeyStatus (info : ChannelInfo) (index : Nat) (status : ChannelStatus)
    (reason : String) (now : Int) : ChannelInfo :=
  if status = .enabled then
    { info with multiKeyStatusList := Function.update info.multiKeyStatusList index none }
  else
    { info with
      multiKeyStatusList := Function.update info.multiKeyStatusList index (some status)
      multiKeyDisabledReason := Function.update info.multiKeyDisabledReason index (some reason)
      multiKeyDisabledTime := Function.update info.multiKeyDisabledTime index (some now) }

/-- Status, `status_reason` and `status_time` written together. -/
def ChannelRow.setStatus (channel : ChannelRow) (status : ChannelStatus) (reason : String)
    (now : Int) : ChannelRow :=
  { channel with status := status, statusReason := some reason, statusTime := some now }

/-- `handlerMultiKeyUpdate` -/
def handlerMultiKeyUpdate (channel : ChannelRow) (usingKey : String) (status : ChannelStatus)
    (reason : String) (now : Int) : ChannelRow :=
  if channel.keys = [] then { channel with status := status }
  else
    match channel.keys.findIdx? (· = usingKey) with
    | none => if usingKey ≠ "" then channel else channel.setStatus status reason now
    | some keyIndex =>
      let updated :=
        { channel with
          channelInfo := channel.channelInfo.setKeyStatus keyIndex status reason now }
      if !hasEnabledMultiKey updated.keys updated.channelInfo then
        updated.setStatus .autoDisabled "All keys are disabled" now
      else if status = .enabled then { updated with status := .enabled }
      else updated

/-- What `UpdateChannelStatus` does to the cached channel; `none` is its early return. -/
def updateCachedChannel (cached : ChannelRow) (usingKey : String) (status : ChannelStatus)
    (reason : String) (now : Int) : Option ChannelRow :=
  if cached.channelInfo.isMultiKey then
    some (handlerMultiKeyUpdate cached usingKey status reason now)
  else if cached.status = status then none
  else some { cached with status := status }

/-- What `UpdateChannelStatus` makes of the loaded row, and whether it updates the abilities;
    `none` is its early return. -/
def updateChannelRow (channel : ChannelRow) (usingKey : String) (status : ChannelStatus)
    (reason : String) (now : Int) : Option (ChannelRow × Bool) :=
  if channel.status = status then none
  else if channel.channelInfo.isMultiKey then
    let updated := handlerMultiKeyUpdate channel usingKey status reason now
    some (updated, channel.status ≠ updated.status)
  else some (channel.setStatus status reason now, true)

/-! ## Key entries -/

@[simp] theorem ChannelInfo.setKeyStatus_isMultiKey (info : ChannelInfo) (i : Nat)
    (status : ChannelStatus) (reason : String) (now : Int) :
    (info.setKeyStatus i status reason now).isMultiKey = info.isMultiKey := by
  unfold setKeyStatus
  split
  · rfl
  · rfl

@[simp] theorem ChannelInfo.setKeyStatus_list (info : ChannelInfo) (i : Nat)
    (status : ChannelStatus) (reason : String) (now : Int) :
    (info.setKeyStatus i status reason now).multiKeyStatusList =
      Function.update info.multiKeyStatusList i (keyEntry status) := by
  unfold setKeyStatus keyEntry
  split
  · rfl
  · rfl

@[simp] theorem getD_keyEntry (status : ChannelStatus) : (keyEntry status).getD .enabled = status := by
  unfold keyEntry
  split
  · next h => exact h.symm
  · rfl

theorem ChannelInfo.keyStatus_setKeyStatus (info : ChannelInfo) (i j : Nat)
    (status : ChannelStatus) (reason : String) (now : Int) :
    (info.setKeyStatus i status reason now).keyStatus j =
      if j = i then status else info.keyStatus j := by
  unfold keyStatus
  rw [setKeyStatus_list]
  by_cases h : j = i
  · subst h
    simp
  · simp [h]

theorem hasEnabledMultiKey_iff {keys : List String} {info : ChannelInfo} :
    hasEnabledMultiKey keys info = true ↔ ∃ i < keys.length, info.keyStatus i = .enabled := by
  simp [hasEnabledMultiKey]

/-- Which keys are enabled depends on the status list alone. -/
theorem hasEnabledMultiKey_congr {keys : List String} {a b : ChannelInfo}
    (h : a.multiKeyStatusList = b.multiKeyStatusList) :
    hasEnabledMultiKey keys a = hasEnabledMultiKey keys b := by
  unfold hasEnabledMultiKey ChannelInfo.keyStatus
  rw [h]

/-! ## What a status update does -/

/-- The key a status update is about, the first of equal ones. -/
def ChannelRow.keyIndex (channel : ChannelRow) (usingKey : String) : Option Nat :=
  channel.keys.findIdx? (· = usingKey)

theorem ChannelRow.keyIndex_of_keys_nil {channel : ChannelRow} (h : channel.keys = [])
    (usingKey : String) : channel.keyIndex usingKey = none := by
  simp [keyIndex, h]

section Handler

variable (channel : ChannelRow) (usingKey : String) (status : ChannelStatus) (reason : String)
  (now : Int)

/-- A status update of a channel with several keys writes the status, the channel information
    and the reason, and nothing else. -/
theorem handlerMultiKeyUpdate_frame : ∃ st info r t,
    handlerMultiKeyUpdate channel usingKey status reason now =
      { channel with status := st, channelInfo := info, statusReason := r, statusTime := t } ∧
    info.isMultiKey = channel.channelInfo.isMultiKey := by
  unfold handlerMultiKeyUpdate
  split
  · exact ⟨_, _, _, _, rfl, rfl⟩
  · split
    · split
      · exact ⟨_, _, _, _, rfl, rfl⟩
      · exact ⟨_, _, _, _, rfl, rfl⟩
    · dsimp only
      split
      · exact ⟨_, _, _, _, rfl, by simp⟩
      · split
        · exact ⟨_, _, _, _, rfl, by simp⟩
        · exact ⟨_, _, _, _, rfl, by simp⟩

@[simp] theorem handlerMultiKeyUpdate_keys :
    (handlerMultiKeyUpdate channel usingKey status reason now).keys = channel.keys := by
  obtain ⟨_, _, _, _, h, -⟩ := handlerMultiKeyUpdate_frame channel usingKey status reason now
  rw [h]

@[simp] theorem handlerMultiKeyUpdate_isMultiKey :
    (handlerMultiKeyUpdate channel usingKey status reason now).channelInfo.isMultiKey =
      channel.channelInfo.isMultiKey := by
  obtain ⟨_, _, _, _, h, hm⟩ := handlerMultiKeyUpdate_frame channel usingKey status reason now
  rw [h, ← hm]

variable {channel usingKey}

/-- A key that the channel does not have changes nothing, except that no key at all stands for
    the whole channel. -/
theorem handlerMultiKeyUpdate_of_none (h : channel.keyIndex usingKey = none) :
    handlerMultiKeyUpdate channel usingKey status reason now =
      if channel.keys = [] then { channel with status := status }
      else if usingKey = "" then channel.setStatus status reason now else channel := by
  unfold handlerMultiKeyUpdate
  unfold ChannelRow.keyIndex at h
  rw [h]
  split
  · rfl
  · by_cases hk : usingKey = ""
    · simp [hk]
    · simp [hk]

/-- The status list after a status update of a key. -/
theorem handlerMultiKeyUpdate_list {i : Nat} (h : channel.keyIndex usingKey = some i) :
    (handlerMultiKeyUpdate channel usingKey status reason now).channelInfo.multiKeyStatusList =
      Function.update channel.channelInfo.multiKeyStatusList i (keyEntry status) := by
  have hne : channel.keys ≠ [] := by
    intro hnil
    rw [ChannelRow.keyIndex_of_keys_nil hnil] at h
    cases h
  unfold handlerMultiKeyUpdate
  unfold ChannelRow.keyIndex at h
  rw [if_neg hne, h]
  dsimp only
  split
  · simp [ChannelRow.setStatus]
  · split
    · simp
    · simp

/-- The channel status after a status update of a key: disabled with the last key, enabled with
    any key. -/
theorem handlerMultiKeyUpdate_status {i : Nat} (h : channel.keyIndex usingKey = some i) :
    (handlerMultiKeyUpdate channel usingKey status reason now).status =
      if hasEnabledMultiKey channel.keys
          (channel.channelInfo.setKeyStatus i status reason now) = false then .autoDisabled
      else if status = .enabled then .enabled else channel.status := by
  have hne : channel.keys ≠ [] := by
    intro hnil
    rw [ChannelRow.keyIndex_of_keys_nil hnil] at h
    cases h
  unfold handlerMultiKeyUpdate
  unfold ChannelRow.keyIndex at h
  rw [if_neg hne, h]
  dsimp only
  cases hasEnabledMultiKey channel.keys (channel.channelInfo.setKeyStatus i status reason now) with
  | false => rfl
  | true =>
    by_cases hs : status = .enabled
    · simp [hs]
    · simp [hs]

/-- The key statuses after a status update of a key. -/
theorem handlerMultiKeyUpdate_keyStatus {i : Nat} (h : channel.keyIndex usingKey = some i)
    (j : Nat) :
    (handlerMultiKeyUpdate channel usingKey status reason now).channelInfo.keyStatus j =
      if j = i then status else channel.channelInfo.keyStatus j := by
  unfold ChannelInfo.keyStatus
  rw [handlerMultiKeyUpdate_list _ _ _ h]
  by_cases hj : j = i
  · subst hj
    simp
  · simp [hj]

end Handler

end TokenRouter
