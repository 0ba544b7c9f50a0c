import TokenRouter.Types
import TokenRouter.Model.ChannelCache

/-!
# Automatic status changes (`service/channel.go`, `processChannelError`)

A failed request disables its channel or key, and a health test that succeeds on an
automatically disabled channel enables it. Both are calls of `UpdateChannelStatus`.
-/

namespace TokenRouter

/-- The fields of `types.ChannelError` that a status change reads. -/
structure ChannelError where
  usingKey : String := ""
  autoBan : Bool := false
  deriving DecidableEq

/-- `ShouldDisableChannel` -/
def shouldDisableChannel (setting : ChannelMonitorSetting) (err : APIError) : Bool :=
  if !setting.automaticDisableChannelEnabled then false
  else if isChannelError err then true
  else if isSkipRetryError err then false
  else if shouldMatchStatusCodeRanges setting.disableStatusCodeRanges err.statusCode then true
  else setting.matchesDisableKeyword err.error

/-- `ShouldEnableChannel` -/
def shouldEnableChannel (setting : ChannelMonitorSetting) (err : Option APIError)
    (status : ChannelStatus) : Bool :=
  if !setting.automaticEnableChannelEnabled then false
  else if err.isSome then false
  else status = .autoDisabled

/-- `DisableChannel`: the status update it makes, if any. -/
def disableChannel (channelError : ChannelError) (reason : String) (now : Int) :
    Option StatusUpdate :=
  if !channelError.autoBan then none
  else some { usingKey := channelError.usingKey, status := .autoDisabled, reason, now }

/-- `EnableChannel` -/
def enableChannel (usingKey : String) (now : Int) : StatusUpdate :=
  { usingKey, status := .enabled, reason := "", now }

/-- The part of `processChannelError` that changes the channel. -/
def processChannelError (setting : ChannelMonitorSetting) (channelError : ChannelError)
    (err : APIError) (now : Int) : Option StatusUpdate :=
  if shouldDisableChannel setting err && channelError.autoBan then
    disableChannel channelError err.errorWithStatusCode now
  else none

@[simp] theorem enableChannel_status (usingKey : String) (now : Int) :
    (enableChannel usingKey now).status = .enabled := rfl

/-- A failed request asks for the automatically disabled status. -/
theorem processChannelError_status {setting : ChannelMonitorSetting} {channelError : ChannelError}
    {err : APIError} {now : Int} {u : StatusUpdate}
    (h : processChannelError setting channelError err now = some u) : u.status = .autoDisabled := by
  unfold processChannelError disableChannel at h
  split at h
  · split at h
    · cases h
    · cases h
      rfl
  · cases h

end TokenRouter
