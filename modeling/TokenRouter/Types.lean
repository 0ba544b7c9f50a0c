import TokenRouter.Common

/-!
# API errors and status-code rules (`types/error.go`, `setting/operation_setting`)
-/

namespace TokenRouter

/-- The fields of `types.NewAPIError` that the relay decides on. -/
structure APIError where
  errorCode : String := ""
  statusCode : Int := 0
  skipRetry : Bool := false
  /-- the text of the wrapped error, if there is one -/
  message : Option String := none
  deriving DecidableEq

/-- `types.NewError` of a new error. -/
def newError (message errorCode : String) : APIError :=
  { errorCode := errorCode, statusCode := 500, message := some message }

/-- `types.IsChannelError` -/
def isChannelError (err : APIError) : Bool := 
  "channel:".toList.isPrefixOf err.errorCode.toList

/-- `types.IsSkipRetryError` -/
def isSkipRetryError (err : APIError) : Bool := err.skipRetry

/-- `Error`: the code stands in for a missing error. -/
def APIError.error (err : APIError) : String := err.message.getD err.errorCode

/-- `ErrorWithStatusCode` -/
def APIError.errorWithStatusCode (err : APIError) : String :=
  if err.statusCode = 0 then err.error
  else if err.error = "" then "status_code=" ++ toString err.statusCode
  else "status_code=" ++ toString err.statusCode ++ ", " ++ err.error

/-- `operation_setting.StatusCodeRange` -/
structure StatusCodeRange where
  start : Int
  stop : Int
  deriving DecidableEq

/-- `shouldMatchStatusCodeRanges`: the ranges are sorted, so a code below one ends the search. -/
def shouldMatchStatusCodeRanges (ranges : List StatusCodeRange) (code : Int) : Bool :=
  if code < 100 ∨ 599 < code then false else search ranges
where
  search : List StatusCodeRange → Bool
    | [] => false
    | r :: rest => if code < r.start then false else if code ≤ r.stop then true else search rest

/-- `AutomaticDisableStatusCodeRanges` before an operator changes it. -/
def automaticDisableStatusCodeRanges : List StatusCodeRange := [⟨401, 401⟩]

/-- `AutomaticRetryStatusCodeRanges` before an operator changes it. -/
def automaticRetryStatusCodeRanges : List StatusCodeRange :=
  [⟨100, 199⟩, ⟨300, 399⟩, ⟨401, 407⟩, ⟨409, 499⟩, ⟨500, 503⟩, ⟨505, 523⟩, ⟨525, 599⟩]

/-- The settings under which errors disable channels and successes enable them again. -/
structure ChannelMonitorSetting where
  automaticDisableChannelEnabled : Bool := false
  automaticEnableChannelEnabled : Bool := false
  disableStatusCodeRanges : List StatusCodeRange := automaticDisableStatusCodeRanges
  /-- the search for `AutomaticDisableKeywords` in the lower-case message -/
  matchesDisableKeyword : String → Bool := fun _ => false

end TokenRouter
