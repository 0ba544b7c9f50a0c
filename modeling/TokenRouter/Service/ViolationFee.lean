import TokenRouter.Service.Quota
import TokenRouter.Service.UsageRecord
import TokenRouter.Types

/-!
# Violation fees (`service/violation_fee.go`, `types/error.go`)

An error that carries a violation marker is turned into the fee's error code; after the
request's refund the fee is charged once, through `PostConsumeQuota`.
-/

namespace TokenRouter

/-! ## Errors in full -/

/-- `types.ErrorType` -/
inductive ErrorType where
  | newAPIError
  | openAIError
  | claudeError
  | midjourneyError
  | geminiError
  | rerankError
  | upstreamError
deriving DecidableEq

/-- The text of an error type. -/
def ErrorType.text : ErrorType → String
  | newAPIError => "new_api_error"
  | openAIError => "openai_error"
  | claudeError => "claude_error"
  | midjourneyError => "midjourney_error"
  | geminiError => "gemini_error"
  | rerankError => "rerank_error"
  | upstreamError => "upstream_error"

/-- `types.OpenAIError`; `code` is the printed code, `metadata` the raw JSON. -/
structure OpenAIError where
  message : String := ""
  type : String := ""
  param : String := ""
  code : Option String := none
  metadata : String := ""
deriving DecidableEq

/-- `types.ClaudeError` -/
structure ClaudeError where
  type : String := ""
  message : String := ""
deriving DecidableEq

/-- The dynamic value of `RelayError`. -/
inductive RelayError where
  | nil
  | openAI (e : OpenAIError)
  | claude (e : ClaudeError)
deriving DecidableEq

/-- An `APIError` with what its OpenAI form is made of. -/
structure RelayAPIError extends APIError where
  errorType : ErrorType := .newAPIError
  relayError : RelayError := .nil
  metadata : String := ""
deriving DecidableEq

/-- `ErrorCodeViolationFeeGrokCSAM` -/
def errorCodeViolationFeeGrokCSAM : String := "violation_fee.grok.csam"

def violationFeeCodePrefix : String := "violation_fee."
def csamViolationMarker : String := "Failed check: SAFETY_CHECK_TYPE"
def contentViolatesUsageMarker : String := "Content violates usage guidelines"

/-- `GrokSettings` -/
structure GrokSettings where
  violationDeductionEnabled : Bool := true
  violationDeductionAmount : ℚ := 1 / 20

/-- What the fee depends on besides the request: the settings, `common.QuotaPerUnit` and
    `common.MaskSensitiveInfo`. -/
structure FeeEnv where
  settings : GrokSettings := {}
  quotaPerUnit : ℚ := 500000
  maskSensitiveInfo : String → String := id

namespace RelayAPIError

/-- `ToOpenAIError` -/
def toOpenAIError (env : FeeEnv) (e : RelayAPIError) : OpenAIError :=
  let result : OpenAIError := match e.errorType with
    | .openAIError => match e.relayError with
      | .openAI openAIError => openAIError
      | _ => {}
    | .claudeError => match e.relayError with
      | .claude claudeError =>
        { message := e.error, type := claudeError.type, code := some e.errorCode }
      | _ => {}
    | errorType => { message := e.error, type := errorType.text, code := some e.errorCode }
  let message :=
    if e.errorCode ≠ "count_token_failed" then env.maskSensitiveInfo result.message
    else result.message
  { result with message := if message = "" then e.errorType.text else message }

/-- `WithOpenAIError` with the option `ErrOptionWithSkipRetry`. -/
def withOpenAIError (openAIError : OpenAIError) (statusCode : Int) : RelayAPIError :=
  let code := openAIError.code.getD "unknown_error"
  let openAIError :=
    if openAIError.type = "" then { openAIError with type := "upstream_error" } else openAIError
  let openAIError :=
    if openAIError.metadata ≠ "" then
      { openAIError with message := openAIError.message ++ " (" ++ openAIError.metadata ++ ")" }
    else openAIError
  { relayError := .openAI openAIError
    errorType := .openAIError
    statusCode := statusCode
    message := some openAIError.message
    errorCode := code
    metadata := openAIError.metadata
    skipRetry := true }

/-- `IsViolationFeeCode` -/
def isViolationFeeCode (code : String) : Bool :=
  violationFeeCodePrefix.toList.isPrefixOf code.toList

/-- `HasCSAMViolationMarker`; the second marker is looked for in the error text both times. -/
def hasCSAMViolationMarker (env : FeeEnv) (e : RelayAPIError) : Bool :=
  if containsText e.error csamViolationMarker || containsText e.error contentViolatesUsageMarker
  then true
  else
    let msg := (e.toOpenAIError env).message
    containsText msg csamViolationMarker || containsText e.error contentViolatesUsageMarker

/-- `WrapAsViolationFeeGrokCSAM` -/
def wrapAsViolationFeeGrokCSAM (env : FeeEnv) (e : RelayAPIError) : RelayAPIError :=
  withOpenAIError
    { e.toOpenAIError env with
      type := errorCodeViolationFeeGrokCSAM
      code := some errorCodeViolationFeeGrokCSAM } e.statusCode

/-- `NormalizeViolationFeeError` -/
def normalizeViolationFeeError (env : FeeEnv) (e : RelayAPIError) : RelayAPIError :=
  if e.hasCSAMViolationMarker env then e.wrapAsViolationFeeGrokCSAM env
  else if isViolationFeeCode e.errorCode then withOpenAIError (e.toOpenAIError env) e.statusCode
  else e

/-- `shouldChargeViolationFee` -/
def shouldChargeViolationFee (env : FeeEnv) (e : RelayAPIError) : Bool :=
  e.errorCode = errorCodeViolationFeeGrokCSAM || e.hasCSAMViolationMarker env

end RelayAPIError

/-- `calcViolationFeeQuota` -/
def calcViolationFeeQuota (env : FeeEnv) (amount groupRatio : ℚ) : Int :=
  if amount ≤ 0 then 0
  else if groupRatio ≤ 0 then 0
  else
    let quota := roundHalfAway (amount * env.quotaPerUnit * groupRatio)
    if quota ≤ 0 then 0 else quota

/-- The fee that `ChargeViolationFeeIfNeeded` decides to charge for an error. -/
def violationFeeQuota (env : FeeEnv) (info : RelayInfo) (apiErr : Option RelayAPIError) :
    Option Int :=
  match apiErr with
  | none => none
  | some e =>
    if ¬ e.shouldChargeViolationFee env then none
    else if ¬ env.settings.violationDeductionEnabled then none
    else
      let feeQuota := calcViolationFeeQuota env env.settings.violationDeductionAmount
        info.priceData.groupRatio
      if feeQuota ≤ 0 then none else some feeQuota

/-- `ChargeViolationFeeIfNeeded` -/
def chargeViolationFeeIfNeeded (env : FeeEnv) (st : ChargeState) (apiErr : Option RelayAPIError) :
    Bool × ChargeState :=
  match violationFeeQuota env st.info apiErr with
  | none => (false, st)
  | some feeQuota =>
    match st.postConsumeQuota feeQuota with
    | (some _, st) => (false, st)
    | (none, st) => (true, st)

/-! ## Over a request -/

/-- An attempt of the relay loop: the error it ends in, if any, and what `shouldRetry` says. -/
structure FeeAttempt where
  newAPIError : Option RelayAPIError
  shouldRetry : Bool
deriving DecidableEq

/-- The error that the loop of `controller.Relay` leaves, normalised after each attempt. -/
def attemptsError (env : FeeEnv) :
    Option RelayAPIError → List FeeAttempt → Option RelayAPIError
  | newAPIError, [] => newAPIError
  | _, a :: rest =>
    match a.newAPIError with
    | none => none
    | some e =>
      let newAPIError := some (e.normalizeViolationFeeError env)
      if a.shouldRetry then attemptsError env newAPIError rest else newAPIError

/-- The fees that a request is charged: its deferred function normalises the error once more
    and charges. -/
def requestFees (env : FeeEnv) (info : RelayInfo) (attempts : List FeeAttempt) : List Int :=
  match attemptsError env none attempts with
  | none => []
  | some e => (violationFeeQuota env info (some (e.normalizeViolationFeeError env))).toList

end TokenRouter
