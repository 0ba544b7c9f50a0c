import TokenRouter.Common
import TokenRouter.Dto
import TokenRouter.Model.Tenant

/-!
# Relay request data (`relay/common/relay_info.go`)

The part of `RelayInfo` and of the gin context that billing and usage recording read, and
the payload that `RecordUsageAsync` stores.
-/

namespace TokenRouter

/-- `RelayInfo.BillingSource`; `none` is the empty string. -/
inductive BillingSource where
  | none
  | wallet
  | subscription
  | tenantPostpaid
  | tenantMixed
  deriving DecidableEq

/-- The values of `common.NormalizeBillingPreference`. -/
inductive BillingPreference where
  | subscriptionFirst
  | walletFirst
  | subscriptionOnly
  | walletOnly
  deriving DecidableEq

/-- `RelayInfo.ChannelMeta`. -/
structure ChannelMeta where
  channelId : Int
  channelBaseUrl : String
  channelType : Int := 0
  deriving DecidableEq

/-- `types.RelayFormat`; `unset` is the empty string. -/
inductive RelayFormat where
  | unset
  | openAI
  | claude
  | gemini
  | openAIResponses
  | openAIResponsesCompaction
  | openAIAudio
  | openAIImage
  | openAIRealtime
  | rerank
  | embedding
  | task
  | mjProxy
  deriving DecidableEq

/-- The part of `types.PriceData` that text billing reads. The factors of `OtherRatios` are
    multiplied, in any order. -/
structure PriceData where
  modelPrice : ℚ := 0
  modelRatio : ℚ := 0
  completionRatio : ℚ := 0
  cacheRatio : ℚ := 0
  cacheCreationRatio : ℚ := 0
  cacheCreation5mRatio : ℚ := 0
  cacheCreation1hRatio : ℚ := 0
  imageRatio : ℚ := 0
  groupRatio : ℚ := 0
  otherRatios : List ℚ := []
  usePrice : Bool := false
  deriving DecidableEq

/-- `RelayInfo`. `tenantBillingMode = none` is the empty string; the two header
    maps are association lists, the values of `runtimeHeadersOverride` printed. -/
structure RelayInfo where
  requestId : String
  userId : Int := 0
  tokenId : Int := 0
  tenantId : Int := 0
  appId : Int := 0
  endCustomerId : Int := 0
  tenantBillingMode : Option BillingMode := none
  originModelName : String := ""
  channelMeta : Option ChannelMeta := none
  requestHeaders : List (String × String) := []
  runtimeHeadersOverride : List (String × String) := []
  estimatePromptTokens : Int := 0
  isPlayground : Bool := false
  tokenUnlimited : Bool := false
  forcePreConsume : Bool := false
  userQuota : Int := 0
  billingPreference : BillingPreference := .subscriptionFirst
  finalPreConsumedQuota : Int := 0
  billingSource : BillingSource := .none
  subscriptionId : Nat := 0
  subscriptionPreConsumed : Int := 0
  subscriptionPostDelta : Int := 0
  subscriptionAmountTotal : Int := 0
  subscriptionAmountUsedAfterPreConsume : Int := 0
  relayFormat : RelayFormat := .unset
  requestConversionChain : List RelayFormat := []
  finalRequestRelayFormat : RelayFormat := .unset
  priceData : PriceData := {}
  deriving DecidableEq

/-- `GetFinalRequestRelayFormat` -/
def RelayInfo.getFinalRequestRelayFormat (info : RelayInfo) : RelayFormat :=
  if info.finalRequestRelayFormat ≠ .unset then info.finalRequestRelayFormat
  else info.requestConversionChain.getLast?.getD info.relayFormat

/-- The parts of `gin.Context` that usage recording reads: request headers by
    canonical name and the string keys set by earlier handlers. -/
structure GinContext where
  headers : List (String × String)
  keys : List (String × String)
  deriving DecidableEq

/-- A missing key reads as the empty string, as in Go. -/
def lookupString (m : List (String × String)) (k : String) : String := (m.lookup k).getD ""

/-- `UsageRecordMeta`. `createdAt` is `0` or a `GetTimestamp` reading. -/
structure UsageRecordMeta where
  requestId : String
  sessionId : String := ""
  slaTier : String := ""
  supplyNode : String := ""
  latencyMs : Int := 0
  createdAt : Int := 0
  createdAt_nonneg : 0 ≤ createdAt := by decide
  deriving DecidableEq

/-- `usageRecordOutboxRelayInfo`. -/
structure OutboxRelayInfo where
  userId : Int := 0
  tokenId : Int := 0
  tenantId : Int := 0
  appId : Int := 0
  endCustomerId : Int := 0
  tenantBillingMode : Option BillingMode := none
  originModelName : String := ""
  finalPreConsumedQuota : Int := 0
  billingSource : BillingSource := .none
  channelId : Int := 0
  channelBaseUrl : String := ""
  requestId : String := ""
  requestHeaders : List (String × String) := []
  runtimeHeadersOverride : List (String × String) := []
  deriving DecidableEq

/-- `usageRecordOutboxPayload`. `encoding/json` writes and reads back every field
    of it unchanged, so the stored text is represented by the value. -/
structure OutboxPayload where
  relayInfo : OutboxRelayInfo
  usage : Option Usage
  sellQuota : Int
  metadata : UsageRecordMeta
  deriving DecidableEq

end TokenRouter
