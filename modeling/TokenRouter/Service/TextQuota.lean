import TokenRouter.Service.UsageRecord

/-!
# Text quota (`service/text_quota.go`)

What a finished text request is charged. `calculateTextQuotaSummary` reads the counters of
`dto.Usage` under the semantic of the usage, splits the prompt into the classes that are priced
differently and multiplies them out. `recordUsageWithMeta` later splits the same usage again for
the supplier's side of the books.
-/

namespace TokenRouter

/-- What text billing reads besides the request. -/
structure TextQuotaEnv where
  quotaPerUnit : ℚ
  /-- `GetDefaultModelRatioMap` -/
  defaultModelRatio : String → Option ℚ
  /-- `CalcOpenRouterCacheCreateTokens`, a computation in floating point -/
  calcOpenRouterCacheCreateTokens : Usage → PriceData → Int
  /-- `GetGeminiInputAudioPricePerMillionTokens` -/
  inputAudioPricePerMillionTokens : String → ℚ
  /-- what `calculateTextToolCallSurcharge` returns for the request -/
  toolCallSurchargeQuota : ℚ

/-- `constant.ChannelTypeOpenRouter` -/
def channelTypeOpenRouter : Int := 20

/-- `hasCustomModelRatio` -/
def hasCustomModelRatio (env : TextQuotaEnv) (modelName : String) (currentRatio : ℚ) : Bool :=
  match env.defaultModelRatio modelName with
  | none => true
  | some defaultRatio => currentRatio ≠ defaultRatio

/-- `usageSemanticFromUsage` -/
def usageSemanticFromUsage (info : RelayInfo) (usage : Option Usage) : String :=
  match usage.map (·.usageSemantic) with
  | some semantic =>
    if semantic ≠ "" then semantic
    else if info.getFinalRequestRelayFormat = .claude then "anthropic" else "openai"
  | none => if info.getFinalRequestRelayFormat = .claude then "anthropic" else "openai"

/-- `isLegacyClaudeDerivedOpenAIUsage` -/
def isLegacyClaudeDerivedOpenAIUsage (info : RelayInfo) (usage : Usage) : Bool :=
  if info.getFinalRequestRelayFormat = .claude then false
  else if usage.usageSource ≠ "" ∨ usage.usageSemantic ≠ "" then false
  else 0 < usage.claudeCacheCreation5mTokens ∨ 0 < usage.claudeCacheCreation1hTokens

/-- `textQuotaSummary`, without the prices that it copies and the counts of tool calls. -/
structure TextQuotaSummary where
  promptTokens : Int
  completionTokens : Int
  totalTokens : Int
  cacheTokens : Int
  cacheCreationTokens : Int
  cacheCreationTokens5m : Int
  cacheCreationTokens1h : Int
  imageTokens : Int
  audioTokens : Int
  usageSemantic : String
  isClaudeUsageSemantic : Bool
  audioInputPrice : ℚ := 0
  quota : Int := 0

/-- `isOpenRouterClaudeBilling` -/
def isOpenRouterClaudeBilling (info : RelayInfo) (isClaudeUsageSemantic : Bool) : Bool :=
  match info.channelMeta with
  | none => false
  | some channel => channel.channelType = channelTypeOpenRouter && isClaudeUsageSemantic

/-- The cache-creation tokens of an OpenRouter request: the reported ones, or what the reported
    cost leaves for them. -/
def openRouterCacheCreationTokens (env : TextQuotaEnv) (info : RelayInfo) (usage : Usage) : Int :=
  let isUsingCustomSettings := info.priceData.usePrice ||
    hasCustomModelRatio env info.originModelName info.priceData.modelRatio
  if usage.cachedCreationTokens = 0 ∧ info.priceData.cacheCreationRatio ≠ 1 ∧
      usage.cost ≠ .int 0 ∧ ¬ isUsingCustomSettings then
    let maybeCacheCreationTokens := env.calcOpenRouterCacheCreateTokens usage info.priceData
    if 0 ≤ maybeCacheCreationTokens ∧
        maybeCacheCreationTokens ≤ usage.promptTokens - usage.cachedTokens then
      maybeCacheCreationTokens
    else usage.cachedCreationTokens
  else usage.cachedCreationTokens

/-- The counters of a summary. A missing usage stands for the estimated prompt. -/
def textQuotaTokens (env : TextQuotaEnv) (info : RelayInfo) (usage : Option Usage) :
    TextQuotaSummary :=
  let usageSemantic := usageSemanticFromUsage info usage
  let isClaudeUsageSemantic : Bool := usageSemantic = "anthropic"
  let u := usage.getD { promptTokens := info.estimatePromptTokens }
  let openRouter := isOpenRouterClaudeBilling info isClaudeUsageSemantic
  let cacheCreationTokens :=
    if openRouter then openRouterCacheCreationTokens env info u else u.cachedCreationTokens
  { promptTokens :=
      if openRouter then u.promptTokens - u.cachedTokens - cacheCreationTokens
      else u.promptTokens
    completionTokens := u.completionTokens
    totalTokens := u.promptTokens + u.completionTokens
    cacheTokens := u.cachedTokens
    cacheCreationTokens := cacheCreationTokens
    cacheCreationTokens5m := u.claudeCacheCreation5mTokens
    cacheCreationTokens1h := u.claudeCacheCreation1hTokens
    imageTokens := u.imageTokens
    audioTokens := u.audioTokens
    usageSemantic := usageSemantic
    isClaudeUsageSemantic := isClaudeUsageSemantic
    audioInputPrice :=
      if info.priceData.usePrice ∨ u.audioTokens = 0 then 0
      else env.inputAudioPricePerMillionTokens info.originModelName }

/-- How many prompt tokens are charged at which ratio. -/
structure PromptCharge where
  /-- `baseTokens`, at the full ratio -/
  baseTokens : Int
  /-- at `CacheRatio` -/
  cached : Int
  /-- at `CacheCreationRatio`, `CacheCreationRatio5m` and `CacheCreationRatio1h` -/
  created : Int
  created5m : Int
  created1h : Int
  /-- at `ImageRatio` -/
  image : Int
  deriving DecidableEq

/-- The prompt of `calculateTextQuotaSummary` without a price per request. -/
def TextQuotaSummary.promptCharge (s : TextQuotaSummary) (legacyClaudeDerived : Bool) :
    PromptCharge :=
  let contained := ¬ s.isClaudeUsageSemantic ∧ ¬ legacyClaudeDerived
  let hasSplitCacheCreationTokens := 0 < s.cacheCreationTokens5m ∨ 0 < s.cacheCreationTokens1h
  let creates := s.cacheCreationTokens ≠ 0 ∨ hasSplitCacheCreationTokens
  let baseTokens := s.promptTokens
  let baseTokens :=
    if s.cacheTokens ≠ 0 ∧ contained then baseTokens - s.cacheTokens else baseTokens
  let baseTokens :=
    if creates ∧ contained then baseTokens - s.cacheCreationTokens else baseTokens
  let baseTokens := if s.imageTokens ≠ 0 then baseTokens - s.imageTokens else baseTokens
  let baseTokens :=
    if s.audioTokens ≠ 0 ∧ 0 < s.audioInputPrice then baseTokens - s.audioTokens else baseTokens
  let remaining := s.cacheCreationTokens - s.cacheCreationTokens5m - s.cacheCreationTokens1h
  { baseTokens := baseTokens
    cached := s.cacheTokens
    created :=
      if ¬ creates then 0
      else if contained then s.cacheCreationTokens
      else if remaining < 0 then 0
      else remaining
    created5m := if ¬ creates ∨ contained then 0 else s.cacheCreationTokens5m
    created1h := if ¬ creates ∨ contained then 0 else s.cacheCreationTokens1h
    image := s.imageTokens }

/-- `promptQuota` -/
def PromptCharge.quota (charge : PromptCharge) (price : PriceData) : ℚ :=
  charge.baseTokens + charge.cached * price.cacheRatio + charge.image * price.imageRatio +
    (charge.created * price.cacheCreationRatio + charge.created5m * price.cacheCreation5mRatio +
      charge.created1h * price.cacheCreation1hRatio)

/-- `audioInputQuota` -/
def TextQuotaSummary.audioInputQuota (s : TextQuotaSummary) (env : TextQuotaEnv)
    (price : PriceData) : ℚ :=
  if s.audioTokens ≠ 0 ∧ 0 < s.audioInputPrice then
    s.audioInputPrice / 1000000 * s.audioTokens * price.groupRatio * env.quotaPerUnit
  else 0

/-- The prompt charge of a request. -/
def textPromptCharge (env : TextQuotaEnv) (info : RelayInfo) (usage : Option Usage) :
    PromptCharge :=
  (textQuotaTokens env info usage).promptCharge
    (isLegacyClaudeDerivedOpenAIUsage info
      (usage.getD { promptTokens := info.estimatePromptTokens }))

/-- `calculateTextQuotaSummary` -/
def calculateTextQuotaSummary (env : TextQuotaEnv) (info : RelayInfo) (usage : Option Usage) :
    TextQuotaSummary :=
  let price := info.priceData
  let s := textQuotaTokens env info usage
  let ratio := price.modelRatio * price.groupRatio
  let quota :=
    if ¬ price.usePrice then
      let promptQuota := (textPromptCharge env info usage).quota price
      let completionQuota := s.completionTokens * price.completionRatio
      let calculated := ((promptQuota + completionQuota) * ratio + env.toolCallSurchargeQuota +
        s.audioInputQuota env price) * price.otherRatios.prod
      if ratio ≠ 0 ∧ calculated ≤ 0 then roundHalfAway 1 else roundHalfAway calculated
    else
      roundHalfAway ((price.modelPrice * env.quotaPerUnit * price.groupRatio +
        env.toolCallSurchargeQuota) * price.otherRatios.prod)
  { s with
    quota :=
      if s.totalTokens = 0 then 0
      else if ratio ≠ 0 ∧ quota = 0 then 1
      else quota }

end TokenRouter
