import TokenRouter.Service.TextQuota

/-!
# What text billing calls (`service/text_quota.go`, `service/quota.go`)

The two functions that `calculateTextQuotaSummary` takes numbers from: the surcharge of tool
calls, and the cache-creation tokens that the cost reported by OpenRouter leaves room for. Both
are exact; the source computes the latter in `float64`.
-/

namespace TokenRouter

/-- The calls of built-in tools: `BuiltInTools` of `ResponsesUsageInfo`, and what the context
    says of the others. -/
structure ToolCalls where
  /-- the counts of `web_search_preview` and `file_search` -/
  responses : Option (Option Int × Option Int) := none
  claudeWebSearchRequests : Int := 0
  /-- quality and size of an `image_generation_call` -/
  imageGeneration : Option (String × String) := none

/-- The prices of `operation_setting`. -/
structure ToolPrices where
  getToolPriceForModel : String → String → ℚ
  getToolPrice : String → ℚ
  getGPTImage1PriceOnceCall : String → String → ℚ

/-- The charge of `count` calls at a price for a thousand. -/
def perThousand (price : ℚ) (count : Int) (groupRatio quotaPerUnit : ℚ) : ℚ :=
  price * count / 1000 * groupRatio * quotaPerUnit

/-- `if exists && CallCount > 0` -/
def countedCalls (price : ℚ) (count : Option Int) (groupRatio quotaPerUnit : ℚ) : ℚ :=
  match count with
  | some n => if 0 < n then perThousand price n groupRatio quotaPerUnit else 0
  | none => 0

/-- `calculateTextToolCallSurcharge` -/
def calculateTextToolCallSurcharge (prices : ToolPrices) (calls : ToolCalls) (modelName : String)
    (groupRatio quotaPerUnit : ℚ) : ℚ :=
  let preview := prices.getToolPriceForModel "web_search_preview" modelName
  let webSearch :=
    match calls.responses with
    | some (webSearchTool, _) => countedCalls preview webSearchTool groupRatio quotaPerUnit
    | none =>
      if modelName.endsWith "search-preview" then perThousand preview 1 groupRatio quotaPerUnit
      else 0
  let claudeWebSearch :=
    countedCalls (prices.getToolPrice "web_search") (some calls.claudeWebSearchRequests) groupRatio
      quotaPerUnit
  let fileSearch :=
    match calls.responses with
    | some (_, fileSearchTool) =>
      countedCalls (prices.getToolPrice "file_search") fileSearchTool groupRatio quotaPerUnit
    | none => 0
  let imageGeneration :=
    match calls.imageGeneration with
    | some (quality, size) =>
      prices.getGPTImage1PriceOnceCall quality size * groupRatio * quotaPerUnit
    | none => 0
  webSearch + claudeWebSearch + fileSearch + imageGeneration

/-- `usage.Cost.(float64)`, or 0. -/
def CostValue.toFloat64 : CostValue → ℚ
  | .float64 value => value
  | _ => 0

/-- `CalcOpenRouterCacheCreateTokens`. Without a model ratio the source divides by zero. -/
def calcOpenRouterCacheCreateTokens (quotaPerUnit : ℚ) (usage : Usage) (price : PriceData) : Int :=
  if price.cacheCreationRatio = 1 then 0
  else
    let quotaPrice := price.modelRatio / quotaPerUnit
    let promptCacheCreatePrice := quotaPrice * price.cacheCreationRatio
    let promptCacheReadPrice := quotaPrice * price.cacheRatio
    let completionPrice := quotaPrice * price.completionRatio
    roundHalfAway ((usage.cost.toFloat64 - usage.promptTokens * quotaPrice +
      usage.cachedTokens * (quotaPrice - promptCacheReadPrice) -
      usage.completionTokens * completionPrice) / (promptCacheCreatePrice - quotaPrice))

/-- The settings that price a text request. -/
structure TextSettings where
  quotaPerUnit : ℚ
  defaultModelRatio : String → Option ℚ
  inputAudioPricePerMillionTokens : String → ℚ
  toolPrices : ToolPrices

/-- What text billing reads besides the request, in exact decimals. -/
def TextSettings.env (settings : TextSettings) (calls : ToolCalls) (info : RelayInfo) :
    TextQuotaEnv where
  quotaPerUnit := settings.quotaPerUnit
  defaultModelRatio := settings.defaultModelRatio
  calcOpenRouterCacheCreateTokens := calcOpenRouterCacheCreateTokens settings.quotaPerUnit
  inputAudioPricePerMillionTokens := settings.inputAudioPricePerMillionTokens
  toolCallSurchargeQuota := calculateTextToolCallSurcharge settings.toolPrices calls
    info.originModelName info.priceData.groupRatio settings.quotaPerUnit

/-! ## Signs -/

theorem perThousand_nonneg {price groupRatio quotaPerUnit : ℚ} {count : Int} (hprice : 0 ≤ price)
    (hcount : 0 ≤ count) (hgroup : 0 ≤ groupRatio) (hunit : 0 ≤ quotaPerUnit) :
    0 ≤ perThousand price count groupRatio quotaPerUnit := by
  unfold perThousand
  have hcount' : (0 : ℚ) ≤ count := by exact_mod_cast hcount
  positivity

theorem countedCalls_nonneg {price groupRatio quotaPerUnit : ℚ} (count : Option Int)
    (hprice : 0 ≤ price) (hgroup : 0 ≤ groupRatio) (hunit : 0 ≤ quotaPerUnit) :
    0 ≤ countedCalls price count groupRatio quotaPerUnit := by
  unfold countedCalls
  split
  · split
    · exact perThousand_nonneg hprice (by omega) hgroup hunit
    · exact le_refl 0
  · exact le_refl 0

/-- Prices that are not negative make no negative surcharge. -/
theorem calculateTextToolCallSurcharge_nonneg {prices : ToolPrices} (calls : ToolCalls)
    (modelName : String) {groupRatio quotaPerUnit : ℚ}
    (hmodel : ∀ tool model, 0 ≤ prices.getToolPriceForModel tool model)
    (htool : ∀ tool, 0 ≤ prices.getToolPrice tool)
    (himage : ∀ quality size, 0 ≤ prices.getGPTImage1PriceOnceCall quality size)
    (hgroup : 0 ≤ groupRatio) (hunit : 0 ≤ quotaPerUnit) :
    0 ≤ calculateTextToolCallSurcharge prices calls modelName groupRatio quotaPerUnit := by
  unfold calculateTextToolCallSurcharge
  have hclaude := countedCalls_nonneg (some calls.claudeWebSearchRequests)
    (htool "web_search") hgroup hunit
  have himageCall : 0 ≤ (match calls.imageGeneration with
      | some (quality, size) =>
        prices.getGPTImage1PriceOnceCall quality size * groupRatio * quotaPerUnit
      | none => 0) := by
    split
    · exact mul_nonneg (mul_nonneg (himage _ _) hgroup) hunit
    · exact le_refl 0
  cases calls.responses with
  | some counts =>
    obtain ⟨webSearchTool, fileSearchTool⟩ := counts
    have hweb := countedCalls_nonneg webSearchTool
      (hmodel "web_search_preview" modelName) hgroup hunit
    have hfile := countedCalls_nonneg fileSearchTool (htool "file_search") hgroup hunit
    dsimp only
    linarith
  | none =>
    have hpreview := perThousand_nonneg (hmodel "web_search_preview" modelName)
      (show (0 : Int) ≤ 1 by omega) hgroup hunit
    dsimp only
    split
    · linarith
    · linarith

end TokenRouter
