import TokenRouter.Service.TextCharge
import TokenRouter.Spec.RealtimeOnce

/-!
# Sane text charges

A text request is never charged a negative quota, is charged at least 1 when it used tokens and
its ratios are not 0, and is charged no less for more prompt or completion tokens. The last has
one exception. The cache-creation tokens that `CalcOpenRouterCacheCreateTokens` estimates are
what the reported cost leaves over, rounded to whole tokens: when both counts are estimated the
charge follows the reported cost up to that rounding.
-/

namespace TokenRouter

/-- Prices and ratios that are not negative. -/
structure SanePrices (settings : TextSettings) (price : PriceData) : Prop where
  quotaPerUnit : 0 < settings.quotaPerUnit
  toolForModel : ∀ tool model, 0 ≤ settings.toolPrices.getToolPriceForModel tool model
  tool : ∀ tool, 0 ≤ settings.toolPrices.getToolPrice tool
  gptImage : ∀ quality size, 0 ≤ settings.toolPrices.getGPTImage1PriceOnceCall quality size
  modelPrice : 0 ≤ price.modelPrice
  modelRatio : 0 ≤ price.modelRatio
  completionRatio : 0 ≤ price.completionRatio
  cacheCreationRatio : 0 ≤ price.cacheCreationRatio
  groupRatio : 0 ≤ price.groupRatio
  otherRatios : ∀ ratio ∈ price.otherRatios, 0 ≤ ratio

/-- Counts that are not negative, and the two kinds of cache creation within their total. -/
structure SaneUsage (usage : Usage) : Prop where
  promptTokens : 0 ≤ usage.promptTokens
  completionTokens : 0 ≤ usage.completionTokens
  cachedTokens : 0 ≤ usage.cachedTokens
  audioTokens : 0 ≤ usage.audioTokens
  creation5m : 0 ≤ usage.claudeCacheCreation5mTokens
  creation1h : 0 ≤ usage.claudeCacheCreation1hTokens
  creation : usage.claudeCacheCreation5mTokens + usage.claudeCacheCreation1hTokens ≤
    usage.cachedCreationTokens

/-! ## Rounding -/

theorem roundHalfAway_of_nonneg {q : ℚ} (h : 0 ≤ roundHalfAway q) :
    roundHalfAway q = ⌊q + 1 / 2⌋ := by
  unfold roundHalfAway at h ⊢
  split
  · rfl
  · rename_i hneg
    rw [if_neg hneg] at h
    -- rounding a negative number to 0 puts it above `-1 / 2`
    have hfloor : ⌊-q + 1 / 2⌋ ≤ 0 := by omega
    have hq : -q + 1 / 2 < 1 := by
      have := Int.floor_lt.mp (show ⌊-q + 1 / 2⌋ < 1 by omega)
      exact_mod_cast this
    have hzero : ⌊-q + 1 / 2⌋ = 0 := Int.floor_eq_zero_iff.mpr ⟨by linarith, hq⟩
    have hzero' : ⌊q + 1 / 2⌋ = 0 := Int.floor_eq_zero_iff.mpr ⟨by linarith, by linarith⟩
    omega

theorem roundHalfAway_mono {q r : ℚ} (h : q ≤ r) : roundHalfAway q ≤ roundHalfAway r := by
  unfold roundHalfAway
  split
  · rw [if_pos (by linarith)]
    exact Int.floor_mono (by linarith)
  · rename_i hq
    split
    · have hleft : 0 ≤ ⌊-q + 1 / 2⌋ := Int.floor_nonneg.mpr (by linarith)
      have hright : 0 ≤ ⌊r + 1 / 2⌋ := Int.floor_nonneg.mpr (by linarith)
      omega
    · have hfloor : ⌊-r + 1 / 2⌋ ≤ ⌊-q + 1 / 2⌋ := Int.floor_mono (by linarith)
      omega

/-- What is rounded to a negative number lies below it by no more than a half. -/
theorem le_neg_half_of_roundHalfAway_neg {q : ℚ} (h : roundHalfAway q < 0) : q ≤ -1 / 2 := by
  unfold roundHalfAway at h
  split at h
  · have : 0 ≤ ⌊q + 1 / 2⌋ := Int.floor_nonneg.mpr (by linarith)
    omega
  · have hfloor : (1 : ℤ) ≤ ⌊-q + 1 / 2⌋ := by omega
    have := Int.le_floor.mp hfloor
    push_cast at this
    linarith

/-! ## Estimated cache creation

`x` is the estimate before rounding, `δ` the weight of the tokens that are added to the prompt and
the completion. Each of them takes `1 / (cacheCreationRatio - 1)` tokens from the estimate. -/

/-- Whether an estimate fits between no tokens and the rest of the prompt. -/
def estimateFits (room estimate : Int) : Prop := 0 ≤ estimate ∧ estimate ≤ room

instance (room estimate : Int) : Decidable (estimateFits room estimate) :=
  inferInstanceAs (Decidable (_ ∧ _))

variable {ratio x δ : ℚ} {room added : Int}

/-- An estimate that fits only after tokens were added weighs no more than they do. -/
theorem estimate_enters (hratio : 0 ≤ ratio) (hne : ratio ≠ 1) (hadded : 0 ≤ added)
    (hδ : (added : ℚ) ≤ δ) (hbefore : ¬ estimateFits room (roundHalfAway x))
    (hafter : estimateFits (room + added) (roundHalfAway (x - δ / (ratio - 1)))) :
    0 ≤ δ + (ratio - 1) * roundHalfAway (x - δ / (ratio - 1)) := by
  obtain ⟨hnonneg, hroom⟩ := hafter
  have hadded' : (0 : ℚ) ≤ added := by exact_mod_cast hadded
  have hestimate : (0 : ℚ) ≤ roundHalfAway (x - δ / (ratio - 1)) := by exact_mod_cast hnonneg
  rcases lt_or_gt_of_ne hne with hlow | hhigh
  · have hpos : 0 < 1 - ratio := by linarith
    have hstep : x - δ / (ratio - 1) = x + δ / (1 - ratio) := by
      rw [show ratio - 1 = -(1 - ratio) by ring, div_neg, sub_neg_eq_add]
    rw [hstep] at hnonneg hroom hestimate ⊢
    have hδstep : δ ≤ δ / (1 - ratio) := by
      rw [le_div_iff₀ hpos]
      nlinarith
    have hle : (roundHalfAway (x + δ / (1 - ratio)) : ℚ) ≤ x + δ / (1 - ratio) + 1 / 2 := by
      rw [roundHalfAway_of_nonneg hnonneg]
      exact Int.floor_le _
    -- the estimate grows by as many tokens as the prompt at least, so it was negative before
    have hneg : roundHalfAway x < 0 := by
      by_contra hge
      have hge' : 0 ≤ roundHalfAway x := by omega
      have hover : room + 1 ≤ roundHalfAway x := by
        by_contra hfits
        exact hbefore ⟨hge', by omega⟩
      rw [roundHalfAway_of_nonneg hge', Int.le_floor] at hover
      have hover' : room + added + 1 ≤ roundHalfAway (x + δ / (1 - ratio)) := by
        rw [roundHalfAway_of_nonneg hnonneg, Int.le_floor]
        push_cast at hover ⊢
        linarith
      omega
    have hx := le_neg_half_of_roundHalfAway_neg hneg
    have hbound : (roundHalfAway (x + δ / (1 - ratio)) : ℚ) ≤ δ / (1 - ratio) := by linarith
    rw [le_div_iff₀ hpos] at hbound
    linarith
  · have := mul_nonneg (show (0 : ℚ) ≤ ratio - 1 by linarith) hestimate
    linarith

/-- An estimate that fits only before tokens were added weighs no more than they do. -/
theorem estimate_leaves (hne : ratio ≠ 1) (hadded : 0 ≤ added) (hδ : (added : ℚ) ≤ δ)
    (hbefore : estimateFits room (roundHalfAway x))
    (hafter : ¬ estimateFits (room + added) (roundHalfAway (x - δ / (ratio - 1)))) :
    (ratio - 1) * roundHalfAway x ≤ δ := by
  obtain ⟨hnonneg, hroom⟩ := hbefore
  have hadded' : (0 : ℚ) ≤ added := by exact_mod_cast hadded
  have hestimate : (0 : ℚ) ≤ roundHalfAway x := by exact_mod_cast hnonneg
  rcases lt_or_gt_of_ne hne with hlow | hhigh
  · have := mul_nonneg (show (0 : ℚ) ≤ 1 - ratio by linarith) hestimate
    linarith
  · have hpos : 0 < ratio - 1 := by linarith
    have hless : x - δ / (ratio - 1) ≤ x := by
      have := div_nonneg (show 0 ≤ δ by linarith) hpos.le
      linarith
    -- the estimate only shrinks, so it can only have become negative
    have hneg : roundHalfAway (x - δ / (ratio - 1)) < 0 := by
      by_contra hge
      have := roundHalfAway_mono hless
      exact hafter ⟨by omega, by omega⟩
    have hx := le_neg_half_of_roundHalfAway_neg hneg
    have hle : (roundHalfAway x : ℚ) ≤ x + 1 / 2 := by
      rw [roundHalfAway_of_nonneg hnonneg]
      exact Int.floor_le _
    have hbound : (roundHalfAway x : ℚ) ≤ δ / (ratio - 1) := by linarith
    rw [le_div_iff₀ hpos] at hbound
    linarith

/-- Adding the weight of whole cache-creation tokens takes just these from the estimate. -/
theorem estimate_stays (hne : ratio ≠ 1) {n : Int} (hδ : δ = n * (ratio - 1))
    (hbefore : 0 ≤ roundHalfAway x) (hafter : 0 ≤ roundHalfAway (x - δ / (ratio - 1))) :
    (ratio - 1) * roundHalfAway x = δ + (ratio - 1) * roundHalfAway (x - δ / (ratio - 1)) := by
  have hstep : δ / (ratio - 1) = n := by
    rw [hδ, mul_div_assoc, div_self (sub_ne_zero.mpr hne), mul_one]
  rw [hstep] at hafter ⊢
  have hshift : roundHalfAway (x - n) = roundHalfAway x - n := by
    rw [roundHalfAway_of_nonneg hafter, roundHalfAway_of_nonneg hbefore,
      show x - n + 1 / 2 = x + 1 / 2 - n by ring, Int.floor_sub_intCast]
  rw [hshift, hδ]
  push_cast
  ring

/-! ## Weighted tokens -/

/-- Prompt tokens that are added are charged at the full ratio. -/
theorem promptCharge_addPrompt (s : TextQuotaSummary) (legacy : Bool) (price : PriceData)
    (added : Int) :
    (({ s with promptTokens := s.promptTokens + added }).promptCharge legacy).quota price =
      (s.promptCharge legacy).quota price + added := by
  have hbase : (({ s with promptTokens := s.promptTokens + added }).promptCharge
      legacy).baseTokens = (s.promptCharge legacy).baseTokens + added := by
    simp only [TextQuotaSummary.promptCharge]
    split_ifs <;> omega
  have hrest : ({ s with promptTokens := s.promptTokens + added }).promptCharge legacy =
      { s.promptCharge legacy with
        baseTokens := (({ s with promptTokens := s.promptTokens + added }).promptCharge
          legacy).baseTokens } := rfl
  rw [hrest, hbase]
  simp only [PromptCharge.quota]
  push_cast
  ring

/-- Under the semantic of Claude the created tokens are charged besides the prompt. -/
theorem promptCharge_created (s : TextQuotaSummary) (legacy : Bool) (price : PriceData)
    (hclaude : s.isClaudeUsageSemantic = true) (h5m : s.cacheCreationTokens5m = 0)
    (h1h : s.cacheCreationTokens1h = 0) {created : Int} (hcreated : 0 ≤ created) :
    (({ s with cacheCreationTokens := created }).promptCharge legacy).quota price =
      (({ s with cacheCreationTokens := 0 }).promptCharge legacy).quota price +
        created * price.cacheCreationRatio := by
  have hcharge : ({ s with cacheCreationTokens := created }).promptCharge legacy =
      { ({ s with cacheCreationTokens := 0 }).promptCharge legacy with created := created } := by
    rcases eq_or_ne created 0 with hzero | hzero
    · simp [TextQuotaSummary.promptCharge, hclaude, h5m, h1h, hzero]
    · simp [TextQuotaSummary.promptCharge, hclaude, h5m, h1h, hzero,
        show ¬ created < 0 by omega]
  have hnone : (({ s with cacheCreationTokens := 0 }).promptCharge legacy).created = 0 := by
    simp [TextQuotaSummary.promptCharge, h5m, h1h]
  rw [hcharge]
  simp only [PromptCharge.quota, hnone]
  push_cast
  ring

/-- The usage with other counts of prompt and completion tokens. -/
def Usage.withTokens (usage : Usage) (promptTokens completionTokens : Int) : Usage :=
  { usage with promptTokens := promptTokens, completionTokens := completionTokens }

/-- Whether the cache-creation tokens of a usage are estimated from its cost. -/
def estimatesCacheCreation (env : TextQuotaEnv) (info : RelayInfo) (usage : Usage) : Prop :=
  isOpenRouterClaudeBilling info (usageSemanticFromUsage info (some usage) = "anthropic") = true ∧
    usage.cachedCreationTokens = 0 ∧ info.priceData.cacheCreationRatio ≠ 1 ∧
      usage.cost ≠ .int 0 ∧
        ¬ (info.priceData.usePrice ||
          hasCustomModelRatio env info.originModelName info.priceData.modelRatio) = true

instance (env : TextQuotaEnv) (info : RelayInfo) (usage : Usage) :
    Decidable (estimatesCacheCreation env info usage) := inferInstanceAs (Decidable (_ ∧ _))

/-- Whether the estimate is what is charged. -/
def chargesEstimate (env : TextQuotaEnv) (info : RelayInfo) (usage : Usage) : Prop :=
  estimatesCacheCreation env info usage ∧
    estimateFits (usage.promptTokens - usage.cachedTokens)
      (env.calcOpenRouterCacheCreateTokens usage info.priceData)

instance (env : TextQuotaEnv) (info : RelayInfo) (usage : Usage) :
    Decidable (chargesEstimate env info usage) := inferInstanceAs (Decidable (_ ∧ _))

/-- The counters of a usage when so many cache-creation tokens are charged. -/
def summaryWith (env : TextQuotaEnv) (info : RelayInfo) (usage : Usage) (created : Int) :
    TextQuotaSummary :=
  { textQuotaTokens env info (some usage) with
    promptTokens :=
      if isOpenRouterClaudeBilling info (usageSemanticFromUsage info (some usage) = "anthropic")
      then usage.promptTokens - usage.cachedTokens - created
      else usage.promptTokens
    cacheCreationTokens := created }

theorem textQuotaTokens_eq (env : TextQuotaEnv) (info : RelayInfo) (usage : Usage) :
    textQuotaTokens env info (some usage) = summaryWith env info usage
      (if chargesEstimate env info usage then
        env.calcOpenRouterCacheCreateTokens usage info.priceData
      else usage.cachedCreationTokens) := by
  have hcreated : (if isOpenRouterClaudeBilling info
        (usageSemanticFromUsage info (some usage) = "anthropic") then
      openRouterCacheCreationTokens env info usage else usage.cachedCreationTokens) =
      if chargesEstimate env info usage then
        env.calcOpenRouterCacheCreateTokens usage info.priceData
      else usage.cachedCreationTokens := by
    unfold openRouterCacheCreationTokens
    dsimp only
    by_cases hcharges : chargesEstimate env info usage
    · obtain ⟨⟨hopen, heligible⟩, hfits⟩ := hcharges
      rw [if_pos hopen, if_pos heligible, if_pos ⟨hfits.1, hfits.2⟩,
        if_pos (show chargesEstimate env info usage from ⟨⟨hopen, heligible⟩, hfits⟩)]
    · rw [if_neg hcharges]
      split_ifs with hopen heligible hfits
      · exact absurd ⟨⟨hopen, heligible⟩, hfits⟩ hcharges
      · rfl
      · rfl
      · rfl
  rw [← hcreated]
  rfl

/-- The tokens of a usage, each at its ratio. -/
def weightedTokens (env : TextQuotaEnv) (info : RelayInfo) (usage : Usage) : ℚ :=
  (textPromptCharge env info (some usage)).quota info.priceData +
    usage.completionTokens * info.priceData.completionRatio

/-- What the estimate adds to the weight: its tokens move from the prompt to the created ones. -/
def estimateWeight (env : TextQuotaEnv) (info : RelayInfo) (usage : Usage) : ℚ :=
  if chargesEstimate env info usage then
    (info.priceData.cacheCreationRatio - 1) *
      env.calcOpenRouterCacheCreateTokens usage info.priceData
  else 0

/-- The charge of the prompt when the reported cache-creation tokens are charged. -/
def reportedPromptQuota (env : TextQuotaEnv) (info : RelayInfo) (usage : Usage) : ℚ :=
  ((summaryWith env info usage usage.cachedCreationTokens).promptCharge
    (isLegacyClaudeDerivedOpenAIUsage info usage)).quota info.priceData

theorem textPromptCharge_quota (env : TextQuotaEnv) (info : RelayInfo) {usage : Usage}
    (hsane : SaneUsage usage) :
    (textPromptCharge env info (some usage)).quota info.priceData =
      reportedPromptQuota env info usage + estimateWeight env info usage := by
  unfold textPromptCharge reportedPromptQuota estimateWeight
  rw [textQuotaTokens_eq, Option.getD_some]
  split
  · rename_i hcharges
    obtain ⟨⟨hopen, hnone, hrest⟩, hnonneg, hroom⟩ := hcharges
    have hclaude : (usageSemanticFromUsage info (some usage) = "anthropic") := by
      by_contra h
      simp only [isOpenRouterClaudeBilling, h, decide_false, Bool.and_false] at hopen
      split at hopen <;> contradiction
    have hsplit := hsane.creation
    have h5m := hsane.creation5m
    have h1h := hsane.creation1h
    generalize env.calcOpenRouterCacheCreateTokens usage info.priceData = estimate at hnonneg ⊢
    have hshift : summaryWith env info usage estimate =
        { ({ summaryWith env info usage 0 with cacheCreationTokens := estimate } :
            TextQuotaSummary) with
          promptTokens := (summaryWith env info usage 0).promptTokens + -estimate } := by
      simp only [summaryWith, hopen, if_true, Int.sub_zero, ← Int.sub_eq_add_neg]
    have hprompt := promptCharge_addPrompt
      { summaryWith env info usage 0 with cacheCreationTokens := estimate }
      (isLegacyClaudeDerivedOpenAIUsage info usage) info.priceData (-estimate)
    have hcreated := promptCharge_created (summaryWith env info usage 0)
      (isLegacyClaudeDerivedOpenAIUsage info usage) info.priceData
      (decide_eq_true hclaude) (show usage.claudeCacheCreation5mTokens = 0 by omega)
      (show usage.claudeCacheCreation1hTokens = 0 by omega) hnonneg
    rw [hshift, hprompt, hcreated, hnone]
    push_cast
    have hsame : ({ summaryWith env info usage 0 with cacheCreationTokens := 0 } :
        TextQuotaSummary) = summaryWith env info usage 0 := rfl
    rw [hsame]
    ring
  · rw [add_zero]

/-! ## More tokens -/

/-- The weight of the tokens that `withTokens` adds. -/
def addedWeight (price : PriceData) (usage : Usage) (promptTokens completionTokens : Int) : ℚ :=
  (promptTokens - usage.promptTokens : Int) +
    (completionTokens - usage.completionTokens : Int) * price.completionRatio

theorem reportedPromptQuota_withTokens (env : TextQuotaEnv) (info : RelayInfo) (usage : Usage)
    (promptTokens completionTokens : Int) :
    reportedPromptQuota env info (usage.withTokens promptTokens completionTokens) =
      reportedPromptQuota env info usage + (promptTokens - usage.promptTokens : Int) := by
  have hcharge : ∀ legacy,
      (summaryWith env info (usage.withTokens promptTokens completionTokens)
        usage.cachedCreationTokens).promptCharge legacy =
      ({ summaryWith env info usage usage.cachedCreationTokens with
        promptTokens := (summaryWith env info usage usage.cachedCreationTokens).promptTokens +
          (promptTokens - usage.promptTokens) }).promptCharge legacy := by
    intro legacy
    have hprompt : (summaryWith env info (usage.withTokens promptTokens completionTokens)
        usage.cachedCreationTokens).promptTokens =
        (summaryWith env info usage usage.cachedCreationTokens).promptTokens +
          (promptTokens - usage.promptTokens) := by
      show (if isOpenRouterClaudeBilling info
            (usageSemanticFromUsage info (some usage) = "anthropic")
          then promptTokens - usage.cachedTokens - usage.cachedCreationTokens
          else promptTokens) =
        (if isOpenRouterClaudeBilling info (usageSemanticFromUsage info (some usage) = "anthropic")
          then usage.promptTokens - usage.cachedTokens - usage.cachedCreationTokens
          else usage.promptTokens) + (promptTokens - usage.promptTokens)
      split <;> omega
    -- the charge of a prompt reads no completion and no total
    show ({ summaryWith env info usage usage.cachedCreationTokens with
        promptTokens := (summaryWith env info (usage.withTokens promptTokens completionTokens)
          usage.cachedCreationTokens).promptTokens }).promptCharge legacy = _
    rw [hprompt]
  unfold reportedPromptQuota
  rw [show (usage.withTokens promptTokens completionTokens).cachedCreationTokens =
    usage.cachedCreationTokens from rfl, hcharge, promptCharge_addPrompt]
  rfl

/-- The added tokens take their weight from what the cost leaves for cache creation. -/
theorem calcOpenRouterCacheCreateTokens_withTokens {quotaPerUnit : ℚ} {price : PriceData}
    (hunit : quotaPerUnit ≠ 0) (hmodel : price.modelRatio ≠ 0)
    (hcreate : price.cacheCreationRatio ≠ 1) (usage : Usage) (promptTokens completionTokens : Int) :
    ∃ x : ℚ, calcOpenRouterCacheCreateTokens quotaPerUnit usage price = roundHalfAway x ∧
      calcOpenRouterCacheCreateTokens quotaPerUnit
        (usage.withTokens promptTokens completionTokens) price =
        roundHalfAway (x - addedWeight price usage promptTokens completionTokens /
          (price.cacheCreationRatio - 1)) := by
  unfold calcOpenRouterCacheCreateTokens
  rw [if_neg hcreate, if_neg hcreate]
  have hden : price.cacheCreationRatio - 1 ≠ 0 := sub_ne_zero.mpr hcreate
  have hquota : price.modelRatio / quotaPerUnit ≠ 0 := div_ne_zero hmodel hunit
  dsimp only
  generalize price.modelRatio / quotaPerUnit = quotaPrice at hquota
  refine ⟨_, rfl, congrArg roundHalfAway ?_⟩
  rw [show quotaPrice * price.cacheCreationRatio - quotaPrice =
    quotaPrice * (price.cacheCreationRatio - 1) by ring]
  simp only [Usage.withTokens, addedWeight]
  push_cast
  field_simp
  ring

section Prices

variable {settings : TextSettings} {calls : ToolCalls} {info : RelayInfo}

/-- Whether the added tokens weigh as much as a whole number of cache-creation tokens. -/
def wholeStep (price : PriceData) (usage : Usage) (promptTokens completionTokens : Int) : Prop :=
  ∃ n : Int, addedWeight price usage promptTokens completionTokens =
    n * (price.cacheCreationRatio - 1)

theorem weightedTokens_mono (hprices : SanePrices settings info.priceData)
    (hmodel : info.priceData.modelRatio ≠ 0) {usage : Usage} (hsane : SaneUsage usage)
    {promptTokens completionTokens : Int} (hprompt : usage.promptTokens ≤ promptTokens)
    (hcompletion : usage.completionTokens ≤ completionTokens)
    (hwhole : chargesEstimate (settings.env calls info) info usage →
      chargesEstimate (settings.env calls info) info
        (usage.withTokens promptTokens completionTokens) →
      wholeStep info.priceData usage promptTokens completionTokens) :
    weightedTokens (settings.env calls info) info usage ≤
      weightedTokens (settings.env calls info) info
        (usage.withTokens promptTokens completionTokens) := by
  have hsane' : SaneUsage (usage.withTokens promptTokens completionTokens) :=
    { hsane with
      promptTokens := le_trans hsane.promptTokens hprompt
      completionTokens := le_trans hsane.completionTokens hcompletion }
  -- the reported charge grows by the added weight, so the estimate may take at most that
  suffices hestimate : estimateWeight (settings.env calls info) info usage ≤
      addedWeight info.priceData usage promptTokens completionTokens +
        estimateWeight (settings.env calls info) info
          (usage.withTokens promptTokens completionTokens) by
    unfold weightedTokens
    rw [textPromptCharge_quota _ _ hsane, textPromptCharge_quota _ _ hsane',
      reportedPromptQuota_withTokens]
    simp only [addedWeight] at hestimate
    simp only [Usage.withTokens] at hestimate ⊢
    push_cast at hestimate ⊢
    linarith
  have hadded : 0 ≤ promptTokens - usage.promptTokens := by omega
  have hδ : ((promptTokens - usage.promptTokens : Int) : ℚ) ≤
      addedWeight info.priceData usage promptTokens completionTokens := by
    have hcount : (0 : ℚ) ≤ (completionTokens - usage.completionTokens : Int) := by
      exact_mod_cast (show 0 ≤ completionTokens - usage.completionTokens by omega)
    have := mul_nonneg hcount hprices.completionRatio
    unfold addedWeight
    linarith
  have hδnonneg : 0 ≤ addedWeight info.priceData usage promptTokens completionTokens :=
    le_trans (by exact_mod_cast hadded) hδ
  by_cases heligible : estimatesCacheCreation (settings.env calls info) info usage
  · have hcreate := heligible.2.2.1
    obtain ⟨x, hbefore, hafter⟩ := calcOpenRouterCacheCreateTokens_withTokens
      hprices.quotaPerUnit.ne' hmodel hcreate usage promptTokens completionTokens
    have hcharges : chargesEstimate (settings.env calls info) info usage ↔
        estimateFits (usage.promptTokens - usage.cachedTokens) (roundHalfAway x) := by
      rw [← hbefore]
      exact and_iff_right heligible
    have hcharges' : chargesEstimate (settings.env calls info) info
        (usage.withTokens promptTokens completionTokens) ↔
        estimateFits (usage.promptTokens - usage.cachedTokens +
          (promptTokens - usage.promptTokens))
          (roundHalfAway (x - addedWeight info.priceData usage promptTokens completionTokens /
            (info.priceData.cacheCreationRatio - 1))) := by
      rw [← hafter, show usage.promptTokens - usage.cachedTokens +
        (promptTokens - usage.promptTokens) = promptTokens - usage.cachedTokens by omega]
      exact and_iff_right heligible
    have hcalc : (settings.env calls info).calcOpenRouterCacheCreateTokens usage info.priceData =
        roundHalfAway x := hbefore
    have hcalc' : (settings.env calls info).calcOpenRouterCacheCreateTokens
        (usage.withTokens promptTokens completionTokens) info.priceData = _ := hafter
    unfold estimateWeight
    rw [hcalc, hcalc']
    by_cases hfirst : chargesEstimate (settings.env calls info) info usage
    · by_cases hsecond : chargesEstimate (settings.env calls info) info
          (usage.withTokens promptTokens completionTokens)
      · obtain ⟨n, hn⟩ := hwhole hfirst hsecond
        rw [if_pos hfirst, if_pos hsecond]
        exact (estimate_stays hcreate hn (hcharges.mp hfirst).1 (hcharges'.mp hsecond).1).le
      · rw [if_pos hfirst, if_neg hsecond, add_zero]
        exact estimate_leaves hcreate hadded hδ (hcharges.mp hfirst)
          (fun hfits => hsecond (hcharges'.mpr hfits))
    · by_cases hsecond : chargesEstimate (settings.env calls info) info
          (usage.withTokens promptTokens completionTokens)
      · rw [if_neg hfirst, if_pos hsecond]
        exact estimate_enters hprices.cacheCreationRatio hcreate hadded hδ
          (fun hfits => hfirst (hcharges.mpr hfits)) (hcharges'.mp hsecond)
      · rw [if_neg hfirst, if_neg hsecond, add_zero]
        exact hδnonneg
  · unfold estimateWeight
    rw [if_neg (fun hcharges => heligible hcharges.1),
      if_neg (fun hcharges : chargesEstimate (settings.env calls info) info
        (usage.withTokens promptTokens completionTokens) => heligible hcharges.1), add_zero]
    exact hδnonneg

/-! ## The charge -/

/-- `modelRatio * groupRatio` -/
def chargeRatio (price : PriceData) : ℚ := price.modelRatio * price.groupRatio

/-- The charge before it is rounded. -/
def calculatedQuota (env : TextQuotaEnv) (info : RelayInfo) (usage : Option Usage) : ℚ :=
  if ¬ info.priceData.usePrice then
    (((textPromptCharge env info usage).quota info.priceData +
      (textQuotaTokens env info usage).completionTokens * info.priceData.completionRatio) *
        chargeRatio info.priceData + env.toolCallSurchargeQuota +
      (textQuotaTokens env info usage).audioInputQuota env info.priceData) *
      info.priceData.otherRatios.prod
  else
    (info.priceData.modelPrice * env.quotaPerUnit * info.priceData.groupRatio +
      env.toolCallSurchargeQuota) * info.priceData.otherRatios.prod

theorem roundHalfAway_nonpos {q : ℚ} (h : q ≤ 0) : roundHalfAway q ≤ 0 := by
  have := roundHalfAway_mono h
  rwa [show roundHalfAway 0 = 0 by decide +kernel] at this

/-- The two rules of the least charge make it 1 for every request that has a ratio and used
    tokens. -/
theorem calculateTextQuotaSummary_quota (env : TextQuotaEnv) (info : RelayInfo)
    (usage : Option Usage)
    (hprice : info.priceData.usePrice = true → 0 ≤ calculatedQuota env info usage) :
    (calculateTextQuotaSummary env info usage).quota =
      if (textQuotaTokens env info usage).totalTokens = 0 then 0
      else if chargeRatio info.priceData = 0 then roundHalfAway (calculatedQuota env info usage)
      else max 1 (roundHalfAway (calculatedQuota env info usage)) := by
  have hone : roundHalfAway 1 = 1 := by decide +kernel
  have hquota : (calculateTextQuotaSummary env info usage).quota =
      if (textQuotaTokens env info usage).totalTokens = 0 then 0
      else if chargeRatio info.priceData ≠ 0 ∧
        (if ¬ info.priceData.usePrice ∧ chargeRatio info.priceData ≠ 0 ∧
            calculatedQuota env info usage ≤ 0 then roundHalfAway 1
          else roundHalfAway (calculatedQuota env info usage)) = 0 then 1
      else if ¬ info.priceData.usePrice ∧ chargeRatio info.priceData ≠ 0 ∧
            calculatedQuota env info usage ≤ 0 then roundHalfAway 1
          else roundHalfAway (calculatedQuota env info usage) := by
    cases huse : info.priceData.usePrice with
    | true => simp [calculateTextQuotaSummary, calculatedQuota, chargeRatio, huse]
    | false => simp [calculateTextQuotaSummary, calculatedQuota, chargeRatio, huse]
  rw [hquota]
  by_cases htotal : (textQuotaTokens env info usage).totalTokens = 0
  · rw [if_pos htotal, if_pos htotal]
  rw [if_neg htotal, if_neg htotal]
  by_cases hratio : chargeRatio info.priceData = 0
  · rw [if_pos hratio, if_neg (fun h => h.1 hratio), if_neg (fun h => h.2.1 hratio)]
  rw [if_neg hratio]
  by_cases hleast : ¬ info.priceData.usePrice ∧ chargeRatio info.priceData ≠ 0 ∧
      calculatedQuota env info usage ≤ 0
  · rw [if_pos hleast, hone, if_neg (by omega)]
    have := roundHalfAway_nonpos hleast.2.2
    omega
  · rw [if_neg hleast]
    have hcalculated : 0 ≤ calculatedQuota env info usage := by
      by_cases huse : info.priceData.usePrice = true
      · exact hprice huse
      · by_contra hneg
        exact hleast ⟨huse, hratio, by linarith⟩
    have := roundHalfAway_nonneg hcalculated
    by_cases hzero : roundHalfAway (calculatedQuota env info usage) = 0
    · rw [if_pos ⟨hratio, hzero⟩]
      omega
    · rw [if_neg (fun h => hzero h.2)]
      omega

theorem SanePrices.prod_nonneg {price : PriceData} (hprices : SanePrices settings price) :
    0 ≤ price.otherRatios.prod := List.prod_nonneg hprices.otherRatios

theorem surcharge_nonneg (calls : ToolCalls) (hprices : SanePrices settings info.priceData) :
    0 ≤ (settings.env calls info).toolCallSurchargeQuota :=
  calculateTextToolCallSurcharge_nonneg calls info.originModelName hprices.toolForModel
    hprices.tool hprices.gptImage hprices.groupRatio hprices.quotaPerUnit.le

theorem audioInputQuota_nonneg (calls : ToolCalls) (hprices : SanePrices settings info.priceData)
    {s : TextQuotaSummary} (haudio : 0 ≤ s.audioTokens) :
    0 ≤ s.audioInputQuota (settings.env calls info) info.priceData := by
  unfold TextQuotaSummary.audioInputQuota
  split
  · rename_i hcharged
    have haudio' : (0 : ℚ) ≤ s.audioTokens := by exact_mod_cast haudio
    have hgroup := hprices.groupRatio
    have hunit : 0 ≤ (settings.env calls info).quotaPerUnit := hprices.quotaPerUnit.le
    have hper : 0 ≤ s.audioInputPrice := hcharged.2.le
    positivity
  · exact le_refl 0

/-- The usage that is charged when the upstream reports none. -/
def reportedUsage (info : RelayInfo) (usage : Option Usage) : Usage :=
  usage.getD { promptTokens := info.estimatePromptTokens }

/-- A price for the request, and a request without a ratio, are never calculated negative. -/
theorem calculatedQuota_nonneg (hprices : SanePrices settings info.priceData)
    {usage : Option Usage} (hsane : SaneUsage (reportedUsage info usage))
    (hcase : info.priceData.usePrice = true ∨ chargeRatio info.priceData = 0) :
    0 ≤ calculatedQuota (settings.env calls info) info usage := by
  have hsurcharge := surcharge_nonneg calls hprices
  unfold calculatedQuota
  split
  · rename_i huse
    have hratio := hcase.resolve_left huse
    have haudio := audioInputQuota_nonneg calls hprices
      (s := textQuotaTokens (settings.env calls info) info usage) hsane.audioTokens
    rw [hratio, mul_zero]
    exact mul_nonneg (by linarith) hprices.prod_nonneg
  · have hunit : 0 ≤ (settings.env calls info).quotaPerUnit := hprices.quotaPerUnit.le
    have := mul_nonneg (mul_nonneg hprices.modelPrice hunit) hprices.groupRatio
    exact mul_nonneg (by linarith) hprices.prod_nonneg

/-- More tokens are calculated no less. -/
theorem calculatedQuota_mono (hprices : SanePrices settings info.priceData)
    {usage : Usage} (hsane : SaneUsage usage)
    {promptTokens completionTokens : Int} (hprompt : usage.promptTokens ≤ promptTokens)
    (hcompletion : usage.completionTokens ≤ completionTokens)
    (hwhole : chargesEstimate (settings.env calls info) info usage →
      chargesEstimate (settings.env calls info) info
        (usage.withTokens promptTokens completionTokens) →
      wholeStep info.priceData usage promptTokens completionTokens) :
    calculatedQuota (settings.env calls info) info (some usage) ≤
      calculatedQuota (settings.env calls info) info
        (some (usage.withTokens promptTokens completionTokens)) := by
  unfold calculatedQuota
  split
  · have hweight : weightedTokens (settings.env calls info) info usage *
          chargeRatio info.priceData ≤
        weightedTokens (settings.env calls info) info
          (usage.withTokens promptTokens completionTokens) * chargeRatio info.priceData := by
      by_cases hmodel : info.priceData.modelRatio = 0
      · simp [chargeRatio, hmodel]
      · exact mul_le_mul_of_nonneg_right
          (weightedTokens_mono hprices hmodel hsane hprompt hcompletion hwhole)
          (mul_nonneg hprices.modelRatio hprices.groupRatio)
    have haudio : (textQuotaTokens (settings.env calls info) info
          (some (usage.withTokens promptTokens completionTokens))).audioInputQuota
            (settings.env calls info) info.priceData =
        (textQuotaTokens (settings.env calls info) info (some usage)).audioInputQuota
          (settings.env calls info) info.priceData := rfl
    rw [haudio]
    exact mul_le_mul_of_nonneg_right (add_le_add_left (add_le_add_left hweight _) _)
      hprices.prod_nonneg
  · exact le_refl _

/-- Text charges are never negative, at least 1 for a request with a ratio that used tokens, and
    no less for more tokens unless both counts of cache creation are estimated and the added
    tokens do not weigh as much as whole cache-creation tokens. -/
theorem textCharge_sane (settings : TextSettings) (calls : ToolCalls) (info : RelayInfo)
    (hprices : SanePrices settings info.priceData) :
    (∀ usage, SaneUsage (reportedUsage info usage) →
      0 ≤ (calculateTextQuotaSummary (settings.env calls info) info usage).quota) ∧
    (∀ usage, SaneUsage (reportedUsage info usage) → chargeRatio info.priceData ≠ 0 →
      (reportedUsage info usage).promptTokens + (reportedUsage info usage).completionTokens ≠ 0 →
      1 ≤ (calculateTextQuotaSummary (settings.env calls info) info usage).quota) ∧
    ∀ usage promptTokens completionTokens, SaneUsage usage →
      usage.promptTokens ≤ promptTokens → usage.completionTokens ≤ completionTokens →
      (chargesEstimate (settings.env calls info) info usage →
        chargesEstimate (settings.env calls info) info
          (usage.withTokens promptTokens completionTokens) →
        wholeStep info.priceData usage promptTokens completionTokens) →
      (calculateTextQuotaSummary (settings.env calls info) info (some usage)).quota ≤
        (calculateTextQuotaSummary (settings.env calls info) info
          (some (usage.withTokens promptTokens completionTokens))).quota := by
  have hquota := fun (usage : Option Usage) (hsane : SaneUsage (reportedUsage info usage)) =>
    calculateTextQuotaSummary_quota (settings.env calls info) info usage
      (fun huse => calculatedQuota_nonneg hprices hsane (.inl huse))
  have hnonneg : ∀ usage, SaneUsage (reportedUsage info usage) →
      0 ≤ (calculateTextQuotaSummary (settings.env calls info) info usage).quota := by
    intro usage hsane
    rw [hquota usage hsane]
    split
    · exact le_refl 0
    · split
      · rename_i hratio
        exact roundHalfAway_nonneg (calculatedQuota_nonneg hprices hsane (.inr hratio))
      · omega
  refine ⟨hnonneg, ?_, ?_⟩
  · intro usage hsane hratio htotal
    rw [hquota usage hsane,
      if_neg (show (textQuotaTokens _ info usage).totalTokens ≠ 0 from htotal), if_neg hratio]
    omega
  · intro usage promptTokens completionTokens hsane hprompt hcompletion hwhole
    have hsane' : SaneUsage (usage.withTokens promptTokens completionTokens) :=
      { hsane with
        promptTokens := le_trans hsane.promptTokens hprompt
        completionTokens := le_trans hsane.completionTokens hcompletion }
    by_cases htotal : (textQuotaTokens (settings.env calls info) info (some usage)).totalTokens = 0
    · rw [hquota (some usage) hsane, if_pos htotal]
      exact hnonneg _ hsane'
    · have htotal' : (textQuotaTokens (settings.env calls info) info
          (some (usage.withTokens promptTokens completionTokens))).totalTokens ≠ 0 := by
        have hprompt0 := hsane.promptTokens
        have hcompletion0 := hsane.completionTokens
        change usage.promptTokens + usage.completionTokens ≠ 0 at htotal
        show promptTokens + completionTokens ≠ 0
        omega
      have hround := roundHalfAway_mono
        (calculatedQuota_mono hprices hsane hprompt hcompletion hwhole)
      rw [hquota (some usage) hsane,
        hquota (some (usage.withTokens promptTokens completionTokens)) hsane', if_neg htotal,
        if_neg htotal']
      split
      · exact hround
      · omega

end Prices

/-! ## A cost that does not grow with the prompt -/

/-- Half a million quota for a dollar, and a model at its default ratio. -/
def centSettings : TextSettings where
  quotaPerUnit := 500000
  defaultModelRatio := fun _ => some 1
  inputAudioPricePerMillionTokens := fun _ => 0
  toolPrices := { getToolPriceForModel := fun _ _ => 0, getToolPrice := fun _ => 0,
                  getGPTImage1PriceOnceCall := fun _ _ => 0 }

/-- A request that an OpenRouter channel answers under the semantic of Claude. -/
def openRouterInfo : RelayInfo where
  requestId := "r1"
  originModelName := "claude"
  channelMeta := some { channelId := 1, channelBaseUrl := "", channelType := channelTypeOpenRouter }
  priceData := { modelRatio := 1, groupRatio := 1, cacheCreationRatio := 3 }

/-- A prompt that cost as much as 20 tokens at the full ratio. -/
def costedUsage (promptTokens : Int) : Usage where
  promptTokens := promptTokens
  usageSemantic := "anthropic"
  cost := .float64 (20 / 500000)

theorem costedUsage_sane {promptTokens : Int} (h : 0 ≤ promptTokens) :
    SaneUsage (costedUsage promptTokens) where
  promptTokens := h
  completionTokens := le_refl 0
  cachedTokens := le_refl 0
  audioTokens := le_refl 0
  creation5m := le_refl 0
  creation1h := le_refl 0
  creation := le_refl 0

theorem centSettings_sane : SanePrices centSettings openRouterInfo.priceData where
  quotaPerUnit := by decide
  toolForModel := fun _ _ => le_refl 0
  tool := fun _ => le_refl 0
  gptImage := fun _ _ => le_refl 0
  modelPrice := le_refl 0
  modelRatio := by decide
  completionRatio := le_refl 0
  cacheCreationRatio := by decide
  groupRatio := by decide
  otherRatios := by decide

/-- From 25 prompt tokens on the cost leaves nothing, and a token more is charged. -/
theorem textCharge_sane_costed :
    0 ≤ (calculateTextQuotaSummary (centSettings.env {} openRouterInfo) openRouterInfo
      (some (costedUsage 25))).quota ∧
    1 ≤ (calculateTextQuotaSummary (centSettings.env {} openRouterInfo) openRouterInfo
      (some (costedUsage 25))).quota ∧
    (calculateTextQuotaSummary (centSettings.env {} openRouterInfo) openRouterInfo
      (some (costedUsage 25))).quota ≤
    (calculateTextQuotaSummary (centSettings.env {} openRouterInfo) openRouterInfo
      (some ((costedUsage 25).withTokens 26 0))).quota :=
  have hsane := textCharge_sane centSettings {} openRouterInfo centSettings_sane
  ⟨hsane.1 (some (costedUsage 25)) (costedUsage_sane (by decide)),
    hsane.2.1 (some (costedUsage 25)) (costedUsage_sane (by decide)) (by decide +kernel)
      (by decide +kernel),
    hsane.2.2 (costedUsage 25) 26 0 (costedUsage_sane (by decide)) (by decide) (by decide)
      (fun h => absurd h (by decide +kernel))⟩

/-- An 11th prompt token leaves room for 5 cache-creation tokens (4.5 rounded) and is charged 21,
    a 12th for 4 and is charged 20. -/
theorem prompt_token_lowers_charge :
    ¬ (∀ (settings : TextSettings) (calls : ToolCalls) (info : RelayInfo),
      SanePrices settings info.priceData →
      ∀ usage promptTokens, SaneUsage usage → usage.promptTokens ≤ promptTokens →
        (calculateTextQuotaSummary (settings.env calls info) info (some usage)).quota ≤
          (calculateTextQuotaSummary (settings.env calls info) info
            (some (usage.withTokens promptTokens usage.completionTokens))).quota) := by
  intro h
  have hle := h centSettings {} openRouterInfo centSettings_sane (costedUsage 11) 12
    (costedUsage_sane (by decide)) (by decide)
  have hless : (calculateTextQuotaSummary (centSettings.env {} openRouterInfo) openRouterInfo
        (some ((costedUsage 11).withTokens 12 0))).quota = 20 ∧
      (calculateTextQuotaSummary (centSettings.env {} openRouterInfo) openRouterInfo
        (some (costedUsage 11))).quota = 21 := by decide +kernel
  have hmore : (calculateTextQuotaSummary (centSettings.env {} openRouterInfo) openRouterInfo
        (some ((costedUsage 11).withTokens 12 (costedUsage 11).completionTokens))).quota = 20 :=
    hless.1
  omega

end TokenRouter
