import TokenRouter.Service.TieredSettle
import TokenRouter.Spec.SellCost

/-!
# The tokens of a tiered expression

`BuildTieredTokenParams` splits a usage for an expression, `calculateTextQuotaSummary` for the
ratios. Of an OpenAI usage the expression sees every token once. Of an Anthropic usage the two
read the cache-creation counters differently: the total, its split or both may be reported.

## Key results

- `buildTieredTokenParams_openAI`: no token of an OpenAI usage is lost
- `tokensConserved_iff`: when the cache-creation tokens of the expression are those charged
-/

namespace TokenRouter

namespace CompletedUsage

/-- No counter is negative. -/
structure CountsNonneg (u : CompletedUsage) : Prop extends u.toUsage.CountsNonneg where
  image : 0 ≤ u.imageTokens
  audio : 0 ≤ u.audioTokens
  outputImage : 0 ≤ u.completionTokenDetails.imageTokens
  outputAudio : 0 ≤ u.completionTokenDetails.audioTokens

/-- The counts of the sub-categories are contained in the totals. -/
structure Contained (u : CompletedUsage) : Prop where
  input : u.cachedTokens + u.cachedCreationTokens + u.imageTokens + u.audioTokens ≤ u.promptTokens
  output : u.completionTokenDetails.imageTokens + u.completionTokenDetails.audioTokens ≤
    u.completionTokens

end CompletedUsage

namespace TokenParams

/-- The counts of the input variables that the expression uses. -/
def usedInputs (t : TokenParams) (usedVars : String → Bool) : Int :=
  (if usedVars "cr" then t.cr else 0) + (if usedVars "cc" then t.cc else 0) +
    (if usedVars "cc1h" then t.cc1h else 0) + (if usedVars "img" then t.img else 0) +
    (if usedVars "ai" then t.ai else 0)

/-- The counts of the output variables that the expression uses. -/
def usedOutputs (t : TokenParams) (usedVars : String → Bool) : Int :=
  (if usedVars "img_o" then t.imgO else 0) + (if usedVars "ao" then t.ao else 0)

end TokenParams

/-- The parameters of a usage under its semantic. -/
def tieredTokens (info : RelayInfo) (u : CompletedUsage) (usedVars : String → Bool) :
    TokenParams :=
  buildTieredTokenParams u (u.isClaude info) usedVars

/-- A count that is subtracted or not is not negative and at most the count. -/
theorem subtracted_bounds (used : Bool) {count : Int} (h : 0 ≤ count) :
    0 ≤ (if used then count else 0) ∧ (if used then count else 0) ≤ count := by
  split <;> omega

/-- The semantic of an Anthropic usage is named, or follows from the format. -/
theorem usageSemantic_of_not_claude {info : RelayInfo} {u : Usage} (h : u.isClaude info = false) :
    u.usageSemantic ≠ "anthropic" := by
  intro hnamed
  simp [Usage.isClaude, usageSemanticFromUsage, hnamed] at h

/-- Of an OpenAI usage no token is lost. -/
theorem buildTieredTokenParams_openAI {info : RelayInfo} {u : CompletedUsage}
    (usedVars : String → Bool) (hcounts : u.CountsNonneg) (hopenAI : u.isClaude info = false)
    (hcontained : u.Contained) :
    (tieredTokens info u usedVars).p + (tieredTokens info u usedVars).usedInputs usedVars =
        u.promptTokens ∧
      (tieredTokens info u usedVars).c + (tieredTokens info u usedVars).usedOutputs usedVars =
        u.completionTokens := by
  have hsemantic := usageSemantic_of_not_claude hopenAI
  obtain ⟨hinput, houtput⟩ := hcontained
  have hcr := subtracted_bounds (usedVars "cr") hcounts.cached
  have hcc := subtracted_bounds (usedVars "cc") hcounts.created
  have himg := subtracted_bounds (usedVars "img") hcounts.image
  have hai := subtracted_bounds (usedVars "ai") hcounts.audio
  have himgO := subtracted_bounds (usedVars "img_o") hcounts.outputImage
  have hao := subtracted_bounds (usedVars "ao") hcounts.outputAudio
  simp only [tieredTokens, buildTieredTokenParams, TokenParams.usedInputs,
    TokenParams.usedOutputs, hopenAI, hsemantic, decide_false, Bool.false_eq_true, if_false,
    ite_self]
  -- what is subtracted stays within the totals, so nothing is cut off at zero
  constructor
  · rw [if_neg (by omega)]
    omega
  · rw [if_neg (by omega)]
    omega

/-- The cache-creation tokens that the ratios start from: the reported ones, or what an
    OpenRouter request infers. -/
def reportedCreated (env : TextQuotaEnv) (info : RelayInfo) (u : Usage) : Int :=
  if isOpenRouterClaudeBilling info (u.isClaude info) then openRouterCacheCreationTokens env info u
  else u.cachedCreationTokens

/-- What the ratios charge for the cache creation of an Anthropic usage. -/
theorem textPromptCharge_allCreated (env : TextQuotaEnv) {info : RelayInfo} {u : Usage}
    (hcounts : u.CountsNonneg) (hclaude : u.isClaude info = true) :
    (textPromptCharge env info (some u)).allCreated =
      max (reportedCreated env info u) u.splitCreated :=
  TextQuotaSummary.promptCharge_allCreated (s := textQuotaTokens env info (some u)) _
    (.inl hclaude) hcounts.created5m hcounts.created1h

/-- What an expression sees of the cache creation of an Anthropic usage. -/
theorem buildTieredTokenParams_created {info : RelayInfo} {u : CompletedUsage}
    (usedVars : String → Bool) (hclaude : u.isClaude info = true) :
    (tieredTokens info u usedVars).cc + (tieredTokens info u usedVars).cc1h =
        (if u.usageSemantic = "anthropic" then u.splitCreated else u.cachedCreationTokens) ∧
      (tieredTokens info u usedVars).len = u.promptTokens + u.cachedTokens +
        ((tieredTokens info u usedVars).cc + (tieredTokens info u usedVars).cc1h) := by
  simp only [tieredTokens, buildTieredTokenParams, hclaude, decide_eq_true_eq, if_true]
  constructor
  · split
    · rfl
    · omega
  · omega

/-- No token is lost: an OpenAI usage whose sub-categories are contained is split exactly, and of
    an Anthropic usage the expression sees the cache-creation tokens that the ratios charge. -/
structure TokensConserved (env : TextQuotaEnv) (info : RelayInfo) (u : CompletedUsage)
    (usedVars : String → Bool) : Prop where
  openAI : u.isClaude info = false → u.Contained →
    (tieredTokens info u usedVars).p + (tieredTokens info u usedVars).usedInputs usedVars =
        u.promptTokens ∧
      (tieredTokens info u usedVars).c + (tieredTokens info u usedVars).usedOutputs usedVars =
        u.completionTokens
  created : u.isClaude info = true →
    (tieredTokens info u usedVars).cc + (tieredTokens info u usedVars).cc1h =
      (textPromptCharge env info (some u.toUsage)).allCreated
  len : u.isClaude info = true →
    (tieredTokens info u usedVars).len = u.promptTokens + u.cachedTokens +
      (textPromptCharge env info (some u.toUsage)).allCreated

/-- For every usage with counts that are not negative and all variables: no token is lost if and
    only if the usage is OpenAI's, or names the Anthropic semantic and reports no more
    cache-creation tokens than their split, or has it from the request format and splits no more
    than it reports and infers nothing. -/
theorem tokensConserved_iff (env : TextQuotaEnv) (info : RelayInfo) (u : CompletedUsage)
    (usedVars : String → Bool) (hcounts : u.CountsNonneg) :
    TokensConserved env info u usedVars ↔
      (u.isClaude info = true →
        if u.usageSemantic = "anthropic" then reportedCreated env info u.toUsage ≤ u.splitCreated
        else u.splitCreated ≤ u.cachedCreationTokens ∧
          reportedCreated env info u.toUsage ≤ u.cachedCreationTokens) := by
  have hsplit : 0 ≤ u.splitCreated := by
    have h5m := hcounts.created5m
    have h1h := hcounts.created1h
    unfold Usage.splitCreated
    omega
  have hreported : u.cachedCreationTokens ≤ reportedCreated env info u.toUsage := by
    unfold reportedCreated
    split
    · by_cases hzero : u.cachedCreationTokens = 0
      · rw [hzero]
        exact openRouterCacheCreationTokens_nonneg env info hcounts.toCountsNonneg
      · rw [openRouterCacheCreationTokens_of_ne env info hzero]
    · exact le_refl _
  constructor
  · intro h hclaude
    have hcreated := h.created hclaude
    rw [(buildTieredTokenParams_created usedVars hclaude).1,
      textPromptCharge_allCreated env hcounts.toCountsNonneg hclaude] at hcreated
    by_cases hnamed : u.usageSemantic = "anthropic"
    · rw [if_pos hnamed] at hcreated ⊢
      omega
    · rw [if_neg hnamed] at hcreated ⊢
      omega
  · intro h
    have hcreated : u.isClaude info = true →
        (tieredTokens info u usedVars).cc + (tieredTokens info u usedVars).cc1h =
          (textPromptCharge env info (some u.toUsage)).allCreated := by
      intro hclaude
      have hcondition := h hclaude
      rw [(buildTieredTokenParams_created usedVars hclaude).1,
        textPromptCharge_allCreated env hcounts.toCountsNonneg hclaude]
      by_cases hnamed : u.usageSemantic = "anthropic"
      · rw [if_pos hnamed] at hcondition ⊢
        omega
      · rw [if_neg hnamed] at hcondition ⊢
        omega
    constructor
    · exact buildTieredTokenParams_openAI usedVars hcounts
    · exact hcreated
    · intro hclaude
      rw [(buildTieredTokenParams_created usedVars hclaude).2, hcreated hclaude]

/-- A message that creates a cache of which the upstream reports the split. -/
theorem tokensConserved_split : TokensConserved plainTextQuotaEnv { requestId := "r" }
    { promptTokens := 10, cachedCreationTokens := 100, claudeCacheCreation5mTokens := 100,
      usageSemantic := "anthropic" } fun _ => true :=
  (tokensConserved_iff plainTextQuotaEnv { requestId := "r" }
    { promptTokens := 10, cachedCreationTokens := 100, claudeCacheCreation5mTokens := 100,
      usageSemantic := "anthropic" } (fun _ => true)
    ⟨⟨by decide, by decide, by decide, by decide, by decide, by decide⟩, by decide, by decide,
      by decide, by decide⟩).mpr (fun _ => by decide)

/-- Of 100 cache-creation tokens without a split the expression sees none, and its input is 10
    tokens long; the ratios charge 100. -/
theorem tokens_lost_without_split :
    let u : CompletedUsage :=
      { promptTokens := 10, cachedCreationTokens := 100, usageSemantic := "anthropic" }
    let params := tieredTokens { requestId := "r" } u fun _ => true
    u.isClaude { requestId := "r" } = true ∧ params.cc + params.cc1h = 0 ∧ params.len = 10 ∧
      (textPromptCharge plainTextQuotaEnv { requestId := "r" } (some u.toUsage)).allCreated =
        100 := by
  decide

end TokenRouter
