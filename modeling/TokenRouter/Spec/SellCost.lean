import TokenRouter.Service.TextQuota
import TokenRouter.Spec.TenantRuns

/-!
# The sell side and the cost side of a prompt

`calculateTextQuotaSummary` reads a usage under its semantic: the prompt of an OpenAI usage
contains the cached and the cache-creation tokens, that of an Anthropic usage does not.
`usageCostInputFromUsage` always subtracts them. The two also read split cache-creation counters
differently, and only the cost side falls back to `InputTokens`.

## Key results

- `textPromptCharge_contained`, `textPromptCharge_openRouter`, `textPromptCharge_excluded`: the
  three ways in which the sell side reads a usage
- `classes_agree_iff_decodedAlike`: when the two sides find the same classes
-/

namespace TokenRouter

namespace Usage

/-- The prompt counters are not negative. -/
structure CountsNonneg (u : Usage) : Prop where
  prompt : 0 ≤ u.promptTokens
  input : 0 ≤ u.inputTokens
  cached : 0 ≤ u.cachedTokens
  created : 0 ≤ u.cachedCreationTokens
  created5m : 0 ≤ u.claudeCacheCreation5mTokens
  created1h : 0 ≤ u.claudeCacheCreation1hTokens

/-- The split cache-creation counters together. -/
def splitCreated (u : Usage) : Int := u.claudeCacheCreation5mTokens + u.claudeCacheCreation1hTokens

/-- Whether the usage has the Anthropic semantic. -/
def isClaude (u : Usage) (info : RelayInfo) : Bool :=
  usageSemanticFromUsage info (some u) = "anthropic"

/-- Whether the prompt contains the cached and the cache-creation tokens. -/
def isContained (u : Usage) (info : RelayInfo) : Bool :=
  !u.isClaude info && !isLegacyClaudeDerivedOpenAIUsage info u

/-- The classes are consistent with the semantic of the usage. -/
def Consistent (u : Usage) (info : RelayInfo) : Prop :=
  u.isContained info = true → u.cachedTokens + u.cachedCreationTokens ≤ u.promptTokens

end Usage

/-- The cache-creation tokens that the sell side prices, at whichever ratio. -/
def PromptCharge.allCreated (charge : PromptCharge) : Int :=
  charge.created + charge.created5m + charge.created1h

/-! ## The sell side -/

namespace TextQuotaSummary

/-- The prompt contains the other classes. -/
theorem promptCharge_contained {s : TextQuotaSummary} (himage : s.imageTokens = 0)
    (haudio : s.audioTokens = 0) (hclaude : s.isClaudeUsageSemantic = false) :
    (s.promptCharge false).baseTokens =
        s.promptTokens - s.cacheTokens - s.cacheCreationTokens ∧
      (s.promptCharge false).allCreated = s.cacheCreationTokens := by
  simp only [promptCharge, PromptCharge.allCreated, himage, haudio, hclaude, Bool.false_eq_true,
    not_false_eq_true, and_self, and_true, ne_eq, not_true_eq_false, false_and, if_false, or_true,
    if_true]
  constructor
  · by_cases hcache : s.cacheTokens = 0
    · simp only [hcache, not_true_eq_false, if_false]
      split <;> omega
    · simp only [hcache, not_false_eq_true, if_true]
      split <;> omega
  · split <;> omega

/-- A prompt without the other classes is charged what was created, or the split counters if they
    are more. -/
theorem promptCharge_allCreated {s : TextQuotaSummary} (legacy : Bool)
    (h : s.isClaudeUsageSemantic = true ∨ legacy = true)
    (h5m : 0 ≤ s.cacheCreationTokens5m) (h1h : 0 ≤ s.cacheCreationTokens1h) :
    (s.promptCharge legacy).allCreated =
      max s.cacheCreationTokens (s.cacheCreationTokens5m + s.cacheCreationTokens1h) := by
  have hcontained : ¬ (¬ s.isClaudeUsageSemantic = true ∧ ¬ legacy = true) := by
    intro hc
    cases h with
    | inl hclaude => exact hc.1 hclaude
    | inr hlegacy => exact hc.2 hlegacy
  simp only [promptCharge, PromptCharge.allCreated, hcontained, if_false, or_false]
  by_cases hcreates : s.cacheCreationTokens ≠ 0 ∨
      (0 < s.cacheCreationTokens5m ∨ 0 < s.cacheCreationTokens1h)
  · simp only [hcreates, not_true_eq_false, if_false]
    split <;> omega
  · simp only [hcreates, not_false_eq_true, if_true]
    omega

/-- The prompt is without the other classes. -/
theorem promptCharge_excluded {s : TextQuotaSummary} (legacy : Bool) (himage : s.imageTokens = 0)
    (haudio : s.audioTokens = 0) (h : s.isClaudeUsageSemantic = true ∨ legacy = true)
    (h5m : 0 ≤ s.cacheCreationTokens5m) (h1h : 0 ≤ s.cacheCreationTokens1h) :
    (s.promptCharge legacy).baseTokens = s.promptTokens ∧
      (s.promptCharge legacy).allCreated =
        max s.cacheCreationTokens (s.cacheCreationTokens5m + s.cacheCreationTokens1h) := by
  have hcontained : ¬ (¬ s.isClaudeUsageSemantic = true ∧ ¬ legacy = true) := by
    intro hc
    cases h with
    | inl hclaude => exact hc.1 hclaude
    | inr hlegacy => exact hc.2 hlegacy
  refine ⟨?_, promptCharge_allCreated legacy h h5m h1h⟩
  simp only [promptCharge, himage, haudio, hcontained, and_false, ne_eq, not_true_eq_false,
    false_and, if_false]

end TextQuotaSummary

section

variable (env : TextQuotaEnv) {info : RelayInfo} {u : Usage}

/-- Only the Anthropic semantic is billed the OpenRouter way. -/
theorem isClaude_of_openRouter
    (h : isOpenRouterClaudeBilling info (u.isClaude info) = true) : u.isClaude info = true := by
  unfold isOpenRouterClaudeBilling at h
  cases hchannel : info.channelMeta with
  | none =>
    rw [hchannel] at h
    cases h
  | some channel =>
    rw [hchannel] at h
    simp only [Bool.and_eq_true] at h
    exact h.2

theorem openRouterCacheCreationTokens_nonneg (info : RelayInfo) (hcounts : u.CountsNonneg) :
    0 ≤ openRouterCacheCreationTokens env info u := by
  have hcreated := hcounts.created
  unfold openRouterCacheCreationTokens
  dsimp only
  split
  · split
    · next hmaybe => exact hmaybe.1
    · exact hcreated
  · exact hcreated

/-- Reported cache-creation tokens are not replaced. -/
theorem openRouterCacheCreationTokens_of_ne (info : RelayInfo) (h : u.cachedCreationTokens ≠ 0) :
    openRouterCacheCreationTokens env info u = u.cachedCreationTokens := by
  unfold openRouterCacheCreationTokens
  exact if_neg fun hzero => h hzero.1

/-- The counters of other requests are read as they are. -/
theorem textQuotaTokens_of_not_openRouter
    (h : isOpenRouterClaudeBilling info (u.isClaude info) = false) :
    (textQuotaTokens env info (some u)).promptTokens = u.promptTokens ∧
      (textQuotaTokens env info (some u)).cacheCreationTokens = u.cachedCreationTokens :=
  ⟨if_neg (Bool.eq_false_iff.mp h), if_neg (Bool.eq_false_iff.mp h)⟩

theorem textPromptCharge_contained (himage : u.imageTokens = 0) (haudio : u.audioTokens = 0)
    (h : u.isContained info = true) :
    (textPromptCharge env info (some u)).baseTokens =
        u.promptTokens - u.cachedTokens - u.cachedCreationTokens ∧
      (textPromptCharge env info (some u)).allCreated = u.cachedCreationTokens := by
  obtain ⟨hclaude, hlegacy⟩ : u.isClaude info = false ∧
      isLegacyClaudeDerivedOpenAIUsage info u = false := by
    simpa [Usage.isContained] using h
  have hrouter : isOpenRouterClaudeBilling info (u.isClaude info) = false := by
    by_contra hne
    rw [isClaude_of_openRouter (by simpa using hne)] at hclaude
    cases hclaude
  obtain ⟨hprompt, hcreated⟩ := textQuotaTokens_of_not_openRouter env hrouter
  have hcharge := TextQuotaSummary.promptCharge_contained
    (s := textQuotaTokens env info (some u)) himage haudio hclaude
  rw [hprompt, hcreated, ← hlegacy] at hcharge
  exact hcharge

theorem textPromptCharge_openRouter (hcounts : u.CountsNonneg) (himage : u.imageTokens = 0)
    (haudio : u.audioTokens = 0)
    (h : isOpenRouterClaudeBilling info (u.isClaude info) = true) :
    (textPromptCharge env info (some u)).baseTokens =
        u.promptTokens - u.cachedTokens - openRouterCacheCreationTokens env info u ∧
      (textPromptCharge env info (some u)).allCreated =
        max (openRouterCacheCreationTokens env info u) u.splitCreated := by
  have hcreated : (textQuotaTokens env info (some u)).cacheCreationTokens =
      openRouterCacheCreationTokens env info u := if_pos h
  have hprompt : (textQuotaTokens env info (some u)).promptTokens =
      u.promptTokens - u.cachedTokens - openRouterCacheCreationTokens env info u := by
    rw [← hcreated]
    exact if_pos h
  have hcharge := TextQuotaSummary.promptCharge_excluded
    (s := textQuotaTokens env info (some u)) (isLegacyClaudeDerivedOpenAIUsage info u) himage
    haudio (.inl (isClaude_of_openRouter h)) hcounts.created5m hcounts.created1h
  rw [hprompt, hcreated] at hcharge
  exact hcharge

theorem textPromptCharge_excluded (hcounts : u.CountsNonneg) (himage : u.imageTokens = 0)
    (haudio : u.audioTokens = 0) (h : u.isContained info = false)
    (hrouter : isOpenRouterClaudeBilling info (u.isClaude info) = false) :
    (textPromptCharge env info (some u)).baseTokens = u.promptTokens ∧
      (textPromptCharge env info (some u)).allCreated =
        max u.cachedCreationTokens u.splitCreated := by
  have hexcluded : u.isClaude info = true ∨ isLegacyClaudeDerivedOpenAIUsage info u = true := by
    simp only [Usage.isContained, Bool.and_eq_false_iff, Bool.not_eq_eq_eq_not, Bool.not_false] at h
    exact h
  obtain ⟨hprompt, hcreated⟩ := textQuotaTokens_of_not_openRouter env hrouter
  have hcharge := TextQuotaSummary.promptCharge_excluded
    (s := textQuotaTokens env info (some u)) (isLegacyClaudeDerivedOpenAIUsage info u) himage
    haudio hexcluded hcounts.created5m hcounts.created1h
  rw [hprompt, hcreated] at hcharge
  exact hcharge

end

/-! ## The cost side -/

/-- The row that is stored for a usage. -/
theorem newUsageLedger_classes {env : UsageEnv} {db : DB} {now : Timestamp} {info : RelayInfo}
    {billing : Option Int} {usage : Option Usage} {sellQuota : Int} {metadata : UsageRecordMeta}
    {ledger : UsageLedger}
    (h : newUsageLedger env db now info billing usage sellQuota metadata = .ok ledger)
    (stored : Timestamp) :
    (ledger.normalize stored).freshPromptTokens =
      freshPromptTokens (usageCostInputFromUsage info usage) := by
  have hfields : ledger.promptTokens = (usageCostInputFromUsage info usage).promptTokens ∧
      ledger.cachedTokens = (usageCostInputFromUsage info usage).cachedTokens ∧
      ledger.cacheCreationTokens = (usageCostInputFromUsage info usage).cacheCreationTokens ∧
      ledger.freshPromptTokens = freshPromptTokens (usageCostInputFromUsage info usage) := by
    unfold newUsageLedger at h
    split at h
    · cases h
    · dsimp only at h
      split at h
      · cases h
      · split at h
        · cases h
        · cases h
          unfold decorateTenantLedger
          split <;> exact ⟨rfl, rfl, rfl, rfl⟩
  obtain ⟨hprompt, hcached, hcreated, hfresh⟩ := hfields
  show (if ledger.freshPromptTokens = 0 ∧ 0 < ledger.promptTokens then _ else _) = _
  split
  · rw [hprompt, hcached, hcreated]
    rfl
  · exact hfresh

/-! ## Agreement -/

/-- The two sides find the same classes: the fresh count stored in the row and charged by
    `CalculateUsageCostQuota`, the cached count and the cache-creation count. -/
structure ClassesAgree (row : UsageLedger) (input : UsageCostInput) (charge : PromptCharge) :
    Prop where
  stored : row.freshPromptTokens = charge.baseTokens
  fresh : freshPromptTokens input = charge.baseTokens
  cached : input.cachedTokens = charge.cached
  created : input.cacheCreationTokens = charge.allCreated

/-- The counters mean the same to both sides. With containment, `InputTokens` is not needed and
    no split counter stands without a total. Without it the split counters do not exceed a total,
    and only a prompt without other classes, or an empty one, is read alike. Through OpenRouter
    the prompt contains the other classes after all. -/
def DecodedAlike (env : TextQuotaEnv) (info : RelayInfo) (u : Usage) : Prop :=
  if u.isContained info then
    (u.cachedCreationTokens ≠ 0 ∨ u.splitCreated = 0) ∧ (u.promptTokens ≠ 0 ∨ u.inputTokens = 0)
  else if isOpenRouterClaudeBilling info (u.isClaude info) then
    if u.cachedCreationTokens ≠ 0 then
      u.splitCreated ≤ u.cachedCreationTokens ∧
        u.cachedTokens + u.cachedCreationTokens ≤ u.promptTokens
    else if u.promptTokens ≠ 0 ∨ u.inputTokens = 0 then
      openRouterCacheCreationTokens env info u =
        min (u.promptTokens - u.cachedTokens) u.splitCreated
    else
      u.cachedTokens = 0 ∧ openRouterCacheCreationTokens env info u = 0 ∧
        u.inputTokens ≤ u.splitCreated
  else
    (u.cachedCreationTokens = 0 ∨ u.splitCreated ≤ u.cachedCreationTokens) ∧
      if u.promptTokens = 0 then
        u.inputTokens ≤ u.cachedTokens + max u.cachedCreationTokens u.splitCreated
      else u.cachedTokens = 0 ∧ u.cachedCreationTokens = 0 ∧ u.splitCreated = 0

/-- What is left to compare once the row is known. -/
theorem classesAgree_iff {row : UsageLedger} {input : UsageCostInput} {charge : PromptCharge}
    (hrow : row.freshPromptTokens = freshPromptTokens input)
    (hcached : input.cachedTokens = charge.cached) :
    ClassesAgree row input charge ↔
      freshPromptTokens input = charge.baseTokens ∧
        input.cacheCreationTokens = charge.allCreated := by
  constructor
  · intro h
    exact ⟨h.fresh, h.created⟩
  · intro h
    exact ⟨hrow.trans h.1, h.1, hcached, h.2⟩

/-- The fresh prompt of the cost side, from the counters. -/
theorem freshPromptTokens_usage (info : RelayInfo) (u : Usage) :
    freshPromptTokens (usageCostInputFromUsage info (some u)) =
      max 0 ((if u.promptTokens = 0 ∧ 0 < u.inputTokens then u.inputTokens else u.promptTokens) -
        u.cachedTokens - if u.cachedCreationTokens = 0 then u.splitCreated
          else u.cachedCreationTokens) := by
  unfold freshPromptTokens usageCostInputFromUsage Usage.splitCreated
  dsimp only
  split <;> omega

theorem cacheCreationTokens_usage (info : RelayInfo) (u : Usage) :
    (usageCostInputFromUsage info (some u)).cacheCreationTokens =
      if u.cachedCreationTokens = 0 then u.splitCreated else u.cachedCreationTokens := rfl

/-- For a usage without image or audio tokens whose classes are consistent with its semantic, the
    row that is stored for it and the charge for it agree on every class of prompt tokens exactly
    when both sides decode its counters alike. -/
theorem classes_agree_iff_decodedAlike (env : TextQuotaEnv) (uenv : UsageEnv) (db : DB)
    (now stored : Timestamp) (info recorded : RelayInfo) (billing : Option Int) (u : Usage)
    (sellQuota : Int) (metadata : UsageRecordMeta) (ledger : UsageLedger)
    (hcounts : u.CountsNonneg) (himage : u.imageTokens = 0) (haudio : u.audioTokens = 0)
    (hconsistent : u.Consistent info)
    (hledger : newUsageLedger uenv db now recorded billing (some u) sellQuota metadata =
      .ok ledger) :
    ClassesAgree (ledger.normalize stored) (usageCostInputFromUsage recorded (some u))
        (textPromptCharge env info (some u)) ↔
      DecodedAlike env info u := by
  rw [classesAgree_iff (newUsageLedger_classes hledger stored) rfl, freshPromptTokens_usage,
    cacheCreationTokens_usage]
  have hsplit : 0 ≤ u.splitCreated := Int.add_nonneg hcounts.created5m hcounts.created1h
  have hprompt := hcounts.prompt
  have hinput := hcounts.input
  have hcached := hcounts.cached
  have hcreated := hcounts.created
  unfold DecodedAlike
  by_cases hcontained : u.isContained info = true
  · obtain ⟨hbase, hall⟩ := textPromptCharge_contained env himage haudio hcontained
    have hle := hconsistent hcontained
    rw [if_pos hcontained, hbase, hall]
    split <;> split <;> omega
  · rw [if_neg hcontained]
    by_cases hrouter : isOpenRouterClaudeBilling info (u.isClaude info) = true
    · obtain ⟨hbase, hall⟩ := textPromptCharge_openRouter env hcounts himage haudio
        hrouter
      rw [if_pos hrouter, hbase, hall]
      by_cases hzero : u.cachedCreationTokens = 0
      · have hnonneg := openRouterCacheCreationTokens_nonneg env info hcounts
        rw [if_neg (not_not.mpr hzero), if_pos hzero]
        split <;> split <;> omega
      · rw [if_pos hzero, if_neg hzero, openRouterCacheCreationTokens_of_ne env info hzero]
        split <;> omega
    · obtain ⟨hbase, hall⟩ := textPromptCharge_excluded env hcounts himage haudio
        (Bool.eq_false_iff.mpr hcontained) (Bool.eq_false_iff.mpr hrouter)
      rw [if_neg hrouter, hbase, hall]
      split <;> split <;> split <;> omega

/-- Settings without a default ratio or a surcharge. -/
def plainTextQuotaEnv : TextQuotaEnv where
  quotaPerUnit := 500000
  defaultModelRatio := fun _ => none
  calcOpenRouterCacheCreateTokens := fun _ _ => 0
  inputAudioPricePerMillionTokens := fun _ => 0
  toolCallSurchargeQuota := 0

/-- An OpenAI usage with 30 cached and 20 cache-creation tokens in a prompt of 100. -/
theorem classes_agree_contained_prompt :
    let u : Usage := { promptTokens := 100, cachedTokens := 30, cachedCreationTokens := 20 }
    let info : RelayInfo := { requestId := "r" }
    ∃ ledger, newUsageLedger plainUsageEnv DB.empty ⟨1, by decide⟩ info none (some u) 75
        { requestId := "r" } = .ok ledger ∧
      (ledger.normalize ⟨1, by decide⟩).freshPromptTokens = 50 ∧
      ClassesAgree (ledger.normalize ⟨1, by decide⟩) (usageCostInputFromUsage info (some u))
        (textPromptCharge plainTextQuotaEnv info (some u)) := by
  intro u info
  refine ⟨_, rfl, by decide, ?_⟩
  refine (classes_agree_iff_decodedAlike plainTextQuotaEnv plainUsageEnv DB.empty ⟨1, by decide⟩
    ⟨1, by decide⟩ info info none u 75 { requestId := "r" } _
    ⟨by decide, by decide, by decide, by decide, by decide, by decide⟩ rfl rfl
    (fun _ => by decide) rfl).mpr ?_
  unfold DecodedAlike
  decide

/-- An Anthropic usage with a prompt of 100 besides 50 cached tokens: 100 tokens are charged at
    the full ratio, and 50 are stored and paid for. -/
theorem anthropic_prompt_loses_cached :
    let u : Usage := { promptTokens := 100, cachedTokens := 50, usageSemantic := "anthropic" }
    let info : RelayInfo := { requestId := "r" }
    u.CountsNonneg ∧ u.imageTokens = 0 ∧ u.audioTokens = 0 ∧ u.Consistent info ∧
      (textPromptCharge plainTextQuotaEnv info (some u)).baseTokens = 100 ∧
      ∃ ledger, newUsageLedger plainUsageEnv DB.empty ⟨1, by decide⟩ info none (some u) 75
          { requestId := "r" } = .ok ledger ∧
        (ledger.normalize ⟨1, by decide⟩).freshPromptTokens = 50 ∧
        ¬ ClassesAgree (ledger.normalize ⟨1, by decide⟩) (usageCostInputFromUsage info (some u))
          (textPromptCharge plainTextQuotaEnv info (some u)) := by
  intro u info
  refine ⟨⟨by decide, by decide, by decide, by decide, by decide, by decide⟩, rfl, rfl, ?_,
    by decide, _, rfl, by decide, ?_⟩
  · intro hcontained
    exact absurd hcontained (by decide)
  · intro hagree
    exact absurd hagree.fresh (by decide)

end TokenRouter
