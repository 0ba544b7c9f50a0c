import TokenRouter.Relay.ClaudeToOpenAI
import Mathlib.Tactic.SplitIfs

/-!
# Usage across the two formats

In a Claude usage the input tokens leave the cached ones out, in an OpenAI usage the prompt
tokens contain them. `buildOpenAIStyleUsageFromClaudeUsage` adds them,
`buildClaudeUsageFromOpenAIUsage` does not take them off again.
-/

namespace TokenRouter

open Dto Service ClaudeRelay

namespace Dto.ClaudeUsage

/-- The tokens cached for 5 minutes and for 1 hour together. -/
def ephemeral (u : ClaudeUsage) : Int :=
  match u.cacheCreation with
  | some split => split.1 + split.2
  | none => 0

/-- `GetCacheCreationTotalTokens` -/
def getCacheCreationTotalTokens (u : ClaudeUsage) : Int :=
  if u.cacheCreationInputTokens > 0 then u.cacheCreationInputTokens else u.ephemeral

/-- Every prompt token of an OpenAI usage is shown once. -/
structure Accounts (shown : ClaudeUsage) (promptTokens : Int) : Prop where
  input : shown.inputTokens + shown.cacheReadInputTokens + shown.cacheCreationInputTokens =
    promptTokens
  split : shown.ephemeral = shown.cacheCreationInputTokens

/-- The counts of a Claude usage, of which the upstream reported `u`. -/
structure Repeats (shown : ClaudeUsage) (u : Usage) : Prop where
  input : shown.inputTokens = u.promptTokens
  output : shown.outputTokens = u.completionTokens
  cacheRead : shown.cacheReadInputTokens = u.cachedTokens
  cacheCreation : shown.getCacheCreationTotalTokens = cacheCreationTokensForOpenAIUsage u

end Dto.ClaudeUsage

/-- No count of a Claude usage is negative. -/
structure Usage.NonNeg (u : Usage) : Prop where
  prompt : 0 ≤ u.promptTokens
  completion : 0 ≤ u.completionTokens
  cached : 0 ≤ u.cachedTokens
  cachedCreation : 0 ≤ u.cachedCreationTokens
  tokens5m : 0 ≤ u.claudeCacheCreation5mTokens
  tokens1h : 0 ≤ u.claudeCacheCreation1hTokens

/-- The usage that a client of the Claude protocol is shown. -/
def shownUsage (u : Usage) : ClaudeUsage :=
  (buildClaudeUsageFromOpenAIUsage (some u)).getD {}

/-- The two buckets do not exceed the total; for a negative total one of them is positive. -/
def Usage.SplitWithinTotal (u : Usage) : Prop :=
  u.claudeCacheCreation5mTokens + u.claudeCacheCreation1hTokens ≤ u.cachedCreationTokens ∧
    (0 ≤ u.cachedCreationTokens ∨ 0 < u.claudeCacheCreation1hTokens ∨
      u.claudeCacheCreation1hTokens < u.cachedCreationTokens)

/-- Splitting twice is splitting once. -/
theorem normalizeCacheCreationSplit_idem (total a b : Int) :
    normalizeCacheCreationSplit total (normalizeCacheCreationSplit total a b).1
      (normalizeCacheCreationSplit total a b).2 = normalizeCacheCreationSplit total a b := by
  simp only [normalizeCacheCreationSplit, Prod.mk.injEq, and_true]
  omega

/-- The two buckets together are the larger of their sum and the total. -/
theorem normalizeCacheCreationSplit_sum (total a b : Int) :
    (normalizeCacheCreationSplit total a b).1 + (normalizeCacheCreationSplit total a b).2 =
      max total (a + b) := by
  simp only [normalizeCacheCreationSplit]
  omega

/-- Unless the buckets are empty, the upstream's cached tokens are the larger of the total and
    the sum of the buckets. -/
theorem cacheCreationTokensForOpenAIUsage_eq_max {u : Usage} (hu : u.NonNeg) :
    cacheCreationTokensForOpenAIUsage u = max u.cachedCreationTokens
      (u.claudeCacheCreation5mTokens + u.claudeCacheCreation1hTokens) := by
  have h := hu.cachedCreation
  simp only [cacheCreationTokensForOpenAIUsage]
  split
  · omega
  · split <;> omega

/-- The buckets shown: the split of the total, or nothing if it is not positive. -/
theorem ephemeral_shownUsage (u : Usage) :
    (shownUsage u).ephemeral =
      let split := normalizeCacheCreationSplit u.cachedCreationTokens
        u.claudeCacheCreation5mTokens u.claudeCacheCreation1hTokens
      if 0 < split.1 ∨ 0 < split.2 then split.1 + split.2 else 0 := by
  simp only [shownUsage, buildClaudeUsageFromOpenAIUsage, Option.map_some, Option.getD_some,
    ClaudeUsage.ephemeral]
  split
  · rename_i split hsplit
    split at hsplit
    · rename_i hpos
      cases hsplit
      rw [if_pos hpos]
    · cases hsplit
  · rename_i hsplit
    split at hsplit
    · cases hsplit
    · rename_i hpos
      rw [if_neg hpos]

/-- What the client of a converted Claude usage is shown as input: the cached tokens, which it
    is also shown apart, are contained. -/
theorem inputTokens_shown_converted (u : Usage) :
    (shownUsage (buildOpenAIStyleUsageFromClaudeUsage u)).inputTokens =
      u.promptTokens + u.cachedTokens + cacheCreationTokensForOpenAIUsage u := rfl

/-- The buckets shown of a converted Claude usage. -/
theorem ephemeral_shown_converted {u : Usage} (hu : u.NonNeg) :
    (shownUsage (buildOpenAIStyleUsageFromClaudeUsage u)).ephemeral =
      cacheCreationTokensForOpenAIUsage u := by
  have h1 := hu.tokens5m
  have h2 := hu.tokens1h
  rw [ephemeral_shownUsage, cacheCreationTokensForOpenAIUsage_eq_max hu]
  simp only [buildOpenAIStyleUsageFromClaudeUsage, normalizeCacheCreationSplit_idem,
    normalizeCacheCreationSplit_sum]
  simp only [normalizeCacheCreationSplit]
  split_ifs <;> omega

/-- A Claude usage comes back from the OpenAI format if and only if nothing was cached. -/
theorem repeats_converted_iff {u : Usage} (hu : u.NonNeg) :
    (shownUsage (buildOpenAIStyleUsageFromClaudeUsage u)).Repeats u ↔
      u.cachedTokens + cacheCreationTokensForOpenAIUsage u = 0 := by
  have hinput := inputTokens_shown_converted u
  constructor
  · intro h
    have := h.input
    omega
  · intro h
    have hmax := cacheCreationTokensForOpenAIUsage_eq_max hu
    have hcached := hu.cached
    have hcreation := hu.cachedCreation
    have htotal : (shownUsage (buildOpenAIStyleUsageFromClaudeUsage u)).cacheCreationInputTokens =
        u.cachedCreationTokens := rfl
    refine ⟨by omega, rfl, rfl, ?_⟩
    -- the total is zero, so the getter falls back to the buckets
    rw [ClaudeUsage.getCacheCreationTotalTokens, if_neg (by omega), ephemeral_shown_converted hu]

/-- An OpenAI usage is accounted for if and only if it has no cached tokens and a split that
    the total covers. -/
theorem accounts_shown_iff (u : Usage) :
    (shownUsage u).Accounts u.promptTokens ↔
      u.cachedTokens + u.cachedCreationTokens = 0 ∧ u.SplitWithinTotal := by
  have hinput : (shownUsage u).inputTokens + (shownUsage u).cacheReadInputTokens +
      (shownUsage u).cacheCreationInputTokens =
      u.promptTokens + u.cachedTokens + u.cachedCreationTokens := rfl
  have hsplit : (shownUsage u).ephemeral = (shownUsage u).cacheCreationInputTokens ↔
      u.SplitWithinTotal := by
    have htotal : (shownUsage u).cacheCreationInputTokens = u.cachedCreationTokens := rfl
    rw [ephemeral_shownUsage, htotal]
    simp only [normalizeCacheCreationSplit, Usage.SplitWithinTotal]
    split_ifs <;> omega
  constructor
  · intro h
    have := h.input
    exact ⟨by omega, hsplit.mp h.split⟩
  · rintro ⟨hcached, hwithin⟩
    exact ⟨by omega, hsplit.mpr hwithin⟩

/-- A Claude usage survives the conversion to the OpenAI format and back, and an OpenAI usage
    is shown with every prompt token once, if and only if no token was cached (and the buckets
    of the OpenAI usage do not exceed its total). -/
theorem usage_survives_iff (u v : Usage) (hu : u.NonNeg) :
    ((shownUsage (buildOpenAIStyleUsageFromClaudeUsage u)).Repeats u ↔
      u.cachedTokens + cacheCreationTokensForOpenAIUsage u = 0) ∧
    ((shownUsage v).Accounts v.promptTokens ↔
      v.cachedTokens + v.cachedCreationTokens = 0 ∧ v.SplitWithinTotal) :=
  ⟨repeats_converted_iff hu, accounts_shown_iff v⟩

/-- Without a cache both hold. -/
theorem usage_survives_uncached :
    ((shownUsage (buildOpenAIStyleUsageFromClaudeUsage
        { promptTokens := 100, completionTokens := 20 })).Repeats
      { promptTokens := 100, completionTokens := 20 } ↔ (0 : Int) = 0) ∧
    ((shownUsage { promptTokens := 40 }).Accounts 40 ↔
      (0 : Int) = 0 ∧ Usage.SplitWithinTotal { promptTokens := 40 }) :=
  @usage_survives_iff { promptTokens := 100, completionTokens := 20 } { promptTokens := 40 }
    ⟨by decide, by decide, by decide, by decide, by decide, by decide⟩

/-- 100 tokens of input, 30 read from the cache: the client is shown 130 and 30. -/
theorem cached_tokens_shown_twice :
    ¬ ((∀ u : Usage, u.usageSemantic = "anthropic" → u.NonNeg →
          (shownUsage (buildOpenAIStyleUsageFromClaudeUsage u)).Repeats u) ∧
        ∀ u : Usage, u.usageSemantic = "openai" → (shownUsage u).Accounts u.promptTokens) := by
  rintro ⟨h, -⟩
  have hinput := (h { promptTokens := 100, cachedTokens := 30, usageSemantic := "anthropic" } rfl
    ⟨by decide, by decide, by decide, by decide, by decide, by decide⟩).input
  exact absurd hinput (by decide)

end TokenRouter
