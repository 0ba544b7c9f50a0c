import TokenRouter.Service.TextQuota

/-!
# Tiered settlement (`service/tiered_settle.go`, `service/text_quota.go`)

A model can be priced by an expression over token counts. When a text request ends, the counts of
its usage are normalised for the expression, and what the expression yields replaces the quota of
the ratios. `PostTextConsumeQuota` settles the result and writes it to the statistics and to the
usage ledger. Counts and prices are floating point in the source; they are exact here.
-/

namespace TokenRouter

/-- `CompletionTokenDetails`, as far as tiered settlement reads it. -/
structure OutputTokenDetails where
  imageTokens : Int := 0
  audioTokens : Int := 0
  deriving DecidableEq

/-- `dto.Usage` with the counters of `CompletionTokenDetails`. -/
structure CompletedUsage extends Usage where
  completionTokenDetails : OutputTokenDetails := {}
  deriving DecidableEq

/-! ## Token parameters -/

/-- `billingexpr.TokenParams` -/
structure TokenParams where
  p : Int
  c : Int
  len : Int
  cr : Int
  cc : Int
  cc1h : Int
  img : Int
  imgO : Int
  ai : Int
  ao : Int
  deriving DecidableEq

/-- `BuildTieredTokenParams`. `usedVars` says whether the expression uses a variable. -/
def buildTieredTokenParams (usage : CompletedUsage) (isClaudeUsageSemantic : Bool)
    (usedVars : String → Bool) : TokenParams :=
  let cr := usage.cachedTokens
  let anthropic : Bool := usage.usageSemantic = "anthropic"
  let cc5m := if anthropic then usage.claudeCacheCreation5mTokens else usage.cachedCreationTokens
  let cc1h := if anthropic then usage.claudeCacheCreation1hTokens else 0
  let img := usage.imageTokens
  let ai := usage.audioTokens
  let imgO := usage.completionTokenDetails.imageTokens
  let ao := usage.completionTokenDetails.audioTokens
  let subtract (name : String) (count : Int) : Int := if usedVars name then count else 0
  let p :=
    if isClaudeUsageSemantic then usage.promptTokens
    else usage.promptTokens - subtract "cr" cr - subtract "cc" cc5m - subtract "cc1h" cc1h -
      subtract "img" img - subtract "ai" ai
  let c :=
    if isClaudeUsageSemantic then usage.completionTokens
    else usage.completionTokens - subtract "img_o" imgO - subtract "ao" ao
  { p := if p < 0 then 0 else p
    c := if c < 0 then 0 else c
    len :=
      if isClaudeUsageSemantic then usage.promptTokens + cr + cc5m + cc1h else usage.promptTokens
    cr := cr
    cc := cc5m
    cc1h := cc1h
    img := img
    imgO := imgO
    ai := ai
    ao := ao }

/-! ## Settlement by expression -/

/-- `billingexpr.BillingSnapshot`, as far as settlement reads it. -/
structure BillingSnapshot where
  billingMode : String
  exprString : String
  exprHash : String
  groupRatio : ℚ
  estimatedQuotaAfterGroup : Int
  estimatedTier : String
  quotaPerUnit : ℚ

/-- `billingexpr.TieredResult` -/
structure TieredResult where
  actualQuotaBeforeGroup : ℚ
  actualQuotaAfterGroup : Int
  matchedTier : String
  crossedTier : Bool

/-- The snapshot of a request, and the evaluation of expressions for it: `UsedVars` of an
    expression, and `RunExprByHashWithRequest` with the request's input, which yields a cost and
    the tier that matched. -/
structure TieredBilling where
  snapshot : Option BillingSnapshot
  usedVars : String → String → Bool
  runExprByHashWithRequest : String → String → TokenParams → Except String (ℚ × String)

/-- `quotaConversion` -/
def quotaConversion (exprOutput : ℚ) (snap : BillingSnapshot) : ℚ :=
  exprOutput / 1000000 * snap.quotaPerUnit

/-- `QuotaRound` -/
def quotaRound (q : ℚ) : Int := roundHalfAway q

/-- `ComputeTieredQuotaWithRequest` -/
def computeTieredQuotaWithRequest (tiered : TieredBilling) (snap : BillingSnapshot)
    (params : TokenParams) : Except String TieredResult :=
  match tiered.runExprByHashWithRequest snap.exprString snap.exprHash params with
  | .error e => .error e
  | .ok (cost, matchedTier) =>
    let quotaBeforeGroup := quotaConversion cost snap
    .ok
      { actualQuotaBeforeGroup := quotaBeforeGroup
        actualQuotaAfterGroup := quotaRound (quotaBeforeGroup * snap.groupRatio)
        matchedTier := matchedTier
        crossedTier := matchedTier ≠ snap.estimatedTier }

/-- `TryTieredSettle`; `none` is `ok = false`. -/
def tryTieredSettle (tiered : TieredBilling) (info : RelayInfo) (params : TokenParams) :
    Option (Int × Option TieredResult) :=
  match tiered.snapshot with
  | none => none
  | some snap =>
    if snap.billingMode ≠ "tiered_expr" then none
    else
      match computeTieredQuotaWithRequest tiered snap params with
      | .error _ =>
        some (if info.finalPreConsumedQuota ≤ 0 then snap.estimatedQuotaAfterGroup
          else info.finalPreConsumedQuota, none)
      | .ok result => some (result.actualQuotaAfterGroup, some result)

/-- `composeTieredTextQuota` -/
def composeTieredTextQuota (tiered : TieredBilling) (toolCallSurchargeQuota : ℚ)
    (tieredQuota : Int) (tieredResult : Option TieredResult) : Int :=
  if toolCallSurchargeQuota = 0 then tieredQuota
  else
    match tieredResult, tiered.snapshot with
    | some result, some snap =>
      roundHalfAway (result.actualQuotaBeforeGroup * snap.groupRatio + toolCallSurchargeQuota)
    | _, _ => tieredQuota + roundHalfAway toolCallSurchargeQuota

/-! ## The end of a text request -/

/-- What `PostTextConsumeQuota` hands on: the amounts that it adds to the used quota of the user
    and of the channel, the quota of the usage record if it makes one, and the quota that it
    settles. -/
structure TextConsumption where
  userUsedQuota : Int
  channelUsedQuota : Int
  recorded : Option Int
  settled : Int
  deriving DecidableEq

/-- The quota of a usage that is billed by expression. -/
def tieredTextQuota (env : TextQuotaEnv) (tiered : TieredBilling) (info : RelayInfo)
    (usage : CompletedUsage) (isClaudeUsageSemantic : Bool) : Option Int :=
  let usedVars := match tiered.snapshot with
    | none => fun _ => false
    | some snap => tiered.usedVars snap.exprString
  (tryTieredSettle tiered info (buildTieredTokenParams usage isClaudeUsageSemantic usedVars)).map
    fun (tieredQuota, tieredResult) =>
      composeTieredTextQuota tiered env.toolCallSurchargeQuota tieredQuota tieredResult

/-- `PostTextConsumeQuota` -/
def postTextConsumeQuota (env : TextQuotaEnv) (tiered : TieredBilling) (info : RelayInfo)
    (usage : Option CompletedUsage) : TextConsumption :=
  let summary := calculateTextQuotaSummary env info (usage.map (·.toUsage))
  let quota := match usage with
    | none => summary.quota
    | some u =>
      (tieredTextQuota env tiered info u summary.isClaudeUsageSemantic).getD summary.quota
  let counted := summary.totalTokens ≠ 0
  { userUsedQuota := if counted then quota else 0
    channelUsedQuota := if counted then quota else 0
    recorded := if counted ∧ usage.isSome then some quota else none
    settled := quota }

end TokenRouter
