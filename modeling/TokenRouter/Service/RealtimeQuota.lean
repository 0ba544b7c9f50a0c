import TokenRouter.Service.Quota
import TokenRouter.Service.UsageRecord

/-!
# Realtime quota (`service/quota.go`)

What a realtime session is charged: `PreWssConsumeQuota` charges the tokens of one event at
once, `PostWssConsumeQuota` settles the billing of the request for the tokens of all of them.
-/

namespace TokenRouter

/-- `TokenDetails` -/
structure TokenDetails where
  textTokens : Int
  audioTokens : Int
  deriving DecidableEq

/-- `QuotaInfo` -/
structure QuotaInfo where
  inputDetails : TokenDetails
  outputDetails : TokenDetails
  modelName : String
  usePrice : Bool
  modelPrice : ℚ := 0
  modelRatio : ℚ
  groupRatio : ℚ

/-- The settings and the parts of the request that price a realtime session. -/
structure RealtimeEnv where
  quotaPerUnit : ℚ
  formatQuota : Int → String
  /-- `GetModelRatio`, its first result -/
  modelRatio : String → ℚ
  /-- `GetCompletionRatio` -/
  completionRatio : String → ℚ
  /-- `GetAudioRatio` -/
  audioRatio : String → ℚ
  /-- `GetAudioCompletionRatio` -/
  audioCompletionRatio : String → ℚ
  /-- `GetGroupRatio` -/
  groupRatio : String → ℚ
  /-- `GetGroupGroupRatio` -/
  groupGroupRatio : String → String → Option ℚ
  /-- `TryTieredSettle`, the quota of a model that is billed by an expression -/
  tryTieredSettle : RelayInfo → RealtimeUsage → Option Int
  /-- `RelayInfo.UsePrice`, which nothing sets -/
  usePrice : Bool := false
  usingGroup : String
  userGroup : String
  autoGroup : Option String := none
  upstreamModelName : String

/-- `calculateAudioQuota` -/
def calculateAudioQuota (env : RealtimeEnv) (info : QuotaInfo) : Int :=
  if info.usePrice then intPart (info.modelPrice * env.quotaPerUnit * info.groupRatio)
  else
    let audioRatio := env.audioRatio info.modelName
    let ratio := info.groupRatio * info.modelRatio
    let quota : ℚ :=
      (info.inputDetails.textTokens +
        info.outputDetails.textTokens * env.completionRatio info.modelName +
        info.inputDetails.audioTokens * audioRatio +
        info.outputDetails.audioTokens * audioRatio * env.audioCompletionRatio info.modelName) *
      ratio
    if ratio ≠ 0 ∧ quota ≤ 0 then 1 else roundHalfAway quota

/-- The text and audio tokens of a usage. -/
def RealtimeUsage.quotaInfo (usage : RealtimeUsage) (modelName : String) (usePrice : Bool)
    (modelRatio groupRatio : ℚ) : QuotaInfo :=
  { inputDetails := ⟨usage.inputTokenDetails.textTokens, usage.inputTokenDetails.audioTokens⟩
    outputDetails := ⟨usage.outputTokenDetails.textTokens, usage.outputTokenDetails.audioTokens⟩
    modelName, usePrice, modelRatio, groupRatio }

/-- The quota that `PreWssConsumeQuota` computes. -/
def preWssQuota (env : RealtimeEnv) (info : RelayInfo) (usage : RealtimeUsage) : Int :=
  let usingGroup := env.autoGroup.getD env.usingGroup
  let actualGroupRatio :=
    (env.groupGroupRatio env.userGroup usingGroup).getD (env.groupRatio usingGroup)
  calculateAudioQuota env (usage.quotaInfo info.originModelName env.usePrice
    (env.modelRatio info.originModelName) actualGroupRatio)

/-- `PreWssConsumeQuota`, with the error it returns. -/
def preWssConsumeQuota (env : RealtimeEnv) (st : ChargeState) (usage : RealtimeUsage) :
    Option String × ChargeState :=
  if env.usePrice then (none, st)
  else
    let userQuota := st.quota.getUserQuota st.info.userId
    match st.quota.tokens.find? st.info.tokenId with
    | none => (some "record not found", st)
    | some token =>
      let quota := preWssQuota env st.info usage
      if userQuota < quota then
        (some ("user quota is not enough, user quota: " ++ env.formatQuota userQuota ++
          ", need quota: " ++ env.formatQuota quota), st)
      else if ¬ token.unlimitedQuota ∧ token.remainQuota < quota then
        (some ("token quota is not enough, token remain quota: " ++
          env.formatQuota token.remainQuota ++ ", need quota: " ++ env.formatQuota quota), st)
      else st.postConsumeQuota quota

/-- The quota that `PostWssConsumeQuota` settles and records. -/
def postWssQuota (env : RealtimeEnv) (info : RelayInfo) (usage : RealtimeUsage) : Int :=
  let quota :=
    match env.tryTieredSettle info usage with
    | some tieredQuota => tieredQuota
    | none =>
      -- `ModelPrice` is not filled in here
      calculateAudioQuota env (usage.quotaInfo env.upstreamModelName info.priceData.usePrice
        info.priceData.modelRatio info.priceData.groupRatio)
  if usage.totalTokens = 0 then 0 else quota

/-- `PostWssConsumeQuota`, with the quota of the consume log; an error of the settlement is only
    logged. -/
def postWssConsumeQuota (env : RealtimeEnv) (st : BillingState) (usage : RealtimeUsage) :
    Int × BillingState :=
  let quota := postWssQuota env st.charge.info usage
  (quota, (st.settleBilling quota).2)

end TokenRouter

/-! ## Realtime sessions (`relay/channel/openai/relay_realtime.go`, `relay/websocket.go`)

`OpenaiRealtimeHandler` has one reader for the client and one for the upstream; both count into
the same usage. The handler returns when either connection ends, while a reader may still be
at work, and `WssHelper` then settles the request.
-/

namespace TokenRouter

/-- What a reader does with a message, and what ends the session. -/
inductive RealtimeEvent where
  /-- a message of the client, counted here -/
  | client (textToken audioToken : Int)
  /-- an upstream message that is no `response.done`, counted here -/
  | target (textToken audioToken : Int)
  /-- `response.done` with the usage of the upstream -/
  | responseDone (realtimeUsage : RealtimeUsage)
  /-- `response.done` without usage -/
  | responseDoneLocal (textToken audioToken : Int)
  /-- a reader ends: its connection closed, or a message could not be read, counted or sent -/
  | clientStops
  | targetStops
  /-- the handler returns -/
  | handlerReturns
  /-- `PostWssConsumeQuota` -/
  | postWss

/-- The handler with its three counters; `recorded` is the quota of the consume log. -/
structure RealtimeState where
  request : BillingState
  usage : RealtimeUsage := {}
  localUsage : RealtimeUsage := {}
  sumUsage : RealtimeUsage := {}
  clientStopped : Bool := false
  targetStopped : Bool := false
  returned : Bool := false
  recorded : Option Int := none

namespace RealtimeUsage

/-- Tokens counted as input. -/
def countInput (u : RealtimeUsage) (textToken audioToken : Int) : RealtimeUsage :=
  { u with
    totalTokens := u.totalTokens + (textToken + audioToken)
    inputTokens := u.inputTokens + (textToken + audioToken)
    inputTokenDetails := { u.inputTokenDetails with
      textTokens := u.inputTokenDetails.textTokens + textToken
      audioTokens := u.inputTokenDetails.audioTokens + audioToken } }

/-- Tokens counted as output. -/
def countOutput (u : RealtimeUsage) (textToken audioToken : Int) : RealtimeUsage :=
  { u with
    totalTokens := u.totalTokens + (textToken + audioToken)
    outputTokens := u.outputTokens + (textToken + audioToken)
    outputTokenDetails := {
      textTokens := u.outputTokenDetails.textTokens + textToken
      audioTokens := u.outputTokenDetails.audioTokens + audioToken } }

end RealtimeUsage

namespace RealtimeState

/-- `preConsumeUsage`, with the error it returns. -/
def preConsumeUsage (env : RealtimeEnv) (s : RealtimeState) (usage : RealtimeUsage) :
    Option String × RealtimeState :=
  let (err, charge) := preWssConsumeQuota env s.request.charge usage
  (err, { s with sumUsage := s.sumUsage.add usage, request := { s.request with charge } })

/-- `response.done` with usage; the counters are cleared only if the charge went through. -/
def responseDone (env : RealtimeEnv) (s : RealtimeState) (realtimeUsage : RealtimeUsage) :
    RealtimeState :=
  let s := { s with usage := s.usage.add realtimeUsage }
  match s.preConsumeUsage env s.usage with
  | (some _, s) => { s with targetStopped := true }
  | (none, s) => { s with usage := {}, localUsage := {} }

/-- `response.done` without usage is charged by what was counted here. -/
def responseDoneLocal (env : RealtimeEnv) (s : RealtimeState) (textToken audioToken : Int) :
    RealtimeState :=
  let s := { s with localUsage := s.localUsage.countInput textToken audioToken }
  match s.preConsumeUsage env s.localUsage with
  | (some _, s) => { s with targetStopped := true }
  | (none, s) => { s with localUsage := {} }

/-- The rest of the handler after its `select`: what is left in the counters is charged. -/
def handlerReturns (env : RealtimeEnv) (s : RealtimeState) : RealtimeState :=
  let s := if s.usage.totalTokens ≠ 0 then (s.preConsumeUsage env s.usage).2 else s
  let s := if s.localUsage.totalTokens ≠ 0 then (s.preConsumeUsage env s.localUsage).2 else s
  { s with returned := true }

/-- The rest of `WssHelper`. -/
def postWss (env : RealtimeEnv) (s : RealtimeState) : RealtimeState :=
  let (quota, request) := postWssConsumeQuota env s.request s.sumUsage
  { s with request, recorded := some quota }

/-- One event of a session. -/
def step (env : RealtimeEnv) (s : RealtimeState) : RealtimeEvent → RealtimeState
  | .client textToken audioToken =>
    if s.clientStopped then s
    else { s with localUsage := s.localUsage.countInput textToken audioToken }
  | .target textToken audioToken =>
    if s.targetStopped then s
    else { s with localUsage := s.localUsage.countOutput textToken audioToken }
  | .responseDone realtimeUsage =>
    if s.targetStopped then s else s.responseDone env realtimeUsage
  | .responseDoneLocal textToken audioToken =>
    if s.targetStopped then s else s.responseDoneLocal env textToken audioToken
  | .clientStops => { s with clientStopped := true }
  | .targetStops => { s with targetStopped := true }
  | .handlerReturns => if s.returned then s else s.handlerReturns env
  | .postWss => if s.returned ∧ s.recorded = none then s.postWss env else s

end RealtimeState

end TokenRouter
