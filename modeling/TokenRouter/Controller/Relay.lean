import TokenRouter.Relay.HeaderOverride

/-!
# The relay loop (`controller/relay.go`, `relay/helper/price.go`)

A request is tried on the channel that `Distribute` has chosen, and after a retryable error on
the channel of a new selection, until an attempt succeeds, the error is final or the retries
are used up. One step of the model is one turn of the loop.
-/

namespace TokenRouter.RelayLoop

/-! ## Prices -/

/-- The two ratio tables of the settings. -/
structure GroupRatios where
  groupRatio : String → Option ℚ
  groupGroupRatio : String → String → Option ℚ

/-- `types.GroupRatioInfo` -/
structure GroupRatioInfo where
  groupRatio : ℚ := 1
  groupSpecialRatio : ℚ := -1
  hasSpecialRatio : Bool := false
  deriving DecidableEq

/-- The ratio of a group for the users of another, as `HandleGroupRatio` decides it. -/
def groupRatioInfo (ratios : GroupRatios) (userGroup usingGroup : String) : GroupRatioInfo :=
  match ratios.groupGroupRatio userGroup usingGroup with
  | some ratio => { groupRatio := ratio, groupSpecialRatio := ratio, hasSpecialRatio := true }
  | none => { groupRatio := (ratios.groupRatio usingGroup).getD 1 }

/-- The fields of the relay information that prices use. `groupRatioInfo` is the one of
    `PriceData`, `tieredGroupRatio` the one of `TieredBillingSnapshot`, if there is one. -/
structure PriceInfo where
  userGroup : String := ""
  usingGroup : String := ""
  groupRatioInfo : GroupRatioInfo := {}
  tieredGroupRatio : Option ℚ := none
  deriving DecidableEq

/-- `HandleGroupRatio`, which also moves `UsingGroup` to the group of the context. -/
def handleGroupRatio (ratios : GroupRatios) (ctx : GroupContext) (info : PriceInfo) :
    GroupRatioInfo × PriceInfo :=
  let usingGroup := ctx.autoGroup.getD info.usingGroup
  (groupRatioInfo ratios info.userGroup usingGroup, { info with usingGroup := usingGroup })

/-- `PriceData.GroupRatioInfo = HandleGroupRatio(..)` -/
def refreshGroupRatio (ratios : GroupRatios) (ctx : GroupContext) (info : PriceInfo) : PriceInfo :=
  let (ratio, info) := handleGroupRatio ratios ctx info
  { info with groupRatioInfo := ratio }

/-- What `GetBillingMode` and the price tables say of the model. -/
inductive ModelBilling where
  | ratio
  | price
  | tieredExpr
  deriving DecidableEq

/-- The group ratios that `ModelPriceHelper` stores before the first attempt. -/
def modelPriceHelper (ratios : GroupRatios) (billing : ModelBilling) (ctx : GroupContext)
    (info : PriceInfo) : PriceInfo :=
  let info := refreshGroupRatio ratios ctx info
  { info with
    tieredGroupRatio :=
      if billing = .tieredExpr then some info.groupRatioInfo.groupRatio else info.tieredGroupRatio }

/-- The group ratio a successful attempt is settled with: `TryTieredSettle` uses the snapshot if
    there is one, every other settlement `PriceData`. -/
def PriceInfo.settleGroupRatio (info : PriceInfo) : ℚ :=
  info.tieredGroupRatio.getD info.groupRatioInfo.groupRatio

/-! ## Retries -/

/-- The settings and the keys of the context that decide on a retry. -/
structure RetryRules where
  affinitySkipRetry : Bool := false
  specificChannel : Bool := false
  retryStatusCodeRanges : List StatusCodeRange := automaticRetryStatusCodeRanges

/-- `operation_setting.ShouldRetryByStatusCode` -/
def shouldRetryByStatusCode (rules : RetryRules) (code : Int) : Bool :=
  !(code = 504 || code = 524) && shouldMatchStatusCodeRanges rules.retryStatusCodeRanges code

/-- `shouldRetry` after an error. -/
def shouldRetry (rules : RetryRules) (err : APIError) (retryTimes : Int) : Bool :=
  if rules.affinitySkipRetry then false
  else if isChannelError err then true
  else if isSkipRetryError err then false
  else if retryTimes ≤ 0 then false
  else if rules.specificChannel then false
  else if 200 ≤ err.statusCode ∧ err.statusCode < 300 then false
  else if err.statusCode < 100 ∨ 599 < err.statusCode then true
  else if err.errorCode = "bad_response_body" then false
  else shouldRetryByStatusCode rules err.statusCode

/-! ## The loop -/

variable {V : Type}

/-- What is fixed during a request. `template` is the parameter template of its channel
    affinity. -/
structure RelayEnv (V : Type) where
  select : SelectSetting
  rules : RetryRules
  ratios : GroupRatios
  billing : ModelBilling
  text : TextFunctions
  engine : OverrideEngine V
  template : Option (V → V) := none
  request : ClientRequest
  userGroup : String := ""

/-- What one turn of the loop meets: the answers of a selection, the key drawn for the selected
    channel, an error in reading the body, the converted body with whether the handler runs the
    parameter override on it, and the error of the upstream, `none` for a success. -/
structure AttemptInput (V : Type) where
  answers : Availability (SelectedChannel V)
  key : KeyDraw := {}
  bodyError : Option APIError := none
  body : V
  runsOverride : Bool := true
  upstream : Option APIError

/-- An attempt as it went out: the group and the channel of the last selection with the draw of
    its key, the metadata, what the parameter override was run on, and the headers sent or the
    error that kept the request from being sent. -/
structure Attempt (V : Type) where
  group : Option String
  channel : SelectedChannel V
  key : KeyDraw
  channelMeta : ChannelMeta V
  retryIndex : Nat
  lastError : Option APIError
  body : V
  runsOverride : Bool
  headers : Except APIError HeaderMap

/-- The request while it is relayed. `selected` is the channel of the last selection with its
    group, `key` the draw of its key; `result` is set when the loop is left. -/
structure RelayState (V : Type) where
  selection : Selection
  channelContext : ChannelContext V
  selected : SelectedChannel V × Option String
  key : KeyDraw
  headerInfo : HeaderInfo V := {}
  price : PriceInfo
  attempts : List (Attempt V) := []
  result : Option (Except APIError Unit) := none

/-- `SetupContextForSelectedChannel` for this request. -/
def setupFor (env : RelayEnv V) (ctx : ChannelContext V) (channel : SelectedChannel V)
    (key : KeyDraw) : ChannelContext V × Option APIError :=
  setupContextForSelectedChannel ctx env.template (some channel) env.request.originModelName key

/-- The request as `Distribute` and `ModelPriceHelper` hand it to the loop; `none` if
    `Distribute` turns it away. The error of the setup is not looked at. -/
def start (env : RelayEnv V) (choice : FirstChoice V) (key : KeyDraw) : Option (RelayState V) :=
  match distribute env.select choice with
  | none => none
  | some (channel, group, ctx) =>
    some
      { selection := { ctx := ctx }
        channelContext := (setupFor env {} channel key).1
        selected := (channel, group)
        key := key
        price := modelPriceHelper env.ratios env.billing ctx
          { userGroup := env.userGroup, usingGroup := env.select.tokenGroup } }

/-- An error of `getChannel`, which is never retried. -/
def getChannelError (message : String) : APIError :=
  { newError message "get_channel_failed" with skipRetry := true }

/-- `getChannel`: the state after it and its error. -/
def getChannel (env : RelayEnv V) (s : RelayState V) (e : AttemptInput V) :
    RelayState V × Option APIError :=
  match s.headerInfo.channelMeta with
  | none => (s, none)
  | some _ =>
    let (found, selection) := cacheGetRandomSatisfiedChannel env.select e.answers s.selection
    let s := { s with
      selection := selection
      price := refreshGroupRatio env.ratios selection.ctx s.price }
    match found with
    | .error message => (s, some (getChannelError message))
    | .ok none => (s, some (getChannelError "channel not found"))
    | .ok (some (channel, group)) =>
      let (channelContext, err) := setupFor env s.channelContext channel e.key
      ({ s with
          channelContext := channelContext
          selected := (channel, some group)
          key := e.key }, err)

/-- The parameter override, where the handler runs it, and the headers after it. -/
def runOverride (env : RelayEnv V) (info : HeaderInfo V) (body : V) (runsOverride : Bool) :
    HeaderInfo V × Except APIError HeaderMap :=
  let applied :=
    if runsOverride then
      applyParamOverrideWithRelayInfo env.text env.engine env.request body info
    else .ok (body, info)
  match applied with
  | .error err => (info, .error err)
  | .ok (_, info) => (info, processHeaderOverride env.text env.request info)

/-- What a handler does until the request is sent: it builds the channel metadata, runs the
    parameter override and works out the headers. -/
def prepare (env : RelayEnv V) (s : RelayState V) (e : AttemptInput V) :
    HeaderInfo V × Except APIError HeaderMap :=
  runOverride env
    { s.headerInfo with
      channelMeta := some (initChannelMeta env.request.apiVersionQuery s.channelContext) }
    e.body e.runsOverride

/-- The attempt that is made in a state, with the headers that go out or the error. -/
def attempt (env : RelayEnv V) (s : RelayState V) (e : AttemptInput V)
    (headers : Except APIError HeaderMap) : Attempt V :=
  { group := s.selected.2
    channel := s.selected.1
    key := s.key
    channelMeta := initChannelMeta env.request.apiVersionQuery s.channelContext
    retryIndex := s.headerInfo.retryIndex
    lastError := s.headerInfo.lastError
    body := e.body
    runsOverride := e.runsOverride
    headers := headers }

/-- The loop is left. -/
def leave (s : RelayState V) (result : Except APIError Unit) : RelayState V :=
  { s with result := some result }

/-- The loop after an attempt with an error. -/
def afterError (env : RelayEnv V) (s : RelayState V) (err : APIError) : RelayState V :=
  let s := { s with headerInfo := { s.headerInfo with lastError := some err } }
  if shouldRetry env.rules err (env.select.retryTimes - s.selection.param.retry) then
    { s with selection := { s.selection with param := s.selection.param.increaseRetry } }
  else leave s (.error err)

/-- The body of the loop from the channel on. -/
def handle (env : RelayEnv V) (s : RelayState V) (e : AttemptInput V) : RelayState V :=
  match e.bodyError with
  | some err => leave s (.error err)
  | none =>
    let (info, headers) := prepare env s e
    let s := { s with
      headerInfo := info
      attempts := s.attempts ++ [attempt env s e headers] }
    match headers with
    | .error err => afterError env s err
    | .ok _ =>
      match e.upstream with
      | some err => afterError env s err
      | none => leave { s with headerInfo := { s.headerInfo with lastError := none } } (.ok ())

/-- One turn of the loop; the guard comes first. -/
def turn (env : RelayEnv V) (s : RelayState V) (e : AttemptInput V) : RelayState V :=
  if s.result.isSome then s
  else if env.select.retryTimes < s.selection.param.retry then
    leave s (.error (s.headerInfo.lastError.getD {}))
  else
    let s := { s with
      headerInfo := { s.headerInfo with retryIndex := s.selection.param.retry } }
    match getChannel env s e with
    | (s, some err) => leave s (.error err)
    | (s, none) => handle env s e

/-! ## What a turn does -/

/-- The state in which a turn looks for its channel. -/
def enter (s : RelayState V) : RelayState V :=
  { s with headerInfo := { s.headerInfo with retryIndex := s.selection.param.retry } }

/-- The state in which an attempt has been prepared. -/
def attempted (env : RelayEnv V) (s : RelayState V) (e : AttemptInput V) : RelayState V :=
  { s with
    headerInfo := (prepare env s e).1
    attempts := s.attempts ++ [attempt env s e (prepare env s e).2] }

/-- The error of an attempt: the one that kept it from being sent, or the upstream's. -/
def attemptError (env : RelayEnv V) (s : RelayState V) (e : AttemptInput V) : Option APIError :=
  match (prepare env s e).2 with
  | .error err => some err
  | .ok _ => e.upstream

/-- After an attempt the relay information has the metadata of its channel. -/
theorem prepare_channelMeta (env : RelayEnv V) (s : RelayState V) (e : AttemptInput V) :
    (prepare env s e).1.channelMeta ≠ none := by
  unfold prepare runOverride
  dsimp only
  split
  · simp
  · next body info happly =>
    split at happly
    · rw [applyParamOverrideWithRelayInfo_frame happly]
      simp
    · cases happly
      simp

/-- The outcomes of a turn. -/
inductive TurnCase (env : RelayEnv V) (s : RelayState V) (e : AttemptInput V) :
    RelayState V → Prop where
  | idle (hresult : s.result.isSome) : TurnCase env s e s
  | spent (hresult : s.result = none) (hretry : env.select.retryTimes < s.selection.param.retry) :
      TurnCase env s e (leave s (.error (s.headerInfo.lastError.getD {})))
  | noChannel (s₁ : RelayState V) (err : APIError) (hresult : s.result = none)
      (hretry : s.selection.param.retry ≤ env.select.retryTimes)
      (hget : getChannel env (enter s) e = (s₁, some err)) :
      TurnCase env s e (leave s₁ (.error err))
  | noBody (s₁ : RelayState V) (err : APIError) (hresult : s.result = none)
      (hretry : s.selection.param.retry ≤ env.select.retryTimes)
      (hget : getChannel env (enter s) e = (s₁, none)) (hbody : e.bodyError = some err) :
      TurnCase env s e (leave s₁ (.error err))
  | succeeded (s₁ : RelayState V) (hresult : s.result = none)
      (hretry : s.selection.param.retry ≤ env.select.retryTimes)
      (hget : getChannel env (enter s) e = (s₁, none)) (hbody : e.bodyError = none)
      (herr : attemptError env s₁ e = none) :
      TurnCase env s e (leave
        { attempted env s₁ e with
          headerInfo := { (attempted env s₁ e).headerInfo with lastError := none } } (.ok ()))
  | failed (s₁ : RelayState V) (err : APIError) (hresult : s.result = none)
      (hretry : s.selection.param.retry ≤ env.select.retryTimes)
      (hget : getChannel env (enter s) e = (s₁, none)) (hbody : e.bodyError = none)
      (herr : attemptError env s₁ e = some err) :
      TurnCase env s e (afterError env (attempted env s₁ e) err)

theorem turn_case (env : RelayEnv V) (s : RelayState V) (e : AttemptInput V) :
    TurnCase env s e (turn env s e) := by
  unfold turn
  split
  · next h => exact .idle h
  · next h =>
    have hresult : s.result = none := by simpa using h
    split
    · next hlt => exact .spent hresult hlt
    · next hlt =>
      have hretry := Nat.le_of_not_lt hlt
      dsimp only
      split
      · next s₁ err hget => exact .noChannel s₁ err hresult hretry hget
      · next s₁ hget =>
        unfold handle
        cases hbody : e.bodyError with
        | some err => exact .noBody s₁ err hresult hretry hget hbody
        | none =>
          dsimp only
          cases hp : (prepare env s₁ e).2 with
          | error err =>
            have herr : attemptError env s₁ e = some err := by simp [attemptError, hp]
            have h := TurnCase.failed s₁ err hresult hretry hget hbody herr
            simpa [attempted, hp] using h
          | ok headers =>
            cases hu : e.upstream with
            | some err =>
              have herr : attemptError env s₁ e = some err := by simp [attemptError, hp, hu]
              have h := TurnCase.failed s₁ err hresult hretry hget hbody herr
              simpa [attempted, hp, hu] using h
            | none =>
              have herr : attemptError env s₁ e = none := by simp [attemptError, hp, hu]
              have h := TurnCase.succeeded s₁ hresult hretry hget hbody herr
              simpa [attempted, hp, hu] using h

/-- The state after a selection. -/
def reselect (env : RelayEnv V) (s : RelayState V) (selection : Selection) : RelayState V :=
  { s with
    selection := selection
    price := refreshGroupRatio env.ratios selection.ctx s.price }

/-- The state after the channel of a selection has been set up. -/
def adopt (env : RelayEnv V) (s : RelayState V) (channel : SelectedChannel V) (group : String)
    (key : KeyDraw) : RelayState V :=
  { s with
    channelContext := (setupFor env s.channelContext channel key).1
    selected := (channel, some group)
    key := key }

/-- The outcomes of `getChannel`. -/
inductive GetChannelCase (env : RelayEnv V) (s : RelayState V) (e : AttemptInput V) :
    RelayState V × Option APIError → Prop where
  | first (hmeta : s.headerInfo.channelMeta = none) : GetChannelCase env s e (s, none)
  | missing (m : ChannelMeta V) (found : Except String (Option (SelectedChannel V × String)))
      (selection : Selection) (message : String) (hmeta : s.headerInfo.channelMeta = some m)
      (hselect : cacheGetRandomSatisfiedChannel env.select e.answers s.selection =
        (found, selection)) (hfound : ∀ c, found ≠ .ok (some c)) :
      GetChannelCase env s e (reselect env s selection, some (getChannelError message))
  | found (m : ChannelMeta V) (channel : SelectedChannel V) (group : String)
      (selection : Selection) (hmeta : s.headerInfo.channelMeta = some m)
      (hselect : cacheGetRandomSatisfiedChannel env.select e.answers s.selection =
        (.ok (some (channel, group)), selection)) :
      GetChannelCase env s e
        (adopt env (reselect env s selection) channel group e.key,
          (setupFor env s.channelContext channel e.key).2)

theorem getChannel_case (env : RelayEnv V) (s : RelayState V) (e : AttemptInput V) :
    GetChannelCase env s e (getChannel env s e) := by
  unfold getChannel
  cases hmeta : s.headerInfo.channelMeta with
  | none => exact .first hmeta
  | some m =>
    dsimp only
    rcases hselect : cacheGetRandomSatisfiedChannel env.select e.answers s.selection with
      ⟨found, selection⟩
    rcases found with message | found
    · exact .missing m _ selection message hmeta hselect (by simp)
    · cases found with
      | none => exact .missing m _ selection "channel not found" hmeta hselect (by simp)
      | some c => exact .found m c.1 c.2 selection hmeta hselect

end TokenRouter.RelayLoop
