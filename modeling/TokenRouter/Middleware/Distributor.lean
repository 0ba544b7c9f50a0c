import TokenRouter.Model.ChannelCache
import TokenRouter.Service.ChannelSelect

/-!
# The channel of a request (`middleware/distributor.go`)

The fields of the selected channel travel to the relay through the keys of the request
context. `SetupContextForSelectedChannel` writes them for each channel that is tried, some of
them for some channels only. `V` is the type of decoded JSON values.
-/

namespace TokenRouter

/-- A channel as a request uses it: a field with a getter is what the getter returns, a header
    override is kept in the order of iteration with its values printed. -/
structure SelectedChannel (V : Type) extends ChannelRow where
  name : String := ""
  key : String := ""
  createdTime : Int := 0
  baseURL : String := ""
  setting : V
  otherSettings : V
  paramOverride : V
  headerOverride : List (String × String) := []
  openAIOrganization : Option String := none
  autoBan : Bool := false
  modelMapping : String := ""
  statusCodeMapping : String := ""
  other : String := ""

/-- The channel keys of the request context. A key that is not set reads as the zero value,
    which for a decoded value is `none`. -/
structure ChannelContext (V : Type) where
  originalModel : String := ""
  channelId : Nat := 0
  channelName : String := ""
  channelType : Int := 0
  channelCreateTime : Int := 0
  channelSetting : Option V := none
  channelOtherSetting : Option V := none
  paramOverride : Option V := none
  headerOverride : List (String × String) := []
  channelOrganization : String := ""
  autoBan : Bool := false
  modelMapping : String := ""
  statusCodeMapping : String := ""
  channelIsMultiKey : Bool := false
  channelMultiKeyIndex : Nat := 0
  channelKey : String := ""
  baseUrl : String := ""
  systemPromptOverride : Bool := false
  apiVersion : String := ""
  region : String := ""
  plugin : String := ""
  botId : String := ""

/-- The channel types with a context key of their own. -/
inductive OtherKey where
  | apiVersion
  | region
  | plugin
  | botId
  deriving DecidableEq

/-- The key that the column `other` of a channel goes to: `api_version` for Azure (3),
    Xunfei (18), Gemini (24), Cloudflare (39) and MokaAI (44), `region` for Vertex AI (41),
    `plugin` for Ali (17), `bot_id` for Coze (49). -/
def otherKey (channelType : Int) : Option OtherKey :=
  if channelType ∈ [3, 18, 24, 39, 44] then some .apiVersion
  else if channelType = 41 then some .region
  else if channelType = 17 then some .plugin
  else if channelType = 49 then some .botId
  else none

/-- What `GetNextEnabledKey` reads beside the channel: the polling index that
    `CacheGetChannelInfo` finds or the text of its error, and a random number. -/
structure KeyDraw where
  pollingIndex : Except String Int := .ok 0
  random : Nat := 0

variable {V : Type}

/-- `GetNextEnabledKey` with the key itself. -/
def SelectedChannel.nextEnabledKey (channel : SelectedChannel V) (draw : KeyDraw) :
    Except APIError (String × Nat) :=
  match getNextEnabledKey channel.toChannelRow (draw.pollingIndex.toOption.getD 0) draw.random with
  | .error err => .error err
  | .ok (index, _) =>
    if !channel.channelInfo.isMultiKey then .ok (channel.key, index)
    else
      match channel.channelInfo.multiKeyMode, draw.pollingIndex with
      | .polling, .error message =>
        .error { newError message "get_channel_failed" with skipRetry := true }
      | _, _ => .ok (channel.keys.getD index "", index)

namespace ChannelContext

/-- The keys that are written before the key of the channel is drawn. `template` is the
    parameter template of the channel affinity, if there is one. -/
def setFields (ctx : ChannelContext V) (template : Option (V → V)) (channel : SelectedChannel V) :
    ChannelContext V :=
  { ctx with
    channelId := channel.id
    channelName := channel.name
    channelType := channel.channelType
    channelCreateTime := channel.createdTime
    channelSetting := some channel.setting
    channelOtherSetting := some channel.otherSettings
    paramOverride := some ((template.getD id) channel.paramOverride)
    headerOverride := channel.headerOverride
    channelOrganization :=
      match channel.openAIOrganization with
      | some organization => if organization ≠ "" then organization else ctx.channelOrganization
      | none => ctx.channelOrganization
    autoBan := channel.autoBan
    modelMapping := channel.modelMapping
    statusCodeMapping := channel.statusCodeMapping }

/-- The keys that are written once the key of the channel is known. -/
def setKey (ctx : ChannelContext V) (channel : SelectedChannel V) (key : String) (index : Nat) :
    ChannelContext V :=
  { ctx with
    channelIsMultiKey := channel.channelInfo.isMultiKey
    channelMultiKeyIndex :=
      if channel.channelInfo.isMultiKey then index else ctx.channelMultiKeyIndex
    channelKey := key
    baseUrl := channel.baseURL
    systemPromptOverride := false }

/-- The switch over the type of the channel. -/
def setOther (ctx : ChannelContext V) (channel : SelectedChannel V) : ChannelContext V :=
  match otherKey channel.channelType with
  | some .apiVersion => { ctx with apiVersion := channel.other }
  | some .region => { ctx with region := channel.other }
  | some .plugin => { ctx with plugin := channel.other }
  | some .botId => { ctx with botId := channel.other }
  | none => ctx

end ChannelContext

/-- `SetupContextForSelectedChannel`: the context, and the error it returns. -/
def setupContextForSelectedChannel (ctx : ChannelContext V) (template : Option (V → V))
    (channel : Option (SelectedChannel V)) (modelName : String) (draw : KeyDraw) :
    ChannelContext V × Option APIError :=
  let ctx := { ctx with originalModel := modelName }
  match channel with
  | none =>
    (ctx, some { newError "channel is nil" "get_channel_failed" with skipRetry := true })
  | some channel =>
    let ctx := ctx.setFields template channel
    match channel.nextEnabledKey draw with
    | .error err => (ctx, some err)
    | .ok (key, index) => ((ctx.setKey channel key index).setOther channel, none)

/-- How `Distribute` comes to its channel: the channel a token is bound to, one preferred by
    tenant routing, by a routing policy or by affinity with its group, or a selection. -/
inductive FirstChoice (V : Type) where
  | specific (channel : SelectedChannel V)
  | preferred (channel : SelectedChannel V) (group : String)
  | selected (answers : Availability (SelectedChannel V))

/-- The channel of `Distribute`, its group, and the keys of the groups it leaves; `none` if the
    request is turned away. -/
def distribute (setting : SelectSetting) :
    FirstChoice V → Option (SelectedChannel V × Option String × GroupContext)
  | .specific channel => some (channel, none, {})
  | .preferred channel group =>
    some (channel, some group,
      { autoGroup := if setting.tokenGroup = "auto" then some group else none })
  | .selected answers =>
    match cacheGetRandomSatisfiedChannel setting answers {} with
    | (.ok (some (channel, group)), s) => some (channel, some group, s.ctx)
    | _ => none

end TokenRouter
