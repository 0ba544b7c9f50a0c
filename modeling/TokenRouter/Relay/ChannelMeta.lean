import TokenRouter.Middleware.Distributor

/-!
# The channel metadata of an attempt (`relay/common/relay_info.go`)

`InitChannelMeta` builds the metadata of the attempt that is about to be made from the keys of
the request context.
-/

namespace TokenRouter.RelayLoop

/-- The API types by channel type, from OpenAI (0) to Advanced Custom (35). -/
def apiTypes : List (Int × Int) :=
  [(1, 0), (14, 1), (11, 2), (15, 3), (16, 4), (17, 5), (18, 6), (21, 7), (23, 8), (24, 9),
   (26, 10), (4, 11), (27, 12), (33, 13), (34, 14), (37, 15), (38, 16), (39, 17), (40, 18),
   (41, 19), (42, 20), (43, 21), (44, 22), (45, 23), (46, 24), (20, 25), (47, 26), (48, 27),
   (49, 28), (51, 29), (25, 30), (53, 31), (35, 32), (56, 33), (57, 34), (58, 35)]

/-- `ChannelType2APIType` without the flag; a type of its own is missing for OpenAI's
    descendants. -/
def channelType2APIType (channelType : Int) : Int := (apiTypes.lookup channelType).getD 0

/-- `streamSupportedChannels` -/
def streamSupportedChannels : List Int :=
  [1, 14, 33, 24, 39, 3, 45, 4, 48, 43, 46, 26, 17, 53, 57, 25, 35, 40, 58]

/-- `ChannelTypeAzure` -/
def azure : Int := 3

/-- `ChannelTypeVertexAi` -/
def vertexAi : Int := 41

/-- `RelayInfo.ChannelMeta` with all its fields. -/
structure ChannelMeta (V : Type) where
  channelType : Int
  channelId : Nat
  channelIsMultiKey : Bool
  channelMultiKeyIndex : Nat
  channelBaseUrl : String
  apiType : Int
  apiVersion : String
  apiKey : String
  organization : String
  channelCreateTime : Int
  paramOverride : Option V
  headersOverride : List (String × String)
  channelSetting : Option V
  channelOtherSettings : Option V
  upstreamModelName : String
  isModelMapped : Bool := false
  supportStreamOptions : Bool
  deriving DecidableEq

variable {V : Type}

/-- `GetAPIVersion`: the `api-version` of the query wins over the context. -/
def getAPIVersion (query : String) (ctx : ChannelContext V) : String :=
  if query = "" then ctx.apiVersion else query

/-- `InitChannelMeta`. `apiVersionQuery` is the `api-version` in the URL of the request. -/
def initChannelMeta (apiVersionQuery : String) (ctx : ChannelContext V) : ChannelMeta V :=
  { channelType := ctx.channelType
    channelId := ctx.channelId
    channelIsMultiKey := ctx.channelIsMultiKey
    channelMultiKeyIndex := ctx.channelMultiKeyIndex
    channelBaseUrl := ctx.baseUrl
    apiType := channelType2APIType ctx.channelType
    apiVersion :=
      if ctx.channelType = vertexAi then ctx.region
      else if ctx.channelType = azure then getAPIVersion apiVersionQuery ctx
      else ctx.apiVersion
    apiKey := ctx.channelKey
    organization := ctx.channelOrganization
    channelCreateTime := ctx.channelCreateTime
    paramOverride := ctx.paramOverride
    headersOverride := ctx.headerOverride
    channelSetting := ctx.channelSetting
    channelOtherSettings := ctx.channelOtherSetting
    upstreamModelName := ctx.originalModel
    supportStreamOptions := ctx.channelType ∈ streamSupportedChannels }

end TokenRouter.RelayLoop
