import TokenRouter.Relay.ChannelMeta

/-!
# The body of an upstream request (`relay/compatible_handler.go` and its siblings,
`relay/common/outbound_body.go`, `relay/channel/api_request.go`)

Each attempt of a request sends the client's body as it came or a converted one. The size of
a body whose length `http.NewRequest` cannot see is noted on the `RelayInfo` of the whole
request, from where `applyUpstreamContentLength` takes it. Conversion, parameter override and
the adaptors are parameters: what matters of them is the bytes that they give, or that they fail.
-/

namespace TokenRouter.RelayLoop

/-- The `http.Request` to the upstream. -/
structure UpstreamRequest where
  body : List UInt8
  contentLength : Int
  deriving DecidableEq

/-- The fields of `RelayInfo` that outlive an attempt and that a body depends on. -/
structure BodyInfo (V : Type) where
  relayMode : Int
  channelMeta : Option (ChannelMeta V) := none
  upstreamRequestBodySize : Int := 0

/-- `RelayModeChatCompletions` -/
def relayModeChatCompletions : Int := 1

/-- What the calls of one attempt answer. -/
structure BodyCalls (V R E : Type) where
  /-- the keys that the channel of this attempt has left in the request context -/
  ctx : ChannelContext V
  apiVersionQuery : String := ""
  /-- `GetGlobalSettings().PassThroughRequestEnabled` -/
  passThroughRequestEnabled : Bool
  /-- `ShouldChatCompletionsUseResponsesGlobal` for this channel -/
  chatCompletionsUseResponses : Bool := false
  /-- the type of the request, its copy, the mapped model and the adaptor -/
  prepare : ChannelMeta V → Except E Unit
  /-- `GetBodyStorage`: the client's body, read from its start -/
  getBodyStorage : Except E (List UInt8)
  /-- `ConvertOpenAIRequest` or its sibling, and the system prompt of the channel -/
  convertRequest : ChannelMeta V → Except E R
  /-- the two conversions of `chatCompletionsViaResponses`, up to the request that is marshalled -/
  convertViaResponses : ChannelMeta V → Except E R
  /-- `common.Marshal` -/
  marshal : R → Except E (List UInt8)
  /-- `RemoveDisabledFields` -/
  removeDisabledFields : List UInt8 → Option V → Bool → Except E (List UInt8)
  /-- `ApplyParamOverrideWithRelayInfo` -/
  applyParamOverride : List UInt8 → ChannelMeta V → Except E (List UInt8)
  /-- `CreateBodyStorage` may fail to write its file -/
  createBodyStorage : Except E Unit
  /-- the URL and the headers, and the sending of the request -/
  send : Except E Unit

variable {V R E : Type}

/-- `ChannelSetting.PassThroughBodyEnabled`; a channel without settings has the zero value. -/
def ChannelMeta.passThroughBody (passThroughBodyEnabled : V → Bool) (m : ChannelMeta V) : Bool :=
  (m.channelSetting.map passThroughBodyEnabled).getD false

/-- `NewOutboundJSONBody`: the body and its size. -/
def newOutboundJSONBody (calls : BodyCalls V R E) (data : List UInt8) :
    Except E (List UInt8 × Int) := do
  calls.createBodyStorage
  return (data, data.length)

/-- `http.NewRequest` with a body that is only a reader: its length is not seen. -/
def newRequest (body : List UInt8) : UpstreamRequest :=
  { body, contentLength := 0 }

/-- `applyUpstreamContentLength` -/
def applyUpstreamContentLength (req : UpstreamRequest) (upstreamRequestBodySize : Int) :
    UpstreamRequest :=
  if upstreamRequestBodySize > 0 ∧ req.contentLength ≤ 0 then
    { req with contentLength := upstreamRequestBodySize }
  else req

/-- `DoApiRequest`: the request that is sent, if it comes to that. -/
def doApiRequest (calls : BodyCalls V R E) (info : BodyInfo V) (body : List UInt8) :
    Option UpstreamRequest :=
  match calls.send with
  | .error _ => none
  | .ok () => some (applyUpstreamContentLength (newRequest body) info.upstreamRequestBodySize)

/-! ## The handlers -/

/-- In what the handlers differ. -/
structure BodyHandler where
  /-- chat completions may take the way of the Responses API, in this relay mode only if one is
      given -/
  viaResponses : Bool := false
  onlyInMode : Option Int := none
  /-- the size of a client's body that is passed through is noted -/
  notesPassThrough : Bool := false
  /-- `RemoveDisabledFields` is called -/
  removesDisabledFields : Bool := true

/-- The handler leaves the request to `chatCompletionsViaResponses`. -/
def BodyHandler.usesResponses (h : BodyHandler) (relayMode : Int) (passThrough : Bool)
    (calls : BodyCalls V R E) : Bool :=
  h.viaResponses && (h.onlyInMode.all (· == relayMode)) && !passThrough &&
    calls.chatCompletionsUseResponses

/-- The converting branch: the bytes that are sent. -/
def BodyHandler.convertedBody (h : BodyHandler) (passThroughBodyEnabled : V → Bool)
    (calls : BodyCalls V R E) (m : ChannelMeta V) : Except E (List UInt8) := do
  let convertedRequest ← calls.convertRequest m
  let jsonData ← calls.marshal convertedRequest
  let jsonData ←
    if h.removesDisabledFields then
      calls.removeDisabledFields jsonData m.channelOtherSettings
        (m.passThroughBody passThroughBodyEnabled)
    else pure jsonData
  if m.paramOverride.isSome then calls.applyParamOverride jsonData m else pure jsonData

/-- `chatCompletionsViaResponses`: the override comes before the conversion, and both are in it. -/
def viaResponsesBody (passThroughBodyEnabled : V → Bool) (calls : BodyCalls V R E)
    (m : ChannelMeta V) : Except E (List UInt8) := do
  let convertedRequest ← calls.convertViaResponses m
  let jsonData ← calls.marshal convertedRequest
  calls.removeDisabledFields jsonData m.channelOtherSettings
    (m.passThroughBody passThroughBodyEnabled)

/-- The body of an attempt, and the size that is noted for it, if one is. -/
def BodyHandler.requestBody (h : BodyHandler) (passThroughBodyEnabled : V → Bool)
    (relayMode : Int) (calls : BodyCalls V R E) (m : ChannelMeta V) :
    Except E (List UInt8 × Option Int) := do
  calls.prepare m
  let passThrough := calls.passThroughRequestEnabled || m.passThroughBody passThroughBodyEnabled
  if h.usesResponses relayMode passThrough calls then
    let jsonData ← viaResponsesBody passThroughBodyEnabled calls m
    let (body, size) ← newOutboundJSONBody calls jsonData
    return (body, some size)
  else if passThrough then
    let storage ← calls.getBodyStorage
    return (storage, if h.notesPassThrough then some storage.length else none)
  else
    let jsonData ← h.convertedBody passThroughBodyEnabled calls m
    let (body, size) ← newOutboundJSONBody calls jsonData
    return (body, some size)

/-- One attempt: `InitChannelMeta`, which leaves the noted size as it is, then the body and
    `DoRequest`. -/
def BodyHandler.attempt (h : BodyHandler) (passThroughBodyEnabled : V → Bool) (info : BodyInfo V)
    (calls : BodyCalls V R E) : BodyInfo V × Option UpstreamRequest :=
  let m := initChannelMeta calls.apiVersionQuery calls.ctx
  let info := { info with channelMeta := some m }
  match h.requestBody passThroughBodyEnabled info.relayMode calls m with
  | .error _ => (info, none)
  | .ok (body, none) => (info, doApiRequest calls info body)
  | .ok (body, some size) =>
    let info := { info with upstreamRequestBodySize := size }
    (info, doApiRequest calls info body)

/-- `TextHelper` -/
def textHelper (passThroughBodyEnabled : V → Bool) :
    BodyInfo V → BodyCalls V R E → BodyInfo V × Option UpstreamRequest :=
  BodyHandler.attempt { viaResponses := true, onlyInMode := some relayModeChatCompletions }
    passThroughBodyEnabled

/-- `ClaudeHelper` notes the size of a body that it passes through. -/
def claudeHelper (passThroughBodyEnabled : V → Bool) :
    BodyInfo V → BodyCalls V R E → BodyInfo V × Option UpstreamRequest :=
  BodyHandler.attempt { viaResponses := true, notesPassThrough := true } passThroughBodyEnabled

/-- `ResponsesHelper` -/
def responsesHelper (passThroughBodyEnabled : V → Bool) :
    BodyInfo V → BodyCalls V R E → BodyInfo V × Option UpstreamRequest :=
  BodyHandler.attempt {} passThroughBodyEnabled

/-- `GeminiHelper` -/
def geminiHelper (passThroughBodyEnabled : V → Bool) :
    BodyInfo V → BodyCalls V R E → BodyInfo V × Option UpstreamRequest :=
  BodyHandler.attempt { removesDisabledFields := false } passThroughBodyEnabled

/-- `RerankHelper` -/
def rerankHelper (passThroughBodyEnabled : V → Bool) :
    BodyInfo V → BodyCalls V R E → BodyInfo V × Option UpstreamRequest :=
  BodyHandler.attempt { removesDisabledFields := false } passThroughBodyEnabled

end TokenRouter.RelayLoop
