import TokenRouter.Relay.ChannelMeta

/-!
# Header overrides (`relay/common/override.go`, `relay/channel/api_request.go`)

The headers sent upstream come from the override of the channel, unless a parameter override
has run: it leaves the headers it worked on in the relay information, and from then on these
take precedence. A map is a list in the order Go visits it, its values printed with `%v`.
-/

namespace TokenRouter.RelayLoop

/-- `strings.ToLower` and `regexp.Compile`. -/
structure TextFunctions where
  toLower : String → String
  compileRegex : String → Option (String → Bool)

/-- `strings.HasPrefix` -/
def hasPrefix (s start : String) : Bool := start.toList.isPrefixOf s.toList

/-- A string without its first `n` bytes of ASCII. -/
def dropText (s : String) (n : Nat) : String := String.ofList (s.toList.drop n)

/-- `strings.ReplaceAll` of a text that is not empty, with `skip` characters of the last
    occurrence to be left out. -/
def replaceChars (old new : List Char) : Nat → List Char → List Char
  | _, [] => []
  | skip + 1, _ :: rest => replaceChars old new skip rest
  | 0, c :: rest =>
    if old.isPrefixOf (c :: rest) then new ++ replaceChars old new (old.length - 1) rest
    else c :: replaceChars old new 0 rest

/-- `strings.ReplaceAll` -/
def replaceAll (s old new : String) : String :=
  String.ofList (replaceChars old.toList new.toList 0 s.toList)

abbrev HeaderMap := List (String × String)

/-- An assignment to a key of a map. -/
def HeaderMap.insert (m : HeaderMap) (key value : String) : HeaderMap :=
  (m.filter fun e => e.1 ≠ key) ++ [(key, value)]

namespace TextFunctions

variable (text : TextFunctions)

/-- `normalizeHeaderContextKey` -/
def normalizeHeaderContextKey (key : String) : String := trimSpace (text.toLower key)

/-- `isHeaderPassthroughRuleKeyForOverride` -/
def isHeaderPassthroughRuleKeyForOverride (key : String) : Bool :=
  let key := text.normalizeHeaderContextKey key
  key = "*" || hasPrefix key "re:" || hasPrefix key "regex:"

/-- `isHeaderPassthroughRuleKey` -/
def isHeaderPassthroughRuleKey (key : String) : Bool :=
  let key := trimSpace key
  key = "*" || hasPrefix (text.toLower key) "re:" || hasPrefix (text.toLower key) "regex:"

/-- One entry of `sanitizeHeaderOverrideMap`. -/
def sanitizeEntry (target : HeaderMap) (entry : String × String) : HeaderMap :=
  let key := text.normalizeHeaderContextKey entry.1
  let value := trimSpace entry.2
  if key = "" then target
  else if value = "" then
    if text.isHeaderPassthroughRuleKeyForOverride key then target.insert key "" else target
  else target.insert key value

/-- `sanitizeHeaderOverrideMap` -/
def sanitizeHeaderOverrideMap (source : HeaderMap) : HeaderMap :=
  source.foldl text.sanitizeEntry []

end TextFunctions

/-- The fields of the relay information that header overrides read and write.
    `runtimeHeadersOverride = none` is `UseRuntimeHeadersOverride = false`. -/
structure HeaderInfo (V : Type) where
  channelMeta : Option (ChannelMeta V) := none
  runtimeHeadersOverride : Option HeaderMap := none
  retryIndex : Nat := 0
  lastError : Option APIError := none

/-- The request of the client as the overrides see it. `headers` has the values that
    `Header.Get` returns. -/
structure ClientRequest where
  originModelName : String := ""
  requestURLPath : String := ""
  apiVersionQuery : String := ""
  headers : HeaderMap := []

/-- `BuildParamOverrideContext`: what conditions and header operations can read. -/
structure OverrideContext where
  model : String
  upstreamModel : String
  originalModel : String
  requestPath : String
  requestHeaders : HeaderMap
  headerOverride : HeaderMap
  retryIndex : Nat
  lastError : Option APIError

variable {V : Type}

/-- `GetEffectiveHeaderOverride` -/
def HeaderInfo.getEffectiveHeaderOverride (text : TextFunctions) (info : HeaderInfo V) : HeaderMap :=
  match info.runtimeHeadersOverride with
  | some headers => text.sanitizeHeaderOverrideMap headers
  | none =>
    text.sanitizeHeaderOverrideMap ((info.channelMeta.map ChannelMeta.headersOverride).getD [])

/-- `buildRequestHeadersContext` -/
def buildRequestHeadersContext (text : TextFunctions) (headers : HeaderMap) : HeaderMap :=
  headers.foldl (fun target entry =>
    let key := text.normalizeHeaderContextKey entry.1
    let value := trimSpace entry.2
    if key = "" ∨ value = "" then target else target.insert key value) []

/-- `BuildParamOverrideContext` -/
def buildParamOverrideContext (text : TextFunctions) (request : ClientRequest)
    (info : HeaderInfo V) : OverrideContext :=
  let upstreamModel := (info.channelMeta.map ChannelMeta.upstreamModelName).getD ""
  { model := if upstreamModel = "" then request.originModelName else upstreamModel
    upstreamModel := upstreamModel
    originalModel := request.originModelName
    requestPath := request.requestURLPath
    requestHeaders := buildRequestHeadersContext text request.headers
    headerOverride :=
      text.sanitizeHeaderOverrideMap (info.getEffectiveHeaderOverride text)
    retryIndex := info.retryIndex
    lastError := info.lastError }

/-- The engine of `ApplyParamOverride`: from the override, the body and the context, the body
    and the `header_override` entry of the context afterwards. `isEmpty` is `len(..) == 0`. -/
structure OverrideEngine (V : Type) where
  isEmpty : V → Bool
  apply : V → V → OverrideContext → Except APIError (V × HeaderMap)

/-- `ApplyParamOverrideWithRelayInfo` -/
def applyParamOverrideWithRelayInfo (text : TextFunctions) (engine : OverrideEngine V)
    (request : ClientRequest) (body : V) (info : HeaderInfo V) :
    Except APIError (V × HeaderInfo V) :=
  match info.channelMeta.bind ChannelMeta.paramOverride with
  | none => .ok (body, info)
  | some paramOverride =>
    if engine.isEmpty paramOverride then .ok (body, info)
    else
      match engine.apply paramOverride body (buildParamOverrideContext text request info) with
      | .error err => .error err
      | .ok (body, headers) =>
        -- `syncRuntimeHeaderOverrideFromContext`
        .ok (body, { info with
          runtimeHeadersOverride := some (text.sanitizeHeaderOverrideMap headers) })

/-- A parameter override changes the runtime headers at most. -/
theorem applyParamOverrideWithRelayInfo_frame {text : TextFunctions} {engine : OverrideEngine V}
    {request : ClientRequest} {body body' : V} {info info' : HeaderInfo V}
    (h : applyParamOverrideWithRelayInfo text engine request body info = .ok (body', info')) :
    info' = { info with runtimeHeadersOverride := info'.runtimeHeadersOverride } := by
  unfold applyParamOverrideWithRelayInfo at h
  split at h
  · cases h
    rfl
  · split at h
    · cases h
      rfl
    · split at h
      · cases h
      · cases h
        rfl

/-! ## The headers that are sent -/

/-- `passthroughSkipHeaderNamesLower` -/
def passthroughSkipHeaderNamesLower : List String :=
  ["connection", "keep-alive", "proxy-authenticate", "proxy-authorization", "te", "trailer",
   "transfer-encoding", "upgrade", "cookie", "host", "content-length", "accept-encoding",
   "authorization", "x-api-key", "x-goog-api-key", "sec-websocket-key", "sec-websocket-version",
   "sec-websocket-extensions"]

/-- `shouldSkipPassthroughHeader` -/
def shouldSkipPassthroughHeader (text : TextFunctions) (name : String) : Bool :=
  let name := trimSpace name
  name = "" || text.toLower name ∈ passthroughSkipHeaderNamesLower

/-- `Header.Get` -/
def headerGet (text : TextFunctions) (headers : HeaderMap) (name : String) : String :=
  ((headers.find? fun e => text.toLower e.1 = text.toLower name).map Prod.snd).getD ""

/-- An error of `processHeaderOverride`. -/
def headerOverrideError (message : String) : APIError :=
  newError message "channel:header_override_invalid"

/-- `applyHeaderOverridePlaceholders`: the value, or none if the header is left out. -/
def applyHeaderOverridePlaceholders (text : TextFunctions) (template : String)
    (headers : HeaderMap) (apiKey : String) : Except APIError (Option String) :=
  let trimmed := trimSpace template
  if hasPrefix trimmed "\x7bclient_header:" then
    let afterPrefix := (trimmed.toList.drop 15)
    match afterPrefix.findIdx? (· = '}') with
    | none =>
      .error (headerOverrideError "client_header placeholder must be the full value")
    | some stop =>
      if stop ≠ afterPrefix.length - 1 then
        .error (headerOverrideError "client_header placeholder must be the full value")
      else
        let name := trimSpace (String.ofList (afterPrefix.take stop))
        if name = "" then
          .error (headerOverrideError "client_header placeholder name is empty")
        else
          let value := headerGet text headers name
          if trimSpace value = "" then .ok none else .ok (some value)
  else
    let replaced := replaceAll template "\x7bapi_key\x7d" apiKey
    if trimSpace replaced = "" then .ok none else .ok (some replaced)

/-- The passthrough rules of an override: whether all headers pass, and the patterns. -/
structure PassthroughRules where
  passAll : Bool := false
  patterns : List (String → Bool) := []

/-- The first loop of `processHeaderOverride`, over the keys of the override. -/
def passthroughRules (text : TextFunctions) :
    HeaderMap → PassthroughRules → Except APIError PassthroughRules
  | [], rules => .ok rules
  | (k, _) :: rest, rules =>
    let key := trimSpace (text.toLower k)
    if key = "*" then passthroughRules text rest { rules with passAll := true }
    else if hasPrefix key "re:" || hasPrefix key "regex:" then
      let pattern := trimSpace (dropText key (if hasPrefix key "re:" then 3 else 6))
      if pattern = "" then
        .error (headerOverrideError "header passthrough regex pattern is empty")
      else
        match text.compileRegex pattern with
        | none => .error (headerOverrideError "error parsing regexp")
        | some matches_ =>
          passthroughRules text rest { rules with patterns := rules.patterns ++ [matches_] }
    else passthroughRules text rest rules

/-- The second loop: the headers of the client that pass. -/
def passthroughHeaders (text : TextFunctions) (rules : PassthroughRules) (headers : HeaderMap) :
    HeaderMap :=
  if !rules.passAll && rules.patterns.isEmpty then []
  else
    headers.foldl (fun target entry =>
      if shouldSkipPassthroughHeader text entry.1 then target
      else if !rules.passAll && !rules.patterns.any fun p => p entry.1 then target
      else
        let value := trimSpace (headerGet text headers entry.1)
        if value = "" then target
        else target.insert (text.toLower (trimSpace entry.1)) value) []

/-- The third loop: the overrides themselves. -/
def applyOverrides (text : TextFunctions) (headers : HeaderMap) (apiKey : String) :
    HeaderMap → HeaderMap → Except APIError HeaderMap
  | [], target => .ok target
  | (k, template) :: rest, target =>
    let key := trimSpace (text.toLower k)
    if text.isHeaderPassthroughRuleKey k || key = "" then
      applyOverrides text headers apiKey rest target
    else
      match applyHeaderOverridePlaceholders text template headers apiKey with
      | .error err => .error err
      | .ok none => applyOverrides text headers apiKey rest target
      | .ok (some value) => applyOverrides text headers apiKey rest (target.insert key value)

/-- `processHeaderOverride` of a relayed request. -/
def processHeaderOverride (text : TextFunctions) (request : ClientRequest) (info : HeaderInfo V) :
    Except APIError HeaderMap :=
  let source := info.getEffectiveHeaderOverride text
  match passthroughRules text source {} with
  | .error err => .error err
  | .ok rules =>
    applyOverrides text request.headers ((info.channelMeta.map ChannelMeta.apiKey).getD "") source
      (passthroughHeaders text rules request.headers)

end TokenRouter.RelayLoop
