import TokenRouter.Pkg.Cachex

/-!
# Channel affinity (`service/channel_affinity.go`)

Requests that carry the same affinity value go to the channel that served one of them before. The
channel is kept in a cache, under a key made of the rule that matched and of what the rule includes.
Regular expressions, JSON paths and lower case are parameters.
-/

namespace TokenRouter.ChannelAffinity

open Cachex

/-! ## Settings -/

/-- `ChannelAffinityKeySource` -/
structure ChannelAffinityKeySource where
  type : String
  key : String
  path : String
  deriving DecidableEq

/-- `ChannelAffinityRule`, without what it changes about the request. -/
structure ChannelAffinityRule where
  name : List Char
  modelRegex : List (List Char)
  pathRegex : List (List Char)
  userAgentInclude : List (List Char)
  keySources : List ChannelAffinityKeySource
  valueRegex : List Char
  ttlSeconds : Int
  includeUsingGroup : Bool
  includeModelName : Bool
  includeRuleName : Bool
  deriving DecidableEq

/-- `ChannelAffinitySetting` -/
structure ChannelAffinitySetting where
  enabled : Bool
  switchOnSuccess : Bool
  defaultTTLSeconds : Int
  rules : List ChannelAffinityRule

/-! ## The request -/

/-- A value of `gin.Context`, by the types that are read back. -/
inductive ContextValue where
  | int (n : Int)
  | text (s : List Char)
  | other
  deriving DecidableEq

/-- What is read of `gin.Context`. -/
structure Context where
  keys : String → Option ContextValue
  /-- `Request.Header.Get` -/
  header : String → List Char
  /-- the request body, if it can be read -/
  body : Option (List UInt8)
  path : List Char
  userAgent : List Char

namespace Context

/-- `Set` -/
def set (c : Context) (key : String) (value : ContextValue) : Context :=
  { c with keys := Function.update c.keys key (some value) }

/-- `GetInt` -/
def getInt (c : Context) (key : String) : Int :=
  match c.keys key with
  | some (.int n) => n
  | _ => 0

/-- `GetString` -/
def getString (c : Context) (key : String) : List Char :=
  match c.keys key with
  | some (.text s) => s
  | _ => []

end Context

/-- `gjson.Result` by what is done with it. -/
inductive GjsonResult where
  | missing
  /-- a string, number or boolean, as `String` gives it -/
  | scalar (text : List Char)
  | raw (text : List Char)

/-- Third-party and Unicode functions. -/
structure TextLib where
  /-- `regexp.Compile` with `MatchString` -/
  regexCompile : List Char → Option (List Char → Bool)
  /-- `gjson.GetBytes` -/
  gjsonGet : List UInt8 → String → GjsonResult
  /-- `strings.ToLower` -/
  toLower : List Char → List Char

namespace TextLib

variable (lib : TextLib)

/-- `matchAnyRegexCached` -/
def matchAnyRegexCached (patterns : List (List Char)) (s : List Char) : Bool :=
  if patterns = [] ∨ s = [] then false
  else
    patterns.any fun pattern =>
      if pattern = [] then false
      else
        match lib.regexCompile pattern with
        | none => false
        | some re => re s

/-- `matchAnyIncludeFold` -/
def matchAnyIncludeFold (patterns : List (List Char)) (s : List Char) : Bool :=
  if patterns = [] ∨ s = [] then false
  else
    let sLower := lib.toLower s
    patterns.any fun p =>
      let p := p.trimBy isSpace
      if p = [] then false else decide (lib.toLower p <:+: sLower)

/-- `extractChannelAffinityValue` -/
def extractChannelAffinityValue (c : Context) (src : ChannelAffinityKeySource) : List Char :=
  if src.type = "context_int" then
    if src.key = "" then []
    else
      let v := c.getInt src.key
      if v ≤ 0 then [] else v.repr.toList
  else if src.type = "context_string" then
    if src.key = "" then [] else (c.getString src.key).trimBy isSpace
  else if src.type = "request_header" then
    if src.key = "" then [] else (c.header src.key).trimBy isSpace
  else if src.type = "gjson" then
    if src.path = "" then []
    else
      match c.body with
      | none => []
      | some body =>
        if body = [] then []
        else
          match lib.gjsonGet body src.path with
          | .missing => []
          | .scalar text => text.trimBy isSpace
          | .raw text => text.trimBy isSpace
  else []

/-- The loop over `KeySources`: the first value that is not empty. -/
def affinityValue (c : Context) : List ChannelAffinityKeySource → List Char
  | [] => []
  | src :: rest =>
    let value := lib.extractChannelAffinityValue c src
    if value ≠ [] then value else affinityValue c rest

/-- The checks of `GetPreferredChannelByAffinity` on one rule: the affinity value, or `none` where
    it goes on with the next rule. -/
def matchRule (c : Context) (modelName : List Char) (rule : ChannelAffinityRule) :
    Option (List Char) :=
  if lib.matchAnyRegexCached rule.modelRegex modelName = false then none
  else if rule.pathRegex ≠ [] ∧ lib.matchAnyRegexCached rule.pathRegex c.path = false then none
  else if rule.userAgentInclude ≠ [] ∧
      lib.matchAnyIncludeFold rule.userAgentInclude c.userAgent = false then none
  else
    let value := lib.affinityValue c rule.keySources
    if value = [] then none
    else if rule.valueRegex ≠ [] ∧ lib.matchAnyRegexCached [rule.valueRegex] value = false then none
    else some value

end TextLib

/-! ## Keys -/

def channelAffinityCacheNamespace : Namespace := "new-api:channel_affinity:v1".toList

/-- `ginKeyChannelAffinityCacheKey` -/
def ginKeyCacheKey : String := "channel_affinity_cache_key"

/-- `ginKeyChannelAffinityTTLSeconds` -/
def ginKeyTTLSeconds : String := "channel_affinity_ttl_seconds"

/-- The parts of `buildChannelAffinityCacheKeySuffix`. -/
def cacheKeyParts (rule : ChannelAffinityRule) (modelName usingGroup affinityValue : List Char) :
    List (List Char) :=
  (if rule.includeRuleName ∧ rule.name ≠ [] then [rule.name] else []) ++
    (if rule.includeModelName ∧ modelName ≠ [] then [modelName] else []) ++
    (if rule.includeUsingGroup ∧ usingGroup ≠ [] then [usingGroup] else []) ++ [affinityValue]

/-- `buildChannelAffinityCacheKeySuffix` -/
def buildChannelAffinityCacheKeySuffix (rule : ChannelAffinityRule)
    (modelName usingGroup affinityValue : List Char) : List Char :=
  [':'].intercalate (cacheKeyParts rule modelName usingGroup affinityValue)

/-- `setChannelAffinityContext` -/
def setChannelAffinityContext (c : Context) (cacheKey : List Char) (ttlSeconds : Int) : Context :=
  (c.set ginKeyCacheKey (.text cacheKey)).set ginKeyTTLSeconds (.int ttlSeconds)

/-- `getChannelAffinityContext` -/
def getChannelAffinityContext (c : Context) : Option (List Char × Int) :=
  match c.keys ginKeyCacheKey with
  | some (.text key) => if key = [] then none else some (key, c.getInt ginKeyTTLSeconds)
  | _ => none

/-! ## Operations -/

/-- The cache of `getChannelAffinityCache`, empty. -/
def emptyCache (redisOn : Bool) : HybridCache Int :=
  { ns := channelAffinityCacheNamespace, redisOn := redisOn, entries := ∅ }

/-- The loop of `GetPreferredChannelByAffinity` over the rules. -/
def preferredChannelLoop (lib : TextLib) (setting : ChannelAffinitySetting)
    (cache : HybridCache Int) (c : Context) (modelName usingGroup : List Char) :
    List ChannelAffinityRule → Context × Int × Bool
  | [] => (c, 0, false)
  | rule :: rest =>
    match lib.matchRule c modelName rule with
    | none => preferredChannelLoop lib setting cache c modelName usingGroup rest
    | some affinityValue =>
      let ttlSeconds := if rule.ttlSeconds ≤ 0 then setting.defaultTTLSeconds else rule.ttlSeconds
      let cacheKeySuffix :=
        buildChannelAffinityCacheKeySuffix rule modelName usingGroup affinityValue
      let cacheKeyFull := channelAffinityCacheNamespace ++ [':'] ++ cacheKeySuffix
      let c := setChannelAffinityContext c cacheKeyFull ttlSeconds
      match cache.get cacheKeySuffix with
      | some channelID => (c, channelID, true)
      | none => (c, 0, false)

/-- `GetPreferredChannelByAffinity` -/
def getPreferredChannelByAffinity (lib : TextLib) (setting : ChannelAffinitySetting)
    (cache : HybridCache Int) (c : Context) (modelName usingGroup : List Char) :
    Context × Int × Bool :=
  if setting.enabled then
    preferredChannelLoop lib setting cache c modelName usingGroup setting.rules
  else (c, 0, false)

/-- `RecordChannelAffinity` -/
def recordChannelAffinity (setting : ChannelAffinitySetting) (cache : HybridCache Int) (c : Context)
    (channelID : Int) : HybridCache Int :=
  if channelID ≤ 0 ∨ setting.enabled = false then cache
  else
    let successChannelID := c.getInt "channel_id"
    let channelID :=
      if setting.switchOnSuccess ∧ 0 < successChannelID then successChannelID else channelID
    match getChannelAffinityContext c with
    | none => cache
    | some (cacheKey, ttlSeconds) =>
      let ttlSeconds := if ttlSeconds ≤ 0 then setting.defaultTTLSeconds else ttlSeconds
      let ttlSeconds := if ttlSeconds ≤ 0 then 3600 else ttlSeconds
      cache.setWithTTL cacheKey channelID ttlSeconds

/-- `ClearChannelAffinityCacheByRuleName` -/
def clearChannelAffinityCacheByRuleName (redisMatch : List Char → List Char → Bool)
    (setting : ChannelAffinitySetting) (cache : HybridCache Int) (ruleName : List Char) :
    HybridCache Int × Except String Nat :=
  let ruleName := ruleName.trimBy isSpace
  if ruleName = [] then (cache, .error "rule_name 不能为空")
  else
    match setting.rules.find? fun r => r.name.trimBy isSpace = ruleName with
    | none => (cache, .error "未知规则名称")
    | some matchedRule =>
      if matchedRule.includeRuleName = false then
        (cache, .error "该规则未启用 include_rule_name，无法按规则清空缓存")
      else
        let (cache, deleted) := cache.deleteByPrefix redisMatch ruleName
        (cache, .ok deleted)

end TokenRouter.ChannelAffinity
