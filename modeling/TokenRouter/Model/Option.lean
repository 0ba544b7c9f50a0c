import TokenRouter.Common.Json
import TokenRouter.ForStd.Table
import TokenRouter.Setting.StatusCodeRanges

/-!
# Options (`model/option.go`)

Options are rows of texts. `OptionMap` holds the texts in memory, and most keys have a variable
that their text is parsed into. An update saves the row, puts the text into `OptionMap` and
parses it last.

The keys whose text is parsed and may be rejected are a `ParsedOption`; what the other keys write
is a parameter.
-/

namespace TokenRouter

/-- A row of `options`. -/
structure OptionRow where
  key : String
  value : String
  deriving DecidableEq

/-- The options whose text is parsed. -/
inductive ParsedOption where
  | modelRatio
  | modelPrice
  | completionRatio
  | groupRatio
  | groupGroupRatio
  | cacheRatio
  | createCacheRatio
  | imageRatio
  | audioRatio
  | audioCompletionRatio
  | automaticDisableStatusCodes
  | automaticRetryStatusCodes
  deriving DecidableEq

/-- Why a text is rejected. -/
inductive OptionError where
  | json (err : JsonError)
  | statusCodes (message : String)
  | other (message : String)
  | database (message : String)
  deriving DecidableEq

namespace ParsedOption

/-- The key of an option. -/
def key : ParsedOption → String
  | modelRatio => "ModelRatio"
  | modelPrice => "ModelPrice"
  | completionRatio => "CompletionRatio"
  | groupRatio => "GroupRatio"
  | groupGroupRatio => "GroupGroupRatio"
  | cacheRatio => "CacheRatio"
  | createCacheRatio => "CreateCacheRatio"
  | imageRatio => "ImageRatio"
  | audioRatio => "AudioRatio"
  | audioCompletionRatio => "AudioCompletionRatio"
  | automaticDisableStatusCodes => "AutomaticDisableStatusCodes"
  | automaticRetryStatusCodes => "AutomaticRetryStatusCodes"

/-- The cases of `updateOptionMap`. -/
def ofKey : String → Option ParsedOption
  | "ModelRatio" => some modelRatio
  | "GroupRatio" => some groupRatio
  | "GroupGroupRatio" => some groupGroupRatio
  | "CompletionRatio" => some completionRatio
  | "ModelPrice" => some modelPrice
  | "CacheRatio" => some cacheRatio
  | "CreateCacheRatio" => some createCacheRatio
  | "ImageRatio" => some imageRatio
  | "AudioRatio" => some audioRatio
  | "AudioCompletionRatio" => some audioCompletionRatio
  | "AutomaticDisableStatusCodes" => some automaticDisableStatusCodes
  | "AutomaticRetryStatusCodes" => some automaticRetryStatusCodes
  | _ => none

/-- What an option is parsed into. -/
def Value : ParsedOption → Type
  | groupGroupRatio => GoMap (GoMap ℚ)
  | automaticDisableStatusCodes | automaticRetryStatusCodes => List StatusCodeRange
  | _ => GoMap ℚ

/-- `UpdateModelRatioByJSONString` and the like -/
def updateRatioByJSONString (reader : JsonReader) (jsonStr : String) :
    GoMap ℚ × Option OptionError :=
  (loadFromJsonString reader (decodeFloat reader) jsonStr).map id (·.map .json)

/-- `UpdateGroupGroupRatioByJSONString` -/
def updateGroupGroupRatioByJSONString (reader : JsonReader) (jsonStr : String) :
    GoMap (GoMap ℚ) × Option OptionError :=
  (loadFromJsonString reader (decodeMap (decodeFloat reader)) jsonStr).map id (·.map .json)

/-- `AutomaticDisableStatusCodesFromString`, `AutomaticRetryStatusCodesFromString` -/
def statusCodesFromString (ranges : List StatusCodeRange) (s : String) :
    List StatusCodeRange × Option OptionError :=
  match parseHTTPStatusCodeRanges s with
  | .ok ranges' => (ranges', none)
  | .error message => (ranges, some (.statusCodes message))

/-- What the parser of an option leaves, and its error. -/
def load (reader : JsonReader) : (o : ParsedOption) → o.Value → String →
    o.Value × Option OptionError
  | modelRatio, _, s | modelPrice, _, s | completionRatio, _, s | groupRatio, _, s
  | cacheRatio, _, s | createCacheRatio, _, s | imageRatio, _, s | audioRatio, _, s
  | audioCompletionRatio, _, s => updateRatioByJSONString reader s
  | groupGroupRatio, _, s => updateGroupGroupRatioByJSONString reader s
  | automaticDisableStatusCodes, ranges, s | automaticRetryStatusCodes, ranges, s =>
    statusCodesFromString ranges s

end ParsedOption

/-- The rows, `OptionMap` and the variables. -/
structure OptionState (Other : Type) where
  rows : Table OptionRow (·.key)
  optionMap : String → Option String
  parsed : (o : ParsedOption) → o.Value
  other : Other

/-- The rest of the program: the registered configurations, and what the other keys write. -/
structure OptionEnv (Other : Type) where
  reader : JsonReader
  registered : String → Bool
  updateConfig : String → String → ((o : ParsedOption) → o.Value) → Other →
    ((o : ParsedOption) → o.Value) × Other
  updateOther : String → String → Other → Other × Option OptionError

section Update

variable {Other : Type} (env : OptionEnv Other)

/-- Whether `handleConfigUpdate` takes a key. -/
def OptionEnv.isConfigKey (key : String) : Bool :=
  match key.toList.splitOn '.' with
  | configName :: _ :: _ => env.registered (String.ofList configName)
  | _ => false

/-- `updateOptionMap` -/
def updateOptionMap (key value : String) (st : OptionState Other) :
    OptionState Other × Option OptionError :=
  let st := { st with optionMap := Function.update st.optionMap key (some value) }
  if env.isConfigKey key then
    let (parsed, other) := env.updateConfig key value st.parsed st.other
    ({ st with parsed := parsed, other := other }, none)
  else
    match ParsedOption.ofKey key with
    | some o =>
      let (v, err) := o.load env.reader (st.parsed o) value
      ({ st with parsed := Function.update st.parsed o v }, err)
    | none =>
      let (other, err) := env.updateOther key value st.other
      ({ st with other := other }, err)

/-- `UpdateOption` -/
def updateOption (key value : String) (st : OptionState Other) :
    OptionState Other × Option OptionError :=
  -- save to database first
  updateOptionMap env key value { st with rows := st.rows.upsert ⟨key, value⟩ }

/-- The loop that dispatches the values of `UpdateOptionsBulk`. -/
def dispatchOptions : List (String × String) → OptionState Other →
    OptionState Other × Option OptionError
  | [], st => (st, none)
  | (key, value) :: rest, st =>
    match updateOptionMap env key value st with
    | (st', some err) => (st', some err)
    | (st', none) => dispatchOptions rest st'

/-- `UpdateOptionsBulk`; `visited` is the order in which the second loop visits the map, and
    `dbError` the error of a write. -/
def updateOptionsBulk (dbError : Option String) (values visited : List (String × String))
    (st : OptionState Other) : OptionState Other × Option OptionError :=
  if values = [] then (st, none)
  else
    match dbError with
    | some message => (st, some (.database message))
    | none =>
      dispatchOptions env visited
        { st with rows := values.foldl (fun rows (k, v) => rows.upsert ⟨k, v⟩) st.rows }

/-- `loadOptionsFromDatabase` -/
def loadOptionsFromDatabase (st : OptionState Other) : OptionState Other :=
  st.rows.rows.foldl (fun st row => (updateOptionMap env row.key row.value st).1) st

end Update

/-! ## Prices -/

section Prices

variable {Other : Type} (st : OptionState Other)

/-- `GetGroupRatio` -/
def getGroupRatio (name : String) : ℚ := (GoMap.get? (st.parsed .groupRatio) name).getD 1

/-- `strings.HasPrefix` -/
def hasPrefix (s start : String) : Bool := start.toList.isPrefixOf s.toList

/-- `strings.HasSuffix` -/
def hasSuffix (s ending : String) : Bool := ending.toList.isSuffixOf s.toList

/-- `handleThinkingBudgetModel` -/
def handleThinkingBudgetModel (name start wildcard : String) : String :=
  if hasPrefix name start && containsText name "-thinking-" then wildcard else name

/-- `FormatMatchingModelName` -/
def formatMatchingModelName (name : String) : String :=
  let name :=
    if hasPrefix name "gemini-2.5-flash-lite" then
      handleThinkingBudgetModel name "gemini-2.5-flash-lite" "gemini-2.5-flash-lite-thinking-*"
    else if hasPrefix name "gemini-2.5-flash" then
      handleThinkingBudgetModel name "gemini-2.5-flash" "gemini-2.5-flash-thinking-*"
    else if hasPrefix name "gemini-2.5-pro" then
      handleThinkingBudgetModel name "gemini-2.5-pro" "gemini-2.5-pro-thinking-*"
    else name
  let name := if hasPrefix name "gpt-4-gizmo" then "gpt-4-gizmo-*" else name
  if hasPrefix name "gpt-4o-gizmo" then "gpt-4o-gizmo-*" else name

/-- `CompactModelSuffix` -/
def compactModelSuffix : String := "-openai-compact"

/-- `CompactWildcardModelKey` -/
def compactWildcardModelKey : String := "*" ++ compactModelSuffix

/-- `GetModelPrice` -/
def getModelPrice (name : String) : ℚ × Bool :=
  let name := formatMatchingModelName name
  match GoMap.get? (st.parsed .modelPrice) name with
  | some price => (price, true)
  | none =>
    if hasSuffix name compactModelSuffix then
      match GoMap.get? (st.parsed .modelPrice) compactWildcardModelKey with
      | some price => (price, true)
      | none => (-1, false)
    else (-1, false)

/-- `GetModelRatio` -/
def getModelRatio (selfUseModeEnabled : Bool) (name : String) : ℚ × Bool × String :=
  let name := formatMatchingModelName name
  match GoMap.get? (st.parsed .modelRatio) name with
  | some ratio => (ratio, true, name)
  | none =>
    match hasSuffix name compactModelSuffix,
        GoMap.get? (st.parsed .modelRatio) compactWildcardModelKey with
    | true, some wildcardRatio => (wildcardRatio, true, name)
    | _, _ => (37.5, selfUseModeEnabled, name)

/-- `GetCompletionRatio`; `hardcoded` is `getHardcodedCompletionModelRatio`. -/
def getCompletionRatio (hardcoded : String → ℚ × Bool) (name : String) : ℚ :=
  let name := formatMatchingModelName name
  let stored := GoMap.get? (st.parsed .completionRatio) name
  let (hardCodedRatio, contain) := hardcoded name
  match containsText name "/", stored with
  | true, some ratio => ratio
  | _, _ => if contain then hardCodedRatio else stored.getD hardCodedRatio

end Prices

end TokenRouter
