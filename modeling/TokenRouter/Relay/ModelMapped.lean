import TokenRouter.Model.Option

/-!
# Model redirection (`relay/helper/model_mapped.go`)

Each attempt of a request starts from the origin model name, which the channel of the attempt may
map to another model, along a chain. In responses-compact mode and for some Gemini requests an
attempt also replaces the origin model name.
-/

namespace TokenRouter.ModelMapped

/-- The model names of a request and of its attempt. -/
structure ModelNames where
  originModelName : String
  upstreamModelName : String
  isModelMapped : Bool := false
  /-- the `model` of the request that is sent -/
  requestModel : String
  deriving DecidableEq

/-- `strings.TrimSuffix` -/
def trimSuffix (s ending : String) : String :=
  if hasSuffix s ending then String.ofList (s.toList.take (s.toList.length - ending.toList.length))
  else s

/-- `WithCompactModelSuffix` -/
def withCompactModelSuffix (modelName : String) : String :=
  if hasSuffix modelName compactModelSuffix then modelName else modelName ++ compactModelSuffix

/-- The model that the chain starts from. -/
def mappingModelName (isResponsesCompact : Bool) (originModelName : String) : String :=
  if isResponsesCompact then trimSuffix originModelName compactModelSuffix else originModelName

/-- `SetupContextForSelectedChannel` and `InitChannelMeta`: the upstream model and the model of the
    request are reset to the origin model name. -/
def initChannelMeta (originModelName : String) : ModelNames :=
  { originModelName := originModelName
    upstreamModelName := originModelName
    requestModel := originModelName }

/-- How the loop over the chain is left. -/
inductive LoopEnd where
  /-- the chain is followed up to a model -/
  | followed (currentModel : String) (isModelMapped : Bool)
  /-- the origin model is mapped to itself -/
  | unmapped
  | cycle
  deriving DecidableEq

/-- The loop of `ModelMappedHelper`; `none` is a loop that needs more turns. -/
def followMapping (modelMap : GoMap String) (originModelName : String) :
    Nat → List String → String → Bool → Option LoopEnd
  | 0, _, _, _ => none
  | fuel + 1, visitedModels, currentModel, isModelMapped =>
    match GoMap.get? modelMap currentModel with
    | none => some (.followed currentModel isModelMapped)
    | some mappedModel =>
      if mappedModel = "" then some (.followed currentModel isModelMapped)
      else if mappedModel ∈ visitedModels then
        if mappedModel = currentModel then
          if currentModel = originModelName then some .unmapped
          else some (.followed currentModel true)
        else some .cycle
      else followMapping modelMap originModelName fuel (mappedModel :: visitedModels) mappedModel true

/-- The decoder of a `string`. -/
def decodeString : Json → String × Option JsonError
  | .str s => (s, none)
  | .null => ("", none)
  | _ => ("", some .unmarshalType)

/-- What `ModelMappedHelper` does behind the loop. -/
def finishMapping (isResponsesCompact : Bool) (info : ModelNames) : ModelNames :=
  let info :=
    if isResponsesCompact then
      let finalUpstreamModelName :=
        if info.isModelMapped ∧ info.upstreamModelName ≠ "" then info.upstreamModelName
        else mappingModelName isResponsesCompact info.originModelName
      { info with
        upstreamModelName := finalUpstreamModelName
        originModelName := withCompactModelSuffix finalUpstreamModelName }
    else info
  { info with requestModel := info.upstreamModelName }

/-- The part of `ModelMappedHelper` that reads the mapping; `none` is a loop that does not end. -/
def mapModel (isResponsesCompact : Bool) (modelMap : GoMap String) (info : ModelNames) :
    Option (Except String ModelNames) :=
  let currentModel := mappingModelName isResponsesCompact info.originModelName
  match followMapping modelMap info.originModelName (modelMap.length + 1) [currentModel]
      currentModel info.isModelMapped with
  | none => none
  | some .cycle => some (.error "model_mapping_contains_cycle")
  | some .unmapped => some (.ok { info with isModelMapped := false })
  | some (.followed currentModel isModelMapped) =>
    some (.ok (finishMapping isResponsesCompact
      { info with
        isModelMapped := isModelMapped
        upstreamModelName := if isModelMapped then currentModel else info.upstreamModelName }))

/-- `ModelMappedHelper` -/
def modelMappedHelper (reader : JsonReader) (isResponsesCompact : Bool) (modelMapping : String)
    (info : ModelNames) : Option (Except String ModelNames) :=
  if modelMapping ≠ "" ∧ modelMapping ≠ "\x7b\x7d" then
    match loadFromJsonString reader decodeString modelMapping with
    | (modelMap, none) => mapModel isResponsesCompact modelMap info
    | (_, some _) => some (.error "unmarshal_model_mapping_failed")
  else some (.ok (finishMapping isResponsesCompact info))

/-! ## Attempts -/

/-- What decides on the names of an attempt: the mapping of its channel, and whether `GeminiHelper`
    looks for the price of the model without thinking (`noThinking`), with `HasModelBillingConfig`. -/
structure MappedAttempt where
  modelMapping : String
  noThinking : Bool := false
  hasModelBillingConfig : String → Bool := fun _ => false

/-- What `GeminiHelper` makes of the names. -/
def renameNoThinking (e : MappedAttempt) (info : ModelNames) : ModelNames :=
  let noThinkingModelName := info.originModelName ++ "-nothinking"
  if e.noThinking ∧ containsText info.originModelName "-nothinking" = false ∧
      e.hasModelBillingConfig noThinkingModelName then
    { info with
      originModelName := noThinkingModelName
      upstreamModelName := noThinkingModelName }
  else info

/-- The origin model name after an attempt. -/
def afterAttempt (reader : JsonReader) (isResponsesCompact : Bool) (originModelName : String)
    (e : MappedAttempt) : String :=
  match modelMappedHelper reader isResponsesCompact e.modelMapping
      (initChannelMeta originModelName) with
  | some (.ok info) => (renameNoThinking e info).originModelName
  | _ => originModelName

end TokenRouter.ModelMapped
