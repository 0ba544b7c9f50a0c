import TokenRouter.Dto
import TokenRouter.ForStd.Run

/-!
# Streams of OpenAI channels (`relay/channel/openai/relay-openai.go`, `helper.go`)

`OaiStreamHandler` for a client of the OpenAI format. A chunk is forwarded when the next one comes;
the last one is looked at first. Decoding, token counts and the post-processing of the usage are
parameters.
-/

namespace TokenRouter.OaiStream

open Dto

/-! ## Chunks -/

/-- `dto.ChatCompletionsStreamResponse` with its header. -/
structure StreamChunk extends ChatCompletionsStreamResponse where
  created : Int := 0
  systemFingerprint : Option String := none
deriving DecidableEq

/-- `GetSystemFingerprint` -/
def StreamChunk.getSystemFingerprint (r : StreamChunk) : String := r.systemFingerprint.getD ""

/-- A choice of `dto.CompletionsStreamResponse`. -/
structure CompletionsChoice where
  text : String := ""
  finishReason : String := ""
deriving DecidableEq

/-- What the scanner of the stream passes on: a `data` text that is not empty. -/
structure StreamData where
  text : String
  nonempty : text ≠ ""

/-- `RelayMode`, as far as the handler tells modes apart. -/
inductive RelayMode where
  | chatCompletions | completions | other
deriving DecidableEq

/-- What the handler reads of `RelayInfo`. -/
structure StreamInfo where
  relayMode : RelayMode
  upstreamModelName : String
  shouldIncludeUsage : Bool
  /-- `ChannelSetting.ForceFormat` -/
  forceFormat : Bool
  /-- `ChannelSetting.ThinkingToContent` -/
  thinkingToContent : Bool
  estimatePromptTokens : Int

/-- Decoding of chunks and what is computed of usage elsewhere. -/
structure StreamLib where
  /-- `common.Unmarshal` into a `ChatCompletionsStreamResponse` -/
  unmarshalChat : String → Option StreamChunk
  /-- `common.Unmarshal` into a `CompletionsStreamResponse` -/
  unmarshalCompletions : String → Option (List CompletionsChoice)
  /-- `common.Unmarshal` into a struct of the usage alone -/
  unmarshalUsage : String → Option (Option Usage)
  /-- The usage of a chunk is decoded alike in both. -/
  unmarshalUsage_of_chat : ∀ data r, unmarshalChat data = some r →
    unmarshalUsage data = some r.usage
  unmarshalChat_empty : unmarshalChat "" = none
  /-- `EstimateTokenByModel` -/
  estimateTokenByModel : String → String → Int
  /-- `applyUsagePostProcessing`, which fills in counts of cached tokens -/
  applyUsagePostProcessing : Usage → String → Usage

/-! ## State -/

/-- What is written to the client. -/
inductive Sent where
  /-- `helper.StringData` of an upstream text -/
  | data (text : String)
  /-- `helper.ObjectData` -/
  | object (r : StreamChunk)
  /-- `helper.Done` -/
  | done
deriving DecidableEq

/-- `ThinkingContentInfo` -/
structure ThinkingContentInfo where
  isFirstThinkingContent : Bool := true
  sendLastThinkingContent : Bool := false
  hasSentThinkingContent : Bool := false

structure StreamState where
  sent : List Sent := []
  thinking : ThinkingContentInfo := {}
  lastStreamData : String := ""
  secondLastStreamData : String := ""
  responseText : String := ""
  toolCount : Nat := 0

namespace StreamState

def send (st : StreamState) (item : Sent) : StreamState := { st with sent := st.sent ++ [item] }

end StreamState

/-! ## Sending a chunk -/

/-- `SetContentString` with the reasoning removed. -/
def setContent (s : String) (choice : StreamChoice) : StreamChoice :=
  { choice with
    delta := { choice.delta with content := some s, reasoningContent := none, reasoning := none } }

/-- A copy of a chunk all of whose choices say `s`. -/
def withContent (s : String) (r : StreamChunk) : StreamChunk :=
  { r with choices := r.choices.map (setContent s) }

/-- The body of the last loop of `sendStreamData`, for one choice. -/
def convertThinking (hasThinkingContent hasContent : Bool) (choice : StreamChoice) : StreamChoice :=
  if choice.delta.getReasoningContent ≠ "" then
    setContent choice.delta.getReasoningContent choice
  else if hasThinkingContent = false ∧ hasContent = false then
    { choice with delta := { choice.delta with reasoningContent := none, reasoning := none } }
  else choice

/-- The last loop of `sendStreamData`; `before` are the choices it has converted. -/
def convertChoices (hasThinkingContent hasContent : Bool) (r : StreamChunk) (st : StreamState) :
    List StreamChoice → List StreamChoice → StreamState
  | before, [] => st.send (.object { r with choices := before })
  | before, choice :: rest =>
    let st :=
      if hasContent ∧ st.thinking.sendLastThinkingContent = false ∧
          st.thinking.hasSentThinkingContent then
        { st.send (.object (withContent "\n</think>\n" { r with choices := before ++ choice :: rest }))
          with thinking := { st.thinking with sendLastThinkingContent := true } }
      else st
    convertChoices hasThinkingContent hasContent r st
      (before ++ [convertThinking hasThinkingContent hasContent choice]) rest

/-- `sendStreamData`; an error is only logged. -/
def sendStreamData (lib : StreamLib) (info : StreamInfo) (st : StreamState) (data : String) :
    StreamState :=
  if data = "" then st
  else if info.forceFormat = false ∧ info.thinkingToContent = false then st.send (.data data)
  else
    match lib.unmarshalChat data with
    | none => st
    | some r =>
      if info.thinkingToContent = false then st.send (.object r)
      else
        let thinkingContent := String.join (r.choices.map (·.delta.getReasoningContent))
        let hasThinkingContent := r.choices.any (·.delta.getReasoningContent ≠ "")
        let hasContent := r.choices.any (·.delta.getContentString ≠ "")
        if st.thinking.isFirstThinkingContent ∧ hasThinkingContent then
          { st.send (.object (withContent ("<think>\n" ++ thinkingContent) r)) with
            thinking := { st.thinking with
              isFirstThinkingContent := false
              hasSentThinkingContent := true } }
        else if r.choices = [] then st.send (.object r)
        else convertChoices hasThinkingContent hasContent r st [] r.choices

/-! ## Counting tokens -/

/-- One choice of `ProcessStreamResponse`. -/
def processChoice (st : StreamState) (choice : StreamChoice) : StreamState :=
  let text := st.responseText ++ choice.delta.getContentString ++ choice.delta.getReasoningContent
  match choice.delta.toolCalls with
  | none => { st with responseText := text }
  | some toolCalls =>
    { st with
      responseText := text ++
        String.join (toolCalls.map fun tool => tool.function.name ++ tool.function.arguments)
      toolCount := max st.toolCount toolCalls.length }

/-- `processTokenData`; an error is only logged. -/
def processTokenData (lib : StreamLib) (info : StreamInfo) (st : StreamState) (data : String) :
    StreamState :=
  match info.relayMode with
  | .chatCompletions =>
    match lib.unmarshalChat data with
    | none => st
    | some r => r.choices.foldl processChoice st
  | .completions =>
    match lib.unmarshalCompletions data with
    | none => st
    | some choices =>
      { st with responseText := st.responseText ++ String.join (choices.map (·.text)) }
  | .other => st

/-! ## The handler -/

/-- `strings.Contains(strings.ToLower(model), "audio")` -/
def isAudioModel (info : StreamInfo) : Bool :=
  decide ("audio".toList <:+: (toLower info.upstreamModelName).toList)

/-- The function given to `StreamScannerHandler`. -/
def dataHandler (lib : StreamLib) (info : StreamInfo) (st : StreamState) (data : StreamData) :
    StreamState :=
  let st := if st.lastStreamData ≠ "" then sendStreamData lib info st st.lastStreamData else st
  let st :=
    if isAudioModel info ∧ st.lastStreamData ≠ "" then
      { st with secondLastStreamData := st.lastStreamData }
    else st
  processTokenData lib info { st with lastStreamData := data.text } data.text

/-- `ValidUsage` -/
def validUsage : Option Usage → Bool
  | none => false
  | some usage => usage.promptTokens ≠ 0 || usage.completionTokens ≠ 0

/-- What the handler has found out about the response. -/
structure ResponseInfo where
  responseId : String := ""
  createAt : Int := 0
  systemFingerprint : String := ""
  model : String
  usage : Usage := {}
  containStreamUsage : Bool := false
  shouldSendLastResp : Bool := true

/-- The usage of an audio model, in the last chunk but one. -/
def audioUsage (lib : StreamLib) (info : StreamInfo) (st : StreamState) (r : ResponseInfo) :
    ResponseInfo :=
  if isAudioModel info ∧ st.secondLastStreamData ≠ "" then
    match lib.unmarshalUsage st.secondLastStreamData with
    | some (some usage) =>
      if validUsage (some usage) then { r with usage := usage, containStreamUsage := true } else r
    | _ => r
  else r

/-- `handleLastResponse` -/
def handleLastResponse (lib : StreamLib) (info : StreamInfo) (lastStreamData : String)
    (r : ResponseInfo) : ResponseInfo :=
  match lib.unmarshalChat lastStreamData with
  | none => r
  | some lastStreamResponse =>
    let r :=
      { r with
        responseId := lastStreamResponse.id
        createAt := lastStreamResponse.created
        systemFingerprint := lastStreamResponse.getSystemFingerprint
        model := lastStreamResponse.model }
    if validUsage lastStreamResponse.usage then
      { r with
        containStreamUsage := true
        usage := lastStreamResponse.usage.getD {}
        shouldSendLastResp :=
          if info.shouldIncludeUsage then r.shouldSendLastResp
          else lastStreamResponse.choices.any fun choice =>
            choice.delta.getContentString ≠ "" || choice.delta.getReasoningContent ≠ "" }
    else r

/-- `GenerateFinalUsageResponse` with the system fingerprint set. -/
def generateFinalUsageResponse (r : ResponseInfo) (usage : Usage) : StreamChunk where
  id := r.responseId
  object := "chat.completion.chunk"
  created := r.createAt
  model := r.model
  systemFingerprint := some r.systemFingerprint
  choices := []
  usage := some usage

/-- `OaiStreamHandler`: what the client receives, and the usage that is billed. -/
def oaiStreamHandler (lib : StreamLib) (info : StreamInfo) (chunks : List StreamData) :
    List Sent × Usage :=
  let st := Run.run (dataHandler lib info) {} chunks
  let r := audioUsage lib info st { model := info.upstreamModelName }
  let r := handleLastResponse lib info st.lastStreamData r
  let st := if r.shouldSendLastResp then sendStreamData lib info st st.lastStreamData else st
  let usage :=
    if r.containStreamUsage then r.usage
    else
      let completionTokens :=
        lib.estimateTokenByModel info.upstreamModelName st.responseText
      { promptTokens := info.estimatePromptTokens
        completionTokens := completionTokens + st.toolCount * 7
        totalTokens := info.estimatePromptTokens + completionTokens : Usage }
  let usage := lib.applyUsagePostProcessing usage st.lastStreamData
  let st :=
    if info.shouldIncludeUsage ∧ r.containStreamUsage = false then
      st.send (.object (generateFinalUsageResponse r usage))
    else st
  ((st.send .done).sent, usage)

end TokenRouter.OaiStream
