import Mathlib.Data.List.Basic
import Mathlib.Data.Rat.Defs

/-!
# Response bodies (`dto/openai_response.go`, `dto/claude.go`, `dto/gemini.go`,
`dto/realtime.go`, `relay/reasonmap/reasonmap.go`)

The chunks and the completion of the OpenAI protocol, the events and the response of its
Responses API, the events and the message of the Claude protocol, the answers of the Gemini
protocol, with the fields the conversions between them read and write, and the usage of each. `V` is the type of a JSON value held as `any`.
-/

namespace TokenRouter

/-! ## Usage -/

/-- The dynamic value of `Usage.Cost`. -/
inductive CostValue where
  | nil
  | int (value : Int)
  | float64 (value : ℚ)
  | other (text : String)
deriving DecidableEq

/-- `dto.Usage`, with the counters of `PromptTokensDetails`. -/
structure Usage where
  promptTokens : Int := 0
  completionTokens : Int := 0
  totalTokens : Int := 0
  inputTokens : Int := 0
  outputTokens : Int := 0
  cachedTokens : Int := 0
  cachedCreationTokens : Int := 0
  claudeCacheCreation5mTokens : Int := 0
  claudeCacheCreation1hTokens : Int := 0
  imageTokens : Int := 0
  audioTokens : Int := 0
  usageSemantic : String := ""
  usageSource : String := ""
  cost : CostValue := .nil
deriving DecidableEq

namespace Dto

/-- What the conversions use of `encoding/json`: decoding a text into `any` and into
    `map[string]any`, and the text of a decoded value. -/
structure JsonCodec (V : Type) where
  emptyObject : V
  string : String → V
  /-- A map with one entry. -/
  mapOf : String → V → V
  marshal : V → String
  unmarshal : String → Option V
  unmarshalMap : String → Option V
  /-- A decoded value is read back from its own text. -/
  unmarshal_marshal : ∀ v, unmarshal (marshal v) = some v
  /-- `unexpected end of JSON input` -/
  unmarshal_empty : unmarshal "" = none
  unmarshalMap_empty : unmarshalMap "" = none
  string_ne_emptyObject : ∀ s, string s ≠ emptyObject

/-! ## Finish reasons -/

/-- One rune of `strings.ToLower`, as far as a comparison with an ASCII text can tell: of the
    other runes only the Kelvin sign and the dotted capital I become ASCII letters. -/
def lowerRune (c : Char) : Char :=
  if c = '\u212a' then 'k' else if c = '\u0130' then 'i' else c.toLower

/-- `strings.ToLower` -/
def toLower (s : String) : String := String.ofList (s.toList.map lowerRune)

/-- `ClaudeStopReasonToOpenAIFinishReason` -/
def claudeStopReasonToOpenAIFinishReason (stopReason : String) : String :=
  match toLower stopReason with
  | "stop_sequence" => "stop"
  | "end_turn" => "stop"
  | "max_tokens" => "length"
  | "tool_use" => "tool_calls"
  | "refusal" => "content_filter"
  | _ => stopReason

/-- `OpenAIFinishReasonToClaudeStopReason` -/
def openAIFinishReasonToClaudeStopReason (finishReason : String) : String :=
  match toLower finishReason with
  | "stop" => "end_turn"
  | "stop_sequence" => "stop_sequence"
  | "length" => "max_tokens"
  | "max_tokens" => "max_tokens"
  | "content_filter" => "refusal"
  | "tool_calls" => "tool_use"
  | _ => finishReason

/-- Only the text `null` itself is turned into `null`. -/
theorem claudeStopReasonToOpenAIFinishReason_eq_null_iff (stopReason : String) :
    claudeStopReasonToOpenAIFinishReason stopReason = "null" ↔ stopReason = "null" := by
  constructor
  · intro h
    unfold claudeStopReasonToOpenAIFinishReason at h
    split at h <;> simp_all
  · rintro rfl
    decide

/-! ## OpenAI -/

/-- `dto.FunctionResponse` -/
structure FunctionResponse where
  name : String := ""
  arguments : String := ""
deriving DecidableEq

/-- `dto.ToolCallResponse` -/
structure ToolCallResponse where
  index : Option Nat := none
  id : String := ""
  type : String := ""
  function : FunctionResponse := {}
deriving DecidableEq

/-- `dto.ChatCompletionsStreamResponseChoiceDelta` -/
structure ChoiceDelta where
  content : Option String := none
  reasoningContent : Option String := none
  reasoning : Option String := none
  role : String := ""
  toolCalls : Option (List ToolCallResponse) := none
deriving DecidableEq

/-- `GetContentString` -/
def ChoiceDelta.getContentString (d : ChoiceDelta) : String := d.content.getD ""

/-- `GetReasoningContent` -/
def ChoiceDelta.getReasoningContent (d : ChoiceDelta) : String :=
  match d.reasoningContent with
  | some r => r
  | none => d.reasoning.getD ""

/-- `dto.ChatCompletionsStreamResponseChoice` -/
structure StreamChoice where
  index : Nat := 0
  delta : ChoiceDelta := {}
  finishReason : Option String := none
deriving DecidableEq

/-- `dto.ChatCompletionsStreamResponse` -/
structure ChatCompletionsStreamResponse where
  id : String := ""
  object : String := ""
  model : String := ""
  choices : List StreamChoice := []
  usage : Option Usage := none
deriving DecidableEq

/-- `dto.Message` of a completion, with its string content. -/
structure Message where
  role : String := ""
  content : String := ""
  reasoningContent : Option String := none
  toolCalls : List ToolCallResponse := []
deriving DecidableEq

/-- `dto.OpenAITextResponseChoice` -/
structure OpenAITextResponseChoice where
  index : Nat := 0
  message : Message := {}
  finishReason : String := ""
deriving DecidableEq

/-- `dto.OpenAITextResponse` -/
structure OpenAITextResponse where
  id : String := ""
  model : String := ""
  object : String := ""
  choices : List OpenAITextResponseChoice := []
  usage : Usage := {}
deriving DecidableEq

/-! ## Responses -/

/-- The `type` of an output item. -/
inductive ResponsesOutputType where
  | message | functionCall | reasoning
  | other (name : String)
deriving DecidableEq

/-- The `type` of a part of an output item. -/
inductive ResponsesContentType where
  | outputText | refusal | reasoningText
  | other (name : String)
deriving DecidableEq

/-- `dto.ResponsesOutputContent`; a part without the key `text` has an empty one. -/
structure ResponsesOutputContent where
  type : ResponsesContentType
  text : String := ""
deriving DecidableEq

/-- `dto.ResponsesOutput`; `arguments` is what `ArgumentsString` reads. -/
structure ResponsesOutput where
  type : ResponsesOutputType
  id : String := ""
  role : String := ""
  content : List ResponsesOutputContent := []
  callId : String := ""
  name : String := ""
  arguments : String := ""
deriving DecidableEq

/-- `dto.InputTokenDetails` -/
structure InputTokenDetails where
  cachedTokens : Int := 0
  imageTokens : Int := 0
  audioTokens : Int := 0
deriving DecidableEq

/-- The usage of a response. -/
structure ResponsesUsage where
  inputTokens : Int := 0
  outputTokens : Int := 0
  totalTokens : Int := 0
  inputTokensDetails : Option InputTokenDetails := none
deriving DecidableEq

/-- `types.OpenAIError` -/
structure OpenAIError where
  message : String := ""
  type : String := ""
deriving DecidableEq

/-- `dto.OpenAIResponsesResponse` -/
structure OpenAIResponsesResponse where
  model : String := ""
  output : List ResponsesOutput := []
  usage : Option ResponsesUsage := none
  error : Option OpenAIError := none
deriving DecidableEq

/-- The `type` of an event of a Responses stream. -/
inductive ResponsesEventType where
  | created | completed | error | failed
  | reasoningSummaryTextDelta | reasoningSummaryTextDone
  | outputTextDelta
  | outputItemAdded | outputItemDone
  | functionCallArgumentsDelta | functionCallArgumentsDone
  | other (name : String)
deriving DecidableEq

/-- `dto.ResponsesStreamResponse` -/
structure ResponsesStreamResponse where
  type : ResponsesEventType
  response : Option OpenAIResponsesResponse := none
  delta : String := ""
  item : Option ResponsesOutput := none
  itemID : String := ""
deriving DecidableEq

/-! ## Claude -/

/-- `dto.ClaudeUsage`; `cacheCreation` holds the tokens cached for 5 minutes and for 1 hour. -/
structure ClaudeUsage where
  inputTokens : Int := 0
  outputTokens : Int := 0
  cacheCreationInputTokens : Int := 0
  cacheReadInputTokens : Int := 0
  cacheCreation : Option (Int × Int) := none
deriving DecidableEq

/-- The `type` of a block, of a delta and of a message. -/
inductive MediaType where
  | none | message | text | thinking | toolUse
  | textDelta | thinkingDelta | inputJsonDelta | signatureDelta
  | other (name : String)
deriving DecidableEq

/-- `dto.ClaudeMediaMessage` -/
structure ClaudeMediaMessage (V : Type) where
  type : MediaType := .none
  text : Option String := none
  thinking : Option String := none
  partialJson : Option String := none
  stopReason : Option String := none
  id : String := ""
  name : String := ""
  input : Option V := none
  model : String := ""
  role : String := ""
  usage : Option ClaudeUsage := none
deriving DecidableEq

/-- `GetText` -/
def ClaudeMediaMessage.getText {V : Type} (c : ClaudeMediaMessage V) : String := c.text.getD ""

/-- The `type` of a Claude response: an event of a stream, or `message`. -/
inductive ResponseType where
  | message | messageStart | contentBlockStart | contentBlockDelta | contentBlockStop
  | messageDelta | messageStop
  | other (name : String)
deriving DecidableEq

/-- `dto.ClaudeResponse` -/
structure ClaudeResponse (V : Type) where
  type : ResponseType
  id : String := ""
  role : String := ""
  content : List (ClaudeMediaMessage V) := []
  stopReason : String := ""
  model : String := ""
  usage : Option ClaudeUsage := none
  index : Option Nat := none
  contentBlock : Option (ClaudeMediaMessage V) := none
  delta : Option (ClaudeMediaMessage V) := none
  message : Option (ClaudeMediaMessage V) := none
deriving DecidableEq

/-! ## Gemini -/

/-- `dto.FunctionCall` -/
structure FunctionCall (V : Type) where
  functionName : String := ""
  arguments : V
deriving DecidableEq

/-- `dto.GeminiPart` of an answer. -/
structure GeminiPart (V : Type) where
  text : String := ""
  functionCall : Option (FunctionCall V) := none
deriving DecidableEq

/-- `dto.GeminiChatCandidate` with its `Content`. -/
structure GeminiChatCandidate (V : Type) where
  index : Nat := 0
  finishReason : Option String := none
  role : String := ""
  parts : List (GeminiPart V) := []
deriving DecidableEq

/-- `dto.GeminiChatResponse` with the counts of its `UsageMetadata`. -/
structure GeminiChatResponse (V : Type) where
  candidates : List (GeminiChatCandidate V) := []
  promptTokenCount : Int := 0
  candidatesTokenCount : Int := 0
  totalTokenCount : Int := 0
deriving DecidableEq

end Dto

/-! ## Realtime -/

/-- The input tokens of a realtime usage by kind. -/
structure RealtimeInputDetails where
  cachedTokens : Int := 0
  textTokens : Int := 0
  audioTokens : Int := 0
deriving DecidableEq

/-- The output tokens of a realtime usage by kind. -/
structure RealtimeOutputDetails where
  textTokens : Int := 0
  audioTokens : Int := 0
deriving DecidableEq

/-- `dto.RealtimeUsage` -/
structure RealtimeUsage where
  totalTokens : Int := 0
  inputTokens : Int := 0
  outputTokens : Int := 0
  inputTokenDetails : RealtimeInputDetails := {}
  outputTokenDetails : RealtimeOutputDetails := {}
deriving DecidableEq

/-- The sum that the realtime handler adds up field by field. -/
def RealtimeUsage.add (u v : RealtimeUsage) : RealtimeUsage :=
  { totalTokens := u.totalTokens + v.totalTokens
    inputTokens := u.inputTokens + v.inputTokens
    outputTokens := u.outputTokens + v.outputTokens
    inputTokenDetails := {
      cachedTokens := u.inputTokenDetails.cachedTokens + v.inputTokenDetails.cachedTokens
      textTokens := u.inputTokenDetails.textTokens + v.inputTokenDetails.textTokens
      audioTokens := u.inputTokenDetails.audioTokens + v.inputTokenDetails.audioTokens }
    outputTokenDetails := {
      textTokens := u.outputTokenDetails.textTokens + v.outputTokenDetails.textTokens
      audioTokens := u.outputTokenDetails.audioTokens + v.outputTokenDetails.audioTokens } }

end TokenRouter

/-! ## Messages of an OpenAI request (`dto/openai_request.go`)

The messages that the conversions of Claude and Gemini requests write, and what is read of them.
-/

namespace TokenRouter.Dto

/-- `dto.MessageImageUrl` -/
structure MessageImageUrl where
  url : String
  detail : String := ""
  mimeType : String := ""
deriving DecidableEq

/-- `dto.MediaContent` -/
structure MediaContent where
  type : String
  text : String := ""
  imageUrl : Option MessageImageUrl := none
deriving DecidableEq

/-- `dto.ToolCallRequest` with its function. -/
structure ToolCallRequest where
  id : String := ""
  type : String := "function"
  name : String := ""
  arguments : String := ""
deriving DecidableEq

/-- `Message.Content`: `SetStringContent`, `SetMediaContent` or neither. -/
inductive MessageContent where
  | null
  | string (content : String)
  | media (content : List MediaContent)
deriving DecidableEq

/-- `ParseContent` -/
def MessageContent.parse : MessageContent → List MediaContent
  | .null => []
  | .string content => [{ type := "text", text := content }]
  | .media content => content

/-- `dto.Message` of a request; `toolCalls` is what `ParseToolCalls` reads back. -/
structure RequestMessage where
  role : String
  content : MessageContent := .null
  name : Option String := none
  toolCalls : List ToolCallRequest := []
  toolCallId : String := ""
deriving DecidableEq

end TokenRouter.Dto
