import Mathlib.Logic.Function.Basic
import TokenRouter.Common
import TokenRouter.Relay.ClaudeToOpenAI

/-!
# Chat completions from the Responses API (`relay/channel/openai/chat_via_responses.go`,
`service/openaicompat/responses_to_chat.go`)

`responsesResponseToChatCompletionsResponse` turns a whole response into a completion,
`oaiResponsesToChatStreamHandler` a stream of events into chunks. Besides the two: the result
as the model produced it and the events in which it is sent. Every chunk is written; what
cannot be written ends the request and is left out.
-/

namespace TokenRouter.ResponsesRelay

open Dto

/-- The usage of a response, read into the usage of a completion. -/
def usageOf (usage : Usage) (u : ResponsesUsage) : Usage :=
  let usage := if u.inputTokens ≠ 0 then
      { usage with promptTokens := u.inputTokens, inputTokens := u.inputTokens }
    else usage
  let usage := if u.outputTokens ≠ 0 then
      { usage with completionTokens := u.outputTokens, outputTokens := u.outputTokens }
    else usage
  let usage := if u.totalTokens ≠ 0 then { usage with totalTokens := u.totalTokens }
    else { usage with totalTokens := usage.promptTokens + usage.completionTokens }
  match u.inputTokensDetails with
  | some d => { usage with cachedTokens := d.cachedTokens, imageTokens := d.imageTokens
                           audioTokens := d.audioTokens }
  | none => usage

/-! ## The whole response -/

/-- The text of the assistant's messages. -/
def messageText (output : List ResponsesOutput) : String :=
  String.join <| output.flatMap fun out =>
    if out.type = .message ∧ (out.role = "" ∨ out.role = "assistant") then
      out.content.map fun c => if c.type = .outputText then c.text else ""
    else []

/-- The text of all parts of all items. -/
def contentText (output : List ResponsesOutput) : String :=
  String.join <| output.flatMap fun out => out.content.map (·.text)

/-- `ExtractOutputTextFromResponses` -/
def extractOutputTextFromResponses (resp : OpenAIResponsesResponse) : String :=
  if (messageText resp.output).length > 0 then messageText resp.output
  else contentText resp.output

/-- The id by which a call is known: its own, or that of its item. -/
def callIDOf (out : ResponsesOutput) : String :=
  let callId := trimSpace out.callId
  if callId = "" then trimSpace out.id else callId

/-- The tool call of one output item of a whole response. -/
def toolCallOf (out : ResponsesOutput) : Option ToolCallResponse :=
  if out.type ≠ .functionCall then none
  else
    let name := trimSpace out.name
    if name = "" then none
    else some { id := callIDOf out, type := "function"
                function := { name, arguments := out.arguments } }

/-- `ResponsesResponseToChatCompletionsResponse` -/
def responsesResponseToChatCompletionsResponse (resp : OpenAIResponsesResponse) (id : String) :
    OpenAITextResponse :=
  let text := extractOutputTextFromResponses resp
  let usage := (resp.usage.map (usageOf {})).getD {}
  let toolCalls := if text = "" then resp.output.filterMap toolCallOf else []
  let finishReason := if toolCalls.length > 0 then "tool_calls" else "stop"
  let content := if toolCalls.length > 0 then "" else text
  { id, object := "chat.completion", model := resp.model
    choices := [{ index := 0, message := { role := "assistant", content, toolCalls }, finishReason }]
    usage }

/-! ## The stream -/

/-- The variables of `OaiResponsesToChatStreamHandler` and the chunks it has sent. A missing
    key of a map reads as the empty string or `false`; `toolCallIndexByID` lists the ids in the
    order of their indexes. -/
structure ChatStream where
  model : String := ""
  usage : Usage := {}
  outputText : String := ""
  usageText : String := ""
  sentStart : Bool := false
  sentStop : Bool := false
  sawToolCall : Bool := false
  streamErr : Option String := none
  toolCallIndexByID : List String := []
  toolCallNameByID : String → String := fun _ => ""
  toolCallArgsByID : String → String := fun _ => ""
  toolCallNameSent : String → Bool := fun _ => false
  toolCallCanonicalIDByItemID : String → String := fun _ => ""
  hasSentReasoningSummary : Bool := false
  needsReasoningSummarySeparator : Bool := false
  sent : List ChatCompletionsStreamResponse := []

/-- `strings.HasPrefix` -/
def hasPrefix (s p : String) : Bool := p.toList.isPrefixOf s.toList

section Stream

variable (responseId : String)

/-- A chunk with one choice. -/
def chunkOf (model : String) (choice : StreamChoice) : ChatCompletionsStreamResponse :=
  { id := responseId, object := "chat.completion.chunk", model, choices := [choice] }

/-- `sendChatChunk` -/
def ChatStream.sendChatChunk (s : ChatStream) (choice : StreamChoice) : ChatStream :=
  { s with sent := s.sent ++ [chunkOf responseId s.model choice] }

/-- The choice of `GenerateStartEmptyResponse`. -/
def startChoice : StreamChoice := { delta := { role := "assistant", content := some "" } }

/-- `sendStartIfNeeded` -/
def ChatStream.sendStartIfNeeded (s : ChatStream) : ChatStream :=
  if s.sentStart then s else { s.sendChatChunk responseId startChoice with sentStart := true }

/-- `sendReasoningSummaryDelta` -/
def ChatStream.sendReasoningSummaryDelta (s : ChatStream) (delta : String) : ChatStream :=
  if delta = "" then s
  else
    let delta := if s.needsReasoningSummarySeparator then
        if hasPrefix delta "\n\n" then delta
        else if hasPrefix delta "\n" then "\n" ++ delta
        else "\n\n" ++ delta
      else delta
    let s := { s with needsReasoningSummarySeparator := false }
    let s := s.sendStartIfNeeded responseId
    let s := { s with usageText := s.usageText ++ delta }
    { s.sendChatChunk responseId { delta := { reasoningContent := some delta } } with
      hasSentReasoningSummary := true }

/-- `sendToolCallDelta`: text that was already sent is preferred over tool calls. -/
def ChatStream.sendToolCallDelta (s : ChatStream) (callID name argsDelta : String) : ChatStream :=
  if callID = "" then s
  else if s.outputText.length > 0 then s
  else
    let s := s.sendStartIfNeeded responseId
    let ids := if callID ∈ s.toolCallIndexByID then s.toolCallIndexByID
      else s.toolCallIndexByID ++ [callID]
    let names := if name ≠ "" then Function.update s.toolCallNameByID callID name
      else s.toolCallNameByID
    let name := if names callID ≠ "" then names callID else name
    let nameSent := !(name ≠ "" && !s.toolCallNameSent callID)
    let name := if nameSent then "" else name
    let tool : ToolCallResponse :=
      { index := some (ids.idxOf callID), id := callID, type := "function"
        function := { name, arguments := argsDelta } }
    let s := { s with
      toolCallIndexByID := ids
      toolCallNameByID := names
      toolCallNameSent := if nameSent then s.toolCallNameSent
        else Function.update s.toolCallNameSent callID true }
    { s.sendChatChunk responseId { delta := { toolCalls := some [tool] } } with
      sawToolCall := true
      usageText := s.usageText ++ name ++ argsDelta }

/-- `response.output_text.delta` -/
def ChatStream.onOutputTextDelta (s : ChatStream) (delta : String) : ChatStream :=
  let s := s.sendStartIfNeeded responseId
  if delta = "" then s
  else
    { s with outputText := s.outputText ++ delta
             usageText := s.usageText ++ delta }.sendChatChunk responseId
      { delta := { content := some delta } }

/-- `response.output_item.added` and `response.output_item.done` -/
def ChatStream.onOutputItem (s : ChatStream) (item : ResponsesOutput) : ChatStream :=
  if item.type ≠ .functionCall then s
  else
    let itemID := trimSpace item.id
    let callID := callIDOf item
    let s := if itemID ≠ "" ∧ callID ≠ "" then
        { s with toolCallCanonicalIDByItemID :=
            Function.update s.toolCallCanonicalIDByItemID itemID callID }
      else s
    let name := trimSpace item.name
    let s := if name ≠ "" then
        { s with toolCallNameByID := Function.update s.toolCallNameByID callID name }
      else s
    let newArgs := item.arguments
    let prevArgs := s.toolCallArgsByID callID
    let argsDelta := if newArgs = "" then ""
      else if hasPrefix newArgs prevArgs then String.ofList (newArgs.toList.drop prevArgs.length)
      else newArgs
    let s := if newArgs ≠ "" then
        { s with toolCallArgsByID := Function.update s.toolCallArgsByID callID newArgs }
      else s
    s.sendToolCallDelta responseId callID name argsDelta

/-- `response.function_call_arguments.delta` -/
def ChatStream.onArgumentsDelta (s : ChatStream) (itemID delta : String) : ChatStream :=
  let itemID := trimSpace itemID
  let callID := s.toolCallCanonicalIDByItemID itemID
  let callID := if callID = "" then itemID else callID
  if callID = "" then s
  else
    { s with toolCallArgsByID :=
        Function.update s.toolCallArgsByID callID (s.toolCallArgsByID callID ++ delta)
      }.sendToolCallDelta responseId callID "" delta

/-- The reason in the stop chunk. -/
def ChatStream.finishReason (s : ChatStream) : String :=
  if s.sawToolCall ∧ s.outputText.length = 0 then "tool_calls" else "stop"

/-- The stop chunk of `GenerateStopResponse`. -/
def ChatStream.sendStop (s : ChatStream) : ChatStream :=
  if s.sentStop then s
  else { s.sendChatChunk responseId { finishReason := some s.finishReason } with sentStop := true }

/-- `response.completed` -/
def ChatStream.onCompleted (s : ChatStream) (response : Option OpenAIResponsesResponse) :
    ChatStream :=
  let s := match response with
    | some r => { s with
        model := if r.model ≠ "" then r.model else s.model
        usage := (r.usage.map (usageOf s.usage)).getD s.usage }
    | none => s
  (s.sendStartIfNeeded responseId).sendStop responseId

/-- One event of the stream; after an error there are no more. -/
def ChatStream.onEvent (s : ChatStream) (e : ResponsesStreamResponse) : ChatStream :=
  if s.streamErr.isSome then s
  else
    match e.type with
    | .created => match e.response with
      | some r => { s with model := if r.model ≠ "" then r.model else s.model }
      | none => s
    | .reasoningSummaryTextDelta => s.sendReasoningSummaryDelta responseId e.delta
    | .reasoningSummaryTextDone =>
      if s.hasSentReasoningSummary then { s with needsReasoningSummarySeparator := true } else s
    | .outputTextDelta => s.onOutputTextDelta responseId e.delta
    | .outputItemAdded | .outputItemDone => match e.item with
      | some item => s.onOutputItem responseId item
      | none => s
    | .functionCallArgumentsDelta => s.onArgumentsDelta responseId e.itemID e.delta
    | .functionCallArgumentsDone => s
    | .completed => s.onCompleted responseId e.response
    | .error | .failed =>
      let name := if e.type = .error then "response.error" else "response.failed"
      let message := match e.response.bind (·.error) with
        | some err => if err.type ≠ "" then err.message else "responses stream error: " ++ name
        | none => "responses stream error: " ++ name
      { s with streamErr := some message }
    | .other _ => s

/-- The loop over the events. -/
def ChatStream.onEvents (s : ChatStream) (events : List ResponsesStreamResponse) : ChatStream :=
  events.foldl (ChatStream.onEvent responseId) s

/-- The chunks sent for a stream and the usage, or the error that ended it. -/
structure StreamResult where
  sent : List ChatCompletionsStreamResponse
  usage : Except String Usage

/-- `OaiResponsesToChatStreamHandler`; `responseText2Usage` estimates the usage of a text, and
    `includeUsage` is `ShouldIncludeUsage` of a request in the format of OpenAI. -/
def oaiResponsesToChatStreamHandler (upstreamModelName : String)
    (responseText2Usage : String → Usage) (includeUsage : Bool)
    (events : List ResponsesStreamResponse) : StreamResult :=
  let s := ChatStream.onEvents responseId { model := upstreamModelName } events
  match s.streamErr with
  | some err => { sent := s.sent, usage := .error err }
  | none =>
    let usage := if s.usage.totalTokens = 0 then responseText2Usage s.usageText else s.usage
    let s := (s.sendStartIfNeeded responseId).sendStop responseId
    let final : List ChatCompletionsStreamResponse :=
      if includeUsage then [{ id := responseId, object := "chat.completion.chunk", model := s.model
                              usage := some usage }] else []
    { sent := s.sent ++ final, usage := .ok usage }

end Stream

end TokenRouter.ResponsesRelay
