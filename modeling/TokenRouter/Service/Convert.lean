import TokenRouter.Dto

/-!
# Conversions of OpenAI answers (`service/convert.go`)

The usage in Claude's shape, and a completion or a chunk in Gemini's.
-/

namespace TokenRouter.Service

open Dto

/-! ## Usage -/

/-- `NormalizeCacheCreationSplit`: the part of the total that is in neither bucket counts as
    cached for 5 minutes. -/
def normalizeCacheCreationSplit (totalTokens tokens5m tokens1h : Int) : Int × Int :=
  let remainder := max (totalTokens - tokens5m - tokens1h) 0
  (tokens5m + remainder, tokens1h)

/-- `buildClaudeUsageFromOpenAIUsage` -/
def buildClaudeUsageFromOpenAIUsage (oaiUsage : Option Usage) : Option ClaudeUsage :=
  oaiUsage.map fun usage =>
    let split := normalizeCacheCreationSplit usage.cachedCreationTokens
      usage.claudeCacheCreation5mTokens usage.claudeCacheCreation1hTokens
    { inputTokens := usage.promptTokens
      outputTokens := usage.completionTokens
      cacheCreationInputTokens := usage.cachedCreationTokens
      cacheReadInputTokens := usage.cachedTokens
      cacheCreation := if split.1 > 0 ∨ split.2 > 0 then some split else none }

/-! ## Gemini -/

variable {V : Type}

/-- The finish reasons of `ResponseOpenAI2Gemini` and of `StreamResponseOpenAI2Gemini`. -/
def geminiFinishReason (finishReason : String) : String :=
  match finishReason with
  | "stop" => "STOP"
  | "length" => "MAX_TOKENS"
  | "content_filter" => "SAFETY"
  | "tool_calls" => "STOP"
  | _ => "STOP"

/-- `dto.FunctionCall` for a tool call; arguments that are no object are wrapped in one. -/
def geminiFunctionCall (json : JsonCodec V) (function : FunctionResponse) : FunctionCall V :=
  let args :=
    if function.arguments ≠ "" then
      match json.unmarshalMap function.arguments with
      | some args => args
      | none => json.mapOf "arguments" (json.string function.arguments)
    else json.emptyObject
  { functionName := function.name, arguments := args }

/-- The parts of a message or of a delta: the tool calls, if there is a list of them, in the
    place of the text. -/
def geminiParts (json : JsonCodec V) (toolCalls : Option (List ToolCallResponse))
    (textContent : String) : List (GeminiPart V) :=
  match toolCalls with
  | some calls => calls.map fun call =>
    { functionCall := some (geminiFunctionCall json call.function) }
  | none => if textContent ≠ "" then [{ text := textContent }] else []

/-- `ResponseOpenAI2Gemini` -/
def responseOpenAI2Gemini (json : JsonCodec V) (openAIResponse : OpenAITextResponse) :
    GeminiChatResponse V :=
  { candidates := openAIResponse.choices.map fun choice =>
      { index := choice.index
        finishReason := some (geminiFinishReason choice.finishReason)
        role := "model"
        parts := geminiParts json
          (if choice.message.toolCalls.length > 0 then some choice.message.toolCalls else none)
          choice.message.content }
    promptTokenCount := openAIResponse.usage.promptTokens
    candidatesTokenCount := openAIResponse.usage.completionTokens
    totalTokenCount := openAIResponse.usage.promptTokens + openAIResponse.usage.completionTokens }

/-- `hasContent` of one choice of a chunk. -/
def hasContent (choice : StreamChoice) : Bool :=
  0 < choice.delta.getContentString.length || 0 < (choice.delta.toolCalls.getD []).length

/-- `StreamResponseOpenAI2Gemini`: a chunk without content and finish reason has no answer. -/
def streamResponseOpenAI2Gemini (json : JsonCodec V) (estimatePromptTokens : Int)
    (openAIResponse : ChatCompletionsStreamResponse) : Option (GeminiChatResponse V) :=
  if openAIResponse.choices.any hasContent ||
      openAIResponse.choices.any (·.finishReason.isSome) then
    let usage : Usage := openAIResponse.usage.getD
      { promptTokens := estimatePromptTokens, totalTokens := estimatePromptTokens }
    some
      { candidates := openAIResponse.choices.map fun choice =>
          { index := choice.index
            finishReason := choice.finishReason.map geminiFinishReason
            role := "model"
            parts := geminiParts json choice.delta.toolCalls choice.delta.getContentString }
        promptTokenCount := usage.promptTokens
        candidatesTokenCount := usage.completionTokens
        totalTokenCount := usage.totalTokens }
  else none

end TokenRouter.Service
