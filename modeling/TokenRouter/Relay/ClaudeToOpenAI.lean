import TokenRouter.ForStd.Keyed
import TokenRouter.Service.Convert

/-!
# From Claude to OpenAI (`relay/channel/claude/relay-claude.go`)

`streamResponseClaude2OpenAI` turns one event of a Claude stream into a chunk,
`responseClaude2OpenAI` a whole Claude message into a completion. Besides the two: the events
in which Anthropic sends a message, and what an OpenAI client puts together from chunks.
-/

namespace TokenRouter.ClaudeRelay

open Dto

variable {V : Type}

/-- What a call returns: a chunk, `nil`, or nothing because a nil pointer was followed. -/
inductive Converted where
  | chunk (response : ChatCompletionsStreamResponse)
  | skipped
  | panicked
deriving DecidableEq

/-- The end of `StreamResponseClaude2OpenAI`: tool calls take the place of the content. -/
def chunkOf (response : ChatCompletionsStreamResponse) (choice : StreamChoice)
    (tools : List ToolCallResponse) : Converted :=
  if tools.length > 0 then
    .chunk { response with choices := [{ choice with
      delta := { choice.delta with content := none, toolCalls := some tools } }] }
  else .chunk { response with choices := [choice] }

/-- `StreamResponseClaude2OpenAI` -/
def streamResponseClaude2OpenAI (claudeResponse : ClaudeResponse V) : Converted :=
  let response : ChatCompletionsStreamResponse :=
    { object := "chat.completion.chunk", model := claudeResponse.model }
  let fcIdx := claudeResponse.index.getD 0
  match claudeResponse.type with
  | .messageStart =>
    let response := match claudeResponse.message with
      | some message => { response with id := message.id, model := message.model }
      | none => response
    chunkOf response { delta := { content := some "", role := "assistant" } } []
  | .contentBlockStart =>
    match claudeResponse.contentBlock with
    | some block =>
      let content := if block.type = .text then block.text else none
      let tools := if block.type = .toolUse then
          [{ index := some fcIdx, id := block.id, type := "function"
             function := { name := block.name, arguments := "" } }]
        else []
      chunkOf response { delta := { content } } tools
    | none => .skipped
  | .contentBlockDelta =>
    match claudeResponse.delta with
    | some delta =>
      match delta.type with
      | .inputJsonDelta =>
        match delta.partialJson with
        | some partialJson =>
          chunkOf response { delta := { content := delta.text } }
            [{ index := some fcIdx, type := "function", function := { arguments := partialJson } }]
        | none => .panicked
      | .signatureDelta =>
        chunkOf response { delta := { content := delta.text, reasoningContent := some "\n" } } []
      | .thinkingDelta =>
        chunkOf response
          { delta := { content := delta.text, reasoningContent := delta.thinking } } []
      | _ => chunkOf response { delta := { content := delta.text } } []
    | none => chunkOf response {} []
  | .messageDelta =>
    match claudeResponse.delta.bind (·.stopReason) with
    | some stopReason =>
      let finishReason := claudeStopReasonToOpenAIFinishReason stopReason
      chunkOf response
        { finishReason := if finishReason ≠ "null" then some finishReason else none } []
    | none => chunkOf response {} []
  | _ => .skipped

/-! ## The whole message -/

/-- What the loop over the blocks of a message collects. -/
structure Collected where
  tools : List ToolCallResponse := []
  thinkingContent : String := ""
  responseText : String := ""
deriving DecidableEq

/-- One block in the loop of `ResponseClaude2OpenAI`. -/
def collect (json : JsonCodec V) (c : Collected) (message : ClaudeMediaMessage V) : Collected :=
  match message.type with
  | .toolUse =>
    let args := match message.input with
      | some input => json.marshal input
      | none => "null"
    { c with tools := c.tools ++
      [{ id := message.id, type := "function"
         function := { name := message.name, arguments := args } }] }
  | .thinking => match message.thinking with
    | some thinking => { c with thinkingContent := thinking }
    | none => c
  | .text => { c with responseText := message.getText }
  | _ => c

/-- `ResponseClaude2OpenAI` -/
def responseClaude2OpenAI (json : JsonCodec V) (claudeResponse : ClaudeResponse V) :
    OpenAITextResponse :=
  let responseText := match claudeResponse.content with
    | first :: _ => first.getText
    | [] => ""
  let responseThinking := match claudeResponse.content with
    | first :: _ => first.thinking.getD ""
    | [] => ""
  let c := claudeResponse.content.foldl (collect json) { responseText }
  let reasoningContent :=
    if c.thinkingContent ≠ "" then some c.thinkingContent
    else if responseThinking.length > 0 then some responseThinking else none
  { id := claudeResponse.id, object := "chat.completion", model := claudeResponse.model
    choices := [{
      index := 0
      message := { role := "assistant", content := c.responseText, reasoningContent
                   toolCalls := c.tools }
      finishReason := claudeStopReasonToOpenAIFinishReason claudeResponse.stopReason }] }

/-! ## Usage -/

/-- `cacheCreationTokensForOpenAIUsage` -/
def cacheCreationTokensForOpenAIUsage (usage : Usage) : Int :=
  let splitCacheCreationTokens :=
    usage.claudeCacheCreation5mTokens + usage.claudeCacheCreation1hTokens
  if splitCacheCreationTokens = 0 then usage.cachedCreationTokens
  else if usage.cachedCreationTokens > splitCacheCreationTokens then usage.cachedCreationTokens
  else splitCacheCreationTokens

/-- `buildOpenAIStyleUsageFromClaudeUsage` -/
def buildOpenAIStyleUsageFromClaudeUsage (usage : Usage) : Usage :=
  let split := Service.normalizeCacheCreationSplit usage.cachedCreationTokens
    usage.claudeCacheCreation5mTokens usage.claudeCacheCreation1hTokens
  let totalInputTokens :=
    usage.promptTokens + usage.cachedTokens + cacheCreationTokensForOpenAIUsage usage
  { usage with
    claudeCacheCreation5mTokens := split.1
    claudeCacheCreation1hTokens := split.2
    promptTokens := totalInputTokens
    inputTokens := totalInputTokens
    totalTokens := totalInputTokens + usage.completionTokens
    usageSemantic := "openai"
    usageSource := "anthropic" }

/-! ## The message on the wire -/

/-- A content block of a Claude message. -/
inductive Block (V : Type) where
  | text (text : String)
  | thinking (thinking : String)
  | toolUse (id name : String) (input : V)
deriving DecidableEq

namespace Block

/-- The block in the body of a message. -/
def body : Block V → ClaudeMediaMessage V
  | text s => { type := .text, text := some s }
  | thinking s => { type := .thinking, thinking := some s }
  | toolUse id name input => { type := .toolUse, id, name, input := some input }

/-- The block in `content_block_start`, without its contents. -/
def opening (json : JsonCodec V) : Block V → ClaudeMediaMessage V
  | text _ => { type := .text, text := some "" }
  | thinking _ => { type := .thinking, thinking := some "" }
  | toolUse id name _ => { type := .toolUse, id, name, input := some json.emptyObject }

/-- One piece of its contents in `content_block_delta`. -/
def piece : Block V → String → ClaudeMediaMessage V
  | text _, p => { type := .textDelta, text := some p }
  | thinking _, p => { type := .thinkingDelta, thinking := some p }
  | toolUse .., p => { type := .inputJsonDelta, partialJson := some p }

/-- The pieces make up the contents. The input of a tool comes as the text of a JSON value;
    for an empty object there need not be any text. -/
def SentAs (json : JsonCodec V) : Block V → List String → Prop
  | text s, pieces => String.join pieces = s
  | thinking s, pieces => String.join pieces = s
  | toolUse _ _ input, pieces =>
    json.unmarshal (String.join pieces) = some input ∨
      String.join pieces = "" ∧ input = json.emptyObject

def isToolUse : Block V → Bool
  | toolUse .. => true
  | _ => false

def text? : Block V → Option String
  | text s => some s
  | _ => none

def thinking? : Block V → Option String
  | thinking s => some s
  | _ => none

@[simp] theorem text?_text (s : String) : (text s : Block V).text? = some s := rfl
@[simp] theorem text?_thinking (s : String) : (thinking s : Block V).text? = none := rfl
@[simp] theorem text?_toolUse (id name : String) (v : V) : (toolUse id name v).text? = none := rfl
@[simp] theorem thinking?_text (s : String) : (text s : Block V).thinking? = none := rfl
@[simp] theorem thinking?_thinking (s : String) : (thinking s : Block V).thinking? = some s := rfl
@[simp] theorem thinking?_toolUse (id name : String) (v : V) :
    (toolUse id name v).thinking? = none := rfl

end Block

/-- A message as the model wrote it. -/
structure ClaudeMessage (V : Type) where
  id : String := ""
  model : String := ""
  content : List (Block V) := []
  stopReason : String := ""
deriving DecidableEq

/-- The body of a response that is not streamed. -/
def ClaudeMessage.body (m : ClaudeMessage V) : ClaudeResponse V :=
  { type := .message, id := m.id, role := "assistant", model := m.model
    content := m.content.map Block.body, stopReason := m.stopReason }

/-- The event of one piece of a block. -/
def pieceEvent (i : Nat) (b : Block V) (p : String) : ClaudeResponse V :=
  { type := .contentBlockDelta, index := some i, delta := some (b.piece p) }

/-- The events of one block. -/
def blockEvents (json : JsonCodec V) (i : Nat) (b : Block V) (pieces : List String) :
    List (ClaudeResponse V) :=
  { type := .contentBlockStart, index := some i, contentBlock := some (b.opening json) } ::
    pieces.map (pieceEvent i b) ++ [{ type := .contentBlockStop, index := some i }]

/-- The events of the blocks from index `i` on, each with its pieces. -/
def contentEvents (json : JsonCodec V) : Nat → List (Block V × List String) →
    List (ClaudeResponse V)
  | _, [] => []
  | i, (b, pieces) :: rest => blockEvents json i b pieces ++ contentEvents json (i + 1) rest

/-- The events of a message, pings left out. -/
def messageEvents (json : JsonCodec V) (m : ClaudeMessage V) (pieces : List (List String)) :
    List (ClaudeResponse V) :=
  { type := .messageStart
    message := some { type := .message, id := m.id, model := m.model, role := "assistant" } } ::
    contentEvents json 0 (m.content.zip pieces) ++
    [{ type := .messageDelta, delta := some { stopReason := some m.stopReason } },
     { type := .messageStop }]

/-- The streams that carry a message: its events in order, with pings anywhere between. -/
structure Streams (json : JsonCodec V) (m : ClaudeMessage V) (pieces : List (List String))
    (events : List (ClaudeResponse V)) : Prop where
  sent : List.Forall₂ (Block.SentAs json) m.content pieces
  ordered : events.filter (fun e => e.type ≠ .other "ping") = messageEvents json m pieces

/-! ## The client -/

/-- What an OpenAI client has put together: texts concatenated, tool calls keyed by index. -/
structure Assembled where
  content : String := ""
  reasoning : String := ""
  toolCalls : List (Nat × ToolCallResponse) := []
  finishReason : Option String := none
deriving DecidableEq

/-- A later fragment of a tool call adds to the arguments. -/
def mergeToolCall (call fragment : ToolCallResponse) : ToolCallResponse :=
  { call with function := { call.function with
    arguments := call.function.arguments ++ fragment.function.arguments } }

/-- One choice of a chunk. -/
def Assembled.addChoice (a : Assembled) (choice : StreamChoice) : Assembled :=
  { content := a.content ++ choice.delta.getContentString
    reasoning := a.reasoning ++ choice.delta.getReasoningContent
    toolCalls := (choice.delta.toolCalls.getD []).foldl
      (fun calls t => Keyed.add mergeToolCall (t.index.getD 0) t calls) a.toolCalls
    finishReason := choice.finishReason.orElse fun _ => a.finishReason }

/-- One converted event. -/
def Assembled.addConverted (a : Assembled) : Converted → Assembled
  | .chunk response => response.choices.foldl addChoice a
  | .skipped => a
  | .panicked => a

/-- What the client has after the events of a stream were converted one by one. -/
def Assembled.addEvents (a : Assembled) (events : List (ClaudeResponse V)) : Assembled :=
  events.foldl (fun a e => a.addConverted (streamResponseClaude2OpenAI e)) a

/-- What it has after a whole stream. -/
def reassemble (events : List (ClaudeResponse V)) : Assembled :=
  Assembled.addEvents {} events

end TokenRouter.ClaudeRelay
