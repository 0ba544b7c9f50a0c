import TokenRouter.Dto

/-!
# Gemini requests for OpenAI channels (`service/convert.go`, `dto/gemini.go`)

The messages and the stop sequences of `GeminiToOpenAIRequest`. `V` is the type of a JSON value held
as `any`; its text is a parameter.
-/

namespace TokenRouter.GeminiConversion

open Dto

variable {V : Type}

/-! ## Requests -/

/-- `dto.GeminiInlineData` -/
structure GeminiInlineData where
  mimeType : String := ""
  data : String := ""
deriving DecidableEq

/-- `dto.GeminiFileData` -/
structure GeminiFileData where
  mimeType : String := ""
  fileUri : String := ""
deriving DecidableEq

/-- `dto.FunctionCall` of a request. -/
structure GeminiFunctionCall (V : Type) where
  functionName : String
  arguments : V
deriving DecidableEq

/-- `dto.GeminiFunctionResponse` -/
structure GeminiFunctionResponse (V : Type) where
  name : String
  response : V
deriving DecidableEq

/-- `dto.GeminiPart` of a request. -/
structure RequestPart (V : Type) where
  text : String := ""
  inlineData : Option GeminiInlineData := none
  fileData : Option GeminiFileData := none
  functionCall : Option (GeminiFunctionCall V) := none
  functionResponse : Option (GeminiFunctionResponse V) := none
deriving DecidableEq

/-- `dto.GeminiChatContent` -/
structure GeminiChatContent (V : Type) where
  role : String := ""
  parts : List (RequestPart V) := []
deriving DecidableEq

/-- A slice of texts: what is in it, and the capacity behind it. -/
structure StopSlice where
  elems : List String := []
  spare : List String := []
deriving DecidableEq

namespace StopSlice

/-- `s[:n]`, which panics beyond the capacity. -/
def upTo (s : StopSlice) (n : Nat) : Option (List String) :=
  if n ≤ s.elems.length + s.spare.length then some ((s.elems ++ s.spare).take n) else none

end StopSlice

/-- The parts of `dto.GeminiChatRequest` that become messages and stop sequences. -/
structure GeminiChatRequest (V : Type) where
  contents : List (GeminiChatContent V) := []
  stopSequences : StopSlice := {}
  systemInstructions : Option (GeminiChatContent V) := none

/-- The messages and `stop` of `dto.GeneralOpenAIRequest`. -/
structure OpenAIRequest where
  messages : List RequestMessage := []
  stop : Option (List String) := none
deriving DecidableEq

/-! ## Conversion -/

/-- `convertGeminiRoleToOpenAI` -/
def convertGeminiRoleToOpenAI (geminiRole : String) : String :=
  match geminiRole with
  | "user" => "user"
  | "model" => "assistant"
  | "function" => "function"
  | _ => "user"

/-- `extractTextFromGeminiParts` -/
def extractTextFromGeminiParts (parts : List (RequestPart V)) : String :=
  String.intercalate "\n" ((parts.map (·.text)).filter (· ≠ ""))

/-- `fmt.Sprintf("call_%d", n)` -/
def callId (n : Nat) : String := "call_" ++ toString n

/-- What the loop over the parts of a content collects. -/
structure Collected where
  /-- tool messages, sent before the message itself -/
  toolMessages : List RequestMessage := []
  mediaContents : List MediaContent := []
  toolCalls : List ToolCallRequest := []

/-- One round of the loop over the parts. -/
def collectPart (toJSONString : V → String) (acc : Collected) (part : RequestPart V) : Collected :=
  if part.text ≠ "" then
    { acc with mediaContents := acc.mediaContents ++ [{ type := "text", text := part.text }] }
  else
    match part.inlineData, part.fileData, part.functionCall, part.functionResponse with
    | some inline, _, _, _ =>
      let image : MessageImageUrl :=
        { url := "data:" ++ inline.mimeType ++ ";base64," ++ inline.data
          detail := "auto"
          mimeType := inline.mimeType }
      { acc with
        mediaContents := acc.mediaContents ++ [{ type := "image_url", imageUrl := some image }] }
    | none, some file, _, _ =>
      let image : MessageImageUrl :=
        { url := file.fileUri, detail := "auto", mimeType := file.mimeType }
      { acc with
        mediaContents := acc.mediaContents ++ [{ type := "image_url", imageUrl := some image }] }
    | none, none, some call, _ =>
      let toolCall : ToolCallRequest :=
        { id := callId (acc.toolCalls.length + 1)
          name := call.functionName
          arguments := toJSONString call.arguments }
      { acc with toolCalls := acc.toolCalls ++ [toolCall] }
    | none, none, none, some response =>
      let toolMessage : RequestMessage :=
        { role := "tool"
          toolCallId := callId acc.toolCalls.length
          content := .string (toJSONString response.response) }
      { acc with toolMessages := acc.toolMessages ++ [toolMessage] }
    | none, none, none, none => acc

/-- The content of a message without tool calls. -/
def messageContent (mediaContents : List MediaContent) : MessageContent :=
  match mediaContents with
  | [] => .null
  | [part] => if part.type = "text" then .string part.text else .media [part]
  | parts => .media parts

/-- One round of the loop over the contents. -/
def convertContent (toJSONString : V → String) (content : GeminiChatContent V) :
    List RequestMessage :=
  let acc := content.parts.foldl (collectPart toJSONString) {}
  let message : RequestMessage :=
    { role := convertGeminiRoleToOpenAI content.role
      toolCalls := acc.toolCalls
      content := if 0 < acc.toolCalls.length then .null else messageContent acc.mediaContents }
  acc.toolMessages ++
    if 0 < message.content.parse.length ∨ 0 < message.toolCalls.length then [message] else []

/-- The message of the system instructions. -/
def systemMessages (systemInstructions : Option (GeminiChatContent V)) : List RequestMessage :=
  match systemInstructions with
  | none => []
  | some content =>
    [{ role := "system", content := .string (extractTextFromGeminiParts content.parts) }]

/-- `GeminiToOpenAIRequest`; `none` where it panics. -/
def geminiToOpenAIRequest (toJSONString : V → String) (req : GeminiChatRequest V) :
    Option OpenAIRequest :=
  let messages := systemMessages req.systemInstructions ++
    req.contents.flatMap (convertContent toJSONString)
  if 0 < req.stopSequences.elems.length then
    (req.stopSequences.upTo 4).map fun stop => { messages := messages, stop := some stop }
  else some { messages := messages }

end TokenRouter.GeminiConversion
