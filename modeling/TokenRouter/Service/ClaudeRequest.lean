import TokenRouter.Dto

/-!
# Claude requests for OpenAI channels (`service/convert.go`, `dto/claude.go`)

The messages of `ClaudeToOpenAIRequest`. `V` is the type of a JSON value held as `any`; the texts of
JSON values are parameters.
-/

namespace TokenRouter.ClaudeConversion

open Dto

variable {V : Type}

/-- What the conversion uses of `encoding/json`. -/
structure JsonText (V : Type) where
  /-- `toJSONString`; nil is `null` -/
  toJSONString : Option V → String
  /-- the text of `ParseMediaContent` of a tool result whose content is no string -/
  mediaText : Option V → String

/-! ## Requests -/

/-- `dto.ClaudeMessageSource`; data that is no string is nil here. -/
structure ClaudeMessageSource where
  type : String
  mediaType : String := ""
  data : Option String := none
  url : String := ""
deriving DecidableEq

/-- The `Content` of a tool result. -/
inductive ToolResultContent (V : Type) where
  | string (content : String)
  | value (content : Option V)
deriving DecidableEq

/-- `dto.ClaudeMediaMessage` of a request. -/
structure ClaudeBlock (V : Type) where
  type : String
  text : Option String := none
  source : Option ClaudeMessageSource := none
  id : String := ""
  name : String := ""
  input : Option V := none
  content : ToolResultContent V := .value none
  toolUseId : String := ""
deriving DecidableEq

/-- `GetText` -/
def ClaudeBlock.getText (block : ClaudeBlock V) : String := block.text.getD ""

/-- `ClaudeMessage.Content`, without what does not parse. -/
inductive ClaudeContent (V : Type) where
  | null
  | string (content : String)
  | blocks (content : List (ClaudeBlock V))
deriving DecidableEq

/-- `ParseContent`; the error for a string is dropped by `SearchToolNameByToolCallId`. -/
def ClaudeContent.parse : ClaudeContent V → List (ClaudeBlock V)
  | .blocks content => content
  | _ => []

/-- `dto.ClaudeMessage`; the role is one of the two of the protocol. -/
structure ClaudeMessage (V : Type) where
  role : String
  content : ClaudeContent V
  role_valid : role = "user" ∨ role = "assistant"

/-- `ClaudeRequest.System` -/
inductive ClaudeSystem (V : Type) where
  | null
  | string (content : String)
  | blocks (content : List (ClaudeBlock V))

/-- The conversation of `dto.ClaudeRequest`. -/
structure ClaudeRequest (V : Type) where
  system : ClaudeSystem V := .null
  messages : List (ClaudeMessage V)

/-- `SearchToolNameByToolCallId` -/
def ClaudeRequest.searchToolNameByToolCallId (req : ClaudeRequest V) (toolCallId : String) :
    String :=
  match (req.messages.flatMap (·.content.parse)).find? fun block => block.id = toolCallId with
  | some block => block.name
  | none => ""

/-! ## Conversion -/

/-- The system message; `openRouterClaude` keeps the blocks. -/
def systemMessages (openRouterClaude : Bool) : ClaudeSystem V → List RequestMessage
  | .null => []
  | .string content =>
    if content ≠ "" then [{ role := "system", content := .string content }] else []
  | .blocks systems =>
    if systems = [] then []
    else if openRouterClaude then
      [{ role := "system"
         content := .media (systems.map fun system => { type := "text", text := system.getText }) }]
    else [{ role := "system", content := .string (String.join (systems.map (·.getText))) }]

/-- The URL of a `data:` image; a missing text is printed as `%s` prints nil. -/
def dataURL (source : ClaudeMessageSource) : String :=
  "data:" ++ source.mediaType ++ ";base64," ++ source.data.getD "%!s(<nil>)"

/-- What the loop over the blocks of a message collects. -/
structure Collected where
  /-- tool messages, sent before the message itself -/
  toolMessages : List RequestMessage := []
  toolCalls : List ToolCallRequest := []
  mediaMessages : List MediaContent := []

/-- The tool message of a tool result. -/
def toolMessage (json : JsonText V) (req : ClaudeRequest V) (mediaMsg : ClaudeBlock V) :
    RequestMessage where
  role := "tool"
  name := some (if mediaMsg.name = "" then req.searchToolNameByToolCallId mediaMsg.toolUseId
    else mediaMsg.name)
  toolCallId := mediaMsg.toolUseId
  content := .string (match mediaMsg.content with
    | .string content => content
    | .value content => json.mediaText content)

/-- One round of the loop over the blocks of a message; `none` where a nil source is read. -/
def collectBlock (json : JsonText V) (req : ClaudeRequest V) (acc : Collected)
    (mediaMsg : ClaudeBlock V) : Option Collected :=
  if mediaMsg.type = "text" ∨ mediaMsg.type = "input_text" then
    let message : MediaContent := { type := "text", text := mediaMsg.getText }
    some { acc with mediaMessages := acc.mediaMessages ++ [message] }
  else if mediaMsg.type = "image" then
    mediaMsg.source.map fun source =>
      let message : MediaContent :=
        { type := "image_url", imageUrl := some { url := dataURL source } }
      { acc with mediaMessages := acc.mediaMessages ++ [message] }
  else if mediaMsg.type = "tool_use" then
    let toolCall : ToolCallRequest :=
      { id := mediaMsg.id, name := mediaMsg.name, arguments := json.toJSONString mediaMsg.input }
    some { acc with toolCalls := acc.toolCalls ++ [toolCall] }
  else if mediaMsg.type = "tool_result" then
    some { acc with toolMessages := acc.toolMessages ++ [toolMessage json req mediaMsg] }
  else some acc

/-- The loop over the blocks of a message. -/
def collectBlocks (json : JsonText V) (req : ClaudeRequest V) (acc : Collected) :
    List (ClaudeBlock V) → Option Collected
  | [] => some acc
  | mediaMsg :: rest =>
    (collectBlock json req acc mediaMsg).bind fun acc => collectBlocks json req acc rest

/-- The message itself, if there is something in it. -/
def ownMessage (message : RequestMessage) : List RequestMessage :=
  if 0 < message.content.parse.length ∨ 0 < message.toolCalls.length then [message] else []

/-- One round of the loop over the messages. -/
def convertMessage (json : JsonText V) (req : ClaudeRequest V) (message : ClaudeMessage V) :
    Option (List RequestMessage) :=
  match message.content with
  | .string content =>
    some (ownMessage { role := message.role, content := .string content })
  | .null => some (ownMessage { role := message.role })
  | .blocks blocks =>
    (collectBlocks json req {} blocks).map fun collected =>
      collected.toolMessages ++
        ownMessage
          { role := message.role
            toolCalls := collected.toolCalls
            content :=
              if 0 < collected.mediaMessages.length ∧ collected.toolCalls.length = 0 then
                .media collected.mediaMessages
              else .null }

/-- The loop over the messages. -/
def convertMessages (json : JsonText V) (req : ClaudeRequest V) :
    List (ClaudeMessage V) → Option (List RequestMessage)
  | [] => some []
  | message :: rest =>
    (convertMessage json req message).bind fun converted =>
      (convertMessages json req rest).map fun others => converted ++ others

/-- The messages of `ClaudeToOpenAIRequest`. -/
def claudeToOpenAIMessages (json : JsonText V) (openRouterClaude : Bool) (req : ClaudeRequest V) :
    Option (List RequestMessage) :=
  (convertMessages json req req.messages).map fun converted =>
    systemMessages openRouterClaude req.system ++ converted

end TokenRouter.ClaudeConversion
