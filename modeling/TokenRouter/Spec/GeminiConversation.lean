import TokenRouter.ForStd.Split
import TokenRouter.Service.GeminiRequest

/-!
# Conversations of Gemini requests

The texts, media and function calls of a Gemini request are meant to come out of the conversion
once, the calls under ids of their own and the responses under the ids of the calls they answer, and
at most four stop sequences. This module says of which requests that is true.
-/

namespace TokenRouter.GeminiConversion

open Dto

variable {V : Type}

/-! ## What is said -/

/-- What a part is: what its first field says. -/
inductive PartKind (V : Type) where
  | text (text : String)
  | media (url mimeType : String)
  | call (call : GeminiFunctionCall V)
  | response (response : GeminiFunctionResponse V)
  | nothing

def kind (part : RequestPart V) : PartKind V :=
  if part.text ≠ "" then .text part.text
  else
    match part.inlineData, part.fileData, part.functionCall, part.functionResponse with
    | some inline, _, _, _ =>
      .media ("data:" ++ inline.mimeType ++ ";base64," ++ inline.data) inline.mimeType
    | none, some file, _, _ => .media file.fileUri file.mimeType
    | none, none, some call, _ => .call call
    | none, none, none, some response => .response response
    | none, none, none, none => .nothing

/-- What is meant to be kept of a conversation. -/
inductive Kept where
  | text (role text : String)
  | media (role url mimeType : String)
  | call (role name arguments : String)
deriving DecidableEq

variable (toJSONString : V → String)

/-- The texts and media of a part. -/
def mediaKept (role : String) (part : RequestPart V) : List Kept :=
  match kind part with
  | .text text => [.text role text]
  | .media url mimeType => [.media role url mimeType]
  | _ => []

/-- The function call of a part. -/
def callKept (role : String) (part : RequestPart V) : List Kept :=
  match kind part with
  | .call call => [.call role call.functionName (toJSONString call.arguments)]
  | _ => []

def geminiKept (content : GeminiChatContent V) : List Kept :=
  content.parts.flatMap fun part =>
    mediaKept (convertGeminiRoleToOpenAI content.role) part ++
      callKept toJSONString (convertGeminiRoleToOpenAI content.role) part

def partKept (role : String) (part : MediaContent) : Kept :=
  match part.imageUrl with
  | some image => .media role image.url image.mimeType
  | none => .text role part.text

/-- What an OpenAI message keeps; a tool message answers a call. -/
def openAIKept (message : RequestMessage) : List Kept :=
  if message.role = "tool" then []
  else
    message.content.parse.map (partKept message.role) ++
      message.toolCalls.map fun call => .call message.role call.name call.arguments

/-- The ids of the calls, in order. -/
def callIds (messages : List RequestMessage) : List String :=
  messages.flatMap fun message => message.toolCalls.map (·.id)

/-- The ids that the tool messages answer, in order. -/
def answeredIds (messages : List RequestMessage) : List String :=
  (messages.filter fun message => message.role = "tool").map (·.toolCallId)

/-! ## Which call a response answers -/

/-- A call or a response, by its name. -/
inductive CallEvent where
  | call (name : String)
  | response (name : String)
deriving DecidableEq

def callEvent (part : RequestPart V) : List CallEvent :=
  match kind part with
  | .call call => [.call call.functionName]
  | .response response => [.response response.name]
  | _ => []

/-- For every response the number of the call it answers: the first one of its name before it that
    has no response yet. -/
def answers (pending : List (String × Nat)) (next : Nat) : List CallEvent → List (Option Nat)
  | [] => []
  | .call name :: rest => answers (pending ++ [(name, next)]) (next + 1) rest
  | .response name :: rest =>
    match pending.find? fun p => p.1 = name with
    | none => none :: answers pending next rest
    | some p => some p.2 :: answers (pending.erase p) next rest

/-- The answers of a conversation. -/
def conversationAnswers (contents : List (GeminiChatContent V)) : List (Option Nat) :=
  answers [] 0 (contents.flatMap fun content => content.parts.flatMap callEvent)

/-- The conversion is total and keeps the conversation, the links of its calls and up to four stop
    sequences. -/
def ConversationKept (req : GeminiChatRequest V) : Prop :=
  ∃ converted stop, geminiToOpenAIRequest toJSONString req =
      some { messages := systemMessages req.systemInstructions ++ converted, stop := stop } ∧
    stop.getD [] = req.stopSequences.elems.take 4 ∧
    converted.flatMap openAIKept = req.contents.flatMap (geminiKept toJSONString) ∧
    (callIds converted).Nodup ∧
    ∀ j k : Nat, (conversationAnswers req.contents)[j]? = some (some k) →
      (answeredIds converted)[j]? = (callIds converted)[k]?

/-! ## When that is so -/

def isCall (part : RequestPart V) : Bool :=
  match kind part with
  | .call _ => true
  | _ => false

def isMedia (part : RequestPart V) : Bool :=
  match kind part with
  | .text _ => true
  | .media _ _ => true
  | _ => false

/-- The number of each function call within its content. -/
def callNumbers (content : GeminiChatContent V) : List Nat :=
  (List.range (content.parts.countP isCall)).map (· + 1)

/-- For every function response how many function calls stand before it in its content, `n` being
    before the first part. -/
def callsBefore (n : Nat) : List (RequestPart V) → List Nat
  | [] => []
  | part :: rest =>
    match kind part with
    | .call _ => callsBefore (n + 1) rest
    | .response _ => n :: callsBefore n rest
    | _ => callsBefore n rest

/-- The requests that are converted as they are meant to. -/
structure Convertible (req : GeminiChatRequest V) : Prop where
  /-- no stop sequence or at least four -/
  stop : req.stopSequences.elems = [] ∨ 4 ≤ req.stopSequences.elems.length
  /-- no function call beside a text or medium -/
  alone : ∀ content ∈ req.contents,
    (∀ part ∈ content.parts, isCall part = false) ∨ ∀ part ∈ content.parts, isMedia part = false
  /-- function calls in one content only -/
  oneTurn : req.contents.Pairwise fun a b =>
    (∀ part ∈ a.parts, isCall part = false) ∨ ∀ part ∈ b.parts, isCall part = false
  /-- every response stands behind as many calls of its own content as the number of the call it
      answers -/
  answered : ∀ j k : Nat, (conversationAnswers req.contents)[j]? = some (some k) →
    (req.contents.flatMap fun content => callsBefore 0 content.parts)[j]? =
      (req.contents.flatMap callNumbers)[k]?

/-! ## The parts of a content -/

variable {toJSONString}

/-- A round of the loop by the kind of the part. -/
theorem collectPart_eq (acc : Collected) (part : RequestPart V) :
    collectPart toJSONString acc part =
      match kind part with
      | .text text =>
        { acc with mediaContents := acc.mediaContents ++ [{ type := "text", text := text }] }
      | .media url mimeType =>
        { acc with
          mediaContents := acc.mediaContents ++
            [{ type := "image_url"
               imageUrl := some { url := url, detail := "auto", mimeType := mimeType } }] }
      | .call call =>
        { acc with
          toolCalls := acc.toolCalls ++
            [{ id := callId (acc.toolCalls.length + 1)
               name := call.functionName
               arguments := toJSONString call.arguments }] }
      | .response response =>
        { acc with
          toolMessages := acc.toolMessages ++
            [{ role := "tool"
               toolCallId := callId acc.toolCalls.length
               content := .string (toJSONString response.response) }] }
      | .nothing => acc := by
  obtain ⟨text, inlineData, fileData, functionCall, functionResponse⟩ := part
  unfold collectPart kind
  dsimp only
  by_cases htext : text ≠ ""
  · rw [if_pos htext, if_pos htext]
  · rw [if_neg htext, if_neg htext]
    cases inlineData <;> cases fileData <;> cases functionCall <;> cases functionResponse <;> rfl

/-- What has been collected of a content: texts and media, calls with their numbers, and responses
    with the numbers they answer. -/
structure Collects (acc : Collected) (role : String) (media calls : List Kept)
    (answered : List Nat) : Prop where
  media : acc.mediaContents.map (partKept role) = media
  calls : (acc.toolCalls.map fun call => Kept.call role call.name call.arguments) = calls
  ids : acc.toolCalls.map (·.id) =
    (List.range acc.toolCalls.length).map fun i => callId (i + 1)
  answered : acc.toolMessages.map (·.toolCallId) = answered.map callId
  toolMessages : ∀ message ∈ acc.toolMessages, message.role = "tool" ∧ message.toolCalls = []
  isText : ∀ part ∈ acc.mediaContents, part.type = "text" → part.imageUrl = none

/-- One part. -/
theorem collectPart_spec {acc : Collected} {role : String} {media calls : List Kept}
    {answered : List Nat} (hacc : Collects acc role media calls answered) (part : RequestPart V) :
    Collects (collectPart toJSONString acc part) role (media ++ mediaKept role part)
        (calls ++ callKept toJSONString role part)
        (answered ++ callsBefore acc.toolCalls.length [part]) ∧
      (collectPart toJSONString acc part).toolCalls.length =
        acc.toolCalls.length + [part].countP isCall := by
  obtain ⟨rfl, rfl, hids, hanswered, htool, htext⟩ := hacc
  rw [collectPart_eq, List.countP_singleton]
  unfold mediaKept callKept callsBefore isCall
  cases kind part with
  | text text =>
    refine ⟨⟨by simp [partKept], by simp, hids, by simpa [callsBefore] using hanswered, htool, ?_⟩,
      by simp⟩
    intro p hp
    rcases List.mem_append.mp hp with hp | hp
    · exact htext p hp
    · obtain rfl := List.mem_singleton.mp hp
      exact fun _ => rfl
  | media url mimeType =>
    refine ⟨⟨by simp [partKept], by simp, hids, by simpa [callsBefore] using hanswered, htool, ?_⟩,
      by simp⟩
    intro p hp
    rcases List.mem_append.mp hp with hp | hp
    · exact htext p hp
    · obtain rfl := List.mem_singleton.mp hp
      simp
  | call call =>
    refine ⟨⟨by simp, by simp, ?_, by simpa [callsBefore] using hanswered, htool, htext⟩, by simp⟩
    rw [List.map_append, hids, List.length_append, List.length_singleton, List.range_succ,
      List.map_append]
    rfl
  | response response =>
    refine ⟨⟨by simp, by simp, hids, by simp [callsBefore, hanswered], ?_, htext⟩, by simp⟩
    intro message hmessage
    rcases List.mem_append.mp hmessage with hmessage | hmessage
    · exact htool message hmessage
    · obtain rfl := List.mem_singleton.mp hmessage
      exact ⟨rfl, rfl⟩
  | nothing =>
    exact ⟨⟨by simp, by simp, hids, by simpa [callsBefore] using hanswered, htool, htext⟩, by simp⟩

/-- The numbers before a list of parts go on from those before its first part. -/
theorem callsBefore_cons (n : Nat) (part : RequestPart V) (rest : List (RequestPart V)) :
    callsBefore n (part :: rest) =
      callsBefore n [part] ++ callsBefore (n + [part].countP isCall) rest := by
  cases hkind : kind part <;> simp [callsBefore, isCall, List.countP_cons, hkind]

/-- All parts. -/
theorem collectParts_spec {acc : Collected} {role : String} {media calls : List Kept}
    {answered : List Nat} (hacc : Collects acc role media calls answered)
    (parts : List (RequestPart V)) :
    Collects (parts.foldl (collectPart toJSONString) acc) role
        (media ++ parts.flatMap (mediaKept role))
        (calls ++ parts.flatMap (callKept toJSONString role))
        (answered ++ callsBefore acc.toolCalls.length parts) ∧
      (parts.foldl (collectPart toJSONString) acc).toolCalls.length =
        acc.toolCalls.length + parts.countP isCall := by
  induction parts generalizing acc media calls answered with
  | nil => simpa [callsBefore] using hacc
  | cons part rest ih =>
    obtain ⟨hstep, hlen⟩ := @collectPart_spec _ toJSONString _ _ _ _ _ hacc part
    obtain ⟨hrest, hlen'⟩ := ih hstep
    rw [List.foldl_cons, callsBefore_cons, ← hlen, List.flatMap_cons, List.flatMap_cons,
      ← List.append_assoc, ← List.append_assoc, ← List.append_assoc]
    refine ⟨hrest, ?_⟩
    rw [hlen', hlen, List.countP_cons, List.countP_cons, List.countP_nil]
    omega

/-! ## A content -/

theorem convertGeminiRoleToOpenAI_ne_tool (role : String) :
    convertGeminiRoleToOpenAI role ≠ "tool" := by
  unfold convertGeminiRoleToOpenAI
  split <;> decide

/-- The content of a message keeps its texts and media. -/
theorem messageContent_parse {role : String} {parts : List MediaContent}
    (htext : ∀ part ∈ parts, part.type = "text" → part.imageUrl = none) :
    (messageContent parts).parse.map (partKept role) = parts.map (partKept role) := by
  unfold messageContent
  split
  · rfl
  · rename_i part
    split
    · rename_i htype
      simp [MessageContent.parse, partKept, htext part List.mem_cons_self htype]
    · rfl
  · rfl

theorem messageContent_parse_eq_nil {parts : List MediaContent} :
    (messageContent parts).parse = [] ↔ parts = [] := by
  unfold messageContent
  split
  · simp [MessageContent.parse]
  · split <;> simp [MessageContent.parse]
  · simp [MessageContent.parse]

/-- The message of a content, after the tool messages. -/
def ownMessages (role : String) (acc : Collected) : List RequestMessage :=
  let message : RequestMessage :=
    { role := role
      toolCalls := acc.toolCalls
      content := if 0 < acc.toolCalls.length then .null else messageContent acc.mediaContents }
  if 0 < message.content.parse.length ∨ 0 < message.toolCalls.length then [message] else []

theorem ownMessages_spec {role : String} (hrole : role ≠ "tool") {acc : Collected}
    (htext : ∀ part ∈ acc.mediaContents, part.type = "text" → part.imageUrl = none) :
    ((ownMessages role acc).flatMap openAIKept =
        if acc.toolCalls.length = 0 then acc.mediaContents.map (partKept role)
        else acc.toolCalls.map fun call => Kept.call role call.name call.arguments) ∧
      callIds (ownMessages role acc) = acc.toolCalls.map (·.id) ∧
      answeredIds (ownMessages role acc) = [] := by
  obtain ⟨toolMessages, mediaContents, toolCalls⟩ := acc
  cases toolCalls with
  | nil =>
    cases mediaContents with
    | nil =>
      have hnone : ownMessages role ⟨toolMessages, [], []⟩ = [] := rfl
      rw [hnone]
      exact ⟨rfl, rfl, rfl⟩
    | cons part parts =>
      have hparse : (messageContent (part :: parts)).parse ≠ [] := by
        simp [messageContent_parse_eq_nil]
      have hone : ownMessages role ⟨toolMessages, part :: parts, []⟩ =
          [{ role := role, content := messageContent (part :: parts) }] :=
        if_pos (.inl (List.length_pos_iff.mpr hparse))
      rw [hone]
      refine ⟨?_, rfl, by simp [answeredIds, hrole]⟩
      rw [List.flatMap_singleton, openAIKept, if_neg hrole, messageContent_parse htext]
      simp
  | cons call calls =>
    have hone : ownMessages role ⟨toolMessages, mediaContents, call :: calls⟩ =
        [{ role := role, toolCalls := call :: calls }] := by
      simp [ownMessages]
    rw [hone]
    refine ⟨?_, by simp [callIds], by simp [answeredIds, hrole]⟩
    rw [List.flatMap_singleton, openAIKept, if_neg hrole]
    rfl

/-- What a content is converted to. -/
theorem convertContent_spec (content : GeminiChatContent V) :
    ((convertContent toJSONString content).flatMap openAIKept =
        if content.parts.countP isCall = 0 then
          content.parts.flatMap (mediaKept (convertGeminiRoleToOpenAI content.role))
        else content.parts.flatMap
          (callKept toJSONString (convertGeminiRoleToOpenAI content.role))) ∧
      callIds (convertContent toJSONString content) = (callNumbers content).map callId ∧
      answeredIds (convertContent toJSONString content) =
        (callsBefore 0 content.parts).map callId := by
  have hrole := convertGeminiRoleToOpenAI_ne_tool content.role
  have hempty : Collects {} (convertGeminiRoleToOpenAI content.role) [] [] [] :=
    ⟨rfl, rfl, rfl, rfl, by simp, by simp⟩
  obtain ⟨⟨hmedia, hcalls, hids, hanswered, htool, htext⟩, hlen⟩ :=
    @collectParts_spec _ toJSONString _ _ _ _ _ hempty content.parts
  have hconvert : convertContent toJSONString content =
      (content.parts.foldl (collectPart toJSONString) {}).toolMessages ++
        ownMessages (convertGeminiRoleToOpenAI content.role)
          (content.parts.foldl (collectPart toJSONString) {}) := rfl
  rw [hconvert]
  generalize content.parts.foldl (collectPart toJSONString) {} = acc at *
  obtain ⟨hkept, hcallIds, hnone⟩ := ownMessages_spec hrole htext
  rw [List.nil_append] at hmedia hcalls hanswered
  have hzero : ({} : Collected).toolCalls.length = 0 := rfl
  rw [hzero, Nat.zero_add] at hlen
  rw [hzero] at hanswered
  have hkeptTool : acc.toolMessages.flatMap openAIKept = [] := by
    rw [List.flatMap_eq_nil_iff]
    intro message hmessage
    rw [openAIKept, if_pos (htool message hmessage).1]
  have hidsTool : acc.toolMessages.flatMap (fun message => message.toolCalls.map (·.id)) = [] := by
    rw [List.flatMap_eq_nil_iff]
    intro message hmessage
    rw [(htool message hmessage).2, List.map_nil]
  have hfilterTool : acc.toolMessages.filter (fun message => message.role = "tool") =
      acc.toolMessages := by
    rw [List.filter_eq_self]
    intro message hmessage
    simpa using (htool message hmessage).1
  refine ⟨?_, ?_, ?_⟩
  · rw [List.flatMap_append, hkeptTool, List.nil_append, hkept, hmedia, hcalls, hlen]
  · rw [callIds, List.flatMap_append, hidsTool, List.nil_append]
    rw [callIds] at hcallIds
    rw [hcallIds, hids, callNumbers, hlen, List.map_map]
    rfl
  · rw [answeredIds, List.filter_append, List.map_append, hfilterTool, hanswered]
    rw [answeredIds] at hnone
    rw [hnone, List.append_nil]

/-! ## The conversation -/

theorem callId_injective : Function.Injective callId := by
  intro m n h
  have h' := (String.append_right_inj _).mp h
  exact Nat.repr_injective h'

theorem mediaKept_eq_nil_iff (role : String) (part : RequestPart V) :
    mediaKept role part = [] ↔ isMedia part = false := by
  unfold mediaKept isMedia
  cases kind part <;> simp

theorem callKept_eq_nil_iff (role : String) (part : RequestPart V) :
    callKept toJSONString role part = [] ↔ isCall part = false := by
  unfold callKept isCall
  cases kind part <;> simp

theorem countP_isCall_eq_zero_iff (content : GeminiChatContent V) :
    content.parts.countP isCall = 0 ↔ ∀ part ∈ content.parts, isCall part = false := by
  simp [List.countP_eq_zero]

/-- What is written of a content is no more than it says, and all of it where calls stand alone. -/
theorem convertContent_kept (content : GeminiChatContent V) :
    ((convertContent toJSONString content).flatMap openAIKept).length ≤
        (geminiKept toJSONString content).length ∧
      ((convertContent toJSONString content).flatMap openAIKept = geminiKept toJSONString content ↔
        (∀ part ∈ content.parts, isCall part = false) ∨
          ∀ part ∈ content.parts, isMedia part = false) := by
  obtain ⟨hkept, -, -⟩ := @convertContent_spec _ toJSONString content
  rw [hkept, geminiKept]
  generalize convertGeminiRoleToOpenAI content.role = role
  have hlen : (content.parts.flatMap fun part =>
      mediaKept role part ++ callKept toJSONString role part).length =
      (content.parts.flatMap (mediaKept role)).length +
        (content.parts.flatMap (callKept toJSONString role)).length := by
    induction content.parts with
    | nil => rfl
    | cons part rest ih =>
      simp only [List.flatMap_cons, List.length_append, ih]
      omega
  have hmediaNil : content.parts.flatMap (mediaKept role) = [] ↔
      ∀ part ∈ content.parts, isMedia part = false := by
    rw [List.flatMap_eq_nil_iff]
    exact forall₂_congr fun part _ => mediaKept_eq_nil_iff role part
  have hcallNil : content.parts.flatMap (callKept toJSONString role) = [] ↔
      ∀ part ∈ content.parts, isCall part = false := by
    rw [List.flatMap_eq_nil_iff]
    exact forall₂_congr fun part _ => callKept_eq_nil_iff role part
  split
  · rename_i hcalls
    rw [countP_isCall_eq_zero_iff] at hcalls
    refine ⟨by rw [hlen]; omega, iff_of_true ?_ (.inl hcalls)⟩
    refine List.flatMap_congr fun part hpart => ?_
    rw [(callKept_eq_nil_iff role part).mpr (hcalls part hpart), List.append_nil]
  · rename_i hcalls
    rw [countP_isCall_eq_zero_iff] at hcalls
    refine ⟨by rw [hlen]; omega, ?_, ?_⟩
    · intro h
      have hlen' := congrArg List.length h
      rw [hlen] at hlen'
      exact .inr (hmediaNil.mp (List.length_eq_zero_iff.mp (by omega)))
    · intro h
      have hmedia := h.resolve_left hcalls
      refine List.flatMap_congr fun part hpart => ?_
      rw [(mediaKept_eq_nil_iff role part).mpr (hmedia part hpart), List.nil_append]

theorem callIds_flatMap (contents : List (GeminiChatContent V)) :
    callIds (contents.flatMap (convertContent toJSONString)) =
      (contents.flatMap callNumbers).map callId := by
  induction contents with
  | nil => rfl
  | cons content rest ih =>
    obtain ⟨-, hids, -⟩ := @convertContent_spec _ toJSONString content
    rw [callIds] at hids ih ⊢
    rw [List.flatMap_cons, List.flatMap_append, hids, ih, List.flatMap_cons, List.map_append]

theorem answeredIds_flatMap (contents : List (GeminiChatContent V)) :
    answeredIds (contents.flatMap (convertContent toJSONString)) =
      (contents.flatMap fun content => callsBefore 0 content.parts).map callId := by
  induction contents with
  | nil => rfl
  | cons content rest ih =>
    obtain ⟨-, -, hids⟩ := @convertContent_spec _ toJSONString content
    rw [answeredIds] at hids ih ⊢
    rw [List.flatMap_cons, List.filter_append, List.map_append, hids, ih, List.flatMap_cons,
      List.map_append]

/-- The ids are distinct exactly when the calls are in one content. -/
theorem nodup_callIds_iff (contents : List (GeminiChatContent V)) :
    ((contents.flatMap callNumbers).map callId).Nodup ↔
      contents.Pairwise fun a b =>
        (∀ part ∈ a.parts, isCall part = false) ∨ ∀ part ∈ b.parts, isCall part = false := by
  rw [List.nodup_map_iff callId_injective, List.nodup_flatMap]
  have hnodup : ∀ content ∈ contents, (callNumbers content).Nodup := fun content _ =>
    List.nodup_range.map fun _ _ => Nat.succ.inj
  have hdisjoint : ∀ a b : GeminiChatContent V, Function.onFun List.Disjoint callNumbers a b ↔
      (∀ part ∈ a.parts, isCall part = false) ∨ ∀ part ∈ b.parts, isCall part = false := by
    intro a b
    rw [← countP_isCall_eq_zero_iff, ← countP_isCall_eq_zero_iff, Function.onFun, callNumbers,
      callNumbers]
    constructor
    · intro h
      by_contra hne
      rw [not_or] at hne
      -- Both have a first call.
      exact h (a := 1) (List.mem_map.mpr ⟨0, List.mem_range.mpr (Nat.pos_of_ne_zero hne.1), rfl⟩)
        (List.mem_map.mpr ⟨0, List.mem_range.mpr (Nat.pos_of_ne_zero hne.2), rfl⟩)
    · rintro (h | h) <;> simp [h]
  constructor
  · rintro ⟨-, hpair⟩
    exact hpair.imp fun h => (hdisjoint _ _).mp h
  · intro hpair
    exact ⟨hnodup, hpair.imp fun h => (hdisjoint _ _).mpr h⟩

/-- Up to four stop sequences come through exactly when there are none or at least four. -/
theorem stop_iff (s : StopSlice) (hne : 0 < s.elems.length) :
    s.upTo 4 = some (s.elems.take 4) ↔ 4 ≤ s.elems.length := by
  unfold StopSlice.upTo
  constructor
  · intro h
    split at h
    · rename_i hcap
      have hlen := congrArg List.length (Option.some.inj h)
      rw [List.length_take, List.length_take, List.length_append] at hlen
      omega
    · cases h
  · intro h
    rw [if_pos (by omega), List.take_append_of_le_length h]

/-- The stop sequences come through as they are meant to. -/
theorem run_stop_iff (req : GeminiChatRequest V) (converted : List RequestMessage) :
    (∃ stop, geminiToOpenAIRequest toJSONString req =
        some { messages := systemMessages req.systemInstructions ++ converted, stop := stop } ∧
      stop.getD [] = req.stopSequences.elems.take 4) ↔
      req.contents.flatMap (convertContent toJSONString) = converted ∧
        (req.stopSequences.elems = [] ∨ 4 ≤ req.stopSequences.elems.length) := by
  unfold geminiToOpenAIRequest
  by_cases hne : 0 < req.stopSequences.elems.length
  · have hnil : ¬req.stopSequences.elems = [] := List.length_pos_iff.mp hne
    simp only [if_pos hne, hnil, false_or]
    rw [← stop_iff _ hne]
    cases req.stopSequences.upTo 4 with
    | none => simp
    | some stop =>
      simp only [Option.map_some, Option.some.injEq, OpenAIRequest.mk.injEq,
        List.append_cancel_left_eq]
      constructor
      · rintro ⟨_, ⟨hmessages, rfl⟩, hstop⟩
        exact ⟨hmessages, hstop⟩
      · rintro ⟨hmessages, hstop⟩
        exact ⟨some stop, ⟨hmessages, rfl⟩, hstop⟩
  · have hnil : req.stopSequences.elems = [] := by
      simpa using hne
    simp only [if_neg hne]
    constructor
    · rintro ⟨stop, hrun, -⟩
      have hmessages := congrArg OpenAIRequest.messages (Option.some.inj hrun)
      exact ⟨List.append_cancel_left hmessages, .inl hnil⟩
    · rintro ⟨rfl, -⟩
      exact ⟨none, rfl, by rw [hnil]; rfl⟩

/-- A request is converted as it is meant to be exactly when it is convertible. -/
theorem contentsKept_iff (toJSONString : V → String) (req : GeminiChatRequest V) :
    ConversationKept toJSONString req ↔ Convertible req := by
  have hkept : (req.contents.flatMap (convertContent toJSONString)).flatMap openAIKept =
      req.contents.flatMap (geminiKept toJSONString) ↔ ∀ content ∈ req.contents,
        (∀ part ∈ content.parts, isCall part = false) ∨
          ∀ part ∈ content.parts, isMedia part = false := by
    rw [List.flatMap_assoc, List.flatMap_eq_iff_of_length_le fun content _ =>
      (@convertContent_kept _ toJSONString content).1]
    exact forall₂_congr fun content _ => (convertContent_kept content).2
  have hids := nodup_callIds_iff req.contents
  rw [← @callIds_flatMap _ toJSONString] at hids
  have hlinks : ∀ j k : Nat,
      (answeredIds (req.contents.flatMap (convertContent toJSONString)))[j]? =
          (callIds (req.contents.flatMap (convertContent toJSONString)))[k]? ↔
        (req.contents.flatMap fun content => callsBefore 0 content.parts)[j]? =
          (req.contents.flatMap callNumbers)[k]? := by
    intro j k
    rw [answeredIds_flatMap, callIds_flatMap, List.getElem?_map, List.getElem?_map]
    exact (Option.map_injective callId_injective).eq_iff
  constructor
  · rintro ⟨converted, stop, hrun, hstop, hsame, hnodup, hanswered⟩
    obtain ⟨rfl, hstops⟩ := (run_stop_iff req converted).mp ⟨stop, hrun, hstop⟩
    exact ⟨hstops, hkept.mp hsame, hids.mp hnodup,
      fun j k hjk => (hlinks j k).mp (hanswered j k hjk)⟩
  · rintro ⟨hstops, halone, hturn, hanswered⟩
    obtain ⟨stop, hrun, hstop⟩ := (@run_stop_iff _ toJSONString req _).mpr
      ⟨rfl, hstops⟩
    exact ⟨_, stop, hrun, hstop, hkept.mpr halone, hids.mpr hturn,
      fun j k hjk => (hlinks j k).mpr (hanswered j k hjk)⟩

/-! ### Fewer than four stop sequences -/

/-- One stop sequence, in a slice without room behind it. -/
def stopRequest : GeminiChatRequest Unit where
  contents := [{ role := "user", parts := [{ text := "Hello" }] }]
  stopSequences := { elems := ["END"] }

/-- The conversion panics. -/
theorem one_stop_panics : geminiToOpenAIRequest (fun _ : Unit => "null") stopRequest = none := by
  decide

end TokenRouter.GeminiConversion
