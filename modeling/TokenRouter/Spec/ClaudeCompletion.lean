import Mathlib.Data.List.Forall2
import TokenRouter.Relay.ClaudeToOpenAI

/-!
# Streamed and whole Claude messages as completions

The stream conversion appends what every block sends, and numbers a tool call by the place of
its block among all blocks. The conversion of a whole message keeps the last text and the last
thinking. The two agree on the messages where neither makes a difference.

## Main results

- `reassemble_streams`: what a client puts together from a streamed message
- `responseClaude2OpenAI_body`: what it reads in the whole one
- `same_completion_iff`: when the two are the same completion
-/

namespace TokenRouter.ClaudeRelay

open Dto

variable {V : Type} (json : JsonCodec V)

/-- The name and the arguments of a call, as a client decodes them. -/
def called (t : ToolCallResponse) : String × String × Option V :=
  (t.id, t.function.name, json.unmarshal t.function.arguments)

/-- The completion put together from chunks is that of the choice: the texts, the tool calls
    in order with indexes from 0 on, and the finish reason. -/
structure SameCompletion (streamed : Assembled) (choice : OpenAITextResponseChoice) : Prop where
  content : streamed.content = choice.message.content
  reasoning : streamed.reasoning = choice.message.reasoningContent.getD ""
  indexes : Keyed.keys streamed.toolCalls = List.range streamed.toolCalls.length
  toolCalls : streamed.toolCalls.map (fun e => called json e.2) =
    choice.message.toolCalls.map (called json)
  finishReason : streamed.finishReason.getD "" = choice.finishReason

/-! ## The stream -/

/-- What the client has after one more block. -/
def Assembled.addBlock (a : Assembled) (i : Nat) (pieces : List String) : Block V → Assembled
  | .text _ => { a with content := a.content ++ String.join pieces }
  | .thinking _ => { a with reasoning := a.reasoning ++ String.join pieces }
  | .toolUse id name _ => { a with toolCalls := a.toolCalls ++
      [(i, { index := some i, id, type := "function"
             function := { name, arguments := String.join pieces } })] }

@[simp] theorem addEvents_nil (a : Assembled) :
    a.addEvents ([] : List (ClaudeResponse V)) = a := rfl

@[simp] theorem addEvents_cons (a : Assembled) (e : ClaudeResponse V)
    (events : List (ClaudeResponse V)) :
    a.addEvents (e :: events) = (a.addConverted (streamResponseClaude2OpenAI e)).addEvents events :=
  rfl

@[simp] theorem addEvents_append (a : Assembled) (l m : List (ClaudeResponse V)) :
    a.addEvents (l ++ m) = (a.addEvents l).addEvents m := by
  simp [Assembled.addEvents, List.foldl_append]

/-- A chunk without tool calls. -/
theorem addConverted_chunkOf_nil (a : Assembled) (r : ChatCompletionsStreamResponse)
    (c : StreamChoice) (h : c.delta.toolCalls = none) :
    a.addConverted (chunkOf r c []) =
      { a with
        content := a.content ++ c.delta.getContentString
        reasoning := a.reasoning ++ c.delta.getReasoningContent
        finishReason := c.finishReason.orElse fun _ => a.finishReason } := by
  simp [chunkOf, Assembled.addConverted, Assembled.addChoice, h]

/-- A chunk with one fragment of a tool call. -/
theorem addConverted_chunkOf_tool (a : Assembled) (r : ChatCompletionsStreamResponse)
    (c : StreamChoice) (t : ToolCallResponse) (hr : c.delta.getReasoningContent = "")
    (hf : c.finishReason = none) :
    a.addConverted (chunkOf r c [t]) =
      { a with toolCalls := Keyed.add mergeToolCall (t.index.getD 0) t a.toolCalls } := by
  have hr' : ({ c.delta with content := none, toolCalls := some [t] } : ChoiceDelta).getReasoningContent
      = "" := hr
  simp [chunkOf, Assembled.addConverted, Assembled.addChoice, hf, hr',
    ChoiceDelta.getContentString]

/-- The pieces of a text. -/
theorem addEvents_textPieces (a : Assembled) (i : Nat) (s : String) (pieces : List String) :
    a.addEvents (pieces.map (pieceEvent (V := V) i (.text s))) =
      { a with content := a.content ++ String.join pieces } := by
  induction pieces generalizing a with
  | nil => simp
  | cons p pieces ih =>
    have hp : a.addConverted (streamResponseClaude2OpenAI (pieceEvent (V := V) i (.text s) p)) =
        { a with content := a.content ++ p } := by
      simp [streamResponseClaude2OpenAI, pieceEvent, Block.piece, addConverted_chunkOf_nil,
        ChoiceDelta.getContentString, ChoiceDelta.getReasoningContent]
    rw [List.map_cons, addEvents_cons, hp, ih, String.join_cons, String.append_assoc]

/-- The pieces of a thinking block. -/
theorem addEvents_thinkingPieces (a : Assembled) (i : Nat) (s : String) (pieces : List String) :
    a.addEvents (pieces.map (pieceEvent (V := V) i (.thinking s))) =
      { a with reasoning := a.reasoning ++ String.join pieces } := by
  induction pieces generalizing a with
  | nil => simp
  | cons p pieces ih =>
    have hp : a.addConverted
        (streamResponseClaude2OpenAI (pieceEvent (V := V) i (.thinking s) p)) =
        { a with reasoning := a.reasoning ++ p } := by
      simp [streamResponseClaude2OpenAI, pieceEvent, Block.piece, addConverted_chunkOf_nil,
        ChoiceDelta.getContentString, ChoiceDelta.getReasoningContent]
    rw [List.map_cons, addEvents_cons, hp, ih, String.join_cons, String.append_assoc]

/-- The pieces of the input of a tool whose entry is the last one. -/
theorem addEvents_inputPieces (a : Assembled) (i : Nat) (id name : String) (input : V)
    (call : ToolCallResponse) (calls : List (Nat × ToolCallResponse))
    (hi : i ∉ Keyed.keys calls) (ha : a.toolCalls = calls ++ [(i, call)])
    (pieces : List String) :
    a.addEvents (pieces.map (pieceEvent i (.toolUse id name input))) =
      { a with toolCalls := calls ++ [(i, { call with function := { call.function with
        arguments := call.function.arguments ++ String.join pieces } })] } := by
  induction pieces generalizing a call with
  | nil => simp [← ha]
  | cons p pieces ih =>
    let call' : ToolCallResponse := { call with function := { call.function with
      arguments := call.function.arguments ++ p } }
    have hp : a.addConverted
        (streamResponseClaude2OpenAI (pieceEvent i (.toolUse id name input) p)) =
        { a with toolCalls := calls ++ [(i, call')] } := by
      have hmem : i ∈ Keyed.keys (calls ++ [(i, call)]) := by simp
      have hconv : streamResponseClaude2OpenAI (pieceEvent i (.toolUse id name input) p) =
          chunkOf { object := "chat.completion.chunk" } {}
            [{ index := some i, type := "function", function := { arguments := p } }] := rfl
      rw [hconv, addConverted_chunkOf_tool a _ _ _ rfl rfl, ha, Option.getD_some, Keyed.add,
        if_pos hmem, Keyed.extend_last _ _ hi]
      rfl
    rw [List.map_cons, addEvents_cons, hp, ih _ call' rfl, String.join_cons]
    simp [call', String.append_assoc]

/-- The events of a block with a new index. -/
theorem addEvents_blockEvents (a : Assembled) (i : Nat) (b : Block V) (pieces : List String)
    (hi : i ∉ Keyed.keys a.toolCalls) :
    a.addEvents (blockEvents json i b pieces) = a.addBlock i pieces b := by
  have hstop (a : Assembled) : a.addEvents
      [({ type := .contentBlockStop, index := some i } : ClaudeResponse V)] = a := rfl
  rw [blockEvents, List.cons_append, addEvents_cons, addEvents_append, hstop]
  cases b with
  | text s =>
    rw [addEvents_textPieces]
    simp [streamResponseClaude2OpenAI, Block.opening, addConverted_chunkOf_nil,
      ChoiceDelta.getContentString, ChoiceDelta.getReasoningContent, Assembled.addBlock]
  | thinking s =>
    rw [addEvents_thinkingPieces]
    simp [streamResponseClaude2OpenAI, Block.opening, addConverted_chunkOf_nil,
      ChoiceDelta.getContentString, ChoiceDelta.getReasoningContent, Assembled.addBlock]
  | toolUse id name input =>
    let call : ToolCallResponse := { index := some i, id, type := "function", function := { name } }
    have hconv : streamResponseClaude2OpenAI
        { type := .contentBlockStart, index := some i
          contentBlock := some ((Block.toolUse id name input).opening json) } =
        chunkOf { object := "chat.completion.chunk" } {} [call] := rfl
    have hopen : Keyed.add mergeToolCall (call.index.getD 0) call a.toolCalls =
        a.toolCalls ++ [(i, call)] := Keyed.add_of_notMem _ _ hi
    rw [hconv, addConverted_chunkOf_tool a _ _ call rfl rfl, hopen,
      addEvents_inputPieces _ i id name input call a.toolCalls hi rfl]
    simp [Assembled.addBlock, call]

/-- What the client has after blocks numbered from `i` on. -/
def Assembled.addBlocks (a : Assembled) : Nat → List (Block V × List String) → Assembled
  | _, [] => a
  | i, (b, pieces) :: rest => (a.addBlock i pieces b).addBlocks (i + 1) rest

/-- The events of numbered blocks, the indexes before them being taken. -/
theorem addEvents_contentEvents (a : Assembled) (i : Nat) (l : List (Block V × List String))
    (hi : ∀ k ∈ Keyed.keys a.toolCalls, k < i) :
    a.addEvents (contentEvents json i l) = a.addBlocks i l := by
  induction l generalizing a i with
  | nil => rfl
  | cons bp l ih =>
    obtain ⟨b, pieces⟩ := bp
    have hnew : i ∉ Keyed.keys a.toolCalls := fun h => absurd (hi i h) (Nat.lt_irrefl i)
    rw [contentEvents, addEvents_append, addEvents_blockEvents json a i b pieces hnew,
      Assembled.addBlocks]
    apply ih
    intro k hk
    cases b with
    | text s => exact Nat.lt_succ_of_lt (hi k hk)
    | thinking s => exact Nat.lt_succ_of_lt (hi k hk)
    | toolUse id name input =>
      simp only [Assembled.addBlock, Keyed.keys_append, Keyed.keys_singleton,
        List.mem_append, List.mem_singleton] at hk
      rcases hk with hk | rfl
      · exact Nat.lt_succ_of_lt (hi k hk)
      · exact Nat.lt_succ_self k

/-- The tool calls that blocks numbered from `i` on add. -/
def sentTools : Nat → List (Block V × List String) → List (Nat × ToolCallResponse)
  | _, [] => []
  | i, (.toolUse id name _, pieces) :: rest =>
    (i, { index := some i, id, type := "function"
          function := { name, arguments := String.join pieces } }) :: sentTools (i + 1) rest
  | i, _ :: rest => sentTools (i + 1) rest

theorem addBlocks_toolCalls (a : Assembled) (i : Nat) (l : List (Block V × List String)) :
    (a.addBlocks i l).toolCalls = a.toolCalls ++ sentTools i l := by
  induction l generalizing a i with
  | nil => simp [Assembled.addBlocks, sentTools]
  | cons bp l ih =>
    obtain ⟨b, pieces⟩ := bp
    rw [Assembled.addBlocks, ih]
    cases b <;> simp [Assembled.addBlock, sentTools]

theorem addBlocks_finishReason (a : Assembled) (i : Nat) (l : List (Block V × List String)) :
    (a.addBlocks i l).finishReason = a.finishReason := by
  induction l generalizing a i with
  | nil => rfl
  | cons bp l ih =>
    obtain ⟨b, pieces⟩ := bp
    rw [Assembled.addBlocks, ih]
    cases b <;> rfl

/-- The texts that were sent are those of the message. -/
theorem addBlocks_content (a : Assembled) (i : Nat) {content : List (Block V)}
    {pieces : List (List String)} (hsent : List.Forall₂ (Block.SentAs json) content pieces) :
    (a.addBlocks i (content.zip pieces)).content =
      a.content ++ String.join (content.filterMap Block.text?) := by
  induction hsent generalizing a i with
  | nil => simp [Assembled.addBlocks]
  | @cons b ps content pieces hb _ ih =>
    rw [List.zip_cons_cons, Assembled.addBlocks, ih]
    cases b with
    | text s =>
      have hs : String.join ps = s := hb
      simp [Assembled.addBlock, hs, String.join_cons, String.append_assoc]
    | thinking s => simp [Assembled.addBlock, List.filterMap_cons]
    | toolUse id name input => simp [Assembled.addBlock, List.filterMap_cons]

/-- The thinking that was sent is that of the message. -/
theorem addBlocks_reasoning (a : Assembled) (i : Nat) {content : List (Block V)}
    {pieces : List (List String)} (hsent : List.Forall₂ (Block.SentAs json) content pieces) :
    (a.addBlocks i (content.zip pieces)).reasoning =
      a.reasoning ++ String.join (content.filterMap Block.thinking?) := by
  induction hsent generalizing a i with
  | nil => simp [Assembled.addBlocks]
  | @cons b ps content pieces hb _ ih =>
    rw [List.zip_cons_cons, Assembled.addBlocks, ih]
    cases b with
    | text s => simp [Assembled.addBlock, List.filterMap_cons]
    | thinking s =>
      have hs : String.join ps = s := hb
      simp [Assembled.addBlock, hs, String.join_cons, String.append_assoc]
    | toolUse id name input => simp [Assembled.addBlock, List.filterMap_cons]

/-- Converting a ping gives no chunk, so a stream may be read without its pings. -/
theorem addEvents_filter_ping (a : Assembled) (events : List (ClaudeResponse V)) :
    a.addEvents (events.filter fun e => e.type ≠ .other "ping") = a.addEvents events := by
  induction events generalizing a with
  | nil => rfl
  | cons e events ih =>
    by_cases he : e.type = .other "ping"
    · have hskip : streamResponseClaude2OpenAI e = .skipped := by
        simp [streamResponseClaude2OpenAI, he]
      rw [List.filter_cons_of_neg (by simp [he]), addEvents_cons, hskip]
      exact ih a
    · rw [List.filter_cons_of_pos (by simp [he]), addEvents_cons, addEvents_cons]
      exact ih _

/-- What a client puts together from a streamed message. -/
theorem reassemble_streams {m : ClaudeMessage V} {pieces : List (List String)}
    {events : List (ClaudeResponse V)} (h : Streams json m pieces events) :
    reassemble events =
      { content := String.join (m.content.filterMap Block.text?)
        reasoning := String.join (m.content.filterMap Block.thinking?)
        toolCalls := sentTools 0 (m.content.zip pieces)
        finishReason :=
          if claudeStopReasonToOpenAIFinishReason m.stopReason ≠ "null"
          then some (claudeStopReasonToOpenAIFinishReason m.stopReason) else none } := by
  rw [reassemble, ← addEvents_filter_ping, h.ordered, messageEvents, List.cons_append,
    addEvents_cons, addEvents_append]
  have hstart (message : Option (ClaudeMediaMessage V)) : Assembled.addConverted {}
      (streamResponseClaude2OpenAI { type := .messageStart, message }) = {} := by
    simp [streamResponseClaude2OpenAI, addConverted_chunkOf_nil, ChoiceDelta.getContentString,
      ChoiceDelta.getReasoningContent]
  rw [hstart, addEvents_contentEvents json {} 0 _ (by simp)]
  have hcontent := addBlocks_content json {} 0 h.sent
  have hreasoning := addBlocks_reasoning json {} 0 h.sent
  have htools := addBlocks_toolCalls {} 0 (m.content.zip pieces)
  have hfinish := addBlocks_finishReason {} 0 (m.content.zip pieces)
  generalize Assembled.addBlocks {} 0 (m.content.zip pieces) = a at *
  have hstop (a : Assembled) :
      a.addConverted (streamResponseClaude2OpenAI (V := V) { type := .messageStop }) = a := rfl
  rw [addEvents_cons, addEvents_cons, hstop, addEvents_nil]
  simp [streamResponseClaude2OpenAI, addConverted_chunkOf_nil, ChoiceDelta.getContentString,
    ChoiceDelta.getReasoningContent, hcontent, hreasoning, htools, hfinish]

/-! ## The whole message -/

/-- The loop keeps the last text. -/
theorem collect_responseText (c : Collected) (content : List (Block V)) :
    ((content.map Block.body).foldl (collect json) c).responseText =
      (content.filterMap Block.text?).getLastD c.responseText := by
  induction content generalizing c with
  | nil => rfl
  | cons b content ih =>
    rw [List.map_cons, List.foldl_cons, ih]
    cases b with
    | text s => rw [List.filterMap_cons_some (Block.text?_text s), List.getLastD_cons]; rfl
    | thinking s => rw [List.filterMap_cons_none (Block.text?_thinking s)]; rfl
    | toolUse id name input => rw [List.filterMap_cons_none (Block.text?_toolUse id name input)]; rfl

/-- It keeps the last thinking. -/
theorem collect_thinkingContent (c : Collected) (content : List (Block V)) :
    ((content.map Block.body).foldl (collect json) c).thinkingContent =
      (content.filterMap Block.thinking?).getLastD c.thinkingContent := by
  induction content generalizing c with
  | nil => rfl
  | cons b content ih =>
    rw [List.map_cons, List.foldl_cons, ih]
    cases b with
    | text s => rw [List.filterMap_cons_none (Block.thinking?_text s)]; rfl
    | thinking s => rw [List.filterMap_cons_some (Block.thinking?_thinking s), List.getLastD_cons]; rfl
    | toolUse id name input =>
      rw [List.filterMap_cons_none (Block.thinking?_toolUse id name input)]; rfl

/-- The call that a block of the whole message is turned into. -/
def wholeTool : Block V → Option ToolCallResponse
  | .toolUse id name input =>
    some { id, type := "function", function := { name, arguments := json.marshal input } }
  | _ => none

/-- It keeps every call. -/
theorem collect_tools (c : Collected) (content : List (Block V)) :
    ((content.map Block.body).foldl (collect json) c).tools =
      c.tools ++ content.filterMap (wholeTool json) := by
  induction content generalizing c with
  | nil => simp
  | cons b content ih =>
    rw [List.map_cons, List.foldl_cons, ih]
    cases b with
    | text s => rw [List.filterMap_cons_none rfl]; rfl
    | thinking s => rw [List.filterMap_cons_none rfl]; rfl
    | toolUse id name input => simp [collect, Block.body, wholeTool]

/-- The thinking of the first block, if it is a thinking block. -/
def firstThinking : List (Block V) → String
  | .thinking s :: _ => s
  | _ => ""

/-- What a client reads in the completion of a whole message. -/
theorem responseClaude2OpenAI_body (m : ClaudeMessage V) :
    ∃ choice, (responseClaude2OpenAI json m.body).choices = [choice] ∧
      choice.message.content = (m.content.filterMap Block.text?).getLastD "" ∧
      choice.message.reasoningContent.getD "" =
        (if (m.content.filterMap Block.thinking?).getLastD "" ≠ ""
          then (m.content.filterMap Block.thinking?).getLastD "" else firstThinking m.content) ∧
      choice.message.toolCalls = m.content.filterMap (wholeTool json) ∧
      choice.finishReason = claudeStopReasonToOpenAIFinishReason m.stopReason := by
  obtain ⟨id, model, content, stopReason⟩ := m
  refine ⟨_, rfl, ?_, ?_, ?_, rfl⟩
  · show ((content.map Block.body).foldl (collect json) _).responseText = _
    rw [collect_responseText]
    rcases content with - | ⟨_ | _ | _, content⟩
    · rfl
    · simp only [List.filterMap_cons_some (Block.text?_text _), List.getLastD_cons]
    · rfl
    · rfl
  · have hthinking (c : Collected) := collect_thinkingContent json c content
    simp only [ClaudeMessage.body, hthinking]
    split
    · rfl
    · rcases content with - | ⟨s | s | _, content⟩
      · rfl
      · rfl
      · by_cases hs : s.length > 0
        · simp [Block.body, firstThinking, hs]
        · have hempty : s = "" := String.length_eq_zero_iff.mp (by omega)
          simp [Block.body, firstThinking, hempty]
      · rfl
  · show ((content.map Block.body).foldl (collect json) _).tools = _
    rw [collect_tools, List.nil_append]

/-! ## Where the two agree -/

/-- The messages, with the pieces they are sent in, that become the same completion. -/
structure ToldAlike (m : ClaudeMessage V) (pieces : List (List String)) : Prop where
  /-- No text or thinking block comes before a tool_use block. -/
  tools_first : m.content.Pairwise fun a b => b.isToolUse → a.isToolUse
  /-- Only the last text block has text. -/
  texts : ∀ t ∈ (m.content.filterMap Block.text?).dropLast, t = ""
  /-- Only the last thinking block has text, or only the first block of the message. -/
  thinkings : (∀ t ∈ (m.content.filterMap Block.thinking?).dropLast, t = "") ∨
    ∃ first rest, m.content = .thinking first :: rest ∧
      ∀ t ∈ rest.filterMap Block.thinking?, t = ""
  /-- The input of every tool_use block is sent with some text. -/
  inputs : ∀ sent ∈ m.content.zip pieces, sent.1.isToolUse → String.join sent.2 ≠ ""
  stopReason : m.stopReason ≠ "null"

/-- All texts make up the last one only if it is the only one with text. -/
theorem join_eq_getLastD_iff (ts : List String) :
    String.join ts = ts.getLastD "" ↔ ∀ t ∈ ts.dropLast, t = "" := by
  rcases List.eq_nil_or_concat ts with rfl | ⟨init, last, rfl⟩
  · simp
  · rw [List.concat_eq_append, List.getLastD_concat, List.dropLast_concat,
      Keyed.join_eq_append_iff]

/-- What the whole message keeps of the thinking is all of it. -/
theorem join_thinkings_iff (content : List (Block V)) :
    String.join (content.filterMap Block.thinking?) =
        (if (content.filterMap Block.thinking?).getLastD "" ≠ ""
          then (content.filterMap Block.thinking?).getLastD "" else firstThinking content) ↔
      (∀ t ∈ (content.filterMap Block.thinking?).dropLast, t = "") ∨
        ∃ first rest, content = .thinking first :: rest ∧
          ∀ t ∈ rest.filterMap Block.thinking?, t = "" := by
  rw [← join_eq_getLastD_iff]
  by_cases hlast : (content.filterMap Block.thinking?).getLastD "" = ""
  · rw [if_neg (not_not_intro hlast), hlast]
    match content with
    | [] => simp [firstThinking]
    | .thinking first :: rest =>
      rw [List.filterMap_cons_some (Block.thinking?_thinking first), firstThinking,
        Keyed.join_cons_eq_iff]
      constructor
      · intro h
        exact Or.inr ⟨first, rest, rfl, h⟩
      · rintro (h | ⟨_, _, heq, h⟩)
        · rw [String.join_cons, String.append_eq_empty_iff, Keyed.join_eq_empty_iff] at h
          exact h.2
        · cases heq
          exact h
    | .text _ :: rest => simp [firstThinking]
    | .toolUse .. :: rest => simp [firstThinking]
  · rw [if_pos hlast]
    constructor
    · exact Or.inl
    · rintro (h | ⟨first, rest, rfl, h⟩)
      · exact h
      · rw [List.filterMap_cons_some (Block.thinking?_thinking first)] at hlast ⊢
        rw [List.getLastD_cons] at hlast ⊢
        -- the last one of the others has no text, so there are no others
        cases hrest : rest.filterMap Block.thinking? with
        | nil => simp
        | cons t ts =>
          rw [hrest] at h hlast
          have hmem := List.getLast_mem (List.cons_ne_nil t ts)
          rw [List.getLastD_cons, ← List.getLast_eq_getLastD (List.cons_ne_nil t ts)] at hlast
          exact absurd (h _ hmem) hlast

theorem le_of_mem_keys_sentTools (i : Nat) (l : List (Block V × List String)) :
    ∀ k ∈ Keyed.keys (sentTools i l), i ≤ k := by
  induction l generalizing i with
  | nil => simp [sentTools]
  | cons bp l ih =>
    obtain ⟨b, pieces⟩ := bp
    intro k hk
    cases b with
    | text s => exact Nat.le_of_succ_le (ih (i + 1) k hk)
    | thinking s => exact Nat.le_of_succ_le (ih (i + 1) k hk)
    | toolUse id name input =>
      rcases List.mem_cons.mp hk with rfl | hk
      · exact Nat.le_refl _
      · exact Nat.le_of_succ_le (ih (i + 1) k hk)

/-- Without a call there is nothing to send. -/
theorem sentTools_eq_nil_iff (i : Nat) (l : List (Block V × List String)) :
    sentTools i l = [] ↔ ∀ sent ∈ l, ¬ sent.1.isToolUse := by
  induction l generalizing i with
  | nil => simp [sentTools]
  | cons bp l ih =>
    obtain ⟨b, pieces⟩ := bp
    cases b <;> simp [sentTools, Block.isToolUse, ih]

/-- If the first index is not used, the indexes start too late unless there are none. -/
theorem keys_sentTools_succ_iff (i : Nat) (l : List (Block V × List String)) :
    Keyed.keys (sentTools (i + 1) l) = List.range' i (sentTools (i + 1) l).length ↔
      sentTools (i + 1) l = [] := by
  constructor
  · intro h
    cases hs : sentTools (i + 1) l with
    | nil => rfl
    | cons e es =>
      have hfirst : i ∈ Keyed.keys (sentTools (i + 1) l) := by
        rw [h, hs]
        simp [List.range'_succ]
      have := le_of_mem_keys_sentTools (i + 1) l i hfirst
      omega
  · intro h
    simp [h]

/-- The indexes of the calls have no gap if no other block comes before a call. -/
theorem keys_sentTools_iff (i : Nat) (l : List (Block V × List String)) :
    Keyed.keys (sentTools i l) = List.range' i (sentTools i l).length ↔
      l.Pairwise fun a b => b.1.isToolUse → a.1.isToolUse := by
  induction l generalizing i with
  | nil => simp [sentTools]
  | cons bp l ih =>
    obtain ⟨b, pieces⟩ := bp
    -- after another block the rest may hold no call
    have hother (hb : b.isToolUse = false) (hs : sentTools i ((b, pieces) :: l) =
        sentTools (i + 1) l) :
        Keyed.keys (sentTools i ((b, pieces) :: l)) =
            List.range' i (sentTools i ((b, pieces) :: l)).length ↔
          ((b, pieces) :: l).Pairwise fun a b => b.1.isToolUse → a.1.isToolUse := by
      rw [hs, keys_sentTools_succ_iff, sentTools_eq_nil_iff, List.pairwise_cons]
      constructor
      · intro h
        refine ⟨fun sent hsent htool => absurd htool (h sent hsent), ?_⟩
        exact List.pairwise_of_forall_mem_list fun a _ c hc htool => absurd htool (h c hc)
      · rintro ⟨h, -⟩ sent hsent htool
        have := h sent hsent htool
        simp [hb] at this
    cases b with
    | text s => exact hother rfl rfl
    | thinking s => exact hother rfl rfl
    | toolUse id name input =>
      rw [List.pairwise_cons, ← ih (i + 1)]
      simp [sentTools, Keyed.keys, List.range'_succ, Block.isToolUse]

/-- The calls decode alike if the text of every input was sent. -/
theorem called_sentTools_iff (i : Nat) {content : List (Block V)} {pieces : List (List String)}
    (hsent : List.Forall₂ (Block.SentAs json) content pieces) :
    (sentTools i (content.zip pieces)).map (fun e => called json e.2) =
        (content.filterMap (wholeTool json)).map (called json) ↔
      ∀ sent ∈ content.zip pieces, sent.1.isToolUse → String.join sent.2 ≠ "" := by
  induction hsent generalizing i with
  | nil => simp [sentTools]
  | @cons b ps content pieces hb _ ih =>
    rw [List.zip_cons_cons, List.forall_mem_cons, ← ih (i + 1)]
    cases b with
    | text s => simp [sentTools, wholeTool, Block.isToolUse, List.filterMap_cons]
    | thinking s => simp [sentTools, wholeTool, Block.isToolUse, List.filterMap_cons]
    | toolUse id name input =>
      have hdecode : json.unmarshal (String.join ps) = some input ↔ String.join ps ≠ "" := by
        constructor
        · intro h hempty
          rw [hempty, json.unmarshal_empty] at h
          cases h
        · intro hne
          exact hb.resolve_right fun h => hne h.1
      simp [sentTools, wholeTool, called, Block.isToolUse, json.unmarshal_marshal, hdecode]

/-- For every message and every stream that carries it, an OpenAI client gets the same
    completion either way if and only if the tool_use blocks come first, each with the text of
    its input, at most the last text and the last or the opening thinking have contents, and
    the stop reason is not the text `null`. -/
theorem same_completion_iff (m : ClaudeMessage V) (pieces : List (List String))
    (events : List (ClaudeResponse V)) (h : Streams json m pieces events) :
    (∃ choice, (responseClaude2OpenAI json m.body).choices = [choice] ∧
      SameCompletion json (reassemble events) choice) ↔ ToldAlike m pieces := by
  obtain ⟨choice, hchoices, hcontent, hreasoning, htools, hfinish⟩ :=
    responseClaude2OpenAI_body json m
  have hmap : (m.content.zip pieces).map Prod.fst = m.content :=
    List.map_fst_zip (Nat.le_of_eq h.sent.length_eq)
  have hindexes : Keyed.keys (sentTools 0 (m.content.zip pieces)) =
      List.range (sentTools 0 (m.content.zip pieces)).length ↔
      m.content.Pairwise fun a b => b.isToolUse → a.isToolUse := by
    rw [List.range_eq_range', keys_sentTools_iff]
    conv_rhs => rw [← hmap]
    rw [List.pairwise_map]
  have hreason := claudeStopReasonToOpenAIFinishReason_eq_null_iff m.stopReason
  rw [hchoices, reassemble_streams json h]
  constructor
  · rintro ⟨_, heq, same⟩
    cases heq
    exact {
      tools_first := hindexes.mp same.indexes
      texts := (join_eq_getLastD_iff _).mp (same.content.trans hcontent)
      thinkings := (join_thinkings_iff _).mp (same.reasoning.trans hreasoning)
      inputs := (called_sentTools_iff json 0 h.sent).mp (same.toolCalls.trans (by rw [htools]))
      stopReason := by
        intro hnull
        have := same.finishReason.trans hfinish
        rw [if_neg (not_not_intro (hreason.mpr hnull)), hreason.mpr hnull] at this
        simp at this }
  · intro alike
    exact ⟨choice, rfl, {
      content := ((join_eq_getLastD_iff _).mpr alike.texts).trans hcontent.symm
      reasoning := ((join_thinkings_iff _).mpr alike.thinkings).trans hreasoning.symm
      indexes := hindexes.mpr alike.tools_first
      toolCalls := by
        rw [htools]
        exact (called_sentTools_iff json 0 h.sent).mpr alike.inputs
      finishReason := by
        rw [if_pos (mt hreason.mp alike.stopReason), hfinish]
        rfl }⟩

/-- A codec whose values are their own compact texts. -/
@[reducible] def compactTexts : JsonCodec { s : String // s ≠ "" } where
  emptyObject := ⟨"\x7b\x7d", by decide⟩
  string s := ⟨"\"" ++ s ++ "\"", by simp⟩
  mapOf k v := ⟨"\x7b\"" ++ k ++ "\":" ++ v.1 ++ "\x7d", by simp⟩
  marshal v := v.1
  unmarshal s := if h : s ≠ "" then some ⟨s, h⟩ else none
  unmarshalMap s := if h : s ≠ "" then some ⟨s, h⟩ else none
  unmarshal_marshal v := by simp [v.2]
  unmarshal_empty := by simp
  unmarshalMap_empty := by simp
  string_ne_emptyObject s h := by
    have := congrArg (·.toList.head?) (Subtype.ext_iff.mp h)
    simp at this

/-- A call of the weather tool, then an answer, sent in two pieces each. -/
def weatherMessage : ClaudeMessage { s : String // s ≠ "" } :=
  { id := "msg_1", model := "claude"
    content := [.toolUse "toolu_1" "weather" ⟨"\x7b\"city\":\"Paris\"\x7d", by decide⟩, .text "Looking."]
    stopReason := "tool_use" }

def weatherPieces : List (List String) := [["\x7b\"city\":", "\"Paris\"\x7d"], ["Look", "ing."]]

theorem same_completion_weather :
    ∃ choice, (responseClaude2OpenAI compactTexts weatherMessage.body).choices = [choice] ∧
      SameCompletion compactTexts
        (reassemble (messageEvents compactTexts weatherMessage weatherPieces)) choice := by
  refine (@same_completion_iff _ compactTexts weatherMessage weatherPieces _ ⟨?_, ?_⟩).mpr
    ⟨?_, ?_, ?_, ?_, ?_⟩
  · exact .cons (.inl (by decide)) (.cons (show String.join _ = _ by decide) .nil)
  · decide
  · decide
  · decide
  · left; decide
  · decide
  · decide

/-- An answer before a call: streamed, the call has index 1 and there is none at index 0. -/
theorem tool_index_skips_text :
    ¬ ∀ (m : ClaudeMessage { s : String // s ≠ "" }) (pieces : List (List String))
        (events : List (ClaudeResponse { s : String // s ≠ "" })),
        Streams compactTexts m pieces events →
        ∃ choice, (responseClaude2OpenAI compactTexts m.body).choices = [choice] ∧
          SameCompletion compactTexts (reassemble events) choice := by
  intro h
  let m : ClaudeMessage { s : String // s ≠ "" } :=
    { content := [.text "Looking.", .toolUse "toolu_1" "now" ⟨"\x7b\x7d", by decide⟩]
      stopReason := "tool_use" }
  let pieces : List (List String) := [["Looking."], ["\x7b\x7d"]]
  obtain ⟨choice, -, same⟩ := h m pieces (messageEvents compactTexts m pieces)
    ⟨.cons (show String.join _ = _ by decide) (.cons (.inl (by decide)) .nil),
      by decide⟩
  exact absurd same.indexes (by decide)

end TokenRouter.ClaudeRelay
