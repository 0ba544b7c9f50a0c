import TokenRouter.Spec.ClaudeCompletion

/-!
# OpenAI completions for Gemini clients

`StreamResponseOpenAI2Gemini` converts a stream chunk by chunk, `ResponseOpenAI2Gemini` the
whole completion. What a Gemini client puts together from the one and reads in the other is
compared, choice by choice, with the completion.
-/

namespace TokenRouter.GeminiClient

open Dto Service ClaudeRelay

variable {V : Type}

/-! ## The completion and the client -/

/-- The choices of one index, in the order of the stream. -/
def choicesAt (index : Nat) (chunks : List ChatCompletionsStreamResponse) : List StreamChoice :=
  (chunks.flatMap (·.choices)).filter (·.index = index)

/-- What an OpenAI client puts together for one index. -/
def assembledAt (index : Nat) (chunks : List ChatCompletionsStreamResponse) : Assembled :=
  (choicesAt index chunks).foldl Assembled.addChoice {}

/-- The chunks carry the completion: each of its choices is what an OpenAI client puts together
    for its index, tool calls in the order in which they were opened. -/
structure CutInto (completion : OpenAITextResponse)
    (chunks : List ChatCompletionsStreamResponse) : Prop where
  nodup : (completion.choices.map (·.index)).Nodup
  indexes : ∀ chunk ∈ chunks, ∀ choice ∈ chunk.choices,
    choice.index ∈ completion.choices.map (·.index)
  content : ∀ choice ∈ completion.choices,
    (assembledAt choice.index chunks).content = choice.message.content
  functions : ∀ choice ∈ completion.choices,
    (assembledAt choice.index chunks).toolCalls.map (·.2.function) =
      choice.message.toolCalls.map (·.function)

/-- What a Gemini client reads of one candidate. -/
structure Answer (V : Type) where
  text : String := ""
  functionCalls : List (FunctionCall V) := []
deriving DecidableEq

/-- The parts of the candidates of one index in a row of responses. -/
def partsAt (index : Nat) (responses : List (GeminiChatResponse V)) : List (GeminiPart V) :=
  ((responses.flatMap (·.candidates)).filter (·.index = index)).flatMap (·.parts)

/-- Texts are put together, function calls are collected. -/
def answerOfParts (parts : List (GeminiPart V)) : Answer V :=
  { text := String.join (parts.map (·.text)), functionCalls := parts.filterMap (·.functionCall) }

/-- The answer at one index in a row of responses. -/
def answerAt (index : Nat) (responses : List (GeminiChatResponse V)) : Answer V :=
  answerOfParts (partsAt index responses)

/-- Everything a choice of the completion contains. -/
def answerOf (json : JsonCodec V) (choice : OpenAITextResponseChoice) : Answer V :=
  { text := choice.message.content
    functionCalls := choice.message.toolCalls.map fun t => geminiFunctionCall json t.function }

/-- The responses to a stream. -/
def streamed (json : JsonCodec V) (estimatePromptTokens : Int)
    (chunks : List ChatCompletionsStreamResponse) : List (GeminiChatResponse V) :=
  chunks.filterMap (streamResponseOpenAI2Gemini json estimatePromptTokens)

/-- Streamed or not, the client reads the same at every index, and all of the completion. -/
structure SameAnswer (json : JsonCodec V) (estimatePromptTokens : Int)
    (completion : OpenAITextResponse) (chunks : List ChatCompletionsStreamResponse) : Prop where
  same : ∀ index, answerAt index (streamed json estimatePromptTokens chunks) =
    answerAt index [responseOpenAI2Gemini json completion]
  complete : ∀ choice ∈ completion.choices,
    answerAt choice.index [responseOpenAI2Gemini json completion] = answerOf json choice

/-- The fragments of tool calls in the choices of a stream, with the call they belong to. -/
def fragments (choices : List StreamChoice) : List (Nat × ToolCallResponse) :=
  choices.flatMap fun choice =>
    (choice.delta.toolCalls.getD []).map fun t => (t.index.getD 0, t)

/-- The choice has text or tool calls but not both, no delta with text has a list of tool
    calls, and every call comes in one fragment. -/
structure Unbroken (choice : OpenAITextResponseChoice)
    (chunks : List ChatCompletionsStreamResponse) : Prop where
  apart : choice.message.content = "" ∨ choice.message.toolCalls = []
  text : ∀ c ∈ choicesAt choice.index chunks,
    c.delta.getContentString ≠ "" → c.delta.toolCalls = none
  oneFragment : (Keyed.keys (fragments (choicesAt choice.index chunks))).Nodup

/-! ## What the OpenAI client puts together -/

/-- The content put together is that of all deltas. -/
theorem content_foldl_addChoice (a : Assembled) (choices : List StreamChoice) :
    (choices.foldl Assembled.addChoice a).content =
      a.content ++ String.join (choices.map (·.delta.getContentString)) := by
  induction choices generalizing a with
  | nil => simp
  | cons c choices ih =>
    rw [List.foldl_cons, ih, List.map_cons, String.join_cons, ← String.append_assoc]
    rfl

/-- The tool calls put together are those of all fragments. -/
theorem toolCalls_foldl_addChoice (a : Assembled) (choices : List StreamChoice) :
    (choices.foldl Assembled.addChoice a).toolCalls =
      (fragments choices).foldl (fun l e => Keyed.add mergeToolCall e.1 e.2 l) a.toolCalls := by
  induction choices generalizing a with
  | nil => rfl
  | cons c choices ih =>
    rw [List.foldl_cons, ih]
    simp only [fragments, List.flatMap_cons, List.foldl_append, List.foldl_map]
    rfl

/-! ## What the Gemini client reads -/

theorem answerOfParts_append (p q : List (GeminiPart V)) :
    answerOfParts (p ++ q) =
      { text := (answerOfParts p).text ++ (answerOfParts q).text
        functionCalls := (answerOfParts p).functionCalls ++ (answerOfParts q).functionCalls } := by
  simp [answerOfParts]

/-- The parts made of a message or a delta: with a list of tool calls there is no text. -/
theorem answerOfParts_geminiParts (json : JsonCodec V) (toolCalls : Option (List ToolCallResponse))
    (textContent : String) :
    answerOfParts (geminiParts json toolCalls textContent) =
      { text := if toolCalls.isNone then textContent else ""
        functionCalls := (toolCalls.getD []).map fun t => geminiFunctionCall json t.function } := by
  cases toolCalls with
  | some calls =>
    simp only [geminiParts, answerOfParts, Option.isNone_some, Option.getD_some, List.map_map,
      List.filterMap_map, Answer.mk.injEq]
    constructor
    · -- the parts of the calls have no text
      have hnone : ∀ t ∈ calls.map fun _ => "", t = "" := by simp
      exact (Keyed.join_eq_empty_iff _).mpr hnone
    · exact List.filterMap_eq_map.symm ▸ rfl
  | none =>
    simp only [geminiParts]
    split
    · simp [answerOfParts]
    · rename_i h
      simp only [ne_eq, not_not] at h
      simp [answerOfParts, h]

/-- The parts made of one choice of a chunk. -/
def sentParts (json : JsonCodec V) (c : StreamChoice) : List (GeminiPart V) :=
  geminiParts json c.delta.toolCalls c.delta.getContentString

/-- A choice without content has no parts. -/
theorem sentParts_of_not_hasContent (json : JsonCodec V) {c : StreamChoice}
    (h : ¬ hasContent c) : sentParts json c = [] := by
  simp only [hasContent, Bool.or_eq_true, decide_eq_true_eq, not_or, Nat.not_lt,
    Nat.le_zero] at h
  have htext : c.delta.getContentString = "" := String.length_eq_zero_iff.mp h.1
  have hcalls := List.length_eq_zero_iff.mp h.2
  cases htc : c.delta.toolCalls with
  | none => simp [sentParts, geminiParts, htc, htext]
  | some calls =>
    rw [htc] at hcalls
    have : calls = [] := hcalls
    simp [sentParts, geminiParts, htc, this]

/-- The parts of one converted chunk; a chunk that is skipped has none. -/
theorem partsAt_streamResponse (json : JsonCodec V) (estimatePromptTokens : Int) (index : Nat)
    (chunk : ChatCompletionsStreamResponse) :
    partsAt index (streamResponseOpenAI2Gemini json estimatePromptTokens chunk).toList =
      (chunk.choices.filter (·.index = index)).flatMap (sentParts json) := by
  unfold streamResponseOpenAI2Gemini
  split
  · simp only [Option.toList_some, partsAt, List.flatMap_cons,
      List.flatMap_nil, List.append_nil, List.filter_map, List.flatMap_map]
    rfl
  · rename_i h
    simp only [Bool.or_eq_true, List.any_eq_true, not_or, not_exists, not_and] at h
    have hempty : ∀ c ∈ chunk.choices.filter (·.index = index), sentParts json c = [] :=
      fun c hc => sentParts_of_not_hasContent json (h.1 c (List.mem_of_mem_filter hc))
    simpa [partsAt] using hempty

/-- The parts of a converted stream, choice by choice. -/
theorem partsAt_streamed (json : JsonCodec V) (estimatePromptTokens : Int) (index : Nat)
    (chunks : List ChatCompletionsStreamResponse) :
    partsAt index (streamed json estimatePromptTokens chunks) =
      (choicesAt index chunks).flatMap (sentParts json) := by
  induction chunks with
  | nil => rfl
  | cons chunk chunks ih =>
    have hsplit : streamed json estimatePromptTokens (chunk :: chunks) =
        (streamResponseOpenAI2Gemini json estimatePromptTokens chunk).toList ++
          streamed json estimatePromptTokens chunks := by
      simp only [streamed, List.filterMap_cons]
      cases streamResponseOpenAI2Gemini json estimatePromptTokens chunk <;> rfl
    have happend : ∀ r s : List (GeminiChatResponse V),
        partsAt index (r ++ s) = partsAt index r ++ partsAt index s := by
      simp [partsAt]
    rw [hsplit, happend, ih, partsAt_streamResponse]
    simp [choicesAt]

/-- What the client reads of the streamed choices of one index. -/
theorem answerOfParts_sentParts (json : JsonCodec V) (choices : List StreamChoice) :
    answerOfParts (choices.flatMap (sentParts json)) =
      { text := String.join (choices.map fun c =>
          if c.delta.toolCalls.isNone then c.delta.getContentString else "")
        functionCalls := (fragments choices).map fun e =>
          geminiFunctionCall json e.2.function } := by
  induction choices with
  | nil => rfl
  | cons c choices ih =>
    rw [List.flatMap_cons, answerOfParts_append, ih, sentParts, answerOfParts_geminiParts]
    simp [fragments, Function.comp_def]

/-- What the client reads of a choice of the whole completion. -/
theorem answerAt_whole (json : JsonCodec V) {completion : OpenAITextResponse}
    (hnodup : (completion.choices.map (·.index)).Nodup) {choice : OpenAITextResponseChoice}
    (hmem : choice ∈ completion.choices) :
    answerAt choice.index [responseOpenAI2Gemini json completion] =
      { text := if choice.message.toolCalls = [] then choice.message.content else ""
        functionCalls := choice.message.toolCalls.map fun t =>
          geminiFunctionCall json t.function } := by
  have hfilter := Keyed.filter_key_eq_singleton OpenAITextResponseChoice.index hnodup hmem
  have hparts : partsAt choice.index [responseOpenAI2Gemini json completion] =
      geminiParts json (if choice.message.toolCalls.length > 0 then some choice.message.toolCalls
        else none) choice.message.content := by
    simp only [partsAt, responseOpenAI2Gemini, List.flatMap_cons, List.flatMap_nil,
      List.append_nil, List.filter_map, Function.comp_def, hfilter, List.map_cons, List.map_nil]
  rw [answerAt, hparts, answerOfParts_geminiParts]
  cases hcalls : choice.message.toolCalls <;> simp

/-- At an index without a choice there is nothing to read. -/
theorem answerAt_whole_of_notMem (json : JsonCodec V) {completion : OpenAITextResponse}
    {index : Nat} (h : index ∉ completion.choices.map (·.index)) :
    answerAt index [responseOpenAI2Gemini json completion] = {} := by
  have hfilter : completion.choices.filter (·.index = index) = [] := by
    rw [List.filter_eq_nil_iff]
    intro c hc heq
    exact h (List.mem_map.mpr ⟨c, hc, by simpa using heq⟩)
  simp only [answerAt, partsAt, responseOpenAI2Gemini, List.flatMap_cons, List.flatMap_nil,
    List.append_nil, List.filter_map, Function.comp_def, hfilter, List.map_nil]
  rfl

/-! ## When the answers agree -/

/-- Merging the fragments gives the calls one by one if and only if no call has two of them. -/
theorem fragments_unmerged_iff (json : JsonCodec V) (choices : List StreamChoice) :
    (fragments choices).map (fun e => geminiFunctionCall json e.2.function) =
      (choices.foldl Assembled.addChoice {}).toolCalls.map
        (fun e => geminiFunctionCall json e.2.function) ↔
      (Keyed.keys (fragments choices)).Nodup := by
  rw [toolCalls_foldl_addChoice]
  constructor
  · intro h
    have hlen := congrArg List.length h
    simp only [List.length_map] at hlen
    exact (Keyed.nodup_of_length_foldl_add mergeToolCall _ [] (by simpa using hlen.symm)).1
  · intro h
    rw [Keyed.foldl_add_eq_append mergeToolCall _ [] (by simpa using h)]
    rfl

/-- One choice: streamed and whole agree with the completion exactly if it was not broken. -/
theorem answers_agree_iff (json : JsonCodec V) (estimatePromptTokens : Int)
    {completion : OpenAITextResponse} {chunks : List ChatCompletionsStreamResponse}
    (hcut : CutInto completion chunks) {choice : OpenAITextResponseChoice}
    (hmem : choice ∈ completion.choices) :
    (answerAt choice.index (streamed json estimatePromptTokens chunks) = answerOf json choice ∧
      answerAt choice.index [responseOpenAI2Gemini json completion] = answerOf json choice) ↔
      Unbroken choice chunks := by
  have hcontent := hcut.content choice hmem
  have hfunctions := congrArg (List.map (geminiFunctionCall json)) (hcut.functions choice hmem)
  simp only [List.map_map, Function.comp_def, assembledAt] at hfunctions
  simp only [assembledAt, content_foldl_addChoice, String.empty_append] at hcontent
  rw [answerAt_whole json hcut.nodup hmem, answerAt, partsAt_streamed, answerOfParts_sentParts]
  simp only [answerOf, Answer.mk.injEq, and_true, ← hfunctions, fragments_unmerged_iff,
    ← hcontent, Keyed.join_kept_iff]
  have hapart : (if choice.message.toolCalls = [] then String.join
      ((choicesAt choice.index chunks).map (·.delta.getContentString)) else "") =
      String.join ((choicesAt choice.index chunks).map (·.delta.getContentString)) ↔
      choice.message.content = "" ∨ choice.message.toolCalls = [] := by
    rw [hcontent]
    by_cases h : choice.message.toolCalls = []
    · simp [h]
    · rw [if_neg h]
      exact ⟨fun e => .inl e.symm, fun e => (e.resolve_right h).symm⟩
  rw [hapart]
  simp only [Option.isNone_iff_eq_none]
  constructor
  · rintro ⟨⟨htext, hone⟩, happ⟩
    exact ⟨happ, htext, hone⟩
  · rintro ⟨happ, htext, hone⟩
    exact ⟨⟨htext, hone⟩, happ⟩

/-- For every completion and every stream that carries it, the client reads the same streamed
    or not, and everything the completion contains, if and only if no choice was broken. -/
theorem same_answer_iff (json : JsonCodec V) (estimatePromptTokens : Int)
    (completion : OpenAITextResponse) (chunks : List ChatCompletionsStreamResponse)
    (hcut : CutInto completion chunks) :
    SameAnswer json estimatePromptTokens completion chunks ↔
      ∀ choice ∈ completion.choices, Unbroken choice chunks := by
  constructor
  · intro h choice hmem
    have hwhole := h.complete choice hmem
    exact (answers_agree_iff json estimatePromptTokens hcut hmem).mp
      ⟨(h.same choice.index).trans hwhole, hwhole⟩
  · intro h
    refine ⟨?_, fun choice hmem =>
      ((answers_agree_iff json estimatePromptTokens hcut hmem).mpr (h choice hmem)).2⟩
    intro index
    by_cases hindex : index ∈ completion.choices.map (·.index)
    · obtain ⟨choice, hmem, rfl⟩ := List.mem_map.mp hindex
      obtain ⟨hstream, hwhole⟩ :=
        (answers_agree_iff json estimatePromptTokens hcut hmem).mpr (h choice hmem)
      rw [hstream, hwhole]
    · -- no choice of this index was streamed either
      have hnone : choicesAt index chunks = [] := by
        rw [choicesAt, List.filter_eq_nil_iff]
        intro c hc heq
        obtain ⟨chunk, hchunk, hc⟩ := List.mem_flatMap.mp hc
        exact hindex ((by simpa using heq : c.index = index) ▸ hcut.indexes chunk hchunk c hc)
      rw [answerAt_whole_of_notMem json hindex, answerAt, partsAt_streamed, hnone]
      rfl

/-- A text in two chunks, and the chunk that ends it. -/
def helloChunks : List ChatCompletionsStreamResponse :=
  [{ choices := [{ delta := { content := some "Hel", role := "assistant" } }] },
   { choices := [{ delta := { content := some "lo" } }] },
   { choices := [{ finishReason := some "stop" }] }]

/-- The completion of `helloChunks`. -/
def helloCompletion : OpenAITextResponse :=
  { choices := [{ message := { role := "assistant", content := "Hello" }
                  finishReason := "stop" }] }

theorem same_answer_hello :
    SameAnswer compactTexts 12 helloCompletion helloChunks := by
  refine (@same_answer_iff _ compactTexts 12 helloCompletion helloChunks
    ⟨by decide, ?_, ?_, ?_⟩).mpr ?_
  · decide
  · intro choice hmem
    rw [List.mem_singleton.mp hmem]
    decide
  · intro choice hmem
    rw [List.mem_singleton.mp hmem]
    decide
  · intro choice hmem
    rw [List.mem_singleton.mp hmem]
    exact ⟨.inr rfl, by decide, by decide⟩

/-- A chunk with one fragment of a tool call. -/
def fragmentChunk (t : ToolCallResponse) : ChatCompletionsStreamResponse :=
  { choices := [{ delta := { toolCalls := some [t] } }] }

/-- A call of the weather tool, its arguments in two chunks. -/
def weatherChunks : List ChatCompletionsStreamResponse :=
  [fragmentChunk { index := some 0, id := "call_1", type := "function"
                   function := { name := "weather", arguments := "\x7b\"city\":" } },
   fragmentChunk { index := some 0, function := { arguments := "\"Paris\"\x7d" } }]

/-- The completion of `weatherChunks`. -/
def weatherCompletion : OpenAITextResponse :=
  let function : FunctionResponse :=
    { name := "weather", arguments := "\x7b\"city\":\"Paris\"\x7d" }
  { choices := [{ message := { toolCalls := [{ id := "call_1", type := "function", function }] } }] }

/-- The two pieces of the arguments become two function calls. -/
theorem arguments_in_two_calls :
    ¬ ∀ (completion : OpenAITextResponse) (chunks : List ChatCompletionsStreamResponse),
        CutInto completion chunks → SameAnswer compactTexts 12 completion chunks := by
  intro h
  have hcut : CutInto weatherCompletion weatherChunks := by
    refine ⟨by decide, by decide, ?_, ?_⟩
    · intro choice hmem
      rw [List.mem_singleton.mp hmem]
      decide
    · intro choice hmem
      rw [List.mem_singleton.mp hmem]
      decide
  have hlen := congrArg (·.functionCalls.length) ((h weatherCompletion weatherChunks hcut).same 0)
  exact absurd hlen (by decide)

end TokenRouter.GeminiClient
