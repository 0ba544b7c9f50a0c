import TokenRouter.ForStd.Split
import TokenRouter.Service.ClaudeRequest

/-!
# Conversations of Claude requests

The texts, images, tool calls and tool results of a Claude request are meant to come out of the
conversion once, in order and in the same role. This module says of which requests that is true.
-/

namespace TokenRouter.ClaudeConversion

open Dto

variable {V : Type}

/-! ## What is said -/

/-- What a conversation is made of. -/
inductive Said where
  | text (role text : String)
  | image (role url : String)
  | toolUse (role id name arguments : String)
  | toolResult (id content : String)
deriving DecidableEq

def Said.isToolResult : Said → Bool
  | .toolResult _ _ => true
  | _ => false

/-- The image of a source, as a URL. -/
def imageURL (source : ClaudeMessageSource) : String :=
  if source.type = "url" then source.url else dataURL source

variable (json : JsonText V)

def resultItems (block : ClaudeBlock V) : List Said :=
  if block.type = "tool_result" then
    [.toolResult block.toolUseId (match block.content with
      | .string content => content
      | .value content => json.mediaText content)]
  else []

def callItems (role : String) (block : ClaudeBlock V) : List Said :=
  if block.type = "tool_use" then
    [.toolUse role block.id block.name (json.toJSONString block.input)]
  else []

/-- The texts and images of a block, with `url` for the images. -/
def mediaItems (url : ClaudeMessageSource → String) (role : String) (block : ClaudeBlock V) :
    List Said :=
  if block.type = "text" ∨ block.type = "input_text" then [.text role block.getText]
  else if block.type = "image" then
    match block.source with
    | none => []
    | some source => [.image role (url source)]
  else []

/-- What a block says in a role. -/
def blockItems (role : String) (block : ClaudeBlock V) : List Said :=
  resultItems json block ++ callItems json role block ++ mediaItems imageURL role block

/-- What a Claude message says. -/
def claudeItems (message : ClaudeMessage V) : List Said :=
  match message.content with
  | .null => []
  | .string content => [.text message.role content]
  | .blocks blocks => blocks.flatMap (blockItems json message.role)

/-- What a part of the content of an OpenAI message says. -/
def partItems (role : String) (part : MediaContent) : List Said :=
  match part.imageUrl with
  | some image => [.image role image.url]
  | none => [.text role part.text]

/-- What an OpenAI message says: a tool message the result of a call, any other message its content
    and its calls. -/
def openAIItems (message : RequestMessage) : List Said :=
  if message.role = "tool" then
    [.toolResult message.toolCallId (match message.content with
      | .string content => content
      | _ => "")]
  else
    message.content.parse.flatMap (partItems message.role) ++
      message.toolCalls.map fun call => .toolUse message.role call.id call.name call.arguments

/-- The conversation comes out as it went in, after the system message. -/
def ConversationKept (openRouterClaude : Bool) (req : ClaudeRequest V) : Prop :=
  ∃ converted, claudeToOpenAIMessages json openRouterClaude req =
      some (systemMessages openRouterClaude req.system ++ converted) ∧
    converted.flatMap openAIItems = req.messages.flatMap (claudeItems json)

/-! ## When a message is kept -/

/-- The blocks of a message that the conversion can put into OpenAI messages. -/
structure BlocksKept (role : String) (blocks : List (ClaudeBlock V)) : Prop where
  /-- every image has a source, whose data are the image -/
  images : ∀ block ∈ blocks, block.type = "image" →
    ∃ source, block.source = some source ∧ imageURL source = dataURL source
  /-- no tool call beside a text or an image -/
  alone : (∀ block ∈ blocks, block.type ≠ "tool_use") ∨
    ∀ block ∈ blocks, block.type ≠ "text" ∧ block.type ≠ "input_text" ∧ block.type ≠ "image"
  /-- no tool result behind anything else -/
  resultsFirst : (blocks.flatMap (blockItems json role)).Pairwise fun a b =>
    b.isToolResult = true → a.isToolResult = true

/-! ## The blocks of a message -/

variable {json}

theorem openAIItems_toolMessage (req : ClaudeRequest V) (block : ClaudeBlock V)
    (htype : block.type = "tool_result") :
    openAIItems (toolMessage json req block) = resultItems json block := by
  rw [resultItems, if_pos htype]
  rfl

/-- What the items of a `Collected` are, calls and content in the role of the message. -/
structure Collects (acc : Collected) (role : String) (results calls media : List Said) : Prop where
  results : acc.toolMessages.flatMap openAIItems = results
  calls : (acc.toolCalls.map fun call => Said.toolUse role call.id call.name call.arguments) = calls
  media : acc.mediaMessages.flatMap (partItems role) = media

theorem collectBlock_spec {req : ClaudeRequest V} {role : String} {acc : Collected}
    {results calls media : List Said} (hacc : Collects acc role results calls media)
    (block : ClaudeBlock V) (hsource : block.type = "image" → block.source.isSome) :
    ∃ acc', collectBlock json req acc block = some acc' ∧
      Collects acc' role (results ++ resultItems json block) (calls ++ callItems json role block)
        (media ++ mediaItems dataURL role block) := by
  obtain ⟨rfl, rfl, rfl⟩ := hacc
  by_cases htext : block.type = "text" ∨ block.type = "input_text"
  · refine ⟨_, by rw [collectBlock, if_pos htext], ?_⟩
    rcases htext with htext | htext <;> constructor <;>
      simp [resultItems, callItems, mediaItems, partItems, htext]
  by_cases himage : block.type = "image"
  · obtain ⟨source, hsome⟩ := Option.isSome_iff_exists.mp (hsource himage)
    refine ⟨_, by rw [collectBlock, if_neg htext, if_pos himage, hsome, Option.map_some], ?_⟩
    constructor <;> simp [resultItems, callItems, mediaItems, partItems, himage, hsome]
  by_cases hcall : block.type = "tool_use"
  · refine ⟨_, by rw [collectBlock, if_neg htext, if_neg himage, if_pos hcall], ?_⟩
    constructor <;> simp [resultItems, callItems, mediaItems, hcall]
  by_cases hresult : block.type = "tool_result"
  · refine ⟨_, by rw [collectBlock, if_neg htext, if_neg himage, if_neg hcall, if_pos hresult], ?_⟩
    constructor
    · simp [openAIItems_toolMessage _ _ hresult]
    · simp [callItems, hresult]
    · simp [mediaItems, hresult]
  · refine ⟨acc, by rw [collectBlock, if_neg htext, if_neg himage, if_neg hcall, if_neg hresult], ?_⟩
    constructor <;> simp [resultItems, callItems, mediaItems, htext, himage, hcall, hresult]

/-- What the loop over the blocks collects. -/
theorem collectBlocks_spec {req : ClaudeRequest V} {role : String} {acc : Collected}
    {results calls media : List Said} (hacc : Collects acc role results calls media)
    {blocks : List (ClaudeBlock V)}
    (hsource : ∀ block ∈ blocks, block.type = "image" → block.source.isSome) :
    ∃ acc', collectBlocks json req acc blocks = some acc' ∧
      Collects acc' role (results ++ blocks.flatMap (resultItems json))
        (calls ++ blocks.flatMap (callItems json role))
        (media ++ blocks.flatMap (mediaItems dataURL role)) := by
  induction blocks generalizing acc results calls media with
  | nil => exact ⟨acc, rfl, by simpa using hacc⟩
  | cons block rest ih =>
    obtain ⟨acc', hstep, hacc'⟩ := @collectBlock_spec _ json req _ _ _ _ _ hacc block
      (hsource block List.mem_cons_self)
    obtain ⟨acc'', hrun, hacc''⟩ := ih hacc' fun b hb => hsource b (List.mem_cons_of_mem block hb)
    refine ⟨acc'', by rw [collectBlocks, hstep, Option.bind_some, hrun], ?_⟩
    simpa only [List.flatMap_cons, List.append_assoc] using hacc''

/-- A nil source stops the conversion. -/
theorem collectBlocks_eq_none {req : ClaudeRequest V} {acc : Collected}
    {blocks : List (ClaudeBlock V)} {block : ClaudeBlock V} (hmem : block ∈ blocks)
    (himage : block.type = "image") (hnone : block.source = none) :
    collectBlocks json req acc blocks = none := by
  induction blocks generalizing acc with
  | nil => cases hmem
  | cons b rest ih =>
    rw [collectBlocks]
    rcases List.mem_cons.mp hmem with rfl | hrest
    · have hstop : collectBlock json req acc block = none := by
        simp [collectBlock, himage, hnone]
      rw [hstop, Option.bind_none]
    · cases collectBlock json req acc b with
      | none => rfl
      | some acc' => exact ih hrest

/-! ## One message -/

/-- A message that the conversion writes says what was collected: the results, and the calls if
    there are any, else the content. -/
theorem convertMessage_items {req : ClaudeRequest V} {role : String}
    (hrole : role = "user" ∨ role = "assistant") {blocks : List (ClaudeBlock V)}
    (hsource : ∀ block ∈ blocks, block.type = "image" → block.source.isSome) :
    ∃ converted, convertMessage json req ⟨role, .blocks blocks, hrole⟩ = some converted ∧
      converted.flatMap openAIItems = blocks.flatMap (resultItems json) ++
        if blocks.flatMap (callItems json role) = [] then blocks.flatMap (mediaItems dataURL role)
        else blocks.flatMap (callItems json role) := by
  have hempty : Collects {} role [] [] [] := ⟨rfl, rfl, rfl⟩
  obtain ⟨acc, hrun, hr, hc, hm⟩ := @collectBlocks_spec _ json req _ _ _ _ _ hempty _ hsource
  rw [List.nil_append] at hr hc hm
  have htool : role ≠ "tool" := by rcases hrole with rfl | rfl <;> decide
  refine ⟨_, by rw [convertMessage]; dsimp only; rw [hrun, Option.map_some], ?_⟩
  rw [List.flatMap_append, hr, ← hc, ← hm]
  congr 1
  simp only [List.map_eq_nil_iff]
  cases hcalls : acc.toolCalls with
  | nil =>
    rw [if_pos rfl]
    cases hmedia : acc.mediaMessages with
    | nil => simp [ownMessage, MessageContent.parse]
    | cons part parts => simp [ownMessage, MessageContent.parse, openAIItems, htool]
  | cons call calls => simp [ownMessage, MessageContent.parse, openAIItems, htool]

theorem isToolResult_of_mem_resultItems {block : ClaudeBlock V} {a : Said}
    (h : a ∈ resultItems json block) : a.isToolResult = true := by
  unfold resultItems at h
  split at h
  · obtain rfl := List.mem_singleton.mp h
    rfl
  · cases h

theorem isToolResult_of_mem_callItems {role : String} {block : ClaudeBlock V} {a : Said}
    (h : a ∈ callItems json role block) : a.isToolResult = false := by
  unfold callItems at h
  split at h
  · obtain rfl := List.mem_singleton.mp h
    rfl
  · cases h

theorem isToolResult_of_mem_mediaItems {url : ClaudeMessageSource → String} {role : String}
    {block : ClaudeBlock V} {a : Said} (h : a ∈ mediaItems url role block) :
    a.isToolResult = false := by
  unfold mediaItems at h
  split at h
  · obtain rfl := List.mem_singleton.mp h
    rfl
  split at h
  · split at h
    · cases h
    · obtain rfl := List.mem_singleton.mp h
      rfl
  · cases h

/-- The items of a block, split by kind. -/
theorem blockItems_filter (role : String) (block : ClaudeBlock V) :
    (blockItems json role block).filter Said.isToolResult = resultItems json block ∧
      (blockItems json role block).filter (fun a => !a.isToolResult) =
        callItems json role block ++ mediaItems imageURL role block := by
  have hcall : ∀ a ∈ callItems json role block, ¬a.isToolResult = true := fun a ha => by
    simp [isToolResult_of_mem_callItems ha]
  have hmedia : ∀ a ∈ mediaItems imageURL role block, ¬a.isToolResult = true := fun a ha => by
    simp [isToolResult_of_mem_mediaItems ha]
  unfold blockItems
  constructor
  · rw [List.filter_append, List.filter_append,
      List.filter_eq_self.mpr fun a ha => isToolResult_of_mem_resultItems ha,
      List.filter_eq_nil_iff.mpr hcall, List.filter_eq_nil_iff.mpr hmedia, List.append_nil,
      List.append_nil]
  · have hresult : (resultItems json block).filter (fun a => !a.isToolResult) = [] := by
      rw [List.filter_eq_nil_iff]
      intro a ha
      simp [isToolResult_of_mem_resultItems ha]
    rw [List.filter_append, List.filter_append, hresult, List.nil_append,
      List.filter_eq_self.mpr fun a ha => by simpa using hcall a ha,
      List.filter_eq_self.mpr fun a ha => by simpa using hmedia a ha]

theorem callItems_eq_nil_iff (role : String) (block : ClaudeBlock V) :
    callItems json role block = [] ↔ block.type ≠ "tool_use" := by
  unfold callItems
  split <;> simp_all

theorem mediaItems_eq_nil_iff {url : ClaudeMessageSource → String} (role : String)
    {block : ClaudeBlock V} (hsource : block.type = "image" → block.source.isSome) :
    mediaItems url role block = [] ↔
      block.type ≠ "text" ∧ block.type ≠ "input_text" ∧ block.type ≠ "image" := by
  unfold mediaItems
  split
  · rename_i htext
    rcases htext with htext | htext <;> simp [htext]
  · rename_i htext
    rw [not_or] at htext
    split
    · rename_i himage
      obtain ⟨source, hsome⟩ := Option.isSome_iff_exists.mp (hsource himage)
      simp [hsome, himage]
    · rename_i himage
      simp [htext, himage]

/-- The images of a block come out as they went in. -/
theorem mediaItems_congr (role : String) {block : ClaudeBlock V}
    (hsource : block.type = "image" → block.source.isSome) :
    mediaItems dataURL role block = mediaItems imageURL role block ↔
      (block.type = "image" →
        ∃ source, block.source = some source ∧ imageURL source = dataURL source) := by
  unfold mediaItems
  split
  · rename_i htext
    rcases htext with htext | htext <;> simp [htext]
  · split
    · rename_i himage
      obtain ⟨source, hsome⟩ := Option.isSome_iff_exists.mp (hsource himage)
      simp [hsome, himage, eq_comm]
    · rename_i himage
      simp [himage]

theorem length_mediaItems (role : String) (block : ClaudeBlock V) :
    (mediaItems dataURL role block).length = (mediaItems imageURL role block).length := by
  unfold mediaItems
  split
  · rfl
  · split
    · split <;> rfl
    · rfl

/-- How many items there are of each kind. -/
theorem length_blockItems (role : String) (blocks : List (ClaudeBlock V)) :
    (blocks.flatMap (blockItems json role)).length =
      (blocks.flatMap (resultItems json)).length + (blocks.flatMap (callItems json role)).length +
        (blocks.flatMap (mediaItems imageURL role)).length := by
  induction blocks with
  | nil => rfl
  | cons block rest ih =>
    simp only [List.flatMap_cons, List.length_append, ih, blockItems]
    omega

theorem length_flatMap_mediaItems (role : String) (blocks : List (ClaudeBlock V)) :
    (blocks.flatMap (mediaItems dataURL role)).length =
      (blocks.flatMap (mediaItems imageURL role)).length := by
  induction blocks with
  | nil => rfl
  | cons block rest ih =>
    simp only [List.flatMap_cons, List.length_append, ih, length_mediaItems]

/-- Where the results come first and nothing but results comes with them, what follows them is the
    rest. -/
theorem rest_eq_of_append_eq {role : String} {blocks : List (ClaudeBlock V)} {rest : List Said}
    (hrest : ∀ a ∈ rest, a.isToolResult = false)
    (h : blocks.flatMap (resultItems json) ++ rest = blocks.flatMap (blockItems json role)) :
    rest = blocks.flatMap fun block =>
      callItems json role block ++ mediaItems imageURL role block := by
  have hresults : (blocks.flatMap (resultItems json)).filter (fun a => !a.isToolResult) = [] := by
    rw [List.filter_eq_nil_iff]
    intro a ha
    obtain ⟨block, -, ha⟩ := List.mem_flatMap.mp ha
    simp [isToolResult_of_mem_resultItems ha]
  have hfilter := congrArg (List.filter fun a => !a.isToolResult) h
  rw [List.filter_append, hresults, List.nil_append,
    List.filter_eq_self.mpr fun a ha => by simp [hrest a ha], List.filter_flatMap] at hfilter
  rw [hfilter]
  exact List.flatMap_congr fun block _ => (blockItems_filter role block).2

/-- The results come first exactly when the items are the results and then the rest. -/
theorem resultsFirst_iff (role : String) (blocks : List (ClaudeBlock V)) :
    ((blocks.flatMap (blockItems json role)).Pairwise fun a b =>
        b.isToolResult = true → a.isToolResult = true) ↔
      blocks.flatMap (blockItems json role) = blocks.flatMap (resultItems json) ++
        blocks.flatMap fun block => callItems json role block ++ mediaItems imageURL role block := by
  rw [List.pairwise_first_iff, List.filter_flatMap, List.filter_flatMap,
    List.flatMap_congr fun block _ => (@blockItems_filter _ json role block).1,
    List.flatMap_congr fun block _ => (@blockItems_filter _ json role block).2]

/-- What is written of the blocks is what they say, exactly when they are kept. -/
theorem blocks_eq_iff (role : String) {blocks : List (ClaudeBlock V)}
    (hsource : ∀ block ∈ blocks, block.type = "image" → block.source.isSome) :
    (blocks.flatMap (resultItems json) ++
        if blocks.flatMap (callItems json role) = [] then blocks.flatMap (mediaItems dataURL role)
        else blocks.flatMap (callItems json role)) = blocks.flatMap (blockItems json role) ↔
      BlocksKept json role blocks := by
  have hcallsNil : blocks.flatMap (callItems json role) = [] ↔
      ∀ block ∈ blocks, block.type ≠ "tool_use" := by
    rw [List.flatMap_eq_nil_iff]
    exact forall₂_congr fun block _ => callItems_eq_nil_iff role block
  have hmediaNil : blocks.flatMap (mediaItems imageURL role) = [] ↔ ∀ block ∈ blocks,
      block.type ≠ "text" ∧ block.type ≠ "input_text" ∧ block.type ≠ "image" := by
    rw [List.flatMap_eq_nil_iff]
    exact forall₂_congr fun block hb => mediaItems_eq_nil_iff role (hsource block hb)
  by_cases hcalls : blocks.flatMap (callItems json role) = []
  · -- Only texts and images besides the results.
    rw [if_pos hcalls]
    have hothers : (blocks.flatMap fun block =>
        callItems json role block ++ mediaItems imageURL role block) =
        blocks.flatMap (mediaItems imageURL role) := by
      refine List.flatMap_congr fun block hb => ?_
      rw [(List.flatMap_eq_nil_iff.mp hcalls) block hb, List.nil_append]
    have himages : blocks.flatMap (mediaItems dataURL role) =
        blocks.flatMap (mediaItems imageURL role) ↔ ∀ block ∈ blocks, block.type = "image" →
          ∃ source, block.source = some source ∧ imageURL source = dataURL source := by
      rw [List.flatMap_eq_iff_of_length_le fun block _ => (length_mediaItems role block).le]
      exact forall₂_congr fun block hb => mediaItems_congr role (hsource block hb)
    constructor
    · intro h
      have hmedia : ∀ a ∈ blocks.flatMap (mediaItems dataURL role), a.isToolResult = false := by
        intro a ha
        obtain ⟨block, -, ha⟩ := List.mem_flatMap.mp ha
        exact isToolResult_of_mem_mediaItems ha
      have hrest := rest_eq_of_append_eq hmedia h
      refine ⟨himages.mp (hrest.trans hothers), .inl (hcallsNil.mp hcalls), ?_⟩
      rw [resultsFirst_iff, ← h, hrest]
    · intro hkept
      rw [himages.mpr hkept.images, (resultsFirst_iff role blocks).mp hkept.resultsFirst, hothers]
  · -- The calls take the place of the texts and images.
    rw [if_neg hcalls]
    constructor
    · intro h
      have hcallKind : ∀ a ∈ blocks.flatMap (callItems json role), a.isToolResult = false := by
        intro a ha
        obtain ⟨block, -, ha⟩ := List.mem_flatMap.mp ha
        exact isToolResult_of_mem_callItems ha
      have hrest := rest_eq_of_append_eq hcallKind h
      have hmedia : blocks.flatMap (mediaItems imageURL role) = [] := by
        have hlen := congrArg List.length h
        rw [List.length_append, length_blockItems] at hlen
        exact List.length_eq_zero_iff.mp (by omega)
      have hnone := hmediaNil.mp hmedia
      refine ⟨fun block hb himage => absurd himage (hnone block hb).2.2, .inr hnone, ?_⟩
      rw [resultsFirst_iff, ← h, hrest]
    · intro hkept
      have hnone : blocks.flatMap (mediaItems imageURL role) = [] :=
        hmediaNil.mpr (hkept.alone.resolve_left fun h => hcalls (hcallsNil.mpr h))
      rw [(resultsFirst_iff role blocks).mp hkept.resultsFirst]
      congr 1
      refine List.flatMap_congr fun block hb => ?_
      rw [(List.flatMap_eq_nil_iff.mp hnone) block hb, List.append_nil]

/-! ## The conversation -/

/-- A message is kept: a text always is, blocks under their conditions. -/
def MessageKept (json : JsonText V) (message : ClaudeMessage V) : Prop :=
  match message.content with
  | .blocks blocks => BlocksKept json message.role blocks
  | _ => True

/-- What is written of one message, and that it is no more than the message says. -/
theorem convertMessage_spec (req : ClaudeRequest V) (message : ClaudeMessage V) :
    (convertMessage json req message = none ∧ ¬MessageKept json message) ∨
      ∃ converted, convertMessage json req message = some converted ∧
        (converted.flatMap openAIItems).length ≤ (claudeItems json message).length ∧
        (converted.flatMap openAIItems = claudeItems json message ↔ MessageKept json message) := by
  obtain ⟨role, content, hrole⟩ := message
  have htool : role ≠ "tool" := by rcases hrole with rfl | rfl <;> decide
  cases content with
  | null => exact .inr ⟨[], rfl, le_rfl, iff_of_true rfl trivial⟩
  | string content =>
    have hitems : (ownMessage { role := role, content := .string content }).flatMap openAIItems =
        [Said.text role content] := by
      simp [ownMessage, MessageContent.parse, openAIItems, htool, partItems]
    exact .inr ⟨_, rfl, by rw [hitems]; exact le_rfl, iff_of_true hitems trivial⟩
  | blocks blocks =>
    by_cases hsource : ∀ block ∈ blocks, block.type = "image" → block.source.isSome
    · obtain ⟨converted, hrun, hitems⟩ := @convertMessage_items _ json req _ hrole _
        hsource
      refine .inr ⟨converted, hrun, ?_, ?_⟩
      · have hlen := @length_blockItems _ json role blocks
        have hlenMedia := length_flatMap_mediaItems role blocks
        rw [hitems, claudeItems, List.length_append, hlen]
        split <;> omega
      · rw [hitems]
        exact blocks_eq_iff role hsource
    · push Not at hsource
      obtain ⟨block, hb, himage, hnone⟩ := hsource
      have hnone' : block.source = none := by simpa using hnone
      refine .inl ⟨?_, fun hkept => ?_⟩
      · rw [convertMessage]
        dsimp only
        rw [collectBlocks_eq_none hb himage hnone', Option.map_none]
      · obtain ⟨source, hsome, -⟩ := hkept.images block hb himage
        rw [hnone'] at hsome
        cases hsome

/-- What is written of the messages. -/
theorem convertMessages_spec (req : ClaudeRequest V) (messages : List (ClaudeMessage V)) :
    (convertMessages json req messages = none ∧ ¬∀ m ∈ messages, MessageKept json m) ∨
      ∃ converted, convertMessages json req messages = some converted ∧
        (converted.flatMap openAIItems).length ≤ (messages.flatMap (claudeItems json)).length ∧
        (converted.flatMap openAIItems = messages.flatMap (claudeItems json) ↔
          ∀ m ∈ messages, MessageKept json m) := by
  induction messages with
  | nil => exact .inr ⟨[], rfl, le_rfl, by simp⟩
  | cons message rest ih =>
    rw [convertMessages, List.forall_mem_cons]
    rcases @convertMessage_spec _ json req message with ⟨hnone, hnot⟩ | ⟨first, hfirst, hle, hiff⟩
    · exact .inl ⟨by rw [hnone, Option.bind_none], fun h => hnot h.1⟩
    rcases ih with ⟨hnone, hnot⟩ | ⟨others, hothers, hle', hiff'⟩
    · exact .inl ⟨by rw [hfirst, Option.bind_some, hnone, Option.map_none], fun h => hnot h.2⟩
    refine .inr ⟨first ++ others, by rw [hfirst, Option.bind_some, hothers, Option.map_some], ?_, ?_⟩
    · rw [List.flatMap_append, List.flatMap_cons, List.length_append, List.length_append]
      omega
    · rw [List.flatMap_append, List.flatMap_cons, ← hiff, ← hiff']
      constructor
      · intro h
        have hlen := congrArg List.length h
        rw [List.length_append, List.length_append] at hlen
        exact List.append_inj h (by omega)
      · rintro ⟨h, h'⟩
        rw [h, h']

/-- The conversation comes out as it went in exactly when every message is kept. -/
theorem conversationKept_iff (json : JsonText V) (openRouterClaude : Bool) (req : ClaudeRequest V) :
    ConversationKept json openRouterClaude req ↔ ∀ m ∈ req.messages, MessageKept json m := by
  unfold ConversationKept claudeToOpenAIMessages
  rcases @convertMessages_spec _ json req req.messages with
    ⟨hnone, hnot⟩ | ⟨converted, hrun, -, hiff⟩
  · rw [hnone]
    refine iff_of_false ?_ hnot
    rintro ⟨_, h, -⟩
    cases h
  · rw [hrun, ← hiff]
    constructor
    · rintro ⟨others, h, hitems⟩
      have heq : converted = others := List.append_cancel_left (Option.some.inj h)
      rw [heq]
      exact hitems
    · intro h
      exact ⟨converted, rfl, h⟩

/-! ### A text beside a tool call -/

/-- An assistant turn as Claude clients send it: a text and the call it announces. -/
def weatherTurn : ClaudeMessage Unit where
  role := "assistant"
  content := .blocks
    [{ type := "text", text := some "I look up the weather." },
      { type := "tool_use", id := "toolu_1", name := "get_weather", input := some () }]
  role_valid := by simp

def weatherJson : JsonText Unit where
  toJSONString := fun _ => "\x7b\"city\":\"Paris\"\x7d"
  mediaText := fun _ => "null"

/-- The text is lost. -/
theorem text_beside_call_lost :
    claudeItems weatherJson weatherTurn =
        [.text "assistant" "I look up the weather.",
          .toolUse "assistant" "toolu_1" "get_weather" "\x7b\"city\":\"Paris\"\x7d"] ∧
      (claudeToOpenAIMessages weatherJson false { messages := [weatherTurn] }).map
          (List.flatMap openAIItems) =
        some [.toolUse "assistant" "toolu_1" "get_weather" "\x7b\"city\":\"Paris\"\x7d"] := by
  decide

end TokenRouter.ClaudeConversion
