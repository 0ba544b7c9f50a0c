import TokenRouter.Relay.ChatViaResponses

/-!
# The chunks of a converted stream

Whatever events the Responses API sends, a client that reads the chunks in order finds one start
first, at most one finish reason, calls numbered in the order in which they appear and named once.
A stream that ends without an error has its finish reason and all of the text.

## Key results

- `onEvent_wellFormed`: what one event keeps
- `stream_wellFormed`: every stream of events
-/

namespace TokenRouter.ResponsesRelay

open Dto

/-- The choices of the chunks that were sent. -/
def choicesOf (sent : List ChatCompletionsStreamResponse) : List StreamChoice :=
  sent.flatMap (·.choices)

/-- The calls in the choices. -/
def toolsOf (choices : List StreamChoice) : List ToolCallResponse :=
  choices.flatMap fun choice => choice.delta.toolCalls.getD []

/-- The ids of the calls in the order in which they appear. -/
def callIds (choices : List StreamChoice) : List String :=
  ((toolsOf choices).map (·.id)).eraseDups

/-- How often a call is named. -/
def timesNamed (choices : List StreamChoice) (id : String) : Nat :=
  (toolsOf choices).countP fun tool => tool.id = id ∧ tool.function.name ≠ ""

/-- The finish reasons in the choices. -/
def finishes (choices : List StreamChoice) : Nat := choices.countP (·.finishReason.isSome)

/-- The text in the choices. -/
def textOf (choices : List StreamChoice) : String :=
  String.join (choices.map (·.delta.getContentString))

/-- The choices that were sent and what the handler keeps about them. -/
structure View where
  choices : List StreamChoice
  sentStart : Bool
  sentStop : Bool
  outputText : String
  ids : List String
  nameSent : String → Bool

def ChatStream.view (s : ChatStream) : View :=
  { choices := choicesOf s.sent
    sentStart := s.sentStart
    sentStop := s.sentStop
    outputText := s.outputText
    ids := s.toolCallIndexByID
    nameSent := s.toolCallNameSent }

structure View.WellFormed (v : View) : Prop where
  start : v.choices = if v.sentStart then startChoice :: v.choices.tail else []
  role : ∀ choice ∈ v.choices.tail, choice.delta.role = ""
  stop : finishes v.choices = v.sentStop.toNat
  text : textOf v.choices = v.outputText
  ids : callIds v.choices = v.ids
  index : ∀ tool ∈ toolsOf v.choices, tool.index = some (v.ids.idxOf tool.id)
  name : ∀ id, timesNamed v.choices id = (v.nameSent id).toNat

/-! ## Sending a choice -/

theorem choicesOf_append (responseId model : String) (sent : List ChatCompletionsStreamResponse)
    (choice : StreamChoice) :
    choicesOf (sent ++ [chunkOf responseId model choice]) = choicesOf sent ++ [choice] := by
  simp [choicesOf, chunkOf]

theorem choicesOf_sendChatChunk (responseId : String) (s : ChatStream) (choice : StreamChoice) :
    (s.sendChatChunk responseId choice).view =
      { s.view with choices := s.view.choices ++ [choice] } := by
  simp [ChatStream.sendChatChunk, ChatStream.view, choicesOf, chunkOf]

/-- What the handler keeps about names, arguments and items has no part in the view. -/
theorem view_setMaps (s : ChatStream) (names args canonical : String → String) :
    ChatStream.view { s with
      toolCallNameByID := names
      toolCallArgsByID := args
      toolCallCanonicalIDByItemID := canonical } = s.view := rfl

theorem toolsOf_append (choices : List StreamChoice) (choice : StreamChoice) :
    toolsOf (choices ++ [choice]) = toolsOf choices ++ choice.delta.toolCalls.getD [] := by
  simp [toolsOf]

theorem View.WellFormed.cons {v : View} (h : v.WellFormed) (hstart : v.sentStart = true) :
    v.choices = startChoice :: v.choices.tail :=
  h.start.trans (if_pos hstart)

theorem View.WellFormed.tail_append {v : View} (h : v.WellFormed) (hstart : v.sentStart = true)
    (choice : StreamChoice) : (v.choices ++ [choice]).tail = v.choices.tail ++ [choice] := by
  rw [h.cons hstart]
  rfl

/-- Past the start, a choice without a role and without calls. -/
theorem View.WellFormed.append {v : View} (h : v.WellFormed) (hstart : v.sentStart = true)
    (choice : StreamChoice) (hrole : choice.delta.role = "")
    (htools : choice.delta.toolCalls = none) (hstop : choice.finishReason.isSome = true →
      v.sentStop = false) :
    View.WellFormed { v with
      choices := v.choices ++ [choice]
      sentStop := v.sentStop || choice.finishReason.isSome
      outputText := v.outputText ++ choice.delta.getContentString } := by
  have htail := h.tail_append hstart choice
  have hsame : toolsOf (v.choices ++ [choice]) = toolsOf v.choices := by
    rw [toolsOf_append, htools, Option.getD_none, List.append_nil]
  constructor
  · show v.choices ++ [choice] = if v.sentStart then _ else _
    rw [hstart, if_pos rfl, htail, ← List.cons_append, ← h.cons hstart]
  · intro c hc
    rw [htail, List.mem_append, List.mem_singleton] at hc
    rcases hc with hc | rfl
    · exact h.role c hc
    · exact hrole
  · show finishes (v.choices ++ [choice]) = _
    rw [finishes, List.countP_append, ← finishes, h.stop]
    cases hfinish : choice.finishReason.isSome with
    | false => simp [hfinish]
    | true => simp [hfinish, hstop hfinish]
  · show textOf (v.choices ++ [choice]) = _
    rw [textOf, List.map_append, String.join_append, ← textOf, h.text]
    simp [String.join]
  · show callIds (v.choices ++ [choice]) = _
    rw [callIds, hsame]
    exact h.ids
  · intro tool htool
    rw [hsame] at htool
    exact h.index tool htool
  · intro id
    show timesNamed (v.choices ++ [choice]) id = _
    rw [timesNamed, hsame]
    exact h.name id

/-- Past the start, a call: its id has an index from now on, and its name is not sent again. -/
theorem View.WellFormed.appendTool {v : View} (h : v.WellFormed) (hstart : v.sentStart = true)
    (tool : ToolCallResponse) {ids : List String} (nameSent : String → Bool)
    (hids : ids = if tool.id ∈ v.ids then v.ids else v.ids ++ [tool.id])
    (hindex : tool.index = some (ids.idxOf tool.id))
    (hname : tool.function.name ≠ "" → v.nameSent tool.id = false)
    (hsent : ∀ id, nameSent id = (v.nameSent id || (tool.id = id ∧ tool.function.name ≠ ""))) :
    View.WellFormed
      { { v with ids := ids, nameSent := nameSent } with
        choices := v.choices ++ [{ delta := { toolCalls := some [tool] } }] } := by
  have htail := h.tail_append hstart
  have hmem : ∀ id, id ∈ v.ids ↔ id ∈ (toolsOf v.choices).map (·.id) := by
    intro id
    rw [← h.ids, callIds, List.mem_eraseDups]
  constructor
  · show v.choices ++ [_] = if v.sentStart then _ else _
    rw [hstart, if_pos rfl, htail, ← List.cons_append, ← h.cons hstart]
  · intro c hc
    rw [htail, List.mem_append, List.mem_singleton] at hc
    rcases hc with hc | rfl
    · exact h.role c hc
    · rfl
  · show finishes (v.choices ++ [_]) = _
    rw [finishes, List.countP_append, ← finishes, h.stop]
    simp
  · show textOf (v.choices ++ [_]) = _
    rw [textOf, List.map_append, String.join_append, ← textOf, h.text]
    simp [String.join, ChoiceDelta.getContentString]
  · show callIds (v.choices ++ [_]) = ids
    rw [callIds, toolsOf_append, Option.getD_some, List.map_append, List.eraseDups_append,
      ← callIds, h.ids, hids, List.map_singleton]
    by_cases hold : tool.id ∈ v.ids
    · have hseen := (hmem tool.id).mp hold
      rw [if_pos hold, List.removeAll, List.filter_eq_nil_iff.mpr]
      · simp
      · intro x hx
        simpa [List.mem_singleton.mp hx] using hseen
    · have hnew := mt (hmem tool.id).mpr hold
      rw [if_neg hold, List.removeAll, List.filter_eq_self.mpr]
      · rfl
      · intro x hx
        simpa [List.mem_singleton.mp hx] using hnew
  · intro t ht
    rw [toolsOf_append, Option.getD_some, List.mem_append, List.mem_singleton] at ht
    rcases ht with ht | rfl
    · have hold : t.id ∈ v.ids := (hmem t.id).mpr (List.mem_map_of_mem ht)
      rw [h.index t ht, hids]
      split
      · rfl
      · rw [List.idxOf_append_of_mem hold]
    · exact hindex
  · intro id
    show timesNamed (v.choices ++ [_]) id = _
    show _ = (nameSent id).toNat
    rw [timesNamed, toolsOf_append, Option.getD_some, List.countP_append, ← timesNamed, h.name,
      hsent]
    by_cases hid : tool.id = id ∧ tool.function.name ≠ ""
    · obtain ⟨rfl, hnamed⟩ := hid
      simp [hname hnamed, hnamed]
    · simp [hid]

/-! ## One event -/

section
variable (responseId : String) {s : ChatStream}

theorem sendStartIfNeeded_wellFormed (h : s.view.WellFormed) :
    (s.sendStartIfNeeded responseId).view.WellFormed ∧
      (s.sendStartIfNeeded responseId).sentStart = true := by
  unfold ChatStream.sendStartIfNeeded
  by_cases hstart : s.sentStart = true
  · rw [if_pos hstart]
    exact ⟨h, hstart⟩
  · rw [if_neg hstart]
    -- nothing was sent before the start
    have hnil : s.view.choices = [] := by
      rw [h.start]
      exact if_neg hstart
    have hview : ChatStream.view { s.sendChatChunk responseId startChoice with sentStart := true } =
        { s.view with choices := [startChoice], sentStart := true } := by
      have hsend := congrArg View.choices (choicesOf_sendChatChunk responseId s startChoice)
      rw [hnil] at hsend
      exact congrArg (fun c => { s.view with choices := c, sentStart := true }) hsend
    have hstop := h.stop
    have htext := h.text
    have hids := h.ids
    have hname := h.name
    rw [hnil] at hstop htext hids hname
    rw [hview]
    refine ⟨⟨rfl, ?_, hstop, htext, hids, ?_, hname⟩, rfl⟩
    · intro choice hchoice
      cases hchoice
    · intro tool htool
      cases htool

theorem sendReasoningSummaryDelta_wellFormed (h : s.view.WellFormed) (delta : String) :
    (s.sendReasoningSummaryDelta responseId delta).view.WellFormed := by
  unfold ChatStream.sendReasoningSummaryDelta
  by_cases hdelta : delta = ""
  · rw [if_pos hdelta]
    exact h
  · rw [if_neg hdelta]
    generalize (if s.needsReasoningSummarySeparator then _ else delta) = text
    have hstarted : _ ∧ _ := sendStartIfNeeded_wellFormed responseId
      (s := { s with needsReasoningSummarySeparator := false }) h
    have happend := hstarted.1.append hstarted.2
      { delta := { reasoningContent := some text } } rfl rfl (fun hsome => by cases hsome)
    simp only [ChoiceDelta.getContentString, Option.getD_none, String.append_empty,
      Option.isSome_none, Bool.or_false] at happend
    rw [← choicesOf_sendChatChunk responseId] at happend
    exact happend

/-- The call that is sent: it gets the next index unless it has one. -/
def callOf (s : ChatStream) (callID name argsDelta : String) : ToolCallResponse :=
  { index := some ((if callID ∈ s.toolCallIndexByID then s.toolCallIndexByID
      else s.toolCallIndexByID ++ [callID]).idxOf callID)
    id := callID
    type := "function"
    function := { name, arguments := argsDelta } }

/-- A call is sent with the name known for it unless a name was sent before. -/
theorem sendToolCallDelta_wellFormed (h : s.view.WellFormed) (callID name argsDelta : String) :
    (s.sendToolCallDelta responseId callID name argsDelta).view.WellFormed := by
  unfold ChatStream.sendToolCallDelta
  split
  · exact h
  split
  · exact h
  have hstarted := sendStartIfNeeded_wellFormed responseId h
  generalize s.sendStartIfNeeded responseId = s at hstarted
  dsimp only
  generalize (if name ≠ "" then Function.update s.toolCallNameByID callID name
    else s.toolCallNameByID) = names
  generalize (if names callID ≠ "" then names callID else name) = known
  generalize hsent : (!(decide (known ≠ "") && !s.toolCallNameSent callID)) = nameSent
  cases nameSent with
  | false =>
    have hknown : known ≠ "" ∧ s.toolCallNameSent callID = false := by simpa using hsent
    have happend := hstarted.1.appendTool hstarted.2 (callOf s callID known argsDelta)
      (Function.update s.toolCallNameSent callID true) rfl rfl (fun _ => hknown.2)
      (fun id => by
        by_cases hid : id = callID
        · simp [callOf, hid, hknown.1]
        · simp [callOf, hid, Ne.symm hid, ChatStream.view])
    show View.WellFormed (View.mk (choicesOf (s.sent ++ [chunkOf responseId _ _])) _ _ _ _ _)
    rw [choicesOf_append]
    exact happend
  | true =>
    have happend := hstarted.1.appendTool hstarted.2 (callOf s callID "" argsDelta)
      s.toolCallNameSent rfl rfl (fun hne => absurd rfl hne)
      (fun id => by simp [callOf, ChatStream.view])
    show View.WellFormed (View.mk (choicesOf (s.sent ++ [chunkOf responseId _ _])) _ _ _ _ _)
    rw [choicesOf_append]
    exact happend

theorem onOutputTextDelta_wellFormed (h : s.view.WellFormed) (delta : String) :
    (s.onOutputTextDelta responseId delta).view.WellFormed := by
  unfold ChatStream.onOutputTextDelta
  have hstarted := sendStartIfNeeded_wellFormed responseId h
  by_cases hdelta : delta = ""
  · rw [if_pos hdelta]
    exact hstarted.1
  · rw [if_neg hdelta, choicesOf_sendChatChunk]
    have happend := hstarted.1.append hstarted.2 { delta := { content := some delta } }
      rfl rfl (fun hsome => by cases hsome)
    simp only [Option.isSome_none, Bool.or_false] at happend
    exact happend

theorem onOutputItem_wellFormed (h : s.view.WellFormed) (item : ResponsesOutput) :
    (s.onOutputItem responseId item).view.WellFormed := by
  unfold ChatStream.onOutputItem
  split
  · exact h
  · apply sendToolCallDelta_wellFormed
    split <;> split <;> split <;> simpa only [view_setMaps] using h

theorem onArgumentsDelta_wellFormed (h : s.view.WellFormed) (itemID delta : String) :
    (s.onArgumentsDelta responseId itemID delta).view.WellFormed := by
  unfold ChatStream.onArgumentsDelta
  dsimp only
  generalize (if s.toolCallCanonicalIDByItemID (trimSpace itemID) = "" then trimSpace itemID
    else s.toolCallCanonicalIDByItemID (trimSpace itemID)) = callID
  split
  · exact h
  · apply sendToolCallDelta_wellFormed
    simpa only [view_setMaps] using h

theorem sendStop_wellFormed (h : s.view.WellFormed) (hstart : s.sentStart = true) :
    (s.sendStop responseId).view.WellFormed := by
  unfold ChatStream.sendStop
  by_cases hstop : s.sentStop = true
  · rw [if_pos hstop]
    exact h
  · rw [if_neg hstop]
    have happend := h.append hstart { finishReason := some s.finishReason }
      rfl rfl (fun _ => Bool.eq_false_iff.mpr hstop)
    simp only [ChoiceDelta.getContentString, Option.getD_none, String.append_empty,
      Option.isSome_some, Bool.or_true] at happend
    simpa [ChatStream.sendChatChunk, ChatStream.view, choicesOf, chunkOf] using happend

/-- The end of a stream: the start if there was none, and the stop. -/
theorem finish_wellFormed (h : s.view.WellFormed) :
    ((s.sendStartIfNeeded responseId).sendStop responseId).view.WellFormed :=
  have hstarted := sendStartIfNeeded_wellFormed responseId h
  sendStop_wellFormed responseId hstarted.1 hstarted.2

theorem onEvent_wellFormed (h : s.view.WellFormed) (e : ResponsesStreamResponse) :
    (s.onEvent responseId e).view.WellFormed := by
  unfold ChatStream.onEvent
  split
  · exact h
  split
  case h_1 => split <;> exact h
  case h_2 => exact sendReasoningSummaryDelta_wellFormed responseId h e.delta
  case h_3 => split <;> exact h
  case h_4 => exact onOutputTextDelta_wellFormed responseId h e.delta
  case h_5 | h_6 =>
    split
    · exact onOutputItem_wellFormed responseId h _
    · exact h
  case h_7 => exact onArgumentsDelta_wellFormed responseId h e.itemID e.delta
  case h_8 => exact h
  case h_9 =>
    unfold ChatStream.onCompleted
    apply finish_wellFormed
    split <;> exact h
  case h_10 | h_11 => exact h
  case h_12 => exact h

/-! ## The text -/

/-- The text of an event. -/
def textDelta (e : ResponsesStreamResponse) : String :=
  if e.type = .outputTextDelta then e.delta else ""

@[simp]
theorem sendStartIfNeeded_outputText (s : ChatStream) :
    (s.sendStartIfNeeded responseId).outputText = s.outputText := by
  unfold ChatStream.sendStartIfNeeded
  split <;> rfl

@[simp]
theorem sendStop_outputText (s : ChatStream) :
    (s.sendStop responseId).outputText = s.outputText := by
  unfold ChatStream.sendStop
  split <;> rfl

@[simp]
theorem sendToolCallDelta_outputText (s : ChatStream) (callID name argsDelta : String) :
    (s.sendToolCallDelta responseId callID name argsDelta).outputText = s.outputText := by
  unfold ChatStream.sendToolCallDelta
  split
  · rfl
  split
  · rfl
  · exact sendStartIfNeeded_outputText responseId s

theorem onEvent_outputText (hok : s.streamErr = none) (e : ResponsesStreamResponse) :
    (s.onEvent responseId e).outputText = s.outputText ++ textDelta e := by
  rw [ChatStream.onEvent, if_neg (by simp [hok])]
  split <;> simp only [textDelta, *, reduceCtorEq, if_true, if_false, String.append_empty]
  case h_1 => split <;> rfl
  case h_2 =>
    unfold ChatStream.sendReasoningSummaryDelta
    split
    · rfl
    · exact sendStartIfNeeded_outputText responseId _
  case h_3 => split <;> rfl
  case h_4 =>
    unfold ChatStream.onOutputTextDelta
    by_cases hdelta : e.delta = ""
    · simp [hdelta]
    · simp [hdelta, ChatStream.sendChatChunk]
  case h_5 | h_6 =>
    split
    · unfold ChatStream.onOutputItem
      split
      · rfl
      · rw [sendToolCallDelta_outputText]
        split <;> split <;> split <;> rfl
    · rfl
  case h_7 =>
    unfold ChatStream.onArgumentsDelta
    dsimp only
    generalize (if s.toolCallCanonicalIDByItemID (trimSpace e.itemID) = "" then trimSpace e.itemID
      else s.toolCallCanonicalIDByItemID (trimSpace e.itemID)) = callID
    split
    · rfl
    · rw [sendToolCallDelta_outputText]
  case h_9 =>
    unfold ChatStream.onCompleted
    rw [sendStop_outputText, sendStartIfNeeded_outputText]
    split <;> rfl

theorem onEvents_wellFormed (h : s.view.WellFormed) (events : List ResponsesStreamResponse) :
    (s.onEvents responseId events).view.WellFormed := by
  induction events generalizing s with
  | nil => exact h
  | cons e events ih => exact ih (onEvent_wellFormed responseId h e)

theorem onEvents_of_streamErr (herr : s.streamErr.isSome = true)
    (events : List ResponsesStreamResponse) : s.onEvents responseId events = s := by
  induction events with
  | nil => rfl
  | cons e events ih =>
    show (s.onEvent responseId e).onEvents responseId events = s
    rw [ChatStream.onEvent, if_pos herr, ih]

theorem onEvents_outputText (events : List ResponsesStreamResponse)
    (hok : (s.onEvents responseId events).streamErr = none) :
    (s.onEvents responseId events).outputText =
      s.outputText ++ String.join (events.map textDelta) := by
  induction events generalizing s with
  | nil => exact (String.append_empty).symm
  | cons e events ih =>
    -- after an error the rest of the events changes nothing
    have hs : s.streamErr = none := by
      by_contra herr
      rw [onEvents_of_streamErr responseId (Option.isSome_iff_ne_none.mpr herr)] at hok
      exact herr hok
    show ((s.onEvent responseId e).onEvents responseId events).outputText = _
    rw [ih hok, onEvent_outputText responseId hs, String.append_assoc, List.map_cons,
      String.join_cons]

end

/-! ## The stream -/

theorem initial_wellFormed (model : String) : (ChatStream.view { model }).WellFormed :=
  ⟨rfl, fun _ h => (List.not_mem_nil h).elim, rfl, rfl, rfl,
    fun _ h => (List.not_mem_nil h).elim, fun _ => rfl⟩

theorem sendStop_sentStop (responseId : String) (s : ChatStream) :
    (s.sendStop responseId).sentStop = true := by
  unfold ChatStream.sendStop
  by_cases hstop : s.sentStop = true
  · rw [if_pos hstop, hstop]
  · rw [if_neg hstop]

theorem View.WellFormed.sends {v : View} (h : v.WellFormed) :
    (v.choices = [] ∨ ∃ rest, v.choices = startChoice :: rest ∧
      ∀ choice ∈ rest, choice.delta.role = "") ∧
    finishes v.choices ≤ 1 ∧
    (∀ tool ∈ toolsOf v.choices, tool.index = some ((callIds v.choices).idxOf tool.id)) ∧
    ∀ id, timesNamed v.choices id ≤ 1 := by
  refine ⟨?_, h.stop ▸ Bool.toNat_le _, fun tool htool => h.ids ▸ h.index tool htool,
    fun id => h.name id ▸ Bool.toNat_le _⟩
  cases hstart : v.sentStart with
  | false =>
    left
    rw [h.start, hstart]
    rfl
  | true => exact Or.inr ⟨_, h.cons hstart, h.role⟩

/-- Every stream of events: what its chunks are like, and what a stream without an error is told
    with. -/
theorem stream_wellFormed (responseId upstreamModelName : String)
    (responseText2Usage : String → Usage) (includeUsage : Bool)
    (events : List ResponsesStreamResponse) :
    let result := oaiResponsesToChatStreamHandler responseId upstreamModelName responseText2Usage
      includeUsage events
    let choices := choicesOf result.sent
    (choices = [] ∨ ∃ rest, choices = startChoice :: rest ∧
      ∀ choice ∈ rest, choice.delta.role = "") ∧
    finishes choices ≤ 1 ∧
    (∀ tool ∈ toolsOf choices, tool.index = some ((callIds choices).idxOf tool.id)) ∧
    (∀ id, timesNamed choices id ≤ 1) ∧
    ∀ usage, result.usage = .ok usage →
      finishes choices = 1 ∧ textOf choices = String.join (events.map textDelta) := by
  intro result choices
  let s := ChatStream.onEvents responseId { model := upstreamModelName } events
  have hs : s.view.WellFormed := onEvents_wellFormed responseId (initial_wellFormed _) events
  have hfinish := finish_wellFormed responseId hs
  cases herr : s.streamErr with
  | some err =>
    have hresult : result = { sent := s.sent, usage := .error err } := by
      simp only [result, oaiResponsesToChatStreamHandler]
      rw [show ChatStream.streamErr (ChatStream.onEvents responseId { model := upstreamModelName }
        events) = some err from herr]
    have hchoices : choices = s.view.choices := congrArg (fun r => choicesOf r.sent) hresult
    obtain ⟨hstart, hstop, hindex, hname⟩ := hs.sends
    rw [hchoices, hresult]
    exact ⟨hstart, hstop, hindex, hname, fun usage husage => by cases husage⟩
  | none =>
    have hchoices :
        choices = ((s.sendStartIfNeeded responseId).sendStop responseId).view.choices := by
      simp only [choices, result, oaiResponsesToChatStreamHandler]
      rw [show ChatStream.streamErr (ChatStream.onEvents responseId { model := upstreamModelName }
        events) = none from herr]
      -- the chunk with the usage has no choices
      cases includeUsage <;> simp [ChatStream.view, choicesOf, s]
    obtain ⟨hstart, hstop, hindex, hname⟩ := hfinish.sends
    rw [hchoices]
    refine ⟨hstart, hstop, hindex, hname, fun usage _ => ⟨?_, ?_⟩⟩
    · rw [hfinish.stop]
      exact congrArg Bool.toNat (sendStop_sentStop responseId _)
    · rw [hfinish.text]
      show ((s.sendStartIfNeeded responseId).sendStop responseId).outputText = _
      rw [sendStop_outputText, sendStartIfNeeded_outputText,
        onEvents_outputText responseId events herr, String.empty_append]

end TokenRouter.ResponsesRelay
