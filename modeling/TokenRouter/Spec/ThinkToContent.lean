import TokenRouter.Relay.OaiStream

/-!
# Reasoning sent as content

With `ThinkingToContent` the reasoning of a stream is sent as content between two tags. Three flags
are kept between the chunks, so a stream goes through three phases: nothing has been thought, a
thought has been opened, and it has been closed. This module says for which streams the client gets
the reasoning and then the answer.
-/

namespace TokenRouter.OaiStream

variable (lib : StreamLib) (info : StreamInfo)

/-! ## Texts -/

def choicesOf (data : String) : List Dto.StreamChoice :=
  match lib.unmarshalChat data with
  | none => []
  | some r => r.choices

/-- The reasoning of a chunk. -/
def reasoningText (data : String) : List Char :=
  (choicesOf lib data).flatMap (·.delta.getReasoningContent.toList)

/-- The answer text of a chunk. -/
def answerText (data : String) : List Char :=
  (choicesOf lib data).flatMap (·.delta.getContentString.toList)

/-- The content of what is sent. -/
def Sent.content : Sent → List Char
  | .data text => answerText lib text
  | .object r => r.choices.flatMap (·.delta.getContentString.toList)
  | .done => []

/-- The content that `sendStreamData` delivers of a stream. -/
def deliveredContent (chunks : List String) : List Char :=
  (chunks.foldl (sendStreamData lib info) {}).sent.flatMap (Sent.content lib)

def openTag : List Char := ['<', 't', 'h', 'i', 'n', 'k', '>', '\n']

def closeTag : List Char := ['\n', '<', '/', 't', 'h', 'i', 'n', 'k', '>', '\n']

/-- The content that stands for reasoning `r` and answer `a`. -/
def thinkContent (r a : List Char) : List Char :=
  if r = [] then a else openTag ++ (r ++ (closeTag ++ a))

/-- A stream of one answer, whose reasoning comes first: one chunk may carry both. -/
structure ThinkStream (chunks : List String) : Prop where
  oneChoice : ∀ data ∈ chunks, (choicesOf lib data).length ≤ 1
  reasoningFirst : chunks.Pairwise fun c d => answerText lib c ≠ [] → reasoningText lib d = []

/-! ## Phases -/

/-- What the three flags say. -/
inductive Phase where
  | silent | thinking | answering
deriving DecidableEq

def Phase.flags : Phase → ThinkingContentInfo
  | .silent => ⟨true, false, false⟩
  | .thinking => ⟨false, false, true⟩
  | .answering => ⟨false, true, true⟩

/-- The content sent for a chunk with reasoning `r` and answer `a`, and the phase after it. -/
def Phase.next (r a : List Char) : Phase → List Char × Phase
  | .silent => if r ≠ [] then (openTag ++ r, .thinking) else (a, .silent)
  | .thinking =>
    -- an answer closes the thought, and is overwritten by the reasoning of its own chunk
    if a ≠ [] then (closeTag ++ if r ≠ [] then r else a, .answering) else (r, .thinking)
  | .answering => (if r ≠ [] then r else a, .answering)

def Phase.sentText : Phase → List (List Char × List Char) → List Char
  | _, [] => []
  | phase, (r, a) :: rest => (phase.next r a).1 ++ (phase.next r a).2.sentText rest

variable {lib info}

theorem toList_eq_nil_iff {s : String} : s.toList = [] ↔ s = "" := by
  rw [← String.toList_inj]
  rfl

/-- A choice says what its reasoning is overwritten with. -/
theorem content_convertThinking (hasThinking hasContent : Bool) (choice : Dto.StreamChoice) :
    (convertThinking hasThinking hasContent choice).delta.getContentString =
      if choice.delta.getReasoningContent ≠ "" then choice.delta.getReasoningContent
      else choice.delta.getContentString := by
  unfold convertThinking setContent
  split
  · rfl
  · split <;> rfl

theorem content_withContent (s : String) {r : StreamChunk} {choice : Dto.StreamChoice}
    (h : r.choices = [choice]) : (Sent.object (withContent s r)).content lib = s.toList := by
  simp [Sent.content, withContent, h, setContent, Dto.ChoiceDelta.getContentString]

theorem send_content (st : StreamState) (item : Sent) :
    (st.send item).sent.flatMap (Sent.content lib) =
      st.sent.flatMap (Sent.content lib) ++ item.content lib := by
  simp [StreamState.send]

/-- The last loop of `sendStreamData` for a chunk with one choice. -/
theorem convertChoices_one (hasThinking hasContent : Bool) (r : StreamChunk) (st : StreamState)
    (choice : Dto.StreamChoice) :
    let closes := hasContent = true ∧ st.thinking.sendLastThinkingContent = false ∧
      st.thinking.hasSentThinkingContent = true
    let text := if choice.delta.getReasoningContent ≠ "" then choice.delta.getReasoningContent
      else choice.delta.getContentString
    (convertChoices hasThinking hasContent r st [] [choice]).sent.flatMap (Sent.content lib) =
        st.sent.flatMap (Sent.content lib) ++ ((if closes then closeTag else []) ++ text.toList) ∧
      (convertChoices hasThinking hasContent r st [] [choice]).thinking =
        if closes then { st.thinking with sendLastThinkingContent := true } else st.thinking := by
  intro closes text
  have htext : (Sent.object { r with
      choices := [convertThinking hasThinking hasContent choice] }).content lib = text.toList := by
    simp [Sent.content, content_convertThinking, text]
  unfold convertChoices convertChoices
  by_cases hcloses : closes
  · have htag := @content_withContent lib "\n</think>\n" { r with choices := [choice] } _ rfl
    rw [if_pos hcloses, if_pos hcloses, List.nil_append, List.nil_append]
    rw [if_pos hcloses]
    constructor
    · rw [send_content, htext]
      show (st.send _).sent.flatMap _ ++ _ = _
      rw [send_content, htag, List.append_assoc]
      rfl
    · rfl
  · rw [if_neg hcloses, if_neg hcloses, if_neg hcloses, List.nil_append]
    constructor
    · rw [send_content, htext, List.nil_append]
    · rfl

/-- One chunk of a stream is one step of the phases. -/
theorem sendStreamData_phase (hthink : info.thinkingToContent = true) {st : StreamState}
    {phase : Phase} (hphase : st.thinking = phase.flags) {data : String}
    (hone : (choicesOf lib data).length ≤ 1) :
    let next := phase.next (reasoningText lib data) (answerText lib data)
    (sendStreamData lib info st data).sent.flatMap (Sent.content lib) =
        st.sent.flatMap (Sent.content lib) ++ next.1 ∧
      (sendStreamData lib info st data).thinking = next.2.flags := by
  have hsilent : reasoningText lib data = [] → answerText lib data = [] →
      phase.next (reasoningText lib data) (answerText lib data) = ([], phase) := by
    intro hr ha
    rw [hr, ha]
    cases phase <;> rfl
  unfold sendStreamData
  by_cases hdata : data = ""
  · have hnone : choicesOf lib data = [] := by
      rw [choicesOf, hdata, lib.unmarshalChat_empty]
    rw [if_pos hdata, hsilent (by rw [reasoningText, hnone]; rfl) (by rw [answerText, hnone]; rfl)]
    exact ⟨(List.append_nil _).symm, hphase⟩
  have hplain : ¬(info.forceFormat = false ∧ info.thinkingToContent = false) := by simp [hthink]
  have hforced : ¬info.thinkingToContent = false := by simp [hthink]
  rw [if_neg hdata, if_neg hplain]
  cases hchat : lib.unmarshalChat data with
  | none =>
    have hnone : choicesOf lib data = [] := by rw [choicesOf, hchat]
    rw [hsilent (by rw [reasoningText, hnone]; rfl) (by rw [answerText, hnone]; rfl)]
    exact ⟨(List.append_nil _).symm, hphase⟩
  | some r =>
    have hchoices : choicesOf lib data = r.choices := by rw [choicesOf, hchat]
    rw [hchoices] at hone
    simp only [if_neg hforced]
    match hlist : r.choices, hone with
    | [], _ =>
      rw [hlist] at hchoices
      rw [hsilent (by rw [reasoningText, hchoices]; rfl) (by rw [answerText, hchoices]; rfl)]
      simp [Sent.content, hlist, hphase, StreamState.send]
    | [choice], _ =>
      have hreasoning : reasoningText lib data = choice.delta.getReasoningContent.toList := by
        simp [reasoningText, hchoices, hlist]
      have hanswer : answerText lib data = choice.delta.getContentString.toList := by
        simp [answerText, hchoices, hlist]
      have hjoin : String.join ([choice].map (·.delta.getReasoningContent)) =
          choice.delta.getReasoningContent := by
        simp [String.join]
      have hthinks : [choice].any (·.delta.getReasoningContent ≠ "") =
          decide (choice.delta.getReasoningContent ≠ "") := by
        simp
      have hsays : [choice].any (·.delta.getContentString ≠ "") =
          decide (choice.delta.getContentString ≠ "") := by
        simp
      have htoList : ∀ s : String, (s.toList ≠ []) = (s ≠ "") := fun s => by
        rw [ne_eq, toList_eq_nil_iff]
      obtain ⟨hsent, hflags⟩ := @convertChoices_one lib
        (decide (choice.delta.getReasoningContent ≠ ""))
        (decide (choice.delta.getContentString ≠ "")) r st choice
      have hnonempty : ¬[choice] = [] := List.cons_ne_nil _ _
      simp only [hjoin, hthinks, hsays, hreasoning, hanswer, hphase]
      by_cases hopens : phase = .silent ∧ choice.delta.getReasoningContent ≠ ""
      · -- the reasoning opens a thought
        obtain ⟨rfl, hr⟩ := hopens
        have hfirst : Phase.silent.flags.isFirstThinkingContent = true ∧
            decide (choice.delta.getReasoningContent ≠ "") = true := ⟨rfl, decide_eq_true hr⟩
        rw [if_pos hfirst]
        simp only [Phase.next, htoList, if_pos hr]
        refine ⟨?_, rfl⟩
        show (st.send _).sent.flatMap _ = _
        rw [send_content, content_withContent _ hlist, String.toList_append]
        rfl
      · have hfirst : ¬(phase.flags.isFirstThinkingContent = true ∧
            decide (choice.delta.getReasoningContent ≠ "") = true) := by
          intro h
          refine hopens ⟨?_, of_decide_eq_true h.2⟩
          cases phase with
          | silent => rfl
          | thinking => cases h.1
          | answering => cases h.1
        rw [if_neg hfirst, if_neg hnonempty, hsent, hflags, hphase]
        cases phase with
        | silent =>
          have hr : ¬choice.delta.getReasoningContent ≠ "" := fun hr => hopens ⟨rfl, hr⟩
          simp [Phase.flags, Phase.next, htoList, hr]
        | thinking =>
          by_cases ha : choice.delta.getContentString ≠ ""
          · by_cases hr : choice.delta.getReasoningContent ≠ ""
            · simp [Phase.flags, Phase.next, ha, hr]
            · simp [Phase.flags, Phase.next, ha, hr]
          · have hempty := Decidable.not_not.mp ha
            by_cases hr : choice.delta.getReasoningContent ≠ ""
            · simp [Phase.flags, Phase.next, hempty, hr]
            · simp [Phase.flags, Phase.next, hempty, Decidable.not_not.mp hr]
        | answering =>
          by_cases hr : choice.delta.getReasoningContent ≠ ""
          · simp [Phase.flags, Phase.next, hr]
          · simp [Phase.flags, Phase.next, hr]

/-- The content of a stream is what the phases send. -/
theorem run_phase (hthink : info.thinkingToContent = true) {st : StreamState} {phase : Phase}
    (hphase : st.thinking = phase.flags) {chunks : List String}
    (hone : ∀ data ∈ chunks, (choicesOf lib data).length ≤ 1) :
    (chunks.foldl (sendStreamData lib info) st).sent.flatMap (Sent.content lib) =
      st.sent.flatMap (Sent.content lib) ++
        phase.sentText (chunks.map fun data => (reasoningText lib data, answerText lib data)) := by
  induction chunks generalizing st phase with
  | nil => simp [Phase.sentText]
  | cons data chunks ih =>
    obtain ⟨hsent, hflags⟩ := sendStreamData_phase hthink hphase (hone data List.mem_cons_self)
    have hrest := ih hflags fun d hd => hone d (List.mem_cons_of_mem data hd)
    rw [List.foldl_cons, hrest, hsent, List.append_assoc, List.map_cons, Phase.sentText]

/-! ## What the phases send -/

/-- No chunk carries both. -/
def Unmixed (chunks : List (List Char × List Char)) : Prop := ∀ c ∈ chunks, c.1 = [] ∨ c.2 = []

abbrev ReasoningFirst (chunks : List (List Char × List Char)) : Prop :=
  chunks.Pairwise fun c d => c.2 ≠ [] → d.1 = []

theorem flatMap_fst_eq_nil {chunks : List (List Char × List Char)} (h : ∀ c ∈ chunks, c.1 = []) :
    chunks.flatMap Prod.fst = [] := by
  rw [List.flatMap_eq_nil_iff]
  exact h

/-- Without reasoning the answer is sent as it comes. -/
theorem sentText_silent {chunks : List (List Char × List Char)} (h : ∀ c ∈ chunks, c.1 = []) :
    Phase.silent.sentText chunks = chunks.flatMap Prod.snd := by
  induction chunks with
  | nil => rfl
  | cons c chunks ih =>
    have hc : c.1 = [] := h c List.mem_cons_self
    have hrest := ih fun d hd => h d (List.mem_cons_of_mem c hd)
    simp [Phase.sentText, Phase.next, hc, hrest]

theorem sentText_answering {chunks : List (List Char × List Char)} (h : ∀ c ∈ chunks, c.1 = []) :
    Phase.answering.sentText chunks = chunks.flatMap Prod.snd := by
  induction chunks with
  | nil => rfl
  | cons c chunks ih =>
    have hc : c.1 = [] := h c List.mem_cons_self
    have hrest := ih fun d hd => h d (List.mem_cons_of_mem c hd)
    simp [Phase.sentText, Phase.next, hc, hrest]

theorem length_sentText_thinking {chunks : List (List Char × List Char)}
    (h : ∀ c ∈ chunks, c.1 = []) :
    (Phase.thinking.sentText chunks).length ≤
      closeTag.length + (chunks.flatMap Prod.snd).length := by
  induction chunks with
  | nil => simp [Phase.sentText]
  | cons c chunks ih =>
    have hc : c.1 = [] := h c List.mem_cons_self
    have hnone : ∀ d ∈ chunks, d.1 = [] := fun d hd => h d (List.mem_cons_of_mem c hd)
    by_cases ha : c.2 = []
    · have hrest := ih hnone
      simp only [Phase.sentText, Phase.next, hc, ha, ne_eq, not_true_eq_false, if_false,
        List.nil_append, List.flatMap_cons]
      exact hrest
    · simp only [Phase.sentText, Phase.next, hc, ha, ne_eq, not_true_eq_false, if_false,
        not_false_eq_true, if_true, sentText_answering hnone, List.flatMap_cons,
        List.length_append]
      omega

/-- An open thought is closed in front of the answer when there is one and no chunk has both. -/
theorem sentText_thinking_iff {chunks : List (List Char × List Char)} (h : ReasoningFirst chunks) :
    Phase.thinking.sentText chunks =
        chunks.flatMap Prod.fst ++ (closeTag ++ chunks.flatMap Prod.snd) ↔
      chunks.flatMap Prod.snd ≠ [] ∧ Unmixed chunks := by
  induction chunks with
  | nil => simp [Phase.sentText, closeTag]
  | cons c chunks ih =>
    obtain ⟨r, a⟩ := c
    obtain ⟨hfirst, hrest⟩ := List.pairwise_cons.mp h
    by_cases ha : a = []
    · have hsame := ih hrest
      simp only [Phase.sentText, Phase.next, ha, ne_eq, not_true_eq_false, if_false,
        List.flatMap_cons, List.nil_append, List.append_assoc, List.append_cancel_left_eq]
      rw [hsame]
      simp [Unmixed]
    · -- the answer starts here, so no reasoning follows
      have hnone : ∀ d ∈ chunks, d.1 = [] := fun d hd => hfirst d hd ha
      have hanswer := sentText_answering hnone
      have htail : Unmixed chunks := fun d hd => .inl (hnone d hd)
      by_cases hr : r = []
      · simp [Phase.sentText, Phase.next, ha, hr, hanswer, flatMap_fst_eq_nil hnone, Unmixed]
        exact fun c d hd => htail (c, d) hd
      · constructor
        · intro heq
          -- the answer of this chunk is missing
          have hlen := congrArg List.length heq
          have hpos := List.length_pos_iff.mpr ha
          rw [Phase.sentText, Phase.next, if_pos ha, if_pos hr, hanswer] at hlen
          simp only [List.flatMap_cons, flatMap_fst_eq_nil hnone, List.length_append,
            List.length_nil] at hlen
          omega
        · intro hmixed
          rcases hmixed.2 (r, a) List.mem_cons_self with h | h
          · exact absurd h hr
          · exact absurd h ha

theorem sentText_silent_iff {chunks : List (List Char × List Char)} (h : ReasoningFirst chunks) :
    Phase.silent.sentText chunks =
        thinkContent (chunks.flatMap Prod.fst) (chunks.flatMap Prod.snd) ↔
      chunks.flatMap Prod.fst = [] ∨ chunks.flatMap Prod.snd ≠ [] ∧ Unmixed chunks := by
  induction chunks with
  | nil => simp [Phase.sentText, thinkContent]
  | cons c chunks ih =>
    obtain ⟨r, a⟩ := c
    obtain ⟨hfirst, hrest⟩ := List.pairwise_cons.mp h
    by_cases hr : r = []
    · by_cases ha : a = []
      · have hsame := ih hrest
        simp only [Phase.sentText, Phase.next, hr, ha, ne_eq, not_true_eq_false, if_false,
          List.flatMap_cons, List.nil_append]
        rw [hsame]
        simp [Unmixed]
      · have hnone : ∀ d ∈ chunks, d.1 = [] := fun d hd => hfirst d hd ha
        simp [Phase.sentText, Phase.next, hr, thinkContent, flatMap_fst_eq_nil hnone,
          sentText_silent hnone]
    · have hfst : ((r, a) :: chunks).flatMap Prod.fst ≠ [] := by simp [hr]
      rw [thinkContent, if_neg hfst]
      by_cases ha : a = []
      · have hthought := sentText_thinking_iff hrest
        simp only [Phase.sentText, Phase.next, hr, ha, ne_eq, not_false_eq_true, if_true,
          List.flatMap_cons, List.nil_append, List.append_assoc, List.append_cancel_left_eq]
        rw [hthought]
        simp [Unmixed, hr]
      · have hnone : ∀ d ∈ chunks, d.1 = [] := fun d hd => hfirst d hd ha
        constructor
        · intro heq
          -- what this chunk answers is overwritten
          have hlen := congrArg List.length heq
          have hpos := List.length_pos_iff.mpr ha
          have hbound := length_sentText_thinking hnone
          rw [Phase.sentText, Phase.next, if_pos hr] at hlen
          simp only [List.flatMap_cons, flatMap_fst_eq_nil hnone, List.length_append,
            List.length_nil] at hlen
          omega
        · rintro (h | h)
          · exact absurd h hfst
          · rcases h.2 (r, a) List.mem_cons_self with h | h
            · exact absurd h hr
            · exact absurd h ha

/-! ## The delivered content -/

/-- Reasoning and answer reach the client as they are meant to exactly when there is no reasoning,
or there is an answer and no chunk carries both. -/
theorem thinkContent_delivered_iff (lib : StreamLib) (info : StreamInfo) (chunks : List String)
    (hthink : info.thinkingToContent = true) (hstream : ThinkStream lib chunks) :
    deliveredContent lib info chunks =
        thinkContent (chunks.flatMap (reasoningText lib)) (chunks.flatMap (answerText lib)) ↔
      chunks.flatMap (reasoningText lib) = [] ∨
        chunks.flatMap (answerText lib) ≠ [] ∧
          ∀ data ∈ chunks, reasoningText lib data = [] ∨ answerText lib data = [] := by
  have hrun := @run_phase lib info hthink {} .silent rfl _ hstream.oneChoice
  have hfirst : ReasoningFirst
      (chunks.map fun data => (reasoningText lib data, answerText lib data)) :=
    List.pairwise_map.mpr hstream.reasoningFirst
  have hiff := sentText_silent_iff hfirst
  rw [List.flatMap_map, List.flatMap_map] at hiff
  rw [deliveredContent, hrun]
  simp only [List.flatMap_nil, List.nil_append]
  rw [hiff]
  simp [Unmixed]

/-! ## Two streams -/

/-- Chunks with a thought, with an answer, and with the end of one and the start of the other. -/
def decodeThought (data : String) : Option StreamChunk :=
  if data = "thought" then some { choices := [{ delta := { reasoningContent := some "why" } }] }
  else if data = "answer" then some { choices := [{ delta := { content := some "42" } }] }
  else if data = "both" then
    some { choices := [{ delta := { reasoningContent := some "so", content := some "42" } }] }
  else none

def thoughtLib : StreamLib where
  unmarshalChat := decodeThought
  unmarshalCompletions := fun _ => none
  unmarshalUsage := fun data => (decodeThought data).map fun r => r.usage
  unmarshalUsage_of_chat := fun data r h => by simp [h]
  unmarshalChat_empty := by decide
  estimateTokenByModel := fun _ _ => 1
  applyUsagePostProcessing := fun usage _ => usage

def thoughtInfo : StreamInfo where
  relayMode := .chatCompletions
  upstreamModelName := "deepseek-reasoner"
  shouldIncludeUsage := false
  forceFormat := false
  thinkingToContent := true
  estimatePromptTokens := 3

theorem thought_delivered :
    deliveredContent thoughtLib thoughtInfo ["thought", "answer"] =
      thinkContent ['w', 'h', 'y'] ['4', '2'] :=
  (thinkContent_delivered_iff thoughtLib thoughtInfo ["thought", "answer"] rfl
    ⟨by decide, by decide⟩).mpr (.inr (by decide))

/-- The answer that comes with the end of the thought is lost, and that end follows the closing
tag. -/
theorem answer_overwritten :
    ThinkStream thoughtLib ["thought", "both"] ∧
      ["thought", "both"].flatMap (reasoningText thoughtLib) = "whyso".toList ∧
      ["thought", "both"].flatMap (answerText thoughtLib) = "42".toList ∧
      deliveredContent thoughtLib thoughtInfo ["thought", "both"] =
        "<think>\nwhy\n</think>\nso".toList ∧
      thinkContent "whyso".toList "42".toList = "<think>\nwhyso\n</think>\n42".toList := by
  refine ⟨⟨by decide, by decide⟩, ?_⟩
  decide

end TokenRouter.OaiStream
