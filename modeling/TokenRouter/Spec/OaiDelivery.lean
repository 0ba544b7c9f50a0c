import TokenRouter.Relay.OaiStream

/-!
# What a client receives of an OpenAI stream

Every text, reasoning, tool call fragment and finish reason of the upstream is meant to reach the
client once and in order, and a usage only a client that asked for it or got it with content. This
module says of which streams that is true.
-/

namespace TokenRouter.OaiStream

open Dto

variable (lib : StreamLib) (info : StreamInfo)

/-! ## What a chunk says -/

/-- What a chunk says to the client, with the place of the choice. -/
inductive Payload where
  | text (choice : Nat) (s : String)
  | reasoning (choice : Nat) (s : String)
  | toolCall (choice : Nat) (call : ToolCallResponse)
  | finishReason (choice : Nat) (reason : String)
deriving DecidableEq

def choicePayloads (choice : StreamChoice) : List Payload :=
  (if choice.delta.getContentString ≠ "" then [.text choice.index choice.delta.getContentString]
    else []) ++
  (if choice.delta.getReasoningContent ≠ "" then
      [.reasoning choice.index choice.delta.getReasoningContent]
    else []) ++
  (choice.delta.toolCalls.getD []).map (.toolCall choice.index) ++
  match choice.finishReason with
  | none => []
  | some reason => if reason ≠ "" then [.finishReason choice.index reason] else []

def completionsPayloads (index : Nat) (choice : CompletionsChoice) : List Payload :=
  (if choice.text ≠ "" then [.text index choice.text] else []) ++
    if choice.finishReason ≠ "" then [.finishReason index choice.finishReason] else []

/-- What an upstream text says, read as the request's mode has it. -/
def payloads (data : String) : List Payload :=
  match info.relayMode with
  | .completions =>
    match lib.unmarshalCompletions data with
    | none => []
    | some choices => (choices.mapIdx completionsPayloads).flatten
  | _ =>
    match lib.unmarshalChat data with
    | none => []
    | some r => r.choices.flatMap choicePayloads

/-- An upstream text carries a usage. -/
def carriesUsage (data : String) : Prop := ∃ usage, lib.unmarshalUsage data = some (some usage)

namespace Sent

def payloads : Sent → List Payload
  | .data text => OaiStream.payloads lib info text
  | .object r => r.choices.flatMap choicePayloads
  | .done => []

def carriesUsage : Sent → Prop
  | .data text => OaiStream.carriesUsage lib text
  | .object r => r.usage.isSome
  | .done => False

end Sent

/-- The client receives what the upstream says, once and in order. -/
def AllDelivered (chunks : List StreamData) : Prop :=
  (oaiStreamHandler lib info chunks).1.flatMap (Sent.payloads lib info) =
    chunks.flatMap fun c => payloads lib info c.text

/-- The client receives a usage if and only if it asked for one or the upstream attached one to
    content. -/
def UsageAsMeant (chunks : List StreamData) : Prop :=
  (∃ item ∈ (oaiStreamHandler lib info chunks).1, item.carriesUsage lib) ↔
    info.shouldIncludeUsage = true ∨
      ∃ c ∈ chunks, payloads lib info c.text ≠ [] ∧ carriesUsage lib c.text

/-! ## When that is so -/

/-- A text that counts as nothing but usage: the client did not ask for the usage it carries, and
    there is neither text nor reasoning. -/
def CountsAsUsage (data : String) : Prop :=
  info.shouldIncludeUsage = false ∧ ∃ r, lib.unmarshalChat data = some r ∧
    validUsage r.usage = true ∧ ∀ choice ∈ r.choices,
      choice.delta.getContentString = "" ∧ choice.delta.getReasoningContent = ""

/-- A stream whose last chunk says something if it counts as usage is not delivered. -/
def LastSaysNothing (chunks : List StreamData) : Prop :=
  ∀ last, chunks.getLast? = some last → CountsAsUsage lib info last.text →
    payloads lib info last.text = []

/-- A usage that is not in a last chunk that counts as usage comes with content, or another one
    does. -/
def UsageWithContent (chunks : List StreamData) : Prop :=
  ((∃ c ∈ chunks.dropLast, carriesUsage lib c.text) ∨
      ∃ last, chunks.getLast? = some last ∧ ¬CountsAsUsage lib info last.text ∧
        carriesUsage lib last.text) →
    ∃ c ∈ chunks, payloads lib info c.text ≠ [] ∧ carriesUsage lib c.text

/-! ## A run of the handler -/

variable {lib info}

theorem sendStreamData_plain (hforce : info.forceFormat = false)
    (hthink : info.thinkingToContent = false) (st : StreamState) (data : String) :
    sendStreamData lib info st data = if data = "" then st else st.send (.data data) := by
  unfold sendStreamData
  split
  · rfl
  · rw [if_pos ⟨hforce, hthink⟩]

/-- Counting tokens changes neither what is sent nor what is kept. -/
theorem processChoice_frame (st : StreamState) (choices : List StreamChoice) :
    (choices.foldl processChoice st).sent = st.sent ∧
      (choices.foldl processChoice st).lastStreamData = st.lastStreamData ∧
      (choices.foldl processChoice st).secondLastStreamData = st.secondLastStreamData := by
  induction choices generalizing st with
  | nil => exact ⟨rfl, rfl, rfl⟩
  | cons choice choices ih =>
    obtain ⟨hsent, hlast, hsecond⟩ := ih (processChoice st choice)
    rw [List.foldl_cons, hsent, hlast, hsecond]
    unfold processChoice
    dsimp only
    split <;> exact ⟨rfl, rfl, rfl⟩

theorem processTokenData_frame (st : StreamState) (data : String) :
    (processTokenData lib info st data).sent = st.sent ∧
      (processTokenData lib info st data).lastStreamData = st.lastStreamData ∧
      (processTokenData lib info st data).secondLastStreamData = st.secondLastStreamData := by
  unfold processTokenData
  split
  · split
    · exact ⟨rfl, rfl, rfl⟩
    · exact processChoice_frame st _
  · split <;> exact ⟨rfl, rfl, rfl⟩
  · exact ⟨rfl, rfl, rfl⟩

/-- The text that waits for the next one. -/
def held (st : StreamState) : List Sent :=
  if st.lastStreamData = "" then [] else [.data st.lastStreamData]

variable (hforce : info.forceFormat = false) (hthink : info.thinkingToContent = false)
include hforce hthink

/-- A chunk sends the one before it and waits. -/
theorem dataHandler_spec (st : StreamState) (data : StreamData) :
    (dataHandler lib info st data).sent = st.sent ++ held st ∧
      (dataHandler lib info st data).lastStreamData = data.text ∧
      (dataHandler lib info st data).secondLastStreamData =
        if isAudioModel info ∧ st.lastStreamData ≠ "" then st.lastStreamData
        else st.secondLastStreamData := by
  unfold dataHandler held
  by_cases hlast : st.lastStreamData = ""
  · have hskip : ¬st.lastStreamData ≠ "" := fun h => h hlast
    have hskip' : ¬(isAudioModel info = true ∧ st.lastStreamData ≠ "") := fun h => h.2 hlast
    simp only [if_neg hskip, if_neg hskip', if_pos hlast, List.append_nil]
    exact processTokenData_frame _ _
  · have hsend : sendStreamData lib info st st.lastStreamData = st.send (.data st.lastStreamData) := by
      rw [sendStreamData_plain hforce hthink, if_neg hlast]
    have hkeep : (st.send (.data st.lastStreamData)).lastStreamData = st.lastStreamData := rfl
    simp only [if_pos (show st.lastStreamData ≠ "" from hlast), hsend, if_neg hlast, hkeep]
    by_cases haudio : isAudioModel info = true ∧ st.lastStreamData ≠ ""
    · simp only [if_pos haudio]
      exact processTokenData_frame _ _
    · simp only [if_neg haudio]
      exact processTokenData_frame _ _

/-- What has been sent and what waits is what came. -/
theorem run_sent (st : StreamState) (chunks : List StreamData) :
    (Run.run (dataHandler lib info) st chunks).sent ++
        held (Run.run (dataHandler lib info) st chunks) =
      st.sent ++ held st ++ chunks.map fun c => Sent.data c.text := by
  induction chunks generalizing st with
  | nil => simp
  | cons c chunks ih =>
    obtain ⟨hsent, hlast, -⟩ := @dataHandler_spec lib _ hforce hthink st c
    have hheld : held (dataHandler lib info st c) = [.data c.text] := by
      rw [held, hlast, if_neg c.nonempty]
    rw [Run.run_cons, ih, hsent, hheld, List.map_cons, List.append_assoc, List.append_assoc,
      List.append_assoc, List.singleton_append]

/-- The last text but one has been sent. -/
theorem run_secondLast (chunks : List StreamData) :
    let st := Run.run (dataHandler lib info) {} chunks
    st.secondLastStreamData ≠ "" → Sent.data st.secondLastStreamData ∈ st.sent := by
  refine @Run.run_inv StreamState StreamData (dataHandler lib info) (fun st =>
    st.secondLastStreamData ≠ "" → Sent.data st.secondLastStreamData ∈ st.sent) ?_ {} ?_ chunks
  · intro st c ih hne
    obtain ⟨hsent, -, hsecond⟩ := @dataHandler_spec lib _ hforce hthink st c
    rw [hsecond] at hne ⊢
    rw [hsent, List.mem_append]
    split at hne
    · rename_i haudio
      right
      rw [if_pos haudio, held, if_neg haudio.2]
      exact List.mem_singleton_self _
    · rename_i haudio
      left
      rw [if_neg haudio]
      exact ih hne
  · intro h
    exact absurd rfl h

/-! ## The end of the stream -/

/-- What is known of the usage after the last chunk. -/
def finalInfo (lib : StreamLib) (info : StreamInfo) (st : StreamState) : ResponseInfo :=
  handleLastResponse lib info st.lastStreamData
    (audioUsage lib info st { model := info.upstreamModelName })

omit hforce hthink in
theorem audioUsage_cases (st : StreamState) (r : ResponseInfo) :
    (audioUsage lib info st r).shouldSendLastResp = r.shouldSendLastResp ∧
      ((audioUsage lib info st r).containStreamUsage = r.containStreamUsage ∨
        st.secondLastStreamData ≠ "" ∧ carriesUsage lib st.secondLastStreamData) := by
  unfold audioUsage
  split
  · rename_i haudio
    split
    · rename_i usage husage
      split
      · exact ⟨rfl, .inr ⟨haudio.2, usage, husage⟩⟩
      · exact ⟨rfl, .inl rfl⟩
    · exact ⟨rfl, .inl rfl⟩
  · exact ⟨rfl, .inl rfl⟩

omit hforce hthink in
/-- The last text is held back exactly when it counts as usage. -/
theorem finalInfo_shouldSend (st : StreamState) :
    (finalInfo lib info st).shouldSendLastResp = false ↔
      CountsAsUsage lib info st.lastStreamData := by
  have hsend := (@audioUsage_cases lib info st
    { model := info.upstreamModelName }).1
  unfold finalInfo handleLastResponse CountsAsUsage
  cases hchat : lib.unmarshalChat st.lastStreamData with
  | none => simp [hsend]
  | some r =>
    cases hvalid : validUsage r.usage with
    | false => simp [hsend, hvalid]
    | true =>
      cases hinclude : info.shouldIncludeUsage with
      | true => simp [hsend, hvalid]
      | false =>
        simp only [hvalid, if_true, Bool.false_eq_true, if_false, true_and, Option.some.injEq,
          exists_eq_left', List.any_eq_false, Bool.or_eq_true, decide_eq_true_eq, not_or,
          Decidable.not_not]

omit hforce hthink in
/-- Where a usage was found. -/
theorem finalInfo_containUsage (st : StreamState)
    (h : (finalInfo lib info st).containStreamUsage = true) :
    st.lastStreamData ≠ "" ∧ carriesUsage lib st.lastStreamData ∨
      st.secondLastStreamData ≠ "" ∧ carriesUsage lib st.secondLastStreamData := by
  have haudio := (@audioUsage_cases lib info st
    { model := info.upstreamModelName }).2
  unfold finalInfo handleLastResponse at h
  cases hchat : lib.unmarshalChat st.lastStreamData with
  | none =>
    rw [hchat] at h
    right
    rcases haudio with hsame | hfound
    · rw [hsame] at h
      cases h
    · exact hfound
  | some r =>
    rw [hchat] at h
    cases hvalid : validUsage r.usage with
    | true =>
      left
      constructor
      · intro hempty
        rw [hempty, lib.unmarshalChat_empty] at hchat
        cases hchat
      · have husage := lib.unmarshalUsage_of_chat _ _ hchat
        cases hu : r.usage with
        | none =>
          rw [hu] at hvalid
          cases hvalid
        | some usage => exact ⟨usage, by rw [husage, hu]⟩
    | false =>
      right
      rcases haudio with hsame | hfound
      · simp only [hvalid, Bool.false_eq_true, if_false, hsame] at h
      · exact hfound

/-- The state in which the upstream ends. -/
theorem run_concat (init : List StreamData) (last : StreamData) :
    (Run.run (dataHandler lib info) {} (init ++ [last])).sent =
        init.map (fun c => Sent.data c.text) ∧
      (Run.run (dataHandler lib info) {} (init ++ [last])).lastStreamData = last.text := by
  have hinit := @run_sent lib _ hforce hthink {} init
  obtain ⟨hsent, hlast, -⟩ := @dataHandler_spec lib _ hforce hthink
    (Run.run (dataHandler lib info) {} init) last
  rw [Run.run_append, Run.run_cons, Run.run_nil, hsent, hlast, hinit]
  exact ⟨rfl, rfl⟩

/-- The upstream texts that the client receives. -/
def delivered (lib : StreamLib) (info : StreamInfo) (chunks : List StreamData) : List Sent :=
  if (finalInfo lib info (Run.run (dataHandler lib info) {} chunks)).shouldSendLastResp then
    chunks.map fun c => Sent.data c.text
  else chunks.dropLast.map fun c => Sent.data c.text

/-- What the client receives: upstream texts, a usage of its own if it asked for one and none was
    found, and the end. -/
theorem handler_sent (chunks : List StreamData) :
    ∃ r : StreamChunk, r.choices = [] ∧ r.usage.isSome ∧
      (oaiStreamHandler lib info chunks).1 = delivered lib info chunks ++
        (if info.shouldIncludeUsage = true ∧
            (finalInfo lib info
              (Run.run (dataHandler lib info) {} chunks)).containStreamUsage = false then
          [.object r] else []) ++ [.done] := by
  have hall := @run_sent lib _ hforce hthink {} chunks
  have hfirst : ({} : StreamState).sent ++ held {} = [] := rfl
  rw [hfirst, List.nil_append] at hall
  have hskip : (finalInfo lib info
      (Run.run (dataHandler lib info) {} chunks)).shouldSendLastResp = false →
      (Run.run (dataHandler lib info) {} chunks).sent =
        chunks.dropLast.map fun c => Sent.data c.text := by
    intro hsend
    obtain ⟨-, r, hchat, -⟩ := (finalInfo_shouldSend _).mp hsend
    have hne : (Run.run (dataHandler lib info) {} chunks).lastStreamData ≠ "" := by
      intro hempty
      rw [hempty, lib.unmarshalChat_empty] at hchat
      cases hchat
    rw [held, if_neg hne] at hall
    rw [List.map_dropLast, ← hall, List.dropLast_concat]
  unfold oaiStreamHandler delivered
  dsimp only
  generalize hst : Run.run (dataHandler lib info) {} chunks = st at hall hskip ⊢
  have hinfo : handleLastResponse lib info st.lastStreamData
      (audioUsage lib info st { model := info.upstreamModelName }) = finalInfo lib info st := rfl
  rw [hinfo]
  generalize finalInfo lib info st = r at hskip ⊢
  -- What is sent of the last text.
  have hlast : (if r.shouldSendLastResp = true then
      sendStreamData lib info st st.lastStreamData else st).sent =
      if r.shouldSendLastResp = true then chunks.map fun c => Sent.data c.text
      else chunks.dropLast.map fun c => Sent.data c.text := by
    cases hsend : r.shouldSendLastResp with
    | true =>
      rw [if_pos rfl, if_pos rfl, sendStreamData_plain hforce hthink, ← hall, held]
      split
      · rw [List.append_nil]
      · rfl
    | false =>
      rw [if_neg Bool.false_ne_true, if_neg Bool.false_ne_true, hskip hsend]
  rw [← hlast]
  generalize (if r.shouldSendLastResp = true then
    sendStreamData lib info st st.lastStreamData else st) = st'
  generalize lib.applyUsagePostProcessing _ st'.lastStreamData = usage
  refine ⟨generateFinalUsageResponse r usage, rfl, rfl, ?_⟩
  split
  · rfl
  · rw [List.append_nil]
    rfl

/-! ## Payloads and usage -/

theorem allDelivered_iff (chunks : List StreamData) :
    AllDelivered lib info chunks ↔ LastSaysNothing lib info chunks := by
  obtain ⟨r, hchoices, -, hsent⟩ := @handler_sent lib _ hforce hthink chunks
  have htail : ((if info.shouldIncludeUsage = true ∧ (finalInfo lib info
      (Run.run (dataHandler lib info) {} chunks)).containStreamUsage = false then
        [Sent.object r] else []) ++ [Sent.done]).flatMap (Sent.payloads lib info) = [] := by
    split <;> simp [Sent.payloads, hchoices]
  have hmap : ∀ cs : List StreamData, (cs.map fun c => Sent.data c.text).flatMap
      (Sent.payloads lib info) = cs.flatMap fun c => payloads lib info c.text := by
    intro cs
    rw [List.flatMap_map]
    rfl
  unfold AllDelivered
  rw [hsent, List.append_assoc, List.flatMap_append, htail, List.append_nil, delivered]
  rcases List.eq_nil_or_concat chunks with rfl | ⟨init, last, rfl⟩
  · simp [LastSaysNothing]
  · obtain ⟨-, hlast⟩ := @run_concat lib _ hforce hthink init last
    have hcounts := @finalInfo_shouldSend lib info
      (Run.run (dataHandler lib info) {} (init ++ [last]))
    rw [hlast] at hcounts
    have hnothing : LastSaysNothing lib info (init ++ [last]) ↔
        (CountsAsUsage lib info last.text → payloads lib info last.text = []) := by
      simp [LastSaysNothing]
    rw [List.concat_eq_append, hnothing]
    cases hsend : (finalInfo lib info
        (Run.run (dataHandler lib info) {} (init ++ [last]))).shouldSendLastResp with
    | true =>
      rw [if_pos rfl, hmap]
      have hnot : ¬CountsAsUsage lib info last.text := fun h => by
        rw [hcounts.mpr h] at hsend
        cases hsend
      exact iff_of_true rfl fun h => absurd h hnot
    | false =>
      rw [if_neg Bool.false_ne_true, List.dropLast_concat, hmap, List.flatMap_append]
      have hcount := hcounts.mp hsend
      constructor
      · intro h _
        simpa using h
      · intro h
        simp [h hcount]

/-- A client that did not ask receives the usage of the upstream texts that are delivered. -/
theorem carriesUsage_iff (hask : info.shouldIncludeUsage = false) (chunks : List StreamData) :
    (∃ item ∈ (oaiStreamHandler lib info chunks).1, item.carriesUsage lib) ↔
      (∃ c ∈ chunks.dropLast, carriesUsage lib c.text) ∨
        ∃ last, chunks.getLast? = some last ∧ ¬CountsAsUsage lib info last.text ∧
          carriesUsage lib last.text := by
  obtain ⟨r, -, -, hsent⟩ := @handler_sent lib _ hforce hthink chunks
  have htail : ¬(info.shouldIncludeUsage = true ∧ (finalInfo lib info
      (Run.run (dataHandler lib info) {} chunks)).containStreamUsage = false) := by
    simp [hask]
  rw [hsent, if_neg htail, List.append_nil, delivered]
  rcases List.eq_nil_or_concat chunks with rfl | ⟨init, last, rfl⟩
  · simp [Sent.carriesUsage]
  · obtain ⟨-, hlast⟩ := @run_concat lib _ hforce hthink init last
    have hcounts := @finalInfo_shouldSend lib info
      (Run.run (dataHandler lib info) {} (init ++ [last]))
    rw [hlast] at hcounts
    rw [List.concat_eq_append, List.dropLast_concat, List.getLast?_concat]
    cases hsend : (finalInfo lib info
        (Run.run (dataHandler lib info) {} (init ++ [last]))).shouldSendLastResp with
    | true =>
      have hnot : ¬CountsAsUsage lib info last.text := fun h => by
        rw [hcounts.mpr h] at hsend
        cases hsend
      simp [Sent.carriesUsage, hnot, or_and_right, exists_or]
    | false =>
      simp [Sent.carriesUsage, hcounts.mp hsend]

/-- A client that asked receives a usage. -/
theorem usage_of_asked (hask : info.shouldIncludeUsage = true) (chunks : List StreamData) :
    ∃ item ∈ (oaiStreamHandler lib info chunks).1, item.carriesUsage lib := by
  obtain ⟨r, -, husage, hsent⟩ := @handler_sent lib _ hforce hthink chunks
  have hsecond := @run_secondLast lib _ hforce hthink chunks
  have hall := @run_sent lib _ hforce hthink {} chunks
  have hfirst : ({} : StreamState).sent ++ held {} = [] := rfl
  rw [hfirst, List.nil_append] at hall
  rw [hsent, delivered]
  dsimp only at hsecond
  generalize Run.run (dataHandler lib info) {} chunks = st at hsecond hall ⊢
  have hsend : (finalInfo lib info st).shouldSendLastResp = true := by
    by_contra h
    rw [Bool.not_eq_true] at h
    have := ((finalInfo_shouldSend st).mp h).1
    rw [hask] at this
    cases this
  rw [hsend, if_pos rfl, ← hall]
  cases hcontain : (finalInfo lib info st).containStreamUsage with
  | false =>
    refine ⟨.object r, ?_, husage⟩
    simp [hask]
  | true =>
    rcases finalInfo_containUsage st hcontain with ⟨hne, hcarries⟩ | ⟨hne, hcarries⟩
    · refine ⟨.data st.lastStreamData, ?_, hcarries⟩
      simp [held, hne]
    · refine ⟨.data st.secondLastStreamData, ?_, hcarries⟩
      simp [hsecond hne]

/-- The client receives everything the upstream says and the usage as it is meant, exactly if it
    asked for the usage, or the last chunk says nothing where it counts as usage and every other
    usage comes with content. -/
theorem oaiStream_iff (chunks : List StreamData) :
    (AllDelivered lib info chunks ∧ UsageAsMeant lib info chunks) ↔
      info.shouldIncludeUsage = true ∨
        (LastSaysNothing lib info chunks ∧ UsageWithContent lib info chunks) := by
  rw [allDelivered_iff hforce hthink]
  cases hask : info.shouldIncludeUsage with
  | true =>
    have hnot : ∀ data, ¬CountsAsUsage lib info data := fun data h =>
      absurd (hask.symm.trans h.1) (by decide)
    refine iff_of_true ⟨fun last _ h => absurd h (hnot _), ?_⟩ (.inl rfl)
    exact iff_of_true (usage_of_asked hforce hthink hask chunks) (.inl hask)
  | false =>
    have hcarries := @carriesUsage_iff lib _ hforce hthink hask chunks
    simp only [Bool.false_eq_true, false_or]
    refine and_congr_right fun hnothing => ?_
    unfold UsageAsMeant UsageWithContent
    rw [hcarries, hask]
    simp only [Bool.false_eq_true, false_or]
    constructor
    · exact Iff.mp
    · intro hwith
      refine ⟨hwith, ?_⟩
      rintro ⟨c, hc, hsays, husage⟩
      rcases List.eq_nil_or_concat chunks with rfl | ⟨init, last, rfl⟩
      · cases hc
      · rw [List.concat_eq_append] at hc hnothing ⊢
        rw [List.dropLast_concat, List.getLast?_concat]
        rcases List.mem_append.mp hc with hinit | hlast
        · exact .inl ⟨c, hinit, husage⟩
        · obtain rfl := List.mem_singleton.mp hlast
          refine .inr ⟨c, rfl, fun hcounts => hsays ?_, husage⟩
          exact hnothing c List.getLast?_concat hcounts

omit hforce hthink

/-! ### A finish reason with usage -/

def helloData : StreamData where
  text := "\x7b\"choices\":[\x7b\"index\":0,\"delta\":\x7b\"content\":\"Hello\"\x7d\x7d]\x7d"
  nonempty := by decide

def stopData : StreamData where
  text := "\x7b\"choices\":[\x7b\"index\":0,\"delta\":\x7b\x7d,\"finish_reason\":\"stop\"\x7d]," ++
    "\"usage\":\x7b\"prompt_tokens\":3,\"completion_tokens\":1,\"total_tokens\":4\x7d\x7d"
  nonempty := by decide

/-- The two chunks, decoded. -/
def decodeHello (data : String) : Option StreamChunk :=
  if data = helloData.text then
    some { choices := [{ delta := { content := some "Hello" } }] }
  else if data = stopData.text then
    some
      { choices := [{ finishReason := some "stop" }]
        usage := some { promptTokens := 3, completionTokens := 1, totalTokens := 4 } }
  else none

def helloLib : StreamLib where
  unmarshalChat := decodeHello
  unmarshalCompletions := fun _ => none
  unmarshalUsage := fun data => (decodeHello data).map fun r => r.usage
  unmarshalUsage_of_chat := fun data r h => by simp [h]
  unmarshalChat_empty := by decide
  estimateTokenByModel := fun _ _ => 1
  applyUsagePostProcessing := fun usage _ => usage

/-- A chat request that asks for the usage or not. -/
def helloInfo (shouldIncludeUsage : Bool) : StreamInfo where
  relayMode := .chatCompletions
  upstreamModelName := "gpt-4o"
  shouldIncludeUsage := shouldIncludeUsage
  forceFormat := false
  thinkingToContent := false
  estimatePromptTokens := 3

theorem hello_delivered : AllDelivered helloLib (helloInfo true) [helloData, stopData] ∧
    UsageAsMeant helloLib (helloInfo true) [helloData, stopData] :=
  (oaiStream_iff rfl rfl _).mpr (.inl rfl)

/-- Without the option the client never learns that the answer has stopped. -/
theorem stop_not_delivered :
    payloads helloLib (helloInfo false) stopData.text = [.finishReason 0 "stop"] ∧
      (oaiStreamHandler helloLib (helloInfo false) [helloData, stopData]).1 =
        [.data helloData.text, .done] := by
  decide

end TokenRouter.OaiStream
