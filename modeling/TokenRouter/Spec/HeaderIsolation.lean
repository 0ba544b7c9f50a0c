import TokenRouter.Spec.AttemptIsolation

/-!
# Upstream headers and the channels tried before

A parameter override that has run leaves the headers it worked on in the relay information of
the request. They take precedence over the header override of every later channel, and are what
later parameter overrides start from.

## Key results

- `runOverride_congr`: what the headers of an attempt are computed from
- `headers_isolated`: without such headers, an attempt sends what its own channel asks for
-/

namespace TokenRouter.RelayLoop

variable {V : Type}

/-- The parts of the metadata that headers are computed from. -/
def headerFields (m : ChannelMeta V) : Option V × HeaderMap × String × String :=
  (m.paramOverride, m.headersOverride, m.apiKey, m.upstreamModelName)

/-- Two states of the relay information with the same part for headers. -/
structure SameHeaders (info info' : HeaderInfo V) : Prop where
  channelMeta : info.channelMeta.map headerFields = info'.channelMeta.map headerFields
  runtime : info.runtimeHeadersOverride = info'.runtimeHeadersOverride
  retryIndex : info.retryIndex = info'.retryIndex
  lastError : info.lastError = info'.lastError

namespace SameHeaders

variable {info info' : HeaderInfo V}

/-- A field of the metadata that the headers are computed from. -/
theorem field {β : Type} (h : SameHeaders info info')
    (f : Option V × HeaderMap × String × String → β) :
    info.channelMeta.map (fun m => f (headerFields m)) =
      info'.channelMeta.map fun m => f (headerFields m) := by
  have := congrArg (Option.map f) h.channelMeta
  simpa [Option.map_map, Function.comp_def] using this

theorem effective (h : SameHeaders info info') (text : TextFunctions) :
    info.getEffectiveHeaderOverride text = info'.getEffectiveHeaderOverride text := by
  have hheaders : info.channelMeta.map ChannelMeta.headersOverride =
      info'.channelMeta.map ChannelMeta.headersOverride := h.field fun x => x.2.1
  unfold HeaderInfo.getEffectiveHeaderOverride
  rw [h.runtime, hheaders]

theorem processHeaderOverride (h : SameHeaders info info') (text : TextFunctions)
    (request : ClientRequest) :
    processHeaderOverride text request info = processHeaderOverride text request info' := by
  have hkey : info.channelMeta.map ChannelMeta.apiKey = info'.channelMeta.map ChannelMeta.apiKey :=
    h.field fun x => x.2.2.1
  unfold RelayLoop.processHeaderOverride
  rw [h.effective, hkey]

theorem context (h : SameHeaders info info') (text : TextFunctions) (request : ClientRequest) :
    buildParamOverrideContext text request info = buildParamOverrideContext text request info' := by
  have hmodel : info.channelMeta.map ChannelMeta.upstreamModelName =
      info'.channelMeta.map ChannelMeta.upstreamModelName := h.field fun x => x.2.2.2
  unfold buildParamOverrideContext
  rw [h.effective, hmodel, h.retryIndex, h.lastError]

/-- New runtime headers, the same on both sides. -/
theorem withRuntime (h : SameHeaders info info') (headers : Option HeaderMap) :
    SameHeaders { info with runtimeHeadersOverride := headers }
      { info' with runtimeHeadersOverride := headers } :=
  ⟨h.channelMeta, rfl, h.retryIndex, h.lastError⟩

/-- What the headers of an attempt are computed from. -/
theorem runOverride_congr {env : RelayEnv V} (h : SameHeaders info info') (body : V)
    (runsOverride : Bool) :
    (runOverride env info body runsOverride).2 = (runOverride env info' body runsOverride).2 := by
  have hparam : info.channelMeta.bind ChannelMeta.paramOverride =
      info'.channelMeta.bind ChannelMeta.paramOverride := by
    have := congrArg (Option.bind · id) (h.field fun x => x.1)
    simpa [headerFields, Option.bind_map] using this
  unfold runOverride
  cases runsOverride with
  | false => exact h.processHeaderOverride env.text env.request
  | true =>
    simp only [if_true, applyParamOverrideWithRelayInfo, hparam, h.context]
    cases info'.channelMeta.bind ChannelMeta.paramOverride with
    | none => exact h.processHeaderOverride env.text env.request
    | some paramOverride =>
      by_cases hempty : env.engine.isEmpty paramOverride
      · simp only [hempty, if_true]
        exact h.processHeaderOverride env.text env.request
      · simp only [hempty, Bool.false_eq_true, if_false]
        cases env.engine.apply paramOverride body
          (buildParamOverrideContext env.text env.request info') with
        | error err => rfl
        | ok applied => exact (h.withRuntime _).processHeaderOverride env.text env.request

end SameHeaders

/-! ## Isolation -/

theorem setupFor_overrides (env : RelayEnv V) (ctx : ChannelContext V)
    (channel : SelectedChannel V) (key : KeyDraw) :
    (setupFor env ctx channel key).1.paramOverride =
        some ((env.template.getD id) channel.paramOverride) ∧
      (setupFor env ctx channel key).1.headerOverride = channel.headerOverride ∧
      (setupFor env ctx channel key).1.originalModel = env.request.originModelName := by
  unfold setupFor setupContextForSelectedChannel
  dsimp only
  split
  · exact ⟨rfl, rfl, rfl⟩
  · rw [setOther_frame]
    exact ⟨rfl, rfl, rfl⟩

/-- The relay information of a request that has tried no other channel: the channel with its key,
    and the retry index and last error of the attempt. -/
def freshHeaderInfo (env : RelayEnv V) (channel : SelectedChannel V) (apiKey : String)
    (retryIndex : Nat) (lastError : Option APIError) : HeaderInfo V :=
  { channelMeta := some (channelMetaOf env channel apiKey "" 0 "")
    retryIndex := retryIndex
    lastError := lastError }

/-- An attempt that sends the headers of its own channel. -/
def HeadersIsolated (env : RelayEnv V) (a : Attempt V) : Prop :=
  a.headers = (runOverride env
    (freshHeaderInfo env a.channel a.channelMeta.apiKey a.retryIndex a.lastError) a.body
    a.runsOverride).2

instance (env : RelayEnv V) (a : Attempt V) : Decidable (HeadersIsolated env a) :=
  inferInstanceAs (Decidable (_ = _))

/-- No parameter override has run before the turn. -/
def NoRuntimeHeaders (s : RelayState V) (_ : AttemptInput V) : Prop :=
  s.headerInfo.runtimeHeadersOverride = none

instance (s : RelayState V) (e : AttemptInput V) : Decidable (NoRuntimeHeaders s e) :=
  inferInstanceAs (Decidable (_ = none))

theorem getChannel_headerInfo (env : RelayEnv V) (s : RelayState V) (e : AttemptInput V) :
    (getChannel env s e).1.headerInfo = s.headerInfo := by
  have hcase := getChannel_case env s e
  generalize getChannel env s e = out at hcase
  cases hcase <;> rfl

/-- Without headers left behind, the next attempt sends those of its own channel. -/
theorem headersIsolated_attempted {env : RelayEnv V} {s s₁ : RelayState V} {e : AttemptInput V}
    (h : SetUp env s) (hresult : s.result = none) (hnone : NoRuntimeHeaders s e)
    (hget : getChannel env (enter s) e = (s₁, none)) :
    HeadersIsolated env (attempt env s₁ e (prepare env s₁ e).2) := by
  have hctx := setUp_getChannel h hresult hget
  have hinfo : s₁.headerInfo = (enter s).headerInfo := by
    have := getChannel_headerInfo env (enter s) e
    rw [hget] at this
    exact this
  obtain ⟨hparam, hheaders, hmodel⟩ :=
    setupFor_overrides env (contextAfter env s.attempts) s₁.selected.1 s₁.key
  rw [← hctx] at hparam hheaders hmodel
  have hsame : SameHeaders
      { s₁.headerInfo with
        channelMeta := some (initChannelMeta env.request.apiVersionQuery s₁.channelContext) }
      (freshHeaderInfo env s₁.selected.1 s₁.channelContext.channelKey s₁.headerInfo.retryIndex
        s₁.headerInfo.lastError) := by
    refine ⟨?_, ?_, rfl, rfl⟩
    · show some (headerFields _) = some (headerFields _)
      simp only [headerFields, initChannelMeta, channelMetaOf, hparam, hheaders, hmodel]
    · show s₁.headerInfo.runtimeHeadersOverride = none
      rw [hinfo]
      exact hnone
  exact hsame.runOverride_congr e.body e.runsOverride

/-- A turn without headers left behind. -/
theorem headersIsolated_turn {env : RelayEnv V} {s : RelayState V} {e : AttemptInput V}
    (hsetup : SetUp env s) (h : ∀ a ∈ s.attempts, HeadersIsolated env a)
    (hnone : NoRuntimeHeaders s e) : ∀ a ∈ (turn env s e).attempts, HeadersIsolated env a := by
  have hattempts := getChannel_attempts env (enter s) e
  have hnext : ∀ s₁ : RelayState V, s.result = none →
      getChannel env (enter s) e = (s₁, none) →
      ∀ a ∈ (attempted env s₁ e).attempts, HeadersIsolated env a := by
    intro s₁ hresult hget a ha
    rw [hget] at hattempts
    rcases List.mem_append.mp ha with hold | hnew
    · exact h a (hattempts ▸ hold)
    · rw [List.mem_singleton.mp hnew]
      exact headersIsolated_attempted hsetup hresult hnone hget
  have hcase := turn_case env s e
  generalize turn env s e = s' at hcase
  cases hcase with
  | idle => exact h
  | spent => exact h
  | noChannel s₁ err _ _ hget =>
    rw [hget] at hattempts
    exact fun a ha => h a (hattempts ▸ ha)
  | noBody s₁ err _ _ hget =>
    rw [hget] at hattempts
    exact fun a ha => h a (hattempts ▸ ha)
  | succeeded s₁ hresult _ hget => exact hnext s₁ hresult hget
  | failed s₁ err hresult _ hget =>
    unfold afterError
    dsimp only
    split
    · exact hnext s₁ hresult hget
    · exact hnext s₁ hresult hget

/-- In a run in which no attempt follows one that has run a parameter override, every attempt
    sends the headers of its own channel. -/
theorem headers_isolated {env : RelayEnv V} {choice : FirstChoice V} {key : KeyDraw}
    {s₀ : RelayState V} (hstart : start env choice key = some s₀) {es : List (AttemptInput V)}
    (h : Run.Steps (turn env) NoRuntimeHeaders s₀ es) :
    ∀ a ∈ (Run.run (turn env) s₀ es).attempts, HeadersIsolated env a := by
  have hnil : s₀.attempts = [] := by
    unfold start at hstart
    split at hstart
    · cases hstart
    · cases hstart
      rfl
  have hall := Run.always_of_steps (fun s e (hs : SetUp env s ∧ ∀ a ∈ s.attempts,
      HeadersIsolated env a) hnone =>
    (⟨setUp_turn env s e hs.1, headersIsolated_turn hs.1 hs.2 hnone⟩ :
      SetUp env (turn env s e) ∧ ∀ a ∈ (turn env s e).attempts, HeadersIsolated env a))
    ⟨setUp_start hstart, by simp [hnil]⟩ h
  exact hall.last.2

/-! ## A header of the first channel -/

/-- A request with one retry. The value `true` stands for a parameter override with the one
    operation `set_header x-supplier one`, `false` for an empty one. -/
def headerEnv : RelayEnv Bool :=
  { select := { tokenGroup := "default", retryTimes := 1 }
    rules := {}
    ratios := { groupRatio := fun _ => none, groupGroupRatio := fun _ _ => none }
    billing := .ratio
    text := { toLower := id, compileRegex := fun _ => none }
    engine :=
      { isEmpty := fun paramOverride => !paramOverride
        apply := fun _ body ctx => .ok (body, ctx.headerOverride.insert "x-supplier" "one") }
    request := { originModelName := "m" } }

/-- A channel with a parameter override and one header of its own. -/
def headerChannel (id : Nat) (paramOverride : Bool) (value : String) : SelectedChannel Bool :=
  { id := id
    key := "sk"
    setting := false
    otherSettings := false
    paramOverride := paramOverride
    headerOverride := [("x-own", value)] }

/-- A turn that offers one channel. -/
def headerTurn (channel : SelectedChannel Bool) (upstream : Option APIError) : AttemptInput Bool :=
  { answers :=
      { policyChannel := fun _ => none, randomChannel := fun _ _ => (some channel, none) }
    body := false
    upstream := upstream }

/-- Channel 1 fails, channel 2 serves the request. -/
def headerTurns (first : SelectedChannel Bool) : List (AttemptInput Bool) :=
  [headerTurn first (some { statusCode := 500 }), headerTurn (headerChannel 2 false "two") none]

/-- Without parameter overrides both channels send their own headers. -/
theorem headers_isolated_plain : ∃ s₀,
    start headerEnv (.preferred (headerChannel 1 false "one") "default") {} = some s₀ ∧
    ∀ a ∈ (Run.run (turn headerEnv) s₀ (headerTurns (headerChannel 1 false "one"))).attempts,
      HeadersIsolated headerEnv a := by
  refine ⟨_, rfl, ?_⟩
  exact @headers_isolated Bool headerEnv
    (.preferred (headerChannel 1 false "one") "default") {} _ rfl
    (headerTurns (headerChannel 1 false "one")) (by decide)

/-- The header operation of channel 1 decides what channel 2 is sent. -/
theorem first_channel_header_sent : ∃ s₀,
    start headerEnv (.preferred (headerChannel 1 true "one") "default") {} = some s₀ ∧
    ∃ a ∈ (Run.run (turn headerEnv) s₀ (headerTurns (headerChannel 1 true "one"))).attempts,
      a.channel.id = 2 ∧ a.channel.headerOverride = [("x-own", "two")] ∧
      a.channel.paramOverride = false ∧
      a.headers = .ok [("x-own", "one"), ("x-supplier", "one")] ∧
      ¬ HeadersIsolated headerEnv a := by
  refine ⟨_, rfl, ?_⟩
  decide

end TokenRouter.RelayLoop
