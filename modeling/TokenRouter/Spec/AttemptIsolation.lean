import TokenRouter.Controller.Relay
import TokenRouter.ForStd.Run

/-!
# Channel metadata and the channels tried before

The metadata of an attempt is read from context keys that earlier channels have written too.
Most keys are written for every channel. Three of them are not: the organization, the index of
the key and the API version keep the value of the last channel that has one.

## Key results

- `initChannelMeta_setup_iff`: which values a context must have for a channel to hide it
- `setUp_turn`: the context holds what the channels of the attempts have left, in order
- `attempt_isolated_iff`: when an attempt depends on the request and on its channel alone
-/

namespace TokenRouter.RelayLoop

variable {V : Type}

/-! ## One channel -/

/-- The channel writes `api_version`, or its metadata takes the version from `region`. -/
def writesApiVersion (channel : SelectedChannel V) : Bool :=
  otherKey channel.channelType = some .apiVersion || channel.channelType = vertexAi

/-- The channel writes `channel_organization`. -/
def writesOrganization (channel : SelectedChannel V) : Bool :=
  channel.openAIOrganization.getD "" ≠ ""

/-- What the channel does not write, the context does not hold. -/
def NothingLeft (ctx : ChannelContext V) (channel : SelectedChannel V) : Prop :=
  (writesOrganization channel = true ∨ ctx.channelOrganization = "") ∧
  (channel.channelInfo.isMultiKey = true ∨ ctx.channelMultiKeyIndex = 0) ∧
  (writesApiVersion channel = true ∨ ctx.apiVersion = "")

instance (ctx : ChannelContext V) (channel : SelectedChannel V) :
    Decidable (NothingLeft ctx channel) :=
  inferInstanceAs (Decidable ((_ ∨ _) ∧ (_ ∨ _) ∧ (_ ∨ _)))

theorem setupFor_ok (env : RelayEnv V) (ctx : ChannelContext V) {channel : SelectedChannel V}
    {draw : KeyDraw} {key : String} {index : Nat}
    (h : channel.nextEnabledKey draw = .ok (key, index)) :
    (setupFor env ctx channel draw).1 =
      ((({ ctx with originalModel := env.request.originModelName }.setFields env.template
        channel).setKey channel key index).setOther channel) := by
  unfold setupFor setupContextForSelectedChannel
  dsimp only
  rw [h]

/-- The switch over the type changes only the keys for the column `other`. -/
theorem setOther_frame (ctx : ChannelContext V) (channel : SelectedChannel V) :
    ctx.setOther channel =
      { ctx with
        apiVersion := (ctx.setOther channel).apiVersion
        region := (ctx.setOther channel).region
        plugin := (ctx.setOther channel).plugin
        botId := (ctx.setOther channel).botId } := by
  unfold ChannelContext.setOther
  split <;> rfl

theorem setOther_apiVersion (ctx : ChannelContext V) (channel : SelectedChannel V) :
    (ctx.setOther channel).apiVersion =
      if otherKey channel.channelType = some .apiVersion then channel.other else ctx.apiVersion := by
  unfold ChannelContext.setOther
  split <;> simp_all

theorem setOther_region (ctx : ChannelContext V) (channel : SelectedChannel V) :
    (ctx.setOther channel).region =
      if otherKey channel.channelType = some .region then channel.other else ctx.region := by
  unfold ChannelContext.setOther
  split <;> simp_all

/-- The metadata of a channel, up to the three fields that a context may have kept. -/
def channelMetaOf (env : RelayEnv V) (channel : SelectedChannel V) (key : String)
    (organization : String) (multiKeyIndex : Nat) (apiVersion : String) : ChannelMeta V :=
  { channelType := channel.channelType
    channelId := channel.id
    channelIsMultiKey := channel.channelInfo.isMultiKey
    channelMultiKeyIndex := multiKeyIndex
    channelBaseUrl := channel.baseURL
    apiType := channelType2APIType channel.channelType
    apiVersion := apiVersion
    apiKey := key
    organization := organization
    channelCreateTime := channel.createdTime
    paramOverride := some ((env.template.getD id) channel.paramOverride)
    headersOverride := channel.headerOverride
    channelSetting := some channel.setting
    channelOtherSettings := some channel.otherSettings
    upstreamModelName := env.request.originModelName
    supportStreamOptions := channel.channelType ∈ streamSupportedChannels }

/-- A field that the channel writes or that the context has kept. -/
def kept {α : Type} (writes : Bool) (written left : α) : α := if writes then written else left

/-- The version a channel writes for itself, or takes from the query. -/
def ownApiVersion (query : String) (channel : SelectedChannel V) : String :=
  if channel.channelType = azure ∧ query ≠ "" then query else channel.other

theorem kept_eq_iff {α : Type} {writes : Bool} {written left left' : α} :
    kept writes written left = kept writes written left' ↔ writes = true ∨ left = left' := by
  cases writes <;> simp [kept]

/-- The switch over the type decides on the version, and on nothing else of the metadata. -/
theorem initChannelMeta_setOther (query : String) (ctx : ChannelContext V)
    {channel : SelectedChannel V} (htype : ctx.channelType = channel.channelType) :
    initChannelMeta query (ctx.setOther channel) =
      { initChannelMeta query ctx with
        apiVersion :=
          kept (writesApiVersion channel) (ownApiVersion query channel) ctx.apiVersion } := by
  rw [setOther_frame]
  simp only [initChannelMeta, getAPIVersion, setOther_apiVersion, setOther_region, htype,
    ChannelMeta.mk.injEq, true_and, and_true]
  by_cases hv : channel.channelType = vertexAi
  · simp [hv, otherKey, vertexAi, azure, kept, writesApiVersion, ownApiVersion]
  · by_cases ha : channel.channelType = azure
    · by_cases hq : query = ""
      · simp [ha, hq, otherKey, vertexAi, azure, kept, writesApiVersion, ownApiVersion]
      · simp [ha, hq, otherKey, vertexAi, azure, kept, writesApiVersion, ownApiVersion]
    · simp [hv, ha, kept, writesApiVersion, ownApiVersion]

theorem setFields_organization (ctx : ChannelContext V) (template : Option (V → V))
    (channel : SelectedChannel V) :
    (ctx.setFields template channel).channelOrganization =
      kept (writesOrganization channel) (channel.openAIOrganization.getD "")
        ctx.channelOrganization := by
  unfold ChannelContext.setFields writesOrganization kept
  cases channel.openAIOrganization with
  | none => simp
  | some organization => simp

/-- What `InitChannelMeta` builds from a context in which the channel has been set up. -/
theorem initChannelMeta_setup (env : RelayEnv V) (ctx : ChannelContext V)
    {channel : SelectedChannel V} {draw : KeyDraw} {key : String} {index : Nat}
    (h : channel.nextEnabledKey draw = .ok (key, index)) (query : String) :
    initChannelMeta query (setupFor env ctx channel draw).1 =
      channelMetaOf env channel key
        (kept (writesOrganization channel) (channel.openAIOrganization.getD "")
          ctx.channelOrganization)
        (kept channel.channelInfo.isMultiKey index ctx.channelMultiKeyIndex)
        (kept (writesApiVersion channel) (ownApiVersion query channel) ctx.apiVersion) := by
  rw [setupFor_ok env ctx h, initChannelMeta_setOther query _ rfl]
  simp only [initChannelMeta, channelMetaOf, ChannelContext.setKey, setFields_organization]
  rfl

/-- The metadata is the one of an empty context exactly if nothing is left that the channel does
    not write. -/
theorem initChannelMeta_setup_iff (env : RelayEnv V) (ctx : ChannelContext V)
    {channel : SelectedChannel V} {draw : KeyDraw} {key : String} {index : Nat}
    (h : channel.nextEnabledKey draw = .ok (key, index)) (query : String) :
    initChannelMeta query (setupFor env ctx channel draw).1 =
        initChannelMeta query (setupFor env {} channel draw).1 ↔
      NothingLeft ctx channel := by
  rw [initChannelMeta_setup env ctx h, initChannelMeta_setup env {} h]
  simp only [channelMetaOf, ChannelMeta.mk.injEq, kept_eq_iff, true_and, and_true]
  unfold NothingLeft
  tauto

/-! ## The channels of a request -/

/-- The context after the channels of some attempts have been set up one after the other. -/
def contextAfter (env : RelayEnv V) (attempts : List (Attempt V)) : ChannelContext V :=
  attempts.foldl (fun ctx a => (setupFor env ctx a.channel a.key).1) {}

@[simp] theorem contextAfter_nil (env : RelayEnv V) : contextAfter env [] = {} := rfl

theorem contextAfter_concat (env : RelayEnv V) (attempts : List (Attempt V)) (a : Attempt V) :
    contextAfter env (attempts ++ [a]) =
      (setupFor env (contextAfter env attempts) a.channel a.key).1 := by
  simp [contextAfter]

/-- Every attempt has the metadata of its channel in the context of the attempts before. -/
def Logged (env : RelayEnv V) (attempts : List (Attempt V)) : Prop :=
  ∀ before a after, attempts = before ++ a :: after →
    a.channelMeta = initChannelMeta env.request.apiVersionQuery
      (setupFor env (contextAfter env before) a.channel a.key).1

theorem logged_concat {env : RelayEnv V} {attempts : List (Attempt V)} {a : Attempt V}
    (h : Logged env attempts)
    (ha : a.channelMeta = initChannelMeta env.request.apiVersionQuery
      (setupFor env (contextAfter env attempts) a.channel a.key).1) :
    Logged env (attempts ++ [a]) := by
  intro before b after heq
  rcases List.eq_nil_or_concat after with rfl | ⟨rest, c, rfl⟩
  · obtain ⟨rfl, hab⟩ := List.append_inj' heq rfl
    cases hab
    exact ha
  · rw [List.concat_eq_append, ← List.cons_append, ← List.append_assoc] at heq
    obtain ⟨rfl, -⟩ := List.append_inj' heq rfl
    exact h before b rest rfl

/-- What the context holds: before the first attempt the channel of `Distribute`, afterwards the
    channels of the attempts. -/
structure SetUp (env : RelayEnv V) (s : RelayState V) : Prop where
  log : Logged env s.attempts
  first : s.result = none → s.headerInfo.channelMeta = none →
    s.attempts = [] ∧ s.channelContext = (setupFor env {} s.selected.1 s.key).1
  next : s.result = none → s.headerInfo.channelMeta ≠ none →
    s.channelContext = contextAfter env s.attempts

/-- Once the loop has been left only the log matters. -/
theorem SetUp.of_result {env : RelayEnv V} {s : RelayState V} (h : Logged env s.attempts)
    (hresult : s.result ≠ none) : SetUp env s :=
  ⟨h, fun hnone => absurd hnone hresult, fun hnone => absurd hnone hresult⟩

theorem getChannel_attempts (env : RelayEnv V) (s : RelayState V) (e : AttemptInput V) :
    (getChannel env s e).1.attempts = s.attempts := by
  have hcase := getChannel_case env s e
  generalize getChannel env s e = out at hcase
  cases hcase <;> rfl

/-- The channel an attempt is about to be made on has been set up after the ones before. -/
theorem setUp_getChannel {env : RelayEnv V} {s s₁ : RelayState V} {e : AttemptInput V}
    (h : SetUp env s) (hresult : s.result = none) (hget : getChannel env (enter s) e = (s₁, none)) :
    s₁.channelContext = (setupFor env (contextAfter env s.attempts) s₁.selected.1 s₁.key).1 := by
  have hcase := getChannel_case env (enter s) e
  generalize getChannel env (enter s) e = out at hget hcase
  cases hcase with
  | missing => cases hget
  | first hmeta =>
    cases hget
    obtain ⟨hnil, hctx⟩ := h.first hresult hmeta
    rw [hnil]
    exact hctx
  | found m channel group selection hmeta hselect =>
    rw [Prod.mk.injEq] at hget
    obtain ⟨rfl, -⟩ := hget
    have hctx := h.next hresult (fun hn => by
      have hm : s.headerInfo.channelMeta = some m := hmeta
      rw [hn] at hm
      cases hm)
    show (setupFor env s.channelContext channel e.key).1 = _
    rw [hctx]
    rfl

/-- The metadata of the next attempt continues the log. -/
theorem logged_attempted {env : RelayEnv V} {s s₁ : RelayState V} {e : AttemptInput V}
    (h : SetUp env s) (hresult : s.result = none) (hget : getChannel env (enter s) e = (s₁, none)) :
    Logged env (attempted env s₁ e).attempts ∧
    (attempted env s₁ e).channelContext = contextAfter env (attempted env s₁ e).attempts := by
  have hctx := setUp_getChannel h hresult hget
  have hattempts : s₁.attempts = s.attempts := by
    have := getChannel_attempts env (enter s) e
    rw [hget] at this
    exact this
  constructor
  · show Logged env (s₁.attempts ++ [_])
    rw [hattempts]
    refine logged_concat h.log ?_
    show initChannelMeta _ s₁.channelContext = _
    rw [hctx]
    rfl
  · show s₁.channelContext = contextAfter env (s₁.attempts ++ [_])
    rw [hattempts, contextAfter_concat, hctx]
    rfl

theorem setUp_turn (env : RelayEnv V) (s : RelayState V) (e : AttemptInput V) (h : SetUp env s) :
    SetUp env (turn env s e) := by
  have hkeep := getChannel_attempts env (enter s) e
  have hcase := turn_case env s e
  generalize turn env s e = s' at hcase
  cases hcase with
  | idle => exact h
  | spent => exact .of_result h.log (by simp [leave])
  | noChannel s₁ err _ _ hget =>
    rw [hget] at hkeep
    refine .of_result ?_ (by simp [leave])
    show Logged env s₁.attempts
    rw [show s₁.attempts = s.attempts from hkeep]
    exact h.log
  | noBody s₁ err _ _ hget =>
    rw [hget] at hkeep
    refine .of_result ?_ (by simp [leave])
    show Logged env s₁.attempts
    rw [show s₁.attempts = s.attempts from hkeep]
    exact h.log
  | succeeded s₁ hresult _ hget =>
    exact .of_result (logged_attempted h hresult hget).1 (by simp [leave])
  | failed s₁ err hresult _ hget =>
    obtain ⟨hlog, hctx⟩ := logged_attempted h hresult hget
    have hmeta : (attempted env s₁ e).headerInfo.channelMeta ≠ none := prepare_channelMeta env s₁ e
    unfold afterError
    dsimp only
    split
    · exact ⟨hlog, fun _ hnone => absurd hnone hmeta, fun _ _ => hctx⟩
    · exact .of_result hlog (by simp [leave])

theorem setUp_start {env : RelayEnv V} {choice : FirstChoice V} {key : KeyDraw}
    {s : RelayState V} (h : start env choice key = some s) : SetUp env s := by
  unfold start at h
  split at h
  · cases h
  · cases h
    refine ⟨?_, fun _ _ => ⟨rfl, rfl⟩, fun _ hmeta => absurd rfl hmeta⟩
    intro before a after heq
    simp at heq

/-! ## Isolation -/

/-- The metadata of a channel that is the first one tried. -/
def freshChannelMeta (env : RelayEnv V) (channel : SelectedChannel V) (key : KeyDraw) :
    ChannelMeta V :=
  initChannelMeta env.request.apiVersionQuery (setupFor env {} channel key).1

/-- An attempt whose metadata depends on the request and the channel alone, with a key that
    `GetNextEnabledKey` has returned for the channel. -/
def Isolated (env : RelayEnv V) (a : Attempt V) : Prop :=
  a.channelMeta = freshChannelMeta env a.channel a.key ∧
  ∃ index, a.channel.nextEnabledKey a.key = .ok (a.channelMeta.apiKey, index)

/-- An attempt is isolated exactly if the channel has an enabled key, and the attempts before have
    left no organization, no key index and no version that the channel does not write. -/
theorem attempt_isolated_iff {env : RelayEnv V} {choice : FirstChoice V} {key : KeyDraw}
    {s₀ : RelayState V} (hstart : start env choice key = some s₀) (es : List (AttemptInput V))
    {before after : List (Attempt V)} {a : Attempt V}
    (hlog : (Run.run (turn env) s₀ es).attempts = before ++ a :: after) :
    Isolated env a ↔
      NothingLeft (contextAfter env before) a.channel ∧
        ∃ k, a.channel.nextEnabledKey a.key = .ok k := by
  have hrun := Run.run_inv (setUp_turn env) (setUp_start hstart) es
  have hmeta := hrun.log before a after hlog
  unfold Isolated freshChannelMeta
  constructor
  · rintro ⟨heq, index, hkey⟩
    rw [hmeta] at heq
    exact ⟨(initChannelMeta_setup_iff env _ hkey _).mp heq, _, hkey⟩
  · rintro ⟨hleft, ⟨k, index⟩, hkey⟩
    refine ⟨?_, index, ?_⟩
    · rw [hmeta]
      exact (initChannelMeta_setup_iff env _ hkey _).mpr hleft
    · rw [hmeta, initChannelMeta_setup env _ hkey]
      exact hkey

/-! ## Two channels in a row -/

/-- A request with one retry, for a token of a group of its own. -/
def oneRetry : RelayEnv Unit :=
  { select := { tokenGroup := "default", retryTimes := 1 }
    rules := {}
    ratios := { groupRatio := fun _ => none, groupGroupRatio := fun _ _ => none }
    billing := .ratio
    text := { toLower := id, compileRegex := fun _ => none }
    engine := { isEmpty := fun _ => true, apply := fun _ body _ => .ok (body, []) }
    request := { originModelName := "m" } }

/-- A channel with one key. -/
def singleKeyChannel (id : Nat) (key : String) (organization : Option String) :
    SelectedChannel Unit :=
  { id := id
    key := key
    openAIOrganization := organization
    setting := ()
    otherSettings := ()
    paramOverride := () }

/-- A channel whose two keys are both disabled. -/
def keylessChannel : SelectedChannel Unit :=
  { id := 3
    keys := ["k0", "k1"]
    channelInfo := { isMultiKey := true, multiKeyStatusList := fun _ => some .manuallyDisabled }
    setting := ()
    otherSettings := ()
    paramOverride := () }

/-- A turn that offers one channel. -/
def channelTurn (channel : SelectedChannel Unit) (upstream : Option APIError) :
    AttemptInput Unit :=
  { answers :=
      { policyChannel := fun _ => none, randomChannel := fun _ _ => (some channel, none) }
    body := ()
    upstream := upstream }

/-- The first channel fails, the second one serves the request. -/
def twoChannels (first second : SelectedChannel Unit) : List (AttemptInput Unit) :=
  [channelTurn first (some { statusCode := 500 }), channelTurn second none]

/-- A second channel with an organization of its own is isolated from the first one's. -/
theorem attempt_isolated_own_organization :
    let first := singleKeyChannel 1 "sk-1" (some "acme")
    let second := singleKeyChannel 2 "sk-2" (some "other")
    ∃ s₀ a b, start oneRetry (.preferred first "default") {} = some s₀ ∧
      (Run.run (turn oneRetry) s₀ (twoChannels first second)).attempts = [a, b] ∧
      Isolated oneRetry b := by
  intro first second
  refine ⟨_, _, _, rfl, rfl, ?_⟩
  have h := @attempt_isolated_iff Unit oneRetry (.preferred first "default") {} _ rfl
    (twoChannels first second) [_] [] _ rfl
  exact h.mpr ⟨⟨.inl rfl, .inr rfl, .inr rfl⟩, _, rfl⟩

/-- A channel without an organization is sent the one of the channel before, and a channel without
    an enabled key is tried with the empty key. -/
theorem organization_and_empty_key_sent :
    (let first := singleKeyChannel 1 "sk-1" (some "acme")
      let second := singleKeyChannel 2 "sk-2" none
      ∃ s₀ a b, start oneRetry (.preferred first "default") {} = some s₀ ∧
        (Run.run (turn oneRetry) s₀ (twoChannels first second)).attempts = [a, b] ∧
        b.channel = second ∧ b.channelMeta.organization = "acme" ∧ ¬ Isolated oneRetry b) ∧
    ∃ s₀ a, start oneRetry (.preferred keylessChannel "default") {} = some s₀ ∧
      (Run.run (turn oneRetry) s₀ [channelTurn keylessChannel none]).attempts = [a] ∧
      a.channel = keylessChannel ∧ a.channelMeta.apiKey = "" ∧ ¬ Isolated oneRetry a := by
  constructor
  · refine ⟨_, _, _, rfl, rfl, rfl, rfl, ?_⟩
    rintro ⟨hmeta, -⟩
    have horganization := congrArg ChannelMeta.organization hmeta
    revert horganization
    decide
  · refine ⟨_, _, rfl, rfl, rfl, rfl, ?_⟩
    rintro ⟨-, index, hkey⟩
    cases hkey

end TokenRouter.RelayLoop
