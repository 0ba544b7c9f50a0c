import TokenRouter.ForStd.Run
import TokenRouter.ForStd.Split
import TokenRouter.Service.ChannelAffinity
import TokenRouter.Spec.StatusCodeRules

/-!
# Channel affinity as a map of its components

The channel of a request is meant to be a map over what the matched rule includes: the rule, the
model, the group and the affinity value. The cache has one text for all of them. This module says
for which requests and rule names the cache answers as that map does, over every run.
-/

namespace TokenRouter.ChannelAffinity

open Cachex

/-! ## The map that is meant -/

/-- The included components of a request. -/
structure AffinityKey where
  /-- the place of the matched rule, if the rule includes its name -/
  rule : Option Nat
  model : Option (List Char)
  group : Option (List Char)
  value : List Char
  deriving DecidableEq

/-- A request for which a channel is looked up and recorded; it carries no cache key yet. -/
structure AffinityCall where
  ctx : Context
  modelName : List Char
  usingGroup : List Char
  fresh : ctx.keys ginKeyCacheKey = none

variable (lib : TextLib) (redisMatch : List Char → List Char → Bool)
  (setting : ChannelAffinitySetting)

/-- The rule that a request matches, with the affinity value. -/
def matchedRule (call : AffinityCall) : Option (ChannelAffinityRule × List Char) :=
  if setting.enabled then
    setting.rules.findSome? fun rule =>
      (lib.matchRule call.ctx call.modelName rule).map fun value => (rule, value)
  else none

/-- The place of the rule that a request matches. -/
def ruleIndex (call : AffinityCall) : Option Nat :=
  setting.rules.findIdx? fun rule => (lib.matchRule call.ctx call.modelName rule).isSome

def components (call : AffinityCall) : Option AffinityKey :=
  (matchedRule lib setting call).map fun (rule, value) =>
    { rule := if rule.includeRuleName ∧ rule.name ≠ [] then ruleIndex lib setting call else none
      model :=
        if rule.includeModelName ∧ call.modelName ≠ [] then some call.modelName else none
      group :=
        if rule.includeUsingGroup ∧ call.usingGroup ≠ [] then some call.usingGroup else none
      value := value }

/-- The place of the rule that is cleared under a name: the first of that name, if it includes its
    name. -/
def clearedRule (ruleName : List Char) : Option Nat :=
  let ruleName := ruleName.trimBy isSpace
  if ruleName = [] then none
  else
    match setting.rules.find? fun r => r.name.trimBy isSpace = ruleName with
    | none => none
    | some rule =>
      if rule.includeRuleName then
        setting.rules.findIdx? fun r => r.name.trimBy isSpace = ruleName
      else none

/-- The channel that is recorded: the one used last, if affinity follows it. -/
def recordedChannel (channelID lastChannelID : Int) : Option Int :=
  if channelID ≤ 0 then none
  else if setting.switchOnSuccess ∧ 0 < lastChannelID then some lastChannelID
  else some channelID

/-- What happens to channel affinity: a request records its channel, having been sent to
    `lastChannelID` last, or the entries of a rule are cleared. -/
inductive AffinityEvent where
  | record (call : AffinityCall) (channelID lastChannelID : Int)
  | clear (ruleName : List Char)

abbrev AffinityMap := AffinityKey → Option Int

namespace AffinityMap

/-- A step of the map that is meant. -/
def step (m : AffinityMap) : AffinityEvent → AffinityMap
  | .record call channelID lastChannelID =>
    match components lib setting call, recordedChannel setting channelID lastChannelID with
    | some key, some channel => Function.update m key (some channel)
    | _, _ => m
  | .clear ruleName =>
    match clearedRule setting ruleName with
    | none => m
    | some i => fun key => if key.rule = some i then none else m key

/-- The channel of a request. -/
def lookup (m : AffinityMap) (call : AffinityCall) : Option Int :=
  (components lib setting call).bind m

end AffinityMap

/-! ## The cache -/

/-- A step of the cache. -/
def cacheStep (cache : HybridCache Int) : AffinityEvent → HybridCache Int
  | .record call channelID lastChannelID =>
    let (c, _) :=
      getPreferredChannelByAffinity lib setting cache call.ctx call.modelName call.usingGroup
    recordChannelAffinity setting cache (c.set "channel_id" (.int lastChannelID)) channelID
  | .clear ruleName => (clearChannelAffinityCacheByRuleName redisMatch setting cache ruleName).1

/-- The answer of the cache to a request. -/
def cacheLookup (cache : HybridCache Int) (call : AffinityCall) : Option Int :=
  let (_, channelID, found) :=
    getPreferredChannelByAffinity lib setting cache call.ctx call.modelName call.usingGroup
  if found then some channelID else none

/-! ## When the cache is that map -/

/-- The parts of a request's key. -/
def parts (call : AffinityCall) : Option (List (List Char)) :=
  (matchedRule lib setting call).map fun (rule, value) =>
    cacheKeyParts rule call.modelName call.usingGroup value

/-- The parts, cut at every colon. -/
def words (parts : List (List Char)) : List (List Char) := parts.flatMap (List.splitOn ':')

/-- The parts, with a colon between them. -/
def joined (parts : List (List Char)) : List Char := [':'].intercalate parts

/-- No start of the text is lost or taken for the namespace. -/
def StartsPlain (text : List Char) : Prop :=
  text.dropWhile isSpace = text ∧ text.dropWhile (· = ':') = text ∧
    ¬channelAffinityCacheNamespace ++ [':'] <+: text

/-- What stands before every key of the cache. -/
abbrev affinityStart : List Char := channelAffinityCacheNamespace ++ [':']

/-- Deleting by the name of a rule reaches a text behind the namespace. -/
def Covers (redisOn : Bool) (ruleName text : List Char) : Prop :=
  HybridCache.isDeleted redisMatch redisOn
    (HybridCache.deletePattern channelAffinityCacheNamespace (ruleName.trimBy isSpace))
    (affinityStart ++ text) = true

instance decidableCovers (redisOn : Bool) (ruleName text : List Char) :
    Decidable (Covers redisMatch redisOn ruleName text) :=
  inferInstanceAs (Decidable (_ = true))

/-- The requests and rule names for which the texts tell the components apart. -/
structure TextsApart (redisOn : Bool) (calls : Set AffinityCall) (names : Set (List Char)) :
    Prop where
  starts : ∀ call ∈ calls, ∀ ps, parts lib setting call = some ps → StartsPlain (joined ps)
  apart : ∀ call ∈ calls, ∀ call' ∈ calls, ∀ ps ps', parts lib setting call = some ps →
    parts lib setting call' = some ps' → words ps = words ps' →
      components lib setting call = components lib setting call'
  clears : ∀ name ∈ names, ∀ i, clearedRule setting name = some i → ∀ call ∈ calls, ∀ ps key,
    parts lib setting call = some ps → components lib setting call = some key →
      (Covers redisMatch redisOn name (joined ps) ↔ key.rule = some i)

/-- An event about these requests and rule names. -/
def AffinityEvent.Within (calls : Set AffinityCall) (names : Set (List Char)) :
    AffinityEvent → Prop
  | .record call _ _ => call ∈ calls
  | .clear name => name ∈ names

/-- After every run the cache answers as the map of the components does. -/
def AnswersAsMap (redisOn : Bool) (calls : Set AffinityCall) (names : Set (List Char)) : Prop :=
  ∀ events : List AffinityEvent, (∀ e ∈ events, e.Within calls names) → ∀ call ∈ calls,
    cacheLookup lib setting
        (Run.run (cacheStep lib redisMatch setting) (emptyCache redisOn) events) call =
      AffinityMap.lookup lib setting
        (Run.run (AffinityMap.step lib setting) (fun _ => none) events) call

/-! ## Affinity values and keys -/

variable {lib redisMatch setting}

theorem extractChannelAffinityValue_trimmed (c : Context) (src : ChannelAffinityKeySource) :
    (lib.extractChannelAffinityValue c src).trimBy isSpace =
      lib.extractChannelAffinityValue c src := by
  have hrepr : ∀ n : Int, n.repr.toList.trimBy isSpace = n.repr.toList := by
    intro n
    apply List.trimBy_eq_self
    intro ch hch
    by_contra hspace
    rw [Bool.not_eq_false] at hspace
    have hdigit : ch.isDigit = false := by
      by_contra h
      exact absurd hspace (by simp [(not_isSpace_of_digit (.inl (by simpa using h))).1])
    have hsign : ch ≠ '-' := by
      rintro rfl
      exact absurd hspace (by decide)
    exact Separator.notMem_repr hdigit hsign n hch
  unfold TextLib.extractChannelAffinityValue
  split
  · split
    · rfl
    · dsimp only
      split
      · rfl
      · exact hrepr _
  · split
    · split
      · rfl
      · exact List.trimBy_trimBy _
    · split
      · split
        · rfl
        · exact List.trimBy_trimBy _
      · split
        · split
          · rfl
          · split
            · rfl
            · split
              · rfl
              · split
                · rfl
                · exact List.trimBy_trimBy _
                · exact List.trimBy_trimBy _
        · rfl

theorem affinityValue_trimmed (c : Context) (srcs : List ChannelAffinityKeySource) :
    (lib.affinityValue c srcs).trimBy isSpace = lib.affinityValue c srcs := by
  induction srcs with
  | nil => rfl
  | cons src rest ih =>
    rw [TextLib.affinityValue]
    split
    · exact extractChannelAffinityValue_trimmed c src
    · exact ih

theorem matchRule_value {c : Context} {modelName value : List Char} {rule : ChannelAffinityRule}
    (h : lib.matchRule c modelName rule = some value) :
    value ≠ [] ∧ value.rdropWhile isSpace = value := by
  unfold TextLib.matchRule at h
  split at h
  · cases h
  split at h
  · cases h
  split at h
  · cases h
  dsimp only at h
  split at h
  · cases h
  rename_i hne
  split at h
  · cases h
  · obtain rfl := Option.some.inj h
    refine ⟨hne, ?_⟩
    conv_lhs => rw [← affinityValue_trimmed, List.trimBy, List.rdropWhile_idempotent]
    exact affinityValue_trimmed c _

/-- The rule that matches, with its place. -/
theorem matchedRule_eq_some {call : AffinityCall} {rule : ChannelAffinityRule} {value : List Char}
    (h : matchedRule lib setting call = some (rule, value)) :
    setting.enabled = true ∧ lib.matchRule call.ctx call.modelName rule = some value ∧
      ∃ i, ruleIndex lib setting call = some i ∧ setting.rules[i]? = some rule := by
  unfold matchedRule at h
  split at h
  · rename_i henabled
    obtain ⟨before, a, after, hrules, ha, hbefore⟩ := List.findSome?_eq_some_iff.mp h
    obtain ⟨v, hv, heq⟩ := Option.map_eq_some_iff.mp ha
    rw [Prod.mk.injEq] at heq
    obtain ⟨rfl, rfl⟩ := heq
    refine ⟨henabled, hv, before.length, ?_, by simp [hrules]⟩
    unfold ruleIndex
    rw [hrules, List.findIdx?_append, List.findIdx?_eq_none_iff.mpr, List.findIdx?_cons, hv]
    · simp
    · intro r hr
      simpa using hbefore r hr
  · cases h

/-! ## The cache at one request -/

theorem preferredChannelLoop_spec (cache : HybridCache Int) (c : Context)
    (modelName usingGroup : List Char) (rules : List ChannelAffinityRule) :
    preferredChannelLoop lib setting cache c modelName usingGroup rules =
      match rules.findSome? fun rule => (lib.matchRule c modelName rule).map fun v => (rule, v) with
      | none => (c, 0, false)
      | some (rule, value) =>
        let text := buildChannelAffinityCacheKeySuffix rule modelName usingGroup value
        (setChannelAffinityContext c (affinityStart ++ text)
            (if rule.ttlSeconds ≤ 0 then setting.defaultTTLSeconds else rule.ttlSeconds),
          match cache.get text with
          | some channelID => (channelID, true)
          | none => (0, false)) := by
  induction rules with
  | nil => rfl
  | cons rule rest ih =>
    rw [preferredChannelLoop, List.findSome?_cons]
    cases lib.matchRule c modelName rule with
    | none => exact ih
    | some value =>
      dsimp only [Option.map_some]
      cases cache.get (buildChannelAffinityCacheKeySuffix rule modelName usingGroup value) <;> rfl

theorem cacheLookup_eq (cache : HybridCache Int) (call : AffinityCall) :
    cacheLookup lib setting cache call = (parts lib setting call).bind fun ps =>
      cache.get (joined ps) := by
  have hread : ∀ o : Option Int,
      (if (match o with
        | some channelID => (channelID, true)
        | none => (0, false)).2 = true then some (match o with
        | some channelID => (channelID, true)
        | none => (0, false)).1 else none) = o := by
    rintro (_ | _) <;> rfl
  unfold cacheLookup getPreferredChannelByAffinity parts matchedRule
  by_cases henabled : setting.enabled = true
  · simp only [if_pos henabled, preferredChannelLoop_spec]
    cases setting.rules.findSome? fun rule =>
        (lib.matchRule call.ctx call.modelName rule).map fun v => (rule, v) with
    | none => rfl
    | some found => exact hread (cache.get _)
  · simp only [if_neg henabled]
    rfl

/-- The context after the look-up. -/
theorem getPreferredChannelByAffinity_context (cache : HybridCache Int) (call : AffinityCall) :
    (getPreferredChannelByAffinity lib setting cache call.ctx call.modelName call.usingGroup).1 =
      match matchedRule lib setting call with
      | none => call.ctx
      | some (rule, value) =>
        setChannelAffinityContext call.ctx
          (affinityStart ++
            buildChannelAffinityCacheKeySuffix rule call.modelName call.usingGroup value)
          (if rule.ttlSeconds ≤ 0 then setting.defaultTTLSeconds else rule.ttlSeconds) := by
  unfold getPreferredChannelByAffinity matchedRule
  by_cases henabled : setting.enabled = true
  · simp only [if_pos henabled, preferredChannelLoop_spec]
    split <;> rfl
  · simp only [if_neg henabled]

@[simp] theorem getInt_set_self (c : Context) (key : String) (n : Int) :
    (c.set key (.int n)).getInt key = n := by
  simp [Context.getInt, Context.set]

/-- The cache key that a look-up leaves in the context. -/
theorem getChannelAffinityContext_set (c : Context) {cacheKey : List Char} (hne : cacheKey ≠ [])
    (ttlSeconds lastChannelID : Int) :
    getChannelAffinityContext
        ((setChannelAffinityContext c cacheKey ttlSeconds).set "channel_id" (.int lastChannelID)) =
      some (cacheKey, ttlSeconds) := by
  have hkey : ginKeyCacheKey ≠ "channel_id" := by decide
  have hkey' : ginKeyCacheKey ≠ ginKeyTTLSeconds := by decide
  have httl : ginKeyTTLSeconds ≠ "channel_id" := by decide
  simp only [getChannelAffinityContext, setChannelAffinityContext, Context.set, Context.getInt,
    Function.update_of_ne hkey, Function.update_of_ne hkey', Function.update_self,
    Function.update_of_ne httl, if_neg hne]

/-- What a request records. -/
theorem cacheStep_record (cache : HybridCache Int) (call : AffinityCall)
    (channelID lastChannelID : Int) :
    ∃ ttl, cacheStep lib redisMatch setting cache (.record call channelID lastChannelID) =
      match parts lib setting call, recordedChannel setting channelID lastChannelID with
      | some ps, some channel => cache.setWithTTL (affinityStart ++ joined ps) channel ttl
      | _, _ => cache := by
  simp only [cacheStep, getPreferredChannelByAffinity_context, parts, recordChannelAffinity,
    getInt_set_self, recordedChannel]
  cases hrule : matchedRule lib setting call with
  | none =>
    have hkey : ginKeyCacheKey ≠ "channel_id" := by decide
    have hnone : getChannelAffinityContext (call.ctx.set "channel_id" (.int lastChannelID)) = none := by
      simp only [getChannelAffinityContext, Context.set, Function.update_of_ne hkey, call.fresh]
    simp only [hnone, Option.map_none, ite_self]
    exact ⟨0, trivial⟩
  | some found =>
    have henabled : setting.enabled = true := (matchedRule_eq_some hrule).1
    have hne : affinityStart ++ buildChannelAffinityCacheKeySuffix found.1 call.modelName
        call.usingGroup found.2 ≠ [] := by
      simp
    simp only [getChannelAffinityContext_set _ hne, Option.map_some, henabled,
      Bool.true_eq_false, or_false]
    by_cases hid : channelID ≤ 0
    · simp only [if_pos hid]
      exact ⟨0, trivial⟩
    · simp only [if_neg hid]
      by_cases hlast : setting.switchOnSuccess = true ∧ 0 < lastChannelID
      · simp only [if_pos hlast]
        exact ⟨_, rfl⟩
      · simp only [if_neg hlast]
        exact ⟨_, rfl⟩

/-! ## Texts -/

theorem nsPrefix_affinity : channelAffinityCacheNamespace.nsPrefix = affinityStart := by
  decide

theorem parts_ne_nil {call : AffinityCall} {ps : List (List Char)}
    (h : parts lib setting call = some ps) : ps ≠ [] := by
  obtain ⟨found, -, rfl⟩ := Option.map_eq_some_iff.mp h
  simp [cacheKeyParts]

/-- The text of a request is not empty and ends in no blank. -/
theorem joined_trimmed {call : AffinityCall} {ps : List (List Char)}
    (h : parts lib setting call = some ps) :
    joined ps ≠ [] ∧ (joined ps).rdropWhile isSpace = joined ps := by
  obtain ⟨⟨rule, value⟩, hrule, rfl⟩ := Option.map_eq_some_iff.mp h
  obtain ⟨-, hmatch, -⟩ := matchedRule_eq_some hrule
  obtain ⟨hne, htrim⟩ := matchRule_value hmatch
  obtain ⟨before, hbefore⟩ : ∃ before, joined (cacheKeyParts rule call.modelName call.usingGroup
      value) = before ++ value := by
    unfold joined cacheKeyParts
    generalize ((if rule.includeRuleName ∧ rule.name ≠ [] then [rule.name] else []) ++
      (if rule.includeModelName ∧ call.modelName ≠ [] then [call.modelName] else []) ++
      (if rule.includeUsingGroup ∧ call.usingGroup ≠ [] then [call.usingGroup] else [])) = front
    induction front with
    | nil => exact ⟨[], by simp⟩
    | cons part front ih =>
      obtain ⟨before, hbefore⟩ := ih
      refine ⟨part ++ ':' :: before, ?_⟩
      rw [List.cons_append, List.intercalate_cons_of_ne_nil (by simp), hbefore]
      simp
  dsimp only
  rw [hbefore]
  refine ⟨by simp [hne], ?_⟩
  rw [List.rdropWhile_eq_self_iff]
  intro hl
  rw [List.getLast_append_of_ne_nil hl hne]
  exact List.rdropWhile_eq_self_iff.mp htrim hne

/-- The key under which a request is recorded. -/
theorem fullKey_start {call : AffinityCall} {ps : List (List Char)}
    (h : parts lib setting call = some ps) :
    channelAffinityCacheNamespace.fullKey (affinityStart ++ joined ps) =
      affinityStart ++ joined ps :=
  Namespace.fullKey_append nsPrefix_affinity (by simp) (by decide) (joined_trimmed h).2
    (joined_trimmed h).1

/-- The key under which a request is looked up is the same when its text starts plain. -/
theorem fullKey_eq_start_iff {call : AffinityCall} {ps : List (List Char)}
    (h : parts lib setting call = some ps) :
    channelAffinityCacheNamespace.fullKey (joined ps) = affinityStart ++ joined ps ↔
      StartsPlain (joined ps) :=
  Namespace.fullKey_eq_append_iff nsPrefix_affinity (by simp) (joined_trimmed h).2
    (joined_trimmed h).1

theorem joined_eq_iff {call call' : AffinityCall} {ps ps' : List (List Char)}
    (h : parts lib setting call = some ps) (h' : parts lib setting call' = some ps') :
    joined ps = joined ps' ↔ words ps = words ps' :=
  List.intercalate_eq_iff (parts_ne_nil h) (parts_ne_nil h')

theorem components_isSome {call : AffinityCall} {ps : List (List Char)}
    (h : parts lib setting call = some ps) : ∃ key, components lib setting call = some key := by
  obtain ⟨found, hrule, -⟩ := Option.map_eq_some_iff.mp h
  exact ⟨_, by rw [components, hrule, Option.map_some]⟩

/-- The components determine the parts. -/
theorem parts_eq_of_components {call call' : AffinityCall} {ps ps' : List (List Char)}
    (h : parts lib setting call = some ps) (h' : parts lib setting call' = some ps')
    (heq : components lib setting call = components lib setting call') : ps = ps' := by
  obtain ⟨⟨rule, value⟩, hrule, rfl⟩ := Option.map_eq_some_iff.mp h
  obtain ⟨⟨rule', value'⟩, hrule', rfl⟩ := Option.map_eq_some_iff.mp h'
  obtain ⟨-, -, i, hi, hget⟩ := matchedRule_eq_some hrule
  obtain ⟨-, -, i', hi', hget'⟩ := matchedRule_eq_some hrule'
  rw [components, components, hrule, hrule', Option.map_some, Option.map_some, Option.some.injEq,
    AffinityKey.mk.injEq, hi, hi'] at heq
  obtain ⟨hname, hmodel, hgroup, hvalue⟩ := heq
  have hpart : ∀ {c c' : Prop} [Decidable c] [Decidable c'] {a a' : List Char},
      (if c then some a else none) = (if c' then some a' else none) →
        (if c then [a] else []) = (if c' then [a'] else []) := by
    intro c c' _ _ a a' hopt
    split at hopt <;> split at hopt <;> simp_all
  dsimp only [cacheKeyParts] at hname hmodel hgroup hvalue ⊢
  rw [hpart hmodel, hpart hgroup, hvalue]
  congr 3
  by_cases hin : rule.includeRuleName = true ∧ rule.name ≠ []
  · rw [if_pos hin] at hname ⊢
    by_cases hin' : rule'.includeRuleName = true ∧ rule'.name ≠ []
    · rw [if_pos hin', Option.some.injEq] at hname
      rw [if_pos hin']
      rw [← hname, hget, Option.some.injEq] at hget'
      rw [hget']
    · rw [if_neg hin'] at hname
      cases hname
  · rw [if_neg hin] at hname ⊢
    by_cases hin' : rule'.includeRuleName = true ∧ rule'.name ≠ []
    · rw [if_pos hin'] at hname
      cases hname
    · rw [if_neg hin']

/-! ## Clearing a rule -/

theorem fullKey_ne_nil {name : List Char} (hne : name.trimBy isSpace ≠ []) :
    channelAffinityCacheNamespace.fullKey (name.trimBy isSpace) ≠ [] := by
  have hp : affinityStart ≠ [] := by simp
  rw [Namespace.fullKey_of_trimmed (List.trimBy_trimBy _) hne nsPrefix_affinity hp]
  split
  · exact hne
  · simp

/-- What clearing under a name does to the cache. -/
theorem cacheStep_clear (cache : HybridCache Int) (name : List Char) :
    cacheStep lib redisMatch setting cache (.clear name) =
      match clearedRule setting name with
      | none => cache
      | some _ => (cache.deleteByPrefix redisMatch (name.trimBy isSpace)).1 := by
  simp only [cacheStep, clearChannelAffinityCacheByRuleName, clearedRule]
  by_cases hname : name.trimBy isSpace = []
  · simp only [if_pos hname]
  · simp only [if_neg hname]
    cases hfind : setting.rules.find? fun r => r.name.trimBy isSpace = name.trimBy isSpace with
    | none => rfl
    | some rule =>
      obtain ⟨i, hi⟩ : ∃ i, setting.rules.findIdx? (fun r =>
          r.name.trimBy isSpace = name.trimBy isSpace) = some i := by
        rw [← Option.isSome_iff_exists, List.findIdx?_isSome, List.any_eq_true]
        exact ⟨rule, List.mem_of_find?_eq_some hfind, List.find?_some
          (p := fun r : ChannelAffinityRule => decide (r.name.trimBy isSpace = name.trimBy isSpace))
          hfind⟩
      dsimp only
      cases rule.includeRuleName with
      | false => rfl
      | true =>
        simp only [hi, Bool.true_eq_false, if_false, if_true]

theorem clearedRule_name {name : List Char} {i : Nat} (h : clearedRule setting name = some i) :
    name.trimBy isSpace ≠ [] := by
  intro hname
  simp only [clearedRule, if_pos hname] at h
  cases h

/-! ## Runs -/

/-- The cache holds what the map holds of these requests, and nothing else. -/
structure Related (lib : TextLib) (setting : ChannelAffinitySetting) (redisOn : Bool)
    (calls : Set AffinityCall) (cache : HybridCache Int) (m : AffinityMap) : Prop where
  ns : cache.ns = channelAffinityCacheNamespace
  redisOn : cache.redisOn = redisOn
  keys : ∀ k ∈ cache.entries, ∃ call ∈ calls, ∃ ps, parts lib setting call = some ps ∧
    k = affinityStart ++ joined ps
  value : ∀ call ∈ calls, ∀ ps key, parts lib setting call = some ps →
    components lib setting call = some key →
      (cache.entries.lookup (affinityStart ++ joined ps)).map Prod.fst = m key

variable {redisOn : Bool} {calls : Set AffinityCall} {names : Set (List Char)}

theorem related_empty : Related lib setting redisOn calls (emptyCache redisOn) fun _ => none where
  ns := rfl
  redisOn := rfl
  keys := fun k hk => absurd hk (AList.notMem_empty k)
  value := fun _ _ _ _ _ _ => rfl

theorem related_record (hapart : TextsApart lib redisMatch setting redisOn calls names)
    {cache : HybridCache Int} {m : AffinityMap}
    (hrel : Related lib setting redisOn calls cache m) {call : AffinityCall} (hcall : call ∈ calls)
    (channelID lastChannelID : Int) :
    Related lib setting redisOn calls
      (cacheStep lib redisMatch setting cache (.record call channelID lastChannelID))
      (m.step lib setting (.record call channelID lastChannelID)) := by
  obtain ⟨ttl, hstep⟩ := @cacheStep_record lib redisMatch setting cache call channelID lastChannelID
  rw [hstep, AffinityMap.step]
  cases hps : parts lib setting call with
  | none =>
    have hnone : components lib setting call = none := by
      rw [components, Option.map_eq_none_iff]
      exact Option.map_eq_none_iff.mp hps
    rw [hnone]
    exact hrel
  | some ps =>
    obtain ⟨key, hkey⟩ := components_isSome hps
    rw [hkey]
    cases recordedChannel setting channelID lastChannelID with
    | none => exact hrel
    | some channel =>
      have hfull : cache.ns.fullKey (affinityStart ++ joined ps) = affinityStart ++ joined ps := by
        rw [hrel.ns]
        exact fullKey_start hps
      have hlookup := @HybridCache.lookup_setWithTTL _ _ _ _ channel ttl hfull (by simp)
      refine ⟨?_, ?_, fun k hk => ?_, fun call' hcall' ps' key' hps' hkey' => ?_⟩
      · rw [HybridCache.setWithTTL_ns, hrel.ns]
      · rw [HybridCache.setWithTTL_redisOn, hrel.redisOn]
      · rw [← AList.lookup_isSome, hlookup] at hk
        split at hk
        · exact ⟨call, hcall, ps, hps, by assumption⟩
        · exact hrel.keys k (AList.lookup_isSome.mp hk)
      · rw [hlookup]
        by_cases htext : joined ps' = joined ps
        · have hsame := hapart.apart call' hcall' call hcall ps' ps hps' hps
            ((joined_eq_iff hps' hps).mp htext)
          rw [hkey', hkey, Option.some.injEq] at hsame
          rw [htext, if_pos rfl, hsame]
          dsimp only
          rw [Function.update_self, Option.map_some]
        · have hdiff : key' ≠ key := by
            rintro rfl
            exact htext (congrArg joined (parts_eq_of_components hps' hps (hkey'.trans hkey.symm)))
          have hne : ¬affinityStart ++ joined ps' = affinityStart ++ joined ps := fun h =>
            htext (List.append_cancel_left h)
          rw [if_neg hne]
          dsimp only
          rw [Function.update_of_ne hdiff]
          exact hrel.value call' hcall' ps' key' hps' hkey'

theorem related_clear (hapart : TextsApart lib redisMatch setting redisOn calls names)
    {cache : HybridCache Int} {m : AffinityMap}
    (hrel : Related lib setting redisOn calls cache m) {name : List Char} (hname : name ∈ names) :
    Related lib setting redisOn calls (cacheStep lib redisMatch setting cache (.clear name))
      (m.step lib setting (.clear name)) := by
  rw [cacheStep_clear, AffinityMap.step]
  cases hrule : clearedRule setting name with
  | none => exact hrel
  | some i =>
    have hfull : ∀ k ∈ cache.entries, cache.ns.fullKey k = k ∧ k ≠ [] := by
      intro k hk
      obtain ⟨call, -, ps, hps, rfl⟩ := hrel.keys k hk
      rw [hrel.ns]
      exact ⟨fullKey_start hps, by simp⟩
    have hne : cache.ns.fullKey (name.trimBy isSpace) ≠ [] := by
      rw [hrel.ns]
      exact fullKey_ne_nil (clearedRule_name hrule)
    have hlookup := @HybridCache.lookup_deleteByPrefix _ redisMatch _ _ hfull hne
    have hframe := HybridCache.deleteByPrefix_frame redisMatch cache (name.trimBy isSpace)
    refine ⟨hframe.1.trans hrel.ns, hframe.2.trans hrel.redisOn, fun k hk => ?_,
      fun call hcall ps key hps hkey => ?_⟩
    · rw [← AList.lookup_isSome, hlookup] at hk
      split at hk
      · cases hk
      · exact hrel.keys k (AList.lookup_isSome.mp hk)
    · have hcovers := hapart.clears name hname i hrule call hcall ps key hps hkey
      rw [hlookup, hrel.ns, hrel.redisOn]
      dsimp only
      unfold Covers at hcovers
      by_cases hsame : key.rule = some i
      · rw [if_pos (hcovers.mpr hsame), if_pos hsame]
        rfl
      · rw [if_neg fun h => hsame (hcovers.mp h), if_neg hsame]
        exact hrel.value call hcall ps key hps hkey

theorem related_run (hapart : TextsApart lib redisMatch setting redisOn calls names)
    {cache : HybridCache Int} {m : AffinityMap}
    (hrel : Related lib setting redisOn calls cache m) {events : List AffinityEvent}
    (hevents : ∀ e ∈ events, e.Within calls names) :
    Related lib setting redisOn calls (Run.run (cacheStep lib redisMatch setting) cache events)
      (Run.run (AffinityMap.step lib setting) m events) := by
  induction events generalizing cache m with
  | nil => exact hrel
  | cons e events ih =>
    have hwithin := hevents e List.mem_cons_self
    rw [Run.run_cons, Run.run_cons]
    refine ih ?_ fun e' he' => hevents e' (List.mem_cons_of_mem e he')
    cases e with
    | record call channelID lastChannelID =>
      exact related_record hapart hrel hwithin channelID lastChannelID
    | clear name => exact related_clear hapart hrel hwithin

/-- Related states answer alike. -/
theorem lookup_of_related (hapart : TextsApart lib redisMatch setting redisOn calls names)
    {cache : HybridCache Int} {m : AffinityMap}
    (hrel : Related lib setting redisOn calls cache m) {call : AffinityCall} (hcall : call ∈ calls) :
    cacheLookup lib setting cache call = m.lookup lib setting call := by
  rw [cacheLookup_eq, AffinityMap.lookup]
  cases hps : parts lib setting call with
  | none =>
    have hnone : components lib setting call = none := by
      rw [components, Option.map_eq_none_iff]
      exact Option.map_eq_none_iff.mp hps
    rw [hnone]
    rfl
  | some ps =>
    obtain ⟨key, hkey⟩ := components_isSome hps
    have hfull : cache.ns.fullKey (joined ps) = affinityStart ++ joined ps := by
      rw [hrel.ns]
      exact (fullKey_eq_start_iff hps).mpr (hapart.starts call hcall ps hps)
    rw [hkey, Option.bind_some, Option.bind_some, HybridCache.get_of_fullKey hfull (by simp)]
    exact hrel.value call hcall ps key hps hkey

/-! ## When the texts do not tell the components apart -/

/-- The cache after one request has recorded a channel. -/
theorem cacheStep_record_empty {call : AffinityCall} {ps : List (List Char)}
    (hps : parts lib setting call = some ps) :
    let cache := cacheStep lib redisMatch setting (emptyCache redisOn) (.record call 1 0)
    cache.ns = channelAffinityCacheNamespace ∧ cache.redisOn = redisOn ∧
      ∀ k, (cache.entries.lookup k).map Prod.fst =
        if k = affinityStart ++ joined ps then some 1 else none := by
  obtain ⟨ttl, hstep⟩ := @cacheStep_record lib redisMatch setting (emptyCache redisOn) call 1 0
  have hchannel : recordedChannel setting 1 0 = some 1 := by simp [recordedChannel]
  have hfull : (emptyCache redisOn).ns.fullKey (affinityStart ++ joined ps) =
    affinityStart ++ joined ps := fullKey_start hps
  dsimp only
  rw [hstep, hps, hchannel]
  dsimp only
  rw [HybridCache.setWithTTL_ns, HybridCache.setWithTTL_redisOn]
  refine ⟨rfl, rfl, fun k => ?_⟩
  rw [HybridCache.lookup_setWithTTL hfull (by simp)]
  split <;> rfl

theorem mapStep_record_empty {call : AffinityCall} {key : AffinityKey}
    (hkey : components lib setting call = some key) :
    AffinityMap.step lib setting (fun _ => none) (.record call 1 0) =
      Function.update (fun _ => none) key (some 1) := by
  have hchannel : recordedChannel setting 1 0 = some 1 := by simp [recordedChannel]
  rw [AffinityMap.step, hkey, hchannel]

/-- The look-up of a request in a cache with one entry. -/
theorem cacheLookup_single {cache : HybridCache Int} {full : List Char} {call : AffinityCall}
    {ps : List (List Char)} (hps : parts lib setting call = some ps)
    (hns : cache.ns = channelAffinityCacheNamespace)
    (hentries : ∀ k, (cache.entries.lookup k).map Prod.fst = if k = full then some 1 else none)
    (hfull : full ≠ []) :
    cacheLookup lib setting cache call =
      if channelAffinityCacheNamespace.fullKey (joined ps) = full then some 1 else none := by
  rw [cacheLookup_eq, hps, Option.bind_some]
  by_cases hkey : channelAffinityCacheNamespace.fullKey (joined ps) = full
  · rw [if_pos hkey, HybridCache.get_of_fullKey (hns ▸ hkey) hfull, hentries, if_pos rfl]
  · simp only [HybridCache.get, hns, hentries, if_neg hkey, ite_self]

theorem starts_of_answers (hanswers : AnswersAsMap lib redisMatch setting redisOn calls names)
    {call : AffinityCall} (hcall : call ∈ calls) {ps : List (List Char)}
    (hps : parts lib setting call = some ps) : StartsPlain (joined ps) := by
  obtain ⟨key, hkey⟩ := components_isSome hps
  have hrun := hanswers [.record call 1 0] (by simpa [AffinityEvent.Within] using hcall) call hcall
  obtain ⟨hns, -, hentries⟩ := @cacheStep_record_empty _ redisMatch _ redisOn _ _ hps
  rw [Run.run_cons, Run.run_nil, Run.run_cons, Run.run_nil, mapStep_record_empty hkey,
    AffinityMap.lookup, hkey, Option.bind_some, Function.update_self,
    cacheLookup_single hps hns hentries (by simp)] at hrun
  rw [← fullKey_eq_start_iff hps]
  by_contra hne
  rw [if_neg hne] at hrun
  cases hrun

theorem apart_of_answers (hanswers : AnswersAsMap lib redisMatch setting redisOn calls names)
    {call call' : AffinityCall} (hcall : call ∈ calls) (hcall' : call' ∈ calls)
    {ps ps' : List (List Char)} (hps : parts lib setting call = some ps)
    (hps' : parts lib setting call' = some ps') (hwords : words ps = words ps') :
    components lib setting call = components lib setting call' := by
  obtain ⟨key, hkey⟩ := components_isSome hps
  obtain ⟨key', hkey'⟩ := components_isSome hps'
  have hrun := hanswers [.record call 1 0] (by simpa [AffinityEvent.Within] using hcall) call' hcall'
  obtain ⟨hns, -, hentries⟩ := @cacheStep_record_empty _ redisMatch _ redisOn _ _ hps
  have hread : channelAffinityCacheNamespace.fullKey (joined ps') = affinityStart ++ joined ps := by
    rw [(joined_eq_iff hps hps').mpr hwords]
    exact (fullKey_eq_start_iff hps').mpr (starts_of_answers hanswers hcall' hps')
  rw [Run.run_cons, Run.run_nil, Run.run_cons, Run.run_nil, mapStep_record_empty hkey,
    AffinityMap.lookup, hkey', Option.bind_some,
    cacheLookup_single hps' hns hentries (by simp), if_pos hread] at hrun
  by_contra hne
  have hdiff : key' ≠ key := fun h => hne (by rw [hkey, hkey', h])
  rw [Function.update_of_ne hdiff] at hrun
  cases hrun

theorem clears_of_answers (hanswers : AnswersAsMap lib redisMatch setting redisOn calls names)
    {name : List Char} (hname : name ∈ names) {i : Nat} (hrule : clearedRule setting name = some i)
    {call : AffinityCall} (hcall : call ∈ calls) {ps : List (List Char)} {key : AffinityKey}
    (hps : parts lib setting call = some ps) (hkey : components lib setting call = some key) :
    Covers redisMatch redisOn name (joined ps) ↔ key.rule = some i := by
  have hwithin : ∀ e ∈ [AffinityEvent.record call 1 0, .clear name], e.Within calls names := by
    simpa [AffinityEvent.Within] using ⟨hcall, hname⟩
  have hrun := hanswers _ hwithin call hcall
  obtain ⟨hns, hon, hentries⟩ := @cacheStep_record_empty _ redisMatch _ redisOn _ _ hps
  have hread : channelAffinityCacheNamespace.fullKey (joined ps) = affinityStart ++ joined ps :=
    (fullKey_eq_start_iff hps).mpr (starts_of_answers hanswers hcall hps)
  rw [Run.run_cons, Run.run_cons, Run.run_nil, Run.run_cons, Run.run_cons, Run.run_nil,
    mapStep_record_empty hkey, cacheStep_clear, AffinityMap.step, hrule, AffinityMap.lookup, hkey,
    Option.bind_some] at hrun
  generalize cacheStep lib redisMatch setting (emptyCache redisOn) (.record call 1 0) = cache
    at hrun hns hon hentries
  have hfull : ∀ k ∈ cache.entries, cache.ns.fullKey k = k ∧ k ≠ [] := by
    intro k hk
    have hsome := hentries k
    split at hsome
    · rename_i hkeq
      rw [hkeq, hns]
      exact ⟨fullKey_start hps, by simp⟩
    · rw [Option.map_eq_none_iff, AList.lookup_eq_none] at hsome
      exact absurd hk hsome
  have hne : cache.ns.fullKey (name.trimBy isSpace) ≠ [] := by
    rw [hns]
    exact fullKey_ne_nil (clearedRule_name hrule)
  have hlookup := @HybridCache.lookup_deleteByPrefix _ redisMatch _ _ hfull hne
  have hframe := HybridCache.deleteByPrefix_frame redisMatch cache (name.trimBy isSpace)
  have hget : cacheLookup lib setting (cache.deleteByPrefix redisMatch (name.trimBy isSpace)).1 call =
      if Covers redisMatch redisOn name (joined ps) then none else some 1 := by
    have hfullKey : (cache.deleteByPrefix redisMatch (name.trimBy isSpace)).1.ns.fullKey
        (joined ps) = affinityStart ++ joined ps := by
      rw [hframe.1, hns]
      exact hread
    rw [cacheLookup_eq, hps, Option.bind_some, HybridCache.get_of_fullKey hfullKey (by simp),
      hlookup, hns, hon, apply_ite (Option.map Prod.fst), hentries, if_pos rfl, Option.map_none]
    rfl
  dsimp only at hrun
  rw [hget, Function.update_self] at hrun
  by_cases hcovers : Covers redisMatch redisOn name (joined ps)
  · rw [if_pos hcovers] at hrun
    by_cases hsame : key.rule = some i
    · exact iff_of_true hcovers hsame
    · rw [if_neg hsame] at hrun
      cases hrun
  · rw [if_neg hcovers] at hrun
    by_cases hsame : key.rule = some i
    · rw [if_pos hsame] at hrun
      cases hrun
    · exact iff_of_false hcovers hsame

/-- The cache answers as the map of the components does, whatever is recorded and cleared, exactly
    for the requests and rule names whose texts tell the components apart. -/
theorem answersAsMap_iff (lib : TextLib) (redisMatch : List Char → List Char → Bool)
    (setting : ChannelAffinitySetting) (redisOn : Bool) (calls : Set AffinityCall)
    (names : Set (List Char)) :
    AnswersAsMap lib redisMatch setting redisOn calls names ↔
      TextsApart lib redisMatch setting redisOn calls names := by
  constructor
  · intro hanswers
    refine ⟨fun call hcall ps hps => starts_of_answers hanswers hcall hps,
      fun call hcall call' hcall' ps ps' hps hps' hwords =>
        apart_of_answers hanswers hcall hcall' hps hps' hwords,
      fun name hname i hrule call hcall ps key hps hkey =>
        clears_of_answers hanswers hname hrule hcall hps hkey⟩
  · intro hapart events hevents call hcall
    exact lookup_of_related hapart (related_run hapart related_empty hevents) hcall

/-! ### A session of another model -/

/-- Texts for which every pattern matches and no JSON path exists. -/
def matchAllLib : TextLib where
  regexCompile := fun _ => some fun _ => true
  gjsonGet := fun _ _ => .missing
  toLower := id

/-- The rule of the default settings for sessions. -/
def tokenRouterSession : ChannelAffinityRule where
  name := "token router session".toList
  modelRegex := [".*".toList]
  pathRegex := ["/v1/chat/completions".toList, "/v1/responses".toList, "/v1/messages".toList]
  userAgentInclude := []
  keySources :=
    [⟨"request_header", "X-Session-Id", ""⟩, ⟨"request_header", "X-Session-ID", ""⟩,
      ⟨"gjson", "", "session_id"⟩, ⟨"gjson", "", "prompt_cache_key"⟩, ⟨"gjson", "", "user"⟩]
  valueRegex := []
  ttlSeconds := 0
  includeUsingGroup := true
  includeModelName := true
  includeRuleName := true

def sessionSetting : ChannelAffinitySetting where
  enabled := true
  switchOnSuccess := true
  defaultTTLSeconds := 3600
  rules := [tokenRouterSession]

/-- A chat request with a session header. -/
def sessionCall (modelName session : String) : AffinityCall where
  ctx :=
    { keys := fun _ => none
      header := fun _ => session.toList
      body := none
      path := "/v1/chat/completions".toList
      userAgent := [] }
  modelName := modelName.toList
  usingGroup := "default".toList
  fresh := rfl

/-- A client of another model picks a session that finds the channel of `qwen:default`. -/
theorem session_found_for_other_model :
    components matchAllLib sessionSetting (sessionCall "qwen:default" "1") ≠
        components matchAllLib sessionSetting (sessionCall "qwen" "default:1") ∧
      cacheLookup matchAllLib sessionSetting
          (cacheStep matchAllLib (fun _ _ => false) sessionSetting (emptyCache false)
            (.record (sessionCall "qwen:default" "1") 7 7))
          (sessionCall "qwen" "default:1") = some 7 := by
  decide

end TokenRouter.ChannelAffinity
