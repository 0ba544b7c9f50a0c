import TokenRouter.Common.Json
import TokenRouter.ForStd.Chain
import TokenRouter.ForStd.Run
import TokenRouter.Relay.ModelMapped

/-!
# Model redirection follows the chain

A mapping leads from each model to the next one, and a model that is mapped to nothing or to itself
is the end. An attempt arrives at the end of the chain from the model it starts with, or fails if
there is none. It starts with the origin model name, which an attempt in compact mode replaces by
its own end: a later attempt follows the chain of the requested model only while that name stands.

## Key results

- `mapModel_followsChain`: an attempt follows the chain from its origin model name
- `modelRedirect_iff`: when it is the chain of the requested model
-/

namespace TokenRouter.ModelMapped

open Relation (ReflTransGen TransGen)

/-- Where a mapping leads from a model. -/
def redirect (modelMap : GoMap String) (model : String) : Option String :=
  (GoMap.get? modelMap model).filter fun mapped => mapped ≠ "" ∧ mapped ≠ model

/-- An attempt ends, fails just if the chain enters a cycle, and otherwise sends the model at the end
    of the chain. -/
structure FollowsChain (modelMap : GoMap String) (model : String)
    (result : Option (Except String ModelNames)) : Prop where
  returns : result ≠ none
  cycle : (∃ err, result = some (.error err)) ↔ Chain.Cyclic (redirect modelMap) model
  ended : ∀ info, result = some (.ok info) →
    Chain.EndsAt (redirect modelMap) model info.upstreamModelName ∧
      info.requestModel = info.upstreamModelName

/-! ## The loop -/

section Loop

variable {modelMap : GoMap String} {model originModelName : String}

theorem redirect_eq_some {a b : String} :
    redirect modelMap a = some b ↔ GoMap.get? modelMap a = some b ∧ b ≠ "" ∧ b ≠ a := by
  simp [redirect, Option.filter_eq_some_iff]

theorem redirect_eq_none {a : String} (h : ∀ b, GoMap.get? modelMap a = some b → b = "" ∨ b = a) :
    redirect modelMap a = none := by
  cases hget : redirect modelMap a with
  | none => rfl
  | some b =>
    obtain ⟨hb, hne, hself⟩ := redirect_eq_some.mp hget
    rcases h b hb with heq | heq
    · exact absurd heq hne
    · exact absurd heq hself

/-- What the loop comes to. -/
def LoopSpec (modelMap : GoMap String) (model originModelName : String) : LoopEnd → Prop
  | .followed e isModelMapped => Chain.EndsAt (redirect modelMap) model e ∧
      (isModelMapped = false → e = model) ∧ (isModelMapped = true → e ≠ "")
  | .unmapped => Chain.EndsAt (redirect modelMap) model originModelName
  | .cycle => Chain.Cyclic (redirect modelMap) model

/-- The models that the loop has visited: they lead to the current one, and those before it are
    mapped. -/
structure LoopInv (modelMap : GoMap String) (model : String) (past : List String)
    (currentModel : String) (isModelMapped : Bool) : Prop where
  nodup : (currentModel :: past).Nodup
  mapped : ∀ m ∈ past, m ∈ modelMap.map Prod.fst
  reached : ReflTransGen (Chain.Step (redirect modelMap)) model currentModel
  leads : ∀ m ∈ past, ReflTransGen (Chain.Step (redirect modelMap)) m currentModel
  unmapped : isModelMapped = false → currentModel = model
  named : isModelMapped = true → currentModel ≠ ""

/-- With a turn for each key of the map and one more, the loop ends. -/
theorem followMapping_spec (fuel : Nat) (past : List String) (currentModel : String)
    (isModelMapped : Bool) (hinv : LoopInv modelMap model past currentModel isModelMapped)
    (hfuel : modelMap.length + 1 ≤ fuel + past.length) :
    ∃ out, followMapping modelMap originModelName fuel (currentModel :: past) currentModel
        isModelMapped = some out ∧ LoopSpec modelMap model originModelName out := by
  induction fuel generalizing past currentModel isModelMapped with
  | zero =>
    -- more models were mapped than there are keys
    have hle : past.length ≤ (modelMap.map Prod.fst).length :=
      ((List.nodup_cons.mp hinv.nodup).2.subperm hinv.mapped).length_le
    rw [List.length_map] at hle
    omega
  | succ fuel ih =>
    rw [followMapping]
    cases hget : GoMap.get? modelMap currentModel with
    | none =>
      have hstop : redirect modelMap currentModel = none := by
        rw [redirect, hget]
        rfl
      exact ⟨_, rfl, ⟨hinv.reached, hstop⟩, hinv.unmapped, hinv.named⟩
    | some mappedModel =>
      dsimp only
      by_cases hempty : mappedModel = ""
      · have hstop : redirect modelMap currentModel = none :=
          redirect_eq_none fun b hb => .inl (by rw [hget] at hb; exact Option.some.inj hb ▸ hempty)
        rw [if_pos hempty]
        exact ⟨_, rfl, ⟨hinv.reached, hstop⟩, hinv.unmapped, hinv.named⟩
      rw [if_neg hempty]
      by_cases hvisited : mappedModel ∈ currentModel :: past
      · rw [if_pos hvisited]
        by_cases hself : mappedModel = currentModel
        · have hstop : redirect modelMap currentModel = none :=
            redirect_eq_none fun b hb => .inr (by rw [hget] at hb; exact Option.some.inj hb ▸ hself)
          rw [if_pos hself]
          by_cases horigin : currentModel = originModelName
          · rw [if_pos horigin]
            exact ⟨_, rfl, horigin ▸ ⟨hinv.reached, hstop⟩⟩
          · rw [if_neg horigin]
            exact ⟨_, rfl, ⟨hinv.reached, hstop⟩, (nomatch ·), fun _ => hself ▸ hempty⟩
        · -- the model leads back to the current one
          rw [if_neg hself]
          have hstep : Chain.Step (redirect modelMap) currentModel mappedModel :=
            redirect_eq_some.mpr ⟨hget, hempty, hself⟩
          have hback := hinv.leads mappedModel
            ((List.mem_cons.mp hvisited).resolve_left hself)
          exact ⟨_, rfl, currentModel, hinv.reached, TransGen.head' hstep hback⟩
      · rw [if_neg hvisited]
        have hself : mappedModel ≠ currentModel := fun h => hvisited (h ▸ List.mem_cons_self)
        have hstep : Chain.Step (redirect modelMap) currentModel mappedModel :=
          redirect_eq_some.mpr ⟨hget, hempty, hself⟩
        have hkey : currentModel ∈ modelMap.map Prod.fst := by
          by_contra hnot
          rw [(GoMap.get?_eq_none_iff modelMap currentModel).mpr hnot] at hget
          cases hget
        refine ih (currentModel :: past) mappedModel true ?_ (by simp only [List.length_cons]; omega)
        refine ⟨List.nodup_cons.mpr ⟨hvisited, hinv.nodup⟩, ?_, hinv.reached.tail hstep, ?_,
          (nomatch ·), fun _ => hempty⟩
        · intro m hm
          rcases List.mem_cons.mp hm with rfl | hm
          · exact hkey
          · exact hinv.mapped m hm
        · intro m hm
          rcases List.mem_cons.mp hm with rfl | hm
          · exact .single hstep
          · exact (hinv.leads m hm).tail hstep

end Loop

/-! ## An attempt -/

/-- What is sent behind the loop. -/
theorem finishMapping_names (isResponsesCompact : Bool) (info : ModelNames) :
    (finishMapping isResponsesCompact info).upstreamModelName =
        (if isResponsesCompact then
          if info.isModelMapped ∧ info.upstreamModelName ≠ "" then info.upstreamModelName
          else mappingModelName isResponsesCompact info.originModelName
        else info.upstreamModelName) ∧
      (finishMapping isResponsesCompact info).requestModel =
        (finishMapping isResponsesCompact info).upstreamModelName := by
  cases isResponsesCompact <;> exact ⟨rfl, rfl⟩

/-- An attempt follows the chain from its origin model name. -/
theorem mapModel_followsChain (isResponsesCompact : Bool) (modelMap : GoMap String)
    (originModelName : String) :
    FollowsChain modelMap (mappingModelName isResponsesCompact originModelName)
      (mapModel isResponsesCompact modelMap (initChannelMeta originModelName)) := by
  have hinv : LoopInv modelMap (mappingModelName isResponsesCompact originModelName) []
      (mappingModelName isResponsesCompact originModelName) false :=
    { nodup := List.nodup_singleton _
      mapped := List.forall_mem_nil _
      reached := .refl
      leads := List.forall_mem_nil _
      unmapped := fun _ => rfl
      named := fun h => nomatch h }
  obtain ⟨out, hout, hspec⟩ : ∃ out, followMapping modelMap
      (initChannelMeta originModelName).originModelName (modelMap.length + 1)
      [mappingModelName isResponsesCompact (initChannelMeta originModelName).originModelName]
      (mappingModelName isResponsesCompact (initChannelMeta originModelName).originModelName)
      (initChannelMeta originModelName).isModelMapped = some out ∧
        LoopSpec modelMap (mappingModelName isResponsesCompact originModelName) originModelName out :=
    followMapping_spec (modelMap.length + 1) [] _ false hinv (by simp)
  unfold mapModel
  dsimp only
  rw [hout]
  cases out with
  | cycle =>
    refine ⟨Option.some_ne_none _, iff_of_true ⟨_, rfl⟩ hspec, fun info h => ?_⟩
    cases h
  | unmapped =>
    refine ⟨Option.some_ne_none _, iff_of_false ?_ (Chain.not_cyclic_of_endsAt hspec), ?_⟩
    · rintro ⟨err, h⟩
      cases h
    · rintro info ⟨⟩
      exact ⟨hspec, rfl⟩
  | followed e isModelMapped =>
    obtain ⟨hend, hsame, hnamed⟩ := hspec
    refine ⟨Option.some_ne_none _, iff_of_false ?_ (Chain.not_cyclic_of_endsAt hend), ?_⟩
    · rintro ⟨err, h⟩
      cases h
    · rintro info h
      obtain rfl := Except.ok.inj (Option.some.inj h)
      obtain ⟨hupstream, hsent⟩ := finishMapping_names isResponsesCompact
        { initChannelMeta originModelName with
          isModelMapped := isModelMapped
          upstreamModelName :=
            if isModelMapped then e else (initChannelMeta originModelName).upstreamModelName }
      refine ⟨?_, hsent⟩
      rw [hupstream]
      cases isModelMapped with
      | false =>
        obtain rfl := hsame rfl
        cases isResponsesCompact <;> exact hend
      | true =>
        have hne := hnamed rfl
        cases isResponsesCompact
        · exact hend
        · simpa [hne] using hend

/-- The map that a `model_mapping` is decoded into; without one it is empty. -/
def modelMapOf (reader : JsonReader) (modelMapping : String) : Option (GoMap String) :=
  if modelMapping ≠ "" ∧ modelMapping ≠ "\x7b\x7d" then
    match loadFromJsonString reader decodeString modelMapping with
    | (modelMap, none) => some modelMap
    | (_, some _) => none
  else some []

/-- Without a mapping the helper does what it does with an empty one. -/
theorem modelMappedHelper_eq {reader : JsonReader} {modelMapping : String}
    {modelMap : GoMap String} (h : modelMapOf reader modelMapping = some modelMap)
    (isResponsesCompact : Bool) (originModelName : String) :
    modelMappedHelper reader isResponsesCompact modelMapping (initChannelMeta originModelName) =
      mapModel isResponsesCompact modelMap (initChannelMeta originModelName) := by
  unfold modelMapOf at h
  unfold modelMappedHelper
  split at h
  · rename_i hmapping
    rw [if_pos hmapping]
    split at h
    · rename_i hload
      cases h
      simp only [hload]
    · cases h
  · rename_i hmapping
    cases h
    rw [if_neg hmapping]
    rfl

/-! ## Attempts -/

section Attempts

variable (reader : JsonReader) (isResponsesCompact : Bool)

/-- The origin model name after some attempts of a request. -/
def originAfter (requested : String) (attempts : List MappedAttempt) : String :=
  Run.run (afterAttempt reader isResponsesCompact) requested attempts

/-- After any attempts, the next one follows the chain of the requested model for every mapping
    exactly if the origin model name still stands for that model. -/
theorem modelRedirect_iff (requested : String) (attempts : List MappedAttempt) :
    (∀ modelMapping modelMap, modelMapOf reader modelMapping = some modelMap →
      FollowsChain modelMap (mappingModelName isResponsesCompact requested)
        (modelMappedHelper reader isResponsesCompact modelMapping
          (initChannelMeta (originAfter reader isResponsesCompact requested attempts)))) ↔
      mappingModelName isResponsesCompact (originAfter reader isResponsesCompact requested attempts) =
        mappingModelName isResponsesCompact requested := by
  generalize originAfter reader isResponsesCompact requested attempts = originModelName
  constructor
  · intro h
    -- without a mapping, each chain ends where it starts
    have hstay : ∀ model, Chain.EndsAt (redirect []) model model := fun model => ⟨.refl, rfl⟩
    have hasked := h "" [] rfl
    have hdone := mapModel_followsChain isResponsesCompact [] originModelName
    rw [modelMappedHelper_eq (rfl : modelMapOf reader "" = some [])] at hasked
    cases hresult : mapModel isResponsesCompact [] (initChannelMeta originModelName) with
    | none => exact absurd hresult hdone.returns
    | some result =>
      cases result with
      | error err =>
        exact absurd (hdone.cycle.mp ⟨err, hresult⟩) (Chain.not_cyclic_of_endsAt (hstay _))
      | ok info =>
        exact (Chain.endsAt_unique (hstay _) (hdone.ended info hresult).1).trans
          (Chain.endsAt_unique (hasked.ended info hresult).1 (hstay _))
  · intro h modelMapping modelMap hmap
    rw [modelMappedHelper_eq hmap, ← h]
    exact mapModel_followsChain isResponsesCompact modelMap originModelName

end Attempts

/-! ## A compact request that is sent again -/

/-- A reader of the mapping `{"m": "x"}`. -/
def redirectReader : JsonReader where
  parse := fun s => if s = "m:x" then some (.obj [("m", .str "x")]) else none
  parseFloat := fun _ => none

/-- The second attempt of a compact request for `m` is sent to the model of the first. -/
theorem compact_retry_redirected :
    ¬ ∀ (reader : JsonReader) (isResponsesCompact : Bool) (requested : String)
      (attempts : List MappedAttempt) (modelMapping : String) (modelMap : GoMap String),
      modelMapOf reader modelMapping = some modelMap →
      FollowsChain modelMap (mappingModelName isResponsesCompact requested)
        (modelMappedHelper reader isResponsesCompact modelMapping
          (initChannelMeta (originAfter reader isResponsesCompact requested attempts))) := by
  intro h
  have hchain := h redirectReader true "m-openai-compact" [{ modelMapping := "m:x" }] "" [] rfl
  have hresult : modelMappedHelper redirectReader true ""
      (initChannelMeta (originAfter redirectReader true "m-openai-compact"
        [{ modelMapping := "m:x" }])) =
      some (.ok
        { originModelName := "x-openai-compact"
          upstreamModelName := "x"
          requestModel := "x" }) := by decide
  have hend := (hchain.ended _ hresult).1
  have hstay : Chain.EndsAt (redirect []) "m" "m" := ⟨.refl, rfl⟩
  exact absurd (Chain.endsAt_unique hstay hend) (by decide)

end TokenRouter.ModelMapped
