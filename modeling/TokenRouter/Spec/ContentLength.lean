import TokenRouter.ForStd.Run
import TokenRouter.Relay.UpstreamBody

/-!
# The content length of the upstream requests

The noted size belongs to the request as a whole: an attempt that passes the client's body
through finds the size that an earlier attempt has noted for its own body.

## Key results

- `requestBody_noted`: a size that is noted is that of the attempt's own body
- `requestBody_unnoted`: when none is noted
- `attempt_lengthRight_iff`: one attempt
- `textHelper_lengths_iff`: all attempts of a request
-/

namespace TokenRouter.RelayLoop

variable {V R E : Type} {passThroughBodyEnabled : V → Bool}

/-- The content length is unset, or the number of bytes that are sent. -/
def UpstreamRequest.LengthRight (r : UpstreamRequest) : Prop :=
  r.contentLength = 0 ∨ r.contentLength = r.body.length

instance (r : UpstreamRequest) : Decidable r.LengthRight :=
  inferInstanceAs (Decidable (_ ∨ _))

/-- The requests of all attempts, each with the `RelayInfo` that the one before has left. -/
def requestsOf (attempt : BodyInfo V → BodyCalls V R E → BodyInfo V × Option UpstreamRequest) :
    BodyInfo V → List (BodyCalls V R E) → List UpstreamRequest
  | _, [] => []
  | info, calls :: rest =>
    (attempt info calls).2.toList ++ requestsOf attempt (attempt info calls).1 rest

/-- The client's body, if the attempt is to pass it through and nothing fails before it is sent. -/
def BodyCalls.passedThrough (passThroughBodyEnabled : V → Bool) (calls : BodyCalls V R E) :
    Option (List UInt8) :=
  let m := initChannelMeta calls.apiVersionQuery calls.ctx
  if calls.passThroughRequestEnabled || m.passThroughBody passThroughBodyEnabled then
    match calls.prepare m, calls.getBodyStorage, calls.send with
    | .ok (), .ok storage, .ok () => some storage
    | _, _, _ => none
  else none

/-- No size is noted when a body is passed through, or by chance its own. -/
def NotedSizeFits (passThroughBodyEnabled : V → Bool) (info : BodyInfo V)
    (calls : BodyCalls V R E) : Prop :=
  ∀ storage ∈ calls.passedThrough passThroughBodyEnabled,
    info.upstreamRequestBodySize ≤ 0 ∨ info.upstreamRequestBodySize = storage.length

/-! ## One attempt -/

theorem except_bind_eq_ok {α β : Type} {x : Except E α} {f : α → Except E β} {b : β} :
    (x >>= f) = .ok b ↔ ∃ a, x = .ok a ∧ f a = .ok b := by
  cases x with
  | error e => exact ⟨fun h => (nomatch h), fun ⟨a, h, _⟩ => (nomatch h)⟩
  | ok a => exact ⟨fun h => ⟨a, rfl, h⟩, fun ⟨_, h, h'⟩ => by cases h; exact h'⟩

theorem newOutboundJSONBody_size {calls : BodyCalls V R E} {data body : List UInt8} {size : Int}
    (h : newOutboundJSONBody calls data = .ok (body, size)) : size = body.length := by
  obtain ⟨-, -, hbody⟩ := except_bind_eq_ok.mp h
  cases hbody
  rfl

/-- The length that a request gets is the noted size. -/
theorem doApiRequest_lengthRight {calls : BodyCalls V R E} {info : BodyInfo V}
    {body : List UInt8} :
    (∀ r ∈ doApiRequest calls info body, r.LengthRight) ↔
      (calls.send = .ok () →
        info.upstreamRequestBodySize ≤ 0 ∨ info.upstreamRequestBodySize = body.length) := by
  unfold doApiRequest
  cases calls.send with
  | error e => simp
  | ok _ =>
    simp only [Option.mem_some_iff, forall_eq', forall_const]
    unfold UpstreamRequest.LengthRight applyUpstreamContentLength newRequest
    by_cases hsize : info.upstreamRequestBodySize > 0
    · rw [if_pos ⟨hsize, le_refl _⟩]
      show info.upstreamRequestBodySize = 0 ∨ info.upstreamRequestBodySize = body.length ↔ _
      omega
    · rw [if_neg (fun h => hsize h.1)]
      show (0 : Int) = 0 ∨ (0 : Int) = body.length ↔ _
      omega

variable {h : BodyHandler} {relayMode : Int} {calls : BodyCalls V R E} {m : ChannelMeta V}
  {body : List UInt8}

/-- A size is noted only for the body that is sent with it. -/
theorem requestBody_noted {size : Int}
    (hbody : h.requestBody passThroughBodyEnabled relayMode calls m = .ok (body, some size)) :
    size = body.length := by
  unfold BodyHandler.requestBody at hbody
  obtain ⟨-, -, hbody⟩ := except_bind_eq_ok.mp hbody
  dsimp only at hbody
  -- both ways of converting end in `NewOutboundJSONBody`
  split at hbody
  · obtain ⟨jsonData, -, hbody⟩ := except_bind_eq_ok.mp hbody
    obtain ⟨⟨body', size'⟩, hnew, hbody⟩ := except_bind_eq_ok.mp hbody
    cases hbody
    exact newOutboundJSONBody_size hnew
  · split at hbody
    · obtain ⟨storage, -, hbody⟩ := except_bind_eq_ok.mp hbody
      cases hnotes : h.notesPassThrough with
      | true =>
        rw [hnotes] at hbody
        cases hbody
        rfl
      | false =>
        rw [hnotes] at hbody
        cases hbody
    · obtain ⟨jsonData, -, hbody⟩ := except_bind_eq_ok.mp hbody
      obtain ⟨⟨body', size'⟩, hnew, hbody⟩ := except_bind_eq_ok.mp hbody
      cases hbody
      exact newOutboundJSONBody_size hnew

/-- No size is noted for a body that is passed through, unless the handler does so. -/
theorem requestBody_unnoted :
    h.requestBody passThroughBodyEnabled relayMode calls m = .ok (body, none) ↔
      h.notesPassThrough = false ∧ calls.prepare m = .ok () ∧
        (calls.passThroughRequestEnabled || m.passThroughBody passThroughBodyEnabled) = true ∧
        calls.getBodyStorage = .ok body := by
  unfold BodyHandler.requestBody
  cases hpass : calls.passThroughRequestEnabled || m.passThroughBody passThroughBodyEnabled with
  | false =>
    refine iff_of_false ?_ (fun hright => Bool.false_ne_true hright.2.2.1)
    intro hbody
    obtain ⟨-, -, hbody⟩ := except_bind_eq_ok.mp hbody
    simp only [Bool.false_eq_true, if_false] at hbody
    split at hbody
    · obtain ⟨jsonData, -, hbody⟩ := except_bind_eq_ok.mp hbody
      obtain ⟨pair, -, hbody⟩ := except_bind_eq_ok.mp hbody
      cases hbody
    · obtain ⟨jsonData, -, hbody⟩ := except_bind_eq_ok.mp hbody
      obtain ⟨pair, -, hbody⟩ := except_bind_eq_ok.mp hbody
      cases hbody
  | true =>
    have hdirect : h.usesResponses relayMode true calls = false := by
      simp [BodyHandler.usesResponses]
    simp only [hdirect, Bool.false_eq_true, if_false, if_true, true_and]
    constructor
    · intro hbody
      obtain ⟨u, hprepare, hbody⟩ := except_bind_eq_ok.mp hbody
      obtain ⟨storage, hstorage, hbody⟩ := except_bind_eq_ok.mp hbody
      cases hnotes : h.notesPassThrough with
      | true =>
        rw [hnotes] at hbody
        cases hbody
      | false =>
        rw [hnotes] at hbody
        cases hbody
        exact ⟨rfl, hprepare, hstorage⟩
    · rintro ⟨hnotes, hprepare, hstorage⟩
      rw [hprepare, hstorage, hnotes]
      rfl

/-- A client's body that is sent is the body of the attempt. -/
theorem BodyCalls.passedThrough_requestBody {storage : List UInt8}
    (hstorage : storage ∈ calls.passedThrough passThroughBodyEnabled)
    (hnotes : h.notesPassThrough = false) :
    h.requestBody passThroughBodyEnabled relayMode calls
      (initChannelMeta calls.apiVersionQuery calls.ctx) = .ok (storage, none) := by
  unfold BodyCalls.passedThrough at hstorage
  dsimp only at hstorage
  split at hstorage
  · rename_i hpass
    split at hstorage
    · rename_i hprepare hget hsend
      cases hstorage
      exact requestBody_unnoted.mpr ⟨hnotes, hprepare, hpass, hget⟩
    · cases hstorage
  · cases hstorage

/-- The request of an attempt has the right length just when a noted size fits the body that
    is passed through; with a handler that notes every size it always does. -/
theorem attempt_lengthRight_iff {info : BodyInfo V} :
    (∀ r ∈ (h.attempt passThroughBodyEnabled info calls).2, r.LengthRight) ↔
      (h.notesPassThrough = false → NotedSizeFits passThroughBodyEnabled info calls) := by
  unfold BodyHandler.attempt NotedSizeFits
  dsimp only
  cases hbody : h.requestBody passThroughBodyEnabled info.relayMode calls
      (initChannelMeta calls.apiVersionQuery calls.ctx) with
  | error e =>
    refine iff_of_true (fun r hr => nomatch hr) ?_
    intro hnotes storage hstorage
    rw [BodyCalls.passedThrough_requestBody hstorage hnotes] at hbody
    cases hbody
  | ok pair =>
    obtain ⟨body, noted⟩ := pair
    cases noted with
    | some size =>
      have hsize := requestBody_noted hbody
      refine iff_of_true (doApiRequest_lengthRight.mpr fun _ => .inr hsize) ?_
      intro hnotes storage hstorage
      rw [BodyCalls.passedThrough_requestBody hstorage hnotes] at hbody
      cases hbody
    | none =>
      obtain ⟨hnotes, hprepare, hpass, hget⟩ := requestBody_unnoted.mp hbody
      refine doApiRequest_lengthRight.trans ?_
      unfold BodyCalls.passedThrough
      simp only [hpass, hprepare, hget, if_true, hnotes, true_imp_iff]
      cases calls.send with
      | error e => simp
      | ok u => simp

/-! ## All attempts of a request -/

/-- What holds of the request of every attempt exactly under a condition on the `RelayInfo`
    that the attempt finds, holds of all requests exactly if every attempt finds it so. -/
theorem requestsOf_forall_iff
    {attempt : BodyInfo V → BodyCalls V R E → BodyInfo V × Option UpstreamRequest}
    {P : UpstreamRequest → Prop} {C : BodyInfo V → BodyCalls V R E → Prop}
    (hattempt : ∀ info calls, (∀ r ∈ (attempt info calls).2, P r) ↔ C info calls)
    (info : BodyInfo V) (attempts : List (BodyCalls V R E)) :
    (∀ r ∈ requestsOf attempt info attempts, P r) ↔
      Run.Steps (fun info calls => (attempt info calls).1) C info attempts := by
  induction attempts generalizing info with
  | nil => exact iff_of_true (fun r hr => nomatch hr) trivial
  | cons calls rest ih =>
    show _ ↔ C info calls ∧ Run.Steps _ C (attempt info calls).1 rest
    rw [← ih, ← hattempt, requestsOf]
    simp only [List.mem_append, Option.mem_toList, or_imp, forall_and]
    exact Iff.rfl

/-- Of a handler that does not note the size of a body it passes through. -/
theorem lengths_iff_of_not_noting (hnotes : h.notesPassThrough = false) (info : BodyInfo V)
    (attempts : List (BodyCalls V R E)) :
    (∀ r ∈ requestsOf (h.attempt passThroughBodyEnabled) info attempts, r.LengthRight) ↔
      Run.Steps (fun info calls => (h.attempt passThroughBodyEnabled info calls).1)
        (NotedSizeFits passThroughBodyEnabled) info attempts := by
  apply requestsOf_forall_iff
  intro info calls
  rw [attempt_lengthRight_iff]
  exact ⟨fun hfits => hfits hnotes, fun hfits _ => hfits⟩

/-- `TextHelper`, over any sequence of attempts: every content length is right exactly if no
    attempt that passes the client's body through finds the size of another body noted. -/
theorem textHelper_lengths_iff (passThroughBodyEnabled : V → Bool) (info : BodyInfo V)
    (attempts : List (BodyCalls V R E)) :
    (∀ r ∈ requestsOf (textHelper passThroughBodyEnabled) info attempts, r.LengthRight) ↔
      Run.Steps (fun info calls => (textHelper passThroughBodyEnabled info calls).1)
        (NotedSizeFits passThroughBodyEnabled) info attempts :=
  lengths_iff_of_not_noting rfl info attempts

/-- A channel that converts to `{}` fails, and the next one passes the client's three bytes
    through as two. -/
theorem textHelper_stale_length :
    ¬ ∀ (V R E : Type) (passThroughBodyEnabled : V → Bool) (relayMode : Int)
        (attempts : List (BodyCalls V R E)),
        ∀ r ∈ requestsOf (textHelper passThroughBodyEnabled) { relayMode } attempts,
          r.LengthRight := by
  intro h
  let converted : BodyCalls Bool Unit Unit :=
    { ctx := {}
      passThroughRequestEnabled := false
      prepare := fun _ => .ok ()
      getBodyStorage := .ok [91, 49, 93]
      convertRequest := fun _ => .ok ()
      convertViaResponses := fun _ => .ok ()
      marshal := fun _ => .ok [123, 125]
      removeDisabledFields := fun data _ _ => .ok data
      applyParamOverride := fun data _ => .ok data
      createBodyStorage := .ok ()
      send := .ok () }
  let passed := { converted with ctx := { channelSetting := some true } }
  have hlast := h Bool Unit Unit id relayModeChatCompletions [converted, passed]
    { body := [91, 49, 93], contentLength := 2 } (by decide)
  exact absurd hlast (by decide)

/-- The other handlers that note only what they have converted. -/
theorem otherHelpers_lengths_iff (passThroughBodyEnabled : V → Bool) (info : BodyInfo V)
    (attempts : List (BodyCalls V R E)) :
    ∀ helper ∈ [responsesHelper passThroughBodyEnabled, geminiHelper passThroughBodyEnabled,
        rerankHelper passThroughBodyEnabled],
      (∀ r ∈ requestsOf helper info attempts, r.LengthRight) ↔
        Run.Steps (fun info calls => (helper info calls).1)
          (NotedSizeFits passThroughBodyEnabled) info attempts := by
  simp only [List.forall_mem_cons, List.not_mem_nil, false_imp_iff, implies_true, and_true]
  exact ⟨lengths_iff_of_not_noting rfl info attempts,
    lengths_iff_of_not_noting rfl info attempts, lengths_iff_of_not_noting rfl info attempts⟩

end TokenRouter.RelayLoop
