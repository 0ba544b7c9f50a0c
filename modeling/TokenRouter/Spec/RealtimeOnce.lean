import TokenRouter.ForStd.Run
import TokenRouter.Service.RealtimeQuota
import TokenRouter.Spec.BillingSettled
import TokenRouter.Spec.SideCharge

/-!
# Realtime sessions are charged once

`PreWssConsumeQuota` debits the wallet or the subscription, and the token, for each event; the
billing session, which does not know of these debits, is settled at the end for all the tokens
together. A session is charged once as long as the events charge nothing.

## Main results

- `preWssConsumeQuota_free_iff`: when an event charges nothing
- `realtime_charged_once`: in runs whose events charge nothing, the request is charged what
  the consume log records
-/

namespace TokenRouter

/-! ## An event's charge -/

/-- Rounding keeps the sign. -/
theorem roundHalfAway_nonneg {q : ℚ} (h : 0 ≤ q) : 0 ≤ roundHalfAway q := by
  rw [roundHalfAway, if_pos h]
  exact Int.floor_nonneg.mpr (by linarith)

/-- Without a model price nothing negative is charged, whatever the tokens and ratios. -/
theorem calculateAudioQuota_nonneg (env : RealtimeEnv) {info : QuotaInfo}
    (hprice : info.modelPrice = 0) : 0 ≤ calculateAudioQuota env info := by
  unfold calculateAudioQuota
  split
  · simp [hprice, intPart]
  dsimp only
  generalize hratio : info.groupRatio * info.modelRatio = ratio
  split
  · omega
  next hfree =>
  apply roundHalfAway_nonneg
  by_cases hzero : ratio = 0
  · rw [hzero, mul_zero]
  · rw [not_and, not_le] at hfree
    exact (hfree hzero).le

/-- Nothing is charged for an event: it costs nothing, or `PreWssConsumeQuota` refuses it for
    want of a token, of quota or of room in the subscription. -/
def EventFree (env : RealtimeEnv) (st : ChargeState) (usage : RealtimeUsage) : Prop :=
  env.usePrice = true ∨ preWssQuota env st.info usage = 0 ∨
    (match st.quota.tokens.find? st.info.tokenId with
      | none => True
      | some token => token.unlimitedQuota = false ∧
          token.remainQuota < preWssQuota env st.info usage) ∨
    st.quota.getUserQuota st.info.userId < preWssQuota env st.info usage ∨
    (st.info.billingSource = .subscription ∧ ¬ st.SourceCovers (preWssQuota env st.info usage))

/-- A subscription without room for a charge refuses it. -/
theorem postConsumeQuota_of_not_covers {st : ChargeState} {quota : Int} (hnn : 0 ≤ quota)
    (hsub : st.info.billingSource = .subscription) (hroom : ¬ st.SourceCovers quota) :
    (st.postConsumeQuota quota).2 = st := by
  have hquota : quota ≠ 0 := by
    rintro rfl
    exact hroom (by simp [ChargeState.SourceCovers, hsub])
  rcases ChargeState.consumeSource_subscription hsub hquota with
    ⟨e, he⟩ | ⟨sub, hfind, sub', hid, hfits, -⟩
  · simp only [ChargeState.postConsumeQuota, he]
  · have hused := sub.amountUsed_nonneg
    have hcovers : st.SourceCovers quota := by
      simp only [ChargeState.SourceCovers, hsub]
      exact .inr ⟨hid, sub, hfind, by omega, by omega⟩
    exact absurd hcovers hroom

/-- A charge that its source takes shows there. -/
theorem postConsumeQuota_ne {st : ChargeState} {quota : Int} (hpos : 0 < quota)
    (huser : quota ≤ st.quota.getUserQuota st.info.userId)
    (hcovers : st.info.billingSource = .subscription → st.SourceCovers quota) :
    (st.postConsumeQuota quota).2 ≠ st := by
  intro hsame
  by_cases hsub : st.info.billingSource = .subscription
  · have hdebits := (ChargeState.debitsSource_subscription_iff hsub hpos.ne').mpr (hcovers hsub)
    rw [hsame] at hdebits
    simp only [ChargeState.DebitsSource, hsub] at hdebits
    omega
  · have hrow : (st.quota.users.find? st.info.userId).isSome = true := by
      by_contra hnone
      simp only [Bool.not_eq_true, Option.isSome_eq_false_iff, Option.isNone_iff_eq_none] at hnone
      simp [QuotaDB.getUserQuota, hnone] at huser
      omega
    have hdebit := QuotaDB.getUserQuota_addUserQuota st.quota st.info.userId (-quota) hrow
    have husers : (st.postConsumeQuota quota).2.quota.users =
        (st.quota.addUserQuota st.info.userId (-quota)).users := by
      rw [ChargeState.postConsumeQuota_wallet st quota hsub]
      exact (ChargeState.withToken_frame _ _).2.1
    rw [hsame] at husers
    simp only [QuotaDB.getUserQuota, ← husers] at hdebit
    omega

/-- The charges that leave everything as it was. -/
theorem preWssConsumeQuota_free_iff (env : RealtimeEnv) (st : ChargeState)
    (usage : RealtimeUsage) :
    (preWssConsumeQuota env st usage).2 = st ↔ EventFree env st usage := by
  have hnn : 0 ≤ preWssQuota env st.info usage := calculateAudioQuota_nonneg env rfl
  unfold preWssConsumeQuota EventFree
  split
  · next hprice => exact iff_of_true rfl (.inl hprice)
  next hprice =>
  cases hfind : st.quota.tokens.find? st.info.tokenId with
  | none => exact iff_of_true rfl (.inr (.inr (.inl trivial)))
  | some token =>
  dsimp only
  split
  · next huser => exact iff_of_true rfl (.inr (.inr (.inr (.inl huser))))
  next huser =>
  split
  · next htoken => exact iff_of_true rfl (.inr (.inr (.inl (by simpa using htoken))))
  next htoken =>
  constructor
  · intro hsame
    by_contra hcharged
    simp only [not_or, not_and, not_not] at hcharged
    obtain ⟨-, hzero, -, -, hcovers⟩ := hcharged
    exact postConsumeQuota_ne (by omega) (by omega) hcovers hsame
  · rintro (hp | hzero | hlimit | hpoor | ⟨hsub, hroom⟩)
    · exact absurd hp hprice
    · rw [hzero]
      exact st.postConsumeQuota_zero
    · exact absurd (by simpa using hlimit) htoken
    · exact absurd hpoor huser
    · exact postConsumeQuota_of_not_covers hnn hsub hroom

namespace RealtimeState

/-! ## Runs -/

/-- No tokens are charged by the way, and the billing covers what is settled at the end. -/
def ChargesOnlyAtEnd (env : RealtimeEnv) (s : RealtimeState) : RealtimeEvent → Prop
  | .responseDone realtimeUsage => s.targetStopped = true ∨
      EventFree env s.request.charge (s.usage.add realtimeUsage)
  | .responseDoneLocal textToken audioToken => s.targetStopped = true ∨
      EventFree env s.request.charge (s.localUsage.countInput textToken audioToken)
  | .handlerReturns => s.returned = true ∨
      (s.usage.totalTokens = 0 ∨ EventFree env s.request.charge s.usage) ∧
        (s.localUsage.totalTokens = 0 ∨ EventFree env s.request.charge s.localUsage)
  | .postWss => s.returned = false ∨ s.recorded ≠ none ∨
      s.request.SettleCovers (postWssQuota env s.request.charge.info s.sumUsage)
  | _ => True

/-- The request is charged what the consume log records. -/
def RecordedCharge (db₀ : DB) (quota₀ : QuotaDB) (s : RealtimeState) : Prop :=
  ∀ quota ∈ s.recorded, s.request.ChargedOnce db₀ quota₀ quota

variable {env : RealtimeEnv}

/-- A free charge leaves the request alone. -/
theorem preConsumeUsage_request {s : RealtimeState} {usage : RealtimeUsage}
    (h : EventFree env s.request.charge usage) :
    (s.preConsumeUsage env usage).2.request = s.request ∧
      (s.preConsumeUsage env usage).2.recorded = s.recorded := by
  have hcharge := (preWssConsumeQuota_free_iff env s.request.charge usage).mpr h
  simp only [preConsumeUsage, hcharge, and_self]

/-- `response.done` with usage that is free. -/
theorem responseDone_request {s : RealtimeState} {realtimeUsage : RealtimeUsage}
    (h : EventFree env s.request.charge (s.usage.add realtimeUsage)) :
    (s.responseDone env realtimeUsage).request = s.request ∧
      (s.responseDone env realtimeUsage).recorded = s.recorded := by
  let counted := { s with usage := s.usage.add realtimeUsage }
  have hfree : EventFree env counted.request.charge counted.usage := h
  obtain ⟨hrequest, hrecorded⟩ := preConsumeUsage_request hfree
  unfold responseDone
  dsimp only
  split
  all_goals
    next hres =>
    rw [hres] at hrequest hrecorded
    exact ⟨hrequest, hrecorded⟩

/-- `response.done` without usage, when what was counted here is free. -/
theorem responseDoneLocal_request {s : RealtimeState} {textToken audioToken : Int}
    (h : EventFree env s.request.charge (s.localUsage.countInput textToken audioToken)) :
    (s.responseDoneLocal env textToken audioToken).request = s.request ∧
      (s.responseDoneLocal env textToken audioToken).recorded = s.recorded := by
  let counted := { s with localUsage := s.localUsage.countInput textToken audioToken }
  have hfree : EventFree env counted.request.charge counted.localUsage := h
  obtain ⟨hrequest, hrecorded⟩ := preConsumeUsage_request hfree
  unfold responseDoneLocal
  dsimp only
  split
  all_goals
    next hres =>
    rw [hres] at hrequest hrecorded
    exact ⟨hrequest, hrecorded⟩

/-- The handler's two last charges. -/
theorem handlerReturns_request {s : RealtimeState}
    (husage : s.usage.totalTokens = 0 ∨ EventFree env s.request.charge s.usage)
    (hlocal : s.localUsage.totalTokens = 0 ∨ EventFree env s.request.charge s.localUsage) :
    (s.handlerReturns env).request = s.request ∧
      (s.handlerReturns env).recorded = s.recorded := by
  unfold handlerReturns
  dsimp only
  -- the first charge leaves the request and the local counter for the second
  have hfirst : ∃ s' : RealtimeState,
      (if s.usage.totalTokens ≠ 0 then (s.preConsumeUsage env s.usage).2 else s) = s' ∧
        s'.request = s.request ∧ s'.recorded = s.recorded ∧ s'.localUsage = s.localUsage := by
    refine ⟨_, rfl, ?_⟩
    split
    · next hne =>
      obtain ⟨hrequest, hrecorded⟩ := preConsumeUsage_request (husage.resolve_left hne)
      exact ⟨hrequest, hrecorded, rfl⟩
    · exact ⟨rfl, rfl, rfl⟩
  obtain ⟨s', hs', hrequest, hrecorded, hlocalUsage⟩ := hfirst
  rw [hs']
  split
  · next hne =>
    rw [hlocalUsage] at hne
    have hfree : EventFree env s'.request.charge s'.localUsage := by
      rw [hrequest, hlocalUsage]
      exact hlocal.resolve_left hne
    obtain ⟨hrequest', hrecorded'⟩ := preConsumeUsage_request hfree
    exact ⟨hrequest'.trans hrequest, hrecorded'.trans hrecorded⟩
  · exact ⟨hrequest, hrecorded⟩

/-- Until the settlement the request stays as it was opened. -/
theorem step_request {s : RealtimeState} {e : RealtimeEvent} (he : e ≠ .postWss)
    (hc : ChargesOnlyAtEnd env s e) :
    (s.step env e).request = s.request ∧ (s.step env e).recorded = s.recorded := by
  cases e with
  | client textToken audioToken => simp only [step]; split <;> exact ⟨rfl, rfl⟩
  | target textToken audioToken => simp only [step]; split <;> exact ⟨rfl, rfl⟩
  | clientStops => exact ⟨rfl, rfl⟩
  | targetStops => exact ⟨rfl, rfl⟩
  | postWss => exact absurd rfl he
  | responseDone realtimeUsage =>
    simp only [step]
    split
    · exact ⟨rfl, rfl⟩
    · next hrunning => exact responseDone_request (hc.resolve_left hrunning)
  | responseDoneLocal textToken audioToken =>
    simp only [step]
    split
    · exact ⟨rfl, rfl⟩
    · next hrunning => exact responseDoneLocal_request (hc.resolve_left hrunning)
  | handlerReturns =>
    simp only [step]
    split
    · exact ⟨rfl, rfl⟩
    next hrunning =>
    obtain ⟨husage, hlocal⟩ := hc.resolve_left hrunning
    exact handlerReturns_request husage hlocal

/-- Before the settlement the billing is open, after it the request is charged once. -/
structure Inv (db₀ : DB) (quota₀ : QuotaDB) (s : RealtimeState) : Prop where
  opened : s.recorded = none → BillingOpened db₀ quota₀ s.request
  charged : RecordedCharge db₀ quota₀ s

/-- What every step that charges nothing by the way keeps. -/
theorem inv_step (env : RealtimeEnv) {db₀ : DB} {quota₀ : QuotaDB} (s : RealtimeState)
    (e : RealtimeEvent) (h : Inv db₀ quota₀ s) (hc : ChargesOnlyAtEnd env s e) :
    Inv db₀ quota₀ (s.step env e) := by
  by_cases he : e = .postWss
  · subst he
    simp only [step]
    split
    · next hend =>
      obtain ⟨hreturned, hrecorded⟩ := hend
      have hcovers : s.request.SettleCovers
          (postWssQuota env s.request.charge.info s.sumUsage) := by
        rcases hc with hrunning | hdone | hcovers
        · rw [hreturned] at hrunning
          exact nomatch hrunning
        · exact absurd hrecorded hdone
        · exact hcovers
      refine ⟨nofun, ?_⟩
      intro quota hquota
      obtain rfl : postWssQuota env s.request.charge.info s.sumUsage = quota :=
        Option.some.inj hquota
      exact (h.opened hrecorded).settle hcovers
    · exact h
  · obtain ⟨hrequest, hrecorded⟩ := step_request he hc
    constructor
    · rw [hrequest, hrecorded]
      exact h.opened
    · unfold RecordedCharge
      rw [hrequest, hrecorded]
      exact h.charged

end RealtimeState

/-- The billing that a request has before its session: none for a free model. -/
def openBilling (env : BillingEnv) (st : ChargeState) (freeModel : Bool)
    (tokenQuota preConsumedQuota : Int) : Option NewAPIError × BillingState :=
  if freeModel then (none, { charge := st })
  else preConsumeBilling env st tokenQuota preConsumedQuota

open RealtimeState in
/-- For every amount that is taken in advance, from a wallet, a subscription or a tenant's
    credit, every sequence of events and every end of the session: as long as no event is
    charged by the way and the billing covers the final quota, the source and the token are
    debited by exactly the quota that the consume log records. -/
theorem realtime_charged_once (billing : BillingEnv) (env : RealtimeEnv) (st : ChargeState)
    (hnew : NewRequest st) (freeModel : Bool) (tokenQuota : Int) (preConsumedQuota : Nat)
    (request : BillingState)
    (hopen : openBilling billing st freeModel tokenQuota preConsumedQuota = (none, request))
    (es : List RealtimeEvent)
    (hes : Run.Steps (step env) (ChargesOnlyAtEnd env) { request } es) :
    Run.Always (step env) (RecordedCharge st.db st.quota) { request } es := by
  have hbilling : BillingOpened st.db st.quota request := by
    unfold openBilling at hopen
    split at hopen
    · obtain rfl := (Prod.mk.inj hopen).2
      exact .free st hnew rfl
    · exact preConsumeBilling_opened hnew hopen
  have hstart : Inv st.db st.quota { request } := ⟨fun _ => hbilling, nofun⟩
  exact (Run.always_of_steps (inv_step env) hstart hes).mono fun s h => h.charged

/-- A model at one quota a token. -/
def flatRealtime : RealtimeEnv where
  quotaPerUnit := 500000
  formatQuota := toString
  modelRatio _ := 1
  completionRatio _ := 1
  audioRatio _ := 1
  audioCompletionRatio _ := 1
  groupRatio _ := 1
  groupGroupRatio _ _ := none
  tryTieredSettle _ _ := none
  usingGroup := "default"
  userGroup := "default"
  upstreamModelName := "gpt-4o-realtime"

/-- The user's request before its billing, and after 10 were taken in advance. -/
def realtimeRequest : ChargeState :=
  { db := .empty, quota := oneWallet
    info := { walletRequest with priceData := { modelRatio := 1, groupRatio := 1 } } }

def realtimeOpened : BillingState := (openBilling plainEnv realtimeRequest false 100 (10 : Nat)).2

/-- A `response.done` of so many text tokens. -/
def textResponse (textTokens : Int) : RealtimeUsage :=
  { totalTokens := textTokens, outputTokens := textTokens, outputTokenDetails := { textTokens } }

open RealtimeState in
/-- The wallet has 90 left, so a response of 95 tokens is refused, twice; the session ends and
    is settled for what was added up. -/
theorem refused_response_charged_once :
    Run.Always (step flatRealtime) (RecordedCharge .empty oneWallet) { request := realtimeOpened }
      [.client 0 0, .responseDone (textResponse 95), .handlerReturns, .postWss] := by
  refine realtime_charged_once plainEnv flatRealtime realtimeRequest
    ⟨by decide, by decide, by decide, by decide, by decide, by decide⟩ false 100 10 realtimeOpened
    (Prod.ext (by decide) rfl) _
    ⟨trivial, .inr ?_, .inr ⟨.inr ?_, .inl ?_⟩, .inr (.inr ?_), trivial⟩
  · exact .inr (.inr (.inr (.inl (by decide +kernel))))
  · exact .inr (.inr (.inr (.inl (by decide +kernel))))
  · decide +kernel
  · exact @settleCovers_wallet _ walletSession _ (by decide +kernel) rfl _

open RealtimeState in
/-- One response of 20 tokens is charged when it is done and again when the session ends. -/
theorem response_charged_twice :
    ¬ ∀ (billing : BillingEnv) (env : RealtimeEnv) (st : ChargeState), NewRequest st →
        ∀ (freeModel : Bool) (tokenQuota : Int) (preConsumedQuota : Nat) (request : BillingState),
          openBilling billing st freeModel tokenQuota preConsumedQuota = (none, request) →
          ∀ es, Run.Always (step env) (RecordedCharge st.db st.quota) { request } es := by
  intro h
  have hall := h plainEnv flatRealtime realtimeRequest
    ⟨by decide, by decide, by decide, by decide, by decide, by decide⟩ false 100 10 realtimeOpened
    (Prod.ext (by decide) rfl)
    [.responseDone (textResponse 20), .handlerReturns, .postWss]
  have hcharge := hall.last 20 (by decide +kernel)
  exact absurd hcharge.token (by decide +kernel)

end TokenRouter
