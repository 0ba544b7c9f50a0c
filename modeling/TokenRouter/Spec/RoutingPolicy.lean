import TokenRouter.ForStd.FirstRanked
import TokenRouter.Model.SupplyRoutingPolicy

/-!
# The policy of a request

The first policy, in the order of priority, activation and id, that takes the request and whose
channel can serve it. The query returns eight policies at most, before the canary bucket and the
channel are looked at, so that policies that are skipped can hide one that serves.

## Key results

- `supplyRoutingPolicyIncludesRouteKey_mono`: a larger share includes what a smaller one does
- `resolveLoop_fst`: the loop returns the first policy that serves, of those it is given
- `resolveActiveSupplyRoutingPolicyForRequest_iff`: the lookup returns the first of all unless
  eight policies or more come before the first that serves
-/

namespace TokenRouter

/-! ## The canary bucket -/

/-- For one policy and one key: what is included at a share is included at every larger one. A
    percentage that is not positive stands for 100. -/
theorem supplyRoutingPolicyIncludesRouteKey_mono (policy : SupplyRoutingPolicy) (routeKey : String)
    {small large : Int}
    (hle : normalizeSupplyRoutingTrafficPercent small ≤ normalizeSupplyRoutingTrafficPercent large)
    (h : supplyRoutingPolicyIncludesRouteKey { policy with trafficPercent := small } routeKey =
      true) :
    supplyRoutingPolicyIncludesRouteKey { policy with trafficPercent := large } routeKey =
      true := by
  unfold supplyRoutingPolicyIncludesRouteKey at h ⊢
  dsimp only at h ⊢
  by_cases hlarge : 100 ≤ normalizeSupplyRoutingTrafficPercent large
  · rw [if_pos hlarge]
  · have hsmall : ¬ 100 ≤ normalizeSupplyRoutingTrafficPercent small := by omega
    rw [if_neg hsmall] at h
    rw [if_neg hlarge]
    by_cases hkey : trimSpace routeKey = ""
    · rw [if_pos hkey] at h
      cases h
    · rw [if_neg hkey, decide_eq_true_eq] at h ⊢
      omega

/-! ## The loop -/

/-- The policy takes the route key and its channel can serve the request. -/
def SupplyRoutingPolicy.serves (answers : ChannelAnswers) (input : SupplyRoutingPolicyMatchInput)
    (policy : SupplyRoutingPolicy) : Bool :=
  supplyRoutingPolicyIncludesRouteKey policy input.routeKey &&
    supplyRoutingPolicyMissReason answers input (trimSpace input.modelName) policy = ""

theorem resolveLoop_fst (answers : ChannelAnswers) (input : SupplyRoutingPolicyMatchInput)
    (policies : List SupplyRoutingPolicy) (firstMiss : Option SupplyRoutingPolicyMiss) :
    (resolveLoop answers input (trimSpace input.modelName) policies firstMiss).1 =
      policies.find? fun p => p.serves answers input := by
  induction policies generalizing firstMiss with
  | nil => rfl
  | cons policy rest ih =>
    unfold resolveLoop
    cases hincluded : supplyRoutingPolicyIncludesRouteKey policy input.routeKey with
    | false =>
      have hskip : policy.serves answers input = false := by
        simp [SupplyRoutingPolicy.serves, hincluded]
      rw [List.find?_cons_of_neg (by simp [hskip])]
      exact ih firstMiss
    | true =>
      dsimp only
      by_cases hreason :
          supplyRoutingPolicyMissReason answers input (trimSpace input.modelName) policy = ""
      · have hserves : policy.serves answers input = true := by
          simp [SupplyRoutingPolicy.serves, hincluded, hreason]
        rw [List.find?_cons_of_pos hserves]
        simp [hreason]
      · have hmiss : policy.serves answers input = false := by
          simp [SupplyRoutingPolicy.serves, hreason]
        rw [List.find?_cons_of_neg (by simp [hmiss])]
        simp only [hreason, Bool.not_true, Bool.false_eq_true, ne_eq, not_false_eq_true, if_true,
          if_false]
        exact ih _

/-- A miss is reported only when no policy is returned, for a policy that takes the route key and
    with the reason why its channel cannot serve. -/
theorem resolveLoop_miss {answers : ChannelAnswers} {input : SupplyRoutingPolicyMatchInput}
    {policies : List SupplyRoutingPolicy} {firstMiss : Option SupplyRoutingPolicyMiss}
    {miss : SupplyRoutingPolicyMiss}
    (h : (resolveLoop answers input (trimSpace input.modelName) policies firstMiss).2 =
      some miss) :
    (resolveLoop answers input (trimSpace input.modelName) policies firstMiss).1 = none ∧
      (firstMiss = some miss ∨ (miss.policy ∈ policies ∧
        supplyRoutingPolicyIncludesRouteKey miss.policy input.routeKey = true ∧
        miss.reason = supplyRoutingPolicyMissReason answers input (trimSpace input.modelName)
          miss.policy ∧ miss.reason ≠ "")) := by
  induction policies generalizing firstMiss with
  | nil => exact ⟨rfl, .inl h⟩
  | cons policy rest ih =>
    unfold resolveLoop at h ⊢
    dsimp only at h ⊢
    split at h
    · next hskip =>
      rw [if_pos hskip]
      obtain ⟨hnone, hmiss⟩ := ih h
      refine ⟨hnone, hmiss.imp id ?_⟩
      exact fun hmiss => ⟨List.mem_cons_of_mem policy hmiss.1, hmiss.2⟩
    · next hincluded =>
      rw [if_neg hincluded]
      split at h
      · next hreason =>
        rw [if_pos hreason]
        obtain ⟨hnone, hmiss⟩ := ih h
        refine ⟨hnone, ?_⟩
        rcases hmiss with hfirst | hmiss
        · -- the first miss of the rest is the one so far, or else this policy
          cases hsofar : firstMiss with
          | some sofar =>
            rw [hsofar] at hfirst
            exact .inl hfirst
          | none =>
            rw [hsofar] at hfirst
            cases hfirst
            right
            exact ⟨List.mem_cons_self, by simpa using hincluded, rfl, hreason⟩
        · exact .inr ⟨List.mem_cons_of_mem policy hmiss.1, hmiss.2⟩
      · cases h

theorem resolveLoop_miss_channel :
    (resolveLoop ⟨fun _ => none, fun _ => true, fun _ _ _ => true⟩ { modelName := "m" }
      (trimSpace "m") [{ id := 1, modelName := "m" }] none).1 = none :=
  have h : (resolveLoop ⟨fun _ => none, fun _ => true, fun _ _ _ => true⟩ { modelName := "m" }
      (trimSpace "m") [{ id := 1, modelName := "m" }] none).2 =
        some ⟨{ id := 1, modelName := "m" }, "", "channel_missing"⟩ := by decide
  (resolveLoop_miss h).1

/-! ## The lookup -/

/-- The strict order of the policies. -/
def SupplyRoutingPolicy.ranksBefore (p q : SupplyRoutingPolicy) : Prop :=
  q.priority < p.priority ∨ (q.priority = p.priority ∧
    (q.activatedAt < p.activatedAt ∨ (q.activatedAt = p.activatedAt ∧ q.id < p.id)))

instance : DecidableRel SupplyRoutingPolicy.ranksBefore := fun p q =>
  inferInstanceAs (Decidable (q.priority < p.priority ∨ (q.priority = p.priority ∧
    (q.activatedAt < p.activatedAt ∨ (q.activatedAt = p.activatedAt ∧ q.id < p.id)))))

instance : Std.Total SupplyRoutingPolicy.comesFirst where
  total p q := by
    unfold SupplyRoutingPolicy.comesFirst
    omega

instance : IsTrans SupplyRoutingPolicy SupplyRoutingPolicy.comesFirst where
  trans p q r hpq hqr := by
    unfold SupplyRoutingPolicy.comesFirst at *
    omega

theorem SupplyRoutingPolicy.ranksBefore_asymm (p q : SupplyRoutingPolicy)
    (h : p.ranksBefore q) : ¬ q.ranksBefore p := by
  unfold SupplyRoutingPolicy.ranksBefore at *
  omega

/-- The active policies for the model, the SLA tier, the user and the time of a request. A
    request without a model has none. -/
def requestPolicies (policies : SupplyRoutingPolicies) (input : SupplyRoutingPolicyMatchInput)
    (clock : Timestamp) : List SupplyRoutingPolicy :=
  policies.rows.filter fun p => trimSpace input.modelName ≠ "" &&
    p.matchesRequest (trimSpace input.modelName) (normalizeRoutingSlaTier input.slaTier)
      input.userId (input.time clock)

theorem matchingPolicies_perm {policies : SupplyRoutingPolicies}
    {input : SupplyRoutingPolicyMatchInput} {clock : Timestamp}
    (hmodel : trimSpace input.modelName ≠ "") :
    (matchingPolicies policies input clock).Perm (requestPolicies policies input clock) := by
  simp only [matchingPolicies, requestPolicies, hmodel, ne_eq, not_false_eq_true, decide_true,
    Bool.true_and]
  exact List.perm_insertionSort _ _

theorem matchingPolicies_pairwise (policies : SupplyRoutingPolicies)
    (input : SupplyRoutingPolicyMatchInput) (clock : Timestamp) :
    (matchingPolicies policies input clock).Pairwise SupplyRoutingPolicy.ranksBefore := by
  have hsorted : (matchingPolicies policies input clock).Pairwise SupplyRoutingPolicy.comesFirst :=
    List.pairwise_insertionSort _ _
  have hids : (matchingPolicies policies input clock).Pairwise fun p q => p.id ≠ q.id := by
    have hnodup : (policies.rows.map (·.id)).Nodup := policies.nodup
    apply List.pairwise_map.mp
    apply ((List.perm_insertionSort _ _).map _).nodup_iff.mpr
    exact hnodup.sublist (List.filter_sublist.map _)
  apply (hsorted.and hids).imp
  rintro p q ⟨hfirst, hne⟩
  unfold SupplyRoutingPolicy.comesFirst at hfirst
  unfold SupplyRoutingPolicy.ranksBefore
  omega

/-- The lookup finds the first of all policies that serve; and for each policy and key the share
    is monotone. -/
structure ResolvesFirst (answers : ChannelAnswers) (policies : SupplyRoutingPolicies)
    (input : SupplyRoutingPolicyMatchInput) (clock : Timestamp) : Prop where
  first : List.IsFirst SupplyRoutingPolicy.ranksBefore (fun p => p.serves answers input)
    (requestPolicies policies input clock)
    (resolveActiveSupplyRoutingPolicyForRequest answers policies input clock).1
  mono : ∀ (policy : SupplyRoutingPolicy) (routeKey : String) (small large : Int),
    normalizeSupplyRoutingTrafficPercent small ≤ normalizeSupplyRoutingTrafficPercent large →
      supplyRoutingPolicyIncludesRouteKey { policy with trafficPercent := small } routeKey =
        true →
      supplyRoutingPolicyIncludesRouteKey { policy with trafficPercent := large } routeKey = true

/-- For all stored policies and every request: the first of all policies that serve is returned,
    and none only if there is none, if and only if none serves or one that does has fewer than
    eight of the matching policies before it. -/
theorem resolveActiveSupplyRoutingPolicyForRequest_iff (answers : ChannelAnswers)
    (policies : SupplyRoutingPolicies) (input : SupplyRoutingPolicyMatchInput)
    (clock : Timestamp) :
    ResolvesFirst answers policies input clock ↔
      (∀ p ∈ requestPolicies policies input clock, p.serves answers input = false) ∨
        ∃ p ∈ requestPolicies policies input clock, p.serves answers input = true ∧
          (requestPolicies policies input clock).countP (fun q => q.ranksBefore p) < 8 := by
  by_cases hmodel : trimSpace input.modelName = ""
  · -- a request without a model matches nothing and gets nothing
    have hnone : requestPolicies policies input clock = [] := by
      simp [requestPolicies, hmodel]
    have hresult : (resolveActiveSupplyRoutingPolicyForRequest answers policies input clock).1 =
        none := by
      unfold resolveActiveSupplyRoutingPolicyForRequest
      rw [if_pos hmodel]
    apply iff_of_true
    · constructor
      · rw [hresult, hnone]
        exact fun p hp => absurd hp List.not_mem_nil
      · intro policy routeKey small large
        exact supplyRoutingPolicyIncludesRouteKey_mono policy routeKey
    · left
      rw [hnone]
      exact fun p hp => absurd hp List.not_mem_nil
  · have hperm : (matchingPolicies policies input clock).Perm
        (requestPolicies policies input clock) := matchingPolicies_perm hmodel
    have hresult : (resolveActiveSupplyRoutingPolicyForRequest answers policies input clock).1 =
        ((matchingPolicies policies input clock).take 8).find? fun p => p.serves answers input := by
      unfold resolveActiveSupplyRoutingPolicyForRequest
      rw [if_neg hmodel, resolveLoop_fst]
    have hfirst := List.isFirst_find?_take_iff (p := fun p => p.serves answers input)
      (matchingPolicies_pairwise policies input clock) SupplyRoutingPolicy.ranksBefore_asymm 8
    rw [← hresult, List.IsFirst.perm hperm] at hfirst
    simp only [hperm.mem_iff, hperm.countP_eq] at hfirst
    rw [← hfirst]
    constructor
    · exact fun h => h.first
    · intro h
      constructor
      · exact h
      · intro policy routeKey small large
        exact supplyRoutingPolicyIncludesRouteKey_mono policy routeKey

/-- Nine active policies for all traffic to a model; the channel of the first eight is gone. -/
def hiddenPolicies : SupplyRoutingPolicies where
  rows := ⟨9, "gpt-4", "default", 0, .active, 0, 1, 0, 0, 100, 100, 0⟩ ::
    (List.range 8).map fun i => ⟨i + 1, "gpt-4", "default", 0, .active, 0, 7, 0, 0, 200, 100, 0⟩
  nodup := by decide

/-- The ninth serves the request, and the lookup returns none. -/
theorem resolveActiveSupplyRoutingPolicyForRequest_hidden :
    let answers := RouteTables.answers { channels := ⟨[{ id := 1 }], by decide⟩ }
    let input : SupplyRoutingPolicyMatchInput := { modelName := "gpt-4" }
    let clock : Timestamp := ⟨100, by decide⟩
    (resolveActiveSupplyRoutingPolicyForRequest answers hiddenPolicies input clock).1 = none ∧
      ((requestPolicies hiddenPolicies input clock).filter (·.serves answers input)).map (·.id) =
        [9] := by
  decide

end TokenRouter
