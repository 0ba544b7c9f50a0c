import TokenRouter.Model.RouteCache

/-!
# Supply routing policies (`model/supply_routing_policy.go`)

A routing policy sends the requests for a model, an SLA tier and a user to one channel. Before
the normal selection the policies that match a request are tried in their order: one whose canary
bucket leaves the request out is skipped, one whose channel cannot serve it is a miss.
-/

namespace TokenRouter

/-- `SupplyRoutingPolicyStatusActive` and `SupplyRoutingPolicyStatusDisabled` -/
inductive SupplyRoutingPolicyStatus where
  | active
  | disabled
  deriving DecidableEq

/-- The columns of `supply_routing_policies` that a lookup reads. -/
structure SupplyRoutingPolicy where
  id : Nat
  modelName : String
  slaTier : String := "default"
  userId : Int := 0
  status : SupplyRoutingPolicyStatus := .active
  supplierId : Int := 0
  channelId : Int := 0
  effectiveFrom : Int := 0
  effectiveTo : Int := 0
  priority : Int := 100
  trafficPercent : Int := 100
  activatedAt : Int := 0
  deriving DecidableEq

/-- The `supply_routing_policies` table. -/
abbrev SupplyRoutingPolicies := Table SupplyRoutingPolicy (·.id)

/-- `SupplyRoutingPolicyMatchInput` -/
structure SupplyRoutingPolicyMatchInput where
  group : String := ""
  modelName : String
  slaTier : String := ""
  userId : Int := 0
  routeKey : String := ""
  now : Int := 0
  deriving DecidableEq

/-- `SupplyRoutingPolicyMiss` -/
structure SupplyRoutingPolicyMiss where
  policy : SupplyRoutingPolicy
  group : String
  reason : String
  deriving DecidableEq

/-- `normalizeRoutingSlaTier` -/
def normalizeRoutingSlaTier (slaTier : String) : String :=
  if trimSpace slaTier = "" then "default" else trimSpace slaTier

/-- `normalizeSupplyRoutingTrafficPercent` -/
def normalizeSupplyRoutingTrafficPercent (percent : Int) : Int :=
  if percent ≤ 0 then 100 else if 100 < percent then 100 else percent

/-! ## The canary bucket -/

/-- `hash/fnv`, `New32a`: the bytes are mixed in one after the other. -/
def fnv32a (bytes : List UInt8) : UInt32 :=
  bytes.foldl (fun hash byte => (hash ^^^ byte.toUInt32) * 16777619) 2166136261

/-- `supplyRoutingPolicyTrafficBucket` -/
def supplyRoutingPolicyTrafficBucket (policyID : Nat) (routeKey : String) : Int :=
  ((fnv32a (toString policyID ++ "|" ++ trimSpace routeKey).toUTF8.toList % 100).toNat : Int) + 1

/-- `supplyRoutingPolicyIncludesRouteKey` -/
def supplyRoutingPolicyIncludesRouteKey (policy : SupplyRoutingPolicy) (routeKey : String) :
    Bool :=
  let percent := normalizeSupplyRoutingTrafficPercent policy.trafficPercent
  if 100 ≤ percent then true
  else if trimSpace routeKey = "" then false
  else supplyRoutingPolicyTrafficBucket policy.id (trimSpace routeKey) ≤ percent

/-! ## The channel of a policy -/

/-- What a lookup asks about channels: `CacheGetChannel`, `IsChannelSupplierEnabled` and
    `IsChannelEnabledForGroupModel`. -/
structure ChannelAnswers where
  cacheGetChannel : Nat → Option ChannelRow
  isChannelSupplierEnabled : ChannelRow → Bool
  isChannelEnabledForGroupModel : String → String → Nat → Bool

/-- The answers with the memory cache on. -/
def RouteCache.answers (cache : RouteCache) : ChannelAnswers where
  cacheGetChannel := cache.cacheGetChannel
  isChannelSupplierEnabled channel :=
    isSupplierStatusEnabled channel.supplierId cache.supplierStatusIDM
  isChannelEnabledForGroupModel := cache.isChannelEnabledForGroupModel

/-- `isChannelEnabledForGroupModelDB` -/
def RouteTables.isChannelEnabledForGroupModelDB (db : RouteTables) (group modelName : String)
    (channelId : Nat) : Bool :=
  if group = "" ∨ modelName = "" ∨ channelId = 0 then false
  else if (db.eligibleAbilities group modelName).any fun a => a.channelId = channelId then true
  else
    let normalized := formatMatchingModelName modelName
    normalized ≠ "" && normalized ≠ modelName &&
      (db.eligibleAbilities group normalized).any fun a => a.channelId = channelId

/-- The answers without the memory cache. -/
def RouteTables.answers (db : RouteTables) : ChannelAnswers where
  cacheGetChannel := db.channels.find?
  isChannelSupplierEnabled channel :=
    channel.supplierId ≤ 0 ||
      (db.suppliers.first channel.supplierId).any fun s => s.status = .enabled
  isChannelEnabledForGroupModel := db.isChannelEnabledForGroupModelDB

/-- `supplyRoutingPolicyMissReason`; no reason is the empty text. -/
def supplyRoutingPolicyMissReason (answers : ChannelAnswers)
    (input : SupplyRoutingPolicyMatchInput) (modelName : String) (policy : SupplyRoutingPolicy) :
    String :=
  if policy.channelId ≤ 0 then "channel_missing"
  else
    match answers.cacheGetChannel policy.channelId.toNat with
    | none => "channel_missing"
    | some channel =>
      if channel.status ≠ .enabled then "channel_disabled"
      else if !answers.isChannelSupplierEnabled channel then "supplier_disabled"
      else if 0 < policy.supplierId ∧ channel.supplierId ≠ policy.supplierId then
        "supplier_mismatch"
      else if trimSpace input.group ≠ "" ∧
          !answers.isChannelEnabledForGroupModel input.group modelName policy.channelId.toNat then
        "cannot_serve_model"
      else ""

/-! ## The lookup -/

/-- The conditions of the query. -/
def SupplyRoutingPolicy.matchesRequest (policy : SupplyRoutingPolicy) (modelName slaTier : String)
    (userId now : Int) : Bool :=
  policy.status = .active && policy.modelName = modelName &&
    (policy.slaTier = "" || policy.slaTier = slaTier) &&
    (policy.userId = 0 || policy.userId = userId) &&
    (policy.effectiveFrom = 0 || policy.effectiveFrom ≤ now) &&
    (policy.effectiveTo = 0 || now ≤ policy.effectiveTo)

/-- `priority DESC, activated_at DESC, id DESC` -/
def SupplyRoutingPolicy.comesFirst (p q : SupplyRoutingPolicy) : Prop :=
  q.priority < p.priority ∨ (q.priority = p.priority ∧
    (q.activatedAt < p.activatedAt ∨ (q.activatedAt = p.activatedAt ∧ q.id ≤ p.id)))

instance : DecidableRel SupplyRoutingPolicy.comesFirst := fun p q =>
  inferInstanceAs (Decidable (q.priority < p.priority ∨ (q.priority = p.priority ∧
    (q.activatedAt < p.activatedAt ∨ (q.activatedAt = p.activatedAt ∧ q.id ≤ p.id)))))

/-- The time of a request. -/
def SupplyRoutingPolicyMatchInput.time (input : SupplyRoutingPolicyMatchInput)
    (clock : Timestamp) : Int :=
  if input.now ≤ 0 then clock.unix else input.now

/-- The policies that match a request, in the order of the query. -/
def matchingPolicies (policies : SupplyRoutingPolicies) (input : SupplyRoutingPolicyMatchInput)
    (clock : Timestamp) : List SupplyRoutingPolicy :=
  (policies.rows.filter fun p => p.matchesRequest (trimSpace input.modelName)
    (normalizeRoutingSlaTier input.slaTier) input.userId (input.time clock)).insertionSort
      SupplyRoutingPolicy.comesFirst

/-- The loop over the policies that the query returned, with the first miss so far. -/
def resolveLoop (answers : ChannelAnswers) (input : SupplyRoutingPolicyMatchInput)
    (modelName : String) : List SupplyRoutingPolicy → Option SupplyRoutingPolicyMiss →
      Option SupplyRoutingPolicy × Option SupplyRoutingPolicyMiss
  | [], firstMiss => (none, firstMiss)
  | policy :: rest, firstMiss =>
    if !supplyRoutingPolicyIncludesRouteKey policy input.routeKey then
      resolveLoop answers input modelName rest firstMiss
    else
      let reason := supplyRoutingPolicyMissReason answers input modelName policy
      if reason ≠ "" then
        resolveLoop answers input modelName rest
          (firstMiss.or (some ⟨policy, trimSpace input.group, reason⟩))
      else (some policy, none)

/-- `ResolveActiveSupplyRoutingPolicyForRequest` -/
def resolveActiveSupplyRoutingPolicyForRequest (answers : ChannelAnswers)
    (policies : SupplyRoutingPolicies) (input : SupplyRoutingPolicyMatchInput)
    (clock : Timestamp) : Option SupplyRoutingPolicy × Option SupplyRoutingPolicyMiss :=
  if trimSpace input.modelName = "" then (none, none)
  else
    resolveLoop answers input (trimSpace input.modelName)
      ((matchingPolicies policies input clock).take 8) none

end TokenRouter
