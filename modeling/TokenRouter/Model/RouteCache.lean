import TokenRouter.Model.AbilityQuery
import TokenRouter.Model.ChannelCache
import TokenRouter.Model.Option

/-!
# The routing cache (`model/channel_cache.go`, `model/channel_satisfy.go`)

With the memory cache on, a channel is drawn from lists that `InitChannelCache` builds: for each
group and model the ids of the channels that name them. The lists are built from the rows of
`channels`, but only groups that occur in `abilities` have a map of lists to write to.
-/

namespace TokenRouter

/-- `isSupplierStatusEnabled` -/
def isSupplierStatusEnabled (supplierId : Int) (statuses : Int → Option ChannelStatus) : Bool :=
  supplierId ≤ 0 || statuses supplierId = some .enabled

/-! ## Building the cache -/

/-- `group2model2channels`: a group that is no key has the nil map. -/
abbrev GroupIndex := String → Option (String → List Nat)

/-- Append a channel to the list of a group and a model; `none` is the panic of writing to a nil
    map. -/
def GroupIndex.append (index : GroupIndex) (group model : String) (id : Nat) :
    Option GroupIndex :=
  (index group).map fun model2channels =>
    Function.update index group
      (some (Function.update model2channels model (model2channels model ++ [id])))

/-- The status map of the suppliers that are not deleted. -/
def supplierStatuses (suppliers : Suppliers) (id : Int) : Option ChannelStatus :=
  (suppliers.first id).map (·.status)

/-- The channels that are listed: enabled ones whose supplier is enabled. -/
def listedChannels (channels : Channels) (suppliers : Suppliers) : List ChannelRow :=
  channels.rows.filter fun c =>
    c.status = .enabled && isSupplierStatusEnabled c.supplierId (supplierStatuses suppliers)

/-- The entries of a channel in the lists, by group and then by model. -/
def ChannelRow.listings (channel : ChannelRow) : List (String × String × Nat) :=
  (splitComma channel.group).flatMap fun group =>
    (splitComma channel.models).map fun model => (group, model, channel.id)

/-- The maps that are made for the groups of `abilities`. -/
def emptyIndex (abilities : Abilities) : GroupIndex := fun group =>
  if group ∈ abilities.rows.map (·.group) then some fun _ => [] else none

/-- The loop of `InitChannelCache` over the channels. -/
def buildIndex (channels : Channels) (suppliers : Suppliers) (abilities : Abilities) :
    Option GroupIndex :=
  ((listedChannels channels suppliers).flatMap (·.listings)).foldlM
    (fun index (group, model, id) => index.append group model id) (emptyIndex abilities)

/-- `GetPriority` of a channel by its id. -/
def channelPriority (channels : Channels) (id : Nat) : Int :=
  ((channels.find? id).map (·.priority)).getD 0

/-- Sort every list by priority, the highest first. -/
def GroupIndex.sortByPriority (index : GroupIndex) (channels : Channels) : GroupIndex := fun group =>
  (index group).map fun model2channels model =>
    (model2channels model).insertionSort fun i j =>
      channelPriority channels j ≤ channelPriority channels i

/-- The maps of the cache. A channel is cached under its id. -/
structure RouteCache where
  group2model2channels : GroupIndex
  channelsIDM : Nat → Option ChannelRow
  supplierStatusIDM : Int → Option ChannelStatus
  supplierRoutePreferencePercentIDM : Int → Option Int
  channel2advancedCustomConfig : Nat → Option (String → Bool)
  id_eq : ∀ i c, channelsIDM i = some c → c.id = i

/-- A row with the polling index of the cached channel. -/
def carryPollingIndex (old : Nat → Option ChannelRow) (row : ChannelRow) : ChannelRow :=
  match old row.id with
  | none => row
  | some cached => swapChannel cached row

@[simp] theorem carryPollingIndex_id (old : Nat → Option ChannelRow) (row : ChannelRow) :
    (carryPollingIndex old row).id = row.id := by
  unfold carryPollingIndex swapChannel
  split
  · rfl
  · split
    · rfl
    · rfl

/-- `InitChannelCache`: the four tables are read one after the other, and `abilities` is read
    last. `none` is a panic. -/
def initChannelCache (old : Nat → Option ChannelRow) (channels : Channels) (suppliers : Suppliers)
    (preferences : SupplierRoutePreferences) (abilities : Abilities)
    (advancedCustom : Nat → Option (String → Bool)) (now : Int) : Option RouteCache :=
  (buildIndex channels suppliers abilities).map fun index =>
    { group2model2channels := index.sortByPriority channels
      channelsIDM := fun id => (channels.find? id).map (carryPollingIndex old)
      supplierStatusIDM := supplierStatuses suppliers
      supplierRoutePreferencePercentIDM := loadActiveSupplierRoutePreferencePercents preferences now
      channel2advancedCustomConfig := fun id =>
        if (channels.find? id).any fun c => c.channelType = channelTypeAdvancedCustom then
          advancedCustom id
        else none
      id_eq := by
        intro i c h
        obtain ⟨row, hrow, rfl⟩ := Option.map_eq_some_iff.mp h
        rw [carryPollingIndex_id]
        exact Table.find?_key hrow }

/-! ## Selection -/

namespace RouteCache

variable (cache : RouteCache)

/-- `group2model2channels[group][model]` -/
def channels (group model : String) : List Nat :=
  match cache.group2model2channels group with
  | none => []
  | some model2channels => model2channels model

/-- `isCachedChannelRuntimeEligible` -/
def isCachedChannelRuntimeEligible (channel : ChannelRow) : Bool :=
  channel.status = .enabled && isSupplierStatusEnabled channel.supplierId cache.supplierStatusIDM

/-- `isCachedChannelIDRuntimeEligible` -/
def isCachedChannelIDRuntimeEligible (channelId : Nat) : Bool :=
  (cache.channelsIDM channelId).any cache.isCachedChannelRuntimeEligible

/-- The test of `filterChannelsByRequestPath`. -/
def acceptsPath (requestPath : String) (channel : ChannelRow) : Bool :=
  requestPath = "" || channel.channelType ≠ channelTypeAdvancedCustom ||
    (cache.channel2advancedCustomConfig channel.id).any fun supportsPath => supportsPath requestPath

/-- `filterChannelsByRequestPath` -/
def filterChannelsByRequestPath (channels : List Nat) (requestPath : String) : List Nat :=
  channels.filter fun id => (cache.channelsIDM id).all (cache.acceptsPath requestPath)

/-- `filterChannelsBySupplierStatus` -/
def filterChannelsBySupplierStatus (channels : List Nat) : List Nat :=
  channels.filter fun id => (cache.channelsIDM id).all cache.isCachedChannelRuntimeEligible

/-- The candidates that list a name. -/
def eligible (group model requestPath : String) : List Nat :=
  cache.filterChannelsBySupplierStatus
    (cache.filterChannelsByRequestPath (cache.channels group model) requestPath)

/-- The name that candidates are taken from: the exact one, or the normalised one if no candidate
    lists the exact one. -/
def matchedModel (group model requestPath : String) : String :=
  if cache.eligible group model requestPath = [] then formatMatchingModelName model else model

/-- The candidates. -/
def candidates (group model requestPath : String) : List Nat :=
  cache.eligible group (cache.matchedModel group model requestPath) requestPath

/-- The channels of the candidates. -/
def candidateRows (group model requestPath : String) : List ChannelRow :=
  (cache.candidates group model requestPath).filterMap cache.channelsIDM

/-- `sortedUniquePriorities` -/
def sortedUniquePriorities (rows : List ChannelRow) : List Int :=
  (rows.map (·.priority)).dedup.insertionSort (· ≥ ·)

/-- The priority of a retry. -/
def targetPriority (rows : List ChannelRow) (retry : Nat) : Option Int :=
  (sortedUniquePriorities rows)[min retry ((sortedUniquePriorities rows).length - 1)]?

/-- `targetChannels` -/
def targetChannels (rows : List ChannelRow) (retry : Nat) : List ChannelRow :=
  rows.filter fun c => some c.priority = targetPriority rows retry

/-- The selection weight of a channel among the channels of its priority. -/
def selectionWeight (target : List ChannelRow) (channel : ChannelRow) : Int :=
  supplierRoutePreferenceSelectionWeight channel.weight channel.supplierId
    ((target.map (·.weight)).sum = 0) cache.supplierRoutePreferencePercentIDM

/-- `targetWeights` -/
def targetWeights (target : List ChannelRow) : List Int :=
  target.map (cache.selectionWeight target)

/-- The error of a channel that is listed but not cached. -/
def inconsistent (id : Nat) : String :=
  "数据库一致性错误，渠道# " ++ toString id ++ " 不存在，请联系管理员修复"

/-- `GetRandomSatisfiedChannel` with the memory cache on, and the number that it draws. -/
def getRandomSatisfiedChannel (group model : String) (retry : Nat) (requestPath : String)
    (randomWeight : Int) : Except String (Option ChannelRow) :=
  match cache.candidates group model requestPath with
  | [] => .ok none
  | [id] =>
    match cache.channelsIDM id with
    | none => .error (inconsistent id)
    | some channel => .ok (some channel)
  | channels =>
    match channels.find? fun id => (cache.channelsIDM id).isNone with
    | some id => .error (inconsistent id)
    | none =>
      let target := targetChannels (channels.filterMap cache.channelsIDM) retry
      let weights := cache.targetWeights target
      if weights.sum ≤ 0 then .error "no weighted channel found"
      else
        match (weights.weightedPick randomWeight).bind fun i => target[i]? with
        | none => .error "channel not found"
        | some channel => .ok (some channel)

/-- `CacheGetChannel` with the memory cache on. -/
def cacheGetChannel (id : Nat) : Option ChannelRow := cache.channelsIDM id

/-- `IsChannelEnabledForGroupModel` with the memory cache on. -/
def isChannelEnabledForGroupModel (group modelName : String) (channelId : Nat) : Bool :=
  if group = "" ∨ modelName = "" ∨ channelId = 0 then false
  else if channelId ∈ cache.channels group modelName then
    cache.isCachedChannelIDRuntimeEligible channelId
  else
    let normalized := formatMatchingModelName modelName
    normalized ≠ "" && normalized ≠ modelName && channelId ∈ cache.channels group normalized &&
      cache.isCachedChannelIDRuntimeEligible channelId

end RouteCache

end TokenRouter
