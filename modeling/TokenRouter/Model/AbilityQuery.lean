import TokenRouter.ForStd.WeightedPick
import TokenRouter.Model.Ability

/-!
# Selection from the database (`model/ability.go`)

Without the memory cache a channel is drawn from the `abilities` rows of a group and a model that
have the priority of the retry. The rows are joined with their channels and suppliers; the weight
of a row is scaled by the route preference of the supplier.
-/

namespace TokenRouter

/-- The tables that routing reads. `advancedCustom` is the configuration of an Advanced Custom
    channel, as the test whether it supports a path. -/
structure RouteTables extends ChannelDB where
  suppliers : Suppliers := .empty
  preferences : SupplierRoutePreferences := .empty
  advancedCustom : Nat → Option (String → Bool) := fun _ => none

/-- `constant.ChannelTypeAdvancedCustom` -/
def channelTypeAdvancedCustom : Int := 58

namespace RouteTables

variable (db : RouteTables)

/-- `applyRuntimeEligibleAbilityFilters` -/
def runtimeEligible (a : Ability) : Bool :=
  match db.channels.find? a.channelId with
  | none => false
  | some channel =>
    channel.status = .enabled &&
      (channel.supplierId = 0 ||
        (db.suppliers.first channel.supplierId).any fun s => s.status = .enabled)

/-- The eligible rows of a group and a model. -/
def eligibleAbilities (group model : String) : List Ability :=
  db.abilities.rows.filter fun a =>
    db.runtimeEligible a && (a.group = group && a.model = model && a.enabled)

/-- The distinct priorities, the highest first. -/
def priorities (group model : String) : List Int :=
  ((db.eligibleAbilities group model).map (·.priority)).dedup.insertionSort (· ≥ ·)

/-- `getPriority` -/
def getPriority (group model : String) (retry : Nat) : Except String Int :=
  let priorities := db.priorities group model
  match priorities[min retry (priorities.length - 1)]? with
  | none => .error "数据库一致性被破坏"
  | some priority => .ok priority

/-- `getChannelQuery`, with the rows it finds. -/
def getChannelQuery (group model : String) (retry : Nat) : Except String (List Ability) :=
  let ofPriority (priority : Int) :=
    (db.eligibleAbilities group model).filter fun a => a.priority = priority
  if retry = 0 then
    match (db.priorities group model).head? with
    | none => .ok []
    | some priority => .ok (ofPriority priority)
  else
    match db.getPriority group model retry with
    | .error e => .error e
    | .ok priority => .ok (ofPriority priority)

/-- `filterAbilitiesByRequestPath` -/
def filterAbilitiesByRequestPath (abilities : List Ability) (requestPath : String) :
    List Ability :=
  if requestPath = "" then abilities
  else abilities.filter fun a =>
    match db.channels.find? a.channelId with
    | none => true
    | some channel =>
      channel.channelType ≠ channelTypeAdvancedCustom ||
        (db.advancedCustom a.channelId).any fun supportsPath => supportsPath requestPath

/-- The supplier of a channel, as `loadAbilitySupplierRoutePreferencePercents` reads it. -/
def channelSupplierId (channelId : Nat) : Int :=
  ((db.channels.find? channelId).map (·.supplierId)).getD 0

/-- The weights of `GetChannel`: ten are added to the weight of a row. -/
def abilityWeights (abilities : List Ability) (now : Int) : List Int :=
  abilities.map fun a =>
    supplierRoutePreferenceSelectionWeight (a.weight + 10) (db.channelSupplierId a.channelId) false
      (loadActiveSupplierRoutePreferencePercents db.preferences now)

end RouteTables

/-- The loop of `GetChannel`: the weights are taken from the number drawn until nothing is left
    of it. -/
def pickAbility : List Int → Int → Option Nat
  | [], _ => none
  | w :: ws, weight =>
    if weight - w ≤ 0 then some 0 else (pickAbility ws (weight - w)).map (· + 1)

/-- `GetChannel`, with the number that it draws. Rows of one weight come in the order of the
    table. -/
def RouteTables.getChannel (db : RouteTables) (group model : String) (retry : Nat)
    (requestPath : String) (now draw : Int) : Except String (Option ChannelRow) :=
  match db.getChannelQuery group model retry with
  | .error e => .error e
  | .ok found =>
    let abilities := db.filterAbilitiesByRequestPath
      (found.insertionSort fun a b => b.weight ≤ a.weight) requestPath
    let weights := db.abilityWeights abilities now
    if weights.sum ≤ 0 then .ok none
    else
      match (pickAbility weights draw).bind fun i => abilities[i]? with
      | none => .error "record not found"
      | some a =>
        match db.channels.find? a.channelId with
        | none => .error "record not found"
        | some channel => .ok (some channel)

end TokenRouter
