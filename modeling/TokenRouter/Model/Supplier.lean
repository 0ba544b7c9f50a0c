import TokenRouter.Common
import TokenRouter.ForStd.Table

/-!
# Suppliers and their route preferences (`model/supplier.go`, `model/supplier_route_preference.go`)

A supplier carries the same status codes as a channel. At most one route preference per
supplier scales the weights of its channels; the preferences that can be written have a
percentage from 1 to 200, which the row carries as a field.
-/

namespace TokenRouter

/-- The `ChannelStatus` constants; the column holds any integer. -/
inductive ChannelStatus where
  | unknown
  | enabled
  | manuallyDisabled
  | autoDisabled
  | other (code : Int)
  deriving DecidableEq

/-- The columns of `suppliers` that routing and reviews use. -/
structure Supplier where
  id : Int
  name : String := ""
  status : ChannelStatus := .enabled
  notes : String := ""
  updatedTime : Int := 0
  /-- soft deletion, `deleted_at IS NOT NULL` -/
  deleted : Bool := false
  deriving DecidableEq

/-- The `suppliers` table. -/
abbrev Suppliers := Table Supplier (·.id)

/-- `First(&supplier, "id = ?", id)`, which skips deleted rows. -/
def Suppliers.first (suppliers : Suppliers) (id : Int) : Option Supplier :=
  (suppliers.find? id).filter fun s => !s.deleted

/-- `Status` of a route preference. -/
inductive RoutePreferenceStatus where
  | active
  | disabled
  deriving DecidableEq

/-- A row of `supplier_route_preferences`. Manual activation accepts percentages from 1 to
    200, and the other writers write 25, 150 and 100. -/
structure SupplierRoutePreference where
  supplierId : Int
  sourcePostureRecommendationId : Nat := 0
  status : RoutePreferenceStatus := .active
  weightPercent : Nat
  reason : String := ""
  effectiveFrom : Int := 0
  effectiveTo : Int := 0
  activatedAt : Int := 0
  activatedBy : Int := 0
  disabledAt : Int := 0
  disabledBy : Int := 0
  operatorNote : String := ""
  percentPos : 1 ≤ weightPercent
  percentLe : weightPercent ≤ 200

/-- The `supplier_route_preferences` table, unique on the supplier. -/
abbrev SupplierRoutePreferences := Table SupplierRoutePreference (·.supplierId)

/-- The window and status conditions of `loadActiveSupplierRoutePreferencePercents`. -/
def SupplierRoutePreference.isActive (p : SupplierRoutePreference) (now : Int) : Bool :=
  p.status = .active && (p.effectiveFrom = 0 || p.effectiveFrom ≤ now) &&
    (p.effectiveTo = 0 || now ≤ p.effectiveTo)

/-- `normalizeSupplierRoutePreferenceWeightPercent` -/
def normalizeSupplierRoutePreferenceWeightPercent (percent : Int) : Int :=
  if percent < 0 then 0 else if 200 < percent then 200 else percent

/-- `loadActiveSupplierRoutePreferencePercents`: the percentage of a supplier that has an
    active preference. -/
def loadActiveSupplierRoutePreferencePercents (preferences : SupplierRoutePreferences) (now : Int)
    (supplierId : Int) : Option Int :=
  ((preferences.find? supplierId).filter fun p => p.isActive now).map
    fun p => normalizeSupplierRoutePreferenceWeightPercent p.weightPercent

/-- `supplierRoutePreferenceSelectionWeight` -/
def supplierRoutePreferenceSelectionWeight (baseWeight supplierId : Int)
    (allBaseWeightsZero : Bool) (percents : Int → Option Int) : Int :=
  let baseWeight := if allBaseWeightsZero then 100 else baseWeight
  if baseWeight ≤ 0 then 0
  else
    let percent :=
      if 0 < supplierId then
        match percents supplierId with
        | some value => normalizeSupplierRoutePreferenceWeightPercent value
        | none => 100
      else 100
    if percent ≤ 0 then 0
    else
      let weight := baseWeight * percent / 100
      if weight = 0 then 1 else weight

/-- A preference that can be stored scales a positive weight to a positive weight. -/
theorem selectionWeight_pos_iff (baseWeight supplierId : Int) (allZero : Bool)
    (preferences : SupplierRoutePreferences) (now : Int) :
    0 < supplierRoutePreferenceSelectionWeight baseWeight supplierId allZero
        (loadActiveSupplierRoutePreferencePercents preferences now) ↔
      allZero = true ∨ 0 < baseWeight := by
  have hpercent : ∀ p, loadActiveSupplierRoutePreferencePercents preferences now supplierId =
      some p → 0 < normalizeSupplierRoutePreferenceWeightPercent p := by
    intro p hp
    unfold loadActiveSupplierRoutePreferencePercents at hp
    obtain ⟨row, -, rfl⟩ := Option.map_eq_some_iff.mp hp
    have hpos := row.percentPos
    have hle := row.percentLe
    unfold normalizeSupplierRoutePreferenceWeightPercent
    split_ifs <;> omega
  -- a positive base and a positive percentage give a positive weight, rounded up from zero
  have hscaled : ∀ base percent : Int, 0 < base → 0 < percent →
      0 < (if base * percent / 100 = 0 then 1 else base * percent / 100) := by
    intro base percent hb hp
    have hprod : 0 ≤ base * percent / 100 := by
      apply Int.ediv_nonneg
      · exact Int.le_of_lt (Int.mul_pos hb hp)
      · decide
    split
    · decide
    · omega
  unfold supplierRoutePreferenceSelectionWeight
  dsimp only
  have hbase : (if allZero = true then (100 : Int) else baseWeight) ≤ 0 ↔
      ¬ (allZero = true ∨ 0 < baseWeight) := by
    cases allZero with
    | true => simp
    | false => simp
  by_cases hb : (if allZero = true then (100 : Int) else baseWeight) ≤ 0
  · rw [if_pos hb]
    exact ⟨fun h => absurd h (by decide), fun h => absurd h (hbase.mp hb)⟩
  · rw [if_neg hb]
    refine ⟨fun _ => by_contra fun hn => hb (hbase.mpr hn), fun _ => ?_⟩
    have hpos : 0 < (if 0 < supplierId then
        match loadActiveSupplierRoutePreferencePercents preferences now supplierId with
        | some value => normalizeSupplierRoutePreferenceWeightPercent value
        | none => 100
      else 100 : Int) := by
      split
      · cases hp : loadActiveSupplierRoutePreferencePercents preferences now supplierId with
        | none => decide
        | some p => exact hpercent p hp
      · decide
    rw [if_neg (by omega)]
    exact hscaled _ _ (by omega) hpos

end TokenRouter
