import TokenRouter.Model.RouteCache

/-!
# Manual route preferences (`model/supplier_route_preference.go`)

An operator activates a preference with a weight, a reason and a window. The row is written in a
transaction; what the operator gets back is read afterwards, by the query for the preference that
is active now.
-/

namespace TokenRouter

/-- `SupplierRoutePreferenceActivateInput` -/
structure SupplierRoutePreferenceActivateInput where
  supplierId : Int
  weightPercent : Int
  reason : String
  effectiveFrom : Int := 0
  effectiveTo : Int := 0
  operatorNote : String := ""
  deriving DecidableEq

/-- `validateSupplierRoutePreferenceActivateInput`, with the error if there is one. -/
def validateSupplierRoutePreferenceActivateInput (input : SupplierRoutePreferenceActivateInput) :
    Option String :=
  if input.supplierId ≤ 0 then some "supplier_id is required"
  else if input.weightPercent < 1 ∨ 200 < input.weightPercent then
    some "weight_percent must be between 1 and 200"
  else if trimSpace input.reason = "" then some "reason is required"
  else if input.effectiveFrom < 0 ∨ input.effectiveTo < 0 then
    some "effective window cannot be negative"
  else if 0 < input.effectiveTo ∧ 0 < input.effectiveFrom ∧
      input.effectiveTo ≤ input.effectiveFrom then
    some "effective_to must be greater than effective_from"
  else none

/-- A validated input can be stored. -/
theorem weightPercent_of_valid {input : SupplierRoutePreferenceActivateInput}
    (h : validateSupplierRoutePreferenceActivateInput input = none) :
    0 < input.supplierId ∧ 1 ≤ input.weightPercent ∧ input.weightPercent ≤ 200 := by
  unfold validateSupplierRoutePreferenceActivateInput at h
  split at h
  · cases h
  · split at h
    · cases h
    · omega

/-- `GetActiveSupplierRoutePreferenceBySupplierID`, with its reading of the clock and the error
    with which the database fails the query, if it does. -/
def getActiveSupplierRoutePreferenceBySupplierID (preferences : SupplierRoutePreferences)
    (supplierId : Int) (now : Timestamp) (fails : Option String) :
    Except String SupplierRoutePreference :=
  if supplierId ≤ 0 then .error "supplier_id is required"
  else
    match fails with
    | some e => .error e
    | none =>
      match (preferences.find? supplierId).filter fun p => p.isActive now.unix with
      | none => .error "record not found"
      | some preference => .ok preference

/-- The start of the window: an input without one starts now. -/
def SupplierRoutePreferenceActivateInput.startsAt (input : SupplierRoutePreferenceActivateInput)
    (now : Timestamp) : Int :=
  if input.effectiveFrom = 0 then now.unix else input.effectiveFrom

/-- The row that an activation writes. -/
def activatedPreference (input : SupplierRoutePreferenceActivateInput) (activatedBy : Int)
    (now : Timestamp) (hpos : 1 ≤ input.weightPercent) (hle : input.weightPercent ≤ 200) :
    SupplierRoutePreference where
  supplierId := input.supplierId
  weightPercent := input.weightPercent.toNat
  reason := trimSpace input.reason
  effectiveFrom := input.startsAt now
  effectiveTo := input.effectiveTo
  activatedAt := now.unix
  activatedBy := activatedBy
  operatorNote := trimSpace input.operatorNote
  percentPos := by omega
  percentLe := by omega

/-- `ActivateSupplierRoutePreference`: what it returns and the table after it. The clock is read
    before the write and again for the query after it. -/
def activateSupplierRoutePreference (suppliers : Suppliers) (preferences : SupplierRoutePreferences)
    (input : SupplierRoutePreferenceActivateInput) (activatedBy : Int) (now rereadAt : Timestamp)
    (rereadFails : Option String) :
    Except String SupplierRoutePreference × SupplierRoutePreferences :=
  match h : validateSupplierRoutePreferenceActivateInput input with
  | some e => (.error e, preferences)
  | none =>
    match suppliers.first input.supplierId with
    | none => (.error "record not found", preferences)
    | some supplier =>
      if isSupplierStatusEnabled supplier.id
          (fun id => if id = supplier.id then some supplier.status else none) then
        let written := preferences.upsert (activatedPreference input activatedBy now
          (weightPercent_of_valid h).2.1 (weightPercent_of_valid h).2.2)
        (getActiveSupplierRoutePreferenceBySupplierID written input.supplierId rereadAt rereadFails,
          written)
      else (.error "supplier must be enabled before route preference can be activated", preferences)

end TokenRouter
