import TokenRouter.Common
import TokenRouter.Dto

/-!
# Access policies of OAuth providers (`oauth/generic.go`, `model/custom_oauth_provider.go`)

A policy is checked when its provider is saved and, by another package, at every login; then it is
evaluated on the user's profile. The decoding of a policy, `gjson`, `strconv.ParseFloat` and
`fmt.Sprint` are parameters; `F` are the values of a `float64`.
-/

namespace TokenRouter.Oauth

/-- A decoded JSON value (`any`). -/
inductive Value (F : Type) where
  | nil
  | bool (b : Bool)
  | num (x : F)
  | str (s : String)
  | arr (items : List (Value F))
  | obj (fields : List (String × Value F))

/-- `accessCondition`, `accessConditionItem` -/
structure AccessCondition (F : Type) where
  field : String
  op : String
  value : Value F

/-- `accessPolicy`, `accessPolicyPayload` -/
inductive AccessPolicy (F : Type) where
  | mk (logic : String) (conditions : List (AccessCondition F)) (groups : List (AccessPolicy F))

structure AccessPolicyFailure (F : Type) where
  field : String
  op : String
  expected : Value F
  current : Value F

structure Lib (F : Type) where
  lt : F → F → Bool
  parseFloat : String → Option F
  sprint : Value F → String
  /-- The value that `gjsonResultToValue` makes of `gjson.Get`, if the result exists. -/
  get : String → String → Option (Value F)
  /-- `common.UnmarshalJsonStr` into a policy -/
  unmarshal : String → Option (AccessPolicy F)

def supportedAccessPolicyOps : List String :=
  ["eq", "ne", "gt", "gte", "lt", "lte", "in", "not_in", "contains", "not_contains", "exists",
    "not_exists"]

variable {F : Type}

/-! ## Validation -/

def normalizePolicyOp (op : String) : String := Dto.toLower (trimSpace op)

/-- The logic of a policy, `and` if none is given. -/
def policyLogic (logic : String) : String :=
  let logic := Dto.toLower (trimSpace logic)
  if logic = "" then "and" else logic

def Value.isArray : Value F → Bool
  | .arr _ => true
  | _ => false

/-- `validateAccessCondition`; the condition is normalized in place. -/
def validateAccessCondition (condition : AccessCondition F) (index : Nat) :
    Except String (AccessCondition F) :=
  let condition := { condition with
    field := trimSpace condition.field
    op := normalizePolicyOp condition.op }
  if condition.field = "" then .error s!"condition[{index}].field is required"
  else if condition.op ∉ supportedAccessPolicyOps then
    .error s!"condition[{index}].op is unsupported: {condition.op}"
  else if condition.op ∈ ["in", "not_in"] ∧ !condition.value.isArray then
    .error s!"condition[{index}].value must be an array for op {condition.op}"
  else .ok condition

/-- The loop over the conditions of a policy. -/
def validateConditions : Nat → List (AccessCondition F) → Except String (List (AccessCondition F))
  | _, [] => .ok []
  | index, condition :: conditions => do
    let condition ← validateAccessCondition condition index
    let conditions ← validateConditions (index + 1) conditions
    return condition :: conditions

mutual

/-- `validateAccessPolicy`; the policy is normalized in place. -/
def validateAccessPolicy : AccessPolicy F → Except String (AccessPolicy F)
  | .mk logic conditions groups =>
    let logic := policyLogic logic
    if logic ∉ ["and", "or"] then .error s!"unsupported policy logic: {logic}"
    else if conditions.isEmpty && groups.isEmpty then
      .error "policy requires at least one condition or group"
    else do
      let conditions ← validateConditions 0 conditions
      let groups ← validateGroups 0 groups
      return .mk logic conditions groups

/-- The loop over the groups of a policy. -/
def validateGroups : Nat → List (AccessPolicy F) → Except String (List (AccessPolicy F))
  | _, [] => .ok []
  | index, group :: groups =>
    match validateAccessPolicy group with
    | .error err => .error s!"invalid policy group[{index}]: {err}"
    | .ok group => do
      let groups ← validateGroups (index + 1) groups
      return group :: groups

end

def parseAccessPolicy (lib : Lib F) (raw : String) : Option (AccessPolicy F) :=
  (lib.unmarshal raw).bind fun policy => (validateAccessPolicy policy).toOption

/-! ## Validation of a provider that is saved -/

/-- The conditions of a policy in `validateAccessPolicyPayload`. -/
def validateConditionItems : Nat → List (AccessCondition F) → Except String Unit
  | _, [] => .ok ()
  | index, condition :: conditions =>
    let field := trimSpace condition.field
    let op := Dto.toLower (trimSpace condition.op)
    if field = "" then .error s!"condition[{index}].field is required"
    else if op ∉ supportedAccessPolicyOps then
      .error s!"condition[{index}].op is unsupported: {op}"
    else if (op = "in" ∨ op = "not_in") ∧ !condition.value.isArray then
      .error s!"condition[{index}].value must be an array for op {op}"
    else validateConditionItems (index + 1) conditions

mutual

def validateAccessPolicyPayload : AccessPolicy F → Except String Unit
  | .mk logic conditions groups =>
    let logic := policyLogic logic
    if logic ≠ "and" ∧ logic ≠ "or" then .error s!"unsupported logic: {logic}"
    else if conditions.isEmpty && groups.isEmpty then
      .error "policy requires at least one condition or group"
    else do
      validateConditionItems 0 conditions
      validatePayloadGroups 0 groups

def validatePayloadGroups : Nat → List (AccessPolicy F) → Except String Unit
  | _, [] => .ok ()
  | index, group :: groups =>
    match validateAccessPolicyPayload group with
    | .error err => .error s!"group[{index}]: {err}"
    | .ok () => validatePayloadGroups (index + 1) groups

end

structure CustomOAuthProvider where
  name : String
  slug : String
  clientId : String
  authorizationEndpoint : String
  tokenEndpoint : String
  userInfoEndpoint : String
  userIdField : String
  usernameField : String
  displayNameField : String
  emailField : String
  scopes : String
  accessPolicy : String
  deriving DecidableEq

/-- The characters of a slug. -/
def isSlugChar (c : Char) : Bool := c.isLower || c.isDigit || c == '-'

/-- A field with its default. -/
def orDefault (field default : String) : String := if field = "" then default else field

/-- The defaults of the fields that are empty. -/
def CustomOAuthProvider.withDefaults (provider : CustomOAuthProvider) : CustomOAuthProvider :=
  { provider with
    userIdField := orDefault provider.userIdField "sub"
    usernameField := orDefault provider.usernameField "preferred_username"
    displayNameField := orDefault provider.displayNameField "name"
    emailField := orDefault provider.emailField "email"
    scopes := orDefault provider.scopes "openid profile email" }

/-- The check of the text of a policy. -/
def checkAccessPolicy (lib : Lib F) (raw : String) : Except String Unit :=
  if trimSpace raw = "" then .ok ()
  else match lib.unmarshal raw with
    | none => .error "access_policy must be valid JSON"
    | some policy =>
      match validateAccessPolicyPayload policy with
      | .error err => .error s!"access_policy is invalid: {err}"
      | .ok () => .ok ()

/-- `validateCustomOAuthProvider`: the provider as it is stored. -/
def validateCustomOAuthProvider (lib : Lib F) (provider : CustomOAuthProvider) :
    Except String CustomOAuthProvider :=
  let slug := Dto.toLower provider.slug
  if provider.name = "" then .error "provider name is required"
  else if provider.slug = "" then .error "provider slug is required"
  else if !slug.toList.all isSlugChar then
    .error "provider slug must contain only lowercase letters, numbers, and hyphens"
  else if provider.clientId = "" then .error "client ID is required"
  else if provider.authorizationEndpoint = "" then .error "authorization endpoint is required"
  else if provider.tokenEndpoint = "" then .error "token endpoint is required"
  else if provider.userInfoEndpoint = "" then .error "user info endpoint is required"
  else do
    checkAccessPolicy lib provider.accessPolicy
    return { provider with slug }.withDefaults

/-! ## Evaluation -/

def toFloat (lib : Lib F) : Value F → Option F
  | .num x => some x
  | .str s => lib.parseFloat (trimSpace s)
  | _ => none

def compareAny (lib : Lib F) (left right : Value F) : Int :=
  match toFloat lib left, toFloat lib right with
  | some lf, some rf => if lib.lt lf rf then -1 else if lib.lt rf lf then 1 else 0
  | _, _ =>
    let ls := trimSpace (lib.sprint left)
    let rs := trimSpace (lib.sprint right)
    if ls < rs then -1 else if rs < ls then 1 else 0

def valueInSlice (lib : Lib F) (current : Value F) : Value F → Bool
  | .arr list => list.any fun item => compareAny lib current item == 0
  | _ => false

def containsValue (lib : Lib F) (current expected : Value F) : Bool :=
  match current with
  | .str value => containsText value (trimSpace (lib.sprint expected))
  | .arr items => items.any fun item => compareAny lib item expected == 0
  | _ => false

/-- What a condition asks of the value of its field. -/
def opHolds (lib : Lib F) (op : String) (result : Option (Value F)) (value : Value F) : Bool :=
  let current := result.getD .nil
  match op with
  | "exists" => result.isSome
  | "not_exists" => !result.isSome
  | "eq" => compareAny lib current value == 0
  | "ne" => compareAny lib current value != 0
  | "gt" => decide (compareAny lib current value > 0)
  | "gte" => decide (compareAny lib current value ≥ 0)
  | "lt" => decide (compareAny lib current value < 0)
  | "lte" => decide (compareAny lib current value ≤ 0)
  | "in" => valueInSlice lib current value
  | "not_in" => !valueInSlice lib current value
  | "contains" => containsValue lib current value
  | "not_contains" => !containsValue lib current value
  | _ => false

def evaluateAccessCondition (lib : Lib F) (body : String) (cond : AccessCondition F) :
    Bool × AccessPolicyFailure F :=
  let result := lib.get body cond.field
  (opHolds lib cond.op result cond.value,
    { field := cond.field, op := cond.op, expected := cond.value, current := result.getD .nil })

/-- The loop over the conditions of an `or`: whether one holds, and the first failure. -/
def anyCondition (lib : Lib F) (body : String) :
    Option (AccessPolicyFailure F) → List (AccessCondition F) →
      Bool × Option (AccessPolicyFailure F)
  | firstFailure, [] => (false, firstFailure)
  | firstFailure, cond :: conditions =>
    match evaluateAccessCondition lib body cond with
    | (true, _) => (true, none)
    | (false, failure) => anyCondition lib body (firstFailure.or (some failure)) conditions

/-- The loop over the conditions of an `and`. -/
def allConditions (lib : Lib F) (body : String) :
    List (AccessCondition F) → Bool × Option (AccessPolicyFailure F)
  | [] => (true, none)
  | cond :: conditions =>
    match evaluateAccessCondition lib body cond with
    | (true, _) => allConditions lib body conditions
    | (false, failure) => (false, some failure)

mutual

def evaluateAccessPolicy (lib : Lib F) (body : String) :
    AccessPolicy F → Bool × Option (AccessPolicyFailure F)
  | .mk logic conditions groups =>
    if conditions.isEmpty && groups.isEmpty then (true, none)
    else if policyLogic logic = "or" then
      match anyCondition lib body none conditions with
      | (true, _) => (true, none)
      | (false, firstFailure) => anyGroup lib body firstFailure groups
    else
      match allConditions lib body conditions with
      | (false, failure) => (false, failure)
      | (true, _) => allGroups lib body groups

/-- The loop over the groups of an `or`. -/
def anyGroup (lib : Lib F) (body : String) :
    Option (AccessPolicyFailure F) → List (AccessPolicy F) → Bool × Option (AccessPolicyFailure F)
  | firstFailure, [] => (false, firstFailure)
  | firstFailure, group :: groups =>
    match evaluateAccessPolicy lib body group with
    | (true, _) => (true, none)
    | (false, failure) => anyGroup lib body (firstFailure.or failure) groups

/-- The loop over the groups of an `and`. -/
def allGroups (lib : Lib F) (body : String) :
    List (AccessPolicy F) → Bool × Option (AccessPolicyFailure F)
  | [] => (true, none)
  | group :: groups =>
    match evaluateAccessPolicy lib body group with
    | (true, _) => allGroups lib body groups
    | (false, failure) => (false, failure)

end

inductive AccessOutcome (F : Type) where
  | admitted
  | invalidPolicy
  | denied (failure : AccessPolicyFailure F)
  /-- The log line of a denial reads a failure that is nil. -/
  | nilDereference

/-- The policy of a provider in `GetUserInfo`. -/
def checkUserAccess (lib : Lib F) (provider : CustomOAuthProvider) (body : String) :
    AccessOutcome F :=
  let policyRaw := trimSpace provider.accessPolicy
  if policyRaw = "" then .admitted
  else match parseAccessPolicy lib policyRaw with
    | none => .invalidPolicy
    | some policy =>
      match evaluateAccessPolicy lib body policy with
      | (true, _) => .admitted
      | (false, some failure) => .denied failure
      | (false, none) => .nilDereference

end TokenRouter.Oauth
