import TokenRouter.Common.Json
import TokenRouter.Dto
import TokenRouter.Model.Ability
import TokenRouter.Relay.HeaderOverride

/-!
# Parameter overrides (`relay/common/override.go`)

The operations that an override applies to the body of a request. A body is its decoded document;
`gjson` and `sjson` read and write it by path. The operations on headers and `sync_fields` change
the context and are one function of the library, and so is the error of `return_error`. The audit
lines are left out.
-/

namespace TokenRouter.ParamOverride

open RelayLoop (replaceAll)

/-- `gjson` and `sjson` on decoded documents, and what else is called from outside. -/
structure JsonPaths where
  /-- `gjson.GetBytes`, with `none` for a value that does not exist -/
  get : Json → String → Option Json
  /-- `sjson.SetBytes` and `sjson.SetRawBytes` -/
  set : Json → String → Json → Except String Json
  /-- `sjson.DeleteBytes` -/
  delete : Json → String → Except String Json
  /-- `Result.Num` of a number -/
  num : String → ℚ
  /-- `Result.String()` of a value that is not a string -/
  resultText : Json → String
  /-- `fmt.Sprintf("%v", value)` of a value that is not a string -/
  sprint : Json → String
  /-- `strings.ToLower` and `strings.ToUpper` of a value -/
  toLower : String → String
  toUpper : String → String
  /-- `regexp.Compile`, with `ReplaceAllString` -/
  compileRegexp : String → Except String (String → String → String)

/-! ## Values -/

/-- The type of a `gjson.Result`. -/
inductive GjsonType where
  | null
  | bool (b : Bool)
  | number
  | string
  | json
  deriving DecidableEq

/-- `Type.String()` -/
def GjsonType.name : GjsonType → String
  | .null => "Null"
  | .bool true => "True"
  | .bool false => "False"
  | .number => "Number"
  | .string => "String"
  | .json => "JSON"

def gjsonType : Json → GjsonType
  | .null => .null
  | .bool b => .bool b
  | .num _ => .number
  | .str _ => .string
  | .arr _ => .json
  | .obj _ => .json

/-- `strings.ToUpper`, as far as a comparison with an ASCII text can tell. -/
def upperRune (c : Char) : Char :=
  if c = '\u0131' then 'I' else if c = '\u017f' then 'S' else c.toUpper

namespace JsonPaths

variable (lib : JsonPaths)

/-- `Result.String()` -/
def string : Json → String
  | .str s => s
  | value => lib.resultText value

/-- `fmt.Sprintf("%v", value)` -/
def sprintValue : Json → String
  | .str s => s
  | value => lib.sprint value

/-! ## Conditions -/

/-- `compareEqual` -/
def compareEqual (jsonValue targetValue : Json) : Except String Bool :=
  match gjsonType jsonValue, gjsonType targetValue with
  | .null, .null => .ok true
  | .null, _ => .ok false
  | _, .null => .ok false
  | .bool a, .bool b => .ok (a = b)
  | a, b =>
    if a ≠ b then .error ("compare for different types, got " ++ a.name ++ " and " ++ b.name)
    else
      match jsonValue, targetValue with
      | .num x, .num y => .ok (lib.num x = lib.num y)
      | _, _ => .ok (lib.string jsonValue = lib.string targetValue)

/-- `compareNumeric` -/
def compareNumeric (jsonValue targetValue : Json) (operator : ℚ → ℚ → Bool) :
    Except String Bool :=
  match jsonValue, targetValue with
  | .num x, .num y => .ok (operator (lib.num x) (lib.num y))
  | _, _ => .error ("numeric comparison requires both values to be numbers, got " ++
      (gjsonType jsonValue).name ++ " and " ++ (gjsonType targetValue).name)

/-- `compareGjsonValues` -/
def compareGjsonValues (jsonValue targetValue : Json) (mode : String) : Except String Bool :=
  match mode with
  | "full" => lib.compareEqual jsonValue targetValue
  | "prefix" => .ok (RelayLoop.hasPrefix (lib.string jsonValue) (lib.string targetValue))
  | "suffix" => .ok ((lib.string targetValue).toList.isSuffixOf (lib.string jsonValue).toList)
  | "contains" => .ok (containsText (lib.string jsonValue) (lib.string targetValue))
  | "gt" => lib.compareNumeric jsonValue targetValue fun x y => y < x
  | "gte" => lib.compareNumeric jsonValue targetValue fun x y => y ≤ x
  | "lt" => lib.compareNumeric jsonValue targetValue fun x y => x < y
  | "lte" => lib.compareNumeric jsonValue targetValue fun x y => x ≤ y
  | _ => .error ("unsupported comparison mode: " ++ mode)

end JsonPaths

/-- The matches of `negativeIndexRegexp`, each without its dot. -/
def negativeIndexes : List Char → List (List Char)
  | [] => []
  | c :: rest =>
    (match c, rest with
      | '.', '-' :: digits =>
        if digits.takeWhile Char.isDigit = [] then [] else ['-' :: digits.takeWhile Char.isDigit]
      | _, _ => []) ++ negativeIndexes rest

/-- `strings.Split(path, sep)[0]`: the text before the first `sep`. -/
def textBefore (sep : List Char) : List Char → List Char
  | [] => []
  | c :: rest => if sep.isPrefixOf (c :: rest) then [] else c :: textBefore sep rest

/-- `strings.Replace(s, old, new, 1)` -/
def replaceFirst (old new : List Char) : List Char → List Char
  | [] => []
  | c :: rest =>
    if old.isPrefixOf (c :: rest) then new ++ (c :: rest).drop old.length
    else c :: replaceFirst old new rest

/-- `strconv.Atoi` of a negative number without its error: too large a number is cut off. -/
def atoiClamped (cs : List Char) : Int := (atoi cs).getD (-2 ^ 63)

/-- `strings.TrimSuffix(s, ".")` -/
def trimDot (s : List Char) : List Char := if s.getLast? = some '.' then s.dropLast else s

structure ConditionOperation where
  path : String
  mode : String
  value : Json := .null
  invert : Bool := false
  passMissingKey : Bool := false

namespace JsonPaths

variable (lib : JsonPaths)

/-- One match of `processNegativeIndex`: the index is looked up in the array before the first
    place where its text occurs in the path. -/
def replaceNegativeIndex (data : Json) (path : List Char) (result negIndex : List Char) :
    List Char :=
  match lib.get data (String.ofList (trimDot (textBefore negIndex path))) with
  | some (.arr items) =>
    let actualIndex := (items.length : Int) + atoiClamped negIndex
    if 0 ≤ actualIndex ∧ actualIndex < items.length then
      replaceFirst ('.' :: negIndex) ('.' :: actualIndex.repr.toList) result
    else result
  | _ => result

/-- `processNegativeIndex` -/
def processNegativeIndex (data : Json) (path : String) : String :=
  String.ofList ((negativeIndexes path.toList).foldl
    (lib.replaceNegativeIndex data path.toList) path.toList)

/-- `checkSingleCondition`; the context is `none` where its text is empty. -/
def checkSingleCondition (data : Json) (contextJSON : Option Json)
    (condition : ConditionOperation) : Except String Bool :=
  let path := lib.processNegativeIndex data condition.path
  match (lib.get data path).or (contextJSON.bind fun c => lib.get c condition.path) with
  | none => .ok condition.passMissingKey
  | some value =>
    match lib.compareGjsonValues value condition.value (Dto.toLower condition.mode) with
    | .error e => .error ("comparison failed for path " ++ condition.path ++ ": " ++ e)
    | .ok result => .ok (if condition.invert then !result else result)

/-- `checkConditions` -/
def checkConditions (data : Json) (contextJSON : Option Json)
    (conditions : List ConditionOperation) (logic : String) : Except String Bool :=
  if conditions = [] then .ok true
  else do
    let results ← conditions.mapM (lib.checkSingleCondition data contextJSON)
    return if String.ofList (logic.toList.map upperRune) = "AND" then results.all id
      else results.any id

end JsonPaths

/-! ## The old form of an override -/

/-- `escapeSjsonLiteralKey` -/
def escapeSjsonLiteralKey (key : String) : String :=
  String.ofList (key.toList.flatMap fun c =>
    if c = '.' ∨ c = '*' ∨ c = '?' ∨ c = '\\' then ['\\', c] else [c])

namespace JsonPaths

variable (lib : JsonPaths)

/-- `applyOperationsLegacy`, with the override in the order in which the map is visited. -/
def applyOperationsLegacy (jsonData : Json) (paramOverride : List (String × Json)) :
    Except String Json :=
  paramOverride.foldlM (fun result e => lib.set result (escapeSjsonLiteralKey e.1) e.2) jsonData

/-! ## Moving and copying -/

/-- `moveValue` -/
def moveValue (data : Json) (fromPath toPath : String) : Except String Json :=
  match lib.get data fromPath with
  | none => .error ("source path does not exist: " ++ fromPath)
  | some sourceValue => do
    let result ← lib.set data toPath sourceValue
    lib.delete result fromPath

/-- `copyValue` -/
def copyValue (data : Json) (fromPath toPath : String) : Except String Json :=
  match lib.get data fromPath with
  | none => .error ("source path does not exist: " ++ fromPath)
  | some sourceValue => lib.set data toPath sourceValue

end JsonPaths

/-! ## Wildcards -/

/-- `strings.Join(segments, ".")` -/
def joinPath (segments : List String) : String := ".".intercalate segments

/-- `strings.Split(path, ".")` -/
def splitPath (path : String) : List String := (path.toList.splitOn '.').map String.ofList

/-- `collectWildcardPaths`. The fields of an object stand in the order of `sort.Strings`. -/
def collectWildcardPaths : List String → Json → List String → List String
  | [], _, before => [joinPath before]
  | s :: rest, node, before =>
    let segment := trimSpace s
    if segment = "" then []
    else if segment = "*" then
      match node with
      | .obj fields => fields.flatMap fun e => collectWildcardPaths rest e.2 (before ++ [e.1])
      | .arr items => items.zipIdx.flatMap fun e =>
          collectWildcardPaths rest e.1 (before ++ [toString e.2])
      | _ => []
    else
      match node with
      | .obj fields =>
        if rest = [] then [joinPath (before ++ [segment])]
        else
          match GoMap.get? fields segment with
          | none => []
          | some next => collectWildcardPaths rest next (before ++ [segment])
      | .arr items =>
        match (atoi segment.toList).bind fun i =>
            if i < 0 then none else items[i.toNat]? with
        | none => []
        | some item =>
          if rest = [] then [joinPath (before ++ [segment])]
          else collectWildcardPaths rest item (before ++ [segment])
      | _ => []

/-- `expandWildcardPaths` -/
def expandWildcardPaths (data : Json) (path : String) : List String :=
  dedupOn id [] (collectWildcardPaths (splitPath path) data [])

/-- `resolveOperationPaths` -/
def resolveOperationPaths (data : Json) (path : String) : List String :=
  if '*' ∈ path.toList then expandWildcardPaths data path else [path]

namespace JsonPaths

variable (lib : JsonPaths)

/-! ## Operations on values -/

/-- `deleteValue` -/
def deleteValue (data : Json) (path : String) : Except String Json :=
  if trimSpace path = "" then .ok data else lib.delete data path

/-- The operation `set` on one path. -/
def setValue (keepOrigin : Bool) (value data : Json) (path : String) : Except String Json :=
  if keepOrigin ∧ (lib.get data path).isSome then .ok data else lib.set data path value

/-- `operation not supported for type` -/
def notSupported (current : Option Json) : String :=
  "operation not supported for type: " ++ (gjsonType (current.getD .null)).name

/-- The array that `modifyArray` sets. -/
def modifiedArray (items : List Json) (value : Json) (isPrepend : Bool) : Json :=
  let added :=
    match value with
    | .arr values => values
    | _ => [value]
  .arr (if isPrepend then added ++ items else items ++ added)

/-- The text that `modifyString` sets. -/
def modifiedString (current : String) (value : Json) (isPrepend : Bool) : Json :=
  let valueStr := lib.sprintValue value
  .str (if isPrepend then valueStr ++ current else current ++ valueStr)

/-- `result[k] == nil` -/
def missing (m : GoMap Json) (key : String) : Bool :=
  match GoMap.get? m key with
  | none => true
  | some .null => true
  | some _ => false

/-- The map that `mergeObjects` sets. -/
def mergedObject (current : GoMap Json) (value : Json) (keepOrigin : Bool) :
    Except String Json :=
  match value with
  | .obj fields => .ok (.obj (fields.foldl
      (fun m e => if ¬ keepOrigin ∨ missing m e.1 then GoMap.set e.1 e.2 m else m) current))
  | .null => .ok (.obj current)
  | _ => .error "json: cannot unmarshal into Go value of type map[string]interface {}"

/-- The value that `modifyValue` sets. -/
def modifiedValue (value : Json) (keepOrigin isPrepend : Bool) : Option Json → Except String Json
  | some (.arr items) => .ok (modifiedArray items value isPrepend)
  | some (.str s) => .ok (lib.modifiedString s value isPrepend)
  | some (.obj fields) => mergedObject fields value keepOrigin
  | current => .error (notSupported current)

/-- `modifyValue` -/
def modifyValue (data : Json) (path : String) (value : Json) (keepOrigin isPrepend : Bool) :
    Except String Json := do
  let newValue ← lib.modifiedValue value keepOrigin isPrepend (lib.get data path)
  lib.set data path newValue

/-- The value that an operation on a string sets; `none` leaves it as it is. -/
def updatedString (update : String → Except String (Option String)) :
    Option Json → Except String (Option Json)
  | some (.str s) => (update s).map fun s' => s'.map .str
  | current => .error (notSupported current)

/-- An operation on a string. -/
def updateString (data : Json) (path : String) (update : String → Except String (Option String)) :
    Except String Json := do
  match ← updatedString update (lib.get data path) with
  | none => return data
  | some newValue => lib.set data path newValue

/-- The text of `trimStringValue`. -/
def trimmedText (value : Json) (isPrefix : Bool) (s : String) : Except String (Option String) :=
  match value with
  | .null => .error "trim value is required"
  | value =>
    let valueStr := (lib.sprintValue value).toList
    .ok (some (String.ofList
      (if isPrefix then
        if valueStr.isPrefixOf s.toList then s.toList.drop valueStr.length else s.toList
      else if valueStr.isSuffixOf s.toList then
        s.toList.take (s.toList.length - valueStr.length)
      else s.toList)))

/-- `trimStringValue` -/
def trimStringValue (data : Json) (path : String) (value : Json) (isPrefix : Bool) :
    Except String Json :=
  lib.updateString data path (lib.trimmedText value isPrefix)

/-- The text of `ensureStringAffix`. -/
def ensuredText (value : Json) (isPrefix : Bool) (s : String) : Except String (Option String) :=
  match value with
  | .null => .error "ensure value is required"
  | value =>
    let valueStr := lib.sprintValue value
    if valueStr = "" then .error "ensure value is required"
    else if isPrefix then
      if RelayLoop.hasPrefix s valueStr then .ok none else .ok (some (valueStr ++ s))
    else if valueStr.toList.isSuffixOf s.toList then .ok none
    else .ok (some (s ++ valueStr))

/-- `ensureStringAffix` -/
def ensureStringAffix (data : Json) (path : String) (value : Json) (isPrefix : Bool) :
    Except String Json :=
  lib.updateString data path (lib.ensuredText value isPrefix)

/-- `transformStringValue` -/
def transformStringValue (data : Json) (path : String) (transform : String → String) :
    Except String Json :=
  lib.updateString data path fun s => .ok (some (transform s))

/-- The text of `replaceStringValue`. -/
def replacedText (source target s : String) : Except String (Option String) :=
  if source = "" then .error "replace from is required"
  else .ok (some (replaceAll s source target))

/-- `replaceStringValue` -/
def replaceStringValue (data : Json) (path source target : String) : Except String Json :=
  lib.updateString data path (replacedText source target)

/-- The text of `regexReplaceStringValue`. -/
def regexReplacedText (pattern replacement s : String) : Except String (Option String) :=
  if pattern = "" then .error "regex pattern is required"
  else (lib.compileRegexp pattern).map fun replace => some (replace s replacement)

/-- `regexReplaceStringValue` -/
def regexReplaceStringValue (data : Json) (path pattern replacement : String) :
    Except String Json :=
  lib.updateString data path (lib.regexReplacedText pattern replacement)

/-! ## Pruning objects -/

end JsonPaths

structure PruneObjectsOptions where
  conditions : List ConditionOperation
  logic : String := "AND"
  recursive : Bool := true

/-- A condition that a field equals a value. -/
def fieldEquals (path : String) (value : Json) : ConditionOperation :=
  { path := path, mode := "full", value := value }

/-- A string field of a map, or the empty string. -/
def stringField (m : GoMap Json) (key : String) : String :=
  match GoMap.get? m key with
  | some (.str s) => s
  | _ => ""

/-- A field of a map that is true. -/
def trueField (m : GoMap Json) (key : String) : Bool :=
  match GoMap.get? m key with
  | some (.bool b) => b
  | _ => false

/-- One item of `parseConditionOperations`. -/
def parseConditionOperation : Json → Except String ConditionOperation
  | .obj item =>
    let path := stringField item "path"
    let mode := stringField item "mode"
    if trimSpace path = "" ∨ trimSpace mode = "" then .error "condition path/mode is required"
    else .ok
      { path := path
        mode := mode
        value := (GoMap.get? item "value").getD .null
        invert := trueField item "invert"
        passMissingKey := trueField item "pass_missing_key" }
  | _ => .error "condition must be object"

/-- `parseConditionOperations` -/
def parseConditionOperations : Json → Except String (List ConditionOperation)
  | .obj typed =>
    let conditions := typed.filterMap fun e =>
      if trimSpace e.1 = "" then none else some (fieldEquals (trimSpace e.1) e.2)
    if conditions = [] then .error "conditions object must contain at least one key"
    else .ok conditions
  | .arr items => items.mapM parseConditionOperation
  | _ => .error "conditions must be an array or object"

/-- The conditions that `prune_objects` takes from its `where`. -/
def whereConditions : Option Json → Except String (List ConditionOperation)
  | none => .ok []
  | some (.obj whereMap) => .ok (whereMap.filterMap fun e =>
      if trimSpace e.1 = "" then none else some (fieldEquals (trimSpace e.1) e.2))
  | some _ => .error "prune_objects where must be object"

/-- `parsePruneObjectsOptions` -/
def parsePruneObjectsOptions : Json → Except String PruneObjectsOptions
  | .null => .error "prune_objects value is required"
  | .str raw =>
    let v := trimSpace raw
    if v = "" then .error "prune_objects value is required"
    else .ok { conditions := [fieldEquals "type" (.str v)] }
  | .obj raw => do
    let logic := stringField raw "logic"
    let recursive :=
      match GoMap.get? raw "recursive" with
      | some (.bool b) => b
      | _ => true
    let conditions ←
      match GoMap.get? raw "conditions" with
      | some condRaw => parseConditionOperations condRaw
      | none => pure []
    let whereRaw ← whereConditions (GoMap.get? raw "where")
    let matchType := (GoMap.get? raw "type").toList.map (fieldEquals "type")
    let conditions := conditions ++ whereRaw ++ matchType
    if conditions = [] then .error "prune_objects conditions are required"
    else return { conditions := conditions
                  logic := if trimSpace logic = "" then "AND" else logic
                  recursive := recursive }
  | _ => .error "prune_objects value must be string or object"

namespace JsonPaths

variable (lib : JsonPaths)

/-- `shouldPruneObject` -/
def shouldPruneObject (options : PruneObjectsOptions) (contextJSON : Option Json)
    (node : GoMap Json) : Except String Bool :=
  lib.checkConditions (.obj node) contextJSON options.conditions options.logic

mutual

/-- `pruneObjectsNode`, with `none` for a node that is dropped. -/
def pruneObjectsNode (options : PruneObjectsOptions) (contextJSON : Option Json) (isRoot : Bool) :
    Json → Except String (Option Json)
  | .arr items => (pruneItems options contextJSON items).map fun kept => some (.arr kept)
  | .obj fields =>
    match lib.shouldPruneObject options contextJSON fields with
    | .error e => .error e
    | .ok shouldDrop =>
      if shouldDrop && !isRoot then .ok none
      else if ¬ options.recursive then .ok (some (.obj fields))
      else (pruneFields options contextJSON fields).map fun kept => some (.obj kept)
  | node => .ok (some node)

/-- The loop of `pruneObjectsNode` over an array. -/
def pruneItems (options : PruneObjectsOptions) (contextJSON : Option Json) :
    List Json → Except String (List Json)
  | [] => .ok []
  | item :: items =>
    match pruneObjectsNode options contextJSON false item with
    | .error e => .error e
    | .ok next => (pruneItems options contextJSON items).map fun kept => next.toList ++ kept

/-- The loop of `pruneObjectsNode` over a map. -/
def pruneFields (options : PruneObjectsOptions) (contextJSON : Option Json) :
    List (String × Json) → Except String (List (String × Json))
  | [] => .ok []
  | (key, value) :: fields =>
    match pruneObjectsNode options contextJSON false value with
    | .error e => .error e
    | .ok next => (pruneFields options contextJSON fields).map fun kept =>
        next.toList.map (key, ·) ++ kept

end

/-- `pruneObjects` -/
def pruneObjects (data : Json) (path : String) (contextJSON : Option Json) (value : Json) :
    Except String Json := do
  let options ← parsePruneObjectsOptions value
  if path = "" then
    let cleaned ← lib.pruneObjectsNode options contextJSON true data
    return cleaned.getD .null
  else
    match lib.get data path with
    | none => return data
    | some target => do
      let cleaned ← lib.pruneObjectsNode options contextJSON true target
      lib.set data path (cleaned.getD .null)

end JsonPaths

/-! ## Operations -/

structure ParamOperation where
  path : String := ""
  mode : String
  value : Json := .null
  keepOrigin : Bool := false
  fromPath : String := ""
  toPath : String := ""
  conditions : List ConditionOperation := []
  logic : String := "OR"

/-- `isPathBasedOperation` -/
def isPathBasedOperation (mode : String) : Bool :=
  mode ∈ ["delete", "set", "prepend", "append", "trim_prefix", "trim_suffix", "ensure_prefix",
    "ensure_suffix", "trim_space", "to_lower", "to_upper", "replace", "regex_replace",
    "prune_objects"]

/-- The operations that change the context, and `return_error`. -/
def isContextOperation (mode : String) : Bool :=
  mode ∈ ["return_error", "set_header", "delete_header", "copy_header", "move_header",
    "pass_headers", "sync_fields"]

namespace JsonPaths

variable (lib : JsonPaths)

/-- A path-based operation on one of its paths. -/
def pathOperation (op : ParamOperation) (contextJSON : Option Json) (data : Json) (path : String) :
    Except String Json :=
  match op.mode with
  | "delete" => lib.deleteValue data path
  | "set" => lib.setValue op.keepOrigin op.value data path
  | "prepend" => lib.modifyValue data path op.value op.keepOrigin true
  | "append" => lib.modifyValue data path op.value op.keepOrigin false
  | "trim_prefix" => lib.trimStringValue data path op.value true
  | "trim_suffix" => lib.trimStringValue data path op.value false
  | "ensure_prefix" => lib.ensureStringAffix data path op.value true
  | "ensure_suffix" => lib.ensureStringAffix data path op.value false
  | "trim_space" => lib.transformStringValue data path trimSpace
  | "to_lower" => lib.transformStringValue data path lib.toLower
  | "to_upper" => lib.transformStringValue data path lib.toUpper
  | "replace" => lib.replaceStringValue data path op.fromPath op.toPath
  | "regex_replace" => lib.regexReplaceStringValue data path op.fromPath op.toPath
  | _ => lib.pruneObjects data path contextJSON op.value

/-- `operation %s failed` -/
def wrapError {α : Type} (mode : String) (result : Except String α) : Except String α :=
  result.mapError fun e => "operation " ++ mode ++ " failed: " ++ e

/-- An operation whose conditions are met. `contextOperation` is what the operations on the
    context do. -/
def runOperation
    (contextOperation : ParamOperation → Json → Option Json → Except String (Json × Option Json))
    (op : ParamOperation) (result : Json) (contextJSON : Option Json) :
    Except String (Json × Option Json) :=
  if isPathBasedOperation op.mode then
    let opPaths := resolveOperationPaths result (lib.processNegativeIndex result op.path)
    (wrapError op.mode (opPaths.foldlM (lib.pathOperation op contextJSON) result)).map
      (·, contextJSON)
  else if op.mode = "move" then
    let opFrom := lib.processNegativeIndex result op.fromPath
    let opTo := lib.processNegativeIndex result op.toPath
    (wrapError op.mode (lib.moveValue result opFrom opTo)).map (·, contextJSON)
  else if op.mode = "copy" then
    if op.fromPath = "" ∨ op.toPath = "" then .error "copy from/to is required"
    else
      let opFrom := lib.processNegativeIndex result op.fromPath
      let opTo := lib.processNegativeIndex result op.toPath
      (wrapError op.mode (lib.copyValue result opFrom opTo)).map (·, contextJSON)
  else if isContextOperation op.mode then contextOperation op result contextJSON
  else .error ("unknown operation: " ++ op.mode)

/-- `applyOperations` -/
def applyOperations
    (contextOperation : ParamOperation → Json → Option Json → Except String (Json × Option Json))
    (jsonData : Json) (operations : List ParamOperation) (contextJSON : Option Json) :
    Except String Json := do
  let (result, _) ← operations.foldlM (fun (result, contextJSON) op => do
    if ← lib.checkConditions result contextJSON op.conditions op.logic then
      lib.runOperation contextOperation op result contextJSON
    else return (result, contextJSON)) (jsonData, contextJSON)
  return result

end JsonPaths

end TokenRouter.ParamOverride
