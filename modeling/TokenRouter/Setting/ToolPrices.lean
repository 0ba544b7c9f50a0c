import Mathlib.Data.List.Sort
import Mathlib.Data.Rat.Defs
import TokenRouter.Common.Json

/-!
# Tool prices (`setting/operation_setting/tools.go`)

The index of tool prices is built by ranging over a merged Go map and sorting the entries of a tool
by length. The order of the map and the outcome of the sort, which need not be stable, are
parameters.
-/

namespace TokenRouter.ToolPriceSetting

abbrev Prices := GoMap ℚ

def defaultToolPrices : Prices :=
  [("file_search", 5 / 2), ("google_search", 14), ("web_search", 10), ("web_search_preview", 10)]

def defaultToolPriceOverrides : Prices :=
  [("web_search_preview:gpt-4.1*", 25), ("web_search_preview:gpt-4.1-mini*", 25),
    ("web_search_preview:gpt-4o*", 25), ("web_search_preview:gpt-4o-mini*", 25)]

/-- Assign the entries of a map. -/
def assignAll (entries m : Prices) : Prices := entries.foldr (fun e m => m.set e.1 e.2) m

/-- `merged` of `RebuildToolPriceIndex` -/
def merged (prices : Prices) : Prices :=
  assignAll prices (assignAll defaultToolPriceOverrides (assignAll defaultToolPrices []))

structure PrefixEntry where
  entryPrefix : List Char
  price : ℚ
  deriving DecidableEq

structure ToolPriceIndex where
  defaults : Prices
  /-- the entries of a tool, none if the tool is not in the map -/
  prefixes : List Char → List PrefixEntry

/-- The tool name and the model part of a key with a colon. -/
def splitKey (key : String) : Option (List Char × List Char) :=
  match key.toList.dropWhile (· ≠ ':') with
  | [] => none
  | _ :: modelPart => some (key.toList.takeWhile (· ≠ ':'), modelPart)

/-- `strings.TrimSuffix(modelPart, "*")` -/
def trimStar (modelPart : List Char) : List Char :=
  if modelPart.getLast? = some '*' then modelPart.dropLast else modelPart

/-- `len(prefix)` -/
def byteLen (cs : List Char) : Nat := (cs.map Char.utf8Size).sum

/-- The prefix that a key sets for a tool. -/
def overridePrefix (toolName key : String) : Option (List Char) :=
  match splitKey key with
  | some (tool, modelPart) => if tool = toolName.toList then some (trimStar modelPart) else none
  | none => none

/-- The entries of a tool in the order of the map. -/
def toolEntries (order : Prices) (tool : List Char) : List PrefixEntry :=
  order.filterMap fun e =>
    match splitKey e.1 with
    | some (t, modelPart) => if t = tool then some ⟨trimStar modelPart, e.2⟩ else none
    | none => none

/-- `RebuildToolPriceIndex`, which ranges over the merged map as `order` -/
def rebuildToolPriceIndex (sort : List PrefixEntry → List PrefixEntry) (order : Prices) :
    ToolPriceIndex where
  defaults := order.filter fun e => (splitKey e.1).isNone
  prefixes := fun tool => sort (toolEntries order tool)

/-- `GetToolPriceForModel` -/
def getToolPriceForModel (idx : ToolPriceIndex) (toolName modelName : String) : ℚ :=
  let found :=
    if modelName = "" then none
    else (idx.prefixes toolName.toList).find? fun e => e.entryPrefix.isPrefixOf modelName.toList
  match found with
  | some e => e.price
  | none => (idx.defaults.get? toolName).getD 0

/-- `sort.Slice` by the length of the prefix: the longest first, in any order among equals. -/
structure LengthSort (sort : List PrefixEntry → List PrefixEntry) : Prop where
  perm : ∀ entries, (sort entries).Perm entries
  sorted : ∀ entries,
    (sort entries).Pairwise fun a b => byteLen b.entryPrefix ≤ byteLen a.entryPrefix

/-- `GetToolPriceForModel` after `RebuildToolPriceIndex`, for an order of the map and a sort. -/
def toolPrice (sort : List PrefixEntry → List PrefixEntry) (order : Prices)
    (toolName modelName : String) : ℚ :=
  getToolPriceForModel (rebuildToolPriceIndex sort order) toolName modelName

end TokenRouter.ToolPriceSetting
