import TokenRouter.Setting.StatusCodeRanges

/-!
# Status code rules in the web form (`web/default/src/lib/http-status-code-rules.ts`)

What the form shows for the rules that an administrator types in.
-/

namespace TokenRouter.Web

/-- White space of `String.prototype.trim` and of `\s`. -/
def isSpace (c : Char) : Bool :=
  let n := c.toNat
  (9 ≤ n && n ≤ 13) || n == 0x20 || n == 0xA0 || n == 0x1680 || (0x2000 ≤ n && n ≤ 0x200A) ||
    n == 0x2028 || n == 0x2029 || n == 0x202F || n == 0x205F || n == 0x3000 || n == 0xFEFF

/-- `isValidCode` -/
def isValidCode (code : Int) : Bool := 100 ≤ code ∧ code ≤ 599

/-- `isNumber` and `Number.parseInt` -/
def parseNumber (s : List Char) : Option Int := (digitsValue s).map Int.ofNat

/-- `parseToken` -/
def parseToken (token : List Char) : Option StatusCodeRange :=
  let cleaned := (token.trimBy isSpace).filter (!isSpace ·)
  if cleaned = [] then none
  else if '-' ∈ cleaned then
    -- what stands behind a second dash is not looked at
    match cleaned.splitOn '-' with
    | a :: b :: _ =>
      match parseNumber a, parseNumber b with
      | some start, some stop =>
        if !isValidCode start || !isValidCode stop || stop < start then none
        else some ⟨start, stop⟩
      | _, _ => none
    | _ => none
  else
    match parseNumber cleaned with
    | none => none
    | some code => if !isValidCode code then none else some ⟨code, code⟩

/-- The order of `mergeRanges`. -/
def compareLe (a b : StatusCodeRange) : Bool :=
  (if a.start ≠ b.start then a.start - b.start else a.stop - b.stop) ≤ 0

/-- The `reduce` of `mergeRanges`; `last` is the last merged range. -/
def mergeInto (last : StatusCodeRange) : List StatusCodeRange → List StatusCodeRange
  | [] => [last]
  | current :: rest =>
    if last.stop + 1 < current.start then last :: mergeInto current rest
    else mergeInto { last with stop := max last.stop current.stop } rest

/-- `mergeRanges` -/
def mergeRanges (ranges : List StatusCodeRange) : List StatusCodeRange :=
  match ranges.mergeSort compareLe with
  | [] => []
  | r :: rest => mergeInto r rest

/-- The text of a range. -/
def rangeToken (r : StatusCodeRange) : String :=
  if r.start = r.stop then toString r.start else toString r.start ++ "-" ++ toString r.stop

/-- `ParsedHttpStatusCodeRules` -/
structure ParsedHttpStatusCodeRules where
  ok : Bool
  ranges : List StatusCodeRange
  tokens : List String
  normalized : String
  invalidTokens : List String
  deriving DecidableEq

/-- `parseHttpStatusCodeRules` -/
def parseHttpStatusCodeRules (input : String) : ParsedHttpStatusCodeRules :=
  let raw := input.toList.trimBy isSpace
  if raw = [] then ⟨true, [], [], "", []⟩
  else
    let segments := (((raw.map replaceComma).splitOn ',').map (·.trimBy isSpace)).filter (· ≠ [])
    let invalidTokens := segments.filter fun segment => (parseToken segment).isNone
    let ranges := segments.filterMap parseToken
    if invalidTokens ≠ [] then
      ⟨false, [], [], String.ofList raw, invalidTokens.map String.ofList⟩
    else
      let merged := mergeRanges ranges
      let tokens := merged.map rangeToken
      ⟨true, merged, tokens, String.intercalate "," tokens, []⟩

end TokenRouter.Web
