import TokenRouter.Types
import TokenRouter.Common
import TokenRouter.ForStd.Split

/-!
# Status code rules (`setting/operation_setting/status_code_ranges.go`)

The rules by which channels are disabled and requests retried: status codes and ranges of them,
separated by commas.
-/

namespace TokenRouter

/-! ## Numbers -/

/-- The value of ASCII digits. -/
def digitsValue (cs : List Char) : Option Nat :=
  if cs ≠ [] ∧ cs.all Char.isDigit then
    some (cs.foldl (fun n c => 10 * n + (c.toNat - '0'.toNat)) 0)
  else none

/-- `strconv.Atoi` -/
def atoi (cs : List Char) : Option Int :=
  let value : Option Int :=
    match cs with
    | '+' :: digits => (digitsValue digits).map Int.ofNat
    | '-' :: digits => (digitsValue digits).map fun n : Nat => -(n : Int)
    | digits => (digitsValue digits).map Int.ofNat
  value.filter fun n => decide (-2 ^ 63 ≤ n ∧ n < 2 ^ 63)

/-! ## Reading rules -/

/-- `parseHTTPStatusCodeToken` -/
def parseHTTPStatusCodeToken (token : List Char) : Except String StatusCodeRange :=
  let token := (token.trimBy isSpace).filter (· ≠ ' ')
  if token = [] then .error "empty token"
  else if '-' ∈ token then
    match token.splitOn '-' with
    | [first, second] =>
      if first = [] ∨ second = [] then .error ("invalid range token: " ++ String.ofList token)
      else
        match atoi first with
        | none => .error ("invalid range start: " ++ String.ofList token)
        | some start =>
          match atoi second with
          | none => .error ("invalid range end: " ++ String.ofList token)
          | some stop =>
            if stop < start then .error ("range start > end: " ++ String.ofList token)
            else if start < 100 ∨ 599 < stop then
              .error ("range out of bounds: " ++ String.ofList token)
            else .ok ⟨start, stop⟩
    | _ => .error ("invalid range token: " ++ String.ofList token)
  else
    match atoi token with
    | none => .error ("invalid status code: " ++ String.ofList token)
    | some code =>
      if code < 100 ∨ 599 < code then .error ("status code out of bounds: " ++ String.ofList token)
      else .ok ⟨code, code⟩

/-- The order of `sort.Slice`. -/
def StatusCodeRange.le (a b : StatusCodeRange) : Bool :=
  if a.start = b.start then a.stop ≤ b.stop else a.start < b.start

/-- The merge loop; `last` is the last merged range. -/
def mergeInto (last : StatusCodeRange) : List StatusCodeRange → List StatusCodeRange
  | [] => [last]
  | r :: rest =>
    if r.start ≤ last.stop + 1 then
      mergeInto (if last.stop < r.stop then { last with stop := r.stop } else last) rest
    else last :: mergeInto r rest

def mergeRanges : List StatusCodeRange → List StatusCodeRange
  | [] => []
  | r :: rest => mergeInto r rest

/-- A comma, also the full-width one. -/
def replaceComma (c : Char) : Char := if c = '，' then ',' else c

/-- `ParseHTTPStatusCodeRanges` -/
def parseHTTPStatusCodeRanges (input : String) : Except String (List StatusCodeRange) :=
  let input := input.toList.trimBy isSpace
  if input = [] then .ok []
  else
    let segments := (((input.map replaceComma).splitOn ',').map (·.trimBy isSpace)).filter (· ≠ [])
    let invalid := segments.filter fun seg => !(parseHTTPStatusCodeToken seg).isOk
    let ranges := segments.filterMap fun seg => (parseHTTPStatusCodeToken seg).toOption
    if invalid ≠ [] then
      .error ("invalid http status code rules: " ++
        String.intercalate ", " (invalid.map String.ofList))
    else .ok (mergeRanges (ranges.mergeSort StatusCodeRange.le))

/-- `statusCodeRangesToString` -/
def statusCodeRangesToString (ranges : List StatusCodeRange) : String :=
  String.intercalate "," (ranges.map fun r =>
    if r.start = r.stop then toString r.start else toString r.start ++ "-" ++ toString r.stop)

/-- The rules in force: `AutomaticDisableStatusCodeRanges` and `AutomaticRetryStatusCodeRanges`. -/
structure StatusCodeRules where
  disable : List StatusCodeRange := automaticDisableStatusCodeRanges
  retry : List StatusCodeRange := automaticRetryStatusCodeRanges
  deriving DecidableEq

/-- `AutomaticDisableStatusCodesFromString` on the rules in force, with its error. -/
def StatusCodeRules.disableFromString (rules : StatusCodeRules) (s : String) :
    StatusCodeRules × Option String :=
  match parseHTTPStatusCodeRanges s with
  | .error err => (rules, some err)
  | .ok ranges => ({ rules with disable := ranges }, none)

/-- `AutomaticRetryStatusCodesFromString` on the rules in force, with its error. -/
def StatusCodeRules.retryFromString (rules : StatusCodeRules) (s : String) :
    StatusCodeRules × Option String :=
  match parseHTTPStatusCodeRanges s with
  | .error err => (rules, some err)
  | .ok ranges => ({ rules with retry := ranges }, none)

/-- `ShouldDisableByStatusCode` -/
def shouldDisableByStatusCode (setting : ChannelMonitorSetting) (code : Int) : Bool :=
  shouldMatchStatusCodeRanges setting.disableStatusCodeRanges code

/-- `AutomaticDisableStatusCodesFromString` -/
def automaticDisableStatusCodesFromString (setting : ChannelMonitorSetting) (s : String) :
    Except String ChannelMonitorSetting :=
  (parseHTTPStatusCodeRanges s).map fun ranges => { setting with disableStatusCodeRanges := ranges }

end TokenRouter
