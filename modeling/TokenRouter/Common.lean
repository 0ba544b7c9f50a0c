import Mathlib

/-!
# Shared helpers of the Go packages

`strings.TrimSpace`, `strings.Split`, the `%.3f` of `fmt`, Unix timestamps and the two
`time.Format` layouts that the billing tables use. A `Location` is the server's local
time zone, given by the offset in force at each instant.
-/

namespace TokenRouter

/-- `unicode.IsSpace`. -/
def isSpace (c : Char) : Bool :=
  let n := c.toNat
  (9 ≤ n && n ≤ 13) || n == 0x20 || n == 0x85 || n == 0xA0 || n == 0x1680 ||
    (0x2000 ≤ n && n ≤ 0x200A) || n == 0x2028 || n == 0x2029 || n == 0x202F ||
    n == 0x205F || n == 0x3000

/-- Drop white space at both ends of a list of characters. -/
def trimChars (cs : List Char) : List Char :=
  (((cs.dropWhile isSpace).reverse).dropWhile isSpace).reverse

/-- `strings.TrimSpace`. -/
def trimSpace (s : String) : String := String.ofList (trimChars s.toList)

/-- Dropping a prefix of spaces leaves a list that starts with no space. -/
private theorem dropWhile_idem (p : Char → Bool) (cs : List Char) :
    (cs.dropWhile p).dropWhile p = cs.dropWhile p := by
  induction cs with
  | nil => rfl
  | cons c cs ih =>
    by_cases h : p c
    · simp only [List.dropWhile_cons, h, if_true]
      exact ih
    · simp only [List.dropWhile_cons, h, Bool.false_eq_true, if_false]

/-- Trimming the end of a list that does not start with a space keeps its start. -/
private theorem dropWhile_rtrim (p : Char → Bool) (cs : List Char)
    (h : cs.dropWhile p = cs) :
    ((cs.reverse.dropWhile p).reverse).dropWhile p = (cs.reverse.dropWhile p).reverse := by
  cases cs with
  | nil => rfl
  | cons c cs =>
    have hc : p c = false := by
      by_contra hp
      have hlen := congrArg List.length h
      rw [List.dropWhile_cons, if_pos (by simpa using hp)] at hlen
      have := (List.dropWhile_suffix (l := cs) p).length_le
      simp only [List.length_cons] at hlen
      omega
    -- the reversed list ends in `c`, which is never dropped
    have hkeep : ∀ l : List Char, ((l ++ [c]).dropWhile p) = (l.dropWhile p) ++ [c] := by
      intro l
      induction l with
      | nil => simp [hc]
      | cons x xs ih =>
        by_cases hx : p x
        · simp only [List.cons_append, List.dropWhile_cons, hx, if_true]
          exact ih
        · simp only [List.cons_append, List.dropWhile_cons, hx, Bool.false_eq_true, if_false]
    rw [List.reverse_cons, hkeep, List.reverse_append, List.reverse_singleton,
      List.singleton_append, List.dropWhile_cons, if_neg (by simp [hc])]

/-- `strings.TrimSpace` is idempotent. -/
@[simp] theorem trimSpace_trimSpace (s : String) : trimSpace (trimSpace s) = trimSpace s := by
  simp only [trimSpace, String.toList_ofList, trimChars]
  congr 1
  have h₁ := dropWhile_idem isSpace s.toList
  rw [dropWhile_rtrim isSpace _ h₁, List.reverse_reverse, dropWhile_idem]

/-- `strings.Contains`. -/
def containsText (s needle : String) : Bool := decide (needle.toList <:+: s.toList)

/-- `strings.Split` with the separator `","`. -/
def splitComma (s : String) : List String := (s.toList.splitOn ',').map String.ofList

/-- A reading of `common.GetTimestamp()`: seconds since 1970, hence positive. -/
structure Timestamp where
  unix : Int
  pos : 0 < unix

/-- The server's time zone: seconds east of UTC at a Unix time. -/
structure Location where
  offset : Int → Int

/-- Year, month and day of the `n`-th day after 1970-01-01. -/
def civilOfDays (n : Int) : Int × Int × Int :=
  let z := n + 719468
  let era := z / 146097
  let doe := z - era * 146097
  let yoe := (doe - doe / 1460 + doe / 36524 - doe / 146096) / 365
  let doy := doe - (365 * yoe + yoe / 4 - yoe / 100)
  let mp := (5 * doy + 2) / 153
  let month := if mp < 10 then mp + 3 else mp - 9
  let year := yoe + era * 400 + if month ≤ 2 then 1 else 0
  (year, month, doy - (153 * mp + 2) / 5 + 1)

/-- Zero-padded decimal. -/
def pad (width : Nat) (n : Int) : String :=
  String.ofList (List.leftpad width '0' (toString n).toList)

/-- `decimal.IntPart`: the part before the decimal point. -/
def intPart (x : ℚ) : Int := x.num.tdiv x.den

/-- The integer nearest to a rational, the even one of two. -/
def roundHalfEven (q : ℚ) : Int :=
  let n := q.floor
  if q - n < 1 / 2 then n
  else if 1 / 2 < q - n then n + 1
  else if n % 2 = 0 then n else n + 1

/-- `fmt.Sprintf("%.<digits>f", q)` of a finite `float64`, given by its exact value. -/
def formatFixed (digits : Nat) (q : ℚ) : String :=
  let scaled := roundHalfEven (|q| * 10 ^ digits)
  (if q < 0 then "-" else "") ++ toString (scaled / 10 ^ digits) ++ "." ++
    pad digits (scaled % 10 ^ digits)

/-- `time.Unix(ts, 0).Format("2006-01-02")`. -/
def formatDay (loc : Location) (ts : Int) : String :=
  let (y, m, d) := civilOfDays ((ts + loc.offset ts) / 86400)
  pad 4 y ++ "-" ++ pad 2 m ++ "-" ++ pad 2 d

/-- `time.Unix(ts, 0).Format("2006-01")`. -/
def formatMonth (loc : Location) (ts : Int) : String :=
  let (y, m, _) := civilOfDays ((ts + loc.offset ts) / 86400)
  pad 4 y ++ "-" ++ pad 2 m

end TokenRouter
