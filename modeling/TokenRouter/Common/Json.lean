import TokenRouter.Common
import TokenRouter.Setting.StatusCodeRanges

/-!
# Decoding JSON (`encoding/json`)

`json.Unmarshal` checks the whole text before it decodes anything. A value of the wrong type is
skipped: the element that it was meant for stays zero, decoding goes on, and the first such
error is returned at the end.

## Key results

- `GoMap.set_comm`: assignments to different keys commute
- `Json.valueAt_setAt`: a set value is read back
- `Json.valueAt_setAt_apart`, `Json.valueAt_deleteAt_apart`: other paths are left alone
- `Json.mem_removeItems`, `Json.mem_removeFields`: what is left of an array and of an object
- `Json.get?_removeFields`: a field of what is left
-/

namespace TokenRouter

/-- A JSON text; numbers keep their digits. -/
inductive Json where
  | null
  | bool (b : Bool)
  | num (literal : String)
  | str (s : String)
  | arr (items : List Json)
  | obj (fields : List (String × Json))

/-- The errors of `json.Unmarshal`. -/
inductive JsonError where
  | syntaxError
  | unmarshalType
  deriving DecidableEq

/-! ## Maps -/

/-- A Go map with string keys, in the order of its keys. -/
abbrev GoMap (V : Type) := List (String × V)

namespace GoMap

variable {V : Type}

/-- `m[key]` -/
def get? (m : GoMap V) (key : String) : Option V := m.lookup key

/-- `m[key] = value` -/
def set (key : String) (value : V) : GoMap V → GoMap V
  | [] => [(key, value)]
  | (k, v) :: m =>
    if key < k then (key, value) :: (k, v) :: m
    else if key = k then (key, value) :: m
    else (k, v) :: set key value m

end GoMap

/-- Decode an object into a map; `decode` says what is left of a value and its error. -/
def decodeEntries {V : Type} (decode : Json → V × Option JsonError)
    (fields : List (String × Json)) (m : GoMap V) : GoMap V × Option JsonError :=
  fields.foldl (fun (m, err) (key, json) =>
    let (value, e) := decode json
    (m.set key value, err.or e)) (m, none)

/-- Decode into an empty map. -/
def decodeMap {V : Type} (decode : Json → V × Option JsonError) : Json → GoMap V × Option JsonError
  | .null => ([], none)
  | .obj fields => decodeEntries decode fields []
  | _ => ([], some .unmarshalType)

/-- What `encoding/json` makes of a text and of the digits of a number; numbers out of the range
    of a float are none. -/
structure JsonReader where
  parse : String → Option Json
  parseFloat : String → Option ℚ

/-- Decode into a float that is zero. -/
def decodeFloat (reader : JsonReader) : Json → ℚ × Option JsonError
  | .null => (0, none)
  | .num literal =>
    match reader.parseFloat literal with
    | some x => (x, none)
    | none => (0, some .unmarshalType)
  | _ => (0, some .unmarshalType)

/-- `types.LoadFromJsonString`: the map is replaced by an empty one, which the text is decoded
    into. -/
def loadFromJsonString {V : Type} (reader : JsonReader) (decode : Json → V × Option JsonError)
    (jsonStr : String) : GoMap V × Option JsonError :=
  match reader.parse jsonStr with
  | none => ([], some .syntaxError)
  | some json => decodeMap decode json

end TokenRouter

/-! ## Paths into JSON documents

What a path of components selects in a decoded document, and what setting and deleting it leave.
An object is a Go map, so its fields stand in the order of their keys.
-/

namespace TokenRouter

/-! ### Maps -/

namespace GoMap

variable {V : Type} {key key' : String}

/-- `delete(m, key)` -/
def erase (key : String) (m : GoMap V) : GoMap V := m.filter fun e => e.1 ≠ key

/-- The keys of a Go map, each once. -/
def Sorted (m : GoMap V) : Prop := (m.map Prod.fst).Pairwise (· < ·)

@[simp] theorem get?_nil (key : String) : get? ([] : GoMap V) key = none := rfl

theorem get?_cons (k : String) (v : V) (m : GoMap V) (key : String) :
    get? ((k, v) :: m) key = if key = k then some v else get? m key := by
  unfold get?
  rw [List.lookup_cons]
  split
  · rename_i h
    rw [if_pos (beq_iff_eq.mp h)]
  · rename_i h
    rw [if_neg (by simpa using h)]

@[simp] theorem get?_set_self (m : GoMap V) (key : String) (value : V) :
    get? (m.set key value) key = some value := by
  induction m with
  | nil => simp [set, get?_cons]
  | cons e m ih =>
    obtain ⟨k, v⟩ := e
    unfold set
    split
    · simp [get?_cons]
    · split
      · simp [get?_cons]
      · rename_i hne
        rw [get?_cons, if_neg hne, ih]

theorem get?_set_ne (m : GoMap V) (value : V) (hne : key' ≠ key) :
    get? (m.set key value) key' = get? m key' := by
  induction m with
  | nil => simp [set, get?_cons, hne]
  | cons e m ih =>
    obtain ⟨k, v⟩ := e
    unfold set
    split
    · rw [get?_cons, if_neg hne]
    · split
      · rename_i heq
        subst heq
        rw [get?_cons, get?_cons, if_neg hne, if_neg hne]
      · rw [get?_cons, get?_cons, ih]

/-- Assigning twice is assigning the last value. -/
@[simp] theorem set_set (m : GoMap V) (key : String) (value value' : V) :
    (m.set key value).set key value' = m.set key value' := by
  induction m with
  | nil => simp [set]
  | cons e m ih =>
    obtain ⟨k, v⟩ := e
    simp only [set]
    split
    · simp [set]
    · split
      · simp [set]
      · rename_i hlt hne
        simp [set, hlt, hne, ih]

/-- Assignments to different keys commute. -/
theorem set_comm (m : GoMap V) (value value' : V) (hne : key ≠ key') :
    (m.set key value).set key' value' = (m.set key' value').set key value := by
  induction m with
  | nil =>
    simp only [set]
    rcases lt_or_gt_of_ne hne with h | h
    · simp [h, h.not_gt, h.ne']
    · simp [h, h.not_gt, hne]
  | cons e m ih =>
    obtain ⟨k, v⟩ := e
    simp only [set]
    -- where the two keys stand beside the first one
    rcases lt_trichotomy key k with hk | rfl | hk
    · rcases lt_trichotomy key' k with hk' | rfl | hk'
      · rcases lt_or_gt_of_ne hne with h | h
        · simp [set, hk, hk', h, h.not_gt, h.ne']
        · simp [set, hk, hk', h, h.not_gt, hne]
      · simp [set, hk, hk.not_gt, hk.ne']
      · have h := hk.trans hk'
        simp [set, hk, hk'.not_gt, hk'.ne', h.not_gt, h.ne']
    · rcases lt_trichotomy key' key with hk' | rfl | hk'
      · simp [set, hk', hk'.not_gt, hk'.ne']
      · exact absurd rfl hne
      · simp [set, hk'.not_gt, hk'.ne']
    · rcases lt_trichotomy key' k with hk' | rfl | hk'
      · have h := hk'.trans hk
        simp [set, hk', hk.not_gt, hk.ne', h.not_gt, h.ne']
      · simp [set, hk.not_gt, hk.ne']
      · simp [set, hk.not_gt, hk.ne', hk'.not_gt, hk'.ne', ih]

@[simp] theorem get?_erase_self (m : GoMap V) (key : String) : get? (m.erase key) key = none := by
  induction m with
  | nil => rfl
  | cons e m ih =>
    obtain ⟨k, v⟩ := e
    unfold erase at ih ⊢
    by_cases h : k = key
    · rw [List.filter_cons_of_neg (by simpa using h), ih]
    · rw [List.filter_cons_of_pos (by simpa using h), get?_cons, if_neg (Ne.symm h), ih]

theorem get?_erase_ne (m : GoMap V) (hne : key' ≠ key) : get? (m.erase key) key' = get? m key' := by
  induction m with
  | nil => rfl
  | cons e m ih =>
    obtain ⟨k, v⟩ := e
    unfold erase at ih ⊢
    by_cases h : k = key
    · rw [List.filter_cons_of_neg (by simpa using h), ih, get?_cons, if_neg (h ▸ hne)]
    · rw [List.filter_cons_of_pos (by simpa using h), get?_cons, get?_cons, ih]

theorem get?_eq_none_iff (m : GoMap V) (key : String) :
    get? m key = none ↔ key ∉ m.map Prod.fst := by
  induction m with
  | nil => simp
  | cons e m ih =>
    obtain ⟨k, v⟩ := e
    rw [get?_cons, List.map_cons, List.mem_cons, not_or, ← ih]
    split
    · rename_i h
      simp [h]
    · rename_i h
      simp [h]

theorem erase_of_get?_none {m : GoMap V} (h : get? m key = none) : m.erase key = m := by
  rw [get?_eq_none_iff] at h
  unfold erase
  rw [List.filter_eq_self]
  intro e he
  have hne : e.1 ≠ key := fun heq => h (heq ▸ List.mem_map_of_mem he)
  simpa using hne

/-! The entry of a key in a sorted map, between the keys before and behind it. -/

section Split

variable {before behind : List (String × V)} {value : V}

theorem Sorted.before_lt (h : Sorted (before ++ (key, value) :: behind)) :
    ∀ e ∈ before, e.1 < key := by
  intro e he
  unfold Sorted at h
  rw [List.map_append, List.pairwise_append] at h
  exact h.2.2 e.1 (List.mem_map_of_mem he) key (by simp)

theorem Sorted.lt_behind (h : Sorted (before ++ (key, value) :: behind)) :
    ∀ e ∈ behind, key < e.1 := by
  intro e he
  unfold Sorted at h
  rw [List.map_append, List.pairwise_append, List.map_cons, List.pairwise_cons] at h
  exact h.2.1.1 e.1 (List.mem_map_of_mem he)

theorem get?_split (h : Sorted (before ++ (key, value) :: behind)) :
    get? (before ++ (key, value) :: behind) key = some value := by
  have hlt := h.before_lt
  induction before with
  | nil => simp [get?_cons]
  | cons e before ih =>
    rw [List.cons_append, get?_cons, if_neg (hlt e List.mem_cons_self).ne']
    exact ih (List.pairwise_cons.mp h).2 fun e' he' => hlt e' (List.mem_cons_of_mem e he')

theorem set_split (h : Sorted (before ++ (key, value) :: behind)) (value' : V) :
    set key value' (before ++ (key, value) :: behind) = before ++ (key, value') :: behind := by
  have hlt := h.before_lt
  induction before with
  | nil => simp [set]
  | cons e before ih =>
    have hkey := hlt e List.mem_cons_self
    rw [List.cons_append, List.cons_append, set, if_neg hkey.not_gt, if_neg hkey.ne',
      ih (List.pairwise_cons.mp h).2 fun e' he' => hlt e' (List.mem_cons_of_mem e he')]

theorem erase_split (h : Sorted (before ++ (key, value) :: behind)) :
    erase key (before ++ (key, value) :: behind) = before ++ behind := by
  have hbefore : before.filter (fun e => decide (e.1 ≠ key)) = before :=
    List.filter_eq_self.mpr fun e he => decide_eq_true (h.before_lt e he).ne
  have hbehind : behind.filter (fun e => decide (e.1 ≠ key)) = behind :=
    List.filter_eq_self.mpr fun e he => decide_eq_true (h.lt_behind e he).ne'
  unfold erase
  rw [List.filter_append, List.filter_cons_of_neg (by simp), hbefore, hbehind]

end Split

theorem mem_of_get? {m : GoMap V} {value : V} (h : get? m key = some value) : (key, value) ∈ m := by
  induction m with
  | nil => cases h
  | cons e m ih =>
    obtain ⟨k, v⟩ := e
    rw [get?_cons] at h
    split at h
    · rename_i heq
      cases h
      exact heq ▸ List.mem_cons_self
    · exact List.mem_cons_of_mem _ (ih h)

/-- Assigning what is there changes nothing. -/
theorem set_get? {m : GoMap V} {value : V} (hsorted : m.Sorted) (h : get? m key = some value) :
    m.set key value = m := by
  obtain ⟨before, behind, rfl⟩ := List.append_of_mem (mem_of_get? h)
  exact set_split hsorted value

end GoMap

/-! ### Documents -/

namespace Json

/-- Induction on a document: what is shown for the items of an array and for the values of an
    object holds of the array and of the object. -/
@[elab_as_elim]
theorem induction {motive : Json → Prop} (null : motive .null) (bool : ∀ b, motive (.bool b))
    (num : ∀ literal, motive (.num literal)) (str : ∀ s, motive (.str s))
    (arr : ∀ items, (∀ item ∈ items, motive item) → motive (.arr items))
    (obj : ∀ fields : List (String × Json), (∀ e ∈ fields, motive e.2) → motive (.obj fields)) :
    ∀ doc, motive doc
  | .null => null
  | .bool b => bool b
  | .num literal => num literal
  | .str s => str s
  | .arr items => arr items fun item _ => induction null bool num str arr obj item
  | .obj fields => obj fields fun e _ => induction null bool num str arr obj e.2
termination_by doc => sizeOf doc
decreasing_by
  · have := List.sizeOf_lt_of_mem ‹item ∈ items›
    simp only [Json.arr.sizeOf_spec]
    omega
  · have hmem := List.sizeOf_lt_of_mem ‹e ∈ fields›
    have hpair : sizeOf e.2 < sizeOf e := by
      obtain ⟨key, value⟩ := e
      simp only [Prod.mk.sizeOf_spec]
      omega
    simp only [Json.obj.sizeOf_spec]
    omega

/-- The index that a path component names in an array. -/
def index? (key : String) : Option Nat := digitsValue key.toList

/-- The value that a path component selects. -/
def child (key : String) : Json → Option Json
  | .obj fields => GoMap.get? fields key
  | .arr items => (index? key).bind fun i => items[i]?
  | _ => none

/-- The value that a path selects. -/
def valueAt : List String → Json → Option Json
  | [], doc => some doc
  | key :: keys, doc => (doc.child key).bind (valueAt keys)

/-- Set the value of a path. What is missing on the way, or is neither an object nor an array,
    becomes an object. -/
def setAt (value : Json) : List String → Json → Except String Json
  | [], _ => .ok value
  | key :: keys, .obj fields =>
    (setAt value keys ((GoMap.get? fields key).getD .null)).map fun next =>
      .obj (GoMap.set key next fields)
  | key :: keys, .arr items =>
    match (index? key).bind fun i => items[i]?.map fun item => (i, item) with
    | some (i, item) => (setAt value keys item).map fun next => .arr (items.set i next)
    | none => .error ("cannot set array element for non-numeric key '" ++ key ++ "'")
  | key :: keys, _ => (setAt value keys .null).map fun next => .obj [(key, next)]

/-- Delete what a path selects. -/
def deleteAt : List String → Json → Json
  | [], doc => doc
  | [key], .obj fields => .obj (GoMap.erase key fields)
  | [key], .arr items =>
    match index? key with
    | some i => .arr (items.eraseIdx i)
    | none => .arr items
  | key :: keys, .obj fields =>
    match GoMap.get? fields key with
    | some next => .obj (GoMap.set key (deleteAt keys next) fields)
    | none => .obj fields
  | key :: keys, .arr items =>
    match (index? key).bind fun i => items[i]?.map fun item => (i, item) with
    | some (i, item) => .arr (items.set i (deleteAt keys item))
    | none => .arr items
  | _, doc => doc

@[simp] theorem valueAt_nil (doc : Json) : doc.valueAt [] = some doc := rfl

theorem valueAt_cons (key : String) (keys : List String) (doc : Json) :
    doc.valueAt (key :: keys) = (doc.child key).bind (valueAt keys) := rfl

theorem valueAt_append (path rest : List String) (doc : Json) :
    doc.valueAt (path ++ rest) = (doc.valueAt path).bind (valueAt rest) := by
  induction path generalizing doc with
  | nil => rfl
  | cons key path ih =>
    rw [List.cons_append, valueAt_cons, valueAt_cons]
    cases doc.child key with
    | none => rfl
    | some next => exact ih next

/-! ### Reading after writing -/

section Keys

variable {value doc doc' : Json} {path other : List String}

@[simp] theorem child_obj (key : String) (fields : GoMap Json) :
    child key (.obj fields) = GoMap.get? fields key := rfl

/-- What setting a path does at its first component. -/
theorem setAt_cons {key : String} (hkey : index? key = none)
    (h : setAt value (key :: path) doc = .ok doc') :
    ∃ next, setAt value path ((doc.child key).getD .null) = .ok next ∧
      doc'.child key = some next ∧ ∀ other, other ≠ key → doc'.child other = doc.child other := by
  have hnew : ∀ fields : GoMap Json, (∀ k, doc.child k = GoMap.get? fields k) →
      setAt value (key :: path) doc =
        (setAt value path ((GoMap.get? fields key).getD .null)).map
          (fun next => .obj (GoMap.set key next fields)) →
      ∃ next, setAt value path ((doc.child key).getD .null) = .ok next ∧
        doc'.child key = some next ∧
        ∀ other, other ≠ key → doc'.child other = doc.child other := by
    intro fields hfields hset
    rw [hset] at h
    cases hnext : setAt value path ((GoMap.get? fields key).getD .null) with
    | error e =>
      rw [hnext] at h
      cases h
    | ok next =>
      rw [hnext] at h
      cases h
      refine ⟨next, by rw [hfields, hnext], GoMap.get?_set_self fields key next, ?_⟩
      intro other hne
      rw [hfields, child_obj, GoMap.get?_set_ne _ _ hne]
  cases doc with
  | obj fields => exact hnew fields (fun _ => rfl) rfl
  | arr items => simp [setAt, hkey] at h
  | null => exact hnew [] (fun _ => rfl) rfl
  | bool b => exact hnew [] (fun _ => rfl) rfl
  | num literal => exact hnew [] (fun _ => rfl) rfl
  | str text => exact hnew [] (fun _ => rfl) rfl

/-- A set value is read back. -/
theorem valueAt_setAt (hpath : ∀ key ∈ path, index? key = none)
    (h : setAt value path doc = .ok doc') : doc'.valueAt path = some value := by
  induction path generalizing doc doc' with
  | nil =>
    cases h
    rfl
  | cons key path ih =>
    obtain ⟨next, hnext, hchild, -⟩ := setAt_cons (hpath key List.mem_cons_self) h
    rw [valueAt_cons, hchild]
    exact ih (fun k hk => hpath k (List.mem_cons_of_mem key hk)) hnext

/-- Neither of two paths leads through the end of the other. -/
def Apart (path other : List String) : Prop := ¬ path <+: other ∧ ¬ other <+: path

theorem Apart.cons_iff {key key' : String} :
    Apart (key :: path) (key' :: other) ↔ (key = key' → Apart path other) := by
  unfold Apart
  simp only [List.cons_prefix_cons]
  constructor
  · rintro ⟨h, h'⟩ rfl
    exact ⟨fun hp => h ⟨rfl, hp⟩, fun hp => h' ⟨rfl, hp⟩⟩
  · intro h
    refine ⟨fun ⟨hkey, hp⟩ => (h hkey).1 hp, fun ⟨hkey, hp⟩ => (h hkey.symm).2 hp⟩

theorem valueAt_null {path : List String} (hne : path ≠ []) : Json.null.valueAt path = none := by
  cases path with
  | nil => exact absurd rfl hne
  | cons key path => rfl

/-- Setting a path leaves the others alone. -/
theorem valueAt_setAt_apart (hpath : ∀ key ∈ path, index? key = none)
    (h : setAt value path doc = .ok doc') (hapart : Apart path other) :
    doc'.valueAt other = doc.valueAt other := by
  induction path generalizing doc doc' other with
  | nil => exact absurd List.nil_prefix hapart.1
  | cons key path ih =>
    obtain ⟨next, hnext, hchild, hothers⟩ := setAt_cons (hpath key List.mem_cons_self) h
    cases other with
    | nil => exact absurd List.nil_prefix hapart.2
    | cons key' other =>
      rw [valueAt_cons, valueAt_cons]
      by_cases hkey : key = key'
      · subst hkey
        have hrest := Apart.cons_iff.mp hapart rfl
        have hread := ih (fun k hk => hpath k (List.mem_cons_of_mem key hk)) hnext hrest
        rw [hchild, Option.bind_some, hread]
        cases doc.child key with
        | none => exact valueAt_null (fun hnil => hrest.2 (hnil ▸ List.nil_prefix))
        | some _ => rfl
      · rw [hothers key' (Ne.symm hkey)]

/-- What deleting a path of keys does at its first component. -/
theorem child_deleteAt {key : String} (hkey : index? key = none) (path : List String)
    (doc : Json) :
    (doc.deleteAt (key :: path)).child key =
        (if path = [] then none else (doc.child key).map (deleteAt path)) ∧
      ∀ other, other ≠ key → (doc.deleteAt (key :: path)).child other = doc.child other := by
  cases path with
  | nil =>
    cases doc with
    | obj fields =>
      exact ⟨GoMap.get?_erase_self fields key, fun other hne => GoMap.get?_erase_ne fields hne⟩
    | arr items => simp [deleteAt, hkey, child]
    | _ => simp [deleteAt, child]
  | cons key' path =>
    rw [if_neg (List.cons_ne_nil key' path)]
    cases doc with
    | obj fields =>
      rw [deleteAt, child_obj]
      · cases hget : GoMap.get? fields key with
        | none => exact ⟨hget, fun _ _ => rfl⟩
        | some next =>
          exact ⟨GoMap.get?_set_self _ _ _, fun other hne => GoMap.get?_set_ne _ _ hne⟩
      · exact List.cons_ne_nil key' path
    | arr items => simp [deleteAt, hkey, child]
    | _ => simp [deleteAt, child]

/-- What is deleted is gone. -/
theorem valueAt_deleteAt (hpath : ∀ key ∈ path, index? key = none) (hne : path ≠ []) (doc : Json) :
    (doc.deleteAt path).valueAt path = none := by
  induction path generalizing doc with
  | nil => exact absurd rfl hne
  | cons key path ih =>
    rw [valueAt_cons, (child_deleteAt (hpath key List.mem_cons_self) path doc).1]
    split
    · rfl
    · rename_i hrest
      cases doc.child key with
      | none => rfl
      | some next => exact ih (fun k hk => hpath k (List.mem_cons_of_mem key hk)) hrest next

/-- Deleting a path leaves the others alone. -/
theorem valueAt_deleteAt_apart (hpath : ∀ key ∈ path, index? key = none)
    (hapart : Apart path other) (doc : Json) :
    (doc.deleteAt path).valueAt other = doc.valueAt other := by
  induction path generalizing doc other with
  | nil => exact absurd List.nil_prefix hapart.1
  | cons key path ih =>
    obtain ⟨hself, hothers⟩ := child_deleteAt (hpath key List.mem_cons_self) path doc
    cases other with
    | nil => exact absurd List.nil_prefix hapart.2
    | cons key' other =>
      rw [valueAt_cons, valueAt_cons]
      by_cases hkey : key = key'
      · subst hkey
        have hrest := Apart.cons_iff.mp hapart rfl
        have hne : path ≠ [] := by
          rintro rfl
          exact hrest.1 List.nil_prefix
        rw [hself, if_neg hne]
        cases doc.child key with
        | none => rfl
        | some next =>
          exact ih (fun k hk => hpath k (List.mem_cons_of_mem key hk)) hrest next
      · rw [hothers key' (Ne.symm hkey)]

end Keys

/-! ### Replacing a value -/

section Replace

variable {value doc parent : Json} {path : List String}

/-- An existing item of an array and its index. -/
def item? (key : String) (items : List Json) : Option (Nat × Json) :=
  (index? key).bind fun i => items[i]?.map fun item => (i, item)

/-- Give a component of an object, or of an array that has it, another value. -/
def setChild (key : String) (value : Json) : Json → Option Json
  | .obj fields => some (.obj (GoMap.set key value fields))
  | .arr items => (item? key items).map fun e => .arr (items.set e.1 value)
  | _ => none

/-- The document with another value at a path that leads somewhere. -/
def replaceAt (value : Json) : List String → Json → Json
  | [], _ => value
  | key :: path, doc =>
    match doc.child key with
    | some next => (setChild key (replaceAt value path next) doc).getD doc
    | none => doc

@[simp] theorem replaceAt_nil (value doc : Json) : replaceAt value [] doc = value := rfl

theorem item?_eq_some {key : String} {items : List Json} {i : Nat} {item : Json} :
    item? key items = some (i, item) ↔ index? key = some i ∧ items[i]? = some item := by
  simp [item?, Option.bind_eq_some_iff]

/-- A component that exists can be given another value, and reads as that. -/
theorem setChild_of_child {key : String} {next : Json} (h : doc.child key = some next)
    (value : Json) : ∃ doc', setChild key value doc = some doc' ∧ doc'.child key = some value ∧
      ∀ value', setChild key value' doc' = setChild key value' doc := by
  cases doc with
  | obj fields =>
    refine ⟨_, rfl, GoMap.get?_set_self fields key value, fun value' => ?_⟩
    simp only [setChild, GoMap.set_set]
  | arr items =>
    rw [child, Option.bind_eq_some_iff] at h
    obtain ⟨i, hi, hitem⟩ := h
    have hlt : i < items.length := (List.getElem?_eq_some_iff.mp hitem).1
    have hfound : item? key items = some (i, next) := item?_eq_some.mpr ⟨hi, hitem⟩
    have hset : (items.set i value)[i]? = some value := by
      rw [List.getElem?_set_self hlt]
    refine ⟨.arr (items.set i value), by simp [setChild, hfound], ?_, fun value' => ?_⟩
    · simp only [child, hi, Option.bind_some, hset]
    · have hfound' : item? key (items.set i value) = some (i, value) :=
        item?_eq_some.mpr ⟨hi, hset⟩
      simp only [setChild, hfound, hfound', Option.map_some, List.set_set]
  | null => cases h
  | bool b => cases h
  | num literal => cases h
  | str s => cases h

theorem replaceAt_cons {key : String} {next : Json} (h : doc.child key = some next)
    (value : Json) (path : List String) :
    setChild key (replaceAt value path next) doc = some (replaceAt value (key :: path) doc) := by
  obtain ⟨doc', hset, -⟩ := setChild_of_child h (replaceAt value path next)
  rw [replaceAt, h]
  dsimp only
  rw [hset, Option.getD_some]

/-- The replaced value is read back. -/
theorem valueAt_replaceAt {old : Json} (h : doc.valueAt path = some old) (value : Json) :
    (replaceAt value path doc).valueAt path = some value := by
  induction path generalizing doc with
  | nil => rfl
  | cons key path ih =>
    rw [valueAt_cons, Option.bind_eq_some_iff] at h
    obtain ⟨next, hnext, hrest⟩ := h
    obtain ⟨doc', hset, hchild, -⟩ := setChild_of_child hnext (replaceAt value path next)
    rw [replaceAt_cons hnext, Option.some.injEq] at hset
    rw [valueAt_cons, hset, hchild]
    exact ih hrest

/-- The last replacement counts. -/
theorem replaceAt_replaceAt {old : Json} (h : doc.valueAt path = some old) (value value' : Json) :
    replaceAt value' path (replaceAt value path doc) = replaceAt value' path doc := by
  induction path generalizing doc with
  | nil => rfl
  | cons key path ih =>
    rw [valueAt_cons, Option.bind_eq_some_iff] at h
    obtain ⟨next, hnext, hrest⟩ := h
    obtain ⟨doc', hset, hchild, hagain⟩ := setChild_of_child hnext (replaceAt value path next)
    rw [replaceAt_cons hnext, Option.some.injEq] at hset
    apply Option.some.inj
    rw [hset, ← replaceAt_cons hchild, ih hrest, hagain, replaceAt_cons hnext]

/-- Replacing inside a value is replacing that value. -/
theorem replaceAt_append {old : Json} {pre : List String} (h : doc.valueAt pre = some old)
    (value : Json) (path : List String) :
    replaceAt value (pre ++ path) doc = replaceAt (replaceAt value path old) pre doc := by
  induction pre generalizing doc with
  | nil =>
    cases h
    rfl
  | cons key pre ih =>
    rw [valueAt_cons, Option.bind_eq_some_iff] at h
    obtain ⟨next, hnext, hrest⟩ := h
    apply Option.some.inj
    rw [List.cons_append, ← replaceAt_cons hnext, ← replaceAt_cons hnext, ih hrest]

/-- Setting inside a value that exists replaces that value. -/
theorem setAt_append {old : Json} {pre : List String} (h : doc.valueAt pre = some old)
    (value : Json) (path : List String) :
    setAt value (pre ++ path) doc =
      (setAt value path old).map fun next => replaceAt next pre doc := by
  induction pre generalizing doc with
  | nil =>
    cases h
    rw [List.nil_append]
    cases setAt value path old <;> rfl
  | cons key pre ih =>
    rw [valueAt_cons, Option.bind_eq_some_iff] at h
    obtain ⟨next, hnext, hrest⟩ := h
    have hstep : setAt value (key :: (pre ++ path)) doc =
        (setAt value (pre ++ path) next).bind fun next' =>
          ((setChild key next' doc).map Except.ok).getD (.error "") := by
      cases doc with
      | obj fields =>
        change GoMap.get? fields key = some next at hnext
        rw [setAt, hnext, Option.getD_some]
        cases setAt value (pre ++ path) next <;> rfl
      | arr items =>
        rw [child, Option.bind_eq_some_iff] at hnext
        obtain ⟨i, hi, hitem⟩ := hnext
        have hfound : ((index? key).bind fun i => items[i]?.map fun item => (i, item)) =
            some (i, next) := item?_eq_some.mpr ⟨hi, hitem⟩
        rw [setAt, hfound]
        dsimp only
        cases setAt value (pre ++ path) next with
        | error e => rfl
        | ok next' => simp [Except.map, Except.bind, setChild, item?_eq_some.mpr ⟨hi, hitem⟩]
      | null => cases hnext
      | bool b => cases hnext
      | num literal => cases hnext
      | str s => cases hnext
    rw [List.cons_append, hstep, ih hrest]
    cases setAt value path old with
    | error e => rfl
    | ok next' =>
      simp only [Except.map, Except.bind]
      rw [replaceAt_cons hnext]
      rfl

/-- Deleting inside a value that exists replaces that value. -/
theorem deleteAt_append {old : Json} {pre : List String} (h : doc.valueAt pre = some old)
    (hne : path ≠ []) :
    doc.deleteAt (pre ++ path) = replaceAt (old.deleteAt path) pre doc := by
  induction pre generalizing doc with
  | nil =>
    cases h
    rfl
  | cons key pre ih =>
    rw [valueAt_cons, Option.bind_eq_some_iff] at h
    obtain ⟨next, hnext, hrest⟩ := h
    have hne' : pre ++ path ≠ [] := by simp [hne]
    apply Option.some.inj
    rw [← replaceAt_cons hnext, ← ih hrest, List.cons_append]
    cases doc with
    | obj fields =>
      change GoMap.get? fields key = some next at hnext
      rw [deleteAt, hnext]
      · rfl
      · exact hne'
    | arr items =>
      rw [child, Option.bind_eq_some_iff] at hnext
      obtain ⟨i, hi, hitem⟩ := hnext
      have hfound : ((index? key).bind fun i => items[i]?.map fun item => (i, item)) =
          some (i, next) := item?_eq_some.mpr ⟨hi, hitem⟩
      rw [deleteAt, hfound]
      · simp [setChild, item?_eq_some.mpr ⟨hi, hitem⟩]
      · exact hne'
    | null => cases hnext
    | bool b => cases hnext
    | num literal => cases hnext
    | str s => cases hnext

end Replace

/-- The text of a number reads as that index. -/
theorem index?_toString (i : Nat) : index? (toString i) = some i := by
  have hdigits : ∀ c ∈ Nat.toDigits 10 i, c.isDigit = true := fun c hc =>
    Nat.isDigit_of_mem_toDigits (by decide) (by decide) hc
  unfold index? digitsValue
  rw [Nat.toString_eq_repr, Nat.toList_repr,
    if_pos ⟨Nat.toDigits_ne_nil, List.all_eq_true.mpr hdigits⟩]
  exact congrArg some (by
    rw [← Nat.ofDigitChars_eq_foldl]
    exact Nat.ofDigitChars_ten_toDigits)

end Json

end TokenRouter

/-! ### The objects of a JSON document

A property of every object of a document, and the document without some of its objects. Neither
looks into an object that is left out.
-/

namespace TokenRouter

namespace Json

mutual

/-- `P` holds of every object of a document that does not lie in an object where `stop` holds. -/
def EveryObject (stop : GoMap Json → Bool) (P : GoMap Json → Prop) : Json → Prop
  | .arr items => EveryItem stop P items
  | .obj fields => P fields ∧ (stop fields = false → EveryField stop P fields)
  | _ => True

def EveryItem (stop : GoMap Json → Bool) (P : GoMap Json → Prop) : List Json → Prop
  | [] => True
  | item :: items => EveryObject stop P item ∧ EveryItem stop P items

def EveryField (stop : GoMap Json → Bool) (P : GoMap Json → Prop) : List (String × Json) → Prop
  | [] => True
  | (_, value) :: fields => EveryObject stop P value ∧ EveryField stop P fields

end

/-- `P` holds of the objects strictly below. -/
def EveryBelow (stop : GoMap Json → Bool) (P : GoMap Json → Prop) : Json → Prop
  | .arr items => EveryItem stop P items
  | .obj fields => EveryField stop P fields
  | _ => True

variable {stop drop : GoMap Json → Bool} {P : GoMap Json → Prop}

theorem everyItem_iff {items : List Json} :
    EveryItem stop P items ↔ ∀ item ∈ items, EveryObject stop P item := by
  induction items with
  | nil => simp [EveryItem]
  | cons item items ih => simp [EveryItem, ih]

theorem everyField_iff {fields : List (String × Json)} :
    EveryField stop P fields ↔ ∀ e ∈ fields, EveryObject stop P e.2 := by
  induction fields with
  | nil => simp [EveryField]
  | cons e fields ih => simp [EveryField, ih]

theorem everyObject_arr {items : List Json} :
    EveryObject stop P (.arr items) ↔ ∀ item ∈ items, EveryObject stop P item := by
  rw [EveryObject, everyItem_iff]

theorem everyObject_obj {fields : List (String × Json)} :
    EveryObject stop P (.obj fields) ↔
      P fields ∧ (stop fields = false → ∀ e ∈ fields, EveryObject stop P e.2) := by
  rw [EveryObject, everyField_iff]

/-- Whether a value is an object where `drop` holds. -/
def dropped (drop : GoMap Json → Bool) : Json → Bool
  | .obj fields => drop fields
  | _ => false

mutual

/-- The document without the objects strictly below it where `drop` holds. -/
def removeObjects (drop : GoMap Json → Bool) : Json → Json
  | .arr items => .arr (removeItems drop items)
  | .obj fields => .obj (removeFields drop fields)
  | value => value

def removeItems (drop : GoMap Json → Bool) : List Json → List Json
  | [] => []
  | item :: items =>
    (if dropped drop item then [] else [removeObjects drop item]) ++ removeItems drop items

def removeFields (drop : GoMap Json → Bool) : List (String × Json) → List (String × Json)
  | [] => []
  | (key, value) :: fields =>
    (if dropped drop value then [] else [(key, removeObjects drop value)]) ++
      removeFields drop fields

end

theorem mem_removeItems {items : List Json} {kept : Json} :
    kept ∈ removeItems drop items ↔
      ∃ item ∈ items, dropped drop item = false ∧ kept = removeObjects drop item := by
  induction items with
  | nil => simp [removeItems]
  | cons item items ih =>
    rw [removeItems, List.mem_append, ih]
    cases hdrop : dropped drop item <;> simp [hdrop]

theorem mem_removeFields {fields : List (String × Json)} {kept : String × Json} :
    kept ∈ removeFields drop fields ↔
      ∃ e ∈ fields, dropped drop e.2 = false ∧ kept = (e.1, removeObjects drop e.2) := by
  induction fields with
  | nil => simp [removeFields]
  | cons e fields ih =>
    rw [removeFields, List.mem_append, ih]
    cases hdrop : dropped drop e.2 <;> simp [hdrop]

/-- A field after removing objects, where the keys are distinct. -/
theorem get?_removeFields {fields : GoMap Json} (hnodup : (fields.map Prod.fst).Nodup)
    (key : String) :
    GoMap.get? (removeFields drop fields) key =
      (GoMap.get? fields key).bind fun value =>
        if dropped drop value then none else some (removeObjects drop value) := by
  induction fields with
  | nil => rfl
  | cons e fields ih =>
    obtain ⟨k, value⟩ := e
    rw [List.map_cons, List.nodup_cons] at hnodup
    rw [removeFields, GoMap.get?_cons]
    by_cases hkey : key = k
    · subst hkey
      rw [if_pos rfl, Option.bind_some]
      cases hdrop : dropped drop value with
      | true =>
        -- no other field has the key
        have hnone : GoMap.get? fields key = none :=
          (GoMap.get?_eq_none_iff fields key).mpr hnodup.1
        rw [if_pos rfl, if_pos rfl, List.nil_append, ih hnodup.2, hnone, Option.bind_none]
      | false => simp [GoMap.get?_cons]
    · rw [if_neg hkey, ← ih hnodup.2]
      cases hdrop : dropped drop value <;> simp [GoMap.get?_cons, hkey]

end Json

end TokenRouter
