import TokenRouter.Relay.ParamOverride

/-!
# The paths of `gjson` and `sjson`

What is relied on of the two libraries, and one reading of the path syntax of which all of it
holds: components between dots, a backslash before a character that is meant literally, and a
leading `:` before a key that is not an index.

## Key results

- `components_escape`: the escaped text of a key is one component
- `components_joinPath`: components without special characters are read back from their path
- `dotted_sjsonKeys`: the reading agrees with the documentation of a single key
- `dotted_keyPaths`, `dotted_dottedPaths`: it obeys the laws of reading and writing
-/

namespace TokenRouter.ParamOverride

/-- What starts a query or a modifier in a path. -/
def isQueryChar (c : Char) : Bool := c = '#' || c = '@' || c = '|'

/-- A key that `sjson` takes literally once `.`, `*`, `?` and the backslash are escaped. -/
def literalKey (key : String) : Prop :=
  (∀ c ∈ key.toList, isQueryChar c = false) ∧ key.toList.head? ≠ some ':'

instance (key : String) : Decidable (literalKey key) := inferInstanceAs (Decidable (_ ∧ _))

/-- What is documented of setting an escaped key of an object: a literal key is assigned, a
    leading `:` is not part of the key, and a query or modifier creates no key. -/
structure SjsonKeys (lib : JsonPaths) : Prop where
  literal : ∀ fields key value, key ≠ "" → literalKey key →
    lib.set (.obj fields) (escapeSjsonLiteralKey key) value = .ok (.obj (GoMap.set key value fields))
  forced : ∀ fields key value, (∀ c ∈ key.toList, isQueryChar c = false) →
    lib.set (.obj fields) (escapeSjsonLiteralKey (":" ++ key)) value =
      .ok (.obj (GoMap.set key value fields))
  query : ∀ fields key value doc, (∃ c ∈ key.toList, isQueryChar c = true) →
    lib.set (.obj fields) (escapeSjsonLiteralKey key) value = .ok doc →
      ∃ fields', doc = .obj fields' ∧
        ∀ k, GoMap.get? fields k = none → GoMap.get? fields' k = none

/-- What the paths of object keys rely on: a value that is set is read back, a value that is
    deleted is gone, and the paths apart from it are left alone. `keysOf` says which keys a path
    names. -/
structure KeyPaths (lib : JsonPaths) (keysOf : String → Option (List String)) : Prop where
  get_append : ∀ {doc path other keys rest}, keysOf path = some keys →
    keysOf other = some (keys ++ rest) →
    lib.get doc other = (lib.get doc path).bind (Json.valueAt rest)
  get_set : ∀ {doc doc' path keys value}, keysOf path = some keys →
    lib.set doc path value = .ok doc' → lib.get doc' path = some value
  get_set_apart : ∀ {doc doc' path keys other keys' value}, keysOf path = some keys →
    keysOf other = some keys' → Json.Apart keys keys' → lib.set doc path value = .ok doc' →
    lib.get doc' other = lib.get doc other
  get_delete : ∀ {doc doc' path keys}, keysOf path = some keys →
    lib.delete doc path = .ok doc' → lib.get doc' path = none
  get_delete_apart : ∀ {doc doc' path keys other keys'}, keysOf path = some keys →
    keysOf other = some keys' → Json.Apart keys keys' → lib.delete doc path = .ok doc' →
    lib.get doc' other = lib.get doc other
  delete_missing : ∀ {doc path keys}, keysOf path = some keys → lib.get doc path = none →
    lib.delete doc path = .ok doc

/-- A component that is read as itself. -/
def plainComponent (s : String) : Prop :=
  (∀ c ∈ s.toList, c ∉ ['.', '*', '?', '\\', '#', '@', '|']) ∧ trimSpace s ≠ "" ∧
    s.toList.head? ∉ [some ':', some '!', some '[', some '\x7b']

instance (s : String) : Decidable (plainComponent s) := inferInstanceAs (Decidable (_ ∧ _))

/-- What is relied on of paths of plain components: they lead through objects and arrays, and a
    component that exists, or a field of an object, can be written and deleted. -/
structure DottedPaths (lib : JsonPaths) : Prop where
  get : ∀ {segments} doc, segments ≠ [] → (∀ s ∈ segments, plainComponent s) →
    lib.get doc (joinPath segments) = doc.valueAt segments
  set : ∀ {doc pre key value parent parent'}, (∀ s ∈ pre ++ [key], plainComponent s) →
    doc.valueAt pre = some parent → Json.setChild key value parent = some parent' →
    lib.set doc (joinPath (pre ++ [key])) value = .ok (Json.replaceAt parent' pre doc)
  delete : ∀ {doc pre key parent}, (∀ s ∈ pre ++ [key], plainComponent s) →
    doc.valueAt pre = some parent → parent.child key ≠ none →
    lib.delete doc (joinPath (pre ++ [key])) = .ok (Json.replaceAt (parent.deleteAt [key]) pre doc)
  delete_missing : ∀ {doc segments}, segments ≠ [] → (∀ s ∈ segments, plainComponent s) →
    doc.valueAt segments = none → lib.delete doc (joinPath segments) = .ok doc

/-- A path without a negative index stays as it is. -/
theorem processNegativeIndex_of_none {lib : JsonPaths} {data : Json} {path : String} (h : negativeIndexes path.toList = []) :
    lib.processNegativeIndex data path = path := by
  unfold JsonPaths.processNegativeIndex
  rw [h, List.foldl_nil, String.ofList_toList]

/-! ## Reading a path -/

/-- The components of a path. -/
def components : List Char → List (List Char)
  | [] => [[]]
  | [c] => if c = '.' then [[], []] else [[c]]
  | c :: d :: rest =>
    if c = '\\' then (components rest).modifyHead (d :: ·)
    else if c = '.' then [] :: components (d :: rest)
    else (components (d :: rest)).modifyHead (c :: ·)

/-- Whether a path has a wildcard, a query or a modifier. -/
def hasQuery : List Char → Bool
  | [] => false
  | [c] => isQueryChar c || c = '*' || c = '?'
  | c :: d :: rest =>
    if c = '\\' then hasQuery rest
    else isQueryChar c || c = '*' || c = '?' || hasQuery (d :: rest)

/-- A component without the mark of a key. -/
def unforced (component : List Char) : String :=
  match component with
  | ':' :: key => String.ofList key
  | key => String.ofList key

/-- The reading of the path syntax: queries find and create nothing. -/
def dotted : JsonPaths where
  get := fun doc path =>
    if hasQuery path.toList then none
    else doc.valueAt ((components path.toList).map String.ofList)
  set := fun doc path value =>
    if hasQuery path.toList then .ok doc
    else Json.setAt value ((components path.toList).map unforced) doc
  delete := fun doc path =>
    if hasQuery path.toList ∨ (doc.valueAt ((components path.toList).map unforced)).isNone then
      .ok doc
    else .ok (doc.deleteAt ((components path.toList).map unforced))
  num := fun _ => 0
  resultText := fun _ => ""
  sprint := fun _ => ""
  toLower := id
  toUpper := id
  compileRegexp := fun _ => .error ""

/-- The escaped characters of a key. -/
def escapeChars (key : List Char) : List Char :=
  key.flatMap fun c => if c = '.' ∨ c = '*' ∨ c = '?' ∨ c = '\\' then ['\\', c] else [c]

theorem toList_escape (key : String) :
    (escapeSjsonLiteralKey key).toList = escapeChars key.toList := String.toList_ofList

theorem escapeChars_cons (c : Char) (key : List Char) :
    escapeChars (c :: key) =
      (if c = '.' ∨ c = '*' ∨ c = '?' ∨ c = '\\' then ['\\', c] else [c]) ++ escapeChars key := rfl

theorem components_cons {c : Char} (hslash : c ≠ '\\') (hdot : c ≠ '.') (rest : List Char) :
    components (c :: rest) = (components rest).modifyHead (c :: ·) := by
  cases rest with
  | nil => simp [components, hdot]
  | cons d rest => rw [components, if_neg hslash, if_neg hdot]

theorem components_dot (rest : List Char) : components ('.' :: rest) = [] :: components rest := by
  cases rest with
  | nil => rfl
  | cons d rest => rw [components, if_neg (by decide), if_pos rfl]

/-- The escaped text of a key is one component. -/
theorem components_escape (key : List Char) : components (escapeChars key) = [key] := by
  induction key with
  | nil => rfl
  | cons c key ih =>
    rw [escapeChars_cons]
    split
    · rw [List.cons_append, List.singleton_append, components, if_pos rfl, ih]
      rfl
    · rename_i hplain
      simp only [not_or] at hplain
      rw [List.singleton_append, components_cons hplain.2.2.2 hplain.1, ih]
      rfl

theorem hasQuery_cons {c : Char} (hslash : c ≠ '\\') (rest : List Char) :
    hasQuery (c :: rest) = (isQueryChar c || c = '*' || c = '?' || hasQuery rest) := by
  cases rest with
  | nil => simp [hasQuery]
  | cons d rest => rw [hasQuery, if_neg hslash]

/-- Escaping leaves exactly the characters of queries. -/
theorem hasQuery_escape (key : List Char) : hasQuery (escapeChars key) = key.any isQueryChar := by
  induction key with
  | nil => rfl
  | cons c key ih =>
    rw [escapeChars_cons, List.any_cons]
    split
    · rename_i hspecial
      have hquery : isQueryChar c = false := by
        rcases hspecial with rfl | rfl | rfl | rfl <;> decide
      rw [List.cons_append, List.singleton_append, hasQuery, if_pos rfl, ih, hquery,
        Bool.false_or]
    · rename_i hplain
      simp only [not_or] at hplain
      rw [List.singleton_append, hasQuery_cons hplain.2.2.2, ih, decide_eq_false hplain.2.1,
        decide_eq_false hplain.2.2.1, Bool.or_false, Bool.or_false]

theorem dotted_get {path : String} (h : hasQuery path.toList = false) (doc : Json) :
    dotted.get doc path = doc.valueAt ((components path.toList).map String.ofList) := by
  simp only [dotted, h, Bool.false_eq_true, if_false]

theorem dotted_set {path : String} (h : hasQuery path.toList = false) (doc value : Json) :
    dotted.set doc path value =
      Json.setAt value ((components path.toList).map unforced) doc := by
  simp only [dotted, h, Bool.false_eq_true, if_false]

theorem dotted_set_query {path : String} (h : hasQuery path.toList = true) (doc value : Json) :
    dotted.set doc path value = .ok doc := by
  simp only [dotted, h, if_true]

theorem dotted_delete {path : String} (h : hasQuery path.toList = false) (doc : Json) :
    dotted.delete doc path =
      if (doc.valueAt ((components path.toList).map unforced)).isNone then .ok doc
      else .ok (doc.deleteAt ((components path.toList).map unforced)) := by
  simp only [dotted, h, Bool.false_eq_true, false_or]

theorem setAt_key (fields : GoMap Json) (key : String) (value : Json) :
    Json.setAt value [key] (.obj fields) = .ok (.obj (GoMap.set key value fields)) := by
  simp only [Json.setAt, Except.map]

/-- A single key is set as documented. -/
theorem dotted_sjsonKeys : SjsonKeys dotted where
  literal fields key value _ hliteral := by
    have hquery : hasQuery (escapeSjsonLiteralKey key).toList = false := by
      rw [toList_escape, hasQuery_escape, List.any_eq_false]
      intro c hc
      simp [hliteral.1 c hc]
    have hforce : unforced key.toList = key := by
      unfold unforced
      split
      · rename_i rest heq
        exact absurd (by rw [heq, List.head?_cons]) hliteral.2
      · exact String.ofList_toList
    rw [dotted_set hquery, toList_escape, components_escape, List.map_singleton, hforce,
      setAt_key]
  forced fields key value hplain := by
    have hkey : (":" ++ key).toList = ':' :: key.toList := by simp
    have hquery : hasQuery (escapeSjsonLiteralKey (":" ++ key)).toList = false := by
      rw [toList_escape, hasQuery_escape, List.any_eq_false, hkey]
      intro c hc
      rcases List.mem_cons.mp hc with rfl | hc
      · decide
      · simp [hplain c hc]
    have hforce : unforced (':' :: key.toList) = key := String.ofList_toList
    rw [dotted_set hquery, toList_escape, components_escape, List.map_singleton, hkey, hforce,
      setAt_key]
  query fields key value doc hquery hset := by
    have hquery' : hasQuery (escapeSjsonLiteralKey key).toList = true := by
      rw [toList_escape, hasQuery_escape, List.any_eq_true]
      exact hquery
    rw [dotted_set_query hquery'] at hset
    cases hset
    exact ⟨fields, rfl, fun _ h => h⟩

/-- The keys that a path names, when none is an index or marked. -/
def dottedKeys (path : String) : Option (List String) :=
  if hasQuery path.toList = false ∧
      ∀ key ∈ components path.toList, key.head? ≠ some ':' ∧ digitsValue key = none then
    some ((components path.toList).map String.ofList)
  else none

theorem components_ne_nil (path : List Char) : components path ≠ [] := by
  induction path using components.induct with
  | case1 => exact List.cons_ne_nil _ _
  | case2 => simp [components]
  | case3 c h => simp [components, h]
  | case4 d rest ih => simpa [components] using ih
  | case5 d rest => simp [components]
  | case6 c d rest hslash hdot ih => simpa [components, hslash, hdot] using ih

/-- The paths of keys of the reading. -/
theorem dottedKeys_eq_some {path : String} {keys : List String} (h : dottedKeys path = some keys) :
    hasQuery path.toList = false ∧ (components path.toList).map String.ofList = keys ∧
      (components path.toList).map unforced = keys ∧ keys ≠ [] ∧
        ∀ key ∈ keys, Json.index? key = none := by
  unfold dottedKeys at h
  split at h
  · rename_i hkeys
    cases h
    refine ⟨hkeys.1, rfl, ?_, by simp [components_ne_nil], ?_⟩
    · refine List.map_congr_left fun component hc => ?_
      unfold unforced
      split
      · exact absurd rfl (hkeys.2 _ hc).1
      · rfl
    · intro key hkey
      obtain ⟨component, hc, rfl⟩ := List.mem_map.mp hkey
      unfold Json.index?
      rw [String.toList_ofList]
      exact (hkeys.2 component hc).2
  · cases h

/-- The reading obeys the laws on paths of keys. -/
theorem dotted_keyPaths : KeyPaths dotted dottedKeys where
  get_append hpath hother := by
    obtain ⟨hq, hread, -⟩ := dottedKeys_eq_some hpath
    obtain ⟨hq', hread', -⟩ := dottedKeys_eq_some hother
    rw [dotted_get hq, dotted_get hq', hread, hread', Json.valueAt_append]
  get_set hpath hset := by
    obtain ⟨hq, hread, hwrite, -, hkeys⟩ := dottedKeys_eq_some hpath
    rw [dotted_set hq, hwrite] at hset
    rw [dotted_get hq, hread]
    exact Json.valueAt_setAt hkeys hset
  get_set_apart hpath hother hapart hset := by
    obtain ⟨hq, hread, hwrite, -, hkeys⟩ := dottedKeys_eq_some hpath
    obtain ⟨hq', hread', -⟩ := dottedKeys_eq_some hother
    rw [dotted_set hq, hwrite] at hset
    rw [dotted_get hq', dotted_get hq', hread']
    exact Json.valueAt_setAt_apart hkeys hset hapart
  get_delete {doc doc' path keys} hpath hdelete := by
    obtain ⟨hq, hread, hwrite, hne, hkeys⟩ := dottedKeys_eq_some hpath
    rw [dotted_delete hq, hwrite] at hdelete
    rw [dotted_get hq, hread]
    split at hdelete
    · rename_i hnone
      cases hdelete
      exact Option.isNone_iff_eq_none.mp hnone
    · cases hdelete
      exact Json.valueAt_deleteAt hkeys hne doc
  get_delete_apart {doc doc' path keys other keys'} hpath hother hapart hdelete := by
    obtain ⟨hq, hread, hwrite, hne, hkeys⟩ := dottedKeys_eq_some hpath
    obtain ⟨hq', hread', -⟩ := dottedKeys_eq_some hother
    rw [dotted_delete hq, hwrite] at hdelete
    rw [dotted_get hq', dotted_get hq', hread']
    split at hdelete
    · cases hdelete
      rfl
    · cases hdelete
      exact Json.valueAt_deleteAt_apart hkeys hapart doc
  delete_missing hpath hnone := by
    obtain ⟨hq, hread, hwrite, -⟩ := dottedKeys_eq_some hpath
    rw [dotted_get hq, hread] at hnone
    rw [dotted_delete hq, hwrite, hnone]
    rfl

/-- Plain components are read back from their path. -/
theorem components_joinPath {segments : List (List Char)} (hne : segments ≠ [])
    (hplain : ∀ s ∈ segments, ∀ c ∈ s, c ≠ '.' ∧ c ≠ '\\') :
    components (['.'].intercalate segments) = segments := by
  have hsingle : ∀ (s rest : List Char), (∀ c ∈ s, c ≠ '.' ∧ c ≠ '\\') →
      components (s ++ rest) = (components rest).modifyHead (s ++ ·) := by
    intro s rest hs
    induction s with
    | nil =>
      obtain ⟨head, tail, heq⟩ := List.exists_cons_of_ne_nil (components_ne_nil rest)
      simp [heq]
    | cons c s ih =>
      rw [List.cons_append, components_cons (hs c List.mem_cons_self).2
        (hs c List.mem_cons_self).1, ih fun c' hc' => hs c' (List.mem_cons_of_mem c hc'),
        List.modifyHead_modifyHead]
      rfl
  induction segments with
  | nil => exact absurd rfl hne
  | cons s segments ih =>
    cases segments with
    | nil =>
      have hread := hsingle s [] (hplain s List.mem_cons_self)
      simpa [components] using hread
    | cons s' segments =>
      rw [List.intercalate_cons_cons, List.append_assoc, hsingle _ _ (hplain s List.mem_cons_self),
        List.singleton_append, components_dot, ih (List.cons_ne_nil s' segments)
        fun s'' hs'' => hplain s'' (List.mem_cons_of_mem s hs'')]
      simp

theorem toList_joinPath (segments : List String) :
    (joinPath segments).toList = ['.'].intercalate (segments.map String.toList) := by
  unfold joinPath
  rw [String.toList_intercalate]
  rfl

/-- What the reading makes of the path of plain components. -/
theorem dotted_joinPath {segments : List String} (hne : segments ≠ [])
    (hplain : ∀ s ∈ segments, plainComponent s) :
    hasQuery (joinPath segments).toList = false ∧
      (components (joinPath segments).toList).map String.ofList = segments ∧
      (components (joinPath segments).toList).map unforced = segments := by
  have hchars : ∀ s ∈ segments.map String.toList, ∀ c ∈ s,
      c ∉ ['.', '*', '?', '\\', '#', '@', '|'] := by
    intro s hs c hc
    obtain ⟨segment, hsegment, rfl⟩ := List.mem_map.mp hs
    exact (hplain segment hsegment).1 c hc
  have hread : components (joinPath segments).toList = segments.map String.toList := by
    rw [toList_joinPath]
    refine components_joinPath (by simpa using hne) fun s hs c hc => ?_
    have := hchars s hs c hc
    simp only [List.mem_cons, not_or] at this
    exact ⟨this.1, this.2.2.2.1⟩
  refine ⟨?_, ?_, ?_⟩
  · have hall : ∀ c ∈ (joinPath segments).toList,
        c ≠ '\\' ∧ (isQueryChar c || c = '*' || c = '?') = false := by
      intro c hc
      rw [toList_joinPath] at hc
      rcases List.mem_of_mem_intercalate hc with rfl | ⟨s, hs, hc⟩
      · decide
      · have := hchars s hs c hc
        simp only [List.mem_cons, not_or] at this
        simp [isQueryChar, this]
    generalize (joinPath segments).toList = cs at hall
    induction cs with
    | nil => rfl
    | cons c cs ih =>
      obtain ⟨hslash, hchar⟩ := hall c List.mem_cons_self
      rw [hasQuery_cons hslash, hchar, Bool.false_or]
      exact ih fun c' hc' => hall c' (List.mem_cons_of_mem c hc')
  · rw [hread, List.map_map]
    simp [Function.comp_def]
  · rw [hread, List.map_map]
    refine (List.map_congr_left fun s hs => ?_).trans (List.map_id segments)
    show unforced s.toList = s
    unfold unforced
    split
    · rename_i rest heq
      exact absurd (by simp [heq]) (hplain s hs).2.2
    · exact String.ofList_toList

/-- The reading obeys the laws on paths of plain components. -/
theorem dotted_dottedPaths : DottedPaths dotted where
  get doc hne hplain := by
    obtain ⟨hquery, hread, -⟩ := dotted_joinPath hne hplain
    rw [dotted_get hquery, hread]
  set {doc pre key value parent parent'} hplain hparent hset := by
    obtain ⟨hquery, -, hwrite⟩ := dotted_joinPath (by simp) hplain
    rw [dotted_set hquery, hwrite, Json.setAt_append hparent]
    have hchild : Json.setAt value [key] parent = .ok parent' := by
      cases parent with
      | obj fields =>
        cases hset
        exact setAt_key fields key value
      | arr items =>
        rw [Json.setChild, Option.map_eq_some_iff] at hset
        obtain ⟨⟨i, item⟩, hfound, rfl⟩ := hset
        rw [Json.setAt, show ((Json.index? key).bind fun i =>
          items[i]?.map fun item => (i, item)) = some (i, item) from hfound]
        rfl
      | null => cases hset
      | bool b => cases hset
      | num literal => cases hset
      | str s => cases hset
    rw [hchild]
    rfl
  delete {doc pre key parent} hplain hparent hchild := by
    obtain ⟨hquery, -, hwrite⟩ := dotted_joinPath (by simp) hplain
    have hsome : doc.valueAt (pre ++ [key]) = parent.child key := by
      rw [Json.valueAt_append, hparent, Option.bind_some, Json.valueAt_cons]
      exact Option.bind_fun_some _
    rw [dotted_delete hquery, hwrite, hsome, if_neg (by simpa using hchild),
      Json.deleteAt_append hparent (List.cons_ne_nil key [])]
  delete_missing {doc segments} hne hplain hmissing := by
    obtain ⟨hquery, -, hwrite⟩ := dotted_joinPath hne hplain
    rw [dotted_delete hquery, hwrite, hmissing]
    rfl

end TokenRouter.ParamOverride
