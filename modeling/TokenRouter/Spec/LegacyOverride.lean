import TokenRouter.Spec.PathSyntax

/-!
# The old form of an override

An override without operations assigns its keys to the body, which the code does by setting one
escaped path after another. This is the assignment to a map that its comment promises, in any
order of the keys, exactly if no key contains a character that starts a query or a modifier and
none begins with the mark `:`.

## Key results

- `legacyOverride_iff`: when the paths set are the keys of the override
- `move_iff`: when a move is one
-/

namespace TokenRouter.ParamOverride

/-- `reqMap[key] = value` for every entry. -/
def assignAll (body : GoMap Json) (paramOverride : List (String × Json)) : GoMap Json :=
  paramOverride.foldl (fun m e => GoMap.set e.1 e.2 m) body

/-- Assignments to the keys of a map commute. -/
theorem assignAll_perm {order paramOverride : List (String × Json)}
    (hperm : order.Perm paramOverride) (hnodup : (paramOverride.map Prod.fst).Nodup)
    (body : GoMap Json) : assignAll body order = assignAll body paramOverride := by
  refine hperm.foldl_eq' ?_ body
  intro e he e' he' m
  by_cases hkey : e.1 = e'.1
  · have hsame : e = e' := List.inj_on_of_nodup_map
      ((hperm.map Prod.fst).nodup_iff.mpr hnodup) he he' hkey
    rw [hsame]
  · exact GoMap.set_comm m e.2 e'.2 hkey

theorem get?_assignAll_ne_none {paramOverride : List (String × Json)} {e : String × Json}
    (he : e ∈ paramOverride) (body : GoMap Json) :
    GoMap.get? (assignAll body paramOverride) e.1 ≠ none := by
  -- a key that is there stays there
  have hkeep : ∀ (rest : List (String × Json)) (m : GoMap Json), GoMap.get? m e.1 ≠ none →
      GoMap.get? (assignAll m rest) e.1 ≠ none := by
    intro rest
    induction rest with
    | nil => exact fun m h => h
    | cons e' rest ih =>
      intro m h
      refine ih _ ?_
      by_cases hkey : e.1 = e'.1
      · rw [hkey, GoMap.get?_set_self]
        exact Option.some_ne_none _
      · rwa [GoMap.get?_set_ne _ _ hkey]
  induction paramOverride generalizing body with
  | nil => cases he
  | cons e' rest ih =>
    rcases List.mem_cons.mp he with rfl | he
    · refine hkeep rest _ ?_
      rw [GoMap.get?_set_self]
      exact Option.some_ne_none _
    · exact ih he _

variable {lib : JsonPaths}

/-- Literal keys are assigned. -/
theorem applyOperationsLegacy_literal (hlib : SjsonKeys lib) {order : List (String × Json)}
    (hkeys : ∀ e ∈ order, e.1 ≠ "" ∧ literalKey e.1) (body : GoMap Json) :
    lib.applyOperationsLegacy (.obj body) order = .ok (.obj (assignAll body order)) := by
  induction order generalizing body with
  | nil => rfl
  | cons e order ih =>
    obtain ⟨hne, hliteral⟩ := hkeys e List.mem_cons_self
    show (lib.set (.obj body) (escapeSjsonLiteralKey e.1) e.2 >>= _) = _
    rw [hlib.literal body e.1 e.2 hne hliteral]
    exact ih (fun e' he' => hkeys e' (List.mem_cons_of_mem e he')) _

/-- The key that setting an override key creates. -/
def createsKey (key created : String) : Prop :=
  (∀ c ∈ key.toList, isQueryChar c = false) ∧
    (key = created ∧ key.toList.head? ≠ some ':' ∨ key = ":" ++ created)

/-- A key of the result was in the body or is created by a key of the override. -/
theorem applyOperationsLegacy_keys (hlib : SjsonKeys lib) {order : List (String × Json)}
    (hne : ∀ e ∈ order, e.1 ≠ "") {body : GoMap Json} {result : Json}
    (h : lib.applyOperationsLegacy (.obj body) order = .ok result) :
    ∃ fields, result = .obj fields ∧ ∀ k, GoMap.get? body k = none →
      GoMap.get? fields k ≠ none → ∃ e ∈ order, createsKey e.1 k := by
  induction order generalizing body with
  | nil =>
    cases h
    exact ⟨body, rfl, fun k hnone hsome => absurd hnone hsome⟩
  | cons e order ih =>
    have hrun : (lib.set (.obj body) (escapeSjsonLiteralKey e.1) e.2 >>=
        fun next => lib.applyOperationsLegacy next order) = .ok result := h
    cases hset : lib.set (.obj body) (escapeSjsonLiteralKey e.1) e.2 with
    | error err =>
      rw [hset] at hrun
      cases hrun
    | ok next =>
      rw [hset] at hrun
      -- what one set adds
      have hstep : ∃ fields', next = .obj fields' ∧ ∀ k, GoMap.get? body k = none →
          GoMap.get? fields' k ≠ none → createsKey e.1 k := by
        by_cases hquery : ∃ c ∈ e.1.toList, isQueryChar c = true
        · obtain ⟨fields', rfl, hnew⟩ := hlib.query body e.1 e.2 next hquery hset
          exact ⟨fields', rfl, fun k hnone hsome => absurd (hnew k hnone) hsome⟩
        · have hplain : ∀ c ∈ e.1.toList, isQueryChar c = false := by
            intro c hc
            by_contra hchar
            exact hquery ⟨c, hc, by simpa using hchar⟩
          have hassigned : ∀ created, next = .obj (GoMap.set created e.2 body) →
              createsKey e.1 created → ∃ fields', next = .obj fields' ∧
                ∀ k, GoMap.get? body k = none → GoMap.get? fields' k ≠ none →
                  createsKey e.1 k := by
            intro created hnext hcreates
            refine ⟨_, hnext, fun k hnone hsome => ?_⟩
            by_cases hk : k = created
            · rwa [hk]
            · rw [GoMap.get?_set_ne _ _ hk] at hsome
              exact absurd hnone hsome
          by_cases hforce : e.1.toList.head? = some ':'
          · obtain ⟨rest, hrest⟩ := List.head?_eq_some_iff.mp hforce
            have hkey : e.1 = ":" ++ String.ofList rest := by
              apply String.toList_inj.mp
              simp [hrest]
            rw [hkey, hlib.forced body (String.ofList rest) e.2 (by
              intro c hc
              exact hplain c (by rw [hrest]; exact List.mem_cons_of_mem _ (by simpa using hc)))]
              at hset
            cases hset
            exact hassigned _ rfl ⟨hplain, .inr hkey⟩
          · rw [hlib.literal body e.1 e.2 (hne e List.mem_cons_self) ⟨hplain, hforce⟩] at hset
            cases hset
            exact hassigned _ rfl ⟨hplain, .inl ⟨rfl, hforce⟩⟩
      obtain ⟨fields', rfl, hadds⟩ := hstep
      obtain ⟨fields, rfl, hrest⟩ :=
        ih (fun e' he' => hne e' (List.mem_cons_of_mem e he')) hrun
      refine ⟨fields, rfl, fun k hnone hsome => ?_⟩
      by_cases hk : GoMap.get? fields' k = none
      · obtain ⟨e', he', hcreates⟩ := hrest k hk hsome
        exact ⟨e', List.mem_cons_of_mem e he', hcreates⟩
      · exact ⟨e, List.mem_cons_self, hadds k hnone hk⟩

/-- Where every key is created by a key of a finite list, none begins with the mark: the key that
    creates it would begin with one more. -/
theorem literalKey_of_created (keys : List String)
    (hcreated : ∀ k ∈ keys, ∃ k' ∈ keys, createsKey k' k) : ∀ k ∈ keys, literalKey k := by
  have hplain : ∀ k ∈ keys, ∀ c ∈ k.toList, isQueryChar c = false := by
    intro k hk c hc
    obtain ⟨k', -, hchars, hkey⟩ := hcreated k hk
    rcases hkey with ⟨rfl, -⟩ | rfl
    · exact hchars c hc
    · exact hchars c (by simp [hc])
  -- a key with a mark is created by one with a mark that is longer
  have hlonger : ∀ n, ∀ k ∈ keys, k.toList.head? = some ':' →
      ∃ k' ∈ keys, k'.toList.head? = some ':' ∧ n ≤ k'.toList.length := by
    intro n
    induction n with
    | zero => exact fun k hk hmark => ⟨k, hk, hmark, Nat.zero_le _⟩
    | succ n ih =>
      intro k hk hmark
      obtain ⟨k', hk', hmark', hlen⟩ := ih k hk hmark
      obtain ⟨k'', hk'', -, hkey⟩ := hcreated k' hk'
      rcases hkey with ⟨rfl, hnomark⟩ | rfl
      · exact absurd hmark' hnomark
      · exact ⟨_, hk'', by simp, by simpa using hlen⟩
  intro k hk
  refine ⟨hplain k hk, fun hmark => ?_⟩
  obtain ⟨k', hk', -, hlen⟩ := hlonger ((keys.map fun k => k.toList.length).sum + 1) k hk hmark
  have hle := List.single_le_sum (l := keys.map fun k => k.toList.length)
    (fun _ _ => Nat.zero_le _) _ (List.mem_map_of_mem hk')
  omega

/-- An override is assigned to every body, in every order, exactly if its keys are literal. -/
theorem legacyOverride_iff {lib : JsonPaths} (hlib : SjsonKeys lib)
    (paramOverride : List (String × Json)) (hnodup : (paramOverride.map Prod.fst).Nodup)
    (hne : ∀ e ∈ paramOverride, e.1 ≠ "") :
    (∀ (body : GoMap Json) (order : List (String × Json)), order.Perm paramOverride →
      lib.applyOperationsLegacy (.obj body) order =
        .ok (.obj (assignAll body paramOverride))) ↔
      ∀ e ∈ paramOverride, literalKey e.1 := by
  constructor
  · intro h e he
    obtain ⟨fields, hfields, hkeys⟩ := applyOperationsLegacy_keys hlib hne
      (h [] paramOverride (List.Perm.refl _))
    cases hfields
    refine literalKey_of_created (paramOverride.map Prod.fst) ?_ e.1 (List.mem_map_of_mem he)
    intro k hk
    obtain ⟨e', he', rfl⟩ := List.mem_map.mp hk
    obtain ⟨e'', he'', hcreates⟩ := hkeys e'.1 rfl (get?_assignAll_ne_none he' [])
    exact ⟨e''.1, List.mem_map_of_mem he'', hcreates⟩
  · intro hliteral body order hperm
    rw [← assignAll_perm hperm hnodup]
    exact applyOperationsLegacy_literal hlib
      (fun e he => ⟨hne e (hperm.subset he), hliteral e (hperm.subset he)⟩) body

/-- A key with a dot and a wildcard is assigned as it is. -/
theorem legacyOverride_dotted :
    (∀ (body : GoMap Json) (order : List (String × Json)),
      order.Perm [("a.b*", .num "1"), ("model", .str "m")] →
      dotted.applyOperationsLegacy (.obj body) order =
        .ok (.obj (assignAll body [("a.b*", .num "1"), ("model", .str "m")]))) ↔
      ∀ e ∈ [("a.b*", Json.num "1"), ("model", .str "m")], literalKey e.1 :=
  legacyOverride_iff dotted_sjsonKeys [("a.b*", .num "1"), ("model", .str "m")]
    (by decide) (by decide)

/-- The key `a#b` is not assigned to an empty body. -/
theorem hash_key_not_assigned :
    ¬ ∀ (lib : JsonPaths), SjsonKeys lib →
      ∀ (paramOverride : List (String × Json)), (paramOverride.map Prod.fst).Nodup →
        (∀ e ∈ paramOverride, e.1 ≠ "") →
        ∀ (body : GoMap Json) (order : List (String × Json)), order.Perm paramOverride →
          lib.applyOperationsLegacy (.obj body) order =
            .ok (.obj (assignAll body paramOverride)) := by
  intro h
  have hrun := h dotted dotted_sjsonKeys [("a#b", .num "1")] (by decide) (by decide) [] _
    (List.Perm.refl _)
  have hquery : hasQuery (escapeSjsonLiteralKey "a#b").toList = true := by decide
  have hset : dotted.set (.obj []) (escapeSjsonLiteralKey "a#b") (.num "1") = .ok (.obj []) :=
    dotted_set_query hquery _ _
  have hsame : dotted.applyOperationsLegacy (.obj []) [("a#b", .num "1")] = .ok (.obj []) := by
    show (dotted.set (.obj []) (escapeSjsonLiteralKey "a#b") (.num "1") >>= _) = _
    rw [hset]
    rfl
  rw [hsame] at hrun
  have hkeys := @get?_assignAll_ne_none [("a#b", .num "1")] ("a#b", .num "1")
    List.mem_cons_self []
  rw [← Json.obj.inj (Except.ok.inj hrun)] at hkeys
  exact hkeys rfl

end TokenRouter.ParamOverride

/-! ## Moving a value

A move sets the new path and then deletes the old one. Between paths that are apart this is a
move. When one path leads through the other, the second step works on what the first has written:
a path that is moved onto itself, or into itself, is deleted.
-/

namespace TokenRouter.ParamOverride

open Json (Apart)

variable {lib : JsonPaths} {keysOf : String → Option (List String)} {data result : Json}
  {fromPath toPath : String} {fromKeys toKeys : List String}

/-- The value stands at the new path and, unless that leads to the old one, no longer at the old
    path; no other value changes. -/
structure Moved (lib : JsonPaths) (keysOf : String → Option (List String)) (data result : Json)
    (fromPath toPath : String) (fromKeys toKeys : List String) : Prop where
  arrives : lib.get result toPath = lib.get data fromPath
  leaves : ¬ toKeys <+: fromKeys → lib.get result fromPath = none
  others : ∀ path keys, keysOf path = some keys → Apart fromKeys keys → Apart toKeys keys →
    lib.get result path = lib.get data path

/-- The condition for a move: the old path does not lead to the new one, and where it lies inside
    it the moved value has nothing at the rest of the path. -/
def Movable (value : Json) (fromKeys toKeys : List String) : Prop :=
  ¬ fromKeys <+: toKeys ∧ ∀ rest, fromKeys = toKeys ++ rest → value.valueAt rest = none

/-- The two steps of a move. -/
theorem moveValue_steps (h : lib.moveValue data fromPath toPath = .ok result) :
    ∃ value written, lib.get data fromPath = some value ∧
      lib.set data toPath value = .ok written ∧ lib.delete written fromPath = .ok result := by
  unfold JsonPaths.moveValue at h
  cases hget : lib.get data fromPath with
  | none =>
    rw [hget] at h
    cases h
  | some value =>
    rw [hget] at h
    dsimp only at h
    cases hset : lib.set data toPath value with
    | error e =>
      rw [hset] at h
      cases h
    | ok written =>
      rw [hset] at h
      exact ⟨value, written, rfl, hset, h⟩

/-- Values apart from both paths stay. -/
theorem moveValue_others (hlib : KeyPaths lib keysOf) (hfrom : keysOf fromPath = some fromKeys)
    (hto : keysOf toPath = some toKeys) (h : lib.moveValue data fromPath toPath = .ok result)
    {path : String} {keys : List String} (hpath : keysOf path = some keys)
    (hapartFrom : Apart fromKeys keys) (hapartTo : Apart toKeys keys) :
    lib.get result path = lib.get data path := by
  obtain ⟨value, written, -, hset, hdelete⟩ := moveValue_steps h
  rw [hlib.get_delete_apart hfrom hpath hapartFrom hdelete,
    hlib.get_set_apart hto hpath hapartTo hset]

theorem moveValue_iff (hlib : KeyPaths lib keysOf) (hfrom : keysOf fromPath = some fromKeys)
    (hto : keysOf toPath = some toKeys) (h : lib.moveValue data fromPath toPath = .ok result) :
    Moved lib keysOf data result fromPath toPath fromKeys toKeys ↔
      ∀ value, lib.get data fromPath = some value → Movable value fromKeys toKeys := by
  obtain ⟨value, written, hvalue, hset, hdelete⟩ := moveValue_steps h
  have hwritten := hlib.get_set hto hset
  have hgone := hlib.get_delete hfrom hdelete
  constructor
  · intro hmoved value' hvalue'
    cases hvalue.symm.trans hvalue'
    have harrives := hmoved.arrives
    rw [hvalue] at harrives
    constructor
    · -- what lies inside the deleted path is gone as well
      rintro ⟨rest, rfl⟩
      rw [hlib.get_append hfrom hto, hgone] at harrives
      cases harrives
    · rintro rest rfl
      rw [hlib.get_append hto hfrom, harrives] at hgone
      exact hgone
  · intro hmovable
    obtain ⟨hnotInto, hinside⟩ := hmovable value hvalue
    have harrives : lib.get result toPath = some value := by
      by_cases hstart : toKeys <+: fromKeys
      · obtain ⟨rest, rfl⟩ := hstart
        have hmissing : lib.get written fromPath = none := by
          rw [hlib.get_append hto hfrom, hwritten]
          exact hinside rest rfl
        rw [hlib.delete_missing hfrom hmissing] at hdelete
        cases hdelete
        exact hwritten
      · rw [hlib.get_delete_apart hfrom hto ⟨hnotInto, hstart⟩ hdelete, hwritten]
    exact ⟨harrives.trans hvalue.symm, fun _ => hgone,
      fun path keys hpath => moveValue_others hlib hfrom hto h hpath⟩

/-- A successful `move` between paths of object keys moves the value exactly if the old path does
    not lead to the new one and, where it lies inside the new one, the value has nothing at the
    rest of it. -/
theorem move_iff {lib : JsonPaths} {keysOf : String → Option (List String)}
    (hlib : KeyPaths lib keysOf)
    {contextOperation :
      ParamOperation → Json → Option Json → Except String (Json × Option Json)}
    {op : ParamOperation} {fromKeys toKeys : List String} (hmode : op.mode = "move")
    (hfrom : keysOf op.fromPath = some fromKeys) (hto : keysOf op.toPath = some toKeys)
    (hfromIndex : negativeIndexes op.fromPath.toList = [])
    (htoIndex : negativeIndexes op.toPath.toList = []) {data result : Json}
    {contextJSON contextJSON' : Option Json}
    (h : lib.runOperation contextOperation op data contextJSON = .ok (result, contextJSON')) :
    Moved lib keysOf data result op.fromPath op.toPath fromKeys toKeys ↔
      ∀ value, lib.get data op.fromPath = some value → Movable value fromKeys toKeys := by
  have hrun : (JsonPaths.wrapError op.mode (lib.moveValue data op.fromPath op.toPath)).map
      (·, contextJSON) = .ok (result, contextJSON') := by
    have hpathBased : isPathBasedOperation op.mode = false := by
      rw [hmode]
      decide
    unfold JsonPaths.runOperation at h
    rw [hpathBased, if_neg Bool.false_ne_true, if_pos hmode] at h
    dsimp only at h
    rwa [processNegativeIndex_of_none hfromIndex, processNegativeIndex_of_none htoIndex] at h
  have hmove : lib.moveValue data op.fromPath op.toPath = .ok result := by
    cases hvalue : lib.moveValue data op.fromPath op.toPath with
    | error e =>
      rw [hvalue] at hrun
      cases hrun
    | ok moved =>
      rw [hvalue] at hrun
      cases hrun
      rfl
  exact moveValue_iff hlib hfrom hto hmove

/-! ### A path moved onto itself -/

/-- The document `{"a": {"b": 1}}`. -/
def nestedDoc : Json := .obj [("a", .obj [("b", .num "1")])]

def moveOperation (fromPath toPath : String) : ParamOperation :=
  { mode := "move", fromPath := fromPath, toPath := toPath }

/-- `a.b` is moved to `c`. -/
theorem move_nested :
    Moved dotted dottedKeys nestedDoc (.obj [("a", .obj []), ("c", .num "1")]) "a.b" "c" ["a", "b"]
        ["c"] ↔
      ∀ value, dotted.get nestedDoc "a.b" = some value → Movable value ["a", "b"] ["c"] :=
  @move_iff dotted dottedKeys dotted_keyPaths (fun _ doc context => .ok (doc, context))
    (moveOperation "a.b" "c") ["a", "b"] ["c"] rfl (by decide) (by decide) (by decide) (by decide)
    nestedDoc (.obj [("a", .obj []), ("c", .num "1")]) none none rfl

/-- A move of `a` onto itself deletes it. -/
theorem move_onto_itself_deletes :
    ¬ ∀ (lib : JsonPaths) (keysOf : String → Option (List String)), KeyPaths lib keysOf →
      ∀ (op : ParamOperation) (fromKeys toKeys : List String), op.mode = "move" →
        keysOf op.fromPath = some fromKeys → keysOf op.toPath = some toKeys →
        ∀ (data result : Json),
          lib.runOperation (fun _ doc context => .ok (doc, context)) op data none =
            .ok (result, none) →
          Moved lib keysOf data result op.fromPath op.toPath fromKeys toKeys := by
  intro h
  have hmoved := h dotted dottedKeys dotted_keyPaths (moveOperation "a" "a") ["a"] ["a"] rfl
    (by decide) (by decide) nestedDoc (.obj []) rfl
  exact nomatch hmoved.arrives

end TokenRouter.ParamOverride
