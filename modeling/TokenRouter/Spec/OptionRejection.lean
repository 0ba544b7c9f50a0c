import TokenRouter.Model.Option

/-!
# What a rejected option update changes

`UpdateOption` writes the row and `OptionMap` before it parses, and the maps of ratios are
emptied before a text is decoded into them. So an update that is rejected leaves everything as
it was only where the very same text was there already, in all three places.

## Key results

- `foldl_update_eq_self_iff`: independent writes change nothing if and only if none of them does
- `dispatchOptions_eq`: a batch stops at the first value that is rejected
-/

namespace TokenRouter

/-! ## Independent writes -/

section Writes

variable {W κ : Type} [DecidableEq κ] {β : κ → Type} (key : W → κ)
  (write : (w : W) → β (key w) → β (key w))

/-- Write to the cells of a list one by one. -/
def writeAll (ws : List W) (f : (k : κ) → β k) : (k : κ) → β k :=
  ws.foldl (fun f w => Function.update f (key w) (write w (f (key w)))) f

theorem writeAll_of_not_mem {ws : List W} {k : κ} (h : k ∉ ws.map key) (f : (k : κ) → β k) :
    writeAll key write ws f k = f k := by
  induction ws generalizing f with
  | nil => rfl
  | cons w ws ih =>
    rw [List.map_cons, List.mem_cons, not_or] at h
    rw [writeAll, List.foldl_cons, ← writeAll, ih h.2, Function.update_of_ne h.1]

/-- Writes to different cells change nothing if and only if none of them does. -/
theorem writeAll_eq_self_iff {ws : List W} (hnodup : (ws.map key).Nodup) (f : (k : κ) → β k) :
    writeAll key write ws f = f ↔ ∀ w ∈ ws, write w (f (key w)) = f (key w) := by
  induction ws generalizing f with
  | nil => simp [writeAll]
  | cons w ws ih =>
    rw [List.map_cons, List.nodup_cons] at hnodup
    obtain ⟨hfresh, hnodup⟩ := hnodup
    rw [writeAll, List.foldl_cons, ← writeAll, List.forall_mem_cons]
    constructor
    · intro h
      -- no later write touches the cell of the first one
      have hw : write w (f (key w)) = f (key w) := by
        have hcell := congrFun h (key w)
        rwa [writeAll_of_not_mem key write hfresh, Function.update_self] at hcell
      rw [hw, Function.update_eq_self] at h
      exact ⟨hw, (ih hnodup f).mp h⟩
    · rintro ⟨hw, hws⟩
      rw [hw, Function.update_eq_self]
      exact (ih hnodup f).mpr hws

end Writes

/-! ## The parsers -/

namespace ParsedOption

variable {reader : JsonReader} {o : ParsedOption}

theorem ofKey_key (o : ParsedOption) : ofKey o.key = some o := by
  cases o <;> rfl

theorem key_injective : Function.Injective key := by
  intro o o' h
  have := congrArg ofKey h
  rw [ofKey_key, ofKey_key] at this
  exact Option.some.inj this

/-- Whether a text is rejected does not depend on what was there. -/
theorem load_error (old old' : o.Value) (s : String) :
    (o.load reader old s).2 = (o.load reader old' s).2 := by
  cases o with
  | automaticDisableStatusCodes | automaticRetryStatusCodes =>
    simp only [load, statusCodesFromString]
    cases parseHTTPStatusCodeRanges s <;> rfl
  | _ => rfl

/-- A list of status codes survives a rule that is rejected. -/
theorem load_statusCodes_of_error {old : o.Value} {s : String} {err : OptionError}
    (ho : o = automaticDisableStatusCodes ∨ o = automaticRetryStatusCodes)
    (h : (o.load reader old s).2 = some err) : (o.load reader old s).1 = old := by
  rcases ho with rfl | rfl
  all_goals
    simp only [load, statusCodesFromString] at h ⊢
    cases hparse : parseHTTPStatusCodeRanges s with
    | ok ranges =>
      rw [hparse] at h
      cases h
    | error message => rfl

end ParsedOption

/-! ## One update -/

section Update

variable {Other : Type} {env : OptionEnv Other} {st : OptionState Other} {o : ParsedOption}

theorem isConfigKey_key (env : OptionEnv Other) (o : ParsedOption) :
    env.isConfigKey o.key = false := by
  cases o <;> rfl

theorem updateOptionMap_key (value : String) (st : OptionState Other) :
    updateOptionMap env o.key value st =
      ({ st with
          optionMap := Function.update st.optionMap o.key (some value)
          parsed := Function.update st.parsed o (o.load env.reader (st.parsed o) value).1 },
        (o.load env.reader (st.parsed o) value).2) := by
  unfold updateOptionMap
  simp only [isConfigKey_key, Bool.false_eq_true, if_false, ParsedOption.ofKey_key]

/-- The text is stored already, and the variable is what the text leaves. -/
structure AlreadyInForce (env : OptionEnv Other) (st : OptionState Other) (o : ParsedOption)
    (value : String) : Prop where
  row : st.rows.find? o.key = some ⟨o.key, value⟩
  optionMap : st.optionMap o.key = some value
  parsed : (o.load env.reader (st.parsed o) value).1 = st.parsed o

theorem upsert_eq_self_iff {rows : Table OptionRow (·.key)} {row : OptionRow} :
    rows.upsert row = rows ↔ rows.find? row.key = some row := by
  constructor
  · intro h
    have hfind := Table.find?_upsert rows row row.key
    rwa [h, if_pos rfl] at hfind
  · intro h
    rw [Table.upsert_of_find?_some h, Table.set_of_find? h]

theorem OptionState.ext_iff' {s s' : OptionState Other} :
    s = s' ↔ s.rows = s'.rows ∧ s.optionMap = s'.optionMap ∧ s.parsed = s'.parsed ∧
      s.other = s'.other := by
  constructor
  · rintro rfl
    exact ⟨rfl, rfl, rfl, rfl⟩
  · cases s
    cases s'
    rintro ⟨rfl, rfl, rfl, rfl⟩
    rfl

theorem updateOption_eq_self_iff (value : String) :
    (updateOption env o.key value st).1 = st ↔ AlreadyInForce env st o value := by
  rw [updateOption, updateOptionMap_key, OptionState.ext_iff']
  simp only [upsert_eq_self_iff, Function.update_eq_self_iff, and_true]
  exact ⟨fun ⟨hrow, hmap, hparsed⟩ => ⟨hrow, hmap.symm, hparsed⟩,
    fun h => ⟨h.row, h.optionMap.symm, h.parsed⟩⟩

/-! ## A batch -/

/-- The key and the text of a value. -/
def optionPair (w : ParsedOption × String) : String × String := (w.1.key, w.2)

/-- The values that a batch dispatches: up to the first one that is rejected. -/
def dispatched (reader : JsonReader) (parsed : (o : ParsedOption) → o.Value) :
    List (ParsedOption × String) → List (ParsedOption × String)
  | [] => []
  | w :: rest =>
    if (w.1.load reader (parsed w.1) w.2).2 = none then w :: dispatched reader parsed rest else [w]

theorem dispatched_isPrefix (reader : JsonReader) (parsed : (o : ParsedOption) → o.Value)
    (ws : List (ParsedOption × String)) : dispatched reader parsed ws <+: ws := by
  induction ws with
  | nil => exact List.prefix_rfl
  | cons w ws ih =>
    rw [dispatched]
    split
    · exact (List.prefix_cons_inj w).mpr ih
    · exact ⟨ws, rfl⟩

theorem dispatched_congr (reader : JsonReader) (parsed parsed' : (o : ParsedOption) → o.Value)
    (ws : List (ParsedOption × String)) :
    dispatched reader parsed ws = dispatched reader parsed' ws := by
  induction ws with
  | nil => rfl
  | cons w ws ih =>
    rw [dispatched, dispatched, ParsedOption.load_error (parsed w.1) (parsed' w.1), ih]

/-- What the parser of a value leaves. -/
def loadValue (reader : JsonReader) (w : ParsedOption × String) (old : w.1.Value) : w.1.Value :=
  (w.1.load reader old w.2).1

/-- A batch stops at the first value that is rejected. -/
theorem dispatchOptions_eq (ws : List (ParsedOption × String)) (st : OptionState Other) :
    (dispatchOptions env (ws.map optionPair) st).1 =
      { st with
        optionMap := writeAll (fun w => w.1.key) (fun w _ => some w.2)
          (dispatched env.reader st.parsed ws) st.optionMap
        parsed := writeAll (fun w => w.1) (loadValue env.reader)
          (dispatched env.reader st.parsed ws) st.parsed } := by
  induction ws generalizing st with
  | nil => rfl
  | cons w ws ih =>
    rw [List.map_cons, optionPair, dispatchOptions, updateOptionMap_key, dispatched]
    cases herr : (w.1.load env.reader (st.parsed w.1) w.2).2 with
    | none =>
      rw [if_pos rfl]
      simp only [ih]
      rw [dispatched_congr env.reader _ st.parsed]
      rfl
    | some err =>
      rw [if_neg (by simp)]
      rfl

theorem find?_foldl_upsert_of_not_mem {ws : List (ParsedOption × String)} {o : ParsedOption}
    (h : o ∉ ws.map Prod.fst) (rows : Table OptionRow (·.key)) :
    ((ws.map optionPair).foldl (fun rows (k, v) => rows.upsert ⟨k, v⟩) rows).find? o.key =
      rows.find? o.key := by
  induction ws generalizing rows with
  | nil => rfl
  | cons w ws ih =>
    rw [List.map_cons, List.mem_cons, not_or] at h
    rw [List.map_cons, List.foldl_cons, ih h.2, Table.find?_upsert, if_neg]
    intro hkey
    exact h.1 (ParsedOption.key_injective hkey).symm

theorem foldl_upsert_eq_self_iff {ws : List (ParsedOption × String)}
    (hnodup : (ws.map Prod.fst).Nodup) (rows : Table OptionRow (·.key)) :
    (ws.map optionPair).foldl (fun rows (k, v) => rows.upsert ⟨k, v⟩) rows = rows ↔
      ∀ w ∈ ws, rows.find? w.1.key = some ⟨w.1.key, w.2⟩ := by
  induction ws with
  | nil => simp
  | cons w ws ih =>
    rw [List.map_cons, List.nodup_cons] at hnodup
    rw [List.map_cons, List.foldl_cons, List.forall_mem_cons]
    constructor
    · intro h
      have hw : rows.find? w.1.key = some ⟨w.1.key, w.2⟩ := by
        have hfind := find?_foldl_upsert_of_not_mem hnodup.1 (rows.upsert ⟨w.1.key, w.2⟩)
        rw [Table.find?_upsert, if_pos rfl] at hfind
        rw [← hfind]
        exact congrArg (fun t => t.find? w.1.key) h.symm
      have hsame : rows.upsert ⟨w.1.key, w.2⟩ = rows := upsert_eq_self_iff.mpr hw
      simp only [optionPair, hsame] at h
      exact ⟨hw, (ih hnodup.2).mp h⟩
    · rintro ⟨hw, hws⟩
      have hsame : rows.upsert ⟨w.1.key, w.2⟩ = rows := upsert_eq_self_iff.mpr hw
      simp only [optionPair, hsame]
      exact (ih hnodup.2).mpr hws

/-- Every value is stored already, and what is dispatched is in force. -/
structure BatchInForce (env : OptionEnv Other) (st : OptionState Other)
    (values visited : List (ParsedOption × String)) : Prop where
  rows : ∀ w ∈ values, st.rows.find? w.1.key = some ⟨w.1.key, w.2⟩
  optionMap : ∀ w ∈ dispatched env.reader st.parsed visited, st.optionMap w.1.key = some w.2
  parsed : ∀ w ∈ dispatched env.reader st.parsed visited,
    (w.1.load env.reader (st.parsed w.1) w.2).1 = st.parsed w.1

theorem updateOptionsBulk_eq_self_iff {values visited : List (ParsedOption × String)}
    (hne : values ≠ []) (hnodup : (values.map Prod.fst).Nodup) (hperm : visited.Perm values) :
    (updateOptionsBulk env none (values.map optionPair) (visited.map optionPair) st).1 = st ↔
      BatchInForce env st values visited := by
  have hkeys : ((dispatched env.reader st.parsed visited).map Prod.fst).Nodup :=
    ((hperm.map Prod.fst).nodup_iff.mpr hnodup).sublist
      ((dispatched_isPrefix _ _ _).sublist.map Prod.fst)
  have hnames : ((dispatched env.reader st.parsed visited).map fun w => w.1.key).Nodup := by
    have hmap := hkeys.map ParsedOption.key_injective
    rwa [List.map_map] at hmap
  unfold updateOptionsBulk
  rw [if_neg (by simpa using hne)]
  simp only [dispatchOptions_eq]
  rw [OptionState.ext_iff']
  simp only [and_true, foldl_upsert_eq_self_iff hnodup, writeAll_eq_self_iff _ _ hnames,
    writeAll_eq_self_iff _ _ hkeys]
  exact ⟨fun ⟨hrows, hmap, hparsed⟩ => ⟨hrows, fun w hw => (hmap w hw).symm, hparsed⟩,
    fun h => ⟨h.rows, fun w hw => (h.optionMap w hw).symm, h.parsed⟩⟩

/-- A rejected update leaves everything as it was exactly if its texts were stored and in force
    before. -/
theorem rejected_update_unchanged_iff (env : OptionEnv Other) (st : OptionState Other) :
    (∀ (o : ParsedOption) (value : String) (err : OptionError),
      (updateOption env o.key value st).2 = some err →
        ((updateOption env o.key value st).1 = st ↔ AlreadyInForce env st o value)) ∧
    ∀ (dbError : Option String) (values visited : List (ParsedOption × String))
      (err : OptionError), (values.map Prod.fst).Nodup → visited.Perm values →
      (updateOptionsBulk env dbError (values.map optionPair) (visited.map optionPair) st).2 =
        some err →
        ((updateOptionsBulk env dbError (values.map optionPair) (visited.map optionPair) st).1 =
            st ↔ dbError ≠ none ∨ BatchInForce env st values visited) := by
  constructor
  · intro o value err _
    exact updateOption_eq_self_iff value
  · intro dbError values visited err hnodup hperm herr
    have hne : values ≠ [] := by
      rintro rfl
      cases herr
    cases dbError with
    | some message =>
      have hsame : (updateOptionsBulk env (some message) (values.map optionPair)
          (visited.map optionPair) st).1 = st := by
        rw [updateOptionsBulk, if_neg (by simpa using hne)]
      simp [hsame]
    | none =>
      rw [updateOptionsBulk_eq_self_iff hne hnodup hperm]
      simp

end Update

/-! ## A wiped map -/

/-- A reader for texts of which none is JSON. -/
def noJson : OptionEnv Unit where
  reader := { parse := fun _ => none, parseFloat := fun _ => none }
  registered _ := false
  updateConfig _ _ parsed other := (parsed, other)
  updateOther _ _ other := (other, none)

/-- The group `vip` pays eight tenths. -/
def vipState : OptionState Unit where
  rows := ⟨[⟨"GroupRatio", "\x7b\"vip\":0.8\x7d"⟩], by decide⟩
  optionMap key := if key = "GroupRatio" then some "\x7b\"vip\":0.8\x7d" else none
  parsed
    | .groupRatio => ([("vip", 4 / 5)] : GoMap ℚ)
    | .groupGroupRatio => ([] : GoMap (GoMap ℚ))
    | .automaticDisableStatusCodes => ([⟨401, 401⟩] : List StatusCodeRange)
    | .automaticRetryStatusCodes => ([⟨500, 503⟩] : List StatusCodeRange)
    | .modelRatio | .modelPrice | .completionRatio | .cacheRatio | .createCacheRatio
    | .imageRatio | .audioRatio | .audioCompletionRatio => ([] : GoMap ℚ)
  other := ()

/-- An opening brace is rejected as group ratios; after that the group pays the full price, and
    pays it still when the options have been read from the table again. -/
theorem rejected_update_wipes_ratios :
    (updateOption noJson "GroupRatio" "\x7b" vipState).2 = some (.json .syntaxError) ∧
      getGroupRatio vipState "vip" = 4 / 5 ∧
      getGroupRatio (updateOption noJson "GroupRatio" "\x7b" vipState).1 "vip" = 1 ∧
      (updateOption noJson "GroupRatio" "\x7b" vipState).1.rows.find? "GroupRatio" =
        some ⟨"GroupRatio", "\x7b"⟩ ∧
      getGroupRatio (loadOptionsFromDatabase noJson
        (updateOption noJson "GroupRatio" "\x7b" vipState).1) "vip" = 1 := by
  decide +kernel

/-- A rule that is stored, and was rejected when it was stored, is rejected again. -/
theorem rejected_update_unchanged_foo :
    let st : OptionState Unit :=
      { vipState with
        rows := ⟨[⟨"AutomaticDisableStatusCodes", "foo"⟩], by decide⟩
        optionMap := fun _ => some "foo" }
    (updateOption noJson "AutomaticDisableStatusCodes" "foo" st).1 = st := by
  intro st
  have hload : (ParsedOption.load noJson.reader .automaticDisableStatusCodes
      (st.parsed .automaticDisableStatusCodes) "foo").2 =
        some (.statusCodes "invalid http status code rules: foo") := by
    decide
  have hforce : AlreadyInForce noJson st .automaticDisableStatusCodes "foo" :=
    ⟨by decide, rfl, ParsedOption.load_statusCodes_of_error (.inl rfl) hload⟩
  have herr : (updateOption noJson "AutomaticDisableStatusCodes" "foo" st).2 =
      some (.statusCodes "invalid http status code rules: foo") := by
    decide
  exact ((rejected_update_unchanged_iff noJson st).1 .automaticDisableStatusCodes "foo" _
    herr).mpr hforce

end TokenRouter
